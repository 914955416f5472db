import FirmwareSurvey.Command.Arguments
import FirmwareSurvey.Config.Options
import FirmwareSurvey.Proofs.Members

/-!
# Options written as arguments

A program that starts itself writes its options as arguments. They are read as the same options
again when each value can stand as an argument of its own (`IsWord`), and it makes no difference
whether the image comes before or behind the format (`read_report`, `read_report_image_last`).
-/

namespace FirmwareSurvey

namespace CommandLine

/-- Whether a text can stand as an argument of its own: it is there and does not look like an
option. -/
def IsWord (text : String) : Prop := text ≠ "" ∧ Argument.ofText text = .word text

instance (text : String) : Decidable (IsWord text) := inferInstanceAs (Decidable (_ ∧ _))

end CommandLine

/-- Whether the values of options can stand as arguments of their own. -/
structure Options.AreWords (o : Options) : Prop where
  /-- The configuration file can. -/
  config : ∀ path, o.config = some path → CommandLine.IsWord path.text
  /-- The output directory can. -/
  outputDir : ∀ path, o.outputDir = some path → CommandLine.IsWord path.text
  /-- The work directory can. -/
  workDir : ∀ path, o.workDir = some path → CommandLine.IsWord path.text

namespace CommandLine

/-! ### Before the name of the command -/

/-- What stands at one side, with one more option if it has a value. -/
def Given.with (g : Given) (name : String) : Option Path → Given
  | none => g
  | some value => { g with options := g.options.put name value.text }

theorem Given.path?_with (g : Given) (name name' : String) (value : Option Path) :
    (g.with name value).path? name' =
      if name = name' then value.or (g.path? name') else g.path? name' := by
  cases value with
  | none => simp [Given.with]
  | some path =>
    by_cases h : name = name' <;> simp [Given.with, Given.path?, Members.get?_put, h]

theorem Given.has_with (g : Given) {name name' : String} (value : Option Path) (h : name ≠ name') :
    (g.with name value).options.has name' = g.options.has name' := by
  cases value with
  | none => rfl
  | some path => simp [Given.with, Members.has, Members.get?_put, h]

/-- The arguments of an option that is new are read as the option. -/
theorem readUpToWord_flagArgs {l : Level} {g : Given} (name : String) {value : Option Path}
    (hname : Argument.ofText ("--" ++ name) = .named name none)
    (hkind : l.options.get? name = some .path) (hnew : g.options.has name = false)
    (hvalue : ∀ path, value = some path → IsWord path.text) (rest : List String) :
    l.readUpToWord { given := g } (Options.flagArgs ("--" ++ name) value ++ rest) =
      l.readUpToWord { given := g.with name value } rest := by
  cases value with
  | none => rfl
  | some path =>
    obtain ⟨hthere, hword⟩ := hvalue path rfl
    have hhas : l.options.has name = true := by simp [Members.has, hkind]
    have htake : l.option g name path.text = .ok (g.with name (some path)) := by
      simp [Level.option, hkind, hnew, ValueKind.accepts, hthere, Given.with]
    simp [Options.flagArgs, Level.readUpToWord, Level.step, hname, hhas, hword, htake, Except.map]

/-- What options look like when they are read again. -/
def Given.ofOptions (o : Options) : Given :=
  ((({} : Given).with "config" o.config).with "output-dir" o.outputDir).with "work-dir" o.workDir

theorem shared_ofOptions (o : Options) : (Given.ofOptions o).shared = o := by
  have hnone : ∀ name, ({} : Given).path? name = none := fun _ => rfl
  simp [Given.shared, Given.ofOptions, Given.path?_with, hnone]

/-- **Options written as arguments are read up to the name of a command.** -/
theorem readUpToWord_toArgs {o : Options} (h : o.AreWords) {name : String}
    (hname : Argument.ofText name = .word name) (rest : List String) :
    before.readUpToWord {} (o.toArgs ++ name :: rest) = .ok (Given.ofOptions o, name, rest) := by
  have hconfig := readUpToWord_flagArgs (l := before) (g := {}) "config" (by decide)
    rfl rfl h.config (Options.flagArgs "--output-dir" o.outputDir ++
      (Options.flagArgs "--work-dir" o.workDir ++ name :: rest))
  have hnone : ∀ name, ({} : Given).options.has name = false := fun _ => rfl
  have hout := readUpToWord_flagArgs (l := before) (g := ({} : Given).with "config" o.config)
    "output-dir" (by decide) rfl
    (by rw [Given.has_with _ _ (by decide), hnone]) h.outputDir
    (Options.flagArgs "--work-dir" o.workDir ++ name :: rest)
  have hwork := readUpToWord_flagArgs (l := before)
    (g := (({} : Given).with "config" o.config).with "output-dir" o.outputDir)
    "work-dir" (by decide) rfl
    (by rw [Given.has_with _ _ (by decide), Given.has_with _ _ (by decide), hnone]) h.workDir
    (name :: rest)
  have hend : ∀ g : Given, before.readUpToWord { given := g } (name :: rest) =
      .ok (g, name, rest) := fun g => by
    simp [Level.readUpToWord, hname]
  rw [Options.toArgs, List.append_assoc, List.append_assoc]
  exact hconfig.trans (hout.trans (hwork.trans (hend _)))

/-! ### Reports in JSON -/

/-- What stands behind the name of a topic for a report in JSON on an image. -/
def Given.inJson (image : Path) : Given :=
  { options := [("format", "json")], words := [image.text] }

/-- What may stand behind the name of a topic. -/
def behindTopic : Level where
  options := sharedOptions ++ [("format", .format), ("out", .path)]
  flags := ["verbose"]
  words := [.path]

theorem behind?_name (topic : Topic) : behind? topic.name = some behindTopic := by
  cases topic <;> rfl

theorem command?_inJson (topic : Topic) (image : Path) :
    (Given.inJson image).command? topic.name = some (.report topic (some image) .json none) := by
  cases topic <;> rfl

variable {o : Options} {image : Path}

/-- A command line whose end is read as that of a report in JSON asks for the report. -/
theorem read_of_read_inJson (ho : o.AreWords) (topic : Topic) {rest : List String}
    (h : behindTopic.read {} rest = .ok (Given.inJson image)) :
    read (o.toArgs ++ topic.name :: rest) =
      .ok ⟨o, .report topic (some image) .json none⟩ := by
  have hname : Argument.ofText topic.name = .word topic.name := by
    cases topic <;> decide
  have hhelp : (topic.name == "help") = false := by
    cases topic <;> decide
  have hmerge : merge o (Given.inJson image).shared = o := by
    simp [merge, Given.inJson, Given.shared, Given.path?, Members.get?]
  simp only [read, readUpToWord_toArgs ho hname, bind, Except.bind, hhelp, behind?_name]
  simp [h, command?_inJson, shared_ofOptions, hmerge]

theorem step_image {g : Given} (hwords : g.words = []) (himage : IsWord image.text) :
    behindTopic.step { given := g } image.text =
      .ok { given := { g with words := [image.text] } } := by
  have hkind : behindTopic.words[0]? = some ValueKind.path := rfl
  simp [Level.step, Level.word, himage.2, himage.1, hwords, hkind, ValueKind.accepts, Except.map]

theorem step_format (g : Given) :
    behindTopic.step { given := g } "--format" =
      .ok { given := g, pending := some "format" } := by
  have hname : Argument.ofText "--format" = .named "format" none := by decide
  have hhas : behindTopic.options.has "format" = true := rfl
  simp [Level.step, hname, hhas]

theorem step_json {g : Given} (hoptions : g.options = []) :
    behindTopic.step { given := g, pending := some "format" } "json" =
      .ok { given := { g with options := [("format", "json")] } } := by
  have hword : Argument.ofText "json" = .word "json" := by decide
  have hkind : behindTopic.options.get? "format" = some .format := rfl
  have haccepts : ValueKind.format.accepts "json" = true := rfl
  simp [Level.step, Level.option, hword, hkind, haccepts, hoptions, Members.has, Members.put,
    Except.map]

/-- **A report in JSON on an image**, the format behind the image. -/
theorem read_report (ho : o.AreWords) (topic : Topic) (himage : IsWord image.text) :
    read (o.toArgs ++ [topic.name, image.text, "--format", "json"]) =
      .ok ⟨o, .report topic (some image) .json none⟩ := by
  refine read_of_read_inJson ho topic ?_
  simp [Level.read, step_image, step_format, step_json, himage, Given.inJson]

/-- **A report in JSON on an image**, the format before the image. -/
theorem read_report_image_last (ho : o.AreWords) (topic : Topic) (himage : IsWord image.text) :
    read (o.toArgs ++ [topic.name, "--format", "json", image.text]) =
      .ok ⟨o, .report topic (some image) .json none⟩ := by
  refine read_of_read_inJson ho topic ?_
  simp [Level.read, step_image, step_format, step_json, himage, Given.inJson]

end CommandLine

end FirmwareSurvey
