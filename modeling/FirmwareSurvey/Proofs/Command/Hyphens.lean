import FirmwareSurvey.Cache.Basic
import FirmwareSurvey.Proofs.Command.Arguments

/-!
# Values that look like options

A program that starts itself writes every value of its options as an argument of its own, and the
image as a word. An argument that begins with a hyphen and goes on is taken for an option there,
while on a command line the same value may stand behind an equals sign. So the second run is given
the same options and the same image exactly when none of them looks like an option
(`read_invocation_iff`).

That no value is empty comes from the first command line: whatever it reads as the value of an
option fits the kind of the option, step by step (`Level.Fits`). What one step can add is told once
(`Level.Adds`).
-/

namespace FirmwareSurvey

/-- The values of options. -/
def Options.values (o : Options) : List String :=
  (o.config.toList ++ o.outputDir.toList ++ o.workDir.toList).map Path.text

namespace CommandLine

/-- Whether a text looks like an option: it is a hyphen with something behind it. -/
def looksLikeOption (text : String) : Bool :=
  match text.toList with
  | '-' :: _ :: _ => true
  | _ => false

theorem ofText_eq_word_iff {text text' : String} :
    Argument.ofText text = .word text' ↔ text' = text ∧ looksLikeOption text = false := by
  rw [Argument.ofText, looksLikeOption]
  split
  · rename_i h
    simp [h]
  · rename_i cs _ h
    rw [h]
    split <;> simp
  · rename_i c cs _ h
    simp [h]
  · rename_i hno
    split
    · rename_i c cs h
      exact absurd h (hno c cs)
    · simp [eq_comm]

theorem isWord_iff {text : String} : IsWord text ↔ text ≠ "" ∧ looksLikeOption text = false := by
  rw [IsWord, ofText_eq_word_iff]
  simp

end CommandLine

theorem Options.areWords_iff {o : Options} :
    o.AreWords ↔ ∀ text ∈ o.values, CommandLine.IsWord text := by
  simp only [values, List.mem_map, List.mem_append, Option.mem_toList]
  constructor
  · rintro h _ ⟨path, (hpath | hpath) | hpath, rfl⟩
    · exact h.config path hpath
    · exact h.outputDir path hpath
    · exact h.workDir path hpath
  · exact fun h => ⟨fun path hpath => h _ ⟨path, .inl (.inl hpath), rfl⟩,
      fun path hpath => h _ ⟨path, .inl (.inr hpath), rfl⟩,
      fun path hpath => h _ ⟨path, .inr hpath, rfl⟩⟩

namespace CommandLine

variable {l : Level} {g g' : Given}

/-! ### What an argument adds -/

/-- What stands at a side of a command line once an argument was taken there. -/
inductive Level.Adds (l : Level) (r : Level.Reading) (argument : String) : Given → Prop where
  /-- An option by its name, or two hyphens: nothing yet. -/
  | nothing : l.Adds r argument r.given
  /-- A value that fits its option. -/
  | value {name value : String} {kind : ValueKind} (known : l.options.get? name = some kind)
      (fits : kind.accepts value = true) :
      l.Adds r argument { r.given with options := r.given.options.put name value }
  /-- Options without a value. -/
  | flags (flags : List String) : l.Adds r argument { r.given with flags := flags }
  /-- A word, which the argument itself is. -/
  | word (stands : r.wordsOnly = true ∨ Argument.ofText argument = .word argument) :
      l.Adds r argument { r.given with words := r.given.words ++ [argument] }

theorem Level.exists_of_option {name value : String} (h : l.option g name value = .ok g') :
    ∃ kind, l.options.get? name = some kind ∧ kind.accepts value = true ∧
      g' = { g with options := g.options.put name value } := by
  rw [Level.option] at h
  split at h
  · cases h
  · rename_i kind hkind
    split at h
    · cases h
    · rename_i hfits
      simp only [Bool.or_eq_true, Bool.not_eq_true', not_or, Bool.not_eq_false] at hfits
      exact ⟨kind, hkind, hfits.2, (Except.ok.inj h).symm⟩

theorem Level.exists_of_flag {name : String} (h : l.flag g name = .ok g') :
    ∃ flags, g' = { g with flags } := by
  rw [Level.flag] at h
  split at h
  · cases h
  · split at h
    · cases h
    · split at h
      · exact ⟨_, (Except.ok.inj h).symm⟩
      · cases h

theorem Level.exists_of_letters : ∀ {cs : List Char} {g g' : Given}, l.letters g cs = .ok g' →
    ∃ flags, g' = { g with flags }
  | [], g, _, h => ⟨g.flags, (Except.ok.inj h).symm⟩
  | c :: cs, g, g', h => by
    rw [Level.letters] at h
    split at h
    · rename_i first hfirst
      obtain ⟨_, rfl⟩ := exists_of_flag hfirst
      obtain ⟨flags, rfl⟩ := exists_of_letters h
      exact ⟨flags, rfl⟩
    · cases h

theorem Level.eq_of_word {text : String} (h : l.word g text = .ok g') :
    g' = { g with words := g.words ++ [text] } := by
  rw [Level.word] at h
  split at h
  · cases h
  · split at h
    · exact (Except.ok.inj h).symm
    · cases h

theorem exists_of_map_ok {α β : Type} {x : Except Halt α} {f : α → β} {b : β}
    (h : x.map f = .ok b) : ∃ a, x = .ok a ∧ f a = b := by
  cases x with
  | error e => cases h
  | ok a => exact ⟨a, rfl, Except.ok.inj h⟩

/-- **An argument adds a value that fits, options without one, a word, or nothing.** -/
theorem Level.adds_of_step {r r' : Level.Reading} {argument : String}
    (h : l.step r argument = .ok r') : l.Adds r argument r'.given := by
  rw [Level.step] at h
  dsimp only at h
  split at h
  · rename_i honly
    obtain ⟨g', hg, rfl⟩ := exists_of_map_ok h
    obtain rfl := eq_of_word hg
    exact .word (.inl honly)
  · split at h
    · obtain ⟨g', hg, rfl⟩ := exists_of_map_ok h
      obtain ⟨kind, hkind, hfits, rfl⟩ := exists_of_option hg
      exact .value hkind hfits
    · cases h
    · rename_i hword _
      obtain ⟨g', hg, rfl⟩ := exists_of_map_ok h
      obtain rfl := eq_of_word hg
      obtain rfl := (ofText_eq_word_iff.1 hword).1
      exact .word (.inr hword)
    · cases h
      exact .nothing
    · obtain ⟨g', hg, rfl⟩ := exists_of_map_ok h
      obtain ⟨kind, hkind, hfits, rfl⟩ := exists_of_option hg
      exact .value hkind hfits
    · split at h
      · cases h
        exact .nothing
      · obtain ⟨g', hg, rfl⟩ := exists_of_map_ok h
        obtain ⟨flags, rfl⟩ := exists_of_flag hg
        exact .flags flags
    · obtain ⟨g', hg, rfl⟩ := exists_of_map_ok h
      obtain ⟨flags, rfl⟩ := exists_of_letters hg
      exact .flags flags

/-! ### Values that were read -/

/-- Whether every value that is given fits the kind of its option. -/
def Level.Fits (l : Level) (g : Given) : Prop :=
  ∀ name value, g.options.get? name = some value →
    ∃ kind, l.options.get? name = some kind ∧ kind.accepts value = true

theorem Level.fits_empty (l : Level) : l.Fits {} := by
  intro name value h
  cases h

/-- **What an argument leaves fits**, whatever it is taken for. -/
theorem Level.Fits.step {r r' : Level.Reading} {argument : String} (hr : l.Fits r.given)
    (h : l.step r argument = .ok r') : l.Fits r'.given := by
  have hadds := adds_of_step h
  generalize r'.given = g' at hadds ⊢
  cases hadds with
  | nothing => exact hr
  | flags flags => exact hr
  | word stands => exact hr
  | @value name value kind known fits =>
    intro other value' hother
    simp only [Members.get?_put] at hother
    split at hother
    · rename_i hname
      cases hother
      exact ⟨kind, hname ▸ known, fits⟩
    · exact hr other value' hother

theorem Level.Fits.read : ∀ {arguments : List String} {r : Level.Reading}, l.Fits r.given →
    l.read r arguments = .ok g → l.Fits g
  | [], r, hr, h => by
    rw [Level.read] at h
    split at h
    · cases h
    · cases h
      exact hr
  | a :: rest, r, hr, h => by
    rw [Level.read] at h
    split at h
    · rename_i r' hstep
      exact (hr.step hstep).read h
    · cases h

theorem Level.Fits.readUpToWord {name : String} {rest : List String} :
    ∀ {arguments : List String} {r : Level.Reading}, l.Fits r.given →
      l.readUpToWord r arguments = .ok (g, name, rest) → l.Fits g
  | [], r, hr, h => by cases h
  | a :: arguments, r, hr, h => by
    rw [Level.readUpToWord] at h
    split at h
    · cases h
      exact hr
    · split at h
      · rename_i r' hstep
        exact (hr.step hstep).readUpToWord h
      · cases h

/-- The options of every command may stand behind any name. -/
theorem options_of_behind? {name : String} {level : Level} (h : behind? name = some level) :
    ∃ own, level.options = sharedOptions ++ own := by
  simp only [behind?] at h
  split at h
  · cases h
    exact ⟨_, rfl⟩
  · split at h
    · cases h
      exact ⟨_, rfl⟩
    · split at h
      · cases h
        exact ⟨_, rfl⟩
      · obtain ⟨topic, -, rfl⟩ := Option.map_eq_some_iff.1 h
        exact ⟨_, rfl⟩

/-- Paths that fit are not empty. -/
theorem Level.Fits.path?_ne {own : Members ValueKind} (hg : l.Fits g)
    (hl : l.options = sharedOptions ++ own) {name : String}
    (hname : sharedOptions.get? name = some .path) {path : Path} (h : g.path? name = some path) :
    path.text ≠ "" := by
  obtain ⟨value, hvalue, rfl⟩ := Option.map_eq_some_iff.1 h
  obtain ⟨kind, hkind, haccepts⟩ := hg name value hvalue
  rw [hl, Members.get?_append, hname] at hkind
  cases hkind
  simpa [ValueKind.accepts] using haccepts

/-- **No option of a command line has an empty value.** -/
theorem ne_of_mem_values {arguments : List String} {line : CommandLine}
    (h : read arguments = .ok line) : ∀ text ∈ line.options.values, text ≠ "" := by
  rw [read] at h
  cases hfirst : before.readUpToWord {} arguments with
  | error e =>
    rw [hfirst] at h
    cases h
  | ok first =>
    obtain ⟨first, name, rest⟩ := first
    simp only [hfirst, bind, Except.bind] at h
    split at h
    · cases h
    · split at h
      · cases h
      · rename_i level hlevel
        cases hsecond : level.read {} rest with
        | error e =>
          rw [hsecond] at h
          cases h
        | ok second =>
          simp only [hsecond] at h
          split at h
          · cases h
          · cases h
            have hshared : before.options = sharedOptions ++ [] := by rfl
            obtain ⟨own, hown⟩ := options_of_behind? hlevel
            have hbefore : before.Fits first := (before.fits_empty).readUpToWord hfirst
            have hbehind : level.Fits second := (level.fits_empty).read hsecond
            -- a value is that of one of the two sides
            have hside : ∀ {name path}, sharedOptions.get? name = some .path →
                (second.path? name).or (first.path? name) = some path → path.text ≠ "" := by
              intro name path hname hpath
              rcases Option.or_eq_some_iff.1 hpath with hpath | ⟨-, hpath⟩
              · exact hbehind.path?_ne hown hname hpath
              · exact hbefore.path?_ne hshared hname hpath
            simp only [Options.values, List.mem_map, List.mem_append, Option.mem_toList]
            rintro _ ⟨path, (hpath | hpath) | hpath, rfl⟩
            · exact hside (by rfl) hpath
            · exact hside (by rfl) hpath
            · exact hside (by rfl) hpath

/-! ### Arguments that are no words -/

/-- What cannot stand as an argument of its own is empty, or it is taken for something else. -/
theorem eq_empty_or_of_not_isWord {text : String} (h : ¬IsWord text) :
    text = "" ∨ ∀ text', Argument.ofText text ≠ .word text' := by
  rw [isWord_iff] at h
  by_cases hempty : text = ""
  · exact .inl hempty
  · exact .inr fun text' hword => h ⟨hempty, (ofText_eq_word_iff.1 hword).2⟩

/-- A value that is no word is not taken. -/
theorem readUpToWord_flagArgs_error (g : Given) (name : String) {value : Option Path}
    (hname : Argument.ofText ("--" ++ name) = .named name none)
    (hkind : l.options.get? name = some .path)
    (hvalue : ¬∀ path, value = some path → IsWord path.text) (rest : List String) :
    l.readUpToWord { given := g } (Options.flagArgs ("--" ++ name) value ++ rest) =
      .error .misuse := by
  cases value with
  | none => exact absurd (fun _ h => by cases h) hvalue
  | some path =>
    have hno : ¬IsWord path.text := fun hword => hvalue fun _ h => by cases h; exact hword
    have hhas : l.options.has name = true := by simp [Members.has, hkind]
    have hflag : l.step { given := g } ("--" ++ name) =
        .ok { given := g, pending := some name } := by
      simp [Level.step, hname, hhas]
    have hrefused : l.step { given := g, pending := some name } path.text = .error .misuse := by
      rcases eq_empty_or_of_not_isWord hno with hempty | hno
      · have hword : Argument.ofText "" = .word "" := by decide
        simp [Level.step, Level.option, hempty, hword, hkind, ValueKind.accepts, Except.map]
      · cases hargument : Argument.ofText path.text with
        | word text => exact absurd hargument (hno text)
        | _ => simp [Level.step, hargument]
    simp [Options.flagArgs, Level.readUpToWord, hname, hflag, hrefused]

/-- **Options with a value that is no word are not read again.** -/
theorem readUpToWord_toArgs_error {o : Options} (h : ¬o.AreWords) (rest : List String) :
    before.readUpToWord {} (o.toArgs ++ rest) = .error .misuse := by
  have hnone : ∀ name, ({} : Given).options.has name = false := fun _ => rfl
  rw [Options.toArgs, List.append_assoc, List.append_assoc]
  by_cases hconfig : ∀ path, o.config = some path → IsWord path.text
  · refine (readUpToWord_flagArgs (l := before) (g := {}) "config" (by decide) rfl rfl hconfig
      _).trans ?_
    by_cases hout : ∀ path, o.outputDir = some path → IsWord path.text
    · refine (readUpToWord_flagArgs "output-dir" (by decide) rfl
        (by rw [Given.has_with _ _ (by decide), hnone]) hout _).trans ?_
      exact readUpToWord_flagArgs_error _ "work-dir" (by decide) rfl
        (fun hwork => h ⟨hconfig, hout, hwork⟩) rest
    · exact readUpToWord_flagArgs_error _ "output-dir" (by decide) rfl hout _
  · exact readUpToWord_flagArgs_error {} "config" (by decide) rfl hconfig _

/-- **What is no word gives no word**, but an option of its own, or it is refused. -/
theorem words_step {r r' : Level.Reading} {argument : String} (hr : r.wordsOnly = false)
    (hargument : ∀ text, Argument.ofText argument ≠ .word text)
    (h : l.step r argument = .ok r') : r'.given.words = r.given.words := by
  have hadds := Level.adds_of_step h
  generalize r'.given = g' at hadds ⊢
  cases hadds with
  | nothing => rfl
  | value known fits => rfl
  | flags flags => rfl
  | word stands =>
    obtain honly | hword := stands
    · simp [hr] at honly
    · exact absurd hword (hargument argument)

/-! ### The second run -/

variable {o : Options} {image : Path}

theorem command?_topic (topic : Topic) (g : Given) :
    g.command? topic.name = some (.report topic (g.words.head?.map Path.mk)
      (((g.options.get? "format").bind Format.named?).getD .toml) (g.path? "out")) := by
  cases topic <;> rfl

/-- Behind options that are read, the name of a topic makes a report. -/
theorem read_toArgs_topic (ho : o.AreWords) (topic : Topic) {rest : List String}
    {line : CommandLine} (h : read (o.toArgs ++ topic.name :: rest) = .ok line) :
    ∃ second, behindTopic.read {} rest = .ok second ∧
      second.command? topic.name = some line.command := by
  have hname : Argument.ofText topic.name = .word topic.name := by
    cases topic <;> decide
  have hhelp : (topic.name == "help") = false := by
    cases topic <;> decide
  simp only [read, readUpToWord_toArgs ho hname, bind, Except.bind, hhelp, behind?_name] at h
  cases hsecond : behindTopic.read {} rest with
  | error e => simp [hsecond] at h
  | ok second =>
    refine ⟨second, rfl, ?_⟩
    simp only [hsecond, command?_topic, Bool.false_eq_true, if_false, Except.ok.injEq] at h
    rw [command?_topic, ← h]

/-- An image that is no word is not the image of the report. -/
theorem isWord_of_read_inJson {second : Given} {topic : Topic} {out : Option Path}
    {format : Format} (h : behindTopic.read {} ["--format", "json", image.text] = .ok second)
    (hcommand : second.command? topic.name = some (.report topic (some image) format out)) :
    IsWord image.text := by
  have hwords : second.words.head? = some image.text := by
    rw [command?_topic] at hcommand
    simp only [Option.some.injEq, Command.report.injEq, true_and] at hcommand
    obtain ⟨text, htext, himage⟩ := Option.map_eq_some_iff.1 hcommand.1
    rw [htext, ← himage]
  simp only [Level.read, step_format, step_json] at h
  split at h
  · rename_i r hstep
    split at h
    · cases h
    · cases h
      refine Decidable.byContradiction fun hno => ?_
      rcases eq_empty_or_of_not_isWord hno with hempty | hno
      · have hword : Argument.ofText "" = .word "" := by decide
        have hkind : behindTopic.words[0]? = some ValueKind.path := rfl
        rw [hempty] at hstep
        simp [Level.step, hword, Level.word, hkind, ValueKind.accepts, Except.map] at hstep
      · rw [words_step rfl hno hstep] at hwords
        cases hwords
  · cases h

/-- **The options and the image are the same to the second run exactly when all of them are
words.** -/
theorem read_toArgs_inJson_iff (topic : Topic) :
    read (o.toArgs ++ [topic.name, "--format", "json", image.text]) =
        .ok ⟨o, .report topic (some image) .json none⟩ ↔
      o.AreWords ∧ IsWord image.text := by
  refine ⟨fun h => ?_, fun ⟨ho, himage⟩ => read_report_image_last ho topic himage⟩
  have ho : o.AreWords := by
    refine Classical.byContradiction fun hno => ?_
    simp [read, readUpToWord_toArgs_error hno, bind, Except.bind] at h
  obtain ⟨second, hsecond, hcommand⟩ := read_toArgs_topic ho topic h
  exact ⟨ho, isWord_of_read_inJson hsecond hcommand⟩

/-- **A program that starts itself keeps its options and its image exactly when none of them looks
like an option.** -/
theorem read_invocation_iff {arguments : List String} {line : CommandLine}
    (h : read arguments = .ok line) (own : Path) (topic : Topic) {image : Path}
    (himage : image.text ≠ "") :
    read (({ path := own, kind := .program } : Cache.Script).invocation line.options.toArgs
        topic.name image).arguments = .ok ⟨line.options, .report topic (some image) .json none⟩ ↔
      ∀ text ∈ image.text :: line.options.values, looksLikeOption text = false := by
  have hvalues := ne_of_mem_values h
  rw [Cache.Script.invocation, read_toArgs_inJson_iff, Options.areWords_iff, isWord_iff,
    List.forall_mem_cons]
  constructor
  · rintro ⟨hwords, -, hlooks⟩
    exact ⟨hlooks, fun text htext => (isWord_iff.1 (hwords text htext)).2⟩
  · rintro ⟨hlooks, hvalue⟩
    exact ⟨fun text htext => isWord_iff.2 ⟨hvalues text htext, hvalue text htext⟩, himage, hlooks⟩

/-- A directory with a hyphen in its name, but not as the first of it. -/
theorem read_invocation_plainDir :
    read (({ path := ⟨"fwprobe"⟩, kind := .program } : Cache.Script).invocation
        (Options.toArgs { outputDir := some ⟨"a-x"⟩ }) "uboot" ⟨"-"⟩).arguments =
      .ok ⟨{ outputDir := some ⟨"a-x"⟩ }, .report .uboot (some ⟨"-"⟩) .json none⟩ := by
  have hgiven : read ["--output-dir=a-x", "analyze", "uboot", "-"] =
      .ok ⟨{ outputDir := some ⟨"a-x"⟩ }, .analyze "uboot" (some ⟨"-"⟩)⟩ := rfl
  exact (read_invocation_iff hgiven ⟨"fwprobe"⟩ .uboot (by decide)).2 (by decide)

/-- **A directory that looks like an option is refused by the second run**, and an image that does
is taken for an option there: the second run is then given no image. -/
theorem not_keeps_hyphens :
    (read ["--output-dir=-x", "analyze", "uboot", "image"] =
        .ok ⟨{ outputDir := some ⟨"-x"⟩ }, .analyze "uboot" (some ⟨"image"⟩)⟩ ∧
      read (({ path := ⟨"fwprobe"⟩, kind := .program } : Cache.Script).invocation
        (Options.toArgs { outputDir := some ⟨"-x"⟩ }) "uboot" ⟨"image"⟩).arguments =
          .error .misuse) ∧
    read ["analyze", "uboot", "--", "-v"] = .ok ⟨{}, .analyze "uboot" (some ⟨"-v"⟩)⟩ ∧
      read (({ path := ⟨"fwprobe"⟩, kind := .program } : Cache.Script).invocation
        (Options.toArgs {}) "uboot" ⟨"-v"⟩).arguments = .ok ⟨{}, .report .uboot none .json none⟩ :=
  ⟨⟨rfl, rfl⟩, rfl, rfl⟩

end CommandLine

end FirmwareSurvey
