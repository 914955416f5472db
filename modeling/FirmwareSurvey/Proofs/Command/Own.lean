import FirmwareSurvey.Command.Own
import FirmwareSurvey.Proofs.Cache.Call
import FirmwareSurvey.Proofs.Command.Arguments
import FirmwareSurvey.Proofs.Storage.Opened

/-!
# The program as what makes results

Without a directory of scripts, results are made by the program itself, which is started once more
and asked for a report in JSON. What is made is what a report in JSON on the same image, asked for
with the same options at the same moment, prints (`exec_run_eq_ok_iff`).
-/

namespace FirmwareSurvey

open OnHost

/-- Whether what a host starts as the survey's own program is the program, on a host with the same
environment. -/
def Host.StartsOwn (host : Host) : Prop :=
  ∃ own inner, host.ownProgram = .ok own ∧ inner.configVariable = host.configVariable ∧
    ∀ arguments s, host.run { program := own, arguments } s =
      .ok (CommandLine.program inner arguments .empty s)

theorem Program.start_own {own : Path} {i : Invocation} (h : i.program = own) (self : Program)
    (depth : Nat) (s : Storage) :
    start own self (depth + 1) i s = .ok (self i.arguments i.input s) := by
  rw [start]
  exact if_pos h

/-- **The standard host starts the program itself.** -/
theorem CommandLine.startsOwn_ownHost (setting : Setting) : (ownHost setting).StartsOwn := by
  obtain ⟨depth, hdepth⟩ : ∃ depth, Program.startingDepth = depth + 1 := ⟨15, rfl⟩
  refine ⟨setting.own, .standard setting.own (programWithin setting depth) setting.configVariable
    setting.currentDirectory setting.now, rfl, rfl, fun arguments s => ?_⟩
  rw [ownHost, hdepth, programWithin, Host.standard, hdepth]
  exact Program.start_own rfl _ depth s

/-- The JSON that a program printed which ended well. -/
def Completion.json? (c : Completion) : Option Json :=
  if c.status.isSuccess then (String.fromUTF8? c.output).bind Json.parse? else none

/-- The JSON that the survey's own program prints when a host starts it, if it ends well. -/
def Host.printed? (host : Host) (s : Storage) (arguments : List String) : Option Json :=
  match host.ownProgram with
  | .ok own =>
    match host.run { program := own, arguments } s with
    | .ok (c, _) => c.json?
    | .error _ => none
  | .error _ => none

/-- A moment at which results are asked for. -/
structure Moment where
  /-- The host. -/
  host : Host
  /-- Storage at the time. -/
  storage : Storage
  /-- The options of every command. -/
  options : Options
  /-- What is looked into. -/
  topic : Topic
  /-- The image. -/
  image : Path

namespace Moment

/-- The command line for a report in JSON. -/
def commandLine (m : Moment) : List String :=
  m.options.toArgs ++ [m.topic.name, m.image.text, "--format", "json"]

/-- The results that a report in JSON prints at a moment, if there is one. -/
def printed? (m : Moment) : Option Json := m.host.printed? m.storage m.commandLine

/-- What results are made from at a moment, as far as fingerprints tell. -/
def key? (m : Moment) : Option Cache.Key :=
  match m.host.ownProgram with
  | .ok own => (Cache.keyIn m.storage m.topic.name m.image own).toOption
  | .error _ => none

/-- What makes results at a moment. -/
def run (m : Moment) : Cache.Runner := Cache.Script.run m.options.toArgs

/-- Whether a moment is one of a host that starts the program itself, and its options and image can
stand as arguments of their own. -/
structure IsPlain (m : Moment) : Prop where
  /-- The host starts the program. -/
  own : m.host.StartsOwn
  /-- The options can stand. -/
  options : m.options.AreWords
  /-- The image can. -/
  image : CommandLine.IsWord m.image.text

end Moment

/-! ### Reports in JSON -/

namespace Command

variable {o : Options} {host : Host} {s : Storage} {image : Path}

theorem exec_session (o : Options) (host : Host) (s : Storage) :
    exec (session o) host s =
      match o.loadConfig s host.configVariable with
      | .ok config => (.ok (.ofConfig config host.currentDirectory), s)
      | .error e => (.error (.config e), s) := by
  rw [session, exec_bind_ok (exec_read _ _), exec_bind, exec_tryLook]
  cases o.loadConfig s host.configVariable <;> rfl

/-- An image that is given is opened where it is. -/
theorem exec_resolve_some (config : Config) (workDir image : Path) (host : Host) (s : Storage) :
    exec (Firmware.resolve config workDir (some image)) host s =
      (Firmware.openImage s image, s) := by
  rw [Firmware.resolve, exec_tryLook]
  cases Firmware.openImage s image <;> rfl

end Command

/-! ### Starting the program -/

theorem CommandLine.program_congr {host : Host} {arguments arguments' : List String}
    (h : read arguments = read arguments') (input : ByteArray) (s : Storage) :
    program host arguments input s = program host arguments' input s := by
  simp only [program, h]

variable {m : Moment}

/-- What makes results does what a report in JSON does, and makes what it prints. -/
theorem Moment.exec_run (hm : m.IsPlain) {own : Path} (hown : m.host.ownProgram = .ok own) :
    ∃ c s, m.host.run { program := own, arguments := m.commandLine } m.storage = .ok (c, s) ∧
      (exec (m.run m.topic.name ⟨own, .program⟩ m.image) m.host m.storage).2 = s ∧
      ∀ v, (exec (m.run m.topic.name ⟨own, .program⟩ m.image) m.host m.storage).1 = .ok v ↔
        c.json? = some v := by
  obtain ⟨own', inner, hown', -, hrun⟩ := hm.own
  cases hown.symm.trans hown'
  have hread : CommandLine.read
      (m.options.toArgs ++ [m.topic.name, "--format", "json", m.image.text]) =
        CommandLine.read m.commandLine :=
    (CommandLine.read_report_image_last hm.options m.topic hm.image).trans
      (CommandLine.read_report hm.options m.topic hm.image).symm
  have hstart : m.host.run (Cache.Script.invocation ⟨own, .program⟩ m.options.toArgs m.topic.name
      m.image) m.storage = .ok (CommandLine.program inner m.commandLine .empty m.storage) :=
    (hrun _ _).trans (congrArg Except.ok (CommandLine.program_congr hread _ _))
  rw [run, Cache.Script.run, exec_bind, exec_runProgram, hstart, hrun]
  rcases CommandLine.program inner m.commandLine .empty m.storage with ⟨c, s⟩
  refine ⟨c, s, rfl, ?_⟩
  by_cases hc : c.status.isSuccess = true
  · cases hjson : (String.fromUTF8? c.output).bind Json.parse? <;>
      simp [Completion.json?, hc, hjson]
  · simp [Completion.json?, hc]

/-- **What makes results makes what a report in JSON prints.** -/
theorem Moment.exec_run_eq_ok_iff (hm : m.IsPlain) {own : Path}
    (hown : m.host.ownProgram = .ok own) {v : Json} :
    (exec (m.run m.topic.name ⟨own, .program⟩ m.image) m.host m.storage).1 = .ok v ↔
      m.printed? = some v := by
  obtain ⟨c, s, hrun, -, hjson⟩ := exec_run hm hown
  simp only [printed?, Host.printed?, hown, hrun]
  exact hjson v

end FirmwareSurvey
