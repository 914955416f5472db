import FirmwareSurvey.Proofs.Cache.History
import FirmwareSurvey.Proofs.Command.Own

/-!
# Stored results and reports

What `analyze` gives, compared with what a report in JSON on the same topic and image prints. The
two may differ, since a report depends on more than the image and the program: what is stored was
printed when the image and the program had the fingerprints of now, at the last run of the topic
that was stored (`analyze_surveyed`). So commands are followed together with the moments at which
results were stored (`Surveyed`).
-/

namespace FirmwareSurvey

open OnHost Storage Cache

/-! ### Moments and caches -/

namespace Moment

variable {m : Moment} {c : Cache}

theorem normal_name (topic : Topic) : TypeName.normal topic.name = topic.name := by
  cases topic <;> decide +kernel

theorem isPlainType_name (topic : Topic) : IsPlainType topic.name := by
  cases topic <;> exact ⟨by decide, by decide⟩

/-- Without scripts, the program makes the results. -/
theorem scriptOf_own (hc : c.locator = {}) {own : Path} (hown : m.host.ownProgram = .ok own)
    (type : String) : c.scriptOf m.host m.storage type = .ok ⟨own, .program⟩ := by
  rw [scriptOf, hc, Locator.locate, exec_bind_ok (exec_get _ _), exec_bind_ok (exec_read _ _), hown]
  rfl

end Moment

/-! ### Histories of commands -/

/-- Whether a report in JSON at a moment may be part of a history: it leaves the results directory
alone, and what it prints can be stored. -/
structure Moment.IsFair (m : Moment) (d : Path) : Prop where
  /-- The results directory is left alone. -/
  untouched : ∀ own c s, m.host.ownProgram = .ok own →
    m.host.run { program := own, arguments := m.commandLine } m.storage = .ok (c, s) →
      Untouched d m.storage s
  /-- What is printed can be stored. -/
  answers : ∀ v, m.printed? = some v → IsStorable v

/-- A call at a moment. -/
def Cache.History.callAt (h : Cache.History) (m : Moment) : Cache.History :=
  h.call m.host m.topic.name m.image m.run

/-- The moment, if the results of a call at it are stored. -/
def Cache.History.storedAt (h : Cache.History) (m : Moment) : List Moment :=
  (h.cache.newRuns m.host m.storage m.topic.name m.image m.run).map fun _ => m

/-- The histories of a results directory that is vacant at first and that only commands without a
directory of scripts change, with the moments at which results were stored, the last ones first. -/
inductive Surveyed (d : Path) : Cache.History → List Moment → Prop
  /-- There is no results directory. -/
  | start {c : Cache} {s : Storage} : c.layout.resultsDir = d → c.locator = {} → c.memory = [] →
      s.Vacant d → Surveyed d { cache := c, storage := s } []
  /-- Storage changes elsewhere. -/
  | change {h : Cache.History} {log : List Moment} {s : Storage} : Surveyed d h log →
      Untouched d h.storage s → Surveyed d { h with storage := s } log
  /-- Another command opens the results directory. -/
  | reopen {h : Cache.History} {log : List Moment} {c : Cache} : Surveyed d h log →
      c.layout.resultsDir = d → c.locator = {} → c.memory = [] →
      Surveyed d { h with cache := c } log
  /-- A command asks for results. -/
  | call {h : Cache.History} {log : List Moment} {m : Moment} : Surveyed d h log →
      m.storage = h.storage → m.IsPlain → m.IsFair d →
      Surveyed d (h.callAt m) (h.storedAt m ++ log)

variable {d : Path} {h : Cache.History} {log : List Moment} {m now : Moment}

/-- A fair moment makes a fair call. -/
theorem Moment.IsFair.call (hfair : m.IsFair d) (hm : m.IsPlain) {c : Cache}
    (hd : c.layout.resultsDir = d) (hc : c.locator = {}) :
    c.IsFair m.host m.storage m.topic.name m.image m.run := by
  obtain rfl := hd
  obtain ⟨own, -, hown, -⟩ := hm.own
  obtain ⟨c', s, hrun, hafter, -⟩ := exec_run hm hown
  have hscript := scriptOf_own (m := m) hc hown m.topic.name
  refine ⟨by rw [normal_name]; exact isPlainType_name _, fun script h => ?_,
    fun script v h hv => ?_⟩
  · cases hscript.symm.trans h
    rw [normal_name, hafter]
    exact hfair.untouched own c' s hown hrun
  · cases hscript.symm.trans h
    rw [normal_name] at hv
    exact hfair.answers v ((exec_run_eq_ok_iff hm hown).1 hv)

namespace Command

variable {o : Options} {host : Host} {s : Storage} {image : Path}

/-- The cache that a command opens. -/
def opened (config : Config) (host : Host) : Cache where
  layout := .ofConfig config host.currentDirectory
  locator := { scriptsDir := config.scriptsDir }

theorem path_openImage {img : Firmware.Image} (h : Firmware.openImage s image = .ok img) :
    img.path = image := by
  rw [Firmware.openImage] at h
  split at h
  · split at h
    · cases h
      rfl
    · cases h
  · cases h

theorem exec_resultsOf_cons (o : Options) (image : Path) (c : Cache) (type : String)
    (types : List String) (host : Host) (s : Storage) :
    exec (resultsOf o image c (type :: types)) host s =
      match exec (c.analyze type image (Script.run o.toArgs)) host s with
      | (.error e, s') => (.error (.results type e), s')
      | (.ok (w, c'), s') =>
        match exec (resultsOf o image c' types) host s' with
        | (.ok found, s'') => (.ok ((type, w) :: found), s'')
        | (.error e, s'') => (.error e, s'') := by
  rw [resultsOf]
  rcases hanalyze : exec (c.analyze type image (Script.run o.toArgs)) host s with
    ⟨e | ⟨w, c'⟩, s'⟩
  · exact exec_bind_error (exec_mapError_error hanalyze)
  · rw [exec_bind_ok (exec_mapError_ok hanalyze), exec_bind]
    dsimp only
    rcases exec (resultsOf o image c' types) host s' with ⟨e | found, s''⟩ <;> rfl

/-- **Results of one type are asked for once**, after the configuration and the image have been
looked at. -/
theorem exec_analyze {type : String} (htype : TypeName.normal type = m.topic.name) :
    exec (run m.options (.analyze type (some m.image))) m.host m.storage =
      match m.options.loadConfig m.storage m.host.configVariable,
        Firmware.openImage m.storage m.image with
      | .error e, _ => (.error (.config e), m.storage)
      | .ok _, .error e => (.error (.image e), m.storage)
      | .ok config, .ok _ =>
        match exec ((opened config m.host).analyze m.topic.name m.image m.run) m.host m.storage with
        | (.ok (w, _), s) => (.ok { output := w.pretty ++ "\n" }, s)
        | (.error e, s) => (.error (.results m.topic.name e), s) := by
  obtain ⟨host, s, o, topic, image⟩ := m
  -- a topic is never refused as a type
  have hknown : [topic.name].find? (fun type => (Topic.named? type).isNone) = none := by
    cases topic <;> rfl
  dsimp only at htype ⊢
  rw [run, runAnalyze, results, List.map_singleton, htype, hknown, exec_bind]
  dsimp only
  rw [exec_bind, exec_session]
  -- the configuration is loaded before the image is looked at, so its error goes first
  cases o.loadConfig s host.configVariable with
  | error e => rfl
  | ok config =>
    dsimp only
    have hconfig : (Session.ofConfig config host.currentDirectory).config = config := rfl
    have hresolve (workDir : Path) :
        exec (Firmware.resolve config workDir (some image)) host s =
          (Firmware.openImage s image, s) :=
      exec_resolve_some config workDir image host s
    rw [hconfig]
    cases himage : Firmware.openImage s image with
    | error e =>
      rw [himage] at hresolve
      rw [exec_bind_error (exec_mapError_error (hresolve _))]
    | ok img =>
      rw [himage] at hresolve
      obtain rfl := path_openImage himage
      have hcache : ({ layout := (Session.ofConfig config host.currentDirectory).layout
                       locator := { scriptsDir := config.scriptsDir } } : Cache) =
          opened config host := rfl
      rw [exec_bind_ok (exec_mapError_ok (hresolve _)), hcache, exec_resultsOf_cons]
      dsimp only [Moment.run]
      rcases exec ((opened config host).analyze topic.name img.path (Script.run o.toArgs)) host s
        with ⟨e | ⟨w, c⟩, s'⟩
      · rfl
      · simp [resultsOf, String.join]

end Command

/-! ### Results in store and reports -/

/-- Whether commands at a moment use a results directory and no directory of scripts. -/
def Moment.Uses (m : Moment) (d : Path) : Prop :=
  ∀ config, m.options.loadConfig m.storage m.host.configVariable = .ok config →
    config.scriptsDir = none ∧ m.host.currentDirectory.join config.resultsDir = d

/-- What a command for the results of a moment does, as a call of a cache that has just been
opened. -/
theorem Surveyed.opened (hr : Surveyed d h log) (huses : now.Uses d) {config : Config}
    (hconfig : now.options.loadConfig now.storage now.host.configVariable = .ok config) :
    Surveyed d { h with cache := Command.opened config now.host } log := by
  obtain ⟨hscripts, hdir⟩ := huses config hconfig
  refine hr.reopen hdir ?_ rfl
  rw [Command.opened, hscripts]

end FirmwareSurvey
