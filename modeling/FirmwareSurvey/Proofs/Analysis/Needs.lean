import FirmwareSurvey.Analysis.Session
import FirmwareSurvey.Proofs.Host.Exec

/-!
# What a topic needs is prepared

A topic says beforehand what has to be prepared for it, and asks for it when it is looked into; the
two are written down apart. Looking into a topic fails for want of something in one case only: when
the first thing it asks for that is not there is this one (`analyze_notPrepared_iff`). All that a
topic asks for it requires (`asks_of_mem_demands`), and a session prepares what is required or fails
in another way, so that a session's run never fails for want of something (`run_ne_notPrepared`).
-/

namespace FirmwareSurvey

open Analysis OnHost

variable {c : Context} {host : Host} {storage storage' : Storage} {need : Need}

/-- Whether something has to be prepared. -/
def Requirements.asks (r : Requirements) : Need → Bool
  | .extraction => r.extraction
  | .offsets => r.offsets

/-- What is asked for when a topic is looked into, in order. -/
def Topic.demands : Topic → List Need
  | .binwalk => []
  | .bootProcess => [.offsets]
  | .deviceTrees => [.extraction]
  | .networkServices => [.extraction]
  | .partitions => [.offsets]
  | .proprietaryBlobs => [.extraction]
  | .rootfs => [.extraction]
  | .secureBoot => [.extraction, .offsets]
  | .uboot => [.offsets]

/-- **A topic requires all that it asks for.** -/
theorem Topic.asks_of_mem_demands (t : Topic) :
    ∀ need ∈ t.demands, t.requirements.asks need = true := by
  cases t <;> decide

namespace Analysis

/-- Whether an error is another one than that something was not prepared. -/
def Error.IsOther (e : Error) : Prop := ∀ topic need, e ≠ .notPrepared topic need

namespace Context

/-- Whether something was prepared. -/
def has (c : Context) : Need → Bool
  | .extraction => c.extraction.isSome
  | .offsets => c.offsets.isSome

/-- The first of some needs that was not prepared. -/
def missing? (c : Context) (needs : List Need) : Option Need := needs.find? (!c.has ·)

theorem missing?_cons (c : Context) (wanted : Need) (needs : List Need) :
    c.missing? (wanted :: needs) = if c.has wanted then c.missing? needs else some wanted := by
  rw [missing?, List.find?_cons]
  cases c.has wanted <;> rfl

/-- Of a single need only this one can be missing. -/
theorem missing?_singleton_iff {c : Context} {wanted need : Need} :
    c.missing? [wanted] = some need ↔ c.has wanted = false ∧ wanted = need := by
  rw [missing?_cons]
  cases c.has wanted <;> simp [missing?]

theorem has_of_missing?_eq_none {needs : List Need} (h : c.missing? needs = none) :
    ∀ need ∈ needs, c.has need = true := by
  simpa [missing?] using h

/-! ### Asking -/

theorem needExtraction_of_has (h : c.has .extraction = true) (topic : String) :
    ∃ p, c.needExtraction topic = .ok p := by
  obtain ⟨p, hp⟩ := Option.isSome_iff_exists.1 h
  exact ⟨p, by rw [needExtraction, hp]⟩

theorem needExtraction_of_lacks (h : c.has .extraction = false) (topic : String) :
    c.needExtraction topic = .error (.notPrepared topic .extraction) := by
  have hnone : c.extraction = none := by simpa [has] using h
  rw [needExtraction, hnone]

theorem needOffsets_of_has (h : c.has .offsets = true) (topic : String) :
    ∃ t, c.needOffsets topic = .ok t := by
  obtain ⟨t, ht⟩ := Option.isSome_iff_exists.1 h
  exact ⟨t, by rw [needOffsets, ht]⟩

theorem needOffsets_of_lacks (h : c.has .offsets = false) (topic : String) :
    c.needOffsets topic = .error (.notPrepared topic .offsets) := by
  have hnone : c.offsets = none := by simpa [has] using h
  rw [needOffsets, hnone]

theorem needRoot_of_lacks (h : c.has .extraction = false) (topic : String) (s : Storage) :
    c.needRoot topic s = .error (.notPrepared topic .extraction) := by
  rw [needRoot, needExtraction_of_lacks h]
  rfl

theorem failsOnly_needExtraction (h : c.has .extraction = true) (topic : String) :
    FailsOnly Error.IsOther (liftM (c.needExtraction topic) : Step Path) := by
  obtain ⟨p, hp⟩ := needExtraction_of_has h topic
  refine .lift fun e herror => ?_
  rw [hp] at herror
  cases herror

theorem failsOnly_needOffsets (h : c.has .offsets = true) (topic : String) :
    FailsOnly Error.IsOther (liftM (c.needOffsets topic) : Step Offsets.Table) := by
  obtain ⟨t, ht⟩ := needOffsets_of_has h topic
  refine .lift fun e herror => ?_
  rw [ht] at herror
  cases herror

/-- Where something was unpacked, the root file system may be missing, but is not unprepared. -/
theorem failsOnly_needRoot (h : c.has .extraction = true) (topic : String) (s : Storage) :
    FailsOnly Error.IsOther (liftM (c.needRoot topic s) : Step Path) := by
  obtain ⟨p, hp⟩ := needExtraction_of_has h topic
  refine .lift fun e herror => ?_
  rw [needRoot, hp] at herror
  dsimp only [bind, Except.bind] at herror
  split at herror
  · cases herror
  · cases herror
    exact fun _ _ => nofun

/-- A payload that cannot be had is told as none; nothing fails. -/
theorem failsOnly_payload? (P : Error → Prop) (tools : Config.ToolPaths)
    (strategy : Config.GzipStrategy) (image : Path) (start : Nat) (length : Option Nat) :
    FailsOnly P (Extraction.payload? tools strategy image start length) := by
  unfold Extraction.payload?
  cases strategy with
  | strict => exact .bind (.look _) fun _ => .pure _
  | pipeline => exact .bind (.attempt _) fun _ => .pure _

theorem failsOnly_payloadAt? (P : Error → Prop) (c : Context) (name : String) :
    FailsOnly P (c.payloadAt? name) := by
  rw [payloadAt?]
  split
  · exact .pure none
  · split
    · exact .pure none
    · exact failsOnly_payload? P _ _ _ _ _

theorem failsOnly_payloadRuns (P : Error → Prop) (c : Context) (name : String) :
    FailsOnly P (c.payloadRuns name) := by
  rw [payloadRuns]
  refine .bind (failsOnly_payloadAt? P c name) fun data => ?_
  cases data <;> exact .pure _

end Context

/-! ### Looking into a topic -/

section

variable {α β : Type} {r : Except Error α} {e : Error}

theorem exec_bind_lift_error (h : r = .error e) (f : α → Context.Step β) :
    exec (liftM r >>= f) host storage = (.error e, storage) :=
  exec_bind_error (by rw [exec_lift, h])

/-- Whoever asks for the root file system asks for what was unpacked. -/
theorem exec_bind_needRoot_of_lacks (h : c.has .extraction = false) (topic : String)
    (f : Storage → Path → Context.Step β) :
    exec (get >>= fun s => liftM (c.needRoot topic s) >>= f s) host storage =
      (.error (.notPrepared topic .extraction), storage) := by
  rw [exec_bind_ok (exec_get host storage)]
  exact exec_bind_lift_error (Context.needRoot_of_lacks h topic storage) _

end

/-- Looking into secure boot asks for what was unpacked first, and for the offsets only after it. -/
theorem exec_secureBoot_missing (h : c.missing? Topic.secureBoot.demands = some need) :
    exec (SecureBoot.analyze c) host storage =
      (.error (.notPrepared Topic.secureBoot.name need), storage) := by
  have hdemands : Topic.secureBoot.demands = [.extraction, .offsets] := rfl
  rw [hdemands, Context.missing?_cons] at h
  cases hextraction : c.has .extraction with
  | false =>
    rw [hextraction] at h
    cases h
    exact exec_bind_lift_error (Context.needExtraction_of_lacks hextraction _) _
  | true =>
    rw [hextraction, if_pos rfl, Context.missing?_singleton_iff] at h
    obtain ⟨hoffsets, rfl⟩ := h
    obtain ⟨p, hp⟩ := Context.needExtraction_of_has hextraction Topic.secureBoot.name
    change exec (liftM (c.needExtraction _) >>= _) host storage = _
    rw [exec_bind_ok (by rw [exec_lift, hp])]
    exact exec_bind_lift_error (Context.needOffsets_of_lacks hoffsets _) _

/-- **Looking into a topic fails for want of something**, when something it asks for is missing: the
first such thing. -/
theorem exec_analyze_missing {t : Topic} (h : c.missing? t.demands = some need) :
    exec (t.analyze c) host storage = (.error (.notPrepared t.name need), storage) := by
  cases t with
  | binwalk => cases h
  | bootProcess =>
    obtain ⟨hlacks, rfl⟩ := Context.missing?_singleton_iff.1 h
    exact exec_bind_lift_error (Context.needOffsets_of_lacks hlacks _) _
  | deviceTrees =>
    obtain ⟨hlacks, rfl⟩ := Context.missing?_singleton_iff.1 h
    exact exec_bind_lift_error (Context.needExtraction_of_lacks hlacks _) _
  | networkServices =>
    obtain ⟨hlacks, rfl⟩ := Context.missing?_singleton_iff.1 h
    exact exec_bind_needRoot_of_lacks hlacks _ _
  | partitions =>
    obtain ⟨hlacks, rfl⟩ := Context.missing?_singleton_iff.1 h
    exact exec_bind_lift_error (Context.needOffsets_of_lacks hlacks _) _
  | proprietaryBlobs =>
    obtain ⟨hlacks, rfl⟩ := Context.missing?_singleton_iff.1 h
    exact exec_bind_needRoot_of_lacks hlacks _ _
  | rootfs =>
    obtain ⟨hlacks, rfl⟩ := Context.missing?_singleton_iff.1 h
    exact exec_bind_needRoot_of_lacks hlacks _ _
  | secureBoot => exact exec_secureBoot_missing h
  | uboot =>
    obtain ⟨hlacks, rfl⟩ := Context.missing?_singleton_iff.1 h
    exact exec_bind_lift_error (Context.needOffsets_of_lacks hlacks _) _

/-- Looking into secure boot fails in another way, if it does: without a root file system it is told
what else is known, and a search in it fails as programs do. -/
theorem failsOnly_secureBoot (hextraction : c.has .extraction = true)
    (hoffsets : c.has .offsets = true) : FailsOnly Error.IsOther (SecureBoot.analyze c) := by
  have htool : ∀ cause, Error.IsOther (.tool cause) := fun _ _ _ => nofun
  unfold SecureBoot.analyze
  refine .bind (Context.failsOnly_needExtraction hextraction _) fun extraction => ?_
  refine .bind (Context.failsOnly_needOffsets hoffsets _) fun offsets => ?_
  refine .bind .get fun _ => .bind .get fun _ => ?_
  refine .bind (Context.failsOnly_payloadRuns _ _ _) fun _ => .bind .get fun _ => ?_
  dsimp only
  split
  · exact .bind (.pure _) fun _ => .pure _
  · exact .bind (.mapError htool _) fun _ => .bind (.pure _) fun _ => .pure _

/-- **Looking into a topic fails in another way**, if it does, when all that it asks for was
prepared. -/
theorem failsOnly_analyze {t : Topic} (h : c.missing? t.demands = none) :
    FailsOnly Error.IsOther (t.analyze c) := by
  have hhas := Context.has_of_missing?_eq_none h
  have htool : ∀ cause, Error.IsOther (.tool cause) := fun _ _ _ => nofun
  have hmemory : ∀ cause, Error.IsOther (.memory cause) := fun _ _ _ => nofun
  -- what was asked for is at hand, so each step fails by what it does itself
  cases t with
  | binwalk => exact .bind (.mapError htool _) fun _ => .pure _
  | bootProcess =>
    refine .bind (Context.failsOnly_needOffsets (hhas _ (by decide)) _) fun offsets => ?_
    exact .bind (Context.failsOnly_payloadRuns _ _ _) fun _ =>
      .bind (Context.failsOnly_payloadRuns _ _ _) fun _ => .bind .get fun _ => .pure _
  | deviceTrees =>
    exact .bind (Context.failsOnly_needExtraction (hhas _ (by decide)) _) fun _ =>
      .bind (.tryLook hmemory _) fun _ => .pure _
  | networkServices =>
    exact .bind .get fun s =>
      .bind (Context.failsOnly_needRoot (hhas _ (by decide)) _ s) fun _ => .pure _
  | partitions =>
    exact .bind (Context.failsOnly_needOffsets (hhas _ (by decide)) _) fun _ => .pure _
  | proprietaryBlobs =>
    exact .bind .get fun s =>
      .bind (Context.failsOnly_needRoot (hhas _ (by decide)) _ s) fun _ =>
        .bind (.mapError htool _) fun _ => .bind (.mapError htool _) fun _ =>
          .bind (.mapError htool _) fun _ => .bind .get fun _ => .pure _
  | rootfs =>
    exact .bind .get fun s =>
      .bind (Context.failsOnly_needRoot (hhas _ (by decide)) _ s) fun _ => .pure _
  | secureBoot => exact failsOnly_secureBoot (hhas _ (by decide)) (hhas _ (by decide))
  | uboot =>
    exact .bind (Context.failsOnly_needOffsets (hhas _ (by decide)) _) fun _ =>
      .bind (Context.failsOnly_payloadAt? _ _ _) fun _ => .pure _

/-- **When looking into a topic fails for want of something**: just when this is the first thing it
asks for that is missing. -/
theorem analyze_notPrepared_iff {t : Topic} {name : String} :
    (exec (t.analyze c) host storage).1 = .error (.notPrepared name need) ↔
      name = t.name ∧ c.missing? t.demands = some need := by
  cases hmissing : c.missing? t.demands with
  | none =>
    have hother : (exec (t.analyze c) host storage).1 ≠ .error (.notPrepared name need) :=
      fun h => failsOnly_analyze hmissing host storage _ h name need rfl
    simp [hother]
  | some first =>
    rw [exec_analyze_missing hmissing]
    simp [eq_comm, and_comm]

end Analysis

/-! ### Preparing -/

namespace Session

variable {s : Session} {r : Requirements} {given : Option Path}

theorem failsOnly_offsets (s : Session) (required : Bool) :
    FailsOnly Error.IsOther (s.offsets required) := by
  refine .bind .get fun storage => ?_
  split
  · exact .pure _
  · split
    · exact .throw fun _ _ => nofun
    · exact .pure _

/-- Offsets that are required are there, or their lack is the failure. -/
theorem isSome_of_offsets {offsets : Option Offsets.Table}
    (h : exec (s.offsets true) host storage = (.ok offsets, storage')) :
    offsets.isSome = true := by
  obtain ⟨_, _, hget, h⟩ := exists_of_exec_bind h
  cases hget
  split at h
  · cases h
    rfl
  · cases h

/-- Preparing never fails for want of something that has to be prepared. -/
theorem failsOnly_context (s : Session) (r : Requirements) (given : Option Path) :
    FailsOnly Error.IsOther (s.context r given) := by
  refine .bind (.mapError (fun _ _ _ => nofun) _) fun image => ?_
  dsimp only
  split
  · exact .bind (.map _ (.mapError (fun _ _ _ => nofun) _)) fun _ =>
      .bind (failsOnly_offsets s _) fun _ => .pure _
  · exact .bind (.pure _) fun _ => .bind (failsOnly_offsets s _) fun _ => .pure _

/-- **What is required is prepared.** -/
theorem has_of_context (h : exec (s.context r given) host storage = (.ok c, storage'))
    (hasked : r.asks need = true) : c.has need = true := by
  obtain ⟨image, _, -, h⟩ := exists_of_exec_bind h
  dsimp only at h
  -- the extraction is prepared first; the offsets are asked for in either case
  have hprepared : ∃ extraction offsets t t', (r.extraction = true → extraction.isSome = true) ∧
      exec (s.offsets r.offsets) host t = (.ok offsets, t') ∧
      c.extraction = extraction ∧ c.offsets = offsets := by
    split at h
    · obtain ⟨_, t, hmap, h⟩ := exists_of_exec_bind h
      rw [map_eq_pure_bind] at hmap
      obtain ⟨p, _, -, hpure⟩ := exists_of_exec_bind hmap
      cases hpure
      obtain ⟨offsets, t', hoffsets, h⟩ := exists_of_exec_bind h
      cases h
      exact ⟨some p, offsets, _, _, fun _ => rfl, hoffsets, rfl, rfl⟩
    · rename_i hnot
      obtain ⟨_, t, hpure, h⟩ := exists_of_exec_bind h
      cases hpure
      obtain ⟨offsets, t', hoffsets, h⟩ := exists_of_exec_bind h
      cases h
      exact ⟨none, offsets, _, _, fun hyes => absurd hyes hnot, hoffsets, rfl, rfl⟩
  obtain ⟨extraction, offsets, t, t', hextraction, hoffsets, rfl, rfl⟩ := hprepared
  cases need with
  | extraction => exact hextraction hasked
  | offsets =>
    have hrequired : r.offsets = true := hasked
    rw [hrequired] at hoffsets
    exact isSome_of_offsets hoffsets

theorem failsOnly_writeArtifacts (directory : Path) (artifacts : List Artifact) :
    FailsOnly Error.IsOther (writeArtifacts directory artifacts) := by
  rw [writeArtifacts]
  split
  · exact .bind (.tryChange (fun _ _ _ => nofun) _) fun _ =>
      .forM fun _ => .tryChange (fun _ _ _ => nofun) _
  · exact .pure ()

/-- **A run never fails for want of something that has to be prepared.** A topic requires all that
it asks for when it is looked into, and what it asks for is told by the failures: looking into it
fails for want of something just when this is the first thing among its demands that is missing. A
session prepares what is required before that, so that its run fails in other ways alone, whatever
the settings, the image, the programs and the storage are. -/
theorem run_ne_notPrepared (s : Session) (t : Topic) (given : Option Path) (host : Host)
    (storage : Storage) :
    (∀ name need, (exec (s.run t given) host storage).1 ≠ .error (.notPrepared name need)) ∧
      (∀ need ∈ t.demands, t.requirements.asks need = true) ∧
      ∀ (c : Context) (host : Host) (storage : Storage) (name : String) (need : Need),
        (exec (t.analyze c) host storage).1 = .error (.notPrepared name need) ↔
          name = t.name ∧ c.missing? t.demands = some need := by
  refine ⟨fun name need h => ?_, t.asks_of_mem_demands, fun _ _ _ _ _ => analyze_notPrepared_iff⟩
  rw [run, exec_bind] at h
  split at h
  · rename_i c prepared hcontext
    have hmissing : c.missing? t.demands = none := by
      rw [Context.missing?, List.find?_eq_none]
      intro wanted hwanted
      rw [has_of_context hcontext (t.asks_of_mem_demands wanted hwanted)]
      exact Bool.false_ne_true
    have hrest : FailsOnly Error.IsOther (do
        let analysis ← t.analyze c
        writeArtifacts s.layout.outputDir analysis.artifacts
        return analysis) :=
      .bind (failsOnly_analyze hmissing) fun _ => .bind (failsOnly_writeArtifacts _ _) fun _ =>
        .pure _
    exact hrest host prepared _ h name need rfl
  · rename_i e prepared hcontext
    cases h
    exact failsOnly_context s t.requirements given host storage _ (congrArg Prod.fst hcontext)
      name need rfl

/-- A session in which nothing is configured. -/
def bare : Session := .ofConfig {} ⟨"/"⟩

/-- What a topic can look at when nothing was prepared for it. -/
def unprepared : Context :=
  { config := bare.config
    layout := bare.layout
    image := ⟨⟨"/image.img"⟩, "image.img", 0⟩
    extraction := none
    offsets := none }

theorem run_ne_notPrepared_bare :
    Need.offsets ∈ Topic.secureBoot.demands ∧ ∀ host,
      Topic.secureBoot.requirements.asks .offsets = true ∧
        (exec (Topic.secureBoot.analyze unprepared) host {}).1 =
          .error (.notPrepared "secure-boot" .extraction) ∧
        (exec (bare.run .secureBoot none) host {}).1 ≠
          .error (.notPrepared "secure-boot" .extraction) := by
  have hmem : Need.offsets ∈ Topic.secureBoot.demands := by decide
  refine ⟨hmem, fun host => ?_⟩
  obtain ⟨hrun, hasked, hanalyze⟩ := run_ne_notPrepared bare .secureBoot none host {}
  exact ⟨hasked _ hmem, (hanalyze unprepared host {} _ _).2 ⟨by decide, by decide⟩, hrun _ _⟩

end Session

end FirmwareSurvey
