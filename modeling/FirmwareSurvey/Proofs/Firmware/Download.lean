import FirmwareSurvey.Firmware.Resolve
import FirmwareSurvey.Proofs.Cache.Failure
import Mathlib.Control.Monad.Basic

/-!
# Downloads that failed

A file at the place that an image is downloaded to is taken for the image, and nothing is downloaded
again (`exec_resolve_of_isFile`). So what a failed download leaves behind there is the image from
then on: as long as no download succeeds, an image is found exactly when a failed one has left a
file (`resolve_after_failure`).
-/

namespace FirmwareSurvey.Firmware

open OnHost

variable {config : Config} {workDir : Path} {host : Host} {s s' : Storage} {destination : Path}

/-! ### One call -/

/-- Where the image of a configuration is downloaded to. -/
def destination? (config : Config) (workDir : Path) : Option Path :=
  (config.firmwareUrl.bind urlFileName?).map workDir.child

/-- How the program that downloads is started. -/
def downloading (config : Config) (destination : Path) : Invocation where
  program := config.tools.path .curl
  arguments := ["-fL", "-o", destination.text, config.firmwareUrl.getD ""]

/-- Whether a call without a path runs the program that downloads, with success. -/
def Fetches (config : Config) (workDir : Path) (host : Host) (s : Storage) : Prop :=
  ∃ destination opened c s', destination? config workDir = some destination ∧
    s.isFile destination = false ∧ s.makeDirectories workDir = .ok opened ∧
    host.run (downloading config destination) opened = .ok (c, s') ∧ c.status.isSuccess = true

/-- A download succeeds when its program does. -/
theorem exec_download_ok
    (h : (exec (Tool.download config.tools (config.firmwareUrl.getD "") destination) host s).1 =
      .ok ()) :
    ∃ c s', host.run (downloading config destination) s = .ok (c, s') ∧
      c.status.isSuccess = true := by
  rw [Tool.download, exec_bind, Tool.exec_run, ← downloading] at h
  rcases hrun : host.run (downloading config destination) s with cause | ⟨c, s'⟩
  · rw [hrun] at h
    cases h
  · refine ⟨c, s', rfl, ?_⟩
    rw [hrun] at h
    dsimp only at h
    split at h
    · rename_i hsuccess
      split at hsuccess
      · assumption
      · cases hsuccess
    · cases h

/-- **What a call without a path does** where there is a place to download to. -/
theorem exec_resolve_none (h : destination? config workDir = some destination) :
    exec (resolve config workDir none) host s =
      if s.isFile destination then (openImage s destination, s)
      else
        match s.makeDirectories workDir with
        | .error cause => (.error (.workDir workDir cause), s)
        | .ok opened =>
          match exec (Tool.download config.tools (config.firmwareUrl.getD "") destination) host
            opened with
          | (.error e, s') => (.error (.download e), s')
          | (.ok (), s') => (openImage s' destination, s') := by
  obtain ⟨name, hname, rfl⟩ := Option.map_eq_some_iff.1 h
  obtain ⟨url, hurl, hname⟩ := Option.bind_eq_some_iff.1 hname
  simp only [resolve, hurl, hname, Option.getD_some]
  rw [exec_bind_ok (exec_get host s)]
  split
  · rw [exec_tryLook]
    cases openImage s (workDir.child name) <;> rfl
  · rw [exec_bind, exec_tryChange]
    cases s.makeDirectories workDir with
    | error cause => rfl
    | ok opened =>
      dsimp only
      rcases hdownload : exec (Tool.download config.tools url (workDir.child name)) host opened
        with ⟨e | u, s'⟩
      · exact exec_bind_error (exec_mapError_error hdownload)
      · rw [exec_bind_ok (exec_mapError_ok hdownload), exec_tryLook]
        dsimp only
        cases openImage s' (workDir.child name) <;> rfl

/-- Without an address that names a file no download is tried. -/
theorem destination?_of_download {e : Tool.Error}
    (h : exec (resolve config workDir none) host s = (.error (.download e), s')) :
    ∃ destination, destination? config workDir = some destination := by
  cases hurl : config.firmwareUrl with
  | none =>
    simp only [resolve, hurl] at h
    cases h
  | some url =>
    cases hname : urlFileName? url with
    | none =>
      simp only [resolve, hurl, hname] at h
      cases h
    | some name => exact ⟨workDir.child name, by simp [destination?, hurl, hname]⟩

/-- A file can be opened as an image. -/
theorem exists_openImage {p : Path} (h : s.isFile p = true) :
    ∃ image, openImage s p = .ok image := by
  have hsize : ∃ size, s.size? p = .ok size := by
    rw [Storage.isFile] at h
    rw [Storage.size?]
    split at h
    · rename_i c mode hnode
      exact ⟨c.size, by rw [hnode]; rfl⟩
    · cases h
  obtain ⟨size, hsize⟩ := hsize
  exact ⟨⟨p, p.fileName, size⟩, by rw [openImage, if_pos h, hsize]⟩

/-- **A file at the place to download to is the image**, and nothing is downloaded. -/
theorem exec_resolve_of_isFile (h : destination? config workDir = some destination)
    (hfile : s.isFile destination = true) :
    exec (resolve config workDir none) host s = (openImage s destination, s) := by
  rw [exec_resolve_none h, if_pos hfile]

/-- **Without such a file an image takes a download that succeeds.** -/
theorem fetches_of_exec_resolve (h : destination? config workDir = some destination)
    (hfile : s.isFile destination = false) {image : Image}
    (hok : (exec (resolve config workDir none) host s).1 = .ok image) :
    Fetches config workDir host s := by
  rw [exec_resolve_none h, hfile] at hok
  simp only [Bool.false_eq_true, if_false] at hok
  cases hopened : s.makeDirectories workDir with
  | error cause =>
    rw [hopened] at hok
    cases hok
  | ok opened =>
    rw [hopened] at hok
    dsimp only at hok
    split at hok
    · cases hok
    · rename_i s' hdownload
      obtain ⟨c, s', hrun, hsuccess⟩ := exec_download_ok (congrArg Prod.fst hdownload)
      exact ⟨destination, opened, c, s', h, hfile, hopened, hrun, hsuccess⟩

/-! ### Calls after one that failed -/

/-- Storage after calls without a path, each on a host of its own. -/
def after (config : Config) (workDir : Path) (hosts : List Host) (s : Storage) : Storage :=
  hosts.foldl (fun s host => (exec (resolve config workDir none) host s).2) s

/-- Once there is a file to take for the image, calls change nothing. -/
theorem after_of_isFile (h : destination? config workDir = some destination)
    (hfile : s.isFile destination = true) : ∀ hosts, after config workDir hosts s = s
  | [] => rfl
  | host :: hosts => by
    rw [after, List.foldl_cons, exec_resolve_of_isFile h hfile]
    exact after_of_isFile h hfile hosts

/-- A file that a call has left to be taken for the image stays. -/
theorem isFile_after_iff (h : destination? config workDir = some destination)
    (hosts : List Host) :
    (after config workDir hosts s).isFile destination = true ↔
      ∃ n ≤ hosts.length, (after config workDir (hosts.take n) s).isFile destination = true := by
  constructor
  · intro hfile
    exact ⟨hosts.length, Nat.le_refl _, by rwa [List.take_length]⟩
  · rintro ⟨n, -, hfile⟩
    have hsplit : after config workDir hosts s =
        after config workDir (hosts.drop n) (after config workDir (hosts.take n) s) := by
      rw [after, after, after, ← List.foldl_append, List.take_append_drop]
    rwa [hsplit, after_of_isFile h hfile]

/-- **After a download that failed** a later call that downloads nothing finds an image exactly when
the failed call, or one since then, has left a file at the place to download to. -/
theorem resolve_after_failure {e : Tool.Error}
    (hfail : exec (resolve config workDir none) host s = (.error (.download e), s'))
    (hosts : List Host) {later : Host}
    (hlater : ¬Fetches config workDir later (after config workDir hosts s')) :
    ∃ destination, destination? config workDir = some destination ∧
      s.isFile destination = false ∧
      ((∃ image, (exec (resolve config workDir none) later (after config workDir hosts s')).1 =
          .ok image) ↔
        ∃ n ≤ hosts.length,
          (after config workDir (hosts.take n) s').isFile destination = true) := by
  obtain ⟨destination, hdestination⟩ := destination?_of_download hfail
  refine ⟨destination, hdestination, ?_, ?_⟩
  · cases hfile : s.isFile destination with
    | false => rfl
    | true =>
      obtain ⟨image, himage⟩ := exists_openImage hfile
      rw [exec_resolve_of_isFile hdestination hfile, himage] at hfail
      cases hfail
  · rw [← isFile_after_iff hdestination]
    constructor
    · rintro ⟨image, hok⟩
      cases hfile : (after config workDir hosts s').isFile destination with
      | false => exact absurd (fetches_of_exec_resolve hdestination hfile hok) hlater
      | true => rfl
    · intro hfile
      rw [exec_resolve_of_isFile hdestination hfile]
      exact exists_openImage hfile

/-! ### A download that breaks off -/

/-- A host on which a download leaves a part of the file and fails. -/
def brokenOff : Host :=
  { Cache.bareHost with
    run := fun i s => do
      let s ← s.writeText ⟨(i.arguments[2]?).getD ""⟩ "part"
      return ({ status := .exited 18 }, s) }

/-- A configuration with an address. -/
def withUrl : Config := { firmwareUrl := some "http://host/fw.img" }

/-- What a download that breaks off leaves behind. -/
def leftPart : Storage := (exec (resolve withUrl ⟨"work"⟩ none) brokenOff {}).2

/-- **A part of a file is taken for the image**: the call that downloads it fails, and the next one,
on a host that has no programs at all, finds an image. -/
theorem resolve_takes_part :
    (exec (resolve withUrl ⟨"work"⟩ none) brokenOff {}).1 =
        .error (.download (.failed .curl (.exited 18) "")) ∧
      ¬Fetches withUrl ⟨"work"⟩ Cache.bareHost leftPart ∧
      (exec (resolve withUrl ⟨"work"⟩ none) Cache.bareHost leftPart).1 =
        .ok ⟨⟨"work/fw.img"⟩, "fw.img", 4⟩ := by
  refine ⟨by decide +kernel, ?_, by decide +kernel⟩
  rintro ⟨_, _, _, _, -, -, -, hrun, -⟩
  cases hrun

/-- A host on which a download leaves nothing and fails. -/
def unreachable : Host :=
  { Cache.bareHost with run := fun _ s => .ok ({ status := .exited 7 }, s) }

/-- What such a download leaves behind. -/
def leftNothing : Storage := (exec (resolve withUrl ⟨"work"⟩ none) unreachable {}).2

/-- After a download that leaves nothing there is no image, and after another one that breaks off
there is. -/
theorem resolve_after_failure_leftNothing :
    (∀ image, (exec (resolve withUrl ⟨"work"⟩ none) Cache.bareHost leftNothing).1 ≠ .ok image) ∧
      ∃ image, (exec (resolve withUrl ⟨"work"⟩ none) Cache.bareHost
        (after withUrl ⟨"work"⟩ [brokenOff] leftNothing)).1 = .ok image := by
  have hnone : ∀ s, ¬Fetches withUrl ⟨"work"⟩ Cache.bareHost s := by
    rintro s ⟨_, _, _, _, -, -, -, hrun, -⟩
    cases hrun
  have hfail : exec (resolve withUrl ⟨"work"⟩ none) unreachable {} =
      (.error (.download (.failed .curl (.exited 7) "")), leftNothing) :=
    Prod.ext (by decide +kernel) rfl
  have hdestination : destination? withUrl ⟨"work"⟩ = some ⟨"work/fw.img"⟩ := by decide +kernel
  constructor
  · intro image hok
    obtain ⟨destination, hd, -, hiff⟩ := resolve_after_failure hfail [] (hnone _)
    cases hd.symm.trans hdestination
    obtain ⟨n, -, hfile⟩ := hiff.1 ⟨image, hok⟩
    have hno : leftNothing.isFile ⟨"work/fw.img"⟩ = false := by decide +kernel
    rw [List.take_nil, after, List.foldl_nil, hno] at hfile
    cases hfile
  · obtain ⟨destination, hd, -, hiff⟩ := resolve_after_failure hfail [brokenOff] (hnone _)
    cases hd.symm.trans hdestination
    exact hiff.2 ⟨1, by decide, by decide +kernel⟩

end FirmwareSurvey.Firmware
