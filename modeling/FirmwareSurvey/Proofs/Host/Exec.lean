import FirmwareSurvey.Host.Basic

/-!
# Running computations on a host

How a computation runs, one equation for each way in which it is put together. A computation that
only looks leaves storage as it is; one that fails keeps what it did to storage until then.

A computation fails in ways in which its parts do (`FailsOnly.bind`); one whose failures are named
anew fails under the new names alone, whatever it does (`FailsOnly.mapError`).
-/

namespace FirmwareSurvey.OnHost

variable {ε α β : Type}

@[simp] theorem exec_pure (a : α) (host : Host) (s : Storage) :
    exec (pure a : OnHost ε α) host s = (.ok a, s) := rfl

@[simp] theorem exec_throw (e : ε) (host : Host) (s : Storage) :
    exec (throw e : OnHost ε α) host s = (.error e, s) := rfl

@[simp] theorem exec_get (host : Host) (s : Storage) :
    exec (get : OnHost ε Storage) host s = (.ok s, s) := rfl

@[simp] theorem exec_read (host : Host) (s : Storage) :
    exec (read : OnHost ε Host) host s = (.ok host, s) := rfl

theorem exec_bind (x : OnHost ε α) (f : α → OnHost ε β) (host : Host) (s : Storage) :
    exec (x >>= f) host s =
      match exec x host s with
      | (.ok a, s') => exec (f a) host s'
      | (.error e, s') => (.error e, s') := by
  change ((x host).run >>= fun r => match r with
    | .ok a => (f a host).run
    | .error e => pure (.error e)).run s = _
  rw [StateT.run_bind]
  change (match (x host).run.run s with
    | (r, s') => (match r with
      | .ok a => (f a host).run
      | .error e => pure (.error e)).run s') = _
  rw [exec]
  rcases (x host).run.run s with ⟨a | e, s'⟩ <;> rfl

/-- What comes after a computation that gives a value. -/
theorem exec_bind_ok {x : OnHost ε α} {f : α → OnHost ε β} {host : Host} {s s' : Storage} {a : α}
    (h : exec x host s = (.ok a, s')) : exec (x >>= f) host s = exec (f a) host s' := by
  rw [exec_bind, h]

/-- Nothing comes after a computation that fails. -/
theorem exec_bind_error {x : OnHost ε α} {f : α → OnHost ε β} {host : Host} {s s' : Storage}
    {e : ε} (h : exec x host s = (.error e, s')) : exec (x >>= f) host s = (.error e, s') := by
  rw [exec_bind, h]

/-- **A computation that gives a value does so part by part.** -/
theorem exists_of_exec_bind {x : OnHost ε α} {f : α → OnHost ε β} {host : Host} {s s'' : Storage}
    {b : β} (h : exec (x >>= f) host s = (.ok b, s'')) :
    ∃ a s', exec x host s = (.ok a, s') ∧ exec (f a) host s' = (.ok b, s'') := by
  rw [exec_bind] at h
  split at h
  · rename_i a s' hx
    exact ⟨a, s', hx, h⟩
  · cases h

/-- A computation leaves storage alone when its parts do. -/
theorem storage_exec_bind {x : OnHost ε α} {f : α → OnHost ε β} {host : Host} {s : Storage}
    (hx : (exec x host s).2 = s) (hf : ∀ a, (exec (f a) host s).2 = s) :
    (exec (x >>= f) host s).2 = s := by
  rw [exec_bind]
  rcases hr : exec x host s with ⟨e | a, s'⟩
  · rw [hr] at hx
    exact hx
  · rw [hr] at hx
    obtain rfl : s' = s := hx
    exact hf _

/-- **What each step of a fold keeps, the fold keeps**, when no step changes storage; the steps
taken so far are told along. -/
theorem of_exec_foldlM {f : α → β → OnHost ε α} {I : List β → α → Prop} {host : Host} {s : Storage}
    (hstep : ∀ done b a a' s', I done a → exec (f a b) host s = (.ok a', s') →
      s' = s ∧ I (done ++ [b]) a') {items : List β} {a a' : α} {s' : Storage}
    (h : I [] a) (hexec : exec (items.foldlM f a) host s = (.ok a', s')) :
    s' = s ∧ I items a' := by
  suffices hfrom : ∀ done, I done a → s' = s ∧ I (done ++ items) a' from hfrom [] h
  clear h
  induction items generalizing a with
  | nil =>
    cases hexec
    intro done h
    rw [List.append_nil]
    exact ⟨rfl, h⟩
  | cons b items ih =>
    rw [List.foldlM_cons] at hexec
    obtain ⟨a₁, s₁, hfirst, hrest⟩ := exists_of_exec_bind hexec
    intro done h
    obtain ⟨rfl, h₁⟩ := hstep done b a a₁ s₁ h hfirst
    simpa using ih hrest (done ++ [b]) h₁

/-- A result that is there already is given. -/
theorem exec_lift (r : Except ε α) (host : Host) (s : Storage) :
    exec (liftM r : OnHost ε α) host s = (r, s) := by
  cases r <;> rfl

theorem exec_attempt (x : OnHost β α) (host : Host) (s : Storage) :
    exec (attempt x : OnHost ε (Except β α)) host s = (.ok (exec x host s).1, (exec x host s).2) :=
  rfl

theorem exec_tryLook (f : Storage → Except β α) (wrap : β → ε) (host : Host) (s : Storage) :
    exec (tryLook f wrap) host s = ((f s).mapError wrap, s) := by
  rw [tryLook, exec_bind_ok (exec_get host s)]
  cases f s <;> rfl

theorem exec_tryChange (f : Storage → Except β Storage) (wrap : β → ε) (host : Host)
    (s : Storage) :
    exec (tryChange f wrap) host s =
      match f s with
      | .ok s' => (.ok (), s')
      | .error e => (.error (wrap e), s) := by
  rw [tryChange, exec_bind_ok (exec_get host s)]
  cases f s <;> rfl

theorem exec_runProgram (i : Invocation) (wrap : Storage.Fault → ε) (host : Host) (s : Storage) :
    exec (runProgram i wrap) host s =
      match host.run i s with
      | .ok (c, s') => (.ok c, s')
      | .error e => (.error (wrap e), s) := by
  rw [runProgram, exec_bind_ok (exec_read host s), exec_bind_ok (exec_get host s)]
  rcases host.run i s with e | ⟨c, s'⟩ <;> rfl

theorem exec_mapError (wrap : β → ε) (x : OnHost β α) (host : Host) (s : Storage) :
    exec (mapError wrap x) host s = ((exec x host s).1.mapError wrap, (exec x host s).2) := by
  have hlift : (liftM (x host).run : ExceptT ε (StateM Storage) (Except β α)).run.run s =
      (.ok (exec x host s).1, (exec x host s).2) := rfl
  rw [exec, mapError, ExceptT.run_bind, StateT.run_bind, hlift]
  rcases exec x host s with ⟨a | e, s'⟩ <;> rfl

/-- A value is given whatever a failure would be named. -/
theorem exec_mapError_ok {wrap : β → ε} {x : OnHost β α} {host : Host} {s s' : Storage} {a : α}
    (h : exec x host s = (.ok a, s')) : exec (mapError wrap x) host s = (.ok a, s') := by
  rw [exec_mapError, h]
  rfl

/-- A failure is named anew. -/
theorem exec_mapError_error {wrap : β → ε} {x : OnHost β α} {host : Host} {s s' : Storage} {e : β}
    (h : exec x host s = (.error e, s')) :
    exec (mapError wrap x) host s = (.error (wrap e), s') := by
  rw [exec_mapError, h]
  rfl

end FirmwareSurvey.OnHost

namespace FirmwareSurvey.Tool

open OnHost

/-- **A program that has to report success** fails when it cannot be started and when it does not.
-/
theorem exec_run (paths : Config.ToolPaths) (tool : Tool) (arguments : List String) (host : Host)
    (s : Storage) :
    exec (run paths tool arguments) host s =
      match host.run { program := paths.path tool, arguments } s with
      | .error cause => (.error (startError tool (paths.path tool) cause), s)
      | .ok (c, s') =>
        (if c.status.isSuccess then .ok c
          else .error (.failed tool c.status (Text.trim (Text.lossy c.errors))), s') := by
  rw [run, exec_bind, runLenient, exec_runProgram]
  rcases host.run { program := paths.path tool, arguments } s with cause | ⟨c, s'⟩
  · rfl
  · dsimp only
    split <;> rfl

end FirmwareSurvey.Tool

namespace FirmwareSurvey.OnHost

/-! ### How computations fail -/

variable {ε α β : Type} {P : ε → Prop}

/-- Whether a computation fails in ways of a kind only, on every host and from every storage. -/
def FailsOnly (P : ε → Prop) (x : OnHost ε α) : Prop :=
  ∀ host s e, (exec x host s).1 = .error e → P e

namespace FailsOnly

/-- A computation that never fails fails in no other way. -/
theorem of_ok {x : OnHost ε α} (h : ∀ host s, ∃ a s', exec x host s = (.ok a, s')) :
    FailsOnly P x := by
  intro host s e herror
  obtain ⟨a, s', hok⟩ := h host s
  rw [hok] at herror
  cases herror

theorem pure (a : α) : FailsOnly P (Pure.pure a : OnHost ε α) :=
  of_ok fun _ s => ⟨a, s, rfl⟩

theorem get : FailsOnly P (MonadState.get : OnHost ε Storage) :=
  of_ok fun _ s => ⟨s, s, rfl⟩

theorem look (f : Storage → α) : FailsOnly P (OnHost.look f : OnHost ε α) :=
  of_ok fun _ s => ⟨f s, s, rfl⟩

/-- A failure that is caught is none. -/
theorem attempt (x : OnHost β α) : FailsOnly P (OnHost.attempt x : OnHost ε (Except β α)) :=
  of_ok fun host s => ⟨_, _, exec_attempt x host s⟩

theorem throw {e : ε} (h : P e) : FailsOnly P (MonadExcept.throw e : OnHost ε α) := by
  intro host s e' herror
  cases herror
  exact h

theorem lift {r : Except ε α} (h : ∀ e, r = .error e → P e) :
    FailsOnly P (liftM r : OnHost ε α) := by
  intro host s e herror
  rw [exec_lift] at herror
  exact h e herror

/-- **A computation fails as its parts do.** -/
theorem bind {x : OnHost ε α} {f : α → OnHost ε β} (hx : FailsOnly P x)
    (hf : ∀ a, FailsOnly P (f a)) : FailsOnly P (x >>= f) := by
  intro host s e herror
  rw [exec_bind] at herror
  split at herror
  · exact hf _ _ _ e herror
  · rename_i e' s' hrun
    cases herror
    exact hx host s e (congrArg Prod.fst hrun)

theorem map (f : α → β) {x : OnHost ε α} (hx : FailsOnly P x) : FailsOnly P (f <$> x) := by
  rw [map_eq_pure_bind]
  exact hx.bind fun a => pure (f a)

/-- **A computation whose failures are named anew fails under the new names alone.** -/
theorem mapError {wrap : β → ε} (h : ∀ e, P (wrap e)) (x : OnHost β α) :
    FailsOnly P (OnHost.mapError wrap x) := by
  intro host s e herror
  rw [exec_mapError] at herror
  cases hrun : (exec x host s).1 with
  | ok a => rw [hrun] at herror; cases herror
  | error e' =>
    rw [hrun] at herror
    cases herror
    exact h e'

theorem tryLook {wrap : β → ε} (h : ∀ e, P (wrap e)) (f : Storage → Except β α) :
    FailsOnly P (OnHost.tryLook f wrap) := by
  intro host s e herror
  rw [exec_tryLook] at herror
  cases hlook : f s with
  | ok a => rw [hlook] at herror; cases herror
  | error e' =>
    rw [hlook] at herror
    cases herror
    exact h e'

theorem tryChange {wrap : β → ε} (h : ∀ e, P (wrap e)) (f : Storage → Except β Storage) :
    FailsOnly P (OnHost.tryChange f wrap) := by
  intro host s e herror
  rw [exec_tryChange] at herror
  split at herror
  · cases herror
  · cases herror
    exact h _

theorem forM {f : α → OnHost ε Unit} {items : List α} (h : ∀ a, FailsOnly P (f a)) :
    FailsOnly P (items.forM f) := by
  induction items with
  | nil => exact pure ()
  | cons a items ih => exact (h a).bind fun _ => ih

end FailsOnly

end FirmwareSurvey.OnHost
