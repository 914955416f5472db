import FirmwareSurvey.Offsets.Table
import FirmwareSurvey.Proofs.Text.Lines
import FirmwareSurvey.Proofs.Text.Numeral
import Mathlib.Data.List.Induction

/-!
# Offsets files one behind the other

A text that is put together from two, with a line feed between them, has the assignments of the
first and then those of the second (`assignments_append`): an assignment stands on one line, and
what ends a line does not matter to it. So a table can be read on from another one
(`foldlM_assign_ok`): a key has the value that it has in what was read last, if it has one there,
and the value that it had before otherwise. What cannot be read on its own cannot be read on from
any table (`foldlM_assign_error`).

Reading fails at a line, not at a table: whether it stops there depends on nothing that was read
before (`foldlM_assign_eq_error_iff`). So the first line whose value is to be a decimal number and
is none tells the error, wherever the text is cut (`parse_behind`).
-/

namespace FirmwareSurvey.Offsets

open Text

/-! ### The assignments of a text -/

/-- A carriage return that ends a line does not matter to the assignment on it. -/
theorem assignment?_dropReturn (line : List Char) :
    assignment? (dropReturn line) = assignment? line := by
  rw [assignment?, assignment?, trimChars_dropReturn]

/-- The assignments of a text are those of the pieces between its line feeds. -/
theorem assignments_eq (cs : List Char) :
    assignments cs = (cut '\n' cs).filterMap assignment? := by
  exact filterMap_lineChars rfl fun p _ => assignment?_dropReturn p

/-- **What stands around a line feed is read on its own.** -/
theorem assignments_append (a b : List Char) :
    assignments (a ++ '\n' :: b) = assignments a ++ assignments b := by
  simp only [assignments_eq, cut_append, List.filterMap_append]

theorem assignments_of_not_mem {line : List Char} (h : '\n' ∉ line) :
    assignments line = (assignment? line).toList := by
  rw [assignments_eq, cut_of_not_mem h]
  cases hline : assignment? line <;> simp [hline]

/-! ### Reading on -/

variable {as : List (String × List Char)} {v m : Members Value} {e : Error}

theorem foldlM_assign_concat (a : String × List Char) (m : Members Value) :
    (as ++ [a]).foldlM assign m = (as.foldlM assign m).bind (assign · a) := by
  rw [List.foldlM_append]
  cases as.foldlM assign m with
  | error e => rfl
  | ok w =>
    change [a].foldlM assign w = assign w a
    rw [List.foldlM_cons]
    cases assign w a <;> rfl

/-- **A table is read on from another one**: what is assigned now replaces what was there. -/
theorem foldlM_assign_ok (h : as.foldlM assign [] = .ok v) (m : Members Value) :
    ∃ w, as.foldlM assign m = .ok w ∧ ∀ key, w.get? key = (v.get? key).or (m.get? key) := by
  induction as using List.reverseRecOn generalizing v with
  | nil =>
    obtain rfl := Except.ok.inj h
    exact ⟨m, rfl, fun key => rfl⟩
  | append_singleton as a ih =>
    rw [foldlM_assign_concat] at h
    cases hv : as.foldlM assign [] with
    | error e => rw [hv] at h; cases h
    | ok v' =>
      rw [hv] at h
      obtain ⟨w, hw, hget⟩ := ih hv
      cases hvalue : value? a.1 a.2 with
      | error e => simp [Except.bind, assign, hvalue, Except.map] at h
      | ok x =>
        have hput : v'.put a.1 x = v := by
          simpa [Except.bind, assign, hvalue, Except.map] using h
        refine ⟨w.put a.1 x, ?_, fun key => ?_⟩
        · rw [foldlM_assign_concat, hw]
          simp [Except.bind, assign, hvalue, Except.map]
        · rw [← hput, Members.get?_put, Members.get?_put, hget]
          split <;> simp

/-- **What cannot be read on its own cannot be read on** from a table, for the same reason. -/
theorem foldlM_assign_error (h : as.foldlM assign [] = .error e) (m : Members Value) :
    as.foldlM assign m = .error e := by
  induction as using List.reverseRecOn generalizing e with
  | nil => cases h
  | append_singleton as a ih =>
    rw [foldlM_assign_concat] at h ⊢
    cases hv : as.foldlM assign [] with
    | error e' =>
      rw [hv] at h
      rw [ih hv]
      exact h
    | ok v' =>
      rw [hv] at h
      obtain ⟨w, hw, -⟩ := foldlM_assign_ok hv m
      rw [hw]
      cases hvalue : value? a.1 a.2 with
      | error e' => simpa [Except.bind, assign, hvalue, Except.map] using h
      | ok x => simp [Except.bind, assign, hvalue, Except.map] at h

/-! ### What a line assigns, and what is wrong with it -/

/-- Whether a line assigns a value to a key: within the blanks around it, it starts no comment and
has an equals sign; the key is what stands before the first one, and the value what stands behind
it, each without the blanks around it and the value without one pair of quotes. -/
def Assigns (line : List Char) (key : String) (value : List Char) : Prop :=
  (trimChars line).head? ≠ some '#' ∧
    ∃ before after, trimChars line = before ++ '=' :: after ∧ '=' ∉ before ∧
      key = String.ofList (trimChars before) ∧
      (IsQuoted (trimChars after) value ∨
        (∀ ds, ¬IsQuoted (trimChars after) ds) ∧ trimChars after = value)

/-- What stands on the two sides of the first equals sign. -/
theorem sides_eq_some_iff {cs : List Char} {key : String} {value : List Char} :
    (cutOnce? '=' cs).map (fun p => (String.ofList (trimChars p.1), unquote (trimChars p.2))) =
        some (key, value) ↔
      ∃ before after, cs = before ++ '=' :: after ∧ '=' ∉ before ∧
        key = String.ofList (trimChars before) ∧
        (IsQuoted (trimChars after) value ∨
          (∀ ds, ¬IsQuoted (trimChars after) ds) ∧ trimChars after = value) := by
  rw [Option.map_eq_some_iff]
  constructor
  · rintro ⟨⟨before, after⟩, hcut, heq⟩
    obtain ⟨hline, hsign⟩ := cutOnce?_eq_some_iff.1 hcut
    obtain ⟨hkey, hvalue⟩ := Prod.mk.inj heq
    exact ⟨before, after, hline, hsign, hkey.symm, unquote_eq_iff.1 hvalue⟩
  · rintro ⟨before, after, hline, hsign, rfl, hvalue⟩
    exact ⟨(before, after), cutOnce?_eq_some_iff.2 ⟨hline, hsign⟩,
      Prod.ext rfl (unquote_eq_iff.2 hvalue)⟩

theorem assignment?_eq_some_iff {line : List Char} {key : String} {value : List Char} :
    assignment? line = some (key, value) ↔ Assigns line key value := by
  rw [Assigns, assignment?]
  split
  · rename_i hline
    simp [hline]
  · rename_i hline
    simp [hline]
  · rename_i hcomment
    have hhead : (trimChars line).head? ≠ some '#' := by
      intro hhead
      obtain ⟨cs, hcs⟩ := List.head?_eq_some_iff.1 hhead
      exact hcomment cs hcs
    rw [and_iff_right hhead]
    exact sides_eq_some_iff

/-- Whether a key is one that takes a decimal number. -/
theorem isDecimalKey_iff {key : String} :
    isDecimalKey key = true ↔ "_DEC".toList <:+ key.toList := by
  have hending : "_DEC".toList.reverse = ['C', 'E', 'D', '_'] := rfl
  rw [isDecimalKey, beq_iff_eq, ← List.reverse_prefix, hending, List.prefix_iff_eq_take, eq_comm]
  rfl

/-- Whether a line cannot be read: its key takes a decimal number of a word, and its value is none.
-/
def IsFlawed (line : List Char) (key : String) (value : List Char) : Prop :=
  Assigns line key value ∧ "_DEC".toList <:+ key.toList ∧
    ∀ n, IsDecimal value n → wordLimit ≤ n

theorem value?_eq_error_iff {key : String} {value : List Char} {e : Error} :
    value? key value = .error e ↔ "_DEC".toList <:+ key.toList ∧
      (∀ n, IsDecimal value n → wordLimit ≤ n) ∧ e = .invalidDecimal key (String.ofList value) := by
  have hnone : (∀ n, IsDecimal value n → wordLimit ≤ n) ↔ decimal? value = none := by
    simp only [Option.eq_none_iff_forall_ne_some, ne_eq, decimal?_eq_some_iff, not_and,
      Nat.not_lt]
  rw [hnone, ← isDecimalKey_iff, value?]
  by_cases hkey : isDecimalKey key = true
  · rw [if_pos hkey]
    cases decimal? value with
    | none => simp [hkey, eq_comm]
    | some n => simp
  · simp [hkey]

/-- Why a line cannot be read, if it cannot. -/
def flaw? (line : List Char) : Option Error :=
  match assignment? line with
  | none => none
  | some a =>
    match value? a.1 a.2 with
    | .error e => some e
    | .ok _ => none

theorem flaw?_eq_some_iff {line : List Char} {e : Error} :
    flaw? line = some e ↔
      ∃ key value, IsFlawed line key value ∧ e = .invalidDecimal key (String.ofList value) := by
  have hflaw : flaw? line = some e ↔
      ∃ key value, assignment? line = some (key, value) ∧ value? key value = .error e := by
    rw [flaw?]
    cases assignment? line with
    | none => simp
    | some a =>
      obtain ⟨key, value⟩ := a
      dsimp only
      cases hvalue : value? key value with
      | error e' =>
        constructor
        · intro he
          exact ⟨key, value, rfl, hvalue.trans (congrArg _ (Option.some.inj he))⟩
        · rintro ⟨key', value', heq, he⟩
          cases heq
          exact congrArg _ (Except.error.inj (hvalue.symm.trans he))
      | ok v =>
        refine iff_of_false nofun ?_
        rintro ⟨key', value', heq, he⟩
        cases heq
        cases hvalue.symm.trans he
  simp only [hflaw, assignment?_eq_some_iff, value?_eq_error_iff, IsFlawed, and_assoc]

/-- **Reading stops at the first line that cannot be read.** -/
theorem foldlM_assign_eq_error_iff {lines : List (List Char)} {m : Members Value} {e : Error} :
    (lines.filterMap assignment?).foldlM assign m = .error e ↔ lines.findSome? flaw? = some e := by
  induction lines generalizing m with
  | nil => exact iff_of_false nofun (by simp)
  | cons line lines ih =>
    rw [List.filterMap_cons, List.findSome?_cons, flaw?]
    cases assignment? line with
    | none => exact ih
    | some a =>
      dsimp only
      rw [List.foldlM_cons, assign]
      cases value? a.1 a.2 with
      | error e' =>
        simp only [Except.map, bind, Except.bind, Except.error.injEq, Option.some.injEq]
      | ok v => exact ih

theorem parse_eq_error_iff {body : String} {e : Error} :
    parse body = .error e ↔ (lineChars body.toList).findSome? flaw? = some e := by
  rw [← foldlM_assign_eq_error_iff (m := []), ← assignments, parse]
  cases (assignments body.toList).foldlM assign [] with
  | error e' => simp [Except.map]
  | ok v => exact iff_of_false nofun nofun

/-! ### Two files -/

/-- **A text cannot be read exactly when one of its lines cannot**, and the first such line tells
the error. -/
theorem parse_eq_error_iff_first {body : String} {e : Error} :
    parse body = .error e ↔ ∃ before line after key value,
      lineChars body.toList = before ++ line :: after ∧
        (∀ l ∈ before, ∀ key value, ¬IsFlawed l key value) ∧ IsFlawed line key value ∧
          e = .invalidDecimal key (String.ofList value) := by
  have hnone {l : List Char} : flaw? l = none ↔ ∀ key value, ¬IsFlawed l key value := by
    rw [Option.eq_none_iff_forall_ne_some]
    simp only [ne_eq, flaw?_eq_some_iff]
    constructor
    · intro h key value hflawed
      exact h _ ⟨key, value, hflawed, rfl⟩
    · rintro h e ⟨key, value, hflawed, -⟩
      exact h key value hflawed
  rw [parse_eq_error_iff, List.findSome?_eq_some_iff]
  constructor
  · rintro ⟨before, line, after, hlines, hline, hbefore⟩
    obtain ⟨key, value, hflawed, he⟩ := flaw?_eq_some_iff.1 hline
    exact ⟨before, line, after, key, value, hlines, fun l hl => hnone.1 (hbefore l hl), hflawed, he⟩
  · rintro ⟨before, line, after, key, value, hlines, hbefore, hflawed, he⟩
    exact ⟨before, line, after, hlines, flaw?_eq_some_iff.2 ⟨key, value, hflawed, he⟩,
      fun l hl => hnone.2 (hbefore l hl)⟩

theorem exists_parse_eq_error_iff {body : String} :
    (∃ e, parse body = .error e) ↔
      ∃ line ∈ lineChars body.toList, ∃ key value, IsFlawed line key value := by
  simp only [parse_eq_error_iff, ← Option.isSome_iff_exists, List.findSome?_isSome_iff]
  simp only [Option.isSome_iff_exists, flaw?_eq_some_iff]
  refine exists_congr fun line => and_congr_right fun _ => ?_
  constructor
  · rintro ⟨e, key, value, hflawed, -⟩
    exact ⟨key, value, hflawed⟩
  · rintro ⟨key, value, hflawed⟩
    exact ⟨_, key, value, hflawed, rfl⟩

/-- Whether a reading is that of one text with another one behind it: it fails as the first does, or
else as the second does; and when both are read, a key has the value that the second gives it, and
that of the first where the second has no such key. -/
def ReadsOn (first second both : Except Error Table) : Prop :=
  match first, second with
  | .error e, _ => both = .error e
  | .ok _, .error e => both = .error e
  | .ok t, .ok u => ∃ w, both = .ok w ∧ ∀ key, w.get? key = (u.get? key).or (t.get? key)

theorem readsOn_parse (a b : String) :
    ReadsOn (parse a) (parse b) (parse (a ++ "\n" ++ b)) := by
  have hboth : parse (a ++ "\n" ++ b) =
      ((assignments a.toList).foldlM assign [] >>= fun v =>
        (assignments b.toList).foldlM assign v).map fun values => ⟨values, none⟩ := by
    have htext : (a ++ "\n" ++ b).toList = a.toList ++ '\n' :: b.toList := by simp
    rw [parse, htext, assignments_append, List.foldlM_append]
  rw [hboth, parse, parse]
  cases ha : (assignments a.toList).foldlM assign [] with
  | error e => rfl
  | ok v =>
    cases hb : (assignments b.toList).foldlM assign [] with
    | error e =>
      change ((assignments b.toList).foldlM assign v).map _ = _
      rw [foldlM_assign_error hb v]
      rfl
    | ok u =>
      obtain ⟨w, hw, hget⟩ := foldlM_assign_ok hb v
      refine ⟨⟨w, none⟩, ?_, hget⟩
      change ((assignments b.toList).foldlM assign v).map _ = _
      rw [hw]
      rfl

/-- **Offsets files are read one behind the other.** -/
theorem parse_behind (a b : String) :
    ReadsOn (parse a) (parse b) (parse (a ++ "\n" ++ b)) ∧
    ((∃ e, parse a = .error e) ↔
      ∃ line ∈ lineChars a.toList, ∃ key value, IsFlawed line key value) ∧
    ∀ e, parse a = .error e ↔ ∃ before line after key value,
      lineChars a.toList = before ++ line :: after ∧
        (∀ l ∈ before, ∀ key value, ¬IsFlawed l key value) ∧ IsFlawed line key value ∧
          e = .invalidDecimal key (String.ofList value) :=
  ⟨readsOn_parse a b, exists_parse_eq_error_iff, fun _ => parse_eq_error_iff_first⟩

end FirmwareSurvey.Offsets
