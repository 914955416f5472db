import FirmwareSurvey.Proofs.Report.Order
import FirmwareSurvey.Proofs.Toml.Json

/-!
# Values that last

A value without nulls and without great integers comes back whole from a TOML document, but not in
its order: what stands on a line of its own comes before what stands under headers, in every object
that is written under headers itself (`Toml.toJson_arranged`). The members are the same otherwise
(`Json.arrangedMembers_perm`).
-/

namespace FirmwareSurvey

open Report

namespace Json

/-! ### Nothing to lose -/

mutual

/-- Whether a value holds no null and no integer beyond the signed words. -/
def Lasting : Json → Prop
  | .null => False
  | .bool _ => True
  | .int n => n < 0x8000000000000000
  | .float _ => True
  | .str _ => True
  | .arr items => LastingItems items
  | .obj members => LastingMembers members

/-- Whether all items of a list last. -/
def LastingItems : List Json → Prop
  | [] => True
  | v :: vs => Lasting v ∧ LastingItems vs

/-- Whether all values of an object last. -/
def LastingMembers : List (String × Json) → Prop
  | [] => True
  | (_, v) :: ms => Lasting v ∧ LastingMembers ms

end

mutual

/-- **Nothing goes of a value that lasts.** -/
theorem withoutNulls?_of_lasting : ∀ {v : Json}, v.Lasting → v.withoutNulls? = some v
  | .null, h => h.elim
  | .bool _, _ => rfl
  | .int _, h => if_pos h
  | .float _, _ => rfl
  | .str _, _ => rfl
  | .arr _, h => by rw [withoutNulls?, withoutNullItems_of_lasting h]
  | .obj _, h => by rw [withoutNulls?, withoutNullMembers_of_lasting h]

theorem withoutNullItems_of_lasting : ∀ {items : List Json}, LastingItems items →
    withoutNullItems items = items
  | [], _ => rfl
  | v :: vs, h => by
    rw [withoutNullItems, withoutNulls?_of_lasting h.1, withoutNullItems_of_lasting h.2]

theorem withoutNullMembers_of_lasting : ∀ {members : List (String × Json)},
    LastingMembers members → withoutNullMembers members = members
  | [], _ => rfl
  | (k, v) :: ms, h => by
    rw [withoutNullMembers, withoutNulls?_of_lasting h.1, withoutNullMembers_of_lasting h.2]

end

/-! ### The order in which members come back -/

mutual

/-- A value as it comes back: in every object under headers the members that are under headers
last. -/
def arranged : Json → Json
  | .obj members => .obj ((members.filter fun m => !isHeaded m.2) ++ headedLast members)
  | .arr items => if isHeaded (.arr items) then .arr (arrangedItems items) else .arr items
  | v => v

/-- The members under headers, in order, each as it comes back. -/
def headedLast : List (String × Json) → List (String × Json)
  | [] => []
  | (k, v) :: ms => if isHeaded v then (k, arranged v) :: headedLast ms else headedLast ms

/-- The items of a list of objects, each as it comes back. -/
def arrangedItems : List Json → List Json
  | [] => []
  | v :: vs => arranged v :: arrangedItems vs

end

/-- The members of an object as they come back. -/
def arrangedMembers (members : List (String × Json)) : List (String × Json) :=
  (members.filter fun m => !isHeaded m.2) ++ headedLast members

/-- What is not under headers comes back as it is. -/
theorem arranged_of_not_headed {v : Json} (h : isHeaded v = false) : v.arranged = v := by
  cases v with
  | obj members => cases h
  | arr items => rw [arranged, h]; rfl
  | _ => rfl

theorem headedLast_eq (members : List (String × Json)) :
    headedLast members =
      (members.filter fun m => isHeaded m.2).map fun m => (m.1, m.2.arranged) := by
  induction members with
  | nil => rfl
  | cons m ms ih =>
    obtain ⟨k, v⟩ := m
    rw [headedLast, ih]
    by_cases h : isHeaded v = true <;> simp [h]

/-- **Every member comes back**, only in another place. -/
theorem arrangedMembers_perm (members : List (String × Json)) :
    (arrangedMembers members).Perm (members.map fun m => (m.1, m.2.arranged)) := by
  have hlines : (members.filter fun m => !isHeaded m.2) =
      (members.filter fun m => !isHeaded m.2).map fun m => (m.1, m.2.arranged) := by
    refine ((List.map_congr_left fun m hm => ?_).trans (List.map_id' _)).symm
    have hm : isHeaded m.2 = false := by simpa using (List.mem_filter.1 hm).2
    rw [arranged_of_not_headed hm]
  rw [arrangedMembers, headedLast_eq, hlines, ← List.map_append]
  refine List.Perm.map _ ?_
  simpa using List.filter_append_perm (fun m => !isHeaded m.2) members

end Json

namespace Toml

theorem toJsonMembers_append (ms ns : List (String × Toml)) :
    toJsonMembers (ms ++ ns) = toJsonMembers ms ++ toJsonMembers ns := by
  induction ms with
  | nil => rfl
  | cons m ms ih =>
    obtain ⟨k, v⟩ := m
    rw [List.cons_append, toJsonMembers, ih, toJsonMembers, List.cons_append]

/-- A value that lasts has a counterpart, which stands for it. -/
theorem exists_ofJson?_of_lasting {v : Json} (hv : v.Proper) (h : v.Lasting) :
    ∃ t, ofJson? v = some t ∧ t.toJson = v := by
  have hback := toJson_ofJson? hv
  rw [Json.withoutNulls?_of_lasting h] at hback
  exact Option.map_eq_some_iff.1 hback

theorem toJsonMembers_linesFirst {members : List (String × Json)} (hv : Json.ProperMembers members)
    (h : Json.LastingMembers members) :
    toJsonMembers (linesFirst (ofJsonMembers members)) =
      members.filter fun m => !isHeaded m.2 := by
  induction members with
  | nil => rfl
  | cons m ms ih =>
    obtain ⟨k, v⟩ := m
    obtain ⟨t, ht, hback⟩ := exists_ofJson?_of_lasting hv.1 h.1
    have hline := isLine_ofJson? ht
    by_cases hheaded : isHeaded v = true
    · simp [ofJsonMembers, ht, linesFirst, hline, hheaded, ih hv.2 h.2]
    · simp [ofJsonMembers, ht, linesFirst, hline, hheaded, toJsonMembers, hback, ih hv.2 h.2]

mutual

/-- **A value that lasts comes back arranged.** -/
theorem toJson_arranged : ∀ {v : Json} {t : Toml}, v.Proper → v.Lasting → isHeaded v = true →
    ofJson? v = some t → (arranged t).toJson = v.arranged
  | .obj members, _, hv, h, _, ht => by
    cases ht
    rw [arranged, toJson, toJsonMembers_append, toJsonMembers_linesFirst hv.2 h,
      toJsonMembers_tablesLast hv.2 h, Json.arranged]
  | .arr items, _, hv, h, hheaded, ht => by
    cases ht
    have hplain : items.any isPlainItem = false := by
      simp only [isHeaded, rendersInline, isMixed, Bool.not_not, Bool.and_eq_true] at hheaded
      simpa [hheaded.1] using hheaded.2
    rw [arranged, toJson, toJsonItems_arrangedRows hv h hplain, Json.arranged, if_pos hheaded]
  | .null, _, _, _, hheaded, _ => by cases hheaded
  | .bool _, _, _, _, hheaded, _ => by cases hheaded
  | .int _, _, _, _, hheaded, _ => by cases hheaded
  | .float _, _, _, _, hheaded, _ => by cases hheaded
  | .str _, _, _, _, hheaded, _ => by cases hheaded

theorem toJsonMembers_tablesLast : ∀ {members : List (String × Json)},
    Json.ProperMembers members → Json.LastingMembers members →
      toJsonMembers (tablesLast (ofJsonMembers members)) = Json.headedLast members
  | [], _, _ => rfl
  | (k, v) :: ms, hv, h => by
    obtain ⟨t, ht, -⟩ := exists_ofJson?_of_lasting hv.1 h.1
    have hline := isLine_ofJson? ht
    have hrest := toJsonMembers_tablesLast hv.2 h.2
    by_cases hheaded : isHeaded v = true
    · have hhead := toJson_arranged hv.1 h.1 hheaded ht
      simp [ofJsonMembers, ht, tablesLast, hline, hheaded, toJsonMembers, hhead, hrest,
        Json.headedLast]
    · simp [ofJsonMembers, ht, tablesLast, hline, hheaded, hrest, Json.headedLast]

theorem toJsonItems_arrangedRows : ∀ {items : List Json}, Json.ProperItems items →
    Json.LastingItems items → items.any isPlainItem = false →
      toJsonItems (arrangedRows (ofJsonItems items)) = Json.arrangedItems items
  | [], _, _, _ => rfl
  | .obj members :: vs, hv, h, hplain => by
    have hhead := toJson_arranged (v := .obj members) hv.1 h.1 rfl rfl
    have hrest := toJsonItems_arrangedRows hv.2 h.2 hplain
    rw [ofJsonItems, ofJson?]
    dsimp only
    rw [arrangedRows, toJsonItems, hrest, Json.arrangedItems]
    exact congrArg (· :: _) hhead
  | .null :: _, _, h, _ => h.1.elim
  | .bool _ :: _, _, _, hplain => by cases hplain
  | .int _ :: _, _, _, hplain => by cases hplain
  | .float _ :: _, _, _, hplain => by cases hplain
  | .str _ :: _, _, _, hplain => by cases hplain
  | .arr _ :: _, _, _, hplain => by cases hplain

end

end Toml

end FirmwareSurvey
