import FirmwareSurvey.Proofs.Toml.RoundTrip

/-!
# JSON through TOML and back

A JSON value is *proper* when it is one that can be there: its integers are words, its doubles are
finite, and no object has a name twice. It goes into a proper TOML value, and an object goes member
by member: what stands under a name is the value of that name in TOML, if it has one.

What comes back of a JSON value that went into TOML is the value without its nulls, its great
integers as texts (`toJson_ofJson?`). A document that reads back changes no more than the order of
members, so what is read from it is the same value up to that order (`same_toJson`).
-/

namespace FirmwareSurvey

/-! ### JSON in TOML -/

namespace Json

mutual

/-- A value whose integers are words, whose doubles are finite and whose objects have no name
twice. -/
def Proper : Json → Prop
  | .null => True
  | .bool _ => True
  | .int n => IsWord n
  | .float x => x.isFinite = true
  | .str _ => True
  | .arr items => ProperItems items
  | .obj members => (Members.keys members).Nodup ∧ ProperMembers members

/-- The items of a list are proper. -/
def ProperItems : List Json → Prop
  | [] => True
  | v :: vs => Proper v ∧ ProperItems vs

/-- The values of an object are proper. -/
def ProperMembers : List (String × Json) → Prop
  | [] => True
  | (_, v) :: ms => Proper v ∧ ProperMembers ms

end

theorem properMembers_iff {members : List (String × Json)} :
    ProperMembers members ↔ ∀ m ∈ members, m.2.Proper := by
  induction members with
  | nil => simp [ProperMembers]
  | cons m ms ih =>
    obtain ⟨k, v⟩ := m
    simp [ProperMembers, ih]

end Json

namespace Toml

/-- The names of an object in TOML are those whose values have a counterpart. -/
theorem keys_ofJsonMembers_sublist (members : List (String × Json)) :
    (Members.keys (ofJsonMembers members)).Sublist (Members.keys members) := by
  induction members with
  | nil => simp [ofJsonMembers]
  | cons m ms ih =>
    obtain ⟨k, v⟩ := m
    simp only [ofJsonMembers]
    split
    · exact ih.cons_cons k
    · exact ih.cons k

mutual

/-- **A proper JSON value goes into a proper TOML value.** -/
theorem proper_ofJson? : ∀ {v : Json} {t : Toml}, v.Proper → ofJson? v = some t → t.Proper
  | .null, _, _, h => by simp [ofJson?] at h
  | .bool _, _, _, h => by
    cases h
    trivial
  | .int n, t, hv, h => by
    rw [ofJson?] at h
    split at h
    · rename_i hn
      cases h
      exact ⟨hv.1, hn⟩
    · cases h
      trivial
  | .float x, _, hv, h => by
    cases h
    exact hv
  | .str _, _, _, h => by
    cases h
    trivial
  | .arr items, _, hv, h => by
    cases h
    exact proper_ofJsonItems hv
  | .obj members, _, hv, h => by
    cases h
    exact ⟨hv.1.sublist (keys_ofJsonMembers_sublist members), proper_ofJsonMembers hv.2⟩

theorem proper_ofJsonItems : ∀ {items : List Json}, Json.ProperItems items →
    ProperItems (ofJsonItems items)
  | [], _ => trivial
  | v :: vs, hv => by
    rw [ofJsonItems]
    split
    · rename_i t ht
      exact ⟨proper_ofJson? hv.1 ht, proper_ofJsonItems hv.2⟩
    · exact proper_ofJsonItems hv.2

theorem proper_ofJsonMembers : ∀ {members : List (String × Json)}, Json.ProperMembers members →
    ProperMembers (ofJsonMembers members)
  | [], _ => trivial
  | (k, v) :: ms, hv => by
    rw [ofJsonMembers]
    split
    · rename_i t ht
      exact ⟨proper_ofJson? hv.1 ht, proper_ofJsonMembers hv.2⟩
    · exact proper_ofJsonMembers hv.2

end

/-- **An object goes into TOML member by member.** -/
theorem get?_ofJsonMembers {members : List (String × Json)} (h : (Members.keys members).Nodup)
    (k : String) :
    Members.get? (ofJsonMembers members) k = (Members.get? members k).bind ofJson? := by
  induction members with
  | nil => rfl
  | cons m ms ih =>
    obtain ⟨l, v⟩ := m
    obtain ⟨hl, hms⟩ := List.nodup_cons.1 h
    have ih := ih hms
    by_cases hlk : l = k
    · subst hlk
      have hnone : Members.get? (ofJsonMembers ms) l = none :=
        Members.get?_eq_none_iff.2 fun hmem => hl ((keys_ofJsonMembers_sublist ms).subset hmem)
      rw [ofJsonMembers]
      cases ht : ofJson? v <;> simp [Members.get?, ht, hnone]
    · rw [ofJsonMembers]
      cases ht : ofJson? v <;> simp [Members.get?, hlk, ih]

theorem ofJson?_ne_none {v : Json} (h : v ≠ .null) : ∃ t, ofJson? v = some t := by
  cases v with
  | null => exact absurd rfl h
  | int n =>
    by_cases hn : n < 0x8000000000000000 <;> simp [ofJson?, hn]
  | _ => exact ⟨_, rfl⟩

theorem sameMembers_congr {ms ns ns' : List (String × Toml)}
    (h : ∀ k, Members.get? ns k = Members.get? ns' k) : SameMembers ms ns ↔ SameMembers ms ns' := by
  induction ms with
  | nil => exact Iff.rfl
  | cons m ms ih =>
    obtain ⟨k, v⟩ := m
    rw [SameMembers, SameMembers, h k, ih]

/-- The order of members does not matter for whether tables are the same. -/
theorem same_table_perm {ms ns ns' : List (String × Toml)} (h : ns.Perm ns')
    (hns : (Members.keys ns).Nodup) :
    Same (.table ms) (.table ns) ↔ Same (.table ms) (.table ns') := by
  have hkeys : (Members.keys ns).Perm (Members.keys ns') := h.map _
  rw [Same, Same, sameMembers_congr fun k => Members.get?_perm h hns k]
  exact and_congr_left fun _ => ⟨fun hms => hms.trans hkeys, fun hms => hms.trans hkeys.symm⟩

end Toml

namespace Json

/-! ### Equal values -/

mutual

/-- Whether two values are equal. -/
def equals : Json → Json → Bool
  | .null, .null => true
  | .bool a, .bool b => a == b
  | .int a, .int b => a == b
  | .float a, .float b => a == b
  | .str a, .str b => a == b
  | .arr as, .arr bs => equalItems as bs
  | .obj ms, .obj ns => equalMembers ms ns
  | _, _ => false

/-- Whether the items of two lists are equal. -/
def equalItems : List Json → List Json → Bool
  | [], [] => true
  | a :: as, b :: bs => equals a b && equalItems as bs
  | _, _ => false

/-- Whether the members of two objects are equal. -/
def equalMembers : List (String × Json) → List (String × Json) → Bool
  | [], [] => true
  | (k, a) :: ms, (l, b) :: ns => k == l && equals a b && equalMembers ms ns
  | _, _ => false

end

mutual

theorem equals_iff : ∀ {v w : Json}, equals v w = true ↔ v = w
  | .null, w => by cases w <;> simp [equals]
  | .bool a, w => by cases w <;> simp [equals]
  | .int a, w => by cases w <;> simp [equals]
  | .float a, w => by cases w <;> simp [equals]
  | .str a, w => by cases w <;> simp [equals]
  | .arr as, w => by cases w <;> simp [equals, equalItems_iff]
  | .obj ms, w => by cases w <;> simp [equals, equalMembers_iff]

theorem equalItems_iff : ∀ {vs ws : List Json}, equalItems vs ws = true ↔ vs = ws
  | [], ws => by cases ws <;> simp [equalItems]
  | v :: vs, ws => by cases ws <;> simp [equalItems, equals_iff, equalItems_iff]

theorem equalMembers_iff : ∀ {ms ns : List (String × Json)}, equalMembers ms ns = true ↔ ms = ns
  | [], ns => by cases ns <;> simp [equalMembers]
  | (k, v) :: ms, ns => by
    rcases ns with _ | ⟨⟨l, w⟩, ns⟩ <;> simp [equalMembers, equals_iff, equalMembers_iff]

end

instance : DecidableEq Json := fun _ _ => decidable_of_iff _ equals_iff

/-! ### Values that are the same -/

mutual

/-- Whether two values are the same up to the order of members. -/
def Same : Json → Json → Prop
  | .arr as, .arr bs => SameItems as bs
  | .obj ms, .obj ns => (Members.keys ms).Perm (Members.keys ns) ∧ SameMembers ms ns
  | .arr _, _ => False
  | .obj _, _ => False
  | .null, w => .null = w
  | .bool b, w => .bool b = w
  | .int n, w => .int n = w
  | .float x, w => .float x = w
  | .str s, w => .str s = w

/-- Whether the items of two lists are the same one by one. -/
def SameItems : List Json → List Json → Prop
  | [], [] => True
  | v :: vs, w :: ws => Same v w ∧ SameItems vs ws
  | _, _ => False

/-- Whether every member of an object has the same value in another. -/
def SameMembers : List (String × Json) → List (String × Json) → Prop
  | [], _ => True
  | (k, v) :: ms, ns => (∃ w, Members.get? ns k = some w ∧ Same v w) ∧ SameMembers ms ns

end

/-! ### Values without nulls -/

/-- Nothing but null goes. -/
theorem eq_null_of_withoutNulls? {v : Json} (h : v.withoutNulls? = none) : v = .null := by
  cases v with
  | null => rfl
  | int n => by_cases hn : n < 0x8000000000000000 <;> simp [withoutNulls?, hn] at h
  | _ => simp [withoutNulls?] at h

theorem keys_withoutNullMembers_sublist (members : List (String × Json)) :
    (Members.keys (withoutNullMembers members)).Sublist (Members.keys members) := by
  induction members with
  | nil => simp [withoutNullMembers]
  | cons m ms ih =>
    obtain ⟨k, v⟩ := m
    simp only [withoutNullMembers]
    split
    · exact ih.cons_cons k
    · exact ih.cons k

mutual

/-- **What is left of a proper value is proper.** -/
theorem proper_withoutNulls? : ∀ {v n : Json}, v.Proper → v.withoutNulls? = some n → n.Proper
  | .null, _, _, h => by cases h
  | .bool _, _, _, h => by
    cases h
    trivial
  | .int n, _, hv, h => by
    rw [withoutNulls?] at h
    split at h
    · cases h
      exact hv
    · cases h
      trivial
  | .float x, _, hv, h => by
    cases h
    exact hv
  | .str _, _, _, h => by
    cases h
    trivial
  | .arr items, _, hv, h => by
    cases h
    exact proper_withoutNullItems hv
  | .obj members, _, hv, h => by
    cases h
    exact ⟨hv.1.sublist (keys_withoutNullMembers_sublist members), proper_withoutNullMembers hv.2⟩

theorem proper_withoutNullItems : ∀ {items : List Json}, ProperItems items →
    ProperItems (withoutNullItems items)
  | [], _ => trivial
  | v :: vs, hv => by
    rw [withoutNullItems]
    split
    · rename_i n hn
      exact ⟨proper_withoutNulls? hv.1 hn, proper_withoutNullItems hv.2⟩
    · exact proper_withoutNullItems hv.2

theorem proper_withoutNullMembers : ∀ {members : List (String × Json)}, ProperMembers members →
    ProperMembers (withoutNullMembers members)
  | [], _ => trivial
  | (k, v) :: ms, hv => by
    rw [withoutNullMembers]
    split
    · rename_i n hn
      exact ⟨proper_withoutNulls? hv.1 hn, proper_withoutNullMembers hv.2⟩
    · exact proper_withoutNullMembers hv.2

end

end Json

namespace Toml

theorem keys_toJsonMembers (members : List (String × Toml)) :
    Members.keys (toJsonMembers members) = Members.keys members := by
  induction members with
  | nil => rfl
  | cons m ms ih =>
    obtain ⟨k, v⟩ := m
    simp [toJsonMembers, ih]

theorem get?_toJsonMembers (members : List (String × Toml)) (k : String) :
    Members.get? (toJsonMembers members) k = (Members.get? members k).map toJson := by
  induction members with
  | nil => rfl
  | cons m ms ih =>
    obtain ⟨l, v⟩ := m
    by_cases h : l = k <;> simp [toJsonMembers, Members.get?, h, ih]

mutual

/-- **Values that are the same up to the order of members are so in JSON.** -/
theorem same_toJson : ∀ {v w : Toml}, Same v w → Json.Same v.toJson w.toJson
  | .array as, w, h => by
    cases w with
    | array bs =>
      rw [Same] at h
      rw [toJson, toJson, Json.Same]
      exact sameItems_toJson h
    | _ => exact absurd h (by simp [Same])
  | .table ms, w, h => by
    cases w with
    | table ns =>
      rw [Same] at h
      rw [toJson, toJson, Json.Same, keys_toJsonMembers, keys_toJsonMembers]
      exact ⟨h.1, sameMembers_toJson h.2⟩
    | _ => exact absurd h (by simp [Same])
  | .str s, w, h => by
    cases h
    simp [toJson, Json.Same]
  | .int n, w, h => by
    cases h
    simp [toJson, Json.Same]
  -- a double that JSON cannot say is null on both sides
  | .float x, w, h => by
    cases h
    by_cases hx : x.isFinite = true <;> simp [toJson, Json.Same, hx]
  | .bool b, w, h => by
    cases h
    simp [toJson, Json.Same]
  | .moment t, w, h => by
    cases h
    simp [toJson, Json.Same, Json.SameMembers, Members.get?]

theorem sameItems_toJson : ∀ {as bs : List Toml}, SameItems as bs →
    Json.SameItems (toJsonItems as) (toJsonItems bs)
  | [], [], _ => trivial
  | [], _ :: _, h => absurd h (by simp [SameItems])
  | _ :: _, [], h => absurd h (by simp [SameItems])
  | _ :: _, _ :: _, h => ⟨same_toJson h.1, sameItems_toJson h.2⟩

theorem sameMembers_toJson : ∀ {ms ns : List (String × Toml)}, SameMembers ms ns →
    Json.SameMembers (toJsonMembers ms) (toJsonMembers ns)
  | [], _, _ => trivial
  | (k, v) :: ms, ns, h => by
    obtain ⟨⟨w, hw, hsame⟩, hrest⟩ := h
    rw [toJsonMembers, Json.SameMembers]
    exact ⟨⟨w.toJson, by rw [get?_toJsonMembers, hw]; rfl, same_toJson hsame⟩,
      sameMembers_toJson hrest⟩

end

mutual

/-- **What comes back through TOML is the value without its nulls.** -/
theorem toJson_ofJson? : ∀ {v : Json}, v.Proper → (ofJson? v).map toJson = v.withoutNulls?
  | .null, _ => rfl
  | .bool _, _ => rfl
  | .int n, _ => by
    by_cases hn : n < 0x8000000000000000 <;> simp [ofJson?, Json.withoutNulls?, hn, toJson]
  | .float x, hv => by
    have hx : x.isFinite = true := hv
    simp [ofJson?, Json.withoutNulls?, toJson, hx]
  | .str _, _ => rfl
  | .arr items, hv => by
    have hitems : Json.ProperItems items := hv
    simp [ofJson?, Json.withoutNulls?, toJson, toJsonItems_ofJsonItems hitems]
  | .obj members, hv => by
    simp [ofJson?, Json.withoutNulls?, toJson, toJsonMembers_ofJsonMembers hv.2]

theorem toJsonItems_ofJsonItems : ∀ {items : List Json}, Json.ProperItems items →
    toJsonItems (ofJsonItems items) = Json.withoutNullItems items
  | [], _ => rfl
  | v :: vs, hv => by
    have hhead := toJson_ofJson? hv.1
    rw [ofJsonItems, Json.withoutNullItems, ← hhead]
    cases ofJson? v <;> simp [toJsonItems, toJsonItems_ofJsonItems hv.2]

theorem toJsonMembers_ofJsonMembers : ∀ {members : List (String × Json)},
    Json.ProperMembers members →
      toJsonMembers (ofJsonMembers members) = Json.withoutNullMembers members
  | [], _ => rfl
  | (k, v) :: ms, hv => by
    have hhead := toJson_ofJson? hv.1
    rw [ofJsonMembers, Json.withoutNullMembers, ← hhead]
    cases ofJson? v <;> simp [toJsonMembers, toJsonMembers_ofJsonMembers hv.2]

end

/-! ### Values without nulls -/

mutual

/-- **A value without its nulls is the same in TOML.** -/
theorem ofJson?_withoutNulls? : ∀ {v n : Json}, v.withoutNulls? = some n → ofJson? n = ofJson? v
  | .null, _, h => by cases h
  | .bool _, _, h => by
    cases h
    rfl
  | .int n, _, h => by
    rw [Json.withoutNulls?] at h
    split at h
    · cases h
      rfl
    · rename_i hn
      cases h
      simp [ofJson?, hn]
  | .float _, _, h => by
    cases h
    rfl
  | .str _, _, h => by
    cases h
    rfl
  | .arr items, _, h => by
    cases h
    rw [ofJson?, ofJson?, ofJsonItems_withoutNullItems items]
  | .obj members, _, h => by
    cases h
    rw [ofJson?, ofJson?, ofJsonMembers_withoutNullMembers members]

theorem ofJsonItems_withoutNullItems : ∀ items : List Json,
    ofJsonItems (Json.withoutNullItems items) = ofJsonItems items
  | [] => rfl
  | v :: vs => by
    rw [Json.withoutNullItems, ofJsonItems]
    cases hn : v.withoutNulls? with
    | none =>
      obtain rfl : v = .null := Json.eq_null_of_withoutNulls? hn
      exact ofJsonItems_withoutNullItems vs
    | some n =>
      dsimp only
      rw [ofJsonItems, ofJson?_withoutNulls? hn, ofJsonItems_withoutNullItems vs]

theorem ofJsonMembers_withoutNullMembers : ∀ members : List (String × Json),
    ofJsonMembers (Json.withoutNullMembers members) = ofJsonMembers members
  | [] => rfl
  | (k, v) :: ms => by
    rw [Json.withoutNullMembers, ofJsonMembers]
    cases hn : v.withoutNulls? with
    | none =>
      obtain rfl : v = .null := Json.eq_null_of_withoutNulls? hn
      exact ofJsonMembers_withoutNullMembers ms
    | some n =>
      dsimp only
      rw [ofJsonMembers, ofJson?_withoutNulls? hn, ofJsonMembers_withoutNullMembers ms]

end

end Toml

end FirmwareSurvey
