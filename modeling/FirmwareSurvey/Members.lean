/-!
# Lists and tables in order

Lists are sorted by a relation, and tables keep the order in which their names came up.
-/

/-!
## Sorting

A list is sorted by putting its items one after another in front of the first item they do not come
after, from the last item on. The result holds the same items (`sort_perm`), none before one that it
comes after (`pairwise_sort`), and items of one rank keep their order.
-/

namespace FirmwareSurvey.Sorting

variable {α : Type} (le : α → α → Bool)

/-- Puts an item in front of the first one that it does not come after. -/
def insert (a : α) : List α → List α
  | [] => [a]
  | b :: rest => if le a b then a :: b :: rest else b :: insert a rest

/-- A list sorted by a relation. -/
def sort (items : List α) : List α := items.foldr (insert le) []

theorem insert_perm (a : α) (items : List α) : (insert le a items).Perm (a :: items) := by
  induction items with
  | nil => exact List.Perm.refl _
  | cons b rest ih =>
    by_cases h : le a b
    · simp [insert, h]
    · rw [insert, if_neg h]
      exact (ih.cons b).trans (List.Perm.swap a b rest)

theorem sort_perm (items : List α) : (sort le items).Perm items := by
  induction items with
  | nil => exact List.Perm.refl _
  | cons a rest ih => exact (insert_perm le a (sort le rest)).trans (ih.cons a)

@[simp] theorem mem_sort {a : α} {items : List α} : a ∈ sort le items ↔ a ∈ items :=
  (sort_perm le items).mem_iff

variable {le}

theorem pairwise_insert (total : ∀ a b, le a b || le b a)
    (trans : ∀ a b c, le a b → le b c → le a c) (a : α) {items : List α}
    (h : items.Pairwise fun a b => le a b) : (insert le a items).Pairwise fun a b => le a b := by
  induction items with
  | nil => simp [insert]
  | cons b rest ih =>
    obtain ⟨hb, hrest⟩ := List.pairwise_cons.1 h
    by_cases hab : le a b
    · rw [insert, if_pos hab]
      refine List.pairwise_cons.2 ⟨fun c hc => ?_, h⟩
      rcases List.mem_cons.1 hc with rfl | hc
      · exact hab
      · exact trans a b c hab (hb c hc)
    · rw [insert, if_neg hab]
      refine List.pairwise_cons.2 ⟨fun c hc => ?_, ih hrest⟩
      rcases List.mem_cons.1 ((insert_perm le a rest).mem_iff.1 hc) with rfl | hc
      · have := total c b
        simpa [hab] using this
      · exact hb c hc

/-- The items of a sorted list stand in order, for a relation under which any two can be put in
order. -/
theorem pairwise_sort (total : ∀ a b, le a b || le b a)
    (trans : ∀ a b c, le a b → le b c → le a c) (items : List α) :
    (sort le items).Pairwise fun a b => le a b := by
  induction items with
  | nil => exact List.Pairwise.nil
  | cons a rest ih => exact pairwise_insert total trans a ih

end FirmwareSurvey.Sorting

/-!
## Ordered tables

A table is a list of named members in the order in which their names first came up. `put` keeps
that order: a known name gets the new value in its old place, a new name goes to the end. So a
table built by `put` alone has no name twice (`keys_nodup_put`).
-/

namespace FirmwareSurvey

/-- Named members, in order. -/
abbrev Members (α : Type) := List (String × α)

namespace Members

variable {α : Type}

/-- The names of a table, in order. -/
def keys (m : Members α) : List String := m.map (·.1)

/-- The value under a name. -/
def get? (m : Members α) (k : String) : Option α :=
  match m with
  | [] => none
  | (k', v) :: rest => if k' = k then some v else get? rest k

/-- Whether a name is known. -/
def has (m : Members α) (k : String) : Bool := (m.get? k).isSome

/-- Puts a value under a name: in its old place when the name is known, else at the end. -/
def put (m : Members α) (k : String) (v : α) : Members α :=
  match m with
  | [] => [(k, v)]
  | (k', v') :: rest => if k' = k then (k', v) :: rest else (k', v') :: put rest k v

/-- A table without the member of a name. -/
def drop (m : Members α) (k : String) : Members α := m.filter (·.1 != k)

/-- The members of a list of pairs, put one after another. -/
def ofList (l : List (String × α)) : Members α := l.foldl (fun m p => m.put p.1 p.2) []

/-- The members sorted by name. -/
def sorted (m : Members α) : Members α := Sorting.sort (fun a b => decide (a.1 ≤ b.1)) m

/-! ### Looking up what was put -/

@[simp] theorem get?_nil (k : String) : get? ([] : Members α) k = none := rfl

theorem get?_cons (k' : String) (v : α) (m : Members α) (k : String) :
    get? ((k', v) :: m) k = if k' = k then some v else m.get? k := rfl

@[simp] theorem get?_put_self (m : Members α) (k : String) (v : α) :
    (m.put k v).get? k = some v := by
  induction m with
  | nil => simp [put, get?]
  | cons p m ih =>
    obtain ⟨k', v'⟩ := p
    by_cases h : k' = k
    · simp [put, get?, h]
    · simpa [put, get?, h] using ih

theorem get?_put_of_ne (m : Members α) {k j : String} (v : α) (h : k ≠ j) :
    (m.put k v).get? j = m.get? j := by
  induction m with
  | nil => simp [put, get?, h]
  | cons p m ih =>
    obtain ⟨k', v'⟩ := p
    by_cases hk : k' = k
    · subst hk
      simp [put, get?, h]
    · simp only [put, if_neg hk, get?, ih]

theorem get?_put (m : Members α) (k j : String) (v : α) :
    (m.put k v).get? j = if k = j then some v else m.get? j := by
  by_cases h : k = j
  · subst h; simp
  · rw [get?_put_of_ne m v h, if_neg h]

/-- A new name goes to the end, a known one stays where it is. -/
theorem keys_put (m : Members α) (k : String) (v : α) :
    (m.put k v).keys = if k ∈ m.keys then m.keys else m.keys ++ [k] := by
  induction m with
  | nil => simp [put, keys]
  | cons p m ih =>
    obtain ⟨k', v'⟩ := p
    by_cases h : k' = k
    · simp [put, keys, h]
    · have h' : k ≠ k' := Ne.symm h
      simp only [put, if_neg h, keys, List.map_cons, List.mem_cons, h', false_or] at ih ⊢
      rw [ih]
      by_cases hk : k ∈ List.map (·.1) m <;> simp [hk]

theorem keys_nodup_put {m : Members α} (h : m.keys.Nodup) (k : String) (v : α) :
    (m.put k v).keys.Nodup := by
  rw [keys_put]
  split
  · exact h
  · rename_i hk
    rw [List.nodup_append]
    refine ⟨h, by simp, ?_⟩
    intro a ha b hb
    simp only [List.mem_singleton] at hb
    subst hb
    exact fun hab => hk (hab ▸ ha)

end Members

end FirmwareSurvey
