import FirmwareSurvey.Members

/-!
# Tables and their names

What is found under a name, in terms of the names a table has, and where `put` leaves the other
members: a new name goes to the end, so putting one is appending one. A row of names that takes each
name once has the names it was made of.
-/

namespace FirmwareSurvey.Sorting

variable {α : Type} (key : α → String)

/-- Items that are sorted by a text stand in the order of these texts. -/
theorem pairwise_sort_key (items : List α) :
    (sort (fun a b => decide (key a ≤ key b)) items).Pairwise fun a b => key a ≤ key b := by
  refine (pairwise_sort (fun a b => ?_) (fun a b c hab hbc => ?_) items).imp of_decide_eq_true
  · simpa using String.le_total (key a) (key b)
  · exact decide_eq_true (String.le_trans (of_decide_eq_true hab) (of_decide_eq_true hbc))

theorem pairwise_sort_key_of_nodup {items : List α} (h : (items.map key).Nodup) :
    (sort (fun a b => decide (key a ≤ key b)) items).Pairwise fun a b => key a < key b := by
  have hnodup := ((sort_perm (fun a b => decide (key a ≤ key b)) items).map key).nodup_iff.2 h
  refine (List.pairwise_map.1 hnodup).imp₂ (fun a b hne hle => ?_) (pairwise_sort_key key items)
  exact Decidable.byContradiction fun hlt => hne (String.le_antisymm hle (String.not_lt.1 hlt))

end FirmwareSurvey.Sorting

namespace FirmwareSurvey.Members

variable {α : Type}

@[simp] theorem keys_nil : keys ([] : Members α) = [] := rfl

@[simp] theorem keys_cons (k : String) (v : α) (m : Members α) :
    keys ((k, v) :: m) = k :: keys m := rfl

@[simp] theorem keys_append (m n : Members α) : keys (m ++ n) = keys m ++ keys n := by
  simp [keys]

theorem get?_eq_none_iff {m : Members α} {k : String} : get? m k = none ↔ k ∉ keys m := by
  induction m with
  | nil => simp
  | cons p m ih =>
    obtain ⟨k', v⟩ := p
    by_cases h : k' = k
    · simp [get?, h]
    · simpa [get?, h, Ne.symm h] using ih

theorem isSome_get?_iff {m : Members α} {k : String} : (get? m k).isSome = true ↔ k ∈ keys m := by
  rw [← Option.ne_none_iff_isSome, ne_eq, get?_eq_none_iff, Decidable.not_not]

theorem has_iff {m : Members α} {k : String} : has m k = true ↔ k ∈ keys m :=
  isSome_get?_iff

theorem get?_append (m n : Members α) (k : String) :
    get? (m ++ n) k = (get? m k).or (get? n k) := by
  induction m with
  | nil => rfl
  | cons p m ih =>
    obtain ⟨k', v⟩ := p
    by_cases h : k' = k
    · simp [get?, h]
    · simpa [get?, h] using ih

theorem mem_of_get? {m : Members α} {k : String} {v : α} (h : get? m k = some v) : (k, v) ∈ m := by
  induction m with
  | nil => simp at h
  | cons p m ih =>
    obtain ⟨k', v'⟩ := p
    by_cases hk : k' = k
    · simp only [get?, hk, if_true, Option.some.injEq] at h
      simp [hk, h]
    · rw [get?, if_neg hk] at h
      exact List.mem_cons_of_mem _ (ih h)

/-- In a table without a name twice every member is the one found under its name. -/
theorem get?_of_mem {m : Members α} (hm : (keys m).Nodup) {k : String} {v : α} (h : (k, v) ∈ m) :
    get? m k = some v := by
  induction m with
  | nil => simp at h
  | cons p m ih =>
    obtain ⟨k', v'⟩ := p
    obtain ⟨hk', hm⟩ := List.nodup_cons.1 hm
    rcases List.mem_cons.1 h with heq | hmem
    · obtain ⟨rfl, rfl⟩ := heq
      simp [get?]
    · have hne : k' ≠ k := by
        rintro rfl
        exact hk' (List.mem_map_of_mem (f := (·.1)) hmem)
      rw [get?, if_neg hne]
      exact ih hm hmem

/-- The order of members does not matter for what is found under a name. -/
theorem get?_perm {m n : Members α} (h : m.Perm n) (hm : (keys m).Nodup) (k : String) :
    get? m k = get? n k := by
  have hn : (keys n).Nodup := (h.map fun p : String × α => p.1).nodup_iff.1 hm
  cases hk : get? m k with
  | none =>
    rw [get?_eq_none_iff] at hk
    exact (get?_eq_none_iff.2 fun hmem => hk ((h.map fun p => p.1).mem_iff.2 hmem)).symm
  | some v => exact (get?_of_mem hn (h.mem_iff.1 (mem_of_get? hk))).symm

/-- Under the name of something that has a value that value is found, when names are distinct. -/
theorem get?_filterMap_named {ι : Type} {name : ι → String} {value : ι → Option α} {is : List ι}
    (h : is.Pairwise fun i j => name j ≠ name i) {i : ι} (hi : i ∈ is) :
    get? (is.filterMap fun i => (value i).map fun v => (name i, v)) (name i) = value i := by
  induction is with
  | nil => cases hi
  | cons j is ih =>
    obtain ⟨hj, his⟩ := List.pairwise_cons.1 h
    rcases List.mem_cons.1 hi with rfl | hi
    · cases hv : value i with
      | some v => simp [hv, get?]
      | none =>
        rw [List.filterMap_cons_none (by simp [hv]), get?_eq_none_iff]
        intro hmem
        obtain ⟨p, hp, hname⟩ := List.mem_map.1 hmem
        obtain ⟨k, hk, hp⟩ := List.mem_filterMap.1 hp
        obtain ⟨v, -, rfl⟩ := Option.map_eq_some_iff.1 hp
        exact hj k hk hname
    · cases hv : value j with
      | some v => simpa [hv, get?, Ne.symm (hj i hi)] using ih his hi
      | none => simpa [hv] using ih his hi

theorem mem_put {m : Members α} {k : String} {v : α} {p : String × α} (h : p ∈ put m k v) :
    p ∈ m ∨ p = (k, v) := by
  induction m with
  | nil => exact Or.inr (List.mem_singleton.1 h)
  | cons q m ih =>
    obtain ⟨k', v'⟩ := q
    rw [put] at h
    split at h
    · rename_i hk
      rcases List.mem_cons.1 h with rfl | h
      · exact Or.inr (by rw [hk])
      · exact Or.inl (List.mem_cons_of_mem _ h)
    · rcases List.mem_cons.1 h with rfl | h
      · exact Or.inl List.mem_cons_self
      · rcases ih h with h | h
        · exact Or.inl (List.mem_cons_of_mem _ h)
        · exact Or.inr h

theorem mem_keys_put {m : Members α} {k j : String} {v : α} :
    j ∈ keys (put m k v) ↔ j ∈ keys m ∨ j = k := by
  rw [keys_put]
  split
  · rename_i hk
    exact ⟨Or.inl, fun h => h.elim id fun heq => heq ▸ hk⟩
  · simp

/-- The names of what is put one after another are those that it is put under. -/
theorem mem_keys_foldl_put {β : Type} (key : β → String) (value : β → α) {l : List β}
    {m : Members α} {k : String} :
    k ∈ keys (l.foldl (fun m b => put m (key b) (value b)) m) ↔ k ∈ keys m ∨ ∃ b ∈ l, key b = k := by
  induction l generalizing m with
  | nil => simp
  | cons b l ih =>
    rw [List.foldl_cons, ih, mem_keys_put, or_assoc, eq_comm]
    simp only [List.mem_cons, exists_eq_or_imp]

theorem sorted_perm (m : Members α) : (sorted m).Perm m := Sorting.sort_perm _ m

/-- **The order of members does not matter for how they are sorted**, when no name is there twice.
-/
theorem sorted_eq_of_perm {m n : Members α} (h : m.Perm n) (hm : (keys m).Nodup) :
    sorted m = sorted n := by
  have hsorted (m : Members α) := Sorting.pairwise_sort_key (fun p : String × α => p.1) m
  have hperm : (sorted m).Perm (sorted n) := (sorted_perm m).trans (h.trans (sorted_perm n).symm)
  refine hperm.eq_of_pairwise (fun p q hp hq hpq hqp => ?_) (hsorted m) (hsorted n)
  -- Two members of one name are one member.
  have hname : p.1 = q.1 := String.le_antisymm hpq hqp
  have hp := get?_of_mem hm ((sorted_perm m).mem_iff.1 hp)
  have hq := get?_of_mem hm (h.mem_iff.2 ((sorted_perm n).mem_iff.1 hq))
  rw [hname, hq] at hp
  exact Prod.ext hname (Option.some.inj hp).symm

/-- **A new name goes to the end.** -/
theorem put_eq_append {m : Members α} {k : String} (h : k ∉ keys m) (v : α) :
    put m k v = m ++ [(k, v)] := by
  induction m with
  | nil => rfl
  | cons p m ih =>
    obtain ⟨k', v'⟩ := p
    simp only [keys_cons, List.mem_cons, not_or] at h
    rw [put, if_neg (Ne.symm h.1), ih h.2]
    rfl

theorem put_append_of_not_mem {m : Members α} {k : String} (h : k ∉ keys m) (n : Members α)
    (v : α) : put (m ++ n) k v = m ++ put n k v := by
  induction m with
  | nil => rfl
  | cons p m ih =>
    obtain ⟨k', v'⟩ := p
    simp only [keys_cons, List.mem_cons, not_or] at h
    rw [List.cons_append, put, if_neg (Ne.symm h.1), ih h.2]
    rfl

theorem foldl_put_eq_append {l : List (String × α)} {m : Members α}
    (h : (keys (m ++ l)).Nodup) : l.foldl (fun m p => put m p.1 p.2) m = m ++ l := by
  induction l generalizing m with
  | nil => simp
  | cons p l ih =>
    have hnew : p.1 ∉ keys m := by
      rw [keys_append, List.nodup_append] at h
      exact fun hmem => h.2.2 _ hmem _ List.mem_cons_self rfl
    have hassoc : m ++ p :: l = (m ++ [p]) ++ l := by simp
    rw [hassoc] at h ⊢
    rw [List.foldl_cons, put_eq_append hnew, ih h]

/-- **Members with distinct names are put together as they are.** -/
theorem ofList_eq_self {l : List (String × α)} (h : (keys l).Nodup) : ofList l = l :=
  foldl_put_eq_append (m := []) h

/-- What is among the names when those that are new are added one after another. -/
theorem mem_foldl_distinct {names seen : List String} {k : String} :
    k ∈ names.foldl (fun seen n => if n ∈ seen then seen else seen ++ [n]) seen ↔
      k ∈ seen ∨ k ∈ names := by
  induction names generalizing seen with
  | nil => simp
  | cons n names ih =>
    rw [List.foldl_cons, ih]
    split
    · rename_i hn
      constructor
      · rintro (h | h)
        · exact Or.inl h
        · exact Or.inr (List.mem_cons_of_mem _ h)
      · rintro (h | h)
        · exact Or.inl h
        · rcases List.mem_cons.1 h with rfl | h
          · exact Or.inl hn
          · exact Or.inr h
    · simp [or_assoc]

end FirmwareSurvey.Members
