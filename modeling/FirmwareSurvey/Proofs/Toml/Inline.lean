import FirmwareSurvey.Proofs.Members
import FirmwareSurvey.Proofs.Toml.Number

/-!
# Values on one line read back

Arrays and tables may nest only so deep, so a value reads back when it fits (`fitsInline`) and is
refused when it does not: `value?_inlineText` says both in one equation. It speaks of proper values:
integers are those of a signed word, doubles are finite, no table has a name twice, and no moment
occurs.
-/

namespace FirmwareSurvey.Toml

/-! ### Proper values -/

mutual

/-- A value that can be written: its integers are words, its doubles are finite, its tables have no
name twice, and there is no moment in it. -/
def Proper : Toml → Prop
  | .str _ => True
  | .int n => IsWord n
  | .float x => x.isFinite = true
  | .bool _ => True
  | .moment _ => False
  | .array items => ProperItems items
  | .table members => (Members.keys members).Nodup ∧ ProperMembers members

/-- The items of an array are proper. -/
def ProperItems : List Toml → Prop
  | [] => True
  | v :: vs => Proper v ∧ ProperItems vs

/-- The values of a table are proper. -/
def ProperMembers : List (String × Toml) → Prop
  | [] => True
  | (_, v) :: ms => Proper v ∧ ProperMembers ms

end

mutual

/-- Whether a value that stands `depth` arrays and tables deep on its line can be read there. -/
def fitsInline (depth : Nat) : Toml → Bool
  | .array items => depth < nestingLimit && itemsFitInline (depth + 1) items
  | .table members => depth < nestingLimit && membersFitInline (depth + 1) members
  | _ => true

/-- Whether the items of an array can be read. -/
def itemsFitInline (depth : Nat) : List Toml → Bool
  | [] => true
  | v :: vs => fitsInline depth v && itemsFitInline depth vs

/-- Whether the values of a table can be read. -/
def membersFitInline (depth : Nat) : List (String × Toml) → Bool
  | [] => true
  | (_, v) :: ms => fitsInline depth v && membersFitInline depth ms

end

/-! ### How a value starts -/

/-- A character that a value may start with. -/
def StartsValue (c : Char) : Prop :=
  c ∉ [' ', '\t', '\n', '\r', '#', ']']

theorem startsValue_of_isAsciiDigit {c : Char} (h : Text.isAsciiDigit c = true) :
    StartsValue c := by
  intro hmem
  simp only [List.mem_cons, List.not_mem_nil, or_false] at hmem
  rcases hmem with rfl | rfl | rfl | rfl | rfl | rfl <;> exact absurd h (by decide)

theorem exists_textChars (cs : List Char) :
    ∃ c r, textChars cs = c :: r ∧ (c = '"' ∨ c = '\'') := by
  unfold textChars
  match spelling cs with
  | .quotes => exact ⟨_, _, rfl, Or.inl rfl⟩
  | .apostrophes => exact ⟨_, _, rfl, Or.inr rfl⟩
  | .tripleQuotes => exact ⟨_, _, rfl, Or.inl rfl⟩
  | .tripleApostrophes => exact ⟨_, _, rfl, Or.inr rfl⟩

theorem exists_signChars (negative : Bool) {ds : List Char} (h : Text.IsWhole ds)
    (rest : List Char) : ∃ c r, signChars negative ++ (ds ++ rest) = c :: r ∧ StartsValue c := by
  cases negative with
  | true => exact ⟨_, _, rfl, by simp [StartsValue]⟩
  | false =>
    obtain ⟨d, r, rfl, hd⟩ := h.exists_cons
    exact ⟨d, _, rfl, startsValue_of_isAsciiDigit hd⟩

/-- No value is empty, and none starts like what may stand before it. -/
theorem exists_inlineText {v : Toml} (hv : v.Proper) :
    ∃ c r, (inlineText v).toList = c :: r ∧ StartsValue c := by
  match v with
  | .str s =>
    obtain ⟨c, r, hcs, hc⟩ := exists_textChars s.toList
    refine ⟨c, r, by simp [inlineText, hcs], ?_⟩
    rcases hc with rfl | rfl <;> simp [StartsValue]
  | .int n =>
    have := exists_signChars (decide (n < 0)) (Text.isWhole_toDigits n.natAbs) []
    simpa [inlineText, toList_intText] using this
  | .float x =>
    obtain ⟨whole, fraction, n, htext, hwhole, -⟩ := x.shortest.saidBy_positional
    have hx : x.isFinite = true := hv
    have := exists_signChars x.isNegative hwhole ('.' :: fraction)
    simpa [inlineText, floatText, hx, Binary64.plainText, htext, signChars] using this
  | .bool true => exact ⟨'t', ['r', 'u', 'e'], rfl, by simp [StartsValue]⟩
  | .bool false => exact ⟨'f', ['a', 'l', 's', 'e'], rfl, by simp [StartsValue]⟩
  | .moment _ => exact absurd hv (by simp [Proper])
  | .array items => exact ⟨'[', _, by simp [inlineText]; rfl, by simp [StartsValue]⟩
  | .table [] => exact ⟨'\x7b', _, by simp [inlineText]; rfl, by simp [StartsValue]⟩
  | .table (m :: ms) => exact ⟨'\x7b', _, by simp [inlineText]; rfl, by simp [StartsValue]⟩

theorem skipSpace_cons {c : Char} (h : StartsValue c ∨ c = ']') (cs : List Char) :
    skipSpace (c :: cs) = c :: cs := by
  have hne : c ≠ '\n' ∧ c ≠ '\r' ∧ isLineBlank c = false ∧ c ≠ '#' := by
    rcases h with h | rfl
    · simp only [StartsValue, List.mem_cons, List.not_mem_nil, or_false, not_or] at h
      simp [isLineBlank, h]
    · decide
  obtain ⟨h1, h2, h3, h4⟩ := hne
  simp [skipSpace, skipSpaceFrom, h2, h3, h4]

theorem skipLineBlanks_cons {c : Char} (h : StartsValue c) (cs : List Char) :
    skipLineBlanks (c :: cs) = c :: cs := by
  simp only [StartsValue, List.mem_cons, List.not_mem_nil, or_false, not_or] at h
  simp [skipLineBlanks, isLineBlank, h]

/-! ### Values -/

/-- The items of an array as they are written. -/
def itemsChars (items : List Toml) : List Char := (", ".intercalate (inlineItems items)).toList

/-- The members of a table within a value as they are written. -/
def membersChars (members : List (String × Toml)) : List Char :=
  (", ".intercalate (inlineMembers members)).toList

theorem itemsChars_singleton (v : Toml) : itemsChars [v] = (inlineText v).toList := by
  simp [itemsChars, inlineItems]

theorem itemsChars_cons (v w : Toml) (vs : List Toml) :
    itemsChars (v :: w :: vs) = (inlineText v).toList ++ ',' :: ' ' :: itemsChars (w :: vs) := by
  simp [itemsChars, inlineItems]

theorem membersChars_singleton (k : String) (v : Toml) :
    membersChars [(k, v)] = keyPathChars [k] ++ ' ' :: '=' :: ' ' :: (inlineText v).toList := by
  simp [membersChars, inlineMembers, keyPathChars_singleton, keyText]

theorem membersChars_cons (k : String) (v : Toml) (m : String × Toml) (ms : List (String × Toml)) :
    membersChars ((k, v) :: m :: ms) =
      keyPathChars [k] ++ ' ' :: '=' :: ' ' :: ((inlineText v).toList ++
        ',' :: ' ' :: membersChars (m :: ms)) := by
  obtain ⟨l, w⟩ := m
  simp [membersChars, inlineMembers, keyPathChars_singleton, keyText]

theorem inlineText_array (items : List Toml) :
    (inlineText (.array items)).toList = '[' :: (itemsChars items ++ [']']) := by
  simp [inlineText, itemsChars]

theorem inlineText_table (m : String × Toml) (ms : List (String × Toml)) :
    (inlineText (.table (m :: ms))).toList =
      '\x7b' :: ' ' :: (membersChars (m :: ms) ++ [' ', '\x7d']) := by
  simp [inlineText, membersChars]

/-- A key in front of its value reads back, blanks before it dropped. -/
theorem key?_keyPathChars (k : String) (rest : List Char) {blanks : List Char}
    (h : blanks = [] ∨ blanks = [' ']) :
    key? (blanks ++ (keyPathChars [k] ++ ' ' :: '=' :: rest)) = some ([k], '=' :: rest) := by
  have hkey := keyParts?_keyPathChars (List.cons_ne_nil k []) nestingLimit
    (' ' :: '=' :: rest) ⟨_, _, rfl, Or.inl rfl⟩ (by simp [skipLineBlanks, isLineBlank])
  have hblanks : key? (blanks ++ (keyPathChars [k] ++ ' ' :: '=' :: rest)) =
      key? (keyPathChars [k] ++ ' ' :: '=' :: rest) := by
    rcases h with rfl | rfl
    · rfl
    · rfl
  rw [hblanks, key?, hkey]
  rfl

/-- A value within a table is added under a name that is free. -/
theorem assign?_singleton (k : String) (v : Toml) (entries : List (String × Entry)) :
    Entry.assign? [] [k] v entries =
      if Members.has entries k then none else some (Members.put entries k (.value v)) :=
  rfl

/-- The entries of a table within a value. -/
def valueEntries (members : List (String × Toml)) : List (String × Entry) :=
  members.map fun m => (m.1, .value m.2)

theorem toMembers_valueEntries (members : List (String × Toml)) :
    Entry.toMembers (valueEntries members) = members := by
  induction members with
  | nil => rfl
  | cons m ms ih =>
    obtain ⟨k, v⟩ := m
    simp only [valueEntries, List.map_cons, Entry.toMembers, Entry.toToml] at ih ⊢
    rw [ih]

theorem value?_array (room depth : Nat) (cs : List Char) :
    value? (room + 1) depth ('[' :: cs) =
      if depth < nestingLimit then items? room (depth + 1) [] cs else none :=
  rfl

theorem value?_table (room depth : Nat) {cs : List Char}
    (h : (skipLineBlanks cs).head? ≠ some '\x7d') :
    value? (room + 1) depth ('\x7b' :: cs) =
      if depth < nestingLimit then members? room (depth + 1) [] cs else none := by
  change (if depth < nestingLimit then _ else none) = _
  split
  · split
    · simp_all
    · rfl
  · rfl

theorem items?_value {room depth : Nat} {before : List Toml} {start cs : List Char} {c : Char}
    (h : skipSpace start = c :: cs) (hc : c ≠ ']') :
    items? (room + 1) depth before start =
      match value? room depth (c :: cs) with
      | none => none
      | some (v, rest) =>
        match skipSpace rest with
        | ']' :: r => some (.array (v :: before).reverse, r)
        | ',' :: r => items? room depth (v :: before) r
        | _ => none := by
  rw [items?, h]
  split
  · rename_i heq
    exact absurd (List.cons.inj heq).1 hc
  · rfl

theorem members?_value {room depth : Nat} {before : List (String × Entry)} {start r : List Char}
    {k : String} (h : key? start = some ([k], '=' :: r)) :
    members? (room + 1) depth before start =
      match value? room depth (skipLineBlanks r) with
      | none => none
      | some (v, rest) =>
        match Entry.assign? [] [k] v before with
        | none => none
        | some entries =>
          match skipLineBlanks rest with
          | '\x7d' :: r => some (.table (Entry.toMembers entries), r)
          | ',' :: r => members? room depth entries r
          | _ => none := by
  rw [members?, h]
  rfl

/-- A member with a new name is added to the entries of a table within a value. -/
theorem assign?_valueEntries {before : List (String × Toml)} {k : String}
    (h : k ∉ Members.keys before) (v : Toml) :
    Entry.assign? [] [k] v (valueEntries before) = some (valueEntries (before ++ [(k, v)])) := by
  have hkeys : k ∉ Members.keys (valueEntries before) := by
    simpa [valueEntries, Members.keys, Function.comp_def] using h
  rw [assign?_singleton, if_neg (by rw [Members.has_iff]; exact hkeys),
    Members.put_eq_append hkeys]
  simp [valueEntries]

/-- The members of a table start with the key of the first. -/
theorem head?_membersChars (k : String) (v : Toml) (ms : List (String × Toml)) (rest : List Char) :
    (skipLineBlanks (' ' :: (membersChars ((k, v) :: ms) ++ rest))).head? ≠ some '\x7d' := by
  obtain ⟨tail, htail⟩ : ∃ tail, membersChars ((k, v) :: ms) = keyPathChars [k] ++ tail := by
    cases ms with
    | nil => exact ⟨_, membersChars_singleton k v⟩
    | cons m ms => exact ⟨_, membersChars_cons k v m ms⟩
  have hskip := skipLineBlanks_keyChars k.toList (tail ++ rest)
  rw [htail, List.append_assoc, keyPathChars_singleton,
    show skipLineBlanks (' ' :: (keyChars k.toList ++ (tail ++ rest))) =
      skipLineBlanks (keyChars k.toList ++ (tail ++ rest)) from rfl, hskip]
  obtain ⟨c, r, hc, hkind⟩ := exists_keyChars k.toList
  rw [hc]
  rintro ⟨⟩
  rcases hkind with h | h | h <;> exact absurd h (by decide)

/-- Blanks and what else may stand before a value are passed over. -/
theorem skip_inlineText {v : Toml} (hv : v.Proper) (blanks : List Char)
    (hblanks : blanks = [] ∨ blanks = [' ']) (rest : List Char) :
    ∃ c cs, (inlineText v).toList ++ rest = c :: cs ∧ c ≠ ']' ∧
      skipSpace (blanks ++ ((inlineText v).toList ++ rest)) = c :: cs ∧
        skipLineBlanks (blanks ++ ((inlineText v).toList ++ rest)) = c :: cs := by
  obtain ⟨c, r, hcs, hc⟩ := exists_inlineText hv
  refine ⟨c, r ++ rest, by rw [hcs, List.cons_append], ?_, ?_, ?_⟩
  · rintro rfl
    exact absurd hc (by simp [StartsValue])
  all_goals rcases hblanks with rfl | rfl
  · rw [hcs]
    exact skipSpace_cons (Or.inl hc) _
  · rw [hcs]
    exact skipSpace_cons (Or.inl hc) _
  · rw [hcs]
    exact skipLineBlanks_cons hc _
  · rw [hcs]
    exact skipLineBlanks_cons hc _

/-- An item of an array is read behind the blank that may stand before it. -/
theorem items?_inlineText {v : Toml} (hv : v.Proper) {blanks : List Char}
    (hblanks : blanks = [] ∨ blanks = [' ']) (room depth : Nat) (before : List Toml)
    (cs : List Char) :
    items? (room + 1) depth before (blanks ++ ((inlineText v).toList ++ cs)) =
      match value? room depth ((inlineText v).toList ++ cs) with
      | none => none
      | some (v, rest) =>
        match skipSpace rest with
        | ']' :: r => some (.array (v :: before).reverse, r)
        | ',' :: r => items? room depth (v :: before) r
        | _ => none := by
  obtain ⟨c, r, hcs, hc, hskip, -⟩ := skip_inlineText hv blanks hblanks cs
  rw [items?_value hskip hc, hcs]

/-- A member of a table within a value is read behind the blank that may stand before it, and is
added to those before it when its name is new. -/
theorem members?_inlineText {v : Toml} (hv : v.Proper) {k : String}
    {before : List (String × Toml)} (hk : k ∉ Members.keys before) {blanks : List Char}
    (hblanks : blanks = [] ∨ blanks = [' ']) (room depth : Nat) (cs : List Char) :
    members? (room + 1) depth (valueEntries before)
        (blanks ++ (keyPathChars [k] ++ ' ' :: '=' :: ' ' :: ((inlineText v).toList ++ cs))) =
      match value? room depth ((inlineText v).toList ++ cs) with
      | none => none
      | some (w, rest) =>
        match skipLineBlanks rest with
        | '\x7d' :: r => some (.table (before ++ [(k, w)]), r)
        | ',' :: r => members? room depth (valueEntries (before ++ [(k, w)])) r
        | _ => none := by
  have hkey := key?_keyPathChars k (' ' :: ((inlineText v).toList ++ cs)) hblanks
  obtain ⟨c, r, hcs, -, -, hskip⟩ := skip_inlineText hv [' '] (Or.inr rfl) cs
  rw [members?_value hkey, ← List.singleton_append, hskip, hcs]
  simp only [assign?_valueEntries hk, toMembers_valueEntries]

/-- Of members with different names, each is new to those before it. -/
theorem not_mem_keys_of_nodup {before ms : List (String × Toml)} {k : String} {v : Toml}
    (h : (Members.keys (before ++ (k, v) :: ms)).Nodup) : k ∉ Members.keys before := by
  simp only [Members.keys_append, List.nodup_append] at h
  intro hmem
  exact h.2.2 k hmem k (by simp) rfl

-- A value, the items of an array and the members of a table are read by turns, so they read back
-- in one induction. The room bounds how often: twice the characters that are left, since an array
-- or a table takes one turn for itself and one for each thing in it.
mutual

/-- **A value on one line reads back** when it fits there, and is refused when it does not. -/
theorem value?_inlineText : ∀ {v : Toml}, v.Proper → ∀ (room : Nat),
    2 * (inlineText v).toList.length ≤ room → ∀ (depth : Nat) (rest : List Char), AfterValue rest →
      value? room depth ((inlineText v).toList ++ rest) =
        if fitsInline depth v then some (v, rest) else none
  | .str s, _, room, hroom, depth, rest, h => by
    obtain ⟨c, r, hcs, hc⟩ := exists_textChars s.toList
    obtain ⟨room, rfl⟩ : ∃ n, room = n + 1 := ⟨room - 1, by simp [inlineText, hcs] at hroom; omega⟩
    have htext := text?_textChars s.toList h
    rw [hcs, List.cons_append] at htext
    simp only [inlineText, String.toList_ofList, hcs, List.cons_append, fitsInline, if_true]
    rcases hc with rfl | rfl <;> simp [value?, htext]
  | .int n, hv, room, hroom, depth, rest, h => by
    obtain ⟨c, r, hcs, -⟩ := exists_inlineText hv
    rw [hcs, List.length_cons] at hroom
    obtain ⟨room, rfl⟩ : ∃ n, room = n + 1 := ⟨room - 1, by omega⟩
    exact value?_intText hv room depth h
  | .float x, hv, room, hroom, depth, rest, h => by
    obtain ⟨c, r, hcs, -⟩ := exists_inlineText hv
    rw [hcs, List.length_cons] at hroom
    obtain ⟨room, rfl⟩ : ∃ n, room = n + 1 := ⟨room - 1, by omega⟩
    exact value?_floatText hv room depth h
  | .bool b, _, room, hroom, depth, rest, h => by
    obtain ⟨room, rfl⟩ : ∃ n, room = n + 1 :=
      ⟨room - 1, by cases b <;> simp [inlineText] at hroom <;> omega⟩
    cases b <;> simp [inlineText, value?, fitsInline]
  | .moment _, hv, _, _, _, _, _ => absurd hv (by simp [Proper])
  | .array [], _, room, hroom, depth, rest, h => by
    rw [inlineText_array] at hroom ⊢
    obtain ⟨room, rfl⟩ : ∃ n, room = n + 2 := ⟨room - 2, by simp at hroom; omega⟩
    simp [itemsChars, inlineItems, value?_array, items?, skipSpace_cons, fitsInline,
      itemsFitInline]
  -- what stands inside is one level deeper, and is read with the room behind the bracket
  | .array (v :: vs), hv, room, hroom, depth, rest, h => by
    rw [inlineText_array] at hroom ⊢
    simp only [List.length_cons, List.length_append, List.length_nil] at hroom
    obtain ⟨room, rfl⟩ : ∃ n, room = n + 1 := ⟨room - 1, by omega⟩
    have hitems := items?_itemsChars (v :: vs) (by simp) hv room (by omega) (depth + 1) [] []
      (Or.inl rfl) rest
    rw [List.nil_append] at hitems
    rw [List.cons_append, value?_array, List.append_assoc, List.singleton_append, hitems]
    by_cases hd : depth < nestingLimit <;> simp [fitsInline, hd]
  | .table [], _, room, hroom, depth, rest, h => by
    obtain ⟨room, rfl⟩ : ∃ n, room = n + 1 := ⟨room - 1, by simp [inlineText] at hroom; omega⟩
    have hskip : skipLineBlanks ('\x7d' :: rest) = '\x7d' :: rest := rfl
    simp [inlineText, value?, fitsInline, membersFitInline, hskip]
  | .table ((k, v) :: ms), hv, room, hroom, depth, rest, h => by
    rw [inlineText_table] at hroom ⊢
    simp only [List.length_cons, List.length_append, List.length_nil] at hroom
    obtain ⟨room, rfl⟩ : ∃ n, room = n + 1 := ⟨room - 1, by omega⟩
    have hmembers := members?_membersChars ((k, v) :: ms) (by simp) hv.2 room (by omega)
      (depth + 1) [] (by simpa using hv.1) [' '] (Or.inr rfl) rest
    have hhead := head?_membersChars k v ms ([' ', '\x7d'] ++ rest)
    rw [← List.append_assoc] at hhead
    rw [List.cons_append, List.cons_append, value?_table room depth hhead]
    simp only [valueEntries, List.map_nil, List.nil_append, List.cons_append,
      List.append_assoc] at hmembers ⊢
    rw [hmembers]
    by_cases hd : depth < nestingLimit <;> simp [fitsInline, hd]

/-- The rest of an array reads back behind the items before it. -/
theorem items?_itemsChars : ∀ (items : List Toml), items ≠ [] → ProperItems items →
    ∀ (room : Nat), 2 * (itemsChars items).length + 1 ≤ room → ∀ (depth : Nat) (before : List Toml)
      (blanks : List Char), (blanks = [] ∨ blanks = [' ']) → ∀ (rest : List Char),
      items? room depth before (blanks ++ (itemsChars items ++ ']' :: rest)) =
        if itemsFitInline depth items then some (.array (before.reverse ++ items), rest) else none
  | [], hne, _, _, _, _, _, _, _, _ => absurd rfl hne
  | [v], _, hv, room, hroom, depth, before, blanks, hblanks, rest => by
    rw [itemsChars_singleton] at hroom ⊢
    obtain ⟨room, rfl⟩ : ∃ n, room = n + 1 := ⟨room - 1, by omega⟩
    have hvalue := value?_inlineText hv.1 room (by omega) depth (']' :: rest) ⟨_, _, rfl, by simp⟩
    rw [items?_inlineText hv.1 hblanks, hvalue]
    by_cases hfits : fitsInline depth v
    · simp [itemsFitInline, hfits, skipSpace_cons]
    · simp [itemsFitInline, hfits]
  | v :: w :: vs, _, hv, room, hroom, depth, before, blanks, hblanks, rest => by
    rw [itemsChars_cons] at hroom ⊢
    simp only [List.length_cons, List.length_append] at hroom
    obtain ⟨room, rfl⟩ : ∃ n, room = n + 1 := ⟨room - 1, by omega⟩
    have hrest := items?_itemsChars (w :: vs) (by simp) hv.2 room (by omega) depth (v :: before)
      [' '] (Or.inr rfl) rest
    rw [List.singleton_append] at hrest
    have hvalue := value?_inlineText hv.1 room (by omega) depth
      (',' :: ' ' :: (itemsChars (w :: vs) ++ ']' :: rest)) ⟨_, _, rfl, by simp⟩
    have hcomma : ∀ cs, skipSpace (',' :: cs) = ',' :: cs := fun _ => rfl
    rw [List.append_assoc, List.cons_append, List.cons_append, items?_inlineText hv.1 hblanks,
      hvalue]
    by_cases hfits : fitsInline depth v
    · simp only [hfits, if_true, hcomma, hrest]
      simp [itemsFitInline, hfits]
    · simp [itemsFitInline, hfits]

/-- The rest of a table within a value reads back behind the members before it. -/
theorem members?_membersChars : ∀ (members : List (String × Toml)), members ≠ [] →
    ProperMembers members → ∀ (room : Nat), 2 * (membersChars members).length + 1 ≤ room →
      ∀ (depth : Nat) (before : List (String × Toml)),
        (Members.keys (before ++ members)).Nodup → ∀ (blanks : List Char),
          (blanks = [] ∨ blanks = [' ']) → ∀ (rest : List Char),
      members? room depth (valueEntries before)
          (blanks ++ (membersChars members ++ ' ' :: '\x7d' :: rest)) =
        if membersFitInline depth members then some (.table (before ++ members), rest) else none
  | [], hne, _, _, _, _, _, _, _, _, _ => absurd rfl hne
  | [(k, v)], _, hv, room, hroom, depth, before, hkeys, blanks, hblanks, rest => by
    rw [membersChars_singleton] at hroom ⊢
    simp only [List.length_cons, List.length_append] at hroom
    obtain ⟨room, rfl⟩ : ∃ n, room = n + 1 := ⟨room - 1, by omega⟩
    have hvalue := value?_inlineText hv.1 room (by omega) depth (' ' :: '\x7d' :: rest)
      ⟨_, _, rfl, by simp⟩
    have hclose : skipLineBlanks (' ' :: '\x7d' :: rest) = '\x7d' :: rest := rfl
    simp only [List.append_assoc, List.cons_append]
    rw [members?_inlineText hv.1 (not_mem_keys_of_nodup hkeys) hblanks, hvalue]
    by_cases hfits : fitsInline depth v
    · simp [membersFitInline, hfits, hclose]
    · simp [membersFitInline, hfits]
  | (k, v) :: (l, w) :: ms, _, hv, room, hroom, depth, before, hkeys, blanks, hblanks, rest => by
    rw [membersChars_cons] at hroom ⊢
    simp only [List.length_cons, List.length_append] at hroom
    obtain ⟨room, rfl⟩ : ∃ n, room = n + 1 := ⟨room - 1, by omega⟩
    have hrest := members?_membersChars ((l, w) :: ms) (by simp) hv.2 room (by omega) depth
      (before ++ [(k, v)]) (by simpa using hkeys) [' '] (Or.inr rfl) rest
    rw [List.singleton_append] at hrest
    have hvalue := value?_inlineText hv.1 room (by omega) depth
      (',' :: ' ' :: (membersChars ((l, w) :: ms) ++ ' ' :: '\x7d' :: rest))
      ⟨_, _, rfl, by simp⟩
    have hcomma : ∀ cs, skipLineBlanks (',' :: cs) = ',' :: cs := fun _ => rfl
    simp only [List.append_assoc, List.cons_append]
    rw [members?_inlineText hv.1 (not_mem_keys_of_nodup hkeys) hblanks, hvalue]
    by_cases hfits : fitsInline depth v
    · simp only [hfits, if_true, hcomma, hrest]
      simp [membersFitInline, hfits]
    · simp [membersFitInline, hfits]

end

end FirmwareSurvey.Toml
