import FirmwareSurvey.Proofs.Text.Lines
import FirmwareSurvey.Rootfs.Module
import Mathlib.Tactic.SplitIfs

/-!
# What kernel modules tell of themselves

The strings of a module are entries, each a key and a value, and of the entries of one key only the
first matters: a value that is there stays, and a missing one is what the first string tells of its
key (`value?_takeAll`). Whether the module is proprietary is read off its license once all entries
are taken, and no entry looks at it. So it does not matter where one call ends and the next begins:
strings taken in several calls tell what they tell in one (`takeAll_takeAll`, `foldl_takeAll`).
-/

namespace FirmwareSurvey.Rootfs

open Text

theorem isCompatibleLicense_iff {license : String} :
    isCompatibleLicense license = true ↔ trim license ∈ compatibleLicenses := by
  rw [isCompatibleLicense, List.contains_iff_mem]

namespace Module

/-- The values that are told of a module. -/
inductive Key where
  /-- The license. -/
  | license
  /-- The kernel it was built for. -/
  | vermagic
  /-- The author. -/
  | author
  /-- A description. -/
  | description

/-- What stands before the equals sign where the value is told. -/
def Key.name : Key → String
  | license => "license"
  | vermagic => "vermagic"
  | author => "author"
  | description => "description"

/-- A value of a module. -/
def value? (m : Module) : Key → Option String
  | .license => m.license
  | .vermagic => m.vermagic
  | .author => m.author
  | .description => m.description

/-- A module that counts as proprietary or not. -/
def mark (m : Module) (isProprietary : Bool) : Module := { m with proprietary := isProprietary }

/-- Takes the values of entries, one after another. -/
def takeEntries (m : Module) (entries : List (String × String)) : Module :=
  entries.foldl (fun m e => m.take e.1 e.2) m

variable {key : Key} {name value : String}

theorem takeAll_eq (m : Module) (strings : List String) :
    m.takeAll strings = (m.takeEntries (strings.filterMap entry?)).mark
      (!(m.takeEntries (strings.filterMap entry?)).license.any isCompatibleLicense) := rfl

@[simp] theorem value?_mark (m : Module) (b : Bool) (key : Key) :
    (m.mark b).value? key = m.value? key := by
  cases key <;> rfl

@[simp] theorem license_mark (m : Module) (b : Bool) : (m.mark b).license = m.license := rfl

@[simp] theorem mark_mark (m : Module) (b c : Bool) : (m.mark b).mark c = m.mark c := rfl

/-! ### Taking entries -/

/-- **An entry sets the value of its own key**, unless there is one. -/
theorem value?_take_name (m : Module) (key : Key) (value : String) :
    (m.take key.name value).value? key = (m.value? key).or (some value) := by
  cases key <;> rfl

/-- **An entry leaves the values of other keys alone.** -/
theorem value?_take_of_ne (m : Module) (value : String) (h : name ≠ key.name) :
    (m.take name value).value? key = m.value? key := by
  cases key <;>
    · simp only [Key.name] at h
      simp only [take, if_neg h]
      split_ifs <;> rfl

/-- **Among the entries of a key the first counts**, and a value that is there before them. -/
theorem value?_takeEntries (m : Module) (key : Key) (entries : List (String × String)) :
    (m.takeEntries entries).value? key = (m.value? key).or (entries.lookup key.name) := by
  rw [takeEntries]
  induction entries generalizing m with
  | nil => simp
  | cons e entries ih =>
    -- The entries behind the first find what it has left, so `Option.or` only changes its brackets.
    rw [List.foldl_cons, ih]
    obtain ⟨name, value⟩ := e
    by_cases h : name = key.name
    · subst h
      rw [value?_take_name, Option.or_assoc, List.lookup_cons_self, Option.some_or]
    · rw [value?_take_of_ne m value h, List.lookup_cons, beq_false_of_ne (Ne.symm h)]

theorem take_mark (m : Module) (b : Bool) (name value : String) :
    (m.mark b).take name value = (m.take name value).mark b := by
  rw [take, take]
  split_ifs <;> rfl

theorem takeEntries_mark (m : Module) (b : Bool) (entries : List (String × String)) :
    (m.mark b).takeEntries entries = (m.takeEntries entries).mark b :=
  List.foldl_hom (mark · b) fun m e => take_mark m b e.1 e.2

theorem takeEntries_append (m : Module) (as bs : List (String × String)) :
    m.takeEntries (as ++ bs) = (m.takeEntries as).takeEntries bs :=
  List.foldl_append

/-! ### What a string tells -/

/-- Whether a string tells a value of a name: without the blanks around it, it is the name, an equals
sign and a text that is not empty. The value is that text without the blanks around it. -/
def Tells (string name value : String) : Prop :=
  ∃ written, written ≠ "" ∧ trim string = name ++ "=" ++ written ∧ value = trim written

/-- **A string that tells a value is an entry**, for a name without an equals sign in it. -/
theorem entry?_eq_some_iff {string : String} (hname : '=' ∉ name.toList) :
    entry? string = some (name, value) ↔ Tells string name value := by
  constructor
  · intro h
    unfold entry? at h
    split at h
    · rename_i key v written hcut
      injection h with h
      injection h with hkey hvalue
      obtain ⟨htrim, -⟩ := cutOnce?_eq_some_iff.1 hcut
      refine ⟨String.ofList (v :: written), by simp, ?_, ?_⟩
      · rw [trim, htrim, ← hkey, ← String.toList_inj]
        simp
      · rw [trim, String.toList_ofList, hvalue]
    · cases h
  · rintro ⟨written, hne, htrim, rfl⟩
    have hcut : cutOnce? '=' (trimChars string.toList) = some (name.toList, written.toList) := by
      rw [cutOnce?_eq_some_iff, and_iff_left hname]
      simpa [trim] using congrArg String.toList htrim
    obtain ⟨v, rest, hwritten⟩ := List.exists_cons_of_ne_nil (mt String.toList_eq_nil_iff.1 hne)
    unfold entry?
    rw [hcut, hwritten]
    simp [trim, hwritten]

/-- What a string tells of a name. -/
def told? (name string : String) : Option String :=
  match entry? string with
  | some (key, value) => if name == key then some value else none
  | none => none

theorem told?_eq_some_iff {string : String} (hname : '=' ∉ name.toList) :
    told? name string = some value ↔ Tells string name value := by
  rw [← entry?_eq_some_iff hname, told?]
  cases entry? string with
  | none => simp
  | some e =>
    obtain ⟨key, written⟩ := e
    by_cases hkey : key = name
    · simp [hkey]
    · simp [hkey, Ne.symm hkey]

theorem Key.not_mem_name (key : Key) : '=' ∉ key.name.toList := by
  cases key <;> decide

theorem lookup_filterMap_entry? (name : String) (strings : List String) :
    (strings.filterMap entry?).lookup name = strings.findSome? (told? name) := by
  rw [List.lookup_eq_findSome?]
  induction strings with
  | nil => rfl
  | cons string strings ih =>
    rw [List.filterMap_cons, List.findSome?_cons, told?]
    cases entry? string with
    | none => exact ih
    | some e => rw [List.findSome?_cons, ih]

/-! ### Taking strings -/

/-- **A value that is there stays, and a missing one is what the first string tells.** -/
theorem value?_takeAll (m : Module) (key : Key) (strings : List String) :
    (m.takeAll strings).value? key =
      (m.value? key).or (strings.findSome? (told? key.name)) := by
  rw [takeAll_eq, value?_mark, value?_takeEntries, lookup_filterMap_entry?]

/-- **Strings taken in two calls tell what they tell in one.** -/
theorem takeAll_takeAll (m : Module) (as bs : List String) :
    (m.takeAll as).takeAll bs = m.takeAll (as ++ bs) := by
  -- The mark between the calls is carried along unread and is overwritten at the end.
  rw [takeAll_eq m as, takeAll_eq, takeAll_eq, takeEntries_mark, license_mark, mark_mark,
    List.filterMap_append, takeEntries_append]

theorem foldl_takeAll (m : Module) (first : List String) (more : List (List String)) :
    more.foldl takeAll (m.takeAll first) = m.takeAll (first ++ more.flatten) := by
  induction more generalizing first with
  | nil => rw [List.foldl_nil, List.flatten_nil, List.append_nil]
  | cons strings more ih =>
    rw [List.foldl_cons, takeAll_takeAll, ih, List.append_assoc, List.flatten_cons]

/-- **A call leaves a module proprietary** unless its license is compatible with the kernel's. -/
theorem proprietary_takeAll (m : Module) (strings : List String) :
    (m.takeAll strings).proprietary = false ↔
      ∃ license, (m.takeAll strings).license = some license ∧
        trim license ∈ compatibleLicenses := by
  have hmark : (m.takeAll strings).proprietary =
      !(m.takeAll strings).license.any isCompatibleLicense := rfl
  rw [hmark, Bool.not_eq_false', Option.any_eq_true]
  simp only [isCompatibleLicense_iff]

/-- **What a module is told accumulates**: strings taken in two calls leave the module that they leave
in one. A value that is there is never changed, and a missing one is told by the first string that
tells one of its key. After any calls the module is not proprietary exactly when its license is
compatible with the kernel's. -/
theorem takeAll_accumulates (m : Module) :
    (∀ as bs : List String, (m.takeAll as).takeAll bs = m.takeAll (as ++ bs)) ∧
      (∀ (strings : List String) (key : Key),
        (∀ value, m.value? key = some value → (m.takeAll strings).value? key = some value) ∧
        (m.value? key = none → ∀ value, (m.takeAll strings).value? key = some value ↔
          ∃ before string after, strings = before ++ string :: after ∧
            Tells string key.name value ∧ ∀ s ∈ before, ∀ other, ¬Tells s key.name other)) ∧
      ∀ calls : List (List String), calls ≠ [] →
        ((calls.foldl takeAll m).proprietary = false ↔
          ∃ license, (calls.foldl takeAll m).license = some license ∧
            trim license ∈ compatibleLicenses) := by
  refine ⟨takeAll_takeAll m, fun strings key => ⟨fun value h => ?_, fun h value => ?_⟩, ?_⟩
  · rw [value?_takeAll, h, Option.some_or]
  · rw [value?_takeAll, h, Option.none_or, List.findSome?_eq_some_iff]
    simp only [Option.eq_none_iff_forall_ne_some, ne_eq, told?_eq_some_iff key.not_mem_name]
  · intro calls hcalls
    obtain ⟨first, more, rfl⟩ := List.exists_cons_of_ne_nil hcalls
    rw [List.foldl_cons, foldl_takeAll]
    exact proprietary_takeAll m _

/-- A module with a description that is there but empty. -/
def npu : Module := { name := "rknpu", description := some "" }

/-- Strings that tell no license before they tell one. -/
def npuStrings : List String :=
  ["license=", "license =GPL", " license= Dual BSD/GPL\t", "description=NPU driver"]

/-- Strings that tell another license, and an author with an equals sign. -/
def npuMoreStrings : List String := ["license=Proprietary", "author= a = b "]

theorem takeAll_accumulates_npu :
    npu.value? .license = none ∧ npu.value? .description = some "" ∧
      [npuStrings, npuMoreStrings] ≠ [] ∧
      (npu.takeAll npuStrings).value? .license = some "Dual BSD/GPL" ∧
      (npu.takeAll npuStrings).value? .description = some "" ∧
      ([npuStrings, npuMoreStrings].foldl takeAll npu).proprietary = false := by
  obtain ⟨-, hvalues, hmark⟩ := takeAll_accumulates npu
  refine ⟨rfl, rfl, List.cons_ne_nil _ _, ?_, (hvalues npuStrings .description).1 "" rfl, ?_⟩
  · have hnone : ∀ s ∈ ["license=", "license =GPL"], told? "license" s = none := by decide +kernel
    refine ((hvalues npuStrings .license).2 rfl "Dual BSD/GPL").2
      ⟨["license=", "license =GPL"], " license= Dual BSD/GPL\t", ["description=NPU driver"], rfl,
        ⟨" Dual BSD/GPL", by decide, by decide +kernel, by decide +kernel⟩, fun s hs other h => ?_⟩
    have htold := (told?_eq_some_iff Key.license.not_mem_name).2 h
    rw [Key.name, hnone s hs] at htold
    cases htold
  · exact (hmark _ (List.cons_ne_nil _ _)).2
      ⟨"Dual BSD/GPL", by decide +kernel, by decide +kernel⟩

end Module

end FirmwareSurvey.Rootfs
