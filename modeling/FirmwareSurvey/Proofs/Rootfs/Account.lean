import FirmwareSurvey.Proofs.Members
import FirmwareSurvey.Proofs.Text.Lines
import FirmwareSurvey.Proofs.Text.Numeral
import FirmwareSurvey.Rootfs.Account
import Mathlib.Data.List.Basic

/-!
# Accounts line by line

The accounts of a password file are those of its lines, one after another, so a file behind whole
lines adds its accounts and changes none before. What makes a line one that tells an account can be
read off the line alone (`TellsAccount`). The shadow file has a say only where an account asks for
it: of all it records, nothing matters but the last hash of every user whose field is an `x`
(`accounts_congr`).
-/

namespace FirmwareSurvey.Members

/-- In a table put together from pairs a name has the last value that is paired with it. -/
theorem get?_ofList {α : Type} (l : List (String × α)) (k : String) :
    (ofList l).get? k = (l.reverse.find? (·.1 == k)).map (·.2) := by
  induction l using List.reverseRecOn with
  | nil => rfl
  | append_singleton l p ih =>
    have hput : ofList (l ++ [p]) = (ofList l).put p.1 p.2 := by
      rw [ofList, List.foldl_append]
      rfl
    rw [hput, get?_put, List.reverse_concat]
    by_cases hp : p.1 = k
    · rw [if_pos hp, List.find?_cons_of_pos (by simpa using hp)]
      rfl
    · rw [if_neg hp, List.find?_cons_of_neg (by simpa using hp), ih]

end FirmwareSurvey.Members

namespace FirmwareSurvey.Rootfs

open Text

/-! ### Lines that tell accounts -/

/-- Whether a line of a password file tells an account. -/
structure TellsAccount (line : List Char) : Prop where
  /-- The line is not blank. -/
  shown : allBlank line = false
  /-- The line is no comment. -/
  plain : line.head? ≠ some '#'
  /-- There are seven fields or more. -/
  fields : 7 ≤ (cut ':' line).length
  /-- The third field is the number of the user, of 32 bits. -/
  user : ∃ field ∈ (cut ':' line)[2]?, ∃ n < 2 ^ 32, IsDecimal field n
  /-- The fourth field is the number of the group, of 32 bits. -/
  group : ∃ field ∈ (cut ':' line)[3]?, ∃ n < 2 ^ 32, IsDecimal field n

theorem isSome_unsigned?_iff {cs : List Char} :
    (unsigned? 10 numberLimit cs).isSome = true ↔ ∃ n < 2 ^ 32, IsDecimal cs n := by
  rw [Option.isSome_iff_exists]
  refine exists_congr fun n => ?_
  rw [unsigned?_ten_eq_some_iff, and_comm]
  rfl

theorem exists_fields {fields : List (List Char)} (h : 7 ≤ fields.length) :
    ∃ name field user group note home shell rest,
      fields = name :: field :: user :: group :: note :: home :: shell :: rest := by
  match fields, h with
  | name :: field :: user :: group :: note :: home :: shell :: rest, _ =>
    exact ⟨name, field, user, group, note, home, shell, rest, rfl⟩

/-- **A line tells an account** or not whatever the shadow file has. -/
theorem isSome_account?_iff {shadow : Members String} {weakLength : Nat} {line : List Char} :
    (account? shadow weakLength line).isSome = true ↔ TellsAccount line := by
  rw [account?]
  by_cases hskip : (allBlank line || line.head? == some '#') = true
  · rw [if_pos hskip]
    rw [Bool.or_eq_true] at hskip
    refine iff_of_false Bool.false_ne_true fun h => ?_
    rcases hskip with hblank | hhead
    · exact Bool.false_ne_true (h.shown.symm.trans hblank)
    · exact h.plain (beq_iff_eq.1 hhead)
  · rw [if_neg hskip]
    rw [Bool.or_eq_true, not_or, Bool.not_eq_true, beq_iff_eq] at hskip
    obtain ⟨hshown, hplain⟩ := hskip
    split
    · rename_i name field user group note home shell rest hcut
      -- With seven fields and neither a blank line nor a comment, the two numbers decide.
      have hnumbers : TellsAccount line ↔ (unsigned? 10 numberLimit user).isSome = true ∧
          (unsigned? 10 numberLimit group).isSome = true := by
        rw [isSome_unsigned?_iff, isSome_unsigned?_iff]
        constructor
        · rintro ⟨-, -, -, ⟨u, hu, huser⟩, g, hg, hgroup⟩
          rw [hcut] at hu hg
          exact ⟨Option.some.inj hu ▸ huser, Option.some.inj hg ▸ hgroup⟩
        · rintro ⟨huser, hgroup⟩
          exact ⟨hshown, hplain, by simp [hcut], ⟨user, by simp [hcut], huser⟩,
            ⟨group, by simp [hcut], hgroup⟩⟩
      rw [hnumbers]
      cases unsigned? 10 numberLimit user <;> cases unsigned? 10 numberLimit group <;> simp
    · rename_i hshort
      refine iff_of_false Bool.false_ne_true fun h => ?_
      obtain ⟨_, _, _, _, _, _, _, _, hcut⟩ := exists_fields h.fields
      exact hshort _ _ _ _ _ _ _ _ hcut

/-! ### What is asked of the shadow file -/

/-- The hash that a shadow file, if there is one, records last for a user. -/
def lastHash? (shadow : Option String) (user : String) : Option String :=
  (((lineChars (shadow.getD "").toList).filterMap shadowEntry?).reverse.find? (·.1 == user)).map
    (·.2)

/-- Whether an account of a password file leaves the hash of its user to the shadow file. -/
def AsksShadow (passwd user : String) : Prop :=
  ∃ line ∈ lineChars passwd.toList, TellsAccount line ∧
    ∃ rest, cut ':' line = user.toList :: ['x'] :: rest

theorem get?_shadowHashes (shadow : Option String) (user : String) :
    (shadowHashes (shadow.getD "")).get? user = lastHash? shadow user :=
  Members.get?_ofList _ user

theorem account?_eq_none {shadow : Members String} {line : List Char} (weakLength : Nat)
    (h : ¬TellsAccount line) : account? shadow weakLength line = none :=
  Option.not_isSome_iff_eq_none.1 (mt isSome_account?_iff.1 h)

theorem account?_congr {a b : Members String} {line : List Char} (weakLength : Nat)
    (h : ∀ user rest, cut ':' line = user :: ['x'] :: rest →
      a.get? (String.ofList user) = b.get? (String.ofList user)) :
    account? a weakLength line = account? b weakLength line := by
  rw [account?, account?]
  split
  · rfl
  · split
    · rename_i name field user group note home shell rest hcut
      have hhash : hashOf a (String.ofList name) (String.ofList field) =
          hashOf b (String.ofList name) (String.ofList field) := by
        rw [hashOf, hashOf]
        split
        · rename_i hx
          have hfield : field = ['x'] := String.ofList_injective hx
          rw [h name _ (hfield ▸ hcut)]
        · rfl
      dsimp only
      rw [hhash]
    · rfl

/-- **Shadow files that agree where they are asked give the same accounts.** -/
theorem accounts_congr {passwd : String} {shadow other : Option String} (weakLength : Nat)
    (h : ∀ user, AsksShadow passwd user → lastHash? shadow user = lastHash? other user) :
    accounts passwd shadow weakLength = accounts passwd other weakLength := by
  rw [accounts, accounts]
  refine List.filterMap_congr fun line hline => ?_
  by_cases htells : TellsAccount line
  · refine account?_congr weakLength fun user rest hcut => ?_
    rw [get?_shadowHashes, get?_shadowHashes]
    exact h _ ⟨line, hline, htells, rest, by rw [String.toList_ofList, hcut]⟩
  · rw [account?_eq_none weakLength htells, account?_eq_none weakLength htells]

/-! ### Accounts of lines one after another -/

/-- **Accounts are told line by line**: behind whole lines a password file tells its own accounts;
those of its lines that tell one give theirs in order, and what the shadow file has counts only as
the last hash of a user whose field asks for it. -/
theorem accounts_lineByLine (before passwd : String)
    (h : before = "" ∨ before.toList.getLast? = some '\n') (shadow : Option String)
    (weakLength : Nat) :
    accounts (before ++ passwd) shadow weakLength =
        accounts before shadow weakLength ++ accounts passwd shadow weakLength ∧
      accounts passwd shadow weakLength = (lineChars passwd.toList).filterMap
        (account? (shadowHashes (shadow.getD "")) weakLength) ∧
      (∀ line, (account? (shadowHashes (shadow.getD "")) weakLength line).isSome = true ↔
        TellsAccount line) ∧
      ∀ other, (∀ user, AsksShadow passwd user → lastHash? shadow user = lastHash? other user) →
        accounts passwd shadow weakLength = accounts passwd other weakLength := by
  refine ⟨?_, rfl, fun line => isSome_account?_iff, fun other => accounts_congr weakLength⟩
  rw [accounts, accounts, accounts, lineChars_append h, List.filterMap_append]

/-- A line that leaves the hash of its user to the shadow file. -/
def rootLine : String := "root:x:0:0:root:/root:/bin/ash\n"

/-- A line without a hash. -/
def guestLine : String := "guest::+7:100::/:/bin/false"

theorem accounts_rootAndGuest :
    accounts (rootLine ++ guestLine) (some "root:$6$salt:1\n") 4 =
        [⟨"root", 0, 0, "/root", "/bin/ash", .sha512⟩,
          ⟨"guest", 7, 100, "/", "/bin/false", .locked⟩] ∧
      accounts guestLine (some "root:$6$salt:1\n") 4 = accounts guestLine none 4 := by
  have h := accounts_lineByLine rootLine guestLine (Or.inr (by decide +kernel))
    (some "root:$6$salt:1\n") 4
  refine ⟨h.1.trans (by decide +kernel), h.2.2.2 none fun user hasks => ?_⟩
  obtain ⟨line, hline, -, rest, hcut⟩ := hasks
  have hlines : lineChars guestLine.toList = [guestLine.toList] := by decide +kernel
  rw [hlines, List.mem_singleton] at hline
  have hfield : (cut ':' guestLine.toList)[1]? = some [] := by decide +kernel
  rw [← hline, hcut] at hfield
  cases hfield

end FirmwareSurvey.Rootfs
