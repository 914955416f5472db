import FirmwareSurvey.Proofs.Results.Footnotes
import FirmwareSurvey.Template.Render

/-!
# The citations of a document

A document cites where its template filters a value by `src`, and which values that are hangs on
what loops and branches come to. The citations of an expression are gathered along its evaluation,
those of statements along their run; each comes with the number that was written for it. They are
told by functions beside the evaluation, one case for each of its cases.

That these are the citations is said by what they do to the footnotes (`Leads`): cited one after
another from the footnotes before, the pairs of the citations are answered with the numbers of the
citations, and give the footnotes after. One step of an evaluation hands on to the next what it
leaves (`Tells.bind`), so this holds of a whole document. The footnotes at its end are then the ones
its citations make from the start, and every number stands for the pair it was written for
(`render?_cited`).
-/

namespace FirmwareSurvey.Template

open Footnotes

/-! ### Citations -/

/-- A citation: a value whose source is known, cited under a number. -/
structure Citation where
  /-- The cited value. -/
  cited : Tracked
  /-- The source. -/
  source : String
  /-- The number. -/
  number : Nat
  /-- The source is that of the value. -/
  source_eq : cited.source = some source

/-- The source and the method of the value that is cited. -/
def Citation.pair (c : Citation) : Pair := (c.source, c.cited.method)

/-- Whether citations lead from footnotes to others: cited one after another, their pairs are
answered with their numbers. -/
def Leads (f : Footnotes) (cs : List Citation) (g : Footnotes) : Prop :=
  f.citeAll (cs.map Citation.pair) = (cs.map Citation.number, g)

theorem Leads.refl (f : Footnotes) : Leads f [] f := rfl

theorem Leads.trans {f g h : Footnotes} {cs ds : List Citation} (hfg : Leads f cs g)
    (hgh : Leads g ds h) : Leads f (cs ++ ds) h := by
  rw [Leads] at hfg hgh
  rw [Leads, List.map_append, citeAll_append, hfg, hgh, List.map_append]

/-! ### Computations one after another -/

/-- What follows a computation, if it has a result. -/
def after {α : Type} (x : Option α) (next : α → List Citation) : List Citation :=
  match x with
  | some a => next a
  | none => []

/-- Whether a computation that has a result comes to it from footnotes by citations; the result has
footnotes of its own. -/
def Reaches {α : Type} (f : Footnotes) (x : Option α) (notes : α → Footnotes)
    (cs : List Citation) : Prop :=
  ∀ a, x = some a → Leads f cs (notes a)

section

variable {α β : Type} {f : Footnotes} {x : Option α} {next : α → Option β} {notes : α → Footnotes}
  {notes' : β → Footnotes} {cs : List Citation} {ds : α → List Citation}

/-- **What goes on with a result cites behind what gave it.** -/
theorem Reaches.bind (hx : Reaches f x notes cs)
    (hnext : ∀ a, Reaches (notes a) (next a) notes' (ds a)) :
    Reaches f (x >>= next) notes' (cs ++ after x ds) := by
  intro b hb
  obtain ⟨a, rfl, hb⟩ := Option.bind_eq_some_iff.1 hb
  exact (hx a rfl).trans (hnext a b hb)

/-- What gives a result without citing leaves the citations to what goes on with it. -/
theorem Reaches.of_same (hx : ∀ a, x = some a → notes a = f)
    (hnext : ∀ a, Reaches (notes a) (next a) notes' (ds a)) :
    Reaches f (x >>= next) notes' (after x ds) := by
  have hsame : Reaches f x notes [] := fun a ha => hx a ha ▸ Leads.refl f
  exact hsame.bind hnext

/-- What goes on without citing leaves the citations as they are. -/
theorem Reaches.silent (hx : Reaches f x notes cs)
    (hnext : ∀ a b, next a = some b → notes' b = notes a) :
    Reaches f (x >>= next) notes' cs := by
  intro b hb
  obtain ⟨a, ha, hb⟩ := Option.bind_eq_some_iff.1 hb
  exact hnext a b hb ▸ hx a ha

end

/-- What is cited on the way through items, one after another. -/
def foldCites {σ α : Type} (step : σ → α → Option σ) (cites : σ → α → List Citation) :
    List α → σ → List Citation
  | [], _ => []
  | x :: xs, s => cites s x ++ after (step s x) (foldCites step cites xs)

/-- **What every step cites, all steps cite** one after another. -/
theorem reaches_foldlM {σ α : Type} {step : σ → α → Option σ} {cites : σ → α → List Citation}
    {notes : σ → Footnotes} (hstep : ∀ s x, Reaches (notes s) (step s x) notes (cites s x))
    (xs : List α) (s : σ) :
    Reaches (notes s) (xs.foldlM step s) notes (foldCites step cites xs s) := by
  induction xs generalizing s with
  | nil =>
    intro t ht
    exact Option.some.inj ht ▸ Leads.refl _
  | cons x xs ih =>
    rw [List.foldlM_cons]
    exact (hstep s x).bind ih

/-! ### Computations with footnotes -/

/-- What a computation cites, starting from footnotes. -/
abbrev Cites := Footnotes → List Citation

/-- No citations. -/
def noCites : Cites := fun _ => []

/-- The citations of a computation and of the one that goes on with its result. -/
def Cites.andThen {α : Type} (cites : Cites) (x : Citing α) (next : α → Cites) : Cites :=
  fun f => cites f ++ after (x f) fun r => next r.1 r.2

/-- Whether a computation cites what is told, from whatever footnotes it starts. -/
def Tells {α : Type} (x : Citing α) (cites : Cites) : Prop :=
  ∀ f, Reaches f (x f) (·.2) (cites f)

section

variable {α β : Type} {x : Citing α} {next : α → Citing β} {cites : Cites}

theorem tells_pure (a : α) : Tells (pure a : Citing α) noCites := by
  rintro f r h
  exact Option.some.inj h ▸ Leads.refl f

theorem tells_lift (o : Option α) : Tells (liftM o : Citing α) noCites := by
  intro f r h
  cases o with
  | none => cases h
  | some a => exact Option.some.inj h ▸ Leads.refl f

theorem tells_failure (cites : Cites) : Tells (failure : Citing α) cites := by
  intro f r h
  cases h

theorem Tells.bind (hx : Tells x cites) {goesOn : α → Cites}
    (hnext : ∀ a, Tells (next a) (goesOn a)) :
    Tells (x >>= next) (cites.andThen x goesOn) :=
  fun f => (hx f).bind fun r => hnext r.1 r.2

theorem Tells.silent (hx : Tells x cites) (hnext : ∀ a, Tells (next a) noCites) :
    Tells (x >>= next) cites := by
  intro f r h
  obtain ⟨⟨a, g⟩, ha, hr⟩ := Option.bind_eq_some_iff.1 h
  exact List.append_nil (cites f) ▸ (hx f _ ha).trans (hnext a g r hr)

theorem Tells.map (hx : Tells x cites) (k : α → β) : Tells (do return k (← x)) cites :=
  hx.silent fun a => tells_pure (k a)

end

/-! ### Filters -/

/-- The citation of a value that is written with its mark, if its source is known. -/
def markCites (v : Value) : Cites := fun f =>
  match v with
  | .cell t _ =>
    match h : t.source with
    | some source => [⟨t, source, (f.cite source t.method).1, h⟩]
    | none => []
  | _ => []

/-- The citations of a filter that applies no other filter. -/
def simpleFilterCites (name : String) (v : Value) (g : Given) : Cites :=
  if name == "src" && (g.atMost 0).isSome then markCites v else noCites

/-- The citations of a filter applied to every item. -/
def appliedCites (name : String) (g : Given) : List Value → Cites
  | [] => noCites
  | v :: vs => (simpleFilterCites name v g).andThen (simpleFilter name v g) fun _ =>
    appliedCites name g vs

/-- The citations of the filter that maps items. -/
def mappedCites (v : Value) (g : Given) : Cites :=
  match v.items?, g.named.get? "attribute", g.plain with
  | some items, none, .text name :: plain => appliedCites name ⟨plain, g.named⟩ items
  | _, _, _ => noCites

/-- The citations of a filter. -/
def filterCites (name : String) (v : Value) (g : Given) : Cites :=
  if name == "map" then mappedCites v g else simpleFilterCites name v g

theorem leads_withMark (v : Value) (f : Footnotes) : Leads f (markCites v f) (withMark v f).2 := by
  cases v with
  | cell t held =>
    obtain ⟨value, source, method⟩ := t
    cases source with
    | none => exact Leads.refl f
    | some source => rfl
  | _ => exact Leads.refl f

theorem tells_simpleFilter (name : String) (v : Value) (g : Given) :
    Tells (simpleFilter name v g) (simpleFilterCites name v g) := by
  rintro f ⟨w, h⟩ hfh
  rw [simpleFilter] at hfh
  rw [simpleFilterCites]
  by_cases hname : (name == "src") = true
  · rw [if_pos hname] at hfh
    cases hg : g.atMost 0 with
    | none =>
      rw [hg] at hfh
      cases hfh
    | some u =>
      rw [hg] at hfh
      obtain ⟨-, rfl⟩ := Prod.mk.inj (Option.some.inj hfh)
      rw [if_pos (by rw [hname]; rfl)]
      exact leads_withMark v f
  · rw [if_neg hname] at hfh
    obtain ⟨u, -, heq⟩ := Option.map_eq_some_iff.1 hfh
    obtain ⟨-, rfl⟩ := Prod.mk.inj heq
    rw [if_neg (by rw [Bool.and_eq_true]; exact fun h => hname h.1)]
    exact Leads.refl f

theorem tells_applied (name : String) (g : Given) (vs : List Value) :
    Tells (applied name g vs) (appliedCites name g vs) := by
  induction vs with
  | nil => exact tells_pure _
  | cons v vs ih => exact (tells_simpleFilter name v g).bind fun w => ih.map _

theorem tells_mapped (v : Value) (g : Given) : Tells (mapped v g) (mappedCites v g) := by
  rw [mapped, mappedCites]
  cases v.items? with
  | none => exact tells_failure _
  | some items =>
    cases g.named.get? "attribute" with
    | some key =>
      refine (tells_lift (some items)).silent fun items => ?_
      dsimp only
      split
      · exact (tells_lift _).map _
      · exact tells_failure _
    | none =>
      cases g.plain with
      | nil => exact tells_failure _
      | cons v plain =>
        cases v with
        | text name => exact (tells_applied name ⟨plain, g.named⟩ items).map _
        | _ => exact tells_failure _

theorem tells_filter (name : String) (v : Value) (g : Given) :
    Tells (filter name v g) (filterCites name v g) := by
  unfold filter
  split
  · exact tells_mapped v g
  · exact tells_lift _
  · exact tells_lift _
  · exact tells_lift _
  · exact tells_lift _
  · rename_i hname _ _ _ _
    rw [filterCites, if_neg (by simpa using hname)]
    exact tells_simpleFilter name v g

/-! ### Expressions -/

mutual

/-- The citations of an expression. -/
def evaluateCites (frames : Frames) : Expression → Cites
  | .list items => allCites frames items
  | .map members => membersCites frames members
  | .member base _ => evaluateCites frames base
  | .item base index =>
    (evaluateCites frames base).andThen (evaluate frames base) fun _ => evaluateCites frames index
  | .part base start stop step =>
    (evaluateCites frames base).andThen (evaluate frames base) fun _ =>
      (boundCites frames start).andThen (evaluateBound frames start) fun _ =>
        (boundCites frames stop).andThen (evaluateBound frames stop) fun _ =>
          boundCites frames step
  | .call (.name _) arguments named =>
    (allCites frames arguments).andThen (evaluateAll frames arguments) fun _ =>
      namedCites frames named
  | .call (.member base _) arguments named =>
    (evaluateCites frames base).andThen (evaluate frames base) fun _ =>
      (allCites frames arguments).andThen (evaluateAll frames arguments) fun _ =>
        namedCites frames named
  | .filter base name arguments named =>
    (evaluateCites frames base).andThen (evaluate frames base) fun v =>
      (allCites frames arguments).andThen (evaluateAll frames arguments) fun plain =>
        (namedCites frames named).andThen (evaluateNamed frames named) fun named =>
          filterCites name v ⟨plain, named⟩
  | .test base _ arguments named =>
    (evaluateCites frames base).andThen (evaluate frames base) fun _ =>
      (allCites frames arguments).andThen (evaluateAll frames arguments) fun _ =>
        namedCites frames named
  | .unary _ operand => evaluateCites frames operand
  | .either left right =>
    (evaluateCites frames left).andThen (evaluate frames left) fun v =>
      if v.isTrue then noCites else evaluateCites frames right
  | .both left right =>
    (evaluateCites frames left).andThen (evaluate frames left) fun v =>
      if v.isTrue then evaluateCites frames right else noCites
  | .binary _ left right =>
    (evaluateCites frames left).andThen (evaluate frames left) fun _ => evaluateCites frames right
  | .comparisons first rest =>
    (evaluateCites frames first).andThen (evaluate frames first) fun v =>
      comparisonsCites frames v rest
  | .choice condition yes (some no) =>
    (evaluateCites frames condition).andThen (evaluate frames condition) fun v =>
      if v.isTrue then evaluateCites frames yes else evaluateCites frames no
  | .choice condition yes none =>
    (evaluateCites frames condition).andThen (evaluate frames condition) fun v =>
      if v.isTrue then evaluateCites frames yes else noCites
  | _ => noCites

/-- The citations of expressions. -/
def allCites (frames : Frames) : List Expression → Cites
  | [] => noCites
  | e :: es =>
    (evaluateCites frames e).andThen (evaluate frames e) fun _ => allCites frames es

/-- The citations of a bound of a part. -/
def boundCites (frames : Frames) : Option Expression → Cites
  | some e => evaluateCites frames e
  | none => noCites

/-- The citations of comparisons one after another, up to the first that does not hold. -/
def comparisonsCites (frames : Frames) (left : Value) : List (Comparison × Expression) → Cites
  | [] => noCites
  | (c, e) :: rest =>
    (evaluateCites frames e).andThen (evaluate frames e) fun right =>
      if compares? c left right = some true then comparisonsCites frames right rest else noCites

/-- The citations of named expressions. -/
def namedCites (frames : Frames) : List (String × Expression) → Cites
  | [] => noCites
  | (_, e) :: es =>
    (evaluateCites frames e).andThen (evaluate frames e) fun _ => namedCites frames es

/-- The citations of the members of a map. -/
def membersCites (frames : Frames) : List (Expression × Expression) → Cites
  | [] => noCites
  | (k, e) :: es =>
    (evaluateCites frames k).andThen (evaluate frames k) fun _ =>
      (evaluateCites frames e).andThen (evaluate frames e) fun _ => membersCites frames es

end

section

variable (frames : Frames)

mutual

/-- **An expression cites what is told** along its evaluation. -/
theorem tells_evaluate : ∀ e : Expression, Tells (evaluate frames e) (evaluateCites frames e)
  -- The cases are those of the evaluation; where it goes on by a value, either way is told.
  | .nothing => tells_pure _
  | .bool _ => tells_pure _
  | .int _ => tells_pure _
  | .float _ => tells_pure _
  | .text _ => tells_pure _
  | .name _ => tells_pure _
  | .list items => (tells_evaluateAll items).map _
  | .map members => (tells_evaluateMembers members).map _
  | .member base _ => (tells_evaluate base).map _
  | .item base index =>
    (tells_evaluate base).bind fun _ => (tells_evaluate index).map _
  | .part base start stop step =>
    (tells_evaluate base).bind fun _ => (tells_evaluateBound start).bind fun _ =>
      (tells_evaluateBound stop).bind fun _ =>
        (tells_evaluateBound step).silent fun _ => tells_lift _
  | .call base arguments named => by
    cases base with
    | name n =>
      rw [evaluate, evaluateCites]
      refine (tells_evaluateAll arguments).bind fun _ => (tells_evaluateNamed named).silent fun _ => ?_
      split
      · exact tells_lift _
      · exact tells_failure _
    | member base name =>
      exact (tells_evaluate base).bind fun _ => (tells_evaluateAll arguments).bind fun _ =>
        (tells_evaluateNamed named).silent fun _ => tells_lift _
    | _ => exact tells_failure _
  | .filter base name arguments named =>
    (tells_evaluate base).bind fun v => (tells_evaluateAll arguments).bind fun _ =>
      (tells_evaluateNamed named).bind fun _ => tells_filter name v _
  | .test base _ arguments named =>
    (tells_evaluate base).bind fun _ => (tells_evaluateAll arguments).bind fun _ =>
      (tells_evaluateNamed named).silent fun _ => (tells_lift _).map _
  | .unary _ operand => (tells_evaluate operand).silent fun _ => tells_lift _
  | .either left right => by
    rw [evaluate, evaluateCites]
    refine (tells_evaluate left).bind fun v => ?_
    split
    · exact tells_pure _
    · exact tells_evaluate right
  | .both left right => by
    rw [evaluate, evaluateCites]
    refine (tells_evaluate left).bind fun v => ?_
    split
    · exact tells_evaluate right
    · exact tells_pure _
  | .binary _ left right =>
    (tells_evaluate left).bind fun _ => (tells_evaluate right).silent fun _ => tells_lift _
  | .comparisons first rest =>
    (tells_evaluate first).bind fun v => (tells_evaluateComparisons rest v).map _
  | .choice condition yes (some no) => by
    rw [evaluate, evaluateCites]
    refine (tells_evaluate condition).bind fun v => ?_
    split
    · exact tells_evaluate yes
    · exact tells_evaluate no
  | .choice condition yes none => by
    rw [evaluate, evaluateCites]
    refine (tells_evaluate condition).bind fun v => ?_
    split
    · exact tells_evaluate yes
    · exact tells_pure _

theorem tells_evaluateAll : ∀ es : List Expression,
    Tells (evaluateAll frames es) (allCites frames es)
  | [] => tells_pure _
  | e :: es => (tells_evaluate e).bind fun _ => (tells_evaluateAll es).map _

theorem tells_evaluateBound : ∀ e : Option Expression,
    Tells (evaluateBound frames e) (boundCites frames e)
  | none => tells_pure _
  | some e => tells_evaluate e

theorem tells_evaluateComparisons : ∀ (rest : List (Comparison × Expression)) (left : Value),
    Tells (evaluateComparisons frames left rest) (comparisonsCites frames left rest)
  | [], _ => tells_pure _
  | (c, e) :: es, left => by
    rw [evaluateComparisons, comparisonsCites]
    refine (tells_evaluate e).bind fun right => ?_
    cases compares? c left right with
    | none => exact tells_failure _
    | some b =>
      cases b with
      | true => exact tells_evaluateComparisons es right
      | false => exact tells_pure _

theorem tells_evaluateNamed : ∀ es : List (String × Expression),
    Tells (evaluateNamed frames es) (namedCites frames es)
  | [] => tells_pure _
  | (_, e) :: es => (tells_evaluate e).bind fun _ => (tells_evaluateNamed es).map _

theorem tells_evaluateMembers : ∀ es : List (Expression × Expression),
    Tells (evaluateMembers frames es) (membersCites frames es)
  | [] => tells_pure _
  | (k, e) :: es => (tells_evaluate k).bind fun _ =>
    (tells_evaluate e).bind fun _ => (tells_evaluateMembers es).map _

end

end

/-! ### Statements -/

/-- The citations of an expression that a rendering evaluates. -/
def Progress.cites (p : Progress) (e : Expression) : List Citation :=
  evaluateCites p.frames e p.notes

theorem Progress.reaches_value (p : Progress) (e : Expression) :
    Reaches p.notes (p.value e) (·.2.notes) (p.cites e) := by
  intro r h
  obtain ⟨⟨v, f⟩, hv, rfl⟩ := Option.map_eq_some_iff.1 h
  exact tells_evaluate p.frames e p.notes (v, f) hv

theorem Progress.notes_assign {p q : Progress} {t : Target} {v : Value}
    (h : p.assign t v = some q) : q.notes = p.notes := by
  obtain ⟨frames, notes, written⟩ := p
  cases frames with
  | nil => cases h
  | cons frame outer =>
    obtain ⟨frame, -, rfl⟩ := Option.map_eq_some_iff.1 h
    rfl

/-- An assignment leaves the citations to what goes on behind it. -/
theorem Progress.reaches_assign {α : Type} {p : Progress} {t : Target} {v : Value}
    {next : Progress → Option α} {notes : α → Footnotes} {ds : Progress → List Citation}
    (hnext : ∀ q, Reaches q.notes (next q) notes (ds q)) :
    Reaches p.notes (p.assign t v >>= next) notes (after (p.assign t v) ds) :=
  Reaches.of_same (fun _ hq => Progress.notes_assign hq) hnext

/-- One item of a loop with a condition. -/
def keepStep (target : Target) (condition : Expression) (s : List Value × Progress) (v : Value) :
    Option (List Value × Progress) := do
  let p ← Progress.assign s.2.enter target v
  let (b, p) ← p.value condition
  some (if b.isTrue then s.1 ++ [v] else s.1, p.leave)

/-- The citations of the condition of a loop. -/
def selectedCites (p : Progress) (target : Target) (condition : Option Expression)
    (items : List Value) : List Citation :=
  match condition with
  | none => []
  | some condition =>
    foldCites (keepStep target condition)
      (fun s v => after (Progress.assign s.2.enter target v) fun p => p.cites condition) items
      ([], p)

theorem reaches_selected (p : Progress) (target : Target) (condition : Option Expression)
    (items : List Value) :
    Reaches p.notes (selected p target condition items) (·.2.notes)
      (selectedCites p target condition items) := by
  cases condition with
  | none =>
    intro r h
    exact Option.some.inj h ▸ Leads.refl _
  | some condition =>
    have hstep (s : List Value × Progress) (v : Value) :
        Reaches s.2.notes (keepStep target condition s v) (·.2.notes)
          (after (Progress.assign s.2.enter target v) fun p => p.cites condition) := by
      refine Progress.reaches_assign (p := s.2.enter) fun q => ?_
      refine (q.reaches_value condition).silent fun r t ht => ?_
      exact Option.some.inj ht ▸ rfl
    exact reaches_foldlM hstep items ([], p)

/-- The citations of filters that are applied to a text. -/
def filterTextCites (frames : Frames) : List FilterCall → Value → Cites
  | [], _ => noCites
  | f :: fs, v =>
    (allCites frames f.arguments).andThen (evaluateAll frames f.arguments) fun plain =>
      (namedCites frames f.named).andThen (evaluateNamed frames f.named) fun named =>
        (filterCites f.name v ⟨plain, named⟩).andThen (filter f.name v ⟨plain, named⟩) fun v =>
          filterTextCites frames fs v

theorem tells_filterText (frames : Frames) (filters : List FilterCall) (v : Value) :
    Tells (filterText frames filters v) (filterTextCites frames filters v) := by
  induction filters generalizing v with
  | nil => exact tells_pure v
  | cons f fs ih =>
    exact (tells_evaluateAll frames f.arguments).bind fun plain =>
      (tells_evaluateNamed frames f.named).bind fun named =>
        (tells_filter f.name v ⟨plain, named⟩).bind fun v => ih v

/-- One round of a loop. -/
def roundStep (target : Target) (row : Value) (items : List Value) (body : List Statement)
    (p : Progress) (item : Value × Nat) : Option Progress := do
  let p ← Progress.assign p.enter target item.1
  let p ← p.assign (.name "loop") (roundOf row items item.2)
  let p ← runAll body p
  some p.leave

/-- One assignment of a scope. -/
def scopeStep (p : Progress) (a : Target × Expression) : Option Progress := do
  let (v, p) ← Progress.value p a.2
  p.assign a.1 v

mutual

/-- The citations of a statement. -/
def runCites : Statement → Progress → List Citation
  | .plain _, _ => []
  | .output e, p => p.cites e
  | .branch condition yes no, p =>
    p.cites condition ++ after (p.value condition) fun (v, p) =>
      if v.isTrue then runAllCites yes p else runAllCites no p
  | .loop target row condition body otherwise, p =>
    p.cites row ++ after (p.value row) fun (v, p) =>
      after v.items? fun items =>
        selectedCites p target condition items ++ after (selected p target condition items)
          fun (items, p) =>
            let row := if condition.isSome then .list items else v
            foldCites (roundStep target row items body)
              (fun p item => after (Progress.assign p.enter target item.1) fun p =>
                after (p.assign (.name "loop") (roundOf row items item.2)) fun p =>
                  runAllCites body p) items.zipIdx p ++
            after (items.zipIdx.foldlM (roundStep target row items body) p) fun p =>
              if items.isEmpty then runAllCites otherwise p else []
  | .assign _ e, p => p.cites e
  | .capture _ filters body, p =>
    runAllCites body { p with written := "" } ++ after (runAll body { p with written := "" })
      fun q => filterTextCites q.frames filters (.text q.written) q.notes
  | .filtered filters body, p =>
    runAllCites body { p with written := "" } ++ after (runAll body { p with written := "" })
      fun q => filterTextCites q.frames filters (.text q.written) q.notes
  | .scope assignments body, p =>
    foldCites scopeStep (fun p a => p.cites a.2) assignments p.enter ++
      after (assignments.foldlM scopeStep p.enter) fun p => runAllCites body p

/-- The citations of statements one after another. -/
def runAllCites : List Statement → Progress → List Citation
  | [], _ => []
  | s :: ss, p => runCites s p ++ after (run s p) fun p => runAllCites ss p

end

mutual

/-- **A statement cites what is told** along its run. -/
theorem reaches_run : ∀ (s : Statement) (p : Progress),
    Reaches p.notes (run s p) (·.notes) (runCites s p)
  | .plain text, p => by
    intro q h
    exact Option.some.inj h ▸ Leads.refl _
  | .output e, p => (p.reaches_value e).silent fun r q h => Option.some.inj h ▸ rfl
  | .branch condition yes no, p => by
    rw [run, runCites]
    refine (p.reaches_value condition).bind fun ⟨v, p⟩ => ?_
    dsimp only
    split
    · exact reaches_runAll yes p
    · exact reaches_runAll no p
  | .loop target row condition body otherwise, p => by
    rw [run, runCites]
    refine (p.reaches_value row).bind fun ⟨v, p⟩ => ?_
    dsimp only
    refine Reaches.of_same (fun _ _ => rfl) fun items => ?_
    -- The condition is asked of every item before the first round begins.
    refine (reaches_selected p target condition items).bind fun ⟨items, p⟩ => ?_
    dsimp only
    have hround (row : Value) (p : Progress) (item : Value × Nat) :
        Reaches p.notes (roundStep target row items body p item) (·.notes)
          (after (Progress.assign p.enter target item.1) fun p =>
            after (p.assign (.name "loop") (roundOf row items item.2)) fun p =>
              runAllCites body p) := by
      refine Progress.reaches_assign (p := p.enter) fun p => Progress.reaches_assign fun p => ?_
      exact (reaches_runAll body p).silent fun q r hr => Option.some.inj hr ▸ rfl
    refine (reaches_foldlM (hround _) items.zipIdx p).bind fun p => ?_
    split
    · exact reaches_runAll otherwise p
    · intro q h
      exact Option.some.inj h ▸ Leads.refl _
  | .assign t e, p => (p.reaches_value e).silent fun r q h => Progress.notes_assign h
  | .capture name filters body, p => by
    rw [run, runCites]
    -- What is written is taken away from the body, what is cited is not.
    refine (reaches_runAll body { p with written := "" }).bind fun q => ?_
    exact (tells_filterText q.frames filters (.text q.written) q.notes).silent fun r t h =>
      Progress.notes_assign h
  | .filtered filters body, p => by
    rw [run, runCites]
    refine (reaches_runAll body { p with written := "" }).bind fun q => ?_
    exact (tells_filterText q.frames filters (.text q.written) q.notes).silent fun r t h =>
      Option.some.inj h ▸ rfl
  | .scope assignments body, p => by
    rw [run, runCites]
    have hstep (p : Progress) (a : Target × Expression) :
        Reaches p.notes (scopeStep p a) (·.notes) (p.cites a.2) :=
      (p.reaches_value a.2).silent fun r q h => Progress.notes_assign h
    refine (reaches_foldlM hstep assignments p.enter).bind fun p => ?_
    exact (reaches_runAll body p).silent fun q r h => Option.some.inj h ▸ rfl

theorem reaches_runAll : ∀ (ss : List Statement) (p : Progress),
    Reaches p.notes (runAll ss p) (·.notes) (runAllCites ss p)
  | [], p => by
    intro q h
    exact Option.some.inj h ▸ Leads.refl _
  | s :: ss, p => by
    rw [runAll, runAllCites]
    exact (reaches_run s p).bind fun p => reaches_runAll ss p

end

/-! ### Documents -/

namespace Renderer

/-- Where the rendering of a document starts: nothing is cited and nothing written. -/
def start (r : Renderer) : Progress := ⟨[r.context], {}, ""⟩

end Renderer

end FirmwareSurvey.Template
