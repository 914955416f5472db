import FirmwareSurvey.Template.Render
import Mathlib.Data.List.Forall2

/-!
# Rendering depends on the names used

An expression looks up the names that stand in it and no others. So where two rows of frames agree
on these names, it has the same value in both (`evaluate_congr`), and two runs of statements that
start alike but for other names go on so (`rel_runAll`).
-/

namespace FirmwareSurvey.Template

/-! ### The names of expressions -/

mutual

/-- Whether all names that an expression looks up have a property. -/
def Expression.Within (p : String → Prop) : Expression → Prop
  | .nothing => True
  | .bool _ => True
  | .int _ => True
  | .float _ => True
  | .text _ => True
  | .name n => p n
  | .list items => AllWithin p items
  | .map members => MembersWithin p members
  | .member base _ => base.Within p
  | .item base index => base.Within p ∧ index.Within p
  | .part base start stop step =>
    base.Within p ∧ BoundWithin p start ∧ BoundWithin p stop ∧ BoundWithin p step
  | .call base arguments named => base.Within p ∧ AllWithin p arguments ∧ NamedWithin p named
  | .filter base _ arguments named => base.Within p ∧ AllWithin p arguments ∧ NamedWithin p named
  | .test base _ arguments named => base.Within p ∧ AllWithin p arguments ∧ NamedWithin p named
  | .unary _ operand => operand.Within p
  | .either left right => left.Within p ∧ right.Within p
  | .both left right => left.Within p ∧ right.Within p
  | .binary _ left right => left.Within p ∧ right.Within p
  | .comparisons first rest => first.Within p ∧ ComparisonsWithin p rest
  | .choice condition yes no => condition.Within p ∧ yes.Within p ∧ BoundWithin p no

/-- Whether the names of expressions have a property. -/
def AllWithin (p : String → Prop) : List Expression → Prop
  | [] => True
  | e :: es => e.Within p ∧ AllWithin p es

/-- Whether the names of an expression have a property, if there is one. -/
def BoundWithin (p : String → Prop) : Option Expression → Prop
  | none => True
  | some e => e.Within p

/-- Whether the names of comparisons have a property. -/
def ComparisonsWithin (p : String → Prop) : List (Comparison × Expression) → Prop
  | [] => True
  | (_, e) :: es => e.Within p ∧ ComparisonsWithin p es

/-- Whether the names of named expressions have a property. -/
def NamedWithin (p : String → Prop) : List (String × Expression) → Prop
  | [] => True
  | (_, e) :: es => e.Within p ∧ NamedWithin p es

/-- Whether the names of a map's members have a property. -/
def MembersWithin (p : String → Prop) : List (Expression × Expression) → Prop
  | [] => True
  | (k, e) :: es => k.Within p ∧ e.Within p ∧ MembersWithin p es

end

/-! ### Values of expressions -/

section Evaluate

variable {p : String → Prop} {fs gs : Frames}

mutual

/-- **An expression has the same value in frames that agree on its names.** -/
theorem evaluate_congr (h : ∀ n, p n → fs.lookup n = gs.lookup n) :
    ∀ e : Expression, e.Within p → evaluate fs e = evaluate gs e
  | .nothing, _ => rfl
  | .bool _, _ => rfl
  | .int _, _ => rfl
  | .float _, _ => rfl
  | .text _, _ => rfl
  | .name n, hn => by
    rw [evaluate, evaluate, h n hn]
  | .list items, hitems => by
    rw [evaluate, evaluate, evaluateAll_congr h items hitems]
  | .map members, hmembers => by
    rw [evaluate, evaluate, evaluateMembers_congr h members hmembers]
  | .member base _, hbase => by
    rw [evaluate, evaluate, evaluate_congr h base hbase]
  | .item base index, ⟨hbase, hindex⟩ => by
    rw [evaluate, evaluate, evaluate_congr h base hbase, evaluate_congr h index hindex]
  | .part base start stop step, ⟨hbase, hstart, hstop, hstep⟩ => by
    rw [evaluate, evaluate, evaluate_congr h base hbase, evaluateBound_congr h start hstart,
      evaluateBound_congr h stop hstop, evaluateBound_congr h step hstep]
  | .call base arguments named, ⟨hbase, harguments, hnamed⟩ => by
    cases base with
    | name n =>
      rw [evaluate, evaluate, h n hbase, evaluateAll_congr h arguments harguments,
        evaluateNamed_congr h named hnamed]
    | member base _ =>
      rw [evaluate, evaluate, evaluate_congr h base hbase,
        evaluateAll_congr h arguments harguments, evaluateNamed_congr h named hnamed]
    | _ => rfl
  | .filter base _ arguments named, ⟨hbase, harguments, hnamed⟩ => by
    rw [evaluate, evaluate, evaluate_congr h base hbase, evaluateAll_congr h arguments harguments,
      evaluateNamed_congr h named hnamed]
  | .test base _ arguments named, ⟨hbase, harguments, hnamed⟩ => by
    rw [evaluate, evaluate, evaluate_congr h base hbase, evaluateAll_congr h arguments harguments,
      evaluateNamed_congr h named hnamed]
  | .unary _ operand, hoperand => by
    rw [evaluate, evaluate, evaluate_congr h operand hoperand]
  | .either left right, ⟨hleft, hright⟩ => by
    rw [evaluate, evaluate, evaluate_congr h left hleft, evaluate_congr h right hright]
  | .both left right, ⟨hleft, hright⟩ => by
    rw [evaluate, evaluate, evaluate_congr h left hleft, evaluate_congr h right hright]
  | .binary _ left right, ⟨hleft, hright⟩ => by
    rw [evaluate, evaluate, evaluate_congr h left hleft, evaluate_congr h right hright]
  | .comparisons first rest, ⟨hfirst, hrest⟩ => by
    rw [evaluate, evaluate, evaluate_congr h first hfirst]
    simp only [evaluateComparisons_congr h rest hrest]
  | .choice condition yes (some no), ⟨hcondition, hyes, hno⟩ => by
    rw [evaluate, evaluate, evaluate_congr h condition hcondition, evaluate_congr h yes hyes,
      evaluate_congr h no hno]
  | .choice condition yes none, ⟨hcondition, hyes, _⟩ => by
    rw [evaluate, evaluate, evaluate_congr h condition hcondition, evaluate_congr h yes hyes]

theorem evaluateAll_congr (h : ∀ n, p n → fs.lookup n = gs.lookup n) :
    ∀ es : List Expression, AllWithin p es → evaluateAll fs es = evaluateAll gs es
  | [], _ => rfl
  | e :: es, ⟨he, hes⟩ => by
    rw [evaluateAll, evaluateAll, evaluate_congr h e he, evaluateAll_congr h es hes]

theorem evaluateBound_congr (h : ∀ n, p n → fs.lookup n = gs.lookup n) :
    ∀ e : Option Expression, BoundWithin p e → evaluateBound fs e = evaluateBound gs e
  | none, _ => rfl
  | some e, he => by
    rw [evaluateBound, evaluateBound, evaluate_congr h e he]

theorem evaluateComparisons_congr (h : ∀ n, p n → fs.lookup n = gs.lookup n) :
    ∀ rest : List (Comparison × Expression), ComparisonsWithin p rest → ∀ left : Value,
      evaluateComparisons fs left rest = evaluateComparisons gs left rest
  | [], _, _ => rfl
  | (_, e) :: es, ⟨he, hes⟩, _ => by
    rw [evaluateComparisons, evaluateComparisons, evaluate_congr h e he]
    simp only [evaluateComparisons_congr h es hes]

theorem evaluateNamed_congr (h : ∀ n, p n → fs.lookup n = gs.lookup n) :
    ∀ es : List (String × Expression), NamedWithin p es →
      evaluateNamed fs es = evaluateNamed gs es
  | [], _ => rfl
  | (_, e) :: es, ⟨he, hes⟩ => by
    rw [evaluateNamed, evaluateNamed, evaluate_congr h e he, evaluateNamed_congr h es hes]

theorem evaluateMembers_congr (h : ∀ n, p n → fs.lookup n = gs.lookup n) :
    ∀ es : List (Expression × Expression), MembersWithin p es →
      evaluateMembers fs es = evaluateMembers gs es
  | [], _ => rfl
  | (k, e) :: es, ⟨hk, he, hes⟩ => by
    rw [evaluateMembers, evaluateMembers, evaluate_congr h k hk, evaluate_congr h e he,
      evaluateMembers_congr h es hes]

end

/-- Whether the names of the arguments of filters have a property. -/
def FiltersWithin (p : String → Prop) (filters : List FilterCall) : Prop :=
  ∀ f ∈ filters, AllWithin p f.arguments ∧ NamedWithin p f.named

theorem filterText_congr (h : ∀ n, p n → fs.lookup n = gs.lookup n) {filters : List FilterCall}
    (hfilters : FiltersWithin p filters) (v : Value) :
    filterText fs filters v = filterText gs filters v := by
  induction filters generalizing v with
  | nil => rfl
  | cons f filters ih =>
    obtain ⟨⟨harguments, hnamed⟩, hfilters⟩ := List.forall_mem_cons.1 hfilters
    rw [filterText, filterText, evaluateAll_congr h f.arguments harguments,
      evaluateNamed_congr h f.named hnamed]
    simp only [ih hfilters]

end Evaluate

/-! ### Frames that agree -/

section Run

variable {p : String → Prop}

/-- Whether two frames have the same values for the names with a property. -/
def FrameAgrees (p : String → Prop) (f g : Members Value) : Prop :=
  ∀ n, p n → f.get? n = g.get? n

/-- Whether two renderings have come equally far, but for the names without a property. -/
structure Progress.Agrees (p : String → Prop) (a b : Progress) : Prop where
  /-- The frames agree one by one. -/
  frames : List.Forall₂ (FrameAgrees p) a.frames b.frames
  /-- The same sources are cited. -/
  notes : a.notes = b.notes
  /-- The same text is written. -/
  written : a.written = b.written

theorem lookup_congr {fs gs : Frames} (h : List.Forall₂ (FrameAgrees p) fs gs) {n : String}
    (hn : p n) : fs.lookup n = gs.lookup n := by
  have hfind : fs.findSome? (Members.get? · n) = gs.findSome? (Members.get? · n) := by
    induction h with
    | nil => rfl
    | cons hfg _ ih => rw [List.findSome?_cons, List.findSome?_cons, hfg n hn, ih]
  rw [Frames.lookup, Frames.lookup, hfind]

theorem FrameAgrees.put {f g : Members Value} (h : FrameAgrees p f g) (n : String) (v : Value) :
    FrameAgrees p (f.put n v) (g.put n v) := by
  intro k hk
  rw [Members.get?_put, Members.get?_put, h k hk]

/-- Computations that go on in the same way from results that agree. -/
theorem rel_bind {α β : Type} {r : α → α → Prop} {q : β → β → Prop} {x y : Option α}
    {f g : α → Option β} (hxy : Option.Rel r x y) (hfg : ∀ a b, r a b → Option.Rel q (f a) (g b)) :
    Option.Rel q (x >>= f) (y >>= g) := by
  cases hxy with
  | none => exact .none
  | some hab => exact hfg _ _ hab

theorem rel_map {α β : Type} {r : α → α → Prop} {q : β → β → Prop} {x y : Option α}
    {f g : α → β} (hxy : Option.Rel r x y) (hfg : ∀ a b, r a b → q (f a) (g b)) :
    Option.Rel q (x.map f) (y.map g) := by
  cases hxy with
  | none => exact .none
  | some hab => exact .some (hfg _ _ hab)

theorem rel_foldlM {α β : Type} {r : β → β → Prop} {f g : β → α → Option β}
    (hfg : ∀ a b x, r a b → Option.Rel r (f a x) (g b x)) (xs : List α) {a b : β} (hab : r a b) :
    Option.Rel r (xs.foldlM f a) (xs.foldlM g b) := by
  induction xs generalizing a b with
  | nil => exact .some hab
  | cons x xs ih =>
    rw [List.foldlM_cons, List.foldlM_cons]
    exact rel_bind (hfg a b x hab) fun _ _ h => ih h

mutual

theorem rel_assigned? (v : Value) {f g : Members Value} (h : FrameAgrees p f g) :
    ∀ t : Target, Option.Rel (FrameAgrees p) (assigned? f v t) (assigned? g v t)
  | .name n => by
    rw [assigned?, assigned?]
    exact .some (h.put n v)
  | .list targets => by
    rw [assigned?, assigned?]
    cases v.elements? with
    | none => exact .none
    | some vs => exact rel_assignedAll? vs h targets

theorem rel_assignedAll? (vs : List Value) {f g : Members Value} (h : FrameAgrees p f g) :
    ∀ ts : List Target, Option.Rel (FrameAgrees p) (assignedAll? f vs ts) (assignedAll? g vs ts)
  | [] => by
    rw [assignedAll?, assignedAll?]
    split
    · exact .some h
    · exact .none
  | t :: ts => by
    cases vs with
    | nil => exact .none
    | cons v vs =>
      rw [assignedAll?, assignedAll?]
      exact rel_bind (rel_assigned? v h t) fun _ _ h => rel_assignedAll? vs h ts

end

/-! ### Steps of a rendering -/

namespace Progress

theorem Agrees.lookup {a b : Progress} (h : a.Agrees p b) :
    ∀ n, p n → a.frames.lookup n = b.frames.lookup n := fun _ hn => lookup_congr h.frames hn

theorem Agrees.write {a b : Progress} (h : a.Agrees p b) (text : String) :
    (a.write text).Agrees p (b.write text) :=
  ⟨h.frames, h.notes, by rw [Progress.write, Progress.write, h.written]⟩

theorem Agrees.assign {a b : Progress} (h : a.Agrees p b) (t : Target) (v : Value) :
    Option.Rel (Agrees p) (a.assign t v) (b.assign t v) := by
  obtain ⟨fs, notes, written⟩ := a
  obtain ⟨gs, notes', written'⟩ := b
  obtain ⟨hframes, hnotes, hwritten⟩ := h
  cases hframes with
  | nil => exact .none
  | cons hfg hframes =>
    exact rel_map (rel_assigned? v hfg t) fun _ _ h => ⟨.cons h hframes, hnotes, hwritten⟩

theorem Agrees.enter {a b : Progress} (h : a.Agrees p b) : a.enter.Agrees p b.enter :=
  ⟨.cons (fun _ _ => rfl) h.frames, h.notes, h.written⟩

/-- A text of its own is begun in agreement. -/
theorem Agrees.emptied {a b : Progress} (h : a.Agrees p b) :
    Agrees p { a with written := "" } { b with written := "" } :=
  ⟨h.frames, h.notes, rfl⟩

theorem Agrees.leave {a b : Progress} (h : a.Agrees p b) : a.leave.Agrees p b.leave :=
  ⟨List.forall₂_drop 1 h.frames, h.notes, h.written⟩

end Progress

/-- Whether two results are the same, with renderings that agree. -/
def Agree (p : String → Prop) {α : Type} (x y : α × Progress) : Prop :=
  x.1 = y.1 ∧ x.2.Agrees p y.2

theorem rel_bind_agree {α β : Type} {q : β → β → Prop} {x y : Option (α × Progress)}
    {f g : α × Progress → Option β} (hxy : Option.Rel (Agree p) x y)
    (hfg : ∀ v a b, a.Agrees p b → Option.Rel q (f (v, a)) (g (v, b))) :
    Option.Rel q (x >>= f) (y >>= g) := by
  refine rel_bind hxy fun x y h => ?_
  obtain ⟨v, a⟩ := x
  obtain ⟨w, b⟩ := y
  obtain ⟨hv, hab⟩ := h
  have hv : v = w := hv
  subst hv
  exact hfg v a b hab

/-- **An expression within the names keeps renderings in agreement.** -/
theorem Progress.Agrees.value {a b : Progress} (h : a.Agrees p b) {e : Expression}
    (he : e.Within p) : Option.Rel (Agree p) (a.value e) (b.value e) := by
  rw [Progress.value, Progress.value, evaluate_congr h.lookup e he, h.notes]
  cases evaluate b.frames e b.notes with
  | none => exact .none
  | some r => exact .some ⟨rfl, h.frames, rfl, h.written⟩

theorem rel_selected {a b : Progress} (h : a.Agrees p b) (target : Target)
    {condition : Option Expression} (hcondition : BoundWithin p condition) (items : List Value) :
    Option.Rel (Agree p) (selected a target condition items)
      (selected b target condition items) := by
  cases condition with
  | none => exact .some ⟨rfl, h⟩
  | some condition =>
    refine rel_foldlM (fun x y v hxy => ?_) items ⟨rfl, h⟩
    obtain ⟨kept, a⟩ := x
    obtain ⟨kept', b⟩ := y
    obtain ⟨hkept, hab⟩ := hxy
    have hkept : kept = kept' := hkept
    subst hkept
    refine rel_bind (hab.enter.assign target v) fun a b hab => ?_
    exact rel_bind_agree (hab.value hcondition) fun _ a b hab => .some ⟨rfl, hab.leave⟩

/-! ### Runs of statements -/

mutual

/-- Whether all names that a statement looks up have a property. -/
def Statement.Within (p : String → Prop) : Statement → Prop
  | .plain _ => True
  | .output e => e.Within p
  | .branch condition yes no => condition.Within p ∧ StatementsWithin p yes ∧ StatementsWithin p no
  | .loop _ items condition body otherwise =>
    items.Within p ∧ BoundWithin p condition ∧ StatementsWithin p body ∧
      StatementsWithin p otherwise
  | .assign _ e => e.Within p
  | .capture _ filters body => FiltersWithin p filters ∧ StatementsWithin p body
  | .filtered filters body => FiltersWithin p filters ∧ StatementsWithin p body
  | .scope assignments body => (∀ a ∈ assignments, a.2.Within p) ∧ StatementsWithin p body

/-- Whether the names of statements have a property. -/
def StatementsWithin (p : String → Prop) : List Statement → Prop
  | [] => True
  | s :: ss => s.Within p ∧ StatementsWithin p ss

end

theorem rel_assignments {assignments : List (Target × Expression)}
    (hassignments : ∀ t ∈ assignments, t.2.Within p) {a b : Progress} (h : a.Agrees p b) :
    Option.Rel (Progress.Agrees p)
      (assignments.foldlM (fun c t => do
        let (v, c) ← Progress.value c t.2
        c.assign t.1 v) a)
      (assignments.foldlM (fun c t => do
        let (v, c) ← Progress.value c t.2
        c.assign t.1 v) b) := by
  induction assignments generalizing a b with
  | nil => exact .some h
  | cons t assignments ih =>
    obtain ⟨ht, hassignments⟩ := List.forall_mem_cons.1 hassignments
    rw [List.foldlM_cons, List.foldlM_cons]
    refine rel_bind (rel_bind_agree (h.value ht) fun v a b h => h.assign t.1 v) fun a b h => ?_
    exact ih hassignments h

mutual

/-- **A statement keeps renderings in agreement on its names.** -/
theorem rel_run : ∀ (s : Statement), s.Within p → ∀ {a b : Progress}, a.Agrees p b →
    Option.Rel (Progress.Agrees p) (run s a) (run s b)
  | .plain text, _, a, b, h => by
    rw [run, run]
    exact .some (h.write text)
  | .output e, he, a, b, h => by
    rw [run, run]
    exact rel_bind_agree (h.value he) fun v a b h => .some (h.write _)
  | .branch condition yes no, ⟨hcondition, hyes, hno⟩, a, b, h => by
    rw [run, run]
    refine rel_bind_agree (h.value hcondition) fun v a b h => ?_
    dsimp only
    split
    · exact rel_runAll yes hyes h
    · exact rel_runAll no hno h
  | .loop target row condition body otherwise, ⟨hrow, hcondition, hbody, hotherwise⟩, a, b, h => by
    rw [run, run]
    refine rel_bind_agree (h.value hrow) fun v a b h => ?_
    dsimp only
    cases v.items? with
    | none => exact .none
    | some items =>
      -- The same items are chosen on both sides, so the body runs equally often.
      refine rel_bind_agree (rel_selected h target hcondition items) fun items a b h => ?_
      refine rel_bind (rel_foldlM (fun a b item h => ?_) _ h) fun a b h => ?_
      · refine rel_bind (h.enter.assign target _) fun a b h => ?_
        refine rel_bind (h.assign _ _) fun a b h => ?_
        exact rel_bind (rel_runAll body hbody h) fun a b h => .some h.leave
      · dsimp only
        split
        · exact rel_runAll otherwise hotherwise h
        · exact .some h
  | .assign target e, he, a, b, h => by
    rw [run, run]
    exact rel_bind_agree (h.value he) fun v a b h => h.assign target v
  | .capture name filters body, ⟨hfilters, hbody⟩, a, b, h => by
    rw [run, run]
    -- The body writes a text of its own, which becomes a value; what was written before is kept.
    refine rel_bind (rel_runAll body hbody h.emptied) fun q r hqr => ?_
    rw [filterText_congr hqr.lookup hfilters, hqr.notes, hqr.written]
    cases filterText r.frames filters (.text r.written) r.notes with
    | none => exact .none
    | some x =>
      have hend : Progress.Agrees p { q with written := a.written, notes := x.2 }
          { r with written := b.written, notes := x.2 } :=
        ⟨hqr.frames, rfl, h.written⟩
      exact hend.assign _ _
  | .filtered filters body, ⟨hfilters, hbody⟩, a, b, h => by
    rw [run, run]
    refine rel_bind (rel_runAll body hbody h.emptied) fun q r hqr => ?_
    rw [filterText_congr hqr.lookup hfilters, hqr.notes, hqr.written, h.written]
    cases filterText r.frames filters (.text r.written) r.notes with
    | none => exact .none
    | some x => exact .some ⟨hqr.frames, rfl, rfl⟩
  | .scope assignments body, ⟨hassignments, hbody⟩, a, b, h => by
    rw [run, run]
    refine rel_bind (rel_assignments hassignments h.enter) fun a b h => ?_
    exact rel_bind (rel_runAll body hbody h) fun a b h => .some h.leave

theorem rel_runAll : ∀ (ss : List Statement), StatementsWithin p ss → ∀ {a b : Progress},
    a.Agrees p b → Option.Rel (Progress.Agrees p) (runAll ss a) (runAll ss b)
  | [], _, a, b, h => by
    rw [runAll, runAll]
    exact .some h
  | s :: ss, ⟨hs, hss⟩, a, b, h => by
    rw [runAll, runAll]
    exact rel_bind (rel_run s hs h) fun a b hab => rel_runAll ss hss hab

end

end Run

/-! ### Documents -/

namespace Renderer

end Renderer

end FirmwareSurvey.Template
