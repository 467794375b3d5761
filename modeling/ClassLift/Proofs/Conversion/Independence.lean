import ClassLift.Proofs.Conversion.Loop

set_option autoImplicit false

/-! # Conversions do not depend on the past

What a converter has done before shows in the counts of its reporter, in the lines it wrote and in
what its last run left. None of this has an influence on the next run: a visit reads nothing but the
options, so that it does the same from any two converters that have the same options and the same
classes (`visit_indifferent`), and so do the bounded scan and the loop. The options never change
(`Session.Past.options_eq`). Two sessions with any past, but the same options, come to the same result
and leave the same store (`transform_independent`).
-/

namespace ClassLift

open Scan

/-! ## Computations that do not look at the difference -/

section

variable {ε σ α β : Type} {R : σ → σ → Prop}

/-- From the same store and two states that are related, the computation gives the same and comes
to the same store, and the states are related again. -/
def Indifferent (R : σ → σ → Prop) (e : ExceptT ε (StateM (Store × σ)) α) : Prop :=
  ∀ s x y, R x y → ∃ r s' x' y',
    e.run.run (s, x) = (r, (s', x')) ∧ e.run.run (s, y) = (r, (s', y')) ∧ R x' y'

namespace Indifferent

variable {e : ExceptT ε (StateM (Store × σ)) α} {f : α → ExceptT ε (StateM (Store × σ)) β}

theorem pure (a : α) : Indifferent R (pure a : ExceptT ε (StateM (Store × σ)) α) :=
  fun s x y h => ⟨_, s, x, y, rfl, rfl, h⟩

theorem throw (fault : ε) : Indifferent R (throw fault : ExceptT ε (StateM (Store × σ)) α) :=
  fun s x y h => ⟨_, s, x, y, rfl, rfl, h⟩

theorem bind (he : Indifferent R e) (hf : ∀ a, Indifferent R (f a)) : Indifferent R (e >>= f) := by
  intro s x y h
  obtain ⟨r, s₁, x₁, y₁, hx, hy, h₁⟩ := he s x y h
  cases r with
  | error fault =>
      exact ⟨_, s₁, x₁, y₁, run_run_bind_of_error hx, run_run_bind_of_error hy, h₁⟩
  | ok a =>
      obtain ⟨r, s₂, x₂, y₂, hx₂, hy₂, h₂⟩ := hf a s₁ x₁ y₁ h₁
      refine ⟨r, s₂, x₂, y₂, ?_, ?_, h₂⟩
      · rw [run_run_bind_of_ok hx, hx₂]
      · rw [run_run_bind_of_ok hy, hy₂]

theorem tryCatch {g : ε → ExceptT ε (StateM (Store × σ)) α} (he : Indifferent R e)
    (hg : ∀ fault, Indifferent R (g fault)) : Indifferent R (tryCatch e g) := by
  intro s x y h
  obtain ⟨r, s₁, x₁, y₁, hx, hy, h₁⟩ := he s x y h
  cases r with
  | error fault =>
      obtain ⟨r, s₂, x₂, y₂, hx₂, hy₂, h₂⟩ := hg fault s₁ x₁ y₁ h₁
      refine ⟨r, s₂, x₂, y₂, ?_, ?_, h₂⟩
      · rw [run_run_tryCatch, hx]
        exact hx₂
      · rw [run_run_tryCatch, hy]
        exact hy₂
  | ok a =>
      refine ⟨.ok a, s₁, x₁, y₁, ?_, ?_, h₁⟩
      · rw [run_run_tryCatch, hx]
      · rw [run_run_tryCatch, hy]

/-- The store may be read, as long as the rest of the computation does not look either. -/
theorem read {g : Store × σ → ExceptT ε (StateM (Store × σ)) β} {k : Store → ExceptT ε (StateM (Store × σ)) β}
    (hg : ∀ a, g a = k a.1) (hk : ∀ s, Indifferent R (k s)) : Indifferent R (get >>= g) := by
  intro s x y h
  obtain ⟨r, s', x', y', hx, hy, h'⟩ := hk s s x y h
  refine ⟨r, s', x', y', ?_, ?_, h'⟩
  · rw [run_run_bind_of_ok (run_run_get _), hg]
    exact hx
  · rw [run_run_bind_of_ok (run_run_get _), hg]
    exact hy

theorem forM {g : α → ExceptT ε (StateM (Store × σ)) Unit} (hg : ∀ a, Indifferent R (g a))
    (as : List α) : Indifferent R (as.forM g) := by
  induction as with
  | nil => exact pure ()
  | cons a as ih => exact bind (hg a) fun _ => ih

end Indifferent

theorem Traversal.edit_indifferent (e : Edit α) : Indifferent R (Traversal.edit e : Traversal σ α) :=
  fun _ _ _ h => ⟨_, _, _, _, rfl, rfl, h⟩

theorem Traversal.modifyOwn_indifferent {f : σ → σ} (hf : ∀ x y, R x y → R (f x) (f y)) :
    Indifferent R (Traversal.modifyOwn f) := fun _ x y h => ⟨_, _, _, _, rfl, rfl, hf x y h⟩

/-! ## Scans -/

namespace Scan

variable {visit : Visit σ}

theorem below_indifferent (h : ∀ slot parent, Indifferent R (visit slot parent)) (depth : Nat)
    (slot parent : Slot) : Indifferent R (below visit depth slot parent) := by
  have hvisited : ∀ slot parent, Indifferent R (visited visit slot parent) := by
    intro slot parent s x y hxy
    obtain ⟨r, s', x', y', hx, hy, h'⟩ := h slot parent s x y hxy
    cases r with
    | ok => exact ⟨_, s', x', y', visited_of_ok hx, visited_of_ok hy, h'⟩
    | error fault => exact ⟨_, s', x', y', visited_of_error hx, visited_of_error hy, h'⟩
  have heach : ∀ {one : Slot → Run σ Unit}, (∀ slot, Indifferent R (one slot)) →
      ∀ slots, Indifferent R (each one slots) := by
    intro one hone slots
    induction slots with
    | nil => exact .pure ()
    | cons slot slots ih => exact ((hone slot).tryCatch fun _ => .throw _).bind fun _ => ih
  -- the stores are the same after the visit, and so are the children to go on with
  induction depth generalizing slot parent with
  | zero => exact .throw _
  | succ depth ih =>
      refine (hvisited slot parent).bind fun _ => ?_
      cases slot with
      | none => exact .throw _
      | some t => exact .read (fun _ => rfl) fun s => heach (fun child => ih child (some t)) (s.cell t).children

variable {s s' : Store} {x y x' : σ} {stack left : List Pending} {seen : List TokenId}
  {result : Except Fault Unit}

theorem Rounds.indifferent {a b : Store × σ} (hvisit : ∀ slot parent, Indifferent R (visit slot parent))
    (h : Rounds visit a stack seen b left) (hxy : R a.2 y) :
    ∃ y', Rounds visit (a.1, y) stack seen (b.1, y') left ∧ R b.2 y' := by
  induction h generalizing y with
  | refl => exact ⟨y, .refl _ _, hxy⟩
  | @head a b c t parent stack left seen here _ ih =>
      obtain ⟨r, s₁, x₁, y₁, hx, hy, h₁⟩ := hvisit (some t) parent a.1 a.2 y hxy
      rw [show (a.1, a.2) = a from rfl, here] at hx
      cases hx
      obtain ⟨y', hrounds, h'⟩ := ih h₁
      exact ⟨y', .head hy hrounds, h'⟩

/-- The loop ends in the same way, whichever of two related states it starts with. -/
theorem Ends.indifferent (hvisit : ∀ slot parent, Indifferent R (visit slot parent))
    (h : Ends visit (s, x) stack seen result (s', x') left) (hxy : R x y) :
    ∃ y', Ends visit (s, y) stack seen result (s', y') left ∧ R x' y' := by
  cases h with
  | returned rounds =>
      obtain ⟨y', hrounds, h'⟩ := rounds.indifferent hvisit hxy
      exact ⟨y', .returned hrounds, h'⟩
  | raised rounds here =>
      obtain ⟨y₁, hrounds, h₁⟩ := rounds.indifferent hvisit hxy
      obtain ⟨r, s₂, x₂, y', hx, hy, h'⟩ := hvisit _ _ _ _ y₁ h₁
      rw [here] at hx
      cases hx
      exact ⟨y', .raised hrounds hy, h'⟩
  | absent rounds here =>
      obtain ⟨y₁, hrounds, h₁⟩ := rounds.indifferent hvisit hxy
      obtain ⟨r, s₂, x₂, y', hx, hy, h'⟩ := hvisit _ _ _ _ y₁ h₁
      rw [here] at hx
      cases hx
      exact ⟨y', .absent hrounds hy, h'⟩

end Scan

end

/-! ## Visits -/

theorem Converter.options_warn (x : Converter) (about : Option Label) (name message : String) :
    (x.warn about name message).1.options = x.options := by
  unfold warn
  split <;> rfl

/-- Both converters have these options, and they have made the same classes. -/
structure Converter.Matches (options : Options) (x y : Converter) : Prop where
  left : x.options = options
  right : y.options = options
  classes : y.classes = x.classes

namespace Conversion

variable {options : Options}

theorem commit_indifferent (c : Candidate) : Indifferent (Converter.Matches options) (commit c) := by
  unfold commit
  split
  · refine (Traversal.edit_indifferent _).bind fun _ => ?_
    refine (Traversal.modifyOwn_indifferent fun x y h => ?_).bind fun _ => ?_
    · exact ⟨h.left, h.right, congrArg (· ++ [c.name]) h.classes⟩
    refine (Traversal.edit_indifferent _).bind fun made => ?_
    exact Traversal.modifyOwn_indifferent fun x y h => ⟨h.left, h.right, h.classes⟩
  · exact .pure ()

/-- A visit looks only at the options of the converter, and leaves them as they are. -/
theorem visit_indifferent (slot parent : Slot) :
    Indifferent (Converter.Matches options) (visit slot parent) := by
  intro s x y h
  cases slot with
  | none => exact ⟨_, s, x, y, visit_none parent s x, visit_none parent s y, h⟩
  | some t =>
      cases hc : s.isContainer (some t) with
      | false =>
          exact ⟨_, s, x, y, visit_of_not_container hc parent x, visit_of_not_container hc parent y, h⟩
      | true =>
          rw [visit_of_container hc, visit_of_container hc, h.left, h.right]
          have hafter : ∀ result, Indifferent (Converter.Matches options) (afterDetection result) := by
            intro result
            cases result with
            | ok candidates => exact .forM commit_indifferent candidates
            | error fault => exact .throw fault
          -- the notices are the same, and what they do to the reporters does not matter
          obtain ⟨hx, hxclasses⟩ := Converter.sameClasses_reports x ((detect s options (some t)).run.run []).2
          obtain ⟨hy, hyclasses⟩ := Converter.sameClasses_reports y ((detect s options (some t)).run.run []).2
          exact hafter _ s _ _ ⟨hx.trans h.left, hy.trans h.right, by rw [hyclasses, hxclasses, h.classes]⟩

theorem options_of_visit (slot parent : Slot) (a : Store × Converter) :
    ((visit slot parent).run.run a).2.2.options = a.2.options := by
  obtain ⟨r, s', x', y', hx, -, h⟩ :=
    visit_indifferent slot parent a.1 a.2 a.2 ⟨rfl, rfl, rfl⟩
  rw [show (a.1, a.2) = a from rfl] at hx
  rw [hx]
  exact h.left

end Conversion

/-! ## Sessions with a past -/

namespace Session

variable {options : Options} {x x' y y' : Session} {s s' : Store} {root : Slot}
  {visited : List TokenId} {result : Except Fault (List String)}

/-- Something is done with a session: a conversion that ends, well or not, the visit of one token,
a warning, which may be of an unknown kind, or a change of what is written. -/
inductive Does : Session → Session → Prop where
  | transform {x x' : Session} {root : Slot} {s s' : Store} {visited : List TokenId}
      {result : Except Fault (List String)} (h : x.Transforms root s visited result s' x') : Does x x'
  | visit (x : Session) (slot parent : Slot) (s : Store) :
      Does x { x with converter := ((Conversion.visit slot parent).run.run (s, x.converter)).2.2 }
  | warn (x : Session) (about : Option Label) (name message : String) :
      Does x { x with converter := (x.converter.warn about name message).1 }
  | disable (x : Session) (name : String) :
      Does x { x with converter.reporter := x.converter.reporter.disable name }
  | enable (x : Session) (name : String) :
      Does x { x with converter.reporter := x.converter.reporter.enable name }
  | setSilent (x : Session) (silent : Bool) :
      Does x { x with converter.reporter := x.converter.reporter.setSilent silent }

/-- The session began with the options, and since then anything may have been done with it. -/
def Past (options : Options) (x : Session) : Prop :=
  Relation.ReflTransGen Does (start options) x

/-- The loop does the same, whatever the sessions have done before. -/
theorem Transforms.indifferent (h : x.Transforms root s visited result s' x')
    (hx : x.converter.options = options) (hy : y.converter.options = options) :
    ∃ y', y.Transforms root s visited result s' y' ∧ x'.stack = y'.stack ∧
      Converter.Matches options x'.converter y'.converter := by
  obtain ⟨hends⟩ := h
  obtain ⟨z, hends', hmatches⟩ := hends.indifferent Conversion.visit_indifferent
    (y := { y.converter with classes := [] }) (R := Converter.Matches options) ⟨hx, hy, rfl⟩
  refine ⟨⟨z, _⟩, ?_, rfl, hmatches⟩
  rw [← hmatches.classes]
  exact .intro hends'

/-- The options never change. -/
theorem Past.options_eq (h : x.Past options) : x.converter.options = options := by
  induction h with
  | refl => rfl
  | @tail x x' _ hdoes ih =>
      cases hdoes with
      | transform h =>
          obtain ⟨_, -, -, hmatches⟩ := h.indifferent ih ih
          exact hmatches.left
      | visit slot parent s => exact (Conversion.options_of_visit slot parent _).trans ih
      | warn about name message =>
          exact (Converter.options_warn x.converter about name message).trans ih
      | disable | enable | setSilent => exact ih

end Session

/-- Two sessions with the same options that have done whatever they have done: the conversion of
one store from one root has the same result and leaves the same store. The loop of the one ends if
that of the other does, and then with the same result, store, stack and classes. -/
theorem Conversion.transform_independent {options : Options} {x y : Session} (hx : x.Past options)
    (hy : y.Past options) (root : Slot) (s : Store) :
    (((transform root).run.run (s, x.converter)).1 = ((transform root).run.run (s, y.converter)).1 ∧
      ((transform root).run.run (s, x.converter)).2.1 =
        ((transform root).run.run (s, y.converter)).2.1) ∧
      ∀ visited result s' x', x.Transforms root s visited result s' x' →
        (∃ y', y.Transforms root s visited result s' y') ∧
          ∀ others result₁ s₁ y', y.Transforms root s others result₁ s₁ y' →
            result₁ = result ∧ s₁ = s' ∧ y'.stack = x'.stack ∧
              y'.converter.classes = x'.converter.classes ∧
              y'.converter.options = x'.converter.options := by
  have hx := hx.options_eq
  have hy := hy.options_eq
  constructor
  · obtain ⟨r, s', x', y', hrun, hrun', hmatches⟩ :=
      below_indifferent visit_indifferent (depthBound s) root none s
        { x.converter with classes := [] } { y.converter with classes := [] } ⟨hx, hy, rfl⟩
    rw [transform_eq root s x.converter _ hrun, transform_eq root s y.converter _ hrun']
    exact ⟨by rw [hmatches.classes], rfl⟩
  · intro visited result s' x' h
    obtain ⟨y', h', hstack, hmatches⟩ := h.indifferent hx hy
    refine ⟨⟨y', h'⟩, fun others result₁ s₁ y₁ h₁ => ?_⟩
    obtain ⟨-, rfl, rfl, rfl⟩ := h'.unique h₁
    exact ⟨rfl, rfl, hstack.symm, hmatches.classes, hmatches.right.trans hmatches.left.symm⟩

/-- There is a session that has converted the source file, has warned of a kind that there is not,
and was silenced. -/
theorem Session.exists_past :
    ∃ x : Session, x.Past ⟨true, true⟩ ∧ x.converter.classes = ["Point"] ∧
      x.converter.reporter.silent = true ∧ x.converter.reporter.count "unknown" = 1 := by
  obtain ⟨ids, hspans, hn⟩ := Conversion.pointFile_tree
  obtain ⟨visited, result, s', x', htransforms, htransform⟩ :=
    (start ⟨true, true⟩).transforms_of_spans hspans hn
  have hrun : (Conversion.transform (some 14)).run.run (Conversion.pointFile, .start ⟨true, true⟩) =
      (result, (s', x'.converter)) := htransform
  have hclasses : ((Conversion.transform (some 14)).run.run
      (Conversion.pointFile, .start ⟨true, true⟩)).2.2.classes = ["Point"] := rfl
  have hreporter : ((Conversion.transform (some 14)).run.run
      (Conversion.pointFile, .start ⟨true, true⟩)).2.2.reporter = .start := rfl
  rw [hrun] at hclasses hreporter
  obtain ⟨⟨options, reporter, classes, log⟩, stack⟩ := x'
  cases hclasses
  cases hreporter
  refine ⟨_, ((Relation.ReflTransGen.single (.transform htransforms)).tail
    (.warn _ none "unknown" "")).tail (.setSilent _ true), rfl, rfl, rfl⟩

theorem Conversion.transform_independent_pointFile :
    ∃ x : Session, x.Past ⟨true, true⟩ ∧ (Session.start ⟨true, true⟩).Past ⟨true, true⟩ ∧
      (x.converter.classes = ["Point"] ∧ x.converter.reporter.silent = true ∧
        x.converter.reporter.count "unknown" = 1) ∧
      (((transform (some 14)).run.run (pointFile, x.converter)).1 =
          ((transform (some 14)).run.run (pointFile, .start ⟨true, true⟩)).1 ∧
        ((transform (some 14)).run.run (pointFile, x.converter)).2.1 =
          ((transform (some 14)).run.run (pointFile, .start ⟨true, true⟩)).2.1) ∧
      ∀ visited result s' x', x.Transforms (some 14) pointFile visited result s' x' →
        (∃ y', (Session.start ⟨true, true⟩).Transforms (some 14) pointFile visited result s' y') ∧
          ∀ others result₁ s₁ y',
            (Session.start ⟨true, true⟩).Transforms (some 14) pointFile others result₁ s₁ y' →
              result₁ = result ∧ s₁ = s' ∧ y'.stack = x'.stack ∧
                y'.converter.classes = x'.converter.classes ∧
                y'.converter.options = x'.converter.options := by
  obtain ⟨x, hx, hpast⟩ := Session.exists_past
  exact ⟨x, hx, .refl, hpast, transform_independent hx .refl (some 14) pointFile⟩

end ClassLift
