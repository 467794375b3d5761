import ClassLift.Proofs.Conversion.Lineage
import ClassLift.Proofs.Scan.Loop

set_option autoImplicit false

/-! # The loop of a conversion

A session is a converter together with the stack of its scan. `Session.Transforms` is one whole run
of the loop, without any bound on the depth; what an earlier run left on the stack is thrown away
when the next one starts. In an unshared tree the loop ends, the bounded scan of
`Conversion.transform` does the same, and when the loop returns, the tokens visited are those of the
tree (`transform_terminates`).
-/

namespace ClassLift

open Conversion Scan

/-- A converter, and the slots that its scan has still to visit. -/
structure Session where
  converter : Converter
  stack : List Pending

namespace Session

/-- A session that has done nothing yet. -/
def start (options : Options) : Session := ⟨.start options, []⟩

/-- The loop of the conversion from a root ends, and so do the store and the session. What it
returns is the names of the classes. -/
inductive Transforms (root : Slot) (s : Store) (x : Session) (visited : List TokenId) :
    Except Fault (List String) → Store → Session → Prop where
  | intro {result : Except Fault Unit} {s' : Store} {y : Converter} {left : List Pending}
      (ends : Ends visit (s, { x.converter with classes := [] }) [(root, none)] visited result
        (s', y) left) :
      Transforms root s x visited (result.map fun _ => y.classes) s' ⟨y, left⟩

end Session

variable {s s' : Store} {x x' : Session} {root : Slot} {ids visited others : List TokenId}
  {result : Except Fault (List String)}

/-- No visit succeeds where no token is. -/
theorem Conversion.visit_none_ne_ok (parent : Slot) (a b : Store × Converter) :
    (visit none parent).run.run a ≠ (.ok (), b) := by
  rw [visit_none]
  intro h
  cases h

/-- The conversion is a scan within a bound. -/
theorem Conversion.transform_eq (root : Slot) (s : Store) (x : Converter) :
    ∀ a, (Scan.run visit (depthBound s) root).run.run (s, { x with classes := [] }) = a →
      (transform root).run.run (s, x) = ((outcome a.1).map fun _ => a.2.2.classes, a.2) := by
  rintro ⟨_ | _, b⟩ ha
  · rw [transform_run, ha]
    rfl
  · rw [transform_run, ha]
    rfl

/-- A conversion does what the loop does, or it gets to its bound. -/
theorem Session.transforms_or_tooDeep (root : Slot) (s : Store) (x : Session) :
    (∃ visited result s' x', x.Transforms root s visited result s' x' ∧
        (transform root).run.run (s, x.converter) = (result, (s', x'.converter))) ∨
      ∃ visited b task left,
        Steps visit (s, { x.converter with classes := [] }) [⟨root, none, depthBound s⟩] visited b
          (task :: left) ∧ task.depth = 0 := by
  have htransform := transform_eq root s x.converter _ rfl
  rcases run_ends visit_none_ne_ok (depthBound s) root (s, { x.converter with classes := [] }) with
    ⟨visited, left, hends⟩ | hdeep
  · exact Or.inl ⟨visited, _, _, _, .intro hends, htransform⟩
  · exact Or.inr hdeep

/-- The loop ends in one way at most. -/
theorem Session.Transforms.unique {s₁ : Store} {x₁ : Session} {result₁ : Except Fault (List String)}
    (h : x.Transforms root s visited result s' x') (h₁ : x.Transforms root s others result₁ s₁ x₁) :
    visited = others ∧ result = result₁ ∧ s' = s₁ ∧ x' = x₁ := by
  obtain ⟨hends⟩ := h
  obtain ⟨hends₁⟩ := h₁
  obtain ⟨rfl, rfl, hb, rfl⟩ := hends.unique hends₁
  cases hb
  exact ⟨rfl, rfl, rfl, rfl⟩

/-! ## The end of the loop -/

/-- After any rounds in an unshared tree, the tokens visited and those still to be found are the
tree, and no token stands at two places. -/
theorem Scan.Rounds.stage {y : Converter} {b : Store × Converter} {left : List Pending}
    (h : Rounds visit (s, y) [(root, none)] visited b left)
    (hspans : Spans Cell.children s [root] ids) (hn : ids.Nodup) :
    ∃ todo ids', todo.map Task.pending = left ∧ Stage b.1 root visited todo ids' := by
  have hstack : [(⟨root, none, visited.length⟩ : Task)].map Task.pending = [(root, none)] := rfl
  obtain ⟨todo, hsteps, hleft⟩ := h.steps hstack (by simp)
  obtain ⟨ids', -, hstage, -⟩ := Stage.run (fun _ _ _ _ => True) (fun _ _ _ => trivial) hsteps rfl
    (.start hspans hn) trivial
  exact ⟨todo, ids', hleft, hstage⟩

/-- In an unshared tree the loop ends, and the conversion does the same. -/
theorem Session.transforms_of_spans (hspans : Spans Cell.children s [root] ids) (hn : ids.Nodup)
    (x : Session) :
    ∃ visited result s' x', x.Transforms root s visited result s' x' ∧
      (transform root).run.run (s, x.converter) = (result, (s', x'.converter)) := by
  rcases x.transforms_or_tooDeep root s with hends | ⟨visited, b, task, left, hsteps, hzero⟩
  · exact hends
  · -- every task has room
    obtain ⟨-, -, -, hroom⟩ := room_of_steps hspans hn hsteps
    exact absurd hzero (Nat.ne_of_gt (hroom task List.mem_cons_self).1)

/-- In an unshared tree, with empty slots or without, the loop ends, whatever the converter has
done before. The conversion gives what the loop gives; no more rounds are possible than there are
visits in it; and when it returns, the tokens visited are those of the tree, in preorder, each of
them once. -/
theorem Conversion.transform_terminates (hspans : Spans Cell.children s [root] ids) (hn : ids.Nodup)
    (x : Session) :
    ∃ visited result s' x', x.Transforms root s visited result s' x' ∧
      (transform root).run.run (s, x.converter) = (result, (s', x'.converter)) ∧
      (∀ others b left,
        Rounds visit (s, { x.converter with classes := [] }) [(root, none)] others b left →
          others.length ≤ visited.length) ∧
      ∀ names, result = .ok names →
        x'.stack = [] ∧ Spans Cell.children s' [root] visited ∧ visited.Nodup := by
  obtain ⟨visited, result, s', x', htransforms, htransform⟩ := x.transforms_of_spans hspans hn
  refine ⟨visited, result, s', x', htransforms, htransform, fun others b left hrounds => ?_,
    fun names hnames => ?_⟩
  · obtain ⟨hends⟩ := htransforms
    exact (hrounds.toward_end hends).length_le
  · obtain ⟨hends⟩ := htransforms
    cases hends with
    | raised => cases hnames
    | absent => cases hnames
    | returned hrounds =>
        -- nothing is left, so that the tree is what was visited
        obtain ⟨todo, ids', htodo, hwhole, hrest, hn'⟩ := hrounds.stage hspans hn
        obtain rfl := List.map_eq_nil_iff.mp htodo
        cases hrest
        rw [List.append_nil] at hwhole hn'
        exact ⟨rfl, hwhole, hn'⟩

/-- The source file is an unshared tree. -/
theorem Conversion.pointFile_tree :
    ∃ ids, Spans Cell.children pointFile [some 14] ids ∧ ids.Nodup := by
  obtain ⟨all, hlinks, hn⟩ := pointFile_spans
  obtain ⟨ids, hspans, hsub⟩ := hlinks.restrict Cell.children_sublist_links
  exact ⟨ids, hspans, hn.sublist hsub⟩

theorem Conversion.transform_terminates_pointFile :
    ∃ ids, Spans Cell.children pointFile [some 14] ids ∧ ids.Nodup ∧
      ∃ visited result s' x',
        (Session.start ⟨true, true⟩).Transforms (some 14) pointFile visited result s' x' ∧
        (transform (some 14)).run.run (pointFile, .start ⟨true, true⟩) =
          (result, (s', x'.converter)) ∧
        (∀ others b left,
          Rounds visit (pointFile, .start ⟨true, true⟩) [(some 14, none)] others b left →
            others.length ≤ visited.length) ∧
        ∀ names, result = .ok names →
          x'.stack = [] ∧ Spans Cell.children s' [some 14] visited ∧ visited.Nodup := by
  obtain ⟨ids, hspans, hn⟩ := pointFile_tree
  exact ⟨ids, hspans, hn, transform_terminates hspans hn (.start ⟨true, true⟩)⟩

end ClassLift
