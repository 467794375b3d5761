import ClassLift.Conversion
import ClassLift.Proofs.Class.Candidates
import ClassLift.Proofs.Scan
import ClassLift.Proofs.Token.Frame

set_option autoImplicit false

/-! # Visits

The visit of a container detects the candidates among its statements and makes classes of
those that can be one (`visit_of_container`); the visit of any other token does nothing. The
state of the converter takes part in this only by its options, and records the names of the
classes: `classes_of_visit` says which these are.
-/

namespace ClassLift

/-! ## The converter -/

namespace Converter

/-- The converters agree in their options and in the classes that they made. -/
def SameClasses (x y : Converter) : Prop := y.options = x.options ∧ y.classes = x.classes

theorem sameClasses_write (x : Converter) (line : String) : x.SameClasses (x.write line) :=
  ⟨rfl, rfl⟩

theorem sameClasses_report (x : Converter) (n : Notice) : x.SameClasses (x.report n) := by
  unfold report warn
  split
  · exact sameClasses_write _ _
  · exact ⟨rfl, rfl⟩
  · exact ⟨rfl, rfl⟩

theorem sameClasses_reports (x : Converter) (notices : List Notice) :
    x.SameClasses (notices.foldl report x) := by
  induction notices generalizing x with
  | nil => exact ⟨rfl, rfl⟩
  | cons n notices ih =>
      obtain ⟨ho, hc⟩ := sameClasses_report x n
      obtain ⟨ho', hc'⟩ := ih (x.report n)
      exact ⟨ho'.trans ho, hc'.trans hc⟩

theorem reporter_warn (x : Converter) (about : Option Label) (name message : String) :
    (x.warn about name message).1.reporter = (x.reporter.warn about name message).1 := by
  unfold warn
  rcases x.reporter.warn about name message with ⟨r, _ | _ | _⟩ <;> rfl

/-- A notice is counted, whether or not it is written. -/
theorem counts_report (x : Converter) (n : Notice) :
    (x.report n).reporter.counts = Reporter.increase n.warning.name x.reporter.counts := by
  rw [report, reporter_warn]
  rfl

/-- The converter after a class of the given name was made of the given token. -/
def made (x : Converter) (name : String) (l : Label) : Converter :=
  { x with classes := x.classes ++ [name] }.write (convertedLine name l.line)

theorem classes_made (x : Converter) (name : String) (l : Label) :
    (x.made name l).classes = x.classes ++ [name] := rfl

theorem reporter_made (x : Converter) (name : String) (l : Label) :
    (x.made name l).reporter = x.reporter := rfl

end Converter

namespace Conversion

variable {s s' : Store} {x x' : Converter} {c : Candidate} {candidates : List Candidate}

/-! ## Commits -/

theorem commit_of_not_transformable (h : c.isTransformable = false) :
    (commit c).run.run (s, x) = (.ok (), (s, x)) := by
  unfold commit
  rw [h]
  rfl

/-- A candidate that can be made a class is committed, and then its name is recorded. -/
theorem commit_of_transformable {t : TokenId} (h : c.isTransformable = true)
    (hs : c.statement = some t) (hc : c.commit.run.run s = (.ok (), s')) :
    (commit c).run.run (s, x) = (.ok (), (s', x.made c.name (s'.cell t).label)) := by
  unfold commit
  rw [if_pos h, run_run_bind_of_ok (Traversal.run_run_edit_of_eq hc x),
    run_run_bind_of_ok (Traversal.run_run_modifyOwn _ _ _), hs]
  rfl

theorem commit_eq_ok (h : (commit c).run.run (s, x) = (.ok (), (s', x'))) :
    (c.isTransformable = false ∧ s' = s ∧ x' = x) ∨
      (c.isTransformable = true ∧ c.commit.run.run s = (.ok (), s') ∧
        ∃ l, x' = x.made c.name l) := by
  cases ht : c.isTransformable with
  | false =>
      rw [commit_of_not_transformable ht] at h
      cases h
      exact Or.inl ⟨rfl, rfl, rfl⟩
  | true =>
      unfold commit at h
      rw [if_pos ht] at h
      obtain ⟨⟨⟩, ⟨s₁, x₁⟩, hc, h⟩ := run_run_bind_eq_ok.mp h
      rw [Traversal.run_run_edit, Prod.mk.injEq, Prod.mk.injEq] at hc
      obtain ⟨hok, hs, rfl⟩ := hc
      rw [run_run_bind_of_ok (Traversal.run_run_modifyOwn _ _ _)] at h
      cases hst : c.statement with
      | none =>
          rw [hst, run_run_bind_of_error
            (Traversal.run_run_edit_of_eq (Edit.run_run_cell_none s₁) _)] at h
          cases h
      | some t =>
          rw [hst, run_run_bind_of_ok
            (Traversal.run_run_edit_of_eq (Edit.run_run_cell s₁ t) _)] at h
          cases h
          exact Or.inr ⟨rfl, Prod.ext hok hs, _, rfl⟩

/-- Commits record the names of the candidates that can be made classes. -/
theorem classes_of_commits (h : (candidates.forM commit).run.run (s, x) = (.ok (), (s', x'))) :
    x'.options = x.options ∧
      x'.classes = x.classes ++
        (candidates.filter Candidate.isTransformable).map Candidate.name := by
  induction candidates generalizing s x with
  | nil =>
      cases h
      simp
  | cons c candidates ih =>
      have h : (commit c >>= fun _ => candidates.forM commit).run.run (s, x) =
        (.ok (), (s', x')) := h
      obtain ⟨⟨⟩, ⟨s₁, x₁⟩, hc, h⟩ := run_run_bind_eq_ok.mp h
      obtain ⟨hoptions, hclasses⟩ := ih h
      rcases commit_eq_ok hc with ⟨ht, -, rfl⟩ | ⟨ht, -, l, rfl⟩
      · rw [List.filter_cons_of_neg (by simp [ht])]
        exact ⟨hoptions, hclasses⟩
      · rw [List.filter_cons_of_pos ht, hoptions, hclasses, Converter.classes_made,
          List.append_assoc]
        exact ⟨rfl, rfl⟩

/-- Commits do not warn. -/
theorem reporter_of_commits (h : (candidates.forM commit).run.run (s, x) = (.ok (), (s', x'))) :
    x'.reporter = x.reporter := by
  induction candidates generalizing s x with
  | nil =>
      cases h
      rfl
  | cons c candidates ih =>
      have h : (commit c >>= fun _ => candidates.forM commit).run.run (s, x) =
        (.ok (), (s', x')) := h
      obtain ⟨⟨⟩, ⟨s₁, x₁⟩, hc, h⟩ := run_run_bind_eq_ok.mp h
      have hrest := ih h
      rcases commit_eq_ok hc with ⟨-, -, rfl⟩ | ⟨-, -, l, rfl⟩
      · exact hrest
      · exact hrest.trans (Converter.reporter_made _ _ _)

/-! ## Visits of tokens -/

theorem visit_none (parent : Slot) (s : Store) (x : Converter) :
    (visit none parent).run.run (s, x) = (.error .absentToken, (s, x)) := rfl

/-- What the visit of a container does after the detection. -/
def afterDetection : Except Fault (List Candidate) → Conversion Unit
  | .ok candidates => candidates.forM commit
  | .error fault => throw fault

theorem visit_of_container {block : Slot} (h : s.isContainer block = true) (parent : Slot)
    (x : Converter) :
    (visit block parent).run.run (s, x) =
      (afterDetection ((detect s x.options block).run.run []).1).run.run
        (s, ((detect s x.options block).run.run []).2.foldl Converter.report x) := by
  cases block with
  | none => cases h
  | some t =>
      have hkind := Store.isContainer_some.mp h
      unfold visit
      rw [run_run_bind_of_ok (Traversal.run_run_edit_of_eq (Edit.run_run_cell s t) x),
        if_pos hkind]
      unfold convertBlock
      rw [run_run_bind_of_ok (run_run_get _), run_run_bind_of_ok (Traversal.run_run_own _ _)]
      dsimp only
      rcases (detect s x.options (some t)).run.run [] with ⟨result, notices⟩
      dsimp only
      rw [run_run_bind_of_ok (Traversal.run_run_modifyOwn _ _ _)]
      cases result <;> rfl

theorem visit_of_not_container {t : TokenId} (h : s.isContainer (some t) = false) (parent : Slot)
    (x : Converter) : (visit (some t) parent).run.run (s, x) = (.ok (), (s, x)) := by
  have hkind : ¬ ((s.cell t).label.kind = Kind.sourceFile ∨ (s.cell t).label.kind = Kind.block) := by
    rw [← Store.isContainer_some, h]
    simp
  unfold visit
  rw [run_run_bind_of_ok (Traversal.run_run_edit_of_eq (Edit.run_run_cell s t) x),
    if_neg hkind]
  rfl

/-- A container whose visit succeeds: all its candidates were committed. -/
theorem visit_eq_ok {block parent : Slot} (hb : s.isContainer block = true)
    (h : (visit block parent).run.run (s, x) = (.ok (), (s', x'))) :
    ∃ candidates x₁, (detect s x.options block).Gives (.ok candidates) ∧
      Candidates s x.options block (s.children block) candidates ∧ x.SameClasses x₁ ∧
      (candidates.forM commit).run.run (s, x₁) = (.ok (), (s', x')) := by
  rw [visit_of_container hb] at h
  rcases detect_gives s x.options block with ⟨candidates, gives, hc⟩ | ⟨fault, gives, -⟩
  · rw [gives []] at h
    exact ⟨candidates, _, gives, hc, Converter.sameClasses_reports _ _, h⟩
  · rw [gives []] at h
    cases h

/-- The visit of a container records exactly the functions that become classes, each once. -/
theorem classes_of_visit {block parent : Slot} (hb : s.isContainer block = true)
    (h : (visit block parent).run.run (s, x) = (.ok (), (s', x'))) :
    ∃ made, x'.classes = x.classes ++ made ∧ made.Nodup ∧
      ∀ name, name ∈ made ↔ Converts s x.options block name := by
  obtain ⟨candidates, x₁, -, hc, ⟨-, hclasses⟩, h⟩ := visit_eq_ok hb h
  obtain ⟨-, hmade⟩ := classes_of_commits h
  refine ⟨(candidates.filter Candidate.isTransformable).map Candidate.name, ?_, ?_, ?_⟩
  · rw [hmade, hclasses]
  · exact hc.distinct.sublist (List.filter_sublist.map _)
  · intro name
    exact hc.transformable_iff

/-- The source file `function Point() {}` with `Point.prototype.norm = function() {}`; its
token is number 14. -/
def pointFile : Store where
  cells := #[
    .fresh Kind.text "Point" 1 9 [],
    .fresh Kind.arguments "()" 1 14 [],
    .fresh Kind.block "\x7b\x7d" 1 17 [],
    .fresh Kind.functionDecl "function" 1 0 [some 0, some 1, some 2],
    .fresh Kind.text "Point" 2 0 [],
    .fresh Kind.memberName "prototype" 2 6 [],
    .fresh Kind.member "." 2 5 [some 4, some 5],
    .fresh Kind.memberName "norm" 2 16 [],
    .fresh Kind.member "." 2 15 [some 6, some 7],
    .fresh Kind.text "" 2 23 [],
    .fresh Kind.arguments "()" 2 31 [],
    .fresh Kind.block "\x7b\x7d" 2 34 [],
    .fresh Kind.anonymousFunction "function" 2 23 [some 9, some 10, some 11],
    .fresh Kind.assign "=" 2 21 [some 8, some 12],
    .fresh Kind.sourceFile "" 1 0 [some 3, some 13]]

theorem classes_of_visit_pointFile :
    pointFile.isContainer (some 14) = true ∧
      ∃ s' x', (visit (some 14) none).run.run (pointFile, .start ⟨true, true⟩) =
          (.ok (), (s', x')) ∧
        x'.classes = ["Point"] ∧
        ∀ name, name ∈ ["Point"] ↔ Converts pointFile ⟨true, true⟩ (some 14) name := by
  have hvisit : (visit (some 14) none).run.run (pointFile, .start ⟨true, true⟩) = _ := rfl
  obtain ⟨made, hclasses, -, hmade⟩ := classes_of_visit (by decide) hvisit
  obtain rfl : ["Point"] = made := hclasses
  exact ⟨by decide, _, _, hvisit, rfl, hmade⟩

end Conversion

end ClassLift
