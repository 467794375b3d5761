import ClassLift.Proofs.Class.Touch
import ClassLift.Proofs.Conversion.Loop

set_option autoImplicit false

/-! # What a conversion leaves alone

A conversion changes the store by single edits, each of which makes a new token or changes the
children of one token in one of five ways; the labels and the comments of the tokens that were there
at the start never change (`transform_moments`). This is so after every edit of every visit, whether
the visit goes on or stops, and for any store at all: tokens may be shared and slots may be empty.
-/

namespace ClassLift

open Scan Store

namespace Conversion

variable {s₀ s : Store} {block : TokenId} {candidates : List Candidate} {x : Converter}
  {P : TokenId → Prop}

/-! ## The commits of a container -/

theorem commit_touches {c : Candidate} (h : c.Sited s block) (hsize : s₀.size ≤ s.size)
    (hP : c.CallsIn s₀ s P) (x : Converter) :
    s₀.Touches (Candidate.Scope s block c.parent P) s ((commit c).run.run (s, x)).2.1 := by
  have hcommit := Candidate.commit_touching h hsize hP
  unfold commit
  split
  · rw [Edit.Touching] at hcommit
    rw [run_run_bind, Traversal.run_run_edit]
    rcases hrun : c.commit.run.run s with ⟨_ | _, s₁⟩ <;> rw [hrun] at hcommit
    · exact hcommit
    · dsimp only
      rw [run_run_bind_of_ok (Traversal.run_run_modifyOwn _ _ _), run_run_bind, Traversal.run_run_edit]
      cases hst : c.statement <;> exact hcommit
  · exact .refl _ _ _

/-- The candidates are committed one after the other. Where two of them have the same parent, it is
the container, so that no commit touches the export of another one. -/
theorem commits_touches (hsited : ∀ c ∈ candidates, c.Sited s block)
    (hapart : candidates.Pairwise fun c c' => c.parent = c'.parent → c.parent = some block)
    (hsize : s₀.size ≤ s.size)
    (hP : ∀ c ∈ candidates, ∀ g, s₀.Touches (fun _ => True) s g → c.CallsIn s₀ g P) (x : Converter) :
    s₀.Touches (fun u => u = block ∨ (∃ c ∈ candidates, c.parent = some u) ∨ P u) s
      ((candidates.forM commit).run.run (s, x)).2.1 := by
  induction candidates generalizing s x with
  | nil => exact .refl _ _ _
  | cons c candidates ih =>
      obtain ⟨hfirst, hapart⟩ := List.pairwise_cons.mp hapart
      have hc := hsited c List.mem_cons_self
      have hcommit := commit_touches hc hsize (hP c List.mem_cons_self s (.refl _ _ _)) x
      have hmine : ∀ u, Candidate.Scope s block c.parent P u →
          u = block ∨ (∃ c' ∈ c :: candidates, c'.parent = some u) ∨ P u := by
        rintro u (he | he | he)
        · exact Or.inl he
        · exact Or.inr (Or.inl ⟨c, List.mem_cons_self, he.symm⟩)
        · exact Or.inr (Or.inr he.1)
      show s₀.Touches _ s ((commit c >>= fun _ => candidates.forM commit).run.run (s, x)).2.1
      rw [run_run_bind]
      rcases hrun : (commit c).run.run (s, x) with ⟨_ | _, s₁, x₁⟩ <;> rw [hrun] at hcommit
      · exact hcommit.mono hmine
      · have hothers := ih (fun c' hc' => ?_) hapart (Nat.le_trans hsize hcommit.size_le)
          (fun c' hc' g hg => hP c' (List.mem_cons_of_mem _ hc') g
            ((hcommit.mono fun _ _ => trivial).trans hg)) x₁
        · refine (hcommit.mono hmine).trans (hothers.mono fun u hu => hu.imp_right fun hu => ?_)
          exact hu.imp_left fun ⟨c', hc', he⟩ => ⟨c', List.mem_cons_of_mem _ hc', he⟩
        refine (hsited c' (List.mem_cons_of_mem _ hc')).later hcommit fun e he hexport => ?_
        refine Candidate.not_scope_of_export hc.container hexport fun hparent => ?_
        -- the container is no export
        have hblock := hfirst c' hc' (by rw [he, hparent])
        rw [← hparent, Option.some.injEq] at hblock
        subst hblock
        rw [hasKind_of_isContainer hc.container ⟨by decide, by decide⟩] at hexport
        cases hexport

/-- The names of functions in different exports are different. -/
theorem parents_apart {options : Options} {statements : List Slot}
    (h : Candidates s options (some block) statements candidates)
    (hb : s.isContainer (some block) = true) :
    candidates.Pairwise fun c c' => c.parent = c'.parent → c.parent = some block := by
  refine (List.pairwise_map.mp h.distinct).imp_of_mem fun {c c'} hc hc' hne hparent => ?_
  obtain ⟨d, d', he, rfl⟩ := h.emerge c hc
  obtain ⟨d₁, d₁', he₁, rfl⟩ := h.emerge c' hc'
  rcases (he.sited hb).place with ⟨hblock, -⟩ | ⟨e, rest, hexport, hkind, hfirst, hfunction⟩
  · exact hblock
  rcases (he₁.sited hb).place with ⟨hblock, -⟩ | ⟨e₁, rest₁, hexport₁, -, hfirst₁, hfunction₁⟩
  · rw [hparent]
    exact hblock
  -- both are the first child of one export
  rw [hexport, hexport₁, Option.some.injEq] at hparent
  subst hparent
  rw [hfirst, List.cons.injEq] at hfirst₁
  have hname := he.firstName hfunction
  rw [hfirst₁.1, he₁.firstName hfunction₁, Except.ok.injEq] at hname
  exact absurd hname.symm hne

/-! ## Visits and conversions -/

/-- What the visit of a container edits, whatever the store and however it ends: the container, the
exports in it, and what is found to be a super call. -/
theorem visit_edits (hb : s.isContainer (some block) = true) (hsize : s₀.size ≤ s.size)
    (hP : ∀ d d', Emerges s x.options (some block) (s.cell block).children d d' →
      ∀ g, s₀.Touches (fun _ => True) s g → d'.finish.CallsIn s₀ g P) (parent : Slot) :
    s₀.Touches (fun u => u = block ∨
        (some u ∈ (s.cell block).children ∧ s.hasKind Kind.exportDecl (some u) = true) ∨ P u) s
      ((visit (some block) parent).run.run (s, x)).2.1 := by
  rw [visit_of_container hb]
  rcases detect_gives s x.options (some block) with ⟨candidates, gives, h⟩ | ⟨fault, gives, -⟩
  · rw [gives []]
    have hsited : ∀ c ∈ candidates, c.Sited s block := by
      intro c hmem
      obtain ⟨d, d', he, rfl⟩ := h.emerge c hmem
      exact he.sited hb
    have hcalls : ∀ c ∈ candidates, ∀ g, s₀.Touches (fun _ => True) s g → c.CallsIn s₀ g P := by
      intro c hmem
      obtain ⟨d, d', he, rfl⟩ := h.emerge c hmem
      exact hP d d' he
    refine (commits_touches hsited (parents_apart h hb) hsize hcalls _).mono ?_
    -- a candidate takes its parent from the place of its declaration: the container or an export
    rintro u (hu | ⟨c, hmem, hparent⟩ | hu)
    · exact Or.inl hu
    · obtain ⟨d, d', he, rfl⟩ := h.emerge c hmem
      obtain ⟨before, declaring, after, c, hstatements, hc, hd, -⟩ := he.declared
      rw [he.finish_eq, show d.candidate = c by rw [hd]] at hparent
      rcases (place_of_declaration hc).2 with ⟨hblock, -⟩ | ⟨hdeclaring, hkind, -⟩
      · rw [hblock, Option.some.injEq] at hparent
        exact Or.inl hparent.symm
      · rw [hdeclaring] at hparent
        rw [hparent] at hstatements hkind
        refine Or.inr (Or.inl ⟨?_, hkind⟩)
        rw [show (s.cell block).children = _ from hstatements]
        simp
    · exact Or.inr (Or.inr hu)
  · rw [gives []]
    exact .refl _ _ _

/-- A visit edits single tokens, whatever the store and however it ends. -/
theorem visit_touches (slot parent : Slot) (a : Store × Converter) (hsize : s₀.size ≤ a.1.size) :
    s₀.Touches (fun _ => True) a.1 ((visit slot parent).run.run a).2.1 := by
  obtain ⟨s, x⟩ := a
  cases slot with
  | none =>
      rw [visit_none]
      exact .refl _ _ _
  | some t =>
      cases hc : s.isContainer (some t) with
      | false =>
          rw [visit_of_not_container hc]
          exact .refl _ _ _
      | true =>
          have hedits := visit_edits (x := x) (P := fun _ => True) hc hsize
            (fun _ _ _ _ _ _ _ _ _ _ _ _ => ⟨trivial, trivial⟩) parent
          exact hedits.mono fun _ _ => trivial

/-- At every moment of a conversion, however it goes on, the tokens that there were before have their
labels and their comments, and their children have changed only in the five ways: after any rounds
of the loop, where it ends, and where the bounded scan ends. In between there are only single edits,
after each of which the same is true. -/
theorem transform_moments (root : Slot) (s : Store) (x : Converter) :
    (∀ visited b left,
      Rounds visit (s, { x with classes := [] }) [(root, none)] visited b left → s.Moment b.1) ∧
      (∀ visited result b left,
        Ends visit (s, { x with classes := [] }) [(root, none)] visited result b left →
          s.Moment b.1) ∧
      s.Moment ((transform root).run.run (s, x)).2.1 := by
  -- every visit is more edits of the same kind
  have hvisit : Kept visit fun a => s.Touches (fun _ => True) s a.1 := by
    intro slot parent a result b hrun ha
    have hmore := visit_touches slot parent a ha.size_le
    rw [hrun] at hmore
    exact ha.trans hmore
  have hstart : s.Touches (fun _ => True) s s := .refl _ _ _
  refine ⟨fun visited b left h => ?_, fun visited result b left h => ?_, ?_⟩
  · exact (h.keeps hvisit hstart).moment
  · exact (h.keeps hvisit hstart).moment
  · rw [transform_eq root s x _ rfl]
    exact Touches.moment (below_keeps hvisit (depthBound s) root none hstart)

end Conversion

end ClassLift
