import ClassLift.Proofs.Conversion.Reworked

set_option autoImplicit false

/-! # Visits in any order

In the course of some visits, in any order, a store is as it was at the start, except for what was made
of the containers that were visited (`Course`). Some of these, and some that were not visited yet, may
be gone from the tree by then, with the code that a class took the place of. What concerns a container
that was not visited yet is as it was (`Course.cell_of_concerns`), and what is still there of it shows
that the container itself is still there (`Course.mem_of_concerns`).
-/

namespace ClassLift

open List Store

/-- The token stands inside the container, as a name or as a part of a function. -/
def Store.Movable (s : Store) (b v : TokenId) : Prop :=
  s.Inside b v ∧ ((s.cell v).label.kind ∈ [Kind.text, Kind.member] ∨
    ∃ F, s.Inside b F ∧ (s.cell F).label.kind ∈ [Kind.functionDecl, Kind.anonymousFunction] ∧
      some v ∈ (s.cell F).children)

/-- The store `f` is what the visits of the containers `done` made of `s`, where `all` is the tree
now. -/
structure Course (s : Store) (options : Options) (root : TokenId) (ids : List TokenId) (f : Store)
    (all done : List TokenId) : Prop where
  tree : PlainTree s root ids
  visited : ∀ b ∈ done, b ∈ ids ∧ s.isContainer (some b) = true
  whole : Spans Cell.children f [some root] all
  nodup : all.Nodup
  touches : s.Touches (fun u => ∃ b ∈ done, s.Concerns b u) s f
  old : ∀ u ∈ all, u < s.size → u ∈ ids
  made : ∀ u ∈ all, s.size ≤ u → (f.cell u).label.kind ∈ Kind.made
  /-- What is below a new token now is new as well, or was moved there from a container that was
  visited. -/
  moved : ∀ p ∈ all, s.size ≤ p → ∀ v < s.size, some v ∈ (f.cell p).children →
    ∃ b ∈ done, s.Movable b v
  /-- A container that was visited is reworked, or nothing is left of it. -/
  reworked : ∀ b ∈ done, (∃ classes, Reworked s f options b classes) ∨ ∀ u, s.Concerns b u → u ∉ all

/-- A container of the tree that was not visited. -/
structure Unvisited (s : Store) (ids done : List TokenId) (b : TokenId) : Prop where
  mem : b ∈ ids
  isContainer : s.isContainer (some b) = true
  new : b ∉ done

variable {s f : Store} {options : Options} {root b q t u v a : TokenId} {ids all done : List TokenId}

theorem PlainTree.below (T : PlainTree s root ids) (hb : b ∈ ids) :
    ∃ below, Spans Cell.children s (s.cell b).children below ∧ (b :: below).Nodup := by
  obtain ⟨before, below, after, rfl, hfound⟩ := T.spans.split_mem hb
  refine ⟨below, hfound, T.nodup.sublist ?_⟩
  exact ((List.sublist_append_left below after).cons_cons b).trans (List.sublist_append_right before _)

namespace Course

theorem start (T : PlainTree s root ids) : Course s options root ids s ids [] where
  tree := T
  visited := by simp
  whole := T.spans
  nodup := T.nodup
  touches := .refl _ _ _
  old := fun _ hu _ => hu
  made := fun u hu hnew => absurd (T.spans.lt_size u hu) (Nat.not_lt_of_le hnew)
  moved := fun p hp hnew => absurd (T.spans.lt_size p hp) (Nat.not_lt_of_le hnew)
  reworked := by simp

variable (h : Course s options root ids f all done)

include h

/-! ## What was not edited -/

/-- What concerns no container that was visited is as it was. -/
theorem cell (hu : u ∈ ids) (hnot : ∀ b ∈ done, ¬ s.Concerns b u) : f.cell u = s.cell u := by
  refine h.touches.cell (h.tree.spans.lt_size u hu) ?_
  rintro ⟨b, hb, hconcerns⟩
  exact hnot b hb hconcerns

/-- Where a container was not visited, what concerns it is as it was. -/
theorem cell_of_concerns (hb : Unvisited s ids done b) (hu : s.Concerns b u) : f.cell u = s.cell u := by
  refine h.cell (hu.mem h.tree.spans hb.mem) fun b' hb' hu' => hb.new ?_
  obtain ⟨hmem, hcontainer'⟩ := h.visited b' hb'
  rwa [hu.unique hu' h.tree.spans h.tree.nodup hb.mem hmem hb.isContainer hcontainer']

/-- A container that was visited, and of which something is left, is reworked. -/
theorem reworked_of_mem (hb : b ∈ done) (hu : s.Concerns b u) (hmem : u ∈ all) :
    ∃ classes, Reworked s f options b classes :=
  (h.reworked b hb).resolve_right fun hgone => hgone u hu hmem

theorem lt_size (hu : u ∈ ids) : u < s.size := h.tree.spans.lt_size u hu

/-! ## What is still there -/

/-- What was above a token that is still there is still there, unless the token was moved. -/
theorem parent_mem (hv : v ∈ all) (hq : q ∈ ids) (hchild : some v ∈ (s.cell q).children) :
    q ∈ all ∨ ∃ b ∈ done, s.Inside b v ∧ ((s.cell v).label.kind ∈ [Kind.text, Kind.member] ∨
      (s.cell q).label.kind ∈ [Kind.functionDecl, Kind.anonymousFunction]) := by
  have hspans := h.tree.spans
  have hmem := hspans.link_mem hq hchild
  rcases h.whole.exists_parent hv with hroot | ⟨p, hp, hlink⟩
  · rw [List.mem_singleton] at hroot
    cases hroot
    exact absurd hchild (hspans.root_not_linked h.tree.nodup hq)
  by_cases hlt : p < s.size
  · -- an old token has no other old tokens below it than it had
    have hp' := h.old p hp hlt
    rcases h.touches.kept hlt hlink with hold | ⟨v', hv', hle, -⟩
    · rw [hspans.parent_unique h.tree.nodup hq hp' hchild hold]
      exact Or.inl hp
    · cases hv'
      exact absurd (h.lt_size hmem) (Nat.not_lt_of_le hle)
  · obtain ⟨b, hb, hinside, hkind | ⟨F, hF, hkind, hchild'⟩⟩ :=
      h.moved p hp (Nat.le_of_not_lt hlt) v (h.lt_size hmem) hlink
    · exact Or.inr ⟨b, hb, hinside, Or.inl hkind⟩
    · rw [← hspans.parent_unique h.tree.nodup hq (hspans.mem_of_inside (h.visited b hb).1 hF) hchild
        hchild'] at hkind
      exact Or.inr ⟨b, hb, hinside, Or.inr hkind⟩

/-- A container that was not visited is still there if something inside it is. -/
theorem mem_of_inside (hb : Unvisited s ids done b) (hinside : s.Inside b u) (hu : u ∈ all) :
    b ∈ all := by
  have hspans := h.tree.spans
  -- nothing was moved out of it
  have hnot : ∀ v, s.Inside b v → ∀ b' ∈ done, ¬ s.Inside b' v := by
    intro v hv b' hb' hv'
    obtain ⟨hmem, hcontainer'⟩ := h.visited b' hb'
    exact hb.new (hspans.inside_unique h.tree.nodup hb.mem hmem hb.isContainer hcontainer' hv hv' ▸ hb')
  refine hinside.induct (P := fun u => u ∈ all → b ∈ all) (fun u hchild hu => ?_)
    (fun p u hp ih hplain hchild hu => ih ?_) hu
  · exact (h.parent_mem hu hb.mem hchild).resolve_right fun ⟨b', hb', hu', _⟩ =>
      hnot u (.of_child hchild) b' hb' hu'
  · exact (h.parent_mem hu (hspans.mem_of_inside hb.mem hp) hchild).resolve_right
      fun ⟨b', hb', hu', _⟩ => hnot u (hp.down hplain hchild) b' hb' hu'

/-- The same holds for all that concerns it. -/
theorem mem_of_concerns (hb : Unvisited s ids done b) (hu : s.Concerns b u) (hmem : u ∈ all) :
    b ∈ all := by
  cases hu with
  | own he => exact he ▸ hmem
  | exported child => exact h.mem_of_inside hb (.of_child child) hmem
  | @called body inside container part =>
      have hbody := h.tree.spans.mem_of_inside hb.mem inside
      obtain ⟨t, ht, hcall, hpart⟩ := part
      have hcallKind := kind_of_hasKind hcall
      refine h.mem_of_inside hb inside ?_
      -- neither a call among the statements of a body nor its argument list is moved
      have hfromCall : t ∈ all → body ∈ all := fun htmem => by
        refine (h.parent_mem htmem hbody ht).resolve_right ?_
        rintro ⟨-, -, -, hkind | hkind⟩
        · rw [hcallKind] at hkind
          exact absurd hkind (by decide)
        · rcases isContainer_some.mp container with hk | hk <;> rw [hk] at hkind <;>
            exact absurd hkind (by decide)
      rcases hpart with rfl | ⟨hchild, harguments⟩
      · exact hfromCall hmem
      · have hargumentsKind := kind_of_hasKind harguments
        refine hfromCall ((h.parent_mem hmem (h.tree.spans.link_mem hbody ht) hchild).resolve_right ?_)
        rintro ⟨-, -, -, hkind | hkind⟩
        · rw [hargumentsKind] at hkind
          exact absurd hkind (by decide)
        · rw [hcallKind] at hkind
          exact absurd hkind (by decide)

/-- What stands inside a container that was not visited stood there at the start, or is a new word. -/
theorem inside_earlier (hb : Unvisited s ids done b) (hinside : f.Inside b u) :
    (u ∈ ids ∧ s.Inside b u) ∨ (s.size ≤ u ∧ f.IsWord u) := by
  have hspans := h.tree.spans
  refine hinside.induct (P := fun u => (u ∈ ids ∧ s.Inside b u) ∨ (s.size ≤ u ∧ f.IsWord u))
    (fun u hchild => ?_) fun p u _ ih hplain hchild => ?_
  · rw [h.cell_of_concerns hb (.own rfl)] at hchild
    exact Or.inl ⟨hspans.link_mem hb.mem hchild, .of_child hchild⟩
  -- a child of what stood inside from the start is old, a new word or a new class; a word has none
  · rcases ih with ⟨hp, hinside⟩ | ⟨-, -, hleaf⟩
    · have hplain : s.isContainer (some p) = false := by
        rwa [← h.touches.isContainer_earlier hspans hp]
      rcases h.touches.kept (h.lt_size hp) hchild with hold | ⟨u', hu', hle, -, hword | ⟨-, hholds⟩⟩
      · exact Or.inl ⟨hspans.link_mem hp hold, hinside.down hplain hold⟩
      · cases hu'
        exact Or.inr ⟨hle, hword⟩
      · -- no class was added: an export among the statements of another container is not inside this
        exfalso
        cases hu'
        have hexport : s.hasKind Kind.exportDecl (some p) = true := by
          rw [HoldsStatements, h.touches.label (h.lt_size hp)] at hholds
          have hnone := mt isContainer_some.mpr (Bool.eq_false_iff.mp hplain)
          simp only [List.mem_cons, List.not_mem_nil, or_false] at hholds
          rcases hholds with hk | hk | hk
          · exact (hnone (Or.inl hk)).elim
          · exact (hnone (Or.inr hk)).elim
          · exact hasKind_of_cell rfl hk
        have hcell : f.cell p = s.cell p := by
          refine h.cell hp fun b' hb' hp' => ?_
          obtain ⟨hmem, hcontainer'⟩ := h.visited b' hb'
          cases hp' with
          | own he =>
              subst he
              rw [hplain] at hcontainer'
              cases hcontainer'
          | exported child =>
              have he := hspans.container_of_child h.tree.nodup hb.mem hmem hcontainer' hinside child
              exact hb.new (he ▸ hb')
          | called _ _ part =>
              rcases part.kind with hk | hk <;> exact absurd (hasKind_unique hexport hk) (by decide)
        rw [hcell] at hchild
        exact absurd (h.lt_size (hspans.link_mem hp hchild)) (Nat.not_lt_of_le hle)
    · rw [hleaf] at hchild
      cases hchild

end Course

end ClassLift
