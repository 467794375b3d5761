import ClassLift.Proofs.Token.Offspring
import ClassLift.Proofs.Token.Unfolding

set_option autoImplicit false

/-! # Copies

A copy of a complete token is a tree of its own: it looks like the tree that was copied, all its tokens
are new, and one way only leads to each of them, also where tokens were shared before
(`Edit.clone_unshared`). So changes of the one do not show in the other.

What a copy looks like is told by `Tree.HeldAt`: a tree is built of new tokens from below, and it is
held by the slot of the last one (`Edit.build_heldAt`).
-/

namespace ClassLift

open List

/-- The given tokens, to which belongs all that is linked to them, are in the later store as they
were. -/
structure Store.Preserves (s s' : Store) (P : TokenId → Prop) : Prop where
  size_le : s.size ≤ s'.size
  closed : ∀ u, P u → ∀ v, some v ∈ (s.cell u).links → P v
  same : ∀ u < s.size, P u → s'.cell u = s.cell u

/-- Where only new tokens were made, all others are as they were. -/
theorem Frame.preserves {s s' : Store} (h : Frame s s' fun _ => False) :
    s.Preserves s' fun _ => True where
  size_le := h.size_le
  closed _ _ _ _ := trivial
  same _ hu _ := h.cell hu fun h => h

/-- What a tree shows, apart from the identities of its tokens. -/
inductive Content where
  | absent
  | token (label : Label) (children comments : List Content)

namespace Tree

mutual

/-- The content of a tree. -/
def content : Tree → Content
  | absent => .absent
  | node _ l cs ks => .token l (contents cs) (contents ks)

/-- The contents of several trees. -/
def contents : List Tree → List Content
  | [] => []
  | t :: ts => content t :: contents ts

end

/-! ## Trees held by slots -/

mutual

/-- The slot holds a tree with the same content. -/
inductive HeldAt (s : Store) : Tree → Slot → Prop where
  | absent : HeldAt s .absent none
  | node {id t : TokenId} {cs ks : List Tree} (lt : t < s.size)
      (children : AllHeldAt s cs (s.cell t).children)
      (comments : AllHeldAt s ks (s.cell t).comments) :
      HeldAt s (.node id (s.cell t).label cs ks) (some t)

/-- The slots hold trees with the same contents, one each. -/
inductive AllHeldAt (s : Store) : List Tree → List Slot → Prop where
  | nil : AllHeldAt s [] []
  | cons {tree : Tree} {trees : List Tree} {slot : Slot} {slots : List Slot}
      (first : HeldAt s tree slot) (rest : AllHeldAt s trees slots) :
      AllHeldAt s (tree :: trees) (slot :: slots)

end

variable {s s' : Store} {tree : Tree} {trees : List Tree} {slot : Slot} {slots : List Slot}
  {t : TokenId} {n : Nat}

mutual

/-- A tree is held as long as the tokens that are found from the slot are as they were. -/
theorem HeldAt.later {P : TokenId → Prop} (hk : s.Preserves s' P) : ∀ {tree : Tree} {slot : Slot},
    HeldAt s tree slot → (∀ t, slot = some t → P t) → HeldAt s' tree slot
  | _, _, .absent, _ => .absent
  | _, _, @HeldAt.node _ id t cs ks lt children comments, hP => by
      have ht := hP t rfl
      have hcell := hk.same t lt ht
      have hcs := children.later hk fun u hu => hk.closed t ht u (List.mem_append_left _ hu)
      have hks := comments.later hk fun u hu => hk.closed t ht u (List.mem_append_right _ hu)
      rw [← hcell] at hcs hks ⊢
      exact .node (Nat.lt_of_lt_of_le lt hk.size_le) hcs hks

theorem AllHeldAt.later {P : TokenId → Prop} (hk : s.Preserves s' P) :
    ∀ {trees : List Tree} {slots : List Slot}, AllHeldAt s trees slots →
      (∀ t, some t ∈ slots → P t) → AllHeldAt s' trees slots
  | _, _, .nil, _ => .nil
  | _, _, .cons first rest, hP => by
      refine .cons (first.later hk fun t ht => hP t ?_) (rest.later hk fun t ht => hP t ?_)
      · rw [ht]
        exact List.mem_cons_self
      · exact List.mem_cons_of_mem _ ht

end

theorem HeldAt.frame (hf : Frame s s' fun _ => False) (h : HeldAt s tree slot) : HeldAt s' tree slot :=
  h.later hf.preserves fun _ _ => trivial

theorem AllHeldAt.frame (hf : Frame s s' fun _ => False) (h : AllHeldAt s trees slots) :
    AllHeldAt s' trees slots :=
  h.later hf.preserves fun _ _ => trivial

theorem AllHeldAt.append {trees' : List Tree} {slots' : List Slot} (h : AllHeldAt s trees slots)
    (h' : AllHeldAt s trees' slots') : AllHeldAt s (trees ++ trees') (slots ++ slots') := by
  induction trees generalizing slots with
  | nil =>
      cases h
      exact h'
  | cons tree trees ih =>
      cases h with
      | cons first rest => exact .cons first (ih rest)

mutual

/-- What holds a tree without absent parts is a whole token. -/
theorem HeldAt.whole : ∀ {tree : Tree} {slot : Slot}, HeldAt s tree slot →
    tree.wholeWithComments = true → ∃ n, Stands (s.Whole n) slot
  | _, _, .absent, hw => by cases hw
  | _, _, @HeldAt.node _ id t cs ks lt children comments, hw => by
      rw [wholeWithComments, Bool.and_eq_true] at hw
      obtain ⟨n, hcs⟩ := children.whole hw.1
      obtain ⟨m, hks⟩ := comments.whole hw.2
      have hall : ∀ slot ∈ (s.cell t).links, Stands (s.Whole (max n m)) slot := by
        intro slot hslot
        rcases List.mem_append.mp hslot with hslot | hslot
        · exact (hcs slot hslot).imp fun u hu => hu.mono (Nat.le_max_left n m)
        · exact (hks slot hslot).imp fun u hu => hu.mono (Nat.le_max_right n m)
      refine ⟨max n m + 1, t, rfl, .token lt (fun hnone => ?_) fun u hu => ?_⟩
      · obtain ⟨u, hu, -⟩ := hall none hnone
        cases hu
      · obtain ⟨v, hv, hwhole⟩ := hall (some u) hu
        rwa [Option.some.inj hv]

theorem AllHeldAt.whole : ∀ {trees : List Tree} {slots : List Slot}, AllHeldAt s trees slots →
    allWholeWithComments trees = true → ∃ n, ∀ slot ∈ slots, Stands (s.Whole n) slot
  | _, _, .nil, _ => ⟨0, by simp⟩
  | _, _, .cons first rest, hw => by
      rw [allWholeWithComments, Bool.and_eq_true] at hw
      obtain ⟨n, hfirst⟩ := first.whole hw.1
      obtain ⟨m, hrest⟩ := rest.whole hw.2
      refine ⟨max n m, List.forall_mem_cons.mpr ⟨?_, fun slot hslot => ?_⟩⟩
      · exact hfirst.imp fun u hu => hu.mono (Nat.le_max_left n m)
      · exact (hrest slot hslot).imp fun u hu => hu.mono (Nat.le_max_right n m)

end

mutual

/-- What is seen from a whole token is the tree that it holds. -/
theorem HeldAt.content_eq : ∀ {tree : Tree} {t : TokenId} {n : Nat}, HeldAt s tree (some t) →
    s.Whole n t → (s.fullTreeTo n (some t)).content = tree.content
  | _, _, 0, _, hw => by cases hw
  | _, _, n + 1, .node _ children comments, hw => by
      rw [Store.fullTreeTo, content, content,
        children.contents_eq fun slot hslot => hw.linked (List.mem_append_left _ hslot),
        comments.contents_eq fun slot hslot => hw.linked (List.mem_append_right _ hslot)]

theorem AllHeldAt.contents_eq : ∀ {trees : List Tree} {slots : List Slot} {n : Nat},
    AllHeldAt s trees slots → (∀ slot ∈ slots, Stands (s.Whole n) slot) →
      contents (slots.map (s.fullTreeTo n)) = contents trees
  | _, _, _, .nil, _ => rfl
  | _, _, _, .cons first rest, hw => by
      obtain ⟨⟨u, rfl, hu⟩, hrest⟩ := List.forall_mem_cons.mp hw
      rw [List.map_cons, contents, contents, first.content_eq hu, rest.contents_eq hrest]

end

end Tree

/-! ## Building a tree -/

variable {s s' : Store} {slot : Slot} {t r : TokenId}

namespace Edit

mutual

theorem build_heldAt (s : Store) (tree : Tree) :
    tree.HeldAt (s.build tree).2 (s.build tree).1 := by
  match tree with
  | .absent => exact .absent
  | .node id label cs ks =>
      have hcs := buildAll_heldAt s cs
      have hks := buildAll_heldAt (s.buildAll cs).2 ks
      have hframe := buildAll_frame (s.buildAll cs).2 ks
      set s₁ := (s.buildAll cs).2
      set s₂ := (s₁.buildAll ks).2
      set c : Cell := ⟨label, (s.buildAll cs).1, (s₁.buildAll ks).1⟩
      -- the token is made last, and nothing below it is changed by that
      have hpush : Frame s₂ (s₂.push c) fun _ => False := Frame.push s₂ c
      have hcell : (s₂.push c).cell s₂.size = c := Store.cell_push_eq s₂ c
      have hchildren : Tree.AllHeldAt (s₂.push c) cs ((s₂.push c).cell s₂.size).children := by
        rw [hcell]
        exact (hcs.frame hframe).frame hpush
      have hcomments : Tree.AllHeldAt (s₂.push c) ks ((s₂.push c).cell s₂.size).comments := by
        rw [hcell]
        exact hks.frame hpush
      have hnode : (Tree.node id _ cs ks).HeldAt (s₂.push c) (some s₂.size) :=
        .node (s₂.size_lt_push c) hchildren hcomments
      rwa [hcell] at hnode

theorem buildAll_heldAt (s : Store) (trees : List Tree) :
    Tree.AllHeldAt (s.buildAll trees).2 trees (s.buildAll trees).1 := by
  match trees with
  | [] => exact .nil
  | tree :: trees =>
      have hfirst := build_heldAt s tree
      have hrest := buildAll_heldAt (s.build tree).2 trees
      exact .cons (hfirst.frame (buildAll_frame _ trees)) hrest

end

/-- A copy holds the tree that was seen when it was made. -/
theorem clone_heldAt (h : (clone slot).run.run s = (.ok t, s')) :
    (s.fullTree slot).wholeWithComments = true ∧ (s.fullTree slot).HeldAt s' (some t) := by
  obtain ⟨hwhole, hbuild⟩ := clone_eq_build h
  have hheld := build_heldAt s (s.fullTree slot)
  rw [hbuild] at hheld
  exact ⟨hwhole, hheld⟩

end Edit

/-! ## Copies of complete tokens -/

/-- In a later store, the token `r` is a copy of the token `t`, and a tree of its own. -/
structure Store.UnsharedCopy (s : Store) (t : TokenId) (s' : Store) (r : TokenId) : Prop where
  /-- No token that was there is changed. -/
  unchanged : s.size ≤ s'.size ∧ ∀ u < s.size, s'.cell u = s.cell u
  /-- Every token of the copy is new. -/
  new : ∀ u, s'.Leads r u → u ∈ s.fresh s'
  /-- So none of them is one of the token that was copied. -/
  apart : ∀ u, s.Leads t u → ¬ s'.Leads r u
  /-- One way only leads to every token of the copy. -/
  unshared : ∀ u, s'.Leads r u → ∃! way, s'.follow r way = some u
  /-- Nothing is missing in the tree of the token that was copied. -/
  whole : (s.fullTree (some t)).wholeWithComments = true
  /-- Both trees show the same. -/
  same : (s'.fullTree (some r)).content = (s.fullTree (some t)).content
  /-- The tree of the copy stays as it is when only other tokens get other cells, such as those of
  the token that was copied. -/
  kept : ∀ edits : List Store.Change, (∀ e ∈ edits, e.Avoids (s'.Leads r)) →
    (s'.applyAll edits).fullTree (some r) = s'.fullTree (some r)
  /-- And so does the tree of the token that was copied, such as when tokens of the copy do. -/
  kept_original : ∀ edits : List Store.Change, (∀ e ∈ edits, e.Avoids (s.Leads t)) →
    (s'.applyAll edits).fullTree (some t) = s.fullTree (some t)

theorem Edit.clone_complete (h : (clone (some t)).run.run s = (.ok r, s')) : s'.Complete r := by
  obtain ⟨hwhole, hheld⟩ := clone_heldAt h
  obtain ⟨n, u, hu, hr⟩ := hheld.whole hwhole
  rw [Option.some.inj hu]
  exact hr.complete

/-- **A copy of a complete token shares nothing**, neither with what was there nor in itself. -/
theorem Edit.clone_unshared (h : s.Complete t) :
    ∃ r s', (clone (some t)).run.run s = (.ok r, s') ∧ s.UnsharedCopy t s' r := by
  obtain ⟨r, s', hrun⟩ := clone_of_whole h.whole
  obtain ⟨hframe, -⟩ := clone_eq_ok hrun
  obtain ⟨hwhole, hheld⟩ := clone_heldAt hrun
  obtain ⟨ids, hids, hfresh⟩ := clone_spans hrun
  have hcomplete := clone_complete hrun
  have hnodup : ids.Nodup := nodup_of_subperm hfresh List.nodup_range'
  have hcell : ∀ u < s.size, s'.cell u = s.cell u := fun u hu => hframe.cell hu fun h => h
  have hnew : ∀ u, s'.Leads r u → u ∈ s.fresh s' := fun u hu => hfresh.subset (hids.mem_of_linked hu)
  refine ⟨r, s', hrun, ?_⟩
  exact {
    unchanged := ⟨hframe.size_le, hcell⟩
    new := hnew
    apart := fun u hu hu' => by
      have hle := (Store.mem_fresh.mp (hnew u hu')).1
      exact absurd (h.stored u hu) (Nat.not_lt_of_le hle)
    unshared := fun u hu => by
      obtain ⟨way, hway⟩ := hu.exists_follow
      exact ⟨way, hway, fun way' hway' => hids.follow_unique hnodup hway' hway⟩
    whole := hwhole
    same := hheld.content_eq hcomplete.whole
    kept := fun edits he => hcomplete.fullTree_applyAll he
    kept_original := fun edits he => by
      obtain ⟨hsize, hkept⟩ := Store.applyAll_keeps (s := s') he
      refine h.fullTree_eq (Nat.le_trans hframe.size_le hsize) fun u hu => ?_
      have hlt := h.stored u hu
      calc (s'.applyAll edits).cell u
          = s'.cell u := hkept u (Nat.lt_of_lt_of_le hlt hframe.size_le) hu
        _ = s.cell u := hcell u hlt }

/-- Two words in one block that are one token, with a note that is also a note to the block. -/
def sharedNote : Store where
  cells := #[Cell.fresh "T_COMMENT" "note" 1 0 [],
    ⟨⟨Kind.keyword, "this", 2, 0, none⟩, [], [some 0]⟩,
    ⟨⟨Kind.block, "", 1, 0, none⟩, [some 1, some 1], [some 0]⟩]

theorem sharedNote_complete : sharedNote.Complete 2 := by
  have hnote : sharedNote.Whole 1 0 := .token (by decide) (by decide) fun u hu => by cases hu
  have hword : sharedNote.Whole 2 1 := by
    refine .token (by decide) (by decide) fun u hu => ?_
    obtain rfl : u = 0 := Option.some.inj (List.mem_singleton.mp hu)
    exact hnote
  refine Store.Whole.complete (n := 3) (.token (by decide) (by decide) fun u hu => ?_)
  have hlinks : ∀ slot ∈ (sharedNote.cell 2).links, slot = some 0 ∨ slot = some 1 := by decide
  rcases hlinks (some u) hu with he | he
  · rw [Option.some.inj he]
    exact hnote.mono (by decide)
  · rw [Option.some.inj he]
    exact hword

theorem clone_unshared_sharedNote :
    (sharedNote.follow 2 [0] = some 1 ∧ sharedNote.follow 2 [1] = some 1) ∧
      ∃ r s', (Edit.clone (some 2)).run.run sharedNote = (.ok r, s') ∧
        sharedNote.UnsharedCopy 2 s' r :=
  ⟨⟨rfl, rfl⟩, Edit.clone_unshared sharedNote_complete⟩

end ClassLift
