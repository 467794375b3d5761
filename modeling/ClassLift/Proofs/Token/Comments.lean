import ClassLift.Proofs.Token.Clone

set_option autoImplicit false

/-! # Comments that are copied

Copies of the comments of some tokens are trees of new tokens, in the order of the comments, and each
holds the tree of its comment (`Edit.copyComments_carries`). `Store.CarriesOver` says so of two stores,
also when the copies were made somewhere on the way from the one to the other: later edits may change
all but the copies (`Store.CarriesOver.later`), earlier ones all but the comments
(`Store.CarriesOver.earlier`).
-/

namespace ClassLift

open List

variable {s s' s'' : Store} {kept edited : TokenId → Prop} {nodes slots copies : List Slot}
  {slot : Slot} {t : TokenId}

namespace Store

/-- The comments of the token in a slot; an empty slot has none. -/
def comments (s : Store) (slot : Slot) : List Slot :=
  match slot with
  | none => []
  | some t => (s.cell t).comments

/-- In the later store, the slots `copies` hold the comments of the tokens `nodes`, in order, as trees
of new tokens none of which stands at two places. -/
structure CarriesOver (s : Store) (nodes : List Slot) (s' : Store) (copies : List Slot) : Prop where
  /-- Nothing is missing in the comments. -/
  whole : ∀ k ∈ nodes.flatMap s.comments, (s.fullTree k).wholeWithComments = true
  held : Tree.AllHeldAt s' ((nodes.flatMap s.comments).map s.fullTree) copies
  new : ∃ ids, Spans Cell.links s' copies ids ∧ ids <+~ s.fresh s'

/-! ## Comments that can be copied -/

/-- Comments that can be copied are complete, and what is found from them is kept. -/
theorem Copyable.complete (h : s.Copyable kept t) :
    ∀ k ∈ (s.cell t).comments, Stands (fun u => s.Complete u ∧ ∀ v, s.Leads u v → kept v) k := by
  obtain ⟨hpresent, ids, hspans, -, hall⟩ := h
  intro k hk
  obtain ⟨u, rfl⟩ : ∃ u, k = some u := Option.ne_none_iff_exists'.mp fun he => hpresent (he ▸ hk)
  have hu : u ∈ ids := hspans.root_mem hk
  have hwhole := hspans.whole (fun v hv => (hall v hv).1) u hu
  refine ⟨u, rfl, hwhole.complete, fun v hv => ?_⟩
  obtain ⟨below, hbelow, hpart⟩ := hspans.below_mem hu
  exact (hall v (hpart.subset (hbelow.mem_of_linked hv))).2

theorem CanCopy.complete (h : s.CanCopy kept nodes) :
    ∀ k ∈ nodes.flatMap s.comments,
      Stands (fun u => s.Complete u ∧ ∀ v, s.Leads u v → kept v) k := by
  intro k hk
  obtain ⟨node, hnode, hk⟩ := List.mem_flatMap.mp hk
  obtain ⟨t, rfl, -, hcopy⟩ := h node hnode
  exact hcopy.complete k hk

/-- Edits leave comments that are kept as they are. -/
theorem CanCopy.same (h : s.CanCopy kept nodes) (hf : Frame s s' edited)
    (hkept : ∀ u, kept u → ¬ edited u) :
    nodes.flatMap s'.comments = nodes.flatMap s.comments ∧
      ∀ k ∈ nodes.flatMap s.comments, s'.fullTree k = s.fullTree k := by
  constructor
  · refine List.flatMap_congr fun node hnode => ?_
    obtain ⟨t, rfl, ht, -⟩ := h node hnode
    exact hf.comments t ht
  · intro k hk
    obtain ⟨u, rfl, hcomplete, hleads⟩ := h.complete k hk
    refine hcomplete.fullTree_eq hf.size_le fun v hv => ?_
    exact hf.cell (hcomplete.stored v hv) (hkept v (hleads v hv))

/-! ## Before and after -/

/-- The copies stay what they are as long as the new tokens are not edited. -/
theorem CarriesOver.later (h : s.CarriesOver nodes s' copies) (hsize : s'.size ≤ s''.size)
    (hcell : ∀ u ∈ s.fresh s', s''.cell u = s'.cell u) : s.CarriesOver nodes s'' copies := by
  obtain ⟨ids, hids, hsub⟩ := h.new
  have hsame : ∀ u ∈ ids, s''.cell u = s'.cell u := fun u hu => hcell u (hsub.subset hu)
  have hkeeps : s'.Preserves s'' (· ∈ ids) :=
    ⟨hsize, fun _ hu _ hv => hids.link_mem hu hv, fun u _ hu => hsame u hu⟩
  refine ⟨h.whole, h.held.later hkeeps fun u hu => hids.root_mem hu, ids, ?_, ?_⟩
  · exact hids.frame hsize fun u hu => by rw [hsame u hu]
  · refine hsub.trans (List.subperm_of_subset List.nodup_range' fun u hu => ?_)
    exact mem_fresh_of_le hsize hu

/-- What was copied from a later store was there in an earlier one, if it was not edited. -/
theorem CarriesOver.earlier (h : s'.CarriesOver nodes s'' copies) (hcopy : s.CanCopy kept nodes)
    (hf : Frame s s' edited) (hkept : ∀ u, kept u → ¬ edited u) : s.CarriesOver nodes s'' copies := by
  obtain ⟨hwhole, hheld, ids, hids, hsub⟩ := h
  obtain ⟨hcomments, htrees⟩ := hcopy.same hf hkept
  rw [hcomments] at hwhole hheld
  rw [List.map_congr_left htrees] at hheld
  refine ⟨fun k hk => htrees k hk ▸ hwhole k hk, hheld, ids, hids, ?_⟩
  exact hsub.trans (List.subperm_of_subset List.nodup_range' fun u hu => hf.mem_fresh_right hu)

theorem CarriesOver.eq_nil (h : s.CarriesOver [] s' copies) : copies = [] := by
  cases h.held
  rfl

/-- Where several lists of comments are carried over, the comments of all of them are, if no token of
the copies stands at two places. -/
theorem CarriesOver.flatten {groups : List (List Slot)} {made : List (List Slot)}
    (h : Forall₂ (fun nodes copies => s.CarriesOver nodes s' copies) groups made)
    (hnew : ∃ ids, Spans Cell.links s' made.flatten ids ∧ ids <+~ s.fresh s') :
    s.CarriesOver groups.flatten s' made.flatten := by
  refine ⟨fun k hk => ?_, ?_, hnew⟩
  · obtain ⟨node, hnode, hk⟩ := List.mem_flatMap.mp hk
    obtain ⟨nodes, hnodes, hnode⟩ := List.mem_flatten.mp hnode
    obtain ⟨i, hi, rfl⟩ := List.getElem_of_mem hnodes
    exact (h.get hi (h.length_eq ▸ hi)).whole k (List.mem_flatMap.mpr ⟨node, hnode, hk⟩)
  · clear hnew
    induction h with
    | nil => exact .nil
    | cons hfirst _ ih =>
        rw [List.flatten_cons, List.flatten_cons, List.flatMap_append, List.map_append]
        exact hfirst.held.append ih

/-- Copies show what the comments show. -/
theorem CarriesOver.contents (h : s.CarriesOver nodes s' copies) :
    Forall₂ (fun k c => (s'.fullTree c).content = (s.fullTree k).content)
      (nodes.flatMap s.comments) copies := by
  obtain ⟨hwhole, hheld, -⟩ := h
  generalize nodes.flatMap s.comments = ks at hwhole hheld
  induction ks generalizing copies with
  | nil =>
      cases hheld
      exact .nil
  | cons k ks ih =>
      obtain ⟨hk, hks⟩ := List.forall_mem_cons.mp hwhole
      cases hheld with
      | cons first rest =>
          refine .cons ?_ (ih hks rest)
          obtain ⟨n, u, rfl, hu⟩ := first.whole hk
          exact first.content_eq hu.complete.whole

end Store

/-! ## Copying -/

namespace Edit

theorem mapM_clone_held
    (h : (slots.mapM fun comment => some <$> clone comment : Edit (List Slot)).run.run s =
      (.ok copies, s')) (hcomplete : ∀ slot ∈ slots, Stands s.Complete slot) :
    (∀ k ∈ slots, (s.fullTree k).wholeWithComments = true) ∧
      Tree.AllHeldAt s' (slots.map s.fullTree) copies := by
  induction slots generalizing s copies with
  | nil =>
      cases h
      exact ⟨by simp, .nil⟩
  | cons slot slots ih =>
      obtain ⟨t, s₁, others, hclone, hothers, rfl⟩ := mapM_clone_cons_eq_ok h
      obtain ⟨-, hrest⟩ := List.forall_mem_cons.mp hcomplete
      obtain ⟨hframe, -⟩ := clone_eq_ok hclone
      obtain ⟨hframe', -⟩ := mapM_clone_eq_ok hothers
      obtain ⟨hwhole, hheld⟩ := clone_heldAt hclone
      -- the other comments are as they were when the first one was copied
      have hrest₁ : ∀ k ∈ slots, Stands s₁.Complete k := fun k hk =>
        (hrest k hk).imp fun u hu => (hu.whole.frame hframe).complete
      have htrees : ∀ k ∈ slots, s₁.fullTree k = s.fullTree k := by
        intro k hk
        obtain ⟨u, rfl, hu⟩ := hrest k hk
        exact hu.fullTree_eq hframe.size_le fun v hv => hframe.cell (hu.stored v hv) fun h => h
      obtain ⟨hwhole', hheld'⟩ := ih hothers hrest₁
      rw [List.map_congr_left htrees] at hheld'
      refine ⟨List.forall_mem_cons.mpr ⟨hwhole, fun k hk => ?_⟩, ?_⟩
      · rw [← htrees k hk]
        exact hwhole' k hk
      · exact .cons (hheld.frame hframe') hheld'

theorem copyComments_held (h : (copyComments slots).run.run s = (.ok copies, s'))
    (hcopy : s.CanCopy kept slots) :
    (∀ k ∈ slots.flatMap s.comments, (s.fullTree k).wholeWithComments = true) ∧
      Tree.AllHeldAt s' ((slots.flatMap s.comments).map s.fullTree) copies := by
  induction slots generalizing s copies with
  | nil =>
      cases h
      exact ⟨by simp, .nil⟩
  | cons slot slots ih =>
      obtain ⟨hfirst, hrest⟩ := List.forall_mem_cons.mp hcopy
      obtain ⟨t, s₁, first, others, rfl, hclones, hothers, rfl⟩ := copyComments_cons_eq_ok h
      obtain ⟨_, he, -, hown⟩ := hfirst
      cases he
      obtain ⟨hframe, -⟩ := mapM_clone_eq_ok hclones
      obtain ⟨hframe', -⟩ := copyComments_eq_ok hothers
      have hrest : s.CanCopy kept slots := hrest
      -- the copies made so far are new tokens, so the comments still to be copied are as before
      obtain ⟨hcomments, htrees⟩ := hrest.same hframe fun _ _ h => h
      obtain ⟨hwhole, hheld⟩ :=
        mapM_clone_held hclones fun k hk => (hown.complete k hk).imp fun u hu => hu.1
      obtain ⟨hwhole', hheld'⟩ := ih hothers (hrest.frame hframe fun _ _ h => h)
      rw [hcomments] at hwhole' hheld'
      rw [List.map_congr_left htrees] at hheld'
      have hall : (some t :: slots).flatMap s.comments =
          (s.cell t).comments ++ slots.flatMap s.comments := List.flatMap_cons
      rw [hall, List.map_append]
      refine ⟨fun k hk => ?_, (hheld.frame hframe').append hheld'⟩
      rcases List.mem_append.mp hk with hk | hk
      · exact hwhole k hk
      · rw [← htrees k hk]
        exact hwhole' k hk

/-- Comments that can be copied are carried over. -/
theorem copyComments_carries (h : (copyComments slots).run.run s = (.ok copies, s'))
    (hcopy : s.CanCopy kept slots) : s.CarriesOver slots s' copies := by
  obtain ⟨hwhole, hheld⟩ := copyComments_held h hcopy
  exact ⟨hwhole, hheld, copyComments_spans h⟩

end Edit

end ClassLift
