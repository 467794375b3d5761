import ClassLift.Proofs.Class.Touch
import ClassLift.Proofs.Token.Graft
import ClassLift.Proofs.Token.Whole

set_option autoImplicit false

/-! # Statements that are taken out

A statement can be replaced only once: it stood in its parent at one place, and what comes later takes
statements out or puts new ones in. `Store.Rearranges` says of two stores that no more happened than
that; then a statement that is gone stays gone (`Rearranges.not_mem`) and is not found any more
(`Edit.replaceStatement_notFound`).
-/

namespace ClassLift

open List

variable {s s' s'' : Store} {held : TokenId → Prop} {gains gains' : TokenId → Slot → Prop}
  {t u p : TokenId} {parent node : Slot} {new roots : List Slot} {ids : List TokenId} {n : Nat}

/-- Only the children of the tokens in `held` are different in the later store: some of them went, and a
token may have got those that it `gains`, but not where there were none. -/
structure Store.Rearranges (s s' : Store) (held : TokenId → Prop) (gains : TokenId → Slot → Prop) :
    Prop where
  size : s'.size = s.size
  label : ∀ u, (s'.cell u).label = (s.cell u).label
  comments : ∀ u, (s'.cell u).comments = (s.cell u).comments
  others : ∀ u, ¬ held u → s'.cell u = s.cell u
  kept : ∀ u, ∀ slot ∈ (s'.cell u).children, slot ∈ (s.cell u).children ∨ gains u slot
  bare : ∀ u, (s.cell u).children = [] → (s'.cell u).children = []

namespace Store.Rearranges

theorem refl (s : Store) (held : TokenId → Prop) (gains : TokenId → Slot → Prop) :
    s.Rearranges s held gains where
  size := rfl
  label _ := rfl
  comments _ := rfl
  others _ _ := rfl
  kept _ _ h := Or.inl h
  bare _ h := h

theorem mono {held' : TokenId → Prop} (h : s.Rearranges s' held gains)
    (hheld : ∀ u, held u → held' u) (hgains : ∀ u slot, gains u slot → gains' u slot) :
    s.Rearranges s' held' gains' where
  size := h.size
  label := h.label
  comments := h.comments
  others u hu := h.others u fun hu' => hu (hheld u hu')
  kept u slot hslot := (h.kept u slot hslot).imp_right (hgains u slot)
  bare := h.bare

theorem trans (h : s.Rearranges s' held gains) (h' : s'.Rearranges s'' held gains) :
    s.Rearranges s'' held gains where
  size := h'.size.trans h.size
  label u := (h'.label u).trans (h.label u)
  comments u := (h'.comments u).trans (h.comments u)
  others u hu := (h'.others u hu).trans (h.others u hu)
  kept u slot hslot := (h'.kept u slot hslot).elim (h.kept u slot) Or.inr
  bare u hu := h'.bare u (h.bare u hu)

/-- A slot that a token does not have does not come back. -/
theorem not_mem (h : s.Rearranges s' held gains) {slot : Slot} (hnot : slot ∉ (s.cell u).children)
    (hgains : ¬ gains u slot) : slot ∉ (s'.cell u).children := fun hmem =>
  (h.kept u slot hmem).elim hnot hgains

end Store.Rearranges

/-! ## Replacing a statement -/

/-- In an unshared tree, a slot that is not empty is among the links of a token at one place. -/
theorem Spans.link_once (h : Spans Cell.links s roots ids) (hn : ids.Nodup) (hp : p ∈ ids)
    {before after : List Slot} (hchildren : (s.cell p).children = before ++ some t :: after) :
    some t ∉ before ∧ some t ∉ after := by
  have hall := (List.nodup_append.mp (h.perm_links.nodup_iff.mp hn)).2.1
  have hlinks := (List.nodup_flatMap.mp hall).1 p hp
  rw [Cell.links, hchildren, List.reduceOption_append, List.reduceOption_append,
    List.reduceOption_cons_of_some] at hlinks
  obtain ⟨-, hn, hdisjoint⟩ := List.nodup_append.mp (List.nodup_append.mp hlinks).1
  refine ⟨fun hmem => ?_, fun hmem => ?_⟩
  · exact hdisjoint t (List.reduceOption_mem_iff.mpr hmem) t List.mem_cons_self rfl
  · exact (List.nodup_cons.mp hn).1 (List.reduceOption_mem_iff.mpr hmem)

namespace Edit

theorem replaceStatement_rearranges
    (h : (replaceStatement parent node new).run.run s = (.ok (), s')) :
    s.Rearranges s' (fun u => some u = parent) (fun u slot => some u = parent ∧ slot ∈ new) := by
  obtain ⟨p, children, rfl, hchildren, rfl⟩ := replaceStatement_eq_ok h
  obtain ⟨before, after, hbefore, -, rfl⟩ := Candidate.replaceFirst_eq_some hchildren
  have hcell : ∀ u, u ≠ p → (s.set p { s.cell p with children := before ++ new ++ after }).cell u =
      s.cell u := fun u hu => Store.cell_set_ne _ _ _ _ hu
  have hp : p < s.size := by
    by_contra hle
    -- beyond the tokens there are no children
    rw [s.cell_of_size_le p (Nat.le_of_not_lt hle)] at hbefore
    cases before <;> cases hbefore
  refine ⟨Store.size_set _ _ _, fun u => ?_, fun u => ?_, fun u hu => ?_, fun u slot hslot => ?_,
    fun u hnone => ?_⟩
  · by_cases hu : u = p
    · rw [hu, Store.cell_set_eq _ _ _ hp]
    · rw [hcell u hu]
  · by_cases hu : u = p
    · rw [hu, Store.cell_set_eq _ _ _ hp]
    · rw [hcell u hu]
  · exact hcell u fun he => hu (congrArg some he)
  · by_cases hu : u = p
    · rw [hu, Store.cell_set_eq _ _ _ hp] at hslot
      rw [hu, hbefore]
      simp only [List.mem_append, List.mem_cons] at hslot ⊢
      tauto
    · rw [hcell u hu] at hslot
      exact Or.inl hslot
  · by_cases hu : u = p
    · rw [hu, hbefore] at hnone
      exact absurd hnone (by simp)
    · rwa [hcell u hu]

/-- Edits that each rearrange the same tokens, one after the other. -/
theorem forM_rearranges {α : Type} {e : α → Edit Unit} {xs : List α}
    (he : ∀ x ∈ xs, ∀ s s', (e x).run.run s = (.ok (), s') → s.Rearranges s' held gains)
    (h : (xs.forM e).run.run s = (.ok (), s')) : s.Rearranges s' held gains := by
  induction xs generalizing s with
  | nil =>
      cases h
      exact .refl _ held gains
  | cons x xs ih =>
      have h : (e x >>= fun _ => xs.forM e).run.run s = (.ok (), s') := h
      obtain ⟨⟨⟩, s₁, hfirst, hrest⟩ := run_run_bind_eq_ok.mp h
      exact (he x List.mem_cons_self s s₁ hfirst).trans
        (ih (fun y hy => he y (List.mem_cons_of_mem _ hy)) hrest)

end Edit

/-! ## Trees that were seen whole -/

theorem Tree.allWholeWithComments_iff {trees : List Tree} :
    Tree.allWholeWithComments trees = true ↔ ∀ t ∈ trees, t.wholeWithComments = true := by
  induction trees with
  | nil => simp [Tree.allWholeWithComments]
  | cons t trees ih =>
      rw [Tree.allWholeWithComments, Bool.and_eq_true, ih, List.forall_mem_cons]

/-- A token whose tree was seen whole is whole as long as the tokens below it get no more links. -/
theorem Store.whole_of_fullTree {P : TokenId → Prop}
    (hclosed : ∀ u, P u → ∀ v, some v ∈ (s.cell u).links → P v)
    (hlinks : ∀ u, P u → u < s'.size ∧ ∀ slot ∈ (s'.cell u).links, slot ∈ (s.cell u).links) (ht : P t)
    (h : (s.fullTreeTo n (some t)).wholeWithComments = true) : s'.Whole n t := by
  induction n generalizing t with
  | zero => cases h
  | succ n ih =>
      rw [fullTreeTo, Tree.wholeWithComments, Bool.and_eq_true, Tree.allWholeWithComments_iff,
        Tree.allWholeWithComments_iff, List.forall_mem_map, List.forall_mem_map] at h
      have hbelow : ∀ slot ∈ (s.cell t).links, (s.fullTreeTo n slot).wholeWithComments = true :=
        fun slot hslot => (List.mem_append.mp hslot).elim (h.1 slot) (h.2 slot)
      obtain ⟨hlt, hsub⟩ := hlinks t ht
      refine .token hlt (fun hnone => ?_) fun v hv => ?_
      · have hgap := hbelow none (hsub none hnone)
        cases n <;> cases hgap
      · exact ih (hclosed t ht v (hsub _ hv)) (hbelow (some v) (hsub _ hv))

end ClassLift
