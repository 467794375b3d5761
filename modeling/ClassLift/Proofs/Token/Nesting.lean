import ClassLift.Proofs.Token.Graft
import ClassLift.Proofs.Token.Shape
import Mathlib.Algebra.Order.BigOperators.Group.List
import Mathlib.Algebra.Order.Group.Nat

set_option autoImplicit false

/-! # Trees inside trees

Two trees of an unshared forest have no token in common, or one of them stands in the other
(`Spans.reaches_total`). What stands below a token has fewer slots than the token, so that the two are
never alike (`Store.Acyclic.not_alike_below`).
-/

namespace ClassLift

open List

variable {s : Store} {x y : Slot} {t u p q : TokenId} {roots : List Slot} {ids : List TokenId}

/-! ## What is reached -/

namespace Store

theorem Reaches.trans (h : s.Reaches x t) (h' : s.Reaches (some t) u) : s.Reaches x u := by
  obtain ⟨root, rfl, hroot⟩ := h
  obtain ⟨_, ht, hu⟩ := h'
  cases ht
  exact ⟨root, rfl, hroot.trans hu⟩

/-- Below an acyclic slot all tokens are acyclic. -/
theorem Acyclic.below (h : s.Acyclic x) (ht : s.Reaches x t) : s.Acyclic (some t) where
  stored _ hu := h.stored _ (ht.trans hu)
  apart _ hu := h.apart _ (ht.trans hu)

end Store

namespace Spans

theorem reaches (h : Spans Cell.children s [x] ids) (hu : u ∈ ids) : s.Reaches x u := by
  refine h.forall_of_links (fun v hv => ?_) (fun t _ ht v hv => ht.child hv) u hu
  rw [← List.mem_singleton.mp hv]
  exact .refl s v

/-- Below every child of a token of a forest there is a tree, also without the comments. -/
theorem child_spans (h : Spans Cell.links s roots ids) (ht : t ∈ ids) (hx : x ∈ (s.cell t).children) :
    ∃ below, Spans Cell.children s [x] below ∧ ∀ u ∈ below, u ∈ ids := by
  cases x with
  | none => exact ⟨[], .absent .nil, fun u hu => absurd hu List.not_mem_nil⟩
  | some v =>
      obtain ⟨all, hall, hinfix⟩ := h.below_mem (h.link_mem ht (List.mem_append_left _ hx))
      obtain ⟨below, hbelow, hsub⟩ := hall.restrict Cell.children_sublist_links
      exact ⟨below, hbelow, fun u hu => hinfix.subset (hsub.subset hu)⟩

/-- Below every token of an unshared forest there is an unshared tree, also without the comments. -/
theorem children_at (h : Spans Cell.links s roots ids) (hn : ids.Nodup) (ht : t ∈ ids) :
    ∃ below, Spans Cell.children s [some t] (t :: below) ∧ (t :: below).Nodup ∧
      ∀ u ∈ t :: below, u ∈ ids := by
  obtain ⟨all, hall, hinfix⟩ := h.below_mem ht
  obtain ⟨own, hown, hsub⟩ := hall.restrict Cell.children_sublist_links
  obtain ⟨-, below, rfl, -⟩ := hown.of_singleton
  exact ⟨below, hown, (hn.sublist hinfix.sublist).sublist hsub, fun u hu =>
    hinfix.subset (hsub.subset hu)⟩

/-- Two tokens from which the same token is reached: one of them is reached from the other. -/
theorem reaches_total (h : Spans Cell.links s roots ids) (hn : ids.Nodup) (hp : p ∈ ids)
    (hq : q ∈ ids) (hpu : s.Reaches (some p) u) (hqu : s.Reaches (some q) u) :
    s.Reaches (some p) q ∨ s.Reaches (some q) p := by
  let Up : TokenId → TokenId → Prop := fun v w => s.Parent w v ∧ w ∈ ids
  have hlink : ∀ {v w : TokenId}, s.Parent w v → some v ∈ (s.cell w).links := fun hw =>
    List.mem_append_left _ hw
  have honly : Relator.RightUnique Up := fun v w w' hw hw' =>
    h.parent_unique hn hw.2 hw'.2 (hlink hw.1) (hlink hw'.1)
  -- every way down within the forest is a way up
  have hup : ∀ {v w : TokenId}, v ∈ ids → s.Reaches (some v) w →
      w ∈ ids ∧ Relation.ReflTransGen Up w v := by
    rintro v w hv ⟨root, he, hw⟩
    cases he
    induction hw with
    | refl => exact ⟨hv, .refl⟩
    | tail _ hchild ih => exact ⟨h.link_mem ih.1 (hlink hchild), .head ⟨hchild, ih.1⟩ ih.2⟩
  have hdown : ∀ {v w : TokenId}, Relation.ReflTransGen Up w v → s.Reaches (some v) w := by
    intro v w hw
    induction hw with
    | refl => exact .refl s _
    | tail _ hstep ih => exact ih.of_child hstep.1
  rcases Relation.ReflTransGen.total_of_right_unique honly (hup hp hpu).2 (hup hq hqu).2 with hpq | hqp
  · exact Or.inr (hdown hpq)
  · exact Or.inl (hdown hqp)

end Spans

/-! ## Fewer slots below -/

namespace Store.Acyclic

theorem slots_child (h : s.Acyclic (some t)) (hx : x ∈ (s.cell t).children) :
    (s.shape x).slots < (s.shape (some t)).slots := by
  rw [h.shape_eq, Shape.slots, Shape.slotsOf_eq_sum, List.map_map]
  have hle : (s.shape x).slots ≤ ((s.cell t).children.map (Shape.slots ∘ s.shape)).sum :=
    List.le_sum_of_mem (List.mem_map.mpr ⟨x, hx, rfl⟩)
  omega

/-- What stands below a token is not alike to it. -/
theorem not_alike_below (h : s.Acyclic (some t)) (hp : s.Reaches (some t) p)
    (hx : x ∈ (s.cell p).children) : s.alike x (some t) = false := by
  have hle : (s.shape (some p)).slots ≤ (s.shape (some t)).slots := by
    clear hx
    obtain ⟨root, he, hroot⟩ := hp
    cases he
    induction hroot with
    | refl => exact Nat.le_refl _
    | tail hway hchild ih =>
        exact Nat.le_trans (Nat.le_of_lt ((h.below ⟨t, rfl, hway⟩).slots_child hchild)) ih
  have hlt := (h.below hp).slots_child hx
  rw [Bool.eq_false_iff, Ne, ((h.below hp).child hx).alike_iff h]
  intro hsame
  rw [hsame] at hlt
  omega

end Store.Acyclic

end ClassLift
