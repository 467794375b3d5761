import ClassLift.Proofs.Token.Frame
import Mathlib.Data.List.Nodup

set_option autoImplicit false

/-! # Several replacements

Statements of one parent give way to others, one after the other. Each replacement looks for its
statement by identity, in a list that the ones before it have changed. When the statements are
different ones, each stands in the parent once, and none of them is put in again
(`Replacement.Fit`), then every one is found at its turn, and the children become the list in which
each is substituted at its own place (`Replacement.Fit.forM_edit`). This list does not depend on the
order (`Replacement.edits_in_any_order`).
-/

namespace ClassLift

open List

/-- A statement that is to give way, and what comes in its place. -/
structure Replacement where
  node : TokenId
  new : List Slot

namespace Replacement

/-- The replacement is made among the children of `parent`. -/
def edit (parent : TokenId) (r : Replacement) : Edit Unit :=
  Edit.replaceStatement (some parent) (some r.node) r.new

/-- What stands in the place of a slot when the replacements are made: what comes for its token, or
the slot itself. -/
def substitute : List Replacement → Slot → List Slot
  | [], slot => [slot]
  | r :: rs, slot => if slot = some r.node then r.new else substitute rs slot

end Replacement

/-- The store in which the replacements are made among the children of `parent`, each at the place of
its statement. -/
def Store.replaced (s : Store) (parent : TokenId) (rs : List Replacement) : Store :=
  s.set parent
    { s.cell parent with children := (s.cell parent).children.flatMap (Replacement.substitute rs) }

namespace Replacement

variable {s : Store} {parent : TokenId} {rs order : List Replacement} {r : Replacement}
  {slot : Slot} {slots : List Slot}

/-! ## Substitution -/

theorem substitute_nil (slot : Slot) : substitute [] slot = [slot] := rfl

theorem substitute_cons (r : Replacement) (rs : List Replacement) (slot : Slot) :
    substitute (r :: rs) slot = if slot = some r.node then r.new else substitute rs slot := rfl

/-- A slot is that of a replaced statement, or it stays. -/
theorem substitute_cases (rs : List Replacement) (slot : Slot) :
    (∃ r ∈ rs, slot = some r.node ∧ substitute rs slot = r.new) ∨
      (∀ r ∈ rs, slot ≠ some r.node) ∧ substitute rs slot = [slot] := by
  induction rs with
  | nil => exact Or.inr ⟨fun r hr => absurd hr List.not_mem_nil, substitute_nil slot⟩
  | cons r rs ih =>
      by_cases hslot : slot = some r.node
      · exact Or.inl ⟨r, List.mem_cons_self, hslot, by rw [substitute_cons, if_pos hslot]⟩
      · have hrest : substitute (r :: rs) slot = substitute rs slot := by
          rw [substitute_cons, if_neg hslot]
        rcases ih with ⟨r', hr', hnode, hnew⟩ | ⟨hne, hsame⟩
        · exact Or.inl ⟨r', List.mem_cons_of_mem _ hr', hnode, hrest.trans hnew⟩
        · exact Or.inr ⟨List.forall_mem_cons.mpr ⟨hslot, hne⟩, hrest.trans hsame⟩

theorem substitute_of_forall_ne (h : ∀ r ∈ rs, slot ≠ some r.node) :
    substitute rs slot = [slot] := by
  rcases substitute_cases rs slot with ⟨r, hr, hslot, -⟩ | ⟨-, hsame⟩
  · exact absurd hslot (h r hr)
  · exact hsame

theorem substitute_node (hn : (rs.map node).Nodup) (hr : r ∈ rs) :
    substitute rs (some r.node) = r.new := by
  rcases substitute_cases rs (some r.node) with ⟨r', hr', hnode, hnew⟩ | ⟨hne, -⟩
  · rw [hnew, List.inj_on_of_nodup_map hn hr hr' (Option.some.inj hnode)]
  · exact absurd rfl (hne r hr)

/-- Which replacement comes first makes no difference when the statements are different ones. -/
theorem substitute_perm (hp : order.Perm rs) (hn : (rs.map node).Nodup) :
    substitute order = substitute rs := by
  funext slot
  have hn' : (order.map node).Nodup := (hp.map node).nodup_iff.mpr hn
  rcases substitute_cases rs slot with ⟨r, hr, rfl, hnew⟩ | ⟨hne, hsame⟩
  · rw [hnew, substitute_node hn' (hp.mem_iff.mpr hr)]
  · rw [hsame, substitute_of_forall_ne fun r hr => hne r (hp.mem_iff.mp hr)]

theorem flatMap_substitute_of_not_mem (h : ∀ r ∈ rs, some r.node ∉ slots) :
    slots.flatMap (substitute rs) = slots := by
  have hsame : ∀ slot ∈ slots, substitute rs slot = [slot] := fun slot hslot =>
    substitute_of_forall_ne fun r hr he => h r hr (he ▸ hslot)
  rw [List.flatMap_congr hsame, List.flatMap_singleton']

/-- A replaced statement is gone, unless it is put in again. -/
theorem not_mem_flatMap_substitute (hr : r ∈ rs) (hnew : ∀ r' ∈ rs, some r.node ∉ r'.new) :
    some r.node ∉ slots.flatMap (substitute rs) := by
  intro hmem
  obtain ⟨slot, -, hslot⟩ := List.mem_flatMap.mp hmem
  rcases substitute_cases rs slot with ⟨r', hr', -, h⟩ | ⟨hne, h⟩
  · exact hnew r' hr' (h ▸ hslot)
  · rw [h, List.mem_singleton] at hslot
    exact hne r hr hslot.symm

/-- What is neither replaced nor put in stands in the list as often as before. -/
theorem count_flatMap_substitute (hnode : ∀ r ∈ rs, slot ≠ some r.node)
    (hnew : ∀ r ∈ rs, slot ∉ r.new) :
    (slots.flatMap (substitute rs)).count slot = slots.count slot := by
  induction slots with
  | nil => rfl
  | cons first slots ih =>
      rw [List.flatMap_cons, List.count_append, ih, List.count_cons]
      rcases substitute_cases rs first with ⟨r, hr, hfirst, h⟩ | ⟨-, h⟩
      · have hne : ¬ (first == slot) = true := fun he =>
          hnode r hr ((eq_of_beq he).symm.trans hfirst)
        rw [h, List.count_eq_zero.mpr (hnew r hr), if_neg hne, Nat.zero_add, Nat.add_zero]
      · rw [h, List.count_singleton, Nat.add_comm]

/-! ## One replacement after the other -/

/-- The replacements can be made one after the other: their statements are different ones, each stands
in the list once, and none of them is put in again. Other slots may stand in the list more than once,
since what is put in can be there already. -/
structure Fit (rs : List Replacement) (slots : List Slot) : Prop where
  distinct : (rs.map node).Nodup
  once : ∀ r ∈ rs, slots.count (some r.node) = 1
  gone : ∀ r ∈ rs, ∀ r' ∈ rs, some r.node ∉ r'.new

namespace Fit

theorem of_nodup (hslots : slots.Nodup) (hnodes : (rs.map node).Nodup)
    (hstanding : ∀ r ∈ rs, some r.node ∈ slots) (hnew : ∀ r ∈ rs, ∀ r' ∈ rs, some r.node ∉ r'.new) :
    Fit rs slots where
  distinct := hnodes
  once r hr := by rw [hslots.count, if_pos (hstanding r hr)]
  gone := hnew

theorem perm (h : Fit rs slots) (hp : order.Perm rs) : Fit order slots where
  distinct := (hp.map node).nodup_iff.mpr h.distinct
  once r hr := h.once r (hp.mem_iff.mp hr)
  gone r hr r' hr' := h.gone r (hp.mem_iff.mp hr) r' (hp.mem_iff.mp hr')

/-- After the first replacement, the others still can be made. -/
theorem rest (h : Fit (r :: rs) slots) : Fit rs (slots.flatMap (substitute [r])) where
  distinct := (List.nodup_cons.mp h.distinct).2
  once r' hr' := by
    have hne : some r'.node ≠ some r.node := fun he =>
      (List.nodup_cons.mp h.distinct).1 (Option.some.inj he ▸ List.mem_map_of_mem hr')
    rw [count_flatMap_substitute (by simpa using hne)
      (by simpa using h.gone r' (List.mem_cons_of_mem _ hr') r List.mem_cons_self)]
    exact h.once r' (List.mem_cons_of_mem _ hr')
  gone a ha b hb := h.gone a (List.mem_cons_of_mem _ ha) b (List.mem_cons_of_mem _ hb)

/-- What the first replacement puts in is none of the statements of the others. -/
theorem flatMap_substitute (h : Fit (r :: rs) slots) :
    (slots.flatMap (substitute [r])).flatMap (substitute rs) =
      slots.flatMap (substitute (r :: rs)) := by
  have hput : r.new.flatMap (substitute rs) = r.new :=
    flatMap_substitute_of_not_mem fun r' hr' =>
      h.gone r' (List.mem_cons_of_mem _ hr') r List.mem_cons_self
  have hslot : ∀ slot, (substitute [r] slot).flatMap (substitute rs) = substitute (r :: rs) slot := by
    intro slot
    by_cases he : slot = some r.node
    · calc (substitute [r] slot).flatMap (substitute rs)
          = r.new.flatMap (substitute rs) := by rw [substitute_cons, if_pos he]
        _ = r.new := hput
        _ = substitute (r :: rs) slot := by rw [substitute_cons, if_pos he]
    · calc (substitute [r] slot).flatMap (substitute rs)
          = [slot].flatMap (substitute rs) := by rw [substitute_cons, if_neg he, substitute_nil]
        _ = substitute rs slot := List.flatMap_singleton _ _
        _ = substitute (r :: rs) slot := by rw [substitute_cons, if_neg he]
  rw [List.flatMap_assoc]
  exact List.flatMap_congr fun slot _ => hslot slot

end Fit

/-! ## Removals -/

/-- The statement gives way to nothing. -/
def removal (t : TokenId) : Replacement := ⟨t, []⟩

theorem Fit.of_removals {ts : List TokenId} (hslots : slots.Nodup) (hts : ts.Nodup)
    (hmem : ∀ t ∈ ts, some t ∈ slots) : Fit (ts.map removal) slots := by
  have hnodes : (ts.map removal).map node = ts := by
    rw [List.map_map]
    exact List.map_id _
  refine .of_nodup hslots (by rwa [hnodes]) (List.forall_mem_map.mpr hmem) fun r _ => ?_
  exact List.forall_mem_map.mpr fun t _ => List.not_mem_nil

/-- To remove statements is to keep the others. -/
theorem flatMap_removals (ts : List TokenId) (slots : List Slot) :
    slots.flatMap (substitute (ts.map removal)) = slots.filter fun slot => slot ∉ ts.map some := by
  have hfilter : (slots.filter fun slot => slot ∉ ts.map some) =
      slots.flatMap fun slot => [slot].filter fun slot => slot ∉ ts.map some := by
    rw [← List.filter_flatMap, List.flatMap_singleton']
  rw [hfilter]
  refine List.flatMap_congr fun slot _ => ?_
  rcases substitute_cases (ts.map removal) slot with ⟨r, hr, hslot, h⟩ | ⟨hne, h⟩
  · obtain ⟨t, ht, rfl⟩ := List.mem_map.mp hr
    have hmem : slot ∈ ts.map some := hslot ▸ List.mem_map_of_mem ht
    rw [h, List.filter_singleton]
    simp [hmem, removal]
  · have hnot : slot ∉ ts.map some := by
      intro hmem
      obtain ⟨t, ht, hslot⟩ := List.mem_map.mp hmem
      exact hne (removal t) (List.mem_map_of_mem ht) hslot.symm
    rw [h, List.filter_singleton]
    simp [hnot]

/-! ## Stores -/

theorem replaced_nil (s : Store) (parent : TokenId) : s.replaced parent [] = s := by
  have hsame : (s.cell parent).children.flatMap (substitute []) = (s.cell parent).children :=
    List.flatMap_singleton' _
  rw [Store.replaced, hsame]
  exact s.set_cell parent

theorem cell_replaced (s : Store) (parent : TokenId) (rs : List Replacement) :
    (s.replaced parent rs).cell parent =
      { s.cell parent with children := (s.cell parent).children.flatMap (substitute rs) } := by
  by_cases hlt : parent < s.size
  · exact Store.cell_set_eq _ _ _ hlt
  · -- beyond the tokens there are no children to replace
    have hle := Nat.le_of_not_lt hlt
    rw [Store.cell_of_size_le _ _ (by rw [Store.replaced, Store.size_set]; exact hle),
      s.cell_of_size_le parent hle]
    rfl

theorem replaced_cons (h : Fit (r :: rs) (s.cell parent).children) :
    (s.replaced parent [r]).replaced parent rs = s.replaced parent (r :: rs) := by
  rw [Store.replaced, cell_replaced, h.flatMap_substitute]
  exact s.set_set _ _ _

/-- A statement that stands in the parent once is replaced at its place. -/
theorem edit_of_once (h : (s.cell parent).children.count (some r.node) = 1) :
    (r.edit parent).run.run s = (.ok (), s.replaced parent [r]) :=
  Edit.replaceStatement_of_eq_some (Edit.replaceFirst_of_count h)

/-- The replacements are made, one after the other. -/
theorem Fit.forM_edit (h : Fit rs (s.cell parent).children) :
    (rs.forM (edit parent)).run.run s = (.ok (), s.replaced parent rs) := by
  -- each replacement leaves the statements of the others where they can be found
  induction rs generalizing s with
  | nil =>
      rw [replaced_nil]
      rfl
  | cons r rs ih =>
      have hfirst := edit_of_once (h.once r List.mem_cons_self)
      have hothers : (rs.forM (edit parent)).run.run (s.replaced parent [r]) = _ :=
        ih (by rw [cell_replaced]; exact h.rest)
      show (r.edit parent >>= fun _ => rs.forM (edit parent)).run.run s = _
      rw [run_run_bind_of_ok hfirst, hothers, replaced_cons h]

/-- Different statements of one parent, none of which is put in again, can be replaced in any order.
Every order gives the children in which each of them is substituted at its own place, and nothing
else is changed. None of them is a child any more; and a statement that is no child is not replaced:
the edit stops and leaves everything as it was. -/
theorem edits_in_any_order (hchildren : (s.cell parent).children.Nodup)
    (hnodes : (rs.map node).Nodup) (hstanding : ∀ r ∈ rs, some r.node ∈ (s.cell parent).children)
    (hnew : ∀ r ∈ rs, ∀ r' ∈ rs, some r.node ∉ r'.new) :
    (∀ order : List Replacement, order.Perm rs →
        (order.forM (edit parent)).run.run s = (.ok (), s.replaced parent rs)) ∧
      (∀ r ∈ rs, some r.node ∉ ((s.replaced parent rs).cell parent).children) ∧
      ∀ (s' : Store) (r : Replacement), some r.node ∉ (s'.cell parent).children →
        (r.edit parent).run.run s' =
          (.error (.statement (s'.cell r.node).label (.notFound (s'.cell parent).label.kind)), s') := by
  have hfit : Fit rs (s.cell parent).children := .of_nodup hchildren hnodes hstanding hnew
  refine ⟨fun order hp => ?_, fun r hr => ?_, fun s' r hout => ?_⟩
  · rw [(hfit.perm hp).forM_edit, Store.replaced, Store.replaced, substitute_perm hp hnodes]
  · rw [cell_replaced]
    exact not_mem_flatMap_substitute hr (hnew r hr)
  · exact Edit.replaceStatement_notFound hout r.new

/-- Two lines that read alike, another one between them, and a file of the three. -/
def twinLines : Store where
  cells := #[
    .fresh Kind.text "a" 1 0 [],
    .fresh Kind.text "b" 2 0 [],
    .fresh Kind.text "a" 1 0 [],
    .fresh Kind.text "x" 3 0 [],
    .fresh Kind.text "y" 3 2 [],
    .fresh Kind.sourceFile "" 1 0 [some 0, some 1, some 2]]

/-- The middle line goes, and the second of the two alike becomes two others. -/
def twinEdits : List Replacement := [⟨1, []⟩, ⟨2, [some 3, some 4]⟩]

/-- Made from the last to the first, the edits find the second of the two lines that are alike, not the
first. The line in the middle cannot be removed again. -/
theorem edits_in_any_order_twinLines :
    (twinLines.cell 5).children.Nodup ∧ (twinEdits.map node).Nodup ∧
      (∀ r ∈ twinEdits, some r.node ∈ (twinLines.cell 5).children) ∧
      (∀ r ∈ twinEdits, ∀ r' ∈ twinEdits, some r.node ∉ r'.new) ∧
      twinLines.cell 0 = twinLines.cell 2 ∧ twinEdits.reverse.Perm twinEdits ∧
      (twinEdits.reverse.forM (edit 5)).run.run twinLines = (.ok (), twinLines.replaced 5 twinEdits) ∧
      ((twinLines.replaced 5 twinEdits).cell 5).children = [some 0, some 3, some 4] ∧
      some 1 ∉ ((twinLines.replaced 5 twinEdits).cell 5).children ∧
      (edit 5 ⟨1, []⟩).run.run (twinLines.replaced 5 twinEdits) =
        (.error (.statement (twinLines.cell 1).label (.notFound Kind.sourceFile)),
          twinLines.replaced 5 twinEdits) := by
  have hchildren : (twinLines.cell 5).children.Nodup := by decide
  have hnodes : (twinEdits.map node).Nodup := by decide
  have hstanding : ∀ r ∈ twinEdits, some r.node ∈ (twinLines.cell 5).children := by decide
  have hnew : ∀ r ∈ twinEdits, ∀ r' ∈ twinEdits, some r.node ∉ r'.new := by decide
  have hperm : twinEdits.reverse.Perm twinEdits := List.reverse_perm _
  obtain ⟨hmade, hgone, hstops⟩ := edits_in_any_order hchildren hnodes hstanding hnew
  have hout := hgone ⟨1, []⟩ List.mem_cons_self
  exact ⟨hchildren, hnodes, hstanding, hnew, rfl, hperm, hmade _ hperm, rfl, hout,
    hstops _ ⟨1, []⟩ hout⟩

end Replacement

end ClassLift
