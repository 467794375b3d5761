import ClassLift.Proofs.Statement.Form
import ClassLift.Proofs.Token.Graft
import Mathlib.Logic.Relation

set_option autoImplicit false

/-! # What stands under a statement

The functions that become constructors and methods, and the super classes, stand under the
statements that name them, with no container in between (`under_of_declaration`,
`under_of_methods`, `under_of_superClass`). So they are found wherever these statements are
(`Spans.mem_of_under`), also in a tree with empty slots.

What stands under the statements of a container is *inside* it. In a tree without shared tokens no
token is inside two containers (`Spans.inside_unique`).
-/

namespace ClassLift

namespace Store

variable {s : Store} {options : Options} {block slot child last : Slot} {kind : Kind}

/-- The second slot is the first one, or a slot below the token in it, with no container in
between. -/
def Under (s : Store) : Slot → Slot → Prop :=
  Relation.ReflTransGen fun slot child => s.isContainer slot = false ∧ child ∈ s.children slot

theorem Under.refl (s : Store) (slot : Slot) : s.Under slot slot := Relation.ReflTransGen.refl

theorem Under.trans (h : s.Under slot child) (h' : s.Under child last) : s.Under slot last :=
  Relation.ReflTransGen.trans h h'

theorem Under.tail (h : s.Under slot child) (hchild : s.isContainer child = false)
    (hc : last ∈ s.children child) : s.Under slot last :=
  Relation.ReflTransGen.tail h ⟨hchild, hc⟩

/-- The children of a token of a certain kind, which is no container. -/
theorem Under.below (h : s.Under slot child) (hchild : s.hasKind kind child = true)
    (hk : kind ≠ Kind.sourceFile ∧ kind ≠ Kind.block) (hc : last ∈ s.children child) :
    s.Under slot last :=
  h.tail (isContainer_of_hasKind hchild hk) hc

theorem under_of_declaration {c : Candidate} (h : s.declaration? block slot = .ok (some c)) :
    s.Under slot c.builder.function := by
  rcases declaration_eq_some_iff.mp h with hf | ⟨hexport, first, rest, hc, hf⟩ | hv
  · rw [hf.eq]
    exact .refl s slot
  · rw [hf.eq]
    exact (Under.refl s slot).below hexport (by decide) (hc ▸ List.mem_cons_self)
  · obtain ⟨assignment, target, value, hc, hassign, hparts, -, -, heq⟩ := hv.parts
    have hassignment : s.Under slot assignment :=
      (Under.refl s slot).below hv.kind (by decide) (by rw [hc]; simp)
    have hvalue : s.Under slot value := hassignment.below (kind_of_isAssign hassign) (by decide) (by rw [hparts]; simp)
    rw [heq]
    exact hvalue

theorem under_of_tableEntries {className : String} {entries : List Slot} {ms : List TableEntry}
    (h : s.tableEntries? className entries = .ok (some ms)) :
    ∀ m ∈ ms, ∃ entry ∈ entries, s.Under entry m.function := by
  intro m hm
  obtain ⟨entry, hentry, hform⟩ := mem_of_tableEntries h m hm
  refine ⟨entry, hentry, ?_⟩
  obtain ⟨-, -, ⟨hf, -⟩ | ⟨hbinary, key, hc⟩⟩ := entryForm_eq_method hform
  · rw [hf]
    exact .refl s entry
  · exact (Under.refl s entry).below hbinary (by decide) (by rw [hc]; simp)

theorem under_of_methods {ms : List Method} (h : s.methods? options block slot = .ok (some ms)) :
    ∀ m ∈ ms, s.Under slot m.function := by
  obtain ⟨hassign, target, value, hc, hms⟩ := methods_eq_some h
  have hvalue : s.Under slot value :=
    (Under.refl s slot).below (kind_of_isAssign hassign) (by decide) (by rw [hc]; simp)
  rcases hms with ⟨owner, name, -, -, -, rfl⟩ | ⟨owner, -, -, hobject, -, htable⟩
  · intro m hm
    rw [List.mem_singleton] at hm
    rw [hm]
    exact hvalue
  · obtain ⟨entries, hentries, -, rfl⟩ := tableMethods_eq_some htable
    intro m hm
    obtain ⟨e, he, hfunction⟩ := function_of_methodsOfTable hm
    obtain ⟨entry, hentry, hunder⟩ := under_of_tableEntries hentries e he
    rw [hfunction]
    exact (hvalue.below hobject (by decide) hentry).trans hunder

theorem under_of_superClass {base : Slot} (h : s.superClass? slot = .ok (some base)) :
    s.Under slot base := by
  rcases superClass_eq_some h with ⟨owner, hu⟩ | ⟨hreplaces, target, value, hc, hcreate | hnew⟩
  · obtain ⟨hcall, callee, list, o, hc, hlist, hargs, -⟩ := utilInherits_eq_some hu
    have hunder : s.Under slot list := (Under.refl s slot).below hcall (by decide) (by rw [hc]; simp)
    exact hunder.below hlist (by decide) (by rw [hargs]; simp)
  · have hvalue : s.Under slot value :=
      (Under.refl s slot).below (kind_of_isAssign (replacesPrototype_eq_true hreplaces).1) (by decide)
        (by rw [hc]; simp)
    obtain ⟨hcall, callee, list, argument, attr, hparts, hlist, hargs, hmember, -⟩ :=
      objectCreate_eq_some hcreate
    have hunder : s.Under slot list := hvalue.below hcall (by decide) (by rw [hparts]; simp)
    have hargument := hunder.below hlist (by decide) (hargs ▸ List.mem_cons_self)
    obtain ⟨hpoint, hbase⟩ := memberParts_eq_some hmember
    exact hargument.below (hasKind_of_isToken hpoint) (by decide) (by rw [hbase]; simp)
  · have hvalue : s.Under slot value :=
      (Under.refl s slot).below (kind_of_isAssign (replacesPrototype_eq_true hreplaces).1) (by decide)
        (by rw [hc]; simp)
    obtain ⟨hkind, -, made, hmade, hbase⟩ := instantiated_eq_some hnew
    have hunder : s.Under slot made := hvalue.below hkind (by decide) (by rw [hmade]; simp)
    rcases hbase with rfl | ⟨list, hcall, hparts⟩
    · exact hunder
    · exact hunder.below hcall (by decide) (by rw [hparts]; simp)

/-- The token stands under a statement of the container. -/
def Inside (s : Store) (b u : TokenId) : Prop := ∃ slot ∈ (s.cell b).children, s.Under slot (some u)

variable {b p u : TokenId}

theorem Inside.of_child (h : some u ∈ (s.cell b).children) : s.Inside b u := ⟨_, h, .refl s _⟩

theorem Inside.down (h : s.Inside b p) (hp : s.isContainer (some p) = false)
    (hu : some u ∈ (s.cell p).children) : s.Inside b u := by
  obtain ⟨slot, hslot, hunder⟩ := h
  exact ⟨slot, hslot, hunder.tail hp hu⟩

/-- A token inside a container is a child of it, or of a plain token inside it. -/
theorem Inside.cases (h : s.Inside b u) : some u ∈ (s.cell b).children ∨
    ∃ p, s.Inside b p ∧ s.isContainer (some p) = false ∧ some u ∈ (s.cell p).children := by
  obtain ⟨slot, hslot, hunder⟩ := h
  rcases Relation.ReflTransGen.cases_tail hunder with heq | ⟨child, hchild, hplain, hu⟩
  · exact Or.inl (heq ▸ hslot)
  · cases child with
    | none => cases hu
    | some p => exact Or.inr ⟨p, ⟨slot, hslot, hchild⟩, hplain, hu⟩

/-- What holds of the children of a container, and with a plain token inside it of its children,
holds of all tokens inside. -/
theorem Inside.induct {P : TokenId → Prop} (hchild : ∀ u, some u ∈ (s.cell b).children → P u)
    (hdown : ∀ p u, s.Inside b p → P p → s.isContainer (some p) = false →
      some u ∈ (s.cell p).children → P u) (h : s.Inside b u) : P u := by
  obtain ⟨slot, hslot, hunder⟩ := h
  have hall : ∀ child, s.Under slot child → ∀ v, child = some v → P v := by
    intro child hunder
    induction hunder with
    | refl =>
        rintro v rfl
        exact hchild v hslot
    | @tail child last hfirst hlast ih =>
        rintro v rfl
        cases child with
        | none => cases hlast.2
        | some p => exact hdown p v ⟨slot, hslot, hfirst⟩ (ih p rfl) hlast.1 hlast.2
  exact hall _ hunder u rfl

end Store

namespace Spans

variable {s : Store} {roots : List Slot} {ids : List TokenId} {slot : Slot} {b b' p u : TokenId}

/-- What stands under a slot is found from there. -/
theorem mem_of_under (h : Spans Cell.children s roots ids) (hslot : slot ∈ roots)
    (hu : s.Under slot (some u)) : u ∈ ids := by
  -- from the slot downwards, every token is among those found
  have hall : ∀ child, s.Under slot child → ∀ v, child = some v → v ∈ ids := by
    intro child hchild
    induction hchild with
    | refl =>
        rintro v rfl
        exact h.root_mem hslot
    | @tail child last _ hlast ih =>
        rintro v rfl
        cases child with
        | none => cases hlast.2
        | some t => exact h.link_mem (ih t rfl) hlast.2
  exact hall _ hu u rfl

/-- Nothing stands under two slots. -/
theorem under_unique {slot' : Slot} (h : Spans Cell.children s roots ids) (hn : ids.Nodup)
    (hslot : slot ∈ roots) (hslot' : slot' ∈ roots) (hu : s.Under slot (some u))
    (hu' : s.Under slot' (some u)) : slot = slot' := by
  by_contra hne
  exact h.at_disjoint hn hslot hslot' hne u ((h.spans_at hslot).mem_of_under List.mem_cons_self hu)
    ((h.spans_at hslot').mem_of_under List.mem_cons_self hu')

theorem mem_of_inside (h : Spans Cell.children s roots ids) (hb : b ∈ ids) (hu : s.Inside b u) :
    u ∈ ids :=
  hu.induct (fun _ hv => h.link_mem hb hv) fun _ _ _ hp _ hv => h.link_mem hp hv

/-- The token above one inside a container is the container, or a plain token inside it. -/
theorem inside_parent (h : Spans Cell.children s roots ids) (hn : ids.Nodup) (hb : b ∈ ids)
    (hp : p ∈ ids) (hu : s.Inside b u) (hup : some u ∈ (s.cell p).children) :
    p = b ∨ (s.Inside b p ∧ s.isContainer (some p) = false) := by
  rcases hu.cases with hchild | ⟨q, hq, hplain, huq⟩
  · exact Or.inl (h.parent_unique hn hp hb hup hchild)
  · obtain rfl := h.parent_unique hn hp (h.mem_of_inside hb hq) hup huq
    exact Or.inr ⟨hq, hplain⟩

/-- A token inside a container is a child of no other container. -/
theorem container_of_child (h : Spans Cell.children s roots ids) (hn : ids.Nodup) (hb : b ∈ ids)
    (hp : p ∈ ids) (hcontainer : s.isContainer (some p) = true) (hu : s.Inside b u)
    (hup : some u ∈ (s.cell p).children) : p = b := by
  refine (h.inside_parent hn hb hp hu hup).resolve_right fun ⟨_, hplain⟩ => ?_
  rw [hcontainer] at hplain
  cases hplain

/-- No token is inside two containers. -/
theorem inside_unique (h : Spans Cell.children s roots ids) (hn : ids.Nodup) (hb : b ∈ ids)
    (hb' : b' ∈ ids) (hcontainer : s.isContainer (some b) = true)
    (hcontainer' : s.isContainer (some b') = true) (hu : s.Inside b u) (hu' : s.Inside b' u) :
    b = b' := by
  refine hu.induct (P := fun u => s.Inside b' u → b = b') (fun u hu hu' => ?_)
    (fun p u hp ih hplain hu hu' => ?_) hu'
  · exact h.container_of_child hn hb' hb hcontainer hu' hu
  · rcases h.inside_parent hn hb' (h.mem_of_inside hb hp) hu' hu with rfl | ⟨hp', -⟩
    · rw [hcontainer'] at hplain
      cases hplain
    · exact ih hp'

end Spans

end ClassLift
