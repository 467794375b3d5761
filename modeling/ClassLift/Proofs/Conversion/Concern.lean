import ClassLift.Proofs.Conversion.Touch
import ClassLift.Proofs.Statement.Under

set_option autoImplicit false

/-! # What concerns a container

The visit of a container edits only what concerns it (`visit_concerns`): the container itself, the
exports among its statements, and the super calls in the bodies of functions inside it. Here a store
is compared with the one in which the whole tree still stood as it was at the start, so that it does
not matter which visits there were in between, and what is left of the tree. No token concerns two
containers (`Concerns.unique`), which makes the visits of different containers independent.
-/

namespace ClassLift

open Conversion

namespace Store

/-- A call among the statements of a body, or the argument list of one. -/
def CallPart (s : Store) (body u : TokenId) : Prop :=
  ∃ t, some t ∈ (s.cell body).children ∧ s.hasKind Kind.call (some t) = true ∧
    (u = t ∨ (some u ∈ (s.cell t).children ∧ s.hasKind Kind.arguments (some u) = true))

/-- What the visit of the container `b` may edit. -/
inductive Concerns (s : Store) (b u : TokenId) : Prop where
  | own (h : u = b)
  | exported (child : some u ∈ (s.cell b).children)
      (kind : s.hasKind Kind.exportDecl (some u) = true)
  | called {body : TokenId} (inside : s.Inside b body) (container : s.isContainer (some body) = true)
      (part : s.CallPart body u)

variable {s : Store} {roots : List Slot} {ids : List TokenId} {b b' body u : TokenId}

theorem CallPart.kind (h : s.CallPart body u) :
    s.hasKind Kind.call (some u) = true ∨ s.hasKind Kind.arguments (some u) = true := by
  obtain ⟨t, -, hcall, rfl | ⟨-, harguments⟩⟩ := h
  · exact Or.inl hcall
  · exact Or.inr harguments

theorem CallPart.inside (h : s.CallPart body u) : s.Inside body u := by
  obtain ⟨t, ht, hcall, rfl | ⟨hu, -⟩⟩ := h
  · exact .of_child ht
  · exact (Inside.of_child ht).down (isContainer_of_hasKind hcall (by decide)) hu

/-- What concerns a container is found from there. -/
theorem Concerns.mem (h : s.Concerns b u) (hspans : Spans Cell.children s roots ids) (hb : b ∈ ids) :
    u ∈ ids := by
  cases h with
  | own h => exact h ▸ hb
  | exported child => exact hspans.link_mem hb child
  | called inside _ part => exact hspans.mem_of_inside (hspans.mem_of_inside hb inside) part.inside

/-- No token concerns two containers. -/
theorem Concerns.unique (h : s.Concerns b u) (h' : s.Concerns b' u)
    (hspans : Spans Cell.children s roots ids) (hn : ids.Nodup) (hb : b ∈ ids) (hb' : b' ∈ ids)
    (hcontainer : s.isContainer (some b) = true) (hcontainer' : s.isContainer (some b') = true) :
    b = b' := by
  have hplain : ∀ {body}, s.CallPart body u → s.isContainer (some u) = false := fun hpart =>
    hpart.kind.elim (isContainer_of_hasKind · (by decide)) (isContainer_of_hasKind · (by decide))
  have hnoexport : ∀ {body}, s.CallPart body u → s.hasKind Kind.exportDecl (some u) = true → False :=
    fun hpart hk => hpart.kind.elim (fun h => absurd (hasKind_unique hk h) (by decide))
      fun h => absurd (hasKind_unique hk h) (by decide)
  -- the kind of the token tells in which of the three ways it concerns a container
  cases h with
  | own h =>
      subst h
      cases h' with
      | own h' => exact h'
      | exported _ kind =>
          rw [hasKind_of_isContainer hcontainer ⟨by decide, by decide⟩] at kind
          cases kind
      | called _ _ part =>
          rw [hplain part] at hcontainer
          cases hcontainer
  | exported child kind =>
      cases h' with
      | own h' =>
          subst h'
          rw [hasKind_of_isContainer hcontainer' ⟨by decide, by decide⟩] at kind
          cases kind
      | exported child' =>
          exact hspans.parent_unique hn hb hb' child child'
      | called _ _ part => exact (hnoexport part kind).elim
  | @called body inside container part =>
      cases h' with
      | own h' =>
          subst h'
          rw [hplain part] at hcontainer'
          cases hcontainer'
      | exported _ kind => exact (hnoexport part kind).elim
      | @called body' inside' container' part' =>
          have hbody := hspans.mem_of_inside hb inside
          have hbody' := hspans.mem_of_inside hb' inside'
          obtain rfl := hspans.inside_unique hn hbody hbody' container container' part.inside
            part'.inside
          exact hspans.inside_unique hn hb hb' hcontainer hcontainer' inside inside'

end Store

open Store

variable {s f g : Store} {roots : List Slot} {ids : List TokenId} {edited : TokenId → Prop}
  {b p u : TokenId} {kind : Kind}

/-! ## Back to the start -/

section

variable (h : s.Touches edited s f) (hspans : Spans Cell.children s roots ids)

include h hspans

theorem Store.Touches.hasKind_earlier (hu : u ∈ ids) :
    f.hasKind kind (some u) = s.hasKind kind (some u) := by
  rw [Store.hasKind, Store.hasKind, h.label? (hspans.lt_size u hu)]

theorem Store.Touches.isContainer_earlier (hu : u ∈ ids) :
    f.isContainer (some u) = s.isContainer (some u) := by
  rw [Store.isContainer, Store.isContainer, h.hasKind_earlier hspans hu, h.hasKind_earlier hspans hu]

/-- A child that is neither a class nor a word was one at the start. -/
theorem Store.Touches.child_earlier (hp : p ∈ ids) (hu : some u ∈ (f.cell p).children)
    (hk : f.hasKind kind (some u) = true) (hne : kind ∉ [Kind.classDecl, Kind.keyword]) :
    some u ∈ (s.cell p).children ∧ u ∈ ids ∧ s.hasKind kind (some u) = true := by
  have hchild : some u ∈ (s.cell p).children := by
    refine h.mem_of_kind (hspans.lt_size p hp) hu ?_
    rwa [kind_of_hasKind hk]
  have hmem := hspans.link_mem hp hchild
  exact ⟨hchild, hmem, by rwa [← h.hasKind_earlier hspans hmem]⟩

/-- A function that a statement of a container declares has stood inside it from the start. -/
theorem Store.Touches.inside_earlier (hb : b ∈ ids) {declaring : Slot} {c : Candidate} {F : TokenId}
    (hdeclaring : declaring ∈ (f.cell b).children)
    (hc : f.declaration? (some b) declaring = .ok (some c)) (hF : c.builder.function = some F)
    (hkind : f.hasKind Kind.functionDecl (some F) = true ∨
      f.hasKind Kind.anonymousFunction (some F) = true) : F ∈ ids ∧ s.Inside b F := by
  -- a plain function, an exported one, and one assigned to a variable: one, two and three links
  -- down
  rcases declaration_eq_some_iff.mp hc with hf | ⟨hexport, first, rest, hchildren, hf⟩ | hv
  · rw [hf.eq] at hF
    cases hF
    obtain ⟨hchild, hmem, -⟩ := h.child_earlier hspans hb hdeclaring hf.kind (by decide)
    exact ⟨hmem, .of_child hchild⟩
  · rw [hf.eq] at hF
    cases hF
    obtain ⟨e, rfl, -⟩ := exists_token_of_hasKind hexport
    obtain ⟨hchild, hmem, hexport⟩ := h.child_earlier hspans hb hdeclaring hexport (by decide)
    have hfirst : some F ∈ (f.cell e).children := by
      rw [show (f.cell e).children = _ from hchildren]
      exact List.mem_cons_self
    obtain ⟨hchild', hmem', -⟩ := h.child_earlier hspans hmem hfirst hf.kind (by decide)
    have hplain := isContainer_of_hasKind hexport (by decide)
    exact ⟨hmem', (Inside.of_child hchild).down hplain hchild'⟩
  · obtain ⟨v, hv', -⟩ := exists_token_of_hasKind hv.kind
    obtain ⟨assignment, target, value, hchildren, hassign, hparts', -, -, heq⟩ := hv.parts
    rw [heq] at hF
    cases hF
    subst hv'
    obtain ⟨hchild, hmem, hvar⟩ := h.child_earlier hspans hb hdeclaring hv.kind (by decide)
    have hassign := kind_of_isAssign hassign
    obtain ⟨i, rfl, -⟩ := exists_token_of_hasKind hassign
    have hi : some i ∈ (f.cell v).children := by
      rw [show (f.cell v).children = _ from hchildren]
      exact List.mem_cons_self
    obtain ⟨hchild', hmem', hassign⟩ := h.child_earlier hspans hmem hi hassign (by decide)
    have hF : some F ∈ (f.cell i).children := by
      rw [show (f.cell i).children = _ from hparts']
      simp
    have hinside := (Inside.of_child hchild).down (isContainer_of_hasKind hvar (by decide)) hchild'
    obtain ⟨kind, hk, hne⟩ : ∃ kind, f.hasKind kind (some F) = true ∧
        kind ∉ [Kind.classDecl, Kind.keyword] :=
      hkind.elim (fun hk => ⟨_, hk, by decide⟩) fun hk => ⟨_, hk, by decide⟩
    obtain ⟨hchild'', hmem'', -⟩ := h.child_earlier hspans hmem' hF hk hne
    exact ⟨hmem'', hinside.down (isContainer_of_hasKind hassign (by decide)) hchild''⟩

/-- It has been the same function, with the same body. -/
theorem Store.Touches.function_earlier (hb : b ∈ ids) {declaring : Slot} {c : Candidate}
    (hdeclaring : declaring ∈ (f.cell b).children)
    (hc : f.declaration? (some b) declaring = .ok (some c)) :
    ∃ F body, c.builder.function = some F ∧ F ∈ ids ∧ s.Inside b F ∧
      (s.cell F).label.kind ∉ Kind.edited ∧ (s.cell F).children[2]? = some (some body) ∧
      s.Inside b body ∧ s.hasKind Kind.block (some body) = true := by
  obtain ⟨F, n, a, body, hF, -, -, hparts, hblock, hkind⟩ :=
    parts_of_isConvertible (convertible_of_declaration hc)
  obtain ⟨hmem, hinside⟩ := h.inside_earlier hspans hb hdeclaring hc hF hkind
  rw [h.hasKind_earlier hspans hmem, h.hasKind_earlier hspans hmem] at hkind
  have hfunctionKind : (s.cell F).label.kind ∉ Kind.edited ∧ s.isContainer (some F) = false := by
    refine ⟨Kind.not_edited_of_function ?_, ?_⟩
    · exact hkind.elim (kind_mem_of_hasKind · (by decide)) (kind_mem_of_hasKind · (by decide))
    · exact hkind.elim (isContainer_of_hasKind · (by decide)) (isContainer_of_hasKind · (by decide))
  rw [h.cell_of_kind (hspans.lt_size F hmem) hfunctionKind.1] at hparts
  have hbody : some body ∈ (s.cell F).children := by
    rw [hparts]
    simp
  refine ⟨F, body, hF, hmem, hinside, hfunctionKind.1, by rw [hparts]; rfl,
    hinside.down hfunctionKind.2 hbody, ?_⟩
  rwa [← h.hasKind_earlier hspans (hspans.link_mem hmem hbody)]

end

/-! ## Visits -/

/-- What a candidate finds to be super calls, then or later, has stood inside the container from the
start. -/
theorem Emerges.callsIn {options : Options} {d d' : Draft}
    (h : Emerges f options (some b) (f.cell b).children d d') (hf : s.Touches edited s f)
    (hspans : Spans Cell.children s roots ids) (hb : b ∈ ids) (hg : s.Touches edited s g) :
    d'.finish.CallsIn s g fun u =>
      ∃ body, s.Inside b body ∧ s.isContainer (some body) = true ∧ s.CallPart body u := by
  obtain ⟨before, declaring, after, c, hstatements, hc, hd, -⟩ := h.declared
  have hdeclaring : declaring ∈ (f.cell b).children := by
    rw [hstatements]
    simp
  obtain ⟨F, body, hF, hmem, -, hplain, hthird, hinside, hblock⟩ :=
    hf.function_earlier hspans hb hdeclaring hc
  have hcontainer : s.isContainer (some body) = true := Bool.or_eq_true_iff.mpr (Or.inr hblock)
  have hbody := hspans.mem_of_inside hb hinside
  have hbuilder : d'.finish.builder = c.builder := by
    rw [h.finish_eq, show d.candidate = c by rw [hd]]
  intro g' hg' t k a ht hcall
  have hlater : s.Touches (fun _ => True) s g' := (hg.mono fun _ _ => trivial).trans hg'
  obtain ⟨_, _, _, first, rest, he, -, he', hkind, hkinda, hchildren, -⟩ :=
    Candidate.superCall_eq_some hcall
  cases he
  cases he'
  rw [hbuilder, hF, Store.bodyOf, Store.children, hg.cell_of_kind (hspans.lt_size F hmem) hplain,
    hthird] at ht
  -- the call has stood in the body, and its argument list in the call
  have hold : some t ∈ (s.cell body).children := by
    rcases hg.kept (hspans.lt_size body hbody) ht with hold | hnew
    · exact hold
    · obtain ⟨v, hv, -, -, hnew⟩ := hnew.later hg' (Nat.lt_of_lt_of_le
        (hspans.lt_size body hbody) hg.size_le)
      cases hv
      rcases hnew with hword | ⟨hclass, -⟩
      · exact absurd (hword.1.symm.trans (kind_of_hasKind hkind)) (by decide)
      · exact absurd (hasKind_unique hkind hclass) (by decide)
  have htmem := hspans.link_mem hbody hold
  have hacall : some a ∈ (g'.cell t).children := by
    rw [hchildren]
    simp
  obtain ⟨hachild, -, hakind⟩ := hlater.child_earlier hspans htmem hacall hkinda (by decide)
  rw [hlater.hasKind_earlier hspans htmem] at hkind
  exact ⟨⟨body, hinside, hcontainer, t, hold, hkind, Or.inl rfl⟩,
    ⟨body, hinside, hcontainer, t, hold, hkind, Or.inr ⟨hachild, hakind⟩⟩⟩

/-- The visit of a container edits what concerns it, whatever became of the tree since the start, and
however the visit ends. -/
theorem Conversion.visit_concerns (hspans : Spans Cell.children s roots ids) (hb : b ∈ ids)
    (hf : s.Touches edited s f) (parent : Slot) (x : Converter) :
    s.Touches (s.Concerns b) f ((visit (some b) parent).run.run (f, x)).2.1 := by
  cases hc : f.isContainer (some b) with
  | false =>
      rw [visit_of_not_container hc]
      exact .refl _ _ _
  | true =>
      have hlater : s.Touches (fun _ => True) s f := hf.mono fun _ _ => trivial
      refine (visit_edits (x := x) hc hf.size_le (fun d d' h g hg =>
        h.callsIn hlater hspans hb (hlater.trans hg)) parent).mono ?_
      rintro u (rfl | ⟨hchild, hexport⟩ | ⟨body, hinside, hcontainer, hpart⟩)
      · exact .own rfl
      · obtain ⟨hchild, -, hexport⟩ := hf.child_earlier hspans hb hchild hexport (by decide)
        exact .exported hchild hexport
      · exact .called hinside hcontainer hpart

end ClassLift
