import ClassLift.Proofs.Conversion.Concern
import ClassLift.Proofs.Conversion.Transfer

set_option autoImplicit false

/-! # Containers that were visited

What a visit makes of a container is told in terms of the store at the start (`Reworked`). No other visit
changes it (`Reworked.later`), since nothing concerns two containers.
-/

namespace ClassLift

open List Store

/-- A tree without shared tokens in which nothing stands below words. -/
structure PlainTree (s : Store) (root : TokenId) (ids : List TokenId) : Prop where
  spans : Spans Cell.children s [some root] ids
  nodup : ids.Nodup
  leaf : ∀ u ∈ ids, (s.cell u).label.kind ∈ [Kind.text, Kind.memberName] → (s.cell u).children = []

variable {s f g : Store} {options : Options} {root b b' t a u : TokenId} {ids : List TokenId}
  {edited : TokenId → Prop} {c : Candidate} {declaring : Slot} {classes : List (String × TokenId)}

/-- A token that is not edited is as before. -/
theorem Store.Touches.cell {s₀ : Store} (h : s₀.Touches edited s g) (hu : u < s.size)
    (hn : ¬ edited u) : g.cell u = s.cell u := by
  have hlabel := h.label hu
  have hchildren := h.children hu hn
  have hcomments := h.comments hu
  rcases hc : g.cell u with ⟨label, children, comments⟩
  rcases hc' : s.cell u with ⟨label', children', comments'⟩
  rw [hc, hc'] at hlabel hchildren hcomments
  dsimp only at hlabel hchildren hcomments
  rw [hlabel, hchildren, hcomments]

/-! ## Classes and their super calls -/

/-- The super class of a class is a name. -/
theorem PlainTree.names_superClass (T : PlainTree s root ids) (hb : b ∈ ids) (name : String)
    {base : TokenId} (h : s.superClassOf name (s.cell b).children = some base) :
    s.Names s.size base := by
  obtain ⟨st, hst, hsuper⟩ := List.exists_of_findSome?_eq_some h
  have hsuper := superOf_eq_some.mp hsuper
  have hinside : s.Inside b base := ⟨st, List.mem_of_mem_filter hst, under_of_superClass hsuper⟩
  have hmem := T.spans.mem_of_inside hb hinside
  exact names_of_isClassReferenceTo T.spans T.leaf hmem
    ((T.spans.fits base hmem).mono (T.spans.length_le_size T.nodup))
    (isClassReference_of_superClass hsuper)

theorem Store.bodyOf_eq {F body : TokenId} {name arguments : Slot}
    (h : (s.cell F).children = [name, arguments, some body]) :
    s.bodyOf (some F) = (s.cell body).children := by
  rw [Store.bodyOf, show s.children (some F) = _ from h]
  rfl

theorem Store.emptyBody_eq {F body : TokenId} {name arguments : Slot} {m : Method}
    (hm : m.function = some F) (h : (s.cell F).children = [name, arguments, some body]) :
    s.emptyBody m = (s.cell body).children.isEmpty := by
  rw [Store.emptyBody, hm, show s.children (some F) = _ from h]
  rfl

/-- The body of a constructor stands inside the container. -/
theorem PlainTree.body (T : PlainTree s root ids) (hb : b ∈ ids)
    (hstanding : declaring ∈ (s.cell b).children)
    (hdeclared : s.declaration? (some b) declaring = .ok (some c)) :
    ∃ F name arguments body, c.builder.function = some F ∧ F ∈ ids ∧
      (s.cell F).label.kind ∉ Kind.edited ∧ (s.cell F).children = [name, arguments, some body] ∧
      s.Inside b body ∧ s.isContainer (some body) = true := by
  obtain ⟨F, body, hF, hmem, -, hkind, hthird, hinside, hblock⟩ :=
    (Touches.refl s (fun _ => True) s).function_earlier T.spans hb hstanding hdeclared
  obtain ⟨F', name, arguments, body', hF', hchildren, -⟩ :=
    Candidate.bodyOf_of_isConvertible (convertible_of_declaration hdeclared)
  rw [hF] at hF'
  cases hF'
  rw [hchildren] at hthird
  cases hthird
  exact ⟨F, name, arguments, body, hF, hmem, hkind, hchildren, hinside,
    Bool.or_eq_true_iff.mpr (Or.inr hblock)⟩

/-- The super calls of a class concern its container. -/
theorem Store.Becomes.concerns (h : s.Becomes options b declaring c) (T : PlainTree s root ids)
    (hb : b ∈ ids) (hcall : s.ClassCall b c t a) : s.Concerns b t ∧ s.Concerns b a := by
  obtain ⟨F, name, arguments, body, hF, -, -, hparts, hinside, hcontainer⟩ :=
    T.body hb h.standing h.declared
  obtain ⟨hkind, hkinda, k, -, -, hchildren, -⟩ := hcall.parts
  have ht := hcall.1
  rw [hF, bodyOf_eq hparts] at ht
  exact ⟨.called hinside hcontainer ⟨t, ht, hkind, Or.inl rfl⟩,
    .called hinside hcontainer ⟨t, ht, hkind, Or.inr ⟨by rw [hchildren]; simp, hkinda⟩⟩⟩

/-! ## What a visit made of a container -/

/-- The container `b` was visited: in the later store `f` its statements are rewritten, the classes are
there, and so are their super calls; nothing else that concerns it was edited. -/
structure Reworked (s f : Store) (options : Options) (b : TokenId)
    (classes : List (String × TokenId)) : Prop where
  names : ∀ name, name ∈ classes.map Prod.fst ↔ Converts s options (some b) name
  children : (f.cell b).children =
    (s.cell b).children.flatMap (s.replacement options (some b) classes)
  exported : ∀ p ∈ classes, ∀ e, some e ∈ (s.cell b).children →
    s.hasKind Kind.exportDecl (some e) = true → s.declares (some b) p.1 (some e) = true →
    (f.cell e).children = (s.cell e).children.set 0 (some p.2)
  declared : ∀ p ∈ classes, s.IsClassOf f options (some b) p
  called : ∀ declaring c, s.Becomes options b declaring c →
    ∀ t a, s.ClassCall b c t a → s.Called f t a
  still : ∀ u, s.Concerns b u → ¬ s.Edited options b u →
    (f.cell u).children = (s.cell u).children

namespace Reworked

/-- The visit of another container changes nothing of it. -/
theorem later (h : Reworked s f options b classes) (T : PlainTree s root ids)
    (hsize : s.size ≤ f.size) (hg : s.Touches (s.Concerns b') f g) (hb : b ∈ ids) (hb' : b' ∈ ids)
    (hcontainer : s.isContainer (some b) = true) (hcontainer' : s.isContainer (some b') = true)
    (hne : b' ≠ b) : Reworked s g options b classes := by
  have hsame : ∀ u, s.Concerns b u → (g.cell u).children = (f.cell u).children := by
    intro u hu
    refine hg.children ?_ fun hu' => hne ?_
    · exact Nat.lt_of_lt_of_le (T.spans.lt_size u (hu.mem T.spans hb)) hsize
    · exact hu'.unique hu T.spans T.nodup hb' hb hcontainer' hcontainer
  have hnew : ∀ u, s.size ≤ u → u < f.size → g.cell u = f.cell u := fun u hu hlt =>
    hg.cell hlt fun hu' => absurd (T.spans.lt_size u (hu'.mem T.spans hb')) (Nat.not_lt_of_le hu)
  exact {
    names := h.names
    children := by rw [hsame b (.own rfl), h.children]
    exported := fun p hp e he hexport hdeclares => by
      rw [hsame e (.exported he hexport), h.exported p hp e he hexport hdeclares]
    declared := fun p hp => by
      obtain ⟨declaring, hstanding, c, hc, hname, hdeclared⟩ := h.declared p hp
      exact ⟨declaring, hstanding, c, hc, hname, hdeclared.later hg.size_le fun u hu =>
        hnew u (mem_fresh.mp hu).1 (mem_fresh.mp hu).2⟩
    called := fun declaring c hc t a hcall => by
      obtain ⟨ht, ha⟩ := hc.concerns T hb hcall
      exact (h.called declaring c hc t a hcall).later (hsame t ht) (hsame a ha) hnew
    still := fun u hu hnot => by rw [hsame u hu, h.still u hu hnot] }

/-- A container has statements after its visit if it had some before: of those of a class, one
stays. -/
theorem isEmpty (h : Reworked s f options b classes) :
    (f.cell b).children.isEmpty = (s.cell b).children.isEmpty := by
  rw [h.children]
  -- without classes all statements stay, and otherwise the one that declares the first class does
  cases hclasses : classes with
  | nil =>
      have hself : ∀ st ∈ (s.cell b).children, s.replacement options (some b) [] st = [st] :=
        fun _ _ => rfl
      rw [List.flatMap_congr hself, List.flatMap_singleton']
  | cons p others =>
      obtain ⟨declaring, hstanding, c, hc, hname, -⟩ := h.declared p (hclasses ▸ List.mem_cons_self)
      have hstanding : declaring ∈ (s.cell b).children := hstanding
      have hdeclares : s.declares (some b) p.1 declaring = true := declares_iff.mpr ⟨c, hc, hname⟩
      have hfound : ((p :: others).find? fun p => s.declares (some b) p.1 declaring) = some p := by
        rw [List.find?_cons, hdeclares]
      have hstays : s.replacement options (some b) (p :: others) declaring ≠ [] := by
        rw [Store.replacement, hfound]
        simp
      have hsome : (s.cell b).children.flatMap (s.replacement options (some b) (p :: others)) ≠ [] :=
        fun hnil => hstays (List.flatMap_eq_nil_iff.mp hnil declaring hstanding)
      rw [List.isEmpty_eq_false_iff.mpr hsome,
        List.isEmpty_eq_false_iff.mpr (List.ne_nil_of_mem hstanding)]

end Reworked

end ClassLift
