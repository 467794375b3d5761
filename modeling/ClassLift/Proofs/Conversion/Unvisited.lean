import ClassLift.Proofs.Conversion.Course

set_option autoImplicit false

/-! # What a visit finds

In the course of some visits, a container that is still there and was not visited yet looks to its
visit as it did at the start (`Course.sameStatements`, `Course.classCall_iff`): it has the same
statements, of the same forms, and the same calls of super classes.

A statement may have changed all the same. It may itself have been made a super call of a class
around the container, but such calls say nothing about classes, before and after (`bare`). And the
containers inside it may have been visited, but what matters of these is only whether they are empty,
and that a visit does not change (`Reworked.isEmpty`).
-/

namespace ClassLift

open List Store

/-- The call `t` with the arguments `a` is one of those that the visits convert. -/
def Store.Converted (s : Store) (options : Options) (done : List TokenId) (t a : TokenId) : Prop :=
  ∃ b ∈ done, ∃ declaring c, s.Becomes options b declaring c ∧ s.ClassCall b c t a

variable {s f : Store} {options : Options} {root b t u v a : TokenId} {ids all done : List TokenId}
  {st declaring : Slot} {c : Candidate}

theorem Cell.LooksLike.of_children {x y : Cell} (hlabel : y.label = x.label)
    (hchildren : y.children = x.children) : x.LooksLike y where
  label := hlabel
  face := by rw [Cell.face, Cell.face, hlabel, hchildren]
  empty := by rw [hchildren]

namespace Course

variable (h : Course s options root ids f all done)

include h

theorem called (hc : s.Converted options done t a) (ht : t ∈ all) : s.Called f t a := by
  obtain ⟨b, hb, declaring, c, hbecomes, hcall⟩ := hc
  have hconcerns := (hbecomes.concerns h.tree (h.visited b hb).1 hcall).1
  obtain ⟨classes, hreworked⟩ := h.reworked_of_mem hb hconcerns ht
  exact hreworked.called declaring c hbecomes t a hcall

/-- Where something under a statement of the container is part of a super call, the call is the
statement. -/
theorem statement_of_call {b' : TokenId} (hb : Unvisited s ids done b)
    (hst : st ∈ (s.cell b).children) (hunder : s.Under st (some u)) (hb' : b' ∈ ids)
    (becomes : s.Becomes options b' declaring c) (call : s.ClassCall b' c t a)
    (part : u = t ∨ u = a) : st = some t := by
  have hspans := h.tree.spans
  have hinside : s.Inside b u := ⟨st, hst, hunder⟩
  obtain ⟨F, name, arguments, body, hF, -, -, hparts, hbodyInside, hbodyContainer⟩ :=
    h.tree.body hb' becomes.standing becomes.declared
  have hbody := hspans.mem_of_inside hb' hbodyInside
  obtain ⟨hcall, -, k, -, -, hchildren, -⟩ := call.parts
  have ht : some t ∈ (s.cell body).children := by
    have ht := call.1
    rwa [hF, bodyOf_eq hparts] at ht
  have hplain : s.isContainer (some t) = false := isContainer_of_hasKind hcall (by decide)
  have hcallInside : s.Inside b t := by
    rcases part with rfl | rfl
    · exact hinside
    · refine ((hspans.inside_parent h.tree.nodup hb.mem (hspans.link_mem hbody ht) hinside
        (by rw [hchildren]; simp)).resolve_left ?_).1
      rintro rfl
      exact absurd (hplain.symm.trans hb.isContainer) (by decide)
  -- so the call is a statement of this container
  obtain rfl : body = b :=
    hspans.container_of_child h.tree.nodup hb.mem hbody hbodyContainer hcallInside ht
  obtain ⟨below, hfound, hn⟩ := h.tree.below hb.mem
  refine hfound.under_unique (List.nodup_cons.mp hn).2 hst ht hunder ?_
  rcases part with rfl | rfl
  · exact .refl _ _
  · exact (Under.refl s _).tail hplain (by rw [Store.children, hchildren]; simp)

/-- What stands under a statement looks as it did, except for super calls. -/
theorem looksLike (hb : Unvisited s ids done b) (hst : st ∈ (s.cell b).children)
    (hplain : ∀ t a, st = some t → ¬ s.Converted options done t a) (hunder : s.Under st (some u))
    (hu : u ∈ all) : (s.cell u).LooksLike (f.cell u) := by
  have hspans := h.tree.spans
  have hinside : s.Inside b u := ⟨st, hst, hunder⟩
  have hmem := hspans.mem_of_inside hb.mem hinside
  have hlabel := h.touches.label (h.lt_size hmem)
  by_cases hconcern : ∃ b' ∈ done, s.Concerns b' u
  case neg =>
    refine .of_children hlabel ?_
    rw [h.cell hmem fun b' hb' hu' => hconcern ⟨b', hb', hu'⟩]
  obtain ⟨b', hb', hu'⟩ := hconcern
  obtain ⟨hmem', hcontainer'⟩ := h.visited b' hb'
  obtain ⟨classes, hreworked⟩ := h.reworked_of_mem hb' hu' hu
  by_cases hedited : s.Edited options b' u
  case neg => exact .of_children hlabel (hreworked.still u hu' hedited)
  cases hedited with
  | own he =>
      subst he
      have hkind := isContainer_some.mp hcontainer'
      refine ⟨hlabel, ?_, hreworked.isEmpty⟩
      rw [Cell.face, Cell.face, hlabel, if_pos hkind, if_pos hkind]
  | exported becomes =>
      -- the export would be a statement of two containers
      have he := hspans.container_of_child h.tree.nodup hb.mem hmem' hcontainer' hinside becomes.standing
      exact absurd (he ▸ hb') hb.new
  | @called declaring c t a becomes call part =>
      exact absurd ⟨b', hb', declaring, c, becomes, call⟩
        (hplain t a (h.statement_of_call hb hst hunder hmem' becomes call part))

/-- The container has the statements that it had, of the same forms. -/
theorem sameStatements (hb : Unvisited s ids done b) (hlive : b ∈ all) :
    SameStatements s f options b := by
  have hspans := h.tree.spans
  have hcell := h.cell_of_concerns hb (.own rfl)
  have hchild : ∀ t, some t ∈ (s.cell b).children → t ∈ all := fun t ht =>
    h.whole.link_mem hlive (by rwa [hcell])
  refine ⟨by rw [hcell], fun st hst => ?_, fun st hst kind => ?_⟩
  · by_cases hcall : ∃ t a, st = some t ∧ s.Converted options done t a
    · obtain ⟨t, a, rfl, hconverted⟩ := hcall
      have hcalled := h.called hconverted (hchild t hst)
      obtain ⟨b', hb', declaring, c, hbecomes, hcall⟩ := hconverted
      refine .of_bare hcall.bare (hcalled.bare ?_)
      rw [h.touches.hasKind_earlier hspans (hspans.link_mem hb.mem hst)]
      exact hcall.parts.1
    · have hplain : ∀ t a, st = some t → ¬ s.Converted options done t a := fun t a he hc =>
        hcall ⟨t, a, he, hc⟩
      have hlooks := fun u => h.looksLike (u := u) hb hst hplain
      obtain ⟨below, hfound, hn⟩ := h.tree.below hb.mem
      obtain ⟨at_, hat, hsub⟩ := hfound.sublist (List.singleton_sublist.mpr hst)
      obtain ⟨faces, hfaces, hsub'⟩ := hat.restrict Cell.face_sublist_children
      have hn' : faces.Nodup := (List.nodup_cons.mp hn).2.sublist (hsub'.trans hsub)
      refine SameFace.forms ⟨h.touches.size_le, faces, hfaces, hfaces.length_le_size hn', ?_⟩
      -- all of the statement that can be seen is still there
      suffices hall : ∀ u ∈ faces, s.Under st (some u) ∧ u ∈ all from
        fun u hu => hlooks u (hall u hu).1 (hall u hu).2
      refine hfaces.forall_of_links (fun u hu => ?_) fun p _ ⟨hunder, hp⟩ u hu => ?_
      · rw [List.mem_singleton] at hu
        subst hu
        exact ⟨.refl _ _, hchild u hst⟩
      · have hface := (hlooks p hunder hp).face
        have hplain : s.isContainer (some p) = false := by
          by_contra hc
          rw [Cell.face, if_pos (isContainer_some.mp (by simpa using hc))] at hu
          cases hu
        refine ⟨hunder.tail hplain ((s.cell p).face_sublist_children.subset hu), ?_⟩
        exact h.whole.link_mem hp ((f.cell p).face_sublist_children.subset (hface ▸ hu))
  · cases st with
    | none => rfl
    | some t => exact h.touches.hasKind_earlier hspans (hspans.link_mem hb.mem hst)

/-- A body that is still there has the calls of super classes that it had, and is empty if it was. -/
theorem body_later (hb : b ∈ ids) (hcontainer : s.isContainer (some b) = true) (hlive : b ∈ all) :
    (f.cell b).children.isEmpty = (s.cell b).children.isEmpty ∧
      ∀ t, s.Bare options (some b) (some t) → some t ∈ (s.cell b).children →
        some t ∈ (f.cell b).children := by
  by_cases hdone : b ∈ done
  · obtain ⟨classes, hreworked⟩ := h.reworked_of_mem hdone (.own rfl) hlive
    refine ⟨hreworked.isEmpty, fun t hbare ht => ?_⟩
    rw [hreworked.children]
    exact List.mem_flatMap.mpr ⟨some t, ht, by rw [hbare.replacement]; simp⟩
  · rw [h.cell_of_concerns ⟨hb, hcontainer, hdone⟩ (.own rfl)]
    exact ⟨rfl, fun t _ ht => ht⟩

/-- The body of a constructor is still there. -/
theorem body_mem (hb : Unvisited s ids done b) (hlive : b ∈ all)
    (hstanding : declaring ∈ (s.cell b).children)
    (hdeclared : s.declaration? (some b) declaring = .ok (some c)) :
    ∃ F name arguments body, c.builder.function = some F ∧ f.cell F = s.cell F ∧
      (s.cell F).children = [name, arguments, some body] ∧ s.Inside b body ∧
      s.isContainer (some body) = true ∧ body ∈ ids ∧ body ∈ all := by
  obtain ⟨F, name, arguments, body, hF, hmem, hkind, hparts, hinside, hbody⟩ :=
    h.tree.body hb.mem hstanding hdeclared
  have hsame := h.sameStatements hb hlive
  have hcell := h.touches.cell_of_kind (h.lt_size hmem) hkind
  refine ⟨F, name, arguments, body, hF, hcell, hparts, hinside, hbody,
    h.tree.spans.mem_of_inside hb.mem hinside, ?_⟩
  -- the function stands under the statement, now as before
  have hunder : f.Under declaring (some F) := by
    rw [← (hsame.forms declaring hstanding).declaration] at hdeclared
    exact hF ▸ under_of_declaration hdeclared
  rw [← hsame.children] at hstanding
  refine h.whole.link_mem (h.whole.mem_of_inside hlive ⟨declaring, hstanding, hunder⟩) (t := F) ?_
  rw [hcell, hparts]
  simp

theorem emptyBody_eq (hb : Unvisited s ids done b) (hlive : b ∈ all)
    (hstanding : declaring ∈ (s.cell b).children)
    (hdeclared : s.declaration? (some b) declaring = .ok (some c)) :
    f.emptyBody c.builder = s.emptyBody c.builder := by
  obtain ⟨F, name, arguments, body, hF, hcell, hparts, -, hbody, hmem, hbodyLive⟩ :=
    h.body_mem hb hlive hstanding hdeclared
  rw [Store.emptyBody_eq hF hparts, Store.emptyBody_eq hF (by rw [hcell, hparts])]
  exact (h.body_later hmem hbody hbodyLive).1

/-- The class has the super calls that it had. -/
theorem classCall_iff (hb : Unvisited s ids done b) (hlive : b ∈ all)
    (hc : s.Becomes options b declaring c) :
    f.ClassCall b c t a ↔ s.ClassCall b c t a := by
  have hspans := h.tree.spans
  have hsame := h.sameStatements hb hlive
  obtain ⟨F, name, arguments, body, hF, hcell, hparts, hinside, hbody, hmem, hbodyLive⟩ :=
    h.body_mem hb hlive hc.standing hc.declared
  have hparts' : (f.cell F).children = [name, arguments, some body] := by rw [hcell, hparts]
  -- a call in the body is as it was
  have hcall : some t ∈ (s.cell body).children → s.hasKind Kind.call (some t) = true →
      Candidate.superCall? f (s.superClassOf c.name (s.cell b).children) (some t) =
        Candidate.superCall? s (s.superClassOf c.name (s.cell b).children) (some t) := by
    intro ht hkind
    have hunedited : ∀ u, s.Concerns b u → (f.cell u).children = (s.cell u).children := fun u hu => by
      rw [h.cell_of_concerns hb hu]
    refine h.touches.frame.superCall?_eq (fun u _ hu => hu.2) hspans (hspans.link_mem hmem ht)
      (fun base hbase => h.tree.names_superClass hb.mem c.name hbase) ?_ fun a ha hkinda => ?_
    · exact hunedited t (.called hinside hbody ⟨t, ht, hkind, Or.inl rfl⟩)
    · exact hunedited a (.called hinside hbody ⟨t, ht, hkind, Or.inr ⟨ha, hkinda⟩⟩)
  unfold Store.ClassCall
  rw [hsame.superClassOf, hF]
  constructor
  · intro hf
    obtain ⟨hkind, -⟩ := hf.parts
    obtain ⟨ht, k, hf⟩ := hf
    rw [bodyOf_eq hparts'] at ht
    obtain ⟨ht, -, hkind⟩ := h.touches.child_earlier hspans hmem ht hkind (by decide)
    rw [hcall ht hkind] at hf
    exact ⟨bodyOf_eq hparts ▸ ht, k, hf⟩
  · intro hs
    obtain ⟨hkind, -⟩ := hs.parts
    have hbare : s.Bare options (some body) (some t) := hs.bare
    obtain ⟨ht, k, hs⟩ := hs
    rw [bodyOf_eq hparts] at ht
    refine ⟨bodyOf_eq hparts' ▸ (h.body_later hmem hbody hbodyLive).2 t hbare ht, k, ?_⟩
    rw [hcall ht hkind, hs]

end Course

end ClassLift
