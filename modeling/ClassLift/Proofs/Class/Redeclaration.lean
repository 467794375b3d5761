import ClassLift.Proofs.Class.ParentCalls

set_option autoImplicit false

/-! # A class is declared, and declared once more

The declaration of a class changes the body of the constructor in one way: the calls of the super
class that are direct statements become calls of `super` (`Candidate.Converted`). Afterwards no
statement is such a call any more. So the class can be declared once more, without any edit, and the
two declarations are made of the same parts (`Candidate.declare_twice`).
-/

namespace ClassLift

open List Store

variable {s s' s'' : Store} {t u k a : TokenId}

namespace Candidate

/-- The tokens that the candidate names. -/
def named (c : Candidate) : List Slot :=
  c.statement :: c.superClass.toList.map some ++ c.commented ++
    (c.builder :: c.methods).flatMap fun m => m.function :: m.commented

/-- A candidate whose tokens are part of an unshared forest without gaps. Its functions have blocks
as their bodies, and the super class does not stand in the body of the constructor. -/
structure Intact (c : Candidate) (s : Store) (f : TokenId) (a : Slot) (b : TokenId) : Prop where
  forest : ∃ roots ids, Spans Cell.links s roots ids ∧ ids.Nodup ∧
    (∀ u ∈ ids, none ∉ (s.cell u).links) ∧ ∀ slot ∈ c.named, Stands (· ∈ ids) slot
  builder : c.builder.Parts s f a b
  functions : ∀ m ∈ c.methods, ∃ f a b, m.Parts s f a b ∧ (s.cell f).label.kind ≠ Kind.arguments
  outside : ∀ supers ids, Spans Cell.children s [c.superClass] supers →
    Spans Cell.children s [some b] ids → ∀ u ∈ supers, u ∉ ids

/-- What the declaration of the class does to the body `b` of the constructor: the calls of the
super class become calls of `super`, and no other token is another afterwards. -/
structure Converted (c : Candidate) (s s' : Store) (b : TokenId) : Prop where
  statements : (s'.cell b).children = (s.cell b).children
  changed : ∀ t ids, some t ∈ (s.cell b).children → Spans Cell.links s [some t] ids →
    ((∃ u ∈ ids, s'.cell u ≠ s.cell u) ↔
      (∃ base, c.superClass = some base) ∧ ∃ k a, s.IsParentCall c.superClass t k a)
  becomes : ∀ t k a, some t ∈ (s.cell b).children → s.IsParentCall c.superClass t k a →
    s.BecomesSuper s' t k a
  others : ∀ u < s.size, ¬ s.ParentCallPart c.superClass (s.cell b).children u →
    s'.cell u = s.cell u
  done : ∀ t k a, some t ∈ (s.cell b).children → ¬ s'.IsParentCall c.superClass t k a

variable {c : Candidate} {f b : TokenId} {a : Slot}

/-- A class can be declared where all tokens named are whole and all functions have their parts. -/
theorem buildable_of_whole (hwhole : ∀ slot ∈ c.named, Stands (s.Whole s.size) slot)
    (hparts : ∀ m ∈ c.builder :: c.methods, m.HasParts s) : c.Buildable s where
  statement := by
    obtain ⟨t, ht, -⟩ := hwhole c.statement (by simp [named])
    rw [ht]
    rfl
  builder := hparts _ List.mem_cons_self
  methods m hm := hparts m (List.mem_cons_of_mem _ hm)
  commented v hv := by
    have hmem : v ∈ c.named := by
      simp only [named, List.mem_append, List.mem_cons, List.mem_flatMap] at hv ⊢
      rcases hv with (hv | hv) | ⟨m, hm, hv⟩
      · exact Or.inl (Or.inr hv)
      · exact Or.inr ⟨c.builder, Or.inl rfl, Or.inr hv⟩
      · exact Or.inr ⟨m, Or.inr hm, Or.inr hv⟩
    obtain ⟨t, rfl, ht⟩ := hwhole v hmem
    exact ht.annotated

/-- What is made of a later store is made of an earlier one in which the functions have their parts
already, as long as neither they nor the body of the constructor are edited in between. -/
theorem Makes.earlier (h : c.Makes s' s'' t) (hbuildable : c.Buildable s)
    (hparts : c.builder.Parts s f a b) {edited : TokenId → Prop} (hframe : Frame s s' edited)
    (hapart : c.FunctionsApart edited) (hbody : ¬ edited b) : c.Makes s s'' t := by
  obtain ⟨name, extends_, block, builder, others, hclass, hname, hextends, hblock, hlt, hbuilder,
    hothers⟩ := h
  have hlater : c.builder.Parts s' f a b :=
    hparts.frame hframe (hapart _ List.mem_cons_self f hparts.function)
  have hchildren : (s'.cell b).children = (s.cell b).children :=
    hframe.children b hparts.body_lt hbody
  refine ⟨name, extends_, block, builder, others, hclass, hname, hextends, hblock, hlt, ?_, ?_⟩
  · cases builder with
    | none =>
        obtain ⟨f', a', b', hparts', hempty⟩ := hbuilder
        obtain ⟨-, -, rfl⟩ := hlater.unique hparts'
        exact ⟨f, a, b, hparts, by rw [← hchildren, hempty]⟩
    | some u =>
        obtain ⟨⟨f', a', b', hparts', hmore⟩, hmakes⟩ := hbuilder
        obtain ⟨-, -, rfl⟩ := hlater.unique hparts'
        exact ⟨⟨f, a, b, hparts, by rwa [← hchildren]⟩,
          hmakes.earlier hbuildable.builder hframe (hapart _ List.mem_cons_self)⟩
  · refine ((List.forall₂_and_left _ _).mpr ⟨fun m hm => hm, hothers⟩).imp fun m u hm => ?_
    exact hm.2.earlier (hbuildable.methods m hm.1) hframe (hapart m (List.mem_cons_of_mem _ hm.1))

namespace Intact

/-- All that the candidate names can be copied. -/
theorem whole (h : c.Intact s f a b) : ∀ slot ∈ c.named, Stands (s.Whole s.size) slot := by
  obtain ⟨roots, ids, hspans, hn, hpresent, hnamed⟩ := h.forest
  intro slot hslot
  obtain ⟨t, rfl, ht⟩ := hnamed slot hslot
  exact ⟨t, rfl, (hspans.whole hpresent t ht).mono (hspans.length_le_size hn)⟩

theorem hasParts (h : c.Intact s f a b) : ∀ m ∈ c.builder :: c.methods, m.HasParts s := by
  intro m hm
  rcases List.mem_cons.mp hm with rfl | hm
  · exact ⟨f, a, b, h.builder⟩
  · obtain ⟨f', a', b', hparts, -⟩ := h.functions m hm
    exact ⟨f', a', b', hparts⟩

theorem buildable (h : c.Intact s f a b) : c.Buildable s :=
  buildable_of_whole h.whole h.hasParts

/-- The body of the constructor is an unshared tree without gaps. -/
theorem body_spans (h : c.Intact s f a b) : ∃ ids, Spans Cell.links s (s.cell b).children ids ∧
    (b :: ids).Nodup ∧ f ∉ ids ∧ ∀ u ∈ ids, none ∉ (s.cell u).links := by
  obtain ⟨roots, all, hspans, hn, hpresent, hnamed⟩ := h.forest
  obtain ⟨f', hf', hf⟩ := hnamed c.builder.function (by simp [named])
  obtain rfl := Option.some.inj (h.builder.function.symm.trans hf')
  obtain ⟨belowf, hspansf, hpartf⟩ := hspans.below_mem hf
  obtain ⟨-, below', he, hdown⟩ := hspansf.of_singleton
  cases he
  have hb : some b ∈ (s.cell f).links :=
    List.mem_append_left _ (List.mem_of_getElem? h.builder.body)
  have hbmem : b ∈ belowf := hdown.root_mem hb
  obtain ⟨belowb, hspansb, hpartb⟩ := hdown.below_mem hbmem
  obtain ⟨-, below', he, hlinks⟩ := hspansb.of_singleton
  cases he
  obtain ⟨ids, comments, rfl, hids, -⟩ := hlinks.of_append
  have hnf : (f :: belowf).Nodup := hn.sublist hpartf.sublist
  have hsub : b :: ids <+ belowf :=
    ((List.sublist_append_left ids comments).cons_cons b).trans hpartb.sublist
  refine ⟨ids, hids, (List.nodup_cons.mp hnf).2.sublist hsub, fun hmem => ?_, fun u hu => ?_⟩
  · exact (List.nodup_cons.mp hnf).1 (hsub.subset (List.mem_cons_of_mem _ hmem))
  · exact hpresent u (hpartf.subset (List.mem_cons_of_mem _
      (hsub.subset (List.mem_cons_of_mem _ hu))))

/-- So is the super class. -/
theorem superClass_spans (h : c.Intact s f a b) :
    ∃ supers, Spans Cell.children s [c.superClass] supers ∧ supers.Nodup := by
  obtain ⟨roots, all, hspans, hn, hpresent, hnamed⟩ := h.forest
  cases hsuper : c.superClass with
  | none => exact ⟨[], .absent .nil, List.nodup_nil⟩
  | some base =>
      obtain ⟨base', he, hbase⟩ := hnamed (some base) (by simp [named, hsuper])
      cases he
      obtain ⟨below, hbelow, hpart⟩ := hspans.below_mem hbase
      obtain ⟨ids, hids, hnids, -⟩ := hbelow.without_comments (hn.sublist hpart.sublist)
        fun u hu => hpresent u (hpart.subset hu)
      exact ⟨ids, hids, hnids⟩

/-- The functions are not edited: the constructor stands above the statements, the functions of
methods have more children than a call and are no argument lists. -/
theorem functionsApart (h : c.Intact s f a b) :
    c.FunctionsApart (s.ParentCallPart c.superClass (s.cell b).children) := by
  obtain ⟨ids, hids, -, hf, -⟩ := h.body_spans
  obtain ⟨ids', hids', hsub⟩ := hids.restrict Cell.children_sublist_links
  intro m hm g hg hpart
  rcases List.mem_cons.mp hm with rfl | hm
  · obtain rfl := Option.some.inj (h.builder.function.symm.trans hg)
    exact hf (hsub.subset (hpart.mem hids'))
  · obtain ⟨g', a', b', hparts, hkind⟩ := h.functions m hm
    obtain rfl := Option.some.inj (hparts.function.symm.trans hg)
    obtain ⟨t, k, list, -, hcall, rfl | rfl⟩ := hpart
    · have hbody := hparts.body
      rw [hcall.children] at hbody
      cases hbody
    · exact hkind hcall.arguments.1

end Intact

/-! ## What the conversion of the calls does -/

/-- Without gaps, a call is one of a super class that is there. -/
theorem superClass_of_isParentCall {list : TokenId} (hpresent : none ∉ (s.cell k).links)
    (h : s.IsParentCall c.superClass t k list) : ∃ base, c.superClass = some base := by
  obtain ⟨object, name, hchildren, -, -, halike⟩ := h.callee.2.2
  cases hsuper : c.superClass with
  | some base => exact ⟨base, rfl⟩
  | none =>
      cases object with
      | none => exact absurd (by simp [Cell.links, hchildren]) hpresent
      | some object =>
          rw [hsuper, Store.alike] at halike
          cases hsize : s.size <;> rw [hsize] at halike <;> cases halike

/-- A statement and what stands below it are edited only if the statement itself is a call. -/
theorem parentCall_of_part {statements : List Slot} {ids below : List TokenId} {superClass : Slot}
    (hspans : Spans Cell.links s statements ids) (hn : ids.Nodup) (ht : some t ∈ statements)
    (hbelow : Spans Cell.links s [some t] below) (hu : u ∈ below)
    (hpart : s.ParentCallPart superClass statements u) : ∃ k list, s.IsParentCall superClass t k list := by
  obtain ⟨t', k, list, ht', hcall, hu'⟩ := hpart
  have howner := hspans.spans_at ht'
  have hmem : u ∈ Spans.at_ Cell.links s (some t') := by
    have hroot : t' ∈ Spans.at_ Cell.links s (some t') := howner.root_mem List.mem_cons_self
    rcases hu' with rfl | rfl
    · exact hroot
    · exact howner.link_mem hroot (by simp [Cell.links, hcall.children])
  by_cases he : t = t'
  · subst he
    exact ⟨k, list, hcall⟩
  · rw [← Spans.at_eq hbelow] at hu
    have hne : (some t : Slot) ≠ some t' := fun h => he (Option.some.inj h)
    exact absurd hmem (hspans.at_disjoint hn ht ht' hne u hu)

/-- Once the calls are converted no statement is one any more, also after new tokens were made. -/
theorem Exact.none_left {s₁ : Store} (h : Exact s s₁ c.superClass (s.cell b).children)
    (hintact : c.Intact s f a b) (hlater : Frame s₁ s' fun _ => False) :
    ∀ slot ∈ (s.cell b).children, superCall? s' c.superClass slot = none := by
  obtain ⟨ids, hids, hn, -, hpresent⟩ := hintact.body_spans
  obtain ⟨ids', hids', -⟩ := hids.restrict Cell.children_sublist_links
  obtain ⟨supers, hsupers, hnsupers⟩ := hintact.superClass_spans
  have hbody : Spans Cell.children s [some b] (b :: ids') := .singleton hintact.builder.body_lt hids'
  have hsupers₁ : Spans Cell.children s₁ [c.superClass] supers := by
    refine hsupers.frame h.frame.size_le fun u hu => ?_
    rw [h.frame.cell (hsupers.lt_size u hu) fun hpart => ?_]
    exact hintact.outside supers _ hsupers hbody u hu (List.mem_cons_of_mem _ (hpart.mem hids'))
  intro slot hslot
  have hjudged : ∃ own, Spans Cell.children s₁ [slot] own := by
    cases slot with
    | none => exact ⟨[], .absent .nil⟩
    | some t =>
        have hwhole := hids.whole hpresent t (hids.root_mem hslot)
        obtain ⟨all, hall⟩ := (h.whole _ t hwhole).spans
        obtain ⟨own, hown, -⟩ := hall.restrict Cell.children_sublist_links
        exact ⟨own, hown⟩
  obtain ⟨own, hown⟩ := hjudged
  rw [← h.done slot hslot]
  refine superCall?_same hown hsupers₁ hnsupers hlater.size_le fun u hu => hlater.cell ?_ id
  rcases List.mem_append.mp hu with hu | hu
  · exact hown.lt_size u hu
  · exact hsupers₁.lt_size u hu

/-- The calls of the super class are converted. -/
theorem Exact.converted {s₁ : Store} (h : Exact s s₁ c.superClass (s.cell b).children)
    (hintact : c.Intact s f a b) (hlater : Frame s₁ s' fun _ => False) : c.Converted s s' b := by
  obtain ⟨ids, hids, hn, -, hpresent⟩ := hintact.body_spans
  obtain ⟨hb, hnids⟩ := List.nodup_cons.mp hn
  obtain ⟨ids', hids', hsub⟩ := hids.restrict Cell.children_sublist_links
  obtain ⟨supers, hsupers, hnsupers⟩ := hintact.superClass_spans
  have hsize := h.frame.size_le
  -- the rest of the declaration makes tokens only, so what the calls became is still so
  have hothers : ∀ u < s.size, ¬ s.ParentCallPart c.superClass (s.cell b).children u →
      s'.cell u = s.cell u := fun u hu hnot =>
    (hlater.cell (Nat.lt_of_lt_of_le hu hsize) id).trans (h.frame.cell hu hnot)
  have hbody : s'.cell b = s.cell b :=
    hothers b hintact.builder.body_lt fun hpart => hb (hsub.subset (hpart.mem hids'))
  have hbecomes : ∀ t k list, some t ∈ (s.cell b).children → s.IsParentCall c.superClass t k list →
      s.BecomesSuper s' t k list := by
    intro t k list ht hcall
    obtain ⟨⟨w, hw, hwlt, hword, hcell⟩, hlist⟩ := h.becomes t k list ht hcall
    have hmem : t ∈ ids := hids.root_mem ht
    have hlistmem : list ∈ ids := hids.link_mem hmem (by simp [Cell.links, hcall.children])
    have hkeep : ∀ u ∈ ids, s'.cell u = s₁.cell u := fun u hu =>
      hlater.cell (Nat.lt_of_lt_of_le (hids.lt_size u hu) hsize) id
    exact ⟨⟨w, hw, Nat.lt_of_lt_of_le hwlt hlater.size_le, by rw [hlater.cell hwlt id, hword],
      by rw [hkeep t hmem, hcell]⟩, by rw [hkeep list hlistmem, hlist]⟩
  refine ⟨by rw [hbody], fun t below ht hbelow => ⟨?_, ?_⟩, hbecomes, hothers, ?_⟩
  · rintro ⟨u, hu, hchanged⟩
    -- a changed token is part of a call of the super class
    have hpart : s.ParentCallPart c.superClass (s.cell b).children u :=
      Classical.byContradiction fun hnot => hchanged (hothers u (hbelow.lt_size u hu) hnot)
    obtain ⟨k, list, hcall⟩ := parentCall_of_part hids hnids ht hbelow hu hpart
    have hk : k ∈ ids := hids.link_mem (hids.root_mem ht) (by simp [Cell.links, hcall.children])
    exact ⟨superClass_of_isParentCall (hpresent k hk) hcall, k, list, hcall⟩
  · -- the function of the call is a new token
    rintro ⟨-, k, list, hcall⟩
    obtain ⟨⟨w, hw, -, -, hcell⟩, -⟩ := hbecomes t k list ht hcall
    refine ⟨t, hbelow.root_mem List.mem_cons_self, fun hsame => ?_⟩
    have hchildren : (s'.cell t).children = [some w, some list] := by rw [hcell]
    rw [hsame, hcall.children] at hchildren
    cases hchildren
    have hk : k ∈ ids := hids.link_mem (hids.root_mem ht) (by simp [Cell.links, hcall.children])
    exact absurd (hids.lt_size k hk) (Nat.not_lt_of_le hw)
  · intro t k list ht hcall
    have hnone := h.none_left hintact hlater (some t) ht
    rw [superCall_iff.mpr ⟨k, list, rfl, rfl, hcall⟩] at hnone
    cases hnone

/-! ## The two declarations -/

/-- In a store where no statement is a call of the super class, the statements are left as they are. -/
theorem convertSuperCalls_of_none {superClass : Slot} {statements : List Slot}
    (h : ∀ slot ∈ statements, superCall? s superClass slot = none) :
    (statements.forM (convertSuperCall superClass)).run.run s = (.ok (), s) := by
  induction statements with
  | nil => rfl
  | cons slot statements ih =>
      have hfirst := convertSuperCall_of_none (h slot List.mem_cons_self)
      have hrest := ih fun x hx => h x (List.mem_cons_of_mem _ hx)
      show (convertSuperCall superClass slot >>= fun _ =>
        statements.forM (convertSuperCall superClass)).run.run s = _
      rw [run_run_bind_of_ok hfirst, hrest]

/-- The class of a candidate without gaps and shared tokens is declared. Of the tokens that exist,
the declaration changes those calls of the super class that are statements of the constructor's
body. Then the class can be declared once more; this changes no token that exists, and the class is
alike to the first one. -/
theorem declare_twice (h : c.Intact s f a b) :
    ∃ t s', c.declare.run.run s = (.ok t, s') ∧ c.Converted s s' b ∧
      ∃ t' s'', c.declare.run.run s' = (.ok t', s'') ∧ (∀ u < s'.size, s''.cell u = s'.cell u) ∧
        s''.alike (some t) (some t') = true := by
  obtain ⟨ids, hids, hn, -, -⟩ := h.body_spans
  obtain ⟨hb, hnids⟩ := List.nodup_cons.mp hn
  obtain ⟨ids', hids', hsub⟩ := hids.restrict Cell.children_sublist_links
  obtain ⟨supers, hsupers, hnsupers⟩ := h.superClass_spans
  have hbody : Spans Cell.children s [some b] (b :: ids') := .singleton h.builder.body_lt hids'
  obtain ⟨s₁, hcalls, hexact⟩ := convertSuperCalls_exact hids' (hnids.sublist hsub) hsupers hnsupers
    fun u hu hmem => h.outside supers _ hsupers hbody u hu (List.mem_cons_of_mem _ hmem)
  have hnotbody : ¬ s.ParentCallPart c.superClass (s.cell b).children b := fun hpart =>
    hb (hsub.subset (hpart.mem hids'))
  -- a store in which the class can be declared, with the calls converted
  have hready : ∀ s₂, Frame s₁ s₂ (fun _ => False) → c.Buildable s₂ := by
    intro s₂ hlater
    refine buildable_of_whole (fun slot hslot => ?_) fun m hm => ?_
    · obtain ⟨t, rfl, ht⟩ := h.whole slot hslot
      exact ⟨t, rfl, ((hexact.whole _ t ht).frame hlater).mono
        (Nat.le_trans hexact.frame.size_le hlater.size_le)⟩
    · obtain ⟨f', a', b', hparts⟩ := h.hasParts m hm
      exact ⟨f', a', b', hparts.frame (hexact.frame.extend hlater)
        (h.functionsApart m hm f' hparts.function)⟩
  -- the first declaration
  obtain ⟨t, s', hdeclare, hlater, hmakes⟩ := declare_of_parts h.buildable h.builder hcalls
    hexact.frame h.functionsApart (hready s₁ (.refl _ _))
  have hframe := hexact.frame.extend hlater
  have hbuilder' : c.builder.Parts s' f a b :=
    h.builder.frame hframe (h.functionsApart _ List.mem_cons_self f h.builder.function)
  have hchildren : (s'.cell b).children = (s.cell b).children :=
    hframe.children b h.builder.body_lt hnotbody
  -- the second one
  have hcalls' : ((s'.cell b).children.forM (convertSuperCall c.superClass)).run.run s' =
      (.ok (), s') := by
    rw [hchildren]
    exact convertSuperCalls_of_none (hexact.none_left h hlater)
  have hready' := hready s' hlater
  obtain ⟨t', s'', hdeclare', hlater', hmakes'⟩ := declare_of_parts hready' hbuilder' hcalls'
    (.refl _ fun _ => False) (fun _ _ _ _ => id) hready'
  refine ⟨t, s', hdeclare, hexact.converted h hlater, t', s'', hdeclare',
    fun u hu => hlater'.cell hu id, ?_⟩
  have hearlier := hmakes'.earlier h.buildable h.builder hframe h.functionsApart hnotbody
  exact (hmakes.later hlater').alikeTo hearlier _

/-- `function Dog(name) { Animal.call(this, name) }`, token 11, the super class `Animal`, token 12,
and a method without statements, token 16. -/
def dogForest : Store where
  cells := #[
    .fresh Kind.text "Dog" 1 9 [],
    .fresh Kind.text "name" 1 13 [],
    .fresh Kind.arguments "()" 1 12 [some 1],
    .fresh Kind.text "Animal" 2 4 [],
    .fresh Kind.memberName "call" 2 11 [],
    .fresh Kind.member "." 2 10 [some 3, some 4],
    .fresh Kind.keyword "this" 2 16 [],
    .fresh Kind.text "name" 2 22 [],
    .fresh Kind.arguments "()" 2 15 [some 6, some 7],
    .fresh Kind.call "" 2 15 [some 5, some 8],
    .fresh Kind.block "\x7b\x7d" 1 19 [some 9],
    .fresh Kind.functionDecl "function" 1 0 [some 0, some 2, some 10],
    .fresh Kind.text "Animal" 4 30 [],
    .fresh Kind.text "Anonymous" 5 21 [],
    .fresh Kind.arguments "()" 5 29 [],
    .fresh Kind.block "\x7b\x7d" 5 32 [],
    .fresh Kind.anonymousFunction "function" 5 21 [some 13, some 14, some 15]]

/-- The class `Dog` with a method `bark`. -/
def dog : Candidate where
  name := "Dog"
  builder := ⟨"constructor", some 11, none, [], none, ""⟩
  statement := some 11
  commented := [some 11]
  parent := none
  superClass := some 12
  methods := [⟨"bark", some 16, none, [some 16], none, ""⟩]
  inheritance := []

theorem dogForest_body :
    Spans Cell.links dogForest [some 10] [10, 9, 5, 3, 4, 8, 6, 7] :=
  .of_preorder dogForest.size rfl

theorem dogForest_spans : Spans Cell.links dogForest [some 11, some 12, some 16]
    [11, 0, 2, 1, 10, 9, 5, 3, 4, 8, 6, 7, 12, 16, 13, 14, 15] :=
  .of_preorder dogForest.size rfl

theorem dog_intact : dog.Intact dogForest 11 (some 2) 10 where
  forest := by
    refine ⟨_, _, dogForest_spans, by decide, by decide, fun slot hslot => ?_⟩
    have hnamed : slot ∈ [some 11, some 12, some 11, some 11, some 16, some 16] := hslot
    simp only [List.mem_cons, List.not_mem_nil, or_false] at hnamed
    rcases hnamed with rfl | rfl | rfl | rfl | rfl | rfl <;> exact ⟨_, rfl, by decide⟩
  builder := ⟨rfl, by decide, rfl, rfl, rfl⟩
  functions := by
    intro m hm
    obtain rfl := List.mem_singleton.mp hm
    exact ⟨16, some 14, 15, ⟨rfl, by decide, rfl, rfl, rfl⟩, by decide⟩
  outside supers ids hsupers hids u hu hmem := by
    have hbase : Spans Cell.children dogForest [some 12] [12] := .singleton (by decide) .nil
    rw [hsupers.unique hbase] at hu
    obtain rfl := List.mem_singleton.mp hu
    obtain ⟨body, hbody, hsub⟩ := dogForest_body.restrict Cell.children_sublist_links
    rw [hids.unique hbody] at hmem
    exact absurd (hsub.subset hmem) (by decide)

theorem declare_twice_dog :
    ∃ t s', dog.declare.run.run dogForest = (.ok t, s') ∧ dog.Converted dogForest s' 10 ∧
      ∃ t' s'', dog.declare.run.run s' = (.ok t', s'') ∧ (∀ u < s'.size, s''.cell u = s'.cell u) ∧
        s''.alike (some t) (some t') = true :=
  declare_twice dog_intact

end Candidate

end ClassLift
