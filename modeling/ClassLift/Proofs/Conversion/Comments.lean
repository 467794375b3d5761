import ClassLift.Proofs.Class.Comments
import ClassLift.Proofs.Conversion.Permanence
import ClassLift.Proofs.Conversion.Takeover
import ClassLift.Proofs.Token.Nesting

set_option autoImplicit false

/-! # Comments are carried over once

When a function becomes a class, the comments of the node that declares it go before the class, and the
comments of the statements that give its methods go before these: each is copied once. No token of such
a comment is in the class itself, the tokens of the input keep their comments, and what else of the
input is in the class has its own comments there (`Conversion.visit_comments`).
-/

namespace ClassLift

open List

variable {s s' : Store} {options : Options} {block q t u v k : TokenId} {kind : Kind} {declaring : Slot}
  {ids ids' all made copied : List TokenId} {classes : List (String × TokenId)} {p : String × TokenId}
  {c : Candidate}

/-! ## The parts of a class -/

/-- A class, the body of a class or a method, if the token is one, belongs to the class `q`. -/
structure Store.PartOf (s' : Store) (q u : TokenId) : Prop where
  declaration : (s'.cell u).label.kind = Kind.classDecl → u = q
  body : (s'.cell u).label.kind = Kind.classBlock → some u ∈ (s'.cell q).children
  method : (s'.cell u).label.kind = Kind.method → some u ∈ s'.members q

namespace Novel

theorem partOf (h : Novel s s' block kind u) (hclass : kind = Kind.classDecl → u = q)
    (hbody : kind = Kind.classBlock → some u ∈ (s'.cell q).children)
    (hmethod : kind = Kind.method → some u ∈ s'.members q) : s'.PartOf q u where
  declaration he := hclass (h.label.symm.trans he)
  body he := hbody (h.label.symm.trans he)
  method he := hmethod (h.label.symm.trans he)

/-- A new token that is a single word, or a name. -/
theorem partOf_word (h : Novel s s' block kind u) (hk : kind = Kind.text ∨ kind = Kind.keyword) :
    s'.PartOf q u := by
  rcases hk with rfl | rfl <;>
    exact h.partOf (absurd · (by decide)) (absurd · (by decide)) (absurd · (by decide))

theorem partOf_self (h : Novel s s' block Kind.classDecl q) : s'.PartOf q q :=
  h.partOf (fun _ => rfl) (absurd · (by decide)) (absurd · (by decide))

/-- The children of a part of a class that are new are parts of the class. -/
theorem partOf_child (h : Novel s s' block kind u) (hq : Novel s s' block Kind.classDecl q)
    (hinside : ∀ w, s.Inside block w → w < s.size) (hpart : s'.PartOf q u)
    (hv : some v ∈ (s'.cell u).children) (hnew : s.size ≤ v) : s'.PartOf q v := by
  cases h with
  | leaf _ _ _ children =>
      rw [children] at hv
      cases hv
  | @extension _ base _ _ children inside _ =>
      rw [children, List.mem_singleton] at hv
      cases hv
      exact absurd hnew (Nat.not_le_of_lt (hinside _ inside))
  | @method _ name f _ _ children named inside convertible =>
      rw [children] at hv
      rcases List.mem_cons.mp hv with hv | hv
      · cases hv
        exact named.partOf_word (Or.inl rfl)
      · have hdown := inside.down (Store.isContainer_of_isConvertible convertible)
          (List.mem_of_mem_drop hv)
        exact absurd hnew (Nat.not_le_of_lt (hinside v hdown))
  | @body _ members _ label children parts =>
      have hmember : some v ∈ s'.members q := by
        -- the body is the third child of the class
        obtain ⟨name, extension, body, own, named, extended, filled⟩ := hq.declaration_parts
        have hu := hpart.body label
        rw [own] at hu
        have hbody : u = body := by
          simp only [List.mem_cons, Option.some.injEq, List.not_mem_nil, or_false] at hu
          rcases hu with rfl | rfl | rfl
          · exact absurd (named.label.symm.trans label) (by decide)
          · exact absurd (extended.label.symm.trans label) (by decide)
          · rfl
        rw [Store.members, own]
        exact hbody ▸ hv
      rw [children] at hv
      obtain ⟨w, hw, he⟩ := List.mem_map.mp hv
      cases he
      exact (parts v hw).partOf (absurd · (by decide)) (absurd · (by decide)) fun _ => hmember
  | @declaration _ name extension body _ label children named extended filled =>
      cases hpart.declaration label
      have hchild := hv
      rw [children] at hv
      simp only [List.mem_cons, Option.some.injEq, List.not_mem_nil, or_false] at hv
      rcases hv with rfl | rfl | rfl
      · exact named.partOf_word (Or.inl rfl)
      · exact extended.partOf_word (Or.inr rfl)
      · exact filled.partOf (absurd · (by decide)) (fun _ => hchild) (absurd · (by decide))

end Novel

/-- The members of a class stand below it, at different places. -/
theorem Candidate.Declared.among_members (h : c.Declared s s' q)
    (hspans : Spans Cell.children s' [some q] ids) :
    Among s' [some q] (some q :: s'.members q) ∧ none ∉ some q :: s'.members q := by
  obtain ⟨st, name, extends_, body, builder, others, comments, -, -, -, -, hown, -, -, hbody, -⟩ := h.parts
  have hchildren : s'.children (some q) = [some name, some extends_, some body] := by
    show (s'.cell q).children = _
    rw [hown]
    rfl
  have hmembers : s'.members q = s'.children (some body) := by
    rw [Store.members, hown]
    rfl
  have hnone : none ∉ s'.members q := by
    rw [hmembers]
    show none ∉ (s'.cell body).children
    rw [hbody]
    simp [Cell.fresh]
  obtain ⟨-, below, -, hbelow⟩ := hspans.of_singleton
  have hbelow : Spans Cell.children s' (s'.children (some q)) below := hbelow
  have hthird : Within s' (s'.children (some q)) [some body] := by
    refine .of_spans hbelow (List.singleton_sublist.mpr ?_).subperm
    rw [hchildren]
    simp
  obtain ⟨found, hfound, -⟩ := hthird.children
  rw [← hmembers] at hfound
  refine ⟨.cons hspans ((Among.self hfound hnone).within ?_), by simp [hnone]⟩
  rw [hmembers]
  exact hthird.children

namespace Converted

variable (h : Converted s s' options block classes all ids ids' made copied) (hp : p ∈ classes)

include h hp

theorem new_class : s.size ≤ p.2 := (h.rewrites.novel_class hp).new

/-- A class that a visit makes is found from the container. -/
theorem mem_class : p.2 ∈ ids' := by
  have hanchored : Anchored s' [block] p.2 :=
    h.rewrites.anchored (List.mem_singleton_self block) h.container.found hp
  have hmem : ∀ t, Anchored s' [block] t → t ∈ block :: ids' := by
    intro t ht
    induction ht with
    | visited mem => exact List.mem_singleton.mp mem ▸ List.mem_cons_self
    | child _ link _ ih => exact h.new_spans.link_mem ih link
  refine (List.mem_cons.mp (hmem p.2 hanchored)).resolve_left fun he => ?_
  exact absurd h.container.lt (Nat.not_lt_of_le (he ▸ h.new_class hp))

/-- What is reached from a class is found from the container, and if it is new, it is a part of the
class. -/
theorem partOf_reached (hu : s'.Reaches (some p.2) u) :
    u ∈ ids' ∧ s'.Leads p.2 u ∧ (s.size ≤ u → s'.PartOf p.2 u) := by
  have hclass := h.rewrites.novel_class hp
  have hinside : ∀ w, s.Inside block w → w < s.size := fun w hw =>
    h.container.found.lt_size w (h.container.mem_of_inside hw)
  obtain ⟨root, he, hpath⟩ := hu
  cases he
  induction hpath with
  | refl => exact ⟨h.mem_class hp, .refl, fun _ => hclass.partOf_self⟩
  | @tail u v _ hchild ih =>
      obtain ⟨hu, hlead, hpart⟩ := ih
      refine ⟨h.found.link_mem hu hchild, hlead.tail (List.mem_append_left _ hchild), fun hnew => ?_⟩
      by_cases hlt : u < s.size
      · rcases h.rewrites.child_of_old h.container (h.mem_ids hu hlt) hchild hnew with
          hword | ⟨hstatement, hexport, -⟩
        · exact hword.partOf_word (Or.inr rfl)
        · -- an export is a statement of the container, and no class leads there
          have houtside : s.Outside block u :=
            .of_container h.container.isContainer hstatement hexport (by decide)
          exact absurd hlead (h.not_outside (h.mem_class hp) (h.new_class hp) houtside).2
      · have hle := Nat.le_of_not_lt hlt
        obtain ⟨kind, hnovel⟩ := h.rewrites.novel h.container h.found h.sub u hu hle
        exact hnovel.partOf_child hclass hinside (hpart hle) hchild hnew

/-- In a class, only the class itself and its methods have comments that its other tokens did not have
before. -/
theorem comment_of_class (hu : s'.Reaches (some p.2) u) (hk : some k ∈ (s'.cell u).comments) :
    some u ∈ some p.2 :: s'.members p.2 ∨ (u < s.size ∧ some k ∈ (s.cell u).comments) := by
  obtain ⟨hmem, -, hpart⟩ := h.partOf_reached hp hu
  by_cases hlt : u < s.size
  · rw [h.rewrites.frame.comments u hlt] at hk
    exact Or.inr ⟨hlt, hk⟩
  have hle := Nat.le_of_not_lt hlt
  by_cases hkind : (s'.cell u).label.kind ∈ Kind.receiving
  · rcases List.mem_cons.mp hkind with hkind | hkind
    · rw [(hpart hle).declaration hkind]
      exact Or.inl List.mem_cons_self
    · exact Or.inl (List.mem_cons_of_mem _ ((hpart hle).method (List.mem_singleton.mp hkind)))
  · rw [h.offspring.bare u (h.mem_made hmem hle) hkind] at hk
    cases hk

/-- The class and its members are different tokens, and were made. -/
theorem members_subperm (hd : c.Declared s s' p.2) :
    some p.2 :: s'.members p.2 <+~ made.map some := by
  obtain ⟨below, hbelow, hpart⟩ := h.found.below_mem (h.mem_class hp)
  obtain ⟨hamong, hpresent⟩ := hd.among_members hbelow
  have hnodup : (p.2 :: below).Nodup := h.nodup_ids.sublist hpart.sublist
  refine List.subperm_of_subset (hamong.nodup hbelow hnodup) fun slot hslot => ?_
  obtain ⟨u, rfl⟩ : ∃ u, slot = some u := Option.ne_none_iff_exists'.mp fun he => hpresent (he ▸ hslot)
  refine List.mem_map_of_mem (h.mem_made (hpart.subset (hamong.mem hbelow hslot)) ?_)
  rcases List.mem_cons.mp hslot with hu | hu
  · cases hu
    exact h.new_class hp
  · exact (Store.mem_fresh.mp (hd.members_new hu)).1

/-- The comments of the class and its members are copies, no token of which stands at two places. -/
theorem members_comments (hd : c.Declared s s' p.2) :
    ∃ found, Spans Cell.links s' ((some p.2 :: s'.members p.2).flatMap s'.comments) found ∧
      found <+~ s.fresh s' := by
  have hcomments : (some p.2 :: s'.members p.2).flatMap s'.comments <+~
      (made.map some).flatMap s'.comments := subperm_flatMap (h.members_subperm hp hd) _
  rw [List.flatMap_map] at hcomments
  obtain ⟨found, hfound, hfoundsub⟩ := h.offspring.comments.subperm hcomments
  exact ⟨found, hfound, hfoundsub.trans
    ((List.sublist_append_right made copied).subperm.trans h.offspring.new)⟩

end Converted

/-! ## The comments of a class -/

/-- What becomes of comments when the function `p.1`, which the statement `declaring` declares, becomes
the class `p.2` with the constructor `builder`, if there is one, and the methods `others`. -/
structure Store.PassesComments (s s' : Store) (options : Options) (block : TokenId)
    (p : String × TokenId) (declaring : Slot) (builder : Option TokenId) (others : List TokenId) :
    Prop where
  placed : s'.Reaches (some block) p.2
  members : s'.members p.2 = (builder.toList ++ others).map some
  /-- The class has copies of the comments of the node that declares the function. -/
  own : s.CarriesOver [s.declaringNode declaring] s' (s'.cell p.2).comments
  /-- The constructor has none. -/
  bare : ∀ k ∈ builder,
    s'.isMethodNamed "constructor" (some k) = true ∧ (s'.cell k).comments = []
  /-- The others are the methods that the statements about the prototype give. -/
  methods : Forall₂ (fun m k => m.Defined s s' k)
    (s.methodsFor options (some block) p.1 (s.cell block).children) others
  /-- Each of them has copies of the comments of its nodes. -/
  given : Forall₂ (fun nodes k => s.CarriesOver nodes s' (s'.cell k).comments)
    (s.methodNodes options block p.1 (s.cell block).children) others
  /-- No node of the class occurs twice, and no comment on two of them. -/
  distinct : (s.commentNodes options block p.1 declaring (s.cell block).children).Nodup ∧
    ((s.commentNodes options block p.1 declaring (s.cell block).children).flatMap s.comments).Nodup
  /-- So before the class and its members, each of these comments has one copy. -/
  once : s.CarriesOver (s.commentNodes options block p.1 declaring (s.cell block).children) s'
    ((some p.2 :: s'.members p.2).flatMap s'.comments)
  /-- No comment of the input is placed anew: what the class does not have as a new comment, at itself
  or at a member, stays with the token of the input that had it. -/
  only : ∀ u k, s'.Reaches (some p.2) u → some k ∈ (s'.cell u).comments →
    (some u ∈ some p.2 :: s'.members p.2 ∧ s.size ≤ k) ∨ (u < s.size ∧ some k ∈ (s.cell u).comments)
  /-- The comments of the nodes themselves are not found from the class. -/
  apart : ∀ k, some k ∈
      (s.commentNodes options block p.1 declaring (s.cell block).children).flatMap s.comments →
    ¬ s'.Leads p.2 k

/-- The candidate with the super class and the methods that the statements give. -/
def Candidate.completed (c : Candidate) (s : Store) (options : Options) (block : TokenId) : Candidate :=
  { c with
    superClass := s.superClassOf c.name (s.cell block).children
    methods := s.methodsFor options (some block) c.name (s.cell block).children }

/-- The class `p.2` is made of what the container says of the function `p.1`, and has its comments. -/
structure Candidate.BecomesClass (c : Candidate) (s s' : Store) (options : Options) (block : TokenId)
    (p : String × TokenId) (declaring : Slot) : Prop where
  standing : declaring ∈ (s.cell block).children
  declaration : s.declaration? (some block) declaring = .ok (some c)
  named : c.name = p.1
  declared : (c.completed s options block).Declared s s' p.2
  commented : (c.completed s options block).Commented s s' p.2

/-- The comments before a class whose constructor has none, and before its members. -/
theorem Store.comments_of_members {builder : Option TokenId} {others : List TokenId}
    (hmembers : s'.members q = (builder.toList ++ others).map some)
    (hbare : ∀ k ∈ builder, (s'.cell k).comments = []) :
    (some q :: s'.members q).flatMap s'.comments =
      ((s'.cell q).comments :: others.map fun k => (s'.cell k).comments).flatten := by
  have hempty : builder.toList.flatMap (fun k => (s'.cell k).comments) = [] :=
    List.flatMap_eq_nil_iff.mpr fun k hk => hbare k (Option.mem_toList.mp hk)
  rw [hmembers, List.flatMap_cons, List.flatMap_map, List.flatMap_append, List.flatten_cons,
    ← List.flatMap_def]
  show (s'.cell q).comments ++ (builder.toList.flatMap (fun k => (s'.cell k).comments) ++
    others.flatMap fun k => (s'.cell k).comments) = _
  rw [hempty, List.nil_append]

namespace Converted

variable (h : Converted s s' options block classes all ids ids' made copied)
  (hc : c.BecomesClass s s' options block p declaring)

include h hc

/-- The nodes of a class stand at different places in the container. -/
theorem among_nodes (hpresent : ∀ u ∈ all, none ∉ (s.cell u).links) :
    Among s (s.cell block).children
      (s.commentNodes options block p.1 declaring (s.cell block).children) :=
  Store.among_commentNodes h.container.found h.container.nodup_ids h.container.present
    (fun u hu hnone => hpresent u (h.mem_all hu) (List.mem_append_left _ hnone)) hc.standing
    hc.declaration

/-- From a class, no comment of its nodes is found. -/
theorem not_comment_of_node (hp : p ∈ classes)
    (hk : some k ∈
      (s.commentNodes options block p.1 declaring (s.cell block).children).flatMap s.comments) :
    ¬ s'.Leads p.2 k := by
  obtain ⟨node, hnode, hk⟩ := List.mem_flatMap.mp hk
  cases node with
  | none => cases hk
  | some u =>
      have houtside := Store.outside_commentNodes h.container.isContainer h.container.present
        hc.standing hc.declaration hnode
      obtain ⟨hmem, hnot⟩ := h.not_outside (h.mem_class hp) (h.new_class hp) houtside
      exact h.not_comment (h.mem_class hp) (h.new_class hp) hmem hnot hk

/-- The comments of a class that a visit makes. -/
theorem passesComments (hpresent : ∀ u ∈ all, none ∉ (s.cell u).links) (hp : p ∈ classes) :
    ∃ builder others, s.PassesComments s' options block p declaring builder others := by
  obtain ⟨builder, others, hmembers, hbuilder, hmethods, hgiven⟩ := hc.commented.members_eq hc.declared
  rw [Candidate.completed, hc.named] at hmethods hgiven
  have hname : c.builder.name = "constructor" := Store.name_of_builder hc.declaration
  obtain ⟨hown, hnone⟩ := Store.commented_of_declaration hc.declaration
  have hclass : s.CarriesOver [s.declaringNode declaring] s' (s'.cell p.2).comments :=
    hown ▸ hc.commented.own
  have hbare : ∀ k ∈ builder, (s'.cell k).comments = [] := fun k hk =>
    Store.CarriesOver.eq_nil (hnone ▸ (hbuilder k hk).2)
  have hnodes : Forall₂ (fun nodes k => s.CarriesOver nodes s' (s'.cell k).comments)
      (s.methodNodes options block p.1 (s.cell block).children) others := by
    rw [← Store.commented_methodsFor, List.forall₂_map_left_iff]
    exact hgiven
  -- the class and its methods side by side
  have honce : s.CarriesOver (s.commentNodes options block p.1 declaring (s.cell block).children) s'
      ((some p.2 :: s'.members p.2).flatMap s'.comments) := by
    have hnew := h.members_comments hp hc.declared
    rw [Store.comments_of_members hmembers hbare] at hnew ⊢
    have hgroups : Forall₂ (fun nodes copies => s.CarriesOver nodes s' copies)
        ([s.declaringNode declaring] :: s.methodNodes options block p.1 (s.cell block).children)
        ((s'.cell p.2).comments :: others.map fun k => (s'.cell k).comments) :=
      .cons hclass (List.forall₂_map_right_iff.mpr hnodes)
    exact .flatten hgroups hnew
  have hamong := h.among_nodes hc hpresent
  have hfound := h.container.found
  obtain ⟨below, hbelow, hnbelow⟩ := h.statements_spans
  refine ⟨builder, others, h.new_spans.reaches (List.mem_cons_of_mem block (h.mem_class hp)), hmembers,
    hclass, fun k hk => ⟨?_, hbare k hk⟩, hmethods, hnodes,
    ⟨hamong.nodup hfound h.container.nodup_ids, ?_⟩, honce, fun u k hu hk => ?_,
    fun k hk => h.not_comment_of_node hc hp hk⟩
  · rw [(hbuilder k hk).1.isMethodNamed]
    exact beq_iff_eq.mpr hname
  · refine hamong.nodup_comments hfound hbelow hnbelow fun u hu hnone => ?_
    exact hpresent u (h.mem_all hu) (List.mem_append_right _ hnone)
  · refine (h.comment_of_class hp hu hk).imp_left fun hmem => ⟨hmem, ?_⟩
    obtain ⟨found, hfound, hfresh⟩ := honce.new
    exact (Store.mem_fresh.mp (hfresh.subset (hfound.root_mem (List.mem_flatMap.mpr ⟨_, hmem, hk⟩)))).1

end Converted

/-! ## The visit -/

namespace Conversion

variable {x x' : Converter} {parent : Slot} {result : Except Fault Unit} {kept : TokenId → Prop}

/-- A visit of an unshared container without gaps, with what is known of the container before and
after it. -/
theorem visit_converted (hsound : Sound s block ids kept) (hspans : Spans Cell.links s [some block] all)
    (hn : all.Nodup) (h : (visit (some block) parent).run.run (s, x) = (.ok (), (s', x'))) :
    ∃ (classes : List (String × TokenId)) (ids' made copied : List TokenId),
      x'.classes = x.classes ++ classes.map Prod.fst ∧
      Converted s s' x.options block classes all ids ids' made copied ∧
      ∀ p ∈ classes, ∃ c declaring, Candidate.BecomesClass c s s' x.options block p declaring := by
  have hc := hsound.container
  obtain ⟨candidates, waiting, x₁, -, -, -, hwaiting, hemerged, htransformable, hcommits, hclasses, -,
    hdistinct⟩ := visit_commits hc.found hc.nodup hc.lt hc.isContainer h
  obtain ⟨made, hmade, hprogress, hcommented⟩ := (Progress.start hc).commented hc hwaiting
    htransformable (fun p hp => hsound.canCopy (hemerged p hp)) hsound.kept (by simp) hcommits
  rw [List.nil_append] at hprogress hcommented
  have hentry : ∀ m ∈ made, Made.Emerged s x.options block m.entry := fun m hm =>
    hemerged _ (hmade ▸ List.mem_map_of_mem hm)
  rw [← hmade, List.map_map] at hclasses hdistinct
  obtain ⟨ids', hfound, hsub⟩ := hprogress.found
  have hold : Spans Cell.children s [some block] (block :: ids) := .singleton hc.lt hc.found
  -- the second account of the same visit, by what became of each token
  have hpresent : ∀ u ∈ block :: ids, none ∉ (s.cell u).children := by
    intro u hu
    rcases List.mem_cons.mp hu with rfl | hu
    · exact hc.present
    · exact hsound.present u hu
  obtain ⟨new, copied, -, hoffspring, -⟩ := visit_offspring hold.lt_size (hold.closed hpresent) hc.found
    hpresent (fun _ hu => hu) h
  refine ⟨made.map Made.named, ids', new, copied, ?_, ⟨hc, hspans, hn,
    hprogress.rewrites hc hentry hdistinct, hoffspring, hfound, hsub⟩, fun p hp => ?_⟩
  · rw [hclasses, List.map_map]
    rfl
  · obtain ⟨m, hm, rfl⟩ := List.mem_map.mp hp
    obtain ⟨d, d', he, hfinish, hdeclaration, hready⟩ := hentry m hm
    -- a candidate is the one that was declared, completed by the statements about it
    have hcompleted : m.candidate = { d.candidate.completed s x.options block with
        inheritance := m.candidate.inheritance } := by
      rw [show m.candidate = d'.finish from hfinish.symm, he.finish_eq]
      rfl
    have hname : d.candidate.name = m.candidate.name := by rw [hcompleted]; rfl
    have hdeclared := hprogress.declared m hm
    have hcomments := hcommented m hm
    rw [hcompleted] at hdeclared hcomments
    exact ⟨d.candidate, m.declaring, hready.standing, hdeclaration, hname,
      ⟨hdeclared.new, hdeclared.parts⟩, ⟨hcomments.own, hcomments.members⟩⟩

/-- In an unshared container without gaps, the comments of the functions and methods that a visit
converts are carried over to the classes once, and all tokens of the input keep their comments. -/
theorem visit_comments (hspans : Spans Cell.links s [some block] all) (hn : all.Nodup)
    (hpresent : ∀ u ∈ all, none ∉ (s.cell u).links) (hb : s.isContainer (some block) = true)
    (h : (visit (some block) parent).run.run (s, x) = (result, (s', x'))) :
    (∀ u < s.size, (s'.cell u).comments = (s.cell u).comments) ∧
      ∃ classes : List (String × TokenId), x'.classes = x.classes ++ classes.map Prod.fst ∧
        ∀ p ∈ classes, s.IsClassOf s' x.options (some block) p ∧
          ∃ declaring ∈ (s.cell block).children, s.declares (some block) p.1 declaring = true ∧
            ∃ builder others, s.PassesComments s' x.options block p declaring builder others := by
  obtain ⟨ids, hsound⟩ := hspans.sound hn hpresent hb
  rcases visit_container hsound parent x with
    ⟨s₁, x₁, hvisit⟩ | ⟨fault, x₁, hvisit, ⟨-, hclasses⟩, -⟩
  · rw [hvisit] at h
    cases h
    obtain ⟨classes, ids', made, copied, hclasses, hconverted, hbecomes⟩ :=
      visit_converted hsound hspans hn hvisit
    refine ⟨hconverted.rewrites.frame.comments, classes, hclasses, fun p hp => ?_⟩
    obtain ⟨c, declaring, hc⟩ := hbecomes p hp
    exact ⟨hconverted.rewrites.declared p hp, declaring, hc.standing,
      Store.declares_iff.mpr ⟨c, hc.declaration, hc.named⟩,
      hconverted.passesComments hc hpresent hp⟩
  · -- a visit that stops makes no class
    rw [hvisit] at h
    cases h
    exact ⟨fun _ _ => rfl, [], by rw [hclasses, List.map_nil, List.append_nil], by simp⟩

/-- `export function Point() { start }` with a comment at the function, and for its prototype a table
with the entry `constructor: Point` and the methods `norm` and `scale`, with comments at the statement
and at both methods. -/
def notedFile : Store where
  cells := #[
    .fresh Kind.text "Point" 2 16 [],
    .fresh Kind.arguments "()" 2 21 [],
    .fresh Kind.text "start" 2 26 [],
    .fresh Kind.block "\x7b\x7d" 2 24 [some 2],
    { Cell.fresh Kind.functionDecl "function" 2 7 [some 0, some 1, some 3] with
      comments := [some 24] },
    .fresh Kind.exportDecl "export" 2 0 [some 4],
    .fresh Kind.text "Point" 4 0 [],
    .fresh Kind.memberName "prototype" 4 6 [],
    .fresh Kind.member "." 4 5 [some 6, some 7],
    .fresh Kind.text "constructor" 5 2 [],
    .fresh Kind.text "Point" 5 15 [],
    .fresh Kind.binary ":" 5 13 [some 9, some 10],
    .fresh Kind.text "norm" 7 2 [],
    .fresh Kind.text "" 7 8 [],
    .fresh Kind.arguments "()" 7 16 [],
    .fresh Kind.block "\x7b\x7d" 7 19 [],
    .fresh Kind.anonymousFunction "function" 7 8 [some 13, some 14, some 15],
    { Cell.fresh Kind.binary ":" 7 6 [some 12, some 16] with comments := [some 26] },
    .fresh Kind.text "scale" 9 2 [],
    .fresh Kind.arguments "()" 9 7 [],
    .fresh Kind.block "\x7b\x7d" 9 10 [],
    { Cell.fresh Kind.functionDecl "function" 9 2 [some 18, some 19, some 20] with
      comments := [some 27] },
    .fresh Kind.object "\x7b\x7d" 4 18 [some 11, some 17, some 21],
    { Cell.fresh Kind.assign "=" 4 16 [some 8, some 22] with comments := [some 25] },
    .fresh "T_COMMENT" "// a point" 1 0 [],
    .fresh "T_COMMENT" "// methods" 3 0 [],
    .fresh "T_COMMENT" "// the length" 6 2 [],
    .fresh "T_COMMENT" "// by a factor" 8 2 [],
    .fresh Kind.sourceFile "" 1 0 [some 5, some 23]]

theorem notedFile_spans : ∃ all, Spans Cell.links notedFile [some 28] all ∧ all.Nodup :=
  Spans.exists_of_preorder notedFile.size (by decide)

theorem visit_comments_notedFile :
    ∃ all, Spans Cell.links notedFile [some 28] all ∧ all.Nodup ∧
      (∀ u ∈ all, none ∉ (notedFile.cell u).links) ∧ notedFile.isContainer (some 28) = true ∧
      ∃ s' x' p declaring builder others,
        (visit (some 28) none).run.run (notedFile, .start ⟨true, true⟩) = (.ok (), (s', x')) ∧
        p.1 = "Point" ∧ notedFile.PassesComments s' ⟨true, true⟩ 28 p declaring builder others := by
  obtain ⟨all, hspans, hn⟩ := notedFile_spans
  have hpresent : ∀ u < 29, none ∉ (notedFile.cell u).links := by decide
  have hresult : ((visit (some 28) none).run.run (notedFile, .start ⟨true, true⟩)).1 = .ok () := by
    decide +kernel
  have hmade : ((visit (some 28) none).run.run (notedFile, .start ⟨true, true⟩)).2.2.classes =
      ["Point"] := by decide +kernel
  obtain ⟨⟨s', x'⟩, hvisit⟩ := exists_of_fst hresult
  rw [hvisit] at hmade
  obtain ⟨-, classes, hclasses, hall⟩ := visit_comments hspans hn
    (fun u hu => hpresent u (hspans.lt_size u hu)) (by decide) hvisit
  have hnames : ["Point"] = classes.map Prod.fst := hmade.symm.trans hclasses
  have hmem : "Point" ∈ classes.map Prod.fst := hnames ▸ List.mem_cons_self
  obtain ⟨p, hp, hname⟩ := List.mem_map.mp hmem
  obtain ⟨-, declaring, -, -, builder, others, hpasses⟩ := hall p hp
  exact ⟨all, hspans, hn, fun u hu => hpresent u (hspans.lt_size u hu), by decide, s', x', p, declaring,
    builder, others, hvisit, hname, hpasses⟩

/-- The comments of this class and its methods come from the function, and then from the statement and
the two entries of the table that are functions. -/
example : notedFile.commentNodes ⟨true, true⟩ 28 "Point" (some 5) (notedFile.cell 28).children =
    [some 4, some 23, some 17, some 21] := by
  decide

end Conversion

end ClassLift
