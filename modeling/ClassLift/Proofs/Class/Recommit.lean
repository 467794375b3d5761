import ClassLift.Proofs.Class.Repeated
import ClassLift.Proofs.Class.Settled

set_option autoImplicit false

/-! # A candidate is committed once

Nothing in a candidate says that it was committed. That it is not committed twice comes of the
replacement: the statement to be replaced does not stand in its parent any more. Before this is found
out the class is declared once more, and this must not change a token either. It does not, as long as
no statement was taken out of a token that decides how the class is declared (`Candidate.Detached`,
`Candidate.commit_once`); else it can (`Candidate.recommit_converts`).
-/

namespace ClassLift

open List Store

variable {s s₁ s₂ s' : Store} {c : Candidate} {f b t u : TokenId} {a : Slot} {slots : List Slot}

namespace Candidate

/-- The tokens out of which a commit takes statements. -/
def parents (c : Candidate) : List Slot :=
  c.parent :: c.inheritance.map Prod.fst ++
    (c.methods.filter fun m => m.statement.isSome).map Method.parent

/-- The tokens whose comments are copied for the class and its members. -/
def annotated (c : Candidate) : List Slot :=
  c.commented ++ (c.builder :: c.methods).flatMap Method.commented

/-- A candidate whose tokens stand in an unshared forest, each at one place, and whose super class does
not stand in the body of the constructor. -/
structure Unshared (c : Candidate) (s : Store) : Prop where
  forest : ∃ roots ids, Spans Cell.links s roots ids ∧ ids.Nodup ∧
    ∀ u, some u ∈ c.named ++ c.parents ++ c.removed → u ∈ ids
  outside : ∀ base f b, c.superClass = some base → c.builder.function = some f →
    (s.cell f).children[2]? = some (some b) → ¬ s.Reaches (some b) base

/-- The tokens that decide how the class is declared: the functions, and what tells the calls of the
super class. -/
inductive Consults (c : Candidate) (s : Store) (u : TokenId) : Prop where
  | function (m : Method) (mem : m ∈ c.builder :: c.methods) (eq : m.function = some u)
  | judges (h : s.Judges c.superClass (s.bodyOf c.builder.function) u)

/-- The token stands in a comment that is copied. -/
def Copies (c : Candidate) (s : Store) (u : TokenId) : Prop :=
  ∃ v comment ids, some v ∈ c.annotated ∧ comment ∈ (s.cell v).comments ∧
    Spans Cell.links s [comment] ids ∧ u ∈ ids

/-- What is taken out by a commit does not change how the class is declared, and the class does not get
into a comment that is copied for it. -/
structure Detached (c : Candidate) (s : Store) : Prop where
  consults : ∀ u, some u ∈ c.parents → ¬ c.Consults s u
  copies : ∀ u, some u = c.parent → ¬ c.Copies s u

/-- A commit stops because the statement to be replaced is not found, and changes no token. -/
def IsRefused (c : Candidate) (s : Store) : Prop :=
  ∃ p st s', c.parent = some p ∧ c.statement = some st ∧
    c.commit.run.run s =
      (.error (.statement (s.cell st).label (.notFound (s.cell p).label.kind)), s') ∧
    ∀ u < s.size, s'.cell u = s.cell u

/-! ## What is named -/

theorem bodyOf_of_parts (h : c.builder.Parts s f a b) :
    s.bodyOf c.builder.function = (s.cell b).children := by
  have hthird : (s.children c.builder.function)[2]? = some (some b) := by
    rw [h.function]
    exact h.body
  rw [bodyOf, hthird]
  rfl

theorem named_of_annotated {v : Slot} (hv : v ∈ c.annotated) : v ∈ c.named := by
  simp only [annotated, named, List.mem_append, List.mem_cons, List.mem_flatMap] at hv ⊢
  rcases hv with hv | ⟨m, hm, hv⟩
  · exact Or.inl (Or.inr hv)
  · exact Or.inr ⟨m, hm, Or.inr hv⟩

theorem named_of_function {m : Method} (hm : m ∈ c.builder :: c.methods) : m.function ∈ c.named :=
  List.mem_append_right _ (List.mem_flatMap.mpr ⟨m, hm, List.mem_cons_self⟩)

theorem parent_mem_parents : c.parent ∈ c.parents := List.mem_append_left _ List.mem_cons_self

namespace Unshared

/-- What is named, and what holds the statements, is found in an unshared forest. -/
theorem found (h : c.Unshared s) : ∃ roots ids, Spans Cell.links s roots ids ∧ ids.Nodup ∧
    (∀ u, some u ∈ c.named → u ∈ ids) ∧ ∀ u, some u ∈ c.parents → u ∈ ids := by
  obtain ⟨roots, ids, hspans, hn, hall⟩ := h.forest
  exact ⟨roots, ids, hspans, hn, fun u hu => hall u (List.mem_append_left _ (List.mem_append_left _ hu)),
    fun u hu => hall u (List.mem_append_left _ (List.mem_append_right _ hu))⟩

theorem parents_lt (h : c.Unshared s) (hu : some u ∈ c.parents) : u < s.size := by
  obtain ⟨_, _, hspans, -, -, hparents⟩ := h.found
  exact hspans.lt_size u (hparents u hu)

theorem named_lt (h : c.Unshared s) (hu : some u ∈ c.named) : u < s.size := by
  obtain ⟨_, _, hspans, -, hnamed, -⟩ := h.found
  exact hspans.lt_size u (hnamed u hu)

theorem superClass_spans (h : c.Unshared s) : ∃ supers, Spans Cell.children s [c.superClass] supers := by
  obtain ⟨_, _, hspans, hn, hnamed, -⟩ := h.found
  cases hsuper : c.superClass with
  | none => exact ⟨[], .absent .nil⟩
  | some base =>
      obtain ⟨own, hown, -⟩ := hspans.children_at hn (hnamed base (by simp [named, hsuper]))
      exact ⟨_, hown⟩

/-- The statements of the constructor are an unshared forest, and stand below the body and the function. -/
theorem body_spans (h : c.Unshared s) (hparts : c.builder.Parts s f a b) :
    ∃ ids, Spans Cell.links s (s.cell b).children ids ∧ ids.Nodup ∧ f ∉ ids ∧ b ∉ ids := by
  obtain ⟨_, _, hspans, hn, hnamed, -⟩ := h.found
  have hf := hnamed f (hparts.function ▸ named_of_function List.mem_cons_self)
  obtain ⟨below, hall, hinfix⟩ := hspans.below_mem hf
  obtain ⟨-, _, he, hbelow⟩ := hall.of_singleton
  cases he
  have hb : b ∈ below :=
    hbelow.root_mem (List.mem_append_left _ (List.mem_of_getElem? hparts.body))
  obtain ⟨_, hall', hinfix'⟩ := hbelow.below_mem hb
  obtain ⟨-, _, he, hlinks⟩ := hall'.of_singleton
  cases he
  obtain ⟨ids, comments, rfl, hids, -⟩ := hlinks.of_append
  obtain ⟨hfnot, hnbelow⟩ := List.nodup_cons.mp (hn.sublist hinfix.sublist)
  obtain ⟨hbnot, hnlinks⟩ := List.nodup_cons.mp (hnbelow.sublist hinfix'.sublist)
  refine ⟨ids, hids, (List.nodup_append.mp hnlinks).1, fun hmem => ?_, fun hmem => ?_⟩
  · exact hfnot (hinfix'.subset (List.mem_cons_of_mem _ (List.mem_append_left _ hmem)))
  · exact hbnot (List.mem_append_left _ hmem)

/-- The calls of the super class in the constructor are converted once and for all. -/
theorem settled (h : c.Unshared s) (hparts : c.builder.Parts s f a b) :
    ∃ s₁, ((s.cell b).children.forM (convertSuperCall c.superClass)).run.run s = (.ok (), s₁) ∧
      Exact s s₁ c.superClass (s.cell b).children ∧
      ∀ u, s.Reaches c.superClass u → s₁.cell u = s.cell u := by
  obtain ⟨_, _, hspans, hn, hnamed, -⟩ := h.found
  have hf := hnamed f (hparts.function ▸ named_of_function List.mem_cons_self)
  refine convertSuperCalls_settled hspans hn
    (hspans.link_mem hf (List.mem_append_left _ (List.mem_of_getElem? hparts.body))) fun base hbase => ?_
  exact ⟨hnamed base (by simp [named, hbase]), h.outside base f b hbase hparts.function hparts.body⟩

end Unshared

/-! ## After a commit -/

/-- A commit was done: the calls were converted, which gave the store `s₁`, the class was declared as the
token `t`, in the store `s₂`, and then statements were replaced and taken out. -/
structure Committed (c : Candidate) (s s₁ s₂ s' : Store) (f : TokenId) (a : Slot) (b t : TokenId) :
    Prop where
  unshared : c.Unshared s
  detached : c.Detached s
  parts : c.builder.Parts s f a b
  exact : Exact s s₁ c.superClass (s.cell b).children
  superClass : ∀ u, s.Reaches c.superClass u → s₁.cell u = s.cell u
  steps : c.Steps s s₁ s₂ b t
  rearranged : s₂.Rearranges s' (fun u => some u ∈ c.parents)
    fun u slot => some u = c.parent ∧ slot = some t

namespace Committed

variable (h : c.Committed s s₁ s₂ s' f a b t)

include h

theorem later (hu : u < s.size) : u < s₁.size := Nat.lt_of_lt_of_le hu h.exact.frame.size_le

theorem size_le : s₁.size ≤ s'.size := by
  rw [h.rearranged.size]
  exact h.steps.made.size_le

theorem label (hu : u < s₁.size) : (s'.cell u).label = (s₁.cell u).label :=
  (h.rearranged.label u).trans (h.steps.made.label u hu)

theorem comments (hu : u < s.size) : (s'.cell u).comments = (s.cell u).comments := by
  rw [h.rearranged.comments u, h.steps.made.comments u (h.later hu), h.exact.frame.comments u hu]

/-- A token that decides how the class is declared is as it was when the class was made. -/
theorem consulted (hu : u < s₁.size) (hread : c.Consults s u) : s'.cell u = s₁.cell u :=
  (h.rearranged.others u fun hparent => h.detached.consults u hparent hread).trans
    (h.steps.made.cell hu id)

/-- Apart from the token that holds the class, no token has got another link. -/
theorem links_subset (hu : u < s₁.size) (hnot : some u ≠ c.parent) :
    ∀ slot ∈ (s'.cell u).links, slot ∈ (s₁.cell u).links := by
  intro slot hslot
  rw [← h.steps.made.cell hu id]
  rcases List.mem_append.mp hslot with hslot | hslot
  · exact List.mem_append_left _ ((h.rearranged.kept u slot hslot).resolve_right fun hnew => hnot hnew.1)
  · rw [h.rearranged.comments u] at hslot
    exact List.mem_append_right _ hslot

/-- Neither the function of the constructor nor its body is a call in it. -/
theorem unedited : s₁.cell f = s.cell f ∧ s₁.cell b = s.cell b := by
  obtain ⟨ids, hids, -, hf, hb⟩ := h.unshared.body_spans h.parts
  obtain ⟨ids', hids', hsub⟩ := hids.restrict Cell.children_sublist_links
  exact ⟨h.exact.cell_eq hids' h.parts.lt fun hmem => hf (hsub.subset hmem),
    h.exact.cell_eq hids' h.parts.body_lt fun hmem => hb (hsub.subset hmem)⟩

theorem body_cell : s₂.cell b = s.cell b := by
  rw [h.steps.made.cell (h.later h.parts.body_lt) id, h.unedited.2]

/-- The constructor still has its parts. -/
theorem builder_parts : c.builder.Parts s' f a b := by
  have hread : c.Consults s f := .function c.builder List.mem_cons_self h.parts.function
  have hcell : s'.cell f = s.cell f := (h.consulted (h.later h.parts.lt) hread).trans h.unedited.1
  have hlabel : (s'.cell b).label = (s.cell b).label := by rw [h.rearranged.label b, h.body_cell]
  exact ⟨h.parts.function, Nat.lt_of_lt_of_le (h.later h.parts.lt) h.size_le,
    by rw [hcell]; exact h.parts.arguments, by rw [hcell]; exact h.parts.body,
    by rw [hlabel]; exact h.parts.block⟩

/-- No statement of the constructor is a call of the super class. -/
theorem quiet : ∀ slot ∈ (s'.cell b).children, superCall? s' c.superClass slot = none := by
  obtain ⟨ids, hids, hn, -⟩ := h.unshared.body_spans h.parts
  obtain ⟨supers, hsupers⟩ := h.unshared.superClass_spans
  intro slot hslot
  rcases h.rearranged.kept b slot hslot with hold | hnew
  · rw [h.body_cell] at hold
    refine h.exact.none_later hids hn hsupers (fun u hu => h.superClass u (hsupers.reaches hu)) h.size_le
      (fun u => h.label) (fun u hu hread => ?_) hold
    exact h.consulted hu (.judges (bodyOf_of_parts h.parts ▸ hread))
  · -- the class itself is no call
    cases hcall : superCall? s' c.superClass slot with
    | none => rfl
    | some parts =>
        obtain ⟨-, -, -, -, -, -, -, -, hkind, -⟩ := superCall_eq_some hcall
        rw [hnew.2, hasKind_some, h.rearranged.label t, h.steps.kind] at hkind
        exact absurd hkind (by decide)

/-- A comment that was copied can be copied again. -/
theorem comment_again {v : TokenId} {comment : Slot} (hv : some v ∈ c.annotated)
    (hcomment : comment ∈ (s.cell v).comments) (hcopied : s₁.Copied s₂ comment) :
    Stands (s'.Whole s'.size) comment := by
  obtain ⟨_, _, hspans, -, hnamed, -⟩ := h.unshared.found
  obtain ⟨s₃, hmade, hlater, hwhole⟩ := hcopied
  cases comment with
  | none =>
      rw [fullTree] at hwhole
      cases hsize : s₃.size <;> rw [hsize] at hwhole <;> cases hwhole
  | some k =>
      have hvmem := hnamed v (named_of_annotated hv)
      obtain ⟨below, hbelow, -⟩ :=
        hspans.below_mem (hspans.link_mem hvmem (List.mem_append_right _ hcomment))
      -- below the comment there are the tokens that were there, and words
      let Below : TokenId → Prop := fun u =>
        u ∈ k :: below ∨ s.size ≤ u ∧ u < s₁.size ∧ (s₁.cell u).links = []
      have hlt : ∀ u, Below u → u < s₁.size := fun u hu =>
        hu.elim (fun hu => h.later (hbelow.lt_size u hu)) fun hu => hu.2.1
      have hapart : ∀ u, Below u → some u ≠ c.parent := by
        rintro u (hu | ⟨hu, -, -⟩) hparent
        · exact h.detached.copies u hparent ⟨v, some k, _, hv, hcomment, hbelow, hu⟩
        · exact absurd (h.unshared.parents_lt (hparent ▸ parent_mem_parents)) (Nat.not_lt_of_le hu)
      have hclosed : ∀ u, Below u → ∀ w, some w ∈ (s₃.cell u).links → Below w := by
        intro u hu w hw
        rw [hmade.cell (hlt u hu) id] at hw
        rcases hu with hu | ⟨-, -, hnone⟩
        · exact h.exact.links_closed hbelow.lt_size (fun x hx y => hbelow.link_mem hx) hu hw
        · rw [hnone] at hw
          exact absurd hw List.not_mem_nil
      have hagain : s'.Whole s₃.size k := by
        refine whole_of_fullTree hclosed (fun u hu => ⟨?_, ?_⟩) (Or.inl List.mem_cons_self) hwhole
        · exact Nat.lt_of_lt_of_le (hlt u hu) h.size_le
        · rw [hmade.cell (hlt u hu) id]
          exact h.links_subset (hlt u hu) (hapart u hu)
      refine ⟨k, rfl, hagain.mono ?_⟩
      rw [h.rearranged.size]
      exact hlater.size_le

/-- Tokens whose comments were copied still have comments that can be copied. -/
theorem annotated_again (hslots : ∀ v ∈ slots, v ∈ c.annotated)
    (hdone : (Edit.copyComments slots).Done s₁ s₂) : ∀ v ∈ slots, s'.Annotated v := by
  obtain ⟨copies, s₃, s₄, hbefore, hrun, hafter⟩ := hdone
  intro slot hslot
  obtain ⟨v, rfl, hcopied⟩ := Edit.copyComments_copied hrun slot hslot
  have hv := h.unshared.named_lt (named_of_annotated (hslots _ hslot))
  refine ⟨v, rfl, Nat.lt_of_lt_of_le (h.later hv) h.size_le, fun comment hcomment => ?_⟩
  rw [h.comments hv] at hcomment
  have hmem : comment ∈ (s₃.cell v).comments := by
    rwa [hbefore.comments v (h.later hv), h.exact.frame.comments v hv]
  exact h.comment_again (hslots _ hslot) hcomment
    ((hcopied (Nat.lt_of_lt_of_le (h.later hv) hbefore.size_le) comment hmem).mono hbefore hafter)

/-- A method that was defined can be defined again. -/
theorem method_again {m : Method} (hm : m ∈ c.builder :: c.methods) (hdone : m.define.Done s₁ s₂) :
    m.HasParts s' ∧ ∀ v ∈ m.commented, s'.Annotated v := by
  obtain ⟨t, s₃, s₄, hbefore, hrun, hafter⟩ := hdone
  have hfunction : ∀ g, m.function = some g → g < s₃.size := fun g hg =>
    Nat.lt_of_lt_of_le (h.later (h.unshared.named_lt (hg ▸ named_of_function hm))) hbefore.size_le
  obtain ⟨⟨g, a, b, hparts⟩, hcopied⟩ := Method.parts_of_define hrun hfunction
  -- the parts were there when the method was defined, and nothing was taken out of its function since
  have hlater : Frame s₃ s₂ fun _ => False := ((Method.define_touching m s₃).frame hrun).extend hafter
  refine ⟨⟨g, a, b, (hparts.frame hlater id).rearranged h.rearranged fun hparent => ?_⟩, ?_⟩
  · exact h.detached.consults g hparent (.function m hm hparts.function)
  · refine h.annotated_again (fun v hv => ?_) (hcopied.mono hbefore hafter)
    exact List.mem_append_right _ (List.mem_flatMap.mpr ⟨m, hm, hv⟩)

/-- The class can be declared once more, without any edit. -/
theorem declared_again : ∃ t s'', c.declare.run.run s' = (.ok t, s'') ∧ Frame s' s'' fun _ => False := by
  have hmembers : ∀ m ∈ c.methods, m.HasParts s' ∧ ∀ v ∈ m.commented, s'.Annotated v := fun m hm =>
    h.method_again (List.mem_cons_of_mem _ hm) (h.steps.methods m hm)
  refine declare_again h.steps.present h.builder_parts h.quiet (fun hmore => ?_) hmembers
    (h.annotated_again (fun v => List.mem_append_left _) h.steps.comments)
  -- a body with statements has had some before
  have hbefore : (s.cell b).children ≠ [] := fun hempty =>
    hmore (h.rearranged.bare b (by rw [h.body_cell, hempty]))
  exact (h.method_again List.mem_cons_self (h.steps.builder hbefore)).2

end Committed

/-! ## Commits -/

/-- After the class is in its place, a commit takes statements out of their parents. -/
theorem takeOut_rearranges (hrun : (do
      c.inheritance.forM fun (parent, node) => Edit.replaceStatement parent node []
      c.methods.forM Method.remove : Edit Unit).run.run s = (.ok (), s')) :
    s.Rearranges s' (fun u => some u ∈ c.parents) fun _ _ => False := by
  obtain ⟨⟨⟩, s₁, hinherit, hmethods⟩ := run_run_bind_eq_ok.mp hrun
  have hremoved : ∀ {parent node : Slot} {x x' : Store}, parent ∈ c.parents →
      (Edit.replaceStatement parent node []).run.run x = (.ok (), x') →
      x.Rearranges x' (fun u => some u ∈ c.parents) fun _ _ => False := fun hparent hx =>
    (Edit.replaceStatement_rearranges hx).mono (fun u hu => hu ▸ hparent)
      fun u slot hnew => absurd hnew.2 List.not_mem_nil
  have hrelated : s.Rearranges s₁ (fun u => some u ∈ c.parents) fun _ _ => False := by
    refine Edit.forM_rearranges (fun q hq x x' hx => hremoved ?_ hx) hinherit
    exact List.mem_append_left _ (List.mem_cons_of_mem _ (List.mem_map_of_mem hq))
  refine hrelated.trans (Edit.forM_rearranges (fun m hm x x' hx => ?_) hmethods)
  unfold Method.remove at hx
  cases hstatement : m.statement with
  | none =>
      rw [hstatement] at hx
      cases hx
      exact .refl _ _ _
  | some st =>
      rw [hstatement] at hx
      refine hremoved (List.mem_append_right _ (List.mem_map_of_mem (List.mem_filter.mpr ⟨hm, ?_⟩))) hx
      rw [hstatement]
      rfl

/-- Once the class is declared, a commit replaces statements, and puts no other token than the class
anywhere. -/
theorem placed_rearranges
    (hreplace : (Edit.replaceStatement c.parent c.statement [some t]).run.run s₁ = (.ok (), s₂))
    (hrun : (do
      c.inheritance.forM fun (parent, node) => Edit.replaceStatement parent node []
      c.methods.forM Method.remove : Edit Unit).run.run s₂ = (.ok (), s')) :
    s₁.Rearranges s' (fun u => some u ∈ c.parents) fun u slot => some u = c.parent ∧ slot = some t := by
  have hin : s₁.Rearranges s₂ (fun u => some u ∈ c.parents)
      fun u slot => some u = c.parent ∧ slot = some t :=
    (Edit.replaceStatement_rearranges hreplace).mono (fun u hu => hu ▸ parent_mem_parents)
      fun u slot hnew => ⟨hnew.1, List.mem_singleton.mp hnew.2⟩
  exact hin.trans ((takeOut_rearranges hrun).mono (fun _ => id) fun _ _ => False.elim)

/-- What a commit did, and that the statement that was replaced is gone. -/
theorem committed_of_commit (h : c.Unshared s) (hdetached : c.Detached s)
    (hrun : c.commit.run.run s = (.ok (), s')) :
    ∃ s₁ s₂ f a b t, c.Committed s s₁ s₂ s' f a b t ∧
      ∃ p st, c.parent = some p ∧ c.statement = some st ∧ some st ∉ (s'.cell p).children := by
  unfold commit at hrun
  obtain ⟨t, s₂, hdeclare, hrun⟩ := run_run_bind_eq_ok.mp hrun
  obtain ⟨⟨⟩, s₃, hreplace, hrun⟩ := run_run_bind_eq_ok.mp hrun
  obtain ⟨f, a, b, s₁, hparts, hsteps⟩ := declare_steps hdeclare fun f hf =>
    h.named_lt (hf ▸ named_of_function List.mem_cons_self)
  obtain ⟨s₁', hcalls, hexact, hsuper⟩ := h.settled hparts
  rw [hsteps.calls] at hcalls
  cases hcalls
  have hcommitted : c.Committed s s₁ s₂ s' f a b t :=
    ⟨h, hdetached, hparts, hexact, hsuper, hsteps, placed_rearranges hreplace hrun⟩
  refine ⟨s₁, s₂, f, a, b, t, hcommitted, ?_⟩
  -- the statement stood in its parent at one place, and the class is another token
  obtain ⟨p, children, hp, hreplaced, rfl⟩ := Edit.replaceStatement_eq_ok hreplace
  obtain ⟨st, hst⟩ := Option.isSome_iff_exists.mp hsteps.present
  rw [hst] at hreplaced
  obtain ⟨before, after, hbefore, -, rfl⟩ := replaceFirst_eq_some hreplaced
  have hpparent : some p ∈ c.parents := hp ▸ parent_mem_parents
  have hplt := h.parents_lt hpparent
  have hpcell : s₂.cell p = s.cell p := by
    rw [hsteps.made.cell (hcommitted.later hplt) id,
      hexact.frame.cell hplt fun hpart => hdetached.consults p hpparent ?_]
    exact .judges (bodyOf_of_parts hparts ▸ hpart.judges)
  obtain ⟨_, _, hspans, hn, -, hparents⟩ := h.found
  rw [hpcell] at hbefore
  obtain ⟨hnotbefore, hnotafter⟩ := hspans.link_once hn (hparents p hpparent) hbefore
  have hne : st ≠ t := by
    rintro rfl
    exact absurd (hcommitted.later (h.named_lt (by simp [named, hst]))) (Nat.not_lt_of_le hsteps.fresh)
  refine ⟨p, st, hp, hst, (takeOut_rearranges hrun).not_mem ?_ id⟩
  rw [Store.cell_set_eq _ _ _ (Nat.lt_of_lt_of_le (hcommitted.later hplt) hsteps.made.size_le)]
  simp [hnotbefore, hnotafter, hne]

/-- **A candidate is committed once.** After a commit of an unshared candidate, a commit is refused
and changes no token, when the statements were not taken out of tokens that decide how the class is
declared. -/
theorem commit_once (h : c.Unshared s) (hdetached : c.Detached s)
    (hrun : c.commit.run.run s = (.ok (), s')) : c.IsRefused s' := by
  obtain ⟨s₁, s₂, f, a, b, t, hcommitted, p, st, hp, hst, hgone⟩ := committed_of_commit h hdetached hrun
  obtain ⟨t', s'', hdeclare, hframe⟩ := hcommitted.declared_again
  have hlt : ∀ u, u < s.size → u < s'.size := fun u hu =>
    Nat.lt_of_lt_of_le (hcommitted.later hu) hcommitted.size_le
  have hplt := hlt p (h.parents_lt (hp ▸ parent_mem_parents))
  have hstlt := hlt st (h.named_lt (by simp [named, hst]))
  refine ⟨p, st, s'', hp, hst, ?_, fun u hu => hframe.cell hu id⟩
  have hnot : some st ∉ (s''.cell p).children := by rwa [hframe.cell hplt id]
  unfold commit
  rw [run_run_bind_of_ok hdeclare, hp, hst,
    run_run_bind_of_error (Edit.replaceStatement_notFound hnot [some t']), hframe.label st hstlt,
    hframe.label p hplt]

/-- A file, token 29, with the function `Dog`, token 11, whose comment is token 30, and the statements
`util.inherits(Dog, Animal)`, token 18, and `Dog.prototype.bark = function() {}`, token 28. In the body of
`Dog` stands the call `Animal.call(this, name)`. -/
def dogFile : Store where
  cells := #[
    .fresh Kind.text "Dog" 2 9 [],
    .fresh Kind.text "name" 2 13 [],
    .fresh Kind.arguments "()" 2 12 [some 1],
    .fresh Kind.text "Animal" 3 4 [],
    .fresh Kind.memberName "call" 3 11 [],
    .fresh Kind.member "." 3 10 [some 3, some 4],
    .fresh Kind.keyword "this" 3 16 [],
    .fresh Kind.text "name" 3 22 [],
    .fresh Kind.arguments "()" 3 15 [some 6, some 7],
    .fresh Kind.call "" 3 15 [some 5, some 8],
    .fresh Kind.block "\x7b\x7d" 2 19 [some 9],
    { Cell.fresh Kind.functionDecl "function" 2 0 [some 0, some 2, some 10] with comments := [some 30] },
    .fresh Kind.text "util" 5 0 [],
    .fresh Kind.memberName "inherits" 5 5 [],
    .fresh Kind.member "." 5 4 [some 12, some 13],
    .fresh Kind.text "Dog" 5 14 [],
    .fresh Kind.text "Animal" 5 19 [],
    .fresh Kind.arguments "()" 5 13 [some 15, some 16],
    .fresh Kind.call "" 5 13 [some 14, some 17],
    .fresh Kind.text "Dog" 6 0 [],
    .fresh Kind.memberName "prototype" 6 4 [],
    .fresh Kind.member "." 6 3 [some 19, some 20],
    .fresh Kind.memberName "bark" 6 14 [],
    .fresh Kind.member "." 6 13 [some 21, some 22],
    .fresh Kind.text "Anonymous" 6 21 [],
    .fresh Kind.arguments "()" 6 29 [],
    .fresh Kind.block "\x7b\x7d" 6 32 [],
    .fresh Kind.anonymousFunction "function" 6 21 [some 24, some 25, some 26],
    .fresh Kind.assign "=" 6 19 [some 23, some 27],
    .fresh Kind.sourceFile "" 1 0 [some 11, some 18, some 28],
    .fresh "T_DOCUMENTATION" "/** a dog */" 1 0 []]

/-- The class `Dog` of the file. -/
def fileDog : Candidate where
  name := "Dog"
  builder := ⟨"constructor", some 11, some 11, [], some 29, ""⟩
  statement := some 11
  commented := [some 11]
  parent := some 29
  superClass := some 16
  methods := [⟨"bark", some 27, some 28, [some 28], some 29, ""⟩]
  inheritance := [(some 29, some 18)]

theorem dogFile_spans : ∃ ids, Spans Cell.links dogFile [some 29] ids ∧ ids.Nodup ∧ ∀ u < 31, u ∈ ids :=
  Spans.exists_of_preorder dogFile.size (by decide)

/-- The body of the constructor, the object of the call in it, the super class and the comment. -/
theorem dogFile_parts : Spans Cell.children dogFile [some 10] [10, 9, 5, 3, 4, 8, 6, 7] ∧
    Spans Cell.children dogFile [some 3] [3] ∧ Spans Cell.children dogFile [some 16] [16] ∧
    Spans Cell.links dogFile [some 30] [30] :=
  ⟨.of_preorder dogFile.size rfl, .of_preorder dogFile.size rfl, .of_preorder dogFile.size rfl,
    .of_preorder dogFile.size rfl⟩

theorem fileDog_unshared : fileDog.Unshared dogFile where
  forest := by
    obtain ⟨ids, hspans, hn, hall⟩ := dogFile_spans
    refine ⟨_, ids, hspans, hn, fun u hu => hall u ?_⟩
    have hnamed : ∀ slot ∈ fileDog.named ++ fileDog.parents ++ fileDog.removed,
        ∀ u, slot = some u → u < 31 := by
      decide
    exact hnamed _ hu u rfl
  outside base f b hbase hf hb hreach := by
    cases hbase
    cases hf
    cases hb
    exact absurd (dogFile_parts.1.mem_of_reaches hreach) (by decide)

/-- Statements are taken out of the file only. -/
theorem fileDog_detached : fileDog.Detached dogFile where
  consults u hu hread := by
    obtain rfl : u = 29 := by simpa [parents, fileDog] using hu
    obtain ⟨-, hobject, hsuper, -⟩ := dogFile_parts
    have hbody : dogFile.bodyOf fileDog.builder.function = [some 9] := rfl
    have hcall : ∀ {t a : TokenId} {object : Slot}, dogFile.CallsOn [some 9] t a object →
        a = 8 ∧ object = some 3 := by
      rintro t a object ⟨mem, -, k, name, hchildren, -, -, hparts, -⟩
      cases List.mem_singleton.mp mem
      cases hchildren
      cases hparts
      exact ⟨rfl, rfl⟩
    cases hread with
    | function m mem eq =>
        have hall : ∀ m ∈ fileDog.builder :: fileDog.methods, m.function ≠ some 29 := by decide
        exact hall m mem eq
    | judges h =>
        rw [hbody] at h
        cases h with
        | call mem kind => exact absurd mem (by decide)
        | callee t mem kind first =>
            cases List.mem_singleton.mp mem
            cases first
        | arguments t object calls => exact absurd (hcall calls).1 (by decide)
        | object t a object calls given found =>
            rw [(hcall calls).2] at found
            exact absurd (hobject.mem_of_reaches found) (by decide)
        | superClass t a object calls found => exact absurd (hsuper.mem_of_reaches found) (by decide)
  copies u hu hread := by
    obtain rfl : u = 29 := Option.some.inj hu
    obtain ⟨v, comment, ids, hv, hcomment, hids, hmem⟩ := hread
    have hall : ∀ slot ∈ fileDog.annotated, ∀ v, slot = some v →
        ∀ k ∈ (dogFile.cell v).comments, k = some 30 := by decide
    rw [hall _ hv v rfl comment hcomment] at hids
    rw [hids.unique dogFile_parts.2.2.2] at hmem
    exact absurd hmem (by decide)

theorem commit_once_dogFile :
    fileDog.Unshared dogFile ∧ fileDog.Detached dogFile ∧
      ∃ s', fileDog.commit.run.run dogFile = (.ok (), s') ∧ fileDog.IsRefused s' := by
  have hrun : fileDog.commit.run.run dogFile = _ := rfl
  exact ⟨fileDog_unshared, fileDog_detached, _, hrun,
    commit_once fileDog_unshared fileDog_detached hrun⟩

/-! ## Statements inside what is read -/

/-- A file, token 15, with the function `Part`, token 14, and in its body
`(function () { setup }).call(this, x)`. The statement `setup` is token 4, in the block 5. Outside
stands a function with an empty body, token 19. -/
def partFile : Store where
  cells := #[
    .fresh Kind.text "Part" 1 9 [],
    .fresh Kind.arguments "()" 1 13 [],
    .fresh Kind.text "Anonymous" 2 3 [],
    .fresh Kind.arguments "()" 2 12 [],
    .fresh Kind.text "setup" 2 17 [],
    .fresh Kind.block "\x7b\x7d" 2 15 [some 4],
    .fresh Kind.anonymousFunction "function" 2 3 [some 2, some 3, some 5],
    .fresh Kind.memberName "call" 2 28 [],
    .fresh Kind.member "." 2 27 [some 6, some 7],
    .fresh Kind.keyword "this" 2 33 [],
    .fresh Kind.text "x" 2 39 [],
    .fresh Kind.arguments "()" 2 32 [some 9, some 10],
    .fresh Kind.call "" 2 32 [some 8, some 11],
    .fresh Kind.block "\x7b\x7d" 1 16 [some 12],
    .fresh Kind.functionDecl "function" 1 0 [some 0, some 1, some 13],
    .fresh Kind.sourceFile "" 1 0 [some 14],
    .fresh Kind.text "Anonymous" 4 14 [],
    .fresh Kind.arguments "()" 4 23 [],
    .fresh Kind.block "\x7b\x7d" 4 26 [],
    .fresh Kind.anonymousFunction "function" 4 14 [some 16, some 17, some 18]]

/-- The class `Part`, whose super class is the function with the empty body. The statement `setup` goes
with the inheritance. -/
def part : Candidate where
  name := "Part"
  builder := ⟨"constructor", some 14, some 14, [], some 15, ""⟩
  statement := some 14
  commented := [some 14]
  parent := some 15
  superClass := some 19
  methods := []
  inheritance := [(some 5, some 4)]

theorem partFile_spans : ∃ ids, Spans Cell.links partFile [some 15, some 19] ids ∧ ids.Nodup ∧
    ∀ u < 20, u ∈ ids :=
  Spans.exists_of_preorder partFile.size (by decide)

theorem part_unshared : part.Unshared partFile where
  forest := by
    obtain ⟨ids, hspans, hn, hall⟩ := partFile_spans
    refine ⟨_, ids, hspans, hn, fun u hu => hall u ?_⟩
    have hnamed : ∀ slot ∈ part.named ++ part.parents ++ part.removed,
        ∀ u, slot = some u → u < 20 := by
      decide
    exact hnamed _ hu u rfl
  outside base f b hbase hf hb hreach := by
    cases hbase
    cases hf
    cases hb
    obtain ⟨body, hbody, hnot⟩ : ∃ body, Spans Cell.children partFile [some 13] body ∧ 19 ∉ body :=
      Spans.exists_of_preorder partFile.size (by decide)
    exact hnot (hbody.mem_of_reaches hreach)

/-- When a statement is taken out of what the constructor calls, the call can be one of the super class
afterwards. A second commit is refused, too, but not before the call has lost its argument `this`. -/
theorem recommit_converts :
    part.Unshared partFile ∧ ∃ s' s'', part.commit.run.run partFile = (.ok (), s') ∧
      part.commit.run.run s' =
        (.error (.statement (partFile.cell 14).label (.notFound Kind.sourceFile)), s'') ∧
      (s'.cell 11).children = [some 9, some 10] ∧ (s''.cell 11).children = [some 10] ∧
      ¬ part.IsRefused s' := by
  have hfirst : part.commit.run.run partFile = _ := rfl
  have hsecond : part.commit.run.run (part.commit.run.run partFile).2 = _ := rfl
  refine ⟨part_unshared, _, _, hfirst, hsecond, by decide, by decide, ?_⟩
  rintro ⟨p, st, s'', -, -, hrun, hsame⟩
  have hkept := hsame 11 (by decide)
  have hlater : s'' = (part.commit.run.run (part.commit.run.run partFile).2).2 := by
    rw [show part.commit.run.run (part.commit.run.run partFile).2 = _ from hrun]
  rw [hlater] at hkept
  exact absurd (congrArg Cell.children hkept) (by decide)

/-! ## Statements inside the functions -/

/-- A file, token 4, with the function `Part`, token 3. Outside stands a function, token 8, with the
argument list 6. -/
def runFile : Store where
  cells := #[
    .fresh Kind.text "Part" 1 9 [],
    .fresh Kind.arguments "()" 1 13 [],
    .fresh Kind.block "\x7b\x7d" 1 16 [],
    .fresh Kind.functionDecl "function" 1 0 [some 0, some 1, some 2],
    .fresh Kind.sourceFile "" 1 0 [some 3],
    .fresh Kind.text "Anonymous" 2 14 [],
    .fresh Kind.arguments "()" 2 23 [],
    .fresh Kind.block "\x7b\x7d" 2 26 [],
    .fresh Kind.anonymousFunction "function" 2 14 [some 5, some 6, some 7]]

/-- The class `Part`, with the outer function as the method `run`. What goes with the method is the
argument list. -/
def runningPart : Candidate where
  name := "Part"
  builder := ⟨"constructor", some 3, some 3, [], some 4, ""⟩
  statement := some 3
  commented := [some 3]
  parent := some 4
  superClass := none
  methods := [⟨"run", some 8, some 6, [], some 8, ""⟩]
  inheritance := []

theorem runningPart_unshared : runningPart.Unshared runFile where
  forest := by
    obtain ⟨ids, hspans, hn, hall⟩ : ∃ ids, Spans Cell.links runFile [some 4, some 8] ids ∧ ids.Nodup ∧
        ∀ u < 9, u ∈ ids := Spans.exists_of_preorder runFile.size (by decide)
    refine ⟨_, ids, hspans, hn, fun u hu => hall u ?_⟩
    have hnamed : ∀ slot ∈ runningPart.named ++ runningPart.parents ++ runningPart.removed,
        ∀ u, slot = some u → u < 9 := by
      decide
    exact hnamed _ hu u rfl
  outside base f b hbase := by cases hbase

/-- A statement must not be taken out of the function of a method: here it has no body any more where
one is looked for, and the second commit stops before the statement is looked for. -/
example : runningPart.Unshared runFile ∧
    (runningPart.commit.run.run runFile).1 = .ok () ∧
      (runningPart.commit.run.run (runningPart.commit.run.run runFile).2).1 = .error .missingChild :=
  ⟨runningPart_unshared, rfl, rfl⟩

/-! ## The class in a comment -/

/-- A note, token 6, whose comment, token 5, holds a file, token 4, with the function `Part`, token 3.
Outside stands an array with a gap, token 7. -/
def noteFile : Store where
  cells := #[
    .fresh Kind.text "Part" 2 9 [],
    .fresh Kind.arguments "()" 2 13 [],
    .fresh Kind.block "\x7b\x7d" 2 16 [],
    .fresh Kind.functionDecl "function" 2 0 [some 0, some 1, some 2],
    .fresh Kind.sourceFile "" 1 0 [some 3],
    .fresh "T_DOCUMENTATION" "/** note */" 5 0 [some 4],
    { Cell.fresh Kind.text "note" 6 0 [] with comments := [some 5] },
    .fresh "T_ARRAY" "[]" 8 0 [none]]

/-- The class `Part` of the file, with the comment of the note and the array as super class. -/
def notedPart : Candidate where
  name := "Part"
  builder := ⟨"constructor", some 3, some 3, [], some 4, ""⟩
  statement := some 3
  commented := [some 6]
  parent := some 4
  superClass := some 7
  methods := []
  inheritance := []

/-- The class must not get into a comment that is copied for it: here it brings a gap there, and the
second commit stops before the statement is looked for. -/
example :
    (notedPart.commit.run.run noteFile).1 = .ok () ∧
      (notedPart.commit.run.run (notedPart.commit.run.run noteFile).2).1 = .error .absentToken :=
  ⟨rfl, rfl⟩

end Candidate

end ClassLift
