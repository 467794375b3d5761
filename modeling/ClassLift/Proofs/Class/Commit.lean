import ClassLift.Proofs.Class.Declaration
import ClassLift.Proofs.Token.Replacements
import ClassLift.Proofs.Token.Touch

set_option autoImplicit false

/-! # Commits

A candidate that is ready (`Candidate.Ready`) is committed in one container: its declaration
gives way to the class, the statements that set up its methods and its inheritance go, and all
other statements stay in their order (`Ready.commit_of_declare`).
-/

namespace ClassLift

open List

namespace Store

variable {s : Store} {t : TokenId}

theorem not_holdsStatements_of_hasKind {kind : Kind} (h : s.hasKind kind (some t) = true)
    (hk : kind ∉ [Kind.sourceFile, Kind.block, Kind.exportDecl]) : ¬ s.HoldsStatements t := by
  have hkind := kind_of_hasKind h
  rwa [HoldsStatements, hkind]

end Store

/-! ## Removing statements -/

/-- Edits that remove statements of one parent, where there are any. -/
theorem Edit.forM_eq_removals {α : Type} (e : α → Edit Unit) (node : α → Slot) (xs : List α)
    {parent : TokenId}
    (he : ∀ x ∈ xs, e x = match node x with
      | none => pure ()
      | some t => replaceStatement (some parent) (some t) []) :
    xs.forM e =
      ((xs.filterMap node).map Replacement.removal).forM (Replacement.edit parent) := by
  induction xs with
  | nil => rfl
  | cons x xs ih =>
      have hx := he x List.mem_cons_self
      have hrest := ih fun y hy => he y (List.mem_cons_of_mem _ hy)
      show (e x >>= fun _ => xs.forM e) = _
      cases hnode : node x with
      | none =>
          rw [hnode] at hx
          rw [hx, hrest, List.filterMap_cons_none hnode]
          rfl
      | some t =>
          rw [hnode] at hx
          rw [hx, hrest, List.filterMap_cons_some hnode]
          rfl

/-- Statements of one parent are removed one after the other. -/
theorem Edit.removeAll_run {α : Type} (e : α → Edit Unit) (node : α → Slot) (xs : List α)
    {parent : TokenId} {s : Store}
    (he : ∀ x ∈ xs, e x = match node x with
      | none => pure ()
      | some t => replaceStatement (some parent) (some t) [])
    (hlt : parent < s.size) (hn : (s.cell parent).children.Nodup)
    (hnodes : (xs.filterMap node).Nodup)
    (hmem : ∀ t ∈ xs.filterMap node, some t ∈ (s.cell parent).children) :
    ∃ s', (xs.forM e).run.run s = (.ok (), s') ∧
      s.Alters s' parent
        ((s.cell parent).children.filter fun slot => slot ∉ (xs.filterMap node).map some) := by
  have hfit := Replacement.Fit.of_removals hn hnodes hmem
  refine ⟨_, by rw [forM_eq_removals e node xs he, hfit.forM_edit], ?_⟩
  rw [← Replacement.flatMap_removals]
  exact .set hlt _

namespace Candidate

variable {c : Candidate} {s s' : Store} {block : TokenId} {declaring : Slot}
  {ids : List TokenId}

/-! ## Candidates that are ready -/

/-- The statements that go when the class is made. -/
def removed (c : Candidate) : List Slot :=
  (c.inheritance.filterMap Prod.snd).map some ++ (c.methods.filterMap Method.statement).map some

/-- The links that the class takes over from statements that go: to its super class, and to the
argument lists and bodies of its methods. -/
def taken (c : Candidate) (s : Store) : List Slot :=
  c.superClass.toList.map some ++ c.methods.flatMap s.shared

/-- The candidate can be committed in the given container, where the statement `declaring`
declares it. -/
structure Ready (c : Candidate) (s : Store) (block : TokenId) (declaring : Slot) : Prop where
  standing : declaring ∈ s.children (some block)
  present : c.statement.isSome = true
  place : (c.parent = some block ∧ c.statement = declaring ∧
      s.hasKind Kind.exportDecl declaring = false) ∨
    (c.parent = declaring ∧ s.hasKind Kind.exportDecl declaring = true ∧
      ∃ rest, s.children declaring = c.statement :: rest)
  builder : s.isConvertible c.builder.function = .ok true
  methods : ∀ m ∈ c.methods, s.isConvertible m.function = .ok true
  inheritanceParents : ∀ p ∈ c.inheritance, p.1 = some block ∧ p.2.isSome = true
  methodParents : ∀ m ∈ c.methods, m.parent = some block
  removedOnce : c.removed.Nodup
  removedStanding : ∀ slot ∈ c.removed, slot ∈ s.children (some block)
  declaringStays : declaring ∉ c.removed
  /-- What the constructor takes over is found from the declaration. -/
  ownFound : Within s [c.statement] (s.shared c.builder)
  /-- What else the class takes over is found from the statements that go. -/
  takenFound : Within s c.removed (c.taken s)

/-- What stands in the place of the declaration when the class is the token `t`: the class, or
the export that now holds it. -/
def successor (c : Candidate) (declaring : Slot) (t : TokenId) : Slot :=
  if c.statement = declaring then some t else declaring

/-- What becomes of a statement when the class is the token `t`. -/
def rewritten (c : Candidate) (declaring : Slot) (t : TokenId) (slot : Slot) : List Slot :=
  if slot = declaring then [c.successor declaring t]
  else if slot ∈ c.removed then []
  else [slot]

/-- The tokens that a commit edits: the container, an export of the function, and super calls
in the constructor. -/
def Edits (s : Store) (block : TokenId) (declaring : Slot) (u : TokenId) : Prop :=
  u = block ∨ (some u = declaring ∧ s.hasKind Kind.exportDecl declaring = true) ∨
    SuperPart s (Spans.at_ Cell.children s declaring) u

/-- What the commit of a candidate does to the store. -/
structure Commits (c : Candidate) (s s' : Store) (block : TokenId) (declaring : Slot)
    (t : TokenId) : Prop where
  frame : Frame s s' (Edits s block declaring)
  declared : c.Declared s s' t
  children : (s'.cell block).children =
    (s.cell block).children.flatMap (c.rewritten declaring t)
  exported : ∀ e, declaring = some e → c.statement ≠ declaring →
    (s'.cell e).children = (s.cell e).children.set 0 (some t)

/-! ## One commit -/

/-- The statements to be removed are removed. -/
theorem Ready.remove_run (hready : c.Ready s block declaring) {s₂ : Store} (hlt : block < s₂.size)
    (hn : (s₂.cell block).children.Nodup)
    (hmem : ∀ slot ∈ c.removed, slot ∈ (s₂.cell block).children) :
    ∃ s', (do
        c.inheritance.forM fun (parent, node) => Edit.replaceStatement parent node []
        c.methods.forM Method.remove : Edit Unit).run.run s₂ = (.ok (), s') ∧
      s₂.Alters s' block ((s₂.cell block).children.filter fun slot => slot ∉ c.removed) := by
  obtain ⟨hinheritance, hmethods, hdisjoint⟩ := List.nodup_append.mp hready.removedOnce
  have hnodes := List.Nodup.of_map _ hinheritance
  have hnodes' := List.Nodup.of_map _ hmethods
  -- first the statements that set the super class
  obtain ⟨s₃, hrun, halters⟩ := Edit.removeAll_run
    (fun p : Slot × Slot => Edit.replaceStatement p.1 p.2 []) Prod.snd c.inheritance (by
      intro p hp
      obtain ⟨hparent, hsome⟩ := hready.inheritanceParents p hp
      obtain ⟨u, hu⟩ := Option.isSome_iff_exists.mp hsome
      rw [hparent, hu]) hlt hn hnodes (by
      intro u hu
      exact hmem _ (List.mem_append_left _ (List.mem_map_of_mem hu)))
  have hown : (s₃.cell block).children = (s₂.cell block).children.filter fun slot =>
      slot ∉ (c.inheritance.filterMap Prod.snd).map some := by rw [halters.own]
  -- then those of the methods, which still stand: no statement is listed twice
  obtain ⟨s₄, hrun', halters'⟩ := Edit.removeAll_run Method.remove Method.statement
    c.methods (by
      intro m hm
      unfold Method.remove
      rw [hready.methodParents m hm]
      cases m.statement <;> rfl) (by rw [halters.size]; exact hlt) (by rw [hown]; exact hn.filter _)
    hnodes' (by
      intro u hu
      rw [hown, List.mem_filter]
      refine ⟨hmem _ (List.mem_append_right _ (List.mem_map_of_mem hu)), ?_⟩
      have hnot : some u ∉ (c.inheritance.filterMap Prod.snd).map some := fun hmem' =>
        hdisjoint _ hmem' _ (List.mem_map_of_mem hu) rfl
      simpa using hnot)
  refine ⟨s₄, ?_, ?_⟩
  · rw [run_run_bind_of_ok hrun, hrun']
  · have hboth := halters.trans halters'
    rw [hown, List.filter_filter] at hboth
    have hremoved : ∀ slot ∈ (s₂.cell block).children,
        (decide (slot ∉ (c.methods.filterMap Method.statement).map some) &&
          decide (slot ∉ (c.inheritance.filterMap Prod.snd).map some)) =
          decide (slot ∉ c.removed) := by
      intro slot _
      rw [← Bool.decide_and, removed]
      simp only [List.mem_append, not_or, decide_eq_decide]
      exact and_comm
    rwa [List.filter_congr hremoved] at hboth

/-- Where the statements of the container stand in the list of all tokens: those of the
declaration, those of the statements that go, and those of the statements that stay. -/
theorem Ready.perm_statements (hready : c.Ready s block declaring)
    (hn : (s.cell block).children.Nodup) :
    (s.cell block).children ~ (declaring :: c.removed) ++
      (s.cell block).children.filter fun slot => slot ∉ declaring :: c.removed := by
  refine perm_append_filter hn
    (List.nodup_cons.mpr ⟨hready.declaringStays, hready.removedOnce⟩) ?_
  intro slot hslot
  rcases List.mem_cons.mp hslot with rfl | hslot
  · exact hready.standing
  · exact hready.removedStanding slot hslot

/-- The statements after the commit: the class or its export, and those that stay. -/
theorem Ready.perm_rewritten (hready : c.Ready s block declaring)
    (hn : (s.cell block).children.Nodup) (t : TokenId) :
    (s.cell block).children.flatMap (c.rewritten declaring t) ~
      c.successor declaring t ::
        (s.cell block).children.filter fun slot => slot ∉ declaring :: c.removed := by
  have hperm := (hready.perm_statements hn).flatMap_right (c.rewritten declaring t)
  refine hperm.trans ?_
  rw [List.cons_append, List.flatMap_cons, List.flatMap_append]
  have hremoved : c.removed.flatMap (c.rewritten declaring t) = [] := by
    rw [List.flatMap_eq_nil_iff]
    intro slot hslot
    have hne : slot ≠ declaring := fun he => hready.declaringStays (he ▸ hslot)
    rw [rewritten, if_neg hne, if_pos hslot]
  have hkept : ∀ slots : List Slot,
      (slots.filter fun slot => slot ∉ declaring :: c.removed).flatMap (c.rewritten declaring t) =
        slots.filter fun slot => slot ∉ declaring :: c.removed := by
    intro slots
    have hsingle : ∀ slot ∈ slots.filter fun slot => slot ∉ declaring :: c.removed,
        c.rewritten declaring t slot = [slot] := by
      intro slot hslot
      have hnot := (List.mem_filter.mp hslot).2
      simp only [List.mem_cons, not_or, decide_eq_true_eq] at hnot
      rw [rewritten, if_neg hnot.1, if_neg hnot.2]
    rw [List.flatMap_congr hsingle]
    exact List.flatMap_singleton' _
  rw [hremoved, hkept, rewritten, if_pos rfl]
  exact .refl _

/-- The tokens found from the container: those of the declaration, among them what the
constructor takes over, those of the statements that go, among them what else the class takes
over, and those of the statements that stay. -/
structure Footprint (c : Candidate) (s : Store) (block : TokenId) (declaring : Slot)
    (ids decl gone stay own taken : List TokenId) : Prop where
  perm : ids ~ (decl ++ gone) ++ stay
  nodup : (block :: ids).Nodup
  lt_size : ∀ u ∈ block :: ids, u < s.size
  declFound : Spans Cell.children s [declaring] decl
  stayFound : Spans Cell.children s
    ((s.cell block).children.filter fun slot => slot ∉ declaring :: c.removed) stay
  ownFound : Spans Cell.children s (s.shared c.builder) own
  ownWithin : own <+~ Spans.at_ Cell.children s c.statement
  takenFound : Spans Cell.children s (c.taken s) taken
  takenWithin : taken <+~ gone

theorem Ready.footprint (hready : c.Ready s block declaring)
    (hspans : Spans Cell.children s (s.cell block).children ids) (hn : (block :: ids).Nodup)
    (hnone : none ∉ (s.cell block).children) (hlt : block < s.size) :
    ∃ decl gone stay own taken, c.Footprint s block declaring ids decl gone stay own taken := by
  have hcur := hspans.nodup_roots (List.nodup_cons.mp hn).2 hnone
  obtain ⟨all, hall, hperm⟩ := hspans.perm (hready.perm_statements hcur).symm
  obtain ⟨first, stay, rfl, hfirst, hstay⟩ := hall.of_append
  obtain ⟨decl, gone, rfl, hdecl, hgone⟩ := hfirst.of_cons
  obtain ⟨own, hown, hownsub⟩ := hready.ownFound
  rw [List.flatMap_singleton] at hownsub
  obtain ⟨taken, htaken, htakensub⟩ := hready.takenFound
  refine ⟨decl, gone, stay, own, taken, hperm.symm, hn, ?_, hdecl, hstay, hown, hownsub, htaken, ?_⟩
  · intro u hu
    rcases List.mem_cons.mp hu with rfl | hu
    · exact hlt
    · exact hspans.lt_size u hu
  · rwa [hgone.eq_flatMap]

namespace Footprint

variable {decl gone stay own taken : List TokenId}

theorem nodup_all (h : c.Footprint s block declaring ids decl gone stay own taken) :
    ((decl ++ gone) ++ stay).Nodup :=
  h.perm.nodup_iff.mp (List.nodup_cons.mp h.nodup).2

theorem nodup_first (h : c.Footprint s block declaring ids decl gone stay own taken) :
    (decl ++ gone).Nodup := (List.nodup_append.mp h.nodup_all).1

theorem block_ne (h : c.Footprint s block declaring ids decl gone stay own taken) {u : TokenId}
    (hu : u ∈ (decl ++ gone) ++ stay) : u ≠ block := fun he =>
  (List.nodup_cons.mp h.nodup).1 (he ▸ h.perm.mem_iff.mpr hu)

theorem lt (h : c.Footprint s block declaring ids decl gone stay own taken) {u : TokenId}
    (hu : u ∈ (decl ++ gone) ++ stay) : u < s.size :=
  h.lt_size u (List.mem_cons_of_mem _ (h.perm.mem_iff.mpr hu))

/-- The function stands in the container, or in an export. -/
theorem place (h : c.Footprint s block declaring ids decl gone stay own taken)
    (hready : c.Ready s block declaring) :
    own <+~ decl ∧ ((c.parent = some block ∧ c.statement = declaring) ∨
      ∃ e rest inner outer, declaring = some e ∧ c.parent = some e ∧ c.statement ≠ declaring ∧
        s.hasKind Kind.exportDecl (some e) = true ∧ (s.cell e).children = c.statement :: rest ∧
        decl = e :: (inner ++ outer) ∧ own <+~ inner ∧ Spans Cell.children s rest outer) := by
  have hwithin := h.ownWithin
  rcases hready.place with ⟨hparent, hdeclaring, -⟩ | ⟨hparent, hkind, rest, hchildren⟩
  · refine ⟨?_, Or.inl ⟨hparent, hdeclaring⟩⟩
    rwa [hdeclaring, Spans.at_eq h.declFound] at hwithin
  · obtain ⟨e, rfl, -⟩ := Store.exists_token_of_hasKind hkind
    have hchildren : (s.cell e).children = c.statement :: rest := hchildren
    obtain ⟨-, below, rfl, hbelow⟩ := h.declFound.of_singleton
    rw [hchildren] at hbelow
    obtain ⟨inner, outer, rfl, hinner, houter⟩ := hbelow.of_cons
    rw [Spans.at_eq hinner] at hwithin
    have hne : c.statement ≠ some e := by
      intro he
      have hmem : e ∈ inner := hinner.root_mem (by rw [he]; simp)
      have hndecl := (List.nodup_append.mp h.nodup_first).1
      exact (List.nodup_cons.mp hndecl).1 (List.mem_append_left _ hmem)
    refine ⟨hwithin.trans ?_, Or.inr
      ⟨e, rest, inner, outer, rfl, hparent, hne, hkind, hchildren, rfl, hwithin, houter⟩⟩
    exact ((List.sublist_append_left inner outer).trans (List.sublist_cons_self e _)).subperm

/-- What stands in the place of the declaration is the export, where there is one. -/
theorem successor_eq (h : c.Footprint s block declaring ids decl gone stay own taken)
    (hready : c.Ready s block declaring) (t : TokenId) :
    c.successor declaring t =
      if s.hasKind Kind.exportDecl declaring = true then declaring else some t := by
  unfold successor
  rcases hready.place with ⟨-, hdeclaring, hkind⟩ | ⟨hparent, hkind, -⟩
  · rw [if_pos hdeclaring, hkind]
    rfl
  · rw [if_pos hkind]
    rcases (h.place hready).2 with ⟨hblock, -⟩ | ⟨e, -, -, -, rfl, -, hne, -⟩
    · rw [hblock] at hparent
      have hmem : block ∈ decl := h.declFound.root_mem (by rw [hparent]; simp)
      exact absurd rfl (h.block_ne (List.mem_append_left _ (List.mem_append_left _ hmem)))
    · rw [if_neg hne]

end Footprint

/-! ### The class is declared -/

/-- The class `t` is declared, and the tokens `made` are found from it: new ones, and those of the
footprint that it takes over. -/
structure Built (c : Candidate) (s s₁ : Store) (t : TokenId) (own gone made : List TokenId) :
    Prop where
  frame : Frame s s₁ (SuperPart s own)
  declared : c.Declared s s₁ t
  found : Spans Cell.children s₁ [some t] made
  within : made <+~ (own ++ gone) ++ s.fresh s₁

variable {decl gone stay own taken made : List TokenId} {s₁ s₂ : Store} {t u : TokenId}

theorem Ready.built (hready : c.Ready s block declaring)
    (hf : c.Footprint s block declaring ids decl gone stay own taken)
    (hdeclare : c.declare.run.run s = (.ok t, s₁)) : ∃ made, c.Built s s₁ t own gone made := by
  obtain ⟨howndecl, -⟩ := hf.place hready
  obtain ⟨hndecl, -, hdisjoint⟩ := List.nodup_append.mp hf.nodup_first
  obtain ⟨st, hst⟩ := Option.isSome_iff_exists.mp hready.present
  obtain ⟨hframe, hdeclared, made, hmade, hsub⟩ := declare_eq_ok hst hready.builder
    hready.methods hf.ownFound (nodup_of_subperm howndecl hndecl) hf.takenFound
    (fun u hu hmem => hdisjoint u (howndecl.subset hu) u (hf.takenWithin.subset hmem) rfl) hdeclare
  exact ⟨made, hframe, hdeclared, hmade,
    hsub.trans (((List.Subperm.refl own).append hf.takenWithin).append (.refl _))⟩

namespace Built

/-- What was there before is found from the class only if the class takes it over. -/
theorem not_mem (h : c.Built s s₁ t own gone made) (hu : u < s.size) (hown : u ∉ own)
    (hgone : u ∉ gone) : u ∉ made := by
  intro hmem
  rcases List.mem_append.mp (h.within.subset hmem) with hmem | hmem
  · exact (List.mem_append.mp hmem).elim hown hgone
  · exact absurd hu (Nat.not_lt_of_le (Store.mem_fresh.mp hmem).1)

section

variable (h : c.Built s s₁ t own gone made) (hready : c.Ready s block declaring)
  (hf : c.Footprint s block declaring ids decl gone stay own taken)

include hready hf

theorem block_not_own : block ∉ own := fun hmem =>
  hf.block_ne (by simp [(hf.place hready).1.subset hmem]) rfl

include h

theorem block_not_mem : block ∉ made :=
  h.not_mem (hf.lt_size block (by simp)) (block_not_own hready hf) fun hmem =>
    hf.block_ne (by simp [hmem]) rfl

/-- The container is as before. -/
theorem children_block : (s₁.cell block).children = (s.cell block).children :=
  h.frame.children block (hf.lt_size block (by simp)) fun hu => block_not_own hready hf hu.1

/-- Only super calls in the constructor were edited. -/
theorem edits : Frame s s₁ (Edits s block declaring) := by
  refine h.frame.mono fun u _ hu => Or.inr (Or.inr ⟨?_, hu.2⟩)
  rw [Spans.at_eq hf.declFound]
  exact (hf.place hready).1.subset hu.1

end

variable {parent : TokenId} {slots : List Slot}

/-- The class is still what it is when the statements of an earlier token are replaced. -/
theorem declared_later (h : c.Built s s₁ t own gone made) (ha : s₁.Alters s₂ parent slots)
    (hlt : parent < s.size) : c.Declared s s₂ t :=
  h.declared.later (Nat.le_of_eq ha.size.symm) fun u hu => ha.others u fun he =>
    absurd hlt (Nat.not_lt_of_le (he ▸ (Store.mem_fresh.mp hu).1))

theorem found_later (h : c.Built s s₁ t own gone made) (ha : s₁.Alters s₂ parent slots)
    (hparent : parent ∉ made) : Spans Cell.children s₂ [some t] made :=
  h.found.frame (Nat.le_of_eq ha.size.symm) fun u hu => by
    rw [ha.others u fun he => hparent (he ▸ hu)]

/-- When the statements of the token that holds the function are replaced, by themselves and the
class, no more is edited than by a commit. -/
theorem edits_later (h : c.Built s s₁ t own gone made) (hready : c.Ready s block declaring)
    (hf : c.Footprint s block declaring ids decl gone stay own taken)
    (ha : s₁.Alters s₂ parent slots) (hlt : parent < s.size) (hholds : s.HoldsStatements parent)
    (hedits : Edits s block declaring parent)
    (hslots : ∀ slot ∈ slots, slot = some t ∨ slot ∈ (s₁.cell parent).children) :
    Frame s s₂ (Edits s block declaring) := by
  refine ((h.edits hready hf).alters ha hlt fun slot hslot => ?_).mono ?_
  · rcases hslots slot hslot with rfl | hold
    · exact Or.inr ⟨t, h.declared.new, rfl, Or.inr hholds⟩
    · exact Or.inl hold
  · rintro u - (hu | rfl)
    · exact hu
    · exact hedits

end Built

/-! ### The class takes the place of the function -/

/-- The class `t` has taken the place of the function. -/
structure Replaced (c : Candidate) (s s₂ : Store) (block : TokenId) (declaring : Slot) (t : TokenId)
    (decl gone : List TokenId) : Prop where
  frame : Frame s s₂ (Edits s block declaring)
  declared : c.Declared s s₂ t
  children : (s₂.cell block).children = (s.cell block).children.map fun slot =>
    if slot = declaring then c.successor declaring t else slot
  exported : ∀ e, declaring = some e → c.statement ≠ declaring →
    (s₂.cell e).children = (s.cell e).children.set 0 (some t)
  found : ∃ made, Spans Cell.children s₂ [c.successor declaring t] made ∧ block ∉ made ∧
    made <+~ (decl ++ gone) ++ s.fresh s₂

/-- A function that stands in the container gives way to the class. -/
theorem Built.replace_plain (h : c.Built s s₁ t own gone made) (hready : c.Ready s block declaring)
    (hholds : s.HoldsStatements block)
    (hf : c.Footprint s block declaring ids decl gone stay own taken)
    (hcur : (s.cell block).children.Nodup) (hparent : c.parent = some block)
    (hdeclaring : c.statement = declaring) :
    ∃ s₂, (Edit.replaceStatement c.parent c.statement [some t]).run.run s₁ = (.ok (), s₂) ∧
      c.Replaced s s₂ block declaring t decl gone := by
  subst hdeclaring
  have hblt : block < s.size := hf.lt_size block (by simp)
  have hchildren₁ := h.children_block hready hf
  have hblockmade := h.block_not_mem hready hf
  have hsuccessor : c.successor c.statement t = some t := if_pos rfl
  have hreplace : Edit.replaceFirst c.statement [some t] (s₁.cell block).children =
      some ((s.cell block).children.map fun slot =>
        if slot = c.statement then c.successor c.statement t else slot) := by
    rw [hchildren₁, hsuccessor]
    exact Edit.replaceFirst_singleton_of_mem hcur hready.standing
  obtain ⟨s₂, hrun, halters⟩ :=
    Edit.replaceStatement_run (Nat.lt_of_lt_of_le hblt h.frame.size_le) hreplace
  rw [← hparent] at hrun
  exact ⟨s₂, hrun, {
    -- the class is the only new child of the container
    frame := by
      refine h.edits_later hready hf halters hblt hholds (Or.inl rfl) fun slot hslot => ?_
      obtain ⟨old, hold, rfl⟩ := List.mem_map.mp hslot
      by_cases hs : old = c.statement
      · rw [if_pos hs]
        exact Or.inl hsuccessor
      · rw [if_neg hs, hchildren₁]
        exact Or.inr hold
    declared := h.declared_later halters hblt
    children := by rw [halters.own]
    exported := fun _ _ hne => absurd rfl hne
    found := by
      refine ⟨made, ?_, hblockmade, ?_⟩
      · rw [hsuccessor]
        exact h.found_later halters hblockmade
      · rw [halters.fresh_eq s]
        exact h.within.trans (((hf.place hready).1.append (.refl gone)).append (.refl _)) }⟩

/-- A function that stands in an export gives way to the class there, and the export stays. -/
theorem Built.replace_exported {e : TokenId} {rest : List Slot} {inner outer : List TokenId}
    (h : c.Built s s₁ t own gone made) (hready : c.Ready s block (some e))
    (hf : c.Footprint s block (some e) ids (e :: (inner ++ outer)) gone stay own taken)
    (hparent : c.parent = some e) (hne : c.statement ≠ some e)
    (hkind : s.hasKind Kind.exportDecl (some e) = true)
    (hchildren : (s.cell e).children = c.statement :: rest) (hinner : own <+~ inner)
    (houter : Spans Cell.children s rest outer) :
    ∃ s₂, (Edit.replaceStatement c.parent c.statement [some t]).run.run s₁ = (.ok (), s₂) ∧
      c.Replaced s s₂ block (some e) t (e :: (inner ++ outer)) gone := by
  obtain ⟨hndecl, -, hdisjoint⟩ := List.nodup_append.mp hf.nodup_first
  obtain ⟨henot, hnbelow⟩ := List.nodup_cons.mp hndecl
  have helt : e < s.size := hf.lt (by simp)
  have heblock : e ≠ block := hf.block_ne (by simp)
  have hsuccessor : c.successor (some e) t = some e := if_neg hne
  -- nothing of the export but the function is taken over
  have hnotown : ∀ u ∈ e :: outer, u ∉ own := by
    intro u hu hmem
    have hmem := hinner.subset hmem
    rcases List.mem_cons.mp hu with rfl | hu
    · exact henot (List.mem_append_left _ hmem)
    · exact (List.nodup_append.mp hnbelow).2.2 u hmem u hu rfl
  have hemade : e ∉ made := h.not_mem helt (hnotown e (by simp)) fun hmem =>
    hdisjoint e (by simp) e hmem rfl
  have hchildren₁ : (s₁.cell e).children = c.statement :: rest := by
    rw [← hchildren]
    exact h.frame.children e helt fun hpart => hnotown e (by simp) hpart.1
  have hreplace : Edit.replaceFirst c.statement [some t] (s₁.cell e).children =
      some (some t :: rest) := by
    rw [hchildren₁, Edit.replaceFirst, if_pos rfl]
    rfl
  obtain ⟨s₂, hrun, halters⟩ :=
    Edit.replaceStatement_run (Nat.lt_of_lt_of_le helt h.frame.size_le) hreplace
  rw [← hparent] at hrun
  exact ⟨s₂, hrun, {
    frame := by
      refine h.edits_later hready hf halters helt (Store.holdsStatements_of_export hkind)
        (Or.inr (Or.inl ⟨rfl, hkind⟩)) fun slot hslot => ?_
      rw [hchildren₁]
      exact (List.mem_cons.mp hslot).imp_right (List.mem_cons_of_mem _)
    declared := h.declared_later halters helt
    -- the container keeps its statements: the export stands for the class
    children := by
      rw [halters.others block heblock.symm, h.children_block hready hf, hsuccessor]
      have hsame : ∀ slot ∈ (s.cell block).children,
          (if slot = some e then some e else slot) = slot := by
        intro slot _
        by_cases hs : slot = some e <;> simp [hs]
      rw [List.map_congr_left hsame, List.map_id']
    exported := by
      intro e' he' _
      cases he'
      rw [halters.own, hchildren]
      rfl
    found := by
      refine ⟨e :: (made ++ outer), ?_, ?_, ?_⟩
      · rw [hsuccessor]
        refine .singleton (by rw [halters.size]; exact Nat.lt_of_lt_of_le helt h.frame.size_le) ?_
        rw [halters.own]
        have houter₁ : Spans Cell.children s₁ rest outer := h.frame.spans houter fun u hu hpart =>
          hnotown u (List.mem_cons_of_mem e hu) hpart.1
        refine (h.found_later halters hemade).append
          (houter₁.frame (Nat.le_of_eq halters.size.symm) fun u hu => ?_)
        rw [halters.others u fun he => henot (List.mem_append_right _ (he ▸ hu))]
      · intro hmem
        rcases List.mem_cons.mp hmem with hmem | hmem
        · exact heblock hmem.symm
        rcases List.mem_append.mp hmem with hmem | hmem
        · exact h.block_not_mem hready hf hmem
        · exact hf.block_ne (u := block) (by simp [hmem]) rfl
      · rw [halters.fresh_eq s]
        -- counted token by token: what the class takes over comes from the function in the export
        refine List.subperm_ext_iff.mpr fun u _ => ?_
        have hmadeu := h.within.count_le u
        have hownu := hinner.count_le u
        simp only [List.count_append, List.count_cons] at hmadeu ⊢
        omega }⟩

/-- Once it is declared, the class takes the place of the function. -/
theorem Ready.replace_of_declare (hready : c.Ready s block declaring)
    (hholds : s.HoldsStatements block)
    (hf : c.Footprint s block declaring ids decl gone stay own taken)
    (hcur : (s.cell block).children.Nodup) (hdeclare : c.declare.run.run s = (.ok t, s₁)) :
    ∃ s₂, (Edit.replaceStatement c.parent c.statement [some t]).run.run s₁ = (.ok (), s₂) ∧
      c.Replaced s s₂ block declaring t decl gone := by
  obtain ⟨made, hbuilt⟩ := hready.built hf hdeclare
  rcases (hf.place hready).2 with ⟨hparent, hdeclaring⟩ |
    ⟨e, rest, inner, outer, rfl, hparent, hne, hkind, hchildren, rfl, hinner, houter⟩
  · exact hbuilt.replace_plain hready hholds hf hcur hparent hdeclaring
  · exact hbuilt.replace_exported hready hf hparent hne hkind hchildren hinner houter

/-! ### The statements that go are removed -/

namespace Replaced

section

variable (h : c.Replaced s s₂ block declaring t decl gone) (hready : c.Ready s block declaring)
  (hspans : Spans Cell.children s (s.cell block).children ids)

include h hspans

/-- What stands in the place of the declaration is no other statement. -/
theorem successor_ne {slot : Slot} (hslot : slot ∈ (s.cell block).children)
    (hne : slot ≠ declaring) : slot ≠ c.successor declaring t := by
  unfold successor
  split
  · rintro rfl
    exact absurd (hspans.lt_size t (hspans.root_mem hslot))
      (Nat.not_lt_of_le (Store.mem_fresh.mp h.declared.new).1)
  · exact hne

theorem nodup_children (hcur : (s.cell block).children.Nodup) :
    (s₂.cell block).children.Nodup := by
  rw [h.children]
  refine hcur.map_on fun x hx y hy hxy => ?_
  by_cases hx' : x = declaring <;> by_cases hy' : y = declaring
  · rw [hx', hy']
  · rw [if_pos hx', if_neg hy'] at hxy
    exact absurd hxy.symm (h.successor_ne hspans hy hy')
  · rw [if_neg hx', if_pos hy'] at hxy
    exact absurd hxy (h.successor_ne hspans hx hx')
  · rwa [if_neg hx', if_neg hy'] at hxy

include hready

/-- Without the statements that go, the container has what the commit makes of its statements. -/
theorem filter_children : ((s₂.cell block).children.filter fun slot => slot ∉ c.removed) =
    (s.cell block).children.flatMap (c.rewritten declaring t) := by
  have hsuccessor : c.successor declaring t ∉ c.removed := by
    intro hmem
    have hne : c.successor declaring t ≠ declaring := fun he => hready.declaringStays (he ▸ hmem)
    exact h.successor_ne hspans (hready.removedStanding _ hmem) hne rfl
  rw [h.children, List.map_eq_flatMap, List.filter_flatMap]
  refine List.flatMap_congr fun slot _ => ?_
  unfold rewritten
  by_cases hs : slot = declaring
  · rw [if_pos hs, if_pos hs, List.filter_cons_of_pos (by simpa using hsuccessor)]
    rfl
  · by_cases hr : slot ∈ c.removed <;> simp [hs, hr]

end

/-- The statements that go stand in the container still. -/
theorem standing (h : c.Replaced s s₂ block declaring t decl gone)
    (hready : c.Ready s block declaring) :
    ∀ slot ∈ c.removed, slot ∈ (s₂.cell block).children := by
  intro slot hslot
  rw [h.children]
  refine List.mem_map.mpr ⟨slot, hready.removedStanding slot hslot, if_neg ?_⟩
  exact fun he => hready.declaringStays (he ▸ hslot)

end Replaced

/-- The statements that stay are edited by no commit of the candidate. -/
theorem Footprint.stay_not_edits (hf : c.Footprint s block declaring ids decl gone stay own taken)
    (hu : u ∈ stay) : ¬Edits s block declaring u := by
  have hnotdecl : u ∉ decl := fun hmem =>
    (List.nodup_append.mp hf.nodup_all).2.2 u (List.mem_append_left _ hmem) u hu rfl
  rintro (rfl | ⟨he, -⟩ | hpart)
  · exact hf.block_ne (List.mem_append_right _ hu) rfl
  · exact hnotdecl (hf.declFound.root_mem (by rw [he]; simp))
  · rw [SuperPart, Spans.at_eq hf.declFound] at hpart
    exact hnotdecl hpart.1

/-- Once the class is declared, the commit succeeds. -/
theorem Ready.commit_of_declare (hready : c.Ready s block declaring)
    (hholds : s.HoldsStatements block)
    (hspans : Spans Cell.children s (s.cell block).children ids) (hn : (block :: ids).Nodup)
    (hnone : none ∉ (s.cell block).children) (hlt : block < s.size)
    (hdeclare : c.declare.run.run s = (.ok t, s₁)) :
    ∃ s', c.commit.run.run s = (.ok (), s') ∧ c.Commits s s' block declaring t ∧
      ∃ ids', Spans Cell.children s' (s'.cell block).children ids' ∧
        ids' <+~ ids ++ s.fresh s' := by
  obtain ⟨decl, gone, stay, own, taken, hf⟩ := hready.footprint hspans hn hnone hlt
  have hcur := hspans.nodup_roots (List.nodup_cons.mp hn).2 hnone
  obtain ⟨s₂, hreplace, hreplaced⟩ := hready.replace_of_declare hholds hf hcur hdeclare
  obtain ⟨made, hmade, hblockmade, hsub⟩ := hreplaced.found
  obtain ⟨s', hremove, halters⟩ := hready.remove_run
    (Nat.lt_of_lt_of_le hlt hreplaced.frame.size_le) (hreplaced.nodup_children hspans hcur)
    (hreplaced.standing hready)
  -- the statements that are left are the old ones, rewritten
  have hchildren : (s'.cell block).children =
      (s.cell block).children.flatMap (c.rewritten declaring t) := by
    rw [halters.own]
    exact hreplaced.filter_children hready hspans
  have hframe : Frame s s' (Edits s block declaring) :=
    (hreplaced.frame.alters halters hlt fun slot hslot =>
      Or.inl (List.mem_of_mem_filter hslot)).mono fun u _ hu => hu.elim id Or.inl
  -- what was declared is new, so the changes of the container leave it alone
  have hnotblock : ∀ u ∈ s.fresh s₂, u ≠ block := fun u hu he =>
    absurd hlt (Nat.not_lt_of_le (he ▸ (Store.mem_fresh.mp hu).1))
  refine ⟨s', ?_, ⟨hframe, ?_, hchildren, ?_⟩, ?_⟩
  · unfold commit
    rw [run_run_bind_of_ok hdeclare, run_run_bind_of_ok hreplace]
    exact hremove
  · exact hreplaced.declared.later (Nat.le_of_eq halters.size.symm) fun u hu =>
      halters.others u (hnotblock u hu)
  · intro e he hne
    have heblock : e ≠ block := hf.block_ne (by
      have hedecl : e ∈ decl := hf.declFound.root_mem (by rw [he]; simp)
      simp [hedecl])
    rw [halters.others e heblock]
    exact hreplaced.exported e he hne
  · -- the tokens found now
    have hhead : Spans Cell.children s' [c.successor declaring t] made :=
      hmade.frame (Nat.le_of_eq halters.size.symm) fun u hu => by
        rw [halters.others u fun he => hblockmade (he ▸ hu)]
    have hstay := hframe.spans hf.stayFound fun u hu => hf.stay_not_edits hu
    obtain ⟨ids', hids', hperm'⟩ :=
      (hhead.append hstay).perm (hready.perm_rewritten hcur t)
    refine ⟨ids', by rw [hchildren]; exact hids', ?_⟩
    rw [halters.fresh_eq s]
    refine List.subperm_ext_iff.mpr fun u _ => ?_
    have hu := hsub.count_le u
    have hu' := hf.perm.count_eq u
    rw [hperm'.count_eq u]
    simp only [List.count_append] at hu hu' ⊢
    omega

end Candidate

/-! ## Several commits -/

/-- A candidate that was committed, the statement that declared it, and the class. -/
structure Made where
  candidate : Candidate
  declaring : Slot
  token : TokenId

/-- What became of a statement, after some candidates were committed. -/
def Made.replace (made : List Made) (slot : Slot) : List Slot :=
  match made.find? fun m => m.declaring = slot with
  | some m => [m.candidate.successor slot m.token]
  | none => if made.any fun m => slot ∈ m.candidate.removed then [] else [slot]

end ClassLift
