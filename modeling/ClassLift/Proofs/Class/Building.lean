import ClassLift.Proofs.Class.Touch
import ClassLift.Proofs.Token.Mirror
import ClassLift.Proofs.Token.Whole

set_option autoImplicit false

/-! # Class declarations of any functions

A class can be declared of functions of any kind, as long as their third child is a block; what else
they have does not matter (`Method.Parts`). `Candidate.declare_of_parts` says that the declaration
is made once the calls in the constructor are converted, and of which tokens. Two declarations that
were made of the same parts are alike (`Candidate.Makes.alikeTo`).
-/

namespace ClassLift

open List

variable {s s' s'' : Store} {edited : TokenId → Prop} {t u : TokenId}

/-! ## Alike tokens -/

namespace Store

theorem alikeTo_self (s : Store) (n : Nat) (x : Slot) : s.alikeTo n x x = true := by
  induction n generalizing x with
  | zero => cases x <;> rfl
  | succ n ih =>
      cases x with
      | none => rfl
      | some t =>
          have hchildren : allFromLast (s.alikeTo n) (s.cell t).children (s.cell t).children = true :=
            allFromLast_iff.mpr (List.forall₂_same.mpr fun x _ => ih x)
          rw [alikeTo, hchildren, beq_self_eq_true, beq_self_eq_true]
          rfl

/-- Tokens that say the same are alike when their children are. -/
theorem alikeTo_of_children (hkind : (s.cell t).label.kind = (s.cell u).label.kind)
    (hvalue : (s.cell t).label.value = (s.cell u).label.value)
    (hchildren : Forall₂ (fun x y => ∀ n, s.alikeTo n x y = true) (s.cell t).children
      (s.cell u).children) (n : Nat) : s.alikeTo n (some t) (some u) = true := by
  cases n with
  | zero => rfl
  | succ n =>
      have hall : allFromLast (s.alikeTo n) (s.cell t).children (s.cell u).children = true :=
        allFromLast_iff.mpr (hchildren.imp fun _ _ h => h n)
      rw [alikeTo, hall, hkind, hvalue, beq_self_eq_true, beq_self_eq_true]
      rfl

/-- A token with this kind, value and children. -/
structure Reads (s : Store) (kind : Kind) (value : String) (children : List Slot) (t : TokenId) :
    Prop where
  kind : (s.cell t).label.kind = kind
  value : (s.cell t).label.value = value
  children : (s.cell t).children = children

namespace Reads

variable {kind : Kind} {value : String} {children children' : List Slot}

theorem of_cell {c : Cell} (h : s.cell t = c) :
    s.Reads c.label.kind c.label.value c.children t := by
  subst h
  exact ⟨rfl, rfl, rfl⟩

theorem later (h : s.Reads kind value children t) (hcell : s'.cell t = s.cell t) :
    s'.Reads kind value children t :=
  ⟨by rw [hcell, h.kind], by rw [hcell, h.value], by rw [hcell, h.children]⟩

theorem alikeTo (h : s.Reads kind value children t) (h' : s.Reads kind value children' u)
    (hchildren : Forall₂ (fun x y => ∀ n, s.alikeTo n x y = true) children children') (n : Nat) :
    s.alikeTo n (some t) (some u) = true :=
  alikeTo_of_children (h.kind.trans h'.kind.symm) (h.value.trans h'.value.symm)
    (by rwa [h.children, h'.children]) n

end Reads

end Store

/-! ## Functions -/

namespace Method

variable {m : Method} {methods : List Method} {f f' b b' : TokenId} {a a' : Slot}

/-- A function with an argument list and a block as its body. -/
structure Parts (m : Method) (s : Store) (f : TokenId) (a : Slot) (b : TokenId) : Prop where
  function : m.function = some f
  lt : f < s.size
  arguments : (s.cell f).children[1]? = some a
  body : (s.cell f).children[2]? = some (some b)
  block : (s.cell b).label.kind = Kind.block

/-- Some function of this form. -/
def HasParts (m : Method) (s : Store) : Prop := ∃ f a b, m.Parts s f a b

namespace Parts

theorem unique (h : m.Parts s f a b) (h' : m.Parts s f' a' b') : f = f' ∧ a = a' ∧ b = b' := by
  obtain rfl := Option.some.inj (h.function.symm.trans h'.function)
  obtain rfl := Option.some.inj (h.arguments.symm.trans h'.arguments)
  obtain rfl := Option.some.inj (Option.some.inj (h.body.symm.trans h'.body))
  exact ⟨rfl, rfl, rfl⟩

theorem body_lt (h : m.Parts s f a b) : b < s.size :=
  Store.lt_size_of_hasKind (Store.hasKind_of_cell rfl h.block) (by decide)

/-- A function that is not edited keeps its parts. -/
theorem frame (h : m.Parts s f a b) (hf : Frame s s' edited) (hnot : ¬ edited f) :
    m.Parts s' f a b where
  function := h.function
  lt := Nat.lt_of_lt_of_le h.lt hf.size_le
  arguments := by rw [hf.children f h.lt hnot, h.arguments]
  body := by rw [hf.children f h.lt hnot, h.body]
  block := by rw [hf.label b h.body_lt, h.block]

theorem arguments_run (h : m.Parts s f a b) : m.arguments.run.run s = (.ok a, s) := by
  unfold Method.arguments
  rw [h.function, run_run_bind_of_ok (Edit.run_run_cell s f), Edit.run_run_child h.arguments]

theorem body_run (h : m.Parts s f a b) : m.body.run.run s = (.ok (some b), s) := by
  unfold Method.body
  rw [h.function, run_run_bind_of_ok (Edit.run_run_cell s f),
    run_run_bind_of_ok (Edit.run_run_child h.body), run_run_bind_of_ok (Edit.run_run_cell s b),
    if_pos h.block]
  rfl

theorem isEmpty_run (h : m.Parts s f a b) :
    m.isEmpty.run.run s = (.ok (s.cell b).children.isEmpty, s) := by
  unfold Method.isEmpty
  rw [run_run_bind_of_ok h.body_run, run_run_bind_of_ok (Edit.run_run_cell s b)]
  rfl

end Parts

/-- The token `t` of the later store is a member made of the parts that the function has in the
earlier one. -/
def Makes (m : Method) (s s' : Store) (t : TokenId) : Prop :=
  ∃ f a b name, m.Parts s f a b ∧ s'.Reads Kind.method m.modifier [some name, a, some b] t ∧
    s'.Reads Kind.text m.name [] name ∧ t < s'.size ∧ name < s'.size

theorem Makes.later (h : m.Makes s s' t) (hf : Frame s' s'' fun _ => False) : m.Makes s s'' t := by
  obtain ⟨f, a, b, name, hparts, hmember, hname, hlt, hnamelt⟩ := h
  exact ⟨f, a, b, name, hparts, hmember.later (hf.cell hlt id), hname.later (hf.cell hnamelt id),
    Nat.lt_of_lt_of_le hlt hf.size_le, Nat.lt_of_lt_of_le hnamelt hf.size_le⟩

/-- What is made of a later store is made of an earlier one in which the function has its parts
already, as long as it is not edited in between. -/
theorem Makes.earlier (h : m.Makes s' s'' t) (hparts : m.HasParts s) (hf : Frame s s' edited)
    (hnot : ∀ f, m.function = some f → ¬ edited f) : m.Makes s s'' t := by
  obtain ⟨f, a, b, name, hlater, hrest⟩ := h
  obtain ⟨f', a', b', hearlier⟩ := hparts
  obtain ⟨rfl, rfl, rfl⟩ := hlater.unique (hearlier.frame hf (hnot f' hearlier.function))
  exact ⟨_, _, _, name, hearlier, hrest⟩

/-- Members made of the same parts are alike. -/
theorem Makes.alikeTo (h : m.Makes s s' t) (h' : m.Makes s s' u) (n : Nat) :
    s'.alikeTo n (some t) (some u) = true := by
  obtain ⟨f, a, b, name, hparts, hmember, hname, -⟩ := h
  obtain ⟨f', a', b', name', hparts', hmember', hname', -⟩ := h'
  obtain ⟨rfl, rfl, rfl⟩ := hparts.unique hparts'
  refine hmember.alikeTo hmember' ?_ n
  exact .cons (hname.alikeTo hname' .nil) (.cons (s'.alikeTo_self · a)
    (.cons (s'.alikeTo_self · (some b)) .nil))

theorem makes_alikeTo {ts us : List TokenId} (h : Forall₂ (fun m t => m.Makes s s' t) methods ts)
    (h' : Forall₂ (fun m t => m.Makes s s' t) methods us) :
    Forall₂ (fun x y => ∀ n, s'.alikeTo n x y = true) (ts.map some) (us.map some) := by
  induction h generalizing us with
  | nil =>
      cases h'
      exact .nil
  | cons hm _ ih =>
      cases h' with
      | cons hm' hrest' => exact .cons (hm.alikeTo hm') (ih hrest')

/-- A method is defined when the comments before it can be copied. -/
theorem define_of_parts (h : m.HasParts s) (hcopy : ∀ v ∈ m.commented, s.Annotated v) :
    ∃ t s', m.define.run.run s = (.ok t, s') ∧ Frame s s' (fun _ => False) ∧ m.Makes s s' t := by
  obtain ⟨f, a, b, hparts⟩ := h
  set name := Cell.fresh Kind.text m.name (s.cell f).label.line (s.cell f).label.column [] with hname
  have hpush : Frame s (s.push name) fun _ => False := .push s name
  have hparts₁ : m.Parts (s.push name) f a b := hparts.frame hpush id
  obtain ⟨comments, s₁, hcomments⟩ :=
    Edit.copyComments_of_annotated fun v hv => (hcopy v hv).frame hpush
  obtain ⟨hcopied, -⟩ := Edit.copyComments_eq_ok hcomments
  set made := { Cell.fresh Kind.method m.modifier (s.cell f).label.line (s.cell f).label.column
    [some s.size, a, some b] with comments } with hmade
  have hlast : Frame s₁ (s₁.push made) fun _ => False := .push s₁ made
  have hlt : s.size < s₁.size := Nat.lt_of_lt_of_le (s.size_lt_push name) hcopied.size_le
  have hnamecell : (s₁.push made).cell s.size = name := by
    rw [hlast.cell hlt id, hcopied.cell (s.size_lt_push name) id, Store.cell_push_eq]
  refine ⟨s₁.size, s₁.push made, ?_, (hpush.extend hcopied).extend hlast, f, a, b, s.size, hparts,
    .of_cell (Store.cell_push_eq s₁ made), .of_cell hnamecell, s₁.size_lt_push made,
    Nat.lt_trans hlt (s₁.size_lt_push made)⟩
  unfold define
  rw [hparts.function, run_run_bind_of_ok (Edit.run_run_cell s f),
    run_run_bind_of_ok (Edit.run_run_create s _), ← hname, run_run_bind_of_ok hparts₁.arguments_run,
    run_run_bind_of_ok hparts₁.body_run, run_run_bind_of_ok hcomments]
  rfl

/-- All methods of a list are defined, one after the other. -/
theorem mapM_define_of_parts (h : ∀ m ∈ methods, m.HasParts s)
    (hcopy : ∀ m ∈ methods, ∀ v ∈ m.commented, s.Annotated v) :
    ∃ ts s', (methods.mapM define).run.run s = (.ok ts, s') ∧ Frame s s' (fun _ => False) ∧
      Forall₂ (fun m t => m.Makes s s' t) methods ts := by
  induction methods generalizing s with
  | nil => exact ⟨[], s, rfl, .refl _ _, .nil⟩
  | cons m methods ih =>
      obtain ⟨t, s₁, hdefine, hframe, hmakes⟩ :=
        define_of_parts (h m List.mem_cons_self) (hcopy m List.mem_cons_self)
      have hrest : ∀ m' ∈ methods, m'.HasParts s := fun m' hm' => h m' (List.mem_cons_of_mem _ hm')
      obtain ⟨ts, s₂, hothers, hframe', hmakes'⟩ := ih
        (fun m' hm' => by
          obtain ⟨f, a, b, hparts⟩ := hrest m' hm'
          exact ⟨f, a, b, hparts.frame hframe id⟩)
        (fun m' hm' v hv => (hcopy m' (List.mem_cons_of_mem _ hm') v hv).frame hframe)
      refine ⟨t :: ts, s₂, ?_, hframe.extend hframe', .cons (hmakes.later hframe') ?_⟩
      · rw [List.mapM_cons, run_run_bind_of_ok hdefine, run_run_bind_of_ok hothers]
        rfl
      · refine ((List.forall₂_and_left _ _).mpr ⟨hrest, hmakes'⟩).imp fun m' t' h' => ?_
        exact h'.2.earlier h'.1 hframe fun _ _ => id

end Method

/-! ## Classes -/

namespace Candidate

variable {c : Candidate} {f b : TokenId} {a : Slot} {builder : Option TokenId}

/-- The constructor of the class: there is none when the body of the function is empty. -/
def MakesBuilder (c : Candidate) (s s' : Store) : Option TokenId → Prop
  | none => ∃ f a b, c.builder.Parts s f a b ∧ (s.cell b).children = []
  | some t => (∃ f a b, c.builder.Parts s f a b ∧ (s.cell b).children ≠ []) ∧ c.builder.Makes s s' t

/-- The token `t` of the later store is a class made of the parts that the functions have in the
earlier one. -/
def Makes (c : Candidate) (s s' : Store) (t : TokenId) : Prop :=
  ∃ name extends_ block builder others,
    s'.Reads Kind.classDecl "class" [some name, some extends_, some block] t ∧
    s'.Reads Kind.text c.name [] name ∧
    s'.Reads Kind.keyword "extends" (c.superClass.toList.map some) extends_ ∧
    s'.Reads Kind.classBlock "\x7b\x7d" ((builder.toList ++ others).map some) block ∧
    (∀ u ∈ [t, name, extends_, block], u < s'.size) ∧
    c.MakesBuilder s s' builder ∧ Forall₂ (fun m t => m.Makes s s' t) c.methods others

theorem MakesBuilder.later (h : c.MakesBuilder s s' builder) (hf : Frame s' s'' fun _ => False) :
    c.MakesBuilder s s'' builder := by
  cases builder with
  | none => exact h
  | some t => exact ⟨h.1, h.2.later hf⟩

theorem Makes.later (h : c.Makes s s' t) (hf : Frame s' s'' fun _ => False) : c.Makes s s'' t := by
  obtain ⟨name, extends_, block, builder, others, hclass, hname, hextends, hblock, hlt, hbuilder,
    hothers⟩ := h
  have hcell : ∀ u ∈ [t, name, extends_, block], s''.cell u = s'.cell u := fun u hu =>
    hf.cell (hlt u hu) id
  exact ⟨name, extends_, block, builder, others, hclass.later (hcell t (by simp)),
    hname.later (hcell name (by simp)), hextends.later (hcell extends_ (by simp)),
    hblock.later (hcell block (by simp)), fun u hu => Nat.lt_of_lt_of_le (hlt u hu) hf.size_le,
    hbuilder.later hf, hothers.imp fun _ _ h => h.later hf⟩

/-- Of the same parts, either both classes have a constructor or none. -/
theorem MakesBuilder.alikeTo {builder' : Option TokenId} (h : c.MakesBuilder s s' builder)
    (h' : c.MakesBuilder s s' builder') :
    Forall₂ (fun x y => ∀ n, s'.alikeTo n x y = true) (builder.toList.map some)
      (builder'.toList.map some) := by
  cases builder with
  | none =>
      cases builder' with
      | none => exact .nil
      | some t' =>
          obtain ⟨f, a, b, hparts, hempty⟩ := h
          obtain ⟨⟨f', a', b', hparts', hmore⟩, -⟩ := h'
          obtain ⟨-, -, rfl⟩ := hparts.unique hparts'
          exact absurd hempty hmore
  | some t =>
      cases builder' with
      | none =>
          obtain ⟨f, a, b, hparts, hempty⟩ := h'
          obtain ⟨⟨f', a', b', hparts', hmore⟩, -⟩ := h
          obtain ⟨-, -, rfl⟩ := hparts.unique hparts'
          exact absurd hempty hmore
      | some t' => exact .cons (h.2.alikeTo h'.2) .nil

/-- Classes made of the same parts are alike. -/
theorem Makes.alikeTo (h : c.Makes s s' t) (h' : c.Makes s s' u) (n : Nat) :
    s'.alikeTo n (some t) (some u) = true := by
  obtain ⟨name, extends_, block, builder, others, hclass, hname, hextends, hblock, -, hbuilder,
    hothers⟩ := h
  obtain ⟨name', extends', block', builder', others', hclass', hname', hextends', hblock', -,
    hbuilder', hothers'⟩ := h'
  have hsuper : Forall₂ (fun x y => ∀ n, s'.alikeTo n x y = true) (c.superClass.toList.map some)
      (c.superClass.toList.map some) := List.forall₂_same.mpr fun x _ n => s'.alikeTo_self n x
  have hmembers : Forall₂ (fun x y => ∀ n, s'.alikeTo n x y = true)
      ((builder.toList ++ others).map some) ((builder'.toList ++ others').map some) := by
    rw [List.map_append, List.map_append]
    exact List.rel_append (hbuilder.alikeTo hbuilder') (Method.makes_alikeTo hothers hothers')
  exact hclass.alikeTo hclass' (.cons (hname.alikeTo hname' .nil)
    (.cons (hextends.alikeTo hextends' hsuper) (.cons (hblock.alikeTo hblock' hmembers) .nil))) n

/-- A candidate whose class can be declared. -/
structure Buildable (c : Candidate) (s : Store) : Prop where
  statement : c.statement.isSome
  builder : c.builder.HasParts s
  methods : ∀ m ∈ c.methods, m.HasParts s
  commented : ∀ v ∈ c.commented ++ c.builder.commented ++ c.methods.flatMap Method.commented,
    s.Annotated v

/-- The functions of a candidate are not among the tokens described. -/
def FunctionsApart (c : Candidate) (edited : TokenId → Prop) : Prop :=
  ∀ m ∈ c.builder :: c.methods, ∀ f, m.function = some f → ¬ edited f

section

variable {s₁ : Store} (h : c.Buildable s) (hparts : c.builder.Parts s f a b)
  (hcalls : ((s.cell b).children.forM (convertSuperCall c.superClass)).run.run s = (.ok (), s₁))
  (hframe : Frame s s₁ edited) (hapart : c.FunctionsApart edited) (h₁ : c.Buildable s₁)

include h hparts hcalls hframe hapart h₁

/-- The constructor is made once the calls in it are converted. -/
theorem defineConstructor_of_parts :
    ∃ o s₂, c.defineConstructor.run.run s = (.ok o, s₂) ∧ Frame s₁ s₂ (fun _ => False) ∧
      c.MakesBuilder s s₂ o := by
  unfold defineConstructor
  rw [run_run_bind_of_ok hparts.isEmpty_run]
  cases hstatements : (s.cell b).children with
  | nil =>
      rw [hstatements] at hcalls
      cases hcalls
      exact ⟨none, s, rfl, .refl _ _, f, a, b, hparts, hstatements⟩
  | cons first rest =>
      rw [← hstatements]
      have hrun : c.convertSuperCalls.run.run s = (.ok (), s₁) := by
        unfold convertSuperCalls
        rw [run_run_bind_of_ok hparts.body_run, run_run_bind_of_ok (Edit.run_run_cell s b), hcalls]
      have hempty : (s.cell b).children.isEmpty = false := by rw [hstatements]; rfl
      obtain ⟨t, s₂, hdefine, hframe', hmakes⟩ := Method.define_of_parts h₁.builder
        fun v hv => h₁.commented v (by simp [hv])
      refine ⟨some t, s₂, ?_, hframe', ⟨f, a, b, hparts, by rw [hstatements]; simp⟩,
        hmakes.earlier h.builder hframe (hapart c.builder List.mem_cons_self)⟩
      rw [hempty, if_neg (by simp), run_run_bind_of_ok hrun, run_run_bind_of_ok hdefine]
      rfl

/-- The methods are made after the constructor. -/
theorem defineMembers_of_parts :
    ∃ o others s₃, c.defineMembers.run.run s = (.ok (o.toList ++ others), s₃) ∧
      Frame s₁ s₃ (fun _ => False) ∧ c.MakesBuilder s s₃ o ∧
      Forall₂ (fun m t => m.Makes s s₃ t) c.methods others := by
  obtain ⟨o, s₂, hconstructor, hframe₂, hbuilder⟩ :=
    defineConstructor_of_parts h hparts hcalls hframe hapart h₁
  have hmethodsparts : ∀ m ∈ c.methods, m.HasParts s₂ := by
    intro m hm
    obtain ⟨f, a, b, hm'⟩ := h₁.methods m hm
    exact ⟨f, a, b, hm'.frame hframe₂ id⟩
  obtain ⟨others, s₃, hmethods, hframe₃, hothers⟩ := Method.mapM_define_of_parts hmethodsparts
    fun m hm v hv => (h₁.commented v (List.mem_append_right _
      (List.mem_flatMap.mpr ⟨m, hm, hv⟩))).frame hframe₂
  refine ⟨o, others, s₃, ?_, hframe₂.extend hframe₃, hbuilder.later hframe₃, ?_⟩
  · unfold defineMembers
    rw [run_run_bind_of_ok hconstructor, run_run_bind_of_ok hmethods]
    rfl
  · -- the functions of the methods have had their parts from the beginning
    have hearlier : Frame s s₂ edited := hframe.extend hframe₂
    refine ((List.forall₂_and_left _ _).mpr ⟨fun m hm => hm, hothers⟩).imp fun m t h' => ?_
    exact h'.2.earlier (h.methods m h'.1) hearlier (hapart m (List.mem_cons_of_mem _ h'.1))

/-- The class is declared once the calls in the constructor are converted; from then on, all that
is done is to make new tokens. -/
theorem declare_of_parts :
    ∃ t s', c.declare.run.run s = (.ok t, s') ∧ Frame s₁ s' (fun _ => False) ∧ c.Makes s s' t := by
  obtain ⟨o, others, s₃, hmembers, hframe₃, hbuilder, hothers⟩ :=
    defineMembers_of_parts h hparts hcalls hframe hapart h₁
  obtain ⟨st, hst⟩ := Option.isSome_iff_exists.mp h.statement
  have hown : ∀ v ∈ c.commented, s₃.Annotated v := fun v hv =>
    (h₁.commented v (by simp [hv])).frame hframe₃
  obtain ⟨t, s', name, extends_, block, comments, hdeclare, hmade⟩ :=
    declare_of_members hst hmembers fun s₄ hlater =>
      Edit.copyComments_of_annotated fun v hv => (hown v hv).frame hlater
  have hlt : ∀ u ∈ [t, name, extends_, block], u < s'.size := fun u hu =>
    (Store.mem_fresh.mp (hmade.within.subset hu)).2
  exact ⟨t, s', hdeclare, hframe₃.extend hmade.frame, name, extends_, block, o, others,
    .of_cell hmade.classCell, .of_cell hmade.nameCell, .of_cell hmade.extendsCell,
    .of_cell hmade.blockCell, hlt, hbuilder.later hmade.frame,
    hothers.imp fun _ _ hm => hm.later hmade.frame⟩

end

end Candidate

end ClassLift
