import ClassLift.Proofs.Conversion.Calls

set_option autoImplicit false

/-! # The same statements in another store

What a container says about classes depends on the forms of its statements only. Where these are the
same in two stores (`SameStatements`), the same functions become classes, with the same parts, and the
same statements go.
-/

namespace ClassLift

open List Store

variable {s f g : Store} {options : Options} {block : TokenId} {slot st : Slot} {c : Candidate}
  {declaring : Slot} {name : String} {classes : List (String × TokenId)} {t : TokenId}

/-- The container has the same statements in both stores, of the same forms. -/
structure SameStatements (s f : Store) (options : Options) (block : TokenId) : Prop where
  children : (f.cell block).children = (s.cell block).children
  forms : ∀ st ∈ (s.cell block).children, SameForms s f options (some block) st
  kinds : ∀ st ∈ (s.cell block).children, ∀ kind, f.hasKind kind st = s.hasKind kind st

theorem SameForms.symm (h : SameForms s f options slot st) : SameForms f s options slot st where
  declaration := h.declaration.symm
  owner := h.owner.symm
  reset name := (h.reset name).symm
  replaces := h.replaces.symm
  superClass := h.superClass.symm
  methods := h.methods.symm

theorem SameForms.superOf (h : SameForms s f options slot st) : f.superOf st = s.superOf st := by
  rw [Store.superOf, Store.superOf, h.superClass]

namespace SameStatements

theorem symm (h : SameStatements s f options block) : SameStatements f s options block where
  children := h.children.symm
  forms st hst := (h.forms st (h.children ▸ hst)).symm
  kinds st hst kind := (h.kinds st (h.children ▸ hst) kind).symm

theorem converts (h : SameStatements s f options block) (hc : Converts f options (some block) name) :
    Converts s options (some block) name := by
  have hchildren : f.children (some block) = (s.children (some block)).flatMap fun st => [st] := by
    rw [List.flatMap_singleton']
    exact h.children
  have hechoes : ∀ st ∈ s.children (some block), Echo s f options (some block) [] st [st] :=
    fun st hst => .same (h.forms st hst) rfl (by simp)
  exact (hc.of_echo hchildren hechoes).2

/-- The same functions become classes. -/
theorem converts_iff (h : SameStatements s f options block) :
    Converts f options (some block) name ↔ Converts s options (some block) name :=
  ⟨h.converts, h.symm.converts⟩

theorem becomes_iff (h : SameStatements s f options block) :
    f.Becomes options block declaring c ↔ s.Becomes options block declaring c := by
  have hone : ∀ {s f : Store}, SameStatements s f options block → f.Becomes options block declaring c →
      s.Becomes options block declaring c := fun h hc => by
    have hstanding := h.children ▸ hc.standing
    exact ⟨hstanding, (h.forms declaring hstanding).declaration ▸ hc.declared, h.converts hc.converts⟩
  exact ⟨hone h, hone h.symm⟩

theorem owned (h : SameStatements s f options block) (name : String) :
    f.owned name (s.cell block).children = s.owned name (s.cell block).children :=
  List.filter_congr fun st hst => (h.forms st hst).modifies name

theorem superClassOf (h : SameStatements s f options block) (name : String) :
    f.superClassOf name (f.cell block).children = s.superClassOf name (s.cell block).children := by
  rw [h.children, Store.superClassOf, Store.superClassOf, h.owned]
  have hall : ∀ sts : List Slot, (∀ st ∈ sts, st ∈ (s.cell block).children) →
      sts.findSome? f.superOf = sts.findSome? s.superOf := by
    intro sts
    induction sts with
    | nil => exact fun _ => rfl
    | cons st sts ih =>
        intro hsts
        rw [List.findSome?_cons, List.findSome?_cons, (h.forms st (hsts st List.mem_cons_self)).superOf,
          ih fun u hu => hsts u (List.mem_cons_of_mem _ hu)]
  exact hall _ fun st hst => List.mem_of_mem_filter hst

theorem methodsFor (h : SameStatements s f options block) (name : String) :
    f.methodsFor options (some block) name (f.cell block).children =
      s.methodsFor options (some block) name (s.cell block).children := by
  rw [h.children, Store.methodsFor, Store.methodsFor, h.owned]
  exact List.flatMap_congr fun st hst => (h.forms st (List.mem_of_mem_filter hst)).methodsOf

/-- The same statements go. -/
theorem goesWith (h : SameStatements s f options block) (hst : st ∈ (s.cell block).children) :
    f.goesWith options (some block) name (f.children (some block)) st =
      s.goesWith options (some block) name (s.children (some block)) st := by
  have hforms := h.forms st hst
  have hsuper : f.superClassOf name (f.children (some block)) =
      s.superClassOf name (s.children (some block)) := h.superClassOf name
  rw [Store.goesWith, Store.goesWith, hsuper, hforms.modifies, hforms.methodsOf, hforms.resets,
    hforms.inherits]

/-- A statement gives way to the same statements. -/
theorem replacement (h : SameStatements s f options block) (hst : st ∈ (s.cell block).children) :
    f.replacement options (some block) classes st = s.replacement options (some block) classes st := by
  have hdeclares : (fun p : String × TokenId => f.declares (some block) p.1 st) =
      fun p => s.declares (some block) p.1 st := funext fun p => (h.forms st hst).declares p.1
  have hgoes : (fun p : String × TokenId =>
      f.goesWith options (some block) p.1 (f.children (some block)) st) =
      fun p => s.goesWith options (some block) p.1 (s.children (some block)) st :=
    funext fun p => h.goesWith hst
  rw [Store.replacement, Store.replacement, hdeclares, hgoes, h.kinds st hst]

/-- A class has the same parts. -/
theorem isClassOf {edited : TokenId → Prop} {p : String × TokenId}
    (h : SameStatements s f options block) (hframe : Frame s f edited) (he : Editable s edited)
    (hempty : ∀ declaring ∈ (s.cell block).children, ∀ c,
      s.declaration? (some block) declaring = .ok (some c) →
        f.emptyBody c.builder = s.emptyBody c.builder)
    (hp : f.IsClassOf g options (some block) p) : s.IsClassOf g options (some block) p := by
  obtain ⟨declaring, hstanding, c, hc, hname, hdeclared⟩ := hp
  have hstanding : declaring ∈ (s.cell block).children := h.children ▸ hstanding
  rw [(h.forms declaring hstanding).declaration] at hc
  have hsuper : f.superClassOf p.1 (f.children (some block)) =
      s.superClassOf p.1 (s.children (some block)) := h.superClassOf p.1
  have hmethods : f.methodsFor options (some block) p.1 (f.children (some block)) =
      s.methodsFor options (some block) p.1 (s.children (some block)) := h.methodsFor p.1
  rw [hsuper, hmethods] at hdeclared
  refine ⟨declaring, hstanding, c, hc, hname, hdeclared.earlier hframe ?_ ?_ ?_ ?_ ?_⟩
  · -- the statement is a token of the earlier store
    intro k hk
    have hkind := kind_of_declared hc
    rw [show c.statement = some k from hk] at hkind
    exact hkind.elim (lt_size_of_hasKind · (by decide)) (lt_size_of_hasKind · (by decide))
  · exact convertible_of_declaration (c := c) hc
  · intro m hm
    obtain ⟨st, -, hm⟩ := List.mem_flatMap.mp hm
    exact methods_convertible (exists_methods_of_ne_nil (List.ne_nil_of_mem hm)) m hm
  · -- functions are not edited
    intro k hk hedit
    obtain ⟨_, -, -, -, he', hlt, -⟩ := parts_of_isConvertible hk
    cases he'
    exact Kind.not_edited_of_function (kind_mem_of_isConvertible hk) (he k hlt hedit)
  · exact hempty declaring hstanding c hc

end SameStatements

/-! ## Statements that say nothing about classes -/

/-- The statement has none of the forms that the detection looks for. -/
structure Store.Bare (s : Store) (options : Options) (block slot : Slot) : Prop where
  declaration : s.declaration? block slot = .ok none
  owner : s.prototypeOwner? slot = .ok none
  reset : ∀ name, s.isConstructorReset name slot = .ok false
  replaces : s.replacesPrototype slot = .ok false
  superClass : s.superClass? slot = .ok none
  methods : s.methods? options block slot = .ok none

theorem SameForms.of_bare (h : s.Bare options slot st) (h' : f.Bare options slot st) :
    SameForms s f options slot st where
  declaration := h'.declaration.trans h.declaration.symm
  owner := h'.owner.trans h.owner.symm
  reset name := (h'.reset name).trans (h.reset name).symm
  replaces := h'.replaces.trans h.replaces.symm
  superClass := h'.superClass.trans h.superClass.symm
  methods := h'.methods.trans h.methods.symm

/-- A call of anything but `util.inherits` is such a statement. -/
theorem Store.bare_of_call (hk : s.hasKind Kind.call (some t) = true)
    (hinherits : s.argumentsOf? "util" "inherits" (some t) = none) :
    s.Bare options slot (some t) := by
  have hkind : (s.cell t).label.kind = Kind.call := kind_of_hasKind hk
  have hassign : s.isAssign (some t) = .ok false := by
    unfold isAssign
    show Except.ok ((s.cell t).label.kind == Kind.assign && _ && _) = _
    rw [hkind]
    rfl
  have hutil : s.utilInherits? (some t) = .ok none := by
    unfold utilInherits?
    rw [hinherits]
    rfl
  have hreplaces : s.replacesPrototype (some t) = .ok false := by
    unfold replacesPrototype
    rw [hassign]
    rfl
  -- the other forms are assignments or declarations, or replace the prototype
  exact {
    declaration := declaration_of_kind hk (by decide) (by decide) (by decide)
    owner := by
      unfold prototypeOwner?
      rw [hutil, hassign]
      rfl
    reset := fun name => by
      unfold isConstructorReset
      rw [hassign]
      rfl
    replaces := hreplaces
    superClass := by
      unfold superClass?
      rw [hutil, hreplaces]
      rfl
    methods := by
      unfold methods?
      rw [hassign]
      rfl }

/-- A call of something that is no member `inherits` says nothing. -/
theorem Store.bare_of_callee {callee arguments : Slot} (hk : s.hasKind Kind.call (some t) = true)
    (hchildren : (s.cell t).children = [callee, arguments])
    (hcallee : s.memberNamed? "inherits" callee = none) : s.Bare options slot (some t) := by
  refine bare_of_call hk ?_
  have hchildren : s.children (some t) = [callee, arguments] := hchildren
  simp only [argumentsOf?, hchildren, hcallee, ite_self]

/-- A super call says nothing, -/
theorem Store.IsSuperCall.bare {superClass : Slot} {statements : List Slot} {a : TokenId}
    (h : s.IsSuperCall superClass statements t a) : s.Bare options slot (some t) := by
  obtain ⟨hkind, -, k, first, rest, hchildren, -⟩ := h.parts
  obtain ⟨-, k', hcall⟩ := h
  refine bare_of_callee hkind hchildren ?_
  obtain ⟨hparts, -, ⟨object, hobject, -⟩, -⟩ := Candidate.superCall_eq_some_iff.mp hcall
  cases hparts.symm.trans hchildren
  obtain ⟨attr, hparts, hattr⟩ := memberNamed_eq_some hobject
  rw [memberNamed?, hparts]
  refine if_neg fun hother => ?_
  obtain ⟨l, hl, -, hvalue⟩ := isToken_iff.mp hattr
  obtain ⟨l', hl', -, hvalue'⟩ := isToken_iff.mp hother
  rw [hl] at hl'
  cases hl'
  exact absurd (hvalue.symm.trans hvalue') (by decide)

/-- before and after its conversion. -/
theorem Store.Called.bare {a : TokenId} (h : s.Called f t a)
    (hk : f.hasKind Kind.call (some t) = true) : f.Bare options slot (some t) := by
  obtain ⟨w, -, hword, hleaf, hchildren⟩ := h.word
  have hleaf : f.children (some w) = [] := hleaf
  refine bare_of_callee hk hchildren ?_
  rw [memberNamed?, memberParts?, hleaf]

theorem Store.Bare.inert (h : s.Bare options slot st) : s.Inert slot st := ⟨h.declaration, h.owner⟩

/-- A statement that says nothing stays. -/
theorem Store.Bare.replacement (h : s.Bare options (some block) st) :
    s.replacement options (some block) classes st = [st] := by
  have hnone : (classes.find? fun p => s.declares (some block) p.1 st) = none :=
    List.find?_eq_none.mpr fun p _ => Bool.eq_false_iff.mp (h.inert.declares p.1)
  have hstays : (classes.any fun p =>
      s.goesWith options (some block) p.1 (s.children (some block)) st) = false :=
    List.any_eq_false.mpr fun p _ hgoes =>
      Bool.eq_false_iff.mp (h.inert.modifies p.1) (Bool.and_eq_true_iff.mp hgoes).1
  rw [Store.replacement, hnone, hstays]
  rfl

end ClassLift
