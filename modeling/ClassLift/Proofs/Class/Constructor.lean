import ClassLift.Proofs.Class.Ready

set_option autoImplicit false

/-! # Members called `constructor`

A class has a constructor when its function does something, and then it is the first member
(`Candidate.Declared.members_eq`). No other member has its name, but for one kind of entry of a
method table: a function without a key is taken under its own name, whatever that is
(`Store.shorthand_of_methodsOf`). So the members called `constructor` can be counted
(`Candidate.Declared.count_constructors`).
-/

namespace ClassLift

open List

variable {s s' : Store} {options : Options} {block slot : Slot} {t k : TokenId} {m : Method}

/-! ## Names of members -/

/-- The members of a class: the children of its body, which is the third child. -/
def Store.members (s : Store) (t : TokenId) : List Slot :=
  match (s.cell t).children with
  | [_, _, body] => s.children body
  | _ => []

/-- Is the token a method with this name? -/
def Store.isMethodNamed (s : Store) (name : String) (slot : Slot) : Bool :=
  s.hasKind Kind.method slot && s.isToken Kind.text name ((s.children slot).head?.getD none)

theorem Method.Defined.isMethodNamed (h : m.Defined s s' t) (name : String) :
    s'.isMethodNamed name (some t) = (m.name == name) := by
  obtain ⟨f, n, comments, -, -, hcell, hname⟩ := h.parts
  have hfirst : (s'.children (some t)).head?.getD none = some n := by
    show (s'.cell t).children.head?.getD none = some n
    rw [hcell]
    rfl
  rw [Store.isMethodNamed, h.hasKind, hfirst, Bool.true_and]
  show ((s'.cell n).label.kind == Kind.text && (s'.cell n).label.value == name) = _
  rw [hname]
  exact Bool.true_and _

/-- The function that a statement declares gives the constructor. -/
theorem Store.name_of_builder {c : Candidate} (h : s.declaration? block slot = .ok (some c)) :
    c.builder.name = "constructor" := by
  rcases declaration_eq_some_iff.mp h with hf | ⟨-, first, rest, -, hf⟩ | hv
  · rw [hf.eq]
    rfl
  · rw [hf.eq]
    rfl
  · obtain ⟨assignment, target, value, -, -, -, -, -, heq⟩ := hv.parts
    rw [heq]
    rfl

/-! ## Methods called `constructor` -/

/-- A function without a key is an entry of the object literal, and its name is `constructor`. -/
def Store.IsShorthandConstructor (s : Store) (object entry : Slot) : Prop :=
  s.hasKind Kind.object object = true ∧ entry ∈ s.children object ∧
    s.hasKind Kind.functionDecl entry = true ∧ s.firstName entry = .ok "constructor"

/-- The statement assigns a prototype an object literal with this entry, a function without a key that
is called `constructor`. -/
def Store.AssignsShorthand (s : Store) (statement entry : Slot) : Prop :=
  ∃ target object, s.children statement = [target, object] ∧ (s.prototypeOf? target).isSome = true ∧
    s.IsShorthandConstructor object entry

namespace Store

/-- An entry that gives a method called `constructor` is a function without a key. -/
theorem entry_of_constructor {className : String} {entry : Slot} {e : TableEntry}
    (h : s.entryForm className entry = .ok (.method e)) (hname : e.name = "constructor") :
    e.function = entry ∧ s.hasKind Kind.functionDecl entry = true ∧
      s.firstName entry = .ok "constructor" := by
  unfold entryForm at h
  obtain ⟨l, hl, h⟩ := bind_eq_ok.mp h
  split at h
  · rename_i hkind
    obtain ⟨b, hb, h⟩ := bind_eq_ok.mp h
    cases b with
    | false => cases h
    | true =>
        obtain ⟨name, hfirst, h⟩ := bind_eq_ok.mp h
        cases h
        have hname : name = "constructor" := hname
        rw [hname] at hfirst
        exact ⟨rfl, hasKind_iff.mpr ⟨l, label_eq_ok.mp hl, hkind⟩, hfirst⟩
  split at h
  case isFalse => cases h
  split at h
  case h_2 => cases h
  -- a pair whose key is `constructor` gives no method
  rename_i key value hchildren
  unfold pairForm at h
  obtain ⟨n, -, h⟩ := bind_eq_ok.mp h
  cases n with
  | none => cases h
  | some name =>
      dsimp only at h
      split at h
      · obtain ⟨v, -, h⟩ := bind_eq_ok.mp h
        simp only [pure, Except.pure, Except.ok.injEq] at h
        split at h <;> cases h
      · rename_i hne
        obtain ⟨b, -, h⟩ := bind_eq_ok.mp h
        cases b with
        | false => cases h
        | true =>
            cases h
            exact absurd hname hne

theorem entries_of_constructor {className : String} {entries : List Slot} {es : List TableEntry}
    (h : s.tableEntries? className entries = .ok (some es)) :
    ∀ e ∈ es, e.name = "constructor" → e.function ∈ entries ∧
      s.hasKind Kind.functionDecl e.function = true ∧ s.firstName e.function = .ok "constructor" := by
  intro e he hname
  obtain ⟨entry, hmem, hform⟩ := mem_of_tableEntries h e he
  obtain ⟨hf, hkind, hfirst⟩ := entry_of_constructor hform hname
  rw [hf]
  exact ⟨hmem, hkind, hfirst⟩

theorem entry_of_methodsOfTable {statement : Slot} {entries : List TableEntry}
    (h : m ∈ methodsOfTable statement block entries) :
    ∃ e ∈ entries, m.function = e.function ∧ m.name = e.name := by
  cases entries with
  | nil => cases h
  | cons first others =>
      rcases List.mem_cons.mp h with rfl | h
      · exact ⟨first, List.mem_cons_self, rfl, rfl⟩
      · obtain ⟨e, he, rfl⟩ := List.mem_map.mp h
        exact ⟨e, List.mem_cons_of_mem first he, rfl, rfl⟩

/-- A statement gives no method called `constructor` but by an entry without a key in the object
literal that it assigns. -/
theorem shorthand_of_methodsOf (h : m ∈ s.methodsOf options block slot)
    (hname : m.name = "constructor") : s.AssignsShorthand slot m.function := by
  have hne := List.ne_nil_of_mem h
  obtain ⟨-, target, value, hchildren, hms⟩ := methods_eq_some (exists_methods_of_ne_nil hne)
  rcases hms with ⟨owner, name, -, hother, -, hms⟩ | ⟨owner, -, howner, hobject, -, htable⟩
  · -- a member assignment to `constructor` is no method
    rw [hms, List.mem_singleton] at h
    rw [h] at hname
    exact absurd hname hother
  · obtain ⟨entries, hentries, -, hms⟩ := tableMethods_eq_some htable
    rw [hms] at h
    obtain ⟨e, he, hfunction, hen⟩ := entry_of_methodsOfTable h
    obtain ⟨hmem, hkind, hfirst⟩ := entries_of_constructor hentries e he (hen ▸ hname)
    rw [hfunction]
    exact ⟨target, value, hchildren, by rw [howner]; rfl, hobject, hmem, hkind, hfirst⟩

end Store

/-! ## The members of a class -/

namespace Candidate

variable {c : Candidate}

/-- The members of a class are the constructor, if there is one, and then the methods. -/
theorem Declared.members_eq (h : c.Declared s s' t) :
    ∃ builder others, s'.members t = (builder.toList ++ others).map some ∧
      c.BuilderDefined s s' builder ∧ List.Forall₂ (fun m k => m.Defined s s' k) c.methods others := by
  obtain ⟨st, name, extends_, body, builder, others, comments, -, -, -, -, hcell, -, -, hblock,
    hbuilder, hothers⟩ := h.parts
  refine ⟨builder, others, ?_, hbuilder, hothers⟩
  have hmembers : s'.members t = (s'.cell body).children := by
    rw [Store.members, hcell]
    rfl
  rw [hmembers, hblock]
  rfl

theorem countP_of_defined {methods : List Method} {others : List TokenId} (name : String)
    (h : List.Forall₂ (fun m k => m.Defined s s' k) methods others) :
    (others.map some).countP (s'.isMethodNamed name) = methods.countP (·.name == name) := by
  induction h with
  | nil => rfl
  | cons hfirst _ ih => rw [List.map_cons, List.countP_cons, List.countP_cons, ih, hfirst.isMethodNamed]

/-- A class has a member called `constructor` for its function, when that does something, and one
for every method of this name. -/
theorem Declared.count_constructors (h : c.Declared s s' t) (hb : c.builder.name = "constructor") :
    (s'.members t).countP (s'.isMethodNamed "constructor") =
      (if s.emptyBody c.builder = true then 0 else 1) +
        c.methods.countP (·.name == "constructor") := by
  obtain ⟨builder, others, hmembers, hbuilder, hothers⟩ := h.members_eq
  rw [hmembers, List.map_append, List.countP_append, countP_of_defined "constructor" hothers]
  congr 1
  cases builder with
  | none =>
      have hempty : s.emptyBody c.builder = true := hbuilder
      rw [if_pos hempty]
      rfl
  | some k =>
      obtain ⟨hbody, hdefined⟩ := hbuilder
      have hone : s'.isMethodNamed "constructor" (some k) = true := by
        rw [hdefined.isMethodNamed, hb]
        exact beq_self_eq_true _
      rw [hbody, if_neg (by simp), Option.toList_some, List.map_singleton,
        List.countP_cons_of_pos hone]
      rfl

/-- Where no method is called so, a member called `constructor` is the first one, and has the
argument list and the body of the function. -/
theorem Declared.constructor_first (h : c.Declared s s' t)
    (hmethods : ∀ m ∈ c.methods, m.name ≠ "constructor") (hk : some k ∈ s'.members t)
    (hname : s'.isMethodNamed "constructor" (some k) = true) :
    (s'.members t).head? = some (some k) ∧ (s'.cell k).children.drop 1 = s.shared c.builder := by
  obtain ⟨builder, others, hmembers, hbuilder, hothers⟩ := h.members_eq
  rw [hmembers] at hk ⊢
  -- the methods keep their names, so the member is not one of them
  have hnone : k ∉ others := by
    intro hmem
    have hcount := countP_of_defined "constructor" hothers
    have hzero : c.methods.countP (·.name == "constructor") = 0 := by
      rw [List.countP_eq_zero]
      intro m hm
      simpa using hmethods m hm
    rw [hzero, List.countP_eq_zero] at hcount
    exact hcount (some k) (List.mem_map_of_mem hmem) hname
  cases builder with
  | none =>
      rw [Option.toList_none, List.nil_append] at hk
      obtain ⟨k', hk', he⟩ := List.mem_map.mp hk
      cases he
      exact absurd hk' hnone
  | some b =>
      have hkb : k = b := by
        obtain ⟨k', hk', he⟩ := List.mem_map.mp hk
        cases he
        rcases List.mem_append.mp hk' with hk' | hk'
        · simpa using hk'
        · exact absurd hk' hnone
      subst hkb
      obtain ⟨f, name, comments, -, -, hcell, -⟩ := hbuilder.2.parts
      refine ⟨rfl, ?_⟩
      rw [hcell]
      rfl

end Candidate

end ClassLift
