import ClassLift.Proofs.Computation

set_option autoImplicit false

/-! # What the tests on statements say

When a test on a statement succeeds, the statement has the form that the test looks for. The
lemmas here read that form off a test: kinds, values and children of the tokens involved. In
particular, a function that a statement gives as a method can become one
(`methods_convertible`), and a statement that modifies a prototype is an assignment or a
call (`kind_of_prototypeOwner`).
-/

namespace ClassLift.Store

variable {s : Store} {slot : Slot}

/-! ## Kinds and values -/

theorem label_eq_ok {l : Label} : s.label slot = .ok l ↔ s.label? slot = some l := by
  unfold label
  cases s.label? slot <;> simp

theorem hasKind_iff {kind : Kind} :
    s.hasKind kind slot = true ↔ ∃ l, s.label? slot = some l ∧ l.kind = kind := by
  unfold hasKind
  cases s.label? slot <;> simp

theorem hasKind_of_cell {t : TokenId} {c : Cell} {kind : Kind} (h : s.cell t = c)
    (hk : c.label.kind = kind) : s.hasKind kind (some t) = true :=
  hasKind_iff.mpr ⟨(s.cell t).label, rfl, by rw [h, hk]⟩

theorem isToken_iff {kind : Kind} {value : String} :
    s.isToken kind value slot = true ↔
      ∃ l, s.label? slot = some l ∧ l.kind = kind ∧ l.value = value := by
  unfold isToken
  cases s.label? slot <;> simp

theorem hasKind_of_isToken {kind : Kind} {value : String} (h : s.isToken kind value slot = true) :
    s.hasKind kind slot = true := by
  obtain ⟨l, hl, hk, -⟩ := isToken_iff.mp h
  exact hasKind_iff.mpr ⟨l, hl, hk⟩

theorem hasKind_unique {kind kind' : Kind} (h : s.hasKind kind slot = true)
    (h' : s.hasKind kind' slot = true) : kind = kind' := by
  obtain ⟨l, hl, hk⟩ := hasKind_iff.mp h
  obtain ⟨l', hl', hk'⟩ := hasKind_iff.mp h'
  rw [hl] at hl'
  cases hl'
  rw [← hk, ← hk']

theorem hasKind_of_ne {kind kind' : Kind} (h : s.hasKind kind slot = true) (hne : kind ≠ kind') :
    s.hasKind kind' slot = false :=
  (Bool.not_eq_true _).mp fun h' => hne (hasKind_unique h h')

/-- A slot with a token that has a certain label. -/
theorem exists_token_of_label {l : Label} (h : s.label slot = .ok l) :
    ∃ t, slot = some t ∧ (s.cell t).label = l := by
  cases slot with
  | none => cases h
  | some t => cases h; exact ⟨t, rfl, rfl⟩

theorem exists_token_of_hasKind {kind : Kind} (h : s.hasKind kind slot = true) :
    ∃ t, slot = some t ∧ (s.cell t).label.kind = kind := by
  obtain ⟨l, hl, hk⟩ := hasKind_iff.mp h
  obtain ⟨t, rfl, ht⟩ := exists_token_of_label (label_eq_ok.mpr hl)
  exact ⟨t, rfl, by rw [ht, hk]⟩

theorem kind_of_hasKind {kind : Kind} {t : TokenId} (h : s.hasKind kind (some t) = true) :
    (s.cell t).label.kind = kind := by
  obtain ⟨_, he, hkind⟩ := exists_token_of_hasKind h
  cases he
  exact hkind

theorem kind_mem_of_hasKind {kind : Kind} {kinds : List Kind} {t : TokenId}
    (h : s.hasKind kind (some t) = true) (hmem : kind ∈ kinds) : (s.cell t).label.kind ∈ kinds := by
  rwa [kind_of_hasKind h]

/-- A token of some kind is one of the store. -/
theorem lt_size_of_hasKind {kind : Kind} {t : TokenId} (h : s.hasKind kind (some t) = true)
    (hk : kind ≠ "") : t < s.size := by
  refine Nat.lt_of_not_le fun hn => ?_
  obtain ⟨l, hl, hkind⟩ := hasKind_iff.mp h
  cases hl
  have hcell : s.cell t = default := by
    simp only [size] at hn
    simp [cell, hn]
  have hkind : (s.cell t).label.kind = kind := hkind
  rw [hcell] at hkind
  exact hk hkind.symm

theorem child_eq_ok {n : Nat} {c : Slot} : s.child slot n = .ok c ↔ (s.children slot)[n]? = some c := by
  cases slot with
  | none => simp [child, children]
  | some t =>
      unfold child children
      dsimp only
      cases (s.cell t).children[n]? <;> simp

/-! ## Containers -/

/-- A source file or a block of statements. -/
def isContainer (s : Store) (slot : Slot) : Bool :=
  s.hasKind Kind.sourceFile slot || s.hasKind Kind.block slot

theorem isContainer_some {t : TokenId} : s.isContainer (some t) = true ↔
    (s.cell t).label.kind = Kind.sourceFile ∨ (s.cell t).label.kind = Kind.block := by
  simp [isContainer, hasKind, label?]

theorem kind_mem_of_isContainer {t : TokenId} (h : s.isContainer (some t) = true) :
    (s.cell t).label.kind ∈ [Kind.sourceFile, Kind.block] := by
  simpa using isContainer_some.mp h

/-- A container is of no other kind. -/
theorem hasKind_of_isContainer {kind : Kind} (h : s.isContainer slot = true)
    (hk : kind ≠ Kind.sourceFile ∧ kind ≠ Kind.block) : s.hasKind kind slot = false := by
  refine (Bool.not_eq_true _).mp fun hkind => ?_
  rcases Bool.or_eq_true_iff.mp h with hc | hc
  · exact hk.1 (hasKind_unique hkind hc)
  · exact hk.2 (hasKind_unique hkind hc)

theorem isContainer_of_hasKind {kind : Kind} (h : s.hasKind kind slot = true)
    (hk : kind ≠ Kind.sourceFile ∧ kind ≠ Kind.block) : s.isContainer slot = false := by
  refine (Bool.not_eq_true _).mp fun hc => ?_
  rw [hasKind_of_isContainer hc hk] at h
  cases h

/-! ## Functions -/

theorem label_of_isConvertible {b : Bool} (h : s.isConvertible slot = .ok b) :
    ∃ l, s.label slot = .ok l := by
  unfold isConvertible at h
  obtain ⟨l, hl, -⟩ := bind_eq_ok.mp h
  exact ⟨l, hl⟩

/-- A function that can become a method has three children, the last of which is a block. -/
theorem isConvertible_eq_true (h : s.isConvertible slot = .ok true) :
    (s.hasKind Kind.functionDecl slot = true ∨ s.hasKind Kind.anonymousFunction slot = true) ∧
      ∃ name arguments body, s.children slot = [name, arguments, body] ∧
        s.hasKind Kind.block body = true := by
  unfold isConvertible at h
  obtain ⟨l, hl, h⟩ := bind_eq_ok.mp h
  have hl' := label_eq_ok.mp hl
  split at h
  case isFalse => cases h
  rename_i hkind
  constructor
  · exact hkind.imp (fun hk => hasKind_iff.mpr ⟨l, hl', hk⟩) (fun hk => hasKind_iff.mpr ⟨l, hl', hk⟩)
  · split at h
    · rename_i name arguments body hchildren
      obtain ⟨lb, hlb, h⟩ := bind_eq_ok.mp h
      simp only [pure, Except.pure, Except.ok.injEq, beq_iff_eq] at h
      exact ⟨name, arguments, body, hchildren, hasKind_iff.mpr ⟨lb, label_eq_ok.mp hlb, h⟩⟩
    · cases h

theorem kind_mem_of_isConvertible {t : TokenId} (h : s.isConvertible (some t) = .ok true) :
    (s.cell t).label.kind ∈ [Kind.functionDecl, Kind.anonymousFunction] :=
  (isConvertible_eq_true h).1.elim (kind_mem_of_hasKind · (by decide))
    (kind_mem_of_hasKind · (by decide))

/-! ## Member accesses -/

theorem memberParts_eq_some {object attr : Slot} (h : s.memberParts? slot = some (object, attr)) :
    s.isToken Kind.member "." slot = true ∧ s.children slot = [object, attr] := by
  unfold memberParts? at h
  split at h
  case h_2 => cases h
  rename_i o a hc
  split at h
  case isFalse => cases h
  rename_i hk
  cases h
  exact ⟨hk, hc⟩

theorem memberNamed_eq_some {name : String} {object : Slot}
    (h : s.memberNamed? name slot = some object) :
    ∃ attr, s.memberParts? slot = some (object, attr) ∧
      s.isToken Kind.memberName name attr = true := by
  unfold memberNamed? at h
  split at h
  case h_2 => cases h
  rename_i o a hp
  split at h
  case isFalse => cases h
  rename_i ha
  cases h
  exact ⟨a, hp, ha⟩

theorem prototypeOf_eq_some {name : String} (h : s.prototypeOf? slot = some name) :
    ∃ object, s.memberNamed? "prototype" slot = some object ∧
      s.isToken Kind.text name object = true := by
  unfold prototypeOf? at h
  split at h
  case h_2 => cases h
  rename_i object ho
  split at h
  case isFalse => cases h
  rename_i hk
  obtain ⟨l, hl, hkind⟩ := hasKind_iff.mp hk
  refine ⟨object, ho, isToken_iff.mpr ⟨l, hl, hkind, ?_⟩⟩
  simpa [value, hl] using h

theorem prototypeMember_eq_some {owner name : String}
    (h : s.prototypeMember? slot = some (owner, name)) :
    ∃ object attr, s.memberParts? slot = some (object, attr) ∧
      s.isToken Kind.memberName name attr = true ∧ s.prototypeOf? object = some owner := by
  unfold prototypeMember? at h
  split at h
  case h_2 => cases h
  rename_i object attr hp
  split at h
  case isFalse => cases h
  rename_i hk
  obtain ⟨o, ho, h⟩ := Option.map_eq_some_iff.mp h
  cases h
  obtain ⟨l, hl, hkind⟩ := hasKind_iff.mp hk
  exact ⟨object, attr, hp, isToken_iff.mpr ⟨l, hl, hkind, by simp [value, hl]⟩, ho⟩

/-- `A.prototype.name` is not the prototype of a plain name. -/
theorem prototypeOf_eq_none_of_member {owner name : String}
    (h : s.prototypeMember? slot = some (owner, name)) : s.prototypeOf? slot = none := by
  obtain ⟨object, attr, hp, -, ho⟩ := prototypeMember_eq_some h
  cases hn : s.prototypeOf? slot with
  | none => rfl
  | some n =>
      obtain ⟨o, hm, htext⟩ := prototypeOf_eq_some hn
      obtain ⟨a, hp', -⟩ := memberNamed_eq_some hm
      rw [hp] at hp'
      cases hp'
      obtain ⟨o', hm', -⟩ := prototypeOf_eq_some ho
      obtain ⟨a', hp'', -⟩ := memberNamed_eq_some hm'
      have hmember := hasKind_of_isToken (memberParts_eq_some hp'').1
      exact absurd (hasKind_unique (hasKind_of_isToken htext) hmember) (by decide)

/-- And the prototype of a plain name is no member of one. -/
theorem prototypeMember_eq_none_of_prototypeOf {owner : String}
    (h : s.prototypeOf? slot = some owner) : s.prototypeMember? slot = none := by
  cases hm : s.prototypeMember? slot with
  | none => rfl
  | some p =>
      rw [prototypeOf_eq_none_of_member hm] at h
      cases h

/-! ## Assignments and calls -/

theorem isAssign_eq_true (h : s.isAssign slot = .ok true) :
    s.isToken Kind.assign "=" slot = true ∧
      ∃ target value, s.children slot = [target, value] := by
  unfold isAssign at h
  obtain ⟨l, hl, h⟩ := bind_eq_ok.mp h
  simp only [pure, Except.pure, Except.ok.injEq, Bool.and_eq_true, beq_iff_eq] at h
  obtain ⟨⟨hk, hv⟩, hn⟩ := h
  refine ⟨isToken_iff.mpr ⟨l, label_eq_ok.mp hl, hk, hv⟩, ?_⟩
  match hc : s.children slot, hn with
  | [target, value], _ => exact ⟨target, value, rfl⟩

theorem kind_of_isAssign (h : s.isAssign slot = .ok true) : s.hasKind Kind.assign slot = true :=
  hasKind_of_isToken (isAssign_eq_true h).1

theorem argumentsOf_eq_some {object member : String} {arguments : List Slot}
    (h : s.argumentsOf? object member slot = some arguments) :
    s.hasKind Kind.call slot = true ∧ ∃ callee list o, s.children slot = [callee, list] ∧
      s.hasKind Kind.arguments list = true ∧ s.children list = arguments ∧
      s.memberNamed? member callee = some o ∧ s.isToken Kind.text object o = true := by
  unfold argumentsOf? at h
  split at h
  case h_2 => cases h
  rename_i callee list hchildren
  split at h
  case isFalse => cases h
  rename_i hk
  simp only [Bool.and_eq_true] at hk
  split at h
  case h_2 => cases h
  rename_i o ho
  split at h
  case isFalse => cases h
  rename_i hobject
  cases h
  exact ⟨hk.1, callee, list, o, hchildren, hk.2, rfl, ho, hobject⟩

theorem argumentsOf_of_kind {object member : String} (h : s.hasKind Kind.call slot = false) :
    s.argumentsOf? object member slot = none := by
  unfold argumentsOf?
  rw [h]
  split <;> rfl

/-- An assignment is no call of `util.inherits`. -/
theorem utilInherits_of_isAssign (h : s.isAssign slot = .ok true) :
    s.utilInherits? slot = .ok none := by
  unfold utilInherits?
  rw [argumentsOf_of_kind (hasKind_of_ne (kind_of_isAssign h) (by decide))]
  rfl

theorem utilInherits_eq_some {name : String} {base : Slot}
    (h : s.utilInherits? slot = .ok (some (name, base))) :
    s.hasKind Kind.call slot = true ∧ ∃ callee list owner, s.children slot = [callee, list] ∧
      s.hasKind Kind.arguments list = true ∧ s.children list = [owner, base] ∧
      s.hasKind Kind.text owner = true ∧ s.value owner = name ∧
      s.isClassReference base = .ok true := by
  unfold utilInherits? at h
  split at h
  case h_2 => cases h
  rename_i owner b hargs
  obtain ⟨hk, callee, list, o, hc, hlist, harg, -, -⟩ := argumentsOf_eq_some hargs
  split at h
  case isFalse => cases h
  rename_i howner
  obtain ⟨r, hr, h⟩ := bind_eq_ok.mp h
  cases r with
  | false => cases h
  | true =>
      simp only [pure, Except.pure, if_true, Except.ok.injEq, Option.some.injEq, Prod.mk.injEq] at h
      obtain ⟨rfl, rfl⟩ := h
      exact ⟨hk, callee, list, owner, hc, hlist, harg, howner, rfl, hr⟩

/-! ## Statements about a prototype -/

theorem label_of_prototypeOwner {o : Option String} (h : s.prototypeOwner? slot = .ok o) :
    ∃ l, s.label slot = .ok l := by
  cases slot with
  | none => cases h
  | some t => exact ⟨(s.cell t).label, rfl⟩

/-- A statement that modifies a prototype is a call or an assignment. -/
theorem kind_of_prototypeOwner {name : String} (h : s.prototypeOwner? slot = .ok (some name)) :
    s.hasKind Kind.call slot = true ∨ s.hasKind Kind.assign slot = true := by
  unfold prototypeOwner? at h
  obtain ⟨r, hr, h⟩ := bind_eq_ok.mp h
  cases r with
  | some p => exact Or.inl (utilInherits_eq_some hr).1
  | none =>
      obtain ⟨b, hb, h⟩ := bind_eq_ok.mp h
      cases b with
      | true => exact Or.inr (kind_of_isAssign hb)
      | false => cases h

theorem replacesPrototype_eq_true (h : s.replacesPrototype slot = .ok true) :
    s.isAssign slot = .ok true ∧ ∃ target value owner, s.children slot = [target, value] ∧
      s.prototypeOf? target = some owner := by
  unfold replacesPrototype at h
  obtain ⟨b, hb, h⟩ := bind_eq_ok.mp h
  cases b with
  | false => cases h
  | true =>
      obtain ⟨target, htarget, h⟩ := bind_eq_ok.mp h
      obtain ⟨-, t, v, hc⟩ := isAssign_eq_true hb
      have ht := child_eq_ok.mp htarget
      rw [hc] at ht
      cases ht
      simp only [pure, Except.pure, Except.ok.injEq] at h
      obtain ⟨owner, ho⟩ := Option.isSome_iff_exists.mp h
      exact ⟨hb, _, v, owner, hc, ho⟩

/-- The owner of a prototype that an assignment modifies stands in the target. -/
theorem prototypeOwner_of_isAssign {name : String} {target value : Slot}
    (h : s.prototypeOwner? slot = .ok (some name)) (ha : s.isAssign slot = .ok true)
    (hc : s.children slot = [target, value]) :
    s.prototypeOf? target = some name ∨
      ∃ member, s.prototypeMember? target = some (name, member) := by
  unfold prototypeOwner? at h
  obtain ⟨r, hr, h⟩ := bind_eq_ok.mp h
  cases r with
  | some p =>
      have hcall := (utilInherits_eq_some hr).1
      exact absurd (hasKind_unique hcall (kind_of_isAssign ha)) (by decide)
  | none =>
      obtain ⟨b, hb, h⟩ := bind_eq_ok.mp h
      rw [ha] at hb
      cases hb
      obtain ⟨t, ht, h⟩ := bind_eq_ok.mp h
      rw [child_eq_ok, hc] at ht
      cases ht
      simp only [pure, Except.pure, Except.ok.injEq, Option.orElse_eq_orElse, Option.orElse_eq_or,
        Option.or_eq_some_iff, Option.map_eq_some_iff, Prod.exists, exists_and_right,
        exists_eq_right] at h
      exact h.imp id (fun h => h.2)

theorem isConstructorReset_eq_true {name : String} (h : s.isConstructorReset name slot = .ok true) :
    s.isAssign slot = .ok true ∧ ∃ target value owner, s.children slot = [target, value] ∧
      s.prototypeMember? target = some (owner, "constructor") ∧
      s.isToken Kind.text name value = true := by
  unfold isConstructorReset at h
  obtain ⟨b, hb, h⟩ := bind_eq_ok.mp h
  cases b with
  | false => cases h
  | true =>
      obtain ⟨-, t, v, hc⟩ := isAssign_eq_true hb
      obtain ⟨target, htarget, h⟩ := bind_eq_ok.mp h
      rw [child_eq_ok, hc] at htarget
      cases htarget
      split at h
      case h_2 => cases h
      rename_i owner member hmember
      split at h
      case isFalse => cases h
      rename_i hconstructor
      obtain ⟨value, hvalue, h⟩ := bind_eq_ok.mp h
      rw [child_eq_ok, hc] at hvalue
      cases hvalue
      obtain ⟨l, hl, h⟩ := bind_eq_ok.mp h
      simp only [pure, Except.pure, Except.ok.injEq, Bool.and_eq_true, beq_iff_eq] at h
      rw [hconstructor] at hmember
      exact ⟨hb, _, _, owner, hc, hmember, isToken_iff.mpr ⟨l, label_eq_ok.mp hl, h⟩⟩

/-! ## Super classes -/

theorem isSome_of_isClassReference {b : Bool} (h : s.isClassReference slot = .ok b) :
    slot.isSome = true := by
  cases slot with
  | none =>
      unfold isClassReference at h
      cases hn : s.size with
      | zero => rw [hn] at h; cases h
      | succ n => rw [hn] at h; cases h
  | some t => rfl

theorem objectCreate_eq_some {base : Slot} (h : s.objectCreate? slot = .ok (some base)) :
    s.hasKind Kind.call slot = true ∧ ∃ callee list argument attr,
      s.children slot = [callee, list] ∧ s.hasKind Kind.arguments list = true ∧
      s.children list = [argument] ∧ s.memberParts? argument = some (base, attr) ∧
      s.isClassReference base = .ok true := by
  unfold objectCreate? at h
  split at h
  case h_2 => cases h
  rename_i argument hargs
  obtain ⟨hk, callee, list, o, hc, hlist, harg, -, -⟩ := argumentsOf_eq_some hargs
  split at h
  case h_2 => cases h
  rename_i b attr hp
  obtain ⟨r, hr, h⟩ := bind_eq_ok.mp h
  cases r with
  | false => cases h
  | true =>
      simp only [if_true, pure, Except.pure, Except.ok.injEq] at h
      split at h
      · cases h
        exact ⟨hk, callee, list, argument, attr, hc, hlist, harg, hp, hr⟩
      · cases h

/-- How `instantiated?` ends, whichever way it found what is instantiated. -/
def ifReference (s : Store) : Option Slot → Except Fault (Option Slot)
  | none => return none
  | some base => do return if ← s.isClassReference base then some base else none

theorem ifReference_eq_some {base : Slot} (found : Option Slot)
    (h : s.ifReference found = .ok (some base)) :
    found = some base ∧ s.isClassReference base = .ok true := by
  cases found with
  | none => cases h
  | some b =>
      obtain ⟨r, hr, h⟩ := bind_eq_ok.mp h
      cases r with
      | false => cases h
      | true => cases h; exact ⟨rfl, hr⟩

theorem instantiated_eq_some {base : Slot} (h : s.instantiated? slot = .ok (some base)) :
    s.hasKind Kind.instantiate slot = true ∧ s.isClassReference base = .ok true ∧
      ∃ target, s.children slot = [target] ∧
        (base = target ∨ ∃ list, s.hasKind Kind.call target = true ∧ s.children target = [base, list]) := by
  unfold instantiated? at h
  obtain ⟨l, hl, h⟩ := bind_eq_ok.mp h
  split at h
  case h_2 => cases h
  rename_i target hc
  split at h
  case isFalse => cases h
  rename_i hk
  have hkind := hasKind_iff.mpr ⟨l, label_eq_ok.mp hl, hk⟩
  obtain ⟨lt, hlt, h⟩ := bind_eq_ok.mp h
  dsimp only at h
  split at h
  -- `new` of a call counts only where the call has no arguments
  · rename_i hcall
    split at h
    · rename_i callee list htarget
      obtain ⟨ll, -, h⟩ := bind_eq_ok.mp h
      obtain ⟨b, hb, h⟩ := bind_eq_ok.mp h
      obtain ⟨rfl, hr⟩ := ifReference_eq_some b h
      simp only [pure, Except.pure, Except.ok.injEq] at hb
      split at hb
      · cases hb
        have hcall' := hasKind_iff.mpr ⟨lt, label_eq_ok.mp hlt, hcall⟩
        exact ⟨hkind, hr, target, hc, Or.inr ⟨list, hcall', htarget⟩⟩
      · cases hb
    · cases h
  · obtain ⟨b, hb, h⟩ := bind_eq_ok.mp h
    obtain ⟨rfl, hr⟩ := ifReference_eq_some b h
    cases hb
    exact ⟨hkind, hr, _, hc, Or.inl rfl⟩

/-- A statement sets a super class as `util.inherits(A, B)`, or by assigning a prototype. -/
theorem superClass_eq_some {base : Slot} (h : s.superClass? slot = .ok (some base)) :
    (∃ name, s.utilInherits? slot = .ok (some (name, base))) ∨
      (s.replacesPrototype slot = .ok true ∧ ∃ target value, s.children slot = [target, value] ∧
        (s.objectCreate? value = .ok (some base) ∨ s.instantiated? value = .ok (some base))) := by
  unfold superClass? at h
  obtain ⟨r, hr, h⟩ := bind_eq_ok.mp h
  cases r with
  | some p =>
      cases h
      exact Or.inl ⟨p.1, hr⟩
  | none =>
      right
      obtain ⟨b, hb, h⟩ := bind_eq_ok.mp h
      cases b with
      | false => cases h
      | true =>
          obtain ⟨-, t, v, o, hc, -⟩ := replacesPrototype_eq_true hb
          obtain ⟨value, hvalue, h⟩ := bind_eq_ok.mp h
          rw [child_eq_ok, hc] at hvalue
          cases hvalue
          obtain ⟨c, hcreate, h⟩ := bind_eq_ok.mp h
          cases c with
          | some b =>
              cases h
              exact ⟨hb, t, _, hc, Or.inl hcreate⟩
          | none => exact ⟨hb, t, _, hc, Or.inr h⟩

theorem isClassReference_of_superClass {base : Slot} (h : s.superClass? slot = .ok (some base)) :
    s.isClassReference base = .ok true := by
  rcases superClass_eq_some h with ⟨name, hu⟩ | ⟨-, target, value, -, hc | hi⟩
  · obtain ⟨-, callee, list, owner, -, -, -, -, -, hr⟩ := utilInherits_eq_some hu
    exact hr
  · obtain ⟨-, callee, list, argument, attr, -, -, -, -, hr⟩ := objectCreate_eq_some hc
    exact hr
  · exact (instantiated_eq_some hi).2.1

/-! ## Declarations -/

theorem label_of_declaration {block : Slot} {o : Option Candidate}
    (h : s.declaration? block slot = .ok o) : ∃ l, s.label slot = .ok l := by
  unfold declaration? at h
  obtain ⟨l, hl, -⟩ := bind_eq_ok.mp h
  exact ⟨l, hl⟩

/-- A function that can become a class and has the given name, which is not empty. -/
structure IsFunctionNamed (s : Store) (name : String) (slot : Slot) : Prop where
  kind : s.hasKind Kind.functionDecl slot = true
  convertible : s.isConvertible slot = .ok true
  named : s.firstName slot = .ok name
  nonempty : name ≠ ""

/-- A function in `parent`, and the candidate that it is. -/
structure IsFunctionIn (s : Store) (parent slot : Slot) (c : Candidate) : Prop extends
    s.IsFunctionNamed c.name slot where
  eq : c = .start c.name ⟨"constructor", slot, slot, [], parent, ""⟩ slot [slot] parent

theorem functionDeclaration_eq_some_iff {parent : Slot} {c : Candidate} :
    s.functionDeclaration? parent slot = .ok (some c) ↔ s.IsFunctionIn parent slot c := by
  unfold functionDeclaration?
  constructor
  · intro h
    obtain ⟨l, hl, h⟩ := bind_eq_ok.mp h
    dsimp only at h
    split at h
    case isFalse => cases h
    rename_i hk
    obtain ⟨b, hb, h⟩ := bind_eq_ok.mp h
    cases b with
    | false => cases h
    | true =>
        obtain ⟨name, hname, h⟩ := bind_eq_ok.mp h
        split at h
        · cases h
        · rename_i hne
          cases h
          exact ⟨⟨hasKind_iff.mpr ⟨l, label_eq_ok.mp hl, hk⟩, hb, hname, hne⟩, rfl⟩
  · intro h
    obtain ⟨l, hl, hk⟩ := hasKind_iff.mp h.kind
    refine bind_eq_ok.mpr ⟨l, label_eq_ok.mpr hl, ?_⟩
    rw [if_pos hk]
    refine bind_eq_ok.mpr ⟨true, h.convertible, bind_eq_ok.mpr ⟨c.name, h.named, ?_⟩⟩
    rw [if_neg h.nonempty]
    exact congrArg (fun c => Except.ok (some c)) h.eq.symm

theorem functionDeclaration_of_kind {parent : Slot} {l : Label} (hl : s.label slot = .ok l)
    (hk : l.kind ≠ Kind.functionDecl) : s.functionDeclaration? parent slot = .ok none := by
  unfold functionDeclaration?
  rw [hl]
  simp only [bind, Except.bind, hk, if_false]
  rfl

/-- A variable of `block` that is declared as a function, and the candidate that it is. -/
structure IsVariableIn (s : Store) (block slot : Slot) (c : Candidate) : Prop where
  kind : s.hasKind Kind.varDecl slot = true
  parts : ∃ assignment target value, s.children slot = [assignment] ∧
    s.isAssign assignment = .ok true ∧ s.children assignment = [target, value] ∧
    s.isToken Kind.text c.name target = true ∧ s.isConvertible value = .ok true ∧
    c = .start c.name ⟨"constructor", value, value, [], assignment, ""⟩ slot [slot] block

theorem variableDeclaration_eq_some_iff {block : Slot} {c : Candidate} :
    s.variableDeclaration? block slot = .ok (some c) ↔ s.IsVariableIn block slot c := by
  unfold variableDeclaration?
  constructor
  · intro h
    split at h
    case h_2 => cases h
    rename_i assignment hc
    split at h
    case isFalse => cases h
    rename_i hk
    obtain ⟨b, hb, h⟩ := bind_eq_ok.mp h
    cases b with
    | false => cases h
    | true =>
        -- the only child assigns a convertible function to a plain name
        obtain ⟨-, t, v, hparts⟩ := isAssign_eq_true hb
        obtain ⟨target, htarget, h⟩ := bind_eq_ok.mp h
        obtain ⟨value, hvalue, h⟩ := bind_eq_ok.mp h
        rw [child_eq_ok, hparts] at htarget hvalue
        cases htarget
        cases hvalue
        obtain ⟨l, hl, h⟩ := bind_eq_ok.mp h
        split at h
        case isFalse => cases h
        rename_i htext
        obtain ⟨b', hb', h⟩ := bind_eq_ok.mp h
        cases b' with
        | false => cases h
        | true =>
            cases h
            refine ⟨hk, assignment, _, _, hc, hb, hparts, ?_, hb', rfl⟩
            exact isToken_iff.mpr ⟨l, label_eq_ok.mp hl, htext, rfl⟩
  · rintro ⟨hk, assignment, target, value, hc, hassign, hparts, htext, hvalue, heq⟩
    obtain ⟨l, hl, hkind, hname⟩ := isToken_iff.mp htext
    rw [hc]
    dsimp only
    rw [if_pos hk]
    refine bind_eq_ok.mpr ⟨true, hassign, ?_⟩
    refine bind_eq_ok.mpr ⟨target, child_eq_ok.mpr (by rw [hparts]; rfl), ?_⟩
    refine bind_eq_ok.mpr ⟨value, child_eq_ok.mpr (by rw [hparts]; rfl), ?_⟩
    refine bind_eq_ok.mpr ⟨l, label_eq_ok.mpr hl, ?_⟩
    rw [if_pos hkind]
    refine bind_eq_ok.mpr ⟨true, hvalue, ?_⟩
    rw [hname, heq]
    rfl

theorem variableDeclaration_of_kind {block : Slot} (h : s.hasKind Kind.varDecl slot = false) :
    s.variableDeclaration? block slot = .ok none := by
  unfold variableDeclaration?
  split
  · rw [h]
    rfl
  · rfl

/-- How `declaration?` goes on, wherever it looked for a function: a variable comes second. -/
def orVariable (s : Store) (block slot : Slot) : Option Candidate → Except Fault (Option Candidate)
  | some c => return some c
  | none => s.variableDeclaration? block slot

theorem orVariable_eq_some {block : Slot} {plain : Except Fault (Option Candidate)} {c : Candidate}
    (h : plain >>= s.orVariable block slot = .ok (some c)) :
    plain = .ok (some c) ∨ s.IsVariableIn block slot c := by
  obtain ⟨found, hfound, h⟩ := bind_eq_ok.mp h
  cases found with
  | some c' => cases h; exact Or.inl hfound
  | none => exact Or.inr (variableDeclaration_eq_some_iff.mp h)

/-- A statement that is no export is looked at itself. -/
theorem declaration_of_not_export {block : Slot} {l : Label} (hl : s.label slot = .ok l)
    (hk : l.kind ≠ Kind.exportDecl) : s.declaration? block slot =
      s.functionDeclaration? block slot >>= s.orVariable block slot := by
  unfold declaration?
  rw [hl]
  dsimp only [bind, Except.bind]
  cases s.children slot with
  | nil => rfl
  | cons first rest =>
      dsimp only
      rw [if_neg hk]
      rfl

/-- **The three forms of a declaration**: a function, an export of one, and a variable that is one. -/
theorem declaration_eq_some_iff {block : Slot} {c : Candidate} :
    s.declaration? block slot = .ok (some c) ↔
      s.IsFunctionIn block slot c ∨
        (s.hasKind Kind.exportDecl slot = true ∧
          ∃ first rest, s.children slot = first :: rest ∧ s.IsFunctionIn slot first c) ∨
        s.IsVariableIn block slot c := by
  constructor
  · intro h
    unfold declaration? at h
    obtain ⟨l, hl, h⟩ := bind_eq_ok.mp h
    dsimp only at h
    split at h
    · rename_i first rest hc
      split at h
      · rename_i hk
        have hkind := hasKind_iff.mpr ⟨l, label_eq_ok.mp hl, hk⟩
        rcases orVariable_eq_some h with hplain | hvar
        · exact Or.inr (Or.inl ⟨hkind, first, rest, hc, functionDeclaration_eq_some_iff.mp hplain⟩)
        · exact Or.inr (Or.inr hvar)
      · rcases orVariable_eq_some h with hplain | hvar
        · exact Or.inl (functionDeclaration_eq_some_iff.mp hplain)
        · exact Or.inr (Or.inr hvar)
    · rcases orVariable_eq_some h with hplain | hvar
      · exact Or.inl (functionDeclaration_eq_some_iff.mp hplain)
      · exact Or.inr (Or.inr hvar)
  · rintro (hf | ⟨hexport, first, rest, hc, hf⟩ | hv)
    · obtain ⟨l, hl, hk⟩ := hasKind_iff.mp hf.kind
      rw [declaration_of_not_export (label_eq_ok.mpr hl) (by rw [hk]; decide),
        functionDeclaration_eq_some_iff.mpr hf]
      rfl
    · obtain ⟨l, hl, hk⟩ := hasKind_iff.mp hexport
      unfold declaration?
      rw [label_eq_ok.mpr hl, hc]
      refine bind_eq_ok.mpr ⟨l, rfl, ?_⟩
      dsimp only
      rw [if_pos hk, functionDeclaration_eq_some_iff.mpr hf]
      rfl
    · obtain ⟨l, hl, hk⟩ := hasKind_iff.mp hv.kind
      have hl := label_eq_ok.mpr hl
      rw [declaration_of_not_export hl (by rw [hk]; decide),
        functionDeclaration_of_kind hl (by rw [hk]; decide)]
      exact variableDeclaration_eq_some_iff.mpr hv

/-- A candidate starts without methods and without a super class. -/
theorem start_of_declaration {block : Slot} {c : Candidate}
    (h : s.declaration? block slot = .ok (some c)) :
    c.methods = [] ∧ c.superClass = none ∧ c.inheritance = [] := by
  rcases declaration_eq_some_iff.mp h with hf | ⟨-, first, rest, -, hf⟩ | ⟨-, a, t, v, -, -, -, -, -, hc⟩
  · rw [hf.eq]; exact ⟨rfl, rfl, rfl⟩
  · rw [hf.eq]; exact ⟨rfl, rfl, rfl⟩
  · rw [hc]; exact ⟨rfl, rfl, rfl⟩

/-- What gives way to the class is the declaration of a function or of a variable. -/
theorem kind_of_declared {block : Slot} {c : Candidate}
    (h : s.declaration? block slot = .ok (some c)) :
    s.hasKind Kind.functionDecl c.statement = true ∨ s.hasKind Kind.varDecl c.statement = true := by
  rcases declaration_eq_some_iff.mp h with hf | ⟨-, first, rest, -, hf⟩ | ⟨hk, a, t, v, -, -, -, -, -, hc⟩
  · rw [hf.eq]
    exact Or.inl hf.kind
  · rw [hf.eq]
    exact Or.inl hf.kind
  · rw [hc]
    exact Or.inr hk

/-- A declaration is a function, an export or a variable. -/
theorem kind_of_declaration {block : Slot} {c : Candidate}
    (h : s.declaration? block slot = .ok (some c)) :
    s.hasKind Kind.functionDecl slot = true ∨ s.hasKind Kind.exportDecl slot = true ∨
      s.hasKind Kind.varDecl slot = true := by
  rcases declaration_eq_some_iff.mp h with hf | ⟨hk, -⟩ | hv
  · exact Or.inl hf.kind
  · exact Or.inr (Or.inl hk)
  · exact Or.inr (Or.inr hv.kind)

/-! ## Methods -/

theorem methods_eq_some {options : Options} {block : Slot} {ms : List Method}
    (h : s.methods? options block slot = .ok (some ms)) :
    s.isAssign slot = .ok true ∧ ∃ target value, s.children slot = [target, value] ∧
      ((∃ owner name, s.prototypeMember? target = some (owner, name) ∧ name ≠ "constructor" ∧
          s.isConvertible value = .ok true ∧ ms = [⟨name, value, slot, [slot], block, ""⟩]) ∨
        (∃ owner, s.prototypeMember? target = none ∧ s.prototypeOf? target = some owner ∧
          s.hasKind Kind.object value = true ∧ options.prototypeObjects = true ∧
          s.tableMethods? owner slot block value = .ok (some ms))) := by
  unfold methods? at h
  obtain ⟨b, hb, h⟩ := bind_eq_ok.mp h
  cases b with
  | false => cases h
  | true =>
    obtain ⟨-, t, v, hc⟩ := isAssign_eq_true hb
    obtain ⟨target, htarget, h⟩ := bind_eq_ok.mp h
    obtain ⟨value, hvalue, h⟩ := bind_eq_ok.mp h
    rw [child_eq_ok, hc] at htarget hvalue
    cases htarget
    cases hvalue
    refine ⟨hb, _, _, hc, ?_⟩
    split at h
    -- a member is assigned a function, or the prototype is assigned a table
    · rename_i owner name hmember
      left
      split at h
      · cases h
      · rename_i hname
        obtain ⟨c, hconv, h⟩ := bind_eq_ok.mp h
        cases c with
        | false => cases h
        | true =>
            cases h
            exact ⟨owner, name, hmember, hname, hconv, rfl⟩
    · rename_i owner hmember howner
      right
      obtain ⟨l, hl, h⟩ := bind_eq_ok.mp h
      split at h
      · rename_i hobject
        have hkind := hasKind_iff.mpr ⟨l, label_eq_ok.mp hl, hobject.1⟩
        exact ⟨owner, hmember, howner, hkind, hobject.2, h⟩
      · cases h
    · cases h

theorem tableMethods_eq_some {className : String} {statement block object : Slot}
    {ms : List Method} (h : s.tableMethods? className statement block object = .ok (some ms)) :
    ∃ entries, s.tableEntries? className (s.children object) = .ok (some entries) ∧
      entries ≠ [] ∧ ms = methodsOfTable statement block entries := by
  unfold tableMethods? at h
  obtain ⟨r, hr, h⟩ := bind_eq_ok.mp h
  split at h
  · cases h
  · cases h
  · rename_i entries hne
    cases h
    exact ⟨entries, hr, fun he => hne (by rw [he]), rfl⟩

theorem function_of_methodsOfTable {statement block : Slot} {entries : List TableEntry}
    {m : Method} (h : m ∈ methodsOfTable statement block entries) :
    ∃ e ∈ entries, m.function = e.function := by
  cases entries with
  | nil => cases h
  | cons first others =>
      rcases List.mem_cons.mp h with rfl | h
      · exact ⟨first, by simp, rfl⟩
      · obtain ⟨e, he, rfl⟩ := List.mem_map.mp h
        exact ⟨e, by simp [he], rfl⟩

theorem entryForm_eq_method {className : String} {entry : Slot} {m : TableEntry}
    (h : s.entryForm className entry = .ok (.method m)) :
    s.isConvertible m.function = .ok true ∧ m.entry = entry ∧
      ((m.function = entry ∧ s.hasKind Kind.functionDecl entry = true) ∨
        (s.hasKind Kind.binary entry = true ∧ ∃ key, s.children entry = [key, m.function])) := by
  unfold entryForm at h
  obtain ⟨l, hl, h⟩ := bind_eq_ok.mp h
  have hl' := label_eq_ok.mp hl
  split at h
  · rename_i hkind
    obtain ⟨b, hb, h⟩ := bind_eq_ok.mp h
    cases b with
    | false => cases h
    | true =>
        obtain ⟨name, -, h⟩ := bind_eq_ok.mp h
        cases h
        exact ⟨hb, rfl, Or.inl ⟨rfl, hasKind_iff.mpr ⟨l, hl', hkind⟩⟩⟩
  split at h
  case isFalse => cases h
  -- what is no function declaration has to be a pair
  rename_i hbinary
  split at h
  case h_2 => cases h
  rename_i key value hchildren
  unfold pairForm at h
  obtain ⟨n, -, h⟩ := bind_eq_ok.mp h
  cases n with
  | none => cases h
  | some name =>
      dsimp only at h
      split at h
      · obtain ⟨v, -, h⟩ := bind_eq_ok.mp h
        simp only [pure, Except.pure, Except.ok.injEq] at h
        split at h <;> cases h
      · obtain ⟨b, hb, h⟩ := bind_eq_ok.mp h
        cases b with
        | false => cases h
        | true =>
            cases h
            exact ⟨hb, rfl, Or.inr ⟨hasKind_iff.mpr ⟨l, hl', hbinary.1⟩, key, hchildren⟩⟩

/-- The first entry of a method table is the pair that needs no method, or the first method. -/
theorem tableEntries_cons_eq_some {className : String} {entry : Slot} {entries : List Slot}
    {ms : List TableEntry} (h : s.tableEntries? className (entry :: entries) = .ok (some ms)) :
    (s.entryForm className entry = .ok .reset ∧
      s.tableEntries? className entries = .ok (some ms)) ∨
    ∃ first rest, s.entryForm className entry = .ok (.method first) ∧
      s.tableEntries? className entries = .ok (some rest) ∧ ms = first :: rest := by
  unfold tableEntries? at h
  obtain ⟨form, hform, h⟩ := bind_eq_ok.mp h
  cases form with
  | other => cases h
  | reset => exact Or.inl ⟨hform, h⟩
  | method first =>
      obtain ⟨rest, hrest, h⟩ := bind_eq_ok.mp h
      cases rest with
      | none => cases h
      | some rest =>
          cases h
          exact Or.inr ⟨first, rest, hform, hrest, rfl⟩

/-- Each method of a method table is what one of its entries means. -/
theorem mem_of_tableEntries {className : String} {entries : List Slot} {ms : List TableEntry}
    (h : s.tableEntries? className entries = .ok (some ms)) :
    ∀ m ∈ ms, ∃ entry ∈ entries, s.entryForm className entry = .ok (.method m) := by
  induction entries generalizing ms with
  | nil =>
      cases h
      simp
  | cons entry entries ih =>
      have hlater : ∀ {ms : List TableEntry}, s.tableEntries? className entries = .ok (some ms) →
          ∀ m ∈ ms, ∃ entry' ∈ entry :: entries, s.entryForm className entry' = .ok (.method m) := by
        intro ms hms m hm
        obtain ⟨entry', hentry', hform⟩ := ih hms m hm
        exact ⟨entry', List.mem_cons_of_mem entry hentry', hform⟩
      obtain ⟨-, hrest⟩ | ⟨first, rest, hform, hrest, rfl⟩ := tableEntries_cons_eq_some h
      · exact hlater hrest
      · intro m hm
        rcases List.mem_cons.mp hm with rfl | hm
        · exact ⟨entry, List.mem_cons_self, hform⟩
        · exact hlater hrest m hm

/-- A table means the same in two stores when each of its entries does. -/
theorem tableEntries_congr {s' : Store} {className : String} {entries : List Slot}
    (h : ∀ entry ∈ entries, s'.entryForm className entry = s.entryForm className entry) :
    s'.tableEntries? className entries = s.tableEntries? className entries := by
  induction entries with
  | nil => rfl
  | cons entry entries ih =>
      have later := ih fun e he => h e (List.mem_cons_of_mem entry he)
      unfold tableEntries?
      rw [h entry List.mem_cons_self]
      refine bind_congr_of_ok fun form _ => ?_
      cases form with
      | other => rfl
      | reset => exact later
      | method m =>
          dsimp only
          rw [later]

theorem tableEntries_convertible {className : String} {entries : List Slot}
    {ms : List TableEntry} (h : s.tableEntries? className entries = .ok (some ms)) :
    ∀ m ∈ ms, s.isConvertible m.function = .ok true := by
  intro m hm
  obtain ⟨entry, -, hform⟩ := mem_of_tableEntries h m hm
  exact (entryForm_eq_method hform).1

/-- A function that a statement gives as a method can become one. -/
theorem methods_convertible {options : Options} {block : Slot} {ms : List Method}
    (h : s.methods? options block slot = .ok (some ms)) :
    ∀ m ∈ ms, s.isConvertible m.function = .ok true := by
  obtain ⟨-, target, value, -, hms⟩ := methods_eq_some h
  rcases hms with ⟨owner, name, -, -, hc, rfl⟩ | ⟨owner, -, -, -, -, htable⟩
  · intro m hm
    rw [List.mem_singleton] at hm
    rw [hm]
    exact hc
  · obtain ⟨entries, hentries, -, rfl⟩ := tableMethods_eq_some htable
    intro m hm
    obtain ⟨e, he, hfn⟩ := function_of_methodsOfTable hm
    rw [hfn]
    exact tableEntries_convertible hentries e he

/-! ## Forms that exclude each other -/

theorem superClass_of_methods {options : Options} {block : Slot} {ms : List Method} {base : Slot}
    (h : s.methods? options block slot = .ok (some ms)) : s.superClass? slot ≠ .ok (some base) := by
  intro hs
  obtain ⟨hassign, target, value, hc, hms⟩ := methods_eq_some h
  rcases superClass_eq_some hs with ⟨name, hu⟩ | ⟨hr, target', value', hc', hbase⟩
  · exact absurd (hasKind_unique (kind_of_isAssign hassign) (utilInherits_eq_some hu).1) (by decide)
  · rw [hc] at hc'
    cases hc'
    obtain ⟨-, t, v, owner', hc'', hof⟩ := replacesPrototype_eq_true hr
    rw [hc] at hc''
    cases hc''
    rcases hms with ⟨owner, name, hmember, -⟩ | ⟨owner, -, -, hobject, -⟩
    · rw [prototypeOf_eq_none_of_member hmember] at hof
      cases hof
    · rcases hbase with hcreate | hnew
      · exact absurd (hasKind_unique hobject (objectCreate_eq_some hcreate).1) (by decide)
      · exact absurd (hasKind_unique hobject (instantiated_eq_some hnew).1) (by decide)

/-- A statement that declares a function modifies no prototype. -/
theorem prototypeOwner_of_declaration {block : Slot} {c : Candidate} {name : String}
    (h : s.declaration? block slot = .ok (some c)) : s.prototypeOwner? slot ≠ .ok (some name) := by
  intro ho
  rcases kind_of_declaration h with hd | hd | hd <;>
    rcases kind_of_prototypeOwner ho with hk | hk <;>
      exact absurd (hasKind_unique hd hk) (by decide)

theorem superClass_of_reset {name : String} {base : Slot}
    (h : s.isConstructorReset name slot = .ok true) : s.superClass? slot ≠ .ok (some base) := by
  intro hs
  obtain ⟨hassign, target, value, owner, hc, hmember, -⟩ := isConstructorReset_eq_true h
  rcases superClass_eq_some hs with ⟨name, hu⟩ | ⟨hr, -⟩
  · exact absurd (hasKind_unique (kind_of_isAssign hassign) (utilInherits_eq_some hu).1) (by decide)
  · obtain ⟨-, t, v, owner', hc', hof⟩ := replacesPrototype_eq_true hr
    rw [hc] at hc'
    cases hc'
    rw [prototypeOf_eq_none_of_member hmember] at hof
    cases hof

theorem methods_of_reset {name : String} {options : Options} {block : Slot} {ms : List Method}
    (h : s.isConstructorReset name slot = .ok true) :
    s.methods? options block slot ≠ .ok (some ms) := by
  intro hs
  obtain ⟨-, target, value, owner, hc, hmember, -⟩ := isConstructorReset_eq_true h
  obtain ⟨-, target', value', hc', hms⟩ := methods_eq_some hs
  rw [hc] at hc'
  cases hc'
  rcases hms with ⟨owner', name', hmember', hne, -⟩ | ⟨owner', hnone, -⟩
  · rw [hmember] at hmember'
    cases hmember'
    exact hne rfl
  · rw [hmember] at hnone
    cases hnone

end ClassLift.Store
