import ClassLift.Proofs.Statement.Form
import ClassLift.Proofs.Token.Spans

set_option autoImplicit false

/-! # Tests on statements without gaps

Where no slot below a statement is empty, almost no test on it can fail: every token that a test
looks at is there. What is left are two mistakes in the program itself, `new` of a call without
an argument list (`instantiated_failsOnly`), and a quoted key that is no literal
(`keyName_failsOnly`).
-/

namespace ClassLift

namespace Store

variable {s : Store} {P : TokenId → Prop} {slot block : Slot} {options : Options}

theorem Closed.children (hs : s.Closed P) (h : Stands P slot) :
    ∀ child ∈ s.children slot, Stands P child := by
  obtain ⟨t, rfl, ht⟩ := h
  exact hs t ht

theorem Closed.pair (hs : s.Closed P) (h : Stands P slot) {first second : Slot}
    (hc : s.children slot = [first, second]) : Stands P first ∧ Stands P second :=
  ⟨hs.children h first (by rw [hc]; simp), hs.children h second (by rw [hc]; simp)⟩

theorem label_succeeds (h : Stands P slot) : Succeeds (s.label slot) := by
  obtain ⟨t, rfl, -⟩ := h
  exact ⟨_, rfl⟩

theorem child_succeeds {n : Nat} {c : Slot} (h : (s.children slot)[n]? = some c) :
    Succeeds (s.child slot n) :=
  ⟨c, child_eq_ok.mpr h⟩

/-! ## Tests that cannot fail -/

theorem isAssign_succeeds (h : Stands P slot) : Succeeds (s.isAssign slot) :=
  (label_succeeds h).bind fun _ _ => .pure _

theorem isConvertible_succeeds (hs : s.Closed P) (h : Stands P slot) :
    Succeeds (s.isConvertible slot) := by
  unfold isConvertible
  refine (label_succeeds h).bind fun l _ => ?_
  split
  case isFalse => exact .pure _
  split
  · rename_i name arguments body hc
    have hbody : Stands P body := hs.children h body (by rw [hc]; simp)
    exact (label_succeeds hbody).bind fun _ _ => .pure _
  · exact .pure _

theorem isClassReferenceTo_succeeds (hs : s.Closed P) (h : Stands P slot) (depth : Nat) :
    Succeeds (s.isClassReferenceTo depth slot) := by
  induction depth generalizing slot with
  | zero =>
      unfold isClassReferenceTo
      refine (label_succeeds h).bind fun l _ => ?_
      split <;> exact .pure _
  | succ depth ih =>
      unfold isClassReferenceTo
      refine (label_succeeds h).bind fun l _ => ?_
      split
      case isFalse => exact .pure _
      cases hc : s.children slot with
      | nil => exact .pure _
      | cons object rest =>
          match rest with
          | [] => exact .pure _
          | _ :: _ :: _ => exact .pure _
          | [attr] =>
              obtain ⟨hobject, hattr⟩ := hs.pair h hc
              refine (label_succeeds hattr).bind fun la _ => ?_
              split
              · exact ih hobject
              · exact .pure _

theorem isClassReference_succeeds (hs : s.Closed P) (h : Stands P slot) :
    Succeeds (s.isClassReference slot) :=
  isClassReferenceTo_succeeds hs h s.size

/-- The arguments of a call stand below it. -/
theorem stands_of_argumentsOf {object member : String} {arguments : List Slot} (hs : s.Closed P)
    (h : Stands P slot) (ha : s.argumentsOf? object member slot = some arguments) :
    ∀ argument ∈ arguments, Stands P argument := by
  obtain ⟨-, callee, list, -, hc, -, hlist, -⟩ := argumentsOf_eq_some ha
  rw [← hlist]
  exact hs.children (hs.pair h hc).2

theorem objectCreate_succeeds (hs : s.Closed P) (h : Stands P slot) :
    Succeeds (s.objectCreate? slot) := by
  unfold objectCreate?
  split
  case h_2 => exact .pure _
  rename_i argument hargs
  have hargument := stands_of_argumentsOf hs h hargs argument (by simp)
  split
  case h_2 => exact .pure _
  rename_i base attr hparts
  have hbase := (hs.pair hargument (memberParts_eq_some hparts).2).1
  refine (isClassReference_succeeds hs hbase).bind fun b _ => ?_
  split <;> exact .pure _

theorem utilInherits_succeeds (hs : s.Closed P) (h : Stands P slot) :
    Succeeds (s.utilInherits? slot) := by
  unfold utilInherits?
  split
  case h_2 => exact .pure _
  rename_i owner base hargs
  have hbase := stands_of_argumentsOf hs h hargs base (by simp)
  split
  case isFalse => exact .pure _
  exact (isClassReference_succeeds hs hbase).bind fun _ _ => .pure _

/-- An assignment has the target and the value that are asked for. -/
theorem children_succeed (ha : s.isAssign slot = .ok true) :
    Succeeds (s.child slot 0) ∧ Succeeds (s.child slot 1) := by
  obtain ⟨-, target, value, hc⟩ := isAssign_eq_true ha
  exact ⟨child_succeeds (c := target) (by rw [hc]; rfl), child_succeeds (c := value) (by rw [hc]; rfl)⟩

theorem stands_of_child {n : Nat} {c : Slot} (hs : s.Closed P) (h : Stands P slot)
    (hc : s.child slot n = .ok c) : Stands P c :=
  hs.children h c (List.mem_of_getElem? (child_eq_ok.mp hc))

theorem prototypeOwner_succeeds (hs : s.Closed P) (h : Stands P slot) :
    Succeeds (s.prototypeOwner? slot) := by
  unfold prototypeOwner?
  refine (utilInherits_succeeds hs h).bind fun o _ => ?_
  split
  · exact .pure _
  refine (isAssign_succeeds h).bind fun b hb => ?_
  cases b with
  | false => exact .pure _
  | true => exact (children_succeed hb).1.bind fun _ _ => .pure _

theorem replacesPrototype_succeeds (h : Stands P slot) : Succeeds (s.replacesPrototype slot) := by
  unfold replacesPrototype
  refine (isAssign_succeeds h).bind fun b hb => ?_
  cases b with
  | false => exact .pure _
  | true => exact (children_succeed hb).1.bind fun _ _ => .pure _

theorem isConstructorReset_succeeds (hs : s.Closed P) (h : Stands P slot) (name : String) :
    Succeeds (s.isConstructorReset name slot) := by
  unfold isConstructorReset
  refine (isAssign_succeeds h).bind fun b hb => ?_
  cases b with
  | false => exact .pure _
  | true =>
      refine (children_succeed hb).1.bind fun target _ => ?_
      split
      case h_2 => exact .pure _
      split
      case isFalse => exact .pure _
      refine (children_succeed hb).2.bind fun value hvalue => ?_
      exact (label_succeeds (stands_of_child hs h hvalue)).bind fun _ _ => .pure _

/-! ## Declarations -/

theorem firstName_succeeds (hs : s.Closed P) (h : Stands P slot)
    (hc : s.isConvertible slot = .ok true) : Succeeds (s.firstName slot) := by
  obtain ⟨-, name, arguments, body, hchildren, -⟩ := isConvertible_eq_true hc
  refine (child_succeeds (c := name) (by rw [hchildren]; rfl)).bind fun first hfirst => ?_
  exact (label_succeeds (stands_of_child hs h hfirst)).bind fun _ _ => .pure _

theorem functionDeclaration_succeeds (hs : s.Closed P) (h : Stands P slot) (parent : Slot) :
    Succeeds (s.functionDeclaration? parent slot) := by
  unfold functionDeclaration?
  refine (label_succeeds h).bind fun l _ => ?_
  split
  case isFalse => exact .pure _
  refine (isConvertible_succeeds hs h).bind fun b hb => ?_
  cases b with
  | false => exact .pure _
  | true =>
      refine (firstName_succeeds hs h hb).bind fun name _ => ?_
      split <;> exact .pure _

theorem variableDeclaration_succeeds (hs : s.Closed P) (h : Stands P slot) :
    Succeeds (s.variableDeclaration? block slot) := by
  unfold variableDeclaration?
  split
  case h_2 => exact .pure _
  rename_i assignment hc
  have hassignment : Stands P assignment := hs.children h assignment (by rw [hc]; simp)
  split
  case isFalse => exact .pure _
  refine (isAssign_succeeds hassignment).bind fun b hb => ?_
  cases b with
  | false => exact .pure _
  | true =>
      refine (children_succeed hb).1.bind fun target htarget => ?_
      refine (children_succeed hb).2.bind fun value hvalue => ?_
      refine (label_succeeds (stands_of_child hs hassignment htarget)).bind fun l _ => ?_
      split
      case isFalse => exact .pure _
      refine (isConvertible_succeeds hs (stands_of_child hs hassignment hvalue)).bind fun b' _ => ?_
      split <;> exact .pure _

theorem orVariable_succeeds (hs : s.Closed P) (h : Stands P slot) (plain : Option Candidate) :
    Succeeds (s.orVariable block slot plain) := by
  cases plain with
  | some c => exact .pure _
  | none => exact variableDeclaration_succeeds hs h

theorem declaration_succeeds (hs : s.Closed P) (h : Stands P slot) :
    Succeeds (s.declaration? block slot) := by
  unfold declaration?
  refine (label_succeeds h).bind fun l _ => ?_
  dsimp only
  split
  · rename_i first rest hc
    have hfirst : Stands P first := hs.children h first (by rw [hc]; simp)
    split
    · exact (functionDeclaration_succeeds hs hfirst _).bind fun plain _ => orVariable_succeeds hs h plain
    · exact (functionDeclaration_succeeds hs h _).bind fun plain _ => orVariable_succeeds hs h plain
  · exact (functionDeclaration_succeeds hs h _).bind fun plain _ => orVariable_succeeds hs h plain

/-! ## Broken calls -/

/-- The statement assigns the value to the prototype of the plain name. -/
structure AssignsPrototype (s : Store) (name : String) (statement value : Slot) : Prop where
  isAssign : s.isAssign statement = .ok true
  parts : ∃ target, s.children statement = [target, value] ∧ s.prototypeOf? target = some name

/-- The name is the one whose prototype the statement is about. -/
theorem AssignsPrototype.owner_eq {name owner : String} {value : Slot}
    (h : s.AssignsPrototype name slot value) (ho : s.prototypeOwner? slot = .ok (some owner)) :
    name = owner := by
  obtain ⟨target, hc, hname⟩ := h.parts
  rcases prototypeOwner_of_isAssign ho h.isAssign hc with hof | ⟨member, hmember⟩
  · rw [hname] at hof
    exact Option.some.inj hof
  · rw [prototypeOf_eq_none_of_member hmember] at hname
    cases hname

/-- `new` of a call that does not consist of a function and an argument list. -/
def IsBrokenInstance (s : Store) (slot : Slot) : Prop :=
  s.hasKind Kind.instantiate slot = true ∧ ∃ call, s.children slot = [call] ∧
    s.hasKind Kind.call call = true ∧ (s.children call).length ≠ 2

theorem ifReference_succeeds (hs : s.Closed P) {found : Option Slot}
    (h : ∀ base, found = some base → Stands P base) : Succeeds (s.ifReference found) := by
  cases found with
  | none => exact .pure _
  | some base => exact (isClassReference_succeeds hs (h base rfl)).bind fun _ _ => .pure _

theorem instantiated_failsOnly (hs : s.Closed P) (h : Stands P slot) :
    FailsOnly (s.instantiated? slot) fun fault =>
      fault = .brokenCall ∧ s.IsBrokenInstance slot := by
  unfold instantiated?
  refine (FailsOnly.of_succeeds (label_succeeds h)).bind fun l hl => ?_
  split
  case h_2 => exact .pure _
  rename_i target hc
  have htarget : Stands P target := hs.children h target (by rw [hc]; simp)
  split
  case isFalse => exact .pure _
  rename_i hkind
  refine (FailsOnly.of_succeeds (label_succeeds htarget)).bind fun lt hlt => ?_
  dsimp only
  split
  · rename_i hcall
    have hcall' := hasKind_iff.mpr ⟨lt, label_eq_ok.mp hlt, hcall⟩
    split
    · rename_i callee list hparts
      obtain ⟨hcallee, hlist⟩ := hs.pair htarget hparts
      refine .of_succeeds ((label_succeeds hlist).bind fun _ _ => ?_)
      refine Succeeds.bind (.pure _) fun base hbase => ifReference_succeeds hs fun b hb => ?_
      subst hb
      simp only [pure, Except.pure, Except.ok.injEq] at hbase
      split at hbase
      · cases hbase
        exact hcallee
      · cases hbase
    -- the only fault: the call is no pair
    · rename_i hparts
      intro fault hfault
      cases hfault
      refine ⟨rfl, hasKind_iff.mpr ⟨l, label_eq_ok.mp hl, hkind⟩, target, hc, hcall', fun htwo => ?_⟩
      obtain ⟨callee, list, htwo⟩ := List.length_eq_two.mp htwo
      exact hparts callee list htwo
  · refine .of_succeeds (Succeeds.bind (.pure _) fun base hbase => ifReference_succeeds hs fun b hb => ?_)
    subst hb
    cases hbase
    exact htarget

theorem superClass_failsOnly (hs : s.Closed P) (h : Stands P slot) :
    FailsOnly (s.superClass? slot) fun fault =>
      fault = .brokenCall ∧
        ∃ name value, s.AssignsPrototype name slot value ∧ s.IsBrokenInstance value := by
  unfold superClass?
  refine (FailsOnly.of_succeeds (utilInherits_succeeds hs h)).bind fun o _ => ?_
  split
  · exact .pure _
  refine (FailsOnly.of_succeeds (replacesPrototype_succeeds h)).bind fun b hb => ?_
  cases b with
  | false => exact .pure _
  | true =>
      obtain ⟨hassign, target, value, name, hc, hname⟩ := replacesPrototype_eq_true hb
      refine (FailsOnly.of_succeeds (children_succeed hassign).2).bind fun v hv => ?_
      have hvalue := stands_of_child hs h hv
      rw [child_eq_ok, hc] at hv
      cases hv
      refine (FailsOnly.of_succeeds (objectCreate_succeeds hs hvalue)).bind fun created _ => ?_
      split
      · exact .pure _
      · exact (instantiated_failsOnly hs hvalue).mono fun fault hfault =>
          ⟨hfault.1, name, _, ⟨hassign, target, hc, hname⟩, hfault.2⟩

/-! ## Keys that are no literals -/

/-- The slot has a quoted string, and reading it fails: it is no literal, or it is one with a
part that cannot be hashed. Reading may also fail because the literal is too large to be read. -/
def IsBadKey (s : Store) (key : Slot) (fault : Fault) : Prop :=
  ∃ l, s.label key = .ok l ∧ l.kind = Kind.string ∧
    ((Literal.read l.value = .error .malformed ∧ fault = .statement l .badLiteral) ∨
      (Literal.read l.value = .error .unhashable ∧ fault = .unhashable) ∨
      ∃ failure, Literal.read l.value = .error failure ∧
        failure ∉ [Literal.Failure.malformed, .unhashable])

/-- The entry is a pair with a bad key. -/
def IsBadEntry (s : Store) (entry : Slot) (fault : Fault) : Prop :=
  s.isToken Kind.binary ":" entry = true ∧
    ∃ key value, s.children entry = [key, value] ∧ s.IsBadKey key fault

theorem keyName_failsOnly (h : Stands P slot) : FailsOnly (s.keyName? slot) (s.IsBadKey slot) := by
  unfold keyName?
  refine (FailsOnly.of_succeeds (label_succeeds h)).bind fun l hl => ?_
  split
  · exact .pure _
  split
  case isFalse => exact .pure _
  rename_i hkind
  refine FailsOnly.bind ?_ fun value _ => ?_
  · intro fault hfault
    refine ⟨l, hl, hkind, ?_⟩
    unfold literal at hfault
    rw [hl] at hfault
    replace hfault := (bind_eq_error.mp hfault).resolve_left fun he => by cases he
    obtain ⟨l', hl', hfault⟩ := hfault
    cases hl'
    split at hfault <;> cases hfault
    · rename_i hread
      exact Or.inl ⟨hread, rfl⟩
    · rename_i hread
      exact Or.inr (Or.inl ⟨hread, rfl⟩)
    all_goals
      rename_i hread
      exact Or.inr (Or.inr ⟨_, hread, by decide⟩)
  · split <;> exact .pure _

theorem pairForm_failsOnly {className : String} {entry key value : Slot} (hs : s.Closed P)
    (hkey : Stands P key) (hvalue : Stands P value) :
    FailsOnly (s.pairForm className entry key value) (s.IsBadKey key) := by
  unfold pairForm
  refine (keyName_failsOnly hkey).bind fun name _ => ?_
  split
  · exact .pure _
  split
  · exact .of_succeeds ((label_succeeds hvalue).bind fun _ _ => .pure _)
  · exact .of_succeeds ((isConvertible_succeeds hs hvalue).bind fun _ _ => .pure _)

theorem entryForm_failsOnly (hs : s.Closed P) (h : Stands P slot) (className : String) :
    FailsOnly (s.entryForm className slot) (s.IsBadEntry slot) := by
  unfold entryForm
  refine (FailsOnly.of_succeeds (label_succeeds h)).bind fun l hl => ?_
  split
  · refine .of_succeeds ((isConvertible_succeeds hs h).bind fun b hb => ?_)
    cases b with
    | false => exact .pure _
    | true => exact (firstName_succeeds hs h hb).bind fun _ _ => .pure _
  split
  case isFalse => exact .pure _
  rename_i hbinary
  split
  case h_2 => exact .pure _
  rename_i key value hc
  obtain ⟨hkey, hvalue⟩ := hs.pair h hc
  exact (pairForm_failsOnly hs hkey hvalue).mono fun fault hfault =>
    ⟨isToken_iff.mpr ⟨l, label_eq_ok.mp hl, hbinary⟩, key, value, hc, hfault⟩

theorem tableEntries_failsOnly {className : String} {entries : List Slot} (hs : s.Closed P)
    (h : ∀ entry ∈ entries, Stands P entry) :
    FailsOnly (s.tableEntries? className entries) fun fault =>
      ∃ entry ∈ entries, s.IsBadEntry entry fault := by
  induction entries with
  | nil => exact .pure _
  | cons entry entries ih =>
      have hrest := (ih fun e he => h e (List.mem_cons_of_mem _ he)).mono
        (Q := fun fault => ∃ e ∈ entry :: entries, s.IsBadEntry e fault) (by
          rintro fault ⟨e, he, hbad⟩
          exact ⟨e, List.mem_cons_of_mem _ he, hbad⟩)
      unfold tableEntries?
      refine FailsOnly.bind ?_ fun form _ => ?_
      · exact (entryForm_failsOnly hs (h entry List.mem_cons_self) className).mono
          fun fault hbad => ⟨entry, List.mem_cons_self, hbad⟩
      · cases form with
        | other => exact .pure _
        | reset => exact hrest
        | method m => exact hrest.bind fun _ _ => .pure _

theorem tableMethods_failsOnly {className : String} {statement object : Slot} (hs : s.Closed P)
    (h : Stands P object) :
    FailsOnly (s.tableMethods? className statement block object) fun fault =>
      ∃ entry ∈ s.children object, s.IsBadEntry entry fault := by
  unfold tableMethods?
  refine (tableEntries_failsOnly hs (hs.children h)).bind fun entries _ => ?_
  split <;> exact .pure _

theorem methods_failsOnly (hs : s.Closed P) (h : Stands P slot) :
    FailsOnly (s.methods? options block slot) fun fault =>
      ∃ name object, s.AssignsPrototype name slot object ∧ s.hasKind Kind.object object = true ∧
        ∃ entry ∈ s.children object, s.IsBadEntry entry fault := by
  unfold methods?
  refine (FailsOnly.of_succeeds (isAssign_succeeds h)).bind fun b hb => ?_
  cases b with
  | false => exact .pure _
  | true =>
      obtain ⟨-, target, object, hc⟩ := isAssign_eq_true hb
      -- target and value are there, so only the entries of a table can fail
      refine (FailsOnly.of_succeeds (children_succeed hb).1).bind fun t ht => ?_
      refine (FailsOnly.of_succeeds (children_succeed hb).2).bind fun v hv => ?_
      have hvalue := stands_of_child hs h hv
      rw [child_eq_ok, hc] at ht hv
      cases ht
      cases hv
      split
      · split
        · exact .pure _
        · refine .of_succeeds ((isConvertible_succeeds hs hvalue).bind fun b' _ => ?_)
          split <;> exact .pure _
      · rename_i owner _ howner
        refine (FailsOnly.of_succeeds (label_succeeds hvalue)).bind fun l hl => ?_
        split
        · rename_i hobject
          refine (tableMethods_failsOnly hs hvalue).mono fun fault hbad => ?_
          exact ⟨owner, _, ⟨hb, _, hc, howner⟩,
            hasKind_iff.mpr ⟨l, label_eq_ok.mp hl, hobject.1⟩, hbad⟩
        · exact .pure _
      · exact .pure _

end Store

end ClassLift
