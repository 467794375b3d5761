import ClassLift.Proofs.Agreement
import ClassLift.Proofs.Statement.Form
import ClassLift.Proofs.Token.Mirror

set_option autoImplicit false

/-! # Forms in mirrored stores

The forms of statements depend on kinds, values and children alone: a test gives the same for two
partners, and where it finds slots, it finds partners. A test that stops does so with a fault of
the same kind on both sides. A class reference may be as deep as the store is large; that the
stores have different sizes makes no difference as long as they are not too small
(`Mirror.Shallow`).
-/

namespace ClassLift

open List

/-- An entry of a table, and its counterpart. -/
structure TableEntry.Twins (R : TokenId → TokenId → Prop) (e e' : TableEntry) : Prop where
  name : e.name = e'.name
  function : Partners R e.function e'.function
  entry : Partners R e.entry e'.entry

/-- The entries mean the same. -/
inductive EntryForm.Twins (R : TokenId → TokenId → Prop) : EntryForm → EntryForm → Prop where
  | method {e e' : TableEntry} (twins : e.Twins R e') : Twins R (.method e) (.method e')
  | reset : Twins R .reset .reset
  | other : Twins R .other .other

/-- A method, and its counterpart. -/
structure Method.Twins (R : TokenId → TokenId → Prop) (m m' : Method) : Prop where
  name : m.name = m'.name
  function : Partners R m.function m'.function
  statement : Partners R m.statement m'.statement
  commented : Forall₂ (Partners R) m.commented m'.commented
  parent : Partners R m.parent m'.parent
  modifier : m.modifier = m'.modifier

/-- A candidate, and its counterpart. -/
structure Candidate.Twins (R : TokenId → TokenId → Prop) (c c' : Candidate) : Prop where
  name : c.name = c'.name
  builder : c.builder.Twins R c'.builder
  statement : Partners R c.statement c'.statement
  commented : Forall₂ (Partners R) c.commented c'.commented
  parent : Partners R c.parent c'.parent
  superClass : Partners R c.superClass c'.superClass
  methods : Forall₂ (Method.Twins R) c.methods c'.methods
  inheritance : Forall₂ (fun p p' => Partners R p.1 p'.1 ∧ Partners R p.2 p'.2) c.inheritance
    c'.inheritance

namespace Mirror

variable {s s' : Store} {R : TokenId → TokenId → Prop} {x x' y y' : Slot} {k n m : Nat}
  {options : Options} {block block' : Slot}

/-! ## Single tokens -/

theorem label (h : Mirror R s s') (hx : Partners R x x') :
    Agree Label.Like (s.label x) (s'.label x') := by
  cases hx with
  | none => exact .error (.refl _)
  | some hR => exact .ok ⟨h.kind hR, h.value hR⟩

theorem child (h : Mirror R s s') (hx : Partners R x x') (n : Nat) :
    Agree (Partners R) (s.child x n) (s'.child x' n) := by
  cases hx with
  | none => exact .error (.refl _)
  | @some t u hR =>
      have hchildren := h.children hR
      unfold Store.child
      by_cases hn : n < (s.cell t).children.length
      · have hn' : n < (s'.cell u).children.length := hchildren.length_eq ▸ hn
        simp only [List.getElem?_eq_getElem hn, List.getElem?_eq_getElem hn']
        exact .ok (hchildren.get hn hn')
      · have hn' : ¬ n < (s'.cell u).children.length := hchildren.length_eq ▸ hn
        simp only [List.getElem?_eq_none (Nat.le_of_not_lt hn),
          List.getElem?_eq_none (Nat.le_of_not_lt hn')]
        exact .error (.refl _)

theorem isAssign (h : Mirror R s s') (hx : Partners R x x') :
    Agree Eq (s.isAssign x) (s'.isAssign x') := by
  unfold Store.isAssign
  refine (h.label hx).bind fun l l' hl => ?_
  rw [hl.kind, hl.value, (h.slot_children hx).length_eq]
  exact .ok rfl

theorem isConvertible (h : Mirror R s s') (hx : Partners R x x') :
    Agree Eq (s.isConvertible x) (s'.isConvertible x') := by
  unfold Store.isConvertible
  refine (h.label hx).bind fun l l' hl => ?_
  rw [hl.kind]
  refine .ite ?_ (.ok rfl)
  -- the shape of two lists of partners is split once for both, so they are made variables
  have hchildren := h.slot_children hx
  generalize s.children x = xs at hchildren ⊢
  generalize s'.children x' = xs' at hchildren ⊢
  rcases hchildren with _ | ⟨-, _ | ⟨-, _ | ⟨hbody, _ | ⟨-, -⟩⟩⟩⟩
  case cons.cons.cons.nil =>
    refine (h.label hbody).bind fun l l' hl => ?_
    rw [hl.kind]
    exact .ok rfl
  all_goals exact .ok rfl

/-- How deep one looks does not matter, as long as it is deep enough. -/
theorem isClassReferenceTo (h : Mirror R s s') (hx : Partners R x x') (hfits : s.Fits k x)
    (hn : k ≤ n) (hm : k ≤ m) :
    Agree Eq (s.isClassReferenceTo n x) (s'.isClassReferenceTo m x') := by
  -- by induction on a depth that is enough for the slot, whatever the depths one looks to
  induction k generalizing n m x x' with
  | zero =>
      cases hfits
      cases hx
      cases n <;> cases m <;> exact .error (.refl _)
  | succ k ih =>
      obtain ⟨n, rfl⟩ : ∃ i, n = i + 1 := ⟨n - 1, by omega⟩
      obtain ⟨m, rfl⟩ : ∃ i, m = i + 1 := ⟨m - 1, by omega⟩
      unfold Store.isClassReferenceTo
      refine (h.label hx).bind fun l l' hl => ?_
      rw [hl.kind, hl.value]
      refine .ite ?_ (.ok rfl)
      have hbelow : ∀ c ∈ s.children x, s.Fits k c := by
        cases hfits with
        | absent => simp [Store.children]
        | token below => exact below
      have hchildren := h.slot_children hx
      generalize s.children x = xs at hchildren hbelow ⊢
      generalize s'.children x' = xs' at hchildren ⊢
      rcases hchildren with _ | ⟨hobject, _ | ⟨hattr, _ | ⟨-, -⟩⟩⟩
      case cons.cons.nil =>
        refine (h.label hattr).bind fun l l' hl => ?_
        rw [hl.kind]
        exact .ite (ih hobject (hbelow _ List.mem_cons_self) (by omega) (by omega)) (.ok rfl)
      all_goals exact .ok rfl

theorem fits_of_shallow (hs : Shallow R s s') (hx : Partners R x x') :
    s.Fits (min s.size s'.size) x := by
  cases hx with
  | none => exact .absent _
  | some hR => exact hs _ _ hR

theorem isClassReference (h : Mirror R s s') (hs : Shallow R s s') (hx : Partners R x x') :
    Agree Eq (s.isClassReference x) (s'.isClassReference x') :=
  h.isClassReferenceTo hx (fits_of_shallow hs hx) (Nat.min_le_left _ _) (Nat.min_le_right _ _)

/-! ## Member accesses -/

theorem memberParts? (h : Mirror R s s') (hx : Partners R x x') :
    Option.Rel (fun p p' => Partners R p.1 p'.1 ∧ Partners R p.2 p'.2) (s.memberParts? x)
      (s'.memberParts? x') := by
  unfold Store.memberParts?
  rw [h.isToken hx]
  have hchildren := h.slot_children hx
  generalize s.children x = xs at hchildren ⊢
  generalize s'.children x' = xs' at hchildren ⊢
  rcases hchildren with _ | ⟨hobject, _ | ⟨hattr, _ | ⟨-, -⟩⟩⟩
  case cons.cons.nil =>
    cases s.isToken Kind.member "." x with
    | false => exact .none
    | true => exact .some ⟨hobject, hattr⟩
  all_goals exact .none

theorem memberNamed? (h : Mirror R s s') (hx : Partners R x x') (name : String) :
    Option.Rel (Partners R) (s.memberNamed? name x) (s'.memberNamed? name x') := by
  unfold Store.memberNamed?
  have hparts := h.memberParts? hx
  generalize s.memberParts? x = parts at hparts ⊢
  generalize s'.memberParts? x' = parts' at hparts ⊢
  cases hparts with
  | none => exact .none
  | @some p p' hp =>
      dsimp only
      rw [h.isToken hp.2]
      cases s.isToken Kind.memberName name p.2 with
      | false => exact .none
      | true => exact .some hp.1

theorem prototypeOf? (h : Mirror R s s') (hx : Partners R x x') :
    s'.prototypeOf? x' = s.prototypeOf? x := by
  unfold Store.prototypeOf?
  have hobject := h.memberNamed? hx "prototype"
  generalize s.memberNamed? "prototype" x = object at hobject ⊢
  generalize s'.memberNamed? "prototype" x' = object' at hobject ⊢
  cases hobject with
  | none => rfl
  | some hobject =>
      dsimp only
      rw [h.hasKind hobject, h.slot_value hobject]

theorem prototypeMember? (h : Mirror R s s') (hx : Partners R x x') :
    s'.prototypeMember? x' = s.prototypeMember? x := by
  unfold Store.prototypeMember?
  have hparts := h.memberParts? hx
  generalize s.memberParts? x = parts at hparts ⊢
  generalize s'.memberParts? x' = parts' at hparts ⊢
  cases hparts with
  | none => rfl
  | some hp =>
      dsimp only
      rw [h.hasKind hp.2, h.prototypeOf? hp.1, h.slot_value hp.2]

/-! ## Inheritance -/

theorem argumentsOf? (h : Mirror R s s') (hx : Partners R x x') (object member : String) :
    Option.Rel (Forall₂ (Partners R)) (s.argumentsOf? object member x)
      (s'.argumentsOf? object member x') := by
  unfold Store.argumentsOf?
  rw [h.hasKind hx]
  have hchildren := h.slot_children hx
  generalize s.children x = xs at hchildren ⊢
  generalize s'.children x' = xs' at hchildren ⊢
  rcases hchildren with _ | ⟨hcallee, _ | ⟨harguments, _ | ⟨-, -⟩⟩⟩
  case cons.cons.nil callee callee' arguments arguments' =>
    dsimp only
    rw [h.hasKind harguments]
    cases s.hasKind Kind.call x && s.hasKind Kind.arguments arguments with
    | false => exact .none
    | true =>
        rw [if_pos rfl, if_pos rfl]
        have hobject := h.memberNamed? hcallee member
        generalize s.memberNamed? member callee = o at hobject ⊢
        generalize s'.memberNamed? member callee' = o' at hobject ⊢
        cases hobject with
        | none => exact .none
        | @some o o' ho =>
            dsimp only
            rw [h.isToken ho]
            cases s.isToken Kind.text object o with
            | false => exact .none
            | true => exact .some (h.slot_children harguments)
  all_goals exact .none

theorem objectCreate? (h : Mirror R s s') (hs : Shallow R s s') (hx : Partners R x x') :
    Agree (Option.Rel (Partners R)) (s.objectCreate? x) (s'.objectCreate? x') := by
  unfold Store.objectCreate?
  have hcall := h.argumentsOf? hx "Object" "create"
  generalize s.argumentsOf? "Object" "create" x = found at hcall ⊢
  generalize s'.argumentsOf? "Object" "create" x' = found' at hcall ⊢
  rcases hcall with ⟨_ | ⟨hargument, _ | ⟨-, -⟩⟩⟩ | _
  case some.cons.nil argument argument' =>
    dsimp only
    have hparts := h.memberParts? hargument
    generalize s.memberParts? argument = parts at hparts ⊢
    generalize s'.memberParts? argument' = parts' at hparts ⊢
    cases hparts with
    | none => exact .ok .none
    | @some p p' hp =>
        refine (h.isClassReference hs hp.1).bind fun b b' hb => ?_
        rw [← hb, h.isToken hp.2]
        refine .ite ?_ (.ok .none)
        cases s.isToken Kind.memberName "prototype" p.2 with
        | false => exact .ok .none
        | true => exact .ok (.some hp.1)
  all_goals exact .ok .none

theorem utilInherits? (h : Mirror R s s') (hs : Shallow R s s') (hx : Partners R x x') :
    Agree (Option.Rel fun p p' => p.1 = p'.1 ∧ Partners R p.2 p'.2) (s.utilInherits? x)
      (s'.utilInherits? x') := by
  unfold Store.utilInherits?
  have hcall := h.argumentsOf? hx "util" "inherits"
  generalize s.argumentsOf? "util" "inherits" x = found at hcall ⊢
  generalize s'.argumentsOf? "util" "inherits" x' = found' at hcall ⊢
  rcases hcall with ⟨_ | ⟨howner, _ | ⟨hbase, _ | ⟨-, -⟩⟩⟩⟩ | _
  case some.cons.cons.nil =>
    dsimp only
    rw [h.hasKind howner]
    refine .ite ?_ (.ok .none)
    refine (h.isClassReference hs hbase).bind fun b b' hb => ?_
    subst hb
    cases b with
    | false => exact .ok .none
    | true => exact .ok (.some ⟨(h.slot_value howner).symm, hbase⟩)
  all_goals exact .ok .none

/-! ## Statements about a prototype -/

theorem prototypeOwner? (h : Mirror R s s') (hs : Shallow R s s') (hx : Partners R x x') :
    Agree Eq (s.prototypeOwner? x) (s'.prototypeOwner? x') := by
  unfold Store.prototypeOwner?
  refine (h.utilInherits? hs hx).bind fun o o' ho => ?_
  cases ho with
  | some hp => exact .ok (congrArg some hp.1)
  | none =>
      refine (h.isAssign hx).bind fun b b' hb => ?_
      subst hb
      refine .ite ?_ (.ok rfl)
      refine (h.child hx 0).bind fun target target' htarget => ?_
      rw [h.prototypeOf? htarget, h.prototypeMember? htarget]
      exact .ok rfl

theorem replacesPrototype (h : Mirror R s s') (hx : Partners R x x') :
    Agree Eq (s.replacesPrototype x) (s'.replacesPrototype x') := by
  unfold Store.replacesPrototype
  refine (h.isAssign hx).bind fun b b' hb => ?_
  subst hb
  refine .ite ?_ (.ok rfl)
  refine (h.child hx 0).bind fun target target' htarget => ?_
  rw [h.prototypeOf? htarget]
  exact .ok rfl

theorem isConstructorReset (h : Mirror R s s') (hx : Partners R x x') (name : String) :
    Agree Eq (s.isConstructorReset name x) (s'.isConstructorReset name x') := by
  unfold Store.isConstructorReset
  refine (h.isAssign hx).bind fun b b' hb => ?_
  subst hb
  refine .ite ?_ (.ok rfl)
  refine (h.child hx 0).bind fun target target' htarget => ?_
  rw [h.prototypeMember? htarget]
  cases s.prototypeMember? target with
  | none => exact .ok rfl
  | some p =>
      refine .ite ?_ (.ok rfl)
      refine (h.child hx 1).bind fun value value' hvalue => (h.label hvalue).bind fun l l' hl => ?_
      rw [hl.kind, hl.value]
      exact .ok rfl

theorem ifReference (h : Mirror R s s') (hs : Shallow R s s') {found found' : Option Slot}
    (hfound : Option.Rel (Partners R) found found') :
    Agree (Option.Rel (Partners R)) (s.ifReference found) (s'.ifReference found') := by
  cases hfound with
  | none => exact .ok .none
  | some hbase =>
      refine (h.isClassReference hs hbase).bind fun b b' hb => ?_
      subst hb
      cases b with
      | false => exact .ok .none
      | true => exact .ok (.some hbase)

theorem instantiated? (h : Mirror R s s') (hs : Shallow R s s') (hx : Partners R x x') :
    Agree (Option.Rel (Partners R)) (s.instantiated? x) (s'.instantiated? x') := by
  unfold Store.instantiated?
  refine (h.label hx).bind fun l l' hl => ?_
  rw [hl.kind]
  have hchildren := h.slot_children hx
  generalize s.children x = xs at hchildren ⊢
  generalize s'.children x' = xs' at hchildren ⊢
  rcases hchildren with _ | ⟨htarget, _ | ⟨-, -⟩⟩
  case cons.nil target target' =>
    refine .ite ((h.label htarget).bind fun l l' hl => ?_) (.ok .none)
    rw [hl.kind]
    -- `new` of a call counts only where the call has no arguments
    by_cases hcall : l'.kind = Kind.call
    · rw [if_pos hcall, if_pos hcall]
      have hparts := h.slot_children htarget
      generalize s.children target = parts at hparts ⊢
      generalize s'.children target' = parts' at hparts ⊢
      rcases hparts with _ | ⟨hcallee, _ | ⟨harguments, _ | ⟨-, -⟩⟩⟩
      case cons.cons.nil arguments arguments' =>
        refine (h.label harguments).bind fun _ _ _ => ?_
        have hlist := h.slot_children harguments
        generalize s.children arguments = list at hlist ⊢
        generalize s'.children arguments' = list' at hlist ⊢
        cases hlist with
        | nil => exact h.ifReference hs (.some hcallee)
        | cons => exact h.ifReference hs .none
      all_goals exact .error (.refl _)
    · rw [if_neg hcall, if_neg hcall]
      exact h.ifReference hs (.some htarget)
  all_goals exact .ok .none

theorem superClass? (h : Mirror R s s') (hs : Shallow R s s') (hx : Partners R x x') :
    Agree (Option.Rel (Partners R)) (s.superClass? x) (s'.superClass? x') := by
  unfold Store.superClass?
  refine (h.utilInherits? hs hx).bind fun o o' ho => ?_
  cases ho with
  | some hp => exact .ok (.some hp.2)
  | none =>
      refine (h.replacesPrototype hx).bind fun b b' hb => ?_
      subst hb
      refine .ite ?_ (.ok .none)
      refine (h.child hx 1).bind fun value value' hvalue => ?_
      refine (h.objectCreate? hs hvalue).bind fun o o' ho => ?_
      cases ho with
      | some hbase => exact .ok (.some hbase)
      | none => exact h.instantiated? hs hvalue

/-! ## Method tables -/

theorem literal (h : Mirror R s s') (hx : Partners R x x') :
    Agree Eq (s.literal x) (s'.literal x') := by
  unfold Store.literal
  refine (h.label hx).bind fun l l' hl => ?_
  rw [hl.value]
  cases Literal.read l'.value with
  | ok value => exact .ok rfl
  | error fault =>
      cases fault with
      | malformed => exact .error (.statement hl _)
      | _ => exact .error (.refl _)

theorem keyName? (h : Mirror R s s') (hx : Partners R x x') :
    Agree Eq (s.keyName? x) (s'.keyName? x') := by
  unfold Store.keyName?
  refine (h.label hx).bind fun l l' hl => ?_
  rw [hl.kind, hl.value]
  refine .ite (.ok rfl) (.ite ?_ (.ok rfl))
  refine (h.literal hx).bind fun v v' hv => ?_
  subst hv
  cases v <;> exact .ok rfl

theorem firstName (h : Mirror R s s') (hx : Partners R x x') :
    Agree Eq (s.firstName x) (s'.firstName x') := by
  unfold Store.firstName
  refine (h.child hx 0).bind fun first first' hfirst => (h.label hfirst).bind fun l l' hl => ?_
  exact .ok hl.value

theorem pairForm {entry entry' key key' value value' : Slot} (h : Mirror R s s')
    (hentry : Partners R entry entry') (hkey : Partners R key key') (hvalue : Partners R value value')
    (name : String) :
    Agree (EntryForm.Twins R) (s.pairForm name entry key value)
      (s'.pairForm name entry' key' value') := by
  unfold Store.pairForm
  refine (h.keyName? hkey).bind fun o o' ho => ?_
  subst ho
  cases o with
  | none => exact .ok .other
  | some member =>
      refine .ite ((h.label hvalue).bind fun l l' hl => ?_)
        ((h.isConvertible hvalue).bind fun b b' hb => ?_)
      · rw [hl.kind, hl.value]
        by_cases hc : l'.kind = Kind.text ∧ l'.value = name
        · rw [if_pos hc]
          exact .ok .reset
        · rw [if_neg hc]
          exact .ok .other
      · subst hb
        cases b with
        | false => exact .ok .other
        | true => exact .ok (.method ⟨rfl, hvalue, hentry⟩)

theorem entryForm (h : Mirror R s s') (hx : Partners R x x') (name : String) :
    Agree (EntryForm.Twins R) (s.entryForm name x) (s'.entryForm name x') := by
  unfold Store.entryForm
  refine (h.label hx).bind fun l l' hl => ?_
  rw [hl.kind, hl.value]
  refine .ite ?_ (.ite ?_ (.ok .other))
  · refine (h.isConvertible hx).bind fun b b' hb => ?_
    subst hb
    refine .ite ?_ (.ok .other)
    exact (h.firstName hx).bind fun member member' hmember => .ok (.method ⟨hmember, hx, hx⟩)
  · have hchildren := h.slot_children hx
    generalize s.children x = xs at hchildren ⊢
    generalize s'.children x' = xs' at hchildren ⊢
    rcases hchildren with _ | ⟨hkey, _ | ⟨hvalue, _ | ⟨-, -⟩⟩⟩
    case cons.cons.nil => exact h.pairForm hx hkey hvalue name
    all_goals exact .ok .other

theorem tableEntries? {entries entries' : List Slot} (h : Mirror R s s')
    (he : Forall₂ (Partners R) entries entries') (name : String) :
    Agree (Option.Rel (Forall₂ (TableEntry.Twins R))) (s.tableEntries? name entries)
      (s'.tableEntries? name entries') := by
  induction he with
  | nil => exact .ok (.some .nil)
  | cons hentry _ ih =>
      unfold Store.tableEntries?
      refine (h.entryForm hentry name).bind fun form form' hform => ?_
      cases hform with
      | other => exact .ok .none
      | reset => exact ih
      | method hmethod =>
          refine ih.bind fun o o' ho => ?_
          cases ho with
          | none => exact .ok .none
          | some hmethods => exact .ok (.some (.cons hmethod hmethods))

theorem methodsOfTable {statement statement' : Slot} {entries entries' : List TableEntry}
    (hstatement : Partners R statement statement') (hblock : Partners R block block')
    (he : Forall₂ (TableEntry.Twins R) entries entries') :
    Forall₂ (Method.Twins R) (Store.methodsOfTable statement block entries)
      (Store.methodsOfTable statement' block' entries') := by
  cases he with
  | nil => exact .nil
  | cons hfirst hothers =>
      refine .cons ⟨hfirst.name, hfirst.function, hstatement,
        .cons hstatement (.cons hfirst.entry .nil), hblock, rfl⟩ ?_
      refine List.forall₂_map_left_iff.mpr (List.forall₂_map_right_iff.mpr ?_)
      exact hothers.imp fun e e' he =>
        ⟨he.name, he.function, .none, .cons he.entry .nil, hblock, rfl⟩

theorem tableMethods? {statement statement' object object' : Slot} (h : Mirror R s s')
    (hstatement : Partners R statement statement') (hblock : Partners R block block')
    (hobject : Partners R object object') (name : String) :
    Agree (Option.Rel (Forall₂ (Method.Twins R))) (s.tableMethods? name statement block object)
      (s'.tableMethods? name statement' block' object') := by
  unfold Store.tableMethods?
  refine (h.tableEntries? (h.slot_children hobject) name).bind fun o o' ho => ?_
  rcases ho with ⟨_ | ⟨hfirst, hothers⟩⟩ | _
  · exact .ok .none
  · exact .ok (.some (methodsOfTable hstatement hblock (.cons hfirst hothers)))
  · exact .ok .none

theorem methods? (h : Mirror R s s') (hblock : Partners R block block') (hx : Partners R x x') :
    Agree (Option.Rel (Forall₂ (Method.Twins R))) (s.methods? options block x)
      (s'.methods? options block' x') := by
  unfold Store.methods?
  refine (h.isAssign hx).bind fun b b' hb => ?_
  subst hb
  refine .ite ?_ (.ok .none)
  refine (h.child hx 0).bind fun target target' htarget =>
    (h.child hx 1).bind fun value value' hvalue => ?_
  rw [h.prototypeMember? htarget, h.prototypeOf? htarget]
  cases s.prototypeMember? target with
  | some p =>
      refine .ite (.ok .none) ((h.isConvertible hvalue).bind fun b b' hb => ?_)
      subst hb
      refine .ite (.ok (.some (.cons ?_ .nil))) (.ok .none)
      exact ⟨rfl, hvalue, hx, .cons hx .nil, hblock, rfl⟩
  | none =>
      cases s.prototypeOf? target with
      | none => exact .ok .none
      | some owner =>
          refine (h.label hvalue).bind fun l l' hl => ?_
          rw [hl.kind]
          exact .ite (h.tableMethods? hx hblock hvalue owner) (.ok .none)

/-! ## Declarations -/

theorem functionDeclaration? {parent parent' : Slot} (h : Mirror R s s')
    (hparent : Partners R parent parent') (hx : Partners R x x') :
    Agree (Option.Rel (Candidate.Twins R)) (s.functionDeclaration? parent x)
      (s'.functionDeclaration? parent' x') := by
  unfold Store.functionDeclaration?
  refine (h.label hx).bind fun l l' hl => ?_
  rw [hl.kind]
  refine .ite ((h.isConvertible hx).bind fun b b' hb => ?_) (.ok .none)
  subst hb
  refine .ite ((h.firstName hx).bind fun name name' hname => ?_) (.ok .none)
  subst hname
  refine .ite (.ok .none) (.ok (.some ?_))
  exact ⟨rfl, ⟨rfl, hx, hx, .nil, hparent, rfl⟩, hx, .cons hx .nil, hparent, .none, .nil, .nil⟩

theorem variableDeclaration? (h : Mirror R s s') (hblock : Partners R block block')
    (hx : Partners R x x') :
    Agree (Option.Rel (Candidate.Twins R)) (s.variableDeclaration? block x)
      (s'.variableDeclaration? block' x') := by
  unfold Store.variableDeclaration?
  rw [h.hasKind hx]
  have hchildren := h.slot_children hx
  generalize s.children x = xs at hchildren ⊢
  generalize s'.children x' = xs' at hchildren ⊢
  rcases hchildren with _ | ⟨hassignment, _ | ⟨-, -⟩⟩
  case cons.nil =>
    refine .ite ((h.isAssign hassignment).bind fun b b' hb => ?_) (.ok .none)
    subst hb
    refine .ite ?_ (.ok .none)
    refine (h.child hassignment 0).bind fun target target' htarget =>
      (h.child hassignment 1).bind fun value value' hvalue =>
        (h.label htarget).bind fun l l' hl => ?_
    rw [hl.kind, hl.value]
    refine .ite ((h.isConvertible hvalue).bind fun b b' hb => ?_) (.ok .none)
    subst hb
    refine .ite (.ok (.some ?_)) (.ok .none)
    exact ⟨rfl, ⟨rfl, hvalue, hvalue, .nil, hassignment, rfl⟩, hx, .cons hx .nil, hblock, .none,
      .nil, .nil⟩
  all_goals exact .ok .none

theorem orVariable (h : Mirror R s s') (hblock : Partners R block block') (hx : Partners R x x')
    {plain plain' : Option Candidate} (hplain : Option.Rel (Candidate.Twins R) plain plain') :
    Agree (Option.Rel (Candidate.Twins R)) (s.orVariable block x plain)
      (s'.orVariable block' x' plain') := by
  cases hplain with
  | some hc => exact .ok (.some hc)
  | none => exact h.variableDeclaration? hblock hx

theorem declaration? (h : Mirror R s s') (hblock : Partners R block block') (hx : Partners R x x') :
    Agree (Option.Rel (Candidate.Twins R)) (s.declaration? block x)
      (s'.declaration? block' x') := by
  unfold Store.declaration?
  refine (h.label hx).bind fun l l' hl => ?_
  rw [hl.kind]
  have hchildren := h.slot_children hx
  generalize s.children x = xs at hchildren ⊢
  generalize s'.children x' = xs' at hchildren ⊢
  cases hchildren with
  | nil => exact (h.functionDeclaration? hblock hx).bind fun _ _ => h.orVariable hblock hx
  | cons hfirst _ =>
      exact .ite ((h.functionDeclaration? hx hfirst).bind fun _ _ => h.orVariable hblock hx)
        ((h.functionDeclaration? hblock hx).bind fun _ _ => h.orVariable hblock hx)

end Mirror

end ClassLift
