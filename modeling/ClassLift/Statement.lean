import ClassLift.Fault
import ClassLift.Token.Store

set_option autoImplicit false

/-! # The forms of statements

The forms of expressions and statements that the conversion looks for, as tests on slots of
a store:

* `this`, assignments, functions that can become methods, class references (`A`, `A.B.C`);
* `A.prototype` and `A.prototype.name`;
* the expressions that set up inheritance: `Object.create(B.prototype)` and
  `util.inherits(A, B)`.

A test that has to look at a token where none stands stops with the fault `absentToken`.
-/

namespace ClassLift.Store

/-! ## Parts that have to be there -/

/-- The label of the token in a slot. -/
def label (s : Store) (slot : Slot) : Except Fault Label :=
  match s.label? slot with
  | none => .error .absentToken
  | some l => .ok l

/-- The child number `n` of the token in a slot. -/
def child (s : Store) (slot : Slot) (n : Nat) : Except Fault Slot :=
  match slot with
  | none => .error .absentToken
  | some t =>
    match (s.cell t).children[n]? with
    | none => .error .missingChild
    | some c => .ok c

/-! ## Single tokens -/

/-- The word `this`. -/
def isThis (s : Store) (slot : Slot) : Bool := s.isToken Kind.keyword "this" slot

/-- An assignment with `=`: a target and a value. -/
def isAssign (s : Store) (slot : Slot) : Except Fault Bool := do
  let l ← s.label slot
  return l.kind == Kind.assign && l.value == "=" && (s.children slot).length == 2

/-- A plain function with a block of statements as its third child. Arrow functions,
generators and asynchronous functions have other kinds. -/
def isConvertible (s : Store) (slot : Slot) : Except Fault Bool := do
  let l ← s.label slot
  if l.kind = Kind.functionDecl ∨ l.kind = Kind.anonymousFunction then
    match s.children slot with
    | [_, _, body] => return (← s.label body).kind == Kind.block
    | _ => return false
  else return false

/-- A name, or a chain of at most `depth` member accesses that starts with a name. -/
def isClassReferenceTo (s : Store) : Nat → Slot → Except Fault Bool
  | depth, slot => do
    let l ← s.label slot
    if l.kind = Kind.member ∧ l.value = "." then
      match depth, s.children slot with
      | depth + 1, [object, attr] =>
        if (← s.label attr).kind = Kind.memberName then s.isClassReferenceTo depth object
        else return false
      | _, _ => return false
    else return l.kind == Kind.text

/-- A name, or a chain of member accesses that starts with a name. -/
def isClassReference (s : Store) (slot : Slot) : Except Fault Bool :=
  s.isClassReferenceTo s.size slot

/-! ## Member accesses -/

/-- The object and the attribute of a member access with a point. -/
def memberParts? (s : Store) (slot : Slot) : Option (Slot × Slot) :=
  match s.children slot with
  | [object, attr] => if s.isToken Kind.member "." slot then some (object, attr) else none
  | _ => none

/-- The object of a member access to the given attribute. -/
def memberNamed? (s : Store) (name : String) (slot : Slot) : Option Slot :=
  match s.memberParts? slot with
  | some (object, attr) => if s.isToken Kind.memberName name attr then some object else none
  | none => none

/-- `A.prototype`, for a plain name `A`: that name. -/
def prototypeOf? (s : Store) (slot : Slot) : Option String :=
  match s.memberNamed? "prototype" slot with
  | some object => if s.hasKind Kind.text object then some (s.value object) else none
  | none => none

/-- `A.prototype.name`, for a plain name `A`: that name and the name of the member. -/
def prototypeMember? (s : Store) (slot : Slot) : Option (String × String) :=
  match s.memberParts? slot with
  | some (object, attr) =>
    if s.hasKind Kind.memberName attr then (s.prototypeOf? object).map (·, s.value attr)
    else none
  | none => none

/-! ## Inheritance -/

/-- The arguments of a call of the given member of a plain name. -/
def argumentsOf? (s : Store) (object member : String) (slot : Slot) : Option (List Slot) :=
  match s.children slot with
  | [callee, arguments] =>
    if s.hasKind Kind.call slot && s.hasKind Kind.arguments arguments then
      match s.memberNamed? member callee with
      | some o => if s.isToken Kind.text object o then some (s.children arguments) else none
      | none => none
    else none
  | _ => none

/-- `Object.create(B.prototype)`, for a class reference `B`: the slot of `B`. -/
def objectCreate? (s : Store) (slot : Slot) : Except Fault (Option Slot) := do
  match s.argumentsOf? "Object" "create" slot with
  | some [argument] =>
    match s.memberParts? argument with
    | some (base, attr) =>
      if ← s.isClassReference base then
        return if s.isToken Kind.memberName "prototype" attr then some base else none
      else return none
    | none => return none
  | _ => return none

/-- `util.inherits(A, B)`, for a plain name `A` and a class reference `B`: the name, and the
slot of `B`. -/
def utilInherits? (s : Store) (slot : Slot) : Except Fault (Option (String × Slot)) := do
  match s.argumentsOf? "util" "inherits" slot with
  | some [owner, base] =>
    if s.hasKind Kind.text owner then
      return if ← s.isClassReference base then some (s.value owner, base) else none
    else return none
  | _ => return none

end ClassLift.Store
