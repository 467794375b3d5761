import ClassLift.Class.Candidate
import ClassLift.Class.Table
import ClassLift.Warning

set_option autoImplicit false

/-! # Detection

What the statements of a block say about classes. Detection only reads: it gives the
candidates that are left, in the order of their declarations, and on the way the warnings
about what cannot be converted.

First the functions that are declared exactly once are found (`declarations`). Then every
statement that concerns the prototype of one of them is examined in order (`examine`).
-/

namespace ClassLift

/-- What the conversion may do. -/
structure Options where
  /-- Are super classes recognised? -/
  inheritance : Bool := true
  /-- Are method tables accepted? -/
  prototypeObjects : Bool := true
  deriving DecidableEq, Inhabited

/-- A warning about the token with this label, with the name that it concerns. -/
structure Notice where
  about : Label
  warning : Warning
  name : String
  deriving DecidableEq

/-- A computation that gives notices and may stop with a fault. -/
abbrev Detect := ExceptT Fault (StateM (List Notice))

/-- One more notice, about the token in a slot. -/
def Detect.warn (s : Store) (slot : Slot) (warning : Warning) (name : String) : Detect Unit := do
  let about ← s.label slot
  modify (· ++ [⟨about, warning, name⟩])

/-- What is known of a function that may become a class. -/
structure Draft where
  candidate : Candidate
  /-- The index of the declaring statement. -/
  position : Nat
  /-- Did an earlier statement concern the prototype? -/
  touched : Bool
  /-- The super class, when one was set. -/
  superClass : Slot
  /-- The statements that go with the super class. -/
  related : List (Slot × Slot)
  deriving DecidableEq

namespace Draft

/-- The name of the class. -/
def name (d : Draft) : String := d.candidate.name

/-- The candidate, with the super class when there is one. -/
def finish (d : Draft) : Candidate :=
  match d.superClass with
  | none => d.candidate
  | some _ => d.candidate.setSuperClass d.superClass d.related

/-- The drafts without the one of the given name. -/
def drop (name : String) (drafts : List Draft) : List Draft := drafts.filter (·.name ≠ name)

/-- The drafts with the one of the given name changed by `f`. -/
def change (name : String) (f : Draft → Draft) (drafts : List Draft) : List Draft :=
  drafts.map fun d => if d.name = name then f d else d

end Draft

/-! ## Declarations -/

namespace Store

/-- `function A() {…}` in `parent`. -/
def functionDeclaration? (s : Store) (parent slot : Slot) : Except Fault (Option Candidate) := do
  if (← s.label slot).kind = Kind.functionDecl then
    if ← s.isConvertible slot then
      let name ← s.firstName slot
      if name = "" then return none
      let builder : Method := ⟨"constructor", slot, slot, [], parent, ""⟩
      return some (.start name builder slot [slot] parent)
  return none

/-- `var A = function() {…}` in `block`. -/
def variableDeclaration? (s : Store) (block slot : Slot) : Except Fault (Option Candidate) := do
  match s.children slot with
  | [assignment] =>
    if s.hasKind Kind.varDecl slot then
      if ← s.isAssign assignment then
        let target ← s.child assignment 0
        let value ← s.child assignment 1
        let name ← s.label target
        if name.kind = Kind.text then
          if ← s.isConvertible value then
            let builder : Method := ⟨"constructor", value, value, [], assignment, ""⟩
            return some (.start name.value builder slot [slot] block)
    return none
  | _ => return none

/-- The function that a statement of `block` declares, also as an exported one. -/
def declaration? (s : Store) (block slot : Slot) : Except Fault (Option Candidate) := do
  let l ← s.label slot
  let plain ←
    match s.children slot with
    | first :: _ =>
      if l.kind = Kind.exportDecl then s.functionDeclaration? slot first
      else s.functionDeclaration? block slot
    | [] => s.functionDeclaration? block slot
  match plain with
  | some c => return some c
  | none => s.variableDeclaration? block slot

end Store

/-- The functions declared once among the statements from the given index on, after those in
`drafts`; `rejected` are the names declared more than once so far. -/
def declarations (s : Store) (block : Slot) (index : Nat) (drafts : List Draft)
    (rejected : List String) : List Slot → Detect (List Draft)
  | [] => return drafts
  | statement :: statements => do
    match ← s.declaration? block statement with
    | none => declarations s block (index + 1) drafts rejected statements
    | some c =>
      if drafts.any (·.name = c.name) || rejected.contains c.name then
        Detect.warn s statement .duplicateClass c.name
        declarations s block (index + 1) (Draft.drop c.name drafts) (c.name :: rejected)
          statements
      else
        declarations s block (index + 1) (drafts ++ [⟨c, index, false, none, []⟩]) rejected
          statements

/-! ## Statements about a prototype -/

namespace Store

/-- The name whose prototype the statement modifies. -/
def prototypeOwner? (s : Store) (slot : Slot) : Except Fault (Option String) := do
  if let some (owner, _) ← s.utilInherits? slot then return some owner
  if ← s.isAssign slot then
    let target ← s.child slot 0
    return s.prototypeOf? target <|> (s.prototypeMember? target).map Prod.fst
  return none

/-- Does the statement assign the whole prototype? -/
def replacesPrototype (s : Store) (slot : Slot) : Except Fault Bool := do
  if ← s.isAssign slot then
    return (s.prototypeOf? (← s.child slot 0)).isSome
  else return false

/-- `A.prototype.constructor = A`, for the given name `A`. -/
def isConstructorReset (s : Store) (name : String) (slot : Slot) : Except Fault Bool := do
  if ← s.isAssign slot then
    match s.prototypeMember? (← s.child slot 0) with
    | some (_, member) =>
      if member = "constructor" then
        let value ← s.label (← s.child slot 1)
        return value.kind == Kind.text && value.value == name
      else return false
    | none => return false
  else return false

/-- The class that `new B` or `new B()` makes; none with arguments. -/
def instantiated? (s : Store) (slot : Slot) : Except Fault (Option Slot) := do
  let l ← s.label slot
  match s.children slot with
  | [target] =>
    if l.kind = Kind.instantiate then
      let base ←
        if (← s.label target).kind = Kind.call then
          match s.children target with
          | [callee, arguments] =>
            let _ ← s.label arguments
            pure (if (s.children arguments).isEmpty then some callee else none)
          | _ => throw .brokenCall
        else pure (some target)
      match base with
      | none => return none
      | some base => return if ← s.isClassReference base then some base else none
    else return none
  | _ => return none

/-- The super class that the statement sets, by `util.inherits(A, B)`,
`A.prototype = Object.create(B.prototype)` or `A.prototype = new B()`. -/
def superClass? (s : Store) (slot : Slot) : Except Fault (Option Slot) := do
  if let some (_, base) ← s.utilInherits? slot then return some base
  if ← s.replacesPrototype slot then
    let value ← s.child slot 1
    if let some base ← s.objectCreate? value then return some base
    s.instantiated? value
  else return none

/-- The methods that the statement of `block` gives, by `A.prototype.b = function() {…}` or
by a method table; none when it gives none. -/
def methods? (s : Store) (options : Options) (block slot : Slot) :
    Except Fault (Option (List Method)) := do
  if ← s.isAssign slot then
    let target ← s.child slot 0
    let value ← s.child slot 1
    match s.prototypeMember? target, s.prototypeOf? target with
    | some (_, name), _ =>
      if name = "constructor" then return none
      if ← s.isConvertible value then
        return some [⟨name, value, slot, [slot], block, ""⟩]
      return none
    | none, some owner =>
      if (← s.label value).kind = Kind.object ∧ options.prototypeObjects then
        s.tableMethods? owner slot block value
      else return none
    | none, none => return none
  else return none

end Store

/-- The candidate with some more methods; a name that it has already is warned about. -/
def addMethods (s : Store) (c : Candidate) : List Method → Detect Candidate
  | [] => return c
  | m :: methods => do
    if c.methods.any (·.name = m.name) then
      Detect.warn s m.function .duplicateMethod m.name
    addMethods s (c.addMethod m) methods

/-- What the statement of `block` in `slot`, which modifies the prototype of the drafted
class, means for the draft; none when the class is rejected. -/
def examineOwned (s : Store) (options : Options) (block : Slot) (index : Nat) (slot : Slot)
    (d : Draft) : Detect (Option Draft) := do
  if index < d.position then
    Detect.warn s slot .beforeDeclaration d.name
    return none
  if ← s.isConstructorReset d.name slot then
    return some { d with related := d.related ++ [(block, slot)] }
  if d.touched then
    if ← s.replacesPrototype slot then
      -- what earlier statements set up is discarded with the old prototype
      Detect.warn s slot .unsupportedPrototype d.name
      return none
  let d := { d with touched := true }
  if let some base ← s.superClass? slot then
    if !options.inheritance then
      Detect.warn s slot .unsupportedPrototype d.name
      return none
    if d.superClass.isSome then
      Detect.warn s slot .multipleInheritance d.name
      return none
    return some { d with superClass := base, related := d.related ++ [(block, slot)] }
  if let some methods ← s.methods? options block slot then
    return some { d with candidate := ← addMethods s d.candidate methods }
  if ← s.replacesPrototype slot then
    -- the new prototype cannot be written as the body of a class
    Detect.warn s slot .unsupportedPrototype d.name
    return none
  return some d

/-- Examines the statements of `block` from the given index on. -/
def examine (s : Store) (options : Options) (block : Slot) (index : Nat) (drafts : List Draft) :
    List Slot → Detect (List Draft)
  | [] => return drafts
  | statement :: statements => do
    match ← s.prototypeOwner? statement with
    | none => examine s options block (index + 1) drafts statements
    | some name =>
      match drafts.find? (·.name = name) with
      | none => examine s options block (index + 1) drafts statements
      | some d =>
        match ← examineOwned s options block index statement d with
        | none => examine s options block (index + 1) (Draft.drop name drafts) statements
        | some d' =>
          examine s options block (index + 1) (Draft.change name (fun _ => d') drafts)
            statements

/-- The candidates in a block, in the order of their declarations. -/
def detect (s : Store) (options : Options) (block : Slot) : Detect (List Candidate) := do
  let drafts ← declarations s block 0 [] [] (s.children block)
  if drafts.isEmpty then return []
  let drafts ← examine s options block 0 drafts (s.children block)
  return drafts.map Draft.finish

end ClassLift
