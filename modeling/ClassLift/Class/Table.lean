import ClassLift.Class.Method
import ClassLift.Literal.Read
import ClassLift.Statement
import ClassLift.Text.Word

set_option autoImplicit false

/-! # Method tables

An object literal that is assigned to a prototype is a table of methods when each of its
entries is a function with a name, a `name: function` pair whose name is a plain name or a
quoted string, or the pair `constructor: A` that names the class itself. A quoted name has
to be a property name once it is read. No method may be called `constructor` by a pair.
-/

namespace ClassLift

/-- An entry of a method table: a name, the function, and the entry itself. -/
structure TableEntry where
  name : String
  function : Slot
  entry : Slot
  deriving DecidableEq

/-- What one entry of an object literal means for the method table of a class. -/
inductive EntryForm where
  /-- A method of the class. -/
  | method (m : TableEntry)
  /-- The pair `constructor: A`, which needs no method. -/
  | reset
  /-- Nothing that a method table can hold. -/
  | other
  deriving DecidableEq

namespace Store

/-- What a quoted string stands for, with the place of the string in the fault when it is no
literal. -/
def literal (s : Store) (slot : Slot) : Except Fault Literal.Value := do
  let l ← s.label slot
  match Literal.read l.value with
  | .ok value => .ok value
  | .error .malformed => .error (.statement l .badLiteral)
  | .error .unhashable => .error .unhashable
  | .error .tooLarge => .error .tooLarge
  | .error .tooDeep => .error .tooDeep
  | .error .tooLong => .error .tooLong

/-- The name that the key of a pair stands for; none when it is no name. -/
def keyName? (s : Store) (key : Slot) : Except Fault (Option String) := do
  let l ← s.label key
  if l.kind = Kind.text then return some l.value
  else if l.kind = Kind.string then
    match ← s.literal key with
    | .text name => return if isPropertyName name then some name else none
    | _ => return none
  else return none

/-- The value of the token's first child. -/
def firstName (s : Store) (slot : Slot) : Except Fault String := do
  return (← s.label (← s.child slot 0)).value

/-- What the pair of a key and a value means for the table of the class `className`. -/
def pairForm (s : Store) (className : String) (entry key value : Slot) :
    Except Fault EntryForm := do
  match ← s.keyName? key with
  | none => return .other
  | some name =>
    if name = "constructor" then
      let v ← s.label value
      return if v.kind = Kind.text ∧ v.value = className then .reset else .other
    else
      return if ← s.isConvertible value then .method ⟨name, value, entry⟩ else .other

/-- What an entry means for the table of the class `className`. -/
def entryForm (s : Store) (className : String) (entry : Slot) : Except Fault EntryForm := do
  let l ← s.label entry
  if l.kind = Kind.functionDecl then
    if ← s.isConvertible entry then
      return .method ⟨← s.firstName entry, entry, entry⟩
    else return .other
  else if l.kind = Kind.binary ∧ l.value = ":" then
    match s.children entry with
    | [key, value] => s.pairForm className entry key value
    | _ => return .other
  else return .other

/-- The methods among the entries; none as soon as an entry is of another form. -/
def tableEntries? (s : Store) (className : String) :
    List Slot → Except Fault (Option (List TableEntry))
  | [] => return some []
  | entry :: entries => do
    match ← s.entryForm className entry with
    | .other => return none
    | .reset => s.tableEntries? className entries
    | .method m => return (← s.tableEntries? className entries).map (m :: ·)

/-- The methods of a table assigned by `statement` in `block`. The first has the statement
and its comments; each has the comments of its entry. -/
def methodsOfTable (statement block : Slot) : List TableEntry → List Method
  | [] => []
  | first :: others =>
    ⟨first.name, first.function, statement, [statement, first.entry], block, ""⟩ ::
      others.map fun e => ⟨e.name, e.function, none, [e.entry], block, ""⟩

/-- The methods of the object literal that `statement` assigns to the prototype of
`className`; none when it is no method table or has no method. -/
def tableMethods? (s : Store) (className : String) (statement block object : Slot) :
    Except Fault (Option (List Method)) := do
  match ← s.tableEntries? className (s.children object) with
  | none | some [] => return none
  | some entries => return some (methodsOfTable statement block entries)

end Store

end ClassLift
