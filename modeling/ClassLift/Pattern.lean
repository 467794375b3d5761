import ClassLift.Statement
import ClassLift.Token.Alike

set_option autoImplicit false

/-! # Patterns

A pattern is a declarative description of a token: of some of its fields, each again by a
pattern; of a list, by one pattern per element; of a plain value, by that value; or by any
test. What a pattern is matched against is an `Item`: a slot with a token or without one, a
list of slots, a text or a number, as the fields of tokens are; or a method, which a list and a
text have where a token has its column.
-/

namespace ClassLift

/-- What a pattern can be matched against. -/
inductive Item where
  | token (slot : Slot)
  | tokens (slots : List Slot)
  | text (s : String)
  | number (n : Int)
  /-- The method of a list or a text that gives the place of an element. -/
  | method
  deriving DecidableEq, Inhabited

namespace Item

/-- No value at all; an empty slot is that, too. -/
def nothing : Item := .token none

/-- A text that may be missing. -/
def ofText? : Option String → Item
  | some s => .text s
  | none => nothing

/-- Are the two plain values equal? Values of different sorts never are, and neither two tokens
nor two methods are compared: only the absence of a token is a plain value, and of the lists
only the empty one. -/
def same : Item → Item → Bool
  | .token none, .token none => true
  | .tokens [], .tokens [] => true
  | .text a, .text b => a == b
  | .number a, .number b => a == b
  | _, _ => false

/-- The elements of a list; those of a text are its characters. Nothing else has any. -/
def elements : Item → Except Fault (List Item)
  | .tokens slots => .ok (slots.map .token)
  | .text s => .ok (s.toList.map fun c => .text c.toString)
  | .token _ | .number _ | .method => .error .noLength

/-- The slot of a token or of its absence; other items have none of the fields of tokens. -/
def slot : Item → Except Fault Slot
  | .token slot => .ok slot
  | _ => .error .absentToken

end Item

/-- The fields of tokens that a pattern can describe. -/
inductive Field where
  | kind
  | value
  | line
  | column
  | children
  | comments
  | file
  /-- A field that no token has. -/
  | unknown
  deriving DecidableEq, Inhabited

/-- The field of a cell. -/
def Cell.field (c : Cell) : Field → Item
  | .kind => .text c.label.kind
  | .value => .text c.label.value
  | .line => .number c.label.line
  | .column => .number c.label.column
  | .children => .tokens c.children
  | .comments => .tokens c.comments
  | .file => .ofText? c.label.file
  | .unknown => .nothing

/-- The field of a token. The name of the column, `index`, is also that of a method of lists and
texts; other items have nothing under the names of the fields. -/
def Store.field (s : Store) (item : Item) (f : Field) : Item :=
  match item with
  | .token (some t) => (s.cell t).field f
  | .tokens _ | .text _ => if f = .column then .method else .nothing
  | .token none | .number _ | .method => .nothing

/-- A description of an item. -/
inductive Pattern where
  /-- Each of the fields is as described. Matches nothing but what is there. -/
  | fields (entries : List (Field × Pattern))
  /-- A list of this length, each element as described. -/
  | sequence (elements : List Pattern)
  /-- Exactly this plain value. -/
  | exactly (value : Item)
  /-- Whatever passes the test. -/
  | passing (test : Store → Item → Except Fault Bool)
  deriving Inhabited

namespace Pattern

mutual

/-- Does the pattern match the item? -/
def isMatch (s : Store) : Pattern → Item → Except Fault Bool
  | fields entries, item =>
    match item with
    | .token none => .ok false
    | _ => fieldsMatch s entries item
  | sequence patterns, item =>
    match item with
    | .token none => .ok false
    | _ => do
      let items ← item.elements
      if items.length = patterns.length then allMatch s patterns items else .ok false
  | exactly value, item => .ok (item.same value)
  | passing test, item => test s item

/-- Do the fields match, looked at in order up to the first that does not? -/
def fieldsMatch (s : Store) : List (Field × Pattern) → Item → Except Fault Bool
  | [], _ => .ok true
  | (field, pattern) :: rest, item => do
    if ← isMatch s pattern (s.field item field) then fieldsMatch s rest item else .ok false

/-- Do the items match their patterns, looked at in order up to the first that does not? -/
def allMatch (s : Store) : List Pattern → List Item → Except Fault Bool
  | pattern :: patterns, item :: items => do
    if ← isMatch s pattern item then allMatch s patterns items else .ok false
  | _, _ => .ok true

end

/-! ## Tests -/

/-- A test on slots as a pattern. -/
def onSlot (test : Store → Slot → Except Fault Bool) : Pattern :=
  passing fun s item => do test s (← item.slot)

/-- A test on slots that holds of no other item, as a pattern. -/
def onToken (test : Store → Slot → Except Fault Bool) : Pattern :=
  passing fun s item =>
    match item with
    | .token slot => test s slot
    | _ => .ok false

/-- At least `n` elements. -/
def longerThan (n : Int) : Pattern :=
  passing fun _ item => do return decide (n ≤ (← item.elements).length)

/-- A token alike to the given one. -/
def alikeTo (slot : Slot) : Pattern :=
  passing fun s item =>
    match item, slot with
    | .token other, _ => .ok (s.alike other slot)
    | _, none => .ok false
    | _, some _ => .error .absentToken

/-- The word `this`. -/
def thisWord : Pattern := onSlot fun s slot => .ok (s.isThis slot)

/-- An assignment with `=`. -/
def assignment : Pattern := onSlot Store.isAssign

/-- A function that can become a method. -/
def convertibleFunction : Pattern := onSlot Store.isConvertible

/-- `A`, or `A.B.C`. -/
def classReference : Pattern := onSlot Store.isClassReference

/-- `A.prototype`. -/
def prototypeAccess : Pattern := onToken fun s slot => .ok (s.prototypeOf? slot).isSome

/-- `A.prototype.name`. -/
def prototypeMember : Pattern := onToken fun s slot => .ok (s.prototypeMember? slot).isSome

/-- `Object.create(B.prototype)`. -/
def objectCreate : Pattern := onToken fun s slot => return (← s.objectCreate? slot).isSome

/-- `util.inherits(A, B)`. -/
def utilInherits : Pattern := onToken fun s slot => return (← s.utilInherits? slot).isSome

end Pattern

end ClassLift
