import ClassLift.Token.Edit

set_option autoImplicit false

/-! # Methods

A function that becomes a member of a class: the constructor function itself, or a function
assigned to the prototype. It is known by slots, so that what it says of the function is
read at the time of asking.
-/

namespace ClassLift

/-- A function that becomes a method. -/
structure Method where
  /-- The name of the member. -/
  name : String
  /-- The function that has the arguments and the body. -/
  function : Slot
  /-- The statement that goes when the class is made; none when another method has it. -/
  statement : Slot
  /-- The tokens whose comments go before the method. -/
  commented : List Slot
  /-- The token that holds the statement. -/
  parent : Slot
  /-- The word before the name: nothing, `get`, `set` or `static`. -/
  modifier : String
  deriving DecidableEq, Inhabited

namespace Method

/-- The argument list of the function. -/
def arguments (m : Method) : Edit Slot := do
  Edit.child (← Edit.cell m.function) 1

/-- The body of the function, which has to be a block. -/
def body (m : Method) : Edit Slot := do
  let slot ← Edit.child (← Edit.cell m.function) 2
  let c ← Edit.cell slot
  if c.label.kind = Kind.block then return slot
  else throw (.statement c.label .noBody)

/-- Has the body no statements? -/
def isEmpty (m : Method) : Edit Bool := do
  return (← Edit.cell (← m.body)).children.isEmpty

/-- The member of the class: a new token for its name, and the arguments and the body of the
function itself. Before it stand copies of the comments. -/
def define (m : Method) : Edit TokenId := do
  let at_ := (← Edit.cell m.function).label
  let name ← Edit.create (.fresh Kind.text m.name at_.line at_.column [])
  let arguments ← m.arguments
  let body ← m.body
  let comments ← Edit.copyComments m.commented
  Edit.create
    { Cell.fresh Kind.method m.modifier at_.line at_.column [some name, arguments, body] with
      comments }

/-- The statement that declared the method is taken out. -/
def remove (m : Method) : Edit Unit :=
  match m.statement with
  | none => pure ()
  | some _ => Edit.replaceStatement m.parent m.statement []

end Method

end ClassLift
