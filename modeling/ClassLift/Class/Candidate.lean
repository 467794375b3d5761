import ClassLift.Class.Method
import ClassLift.Statement
import ClassLift.Token.Alike

set_option autoImplicit false

/-! # Class candidates

A constructor function that may become a class, with what was found for it: methods, a super
class, and the statements that set up the inheritance. `commit` makes the class: the class
declaration takes the place of the function, and the other statements go.

In the body of the constructor, the calls `Parent.call(this, …)` of the super class become
`super(…)`. Only the direct statements of the body are looked at.
-/

namespace ClassLift

/-- A constructor function that may become a class. -/
structure Candidate where
  name : String
  /-- The constructor function. -/
  builder : Method
  /-- The statement that the class declaration replaces. -/
  statement : Slot
  /-- The tokens whose comments go before the class. -/
  commented : List Slot
  /-- The token that holds the statement. -/
  parent : Slot
  superClass : Slot
  methods : List Method
  /-- The statements that set up the inheritance, each after the token that holds it. -/
  inheritance : List (Slot × Slot)
  deriving DecidableEq, Inhabited

namespace Candidate

/-- A candidate for which nothing was found yet. -/
def start (name : String) (builder : Method) (statement : Slot) (commented : List Slot)
    (parent : Slot) : Candidate :=
  ⟨name, builder, statement, commented, parent, none, [], []⟩

/-- The candidate with one more method. -/
def addMethod (c : Candidate) (m : Method) : Candidate :=
  { c with methods := c.methods ++ [m] }

/-- The candidate with the given super class; the statements that set it up are added to
those that go. -/
def setSuperClass (c : Candidate) (superClass : Slot) (related : List (Slot × Slot)) :
    Candidate :=
  { c with superClass, inheritance := c.inheritance ++ related }

/-- Is there a method or a super class? -/
def isTransformable (c : Candidate) : Bool :=
  !c.methods.isEmpty || c.superClass.isSome

/-! ## Calls of the super class -/

/-- `S.call(this, …)` for a super class alike to the given one: the call's function and its
argument list. -/
def superCall? (s : Store) (superClass slot : Slot) : Option (Slot × Slot) :=
  match s.children slot with
  | [callee, arguments] =>
    match s.memberNamed? "call" callee with
    | some object =>
      if s.hasKind Kind.call slot && s.alike object superClass
          && s.hasKind Kind.arguments arguments
          && ((s.children arguments).head?.map s.isThis).getD false then
        some (callee, arguments)
      else none
    | none => none
  | _ => none

/-- A direct statement of the body: where it calls the super class on `this`, the function
becomes the word `super`, and `this` goes. -/
def convertSuperCall (superClass statement : Slot) : Edit Unit := do
  match superCall? (← get) superClass statement with
  | none => pure ()
  | some (callee, arguments) =>
    let at_ := (← Edit.cell callee).label
    let word ← Edit.create (.fresh Kind.keyword "super" at_.line at_.column [])
    Edit.update statement fun c => { c with children := c.children.set 0 (some word) }
    Edit.update arguments fun c => { c with children := c.children.drop 1 }

/-- All direct statements of the constructor's body, in order. -/
def convertSuperCalls (c : Candidate) : Edit Unit := do
  let body ← Edit.cell (← c.builder.body)
  body.children.forM (convertSuperCall c.superClass)

/-! ## The class declaration -/

/-- The constructor of the class; none when the function does nothing. -/
def defineConstructor (c : Candidate) : Edit (Option TokenId) := do
  if ← c.builder.isEmpty then return none
  c.convertSuperCalls
  return some (← c.builder.define)

/-- The members of the class: the constructor, if any, and then the methods. -/
def defineMembers (c : Candidate) : Edit (List TokenId) := do
  let first ← c.defineConstructor
  let others ← c.methods.mapM Method.define
  return first.toList ++ others

/-- The class declaration. -/
def declare (c : Candidate) : Edit TokenId := do
  let at_ := (← Edit.cell c.statement).label
  let members ← c.defineMembers
  let extends_ ← Edit.create
    (.fresh Kind.keyword "extends" at_.line at_.column (c.superClass.toList.map some))
  let name ← Edit.create (.fresh Kind.text c.name at_.line at_.column [])
  let block ← Edit.create
    (.fresh Kind.classBlock "\x7b\x7d" at_.line at_.column (members.map some))
  let comments ← Edit.copyComments c.commented
  Edit.create
    { Cell.fresh Kind.classDecl "class" at_.line at_.column
        [some name, some extends_, some block] with comments }

/-- The class declaration takes the place of the function; then the statements that set up
the inheritance go, and then those that declared the methods. -/
def commit (c : Candidate) : Edit Unit := do
  let declaration ← c.declare
  Edit.replaceStatement c.parent c.statement [some declaration]
  c.inheritance.forM fun (parent, node) => Edit.replaceStatement parent node []
  c.methods.forM Method.remove

end Candidate

end ClassLift
