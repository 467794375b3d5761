import ClassLift.Fault
import ClassLift.Token.Tree

set_option autoImplicit false

/-! # Edits

An edit works on the store and gives a value or stops with a fault. What it changed before
it stopped stays changed.

The edits here: a new token, a deep copy of a token (`clone`), copies of the comments of
some tokens (`copyComments`), and the replacement of one statement by any number of others
(`replaceStatement`), which finds the statement by its identity.
-/

namespace ClassLift

/-- A computation that reads and changes the store and may stop with a fault. -/
abbrev Edit := ExceptT Fault (StateM Store)

namespace Edit

/-- The token of a slot. -/
def token (slot : Slot) : Edit TokenId :=
  match slot with
  | some t => pure t
  | none => throw .absentToken

/-- The cell of the token in a slot, as it is now. -/
def cell (slot : Slot) : Edit Cell := do
  return (← get).cell (← token slot)

/-- The child number `n` of a cell. -/
def child (c : Cell) (n : Nat) : Edit Slot :=
  match c.children[n]? with
  | some slot => pure slot
  | none => throw .missingChild

/-- A new token with the given cell. -/
def create (c : Cell) : Edit TokenId :=
  modifyGet fun s => (s.size, s.push c)

/-- The cell of the token in a slot is changed by `f`. -/
def update (slot : Slot) (f : Cell → Cell) : Edit Unit := do
  let t ← token slot
  modify fun s => s.set t (f (s.cell t))

end Edit

/-! ## Copies -/

namespace Store

mutual

/-- New tokens that form the given tree: the slot of its root, and the larger store. -/
def build (s : Store) : Tree → Slot × Store
  | .absent => (none, s)
  | .node _ label cs ks =>
    let (children, s) := s.buildAll cs
    let (comments, s) := s.buildAll ks
    (some s.size, s.push ⟨label, children, comments⟩)

/-- New tokens that form the given trees, the first tree first. -/
def buildAll (s : Store) : List Tree → List Slot × Store
  | [] => ([], s)
  | t :: ts =>
    let (slot, s) := s.build t
    let (slots, s) := s.buildAll ts
    (slot :: slots, s)

end

end Store

namespace Edit

/-- A deep copy of the token in a slot, with its children and comments. -/
def clone (slot : Slot) : Edit TokenId := do
  let t := (← get).fullTree slot
  if t.wholeWithComments then
    token (← modifyGet fun s => s.build t)
  else throw .absentToken

/-- Copies of the comments of the given tokens, in order. -/
def copyComments : List Slot → Edit (List Slot)
  | [] => pure []
  | slot :: slots => do
    let copies ← (← cell slot).comments.mapM fun comment => some <$> clone comment
    return copies ++ (← copyComments slots)

/-! ## Replacing a statement -/

/-- The list with the first slot equal to `node` replaced by the slots `new`; `none` when
there is no such slot. -/
def replaceFirst (node : Slot) (new : List Slot) : List Slot → Option (List Slot)
  | [] => none
  | slot :: slots =>
    if slot = node then some (new ++ slots)
    else (replaceFirst node new slots).map (slot :: ·)

/-- The statement `node` among the children of `parent` gives way to the statements `new`. -/
def replaceStatement (parent node : Slot) (new : List Slot) : Edit Unit := do
  match parent with
  | none => throw (.statement (← cell node).label .noParent)
  | some p =>
    let c := (← get).cell p
    match replaceFirst node new c.children with
    | some children => modify fun s => s.set p { c with children }
    | none => throw (.statement (← cell node).label (.notFound c.label.kind))

end Edit

end ClassLift
