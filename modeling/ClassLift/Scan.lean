import ClassLift.Token.Edit

set_option autoImplicit false

/-! # Scans

A scan visits the tokens of a tree in preorder, each with the token above it. The children
of a token are read after its visit, so that children which the visit put there are visited
as well. A visit may change the store and a state of its own, and may stop the scan with a
fault; then the scan tells how many tokens it had found but not visited.
-/

namespace ClassLift

/-- A computation on the store and a state of its own, which may stop with a fault. -/
abbrev Traversal (σ : Type) := ExceptT Fault (StateM (Store × σ))

namespace Traversal

variable {σ : Type}

/-- An edit as a step of a traversal. -/
def edit {α : Type} (e : Edit α) : Traversal σ α :=
  ExceptT.mk fun (s, x) =>
    let (result, s) := e.run.run s
    (result, (s, x))

/-- The state of the traversal's own. -/
def own : Traversal σ σ := do
  return (← get).2

/-- A change of the state of the traversal's own. -/
def modifyOwn (f : σ → σ) : Traversal σ Unit :=
  modify fun (s, x) => (s, f x)

end Traversal

namespace Scan

variable {σ : Type}

/-- What a scan does at a token; the second slot is the token above. -/
abbrev Visit (σ : Type) := Slot → Slot → Traversal σ Unit

/-- Why a scan stopped, and how many tokens were found but not visited. -/
structure Interruption where
  fault : Fault
  pending : Nat
  deriving DecidableEq

/-- A scan on its way. -/
abbrev Run (σ : Type) := ExceptT Interruption (StateM (Store × σ))

/-- A visit as a step of a scan. -/
def visited (visit : Visit σ) (slot parent : Slot) : Run σ Unit :=
  ExceptT.mk do
    match ← (visit slot parent).run with
    | .ok () => return .ok ()
    | .error fault => return .error ⟨fault, 0⟩

/-- Some tokens one after the other; where one stops, those after it are pending, too. -/
def each (one : Slot → Run σ Unit) : List Slot → Run σ Unit
  | [] => pure ()
  | slot :: slots => do
    tryCatch (one slot) fun stop => throw { stop with pending := stop.pending + slots.length }
    each one slots

/-- Visits the token in `slot` and all below it, down to `depth` tokens deep. -/
def below (visit : Visit σ) : Nat → Slot → Slot → Run σ Unit
  | 0, _, _ => throw ⟨.outOfDepth, 0⟩
  | depth + 1, slot, parent => do
    visited visit slot parent
    match slot with
    | none => throw ⟨.absentToken, 0⟩
    | some t => each (fun child => below visit depth child slot) ((← get).1.cell t).children

/-- The whole scan from a root. -/
def run (visit : Visit σ) (depth : Nat) (root : Slot) : Run σ Unit := below visit depth root none

end Scan

/-! ## Scans with replacement rules -/

namespace Scan

/-- A visit that has nothing to do with any token. -/
def noVisit {σ : Type} : Visit σ := fun _ _ => throw .noVisit

/-- What a scan by rules has seen, and the rules that it has left. A rule names a value and
the children that a token of this value gets. -/
structure Rules where
  /-- Kind and value of every token visited, and the value of the token above it. -/
  seen : List (Kind × String × Option String)
  rules : List (String × List Slot)

/-- The rules without the first one for the given value, and what that one gives. -/
def takeRule (value : String) :
    List (String × List Slot) → Option (List Slot × List (String × List Slot))
  | [] => none
  | (v, children) :: rest =>
    if v = value then some (children, rest)
    else (takeRule value rest).map fun (found, others) => (found, (v, children) :: others)

/-- Notes the token and applies the rule for its value, if there is one left; a rule is used
once. -/
def applyRule : Visit Rules := fun slot parent => do
  let c ← Traversal.edit (Edit.cell slot)
  let store := (← get).1
  let above := parent.map fun p => (store.cell p).label.value
  Traversal.modifyOwn fun x =>
    { x with seen := x.seen ++ [(c.label.kind, c.label.value, above)] }
  match takeRule c.label.value (← Traversal.own).rules with
  | none => pure ()
  | some (children, rest) =>
    Traversal.modifyOwn fun x => { x with rules := rest }
    Traversal.edit (Edit.update slot fun c => { c with children })

/-- The scan by rules. No token is made on the way, so the number of tokens bounds the depth;
an empty slot may come below the deepest one. -/
def byRules (root : Slot) : Run Rules Unit := do
  run applyRule ((← get).1.size + 1) root

end Scan

end ClassLift
