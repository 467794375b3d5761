import ClassLift.Literal.Value

set_option autoImplicit false

/-! # Phrases

What has been read of a literal, as a tree: constants, names, and forms with their parts.
The grammar is that of all expressions, of which only some are literals; a form that no
literal has is kept only for what a later rule wants to know of it.
-/

namespace ClassLift.Literal

/-- The form of a phrase. -/
inductive Form where
  | tuple
  | list
  | set
  /-- A table; its parts are entries and spreads. -/
  | table
  /-- A key and its value. -/
  | entry
  /-- A table whose entries are taken over. -/
  | spread
  /-- A call: the function, then the arguments. -/
  | call
  /-- An argument with its name, or the arguments of a table. -/
  | keyword
  | positive
  | negative
  | sum
  | difference
  /-- Elements taken over, or the target for all that is left. -/
  | starred
  /-- A member or an element of a value. -/
  | member
  /-- A value and its comparisons with others. -/
  | comparison
  /-- The operator `in` and what stands after it. -/
  | within
  /-- Another operator of comparison and what stands after it. -/
  | compared
  /-- A part of a comprehension that starts with `for`. -/
  | clause
  /-- A text with replacement fields. -/
  | template
  | other
  deriving DecidableEq

/-- Is a phrase of this form only a part of the expression around it? -/
def Form.isPart : Form → Bool
  | entry | spread | within | compared => true
  | _ => false

/-- What has been read. -/
inductive Phrase where
  | constant (value : Value)
  | name (word : String)
  | node (form : Form) (parts : List Phrase)
  deriving Inhabited

namespace Phrase

mutual

/-- How deep the expression is nested; an expression without parts has depth one. -/
def depth : Phrase → Nat
  | constant _ => 1
  | name _ => 1
  | node form parts => depthOfAll parts + if form.isPart then 0 else 1

/-- The depth of the deepest phrase. -/
def depthOfAll : List Phrase → Nat
  | [] => 0
  | p :: ps => max (depth p) (depthOfAll ps)

end

mutual

/-- Can a loop variable stand for the phrase? A membership test is judged by its left side,
because a loop writes `in` after its target. -/
def isTarget : Phrase → Bool
  | constant _ => false
  | name _ => true
  | node .tuple parts => areTargets parts
  | node .list parts => areTargets parts
  | node .starred parts => areTargets parts
  | node .member _ => true
  | node .comparison [] => true
  | node .comparison (left :: tests) =>
    match tests with
    | node .within _ :: _ => isTarget left
    | _ => true
  | node _ _ => false

/-- Can loop variables stand for all the phrases? -/
def areTargets : List Phrase → Bool
  | [] => true
  | p :: ps => isTarget p && areTargets ps

end

/-- Is the phrase the name of a command that was once written without brackets? -/
def isCommand : Phrase → Bool
  | name word => word == "print" || word == "exec"
  | _ => false

/-- Is the phrase an argument by position? -/
def isPositional : Phrase → Bool
  | node .keyword _ | node .clause _ => false
  | _ => true

end Phrase

end ClassLift.Literal
