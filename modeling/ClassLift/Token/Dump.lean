import ClassLift.Fault
import ClassLift.Token.Tree

set_option autoImplicit false

/-! # Dumps of trees

A whole tree can be listed and written in several forms: its tokens in preorder with their
depths (`tokens`), one line of text (`compact`), one line per token (`outline`), and nested
`TOKEN(…)` terms (`nested`). A single token is also written with its position, without its
children (`summary`).

Two trees can be compared by what is seen of their tokens in preorder, position by position
(`Store.differences`).
-/

namespace ClassLift.Tree

/-! ## Listing -/

mutual

/-- The tokens in preorder, each with its depth; the first has the given depth. -/
def tokens (depth : Int) : Tree → List (Int × TokenId)
  | absent => []
  | node t _ cs _ => (depth, t) :: allTokens (depth + 1) cs

/-- The tokens of several trees, one tree after the other. -/
def allTokens (depth : Int) : List Tree → List (Int × TokenId)
  | [] => []
  | t :: ts => tokens depth t ++ allTokens depth ts

end

/-- An entry of a listing: depth, kind and value of a token. -/
abbrev Entry := Int × Kind × String

/-- Is there an entry at a position of both listings, and is it the same one? -/
def sameEntry : Option Entry → Option Entry → Bool
  | some x, some y => x == y
  | _, _ => false

/-- At how many positions two listings differ. A position at which only one of them has an entry
counts. -/
def countDifferences (xs ys : List Entry) : Nat :=
  (List.zipWithAll sameEntry xs ys).count false

/-! ## Text -/

/-- `text` written `times` times; not at all for a negative number. -/
def repeated (text : String) (times : Int) : String :=
  if text = "" then "" else String.join (List.replicate times.toNat text)

mutual

/-- The tree in one line: `KIND<'value'>`, and the children in braces when there are any. -/
def compact : Tree → String
  | absent => ""
  | node _ l [] _ => l.kind ++ "<" ++ quoted l.value ++ ">"
  | node _ l (c :: cs) _ =>
    l.kind ++ "<" ++ quoted l.value ++ ">\x7b" ++ compact c ++ compacts cs ++ "\x7d"

/-- The further children, each after a comma. -/
def compacts : List Tree → String
  | [] => ""
  | t :: ts => "," ++ compact t ++ compacts ts

end

mutual

/-- One line per token, with its position, indented by `pad` once for each level. -/
def outline (pad : String) (depth : Int) : Tree → String
  | absent => ""
  | node _ l cs _ =>
    repeated pad depth ++ l.kind ++ "<" ++ toString l.line ++ "," ++ toString l.column ++ ","
      ++ quoted l.value ++ ">\n" ++ outlines pad (depth + 1) cs

/-- The outlines of several trees, one after the other. -/
def outlines (pad : String) (depth : Int) : List Tree → String
  | [] => ""
  | t :: ts => outline pad depth t ++ outlines pad depth ts

end

mutual

/-- Nested terms, each on a line of its own, indented by four blanks for each level. -/
def nested (depth : Int) : Tree → String
  | absent => ""
  | node _ l [] _ =>
    "\n" ++ repeated "    " depth ++ "TOKEN(" ++ quoted l.kind ++ ", " ++ quoted l.value ++ ")"
  | node _ l (c :: cs) _ =>
    "\n" ++ repeated "    " depth ++ "TOKEN(" ++ quoted l.kind ++ ", " ++ quoted l.value ++ ", "
      ++ nested (depth + 1) c ++ nestedRest (depth + 1) cs ++ ")"

/-- The further children, each after a comma and a blank. -/
def nestedRest (depth : Int) : List Tree → String
  | [] => ""
  | t :: ts => ", " ++ nested depth t ++ nestedRest depth ts

end

/-- The ways to write a tree as text. -/
inductive Style where
  | compact
  | outline
  | nested
  deriving DecidableEq

/-- The tree written in the given style; the padding matters to the outline alone, and the
depth does not matter to the compact form. -/
def render (style : Style) (depth : Int) (pad : String) (t : Tree) : String :=
  match style with
  | .compact => t.compact
  | .outline => t.outline pad depth
  | .nested => t.nested depth

end ClassLift.Tree

namespace ClassLift

/-! ## Dumps of slots

A tree with an absent child can be neither listed nor written. -/

/-- A token with its position, as a term. -/
def Label.summary (l : Label) : String :=
  "Token(Token." ++ l.kind ++ ", " ++ toString l.line ++ ", " ++ toString l.column ++ ", "
    ++ quoted l.value ++ ")"

namespace Store

/-- The token in a slot with its position, as a term. -/
def summary (s : Store) (slot : Slot) : String :=
  match s.label? slot with
  | none => "None"
  | some l => l.summary

/-- The token in a slot, with all below it, as text in the given style. -/
def write (s : Store) (style : Tree.Style) (depth : Int) (pad : String) (slot : Slot) :
    Except Fault String :=
  let t := s.tree slot
  if t.whole then .ok (t.render style depth pad) else .error .absentToken

/-- The compact text of what is in a slot, which may also be empty. -/
def describe (s : Store) (slot : Slot) : Except Fault String :=
  match slot with
  | none => .ok (s.summary none)
  | some t => s.write .compact 0 "" (some t)

/-- The token in a slot and all below it in preorder, with their depths. -/
def tokens (s : Store) (depth : Int) (slot : Slot) : Except Fault (List (Int × TokenId)) :=
  let t := s.tree slot
  if t.whole then .ok (t.tokens depth) else .error .absentToken

/-- What is seen of a token at some depth. -/
def entry (s : Store) (row : Int × TokenId) : Tree.Entry :=
  (row.1, (s.cell row.2).label.kind, (s.cell row.2).label.value)

/-- What is seen of the token in a slot and of all below it in preorder. -/
def flatten (s : Store) (depth : Int) (slot : Slot) : Except Fault (List Tree.Entry) := do
  return (← s.tokens depth slot).map s.entry

/-- At how many positions the listings of two slots differ. -/
def differences (s : Store) (expected actual : Slot) : Except Fault Nat := do
  let found ← s.flatten 0 actual
  let wanted ← s.flatten 0 expected
  return Tree.countDifferences found wanted

end Store

end ClassLift
