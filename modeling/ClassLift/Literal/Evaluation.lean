import ClassLift.Literal.Phrase
import ClassLift.Text.Identifier

set_option autoImplicit false

/-! # Evaluation of literals

Constants, tuples, lists, sets and tables of literals, the empty set as a call, signed
numbers, and the sum or difference of a real and a complex number are literals. They are
evaluated from left to right, and the first mistake is what the literal fails with.
-/

namespace ClassLift.Literal

/-- Does no floating-point number come near enough to `n`? The largest one is less than half
a unit in its last place away from this bound. -/
def isTooLarge (n : Int) : Bool := Nat.pow 2 1024 - Nat.pow 2 970 ≤ n.natAbs

namespace Value

/-- The value with the other sign. -/
def negated : Value → Value
  | integer n => integer (-n)
  | v => v

end Value

namespace Phrase

/-- A number, which stands there as a constant. -/
def asNumber : Phrase → Except Failure Value
  | constant (.integer n) => .ok (.integer n)
  | constant .real => .ok .real
  | constant .complex => .ok .complex
  | _ => .error .malformed

/-- A number with at most one sign. -/
def asSignedNumber : Phrase → Except Failure Value
  | node .positive [p] => p.asNumber
  | node .negative [p] => p.asNumber.map Value.negated
  | p => p.asNumber

/-- A real and a complex number, added or subtracted. -/
def asComplex (left right : Phrase) : Except Failure Value := do
  let l ← left.asSignedNumber
  let r ← right.asNumber
  match l, r with
  | .integer n, .complex => if isTooLarge n then .error .tooLarge else .ok .complex
  | .real, .complex => .ok .complex
  | _, _ => .error .malformed

/-- The value, when it can be hashed. -/
def hashed (v : Value) : Except Failure Value :=
  if v.isHashable then .ok v else .error .unhashable

mutual

/-- The value of a phrase. -/
def evaluate : Phrase → Except Failure Value
  | constant v => .ok v
  | name _ => .error .malformed
  | node .tuple parts => (evaluateAll parts).map .tuple
  | node .list parts => (evaluateAll parts).map fun _ => .list
  | node .set parts => (evaluateHashed parts).map fun _ => .set
  | node .table parts => (evaluateEntries parts).map fun _ => .table
  | node .call [name word] =>
    if isSpellingOfSet word.toList then .ok .set else .error .malformed
  | node .sum [l, r] => asComplex l r
  | node .difference [l, r] => asComplex l r
  | node form parts => (node form parts).asSignedNumber

/-- The values of all the phrases. -/
def evaluateAll : List Phrase → Except Failure (List Value)
  | [] => .ok []
  | p :: ps => do return (← evaluate p) :: (← evaluateAll ps)

/-- The elements of a set, each of which is hashed as soon as it is known. -/
def evaluateHashed : List Phrase → Except Failure Unit
  | [] => .ok ()
  | p :: ps => do
    let _ ← hashed (← evaluate p)
    evaluateHashed ps

/-- The entries of a table. A key is hashed when its value is known. -/
def evaluateEntries : List Phrase → Except Failure Unit
  | [] => .ok ()
  | node .entry [key, value] :: ps => do
    let k ← evaluate key
    let _ ← evaluate value
    let _ ← hashed k
    evaluateEntries ps
  | _ :: _ => .error .malformed

end

end Phrase

end ClassLift.Literal
