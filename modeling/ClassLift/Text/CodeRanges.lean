import ClassLift.Text.Digit

set_option autoImplicit false

/-! # Sets of code points

A property of characters is a set of code points, given as closed ranges in increasing
order. The ranges of a property are written as text: hexadecimal bounds, `low-high` or a
single code point, separated by blanks. Membership is decided by binary search.
-/

namespace ClassLift

/-- A set of code points: closed ranges, in increasing order and disjoint. -/
structure CodeRanges where
  bounds : Array (Nat × Nat)

namespace CodeRanges

/-! ## Reading the written form -/

/-- How far the written form has been read: the finished ranges, the lower bound of the
range being read, and the number being read. -/
structure Reading where
  done : Array (Nat × Nat)
  low : Option Nat
  number : Option Nat

/-- A blank ends a range: two bounds, or one code point standing for itself. -/
def Reading.close (r : Reading) : Reading :=
  match r.low, r.number with
  | some low, some high => ⟨r.done.push (low, high), none, none⟩
  | none, some only => ⟨r.done.push (only, only), none, none⟩
  | _, none => ⟨r.done, none, none⟩

/-- One more character of the written form. -/
def Reading.step (r : Reading) (c : Char) : Reading :=
  match hexDigit? c with
  | some d => { r with number := some (r.number.getD 0 * 16 + d) }
  | none => if c = '-' then { r with low := r.number, number := none } else r.close

/-- The set with the given written form. -/
def ofText (text : String) : CodeRanges :=
  ⟨(text.foldl Reading.step ⟨#[], none, none⟩).close.done⟩

/-! ## Membership -/

/-- Is `c` in one of the ranges with index in `[low, high)`? -/
def searchIn (bounds : Array (Nat × Nat)) (c low high : Nat) : Bool :=
  if low < high then
    let middle := (low + high) / 2
    match bounds[middle]? with
    | none => false
    | some (first, last) =>
      if c < first then searchIn bounds c low middle
      else if last < c then searchIn bounds c (middle + 1) high
      else true
  else false
termination_by high - low

/-- Is the code point `c` in the set? -/
def contains (r : CodeRanges) (c : Nat) : Bool :=
  searchIn r.bounds c 0 r.bounds.size

end CodeRanges

end ClassLift
