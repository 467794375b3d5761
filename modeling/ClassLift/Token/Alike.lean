import ClassLift.Token.Store

set_option autoImplicit false

/-! # Structural equality

Two slots are *alike* when both are empty, or both hold tokens that agree in kind, value and
children, recursively. Positions, files, comments and identities do not count. The children
are compared from the last to the first, and the first difference ends the comparison, so
that a difference at the end is found before anything in front of it is looked at.

The same order comes of a list of the pairs that are still to be compared, to which the pairs of
children are added, round after round (`compareWithin`).
-/

namespace ClassLift.Store

/-- Do two lists have the same length, and does `test` hold of their pairs, tried from the
last to the first? -/
def allFromLast (test : Slot → Slot → Bool) (xs ys : List Slot) : Bool :=
  xs.length == ys.length && (xs.zip ys).reverse.all fun (x, y) => test x y

/-- Are the two slots alike, down to a depth of `depth` tokens? -/
def alikeTo (s : Store) : Nat → Slot → Slot → Bool
  | _, none, none => true
  | _, none, some _ => false
  | _, some _, none => false
  | 0, some _, some _ => true
  | depth + 1, some t, some u =>
    (s.cell t).label.kind == (s.cell u).label.kind
      && (s.cell t).label.value == (s.cell u).label.value
      && allFromLast (s.alikeTo depth) (s.cell t).children (s.cell u).children

/-- Are the two slots alike? -/
def alike (s : Store) (x y : Slot) : Bool := s.alikeTo s.size x y

/-! ## Pair by pair -/

/-- What is left to compare of two slots: the pairs of their children, none when both are empty.
Without a result, the slots differ already. -/
def childPairs? (s : Store) : Slot → Slot → Option (List (Slot × Slot))
  | none, none => some []
  | some t, some u =>
    if (s.cell t).label.kind = (s.cell u).label.kind
        ∧ (s.cell t).label.value = (s.cell u).label.value
        ∧ (s.cell t).children.length = (s.cell u).children.length then
      some ((s.cell t).children.zip (s.cell u).children)
    else none
  | _, _ => none

/-- Are the slots of every pair alike? The first pair is compared first, and the pairs of its
children come before the others, the last child first. A comparison that takes more than the given
number of rounds has no result. -/
def compareWithin (s : Store) : Nat → List (Slot × Slot) → Option Bool
  | _, [] => some true
  | 0, _ :: _ => none
  | rounds + 1, (x, y) :: queue =>
    match s.childPairs? x y with
    | none => some false
    | some pairs => s.compareWithin rounds (pairs.reverse ++ queue)

end ClassLift.Store
