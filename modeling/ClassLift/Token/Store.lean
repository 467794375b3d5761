import ClassLift.Token.Kind

set_option autoImplicit false

/-! # The token store

Tokens have an identity, can be edited, and can sit in several places at once; an edit then
shows in all of them. A store therefore holds its tokens as *cells*, addressed by number:
a cell has what the token says of itself (its `Label`) and two lists of *slots*, the
children and the comments. A slot names a cell or is empty. Cells are never freed, so a
number stays the identity of its token for good.
-/

namespace ClassLift

/-- The identity of a token: the number of its cell. -/
abbrev TokenId := Nat

/-- A place where a token can stand; `none` when no token stands there. -/
abbrev Slot := Option TokenId

/-- What a token says of itself: its kind and value, and where it was read. -/
structure Label where
  kind : Kind
  value : String
  line : Int
  column : Int
  file : Option String
  deriving DecidableEq, Inhabited

/-- A token with its links to other tokens. -/
structure Cell where
  label : Label
  children : List Slot
  comments : List Slot
  deriving DecidableEq, Inhabited

/-- A cell without comments that was read from no file, as the conversion creates them. -/
def Cell.fresh (kind : Kind) (value : String) (line column : Int) (children : List Slot) : Cell :=
  ⟨⟨kind, value, line, column, none⟩, children, []⟩

/-- All tokens there are. -/
structure Store where
  cells : Array Cell
  deriving Inhabited

namespace Store

/-- The store without tokens. -/
def empty : Store := ⟨#[]⟩

/-- The number of tokens. -/
def size (s : Store) : Nat := s.cells.size

/-- The cell of a token; a blank cell where there is none. -/
def cell (s : Store) (t : TokenId) : Cell := s.cells[t]?.getD default

/-- The store in which the cell of `t` is `c`. -/
def set (s : Store) (t : TokenId) (c : Cell) : Store := ⟨s.cells.setIfInBounds t c⟩

/-- The store with the new cell `c`, whose token is the old `s.size`. -/
def push (s : Store) (c : Cell) : Store := ⟨s.cells.push c⟩

/-! ## Reading slots -/

/-- The label of the token in a slot, if there is one. -/
def label? (s : Store) (slot : Slot) : Option Label := slot.map fun t => (s.cell t).label

/-- The children of the token in a slot; an empty slot has none. -/
def children (s : Store) (slot : Slot) : List Slot :=
  match slot with
  | none => []
  | some t => (s.cell t).children

/-- Is there a token of this kind? -/
def hasKind (s : Store) (kind : Kind) (slot : Slot) : Bool :=
  match s.label? slot with
  | none => false
  | some l => l.kind == kind

/-- Is there a token of this kind and value? -/
def isToken (s : Store) (kind : Kind) (value : String) (slot : Slot) : Bool :=
  match s.label? slot with
  | none => false
  | some l => l.kind == kind && l.value == value

/-- The value of the token in a slot; empty where there is none. -/
def value (s : Store) (slot : Slot) : String :=
  match s.label? slot with
  | none => ""
  | some l => l.value

/-! ## What an operation does to each cell -/

@[simp] theorem size_set (s : Store) (t : TokenId) (c : Cell) : (s.set t c).size = s.size := by
  simp [size, set]

@[simp] theorem size_push (s : Store) (c : Cell) : (s.push c).size = s.size + 1 := by
  simp [size, push]

theorem cell_set_eq (s : Store) (t : TokenId) (c : Cell) (h : t < s.size) :
    (s.set t c).cell t = c := by
  simp only [size] at h
  simp [cell, set, h]

theorem cell_set_ne (s : Store) (t u : TokenId) (c : Cell) (h : u ≠ t) :
    (s.set t c).cell u = s.cell u := by
  simp [cell, set, Ne.symm h]

theorem cell_of_size_le (s : Store) (t : TokenId) (h : s.size ≤ t) : s.cell t = default := by
  rw [cell, Array.getElem?_eq_none h, Option.getD_none]

theorem set_set (s : Store) (t : TokenId) (c c' : Cell) : (s.set t c).set t c' = s.set t c' := by
  simp [set]

theorem set_cell (s : Store) (t : TokenId) : s.set t (s.cell t) = s := by
  have hcells : s.cells.setIfInBounds t (s.cell t) = s.cells := by
    refine Array.ext (Array.size_setIfInBounds) fun u _ hu => ?_
    rw [Array.getElem_setIfInBounds hu]
    by_cases ht : t = u
    · subst ht
      rw [if_pos rfl, cell, Array.getElem?_eq_getElem hu, Option.getD_some]
    · rw [if_neg ht]
  rw [set, hcells]

theorem cell_push_eq (s : Store) (c : Cell) : (s.push c).cell s.size = c := by
  simp [cell, push, size]

theorem cell_push_lt (s : Store) (c : Cell) (u : TokenId) (h : u < s.size) :
    (s.push c).cell u = s.cell u := by
  simp only [size] at h
  simp [cell, push, Array.getElem?_push, Nat.ne_of_lt h]

end Store

end ClassLift
