import ClassLift.Fault

set_option autoImplicit false

/-! # Warnings

The conversion warns about what it does not convert. There are five kinds of warnings, each
known by a name; a `Reporter` counts the warnings of each name, known or not, and writes at
most `limit` of a kind over its whole life. A kind or all warnings can be disabled; the
count goes on all the same.
-/

namespace ClassLift

/-- What a warning is about. -/
inductive Warning where
  | duplicateClass
  | duplicateMethod
  | beforeDeclaration
  | multipleInheritance
  | unsupportedPrototype
  deriving DecidableEq

namespace Warning

/-- The kinds of warnings. -/
def all : List Warning :=
  [duplicateClass, duplicateMethod, beforeDeclaration, multipleInheritance, unsupportedPrototype]

/-- The name of a kind, by which it is counted and disabled. -/
def name : Warning → String
  | duplicateClass => "duplicate_class"
  | duplicateMethod => "duplicate_method"
  | beforeDeclaration => "before_declaration"
  | multipleInheritance => "multiple_inheritance"
  | unsupportedPrototype => "unsupported_prototype"

/-- The words of a kind. -/
def text : Warning → String
  | duplicateClass => "function declared more than once, not converted"
  | duplicateMethod => "method defined more than once"
  | beforeDeclaration => "prototype modified before the constructor is declared, not converted"
  | multipleInheritance => "super class assigned more than once, not converted"
  | unsupportedPrototype => "unsupported prototype assignment, not converted"

/-- The kind with the given name. -/
def ofName? (name : String) : Option Warning := all.find? (·.name = name)

theorem ofName?_name (w : Warning) : ofName? w.name = some w := by
  cases w <;> decide

end Warning

/-- Counts warnings and decides which of them are written. -/
structure Reporter where
  /-- How many warnings of each name there were. -/
  counts : List (String × Nat)
  /-- The names that are not written. -/
  disabled : List String
  /-- Is nothing written at all? -/
  silent : Bool
  deriving Inhabited

namespace Reporter

/-- A reporter that has seen no warning. -/
def start : Reporter := ⟨[], [], false⟩

/-- How many warnings of a kind are written at most. -/
def limit : Nat := 5

/-- How many warnings of this name there were. -/
def count (r : Reporter) (name : String) : Nat := (r.counts.lookup name).getD 0

/-- One more in the list of counts; a name that is not there yet comes last. -/
def increase (name : String) : List (String × Nat) → List (String × Nat)
  | [] => [(name, 1)]
  | (other, n) :: rest =>
    if other = name then (other, n + 1) :: rest else (other, n) :: increase name rest

/-- Warnings of this name are not written from now on. -/
def disable (r : Reporter) (name : String) : Reporter :=
  { r with disabled := name :: r.disabled.filter (· ≠ name) }

/-- Warnings of this name are written again. -/
def enable (r : Reporter) (name : String) : Reporter :=
  { r with disabled := r.disabled.filter (· ≠ name) }

/-- All warnings are silenced, or no longer. -/
def setSilent (r : Reporter) (silent : Bool) : Reporter := { r with silent }

/-- The line written for a warning about the token with this label; words about the case at
hand may follow. -/
def line (l : Label) (text message : String) : String :=
  "WARNING line: " ++ toString l.line ++ " column: " ++ toString l.column ++ " type: " ++ l.kind
    ++ " : " ++ text ++ (if message = "" then "" else ": " ++ message)

/-- A warning is counted. Within the limit, and when neither it nor all warnings are
disabled, a line is written; only then the kind has to be known and the token to be there. -/
def warn (r : Reporter) (about : Option Label) (name message : String) :
    Reporter × Except Fault (Option String) :=
  let r := { r with counts := increase name r.counts }
  (r,
    if limit < r.count name ∨ r.silent ∨ name ∈ r.disabled then .ok none
    else
      match Warning.ofName? name, about with
      | none, _ => .error .unknownWarning
      | some _, none => .error .absentToken
      | some w, some l => .ok (some (line l w.text message)))

end Reporter

end ClassLift
