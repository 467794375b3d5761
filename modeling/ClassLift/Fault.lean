import ClassLift.Text.Quoted
import ClassLift.Token.Store

set_option autoImplicit false

/-! # Faults

What can go wrong, by cause. A fault of a statement carries the label of the token that it
concerns and says in its message where that token stands.
-/

namespace ClassLift

/-- What is wrong with a statement. -/
inductive Complaint where
  /-- The statement is to be replaced, but there is no token that holds it. -/
  | noParent
  /-- The statement is not among the children of the token that should hold it. -/
  | notFound (parent : Kind)
  /-- A function has something else where its block of statements should be. -/
  | noBody
  /-- A quoted string is no literal of the literal notation. -/
  | badLiteral
  deriving DecidableEq

/-- The words for a complaint. -/
def Complaint.text : Complaint → String
  | noParent => "statement has no parent"
  | notFound parent => "statement not found in " ++ parent
  | noBody => "expected function body"
  | badLiteral => "syntax error"

/-- Why an operation stopped. -/
inductive Fault where
  /-- A token was needed where there is none. -/
  | absentToken
  /-- A child was needed that the token does not have. -/
  | missingChild
  /-- The length of something without a length was asked for. -/
  | noLength
  /-- A list, set or table stands where only a hashable value can stand. -/
  | unhashable
  /-- A call does not consist of a function and an argument list. -/
  | brokenCall
  /-- A warning of an unknown kind was to be written. -/
  | unknownWarning
  /-- A traversal has no action for the tokens that it visits. -/
  | noVisit
  /-- An integer is too large for a floating-point number. -/
  | tooLarge
  /-- A literal is nested too deeply to be read. -/
  | tooDeep
  /-- The expression that was read is too deep to be walked. -/
  | tooLong
  /-- A scan went deeper than the bound that it was given. -/
  | outOfDepth
  /-- A statement is not as it has to be. -/
  | statement (label : Label) (complaint : Complaint)
  deriving DecidableEq

/-- A message about a token: its kind, place and value, then the words. -/
def Label.message (l : Label) (words : String) : String :=
  "type: " ++ l.kind ++ " line: " ++ toString l.line ++ " column: " ++ toString l.column ++ " ("
    ++ quoted l.value ++ ") " ++ words

/-- The message of a fault; only the faults of statements have one. -/
def Fault.message? : Fault → Option String
  | statement label complaint => some (label.message complaint.text)
  | _ => none

end ClassLift
