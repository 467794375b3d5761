set_option autoImplicit false

/-! # Values of literals

What a literal can stand for, as far as it matters: the text of a text, the size of an
integer, and of everything else only its type and whether it can be hashed.
-/

namespace ClassLift.Literal

/-- Why a text is no literal. -/
inductive Failure where
  /-- It does not follow the grammar, or has a form that no literal has. -/
  | malformed
  /-- A list, set or table is an element of a set or a key of a table. -/
  | unhashable
  /-- An integer that is added to a complex number is too large. -/
  | tooLarge
  /-- It is nested too deeply for the grammar. -/
  | tooDeep
  /-- Its expression is too deep to be walked. -/
  | tooLong
  deriving DecidableEq

/-- The value of a literal. -/
inductive Value where
  | text (s : String)
  /-- A text with a code point that no character has. -/
  | brokenText
  | bytes
  | integer (n : Int)
  | real
  | complex
  | boolean
  | nothing
  | dots
  | tuple (elements : List Value)
  | list
  | set
  | table
  deriving Inhabited

namespace Value

/-- The name of the type. -/
def typeName : Value → String
  | text _ => "str"
  | brokenText => "str"
  | bytes => "bytes"
  | integer _ => "int"
  | real => "float"
  | complex => "complex"
  | boolean => "bool"
  | nothing => "NoneType"
  | dots => "ellipsis"
  | tuple _ => "tuple"
  | list => "list"
  | set => "set"
  | table => "dict"

mutual

/-- Can the value be an element of a set or a key of a table? -/
def isHashable : Value → Bool
  | tuple elements => allHashable elements
  | list => false
  | set => false
  | table => false
  | _ => true

/-- Are all these values hashable? -/
def allHashable : List Value → Bool
  | [] => true
  | v :: vs => isHashable v && allHashable vs

end

end Value

end ClassLift.Literal
