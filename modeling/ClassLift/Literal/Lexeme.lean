set_option autoImplicit false

/-! # Lexemes

The smallest parts of the literal notation: names, keywords, operators, numbers and texts,
and the ends of lines and of the whole.
-/

namespace ClassLift.Literal

/-- What a number literal writes. -/
inductive NumberForm where
  /-- An integer; a decimal one has at most `maxDigits` digits. -/
  | integer (n : Nat)
  /-- A decimal integer with more digits. -/
  | tooManyDigits
  | real
  | imaginary
  deriving DecidableEq

/-- A text literal: its prefixes, and the characters between its quotes as they stand. -/
structure TextForm where
  /-- Are backslashes ordinary characters? -/
  raw : Bool
  /-- Is it a byte string? -/
  bytes : Bool
  /-- Does it have replacement fields in braces? -/
  template : Bool
  body : List Char
  deriving DecidableEq

/-- A smallest part. -/
inductive Lexeme where
  | name (word : String)
  | keyword (word : String)
  | operator (sign : String)
  | number (form : NumberForm)
  | text (form : TextForm)
  /-- The end of a line on which something stood, outside of all brackets. -/
  | newline
  /-- A line that is indented although nothing asks for it. -/
  | indent
  /-- The end of the literal. -/
  | finish
  /-- Characters that are no lexeme at all, or brackets that do not match. -/
  | broken
  deriving DecidableEq

/-- The reserved words. -/
def keywords : List String :=
  ["False", "None", "True", "and", "as", "assert", "async", "await", "break", "class",
    "continue", "def", "del", "elif", "else", "except", "finally", "for", "from", "global",
    "if", "import", "in", "is", "lambda", "nonlocal", "not", "or", "pass", "raise", "return",
    "try", "while", "with", "yield"]

/-- The lexeme of a word. -/
def Lexeme.ofWord (cs : List Char) : Lexeme :=
  let word := String.ofList cs
  if keywords.contains word then .keyword word else .name word

end ClassLift.Literal
