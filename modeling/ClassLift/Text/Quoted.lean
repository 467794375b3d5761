import ClassLift.Text.Digit
import ClassLift.Text.Printable

set_option autoImplicit false

/-! # Quoted text

The written form of a text value in dumps and messages. It stands in single quotes, or in
double quotes when it holds a single quote and no double one. The quote in use and the
backslash are escaped by a backslash, `\n`, `\r` and `\t` are short, and every other
character that is not printable is written by its code point, in the shortest of the forms
`\xHH`, `\uHHHH` and `\UHHHHHHHH` that can hold it.
-/

namespace ClassLift

/-- The quote that encloses a text with these characters. -/
def quoteFor (cs : List Char) : Char :=
  if cs.contains '\'' && !cs.contains '"' then '"' else '\''

/-- The escape that writes a character by its code point. -/
def codePointEscape (c : Char) : List Char :=
  if c.toNat < 0x100 then '\\' :: 'x' :: hexText 2 c.toNat
  else if c.toNat < 0x10000 then '\\' :: 'u' :: hexText 4 c.toNat
  else '\\' :: 'U' :: hexText 8 c.toNat

/-- One character inside the quotes `q`. -/
def quotedChar (q c : Char) : List Char :=
  if c = q ∨ c = '\\' then ['\\', c]
  else if c = '\n' then ['\\', 'n']
  else if c = '\r' then ['\\', 'r']
  else if c = '\t' then ['\\', 't']
  else if isPrintable c then [c]
  else codePointEscape c

/-- The characters between the quotes `q`. -/
def quotedBody (q : Char) (cs : List Char) : List Char := cs.flatMap (quotedChar q)

/-- The written form of a list of characters. -/
def quotedChars (cs : List Char) : List Char :=
  quoteFor cs :: (quotedBody (quoteFor cs) cs ++ [quoteFor cs])

/-- The written form of a text. -/
def quoted (s : String) : String := String.ofList (quotedChars s.toList)

end ClassLift
