import ClassLift.Text.Digit

set_option autoImplicit false

/-! # String literals of ECMAScript

A string literal stands between two equal quotes and consists of *parts*: characters that
stand for themselves, and escapes. Its value is a sequence of UTF-16 code units, to which each
part contributes its own (`StringPart.units`). The legacy octal escapes of scripts are
included; `\0` is one of them.

A sequence of parts is the reading of its characters when every part fits between the quotes
and in front of the next one (`StringPart.fits`): a backslash starts an escape, an escape
takes its digits as far as they go, and no line ends without a backslash.

Some parts can be read as the beginning of something longer, in the notation that the reader
of `Literal/Read.lean` follows: `\U` and `\N` as the start of a long escape, and an octal
escape of two digits together with a third one (`StringPart.takesMore`).
-/

namespace ClassLift

/-- The UTF-16 code units of a code point. -/
def utf16 (n : Nat) : List Nat :=
  if n < 0x10000 then [n] else [0xd800 + (n - 0x10000) / 0x400, 0xdc00 + (n - 0x10000) % 0x400]

/-- The UTF-16 code units of a text. -/
def unitsOf (cs : List Char) : List Nat := cs.flatMap fun c => utf16 c.toNat

/-! ## Parts -/

/-- The sequences of characters that end a line. -/
inductive LineEnd where
  | feed
  | carriage
  | carriageFeed
  | separator
  | paragraph
  deriving DecidableEq

/-- The characters of a line end. -/
def LineEnd.source : LineEnd → List Char
  | feed => ['\n']
  | carriage => ['\r']
  | carriageFeed => ['\r', '\n']
  | separator => ['\u2028']
  | paragraph => ['\u2029']

/-- A part of a string literal. -/
inductive StringPart where
  /-- A character that stands for itself. -/
  | plain (c : Char)
  /-- A backslash and a line end. -/
  | lineEnd (e : LineEnd)
  /-- A backslash and one character. -/
  | escaped (c : Char)
  /-- A backslash and octal digits. -/
  | octal (digits : List Char)
  /-- `\x` and two hexadecimal digits. -/
  | hex (a b : Char)
  /-- `\u` and four hexadecimal digits. -/
  | unicode (a b c d : Char)
  /-- `\u` and hexadecimal digits in braces. -/
  | codePoint (digits : List Char)
  deriving DecidableEq

namespace StringPart

/-- The characters of a part. -/
def source : StringPart → List Char
  | plain c => [c]
  | lineEnd e => '\\' :: e.source
  | escaped c => ['\\', c]
  | octal digits => '\\' :: digits
  | hex a b => ['\\', 'x', a, b]
  | unicode a b c d => ['\\', 'u', a, b, c, d]
  | codePoint digits => '\\' :: 'u' :: '\x7b' :: (digits ++ ['\x7d'])

/-- The code units of the character after a backslash: of a control character that has a
letter, or of the character itself. -/
def escapedUnits (c : Char) : List Nat :=
  if c = 'b' then [8]
  else if c = 't' then [9]
  else if c = 'n' then [10]
  else if c = 'v' then [11]
  else if c = 'f' then [12]
  else if c = 'r' then [13]
  else utf16 c.toNat

/-- The code units that a part contributes to the value. -/
def units : StringPart → List Nat
  | plain c => utf16 c.toNat
  | lineEnd _ => []
  | escaped c => escapedUnits c
  | octal digits => [number 8 digits]
  | hex a b => [number 16 [a, b]]
  | unicode a b c d => [number 16 [a, b, c, d]]
  | codePoint digits => utf16 (number 16 digits)

/-- Does the part start with an octal digit that stands for itself? -/
def startsOctal : Option StringPart → Bool
  | some (plain c) => isDigitOf 8 c
  | _ => false

/-- The characters that do not follow a backslash on their own: line ends, octal digits, and
the letters that ask for digits. -/
def unescaped : List Char :=
  ['\n', '\r', '\u2028', '\u2029', '0', '1', '2', '3', '4', '5', '6', '7', 'x', 'u']

/-- Octal digits as far as an escape takes them: up to three, or two when the first one is
larger than three; fewer where no further octal digit follows. -/
def octalFits (next : Option StringPart) : List Char → Bool
  | [a] => isDigitOf 8 a && !startsOctal next
  | [a, b] => isDigitOf 8 a && isDigitOf 8 b && (!isDigitOf 4 a || !startsOctal next)
  | [a, b, c] => isDigitOf 4 a && isDigitOf 8 b && isDigitOf 8 c
  | _ => false

/-- Can the part stand between the quotes `q`, with the part `next` behind it? -/
def fits (q : Char) (next : Option StringPart) : StringPart → Bool
  | plain c => c != q && c != '\\' && c != '\n' && c != '\r'
  | lineEnd _ => true
  | escaped c => !unescaped.contains c
  | octal digits => octalFits next digits
  | hex a b => isDigitOf 16 a && isDigitOf 16 b
  | unicode a b c d => [a, b, c, d].all (isDigitOf 16)
  | codePoint digits =>
    !digits.isEmpty && digits.all (isDigitOf 16) && decide (number 16 digits ≤ 0x10ffff)

/-- Is the part, with `next` behind it, the start of a longer escape of the reader? -/
def takesMore (next : Option StringPart) : StringPart → Bool
  | escaped c => c == 'U' || c == 'N'
  | octal [_, _] => startsOctal next
  | _ => false

end StringPart

/-! ## Sequences of parts -/

/-- The characters of the parts. -/
def sourceOf (parts : List StringPart) : List Char := parts.flatMap StringPart.source

/-- The value of the parts. -/
def valueOf (parts : List StringPart) : List Nat := parts.flatMap StringPart.units

/-- Does every part fit between the quotes `q` and in front of the next one? -/
def allFit (q : Char) : List StringPart → Bool
  | [] => true
  | p :: rest => p.fits q rest.head? && allFit q rest

/-- Is some part the start of a longer escape of the reader? -/
def someTakeMore : List StringPart → Bool
  | [] => false
  | p :: rest => p.takesMore rest.head? || someTakeMore rest

/-- A well-formed string literal. -/
structure StringLiteral where
  quote : Char
  parts : List StringPart
  quotes : quote = '\'' ∨ quote = '"'
  fit : allFit quote parts = true

namespace StringLiteral

/-- The literal as it is written. -/
def text (l : StringLiteral) : String := String.ofList (l.quote :: (sourceOf l.parts ++ [l.quote]))

/-- The string value: its UTF-16 code units. -/
def value (l : StringLiteral) : List Nat := valueOf l.parts

/-- Does the reader take more characters for some escape than the escape has? -/
def takesMore (l : StringLiteral) : Bool := someTakeMore l.parts

end StringLiteral

/-! ## Lemmas -/

theorem length_utf16 (n : Nat) : (utf16 n).length ≤ 2 := by
  unfold utf16
  split
  · simp
  · simp

theorem utf16_ne_nil (n : Nat) : utf16 n ≠ [] := by
  unfold utf16
  split
  · simp
  · simp

theorem utf16_of_lt {n : Nat} (h : n < 0x10000) : utf16 n = [n] := by
  rw [utf16, if_pos h]

@[simp] theorem sourceOf_cons (p : StringPart) (rest : List StringPart) :
    sourceOf (p :: rest) = p.source ++ sourceOf rest := rfl

@[simp] theorem valueOf_cons (p : StringPart) (rest : List StringPart) :
    valueOf (p :: rest) = p.units ++ valueOf rest := rfl

@[simp] theorem valueOf_append (ps qs : List StringPart) :
    valueOf (ps ++ qs) = valueOf ps ++ valueOf qs := by
  simp [valueOf]

theorem allFit_append {q : Char} {ps qs : List StringPart} (h : allFit q (ps ++ qs) = true) :
    allFit q qs = true := by
  induction ps with
  | nil => exact h
  | cons p ps ih =>
      simp only [List.cons_append, allFit, Bool.and_eq_true] at h
      exact ih h.2

end ClassLift
