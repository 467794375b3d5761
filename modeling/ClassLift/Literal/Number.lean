import ClassLift.Literal.Lexeme
import ClassLift.Text.Digit

set_option autoImplicit false

/-! # Number literals

Numbers are decimal, or hexadecimal, octal or binary after `0x`, `0o` and `0b`. Single low
lines may stand between digits. A decimal number may have a fraction, an exponent and the
imaginary unit `j`; a decimal integer does not start with zero unless it is zero.

A number ends before the first character that cannot belong to it. That character must not
belong to a word, except that certain keywords may follow a number at once.
-/

namespace ClassLift.Literal

/-- How many digits a decimal integer can have. -/
def maxDigits : Nat := 4300

/-- The digits at the start of `cs`, without the low lines between them, and what follows.
A low line has to be followed by a digit. -/
def digits (base : Nat) : List Char → Option (List Char × List Char)
  | [] => some ([], [])
  | '_' :: c :: rest =>
    if isDigitOf base c then (digits base rest).map fun (ds, rest) => (c :: ds, rest) else none
  | ['_'] => none
  | c :: rest =>
    if isDigitOf base c then (digits base rest).map fun (ds, rest) => (c :: ds, rest)
    else some ([], c :: rest)

/-- Can `c` belong to a word? -/
def isWordPart (c : Char) : Bool := c.isAlphanum || c == '_' || 0x80 ≤ c.toNat

/-- Does `cs` start with the given characters and not go on with the same word? -/
def startsWord : List Char → List Char → Bool
  | [], [] => true
  | [], c :: _ => !isWordPart c
  | _ :: _, [] => false
  | w :: ws, c :: cs => w == c && startsWord ws cs

/-- Do the characters after a number show that it has ended? -/
def endsNumber (cs : List Char) : Bool :=
  match cs with
  | [] => true
  | c :: rest =>
    !isWordPart c || startsWord "and".toList cs || startsWord "else".toList cs
      || startsWord "for".toList cs || startsWord "or".toList cs || startsWord "not".toList cs
      || (c == 'i' && (rest.head?.map fun d => d == 'f' || d == 'n' || d == 's').getD false)

/-- The number, when what follows shows its end. -/
def endNumber (form : NumberForm) (rest : List Char) : Option (NumberForm × List Char) :=
  if endsNumber rest then some (form, rest) else none

/-- What follows the digits of an exponent or a fraction: perhaps the imaginary unit. -/
def endReal (rest : List Char) : Option (NumberForm × List Char) :=
  match rest with
  | 'j' :: rest | 'J' :: rest => endNumber .imaginary rest
  | _ => endNumber .real rest

/-- What follows the digits before the exponent: the exponent, when `rest` starts with its
letter and digits follow. `form` is the number without it. -/
def exponent (form : NumberForm) (rest : List Char) : Option (NumberForm × List Char) :=
  match rest with
  | [] => endNumber form rest
  | _ :: after =>
    let signed : Bool := match after with | '+' :: _ | '-' :: _ => true | _ => false
    let number := if signed then after.drop 1 else after
    if (number.head?.map (isDigitOf 10)).getD false then
      (digits 10 number).bind fun (_, rest) => endReal rest
    else if signed then none
    else endNumber form rest

/-- What follows the point of a number. -/
def fraction (rest : List Char) : Option (NumberForm × List Char) :=
  let afterDigits :=
    if (rest.head?.map (isDigitOf 10)).getD false then (digits 10 rest).map Prod.snd
    else some rest
  afterDigits.bind fun rest =>
    match rest with
    | 'e' :: _ | 'E' :: _ => exponent .real rest
    | _ => endReal rest

/-- The form of a decimal integer with these digits. -/
def integerForm (ds : List Char) : NumberForm :=
  if maxDigits < ds.length ∧ ds.any (· ≠ '0') then .tooManyDigits else .integer (number 10 ds)

/-- A number that starts with a decimal digit. -/
def decimal (cs : List Char) : Option (NumberForm × List Char) :=
  (digits 10 cs).bind fun (ds, rest) =>
    let padded := ds.head? == some '0' && ds.any (· ≠ '0')
    match rest with
    | '.' :: rest => fraction rest
    | 'e' :: _ | 'E' :: _ => exponent (if padded then .real else integerForm ds) rest
    | 'j' :: rest | 'J' :: rest => endNumber .imaginary rest
    | _ => if padded then none else endNumber (integerForm ds) rest

/-- A number in the given base; at least one digit is needed. -/
def based (base : Nat) (cs : List Char) : Option (NumberForm × List Char) :=
  (digits base cs).bind fun (ds, rest) =>
    if ds.isEmpty then none else endNumber (.integer (number base ds)) rest

/-- The number at the start of `cs`, which starts with a digit, or with a point and a digit. -/
def numberAt (cs : List Char) : Option (NumberForm × List Char) :=
  match cs with
  | '.' :: rest => fraction rest
  | '0' :: 'x' :: rest | '0' :: 'X' :: rest => based 16 rest
  | '0' :: 'o' :: rest | '0' :: 'O' :: rest => based 8 rest
  | '0' :: 'b' :: rest | '0' :: 'B' :: rest => based 2 rest
  | _ => decimal cs

end ClassLift.Literal
