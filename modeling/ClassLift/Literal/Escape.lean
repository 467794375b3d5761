import ClassLift.Literal.Value
import ClassLift.Text.CharacterName

set_option autoImplicit false

/-! # Escapes

A backslash in a text that is not raw starts an escape: a line continuation, a letter for a
control character, a code point in octal or hexadecimal digits, or the name of a character.
Before any other character a backslash stands for itself.
-/

namespace ClassLift.Literal

/-- The code points of a part of a text, and what follows it. -/
abbrev Decoded := List Nat × List Char

/-- The control character or quote that a single character after the backslash means. -/
def singleEscape? (c : Char) : Option Nat :=
  if c = '\\' ∨ c = '\'' ∨ c = '"' then some c.toNat
  else if c = 'a' then some 7
  else if c = 'b' then some 8
  else if c = 't' then some 9
  else if c = 'n' then some 10
  else if c = 'v' then some 11
  else if c = 'f' then some 12
  else if c = 'r' then some 13
  else none

/-- A code point in exactly `width` hexadecimal digits. -/
def hexEscape (width : Nat) (cs : List Char) : Option Decoded :=
  let digits := cs.take width
  let n := number 16 digits
  if digits.length = width ∧ digits.all (isDigitOf 16) ∧ n ≤ 0x10ffff then
    some ([n], cs.drop width)
  else none

/-- A code point in one to three octal digits, of which `c` is the first. -/
def octalEscape (c : Char) (cs : List Char) : Decoded :=
  let others := (cs.take 2).takeWhile (isDigitOf 8)
  ([number 8 (c :: others)], cs.drop others.length)

/-- A character by its name in braces. -/
def nameEscape (cs : List Char) : Option Decoded :=
  match cs with
  | [] => none
  | c :: cs =>
    if c = '\x7b' then
      match cs.dropWhile (· ≠ '\x7d') with
      | [] => none
      | _ :: rest => (characterNamed? (cs.takeWhile (· ≠ '\x7d'))).map fun n => ([n], rest)
    else none

/-- What a backslash with the character `c` after it stands for, when `cs` follows. -/
def escape (c : Char) (cs : List Char) : Option Decoded :=
  if c = '\n' then some ([], cs)
  else if c = 'x' then hexEscape 2 cs
  else if c = 'u' then hexEscape 4 cs
  else if c = 'U' then hexEscape 8 cs
  else if c = 'N' then nameEscape cs
  else if isDigitOf 8 c then some (octalEscape c cs)
  else match singleEscape? c with
    | some n => some ([n], cs)
    | none => some (['\\'.toNat, c.toNat], cs)

/-! ## An escape takes characters away -/

theorem length_of_hexEscape {width : Nat} {cs rest : List Char} {points : List Nat}
    (h : hexEscape width cs = some (points, rest)) : rest.length ≤ cs.length := by
  simp only [hexEscape] at h
  split at h
  · simp only [Option.some.injEq, Prod.mk.injEq] at h
    obtain ⟨_, rfl⟩ := h
    simp
  · simp at h

theorem length_of_nameEscape {cs rest : List Char} {points : List Nat}
    (h : nameEscape cs = some (points, rest)) : rest.length ≤ cs.length := by
  cases cs with
  | nil => simp [nameEscape] at h
  | cons c cs =>
    have drop : (cs.dropWhile (· ≠ '\x7d')).length ≤ cs.length :=
      (List.dropWhile_sublist _).length_le
    simp only [nameEscape] at h
    split at h
    · split at h
      · simp at h
      · next _ _ _ heq =>
        simp only [Option.map_eq_some_iff, Prod.mk.injEq] at h
        obtain ⟨_, _, _, rfl⟩ := h
        rw [heq] at drop
        simp only [List.length_cons] at drop ⊢
        omega
    · simp at h

theorem length_of_escape {c : Char} {cs rest : List Char} {points : List Nat}
    (h : escape c cs = some (points, rest)) : rest.length ≤ cs.length := by
  simp only [escape] at h
  split at h
  · simp_all
  split at h
  · exact length_of_hexEscape h
  split at h
  · exact length_of_hexEscape h
  split at h
  · exact length_of_hexEscape h
  split at h
  · exact length_of_nameEscape h
  split at h
  · simp only [octalEscape, Option.some.injEq, Prod.mk.injEq] at h
    obtain ⟨_, rfl⟩ := h
    simp
  split at h <;> simp_all

/-! ## Whole texts -/

/-- The code points of a text that is not raw. A last backslash stands for itself. -/
def unescape : List Char → Option (List Nat)
  | [] => some []
  | [c] => some [c.toNat]
  | c :: d :: rest =>
    if c = '\\' then
      match _taken : escape d rest with
      | none => none
      | some (points, after) => (unescape after).map (points ++ ·)
    else (unescape (d :: rest)).map (c.toNat :: ·)
termination_by cs => cs.length
decreasing_by
  · have := length_of_escape _taken
    simp only [List.length_cons]
    omega
  · simp

/-- The code points of a text, raw or not. -/
def codePoints? (raw : Bool) (body : List Char) : Option (List Nat) :=
  if raw then some (body.map Char.toNat) else unescape body

/-- Are the escapes of a byte string well formed? Only hexadecimal ones can be broken. -/
def hasByteEscapes : List Char → Bool
  | [] => true
  | '\\' :: 'x' :: c :: d :: rest => isDigitOf 16 c && isDigitOf 16 d && hasByteEscapes rest
  | '\\' :: 'x' :: _ => false
  | '\\' :: _ :: rest => hasByteEscapes rest
  | _ :: rest => hasByteEscapes rest

/-- Can the characters stand in a byte string, raw or not? -/
def isByteText (raw : Bool) (body : List Char) : Bool :=
  body.all (·.toNat < 0x80) && (raw || hasByteEscapes body)

/-- The text with the given code points. -/
def Value.ofCodePoints (points : List Nat) : Value :=
  if points.all fun n => n.isValidChar then .text (String.ofList (points.map Char.ofNat))
  else .brokenText

end ClassLift.Literal
