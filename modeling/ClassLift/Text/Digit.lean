set_option autoImplicit false

/-! # Digits

The digits of the number notations, with their values, and numbers written with them.
-/

namespace ClassLift

/-- The value of a hexadecimal digit, in either case. -/
def hexDigit? (c : Char) : Option Nat :=
  if '0' ≤ c ∧ c ≤ '9' then some (c.toNat - '0'.toNat)
  else if 'a' ≤ c ∧ c ≤ 'f' then some (c.toNat - 'a'.toNat + 10)
  else if 'A' ≤ c ∧ c ≤ 'F' then some (c.toNat - 'A'.toNat + 10)
  else none

/-- Is `c` a digit of the given base, at most sixteen? -/
def isDigitOf (base : Nat) (c : Char) : Bool :=
  match hexDigit? c with
  | some d => d < base
  | none => false

/-- The number that the digits of `cs` write in the given base, going on from `start`;
characters that are no digits are passed over. -/
def numberFrom (base start : Nat) (cs : List Char) : Nat :=
  cs.foldl (fun n c => match hexDigit? c with | some d => n * base + d | none => n) start

/-- The number that the digits of `cs` write in the given base. -/
def number (base : Nat) (cs : List Char) : Nat := numberFrom base 0 cs

/-- The lower-case hexadecimal digit of value `n`. -/
def hexChar (n : Nat) : Char :=
  if n < 10 then Char.ofNat ('0'.toNat + n) else Char.ofNat ('a'.toNat + n - 10)

/-- `n` in `width` lower-case hexadecimal digits; higher digits are dropped. -/
def hexText : Nat → Nat → List Char
  | 0, _ => []
  | width + 1, n => hexText width (n / 16) ++ [hexChar (n % 16)]

/-! ## Reading back -/

theorem length_hexText (width n : Nat) : (hexText width n).length = width := by
  induction width generalizing n with
  | zero => rfl
  | succ w ih => simp [hexText, ih]

theorem hexDigit?_hexChar (n : Nat) (h : n < 16) : hexDigit? (hexChar n) = some n := by
  have all : ∀ m : Fin 16, hexDigit? (hexChar m.val) = some m.val := by decide
  exact all ⟨n, h⟩

theorem number_hexText (width n : Nat) (h : n < Nat.pow 16 width) :
    number 16 (hexText width n) = n := by
  induction width generalizing n with
  | zero =>
      have : n = 0 := Nat.lt_one_iff.1 h
      subst this
      rfl
  | succ w ih =>
      have hq : n / 16 < Nat.pow 16 w := (Nat.div_lt_iff_lt_mul (by decide)).2 h
      have hr : n % 16 < 16 := Nat.mod_lt _ (by decide)
      have step : number 16 (hexText (w + 1) n) = number 16 (hexText w (n / 16)) * 16 + n % 16 := by
        simp [number, numberFrom, hexText, List.foldl_append, hexDigit?_hexChar _ hr]
      rw [step, ih _ hq]
      omega

end ClassLift
