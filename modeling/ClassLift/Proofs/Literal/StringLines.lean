import ClassLift.Literal.Quotation
import ClassLift.Proofs.Literal.StringSyntax

set_option autoImplicit false

/-! # The body of a string literal

The reader finds the closing quote of a string literal: what it takes for the body is the
parts of the literal with their line ends written as line feeds (`linesOf`). What it makes of
the literal is then what it makes of the escapes of this body (`StringLiteral.read_text`).
-/

namespace ClassLift

open Literal

/-! ## Digits -/

theorem isDigitOf_iff {base : Nat} {c : Char} :
    isDigitOf base c = true ↔ ∃ d, hexDigit? c = some d ∧ d < base := by
  unfold isDigitOf
  cases hexDigit? c with
  | none => simp
  | some d => simp

theorem isDigitOf_mono {base base' : Nat} {c : Char} (hle : base ≤ base')
    (h : isDigitOf base c = true) : isDigitOf base' c = true := by
  obtain ⟨d, hd, hlt⟩ := isDigitOf_iff.mp h
  exact isDigitOf_iff.mpr ⟨d, hd, Nat.lt_of_lt_of_le hlt hle⟩

namespace StringPart

variable {q : Char} {next : Option StringPart} {p : StringPart}

/-- The digits of a part. -/
def digits : StringPart → List Char
  | octal ds => ds
  | hex a b => [a, b]
  | unicode a b c d => [a, b, c, d]
  | codePoint ds => ds
  | _ => []

theorem digits_of_octalFits {ds : List Char} (h : octalFits next ds = true) :
    ∀ c ∈ ds, isDigitOf 8 c = true := by
  unfold octalFits at h
  split at h
  · simp only [Bool.and_eq_true] at h
    simp [h.1]
  · simp only [Bool.and_eq_true] at h
    simp [h.1.1, h.1.2]
  · simp only [Bool.and_eq_true] at h
    have first := isDigitOf_mono (by decide : 4 ≤ 8) h.1.1
    simp [first, h.1.2, h.2]
  · cases h

/-- The digits of a part that fits are hexadecimal, if not octal. -/
theorem digits_of_fits (h : p.fits q next = true) : ∀ c ∈ p.digits, isDigitOf 16 c = true := by
  cases p with
  | octal ds => exact fun c hc => isDigitOf_mono (by decide) (digits_of_octalFits h c hc)
  | hex a b =>
    simp only [fits, Bool.and_eq_true] at h
    simp [digits, h]
  | unicode a b c d => exact List.all_eq_true.mp h
  | codePoint ds =>
    simp only [fits, Bool.and_eq_true, List.all_eq_true] at h
    exact h.1.2
  | _ => simp [digits]

theorem not_mem_digits {c : Char} (h : p.fits q next = true) (hc : isDigitOf 16 c = false) :
    c ∉ p.digits := by
  intro hmem
  rw [digits_of_fits h c hmem] at hc
  cases hc

end StringPart

/-! ## Line ends -/

/-- A line end as the reader sees it. -/
def LineEnd.unified : LineEnd → List Char
  | separator => ['\u2028']
  | paragraph => ['\u2029']
  | _ => ['\n']

namespace StringPart

variable {q : Char} {next : Option StringPart} {p : StringPart}

/-- The characters of a part as the reader sees them. -/
def lines : StringPart → List Char
  | lineEnd e => '\\' :: e.unified
  | p => p.source

/-- What a part consists of: one character, or a backslash, a character and others that have
no meaning for the end of the literal. -/
theorem lines_cases (hq : q = '\'' ∨ q = '"') (h : p.fits q next = true) :
    (∃ c, p = plain c ∧ c ≠ '\\' ∧ c ≠ q ∧ c ≠ '\n' ∧ c ≠ '\r') ∨
      ∃ d inert, p.lines = '\\' :: d :: inert ∧ ∀ c ∈ inert, c ≠ '\\' ∧ c ≠ q ∧ c ≠ '\n' := by
  have inert : ∀ c ∈ p.digits, c ≠ '\\' ∧ c ≠ q ∧ c ≠ '\n' := fun c hc =>
    inert_of_isDigitOf hq (digits_of_fits h c hc)
  have braces : ∀ c ∈ ['\x7b', '\x7d'], c ≠ '\\' ∧ c ≠ q ∧ c ≠ '\n' := by
    rcases hq with rfl | rfl <;> simp
  cases p with
  | plain c =>
    simp only [fits, Bool.and_eq_true, bne_iff_ne, ne_eq] at h
    exact .inl ⟨c, rfl, h.1.1.2, h.1.1.1, h.1.2, h.2⟩
  | lineEnd e =>
    right
    cases e
    all_goals exact ⟨_, [], rfl, by simp⟩
  | escaped c => exact .inr ⟨c, [], rfl, by simp⟩
  | octal ds =>
    cases ds with
    | nil => cases h
    | cons a rest => exact .inr ⟨a, rest, rfl, fun c hc => inert c (List.mem_cons_of_mem a hc)⟩
  | hex a b => exact .inr ⟨'x', [a, b], rfl, inert⟩
  | unicode a b c d => exact .inr ⟨'u', [a, b, c, d], rfl, inert⟩
  | codePoint ds =>
    refine .inr ⟨'u', '\x7b' :: (ds ++ ['\x7d']), rfl, ?_⟩
    intro c hc
    simp only [List.mem_cons, List.mem_append, List.not_mem_nil, or_false] at hc
    rcases hc with rfl | hc | rfl
    · exact braces _ (by simp)
    · exact inert c hc
    · exact braces _ (by simp)

/-- No other part than a line end has a carriage return. -/
theorem carriage_not_mem (hp : ∀ e, p ≠ lineEnd e) (h : p.fits q next = true) :
    '\r' ∉ p.source := by
  have outside : '\r' ∉ p.digits := not_mem_digits h (by decide)
  cases p with
  | plain c =>
    simp only [fits, Bool.and_eq_true, bne_iff_ne, ne_eq] at h
    simpa [source] using fun he => h.2 he.symm
  | lineEnd e => exact absurd rfl (hp e)
  | escaped c =>
    have hc : c ≠ '\r' := by
      rintro rfl
      simp [fits, unescaped] at h
    simpa [source] using hc.symm
  | _ => simpa [source, digits] using outside

end StringPart

/-- The characters of the parts as the reader sees them. -/
def linesOf (parts : List StringPart) : List Char := parts.flatMap StringPart.lines

@[simp] theorem linesOf_cons (p : StringPart) (rest : List StringPart) :
    linesOf (p :: rest) = p.lines ++ linesOf rest := rfl

theorem unifyNewlines_append {cs : List Char} (h : '\r' ∉ cs) (rest : List Char) :
    unifyNewlines (cs ++ rest) = cs ++ unifyNewlines rest := by
  induction cs with
  | nil => rfl
  | cons c cs ih =>
      simp only [List.mem_cons, not_or] at h
      have hc : c ≠ '\r' := fun he => h.1 he.symm
      rw [List.cons_append, unifyNewlines.eq_4 c _ (fun _ he => absurd he hc) hc, ih h.2]
      rfl

/-- What stands behind a part does not start with a line feed. -/
theorem feed_not_first {q : Char} {parts : List StringPart} (hq : q = '\'' ∨ q = '"')
    (h : allFit q parts = true) (tail : List Char) : sourceOf parts ++ [q] ≠ '\n' :: tail := by
  cases parts with
  | nil => rcases hq with rfl | rfl <;> simp [sourceOf]
  | cons p rest =>
      simp only [allFit, Bool.and_eq_true] at h
      cases p with
      | plain c =>
        simp only [StringPart.fits, Bool.and_eq_true, bne_iff_ne, ne_eq] at h
        simp [StringPart.source, h]
      | _ => simp [StringPart.source]

/-- In the body of a literal the reader sees the line ends as line feeds. -/
theorem unifyNewlines_sourceOf {q : Char} {parts : List StringPart} (hq : q = '\'' ∨ q = '"')
    (h : allFit q parts = true) :
    unifyNewlines (sourceOf parts ++ [q]) = linesOf parts ++ [q] := by
  induction parts with
  | nil => rcases hq with rfl | rfl <;> simp [sourceOf, linesOf, unifyNewlines]
  | cons p rest ih =>
      simp only [allFit, Bool.and_eq_true] at h
      have later := ih h.2
      have first := feed_not_first hq h.2
      rw [sourceOf_cons, linesOf_cons, List.append_assoc, List.append_assoc]
      by_cases hend : ∃ e, p = .lineEnd e
      · obtain ⟨e, rfl⟩ := hend
        generalize sourceOf rest ++ [q] = body at later first ⊢
        cases e with
        | carriage =>
          -- a line feed behind it would belong to it
          cases body with
          | nil => simp [unifyNewlines] at later
          | cons c body =>
            have hc : c ≠ '\n' := fun he => first body (by rw [he])
            simp only [StringPart.source, LineEnd.source, List.cons_append, List.nil_append,
              StringPart.lines, LineEnd.unified]
            rw [unifyNewlines.eq_4 '\\' _ (by simp) (by simp),
              unifyNewlines.eq_3 (c :: body) (by simpa using hc), later]
        | _ => simp [StringPart.source, LineEnd.source, StringPart.lines, LineEnd.unified,
            unifyNewlines, later]
      · have hp : ∀ e, p ≠ .lineEnd e := fun e he => hend ⟨e, he⟩
        have same : p.lines = p.source := by
          cases p with
          | lineEnd e => exact absurd rfl (hp e)
          | _ => rfl
        rw [unifyNewlines_append (StringPart.carriage_not_mem hp h.1), later, same]

/-! ## The closing quote -/

theorem shortBody_linesOf {q : Char} {parts : List StringPart} (hq : q = '\'' ∨ q = '"')
    (h : allFit q parts = true) (rest : List Char) :
    shortBody q (linesOf parts ++ q :: rest) = some (linesOf parts, rest) := by
  induction parts with
  | nil => rcases hq with rfl | rfl <;> simp [linesOf, shortBody]
  | cons p ps ih =>
      simp only [allFit, Bool.and_eq_true] at h
      have later := ih h.2
      rw [linesOf_cons, List.append_assoc]
      rcases StringPart.lines_cases hq h.1 with ⟨c, rfl, notEscape, notQuote, notFeed, -⟩ |
        ⟨d, inert, hp, hinert⟩
      · simp only [StringPart.lines, StringPart.source, List.cons_append, List.nil_append]
        rw [shortBody_cons _ notEscape notQuote notFeed, later]
        rfl
      · rw [hp, shortBody_escape d inert _ hinert, later]
        rfl

theorem textBody_linesOf {q : Char} {parts : List StringPart} (hq : q = '\'' ∨ q = '"')
    (h : allFit q parts = true) :
    textBody q (linesOf parts ++ [q]) = some (linesOf parts, []) := by
  have first : ∀ a b rest, linesOf parts ++ [q] = a :: b :: rest → a ≠ q := by
    intro a b rest heq
    cases parts with
    | nil => simp [linesOf] at heq
    | cons p ps =>
      simp only [allFit, Bool.and_eq_true] at h
      rw [linesOf_cons] at heq
      rcases StringPart.lines_cases hq h.1 with ⟨c, rfl, -, notQuote, -⟩ | ⟨d, inert, hp, -⟩
      · simp only [StringPart.lines, StringPart.source, List.cons_append, List.cons.injEq] at heq
        exact heq.1 ▸ notQuote
      · rw [hp] at heq
        simp only [List.cons_append, List.cons.injEq] at heq
        rcases hq with rfl | rfl <;> exact heq.1 ▸ by decide
  rw [textBody.eq_def]
  split
  · next a b rest heq =>
    rw [if_neg fun both => first a b rest heq both.1]
    exact shortBody_linesOf hq h []
  · exact shortBody_linesOf hq h []

namespace StringLiteral

/-- A literal without a null character is read by its escapes. -/
theorem read_text (l : StringLiteral) (zero : '\x00' ∉ l.text.toList) :
    Literal.read l.text = (orMalformed (unescape (linesOf l.parts))).map Value.ofCodePoints := by
  simp only [text, String.toList_ofList, List.mem_cons, not_or] at zero
  refine read_short l.quotes zero.2 ?_
  rw [unifyNewlines_sourceOf l.quotes l.fit]
  exact textBody_linesOf l.quotes l.fit

/-- A literal with a null character is malformed for the reader. -/
theorem read_text_of_zero (l : StringLiteral) (zero : '\x00' ∈ l.text.toList) :
    Literal.read l.text = .error .malformed := by
  have found : l.text.toList.contains '\x00' = true := List.contains_iff_mem.mpr zero
  rw [Literal.read, if_pos found]
  rfl

end StringLiteral

end ClassLift
