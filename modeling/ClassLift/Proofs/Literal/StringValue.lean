import ClassLift.Proofs.Literal.StringLines
import Mathlib.Algebra.Group.Nat.Defs

set_option autoImplicit false

/-! # The value of a string literal and what is read of it

The reader's escapes are not those of string literals. Where it reads a literal at all, and
reads no bell and no backslash from it, it either follows the parts of the literal and gives
its value, or takes a longer escape somewhere, and then what it gives has fewer code units
than the value (`agrees_of_unescape`). Which of the two it is can be seen from the literal
(`StringLiteral.read_eq_value_iff`).
-/

namespace ClassLift

open Literal

/-! ## Numbers in digits -/

theorem numberFrom_lt {base : Nat} {digits : List Char} (start : Nat)
    (h : ∀ c ∈ digits, isDigitOf base c = true) :
    numberFrom base start digits < (start + 1) * base ^ digits.length := by
  induction digits generalizing start with
  | nil => simp [numberFrom]
  | cons c cs ih =>
      obtain ⟨d, hd, hlt⟩ := isDigitOf_iff.mp (h c List.mem_cons_self)
      have step : numberFrom base start (c :: cs) = numberFrom base (start * base + d) cs := by
        simp [numberFrom, hd]
      have later := ih (start * base + d) fun x hx => h x (List.mem_cons_of_mem c hx)
      calc numberFrom base start (c :: cs)
          < (start * base + d + 1) * base ^ cs.length := step ▸ later
        _ ≤ ((start + 1) * base) * base ^ cs.length :=
            Nat.mul_le_mul_right _ (by rw [Nat.add_mul]; omega)
        _ = (start + 1) * base ^ (c :: cs).length := by
            rw [List.length_cons, Nat.pow_succ, Nat.mul_assoc, Nat.mul_comm base]

theorem number_lt {base : Nat} {digits : List Char} (h : ∀ c ∈ digits, isDigitOf base c = true) :
    number base digits < base ^ digits.length := by
  simpa [number] using numberFrom_lt 0 h

/-- The octal digits stand in one row. -/
theorem toNat_of_octal {c : Char} (h : isDigitOf 8 c = true) : 48 ≤ c.toNat ∧ c.toNat ≤ 55 := by
  obtain ⟨d, hd, hlt⟩ := isDigitOf_iff.mp h
  unfold hexDigit? at hd
  split at hd
  case isTrue decimal =>
    have zero : 48 ≤ c.toNat := decimal.1
    have value : c.toNat - 48 = d := Option.some.inj hd
    omega
  -- a letter is worth ten or more
  split at hd
  · cases hd
    omega
  · split at hd
    · cases hd
      omega
    · cases hd

theorem octal_mem_unescaped {c : Char} (h : isDigitOf 8 c = true) : c ∈ StringPart.unescaped := by
  have range := toNat_of_octal h
  have all : ∀ k : Fin 8, Char.ofNat (48 + k) ∈ StringPart.unescaped := by decide
  have hc : Char.ofNat (48 + (c.toNat - 48)) = c := by
    rw [Nat.add_sub_cancel' range.1, Char.ofNat_toNat]
  exact hc ▸ all ⟨c.toNat - 48, by omega⟩

/-! ## Single escapes of the reader -/

namespace Literal

/-- An escape of the reader, and then the rest of the body. -/
theorem unescape_backslash_eq_some {d : Char} {cs : List Char} {points : List Nat}
    (h : unescape ('\\' :: d :: cs) = some points) :
    ∃ here after later, escape d cs = some (here, after) ∧ unescape after = some later ∧
      points = here ++ later := by
  rw [unescape_backslash] at h
  obtain ⟨⟨here, after⟩, hescape, h⟩ := Option.bind_eq_some_iff.mp h
  obtain ⟨later, hlater, h⟩ := Option.map_eq_some_iff.mp h
  exact ⟨here, after, later, hescape, hlater, h.symm⟩

theorem hexEscape_eq_some {width : Nat} {cs after : List Char} {here : List Nat}
    (h : hexEscape width cs = some (here, after)) :
    ∃ digits, digits.length = width ∧ (∀ c ∈ digits, isDigitOf 16 c = true) ∧
      cs = digits ++ after ∧ here = [number 16 digits] := by
  simp only [hexEscape] at h
  split at h
  case isFalse => cases h
  rename_i hdigits
  simp only [Option.some.injEq, Prod.mk.injEq] at h
  obtain ⟨rfl, rfl⟩ := h
  exact ⟨cs.take width, hdigits.1, List.all_eq_true.mp hdigits.2.1,
    (List.take_append_drop width cs).symm, rfl⟩

theorem nameEscape_eq_some {cs after : List Char} {here : List Nat}
    (h : nameEscape cs = some (here, after)) :
    ∃ body b n, cs = '\x7b' :: body ∧ body.dropWhile (· ≠ '\x7d') = b :: after ∧ here = [n] := by
  unfold nameEscape at h
  split at h
  · cases h
  split at h
  case isFalse => cases h
  rename_i hbrace
  split at h
  · cases h
  · rename_i b rest hdrop
    obtain ⟨n, -, h⟩ := Option.map_eq_some_iff.mp h
    simp only [Prod.mk.injEq] at h
    obtain ⟨rfl, rfl⟩ := h
    exact ⟨_, b, n, by rw [hbrace], hdrop, rfl⟩

/-- An octal escape takes the octal digits that follow, but never more than three. -/
theorem octalEscape_append (a : Char) {digits tail : List Char}
    (h : ∀ c ∈ digits, isDigitOf 8 c = true)
    (ends : digits.length = 2 ∨
      digits.length < 2 ∧ ∀ c rest, tail = c :: rest → isDigitOf 8 c = false) :
    octalEscape a (digits ++ tail) = ([number 8 (a :: digits)], tail) := by
  have taken : ((digits ++ tail).take 2).takeWhile (isDigitOf 8) = digits := by
    have short : digits.length ≤ 2 := by omega
    rw [List.take_append, List.take_of_length_le short, List.takeWhile_append_of_pos h]
    rcases ends with full | ⟨-, ends⟩
    · simp [full]
    · cases tail with
      | nil => simp
      | cons c rest =>
          have hc := ends c rest rfl
          cases k : 2 - digits.length with
          | zero => simp
          | succ k => simp [hc]
  simp only [octalEscape, taken, List.drop_left]

theorem escape_octal {a : Char} (h : isDigitOf 8 a = true) (cs : List Char) :
    escape a cs = some (octalEscape a cs) := by
  have ne : ∀ x, isDigitOf 8 x = false → a ≠ x := by
    rintro x hx rfl
    rw [h] at hx
    cases hx
  rw [escape, if_neg (ne _ (by decide)), if_neg (ne _ (by decide)), if_neg (ne _ (by decide)),
    if_neg (ne _ (by decide)), if_neg (ne _ (by decide)), if_pos h]

/-- The bell apart, the characters that one letter means are those of the literals. -/
theorem units_of_singleEscape {c : Char} {n : Nat} (h : singleEscape? c = some n) (bell : n ≠ 7) :
    utf16 n = StringPart.escapedUnits c := by
  unfold singleEscape? at h
  by_cases quote : c = '\\' ∨ c = '\'' ∨ c = '"'
  · rw [if_pos quote] at h
    cases h
    rcases quote with rfl | rfl | rfl <;> rfl
  rw [if_neg quote] at h
  by_cases ha : c = 'a'
  · rw [if_pos ha] at h
    cases h
    exact absurd rfl bell
  rw [if_neg ha] at h
  unfold StringPart.escapedUnits
  repeat
    split at h
    · next hc =>
      cases h
      subst hc
      rfl
  cases h

/-- A backslash with another character means that character, a control character, or the
backslash and the character. -/
theorem escape_other {c : Char} (h : c ∉ StringPart.unescaped) (hc : c ≠ 'U' ∧ c ≠ 'N')
    (cs : List Char) {here : List Nat} {after : List Char}
    (heq : escape c cs = some (here, after)) (hn : ∀ n ∈ here, n ≠ 92 ∧ n ≠ 7) :
    after = cs ∧ here.flatMap utf16 = StringPart.escapedUnits c := by
  have ne : ∀ x ∈ StringPart.unescaped, c ≠ x := fun x hx he => h (he ▸ hx)
  have octal : ¬isDigitOf 8 c = true := fun ho => h (octal_mem_unescaped ho)
  rw [escape, if_neg (ne _ (by decide)), if_neg (ne _ (by decide)), if_neg (ne _ (by decide)),
    if_neg hc.1, if_neg hc.2, if_neg octal] at heq
  split at heq
  · next n single =>
    cases heq
    rw [List.flatMap_singleton]
    exact ⟨rfl, units_of_singleEscape single (hn n (by simp)).2⟩
  · cases heq
    have backslash : '\\'.toNat = 92 := rfl
    exact absurd backslash (hn _ (by simp)).1

end Literal

/-! ## Parts behind a longer escape -/

/-- Characters without a backslash are parts of their own. -/
theorem parts_of_append {parts : List StringPart} {cs after : List Char} (h : '\\' ∉ cs)
    (heq : linesOf parts = cs ++ after) :
    ∃ skipped rest, parts = skipped ++ rest ∧ linesOf rest = after ∧
      cs.length ≤ (valueOf skipped).length := by
  induction cs generalizing parts with
  | nil => exact ⟨[], parts, rfl, heq, Nat.le_refl _⟩
  | cons c cs ih =>
      simp only [List.mem_cons, not_or] at h
      cases parts with
      | nil => cases heq
      | cons p ps =>
          -- every other part starts with a backslash
          have plain : p = .plain c ∧ linesOf ps = cs ++ after := by
            rw [linesOf_cons] at heq
            cases p with
            | plain d =>
              simp only [StringPart.lines, StringPart.source, List.cons_append, List.nil_append,
                List.cons.injEq] at heq
              exact ⟨by rw [heq.1], heq.2⟩
            | _ =>
              simp only [StringPart.lines, StringPart.source, List.cons_append,
                List.cons.injEq] at heq
              exact absurd heq.1 h.1
          obtain ⟨rfl, hps⟩ := plain
          obtain ⟨skipped, rest, rfl, hrest, hlen⟩ := ih h.2 hps
          refine ⟨.plain c :: skipped, rest, rfl, hrest, ?_⟩
          have one : 1 ≤ (utf16 c.toNat).length := List.length_pos_iff.mpr (utf16_ne_nil _)
          simp only [valueOf_cons, StringPart.units, List.length_append, List.length_cons]
          omega

/-- A closing brace is the end of the part in which it stands. -/
theorem StringPart.brace_last {q : Char} {next : Option StringPart} {p : StringPart}
    (h : p.fits q next = true) :
    '\x7d' ∉ p.lines ∨ ∃ init, p.lines = init ++ ['\x7d'] ∧ '\x7d' ∉ init ∧ p.units ≠ [] := by
  have outside : '\x7d' ∉ p.digits := not_mem_digits h (by decide)
  cases p with
  | plain c =>
    by_cases hc : c = '\x7d'
    · exact .inr ⟨[], by rw [hc]; rfl, by simp, utf16_ne_nil _⟩
    · exact .inl (by simpa [lines, source] using fun he => hc he.symm)
  | lineEnd e =>
    left
    cases e
    all_goals decide
  | escaped c =>
    by_cases hc : c = '\x7d'
    · subst hc
      exact .inr ⟨['\\'], rfl, by decide, by decide⟩
    · exact .inl (by simpa [lines, source] using fun he => hc he.symm)
  | codePoint ds =>
    exact .inr ⟨'\\' :: 'u' :: '\x7b' :: ds, rfl, by simpa [digits] using outside, utf16_ne_nil _⟩
  | _ => exact .inl (by simpa [lines, source, digits] using outside)

/-- What follows the first closing brace is a sequence of parts. -/
theorem parts_of_brace {q b : Char} {parts : List StringPart} {after : List Char}
    (hfit : allFit q parts = true)
    (h : (linesOf parts).dropWhile (· ≠ '\x7d') = b :: after) :
    ∃ skipped rest, parts = skipped ++ rest ∧ linesOf rest = after ∧
      1 ≤ (valueOf skipped).length := by
  induction parts with
  | nil => cases h
  | cons p ps ih =>
      simp only [allFit, Bool.and_eq_true] at hfit
      rw [linesOf_cons] at h
      -- a part has no closing brace, or has it as its last character
      rcases StringPart.brace_last hfit.1 with outside | ⟨init, hp, hinit, hunits⟩
      · have passed : ∀ c ∈ p.lines, decide (c ≠ '\x7d') = true := by
          intro c hc
          exact decide_eq_true fun he => outside (he ▸ hc)
        rw [List.dropWhile_append_of_pos passed] at h
        obtain ⟨skipped, rest, rfl, hrest, hlen⟩ := ih hfit.2 h
        refine ⟨p :: skipped, rest, rfl, hrest, ?_⟩
        rw [valueOf_cons, List.length_append]
        omega
      · have passed : ∀ c ∈ init, decide (c ≠ '\x7d') = true := by
          intro c hc
          exact decide_eq_true fun he => hinit (he ▸ hc)
        rw [hp, List.append_assoc, List.dropWhile_append_of_pos passed] at h
        simp only [List.cons_append, List.nil_append] at h
        rw [List.dropWhile_cons_of_neg (by simp)] at h
        cases h
        refine ⟨[p], ps, rfl, rfl, ?_⟩
        have pos : 0 < p.units.length := List.length_pos_iff.mpr hunits
        simpa [valueOf] using Nat.succ_le_of_lt pos

/-- The lines of parts that do not start with an octal digit do not either. -/
theorem not_octal_first {parts : List StringPart}
    (h : StringPart.startsOctal parts.head? = false) (c : Char) (tail : List Char)
    (heq : linesOf parts = c :: tail) : isDigitOf 8 c = false := by
  cases parts with
  | nil => cases heq
  | cons p ps =>
      rw [linesOf_cons] at heq
      cases p with
      | plain d =>
        simp only [StringPart.lines, StringPart.source, List.cons_append, List.cons.injEq] at heq
        exact heq.1 ▸ h
      | _ =>
        simp only [StringPart.lines, StringPart.source, List.cons_append, List.cons.injEq] at heq
        exact heq.1 ▸ by decide

/-! ## One part -/

/-- What the reader does where a part starts: it follows the part, or it takes the part and some
more for one code point. -/
inductive ReadStep (p : StringPart) (rest : List StringPart) : List Nat → Prop
  | follow (here later : List Nat) (reads : unescape (linesOf rest) = some later)
      (same : here.flatMap utf16 = p.units) (short : p.takesMore rest.head? = false) :
      ReadStep p rest (here ++ later)
  | more (skipped others : List StringPart) (n : Nat) (later : List Nat)
      (split : rest = skipped ++ others) (reads : unescape (linesOf others) = some later)
      (long : p.takesMore rest.head? = true)
      (fewer : (utf16 n).length < (valueOf (p :: skipped)).length) : ReadStep p rest (n :: later)

section

variable {q : Char} {rest : List StringPart} {points : List Nat}

theorem readStep_plain {c : Char} (hfit : (StringPart.plain c).fits q rest.head? = true)
    (h : unescape (c :: linesOf rest) = some points) : ReadStep (.plain c) rest points := by
  simp only [StringPart.fits, Bool.and_eq_true, bne_iff_ne, ne_eq] at hfit
  rw [unescape_cons hfit.1.1.2] at h
  obtain ⟨later, hlater, rfl⟩ := Option.map_eq_some_iff.mp h
  exact .follow [c.toNat] later hlater (by simp [StringPart.units]) rfl

theorem readStep_lineEnd {e : LineEnd}
    (h : unescape ('\\' :: e.unified ++ linesOf rest) = some points)
    (hpoints : ∀ n ∈ points, n ≠ 92 ∧ n ≠ 7) : ReadStep (.lineEnd e) rest points := by
  by_cases he : e.unified = ['\n']
  · rw [he] at h
    obtain ⟨here, after, later, hescape, hlater, rfl⟩ := unescape_backslash_eq_some h
    cases hescape
    exact .follow [] later hlater rfl rfl
  · -- before any other character the backslash stays
    have kept : ∃ d, e.unified = [d] ∧ ∀ cs, escape d cs = some (['\\'.toNat, d.toNat], cs) := by
      cases e with
      | separator => exact ⟨_, rfl, fun _ => rfl⟩
      | paragraph => exact ⟨_, rfl, fun _ => rfl⟩
      | _ => exact absurd rfl he
    obtain ⟨d, hd, hkept⟩ := kept
    rw [hd] at h
    obtain ⟨here, after, later, hescape, -, rfl⟩ := unescape_backslash_eq_some h
    rw [List.append_eq, List.nil_append, hkept] at hescape
    cases hescape
    exact absurd rfl (hpoints 92 (by simp)).1

/-- A capital `U` with eight digits behind it. -/
theorem readStep_longUnicode (h : unescape ('\\' :: 'U' :: linesOf rest) = some points) :
    ReadStep (.escaped 'U') rest points := by
  obtain ⟨here, after, later, hescape, hlater, rfl⟩ := unescape_backslash_eq_some h
  obtain ⟨digits, hlen, hdigits, hcs, rfl⟩ := hexEscape_eq_some hescape
  have notEscape : '\\' ∉ digits := fun hmem => absurd (hdigits _ hmem) (by decide)
  obtain ⟨skipped, others, rfl, rfl, hle⟩ := parts_of_append notEscape hcs
  refine .more skipped others _ later rfl hlater rfl ?_
  have two := length_utf16 (number 16 digits)
  rw [valueOf_cons, List.length_append]
  omega

/-- A capital `N` with a name in braces behind it. -/
theorem readStep_named (hrest : allFit q rest = true)
    (h : unescape ('\\' :: 'N' :: linesOf rest) = some points) :
    ReadStep (.escaped 'N') rest points := by
  obtain ⟨here, after, later, hescape, hlater, rfl⟩ := unescape_backslash_eq_some h
  obtain ⟨body, b, n, hcs, hdrop, rfl⟩ := nameEscape_eq_some hescape
  have notEscape : '\\' ∉ ['\x7b'] := by decide
  obtain ⟨brace, inner, rfl, rfl, hbrace⟩ := parts_of_append notEscape hcs
  obtain ⟨name, others, rfl, rfl, hname⟩ := parts_of_brace (allFit_append hrest) hdrop
  refine .more (brace ++ name) others n later (List.append_assoc ..).symm hlater rfl ?_
  have two := length_utf16 n
  have letter : (StringPart.units (.escaped 'N')).length = 1 := rfl
  simp only [valueOf_cons, valueOf_append, List.length_append, List.length_singleton] at hbrace ⊢
  omega

theorem readStep_escaped {c : Char} (hfit : (StringPart.escaped c).fits q rest.head? = true)
    (hrest : allFit q rest = true) (h : unescape ('\\' :: c :: linesOf rest) = some points)
    (hpoints : ∀ n ∈ points, n ≠ 92 ∧ n ≠ 7) : ReadStep (.escaped c) rest points := by
  by_cases hU : c = 'U'
  · subst hU
    exact readStep_longUnicode h
  by_cases hN : c = 'N'
  · subst hN
    exact readStep_named hrest h
  · obtain ⟨here, after, later, hescape, hlater, rfl⟩ := unescape_backslash_eq_some h
    have outside : c ∉ StringPart.unescaped := by
      simpa [StringPart.fits] using hfit
    obtain ⟨rfl, same⟩ := escape_other outside ⟨hU, hN⟩ _ hescape
      fun n hn => hpoints n (List.mem_append_left later hn)
    exact .follow here later hlater same (by simp [StringPart.takesMore, hU, hN])

/-- An octal escape that the reader does not continue. -/
theorem readStep_octal_same {a : Char} {digits : List Char} (ha : isDigitOf 8 a = true)
    (hdigits : ∀ c ∈ digits, isDigitOf 8 c = true)
    (ends : digits.length = 2 ∨ digits.length < 2 ∧ StringPart.startsOctal rest.head? = false)
    (h : unescape ('\\' :: a :: (digits ++ linesOf rest)) = some points) :
    ReadStep (.octal (a :: digits)) rest points := by
  obtain ⟨here, after, later, hescape, hlater, rfl⟩ := unescape_backslash_eq_some h
  rw [escape_octal ha, octalEscape_append a hdigits
    (ends.imp_right fun hends => ⟨hends.1, not_octal_first hends.2⟩)] at hescape
  cases hescape
  have bound : number 8 (a :: digits) < 8 ^ (a :: digits).length :=
    number_lt (by simpa [ha] using hdigits)
  have three : 8 ^ (a :: digits).length ≤ 8 ^ 3 :=
    Nat.pow_le_pow_right (by decide) (by rw [List.length_cons]; omega)
  refine .follow _ later hlater ?_ ?_
  · rw [List.flatMap_singleton, utf16_of_lt (by omega)]
    rfl
  · unfold StringPart.takesMore
    split
    · next heq => cases heq
    · next heq =>
      -- two digits are taken only when no third one follows
      cases heq
      rcases ends with hlen | ⟨-, hends⟩
      · cases hlen
      · exact hends
    · rfl

theorem readStep_octal {digits : List Char}
    (hfit : (StringPart.octal digits).fits q rest.head? = true)
    (h : unescape ('\\' :: digits ++ linesOf rest) = some points) :
    ReadStep (.octal digits) rest points := by
  simp only [StringPart.fits] at hfit
  unfold StringPart.octalFits at hfit
  split at hfit
  · next a =>
    simp only [Bool.and_eq_true, Bool.not_eq_true'] at hfit
    exact readStep_octal_same hfit.1 (by simp) (.inr ⟨by simp, hfit.2⟩) h
  · next a b =>
    simp only [Bool.and_eq_true] at hfit
    obtain ⟨⟨ha, hb⟩, -⟩ := hfit
    cases more : StringPart.startsOctal rest.head? with
    | false => exact readStep_octal_same ha (by simpa using hb) (.inr ⟨by simp, more⟩) h
    | true =>
      -- the reader takes the digit that the next part is
      obtain ⟨c, others, rfl, hc⟩ : ∃ c others, rest = .plain c :: others ∧ isDigitOf 8 c = true := by
        unfold StringPart.startsOctal at more
        cases rest with
        | nil => cases more
        | cons p others =>
          cases p with
          | plain c => exact ⟨c, others, rfl, more⟩
          | _ => cases more
      obtain ⟨here, after, later, hescape, hlater, rfl⟩ := unescape_backslash_eq_some h
      have taken : octalEscape a ([b, c] ++ linesOf others) =
          ([number 8 [a, b, c]], linesOf others) :=
        octalEscape_append a (by simp [hb, hc]) (.inl rfl)
      rw [escape_octal ha] at hescape
      cases taken.symm.trans (Option.some.inj hescape)
      have bound : number 8 [a, b, c] < 8 ^ 3 := number_lt (by simp [ha, hb, hc])
      refine .more [.plain c] others _ later rfl hlater more ?_
      have one : 1 ≤ (utf16 c.toNat).length := List.length_pos_iff.mpr (utf16_ne_nil _)
      rw [utf16_of_lt (by omega)]
      simp only [valueOf, List.flatMap_cons, List.flatMap_nil, StringPart.units, List.length_append,
        List.length_singleton, List.length_nil]
      omega
  · next a b c =>
    simp only [Bool.and_eq_true] at hfit
    obtain ⟨⟨ha, hb⟩, hc⟩ := hfit
    exact readStep_octal_same (isDigitOf_mono (by decide) ha) (by simp [hb, hc]) (.inl rfl) h
  · cases hfit

/-- A fixed number of hexadecimal digits, at most four. -/
theorem readStep_hex {p : StringPart} {d : Char} (digits : List Char)
    (hd : ∀ cs, escape d cs = hexEscape digits.length cs) (hlen : digits.length ≤ 4)
    (hdigits : ∀ c ∈ digits, isDigitOf 16 c = true) (hunits : p.units = [number 16 digits])
    (hshort : p.takesMore rest.head? = false)
    (h : unescape ('\\' :: d :: (digits ++ linesOf rest)) = some points) :
    ReadStep p rest points := by
  have bound : number 16 digits < 16 ^ digits.length := number_lt hdigits
  have four : 16 ^ digits.length ≤ 16 ^ 4 := Nat.pow_le_pow_right (by decide) hlen
  obtain ⟨here, after, later, hescape, hlater, rfl⟩ := unescape_backslash_eq_some h
  rw [hd, hexEscape_append _ hdigits (by omega)] at hescape
  cases hescape
  refine .follow _ later hlater ?_ hshort
  rw [List.flatMap_singleton, utf16_of_lt (by omega), hunits]

/-- Where a part starts, the reader goes one of its two ways. -/
theorem readStep {p : StringPart} (hfit : p.fits q rest.head? = true) (hrest : allFit q rest = true)
    (h : unescape (p.lines ++ linesOf rest) = some points)
    (hpoints : ∀ n ∈ points, n ≠ 92 ∧ n ≠ 7) : ReadStep p rest points := by
  cases p with
  | plain c => exact readStep_plain hfit h
  | lineEnd e => exact readStep_lineEnd h hpoints
  | escaped c => exact readStep_escaped hfit hrest h hpoints
  | octal digits => exact readStep_octal hfit h
  | hex a b =>
    simp only [StringPart.fits, Bool.and_eq_true] at hfit
    exact readStep_hex [a, b] (fun _ => rfl) (by simp) (by simp [hfit]) rfl rfl h
  | unicode a b c d =>
    simp only [StringPart.fits, List.all_eq_true] at hfit
    exact readStep_hex [a, b, c, d] (fun _ => rfl) (by simp) hfit rfl rfl h
  | codePoint digits =>
    -- a brace is no digit
    obtain ⟨here, after, later, hescape, -⟩ := unescape_backslash_eq_some h
    obtain ⟨ds, hlen, hds, hcs, -⟩ := hexEscape_eq_some hescape
    cases ds with
    | nil => cases hlen
    | cons c ds =>
      simp only [List.append_eq, List.cons_append, List.cons.injEq] at hcs
      have brace := hds c List.mem_cons_self
      rw [← hcs.1] at brace
      exact absurd brace (by decide)

end

/-! ## The two readings -/

/-- The code points give the value of the parts, or, when the reader takes more for some escape,
fewer code units. -/
def Agrees (parts : List StringPart) (points : List Nat) : Prop :=
  (someTakeMore parts = false ∧ points.flatMap utf16 = valueOf parts) ∨
    (someTakeMore parts = true ∧ (points.flatMap utf16).length < (valueOf parts).length)

namespace Agrees

variable {p : StringPart} {skipped rest : List StringPart} {here later : List Nat}

theorem length_le (h : Agrees rest later) :
    (later.flatMap utf16).length ≤ (valueOf rest).length := by
  rcases h with ⟨-, h⟩ | ⟨-, h⟩
  · exact Nat.le_of_eq (congrArg List.length h)
  · exact Nat.le_of_lt h

/-- The reader follows the part. -/
theorem follow (h : Agrees rest later) (same : here.flatMap utf16 = p.units)
    (short : p.takesMore rest.head? = false) : Agrees (p :: rest) (here ++ later) := by
  rcases h with ⟨hrest, h⟩ | ⟨hrest, h⟩
  · refine .inl ⟨by simp [someTakeMore, short, hrest], ?_⟩
    rw [List.flatMap_append, same, h, valueOf_cons]
  · refine .inr ⟨by simp [someTakeMore, hrest], ?_⟩
    simp only [List.flatMap_append, List.length_append, same, valueOf_cons]
    omega

/-- The reader takes the part and some more for one code point. -/
theorem more {n : Nat} (h : Agrees rest later) (long : p.takesMore (skipped ++ rest).head? = true)
    (fewer : (utf16 n).length < (valueOf (p :: skipped)).length) :
    Agrees (p :: (skipped ++ rest)) (n :: later) := by
  refine .inr ⟨by rw [someTakeMore, long]; rfl, ?_⟩
  have hle := h.length_le
  simp only [valueOf_cons, valueOf_append, List.flatMap_cons, List.length_append] at fewer ⊢
  omega

end Agrees

/-- What the reader makes of the body of a literal, when it makes no bell and no backslash. -/
theorem agrees_of_unescape {q : Char} {parts : List StringPart} {points : List Nat}
    (hfit : allFit q parts = true) (h : unescape (linesOf parts) = some points)
    (hpoints : ∀ n ∈ points, n ≠ 92 ∧ n ≠ 7) : Agrees parts points := by
  -- a step can go over several parts, so the induction is on their number
  induction size : parts.length using Nat.strongRecOn generalizing parts points with
  | ind size ih =>
  subst size
  cases parts with
  | nil =>
      simp only [linesOf, List.flatMap_nil, unescape, Option.some.injEq] at h
      subst h
      exact .inl ⟨rfl, rfl⟩
  | cons p rest =>
      simp only [allFit, Bool.and_eq_true] at hfit
      cases readStep hfit.1 hfit.2 h hpoints with
      | follow here later reads same short =>
          have later := ih rest.length (by simp) hfit.2 reads
            (fun n hn => hpoints n (List.mem_append_right here hn)) rfl
          exact later.follow same short
      | more skipped others n later split reads long fewer =>
          subst split
          have later := ih others.length (by simp only [List.length_cons, List.length_append]; omega)
            (allFit_append hfit.2) reads (fun n hn => hpoints n (List.mem_cons_of_mem _ hn)) rfl
          exact later.more long fewer

/-! ## Whole literals -/

namespace Literal

theorem ofCodePoints_eq_text {points : List Nat} {s : String}
    (h : Value.ofCodePoints points = .text s) : points = s.toList.map Char.toNat := by
  unfold Value.ofCodePoints at h
  split at h
  case isFalse => cases h
  rename_i valid
  cases h
  have back : ∀ n ∈ points, (Char.ofNat n).toNat = n := by
    intro n hn
    have hvalid : n.isValidChar := by
      simpa using List.all_eq_true.mp valid n hn
    have point : Char.ofNat n = Char.ofNatAux n hvalid := dif_pos hvalid
    rw [point]
    rfl
  rw [String.toList_ofList, List.map_map]
  have same : points.map (Char.toNat ∘ Char.ofNat) = points.map id := List.map_congr_left back
  rw [same, List.map_id]

end Literal

/-- A literal that is read as a text without bells and backslashes is read as its value, unless
the reader takes more for one of its escapes: then it is read as something else. -/
theorem StringLiteral.read_eq_value_iff {l : StringLiteral} {s : String}
    (h : Literal.read l.text = .ok (.text s)) (hs : '\\' ∉ s.toList ∧ '\x07' ∉ s.toList) :
    unitsOf s.toList = l.value ↔ l.takesMore = false := by
  have zero : '\x00' ∉ l.text.toList := fun hzero => by
    rw [l.read_text_of_zero hzero] at h
    cases h
  rw [l.read_text zero] at h
  obtain ⟨points, hpoints, htext⟩ : ∃ points, unescape (linesOf l.parts) = some points ∧
      Value.ofCodePoints points = .text s := by
    cases hu : unescape (linesOf l.parts) with
    | none =>
      rw [hu] at h
      cases h
    | some points =>
      rw [hu] at h
      exact ⟨points, rfl, Except.ok.inj h⟩
  have hmap := ofCodePoints_eq_text htext
  have names : ∀ n ∈ points, n ≠ 92 ∧ n ≠ 7 := by
    intro n hn
    rw [hmap] at hn
    obtain ⟨c, hc, rfl⟩ := List.mem_map.mp hn
    constructor
    · intro he
      exact hs.1 (Char.toNat_inj.mp (he.trans (by rfl : 92 = '\\'.toNat)) ▸ hc)
    · intro he
      exact hs.2 (Char.toNat_inj.mp (he.trans (by rfl : 7 = '\x07'.toNat)) ▸ hc)
  have units : points.flatMap utf16 = unitsOf s.toList := by
    rw [hmap, unitsOf, List.flatMap_map]
  -- the reader agrees part by part, or it took more for an escape and has fewer units
  rcases agrees_of_unescape l.fit hpoints names with ⟨hmore, hvalue⟩ | ⟨hmore, hfewer⟩
  · constructor
    · exact fun _ => hmore
    · exact fun _ => units.symm.trans hvalue
  · constructor
    · intro hvalue
      rw [units, hvalue] at hfewer
      exact absurd hfewer (Nat.lt_irrefl _)
    · intro hnone
      rw [takesMore, hmore] at hnone
      cases hnone

end ClassLift
