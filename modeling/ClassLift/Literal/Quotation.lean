import ClassLift.Literal.Read
import ClassLift.Text.Quoted

set_option autoImplicit false

/-! # Reading quoted texts

The quoted form of a text, as dumps and messages write it, is a literal, and it stands for
that text (`read_quoted`). A character of the text is written in one of three ways
(`Written`); what the reader does is shown for each of them, first for the end of the text
(`shortBody_quotedBody`) and then for its escapes (`unescape_quotedBody`).
-/

namespace ClassLift

/-! ## The quoted form of one character -/

theorem quoteFor_eq (cs : List Char) : quoteFor cs = '\'' ∨ quoteFor cs = '"' := by
  simp only [quoteFor]
  split <;> simp

/-- A character as the quoted form between `q` writes it: as itself, by a short escape, or
by its code point. -/
inductive Written (q : Char) : Char → List Char → Prop
  | plain (c : Char) (notQuote : c ≠ q) (notEscape : c ≠ '\\') (isShown : isPrintable c) :
      Written q c [c]
  | short (c d : Char) (isShort : c = q ∧ d = q ∨ c = '\\' ∧ d = '\\' ∨ c = '\n' ∧ d = 'n' ∨
      c = '\r' ∧ d = 'r' ∨ c = '\t' ∧ d = 't') : Written q c ['\\', d]
  | code (c : Char) : Written q c (codePointEscape c)

theorem written_quotedChar (q c : Char) : Written q c (quotedChar q c) := by
  simp only [quotedChar]
  split
  · next h =>
    rcases h with rfl | rfl
    · exact .short _ _ (.inl ⟨rfl, rfl⟩)
    · exact .short _ _ (.inr (.inl ⟨rfl, rfl⟩))
  split
  · next h => exact .short _ _ (by simp [h])
  split
  · next h => exact .short _ _ (by simp [h])
  split
  · next h => exact .short _ _ (by simp [h])
  split
  · next h _ _ _ hp =>
    simp only [not_or] at h
    exact .plain c h.1 h.2 hp
  · exact .code c

theorem ne_of_isPrintable {c : Char} (h : isPrintable c) :
    c ≠ '\n' ∧ c ≠ '\r' ∧ c ≠ '\x00' := by
  refine ⟨?_, ?_, ?_⟩ <;> rintro rfl <;> simp [isPrintable] at h

theorem isDigitOf_hexChar (n : Nat) : isDigitOf 16 (hexChar (n % 16)) = true := by
  have all : ∀ m : Fin 16, isDigitOf 16 (hexChar m.val) = true := by decide
  exact all ⟨n % 16, Nat.mod_lt _ (by decide)⟩

theorem hexText_isDigitOf (width n : Nat) : ∀ c ∈ hexText width n, isDigitOf 16 c = true := by
  induction width generalizing n with
  | zero => simp [hexText]
  | succ w ih =>
    intro c hc
    simp only [hexText, List.mem_append, List.mem_singleton] at hc
    rcases hc with hc | rfl
    · exact ih _ _ hc
    · exact isDigitOf_hexChar n

end ClassLift

namespace ClassLift.Literal

/-! ## The end of the text -/

theorem shortBody_cons {q c : Char} (rest : List Char) (h : c ≠ '\\') (hq : c ≠ q)
    (hn : c ≠ '\n') :
    shortBody q (c :: rest) = (shortBody q rest).map fun (body, rest) => (c :: body, rest) := by
  rw [shortBody.eq_def]
  split
  · simp_all
  · simp_all
  · simp_all

/-- Characters that are no quote, backslash or line feed do nothing to the end of the text. -/
theorem shortBody_append {q : Char} (inert tail : List Char)
    (h : ∀ c ∈ inert, c ≠ '\\' ∧ c ≠ q ∧ c ≠ '\n') :
    shortBody q (inert ++ tail) =
      (shortBody q tail).map fun (body, rest) => (inert ++ body, rest) := by
  induction inert with
  | nil => simp
  | cons d ds ih =>
    obtain ⟨notEscape, notQuote, notFeed⟩ := h d (by simp)
    rw [List.cons_append, shortBody_cons _ notEscape notQuote notFeed,
      ih fun c hc => h c (by simp [hc])]
    simp [Option.map_map, Function.comp_def]

/-- Nor does a backslash with any character, when such characters follow. -/
theorem shortBody_escape {q : Char} (d : Char) (inert tail : List Char)
    (h : ∀ c ∈ inert, c ≠ '\\' ∧ c ≠ q ∧ c ≠ '\n') :
    shortBody q ('\\' :: d :: inert ++ tail) =
      (shortBody q tail).map fun (body, rest) => ('\\' :: d :: inert ++ body, rest) := by
  simp [shortBody, shortBody_append inert tail h, Option.map_map, Function.comp_def]

/-- A digit is no quote, backslash or line feed. -/
theorem inert_of_isDigitOf {q c : Char} (hq : q = '\'' ∨ q = '"') (h : isDigitOf 16 c = true) :
    c ≠ '\\' ∧ c ≠ q ∧ c ≠ '\n' := by
  refine ⟨?_, ?_, ?_⟩
  · rintro rfl
    exact absurd h (by decide)
  · rcases hq with rfl | rfl <;> rintro rfl <;> exact absurd h (by decide)
  · rintro rfl
    exact absurd h (by decide)

theorem shortBody_written {q c : Char} {cs : List Char} (h : Written q c cs)
    (hq : q = '\'' ∨ q = '"') (tail : List Char) :
    shortBody q (cs ++ tail) =
      (shortBody q tail).map fun (body, rest) => (cs ++ body, rest) := by
  have escaped (d : Char) (width n : Nat) :
      shortBody q ('\\' :: d :: hexText width n ++ tail) =
        (shortBody q tail).map fun (body, rest) => ('\\' :: d :: hexText width n ++ body, rest) :=
    shortBody_escape d _ tail fun c hc => inert_of_isDigitOf hq (hexText_isDigitOf width n c hc)
  cases h with
  | plain notQuote notEscape isShown =>
    simpa using shortBody_cons tail notEscape notQuote (ne_of_isPrintable isShown).1
  | short d _ => exact shortBody_escape d [] tail (by simp)
  | code =>
    simp only [codePointEscape]
    split
    · exact escaped _ _ _
    · split
      · exact escaped _ _ _
      · exact escaped _ _ _

theorem shortBody_quotedBody {q : Char} (hq : q = '\'' ∨ q = '"') (cs rest : List Char) :
    shortBody q (quotedBody q cs ++ q :: rest) = some (quotedBody q cs, rest) := by
  induction cs with
  | nil => rcases hq with rfl | rfl <;> simp [quotedBody, shortBody]
  | cons c cs ih =>
    simp only [quotedBody] at ih
    simp only [quotedBody, List.flatMap_cons, List.append_assoc]
    rw [shortBody_written (written_quotedChar q c) hq, ih]
    simp

/-! ## Escapes -/

theorem unescape_cons {c : Char} (h : c ≠ '\\') (rest : List Char) :
    unescape (c :: rest) = (unescape rest).map (c.toNat :: ·) := by
  cases rest with
  | nil => simp [unescape]
  | cons d rest => rw [unescape]; simp [h]

theorem unescape_backslash (d : Char) (rest : List Char) :
    unescape ('\\' :: d :: rest) =
      (escape d rest).bind fun (points, after) => (unescape after).map (points ++ ·) := by
  rw [unescape]
  simp only [if_true]
  split
  · next none => rw [none]; rfl
  · next some => rw [some]; rfl

theorem unescape_escape {d : Char} {rest after : List Char} {n : Nat}
    (h : escape d rest = some ([n], after)) :
    unescape ('\\' :: d :: rest) = (unescape after).map (n :: ·) := by
  rw [unescape_backslash, h]
  rfl

theorem hexEscape_append {digits : List Char} (tail : List Char)
    (h : ∀ c ∈ digits, isDigitOf 16 c = true) (valid : number 16 digits ≤ 0x10ffff) :
    hexEscape digits.length (digits ++ tail) = some ([number 16 digits], tail) := by
  simp only [hexEscape, List.take_left, List.drop_left, true_and]
  rw [if_pos ⟨List.all_eq_true.2 h, valid⟩]

theorem hexEscape_hexText (width n : Nat) (tail : List Char) (h : n < Nat.pow 16 width)
    (valid : n ≤ 0x10ffff) : hexEscape width (hexText width n ++ tail) = some ([n], tail) := by
  have value := number_hexText width n h
  have escape := hexEscape_append tail (hexText_isDigitOf width n) (by rwa [value])
  rwa [length_hexText, value] at escape

theorem unescape_written {q c : Char} {cs : List Char} (h : Written q c cs)
    (hq : q = '\'' ∨ q = '"') (tail : List Char) :
    unescape (cs ++ tail) = (unescape tail).map (c.toNat :: ·) := by
  cases h with
  | plain _ notEscape _ => exact unescape_cons notEscape tail
  | short d isShort =>
    refine unescape_escape ?_
    rcases isShort with ⟨rfl, rfl⟩ | ⟨rfl, rfl⟩ | ⟨rfl, rfl⟩ | ⟨rfl, rfl⟩ | ⟨rfl, rfl⟩
    · rcases hq with rfl | rfl <;> rfl
    all_goals rfl
  | code =>
    have bound : c.toNat ≤ 0x10ffff := by
      have := c.valid
      simp only [UInt32.isValidChar, Nat.isValidChar] at this
      simp only [Char.toNat]
      omega
    -- the shortest of the three escapes that has room for the code is taken
    simp only [codePointEscape]
    split
    · next hc =>
      refine unescape_escape ?_
      rw [escape]
      simp only [Char.reduceEq, if_false, if_true]
      exact hexEscape_hexText 2 _ _ (by simpa using hc) bound
    · split
      · next hc =>
        refine unescape_escape ?_
        rw [escape]
        simp only [Char.reduceEq, if_false, if_true]
        exact hexEscape_hexText 4 _ _ (by simpa using hc) bound
      · refine unescape_escape ?_
        rw [escape]
        simp only [Char.reduceEq, if_false, if_true]
        exact hexEscape_hexText 8 _ _ (by simp; omega) bound

theorem unescape_quotedBody {q : Char} (hq : q = '\'' ∨ q = '"') (cs : List Char) :
    unescape (quotedBody q cs) = some (cs.map Char.toNat) := by
  induction cs with
  | nil => simp [quotedBody, unescape]
  | cons c cs ih =>
    simp only [quotedBody] at ih
    simp only [quotedBody, List.flatMap_cons]
    rw [unescape_written (written_quotedChar q c) hq, ih]
    simp

theorem ofCodePoints_toNat (cs : List Char) :
    Value.ofCodePoints (cs.map Char.toNat) = .text (String.ofList cs) := by
  have valid : (cs.map Char.toNat).all (fun n => n.isValidChar) = true := by
    simp only [List.all_map, List.all_eq_true, Function.comp_apply, decide_eq_true_eq]
    exact fun c _ => c.valid
  simp only [Value.ofCodePoints]
  rw [if_pos (by simpa using valid)]
  simp [List.map_map, Function.comp_def]

/-! ## The lexemes of a quoted text -/

theorem not_mem_written {q c x : Char} {cs : List Char} (h : Written q c cs)
    (hx : x = '\n' ∨ x = '\r' ∨ x = '\x00') (hq : q = '\'' ∨ q = '"') : x ∉ cs := by
  have digits (width : Nat) : x ∉ hexText width c.toNat := by
    intro mem
    have := hexText_isDigitOf width c.toNat x mem
    rcases hx with rfl | rfl | rfl <;> revert this <;> decide
  cases h with
  | plain _ _ isShown =>
    have := ne_of_isPrintable isShown
    rw [List.mem_singleton]
    rintro rfl
    simp [this] at hx
  | short d isShort =>
    rcases isShort with ⟨_, rfl⟩ | ⟨_, rfl⟩ | ⟨_, rfl⟩ | ⟨_, rfl⟩ | ⟨_, rfl⟩
    · rcases hx with rfl | rfl | rfl <;> rcases hq with rfl | rfl <;> decide
    all_goals rcases hx with rfl | rfl | rfl <;> decide
  | code =>
    simp only [codePointEscape]
    split
    · rcases hx with rfl | rfl | rfl <;> simpa using digits _
    · split <;> rcases hx with rfl | rfl | rfl <;> simpa using digits _

theorem not_mem_quotedChars {x : Char} (cs : List Char)
    (hx : x = '\n' ∨ x = '\r' ∨ x = '\x00') : x ∉ quotedChars cs := by
  have hq := quoteFor_eq cs
  have ne : x ≠ quoteFor cs := by
    rcases hx with rfl | rfl | rfl <;> rcases hq with h | h <;> rw [h] <;> decide
  simp only [quotedChars, quotedBody, List.mem_cons, List.mem_append, List.mem_flatMap,
    List.not_mem_nil, or_false, not_or, not_exists, not_and]
  exact ⟨ne, fun c _ => not_mem_written (written_quotedChar _ c) hx hq, ne⟩

theorem unifyNewlines_eq {cs : List Char} (h : '\r' ∉ cs) : unifyNewlines cs = cs := by
  induction cs with
  | nil => rfl
  | cons c cs ih =>
    simp only [List.mem_cons, not_or] at h
    rw [unifyNewlines.eq_def]
    split
    · simp_all
    · simp_all
    · simp_all
    · simp_all

theorem textBody_quotedBody {q : Char} (hq : q = '\'' ∨ q = '"') (cs : List Char) :
    textBody q (quotedBody q cs ++ [q]) = some (quotedBody q cs, []) := by
  have first : ∀ a b rest, quotedBody q cs ++ [q] = a :: b :: rest → a ≠ q := by
    intro a b rest h
    cases cs with
    | nil => simp [quotedBody] at h
    | cons c cs =>
      simp only [quotedBody, List.flatMap_cons] at h
      have w := written_quotedChar q c
      generalize quotedChar q c = l at h w
      cases w with
      | plain notQuote _ _ => simp at h; exact h.1 ▸ notQuote
      | short d _ => simp at h; rcases hq with rfl | rfl <;> exact h.1 ▸ by decide
      | code =>
        simp only [codePointEscape] at h
        split at h
        · simp at h; rcases hq with rfl | rfl <;> exact h.1 ▸ by decide
        · split at h <;> simp at h <;> rcases hq with rfl | rfl <;> exact h.1 ▸ by decide
  rw [textBody.eq_def]
  split
  · next a b rest h =>
    rw [if_neg fun both => first a b rest h both.1]
    exact shortBody_quotedBody hq cs []
  · exact shortBody_quotedBody hq cs []

/-- The lexemes of one text on a line, in quotes `q` and without a prefix. -/
theorem lexemes_short {q : Char} {cs body : List Char} (hq : q = '\'' ∨ q = '"')
    (h : textBody q (unifyNewlines cs) = some (body, [])) :
    lexemes (q :: cs) = [.text ⟨false, false, false, body⟩, .finish] := by
  have fuel : 2 * (q :: cs).length + 2 = 2 * cs.length + 1 + 3 := by simp; omega
  have first : unifyNewlines (q :: cs) = q :: unifyNewlines cs := by
    rcases hq with rfl | rfl <;> simp [unifyNewlines]
  rw [lexemes, first, fuel]
  generalize unifyNewlines cs = rest at h
  rcases hq with rfl | rfl
  · simp [lexemesFrom, indentation, pieceAt, textPiece, textPrefix?, h, isGap]
  · simp [lexemesFrom, indentation, pieceAt, textPiece, textPrefix?, h, isGap]

/-- Reading one text on a line, in quotes `q` and without a prefix, is reading its escapes. -/
theorem read_short {q : Char} {cs body : List Char} (hq : q = '\'' ∨ q = '"')
    (zero : '\x00' ∉ cs) (h : textBody q (unifyNewlines cs) = some (body, [])) :
    read (String.ofList (q :: cs)) = (orMalformed (unescape body)).map Value.ofCodePoints := by
  have zero : (q :: cs).contains '\x00' = false := by
    rcases hq with rfl | rfl <;> simpa using zero
  have strip : (q :: cs).dropWhile (fun c => c == ' ' || c == '\t') = q :: cs := by
    rcases hq with rfl | rfl <;> simp
  simp only [read, String.toList_ofList, zero, strip, phraseOf, lexemes_short hq h]
  cases points : unescape body with
  | none =>
    simp [onlyTexts?, joined, textParts, codePoints?, points, orMalformed, bind, Except.bind,
      Functor.map, Except.map]
  | some ps =>
    simp [onlyTexts?, joined, textParts, codePoints?, points, orMalformed, Phrase.depth,
      Phrase.evaluate, maxDepth, bind, Except.bind, pure, Except.pure, Functor.map, Except.map]

/-- The quoted form of a text is a literal that stands for the text. -/
theorem read_quoted (s : String) : read (quoted s) = .ok (.text s) := by
  have hq := quoteFor_eq s.toList
  have zero : '\x00' ∉ quotedChars s.toList := not_mem_quotedChars s.toList (.inr (.inr rfl))
  have lines : '\r' ∉ quotedChars s.toList := not_mem_quotedChars s.toList (.inr (.inl rfl))
  simp only [quotedChars, List.mem_cons, not_or] at zero lines
  rw [quoted, quotedChars, read_short hq zero.2
    (by rw [unifyNewlines_eq lines.2]; exact textBody_quotedBody hq s.toList),
    unescape_quotedBody hq]
  simp [orMalformed, Except.map, ofCodePoints_toNat]

end ClassLift.Literal
