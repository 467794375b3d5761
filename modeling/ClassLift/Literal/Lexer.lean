import ClassLift.Literal.Number
import ClassLift.Text.Identifier

set_option autoImplicit false

/-! # Splitting a literal into lexemes

Blanks, tabs, form feeds and comments separate lexemes. So does a line end inside brackets,
or after a backslash. Outside of brackets a line end is a lexeme of its own, unless nothing
stood on the line. Brackets have to match, and at most `maxBrackets` can be open at once.

What cannot be split ends in the lexeme `broken`.
-/

namespace ClassLift.Literal

/-- How many brackets can be open at once. -/
def maxBrackets : Nat := 200

/-! ## Line ends -/

/-- All line ends written as line feeds. -/
def unifyNewlines : List Char → List Char
  | [] => []
  | '\r' :: '\n' :: rest => '\n' :: unifyNewlines rest
  | '\r' :: rest => '\n' :: unifyNewlines rest
  | c :: rest => c :: unifyNewlines rest

/-! ## Texts -/

/-- The characters up to the quote that ends a text on one line, and what follows it. A
backslash takes the next character with it. -/
def shortBody (quote : Char) : List Char → Option (List Char × List Char)
  | [] => none
  | '\\' :: c :: rest =>
    (shortBody quote rest).map fun (body, rest) => ('\\' :: c :: body, rest)
  | c :: rest =>
    if c = quote then some ([], rest)
    else if c = '\n' then none
    else (shortBody quote rest).map fun (body, rest) => (c :: body, rest)

/-- The characters up to the three quotes that end a text, and what follows them. -/
def longBody (quote : Char) : List Char → Option (List Char × List Char)
  | [] => none
  | '\\' :: c :: rest =>
    (longBody quote rest).map fun (body, rest) => ('\\' :: c :: body, rest)
  | c :: rest =>
    if c = quote ∧ [quote, quote].isPrefixOf rest then some ([], rest.drop 2)
    else (longBody quote rest).map fun (body, rest) => (c :: body, rest)

/-- The text after its opening quote: its body, and what follows the closing quote. -/
def textBody (quote : Char) (cs : List Char) : Option (List Char × List Char) :=
  match cs with
  | a :: b :: rest =>
    if a = quote ∧ b = quote then longBody quote rest else shortBody quote cs
  | _ => shortBody quote cs

/-- The text forms that the prefix letters ask for; none when they are no prefix. -/
def textPrefix? (word : List Char) : Option (List Char → TextForm) :=
  let letters := String.ofList (word.map Char.toLower)
  if letters = "" ∨ letters = "u" then some fun body => ⟨false, false, false, body⟩
  else if letters = "r" then some fun body => ⟨true, false, false, body⟩
  else if letters = "b" then some fun body => ⟨false, true, false, body⟩
  else if letters = "br" ∨ letters = "rb" then some fun body => ⟨true, true, false, body⟩
  else if letters = "f" then some fun body => ⟨false, false, true, body⟩
  else if letters = "fr" ∨ letters = "rf" then some fun body => ⟨true, false, true, body⟩
  else none

/-! ## Operators -/

/-- The operators of more than one character. -/
def longOperators : List String :=
  ["**=", "//=", "<<=", ">>=", "...", "!=", "%=", "&=", "**", "*=", "+=", "-=", "->", "//",
    "/=", ":=", "<<", "<=", "<>", "==", ">=", ">>", "@=", "^=", "|="]

/-- The longest operator at the start of `cs`, or else its first character. -/
def operatorAt (c : Char) (rest : List Char) : String × List Char :=
  match longOperators.find? fun o => o.toList.isPrefixOf (c :: rest) with
  | some o => (o, (c :: rest).drop o.length)
  | none => (c.toString, rest)

/-- The bracket that closes the given one. -/
def closing? (c : Char) : Option Char :=
  if c = '(' then some ')'
  else if c = '[' then some ']'
  else if c = '\x7b' then some '\x7d'
  else none

/-! ## Blanks -/

/-- Is `c` a blank, a tab or a form feed? -/
def isGap (c : Char) : Bool := c == ' ' || c == '\t' || c == '\x0c'

/-- What follows a backslash that ends a line; a further line has to be there. -/
def continuation? : List Char → Option (List Char)
  | '\n' :: c :: rest => some (c :: rest)
  | _ => none

/-- The indentation at the start of a line: its column, and what follows. A tab goes on to
the next multiple of eight, a form feed starts again, and where the line starts with a
backslash, the column in front of it counts (`fixed`, when it is not zero). -/
def indentation (column fixed : Nat) : List Char → Option (Nat × List Char)
  | [] => some (if fixed = 0 then column else fixed, [])
  | ' ' :: rest => indentation (column + 1) fixed rest
  | '\t' :: rest => indentation ((column / 8 + 1) * 8) fixed rest
  | '\x0c' :: rest => indentation 0 fixed rest
  | '\\' :: '\n' :: c :: rest =>
    indentation column (if fixed = 0 then column else fixed) (c :: rest)
  | '\\' :: _ => none
  | c :: rest => some (if fixed = 0 then column else fixed, c :: rest)

/-! ## One lexeme -/

/-- A step of the splitting: a lexeme with the brackets open after it, or something that
stands between lexemes, each with what follows; or the last lexeme. -/
inductive Piece where
  | lexeme (l : Lexeme) (open_ : List Char) (rest : List Char)
  | gap (rest : List Char)
  | stop (l : Lexeme)

/-- The text whose opening quote `quote` was read after the prefix letters `word`. -/
def textPiece (word : List Char) (quote : Char) (open_ rest : List Char) : Piece :=
  match textPrefix? word, textBody quote rest with
  | some form, some (body, rest) => .lexeme (.text (form body)) open_ rest
  | _, _ => .stop .broken

/-- The word that starts with `cs`. It may turn out to be the prefix of a text. -/
def wordPiece (open_ cs : List Char) : Piece :=
  let word := cs.takeWhile isWordPart
  match cs.dropWhile isWordPart with
  | '\'' :: rest =>
    if (textPrefix? word).isSome then textPiece word '\'' open_ rest
    else if isIdentifier word then .lexeme (.ofWord word) open_ ('\'' :: rest)
    else .stop .broken
  | '"' :: rest =>
    if (textPrefix? word).isSome then textPiece word '"' open_ rest
    else if isIdentifier word then .lexeme (.ofWord word) open_ ('"' :: rest)
    else .stop .broken
  | rest => if isIdentifier word then .lexeme (.ofWord word) open_ rest else .stop .broken

/-- The bracket or operator that starts with `c`. -/
def signPiece (open_ : List Char) (c : Char) (rest : List Char) : Piece :=
  match closing? c with
  | some close =>
    if open_.length < maxBrackets then .lexeme (.operator c.toString) (close :: open_) rest
    else .stop .broken
  | none =>
    if c = ')' ∨ c = ']' ∨ c = '\x7d' then
      match open_ with
      | o :: others =>
        if o = c then .lexeme (.operator c.toString) others rest else .stop .broken
      | [] => .stop .broken
    else if c.toNat < 0x20 ∨ c.toNat = 0x7f then .stop .broken
    else
      let (sign, rest) := operatorAt c rest
      .lexeme (.operator sign) open_ rest

/-- The step at the character `c`, which is not at the start of a line. -/
def pieceAt (open_ : List Char) (c : Char) (rest : List Char) : Piece :=
  if isGap c then .gap rest
  else if c = '#' then .gap (rest.dropWhile (· ≠ '\n'))
  else if c = '\n' then
    if open_.isEmpty then .lexeme .newline open_ rest else .gap rest
  else if c = '\\' then
    match continuation? rest with
    | some rest => .gap rest
    | none => .stop .broken
  else if c = '\'' ∨ c = '"' then textPiece [] c open_ rest
  else if isDigitOf 10 c ∨ (c = '.' ∧ (rest.head?.map (isDigitOf 10)).getD false) then
    match numberAt (c :: rest) with
    | some (form, rest) => .lexeme (.number form) open_ rest
    | none => .stop .broken
  else if isWordPart c then wordPiece open_ (c :: rest)
  else signPiece open_ c rest

/-! ## All lexemes -/

/-- The lexemes of `cs`, at the start of a line outside of brackets or not, with the given
brackets open. Every step takes at least one character, so `fuel` steps are enough when it
exceeds the number of characters. -/
def lexemesFrom : Nat → Bool → List Char → List Char → List Lexeme
  | 0, _, _, _ => [.broken]
  | fuel + 1, true, open_, cs =>
    match indentation 0 0 cs with
    | none => [.broken]
    | some (column, rest) =>
      match rest with
      | '#' :: more =>
        match more.dropWhile (· ≠ '\n') with
        | '\n' :: rest => lexemesFrom fuel true open_ rest
        | _ => [.finish]
      | '\n' :: rest => lexemesFrom fuel true open_ rest
      | _ => if column = 0 then lexemesFrom fuel false open_ rest else [.indent]
  | _ + 1, false, open_, [] => [if open_.isEmpty then .finish else .broken]
  | fuel + 1, false, open_, c :: rest =>
    match pieceAt open_ c rest with
    | .stop l => [l]
    | .gap rest => lexemesFrom fuel false open_ rest
    | .lexeme .newline open_ rest => .newline :: lexemesFrom fuel true open_ rest
    | .lexeme l open_ rest => l :: lexemesFrom fuel false open_ rest

/-- The lexemes of a literal. -/
def lexemes (cs : List Char) : List Lexeme :=
  lexemesFrom (2 * cs.length + 2) true [] (unifyNewlines cs)

end ClassLift.Literal
