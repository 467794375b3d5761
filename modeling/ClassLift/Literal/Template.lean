import ClassLift.Literal.Escape
import ClassLift.Literal.Lexeme
import ClassLift.Literal.Lexer
import ClassLift.Literal.Phrase

set_option autoImplicit false

/-! # Templates

A template is a text with replacement fields: an expression in braces, perhaps with an equals
sign that shows it, a conversion after an exclamation mark and a format after a colon. A
format can have fields of its own, whose formats can have none. Outside of formats a doubled
brace stands for a brace.

A template is no literal, but a literal can only be read when its templates can be.
-/

namespace ClassLift.Literal

/-! ## The text between the fields -/

/-- A piece of a template up to a brace: its characters, whether a doubled brace ended it,
and what follows. -/
structure PlainPiece where
  body : List Char
  isDoubled : Bool
  rest : List Char

/-- The piece with a character in front. -/
def PlainPiece.push (c : Char) (p : PlainPiece) : PlainPiece := { p with body := c :: p.body }

/-- Is `c` a brace? -/
def isBrace (c : Char) : Bool := c == '\x7b' || c == '\x7d'

/-- The characters up to the next brace. Braces that enclose the name of a character do not
count (`inName` tells that such a name is being read); in a format no brace is doubled. A
closing brace outside of a format, and a name that does not start with a brace, are
mistakes. -/
def plainPiece (raw inFormat : Bool) : Bool → List Char → Option PlainPiece
  | _, [] => some ⟨[], false, []⟩
  | true, c :: rest => (plainPiece raw inFormat (c != '\x7d') rest).map (.push c)
  | false, c :: rest =>
    if !raw && c == '\\' then
      match rest with
      | [] => some ⟨[c], false, []⟩
      | d :: more =>
        if d = 'N' then
          match more with
          | [] => none
          | e :: others =>
            if e = '\x7b' then
              (plainPiece raw inFormat true others).map fun p => p.push e |>.push d |>.push c
            else none
        else if isBrace d then (plainPiece raw inFormat false (d :: more)).map (.push c)
        else (plainPiece raw inFormat false more).map fun p => p.push d |>.push c
    else if isBrace c then
      if inFormat then some ⟨[], false, c :: rest⟩
      else if rest.head? = some c then some ⟨[c], true, rest.drop 1⟩
      else if c = '\x7d' then none
      else some ⟨[], false, c :: rest⟩
    else (plainPiece raw inFormat false rest).map (.push c)

/-! ## The expression of a field -/

/-- What the scan of an expression is inside of: brackets, from the innermost on, each given
by the one that closes it, and perhaps a text, with its quote and whether that is tripled. -/
structure FieldState where
  brackets : List Char
  quote : Option (Char × Bool)

/-- What the scan of an expression does at a character. -/
inductive FieldStep where
  /-- It takes the character and as many more. -/
  | take (more : Nat) (state : FieldState)
  /-- The expression has ended. -/
  | finish
  | mistake

/-- Does `c` end an expression that no bracket encloses, unless it is part of an operator? -/
def endsExpression (c : Char) : Bool := c == '!' || c == ':' || c == '\x7d' || c == '='

/-- The step at the character `c` inside of a text. -/
def quotedStep (state : FieldState) (quote c : Char) (isTripled : Bool) (rest : List Char) :
    FieldStep :=
  if c = quote ∧ isTripled ∧ rest.take 2 = [c, c] then .take 2 { state with quote := none }
  else if c = quote ∧ !isTripled then .take 0 { state with quote := none }
  else .take 0 state

/-- The step at the character `c`, when it is no quote and in no text. -/
def plainStep (state : FieldState) (c : Char) (rest : List Char) : FieldStep :=
  match closing? c, state.brackets with
  | some close, _ =>
    if state.brackets.length < maxBrackets then
      .take 0 { state with brackets := close :: state.brackets }
    else .mistake
  | none, [] =>
    if rest.head? = some '=' ∧ (c = '!' ∨ c = '=' ∨ c = '<' ∨ c = '>') then .take 1 state
    else if endsExpression c then .finish
    else if c = ')' ∨ c = ']' then .mistake
    else .take 0 state
  | none, close :: others =>
    if c = close then .take 0 { state with brackets := others }
    else if c = ')' ∨ c = ']' ∨ c = '\x7d' then .mistake
    else .take 0 state

/-- The step at the character `c`. -/
def fieldStep (state : FieldState) (c : Char) (rest : List Char) : FieldStep :=
  if c = '\\' then .mistake
  else match state.quote with
    | some (quote, isTripled) => quotedStep state quote c isTripled rest
    | none =>
      if c = '\'' ∨ c = '"' then
        if rest.take 2 = [c, c] then .take 2 { state with quote := some (c, true) }
        else .take 0 { state with quote := some (c, false) }
      else if c = '#' then .mistake
      else plainStep state c rest

/-- The expression of a field and what follows it, which is not empty. There can be neither
backslashes nor comments in it, and its brackets and quotes have to match. -/
def fieldText (state : FieldState) : List Char → Option (List Char × List Char)
  | [] => none
  | c :: rest =>
    match fieldStep state c rest with
    | .mistake => none
    | .finish => some ([], c :: rest)
    | .take more state =>
      (fieldText state (rest.drop more)).map fun (text, after) =>
        (c :: rest.take more ++ text, after)
termination_by cs => cs.length
decreasing_by
  simp only [List.length_cons, List.length_drop]
  omega

/-! ## Fields -/

/-- Is `c` a blank or a line end? -/
def isSpace (c : Char) : Bool := isGap c || c == '\n' || c == '\r' || c == '\x0b'

/-- What follows the equals sign that can stand after an expression. -/
def afterEquals : List Char → List Char
  | '=' :: rest => rest.dropWhile isSpace
  | rest => rest

/-- What follows the conversion that can stand next. -/
def afterConversion? : List Char → Option (List Char)
  | '!' :: c :: rest => if c = 's' ∨ c = 'r' ∨ c = 'a' then some rest else none
  | ['!'] => none
  | rest => some rest

/-- What follows the brace that ends a field. -/
def afterField? : List Char → Option (List Char)
  | '\x7d' :: rest => some rest
  | _ => none

/-- What reading a template gives: the phrases of its fields, and what follows. -/
abbrev Fields := Except Failure (List Phrase × List Char)

/-- A value, or a mistake. -/
def orMalformed {α : Type} : Option α → Except Failure α
  | some a => .ok a
  | none => .error .malformed

/-- A field after its opening brace. `expression` reads its expression and `format?` its
format; none when no field can stand here. -/
def field (expression : List Char → Except Failure (List Phrase))
    (format? : Option (List Char → Fields)) (cs : List Char) : Fields := do
  let format ← orMalformed format?
  let (text, rest) ← orMalformed (fieldText ⟨[], none⟩ cs)
  if text.all fun c => isGap c || c == '\n' then throw .malformed
  let parts ← expression ('(' :: text ++ [')', '\n'])
  let rest ← orMalformed (afterConversion? (afterEquals rest))
  match rest with
  | [] => throw .malformed
  | c :: more =>
    let (others, rest) ← if c = ':' then
        if more.isEmpty then throw .malformed else format more
      else pure ([], rest)
    return (.node .template (parts ++ others) :: [], ← orMalformed (afterField? rest))

/-- The fields from here on; a field and a doubled brace take characters away, so `fuel`
pieces are enough when it exceeds the number of characters. -/
def fieldsFrom (raw inFormat : Bool) (field : List Char → Fields) : Nat → List Char → Fields
  | 0, _ => .error .malformed
  | fuel + 1, cs => do
    let piece ← orMalformed (plainPiece raw inFormat false cs)
    let _ ← orMalformed (codePoints? raw piece.body)
    if piece.isDoubled then fieldsFrom raw inFormat field fuel piece.rest
    else match piece.rest with
      | '\x7b' :: rest =>
        let (parts, rest) ← field rest
        let (others, rest) ← fieldsFrom raw inFormat field fuel rest
        return (parts ++ others, rest)
      | rest => return ([], rest)

/-- The fields of a format; at the given number of levels, formats can have fields. -/
def formatFields (expression : List Char → Except Failure (List Phrase)) (raw : Bool)
    (fuel : Nat) : Nat → List Char → Fields
  | 0 => fieldsFrom raw true (field expression none) fuel
  | levels + 1 =>
    fieldsFrom raw true (field expression (some (formatFields expression raw fuel levels))) fuel

/-- The phrases of the fields of a template. -/
def templateFields (expression : List Char → Except Failure (List Phrase)) (raw : Bool)
    (body : List Char) : Except Failure (List Phrase) := do
  let fuel := body.length + 1
  let format := formatFields expression raw fuel 1
  let (parts, _) ← fieldsFrom raw false (field expression (some format)) fuel body
  return parts

/-! ## Joined texts -/

/-- The parts of joined texts: the code points of the plain ones, and the phrases of the
templates. -/
def textParts (expression : List Char → Except Failure (List Phrase)) (isBytes : Bool) :
    List TextForm → Except Failure (List Nat × List Phrase)
  | [] => .ok ([], [])
  | form :: forms => do
    if form.bytes ≠ isBytes then throw .malformed
    let here ←
      if form.template then
        (fun parts => (([] : List Nat), parts)) <$> templateFields expression form.raw form.body
      else if form.bytes then
        if isByteText form.raw form.body then .ok ([], []) else .error .malformed
      else (fun points => (points, ([] : List Phrase))) <$>
        orMalformed (codePoints? form.raw form.body)
    let others ← textParts expression isBytes forms
    return (here.1 ++ others.1, here.2 ++ others.2)

/-- What several texts are together. All or none of them are byte strings. -/
def joined (expression : List Char → Except Failure (List Phrase)) (forms : List TextForm) :
    Except Failure Phrase := do
  let isBytes := forms.any (·.bytes)
  let (points, parts) ← textParts expression isBytes forms
  if forms.any (·.template) then return .node .template parts
  else if isBytes then return .constant .bytes
  else return .constant (.ofCodePoints points)

end ClassLift.Literal
