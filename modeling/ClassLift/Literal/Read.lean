import ClassLift.Literal.Evaluation
import ClassLift.Literal.Lexer
import ClassLift.Literal.Matching
import ClassLift.Literal.Template

set_option autoImplicit false

/-! # Reading literals

A text in the literal notation is split into lexemes, read by the grammar and evaluated.
Where it consists of texts only, they are joined without the grammar.
-/

namespace ClassLift.Literal

/-- How deep an expression can be nested to be walked. -/
def maxDepth : Nat := 2957

/-- The phrases that a rule reads from the characters. Templates have expressions of their
own, shorter than themselves, so `fuel` of them can be inside each other when it exceeds the
number of characters. -/
def phrasesIn (r : Rule) : Nat → List Char → Except Failure (List Phrase)
  | 0, _ => .error .malformed
  | fuel + 1, cs => phrasesOf (joined (phrasesIn .fieldExpression fuel)) r (lexemes cs)

/-- The plain texts that the lexemes consist of. -/
def onlyTexts? : List Lexeme → Option (List TextForm)
  | [.text form, .finish] => if form.template then none else some [form]
  | [.text form, .newline, .finish] => if form.template then none else some [form]
  | .text form :: .text next :: lexemes =>
    if form.template then none else (onlyTexts? (.text next :: lexemes)).map (form :: ·)
  | _ => none

/-- The phrase that the characters write. -/
def phraseOf (cs : List Char) : Except Failure Phrase :=
  match onlyTexts? (lexemes cs) with
  | some forms => joined (fun _ => .error .malformed) forms
  | none =>
    match phrasesIn .literal (cs.length + 1) cs with
    | .ok [p] => .ok p
    | .ok _ => .error .malformed
    | .error failure => .error failure

/-- The value of a literal. Blanks and tabs in front of it do not count. -/
def read (s : String) : Except Failure Value := do
  if s.toList.contains '\x00' then throw .malformed
  let p ← phraseOf (s.toList.dropWhile fun c => c == ' ' || c == '\t')
  if maxDepth < p.depth then throw .tooLong
  p.evaluate

end ClassLift.Literal
