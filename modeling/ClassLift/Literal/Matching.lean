import Std.Data.HashMap
import ClassLift.Literal.Grammar
import ClassLift.Literal.Lexeme

set_option autoImplicit false

/-! # Matching the grammar

Rules are matched against lexemes from a place on. Every rule, choice and repetition inside
another needs one more level, and there are `maxLevels` of them. What certain rules have
matched at a place is remembered, so that each of them is tried at most once there.
-/

namespace ClassLift.Literal

/-- How deep rules can be nested while they are matched. -/
def maxLevels : Nat := 6000

/-- What became of an attempt. -/
inductive Outcome where
  /-- The parts that were read, and the place after them. -/
  | found (place : Nat) (parts : List Phrase)
  | missed
  /-- There is no match, and no other alternative is to be tried. -/
  | refused
  | stopped (failure : Failure)

/-- What is read: the lexemes with the number of brackets open after each, and how several
texts are joined. -/
structure Material where
  lexemes : Array Lexeme
  brackets : Array Nat
  joined : List TextForm → Except Failure Phrase

/-- What rules have matched at a place. -/
abbrev Memory := Std.HashMap (Rule × Nat) Outcome

/-- An attempt from a place on. -/
abbrev Attempt := Nat → StateM Memory Outcome

namespace Attempt

/-! ## Lexemes -/

/-- One lexeme; `parts?` gives its parts when it is the right one. -/
def lexeme (m : Material) (parts? : Lexeme → Option (List Phrase)) : Attempt := fun place =>
  match m.lexemes[place]? with
  | none => return .missed
  | some .broken => return .stopped .malformed
  | some l =>
    match parts? l with
    | some parts => return .found (place + 1) parts
    | none => return .missed

/-- A lexeme that has no parts. -/
def mark (m : Material) (isRight : Lexeme → Bool) : Attempt :=
  lexeme m fun l => if isRight l then some [] else none

/-- A name. -/
def name (m : Material) : Attempt := lexeme m fun
  | .name word => some [.name word]
  | _ => none

/-- A number. The reading ends at an integer with too many digits. -/
def number (m : Material) : Attempt := fun place =>
  if m.lexemes[place]? = some (.number .tooManyDigits) then return .stopped .malformed
  else lexeme m (fun
    | .number (.integer n) => some [.constant (.integer n)]
    | .number .real => some [.constant .real]
    | .number .imaginary => some [.constant .complex]
    | _ => none) place

/-- The texts from a place on; there are at most as many as `count`. -/
def textsFrom (m : Material) : Nat → Nat → List TextForm
  | 0, _ => []
  | count + 1, place =>
    match m.lexemes[place]? with
    | some (.text form) => form :: textsFrom m count (place + 1)
    | _ => []

/-- All texts from a place on, joined. -/
def texts (m : Material) : Attempt := fun place =>
  match textsFrom m m.lexemes.size place with
  | [] => return .missed
  | forms =>
    match m.lexemes[place + forms.length]? with
    | some .broken => return .stopped .malformed
    | _ =>
      match m.joined forms with
      | .ok phrase => return .found (place + forms.length) [phrase]
      | .error failure => return .stopped failure

/-! ## Sequences and choices -/

/-- The items one after the other. After a cut a miss is a refusal. -/
def sequence (attempt : Item → Attempt) (isCut : Bool) (parts : List Phrase) :
    List Item → Attempt
  | [], place => return .found place parts
  | .cut :: items, place => sequence attempt true parts items place
  | item :: items, place => do
    match ← attempt item place with
    | .found place more => sequence attempt isCut (parts ++ more) items place
    | .missed => return if isCut then .refused else .missed
    | other => return other

/-- The first of the sequences that matches. -/
def firstOf (attempt : Item → Attempt) : List (List Item) → Attempt
  | [], _ => return .missed
  | items :: others, place => do
    match ← sequence attempt false [] items place with
    | .missed => firstOf attempt others place
    | other => return other

/-- What an alternative builds when it has matched up to `place`. -/
def build (m : Material) (place : Nat) (parts : List Phrase) : Build → Outcome
  | .parts => .found place parts
  | .form f => .found place [.node f parts]
  | .constant v => .found place [.constant v]
  | .complain => .stopped .malformed
  | .complainIf test =>
    if test (m.brackets[place - 1]?.getD 0) parts then .stopped .malformed else .refused

/-- The first of the alternatives that matches. -/
def alternatives (m : Material) (attempt : Item → Attempt) : List Alternative → Attempt
  | [], _ => return .missed
  | a :: others, place => do
    match ← sequence attempt false [] a.items place with
    | .missed => alternatives m attempt others place
    | .found place parts => return build m place parts a.build
    | other => return other

/-- A sequence as often as it matches, at most `count` times. The parts come in reverse. -/
def repeated (attempt : Item → Attempt) (items : List Item) :
    Nat → List Phrase → Attempt
  | 0, parts, place => return .found place parts.reverse
  | count + 1, parts, place => do
    match ← sequence attempt false [] items place with
    | .found place more => repeated attempt items count (more.reverse ++ parts) place
    | .stopped failure => return .stopped failure
    | _ => return .found place parts.reverse

/-- A sequence at least once. -/
def repeatedOnce (attempt : Item → Attempt) (items : List Item) (count : Nat) : Attempt :=
  fun place => do
    match ← sequence attempt false [] items place with
    | .found place parts => repeated attempt items count parts.reverse place
    | .refused => return .missed
    | other => return other

/-! ## Rules -/

/-- What remains of a refusal outside of its rule. -/
def settled : Outcome → Outcome
  | .refused => .missed
  | other => other

/-- An attempt whose outcome at each place is remembered, unless it stopped the reading. -/
def remembered (r : Rule) (attempt : Attempt) : Attempt := fun place => do
  match (← get)[(r, place)]? with
  | some known => return known
  | none =>
    let outcome := settled (← attempt place)
    if let .stopped _ := outcome then return outcome
    modify fun memory => memory.insert (r, place) outcome
    return outcome

/-- A rule that starts with itself, with `best` matched so far up to `last`. -/
def grown (r : Rule) (body : Attempt) : Nat → Nat → Outcome → Attempt
  | 0, _, best, _ => return best
  | count + 1, last, best, place => do
    modify fun memory => memory.insert (r, place) best
    match ← body place with
    | .found next parts =>
      if last < next then grown r body count next (.found next parts) place else return best
    | .stopped failure => return .stopped failure
    | _ => return best

/-- A rule, with its alternatives given as an attempt one level further in. -/
def rule (m : Material) (r : Rule) (body deeper : Attempt) : Attempt :=
  match r.kind with
  | .ordinary => fun place => return settled (← body place)
  | .remembered => remembered r body
  | .growing => fun place => do
    match (← get)[(r, place)]? with
    | some known => return known
    | none => grown r deeper (m.lexemes.size + 1) place .missed place

/-! ## Items -/

/-- An item. Those that need a level are left to `deeper`. -/
def item (m : Material) (isDiagnosing : Bool) (deeper : Item → Attempt) : Item → Attempt
  | .sign s => mark m (· = .operator s)
  | .word w => mark m (· = .keyword w)
  | .name => name m
  | .softWord => mark m fun l => l = .name "_" || l = .name "case" || l = .name "match"
  | .number => number m
  | .text => mark m fun | .text _ => true | _ => false
  | .newline => mark m (· = .newline)
  | .finish => mark m (· = .finish)
  | .diagnosis r => if isDiagnosing then deeper (.rule r) else fun _ => return .missed
  | .optional i => fun place => do
    match ← item m isDiagnosing deeper i place with
    | .missed => return .found place []
    | other => return other
  | .ahead i => fun place => do
    match ← item m isDiagnosing deeper i place with
    | .found _ _ => return .found place []
    | other => return other
  | .notAhead i => fun place => do
    match ← item m isDiagnosing deeper i place with
    | .found _ _ => return .missed
    | .stopped failure => return .stopped failure
    | _ => return .found place []
  | .cut => fun place => return .found place []
  | i => deeper i

end Attempt

/-- What stands at a level: a rule or another item, or only the alternatives of a rule. -/
inductive Entry where
  | item (i : Item)
  | body (r : Rule)

open Attempt in
/-- An item or the body of a rule, with the given number of levels left. -/
def attempt (m : Material) : Nat → Bool → Entry → Attempt
  | 0, _, _ => fun _ => return .stopped .tooDeep
  | levels + 1, isDiagnosing, entry =>
    let within (isDiagnosing : Bool) : Item → Attempt :=
      Attempt.item m isDiagnosing fun i => attempt m levels isDiagnosing (.item i)
    let deeper := within isDiagnosing
    match entry with
    | .body r => alternatives m deeper r.alternatives
    | .item (.rule r) =>
      rule m r (alternatives m (within (isDiagnosing && !r.isQuiet)) r.alternatives)
        (attempt m levels isDiagnosing (.body r))
    | .item (.either sequences) => fun place => return settled (← firstOf deeper sequences place)
    | .item (.many items) => repeated deeper items m.lexemes.size []
    | .item (.some items) => repeatedOnce deeper items m.lexemes.size
    | .item (.separated i between) => fun place => do
      match ← deeper i place with
      | .found place parts =>
        match ← attempt m levels isDiagnosing (.item (.many [between, i])) place with
        | .found place more => return .found place (parts ++ more)
        | other => return other
      | other => return settled other
    | .item .texts => texts m
    | .item i => deeper i

/-- The number of brackets open after each lexeme. -/
def openBrackets (lexemes : List Lexeme) : List Nat :=
  let after (n : Nat) : Lexeme → Nat
    | .operator "(" | .operator "[" | .operator "\x7b" => n + 1
    | .operator ")" | .operator "]" | .operator "\x7d" => n - 1
    | _ => n
  (lexemes.foldl (fun (n, counts) l => (after n l, after n l :: counts)) (0, [])).2.reverse

/-- The phrases that a rule reads from the start of the lexemes. When it does not match, a
second reading with the diagnosing alternatives shows whether it gets too deep. -/
def phrasesOf (joined : List TextForm → Except Failure Phrase) (r : Rule)
    (lexemes : List Lexeme) : Except Failure (List Phrase) :=
  let m : Material := ⟨lexemes.toArray, (openBrackets lexemes).toArray, joined⟩
  let reading (isDiagnosing : Bool) : Outcome :=
    (attempt m maxLevels isDiagnosing (.item (.rule r)) 0 ∅).1
  match reading false with
  | .found _ parts => .ok parts
  | .stopped failure => .error failure
  | _ =>
    match reading true with
    | .stopped failure => .error failure
    | _ => .error .malformed

end ClassLift.Literal
