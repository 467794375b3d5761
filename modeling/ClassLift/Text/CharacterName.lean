import Std.Data.HashMap
import ClassLift.Text.CharacterName.Alias
import ClassLift.Text.CharacterName.From0000
import ClassLift.Text.CharacterName.From2000
import ClassLift.Text.CharacterName.FromA000
import ClassLift.Text.CharacterName.From12000
import ClassLift.Text.CharacterName.From1D000
import ClassLift.Text.CodeRanges

set_option autoImplicit false

/-! # Characters by name

The character of a Unicode 14 name. Most names are listed in tables; the names of Hangul
syllables and of unified ideographs are composed by a rule, and so are those of three
further families and the abbreviations of the variation selectors.

Listed names and aliases are found in either case, composed names of syllables and unified
ideographs in upper case only.
-/

namespace ClassLift

/-! ## The tables -/

/-- How far a table of names has been read: the code point of the next name, the words of
the last one, and the names so far. -/
structure NameReading where
  next : Nat
  words : List String
  names : Std.HashMap String Nat

/-- One more line of a table. -/
def NameReading.line (r : NameReading) (l : String) : NameReading :=
  match l.toList with
  | [] => r
  | 'U' :: '+' :: digits => { r with next := number 16 digits }
  | kept :: rest =>
    let words := r.words.take ((hexDigit? kept).getD 0) ++ (String.ofList rest).splitOn " "
    ⟨r.next + 1, words, r.names.insert (" ".intercalate words) r.next⟩

/-- The names together with those that a table lists. -/
def addNames (names : Std.HashMap String Nat) (table : String) : Std.HashMap String Nat :=
  ((table.splitOn "\n").foldl NameReading.line ⟨0, [], names⟩).names

/-- The names together with an alias, which stands after the code point on its line. -/
def addAlias (names : Std.HashMap String Nat) (line : String) : Std.HashMap String Nat :=
  match line.splitOn " " with
  | [] => names
  | code :: words => names.insert (" ".intercalate words) (number 16 code.toList)

/-- All listed names and aliases. -/
def listedNames : Thunk (Std.HashMap String Nat) :=
  Thunk.mk fun _ =>
    (characterAliases.splitOn "\n").foldl addAlias <|
      [namesFrom0000, namesFrom2000, namesFromA000, namesFrom12000, namesFrom1D000].foldl
        addNames ∅

/-! ## Names by rule -/

/-- The rest of a name after the words it starts with. -/
def afterStart? (start : String) (name : List Char) : Option (List Char) :=
  if start.toList.isPrefixOf name then some (name.drop start.length) else none

/-- The leading consonants of Hangul syllables. -/
def leadingJamo : List String :=
  ["G", "GG", "N", "D", "DD", "R", "M", "B", "BB", "S", "SS", "", "J", "JJ", "C", "K", "T", "P",
    "H"]

/-- The vowels of Hangul syllables. -/
def vowelJamo : List String :=
  ["A", "AE", "YA", "YAE", "EO", "E", "YEO", "YE", "O", "WA", "WAE", "OE", "YO", "U", "WEO",
    "WE", "WI", "YU", "EU", "YI", "I"]

/-- The trailing consonants of Hangul syllables. -/
def trailingJamo : List String :=
  ["", "G", "GG", "GS", "N", "NJ", "NH", "D", "L", "LG", "LM", "LB", "LS", "LT", "LP", "LH",
    "M", "B", "BS", "S", "SS", "NG", "J", "C", "K", "T", "P", "H"]

/-- The Hangul syllable composed of the jamo that `cs` spells. A vowel starts with a letter
with which no consonant starts, so there is at most one way to split `cs`. -/
def hangulSyllable? (cs : List Char) : Option Nat :=
  leadingJamo.zipIdx.findSome? fun (l, i) => do
    let cs ← afterStart? l cs
    vowelJamo.zipIdx.findSome? fun (v, j) => do
      let cs ← afterStart? v cs
      let k ← trailingJamo.idxOf? (String.ofList cs)
      return 0xac00 + (i * 21 + j) * 28 + k

/-- The number that four or five upper-case hexadecimal digits write. -/
def codeDigits? (cs : List Char) : Option Nat :=
  if (cs.length = 4 ∨ cs.length = 5) ∧ cs.all fun c => isDigitOf 16 c && !c.isLower then
    some (number 16 cs)
  else none

/-- The unified ideographs. -/
def unifiedIdeographs : CodeRanges :=
  .ofText "3400-4dbf 4e00-9fff 20000-2a6df 2a700-2b738 2b740-2b81d 2b820-2cea1 2ceb0-2ebe0
    30000-3134a"

/-- The characters whose names are these words followed by the code point. -/
def numberedFamilies : List (String × CodeRanges) :=
  [("CJK COMPATIBILITY IDEOGRAPH-", .ofText "f900-fa6d fa70-fad9 2f800-2fa1d"),
    ("KHITAN SMALL SCRIPT CHARACTER-", .ofText "18b00-18cd5"),
    ("NUSHU CHARACTER-", .ofText "1b170-1b2fb")]

/-- The character of a numbered family with the given name. -/
def inFamily? (name : List Char) : Option Nat :=
  numberedFamilies.findSome? fun (start, codes) => do
    let c ← codeDigits? (← afterStart? start name)
    if codes.contains c ∧ (c < 0x10000 ↔ name.length = start.length + 4) then some c else none

/-- The variation selector that is abbreviated by `VS` and its number. -/
def variationSelector? (name : List Char) : Option Nat := do
  let digits ← afterStart? "VS" name
  let n := number 10 digits
  if digits = (toString n).toList ∧ 0 < n ∧ n ≤ 256 then
    some (if n ≤ 16 then 0xfe00 + n - 1 else 0xe0100 + n - 17)
  else none

/-! ## All names -/

/-- The code point of the character with the given name. -/
def characterNamed? (name : List Char) : Option Nat :=
  match afterStart? "HANGUL SYLLABLE " name, afterStart? "CJK UNIFIED IDEOGRAPH-" name with
  | some jamo, _ => hangulSyllable? jamo
  | none, some digits =>
    (codeDigits? digits).filter fun c => unifiedIdeographs.contains c
  | none, none =>
    let name := name.map Char.toUpper
    (inFamily? name <|> variationSelector? name <|>
      listedNames.get[String.ofList name]?)

end ClassLift
