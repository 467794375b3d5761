import ClassLift.Proofs.Literal.StringValue
import ClassLift.Proofs.Table.Entries
import ClassLift.Proofs.Text.PropertyName

set_option autoImplicit false

/-! # Names from string keys

What a method is called when the key of its entry is a string: an identifier name, perhaps with
a line feed behind it (`Store.stringKey_shape`). Where the string is a string literal of
ECMAScript, the name is its value, unless one of its escapes is the start of a longer escape of
the reader (`Store.stringKey_value`).
-/

namespace ClassLift.Store

open Literal

variable {s : Store} {className : String} {statement block object entry key value : Slot}
  {ms : List Method} {m : Method}

/-- The name of a method with a string for its key is a property name that the string is read
as. -/
theorem read_of_stringKey (h : s.tableMethods? className statement block object = .ok (some ms))
    (hpair : s.IsPair entry key value) (hkey : s.hasKind Kind.string key = true) (hm : m ∈ ms)
    (hmade : m.IsMadeOf entry) :
    Literal.read (s.value key) = .ok (.text m.name) ∧ isPropertyName m.name = true :=
  (keyName_of_string hkey).mp (keyName_of_method h hpair hm hmade).1

/-! ## The shape of the names -/

/-- A property name is an identifier name, with or without a line feed at the end. So the name of
a method with a string key has no other line end than this. -/
theorem stringKey_shape (name : String) :
    (isPropertyName name = true ↔
      ∃ body, isWholeName body = true ∧ (name.toList = body ∨ name.toList = body ++ ['\n'])) ∧
    ∀ (s : Store) (className : String) (statement block object entry key value : Slot)
      (ms : List Method), s.tableMethods? className statement block object = .ok (some ms) →
      s.IsPair entry key value → s.hasKind Kind.string key = true →
      ∀ m ∈ ms, m.IsMadeOf entry → m.name = name →
        '\r' ∉ name.toList ∧ ∃ body, isWholeName body = true ∧ '\n' ∉ body ∧
          (name.toList = body ∨ name.toList = body ++ ['\n']) := by
  refine ⟨isPropertyName_iff, ?_⟩
  rintro s className statement block object entry key value ms h hpair hkey m hm hmade rfl
  have named := (read_of_stringKey h hpair hkey hm hmade).2
  obtain ⟨body, hbody, hname⟩ := isPropertyName_iff.mp named
  have feed : '\n' ∉ body := fun hmem =>
    absurd (isNamePart_of_isWholeName hbody _ hmem) (by decide)
  exact ⟨not_mem_of_isPropertyName named (by decide), body, hbody, feed, hname⟩

theorem stringKey_shape_keyTable :
    isPropertyName "bark" = true ∧
      ∃ ms, (keyTable (quoted "bark") "bark").tableMethods? "A" none none (some 6) = .ok (some ms) ∧
        ∃ m ∈ ms, m.name = "bark" ∧ '\r' ∉ "bark".toList ∧
          ∃ body, isWholeName body = true ∧ '\n' ∉ body ∧
            ("bark".toList = body ∨ "bark".toList = body ++ ['\n']) := by
  have named : isPropertyName "bark" = true :=
    (stringKey_shape "bark").1.mpr ⟨"bark".toList, by decide, .inl rfl⟩
  have accepted : (keyTable (quoted "bark") "bark").tableMethods? "A" none none (some 6) =
      .ok (some [⟨"bark", some 4, none, [none, some 5], none, ""⟩]) :=
    tableMethods_keyTable (read_quoted "bark") named (by decide)
  exact ⟨named, _, accepted, _, List.mem_singleton_self _, rfl,
    (stringKey_shape "bark").2 _ _ _ _ _ _ _ _ _ accepted (isPair_keyTable _ _) rfl _
      (List.mem_singleton_self _) rfl rfl⟩

/-- The name with a line feed is no identifier name, and a table with it is accepted. -/
theorem stringKey_lineFeed :
    isPropertyName "m\n" = true ∧ isWholeName "m\n".toList = false ∧
      ∃ m, (keyTable (quoted "m\n") "m").tableMethods? "A" none none (some 6) = .ok (some [m]) ∧
        (keyTable (quoted "m\n") "m").IsPair (some 5) (some 0) (some 4) ∧
        (keyTable (quoted "m\n") "m").hasKind Kind.string (some 0) = true ∧
        m.IsMadeOf (some 5) ∧ m.name = "m\n" :=
  ⟨by decide, by decide, _, tableMethods_keyTable (read_quoted "m\n") (by decide) (by decide),
    isPair_keyTable _ _, rfl, rfl, rfl⟩

/-! ## The meaning of the names -/

/-- A function with a string literal for its key is a method, and its name is the value of the
literal just when the reader takes for no escape more than the escape has. -/
theorem stringKey_value {l : StringLiteral}
    (h : s.tableMethods? className statement block object = .ok (some ms))
    (hmem : entry ∈ s.children object) (hpair : s.IsPair entry key value)
    (hkey : s.isToken Kind.string l.text key = true) (hvalue : s.isConvertible value = .ok true) :
    (∃ m ∈ ms, m.IsMadeOf entry) ∧
      ∀ m ∈ ms, m.IsMadeOf entry →
        m.function = value ∧ (unitsOf m.name.toList = l.value ↔ l.takesMore = false) := by
  refine ⟨method_of_pair h hmem hpair hvalue, fun m hm hmade => ?_⟩
  refine ⟨(keyName_of_method h hpair hm hmade).2, ?_⟩
  obtain ⟨label, hlabel, -, htext⟩ := isToken_iff.mp hkey
  have written : s.value key = l.text := by
    rw [Store.value, hlabel]
    exact htext
  obtain ⟨hread, named⟩ := read_of_stringKey h hpair (hasKind_of_isToken hkey) hm hmade
  rw [written] at hread
  refine StringLiteral.read_eq_value_iff hread ⟨?_, ?_⟩
  · exact not_mem_of_isPropertyName named (by decide)
  · exact not_mem_of_isPropertyName named (by decide)

/-- The literal `'\x62ark'`. -/
def barkLiteral : StringLiteral where
  quote := '\''
  parts := [.hex '6' '2', .plain 'a', .plain 'r', .plain 'k']
  quotes := .inl rfl
  fit := by decide

theorem read_barkLiteral : Literal.read barkLiteral.text = .ok (.text "bark") := by
  have points : unescape (linesOf barkLiteral.parts) = some ("bark".toList.map Char.toNat) := by
    have first : escape 'x' ['6', '2', 'a', 'r', 'k'] = some ([98], ['a', 'r', 'k']) := rfl
    show unescape ('\\' :: 'x' :: ['6', '2', 'a', 'r', 'k']) = _
    rw [unescape_escape first, unescape_cons (by decide), unescape_cons (by decide),
      unescape_cons (by decide), unescape]
    rfl
  rw [barkLiteral.read_text (by decide), points, orMalformed, Except.map, ofCodePoints_toNat]
  rfl

theorem stringKey_value_barkLiteral :
    ∃ m, (keyTable barkLiteral.text "bark").tableMethods? "A" none none (some 6) = .ok (some [m]) ∧
      (m.function = some 4 ∧
        (unitsOf m.name.toList = barkLiteral.value ↔ barkLiteral.takesMore = false)) ∧
      m.name = "bark" := by
  have accepted : (keyTable barkLiteral.text "bark").tableMethods? "A" none none (some 6) =
      .ok (some [⟨"bark", some 4, none, [none, some 5], none, ""⟩]) :=
    tableMethods_keyTable read_barkLiteral (by decide) (by decide)
  have hkey : (keyTable barkLiteral.text "bark").isToken Kind.string barkLiteral.text (some 0) :=
    isToken_iff.mpr ⟨_, rfl, rfl, rfl⟩
  exact ⟨_, accepted, (stringKey_value accepted (List.mem_singleton_self _) (isPair_keyTable _ _)
    hkey rfl).2 _ (List.mem_singleton_self _) rfl, rfl⟩

/-- The literal `'\U00000061'`, whose value is `U00000061`. -/
def longLiteral : StringLiteral where
  quote := '\''
  parts := .escaped 'U' :: "00000061".toList.map .plain
  quotes := .inl rfl
  fit := by decide

theorem read_longLiteral : Literal.read longLiteral.text = .ok (.text "a") := by
  have points : unescape (linesOf longLiteral.parts) = some ("a".toList.map Char.toNat) := by
    have first : escape 'U' "00000061".toList = some ([97], []) := rfl
    show unescape ('\\' :: 'U' :: "00000061".toList) = _
    rw [unescape_escape first, unescape]
    rfl
  rw [longLiteral.read_text (by decide), points, orMalformed, Except.map, ofCodePoints_toNat]
  rfl

/-- A long escape gives a name that is not the value of the literal. -/
theorem stringKey_longEscape :
    ∃ m, (keyTable longLiteral.text "a").tableMethods? "A" none none (some 6) = .ok (some [m]) ∧
      (keyTable longLiteral.text "a").IsPair (some 5) (some 0) (some 4) ∧
      (keyTable longLiteral.text "a").isToken Kind.string longLiteral.text (some 0) = true ∧
      (keyTable longLiteral.text "a").isConvertible (some 4) = .ok true ∧
      m.IsMadeOf (some 5) ∧ m.name = "a" ∧ longLiteral.value = unitsOf "U00000061".toList ∧
      unitsOf m.name.toList ≠ longLiteral.value := by
  refine ⟨_, tableMethods_keyTable read_longLiteral (by decide) (by decide), isPair_keyTable _ _,
    isToken_iff.mpr ⟨_, rfl, rfl, rfl⟩, rfl, rfl, rfl, by decide, by decide⟩

end ClassLift.Store
