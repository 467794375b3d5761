import ClassLift.Literal.Quotation
import ClassLift.Proofs.Statement.Face
import ClassLift.Proofs.Table.Entries
import ClassLift.Proofs.Token.Frame

set_option autoImplicit false

/-! # Quoted keys and plain keys

A key can be written as a plain name or, in quotes, as a string. For a property name the two
mean the same: a table in which quoted keys give way to plain ones, in any number of pairs
(`Store.Unquotes`), gives what it gave before, methods or none or a fault. A key that quotes
anything but a property name keeps the table from being one of methods
(`Store.quotedKey_transparent`).
-/

namespace ClassLift.Store

variable {s s' t : Store} {className name : String} {statement block object : Slot}
  {entry key key' value : Slot} {e : TokenId}

/-- In some pairs the key, a quoted property name, gives way to a token that is the plain name. -/
inductive Unquotes (s : Store) : Store → Prop
  | refl : Unquotes s s
  | step {t t' : Store} {entry : TokenId} {name : String} {key value plain : Slot}
      (before : Unquotes s t) (pair : t.IsPair (some entry) key value)
      (written : t.isToken Kind.string (quoted name) key = true)
      (named : isPropertyName name = true) (text : t.isToken Kind.text name plain = true)
      (edit : t.Alters t' entry [plain, value]) : Unquotes s t'

/-! ## The two ways to write a key -/

theorem keyName_of_text (h : s.isToken Kind.text name key = true) :
    s.keyName? key = .ok (some name) := by
  obtain ⟨l, hl, hkind, rfl⟩ := isToken_iff.mp h
  unfold keyName?
  rw [label_eq_ok.mpr hl]
  show (if l.kind = Kind.text then _ else _) = _
  rw [if_pos hkind]
  rfl

/-- A quoted name is read as the name, if it is a property name, and else as none. -/
theorem keyName_of_quoted (h : s.isToken Kind.string (quoted name) key = true) :
    s.keyName? key = .ok (if isPropertyName name = true then some name else none) := by
  obtain ⟨l, hl, hkind, hvalue⟩ := isToken_iff.mp h
  have notText : l.kind ≠ Kind.text := by
    rw [hkind]
    decide
  have hread : s.literal key = .ok (.text name) := by
    refine (literal_eq_ok (label_eq_ok.mpr hl)).mpr ?_
    rw [hvalue]
    exact Literal.read_quoted name
  unfold keyName?
  rw [label_eq_ok.mpr hl]
  show (if l.kind = Kind.text then _ else _) = _
  rw [if_neg notText, if_pos hkind, hread]
  rfl

/-! ## One key -/

namespace Alters

variable {children : List Slot}

theorem label? (h : s.Alters s' e children) (slot : Slot) : s'.label? slot = s.label? slot := by
  cases slot with
  | none => rfl
  | some u =>
    show some (s'.cell u).label = some (s.cell u).label
    by_cases hu : u = e
    · rw [hu, h.own]
    · rw [h.others u hu]

theorem label (h : s.Alters s' e children) (slot : Slot) : s'.label slot = s.label slot := by
  unfold Store.label
  rw [h.label?]

theorem isToken (h : s.Alters s' e children) (kind : Kind) (text : String) (slot : Slot) :
    s'.isToken kind text slot = s.isToken kind text slot := by
  unfold Store.isToken
  rw [h.label?]

theorem keyName? (h : s.Alters s' e children) (slot : Slot) : s'.keyName? slot = s.keyName? slot := by
  unfold Store.keyName? Store.literal
  rw [h.label]

theorem children_of_ne (h : s.Alters s' e children) {slot : Slot} (hne : slot ≠ some e) :
    s'.children slot = s.children slot := by
  cases slot with
  | none => rfl
  | some u => exact congrArg Cell.children (h.others u fun hu => hne (congrArg some hu))

/-- A token of another kind keeps its children. -/
theorem children_of_kind (h : s.Alters s' e children) {kind kind' : Kind} {slot : Slot} {l : Label}
    (he : s.hasKind kind (some e) = true) (hl : s.label slot = .ok l) (hkind : l.kind = kind')
    (hne : kind' ≠ kind) : s'.children slot = s.children slot := by
  refine h.children_of_ne fun hslot => ?_
  have other : s.hasKind kind' slot = true := hasKind_iff.mpr ⟨l, label_eq_ok.mp hl, hkind⟩
  rw [hslot] at other
  exact hne (hasKind_unique other he)

/-- Whether a token is a function does not depend on the children of a pair. -/
theorem isConvertible (h : s.Alters s' e children) (he : s.hasKind Kind.binary (some e) = true)
    (slot : Slot) : s'.isConvertible slot = s.isConvertible slot := by
  unfold Store.isConvertible
  rw [h.label]
  refine bind_congr_of_ok fun l hl => ?_
  by_cases hk : l.kind = Kind.functionDecl ∨ l.kind = Kind.anonymousFunction
  · have same : s'.children slot = s.children slot := by
      rcases hk with hk | hk
      · exact h.children_of_kind he hl hk (by decide)
      · exact h.children_of_kind he hl hk (by decide)
    rw [if_pos hk, if_pos hk, same]
    split
    · rw [h.label]
    · rfl
  · rw [if_neg hk, if_neg hk]

/-- The meaning of a pair depends on its key only for the name. -/
theorem pairForm (h : s.Alters s' e children) (he : s.hasKind Kind.binary (some e) = true)
    (hkey : s.keyName? key' = s.keyName? key) :
    s'.pairForm className entry key' value = s.pairForm className entry key value := by
  unfold Store.pairForm
  rw [h.keyName?, hkey, h.label, h.isConvertible he]

theorem entryForm (h : s.Alters s' e [key', value]) (he : s.IsPair (some e) key value)
    (hkey : s.keyName? key' = s.keyName? key) (entry : Slot) :
    s'.entryForm className entry = s.entryForm className entry := by
  have hbinary := hasKind_of_isToken he.colon
  by_cases hentry : entry = some e
  · have he' : s'.IsPair (some e) key' value := by
      refine ⟨(h.isToken _ _ _).trans he.colon, ?_⟩
      exact congrArg Cell.children h.own
    rw [hentry, he.entryForm, he'.entryForm, h.pairForm hbinary hkey]
  · unfold Store.entryForm
    rw [h.label, h.children_of_ne hentry, h.isConvertible hbinary]
    refine bind_congr_of_ok fun l _ => ?_
    split
    · refine bind_congr_of_ok fun b _ => ?_
      unfold Store.firstName
      rw [SameFace.child_eq (h.children_of_ne hentry)]
      simp only [h.label]
    · split
      · split
        · exact h.pairForm hbinary rfl
        · rfl
      · rfl

end Alters

/-! ## Any number of keys -/

/-- Where one quoted property name gives way to the plain one, the table means the same. -/
theorem Alters.tableMethods? (h : s.Alters s' e [key', value]) (he : s.IsPair (some e) key value)
    (hkey : s.keyName? key' = s.keyName? key) (hobject : s.hasKind Kind.object object = true) :
    s'.tableMethods? className statement block object =
      s.tableMethods? className statement block object := by
  have hne : object ≠ some e := by
    rintro rfl
    exact absurd (hasKind_unique hobject (hasKind_of_isToken he.colon)) (by decide)
  unfold Store.tableMethods?
  rw [h.children_of_ne hne, tableEntries_congr fun entry _ => h.entryForm he hkey entry]

theorem Unquotes.hasKind {kind : Kind} (h : Unquotes s t) (slot : Slot) :
    t.hasKind kind slot = s.hasKind kind slot := by
  induction h with
  | refl => rfl
  | step _ _ _ _ _ edit ih =>
    rw [← ih]
    unfold Store.hasKind
    rw [edit.label?]

/-- A table does not depend on which of its property names are quoted. With a key that quotes
something else it is no method table. -/
theorem quotedKey_transparent (hobject : s.hasKind Kind.object object = true) :
    (∀ t, Unquotes s t → ∀ className statement block,
      t.tableMethods? className statement block object =
        s.tableMethods? className statement block object) ∧
    ∀ name entry key value, entry ∈ s.children object → s.IsPair entry key value →
      s.isToken Kind.string (quoted name) key = true → isPropertyName name = false →
      ∀ className statement block ms,
        s.tableMethods? className statement block object ≠ .ok (some ms) := by
  constructor
  · intro t h className statement block
    induction h with
    | refl => rfl
    | @step t t' entry name key value plain before pair written named text edit ih =>
      -- both keys are read as the name
      have same : t.keyName? plain = t.keyName? key := by
        rw [keyName_of_text text, keyName_of_quoted written, if_pos named]
      rw [edit.tableMethods? pair same ((before.hasKind object).trans hobject), ih]
  · intro name entry key value hmem hpair hkey hname className statement block ms h
    obtain ⟨es, hes, -, -⟩ := tableMethods_eq_some h
    obtain ⟨form, hform, hother, -⟩ := forms_of_tableEntries hes entry hmem
    rw [hpair.entryForm, pairForm, keyName_of_quoted hkey, hname] at hform
    cases hform
    exact hother rfl

theorem quotedKey_transparent_keyTable :
    (∃ t, Unquotes (keyTable (quoted "bark") "bark") t ∧ t.children (some 5) = [some 7, some 4] ∧
      t.tableMethods? "A" none none (some 6) =
        (keyTable (quoted "bark") "bark").tableMethods? "A" none none (some 6)) ∧
    isPropertyName "b-a" = false ∧
      ∀ ms, (keyTable (quoted "b-a") "").tableMethods? "A" none none (some 6) ≠ .ok (some ms) := by
  have edit := Alters.set (s := keyTable (quoted "bark") "bark") (t := 5) (by decide) [some 7, some 4]
  have written : (keyTable (quoted "bark") "bark").isToken Kind.string (quoted "bark") (some 0) =
      true := isToken_iff.mpr ⟨_, rfl, rfl, rfl⟩
  have plain := Unquotes.step .refl (isPair_keyTable _ _) written (by decide)
    (isToken_iff.mpr ⟨_, rfl, rfl, rfl⟩) edit
  refine ⟨⟨_, plain, rfl, (quotedKey_transparent rfl).1 _ plain "A" none none⟩, by decide, ?_⟩
  exact (quotedKey_transparent (s := keyTable (quoted "b-a") "") rfl).2 "b-a" _ _ _
    (List.mem_singleton_self _) (isPair_keyTable _ _) (isToken_iff.mpr ⟨_, rfl, rfl, rfl⟩)
    (by decide) "A" none none

end ClassLift.Store
