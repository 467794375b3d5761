import ClassLift.Proofs.Statement.Form

set_option autoImplicit false

/-! # The entries of a method table and its methods

The methods of a table are its entries one by one (`map_methodsOfTable`): a method has the
name and the function of its entry, and the entry is the last token whose comments it has. So
it is known which entry a method was made of, and for an entry that is a pair, what was read
as its key (`Store.keyName_of_method`, `Store.method_of_pair`).
-/

namespace ClassLift

/-- Is the method made of this entry of a table? -/
def Method.IsMadeOf (m : Method) (entry : Slot) : Prop := m.commented.getLast? = some entry

namespace Store

/-- An entry with a colon between a key and a value. -/
structure IsPair (s : Store) (entry key value : Slot) : Prop where
  colon : s.isToken Kind.binary ":" entry = true
  parts : s.children entry = [key, value]

variable {s : Store} {className : String} {statement block object entry key value : Slot}
  {entries : List Slot} {es : List TableEntry} {ms : List Method} {m : Method}

/-! ## One entry -/

theorem IsPair.entryForm (h : s.IsPair entry key value) :
    s.entryForm className entry = s.pairForm className entry key value := by
  obtain ⟨l, hl, hkind, hvalue⟩ := isToken_iff.mp h.colon
  have notFunction : l.kind ≠ Kind.functionDecl := by
    rw [hkind]
    decide
  unfold Store.entryForm
  rw [label_eq_ok.mpr hl]
  show (if l.kind = Kind.functionDecl then _ else _) = _
  rw [if_neg notFunction, if_pos ⟨hkind, hvalue⟩, h.parts]

/-- A function is not the name of the class. -/
theorem kind_of_isConvertible {l : Label} (h : s.isConvertible value = .ok true)
    (hl : s.label value = .ok l) : l.kind ≠ Kind.text := by
  intro hkind
  have text : s.hasKind Kind.text value = true := hasKind_iff.mpr ⟨l, label_eq_ok.mp hl, hkind⟩
  rcases (isConvertible_eq_true h).1 with hf | hf
  · exact absurd (hasKind_unique text hf) (by decide)
  · exact absurd (hasKind_unique text hf) (by decide)

/-- A pair that is a method has a name for its key. -/
theorem pairForm_eq_method {e : TableEntry}
    (h : s.pairForm className entry key value = .ok (.method e)) :
    s.keyName? key = .ok (some e.name) ∧ e.function = value := by
  unfold pairForm at h
  obtain ⟨o, ho, h⟩ := bind_eq_ok.mp h
  cases o with
  | none => cases h
  | some name =>
    dsimp only at h
    split at h
    · obtain ⟨l, -, h⟩ := bind_eq_ok.mp h
      simp only [pure, Except.pure, Except.ok.injEq] at h
      split at h <;> cases h
    · obtain ⟨b, -, h⟩ := bind_eq_ok.mp h
      cases b with
      | false => cases h
      | true =>
        cases h
        exact ⟨ho, rfl⟩

/-- A pair of which a table can hold something, and whose value is a function, is a method. -/
theorem pairForm_of_isConvertible {form : EntryForm}
    (h : s.pairForm className entry key value = .ok form) (hform : form ≠ .other)
    (hvalue : s.isConvertible value = .ok true) : ∃ name, form = .method ⟨name, value, entry⟩ := by
  unfold pairForm at h
  obtain ⟨o, -, h⟩ := bind_eq_ok.mp h
  cases o with
  | none =>
    cases h
    exact absurd rfl hform
  | some name =>
    dsimp only at h
    split at h
    · obtain ⟨l, hl, h⟩ := bind_eq_ok.mp h
      rw [if_neg fun both => kind_of_isConvertible hvalue hl both.1] at h
      cases h
      exact absurd rfl hform
    · rw [hvalue] at h
      cases h
      exact ⟨name, rfl⟩

theorem literal_eq_ok {slot : Slot} {l : Label} {v : Literal.Value} (hl : s.label slot = .ok l) :
    s.literal slot = .ok v ↔ Literal.read l.value = .ok v := by
  unfold Store.literal
  rw [hl]
  simp only [bind, Except.bind]
  cases Literal.read l.value with
  | ok w => simp
  | error f => cases f <;> simp

/-- A string is a name when it is read as a text that is a property name. -/
theorem keyName_of_string {name : String} (hkey : s.hasKind Kind.string key = true) :
    s.keyName? key = .ok (some name) ↔
      Literal.read (s.value key) = .ok (.text name) ∧ isPropertyName name = true := by
  obtain ⟨l, hl, hkind⟩ := hasKind_iff.mp hkey
  have hl' := label_eq_ok.mpr hl
  have notText : l.kind ≠ Kind.text := by
    rw [hkind]
    decide
  have hvalue : s.value key = l.value := by
    rw [Store.value, hl]
  rw [hvalue, ← literal_eq_ok hl']
  unfold keyName?
  rw [hl']
  show (if l.kind = Kind.text then _ else _) = _ ↔ _
  rw [if_neg notText, if_pos hkind, bind_eq_ok]
  constructor
  · rintro ⟨v, hv, h⟩
    split at h
    · next text =>
      by_cases hname : isPropertyName text = true
      · rw [if_pos hname] at h
        cases h
        exact ⟨hv, hname⟩
      · rw [if_neg hname] at h
        cases h
    · cases h
  · rintro ⟨hv, hname⟩
    refine ⟨_, hv, ?_⟩
    show (Except.ok (if isPropertyName name = true then some name else none) : Except Fault _) = _
    rw [if_pos hname]

/-! ## All entries -/

/-- Every entry of a table has a form that a table can hold, and is a method of it if it is one. -/
theorem forms_of_tableEntries (h : s.tableEntries? className entries = .ok (some es)) :
    ∀ entry ∈ entries, ∃ form, s.entryForm className entry = .ok form ∧ form ≠ .other ∧
      ∀ e, form = .method e → e ∈ es := by
  induction entries generalizing es with
  | nil => simp
  | cons first entries ih =>
    intro entry hmem
    obtain ⟨hform, hrest⟩ | ⟨e, rest, hform, hrest, rfl⟩ := tableEntries_cons_eq_some h
    · rcases List.mem_cons.mp hmem with rfl | hmem
      · exact ⟨.reset, hform, by simp, by simp⟩
      · exact ih hrest entry hmem
    · rcases List.mem_cons.mp hmem with rfl | hmem
      · exact ⟨.method e, hform, by simp, by simp⟩
      · obtain ⟨form, hform, hother, hin⟩ := ih hrest entry hmem
        exact ⟨form, hform, hother, fun e' he' => List.mem_cons_of_mem e (hin e' he')⟩

/-- The methods of a table are its entries. -/
theorem map_methodsOfTable :
    (methodsOfTable statement block es).map (fun m => (m.name, m.function, m.commented.getLast?)) =
      es.map fun e => (e.name, e.function, some e.entry) := by
  cases es with
  | nil => rfl
  | cons first others =>
    simp only [methodsOfTable, List.map_cons, List.map_map]
    rfl

/-- A method that is made of a pair has the name that its key is read as. -/
theorem keyName_of_method (h : s.tableMethods? className statement block object = .ok (some ms))
    (hpair : s.IsPair entry key value) (hm : m ∈ ms) (hmade : m.IsMadeOf entry) :
    s.keyName? key = .ok (some m.name) ∧ m.function = value := by
  obtain ⟨es, hes, -, rfl⟩ := tableMethods_eq_some h
  have origin : (m.name, m.function, m.commented.getLast?) ∈
      es.map fun e => (e.name, e.function, some e.entry) :=
    map_methodsOfTable ▸ List.mem_map_of_mem hm
  obtain ⟨e, he, heq⟩ := List.mem_map.mp origin
  simp only [Prod.mk.injEq] at heq
  obtain ⟨hname, hfunction, hentry⟩ := heq
  obtain ⟨entry', -, hform⟩ := mem_of_tableEntries hes e he
  have same : entry' = entry := by
    have hlast := hentry.trans hmade
    rw [(entryForm_eq_method hform).2.1] at hlast
    exact Option.some.inj hlast
  rw [same, hpair.entryForm] at hform
  rw [← hname, ← hfunction]
  exact pairForm_eq_method hform

/-- A pair of a table whose value is a function is a method of the table. -/
theorem method_of_pair (h : s.tableMethods? className statement block object = .ok (some ms))
    (hmem : entry ∈ s.children object) (hpair : s.IsPair entry key value)
    (hvalue : s.isConvertible value = .ok true) : ∃ m ∈ ms, m.IsMadeOf entry := by
  obtain ⟨es, hes, -, rfl⟩ := tableMethods_eq_some h
  obtain ⟨form, hform, hother, hin⟩ := forms_of_tableEntries hes entry hmem
  rw [hpair.entryForm] at hform
  obtain ⟨name, rfl⟩ := pairForm_of_isConvertible hform hother hvalue
  have origin : (name, value, some entry) ∈
      (methodsOfTable statement block es).map fun m => (m.name, m.function, m.commented.getLast?) :=
    map_methodsOfTable ▸ List.mem_map_of_mem (hin _ rfl)
  obtain ⟨m, hm, heq⟩ := List.mem_map.mp origin
  simp only [Prod.mk.injEq] at heq
  exact ⟨m, hm, heq.2.2⟩

/-! ## A table with one pair -/

/-- An object literal, token 6, with one pair, token 5, of a string, token 0, and a function,
token 4. Token 7 is a plain name outside. -/
def keyTable (key plain : String) : Store where
  cells := #[
    .fresh Kind.string key 2 2 [],
    .fresh Kind.text "Anonymous" 2 9 [],
    .fresh Kind.arguments "()" 2 18 [],
    .fresh Kind.block "\x7b\x7d" 2 21 [],
    .fresh Kind.anonymousFunction "function" 2 9 [some 1, some 2, some 3],
    .fresh Kind.binary ":" 2 7 [some 0, some 4],
    .fresh Kind.object "\x7b\x7d" 1 14 [some 5],
    .fresh Kind.text plain 2 2 []]

theorem isPair_keyTable (key plain : String) :
    (keyTable key plain).IsPair (some 5) (some 0) (some 4) := ⟨rfl, rfl⟩

/-- The table has one method when its string is read as a property name. -/
theorem tableMethods_keyTable {written plain name : String}
    (hread : Literal.read written = .ok (.text name)) (hname : isPropertyName name = true)
    (hother : name ≠ "constructor") :
    (keyTable written plain).tableMethods? className statement block (some 6) =
      .ok (some [⟨name, some 4, statement, [statement, some 5], block, ""⟩]) := by
  have hkey : (keyTable written plain).keyName? (some 0) = .ok (some name) :=
    (keyName_of_string rfl).mpr ⟨hread, hname⟩
  have hform : (keyTable written plain).entryForm className (some 5) =
      .ok (.method ⟨name, some 4, some 5⟩) := by
    rw [(isPair_keyTable written plain).entryForm, pairForm, hkey]
    show (if name = "constructor" then _ else _) = _
    rw [if_neg hother]
    rfl
  show ((keyTable written plain).tableEntries? className [some 5] >>= _) = _
  rw [tableEntries?, hform]
  rfl

end Store

end ClassLift
