import ClassLift.Proofs.Class.Candidates
import ClassLift.Proofs.Statement.Face

set_option autoImplicit false

/-! # Detecting again

The statements of a container are detected a second time, after some functions among them became
classes. A statement is then as it was, or it belonged to one of these functions and now says
nothing about classes (`Echo`). What was understood before is understood again, and no function
becomes a class that could not become one before (`Understood.echo`).
-/

namespace ClassLift

open List

/-- Every statement that the detection looks at has a meaning. -/
structure Understood (s : Store) (options : Options) (block : Slot) : Prop where
  declarations : ∀ st ∈ s.children block, ∃ o, s.declaration? block st = .ok o
  owners : (∃ d, DeclaredOnce s block 0 (s.children block) d) →
    ∀ st ∈ s.children block, ∃ o, s.prototypeOwner? st = .ok o
  followed : ∀ d, DeclaredOnce s block 0 (s.children block) d →
    ∃ o, d.follow s options block 0 (s.children block) = .ok o

/-- The statements are understood, and no function among them becomes a class. -/
structure Quiet (s : Store) (options : Options) (block : Slot) : Prop extends
    Understood s options block where
  still : ∀ name, ¬ Converts s options block name

/-- The slot says nothing about classes. -/
def Store.Inert (s : Store) (block slot : Slot) : Prop :=
  s.declaration? block slot = .ok none ∧ s.prototypeOwner? slot = .ok none

/-- What is left of a statement, after the functions of the given names became classes. -/
inductive Echo (s s' : Store) (options : Options) (block : Slot) (names : List String)
    (st : Slot) (left : List Slot) : Prop where
  | same (forms : SameForms s s' options block st) (h : left = [st])
      (other : ∀ name ∈ names, ¬ s.declares block name st = true)
  | used (name : String) (mem : name ∈ names)
      (h : s.declares block name st = true ∨ s.modifies name st = true)
      (inert : ∀ slot ∈ left, s'.Inert block slot)

theorem Understood.present {s : Store} {options : Options} {block : Slot}
    (h : Understood s options block) : none ∉ s.children block := by
  intro hmem
  obtain ⟨o, ho⟩ := h.declarations none hmem
  obtain ⟨l, hl⟩ := Store.label_of_declaration ho
  cases hl

variable {s s' : Store} {options : Options} {block slot st : Slot} {names : List String}
  {name : String} {left : Slot → List Slot} {statements : List Slot} {d : Draft}

/-! ## Statements that are as they were -/

namespace SameForms

theorem declares (h : SameForms s s' options block st) (name : String) :
    s'.declares block name st = s.declares block name st := by
  rw [Store.declares, Store.declares, h.declaration]

theorem modifies (h : SameForms s s' options block st) (name : String) :
    s'.modifies name st = s.modifies name st := by
  rw [Store.modifies, Store.modifies, h.owner]

theorem resets (h : SameForms s s' options block st) (name : String) :
    s'.resets name st = s.resets name st := by
  rw [Store.resets, Store.resets, h.reset]

theorem replaces_eq (h : SameForms s s' options block st) : s'.replaces st = s.replaces st := by
  rw [Store.replaces, Store.replaces, h.replaces]

theorem inherits (h : SameForms s s' options block st) : s'.inherits st = s.inherits st := by
  rw [Store.inherits, Store.inherits, Store.superOf, Store.superOf, h.superClass]

theorem methodsOf (h : SameForms s s' options block st) :
    s'.methodsOf options block st = s.methodsOf options block st := by
  rw [Store.methodsOf, Store.methodsOf, h.methods]

theorem absorb (h : SameForms s s' options block st) (d : Draft) :
    d.absorb s' options block st = d.absorb s options block st := by
  unfold Draft.absorb Draft.contribute
  rw [h.reset, h.replaces, h.superClass, h.methods]

end SameForms

/-! ## Statements that say nothing -/

theorem Store.Inert.declares (h : s.Inert block slot) (name : String) :
    s.declares block name slot = false := by
  rw [Store.declares, h.1]

theorem Store.Inert.modifies (h : s.Inert block slot) (name : String) :
    s.modifies name slot = false := by
  rw [Store.modifies, h.2]

namespace Store

/-- A token that is no call and no assignment is about no prototype. -/
theorem prototypeOwner_of_kind {t : TokenId} (hcall : s.hasKind Kind.call (some t) = false)
    (hassign : s.hasKind Kind.assign (some t) = false) :
    s.prototypeOwner? (some t) = .ok none := by
  have hno : s.isAssign (some t) = .ok false := by
    have hkind : ((s.cell t).label.kind == Kind.assign) = false := hassign
    show Except.ok ((s.cell t).label.kind == Kind.assign && (s.cell t).label.value == "=" &&
      (s.children (some t)).length == 2) = _
    rw [hkind]
    rfl
  unfold prototypeOwner? utilInherits?
  rw [argumentsOf_of_kind hcall, hno]
  rfl

/-- Only functions, variables and exports can declare a class. -/
theorem declaration_of_kind {t : TokenId} {kind : Kind} (h : s.hasKind kind (some t) = true)
    (hfunction : kind ≠ Kind.functionDecl) (hvar : kind ≠ Kind.varDecl)
    (hexport : kind ≠ Kind.exportDecl) : s.declaration? block (some t) = .ok none := by
  have hkind : (s.cell t).label.kind = kind := kind_of_hasKind h
  have hl : s.label (some t) = .ok (s.cell t).label := rfl
  unfold declaration?
  rw [hl, variableDeclaration_of_kind (hasKind_of_ne h hvar),
    functionDeclaration_of_kind hl (by rwa [hkind])]
  simp only [bind, Except.bind, hkind, hexport, if_false]
  split <;> rfl

/-- A class says nothing about classes. -/
theorem inert_of_classDecl {t : TokenId} (h : s.hasKind Kind.classDecl (some t) = true) :
    s.Inert block (some t) :=
  ⟨declaration_of_kind h (by decide) (by decide) (by decide),
    prototypeOwner_of_kind (hasKind_of_ne h (by decide)) (hasKind_of_ne h (by decide))⟩

/-- An export of a class says nothing about classes. -/
theorem inert_of_export {e : TokenId} (he : s.hasKind Kind.exportDecl (some e) = true)
    (hfirst : ∀ first ∈ (s.cell e).children.head?, s.hasKind Kind.classDecl first = true) :
    s.Inert block (some e) := by
  have hkind : (s.cell e).label.kind = Kind.exportDecl := by
    simpa [hasKind, label?] using he
  refine ⟨?_, prototypeOwner_of_kind (hasKind_of_ne he (by decide)) (hasKind_of_ne he (by decide))⟩
  have hl : s.label (some e) = .ok (s.cell e).label := rfl
  unfold declaration?
  rw [hl, variableDeclaration_of_kind (hasKind_of_ne he (by decide)),
    functionDeclaration_of_kind hl (by rw [hkind]; decide)]
  cases hc : (s.cell e).children with
  | nil =>
      rw [show s.children (some e) = [] from hc]
      rfl
  | cons first rest =>
      rw [show s.children (some e) = first :: rest from hc]
      obtain ⟨t, rfl, hclass⟩ := exists_token_of_hasKind (hfirst first (by rw [hc]; rfl))
      have hlt : s.label (some t) = .ok (s.cell t).label := rfl
      simp only [bind, Except.bind, hkind, if_true]
      rw [functionDeclaration_of_kind hlt (by rw [hclass]; decide)]

end Store

namespace Draft

/-- The draft, with its declaration at another place. -/
def moved (d : Draft) (position : Nat) : Draft := { d with position }

theorem absorb_moved (d : Draft) (position : Nat) :
    (d.moved position).absorb s options block st =
      (d.absorb s options block st).map (Option.map (·.moved position)) := by
  have hcontribute : (d.moved position).contribute s options block st =
      (d.contribute s options block st).map (Option.map (·.moved position)) := by
    unfold contribute moved
    dsimp only
    rcases s.superClass? st with _ | _ | base
    · rfl
    · rcases s.methods? options block st with _ | _ | methods
      · rfl
      · rcases s.replacesPrototype st with _ | _ | _ <;> rfl
      · rfl
    · simp only [bind, Except.bind]
      split <;> rfl
  unfold absorb
  rw [hcontribute]
  unfold moved
  dsimp only
  show (s.isConstructorReset d.name st >>= _) = _
  rcases s.isConstructorReset d.name st with _ | _ | _
  · rfl
  · simp only [bind, Except.bind]
    cases d.touched with
    | false => rfl
    | true => rcases s.replacesPrototype st with _ | _ | _ <;> rfl
  · rfl

theorem position_of_absorb {d d' : Draft} (h : d.absorb s options block st = .ok (some d')) :
    d'.position = d.position := by
  -- a draft moved to where it is absorbs the statement alike
  have hsame : d.absorb s options block st =
      (d.absorb s options block st).map (Option.map (·.moved d.position)) :=
    absorb_moved d d.position
  rw [h] at hsame
  have hmoved : d' = d'.moved d.position := Option.some.inj (Except.ok.inj hsame)
  rw [hmoved]
  rfl

theorem follow_append_of_unconcerned {first rest : List Slot} {index : Nat}
    (h : ∀ u ∈ first, ¬ s.modifies d.name u = true) :
    d.follow s options block index (first ++ rest) =
      d.follow s options block (index + first.length) rest := by
  induction first generalizing index with
  | nil => rfl
  | cons u first ih =>
      rw [List.cons_append, follow_cons_of_not_modifies (h u (by simp)),
        ih fun v hv => h v (by simp [hv]), List.length_cons, Nat.add_right_comm, Nat.add_assoc]

end Draft

/-! ## Functions that became no classes -/

/-- For a function that became no class, a statement is as it was, or says nothing and said
nothing before. -/
theorem Echo.of_not_mem {left : List Slot} (h : Echo s s' options block names st left)
    (hname : name ∉ names) :
    (left = [st] ∧ SameForms s s' options block st) ∨
      (¬ s.declares block name st = true ∧ ¬ s.modifies name st = true ∧
        ∀ slot ∈ left, s'.declares block name slot = false ∧ s'.modifies name slot = false) := by
  rcases h with ⟨forms, rfl, -⟩ | ⟨name', hmem, hused, inert⟩
  · exact Or.inl ⟨rfl, forms⟩
  refine Or.inr ⟨fun hd => ?_, fun hm => ?_, fun slot hslot =>
    ⟨(inert slot hslot).declares name, (inert slot hslot).modifies name⟩⟩
  · rcases hused with hd' | hm'
    · exact hname (Store.declares_unique hd hd' ▸ hmem)
    · exact Store.modifies_of_declares hd _ hm'
  · rcases hused with hd' | hm'
    · exact Store.modifies_of_declares hd' _ hm
    · exact hname (Store.modifies_unique hm hm' ▸ hmem)

/-- Of statements that change, those with a property are the same when no other statement gets
or had it. -/
theorem filter_flatMap_left {p p' : Slot → Bool}
    (h : ∀ st ∈ statements, (left st = [st] ∧ p' st = p st) ∨
      (p st = false ∧ ∀ slot ∈ left st, p' slot = false)) :
    (statements.flatMap left).filter p' = statements.filter p := by
  induction statements with
  | nil => rfl
  | cons st statements ih =>
      rw [List.flatMap_cons, List.filter_append, ih fun u hu => h u (by simp [hu])]
      rcases h st (by simp) with ⟨hleft, hp⟩ | ⟨hp, hleft⟩
      · rw [hleft, List.filter_cons, List.filter_cons, hp]
        cases p st <;> rfl
      · rw [List.filter_cons_of_neg (by simp [hp]), List.filter_eq_nil_iff.mpr]
        · rfl
        · exact fun slot hslot => by simp [hleft slot hslot]

/-- A draft that can be followed through the statements after its declaration can be followed
through what is left of them. -/
theorem Draft.follow_echo (hechoes : ∀ st ∈ statements, Echo s s' options block names st (left st))
    (hname : d.name ∉ names) {index index' position : Nat} (hpos : d.position ≤ index)
    (hpos' : position ≤ index') (h : ∃ o, d.follow s options block index statements = .ok o) :
    ∃ o, (d.moved position).follow s' options block index' (statements.flatMap left) = .ok o := by
  induction statements generalizing d index index' with
  | nil => exact ⟨_, rfl⟩
  | cons st statements ih =>
      have hrest := fun u (hu : u ∈ statements) => hechoes u (by simp [hu])
      obtain ⟨o, h⟩ := h
      rw [List.flatMap_cons]
      rcases (hechoes st (by simp)).of_not_mem hname with ⟨hleft, forms⟩ | ⟨-, hm, hleft⟩
      · rw [hleft]
        show ∃ o, (d.moved position).follow s' options block index' (st :: statements.flatMap left) = .ok o
        by_cases hm : s.modifies d.name st = true
        · have hm' : s'.modifies (d.moved position).name st = true := (forms.modifies _).trans hm
          rw [follow_cons, if_pos hm, verdict, if_neg (Nat.not_lt_of_le hpos)] at h
          have hlater : ¬ index' < (d.moved position).position := Nat.not_lt_of_le hpos'
          rw [follow_cons, if_pos hm', verdict, if_neg hlater, forms.absorb, absorb_moved]
          cases habsorb : d.absorb s options block st with
          | error fault =>
              rw [habsorb] at h
              cases h
          | ok r =>
              rw [habsorb] at h
              cases r with
              | none => exact ⟨none, rfl⟩
              | some d₁ =>
                  exact ih hrest (name_of_absorb habsorb ▸ hname)
                    (position_of_absorb habsorb ▸ Nat.le_succ_of_le hpos) (Nat.le_succ_of_le hpos') ⟨o, h⟩
        · have hm' : ¬ s'.modifies (d.moved position).name st = true := fun h =>
            hm ((forms.modifies _).symm.trans h)
          rw [follow_cons_of_not_modifies hm] at h
          rw [follow_cons_of_not_modifies hm']
          exact ih hrest hname (Nat.le_succ_of_le hpos) (Nat.le_succ_of_le hpos') ⟨o, h⟩
      · rw [follow_cons_of_not_modifies hm] at h
        rw [follow_append_of_unconcerned fun slot hslot => by
          rw [show (d.moved position).name = d.name from rfl, (hleft slot hslot).2]
          simp]
        exact ih hrest hname (Nat.le_succ_of_le hpos) (Nat.le_trans hpos' (Nat.le_add_right _ _))
          ⟨o, h⟩

/-! ## The second detection -/

/-- Tests that tell the statements which concern a function find the same ones as before. -/
theorem filter_echo (hechoes : ∀ st ∈ statements, Echo s s' options block names st (left st))
    (hname : name ∉ names) {p p' : Slot → Bool}
    (hsame : ∀ st, SameForms s s' options block st → p' st = p st)
    (hp : ∀ st, p st = true → s.declares block name st = true ∨ s.modifies name st = true)
    (hp' : ∀ st, p' st = true → s'.declares block name st = true ∨ s'.modifies name st = true) :
    (statements.flatMap left).filter p' = statements.filter p := by
  refine filter_flatMap_left fun st hst => ?_
  rcases (hechoes st hst).of_not_mem hname with ⟨hleft, forms⟩ | ⟨hd, hm, hleft⟩
  · exact Or.inl ⟨hleft, hsame st forms⟩
  · refine Or.inr ⟨(Bool.not_eq_true _).mp fun h => (hp st h).elim hd hm, fun slot hslot => ?_⟩
    obtain ⟨hd', hm'⟩ := hleft slot hslot
    refine (Bool.not_eq_true _).mp fun h => ?_
    rcases hp' slot h with h | h
    · rw [hd'] at h
      cases h
    · rw [hm'] at h
      cases h

/-- A function that is declared once among what is left was declared once before. -/
theorem DeclaredOnce.of_echo (hechoes : ∀ st ∈ statements, Echo s s' options block names st (left st))
    (hname : d.name ∉ names) (h : DeclaredOnce s' block 0 (statements.flatMap left) d) :
    ∃ before st after c, statements = before ++ st :: after ∧
      DeclaredOnce s block 0 statements ⟨c, 0 + before.length, false, none, []⟩ ∧
      s.declares block c.name st = true ∧ left st = [st] ∧
      d = (⟨c, 0 + before.length, false, none, []⟩ : Draft).moved (before.flatMap left).length := by
  have hfilter : (statements.flatMap left).filter (s'.declares block d.name) =
      statements.filter (s.declares block d.name) :=
    filter_echo hechoes hname (fun _ forms => forms.declares _) (fun _ => Or.inl) fun _ => Or.inl
  have hcount := exists_declaredOnce_iff.mp ⟨d, h, rfl⟩
  rw [List.countP_eq_length_filter, hfilter, ← List.countP_eq_length_filter] at hcount
  obtain ⟨d₀, hd₀, hn₀⟩ := exists_declaredOnce_iff.mpr hcount
  obtain ⟨before, st, after, c, rfl, hc, rfl, hothers⟩ := hd₀
  have hn₀ : c.name = d.name := hn₀
  have hdeclares : s.declares block d.name st = true := Store.declares_iff.mpr ⟨c, hc, hn₀⟩
  -- the declaring statement is as it was
  rcases (hechoes st (by simp)).of_not_mem hname with ⟨hleft, forms⟩ | ⟨hd, -, -⟩
  case inr => exact absurd hdeclares hd
  refine ⟨before, st, after, c, rfl, ⟨before, st, after, c, rfl, hc, rfl, hothers⟩,
    Store.declares_iff.mpr ⟨c, hc, rfl⟩, hleft, ?_⟩
  refine h.unique ⟨before.flatMap left, st, after.flatMap left, c, ?_, ?_, ?_, ?_⟩ hn₀.symm
  · rw [List.flatMap_append, List.flatMap_cons, hleft]
    rfl
  · rw [forms.declaration, hc]
  · simp [Draft.moved]
  · intro u hu
    rw [← List.flatMap_append] at hu
    obtain ⟨v, hv, hu⟩ := List.mem_flatMap.mp hu
    have hv' : v ∈ before ++ st :: after := by
      rcases List.mem_append.mp hv with hv | hv <;> simp [hv]
    rw [hn₀]
    rcases (hechoes v hv').of_not_mem hname with ⟨hleft, forms⟩ | ⟨-, -, hleft⟩
    · rw [hleft, List.mem_singleton] at hu
      rw [hu, forms.declares, ← hn₀]
      exact hothers v hv
    · simp [(hleft u hu).1]

/-- A function of one of the given names is declared no more. -/
theorem Echo.not_declares (hechoes : ∀ st ∈ statements, Echo s s' options block names st (left st))
    (hname : name ∈ names) (hslot : slot ∈ statements.flatMap left) :
    s'.declares block name slot = false := by
  obtain ⟨st, hst, hslot⟩ := List.mem_flatMap.mp hslot
  rcases hechoes st hst with ⟨forms, hleft, hother⟩ | ⟨-, -, -, inert⟩
  · rw [hleft, List.mem_singleton] at hslot
    rw [hslot, forms.declares]
    simpa using hother name hname
  · exact (inert slot hslot).declares name

theorem DeclaredOnce.not_mem_of_echo
    (hechoes : ∀ st ∈ statements, Echo s s' options block names st (left st))
    (h : DeclaredOnce s' block 0 (statements.flatMap left) d) : d.name ∉ names := by
  intro hname
  obtain ⟨u, hu, hd⟩ := h.declared
  rw [Echo.not_declares hechoes hname hu] at hd
  cases hd

/-- If no statement that is left modifies the prototype, then none did before. -/
theorem Echo.none_modifies (hechoes : ∀ st ∈ statements, Echo s s' options block names st (left st))
    (hname : name ∉ names) (h : (statements.flatMap left).any (s'.modifies name) = false) :
    statements.any (s.modifies name) = false := by
  rw [List.any_eq_false] at h ⊢
  intro st hst hm
  rcases (hechoes st hst).of_not_mem hname with ⟨hleft, forms⟩ | ⟨-, hno, -⟩
  · exact h st (List.mem_flatMap.mpr ⟨st, hst, by rw [hleft]; simp⟩) ((forms.modifies name).trans hm)
  · exact hno hm

/-- The draft of a function can be followed through what is left, if it could be followed before. -/
theorem DeclaredOnce.follow_echo
    (hechoes : ∀ st ∈ statements, Echo s s' options block names st (left st))
    (hfollowed : ∀ d, DeclaredOnce s block 0 statements d →
      ∃ o, d.follow s options block 0 statements = .ok o)
    (hd : DeclaredOnce s' block 0 (statements.flatMap left) d) :
    ∃ o, d.follow s' options block 0 (statements.flatMap left) = .ok o := by
  have hname := hd.not_mem_of_echo hechoes
  obtain ⟨before, st, after, c, rfl, hd₀, hdeclares, hleft, rfl⟩ := hd.of_echo hechoes hname
  have hname : c.name ∉ names := hname
  have hfollowed := hfollowed _ hd₀
  set d : Draft := ⟨c, 0 + before.length, false, none, []⟩
  -- the declaring statement is as it was, and modifies no prototype
  have hst := Store.modifies_of_declares hdeclares c.name
  have hst' : ¬ s'.modifies (d.moved (before.flatMap left).length).name st = true := by
    rcases (hechoes st (by simp)).of_not_mem hname with ⟨-, forms⟩ | ⟨hno, -⟩
    · exact fun hm => hst ((forms.modifies c.name).symm.trans hm)
    · exact absurd hdeclares hno
  rw [List.flatMap_append, List.flatMap_cons, hleft, List.singleton_append,
    Draft.follow_before (by rw [Nat.zero_add]; exact Nat.le_refl _)]
  cases hany' : (before.flatMap left).any (s'.modifies (d.moved (before.flatMap left).length).name) with
  | true => exact ⟨none, rfl⟩
  | false =>
      have hany : before.any (s.modifies d.name) = false :=
        Echo.none_modifies (fun u hu => hechoes u (by simp [hu])) hname hany'
      rw [Draft.follow_before (Nat.le_refl _), hany] at hfollowed
      simp only [Bool.false_eq_true, if_false] at hfollowed ⊢
      rw [Draft.follow_cons_of_not_modifies hst] at hfollowed
      rw [Draft.follow_cons_of_not_modifies hst']
      refine Draft.follow_echo (d := d) (fun u hu => hechoes u (by simp [hu])) hname ?_ ?_ hfollowed
      · exact Nat.le_succ _
      · rw [Nat.zero_add]
        exact Nat.le_succ _

/-- What was understood before is understood again. -/
theorem Understood.echo (h : Understood s options block)
    (hchildren : s'.children block = (s.children block).flatMap left)
    (hechoes : ∀ st ∈ s.children block, Echo s s' options block names st (left st)) :
    Understood s' options block where
  declarations := by
    rw [hchildren]
    intro slot hslot
    obtain ⟨st, hst, hslot⟩ := List.mem_flatMap.mp hslot
    rcases hechoes st hst with ⟨forms, hleft, -⟩ | ⟨-, -, -, inert⟩
    · rw [hleft, List.mem_singleton] at hslot
      rw [hslot, forms.declaration]
      exact h.declarations st hst
    · exact ⟨none, (inert slot hslot).1⟩
  owners := by
    rw [hchildren]
    rintro ⟨d, hd⟩ slot hslot
    obtain ⟨before, u, after, c, -, hd₀, -⟩ := hd.of_echo hechoes (hd.not_mem_of_echo hechoes)
    obtain ⟨st, hst, hslot⟩ := List.mem_flatMap.mp hslot
    rcases hechoes st hst with ⟨forms, hleft, -⟩ | ⟨-, -, -, inert⟩
    · rw [hleft, List.mem_singleton] at hslot
      rw [hslot, forms.owner]
      exact h.owners ⟨_, hd₀⟩ st hst
    · exact ⟨none, (inert slot hslot).2⟩
  followed := by
    rw [hchildren]
    exact fun d hd => hd.follow_echo hechoes h.followed

/-- If no statement that is left modifies the prototype before the declaration, then none did: the
statements that concern the function stand in the same order. -/
theorem before_of_echo (hechoes : ∀ st ∈ statements, Echo s s' options block names st (left st))
    (hname : name ∉ names)
    (h : (statements.flatMap left).Pairwise fun st later =>
      s'.modifies name st = true → ¬ s'.declares block name later = true) :
    statements.Pairwise fun st later =>
      s.modifies name st = true → ¬ s.declares block name later = true := by
  -- the pairs in question are pairs of statements that concern the function
  have hconcern : ((statements.flatMap left).filter fun st =>
        s'.modifies name st || s'.declares block name st) =
      statements.filter fun st => s.modifies name st || s.declares block name st :=
    filter_echo hechoes hname (fun st forms => by rw [forms.modifies, forms.declares])
      (fun st h => (Bool.or_eq_true_iff.mp h).symm) fun st h => (Bool.or_eq_true_iff.mp h).symm
  have hleft := h.filter fun st => s'.modifies name st || s'.declares block name st
  rw [hconcern] at hleft
  have hsame : ∀ st ∈ statements.filter fun st => s.modifies name st || s.declares block name st,
      SameForms s s' options block st := by
    intro st hst
    obtain ⟨hmem, hconcerned⟩ := List.mem_filter.mp hst
    rcases (hechoes st hmem).of_not_mem hname with ⟨-, forms⟩ | ⟨hd, hm, -⟩
    · exact forms
    · exact ((Bool.or_eq_true_iff.mp hconcerned).elim hm hd).elim
  have hbefore := hleft.imp_of_mem
    (S := fun st later => s.modifies name st = true → ¬ s.declares block name later = true)
    fun {x y} hx hy hxy hm hd =>
      hxy (((hsame x hx).modifies name).trans hm) (((hsame y hy).declares name).trans hd)
  exact (List.pairwise_filter.mp hbefore).imp fun h hm hd => h (by simp [hm]) (by simp [hd]) hm hd

/-- A change of the prototype that is still there is as it was. -/
theorem Echo.sameForms (hechoes : ∀ st ∈ statements, Echo s s' options block names st (left st))
    (hname : name ∉ names) (hst : st ∈ s.changes name statements) :
    s.modifies name st = true ∧ SameForms s s' options block st := by
  obtain ⟨hmem, hm⟩ := List.mem_filter.mp (List.mem_filter.mp hst).1
  rcases (hechoes st hmem).of_not_mem hname with ⟨-, forms⟩ | ⟨-, hn, -⟩
  · exact ⟨hm, forms⟩
  · exact absurd hm hn

/-- The prototype of a function that became no class is changed by the same statements. -/
theorem changes_echo (hechoes : ∀ st ∈ statements, Echo s s' options block names st (left st))
    (hname : name ∉ names) :
    s'.changes name (statements.flatMap left) = s.changes name statements := by
  rw [Store.changes, Store.changes, Store.owned, Store.owned, List.filter_filter, List.filter_filter]
  refine filter_echo hechoes hname (fun st forms => ?_) (fun st h => Or.inr ?_) fun st h => Or.inr ?_
  · rw [forms.resets, forms.modifies]
  · exact (Bool.and_eq_true_iff.mp h).2
  · exact (Bool.and_eq_true_iff.mp h).2

/-- A function becomes a class the second time only if it could have become one the first time
and did not. -/
theorem Converts.of_echo (h : Converts s' options block name)
    (hchildren : s'.children block = (s.children block).flatMap left)
    (hechoes : ∀ st ∈ s.children block, Echo s s' options block names st (left st)) :
    name ∉ names ∧ Converts s options block name := by
  have hname : name ∉ names := by
    intro hmem
    obtain ⟨d, hd, rfl⟩ := exists_declaredOnce_iff.mpr h.declaredOnce
    rw [hchildren] at hd
    exact hd.not_mem_of_echo hechoes hmem
  have hchanges : s'.changes name (s'.children block) = s.changes name (s.children block) := by
    rw [hchildren]
    exact changes_echo hechoes hname
  have hchanged : ∀ st ∈ s.changes name (s.children block), s.modifies name st = true ∧
      SameForms s s' options block st := fun st => Echo.sameForms hechoes hname
  -- the conditions are all about the changes, and these are the same statements as before
  obtain ⟨hdeclared, hfirst, hreplaced, honce, hallowed, hknown, hproductive⟩ := h
  rw [hchanges] at hreplaced honce hallowed hknown hproductive
  exact ⟨hname, {
    declaredOnce := by
      rw [hchildren, List.countP_eq_length_filter, filter_echo hechoes hname
        (fun st forms => forms.declares name) (fun _ => Or.inl) fun _ => Or.inl] at hdeclared
      rw [List.countP_eq_length_filter, hdeclared]
    declaredFirst := by
      rw [hchildren] at hfirst
      exact before_of_echo hechoes hname hfirst
    replacedFirst := by
      intro st hst hr
      refine hreplaced st hst ?_
      rwa [(hchanged st (List.mem_of_mem_tail hst)).2.replaces_eq]
    inheritsOnce := by
      rwa [List.countP_congr fun st hst => by rw [(hchanged st hst).2.inherits]] at honce
    inheritanceAllowed := by
      intro ho st hst hi
      refine hallowed ho st hst ?_
      rwa [(hchanged st hst).2.inherits]
    replacementKnown := by
      intro st hst hr
      obtain ⟨hm, forms⟩ := hchanged st (List.mem_of_mem_head? hst)
      have hm' : s'.modifies name st = true := (forms.modifies name).trans hm
      have hr' : s'.replaces st = true := forms.replaces_eq.trans hr
      rcases hknown st hst hr' with hi | htable
      · exact Or.inl (forms.inherits ▸ hi)
      · refine Or.inr ((Store.methodsOf_ne_nil_iff_of_replaces hm hr).mp ?_)
        rw [← forms.methodsOf]
        exact (Store.methodsOf_ne_nil_iff_of_replaces hm' hr').mpr htable
    productive := by
      obtain ⟨st, hst, h⟩ := hproductive
      obtain ⟨-, forms⟩ := hchanged st hst
      rw [forms.inherits, forms.methodsOf] at h
      exact ⟨st, hst, h⟩ }⟩

/-! ## Quiet containers -/

theorem Candidates.understood {candidates : List Candidate}
    (h : Candidates s options block (s.children block) candidates) :
    Understood s options block where
  declarations := h.declarations
  owners := h.owners
  followed := h.followed

namespace Quiet

/-- The detection finds nothing that can be made a class. -/
theorem detect_gives (h : Quiet s options block) :
    ∃ candidates, (detect s options block).Gives (.ok candidates) ∧
      candidates.filter Candidate.isTransformable = [] := by
  rcases ClassLift.detect_gives s options block with ⟨candidates, gives, hc⟩ | ⟨fault, -, hfault⟩
  · refine ⟨candidates, gives, List.eq_nil_iff_forall_not_mem.mpr fun c hmem => ?_⟩
    exact h.still c.name (hc.transformable_iff.mp (List.mem_map_of_mem hmem))
  · rcases hfault with ⟨st, hst, hst'⟩ | ⟨d, hd, st, hst, hst'⟩ | ⟨d, hd, hd'⟩
    · obtain ⟨o, ho⟩ := h.declarations st hst
      rw [ho] at hst'
      cases hst'
    · obtain ⟨o, ho⟩ := h.owners ⟨d, hd⟩ st hst
      rw [ho] at hst'
      cases hst'
    · obtain ⟨o, ho⟩ := h.followed d hd
      rw [ho] at hd'
      cases hd'

/-- A container stays quiet as long as the face of its statements is the same. -/
theorem of_sameFace (h : Quiet s options block) (hchildren : s'.children block = s.children block)
    (hface : SameFace s s' (s.children block)) : Quiet s' options block := by
  have hechoes : ∀ st ∈ s.children block, Echo s s' options block [] st [st] := fun st hst =>
    .same (hface.of_mem hst).forms rfl (by simp)
  have hsame : s'.children block = (s.children block).flatMap fun st => [st] := by
    rw [hchildren]
    exact (List.flatMap_singleton' _).symm
  exact ⟨h.toUnderstood.echo hsame hechoes, fun name hconverts =>
    h.still name (hconverts.of_echo hsame hechoes).2⟩

end Quiet

end ClassLift
