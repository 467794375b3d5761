import ClassLift.Proofs.Class.Draft

set_option autoImplicit false

/-! # Functions that are declared once

Among the statements of a block, `declarations` finds the functions that exactly one
statement declares. `declarations_findsAll` says so of the whole list: a draft is found if and
only if a statement declares it and no other statement declares a function of its name, and
its position is the index of that statement.
-/

namespace ClassLift

/-- Does the statement of `block` declare a function `name` that can be converted? -/
def Store.declares (s : Store) (block : Slot) (name : String) (statement : Slot) : Bool :=
  match s.declaration? block statement with
  | .ok (some c) => c.name == name
  | _ => false

theorem Store.declares_iff {s : Store} {block statement : Slot} {name : String} :
    s.declares block name statement = true ↔
      ∃ c, s.declaration? block statement = .ok (some c) ∧ c.name = name := by
  unfold declares
  split
  · rename_i c h
    simp [h]
  · rename_i h
    constructor
    · intro hf; cases hf
    · rintro ⟨c, hc, -⟩; exact absurd hc (h c)

/-- **The three forms of a declaration**: a function of this name, an export of one, and a variable
of this name that is alone and is assigned a function. -/
theorem Store.declares_iff_form {s : Store} {block statement : Slot} {name : String} :
    s.declares block name statement = true ↔
      s.IsFunctionNamed name statement ∨
        (s.hasKind Kind.exportDecl statement = true ∧
          ∃ first rest, s.children statement = first :: rest ∧ s.IsFunctionNamed name first) ∨
        (s.hasKind Kind.varDecl statement = true ∧
          ∃ assignment target value, s.children statement = [assignment] ∧
            s.isAssign assignment = .ok true ∧ s.children assignment = [target, value] ∧
            s.isToken Kind.text name target = true ∧ s.isConvertible value = .ok true) := by
  rw [declares_iff]
  constructor
  · rintro ⟨c, hc, rfl⟩
    rcases declaration_eq_some_iff.mp hc with hf | ⟨hexport, first, rest, hchildren, hf⟩ | hv
    · exact Or.inl hf.toIsFunctionNamed
    · exact Or.inr (Or.inl ⟨hexport, first, rest, hchildren, hf.toIsFunctionNamed⟩)
    · obtain ⟨hvar, assignment, target, value, hchildren, hassign, hparts, htext, hvalue, -⟩ := hv
      exact Or.inr (Or.inr ⟨hvar, assignment, target, value, hchildren, hassign, hparts, htext, hvalue⟩)
  · rintro (hf | ⟨hexport, first, rest, hchildren, hf⟩ |
      ⟨hvar, assignment, target, value, hchildren, hassign, hparts, htext, hvalue⟩)
    · let c : Candidate := .start name ⟨"constructor", statement, statement, [], block, ""⟩ statement
        [statement] block
      have hplain : s.IsFunctionIn block statement c := ⟨hf, rfl⟩
      exact ⟨c, declaration_eq_some_iff.mpr (Or.inl hplain), rfl⟩
    · let c : Candidate := .start name ⟨"constructor", first, first, [], statement, ""⟩ first [first]
        statement
      have hplain : s.IsFunctionIn statement first c := ⟨hf, rfl⟩
      exact ⟨c, declaration_eq_some_iff.mpr (Or.inr (Or.inl ⟨hexport, first, rest, hchildren, hplain⟩)),
        rfl⟩
    · let c : Candidate := .start name ⟨"constructor", value, value, [], assignment, ""⟩ statement
        [statement] block
      have hv : s.IsVariableIn block statement c :=
        ⟨hvar, assignment, target, value, hchildren, hassign, hparts, htext, hvalue, rfl⟩
      exact ⟨c, declaration_eq_some_iff.mpr (Or.inr (Or.inr hv)), rfl⟩

/-- A statement declares one function at most. -/
theorem Store.declares_unique {s : Store} {block statement : Slot} {name name' : String}
    (h : s.declares block name statement = true) (h' : s.declares block name' statement = true) :
    name = name' := by
  obtain ⟨c, hc, hname⟩ := declares_iff.mp h
  obtain ⟨c', hc', hname'⟩ := declares_iff.mp h'
  rw [hc'] at hc
  cases hc
  exact hname.symm.trans hname'

/-- The draft is that of a function which one of the statements declares, and no other one. -/
def DeclaredOnce (s : Store) (block : Slot) (index : Nat) (statements : List Slot) (d : Draft) :
    Prop :=
  ∃ before statement after c, statements = before ++ statement :: after ∧
    s.declaration? block statement = .ok (some c) ∧
    d = ⟨c, index + before.length, false, none, []⟩ ∧
    ∀ u ∈ before ++ after, ¬ s.declares block c.name u = true

section

variable {s : Store} {block : Slot} {index : Nat} {drafts : List Draft} {rejected : List String}
  {statement : Slot} {statements : List Slot} {d : Draft} {c : Candidate}

theorem DeclaredOnce.declared (h : DeclaredOnce s block index statements d) :
    ∃ u ∈ statements, s.declares block d.name u = true := by
  obtain ⟨before, u, after, c, rfl, hc, rfl, -⟩ := h
  exact ⟨u, by simp, Store.declares_iff.mpr ⟨c, hc, rfl⟩⟩

theorem declaredOnce_cons_of_none (h : s.declaration? block statement = .ok none) :
    DeclaredOnce s block index (statement :: statements) d ↔
      DeclaredOnce s block (index + 1) statements d := by
  have hn : ∀ name, ¬ s.declares block name statement = true := by
    intro name hd
    obtain ⟨c, hc, -⟩ := Store.declares_iff.mp hd
    rw [h] at hc
    cases hc
  constructor
  · rintro ⟨before, u, after, c, hs, hc, rfl, hu⟩
    cases before with
    | nil =>
        cases hs
        rw [h] at hc
        cases hc
    | cons first before =>
        cases hs
        refine ⟨before, u, after, c, rfl, hc, ?_, fun v hv => hu v (by simp [List.mem_append.mp hv])⟩
        rw [List.length_cons, Nat.add_right_comm, Nat.add_assoc]
  · rintro ⟨before, u, after, c, rfl, hc, rfl, hu⟩
    refine ⟨statement :: before, u, after, c, rfl, hc, ?_, ?_⟩
    · rw [List.length_cons, Nat.add_right_comm, Nat.add_assoc]
    · intro v hv
      rcases List.mem_cons.mp hv with rfl | hv
      · exact hn _
      · exact hu v hv

theorem declaredOnce_cons (h : s.declaration? block statement = .ok (some c)) :
    DeclaredOnce s block index (statement :: statements) d ↔
      (d = ⟨c, index, false, none, []⟩ ∧ ∀ u ∈ statements, ¬ s.declares block c.name u = true) ∨
        (DeclaredOnce s block (index + 1) statements d ∧ d.name ≠ c.name) := by
  constructor
  · rintro ⟨before, u, after, c', hs, hc, rfl, hu⟩
    -- the draft is that of the first statement, or of a later one
    cases before with
    | nil =>
        cases hs
        rw [h] at hc
        cases hc
        exact Or.inl ⟨rfl, hu⟩
    | cons first before =>
        cases hs
        refine Or.inr ⟨⟨before, u, after, c', rfl, hc, ?_, fun v hv => hu v (by simp [List.mem_append.mp hv])⟩, ?_⟩
        · rw [List.length_cons, Nat.add_right_comm, Nat.add_assoc]
        · intro hname
          exact hu statement (by simp) (Store.declares_iff.mpr ⟨c, h, hname.symm⟩)
  · rintro (⟨rfl, hu⟩ | ⟨⟨before, u, after, c', rfl, hc, rfl, hu⟩, hname⟩)
    · exact ⟨[], statement, statements, c, rfl, h, rfl, hu⟩
    · refine ⟨statement :: before, u, after, c', rfl, hc, ?_, ?_⟩
      · rw [List.length_cons, Nat.add_right_comm, Nat.add_assoc]
      · intro v hv
        rcases List.mem_cons.mp hv with rfl | hv
        · intro hd
          obtain ⟨c'', hc'', hn⟩ := Store.declares_iff.mp hd
          rw [h] at hc''
          cases hc''
          exact hname hn.symm
        · exact hu v hv

/-- The drafts found among the statements, after those in `drafts`. -/
structure Finds (s : Store) (block : Slot) (index : Nat) (drafts : List Draft)
    (rejected : List String) (statements : List Slot) (found : List Draft) : Prop where
  distinct : (found.map Draft.name).Nodup
  mem_iff : ∀ d, d ∈ found ↔
    (d ∈ drafts ∧ ∀ u ∈ statements, ¬ s.declares block d.name u = true) ∨
      (DeclaredOnce s block index statements d ∧ d.name ∉ drafts.map Draft.name ∧
        d.name ∉ rejected)

theorem Finds.cons_of_none {found : List Draft} (h : s.declaration? block statement = .ok none)
    (hf : Finds s block (index + 1) drafts rejected statements found) :
    Finds s block index drafts rejected (statement :: statements) found where
  distinct := hf.distinct
  mem_iff d := by
    have hn : ¬ s.declares block d.name statement = true := by
      intro hd
      obtain ⟨c, hc, -⟩ := Store.declares_iff.mp hd
      rw [h] at hc
      cases hc
    rw [hf.mem_iff, declaredOnce_cons_of_none h, List.forall_mem_cons]
    simp [hn]

theorem Finds.cons_of_again {found : List Draft} (h : s.declaration? block statement = .ok (some c))
    (again : c.name ∈ drafts.map Draft.name ∨ c.name ∈ rejected)
    (hf : Finds s block (index + 1) (Draft.drop c.name drafts) (c.name :: rejected) statements
      found) :
    Finds s block index drafts rejected (statement :: statements) found where
  distinct := hf.distinct
  mem_iff d := by
    -- the statement takes every draft of its name away, and keeps it away
    have hd : s.declares block d.name statement = true ↔ d.name = c.name := by
      rw [Store.declares_iff, h]
      simp [eq_comm]
    rw [hf.mem_iff, declaredOnce_cons h, List.forall_mem_cons, hd]
    have hdrop : d ∈ Draft.drop c.name drafts ↔ d ∈ drafts ∧ d.name ≠ c.name := by
      simp [Draft.drop]
    have hnames : d.name ∈ (Draft.drop c.name drafts).map Draft.name ↔
        d.name ∈ drafts.map Draft.name ∧ d.name ≠ c.name := by
      simp only [Draft.drop, List.mem_map, List.mem_filter, decide_eq_true_eq]
      constructor
      · rintro ⟨e, ⟨he, hne⟩, hn⟩
        exact ⟨⟨e, he, hn⟩, hn ▸ hne⟩
      · rintro ⟨⟨e, he, hn⟩, hne⟩
        exact ⟨e, ⟨he, hn.symm ▸ hne⟩, hn⟩
    rw [hdrop, hnames, List.mem_cons]
    by_cases hn : d.name = c.name
    · have : ¬ (d = ⟨c, index, false, none, []⟩ ∧
          (d.name ∉ drafts.map Draft.name ∧ d.name ∉ rejected)) := by
        rintro ⟨-, h1, h2⟩
        rw [hn] at h1 h2
        exact again.elim h1 h2
      grind
    · have : d ≠ ⟨c, index, false, none, []⟩ := fun hd => hn (by rw [hd]; rfl)
      grind

theorem Finds.cons_of_new {found : List Draft} (h : s.declaration? block statement = .ok (some c))
    (new : c.name ∉ drafts.map Draft.name) (unrejected : c.name ∉ rejected)
    (hf : Finds s block (index + 1) (drafts ++ [⟨c, index, false, none, []⟩]) rejected statements
      found) :
    Finds s block index drafts rejected (statement :: statements) found where
  distinct := hf.distinct
  mem_iff d := by
    have hd : s.declares block d.name statement = true ↔ d.name = c.name := by
      rw [Store.declares_iff, h]
      simp [eq_comm]
    rw [hf.mem_iff, declaredOnce_cons h, List.forall_mem_cons, hd]
    have hmem : d ∈ drafts → d.name ≠ c.name := fun hd hn =>
      new (hn ▸ List.mem_map_of_mem hd)
    have hnames : d.name ∈ (drafts ++ [(⟨c, index, false, none, []⟩ : Draft)]).map Draft.name ↔
        d.name ∈ drafts.map Draft.name ∨ d.name = c.name := by
      rw [List.map_append, List.mem_append]
      simp [Draft.name]
    rw [hnames, List.mem_append, List.mem_singleton]
    by_cases hn : d = ⟨c, index, false, none, []⟩
    · have : d.name = c.name := by rw [hn]; rfl
      grind
    · grind

/-- What the computation `e` gives is the drafts found among the statements, when every
statement is understood; else it stops with the fault of a statement. -/
def FindsAll (s : Store) (block : Slot) (index : Nat) (drafts : List Draft)
    (rejected : List String) (statements : List Slot) (e : Detect (List Draft)) : Prop :=
  ((∀ st ∈ statements, ∃ o, s.declaration? block st = .ok o) ∧
      ∃ found, Finds s block index drafts rejected statements found ∧ e.Gives (.ok found)) ∨
    ∃ fault, (∃ st ∈ statements, s.declaration? block st = .error fault) ∧
      e.Gives (.error fault)

theorem FindsAll.cons {drafts' : List Draft} {rejected' : List String} {o : Option Candidate}
    {e e' : Detect (List Draft)}
    (h : FindsAll s block (index + 1) drafts' rejected' statements e)
    (ho : s.declaration? block statement = .ok o)
    (step : ∀ found, Finds s block (index + 1) drafts' rejected' statements found →
      Finds s block index drafts rejected (statement :: statements) found)
    (run : ∀ r, e.Gives r → e'.Gives r) :
    FindsAll s block index drafts rejected (statement :: statements) e' := by
  rcases h with ⟨all, found, hf, gives⟩ | ⟨fault, ⟨u, hu, h⟩, gives⟩
  · exact Or.inl ⟨List.forall_mem_cons.mpr ⟨⟨o, ho⟩, all⟩, found, step found hf, run _ gives⟩
  · exact Or.inr ⟨fault, ⟨u, List.mem_cons_of_mem _ hu, h⟩, run _ gives⟩

theorem declarations_findsAll (distinct : (drafts.map Draft.name).Nodup) :
    FindsAll s block index drafts rejected statements
      (declarations s block index drafts rejected statements) := by
  induction statements generalizing index drafts rejected with
  | nil =>
      refine Or.inl ⟨by simp, drafts, ⟨distinct, fun d => ?_⟩, Detect.Gives.pure _⟩
      simp [DeclaredOnce]
  | cons st statements ih =>
      unfold declarations
      cases ho : s.declaration? block st with
      | error fault => exact Or.inr ⟨fault, ⟨st, by simp, ho⟩, .bind_error (.lift _)⟩
      | ok o =>
          cases o with
          | none =>
              exact (ih distinct).cons ho (fun _ => .cons_of_none ho)
                fun _ hr => .bind (.lift _) hr
          | some c =>
              obtain ⟨l, hl⟩ := Store.label_of_declaration ho
              -- a name that was met before is rejected, and with it the draft it had
              by_cases hc : (drafts.any (·.name = c.name) || rejected.contains c.name) = true
              · have again : c.name ∈ drafts.map Draft.name ∨ c.name ∈ rejected := by
                  simpa using hc
                refine (ih (distinct.sublist (List.filter_sublist.map _))).cons ho
                  (fun _ => .cons_of_again ho again) fun _ hr => .bind (.lift _) ?_
                dsimp only
                rw [if_pos hc]
                exact .bind (.warn hl _ _) hr
              · have new : c.name ∉ drafts.map Draft.name ∧ c.name ∉ rejected := by
                  simpa [not_or] using hc
                have distinct' : ((drafts ++ [(⟨c, index, false, none, []⟩ : Draft)]).map
                    Draft.name).Nodup := by
                  rw [List.map_append, List.nodup_append]
                  refine ⟨distinct, by simp, fun a ha b hb hab => new.1 ?_⟩
                  have : b = c.name := by simpa [Draft.name] using hb
                  rw [← this, ← hab]
                  exact ha
                refine (ih distinct').cons ho (fun _ => .cons_of_new ho new.1 new.2)
                  fun _ hr => .bind (.lift _) ?_
                dsimp only
                rw [if_neg hc]
                exact hr

end

end ClassLift
