import ClassLift.Proofs.Class.Remarks

set_option autoImplicit false

/-! # Why a function is not made a class

Whether a function that is declared once is given up, and by which statement, is told by the
statements alone: `Store.refusal?` is the kind of the warning with which a statement makes the
class be given up, when those before it did not. The statements up to there are the *regarded* ones,
and what they give is what was collected for the class (`collected`, `inheritsAny`).

`remarks_of_declaredOnce` derives from it all that is remarked on a function that is declared once.
-/

namespace ClassLift

open List

namespace Store

variable (s : Store) (options : Options) (block : Slot) (name : String)

/-- The kind of the warning with which a statement makes the class `name` be given up, when the
statements `before` it did not. -/
def refusal? (before : List Slot) (statement : Slot) : Option Warning :=
  if !s.modifies name statement then none
  else if !before.any (s.declares block name) then some .beforeDeclaration
  else if s.resets name statement then none
  else if s.replaces statement && !(s.changes name before).isEmpty then some .unsupportedPrototype
  else if s.inherits statement then
    if !options.inheritance then some .unsupportedPrototype
    else if (s.owned name before).any s.inherits then some .multipleInheritance
    else none
  else if s.replaces statement && (s.methodsOf options block statement).isEmpty then
    some .unsupportedPrototype
  else none

/-- The statements before the one that makes the class be given up, and the kind of its warning;
all statements when none does. -/
def regard (before : List Slot) : List Slot → List Slot × Option Warning
  | [] => (before, none)
  | statement :: statements =>
    match s.refusal? options block name before statement with
    | some w => (before, some w)
    | none => regard (before ++ [statement]) statements

/-- The statements of the block that are regarded for the class `name`. -/
def regarded : List Slot := (s.regard options block name [] (s.children block)).1

/-- The kind of the warning with which the class `name` is given up, if it is. -/
def rejection? : Option Warning := (s.regard options block name [] (s.children block)).2

/-- The methods that some statements give the class `name`. -/
def givenBy (statements : List Slot) : List Method :=
  (s.owned name statements).flatMap (s.methodsOf options block)

/-- The methods that were collected for the class `name`, until it was given up if it was. -/
def collected : List Method := s.givenBy options block name (s.regarded options block name)

/-- Was a super class collected for the class `name`? -/
def inheritsAny : Bool := (s.owned name (s.regarded options block name)).any s.inherits

/-- How often the statements that are regarded for the class `name` give a method of a name that
was given before. -/
def overwritten : List String :=
  recurring [] ((s.collected options block name).map Method.name)

end Store

variable {s : Store} {options : Options} {block st : Slot} {name : String} {d d' : Draft}
  {before statements : List Slot} {r : Option Draft}

namespace Store

theorem owned_append_of_modifies (before : List Slot) (h : s.modifies name st = true) :
    s.owned name (before ++ [st]) = s.owned name before ++ [st] := by
  rw [owned, List.filter_append, List.filter_singleton, h]
  rfl

theorem owned_append_of_not_modifies (before : List Slot) (h : ¬ s.modifies name st = true) :
    s.owned name (before ++ [st]) = s.owned name before := by
  rw [owned, List.filter_append, List.filter_cons_of_neg h, List.filter_nil, List.append_nil]
  rfl

theorem inherits_of_resets (h : s.resets name st = true) : s.inherits st = false := by
  rw [inherits, superOf_of_resets h]
  rfl

/-- Resets give nothing, so what the statements of a class give is given by changes. -/
theorem gives_iff_exists_change :
    (s.givenBy options block name statements ≠ [] ∨
        (s.owned name statements).any s.inherits = true) ↔
      ∃ st ∈ s.changes name statements,
        s.inherits st = true ∨ s.methodsOf options block st ≠ [] := by
  rw [givenBy, Ne, List.flatMap_eq_nil_iff, List.any_eq_true]
  constructor
  · rintro (hm | ⟨st, hst, hi⟩)
    · push Not at hm
      obtain ⟨st, hst, hne⟩ := hm
      refine ⟨st, List.mem_filter.mpr ⟨hst, ?_⟩, Or.inr hne⟩
      cases hreset : s.resets name st with
      | false => rfl
      | true => exact absurd (methodsOf_of_resets hreset) hne
    · refine ⟨st, List.mem_filter.mpr ⟨hst, ?_⟩, Or.inl hi⟩
      cases hreset : s.resets name st with
      | false => rfl
      | true =>
          rw [inherits_of_resets hreset] at hi
          cases hi
  · rintro ⟨st, hst, hi | hne⟩
    · exact Or.inr ⟨st, (List.mem_filter.mp hst).1, hi⟩
    · exact Or.inl fun hall => hne (hall st (List.mem_filter.mp hst).1)

end Store

namespace Draft

/-! ## Drafts and the statements behind them -/

/-- What the draft holds is what the statements of its class give. -/
structure Holds (s : Store) (options : Options) (block : Slot) (d : Draft) (before : List Slot) :
    Prop where
  touched : d.touched = !(s.changes d.name before).isEmpty
  inherited : d.superClass.isSome = (s.owned d.name before).any s.inherits
  methods : d.candidate.methods = s.givenBy options block d.name before

theorem Holds.unconcerned (h : d.Holds s options block before)
    (hm : ¬ s.modifies d.name st = true) : d.Holds s options block (before ++ [st]) := by
  obtain ⟨touched, inherited, methods⟩ := h
  have howned := Store.owned_append_of_not_modifies before hm
  refine ⟨?_, ?_, ?_⟩
  · rw [touched, Store.changes, Store.changes, howned]
  · rw [inherited, howned]
  · rw [methods, Store.givenBy, Store.givenBy, howned]

theorem Holds.reset (h : d.Holds s options block before) (hm : s.modifies d.name st = true)
    (hreset : s.resets d.name st = true) :
    ({ d with related := d.related ++ [(block, st)] } : Draft).Holds s options block
      (before ++ [st]) := by
  obtain ⟨touched, inherited, methods⟩ := h
  have howned := Store.owned_append_of_modifies before hm
  have hchanges : s.changes d.name (before ++ [st]) = s.changes d.name before := by
    rw [Store.changes, howned, List.filter_append, List.filter_cons_of_neg (by simp [hreset]),
      List.filter_nil, List.append_nil]
    rfl
  refine ⟨?_, ?_, ?_⟩
  · show d.touched = !(s.changes d.name (before ++ [st])).isEmpty
    rw [touched, hchanges]
  · show d.superClass.isSome = (s.owned d.name (before ++ [st])).any s.inherits
    rw [inherited, howned, List.any_append, List.any_cons, Store.inherits_of_resets hreset]
    simp
  · show d.candidate.methods = s.givenBy options block d.name (before ++ [st])
    rw [methods, Store.givenBy, Store.givenBy, howned, List.flatMap_append, List.flatMap_singleton,
      Store.methodsOf_of_resets hreset, List.append_nil]

theorem Holds.grow (h : d.Holds s options block before) (hm : s.modifies d.name st = true)
    (hreset : s.resets d.name st = false) :
    (d.grow s options block st).Holds s options block (before ++ [st]) := by
  obtain ⟨touched, inherited, methods⟩ := h
  have howned := Store.owned_append_of_modifies before hm
  have hname : (d.grow s options block st).name = d.name := rfl
  refine ⟨?_, ?_, ?_⟩
  · rw [hname, Store.changes, howned, List.filter_append, List.filter_cons_of_pos (by simp [hreset])]
    simp [Draft.grow]
  · rw [hname, isSome_superClass_grow, inherited, howned, List.any_append, Bool.or_comm]
    simp
  · rw [hname, Store.givenBy, howned, List.flatMap_append, List.flatMap_singleton]
    show d.candidate.methods ++ _ = _
    rw [methods, Store.givenBy]

/-- Whether the declaration stands before a statement about the prototype is told by the index. -/
theorem declared_before_iff {after : List Slot} (hd : DeclaredOnce s block 0 (before ++ st :: after) d)
    (hm : s.modifies name st = true) :
    before.any (s.declares block d.name) = true ↔ d.position ≤ before.length := by
  obtain ⟨first, declaring, last, c, he, hc, rfl, hothers⟩ := hd
  have hdeclares : s.declares block c.name declaring = true := Store.declares_iff.mpr ⟨c, hc, rfl⟩
  have hne : st ≠ declaring := by
    rintro rfl
    exact Store.modifies_of_declares hdeclares name hm
  show before.any (s.declares block c.name) = true ↔ 0 + first.length ≤ before.length
  rw [Nat.zero_add]
  rcases List.append_eq_append_iff.mp he with ⟨more, rfl, hmore⟩ | ⟨more, rfl, hmore⟩
  · -- the declaration stands after the statement
    cases more with
    | nil =>
        cases hmore
        exact absurd rfl hne
    | cons u more =>
        have hnone : before.any (s.declares block c.name) = false :=
          List.any_eq_false.mpr fun v hv => hothers v (by simp [hv])
        rw [hnone, List.length_append, List.length_cons]
        simp
  · cases more with
    | nil =>
        cases hmore
        exact absurd rfl hne
    | cons u more =>
        cases hmore
        rw [List.any_append, List.any_cons, hdeclares, List.length_append]
        simp

/-! ## One statement -/

/-- A statement after the declaration that is no reset makes a draft be given up with the same
warning that the statements before it tell. -/
theorem refusal_of_after (h : d.Holds s options block before) (hm : s.modifies d.name st = true)
    (hdeclared : before.any (s.declares block d.name) = true) (hreset : s.resets d.name st = false)
    (hpos : ¬ before.length < d.position) :
    s.refusal? options block d.name before st =
      if d.refuses s options block st then some (d.complaint s options before.length st)
      else none := by
  obtain ⟨touched, inherited, -⟩ := h
  unfold Store.refusal? refuses complaint
  rw [hm, hdeclared, hreset, if_neg hpos, ← touched, ← inherited]
  cases s.replaces st <;> cases s.inherits st <;> cases d.touched <;> cases options.inheritance <;>
    cases d.superClass.isSome <;> cases (s.methodsOf options block st).isEmpty <;> rfl

/-- What a statement leaves of a draft, and what the statements before it tell. -/
theorem refusal_of_verdict (h : d.Holds s options block before) (hm : s.modifies d.name st = true)
    (hdeclared : before.any (s.declares block d.name) = true ↔ d.position ≤ before.length)
    (hv : d.verdict s options block before.length st = .ok r) :
    (r = none → s.refusal? options block d.name before st =
        some (d.complaint s options before.length st)) ∧
      ∀ d', r = some d' → s.refusal? options block d.name before st = none ∧
        d'.Holds s options block (before ++ [st]) ∧ d'.position = d.position := by
  unfold verdict at hv
  -- a statement before the declaration is refused
  by_cases hpos : before.length < d.position
  · rw [if_pos hpos] at hv
    cases hv
    have hbefore : before.any (s.declares block d.name) = false := by
      rw [← Bool.not_eq_true, hdeclared]
      omega
    refine ⟨fun _ => ?_, fun d' hd' => (by cases hd')⟩
    simp [Store.refusal?, hm, hbefore, complaint, hpos]
  rw [if_neg hpos] at hv
  have hbefore : before.any (s.declares block d.name) = true := hdeclared.mpr (by omega)
  -- one that resets the constructor is absorbed; the others are, where they are not refused
  cases hreset : s.resets d.name st with
  | true =>
      rw [absorb_of_resets hreset] at hv
      cases hv
      refine ⟨fun hr => (by cases hr), fun d' hd' => ?_⟩
      cases hd'
      exact ⟨by simp [Store.refusal?, hm, hbefore, hreset], h.reset hm hreset, rfl⟩
  | false =>
      rw [refusal_of_after h hm hbefore hreset hpos]
      have hr := absorb_eq_ok hreset hv
      cases hrefuse : d.refuses s options block st with
      | true =>
          rw [hrefuse] at hr
          subst hr
          exact ⟨fun _ => rfl, fun d' hd' => (by cases hd')⟩
      | false =>
          rw [hrefuse] at hr
          subst hr
          refine ⟨fun hr => (by cases hr), fun d' hd' => ?_⟩
          cases hd'
          exact ⟨rfl, h.grow hm hreset, rfl⟩

/-! ## All statements -/

/-- The draft, the statements before it and those that follow: what is left of it, and what is
remarked. -/
structure Follows (s : Store) (options : Options) (block : Slot) (d : Draft)
    (before statements : List Slot) (r : Option Draft) : Prop where
  /-- A draft is left if and only if no statement makes it be given up. -/
  left_iff : r.isSome = true ↔ (s.regard options block d.name before statements).2 = none
  /-- Then all statements are regarded. -/
  all : ∀ d', r = some d' → (s.regard options block d.name before statements).1 = before ++ statements
  /-- With the methods that the draft has already, the remarks are those on all methods given by
  the regarded statements, and the warning with which the draft is given up. -/
  remarks :
    remarksOf .duplicateMethod
        (recurring [] ((s.givenBy options block d.name before).map Method.name)) ++
      d.remarks s options block before.length statements =
    remarksOf .duplicateMethod
        (recurring []
          ((s.givenBy options block d.name (s.regard options block d.name before statements).1).map
            Method.name)) ++
      (s.regard options block d.name before statements).2.toList.map (·, d.name)

theorem Follows.unconcerned (hm : ¬ s.modifies d.name st = true)
    (h : Follows s options block d (before ++ [st]) statements r) :
    Follows s options block d before (st :: statements) r := by
  have hnone : s.refusal? options block d.name before st = none := by simp [Store.refusal?, hm]
  have hregard : s.regard options block d.name before (st :: statements) =
      s.regard options block d.name (before ++ [st]) statements := by rw [Store.regard, hnone]
  have howned := Store.owned_append_of_not_modifies before hm
  obtain ⟨left_iff, all, remarks⟩ := h
  refine ⟨by rw [hregard]; exact left_iff, fun d' hd' => ?_, ?_⟩
  · rw [hregard, all d' hd', List.append_assoc, List.singleton_append]
  · rw [hregard, ← remarks, remarks_cons_of_not_modifies hm, Store.givenBy, Store.givenBy, howned,
      List.length_append, List.length_singleton]

theorem Follows.rejected (hm : s.modifies d.name st = true)
    (hv : d.verdict s options block before.length st = .ok none)
    (hrefusal : s.refusal? options block d.name before st =
      some (d.complaint s options before.length st)) :
    Follows s options block d before (st :: statements) none := by
  have hregard : s.regard options block d.name before (st :: statements) =
      (before, some (d.complaint s options before.length st)) := by rw [Store.regard, hrefusal]
  refine ⟨by rw [hregard]; simp, fun d' hd' => (by cases hd'), ?_⟩
  rw [hregard, remarks_cons_of_rejected hm hv]
  rfl

theorem Follows.changed (h : d.Holds s options block before) (hm : s.modifies d.name st = true)
    (hv : d.verdict s options block before.length st = .ok (some d'))
    (hrefusal : s.refusal? options block d.name before st = none)
    (hnext : Follows s options block d' (before ++ [st]) statements r) :
    Follows s options block d before (st :: statements) r := by
  have hname : d'.name = d.name := name_of_verdict hv
  have hregard : s.regard options block d.name before (st :: statements) =
      s.regard options block d.name (before ++ [st]) statements := by rw [Store.regard, hrefusal]
  obtain ⟨left_iff, all, remarks⟩ := hnext
  rw [hname] at left_iff all remarks
  refine ⟨by rw [hregard]; exact left_iff, fun d' hd' => ?_, ?_⟩
  · rw [hregard, all d' hd', List.append_assoc, List.singleton_append]
  · -- the methods of the statement come after those that the draft has
    have hmethods : (s.givenBy options block d.name (before ++ [st])).map Method.name =
        d.candidate.methods.map Method.name ++
          (s.methodsOf options block st).map Method.name := by
      rw [Store.givenBy, Store.owned_append_of_modifies before hm, List.flatMap_append,
        List.flatMap_singleton, List.map_append, h.methods, Store.givenBy]
    rw [hregard, ← remarks, remarks_cons_of_verdict hm hv, hmethods, recurring_append,
      List.nil_append, ← h.methods, remarksAt, remarksOf, remarksOf, remarksOf, List.map_append,
      List.append_assoc, List.length_append, List.length_singleton]

/-- A draft that is followed. -/
theorem follows {d₀ : Draft} (hd : DeclaredOnce s block 0 (before ++ statements) d₀)
    (hname : d.name = d₀.name) (hpos : d.position = d₀.position)
    (h : d.Holds s options block before)
    (hfollow : d.follow s options block before.length statements = .ok r) :
    Follows s options block d before statements r := by
  -- the draft changes from statement to statement, its name and its position do not
  induction statements generalizing before d with
  | nil =>
      cases hfollow
      refine ⟨by simp [Store.regard], fun d' _ => by simp [Store.regard], ?_⟩
      simp [Store.regard, Draft.remarks]
  | cons st statements ih =>
      have hd' : DeclaredOnce s block 0 ((before ++ [st]) ++ statements) d₀ := by
        rwa [List.append_assoc, List.singleton_append]
      have hlength : (before ++ [st]).length = before.length + 1 := by simp
      by_cases hm : s.modifies d.name st = true
      case neg =>
        rw [follow_cons_of_not_modifies hm, ← hlength] at hfollow
        exact .unconcerned hm (ih hd' hname hpos (h.unconcerned hm) hfollow)
      have hdeclared := declared_before_iff hd hm
      rw [← hname, ← hpos] at hdeclared
      cases hv : d.verdict s options block before.length st with
      | error fault =>
          rw [follow_cons, if_pos hm, hv] at hfollow
          cases hfollow
      | ok v =>
          obtain ⟨hnone, hsome⟩ := refusal_of_verdict h hm hdeclared hv
          cases v with
          | none =>
              rw [follow_cons_of_rejected hm hv] at hfollow
              cases hfollow
              exact .rejected hm hv (hnone rfl)
          | some d' =>
              obtain ⟨hrefusal, hholds, hpos'⟩ := hsome d' rfl
              rw [follow_cons_of_verdict hm hv, ← hlength] at hfollow
              exact .changed h hm hv hrefusal (ih hd' ((name_of_verdict hv).trans hname)
                (hpos'.trans hpos) hholds hfollow)

end Draft

/-! ## Functions that are declared once -/

/-- All remarks on a function that is declared once: on the methods that are given again, and why it
is given up if it is. -/
def Store.remarksOn (s : Store) (options : Options) (block : Slot) (name : String) : List Remark :=
  remarksOf .duplicateMethod (s.overwritten options block name) ++
    (s.rejection? options block name).toList.map (·, name)

theorem DeclaredOnce.follows (hd : DeclaredOnce s block 0 (s.children block) d)
    (hfollow : d.follow s options block 0 (s.children block) = .ok r) :
    Draft.Follows s options block d [] (s.children block) r := by
  obtain ⟨htouched, hsuper, -, hmethods, -⟩ := hd.start
  have hholds : d.Holds s options block [] := by
    refine ⟨?_, ?_, ?_⟩
    · rw [htouched]
      rfl
    · rw [hsuper]
      rfl
    · rw [hmethods]
      rfl
  have hd' : DeclaredOnce s block 0 ([] ++ s.children block) d := hd
  exact Draft.follows hd' rfl rfl hholds hfollow

theorem remarks_of_declaredOnce (hd : DeclaredOnce s block 0 (s.children block) d)
    (hfollow : d.follow s options block 0 (s.children block) = .ok r) :
    d.remarks s options block 0 (s.children block) = s.remarksOn options block d.name :=
  (hd.follows hfollow).remarks

/-- A function becomes a class if and only if it is declared once, not given up, and a method or a
super class was collected. -/
theorem converts_iff_collected {candidates : List Candidate}
    (h : Candidates s options block (s.children block) candidates) :
    Converts s options block name ↔ (s.children block).countP (s.declares block name) = 1 ∧
      s.rejection? options block name = none ∧
      (s.collected options block name ≠ [] ∨ s.inheritsAny options block name = true) := by
  rw [← h.transformable_iff, ← exists_declaredOnce_iff]
  -- a draft that is kept regards all statements, so what is collected is what the changes give
  have hproductive : ∀ d, DeclaredOnce s block 0 (s.children block) d →
      s.rejection? options block d.name = none →
      ((s.collected options block d.name ≠ [] ∨ s.inheritsAny options block d.name = true) ↔
        ∃ st ∈ s.changes d.name (s.children block),
          s.inherits st = true ∨ s.methodsOf options block st ≠ []) := by
    intro d hd hkept
    obtain ⟨r, hr⟩ := h.followed d hd
    obtain ⟨d', rfl⟩ := Option.isSome_iff_exists.mp ((hd.follows hr).left_iff.mpr hkept)
    have hall : s.regarded options block d.name = s.children block := (hd.follows hr).all d' rfl
    rw [Store.collected, Store.inheritsAny, hall]
    exact Store.gives_iff_exists_change
  constructor
  · intro hn
    obtain ⟨c, hc, rfl⟩ := List.mem_map.mp hn
    obtain ⟨hc, ht⟩ := List.mem_filter.mp hc
    obtain ⟨d, d', he, rfl⟩ := h.emerge c hc
    have hname : d'.finish.name = d.name := by rw [Draft.name_finish, he.name_eq]
    obtain ⟨r, hr⟩ := h.followed d he.declared
    have hkept : s.rejection? options block d.name = none := (he.declared.follows hr).left_iff.mp
      ((Draft.follow_declared he.declared hr).1.mpr ⟨he.first, he.accepted⟩)
    rw [hname]
    exact ⟨⟨d, he.declared, rfl⟩, hkept,
      (hproductive d he.declared hkept).mpr (he.transformable_iff.mp ht)⟩
  · rintro ⟨⟨d, hd, rfl⟩, hkept, hcollected⟩
    obtain ⟨r, hr⟩ := h.followed d hd
    obtain ⟨hfirst, haccepts⟩ := (Draft.follow_declared hd hr).1.mp
      ((hd.follows hr).left_iff.mpr hkept)
    obtain ⟨d', he, hmem⟩ := h.complete d hd hfirst haccepts
    have ht := he.transformable_iff.mpr ((hproductive d hd hkept).mp hcollected)
    rw [← he.name_eq, ← Draft.name_finish]
    exact List.mem_map_of_mem (List.mem_filter.mpr ⟨hmem, ht⟩)

end ClassLift
