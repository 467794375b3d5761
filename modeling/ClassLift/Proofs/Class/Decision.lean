import ClassLift.Proofs.Class.Declared

set_option autoImplicit false

/-! # Which functions become classes

A function of a block becomes a class if the statements of the block say so (`Converts`). The
condition speaks of the statements alone: which of them declare the function, which modify its
prototype, and what those are. `follow_declared` derives it from what the statements make of
the draft of the function.
-/

namespace ClassLift

namespace Store

variable (s : Store) (options : Options) (block : Slot) (name : String)

/-! ## What a statement does to a prototype -/

/-- Is the statement `A.prototype.constructor = A`, for the given name `A`? -/
def resets (statement : Slot) : Bool :=
  match s.isConstructorReset name statement with
  | .ok reset => reset
  | .error _ => false

/-- Does the statement assign a whole prototype? -/
def replaces (statement : Slot) : Bool :=
  match s.replacesPrototype statement with
  | .ok replaced => replaced
  | .error _ => false

/-- The super class that the statement sets; an empty slot when it sets none. -/
def superOf (statement : Slot) : Slot :=
  match s.superClass? statement with
  | .ok (some base) => base
  | _ => none

/-- The methods that the statement gives. -/
def methodsOf (statement : Slot) : List Method :=
  match s.methods? options block statement with
  | .ok (some methods) => methods
  | _ => []

/-- Does the statement set a super class? -/
def inherits (statement : Slot) : Bool := (s.superOf statement).isSome

/-- Is the value that the statement assigns a method table of the class `name`? -/
def holdsTable (statement : Slot) : Bool :=
  match s.children statement with
  | [_, object] =>
    s.hasKind Kind.object object &&
      match s.tableMethods? name statement block object with
      | .ok (some _) => true
      | _ => false
  | _ => false

/-- The statements that modify the prototype of `name`. -/
def owned (statements : List Slot) : List Slot := statements.filter (s.modifies name)

/-- The statements that modify the prototype of `name`, other than resets of the
constructor. -/
def changes (statements : List Slot) : List Slot :=
  (s.owned name statements).filter fun st => !s.resets name st

end Store

/-- The function `name` of the block becomes a class. -/
structure Converts (s : Store) (options : Options) (block : Slot) (name : String) : Prop where
  /-- Exactly one statement declares it, in one of three forms (`Store.declares_iff_form`). -/
  declaredOnce : (s.children block).countP (s.declares block name) = 1
  /-- No statement that modifies its prototype stands before that declaration. -/
  declaredFirst : (s.children block).Pairwise fun st later =>
    s.modifies name st = true → ¬ s.declares block name later = true
  /-- Only the first change may replace the prototype. -/
  replacedFirst : ∀ st ∈ (s.changes name (s.children block)).tail, ¬ s.replaces st = true
  /-- At most one change sets a super class. -/
  inheritsOnce : (s.changes name (s.children block)).countP s.inherits ≤ 1
  /-- No change sets a super class when super classes are not recognised. -/
  inheritanceAllowed : options.inheritance = false →
    ∀ st ∈ s.changes name (s.children block), ¬ s.inherits st = true
  /-- A first change that replaces the prototype sets a super class or assigns a method table,
  when tables are accepted. -/
  replacementKnown : ∀ st ∈ (s.changes name (s.children block)).head?, s.replaces st = true →
    s.inherits st = true ∨
      options.prototypeObjects = true ∧ s.holdsTable block name st = true
  /-- There is a super class or a method. -/
  productive : ∃ st ∈ s.changes name (s.children block),
    s.inherits st = true ∨ s.methodsOf options block st ≠ []

namespace Store

variable {s : Store} {options : Options} {block : Slot} {name : String} {statement : Slot}
  {statements : List Slot}

theorem owned_cons_of_modifies (h : s.modifies name statement = true) :
    s.owned name (statement :: statements) = statement :: s.owned name statements :=
  List.filter_cons_of_pos h

theorem owned_cons_of_not_modifies (h : ¬ s.modifies name statement = true) :
    s.owned name (statement :: statements) = s.owned name statements :=
  List.filter_cons_of_neg h

theorem changes_cons_of_not_modifies (h : ¬ s.modifies name statement = true) :
    s.changes name (statement :: statements) = s.changes name statements := by
  rw [changes, changes, owned_cons_of_not_modifies h]

theorem changes_cons_of_resets (h : s.modifies name statement = true)
    (hreset : s.resets name statement = true) :
    s.changes name (statement :: statements) = s.changes name statements := by
  rw [changes, changes, owned_cons_of_modifies h, List.filter_cons_of_neg (by simp [hreset])]

theorem changes_cons_of_modifies (h : s.modifies name statement = true)
    (hreset : s.resets name statement = false) :
    s.changes name (statement :: statements) = statement :: s.changes name statements := by
  rw [changes, changes, owned_cons_of_modifies h, List.filter_cons_of_pos (by simp [hreset])]

theorem resets_iff : s.resets name statement = true ↔
    s.isConstructorReset name statement = .ok true := by
  unfold resets
  cases s.isConstructorReset name statement <;> simp

theorem replaces_iff : s.replaces statement = true ↔ s.replacesPrototype statement = .ok true := by
  unfold replaces
  cases s.replacesPrototype statement <;> simp

theorem superOf_eq_some {base : TokenId} :
    s.superOf statement = some base ↔ s.superClass? statement = .ok (some (some base)) := by
  unfold superOf
  split
  · rename_i b h
    simp [h]
  · rename_i h
    constructor
    · intro hf; cases hf
    · intro hs; exact absurd hs (h _)

theorem superOf_of_superClass {base : Slot} (h : s.superClass? statement = .ok (some base)) :
    s.superOf statement = base ∧ base.isSome = true := by
  refine ⟨?_, isSome_of_isClassReference (isClassReference_of_superClass h)⟩
  unfold superOf
  rw [h]

theorem methodsOf_of_methods {ms : List Method}
    (h : s.methods? options block statement = .ok (some ms)) :
    s.methodsOf options block statement = ms ∧ ms ≠ [] := by
  constructor
  · unfold methodsOf
    rw [h]
  · obtain ⟨-, target, value, -, hms⟩ := methods_eq_some h
    rcases hms with ⟨owner, n, -, -, -, rfl⟩ | ⟨owner, -, -, -, -, htable⟩
    · simp
    · obtain ⟨entries, -, hne, rfl⟩ := tableMethods_eq_some htable
      cases entries with
      | nil => exact absurd rfl hne
      | cons first others => simp [methodsOfTable]

theorem exists_methods_of_ne_nil (h : s.methodsOf options block statement ≠ []) :
    s.methods? options block statement = .ok (some (s.methodsOf options block statement)) := by
  unfold methodsOf at h ⊢
  split
  · assumption
  · rename_i hn
    split at h
    · rename_i ms hms
      exact absurd hms (hn ms)
    · exact absurd rfl h

/-- A statement that sets a super class gives no methods. -/
theorem methodsOf_of_inherits (h : s.inherits statement = true) :
    s.methodsOf options block statement = [] := by
  by_contra hne
  obtain ⟨base, hb⟩ := Option.isSome_iff_exists.mp h
  exact superClass_of_methods (exists_methods_of_ne_nil hne) (superOf_eq_some.mp hb)

theorem superOf_of_resets (h : s.resets name statement = true) : s.superOf statement = none := by
  cases hb : s.superOf statement with
  | none => rfl
  | some base => exact absurd (superOf_eq_some.mp hb) (superClass_of_reset (resets_iff.mp h))

theorem methodsOf_of_resets (h : s.resets name statement = true) :
    s.methodsOf options block statement = [] := by
  by_contra hne
  exact methods_of_reset (resets_iff.mp h) (exists_methods_of_ne_nil hne)

theorem modifies_of_declares (h : s.declares block name statement = true) (name' : String) :
    ¬ s.modifies name' statement = true := by
  intro hm
  obtain ⟨c, hc, -⟩ := declares_iff.mp h
  exact prototypeOwner_of_declaration hc (modifies_iff.mp hm)

/-- A replacement of the prototype of `name` gives methods exactly when it assigns a method
table and tables are accepted. -/
theorem methodsOf_ne_nil_iff_of_replaces (ho : s.modifies name statement = true)
    (hr : s.replaces statement = true) :
    s.methodsOf options block statement ≠ [] ↔
      options.prototypeObjects = true ∧ s.holdsTable block name statement = true := by
  obtain ⟨ha, target, value, owner, hc, hof⟩ := replacesPrototype_eq_true (replaces_iff.mp hr)
  -- the target is the prototype itself, no member of it
  have hnone := prototypeMember_eq_none_of_prototypeOf hof
  -- and the prototype is that of the draft
  have hname : owner = name := by
    rcases prototypeOwner_of_isAssign (modifies_iff.mp ho) ha hc with h | ⟨member, h⟩
    · rw [hof] at h
      exact Option.some.inj h
    · rw [hnone] at h
      cases h
  subst hname
  constructor
  · intro hne
    obtain ⟨-, t, v, hc', hms⟩ := methods_eq_some (exists_methods_of_ne_nil hne)
    rw [hc] at hc'
    cases hc'
    -- a single method would be assigned to a member
    rcases hms with ⟨o, n, hmember, -⟩ | ⟨o, -, hof', hobject, hoption, htable⟩
    · rw [hnone] at hmember
      cases hmember
    · rw [hof] at hof'
      cases hof'
      refine ⟨hoption, ?_⟩
      simp only [holdsTable, hc, hobject, htable, Bool.and_true]
  · rintro ⟨hoption, htable⟩
    simp only [holdsTable, hc, Bool.and_eq_true] at htable
    obtain ⟨hobject, htable⟩ := htable
    split at htable
    case h_2 => cases htable
    rename_i ms hms
    obtain ⟨l, hl, hk⟩ := hasKind_iff.mp hobject
    have hmethods : s.methods? options block statement = .ok (some ms) := by
      have h0 : s.child statement 0 = .ok target := by rw [child_eq_ok, hc]; rfl
      have h1 : s.child statement 1 = .ok value := by rw [child_eq_ok, hc]; rfl
      have hlabel := label_eq_ok.mpr hl
      simp only [methods?, ha, h0, h1, hnone, hof, hlabel, bind, Except.bind, if_true, hk, hoption,
        and_self]
      exact hms
    obtain ⟨heq, hne⟩ := methodsOf_of_methods hmethods
    rw [heq]
    exact hne

end Store

/-! ## What the statements make of a draft -/

namespace Draft

variable (s : Store) (options : Options) (block : Slot)

/-- Does the statement, which is no reset, make the draft be rejected? -/
def refuses (d : Draft) (statement : Slot) : Bool :=
  (d.touched && s.replaces statement) ||
    (s.inherits statement && (!options.inheritance || d.superClass.isSome)) ||
    (!s.inherits statement && (s.methodsOf options block statement).isEmpty &&
      s.replaces statement)

/-- The draft with what the statement, which is no reset, adds to it. -/
def grow (d : Draft) (statement : Slot) : Draft :=
  { d with
    touched := true
    candidate :=
      { d.candidate with
        methods := d.candidate.methods ++ s.methodsOf options block statement }
    superClass := (s.superOf statement).or d.superClass
    related :=
      if s.inherits statement then d.related ++ [(block, statement)] else d.related }

variable {s options block} {d d' : Draft} {statement : Slot} {statements : List Slot}
  {index : Nat} {r : Option Draft}

theorem absorb_of_resets (h : s.resets d.name statement = true) :
    d.absorb s options block statement =
      .ok (some { d with related := d.related ++ [(block, statement)] }) := by
  unfold absorb
  rw [Store.resets_iff.mp h]
  rfl

theorem contribute_eq_ok (h : d.contribute s options block statement = .ok r)
    (ht : (d.touched && s.replaces statement) = false) :
    r = if d.refuses s options block statement then none
      else some (d.grow s options block statement) := by
  unfold contribute at h
  obtain ⟨base, hbase, h⟩ := bind_eq_ok.mp h
  -- a statement is asked for a super class, then for methods, then whether it replaces the
  -- prototype
  cases base with
  | some base =>
      obtain ⟨hs, hsome⟩ := Store.superOf_of_superClass hbase
      have hi : s.inherits statement = true := by rw [Store.inherits, hs, hsome]
      have hms : s.methodsOf options block statement = [] := Store.methodsOf_of_inherits hi
      dsimp only at h
      by_cases hc : (!options.inheritance || d.superClass.isSome) = true
      · rw [if_pos hc] at h
        cases h
        simp [refuses, hi, hc]
      · rw [if_neg hc] at h
        cases h
        have hc : (!options.inheritance || d.superClass.isSome) = false := by simpa using hc
        simp only [refuses, grow, hi, hc, ht, hms, hs]
        obtain ⟨b, rfl⟩ := Option.isSome_iff_exists.mp hsome
        simp
  | none =>
      have hs : s.superOf statement = none := by unfold Store.superOf; rw [hbase]
      have hi : s.inherits statement = false := by rw [Store.inherits, hs]; rfl
      obtain ⟨ms, hms, h⟩ := bind_eq_ok.mp h
      cases ms with
      | some ms =>
          obtain ⟨hm, hne⟩ := Store.methodsOf_of_methods hms
          cases h
          simp [refuses, grow, hi, ht, hm, hs, hne]
      | none =>
          have hm : s.methodsOf options block statement = [] := by
            unfold Store.methodsOf; rw [hms]
          obtain ⟨b, hb, h⟩ := bind_eq_ok.mp h
          have hr : s.replaces statement = b := by unfold Store.replaces; rw [hb]
          cases b with
          | true =>
              cases h
              simp [refuses, hi, hm, hr]
          | false =>
              cases h
              simp [refuses, grow, hi, hm, hr, hs]

theorem absorb_eq_ok (hn : s.resets d.name statement = false)
    (h : d.absorb s options block statement = .ok r) :
    r = if d.refuses s options block statement then none
      else some (d.grow s options block statement) := by
  unfold absorb at h
  obtain ⟨b, hb, h⟩ := bind_eq_ok.mp h
  have hreset : b = false := by
    cases b with
    | false => rfl
    | true => rw [Store.resets_iff.mpr hb] at hn; cases hn
  subst hreset
  simp only [Bool.false_eq_true, if_false] at h
  by_cases ht : d.touched = true
  · rw [if_pos ht] at h
    obtain ⟨b, hb, h⟩ := bind_eq_ok.mp h
    have hr : s.replaces statement = b := by unfold Store.replaces; rw [hb]
    cases b with
    | true =>
        cases h
        simp [refuses, ht, hr]
    | false => exact contribute_eq_ok h (by simp [hr])
  · rw [if_neg ht] at h
    exact contribute_eq_ok h (by simp [ht])

/-- The draft is not rejected by the given changes of its prototype. -/
structure Accepts (s : Store) (options : Options) (block : Slot) (d : Draft)
    (changes : List Slot) : Prop where
  replaced : ∀ st ∈ (if d.touched then changes else changes.tail), ¬ s.replaces st = true
  once : changes.countP s.inherits + (if d.superClass.isSome then 1 else 0) ≤ 1
  allowed : options.inheritance = false → ∀ st ∈ changes, ¬ s.inherits st = true
  known : d.touched = false → ∀ st ∈ changes.head?, s.replaces st = true →
    s.inherits st = true ∨ s.methodsOf options block st ≠ []

theorem accepts_nil : d.Accepts s options block [] where
  replaced := by simp
  once := by
    rw [List.countP_nil]
    split <;> omega
  allowed := by simp
  known := by simp

theorem refuses_eq_false_iff : d.refuses s options block statement = false ↔
    (d.touched = true → ¬ s.replaces statement = true) ∧
      (s.inherits statement = true → options.inheritance = true ∧ d.superClass.isSome = false) ∧
      (s.replaces statement = true →
        s.inherits statement = true ∨ s.methodsOf options block statement ≠ []) := by
  unfold refuses
  cases s.inherits statement <;> cases s.replaces statement <;> cases d.touched <;>
    cases s.methodsOf options block statement <;> simp

theorem isSome_superClass_grow : ((d.grow s options block statement).superClass).isSome =
    (s.inherits statement || d.superClass.isSome) := by
  unfold grow Store.inherits
  cases s.superOf statement <;> simp

namespace Accepts

variable {changes : List Slot}

/-- The first change is not refused: whether it may replace the prototype depends on whether one has
touched it before. -/
theorem not_refuses (h : d.Accepts s options block (statement :: changes)) :
    d.refuses s options block statement = false := by
  obtain ⟨replaced, once, allowed, known⟩ := h
  rw [List.countP_cons] at once
  refine refuses_eq_false_iff.mpr ⟨?_, ?_, ?_⟩
  · intro ht
    rw [if_pos ht] at replaced
    exact replaced statement (by simp)
  · intro hi
    constructor
    · by_contra ho
      exact allowed (by simpa using ho) statement (by simp) hi
    · by_contra hs
      rw [if_pos hi, if_pos ((Bool.not_eq_false _).mp hs)] at once
      omega
  · intro hr
    by_cases ht : d.touched = true
    · rw [if_pos ht] at replaced
      exact absurd hr (replaced statement (by simp))
    · exact known (by simpa using ht) statement rfl hr

/-- The draft that has grown by the first change accepts the others. -/
theorem tail (h : d.Accepts s options block (statement :: changes)) :
    (d.grow s options block statement).Accepts s options block changes := by
  obtain ⟨replaced, once, allowed, -⟩ := h
  rw [List.countP_cons] at once
  refine ⟨?_, ?_, ?_, ?_⟩
  · intro u hu
    have hu : u ∈ changes := hu
    split at replaced
    · exact replaced u (by simp [hu])
    · exact replaced u hu
  · rw [isSome_superClass_grow]
    cases hi : s.inherits statement
    · simpa [hi] using once
    · rw [hi, if_pos rfl] at once
      rw [Bool.true_or, if_pos rfl]
      omega
  · intro ho u hu
    exact allowed ho u (by simp [hu])
  · intro ht
    cases ht

theorem cons (hfirst : d.refuses s options block statement = false)
    (h : (d.grow s options block statement).Accepts s options block changes) :
    d.Accepts s options block (statement :: changes) := by
  obtain ⟨hreplaced, hinherits, hknown⟩ := refuses_eq_false_iff.mp hfirst
  obtain ⟨replaced, once, allowed, -⟩ := h
  have replaced : ∀ u ∈ changes, ¬ s.replaces u = true := replaced
  rw [isSome_superClass_grow] at once
  refine ⟨?_, ?_, ?_, ?_⟩
  -- the prototype is replaced at most by the first change
  · intro u hu
    by_cases ht : d.touched = true
    · rw [if_pos ht] at hu
      rcases List.mem_cons.mp hu with rfl | hu
      · exact hreplaced ht
      · exact replaced u hu
    · rw [if_neg ht] at hu
      exact replaced u hu
  -- the super class is set once: not again, where this statement sets it
  · rw [List.countP_cons]
    cases hi : s.inherits statement
    · simpa [hi] using once
    · have hs := (hinherits hi).2
      simp only [hi, Bool.true_or, if_true] at once
      simp only [hs, if_true, Bool.false_eq_true, if_false]
      omega
  -- no statement sets a super class where that is off
  · intro ho u hu
    rcases List.mem_cons.mp hu with rfl | hu
    · intro hi
      rw [(hinherits hi).1] at ho
      cases ho
    · exact allowed ho u hu
  -- a replacement at the start is a known one
  · intro _ u hu
    cases hu
    exact hknown

end Accepts

theorem accepts_cons {changes : List Slot} : d.Accepts s options block (statement :: changes) ↔
    d.refuses s options block statement = false ∧
      (d.grow s options block statement).Accepts s options block changes := by
  constructor
  · intro h
    exact ⟨h.not_refuses, h.tail⟩
  · rintro ⟨hfirst, h⟩
    exact .cons hfirst h

/-! ## What is left of a draft -/

/-- The draft when it grows by the given statements, all of its own class. -/
structure GrowsTo (s : Store) (options : Options) (block : Slot) (d : Draft)
    (statements : List Slot) (d' : Draft) : Prop where
  candidate : d'.candidate = { d.candidate with
    methods := d.candidate.methods ++ statements.flatMap (s.methodsOf options block) }
  superClass : d'.superClass = d.superClass.or (statements.findSome? s.superOf)
  related : d'.related = d.related ++
    (statements.filter fun st => s.resets d.name st || s.inherits st).map (block, ·)

theorem growsTo_nil : d.GrowsTo s options block [] d where
  candidate := by simp
  superClass := by simp
  related := by simp

theorem growsTo_cons_of_resets (h : s.resets d.name statement = true)
    (hd : GrowsTo s options block { d with related := d.related ++ [(block, statement)] }
      statements d') : d.GrowsTo s options block (statement :: statements) d' where
  candidate := by
    rw [hd.candidate, List.flatMap_cons, Store.methodsOf_of_resets h, List.nil_append]
  superClass := by
    rw [hd.superClass, List.findSome?_cons, Store.superOf_of_resets h]
  related := by
    rw [hd.related, List.filter_cons_of_pos (by simp [h]), List.map_cons, List.append_assoc]
    rfl

theorem growsTo_cons (h : s.resets d.name statement = false)
    (hr : d.refuses s options block statement = false)
    (hd : (d.grow s options block statement).GrowsTo s options block statements d') :
    d.GrowsTo s options block (statement :: statements) d' where
  candidate := by
    rw [hd.candidate, List.flatMap_cons]
    simp [grow]
  superClass := by
    have hnone := (refuses_eq_false_iff.mp hr).2.1
    rw [hd.superClass, List.findSome?_cons]
    unfold grow Store.inherits at *
    cases hs : s.superOf statement with
    | none => simp
    | some base =>
        rw [hs] at hnone
        have hd : d.superClass = none := by simpa using (hnone rfl).2
        simp [hd]
  related := by
    have hname : (d.grow s options block statement).name = d.name := rfl
    rw [hd.related, hname]
    cases hi : s.inherits statement <;> simp [grow, h, hi]

/-- The result of following a draft through statements after its declaration. -/
theorem follow_after (hpos : d.position ≤ index)
    (h : d.follow s options block index statements = .ok r) :
    (r.isSome = true ↔ d.Accepts s options block (s.changes d.name statements)) ∧
      ∀ d', r = some d' → d.GrowsTo s options block (s.owned d.name statements) d' := by
  -- the draft grows from statement to statement, so the induction is over all drafts
  induction statements generalizing index d with
  | nil =>
      cases h
      refine ⟨by simp [Store.changes, Store.owned, accepts_nil], fun d' hd' => ?_⟩
      cases hd'
      exact growsTo_nil
  | cons st statements ih =>
      by_cases hm : s.modifies d.name st = true
      case neg =>
        rw [follow_cons_of_not_modifies hm] at h
        rw [Store.changes_cons_of_not_modifies hm, Store.owned_cons_of_not_modifies hm]
        exact ih (by omega) h
      rw [Store.owned_cons_of_modifies hm]
      have hverdict : d.verdict s options block index st = d.absorb s options block st := by
        rw [verdict, if_neg (by omega)]
      rw [follow_cons, if_pos hm, hverdict] at h
      cases hreset : s.resets d.name st with
      | true =>
          rw [absorb_of_resets hreset] at h
          obtain ⟨haccept, hgrow⟩ := ih (by exact Nat.le_succ_of_le hpos) h
          rw [Store.changes_cons_of_resets hm hreset]
          -- a reset leaves alone what `Accepts` looks at
          refine ⟨haccept.trans ⟨fun ⟨a, b, c, e⟩ => ⟨a, b, c, e⟩, fun ⟨a, b, c, e⟩ => ⟨a, b, c, e⟩⟩,
            fun d' hd' => ?_⟩
          exact growsTo_cons_of_resets hreset (hgrow d' hd')
      | false =>
          rw [Store.changes_cons_of_modifies hm hreset, accepts_cons]
          cases habsorb : d.absorb s options block st with
          | error fault => rw [habsorb] at h; cases h
          | ok v =>
              rw [habsorb] at h
              have hv := absorb_eq_ok hreset habsorb
              cases hrefuse : d.refuses s options block st with
              | true =>
                  rw [hrefuse, if_pos rfl] at hv
                  subst hv
                  cases h
                  exact ⟨by simp, fun d' hd' => nomatch hd'⟩
              | false =>
                  rw [hrefuse, if_neg (by simp)] at hv
                  subst hv
                  obtain ⟨haccept, hgrow⟩ := ih (d := d.grow s options block st)
                    (by exact Nat.le_succ_of_le hpos) h
                  refine ⟨haccept.trans ⟨fun ha => ⟨rfl, ha⟩, And.right⟩, fun d' hd' => ?_⟩
                  exact growsTo_cons hreset hrefuse (hgrow d' hd')

theorem follow_before {before rest : List Slot} (hpos : index + before.length ≤ d.position) :
    d.follow s options block index (before ++ rest) =
      if before.any (s.modifies d.name) then .ok none
      else d.follow s options block (index + before.length) rest := by
  induction before generalizing index with
  | nil => simp
  | cons st before ih =>
      rw [List.length_cons] at hpos
      rw [List.cons_append, List.any_cons, List.length_cons]
      by_cases hm : s.modifies d.name st = true
      · have hverdict : d.verdict s options block index st = .ok none := by
          rw [verdict, if_pos (by omega)]
        rw [follow_cons_of_rejected hm hverdict]
        simp [hm]
      · rw [follow_cons_of_not_modifies hm, ih (by omega), Nat.add_right_comm, Nat.add_assoc]
        simp [hm]

/-- Around the only declaration, the order of the statements comes down to what is before it. -/
theorem pairwise_declares_iff {name : String} {before after : List Slot} {st : Slot}
    (hdeclares : s.declares block name st = true)
    (hothers : ∀ u ∈ before ++ after, ¬ s.declares block name u = true) :
    ((before ++ st :: after).Pairwise fun u later =>
      s.modifies name u = true → ¬ s.declares block name later = true) ↔
      before.any (s.modifies name) = false := by
  rw [List.any_eq_false]
  constructor
  · intro hp u hu hm
    exact (List.pairwise_append.mp hp).2.2 u hu st (by simp) hm hdeclares
  · intro hb
    refine List.pairwise_append.mpr ⟨?_, List.pairwise_cons.mpr ⟨?_, ?_⟩, ?_⟩
    · exact List.pairwise_of_forall_mem_list fun u _ v hv _ => hothers v (by simp [hv])
    · intro v hv hm
      exact absurd hm (Store.modifies_of_declares hdeclares name)
    · exact List.pairwise_of_forall_mem_list fun u _ v hv _ => hothers v (by simp [hv])
    · intro u hu v _ hm
      exact absurd hm (hb u hu)

/-- A draft of a function that is declared once is left if and only if no statement before the
declaration modifies the prototype, and the changes of the prototype are accepted. What is left
has grown by the statements that modify the prototype. -/
theorem follow_declared (hd : DeclaredOnce s block 0 statements d)
    (h : d.follow s options block 0 statements = .ok r) :
    (r.isSome = true ↔
      (statements.Pairwise fun st later =>
          s.modifies d.name st = true → ¬ s.declares block d.name later = true) ∧
        d.Accepts s options block (s.changes d.name statements)) ∧
      ∀ d', r = some d' → d.GrowsTo s options block (s.owned d.name statements) d' := by
  obtain ⟨before, st, after, c, rfl, hc, rfl, hothers⟩ := hd
  set d : Draft := ⟨c, 0 + before.length, false, none, []⟩ with hdef
  have hdeclares : s.declares block d.name st = true := Store.declares_iff.mpr ⟨c, hc, rfl⟩
  have hst : ¬ s.modifies d.name st = true := Store.modifies_of_declares hdeclares _
  -- of the statements before the declaration only those about the prototype matter
  rw [pairwise_declares_iff hdeclares hothers]
  rw [follow_before (by simp [hdef])] at h
  cases hany : before.any (s.modifies d.name) with
  | true =>
      rw [hany] at h
      cases h
      exact ⟨by simp, fun d' hd' => nomatch hd'⟩
  | false =>
      rw [hany, if_neg (by simp), follow_cons_of_not_modifies hst] at h
      -- none of these is before it, so the draft grows by those after it
      have howned : s.owned d.name (before ++ st :: after) = s.owned d.name after := by
        have hbefore : before.filter (s.modifies d.name) = [] := by
          rw [List.filter_eq_nil_iff]
          exact List.any_eq_false.mp hany
        rw [Store.owned, List.filter_append, hbefore, List.filter_cons_of_neg hst]
        rfl
      rw [Store.changes, howned]
      obtain ⟨haccept, hgrow⟩ := follow_after (by rw [hdef]; simp) h
      exact ⟨haccept.trans ⟨fun ha => ⟨rfl, ha⟩, And.right⟩, hgrow⟩

end Draft

end ClassLift
