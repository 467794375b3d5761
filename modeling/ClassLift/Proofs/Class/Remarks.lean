import ClassLift.Proofs.Class.Candidates
import Mathlib.Data.Finset.Card
import Mathlib.Data.List.Perm.Basic

set_option autoImplicit false

/-! # What a detection notices

A notice makes a *remark*: of which kind it is, and which name it concerns. The declarations are
remarked on once for each function that is declared again, and the examination remarks on every
draft what the statements about its prototype give cause for (`Draft.remarks`), whatever stands
between them. `detect_notes` puts the two together; the remarks on different drafts may come in
any order.
-/

namespace ClassLift

open List

/-- What a notice says: of which kind it is, and which name it concerns. -/
abbrev Remark := Warning × String

def Notice.remark (n : Notice) : Remark := (n.warning, n.name)

/-! ## Names that come again -/

/-- Those of the names that were seen before, each as often as it comes again. -/
def recurring (seen : List String) : List String → List String
  | [] => []
  | n :: ns => if n ∈ seen then n :: recurring seen ns else recurring (n :: seen) ns

section

variable {seen seen' names more : List String}

theorem recurring_congr (h : ∀ n, n ∈ seen ↔ n ∈ seen') :
    recurring seen names = recurring seen' names := by
  induction names generalizing seen seen' with
  | nil => rfl
  | cons n names ih =>
      by_cases hn : n ∈ seen
      · rw [recurring, recurring, if_pos hn, if_pos ((h n).mp hn), ih h]
      · rw [recurring, recurring, if_neg hn, if_neg (fun hn' => hn ((h n).mpr hn'))]
        exact ih fun m => by rw [List.mem_cons, List.mem_cons, h m]

theorem recurring_append :
    recurring seen (names ++ more) = recurring seen names ++ recurring (seen ++ names) more := by
  induction names generalizing seen with
  | nil => rw [List.nil_append, recurring, List.nil_append, List.append_nil]
  | cons n names ih =>
      have hseen : ∀ m, m ∈ n :: seen ++ names ↔ m ∈ seen ++ n :: names := by
        intro m
        simp only [List.mem_append, List.mem_cons]
        tauto
      by_cases hn : n ∈ seen
      · have hmem : ∀ m, m ∈ seen ++ names ↔ m ∈ seen ++ n :: names := by
          intro m
          simp only [List.mem_append, List.mem_cons]
          constructor
          · tauto
          · rintro (hm | rfl | hm)
            · exact Or.inl hm
            · exact Or.inl hn
            · exact Or.inr hm
        rw [List.cons_append, recurring, if_pos hn, ih, recurring, if_pos hn, List.cons_append,
          recurring_congr hmem]
      · rw [List.cons_append, recurring, if_neg hn, ih, recurring, if_neg hn, recurring_congr hseen]

/-- A name recurs whenever it does not add to the different names. -/
theorem length_recurring (seen names : List String) :
    (recurring seen names).length + (seen ++ names).dedup.length = names.length + seen.dedup.length := by
  simp only [← List.card_toFinset]
  induction names generalizing seen with
  | nil => rw [recurring, List.append_nil]
  | cons n names ih =>
      -- a name seen before adds to what recurs, another one to the different names
      by_cases hn : n ∈ seen
      · have hsame : (seen ++ n :: names).toFinset = (seen ++ names).toFinset := by
          ext m
          simp only [List.toFinset_append, List.toFinset_cons, Finset.mem_union, Finset.mem_insert,
            List.mem_toFinset]
          constructor
          · rintro (hm | rfl | hm)
            · exact Or.inl hm
            · exact Or.inl hn
            · exact Or.inr hm
          · tauto
        have hrest := ih seen
        rw [recurring, if_pos hn, hsame, List.length_cons, List.length_cons]
        omega
      · have hsame : (seen ++ n :: names).toFinset = (n :: seen ++ names).toFinset := by
          ext m
          simp only [List.toFinset_append, List.toFinset_cons, List.cons_append, Finset.mem_union,
            Finset.mem_insert, List.mem_toFinset]
          tauto
        have hcard : (n :: seen).toFinset.card = seen.toFinset.card + 1 := by
          rw [List.toFinset_cons, Finset.card_insert_of_notMem fun h => hn (List.mem_toFinset.mp h)]
        have hrest := ih (n :: seen)
        rw [recurring, if_neg hn, hsame, List.length_cons]
        omega

/-- Of some names, those recur that are left when each is taken once. -/
theorem length_recurring_nil : (recurring [] names).length = names.length - names.dedup.length := by
  have h := length_recurring [] names
  rw [List.nil_append, List.dedup_nil, List.length_nil] at h
  omega

end

/-! ## Remarks of a computation -/

namespace Detect

variable {α β : Type}

/-- The detection ends with `a`, and its notices make these remarks, whatever was noticed before. -/
def Notes (e : Detect α) (a : α) (remarks : List Remark) : Prop :=
  ∀ ns, ∃ added, e.run.run ns = (.ok a, ns ++ added) ∧ added.map Notice.remark = remarks

namespace Notes

variable {e : Detect α} {f : α → Detect β} {a : α} {b : β} {remarks more : List Remark}

theorem pure (a : α) : Notes (pure a) a [] := fun ns => ⟨[], by rw [List.append_nil]; rfl, rfl⟩

theorem bind (he : Notes e a remarks) (hf : Notes (f a) b more) :
    Notes (e >>= f) b (remarks ++ more) := by
  intro ns
  obtain ⟨added, hrun, hadded⟩ := he ns
  obtain ⟨added', hrun', hadded'⟩ := hf (ns ++ added)
  refine ⟨added ++ added', ?_, ?_⟩
  · rw [run_run_bind_of_ok hrun, hrun', List.append_assoc]
  · rw [List.map_append, hadded, hadded']

theorem lift_bind {r : Except Fault α} (hr : r = .ok a) (hf : Notes (f a) b more) :
    Notes (liftM r >>= f) b more := by
  rw [hr, lift_ok_bind]
  exact hf

theorem warn {s : Store} {slot : Slot} {l : Label} (h : s.label slot = .ok l) (w : Warning)
    (name : String) : Notes (warn s slot w name) () [(w, name)] := by
  unfold Detect.warn
  exact lift_bind h fun ns => ⟨[⟨l, w, name⟩], rfl, rfl⟩

theorem gives (h : Notes e a remarks) : Gives e (.ok a) := by
  intro ns
  obtain ⟨added, hrun, -⟩ := h ns
  rw [hrun]

/-- The result is the one that the detection gives. -/
theorem eq_of_gives {a' : α} (h : Notes e a remarks) (h' : Gives e (.ok a')) : a = a' :=
  Except.ok.inj ((h.gives []).symm.trans (h' []))

end Notes

end Detect

/-! ## Declarations -/

/-- The name of the function that the statement of `block` declares. -/
def Store.declaredName? (s : Store) (block statement : Slot) : Option String :=
  match s.declaration? block statement with
  | .ok (some c) => some c.name
  | _ => none

/-- A remark of one kind on each of the names. -/
def remarksOf (w : Warning) (names : List String) : List Remark := names.map (w, ·)

section

variable {s : Store} {block : Slot} {index : Nat} {drafts : List Draft} {rejected : List String}
  {statements : List Slot}

theorem mem_known_of_drop {name : String} (known : name ∈ drafts.map Draft.name ++ rejected) (n : String) :
    n ∈ (Draft.drop name drafts).map Draft.name ++ name :: rejected ↔
      n ∈ drafts.map Draft.name ++ rejected := by
  have hdrop : n ∈ (Draft.drop name drafts).map Draft.name ↔ n ∈ drafts.map Draft.name ∧ n ≠ name := by
    simp only [Draft.drop, List.mem_map, List.mem_filter, decide_eq_true_eq]
    constructor
    · rintro ⟨e, ⟨he, hne⟩, rfl⟩
      exact ⟨⟨e, he, rfl⟩, hne⟩
    · rintro ⟨⟨e, he, rfl⟩, hne⟩
      exact ⟨e, ⟨he, hne⟩, rfl⟩
  rw [List.mem_append, List.mem_cons, hdrop, List.mem_append]
  rw [List.mem_append] at known
  by_cases hn : n = name
  · subst hn
    exact ⟨fun _ => known, fun _ => Or.inr (Or.inl rfl)⟩
  · simp only [hn, ne_eq, not_false_eq_true, and_true, false_or]

/-- A function that was declared before, also more than once, is remarked on when it is declared
again. -/
theorem declarations_notes (index : Nat) (drafts : List Draft) (rejected : List String)
    (understood : ∀ st ∈ statements, ∃ o, s.declaration? block st = .ok o) :
    ∃ found, Detect.Notes (declarations s block index drafts rejected statements) found
      (remarksOf .duplicateClass (recurring (drafts.map Draft.name ++ rejected)
        (statements.filterMap (s.declaredName? block)))) := by
  induction statements generalizing index drafts rejected with
  | nil => exact ⟨drafts, .pure drafts⟩
  | cons st statements ih =>
      obtain ⟨⟨o, ho⟩, hrest⟩ := List.forall_mem_cons.mp understood
      unfold declarations
      cases o with
      | none =>
          have hname : s.declaredName? block st = none := by rw [Store.declaredName?, ho]
          obtain ⟨found, hfound⟩ := ih (index + 1) drafts rejected hrest
          rw [List.filterMap_cons_none hname]
          exact ⟨found, .lift_bind ho hfound⟩
      | some c =>
          have hname : s.declaredName? block st = some c.name := by rw [Store.declaredName?, ho]
          obtain ⟨l, hl⟩ := Store.label_of_declaration ho
          rw [List.filterMap_cons_some hname, recurring]
          -- the names known are those of the drafts and the rejected ones; which of these does not
          -- matter
          by_cases hc : (drafts.any (·.name = c.name) || rejected.contains c.name) = true
          · have known : c.name ∈ drafts.map Draft.name ++ rejected := by simpa using hc
            obtain ⟨found, hfound⟩ := ih (index + 1) (Draft.drop c.name drafts)
              (c.name :: rejected) hrest
            rw [recurring_congr (mem_known_of_drop known)] at hfound
            rw [if_pos known]
            refine ⟨found, .lift_bind ho ?_⟩
            dsimp only
            rw [if_pos hc]
            exact .bind (.warn hl _ _) hfound
          · have unknown : c.name ∉ drafts.map Draft.name ++ rejected := by simpa using hc
            obtain ⟨found, hfound⟩ := ih (index + 1)
              (drafts ++ [⟨c, index, false, none, []⟩]) rejected hrest
            have hmem : ∀ n, n ∈ (drafts ++ [(⟨c, index, false, none, []⟩ : Draft)]).map Draft.name ++
                rejected ↔ n ∈ c.name :: (drafts.map Draft.name ++ rejected) := by
              intro n
              simp only [List.map_append, List.map_cons, List.map_nil, List.mem_append, List.mem_cons,
                List.not_mem_nil, or_false, Draft.name]
              tauto
            rw [recurring_congr hmem] at hfound
            rw [if_neg unknown]
            refine ⟨found, .lift_bind ho ?_⟩
            dsimp only
            rw [if_neg hc]
            exact hfound

end

/-! ## One statement about a draft -/

theorem addMethods_notes {s : Store} (c : Candidate) (methods : List Method)
    (h : ∀ m ∈ methods, ∃ l, s.label m.function = .ok l) :
    Detect.Notes (addMethods s c methods) { c with methods := c.methods ++ methods }
      (remarksOf .duplicateMethod
        (recurring (c.methods.map Method.name) (methods.map Method.name))) := by
  induction methods generalizing c with
  | nil =>
      unfold addMethods
      rw [List.append_nil]
      exact .pure c
  | cons m methods ih =>
      obtain ⟨⟨l, hl⟩, hrest⟩ := List.forall_mem_cons.mp h
      have hc : (c.addMethod m).methods ++ methods = c.methods ++ m :: methods := by
        simp [Candidate.addMethod]
      have hnames : (c.addMethod m).methods.map Method.name = c.methods.map Method.name ++ [m.name] := by
        simp [Candidate.addMethod]
      have rest := ih (c.addMethod m) hrest
      rw [hc, hnames] at rest
      unfold addMethods
      rw [List.map_cons, recurring]
      -- adding a name that is there changes nothing about which names recur
      by_cases hagain : c.methods.any (·.name = m.name) = true
      · have hmem : m.name ∈ c.methods.map Method.name := by simpa using hagain
        have hsame : ∀ n, n ∈ c.methods.map Method.name ++ [m.name] ↔ n ∈ c.methods.map Method.name := by
          intro n
          rw [List.mem_append, List.mem_singleton]
          exact ⟨fun hn => hn.elim id fun hn => hn ▸ hmem, Or.inl⟩
        rw [recurring_congr hsame] at rest
        rw [if_pos hagain, if_pos hmem]
        exact .bind (.warn hl _ _) rest
      · have hnot : m.name ∉ c.methods.map Method.name := by simpa using hagain
        have hsame : ∀ n, n ∈ c.methods.map Method.name ++ [m.name] ↔
            n ∈ m.name :: c.methods.map Method.name := by
          intro n
          rw [List.mem_append, List.mem_singleton, List.mem_cons, or_comm]
        rw [recurring_congr hsame] at rest
        rw [if_neg hagain, if_neg hnot]
        exact rest

namespace Draft

section

variable (s : Store) (options : Options) (block : Slot)

/-- The kind of the warning with which a statement makes the draft be given up. -/
def complaint (index : Nat) (d : Draft) (statement : Slot) : Warning :=
  if index < d.position then .beforeDeclaration
  else if s.inherits statement && options.inheritance && !(d.touched && s.replaces statement) then
    .multipleInheritance
  else .unsupportedPrototype

/-- The remarks on a statement that modifies the prototype of the drafted class, when it leaves
`r` of the draft. -/
def remarksAt (index : Nat) (d : Draft) (statement : Slot) : Option Draft → List Remark
  | none => [(d.complaint s options index statement, d.name)]
  | some _ =>
    remarksOf .duplicateMethod (recurring (d.candidate.methods.map Method.name)
      ((s.methodsOf options block statement).map Method.name))

/-- The remarks on a draft that the statements from the given index on give cause for. -/
def remarks : Nat → Draft → List Slot → List Remark
  | _, _, [] => []
  | index, d, statement :: statements =>
    if s.modifies d.name statement then
      match d.verdict s options block index statement with
      | .error _ => []
      | .ok none => d.remarksAt s options block index statement none
      | .ok (some d') =>
        d.remarksAt s options block index statement (some d') ++ remarks (index + 1) d' statements
    else remarks (index + 1) d statements

end

variable {s : Store} {options : Options} {block statement : Slot} {statements : List Slot}
  {index : Nat} {d d' : Draft} {r : Option Draft}

theorem remarks_cons_of_not_modifies (h : ¬ s.modifies d.name statement = true) :
    d.remarks s options block index (statement :: statements) =
      d.remarks s options block (index + 1) statements := by
  rw [remarks, if_neg h]

theorem remarks_cons_of_rejected (h : s.modifies d.name statement = true)
    (hv : d.verdict s options block index statement = .ok none) :
    d.remarks s options block index (statement :: statements) =
      [(d.complaint s options index statement, d.name)] := by
  rw [remarks, if_pos h, hv]
  rfl

theorem remarks_cons_of_verdict (h : s.modifies d.name statement = true)
    (hv : d.verdict s options block index statement = .ok (some d')) :
    d.remarks s options block index (statement :: statements) =
      d.remarksAt s options block index statement (some d') ++
        d'.remarks s options block (index + 1) statements := by
  rw [remarks, if_pos h, hv]

theorem remarksAt_of_no_methods (h : s.methodsOf options block statement = []) :
    d.remarksAt s options block index statement (some d') = [] := by
  rw [remarksAt, h]
  rfl

end Draft

section

variable {s : Store} {options : Options} {block slot : Slot} {index : Nat} {d : Draft}
  {r : Option Draft} {l : Label}

/-- A draft is given up with the warning that says what is wrong. -/
theorem rejected_notes (hl : s.label slot = .ok l) {w : Warning}
    (hw : d.complaint s options index slot = w) :
    Detect.Notes (do Detect.warn s slot w d.name; return (none : Option Draft)) none
      (d.remarksAt s options block index slot none) := by
  rw [Draft.remarksAt, hw]
  exact .bind (.warn hl w d.name) (.pure none)

/-- A statement without methods that leaves the draft is not remarked on. -/
theorem kept_notes {d' : Draft} (h : s.methodsOf options block slot = []) :
    Detect.Notes (pure (some d')) (some d') (d.remarksAt s options block index slot (some d')) := by
  rw [Draft.remarksAt_of_no_methods h]
  exact .pure _

theorem examineAdded_notes (hl : s.label slot = .ok l) (hindex : ¬ index < d.position)
    (hkept : (d.touched && s.replaces slot) = false)
    (h : d.contribute s options block slot = .ok r) :
    Detect.Notes (examineAdded s options block slot d) r
      (d.remarksAt s options block index slot r) := by
  unfold Draft.contribute at h
  unfold examineAdded
  obtain ⟨base, hbase, h⟩ := bind_eq_ok.mp h
  refine .lift_bind hbase ?_
  -- the cases are those of `contribute`: a refusal is remarked on with its complaint
  cases base with
  | some base =>
      obtain ⟨hs, hsome⟩ := Store.superOf_of_superClass hbase
      have hi : s.inherits slot = true := by rw [Store.inherits, hs, hsome]
      dsimp only at h ⊢
      by_cases ho : options.inheritance = true
      · by_cases hd : d.superClass.isSome = true
        · simp only [ho, hd, Bool.not_true, Bool.or_true, if_true] at h ⊢
          cases h
          exact rejected_notes hl (by simp [Draft.complaint, hindex, hi, ho, hkept])
        · simp only [ho, hd, Bool.not_true, Bool.or_false] at h ⊢
          cases h
          exact kept_notes (Store.methodsOf_of_inherits hi)
      · simp only [ho, Bool.not_false, Bool.true_or, if_true] at h ⊢
        cases h
        exact rejected_notes hl (by simp [Draft.complaint, hindex, ho])
  | none =>
      have hi : s.inherits slot = false := by
        rw [Store.inherits, Store.superOf, hbase]
        rfl
      obtain ⟨ms, hms, h⟩ := bind_eq_ok.mp h
      refine .lift_bind hms ?_
      cases ms with
      | some ms =>
          cases h
          have labelled : ∀ m ∈ ms, ∃ l, s.label m.function = .ok l := fun m hm =>
            Store.label_of_isConvertible (Store.methods_convertible hms m hm)
          have hadd := addMethods_notes d.candidate ms labelled
          rw [Draft.remarksAt, (Store.methodsOf_of_methods hms).1, ← List.append_nil (remarksOf _ _)]
          exact .bind hadd (.pure _)
      | none =>
          obtain ⟨replaced, hreplaced, h⟩ := bind_eq_ok.mp h
          refine .lift_bind hreplaced ?_
          cases replaced with
          | true =>
              cases h
              exact rejected_notes hl (by simp [Draft.complaint, hindex, hi])
          | false =>
              cases h
              exact kept_notes (by rw [Store.methodsOf, hms])

/-- What is remarked on a statement that modifies the prototype of a drafted class. -/
theorem examineOwned_notes (hm : s.modifies d.name slot = true)
    (h : d.verdict s options block index slot = .ok r) :
    Detect.Notes (examineOwned s options block index slot d) r
      (d.remarksAt s options block index slot r) := by
  obtain ⟨l, hl⟩ := Store.label_of_prototypeOwner (Store.modifies_iff.mp hm)
  unfold Draft.verdict at h
  unfold examineOwned
  by_cases hindex : index < d.position
  · rw [if_pos hindex] at h ⊢
    cases h
    exact rejected_notes hl (by rw [Draft.complaint, if_pos hindex])
  rw [if_neg hindex] at h ⊢
  unfold Draft.absorb at h
  obtain ⟨reset, hreset, h⟩ := bind_eq_ok.mp h
  refine .lift_bind hreset ?_
  cases reset with
  | true =>
      cases h
      exact kept_notes (Store.methodsOf_of_resets (Store.resets_iff.mpr hreset))
  | false =>
      simp only [Bool.false_eq_true, if_false] at h ⊢
      -- a replacement of a prototype that was touched before is refused
      by_cases ht : d.touched = true
      · rw [if_pos ht] at h ⊢
        obtain ⟨replaced, hreplaced, h⟩ := bind_eq_ok.mp h
        refine .lift_bind hreplaced ?_
        have hr : s.replaces slot = replaced := by rw [Store.replaces, hreplaced]
        cases replaced with
        | true =>
            cases h
            exact rejected_notes hl (by simp [Draft.complaint, hindex, ht, hr])
        | false => exact examineAdded_notes hl hindex (by simp [hr]) h
      · rw [if_neg ht] at h ⊢
        exact examineAdded_notes hl hindex (by simp [ht]) h

end

/-! ## All drafts -/

namespace Draft

variable {s : Store} {options : Options} {block : Slot} {statement : Slot} {statements : List Slot}
  {index : Nat} {before after drafts : List Draft} {d d' : Draft}

theorem name_ne_of_distinct (distinct : ((before ++ d :: after).map name).Nodup) :
    ∀ e ∈ before ++ after, e.name ≠ d.name := by
  have hperm : ((before ++ d :: after).map name) ~ d.name :: (before ++ after).map name := by
    rw [← List.map_cons]
    exact List.perm_middle.map name
  obtain ⟨hnot, -⟩ := List.nodup_cons.mp (hperm.nodup_iff.mp distinct)
  exact fun e he hname => hnot (hname ▸ List.mem_map_of_mem he)

theorem find?_append (others : ∀ e ∈ before ++ after, e.name ≠ d.name) :
    (before ++ d :: after).find? (·.name = d.name) = some d := by
  have hbefore : before.find? (·.name = d.name) = none :=
    List.find?_eq_none.mpr fun e he => by simpa using others e (List.mem_append_left _ he)
  rw [List.find?_append, hbefore, Option.none_or, List.find?_cons_of_pos (by simp)]

theorem drop_append (others : ∀ e ∈ before ++ after, e.name ≠ d.name) :
    drop d.name (before ++ d :: after) = before ++ after := by
  have hkept : (before ++ after).filter (·.name ≠ d.name) = before ++ after :=
    List.filter_eq_self.mpr fun e he => by simpa using others e he
  rw [drop, List.filter_append, List.filter_cons_of_neg (by simp), ← List.filter_append, hkept]

theorem change_append (others : ∀ e ∈ before ++ after, e.name ≠ d.name) :
    change d.name (fun _ => d') (before ++ d :: after) = before ++ d' :: after := by
  have hsame : ∀ e ∈ before ++ after, (if e.name = d.name then d' else e) = e := fun e he =>
    if_neg (others e he)
  have hbefore : before.map (fun e => if e.name = d.name then d' else e) = before :=
    (List.map_congr_left fun e he => hsame e (List.mem_append_left _ he)).trans (List.map_id _)
  have hafter : after.map (fun e => if e.name = d.name then d' else e) = after :=
    (List.map_congr_left fun e he => hsame e (List.mem_append_right _ he)).trans (List.map_id _)
  rw [change, List.map_append, List.map_cons, if_pos rfl, hbefore, hafter]

theorem flatMap_middle (f : Draft → List Remark) :
    (before ++ d :: after).flatMap f ~ f d ++ (before ++ after).flatMap f := by
  have hperm : (before ++ d :: after).flatMap f ~ (d :: (before ++ after)).flatMap f :=
    List.perm_middle.flatMap_right f
  rwa [List.flatMap_cons] at hperm

/-- Drafts whose prototype the statement does not modify are remarked on by the others alone. -/
theorem flatMap_remarks_of_not_modifies (h : ∀ e ∈ drafts, ¬ s.modifies e.name statement = true) :
    drafts.flatMap (fun e => e.remarks s options block index (statement :: statements)) =
      drafts.flatMap fun e => e.remarks s options block (index + 1) statements :=
  List.flatMap_congr fun e he => remarks_cons_of_not_modifies (h e he)

/-- A statement about the prototype of one draft is remarked on for this draft alone. -/
theorem flatMap_remarks_middle (h : ∀ e ∈ before ++ after, ¬ s.modifies e.name statement = true) :
    (before ++ d :: after).flatMap (fun e => e.remarks s options block index (statement :: statements)) ~
      d.remarks s options block index (statement :: statements) ++
        (before ++ after).flatMap fun e => e.remarks s options block (index + 1) statements := by
  rw [← flatMap_remarks_of_not_modifies h]
  exact flatMap_middle _

end Draft

section

variable {s : Store} {options : Options} {block st : Slot} {statements : List Slot} {index : Nat}
  {before after drafts : List Draft} {d : Draft}

/-- The examination ends, and it remarks on every draft, in whatever order. -/
def RemarksOnAll (s : Store) (options : Options) (block : Slot) (index : Nat) (drafts : List Draft)
    (statements : List Slot) : Prop :=
  ∃ left rs, Detect.Notes (examine s options block index drafts statements) left rs ∧
    rs ~ drafts.flatMap fun d => d.remarks s options block index statements

/-- One statement that modifies the prototype of a draft: the remark on this draft comes first. -/
theorem RemarksOnAll.owned (distinct : ((before ++ d :: after).map Draft.name).Nodup)
    (ho : s.prototypeOwner? st = .ok (some d.name))
    (followed : ∀ e ∈ before ++ d :: after,
      ∃ o, e.follow s options block index (st :: statements) = .ok o)
    (hnext : ∀ next : List Draft, (next.map Draft.name).Nodup →
      (∀ e ∈ next, ∃ o, e.follow s options block (index + 1) statements = .ok o) →
      RemarksOnAll s options block (index + 1) next statements) :
    RemarksOnAll s options block index (before ++ d :: after) (st :: statements) := by
  have hm : s.modifies d.name st = true := Store.modifies_iff.mpr ho
  have hnames := Draft.name_ne_of_distinct distinct
  have hnot : ∀ e ∈ before ++ after, ¬ s.modifies e.name st = true := fun e he hme =>
    hnames e he (Store.modifies_unique hme hm)
  have hfollow : ∀ e ∈ before ++ after,
      ∃ o, e.follow s options block (index + 1) statements = .ok o := by
    intro e he
    rw [← Draft.follow_cons_of_not_modifies (hnot e he)]
    exact followed e (List.perm_middle.mem_iff.mpr (List.mem_cons_of_mem _ he))
  have hsplit : (before ++ d :: after).flatMap
        (fun e => e.remarks s options block index (st :: statements)) ~
      d.remarks s options block index (st :: statements) ++
        (before ++ after).flatMap fun e => e.remarks s options block (index + 1) statements :=
    Draft.flatMap_remarks_middle hnot
  obtain ⟨r, hr⟩ := followed d (by simp)
  unfold RemarksOnAll
  rw [examine_cons_of_find ho (Draft.find?_append hnames)]
  cases hv : d.verdict s options block index st with
  | error fault =>
      rw [Draft.follow_cons, if_pos hm, hv] at hr
      cases hr
  | ok v =>
      have howned := examineOwned_notes hm hv
      -- the statement ends the draft or lets it grow: either way the names stay distinct
      cases v with
      | none =>
          have hdistinct : ((before ++ after).map Draft.name).Nodup :=
            distinct.sublist (((List.sublist_cons_self d after).append_left before).map _)
          obtain ⟨left, rs, hnotes, hrs⟩ := hnext _ hdistinct hfollow
          rw [← Draft.drop_append hnames] at hnotes
          rw [Draft.remarks_cons_of_rejected hm hv] at hsplit
          exact ⟨left, _, .bind howned hnotes, (Perm.append_left _ hrs).trans hsplit.symm⟩
      | some d' =>
          have hdistinct : ((before ++ d' :: after).map Draft.name).Nodup := by
            rw [List.map_append, List.map_cons, Draft.name_of_verdict hv, ← List.map_cons,
              ← List.map_append]
            exact distinct
          have hfollow' : ∀ e ∈ before ++ d' :: after,
              ∃ o, e.follow s options block (index + 1) statements = .ok o := by
            intro e he
            rcases List.mem_cons.mp (List.perm_middle.mem_iff.mp he) with rfl | he
            · rw [← Draft.follow_cons_of_verdict hm hv]
              exact ⟨r, hr⟩
            · exact hfollow e he
          obtain ⟨left, rs, hnotes, hrs⟩ := hnext _ hdistinct hfollow'
          rw [← Draft.change_append hnames] at hnotes
          rw [Draft.remarks_cons_of_verdict hm hv, List.append_assoc] at hsplit
          have hrs := hrs.trans (Draft.flatMap_middle _)
          exact ⟨left, _, .bind howned hnotes, (Perm.append_left _ hrs).trans hsplit.symm⟩

theorem examine_notes (distinct : (drafts.map Draft.name).Nodup)
    (owners : ∀ st ∈ statements, ∃ o, s.prototypeOwner? st = .ok o)
    (followed : ∀ d ∈ drafts, ∃ o, d.follow s options block index statements = .ok o) :
    RemarksOnAll s options block index drafts statements := by
  induction statements generalizing index drafts with
  | nil =>
      have hnone : drafts.flatMap (fun d => d.remarks s options block index []) = [] :=
        List.flatMap_eq_nil_iff.mpr fun _ _ => rfl
      exact ⟨drafts, [], .pure drafts, by rw [hnone]⟩
  | cons st statements ih =>
      obtain ⟨⟨o, ho⟩, hrest⟩ := List.forall_mem_cons.mp owners
      by_cases hothers : ∀ d ∈ drafts, o ≠ some d.name
      · have hnone : ∀ d ∈ drafts, ¬ s.modifies d.name st = true := by
          intro d hd hm
          rw [Store.modifies_iff, ho] at hm
          exact hothers d hd (Except.ok.inj hm)
        rw [RemarksOnAll, examine_cons_of_others ho hothers,
          Draft.flatMap_remarks_of_not_modifies hnone]
        refine ih distinct hrest fun d hd => ?_
        rw [← Draft.follow_cons_of_not_modifies (hnone d hd)]
        exact followed d hd
      · push Not at hothers
        obtain ⟨d, hd, rfl⟩ := hothers
        obtain ⟨before, after, rfl⟩ := List.append_of_mem hd
        exact .owned distinct ho followed fun next hdistinct => ih hdistinct hrest

/-- The remarks of a detection: on the functions that are declared again, and then on the drafts of
those that are declared once. -/
theorem detect_notes {candidates : List Candidate}
    (h : Candidates s options block (s.children block) candidates) :
    ∃ left found rs, Detect.Notes (detect s options block) left
        (remarksOf .duplicateClass
          (recurring [] ((s.children block).filterMap (s.declaredName? block))) ++ rs) ∧
      Finds s block 0 [] [] (s.children block) found ∧
      rs ~ found.flatMap fun d => d.remarks s options block 0 (s.children block) := by
  have hfinds : FindsAll s block 0 [] [] (s.children block)
      (declarations s block 0 [] [] (s.children block)) := declarations_findsAll (by simp)
  obtain ⟨found', hnotes⟩ := declarations_notes 0 [] [] h.declarations
  rcases hfinds with ⟨-, found, hfound, hgives⟩ | ⟨fault, ⟨st, hst, hfault⟩, -⟩
  case inr =>
    obtain ⟨o, ho⟩ := h.declarations st hst
    rw [ho] at hfault
    cases hfault
  obtain rfl := hnotes.eq_of_gives hgives
  unfold detect
  by_cases hempty : found'.isEmpty = true
  · obtain rfl := List.isEmpty_iff.mp hempty
    exact ⟨[], [], [], .bind hnotes (.pure _), hfound, .refl _⟩
  -- with a draft at hand every owner of a prototype is known, so the examination ends
  · have once : ∀ d ∈ found', DeclaredOnce s block 0 (s.children block) d := by
      intro d hd
      simpa using (hfound.mem_iff d).mp hd
    obtain ⟨d, hd⟩ := List.exists_mem_of_ne_nil found' fun hnil => hempty (hnil ▸ rfl)
    have hall : RemarksOnAll s options block 0 found' (s.children block) :=
      examine_notes hfound.distinct (h.owners ⟨d, once d hd⟩) fun d hd => h.followed d (once d hd)
    obtain ⟨left, rs, hexamine, hrs⟩ := hall
    refine ⟨left.map Draft.finish, found', rs, .bind hnotes ?_, hfound, hrs⟩
    rw [if_neg hempty, ← List.append_nil rs]
    exact .bind hexamine (.pure _)

end

end ClassLift
