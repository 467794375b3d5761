import ClassLift.Proofs.Statement.Form
import Mathlib.Data.List.Nodup

set_option autoImplicit false

/-! # Drafts, one at a time

The examination of the statements of a block goes through all statements once, with the
drafts of all classes at hand. But a statement concerns the draft of one class alone: what
the examination leaves of a draft is what the statements that modify its prototype make of
it, one after the other (`Draft.follow`), whatever stands between them. The warnings apart,
`examine_examines` says that the examination succeeds exactly when this succeeds for every
draft, and what it then leaves.
-/

namespace ClassLift

/-- Does the statement modify the prototype of `name`? -/
def Store.modifies (s : Store) (name : String) (statement : Slot) : Bool :=
  match s.prototypeOwner? statement with
  | .ok (some owner) => owner == name
  | _ => false

theorem Store.modifies_iff {s : Store} {name : String} {statement : Slot} :
    s.modifies name statement = true ↔ s.prototypeOwner? statement = .ok (some name) := by
  unfold modifies
  split
  · rename_i owner h
    simp [h]
  · rename_i h
    constructor
    · intro hf; cases hf
    · intro hn; exact absurd hn (h name)

/-- A statement modifies one prototype at most. -/
theorem Store.modifies_unique {s : Store} {name name' : String} {statement : Slot}
    (h : s.modifies name statement = true) (h' : s.modifies name' statement = true) :
    name = name' := by
  have howner := modifies_iff.mp h
  rw [modifies_iff.mp h'] at howner
  exact (Option.some.inj (Except.ok.inj howner)).symm

namespace Draft

variable (s : Store) (options : Options) (block : Slot)

/-! ## What one statement means -/

/-- What a statement adds to the draft when it neither resets the constructor nor replaces a
prototype that was modified before; none when the class is rejected. -/
def contribute (d : Draft) (statement : Slot) : Except Fault (Option Draft) := do
  match ← s.superClass? statement with
  | some base =>
    if !options.inheritance || d.superClass.isSome then return none
    else
      return some
        { d with touched := true, superClass := base, related := d.related ++ [(block, statement)] }
  | none =>
    match ← s.methods? options block statement with
    | some methods =>
      return some
        { d with
          touched := true
          candidate := { d.candidate with methods := d.candidate.methods ++ methods } }
    | none =>
      if ← s.replacesPrototype statement then return none
      else return some { d with touched := true }

/-- What a statement that modifies the prototype of the drafted class, and stands after its
declaration, means for the draft; none when the class is rejected. -/
def absorb (d : Draft) (statement : Slot) : Except Fault (Option Draft) := do
  if ← s.isConstructorReset d.name statement then
    return some { d with related := d.related ++ [(block, statement)] }
  else if d.touched then
    if ← s.replacesPrototype statement then return none
    else d.contribute s options block statement
  else d.contribute s options block statement

/-- What a statement that modifies the prototype of the drafted class means for the draft. -/
def verdict (index : Nat) (d : Draft) (statement : Slot) : Except Fault (Option Draft) :=
  if index < d.position then .ok none else d.absorb s options block statement

/-- What the statements from the given index on mean for one draft. -/
def follow : Nat → Draft → List Slot → Except Fault (Option Draft)
  | _, d, [] => .ok (some d)
  | index, d, statement :: statements =>
    if s.modifies d.name statement then
      match d.verdict s options block index statement with
      | .error fault => .error fault
      | .ok none => .ok none
      | .ok (some d') => follow (index + 1) d' statements
    else follow (index + 1) d statements

/-- What is left of the draft after the statements. -/
def survivor (index : Nat) (statements : List Slot) (d : Draft) : Option Draft :=
  match d.follow s options block index statements with
  | .ok result => result
  | .error _ => none

variable {s options block} {d d' : Draft} {statement : Slot} {statements : List Slot} {index : Nat}

theorem name_of_contribute (h : d.contribute s options block statement = .ok (some d')) :
    d'.name = d.name := by
  unfold contribute at h
  obtain ⟨base, -, h⟩ := bind_eq_ok.mp h
  cases base with
  | some base =>
      dsimp only at h
      split at h
      · cases h
      · cases h; rfl
  | none =>
      obtain ⟨ms, -, h⟩ := bind_eq_ok.mp h
      cases ms with
      | some ms => cases h; rfl
      | none =>
          obtain ⟨b, -, h⟩ := bind_eq_ok.mp h
          split at h
          · cases h
          · cases h; rfl

theorem name_of_absorb (h : d.absorb s options block statement = .ok (some d')) :
    d'.name = d.name := by
  unfold absorb at h
  obtain ⟨b, -, h⟩ := bind_eq_ok.mp h
  split at h
  · cases h; rfl
  split at h
  · obtain ⟨b', -, h⟩ := bind_eq_ok.mp h
    split at h
    · cases h
    · exact name_of_contribute h
  · exact name_of_contribute h

theorem name_of_verdict (h : d.verdict s options block index statement = .ok (some d')) :
    d'.name = d.name := by
  unfold verdict at h
  split at h
  · cases h
  · exact name_of_absorb h

theorem follow_cons : d.follow s options block index (statement :: statements) =
    if s.modifies d.name statement then
      match d.verdict s options block index statement with
      | .error fault => .error fault
      | .ok none => .ok none
      | .ok (some d') => d'.follow s options block (index + 1) statements
    else d.follow s options block (index + 1) statements := by
  simp only [follow]

theorem follow_cons_of_not_modifies (h : ¬ s.modifies d.name statement = true) :
    d.follow s options block index (statement :: statements) =
      d.follow s options block (index + 1) statements := by
  rw [follow_cons, if_neg h]

theorem follow_cons_of_verdict (h : s.modifies d.name statement = true)
    (hv : d.verdict s options block index statement = .ok (some d')) :
    d.follow s options block index (statement :: statements) =
      d'.follow s options block (index + 1) statements := by
  rw [follow_cons, if_pos h, hv]

theorem follow_cons_of_rejected (h : s.modifies d.name statement = true)
    (hv : d.verdict s options block index statement = .ok none) :
    d.follow s options block index (statement :: statements) = .ok none := by
  rw [follow_cons, if_pos h, hv]

end Draft

/-! ## The examination of one statement -/

section

variable {s : Store} {options : Options} {block slot : Slot} {index : Nat} {d : Draft}

theorem addMethods_gives (c : Candidate) (methods : List Method)
    (h : ∀ m ∈ methods, ∃ l, s.label m.function = .ok l) :
    Detect.Gives (addMethods s c methods) (.ok { c with methods := c.methods ++ methods }) := by
  induction methods generalizing c with
  | nil =>
      unfold addMethods
      rw [List.append_nil]
      exact Detect.Gives.pure c
  | cons m methods ih =>
      obtain ⟨l, hl⟩ := h m (by simp)
      have rest := ih (c.addMethod m) (fun m' hm' => h m' (by simp [hm']))
      have hc : (c.addMethod m).methods ++ methods = c.methods ++ m :: methods := by
        simp [Candidate.addMethod]
      rw [hc] at rest
      unfold addMethods
      split
      · exact Detect.Gives.bind (Detect.Gives.warn hl _ _) rest
      · exact rest

/-- How `examineOwned` goes on with a statement, both when it replaces a prototype that was not
modified before and when it replaces none. -/
def examineAdded (s : Store) (options : Options) (block slot : Slot) (d : Draft) :
    Detect (Option Draft) := do
  match ← s.superClass? slot with
  | some base =>
    if !options.inheritance then
      Detect.warn s slot .unsupportedPrototype d.name
      return none
    if d.superClass.isSome then
      Detect.warn s slot .multipleInheritance d.name
      return none
    return some
      { d with touched := true, superClass := base, related := d.related ++ [(block, slot)] }
  | _ =>
    match ← s.methods? options block slot with
    | some methods =>
      return some { d with touched := true, candidate := ← addMethods s d.candidate methods }
    | _ =>
      if ← s.replacesPrototype slot then
        Detect.warn s slot .unsupportedPrototype d.name
        return none
      return some { d with touched := true }

/-- The draft is rejected with a warning. -/
theorem rejected_gives {l : Label} (hl : s.label slot = .ok l) (w : Warning) (name : String) :
    Detect.Gives (do Detect.warn s slot w name; return (none : Option Draft)) (.ok none) :=
  Detect.Gives.bind (Detect.Gives.warn hl w name) (Detect.Gives.pure none)

theorem examineAdded_gives {l : Label} (hl : s.label slot = .ok l) :
    Detect.Gives (examineAdded s options block slot d) (d.contribute s options block slot) := by
  unfold examineAdded Draft.contribute
  refine Detect.Gives.lift_bind (fun base _ => ?_)
  -- the cases are the tests of `contribute`, in their order
  cases base with
  | some base =>
      dsimp only
      by_cases ho : options.inheritance = true
      · by_cases hs : d.superClass.isSome = true
        · simp only [ho, hs, Bool.not_true, Bool.or_true]
          exact rejected_gives hl _ _
        · simp only [ho, hs, Bool.not_true, Bool.or_false]
          exact Detect.Gives.pure _
      · simp only [ho, Bool.not_false, Bool.true_or]
        exact rejected_gives hl _ _
  | none =>
      refine Detect.Gives.lift_bind (fun ms hms => ?_)
      cases ms with
      | some ms =>
          have labelled : ∀ m ∈ ms, ∃ l, s.label m.function = .ok l := fun m hm =>
            Store.label_of_isConvertible (Store.methods_convertible hms m hm)
          exact Detect.Gives.bind (addMethods_gives d.candidate ms labelled)
            (Detect.Gives.pure _)
      | none =>
          refine Detect.Gives.lift_bind (fun replaces _ => ?_)
          split
          · exact rejected_gives hl _ _
          · exact Detect.Gives.pure _

/-- The warnings apart, a statement that modifies the prototype of a drafted class means
`Draft.verdict`. -/
theorem examineOwned_gives (h : s.modifies d.name slot = true) :
    Detect.Gives (examineOwned s options block index slot d)
      (d.verdict s options block index slot) := by
  obtain ⟨l, hl⟩ := Store.label_of_prototypeOwner (Store.modifies_iff.mp h)
  unfold examineOwned Draft.verdict Draft.absorb
  by_cases hi : index < d.position
  · rw [if_pos hi, if_pos hi]
    exact rejected_gives hl _ _
  rw [if_neg hi, if_neg hi]
  refine Detect.Gives.lift_bind (fun reset _ => ?_)
  by_cases hr : reset = true
  · rw [if_pos hr, if_pos hr]
    exact Detect.Gives.pure _
  rw [if_neg hr, if_neg hr]
  dsimp only
  by_cases ht : d.touched = true
  · rw [if_pos ht, if_pos ht]
    refine Detect.Gives.lift_bind (fun replaces _ => ?_)
    by_cases hp : replaces = true
    · rw [if_pos hp, if_pos hp]
      exact rejected_gives hl _ _
    · rw [if_neg hp, if_neg hp]
      exact examineAdded_gives hl
  · rw [if_neg ht, if_neg ht]
    exact examineAdded_gives hl

end

/-! ## The drafts that are left -/

namespace Draft

variable {s : Store} {options : Options} {block statement : Slot} {statements : List Slot}
  {index : Nat} {drafts : List Draft} {d d' e : Draft}

/-- Of drafts with distinct names, there is one of each name. -/
theorem eq_of_name_eq (distinct : (drafts.map name).Nodup) (hd : d ∈ drafts) (he : e ∈ drafts)
    (h : e.name = d.name) : e = d :=
  List.inj_on_of_nodup_map distinct he hd h

theorem map_name_change (h : d'.name = d.name) :
    (change d.name (fun _ => d') drafts).map name = drafts.map name := by
  unfold change
  rw [List.map_map]
  refine List.map_congr_left (fun e _ => ?_)
  by_cases he : e.name = d.name
  · simp [he, h]
  · simp [he]

theorem survivor_cons_of_not_modifies (h : ¬ s.modifies d.name statement = true) :
    survivor s options block index (statement :: statements) d =
      survivor s options block (index + 1) statements d := by
  rw [survivor, survivor, follow_cons_of_not_modifies h]

theorem survivor_cons_of_rejected (h : s.modifies d.name statement = true)
    (hv : d.verdict s options block index statement = .ok none) :
    survivor s options block index (statement :: statements) d = none := by
  rw [survivor, follow_cons_of_rejected h hv]

theorem survivor_cons_of_verdict (h : s.modifies d.name statement = true)
    (hv : d.verdict s options block index statement = .ok (some d')) :
    survivor s options block index (statement :: statements) d =
      survivor s options block (index + 1) statements d' := by
  rw [survivor, survivor, follow_cons_of_verdict h hv]

theorem filterMap_survivor_drop (distinct : (drafts.map name).Nodup) (hd : d ∈ drafts)
    (hm : s.modifies d.name statement = true)
    (others : ∀ e ∈ drafts, e.name ≠ d.name → ¬ s.modifies e.name statement = true)
    (hv : d.verdict s options block index statement = .ok none) :
    (drop d.name drafts).filterMap (survivor s options block (index + 1) statements) =
      drafts.filterMap (survivor s options block index (statement :: statements)) := by
  unfold drop
  rw [List.filterMap_filter]
  refine List.filterMap_congr (fun e he => ?_)
  by_cases h : e.name = d.name
  · rw [eq_of_name_eq distinct hd he h, survivor_cons_of_rejected hm hv]
    simp
  · rw [survivor_cons_of_not_modifies (others e he h)]
    simp [h]

theorem filterMap_survivor_change (distinct : (drafts.map name).Nodup) (hd : d ∈ drafts)
    (hm : s.modifies d.name statement = true)
    (others : ∀ e ∈ drafts, e.name ≠ d.name → ¬ s.modifies e.name statement = true)
    (hv : d.verdict s options block index statement = .ok (some d')) :
    (change d.name (fun _ => d') drafts).filterMap
        (survivor s options block (index + 1) statements) =
      drafts.filterMap (survivor s options block index (statement :: statements)) := by
  unfold change
  rw [List.filterMap_map]
  refine List.filterMap_congr (fun e he => ?_)
  by_cases h : e.name = d.name
  · rw [eq_of_name_eq distinct hd he h, survivor_cons_of_verdict hm hv]
    simp
  · rw [survivor_cons_of_not_modifies (others e he h)]
    simp [h]

end Draft

section

variable {s : Store} {options : Options} {block : Slot}

/-- The drafts at one statement and at the next one: nothing is lost between them. -/
structure Passes (s : Store) (options : Options) (block statement : Slot) (statements : List Slot)
    (index : Nat) (drafts next : List Draft) : Prop where
  distinct : (next.map Draft.name).Nodup
  left : next.filterMap (Draft.survivor s options block (index + 1) statements) =
    drafts.filterMap (Draft.survivor s options block index (statement :: statements))
  followed : (∀ d ∈ next, ∃ o, d.follow s options block (index + 1) statements = .ok o) →
    ∀ d ∈ drafts, ∃ o, d.follow s options block index (statement :: statements) = .ok o
  failed : ∀ fault, ∀ d ∈ next, d.follow s options block (index + 1) statements = .error fault →
    ∃ e ∈ drafts, e.follow s options block index (statement :: statements) = .error fault

variable {statement : Slot} {statements : List Slot} {index : Nat} {drafts : List Draft}
  {d d' : Draft}

theorem Passes.unconcerned (distinct : (drafts.map Draft.name).Nodup)
    (none : ∀ d ∈ drafts, ¬ s.modifies d.name statement = true) :
    Passes s options block statement statements index drafts drafts where
  distinct := distinct
  left := (List.filterMap_congr fun d hd =>
    Draft.survivor_cons_of_not_modifies (none d hd)).symm
  followed h d hd := by
    rw [Draft.follow_cons_of_not_modifies (none d hd)]
    exact h d hd
  failed fault d hd h := by
    refine ⟨d, hd, ?_⟩
    rw [Draft.follow_cons_of_not_modifies (none d hd)]
    exact h

theorem Passes.rejected (distinct : (drafts.map Draft.name).Nodup) (hd : d ∈ drafts)
    (hm : s.modifies d.name statement = true)
    (others : ∀ e ∈ drafts, e.name ≠ d.name → ¬ s.modifies e.name statement = true)
    (hv : d.verdict s options block index statement = .ok none) :
    Passes s options block statement statements index drafts (Draft.drop d.name drafts) where
  distinct := distinct.sublist (List.filter_sublist.map _)
  left := Draft.filterMap_survivor_drop distinct hd hm others hv
  followed h e he := by
    by_cases hn : e.name = d.name
    · rw [Draft.eq_of_name_eq distinct hd he hn]
      exact ⟨none, Draft.follow_cons_of_rejected hm hv⟩
    · rw [Draft.follow_cons_of_not_modifies (others e he hn)]
      exact h e (List.mem_filter.mpr ⟨he, by simpa using hn⟩)
  failed fault e he h := by
    obtain ⟨he, hn⟩ := List.mem_filter.mp he
    have hn : e.name ≠ d.name := by simpa using hn
    refine ⟨e, he, ?_⟩
    rw [Draft.follow_cons_of_not_modifies (others e he hn)]
    exact h

theorem Passes.changed (distinct : (drafts.map Draft.name).Nodup) (hd : d ∈ drafts)
    (hm : s.modifies d.name statement = true)
    (others : ∀ e ∈ drafts, e.name ≠ d.name → ¬ s.modifies e.name statement = true)
    (hv : d.verdict s options block index statement = .ok (some d')) :
    Passes s options block statement statements index drafts
      (Draft.change d.name (fun _ => d') drafts) where
  distinct := by
    rw [Draft.map_name_change (Draft.name_of_verdict hv)]
    exact distinct
  left := Draft.filterMap_survivor_change distinct hd hm others hv
  followed h e he := by
    have he' := h _ (List.mem_map_of_mem (f := fun d₁ => if d₁.name = d.name then d' else d₁) he)
    -- the draft itself is followed from what it has become, the others as they are
    by_cases hn : e.name = d.name
    · rw [if_pos hn] at he'
      rw [Draft.eq_of_name_eq distinct hd he hn, Draft.follow_cons_of_verdict hm hv]
      exact he'
    · rw [if_neg hn] at he'
      rw [Draft.follow_cons_of_not_modifies (others e he hn)]
      exact he'
  failed fault e he h := by
    obtain ⟨e', he', rfl⟩ := List.mem_map.mp he
    by_cases hn : e'.name = d.name
    · rw [if_pos hn] at h
      refine ⟨d, hd, ?_⟩
      rw [Draft.follow_cons_of_verdict hm hv]
      exact h
    · rw [if_neg hn] at h
      refine ⟨e', he', ?_⟩
      rw [Draft.follow_cons_of_not_modifies (others e' he' hn)]
      exact h

/-- What the computation `e` gives is what is left of each draft, when every statement is
understood and every draft can be followed; else it stops with the fault of a statement or of
a draft. -/
def Examines (s : Store) (options : Options) (block : Slot) (index : Nat) (drafts : List Draft)
    (statements : List Slot) (e : Detect (List Draft)) : Prop :=
  ((∀ st ∈ statements, ∃ o, s.prototypeOwner? st = .ok o) ∧
      (∀ d ∈ drafts, ∃ o, d.follow s options block index statements = .ok o) ∧
      e.Gives (.ok (drafts.filterMap (Draft.survivor s options block index statements)))) ∨
    ∃ fault, ((∃ st ∈ statements, s.prototypeOwner? st = .error fault) ∨
        ∃ d ∈ drafts, d.follow s options block index statements = .error fault) ∧
      e.Gives (.error fault)

theorem Examines.cons {next : List Draft} {o : Option String} {e e' : Detect (List Draft)}
    (h : Examines s options block (index + 1) next statements e)
    (pass : Passes s options block statement statements index drafts next)
    (ho : s.prototypeOwner? statement = .ok o) (run : ∀ r, e.Gives r → e'.Gives r) :
    Examines s options block index drafts (statement :: statements) e' := by
  rcases h with ⟨owners, followed, gives⟩ | ⟨fault, origin, gives⟩
  · left
    refine ⟨List.forall_mem_cons.mpr ⟨⟨o, ho⟩, owners⟩, pass.followed followed, ?_⟩
    rw [← pass.left]
    exact run _ gives
  · right
    refine ⟨fault, ?_, run _ gives⟩
    rcases origin with ⟨u, hu, h⟩ | ⟨d, hd, h⟩
    · exact Or.inl ⟨u, List.mem_cons_of_mem _ hu, h⟩
    · exact Or.inr (pass.failed fault d hd h)

/-- A statement that modifies the prototype of no draft is passed over. -/
theorem examine_cons_of_others {o : Option String} (ho : s.prototypeOwner? statement = .ok o)
    (others : ∀ d ∈ drafts, o ≠ some d.name) :
    examine s options block index drafts (statement :: statements) =
      examine s options block (index + 1) drafts statements := by
  rw [examine, ho, Detect.lift_ok_bind]
  cases o with
  | none => rfl
  | some name =>
      have hfind : drafts.find? (·.name = name) = none := by
        refine List.find?_eq_none.mpr fun d hd hname => others d hd ?_
        rw [of_decide_eq_true hname]
      dsimp only
      rw [hfind]

theorem examine_cons_of_find {name : String} (ho : s.prototypeOwner? statement = .ok (some name))
    (hfind : drafts.find? (·.name = name) = some d) :
    examine s options block index drafts (statement :: statements) =
      examineOwned s options block index statement d >>= fun
        | none => examine s options block (index + 1) (Draft.drop name drafts) statements
        | some d' =>
          examine s options block (index + 1) (Draft.change name (fun _ => d') drafts) statements := by
  rw [examine, ho, Detect.lift_ok_bind]
  dsimp only
  exact hfind ▸ rfl

/-- One statement that modifies the prototype of a draft. -/
theorem Examines.owned (distinct : (drafts.map Draft.name).Nodup)
    (ho : s.prototypeOwner? statement = .ok (some d.name))
    (hfind : drafts.find? (·.name = d.name) = some d)
    (hnext : ∀ next : List Draft, (next.map Draft.name).Nodup →
      Examines s options block (index + 1) next statements
        (examine s options block (index + 1) next statements)) :
    Examines s options block index drafts (statement :: statements)
      (examine s options block index drafts (statement :: statements)) := by
  have hd : d ∈ drafts := List.mem_of_find?_eq_some hfind
  have hm : s.modifies d.name statement = true := Store.modifies_iff.mpr ho
  have others : ∀ e ∈ drafts, e.name ≠ d.name → ¬ s.modifies e.name statement = true :=
    fun e _ hne he => hne (Store.modifies_unique he hm)
  have owned : Detect.Gives (examineOwned s options block index statement d)
      (d.verdict s options block index statement) := examineOwned_gives hm
  -- only the draft of this name is asked, and stopped, dropped or changed
  rw [examine_cons_of_find ho hfind]
  cases hv : d.verdict s options block index statement with
  | error fault =>
      rw [hv] at owned
      refine Or.inr ⟨fault, Or.inr ⟨d, hd, ?_⟩, .bind_error owned⟩
      rw [Draft.follow_cons, if_pos hm, hv]
  | ok v =>
      rw [hv] at owned
      cases v with
      | none =>
          have pass : Passes s options block statement statements index drafts _ :=
            .rejected distinct hd hm others hv
          exact (hnext _ pass.distinct).cons pass ho fun _ hr => .bind owned hr
      | some d' =>
          have pass : Passes s options block statement statements index drafts _ :=
            .changed distinct hd hm others hv
          exact (hnext _ pass.distinct).cons pass ho fun _ hr => .bind owned hr

theorem examine_examines (distinct : (drafts.map Draft.name).Nodup) :
    Examines s options block index drafts statements
      (examine s options block index drafts statements) := by
  induction statements generalizing index drafts with
  | nil =>
      refine Or.inl ⟨by simp, fun d _ => ⟨some d, rfl⟩, ?_⟩
      have all : drafts.filterMap (Draft.survivor s options block index []) = drafts :=
        List.filterMap_some
      unfold examine
      rw [all]
      exact Detect.Gives.pure _
  | cons st statements ih =>
      cases ho : s.prototypeOwner? st with
      | error fault =>
          refine Or.inr ⟨fault, Or.inl ⟨st, by simp, ho⟩, ?_⟩
          unfold examine
          rw [ho]
          exact Detect.Gives.bind_error (Detect.Gives.lift _)
      | ok o =>
          by_cases hothers : ∀ d ∈ drafts, o ≠ some d.name
          -- no draft has this prototype
          · have hnone : ∀ d ∈ drafts, ¬ s.modifies d.name st = true := by
              intro d hd hm
              rw [Store.modifies_iff, ho] at hm
              exact hothers d hd (Except.ok.inj hm)
            rw [examine_cons_of_others ho hothers]
            exact (ih distinct).cons (.unconcerned distinct hnone) ho fun _ hr => hr
          · push Not at hothers
            obtain ⟨d, hd, rfl⟩ := hothers
            -- names are distinct, so the draft that is found is this one
            have hfind : drafts.find? (·.name = d.name) = some d := by
              have hsome : (drafts.find? (·.name = d.name)).isSome = true :=
                List.find?_isSome.mpr ⟨d, hd, by simp⟩
              obtain ⟨e, he⟩ := Option.isSome_iff_exists.mp hsome
              have hname : e.name = d.name := by simpa using List.find?_some he
              rw [he, Draft.eq_of_name_eq distinct hd (List.mem_of_find?_eq_some he) hname]
            exact .owned distinct ho hfind fun next => ih

end

end ClassLift
