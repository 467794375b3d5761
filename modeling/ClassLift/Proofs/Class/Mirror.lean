import ClassLift.Proofs.Class.Draft
import ClassLift.Proofs.Statement.Mirror

set_option autoImplicit false

/-! # Detections in mirrored stores

The detection finds the same candidates in two containers that are partners, and warns of the same
on the way (`Mirror.detect`): each step of it agrees on both sides, from drafts that are twins to
drafts that are twins.
-/

namespace ClassLift

open List

/-- A draft, and its counterpart. -/
structure Draft.Twins (R : TokenId → TokenId → Prop) (d d' : Draft) : Prop where
  candidate : d.candidate.Twins R d'.candidate
  position : d.position = d'.position
  touched : d.touched = d'.touched
  superClass : Partners R d.superClass d'.superClass
  related : Forall₂ (fun p p' => Partners R p.1 p'.1 ∧ Partners R p.2 p'.2) d.related d'.related

variable {s s' : Store} {R R' : TokenId → TokenId → Prop} {block block' slot slot' : Slot}
  {options : Options} {c c' : Candidate} {d d' : Draft} {m m' : Method} {drafts drafts' : List Draft}
  {methods methods' : List Method} {statements statements' : List Slot}

/-! ## Candidates -/

namespace Candidate.Twins

theorem addMethod (h : c.Twins R c') (hm : m.Twins R m') :
    (c.addMethod m).Twins R (c'.addMethod m') :=
  { h with methods := List.rel_append h.methods (.cons hm .nil) }

theorem isTransformable (h : c.Twins R c') : c'.isTransformable = c.isTransformable := by
  have hempty : c'.methods.isEmpty = c.methods.isEmpty := by
    rw [Bool.eq_iff_iff, List.isEmpty_iff_length_eq_zero, List.isEmpty_iff_length_eq_zero,
      h.methods.length_eq]
  rw [Candidate.isTransformable, Candidate.isTransformable, hempty, h.superClass.isSome]

theorem hasMethod (h : c.Twins R c') (hm : m.Twins R m') :
    c'.methods.any (·.name = m'.name) = c.methods.any (·.name = m.name) := by
  have hmethods := h.methods
  generalize c.methods = ms at hmethods ⊢
  generalize c'.methods = ms' at hmethods ⊢
  induction hmethods with
  | nil => rfl
  | cons hfirst _ ih => rw [List.any_cons, List.any_cons, ih, hfirst.name, hm.name]

end Candidate.Twins

/-! ## Drafts -/

namespace Draft

/-! Lists of drafts are searched and changed by name alone. -/

variable {D : Draft → Draft → Prop}

theorem any_name (hD : ∀ d d', D d d' → d.name = d'.name) (h : Forall₂ D drafts drafts')
    (name : String) : drafts'.any (·.name = name) = drafts.any (·.name = name) := by
  induction h with
  | nil => rfl
  | cons hfirst _ ih => rw [List.any_cons, List.any_cons, ih, hD _ _ hfirst]

theorem find_name (hD : ∀ d d', D d d' → d.name = d'.name) (h : Forall₂ D drafts drafts')
    (name : String) :
    Option.Rel D (drafts.find? (·.name = name)) (drafts'.find? (·.name = name)) := by
  induction h with
  | nil => exact .none
  | @cons d d' _ _ hfirst _ ih =>
      rw [List.find?_cons, List.find?_cons, hD _ _ hfirst]
      cases decide (d'.name = name) with
      | false => exact ih
      | true => exact .some hfirst

theorem rel_drop (hD : ∀ d d', D d d' → d.name = d'.name) (h : Forall₂ D drafts drafts')
    (name : String) : Forall₂ D (drop name drafts) (drop name drafts') :=
  List.rel_filter (fun d d' hd => by simp [hD _ _ hd]) h

theorem rel_change (hD : ∀ d d', D d d' → d.name = d'.name) (h : Forall₂ D drafts drafts')
    (hd : D d d') (name : String) :
    Forall₂ D (change name (fun _ => d) drafts) (change name (fun _ => d') drafts') := by
  refine List.rel_map (fun e e' he => ?_) h
  rw [hD _ _ he]
  split
  · exact hd
  · exact he

end Draft

namespace Draft.Twins

theorem name (h : d.Twins R d') : d.name = d'.name := h.candidate.name

theorem related_concat (h : d.Twins R d') (hblock : Partners R block block')
    (hslot : Partners R slot slot') :
    Forall₂ (fun p p' => Partners R p.1 p'.1 ∧ Partners R p.2 p'.2)
      (d.related ++ [(block, slot)]) (d'.related ++ [(block', slot')]) :=
  List.rel_append h.related (.cons ⟨hblock, hslot⟩ .nil)

theorem finish (h : d.Twins R d') : d.finish.Twins R d'.finish := by
  have hsuper := h.superClass
  unfold Draft.finish
  cases d with
  | mk candidate position touched superClass related =>
      cases d' with
      | mk candidate' position' touched' superClass' related' =>
          cases hsuper with
          | none => exact h.candidate
          | some hR =>
              exact { h.candidate with
                superClass := .some hR
                inheritance := List.rel_append h.candidate.inheritance h.related }

end Draft.Twins

namespace Mirror

/-! ## Declarations -/

theorem declarations (h : Mirror R s s') (hblock : Partners R block block')
    (hdrafts : Forall₂ (Draft.Twins R) drafts drafts')
    (hstatements : Forall₂ (Partners R) statements statements') (index : Nat)
    (rejected : List String) :
    Detect.Agree (Forall₂ (Draft.Twins R)) (declarations s block index drafts rejected statements)
      (declarations s' block' index drafts' rejected statements') := by
  induction hstatements generalizing index drafts drafts' rejected with
  | nil => exact .pure hdrafts
  | cons hstatement _ ih =>
      unfold ClassLift.declarations
      refine (Detect.Agree.lift (h.declaration? hblock hstatement)).bind fun o o' ho => ?_
      cases ho with
      | none => exact ih hdrafts _ _
      | @some c c' hc =>
          dsimp only
          rw [hc.name, Draft.any_name (fun _ _ hd => hd.name) hdrafts]
          -- a second declaration of a name drops the draft of the first on both sides
          refine .ite ((Detect.Agree.warn (h.label hstatement) _ _).bind fun _ _ _ => ?_) ?_
          · exact ih (Draft.rel_drop (fun _ _ hd => hd.name) hdrafts _) _ _
          · have hdraft : Draft.Twins R ⟨c, index, false, none, []⟩ ⟨c', index, false, none, []⟩ :=
              ⟨hc, rfl, rfl, .none, .nil⟩
            exact ih (List.rel_append hdrafts (.cons hdraft .nil)) _ _

/-! ## Statements about a prototype -/

theorem addMethods (h : Mirror R s s') (hc : c.Twins R c')
    (hmethods : Forall₂ (Method.Twins R) methods methods') :
    Detect.Agree (Candidate.Twins R) (addMethods s c methods) (addMethods s' c' methods') := by
  induction hmethods generalizing c c' with
  | nil => exact .pure hc
  | cons hm _ ih =>
      unfold ClassLift.addMethods
      rw [hc.hasMethod hm, hm.name]
      refine .ite ((Detect.Agree.warn (h.label hm.function) _ _).bind fun _ _ _ => ?_) ?_
      · exact ih (hc.addMethod hm)
      · exact ih (hc.addMethod hm)

/-- A warning about the statement, after which the draft is rejected. -/
theorem reject (h : Mirror R s s') (hslot : Partners R slot slot') (hd : d.Twins R d')
    (warning : Warning) :
    Detect.Agree (Option.Rel (Draft.Twins R))
      (do Detect.warn s slot warning d.name; return none)
      (do Detect.warn s' slot' warning d'.name; return none) := by
  rw [hd.name]
  exact (Detect.Agree.warn (h.label hslot) _ _).bind fun _ _ _ => .pure .none

theorem examineAdded (h : Mirror R s s') (hs : Shallow R s s') (hblock : Partners R block block')
    (hslot : Partners R slot slot') (hd : d.Twins R d') :
    Detect.Agree (Option.Rel (Draft.Twins R)) (examineAdded s options block slot d)
      (examineAdded s' options block' slot' d') := by
  have hsome : d.superClass.isSome = true ↔ d'.superClass.isSome = true := by
    rw [hd.superClass.isSome]
  unfold ClassLift.examineAdded
  refine (Detect.Agree.lift (h.superClass? hs hslot)).bind fun o o' ho => ?_
  cases ho with
  | some hbase =>
      refine .ite (h.reject hslot hd _) (.ite_of_iff hsome (h.reject hslot hd _) ?_)
      exact .pure (.some ⟨hd.candidate, hd.position, rfl, hbase, hd.related_concat hblock hslot⟩)
  | none =>
      refine (Detect.Agree.lift (h.methods? hblock hslot)).bind fun o o' ho => ?_
      cases ho with
      | some hmethods =>
          refine (h.addMethods hd.candidate hmethods).bind fun c c' hc => ?_
          exact .pure (.some ⟨hc, hd.position, rfl, hd.superClass, hd.related⟩)
      | none =>
          refine (Detect.Agree.lift (h.replacesPrototype hslot)).bind fun b b' hb => ?_
          subst hb
          refine .ite (h.reject hslot hd _) ?_
          exact .pure (.some ⟨hd.candidate, hd.position, rfl, hd.superClass, hd.related⟩)

theorem examineOwned (h : Mirror R s s') (hs : Shallow R s s') (hblock : Partners R block block')
    (hslot : Partners R slot slot') (hd : d.Twins R d') (index : Nat) :
    Detect.Agree (Option.Rel (Draft.Twins R)) (examineOwned s options block index slot d)
      (examineOwned s' options block' index slot' d') := by
  have hreset : Agree Eq (s.isConstructorReset d.name slot) (s'.isConstructorReset d'.name slot') := by
    rw [hd.name]
    exact h.isConstructorReset hslot _
  have hadded : Detect.Agree (Option.Rel (Draft.Twins R)) (ClassLift.examineAdded s options block slot d)
      (ClassLift.examineAdded s' options block' slot' d') := h.examineAdded hs hblock hslot hd
  unfold ClassLift.examineOwned
  refine .ite_of_iff (by rw [hd.position]) (h.reject hslot hd _) ?_
  refine (Detect.Agree.lift hreset).bind fun b b' hb => ?_
  subst hb
  refine .ite (.pure (.some { hd with related := hd.related_concat hblock hslot })) ?_
  refine .ite_of_iff (by rw [hd.touched]) ?_ hadded
  refine (Detect.Agree.lift (h.replacesPrototype hslot)).bind fun b b' hb => ?_
  subst hb
  exact .ite (h.reject hslot hd _) hadded

/-- The statements are examined alike. -/
theorem examine (h : Mirror R s s') (hs : Shallow R s s') (hblock : Partners R block block')
    (hdrafts : Forall₂ (Draft.Twins R) drafts drafts')
    (hstatements : Forall₂ (Partners R) statements statements') (index : Nat) :
    Detect.Agree (Forall₂ (Draft.Twins R)) (examine s options block index drafts statements)
      (examine s' options block' index drafts' statements') := by
  induction hstatements generalizing index drafts drafts' with
  | nil => exact .pure hdrafts
  | cons hstatement _ ih =>
      unfold ClassLift.examine
      refine (Detect.Agree.lift (h.prototypeOwner? hs hstatement)).bind fun o o' ho => ?_
      subst ho
      cases o with
      | none => exact ih hdrafts _
      | some name =>
          have hfind := Draft.find_name (fun _ _ hd => hd.name) hdrafts name
          dsimp only
          generalize drafts.find? (·.name = name) = found at hfind ⊢
          generalize drafts'.find? (·.name = name) = found' at hfind ⊢
          cases hfind with
          | none => exact ih hdrafts _
          | some hd =>
              refine (h.examineOwned hs hblock hstatement hd index).bind fun o o' ho => ?_
              cases ho with
              | none => exact ih (Draft.rel_drop (fun _ _ hd => hd.name) hdrafts name) _
              | some hd' => exact ih (Draft.rel_change (fun _ _ hd => hd.name) hdrafts hd' name) _

/-- The same is detected in two containers that are partners. -/
theorem detect (h : Mirror R s s') (hs : Shallow R s s') (hblock : Partners R block block') :
    Detect.Agree (Forall₂ (Candidate.Twins R)) (detect s options block)
      (detect s' options block') := by
  have hstatements := h.slot_children hblock
  unfold ClassLift.detect
  refine (h.declarations hblock .nil hstatements 0 []).bind fun drafts drafts' hdrafts => ?_
  have hempty : drafts.isEmpty = true ↔ drafts'.isEmpty = true := by
    cases hdrafts <;> simp
  refine .ite_of_iff hempty (.pure .nil) ?_
  refine (h.examine hs hblock hdrafts hstatements 0).bind fun drafts drafts' hdrafts => ?_
  exact .pure (List.rel_map (fun _ _ hd => hd.finish) hdrafts)

end Mirror

end ClassLift
