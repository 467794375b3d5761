import ClassLift.Proofs.Class.Candidates
import ClassLift.Proofs.Statement.Presence

set_option autoImplicit false

/-! # Why a detection stops

In a container without gaps the detection stops for two reasons only (`Store.Blame`), and both
are mistakes in what is assigned to the prototype of a function that is declared once: a call
without an argument list after `new`, or a quoted key that is no literal.
-/

namespace ClassLift

variable {s : Store} {options : Options} {block slot : Slot} {statements : List Slot}
  {fault : Fault} {d : Draft} {index : Nat} {P : TokenId → Prop}

/-- What in a container is to blame for the fault. -/
inductive Store.Blame (s : Store) (block : Slot) (fault : Fault) : Prop where
  /-- `A.prototype = new …` of a call that does not have exactly two children. -/
  | call (name : String) (declaredOnce : (s.children block).countP (s.declares block name) = 1)
      (statement value : Slot) (mem : statement ∈ s.children block)
      (assigns : s.AssignsPrototype name statement value) (broken : s.IsBrokenInstance value)
      (eq : fault = .brokenCall)
  /-- `A.prototype = …` with an object one of whose keys is a bad string. -/
  | key (name : String) (declaredOnce : (s.children block).countP (s.declares block name) = 1)
      (statement object : Slot) (mem : statement ∈ s.children block)
      (assigns : s.AssignsPrototype name statement object)
      (isObject : s.hasKind Kind.object object = true)
      (entry : Slot) (within : entry ∈ s.children object) (bad : s.IsBadEntry entry fault)

namespace Draft

theorem contribute_failsOnly (h : Stands P slot) (d : Draft) :
    FailsOnly (d.contribute s options block slot) fun fault =>
      s.superClass? slot = .error fault ∨ s.methods? options block slot = .error fault := by
  unfold contribute
  refine FailsOnly.bind (fun _ he => Or.inl he) fun base _ => ?_
  cases base with
  | some base =>
      dsimp only
      split <;> exact .pure _
  | none =>
      refine FailsOnly.bind (fun _ he => Or.inr he) fun ms _ => ?_
      cases ms with
      | some ms => exact .pure _
      | none =>
          refine .of_succeeds ((Store.replacesPrototype_succeeds h).bind fun b _ => ?_)
          cases b <;> exact .pure _

theorem absorb_failsOnly (hs : s.Closed P) (h : Stands P slot) (d : Draft) :
    FailsOnly (d.absorb s options block slot) fun fault =>
      s.superClass? slot = .error fault ∨ s.methods? options block slot = .error fault := by
  unfold absorb
  refine (FailsOnly.of_succeeds (Store.isConstructorReset_succeeds hs h d.name)).bind
    fun reset _ => ?_
  split
  · exact .pure _
  split
  · refine (FailsOnly.of_succeeds (Store.replacesPrototype_succeeds h)).bind fun b _ => ?_
    split
    · exact .pure _
    · exact contribute_failsOnly h d
  · exact contribute_failsOnly h d

/-- Where the statements cannot be followed, one of them cannot be absorbed. -/
theorem follow_eq_error (h : d.follow s options block index statements = .error fault) :
    ∃ st ∈ statements, ∃ d' : Draft, s.modifies d.name st = true ∧
      d'.absorb s options block st = .error fault := by
  induction statements generalizing d index with
  | nil => cases h
  | cons st statements ih =>
      -- a draft keeps its name, so the statements that are asked stay the same
      have later : ∀ {d' : Draft} {index' : Nat}, d'.name = d.name →
          d'.follow s options block index' statements = .error fault →
          ∃ st' ∈ st :: statements, ∃ d' : Draft, s.modifies d.name st' = true ∧
            d'.absorb s options block st' = .error fault := by
        intro d' index' hname hf
        obtain ⟨st', hst', d'', hmodifies, habsorb⟩ := ih hf
        exact ⟨st', List.mem_cons_of_mem _ hst', d'', hname ▸ hmodifies, habsorb⟩
      by_cases hm : s.modifies d.name st = true
      · rw [follow_cons, if_pos hm] at h
        cases hv : d.verdict s options block index st with
        | error fault' =>
            rw [hv] at h
            cases h
            refine ⟨st, List.mem_cons_self, d, hm, ?_⟩
            -- one that is refused gives no fault
            unfold verdict at hv
            split at hv
            · cases hv
            · exact hv
        | ok r =>
            rw [hv] at h
            cases r with
            | none => cases h
            | some d' => exact later (name_of_verdict hv) h
      · rw [follow_cons_of_not_modifies hm] at h
        exact later rfl h

end Draft

/-- A detection in a container without gaps that stops has something to blame. -/
theorem DetectionFault.blame (h : DetectionFault s options block (s.children block) fault)
    (hs : s.Closed P) (hstands : ∀ st ∈ s.children block, Stands P st) : s.Blame block fault := by
  rcases h with ⟨st, hst, h⟩ | ⟨-, -, st, hst, h⟩ | ⟨d, hd, h⟩
  · have hsucceeds : Succeeds (s.declaration? block st) :=
      Store.declaration_succeeds hs (hstands st hst)
    obtain ⟨o, ho⟩ := hsucceeds
    rw [h] at ho
    cases ho
  · obtain ⟨o, ho⟩ := Store.prototypeOwner_succeeds hs (hstands st hst)
    rw [h] at ho
    cases ho
  · obtain ⟨st, hst, d', hmodifies, habsorb⟩ := Draft.follow_eq_error h
    have hstanding := hstands st hst
    have honce := exists_declaredOnce_iff.mp ⟨d, hd, rfl⟩
    have howner := Store.modifies_iff.mp hmodifies
    rcases Draft.absorb_failsOnly hs hstanding d' fault habsorb with hsuper | hmethods
    · obtain ⟨heq, name, value, hassigns, hbroken⟩ :=
        Store.superClass_failsOnly hs hstanding fault hsuper
      obtain rfl := hassigns.owner_eq howner
      exact .call _ honce st value hst hassigns hbroken heq
    · obtain ⟨name, object, hassigns, hobject, entry, hentry, hbad⟩ :=
        Store.methods_failsOnly hs hstanding fault hmethods
      obtain rfl := hassigns.owner_eq howner
      exact .key _ honce st object hst hassigns hobject entry hentry hbad

end ClassLift
