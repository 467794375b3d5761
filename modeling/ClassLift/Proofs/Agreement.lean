import ClassLift.Proofs.Computation
import Mathlib.Data.List.Forall2

set_option autoImplicit false

/-! # Computations that end alike

What two computations give can be compared when they work on different tokens. They *agree* when
both give results that are related as wanted, or both stop with faults of the same kind
(`Agree`). Detections agree when they also give the same warnings (`Detect.Agree`). Where the
tokens stand in their files does not matter to any of this.

Detections of the same tokens may do more, and stop with the same fault (`Detect.Same`).
-/

namespace ClassLift

open List

variable {α α' β β' : Type} {P P' : α → α' → Prop} {Q : β → β' → Prop}

/-! ## Results without a state -/

/-- The labels say the same, but for where the tokens were read. -/
structure Label.Like (l l' : Label) : Prop where
  kind : l.kind = l'.kind
  value : l.value = l'.value

/-- The faults are of the same kind. -/
inductive Fault.Like : Fault → Fault → Prop where
  | refl (fault : Fault) : Like fault fault
  | statement {l l' : Label} (like : l.Like l') (complaint : Complaint) :
      Like (.statement l complaint) (.statement l' complaint)

/-- Both computations give results that are related by `P`, or stop with faults of one kind. -/
inductive Agree (P : α → α' → Prop) : Except Fault α → Except Fault α' → Prop where
  | ok {a : α} {a' : α'} (rel : P a a') : Agree P (.ok a) (.ok a')
  | error {fault fault' : Fault} (like : fault.Like fault') : Agree P (.error fault) (.error fault')

namespace Agree

variable {x y : Except Fault α} {x' y' : Except Fault α'} {f : α → Except Fault β}
  {f' : α' → Except Fault β'} {c : Prop} [Decidable c]

theorem bind (h : Agree P x x') (hf : ∀ a a', P a a' → Agree Q (f a) (f' a')) :
    Agree Q (x >>= f) (x' >>= f') := by
  cases h with
  | ok rel => exact hf _ _ rel
  | error like => exact .error like

theorem ite (h : Agree P x x') (h' : Agree P y y') :
    Agree P (if c then x else y) (if c then x' else y') := by
  by_cases hc : c
  · rwa [if_pos hc, if_pos hc]
  · rwa [if_neg hc, if_neg hc]

theorem mono (h : Agree P x x') (hP : ∀ a a', P a a' → P' a a') : Agree P' x x' := by
  cases h with
  | ok rel => exact .ok (hP _ _ rel)
  | error like => exact .error like

end Agree

/-! ## Detections -/

/-- The notices warn of the same, in the same words. -/
structure Notice.Like (n n' : Notice) : Prop where
  warning : n.warning = n'.warning
  name : n.name = n'.name

namespace Detect

/-- The detections agree, and go on from like notices to like notices. -/
def Agree (P : α → α' → Prop) (e : Detect α) (e' : Detect α') : Prop :=
  ∀ ns ns', Forall₂ Notice.Like ns ns' →
    ClassLift.Agree P (e.run.run ns).1 (e'.run.run ns').1 ∧
      Forall₂ Notice.Like (e.run.run ns).2 (e'.run.run ns').2

namespace Agree

variable {e e₁ : Detect α} {e' e₁' : Detect α'} {f : α → Detect β} {f' : α' → Detect β'} {c : Prop}
  [Decidable c]

theorem pure {a : α} {a' : α'} (h : P a a') : Agree P (pure a) (pure a') := fun _ _ hns => ⟨.ok h, hns⟩

theorem lift {x : Except Fault α} {x' : Except Fault α'} (h : ClassLift.Agree P x x') :
    Agree P (liftM x) (liftM x') := by
  intro ns ns' hns
  rw [run_run_lift, run_run_lift]
  exact ⟨h, hns⟩

theorem bind (h : Agree P e e') (hf : ∀ a a', P a a' → Agree Q (f a) (f' a')) :
    Agree Q (e >>= f) (e' >>= f') := by
  intro ns ns' hns
  obtain ⟨hresult, hns₁⟩ := h ns ns' hns
  rw [run_run_bind, run_run_bind]
  rcases hrun : e.run.run ns with ⟨r, ns₁⟩
  rcases hrun' : e'.run.run ns' with ⟨r', ns₁'⟩
  rw [hrun, hrun'] at hresult hns₁
  cases hresult with
  | ok rel => exact hf _ _ rel ns₁ ns₁' hns₁
  | error like => exact ⟨.error like, hns₁⟩

theorem ite_of_iff {c' : Prop} [Decidable c'] (hc : c ↔ c') (h : Agree P e e')
    (h' : Agree P e₁ e₁') : Agree P (if c then e else e₁) (if c' then e' else e₁') := by
  by_cases hc' : c'
  · rwa [if_pos (hc.mpr hc'), if_pos hc']
  · rwa [if_neg (mt hc.mp hc'), if_neg hc']

theorem ite (h : Agree P e e') (h' : Agree P e₁ e₁') :
    Agree P (if c then e else e₁) (if c then e' else e₁') :=
  ite_of_iff Iff.rfl h h'

/-- Two warnings about tokens that are both there, or both not. -/
theorem warn {s s' : Store} {slot slot' : Slot}
    (h : ClassLift.Agree Label.Like (s.label slot) (s'.label slot')) (w : Warning) (name : String) :
    Agree Eq (Detect.warn s slot w name) (Detect.warn s' slot' w name) := by
  refine (lift h).bind fun l l' _ ns ns' hns => ⟨.ok rfl, ?_⟩
  exact List.rel_append hns (.cons ⟨rfl, rfl⟩ .nil)

end Agree

end Detect

/-! ## Detections of the same tokens -/

/-- Both computations give results that are related by `P`, or stop with the same fault. -/
inductive Same (P : α → α' → Prop) : Except Fault α → Except Fault α' → Prop where
  | ok {a : α} {a' : α'} (rel : P a a') : Same P (.ok a) (.ok a')
  | error (fault : Fault) : Same P (.error fault) (.error fault)

namespace Detect

/-- The detections end the same, and go on from like notices to like notices. -/
def Same (P : α → α' → Prop) (e : Detect α) (e' : Detect α') : Prop :=
  ∀ ns ns', Forall₂ Notice.Like ns ns' →
    ClassLift.Same P (e.run.run ns).1 (e'.run.run ns').1 ∧
      Forall₂ Notice.Like (e.run.run ns).2 (e'.run.run ns').2

namespace Same

variable {e e₁ : Detect α} {e' e₁' : Detect α'} {f : α → Detect β} {f' : α' → Detect β'} {c c' : Prop}
  [Decidable c] [Decidable c']

theorem pure {a : α} {a' : α'} (h : P a a') : Same P (pure a) (pure a') := fun _ _ hns => ⟨.ok h, hns⟩

theorem bind (h : Same P e e') (hf : ∀ a a', P a a' → Same Q (f a) (f' a')) :
    Same Q (e >>= f) (e' >>= f') := by
  intro ns ns' hns
  obtain ⟨hresult, hns₁⟩ := h ns ns' hns
  rw [run_run_bind, run_run_bind]
  rcases hrun : e.run.run ns with ⟨r, ns₁⟩
  rcases hrun' : e'.run.run ns' with ⟨r', ns₁'⟩
  rw [hrun, hrun'] at hresult hns₁
  cases hresult with
  | ok rel => exact hf _ _ rel ns₁ ns₁' hns₁
  | error fault => exact ⟨.error fault, hns₁⟩

theorem mono {P' : α → α' → Prop} (h : Same P e e') (hP : ∀ a a', P a a' → P' a a') : Same P' e e' := by
  intro ns ns' hns
  obtain ⟨hresult, hns₁⟩ := h ns ns' hns
  refine ⟨?_, hns₁⟩
  generalize (e.run.run ns).1 = r, (e'.run.run ns').1 = r' at hresult ⊢
  cases hresult with
  | ok rel => exact .ok (hP _ _ rel)
  | error fault => exact .error fault

/-- Both begin with the same result. -/
theorem lift_bind {x x' : Except Fault α} {f : α → Detect β} {f' : α → Detect β'} (hx : x' = x)
    (hf : ∀ a, x = .ok a → Same Q (f a) (f' a)) :
    Same Q (liftM x >>= f) (liftM x' >>= f') := by
  intro ns ns' hns
  rw [hx, run_run_bind, run_run_bind, run_run_lift, run_run_lift]
  cases x with
  | error fault => exact ⟨.error fault, hns⟩
  | ok a => exact hf a rfl ns ns' hns

theorem ite_of_iff (hc : c ↔ c') (h : Same P e e') (h' : Same P e₁ e₁') :
    Same P (if c then e else e₁) (if c' then e' else e₁') := by
  by_cases hc' : c'
  · rwa [if_pos (hc.mpr hc'), if_pos hc']
  · rwa [if_neg (mt hc.mp hc'), if_neg hc']

/-- Both begin with a warning of the same. -/
theorem warn_bind {s s' : Store} {slot slot' : Slot} {l l' : Label} {f : Unit → Detect β}
    {f' : Unit → Detect β'} (hl : s.label slot = .ok l) (hl' : s'.label slot' = .ok l') (w : Warning)
    (name : String) (hf : Same Q (f ()) (f' ())) :
    Same Q (Detect.warn s slot w name >>= f) (Detect.warn s' slot' w name >>= f') := by
  refine Same.bind (P := Eq) (fun ns ns' hns => ?_) fun _ _ _ => hf
  rw [Detect.warn, Detect.warn, hl, hl']
  exact ⟨.ok rfl, List.rel_append hns (.cons ⟨rfl, rfl⟩ .nil)⟩

end Same

end Detect

end ClassLift
