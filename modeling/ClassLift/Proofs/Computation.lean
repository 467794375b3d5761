import ClassLift.Class.Detection

set_option autoImplicit false

/-! # Computations with a state and faults

Edits, detections, visits and scans are computations of one form: they have a state and may
stop with an error, and what they did to the state before they stopped stays done. The
lemmas here take such a computation apart at its binds, forwards (`run_run_bind`) and
backwards (`run_run_bind_eq_ok`).

The notices of a detection have no influence on its result: `Detect.Gives e r` says that `e`
ends with `r` whatever was noticed before.
-/

namespace ClassLift

/-! ## Results without a state -/

section

variable {ε α β : Type}

theorem bind_eq_ok {x : Except ε α} {f : α → Except ε β} {b : β} :
    x >>= f = .ok b ↔ ∃ a, x = .ok a ∧ f a = .ok b := by
  cases x with
  | error e =>
      constructor
      · intro h; cases h
      · rintro ⟨a, h, -⟩; cases h
  | ok a =>
      constructor
      · intro h; exact ⟨a, rfl, h⟩
      · rintro ⟨a', h, hf⟩; cases h; exact hf

/-- Two computations that go on in the same way from what the first part gives are equal. -/
theorem bind_congr_of_ok {x : Except ε α} {f g : α → Except ε β} (h : ∀ a, x = .ok a → f a = g a) :
    x >>= f = x >>= g := by
  cases x with
  | error e => rfl
  | ok a => exact h a rfl

theorem bind_eq_error {x : Except ε α} {f : α → Except ε β} {e : ε} :
    x >>= f = .error e ↔ x = .error e ∨ ∃ a, x = .ok a ∧ f a = .error e := by
  cases x with
  | error e' =>
      constructor
      · intro h; cases h; exact Or.inl rfl
      · rintro (h | ⟨a, h, -⟩)
        · cases h; rfl
        · cases h
  | ok a =>
      constructor
      · intro h; exact Or.inr ⟨a, rfl, h⟩
      · rintro (h | ⟨a', h, hf⟩)
        · cases h
        · cases h; exact hf

/-- The computation gives a result. -/
def Succeeds (x : Except ε α) : Prop := ∃ a, x = .ok a

/-- If the computation stops, then with an error as described. -/
def FailsOnly (x : Except ε α) (P : ε → Prop) : Prop := ∀ e, x = .error e → P e

theorem Succeeds.pure (a : α) : Succeeds (pure a : Except ε α) := ⟨a, rfl⟩

theorem Succeeds.bind {x : Except ε α} {f : α → Except ε β} (hx : Succeeds x)
    (hf : ∀ a, x = .ok a → Succeeds (f a)) : Succeeds (x >>= f) := by
  obtain ⟨a, rfl⟩ := hx
  exact hf a rfl

namespace FailsOnly

variable {x : Except ε α} {f : α → Except ε β} {P Q : ε → Prop}

theorem pure (a : α) : FailsOnly (pure a : Except ε α) P := fun _ h => by cases h

theorem of_succeeds (h : Succeeds x) : FailsOnly x P := by
  obtain ⟨a, rfl⟩ := h
  exact pure a

theorem bind (hx : FailsOnly x P) (hf : ∀ a, x = .ok a → FailsOnly (f a) P) :
    FailsOnly (x >>= f) P := by
  intro e he
  rcases bind_eq_error.mp he with he | ⟨a, ha, he⟩
  · exact hx e he
  · exact hf a ha e he

theorem mono (h : FailsOnly x P) (hpq : ∀ e, P e → Q e) : FailsOnly x Q := fun e he =>
  hpq e (h e he)

end FailsOnly

end

/-! ## Results with a state -/

section

variable {ε σ α β : Type}

/-- A result that is known in its first part. -/
theorem exists_of_fst {p : α × β} {a : α} (h : p.1 = a) : ∃ b, p = (a, b) :=
  ⟨p.2, by rw [← h]⟩

theorem run_run_bind (x : ExceptT ε (StateM σ) α) (f : α → ExceptT ε (StateM σ) β) (s : σ) :
    (x >>= f).run.run s =
      match x.run.run s with
      | (.ok a, s₁) => (f a).run.run s₁
      | (.error e, s₁) => (.error e, s₁) := by
  show (ExceptT.bind x f).run.run s = _
  simp only [ExceptT.bind, ExceptT.run, ExceptT.mk, StateT.run, bind, StateT.bind]
  cases h : x s with
  | mk r s₁ => cases r <;> rfl

theorem run_run_get (s : σ) : (get : ExceptT ε (StateM σ) σ).run.run s = (.ok s, s) := rfl

theorem run_run_modifyGet (f : σ → α × σ) (s : σ) :
    (modifyGet f : ExceptT ε (StateM σ) α).run.run s = (.ok (f s).1, (f s).2) := rfl

theorem run_run_lift (r : Except ε α) (s : σ) :
    (liftM r : ExceptT ε (StateM σ) α).run.run s = (r, s) := by
  cases r <;> rfl

theorem run_run_tryCatch (x : ExceptT ε (StateM σ) α) (f : ε → ExceptT ε (StateM σ) α) (s : σ) :
    (tryCatch x f).run.run s =
      match x.run.run s with
      | (.ok a, s₁) => (.ok a, s₁)
      | (.error e, s₁) => (f e).run.run s₁ := by
  show (ExceptT.tryCatch x f).run.run s = _
  simp only [ExceptT.tryCatch, ExceptT.run, ExceptT.mk, StateT.run, bind, StateT.bind]
  cases h : x s with
  | mk r s₁ => cases r <;> rfl

theorem run_run_adapt {ε' : Type} (f : ε → ε') (x : ExceptT ε (StateM σ) α) (s : σ) :
    (ExceptT.adapt f x).run.run s =
      match x.run.run s with
      | (.ok a, s₁) => (.ok a, s₁)
      | (.error e, s₁) => (.error (f e), s₁) := by
  show (ExceptT.mk (Except.mapError f <$> x.run)).run.run s = _
  simp only [ExceptT.run, ExceptT.mk, StateT.run, Functor.map, StateT.map, bind, pure]
  rcases x s with ⟨r, s₁⟩
  cases r <;> rfl

theorem run_run_bind_of_ok {x : ExceptT ε (StateM σ) α} {f : α → ExceptT ε (StateM σ) β}
    {s s₁ : σ} {a : α} (h : x.run.run s = (.ok a, s₁)) :
    (x >>= f).run.run s = (f a).run.run s₁ := by
  rw [run_run_bind, h]

theorem run_run_bind_of_error {x : ExceptT ε (StateM σ) α} {f : α → ExceptT ε (StateM σ) β}
    {s s₁ : σ} {e : ε} (h : x.run.run s = (.error e, s₁)) :
    (x >>= f).run.run s = (.error e, s₁) := by
  rw [run_run_bind, h]

theorem run_run_bind_eq_ok {x : ExceptT ε (StateM σ) α} {f : α → ExceptT ε (StateM σ) β}
    {s s' : σ} {b : β} :
    (x >>= f).run.run s = (.ok b, s') ↔
      ∃ a s₁, x.run.run s = (.ok a, s₁) ∧ (f a).run.run s₁ = (.ok b, s') := by
  rw [run_run_bind]
  rcases h : x.run.run s with ⟨r, s₁⟩
  cases r with
  | error e =>
      constructor
      · intro hb; cases hb
      · rintro ⟨a, s₂, ha, -⟩; cases ha
  | ok a =>
      constructor
      · intro hb; exact ⟨a, s₁, rfl, hb⟩
      · rintro ⟨a', s₂, ha, hb⟩; cases ha; exact hb

end

/-! ## Detections -/

namespace Detect

variable {α β : Type}

/-- The detection ends with `r`, whatever was noticed before. -/
def Gives (e : Detect α) (r : Except Fault α) : Prop := ∀ ns, (e.run.run ns).1 = r

theorem Gives.pure (a : α) : Gives (pure a) (.ok a) := fun _ => rfl

theorem lift_ok_bind (a : α) (f : α → Detect β) : (liftM (Except.ok a : Except Fault α) >>= f) = f a :=
  rfl

theorem Gives.lift (r : Except Fault α) : Gives (liftM r) r := by
  intro ns
  rw [run_run_lift]

theorem Gives.bind {x : Detect α} {f : α → Detect β} {a : α} {r : Except Fault β}
    (hx : Gives x (.ok a)) (hf : Gives (f a) r) : Gives (x >>= f) r := by
  intro ns
  have h := hx ns
  rw [run_run_bind]
  rcases hr : x.run.run ns with ⟨r', ns₁⟩
  rw [hr] at h
  cases h
  exact hf ns₁

theorem Gives.bind_error {x : Detect α} {f : α → Detect β} {e : Fault}
    (hx : Gives x (.error e)) : Gives (x >>= f) (.error e) := by
  intro ns
  have h := hx ns
  rw [run_run_bind]
  rcases hr : x.run.run ns with ⟨r', ns₁⟩
  rw [hr] at h
  cases h
  rfl

/-- A result that is known without a state is known in a detection. -/
theorem Gives.lift_bind {r : Except Fault α} {f : α → Detect β} {g : α → Except Fault β}
    (hf : ∀ a, r = .ok a → Gives (f a) (g a)) : Gives (liftM r >>= f) (r >>= g) := by
  cases r with
  | error e => exact Gives.bind_error (Gives.lift _)
  | ok a => exact Gives.bind (Gives.lift _) (hf a rfl)

theorem Gives.warn {s : Store} {slot : Slot} {l : Label} (h : s.label slot = .ok l)
    (w : Warning) (name : String) : Gives (warn s slot w name) (.ok ()) := by
  unfold Detect.warn
  rw [h]
  exact Gives.bind (Gives.lift _) (fun _ => rfl)

end Detect

end ClassLift
