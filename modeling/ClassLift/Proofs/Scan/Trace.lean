import ClassLift.Proofs.Scan.Loop

set_option autoImplicit false

/-! # Traces of scans

A trace of a scan lists its visits in the order in which the loop makes them: what each of them was
given, and the store and the state in which it began. A visit that stops the loop is the last of the
list. `Scan.Traced` is the loop together with its trace. It is the same loop as that of `Scan.Ends`
(`Ends.exists_traced`, `Traced.ends`), so that a trace says how a scan went (`Traced.unique`,
`Traced.run`).
-/

namespace ClassLift

namespace Scan

variable {σ : Type}

/-- A visit of a scan: the store and the state in which it began, and the slots that it was given. -/
structure Moment (σ : Type) where
  before : Store × σ
  slot : Slot
  parent : Slot

/-- The loop, from some store, state and stack to its end, with all the visits that it makes. -/
inductive Traced (visit : Visit σ) : Store × σ → List Pending → List (Moment σ) →
    Except Fault Unit → Store × σ → List Pending → Prop where
  | returned (a : Store × σ) : Traced visit a [] [] (.ok ()) a []
  | raised {a b : Store × σ} {slot parent : Slot} {left : List Pending} {fault : Fault}
      (here : (visit slot parent).run.run a = (.error fault, b)) :
      Traced visit a ((slot, parent) :: left) [⟨a, slot, parent⟩] (.error fault) b left
  | absent {a b : Store × σ} {parent : Slot} {left : List Pending}
      (here : (visit none parent).run.run a = (.ok (), b)) :
      Traced visit a ((none, parent) :: left) [⟨a, none, parent⟩] (.error .absentToken) b left
  | next {a b c : Store × σ} {t : TokenId} {parent : Slot} {stack left : List Pending}
      {moments : List (Moment σ)} {result : Except Fault Unit}
      (here : (visit (some t) parent).run.run a = (.ok (), b))
      (rest : Traced visit b (pending (some t) (b.1.cell t).children ++ stack) moments result c left) :
      Traced visit a ((some t, parent) :: stack) (⟨a, some t, parent⟩ :: moments) result c left

variable {visit : Visit σ} {a b c : Store × σ} {stack left rest : List Pending}
  {moments others : List (Moment σ)} {visited : List TokenId} {result result' : Except Fault Unit}

/-- Rounds that come before a trace are its first visits. -/
theorem Rounds.traced (h : Rounds visit a stack visited b left)
    (hrest : Traced visit b left moments result c rest) :
    ∃ first, first.map Moment.slot = visited.map some ∧
      Traced visit a stack (first ++ moments) result c rest := by
  induction h with
  | refl => exact ⟨[], rfl, hrest⟩
  | @head a b c t parent stack left visited here _ ih =>
      obtain ⟨first, hslots, htraced⟩ := ih hrest
      refine ⟨⟨a, some t, parent⟩ :: first, ?_, .next here htraced⟩
      rw [List.map_cons, List.map_cons, hslots]

/-- A loop that ends has a trace. -/
theorem Ends.exists_traced (h : Ends visit a stack visited result b left) :
    ∃ moments, Traced visit a stack moments result b left := by
  cases h with
  | returned rounds =>
      obtain ⟨first, -, htraced⟩ := rounds.traced (.returned _)
      exact ⟨_, htraced⟩
  | raised rounds here =>
      obtain ⟨first, -, htraced⟩ := rounds.traced (.raised here)
      exact ⟨_, htraced⟩
  | absent rounds here =>
      obtain ⟨first, -, htraced⟩ := rounds.traced (.absent here)
      exact ⟨_, htraced⟩

/-- One more round before the loop ends. -/
theorem Ends.head {t : TokenId} {parent : Slot} (here : (visit (some t) parent).run.run a = (.ok (), b))
    (h : Ends visit b (pending (some t) (b.1.cell t).children ++ stack) visited result c left) :
    Ends visit a ((some t, parent) :: stack) (t :: visited) result c left := by
  cases h with
  | returned rounds => exact .returned (.head here rounds)
  | raised rounds stop => exact .raised (.head here rounds) stop
  | absent rounds stop => exact .absent (.head here rounds) stop

/-- A loop with a trace ends; the tokens that it visits are those of the trace, in this order, but
for the visit that stops it. -/
theorem Traced.ends (h : Traced visit a stack moments result b left) :
    ∃ visited, Ends visit a stack visited result b left ∧
      visited.map some <+: moments.map Moment.slot ∧
      (result = .ok () → moments.map Moment.slot = visited.map some) := by
  induction h with
  | returned => exact ⟨[], .returned (.refl _ _), List.nil_prefix, fun _ => rfl⟩
  | raised here => exact ⟨[], .raised (.refl _ _) here, List.nil_prefix, fun h => by cases h⟩
  | absent here => exact ⟨[], .absent (.refl _ _) here, List.nil_prefix, fun h => by cases h⟩
  | @next a b c t parent stack left moments result here _ ih =>
      obtain ⟨visited, hends, hprefix, hall⟩ := ih
      refine ⟨t :: visited, hends.head here, ?_, fun hresult => ?_⟩
      · rw [List.map_cons, List.map_cons]
        exact List.cons_prefix_cons.mpr ⟨rfl, hprefix⟩
      · rw [List.map_cons, List.map_cons, hall hresult]

/-- There is one trace at most. -/
theorem Traced.unique (h : Traced visit a stack moments result b left)
    (h' : Traced visit a stack others result' c rest) :
    moments = others ∧ result = result' ∧ b = c ∧ left = rest := by
  -- by induction on the first trace: what the slot is and what its visit answers fix the next step
  induction h generalizing others with
  | returned =>
      cases h'
      exact ⟨rfl, rfl, rfl, rfl⟩
  | raised here =>
      cases h' with
      | raised here' =>
          rw [here] at here'
          cases here'
          exact ⟨rfl, rfl, rfl, rfl⟩
      | absent here' | next here' _ =>
          rw [here] at here'
          cases here'
  | absent here =>
      cases h' with
      | raised here' =>
          rw [here] at here'
          cases here'
      | absent here' =>
          rw [here] at here'
          cases here'
          exact ⟨rfl, rfl, rfl, rfl⟩
  | next here _ ih =>
      cases h' with
      | raised here' =>
          rw [here] at here'
          cases here'
      | next here' next' =>
          rw [here] at here'
          cases here'
          obtain ⟨rfl, rfl, rfl, rfl⟩ := ih next'
          exact ⟨rfl, rfl, rfl, rfl⟩

/-- A scan whose bound is not below the number of visits does what a loop that returns does. -/
theorem Traced.run {root : Slot} {depth : Nat} (h : Traced visit a [(root, none)] moments (.ok ()) b left)
    (hdepth : moments.length ≤ depth) : (run visit depth root).run.run a = (.ok (), b) := by
  obtain ⟨visited, hends, -, hslots⟩ := h.ends
  have hlength : moments.length = visited.length := by
    rw [← List.length_map Moment.slot, hslots rfl, List.length_map]
  cases hends with
  | returned rounds =>
      have hstack : [(⟨root, none, depth⟩ : Task)].map Task.pending = [(root, none)] := rfl
      obtain ⟨todo, hsteps, htodo⟩ := rounds.steps hstack (by simpa [← hlength] using hdepth)
      obtain rfl := List.map_eq_nil_iff.mp htodo
      exact run_of_steps hsteps

end Scan

end ClassLift
