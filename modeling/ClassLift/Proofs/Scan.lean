import ClassLift.Proofs.Computation
import ClassLift.Scan

set_option autoImplicit false

/-! # Scans step by step

A scan recurs on the tree, but what it does can be seen as one list of tasks that is worked off
from the front: the first token is visited, and its children come in its place (`Scan.Steps`).
`Scan.run_does` says that the recursion comes to the end of this list, or to a task that it
cannot do (`Scan.Stops`).
-/

namespace ClassLift

/-! ## Steps of a traversal -/

namespace Traversal

variable {σ α : Type}

theorem run_run_edit (e : Edit α) (s : Store) (x : σ) :
    (edit e : Traversal σ α).run.run (s, x) = ((e.run.run s).1, ((e.run.run s).2, x)) := rfl

theorem run_run_edit_of_eq {e : Edit α} {s s' : Store} {r : Except Fault α}
    (h : e.run.run s = (r, s')) (x : σ) :
    (edit e : Traversal σ α).run.run (s, x) = (r, (s', x)) := by
  rw [run_run_edit, h]

theorem run_run_modifyOwn (f : σ → σ) (s : Store) (x : σ) :
    (modifyOwn f).run.run (s, x) = (.ok (), (s, f x)) := rfl

theorem run_run_own (s : Store) (x : σ) : (own : Traversal σ σ).run.run (s, x) = (.ok x, (s, x)) :=
  rfl

end Traversal

namespace Scan

variable {σ : Type}

/-- A slot to be visited, the slot above it, and how many tokens deep the scan may go there. -/
structure Task where
  slot : Slot
  parent : Slot
  depth : Nat

/-- The tasks of some slots with the same slot above them. -/
def tasks (depth : Nat) (parent : Slot) (slots : List Slot) : List Task :=
  slots.map fun slot => ⟨slot, parent, depth⟩

/-- Some tokens are visited one after the other; each leaves the tasks of its children. -/
inductive Steps (visit : Visit σ) :
    Store × σ → List Task → List TokenId → Store × σ → List Task → Prop where
  | refl (a : Store × σ) (todo : List Task) : Steps visit a todo [] a todo
  | head {a b c : Store × σ} {t : TokenId} {parent : Slot} {depth : Nat} {todo left : List Task}
      {visited : List TokenId} (here : (visit (some t) parent).run.run a = (.ok (), b))
      (next : Steps visit b (tasks depth (some t) (b.1.cell t).children ++ todo) visited c left) :
      Steps visit a (⟨some t, parent, depth + 1⟩ :: todo) (t :: visited) c left

/-- The task cannot be done, and the scan stops with the fault. -/
inductive Stops (visit : Visit σ) (a : Store × σ) (task : Task) (fault : Fault) (b : Store × σ) :
    Prop where
  | tooDeep (depth : task.depth = 0) (h : fault = .outOfDepth)
  | visit (h : (visit task.slot task.parent).run.run a = (.error fault, b))
  | absent (slot : task.slot = none) (h : (visit none task.parent).run.run a = (.ok (), b))

variable {visit : Visit σ} {one : Slot → Run σ Unit} {a b c : Store × σ} {slot parent : Slot}
  {slots : List Slot} {todo left rest : List Task} {visited others : List TokenId} {depth : Nat}

theorem Steps.trans (h : Steps visit a todo visited b left) (h' : Steps visit b left others c rest) :
    Steps visit a todo (visited ++ others) c rest := by
  induction h with
  | refl => exact h'
  | head here _ ih => exact .head here (ih h')

/-! ## The recursion, unfolded once -/

theorem each_cons_of_ok (h : (one slot).run.run a = (.ok (), b)) :
    (each one (slot :: slots)).run.run a = (each one slots).run.run b := by
  have hcatch : (tryCatch (one slot) fun stop =>
      throw { stop with pending := stop.pending + slots.length }).run.run a = (.ok (), b) := by
    rw [run_run_tryCatch, h]
  rw [each, run_run_bind_of_ok hcatch]

theorem each_cons_of_error {stop : Interruption} (h : (one slot).run.run a = (.error stop, b)) :
    (each one (slot :: slots)).run.run a =
      (.error { stop with pending := stop.pending + slots.length }, b) := by
  have hcatch : (tryCatch (one slot) fun stop =>
      throw { stop with pending := stop.pending + slots.length }).run.run a =
      (.error { stop with pending := stop.pending + slots.length }, b) := by
    rw [run_run_tryCatch, h]
    rfl
  rw [each, run_run_bind_of_error hcatch]

theorem visited_of_ok (h : (visit slot parent).run.run a = (.ok (), b)) :
    (Scan.visited visit slot parent).run.run a = (.ok (), b) := by
  simp only [Scan.visited, ExceptT.run, ExceptT.mk, StateT.run, bind, StateT.bind] at h ⊢
  rw [h]
  rfl

theorem visited_of_error {fault : Fault} (h : (visit slot parent).run.run a = (.error fault, b)) :
    (Scan.visited visit slot parent).run.run a = (.error ⟨fault, 0⟩, b) := by
  simp only [Scan.visited, ExceptT.run, ExceptT.mk, StateT.run, bind, StateT.bind] at h ⊢
  rw [h]
  rfl

/-! ## The recursion as steps -/

/-- The computation does the first task and all that come of it, or comes to a task that cannot
be done. -/
def Does (visit : Visit σ) (e : Run σ Unit) (first : List Task) : Prop :=
  ∀ a todo,
    (∃ visited b, e.run.run a = (.ok (), b) ∧ Steps visit a (first ++ todo) visited b todo) ∨
      ∃ stop visited a' task left b, e.run.run a = (.error stop, b) ∧
        Steps visit a (first ++ todo) visited a' (task :: left) ∧ Stops visit a' task stop.fault b

theorem does_each (h : ∀ slot, Does visit (one slot) [⟨slot, parent, depth⟩]) (slots : List Slot) :
    Does visit (each one slots) (tasks depth parent slots) := by
  induction slots with
  | nil => exact fun a todo => Or.inl ⟨[], a, rfl, .refl a todo⟩
  | cons slot slots ih =>
      intro a todo
      rcases h slot a (tasks depth parent slots ++ todo) with
        ⟨visited, b, hrun, hsteps⟩ | ⟨stop, visited, a', task, left, b, hrun, hsteps, hstops⟩
      · rw [each_cons_of_ok hrun]
        rcases ih b todo with
          ⟨others, c, hrun', hsteps'⟩ | ⟨stop, others, a', task, left, c, hrun', hsteps', hstops⟩
        · exact Or.inl ⟨visited ++ others, c, hrun', hsteps.trans hsteps'⟩
        · exact Or.inr ⟨stop, visited ++ others, a', task, left, c, hrun', hsteps.trans hsteps', hstops⟩
      · exact Or.inr ⟨_, visited, a', task, left, b, each_cons_of_error hrun, hsteps, hstops⟩

theorem does_below (depth : Nat) (slot parent : Slot) :
    Does visit (below visit depth slot parent) [⟨slot, parent, depth⟩] := by
  induction depth generalizing slot parent with
  | zero =>
      intro a todo
      exact Or.inr ⟨⟨.outOfDepth, 0⟩, [], a, _, todo, a, rfl, .refl _ _, .tooDeep rfl rfl⟩
  | succ depth ih =>
      intro a todo
      unfold below
      rcases hvisit : (visit slot parent).run.run a with ⟨_ | ⟨⟨⟩⟩, b⟩
      · rename_i fault
        refine Or.inr ⟨⟨fault, 0⟩, [], a, _, todo, b, ?_, .refl _ _, .visit hvisit⟩
        rw [run_run_bind_of_error (visited_of_error hvisit)]
      rw [run_run_bind_of_ok (visited_of_ok hvisit)]
      cases slot with
      | none =>
          exact Or.inr ⟨⟨.absentToken, 0⟩, [], a, _, todo, b, rfl, .refl _ _, .absent rfl hvisit⟩
      | some t =>
          -- the children as they are after the visit
          rcases does_each (fun child => ih child (some t)) (b.1.cell t).children b todo with
            ⟨visited, c, hrun, hsteps⟩ | ⟨stop, visited, a', task, left, c, hrun, hsteps, hstops⟩
          · exact Or.inl ⟨t :: visited, c, hrun, .head hvisit hsteps⟩
          · exact Or.inr ⟨stop, t :: visited, a', task, left, c, hrun, .head hvisit hsteps, hstops⟩

/-- A scan visits all tokens of the tree, or stops at a task that it cannot do. -/
theorem run_does (visit : Visit σ) (depth : Nat) (root : Slot) (a : Store × σ) :
    (∃ visited b, (run visit depth root).run.run a = (.ok (), b) ∧
        Steps visit a [⟨root, none, depth⟩] visited b []) ∨
      ∃ stop visited a' task left b, (run visit depth root).run.run a = (.error stop, b) ∧
        Steps visit a [⟨root, none, depth⟩] visited a' (task :: left) ∧
        Stops visit a' task stop.fault b :=
  does_below depth root none a []

/-! ## Where the steps end -/

/-- No task is left, or the first one cannot be done. -/
def Halts (visit : Visit σ) (a : Store × σ) (todo : List Task) : Prop :=
  ∀ task rest, todo = task :: rest → ∃ fault b, Stops visit a task fault b

theorem Halts.nil : Halts visit a [] := fun _ _ h => by cases h

theorem Halts.of_stops {task : Task} {fault : Fault} (h : Stops visit a task fault b) :
    Halts visit a (task :: rest) := by
  intro _ _ he
  cases he
  exact ⟨fault, b, h⟩

theorem Stops.run_visit {t : TokenId} {fault : Fault}
    (h : Stops visit a ⟨some t, parent, depth + 1⟩ fault b) :
    (visit (some t) parent).run.run a = (.error fault, b) := by
  rcases h with ⟨hdepth, -⟩ | hvisit | ⟨hslot, -⟩
  · cases hdepth
  · exact hvisit
  · cases hslot

theorem Halts.not_visited {t : TokenId} (h : Halts visit a (⟨some t, parent, depth + 1⟩ :: todo)) :
    (visit (some t) parent).run.run a ≠ (.ok (), b) := by
  obtain ⟨fault, c, hstops⟩ := h _ _ rfl
  rw [hstops.run_visit]
  intro hok
  cases hok

/-- Steps that go on for as long as they can come to one end only. -/
theorem Steps.unique (h : Steps visit a todo visited b left) (hend : Halts visit b left)
    (h' : Steps visit a todo others c rest) (hend' : Halts visit c rest) :
    visited = others ∧ b = c ∧ left = rest := by
  induction h generalizing others with
  | refl =>
      cases h' with
      | refl => exact ⟨rfl, rfl, rfl⟩
      | head here _ => exact absurd here hend.not_visited
  | head here _ ih =>
      cases h' with
      | refl => exact absurd here hend'.not_visited
      | head here' next' =>
          rw [here] at here'
          cases here'
          obtain ⟨rfl, rfl, rfl⟩ := ih hend next'
          exact ⟨rfl, rfl, rfl⟩

/-- Steps that leave no task are a whole scan. -/
theorem run_of_steps {root : Slot} (h : Steps visit a [⟨root, none, depth⟩] visited b []) :
    (run visit depth root).run.run a = (.ok (), b) := by
  rcases run_does visit depth root a with
    ⟨others, c, hrun, hsteps⟩ | ⟨stop, others, a', task, left, c, -, hsteps, hstops⟩
  · obtain ⟨-, rfl, -⟩ := h.unique .nil hsteps .nil
    exact hrun
  · obtain ⟨-, -, hleft⟩ := h.unique .nil hsteps (.of_stops hstops)
    cases hleft

/-- Steps to a task that cannot be done are a scan that stops there. -/
theorem run_of_halt {root : Slot} {task : Task} (h : Steps visit a [⟨root, none, depth⟩] visited b (task :: left))
    (hend : Halts visit b (task :: left)) :
    ∃ stop c, (run visit depth root).run.run a = (.error stop, c) ∧ Stops visit b task stop.fault c := by
  rcases run_does visit depth root a with
    ⟨others, c, -, hsteps⟩ | ⟨stop, others, a', task', left', c, hrun, hsteps, hstops⟩
  · obtain ⟨-, -, hleft⟩ := h.unique hend hsteps .nil
    cases hleft
  · obtain ⟨-, rfl, hleft⟩ := h.unique hend hsteps (.of_stops hstops)
    cases hleft
    exact ⟨stop, c, hrun, hstops⟩

end Scan

end ClassLift
