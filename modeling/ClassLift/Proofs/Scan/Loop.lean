import ClassLift.Proofs.Scan

set_option autoImplicit false

/-! # Scans as loops

A scan can be written as a loop with a stack of slots that are still to be visited: in every round
the first of them is visited, and its children come in its place. The loop has no bound, and it may
go on for ever. `Scan.Rounds` is some rounds of it, `Scan.Ends` says how it ends.

All rounds lead to the same end, if there is one (`Rounds.toward_end`, `Ends.unique`). A scan that
stays within its bound does what the loop does (`run_ends`), and where the loop ends, a scan with
any bound above the number of visits ends in the same way (`Ends.run`).
-/

namespace ClassLift

namespace Scan

variable {σ : Type}

/-- A slot that is still to be visited, and the slot above it. -/
abbrev Pending := Slot × Slot

/-- The slots below a token, when they are still to be visited. -/
def pending (parent : Slot) (slots : List Slot) : List Pending :=
  slots.map fun slot => (slot, parent)

/-- Some rounds of the loop, with the tokens that they visit. -/
inductive Rounds (visit : Visit σ) :
    Store × σ → List Pending → List TokenId → Store × σ → List Pending → Prop where
  | refl (a : Store × σ) (stack : List Pending) : Rounds visit a stack [] a stack
  | head {a b c : Store × σ} {t : TokenId} {parent : Slot} {stack left : List Pending}
      {visited : List TokenId} (here : (visit (some t) parent).run.run a = (.ok (), b))
      (next : Rounds visit b (pending (some t) (b.1.cell t).children ++ stack) visited c left) :
      Rounds visit a ((some t, parent) :: stack) (t :: visited) c left

/-- The loop ends after some tokens were visited: it returns when nothing is left to be visited,
or a visit stops with a fault, or the children of an empty slot are asked for. What was still to be
visited stays on the stack. -/
inductive Ends (visit : Visit σ) (a : Store × σ) (stack : List Pending) (visited : List TokenId) :
    Except Fault Unit → Store × σ → List Pending → Prop where
  | returned {b : Store × σ} (rounds : Rounds visit a stack visited b []) :
      Ends visit a stack visited (.ok ()) b []
  | raised {b c : Store × σ} {slot parent : Slot} {left : List Pending} {fault : Fault}
      (rounds : Rounds visit a stack visited b ((slot, parent) :: left))
      (here : (visit slot parent).run.run b = (.error fault, c)) :
      Ends visit a stack visited (.error fault) c left
  | absent {b c : Store × σ} {parent : Slot} {left : List Pending}
      (rounds : Rounds visit a stack visited b ((none, parent) :: left))
      (here : (visit none parent).run.run b = (.ok (), c)) :
      Ends visit a stack visited (.error .absentToken) c left

variable {visit : Visit σ} {a b c : Store × σ} {stack left rest : List Pending}
  {visited others : List TokenId} {result result' : Except Fault Unit}

/-! ## One end -/

/-- The loop cannot go on: the stack is empty, or its first slot cannot be visited. -/
def Stuck (visit : Visit σ) (a : Store × σ) (stack : List Pending) : Prop :=
  ∀ t parent rest b, stack = (some t, parent) :: rest →
    (visit (some t) parent).run.run a ≠ (.ok (), b)

theorem Stuck.nil : Stuck visit a [] := fun _ _ _ _ h => by cases h

theorem Stuck.of_error {slot parent : Slot} {fault : Fault}
    (h : (visit slot parent).run.run a = (.error fault, b)) :
    Stuck visit a ((slot, parent) :: stack) := by
  intro t parent' rest c he hok
  cases he
  rw [h] at hok
  cases hok

theorem Stuck.absent {parent : Slot} : Stuck visit a ((none, parent) :: stack) :=
  fun _ _ _ _ h => by cases h

/-- Where the loop ends, it was stuck in the last round. -/
theorem Ends.stuck (h : Ends visit a stack visited result b left) :
    ∃ c rest, Rounds visit a stack visited c rest ∧ Stuck visit c rest := by
  cases h with
  | returned rounds => exact ⟨_, _, rounds, .nil⟩
  | raised rounds here => exact ⟨_, _, rounds, .of_error here⟩
  | absent rounds _ => exact ⟨_, _, rounds, .absent⟩

/-- Any rounds lead to where the loop is stuck. -/
theorem Rounds.toward (h : Rounds visit a stack visited b left) (hend : Stuck visit b left)
    (h' : Rounds visit a stack others c rest) :
    ∃ more, visited = others ++ more ∧ Rounds visit c rest more b left := by
  -- a round has one result, so that both runs begin in the same way
  induction h' generalizing visited with
  | refl => exact ⟨visited, rfl, h⟩
  | head here _ ih =>
      cases h with
      | refl => exact absurd here (hend _ _ _ _ rfl)
      | head here' next =>
          rw [here] at here'
          cases here'
          obtain ⟨more, rfl, hmore⟩ := ih next
          exact ⟨more, rfl, hmore⟩

/-- All rounds of a loop that ends are on the way to its end. -/
theorem Rounds.toward_end (h : Rounds visit a stack others c rest)
    (hend : Ends visit a stack visited result b left) : others <+: visited := by
  obtain ⟨_, _, rounds, hstuck⟩ := hend.stuck
  obtain ⟨more, rfl, -⟩ := rounds.toward hstuck h
  exact List.prefix_append others more

theorem Rounds.unique (h : Rounds visit a stack visited b left) (hend : Stuck visit b left)
    (h' : Rounds visit a stack others c rest) (hend' : Stuck visit c rest) :
    visited = others ∧ b = c ∧ left = rest := by
  obtain ⟨more, rfl, hmore⟩ := h.toward hend h'
  cases hmore with
  | refl => exact ⟨List.append_nil _, rfl, rfl⟩
  | head here _ => exact absurd here (hend' _ _ _ _ rfl)

/-- The loop ends in one way at most. -/
theorem Ends.unique (h : Ends visit a stack visited result b left)
    (h' : Ends visit a stack others result' c rest) :
    visited = others ∧ result = result' ∧ b = c ∧ left = rest := by
  -- both are stuck in the same place; what the first slot does there tells how they end
  cases h with
  | returned rounds =>
      cases h' with
      | returned rounds' =>
          obtain ⟨rfl, rfl, -⟩ := rounds.unique .nil rounds' .nil
          exact ⟨rfl, rfl, rfl, rfl⟩
      | raised rounds' here => cases (rounds.unique .nil rounds' (.of_error here)).2.2
      | absent rounds' => cases (rounds.unique .nil rounds' .absent).2.2
  | raised rounds here =>
      cases h' with
      | returned rounds' => cases (rounds.unique (.of_error here) rounds' .nil).2.2
      | raised rounds' here' =>
          obtain ⟨rfl, rfl, hleft⟩ := rounds.unique (.of_error here) rounds' (.of_error here')
          cases hleft
          rw [here] at here'
          cases here'
          exact ⟨rfl, rfl, rfl, rfl⟩
      | absent rounds' here' =>
          obtain ⟨rfl, rfl, hleft⟩ := rounds.unique (.of_error here) rounds' .absent
          cases hleft
          rw [here] at here'
          cases here'
  | absent rounds here =>
      cases h' with
      | returned rounds' => cases (rounds.unique .absent rounds' .nil).2.2
      | raised rounds' here' =>
          obtain ⟨rfl, rfl, hleft⟩ := rounds.unique .absent rounds' (.of_error here')
          cases hleft
          rw [here] at here'
          cases here'
      | absent rounds' here' =>
          obtain ⟨rfl, rfl, hleft⟩ := rounds.unique .absent rounds' .absent
          cases hleft
          rw [here] at here'
          cases here'
          exact ⟨rfl, rfl, rfl, rfl⟩

/-! ## The loop and the recursion -/

/-- A task without its bound. -/
def Task.pending (task : Task) : Pending := (task.slot, task.parent)

theorem map_pending_tasks (depth : Nat) (parent : Slot) (slots : List Slot) :
    (tasks depth parent slots).map Task.pending = pending parent slots := by
  rw [tasks, pending, List.map_map]
  rfl

variable {todo todo' : List Task}

/-- Steps of the recursion are rounds of the loop. -/
theorem Steps.rounds (h : Steps visit a todo visited b todo') :
    Rounds visit a (todo.map Task.pending) visited b (todo'.map Task.pending) := by
  induction h with
  | refl => exact .refl _ _
  | head here _ ih =>
      rw [List.map_append, map_pending_tasks] at ih
      exact .head here ih

/-- Rounds of the loop are steps of the recursion, as long as the bounds allow them. -/
theorem Rounds.steps (h : Rounds visit a stack visited b left)
    (hstack : todo.map Task.pending = stack) (hdepth : ∀ task ∈ todo, visited.length ≤ task.depth) :
    ∃ todo', Steps visit a todo visited b todo' ∧ todo'.map Task.pending = left := by
  -- one round takes one from the bound of its children, and one from what the bounds have to allow
  induction h generalizing todo with
  | refl => exact ⟨todo, .refl _ _, hstack⟩
  | @head a b c t parent stack left visited here next ih =>
      obtain ⟨⟨slot, above, depth⟩, todo, rfl, htask, rfl⟩ := List.map_eq_cons_iff.mp hstack
      cases htask
      have hfirst : visited.length + 1 ≤ depth := hdepth _ List.mem_cons_self
      obtain ⟨depth, rfl⟩ : ∃ d, depth = d + 1 := ⟨depth - 1, by omega⟩
      have hrest : ∀ task ∈ tasks depth (some t) (b.1.cell t).children ++ todo,
          visited.length ≤ task.depth := by
        intro task htask
        rcases List.mem_append.mp htask with htask | htask
        · obtain ⟨slot, -, rfl⟩ := List.mem_map.mp htask
          exact Nat.le_of_succ_le_succ hfirst
        · exact Nat.le_of_succ_le (hdepth task (List.mem_cons_of_mem _ htask))
      obtain ⟨todo', hsteps, hleft⟩ := ih (by rw [List.map_append, map_pending_tasks]) hrest
      exact ⟨todo', .head here hsteps, hleft⟩

/-- A step takes one from the bound. -/
theorem Steps.le_depth {n : Nat} (h : Steps visit a todo visited b todo')
    (hdepth : ∀ task ∈ todo, n ≤ task.depth) : ∀ task ∈ todo', n ≤ task.depth + visited.length := by
  induction h generalizing n with
  | refl => exact hdepth
  | @head a b c t parent depth todo todo' visited here next ih =>
      have hfirst : n ≤ depth + 1 := hdepth _ List.mem_cons_self
      intro task htask
      have hrest : ∀ task ∈ tasks depth (some t) (b.1.cell t).children ++ todo, n - 1 ≤ task.depth := by
        intro task htask
        rcases List.mem_append.mp htask with htask | htask
        · obtain ⟨slot, -, rfl⟩ := List.mem_map.mp htask
          show n - 1 ≤ depth
          omega
        · have := hdepth task (List.mem_cons_of_mem _ htask)
          omega
      have := ih hrest task htask
      rw [List.length_cons]
      omega

/-- How a scan comes out, apart from how much was pending. -/
def outcome (result : Except Interruption Unit) : Except Fault Unit :=
  result.mapError Interruption.fault

variable {root : Slot} {depth : Nat}

/-- A scan whose visits need a token does what the loop does, or it gets to its bound. -/
theorem run_ends (hnone : ∀ parent a b, (visit none parent).run.run a ≠ (.ok (), b)) (depth : Nat)
    (root : Slot) (a : Store × σ) :
    (∃ visited left, Ends visit a [(root, none)] visited
        (outcome ((run visit depth root).run.run a).1) ((run visit depth root).run.run a).2 left) ∨
      ∃ visited b task left, Steps visit a [⟨root, none, depth⟩] visited b (task :: left) ∧
        task.depth = 0 := by
  rcases run_does visit depth root a with
    ⟨visited, b, hrun, hsteps⟩ | ⟨stop, visited, b, task, left, c, hrun, hsteps, hstops⟩
  · rw [hrun]
    exact Or.inl ⟨visited, [], .returned hsteps.rounds⟩
  · rw [hrun]
    rcases hstops with ⟨hdepth, -⟩ | hvisit | ⟨-, hvisit⟩
    · exact Or.inr ⟨visited, b, task, left, hsteps, hdepth⟩
    · exact Or.inl ⟨visited, _, .raised hsteps.rounds hvisit⟩
    · exact absurd hvisit (hnone _ _ _)

/-- Where the loop ends, a scan ends in the same way when its bound is above the number of visits. -/
theorem Ends.run (hnone : ∀ parent a b, (visit none parent).run.run a ≠ (.ok (), b))
    (h : Ends visit a [(root, none)] visited result b left) (hdepth : visited.length < depth) :
    outcome ((run visit depth root).run.run a).1 = result ∧
      ((run visit depth root).run.run a).2 = b := by
  rcases run_ends hnone depth root a with ⟨others, rest, hends⟩ | ⟨others, c, task, rest, hsteps, hzero⟩
  · obtain ⟨-, hresult, hstore, -⟩ := hends.unique h
    exact ⟨hresult, hstore⟩
  · -- a bound is used up by as many visits only
    have hlength := (hsteps.rounds.toward_end h).length_le
    have hle := hsteps.le_depth (n := depth) (by simp) task List.mem_cons_self
    omega

/-! ## What every visit keeps -/

/-- A property that a visit keeps, however it ends. -/
def Kept (visit : Visit σ) (Inv : Store × σ → Prop) : Prop :=
  ∀ slot parent a result b, (visit slot parent).run.run a = (result, b) → Inv a → Inv b

variable {Inv : Store × σ → Prop}

theorem Rounds.keeps (h : Rounds visit a stack visited b left) (hvisit : Kept visit Inv)
    (ha : Inv a) : Inv b := by
  induction h with
  | refl => exact ha
  | head here _ ih => exact ih (hvisit _ _ _ _ _ here ha)

/-- What every visit keeps holds where the loop ends. -/
theorem Ends.keeps (h : Ends visit a stack visited result b left) (hvisit : Kept visit Inv)
    (ha : Inv a) : Inv b := by
  cases h with
  | returned rounds => exact rounds.keeps hvisit ha
  | raised rounds here => exact hvisit _ _ _ _ _ here (rounds.keeps hvisit ha)
  | absent rounds here => exact hvisit _ _ _ _ _ here (rounds.keeps hvisit ha)

/-- What every visit keeps holds where a scan ends, also when it gets to its bound. -/
theorem below_keeps (hvisit : Kept visit Inv) (depth : Nat) (slot parent : Slot) (ha : Inv a) :
    Inv ((below visit depth slot parent).run.run a).2 := by
  have heach : ∀ {one : Slot → Run σ Unit}, (∀ slot a, Inv a → Inv ((one slot).run.run a).2) →
      ∀ slots a, Inv a → Inv ((each one slots).run.run a).2 := by
    intro one hone slots
    induction slots with
    | nil => exact fun a ha => ha
    | cons slot slots ih =>
        intro a ha
        have hfirst := hone slot a ha
        rcases hrun : (one slot).run.run a with ⟨_ | _, b⟩ <;> rw [hrun] at hfirst
        · rw [each_cons_of_error hrun]
          exact hfirst
        · rw [each_cons_of_ok hrun]
          exact ih b hfirst
  induction depth generalizing slot parent a with
  | zero => exact ha
  | succ depth ih =>
      unfold below
      rcases hrun : (visit slot parent).run.run a with ⟨_ | _, b⟩
      · rw [run_run_bind_of_error (visited_of_error hrun)]
        exact hvisit _ _ _ _ _ hrun ha
      · have hhere := hvisit _ _ _ _ _ hrun ha
        rw [run_run_bind_of_ok (visited_of_ok hrun)]
        cases slot with
        | none => exact hhere
        | some t => exact heach (fun child a ha => ih child (some t) ha) _ b hhere

end Scan

end ClassLift
