import ClassLift.Proofs.Conversion.Rewriting
import ClassLift.Proofs.Scan
import ClassLift.Proofs.Token.Graft

set_option autoImplicit false

/-! # Whole conversions

A conversion visits the tokens of a tree in preorder. `Stage` says how it stands between two
visits: the tokens visited, and then those that are found from the slots still to be visited, are
the tree in preorder, and no token stands at two places. One visit keeps this (`Stage.step`), and
so does any number of visits (`Stage.run`); what other facts a visit keeps, a run keeps as well.
-/

namespace ClassLift

open List Conversion Scan

/-- What the visit of a token makes of the store, and the classes that it makes. -/
inductive Store.Treated (options : Options) (s : Store) (t : TokenId) (s' : Store)
    (classes : List (String × TokenId)) : Prop where
  | plain (kind : s.isContainer (some t) = false) (same : s' = s) (none : classes = [])
  | container (kind : s.isContainer (some t) = true)
      (converts : ∀ name, name ∈ classes.map Prod.fst ↔ Converts s options (some t) name)
      (rewrites : Rewrites s s' options t classes)

/-- Some tokens are treated one after the other. -/
inductive Store.Processed (options : Options) :
    Store → List TokenId → Store → List (String × TokenId) → Prop where
  | nil (s : Store) : Processed options s [] s []
  | cons {s s₁ s' : Store} {t : TokenId} {visited : List TokenId}
      {made classes : List (String × TokenId)} (first : s.Treated options t s₁ made)
      (others : Processed options s₁ visited s' classes) :
      Processed options s (t :: visited) s' (made ++ classes)

/-- One token is visited: what is found below it, before and after. -/
structure Advance (options : Options) (s s' : Store) (t : TokenId) (below below' : List TokenId)
    (classes : List (String × TokenId)) : Prop where
  lt : t < s.size
  found : Spans Cell.children s (s.cell t).children below
  nodup : (t :: below).Nodup
  /-- Where the token is a container, its statements were understood. -/
  understood : s.isContainer (some t) = true → Understood s options (some t)
  treated : s.Treated options t s' classes
  frame : Frame s s' (· ∈ t :: below)
  found' : Spans Cell.children s' (s'.cell t).children below'
  within : below' <+~ below ++ s.fresh s'

/-- A conversion between two visits: the tokens visited, the tasks left, and the tokens found
from them. -/
structure Stage (s : Store) (root : Slot) (visited : List TokenId) (todo : List Task)
    (ids : List TokenId) : Prop where
  whole : Spans Cell.children s [root] (visited ++ ids)
  rest : Spans Cell.children s (todo.map Task.slot) ids
  nodup : (visited ++ ids).Nodup

variable {s s' : Store} {x x' : Converter} {options : Options} {root parent : Slot}
  {t u : TokenId} {visited more ids below below' rest : List TokenId} {todo left : List Task}
  {depth : Nat} {classes : List (String × TokenId)}

/-! ## One visit -/

/-- A visit in an unshared tree changes nothing but what is below the token. -/
theorem Conversion.visit_advance (hlt : t < s.size)
    (hfound : Spans Cell.children s (s.cell t).children below) (hn : (t :: below).Nodup)
    (h : (visit (some t) parent).run.run (s, x) = (.ok (), (s', x'))) :
    ∃ classes below', Advance x.options s s' t below below' classes ∧ x'.options = x.options ∧
      x'.classes = x.classes ++ classes.map Prod.fst := by
  cases hb : s.isContainer (some t) with
  | false =>
      rw [visit_of_not_container hb] at h
      cases h
      refine ⟨[], below, ⟨hlt, hfound, hn, fun hc => ?_, .plain hb rfl rfl, .refl _ _, hfound, ?_⟩,
        rfl, ?_⟩
      · rw [hb] at hc
        cases hc
      · rw [Store.fresh_self, List.append_nil]
      · exact (List.append_nil _).symm
  | true =>
      obtain ⟨hunderstood, classes, hconverts, hclasses, hoptions, hrewrites, below', hfound', hsub⟩ :=
        visit_progress hfound hn hlt hb h
      refine ⟨classes, below', ⟨hlt, hfound, hn, fun _ => hunderstood, .container hb hconverts hrewrites, ?_,
        hfound', hsub⟩, hoptions, hclasses⟩
      refine hrewrites.frame.mono fun u _ hu => ?_
      obtain ⟨p, -, declaring, hdeclaring, -, hedit⟩ := hu
      have hat := hfound.spans_at hdeclaring
      rcases hedit with rfl | ⟨he, -⟩ | hpart
      · exact List.mem_cons_self
      · exact List.mem_cons_of_mem _ (hfound.root_mem (he ▸ hdeclaring))
      · exact List.mem_cons_of_mem _ (hfound.mem_of_mem_at hdeclaring hpart.1)

/-- The tokens that a visit can change are among those found so far. -/
theorem mem_found_of_mem_visit (hu : u ∈ t :: below) : u ∈ visited ++ t :: (below ++ rest) := by
  rw [← List.cons_append]
  exact List.mem_append_right _ (List.mem_append_left _ hu)

/-- What is found after a visit was found before, or is new below the token. -/
theorem Advance.mem_or_new (h : Advance options s s' t below below' classes)
    (hu : u ∈ visited ++ [t] ++ (below' ++ rest)) :
    u ∈ visited ++ t :: (below ++ rest) ∨ (u ∈ below' ∧ s.size ≤ u) := by
  simp only [List.mem_append, List.mem_cons, List.not_mem_nil, or_false] at hu ⊢
  rcases hu with (hu | hu) | hu | hu
  · exact Or.inl (Or.inl hu)
  · exact Or.inl (Or.inr (Or.inl hu))
  · rcases List.mem_append.mp (h.within.subset hu) with hu' | hu'
    · exact Or.inl (Or.inr (Or.inr (Or.inl hu')))
    · exact Or.inr ⟨hu, (Store.mem_fresh.mp hu').1⟩
  · exact Or.inl (Or.inr (Or.inr (Or.inr hu)))

/-- After the visit of a token, the rest of the tree is as before. -/
theorem Advance.graft (h : Advance options s s' t below below' classes)
    (hwhole : Spans Cell.children s [root] (visited ++ t :: (below ++ rest)))
    (hn : (visited ++ t :: (below ++ rest)).Nodup) :
    Spans Cell.children s' [root] (visited ++ [t] ++ (below' ++ rest)) ∧
      (visited ++ [t] ++ (below' ++ rest)).Nodup ∧
      ∀ u ∈ visited ++ rest, (s'.cell u).children = (s.cell u).children := by
  have hnafter : ∀ u ∈ visited ++ rest, u ∉ t :: below := by
    have hmoved := (hn.perm (List.perm_append_comm_assoc visited (t :: below) rest))
    intro u hu hmem
    exact (List.nodup_append.mp hmoved).2.2 u hmem u hu rfl
  have hsame : ∀ u ∈ visited ++ rest, (s'.cell u).children = (s.cell u).children := by
    intro u hu
    refine h.frame.children u (hwhole.lt_size u ?_) (hnafter u hu)
    rcases List.mem_append.mp hu with hu | hu <;> simp [hu]
  refine ⟨?_, ?_, hsame⟩
  · have := hwhole.graft hn rfl h.found h.frame.size_le hsame h.found'
    rwa [List.append_assoc]
  · -- all tokens found are among those found before, and new ones
    have hsub : visited ++ [t] ++ (below' ++ rest) <+~
        (visited ++ t :: (below ++ rest)) ++ s.fresh s' := by
      refine List.subperm_ext_iff.mpr fun u _ => ?_
      have hu := h.within.count_le u
      simp only [List.count_append, List.count_cons, List.count_nil] at hu ⊢
      omega
    exact nodup_of_subperm hsub (Store.nodup_append_fresh hn hwhole.lt_size)

namespace Stage

theorem start {depth : Nat} (h : Spans Cell.children s [root] ids) (hn : ids.Nodup) :
    Stage s root [] [⟨root, none, depth⟩] ids :=
  ⟨h, h, hn⟩

/-- The first task, apart from the others. -/
theorem first (h : Stage s root visited (⟨some t, parent, depth⟩ :: todo) ids) :
    ∃ below rest, ids = t :: (below ++ rest) ∧ t < s.size ∧
      Spans Cell.children s (s.cell t).children below ∧
      Spans Cell.children s (todo.map Task.slot) rest ∧ (t :: below).Nodup := by
  obtain ⟨found, rest, rfl, hfirst, hrest⟩ := h.rest.of_cons
  obtain ⟨hlt, below, rfl, hbelow⟩ := hfirst.of_singleton
  refine ⟨below, rest, rfl, hlt, hbelow, hrest, ?_⟩
  exact (List.nodup_append.mp (List.nodup_append.mp h.nodup).2.1).1

/-- The next stage, after the visit of the first token. -/
theorem step (h : Stage s root visited (⟨some t, parent, depth + 1⟩ :: todo) (t :: (below ++ rest)))
    (ha : Advance options s s' t below below' classes) :
    Stage s' root (visited ++ [t]) (tasks depth (some t) (s'.cell t).children ++ todo)
      (below' ++ rest) := by
  obtain ⟨below₁, rest₁, heq, -, hbelow₁, hrest, -⟩ := h.first
  obtain ⟨-, heq⟩ := List.cons_eq_cons.mp heq
  obtain rfl := hbelow₁.unique ha.found
  obtain rfl := List.append_cancel_left heq
  obtain ⟨hwhole, hn, hsame⟩ := ha.graft h.whole h.nodup
  refine ⟨hwhole, ?_, hn⟩
  rw [List.map_append, tasks, List.map_map]
  have hslots : ((Task.slot ∘ fun slot => ⟨slot, some t, depth⟩) : Slot → Slot) = id := rfl
  rw [hslots, List.map_id]
  exact ha.found'.append (hrest.frame ha.frame.size_le fun u hu => hsame u (by simp [hu]))

/-! ## Any number of visits -/

/-- A property that every visit keeps, as it runs, holds after any number of visits. -/
theorem run_of_visits (Inv : Store → List TokenId → List Task → List TokenId → Prop)
    (keeps : ∀ {s s' : Store} {x x' : Converter} {t : TokenId}
      {visited below below' rest : List TokenId} {parent : Slot} {depth : Nat} {todo : List Task}
      {classes : List (String × TokenId)},
      Stage s root visited (⟨some t, parent, depth + 1⟩ :: todo) (t :: (below ++ rest)) →
      Inv s visited (⟨some t, parent, depth + 1⟩ :: todo) (t :: (below ++ rest)) →
      Advance options s s' t below below' classes → x.options = options →
      (visit (some t) parent).run.run (s, x) = (.ok (), (s', x')) →
      Inv s' (visited ++ [t]) (tasks depth (some t) (s'.cell t).children ++ todo) (below' ++ rest))
    {a b : Store × Converter} (hsteps : Steps visit a todo more b left)
    (hoptions : a.2.options = options) (h : Stage a.1 root visited todo ids)
    (hinv : Inv a.1 visited todo ids) :
    ∃ ids' classes, Stage b.1 root (visited ++ more) left ids' ∧
      Inv b.1 (visited ++ more) left ids' ∧ Store.Processed options a.1 more b.1 classes ∧
      b.2.classes = a.2.classes ++ classes.map Prod.fst ∧ b.2.options = options := by
  -- the stage says that the token to be visited next stands in an unshared tree, as a visit takes it
  induction hsteps generalizing visited ids with
  | refl a todo =>
      refine ⟨ids, [], ?_, ?_, .nil _, (List.append_nil _).symm, hoptions⟩
      · rwa [List.append_nil]
      · rwa [List.append_nil]
  | @head a b c t parent depth todo left more here next ih =>
      obtain ⟨below, rest, rfl, hlt, hbelow, -, hn⟩ := h.first
      obtain ⟨made, below', ha, hoptions', hmade⟩ := visit_advance hlt hbelow hn here
      rw [hoptions] at ha hoptions'
      obtain ⟨ids', classes, hstage, hinv', hprocessed, hclasses, hlast⟩ :=
        ih hoptions' (h.step ha) (keeps h hinv ha hoptions here)
      rw [List.append_assoc] at hstage hinv'
      refine ⟨ids', made ++ classes, hstage, hinv', .cons ha.treated hprocessed, ?_, hlast⟩
      rw [hclasses, hmade, List.append_assoc, List.map_append]

/-- A property that every visit keeps holds after any number of visits. -/
theorem run (Inv : Store → List TokenId → List Task → List TokenId → Prop)
    (keeps : ∀ {s s' : Store} {t : TokenId} {visited below below' rest : List TokenId}
      {parent : Slot} {depth : Nat} {todo : List Task} {classes : List (String × TokenId)},
      Stage s root visited (⟨some t, parent, depth + 1⟩ :: todo) (t :: (below ++ rest)) →
      Inv s visited (⟨some t, parent, depth + 1⟩ :: todo) (t :: (below ++ rest)) →
      Advance options s s' t below below' classes →
      Inv s' (visited ++ [t]) (tasks depth (some t) (s'.cell t).children ++ todo) (below' ++ rest))
    {a b : Store × Converter} (hsteps : Steps visit a todo more b left)
    (hoptions : a.2.options = options) (h : Stage a.1 root visited todo ids)
    (hinv : Inv a.1 visited todo ids) :
    ∃ ids' classes, Stage b.1 root (visited ++ more) left ids' ∧
      Inv b.1 (visited ++ more) left ids' ∧ Store.Processed options a.1 more b.1 classes ∧
      b.2.classes = a.2.classes ++ classes.map Prod.fst ∧ b.2.options = options :=
  run_of_visits Inv (fun hstage hinv ha _ _ => keeps hstage hinv ha) hsteps hoptions h hinv

end Stage

/-! ## The conversion as a scan -/

theorem Conversion.transform_run (root : Slot) (s : Store) (x : Converter) :
    (transform root).run.run (s, x) =
      match (Scan.run visit (depthBound s) root).run.run (s, { x with classes := [] }) with
      | (.ok (), (s', x')) => (.ok x'.classes, (s', x'))
      | (.error stop, (s', x')) => (.error stop.fault, (s', x')) := by
  unfold transform
  rw [run_run_bind_of_ok (Traversal.run_run_modifyOwn _ s x), run_run_bind_of_ok (run_run_get _)]
  dsimp only
  rw [run_run_bind, run_run_adapt]
  rcases (Scan.run visit (depthBound s) root).run.run (s, { x with classes := [] }) with ⟨r, s', x'⟩
  cases r <;> rfl

end ClassLift
