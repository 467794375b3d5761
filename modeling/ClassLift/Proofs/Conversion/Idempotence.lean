import ClassLift.Proofs.Conversion.Run

set_option autoImplicit false

/-! # Converting again

After a conversion, every container of the tree is quiet: its own visit left nothing to convert
there (`Advance.quiet`), and later visits do not change the face of its statements
(`Advance.sameFace`). So a second conversion makes no class and changes nothing
(`transform_idempotent`).
-/

namespace ClassLift

open List Conversion Scan

variable {s s' : Store} {options : Options} {block t v : TokenId} {ids below below' rest : List TokenId}
  {classes : List (String × TokenId)} {slot root parent : Slot} {depth : Nat} {todo : List Task}
  {visited : List TokenId}

/-! ## The container itself -/

/-- Nothing below a statement that declares no class is edited. -/
theorem Rewrites.sameFace (hc : Container s block ids) (h : Rewrites s s' options block classes)
    (hslot : slot ∈ (s.cell block).children)
    (hother : ∀ p ∈ classes, ¬s.declares (some block) p.1 slot = true) : SameFace s s' [slot] := by
  have hspans := hc.found.spans_at hslot
  have hn : (Spans.at_ Cell.children s slot).Nodup := by
    have hall := hc.nodup_ids
    rw [hc.found.eq_flatMap] at hall
    exact (List.nodup_flatMap.mp hall).1 slot hslot
  refine SameFace.of_cells h.frame.size_le hspans hn fun u hu => ?_
  refine h.frame.cell (hspans.lt_size u hu) ?_
  rintro ⟨p, hp, declaring, hdeclaring, hd, hedit⟩
  have hne : slot ≠ declaring := by
    rintro rfl
    exact hother p hp hd
  exact hc.not_edits hdeclaring hslot hne hu hedit

/-- What is left of a statement when functions of its container became classes. -/
theorem Rewrites.echo (hc : Container s block ids) (h : Rewrites s s' options block classes)
    (hslot : slot ∈ (s.cell block).children) :
    Echo s s' options (some block) (classes.map Prod.fst) slot
      (s.replacement options (some block) classes slot) := by
  unfold Store.replacement
  cases hfind : classes.find? fun p => s.declares (some block) p.1 slot with
  | some p =>
      have hp : p ∈ classes := List.mem_of_find?_eq_some hfind
      have hdeclares : s.declares (some block) p.1 slot = true := by simpa using List.find?_some hfind
      obtain ⟨declaring, -, c, -, -, hdeclared⟩ := h.declared p hp
      refine .used p.1 (List.mem_map_of_mem hp) (Or.inl hdeclares) ?_
      simp only [List.mem_singleton, forall_eq]
      -- the class itself stands there, or the export that now holds it
      by_cases hkind : s.hasKind Kind.exportDecl slot = true
      · obtain ⟨e, rfl, -⟩ := Store.exists_token_of_hasKind hkind
        have hlt := hc.found.lt_size e (hc.found.root_mem hslot)
        rw [if_pos hkind]
        refine Store.inert_of_export (by rw [h.frame.hasKind _ hlt]; exact hkind) ?_
        rw [h.exported p hp e hslot hkind hdeclares]
        intro first hfirst
        cases hchildren : (s.cell e).children with
        | nil =>
            rw [hchildren] at hfirst
            cases hfirst
        | cons old others =>
            rw [hchildren] at hfirst
            cases hfirst
            exact hdeclared.hasKind
      · rw [if_neg hkind]
        exact Store.inert_of_classDecl hdeclared.hasKind
  | none =>
      dsimp only
      split
      · rename_i hany
        obtain ⟨p, hp, hgoes⟩ := List.any_eq_true.mp hany
        refine .used p.1 (List.mem_map_of_mem hp) (Or.inr ?_) (by simp)
        exact (Bool.and_eq_true_iff.mp hgoes).1
      · have hother : ∀ p ∈ classes, ¬ s.declares (some block) p.1 slot = true := by
          simpa using hfind
        refine .same ?_ rfl ?_
        · exact (h.sameFace hc hslot hother).forms
        · intro name hname
          obtain ⟨p, hp, rfl⟩ := List.mem_map.mp hname
          exact hother p hp

/-- A container has statements after the rewriting if and only if it had some before. -/
theorem Rewrites.isEmpty (h : Rewrites s s' options block classes) :
    (s'.cell block).children.isEmpty = (s.cell block).children.isEmpty := by
  rw [h.children, Bool.eq_iff_iff, List.isEmpty_iff, List.isEmpty_iff]
  refine ⟨fun hnil => ?_, fun hnil => by rw [hnil]; rfl⟩
  by_contra hne
  obtain ⟨slot, hslot⟩ := List.exists_mem_of_ne_nil _ hne
  have hgone := fun slot (hslot : slot ∈ (s.cell block).children) =>
    List.flatMap_eq_nil_iff.mp hnil slot hslot
  -- the statement went with a class, whose declaration did not go
  have hfind : ∀ slot ∈ (s.cell block).children,
      (classes.find? fun p => s.declares (some block) p.1 slot) = none := by
    intro slot hslot
    have hnone := hgone slot hslot
    unfold Store.replacement at hnone
    split at hnone
    · cases hnone
    · assumption
  have hany := hgone slot hslot
  rw [Store.replacement, hfind slot hslot] at hany
  dsimp only at hany
  split at hany
  · rename_i hgoes
    obtain ⟨p, hp, -⟩ := List.any_eq_true.mp hgoes
    obtain ⟨declaring, hdeclaring, c, hc, hname, -⟩ := h.declared p hp
    have := List.find?_eq_none.mp (hfind declaring hdeclaring) p hp
    exact this (Store.declares_iff.mpr ⟨c, hc, hname⟩)
  · cases hany

/-! ## One visit -/

namespace Advance

theorem isContainer (ha : Advance options s s' t below below' classes) (hv : v < s.size) :
    s'.isContainer (some v) = s.isContainer (some v) := by
  rw [Store.isContainer, Store.isContainer, ha.frame.hasKind _ hv, ha.frame.hasKind _ hv]

/-- A container that was visited is quiet. -/
theorem quiet (ha : Advance options s s' t below below' classes)
    (hc : s.isContainer (some t) = true) : Quiet s' options (some t) := by
  rcases ha.treated with ⟨hno, -, -⟩ | ⟨-, hconverts, hrewrites⟩
  · rw [hc] at hno
    cases hno
  have hunderstood := ha.understood hc
  have hcontainer : Container s t below := ⟨hc, ha.lt, ha.found, ha.nodup, hunderstood.present⟩
  have hechoes := fun st (hst : st ∈ (s.cell t).children) => hrewrites.echo hcontainer hst
  refine ⟨hunderstood.echo hrewrites.children hechoes, fun name hname => ?_⟩
  obtain ⟨hnot, hbefore⟩ := hname.of_echo hrewrites.children hechoes
  exact hnot ((hconverts name).mpr hbefore)

/-- From above, the token that is visited looks the same. -/
theorem looksLike (ha : Advance options s s' t below below' classes)
    (hc : s.isContainer (some t) = true) : (s.cell t).LooksLike (s'.cell t) := by
  rcases ha.treated with ⟨hno, -, -⟩ | ⟨-, -, hrewrites⟩
  · rw [hc] at hno
    cases hno
  have hlabel := ha.frame.label t ha.lt
  refine ⟨hlabel, ?_, hrewrites.isEmpty⟩
  have hkind := Store.isContainer_some.mp hc
  rw [Cell.face, Cell.face, hlabel, if_pos hkind, if_pos hkind]

/-- The visit of one token does not change the face of what stands in a container that was
visited before. -/
theorem sameFace (ha : Advance options s s' t below below' classes)
    (h : Stage s root visited (⟨some t, parent, depth + 1⟩ :: todo) (t :: (below ++ rest)))
    (hv : v ∈ visited) : SameFace s s' (s.cell v).children := by
  have hall : ∀ u ∈ t :: below, u ∈ visited ++ t :: (below ++ rest) := fun u hu =>
    List.mem_append_right _ (by
      rw [← List.cons_append]
      exact List.mem_append_left _ hu)
  have hvnot : v ∉ t :: below := fun hmem =>
    (List.nodup_append.mp h.nodup).2.2 v hv v (by
      rw [← List.cons_append]
      exact List.mem_append_left _ hmem) rfl
  obtain ⟨down, hdown, hinfix⟩ := h.whole.below_mem (List.mem_append_left _ hv)
  obtain ⟨-, found, heq, hfound⟩ := hdown.of_singleton
  obtain ⟨-, rfl⟩ := List.cons_eq_cons.mp heq
  have hwhole : ∀ u ∈ down, u ∈ visited ++ t :: (below ++ rest) := fun u hu =>
    hinfix.subset (List.mem_cons_of_mem v hu)
  have hn : down.Nodup := (List.nodup_cons.mp (h.nodup.sublist hinfix.sublist)).2
  rcases ha.treated with ⟨-, rfl, -⟩ | ⟨hc, -, -⟩
  · exact SameFace.of_cells (Nat.le_refl _) hfound hn fun _ _ => rfl
  obtain ⟨face, hface, hsub⟩ := hfound.restrict Cell.face_sublist_children
  -- a token below the one visited is below no other container that was visited
  have hparent : ∀ u ∈ below, ∀ p ∈ visited ++ t :: (below ++ rest), some u ∈ (s.cell p).children →
      p ∈ t :: below := by
    intro u hu p hp hup
    rcases ha.found.exists_parent hu with hroot | ⟨q, hq, huq⟩
    · rw [h.whole.parent_unique h.nodup hp (hall t List.mem_cons_self) hup hroot]
      exact List.mem_cons_self
    · rw [h.whole.parent_unique h.nodup hp (hall q (List.mem_cons_of_mem t hq)) hup huq]
      exact List.mem_cons_of_mem t hq
  have hnotbelow : ∀ u ∈ face, u ∉ below := by
    refine hface.forall_of_links (fun u hu hmem => ?_) fun w hw hnot u hu hmem => ?_
    · exact hvnot (hparent u hmem v (List.mem_append_left _ hv) hu)
    · have hu' := (Cell.face_sublist_children _).subset hu
      rcases List.mem_cons.mp (hparent u hmem w (hwhole w (hsub.subset hw)) hu') with rfl | hw'
      · rw [Cell.face, if_pos (Store.isContainer_some.mp hc)] at hu
        cases hu
      · exact hnot hw'
  refine ⟨ha.frame.size_le, face, hface, ?_, fun u hu => ?_⟩
  · exact Nat.le_trans hsub.length_le (hfound.length_le_size hn)
  by_cases hut : u = t
  · rw [hut]
    exact ha.looksLike hc
  · rw [ha.frame.cell (hface.lt_size u hu) fun hmem =>
      (List.mem_cons.mp hmem).elim hut (hnotbelow u hu)]
    exact ⟨rfl, rfl, rfl⟩

end Advance

/-! ## All visits -/

/-- Every container that was visited is quiet, and every child of a token visited was visited or
is still to be visited. -/
structure Settled (s : Store) (options : Options) (visited : List TokenId) (todo : List Task) :
    Prop where
  quiet : ∀ v ∈ visited, s.isContainer (some v) = true → Quiet s options (some v)
  linked : ∀ v ∈ visited, ∀ slot ∈ (s.cell v).children,
    (∃ u ∈ visited, slot = some u) ∨ slot ∈ todo.map Task.slot

theorem Settled.step
    (hs : Settled s options visited (⟨some t, parent, depth + 1⟩ :: todo))
    (h : Stage s root visited (⟨some t, parent, depth + 1⟩ :: todo) (t :: (below ++ rest)))
    (ha : Advance options s s' t below below' classes) :
    Settled s' options (visited ++ [t])
      (tasks depth (some t) (s'.cell t).children ++ todo) := by
  have hlt : ∀ v ∈ visited, v < s.size := fun v hv =>
    h.whole.lt_size v (List.mem_append_left _ hv)
  -- what was visited is apart from what the visit changes
  have hchildren : ∀ v ∈ visited, (s'.cell v).children = (s.cell v).children := by
    intro v hv
    refine ha.frame.children v (hlt v hv) fun hmem => ?_
    refine (List.nodup_append.mp h.nodup).2.2 v hv v ?_ rfl
    rw [← List.cons_append]
    exact List.mem_append_left _ hmem
  constructor
  case quiet =>
    intro v hv hc
    rcases List.mem_append.mp hv with hv | hv
    · rw [ha.isContainer (hlt v hv)] at hc
      exact (hs.quiet v hv hc).of_sameFace (hchildren v hv) (ha.sameFace h hv)
    · rw [List.mem_singleton] at hv
      subst hv
      rw [ha.isContainer ha.lt] at hc
      exact ha.quiet hc
  case linked =>
    intro v hv slot hslot
    rw [List.map_append, List.mem_append, tasks, List.map_map]
    rcases List.mem_append.mp hv with hv | hv
    · rw [hchildren v hv] at hslot
      rcases hs.linked v hv slot hslot with ⟨u, hu, rfl⟩ | hslot
      · exact Or.inl ⟨u, List.mem_append_left _ hu, rfl⟩
      rcases List.mem_cons.mp hslot with rfl | hslot
      · exact Or.inl ⟨t, by simp, rfl⟩
      · exact Or.inr (Or.inr hslot)
    · rw [List.mem_singleton] at hv
      subst hv
      exact Or.inr (Or.inl (List.mem_map.mpr ⟨slot, hslot, rfl⟩))

/-! ## The second conversion -/

/-- There is nothing to do at the token. -/
def Store.Calm (s : Store) (options : Options) (t : TokenId) : Prop :=
  none ∉ (s.cell t).children ∧ (s.isContainer (some t) = true → Quiet s options (some t))

/-- Candidates that are not made classes change nothing. -/
theorem Conversion.commits_of_filter_eq_nil {candidates : List Candidate} {x : Converter}
    (h : candidates.filter Candidate.isTransformable = []) :
    (candidates.forM commit).run.run (s, x) = (.ok (), (s, x)) := by
  rw [commits_filter, h]
  rfl

theorem Conversion.visit_of_calm {x : Converter} (parent : Slot) (h : s.Calm x.options t) :
    ∃ x', (visit (some t) parent).run.run (s, x) = (.ok (), (s, x')) ∧ x.SameClasses x' := by
  cases hc : s.isContainer (some t) with
  | false => exact ⟨x, visit_of_not_container hc parent x, rfl, rfl⟩
  | true =>
      obtain ⟨candidates, gives, hnone⟩ := (h.2 hc).detect_gives
      rw [visit_of_container hc, gives []]
      exact ⟨_, commits_of_filter_eq_nil hnone, Converter.sameClasses_reports x _⟩

/-- The tasks are within reach, and there is nothing to do at their tokens. -/
def Idle (s : Store) (options : Options) (todo : List Task) : Prop :=
  ∀ task ∈ todo, ∃ t ids, task.slot = some t ∧ Spans Cell.children s [some t] ids ∧
    ids.length ≤ task.depth ∧ ∀ u ∈ ids, s.Calm options u

theorem Idle.step (h : Idle s options (⟨some t, parent, depth + 1⟩ :: todo)) :
    s.Calm options t ∧ Idle s options (tasks depth (some t) (s.cell t).children ++ todo) := by
  obtain ⟨u, ids, hu, hspans, hlength, hcalm⟩ := h _ List.mem_cons_self
  cases hu
  obtain ⟨-, below, rfl, hbelow⟩ := hspans.of_singleton
  refine ⟨hcalm t List.mem_cons_self, fun task htask => ?_⟩
  rcases List.mem_append.mp htask with htask | htask
  · obtain ⟨slot, hslot, rfl⟩ := List.mem_map.mp htask
    cases slot with
    | none => exact absurd hslot (hcalm t List.mem_cons_self).1
    | some c =>
        obtain ⟨found, hfound, hsub⟩ := hbelow.sublist (List.singleton_sublist.mpr hslot)
        exact ⟨c, found, rfl, hfound,
          Nat.le_trans hsub.length_le (Nat.le_of_succ_le_succ hlength),
          fun v hv => hcalm v (List.mem_cons_of_mem t (hsub.subset hv))⟩
  · exact h task (List.mem_cons_of_mem _ htask)

/-- Visits of tokens where there is nothing to do change nothing. -/
theorem Idle.run {a b : Store × Converter} {left : List Task} (hsteps : Steps visit a todo visited b left)
    (h : Idle a.1 a.2.options todo) :
    b.1 = a.1 ∧ a.2.SameClasses b.2 ∧ Idle b.1 b.2.options left := by
  induction hsteps with
  | refl a todo => exact ⟨rfl, ⟨rfl, rfl⟩, h⟩
  | @head a b c t parent depth todo left visited here _ ih =>
      obtain ⟨hcalm, hnext⟩ := h.step
      obtain ⟨x', hvisit, hoptions, hclasses⟩ := visit_of_calm parent hcalm
      rw [hvisit] at here
      cases here
      obtain ⟨hstore, ⟨hoptions', hclasses'⟩, hidle⟩ := ih (hoptions ▸ hnext)
      exact ⟨hstore, ⟨hoptions'.trans hoptions, hclasses'.trans hclasses⟩, hidle⟩

/-- A task where there is nothing to do can be done. -/
theorem Idle.not_stops {a b : Store × Converter} {task : Task} {left : List Task} {fault : Fault}
    (h : Idle a.1 a.2.options (task :: left)) : ¬ Stops visit a task fault b := by
  obtain ⟨t, ids, hslot, hspans, hlength, hcalm⟩ := h task List.mem_cons_self
  obtain ⟨-, below, rfl, -⟩ := hspans.of_singleton
  rintro (⟨hdepth, -⟩ | hvisit | ⟨hnone, -⟩)
  · rw [hdepth] at hlength
    cases hlength
  · obtain ⟨x', hvisit', -⟩ := visit_of_calm task.parent (hcalm t List.mem_cons_self)
    rw [hslot, hvisit'] at hvisit
    cases hvisit
  · rw [hslot] at hnone
    cases hnone

/-- A conversion in which there is nothing to do. -/
theorem Conversion.transform_of_calm {y : Converter} (hspans : Spans Cell.children s [some t] ids)
    (hn : ids.Nodup) (hcalm : ∀ u ∈ ids, s.Calm y.options u) :
    ∃ y', (transform (some t)).run.run (s, y) = (.ok [], (s, y')) := by
  have hidle : Idle s y.options [⟨some t, none, depthBound s⟩] := by
    intro task htask
    rw [List.mem_singleton] at htask
    subst htask
    refine ⟨t, ids, rfl, hspans, ?_, hcalm⟩
    have := hspans.length_le_size hn
    show ids.length ≤ 4 * s.size + 4
    omega
  rw [transform_run]
  rcases run_does visit (depthBound s) (some t) (s, { y with classes := [] }) with
    ⟨visited, ⟨s', y'⟩, hrun, hsteps⟩ | ⟨stop, visited, a, task, left, b, hrun, hsteps, hstops⟩
  · obtain ⟨hstore, ⟨-, hclasses⟩, -⟩ := Idle.run hsteps hidle
    rw [hrun]
    cases hstore
    have hclasses : y'.classes = [] := hclasses
    exact ⟨y', by rw [← hclasses]⟩
  · obtain ⟨-, -, hleft⟩ := Idle.run hsteps hidle
    exact absurd hstops hleft.not_stops

/-- A second conversion, with the same options, makes no class and changes no token. -/
theorem Conversion.transform_idempotent {x x' y : Converter} {made : List String}
    (hspans : Spans Cell.children s [root] ids) (hn : ids.Nodup)
    (h : (transform root).run.run (s, x) = (.ok made, (s', x'))) (hy : y.options = x.options) :
    ∃ y', (transform root).run.run (s', y) = (.ok [], (s', y')) := by
  rw [transform_run] at h
  rcases run_does visit (depthBound s) root (s, { x with classes := [] }) with
    ⟨visited, ⟨s₁, x₁⟩, hrun, hsteps⟩ | ⟨stop, visited, a, task, left, b, hrun, hsteps, hstops⟩
  case inr =>
    rw [hrun] at h
    cases h
  rw [hrun] at h
  cases h
  obtain ⟨ids', classes, hstage, hsettled, -⟩ :=
    Stage.run (fun s visited todo _ => Settled s x.options visited todo)
      (fun hstage hsettled ha => hsettled.step hstage ha) hsteps rfl (.start hspans hn)
      ⟨by simp, by simp⟩
  -- no task is left, so the tokens visited are those of the tree
  obtain ⟨hwhole, hrest, hnodup⟩ := hstage
  cases hrest
  rw [List.nil_append, List.append_nil] at hwhole hnodup
  rw [List.nil_append] at hsettled
  cases root with
  | none => cases hsteps
  | some r =>
      refine transform_of_calm hwhole hnodup fun u hu => ⟨fun hmem => ?_, ?_⟩
      · rcases hsettled.linked u hu none hmem with ⟨v, -, hv⟩ | hleft
        · cases hv
        · cases hleft
      · rw [hy]
        exact hsettled.quiet u hu

theorem Conversion.transform_idempotent_pointFile :
    ∃ ids, Spans Cell.children pointFile [some 14] ids ∧ ids.Nodup ∧
      ∃ s' x', (transform (some 14)).run.run (pointFile, .start ⟨true, true⟩) =
          (.ok ["Point"], (s', x')) ∧
        ∃ y', (transform (some 14)).run.run (s', .start ⟨true, true⟩) = (.ok [], (s', y')) := by
  obtain ⟨all, hlinks, hn⟩ := pointFile_spans
  obtain ⟨ids, hspans, hsub⟩ := hlinks.restrict Cell.children_sublist_links
  exact ⟨ids, hspans, hn.sublist hsub, _, _, rfl,
    transform_idempotent (x := .start ⟨true, true⟩) hspans (hn.sublist hsub) rfl rfl⟩

end ClassLift
