import ClassLift.Proofs.Class.Failure
import ClassLift.Proofs.Class.Success
import ClassLift.Proofs.Conversion.Lineage

set_option autoImplicit false

/-! # Conversions that stop

In an unshared tree without gaps, the visit of a container succeeds, or it stops before it has
changed anything, and then the container has something to blame (`visit_container`). Visits keep
the tree free of gaps (`Grown.step`), and the scan within its bound (`Reach.step`). So a conversion
comes to its end, or to a container that is to blame, and all containers before it were processed
completely (`transform_confined`).
-/

namespace ClassLift

open List Conversion Scan

variable {s₀ s s' : Store} {options : Options} {root block t u : TokenId} {parent : Slot}
  {old all ids visited below below' rest : List TokenId} {todo : List Task} {depth : Nat}
  {classes : List (String × TokenId)} {kept : TokenId → Prop}

/-! ## One container -/

/-- A container without gaps in which all comments can be copied that a visit may copy. What is
kept, the comments among it, is apart from the container. -/
structure Sound (s : Store) (block : TokenId) (ids : List TokenId) (kept : TokenId → Prop) :
    Prop where
  container : Container s block ids
  present : ∀ u ∈ ids, none ∉ (s.cell u).children
  copyable : ∀ u, s.IsCommented ids u → s.Copyable kept u
  kept : ∀ u, kept u → u < s.size ∧ u ∉ block :: ids

namespace Sound

theorem closed (h : Sound s block ids kept) : s.Closed (· ∈ ids) :=
  h.container.found.closed h.present

theorem stands (h : Sound s block ids kept) :
    ∀ st ∈ (s.cell block).children, Stands (· ∈ ids) st := by
  intro st hst
  cases st with
  | none => exact absurd hst h.container.present
  | some u => exact ⟨u, rfl, h.container.found.root_mem hst⟩

/-- The comments that go before a class can be copied. -/
theorem canCopy (h : Sound s block ids kept) {p : Candidate × Slot}
    (hp : Made.Emerged s options block p) : p.1.CanCopy s kept := by
  obtain ⟨d, d', he, hfinish, -⟩ := hp
  rw [← hfinish]
  exact he.canCopy h.closed h.stands fun u hu =>
    ⟨h.container.found.lt_size u hu.1, h.copyable u hu⟩

/-- All candidates that were detected can be committed. -/
theorem commits {candidates : List Candidate} (h : Sound s block ids kept)
    (hcandidates : Candidates s options (some block) (s.cell block).children candidates) :
    ∃ waiting : List (Candidate × Slot),
      waiting.map Prod.fst = candidates.filter Candidate.isTransformable ∧
      Waiting s block waiting ∧ (∀ p ∈ waiting, p.1.isTransformable = true) ∧
      ∀ x, ∃ s' x', ((waiting.map Prod.fst).forM commit).run.run (s, x) = (.ok (), (s', x')) := by
  have hc := h.container
  obtain ⟨waiting, hfst, hwaiting, hemerged⟩ := hcandidates.waiting hc
  have htransformable : ∀ p ∈ waiting, p.1.isTransformable = true := by
    intro p hp
    have hmem : p.1 ∈ candidates.filter Candidate.isTransformable :=
      hfst ▸ List.mem_map_of_mem hp
    exact (List.mem_filter.mp hmem).2
  refine ⟨waiting, hfst, hwaiting, htransformable, fun x =>
    (Progress.start hc).succeeds hc hwaiting htransformable (fun p hp => h.canCopy (hemerged p hp))
      h.kept⟩

end Sound

/-- The visit of a container without gaps succeeds, or changes nothing. -/
theorem Conversion.visit_container (h : Sound s block ids kept) (parent : Slot) (x : Converter) :
    (∃ s' x', (visit (some block) parent).run.run (s, x) = (.ok (), (s', x'))) ∨
      ∃ fault x', (visit (some block) parent).run.run (s, x) = (.error fault, (s, x')) ∧
        x.SameClasses x' ∧ s.Blame (some block) fault := by
  rw [visit_of_container h.container.isContainer]
  rcases detect_gives s x.options (some block) with
    ⟨candidates, gives, hcandidates⟩ | ⟨fault, gives, hfault⟩
  · left
    rw [gives []]
    obtain ⟨waiting, hfst, -, -, hcommits⟩ := h.commits hcandidates
    show ∃ s' x', (candidates.forM commit).run.run (s, _) = (.ok (), (s', x'))
    rw [commits_filter, ← hfst]
    exact hcommits _
  · right
    rw [gives []]
    exact ⟨fault, _, rfl, Converter.sameClasses_reports _ _, hfault.blame h.closed h.stands⟩

/-! ## What the visits leave of the tree -/

theorem Kind.not_commented_of_made {kind : Kind} (h : kind ∈ Kind.made) : kind ∉ Kind.commented := by
  revert kind
  decide

/-- The tokens `ids` are those of the tree, after some visits of a tree with the tokens `old`, and
none of them has an empty slot. -/
structure Grown (s₀ : Store) (old : List TokenId) (s : Store) (ids : List TokenId) : Prop
    extends Lineage s₀ old s ids where
  present : ∀ u ∈ ids, none ∉ (s.cell u).children

namespace Grown

theorem start {roots : List Slot} (hold : Spans Cell.children s₀ roots old)
    (hpresent : ∀ u ∈ old, none ∉ (s₀.cell u).children) : Grown s₀ old s₀ old :=
  ⟨.start hold, hpresent⟩

/-- A visit leaves no gap. -/
theorem step (h : Grown s₀ old s (visited ++ t :: (below ++ rest)))
    (hold : Spans Cell.children s₀ [some root] old)
    (hstage : Stage s (some root) visited (⟨some t, parent, depth + 1⟩ :: todo) (t :: (below ++ rest)))
    (ha : Advance options s s' t below below' classes) :
    Grown s₀ old s' (visited ++ [t] ++ (below' ++ rest)) := by
  refine ⟨h.toLineage.step hold hstage ha, fun u hu hnone => ?_⟩
  rcases ha.mem_or_novel hu with hu | ⟨kind, hkind⟩
  · rcases ha.frame.kept u (hstage.whole.lt_size u hu) none hnone with hbefore | ⟨w, -, hw, -⟩
    · exact h.present u hu hbefore
    · cases hw
  · refine hkind.present (fun f ⟨_, hslot, hunder⟩ => h.present f ?_) hnone
    have hf := ha.found.mem_of_under hslot hunder
    simp [hf]

/-- The comments of the tokens that a visit may copy are as they were at the start. -/
theorem copyable (h : Grown s₀ old s ids) (hall : Spans Cell.links s₀ [some root] all)
    (hn : all.Nodup) (hpresent : ∀ u ∈ all, none ∉ (s₀.cell u).links)
    (hold : Spans Cell.children s₀ [some root] old) {now : List TokenId}
    (hnow : ∀ u ∈ now, u ∈ ids) (hu : s.IsCommented now u) :
    s.Copyable (fun u => u ∈ all ∧ u ∉ old) u := by
  have hmem := h.mem_old (hnow u hu.1) fun hmade => Kind.not_commented_of_made hmade hu.2
  exact (Store.copyable_of_spans hall hn hpresent hold hmem).frame h.frame (hold.lt_size u hmem)
    fun v hv hedit => hv.2 hedit.1

/-- The next container to be visited is sound. -/
theorem sound (h : Grown s₀ old s (visited ++ t :: (below ++ rest))) (hlt : t < s.size)
    (hbelow : Spans Cell.children s (s.cell t).children below) (hnbelow : (t :: below).Nodup)
    (hall : Spans Cell.links s₀ [some root] all) (hn : all.Nodup)
    (hpresent : ∀ u ∈ all, none ∉ (s₀.cell u).links)
    (hold : Spans Cell.children s₀ [some root] old) (hc : s.isContainer (some t) = true) :
    Sound s t below (fun u => u ∈ all ∧ u ∉ old) := by
  have hmem : ∀ u ∈ t :: below, u ∈ visited ++ t :: (below ++ rest) :=
    fun _ => mem_found_of_mem_visit
  have hmem' : ∀ u ∈ below, u ∈ visited ++ t :: (below ++ rest) := fun u hu =>
    hmem u (List.mem_cons_of_mem t hu)
  refine ⟨⟨hc, hlt, hbelow, hnbelow, h.present t (hmem t List.mem_cons_self)⟩,
    fun u hu => h.present u (hmem' u hu), fun u hu => h.copyable hall hn hpresent hold hmem' hu,
    fun u hu => ?_⟩
  have hlt₀ := hall.lt_size u hu.1
  refine ⟨Nat.lt_of_lt_of_le hlt₀ h.frame.size_le, fun hu' => ?_⟩
  exact (h.origin u (hmem u hu')).elim hu.2 (Nat.not_le_of_lt hlt₀)

end Grown

/-- A container in an unshared tree without gaps is sound. -/
theorem Spans.sound (hall : Spans Cell.links s [some block] all) (hn : all.Nodup)
    (hpresent : ∀ u ∈ all, none ∉ (s.cell u).links) (hb : s.isContainer (some block) = true) :
    ∃ ids, Sound s block ids fun u => u ∈ all ∧ u ∉ block :: ids := by
  obtain ⟨old, hold, hnold, hwhole⟩ := hall.without_comments hn hpresent
  obtain ⟨hlt, ids, rfl, hfound⟩ := hold.of_singleton
  have hgrown : Grown s (block :: ids) s ([] ++ block :: (ids ++ [])) := by
    rw [List.nil_append, List.append_nil]
    exact .start hold hwhole
  exact ⟨ids, hgrown.sound hlt hfound hnold hall hn hpresent hold hb⟩

/-! ## How deep the scan gets -/

/-- Every task has a token and is within reach: below its token, each of the old ones may have
three new ones between itself and the next. -/
def Reach (s₀ s : Store) (todo : List Task) : Prop :=
  ∀ task ∈ todo, ∃ t ids, task.slot = some t ∧ Spans Cell.children s [some t] ids ∧
    4 * ids.countP (· < s₀.size) + s₀.rankIn s t < task.depth

namespace Reach

theorem room (h : Reach s₀ s todo) : Room s₀ s todo := by
  intro task htask
  obtain ⟨t, ids, hslot, hids, hneed⟩ := h task htask
  refine ⟨Nat.lt_of_le_of_lt (Nat.zero_le _) hneed, fun t' hslot' => ?_⟩
  rw [hslot] at hslot'
  cases hslot'
  exact ⟨ids, hids, hneed⟩

theorem of_room (h : Room s₀ s todo) (hpresent : ∀ task ∈ todo, task.slot ≠ none) :
    Reach s₀ s todo := by
  intro task htask
  obtain ⟨t, hslot⟩ := Option.ne_none_iff_exists'.mp (hpresent task htask)
  obtain ⟨ids, hids, hneed⟩ := (h task htask).2 t hslot
  exact ⟨t, ids, hslot, hids, hneed⟩

theorem start (hold : Spans Cell.children s₀ [some root] old) (hn : old.Nodup) :
    Reach s₀ s₀ [⟨some root, none, depthBound s₀⟩] :=
  of_room (.start hold hn) (by simp)

theorem step (h : Reach s₀ s (⟨some t, parent, depth + 1⟩ :: todo))
    (hgrown : Grown s₀ old s (visited ++ t :: (below ++ rest)))
    (hgrown' : Grown s₀ old s' (visited ++ [t] ++ (below' ++ rest)))
    (hstage : Stage s (some root) visited (⟨some t, parent, depth + 1⟩ :: todo) (t :: (below ++ rest)))
    (ha : Advance options s s' t below below' classes) :
    Reach s₀ s' (tasks depth (some t) (s'.cell t).children ++ todo) := by
  refine of_room (h.room.step hgrown.toLineage hstage ha) fun task htask => ?_
  rcases List.mem_append.mp htask with htask | htask
  · obtain ⟨slot, hslot, rfl⟩ := List.mem_map.mp htask
    rintro rfl
    exact hgrown'.present t (by simp) hslot
  · obtain ⟨t', -, hslot, -⟩ := h task (List.mem_cons_of_mem _ htask)
    rw [hslot]
    exact Option.some_ne_none t'

end Reach

/-! ## The whole conversion -/

/-- After some visits of an unshared tree without gaps, the tree is still one, and all that is left
to do is within reach. -/
theorem Conversion.stage_of_steps (hold : Spans Cell.children s [some root] old) (hn : old.Nodup)
    (hpresent : ∀ u ∈ old, none ∉ (s.cell u).children) {x : Converter} {b : Store × Converter}
    {left : List Task}
    (hsteps : Steps visit (s, { x with classes := [] }) [⟨some root, none, depthBound s⟩] visited b left) :
    ∃ ids classes, Stage b.1 (some root) visited left ids ∧ Grown s old b.1 (visited ++ ids) ∧
      Reach s b.1 left ∧ Store.Processed x.options s visited b.1 classes ∧
      b.2.classes = classes.map Prod.fst ∧ b.2.options = x.options := by
  obtain ⟨ids, classes, hstage, ⟨hgrown, hreach⟩, hprocessed, hclasses, hoptions⟩ :=
    Stage.run (fun s' visited todo ids => Grown s old s' (visited ++ ids) ∧ Reach s s' todo)
      (fun hstage hinv ha =>
        have hgrown := hinv.1.step hold hstage ha
        ⟨hgrown, hinv.2.step hinv.1 hgrown hstage ha⟩)
      hsteps rfl (.start hold hn) ⟨.start hold hpresent, .start hold hn⟩
  exact ⟨ids, classes, hstage, hgrown, hreach, hprocessed, hclasses, hoptions⟩

/-- What is to be visited next, in an unshared tree without gaps, is done, or it is a container
that is to blame and stays as it is. -/
theorem Scan.Stops.blame {a b : Store × Converter} {task : Task} {left : List Task} {fault : Fault}
    (h : Stops Conversion.visit a task fault b) (hstage : Stage a.1 (some root) visited (task :: left) ids)
    (hgrown : Grown s₀ old a.1 (visited ++ ids)) (hreach : Reach s₀ a.1 (task :: left))
    (hall : Spans Cell.links s₀ [some root] all) (hn : all.Nodup)
    (hpresent : ∀ u ∈ all, none ∉ (s₀.cell u).links)
    (hold : Spans Cell.children s₀ [some root] old) :
    ∃ block, task.slot = some block ∧ a.1.isContainer (some block) = true ∧
      a.1.Blame (some block) fault ∧ b.1 = a.1 ∧ a.2.SameClasses b.2 ∧
      (Conversion.visit (some block) task.parent).run.run a = (.error fault, b) := by
  obtain ⟨t, found, hslot, -, hneed⟩ := hreach task List.mem_cons_self
  -- the depth is enough and the slot holds a token, so it is the visit that fails
  rcases h with ⟨hdepth, -⟩ | hvisit | ⟨hnone, -⟩
  · rw [hdepth] at hneed
    exact absurd hneed (Nat.not_lt_zero _)
  · obtain ⟨slot, parent, depth⟩ := task
    cases hslot
    obtain ⟨s, x⟩ := a
    cases hc : s.isContainer (some t) with
    | false =>
        rw [visit_of_not_container hc] at hvisit
        cases hvisit
    | true =>
        obtain ⟨below, rest, rfl, hlt, hbelow, -, hnbelow⟩ := hstage.first
        have hsound := hgrown.sound hlt hbelow hnbelow hall hn hpresent hold hc
        rcases visit_container hsound parent x with
          ⟨s', x', hrun⟩ | ⟨fault', x', hrun, hsame, hblame⟩
        · rw [hrun] at hvisit
          cases hvisit
        · rw [hrun] at hvisit
          cases hvisit
          exact ⟨t, rfl, hc, hblame, rfl, hsame, hrun⟩
  · rw [hslot] at hnone
    cases hnone

/-- A conversion of an unshared tree without gaps ends with what some visits made of the tree, whether
it returns or stops. -/
theorem Conversion.steps_of_transform (hspans : Spans Cell.links s [some root] all) (hn : all.Nodup)
    (hpresent : ∀ u ∈ all, none ∉ (s.cell u).links) {x x' : Converter}
    {result : Except Fault (List String)}
    (h : (transform (some root)).run.run (s, x) = (result, (s', x'))) :
    ∃ visited y left,
      Steps visit (s, { x with classes := [] }) [⟨some root, none, depthBound s⟩] visited (s', y)
        left := by
  rw [transform_run] at h
  rcases run_does visit (depthBound s) (some root) (s, { x with classes := [] }) with
    ⟨visited, ⟨s₁, y⟩, hscan, hsteps⟩ | ⟨stop, visited, ⟨s₁, y⟩, task, left, ⟨s₂, y'⟩, hscan, hsteps, hstops⟩
  · rw [hscan] at h
    cases h
    exact ⟨visited, _, [], hsteps⟩
  · -- a visit that stops has changed nothing
    obtain ⟨old, hold, hnold, hwhole⟩ := hspans.without_comments hn hpresent
    obtain ⟨ids, _, hstage, hgrown, hreach, -⟩ := stage_of_steps hold hnold hwhole hsteps
    obtain ⟨block, -, -, -, hsame, -⟩ := hstops.blame hstage hgrown hreach hspans hn hpresent hold
    cases hsame
    rw [hscan] at h
    cases h
    exact ⟨visited, y, task :: left, hsteps⟩

/-- In an unshared tree without gaps, the conversion returns, or it stops at a container with
something to blame. Then this container is as it was before its visit, all tokens before it in
preorder were visited, and the classes are those that these visits made. -/
theorem Conversion.transform_confined (hspans : Spans Cell.links s [some root] all)
    (hn : all.Nodup) (hpresent : ∀ u ∈ all, none ∉ (s.cell u).links) (x : Converter) :
    ∃ s' x' y visited left classes,
      Steps visit (s, { x with classes := [] }) [⟨some root, none, depthBound s⟩] visited (s', y) left ∧
      Store.Processed x.options s visited s' classes ∧ x'.classes = classes.map Prod.fst ∧
      (((transform (some root)).run.run (s, x) = (.ok (classes.map Prod.fst), (s', x')) ∧
          Spans Cell.children s' [some root] visited) ∨
        ∃ fault block parent rest,
          (transform (some root)).run.run (s, x) = (.error fault, (s', x')) ∧
          (visit (some block) parent).run.run (s', y) = (.error fault, (s', x')) ∧
          Spans Cell.children s' [some root] (visited ++ block :: rest) ∧
          s'.isContainer (some block) = true ∧ s'.Blame (some block) fault) := by
  obtain ⟨old, hold, hsub⟩ := hspans.restrict Cell.children_sublist_links
  have hnold := hn.sublist hsub
  have hrun := fun {b : Store × Converter} {more : List TokenId} {left : List Task}
      (hsteps : Steps visit (s, { x with classes := [] }) [⟨some root, none, depthBound s⟩] more b left) =>
    stage_of_steps hold hnold (fun u hu hnone =>
      hpresent u (hsub.subset hu) ((Cell.children_sublist_links _).subset hnone)) hsteps
  rw [transform_run]
  rcases run_does visit (depthBound s) (some root) (s, { x with classes := [] }) with
    ⟨visited, ⟨s', x'⟩, hscan, hsteps⟩ | ⟨stop, visited, ⟨s', y⟩, task, left, ⟨s'', x'⟩, hscan, hsteps, hstops⟩
  · obtain ⟨ids, classes, ⟨hwhole, hrest, -⟩, -, -, hprocessed, hclasses, -⟩ := hrun hsteps
    have hclasses : x'.classes = classes.map Prod.fst := hclasses
    -- no task is left
    cases hrest
    rw [List.append_nil] at hwhole
    refine ⟨s', x', x', visited, [], classes, hsteps, hprocessed, hclasses, Or.inl ⟨?_, hwhole⟩⟩
    rw [hscan, ← hclasses]
  · obtain ⟨ids, classes, hstage, hgrown, hreach, hprocessed, hclasses, -⟩ := hrun hsteps
    obtain ⟨block, hslot, hcontainer, hblame, hsame, ⟨-, hsameClasses⟩, hvisit⟩ :=
      hstops.blame hstage hgrown hreach hspans hn hpresent hold
    cases hsame
    refine ⟨s', x', y, visited, task :: left, classes, hsteps, hprocessed, ?_, Or.inr ?_⟩
    · exact hsameClasses.trans hclasses
    · obtain ⟨slot, parent, depth⟩ := task
      cases hslot
      obtain ⟨below, rest, rfl, -⟩ := hstage.first
      refine ⟨stop.fault, block, parent, below ++ rest, ?_, hvisit, hstage.whole, hcontainer, hblame⟩
      rw [hscan]

theorem Conversion.transform_confined_pointFile :
    ∃ all, Spans Cell.links pointFile [some 14] all ∧ all.Nodup ∧
      (∀ u ∈ all, none ∉ (pointFile.cell u).links) ∧
      ∃ s' x' y visited left classes,
        Steps visit (pointFile, .start ⟨true, true⟩) [⟨some 14, none, depthBound pointFile⟩] visited
            (s', y) left ∧
          Store.Processed ⟨true, true⟩ pointFile visited s' classes ∧
          x'.classes = classes.map Prod.fst ∧
          (((transform (some 14)).run.run (pointFile, .start ⟨true, true⟩) =
                (.ok (classes.map Prod.fst), (s', x')) ∧
              Spans Cell.children s' [some 14] visited) ∨
            ∃ fault block parent rest,
              (transform (some 14)).run.run (pointFile, .start ⟨true, true⟩) =
                (.error fault, (s', x')) ∧
              (visit (some block) parent).run.run (s', y) = (.error fault, (s', x')) ∧
              Spans Cell.children s' [some 14] (visited ++ block :: rest) ∧
              s'.isContainer (some block) = true ∧ s'.Blame (some block) fault) := by
  obtain ⟨all, hspans, hn⟩ := pointFile_spans
  have hpresent : ∀ u < 15, none ∉ (pointFile.cell u).links := by decide
  exact ⟨all, hspans, hn, fun u hu => hpresent u (hspans.lt_size u hu),
    transform_confined hspans hn (fun u hu => hpresent u (hspans.lt_size u hu)) (.start ⟨true, true⟩)⟩

/-- The source file with `Point.prototype = new …` of a call without children instead. -/
def Conversion.brokenFile : Store :=
  ((pointFile.set 9 (.fresh Kind.call "" 2 23 [])).set 12
    (.fresh Kind.instantiate "new" 2 19 [some 9])).set 13 (.fresh Kind.assign "=" 2 17 [some 6, some 12])

example : ((transform (some 14)).run.run (brokenFile, .start ⟨true, true⟩)).1 = .error .brokenCall :=
  rfl

end ClassLift
