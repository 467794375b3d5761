import ClassLift.Proofs.Class.Lockstep
import ClassLift.Proofs.Conversion.Confinement

set_option autoImplicit false

/-! # Conversions of alike trees

A conversion looks at kinds, values and children alone. Where two trees are alike, the two
conversions go on in lockstep: a container and its partner are both converted, and alike, or the
visits of both stop with faults of one kind (`Sound.visit_lockstep`); and so the conversions come
to the end together, or stop at the same place (`transform_alike`).
-/

namespace ClassLift

open List Conversion Scan

variable {s s' t t' u u' : Store} {R R' : TokenId → TokenId → Prop} {x x' y y' : Converter}
  {block block' : TokenId} {ids ids' : List TokenId} {c c' : Candidate} {declaring : Slot}
  {made made' : List Made} {waiting waiting' : List (Candidate × Slot)}

/-! ## One commit -/

/-- In a candidate that is ready, the function and the super class are apart. -/
theorem Candidate.Ready.apart (hready : c.Ready s block declaring) (hc : Container s block ids)
    (h : Mirror R s s') (hsuper : Partners R c.superClass c'.superClass) :
    s.Apart c (min s.size s'.size) := by
  obtain ⟨decl, gone, stay, own, taken, hf⟩ :=
    hready.footprint hc.found hc.nodup hc.present hc.lt
  obtain ⟨hndecl, hngone, hdisjoint⟩ := List.nodup_append.mp hf.nodup_first
  obtain ⟨base, bodies, htaken, hbase, -⟩ := hf.takenFound.of_append
  have hsub : base <+~ gone :=
    (htaken ▸ (List.sublist_append_left base bodies).subperm).trans hf.takenWithin
  have hnbase := nodup_of_subperm hsub hngone
  have hspans : Spans Cell.children s [c.superClass] base := by
    cases hclass : c.superClass with
    | none =>
        rw [hclass] at hbase
        cases hbase
        exact .absent .nil
    | some b =>
        rw [hclass] at hbase
        exact hbase
  refine ⟨own, base, hf.ownFound, nodup_of_subperm (hf.place hready).1 hndecl, hspans,
    h.length_le hspans hnbase (.cons hsuper .nil), fun v hv hmem => ?_⟩
  exact hdisjoint v ((hf.place hready).1.subset hmem) v (hsub.subset hv) rfl

/-! ## All commits of a container -/

/-- The candidates of a container are committed, and succeed: some were, and the others wait. -/
structure Committing (s : Store) (block : TokenId) (ids : List TokenId) (made : List Made)
    (waiting : List (Candidate × Slot)) (a b : Store × Converter) : Prop where
  container : Container s block ids
  progress : Progress s a.1 block ids made
  waits : Waiting s block (made.map Made.entry ++ waiting)
  transformable : ∀ p ∈ waiting, p.1.isTransformable = true
  run : ((waiting.map Prod.fst).forM commit).run.run a = (.ok (), b)

/-- The candidates of two containers are committed in lockstep. -/
theorem Committing.lockstep {b b' : Store × Converter}
    (hl : Committing s block ids made waiting (t, x) b)
    (hr : Committing s' block' ids' made' waiting' (t', x') b') (h : Mirror R t t')
    (htwins : Forall₂ (Candidate.Twins R) (waiting.map Prod.fst) (waiting'.map Prod.fst)) :
    ∃ R', (∀ v w, R v w → R' v w) ∧ Mirror R' b.1 b'.1 := by
  -- the candidates that were committed grow on both sides, and so does the relation of partners
  induction waiting generalizing t t' x x' made made' waiting' R with
  | nil =>
      cases waiting' with
      | cons => cases htwins
      | nil =>
          cases hl.run
          cases hr.run
          exact ⟨R, fun _ _ => id, h⟩
  | cons p waiting ih =>
      cases waiting' with
      | nil => cases htwins
      | cons p' waiting' =>
          rw [List.map_cons, List.map_cons] at htwins
          cases htwins with
          | cons hp hrest =>
              obtain ⟨d, t₁, x₁, hready, -, hcommit, hprogress, hwaiting, hrun⟩ :=
                hl.progress.run_first hl.container hl.waits
                  (hl.transformable p List.mem_cons_self) hl.run
              obtain ⟨d', t₁', x₁', hready', -, hcommit', hprogress', hwaiting', hrun'⟩ :=
                hr.progress.run_first hr.container hr.waits
                  (hr.transformable p' List.mem_cons_self) hr.run
              obtain ⟨now, hcontainer, -⟩ := hl.progress.container hl.container
              obtain ⟨R₁, hR₁, h₁, -⟩ := hp.commit h hready.builder hready'.builder
                (hready.apart hcontainer h hp.superClass) _ _ t₁ t₁' hcommit hcommit'
              obtain ⟨R₂, hR₂, h₂⟩ := ih
                ⟨hl.container, hprogress, hwaiting,
                  fun q hq => hl.transformable q (List.mem_cons_of_mem _ hq), hrun⟩
                ⟨hr.container, hprogress', hwaiting',
                  fun q hq => hr.transformable q (List.mem_cons_of_mem _ hq), hrun'⟩
                h₁ (hrest.imp fun _ _ hc => hc.mono hR₁.old)
              exact ⟨R₂, fun v w hvw => hR₂ v w (hR₁.old v w hvw), h₂⟩

/-! ## One container -/

/-- The converters have the same options, made classes of the same names, and counted the same
warnings. -/
structure Converter.Alike (x x' : Converter) : Prop where
  options : x.options = x'.options
  classes : x.classes = x'.classes
  counts : x.reporter.counts = x'.reporter.counts

theorem Converter.Alike.report {n n' : Notice} (h : x.Alike x') (hn : n.Like n') :
    (x.report n).Alike (x'.report n') := by
  obtain ⟨hoptions, hclasses⟩ := sameClasses_report x n
  obtain ⟨hoptions', hclasses'⟩ := sameClasses_report x' n'
  refine ⟨?_, ?_, ?_⟩
  · rw [hoptions, hoptions', h.options]
  · rw [hclasses, hclasses', h.classes]
  · rw [counts_report, counts_report, h.counts, hn.warning]

theorem Converter.Alike.reports {notices notices' : List Notice}
    (hn : Forall₂ Notice.Like notices notices') (h : x.Alike x') :
    (notices.foldl Converter.report x).Alike (notices'.foldl Converter.report x') := by
  induction hn generalizing x x' with
  | nil => exact h
  | cons hfirst _ ih => exact ih (h.report hfirst)

/-- What two visits come to: both succeed, and the stores are a mirror again, or both stop with
faults of one kind, and change nothing. -/
inductive Visited (R : TokenId → TokenId → Prop) (s s' : Store) :
    Except Fault Unit × (Store × Converter) → Except Fault Unit × (Store × Converter) → Prop where
  | ok {t t' : Store} {y y' : Converter} {R' : TokenId → TokenId → Prop}
      (grow : ∀ u v, R u v → R' u v) (mirror : Mirror R' t t') (alike : y.Alike y') :
      Visited R s s' (.ok (), (t, y)) (.ok (), (t', y'))
  | error {fault fault' : Fault} {y y' : Converter} (like : fault.Like fault') (alike : y.Alike y') :
      Visited R s s' (.error fault, (s, y)) (.error fault', (s', y'))

/-- The same is detected in two containers that are partners. -/
theorem Sound.detect_lockstep {kept : TokenId → Prop} (hl : Sound s block ids kept)
    (h : Mirror R s s') (hR : R block block') (options : Options) :
    Detect.Agree (Forall₂ (Candidate.Twins R)) (detect s options (some block))
      (detect s' options (some block')) := by
  have hc := hl.container
  have hspans := Spans.singleton hc.lt hc.found
  -- within the container, where no path is longer than the store has tokens
  have hown : Mirror (fun v w => R v w ∧ v ∈ block :: ids) s s' :=
    h.restrict fun v hv w hw => hspans.link_mem hv hw
  have hshallow := h.shallow hspans hc.nodup (.cons (.some hR) .nil)
  intro ns ns' hns
  have hdetect : Detect.Agree _ (detect s options (some block)) (detect s' options (some block')) :=
    hown.detect hshallow (.some ⟨hR, List.mem_cons_self⟩)
  obtain ⟨hresult, hnotices⟩ := hdetect ns ns' hns
  refine ⟨hresult.mono fun _ _ hall => hall.imp fun _ _ htwins => ?_, hnotices⟩
  exact htwins.mono fun _ _ => And.left

/-- The candidates that were detected in two containers are committed in lockstep. -/
theorem Sound.commits_lockstep {kept kept' : TokenId → Prop} {candidates candidates' : List Candidate}
    (hl : Sound s block ids kept) (hr : Sound s' block' ids' kept') (h : Mirror R s s')
    (hx : x.Alike x')
    (hc : Candidates s x.options (some block) (s.cell block).children candidates)
    (hc' : Candidates s' x'.options (some block') (s'.cell block').children candidates')
    (htwins : Forall₂ (Candidate.Twins R) candidates candidates') :
    Visited R s s' ((candidates.forM commit).run.run (s, x))
      ((candidates'.forM commit).run.run (s', x')) := by
  obtain ⟨waiting, hfst, hwaiting, htransformable, hcommits⟩ := hl.commits hc
  obtain ⟨waiting', hfst', hwaiting', htransformable', hcommits'⟩ := hr.commits hc'
  obtain ⟨t, y, hrun⟩ := hcommits x
  obtain ⟨t', y', hrun'⟩ := hcommits' x'
  have hfiltered : Forall₂ (Candidate.Twins R) (candidates.filter Candidate.isTransformable)
      (candidates'.filter Candidate.isTransformable) :=
    List.rel_filter (fun _ _ hd => by dsimp only; rw [hd.isTransformable]) htwins
  have hnames : (candidates.filter Candidate.isTransformable).map Candidate.name =
      (candidates'.filter Candidate.isTransformable).map Candidate.name :=
    List.forall₂_eq_eq_eq ▸ List.rel_map (fun _ _ hd => hd.name) hfiltered
  rw [← hfst, ← hfst'] at hfiltered
  obtain ⟨R', hR', hmirror⟩ := Committing.lockstep
    ⟨hl.container, .start hl.container, hwaiting, htransformable, hrun⟩
    ⟨hr.container, .start hr.container, hwaiting', htransformable', hrun'⟩ h hfiltered
  rw [hfst, ← commits_filter] at hrun
  rw [hfst', ← commits_filter] at hrun'
  obtain ⟨hoptions, hclasses⟩ := classes_of_commits hrun
  obtain ⟨hoptions', hclasses'⟩ := classes_of_commits hrun'
  rw [hrun, hrun']
  refine .ok hR' hmirror ⟨?_, ?_, ?_⟩
  · rw [hoptions, hoptions', hx.options]
  · rw [hclasses, hclasses', hx.classes, hnames]
  · rw [reporter_of_commits hrun, reporter_of_commits hrun', hx.counts]

/-- Two containers that are partners are converted in lockstep. -/
theorem Sound.visit_lockstep {kept kept' : TokenId → Prop} (hl : Sound s block ids kept)
    (hr : Sound s' block' ids' kept') (h : Mirror R s s') (hR : R block block') (hx : x.Alike x')
    (parent parent' : Slot) :
    Visited R s s' ((visit (some block) parent).run.run (s, x))
      ((visit (some block') parent').run.run (s', x')) := by
  obtain ⟨hresult, hnotices⟩ := hl.detect_lockstep h hR x.options [] [] .nil
  have hreports := hx.reports hnotices
  rw [visit_of_container hl.container.isContainer, visit_of_container hr.container.isContainer,
    ← hx.options]
  generalize hfound : ((detect s x.options (some block)).run.run []).1 = found at hresult ⊢
  generalize hfound' : ((detect s' x.options (some block')).run.run []).1 = found' at hresult ⊢
  cases hresult with
  | ok htwins =>
      have hoptions := (Converter.sameClasses_reports x
        ((detect s x.options (some block)).run.run []).2).1
      have hoptions' := (Converter.sameClasses_reports x'
        ((detect s' x.options (some block')).run.run []).2).1
      refine hl.commits_lockstep hr h hreports ?_ ?_ htwins
      · rw [hoptions]
        exact (candidates_of_detect hfound).2
      · rw [hoptions', ← hx.options]
        exact (candidates_of_detect hfound').2
  | error like => exact .error like hreports

/-! ## Any number of visits -/

/-- An unshared tree without gaps, with its comments and without. -/
structure Source (s : Store) (root : TokenId) (all old : List TokenId) : Prop where
  links : Spans Cell.links s [some root] all
  nodup : all.Nodup
  present : ∀ u ∈ all, none ∉ (s.cell u).links
  children : Spans Cell.children s [some root] old

/-- The conversion of the tree has come to the store `s`, with some tasks left. -/
def Underway (s₀ : Store) (root : TokenId) (old : List TokenId) (s : Store) (todo : List Task) :
    Prop :=
  ∃ visited ids, Stage s (some root) visited todo ids ∧ Grown s₀ old s (visited ++ ids) ∧
    Reach s₀ s todo

variable {s₀ s₀' : Store} {root root' v v' : TokenId} {all all' old old' more : List TokenId}
  {todo todo' left : List Task} {task : Task} {parent parent' : Slot} {depth depth' : Nat}

theorem Source.of_links (h : Spans Cell.links s [some root] all) (hn : all.Nodup)
    (hpresent : ∀ u ∈ all, none ∉ (s.cell u).links) :
    ∃ old, Source s root all old ∧ old.Nodup ∧ Underway s root old s [⟨some root, none, depthBound s⟩] := by
  obtain ⟨old, hold, hnold, hwhole⟩ := h.without_comments hn hpresent
  exact ⟨old, ⟨h, hn, hpresent, hold⟩, hnold, [], old, .start hold hnold, .start hold hwhole,
    .start hold hnold⟩

namespace Underway

/-- The next task has a token, and the scan may go to it. -/
theorem first (h : Underway s₀ root old s (task :: todo)) :
    ∃ t parent depth, task = ⟨some t, parent, depth + 1⟩ := by
  obtain ⟨-, -, -, -, hreach⟩ := h
  obtain ⟨t, _, hslot, -, hneed⟩ := hreach task List.mem_cons_self
  obtain ⟨slot, parent, depth⟩ := task
  cases hslot
  cases depth with
  | zero => exact absurd hneed (Nat.not_lt_zero _)
  | succ depth => exact ⟨t, parent, depth, rfl⟩

theorem step {b : Store × Converter} (h : Underway s₀ root old s (⟨some v, parent, depth + 1⟩ :: todo))
    (hsource : Source s₀ root all old) (hvisit : (visit (some v) parent).run.run (s, x) = (.ok (), b)) :
    Underway s₀ root old b.1 (tasks depth (some v) (b.1.cell v).children ++ todo) := by
  obtain ⟨visited, ids, hstage, hgrown, hreach⟩ := h
  obtain ⟨below, rest, rfl, hlt, hbelow, -, hn⟩ := hstage.first
  obtain ⟨classes, below', ha, -, -⟩ := visit_advance hlt hbelow hn hvisit
  have hgrown' := hgrown.step hsource.children hstage ha
  exact ⟨visited ++ [v], below' ++ rest, hstage.step ha, hgrown',
    hreach.step hgrown hgrown' hstage ha⟩

theorem sound (h : Underway s₀ root old s (⟨some v, parent, depth⟩ :: todo))
    (hsource : Source s₀ root all old) (hc : s.isContainer (some v) = true) :
    ∃ ids, Sound s v ids fun u => u ∈ all ∧ u ∉ old := by
  obtain ⟨visited, ids, hstage, hgrown, -⟩ := h
  obtain ⟨below, rest, rfl, hlt, hbelow, -, hn⟩ := hstage.first
  exact ⟨below, hgrown.sound hlt hbelow hn hsource.links hsource.nodup hsource.present
    hsource.children hc⟩

/-- The next tokens of two conversions are visited in lockstep. -/
theorem visit_lockstep (hl : Underway s₀ root old s (⟨some v, parent, depth⟩ :: todo))
    (hr : Underway s₀' root' old' s' (⟨some v', parent', depth'⟩ :: todo'))
    (hsource : Source s₀ root all old) (hsource' : Source s₀' root' all' old') (h : Mirror R s s')
    (hR : R v v') (hx : x.Alike x') :
    Visited R s s' ((visit (some v) parent).run.run (s, x))
      ((visit (some v') parent').run.run (s', x')) := by
  have hcontainer : s'.isContainer (some v') = s.isContainer (some v) := by
    rw [Store.isContainer, Store.isContainer, h.hasKind (.some hR), h.hasKind (.some hR)]
  cases hc : s.isContainer (some v) with
  | false =>
      rw [visit_of_not_container hc, visit_of_not_container (hcontainer.trans hc)]
      exact .ok (fun _ _ => id) h hx
  | true =>
      obtain ⟨ids, hsound⟩ := hl.sound hsource hc
      obtain ⟨ids', hsound'⟩ := hr.sound hsource' (hcontainer.trans hc)
      exact hsound.visit_lockstep hsound' h hR hx parent parent'

end Underway

/-- The tasks of two conversions are at partners. -/
def Task.Partners (R : TokenId → TokenId → Prop) (task task' : Task) : Prop :=
  ClassLift.Partners R task.slot task'.slot

/-- What the visits of one conversion come to, those of the other come to as well. -/
theorem Scan.Steps.lockstep {a a' b : Store × Converter} (hsteps : Steps visit a todo more b left)
    (hsource : Source s₀ root all old) (hsource' : Source s₀' root' all' old')
    (hl : Underway s₀ root old a.1 todo) (hr : Underway s₀' root' old' a'.1 todo')
    (h : Mirror R a.1 a'.1) (hx : a.2.Alike a'.2) (htodo : Forall₂ (Task.Partners R) todo todo') :
    ∃ more' b' left' R', Steps visit a' todo' more' b' left' ∧ Underway s₀ root old b.1 left ∧
      Underway s₀' root' old' b'.1 left' ∧ (∀ u v, R u v → R' u v) ∧ Mirror R' b.1 b'.1 ∧
      b.2.Alike b'.2 ∧ Forall₂ (Task.Partners R') left left' := by
  -- the first visit is matched by lockstep, and the new tasks are at partners because the
  -- children of partners are partners in the mirror that the visit leaves
  induction hsteps generalizing a' todo' R with
  | refl a todo => exact ⟨[], a', todo', R, .refl _ _, hl, hr, fun _ _ => id, h, hx, htodo⟩
  | @head a b c v parent depth todo left more here next ih =>
      cases htodo with
      | @cons _ task' _ todo' htask hrest =>
          obtain ⟨v', parent', depth', rfl⟩ := hr.first
          obtain ⟨s, x⟩ := a
          obtain ⟨s', x'⟩ := a'
          cases htask with
          | some hR =>
              have hvisited := hl.visit_lockstep hr hsource hsource' h hR hx
              rw [here] at hvisited
              generalize hrun : (visit (some v') parent').run.run (s', x') = r at hvisited
              cases hvisited with
              | @ok t t' y y' R₁ hgrow hmirror halike =>
                  have hchildren : Forall₂ (Task.Partners R₁)
                      (tasks depth (some v) (t.cell v).children ++ todo)
                      (tasks depth' (some v') (t'.cell v').children ++ todo') := by
                    refine List.rel_append ?_ (hrest.imp fun _ _ hp => hp.mono hgrow)
                    rw [tasks, tasks, List.forall₂_map_left_iff, List.forall₂_map_right_iff]
                    exact hmirror.children (hgrow _ _ hR)
                  obtain ⟨more', b', left', R₂, hsteps', hl', hr', hgrow', hlast⟩ :=
                    ih (hl.step hsource here) (hr.step hsource' hrun) hmirror halike hchildren
                  exact ⟨v' :: more', b', left', R₂, .head hrun hsteps', hl', hr',
                    fun u w huw => hgrow' u w (hgrow u w huw), hlast⟩

/-! ## The whole conversion -/

/-- Of two unshared trees without gaps that are alike, the conversions end alike: both return the
same names, or both stop with faults of one kind. The trees that they leave are alike again, and the
same warnings were counted. -/
theorem Conversion.transform_alike (hl : Spans Cell.links s [some root] all) (hnl : all.Nodup)
    (hpl : ∀ u ∈ all, none ∉ (s.cell u).links) (hr : Spans Cell.links s' [some root'] all')
    (hnr : all'.Nodup) (hpr : ∀ u ∈ all', none ∉ (s'.cell u).links)
    (halike : s.alikeAcross s' (some root) (some root') = true) (hoptions : x.options = x'.options)
    (hcounts : x.reporter.counts = x'.reporter.counts) :
    ∃ result result' t t' y y',
      (transform (some root)).run.run (s, x) = (result, (t, y)) ∧
      (transform (some root')).run.run (s', x') = (result', (t', y')) ∧ Agree Eq result result' ∧
      t.alikeAcross t' (some root) (some root') = true ∧ y.classes = y'.classes ∧
      y.reporter.counts = y'.reporter.counts := by
  obtain ⟨old, hsource, hnold, hunderway⟩ := Source.of_links hl hnl hpl
  obtain ⟨old', hsource', hnold', hunderway'⟩ := Source.of_links hr hnr hpr
  obtain ⟨hmirror, hroot⟩ :=
    mirror_of_alike hsource.children hnold hsource'.children hnold' halike
  have hx : Converter.Alike { x with classes := [] } { x' with classes := [] } :=
    ⟨hoptions, rfl, hcounts⟩
  have htasks : Forall₂ (Task.Partners (SamePlace old old')) [⟨some root, none, depthBound s⟩]
      [⟨some root', none, depthBound s'⟩] := .cons hroot .nil
  have hlockstep := fun {b : Store × Converter} {more : List TokenId} {left : List Task}
      (hsteps : Steps visit (s, { x with classes := [] }) [⟨some root, none, depthBound s⟩] more b left) =>
    Scan.Steps.lockstep hsteps hsource hsource' hunderway
      (show Underway s' root' old' (s', { x' with classes := [] }).1 _ from hunderway') hmirror hx htasks
  rw [transform_run, transform_run]
  rcases run_does visit (depthBound s) (some root) (s, { x with classes := [] }) with
    ⟨visited, ⟨t, y⟩, hscan, hsteps⟩ | ⟨stop, visited, ⟨t, y⟩, task, left, ⟨t₁, y₁⟩, hscan, hsteps, hstops⟩
  · obtain ⟨visited', ⟨t', y'⟩, left', R, hsteps', -, -, hgrow, hmirror', hlast, hleft⟩ :=
      hlockstep hsteps
    -- no task is left here, so none is left there
    cases hleft
    rw [hscan, run_of_steps hsteps']
    exact ⟨_, _, t, t', y, y', rfl, rfl, .ok hlast.classes,
      hmirror'.alikeAcrossTo _ (hroot.mono hgrow), hlast.classes, hlast.counts⟩
  · obtain ⟨visited', ⟨t', y'⟩, left', R, hsteps', hl', hr', hgrow, hmirror', hlast, hleft⟩ :=
      hlockstep hsteps
    -- the visit that stops here is of the partner of the next token there, and that stops, too
    cases hleft with
    | @cons _ task' _ left' htask _ =>
        obtain ⟨v, parent, depth, rfl⟩ := hl'.first
        obtain ⟨v', parent', depth', rfl⟩ := hr'.first
        cases htask with
        | some hR =>
            have hvisited := hl'.visit_lockstep hr' hsource hsource' hmirror' hR hlast
            rw [hstops.run_visit] at hvisited
            generalize hrun : (visit (some v') parent').run.run (t', y') = r at hvisited
            cases hvisited with
            | error like halike =>
                obtain ⟨stop', c, hscan', hstops'⟩ :=
                  run_of_halt hsteps' (.of_stops (.visit hrun))
                rw [hstops'.run_visit] at hrun
                cases hrun
                rw [hscan, hscan']
                exact ⟨_, _, t, t', _, _, rfl, rfl, .error like,
                  hmirror'.alikeAcrossTo _ (hroot.mono hgrow), halike.classes, halike.counts⟩

namespace Conversion

/-- The source file with the method in another line, and a comment before it. -/
def commentedFile : Store :=
  (pointFile.push (.fresh "T_COMMENT" "// length" 8 0 [])).set 13
    { Cell.fresh Kind.assign "=" 9 21 [some 8, some 12] with comments := [some 15] }

theorem commentedFile_spans : ∃ all, Spans Cell.links commentedFile [some 14] all ∧ all.Nodup :=
  Spans.exists_of_preorder commentedFile.size (by decide)

theorem transform_alike_commentedFile :
    ∃ all all', Spans Cell.links pointFile [some 14] all ∧ all.Nodup ∧
      (∀ u ∈ all, none ∉ (pointFile.cell u).links) ∧
      Spans Cell.links commentedFile [some 14] all' ∧ all'.Nodup ∧
      (∀ u ∈ all', none ∉ (commentedFile.cell u).links) ∧
      pointFile.alikeAcross commentedFile (some 14) (some 14) = true ∧
      ∃ t t' y y',
        (transform (some 14)).run.run (pointFile, .start ⟨true, true⟩) = (.ok ["Point"], (t, y)) ∧
        (transform (some 14)).run.run (commentedFile, .start ⟨true, true⟩) =
          (.ok ["Point"], (t', y')) ∧
        t.alikeAcross t' (some 14) (some 14) = true ∧ y.reporter.counts = y'.reporter.counts := by
  obtain ⟨all, hspans, hn⟩ := pointFile_spans
  obtain ⟨all', hspans', hn'⟩ := commentedFile_spans
  have hpresent : ∀ u < 15, none ∉ (pointFile.cell u).links := by decide
  have hpresent' : ∀ u < 16, none ∉ (commentedFile.cell u).links := by decide
  have halike : pointFile.alikeAcross commentedFile (some 14) (some 14) = true := by decide
  have hx : (Converter.start ⟨true, true⟩).options = (Converter.start ⟨true, true⟩).options := rfl
  have hcounts : (Converter.start ⟨true, true⟩).reporter.counts =
      (Converter.start ⟨true, true⟩).reporter.counts := rfl
  obtain ⟨result, result', t, t', y, y', hrun, hrun', -, htrees, -, hcounts⟩ :=
    transform_alike hspans hn (fun u hu => hpresent u (hspans.lt_size u hu)) hspans' hn'
      (fun u hu => hpresent' u (hspans'.lt_size u hu)) halike hx hcounts
  have hresult : result = .ok ["Point"] := (congrArg Prod.fst hrun).symm
  have hresult' : result' = .ok ["Point"] := (congrArg Prod.fst hrun').symm
  rw [hresult] at hrun
  rw [hresult'] at hrun'
  exact ⟨all, all', hspans, hn, fun u hu => hpresent u (hspans.lt_size u hu), hspans', hn',
    fun u hu => hpresent' u (hspans'.lt_size u hu), halike, t, t', y, y', hrun, hrun', htrees, hcounts⟩

end Conversion

end ClassLift
