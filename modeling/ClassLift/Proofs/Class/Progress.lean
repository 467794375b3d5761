import ClassLift.Proofs.Class.Ready
import ClassLift.Proofs.Conversion.Visit

set_option autoImplicit false

/-! # Commits one after the other

The candidates of one container are committed in turn. `Progress` says what the store is like
after some of them, in terms of the store before the first: one commit keeps it
(`Progress.step`), and so the whole conversion of the container does (`Progress.run`).
-/

namespace ClassLift

open List

/-- The later store is the earlier one in which some candidates were committed. -/
structure Progress (s s' : Store) (block : TokenId) (ids : List TokenId) (made : List Made) :
    Prop where
  frame : Frame s s' fun u => ∃ m ∈ made, Candidate.Edits s block m.declaring u
  children : (s'.cell block).children = (s.cell block).children.flatMap (Made.replace made)
  declared : ∀ m ∈ made, m.candidate.Declared s s' m.token
  exported : ∀ m ∈ made, ∀ e, m.declaring = some e → m.candidate.statement ≠ m.declaring →
    (s'.cell e).children = (s.cell e).children.set 0 (some m.token)
  found : ∃ ids', Spans Cell.children s' (s'.cell block).children ids' ∧ ids' <+~ ids ++ s.fresh s'

/-- Two candidates have no statement in common. -/
structure Candidate.Apart (c : Candidate) (declaring : Slot) (c' : Candidate) (declaring' : Slot) :
    Prop where
  declarations : declaring ≠ declaring'
  declaration : declaring ∉ c'.removed
  declaration' : declaring' ∉ c.removed
  removed : ∀ slot ∈ c.removed, slot ∉ c'.removed

variable {s s' s'' : Store} {block : TokenId} {ids : List TokenId} {c : Candidate}
  {declaring slot : Slot} {made : List Made} {t u : TokenId}

/-! ## The container at the start -/

/-- The container and what is found from it are unshared, and every statement is there. -/
structure Container (s : Store) (block : TokenId) (ids : List TokenId) : Prop where
  isContainer : s.isContainer (some block) = true
  lt : block < s.size
  found : Spans Cell.children s (s.cell block).children ids
  nodup : (block :: ids).Nodup
  present : none ∉ (s.cell block).children

namespace Container

theorem nodup_ids (hc : Container s block ids) : ids.Nodup := (List.nodup_cons.mp hc.nodup).2

theorem not_mem (hc : Container s block ids) : block ∉ ids := (List.nodup_cons.mp hc.nodup).1

theorem mem_of_mem_at (hc : Container s block ids) (hs : slot ∈ (s.cell block).children)
    (hu : u ∈ Spans.at_ Cell.children s slot) : u ∈ ids :=
  hc.found.mem_of_mem_at hs hu

/-- The tokens that a commit edits are the container, and tokens found from the declaring
statement. -/
theorem edits_cases (hc : Container s block ids) (hs : declaring ∈ (s.cell block).children)
    (hu : Candidate.Edits s block declaring u) :
    u = block ∨ u ∈ Spans.at_ Cell.children s declaring := by
  rcases hu with rfl | ⟨he, -⟩ | hpart
  · exact Or.inl rfl
  · refine Or.inr ((hc.found.spans_at hs).root_mem ?_)
    rw [he]
    exact List.mem_cons_self
  · exact Or.inr hpart.1

theorem edits_lt (hc : Container s block ids) (hs : declaring ∈ (s.cell block).children)
    (hu : Candidate.Edits s block declaring u) : u < s.size := by
  rcases hc.edits_cases hs hu with rfl | hu
  · exact hc.lt
  · exact hc.found.lt_size u (hc.mem_of_mem_at hs hu)

/-- What is found from another statement is not edited. -/
theorem not_edits (hc : Container s block ids) (hs : declaring ∈ (s.cell block).children)
    (hslot : slot ∈ (s.cell block).children) (hne : slot ≠ declaring)
    (hu : u ∈ Spans.at_ Cell.children s slot) : ¬ Candidate.Edits s block declaring u := by
  intro hedit
  rcases hc.edits_cases hs hedit with rfl | hu'
  · exact hc.not_mem (hc.mem_of_mem_at hslot hu)
  · exact hc.found.at_disjoint hc.nodup_ids hslot hs hne u hu hu'

/-- Functions are not edited. -/
theorem not_edits_function (hc : Container s block ids) {f : TokenId}
    (hf : s.isConvertible (some f) = .ok true) : ¬ Candidate.Edits s block declaring f := by
  rintro (rfl | ⟨he, hkind⟩ | ⟨-, hkind | hkind⟩)
  · rcases Bool.or_eq_true_iff.mp hc.isContainer with hk | hk <;>
      exact Candidate.not_kind_of_isConvertible hf (by decide) (by decide) hk
  · exact Candidate.not_kind_of_isConvertible hf (by decide) (by decide) (he ▸ hkind)
  · exact Candidate.not_kind_of_isConvertible hf (by decide) (by decide) hkind
  · exact Candidate.not_kind_of_isConvertible hf (by decide) (by decide) hkind

end Container

/-! ## One more commit -/

theorem Progress.start (hc : Container s block ids) : Progress s s block ids [] where
  frame := .refl _ _
  children := by
    have hreplace : ∀ slot ∈ (s.cell block).children, Made.replace [] slot = [slot] :=
      fun _ _ => rfl
    rw [List.flatMap_congr hreplace]
    exact (List.flatMap_singleton' _).symm
  declared := by simp
  exported := by simp
  found := ⟨ids, hc.found, by rw [Store.fresh_self, List.append_nil]⟩

theorem Made.replace_of_apart (h : ∀ m ∈ made, m.declaring ≠ slot ∧ slot ∉ m.candidate.removed) :
    Made.replace made slot = [slot] := by
  have hfind : (made.find? fun m => m.declaring = slot) = none := by
    rw [List.find?_eq_none]
    intro m hm
    simpa using (h m hm).1
  have hany : (made.any fun m => slot ∈ m.candidate.removed) = false := by
    rw [List.any_eq_false]
    intro m hm
    simpa using (h m hm).2
  rw [replace, hfind, hany]
  rfl

/-- A statement that another candidate made is none of the next one. -/
theorem Candidate.rewritten_successor (hc : Container s block ids)
    (hready : c.Ready s block declaring) {m : Made} (hnew : s.size ≤ m.token)
    (hapart : m.candidate.Apart m.declaring c declaring) :
    c.rewritten declaring t (m.candidate.successor m.declaring m.token) =
      [m.candidate.successor m.declaring m.token] := by
  have hstanding : ∀ slot ∈ (s.cell block).children, slot ≠ some m.token := by
    rintro slot hslot rfl
    exact absurd (hc.found.lt_size _ (hc.found.root_mem hslot)) (Nat.not_lt_of_le hnew)
  have hne : m.candidate.successor m.declaring m.token ≠ declaring ∧
      m.candidate.successor m.declaring m.token ∉ c.removed := by
    unfold successor
    split
    · exact ⟨(hstanding _ hready.standing).symm, fun hmem =>
        hstanding _ (hready.removedStanding _ hmem) rfl⟩
    · exact ⟨hapart.declarations, hapart.declaration⟩
  rw [rewritten, if_neg hne.1, if_neg hne.2]

/-- After one more commit, what became of a statement is what the commit makes of what had
become of it. -/
theorem Made.replace_append (hc : Container s block ids) (hready : c.Ready s block declaring)
    (hnew : ∀ m ∈ made, s.size ≤ m.token)
    (hapart : ∀ m ∈ made, m.candidate.Apart m.declaring c declaring) :
    (Made.replace made slot).flatMap (c.rewritten declaring t) =
      Made.replace (made ++ [⟨c, declaring, t⟩]) slot := by
  unfold replace
  rw [List.find?_append, List.any_append]
  -- a declaration became its class before, a removed statement is gone; the commit leaves both
  cases hfind : made.find? fun m => m.declaring = slot with
  | some m =>
      have hm := List.mem_of_find?_eq_some hfind
      have hslot : m.declaring = slot := by simpa using List.find?_some hfind
      subst hslot
      rw [Option.some_or, List.flatMap_singleton]
      exact Candidate.rewritten_successor hc hready (hnew m hm) (hapart m hm)
  | none =>
      rw [Option.none_or]
      dsimp only
      cases hany : made.any fun m => slot ∈ m.candidate.removed with
      | true =>
          obtain ⟨m, hm, hremoved⟩ := List.any_eq_true.mp hany
          have hne : declaring ≠ slot := by
            rintro rfl
            exact (hapart m hm).declaration' (by simpa using hremoved)
          simp [hne]
      | false =>
          simp only [Bool.false_eq_true, if_false, List.flatMap_singleton, Bool.false_or,
            Candidate.rewritten]
          by_cases hs : slot = declaring
          · simp [hs]
          · have hs' : declaring ≠ slot := fun he => hs he.symm
            simp [hs, hs']

/-- What a candidate declares in a later store it declares in an earlier one, when its own
statements are as they were. -/
theorem Candidate.Declared.earlier {edited : TokenId → Prop} (h : c.Declared s' s'' t)
    (hframe : Frame s s' edited) (hst : ∀ st, c.statement = some st → st < s.size)
    (hbuilder : s.isConvertible c.builder.function = .ok true)
    (hmethods : ∀ m ∈ c.methods, s.isConvertible m.function = .ok true)
    (hfunction : ∀ f, s.isConvertible (some f) = .ok true → ¬ edited f)
    (hempty : s'.emptyBody c.builder = s.emptyBody c.builder) : c.Declared s s'' t := by
  have hfn := fun (m : Method) (hm : s.isConvertible m.function = .ok true) =>
    function_lt hfunction hm
  obtain ⟨hnew, st, name, extends_, block, builder, others, comments, hstatement, hname, hextends,
    hblock, hown, hnamecell, hextendscell, hblockcell, hbuilt, hothers⟩ := h
  have hlabel := hframe.label st (hst st hstatement)
  rw [hlabel] at hown hnamecell hextendscell hblockcell
  refine ⟨hframe.mem_fresh_right hnew, st, name, extends_, block, builder, others, comments,
    hstatement, hframe.mem_fresh_right hname, hframe.mem_fresh_right hextends,
    hframe.mem_fresh_right hblock, hown, hnamecell, hextendscell, hblockcell, ?_, ?_⟩
  · cases builder with
    | none => exact hempty.symm.trans hbuilt
    | some k => exact ⟨hempty.symm.trans hbuilt.1, hbuilt.2.earlier hframe (hfn _ hbuilder)⟩
  · refine ((List.forall₂_and_left _ _).mpr ⟨fun m hm => hfn m (hmethods m hm), hothers⟩).imp ?_
    intro m k h
    exact h.2.earlier hframe h.1

/-- The body of a function that is ready is no other container. -/
theorem Candidate.Ready.emptyBody_eq {edited : TokenId → Prop} (hc : Container s block ids)
    (h : c.Ready s block declaring) (hframe : Frame s s' edited)
    (hfunction : ∀ f, s.isConvertible (some f) = .ok true → ¬ edited f)
    (hapart : ∀ u ∈ Spans.at_ Cell.children s declaring, ¬ edited u) :
    s'.emptyBody c.builder = s.emptyBody c.builder := by
  obtain ⟨f, n, a, b, hf, hlt, hbt, hchildren, -⟩ := Store.parts_of_isConvertible h.builder
  have hb : b ∈ Spans.at_ Cell.children s declaring := by
    obtain ⟨decl, gone, stay, own, taken, hfoot⟩ := h.footprint hc.found hc.nodup hc.present hc.lt
    have hshared : s.shared c.builder = [a, some b] := by
      rw [Store.shared, hf]
      exact congrArg (List.drop 1) hchildren
    rw [Spans.at_eq hfoot.declFound]
    exact (hfoot.place h).1.subset (hfoot.ownFound.root_mem (by rw [hshared]; simp))
  have hchildren' : (s'.cell f).children = [n, a, some b] :=
    (hframe.children f hlt (hfunction f (hf ▸ h.builder))).trans hchildren
  unfold Store.emptyBody
  rw [hf, show s'.children (some f) = _ from hchildren', show s.children (some f) = _ from hchildren]
  show (s'.cell b).children.isEmpty = (s.cell b).children.isEmpty
  rw [hframe.children b hbt (hapart b hb)]

/-- The container is one after some commits, too. -/
theorem Progress.container (hc : Container s block ids) (hp : Progress s s' block ids made) :
    ∃ ids', Container s' block ids' ∧ ids' <+~ ids ++ s.fresh s' := by
  have hframe := hp.frame
  obtain ⟨ids', hids', hsub⟩ := hp.found
  have hnids' : ids'.Nodup :=
    nodup_of_subperm hsub (Store.nodup_append_fresh hc.nodup_ids hc.found.lt_size)
  refine ⟨ids', ⟨?_, Nat.lt_of_lt_of_le hc.lt hframe.size_le, hids', ?_, ?_⟩, hsub⟩
  · rw [Store.isContainer, hframe.hasKind _ hc.lt, hframe.hasKind _ hc.lt]
    exact hc.isContainer
  · refine List.nodup_cons.mpr ⟨fun hmem => ?_, hnids'⟩
    rcases List.mem_append.mp (hsub.subset hmem) with hmem | hmem
    · exact hc.not_mem hmem
    · exact absurd hc.lt (Nat.not_lt_of_le (Store.mem_fresh.mp hmem).1)
  · intro hmem
    rcases hframe.kept block hc.lt none hmem with hmem | ⟨u, -, hu, -⟩
    · exact hc.present hmem
    · cases hu

/-- What is found from the statements of a candidate is not edited by the commits of others. -/
theorem Candidate.Ready.unedited (hc : Container s block ids)
    (hmade : ∀ m ∈ made, m.candidate.Ready s block m.declaring)
    (hready : c.Ready s block declaring)
    (hapart : ∀ m ∈ made, m.candidate.Apart m.declaring c declaring) :
    ∀ slot ∈ declaring :: c.removed, ∀ u ∈ Spans.at_ Cell.children s slot,
      ¬ ∃ m ∈ made, Candidate.Edits s block m.declaring u := by
  rintro slot hslot u hu ⟨m, hm, hedit⟩
  rcases List.mem_cons.mp hslot with rfl | hslot
  · exact hc.not_edits (hmade m hm).standing hready.standing
      (hapart m hm).declarations.symm hu hedit
  · exact hc.not_edits (hmade m hm).standing (hready.removedStanding slot hslot)
      (fun he => (hapart m hm).declaration (he ▸ hslot)) hu hedit

/-- A candidate that has no statement in common with those committed is still ready. -/
theorem Progress.ready_later (hc : Container s block ids) (hp : Progress s s' block ids made)
    (hmade : ∀ m ∈ made, m.candidate.Ready s block m.declaring)
    (hready : c.Ready s block declaring)
    (hapart : ∀ m ∈ made, m.candidate.Apart m.declaring c declaring) :
    c.Ready s' block declaring := by
  refine hready.later hp.frame hc.found (fun slot hslot => ?_) ?_
    (hready.unedited hc hmade hapart)
  · have hown : slot ∈ (s.cell block).children ∧
        ∀ m ∈ made, m.declaring ≠ slot ∧ slot ∉ m.candidate.removed := by
      rcases List.mem_cons.mp hslot with rfl | hslot
      · exact ⟨hready.standing, fun m hm =>
          ⟨(hapart m hm).declarations, (hapart m hm).declaration'⟩⟩
      · exact ⟨hready.removedStanding slot hslot, fun m hm =>
          ⟨fun he => (hapart m hm).declaration (he ▸ hslot), fun hmem =>
            (hapart m hm).removed slot hmem hslot⟩⟩
    rw [hp.children]
    refine List.mem_flatMap.mpr ⟨slot, hown.1, ?_⟩
    rw [Made.replace_of_apart hown.2]
    exact List.mem_cons_self
  · rintro f hf ⟨m, -, hedit⟩
    exact hc.not_edits_function hf hedit

/-- The commit of a candidate that has no statement in common with those committed edits nothing
that it would not have edited before them. -/
theorem Progress.edits_earlier (hc : Container s block ids) (hp : Progress s s' block ids made)
    (hready : c.Ready s block declaring)
    (hunedited : ∀ slot ∈ declaring :: c.removed, ∀ u ∈ Spans.at_ Cell.children s slot,
      ¬ ∃ m ∈ made, Candidate.Edits s block m.declaring u)
    {u : TokenId} (h : Candidate.Edits s' block declaring u) :
    Candidate.Edits s block declaring u := by
  have hat : Spans.at_ Cell.children s' declaring = Spans.at_ Cell.children s declaring :=
    Spans.at_eq (hp.frame.spans (hc.found.spans_at hready.standing)
      (hunedited declaring List.mem_cons_self))
  rcases h with rfl | ⟨he, hkind⟩ | ⟨hu, hkind⟩
  · exact Or.inl rfl
  · have hlt := hc.found.lt_size u (hc.found.root_mem (he ▸ hready.standing))
    rw [← he, hp.frame.hasKind _ hlt] at hkind
    exact Or.inr (Or.inl ⟨he, he ▸ hkind⟩)
  · rw [hat] at hu
    have hlt := hc.found.lt_size u (hc.mem_of_mem_at hready.standing hu)
    rw [hp.frame.hasKind _ hlt, hp.frame.hasKind _ hlt] at hkind
    exact Or.inr (Or.inr ⟨hu, hkind⟩)

section

variable (hc : Container s block ids) (hp : Progress s s' block ids made)
  (hmade : ∀ m ∈ made, m.candidate.Ready s block m.declaring)
  (hready : c.Ready s block declaring)
  (hapart : ∀ m ∈ made, m.candidate.Apart m.declaring c declaring)
  (hcommits : c.Commits s' s'' block declaring t)

include hc hp hmade hready hapart hcommits

/-- One more commit edits what a commit of its candidate edits. -/
theorem Progress.frame_append :
    Frame s s'' fun u => ∃ m ∈ made ++ [⟨c, declaring, t⟩], Candidate.Edits s block m.declaring u := by
  have hunedited := hready.unedited hc hmade hapart
  refine (hp.frame.mono fun u _ hu => ?_).trans (hcommits.frame.mono fun u _ hu => ?_) ?_
  · obtain ⟨m, hm, hedit⟩ := hu
    exact ⟨m, List.mem_append_left _ hm, hedit⟩
  · exact ⟨⟨c, declaring, t⟩, List.mem_append_right _ List.mem_cons_self,
      hp.edits_earlier hc hready hunedited hu⟩
  · -- no commit edits a token that was not there at the start
    rintro u hu ⟨m, hm, hedit⟩
    have hstanding : m.declaring ∈ (s.cell block).children := by
      rcases List.mem_append.mp hm with hm | hm
      · exact (hmade m hm).standing
      · rw [List.mem_singleton] at hm
        rw [hm]
        exact hready.standing
    exact absurd (hc.edits_lt hstanding hedit) (Nat.not_lt_of_le hu)

/-- After one more commit, every class is declared as the store at the start says. -/
theorem Progress.declared_append :
    ∀ m ∈ made ++ [⟨c, declaring, t⟩], m.candidate.Declared s s'' m.token := by
  have hfunction : ∀ f, s.isConvertible (some f) = .ok true →
      ¬ ∃ m ∈ made, Candidate.Edits s block m.declaring f := by
    rintro f hf ⟨m, -, hedit⟩
    exact hc.not_edits_function hf hedit
  have hunedited := hready.unedited hc hmade hapart
  have hnotnew : ∀ u, s.size ≤ u → ¬ Candidate.Edits s' block declaring u := fun u hu hedit =>
    absurd (hc.edits_lt hready.standing (hp.edits_earlier hc hready hunedited hedit))
      (Nat.not_lt_of_le hu)
  intro m hm
  rcases List.mem_append.mp hm with hm | hm
  · exact (hp.declared m hm).later hcommits.frame.size_le (hcommits.frame.cell_fresh hnotnew)
  · rw [List.mem_singleton] at hm
    subst hm
    refine hcommits.declared.earlier hp.frame ?_ hready.builder hready.methods hfunction
      (hready.emptyBody_eq hc hp.frame hfunction (hunedited declaring List.mem_cons_self))
    intro st hst
    obtain ⟨own, hown, -⟩ := hready.within_statement (hc.found.spans_at hready.standing)
    rw [hst] at hown
    exact hown.of_singleton.1

/-- After one more commit, every export of a function holds its class. -/
theorem Progress.exported_append : ∀ m ∈ made ++ [⟨c, declaring, t⟩], ∀ e,
    m.declaring = some e → m.candidate.statement ≠ m.declaring →
    (s''.cell e).children = (s.cell e).children.set 0 (some m.token) := by
  have hunedited := hready.unedited hc hmade hapart
  intro m hm e he hne
  rcases List.mem_append.mp hm with hm | hm
  · have hlt : e < s.size := hc.found.lt_size e (hc.found.root_mem (he ▸ (hmade m hm).standing))
    -- an export of an earlier candidate is no part of the statements that this commit edits
    have hnot : ¬ Candidate.Edits s' block declaring e := fun hedit =>
      hc.not_edits hready.standing (hmade m hm).standing (hapart m hm).declarations
        ((hc.found.spans_at (hmade m hm).standing).root_mem (he ▸ List.mem_cons_self))
        (hp.edits_earlier hc hready hunedited hedit)
    rw [hcommits.frame.children e (Nat.lt_of_lt_of_le hlt hp.frame.size_le) hnot]
    exact hp.exported m hm e he hne
  · rw [List.mem_singleton] at hm
    subst hm
    have hlt : e < s.size := hc.found.lt_size e (hc.found.root_mem (he ▸ hready.standing))
    rw [hcommits.exported e he hne, hp.frame.children e hlt]
    exact hunedited declaring List.mem_cons_self e
      ((hc.found.spans_at hready.standing).root_mem (he ▸ List.mem_cons_self))

end

/-- One more commit: once the class is declared, the commit succeeds, and the store is the
earlier one in which this candidate was committed, too. -/
theorem Progress.step (hc : Container s block ids) (hp : Progress s s' block ids made)
    (hmade : ∀ m ∈ made, m.candidate.Ready s block m.declaring)
    (hready : c.Ready s block declaring)
    (hapart : ∀ m ∈ made, m.candidate.Apart m.declaring c declaring) {s₁ : Store}
    (hdeclare : c.declare.run.run s' = (.ok t, s₁)) :
    ∃ s'', c.commit.run.run s' = (.ok (), s'') ∧
      Progress s s'' block ids (made ++ [⟨c, declaring, t⟩]) := by
  obtain ⟨ids', hc', hsub⟩ := hp.container hc
  obtain ⟨s'', hrun, hcommits, ids'', hids'', hsub'⟩ :=
    (hp.ready_later hc hmade hready hapart).commit_of_declare
      (Store.holdsStatements_of_container hc'.isContainer) hc'.found hc'.nodup hc'.present hc'.lt
      hdeclare
  have hnew : ∀ m ∈ made, s.size ≤ m.token := fun m hm =>
    (Store.mem_fresh.mp (hp.declared m hm).new).1
  exact ⟨s'', hrun, {
    frame := hp.frame_append hc hmade hready hapart hcommits
    children := by
      rw [hcommits.children, hp.children, List.flatMap_assoc]
      exact List.flatMap_congr fun slot _ => Made.replace_append hc hready hnew hapart
    declared := hp.declared_append hc hmade hready hapart hcommits
    exported := hp.exported_append hc hmade hready hapart hcommits
    found := by
      refine ⟨ids'', hids'', ?_⟩
      rw [Store.fresh_append hp.frame.size_le hcommits.frame.size_le, ← List.append_assoc]
      exact hsub'.trans (hsub.append (.refl _)) }⟩

/-! ## All commits -/

/-- A declared candidate and its statement, before it is committed. -/
structure Waiting (s : Store) (block : TokenId) (candidates : List (Candidate × Slot)) : Prop where
  ready : ∀ p ∈ candidates, p.1.Ready s block p.2
  apart : candidates.Pairwise fun p q => p.1.Apart p.2 q.1 q.2

/-- The candidates that were committed are those given, each with its statement. -/
def Made.entry (m : Made) : Candidate × Slot := (m.candidate, m.declaring)

namespace Waiting

variable {p : Candidate × Slot} {waiting : List (Candidate × Slot)}

theorem ready_made (h : Waiting s block (made.map Made.entry ++ waiting)) :
    ∀ m ∈ made, m.candidate.Ready s block m.declaring := fun m hm =>
  h.ready m.entry (List.mem_append_left _ (List.mem_map_of_mem hm))

theorem ready_first (h : Waiting s block (made.map Made.entry ++ p :: waiting)) :
    p.1.Ready s block p.2 :=
  h.ready p (List.mem_append_right _ List.mem_cons_self)

/-- The candidates that were committed are apart from the first one that waits. -/
theorem apart_first (h : Waiting s block (made.map Made.entry ++ p :: waiting)) :
    ∀ m ∈ made, m.candidate.Apart m.declaring p.1 p.2 := by
  obtain ⟨-, -, hbetween⟩ := List.pairwise_append.mp h.apart
  intro m hm
  exact hbetween m.entry (List.mem_map_of_mem hm) p List.mem_cons_self

/-- The others wait when the first one is committed. -/
theorem next (h : Waiting s block (made.map Made.entry ++ p :: waiting)) (t : TokenId) :
    Waiting s block ((made ++ [(⟨p.1, p.2, t⟩ : Made)]).map Made.entry ++ waiting) := by
  rw [List.map_append, List.append_assoc]
  exact h

end Waiting

/-- The first of the candidates that wait is committed, and the others wait. -/
theorem Progress.run_first {x x' : Converter} {p : Candidate × Slot}
    {waiting : List (Candidate × Slot)} (hc : Container s block ids)
    (hp : Progress s s' block ids made)
    (hwaiting : Waiting s block (made.map Made.entry ++ p :: waiting))
    (htransformable : p.1.isTransformable = true)
    (h : (((p :: waiting).map Prod.fst).forM Conversion.commit).run.run (s', x) =
      (.ok (), (s'', x'))) :
    ∃ t s₁ x₁, p.1.Ready s' block p.2 ∧ (∃ s₂, p.1.declare.run.run s' = (.ok t, s₂)) ∧
      p.1.commit.run.run s' = (.ok (), s₁) ∧
      Progress s s₁ block ids (made ++ [⟨p.1, p.2, t⟩]) ∧
      Waiting s block ((made ++ [(⟨p.1, p.2, t⟩ : Made)]).map Made.entry ++ waiting) ∧
      ((waiting.map Prod.fst).forM Conversion.commit).run.run (s₁, x₁) = (.ok (), (s'', x')) := by
  have h : (Conversion.commit p.1 >>= fun _ =>
    (waiting.map Prod.fst).forM Conversion.commit).run.run (s', x) = (.ok (), (s'', x')) := h
  obtain ⟨⟨⟩, ⟨s₁, x₁⟩, hcommit, h⟩ := run_run_bind_eq_ok.mp h
  rcases Conversion.commit_eq_ok hcommit with ⟨hno, -, -⟩ | ⟨-, hrun, -⟩
  · rw [htransformable] at hno
    cases hno
  obtain ⟨t, s₂, hdeclare, -⟩ := run_run_bind_eq_ok.mp hrun
  obtain ⟨s₃, hrun', hp'⟩ :=
    hp.step hc hwaiting.ready_made hwaiting.ready_first hwaiting.apart_first hdeclare
  rw [hrun'] at hrun
  cases hrun
  have hready := hp.ready_later hc hwaiting.ready_made hwaiting.ready_first hwaiting.apart_first
  exact ⟨t, s₁, x₁, hready, ⟨s₂, hdeclare⟩, hrun', hp', hwaiting.next t, h⟩

/-- All candidates of a container are committed, one after the other. -/
theorem Progress.run {x x' : Converter} {waiting : List (Candidate × Slot)}
    (hc : Container s block ids) (hp : Progress s s' block ids made)
    (hwaiting : Waiting s block (made.map Made.entry ++ waiting))
    (htransformable : ∀ p ∈ waiting, p.1.isTransformable = true)
    (h : ((waiting.map Prod.fst).forM Conversion.commit).run.run (s', x) = (.ok (), (s'', x'))) :
    ∃ more, more.map Made.entry = waiting ∧ Progress s s'' block ids (made ++ more) := by
  induction waiting generalizing s' x made with
  | nil =>
      cases h
      exact ⟨[], rfl, by rwa [List.append_nil]⟩
  | cons p waiting ih =>
      obtain ⟨t, s₁, x₁, -, -, -, hp', hwaiting', h⟩ :=
        hp.run_first hc hwaiting (htransformable p List.mem_cons_self) h
      obtain ⟨more, hmore, hp''⟩ := ih hp' hwaiting'
        (fun q hq => htransformable q (List.mem_cons_of_mem _ hq)) h
      refine ⟨⟨p.1, p.2, t⟩ :: more, ?_, ?_⟩
      · rw [List.map_cons, hmore]
        rfl
      · rw [List.append_assoc] at hp''
        exact hp''

end ClassLift
