import ClassLift.Proofs.Class.Offspring
import ClassLift.Proofs.Class.Origins
import ClassLift.Proofs.Conversion.Novelty
import ClassLift.Proofs.Token.Unfolding

set_option autoImplicit false

/-! # What a new token leads to

From a token that a visit made one comes to other new tokens, and to old ones only where a class took
over a part of a function or a class reference (`Converted.up_of_leads`). So an old token that a class
did not take over is found from there only if the token above it is (`Converted.not_link`): neither the
container is found, nor the statements in it, nor what stands below them outside functions
(`Converted.not_outside`). A comment is not taken over, and stays with its token
(`Converted.not_comment`).
-/

namespace ClassLift

open List

variable {s s' : Store} {options : Options} {block q u v k : TokenId}
  {ids ids' all made copied : List TokenId} {classes : List (String × TokenId)}

/-- A container in an unshared tree before and after its visit. The tokens `all` are found from it
before, the tokens `ids` and `ids'` below it through children before and after; `made` are the tokens
that the visit made, with copies of comments `copied`. -/
structure Converted (s s' : Store) (options : Options) (block : TokenId)
    (classes : List (String × TokenId)) (all ids ids' made copied : List TokenId) : Prop where
  container : Container s block ids
  spans : Spans Cell.links s [some block] all
  nodup : all.Nodup
  rewrites : Rewrites s s' options block classes
  offspring : Offspring s (block :: ids) made copied s'
  found : Spans Cell.children s' (s'.cell block).children ids'
  sub : ids' <+~ ids ++ s.fresh s'

/-- The tree of the container after the visit. Old tokens in it were in the tree before; a new one
stands among the children and was made, or belongs to a copy of a comment. -/
structure Aftermath (s s' : Store) (block : TokenId) (all ids' made copied all' : List TokenId) :
    Prop where
  found : Spans Cell.links s' [some block] all'
  nodup : all'.Nodup
  standing : ∀ u ∈ ids', u ∈ all'
  old : ∀ u ∈ all', u < s.size → u ∈ all
  new : ∀ u ∈ all', s.size ≤ u → (u ∈ ids' ∧ u ∈ made) ∨ u ∈ copied

/-- An edit does not link an old token to another one. -/
theorem Frame.link_old {edited : TokenId → Prop} (h : Frame s s' edited) (hu : u < s.size)
    (hv : v < s.size) (hlink : some v ∈ (s'.cell u).links) : some v ∈ (s.cell u).links := by
  rcases List.mem_append.mp hlink with hchild | hcomment
  · rcases h.kept u hu _ hchild with hchild | ⟨w, hw, he, -⟩
    · exact List.mem_append_left _ hchild
    · cases he
      exact absurd hv (Nat.not_lt_of_le (Store.mem_fresh.mp hw).1)
  · rw [h.comments u hu] at hcomment
    exact List.mem_append_right _ hcomment

/-- The container is not found from its own statements, also after a visit. -/
theorem Container.nodup_later (hc : Container s block ids) (hn : ids'.Nodup)
    (hsub : ids' <+~ ids ++ s.fresh s') : (block :: ids').Nodup := by
  refine List.nodup_cons.mpr ⟨fun hmem => ?_, hn⟩
  rcases List.mem_append.mp (hsub.subset hmem) with hmem | hmem
  · exact hc.not_mem hmem
  · exact absurd hc.lt (Nat.not_lt_of_le (Store.mem_fresh.mp hmem).1)

namespace Converted

variable (h : Converted s s' options block classes all ids ids' made copied)

include h

/-! ## The tree after the visit -/

theorem old_spans : Spans Cell.children s [some block] (block :: ids) :=
  .singleton h.container.lt h.container.found

theorem new_spans : Spans Cell.children s' [some block] (block :: ids') :=
  .singleton (Nat.lt_of_lt_of_le h.container.lt h.offspring.size_le) h.found

/-- What is found below the container through children is found following all links. -/
theorem mem_all (hu : u ∈ ids) : u ∈ all := by
  obtain ⟨old, hold, hsub⟩ := h.spans.restrict Cell.children_sublist_links
  cases hold.unique h.old_spans
  exact hsub.subset (List.mem_cons_of_mem block hu)

/-- The statements of the container share no token, also with their comments. -/
theorem statements_spans : ∃ below, Spans Cell.links s (s.cell block).children below ∧ below.Nodup := by
  obtain ⟨-, rest, rfl, hrest⟩ := h.spans.of_singleton
  obtain ⟨first, second, rfl, hfirst, -⟩ := hrest.of_append
  exact ⟨first, hfirst, (List.nodup_append.mp (List.nodup_cons.mp h.nodup).2).1⟩

theorem nodup_ids : ids'.Nodup :=
  nodup_of_subperm h.sub (Store.nodup_append_fresh h.container.nodup_ids h.container.found.lt_size)

theorem mem_ids (hu : u ∈ ids') (hlt : u < s.size) : u ∈ ids :=
  (List.mem_append.mp (h.sub.subset hu)).resolve_right fun hu =>
    absurd hlt (Nat.not_lt_of_le (Store.mem_fresh.mp hu).1)

theorem new_of_made (hu : u ∈ made ∨ u ∈ copied) : s.size ≤ u :=
  (Store.mem_fresh.mp (h.offspring.mem_fresh hu)).1

/-- What is found through children was there, or was made. -/
theorem own_of_found (hu : u ∈ block :: ids') : u ∈ block :: ids ∨ u ∈ made := by
  refine h.offspring.own_of_found h.new_spans (fun v hv => ?_) u hu
  cases List.mem_singleton.mp hv
  exact List.mem_cons_self

/-- A new token that is found through children was made. -/
theorem mem_made (hu : u ∈ ids') (hle : s.size ≤ u) : u ∈ made :=
  (h.own_of_found (List.mem_cons_of_mem block hu)).resolve_left fun hold =>
    absurd (h.offspring.lt u hold) (Nat.not_lt_of_le hle)

theorem aftermath : ∃ all', Aftermath s s' block all ids' made copied all' := by
  have hframe := (h.rewrites.edits h.container).mono fun u _ (hu : s.IsEdited (block :: ids) u) => hu.1
  obtain ⟨ks, all', found, hperm, hall', hn', hperm', hfoundsub⟩ :=
    h.offspring.spans h.spans h.nodup h.old_spans hframe h.new_spans
      (h.container.nodup_later h.nodup_ids h.sub) fun u hu => by
        cases List.mem_singleton.mp hu
        exact List.mem_cons_self
  have hmem : ∀ u, u ∈ block :: ids ∨ u ∈ ks → u ∈ all := fun u hu =>
    hperm.symm.subset (List.mem_append.mpr hu)
  refine ⟨all', hall', hn', fun u hu => ?_, fun u hu hlt => ?_, fun u hu hle => ?_⟩
  · exact hperm'.symm.subset (List.mem_append_left _ (List.mem_cons_of_mem block hu))
  · have hold : ¬(u ∈ made ∨ u ∈ copied) := fun hu => absurd hlt (Nat.not_lt_of_le (h.new_of_made hu))
    rcases List.mem_append.mp (hperm'.subset hu) with hu | hu
    · exact hmem u (Or.inl ((h.own_of_found hu).resolve_right fun hu => hold (Or.inl hu)))
    · exact hmem u (Or.inr ((List.mem_append.mp (hfoundsub.subset hu)).resolve_right fun hu =>
        hold (Or.inr hu)))
  · have hnew : ¬(u ∈ block :: ids ∨ u ∈ ks) := fun hu =>
      absurd (h.spans.lt_size u (hmem u hu)) (Nat.not_lt_of_le hle)
    rcases List.mem_append.mp (hperm'.subset hu) with hu | hu
    · have hu' : u ∈ ids' := (List.mem_cons.mp hu).resolve_left fun he =>
        hnew (Or.inl (he ▸ List.mem_cons_self))
      exact Or.inl ⟨hu', h.mem_made hu' hle⟩
    · exact Or.inr ((List.mem_append.mp (hfoundsub.subset hu)).resolve_left fun hu =>
        hnew (Or.inr hu))

/-! ## What is found from a new token -/

variable (hq : q ∈ ids') (hnew : s.size ≤ q)

include hq hnew

/-- An old token was taken over, or is found because the token above it is. -/
theorem up_of_leads (hv : v < s.size) (hlead : s'.Leads q v) :
    s.IsTaken block v ∨ ∃ u ∈ all, s'.Leads q u ∧ some v ∈ (s.cell u).links := by
  obtain ⟨all', hlater⟩ := h.aftermath
  have hcopied : ∀ u ∈ copied, some v ∉ (s'.cell u).links := fun u hu hlink =>
    absurd hv (Nat.not_lt_of_le (h.new_of_made (Or.inr (h.offspring.comments.link_mem hu hlink))))
  rcases Relation.ReflTransGen.cases_tail hlead with rfl | ⟨u, hlead', hlink⟩
  · exact absurd hv (Nat.not_lt_of_le hnew)
  have hu : u ∈ all' := by
    obtain ⟨below, hbelow, hpart⟩ := hlater.found.below_mem (hlater.standing q hq)
    exact hpart.subset (hbelow.mem_of_linked hlead')
  by_cases hlt : u < s.size
  · exact Or.inr ⟨u, hlater.old u hu hlt, hlead',
      (h.rewrites.edits h.container).link_old hlt hv hlink⟩
  have hle := Nat.le_of_not_lt hlt
  -- a new token has an old child only where that was taken over
  rcases hlater.new u hu hle with ⟨hu', hmade⟩ | hu'
  · rcases List.mem_append.mp hlink with hchild | hcomment
    · obtain ⟨kind, hnovel⟩ := h.rewrites.novel h.container h.found h.sub u hu' hle
      rcases hnovel.child hchild with ⟨kind', hnovel', -⟩ | ⟨htaken, -⟩
      · exact absurd hv (Nat.not_lt_of_le hnovel'.new)
      · exact Or.inl htaken
    · have hcopy := h.offspring.comments.root_mem (List.mem_flatMap.mpr ⟨u, hmade, hcomment⟩)
      exact absurd hv (Nat.not_lt_of_le (h.new_of_made (Or.inr hcopy)))
  · exact absurd hlink (hcopied u hu')

/-- The container is not found. -/
theorem not_block : ¬ s'.Leads q block := by
  intro hlead
  obtain ⟨all', hlater⟩ := h.aftermath
  rcases Relation.ReflTransGen.cases_tail hlead with rfl | ⟨u, hlead', hlink⟩
  · exact absurd h.container.lt (Nat.not_lt_of_le hnew)
  · obtain ⟨below, hbelow, hpart⟩ := hlater.found.below_mem (hlater.standing q hq)
    exact hlater.found.root_not_linked hlater.nodup (hpart.subset (hbelow.mem_of_linked hlead')) hlink

/-- Where a token is not found, what is linked to it is not found, unless it was taken over. -/
theorem not_link (hu : u ∈ all) (hnot : ¬ s'.Leads q u) (hv : some v ∈ (s.cell u).links)
    (htaken : ¬ s.IsTaken block v) : ¬ s'.Leads q v := by
  intro hlead
  have hvmem := h.spans.link_mem hu hv
  rcases h.up_of_leads hq hnew (h.spans.lt_size v hvmem) hlead with htaken' | ⟨w, hw, hlead', hlink⟩
  · exact htaken htaken'
  · cases h.spans.parent_unique h.nodup hu hw hv hlink
    exact hnot hlead'

/-- Where a token is not found, its comments are not found. -/
theorem not_comment (hu : u ∈ all) (hnot : ¬ s'.Leads q u) (hk : some k ∈ (s.cell u).comments) :
    ¬ s'.Leads q k := by
  refine h.not_link hq hnew hu hnot (List.mem_append_right _ hk) fun htaken => ?_
  exact h.old_spans.comment_apart h.spans h.nodup hu hk
    (List.mem_cons_of_mem block (h.container.mem_of_inside htaken.1))

omit hq hnew in
/-- A token was not taken over if it neither stands below a function nor is a class reference. -/
theorem not_isTaken (hu : u ∈ all) (hv : some v ∈ (s.cell u).children)
    (hfunction : s.isConvertible (some u) ≠ .ok true)
    (hreference : s.isClassReference (some v) ≠ .ok true) : ¬ s.IsTaken block v := by
  rintro ⟨-, href | ⟨f, hf, hconvertible, hchild⟩⟩
  · exact hreference href
  · have hlink : ∀ {p : TokenId}, some v ∈ (s.cell p).children → some v ∈ (s.cell p).links :=
      fun hv => List.mem_append_left _ hv
    have hfmem : f ∈ all := h.mem_all (h.container.mem_of_inside hf)
    cases h.spans.parent_unique h.nodup hu hfmem (hlink hv) (hlink hchild)
    exact hfunction hconvertible

/-- What stands below the container, but not below a function or a class reference, is not found. -/
theorem not_outside (hu : s.Outside block u) : u ∈ all ∧ ¬ s'.Leads q u := by
  induction hu with
  | refl => exact ⟨h.spans.root_mem List.mem_cons_self, h.not_block hq hnew⟩
  | @tail v w _ hstep ih =>
      obtain ⟨hparent, hfunction, hreference⟩ := hstep
      have hlink : some w ∈ (s.cell v).links := List.mem_append_left _ hparent
      exact ⟨h.spans.link_mem ih.1 hlink, h.not_link hq hnew ih.1 ih.2 hlink
        (h.not_isTaken ih.1 hparent hfunction hreference)⟩

end Converted

end ClassLift
