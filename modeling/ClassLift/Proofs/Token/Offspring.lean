import ClassLift.Proofs.Token.Copies

set_option autoImplicit false

/-! # New tokens and copied comments

New tokens come in two ways. Some are made one by one and get their place in the tree; the others
are copies of comments, whole trees at a time, and their places are the comments of tokens that
were made. `Offspring` keeps account of both: whatever is found through the children of old tokens
is old or made (`Offspring.closed`), and every copy stands among the comments of one made token
only (`Offspring.comments`).

Three steps keep the account: a token is made with copies as its comments (`Offspring.make`),
a token is made without comments (`Offspring.make_bare`), and a token gets other children
(`Offspring.alter`). Where the account is kept and no token stands at two places among the
children, none stands at two places at all (`Offspring.spans`).
-/

namespace ClassLift

open List

theorem Store.fresh_push {s s' : Store} (h : s.size ≤ s'.size) (c : Cell) :
    s.fresh (s'.push c) = s.fresh s' ++ [s'.size] := by
  have hlast : s'.fresh (s'.push c) = [s'.size] := by
    rw [Store.fresh, Store.size_push, Nat.add_sub_cancel_left]
    rfl
  rw [Store.fresh_append h (Nat.le_of_lt (s'.size_lt_push c)), hlast]

/-! ## Copies share no token -/

namespace Edit

variable {s s' : Store} {slots copies : List Slot} {slot : Slot} {t : TokenId}

mutual

/-- A copy of a tree is a tree of new tokens, none of which stands at two places. -/
theorem build_spans (s : Store) (tree : Tree) :
    ∃ ids, Spans Cell.links (s.build tree).2 [(s.build tree).1] ids ∧
      ids <+~ s.fresh (s.build tree).2 := by
  match tree with
  | .absent => exact ⟨[], .absent .nil, List.nil_subperm⟩
  | .node _ label cs ks =>
      obtain ⟨below, hbelow, hsub⟩ := buildAll_spans s cs
      obtain ⟨above, habove, hsub'⟩ := buildAll_spans (s.buildAll cs).2 ks
      have hframe := buildAll_frame s cs
      have hframe' := buildAll_frame (s.buildAll cs).2 ks
      set s₁ := (s.buildAll cs).2
      set s₂ := (s₁.buildAll ks).2
      set c : Cell := ⟨label, (s.buildAll cs).1, (s₁.buildAll ks).1⟩
      have hpush : Frame s₂ (s₂.push c) fun _ => False := Frame.push s₂ c
      have hlinks : Spans Cell.links (s₂.push c) ((s₂.push c).cell s₂.size).links (below ++ above) := by
        rw [Store.cell_push_eq]
        show Spans Cell.links _ (c.children ++ c.comments) _
        exact ((hframe'.extend hpush).spans_links hbelow fun _ _ => id).append
          (hpush.spans_links habove fun _ _ => id)
      refine ⟨s₂.size :: (below ++ above), .singleton (s₂.size_lt_push c) hlinks, ?_⟩
      -- the copied parts come before the token that holds them
      show _ <+~ s.fresh (s₂.push c)
      rw [Store.fresh_push (Nat.le_trans hframe.size_le hframe'.size_le),
        Store.fresh_append hframe.size_le hframe'.size_le]
      have hperm : s₂.size :: (below ++ above) ~ (below ++ above) ++ [s₂.size] :=
        (List.perm_append_singleton _ _).symm
      exact hperm.subperm.trans ((hsub.append hsub').append (.refl _))

theorem buildAll_spans (s : Store) (trees : List Tree) :
    ∃ ids, Spans Cell.links (s.buildAll trees).2 (s.buildAll trees).1 ids ∧
      ids <+~ s.fresh (s.buildAll trees).2 := by
  match trees with
  | [] => exact ⟨[], .nil, List.nil_subperm⟩
  | tree :: trees =>
      obtain ⟨first, hfirst, hsub⟩ := build_spans s tree
      obtain ⟨rest, hrest, hsub'⟩ := buildAll_spans (s.build tree).2 trees
      have hframe := build_frame s tree
      have hframe' := buildAll_frame (s.build tree).2 trees
      refine ⟨first ++ rest, (hframe'.spans_links hfirst fun _ _ => id).append hrest, ?_⟩
      show _ <+~ s.fresh ((s.build tree).2.buildAll trees).2
      rw [Store.fresh_append hframe.size_le hframe'.size_le]
      exact hsub.append hsub'

end

theorem clone_spans (h : (clone slot).run.run s = (.ok t, s')) :
    ∃ ids, Spans Cell.links s' [some t] ids ∧ ids <+~ s.fresh s' := by
  have hspans := build_spans s (s.fullTree slot)
  rwa [(clone_eq_build h).2] at hspans

theorem mapM_clone_spans
    (h : (slots.mapM fun comment => some <$> clone comment : Edit (List Slot)).run.run s =
      (.ok copies, s')) :
    ∃ ids, Spans Cell.links s' copies ids ∧ ids <+~ s.fresh s' := by
  induction slots generalizing s copies with
  | nil =>
      cases h
      exact ⟨[], .nil, List.nil_subperm⟩
  | cons slot slots ih =>
      obtain ⟨t, s₁, others, hclone, hothers, rfl⟩ := mapM_clone_cons_eq_ok h
      obtain ⟨first, hfirst, hsub⟩ := clone_spans hclone
      obtain ⟨rest, hrest, hsub'⟩ := ih hothers
      have hframe := (clone_eq_ok hclone).1
      have hframe' := (mapM_clone_eq_ok hothers).1
      refine ⟨first ++ rest, (hframe'.spans_links hfirst fun _ _ => id).append hrest, ?_⟩
      rw [Store.fresh_append hframe.size_le hframe'.size_le]
      exact hsub.append hsub'

/-- The copies of comments are trees of new tokens, none of which stands at two places. -/
theorem copyComments_spans (h : (copyComments slots).run.run s = (.ok copies, s')) :
    ∃ ids, Spans Cell.links s' copies ids ∧ ids <+~ s.fresh s' := by
  induction slots generalizing s copies with
  | nil =>
      cases h
      exact ⟨[], .nil, List.nil_subperm⟩
  | cons slot slots ih =>
      obtain ⟨t, s₁, first, others, rfl, hfirst, hothers, rfl⟩ := copyComments_cons_eq_ok h
      obtain ⟨ids, hids, hsub⟩ := mapM_clone_spans hfirst
      obtain ⟨rest, hrest, hsub'⟩ := ih hothers
      have hframe := (mapM_clone_eq_ok hfirst).1
      have hframe' := (copyComments_eq_ok hothers).1
      refine ⟨ids ++ rest, (hframe'.spans_links hids fun _ _ => id).append hrest, ?_⟩
      rw [Store.fresh_append hframe.size_le hframe'.size_le]
      exact hsub.append hsub'

end Edit

/-! ## The account of the new tokens -/

/-- The kinds of the new tokens that get copies of comments. -/
def Kind.receiving : List Kind := [Kind.classDecl, Kind.method]

theorem Stands.imp {P Q : TokenId → Prop} {slot : Slot} (h : Stands P slot) (hpq : ∀ t, P t → Q t) :
    Stands Q slot := by
  obtain ⟨t, rfl, ht⟩ := h
  exact ⟨t, rfl, hpq t ht⟩

/-- Since the store `s`, whose tokens `old` are closed under children, the tokens `made` were made
and the tokens `copied` were copied as their comments. -/
structure Offspring (s : Store) (old made copied : List TokenId) (s' : Store) : Prop where
  size_le : s.size ≤ s'.size
  lt : ∀ u ∈ old, u < s.size
  new : made ++ copied <+~ s.fresh s'
  closed : s'.Closed fun u => u ∈ old ∨ u ∈ made
  comments : Spans Cell.links s' (made.flatMap fun u => (s'.cell u).comments) copied
  bare : ∀ u ∈ made, (s'.cell u).label.kind ∉ Kind.receiving → (s'.cell u).comments = []

namespace Offspring

variable {s s₁ s₂ : Store} {old made copied ids : List TokenId} {t u : TokenId} {c : Cell}
  {children : List Slot}

theorem start (hlt : ∀ u ∈ old, u < s.size) (hclosed : s.Closed (· ∈ old)) :
    Offspring s old [] [] s where
  size_le := Nat.le_refl _
  lt := hlt
  new := List.nil_subperm
  closed u hu slot hslot := by
    have hmem : u ∈ old := hu.resolve_right (List.not_mem_nil (a := u))
    exact (hclosed u hmem slot hslot).imp fun _ => Or.inl
  comments := .nil
  bare := by simp

theorem mem_fresh (h : Offspring s old made copied s₁) (hu : u ∈ made ∨ u ∈ copied) :
    u ∈ s.fresh s₁ :=
  h.new.subset (List.mem_append.mpr hu)

theorem lt_size (h : Offspring s old made copied s₁) (hu : u ∈ old ∨ u ∈ made) : u < s₁.size := by
  rcases hu with hu | hu
  · exact Nat.lt_of_lt_of_le (h.lt u hu) h.size_le
  · exact (Store.mem_fresh.mp (h.mem_fresh (Or.inl hu))).2

/-- No copy is an old token, or one that was made. -/
theorem not_copied (h : Offspring s old made copied s₁) (hu : u ∈ old ∨ u ∈ made) : u ∉ copied := by
  intro hmem
  rcases hu with hu | hu
  · have hnew := (Store.mem_fresh.mp (h.mem_fresh (Or.inr hmem))).1
    exact absurd (h.lt u hu) (Nat.not_lt_of_le hnew)
  · have hnodup : (made ++ copied).Nodup := nodup_of_subperm h.new List.nodup_range'
    exact (List.nodup_append.mp hnodup).2.2 u hu u hmem rfl

/-- A token is made; copies of comments, made just before, are its comments. -/
theorem make (h : Offspring s old made copied s₁) (hframe : Frame s₁ s₂ fun _ => False)
    (hcopies : Spans Cell.links s₂ c.comments ids) (hsub : ids <+~ s₁.fresh s₂)
    (hbare : c.label.kind ∉ Kind.receiving → c.comments = [])
    (hchildren : ∀ slot ∈ c.children, Stands (fun u => u ∈ old ∨ u ∈ made) slot) :
    Offspring s old (made ++ [s₂.size]) (copied ++ ids) (s₂.push c) := by
  have hpush : Frame s₂ (s₂.push c) fun _ => False := Frame.push s₂ c
  have hall : Frame s₁ (s₂.push c) fun _ => False := hframe.extend hpush
  have hmore : ∀ u, u ∈ old ∨ u ∈ made → u ∈ old ∨ u ∈ made ++ [s₂.size] :=
    fun u hu => hu.imp_right (List.mem_append_left _)
  exact {
    size_le := Nat.le_trans h.size_le hall.size_le
    lt := h.lt
    new := by
      rw [Store.fresh_push (Nat.le_trans h.size_le hframe.size_le),
        Store.fresh_append h.size_le hframe.size_le]
      have hperm : (made ++ [s₂.size]) ++ (copied ++ ids) ~
          (made ++ copied ++ ids) ++ [s₂.size] := by
        calc (made ++ [s₂.size]) ++ (copied ++ ids)
            ~ made ++ ([s₂.size] ++ (copied ++ ids)) := by rw [List.append_assoc]
          _ ~ made ++ ((copied ++ ids) ++ [s₂.size]) := List.perm_append_comm.append_left made
          _ ~ (made ++ copied ++ ids) ++ [s₂.size] := by
              simp only [List.append_assoc, List.Perm.refl]
      exact hperm.subperm.trans ((h.new.append hsub).append (.refl _))
    closed := by
      intro u hu slot hslot
      by_cases hold : u ∈ old ∨ u ∈ made
      · rw [hall.cell (h.lt_size hold) id] at hslot
        exact (h.closed u hold slot hslot).imp hmore
      · -- the token made last
        obtain ⟨hnotold, hnotmade⟩ := not_or.mp hold
        have hlast : u = s₂.size := by simpa [hnotold, hnotmade] using hu
        rw [hlast, Store.cell_push_eq] at hslot
        exact (hchildren slot hslot).imp hmore
    comments := by
      rw [List.flatMap_append, List.flatMap_singleton, Store.cell_push_eq]
      have hsame : (made.flatMap fun u => ((s₂.push c).cell u).comments) =
          made.flatMap fun u => (s₁.cell u).comments :=
        List.flatMap_congr fun u hu => by rw [hall.cell (h.lt_size (Or.inr hu)) id]
      rw [hsame]
      exact (hall.spans_links h.comments fun _ _ => id).append
        (hpush.spans_links hcopies fun _ _ => id)
    bare := by
      intro u hu
      rcases List.mem_append.mp hu with hu | hu
      · rw [hall.cell (h.lt_size (Or.inr hu)) id]
        exact h.bare u hu
      · rw [List.mem_singleton] at hu
        rw [hu, Store.cell_push_eq]
        exact hbare }

/-- A token is made without comments. -/
theorem make_bare (h : Offspring s old made copied s₁) (hcomments : c.comments = [])
    (hchildren : ∀ slot ∈ c.children, Stands (fun u => u ∈ old ∨ u ∈ made) slot) :
    Offspring s old (made ++ [s₁.size]) copied (s₁.push c) := by
  have hnone : Spans Cell.links s₁ c.comments [] := by
    rw [hcomments]
    exact .nil
  have hmade := h.make (.refl s₁ _) hnone List.nil_subperm (fun _ => hcomments) hchildren
  rwa [List.append_nil] at hmade

/-- An old token, or one that was made, gets other children. -/
theorem alter (h : Offspring s old made copied s₁) (ht : t ∈ old ∨ t ∈ made)
    (ha : s₁.Alters s₂ t children)
    (hchildren : ∀ slot ∈ children, Stands (fun u => u ∈ old ∨ u ∈ made) slot) :
    Offspring s old made copied s₂ := by
  have hsame : ∀ u, (s₂.cell u).label = (s₁.cell u).label ∧
      (s₂.cell u).comments = (s₁.cell u).comments := by
    intro u
    by_cases hu : u = t
    · rw [hu, ha.own]
      exact ⟨rfl, rfl⟩
    · rw [ha.others u hu]
      exact ⟨rfl, rfl⟩
  exact {
    size_le := ha.size ▸ h.size_le
    lt := h.lt
    new := by
      rw [Store.fresh, ha.size]
      exact h.new
    closed := by
      intro u hu slot hslot
      by_cases hut : u = t
      · rw [hut, ha.own] at hslot
        exact hchildren slot hslot
      · rw [ha.others u hut] at hslot
        exact h.closed u hu slot hslot
    -- a copy is not the token that gets other children
    comments := by
      have hcomments : (made.flatMap fun u => (s₂.cell u).comments) =
          made.flatMap fun u => (s₁.cell u).comments := List.flatMap_congr fun u _ => (hsame u).2
      rw [hcomments]
      refine h.comments.frame (Nat.le_of_eq ha.size.symm) fun u hu => ?_
      have hne : u ≠ t := by
        rintro rfl
        exact h.not_copied ht hu
      rw [ha.others u hne]
    bare := by
      intro u hu hkind
      rw [(hsame u).1] at hkind
      rw [(hsame u).2]
      exact h.bare u hu hkind }

end Offspring

/-! ## The tree with its comments -/

section

variable {s s' : Store} {roots roots' : List Slot} {all ids ids' ks old made copied : List TokenId}

/-- Following all links, one finds what is found through children alone, and what is found from
the comments of those tokens. -/
theorem Spans.with_comments (h : Spans Cell.children s roots ids)
    (hks : Spans Cell.links s (ids.flatMap fun u => (s.cell u).comments) ks) :
    ∃ all, Spans Cell.links s roots all ∧ all ~ ids ++ ks := by
  induction h generalizing ks with
  | nil =>
      cases hks
      exact ⟨[], .nil, .refl _⟩
  | absent _ ih =>
      obtain ⟨all, hall, hperm⟩ := ih hks
      exact ⟨all, hall.absent, hperm⟩
  | @token t slots below rest lt _ _ ihdown ihnext =>
      rw [List.flatMap_cons, List.flatMap_append] at hks
      obtain ⟨own, others, rfl, hown, hothers⟩ := hks.of_append
      obtain ⟨under, after, rfl, hunder, hafter⟩ := hothers.of_append
      obtain ⟨down, hdown, hpermdown⟩ := ihdown hunder
      obtain ⟨next, hnext, hpermnext⟩ := ihnext hafter
      refine ⟨t :: ((down ++ own) ++ next), .token lt (hdown.append hown) hnext, ?_⟩
      refine List.perm_iff_count.mpr fun u => ?_
      have hd := hpermdown.count_eq u
      have hx := hpermnext.count_eq u
      simp only [List.count_append, List.count_cons] at hd hx ⊢
      omega

/-- And what is found by all links is only that. -/
theorem Spans.comments (hids : Spans Cell.children s roots ids) (h : Spans Cell.links s roots all) :
    ∃ ks, Spans Cell.links s (ids.flatMap fun u => (s.cell u).comments) ks ∧ all ~ ids ++ ks := by
  induction hids generalizing all with
  | nil =>
      cases h
      exact ⟨[], .nil, .refl _⟩
  | absent _ ih =>
      cases h with
      | absent h => exact ih h
  | @token t slots below rest _ _ _ ihdown ihnext =>
      cases h with
      | @token _ _ under after _ hunder hafter =>
          obtain ⟨first, own, rfl, hfirst, hown⟩ := hunder.of_append
          obtain ⟨ks, hks, hperm⟩ := ihdown hfirst
          obtain ⟨ks', hks', hperm'⟩ := ihnext hafter
          refine ⟨own ++ (ks ++ ks'), ?_, ?_⟩
          · rw [List.flatMap_cons, List.flatMap_append]
            exact hown.append (hks.append hks')
          · refine List.perm_iff_count.mpr fun u => ?_
            have hd := hperm.count_eq u
            have hx := hperm'.count_eq u
            simp only [List.count_append, List.count_cons] at hd hx ⊢
            omega

/-- What is found through children in the end was there, or was made. -/
theorem Offspring.own_of_found (h : Offspring s old made copied s')
    (hids : Spans Cell.children s' roots' ids') (hroots : ∀ u, some u ∈ roots' → u ∈ old) :
    ∀ u ∈ ids', u ∈ old ∨ u ∈ made := by
  refine hids.forall_of_links (fun u hu => Or.inl (hroots u hu)) fun t _ ht u hu => ?_
  obtain ⟨v, hv, hvown⟩ := h.closed t ht (some u) hu
  cases hv
  exact hvown

/-- Where only old tokens were edited, and no token stands at two places among the children, none
stands at two places at all, and the comments that are found in the end are old ones and copies. -/
theorem Offspring.spans (h : Offspring s old made copied s')
    (hall : Spans Cell.links s roots all) (hn : all.Nodup) (hold : Spans Cell.children s roots old)
    (hframe : Frame s s' (· ∈ old)) (hids : Spans Cell.children s' roots' ids') (hn' : ids'.Nodup)
    (hroots : ∀ u, some u ∈ roots' → u ∈ old) :
    ∃ ks all' found, all ~ old ++ ks ∧ Spans Cell.links s' roots' all' ∧ all'.Nodup ∧
      all' ~ ids' ++ found ∧ found <+~ ks ++ copied := by
  obtain ⟨ks, hks, hperm⟩ := hold.comments hall
  obtain ⟨-, hnks, hapart⟩ := List.nodup_append.mp (hperm.nodup_iff.mp hn)
  have hown := h.own_of_found hids hroots
  -- the comments of the old tokens are as they were
  have hks' : Spans Cell.links s' (old.flatMap fun u => (s'.cell u).comments) ks := by
    rw [List.flatMap_congr fun u hu => hframe.comments u (h.lt u hu)]
    exact hframe.spans_links hks fun u hu hmem => hapart u hmem u hu rfl
  -- the comments of what is found are some of those that were counted
  have hsub : (ids'.flatMap fun u => (s'.cell u).comments) <+~
      (old ++ made).flatMap fun u => (s'.cell u).comments :=
    subperm_flatMap (List.subperm_of_subset hn' fun u hu => List.mem_append.mpr (hown u hu)) _
  have hboth := hks'.append h.comments
  rw [← List.flatMap_append] at hboth
  obtain ⟨found, hfound, hfoundsub⟩ := hboth.subperm hsub
  obtain ⟨all', hall', hperm'⟩ := hids.with_comments hfound
  refine ⟨ks, all', found, hperm, hall', ?_, hperm', hfoundsub⟩
  -- old comments, copies, and what is found through children are three sets apart
  refine hperm'.nodup_iff.mpr (List.nodup_append.mpr ⟨hn', ?_, ?_⟩)
  · refine nodup_of_subperm hfoundsub (List.nodup_append.mpr ⟨hnks, ?_, ?_⟩)
    · exact (List.nodup_append.mp (nodup_of_subperm h.new List.nodup_range')).2.1
    · intro u hu v hv huv
      have hnew := (Store.mem_fresh.mp (h.mem_fresh (Or.inr hv))).1
      exact absurd (huv ▸ hks.lt_size u hu) (Nat.not_lt_of_le hnew)
  · intro u hu v hv huv
    subst huv
    rcases List.mem_append.mp (hfoundsub.subset hv) with hv | hv
    · rcases hown u hu with hold' | hmade
      · exact hapart u hold' u hv rfl
      · have hnew := (Store.mem_fresh.mp (h.mem_fresh (Or.inl hmade))).1
        exact absurd (hks.lt_size u hv) (Nat.not_lt_of_le hnew)
    · exact h.not_copied (hown u hu) hv

/-- A comment is not found through children, where no token stands at two places. -/
theorem Spans.comment_apart (hold : Spans Cell.children s roots old)
    (hall : Spans Cell.links s roots all) (hn : all.Nodup) {u k : TokenId} (hu : u ∈ all)
    (hk : some k ∈ (s.cell u).comments) : k ∉ old := by
  obtain ⟨ks, hks, hperm⟩ := hold.comments hall
  have hmem : k ∈ ks := by
    rcases List.mem_append.mp (hperm.subset hu) with hu | hu
    · exact hks.root_mem (List.mem_flatMap.mpr ⟨u, hu, hk⟩)
    · exact hks.link_mem hu (List.mem_append_right _ hk)
  intro hkold
  exact (List.nodup_append.mp (hperm.nodup_iff.mp hn)).2.2 k hkold k hmem rfl

end

end ClassLift
