import ClassLift.Proofs.Token.Frame

set_option autoImplicit false

/-! # Whole trees

Below a token that is *whole*, children and comments come to an end and no slot is empty. This is
all that a copy needs (`Edit.copyComments_of_annotated`), it holds of every token of an unshared tree
without gaps (`Spans.whole`), and new tokens do not change it (`Store.Whole.frame`).
-/

namespace ClassLift

/-- No slot is empty at the token and below it, comments included, and there are at most so many
tokens on a way down. -/
inductive Store.Whole (s : Store) : Nat → TokenId → Prop where
  | token {n : Nat} {t : TokenId} (lt : t < s.size) (present : none ∉ (s.cell t).links)
      (below : ∀ u, some u ∈ (s.cell t).links → Whole s n u) : Whole s (n + 1) t

variable {s s' : Store} {roots slots : List Slot} {ids : List TokenId} {t : TokenId} {n m : Nat}

namespace Store.Whole

theorem lt_size (h : s.Whole n t) : t < s.size := by
  cases h with
  | token lt _ _ => exact lt

theorem present (h : s.Whole n t) : none ∉ (s.cell t).links := by
  cases h with
  | token _ present _ => exact present

theorem mono (h : s.Whole n t) (hm : n ≤ m) : s.Whole m t := by
  induction h generalizing m with
  | token lt present _ ih =>
      obtain ⟨m, rfl⟩ : ∃ k, m = k + 1 := ⟨m - 1, by omega⟩
      exact .token lt present fun u hu => ih u hu (by omega)

/-- The tokens linked to a whole token are whole, at a depth of one token less. -/
theorem linked (h : s.Whole (n + 1) t) {slot : Slot} (hslot : slot ∈ (s.cell t).links) :
    Stands (s.Whole n) slot := by
  obtain ⟨u, rfl⟩ : ∃ u, slot = some u :=
    Option.ne_none_iff_exists'.mp fun he => h.present (he ▸ hslot)
  cases h with
  | token _ _ below => exact ⟨u, rfl, below u hslot⟩

theorem link (h : s.Whole n t) {slot : Slot} (hslot : slot ∈ (s.cell t).links) :
    Stands (s.Whole n) slot := by
  cases n with
  | zero => cases h
  | succ n =>
      obtain ⟨u, rfl, hu⟩ := h.linked hslot
      exact ⟨u, rfl, hu.mono (Nat.le_succ n)⟩

/-- New tokens do not make a difference. -/
theorem frame (h : s.Whole n t) (hf : Frame s s' fun _ => False) : s'.Whole n t := by
  induction h with
  | token lt present _ ih =>
      have hcell := hf.cell lt id
      refine .token (Nat.lt_of_lt_of_le lt hf.size_le) (by rwa [hcell]) fun u hu => ih u ?_
      rwa [hcell] at hu

/-- Below a whole token the ways come to an end. -/
theorem spans (h : s.Whole n t) : ∃ ids, Spans Cell.links s [some t] ids := by
  induction h with
  | @token n t lt present _ ih =>
      have hall : ∀ slots : List Slot, (∀ slot ∈ slots, slot ∈ (s.cell t).links) →
          ∃ ids, Spans Cell.links s slots ids := by
        intro slots
        induction slots with
        | nil => exact fun _ => ⟨[], .nil⟩
        | cons slot slots ihs =>
            intro hslots
            obtain ⟨rest, hrest⟩ := ihs fun x hx => hslots x (List.mem_cons_of_mem _ hx)
            have hslot := hslots slot List.mem_cons_self
            obtain ⟨u, rfl⟩ : ∃ u, slot = some u :=
              Option.ne_none_iff_exists'.mp fun he => present (he ▸ hslot)
            obtain ⟨first, hfirst⟩ := ih u hslot
            exact ⟨first ++ rest, hfirst.append hrest⟩
      obtain ⟨below, hbelow⟩ := hall _ fun _ hslot => hslot
      exact ⟨t :: below, .singleton lt hbelow⟩

end Store.Whole

/-- In an unshared tree without gaps every token is whole. -/
theorem Spans.whole (h : Spans Cell.links s roots ids)
    (hpresent : ∀ u ∈ ids, none ∉ (s.cell u).links) : ∀ t ∈ ids, s.Whole ids.length t := by
  have hroots : ∀ {roots : List Slot} {ids : List TokenId}, Spans Cell.links s roots ids →
      (∀ u ∈ ids, none ∉ (s.cell u).links) → ∀ u, some u ∈ roots → s.Whole ids.length u := by
    intro roots ids h
    induction h with
    | nil => exact fun _ u hu => absurd hu List.not_mem_nil
    | absent _ ih =>
        intro hpresent u hu
        exact ih hpresent u ((List.mem_cons.mp hu).resolve_left (by simp))
    | @token t slots below ids lt _ _ ihdown ihnext =>
        intro hpresent u hu
        rw [List.length_cons, List.length_append]
        rcases List.mem_cons.mp hu with he | hu
        · cases he
          refine .token lt (hpresent t List.mem_cons_self) fun v hv => ?_
          have hbelow : ∀ w ∈ below, none ∉ (s.cell w).links := fun w hw =>
            hpresent w (List.mem_cons_of_mem _ (List.mem_append_left _ hw))
          exact (ihdown hbelow v hv).mono (by omega)
        · have hnext : ∀ w ∈ ids, none ∉ (s.cell w).links := fun w hw =>
            hpresent w (List.mem_cons_of_mem _ (List.mem_append_right _ hw))
          exact (ihnext hnext u hu).mono (by omega)
  intro t ht
  obtain ⟨below, hbelow, hpart⟩ := h.below_mem ht
  have hwhole := hroots hbelow (fun u hu => hpresent u (hpart.subset hu)) t List.mem_cons_self
  exact hwhole.mono hpart.length_le

/-! ## Copies -/

/-- In the slot stands a token whose comments are whole. -/
def Store.Annotated (s : Store) (slot : Slot) : Prop :=
  Stands (fun t => t < s.size ∧ ∀ comment ∈ (s.cell t).comments, Stands (s.Whole s.size) comment) slot

theorem Store.Annotated.frame {slot : Slot} (h : s.Annotated slot) (hf : Frame s s' fun _ => False) :
    s'.Annotated slot := by
  obtain ⟨t, rfl, ht, hcomments⟩ := h
  refine ⟨t, rfl, Nat.lt_of_lt_of_le ht hf.size_le, fun comment hcomment => ?_⟩
  rw [hf.comments t ht] at hcomment
  obtain ⟨u, rfl, hu⟩ := hcomments comment hcomment
  exact ⟨u, rfl, (hu.frame hf).mono hf.size_le⟩

theorem Store.Whole.annotated (h : s.Whole s.size t) : s.Annotated (some t) :=
  ⟨t, rfl, h.lt_size, fun _ hcomment => h.link (List.mem_append_right _ hcomment)⟩

/-- The tree of a whole token is whole. -/
theorem Store.Whole.fullTree (h : s.Whole n t) :
    (s.fullTreeTo n (some t)).wholeWithComments = true := by
  induction h with
  | @token n t lt present _ ih =>
      have hall : ∀ slots : List Slot, (∀ slot ∈ slots, slot ∈ (s.cell t).links) →
          Tree.allWholeWithComments (slots.map (s.fullTreeTo n)) = true := by
        intro slots
        induction slots with
        | nil => exact fun _ => rfl
        | cons slot slots ihs =>
            intro hslots
            have hslot := hslots slot List.mem_cons_self
            obtain ⟨u, rfl⟩ : ∃ u, slot = some u :=
              Option.ne_none_iff_exists'.mp fun he => present (he ▸ hslot)
            rw [List.map_cons, Tree.allWholeWithComments, ih u hslot,
              ihs fun slot hslot => hslots slot (List.mem_cons_of_mem _ hslot)]
            rfl
      rw [Store.fullTreeTo, Tree.wholeWithComments,
        hall _ fun slot hslot => List.mem_append_left _ hslot,
        hall _ fun slot hslot => List.mem_append_right _ hslot]
      rfl

namespace Edit

theorem clone_of_whole (h : s.Whole s.size t) :
    ∃ copy s', (clone (some t)).run.run s = (.ok copy, s') := by
  have hwhole : (s.fullTree (some t)).wholeWithComments = true := h.fullTree
  unfold clone
  rw [run_run_bind_of_ok (run_run_get s)]
  dsimp only
  rw [if_pos hwhole, run_run_bind_of_ok (run_run_modifyGet _ s)]
  cases htree : s.fullTree (some t) with
  | absent =>
      rw [htree] at hwhole
      cases hwhole
  | node id label cs ks => exact ⟨_, _, rfl⟩

theorem mapM_clone_of_whole (h : ∀ slot ∈ slots, Stands (s.Whole s.size) slot) :
    ∃ copies s', (slots.mapM fun comment => some <$> clone comment : Edit (List Slot)).run.run s =
      (.ok copies, s') := by
  induction slots generalizing s with
  | nil => exact ⟨[], s, rfl⟩
  | cons slot slots ih =>
      obtain ⟨t, rfl, ht⟩ := h slot List.mem_cons_self
      obtain ⟨copy, s₁, hcopy⟩ := clone_of_whole ht
      obtain ⟨hframe, -⟩ := clone_eq_ok hcopy
      obtain ⟨copies, s₂, hcopies⟩ := ih (s := s₁) fun slot hslot => by
        obtain ⟨u, rfl, hu⟩ := h slot (List.mem_cons_of_mem _ hslot)
        exact ⟨u, rfl, (hu.frame hframe).mono hframe.size_le⟩
      refine ⟨some copy :: copies, s₂, ?_⟩
      have hhead : (some <$> clone (some t) : Edit Slot).run.run s = (.ok (some copy), s₁) := by
        rw [map_eq_pure_bind, run_run_bind_of_ok hcopy]
        rfl
      rw [List.mapM_cons, run_run_bind_of_ok hhead, run_run_bind_of_ok hcopies]
      rfl

/-- The comments of tokens whose comments are whole can be copied. -/
theorem copyComments_of_annotated (h : ∀ slot ∈ slots, s.Annotated slot) :
    ∃ copies s', (copyComments slots).run.run s = (.ok copies, s') := by
  induction slots generalizing s with
  | nil => exact ⟨[], s, rfl⟩
  | cons slot slots ih =>
      obtain ⟨t, rfl, -, hcomments⟩ := h slot List.mem_cons_self
      obtain ⟨first, s₁, hfirst⟩ := mapM_clone_of_whole hcomments
      obtain ⟨hframe, -⟩ := mapM_clone_eq_ok hfirst
      obtain ⟨others, s₂, hothers⟩ := ih fun slot hslot =>
        (h slot (List.mem_cons_of_mem _ hslot)).frame hframe
      refine ⟨first ++ others, s₂, ?_⟩
      unfold copyComments
      rw [run_run_bind_of_ok (run_run_cell s t), run_run_bind_of_ok hfirst,
        run_run_bind_of_ok hothers]
      rfl

end Edit

end ClassLift
