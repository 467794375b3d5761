import ClassLift.Proofs.Statement.Form
import ClassLift.Proofs.Token.Frame

set_option autoImplicit false

/-! # Super calls

In the body of a constructor, a direct statement that calls the super class on `this` becomes
a call of `super`: `convertSuperCall_run` gives the store after one statement. No other
statement is changed, and the tokens found from the statements are those found before, without
the function called and without `this`, and one new token for every call
(`convertSuperCalls_run`).
-/

namespace ClassLift

open List

namespace Candidate

variable {s s' : Store} {superClass slot : Slot} {statements : List Slot} {ids : List TokenId}

/-- A super call calls the member `call` of something that is written as the super class, with `this`
as its first argument. -/
theorem superCall_eq_some_iff {callee arguments : Slot} :
    superCall? s superClass slot = some (callee, arguments) ↔
      s.children slot = [callee, arguments] ∧ s.hasKind Kind.call slot = true ∧
      (∃ object, s.memberNamed? "call" callee = some object ∧ s.alike object superClass = true) ∧
      s.hasKind Kind.arguments arguments = true ∧
      ∃ first rest, s.children arguments = first :: rest ∧ s.isThis first = true := by
  constructor
  · intro h
    unfold superCall? at h
    split at h
    case h_2 => cases h
    rename_i callee' arguments' hchildren
    split at h
    case h_2 => cases h
    rename_i object hobject
    split at h
    case isFalse => cases h
    rename_i htest
    cases h
    simp only [Bool.and_eq_true] at htest
    obtain ⟨⟨⟨hcall, halike⟩, hlist⟩, hthis⟩ := htest
    refine ⟨hchildren, hcall, ⟨object, hobject, halike⟩, hlist, ?_⟩
    cases hargs : s.children arguments with
    | nil =>
        rw [hargs] at hthis
        cases hthis
    | cons first rest =>
        rw [hargs] at hthis
        exact ⟨first, rest, rfl, hthis⟩
  · rintro ⟨hchildren, hcall, ⟨object, hobject, halike⟩, hlist, first, rest, hargs, hthis⟩
    simp only [superCall?, hchildren, hobject, hcall, halike, hlist, hargs, List.head?_cons,
      Option.map_some, Option.getD_some, hthis, Bool.and_self, if_true]

/-- The parts of a super call that are changed are tokens. -/
theorem superCall_eq_some {callee arguments : Slot}
    (h : superCall? s superClass slot = some (callee, arguments)) :
    ∃ t k a first rest, slot = some t ∧ callee = some k ∧ arguments = some a ∧
      s.hasKind Kind.call slot = true ∧ s.hasKind Kind.arguments arguments = true ∧
      (s.cell t).children = [callee, arguments] ∧ (s.cell a).children = first :: rest := by
  obtain ⟨hchildren, hcall, ⟨object, hobject, -⟩, harguments, first, rest, hargs, -⟩ :=
    superCall_eq_some_iff.mp h
  obtain ⟨t, rfl, -⟩ := Store.exists_token_of_hasKind hcall
  obtain ⟨a, rfl, -⟩ := Store.exists_token_of_hasKind harguments
  obtain ⟨attr, hmember, -⟩ := Store.memberNamed_eq_some hobject
  have hpoint := (Store.memberParts_eq_some hmember).1
  obtain ⟨k, rfl, -⟩ := Store.exists_token_of_hasKind (Store.hasKind_of_isToken hpoint)
  exact ⟨t, k, a, first, rest, rfl, rfl, rfl, hcall, harguments, hchildren, hargs⟩

/-- The store in which the call `t` with the argument list `a` calls the new token `word`, with
one argument less. -/
def withSuper (s : Store) (t a : TokenId) (word : Cell) : Store :=
  let s₁ := s.push word
  let s₂ := s₁.set t { s₁.cell t with children := (s₁.cell t).children.set 0 (some s.size) }
  s₂.set a { s₂.cell a with children := (s₂.cell a).children.drop 1 }

theorem withSuper_size (s : Store) (t a : TokenId) (word : Cell) :
    (withSuper s t a word).size = s.size + 1 := by
  simp only [withSuper, Store.size_set, Store.size_push]

/-- The cells of the store after one call is converted. -/
theorem withSuper_cells {t a : TokenId} (word : Cell) (ht : t < s.size) (ha : a < s.size)
    (hta : t ≠ a) :
    (withSuper s t a word).cell t =
        { s.cell t with children := (s.cell t).children.set 0 (some s.size) } ∧
      (withSuper s t a word).cell a = { s.cell a with children := (s.cell a).children.drop 1 } ∧
      (withSuper s t a word).cell s.size = word ∧
      ∀ u < s.size, u ≠ t → u ≠ a → (withSuper s t a word).cell u = s.cell u := by
  have hpush := s.size_lt_push word
  refine ⟨?_, ?_, ?_, fun u hu hut hua => ?_⟩
  · simp only [withSuper]
    rw [Store.cell_set_ne _ _ _ _ hta, Store.cell_set_eq _ _ _ (Nat.lt_trans ht hpush),
      Store.cell_push_lt s word t ht]
  · simp only [withSuper]
    rw [Store.cell_set_eq _ _ _ (by rw [Store.size_set]; exact Nat.lt_trans ha hpush),
      Store.cell_set_ne _ _ _ _ hta.symm, Store.cell_push_lt s word a ha]
  · simp only [withSuper]
    rw [Store.cell_set_ne _ _ _ _ (Nat.ne_of_gt ha), Store.cell_set_ne _ _ _ _ (Nat.ne_of_gt ht),
      Store.cell_push_eq]
  · simp only [withSuper]
    rw [Store.cell_set_ne _ _ _ _ hua, Store.cell_set_ne _ _ _ _ hut, Store.cell_push_lt s word u hu]

theorem convertSuperCall_of_none (h : superCall? s superClass slot = none) :
    (convertSuperCall superClass slot).run.run s = (.ok (), s) := by
  unfold convertSuperCall
  rw [run_run_bind_of_ok (run_run_get s), h]
  rfl

theorem convertSuperCall_of_some {t k a : TokenId}
    (h : superCall? s superClass (some t) = some (some k, some a)) :
    (convertSuperCall superClass (some t)).run.run s =
      (.ok (), withSuper s t a
        (.fresh Kind.keyword "super" (s.cell k).label.line (s.cell k).label.column [])) := by
  unfold convertSuperCall
  rw [run_run_bind_of_ok (run_run_get s), h]
  rfl

/-- A call or an argument list among the given tokens. -/
def SuperPart (s : Store) (ids : List TokenId) (u : TokenId) : Prop :=
  u ∈ ids ∧ (s.hasKind Kind.call (some u) = true ∨ s.hasKind Kind.arguments (some u) = true)

theorem withSuper_frame {t a : TokenId} (word : Cell) (hword : word.label.kind = Kind.keyword)
    (hempty : word.children = []) (ht : SuperPart s ids t) (ha : SuperPart s ids a)
    (htlt : t < s.size) (halt : a < s.size) :
    Frame s (withSuper s t a word) (SuperPart s ids) := by
  have hpush := s.size_lt_push word
  have hcell : (s.push word).IsWord s.size := by
    rw [Store.IsWord, Store.cell_push_eq]
    exact ⟨hword, hempty⟩
  have hcall := Frame.alters (Frame.push s word) (Store.Alters.set (Nat.lt_trans htlt hpush)
    (((s.push word).cell t).children.set 0 (some s.size))) htlt (by
      intro v hv
      rcases List.mem_or_eq_of_mem_set hv with hv | rfl
      · exact Or.inl hv
      · exact Or.inr
          ⟨s.size, Store.mem_fresh.mpr ⟨Nat.le_refl _, hpush⟩, rfl, Or.inl hcell⟩)
  refine (hcall.alters (Store.Alters.set ?_ _) halt
    fun v hv => Or.inl (List.mem_of_mem_drop hv)).mono ?_
  · rw [Store.size_set]
    exact Nat.lt_trans halt hpush
  · rintro u - ((hu | rfl) | rfl)
    · exact hu.elim
    · exact ht
    · exact ha

/-- After the change, the call has the tokens found before, without the function that was
called and the first argument, and the new one. -/
theorem withSuper_spans {t k a : TokenId} {first : Slot} {rest : List Slot} (word : Cell)
    (hword : word.children = []) (hcall : (s.cell t).children = [some k, some a])
    (hargs : (s.cell a).children = first :: rest) (h : Spans Cell.children s [some t] ids)
    (hn : ids.Nodup) :
    ∃ ids', Spans Cell.children (withSuper s t a word) [some t] ids' ∧
      ids' <+~ ids ++ s.fresh (withSuper s t a word) := by
  obtain ⟨ht, below, rfl, hbelow⟩ := h.of_singleton
  rw [hcall] at hbelow
  obtain ⟨callee, others, rfl, -, hothers⟩ := hbelow.of_cons
  obtain ⟨ha, arguments, rfl, harguments⟩ := hothers.of_singleton
  rw [hargs] at harguments
  obtain ⟨this, kept, rfl, -, hkept⟩ := harguments.of_cons
  -- no token is found twice, so the call and its arguments are apart from what is kept
  have hta : t ≠ a := by
    rintro rfl
    simp at hn
  have htkept : t ∉ kept := by
    intro hmem
    simp [hmem] at hn
  have hakept : a ∉ kept := by
    have harest := (List.nodup_append.mp (List.nodup_cons.mp hn).2).2.1
    exact fun hmem => (List.nodup_cons.mp harest).1 (List.mem_append_right _ hmem)
  have hsize : (withSuper s t a word).size = s.size + 1 := withSuper_size ..
  obtain ⟨hcellt, hcella, hcellw, hcell⟩ := withSuper_cells word ht ha hta
  have hrest : Spans Cell.children (withSuper s t a word) rest kept := by
    refine hkept.frame (by rw [hsize]; exact Nat.le_succ _) fun u hu => ?_
    rw [hcell u (hkept.lt_size u hu) (fun h => htkept (h ▸ hu)) fun h => hakept (h ▸ hu)]
  refine ⟨t :: (s.size :: a :: kept), ?_, ?_⟩
  · refine .singleton (by rw [hsize]; exact Nat.lt_succ_of_lt ht) ?_
    rw [hcellt, hcall]
    have hw : Spans Cell.children (withSuper s t a word) [some s.size] [s.size] := by
      refine .singleton (by rw [hsize]; exact Nat.lt_succ_self _) ?_
      rw [hcellw, hword]
      exact .nil
    have ha' : Spans Cell.children (withSuper s t a word) [some a] (a :: kept) := by
      refine .singleton (by rw [hsize]; exact Nat.lt_succ_of_lt ha) ?_
      rw [hcella, hargs]
      exact hrest
    exact hw.append ha'
  -- the function that was called and `this` are no longer found, and the word is new
  · have hfresh : s.fresh (withSuper s t a word) = [s.size] := by
      rw [Store.fresh, hsize, Nat.add_sub_cancel_left]
      rfl
    rw [hfresh, List.cons_append, List.subperm_cons]
    have hperm : [s.size] ++ (a :: kept) ~ (a :: kept) ++ [s.size] := List.perm_append_comm
    refine hperm.subperm.trans ?_
    refine List.Subperm.append (Sublist.subperm ?_) (.refl _)
    refine Sublist.trans ?_ (List.sublist_append_right callee _)
    exact (List.sublist_append_right this kept).cons_cons a

/-- The conversion of a statement succeeds. It edits calls and argument lists that are found from
the statement. -/
theorem convertSuperCall_run (superClass : Slot) (h : Spans Cell.children s [slot] ids)
    (hn : ids.Nodup) :
    ∃ s', (convertSuperCall superClass slot).run.run s = (.ok (), s') ∧
      Frame s s' (SuperPart s ids) ∧
      ∃ ids', Spans Cell.children s' [slot] ids' ∧ ids' <+~ ids ++ s.fresh s' := by
  cases hcall : superCall? s superClass slot with
  | none =>
      refine ⟨s, convertSuperCall_of_none hcall, .refl _ _, ids, h, ?_⟩
      rw [Store.fresh_self, List.append_nil]
  | some call =>
      obtain ⟨callee, arguments⟩ := call
      obtain ⟨t, k, a, arg, args, rfl, rfl, rfl, hkind, hkinda, hc, hargs⟩ :=
        superCall_eq_some hcall
      have ht : t ∈ ids := h.root_mem (by simp)
      have ha : a ∈ ids := h.link_mem ht (by rw [hc]; simp)
      exact ⟨_, convertSuperCall_of_some hcall,
        withSuper_frame _ rfl rfl ⟨ht, Or.inl hkind⟩ ⟨ha, Or.inr hkinda⟩ (h.lt_size t ht)
          (h.lt_size a ha),
        withSuper_spans _ rfl hc hargs h hn⟩

/-- The conversion of the super calls among the statements succeeds. It edits calls and
argument lists that are found from the statements. -/
theorem convertSuperCalls_run (superClass : Slot) (h : Spans Cell.children s statements ids)
    (hn : ids.Nodup) :
    ∃ s', (statements.forM (convertSuperCall superClass)).run.run s = (.ok (), s') ∧
      Frame s s' (SuperPart s ids) ∧
      ∃ ids', Spans Cell.children s' statements ids' ∧ ids' <+~ ids ++ s.fresh s' := by
  induction statements generalizing s ids with
  | nil =>
      refine ⟨s, rfl, .refl _ _, ids, h, ?_⟩
      rw [Store.fresh_self, List.append_nil]
  | cons slot statements ih =>
      obtain ⟨first, rest, rfl, hfirst, hrest⟩ := h.of_cons
      obtain ⟨hnfirst, hnrest, hdisjoint⟩ := List.nodup_append.mp hn
      obtain ⟨s₁, hrun, hframe, first', hfirst', hsub⟩ :=
        convertSuperCall_run superClass hfirst hnfirst
      -- the rest is not edited with the head
      have hrest₁ : Spans Cell.children s₁ statements rest :=
        hframe.spans hrest fun u hu hpart => hdisjoint u hpart.1 u hu rfl
      obtain ⟨s₂, hrun₂, hframe₂, rest', hrest', hsub'⟩ := ih hrest₁ hnrest
      have hkinds : ∀ u ∈ rest, SuperPart s₁ rest u → SuperPart s (first ++ rest) u := by
        rintro u hu ⟨-, hkind⟩
        have hlt := hrest.lt_size u hu
        rw [hframe.hasKind _ hlt, hframe.hasKind _ hlt] at hkind
        exact ⟨List.mem_append_right _ hu, hkind⟩
      have hframe₂' : Frame s₁ s₂ (SuperPart s (first ++ rest)) :=
        hframe₂.mono fun u _ hu => hkinds u hu.1 hu
      -- nor is the head with the rest
      have hfirst₂ : Spans Cell.children s₂ [slot] first' := by
        refine hframe₂.spans hfirst' fun u hu hpart => ?_
        rcases List.mem_append.mp (hsub.subset hu) with hu | hu
        · exact hdisjoint u hu u hpart.1 rfl
        · exact absurd (hrest.lt_size u hpart.1) (Nat.not_lt_of_le (Store.mem_fresh.mp hu).1)
      refine ⟨s₂, ?_, ?_, first' ++ rest', hfirst₂.append hrest', ?_⟩
      · show (convertSuperCall superClass slot >>= fun _ =>
          statements.forM (convertSuperCall superClass)).run.run s = _
        rw [run_run_bind_of_ok hrun, hrun₂]
      · refine (hframe.mono fun u _ hu => ⟨List.mem_append_left _ hu.1, hu.2⟩).trans hframe₂' ?_
        exact fun u hu hpart => absurd (h.lt_size u hpart.1) (Nat.not_lt_of_le hu)
      · rw [Store.fresh_append hframe.size_le hframe₂.size_le]
        exact (hsub.append hsub').trans (perm_exchange first _ rest _).subperm

end Candidate

end ClassLift
