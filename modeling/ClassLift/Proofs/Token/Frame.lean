import ClassLift.Proofs.Computation
import ClassLift.Proofs.Token.Spans

set_option autoImplicit false

/-! # What edits leave alone

No edit changes what a token says of itself, or its comments; and a list of children only
loses tokens, or gets new ones: statements, where the token holds statements, or else single
words. `Frame s s' edited` says so of the stores before and after some edits, and that the
children of all tokens but those in `edited` are the same.

The edits are described one by one: new tokens, copies of comments, and the replacement of a
statement.
-/

namespace ClassLift

open List

theorem Store.size_lt_push (s : Store) (c : Cell) : s.size < (s.push c).size := by
  rw [Store.size_push]
  exact Nat.lt_succ_self _

/-- The later store differs from the earlier one in the children of one token. -/
structure Store.Alters (s s' : Store) (t : TokenId) (children : List Slot) : Prop where
  size : s'.size = s.size
  own : s'.cell t = { s.cell t with children }
  others : ∀ u, u ≠ t → s'.cell u = s.cell u

namespace Store.Alters

variable {s s' s'' : Store} {t : TokenId} {children children' : List Slot}

theorem set (ht : t < s.size) (children : List Slot) :
    s.Alters (s.set t { s.cell t with children }) t children where
  size := Store.size_set _ _ _
  own := Store.cell_set_eq _ _ _ ht
  others _ hu := Store.cell_set_ne _ _ _ _ hu

theorem trans (h : s.Alters s' t children) (h' : s'.Alters s'' t children') :
    s.Alters s'' t children' where
  size := h'.size.trans h.size
  own := by rw [h'.own, h.own]
  others u hu := by rw [h'.others u hu, h.others u hu]

/-- The tokens that are new afterwards are those that were new before. -/
theorem fresh_eq (h : s'.Alters s'' t children) (s : Store) : s.fresh s'' = s.fresh s' := by
  rw [Store.fresh, Store.fresh, h.size]

end Store.Alters

/-- A word of the language, with nothing below it. -/
def Store.IsWord (s : Store) (t : TokenId) : Prop :=
  (s.cell t).label.kind = Kind.keyword ∧ (s.cell t).children = []

/-- A token with statements as its children: a source file, a block, or an export. -/
def Store.HoldsStatements (s : Store) (t : TokenId) : Prop :=
  (s.cell t).label.kind ∈ [Kind.sourceFile, Kind.block, Kind.exportDecl]

/-- The later store has the tokens of the earlier one, and only the children of tokens in
`edited` are different. -/
structure Frame (s s' : Store) (edited : TokenId → Prop) : Prop where
  size_le : s.size ≤ s'.size
  label : ∀ t < s.size, (s'.cell t).label = (s.cell t).label
  comments : ∀ t < s.size, (s'.cell t).comments = (s.cell t).comments
  children : ∀ t < s.size, ¬ edited t → (s'.cell t).children = (s.cell t).children
  /-- What is a child now was one before, or is new. -/
  kept : ∀ t < s.size, ∀ slot ∈ (s'.cell t).children,
    slot ∈ (s.cell t).children ∨
      ∃ u ∈ s.fresh s', slot = some u ∧ (s'.IsWord u ∨ s.HoldsStatements t)

namespace Frame

variable {s s' s'' : Store} {edited edited' : TokenId → Prop} {t : TokenId}

theorem refl (s : Store) (edited : TokenId → Prop) : Frame s s edited where
  size_le := Nat.le_refl _
  label _ _ := rfl
  comments _ _ := rfl
  children _ _ _ := rfl
  kept _ _ _ h := Or.inl h

theorem mono (h : Frame s s' edited) (he : ∀ t < s.size, edited t → edited' t) :
    Frame s s' edited' where
  size_le := h.size_le
  label := h.label
  comments := h.comments
  children t ht hn := h.children t ht fun hd => hn (he t ht hd)
  kept := h.kept

theorem mem_fresh_right (h : Frame s s' edited) (ht : t ∈ s'.fresh s'') : t ∈ s.fresh s'' := by
  obtain ⟨hle, hlt⟩ := Store.mem_fresh.mp ht
  exact Store.mem_fresh.mpr ⟨Nat.le_trans h.size_le hle, hlt⟩

theorem cell (h : Frame s s' edited) (ht : t < s.size) (hn : ¬ edited t) :
    s'.cell t = s.cell t := by
  have hl := h.label t ht
  have hc := h.children t ht hn
  have hk := h.comments t ht
  rcases hs : s.cell t with ⟨l, cs, ks⟩
  rcases hs' : s'.cell t with ⟨l', cs', ks'⟩
  rw [hs, hs'] at hl hc hk
  cases hl
  cases hc
  cases hk
  rfl

/-- New tokens that are not edited are as they were. -/
theorem cell_fresh (h : Frame s' s'' edited) (hn : ∀ u, s.size ≤ u → ¬ edited u) :
    ∀ u ∈ s.fresh s', s''.cell u = s'.cell u := fun u hu =>
  h.cell (Store.mem_fresh.mp hu).2 (hn u (Store.mem_fresh.mp hu).1)

theorem holdsStatements (h : Frame s s' edited) (ht : t < s.size) (hs : s'.HoldsStatements t) :
    s.HoldsStatements t := by
  rwa [Store.HoldsStatements, h.label t ht] at hs

/-- Edits that do not edit the tokens made before. -/
theorem trans (h : Frame s s' edited) (h' : Frame s' s'' edited)
    (hnew : ∀ u, s.size ≤ u → ¬ edited u) : Frame s s'' edited where
  size_le := Nat.le_trans h.size_le h'.size_le
  label t ht := by
    rw [h'.label t (Nat.lt_of_lt_of_le ht h.size_le), h.label t ht]
  comments t ht := by
    rw [h'.comments t (Nat.lt_of_lt_of_le ht h.size_le), h.comments t ht]
  children t ht hn := by
    rw [h'.children t (Nat.lt_of_lt_of_le ht h.size_le) hn, h.children t ht hn]
  kept t ht slot hslot := by
    rcases h'.kept t (Nat.lt_of_lt_of_le ht h.size_le) slot hslot with
      hslot | ⟨u, hu, rfl, hword⟩
    · rcases h.kept t ht slot hslot with hslot | ⟨u, hu, rfl, hword⟩
      · exact Or.inl hslot
      · refine Or.inr ⟨u, Store.mem_fresh_of_le h'.size_le hu, rfl, hword.imp (fun hword => ?_) id⟩
        rwa [Store.IsWord, h'.cell_fresh hnew u hu]
    · exact Or.inr ⟨u, h.mem_fresh_right hu, rfl, hword.imp id (h.holdsStatements ht)⟩

/-- Afterwards only new tokens are made. -/
theorem extend (h : Frame s s' edited) (h' : Frame s' s'' fun _ => False) : Frame s s'' edited := by
  have hold : Frame s s' (fun u => edited u ∧ u < s.size) := h.mono fun t ht he => ⟨he, ht⟩
  refine (hold.trans (h'.mono fun _ _ => False.elim) fun u hu he => ?_).mono fun _ _ he => he.1
  exact absurd he.2 (Nat.not_lt_of_le hu)

theorem hasKind (h : Frame s s' edited) (kind : Kind) (ht : t < s.size) :
    s'.hasKind kind (some t) = s.hasKind kind (some t) := by
  have hl := h.label t ht
  simp only [Store.hasKind, Store.label?, Option.map_some, hl]

/-- A new token changes nothing. -/
theorem push (s : Store) (c : Cell) : Frame s (s.push c) (fun _ => False) where
  size_le := Nat.le_of_lt (s.size_lt_push c)
  label t ht := by rw [Store.cell_push_lt s c t ht]
  comments t ht := by rw [Store.cell_push_lt s c t ht]
  children t ht _ := by rw [Store.cell_push_lt s c t ht]
  kept t ht slot hslot := by
    rw [Store.cell_push_lt s c t ht] at hslot
    exact Or.inl hslot

/-- The children of one more token are changed: some of them go, or new tokens come. -/
theorem alters (h : Frame s s' edited) {children : List Slot} (ha : s'.Alters s'' t children)
    (ht : t < s.size)
    (hc : ∀ slot ∈ children, slot ∈ (s'.cell t).children ∨
      ∃ u ∈ s.fresh s', slot = some u ∧ (s'.IsWord u ∨ s.HoldsStatements t)) :
    Frame s s'' (fun u => edited u ∨ u = t) where
  size_le := by
    rw [ha.size]
    exact h.size_le
  label u hu := by
    by_cases he : u = t
    · rw [he, ha.own, ← he]
      exact h.label u hu
    · rw [ha.others u he]
      exact h.label u hu
  comments u hu := by
    by_cases he : u = t
    · rw [he, ha.own, ← he]
      exact h.comments u hu
    · rw [ha.others u he]
      exact h.comments u hu
  children u hu hn := by
    obtain ⟨hedited, he⟩ := not_or.mp hn
    rw [ha.others u he]
    exact h.children u hu hedited
  kept u hu slot hslot := by
    rw [ha.fresh_eq s]
    -- the new tokens are none of the one that is changed
    have hword : ∀ v ∈ s.fresh s', s'.IsWord v → s''.IsWord v := by
      intro v hv hword
      rwa [Store.IsWord, ha.others v fun he => ?_]
      exact absurd ht (Nat.not_lt_of_le (he ▸ (Store.mem_fresh.mp hv).1))
    have hkept : slot ∈ (s.cell u).children ∨
        ∃ v ∈ s.fresh s', slot = some v ∧ (s'.IsWord v ∨ s.HoldsStatements u) := by
      by_cases he : u = t
      · subst he
        rw [ha.own] at hslot
        exact (hc slot hslot).elim (h.kept u hu slot) Or.inr
      · rw [ha.others u he] at hslot
        exact h.kept u hu slot hslot
    refine hkept.imp id ?_
    rintro ⟨v, hv, rfl, hholds⟩
    exact ⟨v, hv, rfl, hholds.imp (hword v hv) id⟩

/-- Tokens that are not edited are found as before. -/
theorem spans (h : Frame s s' edited) {roots : List Slot} {ids : List TokenId}
    (hs : Spans Cell.children s roots ids) (hn : ∀ u ∈ ids, ¬ edited u) :
    Spans Cell.children s' roots ids :=
  hs.frame h.size_le fun u hu => h.children u (hs.lt_size u hu) (hn u hu)

end Frame

/-! ## Steps of edits -/

namespace Edit

variable {s s' : Store}

theorem run_run_create (s : Store) (c : Cell) : (create c).run.run s = (.ok s.size, s.push c) := rfl

theorem run_run_cell (s : Store) (t : TokenId) :
    (cell (some t)).run.run s = (.ok (s.cell t), s) := rfl

theorem run_run_cell_none (s : Store) : (cell none).run.run s = (.error .absentToken, s) := rfl

theorem cell_eq_ok {slot : Slot} {c : Cell} (h : (cell slot).run.run s = (.ok c, s')) :
    ∃ t, slot = some t ∧ s.cell t = c ∧ s' = s := by
  cases slot with
  | none => cases h
  | some t =>
      cases h
      exact ⟨t, rfl, rfl, rfl⟩

theorem run_run_child {c : Cell} {n : Nat} {slot : Slot} (h : c.children[n]? = some slot) :
    (child c n).run.run s = (.ok slot, s) := by
  unfold child
  rw [h]
  rfl

/-- A run over a list, taken apart into the first run and the others. -/
theorem mapM_cons_eq_ok {α β : Type} {f : α → Edit β} {x : α} {xs : List α} {ys : List β}
    (h : ((x :: xs).mapM f).run.run s = (.ok ys, s')) :
    ∃ y s₁ others, (f x).run.run s = (.ok y, s₁) ∧ (xs.mapM f).run.run s₁ = (.ok others, s') ∧
      ys = y :: others := by
  rw [List.mapM_cons] at h
  obtain ⟨y, s₁, hfirst, h⟩ := run_run_bind_eq_ok.mp h
  obtain ⟨others, s₂, hothers, h⟩ := run_run_bind_eq_ok.mp h
  cases h
  exact ⟨y, s₁, others, hfirst, hothers, rfl⟩

/-! ## Copies of comments -/

mutual

theorem build_frame (s : Store) (t : Tree) : Frame s (s.build t).2 (fun _ => False) := by
  match t with
  | .absent => exact .refl _ _
  | .node _ label cs ks =>
      exact ((buildAll_frame s cs).extend (buildAll_frame _ ks)).extend (Frame.push _ _)

theorem buildAll_frame (s : Store) (ts : List Tree) : Frame s (s.buildAll ts).2 (fun _ => False) := by
  match ts with
  | [] => exact .refl _ _
  | t :: ts => exact (build_frame s t).extend (buildAll_frame _ ts)

end

/-- A copy is made of a tree without gaps, by forming that tree of new tokens. -/
theorem clone_eq_build {slot : Slot} {t : TokenId} (h : (clone slot).run.run s = (.ok t, s')) :
    (s.fullTree slot).wholeWithComments = true ∧ s.build (s.fullTree slot) = (some t, s') := by
  unfold clone at h
  rw [run_run_bind_of_ok (run_run_get s)] at h
  dsimp only at h
  split at h
  · rename_i hwhole
    rw [run_run_bind_of_ok (run_run_modifyGet _ s)] at h
    refine ⟨hwhole, ?_⟩
    generalize s.build (s.fullTree slot) = built at h
    obtain ⟨_ | u, s₁⟩ := built
    · cases h
    · cases h
      rfl
  · cases h

/-- A copy is a new token, and changes nothing else. -/
theorem clone_eq_ok {slot : Slot} {t : TokenId} (h : (clone slot).run.run s = (.ok t, s')) :
    Frame s s' (fun _ => False) ∧ t ∈ s.fresh s' := by
  obtain ⟨-, hbuild⟩ := clone_eq_build h
  have hframe := build_frame s (s.fullTree slot)
  rw [hbuild] at hframe
  refine ⟨hframe, ?_⟩
  cases htree : s.fullTree slot with
  | absent =>
      rw [htree] at hbuild
      cases hbuild
  | node id label cs ks =>
      rw [htree] at hbuild
      cases hbuild
      exact Store.mem_fresh.mpr
        ⟨((buildAll_frame s cs).extend (buildAll_frame _ ks)).size_le, Store.size_lt_push _ _⟩

theorem mapM_clone_cons_eq_ok {slot : Slot} {slots copies : List Slot}
    (h : ((slot :: slots).mapM fun comment => some <$> clone comment : Edit (List Slot)).run.run s =
      (.ok copies, s')) :
    ∃ t s₁ others, (clone slot).run.run s = (.ok t, s₁) ∧
      (slots.mapM fun comment => some <$> clone comment : Edit (List Slot)).run.run s₁ =
        (.ok others, s') ∧ copies = some t :: others := by
  obtain ⟨copy, s₁, others, hcopy, hothers, rfl⟩ := mapM_cons_eq_ok h
  rw [map_eq_pure_bind] at hcopy
  obtain ⟨t, s₂, hclone, hpure⟩ := run_run_bind_eq_ok.mp hcopy
  cases hpure
  exact ⟨t, s₁, others, hclone, hothers, rfl⟩

theorem copyComments_cons_eq_ok {slot : Slot} {slots copies : List Slot}
    (h : (copyComments (slot :: slots)).run.run s = (.ok copies, s')) :
    ∃ t s₁ first others, slot = some t ∧
      ((s.cell t).comments.mapM fun comment => some <$> clone comment : Edit (List Slot)).run.run s =
        (.ok first, s₁) ∧
      (copyComments slots).run.run s₁ = (.ok others, s') ∧ copies = first ++ others := by
  unfold copyComments at h
  obtain ⟨c, s₁, hcell, h⟩ := run_run_bind_eq_ok.mp h
  obtain ⟨t, rfl, rfl, rfl⟩ := cell_eq_ok hcell
  obtain ⟨first, s₂, hfirst, h⟩ := run_run_bind_eq_ok.mp h
  obtain ⟨others, s₃, hothers, h⟩ := run_run_bind_eq_ok.mp h
  cases h
  exact ⟨t, s₂, first, others, rfl, hfirst, hothers, rfl⟩

theorem mapM_clone_eq_ok {slots copies : List Slot}
    (h : (slots.mapM fun comment => some <$> clone comment : Edit (List Slot)).run.run s =
      (.ok copies, s')) :
    Frame s s' (fun _ => False) ∧ ∀ slot ∈ copies, ∃ u ∈ s.fresh s', slot = some u := by
  induction slots generalizing s copies with
  | nil =>
      cases h
      exact ⟨.refl _ _, by simp⟩
  | cons slot slots ih =>
      obtain ⟨t, s₁, others, hclone, hothers, rfl⟩ := mapM_clone_cons_eq_ok h
      obtain ⟨hframe, ht⟩ := clone_eq_ok hclone
      obtain ⟨hframe', hothers⟩ := ih hothers
      refine ⟨hframe.extend hframe', fun v hv => ?_⟩
      rcases List.mem_cons.mp hv with rfl | hv
      · exact ⟨t, Store.mem_fresh_of_le hframe'.size_le ht, rfl⟩
      · obtain ⟨u, hu, rfl⟩ := hothers v hv
        exact ⟨u, hframe.mem_fresh_right hu, rfl⟩

/-- Copies of comments are new tokens, and change nothing else. -/
theorem copyComments_eq_ok {slots copies : List Slot}
    (h : (copyComments slots).run.run s = (.ok copies, s')) :
    Frame s s' (fun _ => False) ∧ ∀ slot ∈ copies, ∃ u ∈ s.fresh s', slot = some u := by
  induction slots generalizing s copies with
  | nil =>
      cases h
      exact ⟨.refl _ _, by simp⟩
  | cons slot slots ih =>
      obtain ⟨t, s₁, first, others, rfl, hfirst, hothers, rfl⟩ := copyComments_cons_eq_ok h
      obtain ⟨hframe, hfirst⟩ := mapM_clone_eq_ok hfirst
      obtain ⟨hframe', hothers⟩ := ih hothers
      refine ⟨hframe.extend hframe', fun v hv => ?_⟩
      rcases List.mem_append.mp hv with hv | hv
      · obtain ⟨u, hu, rfl⟩ := hfirst v hv
        exact ⟨u, Store.mem_fresh_of_le hframe'.size_le hu, rfl⟩
      · obtain ⟨u, hu, rfl⟩ := hothers v hv
        exact ⟨u, hframe.mem_fresh_right hu, rfl⟩

/-! ## Replacing a statement -/

/-- Where the statement is among the children of the parent, it gives way to the new ones. -/
theorem replaceStatement_of_eq_some {parent : TokenId} {node : Slot} {new children : List Slot}
    (h : replaceFirst node new (s.cell parent).children = some children) :
    (replaceStatement (some parent) node new).run.run s =
      (.ok (), s.set parent { s.cell parent with children }) := by
  unfold replaceStatement
  rw [run_run_bind_of_ok (run_run_get s)]
  dsimp only
  rw [h]
  rfl

theorem replaceStatement_run {parent : TokenId} {node : Slot} {new children : List Slot}
    (hlt : parent < s.size)
    (h : replaceFirst node new (s.cell parent).children = some children) :
    ∃ s', (replaceStatement (some parent) node new).run.run s = (.ok (), s') ∧
      s.Alters s' parent children :=
  ⟨_, replaceStatement_of_eq_some h, .set hlt children⟩

theorem replaceStatement_eq_ok {parent node : Slot} {new : List Slot}
    (h : (replaceStatement parent node new).run.run s = (.ok (), s')) :
    ∃ p children, parent = some p ∧ replaceFirst node new (s.cell p).children = some children ∧
      s' = s.set p { s.cell p with children } := by
  unfold replaceStatement at h
  cases parent with
  | none =>
      obtain ⟨c, s₁, -, hthrow⟩ := run_run_bind_eq_ok.mp h
      cases hthrow
  | some p =>
      rw [run_run_bind_of_ok (run_run_get s)] at h
      dsimp only at h
      split at h
      · rename_i children hchildren
        cases h
        exact ⟨p, children, rfl, hchildren, rfl⟩
      · obtain ⟨c, s₁, -, hthrow⟩ := run_run_bind_eq_ok.mp h
        cases hthrow

theorem replaceFirst_of_not_mem {node : Slot} {new slots : List Slot} (h : node ∉ slots) :
    replaceFirst node new slots = none := by
  induction slots with
  | nil => rfl
  | cons slot slots ih =>
      have hne : slot ≠ node := fun he => h (he ▸ List.mem_cons_self)
      rw [replaceFirst, if_neg hne, ih fun hmem => h (List.mem_cons_of_mem _ hmem)]
      rfl

/-- A statement that does not stand in its parent is not replaced. -/
theorem replaceStatement_notFound {p t : TokenId} (h : some t ∉ (s.cell p).children) (new : List Slot) :
    (replaceStatement (some p) (some t) new).run.run s =
      (.error (.statement (s.cell t).label (.notFound (s.cell p).label.kind)), s) := by
  unfold replaceStatement
  rw [run_run_bind_of_ok (run_run_get s)]
  dsimp only
  rw [replaceFirst_of_not_mem h]
  rfl

/-- A slot that stands in a list once is replaced at its place. -/
theorem replaceFirst_of_count {node : Slot} {new slots : List Slot} (h : slots.count node = 1) :
    replaceFirst node new slots = some (slots.flatMap fun slot => if slot = node then new else [slot]) := by
  induction slots with
  | nil => cases h
  | cons slot slots ih =>
      unfold replaceFirst
      by_cases hs : slot = node
      · subst hs
        have hnot : slot ∉ slots := by
          rw [List.count_cons_self] at h
          exact List.count_eq_zero.mp (Nat.succ.inj h)
        have hrest : (slots.flatMap fun x => if x = slot then new else [x]) = slots := by
          rw [List.flatMap_congr (g := fun x => [x]) fun x hx => if_neg fun he : x = slot => hnot (he ▸ hx)]
          exact List.flatMap_singleton' slots
        rw [if_pos rfl, List.flatMap_cons, if_pos rfl, hrest]
      · rw [List.count_cons_of_ne hs] at h
        rw [if_neg hs, ih h, List.flatMap_cons, if_neg hs]
        rfl

/-- In a list without duplicates, exactly one slot is replaced. -/
theorem replaceFirst_of_mem {node : Slot} {new slots : List Slot} (hn : slots.Nodup)
    (h : node ∈ slots) :
    replaceFirst node new slots = some (slots.flatMap fun slot => if slot = node then new else [slot]) :=
  replaceFirst_of_count (by rw [hn.count, if_pos h])

/-- In a list without duplicates, one slot gives way to another. -/
theorem replaceFirst_singleton_of_mem {node new : Slot} {slots : List Slot} (hn : slots.Nodup)
    (h : node ∈ slots) :
    replaceFirst node [new] slots = some (slots.map fun slot => if slot = node then new else slot) := by
  rw [replaceFirst_of_mem hn h, List.map_eq_flatMap]
  refine congrArg some (List.flatMap_congr fun slot _ => ?_)
  by_cases hs : slot = node
  · rw [if_pos hs, if_pos hs]
  · rw [if_neg hs, if_neg hs]

end Edit

end ClassLift
