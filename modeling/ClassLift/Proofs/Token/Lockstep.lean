import ClassLift.Proofs.Token.Mirror

set_option autoImplicit false

/-! # Edits in mirrored stores

Two edits run in lockstep when, from stores that are a mirror, they come to stores that are a mirror
again, by a relation that has the pairs of the old one, and else pairs of new tokens
(`Edit.Lockstep`). This is said of runs that both succeed; whether an edit succeeds is another matter. The steps of edits are in lockstep where
they work on partners: a new token for each store makes one more pair, copies of comments make none,
and a statement and its partner are replaced at the same place.
-/

namespace ClassLift

open List

namespace Edit

variable {α α' β β' γ γ' : Type} {R R' : TokenId → TokenId → Prop} {s s' t t' : Store}
  {P : (TokenId → TokenId → Prop) → α → α' → Prop} {Q : (TokenId → TokenId → Prop) → β → β' → Prop}

/-- The stores grow, and the relation gets pairs of their new tokens. -/
structure Extends (R R' : TokenId → TokenId → Prop) (s s' t t' : Store) : Prop where
  old : ∀ u v, R u v → R' u v
  new : ∀ u v, R' u v → R u v ∨ s.size ≤ u ∧ s'.size ≤ v
  size : s.size ≤ t.size
  size' : s'.size ≤ t'.size

namespace Extends

theorem of_size (hsize : s.size ≤ t.size) (hsize' : s'.size ≤ t'.size) : Extends R R s s' t t' :=
  ⟨fun _ _ => id, fun _ _ => Or.inl, hsize, hsize'⟩

theorem refl (R : TokenId → TokenId → Prop) (s s' : Store) : Extends R R s s' s s' :=
  of_size (Nat.le_refl _) (Nat.le_refl _)

theorem trans {R'' : TokenId → TokenId → Prop} {u u' : Store} (h : Extends R R' s s' t t')
    (h' : Extends R' R'' t t' u u') : Extends R R'' s s' u u' where
  old v w hvw := h'.old v w (h.old v w hvw)
  new v w hvw := by
    rcases h'.new v w hvw with hvw | ⟨hv, hw⟩
    · exact h.new v w hvw
    · exact Or.inr ⟨Nat.le_trans h.size hv, Nat.le_trans h.size' hw⟩
  size := Nat.le_trans h.size h'.size
  size' := Nat.le_trans h.size' h'.size'

/-- One new token for each store. -/
theorem push (R : TokenId → TokenId → Prop) (s s' : Store) (c c' : Cell) :
    Extends R (Also R s.size s'.size) s s' (s.push c) (s'.push c') where
  old _ _ := Or.inl
  new := by
    rintro u v (huv | ⟨rfl, rfl⟩)
    · exact Or.inl huv
    · exact Or.inr ⟨Nat.le_refl _, Nat.le_refl _⟩
  size := Nat.le_of_lt (s.size_lt_push c)
  size' := Nat.le_of_lt (s'.size_lt_push c')

/-- Tokens of the old stores do not get partners. -/
theorem spares {a b : TokenId} (h : Extends R R' s s' t t') (hapart : Spares R a b) (ha : a < s.size)
    (hb : b < s'.size) : Spares R' a b := by
  intro u v huv
  rcases h.new u v huv with huv | ⟨hu, hv⟩
  · exact hapart u v huv
  · exact ⟨fun he => Nat.not_le_of_lt ha (he ▸ hu), fun he => Nat.not_le_of_lt hb (he ▸ hv)⟩

end Extends

/-- From these two stores, the edits come to stores that are a mirror again, and what they give is
as described. -/
def Lockstep (R : TokenId → TokenId → Prop) (s s' : Store) (e : Edit α) (e' : Edit α')
    (P : (TokenId → TokenId → Prop) → α → α' → Prop) : Prop :=
  ∀ a a' t t', e.run.run s = (.ok a, t) → e'.run.run s' = (.ok a', t') →
    ∃ R', Extends R R' s s' t t' ∧ Mirror R' t t' ∧ P R' a a'

namespace Lockstep

variable {e : Edit α} {e' : Edit α'} {f : α → Edit β} {f' : α' → Edit β'}

theorem of_run {a : α} {a' : α'} (he : e.run.run s = (.ok a, t)) (he' : e'.run.run s' = (.ok a', t'))
    (hR : Extends R R' s s' t t') (h : Mirror R' t t') (hP : P R' a a') : Lockstep R s s' e e' P := by
  intro b b' u u' hb hb'
  rw [he] at hb
  rw [he'] at hb'
  cases hb
  cases hb'
  exact ⟨R', hR, h, hP⟩

theorem pure {a : α} {a' : α'} (h : Mirror R s s') (hP : P R a a') :
    Lockstep R s s' (pure a) (pure a') P :=
  of_run rfl rfl (.refl R s s') h hP

theorem bind (h : Lockstep R s s' e e' P)
    (hf : ∀ {R' a a' t t'}, (∀ u v, R u v → R' u v) → Mirror R' t t' → P R' a a' →
      Lockstep R' t t' (f a) (f' a') Q) :
    Lockstep R s s' (e >>= f) (e' >>= f') Q := by
  intro b b' u u' hb hb'
  obtain ⟨a, t, ha, hb⟩ := run_run_bind_eq_ok.mp hb
  obtain ⟨a', t', ha', hb'⟩ := run_run_bind_eq_ok.mp hb'
  obtain ⟨R₁, hR₁, hmirror, hP⟩ := h a a' t t' ha ha'
  obtain ⟨R₂, hR₂, hmirror', hQ⟩ := hf hR₁.old hmirror hP b b' u u' hb hb'
  exact ⟨R₂, hR₁.trans hR₂, hmirror', hQ⟩

/-- The first parts of the edits are known. -/
theorem step {a : α} {a' : α'} (he : e.run.run s = (.ok a, t)) (he' : e'.run.run s' = (.ok a', t'))
    (hR : Extends R R' s s' t t') (h : Lockstep R' t t' (f a) (f' a') Q) :
    Lockstep R s s' (e >>= f) (e' >>= f') Q := by
  intro b b' u u' hb hb'
  rw [run_run_bind_of_ok he] at hb
  rw [run_run_bind_of_ok he'] at hb'
  obtain ⟨R₂, hR₂, hrest⟩ := h b b' u u' hb hb'
  exact ⟨R₂, hR.trans hR₂, hrest⟩

/-- The first parts of the edits only read. -/
theorem read {a : α} {a' : α'} (he : e.run.run s = (.ok a, s)) (he' : e'.run.run s' = (.ok a', s'))
    (h : Lockstep R s s' (f a) (f' a') Q) : Lockstep R s s' (e >>= f) (e' >>= f') Q :=
  step he he' (.refl R s s') h

/-! ## Single steps -/

theorem cell {x x' : Slot} (h : Mirror R s s') (hx : Partners R x x') :
    Lockstep R s s' (Edit.cell x) (Edit.cell x') fun R' c c' => c.Twins R' c' := by
  intro c c' t t' hc hc'
  obtain ⟨u, rfl, rfl, rfl⟩ := cell_eq_ok hc
  obtain ⟨v, rfl, rfl, rfl⟩ := cell_eq_ok hc'
  cases hx with
  | some hR => exact ⟨R, .refl R _ _, h, h.cell hR⟩

theorem child {c c' : Cell} (h : Mirror R s s') (hc : c.Twins R c') (n : Nat) :
    Lockstep R s s' (Edit.child c n) (Edit.child c' n) Partners := by
  intro x x' t t' hx hx'
  unfold Edit.child at hx hx'
  split at hx
  · rename_i slot hslot
    split at hx'
    · rename_i slot' hslot'
      cases hx
      cases hx'
      obtain ⟨hn, rfl⟩ := List.getElem?_eq_some_iff.mp hslot
      obtain ⟨hn', rfl⟩ := List.getElem?_eq_some_iff.mp hslot'
      exact ⟨R, .refl R _ _, h, hc.children.get hn hn'⟩
    · cases hx'
  · cases hx

/-- One new token for each store makes one more pair. -/
theorem create {c c' : Cell} (h : Mirror R s s') (hc : c.Twins R c') :
    Lockstep R s s' (Edit.create c) (Edit.create c') fun R' u v => R' u v :=
  of_run rfl rfl (.push R s s' c c') (h.push hc) (Or.inr ⟨rfl, rfl⟩)

/-- Comments are copied, but no pairs are made of their copies. -/
theorem copyComments (h : Mirror R s s') (slots slots' : List Slot) :
    Lockstep R s s' (Edit.copyComments slots) (Edit.copyComments slots') fun _ _ _ => True := by
  intro copies copies' t t' hcopies hcopies'
  obtain ⟨hframe, -⟩ := copyComments_eq_ok hcopies
  obtain ⟨hframe', -⟩ := copyComments_eq_ok hcopies'
  exact ⟨R, .of_size hframe.size_le hframe'.size_le, h.grow hframe hframe', trivial⟩

/-! ## Replacing a statement -/

theorem replaceFirst {node node' : Slot} {new new' slots slots' : List Slot} (h : Mirror R s s')
    (hnode : Partners R node node') (hnew : Forall₂ (Partners R) new new')
    (hslots : Forall₂ (Partners R) slots slots') :
    Option.Rel (Forall₂ (Partners R)) (Edit.replaceFirst node new slots)
      (Edit.replaceFirst node' new' slots') := by
  induction hslots with
  | nil => exact .none
  | @cons slot slot' rest rest' hslot hrest ih =>
      unfold Edit.replaceFirst
      by_cases hs : slot = node
      · rw [if_pos hs, if_pos ((h.eq_iff hslot hnode).mp hs)]
        exact .some (List.rel_append hnew hrest)
      · rw [if_neg hs, if_neg (mt (h.eq_iff hslot hnode).mpr hs)]
        generalize Edit.replaceFirst node new rest = found at ih ⊢
        generalize Edit.replaceFirst node' new' rest' = found' at ih ⊢
        cases ih with
        | none => exact .none
        | some hfound => exact .some (.cons hslot hfound)

theorem replaceStatement {parent parent' node node' : Slot} {new new' : List Slot}
    (h : Mirror R s s') (hparent : Partners R parent parent') (hnode : Partners R node node')
    (hnew : Forall₂ (Partners R) new new') :
    Lockstep R s s' (Edit.replaceStatement parent node new) (Edit.replaceStatement parent' node' new')
      fun _ _ _ => True := by
  intro _ _ t t' hrun hrun'
  obtain ⟨p, children, rfl, hchildren, rfl⟩ := replaceStatement_eq_ok hrun
  obtain ⟨p', children', rfl, hchildren', rfl⟩ := replaceStatement_eq_ok hrun'
  cases hparent with
  | some hR =>
      have hreplaced := replaceFirst h hnode hnew (h.children hR)
      rw [hchildren, hchildren'] at hreplaced
      cases hreplaced with
      | some hslots =>
          refine ⟨R, .of_size ?_ ?_,
            h.alter hR (.set (h.lt hR).1 children) (.set (h.lt hR).2 children') hslots, trivial⟩
          · rw [Store.size_set]
          · rw [Store.size_set]

/-! ## Lists of edits -/

variable {T : (TokenId → TokenId → Prop) → γ → γ' → Prop} {xs : List γ} {xs' : List γ'}

theorem mapM {f : γ → Edit α} {f' : γ' → Edit α'}
    (hT : ∀ {R R' x x'}, (∀ u v, R u v → R' u v) → T R x x' → T R' x x')
    (hP : ∀ {R R' a a'}, (∀ u v, R u v → R' u v) → P R a a' → P R' a a')
    (hf : ∀ {R s s' x x'}, Mirror R s s' → T R x x' → Lockstep R s s' (f x) (f' x') P)
    (h : Mirror R s s') (hxs : Forall₂ (T R) xs xs') :
    Lockstep R s s' (xs.mapM f) (xs'.mapM f') fun R' => Forall₂ (P R') := by
  induction xs generalizing R s s' xs' with
  | nil =>
      cases hxs
      exact .pure h .nil
  | cons x xs ih =>
      cases hxs with
      | cons hx hrest =>
          rw [List.mapM_cons, List.mapM_cons]
          refine (hf h hx).bind fun hR₁ h₁ ha => ?_
          refine (ih h₁ (hrest.imp fun _ _ => hT hR₁)).bind fun hR₂ h₂ has => ?_
          exact .pure h₂ (.cons (hP hR₂ ha) has)

theorem forM {f : γ → Edit Unit} {f' : γ' → Edit Unit}
    (hT : ∀ {R R' x x'}, (∀ u v, R u v → R' u v) → T R x x' → T R' x x')
    (hf : ∀ {R s s' x x'}, Mirror R s s' → T R x x' →
      Lockstep R s s' (f x) (f' x') fun _ _ _ => True)
    (h : Mirror R s s') (hxs : Forall₂ (T R) xs xs') :
    Lockstep R s s' (xs.forM f) (xs'.forM f') fun _ _ _ => True := by
  induction xs generalizing R s s' xs' with
  | nil =>
      cases hxs
      exact .pure h trivial
  | cons x xs ih =>
      cases hxs with
      | cons hx hrest =>
          show Lockstep R s s' (f x >>= fun _ => xs.forM f) (f' _ >>= fun _ => List.forM _ f') _
          exact (hf h hx).bind fun hR₁ h₁ _ => ih h₁ (hrest.imp fun _ _ => hT hR₁)

end Lockstep

/-! ## Edits of one token -/

/-- The edit changes nothing but the children of the token. -/
def AltersOnly (a : TokenId) (e : Edit Unit) : Prop :=
  ∀ s t, a < s.size → e.run.run s = (.ok (), t) → ∃ slots, s.Alters t a slots

namespace AltersOnly

variable {a b : TokenId} {e e' : Edit Unit}

theorem pure (a : TokenId) : AltersOnly a (pure ()) := by
  intro s t _ hrun
  cases hrun
  exact ⟨(s.cell a).children, rfl, rfl, fun _ _ => rfl⟩

theorem bind (h : AltersOnly a e) (h' : AltersOnly a e') : AltersOnly a (e >>= fun _ => e') := by
  intro s t ha hrun
  obtain ⟨⟨⟩, s₁, hfirst, hrun⟩ := run_run_bind_eq_ok.mp hrun
  obtain ⟨slots, halters⟩ := h s s₁ ha hfirst
  obtain ⟨slots', halters'⟩ := h' s₁ t (halters.size.symm ▸ ha) hrun
  exact ⟨slots', halters.trans halters'⟩

theorem replaceStatement (a : TokenId) (node : Slot) (new : List Slot) :
    AltersOnly a (Edit.replaceStatement (some a) node new) := by
  intro s t ha hrun
  obtain ⟨p, children, hp, -, rfl⟩ := replaceStatement_eq_ok hrun
  cases hp
  exact ⟨children, .set ha children⟩

theorem forM {f : γ → Edit Unit} {xs : List γ} (h : ∀ x ∈ xs, AltersOnly a (f x)) :
    AltersOnly a (xs.forM f) := by
  induction xs with
  | nil => exact pure a
  | cons x xs ih =>
      exact bind (h x List.mem_cons_self) (ih fun y hy => h y (List.mem_cons_of_mem _ hy))

/-- Edits of tokens without partners are in lockstep. -/
theorem lockstep (he : AltersOnly a e) (he' : AltersOnly b e') (h : Mirror R s s')
    (hapart : Spares R a b) (ha : a < s.size) (hb : b < s'.size) :
    Lockstep R s s' e e' fun _ _ _ => True := by
  intro _ _ t t' hrun hrun'
  obtain ⟨slots, halters⟩ := he s t ha hrun
  obtain ⟨slots', halters'⟩ := he' s' t' hb hrun'
  exact ⟨R, .of_size (Nat.le_of_eq halters.size.symm) (Nat.le_of_eq halters'.size.symm),
    h.elsewhere hapart halters halters', trivial⟩

end AltersOnly

end Edit

end ClassLift
