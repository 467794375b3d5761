import ClassLift.Proofs.Token.Mirror
import Mathlib.Data.Fintype.EquivFin
import Mathlib.Order.WellFounded

set_option autoImplicit false

/-! # Acyclic stores

A slot is *acyclic* when no token that is reached from it over children stands below itself. Tokens
may be shared and slots may be empty. This is the same as that the ways down come to an end
(`Store.acyclic_iff`), and then none of them passes more tokens than there are (`Acyclic.fits`).
-/

namespace ClassLift

open List

variable {s : Store} {x : Slot} {t u : TokenId} {roots : List Slot} {ids below seen : List TokenId}

namespace Store

/-- The second token is linked to the first one. -/
def Linked (s : Store) (links : Cell → List Slot) (t u : TokenId) : Prop := some u ∈ links (s.cell t)

/-- The second token is a child of the first one. -/
def Parent (s : Store) (t u : TokenId) : Prop := some u ∈ (s.cell t).children

/-- The token is in the slot, or below the token that is. -/
def Reaches (s : Store) (x : Slot) (t : TokenId) : Prop :=
  ∃ root, x = some root ∧ Relation.ReflTransGen s.Parent root t

/-- All tokens that are reached from the slot are there, and none of them stands below itself. -/
structure Acyclic (s : Store) (x : Slot) : Prop where
  stored : ∀ t, s.Reaches x t → t < s.size
  apart : ∀ t, s.Reaches x t → ¬ Relation.TransGen s.Parent t t

/-- There is a token in the slot, and no slot of a token that is reached from it is empty. -/
structure Gapless (s : Store) (x : Slot) : Prop where
  present : x ≠ none
  below : ∀ t, s.Reaches x t → none ∉ (s.cell t).children

theorem Reaches.refl (s : Store) (t : TokenId) : s.Reaches (some t) t := ⟨t, rfl, .refl⟩

theorem Reaches.child (h : s.Reaches x t) (hu : some u ∈ (s.cell t).children) : s.Reaches x u := by
  obtain ⟨root, rfl, hroot⟩ := h
  exact ⟨root, rfl, hroot.tail hu⟩

/-- What is reached from a child is reached from the token. -/
theorem Reaches.of_child {c : Slot} (h : s.Reaches c u) (hc : c ∈ (s.cell t).children) :
    s.Reaches (some t) u := by
  obtain ⟨root, rfl, hroot⟩ := h
  exact ⟨t, rfl, .head hc hroot⟩

theorem Acyclic.child {c : Slot} (h : s.Acyclic (some t)) (hc : c ∈ (s.cell t).children) :
    s.Acyclic c where
  stored _ hu := h.stored _ (hu.of_child hc)
  apart _ hu := h.apart _ (hu.of_child hc)

theorem Gapless.child {c : Slot} (h : s.Gapless (some t)) (hc : c ∈ (s.cell t).children) :
    s.Gapless c where
  present he := h.below t (.refl s t) (he ▸ hc)
  below _ hu := h.below _ (hu.of_child hc)

end Store

/-! ## The ways down come to an end -/

namespace Spans

variable {links : Cell → List Slot}

/-- A token is not found below itself: its list would be longer than itself. -/
theorem not_mem_below (h : Spans links s [some t] (t :: below)) : t ∉ below := by
  intro ht
  obtain ⟨-, below', he, hbelow⟩ := h.of_singleton
  cases he
  obtain ⟨again, hagain, hinfix⟩ := hbelow.below_mem ht
  cases hagain.unique h
  exact absurd hinfix.length_le (by simp)

theorem mem_of_linked (h : Spans links s [some t] ids)
    (hu : Relation.ReflTransGen (s.Linked links) t u) : u ∈ ids := by
  induction hu with
  | refl => exact h.root_mem List.mem_cons_self
  | tail _ hlink ih => exact h.link_mem ih hlink

theorem mem_below_of_transGen (h : Spans links s [some t] (t :: below))
    (hu : Relation.TransGen (s.Linked links) t u) : u ∈ below := by
  obtain ⟨-, below', he, hbelow⟩ := h.of_singleton
  cases he
  induction hu with
  | single hlink => exact hbelow.root_mem hlink
  | tail _ hlink ih => exact hbelow.link_mem ih hlink

/-- No token that is found is linked to itself, be it over others. -/
theorem apart (h : Spans links s roots ids) (ht : t ∈ ids) :
    ¬ Relation.TransGen (s.Linked links) t t := by
  intro hself
  obtain ⟨below, hbelow, -⟩ := h.below_mem ht
  exact hbelow.not_mem_below (hbelow.mem_below_of_transGen hself)

theorem mem_of_reaches (h : Spans Cell.children s [x] ids) (ht : s.Reaches x t) : t ∈ ids := by
  obtain ⟨root, rfl, hroot⟩ := ht
  exact h.mem_of_linked hroot

theorem acyclic (h : Spans Cell.children s [x] ids) : s.Acyclic x where
  stored t ht := h.lt_size t (h.mem_of_reaches ht)
  apart _ ht := h.apart (h.mem_of_reaches ht)

theorem gapless (h : Spans Cell.children s [x] ids) (hx : x ≠ none)
    (hfull : ∀ t ∈ ids, none ∉ (s.cell t).children) : s.Gapless x :=
  ⟨hx, fun t ht => hfull t (h.mem_of_reaches ht)⟩

/-- What holds at every depth of an empty slot, and one token deeper of a token than of its links,
holds of the tokens found at a depth of all tokens, apart from some that are above all of them. -/
theorem depth_apart {P : Nat → Slot → Prop} (hnone : ∀ n, P n none) (h : Spans links s roots ids)
    (htoken : ∀ n, ∀ t ∈ ids, (∀ slot ∈ links (s.cell t), P n slot) → P (n + 1) (some t))
    (hn : seen.Nodup) (hlt : ∀ a ∈ seen, a < s.size) (hapart : ∀ u ∈ ids, u ∉ seen) :
    ∀ slot ∈ roots, P (s.size - seen.length) slot := by
  induction h generalizing seen with
  | nil => simp
  | absent _ ih =>
      intro slot hslot
      rcases List.mem_cons.mp hslot with rfl | hslot
      · exact hnone _
      · exact ih htoken hn hlt hapart slot hslot
  | @token t slots below ids lt down next ihdown ihnext =>
      have hmem : ∀ u ∈ below, u ∈ t :: (below ++ ids) := fun u hu =>
        List.mem_cons_of_mem _ (List.mem_append_left _ hu)
      have hmem' : ∀ u ∈ ids, u ∈ t :: (below ++ ids) := fun u hu =>
        List.mem_cons_of_mem _ (List.mem_append_right _ hu)
      intro slot hslot
      rcases List.mem_cons.mp hslot with rfl | hslot
      · have hnot : t ∉ seen := hapart t List.mem_cons_self
        have hseen : (t :: seen).Nodup := List.nodup_cons.mpr ⟨hnot, hn⟩
        have hall : ∀ a ∈ t :: seen, a < s.size := List.forall_mem_cons.mpr ⟨lt, hlt⟩
        -- the token and those above it are different tokens of the store
        have hroom : (t :: seen).length ≤ s.size := by
          have hsub : t :: seen <+~ List.range s.size :=
            List.subperm_of_subset hseen fun a ha => List.mem_range.mpr (hall a ha)
          simpa using hsub.length_le
        have hbelow : ∀ u ∈ below, u ∉ t :: seen := by
          intro u hu hcontra
          rcases List.mem_cons.mp hcontra with rfl | hcontra
          · exact (Spans.singleton lt down).not_mem_below hu
          · exact hapart u (hmem u hu) hcontra
        have hdepth : s.size - seen.length = s.size - (t :: seen).length + 1 := by
          rw [List.length_cons] at hroom ⊢
          omega
        rw [hdepth]
        refine htoken _ t List.mem_cons_self fun c hc => ?_
        exact ihdown (fun n u hu => htoken n u (hmem u hu)) hseen hall hbelow c hc
      · exact ihnext (fun n u hu => htoken n u (hmem' u hu)) hn hlt
          (fun u hu => hapart u (hmem' u hu)) slot hslot

/-- What holds at every depth of an empty slot, and one token deeper of a token than of its links,
holds of the tokens found at a depth of all tokens. -/
theorem at_depth {P : Nat → Slot → Prop} (hnone : ∀ n, P n none) (h : Spans links s roots ids)
    (htoken : ∀ n, ∀ t ∈ ids, (∀ slot ∈ links (s.cell t), P n slot) → P (n + 1) (some t)) :
    ∀ slot ∈ roots, P s.size slot :=
  depth_apart hnone h htoken List.nodup_nil (by simp) (by simp)

end Spans

namespace Store

/-- Where the ways down from every slot of a list come to an end, so do those from the list. -/
theorem exists_spans {links : Cell → List Slot} {slots : List Slot}
    (h : ∀ slot ∈ slots, ∃ ids, Spans links s [slot] ids) : ∃ ids, Spans links s slots ids := by
  induction slots with
  | nil => exact ⟨[], .nil⟩
  | cons slot slots ih =>
      obtain ⟨first, hfirst⟩ := h slot List.mem_cons_self
      obtain ⟨rest, hrest⟩ := ih fun x hx => h x (List.mem_cons_of_mem _ hx)
      exact ⟨first ++ rest, hfirst.append hrest⟩

theorem exists_spans_of_apart {links : Cell → List Slot}
    (hstored : ∀ u, Relation.ReflTransGen (s.Linked links) t u → u < s.size)
    (hapart : ∀ u, Relation.ReflTransGen (s.Linked links) t u →
      ¬ Relation.TransGen (s.Linked links) u u) : ∃ ids, Spans links s [some t] ids := by
  -- among the tokens found, which are finitely many, to stand below is well-founded
  let Found := {u : TokenId // Relation.ReflTransGen (s.Linked links) t u}
  have hfinite : Finite Found :=
    Finite.of_injective (fun u : Found => (⟨u.1, hstored u.1 u.2⟩ : Fin s.size))
      fun u v huv => Subtype.ext (Fin.mk.inj huv)
  let Under : Found → Found → Prop := fun u v => Relation.TransGen (s.Linked links) v.1 u.1
  have : IsTrans Found Under := ⟨fun _ _ _ h h' => h'.trans h⟩
  have : Std.Irrefl Under := ⟨fun u => hapart u.1 u.2⟩
  have hwf : WellFounded Under := Finite.wellFounded_of_trans_of_irrefl Under
  have hall : ∀ u : Found, ∃ ids, Spans links s [some u.1] ids := by
    intro u
    induction u using hwf.induction with
    | _ u ih =>
        have hlink : ∀ slot ∈ links (s.cell u.1), ∃ ids, Spans links s [slot] ids := by
          intro slot hslot
          cases slot with
          | none => exact ⟨[], .absent .nil⟩
          | some v => exact ih ⟨v, u.2.tail hslot⟩ (.single hslot)
        obtain ⟨below, hbelow⟩ := Store.exists_spans hlink
        exact ⟨u.1 :: below, .singleton (hstored u.1 u.2) hbelow⟩
  exact hall ⟨t, .refl⟩

theorem Acyclic.exists_spans (h : s.Acyclic x) : ∃ ids, Spans Cell.children s [x] ids := by
  cases x with
  | none => exact ⟨[], .absent .nil⟩
  | some root =>
      exact exists_spans_of_apart (fun u hu => h.stored u ⟨root, rfl, hu⟩)
        fun u hu => h.apart u ⟨root, rfl, hu⟩

theorem acyclic_iff : s.Acyclic x ↔ ∃ ids, Spans Cell.children s [x] ids := by
  constructor
  · exact Acyclic.exists_spans
  · rintro ⟨ids, h⟩
    exact h.acyclic

/-- No way through an acyclic slot passes more tokens than there are. -/
theorem Acyclic.fits (h : s.Acyclic x) : s.Fits s.size x := by
  obtain ⟨ids, hids⟩ := acyclic_iff.mp h
  exact hids.at_depth Fits.absent (fun _ _ _ h => .token h) x List.mem_cons_self

end Store

end ClassLift
