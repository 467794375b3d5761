import ClassLift.Proofs.Token.Acyclic
import ClassLift.Proofs.Token.Copies

set_option autoImplicit false

/-! # Tokens with everything below them

A token is *complete* when, on following children and comments, one comes to no empty slot and to no
token below itself (`Store.Complete`). Then it is whole, at a depth of all tokens
(`Store.Complete.whole`), and its tree with comments is all there is to see. Changes of other tokens
do not show in that tree (`Store.Complete.fullTree_applyAll`).

Tokens may be shared: `Store.follow` tells apart the ways that lead to a token. In an unshared tree
there is one for each token (`Spans.follow_unique`).
-/

namespace ClassLift

open List

variable {s s' : Store} {t u : TokenId} {slots : List Slot} {ids below : List TokenId} {n m : Nat}
  {way way' : List Nat}

namespace Store

/-! ## Ways down -/

/-- The second token is found on following children and comments of the first one. -/
def Leads (s : Store) (t u : TokenId) : Prop := Relation.ReflTransGen (s.Linked Cell.links) t u

/-- The token at the end of a way down from `t`. A way names the links to take by their numbers, the
children of a token first and then its comments. -/
def follow (s : Store) : TokenId → List Nat → Option TokenId
  | t, [] => some t
  | t, n :: way =>
    match (s.cell t).links[n]? with
    | some (some u) => s.follow u way
    | _ => none

theorem follow_cons_eq_some (h : s.follow t (n :: way) = some u) :
    ∃ v, (s.cell t).links[n]? = some (some v) ∧ s.follow v way = some u := by
  unfold follow at h
  split at h
  · rename_i v hv
    exact ⟨v, hv, h⟩
  · cases h

theorem Leads.exists_follow (h : s.Leads t u) : ∃ way, s.follow t way = some u := by
  induction h using Relation.ReflTransGen.head_induction_on with
  | refl => exact ⟨[], rfl⟩
  | head hlink _ ih =>
      obtain ⟨way, hway⟩ := ih
      obtain ⟨n, hn⟩ := List.mem_iff_getElem?.mp hlink
      refine ⟨n :: way, ?_⟩
      rw [follow, hn]
      exact hway

end Store

namespace Spans

variable {links : Cell → List Slot}

/-- Nothing is found from two places of a list. -/
theorem places_apart (h : Spans links s slots ids) (hn : ids.Nodup) {a b : TokenId}
    {as bs : List TokenId} (ha : slots[n]? = some (some a)) (hb : slots[m]? = some (some b))
    (hnm : n < m) (has : Spans links s [some a] as) (hbs : Spans links s [some b] bs) :
    ∀ v ∈ as, v ∉ bs := by
  intro v hv hv'
  rw [← List.take_append_drop m slots] at h
  obtain ⟨first, rest, rfl, hfirst, hrest⟩ := h.of_append
  have hmem : some a ∈ slots.take m := by
    refine List.mem_iff_getElem?.mpr ⟨n, ?_⟩
    rw [List.getElem?_take_of_lt hnm, ha]
  have hmem' : some b ∈ slots.drop m := by
    refine List.mem_iff_getElem?.mpr ⟨0, ?_⟩
    rw [List.getElem?_drop, Nat.add_zero, hb]
  have hleft : v ∈ first := hfirst.mem_of_mem_at hmem (by rwa [at_eq has])
  have hright : v ∈ rest := hrest.mem_of_mem_at hmem' (by rwa [at_eq hbs])
  exact (List.nodup_append.mp hn).2.2 v hleft v hright rfl

theorem follow_mem (h : Spans Cell.links s [some t] ids) (hway : s.follow t way = some u) :
    u ∈ ids := by
  have hstep : ∀ (way : List Nat) (v : TokenId), v ∈ ids → s.follow v way = some u → u ∈ ids := by
    intro way
    induction way with
    | nil =>
        intro v hv hway
        cases hway
        exact hv
    | cons n way ih =>
        intro v hv hway
        obtain ⟨w, hw, hrest⟩ := Store.follow_cons_eq_some hway
        exact ih w (h.link_mem hv (List.mem_of_getElem? hw)) hrest
  exact hstep way t (h.root_mem List.mem_cons_self) hway

/-- Where no token is found twice, no two ways lead to the same token. -/
theorem follow_unique (h : Spans Cell.links s [some t] ids) (hn : ids.Nodup)
    (hway : s.follow t way = some u) (hway' : s.follow t way' = some u) : way = way' := by
  induction way generalizing t ids way' with
  | nil =>
      cases hway
      cases way' with
      | nil => rfl
      | cons m way' =>
          -- the token would be below itself
          obtain ⟨v, hv, hrest⟩ := Store.follow_cons_eq_some hway'
          obtain ⟨-, below, rfl, hbelow⟩ := h.of_singleton
          obtain ⟨under, hunder, hpart⟩ :=
            hbelow.below_mem (hbelow.root_mem (List.mem_of_getElem? hv))
          exact absurd (hpart.subset (hunder.follow_mem hrest)) h.not_mem_below
  | cons n way ih =>
      obtain ⟨v, hv, hrest⟩ := Store.follow_cons_eq_some hway
      obtain ⟨-, below, rfl, hbelow⟩ := h.of_singleton
      have hnbelow : below.Nodup := (List.nodup_cons.mp hn).2
      obtain ⟨under, hunder, hpart⟩ :=
        hbelow.below_mem (hbelow.root_mem (List.mem_of_getElem? hv))
      have hmem := hunder.follow_mem hrest
      cases way' with
      | nil =>
          cases hway'
          exact absurd (hpart.subset hmem) h.not_mem_below
      | cons m way' =>
          obtain ⟨v', hv', hrest'⟩ := Store.follow_cons_eq_some hway'
          obtain ⟨under', hunder', -⟩ :=
            hbelow.below_mem (hbelow.root_mem (List.mem_of_getElem? hv'))
          have hmem' := hunder'.follow_mem hrest'
          rcases Nat.lt_trichotomy n m with hlt | rfl | hlt
          · exact absurd hmem' (hbelow.places_apart hnbelow hv hv' hlt hunder hunder' u hmem)
          · obtain rfl : v = v' := Option.some.inj (Option.some.inj (hv.symm.trans hv'))
            rw [ih hunder (hnbelow.sublist hpart.sublist) hrest hrest']
          · exact absurd hmem (hbelow.places_apart hnbelow hv' hv hlt hunder' hunder u hmem')

end Spans

namespace Store

/-! ## Complete tokens -/

/-- All tokens that are found are there, none of them stands below itself, and none of them has an
empty slot. -/
structure Complete (s : Store) (t : TokenId) : Prop where
  stored : ∀ u, s.Leads t u → u < s.size
  apart : ∀ u, s.Leads t u → ¬ Relation.TransGen (s.Linked Cell.links) u u
  present : ∀ u, s.Leads t u → none ∉ (s.cell u).links

theorem Complete.exists_spans (h : s.Complete t) : ∃ ids, Spans Cell.links s [some t] ids :=
  exists_spans_of_apart h.stored h.apart

theorem Whole.of_leads (h : s.Whole n t) (hu : s.Leads t u) : s.Whole n u := by
  induction hu with
  | refl => exact h
  | tail _ hlink ih =>
      obtain ⟨v, hv, hwhole⟩ := ih.link hlink
      rwa [Option.some.inj hv]

/-- Above a token that is not complete there is no end to the ways down, or a slot is empty. -/
theorem Whole.complete (h : s.Whole n t) : s.Complete t where
  stored _ hu := (h.of_leads hu).lt_size
  apart u hu := by
    obtain ⟨ids, hids⟩ := (h.of_leads hu).spans
    exact hids.apart (hids.root_mem List.mem_cons_self)
  present _ hu := (h.of_leads hu).present

/-- No way down from a complete token passes more tokens than there are. -/
theorem Complete.whole (h : s.Complete t) : s.Whole s.size t := by
  obtain ⟨ids, hids⟩ := h.exists_spans
  have hfound : ∀ u ∈ ids, s.Leads t u := by
    refine hids.forall_of_links (fun u hu => ?_) fun u _ hu v hv => hu.tail hv
    rw [Option.some.inj (List.mem_singleton.mp hu)]
    exact .refl
  refine hids.at_depth (P := fun n slot => ∀ u, slot = some u → s.Whole n u) ?_ ?_ (some t)
    List.mem_cons_self t rfl
  · intro n u hu
    cases hu
  · intro n u hu hbelow v hv
    cases hv
    have hu' := hfound u hu
    exact .token (h.stored u hu') (h.present u hu') fun w hw => hbelow (some w) hw w rfl

/-! ## The tree of a complete token -/

/-- Another store, or a greater depth, shows the same tree where the tokens found are the same. -/
theorem Whole.fullTreeTo_eq (h : s.Whole n t) (hm : n ≤ m)
    (hsame : ∀ u, s.Leads t u → s'.cell u = s.cell u) :
    s'.fullTreeTo m (some t) = s.fullTreeTo n (some t) := by
  induction h generalizing m with
  | @token n t _ present _ ih =>
      obtain ⟨m, rfl⟩ : ∃ k, m = k + 1 := ⟨m - 1, by omega⟩
      have hlinks : ∀ slot ∈ (s.cell t).links, s'.fullTreeTo m slot = s.fullTreeTo n slot := by
        intro slot hslot
        obtain ⟨u, rfl⟩ : ∃ u, slot = some u :=
          Option.ne_none_iff_exists'.mp fun he => present (he ▸ hslot)
        exact ih u hslot (by omega) fun v hv => hsame v (.head hslot hv)
      have hchildren : (s.cell t).children.map (s'.fullTreeTo m) =
          (s.cell t).children.map (s.fullTreeTo n) :=
        List.map_congr_left fun slot hslot => hlinks slot (List.mem_append_left _ hslot)
      have hcomments : (s.cell t).comments.map (s'.fullTreeTo m) =
          (s.cell t).comments.map (s.fullTreeTo n) :=
        List.map_congr_left fun slot hslot => hlinks slot (List.mem_append_right _ hslot)
      rw [fullTreeTo, fullTreeTo, hsame t .refl, hchildren, hcomments]

theorem Complete.fullTree_eq (h : s.Complete t) (hsize : s.size ≤ s'.size)
    (hsame : ∀ u, s.Leads t u → s'.cell u = s.cell u) : s'.fullTree (some t) = s.fullTree (some t) :=
  h.whole.fullTreeTo_eq hsize hsame

/-! ## Changes -/

/-- A change of a store: a token gets another cell, with any label and any links, or is made. -/
inductive Change where
  | write (t : TokenId) (c : Cell)
  | create (c : Cell)

/-- The store after a change. -/
def apply (s : Store) : Change → Store
  | .write t c => s.set t c
  | .create c => s.push c

/-- The store after some changes, one after the other. -/
def applyAll (s : Store) (edits : List Change) : Store := edits.foldl apply s

/-- None of the given tokens gets another cell. -/
def Change.Avoids (P : TokenId → Prop) : Change → Prop
  | .write t _ => ¬ P t
  | .create _ => True

variable {P : TokenId → Prop}

theorem apply_keeps {e : Change} (h : e.Avoids P) :
    s.size ≤ (s.apply e).size ∧ ∀ u < s.size, P u → (s.apply e).cell u = s.cell u := by
  cases e with
  | write t c =>
      refine ⟨Nat.le_of_eq (size_set s t c).symm, fun u _ hu => ?_⟩
      have hne : u ≠ t := fun he => h (he ▸ hu)
      exact cell_set_ne s t u c hne
  | create c => exact ⟨Nat.le_of_lt (s.size_lt_push c), fun u hu _ => cell_push_lt s c u hu⟩

theorem applyAll_keeps {edits : List Change} (h : ∀ e ∈ edits, e.Avoids P) :
    s.size ≤ (s.applyAll edits).size ∧ ∀ u < s.size, P u → (s.applyAll edits).cell u = s.cell u := by
  induction edits generalizing s with
  | nil => exact ⟨Nat.le_refl _, fun _ _ _ => rfl⟩
  | cons e edits ih =>
      obtain ⟨hfirst, hrest⟩ := List.forall_mem_cons.mp h
      obtain ⟨hsize, hcell⟩ := apply_keeps (s := s) hfirst
      obtain ⟨hsize', hcell'⟩ := ih (s := s.apply e) hrest
      refine ⟨Nat.le_trans hsize hsize', fun u hu hP => ?_⟩
      calc ((s.apply e).applyAll edits).cell u
          = (s.apply e).cell u := hcell' u (Nat.lt_of_lt_of_le hu hsize) hP
        _ = s.cell u := hcell u hu hP

/-- Changes of other tokens do not show in the tree of a complete token. -/
theorem Complete.fullTree_applyAll (h : s.Complete t) {edits : List Change}
    (he : ∀ e ∈ edits, e.Avoids (s.Leads t)) :
    (s.applyAll edits).fullTree (some t) = s.fullTree (some t) := by
  obtain ⟨hsize, hcell⟩ := applyAll_keeps (s := s) he
  exact h.fullTree_eq hsize fun u hu => hcell u (h.stored u hu) hu

end Store

end ClassLift
