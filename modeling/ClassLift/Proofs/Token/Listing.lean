import ClassLift.Proofs.Token.Shape
import ClassLift.Token.Dump

set_option autoImplicit false

/-! # Listings

What is seen of the tokens of a tree in preorder, with their depths, determines its shape: an entry
of some depth is followed by the entries below it, up to the first one that is not deeper. So the
entries of a row of trees are read off the front of what is listed, whatever follows them, as long
as it does not begin at the depth of the row (`Tree.listings_inj`).

For slots this means that the listings are the same if and only if the slots are alike, and that a
comparison of the listings position by position tells the same.
-/

namespace ClassLift

open List

variable {s : Store} {x y : Slot}

namespace Tree

variable {rest : List Entry}

mutual

/-- The entries of the tokens in preorder; the first has the given depth. -/
def listing (depth : Int) : Tree → List Entry
  | absent => []
  | node _ l cs _ => (depth, l.kind, l.value) :: listings (depth + 1) cs

/-- The listings of several trees, one after the other. -/
def listings (depth : Int) : List Tree → List Entry
  | [] => []
  | t :: ts => listing depth t ++ listings depth ts

end

/-! ## A listing is read in one way -/

/-- The entries begin above this depth, if there are any. -/
def Above (depth : Int) (rest : List Entry) : Prop := ∀ e ∈ rest.head?, e.1 < depth

theorem Above.nil (depth : Int) : Above depth [] := by
  intro e he
  cases he

/-- After a row of trees, what began above it begins above what is one deeper. -/
theorem Above.after {depth : Int} (h : Above depth rest) :
    ∀ ts : List Tree, allWhole ts = true → Above (depth + 1) (listings depth ts ++ rest)
  | [], _ => fun e he => Int.lt_trans (h e he) (Int.lt_succ depth)
  | absent :: _, hwhole => by cases hwhole
  | node _ _ _ _ :: _, _ => by
      intro e he
      cases he
      exact Int.lt_succ depth

mutual

theorem listing_inj {rest rest' : List Entry} (depth : Int) (hrest : Above (depth + 1) rest)
    (hrest' : Above (depth + 1) rest') : ∀ t u : Tree, t.whole = true → u.whole = true →
      t.listing depth ++ rest = u.listing depth ++ rest' → t.shape = u.shape ∧ rest = rest'
  | absent, _, ht, _, _ => by cases ht
  | node _ _ _ _, absent, _, hu, _ => by cases hu
  | node _ l cs _, node _ m ds _, ht, hu, he => by
      rw [listing, listing, List.cons_append, List.cons_append, List.cons.injEq, Prod.mk.injEq,
        Prod.mk.injEq] at he
      obtain ⟨⟨-, hkind, hvalue⟩, hbelow⟩ := he
      obtain ⟨hshapes, hrests⟩ := listings_inj (depth + 1) hrest hrest' cs ds ht hu hbelow
      exact ⟨by rw [shape, shape, hkind, hvalue, hshapes], hrests⟩

/-- Rows of trees that are listed alike, with something above after them, have the same shapes, and
the same comes after them. -/
theorem listings_inj {rest rest' : List Entry} (depth : Int) (hrest : Above depth rest)
    (hrest' : Above depth rest') :
    ∀ ts us : List Tree, allWhole ts = true → allWhole us = true →
      listings depth ts ++ rest = listings depth us ++ rest' → shapes ts = shapes us ∧ rest = rest'
  | [], [], _, _, he => ⟨rfl, he⟩
  | [], absent :: _, _, hus, _ => by cases hus
  | [], node _ _ _ _ :: _, _, _, he => by
      -- a listing of this depth does not begin above it
      subst he
      exact absurd (hrest _ rfl) (Int.lt_irrefl depth)
  | absent :: _, [], hts, _, _ => by cases hts
  | node _ _ _ _ :: _, [], _, _, he => by
      subst he
      exact absurd (hrest' _ rfl) (Int.lt_irrefl depth)
  | t :: ts, u :: us, hts, hus, he => by
      rw [allWhole, Bool.and_eq_true] at hts hus
      rw [listings, listings, List.append_assoc, List.append_assoc] at he
      obtain ⟨hfirst, he⟩ := listing_inj depth (hrest.after ts hts.2) (hrest'.after us hus.2) t u
        hts.1 hus.1 he
      obtain ⟨hshapes, hrests⟩ := listings_inj depth hrest hrest' ts us hts.2 hus.2 he
      exact ⟨by rw [shapes, shapes, hfirst, hshapes], hrests⟩

end

mutual

/-- Nothing of a tree is listed but its shape. -/
theorem listing_congr (depth : Int) : ∀ t u : Tree, t.shape = u.shape →
    t.listing depth = u.listing depth
  | absent, absent, _ => rfl
  | absent, node _ _ _ _, h => by cases h
  | node _ _ _ _, absent, h => by cases h
  | node _ l cs _, node _ m ds _, h => by
      rw [shape, shape, Shape.token.injEq] at h
      obtain ⟨hkind, hvalue, hshapes⟩ := h
      rw [listing, listing, hkind, hvalue, listings_congr (depth + 1) cs ds hshapes]

theorem listings_congr (depth : Int) : ∀ ts us : List Tree, shapes ts = shapes us →
    listings depth ts = listings depth us
  | [], [], _ => rfl
  | [], _ :: _, h => by cases h
  | _ :: _, [], h => by cases h
  | t :: ts, u :: us, h => by
      rw [shapes, shapes, List.cons.injEq] at h
      rw [listings, listings, listing_congr depth t u h.1, listings_congr depth ts us h.2]

end

theorem listing_eq_iff {t u : Tree} (ht : t.whole = true) (hu : u.whole = true) (depth : Int) :
    t.listing depth = u.listing depth ↔ t.shape = u.shape := by
  refine ⟨fun h => ?_, listing_congr depth t u⟩
  have h' : t.listing depth ++ [] = u.listing depth ++ [] := by
    rw [List.append_nil, List.append_nil, h]
  exact (listing_inj depth (.nil _) (.nil _) t u ht hu h').1

/-! ## Position by position -/

theorem countDifferences_cons (e e' : Entry) (xs ys : List Entry) :
    countDifferences (e :: xs) (e' :: ys) = countDifferences xs ys + if e = e' then 0 else 1 := by
  rw [countDifferences, List.zipWithAll_cons_cons, List.count_cons, sameEntry]
  by_cases h : e = e'
  · simp [h, countDifferences]
  · simp [h, countDifferences]

/-- Two listings differ nowhere if and only if they are the same. -/
theorem countDifferences_eq_zero {xs ys : List Entry} : countDifferences xs ys = 0 ↔ xs = ys := by
  induction xs generalizing ys with
  | nil =>
      cases ys with
      | nil => simp [countDifferences]
      | cons e ys => simp [countDifferences, sameEntry]
  | cons e xs ih =>
      cases ys with
      | nil => simp [countDifferences, sameEntry]
      | cons e' ys =>
          rw [countDifferences_cons, List.cons.injEq, Nat.add_eq_zero_iff, ih, and_comm]
          by_cases h : e = e'
          · simp [h]
          · simp [h]

theorem allWhole_map {slots : List Slot} {f : Slot → Tree}
    (h : ∀ slot ∈ slots, (f slot).whole = true) : allWhole (slots.map f) = true := by
  induction slots with
  | nil => rfl
  | cons slot slots ih =>
      obtain ⟨hfirst, hrest⟩ := List.forall_mem_cons.mp h
      rw [List.map_cons, allWhole, hfirst, ih hrest]
      rfl

end Tree

namespace Store

/-! ## Listings of slots -/

/-- The tokens of a tree of the store are seen as they are listed. -/
theorem entries_treeTo (s : Store) (n : Nat) (depth : Int) (slot : Slot) :
    ((s.treeTo n slot).tokens depth).map s.entry = (s.treeTo n slot).listing depth := by
  induction n generalizing depth slot with
  | zero => rfl
  | succ n ih =>
      have hchildren : ∀ slots : List Slot,
          (Tree.allTokens (depth + 1) (slots.map (s.treeTo n))).map s.entry =
            Tree.listings (depth + 1) (slots.map (s.treeTo n)) := by
        intro slots
        induction slots with
        | nil => rfl
        | cons slot slots ihs =>
            rw [List.map_cons, Tree.allTokens, Tree.listings, List.map_append, ih, ihs]
      cases slot with
      | none => rfl
      | some t =>
          rw [treeTo, Tree.tokens, Tree.listing, List.map_cons, hchildren]
          rfl

theorem Fits.whole {n : Nat} (h : s.Fits n x) (hg : s.Gapless x) : (s.treeTo n x).whole = true := by
  induction h with
  | absent => exact absurd rfl hg.present
  | token _ ih =>
      rw [treeTo, Tree.whole]
      exact Tree.allWhole_map fun c hc => ih c hc (hg.child hc)

theorem Acyclic.whole (h : s.Acyclic x) (hg : s.Gapless x) : (s.tree x).whole = true :=
  h.fits.whole hg

theorem Acyclic.flatten_eq (h : s.Acyclic x) (hg : s.Gapless x) (depth : Int) :
    s.flatten depth x = .ok ((s.tree x).listing depth) := by
  rw [flatten, tokens, h.whole hg, tree, ← entries_treeTo]
  rfl

/-- **A listing determines the shape.** Acyclic slots without gaps can be listed, and the listings
are the same if and only if the slots are alike; and the listings differ at no position if and only
if they are. -/
theorem flatten_eq_iff_alike (hx : s.Acyclic x) (hy : s.Acyclic y) (hgx : s.Gapless x)
    (hgy : s.Gapless y) :
    (∀ depth, ∃ xs ys, s.flatten depth x = .ok xs ∧ s.flatten depth y = .ok ys ∧
        (xs = ys ↔ s.alike x y = true)) ∧
      ∃ n, s.differences x y = .ok n ∧ (n = 0 ↔ s.alike x y = true) := by
  have hlisting : ∀ depth, (s.tree x).listing depth = (s.tree y).listing depth ↔
      s.alike x y = true := by
    intro depth
    rw [hx.alike_iff hy]
    exact Tree.listing_eq_iff (hx.whole hgx) (hy.whole hgy) depth
  refine ⟨fun depth => ⟨_, _, hx.flatten_eq hgx depth, hy.flatten_eq hgy depth, hlisting depth⟩, ?_⟩
  refine ⟨Tree.countDifferences ((s.tree y).listing 0) ((s.tree x).listing 0), ?_, ?_⟩
  · rw [differences, hx.flatten_eq hgx, hy.flatten_eq hgy]
    rfl
  · rw [Tree.countDifferences_eq_zero, eq_comm]
    exact hlisting 0

theorem sharedNames_gapless : sharedNames.Gapless (some 4) ∧ sharedNames.Gapless (some 5) := by
  obtain ⟨hpair, hpair'⟩ := sharedNames_full
  exact ⟨hpair.gapless (by decide) (by decide), hpair'.gapless (by decide) (by decide)⟩

theorem flatten_eq_iff_alike_sharedNames :
    (∀ depth, ∃ xs ys, sharedNames.flatten depth (some 4) = .ok xs ∧
        sharedNames.flatten depth (some 5) = .ok ys ∧
        (xs = ys ↔ sharedNames.alike (some 4) (some 5) = true)) ∧
      ∃ n, sharedNames.differences (some 4) (some 5) = .ok n ∧
        (n = 0 ↔ sharedNames.alike (some 4) (some 5) = true) :=
  flatten_eq_iff_alike sharedNames_full.1.acyclic sharedNames_full.2.acyclic sharedNames_gapless.1
    sharedNames_gapless.2

end Store

end ClassLift
