import ClassLift.Token.Store
import Mathlib.Data.List.Flatten
import Mathlib.Data.List.Perm.Subperm
import Mathlib.Data.List.Range

set_option autoImplicit false

/-! # Tokens in preorder

`Spans links s roots ids` says that the tokens found from the slots `roots` on following the
links of each cell are `ids`, in preorder; a token stands in the list once for every way that
leads to it. There is such a list if and only if the ways come to an end, and then there is
only one. No token stands at two places if and only if the list has no duplicates.

The links to follow are a parameter: the children alone, or the comments as well.
-/

namespace ClassLift

open List

/-- All links of a cell: the children and then the comments. -/
def Cell.links (c : Cell) : List Slot := c.children ++ c.comments

theorem Cell.children_sublist_links (c : Cell) : c.children <+ c.links :=
  List.sublist_append_left _ _

/-- The tokens found from some slots, in preorder. -/
inductive Spans (links : Cell → List Slot) (s : Store) : List Slot → List TokenId → Prop where
  | nil : Spans links s [] []
  | absent {slots : List Slot} {ids : List TokenId} :
      Spans links s slots ids → Spans links s (none :: slots) ids
  | token {t : TokenId} {slots : List Slot} {below ids : List TokenId} (lt : t < s.size)
      (down : Spans links s (links (s.cell t)) below) (next : Spans links s slots ids) :
      Spans links s (some t :: slots) (t :: (below ++ ids))

namespace Spans

variable {links : Cell → List Slot} {s s' : Store} {roots roots' : List Slot} {slot : Slot}
  {t u : TokenId} {ids ids' below : List TokenId}

/-! ## Putting together and taking apart -/

theorem unique (h : Spans links s roots ids) (h' : Spans links s roots ids') : ids = ids' := by
  induction h generalizing ids' with
  | nil =>
      cases h'
      rfl
  | absent _ ih =>
      cases h' with
      | absent h' => exact ih h'
  | token _ _ _ ihdown ihnext =>
      cases h' with
      | token _ down next => rw [ihdown down, ihnext next]

/-- In two stores with the same links, the same tokens are found. -/
theorem unique_of_same (h : Spans links s roots ids) (h' : Spans links s' roots ids')
    (same : ∀ u, links (s'.cell u) = links (s.cell u)) : ids = ids' := by
  induction h generalizing ids' with
  | nil =>
      cases h'
      rfl
  | absent _ ih =>
      cases h' with
      | absent h' => exact ih h'
  | token _ _ _ ihdown ihnext =>
      cases h' with
      | token _ down next => rw [ihdown (same _ ▸ down), ihnext next]

theorem append (h : Spans links s roots ids) (h' : Spans links s roots' ids') :
    Spans links s (roots ++ roots') (ids ++ ids') := by
  induction h with
  | nil => exact h'
  | absent _ ih => exact ih.absent
  | token lt down _ _ ih =>
      rw [List.cons_append, List.cons_append, List.append_assoc]
      exact .token lt down ih

theorem of_append (h : Spans links s (roots ++ roots') ids) :
    ∃ first rest, ids = first ++ rest ∧ Spans links s roots first ∧ Spans links s roots' rest := by
  induction roots generalizing ids with
  | nil => exact ⟨[], ids, rfl, .nil, h⟩
  | cons slot roots ih =>
      cases h with
      | absent h =>
          obtain ⟨first, rest, rfl, hfirst, hrest⟩ := ih h
          exact ⟨first, rest, rfl, hfirst.absent, hrest⟩
      | token lt down next =>
          obtain ⟨first, rest, rfl, hfirst, hrest⟩ := ih next
          refine ⟨_, rest, ?_, .token lt down hfirst, hrest⟩
          rw [List.cons_append, List.append_assoc]

theorem of_cons (h : Spans links s (slot :: roots) ids) :
    ∃ first rest, ids = first ++ rest ∧ Spans links s [slot] first ∧ Spans links s roots rest :=
  of_append (show Spans links s ([slot] ++ roots) ids from h)

theorem singleton (lt : t < s.size) (down : Spans links s (links (s.cell t)) below) :
    Spans links s [some t] (t :: below) := by
  have h := Spans.token lt down .nil
  rwa [List.append_nil] at h

theorem of_singleton (h : Spans links s [some t] ids) :
    t < s.size ∧ ∃ below, ids = t :: below ∧ Spans links s (links (s.cell t)) below := by
  cases h with
  | token lt down next =>
      cases next
      exact ⟨lt, _, by rw [List.append_nil], down⟩

/-! ## Members -/

theorem lt_size (h : Spans links s roots ids) : ∀ u ∈ ids, u < s.size := by
  induction h with
  | nil => simp
  | absent _ ih => exact ih
  | token lt _ _ ihdown ihnext =>
      intro u hu
      rcases List.mem_cons.mp hu with rfl | hu
      · exact lt
      · exact (List.mem_append.mp hu).elim (ihdown u) (ihnext u)

theorem root_mem (h : Spans links s roots ids) (hr : some t ∈ roots) : t ∈ ids := by
  induction h with
  | nil => cases hr
  | absent _ ih =>
      rcases List.mem_cons.mp hr with h | hr
      · cases h
      · exact ih hr
  | token _ _ _ _ ih =>
      rcases List.mem_cons.mp hr with h | hr
      · cases h
        simp
      · exact List.mem_cons_of_mem _ (List.mem_append_right _ (ih hr))

/-- What is linked to a token that was found is found as well. -/
theorem link_mem (h : Spans links s roots ids) (ht : t ∈ ids) (hu : some u ∈ links (s.cell t)) :
    u ∈ ids := by
  induction h with
  | nil => cases ht
  | absent _ ih => exact ih ht
  | token _ down _ ihdown ihnext =>
      rcases List.mem_cons.mp ht with rfl | ht
      · exact List.mem_cons_of_mem _ (List.mem_append_left _ (down.root_mem hu))
      rcases List.mem_append.mp ht with ht | ht
      · exact List.mem_cons_of_mem _ (List.mem_append_left _ (ihdown ht))
      · exact List.mem_cons_of_mem _ (List.mem_append_right _ (ihnext ht))

/-- The tokens below one that was found stand right after it. -/
theorem below_mem (h : Spans links s roots ids) (ht : t ∈ ids) :
    ∃ below, Spans links s [some t] (t :: below) ∧ (t :: below).IsInfix ids := by
  induction h with
  | nil => cases ht
  | absent _ ih => exact ih ht
  | @token t' slots below rest lt down next ihdown ihnext =>
      rcases List.mem_cons.mp ht with rfl | ht
      · exact ⟨below, .singleton lt down, ⟨[], rest, by simp⟩⟩
      rcases List.mem_append.mp ht with ht | ht
      · obtain ⟨below', hbelow, hinfix⟩ := ihdown ht
        exact ⟨below', hbelow, hinfix.trans ⟨[t'], rest, by simp⟩⟩
      · obtain ⟨below', hbelow, hinfix⟩ := ihnext ht
        exact ⟨below', hbelow, hinfix.trans ⟨t' :: below, [], by simp⟩⟩

/-- A token that was found, with what is found below it, between the tokens before and after. -/
theorem split_mem (h : Spans links s roots ids) (ht : t ∈ ids) :
    ∃ before below after, ids = before ++ t :: (below ++ after) ∧
      Spans links s (links (s.cell t)) below := by
  obtain ⟨below, hfound, before, after, rfl⟩ := h.below_mem ht
  obtain ⟨-, _, he, hbelow⟩ := hfound.of_singleton
  cases he
  exact ⟨before, below, after, by rw [List.append_assoc, List.cons_append], hbelow⟩

/-! ## Other roots and other stores -/

/-- A store with the same links at all tokens found gives the same list. -/
theorem frame (h : Spans links s roots ids) (hsize : s.size ≤ s'.size)
    (same : ∀ u ∈ ids, links (s'.cell u) = links (s.cell u)) : Spans links s' roots ids := by
  induction h with
  | nil => exact .nil
  | absent _ ih => exact (ih same).absent
  | token lt _ _ ihdown ihnext =>
      refine .token (Nat.lt_of_lt_of_le lt hsize) ?_ (ihnext fun u hu => same u (by simp [hu]))
      rw [same _ (by simp)]
      exact ihdown fun u hu => same u (by simp [hu])

theorem sublist (h : Spans links s roots ids) (hr : roots' <+ roots) :
    ∃ ids', Spans links s roots' ids' ∧ ids' <+ ids := by
  induction hr generalizing ids with
  | slnil => exact ⟨ids, h, .refl _⟩
  | cons slot _ ih =>
      obtain ⟨first, rest, rfl, -, hrest⟩ := h.of_cons
      obtain ⟨ids', hids', hsub⟩ := ih hrest
      exact ⟨ids', hids', hsub.trans (List.sublist_append_right _ _)⟩
  | cons_cons slot _ ih =>
      obtain ⟨first, rest, rfl, hfirst, hrest⟩ := h.of_cons
      obtain ⟨ids', hids', hsub⟩ := ih hrest
      exact ⟨first ++ ids', hfirst.append hids', hsub.append_left first⟩

theorem perm (h : Spans links s roots ids) (hr : roots' ~ roots) :
    ∃ ids', Spans links s roots' ids' ∧ ids' ~ ids := by
  induction hr generalizing ids with
  | nil => exact ⟨ids, h, .refl _⟩
  | cons slot _ ih =>
      obtain ⟨first, rest, rfl, hfirst, hrest⟩ := h.of_cons
      obtain ⟨ids', hids', hperm⟩ := ih hrest
      exact ⟨first ++ ids', hfirst.append hids', hperm.append_left first⟩
  | swap x y slots =>
      obtain ⟨first, rest, rfl, hfirst, hrest⟩ := h.of_cons
      obtain ⟨second, rest', rfl, hsecond, hrest'⟩ := hrest.of_cons
      refine ⟨second ++ (first ++ rest'), hsecond.append (hfirst.append hrest'), ?_⟩
      rw [← List.append_assoc, ← List.append_assoc]
      exact List.perm_append_comm.append_right rest'
  | trans _ _ ih ih' =>
      obtain ⟨ids', hids', hperm⟩ := ih' h
      obtain ⟨ids'', hids'', hperm'⟩ := ih hids'
      exact ⟨ids'', hids'', hperm'.trans hperm⟩

theorem subperm (h : Spans links s roots ids) (hr : roots' <+~ roots) :
    ∃ ids', Spans links s roots' ids' ∧ ids' <+~ ids := by
  obtain ⟨mid, hmid, hsub⟩ := hr
  obtain ⟨ids', hids', hsub⟩ := h.sublist hsub
  obtain ⟨ids'', hids'', hperm⟩ := hids'.perm hmid.symm
  exact ⟨ids'', hids'', hperm.subperm.trans hsub.subperm⟩

/-- Where no token is found twice, no token is a root twice. -/
theorem nodup_roots (h : Spans links s roots ids) (hn : ids.Nodup) (hr : none ∉ roots) :
    roots.Nodup := by
  induction h with
  | nil => exact List.nodup_nil
  | absent => exact absurd List.mem_cons_self hr
  | token _ _ next _ ih =>
      obtain ⟨hnot, hn⟩ := List.nodup_cons.mp hn
      refine List.nodup_cons.mpr ⟨fun hmem => hnot ?_, ih (List.nodup_append.mp hn).2.1
        fun hmem => hr (List.mem_cons_of_mem _ hmem)⟩
      exact List.mem_append_right _ (next.root_mem hmem)

/-- On following fewer links, one finds some of the tokens. -/
theorem restrict {links' : Cell → List Slot} (h : Spans links s roots ids)
    (hl : ∀ c, links' c <+ links c) : ∃ ids', Spans links' s roots ids' ∧ ids' <+ ids := by
  induction h with
  | nil => exact ⟨[], .nil, .slnil⟩
  | absent _ ih =>
      obtain ⟨ids', h', hsub⟩ := ih
      exact ⟨ids', h'.absent, hsub⟩
  | token lt _ _ ihdown ihnext =>
      obtain ⟨all, hall, hsub⟩ := ihdown
      obtain ⟨below, hbelow, hsub'⟩ := hall.sublist (hl _)
      obtain ⟨rest, hrest, hsub''⟩ := ihnext
      exact ⟨_, .token lt hbelow hrest, ((hsub'.trans hsub).append hsub'').cons_cons _⟩

/-- An unshared tree without gaps is one without its comments, too. -/
theorem without_comments (h : Spans Cell.links s roots ids) (hn : ids.Nodup)
    (hpresent : ∀ u ∈ ids, none ∉ (s.cell u).links) :
    ∃ ids', Spans Cell.children s roots ids' ∧ ids'.Nodup ∧
      ∀ u ∈ ids', none ∉ (s.cell u).children := by
  obtain ⟨ids', h', hsub⟩ := h.restrict Cell.children_sublist_links
  refine ⟨ids', h', hn.sublist hsub, fun u hu hnone => ?_⟩
  exact hpresent u (hsub.subset hu) ((Cell.children_sublist_links _).subset hnone)

/-- Without duplicates there are no more tokens in the list than in the store. -/
theorem length_le_size (h : Spans links s roots ids) (hn : ids.Nodup) : ids.length ≤ s.size := by
  have hsub : ids <+~ List.range s.size :=
    List.subperm_of_subset hn fun u hu => List.mem_range.mpr (h.lt_size u hu)
  have := hsub.length_le
  rwa [List.length_range] at this

/-! ## Lists of all tokens below each slot -/

open Classical in
/-- The tokens found from one slot; none where the ways do not come to an end. -/
noncomputable def at_ (links : Cell → List Slot) (s : Store) (slot : Slot) : List TokenId :=
  if h : ∃ ids, Spans links s [slot] ids then h.choose else []

theorem at_eq (h : Spans links s [slot] ids) : at_ links s slot = ids := by
  have hex : ∃ ids, Spans links s [slot] ids := ⟨ids, h⟩
  rw [at_, dif_pos hex]
  exact hex.choose_spec.unique h

theorem spans_at (h : Spans links s roots ids) (hr : slot ∈ roots) :
    Spans links s [slot] (at_ links s slot) := by
  obtain ⟨before, after, rfl⟩ := List.append_of_mem hr
  obtain ⟨first, rest, -, -, hrest⟩ := h.of_append
  obtain ⟨own, -, -, hown, -⟩ := hrest.of_cons
  rwa [at_eq hown]

theorem eq_flatMap (h : Spans links s roots ids) : ids = roots.flatMap (at_ links s) := by
  induction roots generalizing ids with
  | nil =>
      cases h
      rfl
  | cons slot roots ih =>
      obtain ⟨first, rest, rfl, hfirst, hrest⟩ := h.of_cons
      rw [List.flatMap_cons, at_eq hfirst, ← ih hrest]

theorem mem_of_mem_at (h : Spans links s roots ids) (hr : slot ∈ roots)
    (ht : t ∈ at_ links s slot) : t ∈ ids := by
  rw [h.eq_flatMap]
  exact List.mem_flatMap.mpr ⟨slot, hr, ht⟩

/-- Nothing is found from two slots. -/
theorem at_disjoint (h : Spans links s roots ids) (hn : ids.Nodup) {slot' : Slot}
    (hr : slot ∈ roots) (hr' : slot' ∈ roots) (hne : slot ≠ slot') :
    ∀ u ∈ at_ links s slot, u ∉ at_ links s slot' := by
  intro u hu hu'
  have hsub : [slot, slot'] <+~ roots := by
    refine List.subperm_of_subset (by simpa using hne) ?_
    intro v hv
    simp only [List.mem_cons, List.not_mem_nil, or_false] at hv
    rcases hv with rfl | rfl
    · exact hr
    · exact hr'
  obtain ⟨both, hboth, hsub'⟩ := h.subperm hsub
  obtain ⟨mid, hperm, hmid⟩ := hsub'
  have hnboth : both.Nodup := hperm.nodup_iff.mp (hn.sublist hmid)
  have heq := hboth.eq_flatMap
  rw [List.flatMap_cons, List.flatMap_singleton] at heq
  rw [heq] at hnboth
  exact (List.nodup_append.mp hnboth).2.2 u hu u hu' rfl

end Spans

/-! ## Slots without gaps -/

/-- There is a token in the slot, and it is as described. -/
def Stands (P : TokenId → Prop) (slot : Slot) : Prop := ∃ t, slot = some t ∧ P t

namespace Store

/-- Below the tokens described no slot is empty, and all tokens are as described again. -/
def Closed (s : Store) (P : TokenId → Prop) : Prop :=
  ∀ t, P t → ∀ slot ∈ (s.cell t).children, Stands P slot

end Store

/-- The tokens found are closed when none of them has an empty slot. -/
theorem Spans.closed {s : Store} {roots : List Slot} {ids : List TokenId}
    (h : Spans Cell.children s roots ids) (hpresent : ∀ t ∈ ids, none ∉ (s.cell t).children) :
    s.Closed (· ∈ ids) := by
  intro t ht slot hslot
  cases slot with
  | none => exact absurd hslot (hpresent t ht)
  | some u => exact ⟨u, rfl, h.link_mem ht hslot⟩

/-! ## New tokens -/

namespace Store

variable {s s' s'' : Store} {t : TokenId}

/-- The tokens of a later store that an earlier one does not have. -/
def fresh (s s' : Store) : List TokenId := List.range' s.size (s'.size - s.size)

theorem mem_fresh : t ∈ s.fresh s' ↔ s.size ≤ t ∧ t < s'.size := by
  have h : ∀ m n k : Nat, m ≤ k ∧ k < m + (n - m) ↔ m ≤ k ∧ k < n := by omega
  unfold fresh
  rw [List.mem_range'_1]
  exact h _ _ _

theorem mem_fresh_of_le (h : s'.size ≤ s''.size) (ht : t ∈ s.fresh s') : t ∈ s.fresh s'' := by
  obtain ⟨hle, hlt⟩ := mem_fresh.mp ht
  exact mem_fresh.mpr ⟨hle, Nat.lt_of_lt_of_le hlt h⟩

theorem fresh_append (h : s.size ≤ s'.size) (h' : s'.size ≤ s''.size) :
    s.fresh s'' = s.fresh s' ++ s'.fresh s'' := by
  unfold fresh
  have : s'.size = s.size + (s'.size - s.size) := by omega
  rw [show List.range' s'.size (s''.size - s'.size) =
      List.range' (s.size + (s'.size - s.size)) (s''.size - s'.size) by rw [← this],
    List.range'_append_1]
  congr 1
  omega

theorem fresh_self : s.fresh s = [] := by
  rw [fresh, Nat.sub_self]
  rfl

/-- Tokens of a store and the new ones of a later store are different. -/
theorem nodup_append_fresh {ids : List TokenId} (hn : ids.Nodup) (hlt : ∀ t ∈ ids, t < s.size) :
    (ids ++ s.fresh s').Nodup := by
  rw [List.nodup_append]
  refine ⟨hn, List.nodup_range', fun a ha b hb hab => ?_⟩
  exact absurd (hab ▸ (mem_fresh.mp hb).1) (Nat.not_le_of_lt (hlt a ha))

end Store

/-- Some members of a list without duplicates, and the others. -/
theorem perm_append_filter {α : Type} [BEq α] [LawfulBEq α] {xs ys : List α} (hx : xs.Nodup)
    (hy : ys.Nodup) (hsub : ∀ y ∈ ys, y ∈ xs) : xs ~ ys ++ xs.filter (· ∉ ys) := by
  refine (List.perm_ext_iff_of_nodup hx (List.nodup_append.mpr ⟨hy, hx.filter _, ?_⟩)).mpr ?_
  · intro y hy' x hx' hxy
    have := (List.mem_filter.mp hx').2
    simp [← hxy, hy'] at this
  · intro x
    simp only [List.mem_append, List.mem_filter, decide_eq_true_eq]
    constructor
    · intro hx'
      by_cases hmem : x ∈ ys
      · exact Or.inl hmem
      · exact Or.inr ⟨hx', hmem⟩
    · rintro (hmem | ⟨hx', -⟩)
      · exact hsub x hmem
      · exact hx'

/-- Four lists put together in pairs. -/
theorem perm_exchange {α : Type} (as bs cs ds : List α) :
    (as ++ bs) ++ (cs ++ ds) ~ (as ++ cs) ++ (bs ++ ds) := by
  rw [List.append_assoc, List.append_assoc]
  refine List.Perm.append_left as ?_
  rw [← List.append_assoc, ← List.append_assoc]
  exact List.perm_append_comm.append_right ds

theorem nodup_of_subperm {α : Type} {xs ys : List α} (h : xs <+~ ys) (hy : ys.Nodup) :
    xs.Nodup := by
  obtain ⟨zs, hperm, hsub⟩ := h
  exact hperm.nodup_iff.mp (hy.sublist hsub)

theorem subperm_flatMap {α β : Type} {xs ys : List α} (h : xs <+~ ys) (f : α → List β) :
    xs.flatMap f <+~ ys.flatMap f := by
  obtain ⟨zs, hperm, hsub⟩ := h
  exact (hperm.symm.flatMap_right f).subperm.trans (hsub.flatMap f).subperm

/-! ## Slots found below others -/

/-- The tokens found from `roots` are among those found from `slots`, each at its own place. -/
def Within (s : Store) (slots roots : List Slot) : Prop :=
  ∃ ids, Spans Cell.children s roots ids ∧ ids <+~ slots.flatMap (Spans.at_ Cell.children s)

namespace Within

variable {s s' : Store} {slots slots' roots roots' : List Slot} {slot : Slot} {ids : List TokenId}

theorem of_spans (h : Spans Cell.children s slots ids) (hr : roots <+~ slots) :
    Within s slots roots := by
  obtain ⟨ids', hids', hsub⟩ := h.subperm hr
  rw [h.eq_flatMap] at hsub
  exact ⟨ids', hids', hsub⟩

theorem nil : Within s slots [] := ⟨[], .nil, List.nil_subperm⟩

theorem append (h : Within s slots roots) (h' : Within s slots' roots') :
    Within s (slots ++ slots') (roots ++ roots') := by
  obtain ⟨ids, hids, hsub⟩ := h
  obtain ⟨ids', hids', hsub'⟩ := h'
  refine ⟨ids ++ ids', hids.append hids', ?_⟩
  rw [List.flatMap_append]
  exact hsub.append hsub'

theorem trans (h : Within s slots slots') (h' : Within s slots' roots) : Within s slots roots := by
  obtain ⟨ids, hids, hsub⟩ := h
  obtain ⟨ids', hids', hsub'⟩ := h'
  rw [← hids.eq_flatMap] at hsub'
  exact ⟨ids', hids', hsub'.trans hsub⟩

theorem sub (h : Within s slots roots) (hr : roots' <+~ roots) : Within s slots roots' := by
  obtain ⟨ids, hids, hsub⟩ := h
  obtain ⟨ids', hids', hsub'⟩ := hids.subperm hr
  exact ⟨ids', hids', hsub'.trans hsub⟩

/-- The children of a token are found below it. -/
theorem children (h : Within s slots [slot]) : Within s slots (s.children slot) := by
  obtain ⟨ids, hids, hsub⟩ := h
  cases slot with
  | none => exact nil
  | some t =>
      obtain ⟨-, below, rfl, hbelow⟩ := hids.of_singleton
      exact ⟨below, hbelow, (List.sublist_cons_self t below).subperm.trans hsub⟩

theorem flatMap {α : Type} {f g : α → List Slot} {xs : List α}
    (h : ∀ x ∈ xs, Within s (f x) (g x)) : Within s (xs.flatMap f) (xs.flatMap g) := by
  induction xs with
  | nil => exact nil
  | cons x xs ih => exact (h x (by simp)).append (ih fun y hy => h y (by simp [hy]))

/-- What is found below some slots is found below more slots. -/
theorem mono (h : Within s slots roots) (hr : slots <+~ slots') : Within s slots' roots := by
  obtain ⟨ids, hids, hsub⟩ := h
  exact ⟨ids, hids, hsub.trans (subperm_flatMap hr _)⟩

theorem frame (h : Within s slots roots) (hslots : ∃ ids, Spans Cell.children s slots ids)
    (hsize : s.size ≤ s'.size)
    (same : ∀ u ∈ slots.flatMap (Spans.at_ Cell.children s),
      (s'.cell u).children = (s.cell u).children) : Within s' slots roots := by
  obtain ⟨ids, hids, hsub⟩ := h
  obtain ⟨all, hall⟩ := hslots
  have hall' : Spans Cell.children s' slots all :=
    hall.frame hsize fun u hu => same u (hall.eq_flatMap ▸ hu)
  refine ⟨ids, hids.frame hsize fun u hu => same u (hsub.subset hu), ?_⟩
  rwa [← hall'.eq_flatMap, hall.eq_flatMap]

end Within

/-! ## Computed

For a store that is given, the tokens found from some slots can be computed, with a bound for the
steps. -/

/-- The tokens found from some slots, in preorder; none when the bound is too small, or when a link
leads out of the store. -/
def Store.preorder (s : Store) (links : Cell → List Slot) : Nat → List Slot → Option (List TokenId)
  | _, [] => some []
  | 0, _ :: _ => none
  | n + 1, none :: slots => s.preorder links n slots
  | n + 1, some t :: slots =>
    if t < s.size then do
      let below ← s.preorder links n (links (s.cell t))
      let ids ← s.preorder links n slots
      return t :: (below ++ ids)
    else none

/-- What is computed is what is found. -/
theorem Spans.of_preorder {links : Cell → List Slot} {s : Store} {roots : List Slot}
    {ids : List TokenId} (n : Nat) (h : s.preorder links n roots = some ids) :
    Spans links s roots ids := by
  induction n generalizing roots ids with
  | zero =>
      cases roots with
      | nil =>
          cases h
          exact .nil
      | cons => cases h
  | succ n ih =>
      rcases roots with _ | ⟨_ | t, roots⟩
      · cases h
        exact .nil
      · exact .absent (ih h)
      · unfold Store.preorder at h
        split at h
        case isFalse => cases h
        rename_i hlt
        obtain ⟨below, hbelow, h⟩ := Option.bind_eq_some_iff.mp h
        obtain ⟨rest, hrest, h⟩ := Option.bind_eq_some_iff.mp h
        cases h
        exact .token hlt (ih hbelow) (ih hrest)

/-- Tokens that are found can be computed together with a property of them. -/
theorem Spans.exists_of_preorder {links : Cell → List Slot} {s : Store} {roots : List Slot}
    {P : List TokenId → Prop} (n : Nat) (h : ∃ ids ∈ s.preorder links n roots, P ids) :
    ∃ ids, Spans links s roots ids ∧ P ids := by
  obtain ⟨ids, hids, hP⟩ := h
  exact ⟨ids, .of_preorder n hids, hP⟩

end ClassLift
