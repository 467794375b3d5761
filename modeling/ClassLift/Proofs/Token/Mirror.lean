import ClassLift.Proofs.Token.Frame
import ClassLift.Token.Alike
import Mathlib.Data.List.Forall2
import Mathlib.Data.List.Nodup

set_option autoImplicit false

/-! # Mirrored stores

Two stores mirror each other by a relation `R` of their tokens when related tokens agree in kind
and value, and their children are related, too, place by place (`Mirror`). Numbers, places, files
and comments do not count. What is found from two alike slots, in preorder, is a mirror
(`mirror_of_alike`), and related tokens are alike (`Mirror.alikeAcrossTo`).

Tokens that are new in both stores are added to the relation (`Mirror.push`), and the children of
related tokens may be changed alike (`Mirror.alter`), those of tokens without partners in any way
(`Mirror.elsewhere`).
-/

namespace ClassLift

open List

variable {s s' t t' : Store} {R R' : TokenId → TokenId → Prop} {x x' y y' : Slot}
  {u v a b : TokenId} {n m k : Nat} {ids ids' : List TokenId} {xs xs' ys ys' : List Slot}

/-! ## Alike in two stores -/

namespace Store

/-- Are two slots, each of its own store, alike down to a depth of `depth` tokens? -/
def alikeAcrossTo (s s' : Store) : Nat → Slot → Slot → Bool
  | _, none, none => true
  | _, none, some _ => false
  | _, some _, none => false
  | 0, some _, some _ => true
  | depth + 1, some t, some u =>
    (s.cell t).label.kind == (s'.cell u).label.kind
      && (s.cell t).label.value == (s'.cell u).label.value
      && allFromLast (s.alikeAcrossTo s' depth) (s.cell t).children (s'.cell u).children

/-- Are two slots, each of its own store, alike? -/
def alikeAcross (s s' : Store) (x y : Slot) : Bool := s.alikeAcrossTo s' s.size x y

theorem allFromLast_iff {test : Slot → Slot → Bool} :
    allFromLast test xs ys = true ↔ Forall₂ (fun x y => test x y = true) xs ys := by
  rw [allFromLast, List.all_reverse, Bool.and_eq_true, beq_iff_eq, List.all_eq_true,
    List.forall₂_iff_zip]
  constructor
  · rintro ⟨hlength, hall⟩
    exact ⟨hlength, fun hmem => hall _ hmem⟩
  · rintro ⟨hlength, hall⟩
    exact ⟨hlength, fun p hmem => hall hmem⟩

theorem alikeAcrossTo_some {depth : Nat} :
    s.alikeAcrossTo s' (depth + 1) (some u) (some v) = true ↔
      (s.cell u).label.kind = (s'.cell v).label.kind ∧
        (s.cell u).label.value = (s'.cell v).label.value ∧
        Forall₂ (fun x y => s.alikeAcrossTo s' depth x y = true) (s.cell u).children
          (s'.cell v).children := by
  rw [alikeAcrossTo, Bool.and_eq_true, Bool.and_eq_true, beq_iff_eq, beq_iff_eq, allFromLast_iff,
    and_assoc]

/-! ## How deep it is below a slot -/

/-- There are at most so many tokens on a way down from the slot. -/
inductive Fits (s : Store) : Nat → Slot → Prop where
  | absent (n : Nat) : Fits s n none
  | token {n : Nat} {t : TokenId} (below : ∀ c ∈ (s.cell t).children, Fits s n c) :
      Fits s (n + 1) (some t)

theorem Fits.mono (h : s.Fits n x) (hm : n ≤ m) : s.Fits m x := by
  induction h generalizing m with
  | absent => exact .absent m
  | token _ ih =>
      obtain ⟨m, rfl⟩ : ∃ k, m = k + 1 := ⟨m - 1, by omega⟩
      exact .token fun c hc => ih c hc (by omega)

end Store

/-- Below a token that is found there are no more tokens than all that are found. -/
theorem Spans.fits (h : Spans Cell.children s xs ids) : ∀ t ∈ ids, s.Fits ids.length (some t) := by
  have hroots : ∀ {xs : List Slot} {ids : List TokenId}, Spans Cell.children s xs ids →
      ∀ slot ∈ xs, s.Fits ids.length slot := by
    intro xs ids h
    induction h with
    | nil => simp
    | absent _ ih =>
        intro slot hslot
        rcases List.mem_cons.mp hslot with rfl | hslot
        · exact .absent _
        · exact ih slot hslot
    | token _ _ _ ihdown ihnext =>
        intro slot hslot
        rw [List.length_cons, List.length_append]
        rcases List.mem_cons.mp hslot with rfl | hslot
        · exact .token fun c hc => (ihdown c hc).mono (by omega)
        · exact (ihnext slot hslot).mono (by omega)
  intro t ht
  obtain ⟨below, hbelow, hinfix⟩ := h.below_mem ht
  exact (hroots hbelow _ List.mem_cons_self).mono hinfix.length_le

/-! ## Mirrors -/

/-- The slots hold related tokens, or both hold none. -/
inductive Partners (R : TokenId → TokenId → Prop) : Slot → Slot → Prop where
  | none : Partners R none none
  | some {t u : TokenId} (rel : R t u) : Partners R (some t) (some u)

theorem Partners.mono (h : Partners R x y) (hR : ∀ t u, R t u → R' t u) : Partners R' x y := by
  cases h with
  | none => exact .none
  | some h => exact .some (hR _ _ h)

theorem Partners.isSome (h : Partners R x y) : y.isSome = x.isSome := by
  cases h <;> rfl

theorem Partners.toList (h : Partners R x y) :
    Forall₂ (Partners R) (x.toList.map Option.some) (y.toList.map Option.some) := by
  cases h with
  | none => exact .nil
  | some hR => exact .cons (.some hR) .nil

theorem Partners.mono_list (h : Forall₂ (Partners R) xs ys) (hR : ∀ t u, R t u → R' t u) :
    Forall₂ (Partners R') xs ys :=
  h.imp fun _ _ hxy => hxy.mono hR

/-- The cells say the same, and their children are partners, place by place. -/
structure Cell.Twins (R : TokenId → TokenId → Prop) (c c' : Cell) : Prop where
  kind : c.label.kind = c'.label.kind
  value : c.label.value = c'.label.value
  children : Forall₂ (Partners R) c.children c'.children

theorem Cell.Twins.mono {c c' : Cell} (h : c.Twins R c') (hR : ∀ t u, R t u → R' t u) :
    c.Twins R' c' :=
  ⟨h.kind, h.value, Partners.mono_list h.children hR⟩

/-- Partners are alike where related tokens say the same, and so on below them. -/
theorem alikeAcrossTo_of_twins (h : ∀ u v, R u v → (s.cell u).Twins R (s'.cell v)) (n : Nat)
    (hxy : Partners R x y) : s.alikeAcrossTo s' n x y = true := by
  induction n generalizing x y with
  | zero => cases hxy <;> rfl
  | succ n ih =>
      cases hxy with
      | none => rfl
      | some hR =>
          obtain ⟨hkind, hvalue, hchildren⟩ := h _ _ hR
          exact Store.alikeAcrossTo_some.mpr ⟨hkind, hvalue, hchildren.imp fun _ _ hxy => ih hxy⟩

/-- The two stores agree in all that the relation relates: each token has one partner at most, and
the two say the same. -/
structure Mirror (R : TokenId → TokenId → Prop) (s s' : Store) : Prop where
  left : ∀ {t u u' : TokenId}, R t u → R t u' → u = u'
  right : ∀ {t t' u : TokenId}, R t u → R t' u → t = t'
  lt : ∀ {t u : TokenId}, R t u → t < s.size ∧ u < s'.size
  cell : ∀ {t u : TokenId}, R t u → (s.cell t).Twins R (s'.cell u)

/-- Each of the tokens is its own partner. -/
def Itself (ids : List TokenId) (t u : TokenId) : Prop := t = u ∧ t ∈ ids

theorem Spans.itself {roots : List Slot} (h : Spans Cell.children s roots ids) :
    ∀ slot ∈ roots, Partners (Itself ids) slot slot := by
  intro slot hslot
  cases slot with
  | none => exact .none
  | some t => exact .some ⟨rfl, h.root_mem hslot⟩

theorem Partners.eq_of_itself (h : Partners (Itself ids) x y) : x = y := by
  cases h with
  | none => rfl
  | some hR => exact congrArg Option.some hR.1

/-- Tokens that have the same cells in both stores are the mirror of themselves. -/
theorem Mirror.of_same (hlt : ∀ u ∈ ids, u < s.size) (hsize : s.size ≤ s'.size)
    (hclosed : ∀ t ∈ ids, ∀ c, some c ∈ (s.cell t).children → c ∈ ids)
    (hsame : ∀ u ∈ ids, s'.cell u = s.cell u) : Mirror (Itself ids) s s' where
  left hR hR' := hR.1.symm.trans hR'.1
  right hR hR' := hR.1.trans hR'.1.symm
  lt {t u} hR := by
    obtain ⟨rfl, ht⟩ := hR
    exact ⟨hlt t ht, Nat.lt_of_lt_of_le (hlt t ht) hsize⟩
  cell {t u} hR := by
    obtain ⟨rfl, ht⟩ := hR
    rw [hsame t ht]
    refine ⟨rfl, rfl, List.forall₂_same.mpr fun c hc => ?_⟩
    cases c with
    | none => exact .none
    | some c => exact .some ⟨rfl, hclosed t ht c hc⟩

namespace Mirror

theorem kind (h : Mirror R s s') (hR : R u v) : (s.cell u).label.kind = (s'.cell v).label.kind :=
  (h.cell hR).kind

theorem value (h : Mirror R s s') (hR : R u v) : (s.cell u).label.value = (s'.cell v).label.value :=
  (h.cell hR).value

theorem children (h : Mirror R s s') (hR : R u v) :
    Forall₂ (Partners R) (s.cell u).children (s'.cell v).children :=
  (h.cell hR).children

/-- Partners are alike. -/
theorem alikeAcrossTo (h : Mirror R s s') (n : Nat) (hxy : Partners R x y) :
    s.alikeAcrossTo s' n x y = true :=
  alikeAcrossTo_of_twins (fun _ _ hR => h.cell hR) n hxy

/-- Slots are equal where their partners are. -/
theorem eq_iff (h : Mirror R s s') (hx : Partners R x x') (hy : Partners R y y') :
    x = y ↔ x' = y' := by
  cases hx with
  | none => cases hy <;> simp
  | some hx =>
      cases hy with
      | none => simp
      | some hy =>
          rw [Option.some_inj, Option.some_inj]
          constructor
          · rintro rfl
            exact h.left hx hy
          · rintro rfl
            exact h.right hx hy

theorem slot_children (h : Mirror R s s') (hx : Partners R x x') :
    Forall₂ (Partners R) (s.children x) (s'.children x') := by
  cases hx with
  | none => exact .nil
  | some hR => exact h.children hR

theorem hasKind (h : Mirror R s s') (hx : Partners R x x') (kind : Kind) :
    s'.hasKind kind x' = s.hasKind kind x := by
  cases hx with
  | none => rfl
  | @some t u hR =>
      show ((s'.cell u).label.kind == kind) = ((s.cell t).label.kind == kind)
      rw [h.kind hR]

theorem isToken (h : Mirror R s s') (hx : Partners R x x') (kind : Kind) (value : String) :
    s'.isToken kind value x' = s.isToken kind value x := by
  cases hx with
  | none => rfl
  | @some t u hR =>
      show ((s'.cell u).label.kind == kind && (s'.cell u).label.value == value) =
        ((s.cell t).label.kind == kind && (s.cell t).label.value == value)
      rw [h.kind hR, h.value hR]

theorem slot_value (h : Mirror R s s') (hx : Partners R x x') : s'.value x' = s.value x := by
  cases hx with
  | none => rfl
  | some hR => exact (h.value hR).symm

/-- The mirror of those tokens only which have a property that their children have with them. -/
theorem restrict (h : Mirror R s s') {P : TokenId → Prop}
    (hP : ∀ t, P t → ∀ c, some c ∈ (s.cell t).children → P c) :
    Mirror (fun t u => R t u ∧ P t) s s' where
  left hR hR' := h.left hR.1 hR'.1
  right hR hR' := h.right hR.1 hR'.1
  lt hR := h.lt hR.1
  cell {t u} hR := by
    refine ⟨h.kind hR.1, h.value hR.1, ?_⟩
    have hchildren := h.children hR.1
    have hown := hP t hR.2
    generalize (s.cell t).children = xs at hchildren hown
    generalize (s'.cell u).children = ys at hchildren
    induction hchildren with
    | nil => exact .nil
    | @cons x y xs ys hxy _ ih =>
        refine .cons ?_ (ih fun c hc => hown c (List.mem_cons_of_mem x hc))
        cases hxy with
        | none => exact .none
        | some hxy => exact .some ⟨hxy, hown _ List.mem_cons_self⟩

end Mirror

/-! ## Structural equality does not depend on the store -/

theorem Store.allFromLast_congr {f g : Slot → Slot → Bool} {P Q : Slot → Slot → Prop}
    (hx : Forall₂ P xs xs') (hy : Forall₂ Q ys ys')
    (h : ∀ x x' y y', y ∈ ys → P x x' → Q y y' → f x y = g x' y') :
    allFromLast f xs ys = allFromLast g xs' ys' := by
  rw [allFromLast, allFromLast, List.all_reverse, List.all_reverse, hx.length_eq, hy.length_eq]
  congr 1
  induction hx generalizing ys ys' with
  | nil => rfl
  | cons hfirst _ ih =>
      cases hy with
      | nil => rfl
      | @cons y y' ys ys' hfirst' hrest' =>
          rw [List.zip_cons_cons, List.zip_cons_cons, List.all_cons, List.all_cons,
            ih hrest' fun x x' y y' hmem => h x x' y y' (List.mem_cons_of_mem _ hmem)]
          congr 1
          exact h _ _ _ _ List.mem_cons_self hfirst hfirst'

/-- Two slots are alike if and only if their partners are, when one looks deep enough. -/
theorem Mirror.alikeTo (h : Mirror R s s') (hx : Partners R x x') (hy : Partners R y y')
    (hfits : s.Fits k y) (hn : k ≤ n) (hm : k ≤ m) : s'.alikeTo m x' y' = s.alikeTo n x y := by
  induction k generalizing n m x x' y y' with
  | zero =>
      cases hfits
      cases hy
      cases hx <;> cases n <;> cases m <;> rfl
  | succ k ih =>
      obtain ⟨n, rfl⟩ : ∃ i, n = i + 1 := ⟨n - 1, by omega⟩
      obtain ⟨m, rfl⟩ : ∃ i, m = i + 1 := ⟨m - 1, by omega⟩
      cases hy with
      | none => cases hx <;> rfl
      | @some t u hR =>
          cases hx with
          | none => rfl
          | some hR' =>
              cases hfits with
              | token below =>
                  rw [Store.alikeTo, Store.alikeTo, h.kind hR, h.value hR, h.kind hR', h.value hR']
                  congr 1
                  exact (Store.allFromLast_congr (h.children hR') (h.children hR)
                    fun x x' y y' hmem hx hy =>
                      (ih hx hy (below y hmem) (by omega) (by omega)).symm).symm

/-! ## What is found from partners -/

namespace Mirror

/-- What is found from partners is related, in order. -/
theorem spans (h : Mirror R s s') (hs : Spans Cell.children s xs ids)
    (hxs : Forall₂ (Partners R) xs xs') :
    ∃ ids', Spans Cell.children s' xs' ids' ∧ Forall₂ R ids ids' := by
  induction hs generalizing xs' with
  | nil =>
      cases hxs
      exact ⟨[], .nil, .nil⟩
  | absent _ ih =>
      cases hxs with
      | cons hfirst hrest =>
          cases hfirst
          obtain ⟨ids', hids', hall⟩ := ih hrest
          exact ⟨ids', hids'.absent, hall⟩
  | token _ _ _ ihdown ihnext =>
      cases hxs with
      | cons hfirst hrest =>
          cases hfirst with
          | @some _ u hR =>
              obtain ⟨below', hbelow', hdown⟩ := ihdown (h.children hR)
              obtain ⟨rest', hrest', hnext⟩ := ihnext hrest
              exact ⟨u :: (below' ++ rest'), .token (h.lt hR).2 hbelow' hrest',
                .cons hR (List.rel_append hdown hnext)⟩

/-- Different tokens have different partners. -/
theorem nodup (h : Mirror R s s') (hall : Forall₂ R ids ids') (hn : ids.Nodup) : ids'.Nodup := by
  induction hall with
  | nil => exact List.nodup_nil
  | @cons t u ids ids' hR hall ih =>
      obtain ⟨hnot, hn⟩ := List.nodup_cons.mp hn
      refine List.nodup_cons.mpr ⟨fun hu => hnot ?_, ih hn⟩
      obtain ⟨i, hi, rfl⟩ := List.getElem_of_mem hu
      have hi' : i < ids.length := hall.length_eq ▸ hi
      obtain rfl := h.right hR (hall.get hi' hi)
      exact List.getElem_mem hi'

/-- Neither store has fewer tokens than there are on a way down from a related token. -/
def Shallow (R : TokenId → TokenId → Prop) (s s' : Store) : Prop :=
  ∀ t u, R t u → s.Fits (min s.size s'.size) (some t)

theorem length_le (h : Mirror R s s') (hs : Spans Cell.children s xs ids) (hn : ids.Nodup)
    (hxs : Forall₂ (Partners R) xs xs') : ids.length ≤ min s.size s'.size := by
  obtain ⟨ids', hids', hall⟩ := h.spans hs hxs
  refine Nat.le_min.mpr ⟨hs.length_le_size hn, ?_⟩
  rw [hall.length_eq]
  exact hids'.length_le_size (h.nodup hall hn)

/-- Among the tokens found from partners, none has more tokens below it than the stores have. -/
theorem shallow (h : Mirror R s s') (hs : Spans Cell.children s xs ids) (hn : ids.Nodup)
    (hxs : Forall₂ (Partners R) xs xs') : Shallow (fun t u => R t u ∧ t ∈ ids) s s' :=
  fun t _ hR => (hs.fits t hR.2).mono (h.length_le hs hn hxs)

/-- Partners are alike to the same slots, when it is not deep below these. -/
theorem alike (h : Mirror R s s') (hx : Partners R x x') (hy : Partners R y y')
    (hfits : s.Fits (min s.size s'.size) y) : s'.alike x' y' = s.alike x y :=
  h.alikeTo hx hy hfits (Nat.min_le_left _ _) (Nat.min_le_right _ _)

end Mirror

/-! ## Changes of both stores -/

/-- Neither of the two tokens has a partner. -/
def Spares (R : TokenId → TokenId → Prop) (a b : TokenId) : Prop := ∀ t u, R t u → t ≠ a ∧ u ≠ b

/-- The relation with one more pair. -/
def Also (R : TokenId → TokenId → Prop) (a b : TokenId) (t u : TokenId) : Prop :=
  R t u ∨ (t = a ∧ u = b)

namespace Mirror

/-- The stores have got more tokens, but the old ones are as they were. -/
theorem grow (h : Mirror R s s') (hs : Frame s t fun _ => False) (hs' : Frame s' t' fun _ => False) :
    Mirror R t t' where
  left := h.left
  right := h.right
  lt hR := ⟨Nat.lt_of_lt_of_le (h.lt hR).1 hs.size_le, Nat.lt_of_lt_of_le (h.lt hR).2 hs'.size_le⟩
  cell hR := by
    rw [hs.cell (h.lt hR).1 id, hs'.cell (h.lt hR).2 id]
    exact h.cell hR

/-- Each store has got one more token, and the two are twins. -/
theorem push {c c' : Cell} (h : Mirror R s s') (hc : c.Twins R c') :
    Mirror (Also R s.size s'.size) (s.push c) (s'.push c') := by
  have hgrown := h.grow (Frame.push s c) (Frame.push s' c')
  -- the new tokens had no partners
  have hne : ∀ {t u : TokenId}, R t u → t ≠ s.size ∧ u ≠ s'.size := fun hR =>
    ⟨Nat.ne_of_lt (h.lt hR).1, Nat.ne_of_lt (h.lt hR).2⟩
  have hmono : ∀ t u, R t u → Also R s.size s'.size t u := fun _ _ => Or.inl
  constructor
  · rintro t u u' (hR | ⟨rfl, rfl⟩) (hR' | ⟨ht, rfl⟩)
    · exact h.left hR hR'
    · exact absurd ht (hne hR).1
    · exact absurd rfl (hne hR').1
    · rfl
  · rintro t t' u (hR | ⟨rfl, rfl⟩) (hR' | ⟨rfl, hu⟩)
    · exact h.right hR hR'
    · exact absurd hu (hne hR).2
    · exact absurd rfl (hne hR').2
    · rfl
  · rintro t u (hR | ⟨rfl, rfl⟩)
    · exact hgrown.lt hR
    · exact ⟨s.size_lt_push c, s'.size_lt_push c'⟩
  · rintro t u (hR | ⟨rfl, rfl⟩)
    · exact (hgrown.cell hR).mono hmono
    · rw [Store.cell_push_eq, Store.cell_push_eq]
      exact hc.mono hmono

/-- Two partners have got other children, again partners. -/
theorem alter (h : Mirror R s s') (hab : R a b) (hs : s.Alters t a xs) (hs' : s'.Alters t' b xs')
    (hxs : Forall₂ (Partners R) xs xs') : Mirror R t t' where
  left := h.left
  right := h.right
  lt hR := by
    rw [hs.size, hs'.size]
    exact h.lt hR
  cell {u v} hR := by
    by_cases hu : u = a
    · subst hu
      obtain rfl := h.left hR hab
      rw [hs.own, hs'.own]
      exact ⟨h.kind hR, h.value hR, hxs⟩
    · have hv : v ≠ b := by
        rintro rfl
        exact hu (h.right hR hab)
      rw [hs.others u hu, hs'.others v hv]
      exact h.cell hR

/-- Tokens without partners have got other children. -/
theorem elsewhere (h : Mirror R s s') (hapart : Spares R a b) (hs : s.Alters t a xs)
    (hs' : s'.Alters t' b xs') : Mirror R t t' where
  left := h.left
  right := h.right
  lt hR := by
    rw [hs.size, hs'.size]
    exact h.lt hR
  cell {u v} hR := by
    obtain ⟨hu, hv⟩ := hapart u v hR
    rw [hs.others u hu, hs'.others v hv]
    exact h.cell hR

end Mirror

/-! ## The mirror of alike slots -/

/-- The two tokens stand at the same place of the two lists. -/
def SamePlace (ids ids' : List TokenId) (t u : TokenId) : Prop := (t, u) ∈ ids.zip ids'

namespace SamePlace

theorem flip (h : SamePlace ids ids' a b) : SamePlace ids' ids b a := by
  obtain ⟨i, hi, he⟩ := List.getElem_of_mem h
  rw [List.getElem_zip, Prod.mk.injEq] at he
  rw [List.length_zip] at hi
  refine List.mem_iff_getElem.mpr ⟨i, ?_, ?_⟩
  · rw [List.length_zip]
    omega
  · rw [List.getElem_zip, he.1, he.2]

theorem unique (hn : ids.Nodup) (h : SamePlace ids ids' a b) (h' : SamePlace ids ids' a v) :
    b = v := by
  obtain ⟨i, hi, he⟩ := List.getElem_of_mem h
  obtain ⟨j, hj, he'⟩ := List.getElem_of_mem h'
  rw [List.getElem_zip, Prod.mk.injEq] at he he'
  rw [List.length_zip] at hi hj
  have hij : i = j := (List.Nodup.getElem_inj_iff hn).mp (he.1.trans he'.1.symm)
  subst hij
  exact he.2.symm.trans he'.2

/-- The lists below two tokens, and those after them, in one. -/
theorem cons_append {more more' : List TokenId} (hlength : ids.length = ids'.length)
    (h : SamePlace (a :: (ids ++ more)) (b :: (ids' ++ more')) u v) :
    (u = a ∧ v = b) ∨ SamePlace ids ids' u v ∨ SamePlace more more' u v := by
  rw [SamePlace, List.zip_cons_cons, List.zip_append hlength, List.mem_cons, List.mem_append,
    Prod.mk.injEq] at h
  exact h

theorem below {more more' : List TokenId} (hlength : ids.length = ids'.length)
    (h : SamePlace ids ids' u v) : SamePlace (a :: (ids ++ more)) (b :: (ids' ++ more')) u v := by
  rw [SamePlace, List.zip_cons_cons, List.zip_append hlength]
  exact List.mem_cons_of_mem _ (List.mem_append_left _ h)

theorem after {more more' : List TokenId} (hlength : ids.length = ids'.length)
    (h : SamePlace more more' u v) : SamePlace (a :: (ids ++ more)) (b :: (ids' ++ more')) u v := by
  rw [SamePlace, List.zip_cons_cons, List.zip_append hlength]
  exact List.mem_cons_of_mem _ (List.mem_append_right _ h)

end SamePlace

/-- What is found from alike slots is as many tokens, and those at the same places agree. -/
theorem Spans.same_place (h : Spans Cell.children s xs ids) (h' : Spans Cell.children s' xs' ids')
    (halike : Forall₂ (fun x y => s.alikeAcrossTo s' n x y = true) xs xs') (hn : ids.length ≤ n) :
    ids.length = ids'.length ∧ Forall₂ (Partners (SamePlace ids ids')) xs xs' ∧
      ∀ t u, SamePlace ids ids' t u → (s.cell t).Twins (SamePlace ids ids') (s'.cell u) := by
  induction h generalizing n xs' ids' with
  | nil =>
      cases halike
      cases h'
      exact ⟨rfl, .nil, fun t u ht => by cases ht⟩
  | absent _ ih =>
      cases halike with
      | @cons _ y _ ys hfirst hrest =>
          cases h' with
          | absent h' =>
              obtain ⟨hlength, hpartners, hall⟩ := ih h' hrest hn
              exact ⟨hlength, .cons .none hpartners, hall⟩
          | token => cases n <;> cases hfirst
  | @token t xs below rest _ _ _ ihdown ihnext =>
      -- what is found below the token is shorter by one, so one may look one step less deep
      rw [List.length_cons, List.length_append] at hn
      cases halike with
      | @cons _ y _ ys hfirst hrest =>
          obtain ⟨n, rfl⟩ : ∃ k, n = k + 1 := ⟨n - 1, by omega⟩
          cases h' with
          | absent => cases hfirst
          | @token u _ below' rest' _ down' next' =>
              obtain ⟨hkind, hvalue, hchildren⟩ := Store.alikeAcrossTo_some.mp hfirst
              obtain ⟨hlength, hpartners, hall⟩ := ihdown down' hchildren (by omega)
              obtain ⟨hlength', hpartners', hall'⟩ := ihnext next' hrest (by omega)
              refine ⟨?_, .cons (.some List.mem_cons_self) ?_, fun v w hv => ?_⟩
              · rw [List.length_cons, List.length_cons, List.length_append, List.length_append,
                  hlength, hlength']
              · exact Partners.mono_list hpartners' fun _ _ => SamePlace.after hlength
              · rcases hv.cons_append hlength with ⟨rfl, rfl⟩ | hv | hv
                · exact ⟨hkind, hvalue, Partners.mono_list hpartners fun _ _ => SamePlace.below hlength⟩
                · exact (hall v w hv).mono fun _ _ => SamePlace.below hlength
                · exact (hall' v w hv).mono fun _ _ => SamePlace.after hlength

/-- The tokens of two alike trees without shared tokens, in preorder, are a mirror. -/
theorem mirror_of_alike (h : Spans Cell.children s [x] ids) (hn : ids.Nodup)
    (h' : Spans Cell.children s' [x'] ids') (hn' : ids'.Nodup) (halike : s.alikeAcross s' x x' = true) :
    Mirror (SamePlace ids ids') s s' ∧ Partners (SamePlace ids ids') x x' := by
  obtain ⟨-, hpartners, hall⟩ := h.same_place h' (.cons halike .nil) (h.length_le_size hn)
  cases hpartners with
  | cons hroot _ =>
      refine ⟨⟨SamePlace.unique hn, fun hR hR' => SamePlace.unique hn' hR.flip hR'.flip, fun hR => ?_,
        hall _ _⟩, hroot⟩
      exact ⟨h.lt_size _ (List.of_mem_zip hR).1, h'.lt_size _ (List.of_mem_zip hR).2⟩

end ClassLift
