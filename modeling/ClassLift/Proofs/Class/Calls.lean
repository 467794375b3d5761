import ClassLift.Proofs.Class.Touch
import ClassLift.Proofs.Token.Mirror

set_option autoImplicit false

/-! # Which calls become super calls

Whether a statement calls the super class can be told at any time, as long as the call itself and its
argument list are as they were (`Frame.superCall?_eq`): all that is compared are names, and names are
never edited. So the calls that a constructor's body has at the start are the ones that a commit
edits, each of them once, and it edits no others (`Ready.commit_calls`).
-/

namespace ClassLift

open List

variable {s s' s'' : Store} {edited : TokenId → Prop} {roots : List Slot} {ids : List TokenId}
  {t u a : TokenId} {superClass slot x : Slot} {n m k : Nat}

/-! ## Names -/

namespace Store

/-- A name, or a chain of member accesses that starts with a name, with nothing else below; it is at
most so many tokens deep. -/
inductive Names (s : Store) : Nat → TokenId → Prop where
  | word {n : Nat} {t : TokenId} (kind : (s.cell t).label.kind ∈ [Kind.text, Kind.memberName])
      (children : (s.cell t).children = []) : Names s (n + 1) t
  | member {n : Nat} {t object attr : TokenId} (kind : (s.cell t).label.kind = Kind.member)
      (children : (s.cell t).children = [some object, some attr]) (starts : Names s n object)
      (ends : Names s n attr) : Names s (n + 1) t

namespace Names

theorem kind_mem (h : s.Names n t) :
    (s.cell t).label.kind ∈ [Kind.text, Kind.memberName, Kind.member] := by
  cases h with
  | word kind =>
      rcases List.mem_cons.mp kind with kind | kind
      · rw [kind]
        decide
      · rw [List.mem_singleton.mp kind]
        decide
  | member kind =>
      rw [kind]
      decide

theorem not_edited (h : s.Names n t) : (s.cell t).label.kind ∉ Kind.edited := by
  intro hmem
  have hkind := h.kind_mem
  generalize (s.cell t).label.kind = kind at hmem hkind
  simp only [List.mem_cons, List.not_mem_nil, or_false] at hkind
  rcases hkind with rfl | rfl | rfl <;> exact absurd hmem (by decide)

theorem lt_size (h : s.Names n t) : t < s.size := by
  have hkind := h.kind_mem
  simp only [List.mem_cons, List.not_mem_nil, or_false] at hkind
  rcases hkind with hk | hk | hk <;>
    exact lt_size_of_hasKind (hasKind_of_cell rfl hk) (by decide)

theorem mono (h : s.Names n t) (hm : n ≤ m) : s.Names m t := by
  induction h generalizing m with
  | word kind children =>
      obtain ⟨m, rfl⟩ : ∃ i, m = i + 1 := ⟨m - 1, by omega⟩
      exact .word kind children
  | member kind children _ _ ihs ihe =>
      obtain ⟨m, rfl⟩ : ∃ i, m = i + 1 := ⟨m - 1, by omega⟩
      exact .member kind children (ihs (by omega)) (ihe (by omega))

end Names

theorem Fits.names (hfits : s.Fits n (some t))
    (kind : (s.cell t).label.kind ∈ [Kind.text, Kind.memberName])
    (children : (s.cell t).children = []) : s.Names n t := by
  cases hfits with
  | token => exact .word kind children

/-- A class reference is a name, in a tree in which nothing stands below words. -/
theorem names_of_isClassReferenceTo {depth : Nat} (hspans : Spans Cell.children s roots ids)
    (hleaf : ∀ u ∈ ids, (s.cell u).label.kind ∈ [Kind.text, Kind.memberName] →
      (s.cell u).children = [])
    (ht : t ∈ ids) (hfits : s.Fits n (some t))
    (h : s.isClassReferenceTo depth (some t) = .ok true) : s.Names n t := by
  -- down the chain of member accesses, as the check goes
  induction depth generalizing n t with
  | zero =>
      unfold isClassReferenceTo at h
      obtain ⟨l, hl, h⟩ := bind_eq_ok.mp h
      cases hl
      split at h
      · cases h
      · have hkind : (s.cell t).label.kind = Kind.text := by
          simpa using (Except.ok.inj h)
        have hword : (s.cell t).label.kind ∈ [Kind.text, Kind.memberName] := by simp [hkind]
        exact hfits.names hword (hleaf t ht hword)
  | succ depth ih =>
      unfold isClassReferenceTo at h
      obtain ⟨l, hl, h⟩ := bind_eq_ok.mp h
      cases hl
      split at h
      case isFalse =>
        have hkind : (s.cell t).label.kind = Kind.text := by
          simpa using (Except.ok.inj h)
        have hword : (s.cell t).label.kind ∈ [Kind.text, Kind.memberName] := by simp [hkind]
        exact hfits.names hword (hleaf t ht hword)
      case isTrue hmember =>
        split at h
        case h_2 => cases h
        rename_i object attr heq hchildren
        cases heq
        obtain ⟨l, hl, hrest⟩ := bind_eq_ok.mp h
        split at hrest
        case isFalse => cases hrest
        rename_i hattr
        obtain ⟨w, rfl, rfl⟩ := exists_token_of_label hl
        have hchildren : (s.cell t).children = [object, some w] := hchildren
        obtain ⟨o, rfl⟩ : ∃ o, object = some o := by
          cases object with
          | none => cases depth <;> cases hrest
          | some o => exact ⟨o, rfl⟩
        have ho : o ∈ ids := hspans.link_mem ht (by rw [hchildren]; simp)
        have hw : w ∈ ids := hspans.link_mem ht (by rw [hchildren]; simp)
        cases hfits with
        | token below =>
            have hfitso := below (some o) (by rw [hchildren]; simp)
            have hfitsw := below (some w) (by rw [hchildren]; simp)
            have hword : (s.cell w).label.kind ∈ [Kind.text, Kind.memberName] := by simp [hattr]
            exact .member hmember.1 hchildren (ih ho hfitso hrest)
              (hfitsw.names hword (hleaf w hw hword))

end Store

open Store

/-! ## The same names at any time -/

/-- What may be edited is of the kinds that a visit edits. -/
def Editable (s : Store) (edited : TokenId → Prop) : Prop :=
  ∀ u < s.size, edited u → (s.cell u).label.kind ∈ Kind.edited

namespace Frame

variable (h : Frame s s' edited) (he : Editable s edited)

include h he

theorem cell_of_kind (ht : t < s.size) (hkind : (s.cell t).label.kind ∉ Kind.edited) :
    s'.cell t = s.cell t := h.cell ht fun hedit => hkind (he t ht hedit)

theorem names (hnames : s.Names n t) : s'.Names n t := by
  induction hnames with
  | word kind children =>
      have hsame := h.cell_of_kind he (Names.word (n := 0) kind children).lt_size
        (Names.word (n := 0) kind children).not_edited
      exact .word (by rwa [hsame]) (by rwa [hsame])
  | member kind children starts ends ihs ihe =>
      have hsame := h.cell_of_kind he (Names.member kind children starts ends).lt_size
        (Names.member kind children starts ends).not_edited
      exact .member (by rwa [hsame]) (by rwa [hsame]) ihs ihe

/-- Whether something is alike to a name depends on names only. -/
theorem alikeTo_eq (hspans : Spans Cell.children s roots ids) (hx : ∀ u, x = some u → u ∈ ids)
    (hnames : s.Names k t) (hn : k ≤ n) (hm : k ≤ m) :
    s'.alikeTo m x (some t) = s.alikeTo n x (some t) := by
  -- down the name; how deep the comparisons may go does not matter if it is enough for the name
  induction k generalizing n m x t with
  | zero => cases hnames
  | succ k ih =>
      obtain ⟨n, rfl⟩ : ∃ i, n = i + 1 := ⟨n - 1, by omega⟩
      obtain ⟨m, rfl⟩ : ∃ i, m = i + 1 := ⟨m - 1, by omega⟩
      cases x with
      | none => rfl
      | some u =>
          have hu := hx u rfl
          have hult := hspans.lt_size u hu
          have hsame := h.cell_of_kind he hnames.lt_size hnames.not_edited
          rw [Store.alikeTo, Store.alikeTo, h.label u hult, hsame]
          by_cases hkind : (s.cell u).label.kind = (s.cell t).label.kind
          · -- of the same kind as a name, so that it is not edited either
            have hsameu : s'.cell u = s.cell u :=
              h.cell_of_kind he hult (by rw [hkind]; exact hnames.not_edited)
            rw [hsameu]
            congr 1
            have hbelow : ∀ y ∈ (s.cell t).children, ∃ v, y = some v ∧ s.Names k v := by
              intro y hy
              cases hnames with
              | word _ children =>
                  rw [children] at hy
                  cases hy
              | member _ children starts ends =>
                  rw [children] at hy
                  simp only [List.mem_cons, List.not_mem_nil, or_false] at hy
                  rcases hy with rfl | rfl
                  · exact ⟨_, rfl, starts⟩
                  · exact ⟨_, rfl, ends⟩
            refine Store.allFromLast_congr (P := fun x x' => x = x' ∧ ∀ v, x = some v → v ∈ ids)
              (Q := fun y y' => y = y') ?_ (List.forall₂_refl _) ?_
            · exact List.forall₂_same.mpr fun y hy =>
                ⟨rfl, fun v hv => hspans.link_mem hu (hv ▸ hy)⟩
            · rintro y _ z _ hz ⟨rfl, hy⟩ rfl
              obtain ⟨v, rfl, hv⟩ := hbelow z hz
              exact ih hy hv (by omega) (by omega)
          · rw [show ((s.cell u).label.kind == (s.cell t).label.kind) = false by simpa using hkind]
            rfl

omit he in
theorem isToken_eq (ht : ∀ u, slot = some u → u < s.size) (kind : Kind) (value : String) :
    s'.isToken kind value slot = s.isToken kind value slot := by
  cases slot with
  | none => rfl
  | some u => rw [Store.isToken, Store.isToken, Store.label?, Store.label?, Option.map_some,
      Option.map_some, h.label u (ht u rfl)]

theorem memberParts?_eq (hspans : Spans Cell.children s roots ids)
    (ht : ∀ u, slot = some u → u ∈ ids) : s'.memberParts? slot = s.memberParts? slot := by
  unfold Store.memberParts?
  rw [h.isToken_eq fun u hu => hspans.lt_size u (ht u hu)]
  cases hpoint : s.isToken Kind.member "." slot with
  | false =>
      simp only [Bool.false_eq_true, if_false]
      split <;> split <;> rfl
  | true =>
      obtain ⟨u, rfl, hkind⟩ := exists_token_of_hasKind (hasKind_of_isToken hpoint)
      rw [Store.children, Store.children,
        h.cell_of_kind he (hspans.lt_size u (ht u rfl)) (by rw [hkind]; decide)]

theorem memberNamed?_eq (hspans : Spans Cell.children s roots ids)
    (ht : ∀ u, slot = some u → u ∈ ids) (name : String) :
    s'.memberNamed? name slot = s.memberNamed? name slot := by
  unfold Store.memberNamed?
  rw [h.memberParts?_eq he hspans ht]
  split
  · rename_i object attr hparts
    obtain ⟨hpoint, hchildren⟩ := memberParts_eq_some hparts
    obtain ⟨u, rfl, -⟩ := exists_token_of_hasKind (hasKind_of_isToken hpoint)
    rw [h.isToken_eq fun v hv => hspans.lt_size v (hspans.link_mem (ht u rfl) ?_)]
    rw [show (s.cell u).children = _ from hchildren, hv]
    simp
  · rfl

/-- A call is a call of the super class as long as the call and its argument list have the same
children. -/
theorem superCall?_eq (hspans : Spans Cell.children s roots ids) (ht : t ∈ ids)
    (hsuper : ∀ base, superClass = some base → s.Names s.size base)
    (hcall : (s'.cell t).children = (s.cell t).children)
    (harguments : ∀ a, some a ∈ (s.cell t).children → s.hasKind Kind.arguments (some a) = true →
      (s'.cell a).children = (s.cell a).children) :
    Candidate.superCall? s' superClass (some t) = Candidate.superCall? s superClass (some t) := by
  have hkind : ∀ {slot : Slot} (kind : Kind), (∀ u, slot = some u → u ∈ ids) →
      s'.hasKind kind slot = s.hasKind kind slot := by
    intro slot kind hslot
    cases slot with
    | none => rfl
    | some u => exact h.hasKind kind (hspans.lt_size u (hslot u rfl))
  unfold Candidate.superCall?
  rw [Store.children, Store.children, hcall]
  split
  case h_2 => rfl
  rename_i callee arguments hchildren
  have hmem : ∀ slot ∈ [callee, arguments], ∀ u, slot = some u → u ∈ ids := fun slot hslot u hu =>
    hspans.link_mem ht (hchildren ▸ hu ▸ hslot)
  have hcallee := hmem callee (by simp)
  have harg := hmem arguments (by simp)
  rw [h.memberNamed?_eq he hspans hcallee]
  split
  case h_2 => rfl
  rename_i object hobject
  -- the object is found from the call, too
  have hobjectmem : ∀ u, object = some u → u ∈ ids := by
    rintro u rfl
    obtain ⟨attr, hparts, -⟩ := memberNamed_eq_some hobject
    obtain ⟨hpoint, hk⟩ := memberParts_eq_some hparts
    obtain ⟨k, rfl, -⟩ := exists_token_of_hasKind (hasKind_of_isToken hpoint)
    exact hspans.link_mem (hcallee k rfl) (by
      rw [show (s.cell k).children = _ from hk]
      simp)
  have halike : s'.alike object superClass = s.alike object superClass := by
    unfold Store.alike
    cases superClass with
    | none => cases object <;> cases s'.size <;> cases s.size <;> rfl
    | some base => exact h.alikeTo_eq he hspans hobjectmem (hsuper base rfl) (Nat.le_refl _) h.size_le
  rw [hkind Kind.call (by rintro u he; cases he; exact ht), hkind Kind.arguments harg, halike]
  cases hargs : s.hasKind Kind.arguments arguments with
  | false => simp only [Bool.and_false, Bool.false_and, Bool.false_eq_true, if_false]
  | true =>
      obtain ⟨a, rfl, -⟩ := exists_token_of_hasKind hargs
      have hsame : s'.children (some a) = s.children (some a) :=
        harguments a (hchildren ▸ by simp) hargs
      have hthis : (s.children (some a)).head?.map s'.isThis =
          (s.children (some a)).head?.map s.isThis := by
        cases hfirst : (s.children (some a)).head? with
        | none => rfl
        | some first =>
            have hfirst : first ∈ (s.cell a).children := List.mem_of_mem_head? hfirst
            rw [Option.map_some, Option.map_some, Store.isThis, Store.isThis,
              h.isToken_eq fun v hv => hspans.lt_size v (hspans.link_mem (harg a rfl) (hv ▸ hfirst))]
      rw [hsame, hthis]

end Frame

/-! ## The super calls among some statements -/

namespace Store

/-- A call of the super class among the statements, with its argument list. -/
def IsSuperCall (s : Store) (superClass : Slot) (statements : List Slot) (t a : TokenId) : Prop :=
  some t ∈ statements ∧ ∃ k, Candidate.superCall? s superClass (some t) = some (some k, some a)

/-- A call of the super class among the statements, or the argument list of one. -/
def SuperCallPart (s : Store) (superClass : Slot) (statements : List Slot) (u : TokenId) : Prop :=
  ∃ t a, s.IsSuperCall superClass statements t a ∧ (u = t ∨ u = a)

/-- In the later store the call `t` with the argument list `a` calls the word `super`, with one
argument less. -/
structure Called (s s' : Store) (t a : TokenId) : Prop where
  word : ∃ w, s.size ≤ w ∧ s'.isToken Kind.keyword "super" (some w) = true ∧
    (s'.cell w).children = [] ∧ (s'.cell t).children = [some w, some a]
  arguments : (s'.cell a).children = (s.cell a).children.drop 1

/-- In the later store the calls of the super class among the statements are super calls; nothing
else was edited. -/
structure ConvertsCalls (s s' : Store) (superClass : Slot) (statements : List Slot) : Prop where
  frame : Frame s s' (s.SuperCallPart superClass statements)
  called : ∀ t a, s.IsSuperCall superClass statements t a → s.Called s' t a

variable {statements : List Slot}

/-- The tokens of a super call. -/
theorem IsSuperCall.parts (h : s.IsSuperCall superClass statements t a) :
    s.hasKind Kind.call (some t) = true ∧ s.hasKind Kind.arguments (some a) = true ∧
      ∃ k first rest, (s.cell t).children = [some k, some a] ∧ (s.cell a).children = first :: rest := by
  obtain ⟨-, k, hcall⟩ := h
  obtain ⟨_, k', a', first, rest, he, hk, ha, hkind, hkinda, hc, hargs⟩ :=
    Candidate.superCall_eq_some hcall
  cases he
  cases hk
  cases ha
  exact ⟨hkind, hkinda, _, first, rest, hc, hargs⟩

theorem SuperCallPart.kind (h : s.SuperCallPart superClass statements u) :
    s.hasKind Kind.call (some u) = true ∨ s.hasKind Kind.arguments (some u) = true := by
  obtain ⟨t, a, hcall, rfl | rfl⟩ := h
  · exact Or.inl hcall.parts.1
  · exact Or.inr hcall.parts.2.1

theorem SuperCallPart.mem (h : s.SuperCallPart superClass statements u)
    (hspans : Spans Cell.children s statements ids) : u ∈ ids := by
  obtain ⟨t, a, hcall, hu⟩ := h
  have ht := hspans.root_mem hcall.1
  rcases hu with rfl | rfl
  · exact ht
  · obtain ⟨-, -, k, -, -, hchildren, -⟩ := hcall.parts
    exact hspans.link_mem ht (by rw [hchildren]; simp)

theorem editable_superCallPart : Editable s (s.SuperCallPart superClass statements) := by
  intro u _ hu
  exact hu.kind.elim (kind_mem_of_hasKind · (by decide)) (kind_mem_of_hasKind · (by decide))

/-- A super call stays one as long as its tokens are not edited. -/
theorem Called.later (h : s.Called s' t a) (ht : (s''.cell t).children = (s'.cell t).children)
    (ha : (s''.cell a).children = (s'.cell a).children)
    (hnew : ∀ w, s.size ≤ w → w < s'.size → s''.cell w = s'.cell w) : s.Called s'' t a := by
  obtain ⟨⟨w, hw, hsuper, hleaf, hchildren⟩, hargs⟩ := h
  have hsame := hnew w hw (lt_size_of_hasKind (hasKind_of_isToken hsuper) (by decide))
  refine ⟨⟨w, hw, ?_, by rw [hsame, hleaf], by rw [ht, hchildren]⟩, by rw [ha, hargs]⟩
  rwa [Store.isToken, Store.label?, Option.map_some, hsame]

/-- What was called in a later store was called in an earlier one. -/
theorem Called.earlier (h : s'.Called s'' t a) (hsize : s.size ≤ s'.size)
    (ha : (s'.cell a).children = (s.cell a).children) : s.Called s'' t a := by
  obtain ⟨⟨w, hw, hword⟩, hargs⟩ := h
  exact ⟨⟨w, Nat.le_trans hsize hw, hword⟩, by rw [hargs, ha]⟩

/-- The first statement, and then the others, which it shares nothing with. -/
theorem ConvertsCalls.cons {first rest : List TokenId} (h : s.ConvertsCalls s' superClass [slot])
    (h' : s'.ConvertsCalls s'' superClass statements) (hfirst : Spans Cell.children s [slot] first)
    (hrest : Spans Cell.children s statements rest) (hdisjoint : ∀ u ∈ first, u ∉ rest)
    (hsuper : ∀ base, superClass = some base → s.Names s.size base) :
    s.ConvertsCalls s'' superClass (slot :: statements) := by
  have hle := h.frame.size_le
  have hnot : ∀ u ∈ rest, ¬ s.SuperCallPart superClass [slot] u := fun u hu hpart =>
    hdisjoint u (hpart.mem hfirst) hu
  have hsame : ∀ u ∈ rest, (s'.cell u).children = (s.cell u).children := fun u hu =>
    h.frame.children u (hrest.lt_size u hu) (hnot u hu)
  -- the calls in the others are the same before and after the first one
  have hiff : ∀ t a, s'.IsSuperCall superClass statements t a ↔
      s.IsSuperCall superClass statements t a := by
    intro t a
    refine and_congr_right fun ht => ?_
    have ht := hrest.root_mem ht
    rw [h.frame.superCall?_eq editable_superCallPart hrest ht hsuper (hsame t ht)
      fun a ha _ => hsame a (hrest.link_mem ht ha)]
  have hpart : ∀ u, s'.SuperCallPart superClass statements u →
      s.SuperCallPart superClass statements u := by
    rintro u ⟨t, a, hcall, hu⟩
    exact ⟨t, a, (hiff t a).mp hcall, hu⟩
  have hmem : ∀ u, s'.SuperCallPart superClass statements u → u ∈ rest := fun u hu =>
    (hpart u hu).mem hrest
  refine ⟨?_, ?_⟩
  · refine (h.frame.mono fun u _ hu => ?_).trans (h'.frame.mono fun u _ hu => ?_) ?_
    · obtain ⟨t, a, ⟨hslot, hcall⟩, hu⟩ := hu
      rw [List.mem_singleton] at hslot
      exact ⟨t, a, ⟨hslot ▸ List.mem_cons_self, hcall⟩, hu⟩
    · obtain ⟨t, a, ⟨hslot, hcall⟩, hu⟩ := hpart u hu
      exact ⟨t, a, ⟨List.mem_cons_of_mem _ hslot, hcall⟩, hu⟩
    · exact fun u hu hpart' =>
        absurd ((hfirst.append hrest).lt_size u (hpart'.mem (hfirst.append hrest))) (Nat.not_lt_of_le hu)
  · rintro t a ⟨hslot, hcall⟩
    rcases List.mem_cons.mp hslot with hslot | hslot
    · -- a call in the first statement stays as it is
      have hcall : s.IsSuperCall superClass [slot] t a := ⟨List.mem_singleton.mpr hslot, hcall⟩
      have hkeeps : ∀ u, s.SuperCallPart superClass [slot] u →
          (s''.cell u).children = (s'.cell u).children := by
        intro u hu
        have hu := hu.mem hfirst
        exact h'.frame.children u (Nat.lt_of_lt_of_le (hfirst.lt_size u hu) hle)
          fun hpart' => hdisjoint u hu (hmem u hpart')
      refine (h.called t a hcall).later (hkeeps t ⟨t, a, hcall, Or.inl rfl⟩)
        (hkeeps a ⟨t, a, hcall, Or.inr rfl⟩) fun w hw hlt => h'.frame.cell hlt fun hpart' => ?_
      exact absurd (hrest.lt_size w (hmem w hpart')) (Nat.not_lt_of_le hw)
    · have hcall : s.IsSuperCall superClass statements t a := ⟨hslot, hcall⟩
      have ha : a ∈ rest := SuperCallPart.mem ⟨t, a, hcall, Or.inr rfl⟩ hrest
      exact (h'.called t a ((hiff t a).mpr hcall)).earlier hle (hsame a ha)

end Store

namespace Candidate

variable {statements : List Slot}

theorem withSuper_called {k : TokenId} (word : Cell) (hkind : word.label.kind = Kind.keyword)
    (hvalue : word.label.value = "super") (hempty : word.children = [])
    (hchildren : (s.cell t).children = [some k, some a]) (ht : t < s.size) (ha : a < s.size)
    (hta : t ≠ a) : s.Called (withSuper s t a word) t a := by
  obtain ⟨hcall, hlist, hword, -⟩ := withSuper_cells word ht ha hta
  refine ⟨⟨s.size, Nat.le_refl _, ?_, by rw [hword, hempty], ?_⟩, ?_⟩
  · exact isToken_iff.mpr ⟨word.label, by rw [Store.label?, Option.map_some, hword], hkind, hvalue⟩
  · rw [hcall, hchildren]
    rfl
  · rw [hlist]

/-- One statement: where it is a super call, it is converted. -/
theorem convertSuperCall_converts (h : (convertSuperCall superClass slot).run.run s = (.ok (), s')) :
    s.ConvertsCalls s' superClass [slot] := by
  cases hcall : superCall? s superClass slot with
  | none =>
      rw [convertSuperCall_of_none hcall] at h
      cases h
      refine ⟨.refl _ _, ?_⟩
      rintro t a ⟨hmem, k, hsuper⟩
      rw [List.mem_singleton] at hmem
      rw [hmem, hcall] at hsuper
      cases hsuper
  | some call =>
      obtain ⟨callee, arguments⟩ := call
      obtain ⟨t, k, a, first, rest, rfl, rfl, rfl, hkind, hkinda, hchildren, -⟩ :=
        superCall_eq_some hcall
      rw [convertSuperCall_of_some hcall] at h
      cases h
      have ht := lt_size_of_hasKind hkind (by decide)
      have ha := lt_size_of_hasKind hkinda (by decide)
      -- a call is no list of arguments, so two tokens are changed
      have hta : t ≠ a := by
        rintro rfl
        exact absurd (hasKind_unique hkind hkinda) (by decide)
      have hsuper : s.IsSuperCall superClass [some t] t a := ⟨by simp, k, hcall⟩
      have htpart : SuperPart s [t, a] t := ⟨by simp, Or.inl hkind⟩
      have hapart : SuperPart s [t, a] a := ⟨by simp, Or.inr hkinda⟩
      refine ⟨(withSuper_frame _ rfl rfl htpart hapart ht ha).mono
        fun u _ hu => ⟨t, a, hsuper, by simpa using hu.1⟩, ?_⟩
      rintro t' a' ⟨hmem, k', hcall'⟩
      rw [List.mem_singleton] at hmem
      cases hmem
      rw [hcall] at hcall'
      cases hcall'
      exact withSuper_called _ rfl rfl rfl hchildren ht ha hta

/-- All direct statements: exactly the super calls among them are converted. -/
theorem convertSuperCalls_converts (hspans : Spans Cell.children s statements ids) (hn : ids.Nodup)
    (hsuper : ∀ base, superClass = some base → s.Names s.size base)
    (h : (statements.forM (convertSuperCall superClass)).run.run s = (.ok (), s')) :
    s.ConvertsCalls s' superClass statements := by
  induction statements generalizing s ids with
  | nil =>
      cases h
      exact ⟨.refl _ _, fun _ _ hcall => absurd hcall.1 List.not_mem_nil⟩
  | cons slot statements ih =>
      have h : (convertSuperCall superClass slot >>= fun _ =>
        statements.forM (convertSuperCall superClass)).run.run s = (.ok (), s') := h
      obtain ⟨⟨⟩, s₁, hfirstrun, hrestrun⟩ := run_run_bind_eq_ok.mp h
      have hconverts := convertSuperCall_converts hfirstrun
      obtain ⟨first, rest, rfl, hfirst, hrest⟩ := hspans.of_cons
      obtain ⟨-, hnrest, hdisjoint⟩ := List.nodup_append.mp hn
      have hnot : ∀ u ∈ rest, ¬ s.SuperCallPart superClass [slot] u := fun u hu hpart =>
        hdisjoint u (hpart.mem hfirst) u hu rfl
      have hsuper₁ : ∀ base, superClass = some base → s₁.Names s₁.size base := fun base hbase =>
        (hconverts.frame.names editable_superCallPart (hsuper base hbase)).mono hconverts.frame.size_le
      exact hconverts.cons (ih (hconverts.frame.spans hrest hnot) hnrest hsuper₁ hrestrun) hfirst hrest
        (fun u hu hu' => hdisjoint u hu u hu' rfl) hsuper

end Candidate

/-! ## Commits -/

theorem Edit.Touching.frame {α : Type} {e : Edit α} {r : Except Fault α}
    (h : Edit.Touching s (fun _ => False) s e) (hrun : e.run.run s = (r, s')) :
    Frame s s' fun _ => False := by
  rw [Edit.Touching, hrun] at h
  exact h.frame.mono fun _ _ hu => hu.1

/-- Where a statement is replaced, only the token that holds it is edited. -/
theorem Edit.replaceStatement_others {parent : Slot} (hu : some u ≠ parent) (node : Slot)
    (new : List Slot) (s : Store) :
    ((replaceStatement parent node new).run.run s).2.cell u = s.cell u := by
  unfold replaceStatement
  cases parent with
  | none => cases node <;> rfl
  | some p =>
      have hne : u ≠ p := fun he => hu (congrArg some he)
      dsimp only
      rw [run_run_bind_of_ok (run_run_get s)]
      split
      · exact cell_set_ne _ _ _ _ hne
      · cases node <;> rfl

theorem Edit.removeAll_others {α : Type} (e : α → Edit Unit) (xs : List α)
    (he : ∀ x ∈ xs, ∀ s, ((e x).run.run s).2.cell u = s.cell u) (s : Store) :
    ((xs.forM e).run.run s).2.cell u = s.cell u := by
  induction xs generalizing s with
  | nil => rfl
  | cons x xs ih =>
      have hfirst := he x List.mem_cons_self s
      show ((e x >>= fun _ => xs.forM e).run.run s).2.cell u = _
      rw [run_run_bind]
      rcases hrun : (e x).run.run s with ⟨_ | _, s₁⟩ <;> rw [hrun] at hfirst
      · exact hfirst
      · exact (ih (fun y hy => he y (List.mem_cons_of_mem _ hy)) s₁).trans hfirst

namespace Candidate

variable {c : Candidate} {block : TokenId} {declaring : Slot} {b : TokenId} {statements : List Slot}

theorem bodyOf_of_isConvertible (h : s.isConvertible c.builder.function = .ok true) :
    ∃ f n args b, c.builder.function = some f ∧ (s.cell f).children = [n, args, some b] ∧
      c.builder.body.run.run s = (.ok (some b), s) ∧
      s.bodyOf c.builder.function = (s.cell b).children ∧
      s.emptyBody c.builder = (s.cell b).children.isEmpty := by
  obtain ⟨f, n, args, b, hf, hchildren, -, hbody⟩ := Method.body_run h
  have hchildren' : s.children (some f) = [n, args, some b] := hchildren
  refine ⟨f, n, args, b, hf, hchildren, hbody, ?_, ?_⟩
  · rw [hf, bodyOf, hchildren']
    rfl
  · rw [Store.emptyBody, hf, hchildren']
    rfl

/-- A class is declared once the super calls are converted; what else it takes is new tokens. -/
theorem declare_converts (hb : s.isConvertible c.builder.function = .ok true)
    (h : c.declare.run.run s = (.ok t, s')) :
    ∃ s₁, ((s.bodyOf c.builder.function).forM (convertSuperCall c.superClass)).run.run s =
        (.ok (), s₁) ∧ Frame s₁ s' fun _ => False := by
  obtain ⟨f, n, args, b, hf, hchildren, hbody, hbodyof, hempty⟩ := bodyOf_of_isConvertible hb
  obtain ⟨st, hst⟩ := statement_of_declare h
  obtain ⟨members, s₂, name, extends_, block, comments, hmembers, hmade⟩ := declare_run hst h
  unfold defineMembers at hmembers
  obtain ⟨builder, s₁, hbuilder, hmembers⟩ := run_run_bind_eq_ok.mp hmembers
  obtain ⟨others, s₃, hothers, hlast⟩ := run_run_bind_eq_ok.mp hmembers
  cases hlast
  -- the other members and the class itself are made of new tokens
  have hafter : Frame s₁ s' fun _ => False :=
    ((Method.mapM_define_touching c.methods s₁).frame hothers).extend hmade.frame
  unfold defineConstructor at hbuilder
  rw [run_run_bind_of_ok (Method.isEmpty_run hb), hempty] at hbuilder
  -- an empty body gives no constructor, and then nothing is converted
  cases hstatements : (s.cell b).children with
  | nil =>
      rw [hstatements] at hbuilder
      cases hbuilder
      exact ⟨s, by rw [hbodyof, hstatements]; rfl, hafter⟩
  | cons slot statements =>
      rw [hstatements, List.isEmpty_cons, if_neg (by simp)] at hbuilder
      obtain ⟨⟨⟩, s₄, hcalls, hbuilder⟩ := run_run_bind_eq_ok.mp hbuilder
      obtain ⟨k, s₅, hdefine, hlast⟩ := run_run_bind_eq_ok.mp hbuilder
      cases hlast
      unfold convertSuperCalls at hcalls
      rw [run_run_bind_of_ok hbody, run_run_bind_of_ok (Edit.run_run_cell s b)] at hcalls
      exact ⟨s₄, by rw [hbodyof]; exact hcalls,
        ((Method.define_touching c.builder s₄).frame hdefine).extend hafter⟩

/-- What holds the function is the container or an export. -/
theorem Ready.holder (hready : c.Ready s block declaring) (hlt : block < s.size)
    (hu : some u = c.parent) :
    u < s.size ∧ (u = block ∨ s.hasKind Kind.exportDecl (some u) = true) := by
  rcases hready.place with ⟨hp, -⟩ | ⟨hp, hkind, -⟩
  · rw [hp] at hu
    cases hu
    exact ⟨hlt, Or.inl rfl⟩
  · rw [hp] at hu
    rw [← hu] at hkind
    exact ⟨lt_size_of_hasKind hkind (by decide), Or.inr hkind⟩

/-- It is no part of a super call. -/
theorem Ready.ne_holder (hready : c.Ready s block declaring) (hlt : block < s.size) (hne : u ≠ block)
    (hu : s.SuperCallPart superClass statements u) : some u ≠ c.parent := by
  intro hp
  rcases (hready.holder hlt hp).2 with he | hexport
  · exact hne he
  · rcases hu.kind with hk | hk <;> exact absurd (hasKind_unique hexport hk) (by decide)

/-- The statements of the constructor's body are found without sharing, and the container is not among
what is found. -/
theorem Ready.body_spans (hready : c.Ready s block declaring)
    (hspans : Spans Cell.children s (s.cell block).children ids) (hn : (block :: ids).Nodup)
    (hnone : none ∉ (s.cell block).children) (hlt : block < s.size) :
    ∃ below, Spans Cell.children s (s.bodyOf c.builder.function) below ∧ below.Nodup ∧
      block ∉ below := by
  obtain ⟨f, n, args, b, hf, hchildren, -, hbody, -⟩ := bodyOf_of_isConvertible hready.builder
  obtain ⟨decl, gone, stay, own, taken, hfoot⟩ := hready.footprint hspans hn hnone hlt
  have hownn : own.Nodup := nodup_of_subperm ((hfoot.place hready).1.trans
    (List.sublist_append_left decl gone).subperm) hfoot.nodup_first
  have hshared : s.shared c.builder = [args, some b] := by
    rw [Store.shared, hf]
    exact congrArg (List.drop 1) hchildren
  have hown := hfoot.ownFound
  rw [hshared] at hown
  obtain ⟨front, rest, rfl, -, hrest⟩ := hown.of_cons
  obtain ⟨-, below, rfl, hbelow⟩ := hrest.of_singleton
  refine ⟨below, hbody ▸ hbelow, (List.nodup_cons.mp (List.nodup_append.mp hownn).2.1).2, fun hmem => ?_⟩
  refine hfoot.block_ne (u := block) (List.mem_append_left _ (List.mem_append_left _
    ((hfoot.place hready).1.subset ?_))) rfl
  exact List.mem_append_right _ (List.mem_cons_of_mem _ hmem)

/-- Once the class is declared, a commit edits only the container and what holds the function. -/
theorem Ready.takeover_others {k : Slot} (hready : c.Ready s block declaring)
    (hblock : u ≠ block) (hparent : some u ≠ c.parent)
    (hrun : (do
      Edit.replaceStatement c.parent c.statement [k]
      c.inheritance.forM fun (parent, node) => Edit.replaceStatement parent node []
      c.methods.forM Method.remove : Edit Unit).run.run s' = (.ok (), s'')) :
    s''.cell u = s'.cell u := by
  obtain ⟨⟨⟩, s₁, hreplace, hrun⟩ := run_run_bind_eq_ok.mp hrun
  obtain ⟨⟨⟩, s₂, hinherit, hmethods⟩ := run_run_bind_eq_ok.mp hrun
  have hne : some u ≠ some block := fun he => hblock (Option.some.inj he)
  have h₁ : s₁.cell u = s'.cell u := by
    have := Edit.replaceStatement_others hparent c.statement [k] s'
    rwa [hreplace] at this
  have h₂ : s₂.cell u = s₁.cell u := by
    have := Edit.removeAll_others (u := u)
      (fun p : Slot × Slot => Edit.replaceStatement p.1 p.2 []) c.inheritance
      (fun p hp => Edit.replaceStatement_others ((hready.inheritanceParents p hp).1 ▸ hne) p.2 []) s₁
    rwa [show (c.inheritance.forM fun p : Slot × Slot =>
      Edit.replaceStatement p.1 p.2 []).run.run s₁ = _ from hinherit] at this
  have h₃ : s''.cell u = s₂.cell u := by
    have := Edit.removeAll_others (u := u) Method.remove c.methods (fun m hm s => by
      unfold Method.remove
      split
      · rfl
      · exact Edit.replaceStatement_others (hready.methodParents m hm ▸ hne) _ _ s) s₂
    rwa [hmethods] at this
  rw [h₃, h₂, h₁]

/-- A commit converts exactly the super calls of the constructor. Apart from these, only the container
and the token that holds the function are edited. -/
theorem Ready.commit_calls (hready : c.Ready s block declaring)
    (hspans : Spans Cell.children s (s.cell block).children ids) (hn : (block :: ids).Nodup)
    (hnone : none ∉ (s.cell block).children) (hlt : block < s.size)
    (hsuper : ∀ base, c.superClass = some base → s.Names s.size base)
    (hrun : c.commit.run.run s = (.ok (), s')) :
    (∀ t a, s.IsSuperCall c.superClass (s.bodyOf c.builder.function) t a → s.Called s' t a) ∧
      ∀ u < s.size, u ≠ block → some u ≠ c.parent →
        ¬ s.SuperCallPart c.superClass (s.bodyOf c.builder.function) u → s'.cell u = s.cell u := by
  unfold commit at hrun
  obtain ⟨k, s₁, hdeclare, htakeover⟩ := run_run_bind_eq_ok.mp hrun
  obtain ⟨s₀, hcalls, hpushed⟩ := declare_converts hready.builder hdeclare
  obtain ⟨below, hbelow, hnbelow, hnot⟩ := hready.body_spans hspans hn hnone hlt
  have hconverts := convertSuperCalls_converts hbelow hnbelow hsuper hcalls
  have hsize := hconverts.frame.size_le
  have hframe := hconverts.frame.extend hpushed
  have hothers : ∀ u, u ≠ block → some u ≠ c.parent → s'.cell u = s₁.cell u := fun u hblock hparent =>
    hready.takeover_others hblock hparent htakeover
  -- what takes place after the calls are converted is not about their tokens
  have hpart : ∀ u, s.SuperCallPart c.superClass (s.bodyOf c.builder.function) u →
      s'.cell u = s₀.cell u := by
    intro u hu
    have hmem := hu.mem hbelow
    have hne : u ≠ block := fun he => hnot (he ▸ hmem)
    rw [hothers u hne (hready.ne_holder hlt hne hu),
      hpushed.cell (Nat.lt_of_lt_of_le (hbelow.lt_size u hmem) hsize) id]
  refine ⟨fun t a hcall => ?_, fun u hu hblock hp hnot => ?_⟩
  · refine (hconverts.called t a hcall).later ?_ ?_ fun w hw hwlt => ?_
    · rw [hpart t ⟨t, a, hcall, Or.inl rfl⟩]
    · rw [hpart a ⟨t, a, hcall, Or.inr rfl⟩]
    · rw [hothers w (fun he => absurd hlt (Nat.not_lt_of_le (he ▸ hw)))
        fun hp => absurd (hready.holder hlt hp).1 (Nat.not_lt_of_le hw), hpushed.cell hwlt id]
  · rw [hothers u hblock hp, hframe.cell hu hnot]

end Candidate

end ClassLift
