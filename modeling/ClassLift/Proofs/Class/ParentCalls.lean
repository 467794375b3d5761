import ClassLift.Proofs.Class.Building
import ClassLift.Proofs.Class.Calls
import ClassLift.Proofs.Class.Lockstep

set_option autoImplicit false

/-! # What becomes of the calls of the super class

A direct statement of a constructor's body is edited if and only if it has the form `S.call(this, …)`,
spelled out in `Store.IsParentCall`; `Store.BecomesSuper` says what it is afterwards. The statements
are converted one after the other, each in the store that the ones before it left; that each is
judged as it was at the start is because no two of them share a token, and none shares one with the
super class (`convertSuperCalls_exact`).
-/

namespace ClassLift

open List

variable {s s' s'' : Store} {edited : TokenId → Prop} {superClass slot : Slot}
  {statements : List Slot} {ids supers : List TokenId} {t u k a b : TokenId} {n : Nat}

/-! ## The form of a call -/

namespace Store

/-- The token `t` is a call `S.call(this, …)` of a super class alike to the given one, with the
function `k` and the argument list `a`. -/
structure IsParentCall (s : Store) (superClass : Slot) (t k a : TokenId) : Prop where
  call : (s.cell t).label.kind = Kind.call
  children : (s.cell t).children = [some k, some a]
  callee : (s.cell k).label.kind = Kind.member ∧ (s.cell k).label.value = "." ∧
    ∃ object name, (s.cell k).children = [object, some name] ∧
      (s.cell name).label.kind = Kind.memberName ∧ (s.cell name).label.value = "call" ∧
      s.alike object superClass = true
  arguments : (s.cell a).label.kind = Kind.arguments ∧
    ∃ this rest, (s.cell a).children = some this :: rest ∧
      (s.cell this).label.kind = Kind.keyword ∧ (s.cell this).label.value = "this"

theorem isToken_some {kind : Kind} {value : String} :
    s.isToken kind value (some t) = true ↔
      (s.cell t).label.kind = kind ∧ (s.cell t).label.value = value := by
  simp [isToken, label?]

theorem hasKind_some {kind : Kind} : s.hasKind kind (some t) = true ↔ (s.cell t).label.kind = kind := by
  simp [hasKind, label?]

theorem exists_isParentCall {callee arguments : Slot}
    (h : Candidate.superCall? s superClass (some t) = some (callee, arguments)) :
    ∃ k a, callee = some k ∧ arguments = some a ∧ s.IsParentCall superClass t k a := by
  obtain ⟨hchildren, hcall, ⟨object, hobject, halike⟩, hlist, first, rest, hargs, hthis⟩ :=
    Candidate.superCall_eq_some_iff.mp h
  -- what was tested for are tokens, so all parts of the call are there
  obtain ⟨attr, hparts, hname⟩ := memberNamed_eq_some hobject
  obtain ⟨hpoint, hk⟩ := memberParts_eq_some hparts
  obtain ⟨k, rfl, -⟩ := exists_token_of_hasKind (hasKind_of_isToken hpoint)
  obtain ⟨name, rfl, -⟩ := exists_token_of_hasKind (hasKind_of_isToken hname)
  obtain ⟨a, rfl, -⟩ := exists_token_of_hasKind hlist
  obtain ⟨hkind, hvalue⟩ := isToken_some.mp hpoint
  obtain ⟨hnamekind, hnamevalue⟩ := isToken_some.mp hname
  obtain ⟨this, rfl, -⟩ := exists_token_of_hasKind (hasKind_of_isToken hthis)
  exact ⟨k, a, rfl, rfl, hasKind_some.mp hcall, hchildren,
    ⟨hkind, hvalue, object, name, hk, hnamekind, hnamevalue, halike⟩, hasKind_some.mp hlist,
    this, rest, hargs, isToken_some.mp hthis⟩

theorem IsParentCall.superCall (h : s.IsParentCall superClass t k a) :
    Candidate.superCall? s superClass (some t) = some (some k, some a) := by
  obtain ⟨hcall, hchildren, ⟨hkind, hvalue, object, name, hk, hname, hcallname, halike⟩, hlist,
    this, rest, hargs, hthis⟩ := h
  have hparts : s.memberParts? (some k) = some (object, some name) := by
    unfold memberParts?
    rw [show s.children (some k) = _ from hk]
    exact if_pos (isToken_some.mpr ⟨hkind, hvalue⟩)
  have hobject : s.memberNamed? "call" (some k) = some object := by
    unfold memberNamed?
    rw [hparts]
    exact if_pos (isToken_some.mpr ⟨hname, hcallname⟩)
  exact Candidate.superCall_eq_some_iff.mpr ⟨hchildren, hasKind_some.mpr hcall,
    ⟨object, hobject, halike⟩, hasKind_some.mpr hlist, some this, rest, hargs,
    isToken_some.mpr hthis⟩

/-- The calls that are converted are those of this form. -/
theorem superCall_iff {callee arguments : Slot} :
    Candidate.superCall? s superClass (some t) = some (callee, arguments) ↔
      ∃ k a, callee = some k ∧ arguments = some a ∧ s.IsParentCall superClass t k a := by
  constructor
  · exact exists_isParentCall
  · rintro ⟨k, a, rfl, rfl, hparent⟩
    exact hparent.superCall

/-- What a call of the super class is in a later store: its function is the word `super`, in the same
place, and its argument list has lost the first argument. -/
structure BecomesSuper (s s' : Store) (t k a : TokenId) : Prop where
  word : ∃ w, s.size ≤ w ∧ w < s'.size ∧
    s'.cell w = .fresh Kind.keyword "super" (s.cell k).label.line (s.cell k).label.column [] ∧
    s'.cell t = { s.cell t with children := [some w, some a] }
  arguments : s'.cell a = { s.cell a with children := (s.cell a).children.drop 1 }

namespace BecomesSuper

/-- It is still so in a later store, where the call, its argument list and what is new are kept. -/
theorem later (h : s.BecomesSuper s' t k a) (hsize : s'.size ≤ s''.size)
    (ht : s''.cell t = s'.cell t) (ha : s''.cell a = s'.cell a)
    (hnew : ∀ w < s'.size, s.size ≤ w → s''.cell w = s'.cell w) : s.BecomesSuper s'' t k a := by
  obtain ⟨⟨w, hw, hwlt, hword, hcell⟩, hlist⟩ := h
  refine ⟨⟨w, hw, Nat.lt_of_lt_of_le hwlt hsize, ?_, ?_⟩, ?_⟩
  · rw [hnew w hwlt hw, hword]
  · rw [ht, hcell]
  · rw [ha, hlist]

/-- It can be said of an earlier store, where the call and its two parts were the same. -/
theorem earlier (h : s'.BecomesSuper s'' t k a) (hsize : s.size ≤ s'.size)
    (ht : s'.cell t = s.cell t) (hk : s'.cell k = s.cell k) (ha : s'.cell a = s.cell a) :
    s.BecomesSuper s'' t k a := by
  obtain ⟨⟨w, hw, hwlt, hword, hcell⟩, hlist⟩ := h
  rw [ht] at hcell
  rw [hk] at hword
  rw [ha] at hlist
  exact ⟨⟨w, Nat.le_trans hsize hw, hwlt, hword, hcell⟩, hlist⟩

end BecomesSuper

/-- One of the statements that are calls of the super class, or the argument list of one. -/
def ParentCallPart (s : Store) (superClass : Slot) (statements : List Slot) (u : TokenId) : Prop :=
  ∃ t k a, some t ∈ statements ∧ s.IsParentCall superClass t k a ∧ (u = t ∨ u = a)

theorem ParentCallPart.mem (h : s.ParentCallPart superClass statements u)
    (hspans : Spans Cell.children s statements ids) : u ∈ ids := by
  obtain ⟨t, k, a, ht, hcall, rfl | rfl⟩ := h
  · exact hspans.root_mem ht
  · exact hspans.link_mem (hspans.root_mem ht) (by rw [hcall.children]; simp)

end Store

open Store

/-! ## The form does not change elsewhere -/

/-- Whether a statement calls the super class depends on the tokens of the two only. -/
theorem superCall?_same (hspans : Spans Cell.children s [slot] ids)
    (hsuper : Spans Cell.children s [superClass] supers) (hnsuper : supers.Nodup)
    (hsize : s.size ≤ s'.size) (hsame : ∀ u ∈ ids ++ supers, s'.cell u = s.cell u) :
    Candidate.superCall? s' superClass slot = Candidate.superCall? s superClass slot := by
  have hboth : Spans Cell.children s [slot, superClass] (ids ++ supers) := hspans.append hsuper
  have hmirror := Mirror.of_same hboth.lt_size hsize (fun t ht c hc => hboth.link_mem ht hc) hsame
  have hfits : s.Fits (min s.size s'.size) superClass := by
    cases superClass with
    | none => exact .absent _
    | some base =>
        have hbase := hsuper.fits base (hsuper.root_mem List.mem_cons_self)
        refine hbase.mono ?_
        rw [Nat.min_eq_left hsize]
        exact hsuper.length_le_size hnsuper
  have hrel := hmirror.superCall? (hboth.itself superClass (by simp)) hfits (hboth.itself slot (by simp))
  generalize Candidate.superCall? s superClass slot = call at hrel ⊢
  generalize Candidate.superCall? s' superClass slot = call' at hrel ⊢
  cases hrel with
  | none => rfl
  | some hparts => rw [Prod.ext hparts.1.eq_of_itself hparts.2.eq_of_itself]

/-- The same for many statements. -/
theorem superCalls_same (hspans : Spans Cell.children s statements ids)
    (hsuper : Spans Cell.children s [superClass] supers) (hnsuper : supers.Nodup)
    (hsize : s.size ≤ s'.size) (hsame : ∀ u ∈ ids ++ supers, s'.cell u = s.cell u) :
    ∀ st ∈ statements,
      Candidate.superCall? s' superClass st = Candidate.superCall? s superClass st := by
  intro st hst
  refine superCall?_same (hspans.spans_at hst) hsuper hnsuper hsize fun u hu => hsame u ?_
  rcases List.mem_append.mp hu with hu | hu
  · exact List.mem_append_left _ (hspans.mem_of_mem_at hst hu)
  · exact List.mem_append_right _ hu

theorem isParentCall_iff_of_superCall
    (h : Candidate.superCall? s' superClass (some t) = Candidate.superCall? s superClass (some t)) :
    s'.IsParentCall superClass t k a ↔ s.IsParentCall superClass t k a := by
  have hiff : Candidate.superCall? s' superClass (some t) = some (some k, some a) ↔
      Candidate.superCall? s superClass (some t) = some (some k, some a) := by rw [h]
  rw [superCall_iff, superCall_iff] at hiff
  simpa using hiff

/-! ## One statement -/

namespace Candidate

/-- Whole tokens stay whole: what is new is a word, and it stands where a token stood before. -/
theorem withSuper_whole {word : Cell} (hword : word.links = []) (ht : t < s.size) (ha : a < s.size)
    (hta : t ≠ a) (hchildren : (s.cell t).children = [some k, some a]) (h : s.Whole n u) :
    (withSuper s t a word).Whole n u := by
  obtain ⟨hcall, hlist, hnew, hothers⟩ := withSuper_cells word ht ha hta
  have hsize : (withSuper s t a word).size = s.size + 1 := withSuper_size ..
  induction h with
  | @token n u lt present below ih =>
      -- the links of a token are those it had, but for the word below the call
      have hlinks : ∀ x ∈ ((withSuper s t a word).cell u).links,
          x ∈ (s.cell u).links ∨ x = some s.size ∧ u = t := by
        intro x hx
        by_cases hut : u = t
        · subst hut
          rw [hcall, hchildren] at hx
          have hx : x ∈ [some s.size, some a] ++ (s.cell u).comments := hx
          rw [Cell.links, hchildren]
          simp only [List.mem_append, List.mem_cons, List.not_mem_nil, or_false] at hx ⊢
          tauto
        · by_cases hua : u = a
          · subst hua
            rw [hlist] at hx
            refine Or.inl ((List.Sublist.append (List.drop_sublist 1 _) (.refl _)).subset hx)
          · rw [hothers u lt hut hua] at hx
            exact Or.inl hx
      refine .token (by rw [hsize]; exact Nat.lt_succ_of_lt lt) (fun hnone => ?_) fun v hv => ?_
      · rcases hlinks none hnone with h | ⟨h, -⟩
        · exact present h
        · cases h
      · rcases hlinks (some v) hv with h | ⟨h, rfl⟩
        · exact ih v h
        · -- the word has nothing below it, and the function that it replaces was whole
          obtain rfl := Option.some.inj h
          have hk : s.Whole n k := below k (by rw [Cell.links, hchildren]; simp)
          cases hk with
          | token =>
              refine .token (by rw [hsize]; exact Nat.lt_succ_self _) ?_ ?_
              · rw [hnew, hword]
                exact List.not_mem_nil
              · intro w hw
                rw [hnew, hword] at hw
                exact absurd hw List.not_mem_nil

/-- The store after the conversion of some statements, in comparison with the one before. -/
structure Exact (s s' : Store) (superClass : Slot) (statements : List Slot) : Prop where
  frame : Frame s s' (s.ParentCallPart superClass statements)
  becomes : ∀ t k a, some t ∈ statements → s.IsParentCall superClass t k a → s.BecomesSuper s' t k a
  unchanged : ∀ t, some t ∈ statements → superCall? s superClass (some t) = none →
    s'.cell t = s.cell t
  done : ∀ slot ∈ statements, superCall? s' superClass slot = none
  whole : ∀ n u, s.Whole n u → s'.Whole n u

/-- A statement that is no call of the super class stays as it is. -/
theorem Exact.of_none (h : superCall? s superClass slot = none) : Exact s s superClass [slot] where
  frame := .refl _ _
  becomes t k a ht hparent := by
    obtain rfl := List.mem_singleton.mp ht
    rw [hparent.superCall] at h
    cases h
  unchanged _ _ _ := rfl
  done x hx := by rwa [List.mem_singleton.mp hx]
  whole _ _ := id

/-- A call of the super class becomes a call of `super`, and is no call of the super class then: the
word `super` is no member access. -/
theorem exact_withSuper {word : Cell} (hparent : s.IsParentCall superClass t k a)
    (hword : word = .fresh Kind.keyword "super" (s.cell k).label.line (s.cell k).label.column []) :
    Exact s (withSuper s t a word) superClass [some t] := by
  have hcallkind := hasKind_some.mpr hparent.call
  have hlistkind := hasKind_some.mpr hparent.arguments.1
  have ht := lt_size_of_hasKind hcallkind (by decide)
  have ha := lt_size_of_hasKind hlistkind (by decide)
  have hta : t ≠ a := by
    rintro rfl
    exact absurd (hasKind_unique hcallkind hlistkind) (by decide)
  obtain ⟨hcell, hlist, hnew, -⟩ := withSuper_cells word ht ha hta
  have hsize : (withSuper s t a word).size = s.size + 1 := withSuper_size ..
  have hpart : ∀ u, SuperPart s [t, a] u → s.ParentCallPart superClass [some t] u := fun u hu =>
    ⟨t, k, a, by simp, hparent, by simpa using hu.1⟩
  -- what changes, what the call becomes, what stays, that no call is left, and wholeness
  refine ⟨?_, ?_, ?_, ?_, fun n u hu => ?_⟩
  · exact (withSuper_frame word (by rw [hword]; rfl) (by rw [hword]; rfl)
      ⟨by simp, Or.inl hcallkind⟩ ⟨by simp, Or.inr hlistkind⟩ ht ha).mono fun u _ => hpart u
  · intro t' k' a' ht' hparent'
    obtain rfl := Option.some.inj (List.mem_singleton.mp ht')
    have hsame := hparent.children.symm.trans hparent'.children
    cases hsame
    refine ⟨⟨s.size, Nat.le_refl _, by rw [hsize]; exact Nat.lt_succ_self _, ?_, ?_⟩, hlist⟩
    · rw [hnew, hword]
    · rw [hcell, hparent.children]
      rfl
  · intro t' ht' hnot
    rw [List.mem_singleton.mp ht', hparent.superCall] at hnot
    cases hnot
  · intro x hx
    rw [List.mem_singleton.mp hx]
    cases hagain : superCall? (withSuper s t a word) superClass (some t) with
    | none => rfl
    | some p =>
        obtain ⟨k', a', -, -, hparent'⟩ := exists_isParentCall hagain
        have hchildren := hparent'.children
        rw [hcell, hparent.children] at hchildren
        cases hchildren
        have hkind : Kind.keyword = Kind.member := by
          have hcallee := hparent'.callee.1
          rwa [hnew, hword] at hcallee
        exact absurd hkind (by decide)
  · exact withSuper_whole (by rw [hword]; rfl) ht ha hta hparent.children hu

/-- One statement is converted. -/
theorem convertSuperCall_exact (superClass : Slot) (h : Spans Cell.children s [slot] ids)
    (hn : ids.Nodup) :
    ∃ s', (convertSuperCall superClass slot).run.run s = (.ok (), s') ∧
      Exact s s' superClass [slot] ∧
      ∃ ids', Spans Cell.children s' [slot] ids' ∧ ids' <+~ ids ++ s.fresh s' := by
  cases hcall : superCall? s superClass slot with
  | none =>
      refine ⟨s, convertSuperCall_of_none hcall, .of_none hcall, ids, h, ?_⟩
      rw [Store.fresh_self, List.append_nil]
  | some call =>
      obtain ⟨callee, arguments⟩ := call
      obtain ⟨t, -, -, -, -, rfl, -⟩ := superCall_eq_some hcall
      obtain ⟨k, a, rfl, rfl, hparent⟩ := exists_isParentCall hcall
      obtain ⟨first, rest, hargs, -⟩ := hparent.arguments.2
      exact ⟨_, convertSuperCall_of_some hcall, exact_withSuper hparent rfl,
        withSuper_spans _ rfl hparent.children hargs h hn⟩

/-! ## All statements -/

namespace Exact

/-- What is not found from the statements is kept. -/
theorem cell_eq (h : Exact s s' superClass statements) (hspans : Spans Cell.children s statements ids)
    (hlt : u < s.size) (hu : u ∉ ids) : s'.cell u = s.cell u :=
  h.frame.cell hlt fun hpart => hu (hpart.mem hspans)

/-- One statement is converted and then the others, none of which was judged differently when the
first one had been converted. -/
theorem cons {first rest : List TokenId} (hone : Exact s s' superClass [slot])
    (hall : Exact s' s'' superClass statements) (hfirst : Spans Cell.children s [slot] first)
    (hrest : Spans Cell.children s statements rest) (hdisjoint : ∀ u ∈ first, u ∉ rest)
    (hjudged : ∀ st ∈ statements, superCall? s' superClass st = superCall? s superClass st)
    (hdone : superCall? s'' superClass slot = none) : Exact s s'' superClass (slot :: statements) := by
  have hsize := hone.frame.size_le
  -- the others are not edited with the first one
  have hbefore : ∀ u ∈ rest, s'.cell u = s.cell u := fun u hu =>
    hone.cell_eq hfirst (hrest.lt_size u hu) fun hmem => hdisjoint u hmem hu
  have hrest' : Spans Cell.children s' statements rest :=
    hrest.frame hsize fun u hu => by rw [hbefore u hu]
  -- nor is the first one with the others
  have hafter : ∀ u ∈ first, s''.cell u = s'.cell u := fun u hu =>
    hall.cell_eq hrest' (Nat.lt_of_lt_of_le (hfirst.lt_size u hu) hsize) (hdisjoint u hu)
  have hcalls : ∀ t k a, some t ∈ statements →
      (s'.IsParentCall superClass t k a ↔ s.IsParentCall superClass t k a) := fun _ _ _ ht =>
    isParentCall_iff_of_superCall (hjudged _ ht)
  refine ⟨?_, fun t k a ht hparent => ?_, fun t ht hnot => ?_, fun x hx => ?_,
    fun n u hu => hall.whole n u (hone.whole n u hu)⟩
  · have hfirstpart : ∀ u, s.ParentCallPart superClass [slot] u →
        s.ParentCallPart superClass (slot :: statements) u := by
      rintro u ⟨t, k, a, ht, hparent, hu⟩
      exact ⟨t, k, a, List.mem_cons.mpr (Or.inl (List.mem_singleton.mp ht)), hparent, hu⟩
    have hrestpart : ∀ u, s'.ParentCallPart superClass statements u →
        s.ParentCallPart superClass (slot :: statements) u := by
      rintro u ⟨t, k, a, ht, hparent, hu⟩
      exact ⟨t, k, a, List.mem_cons_of_mem _ ht, (hcalls t k a ht).mp hparent, hu⟩
    refine (hone.frame.mono fun u _ => hfirstpart u).trans
      (hall.frame.mono fun u _ => hrestpart u) fun u hu hpart => ?_
    have hspans : Spans Cell.children s (slot :: statements) (first ++ rest) := hfirst.append hrest
    exact absurd (hspans.lt_size u (hpart.mem hspans)) (Nat.not_lt_of_le hu)
  · rcases List.mem_cons.mp ht with rfl | ht
    · have htmem : t ∈ first := hfirst.root_mem List.mem_cons_self
      have hamem : a ∈ first := hfirst.link_mem htmem (by rw [hparent.children]; simp)
      refine (hone.becomes t k a List.mem_cons_self hparent).later hall.frame.size_le
        (hafter t htmem) (hafter a hamem) fun w hwlt hw => ?_
      exact hall.cell_eq hrest' hwlt fun hmem =>
        absurd (hrest.lt_size w hmem) (Nat.not_lt_of_le hw)
    · have htmem : t ∈ rest := hrest.root_mem ht
      have hkmem : k ∈ rest := hrest.link_mem htmem (by rw [hparent.children]; simp)
      have hamem : a ∈ rest := hrest.link_mem htmem (by rw [hparent.children]; simp)
      exact (hall.becomes t k a ht ((hcalls t k a ht).mpr hparent)).earlier hsize
        (hbefore t htmem) (hbefore k hkmem) (hbefore a hamem)
  · rcases List.mem_cons.mp ht with rfl | ht
    · rw [hafter t (hfirst.root_mem List.mem_cons_self), hone.unchanged t List.mem_cons_self hnot]
    · rw [hall.unchanged t ht (by rw [hjudged _ ht, hnot]), hbefore t (hrest.root_mem ht)]
  · rcases List.mem_cons.mp hx with rfl | hx
    · exact hdone
    · exact hall.done x hx

end Exact

/-- All statements are converted, each as it was at the start. -/
theorem convertSuperCalls_exact (hspans : Spans Cell.children s statements ids) (hn : ids.Nodup)
    (hsuper : Spans Cell.children s [superClass] supers) (hnsuper : supers.Nodup)
    (hapart : ∀ u ∈ supers, u ∉ ids) :
    ∃ s', (statements.forM (convertSuperCall superClass)).run.run s = (.ok (), s') ∧
      Exact s s' superClass statements := by
  induction statements generalizing s ids with
  | nil =>
      exact ⟨s, rfl, .refl _ _, fun _ _ _ h => absurd h List.not_mem_nil, fun _ _ _ => rfl,
        fun _ h => absurd h List.not_mem_nil, fun _ _ => id⟩
  | cons slot statements ih =>
      obtain ⟨first, rest, rfl, hfirst, hrest⟩ := hspans.of_cons
      obtain ⟨hnfirst, hnrest, hdisjoint⟩ := List.nodup_append.mp hn
      have hdisjoint : ∀ u ∈ first, u ∉ rest := fun u hu hu' => hdisjoint u hu u hu' rfl
      obtain ⟨s₁, hrun, hone, first', hfirst', hsub⟩ :=
        convertSuperCall_exact superClass hfirst hnfirst
      have hsize := hone.frame.size_le
      -- neither the other statements nor the super class are edited with the first statement
      have hsame : ∀ u ∈ rest ++ supers, s₁.cell u = s.cell u := by
        intro u hu
        rcases List.mem_append.mp hu with hu | hu
        · exact hone.cell_eq hfirst (hrest.lt_size u hu) fun hmem => hdisjoint u hmem hu
        · exact hone.cell_eq hfirst (hsuper.lt_size u hu) fun hmem =>
            hapart u hu (List.mem_append_left _ hmem)
      have hrest₁ : Spans Cell.children s₁ statements rest :=
        hrest.frame hsize fun u hu => by rw [hsame u (List.mem_append_left _ hu)]
      have hsuper₁ : Spans Cell.children s₁ [superClass] supers :=
        hsuper.frame hsize fun u hu => by rw [hsame u (List.mem_append_right _ hu)]
      obtain ⟨s₂, hrun₂, hall⟩ := ih hrest₁ hnrest hsuper₁ fun u hu hmem =>
        hapart u hu (List.mem_append_right _ hmem)
      -- the first statement is no call of the super class in the end, because it was none before
      have hkept : ∀ u ∈ first' ++ supers, s₂.cell u = s₁.cell u := by
        intro u hu
        rcases List.mem_append.mp hu with hu | hu
        · refine hall.cell_eq hrest₁ (hfirst'.lt_size u hu) fun hmem => ?_
          rcases List.mem_append.mp (hsub.subset hu) with hu | hu
          · exact hdisjoint u hu hmem
          · exact absurd (hrest.lt_size u hmem) (Nat.not_lt_of_le (Store.mem_fresh.mp hu).1)
        · exact hall.cell_eq hrest₁ (hsuper₁.lt_size u hu) fun hmem =>
            hapart u hu (List.mem_append_right _ hmem)
      have hdone : superCall? s₂ superClass slot = none := by
        rw [superCall?_same hfirst' hsuper₁ hnsuper hall.frame.size_le hkept]
        exact hone.done slot List.mem_cons_self
      refine ⟨s₂, ?_, hone.cons hall hfirst hrest hdisjoint
        (superCalls_same hrest hsuper hnsuper hsize hsame) hdone⟩
      show (convertSuperCall superClass slot >>= fun _ =>
        statements.forM (convertSuperCall superClass)).run.run s = _
      rw [run_run_bind_of_ok hrun, hrun₂]

end Candidate

end ClassLift
