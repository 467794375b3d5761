import ClassLift.Proofs.Class.Redeclaration
import ClassLift.Proofs.Token.Nesting

set_option autoImplicit false

/-! # Super calls are converted once and for all

After the calls of the super class in the constructor are converted, none is left
(`Candidate.convertSuperCalls_settled`): either the super class has no token in common with the body of
the constructor, or the constructor stands inside the super class, and then no call in it can be one of
the whole. It stays so as long as the tokens on which this depends are kept (`Store.Judges`,
`Candidate.Exact.none_later`).
-/

namespace ClassLift

open List

variable {s s₁ s' : Store} {superClass slot : Slot} {statements roots : List Slot}
  {ids below supers us : List TokenId} {t u v k a b base : TokenId}

/-! ## Whether a statement calls the super class -/

namespace Store

/-- One of the statements, the token `t`, has the form `object.call(…)`, with the argument list `a`. -/
structure CallsOn (s : Store) (statements : List Slot) (t a : TokenId) (object : Slot) : Prop where
  mem : some t ∈ statements
  call : (s.cell t).label.kind = Kind.call
  parts : ∃ k name, (s.cell t).children = [some k, some a] ∧
    (s.cell k).label.kind = Kind.member ∧ (s.cell k).label.value = "." ∧
    (s.cell k).children = [object, some name] ∧
    (s.cell name).label.kind = Kind.memberName ∧ (s.cell name).label.value = "call"

/-- The tokens on which it depends which of the statements are calls of the super class: of each statement
that is a call, its own token and what stands in the place of the function, and of each `object.call(…)`
the argument list, and the tokens of `object` and of the super class, which are compared. -/
inductive Judges (s : Store) (superClass : Slot) (statements : List Slot) (u : TokenId) : Prop where
  | call (mem : some u ∈ statements) (kind : (s.cell u).label.kind = Kind.call)
  | callee (t : TokenId) (mem : some t ∈ statements) (kind : (s.cell t).label.kind = Kind.call)
      (first : (s.cell t).children[0]? = some (some u))
  | arguments (t : TokenId) (object : Slot) (calls : s.CallsOn statements t u object)
  | object (t a : TokenId) (object : Slot) (calls : s.CallsOn statements t a object)
      (given : superClass ≠ none) (found : s.Reaches object u)
  | superClass (t a : TokenId) (object : Slot) (calls : s.CallsOn statements t a object)
      (found : s.Reaches superClass u)

theorem IsParentCall.callsOn (h : s.IsParentCall superClass t k a) (ht : some t ∈ statements) :
    ∃ object, s.CallsOn statements t a object ∧ s.alike object superClass = true := by
  obtain ⟨hcall, hchildren, ⟨hkind, hvalue, object, name, hparts, hname, hcallname, halike⟩, -⟩ := h
  exact ⟨object, ⟨ht, hcall, k, name, hchildren, hkind, hvalue, hparts, hname, hcallname⟩, halike⟩

/-- What is edited when the calls are converted is among these tokens. -/
theorem ParentCallPart.judges (h : s.ParentCallPart superClass statements u) :
    s.Judges superClass statements u := by
  obtain ⟨t, k, a, ht, hparent, rfl | rfl⟩ := h
  · exact .call ht hparent.call
  · obtain ⟨object, hcalls, -⟩ := hparent.callsOn ht
    exact .arguments t object hcalls

/-- Slots that are alike were so before, when the tokens of both are kept. Nothing but an empty slot is
alike to an empty one. -/
theorem alike_earlier {x y : Slot} (hsize : s.size ≤ s'.size) (hx : Spans Cell.children s [x] below)
    (hy : Spans Cell.children s [y] supers)
    (hsame : y ≠ none → ∀ u ∈ below ++ supers, s'.cell u = s.cell u) (h : s'.alike x y = true) :
    s.alike x y = true := by
  cases y with
  | none =>
      cases x with
      | none => rw [alike, alikeTo]
      | some t => rw [alike, alikeTo] at h; cases h
  | some base =>
      have hspans : Spans Cell.children s [x, some base] (below ++ supers) := hx.append hy
      have hmirror := Mirror.of_same hspans.lt_size hsize (fun t ht c hc => hspans.link_mem ht hc)
        (hsame (Option.some_ne_none base))
      have hfits : s.Fits (min s.size s'.size) (some base) := by
        rw [Nat.min_eq_left hsize]
        exact hy.acyclic.fits
      rwa [hmirror.alike (hspans.itself x (by simp)) (hspans.itself (some base) (by simp)) hfits] at h

/-- A call of the super class was one before, when the labels and the tokens on which this depends are
kept. -/
theorem IsParentCall.earlier (h : s'.IsParentCall superClass t k a) (ht : some t ∈ statements)
    (hsize : s.size ≤ s'.size) (hown : Spans Cell.links s [some t] ids)
    (hsupers : Spans Cell.children s [superClass] supers)
    (hlabel : ∀ u ∈ ids, (s'.cell u).label = (s.cell u).label)
    (hsame : ∀ u ∈ ids ++ supers, s.Judges superClass statements u → s'.cell u = s.cell u) :
    s.IsParentCall superClass t k a := by
  have hkept : ∀ u ∈ ids, s.Judges superClass statements u → s'.cell u = s.cell u := fun u hu =>
    hsame u (List.mem_append_left _ hu)
  have hdown : ∀ {u v : TokenId}, u ∈ ids → some v ∈ (s.cell u).children → v ∈ ids := fun hu hv =>
    hown.link_mem hu (List.mem_append_left _ hv)
  obtain ⟨hcall, hchildren, ⟨hmember, hpoint, object, name, hparts, hname, hcallname, halike⟩, hlist, this,
    rest, hargs, hthis⟩ := h
  -- the call and its function
  have htids : t ∈ ids := hown.root_mem List.mem_cons_self
  rw [hlabel t htids] at hcall
  rw [hkept t htids (.call ht hcall)] at hchildren
  have hkids : k ∈ ids := hdown htids (by rw [hchildren]; simp)
  rw [hkept k hkids (.callee t ht hcall (by rw [hchildren]; rfl))] at hmember hpoint hparts
  rw [hlabel name (hdown hkids (by rw [hparts]; simp))] at hname hcallname
  have hcalls : s.CallsOn statements t a object :=
    ⟨ht, hcall, k, name, hchildren, hmember, hpoint, hparts, hname, hcallname⟩
  -- the argument list
  have haids : a ∈ ids := hdown htids (by rw [hchildren]; simp)
  rw [hkept a haids (.arguments t object hcalls)] at hlist hargs
  rw [hlabel this (hdown haids (by rw [hargs]; simp))] at hthis
  -- the object and the super class
  have hobject : object ∈ (s.cell k).children := by rw [hparts]; exact List.mem_cons_self
  obtain ⟨below, hbelow, hsub⟩ := hown.child_spans hkids hobject
  have halike : s.alike object superClass = true := by
    refine alike_earlier hsize hbelow hsupers (fun hgiven u hu => ?_) halike
    rcases List.mem_append.mp hu with hu | hu
    · exact hkept u (hsub u hu) (.object t a object hcalls hgiven (hbelow.reaches hu))
    · exact hsame u (List.mem_append_right _ hu) (.superClass t a object hcalls (hsupers.reaches hu))
  exact ⟨hcall, hchildren, ⟨hmember, hpoint, object, name, hparts, hname, hcallname, halike⟩, hlist, this,
    rest, hargs, hthis⟩

end Store

open Store

namespace Candidate

/-! ## Where the constructor stands inside the super class -/

/-- A call in a body that stands inside the super class is a call of some part of it, and no call of
the super class. -/
theorem superCall?_of_inside (hbase : s.Acyclic (some base)) (hb : s.Reaches (some base) b)
    (hslot : slot ∈ (s.cell b).children) : superCall? s (some base) slot = none := by
  cases hcall : superCall? s (some base) slot with
  | none => rfl
  | some parts =>
      obtain ⟨callee, arguments⟩ := parts
      obtain ⟨t, -, -, -, -, rfl, -⟩ := superCall_eq_some hcall
      obtain ⟨k, a, -, -, hparent⟩ := exists_isParentCall hcall
      obtain ⟨object, name, hparts, -, -, halike⟩ := hparent.callee.2.2
      have hk : s.Reaches (some base) k := (hb.child hslot).child (by rw [hparent.children]; simp)
      rw [hbase.not_alike_below hk (by rw [hparts]; simp)] at halike
      cases halike

/-- Where no statement is a call of the super class, nothing is converted. -/
theorem Exact.of_all_none (h : ∀ slot ∈ statements, superCall? s superClass slot = none) :
    Exact s s superClass statements where
  frame := .refl _ _
  becomes t k a ht hparent := by
    have hnone := h (some t) ht
    rw [hparent.superCall] at hnone
    cases hnone
  unchanged _ _ _ := rfl
  done := h
  whole _ _ := id

/-- All statements of a constructor's body are converted, when the super class does not stand in the
body; no token of the super class is edited. -/
theorem convertSuperCalls_settled (hspans : Spans Cell.links s roots ids) (hn : ids.Nodup)
    (hb : b ∈ ids) (hsuper : ∀ base, superClass = some base → base ∈ ids ∧ ¬ s.Reaches (some b) base) :
    ∃ s₁, ((s.cell b).children.forM (convertSuperCall superClass)).run.run s = (.ok (), s₁) ∧
      Exact s s₁ superClass (s.cell b).children ∧
      ∀ u, s.Reaches superClass u → s₁.cell u = s.cell u := by
  obtain ⟨below, hbody, hnbody, -⟩ := hspans.children_at hn hb
  obtain ⟨-, below', he, hbelow⟩ := hbody.of_singleton
  cases he
  have hnbelow := (List.nodup_cons.mp hnbody).2
  obtain ⟨supers, hsupers, hnsupers⟩ : ∃ supers, Spans Cell.children s [superClass] supers ∧
      supers.Nodup := by
    cases superClass with
    | none => exact ⟨[], .absent .nil, List.nodup_nil⟩
    | some base =>
        obtain ⟨own, hown, hnown, -⟩ := hspans.children_at hn (hsuper base rfl).1
        exact ⟨base :: own, hown, hnown⟩
  -- trees of one forest: they have nothing in common, or one stands inside the other
  by_cases hapart : ∀ u ∈ supers, u ∉ below
  · obtain ⟨s₁, hrun, hexact⟩ := convertSuperCalls_exact hbelow hnbelow hsupers hnsupers hapart
    refine ⟨s₁, hrun, hexact, fun u hu => ?_⟩
    have hmem := hsupers.mem_of_reaches hu
    exact hexact.cell_eq hbelow (hsupers.lt_size u hmem) (hapart u hmem)
  · -- a token in common: the body stands inside the super class
    push Not at hapart
    obtain ⟨u, husuper, hubelow⟩ := hapart
    obtain ⟨base, rfl, hway⟩ := hsupers.reaches husuper
    obtain ⟨hbase, hnot⟩ := hsuper base rfl
    have hub := hbody.reaches (List.mem_cons_of_mem _ hubelow)
    have hinside := (hspans.reaches_total hn hbase hb ⟨base, rfl, hway⟩ hub).resolve_right hnot
    have hnone : ∀ slot ∈ (s.cell b).children, superCall? s (some base) slot = none := fun slot hslot =>
      superCall?_of_inside hsupers.acyclic hinside hslot
    exact ⟨s, convertSuperCalls_of_none hnone, .of_all_none hnone, fun _ _ => rfl⟩

/-! ## After the conversion -/

namespace Exact

/-- Nothing is found below some tokens after the conversion but what was found below them before, and
words that are new. -/
theorem links_closed (h : Exact s s₁ superClass statements) (hlt : ∀ u ∈ us, u < s.size)
    (hclosed : ∀ u ∈ us, ∀ v, some v ∈ (s.cell u).links → v ∈ us) (hu : u ∈ us)
    (hv : some v ∈ (s₁.cell u).links) :
    v ∈ us ∨ s.size ≤ v ∧ v < s₁.size ∧ (s₁.cell v).links = [] := by
  by_cases hpart : s.ParentCallPart superClass statements u
  case neg =>
    rw [h.frame.cell (hlt u hu) hpart] at hv
    exact Or.inl (hclosed u hu v hv)
  obtain ⟨t, k, a, ht, hparent, htu⟩ := hpart
  obtain ⟨⟨w, hw, hwlt, hword, hcall⟩, hlist⟩ := h.becomes t k a ht hparent
  rcases htu with rfl | rfl
  · -- the call, with the word in the place of the function
    rw [hcall] at hv
    have hv : some v ∈ [some w, some a] ++ (s.cell u).comments := hv
    simp only [List.cons_append, List.nil_append, List.mem_cons, Option.some.injEq] at hv
    rcases hv with rfl | rfl | hv
    · exact Or.inr ⟨hw, hwlt, by rw [hword]; rfl⟩
    · exact Or.inl (hclosed u hu v (by simp [Cell.links, hparent.children]))
    · exact Or.inl (hclosed u hu v (List.mem_append_right _ hv))
  · rw [hlist] at hv
    exact Or.inl (hclosed u hu v (((List.drop_sublist 1 _).append (.refl _)).subset hv))

/-- After the conversion no statement is a call of the super class, and none becomes one later, as long
as the tokens on which this depends are kept. -/
theorem none_later (h : Exact s s₁ superClass statements) (hspans : Spans Cell.links s statements ids)
    (hn : ids.Nodup) (hsupers : Spans Cell.children s [superClass] supers)
    (hsuper : ∀ u ∈ supers, s₁.cell u = s.cell u) (hsize : s₁.size ≤ s'.size)
    (hlabel : ∀ u < s₁.size, (s'.cell u).label = (s₁.cell u).label)
    (hsame : ∀ u < s₁.size, s.Judges superClass statements u → s'.cell u = s₁.cell u)
    (hslot : slot ∈ statements) :
    superCall? s' superClass slot = none := by
  cases hcall : superCall? s' superClass slot with
  | none => rfl
  | some parts =>
      exfalso
      obtain ⟨callee, arguments⟩ := parts
      obtain ⟨t, -, -, -, -, rfl, -⟩ := superCall_eq_some hcall
      obtain ⟨k, a, -, -, hparent⟩ := exists_isParentCall hcall
      have htmem : t ∈ ids := hspans.root_mem hslot
      have hle := h.frame.size_le
      have hkind : (s.cell t).label.kind = Kind.call := by
        rw [← h.frame.label t (hspans.lt_size t htmem),
          ← hlabel t (Nat.lt_of_lt_of_le (hspans.lt_size t htmem) hle)]
        exact hparent.call
      have hlt : ∀ u ∈ Spans.at_ Cell.links s (some t), u < s₁.size := fun u hu =>
        Nat.lt_of_lt_of_le ((hspans.spans_at hslot).lt_size u hu) hle
      have htown : t ∈ Spans.at_ Cell.links s (some t) :=
        (hspans.spans_at hslot).root_mem List.mem_cons_self
      have ht : s'.cell t = s₁.cell t := hsame t (hlt t htown) (.call hslot hkind)
      -- a call that was converted is told apart by its function, any other one by what it was before
      by_cases hbefore : ∃ k a, s.IsParentCall superClass t k a
      · -- what it calls now is the word `super`
        obtain ⟨k', a', hbefore⟩ := hbefore
        obtain ⟨⟨w, -, hwlt, hword, hcell⟩, -⟩ := h.becomes t k' a' hslot hbefore
        have hchildren := hparent.children
        rw [ht, hcell] at hchildren
        cases hchildren
        have hmember := hparent.callee.1
        rw [hlabel k hwlt, hword] at hmember
        have hmember : Kind.keyword = Kind.member := hmember
        exact absurd hmember (by decide)
      · have hown := hspans.spans_at hslot
        refine hbefore ⟨k, a, hparent.earlier hslot (Nat.le_trans hle hsize) hown hsupers (fun u hu => ?_)
          fun u hu hread => ?_⟩
        · exact (hlabel u (hlt u hu)).trans (h.frame.label u (hown.lt_size u hu))
        rcases List.mem_append.mp hu with hu | hu
        · exact (hsame u (hlt u hu) hread).trans <| h.frame.cell (hown.lt_size u hu) fun hpart =>
            hbefore (parentCall_of_part hspans hn hslot hown hu hpart)
        · exact (hsame u (Nat.lt_of_lt_of_le (hsupers.lt_size u hu) hle) hread).trans (hsuper u hu)

end Exact

end Candidate

end ClassLift
