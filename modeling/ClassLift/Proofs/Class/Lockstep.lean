import ClassLift.Proofs.Class.Commit
import ClassLift.Proofs.Class.Mirror
import ClassLift.Proofs.Token.Lockstep

set_option autoImplicit false

/-! # Commits in lockstep

Two candidates declare the same class when they are peers: the declarations make the same new
tokens, and the same super calls are converted (`Candidate.Peers.declare`). If they are twins, the
same statements go, too, and so they are committed alike (`Candidate.Twins.commit`). Whether a call
is one of the super class is a question of structure: it does not depend on the store, as long as
the stores are large enough for the super class to be looked at to its end.
-/

namespace ClassLift

open List

variable {s s' : Store} {R R' : TokenId → TokenId → Prop} {m m' : Method} {c c' : Candidate}
  {x x' y y' : Slot} {ids own : List TokenId} {statements statements' : List Slot}

theorem Method.Twins.mono (h : m.Twins R m') (hR : ∀ u v, R u v → R' u v) : m.Twins R' m' :=
  ⟨h.name, h.function.mono hR, h.statement.mono hR, Partners.mono_list h.commented hR,
    h.parent.mono hR, h.modifier⟩

theorem Candidate.Twins.mono (h : c.Twins R c') (hR : ∀ u v, R u v → R' u v) : c.Twins R' c' :=
  ⟨h.name, h.builder.mono hR, h.statement.mono hR, Partners.mono_list h.commented hR,
    h.parent.mono hR, h.superClass.mono hR, h.methods.imp fun _ _ hm => hm.mono hR,
    h.inheritance.imp fun _ _ hp => ⟨hp.1.mono hR, hp.2.mono hR⟩⟩

/-- The methods become the same member, whatever the statements are that they go with. -/
structure Method.Peers (R : TokenId → TokenId → Prop) (m m' : Method) : Prop where
  name : m.name = m'.name
  function : Partners R m.function m'.function
  modifier : m.modifier = m'.modifier

/-- The candidates become the same class, whatever the statements are that go then. -/
structure Candidate.Peers (R : TokenId → TokenId → Prop) (c c' : Candidate) : Prop where
  name : c.name = c'.name
  builder : c.builder.Peers R c'.builder
  statement : Partners R c.statement c'.statement
  superClass : Partners R c.superClass c'.superClass
  methods : Forall₂ (Method.Peers R) c.methods c'.methods

theorem Method.Twins.peers (h : m.Twins R m') : m.Peers R m' := ⟨h.name, h.function, h.modifier⟩

theorem Method.Peers.mono (h : m.Peers R m') (hR : ∀ u v, R u v → R' u v) : m.Peers R' m' :=
  ⟨h.name, h.function.mono hR, h.modifier⟩

theorem Candidate.Twins.peers (h : c.Twins R c') : c.Peers R c' :=
  ⟨h.name, h.builder.peers, h.statement, h.superClass, h.methods.imp fun _ _ hm => hm.peers⟩

theorem Candidate.Peers.mono (h : c.Peers R c') (hR : ∀ u v, R u v → R' u v) : c.Peers R' c' :=
  ⟨h.name, h.builder.mono hR, h.statement.mono hR, h.superClass.mono hR,
    h.methods.imp fun _ _ hm => hm.mono hR⟩

/-- New tokens say the same, wherever the tokens stand that they are made for. -/
theorem Cell.Twins.fresh {kind : Kind} {value : String} {line column line' column' : Int}
    {slots slots' : List Slot} (h : Forall₂ (Partners R) slots slots') :
    (Cell.fresh kind value line column slots).Twins R (.fresh kind value line' column' slots') :=
  ⟨rfl, rfl, h⟩

/-! ## Methods -/

namespace Method.Peers

theorem arguments (h : Mirror R s s') (hm : m.Peers R m') :
    Edit.Lockstep R s s' m.arguments m'.arguments Partners := by
  unfold Method.arguments
  exact (Edit.Lockstep.cell h hm.function).bind fun _ h₁ hc => .child h₁ hc 1

theorem body (h : Mirror R s s') (hm : m.Peers R m') :
    Edit.Lockstep R s s' m.body m'.body Partners := by
  unfold Method.body
  refine (Edit.Lockstep.cell h hm.function).bind fun _ h₁ hc => ?_
  refine (Edit.Lockstep.child h₁ hc 2).bind fun _ h₂ hslot => ?_
  refine (Edit.Lockstep.cell h₂ hslot).bind fun {R' b b' t t'} hR h₃ hb => ?_
  rw [hb.kind]
  by_cases hk : b'.label.kind = Kind.block
  · rw [if_pos hk, if_pos hk]
    exact .pure h₃ (hslot.mono hR)
  · rw [if_neg hk]
    intro _ _ _ _ hthrow
    cases hthrow

/-- The methods are defined alike. -/
theorem define (h : Mirror R s s') (hm : m.Peers R m') :
    Edit.Lockstep R s s' m.define m'.define fun R' u v => R' u v := by
  unfold Method.define
  refine (Edit.Lockstep.cell h hm.function).bind fun hR₁ h₁ _ => ?_
  have hm := hm.mono hR₁
  rw [hm.name, hm.modifier]
  refine (Edit.Lockstep.create h₁ (.fresh .nil)).bind fun hR₂ h₂ hname => ?_
  have hm := hm.mono hR₂
  refine (arguments h₂ hm).bind fun hR₃ h₃ harguments => ?_
  have hm := hm.mono hR₃
  refine (body h₃ hm).bind fun hR₄ h₄ hbody => ?_
  refine (Edit.Lockstep.copyComments h₄ _ _).bind fun hR₅ h₅ _ => ?_
  have hname := hR₅ _ _ (hR₄ _ _ (hR₃ _ _ hname))
  have harguments := (harguments.mono hR₄).mono hR₅
  exact .create h₅ ⟨rfl, rfl, .cons (.some hname) (.cons harguments (.cons (hbody.mono hR₅) .nil))⟩

end Method.Peers

theorem Method.Twins.remove (h : Mirror R s s') (hm : m.Twins R m') :
    Edit.Lockstep R s s' m.remove m'.remove fun _ _ _ => True := by
  have hstatement := hm.statement
  unfold Method.remove
  generalize m.statement = x at hstatement ⊢
  generalize m'.statement = x' at hstatement ⊢
  cases hstatement with
  | none => exact .pure h trivial
  | some hR => exact .replaceStatement h hm.parent (.some hR) .nil


/-! ## Super calls -/

namespace Mirror

theorem isThis (h : Mirror R s s') (hx : Partners R x x') : s'.isThis x' = s.isThis x :=
  h.isToken hx _ _

/-- Whether a slot calls the super class does not depend on the store. -/
theorem superCall? (h : Mirror R s s') (hx : Partners R x x')
    (hfits : s.Fits (min s.size s'.size) x) (hy : Partners R y y') :
    Option.Rel (fun p p' => Partners R p.1 p'.1 ∧ Partners R p.2 p'.2) (Candidate.superCall? s x y)
      (Candidate.superCall? s' x' y') := by
  unfold Candidate.superCall?
  -- each test reads corresponding tokens: callee, object, arguments and the first of these
  rw [h.hasKind hy]
  have hchildren := h.slot_children hy
  generalize s.children y = ys at hchildren ⊢
  generalize s'.children y' = ys' at hchildren ⊢
  rcases hchildren with _ | ⟨hcallee, _ | ⟨harguments, _ | ⟨-, -⟩⟩⟩
  case cons.cons.nil callee callee' arguments arguments' =>
    have hobject := h.memberNamed? hcallee "call"
    dsimp only
    generalize s.memberNamed? "call" callee = o at hobject ⊢
    generalize s'.memberNamed? "call" callee' = o' at hobject ⊢
    cases hobject with
    | none => exact .none
    | some hobject =>
        have hthis : ((s'.children arguments').head?.map s'.isThis).getD false =
            ((s.children arguments).head?.map s.isThis).getD false := by
          have hslots := h.slot_children harguments
          generalize s.children arguments = slots at hslots ⊢
          generalize s'.children arguments' = slots' at hslots ⊢
          cases hslots with
          | nil => rfl
          | cons hfirst _ => exact h.isThis hfirst
        dsimp only
        rw [h.hasKind harguments, h.alike hobject hx hfits, hthis]
        split
        · exact .some ⟨hcallee, harguments⟩
        · exact .none
  all_goals exact .none

/-- Two super calls are converted. -/
theorem withSuper {t u a b : TokenId} {word word' : Cell} (h : Mirror R s s') (ht : R t u)
    (ha : R a b) (hword : word.Twins R word') :
    Mirror (Also R s.size s'.size) (Candidate.withSuper s t a word)
      (Candidate.withSuper s' u b word') := by
  have hpushed := h.push hword
  have hchildren := hpushed.children (Or.inl ht)
  have hcall := hpushed.alter (Or.inl ht)
    (.set (hpushed.lt (Or.inl ht)).1 (((s.push word).cell t).children.set 0 (some s.size)))
    (.set (hpushed.lt (Or.inl ht)).2 (((s'.push word').cell u).children.set 0 (some s'.size))) (by
      generalize ((s.push word).cell t).children = xs at hchildren ⊢
      generalize ((s'.push word').cell u).children = xs' at hchildren ⊢
      cases hchildren with
      | nil => exact .nil
      | cons _ hrest => exact .cons (.some (Or.inr ⟨rfl, rfl⟩)) hrest)
  exact hcall.alter (Or.inl ha) (.set (hcall.lt (Or.inl ha)).1 _) (.set (hcall.lt (Or.inl ha)).2 _)
    (List.forall₂_drop 1 (hcall.children (Or.inl ha)))

/-- A statement is converted alike. -/
theorem convertSuperCall (h : Mirror R s s') (hx : Partners R x x')
    (hfits : s.Fits (min s.size s'.size) x) (hy : Partners R y y') :
    ∃ t t' R', (Candidate.convertSuperCall x y).run.run s = (.ok (), t) ∧
      (Candidate.convertSuperCall x' y').run.run s' = (.ok (), t') ∧
      Edit.Extends R R' s s' t t' ∧ Mirror R' t t' := by
  have hcall := h.superCall? hx hfits hy
  cases hleft : Candidate.superCall? s x y with
  | none =>
      rw [hleft] at hcall
      cases hright : Candidate.superCall? s' x' y' with
      | some => rw [hright] at hcall; cases hcall
      | none =>
          exact ⟨s, s', R, Candidate.convertSuperCall_of_none hleft,
            Candidate.convertSuperCall_of_none hright, .refl R s s', h⟩
  | some p =>
      obtain ⟨callee, arguments⟩ := p
      rw [hleft] at hcall
      cases hright : Candidate.superCall? s' x' y' with
      | none => rw [hright] at hcall; cases hcall
      | some p' =>
          obtain ⟨callee', arguments'⟩ := p'
          rw [hright] at hcall
          cases hcall with
          | some hparts =>
              obtain ⟨t, k, a, -, -, rfl, rfl, rfl, -⟩ := Candidate.superCall_eq_some hleft
              obtain ⟨t', k', a', -, -, rfl, rfl, rfl, -⟩ := Candidate.superCall_eq_some hright
              cases hy with
              | some ht =>
                  cases hparts.2 with
                  | some ha =>
                      -- both sides make one token, the word `super`, and nothing more
                      have hpush := Edit.Extends.push R s s' default default
                      refine ⟨_, _, _, Candidate.convertSuperCall_of_some hleft,
                        Candidate.convertSuperCall_of_some hright, ⟨hpush.old, hpush.new, ?_, ?_⟩,
                        h.withSuper ht ha (.fresh .nil)⟩
                      · simp only [Candidate.withSuper, Store.size_set, Store.size_push]
                        exact Nat.le_succ _
                      · simp only [Candidate.withSuper, Store.size_set, Store.size_push]
                        exact Nat.le_succ _

/-- The statements are converted alike, when the super class is not found from any of them. -/
theorem convertSuperCalls (h : Mirror R s s') (hx : Partners R x x')
    (hsuper : Spans Cell.children s [x] own) (hown : own.length ≤ min s.size s'.size)
    (hspans : Spans Cell.children s statements ids) (hn : ids.Nodup) (hapart : ∀ u ∈ own, u ∉ ids)
    (hstatements : Forall₂ (Partners R) statements statements') :
    Edit.Lockstep R s s' (statements.forM (Candidate.convertSuperCall x))
      (statements'.forM (Candidate.convertSuperCall x')) fun _ _ _ => True := by
  induction statements generalizing R s s' ids statements' with
  | nil =>
      cases hstatements
      exact .pure h trivial
  | cons y statements ih =>
      cases hstatements with
      | @cons _ y' _ statements' hy hrest =>
          obtain ⟨first, rest, rfl, hfirst, hspans⟩ := hspans.of_cons
          obtain ⟨hnfirst, hnrest, hdisjoint⟩ := List.nodup_append.mp hn
          have hfits : s.Fits (min s.size s'.size) x := by
            cases x with
            | none => exact .absent _
            | some t => exact (hsuper.fits t (hsuper.root_mem List.mem_cons_self)).mono hown
          obtain ⟨s₁, s₁', R₁, hrun, hrun', hR, h₁⟩ := h.convertSuperCall hx hfits hy
          have hsizes : min s.size s'.size ≤ min s₁.size s₁'.size := by
            have hsize := hR.size
            have hsize' := hR.size'
            omega
          -- neither the super class nor the other statements are edited
          obtain ⟨s₂, hrun₂, hframe, -⟩ := Candidate.convertSuperCall_run x hfirst hnfirst
          obtain rfl : s₁ = s₂ := congrArg Prod.snd (hrun.symm.trans hrun₂)
          have hsuper₁ := hframe.spans hsuper fun u hu hpart =>
            hapart u hu (List.mem_append_left _ hpart.1)
          have hspans₁ := hframe.spans hspans fun u hu hpart => hdisjoint u hpart.1 u hu rfl
          exact .step hrun hrun' hR (ih h₁ (hx.mono hR.old) hsuper₁ (Nat.le_trans hown hsizes) hspans₁
            hnrest (fun u hu hmem => hapart u hu (List.mem_append_right _ hmem))
            (Partners.mono_list hrest hR.old))

theorem emptyBody (h : Mirror R s s') (hm : m.Peers R m') : s'.emptyBody m' = s.emptyBody m := by
  unfold Store.emptyBody
  have hchildren := h.slot_children hm.function
  generalize s.children m.function = xs at hchildren ⊢
  generalize s'.children m'.function = xs' at hchildren ⊢
  rcases hchildren with _ | ⟨-, _ | ⟨-, _ | ⟨hbody, _ | ⟨-, -⟩⟩⟩⟩
  case cons.cons.cons.nil =>
    dsimp only
    rw [Bool.eq_iff_iff, List.isEmpty_iff_length_eq_zero, List.isEmpty_iff_length_eq_zero,
      (h.slot_children hbody).length_eq]
  all_goals rfl

end Mirror

/-! ## Classes -/

/-- What the constructor takes over and what is found from the super class are apart, and the
latter is not more than `n` tokens. -/
def Store.Apart (s : Store) (c : Candidate) (n : Nat) : Prop :=
  ∃ ids own, Spans Cell.children s (s.shared c.builder) ids ∧ ids.Nodup ∧
    Spans Cell.children s [c.superClass] own ∧ own.length ≤ n ∧ ∀ u ∈ own, u ∉ ids

/-- All statements that go with the candidate stand in the token. -/
structure Candidate.GoesFrom (c : Candidate) (a : TokenId) : Prop where
  inheritance : ∀ p ∈ c.inheritance, p.1 = some a
  methods : ∀ m ∈ c.methods, m.parent = some a

theorem Candidate.GoesFrom.altersOnly {a : TokenId} (h : c.GoesFrom a) :
    Edit.AltersOnly a (do
      c.inheritance.forM fun (parent, node) => Edit.replaceStatement parent node []
      c.methods.forM Method.remove) := by
  refine .bind (.forM fun p hp => ?_) (.forM fun m hm => ?_)
  · obtain ⟨parent, node⟩ := p
    obtain rfl : parent = some a := h.inheritance _ hp
    exact .replaceStatement a node []
  · unfold Method.remove
    rw [h.methods m hm]
    cases m.statement with
    | none => exact .pure a
    | some t => exact .replaceStatement a (some t) []

namespace Candidate.Peers

theorem convertSuperCalls (h : Mirror R s s') (hc : c.Peers R c')
    (hb : s.isConvertible c.builder.function = .ok true)
    (hb' : s'.isConvertible c'.builder.function = .ok true)
    (hapart : s.Apart c (min s.size s'.size)) :
    Edit.Lockstep R s s' c.convertSuperCalls c'.convertSuperCalls fun _ _ _ => True := by
  obtain ⟨ids, own, hids, hn, hown, hlength, hapart⟩ := hapart
  obtain ⟨f, n, a, b, hf, hchildren, -, hbody⟩ := Method.body_run hb
  obtain ⟨f', n', a', b', hf', hchildren', -, hbody'⟩ := Method.body_run hb'
  have hparts := h.slot_children hc.builder.function
  rw [Store.shared, hf] at hids
  rw [hf, hf'] at hparts
  have hids : Spans Cell.children s ((s.cell f).children.drop 1) ids := hids
  have hparts : Forall₂ (Partners R) (s.cell f).children (s'.cell f').children := hparts
  rw [hchildren] at hids hparts
  rw [hchildren'] at hparts
  rcases hparts with _ | ⟨-, _ | ⟨-, _ | ⟨_ | hR, -⟩⟩⟩
  obtain ⟨first, rest, rfl, -, hrest⟩ := hids.of_cons
  obtain ⟨-, below, rfl, hbelow⟩ := hrest.of_singleton
  unfold Candidate.convertSuperCalls
  refine .read hbody hbody' (.read (Edit.run_run_cell s b) (Edit.run_run_cell s' b') ?_)
  refine h.convertSuperCalls hc.superClass hown hlength hbelow ?_ (fun u hu hmem => ?_)
    (h.children hR)
  · exact (List.nodup_cons.mp (List.nodup_append.mp hn).2.1).2
  · exact hapart u hu (List.mem_append_right _ (List.mem_cons_of_mem b hmem))

theorem defineConstructor (h : Mirror R s s') (hc : c.Peers R c')
    (hb : s.isConvertible c.builder.function = .ok true)
    (hb' : s'.isConvertible c'.builder.function = .ok true)
    (hapart : s.Apart c (min s.size s'.size)) :
    Edit.Lockstep R s s' c.defineConstructor c'.defineConstructor fun R' => Option.Rel R' := by
  unfold Candidate.defineConstructor
  refine .read (Method.isEmpty_run hb) (Method.isEmpty_run hb') ?_
  rw [h.emptyBody hc.builder]
  cases s.emptyBody c.builder with
  | true => exact .pure h .none
  | false =>
      refine (convertSuperCalls h hc hb hb' hapart).bind fun hR₁ h₁ _ => ?_
      refine (Method.Peers.define h₁ (hc.builder.mono hR₁)).bind fun hR₂ h₂ ht => ?_
      exact .pure h₂ (.some ht)

theorem defineMembers (h : Mirror R s s') (hc : c.Peers R c')
    (hb : s.isConvertible c.builder.function = .ok true)
    (hb' : s'.isConvertible c'.builder.function = .ok true)
    (hapart : s.Apart c (min s.size s'.size)) :
    Edit.Lockstep R s s' c.defineMembers c'.defineMembers fun R' => Forall₂ R' := by
  unfold Candidate.defineMembers
  refine (defineConstructor h hc hb hb' hapart).bind fun {R₁ first first' _ _} hR₁ h₁ hfirst => ?_
  have hothers := Edit.Lockstep.mapM (T := Method.Peers) (P := fun R' u v => R' u v)
    (fun hR hm => hm.mono hR) (fun hR => hR _ _) Method.Peers.define h₁ (hc.mono hR₁).methods
  refine hothers.bind fun {R₂ _ _ _ _} hR₂ h₂ hothers => .pure h₂ (List.rel_append ?_ hothers)
  cases hfirst with
  | none => exact .nil
  | some ht => exact .cons (hR₂ _ _ ht) .nil

/-- The same class is declared. -/
theorem declare (hc : c.Peers R c') (h : Mirror R s s')
    (hb : s.isConvertible c.builder.function = .ok true)
    (hb' : s'.isConvertible c'.builder.function = .ok true)
    (hapart : s.Apart c (min s.size s'.size)) :
    Edit.Lockstep R s s' c.declare c'.declare fun R' u v => R' u v := by
  have hstatement := hc.statement
  unfold Candidate.declare
  generalize c.statement = st at hstatement ⊢
  generalize c'.statement = st' at hstatement ⊢
  rcases hstatement with _ | @⟨st, st', -⟩
  · intro _ _ _ _ hrun
    rw [run_run_bind_of_error (Edit.run_run_cell_none s)] at hrun
    cases hrun
  refine .read (Edit.run_run_cell s st) (Edit.run_run_cell s' st') ?_
  refine (defineMembers h hc hb hb' hapart).bind fun {R₁ members members' _ _} hR₁ h₁ hmembers => ?_
  rw [hc.name]
  refine (Edit.Lockstep.create h₁ (.fresh (hc.superClass.mono hR₁).toList)).bind fun hR₂ h₂ hextends => ?_
  refine (Edit.Lockstep.create h₂ (.fresh .nil)).bind fun {R₃ _ _ _ _} hR₃ h₃ hname => ?_
  have hblock : Forall₂ (Partners R₃) (members.map some) (members'.map some) :=
    List.rel_map (fun _ _ huv => .some (hR₃ _ _ (hR₂ _ _ huv))) hmembers
  refine (Edit.Lockstep.create h₃ (.fresh hblock)).bind fun hR₄ h₄ hblock => ?_
  refine (Edit.Lockstep.copyComments h₄ _ _).bind fun hR₅ h₅ _ => ?_
  have hname := hR₅ _ _ (hR₄ _ _ hname)
  have hextends := hR₅ _ _ (hR₄ _ _ (hR₃ _ _ hextends))
  exact .create h₅ ⟨rfl, rfl, .cons (.some hname) (.cons (.some hextends)
    (.cons (.some (hR₅ _ _ hblock)) .nil))⟩

/-- Two candidates of one parent, or of parents that are partners, are committed alike but for the
statements that go. These stand in two tokens without partners. -/
theorem commit {a b : TokenId} (hc : c.Peers R c') (h : Mirror R s s') (hspares : Spares R a b)
    (hb : s.isConvertible c.builder.function = .ok true)
    (hb' : s'.isConvertible c'.builder.function = .ok true)
    (hapart : s.Apart c (min s.size s'.size)) (ha : a < s.size) (hlt : b < s'.size)
    (hparent : (c.parent = some a ∧ c'.parent = some b) ∨ Partners R c.parent c'.parent)
    (hgoes : c.GoesFrom a) (hgoes' : c'.GoesFrom b) {d d' : TokenId} {s₁ s₁' : Store}
    (hdeclare : c.declare.run.run s = (.ok d, s₁)) (hdeclare' : c'.declare.run.run s' = (.ok d', s₁')) :
    Edit.Lockstep R s s' c.commit c'.commit fun R' _ _ => R' d d' := by
  intro _ _ t t' hrun hrun'
  unfold Candidate.commit at hrun hrun'
  rw [run_run_bind_of_ok hdeclare] at hrun
  rw [run_run_bind_of_ok hdeclare'] at hrun'
  obtain ⟨R₁, hR₁, h₁, hd⟩ := hc.declare h hb hb' hapart _ _ _ _ hdeclare hdeclare'
  have hspares₁ := hR₁.spares hspares ha hlt
  have ha₁ := Nat.lt_of_lt_of_le ha hR₁.size
  have hlt₁ := Nat.lt_of_lt_of_le hlt hR₁.size'
  -- from here on only the two parents change, which have no partners, or change alike
  obtain ⟨⟨⟩, s₂, hreplace, hrun⟩ := run_run_bind_eq_ok.mp hrun
  obtain ⟨⟨⟩, s₂', hreplace', hrun'⟩ := run_run_bind_eq_ok.mp hrun'
  have hreplaced : Edit.Lockstep R₁ s₁ s₁' (Edit.replaceStatement c.parent c.statement [some d])
      (Edit.replaceStatement c'.parent c'.statement [some d']) fun _ _ _ => True := by
    rcases hparent with ⟨hparent, hparent'⟩ | hparent
    · rw [hparent, hparent']
      exact (Edit.AltersOnly.replaceStatement a _ _).lockstep (.replaceStatement b _ _) h₁ hspares₁
        ha₁ hlt₁
    · exact .replaceStatement h₁ (hparent.mono hR₁.old) (hc.statement.mono hR₁.old)
        (.cons (.some hd) .nil)
  obtain ⟨R₂, hR₂, h₂, -⟩ := hreplaced _ _ _ _ hreplace hreplace'
  obtain ⟨R₃, hR₃, h₃, -⟩ := hgoes.altersOnly.lockstep hgoes'.altersOnly h₂
    (hR₂.spares hspares₁ ha₁ hlt₁) (Nat.lt_of_lt_of_le ha₁ hR₂.size)
    (Nat.lt_of_lt_of_le hlt₁ hR₂.size') _ _ _ _ hrun hrun'
  exact ⟨R₃, (hR₁.trans hR₂).trans hR₃, h₃, hR₃.old _ _ (hR₂.old _ _ hd)⟩

end Candidate.Peers

/-- Two candidates that are twins are committed alike. -/
theorem Candidate.Twins.commit (h : Mirror R s s') (hc : c.Twins R c')
    (hb : s.isConvertible c.builder.function = .ok true)
    (hb' : s'.isConvertible c'.builder.function = .ok true)
    (hapart : s.Apart c (min s.size s'.size)) :
    Edit.Lockstep R s s' c.commit c'.commit fun _ _ _ => True := by
  unfold Candidate.commit
  refine (hc.peers.declare h hb hb' hapart).bind fun hR₁ h₁ ht => ?_
  have hc := hc.mono hR₁
  refine (Edit.Lockstep.replaceStatement h₁ hc.parent hc.statement (.cons (.some ht) .nil)).bind
    fun hR₂ h₂ _ => ?_
  have hc := hc.mono hR₂
  have hinheritance := Edit.Lockstep.forM
    (T := fun R' (p p' : Slot × Slot) => Partners R' p.1 p'.1 ∧ Partners R' p.2 p'.2)
    (fun hR hp => ⟨hp.1.mono hR, hp.2.mono hR⟩)
    (fun h hp => Edit.Lockstep.replaceStatement h hp.1 hp.2 .nil) h₂ hc.inheritance
  refine hinheritance.bind fun hR₃ h₃ _ => ?_
  exact Edit.Lockstep.forM (T := Method.Twins) (fun hR hm => hm.mono hR) Method.Twins.remove h₃
    (hc.mono hR₃).methods

end ClassLift
