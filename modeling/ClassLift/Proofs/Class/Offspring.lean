import ClassLift.Proofs.Class.Success
import ClassLift.Proofs.Conversion.Visit
import ClassLift.Proofs.Token.Offspring

set_option autoImplicit false

/-! # Where the new tokens of a visit stand

A visit makes tokens for the words, names, methods and blocks of its classes, and copies comments
to put them before classes and methods. Step by step, from one method (`Method.define_offspring`)
to all that a container does (`Conversion.visit_offspring`), the account of these tokens is kept:
the made ones get their places in the tree, and each copy has one place among the comments of one
of them.
-/

namespace ClassLift

open List

variable {s s₁ s₂ : Store} {old made copied : List TokenId} {slot : Slot} {t : TokenId}

/-- The account goes on in the later store: all tokens made so far are still counted as made. -/
def Offspring.Goes (s : Store) (old made : List TokenId) (s₂ : Store)
    (P : List TokenId → Prop) : Prop :=
  ∃ made' copied', (∀ u ∈ made, u ∈ made') ∧ Offspring s old made' copied' s₂ ∧ P made'

/-- An old token, or one that was made. -/
def Offspring.Own (old made : List TokenId) (u : TokenId) : Prop := u ∈ old ∨ u ∈ made

theorem Offspring.Own.mono {made' : List TokenId} (hsub : ∀ u ∈ made, u ∈ made') :
    ∀ u, Own old made u → Own old made' u := fun u hu => hu.imp_right (hsub u)

namespace Offspring.Goes

variable {P Q : List TokenId → Prop}

theorem refl (h : Offspring s old made copied s₁) (hp : P made) : Goes s old made s₁ P :=
  ⟨made, copied, fun _ hu => hu, h, hp⟩

/-- Two steps that each keep the account keep it one after the other. -/
theorem trans (h : Goes s old made s₁ P)
    (hnext : ∀ made' copied', (∀ u ∈ made, u ∈ made') → Offspring s old made' copied' s₁ → P made' →
      Goes s old made' s₂ Q) : Goes s old made s₂ Q := by
  obtain ⟨made₁, copied₁, hsub, h₁, hp⟩ := h
  obtain ⟨made₂, copied₂, hsub', h₂, hq⟩ := hnext made₁ copied₁ hsub h₁ hp
  exact ⟨made₂, copied₂, fun u hu => hsub' u (hsub u hu), h₂, hq⟩

theorem imp (h : Goes s old made s₁ P) (hpq : ∀ made', (∀ u ∈ made, u ∈ made') → P made' → Q made') :
    Goes s old made s₁ Q := by
  obtain ⟨made₁, copied₁, hsub, h₁, hp⟩ := h
  exact ⟨made₁, copied₁, hsub, h₁, hpq made₁ hsub hp⟩

end Offspring.Goes

namespace Edit

/-! ## Reading -/

theorem child_eq_ok {c : Cell} {n : Nat} (h : (child c n).run.run s₁ = (.ok slot, s₂)) :
    slot ∈ c.children ∧ s₂ = s₁ := by
  unfold child at h
  split at h
  · rename_i found hfound
    cases h
    exact ⟨List.mem_of_getElem? hfound, rfl⟩
  · cases h

/-! ## Replacing a statement -/

theorem mem_of_replaceFirst {node : Slot} {new slots children : List Slot}
    (h : replaceFirst node new slots = some children) (hslot : slot ∈ children) :
    slot ∈ new ∨ slot ∈ slots := by
  induction slots generalizing children with
  | nil => cases h
  | cons first slots ih =>
      unfold replaceFirst at h
      by_cases hfirst : first = node
      · rw [if_pos hfirst] at h
        cases h
        exact (List.mem_append.mp hslot).imp_right (List.mem_cons_of_mem first)
      · rw [if_neg hfirst] at h
        obtain ⟨rest, hrest, rfl⟩ := Option.map_eq_some_iff.mp h
        rcases List.mem_cons.mp hslot with rfl | hslot
        · exact Or.inr List.mem_cons_self
        · exact (ih hrest hslot).imp_right (List.mem_cons_of_mem first)

theorem replaceStatement_offspring {parent node : Slot} {new : List Slot}
    (h : Offspring s old made copied s₁) (hparent : Stands (Offspring.Own old made) parent)
    (hnew : ∀ slot ∈ new, Stands (Offspring.Own old made) slot)
    (hrun : (replaceStatement parent node new).run.run s₁ = (.ok (), s₂)) :
    Offspring s old made copied s₂ := by
  obtain ⟨p, hparent, hp⟩ := hparent
  obtain ⟨p', children, hparent', hchildren, rfl⟩ := replaceStatement_eq_ok hrun
  obtain rfl : p = p' := Option.some.inj (hparent.symm.trans hparent')
  refine h.alter hp (Store.Alters.set (h.lt_size hp) children) fun slot hslot => ?_
  rcases mem_of_replaceFirst hchildren hslot with hslot | hslot
  · exact hnew slot hslot
  · exact h.closed p hp slot hslot

/-- Statements are taken out, one after the other. -/
theorem removeAll_offspring {α : Type} {e : α → Edit Unit} {xs : List α}
    (h : Offspring s old made copied s₁)
    (he : ∀ x ∈ xs, e x = pure () ∨ ∃ parent node,
      Stands (Offspring.Own old made) parent ∧ e x = replaceStatement parent node [])
    (hrun : (xs.forM e).run.run s₁ = (.ok (), s₂)) : Offspring s old made copied s₂ := by
  induction xs generalizing s₁ with
  | nil =>
      cases hrun
      exact h
  | cons x xs ih =>
      have hrun : (e x >>= fun _ => xs.forM e).run.run s₁ = (.ok (), s₂) := hrun
      obtain ⟨⟨⟩, s₃, hfirst, hrest⟩ := run_run_bind_eq_ok.mp hrun
      have hnext : Offspring s old made copied s₃ := by
        rcases he x List.mem_cons_self with hx | ⟨parent, node, hparent, hx⟩
        · rw [hx] at hfirst
          cases hfirst
          exact h
        · rw [hx] at hfirst
          exact replaceStatement_offspring h hparent (by simp) hfirst
      exact ih hnext (fun y hy => he y (List.mem_cons_of_mem x hy)) hrest

end Edit

open Edit Offspring

/-! ## Methods -/

namespace Method

variable {m : Method}

theorem arguments_eq_ok (h : m.arguments.run.run s₁ = (.ok slot, s₂)) :
    slot ∈ s₁.children m.function ∧ s₂ = s₁ := by
  unfold arguments at h
  obtain ⟨c, s₃, hcell, h⟩ := run_run_bind_eq_ok.mp h
  obtain ⟨f, hf, rfl, rfl⟩ := cell_eq_ok hcell
  rw [hf]
  exact Edit.child_eq_ok h

theorem isEmpty_eq_ok {empty : Bool} (h : m.isEmpty.run.run s₁ = (.ok empty, s₂)) : s₂ = s₁ := by
  unfold isEmpty at h
  obtain ⟨found, s₃, hbody, hrest⟩ := run_run_bind_eq_ok.mp h
  obtain ⟨-, rfl⟩ := body_eq_ok hbody
  obtain ⟨c, s₄, hcell, hlast⟩ := run_run_bind_eq_ok.mp hrest
  obtain ⟨-, -, -, rfl⟩ := cell_eq_ok hcell
  cases hlast
  rfl

/-- A method makes two tokens, and has copies as its comments. -/
theorem define_offspring (h : Offspring s old made copied s₁)
    (hf : Stands (Own old made) m.function) (hrun : m.define.run.run s₁ = (.ok t, s₂)) :
    Goes s old made s₂ (t ∈ ·) := by
  unfold define at hrun
  obtain ⟨c, s₃, hcell, hrun⟩ := run_run_bind_eq_ok.mp hrun
  obtain ⟨f, hfunction, rfl, rfl⟩ := cell_eq_ok hcell
  rw [run_run_bind_of_ok (run_run_create s₃ _)] at hrun
  set name := Cell.fresh Kind.text m.name (s₃.cell f).label.line (s₃.cell f).label.column []
  have hname : Offspring s old (made ++ [s₃.size]) copied (s₃.push name) :=
    h.make_bare rfl (by simp [name, Cell.fresh])
  have hmore : ∀ u, Own old made u → Own old (made ++ [s₃.size]) u :=
    Own.mono fun u => List.mem_append_left _
  -- the function is as it was, so that its parts are counted
  have hparts : ∀ slot ∈ (s₃.push name).children m.function,
      Stands (Own old (made ++ [s₃.size])) slot := by
    intro slot hslot
    obtain ⟨f', hf', hown⟩ := hf
    rw [hfunction] at hf' hslot
    cases hf'
    have hslot : slot ∈ ((s₃.push name).cell f).children := hslot
    rw [Store.cell_push_lt s₃ name f (h.lt_size hown)] at hslot
    exact (h.closed f hown slot hslot).imp hmore
  obtain ⟨arguments, s₄, harguments, hrun⟩ := run_run_bind_eq_ok.mp hrun
  obtain ⟨hargmem, rfl⟩ := arguments_eq_ok harguments
  obtain ⟨body, s₅, hbody, hrun⟩ := run_run_bind_eq_ok.mp hrun
  obtain ⟨hthird, rfl⟩ := body_eq_ok hbody
  have hbodymem := List.mem_of_getElem? hthird
  obtain ⟨comments, s₆, hcopy, hrun⟩ := run_run_bind_eq_ok.mp hrun
  obtain ⟨ids, hids, hsub⟩ := copyComments_spans hcopy
  cases hrun
  refine ⟨_, _, ?_, hname.make (copyComments_eq_ok hcopy).1 hids hsub
    (absurd (show Kind.method ∈ Kind.receiving by decide)) ?_,
    List.mem_append_right _ List.mem_cons_self⟩
  · intro u hu
    exact List.mem_append_left _ (List.mem_append_left _ hu)
  · intro slot hslot
    simp only [Cell.fresh, List.mem_cons, List.not_mem_nil, or_false] at hslot
    rcases hslot with rfl | rfl | rfl
    · exact ⟨s₃.size, rfl, Or.inr (List.mem_append_right _ List.mem_cons_self)⟩
    · exact hparts _ hargmem
    · exact hparts _ hbodymem

theorem mapM_define_offspring {methods : List Method} {ts : List TokenId}
    (h : Offspring s old made copied s₁)
    (hf : ∀ m ∈ methods, Stands (Own old made) m.function)
    (hrun : (methods.mapM define).run.run s₁ = (.ok ts, s₂)) :
    Goes s old made s₂ fun made' => ∀ t ∈ ts, t ∈ made' := by
  induction methods generalizing s₁ ts made copied with
  | nil =>
      cases hrun
      exact .refl h (by simp)
  | cons m methods ih =>
      obtain ⟨t, s₃, others, hm, hothers, rfl⟩ := Edit.mapM_cons_eq_ok hrun
      refine (define_offspring h (hf m List.mem_cons_self) hm).trans fun made₁ copied₁ hsub h₁ ht => ?_
      refine (ih h₁ (fun m' hm' => (hf m' (List.mem_cons_of_mem m hm')).imp (Own.mono hsub))
        hothers).imp fun made₂ hsub' hts => ?_
      intro u hu
      rcases List.mem_cons.mp hu with rfl | hu
      · exact hsub' u ht
      · exact hts u hu

end Method

/-! ## Classes -/

namespace Candidate

variable {c : Candidate}

/-- A super call makes the word, and drops the argument `this`. -/
theorem convertSuperCall_offspring {superClass : Slot} (h : Offspring s old made copied s₁)
    (hst : Stands (Own old made) slot)
    (hrun : (convertSuperCall superClass slot).run.run s₁ = (.ok (), s₂)) :
    Goes s old made s₂ fun _ => True := by
  cases hcall : superCall? s₁ superClass slot with
  | none =>
      rw [convertSuperCall_of_none hcall] at hrun
      cases hrun
      exact .refl h trivial
  | some parts =>
      obtain ⟨callee, arguments⟩ := parts
      obtain ⟨t, k, a, first, rest, rfl, rfl, rfl, -, -, hchildren, hargs⟩ := superCall_eq_some hcall
      rw [convertSuperCall_of_some hcall] at hrun
      cases hrun
      obtain ⟨t', ht', htown⟩ := hst
      cases ht'
      -- the argument list is a child of the statement, which is counted
      have haown : Own old made a := by
        obtain ⟨a', ha', hown⟩ := h.closed t htown (some a) (by rw [hchildren]; simp)
        cases ha'
        exact hown
      set word := Cell.fresh Kind.keyword "super" (s₁.cell k).label.line (s₁.cell k).label.column []
      have hword : Offspring s old (made ++ [s₁.size]) copied (s₁.push word) :=
        h.make_bare rfl (by simp [word, Cell.fresh])
      have hmore : ∀ u, Own old made u → Own old (made ++ [s₁.size]) u :=
        Own.mono fun u => List.mem_append_left _
      refine ⟨made ++ [s₁.size], copied, fun u hu => List.mem_append_left _ hu, ?_, trivial⟩
      -- the word takes the place of what was called, and then the first argument goes
      have hcalled := hword.alter (hmore t htown)
        (Store.Alters.set (hword.lt_size (hmore t htown))
          (((s₁.push word).cell t).children.set 0 (some s₁.size))) fun v hv => by
            rcases List.mem_or_eq_of_mem_set hv with hv | rfl
            · exact hword.closed t (hmore t htown) v hv
            · exact ⟨s₁.size, rfl, Or.inr (List.mem_append_right _ List.mem_cons_self)⟩
      exact hcalled.alter (hmore a haown)
        (Store.Alters.set (hcalled.lt_size (hmore a haown)) _) fun v hv =>
          hcalled.closed a (hmore a haown) v (List.mem_of_mem_drop hv)

theorem forM_convertSuperCall_offspring {superClass : Slot} {statements : List Slot}
    (h : Offspring s old made copied s₁)
    (hst : ∀ slot ∈ statements, Stands (Own old made) slot)
    (hrun : (statements.forM (convertSuperCall superClass)).run.run s₁ = (.ok (), s₂)) :
    Goes s old made s₂ fun _ => True := by
  induction statements generalizing s₁ made copied with
  | nil =>
      cases hrun
      exact .refl h trivial
  | cons statement statements ih =>
      have hrun : (convertSuperCall superClass statement >>= fun _ =>
        statements.forM (convertSuperCall superClass)).run.run s₁ = (.ok (), s₂) := hrun
      obtain ⟨⟨⟩, s₃, hfirst, hrest⟩ := run_run_bind_eq_ok.mp hrun
      refine (convertSuperCall_offspring h (hst statement List.mem_cons_self) hfirst).trans
        fun made₁ copied₁ hsub h₁ _ => ?_
      exact ih h₁ (fun slot hslot => (hst slot (List.mem_cons_of_mem _ hslot)).imp (Own.mono hsub)) hrest

/-- All tokens that a class takes over, or stands below, are as described. -/
structure Rooted (c : Candidate) (P : TokenId → Prop) : Prop where
  builder : Stands P c.builder.function
  methods : ∀ m ∈ c.methods, Stands P m.function ∧ Stands P m.parent
  superClass : ∀ base, c.superClass = some base → P base
  parent : Stands P c.parent
  inheritance : ∀ p ∈ c.inheritance, Stands P p.1

theorem Rooted.mono {P Q : TokenId → Prop} (h : c.Rooted P) (hpq : ∀ u, P u → Q u) : c.Rooted Q where
  builder := h.builder.imp hpq
  methods m hm := ⟨(h.methods m hm).1.imp hpq, (h.methods m hm).2.imp hpq⟩
  superClass base hbase := hpq base (h.superClass base hbase)
  parent := h.parent.imp hpq
  inheritance p hp := (h.inheritance p hp).imp hpq

/-- The constructor, if there is one, is made after the super calls in its body. -/
theorem defineConstructor_offspring {o : Option TokenId} (h : Offspring s old made copied s₁)
    (hf : Stands (Own old made) c.builder.function)
    (hrun : c.defineConstructor.run.run s₁ = (.ok o, s₂)) :
    Goes s old made s₂ fun made' => ∀ t ∈ o.toList, t ∈ made' := by
  unfold defineConstructor at hrun
  obtain ⟨empty, s₃, hempty, hrest⟩ := run_run_bind_eq_ok.mp hrun
  obtain rfl := Method.isEmpty_eq_ok hempty
  cases empty with
  | true =>
      cases hrest
      exact .refl h (by simp)
  | false =>
      obtain ⟨⟨⟩, s₄, hcalls, hdefines⟩ := run_run_bind_eq_ok.mp hrest
      obtain ⟨t, s₅, hdefine, hlast⟩ := run_run_bind_eq_ok.mp hdefines
      cases hlast
      -- the super calls are looked for in the body, which is a child of the function
      unfold convertSuperCalls at hcalls
      obtain ⟨body, s₆, hbody, hreads⟩ := run_run_bind_eq_ok.mp hcalls
      obtain ⟨hthird, rfl⟩ := Method.body_eq_ok hbody
      have hmem := List.mem_of_getElem? hthird
      obtain ⟨cell, s₇, hcell, hconverts⟩ := run_run_bind_eq_ok.mp hreads
      obtain ⟨b, hb, rfl, rfl⟩ := cell_eq_ok hcell
      have hbown : Own old made b := by
        obtain ⟨f, hfunction, hown⟩ := hf
        rw [hfunction, hb] at hmem
        obtain ⟨b', hb', hbown⟩ := h.closed f hown (some b) hmem
        cases hb'
        exact hbown
      refine (forM_convertSuperCall_offspring h (h.closed b hbown) hconverts).trans
        fun made₁ copied₁ hsub h₁ _ => ?_
      exact (Method.define_offspring h₁ (hf.imp (Own.mono hsub)) hdefine).imp
        fun made₂ _ ht => by simpa using ht

theorem defineMembers_offspring {members : List TokenId} (h : Offspring s old made copied s₁)
    (hc : c.Rooted (Own old made)) (hrun : c.defineMembers.run.run s₁ = (.ok members, s₂)) :
    Goes s old made s₂ fun made' => ∀ t ∈ members, t ∈ made' := by
  unfold defineMembers at hrun
  obtain ⟨first, s₃, hfirst, hrest⟩ := run_run_bind_eq_ok.mp hrun
  obtain ⟨others, s₄, hothers, hlast⟩ := run_run_bind_eq_ok.mp hrest
  cases hlast
  refine (defineConstructor_offspring h hc.builder hfirst).trans
    fun made₁ copied₁ hsub h₁ hfirstmade => ?_
  refine (Method.mapM_define_offspring h₁ (fun m hm => (hc.methods m hm).1.imp (Own.mono hsub))
    hothers).imp fun made₂ hsub' hothersmade => ?_
  intro u hu
  rcases List.mem_append.mp hu with hu | hu
  · exact hsub' u (hfirstmade u hu)
  · exact hothersmade u hu

/-- A class makes its own four tokens and its members, and has copies as its comments. -/
theorem declare_offspring (h : Offspring s old made copied s₁) (hc : c.Rooted (Own old made))
    (hrun : c.declare.run.run s₁ = (.ok t, s₂)) : Goes s old made s₂ (t ∈ ·) := by
  unfold declare at hrun
  obtain ⟨cell, s₃, hcell, hrun⟩ := run_run_bind_eq_ok.mp hrun
  obtain ⟨st, -, rfl, rfl⟩ := cell_eq_ok hcell
  obtain ⟨members, s₄, hmembers, hrun⟩ := run_run_bind_eq_ok.mp hrun
  obtain ⟨made₁, copied₁, hsub, h₁, hmembersmade⟩ := defineMembers_offspring h hc hmembers
  rw [run_run_bind_of_ok (run_run_create _ _), run_run_bind_of_ok (run_run_create _ _),
    run_run_bind_of_ok (run_run_create _ _)] at hrun
  set line := (s₃.cell st).label.line
  set column := (s₃.cell st).label.column
  set extends_ := Cell.fresh Kind.keyword "extends" line column (c.superClass.toList.map some)
    with hextends
  set name := Cell.fresh Kind.text c.name line column [] with hname
  set block := Cell.fresh Kind.classBlock "\x7b\x7d" line column (members.map some) with hblock
  obtain ⟨comments, s₅, hcopy, hrun⟩ := run_run_bind_eq_ok.mp hrun
  obtain ⟨ids, hids, hidsnew⟩ := copyComments_spans hcopy
  cases hrun
  -- one token after the other
  have h₂ := h₁.make_bare (c := extends_) rfl fun slot hslot => by
    rw [hextends] at hslot
    obtain ⟨base, hbase, rfl⟩ := List.mem_map.mp hslot
    rw [Option.mem_toList] at hbase
    exact ⟨base, rfl, (hc.superClass base hbase).imp_right (hsub base)⟩
  have h₃ := h₂.make_bare (c := name) rfl (by simp [hname, Cell.fresh])
  have h₄ := h₃.make_bare (c := block) rfl fun slot hslot => by
    rw [hblock] at hslot
    obtain ⟨member, hmember, rfl⟩ := List.mem_map.mp hslot
    refine ⟨member, rfl, Or.inr ?_⟩
    exact List.mem_append_left _ (List.mem_append_left _ (hmembersmade member hmember))
  refine ⟨_, _, ?_, h₄.make (copyComments_eq_ok hcopy).1 hids hidsnew
    (absurd (show Kind.classDecl ∈ Kind.receiving by decide)) ?_,
    List.mem_append_right _ List.mem_cons_self⟩
  · intro u hu
    simp only [List.mem_append]
    exact Or.inl (Or.inl (Or.inl (Or.inl (hsub u hu))))
  · intro slot hslot
    simp only [Cell.fresh, List.mem_cons, List.not_mem_nil, or_false] at hslot
    rcases hslot with rfl | rfl | rfl
    · exact ⟨_, rfl, Or.inr (by simp)⟩
    · exact ⟨_, rfl, Or.inr (by simp)⟩
    · exact ⟨_, rfl, Or.inr (by simp)⟩

/-- The commit puts the class in its place and takes statements out. -/
theorem commit_offspring (h : Offspring s old made copied s₁) (hc : c.Rooted (Own old made))
    (hrun : c.commit.run.run s₁ = (.ok (), s₂)) : Goes s old made s₂ fun _ => True := by
  unfold commit at hrun
  obtain ⟨t, s₃, hdeclare, hrun⟩ := run_run_bind_eq_ok.mp hrun
  refine (declare_offspring h hc hdeclare).trans fun made₁ copied₁ hsub h₁ ht => ?_
  have hc₁ : c.Rooted (Own old made₁) := hc.mono (Own.mono hsub)
  -- from here on, nothing is made any more
  obtain ⟨⟨⟩, s₄, hreplace, hrun⟩ := run_run_bind_eq_ok.mp hrun
  have h₂ : Offspring s old made₁ copied₁ s₄ := by
    refine replaceStatement_offspring h₁ hc₁.parent (fun slot hslot => ?_) hreplace
    rw [List.mem_singleton] at hslot
    exact ⟨t, hslot, Or.inr ht⟩
  obtain ⟨⟨⟩, s₅, hinheritance, hmethods⟩ := run_run_bind_eq_ok.mp hrun
  have h₃ : Offspring s old made₁ copied₁ s₅ := by
    refine removeAll_offspring h₂ (fun p hp => ?_) hinheritance
    exact Or.inr ⟨p.1, p.2, hc₁.inheritance p hp, rfl⟩
  refine .refl (removeAll_offspring h₃ (fun m hm => ?_) hmethods) trivial
  unfold Method.remove
  cases m.statement with
  | none => exact Or.inl rfl
  | some st => exact Or.inr ⟨m.parent, some st, (hc₁.methods m hm).2, rfl⟩

end Candidate

/-! ## What a candidate names is found in the container -/

theorem Store.parent_of_declaration {block : TokenId} {c : Candidate} {declaring : Slot}
    (h : s.declaration? (some block) declaring = .ok (some c)) :
    c.parent = some block ∨ c.parent = declaring := by
  rcases declaration_eq_some_iff.mp h with hf | ⟨-, first, rest, -, hf⟩ |
    ⟨-, assignment, target, value, -, -, -, -, -, heq⟩
  · rw [hf.eq]
    exact Or.inl rfl
  · rw [hf.eq]
    exact Or.inr rfl
  · rw [heq]
    exact Or.inl rfl

theorem Store.mem_of_superOf {base : TokenId} {statements : List Slot} {ids : List TokenId}
    (hfound : Spans Cell.children s statements ids) (hslot : slot ∈ statements)
    (h : s.superOf slot = some base) : base ∈ ids := by
  obtain ⟨found, hspans, hsub⟩ := within_superOf h (hfound.spans_at hslot)
  rw [List.flatMap_singleton] at hsub
  exact hfound.mem_of_mem_at hslot (hsub.subset (hspans.root_mem List.mem_cons_self))

theorem Emerges.rooted {options : Options} {block : TokenId} {ids : List TokenId} {d d' : Draft}
    (h : Emerges s options (some block) (s.cell block).children d d') (hs : s.Closed (· ∈ ids))
    (hfound : Spans Cell.children s (s.cell block).children ids)
    (hnone : none ∉ (s.cell block).children) :
    d'.finish.Rooted (· ∈ block :: ids) := by
  have hstands : ∀ st ∈ (s.cell block).children, Stands (· ∈ ids) st := by
    intro st hst
    cases st with
    | none => exact absurd hst hnone
    | some u => exact ⟨u, rfl, hfound.root_mem hst⟩
  have hmore : ∀ u, u ∈ ids → u ∈ block :: ids := fun u => List.mem_cons_of_mem block
  have hblock : Stands (· ∈ block :: ids) (some block) := ⟨block, rfl, List.mem_cons_self⟩
  obtain ⟨before, declaring, after, c, hstatements, hc, hd, -⟩ := h.declared
  have hcandidate : d.candidate = c := by rw [hd]
  have hdeclaring := hstands declaring (by rw [hstatements]; simp)
  have hmethods : ∀ m ∈ s.methodsFor options (some block) d.name (s.cell block).children,
      m.Found s ids := Store.found_of_methodsFor hs hstands
  -- the function, the methods, the super class, the parent and the statements to be removed
  rw [h.finish_eq, hcandidate]
  constructor
  · exact (Store.found_of_declaration hs hdeclaring hc).1.function.imp hmore
  · intro m hm
    refine ⟨(hmethods m hm).function.imp hmore, ?_⟩
    obtain ⟨st, -, hm⟩ := List.mem_flatMap.mp hm
    rw [(Store.site_of_methodsOf hm).1]
    exact hblock
  · intro base hbase
    obtain ⟨st, hst, hsuper⟩ := List.exists_of_findSome?_eq_some hbase
    exact hmore base (Store.mem_of_superOf hfound (List.mem_of_mem_filter hst) hsuper)
  · rcases Store.parent_of_declaration hc with hp | hp
    · exact hp ▸ hblock
    · exact hp ▸ hdeclaring.imp hmore
  · intro p hp
    dsimp only at hp
    split at hp
    · obtain ⟨st, -, rfl⟩ := List.mem_map.mp hp
      exact hblock
    · cases hp

/-! ## All that a container does -/

namespace Conversion

variable {x x' : Converter} {candidates : List Candidate} {block : TokenId} {parent : Slot}
  {ids : List TokenId}

theorem commits_offspring (h : Offspring s old made copied s₁)
    (hc : ∀ c ∈ candidates, c.Rooted (· ∈ old))
    (hrun : (candidates.forM commit).run.run (s₁, x) = (.ok (), (s₂, x'))) :
    Goes s old made s₂ fun _ => True := by
  induction candidates generalizing s₁ x made copied with
  | nil =>
      cases hrun
      exact .refl h trivial
  | cons c candidates ih =>
      have hrun : (commit c >>= fun _ => candidates.forM commit).run.run (s₁, x) =
        (.ok (), (s₂, x')) := hrun
      obtain ⟨⟨⟩, ⟨s₃, x₁⟩, hfirst, hrest⟩ := run_run_bind_eq_ok.mp hrun
      have hnext : Goes s old made s₃ fun _ => True := by
        rcases commit_eq_ok hfirst with ⟨-, rfl, -⟩ | ⟨-, hcommit, -⟩
        · exact .refl h trivial
        · exact Candidate.commit_offspring h
            ((hc c List.mem_cons_self).mono fun _ => Or.inl) hcommit
      exact hnext.trans fun made₁ copied₁ _ h₁ _ =>
        ih h₁ (fun c' hc' => hc c' (List.mem_cons_of_mem c hc')) hrest

/-- A visit keeps account of the tokens that it makes and copies. -/
theorem visit_offspring (hlt : ∀ u ∈ old, u < s.size) (hs : s.Closed (· ∈ old))
    (hfound : Spans Cell.children s (s.cell block).children ids)
    (hpresent : ∀ u ∈ block :: ids, none ∉ (s.cell u).children)
    (hmem : ∀ u ∈ block :: ids, u ∈ old)
    (hrun : (visit (some block) parent).run.run (s, x) = (.ok (), (s₂, x'))) :
    Goes s old [] s₂ fun _ => True := by
  have hstart : Offspring s old [] [] s := .start hlt hs
  cases hb : s.isContainer (some block) with
  | false =>
      rw [visit_of_not_container hb] at hrun
      cases hrun
      exact .refl hstart trivial
  | true =>
      obtain ⟨candidates, x₁, -, hcandidates, -, hcommits⟩ := visit_eq_ok hb hrun
      have hclosed : s.Closed (· ∈ ids) := hfound.closed fun u hu =>
        hpresent u (List.mem_cons_of_mem block hu)
      refine commits_offspring hstart (fun c hc => ?_) hcommits
      obtain ⟨d, d', hemerges, rfl⟩ := hcandidates.emerge c hc
      exact (hemerges.rooted hclosed hfound (hpresent block List.mem_cons_self)).mono hmem

end Conversion

end ClassLift
