import ClassLift.Proofs.Class.Ready
import ClassLift.Proofs.Token.Touch

set_option autoImplicit false

/-! # The single edits of a commit

A commit touches the container, the token that holds the function, and calls and argument lists, in
the ways that `Store.Changes` allows (`Candidate.commit_touching`). All that this takes is that the
statements that the candidate names are of the kinds that the detection saw (`Candidate.Sited`); they
may be shared, or may no longer stand where they stood.
-/

namespace ClassLift

open Store Edit

variable {s₀ s s' : Store} {edited : TokenId → Prop}

/-! ## Copies and methods -/

namespace Store

/-- The statements in the body of a function. -/
def bodyOf (s : Store) (function : Slot) : List Slot :=
  match (s.children function)[2]? with
  | some body => s.children body
  | none => []

mutual

theorem build_touches (t : Tree) (s : Store) : s₀.Touches edited s (s.build t).2 := by
  match t with
  | .absent => exact .refl _ _ _
  | .node _ label cs ks =>
      exact ((buildAll_touches cs s).trans (buildAll_touches ks _)).trans (.push _ _ _ _)

theorem buildAll_touches (ts : List Tree) (s : Store) : s₀.Touches edited s (s.buildAll ts).2 := by
  match ts with
  | [] => exact .refl _ _ _
  | t :: ts => exact (build_touches t s).trans (buildAll_touches ts _)

end

end Store

namespace Edit

/-- Edits that change nothing, one after the other. -/
theorem same_bind {α β : Type} {e : Edit α} {f : α → Edit β} (he : ∀ s, (e.run.run s).2 = s)
    (hf : ∀ a s, ((f a).run.run s).2 = s) (s : Store) : ((e >>= f).run.run s).2 = s := by
  have hsame := he s
  rw [run_run_bind]
  generalize e.run.run s = out at hsame ⊢
  obtain ⟨r, s₁⟩ := out
  cases hsame
  cases r with
  | error fault => rfl
  | ok a => exact hf a s₁

theorem cell_same (slot : Slot) (s : Store) : ((cell slot).run.run s).2 = s := by
  cases slot <;> rfl

theorem child_same (c : Cell) (n : Nat) (s : Store) : ((child c n).run.run s).2 = s := by
  unfold child
  split <;> rfl

theorem clone_touching (slot : Slot) (s : Store) : Touching s₀ edited s (clone slot) := by
  unfold clone
  refine .read_bind rfl fun store hstore => ?_
  cases hstore
  dsimp only
  split
  · refine Touching.bind (build_touches (s.fullTree slot) s) fun copy s₁ _ _ => ?_
    cases copy <;> exact .of_same rfl
  · exact .of_same rfl

theorem copyComments_touching (slots : List Slot) (s : Store) :
    Touching s₀ edited s (copyComments slots) := by
  have hcopies : ∀ (comments : List Slot) (s : Store), Touching s₀ edited s
      (comments.mapM fun comment => some <$> clone comment : Edit (List Slot)) := by
    intro comments
    induction comments with
    | nil => exact fun s => .pure _
    | cons comment comments ih =>
        intro s
        rw [List.mapM_cons]
        refine Touching.bind ?_ fun copy s₁ _ _ => (ih s₁).bind fun copies s₂ _ _ => .pure _
        rw [map_eq_pure_bind]
        exact (clone_touching comment s).bind fun copy s₁ _ _ => .pure _
  induction slots generalizing s with
  | nil => exact .pure _
  | cons slot slots ih =>
      unfold copyComments
      have hsame : ((cell slot).run.run s).2 = s := by cases slot <;> rfl
      refine .read_bind hsame fun c _ => (hcopies _ s).bind fun copies s₁ _ _ => ?_
      exact (ih s₁).bind fun others s₂ _ _ => .pure _

end Edit

namespace Method

variable {m : Method}

theorem arguments_same (m : Method) (s : Store) : (m.arguments.run.run s).2 = s :=
  same_bind (cell_same _) (fun c => child_same c 1) s

theorem body_same (m : Method) (s : Store) : (m.body.run.run s).2 = s := by
  refine same_bind (cell_same _) (fun c => same_bind (child_same c 2) fun slot =>
    same_bind (cell_same slot) fun body s => ?_) s
  split <;> rfl

theorem isEmpty_same (m : Method) (s : Store) : (m.isEmpty.run.run s).2 = s :=
  same_bind m.body_same (fun slot => same_bind (cell_same slot) fun _ _ => rfl) s

theorem define_touching (m : Method) (s : Store) : Touching s₀ edited s m.define := by
  unfold define
  refine .read_bind (cell_same _ s) fun c _ => (Touching.create _).bind fun name s₁ _ _ => ?_
  refine .read_bind (arguments_same m s₁) fun arguments _ => ?_
  refine .read_bind (body_same m s₁) fun body _ => ?_
  exact (copyComments_touching _ s₁).bind fun comments s₂ _ _ => .create _

theorem mapM_define_touching (methods : List Method) (s : Store) :
    Touching s₀ edited s (methods.mapM define) := by
  induction methods generalizing s with
  | nil => exact .pure _
  | cons m methods ih =>
      rw [List.mapM_cons]
      exact (define_touching m s).bind fun t s₁ _ _ => (ih s₁).bind fun ts s₂ _ _ => .pure _

end Method

/-! ## Candidates -/

namespace Candidate

variable {c : Candidate} {block : TokenId} {b : Store} {superClass slot parent : Slot}
  {P : TokenId → Prop}

/-- The tokens that a commit may edit: the container, the token that holds the function, and the
calls and argument lists in `P`. -/
def Scope (b : Store) (block : TokenId) (parent : Slot) (P : TokenId → Prop) (u : TokenId) : Prop :=
  u = block ∨ some u = parent ∨
    (P u ∧ (u < b.size →
      b.hasKind Kind.call (some u) = true ∨ b.hasKind Kind.arguments (some u) = true))

/-- A call in `P` is in the scope, also as long after the beginning. -/
theorem scope_of_kind (h : s₀.Touches edited b s) {kind : Kind} {u : TokenId}
    (hk : s.hasKind kind (some u) = true) (hkind : kind ∈ [Kind.call, Kind.arguments]) (hP : P u) :
    Scope b block parent P u := by
  refine Or.inr (Or.inr ⟨hP, fun hlt => ?_⟩)
  rw [Store.hasKind, h.label? hlt] at hk
  simp only [List.mem_cons, List.not_mem_nil, or_false] at hkind
  rcases hkind with rfl | rfl
  · exact Or.inl hk
  · exact Or.inr hk

/-- As long after the store `b`, what is found to call the super class in the body of the constructor
is in `P`, the call and its argument list. -/
def CallsIn (c : Candidate) (s₀ b : Store) (P : TokenId → Prop) : Prop :=
  ∀ s, s₀.Touches (fun _ => True) b s → ∀ t k a, some t ∈ b.bodyOf c.builder.function →
    superCall? s c.superClass (some t) = some (some k, some a) → P t ∧ P a

/-- The first argument of a call of the super class is `this`. -/
theorem this_of_superCall {callee arguments first : Slot} {rest : List Slot}
    (h : superCall? s superClass slot = some (callee, arguments))
    (hc : s.children arguments = first :: rest) : s.isThis first = true := by
  obtain ⟨-, -, -, -, this, others, hargs, hthis⟩ := superCall_eq_some_iff.mp h
  rw [hc] at hargs
  cases hargs
  exact hthis

theorem convertSuperCall_touching (h : s₀.Touches edited b s)
    (hsize : s₀.size ≤ b.size) (superClass slot : Slot)
    (hP : ∀ t k a, slot = some t → superCall? s superClass (some t) = some (some k, some a) →
      P t ∧ P a) :
    Touching s₀ (Scope b block parent P) s (convertSuperCall superClass slot) := by
  cases hcall : superCall? s superClass slot with
  | none => exact .of_run (convertSuperCall_of_none hcall) (.refl _ _ _)
  | some call =>
      obtain ⟨callee, arguments⟩ := call
      obtain ⟨t, k, a, first, rest, rfl, rfl, rfl, hkind, hkinda, hc, hargs⟩ := superCall_eq_some hcall
      have hthis := this_of_superCall hcall hargs
      obtain ⟨hPt, hPa⟩ := hP t k a rfl hcall
      refine .of_run (convertSuperCall_of_some hcall) ?_
      set word : Cell := .fresh Kind.keyword "super" (s.cell k).label.line (s.cell k).label.column []
      have ht := lt_size_of_hasKind hkind (by decide)
      have ha := lt_size_of_hasKind hkinda (by decide)
      have hta : a ≠ t := by
        rintro rfl
        exact absurd (hasKind_unique hkind hkinda) (by decide)
      -- the word is made, the call gets it, and the argument list loses its first child
      have hpush : s₀.Touches (Scope b block parent P) s (s.push word) := .push _ _ _ _
      have hword : (s.push word).isToken Kind.keyword "super" (some s.size) = true := by
        refine isToken_iff.mpr ⟨word.label, ?_, rfl, rfl⟩
        rw [label?, Option.map_some, cell_push_eq]
      have hcall' : s₀.Changes (s.push word) t ((s.push word).cell t).children
          (((s.push word).cell t).children.set 0 (some s.size)) := by
        rw [cell_push_lt s word t ht, hc]
        exact .called (hpush.hasKind hkind (by decide)) (Nat.le_trans hsize h.size_le) hword
          (by rw [cell_push_eq]; rfl)
      have hset : s₀.Touches (Scope b block parent P) (s.push word) _ :=
        .single (.changed (Nat.lt_of_lt_of_le ht hpush.size_le) hcall')
          fun _ => scope_of_kind h hkind (by decide) hPt
      have hboth := hpush.trans hset
      refine hboth.trans (.single (.changed (Nat.lt_of_lt_of_le ha hboth.size_le) ?_) fun _ =>
        scope_of_kind h hkinda (by decide) hPa)
      rw [cell_set_ne _ _ _ _ hta, cell_push_lt s word a ha, hargs]
      exact .shortened (hboth.hasKind hkinda (by decide)) (hboth.isToken hthis (by decide))

theorem convertSuperCalls_touching (hsize : s₀.size ≤ b.size) (hP : c.CallsIn s₀ b P) :
    Touching s₀ (Scope b block parent P) b c.convertSuperCalls := by
  -- a statement may be edited with an earlier one, so that each is seen as it is by then
  have hall : ∀ (statements : List Slot) (s : Store), s₀.Touches (fun _ => True) b s →
      (∀ slot ∈ statements, slot ∈ b.bodyOf c.builder.function) →
      Touching s₀ (Scope b block parent P) s (statements.forM (convertSuperCall c.superClass)) := by
    intro statements
    induction statements with
    | nil => exact fun s _ _ => .pure _
    | cons statement statements ih =>
        intro s h hbody
        refine Touching.bind ?_ fun _ s₁ _ h₁ => ih s₁ (h.trans (h₁.mono fun _ _ => trivial))
          fun slot hslot => hbody slot (List.mem_cons_of_mem _ hslot)
        refine convertSuperCall_touching h hsize _ statement fun t k a ht hcall => ?_
        exact hP s h t k a (ht ▸ hbody statement List.mem_cons_self) hcall
  unfold convertSuperCalls
  refine .read_bind (Method.body_same _ b) fun slot hslot => ?_
  have hbody : b.bodyOf c.builder.function = b.children slot := by
    rw [Store.bodyOf, (Method.body_eq_ok hslot).1]
  refine .read_bind (cell_same slot b) fun body hcell => hall body.children b (.refl _ _ _) ?_
  obtain ⟨t, rfl, rfl, -⟩ := cell_eq_ok hcell
  exact fun slot hslot => hbody ▸ hslot

theorem defineMembers_touching (hsize : s₀.size ≤ b.size) (hP : c.CallsIn s₀ b P) :
    Touching s₀ (Scope b block parent P) b c.defineMembers := by
  have hconstructor : Touching s₀ (Scope b block parent P) b c.defineConstructor := by
    unfold defineConstructor
    refine .read_bind (Method.isEmpty_same _ b) fun empty _ => ?_
    split
    · exact .pure _
    · refine (convertSuperCalls_touching hsize hP).bind fun _ s₁ _ _ => ?_
      exact (Method.define_touching _ s₁).bind fun t s₂ _ _ => .pure _
  unfold defineMembers
  refine hconstructor.bind fun first s₁ _ _ => ?_
  exact (Method.mapM_define_touching _ s₁).bind fun others s₂ _ _ => .pure _

/-- The declaration touches calls and argument lists only. -/
theorem declare_touching (hsize : s₀.size ≤ b.size) (hP : c.CallsIn s₀ b P) :
    Touching s₀ (Scope b block parent P) b c.declare := by
  unfold declare
  refine .read_bind (cell_same _ b) fun at_ _ => ?_
  refine (defineMembers_touching hsize hP).bind fun members s₁ _ _ => ?_
  refine (Touching.create _).bind fun extends_ s₂ _ _ => (Touching.create _).bind fun name s₃ _ _ => ?_
  refine (Touching.create _).bind fun body s₄ _ _ => ?_
  exact (copyComments_touching _ s₄).bind fun comments s₅ _ _ => .create _

/-- What is declared is a new class. -/
theorem new_of_declare (hsize : s₀.size ≤ b.size) {t : TokenId}
    (hdeclare : c.declare.run.run b = (.ok t, s')) :
    s₀.size ≤ t ∧ s'.hasKind Kind.classDecl (some t) = true := by
  -- the class is made last, of a store that has all the tokens from before
  have hlast : ∃ (s₁ : Store) (cell : Cell), s₁.size = t ∧ s' = s₁.push cell ∧
      cell.label.kind = Kind.classDecl ∧ b.size ≤ s₁.size := by
    unfold declare at hdeclare
    obtain ⟨at_, s₁, hcell, hrest⟩ := run_run_bind_eq_ok.mp hdeclare
    obtain ⟨-, -, -, hsame⟩ := cell_eq_ok hcell
    subst s₁
    dsimp only at hrest
    obtain ⟨members, s₂, hmembers, hrest⟩ := run_run_bind_eq_ok.mp hrest
    have htouching : Touching s₀ (Scope b 0 none fun _ => True) b c.defineMembers :=
      defineMembers_touching hsize fun _ _ _ _ _ _ _ => ⟨trivial, trivial⟩
    have hle := htouching.size_le_of_run hmembers
    rw [run_run_bind_of_ok (run_run_create _ _), run_run_bind_of_ok (run_run_create _ _),
      run_run_bind_of_ok (run_run_create _ _)] at hrest
    obtain ⟨comments, s₃, hcomments, hrest⟩ := run_run_bind_eq_ok.mp hrest
    have hle' := (@copyComments_touching s₀ (fun _ => True) c.commented _).size_le_of_run hcomments
    cases hrest
    refine ⟨s₃, _, rfl, rfl, rfl, Nat.le_trans hle (Nat.le_trans ?_ hle')⟩
    simp only [size_push]
    omega
  obtain ⟨s₁, cell, rfl, rfl, hkind, hle⟩ := hlast
  refine ⟨Nat.le_trans hsize hle, ?_⟩
  exact hasKind_of_cell (cell_push_eq s₁ cell) hkind

/-! ## Commits -/

/-- The statements that a candidate names are of the kinds that the detection looks for, and stand in
the container or in an export. -/
structure Sited (c : Candidate) (s : Store) (block : TokenId) : Prop where
  container : s.isContainer (some block) = true
  place : (c.parent = some block ∧
      (s.hasKind Kind.functionDecl c.statement = true ∨ s.hasKind Kind.varDecl c.statement = true)) ∨
    ∃ e rest, c.parent = some e ∧ s.hasKind Kind.exportDecl (some e) = true ∧
      (s.cell e).children = c.statement :: rest ∧ s.hasKind Kind.functionDecl c.statement = true
  inheritance : ∀ p ∈ c.inheritance, p.1 = some block ∧
    (s.hasKind Kind.assign p.2 = true ∨ s.hasKind Kind.call p.2 = true)
  methods : ∀ m ∈ c.methods, m.parent = some block ∧
    ∀ t, m.statement = some t → s.hasKind Kind.assign (some t) = true

theorem replaceFirst_eq_some {node : Slot} {new slots children : List Slot}
    (h : replaceFirst node new slots = some children) :
    ∃ before after, slots = before ++ node :: after ∧ node ∉ before ∧
      children = before ++ new ++ after := by
  induction slots generalizing children with
  | nil => cases h
  | cons slot slots ih =>
      unfold replaceFirst at h
      split at h
      · rename_i he
        cases h
        exact ⟨[], slots, by rw [he]; rfl, by simp, rfl⟩
      · rename_i hne
        obtain ⟨rest, hrest, rfl⟩ := Option.map_eq_some_iff.mp h
        obtain ⟨before, after, rfl, hnot, rfl⟩ := ih hrest
        exact ⟨slot :: before, after, rfl, by simp [hnot, Ne.symm hne], rfl⟩

/-- A statement gives way, or the replacement fails and changes nothing. -/
theorem replaceStatement_touching {p : TokenId} {node : Slot} {new : List Slot}
    (hlt : p < s.size) (hp : edited p)
    (hchange : ∀ before after, (s.cell p).children = before ++ node :: after → node ∉ before →
      s₀.Changes s p (before ++ node :: after) (before ++ new ++ after)) :
    Touching s₀ edited s (replaceStatement (some p) node new) := by
  unfold replaceStatement
  refine .read_bind rfl fun store hstore => ?_
  cases hstore
  dsimp only
  split
  · rename_i children hchildren
    obtain ⟨before, after, hslots, hnot, rfl⟩ := replaceFirst_eq_some hchildren
    refine .of_run rfl (.single (.changed hlt ?_) fun _ => hp)
    have := hchange before after hslots hnot
    rwa [← hslots] at this
  · exact .read_bind (cell_same node s) fun c _ => .of_same rfl

/-- What holds the function stands in the store, and the candidate stays sited, as long as an export
that holds the function keeps its children. -/
theorem Sited.later (h : c.Sited b block) (hs : s₀.Touches edited b s)
    (he : ∀ e, c.parent = some e → b.hasKind Kind.exportDecl (some e) = true → ¬ edited e) :
    c.Sited s block where
  container := hs.isContainer h.container
  place := by
    rcases h.place with ⟨hparent, hkind⟩ | ⟨e, rest, hparent, hexport, hc, hkind⟩
    · exact Or.inl ⟨hparent, hkind.imp (hs.hasKind · (by decide)) (hs.hasKind · (by decide))⟩
    · refine Or.inr ⟨e, rest, hparent, hs.hasKind hexport (by decide), ?_, hs.hasKind hkind (by decide)⟩
      rw [hs.children (lt_size_of_hasKind hexport (by decide)) (he e hparent hexport), hc]
  inheritance p hp := ⟨(h.inheritance p hp).1,
    (h.inheritance p hp).2.imp (hs.hasKind · (by decide)) (hs.hasKind · (by decide))⟩
  methods m hm := ⟨(h.methods m hm).1, fun t ht => hs.hasKind ((h.methods m hm).2 t ht) (by decide)⟩

theorem lt_size_of_isContainer {t : TokenId} (h : s.isContainer (some t) = true) : t < s.size := by
  rcases Bool.or_eq_true_iff.mp h with hk | hk <;> exact lt_size_of_hasKind hk (by decide)

/-- Statements of the container are removed one after the other, as long as it works. -/
theorem removeAll_touching {α : Type} (e : α → Edit Unit) (xs : List α)
    (h : s₀.Touches edited b s) (hblock : b.isContainer (some block) = true)
    (he : ∀ x ∈ xs, (∀ s, ((e x).run.run s).2 = s) ∨ ∃ node, e x = replaceStatement (some block) node [] ∧
      (b.hasKind Kind.assign node = true ∨ b.hasKind Kind.call node = true)) :
    Touching s₀ (Scope b block parent P) s (xs.forM e) := by
  induction xs generalizing s edited with
  | nil => exact .pure _
  | cons x xs ih =>
      have hfirst : Touching s₀ (Scope b block parent P) s (e x) := by
        rcases he x List.mem_cons_self with hsame | ⟨node, heq, hkind⟩
        · exact .of_same (hsame s)
        · rw [heq]
          have hcontainer := h.isContainer hblock
          refine replaceStatement_touching (lt_size_of_isContainer hcontainer) (Or.inl rfl)
            fun before after _ _ => ?_
          rw [List.append_nil]
          exact .dropped hcontainer (hkind.imp (h.hasKind · (by decide)) (h.hasKind · (by decide)))
      exact hfirst.bind fun _ s₁ _ h₁ =>
        ih ((h.mono fun _ _ => trivial).trans (h₁.mono fun _ _ => trivial))
          fun y hy => he y (List.mem_cons_of_mem _ hy)

/-- An export that does not hold the function is none of the tokens that a commit may edit. -/
theorem not_scope_of_export {e : TokenId} (hblock : b.isContainer (some block) = true)
    (he : b.hasKind Kind.exportDecl (some e) = true) (hne : some e ≠ parent) :
    ¬ Scope b block parent P e := by
  rintro (rfl | hparent | ⟨-, hkind⟩)
  · rw [hasKind_of_isContainer hblock ⟨by decide, by decide⟩] at he
    cases he
  · exact hne hparent
  · rcases hkind (lt_size_of_hasKind he (by decide)) with hk | hk
    · exact absurd (hasKind_unique he hk) (by decide)
    · exact absurd (hasKind_unique he hk) (by decide)

/-- A commit touches the container, the token that holds the function, and calls and argument
lists. -/
theorem commit_touching (h : c.Sited b block) (hsize : s₀.size ≤ b.size) (hP : c.CallsIn s₀ b P) :
    Touching s₀ (Scope b block c.parent P) b c.commit := by
  have hwiden : ∀ u, Scope b block none P u → Scope b block c.parent P u := by
    rintro u (he | he | he)
    · exact Or.inl he
    · cases he
    · exact Or.inr (Or.inr he)
  have hdeclaring : Touching s₀ (Scope b block none P) b c.declare := declare_touching hsize hP
  unfold commit
  refine Touching.bind (hdeclaring.mono hwiden) fun t s₁ hdeclare h₁ => ?_
  obtain ⟨hnew, hclass⟩ := new_of_declare hsize hdeclare
  have hnone : s₀.Touches (Scope b block none P) b s₁ := by
    rwa [Touching, hdeclare] at hdeclaring
  have hreplace : Touching s₀ (Scope b block c.parent P) s₁
      (replaceStatement c.parent c.statement [some t]) := by
    rcases (h.later hnone fun e _ he => not_scope_of_export h.container he (by simp)).place with
      ⟨hparent, hkind⟩ | ⟨e, rest, hparent, hexport, hc, hkind⟩
    · rw [hparent]
      have hcontainer := h₁.isContainer h.container
      refine replaceStatement_touching (lt_size_of_isContainer hcontainer) (Or.inl rfl)
        fun before after _ _ => ?_
      rw [List.append_assoc]
      exact .converted hcontainer hkind hnew hclass
    · rw [hparent]
      refine replaceStatement_touching (lt_size_of_hasKind hexport (by decide))
        (Or.inr (Or.inl rfl)) fun before after hslots hnot => ?_
      -- the function is the first child, so that nothing stands before it
      cases before with
      | nil => exact .exported hexport hkind hnew hclass
      | cons first before =>
          rw [hc] at hslots
          cases hslots
          exact absurd List.mem_cons_self hnot
  refine hreplace.bind fun _ s₂ _ h₂ => ?_
  refine (removeAll_touching _ _ (h₁.trans h₂) h.container fun p hp => ?_).bind fun _ s₃ _ h₃ =>
    removeAll_touching _ _ ((h₁.trans h₂).trans h₃) h.container fun m hm => ?_
  · obtain ⟨hparent, hkind⟩ := h.inheritance p hp
    exact Or.inr ⟨p.2, by rw [← hparent], hkind⟩
  · obtain ⟨hparent, hkind⟩ := h.methods m hm
    cases hstatement : m.statement with
    | none =>
        refine Or.inl fun s => ?_
        rw [Method.remove, hstatement]
        rfl
    | some t =>
        refine Or.inr ⟨some t, ?_, Or.inl (hkind t hstatement)⟩
        rw [Method.remove, hstatement, hparent]

end Candidate

/-! ## What emerges is sited -/

/-- A statement that goes because it gave methods is an assignment. -/
theorem Store.assign_of_methodsOf {options : Options} {block slot : Slot} {m : Method} {t : TokenId}
    (h : m ∈ s.methodsOf options block slot) (ht : m.statement = some t) :
    s.hasKind Kind.assign (some t) = true := by
  obtain ⟨hassign, -⟩ := methods_eq_some (exists_methods_of_ne_nil (List.ne_nil_of_mem h))
  have hkind := kind_of_isAssign hassign
  rcases (site_of_methodsOf h).2 with hstatement | hnone
  · rwa [← hstatement, ht] at hkind
  · rw [hnone] at ht
    cases ht

/-- A candidate that emerged from the statements of a container names statements of the right kinds. -/
theorem Emerges.sited {options : Options} {block : TokenId} {statements : List Slot} {d d' : Draft}
    (h : Emerges s options (some block) statements d d') (hb : s.isContainer (some block) = true) :
    d'.finish.Sited s block := by
  obtain ⟨before, declaring, after, c, -, hc, hd, -⟩ := h.declared
  have hcandidate : d.candidate = c := by rw [hd]
  rw [h.finish_eq, hcandidate]
  refine ⟨hb, ?_, fun p hp => ?_, fun m hm => ?_⟩
  · rcases declaration_eq_some_iff.mp hc with hf | ⟨hexport, first, rest, hchildren, hf⟩ | hv
    · rw [hf.eq]
      exact Or.inl ⟨rfl, Or.inl hf.kind⟩
    · obtain ⟨e, rfl, -⟩ := exists_token_of_hasKind hexport
      rw [hf.eq]
      exact Or.inr ⟨e, rest, rfl, hexport, hchildren, hf.kind⟩
    · obtain ⟨assignment, target, value, -, -, -, -, -, heq⟩ := hv.parts
      rw [heq]
      exact Or.inl ⟨rfl, Or.inr hv.kind⟩
  · dsimp only at hp
    split at hp
    · obtain ⟨st, hst, rfl⟩ := List.mem_map.mp hp
      have hmodifies := (List.mem_filter.mp (List.mem_of_mem_filter hst)).2
      exact ⟨rfl, (kind_of_prototypeOwner (modifies_iff.mp hmodifies)).symm⟩
    · cases hp
  · obtain ⟨st, -, hm⟩ := List.mem_flatMap.mp hm
    exact ⟨(site_of_methodsOf hm).1, fun t ht => assign_of_methodsOf hm ht⟩

/-- A candidate with a function as its statement has the name of that function. -/
theorem Emerges.firstName {options : Options} {block : TokenId} {statements : List Slot} {d d' : Draft}
    (h : Emerges s options (some block) statements d d')
    (hf : s.hasKind Kind.functionDecl d'.finish.statement = true) :
    s.firstName d'.finish.statement = .ok d'.finish.name := by
  obtain ⟨before, declaring, after, c, -, hc, hd, -⟩ := h.declared
  have hcandidate : d.candidate = c := by rw [hd]
  rw [h.finish_eq, hcandidate] at hf ⊢
  dsimp only at hf ⊢
  rcases declaration_eq_some_iff.mp hc with hplain | ⟨-, first, rest, -, hplain⟩ | hv
  · have := hplain.named
    rwa [hplain.eq] at this ⊢
  · have := hplain.named
    rwa [hplain.eq] at this ⊢
  · obtain ⟨assignment, target, value, -, -, -, -, -, heq⟩ := hv.parts
    rw [heq] at hf
    exact absurd (hasKind_unique hf hv.kind) (by decide)

end ClassLift
