import ClassLift.Proofs.Class.Recommit

set_option autoImplicit false

/-! # Commits that cannot start

The statement of a candidate may not stand where it should, or it may have no parent at all. Then
the commit stops with a fault, but the class was declared before: in the body of the constructor the
calls of the super class are calls of `super` by then. No other token is different
(`Candidate.commit_misplaced`). Tokens may be shared.
-/

namespace ClassLift

open List Store

variable {s s' s₁ : Store} {superClass slot : Slot} {statements : List Slot}
  {edited : TokenId → Prop} {t u k a b f n : TokenId}

/-! ## What becomes of one token -/

namespace Store

/-- What a token of the body can be in a later store: as it was; a statement that calls the new word
`super`; or the argument list of a statement, without the word `this` at its start. -/
inductive Recast (s s' : Store) (statements : List Slot) (u : TokenId) : Prop
  | same (cell : s'.cell u = s.cell u)
  | called (callee arguments : Slot) (word : TokenId) (statement : some u ∈ statements)
      (kind : (s.cell u).label.kind = Kind.call) (before : (s.cell u).children = [callee, arguments])
      (new : s.size ≤ word) (super : s'.isToken Kind.keyword "super" (some word) = true)
      (cell : s'.cell u = { s.cell u with children := [some word, arguments] })
  | shortened (call : TokenId) (n : Nat) (statement : some call ∈ statements)
      (list : (s.cell call).children[1]? = some (some u))
      (kind : (s.cell u).label.kind = Kind.arguments)
      (this : ∀ x ∈ (s.cell u).children.take n, s'.isThis x = true)
      (cell : s'.cell u = { s.cell u with children := (s.cell u).children.drop n })

/-- A token of another kind, or with other children, is as it was. -/
theorem Recast.cell_eq (h : s.Recast s' statements u)
    (hkind : (s.cell u).label.kind ≠ Kind.arguments) (hlength : (s.cell u).children.length ≠ 2) :
    s'.cell u = s.cell u := by
  cases h with
  | same cell => exact cell
  | called callee arguments word _ _ before =>
    rw [before] at hlength
    exact absurd rfl hlength
  | shortened call n _ _ kind => exact absurd kind hkind

namespace Keeps

/-- A call has its callee replaced at most. -/
theorem called (h : s.Keeps s') (hu : u < s.size) (hkind : (s.cell u).label.kind = Kind.call) :
    (s'.cell u).children = (s.cell u).children ∨
      ∃ callee arguments word, (s.cell u).children = [callee, arguments] ∧ s.size ≤ word ∧
        s'.isToken Kind.keyword "super" (some word) = true ∧
        (s'.cell u).children = [some word, arguments] := by
  have later : s'.hasKind Kind.call (some u) = true :=
    hasKind_some.mpr ((congrArg Label.kind (h.label u hu)).trans hkind)
  have steps := h.children u hu
  generalize (s'.cell u).children = children at steps
  induction steps with
  | refl => exact .inl rfl
  | tail _ change ih =>
    cases change with
    | called kind new word leaf =>
      rcases ih with same | ⟨callee, arguments, w, before, -, -, after⟩
      · exact .inr ⟨_, _, _, same.symm, new, word, rfl⟩
      · cases after
        exact .inr ⟨callee, _, _, before, new, word, rfl⟩
    | converted kind => rw [hasKind_of_isContainer kind (by decide)] at later; cases later
    | dropped kind => rw [hasKind_of_isContainer kind (by decide)] at later; cases later
    | exported kind => exact absurd (hasKind_unique later kind) (by decide)
    | shortened kind => exact absurd (hasKind_unique later kind) (by decide)

/-- An argument list loses words `this` at its start at most. -/
theorem shortened (h : s.Keeps s') (hu : u < s.size)
    (hkind : (s.cell u).label.kind = Kind.arguments) :
    ∃ n, (s'.cell u).children = (s.cell u).children.drop n ∧
      ∀ x ∈ (s.cell u).children.take n, s'.isThis x = true := by
  have later : s'.hasKind Kind.arguments (some u) = true :=
    hasKind_some.mpr ((congrArg Label.kind (h.label u hu)).trans hkind)
  have steps := h.children u hu
  generalize (s'.cell u).children = children at steps
  -- by induction on the changes: only a shortening is one of an argument list
  induction steps with
  | refl => exact ⟨0, rfl, by simp⟩
  | tail _ change ih =>
    cases change with
    | @shortened this rest kind first =>
      obtain ⟨n, hdrop, htake⟩ := ih
      have next : (s.cell u).children[n]? = some this := by
        rw [← List.head?_drop, ← hdrop]
        rfl
      refine ⟨n + 1, ?_, ?_⟩
      · rw [← List.tail_drop, ← hdrop]
        rfl
      · intro x hx
        rw [List.take_add_one, next, List.mem_append] at hx
        rcases hx with hx | hx
        · exact htake x hx
        · rw [List.mem_singleton.mp hx]
          exact first
    | converted kind => rw [hasKind_of_isContainer kind (by decide)] at later; cases later
    | dropped kind => rw [hasKind_of_isContainer kind (by decide)] at later; cases later
    | exported kind => exact absurd (hasKind_unique later kind) (by decide)
    | called kind => exact absurd (hasKind_unique later kind) (by decide)

end Keeps

end Store

/-! ## The calls of the super class -/

/-- The parts of a call of the super class are tokens of the store. -/
theorem Store.IsParentCall.lt_size (h : s.IsParentCall superClass t k a) :
    t < s.size ∧ k < s.size ∧ a < s.size ∧ t ≠ a := by
  have hcall : s.hasKind Kind.call (some t) = true := hasKind_some.mpr h.call
  have hcallee : s.hasKind Kind.member (some k) = true := hasKind_some.mpr h.callee.1
  have hlist : s.hasKind Kind.arguments (some a) = true := hasKind_some.mpr h.arguments.1
  refine ⟨lt_size_of_hasKind hcall (by decide), lt_size_of_hasKind hcallee (by decide),
    lt_size_of_hasKind hlist (by decide), ?_⟩
  rintro rfl
  exact absurd (hasKind_unique hcall hlist) (by decide)

namespace Candidate

variable {c : Candidate}

/-- One statement is left alone, or it is a call of the super class and is converted. -/
theorem convertSuperCall_cases (s : Store) (superClass slot : Slot) :
    (superCall? s superClass slot = none ∧
      (convertSuperCall superClass slot).run.run s = (.ok (), s)) ∨
    ∃ t k a, slot = some t ∧ s.IsParentCall superClass t k a ∧
      (convertSuperCall superClass slot).run.run s = (.ok (), withSuper s t a
        (.fresh Kind.keyword "super" (s.cell k).label.line (s.cell k).label.column [])) := by
  cases hcall : superCall? s superClass slot with
  | none => exact .inl ⟨rfl, convertSuperCall_of_none hcall⟩
  | some call =>
    obtain ⟨callee, arguments⟩ := call
    obtain ⟨t, -, -, -, -, rfl, -⟩ := superCall_eq_some hcall
    obtain ⟨k, a, rfl, rfl, parent⟩ := superCall_iff.mp hcall
    exact .inr ⟨t, k, a, rfl, parent, convertSuperCall_of_some hcall⟩

theorem run_forM_cons {statement : Slot} :
    ((statement :: statements).forM (convertSuperCall superClass)).run.run s =
      (convertSuperCall superClass statement >>= fun _ =>
        statements.forM (convertSuperCall superClass)).run.run s := rfl

/-- The conversion of calls edits the store, whatever the statements are, and does not stop. -/
theorem convertSuperCalls_touches (superClass : Slot) (statements : List Slot) (s : Store) :
    ∃ s₁, (statements.forM (convertSuperCall superClass)).run.run s = (.ok (), s₁) ∧
      s.Touches (fun _ => True) s s₁ := by
  have run : ∀ (statements : List Slot) (s' : Store), s.Touches (fun _ => True) s s' →
      ∃ s₁, (statements.forM (convertSuperCall superClass)).run.run s' = (.ok (), s₁) ∧
        s.Touches (fun _ => True) s s₁ := by
    intro statements
    induction statements with
    | nil => exact fun s' h => ⟨s', rfl, h⟩
    | cons statement statements ih =>
      intro s' h
      have touching : Edit.Touching s (Scope s 0 none fun _ => True) s'
          (convertSuperCall superClass statement) :=
        convertSuperCall_touching h (Nat.le_refl _) superClass statement
          fun _ _ _ _ _ => ⟨trivial, trivial⟩
      obtain ⟨s₂, hrun⟩ : ∃ s₂, (convertSuperCall superClass statement).run.run s' = (.ok (), s₂) := by
        rcases convertSuperCall_cases s' superClass statement with ⟨-, hrun⟩ | ⟨t, k, a, -, -, hrun⟩
        · exact ⟨_, hrun⟩
        · exact ⟨_, hrun⟩
      rw [Edit.Touching, hrun] at touching
      obtain ⟨s₁, hrest, htouches⟩ := ih s₂ (h.trans (touching.mono fun _ _ => trivial))
      refine ⟨s₁, ?_, htouches⟩
      rw [run_forM_cons, run_run_bind_of_ok hrun, hrest]
  exact run statements s (.refl _ _ _)

/-- A call that is converted is not as it was, also when others are converted after it. -/
theorem convertSuperCalls_changes
    (hrun : (statements.forM (convertSuperCall superClass)).run.run s = (.ok (), s₁))
    (hslot : slot ∈ statements) (hcall : superCall? s superClass slot ≠ none) :
    ∃ t < s.size, s₁.cell t ≠ s.cell t := by
  induction statements with
  | nil => cases hslot
  | cons statement statements ih =>
    rw [run_forM_cons] at hrun
    rcases convertSuperCall_cases s superClass statement with
      ⟨hnone, hfirst⟩ | ⟨t, k, a, rfl, parent, hfirst⟩
    · rw [run_run_bind_of_ok hfirst] at hrun
      refine ih hrun ((List.mem_cons.mp hslot).resolve_left ?_)
      rintro rfl
      exact hcall hnone
    · rw [run_run_bind_of_ok hfirst] at hrun
      obtain ⟨ht, hk, ha, hta⟩ := parent.lt_size
      -- from here on, the callee is always a word that was not there before
      obtain ⟨cell, -⟩ := withSuper_cells (.fresh Kind.keyword "super" (s.cell k).label.line
        (s.cell k).label.column []) ht ha hta
      generalize hs₂ : withSuper s t a _ = s₂ at hrun cell
      have size : s.size ≤ s₂.size := by
        rw [← hs₂, withSuper_size]
        exact Nat.le_succ _
      have kind : (s₂.cell t).label.kind = Kind.call := by
        rw [cell]
        exact parent.call
      have children : (s₂.cell t).children = [some s.size, some a] := by
        rw [cell, parent.children]
        rfl
      obtain ⟨_, hrun', htouches⟩ := convertSuperCalls_touches superClass statements s₂
      cases hrun.symm.trans hrun'
      refine ⟨t, ht, fun same => ?_⟩
      have old := congrArg Cell.children same
      rw [parent.children] at old
      rcases htouches.keeps.called (Nat.lt_of_lt_of_le ht size) kind with
        kept | ⟨_, _, word, _, new, _, after⟩
      · rw [kept, children] at old
        cases old
        exact absurd hk (Nat.lt_irrefl _)
      · rw [after] at old
        cases old
        exact absurd (Nat.lt_of_lt_of_le hk (Nat.le_trans size new)) (Nat.lt_irrefl _)

/-- Whole tokens stay whole when calls are converted. -/
theorem convertSuperCalls_whole
    (hrun : (statements.forM (convertSuperCall superClass)).run.run s = (.ok (), s₁))
    (hwhole : s.Whole n u) : s₁.Whole n u := by
  induction statements generalizing s with
  | nil =>
    cases hrun
    exact hwhole
  | cons statement statements ih =>
    rw [run_forM_cons] at hrun
    rcases convertSuperCall_cases s superClass statement with
      ⟨-, hfirst⟩ | ⟨t, k, a, rfl, parent, hfirst⟩
    · rw [run_run_bind_of_ok hfirst] at hrun
      exact ih hrun hwhole
    · rw [run_run_bind_of_ok hfirst] at hrun
      obtain ⟨ht, -, ha, hta⟩ := parent.lt_size
      exact ih hrun (withSuper_whole rfl ht ha hta parent.children hwhole)

/-! ## Declarations -/

/-- The statements of the constructor's body are tokens of the store, or empty slots. -/
def BodyStands (c : Candidate) (s : Store) : Prop :=
  ∀ t, some t ∈ s.bodyOf c.builder.function → t < s.size

/-- Of the tokens that are there: the calls among the statements of the body, and their argument
lists. -/
def BodyPart (c : Candidate) (s : Store) (u : TokenId) : Prop :=
  u < s.size →
    (some u ∈ s.bodyOf c.builder.function ∧ (s.cell u).label.kind = Kind.call) ∨
    ∃ t, some t ∈ s.bodyOf c.builder.function ∧ (s.cell t).children[1]? = some (some u) ∧
      (s.cell u).label.kind = Kind.arguments

/-- Calls of the super class are only found in the body as it was at first. -/
theorem callsIn_bodyPart (hbody : c.BodyStands s) : c.CallsIn s s (c.BodyPart s) := by
  intro s₁ htouches t k a ht hcall
  obtain ⟨k', a', hk, ha, parent⟩ := superCall_iff.mp hcall
  cases hk
  cases ha
  have hlt := hbody t ht
  have kind : ∀ {u : TokenId}, u < s.size → (s.cell u).label.kind = (s₁.cell u).label.kind :=
    fun hu => (congrArg Label.kind (htouches.label hu)).symm
  have hkind : (s.cell t).label.kind = Kind.call := (kind hlt).trans parent.call
  have second : (s.cell t).children[1]? = some (some a) := by
    rcases htouches.keeps.called hlt hkind with same | ⟨callee, list, word, before, -, -, after⟩
    · rw [← same, parent.children]
      rfl
    · rw [parent.children] at after
      cases after
      rw [before]
      rfl
  exact ⟨fun _ => .inl ⟨ht, hkind⟩,
    fun ha => .inr ⟨t, ht, second, (kind ha).trans parent.arguments.1⟩⟩

/-- The tokens that a declaration may edit. -/
abbrev Declaring (c : Candidate) (s : Store) : TokenId → Prop := Scope s s.size none (c.BodyPart s)

/-- Of the tokens that were there, a declaration only recasts statements and argument lists. -/
theorem recast_of_touches (h : s.Touches (c.Declaring s) s s') (hu : u < s.size) :
    s.Recast s' (s.bodyOf c.builder.function) u := by
  have cell : ∀ children, (s'.cell u).children = children →
      s'.cell u = { s.cell u with children := children } := by
    rintro children rfl
    have hlabel := h.label hu
    have hcomments := h.comments hu
    generalize s'.cell u = cell' at hlabel hcomments ⊢
    cases cell'
    simp_all
  by_cases hedited : c.Declaring s u
  case neg => exact .same (cell _ (h.children hu hedited))
  rcases hedited with rfl | hnone | ⟨hpart, -⟩
  · exact absurd hu (Nat.lt_irrefl _)
  · cases hnone
  rcases hpart hu with ⟨hstatement, hkind⟩ | ⟨t, hstatement, hlist, hkind⟩
  · rcases h.keeps.called hu hkind with same | ⟨callee, list, word, before, new, super, after⟩
    · exact .same (cell _ same)
    · exact .called callee list word hstatement hkind before new super (cell _ after)
  · obtain ⟨n, hdrop, htake⟩ := h.keeps.shortened hu hkind
    exact .shortened t n hstatement hlist hkind htake (cell _ hdrop)

/-! ## Commits -/

/-- The tokens that the candidate names are tokens of the store, and the statement does not stand in
its parent, or has none. -/
structure Misplaced (c : Candidate) (s : Store) : Prop where
  statement : ∃ st, c.statement = some st ∧ st < s.size
  parent : ∀ p, c.parent = some p → p < s.size ∧ c.statement ∉ (s.cell p).children
  body : c.BodyStands s

/-- The fault of a commit that does not find the statement. -/
def missing (c : Candidate) (s : Store) (st : TokenId) : Fault :=
  .statement (s.cell st).label
    (match c.parent with
    | none => .noParent
    | some p => .notFound (s.cell p).label.kind)

section

variable (h : c.Misplaced s)

include h

theorem Misplaced.declare_touches : s.Touches (c.Declaring s) s (c.declare.run.run s).2 :=
  declare_touching (Nat.le_refl _) (callsIn_bodyPart h.body)

/-- After the declaration, the replacement stops the commit. -/
theorem Misplaced.commit_of_declare {st : TokenId} (hst : c.statement = some st)
    (hdeclare : c.declare.run.run s = (.ok t, s')) :
    c.commit.run.run s = (.error (c.missing s st), s') := by
  have touches := h.declare_touches
  rw [hdeclare] at touches
  have hlt : st < s.size := by
    obtain ⟨_, hst', hlt⟩ := h.statement
    cases hst.symm.trans hst'
    exact hlt
  have label : (s'.cell st).label = (s.cell st).label := touches.label hlt
  have replaced : (Edit.replaceStatement c.parent c.statement [some t]).run.run s' =
      (.error (c.missing s st), s') := by
    rw [hst, missing]
    cases hparent : c.parent with
    | none =>
      have run : (Edit.replaceStatement none (some st) [some t]).run.run s' =
          (.error (.statement (s'.cell st).label .noParent), s') := rfl
      rw [run, label]
    | some p =>
      obtain ⟨hp, hout⟩ := h.parent p hparent
      -- what a declaration adds to the children of a token is new
      have still : some st ∉ (s'.cell p).children := by
        intro hmem
        rcases touches.kept hp hmem with hold | ⟨v, hv, hnew, -⟩
        · exact hout (hst ▸ hold)
        · cases hv
          exact absurd hlt (Nat.not_lt_of_le hnew)
      rw [Edit.replaceStatement_notFound still, label, touches.label hp]
  unfold commit
  rw [run_run_bind_of_ok hdeclare, run_run_bind_of_error replaced]

/-- A misplaced candidate is never committed: declaring it stops the commit, or the statement is not
found then. What the commit leaves is what the declaration leaves. -/
theorem Misplaced.commit_run :
    ∃ fault s', c.commit.run.run s = (.error fault, s') ∧ (c.declare.run.run s).2 = s' ∧
      (c.declare.run.run s = (.error fault, s') ∨
        ∃ st, c.statement = some st ∧ fault = c.missing s st) := by
  obtain ⟨st, hst, -⟩ := h.statement
  rcases hdeclare : c.declare.run.run s with ⟨result, s'⟩
  cases result with
  | error fault =>
    refine ⟨fault, s', ?_, rfl, .inl rfl⟩
    unfold commit
    rw [run_run_bind_of_error hdeclare]
  | ok t => exact ⟨_, s', h.commit_of_declare hst hdeclare, rfl, .inr ⟨st, hst, rfl⟩⟩

end

/-- The functions of the candidate are no argument lists. -/
def FunctionsStand (c : Candidate) (s : Store) : Prop :=
  ∀ m ∈ c.builder :: c.methods, s.hasKind Kind.arguments m.function = false

/-- A function is not recast. -/
theorem function_cell (h : ∀ u < s.size, s.Recast s' statements u) {m : Method}
    (hparts : m.HasParts s) (hkind : s.hasKind Kind.arguments m.function = false) {f : TokenId}
    (hf : m.function = some f) : s'.cell f = s.cell f := by
  obtain ⟨g, a, b, parts⟩ := hparts
  cases hf.symm.trans parts.function
  refine (h f parts.lt).cell_eq ?_ ?_
  · intro hlist
    rw [hf, hasKind_some.mpr hlist] at hkind
    cases hkind
  · intro hlength
    obtain ⟨hthird, -⟩ := List.getElem?_eq_some_iff.mp parts.body
    omega

/-- A declaration succeeds when the functions have bodies and the comments are whole: it converts the
calls of the super class and then only makes tokens. -/
theorem declare_of_buildable (hbody : c.BodyStands s) (hbuild : c.Buildable s)
    (hfunctions : c.FunctionsStand s) :
    ∃ s₁ t s', ((s.bodyOf c.builder.function).forM (convertSuperCall c.superClass)).run.run s =
        (.ok (), s₁) ∧
      c.declare.run.run s = (.ok t, s') ∧ Frame s₁ s' fun _ => False := by
  obtain ⟨f, a, b, parts⟩ := hbuild.builder
  have body : s.bodyOf c.builder.function = (s.cell b).children := by
    have third : (s.children (some f))[2]? = some (some b) := parts.body
    rw [bodyOf, parts.function, third]
    rfl
  obtain ⟨s₁, hrun, -⟩ := convertSuperCalls_touches c.superClass (s.cell b).children s
  -- what the conversion of the calls changes stands in the body
  have touches : s.Touches (c.Declaring s) s s₁ := by
    have touching : Edit.Touching s (c.Declaring s) s c.convertSuperCalls :=
      convertSuperCalls_touching (Nat.le_refl _) (callsIn_bodyPart hbody)
    have whole : c.convertSuperCalls.run.run s = (.ok (), s₁) := by
      unfold convertSuperCalls
      rw [run_run_bind_of_ok parts.body_run, run_run_bind_of_ok (Edit.run_run_cell s b), hrun]
    rwa [Edit.Touching, whole] at touching
  have recast : ∀ u < s.size, s.Recast s₁ (s.bodyOf c.builder.function) u :=
    fun u hu => recast_of_touches touches hu
  have frame : Frame s s₁ fun u => s₁.cell u ≠ s.cell u := by
    have hframe := touches.frame
    refine ⟨hframe.size_le, hframe.label, hframe.comments, fun u hu hsame => ?_, hframe.kept⟩
    rw [Classical.not_not.mp hsame]
  -- so the functions keep their cells, and the comments keep theirs
  have apart : c.FunctionsApart fun u => s₁.cell u ≠ s.cell u := by
    intro m hm f hf hne
    refine hne (function_cell recast ?_ (hfunctions m hm) hf)
    rcases List.mem_cons.mp hm with rfl | hm
    · exact hbuild.builder
    · exact hbuild.methods m hm
  have later : ∀ m ∈ c.builder :: c.methods, m.HasParts s → m.HasParts s₁ := by
    rintro m hm ⟨f, a, b, parts⟩
    exact ⟨f, a, b, parts.frame frame (apart m hm f parts.function)⟩
  have buildable : c.Buildable s₁ := by
    refine ⟨hbuild.statement, later _ List.mem_cons_self hbuild.builder, fun m hm =>
      later m (List.mem_cons_of_mem _ hm) (hbuild.methods m hm), fun v hv => ?_⟩
    obtain ⟨t, rfl, ht, hcomments⟩ := hbuild.commented v hv
    refine ⟨t, rfl, Nat.lt_of_lt_of_le ht touches.size_le, fun comment hcomment => ?_⟩
    rw [touches.comments ht] at hcomment
    obtain ⟨u, rfl, hwhole⟩ := hcomments comment hcomment
    exact ⟨u, rfl, (convertSuperCalls_whole hrun hwhole).mono touches.size_le⟩
  obtain ⟨t, s', hdeclare, hframe, -⟩ := declare_of_parts hbuild parts hrun frame apart buildable
  exact ⟨s₁, t, s', by rw [body, hrun], hdeclare, hframe⟩

/-- A commit that does not find the statement in its parent, or has no parent to look in, stops with a
fault: the one that says what is missing, if declaring the class does not stop it before. Of the
tokens that were there it only recasts calls that are statements of the constructor's body, and
their argument lists. Where the class can be declared, the tokens are all as they were just when no
statement of the body calls the super class. -/
theorem commit_misplaced (h : c.Misplaced s) :
    ∃ fault s', c.commit.run.run s = (.error fault, s') ∧
      (c.declare.run.run s = (.error fault, s') ∨
        ∃ st, c.statement = some st ∧ fault = c.missing s st) ∧
      (∀ u < s.size, s.Recast s' (s.bodyOf c.builder.function) u) ∧
      (c.Buildable s → c.FunctionsStand s →
        (∃ st, c.statement = some st ∧ fault = c.missing s st) ∧
        ((∀ u < s.size, s'.cell u = s.cell u) ↔
          ∀ slot ∈ s.bodyOf c.builder.function, superCall? s c.superClass slot = none)) := by
  obtain ⟨fault, s', hcommit, rfl, hfault⟩ := h.commit_run
  refine ⟨fault, _, hcommit, hfault, fun u hu => recast_of_touches h.declare_touches hu, ?_⟩
  intro hbuild hfunctions
  obtain ⟨s₁, t, s', hcalls, hdeclare, hframe⟩ := declare_of_buildable h.body hbuild hfunctions
  rw [hdeclare] at hfault ⊢
  refine ⟨?_, ?_⟩
  · rcases hfault with herror | hmissing
    · cases herror
    · exact hmissing
  have size : s.size ≤ s₁.size := by
    obtain ⟨_, hcalls', touches⟩ := convertSuperCalls_touches c.superClass
      (s.bodyOf c.builder.function) s
    cases hcalls.symm.trans hcalls'
    exact touches.size_le
  have made : ∀ u < s.size, s'.cell u = s₁.cell u := fun u hu =>
    hframe.cell (Nat.lt_of_lt_of_le hu size) id
  constructor
  · intro same slot hslot
    by_contra hcall
    obtain ⟨u, hu, hne⟩ := convertSuperCalls_changes hcalls hslot hcall
    exact hne ((made u hu).symm.trans (same u hu))
  · intro hnone u hu
    rw [convertSuperCalls_of_none hnone] at hcalls
    cases hcalls
    exact made u hu

/-- The class `Dog` of the file, as if the function had no parent. -/
def strayDog : Candidate := { fileDog with parent := none }

theorem strayDog_misplaced : strayDog.Misplaced dogFile where
  statement := ⟨11, rfl, by decide⟩
  parent p hp := by cases hp
  body t ht := by
    have hbody : dogFile.bodyOf strayDog.builder.function = [some 9] := rfl
    rw [hbody, List.mem_singleton] at ht
    cases ht
    decide

theorem strayDog_buildable : strayDog.Buildable dogFile where
  statement := rfl
  builder := ⟨11, some 2, 10, rfl, by decide, rfl, rfl, rfl⟩
  methods m hm := by
    cases List.mem_singleton.mp hm
    exact ⟨27, _, _, rfl, by decide, rfl, rfl, rfl⟩
  commented v hv := by
    -- only the function has a comment, which has nothing below it
    have leaf : (dogFile.cell 30).links = [] := rfl
    have comment : dogFile.Whole dogFile.size 30 :=
      .token (by decide) (by rw [leaf]; simp) (by rw [leaf]; simp)
    have hall : v = some 11 ∨ v = some 28 := by simpa [strayDog, fileDog] using hv
    rcases hall with rfl | rfl
    · refine ⟨11, rfl, by decide, fun x hx => ?_⟩
      cases List.mem_singleton.mp hx
      exact ⟨30, rfl, comment⟩
    · exact ⟨28, rfl, by decide, fun x hx => by cases hx⟩

theorem commit_misplaced_strayDog :
    strayDog.Misplaced dogFile ∧ strayDog.Buildable dogFile ∧ strayDog.FunctionsStand dogFile ∧
      ∃ fault s', strayDog.commit.run.run dogFile = (.error fault, s') ∧
        (∃ st, strayDog.statement = some st ∧ fault = strayDog.missing dogFile st) ∧
        ((∀ u < dogFile.size, s'.cell u = dogFile.cell u) ↔
          ∀ slot ∈ dogFile.bodyOf strayDog.builder.function,
            superCall? dogFile strayDog.superClass slot = none) := by
  have functions : strayDog.FunctionsStand dogFile := by
    unfold FunctionsStand
    decide
  obtain ⟨fault, s', hcommit, -, -, himp⟩ := commit_misplaced strayDog_misplaced
  exact ⟨strayDog_misplaced, strayDog_buildable, functions, fault, s', hcommit,
    himp strayDog_buildable functions⟩

/-- The class `Dog` without a parent and without a function for its constructor. -/
def hollowDog : Candidate :=
  { strayDog with builder := { strayDog.builder with function := none } }

/-- The call of the super class is converted although the commit stops. Without a function, it stops
before the parent is looked at. -/
theorem commit_misplaced_converts :
    (∃ fault s', strayDog.parent = none ∧ strayDog.commit.run.run dogFile = (.error fault, s') ∧
      9 < dogFile.size ∧ s'.cell 9 ≠ dogFile.cell 9) ∧
    ∃ s', hollowDog.parent = none ∧
      hollowDog.commit.run.run dogFile = (.error Fault.absentToken, s') := by
  have stray : strayDog.commit.run.run dogFile = _ := rfl
  have hollow : hollowDog.commit.run.run dogFile = _ := rfl
  exact ⟨⟨_, _, rfl, stray, by decide, by decide⟩, _, rfl, hollow⟩

end Candidate

end ClassLift
