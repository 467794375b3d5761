import ClassLift.Proofs.Class.SuperCall
import Mathlib.Data.List.Forall2

set_option autoImplicit false

/-! # Class declarations

The tokens of a class are new, but its methods share the argument lists and the bodies of the
functions (`Method.Defined`, `Candidate.Declared`). `declare_eq_ok` says that making the
declaration gives such a class, that it edits nothing but super calls of the constructor, and
that the tokens found from the class are those of the functions and of the super class, and new
ones.
-/

namespace ClassLift

open List

/-! ## Functions -/

namespace Store

variable {s s' : Store} {slot : Slot} {t : TokenId}

/-- A class reference is a name or a member access. -/
theorem kind_of_isClassReference (h : s.isClassReference slot = .ok true) :
    s.hasKind Kind.text slot = true ∨ s.hasKind Kind.member slot = true := by
  unfold isClassReference at h
  cases hsize : s.size <;> rw [hsize] at h <;> unfold isClassReferenceTo at h <;>
    obtain ⟨l, hl, h⟩ := bind_eq_ok.mp h
  all_goals
    split at h
    · rename_i hmember
      exact Or.inr (hasKind_iff.mpr ⟨l, label_eq_ok.mp hl, hmember.1⟩)
    · simp only [pure, Except.pure, Except.ok.injEq, beq_iff_eq] at h
      exact Or.inl (hasKind_iff.mpr ⟨l, label_eq_ok.mp hl, h⟩)

theorem kind_mem_of_isClassReference (h : s.isClassReference (some t) = .ok true) :
    (s.cell t).label.kind ∈ [Kind.text, Kind.member] :=
  (kind_of_isClassReference h).elim (kind_mem_of_hasKind · (by decide))
    (kind_mem_of_hasKind · (by decide))

theorem lt_size_of_isClassReference (h : s.isClassReference (some t) = .ok true) : t < s.size := by
  rcases kind_of_isClassReference h with hk | hk
  · exact lt_size_of_hasKind hk (by decide)
  · exact lt_size_of_hasKind hk (by decide)

/-- What a function shares with the method that is made of it: argument list and body. -/
def shared (s : Store) (m : Method) : List Slot := (s.children m.function).drop 1

theorem parts_of_isConvertible (h : s.isConvertible slot = .ok true) :
    ∃ f n a b, slot = some f ∧ f < s.size ∧ b < s.size ∧
      (s.cell f).children = [n, a, some b] ∧ s.hasKind Kind.block (some b) = true ∧
      (s.hasKind Kind.functionDecl (some f) = true ∨
        s.hasKind Kind.anonymousFunction (some f) = true) := by
  obtain ⟨hkind, n, a, body, hc, hbody⟩ := isConvertible_eq_true h
  obtain ⟨b, rfl, -⟩ := exists_token_of_hasKind hbody
  obtain ⟨f, rfl⟩ : ∃ f, slot = some f := by
    rcases hkind with hk | hk
    · obtain ⟨f, rfl, -⟩ := exists_token_of_hasKind hk
      exact ⟨f, rfl⟩
    · obtain ⟨f, rfl, -⟩ := exists_token_of_hasKind hk
      exact ⟨f, rfl⟩
  refine ⟨f, n, a, b, rfl, ?_, lt_size_of_hasKind hbody (by decide), hc, hbody, hkind⟩
  exact hkind.elim (fun hk => lt_size_of_hasKind hk (by decide))
    fun hk => lt_size_of_hasKind hk (by decide)

end Store

namespace Frame

variable {s s' s'' : Store} {edited : TokenId → Prop} {slot : Slot} {t : TokenId}

/-- A function that is not edited stays one that can become a method. -/
theorem isConvertible (h : Frame s s' edited) (hf : s.isConvertible slot = .ok true)
    (hn : ∀ f, slot = some f → ¬ edited f) : s'.isConvertible slot = .ok true := by
  obtain ⟨f, n, a, b, rfl, hlt, hltb, hc, hbody, hkind⟩ := Store.parts_of_isConvertible hf
  have hc' : s'.children (some f) = [n, a, some b] := by
    show (s'.cell f).children = _
    rw [h.children f hlt (hn f rfl), hc]
  have hbody' := hbody
  rw [← h.hasKind _ hltb] at hbody'
  rw [← h.hasKind _ hlt, ← h.hasKind _ hlt] at hkind
  have hl : s'.label (some f) = .ok (s'.cell f).label := rfl
  have hlb : s'.label (some b) = .ok (s'.cell b).label := rfl
  have hk : (s'.cell f).label.kind = Kind.functionDecl ∨
      (s'.cell f).label.kind = Kind.anonymousFunction := by
    simpa [Store.hasKind, Store.label?] using hkind
  have hkb : (s'.cell b).label.kind = Kind.block := by
    simpa [Store.hasKind, Store.label?] using hbody'
  simp only [Store.isConvertible, hl, bind, Except.bind, if_pos hk, hc', hlb, hkb, pure,
    Except.pure, beq_self_eq_true]

end Frame

/-! ## Methods -/

namespace Method

variable {m : Method} {s s' s'' : Store} {t : TokenId} {edited : TokenId → Prop}

/-- The token `t` of the later store is the method that `m` describes in the earlier one. -/
structure Defined (m : Method) (s s' : Store) (t : TokenId) : Prop where
  new : t ∈ s.fresh s'
  parts : ∃ f name comments, m.function = some f ∧ name ∈ s.fresh s' ∧
    s'.cell t =
      { Cell.fresh Kind.method m.modifier (s.cell f).label.line (s.cell f).label.column
          (some name :: s.shared m) with comments } ∧
    s'.cell name =
      Cell.fresh Kind.text m.name (s.cell f).label.line (s.cell f).label.column []

theorem Defined.hasKind (h : m.Defined s s' t) : s'.hasKind Kind.method (some t) = true := by
  obtain ⟨f, name, comments, -, -, hcell, -⟩ := h.parts
  exact Store.hasKind_of_cell hcell rfl

/-- The body is the third child of the function. -/
theorem body_eq_ok {slot : Slot} (h : m.body.run.run s = (.ok slot, s')) :
    (s.children m.function)[2]? = some slot ∧ s' = s := by
  unfold body at h
  obtain ⟨c, s₁, hcell, h⟩ := run_run_bind_eq_ok.mp h
  obtain ⟨f, hf, rfl, rfl⟩ := Edit.cell_eq_ok hcell
  obtain ⟨body, s₂, hchild, h⟩ := run_run_bind_eq_ok.mp h
  unfold Edit.child at hchild
  split at hchild
  case h_2 => cases hchild
  rename_i hbody
  cases hchild
  obtain ⟨c, s₃, hcell, h⟩ := run_run_bind_eq_ok.mp h
  obtain ⟨b, rfl, rfl, rfl⟩ := Edit.cell_eq_ok hcell
  split at h
  case isFalse => cases h
  cases h
  exact ⟨by rw [hf]; exact hbody, rfl⟩

theorem body_run (h : s.isConvertible m.function = .ok true) :
    ∃ f n a b, m.function = some f ∧ (s.cell f).children = [n, a, some b] ∧
      m.arguments.run.run s = (.ok a, s) ∧ m.body.run.run s = (.ok (some b), s) := by
  obtain ⟨f, n, a, b, hf, -, -, hc, hbody, -⟩ := Store.parts_of_isConvertible h
  refine ⟨f, n, a, b, hf, hc, ?_, ?_⟩
  · unfold arguments
    rw [hf, run_run_bind_of_ok (Edit.run_run_cell s f), Edit.run_run_child (by rw [hc]; rfl)]
  · have hkind : (s.cell b).label.kind = Kind.block := by
      simpa [Store.hasKind, Store.label?] using hbody
    unfold body
    rw [hf, run_run_bind_of_ok (Edit.run_run_cell s f),
      run_run_bind_of_ok (Edit.run_run_child (by rw [hc]; rfl)),
      run_run_bind_of_ok (Edit.run_run_cell s b), if_pos hkind]
    rfl

/-- A method is defined once the comments before it are copied. -/
theorem define_run (h : s.isConvertible m.function = .ok true) :
    ∃ f, m.function = some f ∧
      m.define.run.run s =
        match (Edit.copyComments m.commented).run.run (s.push
          (.fresh Kind.text m.name (s.cell f).label.line (s.cell f).label.column [])) with
        | (.ok comments, s₁) =>
          (.ok s₁.size, s₁.push
            { Cell.fresh Kind.method m.modifier (s.cell f).label.line (s.cell f).label.column
                (some s.size :: s.shared m) with comments })
        | (.error fault, s₁) => (.error fault, s₁) := by
  obtain ⟨f, n, a, b, hf, hlt, -, hc, -, -⟩ := Store.parts_of_isConvertible h
  refine ⟨f, hf, ?_⟩
  -- the name is created first, so the function is read in a store with one more token
  set name := Cell.fresh Kind.text m.name (s.cell f).label.line (s.cell f).label.column []
    with hname
  have hfunction : (s.push name).isConvertible m.function = .ok true :=
    (Frame.push s name).isConvertible h fun _ _ hfalse => hfalse
  obtain ⟨f', n', a', b', hf', hc', ha, hb⟩ := body_run hfunction
  rw [hf] at hf'
  cases hf'
  rw [Store.cell_push_lt s name f hlt, hc] at hc'
  cases hc'
  -- an argument list and a body are all that is behind the name
  have hshared : s.shared m = [a, some b] := by
    rw [Store.shared, hf]
    show (s.cell f).children.drop 1 = _
    rw [hc]
    rfl
  unfold define
  rw [hf, run_run_bind_of_ok (Edit.run_run_cell s f),
    run_run_bind_of_ok (Edit.run_run_create s _), ← hname, run_run_bind_of_ok ha,
    run_run_bind_of_ok hb, run_run_bind, hshared]
  rcases (Edit.copyComments m.commented).run.run (s.push name) with ⟨r, s₁⟩
  cases r <;> rfl

theorem define_eq_ok (hf : s.isConvertible m.function = .ok true)
    (h : m.define.run.run s = (.ok t, s')) :
    Frame s s' (fun _ => False) ∧ m.Defined s s' t ∧
      ∀ ids, Spans Cell.children s (s.shared m) ids →
        ∃ ids', Spans Cell.children s' [some t] ids' ∧ ids' <+~ ids ++ s.fresh s' := by
  obtain ⟨f, hfunction, hrun⟩ := define_run hf
  rw [h] at hrun
  set name := Cell.fresh Kind.text m.name (s.cell f).label.line (s.cell f).label.column []
    with hname
  rcases hcopy : (Edit.copyComments m.commented).run.run (s.push name) with ⟨r, s₁⟩
  rw [hcopy] at hrun
  cases r with
  | error fault => cases hrun
  | ok comments =>
      cases hrun
      -- the name is made first and the method last; the copies of comments come between
      obtain ⟨hframe, -⟩ := Edit.copyComments_eq_ok hcopy
      set made := { Cell.fresh Kind.method m.modifier (s.cell f).label.line
        (s.cell f).label.column (some s.size :: s.shared m) with comments }
      have hframe₁ : Frame s s₁ (fun _ => False) := (Frame.push s name).extend hframe
      have hframe' : Frame s (s₁.push made) (fun _ => False) := hframe₁.extend (Frame.push s₁ made)
      have hlt : s.size < s₁.size := by
        have := hframe.size_le
        rw [Store.size_push] at this
        exact this
      have hsizes : s₁.size < (s₁.push made).size := s₁.size_lt_push made
      have hnamefresh : s.size ∈ s.fresh (s₁.push made) :=
        Store.mem_fresh.mpr ⟨Nat.le_refl _, Nat.lt_trans hlt hsizes⟩
      have hmadefresh : s₁.size ∈ s.fresh (s₁.push made) :=
        Store.mem_fresh.mpr ⟨hframe₁.size_le, hsizes⟩
      have hnamecell : (s₁.push made).cell s.size = name := by
        rw [Store.cell_push_lt s₁ made _ hlt,
          hframe.cell (s.size_lt_push name) id, Store.cell_push_eq]
      refine ⟨hframe', ⟨hmadefresh, f, s.size, comments, hfunction, hnamefresh,
        Store.cell_push_eq s₁ made, hnamecell⟩, ?_⟩
      intro ids hids
      refine ⟨s₁.size :: (s.size :: ids), .singleton hsizes ?_, ?_⟩
      · rw [Store.cell_push_eq]
        have hnamed : Spans Cell.children (s₁.push made) [some s.size] [s.size] := by
          refine .singleton (Nat.lt_trans hlt hsizes) ?_
          rw [hnamecell]
          exact .nil
        exact hnamed.append (hframe'.spans hids fun _ _ => id)
      · have hpair : [s₁.size, s.size] <+~ s.fresh (s₁.push made) := by
          refine List.subperm_of_subset ?_ ?_
          · simpa using (Nat.ne_of_gt hlt)
          · intro u hu
            simp only [List.mem_cons, List.not_mem_nil, or_false] at hu
            rcases hu with rfl | rfl
            · exact hmadefresh
            · exact hnamefresh
        have hperm : [s₁.size, s.size] ++ ids ~ ids ++ [s₁.size, s.size] := List.perm_append_comm
        refine hperm.subperm.trans ?_
        exact (List.Subperm.refl ids).append hpair

/-- A method stays defined as long as the new tokens are not edited. -/
theorem Defined.later (h : m.Defined s s' t) (hsize : s'.size ≤ s''.size)
    (hcell : ∀ u ∈ s.fresh s', s''.cell u = s'.cell u) : m.Defined s s'' t := by
  obtain ⟨hnew, f, name, comments, hfunction, hname, hown, hnamecell⟩ := h
  refine ⟨Store.mem_fresh_of_le hsize hnew, f, name, comments, hfunction,
    Store.mem_fresh_of_le hsize hname, ?_, ?_⟩
  · rw [hcell t hnew, hown]
  · rw [hcell name hname, hnamecell]

/-- What is defined from a later store is defined from an earlier one that has the same
function. -/
theorem Defined.earlier (h : m.Defined s' s'' t) (hf : Frame s s' edited)
    (hlt : ∀ f, m.function = some f → f < s.size ∧ ¬ edited f) : m.Defined s s'' t := by
  obtain ⟨hnew, f, name, comments, hfunction, hname, hcell, hnamecell⟩ := h
  obtain ⟨hflt, hn⟩ := hlt f hfunction
  have hshared : s'.shared m = s.shared m := by
    rw [Store.shared, Store.shared, hfunction]
    exact congrArg (List.drop 1) (hf.children f hflt hn)
  refine ⟨hf.mem_fresh_right hnew, f, name, comments, hfunction, hf.mem_fresh_right hname, ?_, ?_⟩
  · rw [hcell, hf.label f hflt, hshared]
  · rw [hnamecell, hf.label f hflt]

theorem shared_eq_of_frame (hf : Frame s s' edited)
    (hlt : ∀ f, m.function = some f → f < s.size ∧ ¬ edited f) : s'.shared m = s.shared m := by
  unfold Store.shared
  cases hfunction : m.function with
  | none => rfl
  | some f => exact congrArg (List.drop 1) (hf.children f (hlt f hfunction).1 (hlt f hfunction).2)

/-- All methods of a list are defined, one after the other. -/
theorem mapM_define_eq_ok {methods : List Method} {ts : List TokenId}
    (hf : ∀ m ∈ methods, s.isConvertible m.function = .ok true)
    (h : (methods.mapM Method.define).run.run s = (.ok ts, s')) :
    Frame s s' (fun _ => False) ∧ List.Forall₂ (fun m t => m.Defined s s' t) methods ts ∧
      ∀ ids, Spans Cell.children s (methods.flatMap s.shared) ids →
        ∃ ids', Spans Cell.children s' (ts.map some) ids' ∧ ids' <+~ ids ++ s.fresh s' := by
  induction methods generalizing s ts with
  | nil =>
      cases h
      refine ⟨.refl _ _, .nil, fun ids hids => ⟨ids, hids, ?_⟩⟩
      rw [Store.fresh_self, List.append_nil]
  | cons m methods ih =>
      obtain ⟨t, s₁, others, hm, hothers, rfl⟩ := Edit.mapM_cons_eq_ok h
      obtain ⟨hframe, hdefined, hspans⟩ := define_eq_ok (hf m (by simp)) hm
      have hf₁ : ∀ m' ∈ methods, s₁.isConvertible m'.function = .ok true := fun m' hm' =>
        hframe.isConvertible (hf m' (by simp [hm'])) fun _ _ => id
      have hlt : ∀ m' ∈ methods, ∀ f, m'.function = some f → f < s.size ∧ ¬ False := by
        intro m' hm' f hfunction
        obtain ⟨f', -, -, -, hf', hflt, -⟩ := Store.parts_of_isConvertible (hf m' (by simp [hm']))
        rw [hfunction] at hf'
        cases hf'
        exact ⟨hflt, id⟩
      -- the later methods leave the first one alone, and were there before it was made
      obtain ⟨hframe', hdefined', hspans'⟩ := ih hf₁ hothers
      refine ⟨hframe.extend hframe', .cons (hdefined.later hframe'.size_le (hframe'.cell_fresh fun _ _ => id)) ?_, ?_⟩
      · refine ((List.forall₂_and_left _ _).mpr ⟨hlt, hdefined'⟩).imp ?_
        intro m' t' h
        exact h.2.earlier hframe h.1
      · intro ids hids
        rw [List.flatMap_cons] at hids
        obtain ⟨first, rest, rfl, hfirst, hrest⟩ := hids.of_append
        obtain ⟨first', hfirst', hsub⟩ := hspans first hfirst
        have hrest₁ : Spans Cell.children s₁ (methods.flatMap s₁.shared) rest := by
          rw [List.flatMap_congr fun m' hm' => shared_eq_of_frame hframe (hlt m' hm')]
          exact hframe.spans hrest fun _ _ => id
        obtain ⟨rest', hrest', hsub'⟩ := hspans' rest hrest₁
        refine ⟨first' ++ rest', (hframe'.spans hfirst' fun _ _ => id).append hrest', ?_⟩
        rw [Store.fresh_append hframe.size_le hframe'.size_le]
        exact (hsub.append hsub').trans (perm_exchange first _ rest _).subperm

end Method

/-! ## Classes -/

namespace Store

/-- Has the body of the method's function no statements? -/
def emptyBody (s : Store) (m : Method) : Bool :=
  match s.children m.function with
  | [_, _, body] => (s.children body).isEmpty
  | _ => true

end Store

theorem Method.isEmpty_run {m : Method} {s : Store} (h : s.isConvertible m.function = .ok true) :
    m.isEmpty.run.run s = (.ok (s.emptyBody m), s) := by
  obtain ⟨f, n, a, b, hf, hc, -, hbody⟩ := body_run h
  have hempty : s.emptyBody m = (s.cell b).children.isEmpty := by
    unfold Store.emptyBody
    rw [hf, show s.children (some f) = [n, a, some b] from hc]
    rfl
  unfold isEmpty
  rw [run_run_bind_of_ok hbody, run_run_bind_of_ok (Edit.run_run_cell s b), hempty]
  rfl

namespace Candidate

variable {c : Candidate} {s s' s'' : Store} {t : TokenId} {ids moved : List TokenId}
  {edited : TokenId → Prop}

/-- The member that is made of the constructor function: none when its body is empty. -/
def BuilderDefined (c : Candidate) (s s' : Store) : Option TokenId → Prop
  | none => s.emptyBody c.builder = true
  | some t => s.emptyBody c.builder = false ∧ c.builder.Defined s s' t

/-- The token `t` of the later store is the class that `c` describes in the earlier one. -/
structure Declared (c : Candidate) (s s' : Store) (t : TokenId) : Prop where
  new : t ∈ s.fresh s'
  parts : ∃ st name extends_ block builder others comments, c.statement = some st ∧
    name ∈ s.fresh s' ∧ extends_ ∈ s.fresh s' ∧ block ∈ s.fresh s' ∧
    s'.cell t =
      { Cell.fresh Kind.classDecl "class" (s.cell st).label.line (s.cell st).label.column
          [some name, some extends_, some block] with comments } ∧
    s'.cell name =
      .fresh Kind.text c.name (s.cell st).label.line (s.cell st).label.column [] ∧
    s'.cell extends_ =
      .fresh Kind.keyword "extends" (s.cell st).label.line (s.cell st).label.column
        (c.superClass.toList.map some) ∧
    s'.cell block =
      .fresh Kind.classBlock "\x7b\x7d" (s.cell st).label.line (s.cell st).label.column
        ((builder.toList ++ others).map some) ∧
    c.BuilderDefined s s' builder ∧
    List.Forall₂ (fun m t => m.Defined s s' t) c.methods others

theorem Declared.hasKind (h : c.Declared s s' t) : s'.hasKind Kind.classDecl (some t) = true := by
  obtain ⟨st, name, extends_, block, builder, others, comments, -, -, -, -, hcell, -⟩ := h.parts
  exact Store.hasKind_of_cell hcell rfl

/-- A class stays declared as long as the new tokens are not edited. -/
theorem Declared.later (h : c.Declared s s' t) (hsize : s'.size ≤ s''.size)
    (hcell : ∀ u ∈ s.fresh s', s''.cell u = s'.cell u) : c.Declared s s'' t := by
  obtain ⟨hnew, st, name, extends_, block, builder, others, comments, hst, hname, hextends, hblock,
    hown, hnamecell, hextendscell, hblockcell, hbuilder, hothers⟩ := h
  have hfresh : ∀ u ∈ s.fresh s', u ∈ s.fresh s'' := fun u hu => Store.mem_fresh_of_le hsize hu
  refine ⟨hfresh t hnew, st, name, extends_, block, builder, others, comments, hst,
    hfresh _ hname, hfresh _ hextends, hfresh _ hblock, ?_, ?_, ?_, ?_, ?_, ?_⟩
  · rw [hcell t hnew, hown]
  · rw [hcell name hname, hnamecell]
  · rw [hcell extends_ hextends, hextendscell]
  · rw [hcell block hblock, hblockcell]
  · cases builder with
    | none => exact hbuilder
    | some t => exact ⟨hbuilder.1, hbuilder.2.later hsize hcell⟩
  · exact hothers.imp fun m t h => h.later hsize hcell

theorem not_superPart (ids : List TokenId) {slot : Slot} (h : s.isConvertible slot = .ok true) :
    ∀ f, slot = some f → f < s.size ∧ ¬ SuperPart s ids f := by
  rintro f rfl
  obtain ⟨f', -, -, -, hf, hlt, -, -, -, hkind⟩ := Store.parts_of_isConvertible h
  cases hf
  refine ⟨hlt, ?_⟩
  rintro ⟨-, hpart | hpart⟩ <;> rcases hkind with hk | hk <;>
    exact absurd (Store.hasKind_unique hk hpart) (by decide)

/-- The super calls in the body of the constructor are converted. -/
theorem convertSuperCalls_shared (hb : s.isConvertible c.builder.function = .ok true)
    (hown : Spans Cell.children s (s.shared c.builder) ids) (hn : ids.Nodup) :
    ∃ s', c.convertSuperCalls.run.run s = (.ok (), s') ∧ Frame s s' (SuperPart s ids) ∧
      ∃ ids', Spans Cell.children s' (s.shared c.builder) ids' ∧ ids' <+~ ids ++ s.fresh s' := by
  obtain ⟨f, n, a, b, hf, hc, -, hbody⟩ := Method.body_run hb
  have hshared : s.shared c.builder = [a, some b] := by
    rw [Store.shared, hf]
    exact congrArg (List.drop 1) hc
  rw [hshared] at hown ⊢
  obtain ⟨first, rest, rfl, hfirst, hrest⟩ := hown.of_cons
  obtain ⟨hblt, below, rfl, hbelow⟩ := hrest.of_singleton
  -- the calls stand below the body, apart from the body itself and the argument list
  obtain ⟨-, hnrest, hdisjoint⟩ := List.nodup_append.mp hn
  obtain ⟨hbmem, hnbelow⟩ := List.nodup_cons.mp hnrest
  obtain ⟨s', hrun, hframe, below', hbelow', hsub⟩ :=
    convertSuperCalls_run c.superClass hbelow hnbelow
  refine ⟨s', ?_, hframe.mono fun u _ hu => ?_, first ++ b :: below', ?_, ?_⟩
  · unfold convertSuperCalls
    rw [run_run_bind_of_ok hbody, run_run_bind_of_ok (Edit.run_run_cell s b), hrun]
  · exact ⟨List.mem_append_right _ (List.mem_cons_of_mem b hu.1), hu.2⟩
  · -- neither the argument list nor the body itself is edited
    have hfirst' : Spans Cell.children s' [a] first :=
      hframe.spans hfirst fun u hu hpart =>
        hdisjoint u hu u (List.mem_cons_of_mem b hpart.1) rfl
    have hrest' : Spans Cell.children s' [some b] (b :: below') := by
      refine .singleton (Nat.lt_of_lt_of_le hblt hframe.size_le) ?_
      rw [hframe.children b hblt fun hpart => hbmem hpart.1]
      exact hbelow'
    exact hfirst'.append hrest'
  · rw [List.append_assoc]
    exact (List.Subperm.refl first).append ((List.subperm_cons b).mpr hsub)

/-- The constructor of the class has the argument list and the body of the function, in which
super calls were edited. -/
theorem defineConstructor_eq_ok {o : Option TokenId}
    (hb : s.isConvertible c.builder.function = .ok true)
    (hown : Spans Cell.children s (s.shared c.builder) ids) (hn : ids.Nodup)
    (h : c.defineConstructor.run.run s = (.ok o, s')) :
    Frame s s' (SuperPart s ids) ∧ c.BuilderDefined s s' o ∧
      ∃ ids', Spans Cell.children s' (o.toList.map some) ids' ∧ ids' <+~ ids ++ s.fresh s' := by
  unfold defineConstructor at h
  rw [run_run_bind_of_ok (Method.isEmpty_run hb)] at h
  cases hempty : s.emptyBody c.builder with
  | true =>
      rw [hempty, if_pos rfl] at h
      cases h
      exact ⟨.refl _ _, hempty, [], .nil, List.nil_subperm⟩
  | false =>
      rw [hempty, if_neg (by simp)] at h
      obtain ⟨s₁, hcalls, hframe, ids₁, hids₁, hsub⟩ := convertSuperCalls_shared hb hown hn
      rw [run_run_bind_of_ok hcalls] at h
      obtain ⟨t, s₂, hdefine, h⟩ := run_run_bind_eq_ok.mp h
      cases h
      -- the function itself is as before
      have hfn := not_superPart ids hb
      have hb₁ := hframe.isConvertible hb fun f hf => (hfn f hf).2
      obtain ⟨hframe', hdefined, hspans⟩ := Method.define_eq_ok hb₁ hdefine
      rw [Method.shared_eq_of_frame hframe hfn] at hspans
      obtain ⟨ids', hids', hsub'⟩ := hspans _ hids₁
      refine ⟨hframe.extend hframe', ⟨hempty, hdefined.earlier hframe hfn⟩, ids', hids', ?_⟩
      rw [Store.fresh_append hframe.size_le hframe'.size_le, ← List.append_assoc]
      exact hsub'.trans (hsub.append (.refl _))

/-- The members of the class are its constructor and its methods. -/
theorem defineMembers_eq_ok {members : List TokenId}
    (hb : s.isConvertible c.builder.function = .ok true)
    (hm : ∀ m ∈ c.methods, s.isConvertible m.function = .ok true)
    (hown : Spans Cell.children s (s.shared c.builder) ids) (hn : ids.Nodup)
    (hmoved : Spans Cell.children s (c.methods.flatMap s.shared) moved)
    (hdisjoint : ∀ u ∈ ids, u ∉ moved)
    (h : c.defineMembers.run.run s = (.ok members, s')) :
    Frame s s' (SuperPart s ids) ∧
      (∃ builder others, members = builder.toList ++ others ∧ c.BuilderDefined s s' builder ∧
        List.Forall₂ (fun m t => m.Defined s s' t) c.methods others) ∧
      ∃ ids', Spans Cell.children s' (members.map some) ids' ∧
        ids' <+~ (ids ++ moved) ++ s.fresh s' := by
  unfold defineMembers at h
  obtain ⟨builder, s₁, hbuilder, h⟩ := run_run_bind_eq_ok.mp h
  obtain ⟨others, s₂, hothers, h⟩ := run_run_bind_eq_ok.mp h
  cases h
  obtain ⟨hframe, hdefined, first, hfirst, hsub⟩ := defineConstructor_eq_ok hb hown hn hbuilder
  -- converting super calls touches calls and their arguments, and no function
  have hfn := fun m (hm' : m ∈ c.methods) => not_superPart ids (hm m hm')
  have hm₁ : ∀ m ∈ c.methods, s₁.isConvertible m.function = .ok true := fun m hm' =>
    hframe.isConvertible (hm m hm') fun f hf => (hfn m hm' f hf).2
  obtain ⟨hframe', hdefined', hspans⟩ := Method.mapM_define_eq_ok hm₁ hothers
  -- so what the methods take is found as before
  have hmoved₁ : Spans Cell.children s₁ (c.methods.flatMap s₁.shared) moved := by
    rw [List.flatMap_congr fun m hm' => Method.shared_eq_of_frame hframe (hfn m hm')]
    exact hframe.spans hmoved fun u hu hpart => hdisjoint u hpart.1 hu
  obtain ⟨rest, hrest, hsub'⟩ := hspans moved hmoved₁
  refine ⟨hframe.extend hframe', ⟨builder, others, rfl, ?_, ?_⟩,
    first ++ rest, ?_, ?_⟩
  · cases builder with
    | none => exact hdefined
    | some t => exact ⟨hdefined.1, hdefined.2.later hframe'.size_le (hframe'.cell_fresh fun _ _ => id)⟩
  · refine ((List.forall₂_and_left _ _).mpr ⟨hfn, hdefined'⟩).imp ?_
    intro m t h
    exact h.2.earlier hframe h.1
  · rw [List.map_append]
    exact (hframe'.spans hfirst fun _ _ => id).append hrest
  · rw [Store.fresh_append hframe.size_le hframe'.size_le]
    exact (hsub.append hsub').trans (perm_exchange ids _ moved _).subperm

/-- After the members, which are there in the store `s₁`, the four tokens of the class were made:
its name, what it extends, its body and the class itself. -/
structure Assembled (c : Candidate) (at_ : Label) (members : List TokenId) (s₁ s' : Store)
    (t name extends_ block : TokenId) (comments : List Slot) : Prop where
  frame : Frame s₁ s' (fun _ => False)
  within : [t, name, extends_, block] <+~ s₁.fresh s'
  classCell : s'.cell t =
    { Cell.fresh Kind.classDecl "class" at_.line at_.column [some name, some extends_, some block]
      with comments }
  nameCell : s'.cell name = .fresh Kind.text c.name at_.line at_.column []
  extendsCell : s'.cell extends_ =
    .fresh Kind.keyword "extends" at_.line at_.column (c.superClass.toList.map some)
  blockCell : s'.cell block =
    .fresh Kind.classBlock "\x7b\x7d" at_.line at_.column (members.map some)

theorem declare_run {st : TokenId} (hst : c.statement = some st)
    (h : c.declare.run.run s = (.ok t, s')) :
    ∃ members s₁ name extends_ block comments, c.defineMembers.run.run s = (.ok members, s₁) ∧
      c.Assembled (s.cell st).label members s₁ s' t name extends_ block comments := by
  unfold declare at h
  rw [hst, run_run_bind_of_ok (Edit.run_run_cell s st)] at h
  obtain ⟨members, s₁, hmembers, h⟩ := run_run_bind_eq_ok.mp h
  set line := (s.cell st).label.line
  set column := (s.cell st).label.column
  set extends_ := Cell.fresh Kind.keyword "extends" line column (c.superClass.toList.map some)
    with hextends
  set name := Cell.fresh Kind.text c.name line column [] with hname
  set block := Cell.fresh Kind.classBlock "\x7b\x7d" line column (members.map some) with hblock
  rw [run_run_bind_of_ok (Edit.run_run_create _ _), run_run_bind_of_ok (Edit.run_run_create _ _),
    run_run_bind_of_ok (Edit.run_run_create _ _)] at h
  obtain ⟨comments, s₂, hcopy, h⟩ := run_run_bind_eq_ok.mp h
  cases h
  obtain ⟨hcopies, -⟩ := Edit.copyComments_eq_ok hcopy
  -- the stores on the way, each with one token more
  set s₃ := s₁.push extends_ with hs₃
  set s₄ := s₃.push name with hs₄
  set s₅ := s₄.push block with hs₅
  set made := { Cell.fresh Kind.classDecl "class" line column
    [some s₃.size, some s₁.size, some s₄.size] with comments } with hmade
  have hframe₅ : Frame s₄ s₅ (fun _ => False) := Frame.push s₄ block
  have hframe₄ : Frame s₃ s₅ (fun _ => False) := (Frame.push s₃ name).extend hframe₅
  have hframe₃ : Frame s₁ s₅ (fun _ => False) := (Frame.push s₁ extends_).extend hframe₄
  have hrest : Frame s₅ (s₂.push made) (fun _ => False) := hcopies.extend (Frame.push s₂ made)
  have h₁₃ : s₁.size < s₃.size := s₁.size_lt_push _
  have h₃₄ : s₃.size < s₄.size := s₃.size_lt_push _
  have h₄₅ : s₄.size < s₅.size := s₄.size_lt_push _
  have h₅₂ : s₅.size ≤ s₂.size := hcopies.size_le
  have hlast : s₂.size < (s₂.push made).size := s₂.size_lt_push _
  have hcell : ∀ u, u < s₅.size → (s₂.push made).cell u = s₅.cell u := fun u hu =>
    hrest.cell hu id
  refine ⟨members, s₁, s₃.size, s₁.size, s₄.size, comments, hmembers, hframe₃.extend hrest, ?_,
    Store.cell_push_eq _ _, ?_, ?_, ?_⟩
  · have h₂₄ := Nat.lt_of_lt_of_le h₄₅ h₅₂
    have h₂₃ := Nat.lt_trans h₃₄ h₂₄
    have h₂₁ := Nat.lt_trans h₁₃ h₂₃
    have hfresh : ∀ u : Nat, s₁.size ≤ u → u ≤ s₂.size → u ∈ s₁.fresh (s₂.push made) :=
      fun u hle hu => Store.mem_fresh.mpr ⟨hle, Nat.lt_of_le_of_lt hu hlast⟩
    refine List.subperm_of_subset ?_ ?_
    · simp [Nat.ne_of_gt h₂₄, Nat.ne_of_gt h₂₃, Nat.ne_of_gt h₂₁, Nat.ne_of_gt h₁₃,
        Nat.ne_of_lt h₃₄, Nat.ne_of_lt (Nat.lt_trans h₁₃ h₃₄)]
    · intro u hu
      simp only [List.mem_cons, List.not_mem_nil, or_false] at hu
      rcases hu with rfl | rfl | rfl | rfl <;> apply hfresh <;> omega
  · rw [hcell _ (Nat.lt_trans h₃₄ h₄₅), hframe₅.cell h₃₄ id, hs₄, Store.cell_push_eq]
  · rw [hcell _ (Nat.lt_trans h₁₃ (Nat.lt_trans h₃₄ h₄₅)), hframe₄.cell h₁₃ id, hs₃,
      Store.cell_push_eq]
  · rw [hcell _ h₄₅, hs₅, Store.cell_push_eq]

theorem statement_of_declare (h : c.declare.run.run s = (.ok t, s')) : ∃ st, c.statement = some st := by
  unfold declare at h
  obtain ⟨_, s₁, hcell, -⟩ := run_run_bind_eq_ok.mp h
  obtain ⟨st, hst, -⟩ := Edit.cell_eq_ok hcell
  exact ⟨st, hst⟩

/-- When the members are made, and the comments can be copied then, the class is declared. -/
theorem declare_of_members {st : TokenId} {members : List TokenId} {s₁ : Store}
    (hst : c.statement = some st) (hmembers : c.defineMembers.run.run s = (.ok members, s₁))
    (hcopy : ∀ s₂, Frame s₁ s₂ (fun _ => False) →
      ∃ comments s₃, (Edit.copyComments c.commented).run.run s₂ = (.ok comments, s₃)) :
    ∃ t s' name extends_ block comments, c.declare.run.run s = (.ok t, s') ∧
      c.Assembled (s.cell st).label members s₁ s' t name extends_ block comments := by
  have hdeclare : ∃ t s', c.declare.run.run s = (.ok t, s') := by
    unfold declare
    rw [hst, run_run_bind_of_ok (Edit.run_run_cell s st), run_run_bind_of_ok hmembers,
      run_run_bind_of_ok (Edit.run_run_create _ _), run_run_bind_of_ok (Edit.run_run_create _ _),
      run_run_bind_of_ok (Edit.run_run_create _ _)]
    obtain ⟨comments, s₂, hcomments⟩ :=
      hcopy _ (((Frame.push s₁ _).extend (Frame.push _ _)).extend (Frame.push _ _))
    rw [run_run_bind_of_ok hcomments]
    exact ⟨_, _, rfl⟩
  obtain ⟨t, s', hdeclare⟩ := hdeclare
  obtain ⟨members', s₁', name, extends_, block, comments, hmembers', hmade⟩ := declare_run hst hdeclare
  rw [hmembers] at hmembers'
  cases hmembers'
  exact ⟨t, s', name, extends_, block, comments, hdeclare, hmade⟩

/-- The class has its own tokens and those of its functions and its super class; nothing but
super calls of the constructor is edited. -/
theorem declare_eq_ok {st : TokenId} (hst : c.statement = some st)
    (hb : s.isConvertible c.builder.function = .ok true)
    (hm : ∀ m ∈ c.methods, s.isConvertible m.function = .ok true)
    (hown : Spans Cell.children s (s.shared c.builder) ids) (hn : ids.Nodup)
    (hmoved : Spans Cell.children s
      (c.superClass.toList.map some ++ c.methods.flatMap s.shared) moved)
    (hdisjoint : ∀ u ∈ ids, u ∉ moved)
    (h : c.declare.run.run s = (.ok t, s')) :
    Frame s s' (SuperPart s ids) ∧ c.Declared s s' t ∧
      ∃ ids', Spans Cell.children s' [some t] ids' ∧ ids' <+~ (ids ++ moved) ++ s.fresh s' := by
  obtain ⟨superIds, methodIds, rfl, hsuper, hmethods⟩ := hmoved.of_append
  obtain ⟨members, s₁, name, extends_, block, comments, hmembers, hmade⟩ := declare_run hst h
  obtain ⟨hframe, ⟨builder, others, rfl, hbuilder, hothers⟩, memberIds, hspans, hsub⟩ :=
    defineMembers_eq_ok hb hm hown hn hmethods
      (fun u hu hmem => hdisjoint u hu (List.mem_append_right _ hmem)) hmembers
  have hnew := hmade.frame
  have hframe' : Frame s s' (SuperPart s ids) := hframe.extend hnew
  have hfresh : ∀ u ∈ [t, name, extends_, block], u ∈ s.fresh s' := fun u hu =>
    hframe.mem_fresh_right (hmade.within.subset hu)
  have hlt : ∀ u ∈ [t, name, extends_, block], u < s'.size := fun u hu =>
    (Store.mem_fresh.mp (hfresh u hu)).2
  refine ⟨hframe', ⟨hfresh t (by simp), st, name, extends_, block, builder, others, comments, hst,
    hfresh name (by simp), hfresh extends_ (by simp), hfresh block (by simp), hmade.classCell,
    hmade.nameCell, hmade.extendsCell, hmade.blockCell, ?_, ?_⟩,
    t :: (name :: ([] ++ (extends_ :: (superIds ++ (block :: (memberIds ++ [])))))), ?_, ?_⟩
  · cases builder with
    | none => exact hbuilder
    | some t =>
        exact ⟨hbuilder.1, hbuilder.2.later hnew.size_le (hnew.cell_fresh fun _ _ => id)⟩
  · exact hothers.imp fun m t h => h.later hnew.size_le (hnew.cell_fresh fun _ _ => id)
  · refine .singleton (hlt t (by simp)) ?_
    rw [hmade.classCell]
    refine .token (hlt name (by simp)) ?_ (.token (hlt extends_ (by simp)) ?_
      (.token (hlt block (by simp)) ?_ .nil))
    · rw [hmade.nameCell]
      exact .nil
    · rw [hmade.extendsCell]
      exact hframe'.spans hsuper fun u hu hpart =>
        hdisjoint u hpart.1 (List.mem_append_left _ hu)
    · rw [hmade.blockCell]
      exact hnew.spans hspans fun _ _ => id
  · rw [Store.fresh_append hframe.size_le hnew.size_le]
    refine List.subperm_ext_iff.mpr fun u _ => ?_
    -- no token is counted more often than in the lists that it comes from
    have hmembers := hsub.count_le u
    have hfour := hmade.within.count_le u
    simp only [List.count_append, List.count_cons, List.count_nil] at hmembers hfour ⊢
    omega

end Candidate

end ClassLift
