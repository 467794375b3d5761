import ClassLift.Proofs.Class.Offspring
import ClassLift.Proofs.Class.Redeclaration
import ClassLift.Proofs.Class.Withdrawal

set_option autoImplicit false

/-! # What a declaration has done

From a class that was declared one can tell what was there for it: the functions had their parts, and
the comments had no gaps, in some store on the way (`Candidate.declare_steps`, `Edit.Done`). This is what
it takes to declare the class once more where no call of the super class is left
(`Candidate.declare_again`).
-/

namespace ClassLift

open List Store

variable {s s₁ s' s'' : Store} {slot : Slot} {slots copies : List Slot} {t : TokenId}

/-! ## Edits on the way -/

/-- The edit was done on the way from one store to a later one; apart from it, tokens were made only. -/
def Edit.Done {α : Type} (e : Edit α) (s s' : Store) : Prop :=
  ∃ a s₁ s₂, Frame s s₁ (fun _ => False) ∧ e.run.run s₁ = (.ok a, s₂) ∧ Frame s₂ s' fun _ => False

theorem Edit.Done.mono {α : Type} {e : Edit α} (h : e.Done s₁ s') (hbefore : Frame s s₁ fun _ => False)
    (hafter : Frame s' s'' fun _ => False) : e.Done s s'' := by
  obtain ⟨a, s₂, s₃, hearlier, hrun, hlater⟩ := h
  exact ⟨a, s₂, s₃, hbefore.extend hearlier, hrun, hlater.extend hafter⟩

theorem Edit.Done.of_run {α : Type} {e : Edit α} {a : α} (h : e.run.run s = (.ok a, s'))
    (hafter : Frame s' s'' fun _ => False) : e.Done s s'' :=
  ⟨a, s, s', .refl _ _, h, hafter⟩

/-- The comment was copied on the way: in the store in which that was done it had no gaps. -/
def Store.Copied (s s' : Store) (comment : Slot) : Prop :=
  ∃ s₁, Frame s s₁ (fun _ => False) ∧ Frame s₁ s' (fun _ => False) ∧
    (s₁.fullTree comment).wholeWithComments = true

theorem Store.Copied.mono {comment : Slot} (h : s₁.Copied s' comment) (hbefore : Frame s s₁ fun _ => False)
    (hafter : Frame s' s'' fun _ => False) : s.Copied s'' comment := by
  obtain ⟨s₂, hearlier, hlater, hwhole⟩ := h
  exact ⟨s₂, hbefore.extend hearlier, hlater.extend hafter, hwhole⟩

namespace Edit

theorem clone_copied (h : (clone slot).run.run s = (.ok t, s')) : s.Copied s' slot :=
  ⟨s, .refl _ _, (clone_eq_ok h).1, (clone_eq_build h).1⟩

theorem mapM_clone_copied
    (h : (slots.mapM fun comment => some <$> clone comment : Edit (List Slot)).run.run s =
      (.ok copies, s')) : ∀ comment ∈ slots, s.Copied s' comment := by
  induction slots generalizing s copies with
  | nil => simp
  | cons slot slots ih =>
      obtain ⟨t, s₁, others, hclone, hothers, rfl⟩ := mapM_clone_cons_eq_ok h
      intro comment hcomment
      rcases List.mem_cons.mp hcomment with rfl | hcomment
      · exact (clone_copied hclone).mono (.refl _ _) (mapM_clone_eq_ok hothers).1
      · exact (ih hothers comment hcomment).mono (clone_eq_ok hclone).1 (.refl _ _)

/-- Of the tokens given, all comments were copied. -/
theorem copyComments_copied (h : (copyComments slots).run.run s = (.ok copies, s')) :
    ∀ slot ∈ slots, Stands (fun v => v < s.size → ∀ comment ∈ (s.cell v).comments, s.Copied s' comment)
      slot := by
  induction slots generalizing s copies with
  | nil => simp
  | cons slot slots ih =>
      obtain ⟨v, s₁, first, others, rfl, hfirst, hothers, rfl⟩ := copyComments_cons_eq_ok h
      have hframe := (mapM_clone_eq_ok hfirst).1
      have hframe' := (copyComments_eq_ok hothers).1
      intro slot hslot
      rcases List.mem_cons.mp hslot with rfl | hslot
      · exact ⟨v, rfl, fun _ comment hcomment =>
          (mapM_clone_copied hfirst comment hcomment).mono (.refl _ _) hframe'⟩
      · obtain ⟨w, rfl, hw⟩ := ih hothers slot hslot
        refine ⟨w, rfl, fun hlt comment hcomment => ?_⟩
        rw [← hframe.comments w hlt] at hcomment
        exact (hw (Nat.lt_of_lt_of_le hlt hframe.size_le) comment hcomment).mono hframe (.refl _ _)

end Edit

/-! ## Methods -/

namespace Method

variable {m : Method} {methods : List Method} {f b : TokenId} {a : Slot}

/-- A function whose body was asked for has its parts: in front of the body there is a place for the
arguments. -/
theorem parts_of_body (h : m.body.run.run s = (.ok slot, s'))
    (hlt : ∀ f, m.function = some f → f < s.size) : ∃ f a b, slot = some b ∧ m.Parts s f a b := by
  unfold body at h
  obtain ⟨c, s₁, hcell, h⟩ := run_run_bind_eq_ok.mp h
  obtain ⟨f, hf, rfl, rfl⟩ := Edit.cell_eq_ok hcell
  obtain ⟨third, s₂, hchild, h⟩ := run_run_bind_eq_ok.mp h
  unfold Edit.child at hchild
  split at hchild
  case h_2 => cases hchild
  rename_i hthird
  cases hchild
  obtain ⟨c, s₃, hcell, h⟩ := run_run_bind_eq_ok.mp h
  obtain ⟨b, rfl, rfl, rfl⟩ := Edit.cell_eq_ok hcell
  split at h
  case isFalse => cases h
  rename_i hblock
  cases h
  -- a third child: there is a second one, too
  obtain ⟨hlength, -⟩ := List.getElem?_eq_some_iff.mp hthird
  have hsecond : 1 < (s'.cell f).children.length := by omega
  exact ⟨f, (s'.cell f).children[1], b, rfl, hf, hlt f hf, List.getElem?_eq_getElem hsecond, hthird,
    hblock⟩

/-- A method that was defined has its parts, and the comments before it were copied. -/
theorem parts_of_define (h : m.define.run.run s = (.ok t, s'))
    (hlt : ∀ f, m.function = some f → f < s.size) :
    m.HasParts s ∧ (Edit.copyComments m.commented).Done s s' := by
  unfold define at h
  obtain ⟨c, s₁, hcell, h⟩ := run_run_bind_eq_ok.mp h
  obtain ⟨f, hf, rfl, rfl⟩ := Edit.cell_eq_ok hcell
  rw [run_run_bind_of_ok (Edit.run_run_create _ _)] at h
  set name := Cell.fresh Kind.text m.name (s₁.cell f).label.line (s₁.cell f).label.column [] with hname
  have hpush : Frame s₁ (s₁.push name) fun _ => False := .push s₁ name
  obtain ⟨arguments, s₂, harguments, h⟩ := run_run_bind_eq_ok.mp h
  obtain ⟨-, rfl⟩ := arguments_eq_ok harguments
  obtain ⟨body, s₃, hbody, h⟩ := run_run_bind_eq_ok.mp h
  obtain ⟨-, rfl⟩ := body_eq_ok hbody
  obtain ⟨comments, s₄, hcopy, h⟩ := run_run_bind_eq_ok.mp h
  cases h
  have hlater : ∀ g, m.function = some g → g < (s₁.push name).size := fun g hg =>
    Nat.lt_trans (hlt g hg) (s₁.size_lt_push name)
  refine ⟨?_, (Edit.Done.of_run hcopy (.push _ _)).mono hpush (.refl _ _)⟩
  obtain ⟨g, a, b, -, hparts⟩ := parts_of_body hbody hlater
  have hg := hlt g hparts.function
  have hcell := hpush.cell hg id
  have harg := hparts.arguments
  have hthird := hparts.body
  rw [hcell] at harg hthird
  -- the body is no new token: the only one is a text
  refine ⟨g, a, b, hparts.function, hg, harg, hthird, ?_⟩
  by_cases hb : b < s₁.size
  · rw [← hpush.label b hb]
    exact hparts.block
  · have hblt : b < s₁.size + 1 := by
      rw [← Store.size_push s₁ name]
      exact hparts.body_lt
    obtain rfl : b = s₁.size := Nat.le_antisymm (Nat.le_of_lt_succ hblt) (Nat.le_of_not_lt hb)
    have hkind := hparts.block
    rw [Store.cell_push_eq, hname] at hkind
    have hkind : Kind.text = Kind.block := hkind
    exact absurd hkind (by decide)

/-- Of several methods that were defined, each one was defined on the way. -/
theorem mapM_define_done {ts : List TokenId} (h : (methods.mapM define).run.run s = (.ok ts, s')) :
    ∀ m ∈ methods, m.define.Done s s' := by
  induction methods generalizing s ts with
  | nil => simp
  | cons m methods ih =>
      obtain ⟨t, s₁, others, hdefine, hothers, rfl⟩ := Edit.mapM_cons_eq_ok h
      intro m' hm'
      rcases List.mem_cons.mp hm' with rfl | hm'
      · exact .of_run hdefine ((mapM_define_touching methods s₁).frame hothers)
      · exact (ih hothers m' hm').mono ((define_touching m s).frame hdefine) (.refl _ _)

/-- The parts of a function that is not rearranged. -/
theorem Parts.rearranged {held : TokenId → Prop} {gains : TokenId → Slot → Prop} (h : m.Parts s f a b)
    (hr : s.Rearranges s' held gains) (hnot : ¬ held f) : m.Parts s' f a b where
  function := h.function
  lt := hr.size ▸ h.lt
  arguments := by rw [hr.others f hnot, h.arguments]
  body := by rw [hr.others f hnot, h.body]
  block := by rw [hr.label b, h.block]

end Method

/-! ## Classes -/

namespace Candidate

variable {c : Candidate} {f b : TokenId} {a : Slot}

/-- What was done to declare a class as the token `t`: the calls of the super class in the body `b` of
the constructor were converted, which gave the store `s₁`, and then tokens were made. -/
structure Steps (c : Candidate) (s s₁ s' : Store) (b t : TokenId) : Prop where
  present : c.statement.isSome
  calls : ((s.cell b).children.forM (convertSuperCall c.superClass)).run.run s = (.ok (), s₁)
  made : Frame s₁ s' fun _ => False
  builder : (s.cell b).children ≠ [] → c.builder.define.Done s₁ s'
  methods : ∀ m ∈ c.methods, m.define.Done s₁ s'
  comments : (Edit.copyComments c.commented).Done s₁ s'
  fresh : s₁.size ≤ t
  kind : (s'.cell t).label.kind = Kind.classDecl

theorem defineConstructor_steps {o : Option TokenId} (h : c.defineConstructor.run.run s = (.ok o, s'))
    (hlt : ∀ f, c.builder.function = some f → f < s.size) :
    ∃ f a b s₁, c.builder.Parts s f a b ∧
      ((s.cell b).children.forM (convertSuperCall c.superClass)).run.run s = (.ok (), s₁) ∧
      Frame s₁ s' (fun _ => False) ∧ ((s.cell b).children ≠ [] → c.builder.define.Done s₁ s') := by
  unfold defineConstructor at h
  obtain ⟨empty, s₁, hempty, h⟩ := run_run_bind_eq_ok.mp h
  -- the test whether the body is empty has read all parts of the function
  obtain ⟨f, a, b, hparts⟩ : ∃ f a b, c.builder.Parts s f a b := by
    unfold Method.isEmpty at hempty
    obtain ⟨body, s₂, hbody, -⟩ := run_run_bind_eq_ok.mp hempty
    obtain ⟨f, a, b, -, hparts⟩ := Method.parts_of_body hbody hlt
    exact ⟨f, a, b, hparts⟩
  rw [hparts.isEmpty_run] at hempty
  cases hempty
  refine ⟨f, a, b, ?_⟩
  cases hstatements : (s.cell b).children with
  | nil =>
      rw [hstatements] at h
      cases h
      exact ⟨s, hparts, rfl, .refl _ _, fun hmore => absurd rfl hmore⟩
  | cons first rest =>
      rw [hstatements, List.isEmpty_cons, if_neg (by simp)] at h
      obtain ⟨⟨⟩, s₂, hcalls, h⟩ := run_run_bind_eq_ok.mp h
      obtain ⟨t, s₃, hdefine, h⟩ := run_run_bind_eq_ok.mp h
      cases h
      unfold convertSuperCalls at hcalls
      rw [run_run_bind_of_ok hparts.body_run, run_run_bind_of_ok (Edit.run_run_cell s b),
        hstatements] at hcalls
      exact ⟨s₂, hparts, hcalls, (Method.define_touching c.builder s₂).frame hdefine,
        fun _ => .of_run hdefine (.refl _ _)⟩

/-- After the members of a class, the comments before it are copied. -/
theorem copied_of_declare {members : List TokenId} (h : c.declare.run.run s = (.ok t, s'))
    (hmembers : c.defineMembers.run.run s = (.ok members, s₁)) :
    (Edit.copyComments c.commented).Done s₁ s' := by
  unfold declare at h
  obtain ⟨at_, s₀, hat, h⟩ := run_run_bind_eq_ok.mp h
  obtain ⟨st, -, rfl, rfl⟩ := Edit.cell_eq_ok hat
  rw [run_run_bind_of_ok hmembers, run_run_bind_of_ok (Edit.run_run_create _ _),
    run_run_bind_of_ok (Edit.run_run_create _ _), run_run_bind_of_ok (Edit.run_run_create _ _)] at h
  obtain ⟨comments, s₂, hcopy, hclass⟩ := run_run_bind_eq_ok.mp h
  cases hclass
  refine ⟨comments, _, s₂, ?_, hcopy, .push _ _⟩
  exact ((Frame.push s₁ _).extend (.push _ _)).extend (.push _ _)

/-- A class that was declared was declared in these steps. -/
theorem declare_steps (h : c.declare.run.run s = (.ok t, s'))
    (hlt : ∀ f, c.builder.function = some f → f < s.size) :
    ∃ f a b s₁, c.builder.Parts s f a b ∧ c.Steps s s₁ s' b t := by
  obtain ⟨st, hst⟩ := statement_of_declare h
  obtain ⟨members, s₃, name, extends_, block, comments, hmembers, hmade⟩ := declare_run hst h
  have hcopied := copied_of_declare h hmembers
  unfold defineMembers at hmembers
  obtain ⟨o, s₂, hbuilder, hmembers⟩ := run_run_bind_eq_ok.mp hmembers
  obtain ⟨others, s₄, hothers, hlast⟩ := run_run_bind_eq_ok.mp hmembers
  cases hlast
  obtain ⟨f, a, b, s₁, hparts, hcalls, hframe, hdefine⟩ := defineConstructor_steps hbuilder hlt
  have hmethods := (Method.mapM_define_touching c.methods s₂).frame hothers
  have hfresh := Store.mem_fresh.mp (hmade.within.subset (show t ∈ [t, name, extends_, block] by simp))
  refine ⟨f, a, b, s₁, hparts, ⟨by rw [hst]; rfl, hcalls, (hframe.extend hmethods).extend hmade.frame,
    fun hmore => (hdefine hmore).mono (.refl _ _) (hmethods.extend hmade.frame),
    fun m hm => (Method.mapM_define_done hothers m hm).mono hframe hmade.frame,
    hcopied.mono (hframe.extend hmethods) (.refl _ _),
    Nat.le_trans (hframe.extend hmethods).size_le hfresh.1, ?_⟩⟩
  rw [hmade.classCell]
  rfl

/-- Where no call of the super class is left, a class is declared without any edit. -/
theorem declare_again (hst : c.statement.isSome) (hparts : c.builder.Parts s f a b)
    (hnone : ∀ slot ∈ (s.cell b).children, superCall? s c.superClass slot = none)
    (hbuilder : (s.cell b).children ≠ [] → ∀ v ∈ c.builder.commented, s.Annotated v)
    (hmethods : ∀ m ∈ c.methods, m.HasParts s ∧ ∀ v ∈ m.commented, s.Annotated v)
    (hown : ∀ v ∈ c.commented, s.Annotated v) :
    ∃ t s', c.declare.run.run s = (.ok t, s') ∧ Frame s s' fun _ => False := by
  have hconstructor : ∃ o s₁, c.defineConstructor.run.run s = (.ok o, s₁) ∧
      Frame s s₁ fun _ => False := by
    unfold defineConstructor
    rw [run_run_bind_of_ok hparts.isEmpty_run]
    by_cases hempty : (s.cell b).children = []
    · rw [hempty]
      exact ⟨none, s, rfl, .refl _ _⟩
    · have hcalls : c.convertSuperCalls.run.run s = (.ok (), s) := by
        unfold convertSuperCalls
        rw [run_run_bind_of_ok hparts.body_run, run_run_bind_of_ok (Edit.run_run_cell s b),
          convertSuperCalls_of_none hnone]
      obtain ⟨t, s₁, hdefine, hframe, -⟩ := Method.define_of_parts ⟨f, a, b, hparts⟩ (hbuilder hempty)
      refine ⟨some t, s₁, ?_, hframe⟩
      rw [if_neg (by simpa using hempty), run_run_bind_of_ok hcalls, run_run_bind_of_ok hdefine]
      rfl
  obtain ⟨o, s₁, hfirst, hframe₁⟩ := hconstructor
  -- what the constructor left is enough for the other members
  obtain ⟨others, s₂, hothers, hframe₂, -⟩ := Method.mapM_define_of_parts
    (fun m hm => by
      obtain ⟨f, a, b, hm'⟩ := (hmethods m hm).1
      exact ⟨f, a, b, hm'.frame hframe₁ id⟩)
    fun m hm v hv => ((hmethods m hm).2 v hv).frame hframe₁
  have hmembers : c.defineMembers.run.run s = (.ok (o.toList ++ others), s₂) := by
    unfold defineMembers
    rw [run_run_bind_of_ok hfirst, run_run_bind_of_ok hothers]
    rfl
  obtain ⟨st, hst⟩ := Option.isSome_iff_exists.mp hst
  have hframe := hframe₁.extend hframe₂
  obtain ⟨t, s', _, _, _, _, hdeclare, hmade⟩ := declare_of_members hst hmembers fun s₃ hlater =>
    Edit.copyComments_of_annotated fun v hv => (hown v hv).frame (hframe.extend hlater)
  exact ⟨t, s', hdeclare, hframe.extend hmade.frame⟩

end Candidate

end ClassLift
