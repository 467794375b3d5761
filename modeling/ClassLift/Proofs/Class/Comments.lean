import ClassLift.Proofs.Class.Constructor
import ClassLift.Proofs.Class.Recommit
import ClassLift.Proofs.Class.Success
import ClassLift.Proofs.Token.Comments

set_option autoImplicit false

/-! # Comments before classes and members

The comments that a candidate names are carried over to its class, and those that its methods name to
its members (`Candidate.Commented`). So it is when the class is declared (`Candidate.declare_commented`),
the commit leaves it at that (`Candidate.Ready.commented`), and so do the commits of the candidates that
follow (`Progress.commented`).
-/

namespace ClassLift

open List

variable {s s' s'' : Store} {kept edited : TokenId → Prop} {ids : List TokenId} {block t k : TokenId}

/-! ## Methods -/

namespace Method

variable {m : Method} {methods : List Method} {ts : List TokenId}

theorem define_carries (hf : s.isConvertible m.function = .ok true)
    (hcopy : s.CanCopy kept m.commented) (h : m.define.run.run s = (.ok t, s')) :
    s.CarriesOver m.commented s' (s'.cell t).comments := by
  obtain ⟨f, -, hrun⟩ := define_run hf
  rw [h] at hrun
  set name := Cell.fresh Kind.text m.name (s.cell f).label.line (s.cell f).label.column []
  rcases hcopies : (Edit.copyComments m.commented).run.run (s.push name) with ⟨r, s₁⟩
  rw [hcopies] at hrun
  cases r with
  | error fault => cases hrun
  | ok comments =>
      cases hrun
      -- the name is made before the copies, and the method after them
      have hname := Frame.push s name
      have hcarries := Edit.copyComments_carries hcopies (hcopy.frame hname fun _ _ => id)
      rw [Store.cell_push_eq]
      refine (hcarries.earlier hcopy hname fun _ _ => id).later (Nat.le_of_lt (s₁.size_lt_push _)) ?_
      exact (Frame.push s₁ _).cell_fresh fun _ _ => id

theorem mapM_define_carries (hf : ∀ m ∈ methods, s.isConvertible m.function = .ok true)
    (hcopy : ∀ m ∈ methods, s.CanCopy kept m.commented)
    (h : (methods.mapM Method.define).run.run s = (.ok ts, s')) :
    Forall₂ (fun m t => s.CarriesOver m.commented s' (s'.cell t).comments) methods ts := by
  induction methods generalizing s ts with
  | nil =>
      cases h
      exact .nil
  | cons m methods ih =>
      obtain ⟨t, s₁, others, hm, hothers, rfl⟩ := Edit.mapM_cons_eq_ok h
      obtain ⟨hfm, hfs⟩ := List.forall_mem_cons.mp hf
      obtain ⟨hcm, hcs⟩ := List.forall_mem_cons.mp hcopy
      obtain ⟨hframe, hdefined, -⟩ := define_eq_ok hfm hm
      have hfs₁ : ∀ m' ∈ methods, s₁.isConvertible m'.function = .ok true := fun m' hm' =>
        hframe.isConvertible (hfs m' hm') fun _ _ => id
      obtain ⟨hframe', -⟩ := mapM_define_eq_ok hfs₁ hothers
      refine .cons ?_ ?_
      · rw [hframe'.cell (Store.mem_fresh.mp hdefined.new).2 id]
        exact (define_carries hfm hcm hm).later hframe'.size_le (hframe'.cell_fresh fun _ _ => id)
      · have hrest := ih hfs₁ (fun m' hm' => (hcs m' hm').frame hframe fun _ _ => id) hothers
        refine ((List.forall₂_and_left _ _).mpr ⟨hcs, hrest⟩).imp fun m' t' h' => ?_
        exact h'.2.earlier h'.1 hframe fun _ _ => id

end Method

/-! ## Classes -/

namespace Candidate

variable {c : Candidate} {declaring : Slot} {builder : Option TokenId} {others members : List TokenId}

/-- Before the class and its members stand copies of the comments that the candidate and its methods
name. -/
structure Commented (c : Candidate) (s s' : Store) (t : TokenId) : Prop where
  own : s.CarriesOver c.commented s' (s'.cell t).comments
  members : ∃ (builder : Option TokenId) (others : List TokenId),
    s'.members t = (builder.toList ++ others).map some ∧
    (∀ k ∈ builder, s.CarriesOver c.builder.commented s' (s'.cell k).comments) ∧
    Forall₂ (fun m k => s.CarriesOver m.commented s' (s'.cell k).comments) c.methods others

/-- The members of a class, with what they are and the comments before them. -/
theorem Commented.members_eq (h : c.Commented s s' t) (hd : c.Declared s s' t) :
    ∃ (builder : Option TokenId) (others : List TokenId),
      s'.members t = (builder.toList ++ others).map some ∧
      (∀ k ∈ builder, c.builder.Defined s s' k ∧
        s.CarriesOver c.builder.commented s' (s'.cell k).comments) ∧
      Forall₂ (fun m k => m.Defined s s' k) c.methods others ∧
      Forall₂ (fun m k => s.CarriesOver m.commented s' (s'.cell k).comments) c.methods others := by
  obtain ⟨builder, others, hmembers, hbuilder, hothers⟩ := hd.members_eq
  obtain ⟨builder', others', hmembers', hcarried, hothers'⟩ := h.members
  -- there is a member for every method, so the two lists are split at the same place
  have hsame : builder.toList ++ others = builder'.toList ++ others' :=
    (List.map_injective_iff.mpr (Option.some_injective _)) (hmembers.symm.trans hmembers')
  obtain ⟨hfirst, rfl⟩ := List.append_inj' hsame (hothers.length_eq.symm.trans hothers'.length_eq)
  refine ⟨builder, others, hmembers, fun k hk => ?_, hothers, hothers'⟩
  have hk' : k ∈ builder' := Option.mem_toList.mp (hfirst ▸ Option.mem_toList.mpr hk)
  have hk : builder = some k := hk
  rw [hk] at hbuilder
  exact ⟨hbuilder.2, hcarried k hk'⟩

theorem Declared.members_new (h : c.Declared s s' t) (hk : some k ∈ s'.members t) :
    k ∈ s.fresh s' := by
  obtain ⟨builder, others, hmembers, hbuilder, hothers⟩ := h.members_eq
  rw [hmembers] at hk
  obtain ⟨k', hk', he⟩ := List.mem_map.mp hk
  cases he
  rcases List.mem_append.mp hk' with hk' | hk'
  · cases builder with
    | none => cases hk'
    | some b =>
        rw [Option.toList_some, List.mem_singleton] at hk'
        rw [hk']
        exact hbuilder.2.new
  · obtain ⟨i, hi, rfl⟩ := List.getElem_of_mem hk'
    exact (hothers.get (hothers.length_eq ▸ hi) hi).new

theorem Declared.members_later (h : c.Declared s s' t)
    (hcell : ∀ u ∈ s.fresh s', s''.cell u = s'.cell u) : s''.members t = s'.members t := by
  obtain ⟨st, name, extends_, body, builder, others, comments, -, -, -, hbody, hown, -⟩ := h.parts
  unfold Store.members
  rw [hcell t h.new, hown]
  show (s''.cell body).children = (s'.cell body).children
  rw [hcell body hbody]

/-- The comments stay what they are as long as the new tokens are not edited. -/
theorem Commented.later (h : c.Commented s s' t) (hd : c.Declared s s' t) (hsize : s'.size ≤ s''.size)
    (hcell : ∀ u ∈ s.fresh s', s''.cell u = s'.cell u) : c.Commented s s'' t := by
  obtain ⟨hown, builder, others, hmembers, hbuilder, hothers⟩ := h
  have hkept : ∀ {k : TokenId} {nodes : List Slot}, k ∈ builder.toList ++ others →
      s.CarriesOver nodes s' (s'.cell k).comments → s.CarriesOver nodes s'' (s''.cell k).comments := by
    intro k nodes hk h
    rw [hcell k (hd.members_new (hmembers ▸ List.mem_map_of_mem hk))]
    exact h.later hsize hcell
  refine ⟨?_, builder, others, (hd.members_later hcell).trans hmembers, fun k hk => ?_, ?_⟩
  · rw [hcell t hd.new]
    exact hown.later hsize hcell
  · exact hkept (List.mem_append_left _ (Option.mem_toList.mpr hk)) (hbuilder k hk)
  · refine List.forall₂_iff_get.mpr ⟨hothers.length_eq, fun i hi hi' => ?_⟩
    exact hkept (List.mem_append_right _ (List.get_mem _ _)) (hothers.get hi hi')

/-- What was copied from a later store was there in an earlier one, if it was not edited. -/
theorem Commented.earlier (h : c.Commented s' s'' t) (hcopy : c.CanCopy s kept) (hf : Frame s s' edited)
    (hkept : ∀ u, kept u → ¬ edited u) : c.Commented s s'' t := by
  obtain ⟨hown, builder, others, hmembers, hbuilder, hothers⟩ := h
  refine ⟨hown.earlier hcopy.own hf hkept, builder, others, hmembers, fun k hk => ?_, ?_⟩
  · exact (hbuilder k hk).earlier hcopy.builder hf hkept
  · refine ((List.forall₂_and_left _ _).mpr ⟨hcopy.methods, hothers⟩).imp fun m k h => ?_
    exact h.2.earlier h.1 hf hkept

/-! ### The class is declared -/

theorem defineConstructor_carries (hb : s.isConvertible c.builder.function = .ok true)
    (hown : Spans Cell.children s (s.shared c.builder) ids) (hn : ids.Nodup)
    (hcopy : s.CanCopy kept c.builder.commented) (hkept : ∀ u ∈ ids, ¬ kept u)
    (h : c.defineConstructor.run.run s = (.ok builder, s')) :
    ∀ k ∈ builder, s.CarriesOver c.builder.commented s' (s'.cell k).comments := by
  unfold defineConstructor at h
  rw [run_run_bind_of_ok (Method.isEmpty_run hb)] at h
  cases hempty : s.emptyBody c.builder with
  | true =>
      rw [hempty, if_pos rfl] at h
      cases h
      simp
  | false =>
      rw [hempty, if_neg (by simp)] at h
      obtain ⟨s₁, hcalls, hframe, -⟩ := convertSuperCalls_shared hb hown hn
      rw [run_run_bind_of_ok hcalls] at h
      obtain ⟨t, s₂, hdefine, h⟩ := run_run_bind_eq_ok.mp h
      cases h
      intro k hk
      cases hk
      have hb₁ := hframe.isConvertible hb fun f hf => (not_superPart ids hb f hf).2
      -- the comments are no parts of super calls
      have hapart : ∀ u, kept u → ¬ SuperPart s ids u := fun u hu hpart => hkept u hpart.1 hu
      have hcarries := Method.define_carries hb₁ (hcopy.frame hframe hapart) hdefine
      exact hcarries.earlier hcopy hframe hapart

theorem defineMembers_carries (hb : s.isConvertible c.builder.function = .ok true)
    (hm : ∀ m ∈ c.methods, s.isConvertible m.function = .ok true)
    (hown : Spans Cell.children s (s.shared c.builder) ids) (hn : ids.Nodup)
    (hcopy : c.CanCopy s kept) (hkept : ∀ u ∈ ids, ¬ kept u)
    (h : c.defineMembers.run.run s = (.ok members, s')) :
    Frame s s' (SuperPart s ids) ∧
      ∃ (builder : Option TokenId) (others : List TokenId), members = builder.toList ++ others ∧
      (∀ k ∈ builder, k < s'.size ∧ s.CarriesOver c.builder.commented s' (s'.cell k).comments) ∧
      Forall₂ (fun m k => k < s'.size ∧ s.CarriesOver m.commented s' (s'.cell k).comments) c.methods
        others := by
  unfold defineMembers at h
  obtain ⟨builder, s₁, hbuilder, h⟩ := run_run_bind_eq_ok.mp h
  obtain ⟨others, s₂, hothers, h⟩ := run_run_bind_eq_ok.mp h
  cases h
  obtain ⟨hframe, hdefined, -⟩ := defineConstructor_eq_ok hb hown hn hbuilder
  have hm₁ : ∀ m ∈ c.methods, s₁.isConvertible m.function = .ok true := fun m hm' =>
    hframe.isConvertible (hm m hm') fun f hf => (not_superPart ids (hm m hm') f hf).2
  obtain ⟨hframe', hdefined', -⟩ := Method.mapM_define_eq_ok hm₁ hothers
  have hapart : ∀ u, kept u → ¬ SuperPart s ids u := fun u hu hpart => hkept u hpart.1 hu
  refine ⟨hframe.extend hframe', builder, others, rfl, fun k hk => ?_, ?_⟩
  -- the constructor is defined first: its comments are kept while the methods are defined
  · have hnew : k ∈ s.fresh s₁ := by
      cases hk
      exact hdefined.2.new
    have hlt := (Store.mem_fresh.mp hnew).2
    refine ⟨Nat.lt_of_lt_of_le hlt hframe'.size_le, ?_⟩
    rw [hframe'.cell hlt id]
    exact (defineConstructor_carries hb hown hn hcopy.builder hkept hbuilder k hk).later
      hframe'.size_le (hframe'.cell_fresh fun _ _ => id)
  -- the methods come after: what they copy was not changed by the conversion of super calls
  · have hcarries := Method.mapM_define_carries hm₁
      (fun m hm' => (hcopy.methods m hm').frame hframe hapart) hothers
    have hall := (List.forall₂_and_left _ _).mpr ⟨hcopy.methods, hcarries⟩
    refine List.forall₂_iff_get.mpr ⟨hall.length_eq, fun i hi hi' => ⟨?_, ?_⟩⟩
    · exact (Store.mem_fresh.mp (hdefined'.get hi hi').new).2
    · exact (hall.get hi hi').2.earlier (hall.get hi hi').1 hframe hapart

/-- The comments of the class are copied when its members are there. -/
theorem declare_copies {st : TokenId} (hst : c.statement = some st)
    (h : c.declare.run.run s = (.ok t, s')) :
    ∃ members s₁ s₂ s₃, c.defineMembers.run.run s = (.ok members, s₁) ∧
      Frame s₁ s₂ (fun _ => False) ∧
      (Edit.copyComments c.commented).run.run s₂ = (.ok (s'.cell t).comments, s₃) ∧
      Frame s₃ s' (fun _ => False) := by
  unfold declare at h
  rw [hst, run_run_bind_of_ok (Edit.run_run_cell s st)] at h
  obtain ⟨members, s₁, hmembers, h⟩ := run_run_bind_eq_ok.mp h
  rw [run_run_bind_of_ok (Edit.run_run_create _ _), run_run_bind_of_ok (Edit.run_run_create _ _),
    run_run_bind_of_ok (Edit.run_run_create _ _)] at h
  obtain ⟨comments, s₃, hcopies, h⟩ := run_run_bind_eq_ok.mp h
  cases h
  rw [Store.cell_push_eq]
  exact ⟨members, s₁, _, s₃, hmembers,
    ((Frame.push s₁ _).extend (Frame.push _ _)).extend (Frame.push _ _), hcopies, Frame.push s₃ _⟩

theorem Assembled.members_eq {at_ : Label} {s₁ : Store} {name extends_ body : TokenId}
    {comments : List Slot} (h : c.Assembled at_ members s₁ s' t name extends_ body comments) :
    s'.members t = members.map some := by
  unfold Store.members
  rw [h.classCell]
  show (s'.cell body).children = _
  rw [h.blockCell]
  rfl

/-- A class that is declared has its comments, and so have its members. -/
theorem declare_commented {st : TokenId} (hst : c.statement = some st)
    (hb : s.isConvertible c.builder.function = .ok true)
    (hm : ∀ m ∈ c.methods, s.isConvertible m.function = .ok true)
    (hown : Spans Cell.children s (s.shared c.builder) ids) (hn : ids.Nodup)
    (hcopy : c.CanCopy s kept) (hkept : ∀ u ∈ ids, ¬ kept u)
    (h : c.declare.run.run s = (.ok t, s')) : c.Commented s s' t := by
  obtain ⟨members, s₁, s₂, s₃, hmembers, hframe', hcopies, hlast⟩ := declare_copies hst h
  obtain ⟨members', s₁', name, extends_, body, comments, hmembers', hmade⟩ := declare_run hst h
  cases hmembers.symm.trans hmembers'
  obtain ⟨hframe, builder, others, rfl, hbuilder, hothers⟩ :=
    defineMembers_carries hb hm hown hn hcopy hkept hmembers
  have hapart : ∀ u, kept u → ¬ SuperPart s ids u := fun u hu hpart => hkept u hpart.1 hu
  have hbefore := hframe.extend hframe'
  have hnew := hmade.frame
  refine ⟨?_, builder, others, hmade.members_eq, fun k hk => ?_, hothers.imp fun m k hk => ?_⟩
  · have hcarries := Edit.copyComments_carries hcopies (hcopy.own.frame hbefore hapart)
    exact (hcarries.earlier hcopy.own hbefore hapart).later hlast.size_le
      (hlast.cell_fresh fun _ _ => id)
  · obtain ⟨hlt, hcarries⟩ := hbuilder k hk
    rw [hnew.cell hlt id]
    exact hcarries.later hnew.size_le (hnew.cell_fresh fun _ _ => id)
  · rw [hnew.cell hk.1 id]
    exact hk.2.later hnew.size_le (hnew.cell_fresh fun _ _ => id)

/-! ### The class is committed -/

theorem Ready.parents_lt (h : c.Ready s block declaring) (hc : Container s block ids)
    (hk : some k ∈ c.parents) : k < s.size := by
  have hplaces : some k = some block ∨ some k = declaring := by
    rcases List.mem_append.mp hk with hk | hk
    · rcases List.mem_cons.mp hk with hk | hk
      · exact h.place.imp (fun hp => hk.trans hp.1) fun hp => hk.trans hp.1
      · obtain ⟨p, hp, he⟩ := List.mem_map.mp hk
        exact Or.inl (he ▸ (h.inheritanceParents p hp).1)
    · obtain ⟨m, hm, he⟩ := List.mem_map.mp hk
      exact Or.inl (he ▸ h.methodParents m (List.mem_of_mem_filter hm))
  rcases hplaces with he | he
  · cases he
    exact hc.lt
  · exact hc.found.lt_size k (hc.found.root_mem (he ▸ h.standing))

/-- A class that is committed has its comments, and so have its members. -/
theorem Ready.commented (h : c.Ready s block declaring) (hc : Container s block ids)
    (hcopy : c.CanCopy s kept) (hkept : ∀ u ∈ ids, ¬ kept u) {s₁ : Store}
    (hdeclare : c.declare.run.run s = (.ok t, s₁)) (hcommit : c.commit.run.run s = (.ok (), s')) :
    c.Commented s s' t := by
  obtain ⟨decl, gone, stay, own, taken, hf⟩ := h.footprint hc.found hc.nodup hc.present hc.lt
  obtain ⟨st, hst⟩ := Option.isSome_iff_exists.mp h.present
  have hown : own <+~ decl := (hf.place h).1
  have hnown : own.Nodup := nodup_of_subperm hown (List.nodup_append.mp hf.nodup_first).1
  have hfound : ∀ u ∈ own, u ∈ ids := fun u hu =>
    hf.perm.symm.subset (List.mem_append_left _ (List.mem_append_left _ (hown.subset hu)))
  have hdeclared := declare_commented hst h.builder h.methods hf.ownFound hnown hcopy
    (fun u hu => hkept u (hfound u hu)) hdeclare
  -- what the commit does after this is to replace statements in tokens that were there
  unfold commit at hcommit
  rw [run_run_bind_of_ok hdeclare] at hcommit
  obtain ⟨⟨⟩, s₂, hreplace, hcommit⟩ := run_run_bind_eq_ok.mp hcommit
  have hrearranged := placed_rearranges hreplace hcommit
  obtain ⟨made, hbuilt⟩ := h.built hf hdeclare
  refine hdeclared.later hbuilt.declared (Nat.le_of_eq hrearranged.size.symm) fun u hu => ?_
  refine hrearranged.others u fun hparent => ?_
  exact absurd (h.parents_lt hc hparent) (Nat.not_lt_of_le (Store.mem_fresh.mp hu).1)

end Candidate

/-! ## All commits of a container -/

namespace Progress

variable {made : List Made} {c : Candidate} {declaring : Slot}

/-- One more commit leaves the tokens alone that were made before. -/
theorem commit_keeps (hc : Container s block ids) (hp : Progress s s' block ids made)
    (hmade : ∀ m ∈ made, m.candidate.Ready s block m.declaring)
    (hready : c.Ready s block declaring)
    (hapart : ∀ m ∈ made, m.candidate.Apart m.declaring c declaring) {s₁ : Store}
    (hdeclare : c.declare.run.run s' = (.ok t, s₁)) (hcommit : c.commit.run.run s' = (.ok (), s'')) :
    s'.size ≤ s''.size ∧ ∀ u ∈ s.fresh s', s''.cell u = s'.cell u := by
  obtain ⟨ids', hc', -⟩ := hp.container hc
  obtain ⟨s₂, hrun, hcommits, -⟩ := (hp.ready_later hc hmade hready hapart).commit_of_declare
    (Store.holdsStatements_of_container hc'.isContainer) hc'.found hc'.nodup hc'.present hc'.lt hdeclare
  cases hrun.symm.trans hcommit
  refine ⟨hcommits.frame.size_le, hcommits.frame.cell_fresh fun u hu hedit => ?_⟩
  have hbefore := hp.edits_earlier hc hready (hready.unedited hc hmade hapart) hedit
  exact absurd (hc.edits_lt hready.standing hbefore) (Nat.not_lt_of_le hu)

/-- All candidates of a container are committed, and their classes and members have their comments. -/
theorem commented {x x' : Converter} {waiting : List (Candidate × Slot)} (hc : Container s block ids)
    (hp : Progress s s' block ids made) (hwaiting : Waiting s block (made.map Made.entry ++ waiting))
    (htransformable : ∀ p ∈ waiting, p.1.isTransformable = true)
    (hcopy : ∀ p ∈ waiting, p.1.CanCopy s kept)
    (hkept : ∀ u, kept u → u < s.size ∧ u ∉ block :: ids)
    (hmade : ∀ m ∈ made, m.candidate.Commented s s' m.token)
    (h : ((waiting.map Prod.fst).forM Conversion.commit).run.run (s', x) = (.ok (), (s'', x'))) :
    ∃ more, more.map Made.entry = waiting ∧ Progress s s'' block ids (made ++ more) ∧
      ∀ m ∈ made ++ more, m.candidate.Commented s s'' m.token := by
  induction waiting generalizing s' x made with
  | nil =>
      cases h
      rw [← List.append_nil made] at hp hmade
      exact ⟨[], rfl, hp, hmade⟩
  | cons p waiting ih =>
      obtain ⟨t, s₁, x₁, hready', ⟨s₂, hdeclare⟩, hcommit, hp', hwaiting', h⟩ :=
        hp.run_first hc hwaiting (htransformable p List.mem_cons_self) h
      obtain ⟨hsize, hcell⟩ := hp.commit_keeps hc hwaiting.ready_made hwaiting.ready_first
        hwaiting.apart_first hdeclare hcommit
      obtain ⟨ids', hc', hsub⟩ := hp.container hc
      have hunedited := hc.kept_unedited hwaiting.ready_made hkept
      have hfirst := hcopy p List.mem_cons_self
      have hnew := hready'.commented hc' (hfirst.frame hp.frame hunedited)
        (not_kept_of_found hsub hkept) hdeclare hcommit
      -- the classes declared earlier keep their comments, and the new one has its own
      have hmade' : ∀ m ∈ made ++ [(⟨p.1, p.2, t⟩ : Made)], m.candidate.Commented s s₁ m.token := by
        intro m hm
        rcases List.mem_append.mp hm with hm | hm
        · exact (hmade m hm).later (hp.declared m hm) hsize hcell
        · rw [List.mem_singleton] at hm
          subst hm
          exact hnew.earlier hfirst hp.frame hunedited
      obtain ⟨more, hmore, hp'', hall⟩ := ih hp' hwaiting'
        (fun q hq => htransformable q (List.mem_cons_of_mem _ hq))
        (fun q hq => hcopy q (List.mem_cons_of_mem _ hq)) hmade' h
      rw [List.append_assoc] at hp'' hall
      refine ⟨⟨p.1, p.2, t⟩ :: more, ?_, hp'', hall⟩
      rw [List.map_cons, hmore]
      rfl

end Progress

end ClassLift
