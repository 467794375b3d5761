import ClassLift.Proofs.Class.Progress
import ClassLift.Proofs.Statement.Presence
import ClassLift.Proofs.Token.Copies

set_option autoImplicit false

/-! # Commits that cannot fail

Once a candidate is ready and the comments that go before its class can be copied, its commit
succeeds (`Candidate.declare_succeeds`, `Progress.succeeds`): every part of a function that is
looked for was seen by the detection, and every statement that is replaced stands where it is
expected.
-/

namespace ClassLift

open List

variable {s s' : Store} {kept edited : TokenId → Prop} {ids moved : List TokenId}

/-! ## Methods -/

namespace Method

variable {m : Method} {methods : List Method}

theorem define_succeeds (hf : s.isConvertible m.function = .ok true)
    (hcopy : s.CanCopy kept m.commented) : ∃ t s', m.define.run.run s = (.ok t, s') := by
  obtain ⟨f, -, hrun⟩ := define_run hf
  obtain ⟨comments, s₁, hcomments⟩ :=
    Edit.copyComments_succeeds (hcopy.frame (Frame.push s _) fun _ _ => id)
  rw [hcomments] at hrun
  exact ⟨_, _, hrun⟩

theorem mapM_define_succeeds (hf : ∀ m ∈ methods, s.isConvertible m.function = .ok true)
    (hcopy : ∀ m ∈ methods, s.CanCopy kept m.commented) :
    ∃ ts s', (methods.mapM Method.define).run.run s = (.ok ts, s') := by
  induction methods generalizing s with
  | nil => exact ⟨[], s, rfl⟩
  | cons m methods ih =>
      have hm := hf m List.mem_cons_self
      obtain ⟨t, s₁, hdefine⟩ := define_succeeds hm (hcopy m List.mem_cons_self)
      obtain ⟨hframe, -⟩ := define_eq_ok hm hdefine
      obtain ⟨ts, s₂, hothers⟩ := ih
        (fun m' hm' => hframe.isConvertible (hf m' (List.mem_cons_of_mem _ hm')) fun _ _ => id)
        (fun m' hm' => (hcopy m' (List.mem_cons_of_mem _ hm')).frame hframe fun _ _ => id)
      refine ⟨t :: ts, s₂, ?_⟩
      rw [List.mapM_cons, run_run_bind_of_ok hdefine, run_run_bind_of_ok hothers]
      rfl

end Method

/-! ## Classes -/

namespace Candidate

variable {c : Candidate}

/-- All comments that go before the class and its members can be copied. -/
structure CanCopy (c : Candidate) (s : Store) (kept : TokenId → Prop) : Prop where
  own : s.CanCopy kept c.commented
  builder : s.CanCopy kept c.builder.commented
  methods : ∀ m ∈ c.methods, s.CanCopy kept m.commented

theorem CanCopy.frame (h : c.CanCopy s kept) (hf : Frame s s' edited)
    (hkept : ∀ u, kept u → ¬ edited u) : c.CanCopy s' kept where
  own := h.own.frame hf hkept
  builder := h.builder.frame hf hkept
  methods m hm := (h.methods m hm).frame hf hkept

theorem defineConstructor_succeeds (hb : s.isConvertible c.builder.function = .ok true)
    (hown : Spans Cell.children s (s.shared c.builder) ids) (hn : ids.Nodup)
    (hcopy : s.CanCopy kept c.builder.commented) (hkept : ∀ u ∈ ids, ¬ kept u) :
    ∃ o s', c.defineConstructor.run.run s = (.ok o, s') := by
  unfold defineConstructor
  rw [run_run_bind_of_ok (Method.isEmpty_run hb)]
  cases s.emptyBody c.builder with
  | true => exact ⟨none, s, rfl⟩
  | false =>
      rw [if_neg (by simp)]
      obtain ⟨s₁, hcalls, hframe, -⟩ := convertSuperCalls_shared hb hown hn
      have hb₁ := hframe.isConvertible hb fun f hf => (not_superPart _ hb f hf).2
      obtain ⟨t, s₂, hdefine⟩ := Method.define_succeeds hb₁
        (hcopy.frame hframe fun u hu hpart => hkept u hpart.1 hu)
      refine ⟨some t, s₂, ?_⟩
      rw [run_run_bind_of_ok hcalls, run_run_bind_of_ok hdefine]
      rfl

theorem defineMembers_succeeds (hb : s.isConvertible c.builder.function = .ok true)
    (hm : ∀ m ∈ c.methods, s.isConvertible m.function = .ok true)
    (hown : Spans Cell.children s (s.shared c.builder) ids) (hn : ids.Nodup)
    (hcopy : c.CanCopy s kept) (hkept : ∀ u ∈ ids, ¬ kept u) :
    ∃ members s', c.defineMembers.run.run s = (.ok members, s') ∧ Frame s s' (SuperPart s ids) := by
  obtain ⟨builder, s₁, hbuilder⟩ := defineConstructor_succeeds hb hown hn hcopy.builder hkept
  obtain ⟨hframe, -⟩ := defineConstructor_eq_ok hb hown hn hbuilder
  have hm₁ : ∀ m ∈ c.methods, s₁.isConvertible m.function = .ok true := fun m hm' =>
    hframe.isConvertible (hm m hm') fun f hf => (not_superPart _ (hm m hm') f hf).2
  obtain ⟨others, s₂, hothers⟩ := Method.mapM_define_succeeds hm₁ fun m hm' =>
    (hcopy.methods m hm').frame hframe fun u hu hpart => hkept u hpart.1 hu
  obtain ⟨hframe', -⟩ := Method.mapM_define_eq_ok hm₁ hothers
  refine ⟨builder.toList ++ others, s₂, ?_, hframe.extend hframe'⟩
  unfold defineMembers
  rw [run_run_bind_of_ok hbuilder, run_run_bind_of_ok hothers]
  rfl

/-- The class can be declared. -/
theorem declare_succeeds {st : TokenId} (hst : c.statement = some st)
    (hb : s.isConvertible c.builder.function = .ok true)
    (hm : ∀ m ∈ c.methods, s.isConvertible m.function = .ok true)
    (hown : Spans Cell.children s (s.shared c.builder) ids) (hn : ids.Nodup)
    (hcopy : c.CanCopy s kept) (hkept : ∀ u ∈ ids, ¬ kept u) :
    ∃ t s', c.declare.run.run s = (.ok t, s') := by
  obtain ⟨members, s₁, hmembers, hframe⟩ := defineMembers_succeeds hb hm hown hn hcopy hkept
  have hcopied := hcopy.own.frame hframe fun u hu hpart => hkept u hpart.1 hu
  obtain ⟨t, s', -, -, -, -, hdeclare, -⟩ := declare_of_members hst hmembers fun s₂ hlater =>
    Edit.copyComments_succeeds (hcopied.frame hlater fun _ _ => id)
  exact ⟨t, s', hdeclare⟩

end Candidate

/-! ## What a statement names -/

/-- The kinds of tokens whose comments go before a class or a method. -/
def Kind.commented : List Kind := [Kind.functionDecl, Kind.varDecl, Kind.assign, Kind.binary]

/-- One of the given tokens, of a kind whose comments go before a class or a method. -/
def Store.IsCommented (s : Store) (ids : List TokenId) (u : TokenId) : Prop :=
  u ∈ ids ∧ (s.cell u).label.kind ∈ Kind.commented

/-- The function of a method, and the tokens whose comments go before it, are among the given
tokens. -/
structure Method.Found (m : Method) (s : Store) (ids : List TokenId) : Prop where
  function : Stands (· ∈ ids) m.function
  commented : ∀ v ∈ m.commented, Stands (s.IsCommented ids) v

namespace Store

variable {slot block : Slot} {c : Candidate} {options : Options}

theorem stands_commented {kind : Kind} (h : Stands (· ∈ ids) slot)
    (hk : s.hasKind kind slot = true) (hmem : kind ∈ Kind.commented) :
    Stands (s.IsCommented ids) slot := by
  obtain ⟨t, rfl, ht⟩ := h
  obtain ⟨t', he, hkind⟩ := exists_token_of_hasKind hk
  cases he
  exact ⟨t, rfl, ht, hkind ▸ hmem⟩

theorem found_of_declaration (hs : s.Closed (· ∈ ids)) (h : Stands (· ∈ ids) slot)
    (hd : s.declaration? block slot = .ok (some c)) :
    c.builder.Found s ids ∧ ∀ v ∈ c.commented, Stands (s.IsCommented ids) v := by
  rcases declaration_eq_some_iff.mp hd with hf | ⟨-, first, rest, hc, hf⟩ | hv
  · rw [hf.eq]
    refine ⟨⟨h, by simp [Candidate.start]⟩, fun v hv => ?_⟩
    obtain rfl := List.mem_singleton.mp hv
    exact stands_commented h hf.kind (by decide)
  · have hfirst : Stands (· ∈ ids) first := hs.children h _ (by rw [hc]; simp)
    rw [hf.eq]
    refine ⟨⟨hfirst, by simp [Candidate.start]⟩, fun v hv => ?_⟩
    obtain rfl := List.mem_singleton.mp hv
    exact stands_commented hfirst hf.kind (by decide)
  · obtain ⟨assignment, target, value, hc, -, hparts, -, -, heq⟩ := hv.parts
    have hassignment : Stands (· ∈ ids) assignment := hs.children h _ (by rw [hc]; simp)
    rw [heq]
    refine ⟨⟨(hs.pair hassignment hparts).2, by simp [Candidate.start]⟩, fun v hv' => ?_⟩
    obtain rfl := List.mem_singleton.mp hv'
    exact stands_commented h hv.kind (by decide)

theorem found_of_tableEntries {className : String} {entries : List Slot} {ms : List TableEntry}
    (hs : s.Closed (· ∈ ids)) (hentries : ∀ entry ∈ entries, Stands (· ∈ ids) entry)
    (h : s.tableEntries? className entries = .ok (some ms)) :
    ∀ m ∈ ms, Stands (· ∈ ids) m.function ∧ Stands (s.IsCommented ids) m.entry := by
  induction entries generalizing ms with
  | nil =>
      cases h
      simp
  | cons entry entries ih =>
      have ih := fun {ms} => @ih ms fun e he => hentries e (List.mem_cons_of_mem _ he)
      obtain ⟨-, hrest⟩ | ⟨first, rest, hform, hrest, rfl⟩ := Store.tableEntries_cons_eq_some h
      · exact ih hrest
      · intro m hm
        rcases List.mem_cons.mp hm with rfl | hm
        · have hentry := hentries entry List.mem_cons_self
          obtain ⟨-, he, ⟨hf, hk⟩ | ⟨hk, key, hc⟩⟩ := entryForm_eq_method hform
          · rw [he, hf]
            exact ⟨hentry, stands_commented hentry hk (by decide)⟩
          · rw [he]
            exact ⟨(hs.pair hentry hc).2, stands_commented hentry hk (by decide)⟩
        · exact ih hrest m hm

theorem found_of_methods {ms : List Method} (hs : s.Closed (· ∈ ids)) (h : Stands (· ∈ ids) slot)
    (hms : s.methods? options block slot = .ok (some ms)) : ∀ m ∈ ms, m.Found s ids := by
  obtain ⟨hassign, target, value, hc, hms⟩ := methods_eq_some hms
  have hself := stands_commented h (kind_of_isAssign hassign) (by decide)
  have hvalue := (hs.pair h hc).2
  rcases hms with ⟨owner, name, -, -, -, rfl⟩ | ⟨owner, -, -, -, -, htable⟩
  · intro m hm
    rw [List.mem_singleton] at hm
    subst hm
    refine ⟨hvalue, fun v hv => ?_⟩
    obtain rfl := List.mem_singleton.mp hv
    exact hself
  · obtain ⟨entries, hentries, -, rfl⟩ := tableMethods_eq_some htable
    have hfound := found_of_tableEntries hs (hs.children hvalue) hentries
    cases entries with
    | nil => simp [methodsOfTable]
    | cons first others =>
        intro m hm
        rcases List.mem_cons.mp hm with rfl | hm
        · obtain ⟨hfunction, hentry⟩ := hfound first List.mem_cons_self
          refine ⟨hfunction, fun v hv => ?_⟩
          rcases List.mem_cons.mp hv with rfl | hv
          · exact hself
          · obtain rfl := List.mem_singleton.mp hv
            exact hentry
        · obtain ⟨e, he, rfl⟩ := List.mem_map.mp hm
          obtain ⟨hfunction, hentry⟩ := hfound e (List.mem_cons_of_mem _ he)
          refine ⟨hfunction, fun v hv => ?_⟩
          obtain rfl := List.mem_singleton.mp hv
          exact hentry

theorem found_of_methodsFor {name : String} {statements : List Slot} (hs : s.Closed (· ∈ ids))
    (hstands : ∀ st ∈ statements, Stands (· ∈ ids) st) :
    ∀ m ∈ s.methodsFor options block name statements, m.Found s ids := by
  intro m hm
  obtain ⟨st, hst, hm⟩ := List.mem_flatMap.mp hm
  exact found_of_methods hs (hstands st (List.mem_of_mem_filter hst))
    (exists_methods_of_ne_nil (List.ne_nil_of_mem hm)) m hm

end Store

/-- The comments that go before a class that emerged from the statements of a container can be
copied, when those of the tokens in the container can. -/
theorem Emerges.canCopy {options : Options} {block : TokenId} {d d' : Draft}
    (h : Emerges s options (some block) (s.cell block).children d d') (hs : s.Closed (· ∈ ids))
    (hstands : ∀ st ∈ (s.cell block).children, Stands (· ∈ ids) st)
    (hcopy : ∀ u, s.IsCommented ids u → u < s.size ∧ s.Copyable kept u) :
    d'.finish.CanCopy s kept := by
  have hall : ∀ slots : List Slot, (∀ v ∈ slots, Stands (s.IsCommented ids) v) →
      s.CanCopy kept slots := by
    intro slots hslots v hv
    obtain ⟨u, rfl, hu⟩ := hslots v hv
    exact ⟨u, rfl, hcopy u hu⟩
  obtain ⟨before, declaring, after, c, hstatements, hc, hd, -⟩ := h.declared
  have hcandidate : d.candidate = c := by rw [hd]
  obtain ⟨hbuilder, hown⟩ := Store.found_of_declaration hs
    (hstands declaring (by rw [hstatements]; simp)) hc
  rw [h.finish_eq, hcandidate]
  exact ⟨hall _ hown, hall _ hbuilder.commented, fun m hm =>
    hall _ (Store.found_of_methodsFor hs hstands m hm).commented⟩

/-! ## All commits of a container -/

variable {block : TokenId} {made : List Made} {x : Converter}

/-- What is kept apart from a container is not edited by the commits of its candidates. -/
theorem Container.kept_unedited (hc : Container s block ids)
    (hmade : ∀ m ∈ made, m.candidate.Ready s block m.declaring)
    (hkept : ∀ u, kept u → u < s.size ∧ u ∉ block :: ids) :
    ∀ u, kept u → ¬ ∃ m ∈ made, Candidate.Edits s block m.declaring u := by
  rintro u hu ⟨m, hm, hedit⟩
  rcases hc.edits_cases (hmade m hm).standing hedit with rfl | hmem
  · exact (hkept _ hu).2 List.mem_cons_self
  · exact (hkept u hu).2 (List.mem_cons_of_mem _ (hc.mem_of_mem_at (hmade m hm).standing hmem))

/-- What is found from the container later is none of what is kept. -/
theorem not_kept_of_found {found : List TokenId} (hsub : found <+~ ids ++ s.fresh s')
    (hkept : ∀ u, kept u → u < s.size ∧ u ∉ block :: ids) : ∀ u ∈ found, ¬ kept u := by
  intro u hu hk
  rcases List.mem_append.mp (hsub.subset hu) with hmem | hmem
  · exact (hkept u hk).2 (List.mem_cons_of_mem _ hmem)
  · exact absurd (hkept u hk).1 (Nat.not_lt_of_le (Store.mem_fresh.mp hmem).1)

/-- The candidates that are ready are committed one after the other. -/
theorem Progress.succeeds {waiting : List (Candidate × Slot)} (hc : Container s block ids)
    (hp : Progress s s' block ids made) (hwaiting : Waiting s block (made.map Made.entry ++ waiting))
    (htransformable : ∀ p ∈ waiting, p.1.isTransformable = true)
    (hcopy : ∀ p ∈ waiting, p.1.CanCopy s kept)
    (hkept : ∀ u, kept u → u < s.size ∧ u ∉ block :: ids) :
    ∃ s'' x', ((waiting.map Prod.fst).forM Conversion.commit).run.run (s', x) =
      (.ok (), (s'', x')) := by
  induction waiting generalizing s' x made with
  | nil => exact ⟨s', x, rfl⟩
  | cons p waiting ih =>
      have hmade := hwaiting.ready_made
      have hready := hwaiting.ready_first
      have hready' := hp.ready_later hc hmade hready hwaiting.apart_first
      obtain ⟨ids', hc', hsub⟩ := hp.container hc
      obtain ⟨decl, gone, stay, own, taken, hf⟩ :=
        hready'.footprint hc'.found hc'.nodup hc'.present hc'.lt
      have hown : ∀ u ∈ own, u ∈ ids' := fun u hu =>
        hf.perm.symm.subset (List.mem_append_left _ (List.mem_append_left _
          ((hf.place hready').1.subset hu)))
      have hnown : own.Nodup :=
        nodup_of_subperm (hf.place hready').1 (List.nodup_append.mp hf.nodup_first).1
      -- what is kept is neither edited nor found from the container
      have hunedited := hc.kept_unedited hmade hkept
      have hapart' : ∀ u ∈ own, ¬ kept u := fun u hu =>
        not_kept_of_found hsub hkept u (hown u hu)
      obtain ⟨st, hst⟩ := Option.isSome_iff_exists.mp hready.present
      obtain ⟨t, s₁, hdeclare⟩ := Candidate.declare_succeeds hst hready'.builder hready'.methods
        hf.ownFound hnown ((hcopy p List.mem_cons_self).frame hp.frame hunedited) hapart'
      obtain ⟨s₂, hcommit, hp'⟩ := hp.step hc hmade hready hwaiting.apart_first hdeclare
      obtain ⟨s'', x', hrest⟩ := ih hp' (hwaiting.next t)
        (fun q hq => htransformable q (List.mem_cons_of_mem _ hq))
        fun q hq => hcopy q (List.mem_cons_of_mem _ hq)
      refine ⟨s'', x', ?_⟩
      show (Conversion.commit p.1 >>= fun _ =>
        (waiting.map Prod.fst).forM Conversion.commit).run.run (s', x) = _
      rw [run_run_bind_of_ok
        (Conversion.commit_of_transformable (htransformable p List.mem_cons_self) hst hcommit),
        hrest]

end ClassLift
