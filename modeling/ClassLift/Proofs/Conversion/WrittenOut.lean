import ClassLift.Proofs.Class.ParentCalls
import ClassLift.Proofs.Class.WrittenOut
import ClassLift.Proofs.Conversion.Lockstep

set_option autoImplicit false

/-! # Conversions of method tables written out

A table of methods and the single assignments that it can be written out as lead to the same class
(`visit_writtenOut`): the visits of the two containers end alike, and where the class is made, the
containers are alike afterwards. The two commits run in lockstep away from the container itself, in
which other statements go (`Candidate.Peers.commit`); what is left in the container is then compared
statement by statement.
-/

namespace ClassLift

open List Conversion

variable {s s' t t' : Store} {R R' : TokenId → TokenId → Prop} {x x' : Converter}
  {options : Options} {block table : TokenId} {singles ids ids' : List TokenId} {owner : String}
  {c c' : Candidate} {own own' ms ms' : List Method} {made made' : List Made} {slot : Slot}
  {before after : List Slot}

/-! ## Candidates that are kin -/

namespace Candidate.Kin

theorem isTransformable (h : c.Kin owner own own' c') (hne : own ≠ []) (hne' : own' ≠ []) :
    c'.isTransformable = c.isTransformable := by
  cases h with
  | own _ hmethods =>
      have hempty : ∀ {ms more : List Method}, ms ≠ [] → (ms ++ more).isEmpty = false := by
        intro ms more hms
        simp [hms]
      rw [Candidate.isTransformable, Candidate.isTransformable, hmethods, hempty hne, hempty hne']
  | other => rfl

/-- The statements that go are the same, but for those of the different methods. -/
theorem mem_removed_iff (h : c.Kin owner own own' c')
    (hslot : slot ∉ (own.filterMap Method.statement).map some)
    (hslot' : slot ∉ (own'.filterMap Method.statement).map some) :
    slot ∈ c'.removed ↔ slot ∈ c.removed := by
  cases h with
  | own _ hmethods =>
      rw [removed, removed, hmethods, List.filterMap_append, List.filterMap_append, List.map_append,
        List.map_append]
      simp only [List.mem_append, hslot, hslot', false_or]
  | other => rfl

theorem removes (h : c.Kin owner own own' c') (hname : c.name = owner) :
    (∀ t ∈ own.filterMap Method.statement, some t ∈ c.removed) ∧
      ∀ t ∈ own'.filterMap Method.statement, some t ∈ c'.removed := by
  cases h with
  | own _ hmethods =>
      have hmem : ∀ {ms more : List Method}, ∀ t ∈ ms.filterMap Method.statement,
          some t ∈ ((ms ++ more).filterMap Method.statement).map some := by
        intro ms more t ht
        rw [List.filterMap_append]
        exact List.mem_map_of_mem (List.mem_append_left _ ht)
      refine ⟨fun t ht => ?_, fun t ht => ?_⟩
      · rw [removed, hmethods]
        exact List.mem_append_right _ (hmem t ht)
      · exact List.mem_append_right _ (hmem t ht)
  | other hother => exact absurd hname hother

/-- Where all functions have partners, they become the same members. -/
theorem peers (h : c.Kin owner own own' c') (hown : Forall₂ Method.SameMember own own')
    (hself : c.Peers R c) : c.Peers R c' := by
  cases h with
  | @own more _ hmethods =>
      refine ⟨hself.name, hself.builder, hself.statement, hself.superClass, ?_⟩
      obtain ⟨hall, hmore⟩ : (∀ m ∈ own, m.Peers R m) ∧ ∀ m ∈ more, m.Peers R m := by
        rw [← List.forall_mem_append, ← hmethods]
        exact List.forall₂_same.mp hself.methods
      rw [hmethods]
      refine List.rel_append ?_ (List.forall₂_same.mpr hmore)
      clear hmethods hself
      induction hown with
      | nil => exact .nil
      | @cons m m' own own' hfirst _ ih =>
          refine .cons ⟨hfirst.name.symm, ?_, hfirst.modifier.symm⟩
            (ih fun m hm => hall m (List.mem_cons_of_mem _ hm))
          rw [hfirst.function]
          exact (hall m List.mem_cons_self).function
  | other => exact hself

end Candidate.Kin

/-! ## Commits of candidates that are kin -/

/-- Two candidates that wait to be committed, each in its own store. -/
structure Counterparts (R : TokenId → TokenId → Prop) (block : TokenId) (owner : String)
    (own own' : List Method) (p p' : Candidate × Slot) : Prop where
  kin : p.1.Kin owner own own' p'.1
  peers : p.1.Peers R p'.1
  declaring : p'.2 = p.2
  parent : (p.1.parent = some block ∧ p'.1.parent = some block) ∨ Partners R p.1.parent p'.1.parent

theorem Counterparts.mono {p p' : Candidate × Slot} (h : Counterparts R block owner own own' p p')
    (hR : ∀ u v, R u v → R' u v) : Counterparts R' block owner own own' p p' :=
  ⟨h.kin, h.peers.mono hR, h.declaring, h.parent.imp id fun hparent => hparent.mono hR⟩

/-- Two candidates that were committed, each in its own store. -/
structure Made.Kin (R : TokenId → TokenId → Prop) (owner : String) (own own' : List Method)
    (m m' : Made) : Prop where
  candidate : m.candidate.Kin owner own own' m'.candidate
  declaring : m'.declaring = m.declaring
  token : R m.token m'.token

theorem Candidate.Ready.goesFrom {declaring : Slot} (h : c.Ready s block declaring) :
    c.GoesFrom block :=
  ⟨fun p hp => (h.inheritanceParents p hp).1, h.methodParents⟩

/-- Candidates that are kin are committed in lockstep, away from the container. -/
theorem Committing.lockstep_kin {waiting waiting' : List (Candidate × Slot)}
    {b b' : Store × Converter} (hl : Committing s block ids made waiting (t, x) b)
    (hr : Committing s' block ids' made' waiting' (t', x') b') (h : Mirror R t t')
    (hspares : Spares R block block)
    (hpairs : Forall₂ (Counterparts R block owner own own') waiting waiting') :
    ∃ more more' R', more.map Made.entry = waiting ∧ more'.map Made.entry = waiting' ∧
      Progress s b.1 block ids (made ++ more) ∧ Progress s' b'.1 block ids' (made' ++ more') ∧
      Forall₂ (Made.Kin R' owner own own') more more' ∧ (∀ u v, R u v → R' u v) ∧
      Mirror R' b.1 b'.1 ∧ Spares R' block block := by
  induction waiting generalizing t t' x x' made made' waiting' R with
  | nil =>
      cases hpairs
      cases hl.run
      cases hr.run
      refine ⟨[], [], R, rfl, rfl, ?_, ?_, .nil, fun _ _ => id, h, hspares⟩
      · rw [List.append_nil]
        exact hl.progress
      · rw [List.append_nil]
        exact hr.progress
  | cons p waiting ih =>
      obtain ⟨p', waiting', hp, hrest, rfl⟩ := List.forall₂_cons_left_iff.mp hpairs
      obtain ⟨d, t₁, x₁, hready, ⟨s₁, hdeclare⟩, hcommit, hprogress, hwaiting, hrun⟩ :=
        hl.progress.run_first hl.container hl.waits (hl.transformable p List.mem_cons_self) hl.run
      obtain ⟨d', t₁', x₁', hready', ⟨s₁', hdeclare'⟩, hcommit', hprogress', hwaiting', hrun'⟩ :=
        hr.progress.run_first hr.container hr.waits (hr.transformable p' List.mem_cons_self) hr.run
      obtain ⟨now, hcontainer, -⟩ := hl.progress.container hl.container
      obtain ⟨now', hcontainer', -⟩ := hr.progress.container hr.container
      -- one commit on each side; the relation grows by the tokens that both made
      obtain ⟨R₁, hR₁, h₁, hd⟩ := hp.peers.commit h hspares hready.builder hready'.builder
        (hready.apart hcontainer h hp.peers.superClass) hcontainer.lt hcontainer'.lt hp.parent
        hready.goesFrom hready'.goesFrom hdeclare hdeclare' _ _ _ _ hcommit hcommit'
      obtain ⟨more, more', R₂, hmore, hmore', hlast, hlast', hkin, hR₂, h₂, hspares₂⟩ := ih
        ⟨hl.container, hprogress, hwaiting,
          fun q hq => hl.transformable q (List.mem_cons_of_mem _ hq), hrun⟩
        ⟨hr.container, hprogress', hwaiting',
          fun q hq => hr.transformable q (List.mem_cons_of_mem _ hq), hrun'⟩
        h₁ (hR₁.spares hspares hcontainer.lt hcontainer'.lt)
        (hrest.imp fun _ _ hc => hc.mono hR₁.old)
      refine ⟨⟨p.1, p.2, d⟩ :: more, ⟨p'.1, p'.2, d'⟩ :: more', R₂, ?_, ?_, ?_, ?_, ?_, ?_, h₂, hspares₂⟩
      · rw [List.map_cons, hmore]
        rfl
      · rw [List.map_cons, hmore']
        rfl
      · rwa [List.append_assoc] at hlast
      · rwa [List.append_assoc] at hlast'
      · exact .cons ⟨hp.kin, hp.declaring, hR₂ _ _ hd⟩ hkin
      · exact fun u v huv => hR₂ u v (hR₁.old u v huv)

/-! ## Candidates of the same tokens -/

theorem Itself.partners_of_ne (h : Partners (Itself (block :: ids)) slot slot) (hne : slot ≠ some block) :
    Partners (Itself ids) slot slot := by
  cases h with
  | none => exact .none
  | some hR =>
      rcases List.mem_cons.mp hR.2 with rfl | hmem
      · exact absurd rfl hne
      · exact .some ⟨rfl, hmem⟩

/-- What is detected in a container are tokens of the container. -/
theorem Sound.itself {kept : TokenId → Prop} {candidates : List Candidate} (hl : Sound s block ids kept)
    (gives : (detect s options (some block)).Gives (.ok candidates)) :
    ∀ c ∈ candidates, c.Twins (Itself (block :: ids)) c := by
  have hspans := Spans.singleton hl.container.lt hl.container.found
  have hmirror : Mirror (Itself (block :: ids)) s s :=
    .of_same hspans.lt_size (Nat.le_refl _) (fun u hu v hv => hspans.link_mem hu hv) fun _ _ => rfl
  have hdetect := (hl.detect_lockstep hmirror ⟨rfl, List.mem_cons_self⟩ options [] [] .nil).1
  rw [gives []] at hdetect
  cases hdetect with
  | ok htwins => exact List.forall₂_same.mp htwins

namespace Candidate.Ready

variable {declaring declaring' : Slot}

theorem function_ne {m : Method} (hc : Container s block ids) (hm : s.isConvertible m.function = .ok true) :
    m.function ≠ some block := by
  intro he
  have hno : ¬ Candidate.Edits s block none block := hc.not_edits_function (he ▸ hm)
  exact hno (Or.inl rfl)

/-- The parts of a candidate that is ready are tokens found from the container. -/
theorem peers_itself (hready : c.Ready s block declaring) (hc : Container s block ids)
    (hself : c.Twins (Itself (block :: ids)) c) : c.Peers (Itself ids) c := by
  obtain ⟨decl, gone, stay, own, taken, hf⟩ :=
    hready.footprint hc.found hc.nodup hc.present hc.lt
  refine ⟨rfl, ⟨rfl, ?_, rfl⟩, ?_, ?_, List.forall₂_same.mpr fun m hm => ⟨rfl, ?_, rfl⟩⟩
  · exact Itself.partners_of_ne hself.builder.function (function_ne hc hready.builder)
  · refine Itself.partners_of_ne hself.statement fun he => ?_
    have hmem : block ∈ decl := by
      rcases (hf.place hready).2 with ⟨-, hplain⟩ | ⟨e, rest, -, -, rfl, -, -, -, hchildren, -⟩
      · exact hf.declFound.root_mem (by rw [← hplain, he]; exact List.mem_cons_self)
      · refine hf.declFound.link_mem (hf.declFound.root_mem List.mem_cons_self) ?_
        rw [hchildren, he]
        exact List.mem_cons_self
    exact hf.block_ne (List.mem_append_left _ (List.mem_append_left _ hmem)) rfl
  · refine Itself.partners_of_ne hself.superClass fun he => ?_
    have hmem : block ∈ taken := hf.takenFound.root_mem (by
      rw [Candidate.taken, he]
      exact List.mem_cons_self)
    exact hf.block_ne (List.mem_append_left _ (List.mem_append_right _ (hf.takenWithin.subset hmem))) rfl
  · exact Itself.partners_of_ne (List.forall₂_same.mp hself.methods m hm).function
      (function_ne hc (hready.methods m hm))

theorem parent_itself (hready : c.Ready s block declaring) (hc : Container s block ids) :
    c.parent = some block ∨ Partners (Itself ids) c.parent c.parent := by
  rcases hready.place with ⟨hparent, -⟩ | ⟨hparent, hkind, -⟩
  · exact Or.inl hparent
  · obtain ⟨e, rfl, -⟩ := Store.exists_token_of_hasKind hkind
    rw [hparent]
    exact Or.inr (.some ⟨rfl, hc.found.root_mem hready.standing⟩)

/-- The place of the class says which statement declares it. -/
theorem declaring_eq (hready : c.Ready s block declaring) (hready' : c'.Ready s' block declaring')
    (hc : s.isContainer (some block) = true) (hc' : s'.isContainer (some block) = true)
    (hparent : c'.parent = c.parent) (hstatement : c'.statement = c.statement) :
    declaring' = declaring := by
  have hno : ∀ s : Store, s.isContainer (some block) = true →
      ¬ s.hasKind Kind.exportDecl (some block) = true := fun s hc hkind => by
    rw [Store.isContainer_of_hasKind hkind (by decide)] at hc
    cases hc
  rcases hready.place with ⟨hp, hplain, -⟩ | ⟨hp, hkind, -⟩
  · rcases hready'.place with ⟨-, hplain', -⟩ | ⟨hp', hkind', -⟩
    · rw [← hplain, ← hplain', hstatement]
    · rw [← hp', hparent, hp] at hkind'
      exact absurd hkind' (hno s' hc')
  · rcases hready'.place with ⟨hp', -⟩ | ⟨hp', -⟩
    · rw [← hp, ← hparent, hp'] at hkind
      exact absurd hkind (hno s hc)
    · rw [← hp, ← hp', hparent]

end Candidate.Ready

namespace Candidate.Kin

theorem parent (h : c.Kin owner own own' c') : c'.parent = c.parent := by
  cases h <;> rfl

theorem statement (h : c.Kin owner own own' c') : c'.statement = c.statement := by
  cases h <;> rfl

end Candidate.Kin

/-- The candidates that wait in both containers are counterparts. -/
theorem Waiting.counterparts {waiting waiting' : List (Candidate × Slot)} (hc : Container s block ids)
    (hc' : Container s' block ids') (hw : Waiting s block waiting) (hw' : Waiting s' block waiting')
    (hself : ∀ p ∈ waiting, p.1.Twins (Itself (block :: ids)) p.1)
    (hown : Forall₂ Method.SameMember own own')
    (hkin : Forall₂ (Candidate.Kin owner own own') (waiting.map Prod.fst) (waiting'.map Prod.fst)) :
    Forall₂ (Counterparts (Itself ids) block owner own own') waiting waiting' := by
  rw [List.forall₂_map_left_iff, List.forall₂_map_right_iff] at hkin
  obtain ⟨hready, hready'⟩ := And.intro hw.ready hw'.ready
  clear hw hw'
  induction hkin with
  | nil => exact .nil
  | @cons p p' waiting waiting' hp hrest ih =>
      obtain ⟨hp₁, hready⟩ := List.forall_mem_cons.mp hready
      obtain ⟨hp₁', hready'⟩ := List.forall_mem_cons.mp hready'
      obtain ⟨hp₂, hself⟩ := List.forall_mem_cons.mp hself
      refine .cons ⟨hp, hp.peers hown (hp₁.peers_itself hc hp₂), ?_, ?_⟩ (ih hself hready hready')
      · exact hp₁.declaring_eq hp₁' hc.isContainer hc'.isContainer hp.parent hp.statement
      · rw [hp.parent]
        exact (hp₁.parent_itself hc).imp (fun hparent => ⟨hparent, hparent⟩) id

/-! ## What is left in the containers -/

/-- Two tokens of one label are alike when their children are partners in a mirror. -/
theorem Mirror.alikeAcrossTo_root {a b : TokenId} (h : Mirror R s s')
    (hlabel : (s.cell a).label = (s'.cell b).label)
    (hchildren : Forall₂ (Partners R) (s.cell a).children (s'.cell b).children) (n : Nat) :
    s.alikeAcrossTo s' n (some a) (some b) = true := by
  refine alikeAcrossTo_of_twins (R := Also R a b) ?_ n (.some (Or.inr ⟨rfl, rfl⟩))
  rintro u v (hR | ⟨rfl, rfl⟩)
  · exact (h.cell hR).mono fun _ _ => Or.inl
  · exact ⟨by rw [hlabel], by rw [hlabel], Partners.mono_list hchildren fun _ _ => Or.inl⟩

namespace Made

/-- A statement that goes with a candidate that was committed declares none. -/
theorem replace_of_removed (hw : Waiting s block (made.map entry)) {m : Made} (hm : m ∈ made)
    (hslot : slot ∈ m.candidate.removed) : replace made slot = [] := by
  have hdeclaring : ∀ n ∈ made, n.declaring ≠ slot := by
    rintro n hn rfl
    have hapart : made.Pairwise fun n m =>
        n.declaring ∉ m.candidate.removed ∧ m.declaring ∉ n.candidate.removed :=
      (List.pairwise_map.mp hw.apart).imp fun h => ⟨h.declaration, h.declaration'⟩
    have hsymm : Std.Symm fun n m : Made =>
        n.declaring ∉ m.candidate.removed ∧ m.declaring ∉ n.candidate.removed :=
      ⟨fun _ _ h => h.symm⟩
    by_cases he : n = m
    · rw [he] at hslot
      exact (hw.ready m.entry (List.mem_map_of_mem hm)).declaringStays hslot
    · exact (hapart.forall hn hm he).1 hslot
  have hfind : (made.find? fun n => n.declaring = slot) = none :=
    List.find?_eq_none.mpr fun n hn => by simpa using hdeclaring n hn
  have hany : (made.any fun n => slot ∈ n.candidate.removed) = true :=
    List.any_eq_true.mpr ⟨m, hm, by simpa using hslot⟩
  rw [replace, hfind, hany]
  rfl

theorem Kin.find (h : Forall₂ (Made.Kin R owner own own') made made') (slot : Slot) :
    Option.Rel (Made.Kin R owner own own') (made.find? fun m => m.declaring = slot)
      (made'.find? fun m => m.declaring = slot) := by
  induction h with
  | nil => exact .none
  | @cons m m' _ _ hfirst _ ih =>
      rw [List.find?_cons, List.find?_cons, hfirst.declaring]
      cases decide (m.declaring = slot) with
      | false => exact ih
      | true => exact .some hfirst

theorem Kin.any_removed (h : Forall₂ (Made.Kin R owner own own') made made')
    (hslot : slot ∉ (own.filterMap Method.statement).map some)
    (hslot' : slot ∉ (own'.filterMap Method.statement).map some) :
    (made'.any fun m => slot ∈ m.candidate.removed) = made.any fun m => slot ∈ m.candidate.removed := by
  induction h with
  | nil => rfl
  | cons hfirst _ ih =>
      rw [List.any_cons, List.any_cons, ih, decide_eq_decide.mpr
        (hfirst.candidate.mem_removed_iff hslot hslot')]

/-- A statement that both containers have becomes the same in both. -/
theorem Kin.replace (h : Forall₂ (Made.Kin R owner own own') made made')
    (hself : Partners R slot slot) (hslot : slot ∉ (own.filterMap Method.statement).map some)
    (hslot' : slot ∉ (own'.filterMap Method.statement).map some) :
    Forall₂ (Partners R) (Made.replace made slot) (Made.replace made' slot) := by
  have hfind := Kin.find h slot
  unfold Made.replace
  rw [Kin.any_removed h hslot hslot']
  generalize (made.find? fun m => m.declaring = slot) = o at hfind ⊢
  generalize (made'.find? fun m => m.declaring = slot) = o' at hfind ⊢
  cases hfind with
  | none =>
      dsimp only
      split
      · exact .nil
      · exact .cons hself .nil
  | @some m m' hm =>
      refine .cons ?_ .nil
      rw [Candidate.successor, Candidate.successor, hm.candidate.statement]
      split
      · exact .some hm.token
      · exact hself

end Made

/-- The first of the methods that a statement adds goes with the statement. -/
theorem Store.AddsMethods.statements {t : TokenId} (h : s.AddsMethods options (some block) owner ms t)
    (hne : ms ≠ []) : ms.filterMap Method.statement = [t] := by
  have hmethods : s.methodsOf options (some block) (some t) = ms := by
    rw [Store.methodsOf, h.methods]
  have hstatements := @Store.statements_of_methodsOf s options block t
  rwa [hmethods, if_neg hne] at hstatements

namespace WrittenOut

variable (h : WrittenOut s s' options (some block) owner before after table singles ms ms')

include h

theorem statements_table : ms.filterMap Method.statement = [table] := h.table.statements h.present

theorem statements_singles : ms'.filterMap Method.statement = singles := by
  have hsingles := h.singles
  clear h
  induction hsingles with
  | nil => rfl
  | cons hfirst _ ih =>
      have hstatement := hfirst.1.statements (List.cons_ne_nil _ _)
      rw [← List.singleton_append, List.filterMap_append, hstatement, ih, List.singleton_append]

/-- The statements before and after the table stay what they are. -/
theorem not_mem_statements (hc : Container s block ids) (hc' : Container s' block ids')
    (hslot : slot ∈ before ++ after) : slot ∉ (ms.filterMap Method.statement).map some ∧
      slot ∉ (ms'.filterMap Method.statement).map some := by
  have hn := hc.found.nodup_roots hc.nodup_ids hc.present
  have hn' := hc'.found.nodup_roots hc'.nodup_ids hc'.present
  rw [show (s.cell block).children = _ from h.children] at hn
  rw [show (s'.cell block).children = _ from h.children_out] at hn'
  rw [h.statements_table, h.statements_singles]
  have hperm : before ++ some table :: after ~ [some table] ++ (before ++ after) := List.perm_middle
  have hperm' : before ++ (singles.map some ++ after) ~ singles.map some ++ (before ++ after) :=
    List.perm_append_comm_assoc _ _ _
  obtain ⟨-, -, hne⟩ := List.nodup_append.mp (hperm.nodup_iff.mp hn)
  obtain ⟨-, -, hne'⟩ := List.nodup_append.mp (hperm'.nodup_iff.mp hn')
  exact ⟨fun hmem => hne slot hmem slot hslot rfl, fun hmem => hne' slot hmem slot hslot rfl⟩

theorem filtered {candidates candidates' : List Candidate}
    (hkin : Forall₂ (Candidate.Kin owner ms ms') candidates candidates') :
    Forall₂ (Candidate.Kin owner ms ms') (candidates.filter Candidate.isTransformable)
      (candidates'.filter Candidate.isTransformable) := by
  have hne : ms' ≠ [] := List.ne_nil_of_length_pos (h.singles.length_eq ▸ h.length_pos)
  exact List.rel_filter (fun _ _ hd => by dsimp only; rw [hd.isTransformable h.present hne]) hkin

/-- Where the class was made, the containers have the same statements left. -/
theorem children_partners (hc : Container s block ids) (hc' : Container s' block ids')
    (hp : Progress s t block ids made) (hp' : Progress s' t' block ids' made')
    (hw : Waiting s block (made.map Made.entry)) (hw' : Waiting s' block (made'.map Made.entry))
    (hkin : Forall₂ (Made.Kin R owner ms ms') made made')
    (hself : ∀ st ∈ (s.cell block).children, Partners R st st)
    (howner : ∃ m ∈ made, m.candidate.name = owner) :
    Forall₂ (Partners R) (t.cell block).children (t'.cell block).children := by
  obtain ⟨m, hm, hname⟩ := howner
  obtain ⟨m', hm', hmk⟩ := exists_of_forall₂ hkin.flip hm
  obtain ⟨hremoves, hremoves'⟩ := hmk.candidate.removes hname
  rw [h.statements_table] at hremoves
  rw [h.statements_singles] at hremoves'
  -- on both sides the statements that differ are gone; the others have become partners
  have htable : Made.replace made (some table) = [] :=
    Made.replace_of_removed hw hm (hremoves table List.mem_cons_self)
  have hsingles : (singles.map some).flatMap (Made.replace made') = [] := by
    refine List.flatMap_eq_nil_iff.mpr fun st hst => ?_
    obtain ⟨u, hu, rfl⟩ := List.mem_map.mp hst
    exact Made.replace_of_removed hw' hm' (hremoves' u hu)
  have hchildren : (s.cell block).children = before ++ some table :: after := h.children
  have hchildren' : (s'.cell block).children = before ++ (singles.map some ++ after) := h.children_out
  rw [hp.children, hp'.children, hchildren, hchildren', List.flatMap_append, List.flatMap_cons, htable,
    List.nil_append, List.flatMap_append, List.flatMap_append, hsingles, List.nil_append,
    ← List.flatMap_append, ← List.flatMap_append]
  have hsame : Forall₂ (fun st st' => st' = st ∧ st ∈ before ++ after) (before ++ after)
      (before ++ after) := List.forall₂_same.mpr fun st hst => ⟨rfl, hst⟩
  refine List.rel_flatMap hsame fun st st' hst => ?_
  obtain ⟨rfl, hmem⟩ := hst
  obtain ⟨hnot, hnot'⟩ := h.not_mem_statements hc hc' hmem
  refine Made.Kin.replace hkin (hself _ ?_) hnot hnot'
  rw [hchildren]
  rcases List.mem_append.mp hmem with hmem | hmem
  · exact List.mem_append_left _ hmem
  · exact List.mem_append_right _ (List.mem_cons_of_mem _ hmem)

/-- The candidates that were detected in both containers are committed. Where the class is made, the
containers are alike afterwards. -/
theorem commits {kept kept' : TokenId → Prop} {candidates candidates' : List Candidate}
    (hl : Sound s block ids kept) (hr : Sound s' block ids' kept') (hmirror : Mirror (Itself ids) s s')
    (hlabel : (s'.cell block).label = (s.cell block).label)
    (gives : (ClassLift.detect s options (some block)).Gives (.ok candidates))
    (hc : Candidates s options (some block) (s.cell block).children candidates)
    (hc' : Candidates s' options (some block) (s'.cell block).children candidates')
    (hkin : Forall₂ (Candidate.Kin owner ms ms') candidates candidates') (x x' : Converter) :
    ∃ t t' y y', (candidates.forM commit).run.run (s, x) = (.ok (), (t, y)) ∧
      (candidates'.forM commit).run.run (s', x') = (.ok (), (t', y')) ∧
      (owner ∈ (candidates.filter Candidate.isTransformable).map Candidate.name →
        t.alikeAcross t' (some block) (some block) = true) := by
  obtain ⟨waiting, hfst, hwaiting, htransformable, hcommits⟩ := hl.commits hc
  obtain ⟨waiting', hfst', hwaiting', htransformable', hcommits'⟩ := hr.commits hc'
  obtain ⟨t, y, hrun⟩ := hcommits x
  obtain ⟨t', y', hrun'⟩ := hcommits' x'
  have hfiltered := h.filtered hkin
  rw [← hfst, ← hfst'] at hfiltered
  have hpairs := hwaiting.counterparts hl.container hr.container hwaiting' (fun p hp => by
    have hmem : p.1 ∈ candidates.filter Candidate.isTransformable := hfst ▸ List.mem_map_of_mem hp
    exact hl.itself gives p.1 (List.mem_of_mem_filter hmem)) h.methods hfiltered
  -- the container itself has no partner: its statements differ until the class is made
  have hspares : Spares (Itself ids) block block := by
    rintro u v ⟨rfl, hu⟩
    have hne : u ≠ block := fun he => hl.container.not_mem (he ▸ hu)
    exact ⟨hne, hne⟩
  obtain ⟨made, made', R, hmade, hmade', hp, hp', hkin, hR, hmirror', -⟩ := Committing.lockstep_kin
    ⟨hl.container, .start hl.container, hwaiting, htransformable, hrun⟩
    ⟨hr.container, .start hr.container, hwaiting', htransformable', hrun'⟩ hmirror hspares hpairs
  refine ⟨t, t', y, y', ?_, ?_, fun howner => ?_⟩
  · rw [commits_filter, ← hfst, hrun]
  · rw [commits_filter, ← hfst', hrun']
  rw [← hmade] at hwaiting
  rw [← hmade'] at hwaiting'
  have hchildren := h.children_partners hl.container hr.container hp hp' hwaiting hwaiting' hkin
    (fun st hst => (hl.container.found.itself st hst).mono hR) (by
      rw [← hfst, ← hmade, List.map_map, List.map_map] at howner
      obtain ⟨m, hm, hname⟩ := List.mem_map.mp howner
      exact ⟨m, hm, hname⟩)
  have hlabels : (t.cell block).label = (t'.cell block).label := by
    rw [hp.frame.label block hl.container.lt, hp'.frame.label block hr.container.lt, hlabel]
  exact hmirror'.alikeAcrossTo_root hlabels hchildren _

end WrittenOut

/-! ## Tables of methods -/

/-- The second store is the first one with a table written out: where the statement `table` of the
container assigns these entries to the prototype of `owner`, there are the single assignments of
their functions. In front of the table, nothing but resets of the constructor modify the prototype. -/
structure Store.WritesOut (s s' : Store) (block : TokenId) (owner : String) (entries : List TableEntry)
    (before after : List Slot) (table : TokenId) (singles : List TokenId) : Prop where
  size : s.size ≤ s'.size
  cells : ∀ u < s.size, u ≠ block → s'.cell u = s.cell u
  label : (s'.cell block).label = (s.cell block).label
  children : (s.cell block).children = before ++ some table :: after
  children_out : (s'.cell block).children = before ++ (singles.map some ++ after)
  table : s.AssignsTable owner entries table
  singles : Forall₂ (fun (e : TableEntry) t => s'.AssignsMember owner e.name e.function t) entries singles
  names : ∀ e ∈ entries, e.name ≠ "constructor"
  first : ∀ st ∈ before, s.modifies owner st = true → s.resets owner st = true

/-- The methods of the single assignments. -/
def singleMethods (block : Slot) (entries : List TableEntry) (singles : List TokenId) : List Method :=
  List.zipWith (fun e t => ⟨e.name, e.function, some t, [some t], block, ""⟩) entries singles

variable {entries : List TableEntry}

theorem sameMember_singleMethods {slot slot' : Slot} (h : entries.length = singles.length) :
    Forall₂ Method.SameMember (Store.methodsOfTable slot slot' entries) (singleMethods slot' entries singles) := by
  have hothers : ∀ {entries : List TableEntry} {singles : List TokenId}, entries.length = singles.length →
      Forall₂ Method.SameMember
        (entries.map fun e => ⟨e.name, e.function, none, [e.entry], slot', ""⟩)
        (singleMethods slot' entries singles) := by
    intro entries
    induction entries with
    | nil => intro singles _; exact .nil
    | cons e entries ih =>
        intro singles h
        cases singles with
        | nil => cases h
        | cons t singles => exact .cons ⟨rfl, rfl, rfl⟩ (ih (Nat.succ.inj h))
  cases entries with
  | nil => exact .nil
  | cons e entries =>
      cases singles with
      | nil => cases h
      | cons t singles => exact .cons ⟨rfl, rfl, rfl⟩ (hothers (Nat.succ.inj h))

/-- The functions of the table are found from the statement. -/
theorem Store.AssignsTable.entry {t : TokenId} {e : TableEntry} (h : s.AssignsTable owner entries t)
    (he : e ∈ entries) : s.isConvertible e.function = .ok true ∧ s.Under (some t) e.function := by
  obtain ⟨target, object, hc, -, hobject, hentries⟩ := h.parts
  have hunder : s.Under (some t) object :=
    (Store.Under.refl s (some t)).below (Store.kind_of_isAssign h.assign) (by decide) (by rw [hc]; simp)
  obtain ⟨entry, hentry, hfunction⟩ := Store.under_of_tableEntries hentries e he
  exact ⟨Store.tableEntries_convertible hentries e he,
    (hunder.below hobject (by decide) hentry).trans hfunction⟩

namespace Store.WritesOut

variable (h : s.WritesOut s' block owner entries before after table singles)

include h

/-- What is found from the container is the same in both stores. -/
theorem cell_eq (hc : Container s block ids) {u : TokenId} (hu : u ∈ ids) : s'.cell u = s.cell u :=
  h.cells u (hc.found.lt_size u hu) fun he => hc.not_mem (he ▸ hu)

theorem mirror (hc : Container s block ids) : Mirror (Itself ids) s s' :=
  .of_same hc.found.lt_size h.size (fun _ ht _ hchild => hc.found.link_mem ht hchild)
    fun _ hu => h.cell_eq hc hu

theorem sameFace (hc : Container s block ids) (hslot : slot ∈ (s.cell block).children) :
    SameFace s s' [slot] := by
  obtain ⟨below, hbelow, hsub⟩ := hc.found.sublist (List.singleton_sublist.mpr hslot)
  exact .of_cells h.size hbelow (hc.nodup_ids.sublist hsub) fun u hu => h.cell_eq hc (hsub.subset hu)

/-- The functions of the table can become methods in both stores. -/
theorem convertible (hc : Container s block ids) {e : TableEntry} (he : e ∈ entries) :
    s'.isConvertible e.function = .ok true := by
  obtain ⟨hfunction, hunder⟩ := h.table.entry he
  obtain ⟨f, -, -, -, hf, -⟩ := Store.parts_of_isConvertible hfunction
  rw [hf] at hfunction hunder ⊢
  have hmem : f ∈ ids := Spans.mem_of_under hc.found (by rw [h.children]; simp) hunder
  obtain ⟨below, hbelow, hbelongs⟩ := hc.found.below_mem hmem
  have hface : SameFace s s' [some f] :=
    .of_cells h.size hbelow (hc.nodup_ids.sublist hbelongs.sublist) fun u hu =>
      h.cell_eq hc (hbelongs.subset hu)
  rw [hface.isConvertible, hfunction]

theorem adds (hc : Container s block ids) (options : Options) :
    Forall₂ (fun m t => s'.AddsMethods options (some block) owner [m] t ∧
      s'.replacesPrototype (some t) = .ok false) (singleMethods (some block) entries singles)
      singles := by
  have hconvertible : ∀ e ∈ entries, s'.isConvertible e.function = .ok true := fun _ he =>
    h.convertible hc he
  obtain ⟨hsingles, hnames⟩ := And.intro h.singles h.names
  clear h
  induction hsingles with
  | nil => exact .nil
  | cons hfirst _ ih =>
      obtain ⟨he, hconvertible⟩ := List.forall_mem_cons.mp hconvertible
      obtain ⟨hname, hnames⟩ := List.forall_mem_cons.mp hnames
      exact .cons (hfirst.adds hname he options (some block)) (ih hconvertible hnames)

/-- For the detection, the table is written out. -/
theorem writtenOut (hc : Container s block ids) (hx : options.prototypeObjects = true) :
    WrittenOut s s' options (some block) owner before after table singles
      (methodsOfTable (some table) (some block) entries) (singleMethods (some block) entries singles) where
  children := h.children
  children_out := h.children_out
  forms st hst := by
    refine (h.sameFace hc ?_).forms
    rw [h.children]
    rcases List.mem_append.mp hst with hst | hst
    · exact List.mem_append_left _ hst
    · exact List.mem_append_right _ (List.mem_cons_of_mem _ hst)
  first := h.first
  table := h.table.adds hx (some block)
  singles := h.adds hc options
  methods := sameMember_singleMethods h.singles.length_eq
  present := by
    have hpresent := h.table.present
    cases entries with
    | nil => exact absurd rfl hpresent
    | cons => exact List.cons_ne_nil _ _

theorem isContainer : s'.isContainer (some block) = s.isContainer (some block) := by
  simp only [Store.isContainer, Store.hasKind, Store.label?, Option.map_some, h.label]

end Store.WritesOut

/-- Written out or not, a table of methods means the same. Where the table is the first statement
that modifies the prototype of `owner`, apart from resets of the constructor, the visits of the two
containers end with the same result, make classes of the same names, and count the same warnings.
Where the class of `owner` is made, the containers are alike afterwards. -/
theorem Conversion.visit_writtenOut {all all' : List TokenId} {entries : List TableEntry}
    (h : s.WritesOut s' block owner entries before after table singles)
    (hb : s.isContainer (some block) = true) (hl : Spans Cell.links s [some block] all)
    (hn : all.Nodup) (hpresent : ∀ u ∈ all, none ∉ (s.cell u).links)
    (hl' : Spans Cell.links s' [some block] all') (hn' : all'.Nodup)
    (hpresent' : ∀ u ∈ all', none ∉ (s'.cell u).links) (hx : x.options.prototypeObjects = true)
    (parent : Slot) :
    ∃ result t t' y y' made, (visit (some block) parent).run.run (s, x) = (result, (t, y)) ∧
      (visit (some block) parent).run.run (s', x) = (result, (t', y')) ∧
      y.classes = x.classes ++ made ∧ y'.classes = x.classes ++ made ∧
      y.reporter.counts = y'.reporter.counts ∧
      (owner ∈ made → t.alikeAcross t' (some block) (some block) = true) := by
  have hb' : s'.isContainer (some block) = true := h.isContainer.trans hb
  obtain ⟨old, hsource, -, hunderway⟩ := Source.of_links hl hn hpresent
  obtain ⟨old', hsource', -, hunderway'⟩ := Source.of_links hl' hn' hpresent'
  obtain ⟨ids, hsound⟩ := hunderway.sound hsource hb
  obtain ⟨ids', hsound'⟩ := hunderway'.sound hsource' hb'
  have hwritten := h.writtenOut hsound.container hx
  obtain ⟨hresult, hnotices⟩ := hwritten.detect [] [] .nil
  rw [visit_of_container hb, visit_of_container hb']
  -- the converters that have reported the notices of the two detections
  generalize hreports : ((detect s x.options (some block)).run.run []).2.foldl Converter.report x = z
  generalize hreports' :
    ((detect s' x.options (some block)).run.run []).2.foldl Converter.report x = z'
  have halike : z.Alike z' := by
    rw [← hreports, ← hreports']
    exact Converter.Alike.reports hnotices ⟨rfl, rfl, rfl⟩
  have hclasses : z.classes = x.classes := by
    rw [← hreports]
    exact (Converter.sameClasses_reports x _).2
  generalize hfound : ((detect s x.options (some block)).run.run []).1 = found at hresult ⊢
  generalize hfound' : ((detect s' x.options (some block)).run.run []).1 = found' at hresult ⊢
  cases hresult with
  | error fault =>
      refine ⟨_, s, s', z, z', [], rfl, rfl, ?_, ?_, halike.counts, fun hmem => by cases hmem⟩
      · rw [List.append_nil, hclasses]
      · rw [List.append_nil, ← halike.classes, hclasses]
  | @ok candidates candidates' hkin =>
      obtain ⟨gives, hcandidates⟩ := candidates_of_detect hfound
      obtain ⟨-, hcandidates'⟩ := candidates_of_detect hfound'
      obtain ⟨t, t', y, y', hrun, hrun', htrees⟩ := hwritten.commits hsound hsound'
        (h.mirror hsound.container) h.label gives hcandidates hcandidates' hkin z z'
      have hnames : (candidates.filter Candidate.isTransformable).map Candidate.name =
          (candidates'.filter Candidate.isTransformable).map Candidate.name :=
        List.forall₂_eq_eq_eq ▸ List.rel_map (fun _ _ hd => hd.name) (hwritten.filtered hkin)
      refine ⟨_, t, t', y, y', _, hrun, hrun', ?_, ?_, ?_, htrees⟩
      · rw [(classes_of_commits hrun).2, hclasses]
      · rw [(classes_of_commits hrun').2, ← halike.classes, hclasses, hnames]
      · rw [reporter_of_commits hrun, reporter_of_commits hrun', halike.counts]

namespace Conversion

/-- `function Point() {}`, and a table for its prototype with the methods `norm` and `scale` and the
entry `constructor: Point`. -/
def tableFile : Store where
  cells := #[
    .fresh Kind.text "Point" 1 9 [],
    .fresh Kind.arguments "()" 1 14 [],
    .fresh Kind.block "\x7b\x7d" 1 17 [],
    .fresh Kind.functionDecl "function" 1 0 [some 0, some 1, some 2],
    .fresh Kind.text "Point" 2 0 [],
    .fresh Kind.memberName "prototype" 2 6 [],
    .fresh Kind.member "." 2 5 [some 4, some 5],
    .fresh Kind.text "norm" 3 2 [],
    .fresh Kind.text "" 3 8 [],
    .fresh Kind.arguments "()" 3 16 [],
    .fresh Kind.block "\x7b\x7d" 3 19 [],
    .fresh Kind.anonymousFunction "function" 3 8 [some 8, some 9, some 10],
    .fresh Kind.binary ":" 3 6 [some 7, some 11],
    .fresh Kind.text "scale" 4 2 [],
    .fresh Kind.arguments "()" 4 7 [],
    .fresh Kind.block "\x7b\x7d" 4 10 [],
    .fresh Kind.functionDecl "function" 4 2 [some 13, some 14, some 15],
    .fresh Kind.text "constructor" 5 2 [],
    .fresh Kind.text "Point" 5 15 [],
    .fresh Kind.binary ":" 5 13 [some 17, some 18],
    .fresh Kind.object "\x7b\x7d" 2 18 [some 12, some 16, some 19],
    .fresh Kind.assign "=" 2 16 [some 6, some 20],
    .fresh Kind.sourceFile "" 1 0 [some 3, some 21]]

/-- The same file with an assignment for each of the two methods in the place of the table. -/
def tableFileWrittenOut : Store :=
  Store.set
    { cells := tableFile.cells ++ #[
      .fresh Kind.text "Point" 3 0 [],
      .fresh Kind.memberName "prototype" 3 6 [],
      .fresh Kind.member "." 3 5 [some 23, some 24],
      .fresh Kind.memberName "norm" 3 16 [],
      .fresh Kind.member "." 3 15 [some 25, some 26],
      .fresh Kind.assign "=" 3 21 [some 27, some 11],
      .fresh Kind.text "Point" 4 0 [],
      .fresh Kind.memberName "prototype" 4 6 [],
      .fresh Kind.member "." 4 5 [some 29, some 30],
      .fresh Kind.memberName "scale" 4 16 [],
      .fresh Kind.member "." 4 15 [some 31, some 32],
      .fresh Kind.assign "=" 4 22 [some 33, some 16]] }
    22 (.fresh Kind.sourceFile "" 1 0 [some 3, some 28, some 34])

theorem tableFile_spans : ∃ all, Spans Cell.links tableFile [some 22] all ∧ all.Nodup :=
  Spans.exists_of_preorder tableFile.size (by decide)

theorem tableFileWrittenOut_spans :
    ∃ all, Spans Cell.links tableFileWrittenOut [some 22] all ∧ all.Nodup :=
  Spans.exists_of_preorder tableFileWrittenOut.size (by decide)

theorem tableFile_writesOut : tableFile.WritesOut tableFileWrittenOut 22 "Point"
    [⟨"norm", some 11, some 12⟩, ⟨"scale", some 16, some 16⟩] [some 3] [] 21 [28, 34] where
  size := by decide
  cells := by decide
  label := rfl
  children := rfl
  children_out := rfl
  table := ⟨rfl, ⟨some 6, some 20, rfl, rfl, rfl, rfl⟩, by decide⟩
  singles := .cons ⟨rfl, some 27, rfl, rfl⟩ (.cons ⟨rfl, some 33, rfl, rfl⟩ .nil)
  names := by decide
  first := by decide

theorem visit_writtenOut_tableFile :
    ∃ all all', tableFile.WritesOut tableFileWrittenOut 22 "Point"
        [⟨"norm", some 11, some 12⟩, ⟨"scale", some 16, some 16⟩] [some 3] [] 21 [28, 34] ∧
      tableFile.isContainer (some 22) = true ∧ Spans Cell.links tableFile [some 22] all ∧ all.Nodup ∧
      (∀ u ∈ all, none ∉ (tableFile.cell u).links) ∧
      Spans Cell.links tableFileWrittenOut [some 22] all' ∧ all'.Nodup ∧
      (∀ u ∈ all', none ∉ (tableFileWrittenOut.cell u).links) ∧
      ∃ t t' y y', (visit (some 22) none).run.run (tableFile, .start ⟨true, true⟩) = (.ok (), (t, y)) ∧
        (visit (some 22) none).run.run (tableFileWrittenOut, .start ⟨true, true⟩) =
          (.ok (), (t', y')) ∧
        y.classes = ["Point"] ∧ y'.classes = ["Point"] ∧ y.reporter.counts = y'.reporter.counts ∧
        t.alikeAcross t' (some 22) (some 22) = true := by
  obtain ⟨all, hspans, hn⟩ := tableFile_spans
  obtain ⟨all', hspans', hn'⟩ := tableFileWrittenOut_spans
  have hpresent : ∀ u < 23, none ∉ (tableFile.cell u).links := by decide
  have hpresent' : ∀ u < 35, none ∉ (tableFileWrittenOut.cell u).links := by decide
  have hb : tableFile.isContainer (some 22) = true := rfl
  have hx : (Converter.start ⟨true, true⟩).options.prototypeObjects = true := rfl
  obtain ⟨result, t, t', y, y', made, hrun, hrun', hclasses, hclasses', hcounts, halike⟩ :=
    visit_writtenOut tableFile_writesOut hb hspans hn
      (fun u hu => hpresent u (hspans.lt_size u hu)) hspans' hn'
      (fun u hu => hpresent' u (hspans'.lt_size u hu)) hx none
  have hresult : result = .ok () := (congrArg Prod.fst hrun).symm
  have hpoint : y.classes = ["Point"] := (congrArg (fun r => r.2.2.classes) hrun).symm
  obtain rfl : made = ["Point"] := hclasses.symm.trans hpoint
  rw [hresult] at hrun hrun'
  exact ⟨all, all', tableFile_writesOut, hb, hspans, hn,
    fun u hu => hpresent u (hspans.lt_size u hu), hspans', hn',
    fun u hu => hpresent' u (hspans'.lt_size u hu), t, t', y, y', hrun, hrun', hpoint, hclasses',
    hcounts, halike List.mem_cons_self⟩

end Conversion

end ClassLift
