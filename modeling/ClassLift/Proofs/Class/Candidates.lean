import ClassLift.Proofs.Class.Decision

set_option autoImplicit false

/-! # The candidates of a block

What the detection gives, put together from the declarations and the examination:
`detect_gives` says when it succeeds, and with which candidates. A candidate emerges from the
draft of a function that is declared once (`Emerges`); it can be made a class if and only if
the function of its name becomes one (`Candidates.transformable_iff`).
-/

namespace ClassLift

variable {s : Store} {options : Options} {block : Slot} {statements : List Slot} {name : String}
  {d d' : Draft} {c : Candidate} {candidates : List Candidate}

/-! ## Counting declarations -/

/-- Where one element of a list passes the test, no other element does. -/
theorem eq_of_countP_eq_one {α : Type} {p : α → Bool} {xs : List α} {x y : α}
    (h : xs.countP p = 1) (hx : x ∈ xs) (hy : y ∈ xs) (hpx : p x = true) (hpy : p y = true) :
    x = y := by
  obtain ⟨before, after, rfl⟩ := List.append_of_mem hx
  rw [List.countP_append, List.countP_cons_of_pos hpx] at h
  have hbefore := List.countP_eq_zero.mp (by omega : before.countP p = 0)
  have hafter := List.countP_eq_zero.mp (by omega : after.countP p = 0)
  rcases List.mem_append.mp hy with hy | hy
  · exact absurd hpy (hbefore y hy)
  · rcases List.mem_cons.mp hy with rfl | hy
    · rfl
    · exact absurd hpy (hafter y hy)

/-- A function that becomes a class is declared by one statement only. -/
theorem Converts.declared_unique {st st' : Slot} {c' : Candidate}
    (h : Converts s options block name) (hst : st ∈ s.children block) (hst' : st' ∈ s.children block)
    (hc : s.declaration? block st = .ok (some c)) (hc' : s.declaration? block st' = .ok (some c'))
    (hname : c.name = name) (hname' : c'.name = name) : st = st' ∧ c = c' := by
  obtain rfl : st = st' := eq_of_countP_eq_one h.declaredOnce hst hst'
    (Store.declares_iff.mpr ⟨c, hc, hname⟩) (Store.declares_iff.mpr ⟨c', hc', hname'⟩)
  rw [hc] at hc'
  exact ⟨rfl, Option.some.inj (Except.ok.inj hc')⟩

/-- A function is declared once if and only if exactly one statement declares it. -/
theorem exists_declaredOnce_iff :
    (∃ d, DeclaredOnce s block 0 statements d ∧ d.name = name) ↔
      statements.countP (s.declares block name) = 1 := by
  constructor
  · rintro ⟨d, ⟨before, st, after, c, rfl, hc, rfl, hothers⟩, rfl⟩
    have hst : s.declares block c.name st = true := Store.declares_iff.mpr ⟨c, hc, rfl⟩
    have hbefore : before.countP (s.declares block c.name) = 0 :=
      List.countP_eq_zero.mpr fun u hu => hothers u (by simp [hu])
    have hafter : after.countP (s.declares block c.name) = 0 :=
      List.countP_eq_zero.mpr fun u hu => hothers u (by simp [hu])
    show (before ++ st :: after).countP (s.declares block c.name) = 1
    rw [List.countP_append, List.countP_cons_of_pos hst, hbefore, hafter]
  · intro h
    obtain ⟨st, hmem, hst⟩ := List.countP_pos_iff.mp (by omega : 0 <
      statements.countP (s.declares block name))
    obtain ⟨before, after, rfl⟩ := List.append_of_mem hmem
    rw [List.countP_append, List.countP_cons_of_pos hst] at h
    have hbefore := List.countP_eq_zero.mp (by omega : before.countP (s.declares block name) = 0)
    have hafter := List.countP_eq_zero.mp (by omega : after.countP (s.declares block name) = 0)
    obtain ⟨c, hc, rfl⟩ := Store.declares_iff.mp hst
    refine ⟨⟨c, 0 + before.length, false, none, []⟩, ⟨before, st, after, c, rfl, hc, rfl, ?_⟩, rfl⟩
    intro u hu
    exact (List.mem_append.mp hu).elim (hbefore u) (hafter u)

theorem DeclaredOnce.unique (h : DeclaredOnce s block 0 statements d)
    (h' : DeclaredOnce s block 0 statements d') (hn : d.name = d'.name) : d = d' := by
  obtain ⟨before, st, after, c, hs, hc, rfl, hothers⟩ := h
  obtain ⟨before', st', after', c', hs', hc', rfl, hothers'⟩ := h'
  have hn : c.name = c'.name := hn
  have hst : s.declares block c'.name st = true := Store.declares_iff.mpr ⟨c, hc, hn⟩
  have hst' : s.declares block c.name st' = true := Store.declares_iff.mpr ⟨c', hc', hn.symm⟩
  -- the declaring statement of the one is not beside that of the other
  rw [hs] at hs'
  rcases List.append_eq_append_iff.mp hs' with ⟨rest, rfl, hr⟩ | ⟨rest, rfl, hr⟩
  · cases rest with
    | nil => cases hr; rw [hc] at hc'; cases hc'; simp
    | cons u rest =>
        cases hr
        exact absurd hst (hothers' _ (by simp))
  · cases rest with
    | nil => cases hr; rw [hc] at hc'; cases hc'; simp
    | cons u rest =>
        cases hr
        exact absurd hst' (hothers _ (by simp))

/-! ## Emerging candidates -/

/-- Of the draft `d` of a function that is declared once, the statements leave `d'`. -/
structure Emerges (s : Store) (options : Options) (block : Slot) (statements : List Slot)
    (d d' : Draft) : Prop where
  declared : DeclaredOnce s block 0 statements d
  first : statements.Pairwise fun st later =>
    s.modifies d.name st = true → ¬ s.declares block d.name later = true
  accepted : d.Accepts s options block (s.changes d.name statements)
  grown : d.GrowsTo s options block (s.owned d.name statements) d'

theorem Emerges.name_eq (h : Emerges s options block statements d d') : d'.name = d.name := by
  rw [Draft.name, h.grown.candidate]
  rfl

theorem DeclaredOnce.start (h : DeclaredOnce s block 0 statements d) :
    d.touched = false ∧ d.superClass = none ∧ d.related = [] ∧ d.candidate.methods = [] ∧
      d.candidate.superClass = none ∧ d.candidate.inheritance = [] := by
  obtain ⟨before, st, after, c, rfl, hc, rfl, -⟩ := h
  obtain ⟨hmethods, hsuper, hinheritance⟩ := Store.start_of_declaration hc
  exact ⟨rfl, rfl, rfl, hmethods, hsuper, hinheritance⟩

/-- What emerges can be made a class if and only if a statement sets a super class or gives
methods. -/
theorem Emerges.transformable_iff (h : Emerges s options block statements d d') :
    d'.finish.isTransformable = true ↔ ∃ st ∈ s.changes d.name statements,
      s.inherits st = true ∨ s.methodsOf options block st ≠ [] := by
  obtain ⟨-, hsuper, -, hmethods, hnone, -⟩ := h.declared.start
  have hd' : d'.candidate.methods =
      (s.owned d.name statements).flatMap (s.methodsOf options block) := by
    rw [h.grown.candidate, hmethods]
    rfl
  have hd's : d'.candidate.superClass = none := by rw [h.grown.candidate]; exact hnone
  have hs : d'.superClass = (s.owned d.name statements).findSome? s.superOf := by
    rw [h.grown.superClass, hsuper]
    rfl
  -- the draft started without methods and super class, so it has what the statements gave
  have hfinish : d'.finish.isTransformable = true ↔
      d'.candidate.methods ≠ [] ∨ d'.superClass.isSome = true := by
    unfold Draft.finish Candidate.isTransformable
    split
    · rename_i hn
      simp [hd's, hn]
    · simp [Candidate.setSuperClass]
  rw [hfinish, hd', hs, Ne, List.flatMap_eq_nil_iff]
  constructor
  · rintro (hm | hi)
    -- a statement that gives something does not reset the constructor, so it is a change
    · obtain ⟨st, hst, hne⟩ : ∃ st ∈ s.owned d.name statements, s.methodsOf options block st ≠ [] := by
        by_contra hn
        exact hm fun st hst => by_contra fun hne => hn ⟨st, hst, hne⟩
      refine ⟨st, List.mem_filter.mpr ⟨hst, ?_⟩, Or.inr hne⟩
      cases hr : s.resets d.name st with
      | false => rfl
      | true => exact absurd (Store.methodsOf_of_resets hr) hne
    · obtain ⟨st, hst, hi⟩ := List.findSome?_isSome_iff.mp hi
      refine ⟨st, List.mem_filter.mpr ⟨hst, ?_⟩, Or.inl hi⟩
      cases hr : s.resets d.name st with
      | false => rfl
      | true =>
          rw [Store.superOf_of_resets hr] at hi
          cases hi
  · rintro ⟨st, hst, hi | hne⟩
    · exact Or.inr (List.findSome?_isSome_iff.mpr ⟨st, (List.mem_filter.mp hst).1, hi⟩)
    · exact Or.inl fun hall => hne (hall st (List.mem_filter.mp hst).1)

/-! ## The candidates together -/

/-- The given candidates are those that emerge from the statements, and every statement that was
looked at is understood. -/
structure Candidates (s : Store) (options : Options) (block : Slot) (statements : List Slot)
    (candidates : List Candidate) : Prop where
  declarations : ∀ st ∈ statements, ∃ o, s.declaration? block st = .ok o
  owners : (∃ d, DeclaredOnce s block 0 statements d) →
    ∀ st ∈ statements, ∃ o, s.prototypeOwner? st = .ok o
  followed : ∀ d, DeclaredOnce s block 0 statements d →
    ∃ o, d.follow s options block 0 statements = .ok o
  distinct : (candidates.map Candidate.name).Nodup
  emerge : ∀ c ∈ candidates, ∃ d d', Emerges s options block statements d d' ∧ d'.finish = c
  complete : ∀ d, DeclaredOnce s block 0 statements d →
    (statements.Pairwise fun st later =>
      s.modifies d.name st = true → ¬ s.declares block d.name later = true) →
    d.Accepts s options block (s.changes d.name statements) →
    ∃ d', Emerges s options block statements d d' ∧ d'.finish ∈ candidates

theorem Draft.name_finish (d : Draft) : d.finish.name = d.name := by
  unfold Draft.finish
  split <;> rfl

theorem filterMap_map_sublist {α β γ : Type} (f : α → Option β) (g : α → γ) (xs : List α) :
    (xs.filterMap fun x => (f x).map fun _ => g x).Sublist (xs.map g) := by
  induction xs with
  | nil => simp
  | cons x xs ih =>
      rw [List.filterMap_cons, List.map_cons]
      cases f x with
      | none => exact ih.cons _
      | some y => exact ih.cons_cons _

theorem candidates_of_follow {found : List Draft} (hf : Finds s block 0 [] [] statements found)
    (declarations : ∀ st ∈ statements, ∃ o, s.declaration? block st = .ok o)
    (owners : found ≠ [] → ∀ st ∈ statements, ∃ o, s.prototypeOwner? st = .ok o)
    (followed : ∀ d ∈ found, ∃ o, d.follow s options block 0 statements = .ok o) :
    Candidates s options block statements
      ((found.filterMap (Draft.survivor s options block 0 statements)).map Draft.finish) := by
  have once : ∀ d, d ∈ found ↔ DeclaredOnce s block 0 statements d := by
    intro d
    rw [hf.mem_iff]
    simp
  have left : ∀ d ∈ found, ∀ d', Draft.survivor s options block 0 statements d = some d' →
      Emerges s options block statements d d' := by
    intro d hd d' hs
    obtain ⟨o, ho⟩ := followed d hd
    rw [Draft.survivor, ho] at hs
    subst hs
    obtain ⟨haccept, hgrow⟩ := Draft.follow_declared ((once d).mp hd) ho
    obtain ⟨hfirst, haccept⟩ := haccept.mp rfl
    exact ⟨(once d).mp hd, hfirst, haccept, hgrow d' rfl⟩
  refine ⟨declarations, ?_, fun d hd => followed d ((once d).mpr hd), ?_, ?_, ?_⟩
  · rintro ⟨d, hd⟩
    exact owners (List.ne_nil_of_mem ((once d).mpr hd))
  · rw [List.map_map, List.map_filterMap]
    -- the names of those left are among the names of those found
    have hsub : (found.filterMap fun d => (Draft.survivor s options block 0 statements d).map
        (Candidate.name ∘ Draft.finish)).Sublist (found.map Draft.name) := by
      have hnames : ∀ d ∈ found, (Draft.survivor s options block 0 statements d).map
          (Candidate.name ∘ Draft.finish) =
          (Draft.survivor s options block 0 statements d).map fun _ => d.name := by
        intro d hd
        cases hs : Draft.survivor s options block 0 statements d with
        | none => rfl
        | some d' =>
            rw [Option.map_some, Option.map_some, Function.comp, Draft.name_finish,
              (left d hd d' hs).name_eq]
      rw [List.filterMap_congr hnames]
      exact filterMap_map_sublist _ _ _
    exact hf.distinct.sublist hsub
  · intro c hc
    obtain ⟨d', hd', rfl⟩ := List.mem_map.mp hc
    obtain ⟨d, hd, hs⟩ := List.mem_filterMap.mp hd'
    exact ⟨d, d', left d hd d' hs, rfl⟩
  · intro d hd hfirst haccept
    have hmem := (once d).mpr hd
    obtain ⟨o, ho⟩ := followed d hmem
    have hsome := (Draft.follow_declared hd ho).1.mpr ⟨hfirst, haccept⟩
    obtain ⟨d', rfl⟩ := Option.isSome_iff_exists.mp hsome
    have hs : Draft.survivor s options block 0 statements d = some d' := by
      rw [Draft.survivor, ho]
    exact ⟨d', left d hmem d' hs, List.mem_map_of_mem (List.mem_filterMap.mpr ⟨d, hmem, hs⟩)⟩

/-- The name of a candidate that can be made a class is that of a function that becomes
one. -/
theorem Candidates.transformable_iff (h : Candidates s options block (s.children block) candidates) :
    name ∈ (candidates.filter Candidate.isTransformable).map Candidate.name ↔
      Converts s options block name := by
  constructor
  · intro hn
    obtain ⟨c, hc, rfl⟩ := List.mem_map.mp hn
    obtain ⟨hc, ht⟩ := List.mem_filter.mp hc
    obtain ⟨d, d', he, rfl⟩ := h.emerge c hc
    have hname : d'.finish.name = d.name := by rw [Draft.name_finish, he.name_eq]
    obtain ⟨htouched, hsuper, -⟩ := he.declared.start
    -- nothing is asked of a draft that has just started but what the conditions say
    have accepted := he.accepted
    rw [hname]
    refine ⟨?_, he.first, ?_, ?_, accepted.allowed, ?_, he.transformable_iff.mp ht⟩
    · exact exists_declaredOnce_iff.mp ⟨d, he.declared, rfl⟩
    · simpa [htouched] using accepted.replaced
    · simpa [hsuper] using accepted.once
    · intro st hst hr
      rcases accepted.known htouched st hst hr with hi | hne
      · exact Or.inl hi
      · have howned := (List.mem_filter.mp (List.mem_of_mem_head? hst)).1
        exact Or.inr ((Store.methodsOf_ne_nil_iff_of_replaces (List.mem_filter.mp howned).2 hr).mp hne)
  · intro hc
    obtain ⟨d, hd, rfl⟩ := exists_declaredOnce_iff.mpr hc.declaredOnce
    obtain ⟨htouched, hsuper, -⟩ := hd.start
    -- the same conditions, read the other way
    have accepted : d.Accepts s options block (s.changes d.name (s.children block)) := by
      refine ⟨?_, ?_, hc.inheritanceAllowed, ?_⟩
      · simpa [htouched] using hc.replacedFirst
      · simpa [hsuper] using hc.inheritsOnce
      · intro _ st hst hr
        rcases hc.replacementKnown st hst hr with hi | htable
        · exact Or.inl hi
        · have howned := (List.mem_filter.mp (List.mem_of_mem_head? hst)).1
          exact Or.inr ((Store.methodsOf_ne_nil_iff_of_replaces
            (List.mem_filter.mp howned).2 hr).mpr htable)
    obtain ⟨d', he, hmem⟩ := h.complete d hd hc.declaredFirst accepted
    have ht := he.transformable_iff.mpr hc.productive
    rw [← he.name_eq, ← Draft.name_finish]
    exact List.mem_map_of_mem (List.mem_filter.mpr ⟨hmem, ht⟩)

/-! ## The detection -/

/-- The detection stops with a fault of a statement: of one that is no declaration, or, when
functions are declared once, of one that is about no prototype, or of one that is about the
prototype of such a function. -/
inductive DetectionFault (s : Store) (options : Options) (block : Slot) (statements : List Slot)
    (fault : Fault) : Prop where
  | declaration (st : Slot) (mem : st ∈ statements) (h : s.declaration? block st = .error fault)
  | owner (d : Draft) (declared : DeclaredOnce s block 0 statements d) (st : Slot)
      (mem : st ∈ statements) (h : s.prototypeOwner? st = .error fault)
  | draft (d : Draft) (declared : DeclaredOnce s block 0 statements d)
      (h : d.follow s options block 0 statements = .error fault)

/-- The detection finds all candidates, or stops with the fault of a statement. -/
theorem detect_gives (s : Store) (options : Options) (block : Slot) :
    (∃ candidates, (detect s options block).Gives (.ok candidates) ∧
        Candidates s options block (s.children block) candidates) ∨
      ∃ fault, (detect s options block).Gives (.error fault) ∧
        DetectionFault s options block (s.children block) fault := by
  unfold detect
  have hfinds : FindsAll s block 0 [] [] (s.children block)
      (declarations s block 0 [] [] (s.children block)) := declarations_findsAll (by simp)
  rcases hfinds with
    ⟨understood, found, hf, gives⟩ | ⟨fault, ⟨st, hst, h⟩, gives⟩
  case inr => exact Or.inr ⟨fault, .bind_error gives, .declaration st hst h⟩
  -- without a declaration the statements are not examined
  by_cases hempty : found.isEmpty = true
  · left
    have hnil := List.isEmpty_iff.mp hempty
    subst hnil
    refine ⟨[], .bind gives (.pure _), ?_⟩
    exact candidates_of_follow hf understood (fun hne => absurd rfl hne) (by simp)
  · have once : ∀ d ∈ found, DeclaredOnce s block 0 (s.children block) d := by
      intro d hd
      simpa using (hf.mem_iff d).mp hd
    have hexamines : Examines s options block 0 found (s.children block)
        (examine s options block 0 found (s.children block)) := examine_examines hf.distinct
    rcases hexamines with
      ⟨owners, followed, examined⟩ | ⟨fault, origin, examined⟩
    · left
      refine ⟨_, .bind gives ?_, candidates_of_follow hf understood (fun _ => owners) followed⟩
      rw [if_neg hempty]
      exact .bind examined (.pure _)
    · right
      refine ⟨fault, .bind gives ?_, ?_⟩
      · rw [if_neg hempty]
        exact .bind_error examined
      · rcases origin with ⟨st, hst, h⟩ | ⟨d, hd, h⟩
        -- the owner of a prototype is asked for because some draft is there
        · obtain ⟨d, hd⟩ := List.exists_mem_of_ne_nil found fun hnil => hempty (hnil ▸ rfl)
          exact .owner d (once d hd) st hst h
        · exact .draft d (once d hd) h

/-- The candidates with which a detection ends. It would end with them whatever was noticed
before. -/
theorem candidates_of_detect {s : Store} {options : Options} {block : Slot} {ns : List Notice}
    {candidates : List Candidate} (h : ((detect s options block).run.run ns).1 = .ok candidates) :
    (detect s options block).Gives (.ok candidates) ∧
      Candidates s options block (s.children block) candidates := by
  rcases detect_gives s options block with ⟨found, gives, hfound⟩ | ⟨fault, gives, -⟩
  · obtain rfl : found = candidates := Except.ok.inj ((gives ns).symm.trans h)
    exact ⟨gives, hfound⟩
  · cases (gives ns).symm.trans h

end ClassLift
