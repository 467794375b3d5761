import ClassLift.Proofs.Class.Candidates
import ClassLift.Proofs.Class.Commit

set_option autoImplicit false

/-! # Detected candidates are ready

The candidates that the detection finds in a container can be committed there: the statements
that they name stand in the container, and what the class takes over is found below them
(`Emerges.ready`). A candidate stays ready when other statements are edited
(`Candidate.Ready.frame`).
-/

namespace ClassLift

open List

variable {s s' : Store} {options : Options} {block : TokenId} {slots statements : List Slot}
  {slot statement : Slot} {ids : List TokenId} {name : String}

/-! ## What is found below a statement -/

namespace Store

theorem within_shared {m : Method} (h : Within s slots [m.function]) :
    Within s slots (s.shared m) :=
  h.children.sub (List.drop_sublist 1 _).subperm

theorem within_shared_all {ms : List Method} (h : Within s slots (ms.map Method.function)) :
    Within s slots (ms.flatMap s.shared) := by
  refine h.trans ?_
  obtain ⟨found, hfound, -⟩ := h
  rw [List.map_eq_flatMap]
  refine Within.flatMap fun m hm => within_shared ?_
  exact .of_spans (hfound.spans_at (List.mem_map_of_mem hm)) (.refl _)

/-- The function of an entry of a method table is the entry or the value of the pair. -/
theorem within_entry {className : String} {m : TableEntry}
    (h : s.entryForm className slot = .ok (.method m)) (hspans : Spans Cell.children s [slot] ids) :
    Within s [slot] [m.function] := by
  obtain ⟨-, -, ⟨hf, -⟩ | ⟨-, key, hc⟩⟩ := entryForm_eq_method h
  · rw [hf]
    exact .of_spans hspans (.refl _)
  · have hchildren := (Within.of_spans hspans (.refl _)).children
    rw [hc] at hchildren
    exact hchildren.sub ((List.Sublist.refl [m.function]).cons key).subperm

theorem within_table {className : String} {entries : List Slot} {ms : List TableEntry}
    (h : s.tableEntries? className entries = .ok (some ms))
    (hspans : Spans Cell.children s entries ids) :
    Within s entries (ms.map TableEntry.function) := by
  induction entries generalizing ms ids with
  | nil =>
      cases h
      exact Within.nil
  | cons entry entries ih =>
      obtain ⟨first, rest, -, hfirst, hrest⟩ := hspans.of_cons
      obtain ⟨-, hothers⟩ | ⟨m, others, hform, hothers, rfl⟩ := tableEntries_cons_eq_some h
      · exact (ih hothers hrest).mono (List.sublist_cons_self entry entries).subperm
      · exact (within_entry hform hfirst).append (ih hothers hrest)

/-- The functions of the methods that a statement gives are found below it. -/
theorem within_methodsOf (hspans : Spans Cell.children s [slot] ids) :
    Within s [slot] ((s.methodsOf options (some block) slot).flatMap s.shared) := by
  by_cases hne : s.methodsOf options (some block) slot = []
  · rw [hne]
    exact Within.nil
  refine within_shared_all ?_
  have hchildren := (Within.of_spans hspans (.refl _)).children
  obtain ⟨-, target, value, hc, hms⟩ := methods_eq_some (exists_methods_of_ne_nil hne)
  rw [hc] at hchildren
  have hvalue : Within s [slot] [value] :=
    hchildren.sub ((List.Sublist.refl [value]).cons target).subperm
  rcases hms with ⟨owner, n, -, -, -, hms⟩ | ⟨owner, -, -, -, -, htable⟩
  · rw [hms]
    exact hvalue
  · obtain ⟨entries, hentries, -, hms⟩ := tableMethods_eq_some htable
    have hfunctions : (methodsOfTable slot (some block) entries).map Method.function =
        entries.map TableEntry.function := by
      cases entries with
      | nil => rfl
      | cons first others => simp [methodsOfTable]
    rw [hms, hfunctions]
    obtain ⟨found, hfound, -⟩ := hvalue.children
    exact hvalue.children.trans (within_table hentries hfound)

/-- The super class that a statement sets is found below it. -/
theorem within_superOf {base : TokenId} (h : s.superOf slot = some base)
    (hspans : Spans Cell.children s [slot] ids) : Within s [slot] [some base] := by
  have hself : Within s [slot] [slot] := .of_spans hspans (.refl _)
  have hlast : ∀ {x y : Slot}, Within s [slot] [x, y] → Within s [slot] [y] := fun {x y} h =>
    h.sub ((List.Sublist.refl [y]).cons x).subperm
  have hfirst : ∀ {x y : Slot}, Within s [slot] [x, y] → Within s [slot] [x] := fun {x y} h =>
    h.sub ((List.nil_sublist [y]).cons_cons x).subperm
  rcases superClass_eq_some (superOf_eq_some.mp h) with
    ⟨owner, hu⟩ | ⟨-, target, value, hc, hcreate | hnew⟩
  · obtain ⟨-, callee, list, o, hc, -, hargs, -⟩ := utilInherits_eq_some hu
    have hlist := hlast (hc ▸ hself.children)
    exact hlast (hargs ▸ hlist.children)
  · have hvalue := hlast (hc ▸ hself.children)
    obtain ⟨-, callee, list, argument, attr, hcall, -, hargs, hparts, -⟩ := objectCreate_eq_some hcreate
    have hlist := hlast (hcall ▸ hvalue.children)
    have hargument := hargs ▸ hlist.children
    exact hfirst ((memberParts_eq_some hparts).2 ▸ hargument.children)
  · have hvalue := hlast (hc ▸ hself.children)
    obtain ⟨-, -, target', hnew, htarget⟩ := instantiated_eq_some hnew
    have htarget' := hnew ▸ hvalue.children
    rcases htarget with hbase | ⟨list, -, hcall⟩
    · rw [hbase]
      exact htarget'
    · exact hfirst (hcall ▸ htarget'.children)

/-- The function that a statement declares can become a method. -/
theorem convertible_of_declaration {c : Candidate} {block : Slot}
    (h : s.declaration? block slot = .ok (some c)) :
    s.isConvertible c.builder.function = .ok true := by
  rcases declaration_eq_some_iff.mp h with hf | ⟨-, first, rest, -, hf⟩ |
    ⟨-, assignment, target, value, -, -, -, -, hv, heq⟩
  · rw [hf.eq]
    exact hf.convertible
  · rw [hf.eq]
    exact hf.convertible
  · rw [heq]
    exact hv

/-- The function that a statement declares is found below the place of the class. -/
theorem within_declaration {c : Candidate}
    (h : s.declaration? (some block) slot = .ok (some c))
    (hspans : Spans Cell.children s [slot] ids) :
    Within s [slot] [c.statement] ∧ Within s [c.statement] (s.shared c.builder) := by
  have hself : Within s [slot] [slot] := .of_spans hspans (.refl _)
  rcases declaration_eq_some_iff.mp h with hf | ⟨-, first, rest, hc, hf⟩ |
    ⟨-, assignment, target, value, hc, -, hparts, -, -, heq⟩
  · rw [hf.eq]
    exact ⟨hself, within_shared hself⟩
  · have hfirst : Within s [slot] [first] :=
      (hc ▸ hself.children).sub ((List.nil_sublist rest).cons_cons first).subperm
    rw [hf.eq]
    refine ⟨hfirst, within_shared ?_⟩
    obtain ⟨found, hfound, -⟩ := hfirst
    exact .of_spans hfound (.refl _)
  · rw [heq]
    refine ⟨hself, within_shared ?_⟩
    have hassignment := hc ▸ hself.children
    exact (hparts ▸ hassignment.children).sub ((List.Sublist.refl [value]).cons target).subperm

end Store

/-! ## From the detection to the commit -/

/-- The super class that the statements set for `name`. -/
def Store.superClassOf (s : Store) (name : String) (statements : List Slot) : Slot :=
  (s.owned name statements).findSome? s.superOf

/-- The methods that the statements give for `name`. -/
def Store.methodsFor (s : Store) (options : Options) (block : Slot) (name : String)
    (statements : List Slot) : List Method :=
  (s.owned name statements).flatMap (s.methodsOf options block)

/-- Does the statement go when `name` becomes a class? -/
def Store.goesWith (s : Store) (options : Options) (block : Slot) (name : String)
    (statements : List Slot) (statement : Slot) : Bool :=
  s.modifies name statement &&
    (!(s.methodsOf options block statement).isEmpty ||
      ((s.superClassOf name statements).isSome &&
        (s.resets name statement || s.inherits statement)))

variable {d d' : Draft}

/-- The parts of a candidate that emerged: those of the function declared, and what the
statements about its prototype add. -/
theorem Emerges.finish_eq (h : Emerges s options (some block) statements d d') :
    d'.finish = { d.candidate with
      superClass := s.superClassOf d.name statements
      methods := s.methodsFor options (some block) d.name statements
      inheritance := if (s.superClassOf d.name statements).isSome then
        ((s.owned d.name statements).filter fun st =>
          s.resets d.name st || s.inherits st).map (some block, ·) else [] } := by
  obtain ⟨-, hsuper, hrelated, hmethods, hnosuper, hnone⟩ := h.declared.start
  obtain ⟨hcandidate, hsuper', hrelated'⟩ := h.grown
  have hs : d'.superClass = s.superClassOf d.name statements := by
    rw [hsuper', hsuper]
    rfl
  unfold Draft.finish
  rw [hcandidate, hmethods]
  cases hclass : d'.superClass with
  | none =>
      rw [← hs, hclass]
      simp only [Option.isSome_none, Bool.false_eq_true, if_false]
      rw [← hnosuper, ← hnone]
      rfl
  | some base =>
      rw [← hs, hclass]
      simp only [Candidate.setSuperClass, Option.isSome_some, if_true]
      rw [hrelated', hrelated, hnone]
      rfl

/-- A statement that gives methods is the statement of the first of them, and of no other. -/
theorem Store.statements_of_methodsOf {t : TokenId} :
    (s.methodsOf options (some block) (some t)).filterMap Method.statement =
      if s.methodsOf options (some block) (some t) = [] then [] else [t] := by
  split
  · rename_i hnil
    rw [hnil]
    rfl
  · rename_i hne
    obtain ⟨-, target, value, -, hms⟩ := methods_eq_some (exists_methods_of_ne_nil hne)
    rcases hms with ⟨owner, n, -, -, -, hms⟩ | ⟨owner, -, -, -, -, htable⟩
    · rw [hms]
      rfl
    · obtain ⟨entries, -, hentries, hms⟩ := tableMethods_eq_some htable
      rw [hms]
      cases entries with
      | nil => exact absurd rfl hentries
      | cons first others =>
          have hothers : (others.map fun e : TableEntry =>
              (⟨e.name, e.function, none, [e.entry], some block, ""⟩ : Method)).filterMap
              Method.statement = [] := by
            rw [List.filterMap_map]
            exact List.filterMap_eq_nil_iff.mpr fun _ _ => rfl
          exact congrArg (t :: ·) hothers

/-- A method goes with the statement that gives it, or, after the first entry of a table, with none. -/
theorem Store.site_of_methodsOf {block : Slot} {m : Method}
    (h : m ∈ s.methodsOf options block slot) :
    m.parent = block ∧ (m.statement = slot ∨ m.statement = none) := by
  have hne : s.methodsOf options block slot ≠ [] := List.ne_nil_of_mem h
  obtain ⟨-, target, value, -, hms⟩ := methods_eq_some (exists_methods_of_ne_nil hne)
  rcases hms with ⟨owner, n, -, -, -, hms⟩ | ⟨owner, -, -, -, -, htable⟩
  · rw [hms, List.mem_singleton] at h
    rw [h]
    exact ⟨rfl, Or.inl rfl⟩
  · obtain ⟨entries, -, -, hms⟩ := tableMethods_eq_some htable
    rw [hms] at h
    cases entries with
    | nil => cases h
    | cons first others =>
        rcases List.mem_cons.mp h with rfl | h
        · exact ⟨rfl, Or.inl rfl⟩
        · obtain ⟨e, -, rfl⟩ := List.mem_map.mp h
          exact ⟨rfl, Or.inr rfl⟩

theorem map_filterMap_some {xs : List Slot} (h : none ∉ xs) : (xs.filterMap id).map some = xs := by
  induction xs with
  | nil => rfl
  | cons slot xs ih =>
      cases slot with
      | none => exact absurd List.mem_cons_self h
      | some t => exact congrArg (some t :: ·) (ih fun hmem => h (List.mem_cons_of_mem _ hmem))

theorem Store.statements_of_flatMap {xs : List Slot} (h : none ∉ xs) :
    ((xs.flatMap (s.methodsOf options (some block))).filterMap Method.statement).map some =
      xs.filter fun st => !(s.methodsOf options (some block) st).isEmpty := by
  induction xs with
  | nil => rfl
  | cons slot xs ih =>
      cases slot with
      | none => exact absurd List.mem_cons_self h
      | some t =>
          rw [List.flatMap_cons, List.filterMap_append, List.map_append,
            ih fun hmem => h (List.mem_cons_of_mem _ hmem), statements_of_methodsOf,
            List.filter_cons]
          cases s.methodsOf options (some block) (some t) <;> simp

/-- The statements that go with a candidate that emerged: those that set up its inheritance,
when it has a super class, and those that give methods. -/
theorem Emerges.removed_eq (h : Emerges s options (some block) statements d d')
    (hnone : none ∉ statements) :
    d'.finish.removed =
      (if (s.superClassOf d.name statements).isSome then
        (s.owned d.name statements).filter fun st => s.resets d.name st || s.inherits st else []) ++
      (s.owned d.name statements).filter fun st =>
        !(s.methodsOf options (some block) st).isEmpty := by
  have howned : none ∉ s.owned d.name statements := fun hmem =>
    hnone (List.mem_of_mem_filter hmem)
  rw [Candidate.removed, h.finish_eq]
  dsimp only
  rw [Store.methodsFor, Store.statements_of_flatMap howned]
  congr 1
  split
  · rw [List.filterMap_map]
    exact map_filterMap_some fun hmem => howned (List.mem_of_mem_filter hmem)
  · rfl

theorem Emerges.mem_removed (h : Emerges s options (some block) statements d d')
    (hnone : none ∉ statements) :
    slot ∈ d'.finish.removed ↔
      slot ∈ statements ∧ s.goesWith options (some block) d.name statements slot = true := by
  have howned : ∀ st, st ∈ s.owned d.name statements ↔
      st ∈ statements ∧ s.modifies d.name st = true := fun st => List.mem_filter
  rw [h.removed_eq hnone, List.mem_append]
  unfold Store.goesWith
  split <;> simp_all [List.mem_filter] <;> tauto

/-- What the class takes over is found below the statements that go. -/
theorem Emerges.within_taken (h : Emerges s options (some block) statements d d')
    (hnone : none ∉ statements) (hspans : Spans Cell.children s statements ids) :
    Within s d'.finish.removed (d'.finish.taken s) := by
  have hfound : ∀ st ∈ s.owned d.name statements,
      Spans Cell.children s [st] (Spans.at_ Cell.children s st) := fun st hst =>
    hspans.spans_at (List.mem_of_mem_filter hst)
  rw [h.removed_eq hnone, Candidate.taken, h.finish_eq]
  dsimp only
  refine Within.append ?_ ?_
  · cases hs : s.superClassOf d.name statements with
    | none => exact Within.nil
    | some base =>
        obtain ⟨st, hst, hbase⟩ := List.exists_of_findSome?_eq_some hs
        refine (Store.within_superOf hbase (hfound st hst)).mono ?_
        rw [if_pos Option.isSome_some, List.singleton_subperm_iff, List.mem_filter]
        refine ⟨hst, ?_⟩
        rw [Store.inherits, hbase]
        simp
  · rw [Store.methodsFor, List.flatMap_assoc]
    -- statements that give no method may stay; nothing is taken over from them
    have hfilter : ∀ xs : List Slot,
        (xs.flatMap fun st => (s.methodsOf options (some block) st).flatMap s.shared) =
          (xs.filter fun st => !(s.methodsOf options (some block) st).isEmpty).flatMap
            fun st => (s.methodsOf options (some block) st).flatMap s.shared := by
      intro xs
      induction xs with
      | nil => rfl
      | cons st xs ih =>
          rw [List.flatMap_cons, ih, List.filter_cons]
          by_cases hnil : s.methodsOf options (some block) st = [] <;> simp [hnil]
    rw [hfilter]
    conv => arg 2; rw [← List.flatMap_singleton' ((s.owned d.name statements).filter _)]
    exact Within.flatMap fun st hst =>
      Store.within_methodsOf (hfound st (List.mem_of_mem_filter hst))

/-- The function that a statement declares stands in the container, or in an export. -/
theorem Store.place_of_declaration {declaring : Slot} {c : Candidate}
    (hc : s.declaration? (some block) declaring = .ok (some c)) :
    c.statement.isSome = true ∧
      ((c.parent = some block ∧ c.statement = declaring ∧
          s.hasKind Kind.exportDecl declaring = false) ∨
        (c.parent = declaring ∧ s.hasKind Kind.exportDecl declaring = true ∧
          ∃ rest, s.children declaring = c.statement :: rest)) := by
  have notexport : ∀ {kind : Kind}, s.hasKind kind declaring = true → kind ≠ Kind.exportDecl →
      s.hasKind Kind.exportDecl declaring = false := by
    intro kind hk hne
    by_contra hexport
    exact hne (Store.hasKind_unique hk (by simpa using hexport))
  rcases Store.declaration_eq_some_iff.mp hc with hf | ⟨hkind, first, rest, hchildren, hf⟩ |
    ⟨hkind, a, t, v, -, -, -, -, -, heq⟩
  · obtain ⟨t, ht, -⟩ := Store.exists_token_of_hasKind hf.kind
    rw [hf.eq]
    exact ⟨by rw [Candidate.start, ht]; rfl, Or.inl ⟨rfl, rfl, notexport hf.kind (by decide)⟩⟩
  · obtain ⟨t, ht, -⟩ := Store.exists_token_of_hasKind hf.kind
    rw [hf.eq]
    exact ⟨by rw [Candidate.start, ht]; rfl, Or.inr ⟨rfl, hkind, rest, hchildren⟩⟩
  · obtain ⟨t, ht, -⟩ := Store.exists_token_of_hasKind hkind
    rw [heq]
    exact ⟨by rw [Candidate.start, ht]; rfl, Or.inl ⟨rfl, rfl, notexport hkind (by decide)⟩⟩

/-- No statement goes twice: one that sets up the inheritance gives no methods. -/
theorem Emerges.nodup_removed
    (h : Emerges s options (some block) (s.cell block).children d d')
    (hn : (s.cell block).children.Nodup) (hnone : none ∉ (s.cell block).children) :
    d'.finish.removed.Nodup := by
  rw [h.removed_eq hnone, List.nodup_append]
  have hn := hn.filter (s.modifies d.name)
  refine ⟨?_, hn.filter _, ?_⟩
  · split
    · exact hn.filter _
    · exact List.nodup_nil
  · rintro st hst _ hst' rfl
    have hmethods := (List.mem_filter.mp hst').2
    split at hst
    · have hrelated := (List.mem_filter.mp hst).2
      rcases Bool.or_eq_true_iff.mp hrelated with hr | hi
      · rw [Store.methodsOf_of_resets hr] at hmethods
        cases hmethods
      · rw [Store.methodsOf_of_inherits hi] at hmethods
        cases hmethods
    · cases hst

/-- A candidate that emerged from the statements of a container can be committed there. -/
theorem Emerges.ready
    (h : Emerges s options (some block) (s.cell block).children d d')
    (hspans : Spans Cell.children s (s.cell block).children ids) (hn : ids.Nodup)
    (hnone : none ∉ (s.cell block).children) :
    ∃ declaring, s.declaration? (some block) declaring = .ok (some d.candidate) ∧
      d'.finish.Ready s block declaring := by
  have hcur := hspans.nodup_roots hn hnone
  obtain ⟨before, declaring, after, c, hstatements, hc, hd, hothers⟩ := h.declared
  have hcandidate : d.candidate = c := by rw [hd]
  have hfinish := h.finish_eq
  have hstanding : declaring ∈ (s.cell block).children := by rw [hstatements]; simp
  have howned : ∀ st ∈ s.owned d.name (s.cell block).children,
      st ∈ (s.cell block).children ∧ s.modifies d.name st = true := fun st hst =>
    List.mem_filter.mp hst
  obtain ⟨hplace, hshared⟩ := Store.within_declaration hc (hspans.spans_at hstanding)
  obtain ⟨hpresent, hplaces⟩ := Store.place_of_declaration hc
  have hmethods : d'.finish.methods =
      s.methodsFor options (some block) d.name (s.cell block).children := by rw [hfinish]
  exact ⟨declaring, hcandidate ▸ hc, {
    standing := hstanding
    present := by
      rw [hfinish, hcandidate]
      exact hpresent
    place := by
      rw [hfinish, hcandidate]
      exact hplaces
    builder := by
      rw [hfinish, hcandidate]
      exact Store.convertible_of_declaration (c := c) hc
    methods := by
      intro m hm
      rw [hmethods] at hm
      obtain ⟨st, -, hm⟩ := List.mem_flatMap.mp hm
      exact Store.methods_convertible
        (Store.exists_methods_of_ne_nil (List.ne_nil_of_mem hm)) m hm
    inheritanceParents := by
      intro p hp
      rw [hfinish] at hp
      dsimp only at hp
      split at hp
      · obtain ⟨st, hst, rfl⟩ := List.mem_map.mp hp
        refine ⟨rfl, ?_⟩
        cases st with
        | none => exact absurd (howned none (List.mem_of_mem_filter hst)).1 hnone
        | some t => rfl
      · cases hp
    methodParents := by
      intro m hm
      rw [hmethods] at hm
      obtain ⟨st, -, hm⟩ := List.mem_flatMap.mp hm
      exact (Store.site_of_methodsOf hm).1
    removedOnce := h.nodup_removed hcur hnone
    removedStanding := fun st hst => ((h.mem_removed hnone).mp hst).1
    -- what goes modifies a prototype, and no declaration does
    declaringStays := fun hmem => by
      have hgoes := ((h.mem_removed hnone).mp hmem).2
      have hmodifies := (Bool.and_eq_true_iff.mp hgoes).1
      exact Store.modifies_of_declares (Store.declares_iff.mpr ⟨c, hc, rfl⟩) _ hmodifies
    ownFound := by
      rw [hfinish, hcandidate]
      exact hshared
    takenFound := h.within_taken hnone hspans }⟩

/-! ## Other edits -/

namespace Candidate

variable {c : Candidate} {declaring : Slot} {edited : TokenId → Prop}

/-- A function is no token of the given kinds. -/
theorem not_kind_of_isConvertible {kind : Kind} {f : TokenId}
    (h : s.isConvertible (some f) = .ok true) (hd : kind ≠ Kind.functionDecl)
    (ha : kind ≠ Kind.anonymousFunction) : ¬ s.hasKind kind (some f) = true := by
  intro hk
  rcases (Store.isConvertible_eq_true h).1 with hf | hf
  · exact hd (Store.hasKind_unique hk hf)
  · exact ha (Store.hasKind_unique hk hf)

/-- Where functions are not edited, the function of a method is not. -/
theorem function_lt (hfunction : ∀ f, s.isConvertible (some f) = .ok true → ¬ edited f)
    {m : Method} (hm : s.isConvertible m.function = .ok true) :
    ∀ f, m.function = some f → f < s.size ∧ ¬ edited f := by
  intro f hf
  obtain ⟨f', -, -, -, hf', hlt, -⟩ := Store.parts_of_isConvertible hm
  rw [hf] at hf'
  cases hf'
  exact ⟨hlt, hfunction f (hf ▸ hm)⟩

/-- The place of the class is found from the declaring statement. -/
theorem Ready.within_statement (h : c.Ready s block declaring)
    (hspans : Spans Cell.children s [declaring] ids) : Within s [declaring] [c.statement] := by
  have hself : Within s [declaring] [declaring] := .of_spans hspans (.refl _)
  rcases h.place with ⟨-, he, -⟩ | ⟨-, -, rest, hchildren⟩
  · rw [he]
    exact hself
  · exact (hchildren ▸ hself.children).sub ((List.nil_sublist rest).cons_cons _).subperm

/-- A candidate stays ready when neither functions nor what is found from its own statements
are edited. -/
theorem Ready.later (h : c.Ready s block declaring) (hframe : Frame s s' edited)
    (hspans : Spans Cell.children s (s.cell block).children ids)
    (hstanding : ∀ slot ∈ declaring :: c.removed, slot ∈ (s'.cell block).children)
    (hfunction : ∀ f, s.isConvertible (some f) = .ok true → ¬ edited f)
    (hapart : ∀ slot ∈ declaring :: c.removed, ∀ u ∈ Spans.at_ Cell.children s slot,
      ¬ edited u) : c.Ready s' block declaring := by
  have hdeclaring := hspans.spans_at h.standing
  have hfn := fun (m : Method) (hm : s.isConvertible m.function = .ok true) =>
    function_lt hfunction hm
  have hshared : ∀ m : Method, s.isConvertible m.function = .ok true → s'.shared m = s.shared m :=
    fun m hm => Method.shared_eq_of_frame hframe (hfn m hm)
  exact {
    h with
    standing := hstanding _ List.mem_cons_self
    place := by
      rcases h.place with ⟨hparent, hplain, hkind⟩ | ⟨hparent, hkind, rest, hchildren⟩
      · cases hd : declaring with
        | none => exact Or.inl ⟨hparent, hd ▸ hplain, rfl⟩
        | some e =>
            have hlt := (hd ▸ hdeclaring).of_singleton.1
            exact Or.inl ⟨hparent, hd ▸ hplain, by rw [hframe.hasKind _ hlt]; exact hd ▸ hkind⟩
      · obtain ⟨e, rfl, -⟩ := Store.exists_token_of_hasKind hkind
        have hlt := hdeclaring.of_singleton.1
        have he : ¬ edited e := hapart _ List.mem_cons_self e (hdeclaring.root_mem (by simp))
        refine Or.inr ⟨hparent, by rw [hframe.hasKind _ hlt]; exact hkind, rest, ?_⟩
        exact (hframe.children e hlt he).trans hchildren
    builder := hframe.isConvertible h.builder fun f hf => (hfn c.builder h.builder f hf).2
    methods := fun m hm =>
      hframe.isConvertible (h.methods m hm) fun f hf => (hfn m (h.methods m hm) f hf).2
    removedStanding := fun slot hslot => hstanding slot (List.mem_cons_of_mem _ hslot)
    ownFound := by
      rw [hshared c.builder h.builder]
      obtain ⟨found, hfound, hsub⟩ := h.within_statement hdeclaring
      refine h.ownFound.frame ⟨found, hfound⟩ hframe.size_le fun u hu => ?_
      rw [← hfound.eq_flatMap] at hu
      rw [List.flatMap_singleton] at hsub
      exact hframe.children u (hfound.lt_size u hu)
        (hapart _ List.mem_cons_self u (hsub.subset hu))
    takenFound := by
      have htaken : c.taken s' = c.taken s := by
        unfold taken
        rw [List.flatMap_congr fun m hm => hshared m (h.methods m hm)]
      rw [htaken]
      obtain ⟨found, hfound, -⟩ := hspans.subperm
        (List.subperm_of_subset h.removedOnce fun slot hslot => h.removedStanding slot hslot)
      refine h.takenFound.frame ⟨found, hfound⟩ hframe.size_le fun u hu => ?_
      obtain ⟨slot, hslot, hu⟩ := List.mem_flatMap.mp hu
      have hlt := hfound.lt_size u (hfound.mem_of_mem_at hslot hu)
      exact hframe.children u hlt (hapart slot (List.mem_cons_of_mem _ hslot) u hu) }

end Candidate

end ClassLift
