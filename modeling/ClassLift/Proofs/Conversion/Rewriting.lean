import ClassLift.Proofs.Class.Progress
import ClassLift.Proofs.Class.Quiet

set_option autoImplicit false

/-! # What a visit makes of a container

The visit of a container commits its candidates one after the other, and each commit searches
and splices the list of statements that the ones before it left. In the end all this comes to
one pass over the old statements (`Store.replacement`): a declaration of a function that became
a class gives way to the class, or the class takes its place in the export; the statements that
go with the class go; every other statement stays (`visit_rewrites`).
-/

namespace ClassLift

open List

/-- What becomes of a statement of a container, when the functions of the given names become
the given classes. -/
def Store.replacement (s : Store) (options : Options) (block : Slot)
    (classes : List (String × TokenId)) (slot : Slot) : List Slot :=
  match classes.find? fun p => s.declares block p.1 slot with
  | some p => [if s.hasKind Kind.exportDecl slot = true then slot else some p.2]
  | none =>
    if classes.any fun p => s.goesWith options block p.1 (s.children block) slot then []
    else [slot]

/-- The class `p.2` of the later store is that of the function `p.1`: a statement of the
container declares it, and the class has the super class and the methods that the statements
about its prototype give. -/
def Store.IsClassOf (s s' : Store) (options : Options) (block : Slot) (p : String × TokenId) :
    Prop :=
  ∃ declaring ∈ s.children block, ∃ c, s.declaration? block declaring = .ok (some c) ∧
    c.name = p.1 ∧
    Candidate.Declared
      { c with
        superClass := s.superClassOf p.1 (s.children block)
        methods := s.methodsFor options block p.1 (s.children block) } s s' p.2

/-- The later store is the earlier one in which the functions of a container became classes. -/
structure Rewrites (s s' : Store) (options : Options) (block : TokenId)
    (classes : List (String × TokenId)) : Prop where
  distinct : (classes.map Prod.fst).Nodup
  /-- The statements of the container, in one pass. -/
  children : (s'.cell block).children =
    (s.cell block).children.flatMap (s.replacement options (some block) classes)
  /-- An export of a function that became a class has the class as its first child. -/
  exported : ∀ p ∈ classes, ∀ e, some e ∈ (s.cell block).children →
    s.hasKind Kind.exportDecl (some e) = true → s.declares (some block) p.1 (some e) = true →
    (s'.cell e).children = (s.cell e).children.set 0 (some p.2)
  declared : ∀ p ∈ classes, s.IsClassOf s' options (some block) p
  /-- Otherwise only super calls in the constructors are changed. -/
  frame : Frame s s' fun u => ∃ p ∈ classes, ∃ declaring ∈ (s.cell block).children,
    s.declares (some block) p.1 declaring = true ∧ Candidate.Edits s block declaring u

variable {s s' : Store} {options : Options} {block : TokenId} {ids : List TokenId}
  {candidates : List Candidate} {slot : Slot} {made : List Made} {name : String}

/-! ## From candidates to names -/

/-- The name of the class that was made, with its token. -/
def Made.named (m : Made) : String × TokenId := (m.candidate.name, m.token)

/-- A candidate that was committed is one that emerged from the statements. -/
def Made.Emerged (s : Store) (options : Options) (block : TokenId) (m : Candidate × Slot) : Prop :=
  ∃ d d', Emerges s options (some block) (s.cell block).children d d' ∧ d'.finish = m.1 ∧
    s.declaration? (some block) m.2 = .ok (some d.candidate) ∧ m.1.Ready s block m.2

variable {m m' : Candidate × Slot}

theorem Made.Emerged.name_eq {d d' : Draft}
    (h : Emerges s options (some block) (s.cell block).children d d') :
    d'.finish.name = d.name := by
  rw [Draft.name_finish, h.name_eq]

/-- Of the statements, only the declaring one declares the candidate. -/
theorem Made.Emerged.declares_iff (h : Made.Emerged s options block m)
    (hslot : slot ∈ (s.cell block).children) :
    s.declares (some block) m.1.name slot = true ↔ m.2 = slot := by
  obtain ⟨d, d', he, hfinish, hdeclaration, hready⟩ := h
  rw [← hfinish, name_eq he]
  have hdeclares : s.declares (some block) d.name m.2 = true :=
    Store.declares_iff.mpr ⟨d.candidate, hdeclaration, rfl⟩
  constructor
  · intro hd
    have hcount := exists_declaredOnce_iff.mp ⟨d, he.declared, rfl⟩
    exact eq_of_countP_eq_one hcount hready.standing hslot hdeclares hd
  · rintro rfl
    exact hdeclares

theorem Made.Emerged.mem_removed_iff (h : Made.Emerged s options block m)
    (hnone : none ∉ (s.cell block).children) (hslot : slot ∈ (s.cell block).children) :
    slot ∈ m.1.removed ↔
      s.goesWith options (some block) m.1.name (s.cell block).children slot = true := by
  obtain ⟨d, d', he, hfinish, -, -⟩ := h
  rw [← hfinish, name_eq he, he.mem_removed hnone]
  exact ⟨And.right, fun hgoes => ⟨hslot, hgoes⟩⟩

theorem Made.Emerged.apart (h : Made.Emerged s options block m) (h' : Made.Emerged s options block m')
    (hnone : none ∉ (s.cell block).children) (hne : m.1.name ≠ m'.1.name) :
    m.1.Apart m.2 m'.1 m'.2 := by
  have hmodifies : ∀ {m : Candidate × Slot}, Made.Emerged s options block m → ∀ slot ∈ m.1.removed,
      s.modifies m.1.name slot = true ∧ slot ∈ (s.cell block).children := by
    intro m hm slot hslot
    obtain ⟨d, d', he, hfinish, -, -⟩ := hm
    rw [← hfinish] at hslot ⊢
    obtain ⟨hmem, hgoes⟩ := (he.mem_removed hnone).mp hslot
    rw [name_eq he]
    exact ⟨(Bool.and_eq_true_iff.mp hgoes).1, hmem⟩
  have hdeclares : ∀ {m : Candidate × Slot}, Made.Emerged s options block m →
      s.declares (some block) m.1.name m.2 = true := by
    intro m hm
    have hm' := hm
    obtain ⟨-, -, -, -, -, hready⟩ := hm'
    exact (hm.declares_iff hready.standing).mpr rfl
  refine ⟨fun he => hne ?_, fun hmem => ?_, fun hmem => ?_, fun slot hslot hslot' => hne ?_⟩
  · have hfirst := hdeclares h
    rw [he] at hfirst
    exact Store.declares_unique hfirst (hdeclares h')
  · exact Store.modifies_of_declares (hdeclares h) _ (hmodifies h' _ hmem).1
  · exact Store.modifies_of_declares (hdeclares h') _ (hmodifies h _ hmem).1
  · exact Store.modifies_unique (hmodifies h slot hslot).1 (hmodifies h' slot hslot').1

theorem find?_congr {α : Type} {p q : α → Bool} {xs : List α} (h : ∀ x ∈ xs, p x = q x) :
    xs.find? p = xs.find? q := by
  induction xs with
  | nil => rfl
  | cons x xs ih =>
      rw [List.find?_cons, List.find?_cons, h x (by simp), ih fun y hy => h y (by simp [hy])]

/-- What became of a statement of the container, in terms of the names of the classes. -/
theorem Made.replace_eq (hc : Container s block ids)
    (hmade : ∀ m ∈ made, Made.Emerged s options block m.entry)
    (hslot : slot ∈ (s.cell block).children) :
    Made.replace made slot = s.replacement options (some block) (made.map Made.named) slot := by
  -- a candidate is told by its declaring statement, a class by its name: of one container, the
  -- two come to the same
  have hfind : ((made.map Made.named).find? fun p => s.declares (some block) p.1 slot) =
      (made.find? fun m => m.declaring = slot).map Made.named := by
    rw [List.find?_map]
    congr 1
    refine find?_congr fun m hm => ?_
    have hiff := (hmade m hm).declares_iff hslot
    show s.declares (some block) m.candidate.name slot = decide (m.declaring = slot)
    rw [Bool.eq_iff_iff, decide_eq_true_iff]
    exact hiff
  have hany : ((made.map Made.named).any fun p =>
      s.goesWith options (some block) p.1 (s.children (some block)) slot) =
      made.any fun m => slot ∈ m.candidate.removed := by
    rw [List.any_map, Bool.eq_iff_iff, List.any_eq_true, List.any_eq_true]
    refine exists_congr fun m => and_congr_right fun hm => ?_
    rw [decide_eq_true_iff]
    exact ((hmade m hm).mem_removed_iff hc.present hslot).symm
  unfold replace Store.replacement
  rw [hfind, hany]
  cases hm : made.find? fun m => m.declaring = slot with
  | none => rfl
  | some m =>
      have hdeclaring : m.declaring = slot := by simpa using List.find?_some hm
      obtain ⟨-, -, -, -, -, hready⟩ := hmade m (List.mem_of_find?_eq_some hm)
      subst hdeclaring
      obtain ⟨decl, gone, stay, own, taken, hf⟩ :=
        hready.footprint hc.found hc.nodup hc.present hc.lt
      exact congrArg (fun slot => [slot]) (hf.successor_eq hready m.token)

/-- The store after the commits of all candidates of a container. -/
theorem Progress.rewrites (hc : Container s block ids) (hp : Progress s s' block ids made)
    (hmade : ∀ m ∈ made, Made.Emerged s options block m.entry)
    (hnames : (made.map fun m => m.candidate.name).Nodup) :
    Rewrites s s' options block (made.map Made.named) where
  distinct := by
    rw [List.map_map]
    exact hnames
  children := by
    rw [hp.children]
    exact List.flatMap_congr fun slot hslot => Made.replace_eq hc hmade hslot
  exported := by
    intro p hpm e he hkind hdeclares
    obtain ⟨m, hm, rfl⟩ := List.mem_map.mp hpm
    have hdeclaring : m.declaring = some e := ((hmade m hm).declares_iff he).mp hdeclares
    obtain ⟨-, -, -, -, -, hready⟩ := hmade m hm
    refine hp.exported m hm e hdeclaring fun hstatement => ?_
    rcases hready.place with ⟨-, -, hno⟩ | ⟨-, -, rest, hchildren⟩
    · have hno : s.hasKind Kind.exportDecl m.declaring = false := hno
      rw [hdeclaring, hkind] at hno
      cases hno
    · obtain ⟨decl, gone, stay, own, taken, hf⟩ :=
        hready.footprint hc.found hc.nodup hc.present hc.lt
      have hsuccessor := hf.successor_eq hready s.size
      have hkind' : s.hasKind Kind.exportDecl m.entry.2 = true := by
        rw [show m.entry.2 = some e from hdeclaring]
        exact hkind
      rw [if_pos hkind', Candidate.successor,
        if_pos (show m.entry.1.statement = m.entry.2 from hstatement)] at hsuccessor
      -- were the export itself the function, a token out of bounds could be its successor
      have hmem : s.size < s.size := hf.lt (List.mem_append_left _ (List.mem_append_left _
        (hf.declFound.root_mem (by rw [← hsuccessor]; simp))))
      exact absurd hmem (Nat.lt_irrefl _)
  declared := by
    intro p hpm
    obtain ⟨m, hm, rfl⟩ := List.mem_map.mp hpm
    obtain ⟨d, d', he, hfinish, hdeclaration, hready⟩ := hmade m hm
    have hname : d.name = m.candidate.name := by
      rw [← Made.Emerged.name_eq he, hfinish]
      rfl
    refine ⟨m.declaring, hready.standing, d.candidate, hdeclaration, hname, ?_⟩
    have hdeclared := hp.declared m hm
    rw [show m.candidate = d'.finish from hfinish.symm, he.finish_eq, hname] at hdeclared
    exact ⟨hdeclared.new, hdeclared.parts⟩
  frame := hp.frame.mono fun u _ hu => by
    obtain ⟨m, hm, hedit⟩ := hu
    obtain ⟨-, -, -, -, -, hready⟩ := hmade m hm
    exact ⟨m.named, List.mem_map_of_mem hm, m.declaring, hready.standing,
      ((hmade m hm).declares_iff hready.standing).mpr rfl, hedit⟩

/-! ## The visit of a container -/

theorem exists_map_fst {α β : Type} {P : α → β → Prop} (xs : List α)
    (h : ∀ x ∈ xs, ∃ y, P x y) :
    ∃ ps : List (α × β), ps.map Prod.fst = xs ∧ ∀ p ∈ ps, P p.1 p.2 := by
  induction xs with
  | nil => exact ⟨[], rfl, by simp⟩
  | cons x xs ih =>
      obtain ⟨y, hy⟩ := h x (by simp)
      obtain ⟨ps, hps, hall⟩ := ih fun x' hx' => h x' (by simp [hx'])
      refine ⟨(x, y) :: ps, by rw [List.map_cons, hps], ?_⟩
      intro p hp
      rcases List.mem_cons.mp hp with rfl | hp
      · exact hy
      · exact hall p hp

/-- The candidates that can be made classes wait for their commits. -/
theorem Candidates.waiting (h : Candidates s options (some block) (s.cell block).children candidates)
    (hc : Container s block ids) :
    ∃ waiting : List (Candidate × Slot),
      waiting.map Prod.fst = candidates.filter Candidate.isTransformable ∧
      Waiting s block waiting ∧ ∀ p ∈ waiting, Made.Emerged s options block p := by
  obtain ⟨waiting, hfst, hall⟩ := exists_map_fst
    (P := fun c declaring => Made.Emerged s options block (c, declaring))
    (candidates.filter Candidate.isTransformable) (by
      intro c hcmem
      obtain ⟨d, d', he, hfinish⟩ := h.emerge c (List.mem_of_mem_filter hcmem)
      obtain ⟨declaring, hdeclaration, hready⟩ := he.ready hc.found hc.nodup_ids hc.present
      exact ⟨declaring, d, d', he, hfinish, hdeclaration, hfinish ▸ hready⟩)
  refine ⟨waiting, hfst, ⟨fun p hp => ?_, ?_⟩, hall⟩
  · obtain ⟨-, -, -, -, -, hready⟩ := hall p hp
    exact hready
  · have hnames : (waiting.map fun p => p.1.name).Nodup := by
      have := h.distinct.sublist (List.filter_sublist (p := Candidate.isTransformable).map
        Candidate.name)
      rwa [← hfst, List.map_map] at this
    refine (List.pairwise_map.mp hnames).imp_of_mem fun {p q} hp hq hne => ?_
    exact (hall p hp).apart (hall q hq) hc.present hne

namespace Conversion

variable {x x' : Converter} {parent : Slot}

/-- Candidates that cannot be made classes change nothing. -/
theorem commits_filter (candidates : List Candidate) (s : Store) (x : Converter) :
    (candidates.forM commit).run.run (s, x) =
      ((candidates.filter Candidate.isTransformable).forM commit).run.run (s, x) := by
  induction candidates generalizing s x with
  | nil => rfl
  | cons c candidates ih =>
      show (commit c >>= fun _ => candidates.forM commit).run.run (s, x) = _
      cases ht : c.isTransformable with
      | false =>
          rw [List.filter_cons_of_neg (by simp [ht]),
            run_run_bind_of_ok (commit_of_not_transformable ht), ih]
      | true =>
          rw [List.filter_cons_of_pos ht]
          show _ = (commit c >>= fun _ =>
            (candidates.filter Candidate.isTransformable).forM commit).run.run (s, x)
          rw [run_run_bind, run_run_bind]
          rcases (commit c).run.run (s, x) with ⟨r, s₁, x₁⟩
          cases r with
          | error fault => rfl
          | ok _ => exact ih s₁ x₁

/-- A visit of a container commits the candidates that can be made classes, one by one. -/
theorem visit_commits (hfound : Spans Cell.children s (s.cell block).children ids)
    (hn : (block :: ids).Nodup) (hlt : block < s.size) (hb : s.isContainer (some block) = true)
    (h : (visit (some block) parent).run.run (s, x) = (.ok (), (s', x'))) :
    ∃ candidates waiting x₁, Candidates s x.options (some block) (s.cell block).children candidates ∧
      Container s block ids ∧
      waiting.map Prod.fst = candidates.filter Candidate.isTransformable ∧
      Waiting s block waiting ∧ (∀ p ∈ waiting, Made.Emerged s x.options block p) ∧
      (∀ p ∈ waiting, p.1.isTransformable = true) ∧
      ((waiting.map Prod.fst).forM commit).run.run (s, x₁) = (.ok (), (s', x')) ∧
      x'.classes = x.classes ++ waiting.map (fun p => p.1.name) ∧ x'.options = x.options ∧
      (waiting.map fun p => p.1.name).Nodup := by
  obtain ⟨candidates, x₁, -, hcandidates, ⟨hoptions, hclasses⟩, hcommits⟩ := visit_eq_ok hb h
  have hc : Container s block ids := ⟨hb, hlt, hfound, hn, hcandidates.understood.present⟩
  obtain ⟨hoptions', hclasses'⟩ := classes_of_commits hcommits
  obtain ⟨waiting, hfst, hwaiting, hemerged⟩ := hcandidates.waiting hc
  -- candidates that cannot be made classes are skipped
  rw [commits_filter, ← hfst] at hcommits
  refine ⟨candidates, waiting, x₁, hcandidates, hc, hfst, hwaiting, hemerged, fun p hp => ?_, hcommits,
    ?_, hoptions'.trans hoptions, ?_⟩
  · have hmem : p.1 ∈ candidates.filter Candidate.isTransformable := by
      rw [← hfst]
      exact List.mem_map_of_mem hp
    exact (List.mem_filter.mp hmem).2
  · rw [hclasses', hclasses, ← hfst, List.map_map]
    rfl
  · have hdistinct := hcandidates.distinct.sublist
      (List.filter_sublist (p := Candidate.isTransformable).map Candidate.name)
    rwa [← hfst, List.map_map] at hdistinct

/-- A visit of a container: the rewriting, with what is then found from the container. -/
theorem visit_progress (hfound : Spans Cell.children s (s.cell block).children ids)
    (hn : (block :: ids).Nodup) (hlt : block < s.size) (hb : s.isContainer (some block) = true)
    (h : (visit (some block) parent).run.run (s, x) = (.ok (), (s', x'))) :
    Understood s x.options (some block) ∧
      ∃ classes, (∀ name, name ∈ classes.map Prod.fst ↔ Converts s x.options (some block) name) ∧
        x'.classes = x.classes ++ classes.map Prod.fst ∧ x'.options = x.options ∧
        Rewrites s s' x.options block classes ∧
        ∃ ids', Spans Cell.children s' (s'.cell block).children ids' ∧
          ids' <+~ ids ++ s.fresh s' := by
  obtain ⟨candidates, waiting, x₁, hcandidates, hc, hfst, hwaiting, hemerged, htransformable, hcommits,
    hclasses, hoptions, hdistinct⟩ := visit_commits hfound hn hlt hb h
  obtain ⟨made, hmade, hp⟩ := (Progress.start hc).run hc hwaiting htransformable hcommits
  rw [List.nil_append] at hp
  have hnames : (made.map Made.named).map Prod.fst =
      (candidates.filter Candidate.isTransformable).map Candidate.name := by
    rw [← hfst, ← hmade, List.map_map, List.map_map, List.map_map]
    rfl
  refine ⟨hcandidates.understood, made.map Made.named, ?_, ?_, hoptions, ?_, hp.found⟩
  · intro name
    rw [hnames]
    exact hcandidates.transformable_iff
  · rw [hclasses, hnames, ← hfst, List.map_map]
    rfl
  · refine hp.rewrites hc (fun m hm => hemerged _ (hmade ▸ List.mem_map_of_mem hm)) ?_
    rwa [← hmade, List.map_map] at hdistinct

/-- The visit of a container in an unshared tree rewrites its statements in one pass. -/
theorem visit_rewrites {root : Slot} {all : List TokenId}
    (hspans : Spans Cell.children s [root] all) (hn : all.Nodup) (hmem : block ∈ all)
    (hb : s.isContainer (some block) = true)
    (h : (visit (some block) parent).run.run (s, x) = (.ok (), (s', x'))) :
    ∃ classes, (∀ name, name ∈ classes.map Prod.fst ↔ Converts s x.options (some block) name) ∧
      x'.classes = x.classes ++ classes.map Prod.fst ∧
      Rewrites s s' x.options block classes := by
  obtain ⟨below, hbelow, hinfix⟩ := hspans.below_mem hmem
  obtain ⟨hlt, ids, hids, hfound⟩ := hbelow.of_singleton
  cases hids
  obtain ⟨-, classes, hconverts, hclasses, -, hrewrites, -⟩ :=
    visit_progress hfound (hn.sublist hinfix.sublist) hlt hb h
  exact ⟨classes, hconverts, hclasses, hrewrites⟩

/-- No token of the source file stands at two places. -/
theorem pointFile_spans : ∃ all, Spans Cell.links pointFile [some 14] all ∧ all.Nodup :=
  Spans.exists_of_preorder pointFile.size (by decide)

theorem visit_rewrites_pointFile :
    ∃ all, Spans Cell.children pointFile [some 14] all ∧ all.Nodup ∧ 14 ∈ all ∧
      pointFile.isContainer (some 14) = true ∧
      ∃ s' x', (visit (some 14) none).run.run (pointFile, .start ⟨true, true⟩) =
          (.ok (), (s', x')) ∧
        x'.classes = ["Point"] ∧ (s'.cell 14).children = [some 20] ∧
        s'.hasKind Kind.classDecl (some 20) = true ∧
        (∀ name, name ∈ ["Point"] ↔ Converts pointFile ⟨true, true⟩ (some 14) name) ∧
        Rewrites pointFile s' ⟨true, true⟩ 14 [("Point", 20)] := by
  obtain ⟨all, hlinks, hn⟩ := pointFile_spans
  obtain ⟨ids, hspans, hsub⟩ := hlinks.restrict Cell.children_sublist_links
  have hmem : 14 ∈ ids := hspans.root_mem (by simp)
  have hvisit : (visit (some 14) none).run.run (pointFile, .start ⟨true, true⟩) = _ := rfl
  obtain ⟨classes, hconverts, hclasses, hrewrites⟩ :=
    visit_rewrites hspans (hn.sublist hsub) hmem (by decide) hvisit
  have hnames : classes.map Prod.fst = ["Point"] := hclasses.symm
  obtain ⟨⟨name, t⟩, rfl, rfl⟩ := List.map_eq_singleton_iff.mp hnames
  -- the class is the only statement that is left
  obtain rfl : 20 = t := by
    have hchildren := hrewrites.children
    cases hchildren
    rfl
  exact ⟨ids, hspans, hn.sublist hsub, hmem, by decide, _, _, hvisit, rfl, by decide, by decide,
    hconverts, hrewrites⟩

end Conversion

end ClassLift
