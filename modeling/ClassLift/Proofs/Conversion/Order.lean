import ClassLift.Proofs.Conversion.Schedule

set_option autoImplicit false

/-! # The order of the visits does not matter

Two stores that both come from visits of the same tree, in whatever order, are compared token by token
(`Counterpart`): an old token that is still there in both of them stands for itself, and new tokens
stand for each other if they say the same, and so on below them. Where all containers that are still
there were visited, counterparts have counterparts below them (`Course.twins`), and so the trees are
alike: visits in any order make the same of a tree as a conversion (`visits_alike_transform`).
-/

namespace ClassLift

open List Store Conversion Scan

variable {s f f' : Store} {options : Options} {root b u v : TokenId}
  {ids all all' done done' : List TokenId} {classes classes' : List (String × TokenId)}
  {p p' : String × TokenId} {c : Candidate} {m : Method} {st : Slot} {slots : List Slot}

/-- The same old token in both stores, or two tokens that say the same and have counterparts as
children. -/
inductive Counterpart (s f f' : Store) : TokenId → TokenId → Prop where
  | old {u : TokenId} (lt : u < s.size) : Counterpart s f f' u u
  | made {u v : TokenId} (kind : (f.cell u).label.kind = (f'.cell v).label.kind)
      (value : (f.cell u).label.value = (f'.cell v).label.value)
      (children : Forall₂ (Partners (Counterpart s f f')) (f.cell u).children (f'.cell v).children) :
      Counterpart s f f' u v

theorem Counterpart.of_cells {x y : Cell} (hu : f.cell u = x) (hv : f'.cell v = y)
    (kind : x.label.kind = y.label.kind) (value : x.label.value = y.label.value)
    (children : Forall₂ (Partners (Counterpart s f f')) x.children y.children) :
    Counterpart s f f' u v := by
  subst hu hv
  exact .made kind value children

theorem Counterpart.same (h : ∀ u, some u ∈ slots → u < s.size) :
    Forall₂ (Partners (Counterpart s f f')) slots slots := by
  refine List.forall₂_same.mpr fun slot hslot => ?_
  cases slot with
  | none => exact .none
  | some u => exact .some (.old (h u hslot))

/-! ## Classes -/

theorem Method.Defined.counterpart (h : m.Defined s f u) (h' : m.Defined s f' v)
    (hshared : ∀ w, some w ∈ s.shared m → w < s.size) : Counterpart s f f' u v := by
  obtain ⟨F, name, comments, hF, -, hcell, hname⟩ := h.parts
  obtain ⟨F', name', comments', hF', -, hcell', hname'⟩ := h'.parts
  rw [hF] at hF'
  cases hF'
  have hnames : Counterpart s f f' name name' := .of_cells hname hname' rfl rfl .nil
  exact .of_cells hcell hcell' rfl rfl (.cons (.some hnames) (Counterpart.same hshared))

theorem Candidate.BuilderDefined.counterpart {k k' : Option TokenId} (h : c.BuilderDefined s f k)
    (h' : c.BuilderDefined s f' k') (hshared : ∀ w, some w ∈ s.shared c.builder → w < s.size) :
    Forall₂ (Counterpart s f f') k.toList k'.toList := by
  cases k <;> cases k'
  · exact .nil
  · exact absurd (h.symm.trans h'.1) (by decide)
  · exact absurd (h'.symm.trans h.1) (by decide)
  · exact .cons (h.2.counterpart h'.2 hshared) .nil

/-- A class and its counterpart. -/
theorem Candidate.Declared.counterpart (h : c.Declared s f u) (h' : c.Declared s f' v)
    (hbase : ∀ base, c.superClass = some base → base < s.size)
    (hshared : ∀ m ∈ c.builder :: c.methods, ∀ w, some w ∈ s.shared m → w < s.size) :
    Counterpart s f f' u v := by
  obtain ⟨st, name, extension, body, builder, others, comments, hst, -, -, -, hcell, hname, hextension,
    hbody, hbuilder, hothers⟩ := h.parts
  obtain ⟨st', name', extension', body', builder', others', comments', hst', -, -, -, hcell', hname',
    hextension', hbody', hbuilder', hothers'⟩ := h'.parts
  rw [hst] at hst'
  cases hst'
  have hnames : Counterpart s f f' name name' := .of_cells hname hname' rfl rfl .nil
  have hextensions : Counterpart s f f' extension extension' := by
    refine .of_cells hextension hextension' rfl rfl (Counterpart.same fun base hmem => hbase base ?_)
    simpa [Cell.fresh] using hmem
  -- the methods correspond one by one, as both lists are made of the same methods
  have hmethods : Forall₂ (Counterpart s f f') others others' := by
    have hboth : ∀ {ms : List Method} {ks ks' : List TokenId}, (∀ m ∈ ms, m ∈ c.methods) →
        Forall₂ (fun m k => m.Defined s f k) ms ks → Forall₂ (fun m k => m.Defined s f' k) ms ks' →
        Forall₂ (Counterpart s f f') ks ks' := by
      intro ms ks ks' hms hks
      induction hks generalizing ks' with
      | nil =>
          rintro ⟨⟩
          exact .nil
      | cons hk _ ih =>
          rintro (_ | ⟨hk', hks'⟩)
          exact .cons (hk.counterpart hk' (hshared _ (List.mem_cons_of_mem _ (hms _ List.mem_cons_self))))
            (ih (fun m hm => hms m (List.mem_cons_of_mem _ hm)) hks')
    exact hboth (fun _ hm => hm) hothers hothers'
  have hbodies : Counterpart s f f' body body' := by
    have hmembers := List.rel_append (hbuilder.counterpart hbuilder' (hshared _ List.mem_cons_self))
      hmethods
    exact .of_cells hbody hbody' rfl rfl (List.forall₂_map_left_iff.mpr
      (List.forall₂_map_right_iff.mpr (hmembers.imp fun _ _ => .some)))
  exact .of_cells hcell hcell' rfl rfl
    (.cons (.some hnames) (.cons (.some hextensions) (.cons (.some hbodies) .nil)))

/-- The classes of one name are counterparts. -/
theorem PlainTree.counterpart_of_class (T : PlainTree s root ids) (hb : b ∈ ids)
    (h : s.IsClassOf f options (some b) p) (h' : s.IsClassOf f' options (some b) p')
    (hname : p'.1 = p.1) (hconverts : Converts s options (some b) p.1) :
    Counterpart s f f' p.2 p'.2 := by
  obtain ⟨declaring, hstanding, c, hc, hcname, hdeclared⟩ := h
  obtain ⟨declaring', hstanding', c', hc', hcname', hdeclared'⟩ := h'
  obtain ⟨-, rfl⟩ := hconverts.declared_unique hstanding hstanding' hc hc' hcname
    (hcname'.trans hname)
  rw [hname] at hdeclared'
  refine hdeclared.counterpart hdeclared' (fun base hbase => ?_) fun m hm w hw => ?_
  · exact (T.names_superClass hb p.1 hbase).lt_size
  · cases hF : m.function with
    | none =>
        rw [Store.shared, hF] at hw
        cases hw
    | some F =>
        rw [Store.shared, hF] at hw
        have hinside := (inside_of_parts options p.1 hstanding hc m hm).1 F hF
        exact T.spans.lt_size w
          (T.spans.link_mem (T.spans.mem_of_inside hb hinside) (List.mem_of_mem_drop hw))

/-! ## What the visits edit -/

theorem Store.Called.counterpart {call arguments : TokenId} (h : s.Called f call arguments)
    (h' : s.Called f' call arguments) (hlt : arguments < s.size) :
    Forall₂ (Partners (Counterpart s f f')) (f.cell call).children (f'.cell call).children := by
  obtain ⟨w, -, hword, hleaf, hchildren⟩ := h.word
  obtain ⟨w', -, hword', hleaf', hchildren'⟩ := h'.word
  obtain ⟨l, hl, hkind, hvalue⟩ := isToken_iff.mp hword
  obtain ⟨l', hl', hkind', hvalue'⟩ := isToken_iff.mp hword'
  have hwords : Counterpart s f f' w w' := by
    cases hl
    cases hl'
    refine .made (hkind.trans hkind'.symm) (hvalue.trans hvalue'.symm) ?_
    rw [hleaf, hleaf']
    exact .nil
  rw [hchildren, hchildren']
  exact .cons (.some hwords) (.cons (.some (.old hlt)) .nil)

section

variable (h : Reworked s f options b classes) (h' : Reworked s f' options b classes')

include h h'

/-- Both times classes of the same names were made. -/
theorem Reworked.any_eq (test : String → Bool) :
    (classes.any fun p => test p.1) = classes'.any fun p => test p.1 := by
  have hmap : ∀ cs : List (String × TokenId), (cs.any fun p => test p.1) = (cs.map Prod.fst).any test :=
    fun cs => by
      rw [List.any_map]
      rfl
  rw [hmap, hmap, Bool.eq_iff_iff, List.any_eq_true, List.any_eq_true]
  simp only [h.names, h'.names]

/-- The class that a statement declares was made both times. -/
theorem Reworked.find?_declares (hfound : (classes.find? fun p => s.declares (some b) p.1 st) = some p) :
    ∃ p', (classes'.find? fun p => s.declares (some b) p.1 st) = some p' ∧ p.1 ∈ classes.map Prod.fst ∧
      p ∈ classes ∧ p' ∈ classes' ∧ p'.1 = p.1 := by
  have hp := List.mem_of_find?_eq_some hfound
  have hdeclares : s.declares (some b) p.1 st = true := by simpa using List.find?_some hfound
  obtain ⟨p', hfound'⟩ : ∃ p', (classes'.find? fun p => s.declares (some b) p.1 st) = some p' := by
    rw [← Option.isSome_iff_exists, List.find?_isSome, ← List.any_eq_true,
      ← h.any_eq h' fun name => s.declares (some b) name st, List.any_eq_true]
    exact ⟨p, hp, hdeclares⟩
  have hdeclares' : s.declares (some b) p'.1 st = true := by simpa using List.find?_some hfound'
  exact ⟨p', hfound', List.mem_map_of_mem hp, hp, List.mem_of_find?_eq_some hfound',
    declares_unique hdeclares' hdeclares⟩

/-- A statement gives way to counterparts. -/
theorem Reworked.replacement (T : PlainTree s root ids) (hb : b ∈ ids)
    (hst : st ∈ (s.cell b).children) :
    Forall₂ (Partners (Counterpart s f f')) (s.replacement options (some b) classes st)
      (s.replacement options (some b) classes' st) := by
  have hself : Forall₂ (Partners (Counterpart s f f')) [st] [st] := by
    refine Counterpart.same fun u hu => T.spans.lt_size u (T.spans.link_mem hb ?_)
    rw [List.mem_singleton] at hu
    exact hu ▸ hst
  -- whether a statement gives way depends on the names of the classes only
  unfold Store.replacement
  rw [h.any_eq h' fun name => s.goesWith options (some b) name (s.children (some b)) st]
  cases hfound : classes.find? fun p => s.declares (some b) p.1 st with
  | none =>
      have hfound' : (classes'.find? fun p => s.declares (some b) p.1 st) = none := by
        cases hfound' : classes'.find? fun p => s.declares (some b) p.1 st with
        | none => rfl
        | some p' =>
            obtain ⟨p, hp, -⟩ := h'.find?_declares h hfound'
            rw [hfound] at hp
            cases hp
      rw [hfound']
      dsimp only
      split
      · exact .nil
      · exact hself
  | some p =>
      -- both times it is the class that the statement declares
      obtain ⟨p', hfound', hmem, hp, hp', hname⟩ := h.find?_declares h' hfound
      rw [hfound']
      dsimp only
      split
      · exact hself
      · exact .cons (.some (T.counterpart_of_class hb (h.declared p hp) (h'.declared p' hp') hname
          ((h.names p.1).mp hmem))) .nil

/-- An export gets counterparts. -/
theorem Reworked.twins_exported (T : PlainTree s root ids) (hb : b ∈ ids) (hu : u ∈ ids)
    (becomes : s.Becomes options b (some u) c) (kind : s.hasKind Kind.exportDecl (some u) = true) :
    Forall₂ (Partners (Counterpart s f f')) (f.cell u).children (f'.cell u).children := by
  have hdeclares : s.declares (some b) c.name (some u) = true :=
    declares_iff.mpr ⟨c, becomes.declared, rfl⟩
  obtain ⟨p, hp, hname⟩ := List.mem_map.mp ((h.names c.name).mpr becomes.converts)
  obtain ⟨p', hp', hname'⟩ := List.mem_map.mp ((h'.names c.name).mpr becomes.converts)
  rw [h.exported p hp u becomes.standing kind (hname ▸ hdeclares),
    h'.exported p' hp' u becomes.standing kind (hname' ▸ hdeclares)]
  have hclass := T.counterpart_of_class hb (h.declared p hp) (h'.declared p' hp')
    (hname'.trans hname.symm) (hname ▸ becomes.converts)
  cases hchildren : (s.cell u).children with
  | nil => exact .nil
  | cons first rest =>
      refine .cons (.some hclass) (Counterpart.same fun w hw => ?_)
      refine T.spans.lt_size w (T.spans.link_mem hu ?_)
      rw [hchildren]
      exact List.mem_cons_of_mem _ hw

/-- Below a token that concerns a container reworked in both stores, there are counterparts. -/
theorem Reworked.twins (T : PlainTree s root ids) (hb : b ∈ ids) (hu : s.Concerns b u) :
    Forall₂ (Partners (Counterpart s f f')) (f.cell u).children (f'.cell u).children := by
  have hold : ∀ v, v ∈ ids → ∀ w, some w ∈ (s.cell v).children → w < s.size := fun v hv w hw =>
    T.spans.lt_size w (T.spans.link_mem hv hw)
  have hmem := hu.mem T.spans hb
  by_cases hedited : s.Edited options b u
  case neg =>
    rw [h.still u hu hedited, h'.still u hu hedited]
    exact Counterpart.same (hold u hmem)
  cases hedited with
  | own he =>
      subst he
      rw [h.children, h'.children]
      have hsame : Forall₂ (fun st st' => st = st' ∧ st ∈ (s.cell u).children) (s.cell u).children
          (s.cell u).children := List.forall₂_same.mpr fun _ hst => ⟨rfl, hst⟩
      refine List.rel_flatMap hsame ?_
      rintro st _ ⟨rfl, hst⟩
      exact h.replacement h' T hb hst
  | exported becomes kind => exact h.twins_exported h' T hb hmem becomes kind
  | @called declaring c t a becomes call part =>
      have ha := (becomes.concerns T hb call).2.mem T.spans hb
      have hcalled := h.called declaring c becomes t a call
      have hcalled' := h'.called declaring c becomes t a call
      rcases part with rfl | rfl
      · exact hcalled.counterpart hcalled' (T.spans.lt_size a ha)
      · rw [hcalled.arguments, hcalled'.arguments]
        exact Counterpart.same fun w hw => hold u hmem w (List.mem_of_mem_drop hw)

end

/-! ## Whole trees -/

theorem Partners.and_mem {R : TokenId → TokenId → Prop} {P Q : TokenId → Prop} {xs ys : List Slot}
    (h : Forall₂ (Partners R) xs ys) (hP : ∀ u, Option.some u ∈ xs → P u)
    (hQ : ∀ v, Option.some v ∈ ys → Q v) :
    Forall₂ (Partners fun u v => R u v ∧ P u ∧ Q v) xs ys := by
  induction h with
  | nil => exact .nil
  | cons hxy _ ih =>
      refine .cons ?_ (ih (fun u hu => hP u (List.mem_cons_of_mem _ hu))
        fun v hv => hQ v (List.mem_cons_of_mem _ hv))
      cases hxy with
      | none => exact .none
      | some hR => exact .some ⟨hR, hP _ List.mem_cons_self, hQ _ List.mem_cons_self⟩

/-- All containers that are still there were visited. -/
def Complete (s : Store) (ids all done : List TokenId) : Prop :=
  ∀ b ∈ ids, s.isContainer (some b) = true → b ∈ all → b ∈ done

section

variable (h : Course s options root ids f all done) (h' : Course s options root ids f' all' done')
  (hcomplete : Complete s ids all done) (hcomplete' : Complete s ids all' done')

include h h' hcomplete hcomplete'

/-- Counterparts say the same, and have counterparts below them. -/
theorem Course.twins (hu : u ∈ all) (hv : v ∈ all') (huv : Counterpart s f f' u v) :
    (f.cell u).Twins (fun u v => Counterpart s f f' u v ∧ u ∈ all ∧ v ∈ all') (f'.cell v) := by
  have hmem : ∀ w, some w ∈ (f.cell u).children → w ∈ all := fun w => h.whole.link_mem hu
  have hmem' : ∀ w, some w ∈ (f'.cell v).children → w ∈ all' := fun w => h'.whole.link_mem hv
  cases huv with
  | made kind value children => exact ⟨kind, value, Partners.and_mem children hmem hmem'⟩
  | old hlt =>
      have hids := h.old u hu hlt
      have hlabel : (f.cell u).label = (f'.cell u).label :=
        (h.touches.label hlt).trans (h'.touches.label hlt).symm
      refine ⟨by rw [hlabel], by rw [hlabel], Partners.and_mem ?_ hmem hmem'⟩
      -- what concerns a container is reworked in both stores, as all that is still there was visited
      by_cases hconcerns : ∃ b ∈ ids, s.isContainer (some b) = true ∧ s.Concerns b u
      · obtain ⟨b, hb, hcontainer, hconcerns⟩ := hconcerns
        obtain ⟨classes, hreworked⟩ := h.reworked_of_concerns hcomplete hb hcontainer hconcerns hu
        obtain ⟨classes', hreworked'⟩ := h'.reworked_of_concerns hcomplete' hb hcontainer hconcerns hv
        exact hreworked.twins hreworked' h.tree hb hconcerns
      · rw [h.cell hids fun b hb hc => hconcerns ⟨b, (h.visited b hb).1, (h.visited b hb).2, hc⟩,
          h'.cell hids fun b hb hc => hconcerns ⟨b, (h'.visited b hb).1, (h'.visited b hb).2, hc⟩]
        exact Counterpart.same fun w hw => h.lt_size (h.tree.spans.link_mem hids hw)

/-- Whatever the order of the visits was, the trees are alike. -/
theorem Course.alike : f.alikeAcross f' (some root) (some root) = true := by
  refine alikeAcrossTo_of_twins (R := fun u v => Counterpart s f f' u v ∧ u ∈ all ∧ v ∈ all')
    (fun u v huv => h.twins h' hcomplete hcomplete' huv.2.1 huv.2.2 huv.1) _ (.some ⟨.old ?_, ?_, ?_⟩)
  · exact h.lt_size (h.tree.spans.root_mem List.mem_cons_self)
  · exact h.whole.root_mem List.mem_cons_self
  · exact h'.whole.root_mem List.mem_cons_self

end

namespace Conversion

variable {x x' y y' : Converter} {names : List String} {order : List (TokenId × Slot)}

/-- In a tree without shared tokens, where nothing stands below words, the containers are visited once
each, in any order. If no visit stops, and the conversion of the tree does not stop either, then both
come to the same tree. -/
theorem visits_alike_transform (hspans : Spans Cell.children s [some root] ids) (hn : ids.Nodup)
    (hleaf : ∀ u ∈ ids, (s.cell u).label.kind ∈ [Kind.text, Kind.memberName] → (s.cell u).children = [])
    (horder : order.map Prod.fst ~ ids.filter fun b => s.isContainer (some b))
    (hoptions : y.options = x.options)
    (hvisits : (order.forM fun p => visit (some p.1) p.2).run.run (s, x) = (.ok (), (f, x')))
    (htransform : (transform (some root)).run.run (s, y) = (.ok names, (f', y'))) :
    f.alikeAcross f' (some root) (some root) = true := by
  have T : PlainTree s root ids := ⟨hspans, hn, hleaf⟩
  have hmem : ∀ b, b ∈ order.map Prod.fst ↔ b ∈ ids ∧ s.isContainer (some b) = true := fun b => by
    rw [horder.mem_iff, List.mem_filter]
  have hstart : Course s x.options root ids s ids [] := .start T
  obtain ⟨all, hcourse⟩ := hstart.run (fun p hp => (hmem p.1).mp (List.mem_map_of_mem hp))
    (horder.nodup_iff.mpr (hn.filter _)) (by simp) rfl hvisits
  rw [transform_run] at htransform
  rcases run_does visit (depthBound s) (some root) (s, { y with classes := [] }) with
    ⟨visited, ⟨s₁, y₁⟩, hrun, hsteps⟩ | ⟨stop, visited, a, task, left, b, hrun, hsteps, hstops⟩
  case inr =>
    rw [hrun] at htransform
    cases htransform
  rw [hrun] at htransform
  cases htransform
  obtain ⟨rest, hstage, done, hcourse', hdone⟩ :=
    Scanned.of_steps T { y with classes := [] } hoptions hsteps
  -- no task is left, so all that is there was visited
  have hrest := hstage.rest
  cases hrest
  refine hcourse.alike hcourse' (fun b hb hcontainer _ => ?_) fun b hb hcontainer hlive => ?_
  · rw [List.append_nil, List.mem_reverse]
    exact (hmem b).mpr ⟨hb, hcontainer⟩
  · rw [List.append_nil] at hlive
    exact (hdone b hb hcontainer).mpr hlive

/-- The source file with a class in the body of its function:
`function Inner() {}` and `Inner.prototype.run = function () {}`. -/
def nestedFile : Store where
  cells := #[
    .fresh Kind.text "Point" 1 9 [],
    .fresh Kind.arguments "()" 1 14 [],
    .fresh Kind.block "\x7b\x7d" 1 17 [some 18, some 28],
    .fresh Kind.functionDecl "function" 1 0 [some 0, some 1, some 2],
    .fresh Kind.text "Point" 4 0 [],
    .fresh Kind.memberName "prototype" 4 6 [],
    .fresh Kind.member "." 4 5 [some 4, some 5],
    .fresh Kind.memberName "norm" 4 16 [],
    .fresh Kind.member "." 4 15 [some 6, some 7],
    .fresh Kind.text "" 4 23 [],
    .fresh Kind.arguments "()" 4 31 [],
    .fresh Kind.block "\x7b\x7d" 4 34 [],
    .fresh Kind.anonymousFunction "function" 4 23 [some 9, some 10, some 11],
    .fresh Kind.assign "=" 4 21 [some 8, some 12],
    .fresh Kind.sourceFile "" 1 0 [some 3, some 13],
    .fresh Kind.text "Inner" 2 11 [],
    .fresh Kind.arguments "()" 2 16 [],
    .fresh Kind.block "\x7b\x7d" 2 19 [],
    .fresh Kind.functionDecl "function" 2 2 [some 15, some 16, some 17],
    .fresh Kind.text "Inner" 3 2 [],
    .fresh Kind.memberName "prototype" 3 8 [],
    .fresh Kind.member "." 3 7 [some 19, some 20],
    .fresh Kind.memberName "run" 3 18 [],
    .fresh Kind.member "." 3 17 [some 21, some 22],
    .fresh Kind.text "" 3 24 [],
    .fresh Kind.arguments "()" 3 32 [],
    .fresh Kind.block "\x7b\x7d" 3 35 [],
    .fresh Kind.anonymousFunction "function" 3 24 [some 24, some 25, some 26],
    .fresh Kind.assign "=" 3 22 [some 23, some 27]]

/-- Its containers, the innermost first, each with the token that holds it. -/
def innermostFirst : List (TokenId × Slot) :=
  [(17, some 18), (26, some 27), (11, some 12), (2, some 3), (14, none)]

theorem nestedFile_spans : ∃ ids, Spans Cell.children nestedFile [some 14] ids ∧ ids.Nodup ∧
    innermostFirst.map Prod.fst ~ ids.filter fun b => nestedFile.isContainer (some b) :=
  Spans.exists_of_preorder nestedFile.size (by decide)

theorem visits_alike_transform_nestedFile :
    ∃ ids, Spans Cell.children nestedFile [some 14] ids ∧ ids.Nodup ∧
      (∀ u ∈ ids, (nestedFile.cell u).label.kind ∈ [Kind.text, Kind.memberName] →
        (nestedFile.cell u).children = []) ∧
      innermostFirst.map Prod.fst ~ ids.filter (fun b => nestedFile.isContainer (some b)) ∧
      ∃ f x' f' y',
        (innermostFirst.forM fun p => visit (some p.1) p.2).run.run (nestedFile, .start ⟨true, true⟩) =
          (.ok (), (f, x')) ∧
        (transform (some 14)).run.run (nestedFile, .start ⟨true, true⟩) =
          (.ok ["Point", "Inner"], (f', y')) ∧
        f.alikeAcross f' (some 14) (some 14) = true := by
  obtain ⟨ids, hspans, hn, horder⟩ := nestedFile_spans
  have hleaf : ∀ u < 29, (nestedFile.cell u).label.kind ∈ [Kind.text, Kind.memberName] →
      (nestedFile.cell u).children = [] := by decide +kernel
  have hleaf : ∀ u ∈ ids, (nestedFile.cell u).label.kind ∈ [Kind.text, Kind.memberName] →
      (nestedFile.cell u).children = [] := fun u hu => hleaf u (hspans.lt_size u hu)
  have hvisits : ((innermostFirst.forM fun p => visit (some p.1) p.2).run.run
      (nestedFile, .start ⟨true, true⟩)).1 = .ok () := by decide +kernel
  have htransform : ((transform (some 14)).run.run (nestedFile, .start ⟨true, true⟩)).1 =
      .ok ["Point", "Inner"] := by decide +kernel
  obtain ⟨⟨f, x'⟩, hvisits⟩ := exists_of_fst hvisits
  obtain ⟨⟨f', y'⟩, htransform⟩ := exists_of_fst htransform
  exact ⟨ids, hspans, hn, hleaf, horder, f, x', f', y', hvisits, htransform,
    visits_alike_transform hspans hn hleaf horder rfl hvisits htransform⟩

end Conversion

end ClassLift
