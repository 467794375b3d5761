import ClassLift.Proofs.Conversion.Confinement
import ClassLift.Proofs.Token.Acyclic

set_option autoImplicit false

/-! # Classes stay

A conversion visits the tokens in preorder, and a visit changes nothing but what is below its
token. So a token whose way from the root leads over visited tokens, and over no container that is
still to be visited, is neither edited nor taken out any more: it is `Anchored`. The classes that a
visit makes are (`Rewrites.anchored`), and so they stay in the tree and keep their parts
(`Conversion.Passage.isClassOf`). And there are no other new ones: each class in the tree that is
new comes from the visit of a container (`Conversion.exists_passage`).
-/

namespace ClassLift

open List Conversion Scan

variable {s s' s'' : Store} {options : Options} {root parent : Slot} {block t u v : TokenId}
  {visited ids below below' rest more : List TokenId} {todo left : List Task} {depth : Nat}
  {classes made : List (String × TokenId)} {p : String × TokenId}

/-! ## Anchored tokens -/

/-- The token was visited, or it stands below visited tokens with no container in between. -/
inductive Anchored (s : Store) (visited : List TokenId) : TokenId → Prop where
  | visited {t : TokenId} (mem : t ∈ visited) : Anchored s visited t
  | child {p t : TokenId} (above : Anchored s visited p) (link : some t ∈ (s.cell p).children)
      (plain : s.isContainer (some t) = false) : Anchored s visited t

namespace Anchored

theorem mem (h : Anchored s visited v) (hstage : Stage s root visited todo ids) :
    v ∈ visited ++ ids := by
  induction h with
  | visited hmem => exact List.mem_append_left ids hmem
  | child _ link _ ih => exact hstage.whole.link_mem ih link

/-- The next container to be visited is not above an anchored token. -/
theorem not_below (h : Anchored s visited v)
    (hstage : Stage s root visited (⟨some t, parent, depth + 1⟩ :: todo) (t :: (below ++ rest)))
    (hfound : Spans Cell.children s (s.cell t).children below)
    (hcontainer : s.isContainer (some t) = true) : v ∉ t :: below := by
  have hapart : ∀ u ∈ visited, u ∉ t :: below := by
    intro u hu hmem
    rw [← List.cons_append] at hstage
    exact (List.nodup_append.mp hstage.nodup).2.2 u hu u (List.mem_append_left rest hmem) rfl
  induction h with
  | visited hmem => exact hapart _ hmem
  | @child q v above link plain ih =>
      intro hv
      -- the token above would be among these as well
      have hq : q ∈ t :: below := by
        rcases List.mem_cons.mp hv with rfl | hv
        · rw [hcontainer] at plain
          cases plain
        have hwhole := hstage.whole
        rcases hfound.exists_parent hv with hroot | ⟨w, hw, hchild⟩
        · have hsame := hwhole.parent_unique hstage.nodup (above.mem hstage)
            (mem_found_of_mem_visit List.mem_cons_self) link hroot
          rw [hsame]
          exact List.mem_cons_self
        · have hsame := hwhole.parent_unique hstage.nodup (above.mem hstage)
            (mem_found_of_mem_visit (List.mem_cons_of_mem t hw)) link hchild
          rw [hsame]
          exact List.mem_cons_of_mem t hw
      exact ih hq

/-- A visit does not touch anchored tokens. -/
theorem step (h : Anchored s visited v)
    (hstage : Stage s root visited (⟨some t, parent, depth + 1⟩ :: todo) (t :: (below ++ rest)))
    (ha : Advance options s s' t below below' classes) : Anchored s' (visited ++ [t]) v := by
  cases hc : s.isContainer (some t) with
  | false =>
      have hsame : s' = s := by
        rcases ha.treated with ⟨-, hsame, -⟩ | ⟨hkind, -, -⟩
        · exact hsame
        · rw [hc] at hkind
          cases hkind
      subst hsame
      induction h with
      | visited hmem => exact .visited (List.mem_append_left [t] hmem)
      | child _ link plain ih => exact .child ih link plain
  | true =>
      induction h with
      | visited hmem => exact .visited (List.mem_append_left [t] hmem)
      | @child q v above link plain ih =>
          have hlt : ∀ {w : TokenId}, Anchored s visited w → w < s.size := fun hw =>
            hstage.whole.lt_size _ (hw.mem hstage)
          have hnot := above.not_below hstage ha.found hc
          refine .child ih ?_ ?_
          · rw [ha.frame.children q (hlt above) hnot]
            exact link
          · have hvlt := hlt (.child above link plain)
            rw [Store.isContainer, ha.frame.hasKind _ hvlt, ha.frame.hasKind _ hvlt]
            exact plain

/-- No number of visits touches anchored tokens. -/
theorem run {a b : Store × Converter} (h : Anchored a.1 visited v)
    (hstage : Stage a.1 root visited todo ids) (hsteps : Steps visit a todo more b left) :
    Anchored b.1 (visited ++ more) v := by
  obtain ⟨-, -, -, hanchored, -⟩ :=
    Stage.run (fun s visited _ _ => Anchored s visited v)
      (fun hstage hinv ha => hinv.step hstage ha) hsteps rfl hstage h
  exact hanchored

end Anchored

/-! ## Classes in their places -/

/-- An export that declares a function has a child. -/
theorem Store.children_of_export {e : Slot} {slot : Slot} {c : Candidate}
    (h : s.declaration? slot e = .ok (some c)) (hkind : s.hasKind Kind.exportDecl e = true) :
    ∃ first rest, s.children e = first :: rest := by
  rcases declaration_eq_some_iff.mp h with hf | ⟨-, first, rest, hc, -⟩ | hv
  · exact absurd (hasKind_unique hkind hf.kind) (by decide)
  · exact ⟨first, rest, hc⟩
  · exact absurd (hasKind_unique hkind hv.kind) (by decide)

theorem Rewrites.eq_of_name (h : Rewrites s s' options block classes) {q : String × TokenId}
    (hp : p ∈ classes) (hq : q ∈ classes) (hname : p.1 = q.1) : p = q :=
  List.inj_on_of_nodup_map h.distinct hp hq hname

/-- The declaration of a function that became a class gives way to the class, or the class takes
its place in the export. -/
theorem Rewrites.replacement_of_declares (h : Rewrites s s' options block classes)
    (hp : p ∈ classes) {declaring : Slot} (hd : s.declares (some block) p.1 declaring = true) :
    s.replacement options (some block) classes declaring =
      [if s.hasKind Kind.exportDecl declaring = true then declaring else some p.2] := by
  have hfind : classes.find? (fun q => s.declares (some block) q.1 declaring) = some p := by
    cases hfound : classes.find? fun q => s.declares (some block) q.1 declaring with
    | none => exact absurd hd (List.find?_eq_none.mp hfound p hp)
    | some q =>
        have hq : s.declares (some block) q.1 declaring = true := by
          simpa using List.find?_some hfound
        have hqp := h.eq_of_name (List.mem_of_find?_eq_some hfound) hp
          (Store.declares_unique hq hd)
        rw [hqp]
  rw [Store.replacement, hfind]

/-- The classes that the visit of a container makes are anchored as soon as it was visited. -/
theorem Rewrites.anchored (h : Rewrites s s' options block classes) (hmem : block ∈ visited)
    (hfound : Spans Cell.children s (s.cell block).children ids) (hp : p ∈ classes) :
    Anchored s' visited p.2 := by
  obtain ⟨declaring, hdeclaring, c, hc, hname, hdeclared⟩ := h.declared p hp
  have hd : s.declares (some block) p.1 declaring = true := Store.declares_iff.mpr ⟨c, hc, hname⟩
  have hplace : (if s.hasKind Kind.exportDecl declaring = true then declaring else some p.2) ∈
      (s'.cell block).children := by
    rw [h.children]
    refine List.mem_flatMap.mpr ⟨declaring, hdeclaring, ?_⟩
    rw [h.replacement_of_declares hp hd]
    exact List.mem_cons_self
  have hclass : s'.isContainer (some p.2) = false :=
    Store.isContainer_of_hasKind hdeclared.hasKind (by decide)
  by_cases hexport : s.hasKind Kind.exportDecl declaring = true
  · rw [if_pos hexport] at hplace
    obtain ⟨e, rfl, -⟩ := Store.exists_token_of_hasKind hexport
    obtain ⟨first, others, hchildren⟩ := Store.children_of_export hc hexport
    have hchildren : (s.cell e).children = first :: others := hchildren
    have hplain : s'.isContainer (some e) = false := by
      have hlt := hfound.lt_size e (hfound.root_mem hdeclaring)
      rw [Store.isContainer, h.frame.hasKind _ hlt, h.frame.hasKind _ hlt]
      exact Store.isContainer_of_hasKind hexport (by decide)
    refine .child (.child (.visited hmem) hplace hplain) ?_ hclass
    rw [h.exported p hp e hdeclaring hexport hd, hchildren]
    exact List.mem_cons_self
  · rw [if_neg hexport] at hplace
    exact .child (.visited hmem) hplace hclass

/-! ## Classes keep their parts -/

theorem Store.IsClassOf.later {slot : Slot} (h : s.IsClassOf s' options slot p)
    (hsize : s'.size ≤ s''.size) (hcell : ∀ u ∈ s.fresh s', s''.cell u = s'.cell u) :
    s.IsClassOf s'' options slot p := by
  obtain ⟨declaring, hdeclaring, c, hc, hname, hdeclared⟩ := h
  exact ⟨declaring, hdeclaring, c, hc, hname, hdeclared.later hsize hcell⟩

/-- Of the tokens that there are, visits edit only those of certain kinds that stand in the
tree. -/
theorem Stage.frame_later {root : TokenId} {a b : Store × Converter}
    (hstage : Stage a.1 (some root) visited todo ids)
    (hpresent : ∀ u ∈ visited ++ ids, none ∉ (a.1.cell u).children)
    (hsteps : Steps visit a todo more b left) :
    Frame a.1 b.1 (a.1.IsEdited (visited ++ ids)) := by
  obtain ⟨_, _, -, hgrown, -⟩ :=
    Stage.run (fun s visited' _ ids' => Grown a.1 (visited ++ ids) s (visited' ++ ids'))
      (fun hstage' hgrown ha => hgrown.step hstage.whole hstage' ha) hsteps rfl hstage
      (.start hstage.whole hpresent)
  exact hgrown.frame

/-- New tokens of one visit are not edited by the visits after it. -/
theorem Stage.fresh_later {s₀ : Store} {old : List TokenId} {root : TokenId}
    {a b : Store × Converter} (hstage : Stage a.1 (some root) visited todo ids)
    (hgrown : Grown s₀ old a.1 (visited ++ ids)) (hsize : s₀.size ≤ s.size)
    (hsteps : Steps visit a todo more b left) :
    ∀ u ∈ s.fresh a.1, b.1.cell u = a.1.cell u := by
  have hframe := hstage.frame_later hgrown.present hsteps
  intro u hu
  obtain ⟨hnew, hlt⟩ := Store.mem_fresh.mp hu
  refine hframe.cell hlt ?_
  rintro ⟨hmem, hkind⟩
  have hmade := hgrown.made u hmem (Nat.le_trans hsize hnew)
  exact Kind.not_edited_of_made hmade hkind

/-- A class that one visit made is the same class after the visits that follow. -/
theorem Stage.isClassOf_later {s₀ : Store} {old : List TokenId} {root : TokenId} {slot : Slot}
    {a b : Store × Converter} (hstage : Stage a.1 (some root) visited todo ids)
    (hgrown : Grown s₀ old a.1 (visited ++ ids)) (hsize : s₀.size ≤ s.size)
    (hsteps : Steps visit a todo more b left) (h : s.IsClassOf a.1 options slot p) :
    s.IsClassOf b.1 options slot p :=
  h.later (hstage.frame_later hgrown.present hsteps).size_le
    (hstage.fresh_later hgrown hsize hsteps)

/-! ## Where classes come from -/

/-- A class in the tree was there before some visits, or one of them made it. -/
theorem Stage.class_origin {s₀ : Store} {old : List TokenId} {root : TokenId}
    {a b : Store × Converter} (hold : Spans Cell.children s₀ [some root] old)
    (hsteps : Steps visit a todo more b left) (hoptions : a.2.options = options)
    (hstage : Stage a.1 (some root) visited todo ids)
    (hgrown : Grown s₀ old a.1 (visited ++ ids)) :
    ∃ ids', Stage b.1 (some root) (visited ++ more) left ids' ∧
      ∀ u ∈ visited ++ more ++ ids', b.1.hasKind Kind.classDecl (some u) = true →
        u ∈ visited ++ ids ∨ ∃ before t after here parent depth todo' name,
          more = before ++ t :: after ∧
          Steps visit a todo before here (⟨some t, parent, depth + 1⟩ :: todo') ∧
          Steps visit here (⟨some t, parent, depth + 1⟩ :: todo') (t :: after) b left ∧
          here.1.isContainer (some t) = true ∧ Converts here.1 options (some t) name ∧
          here.1.IsClassOf b.1 options (some t) (name, u) := by
  induction hsteps generalizing visited ids with
  | refl a todo =>
      refine ⟨ids, ?_, fun u hu _ => Or.inl ?_⟩
      · rwa [List.append_nil]
      · rwa [List.append_nil] at hu
  | @head a b c t parent depth todo left more here next ih =>
      obtain ⟨below, rest, rfl, hlt, hbelow, -, hn⟩ := hstage.first
      obtain ⟨classes, below', ha, hoptions', -⟩ := visit_advance hlt hbelow hn here
      rw [hoptions] at ha hoptions'
      have hstage' := hstage.step ha
      have hgrown' := hgrown.step hold hstage ha
      obtain ⟨ids', hlast, horigin⟩ := ih hoptions' hstage' hgrown'
      have hvisited : visited ++ [t] ++ more = visited ++ t :: more :=
        List.append_assoc visited [t] more
      rw [hvisited] at hlast horigin
      refine ⟨ids', hlast, fun u hu hclass => ?_⟩
      -- a later visit made the class, or it was there after this one
      rcases horigin u hu hclass with hmem | ⟨before, t', after, there, parent', depth', todo', name,
        rfl, hfirst, hsecond, hmade⟩
      case inr =>
        exact Or.inr ⟨t :: before, t', after, there, parent', depth', todo', name, rfl,
          .head here hfirst, hsecond, hmade⟩
      rcases ha.mem_or_new hmem with hmem | ⟨hmem, hnew⟩
      · exact Or.inl hmem
      rcases ha.treated with ⟨-, hsame, -⟩ | ⟨hcontainer, hconverts, hrewrites⟩
      · exact absurd hnew (Nat.not_le_of_lt (hsame ▸ ha.found'.lt_size u hmem))
      · have hclass' : b.1.hasKind Kind.classDecl (some u) = true :=
          ((hstage'.frame_later hgrown'.present next).hasKind _ (ha.found'.lt_size u hmem)).symm.trans
            hclass
        obtain ⟨p, hp, rfl⟩ := hrewrites.mem_classes_of_new (ha.container hcontainer) ha.found'
          ha.within hmem hnew hclass'
        exact Or.inr ⟨[], t, more, a, parent, depth, todo, p.1, rfl, .refl _ _, .head here next,
          hcontainer, (hconverts p.1).mp (List.mem_map_of_mem hp),
          hstage'.isClassOf_later hgrown' hgrown.frame.size_le next (hrewrites.declared p hp)⟩

namespace Conversion

variable {all old : List TokenId} {x : Converter}

/-- A visit on the way of a conversion, and some visits after it. -/
structure Passage (s : Store) (root : TokenId) (x : Converter) (before : List TokenId)
    (here : Store × Converter) (t : TokenId) (after : List TokenId) (there : Store × Converter)
    (left : List Task) : Prop where
  split : ∃ parent depth todo,
    Steps visit (s, { x with classes := [] }) [⟨some root, none, depthBound s⟩] before here
        (⟨some t, parent, depth + 1⟩ :: todo) ∧
      Steps visit here (⟨some t, parent, depth + 1⟩ :: todo) (t :: after) there left

/-- The classes that a container was given on the way of a conversion are in the tree from then
on, with their parts. -/
theorem Passage.isClassOf {root : TokenId} {before after : List TokenId}
    {here there : Store × Converter} (h : Passage s root x before here t after there left)
    (hold : Spans Cell.children s [some root] old) (hn : old.Nodup)
    (hpresent : ∀ u ∈ old, none ∉ (s.cell u).children)
    (hcontainer : here.1.isContainer (some t) = true) :
    ∃ classes : List (String × TokenId),
      (∀ name, name ∈ classes.map Prod.fst ↔ Converts here.1 x.options (some t) name) ∧
      (classes.map Prod.fst).Nodup ∧
      ∀ p ∈ classes, here.1.IsClassOf there.1 x.options (some t) p ∧
        ∃ ids, Spans Cell.children there.1 [some root] (before ++ t :: after ++ ids) ∧
          p.2 ∈ before ++ t :: after ++ ids := by
  obtain ⟨parent, depth, todo, hfirst, hsecond⟩ := h.split
  obtain ⟨ids, _, hstage, hgrown, -, -, -, hoptions⟩ := stage_of_steps hold hn hpresent hfirst
  obtain ⟨below, rest, rfl, hlt, hbelow, -, hnbelow⟩ := hstage.first
  cases hsecond with
  | @head _ mid _ _ _ _ _ _ _ hvisit hnext =>
      obtain ⟨classes, below', ha, -, -⟩ := visit_advance hlt hbelow hnbelow hvisit
      rw [hoptions] at ha
      have hstage' := hstage.step ha
      have hgrown' := hgrown.step hold hstage ha
      rcases ha.treated with ⟨hkind, -, -⟩ | ⟨-, hconverts, hrewrites⟩
      · rw [hcontainer] at hkind
        cases hkind
      -- the class keeps its parts, since later visits leave new tokens alone, and stays anchored in
      -- the tree
      refine ⟨classes, hconverts, hrewrites.distinct, fun p hp => ⟨?_, ?_⟩⟩
      · exact hstage'.isClassOf_later hgrown' hgrown.frame.size_le hnext (hrewrites.declared p hp)
      · have hmem : t ∈ before ++ [t] := List.mem_append_right before List.mem_cons_self
        have hanchored := (hrewrites.anchored hmem hbelow hp).run hstage' hnext
        obtain ⟨ids', _, hlast, -⟩ :=
          Stage.run (fun _ _ _ _ => True) (fun _ _ _ => trivial) hnext rfl hstage' trivial
        rw [List.append_assoc, List.singleton_append] at hlast hanchored
        exact ⟨ids', hlast.whole, hanchored.mem hlast⟩

/-- A class in the tree that the tree at the start had not comes from the visit of a container, one
function of which became this class. -/
theorem exists_passage {root : TokenId} {there : Store × Converter}
    (hold : Spans Cell.children s [some root] old) (hn : old.Nodup)
    (hpresent : ∀ u ∈ old, none ∉ (s.cell u).children)
    (hsteps : Steps visit (s, { x with classes := [] }) [⟨some root, none, depthBound s⟩] visited
      there left)
    (hreach : there.1.Reaches (some root) u) (hnew : s.size ≤ u)
    (hclass : there.1.hasKind Kind.classDecl (some u) = true) :
    ∃ before here t after name, visited = before ++ t :: after ∧
      Passage s root x before here t after there left ∧ here.1.isContainer (some t) = true ∧
      Converts here.1 x.options (some t) name ∧
      here.1.IsClassOf there.1 x.options (some t) (name, u) := by
  obtain ⟨ids', hlast, horigin⟩ := Stage.class_origin hold hsteps rfl (.start hold hn)
    (.start hold hpresent)
  rcases horigin u (hlast.whole.mem_of_reaches hreach) hclass with hmem |
    ⟨before, t, after, here, parent, depth, todo', name, hvisited, hfirst, hsecond, hmade⟩
  · exact absurd hnew (Nat.not_le_of_lt (hold.lt_size u hmem))
  · exact ⟨before, here, t, after, name, hvisited, ⟨parent, depth, todo', hfirst, hsecond⟩, hmade⟩

end Conversion

end ClassLift
