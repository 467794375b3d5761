import ClassLift.Proofs.Class.Offspring
import ClassLift.Proofs.Conversion.Permanence

set_option autoImplicit false

/-! # The tree stays a tree

A class shares the argument lists, the bodies and the super class expression of its functions with
statements that are still in the tree when it is declared. In the end no token stands at two places
all the same, comments included: after every visit the tree is unshared (`Stage.unshared_step`),
and the body of a function that became a member of a class stands below one method of one class
(`Candidate.Declared.houses`). `Conversion.transform_linear` says both of whole conversions, also
of those that stop.
-/

namespace ClassLift

open List Conversion Scan

variable {s s' : Store} {options : Options} {root parent : Slot} {t u b : TokenId}
  {visited ids below below' rest all : List TokenId} {todo left : List Task} {depth : Nat}
  {classes : List (String × TokenId)}

/-! ## No token at two places -/

/-- No token stands at two places of the tree, as a child or as a comment. -/
def Store.Unshared (s : Store) (root : Slot) : Prop :=
  ∃ all, Spans Cell.links s [root] all ∧ all.Nodup

/-- One visit leaves no token at two places. -/
theorem Stage.unshared_step {x x' : Converter} (h : s.Unshared (some u))
    (hstage : Stage s (some u) visited (⟨some t, parent, depth + 1⟩ :: todo) (t :: (below ++ rest)))
    (hpresent : ∀ v ∈ visited ++ t :: (below ++ rest), none ∉ (s.cell v).children)
    (ha : Advance options s s' t below below' classes)
    (hvisit : (visit (some t) parent).run.run (s, x) = (.ok (), (s', x'))) : s'.Unshared (some u) := by
  obtain ⟨all, hall, hn⟩ := h
  have hmem : ∀ v ∈ t :: below, v ∈ visited ++ t :: (below ++ rest) :=
    fun _ => mem_found_of_mem_visit
  have hwhole := hstage.whole
  obtain ⟨made, copied, -, hoffspring, -⟩ := visit_offspring hwhole.lt_size (hwhole.closed hpresent)
    ha.found (fun v hv => hpresent v (hmem v hv)) hmem hvisit
  have hstage' := hstage.step ha
  have hroot : ∀ v, some v ∈ [some u] → v ∈ visited ++ t :: (below ++ rest) := by
    intro v hv
    obtain rfl := Option.some.inj (List.mem_singleton.mp hv)
    exact hwhole.root_mem List.mem_cons_self
  obtain ⟨-, all', -, -, hall', hn', -⟩ := hoffspring.spans hall hn hwhole
    (ha.frame.mono fun v _ hv => hmem v hv) hstage'.whole hstage'.nodup hroot
  exact ⟨all', hall', hn'⟩

/-! ## Members of classes -/

/-- `k` is a method in the body of the class `p`. -/
structure Store.IsMember (s : Store) (p k : TokenId) : Prop where
  declaration : s.hasKind Kind.classDecl (some p) = true
  body : ∃ q, some q ∈ (s.cell p).children ∧ s.hasKind Kind.classBlock (some q) = true ∧
    some k ∈ (s.cell q).children
  method : s.hasKind Kind.method (some k) = true

/-- No token stands at two places of the tree, and each of the given bodies stands once in it,
below one method of one class. -/
def Store.Tidy (s : Store) (root : Slot) (IsBody : TokenId → Prop) : Prop :=
  ∃ all, Spans Cell.links s [root] all ∧ all.Nodup ∧ ∀ b, IsBody b →
    all.count b = 1 ∧ ∃! pk : TokenId × TokenId,
      pk.1 ∈ all ∧ pk.2 ∈ all ∧ s.IsMember pk.1 pk.2 ∧ some b ∈ (s.cell pk.2).children

namespace Method

/-- A method has the parts of its function, all but the name. -/
theorem Defined.shared_mem {m : Method} (h : m.Defined s s' t) {slot : Slot}
    (hslot : slot ∈ s.shared m) : slot ∈ (s'.cell t).children := by
  obtain ⟨f, name, comments, -, -, hcell, -⟩ := h.parts
  rw [hcell]
  exact List.mem_cons_of_mem _ hslot

end Method

namespace Candidate

variable {c : Candidate}

/-- The constructor of a class, where the function does something. -/
theorem Declared.builder_member (h : c.Declared s s' t) (hbody : s.emptyBody c.builder = false) :
    ∃ k, s'.IsMember t k ∧ c.builder.Defined s s' k := by
  obtain ⟨st, name, extends_, block, builder, others, comments, -, -, -, -, hcell, -, -, hblock,
    hbuilder, -⟩ := h.parts
  cases builder with
  | none =>
      have hempty : s.emptyBody c.builder = true := hbuilder
      rw [hbody] at hempty
      cases hempty
  | some k =>
      have hmember : some k ∈ (s'.cell block).children := by
        rw [hblock]
        exact List.mem_cons_self
      have hclass : some block ∈ (s'.cell t).children := by
        rw [hcell]
        simp [Cell.fresh]
      exact ⟨k, ⟨Store.hasKind_of_cell hcell rfl, ⟨block, hclass, Store.hasKind_of_cell hblock rfl, hmember⟩,
        hbuilder.2.hasKind⟩, hbuilder.2⟩

/-- Each of the methods is a member. -/
theorem Declared.method_member (h : c.Declared s s' t) {m : Method} (hm : m ∈ c.methods) :
    ∃ k, s'.IsMember t k ∧ m.Defined s s' k := by
  obtain ⟨st, name, extends_, block, builder, others, comments, -, -, -, -, hcell, -, -, hblock, -,
    hothers⟩ := h.parts
  obtain ⟨i, hi, rfl⟩ := List.getElem_of_mem hm
  have hi' : i < others.length := hothers.length_eq ▸ hi
  have hdefined : c.methods[i].Defined s s' others[i] := hothers.get hi hi'
  have hmember : some others[i] ∈ (s'.cell block).children := by
    rw [hblock]
    exact List.mem_map_of_mem (List.mem_append_right _ (List.getElem_mem hi'))
  have hclass : some block ∈ (s'.cell t).children := by
    rw [hcell]
    simp [Cell.fresh]
  exact ⟨others[i], ⟨Store.hasKind_of_cell hcell rfl,
    ⟨block, hclass, Store.hasKind_of_cell hblock rfl, hmember⟩, hdefined.hasKind⟩, hdefined⟩

end Candidate

/-! ## Bodies of functions -/

/-- The function becomes a member of the class that a function of the container becomes: its
constructor, or one of its methods. -/
inductive Store.BecomesMember (s : Store) (options : Options) (block function : Slot) : Prop where
  | constructor {name : String} {declaring : Slot} {c : Candidate}
      (converts : Converts s options block name) (mem : declaring ∈ s.children block)
      (declared : s.declaration? block declaring = .ok (some c)) (named : c.name = name)
      (eq : c.builder.function = function)
  | method {name : String} {m : Method} (converts : Converts s options block name)
      (mem : m ∈ s.methodsFor options block name (s.children block)) (eq : m.function = function)

/-- The body of the function is `b`, and it has statements. -/
def Store.HasBody (s : Store) (function : Slot) (b : TokenId) : Prop :=
  (∃ name arguments, s.children function = [name, arguments, some b]) ∧ (s.cell b).children ≠ []

theorem Store.HasBody.shared_mem {m : Method} (h : s.HasBody m.function b) :
    some b ∈ s.shared m ∧ s.emptyBody m = false := by
  obtain ⟨⟨name, arguments, hchildren⟩, hne⟩ := h
  constructor
  · rw [shared, hchildren]
    simp
  · have hbody : s.emptyBody m = (s.cell b).children.isEmpty := by
      rw [emptyBody, hchildren]
      rfl
    rw [hbody]
    simpa using hne

/-- The body of a function that becomes a member stands below a method of the class. -/
theorem Store.BecomesMember.houses {block function : Slot} {P : String × TokenId → Prop}
    (h : s.BecomesMember options block function) (hb : s.HasBody function b)
    (hclasses : ∀ name, Converts s options block name →
      ∃ p, p.1 = name ∧ s.IsClassOf s' options block p ∧ P p) :
    ∃ p k, P p ∧ s'.IsMember p.2 k ∧ some b ∈ (s'.cell k).children := by
  cases h with
  | @constructor name declaring c converts mem declared named eq =>
      obtain ⟨p, hname, hclass, hp⟩ := hclasses name converts
      obtain ⟨declaring', hmem, c', hc', hname', hdeclared⟩ := hclass
      obtain ⟨-, rfl⟩ := converts.declared_unique mem hmem declared hc' named (hname'.trans hname)
      obtain ⟨hshared, hempty⟩ := HasBody.shared_mem (m := c.builder) (eq ▸ hb)
      obtain ⟨k, hmember, hdefined⟩ := hdeclared.builder_member hempty
      exact ⟨p, k, hp, hmember, hdefined.shared_mem hshared⟩
  | @method name m converts mem eq =>
      obtain ⟨p, hname, hclass, hp⟩ := hclasses name converts
      obtain ⟨declaring, -, c, -, -, hdeclared⟩ := hclass
      have hmethod : m ∈ s.methodsFor options block p.1 (s.children block) := by
        rw [hname]
        exact mem
      obtain ⟨k, hmember, hdefined⟩ := hdeclared.method_member hmethod
      exact ⟨p, k, hp, hmember, hdefined.shared_mem (HasBody.shared_mem (eq ▸ hb)).1⟩

/-- What stands below a method of a class stands once in an unshared tree, below one method of one
class. -/
theorem Store.IsMember.unique (hall : Spans Cell.links s [root] all) (hn : all.Nodup)
    {p k : TokenId} (hp : p ∈ all) (h : s.IsMember p k) (hb : some b ∈ (s.cell k).children) :
    all.count b = 1 ∧ ∃! pk : TokenId × TokenId,
      pk.1 ∈ all ∧ pk.2 ∈ all ∧ s.IsMember pk.1 pk.2 ∧ some b ∈ (s.cell pk.2).children := by
  have hlink : ∀ {v w : TokenId}, some v ∈ (s.cell w).children → some v ∈ (s.cell w).links :=
    fun hv => (Cell.children_sublist_links _).subset hv
  obtain ⟨q, hq, -, hk⟩ := h.body
  have hqmem : q ∈ all := hall.link_mem hp (hlink hq)
  have hkmem : k ∈ all := hall.link_mem hqmem (hlink hk)
  have hbmem : b ∈ all := hall.link_mem hkmem (hlink hb)
  refine ⟨List.count_eq_one_of_mem hn hbmem, (p, k), ⟨hp, hkmem, h, hb⟩, ?_⟩
  rintro ⟨p', k'⟩ ⟨hp', hk', h', hb'⟩
  -- every token has one place only, so that the ways up are the same
  obtain rfl : k' = k := hall.parent_unique hn hk' hkmem (hlink hb') (hlink hb)
  obtain ⟨q', hq', -, hkq'⟩ := h'.body
  have hqmem' : q' ∈ all := hall.link_mem hp' (hlink hq')
  obtain rfl : q' = q := hall.parent_unique hn hqmem' hqmem (hlink hkq') (hlink hk)
  obtain rfl : p' = p := hall.parent_unique hn hp' hp (hlink hq') (hlink hq)
  rfl

/-! ## The whole conversion -/

namespace Conversion

/-- In one of the visits so far, the function with the body `b` became a member of a class. -/
def TookBody (s : Store) (root : TokenId) (x : Converter) (visited : List TokenId)
    (there : Store × Converter) (left : List Task) (b : TokenId) : Prop :=
  ∃ before t after here function, visited = before ++ t :: after ∧
    Passage s root x before here t after there left ∧ here.1.isContainer (some t) = true ∧
    here.1.BecomesMember x.options (some t) function ∧ here.1.HasBody function b

variable {root : TokenId} {x : Converter} {there : Store × Converter}

/-- After any number of visits, no token stands at two places. -/
theorem unshared_of_steps (hspans : Spans Cell.links s [some root] all) (hn : all.Nodup)
    (hpresent : ∀ u ∈ all, none ∉ (s.cell u).links)
    (hsteps : Steps visit (s, { x with classes := [] }) [⟨some root, none, depthBound s⟩] visited
      there left) : there.1.Unshared (some root) := by
  obtain ⟨old, hold, hnold, hwhole⟩ := hspans.without_comments hn hpresent
  obtain ⟨_, _, -, ⟨-, hunshared⟩, -⟩ :=
    Stage.run_of_visits
      (fun s' visited _ ids => Grown s old s' (visited ++ ids) ∧ s'.Unshared (some root))
      (fun hstage hinv ha _ hvisit =>
        ⟨hinv.1.step hold hstage ha, hstage.unshared_step hinv.2 hinv.1.present ha hvisit⟩)
      hsteps rfl (.start hold hnold) ⟨.start hold hwhole, all, hspans, hn⟩
  exact hunshared

/-- In an unshared tree without gaps, no token stands at two places after any number of visits,
and the bodies of the functions that became members of classes stand once in the tree, each below
one method of one class. A conversion ends with such a store, whether it returns or stops. -/
theorem transform_linear (hspans : Spans Cell.links s [some root] all) (hn : all.Nodup)
    (hpresent : ∀ u ∈ all, none ∉ (s.cell u).links) (x : Converter) :
    (∀ visited there left,
      Steps visit (s, { x with classes := [] }) [⟨some root, none, depthBound s⟩] visited there left →
        there.1.Tidy (some root) (TookBody s root x visited there left)) ∧
      ∃ visited there left result x',
        Steps visit (s, { x with classes := [] }) [⟨some root, none, depthBound s⟩] visited there
            left ∧
          (transform (some root)).run.run (s, x) = (result, (there.1, x')) := by
  obtain ⟨old, hold, hnold, hwhole⟩ := hspans.without_comments hn hpresent
  constructor
  · intro visited there left hsteps
    obtain ⟨all', hall', hn'⟩ := unshared_of_steps hspans hn hpresent hsteps
    refine ⟨all', hall', hn', fun b hb => ?_⟩
    obtain ⟨before, t, after, here, function, -, hpassage, hcontainer, hbecomes, hbody⟩ := hb
    obtain ⟨classes, hconverts, -, hclasses⟩ := hpassage.isClassOf hold hnold hwhole hcontainer
    obtain ⟨p, k, hp, hmember, hchild⟩ := hbecomes.houses
      (P := fun p => p.2 ∈ all') hbody fun name hname => by
        obtain ⟨p, hp, rfl⟩ := List.mem_map.mp ((hconverts name).mpr hname)
        obtain ⟨hclass, ids, hids, hmem⟩ := hclasses p hp
        obtain ⟨ids', hids', hsub'⟩ := hall'.restrict Cell.children_sublist_links
        refine ⟨p, rfl, hclass, hsub'.subset ?_⟩
        rw [hids'.unique hids]
        exact hmem
    exact hmember.unique hall' hn' hp hchild
  · obtain ⟨visited, y, left, hsteps⟩ :=
      steps_of_transform hspans hn hpresent (x := x) rfl
    exact ⟨visited, _, left, _, _, hsteps, rfl⟩

/-- The source file with a statement in both functions. -/
def busyFile : Store :=
  (((pointFile.push (.fresh Kind.text "start" 1 18 [])).push (.fresh Kind.text "step" 2 35 [])).set 2
    (.fresh Kind.block "\x7b\x7d" 1 17 [some 15])).set 11 (.fresh Kind.block "\x7b\x7d" 2 34 [some 16])

theorem busyFile_spans : ∃ all, Spans Cell.links busyFile [some 14] all ∧ all.Nodup :=
  Spans.exists_of_preorder busyFile.size (by decide)

/-- The function of the file becomes a class. -/
theorem converts_busyFile : Converts busyFile ⟨true, true⟩ (some 14) "Point" := by
  obtain ⟨all, hspans, hn⟩ := busyFile_spans
  obtain ⟨ids, hids, hsub⟩ := hspans.restrict Cell.children_sublist_links
  obtain ⟨-, below, rfl, hbelow⟩ := hids.of_singleton
  have hvisit : (visit (some 14) none).run.run (busyFile, .start ⟨true, true⟩) = _ := rfl
  obtain ⟨-, classes, hconverts, hclasses, -⟩ :=
    visit_progress hbelow (hn.sublist hsub) (by decide) (by decide) hvisit
  have hmade : ["Point"] = classes.map Prod.fst := hclasses
  exact (hconverts "Point").mp (hmade ▸ List.mem_cons_self)

theorem transform_linear_busyFile :
    ∃ all, Spans Cell.links busyFile [some 14] all ∧ all.Nodup ∧
      (∀ u ∈ all, none ∉ (busyFile.cell u).links) ∧
      ∃ there left,
        Steps visit (busyFile, .start ⟨true, true⟩) [⟨some 14, none, depthBound busyFile⟩] [14] there
            left ∧
          TookBody busyFile 14 (.start ⟨true, true⟩) [14] there left 11 ∧
          there.1.Tidy (some 14) (TookBody busyFile 14 (.start ⟨true, true⟩) [14] there left) := by
  obtain ⟨all, hspans, hn⟩ := busyFile_spans
  have hpresent : ∀ u < 17, none ∉ (busyFile.cell u).links := by decide
  have hvisit : (visit (some 14) none).run.run (busyFile, .start ⟨true, true⟩) = _ := rfl
  have hsteps : Steps visit (busyFile, .start ⟨true, true⟩) [⟨some 14, none, 71 + 1⟩] [14] _ _ :=
    .head hvisit (.refl _ _)
  refine ⟨all, hspans, hn, fun u hu => hpresent u (hspans.lt_size u hu), _, _, hsteps, ?_,
    (transform_linear hspans hn (fun u hu => hpresent u (hspans.lt_size u hu))
      (.start ⟨true, true⟩)).1 [14] _ _ hsteps⟩
  -- the function of the method has a statement
  refine ⟨[], 14, [], _, some 12, rfl, ⟨none, 71, [], .refl _ _, hsteps⟩, by decide, ?_, ?_⟩
  · exact .method (m := ⟨"norm", some 12, some 13, [some 13], some 14, ""⟩) converts_busyFile (by decide) rfl
  · exact ⟨⟨some 9, some 10, by decide⟩, by decide⟩

end Conversion

end ClassLift
