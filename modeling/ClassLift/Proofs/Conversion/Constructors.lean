import ClassLift.Proofs.Class.Constructor
import ClassLift.Proofs.Conversion.Linearity

set_option autoImplicit false

/-! # One constructor per class

What a class of a conversion has for a constructor depends on the statements of the container that
it was made in. A member assignment and the pair of a table never give a member called
`constructor`, but an entry that is a function without a key does, under the function's own name.
Where no statement assigns the prototype an object literal with such an entry, a class has at most
one constructor: the function that became the class. This holds of all classes that a conversion
puts into the tree (`Conversion.transform_constructors`).
-/

namespace ClassLift

open List Conversion Scan

variable {s s' : Store} {options : Options} {block : Slot} {p : String × TokenId}

/-- At most one member of the class is called `constructor`; it is the first one, and has the
argument list and the body of the function `builder` of the earlier store. -/
structure Store.OneConstructor (s s' : Store) (t : TokenId) (builder : Method) : Prop where
  atMostOne : (s'.members t).countP (s'.isMethodNamed "constructor") ≤ 1
  first : ∀ k, some k ∈ s'.members t → s'.isMethodNamed "constructor" (some k) = true →
    (s'.members t).head? = some (some k) ∧ (s'.cell k).children.drop 1 = s.shared builder

/-- None of the statements assigns a prototype an object literal with a function without a key that
is called `constructor`. -/
def Store.NoShorthand (s : Store) (statements : List Slot) : Prop :=
  ∀ statement ∈ statements, ∀ entry, ¬s.AssignsShorthand statement entry

/-- The members called `constructor` of the class `p.2` of the later store. The function `p.1` of
the block became this class; `builder` stands for it as a method. -/
structure Store.HasConstructors (s s' : Store) (options : Options) (block : Slot)
    (p : String × TokenId) (builder : Method) : Prop where
  /-- There is one for the function, when that does something, and one for each method of this
  name. -/
  count : (s'.members p.2).countP (s'.isMethodNamed "constructor") =
    (if s.emptyBody builder = true then 0 else 1) +
      (s.methodsFor options block p.1 (s.children block)).countP (·.name == "constructor")
  /-- Such a method is a function without a key in a table for the prototype. -/
  shorthand : ∀ m ∈ s.methodsFor options block p.1 (s.children block), m.name = "constructor" →
    ∃ statement ∈ s.owned p.1 (s.children block), s.AssignsShorthand statement m.function
  /-- Where no table has one, there is one constructor at most. -/
  one : s.NoShorthand (s.owned p.1 (s.children block)) → s.OneConstructor s' p.2 builder

/-- A method called `constructor` is a function without a key in a table. -/
theorem Store.shorthand_of_methodsFor {name : String} {statements : List Slot} {m : Method}
    (hm : m ∈ s.methodsFor options block name statements) (hname : m.name = "constructor") :
    ∃ statement ∈ s.owned name statements, s.AssignsShorthand statement m.function := by
  obtain ⟨statement, howned, hm⟩ := List.mem_flatMap.mp hm
  exact ⟨statement, howned, shorthand_of_methodsOf hm hname⟩

/-- Without such entries, the statements about a prototype give no method called `constructor`. -/
theorem Store.NoShorthand.name_ne {name : String} {statements : List Slot} {m : Method}
    (h : s.NoShorthand (s.owned name statements))
    (hm : m ∈ s.methodsFor options block name statements) : m.name ≠ "constructor" := by
  intro hname
  obtain ⟨statement, howned, hshorthand⟩ := shorthand_of_methodsFor hm hname
  exact h statement howned _ hshorthand

/-- What a class has for constructors, by the statements of the block. -/
theorem Store.IsClassOf.constructors (h : s.IsClassOf s' options block p) :
    ∃ declaring ∈ s.children block, ∃ c, s.declaration? block declaring = .ok (some c) ∧
      c.name = p.1 ∧ s.HasConstructors s' options block p c.builder := by
  obtain ⟨declaring, hmem, c, hc, hname, hdeclared⟩ := h
  have hbuilder : c.builder.name = "constructor" := Store.name_of_builder hc
  have hcount := hdeclared.count_constructors hbuilder
  refine ⟨declaring, hmem, c, hc, hname, hcount, fun m => shorthand_of_methodsFor,
    fun hshorthand => ⟨?_, fun k hk hnamed => ?_⟩⟩
  · have hzero : (s.methodsFor options block p.1 (s.children block)).countP
        (·.name == "constructor") = 0 := by
      rw [List.countP_eq_zero]
      intro m hm
      simpa using hshorthand.name_ne hm
    have hcount : _ = _ + (s.methodsFor options block p.1 (s.children block)).countP
      (·.name == "constructor") := hcount
    rw [hcount, hzero]
    split <;> omega
  · exact hdeclared.constructor_first (fun m hm => hshorthand.name_ne hm) hk hnamed

namespace Conversion

variable {root : TokenId} {all : List TokenId}

/-- Every class that a conversion puts into an unshared tree without gaps was made of a function of
a container when that was visited, and has from then on the constructors that the statements of the
container give it: one for the function, if that does something, and no other, unless a statement
assigns the prototype an object literal with a function `constructor` without a key. A conversion
ends with such a store, whether it returns or stops. -/
theorem transform_constructors (hspans : Spans Cell.links s [some root] all) (hn : all.Nodup)
    (hpresent : ∀ u ∈ all, none ∉ (s.cell u).links) (x : Converter) :
    (∀ visited there left,
      Steps visit (s, { x with classes := [] }) [⟨some root, none, depthBound s⟩] visited there left →
      ∀ t, there.1.Reaches (some root) t → there.1.hasKind Kind.classDecl (some t) = true →
        s.size ≤ t →
        ∃ before here block after name, visited = before ++ block :: after ∧
          Passage s root x before here block after there left ∧
          here.1.isContainer (some block) = true ∧
          Converts here.1 x.options (some block) name ∧
          here.1.IsClassOf there.1 x.options (some block) (name, t) ∧
          ∃ declaring ∈ (here.1.cell block).children, ∃ c,
            here.1.declaration? (some block) declaring = .ok (some c) ∧ c.name = name ∧
            here.1.HasConstructors there.1 x.options (some block) (name, t) c.builder) ∧
      ∃ visited there left result x',
        Steps visit (s, { x with classes := [] }) [⟨some root, none, depthBound s⟩] visited there
            left ∧
          (transform (some root)).run.run (s, x) = (result, (there.1, x')) := by
  obtain ⟨old, hold, hnold, hwhole⟩ := hspans.without_comments hn hpresent
  constructor
  · intro visited there left hsteps t hreach hclass hnew
    obtain ⟨before, here, block, after, name, hvisited, hpassage, hcontainer, hconverts, hmade⟩ :=
      exists_passage hold hnold hwhole hsteps hreach hnew hclass
    exact ⟨before, here, block, after, name, hvisited, hpassage, hcontainer, hconverts, hmade,
      hmade.constructors⟩
  · obtain ⟨visited, y, left, hsteps⟩ := steps_of_transform hspans hn hpresent (x := x) rfl
    exact ⟨visited, _, left, _, _, hsteps, rfl⟩

theorem busyFile_statements : (busyFile.cell 14).children = [some 3, some 13] := by
  decide

/-- The value of the one assignment in this file is a function. -/
theorem busyFile_noShorthand :
    busyFile.NoShorthand (busyFile.owned "Point" (busyFile.cell 14).children) := by
  rintro statement howned entry ⟨target, object, hchildren, -, hkind, -⟩
  have hstatement := List.mem_of_mem_filter howned
  rw [busyFile_statements] at hstatement
  simp only [List.mem_cons, List.not_mem_nil, or_false] at hstatement
  rcases hstatement with rfl | rfl
  · cases hchildren
  · cases hchildren
    revert hkind
    decide

/-- In the source file with a statement in both functions, the visit makes one class, and this has one
constructor, that of the function. -/
theorem transform_constructors_busyFile :
    ∃ all, Spans Cell.links busyFile [some 14] all ∧ all.Nodup ∧
      (∀ u ∈ all, none ∉ (busyFile.cell u).links) ∧
      ∃ there left,
        Steps visit (busyFile, .start ⟨true, true⟩) [⟨some 14, none, depthBound busyFile⟩] [14] there
            left ∧
          (there.1.cell 14).children = [some 24] ∧ there.1.Reaches (some 14) 24 ∧
          there.1.hasKind Kind.classDecl (some 24) = true ∧ busyFile.size ≤ 24 ∧
          busyFile.NoShorthand (busyFile.owned "Point" (busyFile.cell 14).children) ∧
          (there.1.members 24).countP (there.1.isMethodNamed "constructor") = 1 ∧
          ∃ c, busyFile.declaration? (some 14) (some 3) = .ok (some c) ∧
            busyFile.OneConstructor there.1 24 c.builder := by
  obtain ⟨all, hspans, hn⟩ := busyFile_spans
  have hpresent : ∀ u < 17, none ∉ (busyFile.cell u).links := by decide
  have hwhole : ∀ u ∈ all, none ∉ (busyFile.cell u).links := fun u hu =>
    hpresent u (hspans.lt_size u hu)
  have hvisit : (visit (some 14) none).run.run (busyFile, .start ⟨true, true⟩) = _ := rfl
  have hsteps : Steps visit (busyFile, .start ⟨true, true⟩) [⟨some 14, none, 71 + 1⟩] [14] _ _ :=
    .head hvisit (.refl _ _)
  refine ⟨all, hspans, hn, hwhole, _, _, hsteps, by decide, (Store.Reaches.refl _ 14).child (by decide),
    by decide, by decide, busyFile_noShorthand, by decide, ?_⟩
  obtain ⟨before, here, block, after, name, hvisited, hpassage, -, -, hmade, declaring, hdeclaring, c, hc,
    hname, hconstructors⟩ := (transform_constructors hspans hn hwhole (.start ⟨true, true⟩)).1 [14] _ _
      hsteps 24 ((Store.Reaches.refl _ 14).child (by decide)) (by decide) (by decide)
  -- the only visit is that of the whole file
  obtain ⟨rfl, rfl, rfl⟩ : before = [] ∧ block = 14 ∧ after = [] := by
    cases before with
    | nil => simpa [eq_comm] using hvisited
    | cons => simp at hvisited
  obtain ⟨parent, depth, todo, hfirst, -⟩ := hpassage.split
  cases hfirst
  obtain ⟨point, hpoint, hpointName⟩ :
      ∃ c, busyFile.declaration? (some 14) (some 3) = .ok (some c) ∧ c.name = "Point" := ⟨_, rfl, rfl⟩
  have hnone : busyFile.declaration? (some 14) (some 13) = .ok none := rfl
  have hdeclaring : declaring ∈ [some 3, some 13] := busyFile_statements ▸ hdeclaring
  simp only [List.mem_cons, List.not_mem_nil, or_false] at hdeclaring
  rcases hdeclaring with rfl | rfl
  · obtain rfl : c = point := Option.some.inj (Except.ok.inj (hc.symm.trans hpoint))
    obtain rfl : "Point" = name := hpointName.symm.trans hname
    exact ⟨c, hc, hconstructors.one busyFile_noShorthand⟩
  · rw [hnone] at hc
    cases hc

/-- `function Point() { start }`, and a table for its prototype with a function `constructor`
without a key, which has no statements. -/
def shorthandFile : Store where
  cells := #[
    .fresh Kind.text "Point" 1 9 [],
    .fresh Kind.arguments "()" 1 14 [],
    .fresh Kind.text "start" 1 19 [],
    .fresh Kind.block "\x7b\x7d" 1 17 [some 2],
    .fresh Kind.functionDecl "function" 1 0 [some 0, some 1, some 3],
    .fresh Kind.text "Point" 2 0 [],
    .fresh Kind.memberName "prototype" 2 6 [],
    .fresh Kind.member "." 2 5 [some 5, some 6],
    .fresh Kind.text "constructor" 3 2 [],
    .fresh Kind.arguments "()" 3 13 [],
    .fresh Kind.block "\x7b\x7d" 3 16 [],
    .fresh Kind.functionDecl "function" 3 2 [some 8, some 9, some 10],
    .fresh Kind.object "\x7b\x7d" 2 18 [some 11],
    .fresh Kind.assign "=" 2 16 [some 7, some 12],
    .fresh Kind.sourceFile "" 1 0 [some 4, some 13]]

/-- The class of this file has two constructors. -/
theorem two_constructors :
    ∃ all, Spans Cell.links shorthandFile [some 14] all ∧ all.Nodup ∧
      (∀ u ∈ all, none ∉ (shorthandFile.cell u).links) ∧
      ∃ there left,
        Steps visit (shorthandFile, .start ⟨true, true⟩)
          [⟨some 14, none, depthBound shorthandFile⟩] [14] there left ∧
        (there.1.cell 14).children = [some 22] ∧
        there.1.hasKind Kind.classDecl (some 22) = true ∧
        (there.1.members 22).countP (there.1.isMethodNamed "constructor") = 2 := by
  have hpresent : ∀ u < 15, none ∉ (shorthandFile.cell u).links := by decide
  obtain ⟨all, hspans, hn⟩ : ∃ all, Spans Cell.links shorthandFile [some 14] all ∧ all.Nodup :=
    Spans.exists_of_preorder shorthandFile.size (by decide)
  have hvisit : (visit (some 14) none).run.run (shorthandFile, .start ⟨true, true⟩) = _ := rfl
  have hsteps : Steps visit (shorthandFile, .start ⟨true, true⟩) [⟨some 14, none, 63 + 1⟩] [14] _ _ :=
    .head hvisit (.refl _ _)
  exact ⟨all, hspans, hn, fun u hu => hpresent u (hspans.lt_size u hu), _, _, hsteps,
    by decide, by decide, by decide⟩

end Conversion

end ClassLift
