import ClassLift.Proofs.Class.Constructor
import ClassLift.Proofs.Conversion.Confinement
import ClassLift.Proofs.Conversion.Idempotence
import ClassLift.Proofs.Conversion.Permanence
import Mathlib.Data.List.Forall2

set_option autoImplicit false

/-! # The definition that wins

A member of a prototype may be defined several times; the last definition counts. A class stands
before the statements that are left of its container, so that the functions among the definitions
come first after the conversion, and then the assignments of anything else. No definition is lost,
and both sorts keep their order (`Store.PassesDefinitions`). So the last definition is the same one
as before, but where a function comes after an assignment that is left: then the assignment wins
(`Conversion.visit_definitions`).
-/

namespace ClassLift

open List

variable {s s' : Store} {options : Options} {block : TokenId} {slot : Slot} {name member : String}
  {statements : List Slot} {p : String × TokenId} {classes : List (String × TokenId)}
  {ids : List TokenId}

/-! ## Statements that assign a member -/

/-- Is the statement `A.prototype.b = …`, for the given names `A` and `b`? -/
def Store.assigns (s : Store) (name member : String) (statement : Slot) : Bool :=
  match s.children statement with
  | [target, _] =>
    s.isToken Kind.assign "=" statement && s.prototypeMember? target == some (name, member)
  | _ => false

namespace Store

theorem assigns_eq_true (h : s.assigns name member slot = true) :
    s.isAssign slot = .ok true ∧ ∃ target value, s.children slot = [target, value] ∧
      s.prototypeMember? target = some (name, member) := by
  unfold assigns at h
  split at h
  case h_2 => cases h
  rename_i target value hchildren
  rw [Bool.and_eq_true, beq_iff_eq] at h
  obtain ⟨l, hl, hkind, hvalue⟩ := isToken_iff.mp h.1
  refine ⟨?_, target, value, hchildren, h.2⟩
  exact bind_eq_ok.mpr ⟨l, label_eq_ok.mpr hl, by rw [hchildren, hkind, hvalue]; rfl⟩

theorem modifies_of_assigns (h : s.assigns name member slot = true) :
    s.modifies name slot = true := by
  obtain ⟨hassign, target, value, hchildren, hmember⟩ := assigns_eq_true h
  have hutil := utilInherits_of_isAssign hassign
  have htarget : s.child slot 0 = .ok target := by
    rw [child_eq_ok, hchildren]
    rfl
  refine modifies_iff.mpr (bind_eq_ok.mpr ⟨none, hutil, bind_eq_ok.mpr ⟨true, hassign, ?_⟩⟩)
  refine bind_eq_ok.mpr ⟨target, htarget, ?_⟩
  rw [prototypeOf_eq_none_of_member hmember, hmember]
  rfl

/-- A statement that assigns a member is no reset of the constructor, unless it is that. -/
theorem resets_of_assigns (h : s.assigns name member slot = true) (hm : member ≠ "constructor")
    (other : String) : s.resets other slot = false := by
  obtain ⟨-, target, value, hchildren, hmember⟩ := assigns_eq_true h
  cases hr : s.resets other slot with
  | false => rfl
  | true =>
      obtain ⟨-, target', value', owner, hchildren', hmember', -⟩ :=
        isConstructorReset_eq_true (resets_iff.mp hr)
      rw [hchildren] at hchildren'
      cases hchildren'
      rw [hmember] at hmember'
      cases hmember'
      exact absurd rfl hm

theorem inherits_of_assigns (h : s.assigns name member slot = true) : s.inherits slot = false := by
  obtain ⟨hassign, target, value, hchildren, hmember⟩ := assigns_eq_true h
  cases hi : s.inherits slot with
  | false => rfl
  | true =>
      obtain ⟨base, hbase⟩ := Option.isSome_iff_exists.mp hi
      rcases superClass_eq_some (superOf_eq_some.mp hbase) with ⟨owner, hutil⟩ | ⟨hreplaces, -⟩
      · have hcall := (utilInherits_eq_some hutil).1
        exact absurd (hasKind_unique hcall (kind_of_isAssign hassign)) (by decide)
      · obtain ⟨-, target', value', owner, hchildren', howner⟩ := replacesPrototype_eq_true hreplaces
        rw [hchildren] at hchildren'
        cases hchildren'
        rw [prototypeOf_eq_none_of_member hmember] at howner
        cases howner

/-- An assignment of a member gives a method when its value is a function, and else none. -/
theorem methodsOf_of_assigns (h : s.assigns name member slot = true) :
    s.methodsOf options (some block) slot = [] ∨
      ∃ value, s.methodsOf options (some block) slot =
        [⟨member, value, slot, [slot], some block, ""⟩] := by
  obtain ⟨-, target, value, hchildren, hmember⟩ := assigns_eq_true h
  by_cases hne : s.methodsOf options (some block) slot = []
  · exact Or.inl hne
  obtain ⟨-, target', value', hchildren', hms⟩ := methods_eq_some (exists_methods_of_ne_nil hne)
  rw [hchildren] at hchildren'
  cases hchildren'
  rcases hms with ⟨owner, other, hmember', -, -, hms⟩ | ⟨owner, hnone, -⟩
  · rw [hmember] at hmember'
    cases hmember'
    exact Or.inr ⟨value, hms⟩
  · rw [hmember] at hnone
    cases hnone

theorem not_declares_of_assigns {declared : String} (h : s.assigns name member slot = true) :
    ¬s.declares (some block) declared slot = true := fun hdeclares =>
  modifies_of_declares hdeclares name (modifies_of_assigns h)

theorem assigns_of_kind {kind : Kind} (h : s.hasKind kind slot = true) (hk : kind ≠ Kind.assign) :
    s.assigns name member slot = false := by
  cases ha : s.assigns name member slot with
  | false => rfl
  | true => exact absurd (hasKind_unique h (kind_of_isAssign (assigns_eq_true ha).1)) hk

end Store

theorem SameFace.assigns (h : SameFace s s' [slot]) :
    s'.assigns name member slot = s.assigns name member slot := by
  by_cases ha : s.isAssign slot = .ok true
  · obtain ⟨hchildren, hdown⟩ := h.of_isAssign ha
    unfold Store.assigns
    rw [hchildren, h.isToken]
    split
    · rename_i target value heq
      rw [(hdown target (by rw [heq]; exact List.mem_cons_self)).prototypeMember?]
    · rfl
  · have hneither : ∀ r : Store, r.isAssign slot = s.isAssign slot →
        r.assigns name member slot = false := by
      intro r hr
      cases hassigns : r.assigns name member slot with
      | false => rfl
      | true => exact absurd (hr ▸ (Store.assigns_eq_true hassigns).1) ha
    rw [hneither s rfl, hneither s' h.isAssign]

/-! ## Definitions -/

/-- A place where a member of a prototype is defined. -/
inductive Definition where
  /-- A statement that assigns the member. -/
  | statement (slot : Slot)
  /-- A function in a method table. -/
  | entry (function : Slot)
  /-- A method of a class. -/
  | method (slot : Slot)
  deriving DecidableEq

/-- The functions in a method table. -/
def Definition.entries (methods : List Method) : List Definition :=
  methods.map fun m => .entry m.function

namespace Store

variable (s options block name member)

/-- The definitions of a member that one statement gives: itself, or entries of the method table
that it assigns. -/
def definitionsOf (statement : Slot) : List Definition :=
  if s.assigns name member statement then [.statement statement]
  else if s.modifies name statement then
    Definition.entries ((s.methodsOf options (some block) statement).filter (·.name == member))
  else []

/-- The definitions of a member in some statements of a container, in order. -/
def definitions (statements : List Slot) : List Definition :=
  statements.flatMap (s.definitionsOf options block name member)

/-- The definitions of a member in a class and in the statements of the container after it. -/
def classDefinitions (t : TokenId) : List Definition :=
  ((s.members t).filter (s.isMethodNamed member)).map .method ++
    ((s.cell block).children.filter (s.assigns name member)).map .statement

/-- Does the statement assign the member, and no function? -/
def leaves (statement : Slot) : Bool :=
  s.assigns name member statement && (s.methodsOf options (some block) statement).isEmpty

/-- Does the definition stay where it is: is it a statement that gives no method? -/
def stays : Definition → Bool
  | .statement slot => (s.methodsOf options (some block) slot).isEmpty
  | _ => false

end Store

/-- The definition after the conversion is what became of the one before. -/
inductive ComesFrom (s s' : Store) (options : Options) (block : TokenId) :
    Definition → Definition → Prop where
  /-- The statement is still there, and looks as before. -/
  | kept {slot : Slot} (same : SameFace s s' [slot]) :
      ComesFrom s s' options block (.statement slot) (.statement slot)
  /-- The function assigned is the method now. -/
  | assigned {slot : Slot} {m : Method} {k : TokenId}
      (gives : s.methodsOf options (some block) slot = [m]) (defined : m.Defined s s' k) :
      ComesFrom s s' options block (.statement slot) (.method (some k))
  /-- The function in the table is the method now. -/
  | listed {slot : Slot} {m : Method} {k : TokenId}
      (gives : m ∈ s.methodsOf options (some block) slot) (defined : m.Defined s s' k) :
      ComesFrom s s' options block (.entry m.function) (.method (some k))

/-! ## Functions and other values -/

namespace Store

/-- The definition is the method, before it is made. -/
inductive Gives (s : Store) (options : Options) (block : TokenId) : Definition → Method → Prop where
  | assigned {slot : Slot} {m : Method} (gives : s.methodsOf options (some block) slot = [m]) :
      Gives s options block (.statement slot) m
  | listed {slot : Slot} {m : Method} (gives : m ∈ s.methodsOf options (some block) slot) :
      Gives s options block (.entry m.function) m

theorem gives_entries {ms : List Method}
    (h : ∀ m ∈ ms, m ∈ s.methodsOf options (some block) slot) :
    Forall₂ (s.Gives options block) (Definition.entries ms) ms := by
  rw [Definition.entries, List.forall₂_map_left_iff, List.forall₂_same]
  exact fun m hm => .listed (h m hm)

theorem stays_of_mem_entries {ms : List Method} {d : Definition} (h : d ∈ Definition.entries ms) :
    s.stays options block d = false := by
  obtain ⟨m, -, rfl⟩ := List.mem_map.mp h
  rfl

/-- Of the definitions that one statement gives, those which do not stay are its methods. -/
theorem definitionsOf_methods :
    Forall₂ (s.Gives options block)
      ((s.definitionsOf options block name member slot).filter fun d => !s.stays options block d)
      (((s.owned name [slot]).flatMap (s.methodsOf options (some block))).filter
        (·.name == member)) := by
  -- an assignment of the member itself, a method table, or neither
  unfold definitionsOf owned
  by_cases ha : s.assigns name member slot = true
  · rw [if_pos ha, List.filter_cons_of_pos (modifies_of_assigns ha), List.filter_nil,
      List.flatMap_singleton]
    have hmethods : s.methodsOf options (some block) slot = [] ∨ ∃ value,
        s.methodsOf options (some block) slot =
          [⟨member, value, slot, [slot], some block, ""⟩] := methodsOf_of_assigns ha
    rcases hmethods with hnone | ⟨value, hone⟩
    · rw [List.filter_cons_of_neg (by simp [stays, hnone]), hnone]
      exact .nil
    · rw [List.filter_cons_of_pos (by simp [stays, hone]), hone,
        List.filter_cons_of_pos (by simp)]
      exact .cons (.assigned hone) .nil
  · rw [if_neg ha]
    by_cases ho : s.modifies name slot = true
    · rw [if_pos ho, List.filter_cons_of_pos ho, List.filter_nil, List.flatMap_singleton]
      rw [List.filter_eq_self.mpr fun d hd => by rw [stays_of_mem_entries hd]; rfl]
      exact gives_entries fun m hm => List.mem_of_mem_filter hm
    · rw [if_neg ho, List.filter_cons_of_neg ho]
      exact .nil

theorem leaves_iff : s.leaves options block name member slot = true ↔
    s.assigns name member slot = true ∧ s.methodsOf options (some block) slot = [] := by
  rw [leaves, Bool.and_eq_true, List.isEmpty_iff]

/-- Of the definitions that one statement gives, only itself may stay. -/
theorem definitionsOf_stays :
    (s.definitionsOf options block name member slot).filter (s.stays options block) =
      ([slot].filter (s.leaves options block name member)).map .statement := by
  unfold definitionsOf
  by_cases ha : s.assigns name member slot = true
  · have hsame : s.stays options block (.statement slot) = s.leaves options block name member slot := by
      rw [leaves, ha, Bool.true_and]
      rfl
    rw [if_pos ha, List.filter_cons, List.filter_cons, hsame]
    split <;> rfl
  · have hnot : ¬s.leaves options block name member slot = true := fun h => ha (leaves_iff.mp h).1
    rw [if_neg ha, List.filter_cons_of_neg hnot]
    split
    · exact List.filter_eq_nil_iff.mpr fun d hd => by rw [stays_of_mem_entries hd]; simp
    · rfl

/-- Of the definitions in some statements, those which do not stay are the methods of the class. -/
theorem definitions_methods (statements : List Slot) :
    Forall₂ (s.Gives options block)
      ((s.definitions options block name member statements).filter fun d => !s.stays options block d)
      ((s.methodsFor options (some block) name statements).filter (·.name == member)) := by
  induction statements with
  | nil => exact .nil
  | cons st statements ih =>
      have howned : s.owned name (st :: statements) = s.owned name [st] ++ s.owned name statements :=
        List.filter_append (p := s.modifies name) [st] statements
      rw [definitions, List.flatMap_cons, List.filter_append, methodsFor, howned,
        List.flatMap_append, List.filter_append]
      exact List.rel_append definitionsOf_methods ih

/-- Of the definitions in some statements, those which stay are assignments of other values. -/
theorem definitions_stays (statements : List Slot) :
    (s.definitions options block name member statements).filter (s.stays options block) =
      (statements.filter (s.leaves options block name member)).map .statement := by
  induction statements with
  | nil => rfl
  | cons st statements ih =>
      rw [← List.singleton_append, List.filter_append, List.map_append, ← definitionsOf_stays, ← ih,
        ← List.filter_append]
      rfl

/-- Methods that were made come from where the methods came from. -/
theorem comesFrom_of_gives {ds : List Definition} {ms : List Method} {ks : List TokenId}
    (h : Forall₂ (s.Gives options block) ds ms) (hmade : Forall₂ (fun m k => m.Defined s s' k) ms ks) :
    Forall₂ (fun d k => ComesFrom s s' options block d (.method (some k))) ds ks := by
  induction h generalizing ks with
  | nil =>
      cases hmade
      exact .nil
  | cons hgives _ ih =>
      cases hmade with
      | cons hdefined hrest =>
          refine .cons ?_ (ih hrest)
          cases hgives with
          | assigned gives => exact .assigned gives hdefined
          | listed gives => exact .listed gives hdefined

end Store

/-! ## After the conversion -/

/-- A statement that assigns a member goes with a class if and only if it gives a method. -/
theorem Store.goesWith_of_assigns {statements : List Slot} (h : s.assigns name member slot = true)
    (hm : member ≠ "constructor") (other : String) :
    s.goesWith options (some block) other statements slot =
      (s.modifies other slot && !(s.methodsOf options (some block) slot).isEmpty) := by
  rw [Store.goesWith, Store.resets_of_assigns h hm, Store.inherits_of_assigns h, Bool.or_false,
    Bool.and_false, Bool.or_false]

/-- Neither a class nor an export with a class assigns anything. -/
theorem Rewrites.assigns_successor (hc : Container s block ids)
    (h : Rewrites s s' options block classes) (hp : p ∈ classes)
    (hslot : slot ∈ (s.cell block).children) :
    s'.assigns name member
      (if s.hasKind Kind.exportDecl slot = true then slot else some p.2) = false := by
  split
  · rename_i hexport
    obtain ⟨e, rfl, -⟩ := Store.exists_token_of_hasKind hexport
    have hkind : s'.hasKind Kind.exportDecl (some e) = true := by
      rw [h.frame.hasKind _ (hc.found.lt_size e (hc.found.root_mem hslot))]
      exact hexport
    exact Store.assigns_of_kind hkind (by decide)
  · obtain ⟨declaring, -, c, -, -, hdeclared⟩ := h.declared p hp
    exact Store.assigns_of_kind hdeclared.hasKind (by decide)

/-- A statement that assigns a member, and no function, is still there after the conversion; of
the others, none assigns it any more. -/
theorem Rewrites.assigns_replacement (hc : Container s block ids)
    (h : Rewrites s s' options block classes) (hp : p ∈ classes) (hm : member ≠ "constructor")
    (hslot : slot ∈ (s.cell block).children) :
    (s.replacement options (some block) classes slot).filter (s'.assigns p.1 member) =
      [slot].filter (s.leaves options block p.1 member) := by
  unfold Store.replacement
  cases hfind : classes.find? fun q => s.declares (some block) q.1 slot with
  | some q =>
      have hdeclares : s.declares (some block) q.1 slot = true := by simpa using List.find?_some hfind
      have hnot : ¬s.leaves options block p.1 member slot = true := fun hleaves =>
        Store.not_declares_of_assigns (Store.leaves_iff.mp hleaves).1 hdeclares
      have hsuccessor : ¬s'.assigns p.1 member
          (if s.hasKind Kind.exportDecl slot = true then slot else some q.2) = true := by
        rw [h.assigns_successor hc (List.mem_of_find?_eq_some hfind) hslot]
        exact Bool.false_ne_true
      rw [List.filter_cons_of_neg hnot]
      exact List.filter_cons_of_neg hsuccessor
  | none =>
      have hother : ∀ q ∈ classes, ¬s.declares (some block) q.1 slot = true := by simpa using hfind
      have hsame : s'.assigns p.1 member slot = s.assigns p.1 member slot :=
        (h.sameFace hc hslot hother).assigns
      dsimp only
      by_cases ha : s.assigns p.1 member slot = true
        -- with some class it goes only if it gives a method, and then it goes with `p`
      · have hgoes : (classes.any fun q : String × TokenId =>
            s.goesWith options (some block) q.1 (s.children (some block)) slot) =
              !(s.methodsOf options (some block) slot).isEmpty := by
          rw [Bool.eq_iff_iff, List.any_eq_true]
          constructor
          · rintro ⟨q, -, hq⟩
            rw [Store.goesWith_of_assigns ha hm, Bool.and_eq_true] at hq
            exact hq.2
          · intro hne
            refine ⟨p, hp, ?_⟩
            rw [Store.goesWith_of_assigns ha hm, Store.modifies_of_assigns ha, hne]
            rfl
        have hleaves : s.leaves options block p.1 member slot =
            (s.methodsOf options (some block) slot).isEmpty := by rw [Store.leaves, ha, Bool.true_and]
        rw [hgoes, List.filter_cons, hleaves, List.filter_nil]
        cases (s.methodsOf options (some block) slot).isEmpty with
        | true => exact List.filter_cons_of_pos (hsame.trans ha)
        | false => rfl
      · have hnot : ¬s.leaves options block p.1 member slot = true := fun hleaves =>
          ha (Store.leaves_iff.mp hleaves).1
        rw [List.filter_cons_of_neg hnot]
        split
        · rfl
        · exact List.filter_cons_of_neg (by rw [hsame]; exact ha)

/-- The assignments of a member that are in the container after the conversion. -/
theorem Rewrites.assignments (hc : Container s block ids) (h : Rewrites s s' options block classes)
    (hp : p ∈ classes) (hm : member ≠ "constructor") :
    (s'.cell block).children.filter (s'.assigns p.1 member) =
      (s.cell block).children.filter (s.leaves options block p.1 member) := by
  rw [h.children, List.filter_flatMap]
  calc (s.cell block).children.flatMap
        (fun st => (s.replacement options (some block) classes st).filter (s'.assigns p.1 member))
      = (s.cell block).children.flatMap (fun st => [st].filter (s.leaves options block p.1 member)) :=
        List.flatMap_congr fun st hst => h.assigns_replacement hc hp hm hst
    _ = (s.cell block).children.filter (s.leaves options block p.1 member) := by
        rw [← List.filter_flatMap, List.flatMap_singleton']

/-- The methods of one name in a class, in order. -/
theorem Candidate.Declared.members_named {c : Candidate} {t : TokenId} (h : c.Declared s s' t)
    (hb : c.builder.name ≠ member) :
    ∃ ks : List TokenId, (s'.members t).filter (s'.isMethodNamed member) = ks.map some ∧
      Forall₂ (fun m k => m.Defined s s' k) (c.methods.filter (·.name == member)) ks := by
  obtain ⟨builder, others, hmembers, hbuilder, hothers⟩ := h.members_eq
  have hnone : (builder.toList.map some).filter (s'.isMethodNamed member) = [] := by
    cases builder with
    | none => rfl
    | some k =>
        have hname : s'.isMethodNamed member (some k) = false := by
          rw [hbuilder.2.isMethodNamed]
          simpa using hb
        exact List.filter_cons_of_neg (by rw [hname]; exact Bool.false_ne_true)
  refine ⟨others.filter fun k => s'.isMethodNamed member (some k), ?_, ?_⟩
  · rw [hmembers, List.map_append, List.filter_append, hnone, List.nil_append, List.filter_map]
    rfl
  -- one name for each method that was made, so the two lists are filtered alike
  · clear hmembers
    generalize c.methods = methods at hothers
    induction hothers with
    | nil => exact .nil
    | @cons m k methods others hfirst _ ih =>
        have hname := hfirst.isMethodNamed member
        rw [List.filter_cons, List.filter_cons, hname]
        split
        · exact .cons hfirst ih
        · exact ih

/-! ## What becomes of the definitions -/

/-- The class is what the statement holds: the statement itself, or the first child of an export. -/
def Store.HoldsClass (s : Store) (t : TokenId) (statement : Slot) : Prop :=
  statement = some t ∨
    s.hasKind Kind.exportDecl statement = true ∧ (s.children statement).head? = some (some t)

/-- What becomes of the definitions of a member when the function `p.1` becomes the class `p.2`. -/
structure Store.PassesDefinitions (s s' : Store) (options : Options) (block : TokenId)
    (p : String × TokenId) (member : String) : Prop where
  /-- The class stands in the container, and no statement before it assigns the member. -/
  placed : ∃ front place back, (s'.cell block).children = front ++ place :: back ∧
    s'.HoldsClass p.2 place ∧ ∀ st ∈ front, s'.assigns p.1 member st = false
  /-- The functions are the methods of this name in the class, in order. -/
  hoisted : Forall₂ (ComesFrom s s' options block)
    ((s.definitions options block p.1 member (s.cell block).children).filter
      fun d => !s.stays options block d)
    (((s'.members p.2).filter (s'.isMethodNamed member)).map .method)
  /-- The other assignments are left in the container, in order. -/
  left : Forall₂ (ComesFrom s s' options block)
    ((s.definitions options block p.1 member (s.cell block).children).filter
      (s.stays options block))
    (((s'.cell block).children.filter (s'.assigns p.1 member)).map .statement)
  /-- If the last definition is a statement that is left, or no definition is, then the last
  definition of the class comes from it. -/
  same : ∀ w, (s.definitions options block p.1 member (s.cell block).children).getLast? = some w →
    (s.stays options block w = true ∨
      ∀ d ∈ s.definitions options block p.1 member (s.cell block).children,
        s.stays options block d = false) →
    ∃ d, (s'.classDefinitions block p.1 member p.2).getLast? = some d ∧
      ComesFrom s s' options block w d
  /-- If definitions are left, the last of them is the last definition of the class. -/
  last : ∀ w, ((s.definitions options block p.1 member (s.cell block).children).filter
      (s.stays options block)).getLast? = some w →
    ∃ d, (s'.classDefinitions block p.1 member p.2).getLast? = some d ∧
      ComesFrom s s' options block w d
  /-- There are as many definitions as before. -/
  length : (s'.classDefinitions block p.1 member p.2).length =
    (s.definitions options block p.1 member (s.cell block).children).length

namespace Rewrites

variable (hc : Container s block ids) (h : Rewrites s s' options block classes) (hp : p ∈ classes)
  (hm : member ≠ "constructor")

include h hp hm

/-- The functions that define a member are methods of the class after the conversion. -/
theorem hoisted : Forall₂ (ComesFrom s s' options block)
    ((s.definitions options block p.1 member (s.cell block).children).filter
      fun d => !s.stays options block d)
    (((s'.members p.2).filter (s'.isMethodNamed member)).map .method) := by
  obtain ⟨declaring, hdeclaring, c, hdeclaration, -, hdeclared⟩ := h.declared p hp
  have hbuilder : c.builder.name = "constructor" := Store.name_of_builder hdeclaration
  obtain ⟨ks, hks, hdefined⟩ := hdeclared.members_named (hbuilder ▸ Ne.symm hm)
  rw [hks, List.map_map, List.forall₂_map_right_iff]
  exact Store.comesFrom_of_gives (Store.definitions_methods _) hdefined

omit hm

include hc

/-- What stands in place of a declaration holds the class. -/
theorem holdsClass (hdeclaring : slot ∈ (s.cell block).children)
    (hdeclares : s.declares (some block) p.1 slot = true) :
    s'.HoldsClass p.2 (if s.hasKind Kind.exportDecl slot = true then slot else some p.2) := by
  by_cases hexport : s.hasKind Kind.exportDecl slot = true
  · rw [if_pos hexport]
    obtain ⟨e, rfl, -⟩ := Store.exists_token_of_hasKind hexport
    obtain ⟨c, hdeclaration, -⟩ := Store.declares_iff.mp hdeclares
    obtain ⟨first, others, hparts⟩ := Store.children_of_export hdeclaration hexport
    have hparts : (s.cell e).children = first :: others := hparts
    refine Or.inr ⟨?_, ?_⟩
    · rw [h.frame.hasKind _ (hc.found.lt_size e (hc.found.root_mem hdeclaring))]
      exact hexport
    · show (s'.cell e).children.head? = _
      rw [h.exported p hp e hdeclaring hexport hdeclares, hparts]
      rfl
  · rw [if_neg hexport]
    exact Or.inl rfl

include hm

/-- The class stands where the function was declared. No statement before that is about the
prototype, so that none of those in front of the class assigns a member of it. -/
theorem placed (hconverts : Converts s options (some block) p.1) :
    ∃ front place back, (s'.cell block).children = front ++ place :: back ∧
      s'.HoldsClass p.2 place ∧ ∀ st ∈ front, s'.assigns p.1 member st = false := by
  obtain ⟨declaring, hdeclaring, c, hdeclaration, hname, -⟩ := h.declared p hp
  have hdeclares : s.declares (some block) p.1 declaring = true :=
    Store.declares_iff.mpr ⟨c, hdeclaration, hname⟩
  obtain ⟨front, back, hsplit⟩ := List.append_of_mem hdeclaring
  have hchildren : (s.cell block).children = front ++ declaring :: back := hsplit
  refine ⟨front.flatMap (s.replacement options (some block) classes), _,
    back.flatMap (s.replacement options (some block) classes), ?_,
    h.holdsClass hc hp hdeclaring hdeclares, fun st hst => Bool.eq_false_iff.mpr fun hassigns => ?_⟩
  · rw [h.children, hchildren, List.flatMap_append, List.flatMap_cons,
      h.replacement_of_declares hp hdeclares]
    rfl
  · obtain ⟨u, hu, hst⟩ := List.mem_flatMap.mp hst
    have hmem : u ∈ (s.cell block).children := by
      rw [hchildren]
      exact List.mem_append_left _ hu
    -- the statement was left, so that it was about the prototype already
    have hleft : st ∈ [u].filter (s.leaves options block p.1 member) := by
      rw [← h.assigns_replacement hc hp hm hmem]
      exact List.mem_filter.mpr ⟨hst, hassigns⟩
    obtain ⟨hsame, hleaves⟩ := List.mem_filter.mp hleft
    obtain rfl := List.mem_singleton.mp hsame
    have horder := hconverts.declaredFirst
    rw [hsplit] at horder
    exact (List.pairwise_append.mp horder).2.2 st hu declaring List.mem_cons_self
      (Store.modifies_of_assigns (Store.leaves_iff.mp hleaves).1) hdeclares

/-- The other assignments of a member are left in the container. -/
theorem left : Forall₂ (ComesFrom s s' options block)
    ((s.definitions options block p.1 member (s.cell block).children).filter
      (s.stays options block))
    (((s'.cell block).children.filter (s'.assigns p.1 member)).map .statement) := by
  rw [h.assignments hc hp hm, Store.definitions_stays, List.forall₂_map_left_iff,
    List.forall₂_map_right_iff, List.forall₂_same]
  intro st hst
  obtain ⟨hmem, hboth⟩ := List.mem_filter.mp hst
  exact .kept (h.sameFace hc hmem fun q _ =>
    Store.not_declares_of_assigns (Store.leaves_iff.mp hboth).1)

end Rewrites

/-! ## The last definition -/

theorem forall₂_getLast {α β : Type} {R : α → β → Prop} {xs : List α} {ys : List β}
    (h : Forall₂ R xs ys) {x : α} (hx : xs.getLast? = some x) :
    ∃ y, ys.getLast? = some y ∧ R x y := by
  induction h with
  | nil => cases hx
  | @cons a b as bs hab hrest ih =>
      rw [List.getLast?_cons] at hx ⊢
      cases hlast : as.getLast? with
      | some y =>
          rw [hlast] at ih hx
          obtain ⟨z, hz, hr⟩ := ih hx
          exact ⟨z, by rw [hz]; rfl, hr⟩
      | none =>
          rw [hlast] at hx
          cases hx
          rw [List.getLast?_eq_none_iff] at hlast
          subst hlast
          cases hrest
          exact ⟨b, rfl, hab⟩

/-- The last element, if it passes the test, is the last one of those that do. -/
theorem getLast?_filter_of_pos {α : Type} {test : α → Bool} {xs : List α} {x : α}
    (h : xs.getLast? = some x) (hx : test x = true) : (xs.filter test).getLast? = some x := by
  obtain ⟨init, rfl⟩ := List.getLast?_eq_some_iff.mp h
  rw [List.filter_append, List.filter_cons_of_pos hx, List.filter_nil, List.getLast?_concat]

theorem Rewrites.passesDefinitions (hc : Container s block ids)
    (h : Rewrites s s' options block classes) (hp : p ∈ classes)
    (hconverts : Converts s options (some block) p.1) (hm : member ≠ "constructor") :
    s.PassesDefinitions s' options block p member := by
  have hhoisted := h.hoisted hp hm
  have hleft := h.left hc hp hm
  -- the class and what is left after it, read one after the other
  have hboth : Forall₂ (ComesFrom s s' options block)
      (((s.definitions options block p.1 member (s.cell block).children).filter
          fun d => !s.stays options block d) ++
        (s.definitions options block p.1 member (s.cell block).children).filter
          (s.stays options block))
      (s'.classDefinitions block p.1 member p.2) := List.rel_append hhoisted hleft
  have hlast : ∀ w, ((s.definitions options block p.1 member (s.cell block).children).filter
      (s.stays options block)).getLast? = some w →
      ∃ d, (s'.classDefinitions block p.1 member p.2).getLast? = some d ∧
        ComesFrom s s' options block w d := by
    intro w hw
    refine forall₂_getLast hboth ?_
    rw [List.getLast?_append, hw]
    rfl
  refine ⟨h.placed hc hp hm hconverts, hhoisted, hleft, fun w hw hcases => ?_, hlast, ?_⟩
  · rcases hcases with hstays | hnone
    · exact hlast w (getLast?_filter_of_pos hw hstays)
    · -- all definitions are functions
      have hstay : (s.definitions options block p.1 member (s.cell block).children).filter
          (s.stays options block) = [] :=
        List.filter_eq_nil_iff.mpr fun d hd => by simp [hnone d hd]
      have hgo : (s.definitions options block p.1 member (s.cell block).children).filter
          (fun d => !s.stays options block d) = _ :=
        List.filter_eq_self.mpr fun d hd => by simp [hnone d hd]
      rw [hstay, hgo, List.append_nil] at hboth
      exact forall₂_getLast hboth hw
  · rw [← hboth.length_eq, List.length_append, Nat.add_comm]
    exact (List.length_eq_length_filter_add (s.stays options block)).symm

namespace Conversion

variable {x x' : Converter} {parent : Slot} {all : List TokenId} {result : Except Fault Unit}

/-- In an unshared container without gaps, every member of a class that a visit makes, other than
`constructor`, keeps all its definitions: the functions as methods of the class, in order, and after
the class the other assignments, in order. So the last definition afterwards comes from the last one
before, if that is left as a statement or none is; and if some are left, from the last of these. -/
theorem visit_definitions (hspans : Spans Cell.links s [some block] all) (hn : all.Nodup)
    (hpresent : ∀ u ∈ all, none ∉ (s.cell u).links) (hb : s.isContainer (some block) = true)
    (h : (visit (some block) parent).run.run (s, x) = (result, (s', x'))) :
    ∃ classes : List (String × TokenId), x'.classes = x.classes ++ classes.map Prod.fst ∧
      ∀ p ∈ classes, s.IsClassOf s' x.options (some block) p ∧
        ∀ member, member ≠ "constructor" → s.PassesDefinitions s' x.options block p member := by
  obtain ⟨ids, hsound⟩ := hspans.sound hn hpresent hb
  have hc := hsound.container
  rcases visit_container hsound parent x with
    ⟨s₁, x₁, hvisit⟩ | ⟨fault, x₁, hvisit, ⟨-, hclasses⟩, -⟩
  · rw [hvisit] at h
    cases h
    obtain ⟨-, classes, hconverts, hclasses, -, hrewrites, -⟩ :=
      visit_progress hc.found hc.nodup hc.lt hb hvisit
    exact ⟨classes, hclasses, fun p hp => ⟨hrewrites.declared p hp, fun member hm =>
      hrewrites.passesDefinitions hc hp ((hconverts p.1).mp (List.mem_map_of_mem hp)) hm⟩⟩
  · -- a visit that stops makes no class
    rw [hvisit] at h
    cases h
    exact ⟨[], by rw [hclasses, List.map_nil, List.append_nil], by simp⟩

theorem visit_definitions_pointFile :
    ∃ all, Spans Cell.links pointFile [some 14] all ∧ all.Nodup ∧
      (∀ u ∈ all, none ∉ (pointFile.cell u).links) ∧ pointFile.isContainer (some 14) = true ∧
      ∃ s' x', (visit (some 14) none).run.run (pointFile, .start ⟨true, true⟩) =
          (.ok (), (s', x')) ∧ x'.classes = ["Point"] ∧ (s'.cell 14).children = [some 20] ∧
        "norm" ≠ "constructor" ∧
        pointFile.PassesDefinitions s' ⟨true, true⟩ 14 ("Point", 20) "norm" := by
  obtain ⟨all, hspans, hn⟩ := pointFile_spans
  have hpresent : ∀ u < 15, none ∉ (pointFile.cell u).links := by decide
  have hvisit : (visit (some 14) none).run.run (pointFile, .start ⟨true, true⟩) = _ := rfl
  obtain ⟨classes, hclasses, hall⟩ := visit_definitions hspans hn
    (fun u hu => hpresent u (hspans.lt_size u hu)) (by decide) hvisit
  have hmade : ["Point"] = classes.map Prod.fst := hclasses
  have hmem : "Point" ∈ classes.map Prod.fst := hmade ▸ List.mem_cons_self
  obtain ⟨⟨name, t⟩, hp, rfl⟩ := List.mem_map.mp hmem
  have hpasses := (hall _ hp).2 "norm" (by decide)
  -- the class is the only statement that is left
  obtain ⟨front, place, back, hchildren, hholds, -⟩ := hpasses.placed
  have hplace : [some 20] = front ++ place :: back := hchildren
  obtain rfl : some 20 = place := by
    cases front with
    | nil => exact (List.cons_eq_cons.mp hplace).1
    | cons => simp at hplace
  rcases hholds with he | ⟨hexport, -⟩
  · cases he
    exact ⟨all, hspans, hn, fun u hu => hpresent u (hspans.lt_size u hu), by decide, _, _, hvisit, rfl,
      by decide, by decide, hpasses⟩
  · exact absurd hexport (by decide)

/-- `function A() {}`, then `A.prototype.b = x`, and after it `A.prototype.b = function() {}`. -/
def overriddenFile : Store where
  cells := #[
    .fresh Kind.text "A" 1 9 [],
    .fresh Kind.arguments "()" 1 10 [],
    .fresh Kind.block "\x7b\x7d" 1 13 [],
    .fresh Kind.functionDecl "function" 1 0 [some 0, some 1, some 2],
    .fresh Kind.text "A" 2 0 [],
    .fresh Kind.memberName "prototype" 2 2 [],
    .fresh Kind.member "." 2 1 [some 4, some 5],
    .fresh Kind.memberName "b" 2 12 [],
    .fresh Kind.member "." 2 11 [some 6, some 7],
    .fresh Kind.text "x" 2 16 [],
    .fresh Kind.assign "=" 2 14 [some 8, some 9],
    .fresh Kind.text "A" 3 0 [],
    .fresh Kind.memberName "prototype" 3 2 [],
    .fresh Kind.member "." 3 1 [some 11, some 12],
    .fresh Kind.memberName "b" 3 12 [],
    .fresh Kind.member "." 3 11 [some 13, some 14],
    .fresh Kind.text "" 3 16 [],
    .fresh Kind.arguments "()" 3 24 [],
    .fresh Kind.block "\x7b\x7d" 3 27 [],
    .fresh Kind.anonymousFunction "function" 3 16 [some 16, some 17, some 18],
    .fresh Kind.assign "=" 3 14 [some 15, some 19],
    .fresh Kind.sourceFile "" 1 0 [some 3, some 10, some 20]]

/-- Of the member `b` of the class in this file, the last definition comes from the last one before
no more: that was a function, and is a method now, with the assignment left after it. -/
theorem overridden_definition :
    ∃ all, Spans Cell.links overriddenFile [some 21] all ∧ all.Nodup ∧
      (∀ u ∈ all, none ∉ (overriddenFile.cell u).links) ∧
      overriddenFile.isContainer (some 21) = true ∧
      ∃ s' x' p w, (visit (some 21) none).run.run (overriddenFile, .start ⟨true, true⟩) =
          (.ok (), (s', x')) ∧ x'.classes = ["A"] ∧
        (s'.cell 21).children = [some p, some 10] ∧ s'.hasKind Kind.classDecl (some p) = true ∧
        (overriddenFile.definitions ⟨true, true⟩ 21 "A" "b"
          (overriddenFile.cell 21).children).getLast? = some w ∧
        ∀ d, (s'.classDefinitions 21 "A" "b" p).getLast? = some d →
          ¬ComesFrom overriddenFile s' ⟨true, true⟩ 21 w d := by
  have hpresent : ∀ u < 22, none ∉ (overriddenFile.cell u).links := by decide
  obtain ⟨all, hspans, hn⟩ : ∃ all, Spans Cell.links overriddenFile [some 21] all ∧ all.Nodup :=
    Spans.exists_of_preorder overriddenFile.size (by decide)
  have hvisit : (visit (some 21) none).run.run (overriddenFile, .start ⟨true, true⟩) = _ := rfl
  refine ⟨all, hspans, hn, fun u hu => hpresent u (hspans.lt_size u hu), by decide, _, _, 27,
    .statement (some 20), hvisit, by decide, by decide, by decide, by decide, ?_⟩
  intro d hd hfrom
  have hlast : some (Definition.statement (some 10)) = some d := hd ▸ by decide
  cases hlast
  cases hfrom

end Conversion

end ClassLift
