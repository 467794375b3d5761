import ClassLift.Pattern
import ClassLift.Proofs.Token.Shape

set_option autoImplicit false

/-! # Descriptions of trees

Every tree has a pattern that describes it: of each token the kind, the value and the children are
asked for, and nothing else (`Tree.description`). The three fields may be asked for in any order, and
at each token in another one (`Describes`). A pattern that describes the tree of an acyclic slot
matches the slots that are alike to it, and no others; and no slot makes it stop with a fault
(`Store.description_matches_alike`).

A description looks at the children from the first to the last, the comparison of two slots from the
last to the first; both stop at the first difference.
-/

namespace ClassLift

open List

/-! ## Patterns that describe a tree -/

namespace Tree

mutual

/-- The pattern that asks for the kind, the value and the children of the tree, each child again by
such a pattern. For an empty slot it asks for nothing to be there. -/
def description : Tree → Pattern
  | absent => .exactly .nothing
  | node _ l cs _ =>
    .fields [(.kind, .exactly (.text l.kind)), (.value, .exactly (.text l.value)),
      (.children, .sequence (descriptions cs))]

/-- The descriptions of several trees. -/
def descriptions : List Tree → List Pattern
  | [] => []
  | t :: ts => description t :: descriptions ts

end

end Tree

mutual

/-- The pattern asks for what the tree is, at each token in some order of the three fields. -/
inductive Describes : Pattern → Tree → Prop where
  | absent : Describes (.exactly .nothing) .absent
  | token {id : TokenId} {l : Label} {cs ks : List Tree} {patterns : List Pattern}
      {entries : List (Field × Pattern)} (below : DescribesAll patterns cs)
      (order : entries ~ [(.kind, .exactly (.text l.kind)), (.value, .exactly (.text l.value)),
        (.children, .sequence patterns)]) :
      Describes (.fields entries) (.node id l cs ks)

/-- The patterns describe the trees, one each. -/
inductive DescribesAll : List Pattern → List Tree → Prop where
  | nil : DescribesAll [] []
  | cons {p : Pattern} {ps : List Pattern} {t : Tree} {ts : List Tree} (first : Describes p t)
      (rest : DescribesAll ps ts) : DescribesAll (p :: ps) (t :: ts)

end

mutual

theorem describes_description : ∀ t : Tree, Describes t.description t
  | .absent => .absent
  | .node _ _ cs _ => .token (describesAll_descriptions cs) (.refl _)

theorem describesAll_descriptions : ∀ ts : List Tree, DescribesAll (Tree.descriptions ts) ts
  | [] => .nil
  | t :: ts => .cons (describes_description t) (describesAll_descriptions ts)

end

/-! ## Fields in any order -/

namespace Pattern

variable {s : Store} {item : Item} {entries entries' : List (Field × Pattern)}

/-- Does the entry match the field of the item that it is about? -/
def entryHolds (s : Store) (item : Item) (e : Field × Pattern) : Bool :=
  match isMatch s e.2 (s.field item e.1) with
  | .ok verdict => verdict
  | .error _ => false

theorem entryHolds_of_isMatch {e : Field × Pattern} {verdict : Bool}
    (h : isMatch s e.2 (s.field item e.1) = .ok verdict) : entryHolds s item e = verdict := by
  rw [entryHolds, h]

/-- When no entry stops with a fault, the fields match if every single one does. -/
theorem fieldsMatch_eq_all
    (h : ∀ e ∈ entries, ∃ verdict, isMatch s e.2 (s.field item e.1) = .ok verdict) :
    fieldsMatch s entries item = .ok (entries.all (entryHolds s item)) := by
  induction entries with
  | nil => rfl
  | cons e entries ih =>
      obtain ⟨field, pattern⟩ := e
      obtain ⟨verdict, hverdict⟩ := h _ List.mem_cons_self
      have hrest := ih fun e he => h e (List.mem_cons_of_mem _ he)
      rw [fieldsMatch, hverdict, List.all_cons, entryHolds_of_isMatch hverdict]
      cases verdict with
      | true => exact hrest
      | false => rfl

/-- Then their order does not matter. -/
theorem fieldsMatch_perm (hperm : entries ~ entries')
    (h : ∀ e ∈ entries', ∃ verdict, isMatch s e.2 (s.field item e.1) = .ok verdict) :
    fieldsMatch s entries item = fieldsMatch s entries' item := by
  have h' : ∀ e ∈ entries, ∃ verdict, isMatch s e.2 (s.field item e.1) = .ok verdict :=
    fun e he => h e (hperm.mem_iff.mp he)
  rw [fieldsMatch_eq_all h, fieldsMatch_eq_all h', hperm.all_eq]

end Pattern

/-! ## Descriptions of slots -/

namespace Store

variable {s : Store} {n : Nat} {x u : Slot} {cs ds : List Slot} {p : Pattern} {ps : List Pattern}

/-- One by one, the patterns match the slots that are alike to the trees that they describe. -/
theorem allMatch_of_describesAll
    (hcs : ∀ c ∈ cs, ∀ p, Describes p (s.treeTo n c) →
      ∀ d, p.isMatch s (.token d) = .ok (s.alikeTo n c d))
    (h : DescribesAll ps (cs.map (s.treeTo n))) :
    Pattern.allMatch s ps (ds.map .token) = .ok ((cs.zip ds).all fun (c, d) => s.alikeTo n c d) := by
  induction cs generalizing ps ds with
  | nil =>
      cases h
      rfl
  | cons c cs ih =>
      cases h with
      | @cons p ps _ _ first rest =>
          cases ds with
          | nil => rfl
          | cons d ds =>
              have hfirst := hcs c List.mem_cons_self p first d
              have hrest : Pattern.allMatch s ps (ds.map .token) = _ :=
                ih (fun c hc => hcs c (List.mem_cons_of_mem _ hc)) rest
              rw [List.map_cons, Pattern.allMatch, hfirst, List.zip_cons_cons, List.all_cons]
              dsimp only
              cases s.alikeTo n c d with
              | true => exact hrest
              | false => rfl

theorem length_of_describesAll {ts : List Tree} (h : DescribesAll ps ts) : ps.length = ts.length := by
  induction ts generalizing ps with
  | nil =>
      cases h
      rfl
  | cons t ts ih =>
      cases h with
      | cons _ rest => rw [List.length_cons, List.length_cons, ih rest]

/-- The children of a token match when there are as many as patterns and each is alike. -/
theorem sequence_of_describesAll
    (hcs : ∀ c ∈ cs, ∀ p, Describes p (s.treeTo n c) →
      ∀ d, p.isMatch s (.token d) = .ok (s.alikeTo n c d))
    (h : DescribesAll ps (cs.map (s.treeTo n))) :
    (Pattern.sequence ps).isMatch s (.tokens ds) = .ok (allFromLast (s.alikeTo n) cs ds) := by
  have hps : ps.length = cs.length := by rw [length_of_describesAll h, List.length_map]
  have hds : (ds.map Item.token).length = ds.length := List.length_map _
  show (if (ds.map Item.token).length = ps.length then
    Pattern.allMatch s ps (ds.map Item.token) else .ok false) = _
  rw [hps, hds, allFromLast, List.all_reverse]
  by_cases hlength : ds.length = cs.length
  · rw [if_pos hlength, allMatch_of_describesAll hcs h, hlength, beq_self_eq_true, Bool.true_and]
  · have hne : (cs.length == ds.length) = false := by simpa using Ne.symm hlength
    rw [if_neg hlength, hne, Bool.false_and]

/-- As far as one looks, a description matches the slots that are alike to what is described. -/
theorem Fits.isMatch_eq (hx : s.Fits n x) (h : Describes p (s.treeTo n x)) (u : Slot) :
    p.isMatch s (.token u) = .ok (s.alikeTo n x u) := by
  induction hx generalizing p u with
  | absent n =>
      have hp : p = .exactly .nothing := by
        cases n <;> cases h <;> rfl
      subst hp
      cases u with
      | none => cases n <;> rfl
      | some v => cases n <;> rfl
  | @token n t below ih =>
      cases h with
      | @token _ l _ _ patterns entries hbelow order =>
          cases u with
          | none => rfl
          | some v =>
              -- each of the three fields has a verdict, so their order in the description does not
              -- matter
              have hkind : (Pattern.exactly (.text (s.cell t).label.kind)).isMatch s
                  (s.field (.token (some v)) .kind) =
                    .ok ((s.cell t).label.kind == (s.cell v).label.kind) :=
                congrArg Except.ok (Bool.beq_comm ..)
              have hvalue : (Pattern.exactly (.text (s.cell t).label.value)).isMatch s
                  (s.field (.token (some v)) .value) =
                    .ok ((s.cell t).label.value == (s.cell v).label.value) :=
                congrArg Except.ok (Bool.beq_comm ..)
              have hchildren : (Pattern.sequence patterns).isMatch s
                  (s.field (.token (some v)) .children) =
                    .ok (allFromLast (s.alikeTo n) (s.cell t).children (s.cell v).children) :=
                sequence_of_describesAll (fun c hc p hp d => ih c hc hp d) hbelow
              have hverdicts : ∀ e ∈ [(Field.kind, Pattern.exactly (.text (s.cell t).label.kind)),
                  (.value, .exactly (.text (s.cell t).label.value)),
                  (.children, .sequence patterns)],
                  ∃ verdict, e.2.isMatch s (s.field (.token (some v)) e.1) = .ok verdict := by
                intro e he
                simp only [List.mem_cons, List.not_mem_nil, or_false] at he
                rcases he with rfl | rfl | rfl
                · exact ⟨_, hkind⟩
                · exact ⟨_, hvalue⟩
                · exact ⟨_, hchildren⟩
              show Pattern.fieldsMatch s entries (.token (some v)) = _
              rw [Pattern.fieldsMatch_perm order hverdicts, Pattern.fieldsMatch_eq_all hverdicts,
                List.all_cons, List.all_cons, List.all_cons, List.all_nil, Bool.and_true,
                Pattern.entryHolds_of_isMatch hkind, Pattern.entryHolds_of_isMatch hvalue,
                Pattern.entryHolds_of_isMatch hchildren, alikeTo, Bool.and_assoc]

/-- **A description matches what is alike.** The description of an acyclic slot, and every pattern
that asks for the same fields in another order, at whatever tokens, can be matched against every slot
without a fault; and it matches exactly the slots that are alike to the one described. -/
theorem description_matches_alike (hx : s.Acyclic x) :
    Describes (s.tree x).description (s.tree x) ∧
      ∀ p, Describes p (s.tree x) → ∀ u, p.isMatch s (.token u) = .ok (s.alike x u) :=
  ⟨describes_description _, fun _ hp u => hx.fits.isMatch_eq hp u⟩

/-- A pattern for the name `a`, with the value asked for first. -/
def namePattern : Pattern :=
  .fields [(.value, .exactly (.text "a")), (.kind, .exactly (.text Kind.text)),
    (.children, .sequence [])]

/-- A pattern for a list of two names `a`, with the children asked for first. -/
def namesPattern : Pattern :=
  .fields [(.children, .sequence [namePattern, namePattern]), (.kind, .exactly (.text Kind.arguments)),
    (.value, .exactly (.text "()"))]

theorem describes_namesPattern : Describes namesPattern (sharedNames.tree (some 4)) := by
  have hname : Describes namePattern (.node 0 (sharedNames.cell 0).label [] []) :=
    .token .nil (.swap _ _ _)
  refine .token (.cons hname (.cons hname .nil)) ?_
  exact (List.Perm.swap _ _ _).trans ((List.Perm.swap _ _ _).cons _)

theorem description_matches_alike_sharedNames :
    sharedNames.Acyclic (some 4) ∧ Describes namesPattern (sharedNames.tree (some 4)) ∧
      namesPattern.isMatch sharedNames (.token (some 5)) =
        .ok (sharedNames.alike (some 4) (some 5)) ∧
      sharedNames.alike (some 4) (some 5) = true ∧
      namesPattern.isMatch sharedNames (.token (some 1)) =
        .ok (sharedNames.alike (some 4) (some 1)) ∧
      sharedNames.alike (some 4) (some 1) = false := by
  have hx := sharedNames_full.1.acyclic
  have hmatch := (description_matches_alike hx).2 namesPattern describes_namesPattern
  exact ⟨hx, describes_namesPattern, hmatch (some 5), by decide, hmatch (some 1), by decide⟩

end Store

end ClassLift
