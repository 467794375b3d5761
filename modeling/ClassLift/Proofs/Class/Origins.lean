import ClassLift.Proofs.Class.Ready
import ClassLift.Proofs.Token.Comments

set_option autoImplicit false

/-! # Where comments come from

The comments before a class are those of the node that declares the function (`Store.declaringNode`).
Those before its methods are told by the statements (`Store.methodNodes`): a statement that assigns a
function gives its own comments to the method; of a method table, the first function gets the comments
of the statement and its own ones, and each other function its own ones only.

In an unshared container no node is named twice (`Among.nodup`), and no comment belongs to two nodes
(`Among.nodup_comments`).
-/

namespace ClassLift

open List

variable {s : Store} {options : Options} {block : TokenId} {slots slots' nodes nodes' statements : List Slot}
  {slot statement declaring : Slot} {t : TokenId} {ids all : List TokenId} {name : String}

/-! ## Nodes at different places -/

/-- The tokens in `nodes` are found from `slots`, each at its own place. -/
def Among (s : Store) (slots nodes : List Slot) : Prop :=
  nodes <+~ (slots.flatMap (Spans.at_ Cell.children s)).map some

namespace Among

theorem nil : Among s slots [] := List.nil_subperm

theorem append (h : Among s slots nodes) (h' : Among s slots' nodes') :
    Among s (slots ++ slots') (nodes ++ nodes') := by
  rw [Among, List.flatMap_append, List.map_append]
  exact List.Subperm.append h h'

theorem flatMap {α : Type} {f g : α → List Slot} {xs : List α}
    (h : ∀ x ∈ xs, Among s (f x) (g x)) : Among s (xs.flatMap f) (xs.flatMap g) := by
  induction xs with
  | nil => exact nil
  | cons x xs ih =>
      exact (h x List.mem_cons_self).append (ih fun y hy => h y (List.mem_cons_of_mem x hy))

theorem sub (h : Among s slots nodes) (hr : nodes' <+~ nodes) : Among s slots nodes' :=
  hr.trans h

/-- What is found below some slots is found below the slots above them. -/
theorem within (h : Among s slots' nodes) (hw : Within s slots slots') : Among s slots nodes := by
  obtain ⟨found, hfound, hsub⟩ := hw
  rw [hfound.eq_flatMap] at hsub
  exact List.Subperm.trans h (List.Subperm.map (Option.some_injective _) hsub)

/-- A token is found from its slot, together with what is found from its children. -/
theorem cons (hspans : Spans Cell.children s [some t] ids) (h : Among s (s.children (some t)) nodes) :
    Among s [some t] (some t :: nodes) := by
  obtain ⟨-, below, rfl, hbelow⟩ := hspans.of_singleton
  have hdown : below = (s.children (some t)).flatMap (Spans.at_ Cell.children s) := hbelow.eq_flatMap
  rw [Among, List.flatMap_singleton, Spans.at_eq hspans, List.map_cons, hdown]
  exact (List.subperm_cons (some t)).mpr h

theorem self (hspans : Spans Cell.children s slots ids) (hpresent : none ∉ slots) :
    Among s slots slots := by
  have hone : ∀ slot ∈ slots, Among s [slot] [slot] := by
    intro slot hslot
    obtain ⟨t, rfl⟩ : ∃ t, slot = some t := Option.ne_none_iff_exists'.mp fun he => hpresent (he ▸ hslot)
    exact .cons (hspans.spans_at hslot) .nil
  have hall : Among s (slots.flatMap ([·])) (slots.flatMap ([·])) := .flatMap hone
  rwa [List.flatMap_singleton'] at hall

theorem subperm (h : Among s slots nodes) (hspans : Spans Cell.children s slots ids) :
    nodes <+~ ids.map some := by
  rw [hspans.eq_flatMap]
  exact h

theorem mem (h : Among s slots nodes) (hspans : Spans Cell.children s slots ids)
    (ht : some t ∈ nodes) : t ∈ ids := by
  obtain ⟨u, hu, he⟩ := List.mem_map.mp ((h.subperm hspans).subset ht)
  cases he
  exact hu

theorem nodup (h : Among s slots nodes) (hspans : Spans Cell.children s slots ids) (hn : ids.Nodup) :
    nodes.Nodup :=
  nodup_of_subperm (h.subperm hspans) (hn.map (Option.some_injective _))

/-- No comment belongs to two of the nodes. -/
theorem nodup_comments (h : Among s slots nodes) (hspans : Spans Cell.children s slots ids)
    (hall : Spans Cell.links s slots all) (hn : all.Nodup)
    (hpresent : ∀ u ∈ ids, none ∉ (s.cell u).comments) : (nodes.flatMap s.comments).Nodup := by
  obtain ⟨ks, hks, hperm⟩ := hspans.comments hall
  have hnks := (List.nodup_append.mp (hperm.nodup_iff.mp hn)).2.1
  have hcomments : nodes.flatMap s.comments <+~ (ids.map some).flatMap s.comments :=
    subperm_flatMap (h.subperm hspans) _
  rw [List.flatMap_map] at hcomments
  refine nodup_of_subperm hcomments (hks.nodup_roots hnks fun hnone => ?_)
  obtain ⟨u, hu, hnone⟩ := List.mem_flatMap.mp hnone
  exact hpresent u hu hnone

end Among

/-! ## Nodes outside functions -/

/-- The second token stands below the first one, on a way that goes through no function; neither the
token nor one above it is a class reference. -/
def Store.Outside (s : Store) : TokenId → TokenId → Prop :=
  Relation.ReflTransGen fun t u => s.Parent t u ∧ s.isConvertible (some t) ≠ .ok true ∧
    s.isClassReference (some u) ≠ .ok true

namespace Store.Outside

variable {kind kind' : Kind} {b u v : TokenId}

theorem step (h : s.Outside b u) (hv : some v ∈ (s.cell u).children)
    (hu : s.hasKind kind (some u) = true) (hk : kind ≠ Kind.functionDecl ∧ kind ≠ Kind.anonymousFunction)
    (hkv : s.hasKind kind' (some v) = true) (hk' : kind' ≠ Kind.text ∧ kind' ≠ Kind.member) :
    s.Outside b v := by
  refine h.tail ⟨hv, fun hf => ?_, fun href => ?_⟩
  · exact Candidate.not_kind_of_isConvertible hf hk.1 hk.2 hu
  · rcases kind_of_isClassReference href with href | href
    · exact hk'.1 (hasKind_unique hkv href)
    · exact hk'.2 (hasKind_unique hkv href)

/-- A statement of a container, which is no name and no member access. -/
theorem of_container (hb : s.isContainer (some b) = true) (hv : some v ∈ (s.cell b).children)
    (hkv : s.hasKind kind' (some v) = true) (hk' : kind' ≠ Kind.text ∧ kind' ≠ Kind.member) :
    s.Outside b v :=
  (Bool.or_eq_true_iff.mp hb).elim (fun hk => step .refl hv hk (by decide) hkv hk')
    fun hk => step .refl hv hk (by decide) hkv hk'

end Store.Outside

/-! ## The nodes of a class -/

namespace Store

variable (s options block name)

/-- Can the token become a method? -/
def isFunction (slot : Slot) : Bool :=
  match s.isConvertible slot with
  | .ok b => b
  | .error _ => false

/-- Is the entry of an object literal a function, or a pair with a function as its value? -/
def holdsFunction (entry : Slot) : Bool :=
  s.isFunction entry ||
    match s.children entry with
    | [_, value] => s.isFunction value
    | _ => false

/-- Of a method table, the nodes whose comments go to the first function, and those for each other
one. -/
def tableNodes (statement : Slot) : List Slot → List (List Slot)
  | [] => []
  | first :: others => [statement, first] :: others.map ([·])

/-- For each method that a statement gives, the nodes whose comments go before it. -/
def nodesOf (statement : Slot) : List (List Slot) :=
  if (s.methodsOf options (some block) statement).isEmpty then []
  else match s.children statement with
    | [_, value] =>
      if s.hasKind Kind.object value then
        tableNodes statement ((s.children value).filter s.holdsFunction)
      else [[statement]]
    | _ => []

/-- For each method of the class `name`, the nodes whose comments go before it. -/
def methodNodes (statements : List Slot) : List (List Slot) :=
  (s.owned name statements).flatMap (s.nodesOf options block)

/-- The node that declares the function of a statement: what an export holds, or the statement. -/
def declaringNode (statement : Slot) : Slot :=
  if s.hasKind Kind.exportDecl statement then (s.children statement).head?.getD none else statement

/-- The nodes whose comments go to the class `name` or to one of its methods, when the function is
declared by the statement `declaring`. -/
def commentNodes (declaring : Slot) (statements : List Slot) : List Slot :=
  s.declaringNode declaring :: (s.methodNodes options block name statements).flatten

variable {s options block name}

/-! ### Entries of a method table -/

theorem isFunction_iff : s.isFunction slot = true ↔ s.isConvertible slot = .ok true := by
  unfold isFunction
  cases s.isConvertible slot with
  | ok b => exact Except.ok.injEq b true ▸ Iff.rfl
  | error fault => exact ⟨fun h => absurd h Bool.false_ne_true, fun h => nomatch h⟩

theorem isFunction_of_kind {kind : Kind} (h : s.hasKind kind slot = true)
    (hk : kind ≠ Kind.functionDecl ∧ kind ≠ Kind.anonymousFunction) : s.isFunction slot = false := by
  cases hf : s.isFunction slot with
  | false => rfl
  | true =>
      rcases (isConvertible_eq_true (isFunction_iff.mp hf)).1 with hkind | hkind
      · exact absurd (hasKind_unique h hkind) hk.1
      · exact absurd (hasKind_unique h hkind) hk.2

theorem holdsFunction_of_method {m : TableEntry} (h : s.entryForm name slot = .ok (.method m)) :
    s.holdsFunction slot = true := by
  obtain ⟨hf, -, ⟨hentry, -⟩ | ⟨-, key, hchildren⟩⟩ := entryForm_eq_method h
  · rw [holdsFunction, ← hentry, isFunction_iff.mpr hf]
    rfl
  · rw [holdsFunction, hchildren]
    show (_ || s.isFunction m.function) = true
    rw [isFunction_iff.mpr hf, Bool.or_true]

/-- The pair `constructor: A` holds no function. -/
theorem holdsFunction_of_reset (h : s.entryForm name slot = .ok .reset) :
    s.holdsFunction slot = false := by
  unfold entryForm at h
  obtain ⟨l, hl, h⟩ := bind_eq_ok.mp h
  split at h
  · obtain ⟨b, -, h⟩ := bind_eq_ok.mp h
    cases b with
    | false => cases h
    | true =>
        obtain ⟨n, -, h⟩ := bind_eq_ok.mp h
        cases h
  split at h
  case isFalse => cases h
  -- a function as such would be a method, so this is a pair
  rename_i hbinary
  split at h
  case h_2 => cases h
  rename_i key value hchildren
  have hentry := isFunction_of_kind (hasKind_iff.mpr ⟨l, label_eq_ok.mp hl, hbinary.1⟩) (by decide)
  unfold pairForm at h
  obtain ⟨found, -, h⟩ := bind_eq_ok.mp h
  cases found with
  | none => cases h
  | some n =>
      dsimp only at h
      split at h
      · -- the value is the name of the class
        obtain ⟨v, hv, h⟩ := bind_eq_ok.mp h
        split at h
        · rename_i htext
          rw [holdsFunction, hentry, hchildren, Bool.false_or]
          exact isFunction_of_kind (hasKind_iff.mpr ⟨v, label_eq_ok.mp hv, htext.1⟩) (by decide)
        · cases h
      · obtain ⟨b, -, h⟩ := bind_eq_ok.mp h
        cases b <;> cases h

/-- The methods of a method table are its functions. -/
theorem entries_of_tableEntries {entries : List Slot} {es : List TableEntry}
    (h : s.tableEntries? name entries = .ok (some es)) :
    es.map TableEntry.entry = entries.filter s.holdsFunction := by
  induction entries generalizing es with
  | nil =>
      cases h
      rfl
  | cons entry entries ih =>
      obtain ⟨hform, hrest⟩ | ⟨first, rest, hform, hrest, rfl⟩ := tableEntries_cons_eq_some h
      · rw [List.filter_cons_of_neg (by rw [holdsFunction_of_reset hform]; exact Bool.false_ne_true)]
        exact ih hrest
      · rw [List.filter_cons_of_pos (holdsFunction_of_method hform), List.map_cons, ih hrest,
          (entryForm_eq_method hform).2.1]

/-! ### Statements -/

theorem commented_methodsOfTable {parent : Slot} {es : List TableEntry} :
    (methodsOfTable statement parent es).map Method.commented =
      tableNodes statement (es.map TableEntry.entry) := by
  cases es with
  | nil => rfl
  | cons first others =>
      rw [methodsOfTable, List.map_cons, List.map_map, List.map_cons, tableNodes, List.map_map]
      rfl

/-- The nodes named by the methods of a statement. -/
theorem commented_methodsOf :
    (s.methodsOf options (some block) slot).map Method.commented = s.nodesOf options block slot := by
  unfold nodesOf
  by_cases hne : s.methodsOf options (some block) slot = []
  · rw [hne]
    rfl
  rw [if_neg (by simpa using hne)]
  obtain ⟨-, target, value, hchildren, hms⟩ := methods_eq_some (exists_methods_of_ne_nil hne)
  rw [hchildren]
  dsimp only
  rcases hms with ⟨owner, n, -, -, hf, hms⟩ | ⟨owner, -, -, hobject, -, htable⟩
  · -- a function is no object literal
    have hobject : ¬s.hasKind Kind.object value = true := fun hobject => by
      rcases (isConvertible_eq_true hf).1 with hk | hk <;>
        exact absurd (hasKind_unique hobject hk) (by decide)
    rw [hms, if_neg hobject]
    rfl
  · obtain ⟨es, hes, -, hms⟩ := tableMethods_eq_some htable
    rw [hms, if_pos hobject, commented_methodsOfTable, entries_of_tableEntries hes]

theorem commented_methodsFor :
    (s.methodsFor options (some block) name statements).map Method.commented =
      s.methodNodes options block name statements := by
  rw [methodsFor, List.map_flatMap, methodNodes]
  exact List.flatMap_congr fun st _ => commented_methodsOf

/-- The node named by a declaration. -/
theorem commented_of_declaration {c : Candidate}
    (h : s.declaration? (some block) declaring = .ok (some c)) :
    c.commented = [s.declaringNode declaring] ∧ c.builder.commented = [] := by
  have hplain : ∀ {kind : Kind}, s.hasKind kind declaring = true → kind ≠ Kind.exportDecl →
      s.declaringNode declaring = declaring := by
    intro kind hk hne
    rw [declaringNode, hasKind_of_ne hk hne]
    rfl
  rcases declaration_eq_some_iff.mp h with hf | ⟨hexport, first, rest, hchildren, hf⟩ | hv
  · rw [hplain hf.kind (by decide), hf.eq]
    exact ⟨rfl, rfl⟩
  · rw [declaringNode, if_pos hexport, hchildren, hf.eq]
    exact ⟨rfl, rfl⟩
  · obtain ⟨assignment, target, value, -, -, -, -, -, heq⟩ := hv.parts
    rw [hplain hv.kind (by decide), heq]
    exact ⟨rfl, rfl⟩

/-! ### Each node once -/

theorem flatten_tableNodes {first : Slot} {others : List Slot} :
    (tableNodes statement (first :: others)).flatten = statement :: first :: others := by
  rw [tableNodes, List.flatten_cons, ← List.flatMap_def, List.flatMap_singleton']
  rfl

theorem among_nodesOf (hspans : Spans Cell.children s [some t] ids)
    (hpresent : ∀ u ∈ ids, none ∉ (s.cell u).children) :
    Among s [some t] (s.nodesOf options block (some t)).flatten := by
  have hself : Among s [some t] [some t] := .cons hspans .nil
  unfold nodesOf
  split
  · exact .nil
  split
  case h_2 => exact .nil
  rename_i target value hchildren
  split
  case isFalse => exact hself
  obtain ⟨-, below, rfl, hbelow⟩ := hspans.of_singleton
  -- an object literal: of its entries those that hold functions follow the statement
  have hvalue : Within s (s.children (some t)) [value] := by
    refine .of_spans hbelow ?_
    rw [hchildren]
    exact (List.sublist_cons_self target [value]).subperm
  obtain ⟨found, hfound, hsub⟩ := hvalue.children
  have hentries : Among s (s.children value) (s.children value) := by
    refine .self hfound fun hnone => ?_
    obtain ⟨v, rfl⟩ : ∃ v, value = some v := by
      cases value with
      | none => cases hnone
      | some v => exact ⟨v, rfl⟩
    have hv : v ∈ below := hbelow.root_mem (by
      show some v ∈ s.children (some t)
      rw [hchildren]
      simp)
    exact hpresent v (List.mem_cons_of_mem t hv) hnone
  have hall : Among s [some t] (some t :: (s.children value).filter s.holdsFunction) :=
    .cons hspans ((hentries.sub List.filter_sublist.subperm).within hvalue.children)
  cases hfilter : (s.children value).filter s.holdsFunction with
  | nil => exact .nil
  | cons first others =>
      rw [flatten_tableNodes, ← hfilter]
      exact hall

theorem among_declaringNode {c : Candidate} (h : s.declaration? (some block) (some t) = .ok (some c))
    (hspans : Spans Cell.children s [some t] ids) : Among s [some t] [s.declaringNode (some t)] := by
  rcases declaration_eq_some_iff.mp h with hf | ⟨hexport, first, rest, hchildren, hf⟩ | hv
  · rw [declaringNode, hasKind_of_ne hf.kind (by decide)]
    exact .cons hspans .nil
  · obtain ⟨-, below, rfl, hbelow⟩ := hspans.of_singleton
    obtain ⟨u, rfl, -⟩ := exists_token_of_hasKind hf.kind
    have hmem : some u ∈ s.children (some t) := by
      rw [hchildren]
      exact List.mem_cons_self
    have hself : Among s [some u] [some u] := .cons (hbelow.spans_at hmem) .nil
    have hu : Among s (s.children (some t)) [some u] :=
      hself.within (.of_spans hbelow (List.singleton_sublist.mpr hmem).subperm)
    rw [declaringNode, if_pos hexport, hchildren]
    exact (Among.cons hspans hu).sub (List.sublist_cons_self _ _).subperm
  · rw [declaringNode, hasKind_of_ne hv.kind (by decide)]
    exact .cons hspans .nil

/-! ### Nodes outside functions -/

theorem commented_of_mem_methodsOfTable {parent : Slot} {es : List TableEntry} {m : Method}
    (h : m ∈ methodsOfTable statement parent es) :
    ∀ node ∈ m.commented, node = statement ∨ ∃ e ∈ es, node = e.entry := by
  intro node hnode
  cases es with
  | nil => cases h
  | cons first others =>
      rcases List.mem_cons.mp h with rfl | h
      · rcases List.mem_cons.mp hnode with rfl | hnode
        · exact Or.inl rfl
        · exact Or.inr ⟨first, List.mem_cons_self, List.mem_singleton.mp hnode⟩
      · obtain ⟨e, he, rfl⟩ := List.mem_map.mp h
        exact Or.inr ⟨e, List.mem_cons_of_mem first he, List.mem_singleton.mp hnode⟩

theorem outside_nodesOf {st : TokenId} (hb : s.isContainer (some block) = true)
    (hst : some st ∈ (s.cell block).children)
    (h : some t ∈ (s.nodesOf options block (some st)).flatten) : s.Outside block t := by
  rw [← commented_methodsOf] at h
  obtain ⟨nodes, hnodes, ht⟩ := List.mem_flatten.mp h
  obtain ⟨m, hm, rfl⟩ := List.mem_map.mp hnodes
  obtain ⟨hassign, target, value, hchildren, hms⟩ :=
    methods_eq_some (exists_methods_of_ne_nil (List.ne_nil_of_mem hm))
  have hkind := kind_of_isAssign hassign
  have hstatement : s.Outside block st := .of_container hb hst hkind (by decide)
  rcases hms with ⟨owner, n, -, -, -, hms⟩ | ⟨owner, -, -, hobject, -, htable⟩
  · rw [hms, List.mem_singleton] at hm
    rw [hm, List.mem_singleton] at ht
    cases ht
    exact hstatement
  · obtain ⟨es, hes, -, hms⟩ := tableMethods_eq_some htable
    rw [hms] at hm
    rcases commented_of_mem_methodsOfTable hm _ ht with ht | ⟨e, he, ht⟩
    · cases ht
      exact hstatement
    -- from the statement to the object literal, and from there to the entry
    obtain ⟨v, rfl, -⟩ := exists_token_of_hasKind hobject
    have hvalue : s.Outside block v :=
      hstatement.step (show some v ∈ s.children (some st) by rw [hchildren]; simp) hkind (by decide)
        hobject (by decide)
    obtain ⟨entry, hentry, hform⟩ := mem_of_tableEntries hes e he
    obtain ⟨-, hsame, hforms⟩ := entryForm_eq_method hform
    rw [hsame] at ht
    subst ht
    rcases hforms with ⟨-, hf⟩ | ⟨hbinary, -⟩
    · exact hvalue.step hentry hobject (by decide) hf (by decide)
    · exact hvalue.step hentry hobject (by decide) hbinary (by decide)

theorem outside_declaringNode {st : TokenId} {c : Candidate} (hb : s.isContainer (some block) = true)
    (hst : some st ∈ (s.cell block).children)
    (h : s.declaration? (some block) (some st) = .ok (some c))
    (ht : some t = s.declaringNode (some st)) : s.Outside block t := by
  rcases declaration_eq_some_iff.mp h with hf | ⟨hexport, first, rest, hchildren, hf⟩ | hv
  · rw [declaringNode, hasKind_of_ne hf.kind (by decide)] at ht
    cases ht
    exact .of_container hb hst hf.kind (by decide)
  · rw [declaringNode, if_pos hexport, hchildren] at ht
    have hfirst : first = some t := ht.symm
    subst hfirst
    have hstatement : s.Outside block st := .of_container hb hst hexport (by decide)
    exact hstatement.step (show some t ∈ s.children (some st) by rw [hchildren]; simp) hexport
      (by decide) hf.kind (by decide)
  · rw [declaringNode, hasKind_of_ne hv.kind (by decide)] at ht
    cases ht
    exact .of_container hb hst hv.kind (by decide)

/-- The nodes of a class stand outside functions. -/
theorem outside_commentNodes {c : Candidate} (hb : s.isContainer (some block) = true)
    (hnone : none ∉ (s.cell block).children) (hmem : declaring ∈ (s.cell block).children)
    (h : s.declaration? (some block) declaring = .ok (some c))
    (ht : some t ∈ s.commentNodes options block name declaring (s.cell block).children) :
    s.Outside block t := by
  have hchosen : ∀ {st : Slot}, st ∈ (s.cell block).children → ∃ u, st = some u := fun {st} hst =>
    Option.ne_none_iff_exists'.mp fun he => hnone (he ▸ hst)
  rcases List.mem_cons.mp ht with ht | ht
  · obtain ⟨u, rfl⟩ := hchosen hmem
    exact outside_declaringNode hb hmem h ht
  · obtain ⟨nodes, hnodes, ht⟩ := List.mem_flatten.mp ht
    obtain ⟨st, hst, hnodes⟩ := List.mem_flatMap.mp hnodes
    have hst := List.mem_of_mem_filter hst
    obtain ⟨u, rfl⟩ := hchosen hst
    exact outside_nodesOf hb hst (List.mem_flatten.mpr ⟨nodes, hnodes, ht⟩)

/-! ### Each node once -/

/-- In an unshared container, the nodes of a class are found at different places. -/
theorem among_commentNodes {c : Candidate} (hspans : Spans Cell.children s statements ids)
    (hn : ids.Nodup) (hnone : none ∉ statements) (hpresent : ∀ u ∈ ids, none ∉ (s.cell u).children)
    (hmem : declaring ∈ statements) (h : s.declaration? (some block) declaring = .ok (some c)) :
    Among s statements (s.commentNodes options block name declaring statements) := by
  have hchosen : ∀ {st : Slot}, st ∈ statements →
      ∃ t, st = some t ∧ Spans Cell.children s [some t] (Spans.at_ Cell.children s st) := by
    intro st hst
    obtain ⟨t, rfl⟩ : ∃ t, st = some t := Option.ne_none_iff_exists'.mp fun he => hnone (he ▸ hst)
    exact ⟨t, rfl, hspans.spans_at hst⟩
  have hmethods : Among s ((s.owned name statements).flatMap ([·]))
      (s.methodNodes options block name statements).flatten := by
    rw [methodNodes, ← List.flatMap_id, List.flatMap_assoc]
    refine .flatMap fun st hst => ?_
    rw [List.flatMap_id]
    have hst := List.mem_of_mem_filter hst
    obtain ⟨t, rfl, ht⟩ := hchosen hst
    exact among_nodesOf ht fun u hu => hpresent u (hspans.mem_of_mem_at hst hu)
  have hown : Among s [declaring] [s.declaringNode declaring] := by
    obtain ⟨t, rfl, ht⟩ := hchosen hmem
    exact among_declaringNode h ht
  -- the statement that declares the function is none of those about its prototype
  have hdistinct : (declaring :: s.owned name statements).Nodup := by
    refine List.nodup_cons.mpr ⟨fun howned => ?_, (hspans.nodup_roots hn hnone).filter _⟩
    exact modifies_of_declares (declares_iff.mpr ⟨c, h, rfl⟩) name (List.mem_filter.mp howned).2
  have hsub : declaring :: s.owned name statements <+~ statements := by
    refine List.subperm_of_subset hdistinct fun st hst => ?_
    rcases List.mem_cons.mp hst with rfl | hst
    · exact hmem
    · exact List.mem_of_mem_filter hst
  rw [List.flatMap_singleton'] at hmethods
  exact (hown.append hmethods).within (.of_spans hspans hsub)

end Store

end ClassLift
