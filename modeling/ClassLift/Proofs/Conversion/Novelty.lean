import ClassLift.Proofs.Conversion.Rewriting
import ClassLift.Proofs.Statement.Under
import ClassLift.Proofs.Token.Touch

set_option autoImplicit false

/-! # New tokens

The tokens that a visit adds to the tree are classes with their parts, and the word `super` where
a super class was called (`Rewrites.novel`). Below each of them stand new tokens of a lower rank
(`Kind.rank`), and old tokens (`Novel.child`): on a way down, at most four new tokens follow each
other.
-/

namespace ClassLift

open List

/-- The kinds of the tokens that a visit adds to the tree. -/
def Kind.made : List Kind :=
  [Kind.classDecl, Kind.classBlock, Kind.method, Kind.keyword, Kind.text]

/-- How many new tokens can follow below a new token of this kind. -/
def Kind.rank (kind : Kind) : Nat :=
  if kind = Kind.classDecl then 3 else if kind = Kind.classBlock then 2
  else if kind ∈ [Kind.method, Kind.keyword] then 1 else 0

theorem Kind.rank_le (kind : Kind) : kind.rank ≤ 3 := by
  unfold rank
  split_ifs <;> decide

variable {s s' : Store} {options : Options} {block : TokenId} {ids ids' : List TokenId}
  {classes : List (String × TokenId)} {c : Candidate} {m : Method} {kind : Kind} {t u : TokenId}

/-! ## Tokens of classes -/

theorem Container.mem_of_inside (hc : Container s block ids) (h : s.Inside block u) : u ∈ ids := by
  obtain ⟨slot, hslot, hunder⟩ := h
  exact hc.found.mem_of_under hslot hunder

/-- The token is new in the later store, and a class, a part of a class or a single word; what is
below it was found inside the container, or is new again. -/
inductive Novel (s s' : Store) (block : TokenId) : Kind → TokenId → Prop where
  | leaf {kind : Kind} {u : TokenId} (new : s.size ≤ u) (label : (s'.cell u).label.kind = kind)
      (word : kind ∈ [Kind.keyword, Kind.text]) (children : (s'.cell u).children = []) :
      Novel s s' block kind u
  | extension {u base : TokenId} (new : s.size ≤ u)
      (label : (s'.cell u).label.kind = Kind.keyword) (children : (s'.cell u).children = [some base])
      (inside : s.Inside block base) (reference : s.isClassReference (some base) = .ok true) :
      Novel s s' block Kind.keyword u
  | method {u name f : TokenId} (new : s.size ≤ u)
      (label : (s'.cell u).label.kind = Kind.method)
      (children : (s'.cell u).children = some name :: (s.cell f).children.drop 1)
      (named : Novel s s' block Kind.text name) (inside : s.Inside block f)
      (convertible : s.isConvertible (some f) = .ok true) : Novel s s' block Kind.method u
  | body {u : TokenId} {members : List TokenId} (new : s.size ≤ u)
      (label : (s'.cell u).label.kind = Kind.classBlock)
      (children : (s'.cell u).children = members.map some)
      (parts : ∀ v ∈ members, Novel s s' block Kind.method v) : Novel s s' block Kind.classBlock u
  | declaration {u name extension body : TokenId} (new : s.size ≤ u)
      (label : (s'.cell u).label.kind = Kind.classDecl)
      (children : (s'.cell u).children = [some name, some extension, some body])
      (named : Novel s s' block Kind.text name) (extended : Novel s s' block Kind.keyword extension)
      (filled : Novel s s' block Kind.classBlock body) : Novel s s' block Kind.classDecl u

/-- The token stood inside the container, as a class reference or as a part of a function. -/
def Store.IsTaken (s : Store) (block v : TokenId) : Prop :=
  s.Inside block v ∧ (s.isClassReference (some v) = .ok true ∨
    ∃ f, s.Inside block f ∧ s.isConvertible (some f) = .ok true ∧ some v ∈ (s.cell f).children)

/-- A function is no container. -/
theorem Store.isContainer_of_isConvertible {f : TokenId} (h : s.isConvertible (some f) = .ok true) :
    s.isContainer (some f) = false :=
  (Store.isConvertible_eq_true h).1.elim (Store.isContainer_of_hasKind · (by decide))
    (Store.isContainer_of_hasKind · (by decide))

namespace Novel

theorem new (h : Novel s s' block kind u) : s.size ≤ u := by
  cases h <;> assumption

theorem label (h : Novel s s' block kind u) : (s'.cell u).label.kind = kind := by
  cases h <;> assumption

theorem kind_made (h : Novel s s' block kind u) : kind ∈ Kind.made := by
  cases h with
  | leaf _ _ hword _ =>
      rcases List.mem_cons.mp hword with rfl | hword
      · decide
      · rw [List.mem_singleton] at hword
        rw [hword]
        decide
  | extension => decide
  | method => decide
  | body => decide
  | declaration => decide

/-- What is below a new token is a new token of a lower rank, or was taken. -/
theorem child (h : Novel s s' block kind u) {v : TokenId} (hv : some v ∈ (s'.cell u).children) :
    (∃ kind', Novel s s' block kind' v ∧ kind'.rank < kind.rank) ∨
      s.IsTaken block v ∧ 0 < kind.rank := by
  cases h with
  | leaf _ _ _ children =>
      rw [children] at hv
      cases hv
  | extension _ _ children inside reference =>
      rw [children, List.mem_singleton] at hv
      cases hv
      exact Or.inr ⟨⟨inside, Or.inl reference⟩, by decide⟩
  | method _ _ children named inside convertible =>
      rw [children] at hv
      rcases List.mem_cons.mp hv with hv | hv
      · cases hv
        exact Or.inl ⟨_, named, by decide⟩
      · have hchild := List.mem_of_mem_drop hv
        exact Or.inr ⟨⟨inside.down (Store.isContainer_of_isConvertible convertible) hchild,
          Or.inr ⟨_, inside, convertible, hchild⟩⟩, by decide⟩
  | body _ _ children parts =>
      rw [children] at hv
      obtain ⟨w, hw, he⟩ := List.mem_map.mp hv
      cases he
      exact Or.inl ⟨_, parts v hw, by decide⟩
  | declaration _ _ children named extended filled =>
      rw [children] at hv
      simp only [List.mem_cons, Option.some.injEq, List.not_mem_nil, or_false] at hv
      rcases hv with rfl | rfl | rfl
      · exact Or.inl ⟨_, named, by decide⟩
      · exact Or.inl ⟨_, extended, by decide⟩
      · exact Or.inl ⟨_, filled, by decide⟩

/-- A new class has a name, a word for its super class, and a body. -/
theorem declaration_parts (h : Novel s s' block Kind.classDecl u) :
    ∃ name extension body, (s'.cell u).children = [some name, some extension, some body] ∧
      Novel s s' block Kind.text name ∧ Novel s s' block Kind.keyword extension ∧
      Novel s s' block Kind.classBlock body := by
  generalize hkind : Kind.classDecl = kind at h
  cases h with
  | leaf _ _ word _ => exact absurd (hkind ▸ word) (by decide)
  | extension => exact absurd hkind (by decide)
  | method => exact absurd hkind (by decide)
  | body => exact absurd hkind (by decide)
  | declaration _ _ children named extended filled =>
      exact ⟨_, _, _, children, named, extended, filled⟩

/-- A new token without a rank has nothing below it. -/
theorem children_eq_nil (h : Novel s s' block kind u) (hrank : kind.rank = 0) :
    (s'.cell u).children = [] := by
  cases h with
  | leaf _ _ _ children => exact children
  | extension => exact absurd hrank (by decide)
  | method => exact absurd hrank (by decide)
  | body => exact absurd hrank (by decide)
  | declaration => exact absurd hrank (by decide)

/-- New tokens have no gaps where the functions have none. -/
theorem present (h : Novel s s' block kind u)
    (hinside : ∀ f, s.Inside block f → none ∉ (s.cell f).children) :
    none ∉ (s'.cell u).children := by
  cases h with
  | leaf _ _ _ children => simp [children]
  | extension _ _ children _ _ => simp [children]
  | method _ _ children _ inside _ =>
      rw [children]
      intro hmem
      rcases List.mem_cons.mp hmem with hmem | hmem
      · cases hmem
      · exact hinside _ inside (List.mem_of_mem_drop hmem)
  | body _ _ children _ => simp [children]
  | declaration _ _ children _ _ _ => simp [children]

end Novel

theorem Method.Defined.novel (h : m.Defined s s' t)
    (hf : ∀ f, m.function = some f → s.Inside block f)
    (hc : s.isConvertible m.function = .ok true) : Novel s s' block Kind.method t := by
  obtain ⟨f, name, comments, hfunction, hname, hcell, hnamecell⟩ := h.parts
  have hinside := hf f hfunction
  rw [hfunction] at hc
  have hshared : s.shared m = (s.cell f).children.drop 1 := by
    rw [Store.shared, hfunction]
    rfl
  have hchildren : (s'.cell t).children = some name :: (s.cell f).children.drop 1 := by
    rw [hcell, hshared]
    rfl
  refine .method (Store.mem_fresh.mp h.new).1 (by rw [hcell]; rfl) hchildren ?_ hinside hc
  · exact .leaf (Store.mem_fresh.mp hname).1 (by rw [hnamecell]; rfl) (by decide)
      (by rw [hnamecell]; rfl)

theorem Candidate.Declared.novel (h : c.Declared s s' t)
    (hbase : ∀ base, c.superClass = some base →
      s.Inside block base ∧ s.isClassReference (some base) = .ok true)
    (hb : (∀ f, c.builder.function = some f → s.Inside block f) ∧
      s.isConvertible c.builder.function = .ok true)
    (hm : ∀ m ∈ c.methods,
      (∀ f, m.function = some f → s.Inside block f) ∧ s.isConvertible m.function = .ok true) :
    Novel s s' block Kind.classDecl t := by
  obtain ⟨st, name, extends_, body, builder, others, comments, -, hname, hextends, hblock, hcell,
    hnamecell, hextendscell, hblockcell, hbuilder, hothers⟩ := h.parts
  have hchildren : (s'.cell t).children = [some name, some extends_, some body] := by
    rw [hcell]
    rfl
  -- name, extension and body are new tokens; each member is a method made of a convertible function
  refine .declaration (Store.mem_fresh.mp h.new).1 (by rw [hcell]; rfl) hchildren ?_ ?_ ?_
  · exact .leaf (Store.mem_fresh.mp hname).1 (by rw [hnamecell]; rfl) (by decide)
      (by rw [hnamecell]; rfl)
  · have hnew := (Store.mem_fresh.mp hextends).1
    cases hs : c.superClass with
    | none =>
        rw [hs] at hextendscell
        exact .leaf hnew (by rw [hextendscell]; rfl) (by decide) (by rw [hextendscell]; rfl)
    | some base =>
        rw [hs] at hextendscell
        exact .extension hnew (by rw [hextendscell]; rfl) (by rw [hextendscell]; rfl)
          (hbase base hs).1 (hbase base hs).2
  · have hmembers : (s'.cell body).children = (builder.toList ++ others).map some := by
      rw [hblockcell]
      rfl
    refine .body (Store.mem_fresh.mp hblock).1 (by rw [hblockcell]; rfl) hmembers fun v hv => ?_
    rcases List.mem_append.mp hv with hv | hv
    · cases builder with
      | none => cases hv
      | some k =>
          rw [Option.toList_some, List.mem_singleton] at hv
          rw [hv]
          exact hbuilder.2.novel hb.1 hb.2
    · have hboth := (List.forall₂_and_left _ _).mpr ⟨hm, hothers⟩
      obtain ⟨i, hi, rfl⟩ := List.getElem_of_mem hv
      have hi' : i < c.methods.length := hboth.length_eq ▸ hi
      obtain ⟨⟨hfound, hconv⟩, hdefined⟩ := hboth.get hi' hi
      exact hdefined.novel hfound hconv

/-! ## What a visit adds -/

/-- The token was found in the container, and is of a kind that visits edit. -/
def Store.IsEdited (s : Store) (ids : List TokenId) (u : TokenId) : Prop :=
  u ∈ ids ∧ (s.cell u).label.kind ∈ Kind.edited

/-- The functions that a class is made of stand inside the container. -/
theorem Store.inside_of_parts {declaring : Slot} (options : Options) (name : String)
    (hstanding : declaring ∈ (s.cell block).children)
    (hc : s.declaration? (some block) declaring = .ok (some c)) :
    ∀ m ∈ c.builder :: s.methodsFor options (some block) name (s.cell block).children,
      (∀ f, m.function = some f → s.Inside block f) ∧ s.isConvertible m.function = .ok true := by
  intro m hm
  rcases List.mem_cons.mp hm with rfl | hm
  · exact ⟨fun f hf => ⟨declaring, hstanding, hf ▸ under_of_declaration hc⟩,
      convertible_of_declaration hc⟩
  · obtain ⟨st, hst, hm⟩ := List.mem_flatMap.mp hm
    have hms := exists_methods_of_ne_nil (List.ne_nil_of_mem hm)
    exact ⟨fun f hf => ⟨st, List.mem_of_mem_filter hst, hf ▸ under_of_methods hms m hm⟩,
      methods_convertible hms m hm⟩

namespace Rewrites

/-- Only containers, exports, calls and argument lists are edited. -/
theorem edits (h : Rewrites s s' options block classes) (hc : Container s block ids) :
    Frame s s' (s.IsEdited (block :: ids)) := by
  refine h.frame.mono fun u _ hu => ?_
  obtain ⟨p, -, declaring, hdeclaring, -, hedit⟩ := hu
  rcases hedit with rfl | ⟨he, hexport⟩ | ⟨hmem, hpart⟩
  · exact ⟨List.mem_cons_self,
      Kind.edited_of_container (Store.kind_mem_of_isContainer hc.isContainer)⟩
  · exact ⟨List.mem_cons_of_mem _ (hc.found.root_mem (he ▸ hdeclaring)),
      Store.kind_mem_of_hasKind (he ▸ hexport) (by decide)⟩
  · exact ⟨List.mem_cons_of_mem _ (hc.mem_of_mem_at hdeclaring hmem),
      hpart.elim (Store.kind_mem_of_hasKind · (by decide)) (Store.kind_mem_of_hasKind · (by decide))⟩

theorem novel_class (h : Rewrites s s' options block classes) {p : String × TokenId}
    (hp : p ∈ classes) : Novel s s' block Kind.classDecl p.2 := by
  obtain ⟨declaring, hdeclaring, c, hc, -, hdeclared⟩ := h.declared p hp
  have hparts := Store.inside_of_parts options p.1 hdeclaring hc
  refine hdeclared.novel (fun base hbase => ?_) (hparts _ List.mem_cons_self) fun m hm =>
    hparts m (List.mem_cons_of_mem _ hm)
  obtain ⟨st, hst, hsuper⟩ := List.exists_of_findSome?_eq_some hbase
  have hsuper := Store.superOf_eq_some.mp hsuper
  exact ⟨⟨st, List.mem_of_mem_filter hst, Store.under_of_superClass hsuper⟩,
    Store.isClassReference_of_superClass hsuper⟩

/-- Below a token that was there, a new token is the word `super`, or the class in an export. -/
theorem child_of_old (h : Rewrites s s' options block classes) (hc : Container s block ids)
    (ht : t ∈ ids) {v : TokenId} (hv : some v ∈ (s'.cell t).children) (hnew : s.size ≤ v) :
    Novel s s' block Kind.keyword v ∨
      (some t ∈ (s.cell block).children ∧ s.hasKind Kind.exportDecl (some t) = true ∧
        ∃ p ∈ classes, v = p.2) := by
  have hlt := hc.found.lt_size t ht
  have hnotold : some v ∉ (s.cell t).children := fun hvt =>
    absurd hnew (Nat.not_le_of_lt (hc.found.lt_size v (hc.found.link_mem ht hvt)))
  rcases (h.frame.kept t hlt _ hv).resolve_left hnotold with ⟨w, -, he, hword | hholds⟩
  · cases he
    exact Or.inl (.leaf hnew hword.1 (by decide) hword.2)
  -- the children of a token that holds statements differ only if the token was edited
  have hdiffer : ¬(s'.cell t).children = (s.cell t).children := fun hsame => hnotold (hsame ▸ hv)
  have hedited := not_imp_comm.mp (h.frame.children t hlt) hdiffer
  obtain ⟨p, hp, declaring, hdeclaring, hdeclares, rfl | ⟨rfl, hexport⟩ | ⟨-, hpart⟩⟩ := hedited
  · exact absurd ht hc.not_mem
  · have hchildren := h.exported p hp t hdeclaring hexport hdeclares
    rw [hchildren] at hv
    rcases List.mem_or_eq_of_mem_set hv with hv | hv
    · exact absurd hv hnotold
    · cases hv
      exact Or.inr ⟨hdeclaring, hexport, p, hp, rfl⟩
  · rcases hpart with hk | hk <;>
      exact absurd hholds (Store.not_holdsStatements_of_hasKind hk (by decide))

/-- A new token that is found after a visit is one of the classes, or it is no class. -/
theorem mem_classes_or_novel (h : Rewrites s s' options block classes) (hc : Container s block ids)
    (hfound : Spans Cell.children s' (s'.cell block).children ids')
    (hsub : ids' <+~ ids ++ s.fresh s') :
    ∀ u ∈ ids', s.size ≤ u → (∃ p ∈ classes, u = p.2) ∨
      ∃ kind, kind ≠ Kind.classDecl ∧ Novel s s' block kind u := by
  have hold : ∀ v, v ∈ ids → ¬ s.size ≤ v := fun v hv => Nat.not_le_of_lt (hc.found.lt_size v hv)
  -- downwards from the statements: a new statement is a class, and what is new below a token
  -- is either part of something new or was put there by an edit
  refine hfound.forall_of_links (fun u hu hnew => ?_) fun t ht hnovel v hv hnew => ?_
  · rw [h.children] at hu
    obtain ⟨slot, hslot, hu⟩ := List.mem_flatMap.mp hu
    unfold Store.replacement at hu
    split at hu
    · rename_i p hfind
      rw [List.mem_singleton] at hu
      split at hu
      · exact absurd hnew (hold u (hc.found.root_mem (hu ▸ hslot)))
      · cases hu
        exact Or.inl ⟨p, List.mem_of_find?_eq_some hfind, rfl⟩
    · split at hu
      · cases hu
      · rw [List.mem_singleton] at hu
        exact absurd hnew (hold u (hc.found.root_mem (hu ▸ hslot)))
  · by_cases htnew : s.size ≤ t
    · obtain ⟨kind, hkind⟩ : ∃ kind, Novel s s' block kind t := by
        rcases hnovel htnew with ⟨p, hp, rfl⟩ | ⟨kind, -, hkind⟩
        · exact ⟨_, h.novel_class hp⟩
        · exact ⟨kind, hkind⟩
      rcases hkind.child hv with ⟨kind', hkind', hlower⟩ | ⟨⟨hinside, -⟩, -⟩
      · -- no kind is above the classes
        refine Or.inr ⟨kind', ?_, hkind'⟩
        rintro rfl
        exact absurd (Kind.rank_le kind) (Nat.not_le_of_lt hlower)
      · exact absurd hnew (hold v (hc.mem_of_inside hinside))
    · have htmem : t ∈ ids := (List.mem_append.mp (hsub.subset ht)).resolve_right fun hmem =>
        htnew (Store.mem_fresh.mp hmem).1
      rcases h.child_of_old hc htmem hv hnew with hword | ⟨-, -, p, hp, rfl⟩
      · exact Or.inr ⟨_, by decide, hword⟩
      · exact Or.inl ⟨p, hp, rfl⟩

/-- All new tokens that are found after a visit belong to classes, or are single words. -/
theorem novel (h : Rewrites s s' options block classes) (hc : Container s block ids)
    (hfound : Spans Cell.children s' (s'.cell block).children ids')
    (hsub : ids' <+~ ids ++ s.fresh s') :
    ∀ u ∈ ids', s.size ≤ u → ∃ kind, Novel s s' block kind u := by
  intro u hu hnew
  rcases h.mem_classes_or_novel hc hfound hsub u hu hnew with ⟨p, hp, rfl⟩ | ⟨kind, -, hkind⟩
  · exact ⟨_, h.novel_class hp⟩
  · exact ⟨kind, hkind⟩

/-- A visit makes no other classes. -/
theorem mem_classes_of_new (h : Rewrites s s' options block classes) (hc : Container s block ids)
    (hfound : Spans Cell.children s' (s'.cell block).children ids')
    (hsub : ids' <+~ ids ++ s.fresh s') (hu : u ∈ ids') (hnew : s.size ≤ u)
    (hclass : s'.hasKind Kind.classDecl (some u) = true) : ∃ p ∈ classes, u = p.2 := by
  refine (h.mem_classes_or_novel hc hfound hsub u hu hnew).resolve_right ?_
  rintro ⟨kind, hne, hkind⟩
  exact hne (hkind.label.symm.trans (Store.kind_of_hasKind hclass))

end Rewrites

end ClassLift
