import ClassLift.Proofs.Scan.Trace
import ClassLift.Proofs.Token.Spans
import ClassLift.Token.Dump

set_option autoImplicit false

/-! # Scans in preorder

A scan edits the tree that it visits, and the tree that counts is the one at the end: where each
visit keeps to the token visited and what is below it, the tokens are visited in the preorder of the
final tree, each with the token above it there (`Traced.preorder`).

The invariant is `Front`. A walk (`Walk`) is a scan that edits nothing. At any moment of a scan, the
walk through the tree as it is now goes by the tokens visited so far and leaves the stack of the
scan. A visit does not touch the tokens that were visited before, so that the walk through the edited
tree begins in the same way (`Front.step`).

A scan by finitely many rules ends, because each visit uses up a rule or a token of the tree
(`Rounds.ends_of_rules`).
-/

namespace ClassLift

open List

/-! ## Preorder listings -/

namespace Tree

mutual

/-- The slots of a tree in preorder, each with the slot above it. -/
def places (parent : Slot) : Tree → List (Slot × Slot)
  | absent => [(none, parent)]
  | node t _ cs _ => (some t, parent) :: placesAll (some t) cs

/-- The slots of several trees with the same slot above them, one tree after the other. -/
def placesAll (parent : Slot) : List Tree → List (Slot × Slot)
  | [] => []
  | t :: ts => places parent t ++ placesAll parent ts

end

mutual

/-- A tree is whole when no slot in it is empty. -/
theorem whole_iff_places (parent : Slot) :
    ∀ T : Tree, T.whole = true ↔ none ∉ (T.places parent).map Prod.fst
  | absent => by simp [whole, places]
  | node t _ cs _ => by simpa [whole, places] using allWhole_iff_places (some t) cs

theorem allWhole_iff_places (parent : Slot) :
    ∀ Ts : List Tree, allWhole Ts = true ↔ none ∉ (placesAll parent Ts).map Prod.fst
  | [] => by simp [allWhole, placesAll]
  | T :: Ts => by
      have hfirst := whole_iff_places parent T
      have hrest := allWhole_iff_places parent Ts
      rw [allWhole, Bool.and_eq_true, hfirst, hrest, placesAll, List.map_append, List.mem_append,
        not_or]

end

theorem placesAll_eq_flatMap (parent : Slot) (Ts : List Tree) :
    placesAll parent Ts = Ts.flatMap (places parent) := by
  induction Ts with
  | nil => rfl
  | cons T Ts ih => rw [placesAll, ih, List.flatMap_cons]

mutual

/-- The tokens of a whole tree are at its places, in the same order. -/
theorem tokens_eq_places (depth : Int) (parent : Slot) : ∀ T : Tree, T.whole = true →
    (T.tokens depth).map (fun row => some row.2) = (T.places parent).map Prod.fst
  | absent, h => by cases h
  | node t _ cs _, h => by
      rw [tokens, places, List.map_cons, List.map_cons,
        allTokens_eq_places (depth + 1) (some t) cs h]

theorem allTokens_eq_places (depth : Int) (parent : Slot) : ∀ Ts : List Tree, allWhole Ts = true →
    (allTokens depth Ts).map (fun row => some row.2) = (placesAll parent Ts).map Prod.fst
  | [], _ => rfl
  | T :: Ts, h => by
      rw [allWhole, Bool.and_eq_true] at h
      rw [allTokens, placesAll, List.map_append, List.map_append,
        tokens_eq_places depth parent T h.1, allTokens_eq_places depth parent Ts h.2]

end

end Tree

namespace Scan

variable {σ : Type}

/-! ## Walks -/

/-- A walk from some slots: rounds of a scan that edits nothing, with the slots that it goes by and
those above them. -/
inductive Walk (s : Store) : List Pending → List Pending → List Pending → Prop where
  | refl (stack : List Pending) : Walk s stack [] stack
  | head {t : TokenId} {parent : Slot} {stack places left : List Pending}
      (next : Walk s (pending (some t) (s.cell t).children ++ stack) places left) :
      Walk s ((some t, parent) :: stack) ((some t, parent) :: places) left

namespace Walk

variable {s s' : Store} {stack more places left : List Pending} {t : TokenId} {parent : Slot}
  {ids : List TokenId}

/-- One more round. -/
theorem snoc (h : Walk s stack places ((some t, parent) :: left)) :
    Walk s stack (places ++ [(some t, parent)]) (pending (some t) (s.cell t).children ++ left) := by
  generalize hnext : (some t, parent) :: left = next at h
  induction h with
  | refl =>
      subst hnext
      exact .head (.refl _)
  | head _ ih => exact .head (ih hnext)

/-- The children of the tokens that a walk goes by are all that it depends on. -/
theorem frame (h : Walk s stack places left)
    (same : ∀ u, some u ∈ places.map Prod.fst → (s'.cell u).children = (s.cell u).children) :
    Walk s' stack places left := by
  induction h with
  | refl => exact .refl _
  | head _ ih =>
      refine .head ?_
      rw [same _ (by simp)]
      exact ih fun u hu => same u (List.mem_cons_of_mem _ hu)

/-- A walk goes by the first tokens of the tree, and leaves the slots of the others. -/
theorem spans (h : Walk s stack places left) (hspans : Spans Cell.children s (stack.map Prod.fst) ids) :
    ∃ visited rest, ids = visited ++ rest ∧ places.map Prod.fst = visited.map some ∧
      Spans Cell.children s (left.map Prod.fst) rest := by
  induction h generalizing ids with
  | refl => exact ⟨[], ids, rfl, rfl, hspans⟩
  | @head t parent stack places left _ ih =>
      cases hspans with
      | @token _ _ below others _ down next =>
          have hchildren : (pending (some t) (s.cell t).children ++ stack).map Prod.fst =
              (s.cell t).children ++ stack.map Prod.fst := by simp [pending, Function.comp_def]
          obtain ⟨visited, rest, hids, hplaces, hrest⟩ :=
            ih (hchildren ▸ down.append next)
          refine ⟨t :: visited, rest, ?_, ?_, hrest⟩
          · rw [hids, List.cons_append]
          · rw [List.map_cons, List.map_cons, hplaces]

/-- A walk through all of some slots and others is a walk through the first ones, and then one
through the others. -/
theorem split (h : Walk s (stack ++ more) places []) :
    ∃ first rest, places = first ++ rest ∧ Walk s stack first [] ∧ Walk s more rest [] := by
  generalize hall : stack ++ more = all at h
  generalize hnil : ([] : List Pending) = left at h
  induction h generalizing stack with
  | refl =>
      subst hnil
      obtain ⟨rfl, rfl⟩ := List.append_eq_nil_iff.mp hall
      exact ⟨[], [], rfl, .refl _, .refl _⟩
  | @head t parent others places left next ih =>
      cases stack with
      | nil =>
          subst hnil
          rw [List.nil_append] at hall
          subst hall
          exact ⟨[], _, rfl, .refl _, .head next⟩
      | cons first stack =>
          rw [List.cons_append] at hall
          obtain ⟨rfl, rfl⟩ := List.cons.inj hall
          obtain ⟨front, rest, rfl, hfront, hrest⟩ :=
            ih (List.append_assoc _ stack more) hnil
          subst hnil
          exact ⟨(some t, parent) :: front, rest, rfl, .head hfront, hrest⟩

/-- What a walk through a whole stack goes by: the places of its trees. -/
theorem places_eq (h : Walk s stack places []) (d : Nat) (hd : places.length ≤ d) :
    places = stack.flatMap fun place => (s.treeTo d place.1).places place.2 := by
  -- the walk below a token is shorter than the one that begins with it
  induction hlength : places.length using Nat.strong_induction_on generalizing stack places d with
  | _ n ih =>
    cases h with
    | refl => rfl
    | @head t parent stack places _ next =>
        rw [List.length_cons] at hd hlength
        obtain ⟨d, rfl⟩ : ∃ e, d = e + 1 := ⟨d - 1, by omega⟩
        obtain ⟨below, others, rfl, hbelow, hothers⟩ := next.split
        rw [List.length_append] at hd hlength
        have hdown := ih below.length (by omega) hbelow d (by omega) rfl
        have hnext := ih others.length (by omega) hothers (d + 1) (by omega) rfl
        have htree : below = Tree.placesAll (some t) ((s.cell t).children.map (s.treeTo d)) := by
          rw [Tree.placesAll_eq_flatMap, List.flatMap_map, hdown, pending, List.flatMap_map]
        rw [List.flatMap_cons, ← hnext, Store.treeTo, Tree.places, ← htree, List.cons_append]

/-- A walk through an unshared tree goes by the places of this tree. -/
theorem places_tree {root : TokenId} (h : Walk s [(some root, none)] places [])
    (hspans : Spans Cell.children s [some root] ids) (hn : ids.Nodup) :
    places = (s.tree (some root)).places none ∧ places.map Prod.fst = ids.map some := by
  obtain ⟨visited, rest, rfl, hplaces, hrest⟩ := h.spans hspans
  cases hrest
  rw [List.append_nil] at hspans hn ⊢
  refine ⟨?_, hplaces⟩
  have hlength : places.length ≤ s.size := by
    have hsize := hspans.length_le_size hn
    have := congrArg List.length hplaces
    rw [List.length_map, List.length_map] at this
    omega
  have := h.places_eq s.size hlength
  rwa [List.flatMap_singleton] at this

end Walk

/-! ## Where a scan stands -/

/-- An edit keeps to a token and what is below it, as far as the children of the tokens in the tree
are concerned, and the tree is unshared afterwards. -/
structure EditsBelow (root t : TokenId) (s s' : Store) : Prop where
  kept : ∀ ids below, Spans Cell.children s [some root] ids →
    Spans Cell.children s [some t] (t :: below) →
    ∀ u ∈ ids, u ∉ t :: below → (s'.cell u).children = (s.cell u).children
  tree : ∃ ids, Spans Cell.children s' [some root] ids ∧ ids.Nodup

/-- All visits of a scan that do not stop it keep to the token visited and what is below it, and
leave an unshared tree. -/
def Confined (visit : Visit σ) (a : Store × σ) (root : TokenId) : Prop :=
  ∀ visited b t parent left c, Rounds visit a [(some root, none)] visited b ((some t, parent) :: left) →
    (visit (some t) parent).run.run b = (.ok (), c) → EditsBelow root t b.1 c.1

/-- The tree is unshared, and the walk through it goes by the given places and leaves the given
stack. -/
structure Front (root : TokenId) (s : Store) (places stack : List Pending) : Prop where
  walk : Walk s [(some root, none)] places stack
  tree : ∃ ids, Spans Cell.children s [some root] ids ∧ ids.Nodup

/-- The slot of a moment and the one above it. -/
def Moment.place (m : Moment σ) : Pending := (m.slot, m.parent)

variable {visit : Visit σ} {a b c : Store × σ} {s s' : Store} {root t : TokenId} {parent : Slot}
  {places stack left : List Pending} {visited others ids : List TokenId}
  {moments : List (Moment σ)}

/-- A visit takes the walk one round further: before it, nothing that the walk went by has
changed. -/
theorem Front.step (h : Front root s places ((some t, parent) :: stack))
    (hedit : EditsBelow root t s s') :
    Front root s' (places ++ [(some t, parent)]) (pending (some t) (s'.cell t).children ++ stack) := by
  obtain ⟨ids, hspans, hn⟩ := h.tree
  obtain ⟨visited, rest, rfl, hplaces, hrest⟩ := h.walk.spans hspans
  obtain ⟨first, others, rfl, hfirst, -⟩ := Spans.of_cons hrest
  obtain ⟨-, below, rfl, -⟩ := hfirst.of_singleton
  refine ⟨Walk.snoc (h.walk.frame fun u hu => ?_), hedit.tree⟩
  obtain ⟨v, hvisited, hv⟩ := List.mem_map.mp (hplaces ▸ hu)
  cases hv
  refine hedit.kept _ below hspans hfirst u (List.mem_append_left _ hvisited) fun hbelow => ?_
  exact (List.nodup_append.mp hn).2.2 u hvisited u (List.mem_append_left _ hbelow) rfl

theorem Rounds.snoc (h : Rounds visit a stack visited b ((some t, parent) :: left))
    (here : (visit (some t) parent).run.run b = (.ok (), c)) :
    Rounds visit a stack (visited ++ [t]) c (pending (some t) (c.1.cell t).children ++ left) := by
  generalize hnext : (some t, parent) :: left = next at h
  induction h with
  | refl =>
      subst hnext
      exact .head here (.refl _ _)
  | head first _ ih => exact .head first (ih here hnext)

/-- A scan that began in an unshared tree has come to the given place. -/
structure Reached (visit : Visit σ) (a : Store × σ) (root : TokenId) (b : Store × σ)
    (places stack : List Pending) : Prop where
  rounds : ∃ visited, Rounds visit a [(some root, none)] visited b stack
  front : Front root b.1 places stack

theorem Reached.start (hspans : Spans Cell.children a.1 [some root] ids) (hn : ids.Nodup) :
    Reached visit a root a [] [(some root, none)] :=
  ⟨⟨[], .refl _ _⟩, .refl _, ids, hspans, hn⟩

theorem Reached.next (h : Reached visit a root b places ((some t, parent) :: left))
    (hconfined : Confined visit a root) (here : (visit (some t) parent).run.run b = (.ok (), c)) :
    Reached visit a root c (places ++ [(some t, parent)])
      (pending (some t) (c.1.cell t).children ++ left) := by
  obtain ⟨⟨visited, hrounds⟩, hfront⟩ := h
  exact ⟨⟨visited ++ [t], hrounds.snoc here⟩, hfront.step (hconfined _ _ _ _ _ _ hrounds here)⟩

/-- Wherever the rounds of a scan lead, the scan has reached. -/
theorem Rounds.reached (h : Rounds visit b stack visited c left)
    (hb : Reached visit a root b places stack) (hconfined : Confined visit a root) :
    ∃ more, more.map Prod.fst = visited.map some ∧ Reached visit a root c (places ++ more) left := by
  induction h generalizing places with
  | refl =>
      refine ⟨[], rfl, ?_⟩
      rwa [List.append_nil]
  | @head b c d t parent stack left visited here _ ih =>
      obtain ⟨more, hmore, hreached⟩ := ih (hb.next hconfined here)
      refine ⟨(some t, parent) :: more, by rw [List.map_cons, List.map_cons, hmore], ?_⟩
      rwa [List.append_assoc] at hreached

/-- No more tokens are visited than there are. -/
theorem Reached.length_le (h : Reached visit a root b places stack) : places.length ≤ b.1.size := by
  obtain ⟨ids, hspans, hn⟩ := h.front.tree
  obtain ⟨visited, rest, rfl, hplaces, -⟩ := h.front.walk.spans hspans
  have hsize := hspans.length_le_size hn
  have hlength := congrArg List.length hplaces
  rw [List.length_map, List.length_map] at hlength
  rw [List.length_append] at hsize
  omega

/-- Where a scan returns, its visits are the walk through the final tree. -/
theorem Reached.returned (h : Reached visit a root b places stack) (hconfined : Confined visit a root)
    {result : Except Fault Unit} (htraced : Traced visit b stack moments result c left)
    (hresult : result = .ok ()) :
    left = [] ∧ Front root c.1 (places ++ moments.map Moment.place) [] := by
  induction htraced generalizing places with
  | returned =>
      rw [List.map_nil, List.append_nil]
      exact ⟨rfl, h.front⟩
  | raised => cases hresult
  | absent => cases hresult
  | next here _ ih =>
      obtain ⟨hleft, hfront⟩ := ih (h.next hconfined here) hresult
      refine ⟨hleft, ?_⟩
      rwa [List.append_assoc] at hfront

/-- A scan whose visits are confined, and which returns: it has visited the places of the final
tree, in preorder, each token once, and nothing is left to be visited. -/
theorem Traced.preorder (hspans : Spans Cell.children a.1 [some root] ids) (hn : ids.Nodup)
    (hconfined : Confined visit a root)
    (h : Traced visit a [(some root, none)] moments (.ok ()) b left) :
    left = [] ∧ moments.map Moment.place = (b.1.tree (some root)).places none ∧
      ∃ visited, moments.map Moment.slot = visited.map some ∧ visited.Nodup ∧
        Spans Cell.children b.1 [some root] visited := by
  obtain ⟨hleft, hwalk, visited, hspans', hn'⟩ := (Reached.start hspans hn).returned hconfined h rfl
  rw [List.nil_append] at hwalk
  obtain ⟨hplaces, htokens⟩ := hwalk.places_tree hspans' hn'
  refine ⟨hleft, hplaces, visited, ?_, hn', hspans'⟩
  rw [← htokens, List.map_map]
  rfl

/-! ## Scans that edit nothing -/

/-- However a visit ends, the store is as it was. -/
def EditsNothing (visit : Visit σ) : Prop := ∀ s, Kept visit fun a => a.1 = s

theorem EditsNothing.confined (h : EditsNothing visit)
    (hspans : Spans Cell.children a.1 [some root] ids) (hn : ids.Nodup) : Confined visit a root := by
  intro visited b t parent left c hrounds here
  have hb : b.1 = a.1 := hrounds.keeps (h a.1) rfl
  have hc : c.1 = a.1 := h a.1 _ _ _ _ _ here hb
  rw [hb, hc]
  exact ⟨fun _ _ _ _ _ _ _ => rfl, ids, hspans, hn⟩

/-- A scan that edits nothing visits the tokens that the tree lists, in this order. -/
theorem Traced.tokens (hspans : Spans Cell.children a.1 [some root] ids) (hn : ids.Nodup)
    (hnothing : EditsNothing visit) (h : Traced visit a [(some root, none)] moments (.ok ()) b left)
    (depth : Int) :
    ∃ rows, a.1.tokens depth (some root) = .ok rows ∧
      rows.map (fun row => some row.2) = moments.map Moment.slot := by
  obtain ⟨-, hplaces, visited, hslots, -, -⟩ := h.preorder hspans hn (hnothing.confined hspans hn)
  have hstore : b.1 = a.1 := by
    obtain ⟨_, hends, -⟩ := h.ends
    exact hends.keeps (hnothing a.1) rfl
  rw [hstore] at hplaces
  have hslots' : ((a.1.tree (some root)).places none).map Prod.fst = moments.map Moment.slot := by
    rw [← hplaces, List.map_map]
    rfl
  have hwhole : (a.1.tree (some root)).whole = true := by
    rw [Tree.whole_iff_places none, hslots', hslots]
    simp
  exact ⟨_, if_pos hwhole, (Tree.tokens_eq_places depth none _ hwhole).trans hslots'⟩

/-! ## Scans by rules -/

/-- The visit goes by finitely many rules, each of which gives some children: it puts the children
of one rule below its token and uses up this rule, or it leaves all children as they are. -/
def UsesRules (visit : Visit σ) (rules : σ → List (List Slot)) : Prop :=
  ∀ t parent a result b, t < a.1.size → (visit (some t) parent).run.run a = (result, b) →
    result = .ok () ∧
      ((rules b.2 = rules a.2 ∧ ∀ u, (b.1.cell u).children = (a.1.cell u).children) ∨
        ∃ children, rules a.2 ~ children :: rules b.2 ∧ (b.1.cell t).children = children ∧
          ∀ u, u ≠ t → (b.1.cell u).children = (a.1.cell u).children)

variable {rules : σ → List (List Slot)}

/-- From wherever a scan by rules has come to, it ends. -/
theorem Reached.ends (h : Reached visit a root b places stack) (hrules : UsesRules visit rules)
    (hconfined : Confined visit a root) :
    ∃ moments result c left, Traced visit b stack moments result c left := by
  -- a visit uses up a rule, or it leaves one token less to be visited
  induction hleft : (rules b.2).length using Nat.strong_induction_on generalizing places b stack with
  | _ n ihrules =>
    obtain ⟨ids, hspans, -⟩ := h.front.tree
    obtain ⟨-, rest, -, -, hrest⟩ := h.front.walk.spans hspans
    induction hahead : rest.length using Nat.strong_induction_on
      generalizing places b stack rest ids with
    | _ m ihahead =>
      cases stack with
      | nil => exact ⟨_, _, _, _, .returned b⟩
      | cons next left =>
          obtain ⟨slot, parent⟩ := next
          rcases hvisit : (visit slot parent).run.run b with ⟨_ | ⟨⟨⟩⟩, c⟩
          · exact ⟨_, _, _, _, .raised hvisit⟩
          cases slot with
          | none => exact ⟨_, _, _, _, .absent hvisit⟩
          | some t =>
              have hnext := h.next hconfined hvisit
              obtain ⟨ids', hspans', -⟩ := hnext.front.tree
              obtain ⟨-, rest', -, -, hrest'⟩ := hnext.front.walk.spans hspans'
              rw [List.map_cons] at hrest
              cases hrest with
              | @token _ _ below others hlt down more =>
                  suffices hends : ∃ moments result d left', Traced visit c
                      (pending (some t) (c.1.cell t).children ++ left) moments result d left' by
                    obtain ⟨moments, result, d, left', htraced⟩ := hends
                    exact ⟨_, _, _, _, .next hvisit htraced⟩
                  obtain ⟨-, ⟨hsame, hchildren⟩ | ⟨children, hperm, -, -⟩⟩ :=
                    hrules t parent b _ c hlt hvisit
                  · have hbelow : (pending (some t) (c.1.cell t).children ++ left).map Prod.fst =
                        (b.1.cell t).children ++ left.map Prod.fst := by
                      simp [pending, Function.comp_def, hchildren]
                    have hids : below ++ others = rest' :=
                      (down.append more).unique_of_same (hbelow ▸ hrest') hchildren
                    refine ihahead rest'.length ?_ hnext (hsame ▸ hleft) ids' hspans' rest' hrest' rfl
                    rw [← hids, ← hahead, List.length_cons]
                    omega
                  · refine ihrules _ ?_ hnext rfl
                    have := hperm.length_eq
                    rw [List.length_cons] at this
                    omega

/-- A scan by rules returns where no slot is empty, neither in the store nor in a rule. -/
theorem Reached.result_eq (h : Reached visit a root b places stack) (hrules : UsesRules visit rules)
    (hconfined : Confined visit a root) {result : Except Fault Unit}
    (htraced : Traced visit b stack moments result c left)
    (hpresent : ∀ u, none ∉ (b.1.cell u).children) (hgiven : ∀ children ∈ rules b.2, none ∉ children)
    (hstack : none ∉ stack.map Prod.fst) : result = .ok () := by
  -- what is on the stack is found in the store, so rules apply to it
  have hlt : ∀ {b stack places t parent}, Reached visit a root b places ((some t, parent) :: stack) →
      t < b.1.size := by
    intro b stack places t parent h
    obtain ⟨ids, hspans, -⟩ := h.front.tree
    obtain ⟨-, rest, -, -, hrest⟩ := h.front.walk.spans hspans
    exact hrest.lt_size t (hrest.root_mem (by simp))
  induction htraced generalizing places with
  | returned => rfl
  | @raised b c slot parent left fault here =>
      cases slot with
      | none => simp at hstack
      | some t => exact absurd (hrules t parent b _ c (hlt h) here).1 (by simp)
  | absent => simp at hstack
  | @next b c d t parent stack left moments result here _ ih =>
      obtain ⟨-, hedit⟩ := hrules t parent b _ c (hlt h) here
      -- a rule that is applied gives children without gaps, and no gap is pushed on the stack
      have hpresent' : ∀ u, none ∉ (c.1.cell u).children := by
        intro u
        rcases hedit with ⟨-, hchildren⟩ | ⟨children, hperm, hhere, hchildren⟩
        · rw [hchildren u]
          exact hpresent u
        · by_cases hu : u = t
          · rw [hu, hhere]
            exact hgiven children (hperm.mem_iff.mpr List.mem_cons_self)
          · rw [hchildren u hu]
            exact hpresent u
      refine ih (h.next hconfined here) hpresent' (fun children hchildren => ?_) ?_
      · rcases hedit with ⟨hsame, -⟩ | ⟨given, hperm, -, -⟩
        · exact hgiven children (hsame ▸ hchildren)
        · exact hgiven children (hperm.mem_iff.mpr (List.mem_cons_of_mem _ hchildren))
      · rw [List.map_append, List.mem_append, not_or]
        refine ⟨?_, fun hmem => hstack (List.mem_cons_of_mem _ hmem)⟩
        simpa [pending, Function.comp_def] using hpresent' t

/-! ## Rules for values -/

theorem takeRule_perm {value : String} {given rest : List (String × List Slot)}
    {children : List Slot} (h : takeRule value given = some (children, rest)) :
    given ~ (value, children) :: rest := by
  induction given generalizing rest with
  | nil => cases h
  | cons first given ih =>
      obtain ⟨v, cs⟩ := first
      rw [takeRule] at h
      split at h
      · rename_i hv
        cases h
        rw [hv]
      · obtain ⟨⟨found, others⟩, hfound, hpair⟩ := Option.map_eq_some_iff.mp h
        cases hpair
        exact ((ih hfound).cons _).trans (.swap _ _ _)

/-- The visit of a token notes it, and puts the children of its rule below it, if there is one. -/
theorem applyRule_run (t : TokenId) (parent : Slot) (s : Store) (x : Rules) :
    ∃ seen, (applyRule (some t) parent).run.run (s, x) =
      match takeRule (s.cell t).label.value x.rules with
      | none => (.ok (), (s, ⟨seen, x.rules⟩))
      | some (children, rest) =>
        (.ok (), (s.set t { s.cell t with children }, ⟨seen, rest⟩)) := by
  have hcell : (Edit.cell (some t)).run.run s = (.ok (s.cell t), s) := rfl
  refine ⟨x.seen ++ [((s.cell t).label.kind, (s.cell t).label.value,
    parent.map fun p => (s.cell p).label.value)], ?_⟩
  unfold applyRule
  rw [run_run_bind_of_ok (Traversal.run_run_edit_of_eq hcell x), run_run_bind_of_ok (run_run_get _),
    run_run_bind_of_ok (Traversal.run_run_modifyOwn _ _ _),
    run_run_bind_of_ok (Traversal.run_run_own _ _)]
  dsimp only
  cases takeRule (s.cell t).label.value x.rules with
  | none => rfl
  | some found => rfl

theorem applyRule_usesRules : UsesRules applyRule fun x => x.rules.map Prod.snd := by
  rintro t parent ⟨s, x⟩ result ⟨s', x'⟩ hlt hrun
  obtain ⟨seen, heq⟩ := applyRule_run t parent s x
  rw [heq] at hrun
  cases hrule : takeRule (s.cell t).label.value x.rules with
  | none =>
      rw [hrule] at hrun
      cases hrun
      exact ⟨rfl, Or.inl ⟨rfl, fun _ => rfl⟩⟩
  | some found =>
      obtain ⟨children, rest⟩ := found
      rw [hrule] at hrun
      cases hrun
      refine ⟨rfl, Or.inr ⟨children, (takeRule_perm hrule).map Prod.snd, ?_, fun u hu => ?_⟩⟩
      · rw [s.cell_set_eq t _ hlt]
      · rw [s.cell_set_ne t u _ hu]

theorem applyRule_keeps_size (n : Nat) : Kept applyRule fun a => a.1.size = n := by
  rintro slot parent ⟨s, x⟩ result ⟨s', x'⟩ hrun hsize
  cases slot with
  | none =>
      cases hrun
      exact hsize
  | some t =>
      obtain ⟨seen, heq⟩ := applyRule_run t parent s x
      rw [heq] at hrun
      cases hrule : takeRule (s.cell t).label.value x.rules with
      | none =>
          rw [hrule] at hrun
          cases hrun
          exact hsize
      | some found =>
          rw [hrule] at hrun
          cases hrun
          exact (s.size_set t _).trans hsize

/-- A scan by rules for values that keeps the tree unshared ends within its bound: no more tokens
are visited than there are. -/
theorem byRules_ends {s : Store} {x : Rules} (hspans : Spans Cell.children s [some root] ids)
    (hn : ids.Nodup) (hconfined : Confined applyRule (s, x) root) :
    ∃ moments b left,
      Traced applyRule (s, x) [(some root, none)] moments
        (outcome ((byRules (some root)).run.run (s, x)).1) b left ∧
      ((byRules (some root)).run.run (s, x)).2 = b := by
  have hstart : Reached applyRule (s, x) root (s, x) [] [(some root, none)] := .start hspans hn
  obtain ⟨moments, result, b, left, htraced⟩ := hstart.ends applyRule_usesRules hconfined
  obtain ⟨visited, hends, -⟩ := htraced.ends
  have hlength : visited.length ≤ s.size := by
    obtain ⟨c, rest, hrounds, -⟩ := hends.stuck
    have hsize : c.1.size = s.size := hrounds.keeps (applyRule_keeps_size s.size) rfl
    obtain ⟨places, hplaces, hreached⟩ := hrounds.reached hstart hconfined
    have hle := hreached.length_le
    have hlength := congrArg List.length hplaces
    rw [List.length_map, List.length_map] at hlength
    rw [List.nil_append, hsize] at hle
    omega
  have hnone : ∀ parent a b, (applyRule none parent).run.run a ≠ (.ok (), b) := by
    intro parent a b h
    cases h
  obtain ⟨hresult, hstore⟩ := hends.run hnone (Nat.lt_succ_of_le hlength)
  exact ⟨moments, b, left, hresult ▸ htraced, hstore⟩

/-! ## The order of a scan -/

/-- A scan of an unshared tree, whatever its visits do to a state of their own.

Where every visit keeps to the token visited and what is below it, and leaves an unshared tree, a
scan that ends without a fault has visited the final tree in preorder, each token once and with the
token above it, no token is left to be visited, and the scan within any bound that is not below the
number of visits does the same. Such a scan ends when its visits use up finitely many rules, and
without a fault where no slot is empty. A scan that edits nothing visits the tokens that the tree
lists, in this order. -/
theorem visits_preorder (hspans : Spans Cell.children a.1 [some root] ids) (hn : ids.Nodup) :
    (Confined visit a root → ∀ moments b left, Traced visit a [(some root, none)] moments (.ok ()) b left →
      left = [] ∧ moments.map Moment.place = (b.1.tree (some root)).places none ∧
      (∃ visited, moments.map Moment.slot = visited.map some ∧ visited.Nodup ∧
        Spans Cell.children b.1 [some root] visited) ∧
      ∀ depth, moments.length ≤ depth → (run visit depth (some root)).run.run a = (.ok (), b)) ∧
    (Confined visit a root → ∀ rules, UsesRules visit rules →
      ∃ moments result b left, Traced visit a [(some root, none)] moments result b left ∧
        ((∀ u, none ∉ (a.1.cell u).children) → (∀ children ∈ rules a.2, none ∉ children) →
          result = .ok ())) ∧
    (EditsNothing visit → ∀ moments b left, Traced visit a [(some root, none)] moments (.ok ()) b left →
      ∃ rows, a.1.tokens 0 (some root) = .ok rows ∧
        rows.map (fun row => some row.2) = moments.map Moment.slot) := by
  have hstart : Reached visit a root a [] [(some root, none)] := .start hspans hn
  refine ⟨fun hconfined moments b left htraced => ?_, fun hconfined rules hrules => ?_,
    fun hnothing moments b left htraced => htraced.tokens hspans hn hnothing 0⟩
  · obtain ⟨hleft, hplaces, hvisited⟩ := htraced.preorder hspans hn hconfined
    exact ⟨hleft, hplaces, hvisited, fun depth hdepth => htraced.run hdepth⟩
  · obtain ⟨moments, result, b, left, htraced⟩ := hstart.ends hrules hconfined
    refine ⟨moments, result, b, left, htraced, fun hpresent hgiven => ?_⟩
    exact hstart.result_eq hrules hconfined htraced hpresent hgiven (by simp)

/-- A call `f(x)`, token 3, and beside it the name `y`, token 4. -/
def callTree : Store where
  cells := #[
    .fresh Kind.text "f" 1 0 [],
    .fresh Kind.text "x" 1 2 [],
    .fresh Kind.arguments "()" 1 1 [some 1],
    .fresh Kind.call "" 1 1 [some 0, some 2],
    .fresh Kind.text "y" 1 4 []]

/-- The arguments get another child, once. -/
def callRules : Rules := ⟨[], [("()", [some 4])]⟩

/-- The tree after the rule was used. -/
def callTreeEdited : Store := callTree.set 2 { callTree.cell 2 with children := [some 4] }

theorem callTree_spans : Spans Cell.children callTree [some 3] [3, 0, 2, 1] :=
  .of_preorder callTree.size rfl

theorem callTreeEdited_spans : Spans Cell.children callTreeEdited [some 3] [3, 0, 2, 4] :=
  .of_preorder callTreeEdited.size rfl

theorem callTree_confined : Confined applyRule (callTree, callRules) 3 := by
  have hsame : ∀ t, EditsBelow 3 t callTree callTree := fun _ =>
    ⟨fun _ _ _ _ _ _ _ => rfl, _, callTree_spans, by decide⟩
  have hsame' : ∀ t, EditsBelow 3 t callTreeEdited callTreeEdited := fun _ =>
    ⟨fun _ _ _ _ _ _ _ => rfl, _, callTreeEdited_spans, by decide⟩
  have hedit : EditsBelow 3 2 callTree callTreeEdited := by
    refine ⟨fun ids below hids hbelow u hu hnot => ?_, _, callTreeEdited_spans, by decide⟩
    exact congrArg Cell.children (callTree.cell_set_ne 2 u _ fun h => hnot (by simp [h]))
  intro visited b t parent left c hrounds here
  -- the four visits of the scan, one after the other
  cases hrounds with
  | refl =>
    cases here
    exact hsame 3
  | head first hrounds =>
    cases first
    cases hrounds with
    | refl =>
      cases here
      exact hsame 0
    | head second hrounds =>
      cases second
      cases hrounds with
      | refl =>
        cases here
        exact hedit
      | head third hrounds =>
        cases third
        cases hrounds with
        | refl =>
          cases here
          exact hsame' 4
        | head fourth hrounds =>
          cases fourth
          cases hrounds

theorem callTree_present (u : TokenId) : none ∉ (callTree.cell u).children := by
  rcases u with _ | _ | _ | _ | _ | u
  · decide
  · decide
  · decide
  · decide
  · decide
  · have hblank : callTree.cell (u + 5) = default := by simp [callTree, Store.cell]
    rw [hblank]
    exact List.not_mem_nil

theorem visits_preorder_callTree :
    (∃ moments b, Traced applyRule (callTree, callRules) [(some 3, none)] moments (.ok ()) b [] ∧
      moments.map Moment.place = (b.1.tree (some 3)).places none ∧
      (∃ visited, moments.map Moment.slot = visited.map some ∧ visited.Nodup ∧
        Spans Cell.children b.1 [some 3] visited) ∧
      ∀ depth, moments.length ≤ depth →
        (run applyRule depth (some 3)).run.run (callTree, callRules) = (.ok (), b)) ∧
    ∃ moments b left, Traced (fun _ _ => pure () : Visit Unit) (callTree, ()) [(some 3, none)] moments
        (.ok ()) b left ∧
      ∃ rows, callTree.tokens 0 (some 3) = .ok rows ∧
        rows.map (fun row => some row.2) = moments.map Moment.slot := by
  constructor
  · have hscan := @visits_preorder Rules applyRule (callTree, callRules) 3 _ callTree_spans (by decide)
    obtain ⟨moments, result, b, left, htraced, hresult⟩ :=
      hscan.2.1 callTree_confined _ applyRule_usesRules
    obtain rfl := hresult callTree_present (by decide)
    obtain ⟨rfl, hplaces⟩ := hscan.1 callTree_confined moments b left htraced
    exact ⟨moments, b, htraced, hplaces⟩
  · have hnothing : EditsNothing (fun _ _ => pure () : Visit Unit) := by
      intro s slot parent a result b hrun ha
      cases hrun
      exact ha
    have htraced : Traced (fun _ _ => pure () : Visit Unit) (callTree, ()) [(some 3, none)] _ (.ok ()) _ [] :=
      .next rfl (.next rfl (.next rfl (.next rfl (.returned _))))
    have hscan := @visits_preorder Unit (fun _ _ => pure ()) (callTree, ()) 3 _ callTree_spans (by decide)
    exact ⟨_, _, _, htraced, hscan.2.2 hnothing _ _ _ htraced⟩

end Scan

end ClassLift
