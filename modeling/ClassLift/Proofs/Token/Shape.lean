import ClassLift.Proofs.Token.Acyclic
import ClassLift.Token.Tree
import Mathlib.Algebra.GroupWithZero.Nat

set_option autoImplicit false

/-! # Shapes

The *shape* of a slot is what its tree shows of kinds, values and children; places, files, comments
and identities are left out. Acyclic slots are alike if and only if they have the same shape
(`alike_iff`).

The comparison pair by pair goes through rounds: one pair is taken from those that are left, and the
pairs of its children are added. `Store.Round` leaves open which pair is taken and where the new ones
are put. Each round takes one slot off what is left to look at (`Round.weight_lt`) and leaves the
question the same (`Round.same_iff`), so in any order the comparison ends, and with the same answer.
-/

namespace ClassLift

open List

/-- A tree of which only kinds, values and children are seen. -/
inductive Shape where
  | absent
  | token (kind : Kind) (value : String) (children : List Shape)

namespace Shape

mutual

/-- The number of slots. -/
def slots : Shape → Nat
  | absent => 1
  | token _ _ cs => 1 + slotsOf cs

/-- The number of slots of several shapes. -/
def slotsOf : List Shape → Nat
  | [] => 0
  | c :: cs => slots c + slotsOf cs

end

theorem slots_pos (c : Shape) : 0 < c.slots := by
  cases c with
  | absent => exact Nat.zero_lt_one
  | token kind value children => exact Nat.add_pos_left Nat.zero_lt_one _

theorem slotsOf_eq_sum (cs : List Shape) : slotsOf cs = (cs.map slots).sum := by
  induction cs with
  | nil => rfl
  | cons c cs ih => rw [slotsOf, ih, List.map_cons, List.sum_cons]

end Shape

namespace Tree

mutual

/-- The shape of a tree. -/
def shape : Tree → Shape
  | absent => .absent
  | node _ l cs _ => .token l.kind l.value (shapes cs)

/-- The shapes of several trees. -/
def shapes : List Tree → List Shape
  | [] => []
  | t :: ts => shape t :: shapes ts

end

theorem shapes_eq_map (ts : List Tree) : shapes ts = ts.map shape := by
  induction ts with
  | nil => rfl
  | cons t ts ih => rw [shapes, ih, List.map_cons]

end Tree

variable {s s' : Store} {x y z : Slot} {t u : TokenId} {n m : Nat} {pairs : List (Slot × Slot)}
  {queue queue' : List (Slot × Slot)} {answer : Bool}

/-! ## The shape of a slot -/

namespace Store

/-- The shape of what is seen from a slot. -/
def shape (s : Store) (x : Slot) : Shape := (s.tree x).shape

/-- Looking deeper than it is shows the same tree. -/
theorem Fits.treeTo_eq (h : s.Fits n x) (hm : n ≤ m) : s.treeTo m x = s.treeTo n x := by
  induction h generalizing m with
  | absent n => cases m <;> cases n <;> rfl
  | @token n t _ ih =>
      obtain ⟨m, rfl⟩ : ∃ k, m = k + 1 := ⟨m - 1, by omega⟩
      have hchildren : (s.cell t).children.map (s.treeTo m) =
          (s.cell t).children.map (s.treeTo n) :=
        List.map_congr_left fun c hc => ih c hc (by omega)
      rw [treeTo, treeTo, hchildren]

theorem tree_none (s : Store) : s.tree none = .absent := by
  unfold tree
  cases s.size <;> rfl

/-- The tree of an acyclic token shows its label and the trees of its children. -/
theorem Acyclic.tree_eq (h : s.Acyclic (some t)) :
    s.tree (some t) = .node t (s.cell t).label ((s.cell t).children.map s.tree) [] := by
  have hfits := h.fits
  unfold tree
  generalize hsize : s.size = size at hfits
  cases hfits with
  | @token n _ below =>
      have hchildren : (s.cell t).children.map (s.treeTo (n + 1)) =
          (s.cell t).children.map (s.treeTo n) :=
        List.map_congr_left fun c hc => (below c hc).treeTo_eq (Nat.le_succ n)
      rw [hchildren, treeTo]

theorem shape_none (s : Store) : s.shape none = .absent := by
  rw [shape, tree_none]
  rfl

theorem Acyclic.shape_eq (h : s.Acyclic (some t)) :
    s.shape (some t) =
      .token (s.cell t).label.kind (s.cell t).label.value ((s.cell t).children.map s.shape) := by
  rw [shape, h.tree_eq, Tree.shape, Tree.shapes_eq_map, List.map_map]
  rfl

theorem Acyclic.shape_absent (h : s.Acyclic x) : s.shape x = .absent ↔ x = none := by
  constructor
  · intro habsent
    cases x with
    | none => rfl
    | some t =>
        rw [h.shape_eq] at habsent
        cases habsent
  · rintro rfl
    exact s.shape_none

/-! ## Slots with one shape -/

/-- Slots are alike, as far as one looks, when their trees have the same shape. -/
theorem Fits.alikeTo_iff (hx : s.Fits n x) (hy : s.Fits n y) :
    s.alikeTo n x y = true ↔ (s.treeTo n x).shape = (s.treeTo n y).shape := by
  induction n generalizing x y with
  | zero =>
      cases hx
      cases hy
      exact ⟨fun _ => rfl, fun _ => rfl⟩
  | succ n ih =>
      cases hx with
      | absent =>
          cases hy with
          | absent => exact ⟨fun _ => rfl, fun _ => rfl⟩
          | token => exact ⟨fun h => (by cases h), fun h => (by cases h)⟩
      | @token _ t below =>
          cases hy with
          | absent => exact ⟨fun h => (by cases h), fun h => (by cases h)⟩
          | @token _ u below' =>
              -- children are compared from the last on, which for the verdict is as good as one by
              -- one
              have hchildren :
                  allFromLast (s.alikeTo n) (s.cell t).children (s.cell u).children = true ↔
                  (s.cell t).children.map (fun c => (s.treeTo n c).shape) =
                    (s.cell u).children.map fun c => (s.treeTo n c).shape := by
                rw [allFromLast_iff, ← List.forall₂_eq_eq_eq, List.forall₂_map_left_iff,
                  List.forall₂_map_right_iff, List.forall₂_iff_zip, List.forall₂_iff_zip]
                refine and_congr_right fun _ => forall₂_congr fun c d => ?_
                refine imp_congr_right fun hcd => ?_
                obtain ⟨hc, hd⟩ := List.of_mem_zip hcd
                exact ih (below c hc) (below' d hd)
              rw [alikeTo, Bool.and_eq_true, Bool.and_eq_true, beq_iff_eq, beq_iff_eq, hchildren,
                treeTo, treeTo, Tree.shape, Tree.shape, Tree.shapes_eq_map, Tree.shapes_eq_map,
                List.map_map, List.map_map, Shape.token.injEq, and_assoc]
              rfl

theorem Acyclic.alike_iff (hx : s.Acyclic x) (hy : s.Acyclic y) :
    s.alike x y = true ↔ s.shape x = s.shape y :=
  hx.fits.alikeTo_iff hy.fits

theorem childPairs_some : s.childPairs? (some t) (some u) = some pairs ↔
    ((s.cell t).label.kind = (s.cell u).label.kind ∧
        (s.cell t).label.value = (s.cell u).label.value ∧
        (s.cell t).children.length = (s.cell u).children.length) ∧
      (s.cell t).children.zip (s.cell u).children = pairs := by
  rw [childPairs?, Option.ite_none_right_eq_some, Option.some_inj]

/-- Acyclic slots have the same shape if and only if nothing is left to compare of them but pairs of
slots with the same shape. -/
theorem Acyclic.shape_eq_iff (hx : s.Acyclic x) (hy : s.Acyclic y) :
    s.shape x = s.shape y ↔
      ∃ pairs, s.childPairs? x y = some pairs ∧ ∀ p ∈ pairs, s.shape p.1 = s.shape p.2 := by
  cases x with
  | none =>
      cases y with
      | none => simp [childPairs?]
      | some u => simp [childPairs?, shape_none, hy.shape_eq]
  | some t =>
      cases y with
      | none => simp [childPairs?, shape_none, hx.shape_eq]
      | some u =>
          have hchildren : (s.cell t).children.map s.shape = (s.cell u).children.map s.shape ↔
              (s.cell t).children.length = (s.cell u).children.length ∧
                ∀ p ∈ (s.cell t).children.zip (s.cell u).children, s.shape p.1 = s.shape p.2 := by
            rw [← List.forall₂_eq_eq_eq, List.forall₂_map_left_iff, List.forall₂_map_right_iff,
              List.forall₂_iff_zip]
            exact and_congr_right fun _ => ⟨fun h p hp => h hp, fun h c d hcd => h (c, d) hcd⟩
          rw [hx.shape_eq, hy.shape_eq, Shape.token.injEq, hchildren]
          constructor
          · rintro ⟨hkind, hvalue, hlength, hall⟩
            exact ⟨_, childPairs_some.mpr ⟨⟨hkind, hvalue, hlength⟩, rfl⟩, hall⟩
          · rintro ⟨pairs, hpairs, hall⟩
            obtain ⟨⟨hkind, hvalue, hlength⟩, rfl⟩ := childPairs_some.mp hpairs
            exact ⟨hkind, hvalue, hlength, hall⟩

/-! ## Rounds of a comparison -/

/-- One round: a pair is taken from the queue, its slots do not differ, and the pairs of their
children are added to the others. -/
inductive Round (s : Store) (queue queue' : List (Slot × Slot)) : Prop where
  | mk (x y : Slot) (pairs rest : List (Slot × Slot)) (taken : queue ~ (x, y) :: rest)
      (agree : s.childPairs? x y = some pairs) (left : queue' ~ pairs ++ rest)

/-- No pair is left, or one is taken whose slots differ. -/
inductive Answers (s : Store) (queue : List (Slot × Slot)) : Bool → Prop where
  | alike (empty : queue = []) : Answers s queue true
  | differ (x y : Slot) (mem : (x, y) ∈ queue) (apart : s.childPairs? x y = none) :
      Answers s queue false

/-- Some order of rounds leads from the queue to this answer. -/
def ComparesTo (s : Store) (queue : List (Slot × Slot)) (answer : Bool) : Prop :=
  ∃ last, Relation.ReflTransGen s.Round queue last ∧ s.Answers last answer

/-- All slots of the queue are acyclic. -/
def Comparable (s : Store) (queue : List (Slot × Slot)) : Prop :=
  ∀ p ∈ queue, s.Acyclic p.1 ∧ s.Acyclic p.2

/-- The slots of every pair have the same shape. -/
def Same (s : Store) (queue : List (Slot × Slot)) : Prop :=
  ∀ p ∈ queue, s.shape p.1 = s.shape p.2

/-- How many slots there are below the first slots of the pairs, these included. -/
def weight (s : Store) (queue : List (Slot × Slot)) : Nat :=
  (queue.map fun p => (s.shape p.1).slots).sum

theorem weight_perm (h : queue ~ queue') : s.weight queue = s.weight queue' :=
  (h.map _).sum_nat

theorem comparable_pairs (hx : s.Acyclic x) (hy : s.Acyclic y)
    (h : s.childPairs? x y = some pairs) : s.Comparable pairs := by
  cases x with
  | none =>
      cases y with
      | none =>
          cases h
          exact fun p hp => absurd hp List.not_mem_nil
      | some u => cases h
  | some t =>
      cases y with
      | none => cases h
      | some u =>
          obtain ⟨-, rfl⟩ := childPairs_some.mp h
          intro p hp
          obtain ⟨hc, hd⟩ := List.of_mem_zip hp
          exact ⟨hx.child hc, hy.child hd⟩

theorem weight_pairs (hx : s.Acyclic x) (h : s.childPairs? x y = some pairs) :
    s.weight pairs + 1 = (s.shape x).slots := by
  cases x with
  | none =>
      cases y with
      | none =>
          cases h
          rw [shape_none]
          rfl
      | some u => cases h
  | some t =>
      cases y with
      | none => cases h
      | some u =>
          obtain ⟨⟨-, -, hlength⟩, rfl⟩ := childPairs_some.mp h
          have hfirst : ((s.cell t).children.zip (s.cell u).children).map Prod.fst =
              (s.cell t).children := List.map_fst_zip (Nat.le_of_eq hlength)
          have hweight : s.weight ((s.cell t).children.zip (s.cell u).children) =
              ((s.cell t).children.map fun c => (s.shape c).slots).sum := by
            conv_rhs => rw [← hfirst, List.map_map]
            rfl
          rw [hweight, hx.shape_eq, Shape.slots, Shape.slotsOf_eq_sum, List.map_map, Nat.add_comm]
          rfl

namespace Round

theorem comparable (h : s.Round queue queue') (hc : s.Comparable queue) : s.Comparable queue' := by
  obtain ⟨x, y, pairs, rest, taken, agree, left⟩ := h
  obtain ⟨hx, hy⟩ := hc (x, y) (taken.mem_iff.mpr List.mem_cons_self)
  intro p hp
  rcases List.mem_append.mp (left.mem_iff.mp hp) with hp | hp
  · exact comparable_pairs hx hy agree p hp
  · exact hc p (taken.mem_iff.mpr (List.mem_cons_of_mem _ hp))

theorem weight_lt (h : s.Round queue queue') (hc : s.Comparable queue) :
    s.weight queue' < s.weight queue := by
  obtain ⟨x, y, pairs, rest, taken, agree, left⟩ := h
  obtain ⟨hx, -⟩ := hc (x, y) (taken.mem_iff.mpr List.mem_cons_self)
  have hpairs := weight_pairs hx agree
  rw [weight_perm left, weight_perm taken]
  simp only [weight, List.map_append, List.sum_append, List.map_cons, List.sum_cons] at hpairs ⊢
  omega

/-- The slots that are left have the same shapes if and only if those did that there were. -/
theorem same_iff (h : s.Round queue queue') (hc : s.Comparable queue) :
    s.Same queue' ↔ s.Same queue := by
  obtain ⟨x, y, pairs, rest, taken, agree, left⟩ := h
  obtain ⟨hx, hy⟩ := hc (x, y) (taken.mem_iff.mpr List.mem_cons_self)
  have hpair : s.shape x = s.shape y ↔ s.Same pairs := by
    rw [hx.shape_eq_iff hy, agree]
    constructor
    · rintro ⟨pairs', he, hall⟩
      cases he
      exact hall
    · exact fun hall => ⟨pairs, rfl, hall⟩
  unfold Same at hpair ⊢
  constructor
  · intro hall p hp
    rcases List.mem_cons.mp (taken.mem_iff.mp hp) with rfl | hp
    · exact hpair.mpr fun q hq => hall q (left.mem_iff.mpr (List.mem_append_left _ hq))
    · exact hall p (left.mem_iff.mpr (List.mem_append_right _ hp))
  · intro hall p hp
    rcases List.mem_append.mp (left.mem_iff.mp hp) with hp | hp
    · exact hpair.mp (hall (x, y) (taken.mem_iff.mpr List.mem_cons_self)) p hp
    · exact hall p (taken.mem_iff.mpr (List.mem_cons_of_mem _ hp))

end Round

/-- No order of rounds goes on forever. -/
theorem Comparable.acc (hc : s.Comparable queue) : Acc (flip s.Round) queue := by
  induction hweight : s.weight queue using Nat.strong_induction_on generalizing queue with
  | _ n ih =>
      refine .intro queue fun queue' hround => ?_
      exact ih _ (hweight ▸ hround.weight_lt hc) (hround.comparable hc) rfl

theorem Answers.same_iff (h : s.Answers queue answer) (hc : s.Comparable queue) :
    answer = true ↔ s.Same queue := by
  cases h with
  | alike empty =>
      subst empty
      exact ⟨fun _ _ hp => absurd hp List.not_mem_nil, fun _ => rfl⟩
  | differ x y mem apart =>
      refine ⟨fun h => (by cases h), fun hall => ?_⟩
      obtain ⟨hx, hy⟩ := hc (x, y) mem
      obtain ⟨pairs, hpairs, -⟩ := (hx.shape_eq_iff hy).mp (hall (x, y) mem)
      rw [apart] at hpairs
      cases hpairs

/-- In any order, the answer is whether all pairs have the same shapes. -/
theorem ComparesTo.same_iff (h : s.ComparesTo queue answer) (hc : s.Comparable queue) :
    answer = true ↔ s.Same queue := by
  obtain ⟨last, hrounds, hanswer⟩ := h
  induction hrounds using Relation.ReflTransGen.head_induction_on with
  | refl => exact hanswer.same_iff hc
  | head hround _ ih => exact (ih (hround.comparable hc)).trans (hround.same_iff hc)

/-- To the answer of the comparison pair by pair its order of rounds leads. -/
theorem comparesTo_of_compareWithin (h : s.compareWithin n queue = some answer) :
    s.ComparesTo queue answer := by
  fun_induction s.compareWithin n queue with
  | case1 =>
      cases h
      exact ⟨[], .refl, .alike rfl⟩
  | case2 => cases h
  | case3 n x y queue apart =>
      cases h
      exact ⟨_, .refl, .differ x y List.mem_cons_self apart⟩
  | case4 n x y queue pairs agree ih =>
      obtain ⟨last, hrounds, hlast⟩ := ih h
      have hround : s.Round ((x, y) :: queue) (pairs.reverse ++ queue) :=
        ⟨x, y, pairs, queue, .refl _, agree, (List.reverse_perm pairs).append_right queue⟩
      exact ⟨last, .head hround hrounds, hlast⟩

/-- The comparison has a result within as many rounds as there are slots. -/
theorem Comparable.compareWithin (hc : s.Comparable queue) (hn : s.weight queue ≤ n) :
    ∃ answer, s.compareWithin n queue = some answer := by
  fun_induction s.compareWithin n queue with
  | case1 => exact ⟨true, rfl⟩
  | case2 p queue =>
      have hpos := (s.shape p.1).slots_pos
      rw [weight, List.map_cons, List.sum_cons] at hn
      omega
  | case3 => exact ⟨false, rfl⟩
  | case4 n x y queue pairs agree ih =>
      have hround : s.Round ((x, y) :: queue) (pairs.reverse ++ queue) :=
        ⟨x, y, pairs, queue, .refl _, agree, (List.reverse_perm pairs).append_right queue⟩
      have hlt := hround.weight_lt hc
      exact ih (hround.comparable hc) (by omega)

/-! ## Two slots -/

theorem comparable_pair (hx : s.Acyclic x) (hy : s.Acyclic y) : s.Comparable [(x, y)] := by
  intro p hp
  obtain rfl := List.mem_singleton.mp hp
  exact ⟨hx, hy⟩

theorem same_pair (hx : s.Acyclic x) (hy : s.Acyclic y) : s.Same [(x, y)] ↔ s.alike x y = true := by
  rw [hx.alike_iff hy]
  exact List.forall_mem_singleton

/-- The rounds on two slots lead to one answer only. -/
theorem Acyclic.comparesTo_iff (hx : s.Acyclic x) (hy : s.Acyclic y) :
    s.ComparesTo [(x, y)] answer ↔ answer = s.alike x y := by
  have hc := comparable_pair hx hy
  have honly : ∀ b, s.ComparesTo [(x, y)] b → b = s.alike x y := fun b hb =>
    Bool.eq_iff_iff.mpr ((hb.same_iff hc).trans (same_pair hx hy))
  refine ⟨honly answer, ?_⟩
  rintro rfl
  obtain ⟨b, hb⟩ := hc.compareWithin (Nat.le_refl _)
  have hb := comparesTo_of_compareWithin hb
  exact honly b hb ▸ hb

theorem Acyclic.compareWithin_eq (hx : s.Acyclic x) (hy : s.Acyclic y) (hn : (s.shape x).slots ≤ n) :
    s.compareWithin n [(x, y)] = some (s.alike x y) := by
  have hweight : s.weight [(x, y)] ≤ n := hn
  obtain ⟨b, hb⟩ := (comparable_pair hx hy).compareWithin hweight
  rw [hb, (hx.comparesTo_iff hy).mp (comparesTo_of_compareWithin hb)]

/-- Whether slots are alike is told by their shapes, in whatever stores they are. -/
theorem Acyclic.alike_congr {x' y' : Slot} (hx : s.Acyclic x) (hy : s.Acyclic y)
    (hx' : s'.Acyclic x') (hy' : s'.Acyclic y') (hxs : s'.shape x' = s.shape x)
    (hys : s'.shape y' = s.shape y) : s'.alike x' y' = s.alike x y := by
  rw [Bool.eq_iff_iff, hx'.alike_iff hy', hx.alike_iff hy, hxs, hys]

/-- **The comparison decides equality of shapes.** On acyclic slots it ends, in whatever order the
pairs are taken, and always with the answer whether the shapes are the same; when the last pair is
taken, within as many rounds as there are slots in the first tree. An empty slot has the shape of no
token. Nothing but the shapes matters to the answer, and to be alike is an equivalence. -/
theorem comparison_decides_shape (hx : s.Acyclic x) (hy : s.Acyclic y) :
    Acc (flip s.Round) [(x, y)] ∧
      (∀ b, s.ComparesTo [(x, y)] b ↔ b = s.alike x y) ∧
      (∀ n b, s.compareWithin n [(x, y)] = some b → b = s.alike x y) ∧
      (∀ n, (s.shape x).slots ≤ n → s.compareWithin n [(x, y)] = some (s.alike x y)) ∧
      (s.alike x y = true ↔ s.shape x = s.shape y) ∧
      (s.shape x = .absent ↔ x = none) ∧
      (∀ (s' : Store) (x' y' : Slot), s'.Acyclic x' → s'.Acyclic y' → s'.shape x' = s.shape x →
        s'.shape y' = s.shape y → s'.alike x' y' = s.alike x y) ∧
      s.alike x x = true ∧ s.alike y x = s.alike x y ∧
      ∀ z, s.Acyclic z → s.alike x y = true → s.alike y z = true → s.alike x z = true := by
  refine ⟨(comparable_pair hx hy).acc, fun _ => hx.comparesTo_iff hy,
    fun n b hb => (hx.comparesTo_iff hy).mp (comparesTo_of_compareWithin hb),
    fun n hn => hx.compareWithin_eq hy hn, hx.alike_iff hy, hx.shape_absent,
    fun s' x' y' hx' hy' hxs hys => hx.alike_congr hy hx' hy' hxs hys,
    (hx.alike_iff hx).mpr rfl, ?symmetric, ?transitive⟩
  case symmetric =>
    rw [Bool.eq_iff_iff, hy.alike_iff hx, hx.alike_iff hy]
    exact eq_comm
  case transitive =>
    intro z hz hxy hyz
    rw [hx.alike_iff hy] at hxy
    rw [hy.alike_iff hz] at hyz
    exact (hx.alike_iff hz).mpr (hxy.trans hyz)

/-- Lists of two names each. The tokens 1 and 4 have the token 0 at both places, the tokens 3 and 5
the token 0 and another one; the first two lists have an empty place as well. -/
def sharedNames : Store where
  cells := #[
    .fresh Kind.text "a" 1 1 [],
    .fresh Kind.arguments "()" 1 0 [some 0, some 0, none],
    .fresh Kind.text "a" 2 4 [],
    .fresh Kind.arguments "()" 2 3 [some 2, some 0, none],
    .fresh Kind.arguments "()" 3 0 [some 0, some 0],
    .fresh Kind.arguments "()" 4 0 [some 2, some 0]]

theorem sharedNames_gaps : Spans Cell.children sharedNames [some 1] [1, 0, 0] ∧
    Spans Cell.children sharedNames [some 3] [3, 2, 0] :=
  ⟨.of_preorder sharedNames.size rfl, .of_preorder sharedNames.size rfl⟩

theorem sharedNames_full : Spans Cell.children sharedNames [some 4] [4, 0, 0] ∧
    Spans Cell.children sharedNames [some 5] [5, 2, 0] :=
  ⟨.of_preorder sharedNames.size rfl, .of_preorder sharedNames.size rfl⟩

theorem comparison_decides_shape_sharedNames :
    (sharedNames.Acyclic (some 1) ∧ sharedNames.Acyclic (some 3)) ∧
      sharedNames.compareWithin 4 [(some 1, some 3)] = some (sharedNames.alike (some 1) (some 3)) ∧
      sharedNames.alike (some 1) (some 3) = true := by
  have hx := sharedNames_gaps.1.acyclic
  have hy := sharedNames_gaps.2.acyclic
  exact ⟨⟨hx, hy⟩, (comparison_decides_shape hx hy).2.2.2.1 4 (by decide), by decide⟩

end Store

end ClassLift
