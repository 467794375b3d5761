import ClassLift.Proofs.Conversion.Novelty
import ClassLift.Proofs.Conversion.Run

set_option autoImplicit false

/-! # Where the tokens of a tree come from

However many visits an unshared tree has seen, its tokens are those of the tree at the start and
tokens that the visits made, and on the way down from a new token the ranks fall (`Lineage`). So
between an old token and the next stand at most three new ones, and the bound of the conversion
leaves room for every task (`Room`): the scan never gets to its bound. Empty slots may stand
anywhere in the tree.
-/

namespace ClassLift

open List Conversion Scan

variable {s₀ s s' : Store} {options : Options} {root parent : Slot} {t u : TokenId}
  {old ids visited below below' rest : List TokenId} {todo : List Task} {depth : Nat}
  {classes : List (String × TokenId)}

theorem Kind.not_edited_of_made {kind : Kind} (h : kind ∈ Kind.made) : kind ∉ Kind.edited := by
  revert kind
  decide

theorem Kind.not_made_of_function {kind : Kind}
    (h : kind ∈ [Kind.functionDecl, Kind.anonymousFunction]) : kind ∉ Kind.made := by
  revert kind
  decide

theorem Kind.rank_of_reference {kind : Kind} (h : kind ∈ [Kind.text, Kind.member]) :
    kind.rank = 0 := by
  revert kind
  decide

/-- The rank of a token that is new since the store `s₀`; the others have none. -/
def Store.rankIn (s₀ s : Store) (v : TokenId) : Nat :=
  if v < s₀.size then 0 else (s.cell v).label.kind.rank

theorem Store.rankIn_le (s₀ s : Store) (v : TokenId) : s₀.rankIn s v ≤ 3 := by
  unfold rankIn
  split
  · exact Nat.zero_le _
  · exact Kind.rank_le _

/-! ## One visit -/

namespace Advance

variable (ha : Advance options s s' t below below' classes)

include ha

theorem container (hcontainer : s.isContainer (some t) = true) : Container s t below :=
  ⟨hcontainer, ha.lt, ha.found, ha.nodup, (ha.understood hcontainer).present⟩

/-- A visit edits tokens that are meant for it. -/
theorem edits : Frame s s' (s.IsEdited (t :: below)) := by
  rcases ha.treated with ⟨-, rfl, -⟩ | ⟨hcontainer, -, hrewrites⟩
  · exact .refl _ _
  · exact hrewrites.edits (ha.container hcontainer)

/-- What is found after a visit was found before, or belongs to a class, or is a single word. -/
theorem mem_or_novel (hu : u ∈ visited ++ [t] ++ (below' ++ rest)) :
    u ∈ visited ++ t :: (below ++ rest) ∨ ∃ kind, Novel s s' t kind u := by
  rcases ha.mem_or_new hu with hu | ⟨hu, hnew⟩
  · exact Or.inl hu
  rcases ha.treated with ⟨-, rfl, -⟩ | ⟨hcontainer, -, hrewrites⟩
  · exact absurd hnew (Nat.not_le_of_lt (ha.found'.lt_size u hu))
  · exact Or.inr (hrewrites.novel (ha.container hcontainer) ha.found' ha.within u hu hnew)

/-- All tokens from the bound `n` on that are found are of the kinds that visits make. -/
theorem kind_made {n : Nat} (hlt : ∀ u ∈ visited ++ t :: (below ++ rest), u < s.size)
    (hmade : ∀ u ∈ visited ++ t :: (below ++ rest), n ≤ u → (s.cell u).label.kind ∈ Kind.made) :
    ∀ u ∈ visited ++ [t] ++ (below' ++ rest), n ≤ u → (s'.cell u).label.kind ∈ Kind.made := by
  intro u hu hn
  rcases ha.mem_or_novel hu with hu | ⟨kind, hkind⟩
  · rw [ha.frame.label u (hlt u hu)]
    exact hmade u hu hn
  · rw [hkind.label]
    exact hkind.kind_made

end Advance

/-! ## Old tokens and new ones -/

/-- The tokens `ids` are those of the tree, after some visits of a tree with the tokens `old`. -/
structure Lineage (s₀ : Store) (old : List TokenId) (s : Store) (ids : List TokenId) : Prop where
  frame : Frame s₀ s (s₀.IsEdited old)
  origin : ∀ u ∈ ids, u ∈ old ∨ s₀.size ≤ u
  made : ∀ u ∈ ids, s₀.size ≤ u → (s.cell u).label.kind ∈ Kind.made
  leaf : ∀ u ∈ ids, s₀.size ≤ u → (s.cell u).label.kind.rank = 0 → (s.cell u).children = []
  lower : ∀ u ∈ ids, s₀.size ≤ u → ∀ v, some v ∈ (s.cell u).children →
    s₀.rankIn s v < (s.cell u).label.kind.rank

namespace Lineage

theorem start {roots : List Slot} (hold : Spans Cell.children s₀ roots old) :
    Lineage s₀ old s₀ old where
  frame := .refl _ _
  origin _ hu := Or.inl hu
  made u hu hnew := absurd hnew (Nat.not_le_of_lt (hold.lt_size u hu))
  leaf u hu hnew := absurd hnew (Nat.not_le_of_lt (hold.lt_size u hu))
  lower u hu hnew := absurd hnew (Nat.not_le_of_lt (hold.lt_size u hu))

/-- A token of another kind than the new ones is an old one. -/
theorem mem_old (h : Lineage s₀ old s ids) (hu : u ∈ ids)
    (hkind : (s.cell u).label.kind ∉ Kind.made) : u ∈ old :=
  (h.origin u hu).resolve_right fun hnew => hkind (h.made u hu hnew)

/-- What is edited now is an old token of the same kind. -/
theorem isEdited_old (h : Lineage s₀ old s ids) (hlt : ∀ u ∈ old, u < s₀.size)
    {now : List TokenId} (hnow : ∀ u ∈ now, u ∈ ids) (hu : s.IsEdited now u) :
    s₀.IsEdited old u := by
  have hmem := h.mem_old (hnow u hu.1) fun hmade => Kind.not_edited_of_made hmade hu.2
  refine ⟨hmem, ?_⟩
  rw [← h.frame.label u (hlt u hmem)]
  exact hu.2

/-- What was taken into a class has no rank. -/
theorem rankIn_of_isTaken (h : Lineage s₀ old s ids) {roots : List Slot}
    (hold : Spans Cell.children s₀ roots old)
    (hsame : ∀ u < s.size, (s'.cell u).label = (s.cell u).label)
    (hnow : ∀ u, s.Inside t u → u ∈ ids) {v : TokenId} (hv : s.IsTaken t v) :
    s₀.rankIn s' v = 0 := by
  unfold Store.rankIn
  rcases hv with ⟨-, href | ⟨f, hf, hconv, hchild⟩⟩
  · split
    · rfl
    rw [hsame v (Store.lt_size_of_isClassReference href)]
    exact Kind.rank_of_reference (Store.kind_mem_of_isClassReference href)
  · -- functions are never edited
    have hkind := Store.kind_mem_of_isConvertible hconv
    have hmem := h.mem_old (hnow f hf) (Kind.not_made_of_function hkind)
    have hlt := hold.lt_size f hmem
    rw [h.frame.label f hlt] at hkind
    rw [h.frame.children f hlt fun hedit => ?_] at hchild
    · rw [if_pos (hold.lt_size v (hold.link_mem hmem hchild))]
    · exact Kind.not_edited_of_function hkind hedit.2

/-- Below a token that a visit adds, the ranks fall. -/
theorem rankIn_lt_of_novel (h : Lineage s₀ old s ids) {roots : List Slot}
    (hold : Spans Cell.children s₀ roots old) (ha : Advance options s s' t below below' classes)
    (hbelow : ∀ u ∈ below, u ∈ ids) {kind : Kind} (hkind : Novel s s' t kind u) {v : TokenId}
    (hv : some v ∈ (s'.cell u).children) : s₀.rankIn s' v < kind.rank := by
  rcases hkind.child hv with ⟨kind', hkind', hlower⟩ | ⟨htaken, hpositive⟩
  · have hvnew := Nat.le_trans h.frame.size_le hkind'.new
    rw [Store.rankIn, if_neg (Nat.not_lt_of_le hvnew), hkind'.label]
    exact hlower
  · have hinside : ∀ w, s.Inside t w → w ∈ ids := fun w ⟨_, hslot, hunder⟩ =>
      hbelow w (ha.found.mem_of_under hslot hunder)
    rw [h.rankIn_of_isTaken hold ha.frame.label hinside htaken]
    exact hpositive

/-- A visit edits old tokens, and adds tokens of falling ranks. -/
theorem step (h : Lineage s₀ old s (visited ++ t :: (below ++ rest))) {roots : List Slot}
    (hold : Spans Cell.children s₀ roots old)
    (hstage : Stage s root visited (⟨some t, parent, depth + 1⟩ :: todo) (t :: (below ++ rest)))
    (ha : Advance options s s' t below below' classes) :
    Lineage s₀ old s' (visited ++ [t] ++ (below' ++ rest)) := by
  have hedits := ha.edits
  have hlt : ∀ u ∈ visited ++ t :: (below ++ rest), u < s.size := hstage.whole.lt_size
  have hbelow : ∀ u ∈ t :: below, u ∈ visited ++ t :: (below ++ rest) :=
    fun _ => mem_found_of_mem_visit
  -- tokens that were new before are not edited
  have hunedited : ∀ u ∈ visited ++ t :: (below ++ rest), s₀.size ≤ u →
      (s'.cell u).children = (s.cell u).children := fun u hu hnew =>
    hedits.children u (hlt u hu) fun hedit => Kind.not_edited_of_made (h.made u hu hnew) hedit.2
  refine ⟨?_, fun u hu => ?_, ha.kind_made hlt h.made, fun u hu hnew hrank => ?_,
    fun u hu hnew v hv => ?_⟩
  -- edits of new tokens do not count, and old ones are edited by their kind
  · refine h.frame.trans (hedits.mono fun u _ hu => h.isEdited_old hold.lt_size hbelow hu) ?_
    exact fun u hu hedit => absurd (hold.lt_size u hedit.1) (Nat.not_lt_of_le hu)
  · rcases ha.mem_or_novel hu with hu | ⟨kind, hkind⟩
    · exact h.origin u hu
    · exact Or.inr (Nat.le_trans h.frame.size_le hkind.new)
  · rcases ha.mem_or_novel hu with hu | ⟨kind, hkind⟩
    · rw [hedits.label u (hlt u hu)] at hrank
      rw [hunedited u hu hnew]
      exact h.leaf u hu hnew hrank
    · rw [hkind.label] at hrank
      exact hkind.children_eq_nil hrank
  · rcases ha.mem_or_novel hu with hu | ⟨kind, hkind⟩
    · rw [hunedited u hu hnew] at hv
      have hvlt := hlt v (hstage.whole.link_mem hu hv)
      have hlower := h.lower u hu hnew v hv
      rw [Store.rankIn] at hlower ⊢
      rwa [hedits.label u (hlt u hu), hedits.label v hvlt]
    · rw [hkind.label]
      exact h.rankIn_lt_of_novel hold ha (fun u hu => hbelow u (List.mem_cons_of_mem t hu)) hkind hv

end Lineage

/-! ## How deep the scan gets -/

/-- Every task has room: below its token, each of the old ones may have three new ones between
itself and the next. -/
def Room (s₀ s : Store) (todo : List Task) : Prop :=
  ∀ task ∈ todo, 0 < task.depth ∧ ∀ t, task.slot = some t → ∃ ids, Spans Cell.children s [some t] ids ∧
    4 * ids.countP (· < s₀.size) + s₀.rankIn s t < task.depth

namespace Room

theorem start (hold : Spans Cell.children s₀ [root] old) (hn : old.Nodup) :
    Room s₀ s₀ [⟨root, none, depthBound s₀⟩] := by
  intro task htask
  rw [List.mem_singleton] at htask
  subst htask
  refine ⟨Nat.succ_pos _, ?_⟩
  rintro t rfl
  refine ⟨old, hold, ?_⟩
  have hlt := hold.lt_size t (hold.root_mem List.mem_cons_self)
  have hcount := List.countP_le_length (l := old) (p := fun u => decide (u < s₀.size))
  have hlength := hold.length_le_size hn
  show 4 * old.countP (· < s₀.size) + s₀.rankIn s₀ t < 4 * s₀.size + 4
  rw [Store.rankIn, if_pos hlt]
  omega

/-- The children of the token that is visited have room after the visit. -/
theorem child (h : Room s₀ s (⟨some t, parent, depth + 1⟩ :: todo))
    (hlineage : Lineage s₀ old s (visited ++ t :: (below ++ rest)))
    (ha : Advance options s s' t below below' classes) {slot : Slot}
    (hslot : slot ∈ (s'.cell t).children) :
    0 < depth ∧ ∀ c, slot = some c → ∃ found, Spans Cell.children s' [some c] found ∧
      4 * found.countP (· < s₀.size) + s₀.rankIn s' c < depth := by
  obtain ⟨-, hroom⟩ := h _ List.mem_cons_self
  obtain ⟨ids, hids, hneed⟩ := hroom t rfl
  obtain ⟨-, below₁, rfl, hbelow₁⟩ := hids.of_singleton
  obtain rfl := hbelow₁.unique ha.found
  have hneed : 4 * (t :: below₁).countP (· < s₀.size) + s₀.rankIn s t < depth + 1 := hneed
  -- no old token is new below the one that is visited
  have hcount : ∀ found : List TokenId, found.Sublist below' →
      found.countP (· < s₀.size) ≤ below₁.countP (· < s₀.size) := by
    intro found hfound
    have hfresh : (s.fresh s').countP (· < s₀.size) = 0 := by
      rw [List.countP_eq_zero]
      intro u hu
      have hle := Nat.le_trans hlineage.frame.size_le (Store.mem_fresh.mp hu).1
      simpa using hle
    have hle := (hfound.subperm.trans ha.within).countP_le (· < s₀.size)
    rwa [List.countP_append, hfresh, Nat.add_zero] at hle
  have hfound : ∀ c, slot = some c → ∃ found, Spans Cell.children s' [some c] found ∧
      found.countP (· < s₀.size) ≤ below₁.countP (· < s₀.size) := by
    rintro c rfl
    obtain ⟨found, hfound, hsub⟩ := ha.found'.sublist (List.singleton_sublist.mpr hslot)
    exact ⟨found, hfound, hcount found hsub⟩
  by_cases ht : t < s₀.size
  · rw [List.countP_cons_of_pos (by simpa using ht)] at hneed
    refine ⟨by omega, fun c hc => ?_⟩
    obtain ⟨found, hspans, hle⟩ := hfound c hc
    have hrank := s₀.rankIn_le s' c
    exact ⟨found, hspans, by omega⟩
  · -- a new token is no container, so that its visit changes nothing
    rw [List.countP_cons_of_neg (by simpa using ht), Store.rankIn, if_neg ht] at hneed
    have hnew := Nat.le_of_not_lt ht
    have hmem : t ∈ visited ++ t :: (below₁ ++ rest) := by simp
    have hmade := hlineage.made t hmem hnew
    rcases ha.treated with ⟨-, rfl, -⟩ | ⟨hcontainer, -, -⟩
    · have hpositive : 0 < (s'.cell t).label.kind.rank := by
        refine Nat.pos_of_ne_zero fun hrank => ?_
        rw [hlineage.leaf t hmem hnew hrank] at hslot
        cases hslot
      refine ⟨by omega, ?_⟩
      rintro c rfl
      obtain ⟨found, hspans, hle⟩ := hfound c rfl
      have hlower := hlineage.lower t hmem hnew c hslot
      exact ⟨found, hspans, by omega⟩
    · exact absurd (Kind.edited_of_container (Store.kind_mem_of_isContainer hcontainer))
        (Kind.not_edited_of_made hmade)

theorem step (h : Room s₀ s (⟨some t, parent, depth + 1⟩ :: todo))
    (hlineage : Lineage s₀ old s (visited ++ t :: (below ++ rest)))
    (hstage : Stage s root visited (⟨some t, parent, depth + 1⟩ :: todo) (t :: (below ++ rest)))
    (ha : Advance options s s' t below below' classes) :
    Room s₀ s' (tasks depth (some t) (s'.cell t).children ++ todo) := by
  intro task htask
  rcases List.mem_append.mp htask with htask | htask
  · obtain ⟨slot, hslot, rfl⟩ := List.mem_map.mp htask
    exact h.child hlineage ha hslot
  · -- the other tasks are not touched by the visit
    obtain ⟨hpositive, hroom⟩ := h task (List.mem_cons_of_mem _ htask)
    refine ⟨hpositive, fun t' hslot => ?_⟩
    obtain ⟨ids, hids, hneed⟩ := hroom t' hslot
    obtain ⟨below₁, rest₁, heq, -, hbelow₁, hrest, -⟩ := hstage.first
    obtain ⟨-, heq⟩ := List.cons_eq_cons.mp heq
    obtain rfl := hbelow₁.unique ha.found
    obtain rfl := List.append_cancel_left heq
    have hmem : some t' ∈ todo.map Task.slot := by
      rw [← hslot]
      exact List.mem_map_of_mem htask
    obtain ⟨ids', hids', hsub⟩ := hrest.sublist (List.singleton_sublist.mpr hmem)
    obtain rfl := hids'.unique hids
    have hids'' : Spans Cell.children s' [some t'] ids' := ha.frame.spans hids fun u hu hmem => by
      have hn := (List.nodup_append.mp hstage.nodup).2.1
      rw [← List.cons_append] at hn
      exact (List.nodup_append.mp hn).2.2 u hmem u (hsub.subset hu) rfl
    refine ⟨ids', hids'', ?_⟩
    rwa [Store.rankIn, ha.frame.label t' hids.of_singleton.1]

end Room

/-- After some visits of an unshared tree, the tree is still one, and all that is left to do has
room. -/
theorem Conversion.room_of_steps (hold : Spans Cell.children s [root] old) (hn : old.Nodup)
    {x : Converter} {b : Store × Converter} {left : List Task}
    (hsteps : Steps visit (s, { x with classes := [] }) [⟨root, none, depthBound s⟩] visited b left) :
    ∃ ids, Stage b.1 root visited left ids ∧ Lineage s old b.1 (visited ++ ids) ∧ Room s b.1 left := by
  obtain ⟨ids, -, hstage, ⟨hlineage, hroom⟩, -⟩ :=
    Stage.run (fun s' visited todo ids => Lineage s old s' (visited ++ ids) ∧ Room s s' todo)
      (fun hstage hinv ha =>
        ⟨hinv.1.step hold hstage ha, hinv.2.step hinv.1 hstage ha⟩)
      hsteps rfl (.start hold hn) ⟨.start hold, .start hold hn⟩
  exact ⟨ids, hstage, hlineage, hroom⟩

end ClassLift
