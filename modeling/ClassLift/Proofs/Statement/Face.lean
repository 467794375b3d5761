import ClassLift.Proofs.Statement.Form
import ClassLift.Proofs.Token.Spans

set_option autoImplicit false

/-! # The face of a statement

The forms of statements do not depend on what stands in the blocks of statements below: a test
never looks further than at a block itself, and whether it is empty. The tokens that can be looked
at are the *face* of a statement (`Cell.face`). Two stores with the same face of a statement give
it the same meaning (`SameFace.forms`).
-/

namespace ClassLift

open List

/-- The children of a token that the forms of statements look at. -/
def Cell.face (c : Cell) : List Slot :=
  if c.label.kind = Kind.sourceFile ∨ c.label.kind = Kind.block then [] else c.children

theorem Cell.face_sublist_children (c : Cell) : c.face <+ c.children := by
  unfold face
  split
  · exact List.nil_sublist _
  · exact .refl _

/-- The cells look the same from above. -/
structure Cell.LooksLike (c c' : Cell) : Prop where
  label : c'.label = c.label
  face : c'.face = c.face
  empty : c'.children.isEmpty = c.children.isEmpty

/-- The face of the given slots is finite, and the same in both stores. -/
structure SameFace (s s' : Store) (roots : List Slot) : Prop where
  size_le : s.size ≤ s'.size
  found : ∃ ids, Spans Cell.face s roots ids ∧ ids.length ≤ s.size ∧
    ∀ u ∈ ids, (s.cell u).LooksLike (s'.cell u)

variable {s s' : Store} {roots : List Slot} {slot block : Slot} {t : TokenId} {ids : List TokenId}
  {name : String} {options : Options}

/-! ## Faces -/

theorem Store.face_of_not_isContainer (h : s.isContainer (some t) = false) :
    (s.cell t).face = s.children (some t) := by
  have hkind : ¬ ((s.cell t).label.kind = Kind.sourceFile ∨ (s.cell t).label.kind = Kind.block) := by
    rw [← Store.isContainer_some, h]
    simp
  rw [Cell.face, if_neg hkind]
  rfl

namespace SameFace

theorem of_mem (h : SameFace s s' roots) (hs : slot ∈ roots) : SameFace s s' [slot] := by
  obtain ⟨ids, hids, hlength, hsame⟩ := h.found
  obtain ⟨ids', hids', hsub⟩ := hids.sublist (List.singleton_sublist.mpr hs)
  exact ⟨h.size_le, ids', hids', Nat.le_trans hsub.length_le hlength,
    fun u hu => hsame u (hsub.subset hu)⟩

/-- The face is the same where no token below the slots has changed. -/
theorem of_cells (hsize : s.size ≤ s'.size) (h : Spans Cell.children s roots ids) (hn : ids.Nodup)
    (hsame : ∀ u ∈ ids, s'.cell u = s.cell u) : SameFace s s' roots := by
  obtain ⟨face, hface, hsub⟩ := h.restrict Cell.face_sublist_children
  refine ⟨hsize, face, hface, Nat.le_trans hsub.length_le (h.length_le_size hn), fun u hu => ?_⟩
  rw [hsame u (hsub.subset hu)]
  exact ⟨rfl, rfl, rfl⟩

theorem tail {roots : List Slot} (h : SameFace s s' (slot :: roots)) : SameFace s s' roots := by
  obtain ⟨ids, hids, hlength, hsame⟩ := h.found
  obtain ⟨first, rest, rfl, -, hrest⟩ := hids.of_cons
  refine ⟨h.size_le, rest, hrest, ?_, fun u hu => hsame u (List.mem_append_right _ hu)⟩
  exact Nat.le_trans (List.sublist_append_right first rest).length_le hlength

theorem looksLike (h : SameFace s s' [some t]) : (s.cell t).LooksLike (s'.cell t) := by
  obtain ⟨ids, hids, -, hsame⟩ := h.found
  exact hsame t (hids.root_mem (by simp))

theorem down (h : SameFace s s' [slot]) (hc : s.isContainer slot = false) :
    s'.children slot = s.children slot ∧ SameFace s s' (s.children slot) := by
  cases slot with
  | none => exact ⟨rfl, h.size_le, [], .nil, Nat.zero_le _, by simp⟩
  | some t =>
      have hlook := h.looksLike
      have hface := hlook.face
      have hc' : s'.isContainer (some t) = false := by
        rw [← hc, Store.isContainer, Store.isContainer, Store.hasKind, Store.hasKind, Store.hasKind,
          Store.hasKind, Store.label?, Store.label?, Option.map_some, Option.map_some, hlook.label]
      rw [Store.face_of_not_isContainer hc, Store.face_of_not_isContainer hc'] at hface
      obtain ⟨ids, hids, hlength, hsame⟩ := h.found
      obtain ⟨-, below, rfl, hbelow⟩ := hids.of_singleton
      rw [Store.face_of_not_isContainer hc] at hbelow
      exact ⟨hface, h.size_le, below, hbelow, Nat.le_of_succ_le hlength,
        fun u hu => hsame u (List.mem_cons_of_mem _ hu)⟩

/-! ## Single tokens -/

theorem label? (h : SameFace s s' [slot]) : s'.label? slot = s.label? slot := by
  cases slot with
  | none => rfl
  | some t => exact congrArg some h.looksLike.label

theorem label (h : SameFace s s' [slot]) : s'.label slot = s.label slot := by
  rw [Store.label, Store.label, h.label?]

theorem hasKind (h : SameFace s s' [slot]) (kind : Kind) :
    s'.hasKind kind slot = s.hasKind kind slot := by
  rw [Store.hasKind, Store.hasKind, h.label?]

theorem isToken (h : SameFace s s' [slot]) (kind : Kind) (value : String) :
    s'.isToken kind value slot = s.isToken kind value slot := by
  rw [Store.isToken, Store.isToken, h.label?]

theorem value (h : SameFace s s' [slot]) : s'.value slot = s.value slot := by
  rw [Store.value, Store.value, h.label?]

theorem isEmpty (h : SameFace s s' [slot]) :
    (s'.children slot).isEmpty = (s.children slot).isEmpty := by
  cases slot with
  | none => rfl
  | some t => exact h.looksLike.empty

/-- The children of a token that is of a certain kind, and no container. -/
theorem of_hasKind {kind : Kind} (h : SameFace s s' [slot]) (hkind : s.hasKind kind slot = true)
    (hk : kind ≠ Kind.sourceFile ∧ kind ≠ Kind.block) :
    s'.children slot = s.children slot ∧ ∀ c ∈ s.children slot, SameFace s s' [c] := by
  obtain ⟨hc, hdown⟩ := h.down (Store.isContainer_of_hasKind hkind hk)
  exact ⟨hc, fun c hmem => hdown.of_mem hmem⟩

theorem of_isAssign (h : SameFace s s' [slot]) (ha : s.isAssign slot = .ok true) :
    s'.children slot = s.children slot ∧ ∀ c ∈ s.children slot, SameFace s s' [c] :=
  h.of_hasKind (Store.kind_of_isAssign ha) (by decide)

theorem child_eq (hc : s'.children slot = s.children slot) (n : Nat) :
    s'.child slot n = s.child slot n := by
  cases slot with
  | none => rfl
  | some t =>
      have hc : (s'.cell t).children = (s.cell t).children := hc
      simp only [Store.child, hc]

/-- A child of an assignment. -/
theorem child (h : SameFace s s' [slot]) (ha : s.isAssign slot = .ok true) (n : Nat) :
    s'.child slot n = s.child slot n ∧ ∀ c, s.child slot n = .ok c → SameFace s s' [c] := by
  obtain ⟨hc, hdown⟩ := h.of_isAssign ha
  exact ⟨child_eq hc n, fun c hchild => hdown c (List.mem_of_getElem? (Store.child_eq_ok.mp hchild))⟩

theorem isAssign (h : SameFace s s' [slot]) : s'.isAssign slot = s.isAssign slot := by
  unfold Store.isAssign
  rw [h.label]
  refine bind_congr_of_ok fun l hl => ?_
  cases hk : l.kind == Kind.assign with
  | false => rfl
  | true =>
      have hkind : s.hasKind Kind.assign slot = true :=
        Store.hasKind_iff.mpr ⟨l, Store.label_eq_ok.mp hl, by simpa using hk⟩
      rw [(h.of_hasKind hkind (by decide)).1]

theorem isConvertible (h : SameFace s s' [slot]) : s'.isConvertible slot = s.isConvertible slot := by
  unfold Store.isConvertible
  rw [h.label]
  refine bind_congr_of_ok fun l hl => ?_
  by_cases hk : l.kind = Kind.functionDecl ∨ l.kind = Kind.anonymousFunction
  · have hdown : s'.children slot = s.children slot ∧ ∀ c ∈ s.children slot, SameFace s s' [c] := by
      rcases hk with hk | hk
      · exact h.of_hasKind (Store.hasKind_iff.mpr ⟨l, Store.label_eq_ok.mp hl, hk⟩) (by decide)
      · exact h.of_hasKind (Store.hasKind_iff.mpr ⟨l, Store.label_eq_ok.mp hl, hk⟩) (by decide)
    rw [if_pos hk, if_pos hk, hdown.1]
    split
    · rename_i body hc
      rw [(hdown.2 body (by rw [hc]; simp)).label]
    · rfl
  · rw [if_neg hk, if_neg hk]

theorem of_isConvertible (h : SameFace s s' [slot]) (hf : s.isConvertible slot = .ok true) :
    s'.children slot = s.children slot ∧ ∀ c ∈ s.children slot, SameFace s s' [c] := by
  rcases (Store.isConvertible_eq_true hf).1 with hk | hk
  · exact h.of_hasKind hk (by decide)
  · exact h.of_hasKind hk (by decide)

/-! ## Member accesses -/

theorem memberParts? (h : SameFace s s' [slot]) : s'.memberParts? slot = s.memberParts? slot := by
  unfold Store.memberParts?
  rw [h.isToken]
  cases ht : s.isToken Kind.member "." slot with
  | true => rw [(h.of_hasKind (Store.hasKind_of_isToken ht) (by decide)).1]
  | false =>
      simp only [Bool.false_eq_true, if_false]
      split <;> split <;> rfl

/-- The parts of a member access. -/
theorem of_memberParts {object attr : Slot} (h : SameFace s s' [slot])
    (hp : s.memberParts? slot = some (object, attr)) : SameFace s s' [object] ∧ SameFace s s' [attr] := by
  obtain ⟨ht, hc⟩ := Store.memberParts_eq_some hp
  obtain ⟨-, hdown⟩ := h.of_hasKind (Store.hasKind_of_isToken ht) (by decide)
  rw [hc] at hdown
  exact ⟨hdown object (by simp), hdown attr (by simp)⟩

theorem memberNamed? (h : SameFace s s' [slot]) (name : String) :
    s'.memberNamed? name slot = s.memberNamed? name slot := by
  unfold Store.memberNamed?
  rw [h.memberParts?]
  cases hp : s.memberParts? slot with
  | none => rfl
  | some p => simp only [(h.of_memberParts hp).2.isToken]

theorem prototypeOf? (h : SameFace s s' [slot]) : s'.prototypeOf? slot = s.prototypeOf? slot := by
  unfold Store.prototypeOf?
  rw [h.memberNamed?]
  cases ho : s.memberNamed? "prototype" slot with
  | none => rfl
  | some object =>
      obtain ⟨attr, hp, -⟩ := Store.memberNamed_eq_some ho
      have hobject := (h.of_memberParts hp).1
      simp only [hobject.hasKind, hobject.value]

theorem prototypeMember? (h : SameFace s s' [slot]) :
    s'.prototypeMember? slot = s.prototypeMember? slot := by
  unfold Store.prototypeMember?
  rw [h.memberParts?]
  cases hp : s.memberParts? slot with
  | none => rfl
  | some p =>
      obtain ⟨hobject, hattr⟩ := h.of_memberParts hp
      simp only [hobject.prototypeOf?, hattr.hasKind, hattr.value]

/-! ## Class references -/

/-- How deep one looks does not matter, as long as it is deep enough for the whole face. -/
theorem isClassReferenceTo_eq {n m : Nat} (h : SameFace s s' [slot])
    (hspans : Spans Cell.face s [slot] ids) (hn : ids.length ≤ n) (hm : ids.length ≤ m) :
    s'.isClassReferenceTo m slot = s.isClassReferenceTo n slot := by
  -- each step down takes one of the tokens in the face from both bounds
  induction n generalizing slot ids m with
  | zero =>
      cases slot with
      | none => cases m <;> rfl
      | some t =>
          obtain ⟨-, below, rfl, -⟩ := hspans.of_singleton
          exact absurd hn (Nat.not_succ_le_zero _)
  | succ n ih =>
      cases slot with
      | none => cases m <;> rfl
      | some t =>
          obtain ⟨-, below, rfl, hbelow⟩ := hspans.of_singleton
          cases m with
          | zero => exact absurd hm (Nat.not_succ_le_zero _)
          | succ m =>
              unfold Store.isClassReferenceTo
              rw [h.label]
              refine bind_congr_of_ok fun l hl => ?_
              by_cases hk : l.kind = Kind.member ∧ l.value = "."
              · have hkind : s.hasKind Kind.member (some t) = true :=
                  Store.hasKind_iff.mpr ⟨l, Store.label_eq_ok.mp hl, hk.1⟩
                obtain ⟨hc, hdown⟩ := h.of_hasKind hkind (by decide)
                rw [if_pos hk, if_pos hk, hc]
                have hface : (s.cell t).face = s.children (some t) :=
                  Store.face_of_not_isContainer (Store.isContainer_of_hasKind hkind (by decide))
                rw [hface] at hbelow
                by_cases hpair : ∃ object attr, s.children (some t) = [object, attr]
                · obtain ⟨object, attr, hpair⟩ := hpair
                  rw [hpair] at hdown hbelow ⊢
                  dsimp only
                  rw [(hdown attr (by simp)).label]
                  refine bind_congr_of_ok fun la _ => ?_
                  obtain ⟨first, rest, rfl, hfirst, -⟩ := hbelow.of_cons
                  have hlength : first.length ≤ n ∧ first.length ≤ m := by
                    simp only [List.length_cons, List.length_append] at hn hm
                    omega
                  rw [ih (hdown object (by simp)) hfirst hlength.1 hlength.2]
                · have hother : ∀ {object attr : Slot}, s.children (some t) ≠ [object, attr] :=
                    fun {object attr} heq => hpair ⟨object, attr, heq⟩
                  split
                  · exact absurd ‹_› hother
                  · split
                    · exact absurd ‹_› hother
                    · rfl
              · rw [if_neg hk, if_neg hk]

theorem isClassReference (h : SameFace s s' [slot]) :
    s'.isClassReference slot = s.isClassReference slot := by
  obtain ⟨ids, hids, hlength, -⟩ := h.found
  exact h.isClassReferenceTo_eq hids hlength (Nat.le_trans hlength h.size_le)

/-! ## Calls -/

theorem argumentsOf? (h : SameFace s s' [slot]) (object member : String) :
    s'.argumentsOf? object member slot = s.argumentsOf? object member slot := by
  unfold Store.argumentsOf?
  rw [h.hasKind]
  cases hk : s.hasKind Kind.call slot with
  | false =>
      simp only [Bool.false_and, Bool.false_eq_true, if_false]
      split <;> split <;> rfl
  | true =>
      obtain ⟨hc, hdown⟩ := h.of_hasKind hk (by decide)
      rw [hc]
      split
      · rename_i callee arguments hchildren
        rw [hchildren] at hdown
        have hcallee := hdown callee (by simp)
        have harguments := hdown arguments (by simp)
        rw [harguments.hasKind, hcallee.memberNamed?]
        cases hka : s.hasKind Kind.arguments arguments with
        | false => rfl
        | true =>
            cases ho : s.memberNamed? member callee with
            | none => rfl
            | some o =>
                obtain ⟨attr, hp, -⟩ := Store.memberNamed_eq_some ho
                simp only [(hcallee.of_memberParts hp).1.isToken,
                  (harguments.of_hasKind hka (by decide)).1]
      · rfl

/-- The arguments of a call. -/
theorem of_argumentsOf {object member : String} {arguments : List Slot} (h : SameFace s s' [slot])
    (ha : s.argumentsOf? object member slot = some arguments) :
    ∀ argument ∈ arguments, SameFace s s' [argument] := by
  obtain ⟨hk, callee, list, o, hc, hlist, rfl, -⟩ := Store.argumentsOf_eq_some ha
  obtain ⟨-, hdown⟩ := h.of_hasKind hk (by decide)
  rw [hc] at hdown
  exact ((hdown list (by simp)).of_hasKind hlist (by decide)).2

theorem objectCreate? (h : SameFace s s' [slot]) : s'.objectCreate? slot = s.objectCreate? slot := by
  unfold Store.objectCreate?
  rw [h.argumentsOf?]
  split
  · rename_i argument ha
    have hargument := h.of_argumentsOf ha argument (by simp)
    rw [hargument.memberParts?]
    cases hp : s.memberParts? argument with
    | none => rfl
    | some p =>
        obtain ⟨hbase, hattr⟩ := hargument.of_memberParts hp
        simp only [hbase.isClassReference, hattr.isToken]
  · rfl

theorem utilInherits? (h : SameFace s s' [slot]) : s'.utilInherits? slot = s.utilInherits? slot := by
  unfold Store.utilInherits?
  rw [h.argumentsOf?]
  split
  · rename_i owner base ha
    have hdown := h.of_argumentsOf ha
    have howner := hdown owner (by simp)
    rw [howner.hasKind, howner.value, (hdown base (by simp)).isClassReference]
  · rfl

/-! ## Statements about a prototype -/

theorem prototypeOwner? (h : SameFace s s' [slot]) :
    s'.prototypeOwner? slot = s.prototypeOwner? slot := by
  unfold Store.prototypeOwner?
  rw [h.utilInherits?]
  refine bind_congr_of_ok fun o _ => ?_
  cases o with
  | some p => rfl
  | none =>
      rw [h.isAssign]
      refine bind_congr_of_ok fun b hb => ?_
      cases b with
      | false => rfl
      | true =>
          obtain ⟨hchild, hdown⟩ := h.child hb 0
          simp only [if_true, hchild]
          refine bind_congr_of_ok fun target htarget => ?_
          rw [(hdown target htarget).prototypeOf?, (hdown target htarget).prototypeMember?]

theorem replacesPrototype (h : SameFace s s' [slot]) :
    s'.replacesPrototype slot = s.replacesPrototype slot := by
  unfold Store.replacesPrototype
  rw [h.isAssign]
  refine bind_congr_of_ok fun b hb => ?_
  cases b with
  | false => rfl
  | true =>
      obtain ⟨hchild, hdown⟩ := h.child hb 0
      simp only [if_true, hchild]
      refine bind_congr_of_ok fun target htarget => ?_
      rw [(hdown target htarget).prototypeOf?]

theorem isConstructorReset (h : SameFace s s' [slot]) (name : String) :
    s'.isConstructorReset name slot = s.isConstructorReset name slot := by
  unfold Store.isConstructorReset
  rw [h.isAssign]
  refine bind_congr_of_ok fun b hb => ?_
  cases b with
  | false => rfl
  | true =>
      obtain ⟨hchild, hdown⟩ := h.child hb 0
      obtain ⟨hvalue, hdown'⟩ := h.child hb 1
      simp only [if_true, hchild, hvalue]
      refine bind_congr_of_ok fun target htarget => ?_
      rw [(hdown target htarget).prototypeMember?]
      split
      · split
        · exact bind_congr_of_ok fun v hv => by rw [(hdown' v hv).label]
        · rfl
      · rfl

theorem instantiated? (h : SameFace s s' [slot]) : s'.instantiated? slot = s.instantiated? slot := by
  unfold Store.instantiated?
  rw [h.label]
  refine bind_congr_of_ok fun l hl => ?_
  -- the test descends only where the kind says so, and there the face shows the children
  by_cases hk : l.kind = Kind.instantiate
  · obtain ⟨hc, hdown⟩ := h.of_hasKind
      (Store.hasKind_iff.mpr ⟨l, Store.label_eq_ok.mp hl, hk⟩) (by decide)
    simp only [hc, hk, if_true]
    split
    · rename_i target hchildren
      rw [hchildren] at hdown
      have htarget := hdown target (by simp)
      rw [htarget.label]
      refine bind_congr_of_ok fun lt hlt => ?_
      by_cases hcall : lt.kind = Kind.call
      · obtain ⟨hc', hdown'⟩ := htarget.of_hasKind
          (Store.hasKind_iff.mpr ⟨lt, Store.label_eq_ok.mp hlt, hcall⟩) (by decide)
        simp only [hcall, if_true, hc']
        split
        · rename_i callee arguments hparts
          rw [hparts] at hdown'
          rw [(hdown' arguments (by simp)).label, (hdown' arguments (by simp)).isEmpty]
          refine bind_congr_of_ok fun _ _ => ?_
          have hcallee := (hdown' callee (by simp)).isClassReference
          cases (s.children arguments).isEmpty with
          | true => simp only [if_true, pure_bind, hcallee]
          | false => rfl
        · rfl
      · simp only [hcall, if_false, pure_bind, htarget.isClassReference]
    · rfl
  · simp only [hk, if_false]
    split <;> split <;> rfl

theorem superClass? (h : SameFace s s' [slot]) : s'.superClass? slot = s.superClass? slot := by
  unfold Store.superClass?
  rw [h.utilInherits?]
  refine bind_congr_of_ok fun o _ => ?_
  cases o with
  | some p => rfl
  | none =>
      rw [h.replacesPrototype]
      refine bind_congr_of_ok fun b hb => ?_
      cases b with
      | false => rfl
      | true =>
          obtain ⟨hvalue, hdown⟩ := h.child (Store.replacesPrototype_eq_true hb).1 1
          simp only [if_true, hvalue]
          refine bind_congr_of_ok fun v hv => ?_
          rw [(hdown v hv).objectCreate?, (hdown v hv).instantiated?]

/-! ## Method tables -/

theorem keyName? (h : SameFace s s' [slot]) : s'.keyName? slot = s.keyName? slot := by
  unfold Store.keyName? Store.literal
  rw [h.label]

theorem pairForm {entry key value : Slot} (hk : SameFace s s' [key]) (hv : SameFace s s' [value]) :
    s'.pairForm name entry key value = s.pairForm name entry key value := by
  unfold Store.pairForm
  rw [hk.keyName?, hv.label, hv.isConvertible]

theorem firstName (h : SameFace s s' [slot]) (hf : s.isConvertible slot = .ok true) :
    s'.firstName slot = s.firstName slot := by
  obtain ⟨hc, hdown⟩ := h.of_isConvertible hf
  unfold Store.firstName
  rw [child_eq hc]
  refine bind_congr_of_ok fun first hfirst => ?_
  rw [(hdown first (List.mem_of_getElem? (Store.child_eq_ok.mp hfirst))).label]

theorem entryForm (h : SameFace s s' [slot]) : s'.entryForm name slot = s.entryForm name slot := by
  unfold Store.entryForm
  rw [h.label]
  refine bind_congr_of_ok fun l hl => ?_
  split
  · rw [h.isConvertible]
    refine bind_congr_of_ok fun b hb => ?_
    cases b with
    | false => rfl
    | true => rw [h.firstName hb]
  · split
    · rename_i hk
      obtain ⟨hc, hdown⟩ := h.of_hasKind
        (Store.hasKind_iff.mpr ⟨l, Store.label_eq_ok.mp hl, hk.1⟩) (by decide)
      rw [hc]
      split
      · rename_i key value hpair
        rw [hpair] at hdown
        exact (hdown key (by simp)).pairForm (hdown value (by simp))
      · rfl
    · rfl

theorem tableEntries? {entries : List Slot} (h : SameFace s s' entries) :
    s'.tableEntries? name entries = s.tableEntries? name entries :=
  Store.tableEntries_congr fun _ he => (h.of_mem he).entryForm

theorem tableMethods? {statement object : Slot} (h : SameFace s s' [object])
    (hk : s.hasKind Kind.object object = true) :
    s'.tableMethods? name statement block object = s.tableMethods? name statement block object := by
  obtain ⟨hc, hdown⟩ := h.down (Store.isContainer_of_hasKind hk (by decide))
  unfold Store.tableMethods?
  rw [hc, hdown.tableEntries?]

theorem methods? (h : SameFace s s' [slot]) :
    s'.methods? options block slot = s.methods? options block slot := by
  unfold Store.methods?
  rw [h.isAssign]
  refine bind_congr_of_ok fun b hb => ?_
  cases b with
  | false => simp only [Bool.false_eq_true, if_false]
  | true =>
      obtain ⟨htarget, hdown⟩ := h.child hb 0
      obtain ⟨hvalue, hdown'⟩ := h.child hb 1
      simp only [if_true, htarget, hvalue]
      refine bind_congr_of_ok fun target ht => bind_congr_of_ok fun value hv => ?_
      have hvalue := hdown' value hv
      rw [(hdown target ht).prototypeMember?, (hdown target ht).prototypeOf?, hvalue.isConvertible,
        hvalue.label]
      cases s.prototypeMember? target with
      | some p => rfl
      | none =>
          cases s.prototypeOf? target with
          | none => rfl
          | some owner =>
              refine bind_congr_of_ok fun l hl => ?_
              by_cases ho : l.kind = Kind.object ∧ options.prototypeObjects = true
              · rw [if_pos ho, if_pos ho]
                exact hvalue.tableMethods? (Store.hasKind_iff.mpr ⟨l, Store.label_eq_ok.mp hl, ho.1⟩)
              · rw [if_neg ho, if_neg ho]

/-! ## Declarations -/

theorem functionDeclaration? {parent : Slot} (h : SameFace s s' [slot]) :
    s'.functionDeclaration? parent slot = s.functionDeclaration? parent slot := by
  unfold Store.functionDeclaration?
  rw [h.label, h.isConvertible]
  refine bind_congr_of_ok fun l _ => ?_
  split
  · refine bind_congr_of_ok fun b hb => ?_
    cases b with
    | false => rfl
    | true => rw [h.firstName hb]
  · rfl

theorem variableDeclaration? (h : SameFace s s' [slot]) :
    s'.variableDeclaration? block slot = s.variableDeclaration? block slot := by
  unfold Store.variableDeclaration?
  rw [h.hasKind]
  cases hk : s.hasKind Kind.varDecl slot with
  | false =>
      simp only [Bool.false_eq_true, if_false]
      split <;> split <;> rfl
  | true =>
      obtain ⟨hc, hdown⟩ := h.of_hasKind hk (by decide)
      rw [hc]
      split
      · rename_i assignment hchildren
        rw [hchildren] at hdown
        have hassign := hdown assignment (by simp)
        simp only [if_true]
        rw [hassign.isAssign]
        refine bind_congr_of_ok fun b hb => ?_
        cases b with
        | false => rfl
        | true =>
            obtain ⟨htarget, hdown⟩ := hassign.child hb 0
            obtain ⟨hvalue, hdown'⟩ := hassign.child hb 1
            simp only [if_true, htarget, hvalue]
            refine bind_congr_of_ok fun target ht => bind_congr_of_ok fun value hv => ?_
            rw [(hdown target ht).label, (hdown' value hv).isConvertible]
      · rfl

theorem declaration? (h : SameFace s s' [slot]) :
    s'.declaration? block slot = s.declaration? block slot := by
  unfold Store.declaration?
  rw [h.label]
  refine bind_congr_of_ok fun l hl => ?_
  rw [h.functionDeclaration?, h.variableDeclaration?]
  by_cases hk : l.kind = Kind.exportDecl
  · obtain ⟨hc, hdown⟩ := h.of_hasKind
      (Store.hasKind_iff.mpr ⟨l, Store.label_eq_ok.mp hl, hk⟩) (by decide)
    rw [hc]
    split
    · rename_i first rest hchildren
      rw [hchildren] at hdown
      rw [(hdown first (by simp)).functionDeclaration?]
    · rfl
  · simp only [hk, if_false]
    split <;> split <;> rfl

end SameFace

/-! ## All forms -/

/-- The two stores give a statement of `block` the same meaning. -/
structure SameForms (s s' : Store) (options : Options) (block slot : Slot) : Prop where
  declaration : s'.declaration? block slot = s.declaration? block slot
  owner : s'.prototypeOwner? slot = s.prototypeOwner? slot
  reset : ∀ name, s'.isConstructorReset name slot = s.isConstructorReset name slot
  replaces : s'.replacesPrototype slot = s.replacesPrototype slot
  superClass : s'.superClass? slot = s.superClass? slot
  methods : s'.methods? options block slot = s.methods? options block slot

theorem SameFace.forms (h : SameFace s s' [slot]) : SameForms s s' options block slot where
  declaration := h.declaration?
  owner := h.prototypeOwner?
  reset name := h.isConstructorReset name
  replaces := h.replacesPrototype
  superClass := h.superClass?
  methods := h.methods?

end ClassLift
