import ClassLift.Proofs.Class.Mirror
import ClassLift.Proofs.Class.Quiet

set_option autoImplicit false

/-! # Method tables written out

A table of methods that is assigned to a prototype can be written out: one assignment
`A.prototype.n = f` for each entry of the table. The detection finds the same then
(`WrittenOut.detect`): it stops with the same fault, or it finds the same candidates, but for the
statements that the methods of the table go with; and it gives the same warnings.
-/

namespace ClassLift

open List

variable {s s' : Store} {options : Options} {block slot : Slot} {owner : String} {t : TokenId}

namespace Store

/-! ## Statements that add methods -/

variable {name : String} {entries : List TableEntry} {function : Slot} {methods : List Method}

/-- The statement assigns to the prototype of `owner` a table with these methods. -/
structure AssignsTable (s : Store) (owner : String) (entries : List TableEntry) (t : TokenId) :
    Prop where
  assign : s.isAssign (some t) = .ok true
  parts : ∃ target object, s.children (some t) = [target, object] ∧
    s.prototypeOf? target = some owner ∧ s.hasKind Kind.object object = true ∧
    s.tableEntries? owner (s.children object) = .ok (some entries)
  present : entries ≠ []

/-- The statement is `A.prototype.n = f`, for the given names `A` and `n` and the given function. -/
structure AssignsMember (s : Store) (owner name : String) (function : Slot) (t : TokenId) : Prop where
  assign : s.isAssign (some t) = .ok true
  parts : ∃ target, s.children (some t) = [target, function] ∧
    s.prototypeMember? target = some (owner, name)

/-- The statement adds methods to the prototype of `owner`. -/
structure AddsMethods (s : Store) (options : Options) (block : Slot) (owner : String)
    (methods : List Method) (t : TokenId) : Prop where
  declaration : s.declaration? block (some t) = .ok none
  owned : s.prototypeOwner? (some t) = .ok (some owner)
  reset : s.isConstructorReset owner (some t) = .ok false
  superClass : s.superClass? (some t) = .ok none
  methods : s.methods? options block (some t) = .ok (some methods)

theorem declaration_of_isAssign (h : s.isAssign (some t) = .ok true) :
    s.declaration? block (some t) = .ok none :=
  declaration_of_kind (kind_of_isAssign h) (by decide) (by decide) (by decide)

section

variable {target value : Slot}

theorem child_of_pair (hc : s.children slot = [target, value]) :
    s.child slot 0 = .ok target ∧ s.child slot 1 = .ok value := by
  rw [child_eq_ok, child_eq_ok, hc]
  exact ⟨rfl, rfl⟩

variable (h : s.isAssign slot = .ok true) (hc : s.children slot = [target, value])

include h hc

theorem owner_of_isAssign :
    s.prototypeOwner? slot = .ok (s.prototypeOf? target <|> (s.prototypeMember? target).map Prod.fst) := by
  unfold prototypeOwner?
  rw [utilInherits_of_isAssign h, h, (child_of_pair hc).1]
  rfl

theorem replaces_of_isAssign : s.replacesPrototype slot = .ok (s.prototypeOf? target).isSome := by
  unfold replacesPrototype
  rw [h, (child_of_pair hc).1]
  rfl

end

/-! ## A table -/

theorem superClass_of_object {target object : Slot} (h : s.isAssign slot = .ok true)
    (hc : s.children slot = [target, object]) (hobject : s.hasKind Kind.object object = true) :
    s.superClass? slot = .ok none := by
  have hcreate : s.objectCreate? object = .ok none := by
    unfold objectCreate?
    rw [argumentsOf_of_kind (hasKind_of_ne hobject (by decide))]
    rfl
  have hnew : s.instantiated? object = .ok none := by
    obtain ⟨u, rfl, hkind⟩ := exists_token_of_hasKind hobject
    have hl : s.label (some u) = .ok (s.cell u).label := rfl
    have hne : (s.cell u).label.kind ≠ Kind.instantiate := by
      rw [hkind]
      decide
    unfold instantiated?
    rw [hl]
    simp only [bind, Except.bind, hne, if_false]
    split <;> rfl
  unfold superClass?
  rw [utilInherits_of_isAssign h, replaces_of_isAssign h hc, (child_of_pair hc).2]
  simp only [bind, Except.bind, hcreate, hnew]
  cases (s.prototypeOf? target).isSome <;> rfl

/-- A table adds the methods of its entries. -/
theorem AssignsTable.adds (h : s.AssignsTable owner entries t) (htables : options.prototypeObjects = true)
    (block : Slot) :
    s.AddsMethods options block owner (methodsOfTable (some t) block entries) t := by
  obtain ⟨target, object, hc, howner, hobject, hentries⟩ := h.parts
  have hmember := prototypeMember_eq_none_of_prototypeOf howner
  obtain ⟨u, rfl, hkind⟩ := exists_token_of_hasKind hobject
  have htable : s.tableMethods? owner (some t) block (some u) =
      .ok (some (methodsOfTable (some t) block entries)) := by
    have hpresent := h.present
    unfold tableMethods?
    rw [hentries]
    cases entries with
    | nil => exact absurd rfl hpresent
    | cons => rfl
  refine ⟨declaration_of_isAssign h.assign, ?_, ?_, superClass_of_object h.assign hc hobject, ?_⟩
  · rw [owner_of_isAssign h.assign hc, howner]
    rfl
  · unfold isConstructorReset
    rw [h.assign, (child_of_pair hc).1]
    simp only [bind, Except.bind, hmember]
    rfl
  · have hl : s.label (some u) = .ok (s.cell u).label := rfl
    unfold methods?
    rw [h.assign, (child_of_pair hc).1, (child_of_pair hc).2]
    simp only [bind, Except.bind, hmember, howner, hl, hkind, htables, and_self, if_true, htable]

/-! ## A single method -/

/-- An assignment to a member of the prototype adds one method, and does not replace the prototype. -/
theorem AssignsMember.adds (h : s.AssignsMember owner name function t) (hname : name ≠ "constructor")
    (hfunction : s.isConvertible function = .ok true) (options : Options) (block : Slot) :
    s.AddsMethods options block owner [⟨name, function, some t, [some t], block, ""⟩] t ∧
      s.replacesPrototype (some t) = .ok false := by
  obtain ⟨target, hc, hmember⟩ := h.parts
  have hof := prototypeOf_eq_none_of_member hmember
  have hreplaces : s.replacesPrototype (some t) = .ok false := by
    rw [replaces_of_isAssign h.assign hc, hof]
    rfl
  refine ⟨⟨declaration_of_isAssign h.assign, ?_, ?_, ?_, ?_⟩, hreplaces⟩
  · rw [owner_of_isAssign h.assign hc, hof, hmember]
    rfl
  · unfold isConstructorReset
    rw [h.assign, (child_of_pair hc).1]
    simp only [bind, Except.bind, hmember, hname, if_false]
    rfl
  · unfold superClass?
    rw [utilInherits_of_isAssign h.assign, hreplaces]
    rfl
  · unfold methods?
    rw [h.assign, (child_of_pair hc).1, (child_of_pair hc).2]
    simp only [bind, Except.bind, hmember, hname, if_false, hfunction]
    rfl

end Store

variable {c c' : Candidate} {d d' : Draft} {own own' : List Method} {shift : Nat → Nat}
  {drafts drafts' : List Draft} {index offset : Nat} {statements : List Slot}

/-! ## Candidates with other methods -/

/-- The candidate of the function `owner` has the methods `own'` where it had the methods `own`;
another candidate is the same. -/
inductive Candidate.Kin (owner : String) (own own' : List Method) (c : Candidate) : Candidate → Prop
  | own {more : List Method} (name : c.name = owner) (methods : c.methods = own ++ more) :
      Kin owner own own' c { c with methods := own' ++ more }
  | other (name : c.name ≠ owner) : Kin owner own own' c c

/-- Such a candidate in a draft, the declaration of which is at another place. -/
inductive Draft.Kin (shift : Nat → Nat) (owner : String) (own own' : List Method) (d : Draft) :
    Draft → Prop
  | mk {c' : Candidate} (candidate : d.candidate.Kin owner own own' c') :
      Kin shift owner own own' d { d with candidate := c', position := shift d.position }

/-- Drafts that are kin, and still of the function of `d`. -/
def Draft.KinOf (shift : Nat → Nat) (owner : String) (own own' : List Method) (d e e' : Draft) : Prop :=
  e.Kin shift owner own own' e' ∧ e.name = d.name

/-- Drafts that are kin and have the same methods. No statement has added anything to the draft of
`owner` yet. -/
structure Draft.Early (shift : Nat → Nat) (owner : String) (d d' : Draft) : Prop where
  kin : d.Kin shift owner [] [] d'
  fresh : d.name = owner → d.touched = false ∧ d.candidate.methods = []

namespace Candidate.Kin

theorem refl (owner : String) (own : List Method) (h : c.name = owner → ∃ more, c.methods = own ++ more) :
    c.Kin owner own own c := by
  by_cases hname : c.name = owner
  · obtain ⟨more, hmethods⟩ := h hname
    have hkin : c.Kin owner own own { c with methods := own ++ more } := .own hname hmethods
    rwa [← hmethods] at hkin
  · exact .other hname

theorem name (h : c.Kin owner own own' c') : c.name = c'.name := by
  cases h <;> rfl

theorem names (h : c.Kin owner own own' c') (hown : own.map Method.name = own'.map Method.name) :
    c'.methods.map Method.name = c.methods.map Method.name := by
  cases h with
  | own _ hmethods => rw [hmethods, List.map_append, List.map_append, hown]
  | other => rfl

/-- Both candidates get more methods. -/
theorem append (h : c.Kin owner own own' c') (more : List Method) :
    Kin owner own own' { c with methods := c.methods ++ more } { c' with methods := c'.methods ++ more } := by
  cases h with
  | @own rest hname hmethods =>
      have hown : Kin owner own own' { c with methods := c.methods ++ more }
          { c with methods := own' ++ (rest ++ more) } :=
        .own hname (by rw [← List.append_assoc, ← hmethods])
      rwa [← List.append_assoc] at hown
  | other hname => exact .other hname

/-- Candidates without methods get the methods that they are kin for. -/
theorem fill (own own' : List Method) (h : c.Kin owner [] [] c') (hname : c.name = owner) (hnone : c.methods = []) :
    Kin owner own own' { c with methods := own } { c' with methods := own' } ∧ c'.methods = [] := by
  cases h with
  | @own more _ hmethods =>
      have hmore : more = [] := hmethods.symm.trans hnone
      have hkin : Kin owner own own' { c with methods := own } { c with methods := own' ++ [] } :=
        .own hname (List.append_nil own).symm
      rw [List.append_nil] at hkin
      exact ⟨hkin, hmore⟩
  | other hother => exact absurd hname hother

end Candidate.Kin

namespace Draft.Kin

theorem name (h : d.Kin shift owner own own' d') : d.name = d'.name := by
  cases h with
  | mk candidate => exact candidate.name

theorem position (h : d.Kin shift owner own own' d') : d'.position = shift d.position := by
  cases h
  rfl

/-- The drafts of other functions are kin whatever the methods are. -/
theorem of_other {more more' : List Method} (h : d.Kin shift owner own own' d') (hname : d.name ≠ owner) :
    d.Kin shift owner more more' d' := by
  cases h with
  | mk candidate =>
      cases candidate with
      | own name => exact absurd name hname
      | other => exact .mk (.other hname)

theorem of_others {more more' : List Method} (h : Forall₂ (Draft.Kin shift owner own own') drafts drafts')
    (hothers : ∀ d ∈ drafts, d.name ≠ owner) :
    Forall₂ (Draft.Kin shift owner more more') drafts drafts' := by
  induction h with
  | nil => exact .nil
  | cons hfirst _ ih =>
      exact .cons (hfirst.of_other (hothers _ List.mem_cons_self))
        (ih fun d hd => hothers d (List.mem_cons_of_mem _ hd))

theorem finish (h : d.Kin shift owner own own' d') : d.finish.Kin owner own own' d'.finish := by
  obtain ⟨candidate, position, touched, superClass, related⟩ := d
  cases h with
  | mk hcandidate =>
      cases superClass with
      | none => exact hcandidate
      | some base =>
          cases hcandidate with
          | own hname hmethods => exact .own hname hmethods
          | other hname => exact .other hname

end Draft.Kin

/-! ## Statements of the same forms -/

theorem addMethods_same {ms ms' : List Method} (hnames : c'.methods.map Method.name = c.methods.map Method.name)
    (h : Forall₂ (fun m m' => m'.name = m.name ∧ (∃ l, s.label m.function = .ok l) ∧
      ∃ l, s'.label m'.function = .ok l) ms ms') :
    Detect.Same (fun a a' => a = { c with methods := c.methods ++ ms } ∧
      a' = { c' with methods := c'.methods ++ ms' }) (addMethods s c ms) (addMethods s' c' ms') := by
  induction h generalizing c c' with
  | nil =>
      refine .pure ⟨?_, ?_⟩ <;> rw [List.append_nil]
  | @cons m m' ms ms' hm _ ih =>
      obtain ⟨hname, ⟨l, hl⟩, l', hl'⟩ := hm
      have hany : (c'.methods.any (·.name = m'.name)) = c.methods.any (·.name = m.name) := by
        have hmap : ∀ methods : List Method, ∀ name : String,
            methods.any (·.name = name) = (methods.map Method.name).any (· = name) := fun methods name => by
          rw [List.any_map]
          rfl
        rw [hmap, hmap, hnames, hname]
      have hrest := @ih (c.addMethod m) (c'.addMethod m') (by
        rw [Candidate.addMethod, Candidate.addMethod, List.map_append, List.map_append, hnames]
        simp [hname])
      simp only [Candidate.addMethod, List.append_assoc, List.singleton_append] at hrest
      unfold addMethods
      rw [hany, hname]
      exact .ite_of_iff Iff.rfl (.warn_bind hl hl' _ _ hrest) hrest

section

variable (hforms : SameForms s s' options block slot)

include hforms

/-- The statement modifies a prototype in both stores, so that it can be warned about. -/
theorem SameForms.labels {name : String} (ho : s.prototypeOwner? slot = .ok (some name)) :
    (∃ l, s.label slot = .ok l) ∧ ∃ l, s'.label slot = .ok l :=
  ⟨Store.label_of_prototypeOwner ho, Store.label_of_prototypeOwner (hforms.owner.trans ho)⟩

/-- A warning about the statement, after which the draft is rejected. -/
theorem SameForms.reject {P : Draft → Draft → Prop} (ho : s.prototypeOwner? slot = .ok (some d.name))
    (hname : d.name = d'.name) (w : Warning) :
    Detect.Same (Option.Rel P) (do Detect.warn s slot w d.name; return none)
      (do Detect.warn s' slot w d'.name; return none) := by
  obtain ⟨⟨l, hl⟩, l', hl'⟩ := hforms.labels ho
  rw [hname]
  exact .warn_bind hl hl' w _ (.pure .none)

theorem SameForms.examineAdded (ho : s.prototypeOwner? slot = .ok (some d.name))
    (hd : d.Kin shift owner own own' d') (hown : own.map Method.name = own'.map Method.name) :
    Detect.Same (Option.Rel (d.KinOf shift owner own own'))
      (ClassLift.examineAdded s options block slot d) (ClassLift.examineAdded s' options block slot d') := by
  have hname := hd.name
  obtain ⟨hcandidate⟩ := hd
  unfold ClassLift.examineAdded
  refine .lift_bind hforms.superClass fun base _ => ?_
  -- the forms of the statement agree, so both sides take the same branch
  cases base with
  | some base =>
      refine .ite_of_iff Iff.rfl (hforms.reject ho hname _) (.ite_of_iff Iff.rfl (hforms.reject ho hname _) ?_)
      exact .pure (.some ⟨.mk hcandidate, rfl⟩)
  | none =>
      refine .lift_bind hforms.methods fun methods hmethods => ?_
      cases methods with
      | some methods =>
          have hlabels : Forall₂ (fun m m' : Method => m'.name = m.name ∧
              (∃ l, s.label m.function = .ok l) ∧ ∃ l, s'.label m'.function = .ok l) methods methods := by
            refine List.forall₂_same.mpr fun m hm => ⟨rfl, ?_, ?_⟩
            · exact Store.label_of_isConvertible (Store.methods_convertible hmethods m hm)
            · exact Store.label_of_isConvertible
                (Store.methods_convertible (hforms.methods.trans hmethods) m hm)
          refine .bind (addMethods_same (hcandidate.names hown) hlabels) fun a a' ha => ?_
          obtain ⟨rfl, rfl⟩ := ha
          exact .pure (.some ⟨.mk (hcandidate.append methods), rfl⟩)
      | none =>
          refine .lift_bind hforms.replaces fun replaces _ => ?_
          exact .ite_of_iff Iff.rfl (hforms.reject ho hname _) (.pure (.some ⟨.mk hcandidate, rfl⟩))

/-- A statement of the same forms means the same for drafts that are kin. -/
theorem SameForms.examineOwned (ho : s.prototypeOwner? slot = .ok (some d.name))
    (hd : d.Kin shift owner own own' d') (hown : own.map Method.name = own'.map Method.name)
    (hindex : offset < shift d.position ↔ index < d.position) :
    Detect.Same (Option.Rel (d.KinOf shift owner own own'))
      (ClassLift.examineOwned s options block index slot d) (ClassLift.examineOwned s' options block offset slot d') := by
  have hadded := hforms.examineAdded ho hd hown
  have hname := hd.name
  have hreset : s'.isConstructorReset d'.name slot = s.isConstructorReset d.name slot := by
    rw [← hname, hforms.reset]
  obtain ⟨hcandidate⟩ := hd
  unfold ClassLift.examineOwned
  refine .ite_of_iff hindex.symm (hforms.reject ho hname _) (.lift_bind hreset fun reset _ => ?_)
  refine .ite_of_iff Iff.rfl (.pure (.some ⟨.mk hcandidate, rfl⟩)) ?_
  refine .ite_of_iff Iff.rfl (.lift_bind hforms.replaces fun replaces _ => ?_) hadded
  exact .ite_of_iff Iff.rfl (hforms.reject ho hname _) hadded

end

/-! ## Runs of statements of the same forms -/

/-- The indices from `index` on, `count` of them, are `offset - index` higher in the other list. -/
def Shifts (shift : Nat → Nat) (index offset count : Nat) : Prop :=
  ∀ i < count, shift (index + i) = offset + i

theorem Shifts.succ {count : Nat} (h : Shifts shift index offset (count + 1)) :
    Shifts shift (index + 1) (offset + 1) count := by
  intro i hi
  have hsucc := h (i + 1) (by omega)
  rwa [← Nat.add_assoc, Nat.add_right_comm, ← Nat.add_assoc, Nat.add_right_comm offset] at hsucc

theorem Shifts.first {count : Nat} (h : Shifts shift index offset (count + 1)) : shift index = offset :=
  h 0 (by omega)

/-- The declarations in a run of statements are found in both stores. -/
theorem declarations_append_same {rest rest' : List Slot} {P : List Draft → List Draft → Prop}
    (hforms : ∀ st ∈ statements, SameForms s s' options block st)
    (hshift : Shifts shift index offset statements.length)
    (hrest : ∀ drafts drafts' rejected, Forall₂ (Draft.Early shift owner) drafts drafts' →
      Detect.Same P (declarations s block (index + statements.length) drafts rejected rest)
        (declarations s' block (offset + statements.length) drafts' rejected rest'))
    (hdrafts : Forall₂ (Draft.Early shift owner) drafts drafts') (rejected : List String) :
    Detect.Same P (declarations s block index drafts rejected (statements ++ rest))
      (declarations s' block offset drafts' rejected (statements ++ rest')) := by
  induction statements generalizing index offset drafts drafts' rejected with
  | nil => exact hrest _ _ _ hdrafts
  | cons statement statements ih =>
      have hsame := hforms statement List.mem_cons_self
      -- by induction on the run: one statement moves both positions by one
      have hnext : ∀ drafts drafts' rejected, Forall₂ (Draft.Early shift owner) drafts drafts' →
          Detect.Same P (declarations s block (index + 1) drafts rejected (statements ++ rest))
            (declarations s' block (offset + 1) drafts' rejected (statements ++ rest')) := by
        intro drafts drafts' rejected hdrafts
        refine ih (fun st hst => hforms st (List.mem_cons_of_mem _ hst)) hshift.succ ?_ hdrafts rejected
        rw [List.length_cons] at hrest
        simpa only [Nat.add_assoc, Nat.add_comm 1] using hrest
      simp only [List.cons_append]
      unfold declarations
      refine .lift_bind hsame.declaration fun o ho => ?_
      cases o with
      | none => exact hnext _ _ _ hdrafts
      | some c =>
          obtain ⟨l, hl⟩ := Store.label_of_declaration ho
          obtain ⟨l', hl'⟩ := Store.label_of_declaration (hsame.declaration.trans ho)
          dsimp only
          rw [Draft.any_name (fun _ _ hd => hd.kin.name) hdrafts]
          refine .ite_of_iff Iff.rfl (.warn_bind hl hl' _ _ (hnext _ _ _ ?_)) (hnext _ _ _ ?_)
          · exact Draft.rel_drop (fun _ _ hd => hd.kin.name) hdrafts _
          -- both drafts start at the positions that the shift relates
          · have hearly : Draft.Early shift owner ⟨c, index, false, none, []⟩
                ⟨c, shift index, false, none, []⟩ :=
              ⟨.mk (.refl owner [] fun _ => ⟨c.methods, rfl⟩),
                fun _ => ⟨rfl, (Store.start_of_declaration ho).1⟩⟩
            rw [hshift.first] at hearly
            exact List.rel_append hdrafts (.cons hearly .nil)

/-- The statements of a run are examined alike in both stores, if each of them is. -/
theorem examine_append_same {rest rest' : List Slot} {P : List Draft → List Draft → Prop}
    {D : Draft → Draft → Prop} (hD : ∀ d d', D d d' → d.name = d'.name)
    (hforms : ∀ st ∈ statements, SameForms s s' options block st)
    (hstep : ∀ st ∈ statements, ∀ index offset d d', shift index = offset → D d d' →
      s.prototypeOwner? st = .ok (some d.name) →
      Detect.Same (Option.Rel D) (examineOwned s options block index st d)
        (examineOwned s' options block offset st d'))
    (hshift : Shifts shift index offset statements.length)
    (hrest : ∀ drafts drafts', Forall₂ D drafts drafts' →
      Detect.Same P (examine s options block (index + statements.length) drafts rest)
        (examine s' options block (offset + statements.length) drafts' rest'))
    (hdrafts : Forall₂ D drafts drafts') :
    Detect.Same P (examine s options block index drafts (statements ++ rest))
      (examine s' options block offset drafts' (statements ++ rest')) := by
  induction statements generalizing index offset drafts drafts' with
  | nil => exact hrest _ _ hdrafts
  | cons statement statements ih =>
      -- by induction on the run: one statement moves both positions by one
      have hnext : ∀ drafts drafts', Forall₂ D drafts drafts' →
          Detect.Same P (examine s options block (index + 1) drafts (statements ++ rest))
            (examine s' options block (offset + 1) drafts' (statements ++ rest')) := by
        intro drafts drafts' hdrafts
        refine ih (fun st hst => hforms st (List.mem_cons_of_mem _ hst))
          (fun st hst => hstep st (List.mem_cons_of_mem _ hst)) hshift.succ ?_ hdrafts
        rw [List.length_cons] at hrest
        simpa only [Nat.add_assoc, Nat.add_comm 1] using hrest
      simp only [List.cons_append]
      unfold examine
      refine .lift_bind (hforms statement List.mem_cons_self).owner fun o ho => ?_
      cases o with
      | none => exact hnext _ _ hdrafts
      | some name =>
          have hfind := Draft.find_name hD hdrafts name
          have hname : ∀ d, drafts.find? (·.name = name) = some d → d.name = name := fun d hd => by
            simpa using List.find?_some hd
          dsimp only
          -- names agree one by one, so the drafts found are related or both missing
          generalize drafts.find? (·.name = name) = found at hfind hname ⊢
          generalize drafts'.find? (·.name = name) = found' at hfind ⊢
          cases hfind with
          | none => exact hnext _ _ hdrafts
          | @some d d' hd =>
              rw [← hname d rfl] at ho
              refine .bind (hstep statement List.mem_cons_self _ _ _ _ hshift.first hd ho) fun o o' ho => ?_
              cases ho with
              | none => exact hnext _ _ (Draft.rel_drop hD hdrafts name)
              | some hd' => exact hnext _ _ (Draft.rel_change hD hdrafts hd' name)

/-! ## Statements that add methods, one after the other -/

theorem exists_of_forall₂ {α β : Type} {P : α → β → Prop} {xs : List α} {ys : List β}
    (h : Forall₂ P xs ys) {y : β} (hy : y ∈ ys) : ∃ x ∈ xs, P x y := by
  induction h with
  | nil => cases hy
  | cons hfirst _ ih =>
      rcases List.mem_cons.mp hy with rfl | hy
      · exact ⟨_, List.mem_cons_self, hfirst⟩
      · obtain ⟨x, hx, hxy⟩ := ih hy
        exact ⟨x, List.mem_cons_of_mem _ hx, hxy⟩

theorem declarations_skip {rest : List Slot} (h : ∀ st ∈ statements, s.declaration? block st = .ok none)
    (rejected : List String) :
    declarations s block index drafts rejected (statements ++ rest) =
      declarations s block (index + statements.length) drafts rejected rest := by
  induction statements generalizing index with
  | nil => rfl
  | cons statement statements ih =>
      rw [List.cons_append, declarations, h statement List.mem_cons_self,
        ih fun st hst => h st (List.mem_cons_of_mem _ hst), List.length_cons, Nat.add_assoc,
        Nat.add_comm 1]
      rfl

theorem examine_skip {rest : List Slot} (h : ∀ st ∈ statements, s.prototypeOwner? st = .ok (some owner))
    (hnone : drafts.find? (·.name = owner) = none) :
    examine s options block index drafts (statements ++ rest) =
      examine s options block (index + statements.length) drafts rest := by
  induction statements generalizing index with
  | nil => rfl
  | cons statement statements ih =>
      have hothers : ∀ d ∈ drafts, some owner ≠ some d.name := fun d hd he =>
        absurd (Option.some.inj he).symm (by simpa using List.find?_eq_none.mp hnone d hd)
      rw [List.cons_append, examine_cons_of_others (h statement List.mem_cons_self) hothers,
        ih fun st hst => h st (List.mem_cons_of_mem _ hst), List.length_cons, Nat.add_assoc,
        Nat.add_comm 1]

/-- A statement in front of the declaration rejects the draft. -/
theorem examine_before {rest : List Slot} {st : Slot} (ho : s.prototypeOwner? st = .ok (some owner))
    (hfind : drafts.find? (·.name = owner) = some d) (hindex : index < d.position) :
    examine s options block index drafts (st :: rest) =
      Detect.warn s st .beforeDeclaration d.name >>= fun _ =>
        examine s options block (index + 1) (Draft.drop owner drafts) rest := by
  rw [examine_cons_of_find ho hfind, examineOwned, if_pos hindex, bind_assoc]
  rfl

theorem addMethods_cons (c : Candidate) (m : Method) (ms : List Method) :
    addMethods s c (m :: ms) = (if c.methods.any (·.name = m.name) then
      Detect.warn s m.function .duplicateMethod m.name else pure ()) >>= fun _ =>
        addMethods s (c.addMethod m) ms := by
  rw [addMethods]
  split <;> rfl

/-- The statement adds its methods to a draft that was declared before. -/
theorem Store.AddsMethods.examineOwned {methods : List Method} (h : s.AddsMethods options block owner methods t)
    (hd : d.name = owner) (hindex : ¬ index < d.position)
    (hkept : d.touched = true → s.replacesPrototype (some t) = .ok false) :
    ClassLift.examineOwned s options block index (some t) d = do
      return some { d with touched := true, candidate := ← addMethods s d.candidate methods } := by
  have hreset : s.isConstructorReset d.name (some t) = .ok false := by rw [hd, h.reset]
  unfold ClassLift.examineOwned
  rw [if_neg hindex, hreset, Detect.lift_ok_bind, if_neg Bool.false_ne_true, h.superClass, h.methods]
  by_cases ht : d.touched = true
  · rw [if_pos ht, hkept ht, Detect.lift_ok_bind, if_neg Bool.false_ne_true]
    rfl
  · rw [if_neg ht]
    rfl

theorem Store.AddsMethods.examine {methods : List Method} {rest : List Slot}
    (h : s.AddsMethods options block owner methods t)
    (hfind : drafts.find? (·.name = owner) = some d) (hindex : ¬ index < d.position)
    (hkept : d.touched = true → s.replacesPrototype (some t) = .ok false) :
    ClassLift.examine s options block index drafts (some t :: rest) =
      addMethods s d.candidate methods >>= fun c =>
        ClassLift.examine s options block (index + 1)
          (Draft.change owner (fun _ => { d with touched := true, candidate := c }) drafts) rest := by
  have hname : d.name = owner := by simpa using List.find?_some hfind
  rw [examine_cons_of_find h.owned hfind, h.examineOwned hname hindex hkept, bind_assoc]
  rfl

namespace Draft

variable {e : Draft}

theorem find_change (hd : d.name = owner) (hfind : drafts.find? (·.name = owner) = some e) :
    (change owner (fun _ => d) drafts).find? (·.name = owner) = some d := by
  induction drafts with
  | nil => cases hfind
  | cons f drafts ih =>
      by_cases hf : f.name = owner
      · simp [change, hf, hd]
      · simp only [List.find?_cons, hf, decide_false] at hfind
        simpa [change, hf] using ih hfind

theorem change_change (hd : d.name = owner) :
    change owner (fun _ => e) (change owner (fun _ => d) drafts) = change owner (fun _ => e) drafts := by
  unfold change
  rw [List.map_map]
  refine List.map_congr_left fun f _ => ?_
  by_cases hf : f.name = owner
  · simp [hf, hd]
  · simp [hf]

end Draft

/-- Statements that each add one method add them one after the other. -/
theorem examine_members {rest : List Slot} {ms : List Method} {ts : List TokenId}
    (h : Forall₂ (fun m t => s.AddsMethods options block owner [m] t ∧
      s.replacesPrototype (some t) = .ok false) ms ts) (hne : ms ≠ [])
    (hfind : drafts.find? (·.name = owner) = some d) (hindex : ¬ index < d.position) :
    examine s options block index drafts (ts.map some ++ rest) =
      addMethods s d.candidate ms >>= fun c =>
        examine s options block (index + ms.length)
          (Draft.change owner (fun _ => { d with touched := true, candidate := c }) drafts) rest := by
  induction h generalizing index drafts d with
  | nil => exact absurd rfl hne
  | @cons m t ms ts hfirst hothers ih =>
      have hname : d.name = owner := by simpa using List.find?_some hfind
      rw [List.map_cons, List.cons_append, hfirst.1.examine hfind hindex fun _ => hfirst.2,
        addMethods_cons, addMethods_cons, bind_assoc, bind_assoc]
      refine bind_congr fun _ => ?_
      simp only [addMethods, pure_bind]
      by_cases hms : ms = []
      · subst hms
        cases hothers
        simp only [addMethods, pure_bind]
        rfl
      · have hadded : Draft.name { d with touched := true, candidate := d.candidate.addMethod m } = owner :=
          hname
        rw [ih hms (Draft.find_change hadded hfind) (by simp only; omega)]
        refine bind_congr fun c => ?_
        rw [Draft.change_change hadded, List.length_cons, Nat.add_assoc, Nat.add_comm 1]

/-! ## A table written out -/

/-- The methods become the same member: of the same name, by the same function. -/
structure Method.SameMember (m m' : Method) : Prop where
  name : m'.name = m.name
  function : m'.function = m.function
  modifier : m'.modifier = m.modifier

/-- The statements of `block` are the same in both stores, but for one statement that adds several
methods to `owner`. In the second store, statements that add one method each stand in its place. -/
structure WrittenOut (s s' : Store) (options : Options) (block : Slot) (owner : String)
    (before after : List Slot) (table : TokenId) (singles : List TokenId) (ms ms' : List Method) :
    Prop where
  children : s.children block = before ++ some table :: after
  children_out : s'.children block = before ++ (singles.map some ++ after)
  forms : ∀ st ∈ before ++ after, SameForms s s' options block st
  first : ∀ st ∈ before, s.modifies owner st = true → s.resets owner st = true
  table : s.AddsMethods options block owner ms table
  singles : Forall₂ (fun m t => s'.AddsMethods options block owner [m] t ∧
    s'.replacesPrototype (some t) = .ok false) ms' singles
  methods : Forall₂ Method.SameMember ms ms'
  present : ms ≠ []

namespace WrittenOut

variable {before after : List Slot} {table : TokenId} {singles : List TokenId} {ms ms' : List Method}

/-- Where the statement with an index of the first store stands in the second one. -/
def place (n k i : Nat) : Nat := if i ≤ n then i else i + k - 1

theorem shifts_before (n k : Nat) : Shifts (place n k) 0 0 n := by
  intro i hi
  rw [place, if_pos (by omega)]

theorem shifts_after (n k count : Nat) (hk : 0 < k) : Shifts (place n k) (n + 1) (n + k) count := by
  intro i hi
  rw [place, if_neg (by omega)]
  omega

theorem place_lt_place {n k i j : Nat} (hk : 0 < k) : place n k i < place n k j ↔ i < j := by
  unfold place
  split <;> split <;> omega

variable (h : WrittenOut s s' options block owner before after table singles ms ms')

include h

theorem names : ms.map Method.name = ms'.map Method.name := by
  have hmethods := h.methods
  clear h
  induction hmethods with
  | nil => rfl
  | cons hm _ ih => rw [List.map_cons, List.map_cons, ih, hm.name]

/-- Each of the single statements adds one of the methods. -/
theorem single (ht : t ∈ singles) : ∃ m ∈ ms', s'.AddsMethods options block owner [m] t := by
  obtain ⟨m, hm, hadds, -⟩ := exists_of_forall₂ h.singles ht
  exact ⟨m, hm, hadds⟩

theorem owned : ∀ st ∈ singles.map some, s'.prototypeOwner? st = .ok (some owner) := by
  intro st hst
  obtain ⟨t, ht, rfl⟩ := List.mem_map.mp hst
  obtain ⟨m, -, hadds⟩ := h.single ht
  exact hadds.owned

theorem declaration_of_singles : ∀ st ∈ singles.map some, s'.declaration? block st = .ok none := by
  intro st hst
  obtain ⟨t, ht, rfl⟩ := List.mem_map.mp hst
  obtain ⟨m, -, hadds⟩ := h.single ht
  exact hadds.declaration

/-- A second method of a name is warned about in both stores. -/
theorem labelled : Forall₂ (fun m m' : Method => m'.name = m.name ∧
    (∃ l, s.label m.function = .ok l) ∧ ∃ l, s'.label m'.function = .ok l) ms ms' := by
  have hlabel : ∀ m ∈ ms, ∃ l, s.label m.function = .ok l := fun m hm =>
    Store.label_of_isConvertible (Store.methods_convertible h.table.methods m hm)
  have hlabel' : ∀ m ∈ ms', ∃ l, s'.label m.function = .ok l := fun m hm => by
    obtain ⟨t, -, hadds, -⟩ := exists_of_forall₂ h.singles.flip hm
    exact Store.label_of_isConvertible
      (Store.methods_convertible hadds.methods m List.mem_cons_self)
  have hmethods := h.methods
  clear h
  induction hmethods with
  | nil => exact .nil
  | @cons m m' ms ms' hfirst _ ih =>
      refine .cons ⟨hfirst.name, hlabel m List.mem_cons_self, hlabel' m' List.mem_cons_self⟩
        (ih (fun m hm => hlabel m (List.mem_cons_of_mem _ hm))
          fun m hm => hlabel' m (List.mem_cons_of_mem _ hm))

/-- In front of the table, the statements that modify the prototype of `owner` add nothing. -/
theorem examineOwned_before {st : Slot} (hst : st ∈ before)
    (ho : s.prototypeOwner? st = .ok (some d.name)) (hd : d.Early shift owner d')
    (hindex : offset < shift d.position ↔ index < d.position) :
    Detect.Same (Option.Rel (Draft.Early shift owner))
      (examineOwned s options block index st d) (examineOwned s' options block offset st d') := by
  have hforms := h.forms st (List.mem_append_left _ hst)
  by_cases hname : d.name = owner
  · have hresets : s.resets d.name st = true := by
      rw [hname]
      exact h.first st hst (Store.modifies_iff.mpr (hname ▸ ho))
    have hnames := hd.kin.name
    have hreset : s'.isConstructorReset d'.name st = s.isConstructorReset d.name st := by
      rw [← hnames, hforms.reset]
    obtain ⟨⟨hcandidate⟩, hfresh⟩ := hd
    unfold examineOwned
    refine .ite_of_iff hindex.symm (hforms.reject ho hnames _) (.lift_bind hreset fun reset hr => ?_)
    rw [Store.resets_iff.mp hresets] at hr
    cases hr
    exact .pure (.some ⟨.mk hcandidate, hfresh⟩)
  · refine (hforms.examineOwned ho hd.kin rfl hindex).mono fun o o' ho => ?_
    cases ho with
    | none => exact .none
    | some hkin => exact .some ⟨hkin.1, fun heq => absurd (hkin.2.symm.trans heq) hname⟩

theorem length_pos : 0 < singles.length := by
  rw [← h.singles.length_eq, ← h.methods.length_eq]
  exact List.length_pos_of_ne_nil h.present

/-- Without a draft of `owner`, neither the table nor the single methods mean anything. -/
theorem examine_unconcerned {rest rest' : List Slot} {P : List Draft → List Draft → Prop}
    (hrest : ∀ drafts drafts', Forall₂ (Draft.Kin shift owner ms ms') drafts drafts' →
      Detect.Same P (examine s options block (index + 1) drafts rest)
        (examine s' options block (index + singles.length) drafts' rest'))
    (hdrafts : Forall₂ (Draft.Kin shift owner [] []) drafts drafts')
    (hfind : drafts.find? (·.name = owner) = none) (hfind' : drafts'.find? (·.name = owner) = none) :
    Detect.Same P (examine s options block index drafts (some table :: rest))
      (examine s' options block index drafts' (singles.map some ++ rest')) := by
  have hskip := @examine_skip s options block owner drafts index [some table] rest
    (by simpa using h.table.owned) hfind
  rw [List.singleton_append] at hskip
  rw [hskip, examine_skip h.owned hfind', List.length_map]
  refine hrest _ _ (Draft.Kin.of_others hdrafts fun d hd hname => ?_)
  simpa [hname] using List.find?_eq_none.mp hfind d hd

/-- A draft that is declared later is rejected with the table, and with the first single method. -/
theorem examine_rejected {rest rest' : List Slot} {P : List Draft → List Draft → Prop}
    (hrest : ∀ drafts drafts', Forall₂ (Draft.Kin shift owner ms ms') drafts drafts' →
      Detect.Same P (examine s options block (index + 1) drafts rest)
        (examine s' options block (index + singles.length) drafts' rest'))
    (hdrafts : Forall₂ (Draft.Kin shift owner [] []) drafts drafts')
    (hfind : drafts.find? (·.name = owner) = some d) (hfind' : drafts'.find? (·.name = owner) = some d')
    (hname : d.name = d'.name) (hindex : index < d.position) (hindex' : index < d'.position) :
    Detect.Same P (examine s options block index drafts (some table :: rest))
      (examine s' options block index drafts' (singles.map some ++ rest')) := by
  obtain ⟨t, ts, hsingles⟩ := List.exists_cons_of_length_pos h.length_pos
  have howned := h.owned
  rw [hsingles, List.map_cons, List.forall_mem_cons] at howned
  have hnone : (Draft.drop owner drafts').find? (·.name = owner) = none := by
    rw [List.find?_eq_none]
    intro e he
    simpa using (List.mem_filter.mp he).2
  obtain ⟨l, hl⟩ := Store.label_of_prototypeOwner h.table.owned
  obtain ⟨l', hl'⟩ := Store.label_of_prototypeOwner howned.1
  rw [examine_before h.table.owned hfind hindex, hsingles, List.map_cons, List.cons_append,
    examine_before howned.1 hfind' hindex', hname]
  refine .warn_bind hl hl' _ _ ?_
  rw [examine_skip howned.2 hnone, List.length_map, Nat.add_assoc, Nat.add_comm 1, ← List.length_cons,
    ← hsingles]
  refine hrest _ _ (Draft.Kin.of_others (Draft.rel_drop (fun _ _ hd => hd.name) hdrafts owner) ?_)
  intro e he
  simpa using (List.mem_filter.mp he).2

/-- A draft that was declared before: the table adds to it what the single methods add. -/
theorem examine_added {rest rest' : List Slot} {P : List Draft → List Draft → Prop}
    (hrest : ∀ drafts drafts', Forall₂ (Draft.Kin shift owner ms ms') drafts drafts' →
      Detect.Same P (examine s options block (index + 1) drafts rest)
        (examine s' options block (index + singles.length) drafts' rest'))
    (hdrafts : Forall₂ (Draft.Kin shift owner [] []) drafts drafts')
    (hfind : drafts.find? (·.name = owner) = some d) (hfind' : drafts'.find? (·.name = owner) = some d')
    (hd : d.Kin shift owner [] [] d') (hfresh : d.touched = false ∧ d.candidate.methods = [])
    (hindex : ¬ index < d.position) (hindex' : ¬ index < shift d.position) :
    Detect.Same P (examine s options block index drafts (some table :: rest))
      (examine s' options block index drafts' (singles.map some ++ rest')) := by
  have hname : d.name = owner := by simpa using List.find?_some hfind
  have hne : ms' ≠ [] := List.ne_nil_of_length_pos (h.singles.length_eq ▸ h.length_pos)
  obtain ⟨hcandidate⟩ := hd
  obtain ⟨hfill, hnone'⟩ := hcandidate.fill ms ms' hname hfresh.2
  rw [h.table.examine hfind hindex fun ht => absurd ht (by simp [hfresh.1]),
    examine_members h.singles hne hfind' hindex', h.singles.length_eq]
  refine .bind (addMethods_same (hcandidate.names rfl) h.labelled) fun a a' ha => ?_
  obtain ⟨rfl, rfl⟩ := ha
  refine hrest _ _ (List.rel_map (R := Draft.Kin shift owner [] []) (fun e e' he => ?_) hdrafts)
  rw [← he.name, hfresh.2, hnone', List.nil_append, List.nil_append]
  split
  · exact .mk hfill
  · rename_i hother
    exact he.of_other hother

/-- The table means for the draft of `owner` what the single methods mean. -/
theorem examine_table {rest rest' : List Slot} {P : List Draft → List Draft → Prop}
    (hindex : ∀ i, index < shift i ↔ index < i)
    (hrest : ∀ drafts drafts', Forall₂ (Draft.Kin shift owner ms ms') drafts drafts' →
      Detect.Same P (examine s options block (index + 1) drafts rest)
        (examine s' options block (index + singles.length) drafts' rest'))
    (hdrafts : Forall₂ (Draft.Early shift owner) drafts drafts') :
    Detect.Same P (examine s options block index drafts (some table :: rest))
      (examine s' options block index drafts' (singles.map some ++ rest')) := by
  have hkin : Forall₂ (Draft.Kin shift owner [] []) drafts drafts' := hdrafts.imp fun _ _ hd => hd.kin
  have hfind := Draft.find_name (fun _ _ hd => hd.kin.name) hdrafts owner
  cases hf : drafts.find? (·.name = owner) with
  | none =>
      rw [hf] at hfind
      generalize hf' : drafts'.find? (·.name = owner) = found' at hfind
      cases hfind
      exact h.examine_unconcerned hrest hkin hf hf'
  | some d =>
      rw [hf] at hfind
      generalize hf' : drafts'.find? (·.name = owner) = found' at hfind
      obtain ⟨hd, hfresh⟩ := hfind
      have hposition : Draft.position _ = shift d.position := hd.position
      have hname : d.name = owner := by simpa using List.find?_some hf
      by_cases hbefore : index < d.position
      · exact h.examine_rejected hrest hkin hf hf' hd.name hbefore
          (by rw [hposition]; exact (hindex _).mpr hbefore)
      · exact h.examine_added hrest hkin hf hf' hd (hfresh hname) hbefore (mt (hindex _).mp hbefore)

/-- The same functions are declared. -/
theorem declarations :
    Detect.Same (Forall₂ (Draft.Early (place before.length singles.length) owner))
      (ClassLift.declarations s block 0 [] [] (s.children block))
      (ClassLift.declarations s' block 0 [] [] (s'.children block)) := by
  rw [h.children, h.children_out]
  have hnil : Forall₂ (Draft.Early (place before.length singles.length) owner) [] [] := .nil
  refine declarations_append_same (fun st hst => h.forms st (List.mem_append_left _ hst))
    (shifts_before before.length singles.length) (fun drafts drafts' rejected hdrafts => ?_) hnil []
  have hskip := @declarations_skip s block drafts (0 + before.length) [some table] after
    (by simpa using h.table.declaration) rejected
  rw [List.singleton_append] at hskip
  rw [hskip, declarations_skip h.declaration_of_singles, List.length_map, List.length_singleton,
    Nat.zero_add, ← List.append_nil after]
  refine declarations_append_same (fun st hst => h.forms st (List.mem_append_right _ hst))
    (shifts_after before.length singles.length after.length h.length_pos)
    (fun drafts drafts' rejected hdrafts => .pure hdrafts) hdrafts rejected

/-- The detection finds the same in both stores, but for the methods of `owner`. -/
theorem detect :
    Detect.Same (Forall₂ (Candidate.Kin owner ms ms')) (ClassLift.detect s options block)
      (ClassLift.detect s' options block) := by
  have hlt : ∀ i, before.length < place before.length singles.length i ↔ before.length < i := fun i => by
    have hplace : place before.length singles.length before.length = before.length := if_pos (le_refl _)
    have hiff := @place_lt_place before.length singles.length before.length i h.length_pos
    rwa [hplace] at hiff
  unfold ClassLift.detect
  refine h.declarations.bind fun drafts drafts' hdrafts => ?_
  have hempty : drafts.isEmpty = true ↔ drafts'.isEmpty = true := by
    cases hdrafts <;> simp
  refine .ite_of_iff hempty (.pure .nil) ?_
  refine Detect.Same.bind
    (P := Forall₂ (Draft.Kin (place before.length singles.length) owner ms ms')) ?_
    fun drafts drafts' hdrafts => .pure (List.rel_map (fun _ _ hd => hd.finish) hdrafts)
  rw [h.children, h.children_out]
  refine examine_append_same (D := Draft.Early (place before.length singles.length) owner)
    (fun _ _ hd => hd.kin.name) (fun st hst => h.forms st (List.mem_append_left _ hst))
    ?_ (shifts_before before.length singles.length) (fun drafts drafts' hdrafts => ?_) hdrafts
  -- before the table, where a draft may not have been declared yet
  · intro st hst index offset d d' hindex hd ho
    refine h.examineOwned_before hst ho hd ?_
    rw [← hindex]
    exact place_lt_place h.length_pos
  -- from the table on, where the statements written out stand for it
  · rw [Nat.zero_add]
    refine h.examine_table hlt (fun drafts drafts' hdrafts => ?_) hdrafts
    rw [← List.append_nil after]
    refine examine_append_same (fun _ _ hd => hd.name)
      (fun st hst => h.forms st (List.mem_append_right _ hst)) ?_
      (shifts_after before.length singles.length after.length h.length_pos)
      (fun drafts drafts' hdrafts => .pure hdrafts) hdrafts
    intro st hst index offset d d' hindex hd ho
    have hforms := h.forms st (List.mem_append_right _ hst)
    refine (hforms.examineOwned ho hd h.names ?_).mono fun o o' ho => ?_
    · rw [← hindex]
      exact place_lt_place h.length_pos
    · cases ho with
      | none => exact .none
      | some hkin => exact .some hkin.1

end WrittenOut

end ClassLift
