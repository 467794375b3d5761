import ClassLift.Proofs.Class.Calls
import ClassLift.Proofs.Conversion.Rewriting

set_option autoImplicit false

/-! # What a visit edits, exactly

The visit of a container edits the container itself, the exports of functions that become classes, and
the super calls in the constructors of those classes; no other token is edited (`visit_calls`). Which
ones they are can be told from the store before the visit.
-/

namespace ClassLift

open List Store

variable {s s' s'' : Store} {options : Options} {block : TokenId} {ids : List TokenId}
  {c : Candidate} {declaring : Slot} {made : List Made} {t a u : TokenId} {name : String}

/-! ## One commit after others -/

/-- The tokens that a commit edits are of kinds that visits edit. -/
theorem Container.editable (hc : Container s block ids) {edited : TokenId → Prop}
    (h : ∀ u, edited u → ∃ declaring, Candidate.Edits s block declaring u) : Editable s edited := by
  intro u _ hu
  obtain ⟨declaring, rfl | ⟨he, hexport⟩ | ⟨-, hpart⟩⟩ := h u hu
  · exact Kind.edited_of_container (kind_mem_of_isContainer hc.isContainer)
  · exact kind_mem_of_hasKind (he ▸ hexport) (by decide)
  · exact hpart.elim (kind_mem_of_hasKind · (by decide)) (kind_mem_of_hasKind · (by decide))

namespace Candidate

/-- The super calls of the constructor. -/
def Call (c : Candidate) (s : Store) (t a : TokenId) : Prop :=
  s.IsSuperCall c.superClass (s.bodyOf c.builder.function) t a

/-- A super call of the constructor, or its argument list. -/
def CallPart (c : Candidate) (s : Store) (u : TokenId) : Prop :=
  s.SuperCallPart c.superClass (s.bodyOf c.builder.function) u

/-- The body of the constructor is found from the declaring statement. -/
theorem Ready.body_mem (hc : Container s block ids) (hready : c.Ready s block declaring) :
    ∃ f n args b, c.builder.function = some f ∧ (s.cell f).children = [n, args, some b] ∧
      b ∈ Spans.at_ Cell.children s declaring ∧
      s.bodyOf c.builder.function = (s.cell b).children := by
  obtain ⟨f, n, args, b, hf, hchildren, -, hbody, -⟩ := bodyOf_of_isConvertible hready.builder
  obtain ⟨decl, gone, stay, own, taken, hfoot⟩ :=
    hready.footprint hc.found hc.nodup hc.present hc.lt
  have hshared : s.shared c.builder = [args, some b] := by
    rw [Store.shared, hf]
    exact congrArg (List.drop 1) hchildren
  refine ⟨f, n, args, b, hf, hchildren, ?_, hbody⟩
  rw [Spans.at_eq hfoot.declFound]
  exact (hfoot.place hready).1.subset (hfoot.ownFound.root_mem (by rw [hshared]; simp))

/-- So are its super calls. -/
theorem Ready.call_mem (hc : Container s block ids) (hready : c.Ready s block declaring)
    (h : c.CallPart s u) : u ∈ Spans.at_ Cell.children s declaring := by
  obtain ⟨f, n, args, b, -, -, hb, hbody⟩ := hready.body_mem hc
  have hspans := hc.found.spans_at hready.standing
  obtain ⟨t, a, hcall, hu⟩ := h
  have ht : t ∈ Spans.at_ Cell.children s declaring := by
    have hmem := hcall.1
    rw [hbody] at hmem
    exact hspans.link_mem hb hmem
  rcases hu with rfl | rfl
  · exact ht
  · obtain ⟨-, -, k, -, -, hchildren, -⟩ := hcall.parts
    exact hspans.link_mem ht (by rw [hchildren]; simp)

/-- The super calls of a constructor are the same after other commits. -/
theorem Ready.call_iff (hc : Container s block ids) (hready : c.Ready s block declaring)
    {edited : TokenId → Prop} (hframe : Frame s s' edited) (he : Editable s edited)
    (hapart : ∀ u ∈ Spans.at_ Cell.children s declaring, ¬ edited u)
    (hsuper : ∀ base, c.superClass = some base → s.Names s.size base) :
    c.Call s' t a ↔ c.Call s t a := by
  obtain ⟨f, n, args, b, hf, hchildren, hb, hbody⟩ := hready.body_mem hc
  have hspans := hc.found.spans_at hready.standing
  have hsame : ∀ u ∈ Spans.at_ Cell.children s declaring,
      (s'.cell u).children = (s.cell u).children := fun u hu =>
    hframe.children u (hspans.lt_size u hu) (hapart u hu)
  -- functions are not edited, so the body is the same list of statements
  have hfunction : s'.cell f = s.cell f := by
    obtain ⟨f', -, -, -, hf', hlt, -⟩ := parts_of_isConvertible hready.builder
    rw [hf] at hf'
    cases hf'
    exact hframe.cell_of_kind he hlt
      (Kind.not_edited_of_function (kind_mem_of_isConvertible (hf ▸ hready.builder)))
  have hbody' : s'.bodyOf c.builder.function = s.bodyOf c.builder.function := by
    have hthird : s'.children (some f) = [n, args, some b] := by
      rw [Store.children, hfunction, hchildren]
    rw [hbody, hf, Store.bodyOf, hthird]
    exact hsame b hb
  unfold Call IsSuperCall
  rw [hbody']
  refine and_congr_right fun hmem => ?_
  have ht : t ∈ Spans.at_ Cell.children s declaring := by
    rw [hbody] at hmem
    exact hspans.link_mem hb hmem
  rw [hframe.superCall?_eq he hspans ht hsuper (hsame t ht)
    fun a ha _ => hsame a (hspans.link_mem ht ha)]

end Candidate

/-- The later store is the earlier one in which the super calls of some candidates were converted. -/
structure CallsMade (s s' : Store) (block : TokenId) (made : List Made) : Prop where
  called : ∀ m ∈ made, ∀ t a, m.candidate.Call s t a → s.Called s' t a
  others : ∀ u < s.size, u ≠ block →
    (∀ m ∈ made, some u ≠ m.candidate.parent ∧ ¬ m.candidate.CallPart s u) → s'.cell u = s.cell u

theorem CallsMade.start (s : Store) (block : TokenId) : CallsMade s s block [] where
  called := by simp
  others := fun _ _ _ _ => rfl

/-- One more commit converts its own super calls, and leaves those of the others. -/
theorem CallsMade.step (h : CallsMade s s' block made) (hc : Container s block ids)
    (hp : Progress s s' block ids made)
    (hmade : ∀ m ∈ made, m.candidate.Ready s block m.declaring)
    (hready : c.Ready s block declaring)
    (hapart : ∀ m ∈ made, m.candidate.Apart m.declaring c declaring)
    (hready' : c.Ready s' block declaring)
    (hsuper : ∀ base, c.superClass = some base → s.Names s.size base)
    (hrun : c.commit.run.run s' = (.ok (), s'')) :
    CallsMade s s'' block (made ++ [⟨c, declaring, t⟩]) := by
  have hframe := hp.frame
  have he : Editable s fun u => ∃ m ∈ made, Candidate.Edits s block m.declaring u :=
    hc.editable fun u ⟨m, _, hedit⟩ => ⟨m.declaring, hedit⟩
  have hunedited := hready.unedited hc hmade hapart declaring List.mem_cons_self
  -- what the other commits edit is apart from the declaration of this candidate
  have hiff : ∀ t a, c.Call s' t a ↔ c.Call s t a := fun t a =>
    hready.call_iff hc hframe he hunedited hsuper
  have hpart : ∀ u, c.CallPart s' u → c.CallPart s u := by
    rintro u ⟨t, a, hcall, hu⟩
    exact ⟨t, a, (hiff t a).mp hcall, hu⟩
  obtain ⟨ids', hc', -⟩ := hp.container hc
  obtain ⟨hcalled, hothers⟩ := hready'.commit_calls hc'.found hc'.nodup hc'.present hc'.lt
    (fun base hbase => (hframe.names he (hsuper base hbase)).mono hframe.size_le) hrun
  -- and the calls of the other candidates are apart from what this commit edits
  have hold : ∀ m ∈ made, ∀ u, m.candidate.CallPart s u → s''.cell u = s'.cell u := by
    intro m hm u hu
    have hmem := (hmade m hm).call_mem hc hu
    have hne : u ≠ block := fun heq =>
      hc.not_mem (hc.mem_of_mem_at (hmade m hm).standing (heq ▸ hmem))
    have hlt := hc.found.lt_size u (hc.mem_of_mem_at (hmade m hm).standing hmem)
    refine hothers u (Nat.lt_of_lt_of_le hlt hframe.size_le) hne
      (hready.ne_holder hc.lt hne hu) fun hown => ?_
    exact hc.found.at_disjoint hc.nodup_ids (hmade m hm).standing hready.standing
      (hapart m hm).declarations u hmem (hready.call_mem hc (hpart u hown))
  refine ⟨fun m hm t a hcall => ?_, fun u hu hblock hnot => ?_⟩
  · rcases List.mem_append.mp hm with hm | hm
    · refine (h.called m hm t a hcall).later ?_ ?_ fun w hw hlt => ?_
      · rw [hold m hm t ⟨t, a, hcall, Or.inl rfl⟩]
      · rw [hold m hm a ⟨t, a, hcall, Or.inr rfl⟩]
      · refine hothers w hlt (fun heq => ?_) (fun hp => ?_) fun hown => ?_
        · exact absurd hc.lt (Nat.not_lt_of_le (heq ▸ hw))
        · exact absurd (hready.holder hc.lt hp).1 (Nat.not_lt_of_le hw)
        · exact absurd (hc.found.lt_size w (hc.mem_of_mem_at hready.standing
            (hready.call_mem hc (hpart w hown)))) (Nat.not_lt_of_le hw)
    · rw [List.mem_singleton] at hm
      subst hm
      have ha := hready.call_mem hc ⟨t, a, hcall, Or.inr rfl⟩
      exact (hcalled t a ((hiff t a).mpr hcall)).earlier hframe.size_le
        (hframe.children a (hc.found.lt_size a (hc.mem_of_mem_at hready.standing ha))
          (hunedited a ha))
  · have hfirst := h.others u hu hblock fun m hm => hnot m (List.mem_append_left _ hm)
    obtain ⟨hp', hown⟩ := hnot ⟨c, declaring, t⟩ (List.mem_append_right _ List.mem_cons_self)
    rw [hothers u (Nat.lt_of_lt_of_le hu hframe.size_le) hblock hp' fun hpart' =>
      hown (hpart u hpart'), hfirst]

/-- All commits of a container. -/
theorem CallsMade.run {x x' : Converter} {waiting : List (Candidate × Slot)}
    (h : CallsMade s s' block made) (hc : Container s block ids) (hp : Progress s s' block ids made)
    (hwaiting : Waiting s block (made.map Made.entry ++ waiting))
    (htransformable : ∀ p ∈ waiting, p.1.isTransformable = true)
    (hsuper : ∀ p ∈ waiting, ∀ base, p.1.superClass = some base → s.Names s.size base)
    (hrun : ((waiting.map Prod.fst).forM Conversion.commit).run.run (s', x) = (.ok (), (s'', x'))) :
    ∃ more, more.map Made.entry = waiting ∧ CallsMade s s'' block (made ++ more) := by
  induction waiting generalizing s' x made with
  | nil =>
      cases hrun
      exact ⟨[], rfl, by rwa [List.append_nil]⟩
  | cons p waiting ih =>
      obtain ⟨t, s₁, x₁, hready', -, hcommit, hp', hwaiting', hrun⟩ :=
        hp.run_first hc hwaiting (htransformable p List.mem_cons_self) hrun
      have hstep := h.step (t := t) hc hp hwaiting.ready_made hwaiting.ready_first
        hwaiting.apart_first hready' (hsuper p List.mem_cons_self) hcommit
      obtain ⟨more, hmore, hmade'⟩ := ih hstep hp' hwaiting'
        (fun q hq => htransformable q (List.mem_cons_of_mem _ hq))
        (fun q hq => hsuper q (List.mem_cons_of_mem _ hq)) hrun
      refine ⟨⟨p.1, p.2, t⟩ :: more, ?_, ?_⟩
      · rw [List.map_cons, hmore]
        rfl
      · rw [List.append_assoc] at hmade'
        exact hmade'

/-! ## Visits -/

/-- The statement declares a function that becomes a class. -/
structure Store.Becomes (s : Store) (options : Options) (block : TokenId) (declaring : Slot)
    (c : Candidate) : Prop where
  standing : declaring ∈ (s.cell block).children
  declared : s.declaration? (some block) declaring = .ok (some c)
  converts : Converts s options (some block) c.name

/-- The super calls in the constructor of such a class. -/
def Store.ClassCall (s : Store) (block : TokenId) (c : Candidate) (t a : TokenId) : Prop :=
  s.IsSuperCall (s.superClassOf c.name (s.cell block).children) (s.bodyOf c.builder.function) t a

/-- The tokens that the visit of a container edits. -/
inductive Store.Edited (s : Store) (options : Options) (block u : TokenId) : Prop where
  | own (h : u = block)
  | exported {c : Candidate} (becomes : s.Becomes options block (some u) c)
      (kind : s.hasKind Kind.exportDecl (some u) = true)
  | called {declaring : Slot} {c : Candidate} {t a : TokenId}
      (becomes : s.Becomes options block declaring c) (call : s.ClassCall block c t a)
      (part : u = t ∨ u = a)

/-- A candidate that waits to be committed is for a function that becomes a class. -/
theorem Made.Emerged.becomes {p : Candidate × Slot} (h : Made.Emerged s options block p)
    (hconverts : Converts s options (some block) p.1.name) :
    ∃ d, s.Becomes options block p.2 d ∧ d.name = p.1.name ∧
      p.1.superClass = s.superClassOf d.name (s.cell block).children ∧ p.1.builder = d.builder ∧
      p.1.Ready s block p.2 := by
  obtain ⟨d, d', he, hfinish, hdeclared, hready⟩ := h
  have hname : p.1.name = d.candidate.name := by
    rw [← hfinish, Made.Emerged.name_eq he]
    rfl
  refine ⟨d.candidate, ⟨hready.standing, hdeclared, hname ▸ hconverts⟩, hname.symm, ?_, ?_, hready⟩
  · rw [← hfinish, he.finish_eq]
    rfl
  · rw [← hfinish, he.finish_eq]

/-- The token that the class stands in is edited. -/
theorem Candidate.Ready.edited_parent {d : Candidate} (hready : c.Ready s block declaring)
    (hd : s.Becomes options block declaring d) (hu : some u = c.parent) :
    s.Edited options block u := by
  rcases hready.place with ⟨hplace, -⟩ | ⟨hplace, hkind, -⟩
  · rw [hplace] at hu
    cases hu
    exact .own rfl
  · rw [hplace] at hu
    rw [← hu] at hd hkind
    exact .exported hd hkind

/-- The visit of a container converts the super calls of the classes that it makes, and edits nothing
else than `Edited` says. -/
theorem Conversion.visit_calls {x x' : Converter} {parent : Slot}
    (hfound : Spans Cell.children s (s.cell block).children ids)
    (hn : (block :: ids).Nodup) (hlt : block < s.size) (hb : s.isContainer (some block) = true)
    (hsuper : ∀ declaring c, s.Becomes x.options block declaring c → ∀ base,
      s.superClassOf c.name (s.cell block).children = some base → s.Names s.size base)
    (h : (visit (some block) parent).run.run (s, x) = (.ok (), (s', x'))) :
    (∀ declaring c, s.Becomes x.options block declaring c →
        ∀ t a, s.ClassCall block c t a → s.Called s' t a) ∧
      ∀ u < s.size, ¬ s.Edited x.options block u → s'.cell u = s.cell u := by
  obtain ⟨candidates, waiting, x₁, hcandidates, hc, hfst, hwaiting, hemerged, htransformable, hcommits,
    -⟩ := visit_commits hfound hn hlt hb h
  have hmem : ∀ p ∈ waiting, p.1 ∈ candidates.filter Candidate.isTransformable := by
    intro p hp
    rw [← hfst]
    exact List.mem_map_of_mem hp
  -- what waits is what becomes a class
  have hbecomes := fun p hp => (hemerged p hp).becomes
    (hcandidates.transformable_iff.mp (List.mem_map_of_mem (hmem p hp)))
  obtain ⟨made, hmade, hcalls⟩ := (CallsMade.start s block).run hc (Progress.start hc) hwaiting
    htransformable
    (fun p hp base hbase => by
      obtain ⟨d, hd, -, hsuperclass, -⟩ := hbecomes p hp
      exact hsuper p.2 d hd base (hsuperclass ▸ hbase)) hcommits
  rw [List.nil_append] at hcalls
  have hentry : ∀ m ∈ made, m.entry ∈ waiting := fun m hm => hmade ▸ List.mem_map_of_mem hm
  -- the super calls of a candidate are those of the class that it becomes
  have hcallsOf : ∀ m ∈ made, ∃ d, s.Becomes x.options block m.declaring d ∧
      d.name = m.candidate.name ∧ m.candidate.Ready s block m.declaring ∧
      ∀ t a, m.candidate.Call s t a ↔ s.ClassCall block d t a := by
    intro m hm
    obtain ⟨d, hd, hdname, hsuperclass, hbuilder, hready⟩ := hbecomes m.entry (hentry m hm)
    have hsuperclass : m.candidate.superClass = _ := hsuperclass
    have hbuilder : m.candidate.builder = _ := hbuilder
    refine ⟨d, hd, hdname, hready, fun t a => ?_⟩
    rw [Candidate.Call, hsuperclass, hbuilder, ClassCall]
  refine ⟨fun declaring c hclass t a hcall => ?_, fun u hu hnot => ?_⟩
  · have hname := hcandidates.transformable_iff.mpr hclass.converts
    rw [← hfst, List.map_map, ← hmade, List.map_map] at hname
    obtain ⟨m, hm, hname⟩ := List.mem_map.mp hname
    obtain ⟨d, hd, hdname, -, hiff⟩ := hcallsOf m hm
    obtain ⟨-, rfl⟩ := hclass.converts.declared_unique hd.standing hclass.standing hd.declared
      hclass.declared (hdname.trans hname) rfl
    exact hcalls.called m hm t a ((hiff t a).mpr hcall)
  · refine hcalls.others u hu (fun he => hnot (.own he)) fun m hm => ?_
    obtain ⟨d, hd, -, hready, hiff⟩ := hcallsOf m hm
    refine ⟨fun hp => hnot (hready.edited_parent hd hp), ?_⟩
    rintro ⟨t, a, hcall, hpart⟩
    exact hnot (.called hd ((hiff t a).mp hcall) hpart)

end ClassLift
