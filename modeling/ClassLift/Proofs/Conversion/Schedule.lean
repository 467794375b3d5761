import ClassLift.Proofs.Conversion.Independence
import ClassLift.Proofs.Conversion.Unvisited

set_option autoImplicit false

/-! # Visits on a schedule

The course of the visits goes on with the visit of any container that was not visited yet: one that is
still there is reworked (`Course.visit_live`), and one that is gone changes nothing that is still
there (`Course.visit_gone`). So it does with all visits on a schedule, whatever their order
(`Course.run`), and with those of a scan (`Scanned.of_steps`).
-/

namespace ClassLift

open List Store Conversion Scan

variable {s f f' : Store} {options : Options} {root b t u v : TokenId} {ids all done : List TokenId}
  {x x' : Converter} {parent : Slot} {classes : List (String × TokenId)}

namespace Course

variable (h : Course s options root ids f all done)

include h

theorem not_new (hu : u < s.size) : ¬ f.size ≤ u :=
  Nat.not_le_of_lt (Nat.lt_of_lt_of_le hu h.touches.size_le)

/-! ## One more container -/

theorem visited_cons (hb : Unvisited s ids done b) :
    ∀ d ∈ b :: done, d ∈ ids ∧ s.isContainer (some d) = true := by
  intro d hd
  rcases List.mem_cons.mp hd with rfl | hd
  · exact ⟨hb.mem, hb.isContainer⟩
  · exact h.visited d hd

theorem touches_cons (htouch : s.Touches (s.Concerns b) f f') :
    s.Touches (fun u => ∃ d ∈ b :: done, s.Concerns d u) s f' := by
  refine (h.touches.mono fun u ⟨d, hd, hu⟩ => ⟨d, List.mem_cons_of_mem _ hd, hu⟩).trans ?_
  exact htouch.mono fun u hu => ⟨b, List.mem_cons_self, hu⟩

/-- What was made of the other containers stays, and what was gone stays gone. -/
theorem reworked_cons {all' : List TokenId} (hb : Unvisited s ids done b)
    (htouch : s.Touches (s.Concerns b) f f') (hall : ∀ u < s.size, u ∈ all' → u ∈ all)
    (hown : (∃ classes, Reworked s f' options b classes) ∨ ∀ u, s.Concerns b u → u ∉ all') :
    ∀ d ∈ b :: done, (∃ classes, Reworked s f' options d classes) ∨ ∀ u, s.Concerns d u → u ∉ all' := by
  intro d hd
  rcases List.mem_cons.mp hd with rfl | hd
  · exact hown
  obtain ⟨hmem, hcontainer⟩ := h.visited d hd
  rcases h.reworked d hd with ⟨classes, hreworked⟩ | hgone
  · exact Or.inl ⟨classes, hreworked.later h.tree h.touches.size_le htouch hmem hb.mem hcontainer
      hb.isContainer fun he => hb.new (he ▸ hd)⟩
  · exact Or.inr fun u hu hmem' =>
      hgone u hu (hall u (h.lt_size (hu.mem h.tree.spans hmem)) hmem')

/-- What a class takes from a container that was not visited yet has always stood inside it. -/
theorem movable (hb : Unvisited s ids done b) (hv : f.IsTaken b v) (hlt : v < s.size) :
    s.Movable b v := by
  obtain ⟨hinside, hkind⟩ := hv
  obtain ⟨hmem, hinside⟩ | ⟨hle, -⟩ := h.inside_earlier hb hinside
  case inr => exact absurd hlt (Nat.not_lt_of_le hle)
  refine ⟨hinside, ?_⟩
  rcases hkind with href | ⟨F, hF, hconvertible, hchild⟩
  · left
    rw [← h.touches.label hlt]
    exact kind_mem_of_isClassReference href
  · right
    obtain ⟨-, name, arguments, body, hparts, -⟩ := isConvertible_eq_true hconvertible
    have hparts : (f.cell F).children = [name, arguments, body] := hparts
    obtain ⟨hF, hinsideF⟩ | ⟨-, -, hleaf⟩ := h.inside_earlier hb hF
    case inr =>
      rw [hleaf] at hparts
      cases hparts
    have hkind' : (s.cell F).label.kind ∈ [Kind.functionDecl, Kind.anonymousFunction] := by
      rw [← h.touches.label (h.lt_size hF)]
      exact kind_mem_of_isConvertible hconvertible
    refine ⟨F, hinsideF, hkind', ?_⟩
    rwa [h.touches.cell_of_kind (h.lt_size hF) (Kind.not_edited_of_function hkind')] at hchild

/-- The visit of a container that is still there reworks it. -/
theorem reworks (hb : Unvisited s ids done b) (hlive : b ∈ all)
    (hconverts : ∀ name, name ∈ classes.map Prod.fst ↔ Converts f options (some b) name)
    (hrewrites : Rewrites f f' options b classes)
    (hcalls : ∀ declaring c, f.Becomes options b declaring c →
      ∀ t a, f.ClassCall b c t a → f.Called f' t a)
    (hothers : ∀ u < f.size, ¬ f.Edited options b u → f'.cell u = f.cell u) :
    Reworked s f' options b classes := by
  have hspans := h.tree.spans
  have hsame := h.sameStatements hb hlive
  have hcell : ∀ u, s.Concerns b u → f.cell u = s.cell u := fun u hu =>
    h.cell_of_concerns hb hu
  have hbecomes : ∀ declaring c, f.Becomes options b declaring c ↔ s.Becomes options b declaring c :=
    fun _ _ => hsame.becomes_iff
  have hexport : ∀ e, some e ∈ (s.cell b).children →
      f.hasKind Kind.exportDecl (some e) = s.hasKind Kind.exportDecl (some e) := fun e he =>
    h.touches.hasKind_earlier hspans (hspans.link_mem hb.mem he)
  exact {
    names := fun name => (hconverts name).trans hsame.converts_iff
    children := by
      rw [hrewrites.children, hsame.children]
      exact List.flatMap_congr fun st hst => hsame.replacement hst
    exported := by
      intro p hp e he hkind hdeclares
      rw [← hcell e (.exported he hkind)]
      refine hrewrites.exported p hp e (by rwa [hsame.children]) (by rwa [hexport e he]) ?_
      rwa [(hsame.forms (some e) he).declares]
    declared := fun p hp => hsame.isClassOf h.touches.frame (fun u _ hu => hu.2)
      (fun declaring hstanding c hc => h.emptyBody_eq hb hlive hstanding hc)
      (hrewrites.declared p hp)
    called := by
      intro declaring c hc t a hcall
      have ha := (hc.concerns h.tree hb.mem hcall).2
      refine (hcalls declaring c ((hbecomes declaring c).mpr hc) t a
        ((h.classCall_iff hb hlive hc).mpr hcall)).earlier h.touches.size_le ?_
      rw [hcell a ha]
    -- what the visit edits concerns the container at the start already
    still := by
      intro u hu hnot
      have hlt := h.lt_size (hu.mem hspans hb.mem)
      rw [hothers u (Nat.lt_of_lt_of_le hlt h.touches.size_le) fun hedited => hnot ?_, hcell u hu]
      cases hedited with
      | own he => exact .own he
      | exported becomes kind =>
          have becomes := (hbecomes _ _).mp becomes
          exact .exported becomes (by rwa [← hexport u becomes.standing])
      | called becomes call part =>
          have becomes := (hbecomes _ _).mp becomes
          exact .called becomes ((h.classCall_iff hb hlive becomes).mp call) part }

/-- What is below a new token was moved there from a container that was visited. -/
theorem moved_cons {before below below' after : List TokenId} (hb : Unvisited s ids done b)
    (hall : all = before ++ b :: (below ++ after)) (ha : Advance options f f' b below below' classes)
    (htouch : s.Touches (s.Concerns b) f f') :
    ∀ p ∈ before ++ [b] ++ (below' ++ after), s.size ≤ p → ∀ v < s.size,
      some v ∈ (f'.cell p).children → ∃ d ∈ b :: done, s.Movable d v := by
  subst hall
  intro p hp hle v hv hchild
  rcases ha.mem_or_novel hp with hp | ⟨kind, hkind⟩
  · -- what was new before is not edited
    rw [htouch.cell_of_kind (h.whole.lt_size p hp)
      fun hedited => Kind.not_edited_of_made (h.made p hp hle) hedited] at hchild
    obtain ⟨d, hd, hmoved⟩ := h.moved p hp hle v hv hchild
    exact ⟨d, List.mem_cons_of_mem _ hd, hmoved⟩
  · rcases hkind.child hchild with ⟨kind', hkind', -⟩ | ⟨htaken, -⟩
    · exact absurd hkind'.new (h.not_new hv)
    · exact ⟨b, List.mem_cons_self, h.movable hb htaken hv⟩

/-- The visit of a container that is still there. -/
theorem visit_live (hb : Unvisited s ids done b) (hlive : b ∈ all) (hoptions : x.options = options)
    (hvisit : (visit (some b) parent).run.run (f, x) = (.ok (), (f', x'))) :
    ∃ all', Course s options root ids f' all' (b :: done) := by
  have hspans := h.tree.spans
  have hsame := h.sameStatements hb hlive
  have hcontainer : f.isContainer (some b) = true := by
    rw [h.touches.isContainer_earlier hspans hb.mem]
    exact hb.isContainer
  obtain ⟨before, below, after, rfl, hfound⟩ := h.whole.split_mem hlive
  have hlt := h.whole.lt_size b hlive
  have hn : (b :: below).Nodup :=
    (List.nodup_append.mp (h.nodup.perm (List.perm_append_comm_assoc before (b :: below) after))).1
  subst hoptions
  obtain ⟨classes, below', ha, -⟩ := visit_advance hlt hfound hn hvisit
  obtain ⟨hwhole', hnodup', -⟩ := ha.graft h.whole h.nodup
  obtain ⟨hcalls, hothers⟩ := visit_calls hfound hn hlt hcontainer (fun declaring c _ base hbase => by
    rw [hsame.superClassOf] at hbase
    exact (h.touches.frame.names (fun u _ hu => hu.2) (h.tree.names_superClass hb.mem c.name hbase)).mono
      h.touches.size_le) hvisit
  have htouch : s.Touches (s.Concerns b) f f' := by
    have htouch := visit_concerns (x := x) hspans hb.mem h.touches parent
    rwa [hvisit] at htouch
  rcases ha.treated with ⟨hplain, -, -⟩ | ⟨-, hconverts, hrewrites⟩
  · rw [hcontainer] at hplain
    cases hplain
  have hall : ∀ u < s.size, u ∈ before ++ [b] ++ (below' ++ after) →
      u ∈ before ++ b :: (below ++ after) := fun u hlt hu =>
    (ha.mem_or_novel hu).resolve_right fun ⟨_, hkind⟩ => h.not_new hlt hkind.new
  refine ⟨before ++ [b] ++ (below' ++ after), h.tree, h.visited_cons hb, hwhole', hnodup',
    h.touches_cons htouch, fun u hu hlt => h.old u (hall u hlt hu) hlt,
    ha.kind_made h.whole.lt_size h.made, h.moved_cons hb rfl ha htouch,
    h.reworked_cons hb htouch hall (Or.inl ⟨classes, ?_⟩)⟩
  exact h.reworks hb hlive hconverts hrewrites hcalls hothers

/-- The visit of a container that is gone. -/
theorem visit_gone (hb : Unvisited s ids done b) (hgone : b ∉ all) (parent : Slot) (x : Converter) :
    Course s options root ids ((visit (some b) parent).run.run (f, x)).2.1 all (b :: done) := by
  have hspans := h.tree.spans
  have htouch := visit_concerns (x := x) hspans hb.mem h.touches parent
  generalize ((visit (some b) parent).run.run (f, x)).2.1 = f' at htouch
  -- nothing that concerns it is still there
  have hnot : ∀ u, s.Concerns b u → u ∉ all := fun u hu hmem =>
    hgone (h.mem_of_concerns hb hu hmem)
  have hcell : ∀ u ∈ all, f'.cell u = f.cell u := fun u hu =>
    htouch.cell (h.whole.lt_size u hu) fun hconcerns => hnot u hconcerns hu
  refine ⟨h.tree, h.visited_cons hb, h.whole.frame htouch.size_le fun u hu => by rw [hcell u hu],
    h.nodup, h.touches_cons htouch, h.old, fun u hu hle => ?_, fun p hp hle v hv hchild => ?_,
    h.reworked_cons hb htouch (fun _ _ hu => hu) (Or.inr hnot)⟩
  · rw [hcell u hu]
    exact h.made u hu hle
  · rw [hcell p hp] at hchild
    obtain ⟨d, hd, hmoved⟩ := h.moved p hp hle v hv hchild
    exact ⟨d, List.mem_cons_of_mem _ hd, hmoved⟩

/-- The next visit, of a container that was not visited yet. -/
theorem visit (hb : Unvisited s ids done b) (hoptions : x.options = options)
    (hvisit : (Conversion.visit (some b) parent).run.run (f, x) = (.ok (), (f', x'))) :
    ∃ all', Course s options root ids f' all' (b :: done) := by
  by_cases hlive : b ∈ all
  · exact h.visit_live hb hlive hoptions hvisit
  · have hgone := h.visit_gone hb hlive parent x
    rw [hvisit] at hgone
    exact ⟨all, hgone⟩

/-- All visits on a schedule, in whatever order. -/
theorem run {order : List (TokenId × Slot)}
    (horder : ∀ p ∈ order, p.1 ∈ ids ∧ s.isContainer (some p.1) = true)
    (hn : (order.map Prod.fst).Nodup) (hnew : ∀ p ∈ order, p.1 ∉ done) (hoptions : x.options = options)
    (hrun : (order.forM fun p => Conversion.visit (some p.1) p.2).run.run (f, x) = (.ok (), (f', x'))) :
    ∃ all', Course s options root ids f' all' ((order.map Prod.fst).reverse ++ done) := by
  -- of the converter only the options matter, and they stay
  induction order generalizing f x all done with
  | nil =>
      cases hrun
      exact ⟨all, h⟩
  | cons p order ih =>
      have hrun : (Conversion.visit (some p.1) p.2 >>= fun _ =>
        order.forM fun p => Conversion.visit (some p.1) p.2).run.run (f, x) = (.ok (), (f', x')) := hrun
      obtain ⟨⟨⟩, ⟨f₁, x₁⟩, hvisit, hrun⟩ := run_run_bind_eq_ok.mp hrun
      obtain ⟨hp, hn⟩ := List.nodup_cons.mp hn
      obtain ⟨hmem, hcontainer⟩ := horder p List.mem_cons_self
      obtain ⟨all₁, h₁⟩ := h.visit ⟨hmem, hcontainer, hnew p List.mem_cons_self⟩ hoptions hvisit
      have hoptions₁ : x₁.options = options := by
        have := options_of_visit (some p.1) p.2 (f, x)
        rw [hvisit] at this
        exact this.trans hoptions
      obtain ⟨all', h'⟩ := ih h₁ (fun q hq => horder q (List.mem_cons_of_mem _ hq)) hn
        (fun q hq hdone => (List.mem_cons.mp hdone).elim (fun he => hp (he ▸ List.mem_map_of_mem hq))
          (hnew q (List.mem_cons_of_mem _ hq))) hoptions₁ hrun
      refine ⟨all', ?_⟩
      rwa [List.map_cons, List.reverse_cons, List.append_assoc]

end Course

/-! ## The visits of a scan -/

/-- The course of a scan: of the containers, those among the tokens visited were visited. -/
def Scanned (s : Store) (options : Options) (root : TokenId) (ids : List TokenId) (f : Store)
    (visited rest : List TokenId) : Prop :=
  ∃ done, Course s options root ids f (visited ++ rest) done ∧
    ∀ b ∈ ids, s.isContainer (some b) = true → (b ∈ done ↔ b ∈ visited)

/-- Visits of tokens that are no containers change nothing, and new tokens are none. -/
theorem Scanned.step {visited below below' rest : List TokenId} {todo : List Task} {depth : Nat}
    (h : Scanned s options root ids f visited (t :: (below ++ rest)))
    (hstage : Stage f (some root) visited (⟨some t, parent, depth + 1⟩ :: todo) (t :: (below ++ rest)))
    (ha : Advance options f f' t below below' classes) (hoptions : x.options = options)
    (hvisit : (Conversion.visit (some t) parent).run.run (f, x) = (.ok (), (f', x'))) :
    Scanned s options root ids f' (visited ++ [t]) (below' ++ rest) := by
  obtain ⟨done, h, hdone⟩ := h
  have hspans := h.tree.spans
  have hstage' := hstage.step ha
  have hlive : t ∈ visited ++ t :: (below ++ rest) := by simp
  cases hcontainer : f.isContainer (some t) with
  | false =>
      rw [visit_of_not_container hcontainer] at hvisit
      cases hvisit
      refine ⟨done, ?_, fun b hb hcontainer' => ?_⟩
      · rwa [hstage'.whole.unique h.whole]
      · rw [hdone b hb hcontainer', List.mem_append, List.mem_singleton]
        refine (or_iff_left ?_).symm
        rintro rfl
        rw [h.touches.isContainer_earlier hspans hb, hcontainer'] at hcontainer
        cases hcontainer
  | true =>
      -- new tokens are no containers, so this one has been there from the start
      have ht : t ∈ ids := by
        refine h.old t hlive (Nat.lt_of_not_le fun hle => ?_)
        exact Kind.not_edited_of_made (h.made t hlive hle)
          (Kind.edited_of_container (kind_mem_of_isContainer hcontainer))
      have hcontainer' : s.isContainer (some t) = true := by
        rwa [← h.touches.isContainer_earlier hspans ht]
      have hnew : t ∉ done := fun hmem =>
        (List.nodup_append.mp hstage.nodup).2.2 t ((hdone t ht hcontainer').mp hmem) t
          List.mem_cons_self rfl
      obtain ⟨all', h'⟩ := h.visit_live ⟨ht, hcontainer', hnew⟩ hlive hoptions hvisit
      refine ⟨t :: done, ?_, fun b hb hcontainer' => ?_⟩
      · rwa [hstage'.whole.unique h'.whole]
      · rw [List.mem_cons, hdone b hb hcontainer', List.mem_append, List.mem_singleton, or_comm]

theorem Scanned.of_steps (T : PlainTree s root ids) (x : Converter) {a : Store × Converter}
    {depth : Nat} {visited : List TokenId} {left : List Task} (hoptions : x.options = options)
    (hsteps : Steps Conversion.visit (s, x) [⟨some root, none, depth⟩] visited a left) :
    ∃ rest, Stage a.1 (some root) visited left rest ∧ Scanned s options root ids a.1 visited rest := by
  obtain ⟨rest, -, hstage, hscanned, -⟩ :=
    Stage.run_of_visits (fun f visited _ rest => Scanned s options root ids f visited rest)
      (fun hstage hinv ha hoptions hvisit => hinv.step hstage ha hoptions hvisit)
      hsteps hoptions (.start T.spans T.nodup) ⟨[], .start T, by simp⟩
  exact ⟨rest, hstage, hscanned⟩

/-- When all containers that are still there were visited, all that is still there and concerns a
container is what the visit made of it. -/
theorem Course.reworked_of_concerns (h : Course s options root ids f all done)
    (hcomplete : ∀ b ∈ ids, s.isContainer (some b) = true → b ∈ all → b ∈ done) (hb : b ∈ ids)
    (hcontainer : s.isContainer (some b) = true) (hu : s.Concerns b u) (hmem : u ∈ all) :
    ∃ classes, Reworked s f options b classes := by
  refine h.reworked_of_mem ?_ hu hmem
  by_contra hnew
  exact hnew (hcomplete b hb hcontainer (h.mem_of_concerns ⟨hb, hcontainer, hnew⟩ hu hmem))

end ClassLift
