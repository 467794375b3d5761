import ClassLift.Proofs.Class.Refusal
import ClassLift.Proofs.Conversion.Warnings
import Mathlib.Algebra.BigOperators.Group.List.Lemmas
import Mathlib.Algebra.GroupWithZero.Nat

set_option autoImplicit false

/-! # No function is passed over silently

The warnings of a visit account for what became of each function that is declared: a function that is
declared again is warned of each time, and one that is declared once becomes a class, is left as it is
because nothing was collected for it, or is given up with one warning (`Accounted`).

All remarks of a detection are known from the statements, up to their order (`detect_remarks`), so
that each kind can be counted.
-/

namespace ClassLift

open List

namespace Warning

/-- The kinds of warnings with which a function is given up that is declared once. -/
def rejections : List Warning := [.beforeDeclaration, .multipleInheritance, .unsupportedPrototype]

theorem name_inj {w w' : Warning} (h : w.name = w'.name) : w = w' := by
  have hof := ofName?_name w
  rw [h, ofName?_name] at hof
  exact (Option.some.inj hof).symm

end Warning

/-- How many notices of a kind there are. -/
def countOf (w : Warning) (notices : List Notice) : Nat := notices.countP (·.warning = w)

/-- The warnings with which the function `name` is given up. -/
def complaints (name : String) (notices : List Notice) : List Warning :=
  (notices.filter fun n => n.name = name ∧ n.warning ∈ Warning.rejections).map Notice.warning

namespace Store

variable (s : Store) (block : Slot)

/-- The functions that are declared, each one once. -/
def declaredNames : List String := ((s.children block).filterMap (s.declaredName? block)).dedup

/-- The functions that exactly one statement declares. -/
def onceDeclared : List String :=
  (s.declaredNames block).filter fun name => (s.children block).countP (s.declares block name) = 1

end Store

/-- The classes that were made and the notices account for every function of the block. -/
structure Accounted (s : Store) (options : Options) (block : Slot) (made : List String)
    (notices : List Notice) : Prop where
  /-- Each declaration of a function but one is warned of. -/
  again : countOf .duplicateClass notices = ((s.declaredNames block).map fun name =>
    (s.children block).countP (s.declares block name) - 1).sum
  /-- A function that is declared once becomes a class; or it is left as it is, without a warning,
  because no method and no super class was collected; or it is given up with one warning. -/
  outcome : ∀ name, (s.children block).countP (s.declares block name) = 1 →
    (name ∈ made ∧ complaints name notices = []) ∨
    (name ∉ made ∧ complaints name notices = [] ∧ s.collected options block name = [] ∧
      s.inheritsAny options block name = false) ∨
    (name ∉ made ∧ ∃ w ∈ Warning.rejections, s.rejection? options block name = some w ∧
      complaints name notices = [w])
  /-- Any other function is not converted, and no such warning is about it. -/
  others : ∀ name, (s.children block).countP (s.declares block name) ≠ 1 →
    name ∉ made ∧ complaints name notices = []
  /-- The warnings with which a function is given up are as many as the functions given up. -/
  rejected : (Warning.rejections.map fun w => countOf w notices).sum =
    ((s.onceDeclared block).filter fun name => (s.rejection? options block name).isSome).length
  /-- Each method of a name that was collected before is warned of. -/
  overwritten : countOf .duplicateMethod notices = ((s.onceDeclared block).map fun name =>
    (s.collected options block name).length -
      ((s.collected options block name).map Method.name).dedup.length).sum

variable {s s' : Store} {options : Options} {block : Slot} {name : String} {w : Warning}
  {candidates : List Candidate} {notices : List Notice}

/-! ## Declared names -/

theorem sum_map_sub_one {α : Type} (f : α → Nat) (xs : List α) (h : ∀ x ∈ xs, 1 ≤ f x) :
    (xs.map fun x => f x - 1).sum + xs.length = (xs.map f).sum := by
  induction xs with
  | nil => rfl
  | cons x xs ih =>
      obtain ⟨hx, hxs⟩ := List.forall_mem_cons.mp h
      have hrest := ih hxs
      simp only [List.map_cons, List.sum_cons, List.length_cons]
      omega

namespace Store

theorem countP_declares (statements : List Slot) :
    statements.countP (s.declares block name) =
      (statements.filterMap (s.declaredName? block)).count name := by
  rw [List.count_filterMap]
  refine List.countP_congr fun st _ => ?_
  rw [declares_iff, declaredName?, beq_iff_eq]
  split
  · rename_i c hc
    simp [hc]
  · rename_i hne
    constructor
    · rintro ⟨c, hc, -⟩
      exact absurd hc (hne c)
    · intro hnone
      cases hnone

theorem mem_onceDeclared :
    name ∈ s.onceDeclared block ↔ (s.children block).countP (s.declares block name) = 1 := by
  rw [onceDeclared, List.mem_filter, decide_eq_true_eq, declaredNames, List.mem_dedup,
    ← List.count_pos_iff, ← countP_declares]
  constructor
  · exact And.right
  · intro h
    exact ⟨by omega, h⟩

theorem nodup_onceDeclared (s : Store) (block : Slot) : (s.onceDeclared block).Nodup :=
  (List.nodup_dedup _).filter _

/-- The names that recur among the declarations, counted function by function. -/
theorem length_recurring_declared (s : Store) (block : Slot) :
    (recurring [] ((s.children block).filterMap (s.declaredName? block))).length =
      ((s.declaredNames block).map fun name =>
        (s.children block).countP (s.declares block name) - 1).sum := by
  have hcount : ∀ n ∈ s.declaredNames block,
      1 ≤ (s.children block).countP (s.declares block n) := by
    intro n hn
    rw [countP_declares]
    exact List.count_pos_iff.mpr (List.mem_dedup.mp hn)
  have hall : ((s.declaredNames block).map fun n =>
      (s.children block).countP (s.declares block n)).sum =
      ((s.children block).filterMap (s.declaredName? block)).length := by
    simp only [countP_declares]
    exact List.sum_map_count_dedup_eq_length _
  have hsum := sum_map_sub_one _ _ hcount
  rw [hall, declaredNames] at hsum
  rw [length_recurring_nil, declaredNames]
  omega

theorem mem_rejections_of_refusal {before : List Slot} {st : Slot}
    (h : s.refusal? options block name before st = some w) : w ∈ Warning.rejections := by
  unfold refusal? at h
  split at h
  · cases h
  split at h
  · cases h
    decide
  split at h
  · cases h
  split at h
  · cases h
    decide
  split at h
  · split at h
    · cases h
      decide
    split at h
    · cases h
      decide
    · cases h
  split at h
  · cases h
    decide
  · cases h

theorem mem_rejections_of_regard {before statements : List Slot}
    (h : (s.regard options block name before statements).2 = some w) : w ∈ Warning.rejections := by
  induction statements generalizing before with
  | nil => cases h
  | cons st statements ih =>
      rw [regard] at h
      cases hrefusal : s.refusal? options block name before st with
      | none =>
          rw [hrefusal] at h
          exact ih h
      | some w' =>
          rw [hrefusal] at h
          cases h
          exact mem_rejections_of_refusal hrefusal

theorem mem_rejections (h : s.rejection? options block name = some w) : w ∈ Warning.rejections :=
  mem_rejections_of_regard h

theorem rejection_ne (hw : w ∉ Warning.rejections) : s.rejection? options block name ≠ some w :=
  fun h => hw (mem_rejections h)

end Store

/-! ## All remarks -/

/-- All remarks of a detection, in whatever order. -/
theorem detect_remarks (h : Candidates s options block (s.children block) candidates) :
    ((detect s options block).run.run []).2.map Notice.remark ~
      remarksOf .duplicateClass (recurring [] ((s.children block).filterMap (s.declaredName? block))) ++
        (s.onceDeclared block).flatMap (s.remarksOn options block) := by
  obtain ⟨left, found, rs, hnotes, hfound, hrs⟩ := detect_notes h
  have once : ∀ d, d ∈ found ↔ DeclaredOnce s block 0 (s.children block) d := by
    intro d
    rw [hfound.mem_iff]
    simp
  have hnames : found.map Draft.name ~ s.onceDeclared block := by
    refine (List.perm_ext_iff_of_nodup hfound.distinct (s.nodup_onceDeclared block)).mpr fun n => ?_
    rw [Store.mem_onceDeclared, ← exists_declaredOnce_iff, List.mem_map]
    simp only [once]
  have hdrafts : found.flatMap (fun d => d.remarks s options block 0 (s.children block)) =
      (found.map Draft.name).flatMap (s.remarksOn options block) := by
    rw [List.flatMap_map]
    refine List.flatMap_congr fun d hd => ?_
    obtain ⟨r, hr⟩ := h.followed d ((once d).mp hd)
    exact remarks_of_declaredOnce ((once d).mp hd) hr
  obtain ⟨added, hrun, hadded⟩ := hnotes []
  rw [hrun, List.nil_append, hadded]
  rw [hdrafts] at hrs
  exact Perm.append_left _ (hrs.trans (hnames.flatMap_right _))

theorem countOf_eq : countOf w notices = (notices.map Notice.remark).countP (·.1 = w) := by
  rw [List.countP_map]
  rfl

theorem countP_remarksOf (w v : Warning) (names : List String) :
    (remarksOf v names).countP (·.1 = w) = if v = w then names.length else 0 := by
  rw [remarksOf, List.countP_map]
  by_cases h : v = w
  · rw [if_pos h]
    exact List.countP_eq_length.mpr fun _ _ => by simpa using h
  · rw [if_neg h]
    exact List.countP_eq_zero.mpr fun _ _ => by simpa using h

theorem countP_remarksOn (w : Warning) : (s.remarksOn options block name).countP (·.1 = w) =
    (if .duplicateMethod = w then (s.overwritten options block name).length else 0) +
      if s.rejection? options block name = some w then 1 else 0 := by
  rw [Store.remarksOn, List.countP_append, countP_remarksOf]
  cases s.rejection? options block name with
  | none => simp
  | some v => simp [List.countP_cons]

/-- How often a detection gives a notice of each kind. -/
theorem countOf_detect (h : Candidates s options block (s.children block) candidates) (w : Warning) :
    countOf w ((detect s options block).run.run []).2 =
      (if .duplicateClass = w then ((s.declaredNames block).map fun name =>
        (s.children block).countP (s.declares block name) - 1).sum else 0) +
      ((s.onceDeclared block).map fun name =>
        (if .duplicateMethod = w then (s.overwritten options block name).length else 0) +
          if s.rejection? options block name = some w then 1 else 0).sum := by
  have hones : (fun name => (s.remarksOn options block name).countP (·.1 = w)) = fun name =>
      (if .duplicateMethod = w then (s.overwritten options block name).length else 0) +
        if s.rejection? options block name = some w then 1 else 0 :=
    funext fun _ => countP_remarksOn w
  rw [countOf_eq, (detect_remarks h).countP_eq, List.countP_append, countP_remarksOf,
    Store.length_recurring_declared, List.countP_flatMap, ← hones]
  rfl

/-! ## Remarks on one function -/

theorem flatMap_eq_of_nodup {α β : Type} [DecidableEq α] {xs : List α} (hn : xs.Nodup) {f : α → List β}
    {a : α} (h : ∀ b, b ≠ a → f b = []) : xs.flatMap f = if a ∈ xs then f a else [] := by
  induction xs with
  | nil => rfl
  | cons x xs ih =>
      obtain ⟨hx, hxs⟩ := List.nodup_cons.mp hn
      rw [List.flatMap_cons, ih hxs]
      by_cases ha : x = a
      · subst ha
        rw [if_neg hx, if_pos List.mem_cons_self, List.append_nil]
      · have hmem : a ∈ x :: xs ↔ a ∈ xs := by
          rw [List.mem_cons]
          exact ⟨fun hm => hm.resolve_left fun he => ha he.symm, Or.inr⟩
        rw [h x ha, List.nil_append]
        simp only [hmem]

/-- The warnings with which a function is given up are those of its rejection. -/
theorem complaints_detect (h : Candidates s options block (s.children block) candidates)
    (name : String) :
    complaints name ((detect s options block).run.run []).2 =
      if name ∈ s.onceDeclared block then (s.rejection? options block name).toList else [] := by
  have hfilter : ∀ notices : List Notice, complaints name notices =
      ((notices.map Notice.remark).filter fun r => r.2 = name ∧ r.1 ∈ Warning.rejections).map
        Prod.fst := by
    intro notices
    rw [complaints, List.filter_map, List.map_map]
    rfl
  have hnone : ∀ (v : Warning) (names : List String), v ∉ Warning.rejections →
      (remarksOf v names).filter (fun r => r.2 = name ∧ r.1 ∈ Warning.rejections) = [] := by
    intro v names hv
    refine List.filter_eq_nil_iff.mpr fun r hr => ?_
    obtain ⟨n, -, rfl⟩ := List.mem_map.mp hr
    simp [hv]
  -- of the remarks on a function, those that count are its rejection
  have hone : ∀ n, ((s.remarksOn options block n).filter
      fun r => r.2 = name ∧ r.1 ∈ Warning.rejections) =
      if n = name then (s.rejection? options block n).toList.map (·, n) else [] := by
    intro n
    rw [Store.remarksOn, List.filter_append, hnone _ _ (by decide), List.nil_append]
    cases hr : s.rejection? options block n with
    | none => simp
    | some w =>
        have hw := Store.mem_rejections hr
        by_cases hn : n = name
        · simp [hn, hw]
        · simp [hn]
  have hperm := ((detect_remarks h).filter fun r => r.2 = name ∧ r.1 ∈ Warning.rejections).map Prod.fst
  rw [← hfilter, List.filter_append, hnone _ _ (by decide), List.nil_append, List.filter_flatMap,
    flatMap_eq_of_nodup (s.nodup_onceDeclared block) fun n hn => by rw [hone, if_neg hn], hone,
    if_pos rfl] at hperm
  by_cases hmem : name ∈ s.onceDeclared block
  · rw [if_pos hmem] at hperm ⊢
    cases hr : s.rejection? options block name with
    | none =>
        rw [hr] at hperm
        exact hperm.eq_nil
    | some w =>
        rw [hr] at hperm
        exact hperm.eq_singleton
  · rw [if_neg hmem] at hperm ⊢
    exact hperm.eq_nil

/-! ## The account of a detection -/

theorem sum_countP_eq_isSome {α : Type} (f : α → Option Warning)
    (h : ∀ x w, f x = some w → w ∈ Warning.rejections) (xs : List α) :
    (Warning.rejections.map fun w => xs.countP fun x => f x = some w).sum =
      xs.countP fun x => (f x).isSome := by
  induction xs with
  | nil => rfl
  | cons x xs ih =>
      simp only [Warning.rejections, List.map_cons, List.map_nil, List.sum_cons, List.sum_nil,
        List.countP_cons] at ih ⊢
      cases hx : f x with
      | none => simpa using ih
      | some w =>
          have hw := h x w hx
          simp only [Warning.rejections, List.mem_cons, List.not_mem_nil, or_false] at hw
          rcases hw with rfl | rfl | rfl <;> simp <;> omega

theorem sum_map_ite_eq_countP {α : Type} (p : α → Prop) [DecidablePred p] (xs : List α) :
    (xs.map fun x => if p x then 1 else 0).sum = xs.countP fun x => p x := by
  induction xs with
  | nil => rfl
  | cons x xs ih =>
      rw [List.map_cons, List.sum_cons, ih, List.countP_cons]
      simp [Nat.add_comm]

theorem accounted (h : Candidates s options block (s.children block) candidates) {made : List String}
    (hmade : ∀ name, name ∈ made ↔ Converts s options block name) :
    Accounted s options block made ((detect s options block).run.run []).2 where
  again := by
    have hno : ∀ n, s.rejection? options block n ≠ some .duplicateClass := fun _ =>
      Store.rejection_ne (by decide)
    rw [countOf_detect h]
    simp [hno]
  outcome name hname := by
    have honce := Store.mem_onceDeclared.mpr hname
    rw [complaints_detect h, if_pos honce, hmade, converts_iff_collected h]
    -- given up with a warning, or kept: then a class, or left as it is for want of members
    cases hr : s.rejection? options block name with
    | some w => exact Or.inr (Or.inr ⟨by simp, w, Store.mem_rejections hr, rfl, rfl⟩)
    | none =>
        by_cases hc : s.collected options block name ≠ [] ∨ s.inheritsAny options block name = true
        · exact Or.inl ⟨⟨hname, rfl, hc⟩, rfl⟩
        · refine Or.inr (Or.inl ⟨fun hconverts => hc hconverts.2.2, rfl, ?_, ?_⟩)
          · by_contra hne
            exact hc (Or.inl hne)
          · exact (Bool.not_eq_true _).mp fun hi => hc (Or.inr hi)
  others name hname := by
    have honce : name ∉ s.onceDeclared block := fun hm => hname (Store.mem_onceDeclared.mp hm)
    rw [complaints_detect h, if_neg honce, hmade]
    exact ⟨fun hconverts => hname hconverts.declaredOnce, rfl⟩
  rejected := by
    rw [← List.countP_eq_length_filter,
      ← sum_countP_eq_isSome _ (fun _ _ => Store.mem_rejections) (s.onceDeclared block)]
    refine congrArg List.sum (List.map_congr_left fun w hw => ?_)
    have hclass : Warning.duplicateClass ≠ w := by
      rintro rfl
      exact absurd hw (by decide)
    have hmethod : Warning.duplicateMethod ≠ w := by
      rintro rfl
      exact absurd hw (by decide)
    rw [countOf_detect h]
    simp only [if_neg hclass, if_neg hmethod, Nat.zero_add]
    exact sum_map_ite_eq_countP _ _
  overwritten := by
    rw [countOf_detect h, if_neg (by decide), Nat.zero_add]
    refine congrArg List.sum (List.map_congr_left fun n _ => ?_)
    have hno : s.rejection? options block n ≠ some .duplicateMethod :=
      Store.rejection_ne (by decide)
    rw [if_pos rfl, if_neg hno, Nat.add_zero, Store.overwritten, length_recurring_nil, List.length_map]

/-! ## Visits -/

theorem Converter.count_reports (x : Converter) (notices : List Notice) (key : String) :
    (notices.foldl report x).reporter.count key =
      x.reporter.count key + notices.countP (·.warning.name = key) := by
  induction notices generalizing x with
  | nil => rfl
  | cons n notices ih =>
      have hone : (x.report n).reporter.count key =
          x.reporter.count key + if n.warning.name = key then 1 else 0 := by
        rw [report, reporter_warn, Reporter.count_warn]
      rw [List.foldl_cons, ih, hone, List.countP_cons]
      simp only [decide_eq_true_eq]
      omega

namespace Conversion

variable {x x' : Converter}

/-- **No function is passed over silently.** The visit of a container that succeeds reports the
notices of its detection and counts their warnings and no others, and these account, with the classes
that it makes, for every function that a statement of the container declares. -/
theorem visit_accounts {parent : Slot} (hb : s.isContainer block = true)
    (h : (visit block parent).run.run (s, x) = (.ok (), (s', x'))) :
    ∃ made notices, ((detect s x.options block).run.run []).2 = notices ∧
      x'.reporter = (notices.foldl Converter.report x).reporter ∧
      x'.classes = x.classes ++ made ∧
      (∀ w : Warning, x'.reporter.count w.name = x.reporter.count w.name + countOf w notices) ∧
      (∀ key, (∀ w : Warning, w.name ≠ key) → x'.reporter.count key = x.reporter.count key) ∧
      Accounted s x.options block made notices := by
  obtain ⟨made, hclasses, -, hmade⟩ := classes_of_visit hb h
  obtain ⟨candidates, x₁, -, hc, -, -⟩ := visit_eq_ok hb h
  rw [visit_of_container hb] at h
  have hreporter : x'.reporter =
      (((detect s x.options block).run.run []).2.foldl Converter.report x).reporter := by
    cases hresult : ((detect s x.options block).run.run []).1 with
    | error fault =>
        rw [hresult] at h
        cases h
    | ok candidates =>
        rw [hresult] at h
        exact reporter_of_commits h
  refine ⟨made, _, rfl, hreporter, hclasses, fun w => ?_, fun key hkey => ?_, accounted hc hmade⟩
  · rw [hreporter, Converter.count_reports, countOf]
    congr 1
    refine List.countP_congr fun n _ => ?_
    simp only [decide_eq_true_eq]
    exact ⟨Warning.name_inj, fun h => by rw [h]⟩
  · rw [hreporter, Converter.count_reports, List.countP_eq_zero.mpr fun n _ => by simpa using hkey n.warning,
      Nat.add_zero]

theorem visit_accounts_pointFile :
    pointFile.isContainer (some 14) = true ∧
      ∃ s' x', (visit (some 14) none).run.run (pointFile, .start ⟨true, true⟩) = (.ok (), (s', x')) ∧
        x'.classes = ["Point"] ∧
        ((detect pointFile ⟨true, true⟩ (some 14)).run.run []).2 = [] ∧
        x'.reporter = .start ∧
        (∀ w : Warning, x'.reporter.count w.name = 0) ∧
        (∀ key, (∀ w : Warning, w.name ≠ key) → x'.reporter.count key = 0) ∧
        Accounted pointFile ⟨true, true⟩ (some 14) ["Point"] [] := by
  have hvisit : (visit (some 14) none).run.run (pointFile, .start ⟨true, true⟩) = _ := rfl
  obtain ⟨made, notices, hnotices, hreporter, hclasses, hcounts, hothers, haccounted⟩ :=
    visit_accounts (by decide) hvisit
  obtain rfl : ["Point"] = made := hclasses
  obtain rfl : [] = notices := hnotices
  exact ⟨by decide, _, _, hvisit, rfl, rfl, hreporter, hcounts, hothers, haccounted⟩

end Conversion

end ClassLift
