import ClassLift.Proofs.Conversion.Independence
import ClassLift.Proofs.Scan.Trace

set_option autoImplicit false

/-! # The warnings that are written

A converter is asked to warn by its visits and from outside, and kinds of warnings are disabled and
enabled in between. A `Warning.Call` records one such request: what was to be said, whether the kind
was muted just then, and what was written. `Session.History` are the sessions with all the calls
that were ever made, in order, through any number of runs, visits, warnings and changes of what is
written.

The calls account for the converter (`Converter.Accounts`): they are what was counted, and the
warnings of its log are what they wrote, of each kind those among the first `Reporter.limit` calls
that were not muted. One call keeps this account (`Accounts.warn`), and so does whatever else a
converter does (`Accounts.same`); `Session.History.accounts` is the induction over the history.
-/

namespace ClassLift

open Conversion Scan

/-! ## Warnings in a log -/

/-- The line is a warning. -/
def Converter.IsWarning (line : String) : Prop := "WARNING".toList <+: line.toList

instance (line : String) : Decidable (Converter.IsWarning line) :=
  inferInstanceAs (Decidable (_ <+: _))

/-- The warnings that a converter has written. -/
def Converter.warnings (x : Converter) : List String := x.log.filter Converter.IsWarning

theorem Converter.IsWarning.append {line : String} (h : IsWarning line) (more : String) :
    IsWarning (line ++ more) := by
  unfold IsWarning
  rw [String.toList_append]
  exact h.trans (List.prefix_append _ _)

theorem Reporter.isWarning_line (l : Label) (text message : String) :
    Converter.IsWarning (line l text message) := by
  have hstart : Converter.IsWarning "WARNING line: " := by decide
  exact (((((((hstart.append _).append _).append _).append _).append _).append _).append _).append _

theorem Converter.not_isWarning_convertedLine (name : String) (line : Int) :
    ¬ IsWarning (convertedLine name line) := by
  intro h
  unfold IsWarning convertedLine at h
  have hstart : "DEBUG converted `".toList = 'D' :: "EBUG converted `".toList := by decide
  simp only [String.toList_append, List.append_assoc, hstart, List.cons_append] at h
  have hfirst : 'W' = 'D' := (List.cons_prefix_cons.mp h).1
  exact absurd hfirst (by decide)

/-! ## Counts -/

namespace Reporter

/-- Warnings of this name are not written: it is disabled, or all warnings are. -/
def mutes (r : Reporter) (name : String) : Bool := r.silent || decide (name ∈ r.disabled)

theorem lookup_increase (name other : String) (counts : List (String × Nat)) :
    ((increase name counts).lookup other).getD 0 =
      (counts.lookup other).getD 0 + if name = other then 1 else 0 := by
  induction counts with
  | nil =>
      by_cases h : name = other
      · simp [increase, h]
      · have hne : (other == name) = false := by simpa using Ne.symm h
        simp [increase, List.lookup_cons, h, hne]
  | cons first rest ih =>
      obtain ⟨key, n⟩ := first
      by_cases hkey : key = name
      · subst hkey
        by_cases h : key = other
        · simp [increase, h]
        · have hne : (other == key) = false := by simpa using Ne.symm h
          simp [increase, List.lookup_cons, h, hne]
      · rw [increase, if_neg hkey]
        by_cases h : other = key
        · subst h
          simp [Ne.symm hkey]
        · have hne : (other == key) = false := by simpa using h
          simpa only [List.lookup_cons, hne] using ih

/-- A warning adds one to the count of its own name only. -/
theorem count_warn (r : Reporter) (about : Option Label) (name message other : String) :
    (r.warn about name message).1.count other = r.count other + if name = other then 1 else 0 :=
  lookup_increase name other r.counts

/-- A warning of a kind is written when the kind is not muted and was not warned of too often. -/
theorem answer_warn (r : Reporter) (about : Label) (w : Warning) (message : String) :
    (r.warn (some about) w.name message).2 =
      .ok (if r.count w.name < limit ∧ r.mutes w.name = false
        then some (line about w.text message) else none) := by
  have hcount : ({ r with counts := increase w.name r.counts } : Reporter).count w.name =
      r.count w.name + 1 := by
    have hwarn := count_warn r (some about) w.name message w.name
    rwa [if_pos rfl] at hwarn
  unfold warn
  dsimp only
  -- the warning itself is counted before the count is compared with the limit
  rw [hcount, Warning.ofName?_name]
  by_cases h : r.count w.name < limit ∧ r.mutes w.name = false
  · obtain ⟨hlimit, hmutes⟩ := h
    obtain ⟨hsilent, hdisabled⟩ : r.silent = false ∧ w.name ∉ r.disabled := by
      simpa [mutes] using hmutes
    have hwrite : ¬ (limit < r.count w.name + 1 ∨ r.silent = true ∨ w.name ∈ r.disabled) := by
      rintro (hover | hover | hover)
      · omega
      · rw [hsilent] at hover
        cases hover
      · exact hdisabled hover
    rw [if_neg hwrite, if_pos ⟨hlimit, hmutes⟩]
  · have hquiet : limit < r.count w.name + 1 ∨ r.silent = true ∨ w.name ∈ r.disabled := by
      by_cases hlimit : r.count w.name < limit
      · have hmutes : r.mutes w.name = true := by
          rw [← Bool.not_eq_false]
          exact fun hmutes => h ⟨hlimit, hmutes⟩
        exact Or.inr (by simpa [mutes] using hmutes)
      · exact Or.inl (by omega)
    rw [if_pos hquiet, if_neg h]

end Reporter

/-! ## Calls -/

/-- A request to warn: about which token, under which name and with what words, whether warnings of
this name were muted at that moment, and what was written in answer to it. -/
structure Warning.Call where
  about : Label
  name : String
  message : String
  muted : Bool
  lines : List String

namespace Warning

/-- The calls for a kind of warning. -/
def callsOf (w : Warning) (calls : List Call) : List Call := calls.filter (·.name = w.name)

/-- The line for a call of this kind. -/
def lineOf (w : Warning) (call : Call) : String := Reporter.line call.about w.text call.message

end Warning

namespace Converter

/-- The call for a warning; what it writes is what is new in the log. -/
def call (x : Converter) (about : Label) (name message : String) : Warning.Call where
  about := about
  name := name
  message := message
  muted := x.reporter.mutes name
  lines := (x.warn (some about) name message).1.log.drop x.log.length

/-- The calls for some notices, which are reported one after the other. -/
def calls (x : Converter) : List Notice → List Warning.Call
  | [] => []
  | n :: notices => x.call n.about n.warning.name n.name :: (x.report n).calls notices

variable {x : Converter} {about : Label} {name message : String}

/-- Of a kind within the limit that is not muted, the line of the warning is written, otherwise
nothing. -/
theorem lines_call (x : Converter) (about : Label) (w : Warning) (message : String) :
    (x.call about w.name message).lines =
      if x.reporter.count w.name < Reporter.limit ∧ x.reporter.mutes w.name = false
      then [Reporter.line about w.text message] else [] := by
  have hanswer := Reporter.answer_warn x.reporter about w message
  unfold call warn
  rcases hr : x.reporter.warn (some about) w.name message with ⟨r, answer⟩
  rw [hr] at hanswer
  subst hanswer
  by_cases h : x.reporter.count w.name < Reporter.limit ∧ x.reporter.mutes w.name = false
  · simp [if_pos h, write]
  · simp [if_neg h]

/-- A warning adds to the log what its call says, and this is a warning. -/
theorem log_warn (x : Converter) (about : Label) (name message : String) :
    (x.warn (some about) name message).1.log = x.log ++ (x.call about name message).lines ∧
      ∀ line ∈ (x.call about name message).lines, IsWarning line := by
  unfold call warn
  dsimp only
  rcases hr : x.reporter.warn (some about) name message with ⟨r, _ | _ | line⟩
  · simp
  · simp
  · refine ⟨by simp [write], ?_⟩
    intro written hwritten
    -- the only lines that a reporter gives are those of `Reporter.line`
    have hline : ∃ w : Warning, line = Reporter.line about w.text message := by
      have hanswer := congrArg Prod.snd hr
      change (if _ then _ else _) = _ at hanswer
      split at hanswer
      · cases hanswer
      · split at hanswer
        · cases hanswer
        · cases hanswer
        · rename_i w l _ habout
          cases habout
          cases hanswer
          exact ⟨w, rfl⟩
    obtain ⟨w, rfl⟩ := hline
    have hwritten : written = Reporter.line about w.text message := by simpa [write] using hwritten
    rw [hwritten]
    exact Reporter.isWarning_line about w.text message

end Converter

/-! ## Accounts -/

/-- The calls account for what a converter has counted and for the warnings of its log. -/
structure Converter.Accounts (x : Converter) (calls : List Warning.Call) : Prop where
  /-- A warning is counted by its calls, of whatever name. -/
  count : ∀ name, x.reporter.count name = (calls.filter (·.name = name)).length
  /-- Of a kind, the first calls are written, except those that were muted. -/
  written : ∀ w : Warning, (w.callsOf calls).flatMap Warning.Call.lines =
    (((w.callsOf calls).take Reporter.limit).filter (!·.muted)).map w.lineOf
  /-- No other warning is in the log. -/
  log : x.warnings = calls.flatMap Warning.Call.lines

/-- Both converters have counted the same warnings, and written the same. -/
structure Converter.SameWarnings (x y : Converter) : Prop where
  counts : y.reporter.counts = x.reporter.counts
  warnings : y.warnings = x.warnings

namespace Converter

variable {x y : Converter} {calls : List Warning.Call}

theorem SameWarnings.refl (x : Converter) : x.SameWarnings x := ⟨rfl, rfl⟩

theorem SameWarnings.trans {z : Converter} (h : x.SameWarnings y) (h' : y.SameWarnings z) :
    x.SameWarnings z := ⟨h'.counts.trans h.counts, h'.warnings.trans h.warnings⟩

theorem sameWarnings_made (x : Converter) (name : String) (l : Label) :
    x.SameWarnings (x.made name l) := by
  refine ⟨rfl, ?_⟩
  show (x.log ++ [convertedLine name l.line]).filter IsWarning = _
  rw [List.filter_append, List.filter_cons_of_neg (by simpa using not_isWarning_convertedLine _ _),
    List.filter_nil, List.append_nil]
  rfl

theorem accounts_start (options : Options) : (Converter.start options).Accounts [] :=
  ⟨fun _ => rfl, fun _ => rfl, rfl⟩

theorem Accounts.same (h : x.Accounts calls) (hsame : x.SameWarnings y) : y.Accounts calls where
  count name := by
    rw [← h.count]
    exact congrArg (fun counts => (List.lookup name counts).getD 0) hsame.counts
  written := h.written
  log := hsame.warnings.trans h.log

/-- One more call of a kind: if it is among the first ones, it is written unless it is muted. -/
theorem written_append_call (x : Converter) (about : Label) (w : Warning) (message : String)
    {earlier : List Warning.Call} (hcount : x.reporter.count w.name = earlier.length)
    (hwritten : earlier.flatMap Warning.Call.lines =
      ((earlier.take Reporter.limit).filter (!·.muted)).map w.lineOf) :
    (earlier ++ [x.call about w.name message]).flatMap Warning.Call.lines =
      (((earlier ++ [x.call about w.name message]).take Reporter.limit).filter (!·.muted)).map
        w.lineOf := by
  have hmuted : (x.call about w.name message).muted = x.reporter.mutes w.name := rfl
  rw [List.flatMap_append, hwritten, List.flatMap_singleton, lines_call, hcount]
  by_cases hlimit : earlier.length < Reporter.limit
  · have hall : earlier.take Reporter.limit = earlier := List.take_of_length_le (by omega)
    have hall' : (earlier ++ [x.call about w.name message]).take Reporter.limit =
        earlier ++ [x.call about w.name message] :=
      List.take_of_length_le (by rw [List.length_append, List.length_singleton]; omega)
    rw [hall, hall', List.filter_append, List.map_append]
    cases hm : x.reporter.mutes w.name with
    | false => simp [hlimit, hm, Warning.lineOf, call]
    | true => simp [hm, hmuted]
  · rw [if_neg (fun hand => hlimit hand.1), List.append_nil,
      List.take_append_of_le_length (by omega)]

/-- Another call is accounted for. -/
theorem Accounts.warn (h : x.Accounts calls) (about : Label) (name message : String) :
    (x.warn (some about) name message).1.Accounts (calls ++ [x.call about name message]) where
  count other := by
    rw [reporter_warn, Reporter.count_warn, h.count, List.filter_append, List.length_append]
    have hname : (x.call about name message).name = name := rfl
    by_cases hother : name = other
    · subst hother
      simp [hname]
    · simp [hname, hother]
  written w := by
    have hname : (x.call about name message).name = name := rfl
    -- the new call is one of the calls of its own kind, and of no other
    by_cases hw : name = w.name
    · subst hw
      have hcalls : w.callsOf (calls ++ [x.call about w.name message]) =
          w.callsOf calls ++ [x.call about w.name message] := by simp [Warning.callsOf, hname]
      rw [hcalls]
      exact x.written_append_call about w message (h.count w.name) (h.written w)
    · have hcalls : w.callsOf (calls ++ [x.call about name message]) = w.callsOf calls := by
        simp [Warning.callsOf, hname, hw]
      rw [hcalls]
      exact h.written w
  log := by
    obtain ⟨hlog, hlines⟩ := log_warn x about name message
    have hall : (x.call about name message).lines.filter IsWarning =
        (x.call about name message).lines :=
      List.filter_eq_self.mpr fun line hline => decide_eq_true (hlines line hline)
    calc (x.warn (some about) name message).1.warnings
        = (x.log ++ (x.call about name message).lines).filter IsWarning := by rw [warnings, hlog]
      _ = x.warnings ++ (x.call about name message).lines := by
          rw [List.filter_append, hall, warnings]
      _ = (calls ++ [x.call about name message]).flatMap Warning.Call.lines := by
          rw [h.log, List.flatMap_append, List.flatMap_singleton]

theorem Accounts.reports (h : x.Accounts calls) (notices : List Notice) :
    (notices.foldl report x).Accounts (calls ++ x.calls notices) := by
  induction notices generalizing x calls with
  | nil =>
      rw [Converter.calls, List.append_nil]
      exact h
  | cons n notices ih =>
      have hrest := ih (h.warn n.about n.warning.name n.name)
      rwa [List.append_assoc, List.singleton_append] at hrest

end Converter

/-! ## Visits and runs -/

namespace Conversion

/-- The calls that a visit makes: those for the notices of its detection. -/
def calls (m : Moment Converter) : List Warning.Call :=
  if m.before.1.isContainer m.slot then
    m.before.2.calls ((detect m.before.1 m.before.2.options m.slot).run.run []).2
  else []

/-- However a commit ends, it does not warn. -/
theorem commit_sameWarnings (c : Candidate) (a : Store × Converter) :
    a.2.SameWarnings ((commit c).run.run a).2.2 := by
  obtain ⟨s, x⟩ := a
  cases ht : c.isTransformable with
  | false =>
      rw [commit_of_not_transformable ht]
      exact .refl x
  | true =>
      unfold commit
      rw [if_pos ht]
      rcases hc : c.commit.run.run s with ⟨_ | ⟨⟨⟩⟩, s'⟩
      · rw [run_run_bind_of_error (Traversal.run_run_edit_of_eq hc x)]
        exact .refl x
      · rw [run_run_bind_of_ok (Traversal.run_run_edit_of_eq hc x),
          run_run_bind_of_ok (Traversal.run_run_modifyOwn _ _ _)]
        cases c.statement with
        | none => exact ⟨rfl, rfl⟩
        | some t => exact Converter.sameWarnings_made x c.name (s'.cell t).label

theorem commits_sameWarnings (candidates : List Candidate) (a : Store × Converter) :
    a.2.SameWarnings ((candidates.forM commit).run.run a).2.2 := by
  induction candidates generalizing a with
  | nil => exact .refl a.2
  | cons c candidates ih =>
      show a.2.SameWarnings ((commit c >>= fun _ => candidates.forM commit).run.run a).2.2
      have hfirst := commit_sameWarnings c a
      rcases hc : (commit c).run.run a with ⟨_ | ⟨⟨⟩⟩, b⟩
      · rw [hc] at hfirst
        rwa [run_run_bind_of_error hc]
      · rw [hc] at hfirst
        rw [run_run_bind_of_ok hc]
        exact hfirst.trans (ih b)

end Conversion

namespace Converter

variable {calls : List Warning.Call} {moments : List (Moment Converter)}

/-- The calls of a visit account for it, however it ends. -/
theorem Accounts.visit (m : Moment Converter) (h : m.before.2.Accounts calls) :
    ((Conversion.visit m.slot m.parent).run.run m.before).2.2.Accounts (calls ++ Conversion.calls m) := by
  obtain ⟨⟨s, x⟩, slot, parent⟩ := m
  cases hc : s.isContainer slot with
  | false =>
      have hnone : Conversion.calls ⟨(s, x), slot, parent⟩ = [] := by simp [Conversion.calls, hc]
      rw [hnone, List.append_nil]
      cases slot with
      | none => exact h
      | some t =>
          rw [visit_of_not_container hc]
          exact h
  | true =>
      have hcalls : Conversion.calls ⟨(s, x), slot, parent⟩ =
          x.calls ((detect s x.options slot).run.run []).2 := by simp [Conversion.calls, hc]
      rw [hcalls, visit_of_container hc]
      have hreports := h.reports ((detect s x.options slot).run.run []).2
      cases ((detect s x.options slot).run.run []).1 with
      | error fault => exact hreports
      | ok candidates => exact hreports.same (commits_sameWarnings candidates (s, _))

/-- The calls of all its visits account for a loop, however it ends. -/
theorem Accounts.traced {a b : Store × Converter} {stack left : List Pending}
    {result : Except Fault Unit} (h : Traced Conversion.visit a stack moments result b left)
    (ha : a.2.Accounts calls) : b.2.Accounts (calls ++ moments.flatMap Conversion.calls) := by
  induction h generalizing calls with
  | returned =>
      rw [List.flatMap_nil, List.append_nil]
      exact ha
  | @raised a b slot parent left fault here =>
      have hvisit := Accounts.visit ⟨a, slot, parent⟩ ha
      rw [here] at hvisit
      rwa [List.flatMap_singleton]
  | @absent a b parent left here =>
      have hvisit := Accounts.visit ⟨a, none, parent⟩ ha
      rw [here] at hvisit
      rwa [List.flatMap_singleton]
  | @next a b c t parent stack left moments result here _ ih =>
      have hvisit := Accounts.visit ⟨a, some t, parent⟩ ha
      rw [here] at hvisit
      rw [List.flatMap_cons, ← List.append_assoc]
      exact ih hvisit

end Converter

/-! ## Histories -/

namespace Session

variable {options : Options} {x : Session} {calls : List Warning.Call}

/-- A session that began with the options, and all calls to warn that were made since then: by its
runs, which end well or not, by single visits, and from outside, about a token and under any name.
In between, names are disabled and enabled, and all warnings silenced or not. -/
inductive History (options : Options) : List Warning.Call → Session → Prop where
  | start : History options [] (start options)
  | transform {calls : List Warning.Call} {x : Session} {root : Slot} {s s' : Store}
      {y : Converter} {left : List Pending} {moments : List (Moment Converter)}
      {result : Except Fault Unit} (h : History options calls x)
      (run : Traced Conversion.visit (s, { x.converter with classes := [] }) [(root, none)] moments
        result (s', y) left) :
      History options (calls ++ moments.flatMap Conversion.calls) ⟨y, left⟩
  | visit {calls : List Warning.Call} {x : Session} (h : History options calls x)
      (slot parent : Slot) (s : Store) :
      History options (calls ++ Conversion.calls ⟨(s, x.converter), slot, parent⟩)
        { x with converter := ((Conversion.visit slot parent).run.run (s, x.converter)).2.2 }
  | warn {calls : List Warning.Call} {x : Session} (h : History options calls x) (about : Label)
      (name message : String) :
      History options (calls ++ [x.converter.call about name message])
        { x with converter := (x.converter.warn (some about) name message).1 }
  | disable {calls : List Warning.Call} {x : Session} (h : History options calls x)
      (name : String) :
      History options calls
        { x with converter.reporter := x.converter.reporter.disable name }
  | enable {calls : List Warning.Call} {x : Session} (h : History options calls x)
      (name : String) :
      History options calls
        { x with converter.reporter := x.converter.reporter.enable name }
  | setSilent {calls : List Warning.Call} {x : Session} (h : History options calls x)
      (silent : Bool) :
      History options calls
        { x with converter.reporter := x.converter.reporter.setSilent silent }

/-- The calls account for a session, whatever was done with it. -/
theorem History.accounts (h : History options calls x) : x.converter.Accounts calls := by
  induction h with
  | start => exact Converter.accounts_start options
  | transform _ run ih => exact Converter.Accounts.traced run (ih.same ⟨rfl, rfl⟩)
  | visit _ slot parent s ih => exact Converter.Accounts.visit ⟨(s, _), slot, parent⟩ ih
  | warn _ about name message ih => exact ih.warn about name message
  | disable _ _ ih | enable _ _ ih | setSilent _ _ ih => exact ih.same ⟨rfl, rfl⟩

/-- Every run of the loop goes on with a history. -/
theorem History.transforms {x' : Session} {root : Slot} {s s' : Store} {visited : List TokenId}
    {result : Except Fault (List String)} (h : History options calls x)
    (run : x.Transforms root s visited result s' x') :
    ∃ more, History options (calls ++ more) x' := by
  obtain ⟨hends⟩ := run
  obtain ⟨moments, htraced⟩ := hends.exists_traced
  exact ⟨_, h.transform htraced⟩

/-- A session, whatever was done with it, and a kind of warning. The kind was counted once for each
call. The warnings in the log are what the calls wrote, in order; the calls of the kind wrote the
lines of the first `Reporter.limit` of them, except those that were made while the kind or all
warnings were disabled, and no more. -/
theorem History.warnings_written (h : History options calls x) (w : Warning) :
    x.converter.reporter.count w.name = (w.callsOf calls).length ∧
      x.converter.warnings = calls.flatMap Warning.Call.lines ∧
      (w.callsOf calls).flatMap Warning.Call.lines =
        (((w.callsOf calls).take Reporter.limit).filter (!·.muted)).map w.lineOf ∧
      ((w.callsOf calls).flatMap Warning.Call.lines).length ≤ Reporter.limit := by
  have haccounts := h.accounts
  refine ⟨haccounts.count w.name, haccounts.log, haccounts.written w, ?_⟩
  rw [haccounts.written w, List.length_map]
  calc (((w.callsOf calls).take Reporter.limit).filter (!·.muted)).length
      ≤ ((w.callsOf calls).take Reporter.limit).length := List.length_filter_le _ _
    _ ≤ Reporter.limit := List.length_take_le _ _

/-- There is a session that has converted the source file, and was asked twice to warn of a function
that is declared again, the second time after this was disabled. -/
theorem exists_history :
    ∃ (x : Session) (calls : List Warning.Call), History ⟨true, true⟩ calls x ∧
      x.converter.classes = ["Point"] ∧
      x.converter.reporter.count Warning.duplicateClass.name = 2 ∧
      x.converter.warnings.length = 1 := by
  obtain ⟨ids, hspans, hn⟩ := Conversion.pointFile_tree
  obtain ⟨visited, result, s', x', htransforms, htransform⟩ :=
    (Session.start ⟨true, true⟩).transforms_of_spans hspans hn
  have hrun : (Conversion.transform (some 14)).run.run (Conversion.pointFile, .start ⟨true, true⟩) =
      (result, (s', x'.converter)) := htransform
  have hconverter : ((Conversion.transform (some 14)).run.run
      (Conversion.pointFile, .start ⟨true, true⟩)).2.2 =
        ⟨⟨true, true⟩, .start, ["Point"], [Converter.convertedLine "Point" 1]⟩ := rfl
  rw [hrun] at hconverter
  obtain ⟨converter, stack⟩ := x'
  cases hconverter
  have hstart : History ⟨true, true⟩ [] (start ⟨true, true⟩) := .start
  obtain ⟨more, hhistory⟩ := hstart.transforms htransforms
  have hwarned := hhistory.warn (Conversion.pointFile.cell 4).label Warning.duplicateClass.name "Point"
  have hmuted := (hwarned.disable Warning.duplicateClass.name).warn
    (Conversion.pointFile.cell 13).label Warning.duplicateClass.name "Point"
  exact ⟨_, _, hmuted, rfl, rfl, rfl⟩

theorem History.warnings_written_pointFile :
    ∃ (x : Session) (calls : List Warning.Call), History ⟨true, true⟩ calls x ∧
      x.converter.classes = ["Point"] ∧
      x.converter.reporter.count Warning.duplicateClass.name = 2 ∧
      x.converter.warnings.length = 1 ∧
      (x.converter.reporter.count Warning.duplicateClass.name =
          (Warning.duplicateClass.callsOf calls).length ∧
        x.converter.warnings = calls.flatMap Warning.Call.lines ∧
        (Warning.duplicateClass.callsOf calls).flatMap Warning.Call.lines =
          (((Warning.duplicateClass.callsOf calls).take Reporter.limit).filter (!·.muted)).map
            Warning.duplicateClass.lineOf ∧
        ((Warning.duplicateClass.callsOf calls).flatMap Warning.Call.lines).length ≤
          Reporter.limit) := by
  obtain ⟨x, calls, hhistory, hclasses, hcount, hlines⟩ := exists_history
  exact ⟨x, calls, hhistory, hclasses, hcount, hlines,
    hhistory.warnings_written Warning.duplicateClass⟩

end Session

end ClassLift
