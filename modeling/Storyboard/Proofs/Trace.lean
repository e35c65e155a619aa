import Storyboard.Proofs.Call.Check
import Storyboard.Proofs.Call.Making
import Storyboard.Proofs.Text.Run
import Storyboard.Trace

/-!
# What traces tell

A trace marks the timeline before the call of a step, warns of the steps that are left out, and
numbers sections in the order of making.

## Main definitions

* `Trace.warningsFrom`: the warnings of events with numbers.
* `Trace.made?`, `Trace.used?`: the number of the section that a step makes or uses.

## Main statements

* `Trace.exists_calls`: the timeline is marked once for a step, before its call.
* `Trace.exists_warning_iff`, `Trace.exists_step_of_warning`: the steps that a trace warns of.
* `Trace.made?_inj`: no two steps make the same section.
-/

namespace Storyboard

namespace Trace

/-! ## Lines -/

theorem callee_invocation {name : String} (free : '(' ∉ name.toList) (arguments : List String)
    (rest : String) : callee (invocation name arguments ++ rest) = name := by
  rw [invocation, String.append_assoc, String.append_assoc, callee_append free]

theorem invocation_ne_markLine {name : String} (free : '(' ∉ name.toList)
    (other : name ≠ "mark_timeline_point") (arguments : List String) :
    invocation name arguments ≠ markLine := by
  intro equal
  have names := callee_invocation free arguments ""
  rw [String.append_empty, equal] at names
  exact other (names.symm.trans (by decide))

theorem line_ne_markLine (call : Call Nat) : line call ≠ markLine := by
  rcases call with call | call
  · cases call <;> exact invocation_ne_markLine (by decide) (by decide) _
  · cases call with
    | detach selection direction target =>
      intro equal
      have names := congrArg callee equal
      rw [line, linkedLine, String.append_assoc, callee_invocation (by decide)] at names
      revert names
      decide
    | _ => exact invocation_ne_markLine (by decide) (by decide) _

/-- The timeline is marked once for a step, before its call; a step that is left out makes none. -/
theorem exists_calls (event : Event Nat Nat) :
    ∃ calls, eventLines event = (if event.step.isMarked then [markLine] else []) ++ calls ∧
      markLine ∉ calls ∧ ∀ fault, event.result = .error fault → calls = [] := by
  unfold eventLines Step.isMarked
  cases event.step.isBlank with
  | true => exact ⟨[], by simp⟩
  | false =>
    rcases event.result with fault | (_ | call)
    · exact ⟨[], by simp⟩
    · exact ⟨[], by simp⟩
    · exact ⟨[line call], by simp [(line_ne_markLine call).symm]⟩

theorem getElem?_events {steps : List Step} {step : Step} {i : Nat} (at_ : steps[i]? = some step) :
    (events steps)[i]? =
      some (((Stage.start naming).afterAll naming (steps.take i)).event naming step) := by
  rw [events, Stage.getElem?_run, at_, Option.map_some]

/-- A trace warns of a step when the step is left out. -/
theorem exists_warning_iff {steps : List Step} {i : Nat} {event : Event Nat Nat}
    (h : (events steps)[i]? = some event) :
    (∃ w ∈ (play steps).warnings, w.index = i) ↔ ∃ fault, event.result = .error fault := by
  simp only [play, List.mem_filterMap, Prod.exists, List.mem_zipIdx_iff_getElem?]
  constructor
  · rintro ⟨w, ⟨event', index, at_, warned⟩, rfl⟩
    unfold warning? at warned
    split at warned
    next fault failed =>
      obtain rfl := Option.some.inj warned
      rw [h] at at_
      obtain rfl := Option.some.inj at_
      exact ⟨fault, failed⟩
    next => cases warned
  · rintro ⟨fault, failed⟩
    exact ⟨⟨i, event.step.op.kindName, fault⟩, ⟨event, i, h, by rw [warning?, failed]⟩, rfl⟩

/-! ## Warnings -/

/-- The warnings of events that are numbered from `first` on. -/
def warningsFrom (first : Nat) (events : List (Event Nat Nat)) : List Warning :=
  (events.zipIdx first).filterMap fun entry => warning? entry.1 entry.2

theorem warnings_play (steps : List Step) :
    (play steps).warnings = warningsFrom 0 (events steps) :=
  rfl

section Warnings

variable {first : Nat} {events more : List (Event Nat Nat)} {event : Event Nat Nat} {w : Warning}

theorem warningsFrom_append :
    warningsFrom first (events ++ more) =
      warningsFrom first events ++ warningsFrom (first + events.length) more := by
  simp [warningsFrom, List.zipIdx_append]

theorem warningsFrom_cons :
    warningsFrom first (event :: events) =
      (warning? event first).toList ++ warningsFrom (first + 1) events := by
  rw [warningsFrom, List.zipIdx_cons, List.filterMap_cons]
  cases warning? event first <;> rfl

theorem index_of_warning? (h : warning? event first = some w) : w.index = first := by
  unfold warning? at h
  split at h <;> cases h
  rfl

/-- Warnings have the numbers of their events. -/
theorem index_bounds (h : w ∈ warningsFrom first events) :
    first ≤ w.index ∧ w.index < first + events.length := by
  simp only [warningsFrom, List.mem_filterMap, Prod.exists] at h
  obtain ⟨event, index, mem, warned⟩ := h
  obtain ⟨least, lt, -⟩ := List.mem_zipIdx mem
  rw [index_of_warning? warned]
  exact ⟨least, lt⟩

/-- A trace gives the kind of a step that it warns of, and why the step is left out. -/
theorem exists_step_of_warning {steps : List Step} (h : w ∈ (play steps).warnings) :
    ∃ (stage : Stage Nat Nat) (step : Step), steps[w.index]? = some step ∧
      w.kind = step.op.kindName ∧ stage.apply naming step.op = .error w.fault := by
  simp only [play, List.mem_filterMap, Prod.exists, List.mem_zipIdx_iff_getElem?] at h
  obtain ⟨event, index, at_, warned⟩ := h
  rw [Trace.events, Stage.getElem?_run, Option.map_eq_some_iff] at at_
  obtain ⟨step, at_, rfl⟩ := at_
  unfold warning? at warned
  split at warned
  next fault failed =>
    obtain rfl := Option.some.inj warned
    exact ⟨_, step, at_, rfl, Stage.event_result_eq_error_iff.1 failed⟩
  next => cases warned

end Warnings

/-! ## Sections -/

/-- The number of the section that the step at an index makes. -/
def made? (steps : List Step) (i : Nat) : Option Nat :=
  (events steps)[i]?.bind Event.made?

/-- The number of the section that the step at an index uses. -/
def used? (steps : List Step) (i : Nat) : Option Nat :=
  (events steps)[i]?.bind Event.used?

theorem state_eq (links : List Link) : naming.state links = links.length := by
  induction links using List.reverseRecOn with
  | nil => rfl
  | append_singleton links link ih =>
    rw [Naming.state_concat, ih, List.length_append]
    rfl

/-- Sections are numbered in the order of making. -/
theorem name_eq : naming.name = fun making => making.1.length :=
  funext fun making => state_eq making.1

theorem events_eq (steps : List Step) :
    events steps = (Makings.events steps).map (Event.map naming.name naming.state) :=
  Stage.run_eq_map_history naming steps

variable (steps : List Step) (i : Nat)

theorem made?_eq : made? steps i = (Makings.made? steps i).map (·.1.length) := by
  simp [made?, Makings.made?, events_eq, Option.bind_map, Option.map_bind,
    Event.made?_map, name_eq]

theorem used?_eq : used? steps i = (Makings.used? steps i).map (·.1.length) := by
  simp [used?, Makings.used?, events_eq, Option.bind_map, Option.map_bind,
    Event.used?_map, name_eq]

variable {steps i}

/-- A step about a section that is not left out and makes none uses one. -/
theorem exists_used {key : String} (about : keyAt steps i = some key)
    (applied : ∀ w ∈ (play steps).warnings, w.index ≠ i) (consumes : made? steps i = none) :
    ∃ k, used? steps i = some k := by
  obtain ⟨link, asked, -⟩ := Option.map_eq_some_iff.1 about
  obtain ⟨step, at_, asked⟩ := Option.bind_eq_some_iff.1 asked
  have event := Stage.getElem?_run naming (Stage.start naming) steps i
  rw [at_, Option.map_some] at event
  have result := mt (exists_warning_iff event).2 (by simpa using applied)
  rw [made?, events, event, Option.bind_some] at consumes
  rw [used?, events, event, Option.bind_some]
  refine Stage.exists_used asked (fun fault failed => result ⟨fault, ?_⟩) consumes
  rw [Stage.event, failed]
  rfl

/-- No two steps make the same section. -/
theorem made?_inj {j k : Nat} (h : made? steps i = some k) (h' : made? steps j = some k) :
    i = j := by
  rw [made?_eq, Option.map_eq_some_iff] at h h'
  obtain ⟨made, makes, rfl⟩ := h
  obtain ⟨other, makes', same⟩ := h'
  rcases Nat.lt_trichotomy i j with lt | equal | lt
  · have := Makings.length_lt_of_made lt makes makes'
    omega
  · exact equal
  · have := Makings.length_lt_of_made lt makes' makes
    omega

end Trace

end Storyboard
