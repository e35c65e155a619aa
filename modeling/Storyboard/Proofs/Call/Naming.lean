import Storyboard.Call.Link
import Storyboard.Proofs.Outcome

/-!
# Naming of sections

Links are followed in the same way whatever sections are called. So there is one naming that all
others are images of: it calls a section by the links of the sections made before it and its own.
What a run does is settled there once, and back ends only differ by how they read such a history.

## Main definitions

* `Naming.history`: sections called by the links that lead up to them.
* `Naming.name`, `Naming.state`: how a naming reads a history.

## Main statements

* `Stage.run_eq_map_history`: every run is an image of the run over histories.
* `Stage.exists_apply_error_iff`, `Stage.keys_afterAll`: what all namings have in common.
* `Stage.getElem?_run`, `Stage.run_append`: what the step at an index does, and what runs in two
  parts do.
-/

namespace Storyboard

variable {σ τ S T : Type}

/-! ## Renaming -/

/-- The call with its section renamed. -/
def LinkedCall.map (f : σ → τ) : LinkedCall σ → LinkedCall τ
  | .detach selection direction target => .detach selection direction (f target)
  | .merge selection direction target => .merge selection direction (f target)
  | .hide target direction => .hide (f target) direction
  | .rotate target rotation duration => .rotate (f target) rotation duration
  | .move target offset duration => .move (f target) offset duration

def Call.map (f : σ → τ) : Call σ → Call τ
  | .plain call => .plain call
  | .linked call => .linked (call.map f)

/-- The stage with its sections renamed by `f` and the state of its naming read by `g`. -/
def Stage.map (f : σ → τ) (g : S → T) (stage : Stage σ S) : Stage τ T :=
  ⟨stage.sections.map fun entry => (entry.1, f entry.2), g stage.names⟩

def Event.map (f : σ → τ) (g : S → T) (event : Event σ S) : Event τ T :=
  ⟨event.before.map f g, event.step, event.result.map (Option.map (Call.map f))⟩

namespace Naming

/-- The second naming calls sections as the first one does, renamed by `f`. -/
structure Maps (n : Naming σ S) (n' : Naming τ T) (f : σ → τ) (g : S → T) : Prop where
  start : n'.start = g n.start
  next : ∀ s link, n'.next (g s) link = (f (n.next s link).1, g (n.next s link).2)

end Naming

namespace Stage

variable {n : Naming σ S} {n' : Naming τ T} {f : σ → τ} {g : S → T} {stage : Stage σ S}

theorem find?_map (stage : Stage σ S) (link : Link) :
    (stage.map f g).find? link = (stage.find? link).map f := by
  simp only [find?, map]
  induction stage.sections with
  | nil => rfl
  | cons entry rest ih =>
    obtain ⟨key, target⟩ := entry
    simp only [List.map_cons, List.lookup_cons]
    cases linkKey link == key <;> simp [ih]

theorem detach_map (maps : n.Maps n' f g) (stage : Stage σ S) (selection : Selection)
    (direction : Direction) (link : Link) :
    (stage.map f g).detach n' selection direction link =
      ((stage.detach n selection direction link).1.map f,
        (stage.detach n selection direction link).2.map f g) := by
  simp [detach, map, maps.next, LinkedCall.map]

theorem follow_map (maps : n.Maps n' f g) (stage : Stage σ S) (call : LinkedCall Link) :
    (stage.map f g).follow n' call =
      (stage.follow n call).map fun (call, stage) => (call.map f, stage.map f g) := by
  cases call with
  | detach selection direction link => simp only [follow, detach_map maps, Except.map]
  | merge selection direction link =>
    simp only [follow, find?_map]
    cases stage.find? link with
    | none => simp only [Option.map_none, detach_map maps, Except.map]
    | some target => rfl
  | hide link | rotate link | move link =>
    simp only [follow, find, find?_map]
    cases stage.find? link <;> rfl

/-- Renaming sections before an instruction or after it is the same. -/
theorem apply_map (maps : n.Maps n' f g) (stage : Stage σ S) (op : Op) :
    (stage.map f g).apply n' op =
      (stage.apply n op).map fun (call, stage) => (call.map (Call.map f), stage.map f g) := by
  simp only [apply]
  rcases op.call with fault | (_ | (call | call))
  · rfl
  · rfl
  · rfl
  · simp only [follow_map maps]
    cases stage.follow n call <;> rfl

theorem after_map (maps : n.Maps n' f g) (stage : Stage σ S) (op : Op) :
    (stage.map f g).after n' op = (stage.after n op).map f g := by
  simp only [after, apply_map maps]
  cases stage.apply n op <;> rfl

/-- The stage after a list of steps. -/
def afterAll (n : Naming σ S) (stage : Stage σ S) (steps : List Step) : Stage σ S :=
  steps.foldl (fun stage step => stage.after n step.op) stage

/-- What a step does on a stage. -/
def event (n : Naming σ S) (stage : Stage σ S) (step : Step) : Event σ S :=
  ⟨stage, step, (stage.apply n step.op).map (·.1)⟩

theorem event_result_eq_ok_iff {step : Step} {call : Option (Call σ)} :
    (stage.event n step).result = .ok call ↔
      ∃ after, stage.apply n step.op = .ok (call, after) := by
  unfold event
  cases stage.apply n step.op <;> simp [Except.map, Prod.ext_iff]

theorem event_result_eq_error_iff {step : Step} {fault : Fault} :
    (stage.event n step).result = .error fault ↔ stage.apply n step.op = .error fault := by
  unfold event
  cases stage.apply n step.op <;> simp [Except.map]

theorem run_cons (n : Naming σ S) (stage : Stage σ S) (step : Step) (steps : List Step) :
    stage.run n (step :: steps) = stage.event n step :: (stage.after n step.op).run n steps :=
  rfl

theorem event_map (maps : n.Maps n' f g) (stage : Stage σ S) (step : Step) :
    (stage.map f g).event n' step = (stage.event n step).map f g := by
  simp only [event, Event.map, apply_map maps]
  cases stage.apply n step.op <;> rfl

theorem run_map (maps : n.Maps n' f g) (stage : Stage σ S) (steps : List Step) :
    (stage.map f g).run n' steps = (stage.run n steps).map (Event.map f g) := by
  induction steps generalizing stage with
  | nil => rfl
  | cons step steps ih =>
    rw [run, run, List.map_cons, after_map maps, ih]
    exact congrArg (· :: _) (event_map maps stage step)

theorem afterAll_map (maps : n.Maps n' f g) (stage : Stage σ S) (steps : List Step) :
    (stage.map f g).afterAll n' steps = (stage.afterAll n steps).map f g := by
  induction steps generalizing stage with
  | nil => rfl
  | cons step steps ih =>
    simp only [afterAll, List.foldl_cons, after_map maps] at ih ⊢
    exact ih _

/-- What the step at an index does: it meets the stage after the steps before it. -/
theorem getElem?_run (n : Naming σ S) (stage : Stage σ S) (steps : List Step) (i : Nat) :
    (stage.run n steps)[i]? = steps[i]?.map ((stage.afterAll n (steps.take i)).event n) := by
  induction steps generalizing stage i with
  | nil => simp [run]
  | cons step steps ih =>
    cases i with
    | zero => simp [run, afterAll, event]
    | succ i => simp [run, ih, afterAll]

/-- The second part of a run starts on the stage that the first part ends on. -/
theorem run_append (n : Naming σ S) (stage : Stage σ S) (steps more : List Step) :
    stage.run n (steps ++ more) = stage.run n steps ++ (stage.afterAll n steps).run n more := by
  induction steps generalizing stage with
  | nil => rfl
  | cons step steps ih => simp [run, ih, afterAll]

theorem length_run (n : Naming σ S) (stage : Stage σ S) (steps : List Step) :
    (stage.run n steps).length = steps.length := by
  induction steps generalizing stage with
  | nil => rfl
  | cons step steps ih => simp [run, ih]

theorem afterAll_take_succ {n : Naming σ S} {stage : Stage σ S} {steps : List Step} {i : Nat}
    {step : Step} (h : steps[i]? = some step) :
    stage.afterAll n (steps.take (i + 1)) = (stage.afterAll n (steps.take i)).after n step.op := by
  simp [afterAll, List.take_add_one, h]

end Stage

/-! ## Histories -/

namespace Naming

/-- A section called by the links of the sections made before it, the first one first, and by its
own link. -/
abbrev Making := List Link × Link

/-- Sections called by the links that lead up to them. -/
def history : Naming Making (List Link) where
  start := []
  next links link := ((links, link), links ++ [link])

/-- The state of a naming after sections have been made for some links. -/
def state (n : Naming σ S) (links : List Link) : S :=
  links.foldl (fun s link => (n.next s link).2) n.start

/-- What a naming calls a section. -/
def name (n : Naming σ S) (making : Making) : σ :=
  (n.next (n.state making.1) making.2).1

theorem state_concat (n : Naming σ S) (links : List Link) (link : Link) :
    n.state (links ++ [link]) = (n.next (n.state links) link).2 := by
  simp [state]

/-- Every naming reads histories. -/
theorem maps_history (n : Naming σ S) : history.Maps n n.name n.state where
  start := rfl
  next links link := by simp [history, name, state_concat]

end Naming

/-- Every run is an image of the run over histories. -/
theorem Stage.run_eq_map_history (n : Naming σ S) (steps : List Step) :
    (Stage.start n).run n steps =
      ((Stage.start .history).run .history steps).map (Event.map n.name n.state) :=
  run_map n.maps_history (Stage.start .history) steps

theorem Stage.afterAll_eq_map_history (n : Naming σ S) (steps : List Step) :
    (Stage.start n).afterAll n steps =
      ((Stage.start .history).afterAll .history steps).map n.name n.state :=
  afterAll_map n.maps_history (Stage.start .history) steps

/-- What is left out does not depend on how sections are called. -/
theorem Stage.exists_apply_error_iff (n : Naming σ S) (n' : Naming τ T) (steps : List Step)
    (op : Op) :
    (∃ fault, ((Stage.start n).afterAll n steps).apply n op = .error fault) ↔
      ∃ fault, ((Stage.start n').afterAll n' steps).apply n' op = .error fault := by
  rw [afterAll_eq_map_history n, afterAll_eq_map_history n', apply_map n.maps_history,
    apply_map n'.maps_history]
  cases ((Stage.start Naming.history).afterAll Naming.history steps).apply .history op <;>
    simp [Except.map]

/-- The keys of links do not depend on how sections are called. -/
theorem Stage.keys_afterAll (n : Naming σ S) (n' : Naming τ T) (steps : List Step) :
    ((Stage.start n).afterAll n steps).sections.map Prod.fst =
      ((Stage.start n').afterAll n' steps).sections.map Prod.fst := by
  rw [afterAll_eq_map_history n, afterAll_eq_map_history n']
  simp [Stage.map, Function.comp_def]

end Storyboard
