import Mathlib.Data.List.Chain
import Courier.Service.Shutdown

/-!
# Shutdown steps run in order

`runSteps` runs cleanup steps one after another under one time limit. The main statement
(`shutdown_runs_in_order`) says, for every list of steps and every starting time:

* there is one report per step, in the steps' order and under each step's name, and the reports
  are those `runShutdown` makes of the steps' completions;
* each step starts exactly when the one before it stopped, which is when that step returned or,
  at the latest, the time limit after it started;
* each step's outcome is completed, failed with its fault's text, or timed out, according to
  that step alone;
* each step runs as it would alone from its start, whatever the steps before it did, and makes
  no effect before its start or after its stop, so a dropped step does nothing once the next one
  has started.

All of it rests on two facts, each by induction along the steps: every run is its step's own
run from the run's start (`forall₂_runSteps`), and every step starts when the one before it
stopped (`isChain_runSteps`).
-/

namespace Courier.Service

variable {ε : Type} (limit : Nat)

@[simp] theorem reportStep_name (name : String) (c : Completion Unit) :
    (reportStep name c).name = name := by
  cases c <;> rfl

namespace Step

variable (s : Step ε)

theorem runTime_le : s.runTime limit ≤ limit := by
  unfold runTime
  split
  · exact Nat.min_le_right _ _
  · exact le_rfl

@[simp] theorem runAt_start (t : Nat) : (s.runAt limit t).start = t := rfl

@[simp] theorem runAt_stop (t : Nat) : (s.runAt limit t).stop = t + s.runTime limit := rfl

@[simp] theorem runAt_report (t : Nat) :
    (s.runAt limit t).report = reportStep s.name (s.completion limit) := rfl

theorem mem_runAt_effects {t : Nat} {e : Nat × ε} (he : e ∈ (s.runAt limit t).effects) :
    t ≤ e.1 ∧ e.1 ≤ t + s.runTime limit := by
  simp only [runAt, List.mem_map, List.mem_filter, decide_eq_true_eq] at he
  obtain ⟨e', ⟨-, hle⟩, rfl⟩ := he
  exact ⟨Nat.le_add_right _ _, Nat.add_le_add_left hle _⟩

theorem reportStep_completion_outcome :
    (reportStep s.name (s.completion limit)).outcome =
      match s.returns with
      | some (d, .ok ()) => if d ≤ limit then .completed else .timedOut
      | some (d, .error f) => if d ≤ limit then .failed f.message else .timedOut
      | none => .timedOut := by
  unfold completion
  rcases s.returns with _ | ⟨d, _ | f | ⟨⟩⟩
  · rfl
  · by_cases hd : d ≤ limit <;> simp [hd, reportStep]
  · by_cases hd : d ≤ limit <;> simp [hd, reportStep]

end Step

/-- One run per step, in order, each the step's own run from the run's start. -/
theorem forall₂_runSteps (now : Nat) (steps : List (Step ε)) :
    List.Forall₂ (fun r s => r = s.runAt limit r.start) (runSteps limit now steps) steps := by
  induction steps generalizing now with
  | nil => exact .nil
  | cons s rest ih => exact .cons rfl (ih _)

theorem exists_step_of_mem_runSteps {now : Nat} {steps : List (Step ε)} {r : StepRun ε}
    (hr : r ∈ runSteps limit now steps) : ∃ s ∈ steps, r = s.runAt limit r.start := by
  induction steps generalizing now with
  | nil => simp [runSteps] at hr
  | cons s rest ih =>
    rcases List.mem_cons.1 hr with rfl | hr
    · exact ⟨s, List.mem_cons_self, rfl⟩
    · obtain ⟨s', hs', hrun⟩ := ih hr
      exact ⟨s', List.mem_cons_of_mem _ hs', hrun⟩

theorem start_of_mem_head?_runSteps (now : Nat) (steps : List (Step ε)) :
    ∀ r ∈ (runSteps limit now steps).head?, r.start = now := by
  cases steps with
  | nil => simp [runSteps]
  | cons s rest => simp [runSteps]

/-- Each step starts when the one before it stopped. -/
theorem isChain_runSteps (now : Nat) (steps : List (Step ε)) :
    (runSteps limit now steps).IsChain (fun r r' => r'.start = r.stop) := by
  induction steps generalizing now with
  | nil => exact .nil
  | cons s rest ih =>
    simp only [runSteps]
    refine (ih _).cons fun r hr => ?_
    rw [start_of_mem_head?_runSteps limit _ rest r hr, Step.runAt_stop]

theorem map_report_runSteps (now : Nat) (steps : List (Step ε)) :
    (runSteps limit now steps).map (·.report) =
      runShutdown (steps.map fun s => (s.name, s.completion limit)) := by
  induction steps generalizing now with
  | nil => rfl
  | cons s rest ih => simp [runSteps, runShutdown, ih]

theorem stop_le_of_mem_runSteps (now : Nat) (steps : List (Step ε)) :
    ∀ r ∈ runSteps limit now steps, r.stop ≤ now + limit * steps.length := by
  induction steps generalizing now with
  | nil => simp [runSteps]
  | cons s rest ih =>
    intro r hr
    have hs := s.runTime_le limit
    rw [List.length_cons, Nat.mul_succ]
    rcases List.mem_cons.1 hr with rfl | hr
    · rw [Step.runAt_stop]
      omega
    · have := ih _ r hr
      omega

/-- Shutdown steps run one after another and each is reported on its own. There is one report
per step, in order and under the step's name, and the reports are those of the steps'
completions. The first step starts at once and each next one when the one before it stopped.
Every step runs as it would alone from its start, whatever the steps before it did: it stops when
it returns or at its time limit, and its outcome is read off the step itself. A step acts only
while it runs, so a step dropped at its limit does nothing once the next one has started. -/
theorem shutdown_runs_in_order (now : Nat) (steps : List (Step ε)) :
    (runSteps limit now steps).map (·.report) =
        runShutdown (steps.map fun s => (s.name, s.completion limit)) ∧
    (runSteps limit now steps).map (·.report.name) = steps.map (·.name) ∧
    (∀ r ∈ (runSteps limit now steps).head?, r.start = now) ∧
    (runSteps limit now steps).IsChain (fun r r' => r'.start = r.stop) ∧
    List.Forall₂ (fun r s => r = s.runAt limit r.start ∧
        r.stop = r.start + s.runTime limit ∧ s.runTime limit ≤ limit ∧
        r.report.outcome =
          match s.returns with
          | some (d, .ok ()) => if d ≤ limit then .completed else .timedOut
          | some (d, .error f) => if d ≤ limit then .failed f.message else .timedOut
          | none => .timedOut)
      (runSteps limit now steps) steps ∧
    (∀ r ∈ runSteps limit now steps, ∀ e ∈ r.effects, r.start ≤ e.1 ∧ e.1 ≤ r.stop) := by
  refine ⟨map_report_runSteps limit now steps, ?_, start_of_mem_head?_runSteps limit now steps,
    isChain_runSteps limit now steps, ?_, ?_⟩
  · simpa [runShutdown, Function.comp_def] using
      congrArg (List.map StepReport.name) (map_report_runSteps limit now steps)
  · refine (forall₂_runSteps limit now steps).imp fun r s hrun => ⟨hrun, ?_, s.runTime_le limit, ?_⟩
    · rw [hrun]
      rfl
    · rw [hrun, Step.runAt_report]
      exact s.reportStep_completion_outcome limit
  · intro r hr e he
    obtain ⟨s, -, hrun⟩ := exists_step_of_mem_runSteps limit hr
    rw [hrun] at he
    have hstop : r.stop = r.start + s.runTime limit := by rw [hrun]; rfl
    rw [hstop]
    exact s.mem_runAt_effects limit he

/- A step that would take longer than the limit is dropped at it, and the failing and the last
step start right then. -/
example :
    (runSteps 100 0
        [{ name := "consumer", effects := [(10000, "closed")], returns := some (10000, .ok ()) },
        { name := "broker connection", returns := some (0, .error (.broker "already closed")) },
        { name := "http server", effects := [(0, "stopped")], returns := some (0, .ok ()) }]).map
      (fun r => (r.start, r.stop, r.effects)) =
      [(0, 100, []), (100, 100, []), (100, 100, [(100, "stopped")])] := by
  decide

end Courier.Service
