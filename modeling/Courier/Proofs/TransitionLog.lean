import Mathlib.Data.List.Chain
import Courier.Proofs.StaleCalls

/-!
# The log of state changes

A breaker sends an event `(service, from, to)` for each change of its state, right after the step
that made the change. Admission, recording and dropping each run as one uninterrupted step, so
the events of a run come in the order of its steps. `changes` reads the changes off the states a
run passes through (`Circuit.states`), without looking at the events.

* A step keeps the state and sends nothing, or makes one move of the state machine (closed to
  open, open to half-open, half-open to open or to closed) and sends exactly that move
  (`step_report`).
* So the events of any run are the changes of state of the run, in order
  (`run_reports_eq_changes`): each change is sent once, with the states before and after it, and
  nothing is sent without a change.
* For a fresh breaker the log starts from closed, each event starts where the one before ended,
  and every event is a move of the state machine (`transition_log`).
-/

namespace Courier.Breaker

/-- The moves of a breaker's state machine. -/
inductive CircuitState.Moves : CircuitState → CircuitState → Prop
  | trip : CircuitState.Moves .closed .open
  | cool : CircuitState.Moves .open .halfOpen
  | reopen : CircuitState.Moves .halfOpen .open
  | restore : CircuitState.Moves .halfOpen .closed

theorem CircuitState.Moves.ne {a b : CircuitState} (h : a.Moves b) : a ≠ b := by
  cases h <;> decide

/-- The change from one state to the next, if they differ. -/
def change (a b : CircuitState) : List (CircuitState × CircuitState) :=
  if a = b then [] else [(a, b)]

/-- The changes in a sequence of states: each pair of neighbours that differ, in order. -/
def changes : List CircuitState → List (CircuitState × CircuitState)
  | a :: b :: rest => change a b ++ changes (b :: rest)
  | _ => []

/-! ### Changes in a sequence of states -/

@[simp] theorem change_self (a : CircuitState) : change a a = [] := by
  simp [change]

theorem change_of_ne {a b : CircuitState} (h : a ≠ b) : change a b = [(a, b)] := by
  simp [change, h]

theorem changes_head (a : CircuitState) (l : List CircuitState) :
    ∀ p ∈ (changes (a :: l)).head?, p.1 = a := by
  induction l generalizing a with
  | nil => simp [changes]
  | cons b rest ih =>
    intro p hp
    by_cases hab : a = b
    · subst hab
      simp only [changes, change_self, List.nil_append] at hp
      exact ih a p hp
    · simp only [changes, change_of_ne hab, List.singleton_append, List.head?_cons,
        Option.mem_def, Option.some.injEq] at hp
      rw [← hp]

theorem changes_chain (l : List CircuitState) : (changes l).IsChain fun p q => p.2 = q.1 := by
  induction l with
  | nil => simp [changes]
  | cons a l ih =>
    cases l with
    | nil => simp [changes]
    | cons b rest =>
      by_cases hab : a = b
      · subst hab
        simpa [changes] using ih
      · simp only [changes, change_of_ne hab, List.singleton_append, List.isChain_cons]
        exact ⟨fun q hq => (changes_head b rest q hq).symm, ih⟩

namespace Circuit

/-! ### One step -/

/-- What a step may do to the state, and what it sends: it keeps the state and sends nothing, or
it makes one move and sends that move. -/
def Reported (before after : CircuitState) (ts : List (CircuitState × CircuitState)) : Prop :=
  (after = before ∧ ts = []) ∨ (before.Moves after ∧ ts = [(before, after)])

theorem Reported.eq_change {a b : CircuitState} {ts : List (CircuitState × CircuitState)}
    (h : Reported a b ts) : ts = change a b := by
  rcases h with ⟨rfl, rfl⟩ | ⟨hm, rfl⟩
  · simp
  · rw [change_of_ne hm.ne]

theorem Reported.moves {a b : CircuitState} {ts : List (CircuitState × CircuitState)}
    (h : Reported a b ts) : ∀ p ∈ ts, p.1.Moves p.2 := by
  rcases h with ⟨-, rfl⟩ | ⟨hm, rfl⟩
  · simp
  · simpa using hm

theorem Reported.keep (a : CircuitState) : Reported a a [] := .inl ⟨rfl, rfl⟩

theorem Reported.move {a b : CircuitState} (h : a.Moves b) : Reported a b [(a, b)] := .inr ⟨h, rfl⟩

variable {c : BreakerConfig} {service : String}

theorem admit_reported {now : Nat} {b b' : Circuit} {r : Except Fault Admission}
    {ts : List (CircuitState × CircuitState)} (he : b.admit c service now = (r, b', ts)) :
    Reported b.state b'.state ts := by
  rcases admit_cases c service now b with ⟨-, he'⟩ | ⟨ho, he'⟩ | ⟨hh, -, he'⟩ | ⟨-, he'⟩ <;>
    rw [he', Prod.mk.injEq, Prod.mk.injEq] at he <;> obtain ⟨-, rfl, rfl⟩ := he
  · exact .keep _
  · rw [ho]
    exact .move .cool
  · rw [hh]
    exact .keep _
  · exact .keep _

theorem record_reported (now : Nat) (adm : Admission) (failed : Bool) (b : Circuit) :
    Reported b.state (b.record c now adm failed).1.state (b.record c now adm failed).2 := by
  unfold record
  split
  · -- the probe decides a half-open breaker
    rename_i hh
    rw [hh]
    split
    · exact .move .reopen
    · exact .move .restore
  · rename_i hc
    cases failed
    · exact .keep _
    · simp only [if_true, Bool.true_and]
      split
      · rw [hc]
        exact .move .trip
      · exact .keep _
  · exact .keep _
  · exact .keep _

@[simp] theorem abandon_state (adm : Admission) (b : Circuit) : (b.abandon adm).state = b.state := by
  cases adm <;> simp [abandon]

/-- Every step keeps the state and sends nothing, or makes one move and sends it. -/
theorem step_report (b : Circuit) (e : Event) :
    Reported b.state (b.step c service e).1.state (b.step c service e).2 := by
  cases e with
  | arrive now => exact admit_reported rfl
  | finish now adm failed => exact record_reported now adm failed b
  | drop adm =>
    simp only [step, abandon_state]
    exact .keep _

/-! ### Runs -/

variable (c service)

/-- The states a circuit passes through in a run, the first one included. -/
def states : List Event → Circuit → List CircuitState
  | [], b => [b.state]
  | e :: es, b => b.state :: (b.step c service e).1.states es

variable {c service}

theorem states_eq_cons (b : Circuit) (es : List Event) :
    ∃ l, b.states c service es = b.state :: l := by
  cases es <;> exact ⟨_, rfl⟩

/-- The events of a run are the changes of state along it. -/
theorem run_reports_eq_changes (b : Circuit) (es : List Event) :
    (b.run c service es).2 = changes (b.states c service es) := by
  induction es generalizing b with
  | nil => rfl
  | cons e es ih =>
    obtain ⟨l, hl⟩ := states_eq_cons (b.step c service e).1 es
    rw [run_cons, ih, (step_report b e).eq_change, states, hl, changes]

theorem run_reports_moves (b : Circuit) (es : List Event) :
    ∀ p ∈ (b.run c service es).2, p.1.Moves p.2 := by
  induction es generalizing b with
  | nil => simp
  | cons e es ih =>
    intro p hp
    rw [run_cons, List.mem_append] at hp
    rcases hp with hp | hp
    · exact (step_report b e).moves p hp
    · exact ih _ p hp

/-- The events that a fresh breaker sends in any run, in order: the changes of its state along
the run, each named by the service, with the states before and after it. The first starts from
closed, each starts where the one before ended, and each is one of the four moves of the state
machine. -/
theorem transition_log (c : BreakerConfig) (service : String) (es : List Event) :
    let log := named service (({} : Circuit).run c service es).2
    log = named service (changes (({} : Circuit).states c service es)) ∧
      (∀ t ∈ log.head?, t.source = .closed) ∧
      log.IsChain (fun t u => t.target = u.source) ∧
      ∀ t ∈ log, t.service = service ∧ t.source.Moves t.target := by
  intro log
  have hlog : log = named service (changes (({} : Circuit).states c service es)) := by
    simp only [log, run_reports_eq_changes]
  obtain ⟨l, hl⟩ : ∃ l, ({} : Circuit).states c service es = CircuitState.closed :: l :=
    states_eq_cons _ _
  refine ⟨hlog, ?_, ?_, ?_⟩
  · -- a fresh breaker is closed, and the first change starts from the first state
    intro t ht
    rw [hlog, hl, named, List.head?_map] at ht
    obtain ⟨p, hp, rfl⟩ := Option.map_eq_some_iff.1 ht
    exact changes_head _ l p hp
  · rw [hlog, named, List.isChain_map]
    exact changes_chain _
  · intro t ht
    obtain ⟨p, hp, rfl⟩ := List.mem_map.1 ht
    exact ⟨rfl, run_reports_moves {} es p hp⟩

/-- A breaker that trips, lets a probe out, loses it and lets the next caller probe sends two
events: the trip and the turn to half-open; admitting the second probe sends nothing. -/
example : (({} : Circuit).run .lenient "svc"
      [.arrive 0, .finish 0 .normal true, .arrive 1000000000, .drop .probe, .arrive 1000000001]).2 =
    [(.closed, .open), (.open, .halfOpen)] := by
  decide

end Circuit

end Courier.Breaker
