import Courier.Proofs.ConcurrentCalls

/-!
# Calls that end after a trip

A call admitted while the breaker is closed may end long after other calls tripped it. Its outcome
counts only if the breaker is closed when it ends: `Circuit.record` tells such a call by the state
it finds, and the breaker does not remember in which closed period the call was admitted.

* As long as no probe has closed the breaker again, the call changes nothing when it ends: no
  field of the circuit and no reported change of state (`stale_call_ignored`). Only the record of
  a probe that succeeded takes a tripped breaker back to closed (`step_stays_tripped`).
* Once a probe has closed the breaker, the outcome of a call admitted before the trip lands in the
  new window, and its failure can open the breaker again (`stale_failure_reopens`).

A run of one breaker is a sequence of its atomic steps, each taken under its lock: a call asks to
go out, a call's outcome is recorded, or a probe is dropped. `Circuit.run` gives the circuit after
them and the changes of state they report, in order.
-/

namespace Courier.Breaker

/-- One atomic step on a breaker: a call asks to go out at `now`; a call admitted as `adm` ends
at `now`, failed or not; a call admitted as `adm` is dropped before it ends. -/
inductive Event where
  | arrive (now : Nat)
  | finish (now : Nat) (adm : Admission) (failed : Bool)
  | drop (adm : Admission)

namespace Circuit

variable (c : BreakerConfig) (service : String)

/-- The circuit after one step, and the changes of state the step reports. -/
def step : Event → Circuit → Circuit × List (CircuitState × CircuitState)
  | .arrive now, b => Prod.snd <| b.admit c service now
  | .finish now adm failed, b => b.record c now adm failed
  | .drop adm, b => (b.abandon adm, [])

/-- The circuit after a run of steps, and the changes of state they report, in order. -/
def run : List Event → Circuit → Circuit × List (CircuitState × CircuitState)
  | [], b => (b, [])
  | e :: es, b =>
    let (b₁, ts₁) := b.step c service e
    let (b₂, ts₂) := b₁.run es
    (b₂, ts₁ ++ ts₂)

variable {c service}

@[simp] theorem run_nil (b : Circuit) : b.run c service [] = (b, []) := rfl

theorem run_cons (b : Circuit) (e : Event) (es : List Event) :
    b.run c service (e :: es) =
      (((b.step c service e).1.run c service es).1,
        (b.step c service e).2 ++ ((b.step c service e).1.run c service es).2) := rfl

/-! ### A tripped breaker stays tripped until a probe succeeds -/

theorem record_normal_of_ne_closed {b : Circuit} (hb : b.state ≠ .closed) (now : Nat)
    (failed : Bool) : b.record c now .normal failed = (b, []) := by
  cases hs : b.state
  · exact absurd hs hb
  all_goals simp [record, hs]

/-- A step that reports no change to closed leaves a breaker that is not closed not closed: only
the record of a probe that succeeds closes it, and that is reported. -/
theorem step_stays_tripped {b : Circuit} (hb : b.state ≠ .closed) (e : Event)
    (hts : ∀ x ∈ (b.step c service e).2, x.2 ≠ .closed) : (b.step c service e).1.state ≠ .closed := by
  cases e with
  | arrive now =>
    rcases admit_cases c service now b with ⟨hc, -⟩ | ⟨-, he⟩ | ⟨hh, -, he⟩ | ⟨-, he⟩
    · exact absurd hc hb
    · simp [step, he]
    · simp [step, he, hh]
    · simpa [step, he] using hb
  | finish now adm failed =>
    cases adm
    · simpa [step, record_normal_of_ne_closed hb] using hb
    · cases hs : b.state
      · exact absurd hs hb
      · -- the record of a probe that finds the breaker open only frees the slot
        simp [step, record, hs]
      · cases failed
        · -- a probe that succeeds closes the breaker, and reports it
          simp [step, record, hs] at hts
        · simp [step, record, hs, trip]
  | drop adm =>
    cases adm <;> simpa [step, abandon] using hb

/-- A run that reports no change to closed leaves a breaker that is not closed not closed. -/
theorem run_stays_tripped {b : Circuit} (hb : b.state ≠ .closed) (es : List Event)
    (hts : ∀ x ∈ (b.run c service es).2, x.2 ≠ .closed) : (b.run c service es).1.state ≠ .closed := by
  induction es generalizing b with
  | nil => exact hb
  | cons e es ih =>
    rw [run_cons] at hts ⊢
    have hstep := step_stays_tripped hb e fun x hx => hts x (List.mem_append_left _ hx)
    exact ih hstep fun x hx => hts x (List.mem_append_right _ hx)

/-- A call admitted while the breaker was closed leaves no trace when it ends after the breaker
tripped, as long as no probe has closed the breaker since. `b` is the circuit at any moment after
the trip, and `es` what other calls did from then on (arriving, ending or dropped) without the
breaker reporting that it closed: when the call then ends, the breaker is still open or half-open,
and the call's outcome changes no field of the circuit and reports no change of state. -/
theorem stale_call_ignored (c : BreakerConfig) (service : String) (b : Circuit)
    (hb : b.state ≠ .closed) (es : List Event)
    (hes : ∀ x ∈ (b.run c service es).2, x.2 ≠ .closed) (now : Nat) (failed : Bool) :
    (b.run c service es).1.state ≠ .closed ∧
      (b.run c service es).1.record c now .normal failed = ((b.run c service es).1, []) := by
  have hstill := run_stays_tripped hb es hes
  exact ⟨hstill, record_normal_of_ne_closed hstill now failed⟩

/-- A breaker that tripped at 1 and whose probe failed at 3: a call admitted before the trip and
ending at 4 is ignored. -/
theorem failed_probe_keeps_stale_call_out :
    let c : BreakerConfig := ⟨30000, 0, 50, 1, 3600000⟩
    let b : Circuit := (({} : Circuit).run c "svc" [.arrive 0, .arrive 1, .finish 1 .normal true]).1
    let es : List Event := [.arrive 2, .finish 3 .probe true]
    b.state ≠ .closed ∧ (∀ x ∈ (b.run c "svc" es).2, x.2 ≠ .closed) ∧
      ((b.run c "svc" es).1.state ≠ .closed ∧
        (b.run c "svc" es).1.record c 4 .normal true = ((b.run c "svc" es).1, [])) := by
  intro c b es
  have hb : b.state ≠ .closed := by decide
  have hes : ∀ x ∈ (b.run c "svc" es).2, x.2 ≠ .closed := by decide
  exact ⟨hb, hes, stale_call_ignored c "svc" b hb es hes 4 true⟩

/-- The failing run: a call admitted at 0 while the breaker is closed is still out when another
call's failure trips the breaker at 1 and a probe closes it again at 2. The first call's failure at
3 then counts in the new window and opens the breaker once more, although the breaker tripped
while that call was out. -/
theorem stale_failure_reopens :
    let c : BreakerConfig := ⟨30000, 0, 50, 1, 3600000⟩
    let run := ({} : Circuit).run c "svc"
      [.arrive 0, .arrive 1, .finish 1 .normal true, .arrive 2, .finish 2 .probe false]
    Circuit.admit c "svc" 0 {} = (.ok .normal, {}, []) ∧
      run.2 = [(.closed, .open), (.open, .halfOpen), (.halfOpen, .closed)] ∧
      (run.1.record c 3 .normal true).1.state = .open ∧
      (run.1.record c 3 .normal true).1.failureCount = 1 ∧
      (run.1.record c 3 .normal true).2 = [(.closed, .open)] :=
  ⟨rfl, rfl, rfl, rfl, rfl⟩

end Circuit

end Courier.Breaker
