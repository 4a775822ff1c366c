import Courier.Proofs.ConcurrentCalls

/-!
# Refused calls

A call through a breaker first asks to be let through. The breaker refuses it while it is open
and opened less than the reset timeout ago, or while it is half-open with its probe out
(`Circuit.Refuses`), and lets every other call through.

* A refused call is over at once with `CircuitOpen`: it does not run the operation, leaves every
  field of the circuit as it was and reports no change of state (`callWith_of_refuses`).
* Any other call runs the operation once, and what follows only records its completion: the call
  is the operation bound to a pure finish, whose result is the operation's own under the time
  limit (`callWith_of_not_refuses`).

The operation of `Circuit.callWith` is an action of any monad, so "runs the operation" means that
the action occurs in the call, and "does not run it" that the call is `pure`.
-/

namespace Courier.Breaker

namespace Circuit

/-- Whether the breaker refuses a call at `now`: it is open and opened less than the reset
timeout ago, or it is half-open with its probe out. -/
def Refuses (c : BreakerConfig) (now : Nat) (b : Circuit) : Prop :=
  (b.state = .open ∧ ∃ t ∈ b.openedAt, now - t < c.resetTimeoutMs * nanosPerMs) ∨
    (b.state = .halfOpen ∧ b.probeOut = true)

instance (c : BreakerConfig) (now : Nat) (b : Circuit) : Decidable (Refuses c now b) :=
  inferInstanceAs (Decidable (_ ∨ _))

variable {c : BreakerConfig} {service : String} {now : Nat} {b : Circuit}

theorem admit_of_refuses (h : Refuses c now b) :
    b.admit c service now = (.error (.circuitOpen service), b, []) := by
  rcases h with ⟨ho, t, ht, hyoung⟩ | ⟨hh, hp⟩
  · have ht' : b.openedAt = some t := ht
    unfold Circuit.admit
    simp only [ho, ht']
    have : ¬ (now - t ≥ c.resetTimeoutMs * nanosPerMs) := by omega
    simp [this]
  · exact admit_of_probeOut hh hp

theorem admit_of_not_refuses (service : String) (h : ¬ Refuses c now b) :
    ∃ adm b' ts, b.admit c service now = (.ok adm, b', ts) := by
  unfold Refuses at h
  unfold Circuit.admit
  cases hs : b.state
  · exact ⟨_, _, _, rfl⟩
  · cases ho : b.openedAt with
    | none => exact ⟨_, _, _, rfl⟩
    | some t =>
      have hcool : now - t ≥ c.resetTimeoutMs * nanosPerMs := by
        by_cases hlt : now - t < c.resetTimeoutMs * nanosPerMs
        · exact absurd (.inl ⟨hs, t, ho, hlt⟩) h
        · omega
      simp only [hcool, decide_true, ↓reduceIte]
      exact ⟨_, _, _, rfl⟩
  · have hp : b.probeOut = false := by
      cases hp : b.probeOut
      · rfl
      · exact absurd (.inr ⟨hs, hp⟩) h
    simp only [hp, Bool.false_eq_true, ↓reduceIte]
    exact ⟨_, _, _, rfl⟩

/-! ### The call -/

variable {m : Type → Type} [Monad m] {α : Type}

/-- A refused call does not run the operation: it answers `CircuitOpen` with the circuit as it
was, reports no change of state and ends when it started. -/
theorem callWith_of_refuses (h : Refuses c now b) (op : m (Completion α)) :
    b.callWith c service now op = pure (.error (.circuitOpen service), b, [], now) := by
  unfold callWith
  rw [admit_of_refuses h]

theorem callWith_of_admit {adm : Admission} {b' : Circuit} {ts : List (CircuitState × CircuitState)}
    (h : b.admit c service now = (.ok adm, b', ts)) (op : m (Completion α)) :
    b.callWith c service now op = op >>= fun o =>
      pure (timeLimited c service o,
        (b'.record c (endTime c now o) adm (isFailure (timeLimited c service o))).1,
        ts ++ (b'.record c (endTime c now o) adm (isFailure (timeLimited c service o))).2,
        endTime c now o) := by
  unfold callWith
  rw [h]

theorem callWith_of_not_refuses (service : String) (h : ¬ Refuses c now b) (op : m (Completion α)) :
    ∃ finish : Completion α → Except Fault α × Circuit × List (CircuitState × CircuitState) × Nat,
      (∀ o, (finish o).1 = timeLimited c service o) ∧
        b.callWith c service now op = op >>= fun o => pure (finish o) := by
  obtain ⟨adm, b', ts, hadm⟩ := admit_of_not_refuses service h
  exact ⟨_, fun _ => rfl, callWith_of_admit hadm op⟩

/-- A call through the breaker at `now` is refused exactly when the breaker `Refuses` it. In any
monad, a refused call is `pure`: it does not run the operation, answers `CircuitOpen`, leaves
every field of the circuit as it was and reports no change of state. Any other call runs the
operation exactly once and is otherwise pure, and its result is the operation's own result under
the time limit. -/
theorem refused_call_has_no_effect (c : BreakerConfig) (service : String) (now : Nat) (b : Circuit) :
    (Refuses c now b ↔
      ∀ {m : Type → Type} [Monad m] {α : Type} (op : m (Completion α)),
        b.callWith c service now op = pure (.error (.circuitOpen service), b, [], now)) ∧
    (¬ Refuses c now b →
      ∀ {m : Type → Type} [Monad m] {α : Type} (op : m (Completion α)),
        ∃ finish : Completion α → Except Fault α × Circuit × List (CircuitState × CircuitState) × Nat,
          (∀ o, (finish o).1 = timeLimited c service o) ∧
            b.callWith c service now op = op >>= fun o => pure (finish o)) := by
  refine ⟨⟨fun h _ _ _ op => callWith_of_refuses h op, fun hpure => ?_⟩,
    fun h _ _ _ op => callWith_of_not_refuses service h op⟩
  -- an operation that succeeds tells the two apart: let through, the call would succeed too
  by_cases h : Refuses c now b
  · exact h
  exfalso
  obtain ⟨finish, hres, hcall⟩ :=
    callWith_of_not_refuses (m := Id) service h (pure (Completion.done ()))
  have hdone : (finish (.done ())).1 = .error (.circuitOpen service) := by
    have := hpure (m := Id) (pure (Completion.done ()))
    rw [hcall] at this
    exact congrArg (·.1) this
  rw [hres] at hdone
  cases hdone

/-- An open breaker that opened at 0 refuses a call at 1 under the lenient settings without
running it; a closed breaker runs the call. -/
theorem young_open_breaker_refuses :
    Refuses .lenient 1 { state := .open, openedAt := some 0 } ∧
    (∀ op : Id (Completion Unit),
      Circuit.callWith .lenient "svc" 1 op { state := .open, openedAt := some 0 } =
        pure (.error (.circuitOpen "svc"), { state := .open, openedAt := some 0 }, [], 1)) ∧
    ¬ Refuses .lenient 1 {} ∧
    (∀ op : Id (Completion Unit), ∃ finish : Completion Unit →
        Except Fault Unit × Circuit × List (CircuitState × CircuitState) × Nat,
      (∀ o, (finish o).1 = timeLimited .lenient "svc" o) ∧
        Circuit.callWith .lenient "svc" 1 op {} = op >>= fun o => pure (finish o)) := by
  have hr : Refuses .lenient 1 { state := .open, openedAt := some 0 } := by decide
  have hc : ¬ Refuses .lenient 1 {} := by decide
  have ho := refused_call_has_no_effect .lenient "svc" 1 { state := .open, openedAt := some 0 }
  have hk := refused_call_has_no_effect .lenient "svc" 1 {}
  exact ⟨hr, fun op => ho.1.1 hr op, hc, fun op => hk.2 hc op⟩

end Circuit

end Courier.Breaker
