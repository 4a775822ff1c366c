import Mathlib
import Courier.Service.Retry

/-!
# Retrying until a call succeeds

`retryWithBackoff` calls an operation until a call succeeds or `maxAttempts` calls were made,
checking the count only after a failure, so one call is made even when `maxAttempts` is 0.
Between two calls it waits, first `initialDelayMs`, then each time the wait before times the
multiplier (stopping at the largest 64-bit value), at most `maxDelayMs` (`backoffDelay`); the cap
is applied only from the second wait on, so a first delay above it is waited in full.

The loop is fuelled by `maxAttempts`. `go_step` says what one turn of it does; `LastCall` says
which call is the last one, and `retryWithBackoff_of_lastCall` carries the turn along every call
before it. The number of calls is then the first success, counted from 1, cut at
`max 1 maxAttempts` (`LastCall.min_firstSuccess`), and it only depends on the results of the calls
it makes (`LastCall.congr`).
-/

namespace Courier.Service

variable {α : Type} (c : RetryConfig) (call : Nat → Outcome α)

/-- The wait before the retry after the `j`-th call (from 0), before the random part: the initial
delay, then each time the one before times the multiplier, stopping at `retryDelayCap`, and at
most `maxDelayMs`. -/
def backoffDelay : Nat → Nat
  | 0 => c.initialDelayMs
  | j + 1 => min (min (backoffDelay j * c.backoffMultiplier) retryDelayCap) c.maxDelayMs

/-- The number of the first call that succeeds, counting from 1, or `⊤` when every call fails. -/
noncomputable def firstSuccess : ℕ∞ :=
  open Classical in
  if h : ∃ i, (call i).isOk = true then ((Nat.find h + 1 : Nat) : ℕ∞) else ⊤

/-- The `n`-th call is the last one: every call before it failed, and it succeeded or was the last
allowed. -/
structure LastCall (n : Nat) : Prop where
  pos : 1 ≤ n
  le : n ≤ max 1 c.maxAttempts
  failed : ∀ i < n - 1, (call i).isOk = false
  stops : (call (n - 1)).isOk = true ∨ n = max 1 c.maxAttempts

/-! ### One turn of the loop -/

/-- The call numbered `j`, with the fuel left for it, ends the loop when it succeeds or is the last
allowed; otherwise the loop goes on with the next call and the next wait. -/
theorem go_step {j : Nat} (hj : j < max 1 c.maxAttempts) (d : Nat) (waits : List Nat) :
    retryWithBackoff.go c call j d waits (c.maxAttempts - j) =
      if (call j).isOk = true ∨ j + 1 = max 1 c.maxAttempts then ⟨call j, j + 1, waits.reverse⟩
      else retryWithBackoff.go c call (j + 1)
        (min (min (d * c.backoffMultiplier) retryDelayCap) c.maxDelayMs) (d :: waits)
        (c.maxAttempts - (j + 1)) := by
  rcases Nat.eq_zero_or_pos c.maxAttempts with hz | hpos
  · -- no attempts allowed: the one call is made on no fuel at all
    have hj0 : j = 0 := by omega
    subst hj0
    simp [retryWithBackoff.go, hz]
  · obtain ⟨f, hf⟩ : ∃ f, c.maxAttempts - j = f + 1 := ⟨c.maxAttempts - j - 1, by omega⟩
    rw [hf]
    cases hcall : call j with
    | ok x => simp [retryWithBackoff.go, hcall, Except.isOk, Except.toBool]
    | error e =>
      by_cases hlast : j + 1 ≥ c.maxAttempts
      · have : j + 1 = max 1 c.maxAttempts := by omega
        simp [retryWithBackoff.go, hcall, this]
      · have hne : j + 1 ≠ max 1 c.maxAttempts := by omega
        have hfuel : c.maxAttempts - (j + 1) = f := by omega
        simp [retryWithBackoff.go, hcall, hlast, hne, hfuel, Except.isOk, Except.toBool]

/-! ### A whole run -/

variable {c call}

theorem waits_succ (j : Nat) :
    backoffDelay c j :: ((List.range j).map (backoffDelay c)).reverse =
      ((List.range (j + 1)).map (backoffDelay c)).reverse := by
  simp [List.range_succ]

/-- When the `n`-th call is the last, the loop started at any earlier call, with that call's wait
and the waits before it, makes the calls up to the `n`-th and returns its result. -/
theorem go_of_lastCall {n : Nat} (h : LastCall c call n) (k : Nat) :
    ∀ j, j + k = n - 1 →
      retryWithBackoff.go c call j (backoffDelay c j)
          ((List.range j).map (backoffDelay c)).reverse (c.maxAttempts - j) =
        ⟨call (n - 1), n, (List.range (n - 1)).map (backoffDelay c)⟩ := by
  have hn := h.pos
  have hle := h.le
  -- induction on the number of calls left after the `j`-th
  induction k with
  | zero =>
    intro j hj
    have hj' : j = n - 1 := by omega
    subst hj'
    have hstop : (call (n - 1)).isOk = true ∨ n - 1 + 1 = max 1 c.maxAttempts := by
      rcases h.stops with hs | hs
      · exact .inl hs
      · exact .inr (by omega)
    rw [go_step c call (j := n - 1) (by omega), if_pos hstop, List.reverse_reverse]
    congr 1
    omega
  | succ k ih =>
    intro j hj
    have hfail : (call j).isOk = false := h.failed j (by omega)
    have hmore : ¬ ((call j).isOk = true ∨ j + 1 = max 1 c.maxAttempts) := by
      simp only [hfail, Bool.false_eq_true, false_or]
      omega
    rw [go_step c call (j := j) (by omega), if_neg hmore, waits_succ]
    exact ih (j + 1) (by omega)

theorem retryWithBackoff_of_lastCall {n : Nat} (h : LastCall c call n) :
    retryWithBackoff c call = ⟨call (n - 1), n, (List.range (n - 1)).map (backoffDelay c)⟩ :=
  go_of_lastCall h (n - 1) 0 (by omega)

variable (c call)

theorem exists_lastCall : ∃ n, LastCall c call n := by
  classical
  have hex : ∃ i, (call i).isOk = true ∨ i + 1 = max 1 c.maxAttempts :=
    ⟨max 1 c.maxAttempts - 1, .inr (by omega)⟩
  have hspec := Nat.find_spec hex
  have hfirst : ∀ i < Nat.find hex, ¬ ((call i).isOk = true ∨ i + 1 = max 1 c.maxAttempts) :=
    fun i hi => Nat.find_min hex hi
  have hbound : Nat.find hex + 1 ≤ max 1 c.maxAttempts := by
    have := Nat.find_min' hex (m := max 1 c.maxAttempts - 1) (.inr (by omega))
    omega
  refine ⟨Nat.find hex + 1, by omega, hbound, fun i hi => ?_, ?_⟩
  · have := hfirst i (by omega)
    simp only [not_or, Bool.not_eq_true] at this
    exact this.1
  · simpa using hspec

variable {c call}

theorem LastCall.min_firstSuccess {n : Nat} (h : LastCall c call n) :
    min (firstSuccess call) ((max 1 c.maxAttempts : Nat) : ℕ∞) = n := by
  classical
  have hn := h.pos
  unfold firstSuccess
  split
  · rename_i hex
    have hge : n - 1 ≤ Nat.find hex :=
      Nat.le_of_not_lt fun hlt => by
        have := h.failed _ hlt
        rw [Nat.find_spec hex] at this
        cases this
    rcases h.stops with hs | hs
    · have hfind : Nat.find hex = n - 1 := le_antisymm (Nat.find_min' hex hs) hge
      rw [hfind, Nat.sub_add_cancel hn]
      exact min_eq_left (Nat.cast_le.2 h.le)
    · rw [hs]
      exact min_eq_right (Nat.cast_le.2 (by omega))
  · rename_i hnone
    have hs : n = max 1 c.maxAttempts := by
      rcases h.stops with hs | hs
      · exact absurd ⟨_, hs⟩ hnone
      · exact hs
    rw [hs]
    exact min_eq_right le_top

theorem LastCall.congr {n : Nat} (h : LastCall c call n) {call' : Nat → Outcome α}
    (heq : ∀ i < n, call' i = call i) : LastCall c call' n where
  pos := h.pos
  le := h.le
  failed i hi := by rw [heq i (by omega)]; exact h.failed i hi
  stops := by rw [heq (n - 1) (by have := h.pos; omega)]; exact h.stops

/-- Retrying an operation whose `i`-th call (from 0) returns `call i`, where `N` is the first
success counted from 1 (`⊤` if none), cut at `max 1 maxAttempts`: it makes exactly `N` calls, in
the sense that it returns the `N`-th call's result and nothing changes when the later calls would
return anything else; it waits exactly `N - 1` times, the `j`-th wait being the `j`-th delay of
`backoffDelay`; and the count of calls never passes `max 1 maxAttempts`, so a 32-bit counter
holds it whenever `maxAttempts` is a 32-bit number. -/
theorem retry_calls_until_success (c : RetryConfig) (call : Nat → Outcome α) :
    let run := retryWithBackoff c call
    (run.attempts : ℕ∞) = min (firstSuccess call) ((max 1 c.maxAttempts : Nat) : ℕ∞) ∧
    run.result = call (run.attempts - 1) ∧
    (∀ call' : Nat → Outcome α, (∀ i < run.attempts, call' i = call i) →
      retryWithBackoff c call' = run) ∧
    run.waits = (List.range (run.attempts - 1)).map (backoffDelay c) ∧
    run.attempts ≤ max 1 c.maxAttempts := by
  intro run
  obtain ⟨n, h⟩ := exists_lastCall c call
  have hrun : run = ⟨call (n - 1), n, (List.range (n - 1)).map (backoffDelay c)⟩ :=
    retryWithBackoff_of_lastCall h
  rw [hrun]
  refine ⟨h.min_firstSuccess.symm, rfl, fun call' heq => ?_, rfl, h.le⟩
  have hlast : n - 1 < n := by have := h.pos; omega
  rw [retryWithBackoff_of_lastCall (h.congr heq), heq (n - 1) hlast]

end Courier.Service
