import Mathlib.Logic.Relation
import Courier.Breaker.Circuit

/-!
# Concurrent calls through one breaker

`Registry.call` runs one call from its admission to the record of its outcome. Many calls share a
breaker, and each touches the breaker's state only under its lock: when it is admitted, when its
outcome is recorded, and when a call admitted as the probe is dropped before it ends. Here those
three are the atomic steps of a `Shared` breaker, whose state also lists how each call that is
still out was admitted; a run is any interleaving of them, with any outcomes and any clock
readings.

The invariant `Shared.Safe` holds in every reachable state (`reachable_safe`):

* a probe is out only while the breaker is half-open;
* while the probe slot is taken exactly one call admitted as the probe is out, and none otherwise;
* an open breaker knows when it opened;
* only a closed breaker keeps outcomes.

So the record of a probe always finds the breaker half-open, every caller arriving while a probe
is out is refused, and of a burst of callers arriving after the reset timeout exactly the first
becomes the probe (`reachable_calls_safe`).
-/

namespace Courier.Breaker

namespace Circuit

variable {c : BreakerConfig} {service : String} {now : Nat} {b : Circuit}

/-- The facts about a breaker's own fields that every step keeps. -/
structure Sound (b : Circuit) : Prop where
  halfOpen_of_probeOut : b.probeOut = true → b.state = .halfOpen
  openedAt_of_open : b.state = .open → b.openedAt.isSome
  window_of_ne_closed : b.state ≠ .closed → b.window = []

theorem sound_empty : ({} : Circuit).Sound :=
  ⟨by simp, by simp, by simp⟩

theorem Sound.probeOut_eq_false (h : b.Sound) (hs : b.state ≠ .halfOpen) : b.probeOut = false := by
  cases hp : b.probeOut
  · rfl
  · exact absurd (h.halfOpen_of_probeOut hp) hs

/-! ### What each operation does to the fields -/

/-- Admission lets a call through a closed breaker as it is, makes the probe of an open breaker
(when it has cooled down) or of a half-open one whose slot is free, or refuses the call and
changes nothing. -/
theorem admit_cases (c : BreakerConfig) (service : String) (now : Nat) (b : Circuit) :
    (b.state = .closed ∧ b.admit c service now = (.ok .normal, b, [])) ∨
    (b.state = .open ∧
      b.admit c service now =
        (.ok .probe, { b with state := .halfOpen, probeOut := true }, [(.open, .halfOpen)])) ∨
    (b.state = .halfOpen ∧ b.probeOut = false ∧
      b.admit c service now = (.ok .probe, { b with probeOut := true }, [])) ∨
    (b.state ≠ .closed ∧ b.admit c service now = (.error (.circuitOpen service), b, [])) := by
  unfold Circuit.admit
  split
  · left; simp_all
  · -- an open breaker makes the probe once it has cooled down, and refuses before
    rename_i hs
    split
    · rename_i t _
      by_cases hc : c.resetTimeoutMs * nanosPerMs ≤ now - t
      · right; left; simp_all
      · right; right; right; simp_all
    · right; left; simp_all
  · rename_i hs
    split
    · right; right; right; simp_all
    · right; right; left; simp_all

theorem admit_of_cooled (hs : b.state = .open)
    (hc : ∀ t ∈ b.openedAt, t + c.resetTimeoutMs * nanosPerMs ≤ now) :
    b.admit c service now =
      (.ok .probe, { b with state := .halfOpen, probeOut := true }, [(.open, .halfOpen)]) := by
  unfold Circuit.admit
  rw [hs]
  cases ho : b.openedAt with
  | none => rfl
  | some t =>
    have := hc t ho
    simp only [ge_iff_le, ite_eq_left_iff, Bool.not_eq_true, decide_eq_false_iff_not,
      Prod.mk.injEq]
    omega

theorem admit_of_probeOut (hs : b.state = .halfOpen) (hp : b.probeOut = true) :
    b.admit c service now = (.error (.circuitOpen service), b, []) := by
  unfold Circuit.admit
  simp [hs, hp]

@[simp] theorem record_probeOut (adm : Admission) (failed : Bool) :
    (b.record c now adm failed).1.probeOut = (adm == .normal && b.probeOut) := by
  unfold record
  split
  · split <;> simp [trip, noteFailure, reset]
  · dsimp only
    split <;> split <;> simp [trip, noteFailure]
  · simp
  · simp

@[simp] theorem abandon_probeOut (adm : Admission) :
    (b.abandon adm).probeOut = (adm == .normal && b.probeOut) := by
  cases adm <;> simp [abandon]

/-! ### Every operation keeps `Sound` -/

theorem trip_sound (hp : b.probeOut = false) : (b.trip now).Sound :=
  ⟨by simp [trip, hp], by simp [trip], by simp [trip]⟩

theorem reset_sound (hp : b.probeOut = false) : b.reset.Sound :=
  ⟨by simp [reset, hp], by simp [reset], by simp [reset]⟩

theorem Sound.admit (h : b.Sound) {r : Except Fault Admission} {b' : Circuit}
    {ts : List (CircuitState × CircuitState)} (he : b.admit c service now = (r, b', ts)) :
    b'.Sound := by
  rcases admit_cases c service now b with ⟨-, he'⟩ | ⟨ho, he'⟩ | ⟨hh, -, he'⟩ | ⟨-, he'⟩ <;>
    rw [he', Prod.mk.injEq, Prod.mk.injEq] at he <;> obtain ⟨-, rfl, -⟩ := he
  · exact h
  · -- the probe of an open breaker finds no outcomes kept
    have hw := h.window_of_ne_closed (by simp [ho])
    exact ⟨fun _ => rfl, by simp, by simp [hw]⟩
  · have hw := h.window_of_ne_closed (by simp [hh])
    exact ⟨fun _ => hh, fun ho => by simp [hh] at ho, by simp [hw]⟩
  · exact h

theorem Sound.record (h : b.Sound) (adm : Admission) (failed : Bool) :
    (b.record c now adm failed).1.Sound := by
  unfold Circuit.record
  split
  · split
    · exact trip_sound (by simp [noteFailure])
    · exact reset_sound rfl
  · rename_i hclosed
    have hp := h.probeOut_eq_false (by simp [hclosed])
    cases failed
    · exact ⟨by simp [hp], by simp [hclosed], by simp [hclosed]⟩
    · simp only [↓reduceIte, Bool.true_and]
      split
      · apply trip_sound
        simp [noteFailure, hp]
      · exact ⟨by simp [noteFailure, hp], by simp [noteFailure, hclosed],
          by simp [noteFailure, hclosed]⟩
  · exact h
  · exact ⟨by simp, h.openedAt_of_open, h.window_of_ne_closed⟩

theorem Sound.abandon (h : b.Sound) (adm : Admission) : (b.abandon adm).Sound := by
  cases adm
  · exact h
  · exact ⟨by simp [Circuit.abandon], h.openedAt_of_open, h.window_of_ne_closed⟩

end Circuit

/-! ### The shared breaker -/

/-- A breaker shared by concurrent calls: its circuit, and how each call that is still out was
admitted. -/
structure Shared where
  circuit : Circuit := {}
  out : List Admission := []

namespace Shared

variable (c : BreakerConfig) (service : String)

/-- A call asks to go out at `now`: the answer it gets, and the breaker after. -/
def arrive (now : Nat) (s : Shared) : Except Fault Admission × Shared :=
  match s.circuit.admit c service now with
  | (.ok adm, b, _) => (.ok adm, ⟨b, adm :: s.out⟩)
  | (.error f, b, _) => (.error f, ⟨b, s.out⟩)

/-- A call admitted as `adm` ends at `now`, its operation having completed as `op` (a stalled
operation is cut off by the time limit). -/
def finish {α : Type} (now : Nat) (adm : Admission) (op : Completion α) (s : Shared) : Shared :=
  ⟨(s.circuit.record c now adm (isFailure (timeLimited c service op))).1, s.out.erase adm⟩

/-- A call admitted as `adm` is dropped before it ends. -/
def cancel (adm : Admission) (s : Shared) : Shared :=
  ⟨s.circuit.abandon adm, s.out.erase adm⟩

/-- One atomic step: a call arrives, or a call that is out ends or is dropped. -/
inductive Step : Shared → Shared → Prop
  | arrive (s : Shared) (now : Nat) : Step s (s.arrive c service now).2
  | finish {α : Type} (s : Shared) (now : Nat) (adm : Admission) (op : Completion α) :
      adm ∈ s.out → Step s (s.finish c service now adm op)
  | cancel (s : Shared) (adm : Admission) : adm ∈ s.out → Step s (s.cancel adm)

/-- The states a fresh breaker reaches under some interleaving of calls. -/
def Reachable (s : Shared) : Prop :=
  Relation.ReflTransGen (Step c service) {} s

/-- Callers arrive one after another with nothing else happening in between: their answers in
order, and the breaker after. -/
def arriveAll : List Nat → Shared → List (Except Fault Admission) × Shared
  | [], s => ([], s)
  | now :: rest, s =>
    let (r, s) := s.arrive c service now
    let (rs, s) := arriveAll rest s
    (r :: rs, s)

/-- The invariant of a shared breaker. -/
structure Safe (s : Shared) : Prop where
  sound : s.circuit.Sound
  count_probe : s.out.count .probe = if s.circuit.probeOut then 1 else 0

variable {c service} {s : Shared}

theorem safe_empty : ({} : Shared).Safe :=
  ⟨Circuit.sound_empty, by simp⟩

theorem Safe.probeOut_iff (h : s.Safe) : s.circuit.probeOut = true ↔ .probe ∈ s.out := by
  rw [← List.count_pos_iff, h.count_probe]
  cases s.circuit.probeOut <;> simp

theorem Safe.halfOpen_of_mem (h : s.Safe) (hm : .probe ∈ s.out) : s.circuit.state = .halfOpen :=
  h.sound.halfOpen_of_probeOut (h.probeOut_iff.2 hm)

theorem arrive_eq_ok {now : Nat} {adm : Admission} {b : Circuit}
    {ts : List (CircuitState × CircuitState)} (he : s.circuit.admit c service now = (.ok adm, b, ts)) :
    s.arrive c service now = (.ok adm, ⟨b, adm :: s.out⟩) := by
  unfold arrive
  rw [he]

theorem arrive_eq_error {now : Nat} {f : Fault} {b : Circuit}
    {ts : List (CircuitState × CircuitState)} (he : s.circuit.admit c service now = (.error f, b, ts)) :
    s.arrive c service now = (.error f, ⟨b, s.out⟩) := by
  unfold arrive
  rw [he]

/-! ### Each step keeps `Safe` -/

theorem Safe.arrive (h : s.Safe) (now : Nat) : (s.arrive c service now).2.Safe := by
  rcases Circuit.admit_cases c service now s.circuit with
    ⟨-, he⟩ | ⟨ho, he⟩ | ⟨-, hp, he⟩ | ⟨-, he⟩ <;> have hs := h.sound.admit he
  · rw [arrive_eq_ok he]
    exact ⟨hs, by simpa using h.count_probe⟩
  · -- an open breaker has no probe out, so the new probe is the only one
    have hp := h.sound.probeOut_eq_false (by simp [ho])
    rw [arrive_eq_ok he]
    exact ⟨hs, by simpa [hp] using h.count_probe⟩
  · rw [arrive_eq_ok he]
    exact ⟨hs, by simpa [hp] using h.count_probe⟩
  · rw [arrive_eq_error he]
    exact ⟨hs, h.count_probe⟩

theorem Safe.count_erase (h : s.Safe) {adm : Admission} (hm : adm ∈ s.out) :
    (s.out.erase adm).count .probe = if (adm == .normal && s.circuit.probeOut) then 1 else 0 := by
  cases adm with
  | normal => simpa using h.count_probe
  | probe =>
    have hc := h.count_probe
    simp only [h.probeOut_iff.2 hm, ↓reduceIte] at hc
    simp [hc]

theorem Safe.finish (h : s.Safe) {α : Type} (now : Nat) {adm : Admission} (op : Completion α)
    (hm : adm ∈ s.out) : (s.finish c service now adm op).Safe := by
  refine ⟨h.sound.record _ _, ?_⟩
  simpa [Shared.finish] using h.count_erase hm

theorem Safe.cancel (h : s.Safe) {adm : Admission} (hm : adm ∈ s.out) : (s.cancel adm).Safe := by
  refine ⟨h.sound.abandon _, ?_⟩
  simpa [Shared.cancel] using h.count_erase hm

theorem Safe.step {s' : Shared} (h : s.Safe) (hs : Step c service s s') : s'.Safe := by
  cases hs with
  | arrive _ now => exact h.arrive now
  | finish _ now _ op hm => exact h.finish now op hm
  | cancel _ _ hm => exact h.cancel hm

/-- Every state reached by any interleaving of calls is safe. -/
theorem reachable_safe (h : Reachable c service s) : s.Safe := by
  induction h with
  | refl => exact safe_empty
  | tail _ hs ih => exact ih.step hs

/-! ### Consequences for callers -/

theorem closed_of_arrive_normal {now : Nat} (he : (s.arrive c service now).1 = .ok .normal) :
    s.circuit.state = .closed := by
  rcases Circuit.admit_cases c service now s.circuit with
    ⟨hc, he'⟩ | ⟨-, he'⟩ | ⟨-, -, he'⟩ | ⟨-, he'⟩
  · exact hc
  · simp [arrive_eq_ok he'] at he
  · simp [arrive_eq_ok he'] at he
  · simp [arrive_eq_error he'] at he

theorem arrive_of_probe_out (h : s.Safe) (hm : .probe ∈ s.out) (now : Nat) :
    s.arrive c service now = (.error (.circuitOpen service), s) := by
  rw [arrive_eq_error (Circuit.admit_of_probeOut (h.halfOpen_of_mem hm) (h.probeOut_iff.2 hm))]

theorem arriveAll_of_probe_out (h : s.Safe) (hm : .probe ∈ s.out) (times : List Nat) :
    s.arriveAll c service times = (times.map fun _ => .error (.circuitOpen service), s) := by
  induction times with
  | nil => rfl
  | cons now rest ih => simp [arriveAll, arrive_of_probe_out h hm, ih]

theorem arriveAll_of_cooled (h : s.Safe) (ho : s.circuit.state = .open) {now : Nat}
    (hc : ∀ t ∈ s.circuit.openedAt, t + c.resetTimeoutMs * nanosPerMs ≤ now) (rest : List Nat) :
    (s.arriveAll c service (now :: rest)).1 =
      .ok .probe :: rest.map fun _ => .error (.circuitOpen service) := by
  have he : s.arrive c service now =
      (.ok .probe, ⟨{ s.circuit with state := .halfOpen, probeOut := true }, .probe :: s.out⟩) :=
    arrive_eq_ok (Circuit.admit_of_cooled ho hc)
  have h' : (s.arrive c service now).2.Safe := h.arrive now
  rw [he] at h'
  simp only [arriveAll, he, arriveAll_of_probe_out h' List.mem_cons_self]

example : (((({} : Shared).arrive .lenient "svc" 0).2.finish .lenient "svc" 0 .normal
      (.failed (.internal "down") : Completion Unit)).arriveAll .lenient "svc"
      [1000000000, 1000000000, 1000000000]).1 =
    [.ok .probe, .error (.circuitOpen "svc"), .error (.circuitOpen "svc")] := by
  rfl

/-- Any interleaving of calls through one breaker keeps it safe. A call is let through as an
ordinary one only by a closed breaker; while a probe is out the breaker is half-open, so its record
never meets another state, and every other caller is refused; and of any number of callers
arriving after the reset timeout of an open breaker, exactly the first runs as the probe. -/
theorem reachable_calls_safe (h : Reachable c service s) :
    s.Safe ∧
    (∀ now, (s.arrive c service now).1 = .ok .normal → s.circuit.state = .closed) ∧
    (.probe ∈ s.out →
      s.circuit.state = .halfOpen ∧ ∀ now, s.arrive c service now = (.error (.circuitOpen service), s)) ∧
    (s.circuit.state = .open → ∀ now rest,
      (∀ t ∈ s.circuit.openedAt, t + c.resetTimeoutMs * nanosPerMs ≤ now) →
      (s.arriveAll c service (now :: rest)).1 =
        .ok .probe :: rest.map fun _ => .error (.circuitOpen service)) := by
  have hs := reachable_safe h
  refine ⟨hs, fun now => closed_of_arrive_normal, fun hm => ⟨hs.halfOpen_of_mem hm, ?_⟩, ?_⟩
  · exact arrive_of_probe_out hs hm
  · intro ho now rest hc
    exact arriveAll_of_cooled hs ho hc rest

/-- The breaker that one failed call has tripped is reachable, so the guarantees hold of it. -/
theorem tripped_calls_safe :
    let s : Shared := (({} : Shared).arrive .lenient "svc" 0).2.finish .lenient "svc" 0 .normal
      (.failed (.internal "down") : Completion Unit)
    Reachable .lenient "svc" s ∧
      (s.Safe ∧
      (∀ now, (s.arrive .lenient "svc" now).1 = .ok .normal → s.circuit.state = .closed) ∧
      (.probe ∈ s.out →
        s.circuit.state = .halfOpen ∧
          ∀ now, s.arrive .lenient "svc" now = (.error (.circuitOpen "svc"), s)) ∧
      (s.circuit.state = .open → ∀ now rest,
        (∀ t ∈ s.circuit.openedAt, t + BreakerConfig.lenient.resetTimeoutMs * nanosPerMs ≤ now) →
        (s.arriveAll .lenient "svc" (now :: rest)).1 =
          .ok .probe :: rest.map fun _ => .error (.circuitOpen "svc"))) := by
  intro s
  have hr : Reachable .lenient "svc" s :=
    .tail (.tail .refl (.arrive _ 0)) (.finish _ 0 .normal _ (by decide))
  exact ⟨hr, reachable_calls_safe hr⟩

end Shared

end Courier.Breaker
