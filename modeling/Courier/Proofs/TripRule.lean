import Mathlib
import Courier.Proofs.ConcurrentCalls

/-!
# The trip rule

Calls made one after another through one breaker: each asks to go out and, if it is let through,
its outcome is recorded before the next call starts. The breaker's clock never runs back, so the
outcomes are recorded at nondecreasing times.

The journal of such a run says, for each call, how it was let through and the states of the
breaker before and after it. These are read off the journal alone, without the breaker's window
or counters:

* `sinceClosed`: the outcomes recorded since the breaker last entered closed, that is those of
  the calls at the end of the journal that found it closed;
* `recent`: those of them no older than the rolling window at a given time;
* `Trips`: the volume and the failure percentage at which a failure opens the breaker;
* `failuresSinceRestore`: the failures recorded since the breaker was made or a probe last
  succeeded.

The breaker prunes its window from the oldest outcome on, which drops exactly the old outcomes
because they come in the order they were recorded (`pruneWindow_eq_recent`). So along any run the
failure count, a 32-bit word, is `failuresSinceRestore` modulo `2 ^ 32`, and a closed breaker keeps
the recent outcomes since it last closed (`Tally`, `tally_sequence`). A call that finds the breaker closed goes out as an
ordinary call and opens the breaker exactly when it failed and the recent outcomes, its own
included, reach the volume and the failure percentage; otherwise the breaker stays closed
(`trip_rule`). A failure percentage above 100 is never reached, so such a breaker never opens and
its failure count grows with every failure until it wraps (`failure_count_wraps`).
-/

namespace Courier.Fault

/-- The faults a breaker does not count as failures: not found, validation, malformed messages,
refusals by a breaker, the broker, the store, and a service's answers below 500. -/
def Benign : Fault → Prop
  | .notFound _ | .validation _ | .malformed _ | .circuitOpen _ | .broker _ | .store _ => True
  | .downstream _ status _ => status < 500
  | _ => False

theorem tripsBreaker_eq_false_of_benign {f : Fault} (h : f.Benign) : f.tripsBreaker = false := by
  cases f <;> simp_all [Benign, tripsBreaker]

end Courier.Fault

namespace Courier.Breaker

/-! ### Runs of calls made one after another -/

/-- A call made while no other call is out: it asks to go out at `start` and, if it is let
through, ends at `stop` with `result`. -/
structure SoloCall where
  start : Nat
  stop : Nat
  result : Outcome Unit

/-- The outcome a call leaves in the window when it is recorded. -/
def SoloCall.outcome (k : SoloCall) : CallRecord := ⟨k.stop, isFailure k.result⟩

/-- What one call of a run met: how it was let through (`none` if it was refused), and the
states of the breaker before and after it. -/
structure Entry where
  call : SoloCall
  admission : Option Admission
  before : CircuitState
  after : CircuitState

namespace Circuit

variable (c : BreakerConfig) (service : String)

/-- One call made alone: it asks to go out at `k.start` and, if let through, is recorded at
`k.stop`. How it was let through, and the circuit after. -/
def solo (k : SoloCall) (b : Circuit) : Option Admission × Circuit :=
  match b.admit c service k.start with
  | (.ok adm, b', _) => (some adm, (b'.record c k.stop adm (isFailure k.result)).1)
  | (.error _, b', _) => (none, b')

/-- The journal entry of one call made alone from `b`. -/
def entry (k : SoloCall) (b : Circuit) : Entry :=
  ⟨k, (b.solo c service k).1, b.state, (b.solo c service k).2.state⟩

/-- The journal of calls made one after another from `b`, and the circuit after them. -/
def sequence : List SoloCall → Circuit → List Entry × Circuit
  | [], b => ([], b)
  | k :: ks, b =>
    let rest := (b.solo c service k).2.sequence ks
    (b.entry c service k :: rest.1, rest.2)

end Circuit

/-! ### What the journal says -/

/-- The outcome an entry recorded, if its call was let through. -/
def Entry.recorded (e : Entry) : Option CallRecord := e.admission.map fun _ => e.call.outcome

/-- Whether an entry recorded a failure. -/
def Entry.failed (e : Entry) : Bool := e.admission.isSome && isFailure e.call.result

/-- Whether an entry is a probe that succeeded. -/
def Entry.restores (e : Entry) : Bool := e.admission == some .probe && !isFailure e.call.result

/-- The outcomes recorded since the breaker last entered closed: those of the calls at the end of
the journal that found it closed. -/
def sinceClosed (j : List Entry) : List CallRecord :=
  (j.reverse.takeWhile (·.before == .closed)).reverse.filterMap Entry.recorded

/-- The failures recorded since the breaker was made or a probe last succeeded. -/
def failuresSinceRestore (j : List Entry) : Nat :=
  (j.reverse.takeWhile (!·.restores)).countP Entry.failed

/-- When the last outcome of the journal was recorded, or 0 before any. -/
def lastRecorded (j : List Entry) : Nat :=
  ((j.filterMap Entry.recorded).getLast?.map (·.endedAt)).getD 0

/-- The outcomes no older than the rolling window at `now`. -/
def recent (c : BreakerConfig) (now : Nat) (rs : List CallRecord) : List CallRecord :=
  rs.filter fun r => now - r.endedAt ≤ c.rollingWindowMs * nanosPerMs

/-- The volume and the failure percentage at which a failure opens the breaker: at least
`max 1 volumeThreshold` outcomes, of which at least `errorThresholdPercentage` percent failed. -/
def Trips (c : BreakerConfig) (w : List CallRecord) : Prop :=
  max 1 c.volumeThreshold ≤ w.length ∧
    c.errorThresholdPercentage * w.length ≤ 100 * w.countP (·.failed)

instance (c : BreakerConfig) (w : List CallRecord) : Decidable (Trips c w) :=
  inferInstanceAs (Decidable (_ ∧ _))

theorem isFailure_eq_false {r : Outcome Unit} (h : r = .ok () ∨ ∃ f, r = .error f ∧ f.Benign) :
    isFailure r = false := by
  rcases h with rfl | ⟨f, rfl, hf⟩
  · rfl
  · exact Fault.tripsBreaker_eq_false_of_benign hf

/-! ### The window -/

section Window

variable {c : BreakerConfig} {now t : Nat} {rs : List CallRecord}

@[simp] theorem recent_nil : recent c now [] = [] := rfl

theorem recent_append (rs rs' : List CallRecord) :
    recent c now (rs ++ rs') = recent c now rs ++ recent c now rs' :=
  List.filter_append ..

theorem recent_recent (h : t ≤ now) : recent c now (recent c t rs) = recent c now rs := by
  unfold recent
  rw [List.filter_filter]
  refine List.filter_congr fun r _ => ?_
  by_cases hr : now - r.endedAt ≤ c.rollingWindowMs * nanosPerMs
  · have : t - r.endedAt ≤ c.rollingWindowMs * nanosPerMs := by omega
    simp [hr, this]
  · simp [hr]

/-- Pruning outcomes that come in the order they were recorded keeps exactly the recent ones: the
old ones are all in front. -/
theorem pruneWindow_eq_recent (h : rs.Pairwise fun r r' => r.endedAt ≤ r'.endedAt) :
    pruneWindow c now rs = recent c now rs := by
  induction rs with
  | nil => rfl
  | cons r rest ih =>
    rw [List.pairwise_cons] at h
    unfold pruneWindow
    split
    · rename_i hold
      rw [ih h.2]
      unfold recent
      rw [List.filter_cons]
      simp [Nat.not_le.2 hold]
    · -- the oldest outcome is recent, and so is every later one
      rename_i hkeep
      have hall : ∀ r' ∈ rest, now - r'.endedAt ≤ c.rollingWindowMs * nanosPerMs := fun r' hr' => by
        have := h.1 r' hr'
        omega
      unfold recent
      rw [List.filter_cons, List.filter_eq_self.2 (by simpa using hall)]
      simp [Nat.le_of_not_lt hkeep]

theorem thresholdExceeded_iff (w : List CallRecord) : thresholdExceeded c w = true ↔ Trips c w := by
  unfold thresholdExceeded Trips
  rw [← List.countP_eq_length_filter]
  by_cases hv : (w.length == 0 || decide (w.length < c.volumeThreshold)) = true
  · simp only [hv, if_true, Bool.false_eq_true, false_iff]
    simp only [Bool.or_eq_true, beq_iff_eq, decide_eq_true_eq] at hv
    omega
  · simp only [hv, Bool.false_eq_true, if_false, ge_iff_le, decide_eq_true_eq]
    simp only [Bool.or_eq_true, beq_iff_eq, decide_eq_true_eq, not_or] at hv
    constructor
    · intro h
      exact ⟨by omega, by omega⟩
    · intro h
      omega

theorem not_trips (hp : 100 < c.errorThresholdPercentage) (w : List CallRecord) : ¬ Trips c w := by
  rintro ⟨hv, hpct⟩
  have hcount : w.countP (·.failed) ≤ w.length := List.countP_le_length
  have : 100 * w.length < c.errorThresholdPercentage * w.length :=
    Nat.mul_lt_mul_of_pos_right hp (by omega)
  omega

end Window

/-! ### What one call does -/

namespace Circuit

variable {c : BreakerConfig} {service : String} {b : Circuit}

/-- A call that finds the breaker closed goes out as an ordinary call; a call that finds it open
or half-open is refused, or goes out as the probe of a half-open breaker with the same failure
count. -/
theorem solo_cases (c : BreakerConfig) (service : String) (k : SoloCall) (b : Circuit) :
    (b.state = .closed ∧
      b.solo c service k = (some .normal, (b.record c k.stop .normal (isFailure k.result)).1)) ∨
    (b.state ≠ .closed ∧ ∃ b₁ : Circuit, b₁.state = .halfOpen ∧ b₁.failureCount = b.failureCount ∧
      b.solo c service k = (some .probe, (b₁.record c k.stop .probe (isFailure k.result)).1)) ∨
    (b.state ≠ .closed ∧ b.solo c service k = (none, b)) := by
  rcases admit_cases c service k.start b with ⟨hc, he⟩ | ⟨ho, he⟩ | ⟨hh, -, he⟩ | ⟨hn, he⟩
  · exact .inl ⟨hc, by unfold solo; rw [he]⟩
  · exact .inr (.inl ⟨by simp [ho], { b with state := .halfOpen, probeOut := true }, rfl, rfl,
      by unfold solo; rw [he]⟩)
  · exact .inr (.inl ⟨by simp [hh], { b with probeOut := true }, hh, rfl, by unfold solo; rw [he]⟩)
  · exact .inr (.inr ⟨hn, by unfold solo; rw [he]⟩)

theorem record_closed (hb : b.state = .closed) (now : Nat) (failed : Bool) :
    (b.record c now .normal failed).1.state =
        (if failed && thresholdExceeded c (pruneWindow c now (b.window ++ [⟨now, failed⟩]))
          then .open else .closed) ∧
      (b.record c now .normal failed).1.failureCount = b.failureCount + (if failed then 1 else 0) ∧
      ((b.record c now .normal failed).1.state = .closed →
        (b.record c now .normal failed).1.window = pruneWindow c now (b.window ++ [⟨now, failed⟩])) := by
  unfold record
  rw [hb]
  dsimp only
  cases failed
  · simp [hb]
  · by_cases ht : thresholdExceeded c (pruneWindow c now (b.window ++ [⟨now, true⟩])) = true
    · simp [ht, noteFailure, trip]
    · simp [ht, noteFailure, hb]

theorem record_halfOpen (hb : b.state = .halfOpen) (now : Nat) (failed : Bool) :
    (b.record c now .probe failed).1.state = (if failed then .open else .closed) ∧
      (b.record c now .probe failed).1.failureCount = (if failed then b.failureCount + 1 else 0) ∧
      ((b.record c now .probe failed).1.state = .closed → (b.record c now .probe failed).1.window = []) := by
  unfold record
  rw [hb]
  cases failed <;> simp [noteFailure, trip, reset]

theorem solo_eq_of_closed (hb : b.state = .closed) (k : SoloCall) :
    b.solo c service k = (some .normal, (b.record c k.stop .normal (isFailure k.result)).1) := by
  rcases solo_cases c service k b with ⟨-, hsolo⟩ | ⟨hn, -⟩ | ⟨hn, -⟩
  · exact hsolo
  · exact absurd hb hn
  · exact absurd hb hn

theorem solo_stays_closed (hp : 100 < c.errorThresholdPercentage) (k : SoloCall)
    (hb : b.state = .closed) : (b.solo c service k).2.state = .closed := by
  have hnot : thresholdExceeded c (pruneWindow c k.stop (b.window ++ [k.outcome])) = false := by
    have := not_trips hp (pruneWindow c k.stop (b.window ++ [k.outcome]))
    rw [← thresholdExceeded_iff] at this
    simpa using this
  rw [solo_eq_of_closed hb, (record_closed hb _ _).1]
  simp [SoloCall.outcome] at hnot
  simp [hnot]

/-! ### Runs -/

variable (c service)

theorem sequence_append (ks ks' : List SoloCall) (b : Circuit) :
    b.sequence c service (ks ++ ks') =
      ((b.sequence c service ks).1 ++ ((b.sequence c service ks).2.sequence c service ks').1,
        ((b.sequence c service ks).2.sequence c service ks').2) := by
  induction ks generalizing b with
  | nil => rfl
  | cons k ks ih => simp [sequence, ih]

end Circuit

/-! ### The journal, one entry at a time -/

section Journal

variable {j : List Entry} {e : Entry}

theorem sinceClosed_concat (e : Entry) (j : List Entry) :
    sinceClosed (j ++ [e]) =
      if e.before = .closed then sinceClosed j ++ e.recorded.toList else [] := by
  unfold sinceClosed
  rw [List.reverse_append, List.reverse_singleton, List.singleton_append, List.takeWhile_cons]
  by_cases h : e.before = .closed
  · cases hr : e.recorded <;> simp [h, hr, List.filterMap_append]
  · simp [h]

theorem failuresSinceRestore_concat (e : Entry) (j : List Entry) :
    failuresSinceRestore (j ++ [e]) =
      if e.restores then 0 else failuresSinceRestore j + (if e.failed then 1 else 0) := by
  unfold failuresSinceRestore
  rw [List.reverse_append, List.reverse_singleton, List.singleton_append, List.takeWhile_cons]
  cases e.restores <;> simp [List.countP_cons]

theorem lastRecorded_concat {r : CallRecord} (h : e.recorded = some r) (j : List Entry) :
    lastRecorded (j ++ [e]) = r.endedAt := by
  simp [lastRecorded, List.filterMap_append, h]

theorem sinceClosed_sublist (j : List Entry) : (sinceClosed j).Sublist (j.filterMap Entry.recorded) := by
  unfold sinceClosed
  have hsuffix : (j.reverse.takeWhile (·.before == .closed)).reverse <:+ j := by
    simpa using (List.takeWhile_prefix (·.before == .closed) (l := j.reverse)).reverse
  exact hsuffix.sublist.filterMap _

theorem lastRecorded_le {t : Nat} (h : ∀ r ∈ j.filterMap Entry.recorded, r.endedAt ≤ t) :
    lastRecorded j ≤ t := by
  unfold lastRecorded
  cases hl : (j.filterMap Entry.recorded).getLast? with
  | none => exact Nat.zero_le _
  | some last =>
    obtain ⟨ys, hys⟩ := List.getLast?_eq_some_iff.1 hl
    exact h last (by simp [hys])

end Journal

/-! ### What a run keeps -/

/-- What a breaker keeps of its journal `j`: the failure count is the failures since the last
restore modulo `2 ^ 32`, and while closed its window holds the recent outcomes since it last closed, as of the
last record. -/
structure Tally (c : BreakerConfig) (j : List Entry) (b : Circuit) : Prop where
  failureCount_eq : b.failureCount.toNat = failuresSinceRestore j % 2 ^ 32
  window_eq : b.state = .closed → b.window = recent c (lastRecorded j) (sinceClosed j)

theorem toNat_succ_of_mod {a : UInt32} {n : Nat} (h : a.toNat = n % 2 ^ 32) :
    (a + 1).toNat = (n + 1) % 2 ^ 32 := by
  rw [UInt32.toNat_add, h, UInt32.toNat_one, Nat.mod_add_mod]

namespace Tally

variable {c : BreakerConfig} {service : String} {j : List Entry} {b : Circuit}

theorem empty (c : BreakerConfig) : Tally c [] {} := ⟨rfl, fun _ => rfl⟩

theorem pruned_eq (h : Tally c j b) (hb : b.state = .closed) (k : SoloCall)
    (hs : (j.filterMap Entry.recorded ++ [k.outcome]).Pairwise fun r r' => r.endedAt ≤ r'.endedAt) :
    pruneWindow c k.stop (b.window ++ [k.outcome]) = recent c k.stop (sinceClosed j ++ [k.outcome]) := by
  have hw := h.window_eq hb
  have hlast : lastRecorded j ≤ k.stop := lastRecorded_le fun r hr =>
    List.pairwise_append.1 hs |>.2.2 r hr k.outcome (List.mem_singleton_self _)
  -- the window and the new outcome come in the order they were recorded
  have hsorted : (b.window ++ [k.outcome]).Pairwise fun r r' => r.endedAt ≤ r'.endedAt := by
    refine hs.sublist (List.Sublist.append ?_ (List.Sublist.refl _))
    rw [hw]
    exact List.filter_sublist.trans (sinceClosed_sublist j)
  rw [pruneWindow_eq_recent hsorted, recent_append, recent_append, hw, recent_recent hlast]

/-- One call keeps the tally, given that its outcome is recorded no earlier than the others. -/
theorem solo (h : Tally c j b) (k : SoloCall)
    (hs : ((j ++ [b.entry c service k]).filterMap Entry.recorded).Pairwise
      fun r r' => r.endedAt ≤ r'.endedAt) :
    Tally c (j ++ [b.entry c service k]) (b.solo c service k).2 := by
  unfold Circuit.entry at hs ⊢
  rcases Circuit.solo_cases c service k b with
    ⟨hb, hsolo⟩ | ⟨hb, b₁, hh, hcount, hsolo⟩ | ⟨hb, hsolo⟩ <;>
    rw [hsolo] at hs ⊢ <;>
    refine ⟨?_, fun hclosed => ?_⟩ <;>
    simp only [failuresSinceRestore_concat, sinceClosed_concat]
  · -- an ordinary call counts its failure
    rw [(Circuit.record_closed hb _ _).2.1]
    cases hf : isFailure k.result
    · simpa [Entry.restores, Entry.failed, hf] using h.failureCount_eq
    · simpa [Entry.restores, Entry.failed, hf] using toNat_succ_of_mod h.failureCount_eq
  · -- it stays closed: its window is the recent outcomes since the breaker closed
    rw [(Circuit.record_closed hb _ _).2.2 hclosed, lastRecorded_concat (r := k.outcome) rfl]
    simp only [hb, ↓reduceIte, Entry.recorded, Option.map_some, Option.toList_some]
    exact h.pruned_eq hb k (by simpa [List.filterMap_append, Entry.recorded] using hs)
  · -- the probe either restores the breaker or counts its failure
    rw [(Circuit.record_halfOpen hh _ _).2.1, hcount]
    cases hf : isFailure k.result
    · simp [Entry.restores, hf]
    · simpa [Entry.restores, Entry.failed, hf] using toNat_succ_of_mod h.failureCount_eq
  · simp [hb, (Circuit.record_halfOpen hh _ _).2.2 hclosed]
  · simpa [Entry.restores, Entry.failed] using h.failureCount_eq
  · exact absurd hclosed hb

theorem solo_of_closed (h : Tally c j b) (hb : b.state = .closed) (k : SoloCall)
    (hs : ((j ++ [b.entry c service k]).filterMap Entry.recorded).Pairwise
      fun r r' => r.endedAt ≤ r'.endedAt) :
    (b.solo c service k).1 = some .normal ∧
    ((b.solo c service k).2.state = .open ↔
      isFailure k.result = true ∧ Trips c (recent c k.stop (sinceClosed j ++ [k.outcome]))) ∧
    ((b.solo c service k).2.state ≠ .open → (b.solo c service k).2.state = .closed) := by
  have hsolo : b.solo c service k =
      (some .normal, (b.record c k.stop .normal (isFailure k.result)).1) :=
    Circuit.solo_eq_of_closed hb k
  have hout : k.outcome = ⟨k.stop, isFailure k.result⟩ := rfl
  have hw := h.pruned_eq hb k (by
    simpa [List.filterMap_append, Circuit.entry, hsolo, Entry.recorded] using hs)
  have hthr : thresholdExceeded c (pruneWindow c k.stop (b.window ++ [k.outcome])) = true ↔
      Trips c (recent c k.stop (sinceClosed j ++ [k.outcome])) := by
    rw [hw]
    exact thresholdExceeded_iff _
  rw [hout] at hthr
  have hstate := (Circuit.record_closed (c := c) hb k.stop (isFailure k.result)).1
  rw [hsolo, hout, ← hthr]
  refine ⟨rfl, ?_⟩
  rw [hstate]
  generalize thresholdExceeded c (pruneWindow c k.stop (b.window ++ [⟨k.stop, isFailure k.result⟩])) = t
  cases isFailure k.result <;> cases t <;> decide

/-- A run of calls made one after another keeps the tally, given that their outcomes are recorded
at nondecreasing times. The induction runs over the calls, the journal so far growing by one
entry at each. -/
theorem sequence (h : Tally c j b) (ks : List SoloCall)
    (hs : ((j ++ (b.sequence c service ks).1).filterMap Entry.recorded).Pairwise
      fun r r' => r.endedAt ≤ r'.endedAt) :
    Tally c (j ++ (b.sequence c service ks).1) (b.sequence c service ks).2 := by
  induction ks generalizing j b with
  | nil => simpa [Circuit.sequence] using h
  | cons k ks ih =>
    simp only [Circuit.sequence] at hs ⊢
    rw [← List.singleton_append, ← List.append_assoc] at hs ⊢
    have hstep := h.solo k (List.pairwise_append.1 (List.filterMap_append ▸ hs)).1
    exact ih hstep hs

end Tally

theorem tally_sequence (c : BreakerConfig) (service : String) (ks : List SoloCall)
    (hs : ((({} : Circuit).sequence c service ks).1.filterMap Entry.recorded).Pairwise
      fun r r' => r.endedAt ≤ r'.endedAt) :
    Tally c (({} : Circuit).sequence c service ks).1 (({} : Circuit).sequence c service ks).2 := by
  simpa using (Tally.empty c).sequence ks (by simpa using hs)

/-! ### A breaker that never opens -/

theorem failuresSinceRestore_map_normal (ks : List SoloCall) :
    failuresSinceRestore (ks.map fun k => ⟨k, some .normal, .closed, .closed⟩) =
      ks.countP fun k => isFailure k.result := by
  unfold failuresSinceRestore
  rw [List.takeWhile_eq_self_iff.2 (by simp [Entry.restores]), List.countP_reverse,
    List.countP_map]
  rfl

section NeverTrips

variable {c : BreakerConfig} (hp : 100 < c.errorThresholdPercentage) (service : String)
include hp

/-- With a failure percentage above 100, every call of a run from a closed breaker goes out as an
ordinary call, and finds and leaves the breaker closed. -/
theorem sequence_of_never_trips (ks : List SoloCall) {b : Circuit} (hb : b.state = .closed) :
    (b.sequence c service ks).1 = ks.map fun k => ⟨k, some .normal, .closed, .closed⟩ := by
  induction ks generalizing b with
  | nil => rfl
  | cons k ks ih =>
    have hstay : (b.solo c service k).2.state = .closed := Circuit.solo_stays_closed hp k hb
    simp only [Circuit.sequence, List.map_cons, ih hstay]
    congr 1
    unfold Circuit.entry
    rw [hb, hstay, Circuit.solo_eq_of_closed hb k]

theorem sequence_stays_closed (ks : List SoloCall) {b : Circuit} (hb : b.state = .closed) :
    ∀ e ∈ (b.sequence c service ks).1, e.after = .closed := by
  intro e he
  rw [sequence_of_never_trips hp service ks hb, List.mem_map] at he
  obtain ⟨k, -, rfl⟩ := he
  rfl

/-- Through a breaker that never opens every failure counts: the failures since the breaker was
made are those of the calls, and, the calls ending in order, the failure count is their number
modulo `2 ^ 32`. -/
theorem failures_of_never_trips (ks : List SoloCall)
    (hs : (ks.map SoloCall.outcome).Pairwise fun r r' => r.endedAt ≤ r'.endedAt) :
    failuresSinceRestore (({} : Circuit).sequence c service ks).1 =
        ks.countP (fun k => isFailure k.result) ∧
      (({} : Circuit).sequence c service ks).2.failureCount.toNat =
        ks.countP (fun k => isFailure k.result) % 2 ^ 32 := by
  have hj := sequence_of_never_trips hp service ks (b := {}) rfl
  have hcount : failuresSinceRestore (({} : Circuit).sequence c service ks).1 =
      ks.countP fun k => isFailure k.result := by
    rw [hj, failuresSinceRestore_map_normal]
  have hrec : (({} : Circuit).sequence c service ks).1.filterMap Entry.recorded =
      ks.map SoloCall.outcome := by
    rw [hj, List.filterMap_map]
    exact congrFun (List.filterMap_eq_map (f := SoloCall.outcome)) ks
  refine ⟨hcount, ?_⟩
  rw [(tally_sequence c service ks (hrec ▸ hs)).failureCount_eq, hcount]

end NeverTrips

/-- With volume 2 and 50 percent: a success, a fault that is not counted and a failure leave one
failure in three outcomes and the breaker closed; the next failure makes two in four, exactly the
percentage, and opens it. -/
example : (({} : Circuit).sequence ⟨30000, 0, 50, 2, 3600000⟩ "svc"
      [⟨0, 0, .ok ()⟩, ⟨1, 1, .error (.notFound "user")⟩, ⟨2, 2, .error (.internal "down")⟩,
        ⟨3, 3, .error (.internal "down")⟩]).1.map (·.after) =
    [.closed, .closed, .closed, .open] := by
  decide

end Courier.Breaker
