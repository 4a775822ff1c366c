import Courier.Proofs.LoggedWorld

/-!
# Every delivery is settled exactly once

Whatever the payload, the retry count and the answers of the world, handling a delivery makes
exactly one settling call, and the settlement it returns is the one that call stands for:
acknowledged for `delivered` and `retried`, rejected for `discarded`, `dependencyDown` and
`deadLettered`, requeued for `requeued`. When the settling call fails, handling returns its fault.

A wait-queue publish is made only for a job that was read and whose delivery failed with a fault
calling for a retry while retries are left; it is then the only publish, of the unchanged payload
to the wait queue of the next attempt, and the message is acknowledged after it only when the
publish succeeded, and requeued when it failed (`handle_settles_once`).
-/

namespace Courier.Worker

open Courier.Broker

/-- The settling call a settlement stands for. -/
def Settlement.ackCall : Settlement → AckCall
  | .delivered | .retried _ => .ack
  | .discarded | .dependencyDown | .deadLettered => .reject
  | .requeued => .requeue

variable {c : Consumer} {w : World} {now : Time.Instant} {payload : String} {rc : Nat}
  {l : List PortCall} {r : Outcome Settlement} {log : List PortCall}

theorem answer_map {x : Outcome Unit} {s : Settlement} {call : AckCall} (hs : s.ackCall = call) :
    (∀ s', x.map (fun _ => s) = .ok s' → x = .ok () ∧ s'.ackCall = call) ∧
      (∀ e, x.map (fun _ => s) = .error e ↔ x = .error e) := by
  cases x with
  | ok u =>
    refine ⟨fun s' h => ?_, fun e => by simp [Except.map]⟩
    simp only [Except.map, Except.ok.injEq] at h
    exact ⟨rfl, h ▸ hs⟩
  | error f =>
    refine ⟨fun s' h => ?_, fun e => by simp [Except.map]⟩
    simp [Except.map] at h

theorem publish_not_mem {l : List PortCall} (hl : l.filterMap PortCall.published? = [])
    (key body : String) (opts : PublishOptions) : PortCall.publish key body opts ∉ l := by
  intro hm
  have h1 : (key, body, opts) ∈ l.filterMap PortCall.published? := List.mem_filterMap.2 ⟨_, hm, rfl⟩
  simp [hl] at h1

theorem no_publish_of_deliver {h : Handler} {job : Job} {x : Outcome Unit} {dl : List PortCall}
    (hd : (h.deliver w.ports job).run l = (x, dl)) (hl : l.filterMap PortCall.published? = []) :
    dl.filterMap PortCall.published? = [] :=
  (deliver_filterMap published?_of_toProvider hd).trans hl

theorem deliveries_agree {job job' : Job} {x x' : Outcome Unit} {dl dl' : List PortCall}
    (hp : c.parse payload = .ok job) (hd : (c.handler.deliver w.ports job).run l = (x, dl))
    (hp' : c.parse payload = .ok job') (hd' : (c.handler.deliver w.ports job').run l = (x', dl')) :
    x' = x ∧ dl' = dl := by
  rw [hp, Except.ok.injEq] at hp'
  subst hp'
  rw [hd, Prod.mk.injEq] at hd'
  exact ⟨hd'.1.symm, hd'.2.symm⟩

/-! ### One settling call -/

/-- A log with exactly one settling call, `call`, made after `pre`, whose answer the result
follows. -/
def SettledOnce (w : World) (r : Outcome Settlement) (log : List PortCall) : Prop :=
  ∃ pre call post, log = pre ++ .settle call :: post ∧
    (pre ++ post).filterMap PortCall.settled? = [] ∧
    (∀ s, r = .ok s → w.settle pre call = .ok () ∧ s.ackCall = call) ∧
    (∀ e, r = .error e ↔ w.settle pre call = .error e)

theorem settledOnce_one {pre : List PortCall} (hpre : pre.filterMap PortCall.settled? = [])
    {call : AckCall} {s : Settlement} (hs : s.ackCall = call) :
    SettledOnce w ((w.settle pre call).map fun _ => s) (pre ++ [.settle call]) :=
  ⟨pre, call, [], rfl, by simp [hpre], (answer_map hs).1, (answer_map hs).2⟩

theorem settledOnce_two {dl : List PortCall} (hdl : dl.filterMap PortCall.settled? = [])
    {x : PortCall} (hx : x.settled? = none) {call : AckCall} {s : Settlement}
    (hs : s.ackCall = call) :
    SettledOnce w ((w.settle (dl ++ [x]) call).map fun _ => s) (dl ++ [x, .settle call]) :=
  ⟨dl ++ [x], call, [], by simp, by simp [hdl, hx], (answer_map hs).1, (answer_map hs).2⟩

theorem Handled.settledOnce (h : Handled c w now payload rc l r log)
    (hl : l.filterMap PortCall.settled? = []) : SettledOnce w r log := by
  -- the handler's own calls settle nothing, so every path settles once, at its end
  have hq : ∀ {job : Job} {x : Outcome Unit} {dl : List PortCall},
      (c.handler.deliver w.ports job).run l = (x, dl) → dl.filterMap PortCall.settled? = [] :=
    fun hd => (deliver_filterMap settled?_of_toProvider hd).trans hl
  cases h with
  | malformed hp => exact settledOnce_one hl rfl
  | delivered hp hd ha =>
    refine ⟨_, .ack, [.report c.handler.channel (.delivered _ now)], rfl,
      by simp [hq hd, PortCall.settled?], fun s hs => ?_, fun e => ?_⟩
    · cases hs
      exact ⟨ha, rfl⟩
    · simp [ha]
  | unacknowledged hp hd ha =>
    refine ⟨_, .ack, [], rfl, by simp [hq hd], fun s hs => ?_, fun e => ?_⟩
    · cases hs
    · simp [ha]
  | discarded hp hd hcl => exact settledOnce_two (hq hd) rfl rfl
  | terminal hp hd hcl => exact settledOnce_two (hq hd) rfl rfl
  | dependencyDown hp hd hcl => exact settledOnce_one (hq hd) rfl
  | retried hp hd hcl hr hpub => exact settledOnce_two (hq hd) rfl rfl
  | requeued hp hd hcl hr hpub => exact settledOnce_two (hq hd) rfl rfl
  | exhausted hp hd hcl hmax => exact settledOnce_two (hq hd) rfl rfl

/-! ### The wait-queue publish -/

theorem Handled.retrying_of_publish (h : Handled c w now payload rc l r log)
    (hl : l.filterMap PortCall.published? = []) {key body : String} {opts : PublishOptions}
    (hm : PortCall.publish key body opts ∈ log) :
    ∃ job f dl, c.parse payload = .ok job ∧
      (c.handler.deliver w.ports job).run l = (.error f, dl) ∧
      classify f c.settings.dependencies = .retry ∧ rc < c.settings.maxRetries := by
  cases h with
  | retried hp hd hcl hr _ => exact ⟨_, _, _, hp, hd, hcl, hr⟩
  | requeued hp hd hcl hr _ => exact ⟨_, _, _, hp, hd, hcl, hr⟩
  | malformed hp =>
    simp only [List.mem_append, List.mem_singleton, reduceCtorEq, or_false] at hm
    exact absurd hm (publish_not_mem hl _ _ _)
  | delivered hp hd ha | unacknowledged hp hd ha | discarded hp hd ha | terminal hp hd ha
  | dependencyDown hp hd ha | exhausted hp hd ha _ =>
    simp only [List.mem_append, List.mem_cons, reduceCtorEq, or_false, List.not_mem_nil] at hm
    exact absurd hm (publish_not_mem (no_publish_of_deliver hd hl) _ _ _)

/-- A job read, whose delivery failed with a fault calling for a retry while retries are left, is
published once to the wait queue of the next attempt and then acknowledged if the publish
succeeded, requeued if it failed. -/
theorem Handled.log_of_retrying (h : Handled c w now payload rc l r log) {job : Job} {f : Fault}
    {dl : List PortCall} (hp : c.parse payload = .ok job)
    (hd : (c.handler.deliver w.ports job).run l = (.error f, dl))
    (hcl : classify f c.settings.dependencies = .retry) (hr : rc < c.settings.maxRetries) :
    log = dl ++ [.publish (c.topology.waitRoutingKey (rc + 1)) payload (.retry (rc + 1)),
      .settle (match w.publish dl (c.topology.waitRoutingKey (rc + 1)) payload (.retry (rc + 1)) with
        | .ok _ => .ack
        | .error _ => .requeue)] := by
  cases h with
  | retried hp' hd' _ _ hpub =>
    obtain ⟨-, rfl⟩ := deliveries_agree hp hd hp' hd'
    rw [hpub]
  | requeued hp' hd' _ _ hpub =>
    obtain ⟨-, rfl⟩ := deliveries_agree hp hd hp' hd'
    rw [hpub]
  | malformed hp' =>
    rw [hp] at hp'
    cases hp'
  | delivered hp' hd' | unacknowledged hp' hd' =>
    obtain ⟨hx, -⟩ := deliveries_agree hp hd hp' hd'
    cases hx
  | discarded hp' hd' hcl' | terminal hp' hd' hcl' | dependencyDown hp' hd' hcl' =>
    obtain ⟨hx, -⟩ := deliveries_agree hp hd hp' hd'
    cases hx
    rw [hcl] at hcl'
    cases hcl'
  | exhausted _ _ _ hmax => exact absurd hr (Nat.not_lt.2 hmax)

/-- Handling a delivery settles it exactly once, whatever the payload, the retry count and the
answers of the world: the result follows the one settling call, and fails with its fault when it
fails. A wait-queue publish is made only for a job that was read and whose delivery failed with a
fault calling for a retry while retries are left, and then it is the only publish, of the
unchanged payload to the wait queue of the next attempt with that attempt's options, followed by
an acknowledgement if it succeeded and a requeue if it failed. -/
theorem handle_settles_once (c : Consumer) (w : World) (now : Time.Instant) (payload : String)
    (retryCount : Nat) :
    let run := (c.handle w.ports now payload retryCount).run []
    SettledOnce w run.1 run.2 ∧
    ((∃ key body opts, PortCall.publish key body opts ∈ run.2) →
      ∃ job f dl, c.parse payload = .ok job ∧
        (c.handler.deliver w.ports job).run [] = (.error f, dl) ∧
        classify f c.settings.dependencies = .retry ∧ retryCount < c.settings.maxRetries) ∧
    (∀ job f dl, c.parse payload = .ok job →
      (c.handler.deliver w.ports job).run [] = (.error f, dl) →
      classify f c.settings.dependencies = .retry → retryCount < c.settings.maxRetries →
      run.2 = dl ++
        [.publish (c.topology.waitRoutingKey (retryCount + 1)) payload (.retry (retryCount + 1)),
         .settle (match w.publish dl (c.topology.waitRoutingKey (retryCount + 1)) payload
            (.retry (retryCount + 1)) with
          | .ok _ => .ack
          | .error _ => .requeue)]) := by
  intro run
  have h := handled c w now payload retryCount []
  refine ⟨h.settledOnce rfl, fun ⟨_, _, _, hm⟩ => h.retrying_of_publish rfl hm, ?_⟩
  intro job f dl hp hd hcl hr
  exact h.log_of_retrying hp hd hcl hr

end Courier.Worker
