import Mathlib
import Courier.Proofs.LoggedWorld

/-!
# The retry lifecycle of a message

The broker's side of retrying: a copy published to a wait queue comes back to the main queue,
after its delay, carrying the properties it was published with, and a delivery that was requeued,
or whose settling call failed, comes back unchanged. Every other settlement is final.
`Consumer.lifecycle` delivers a message again and again under that rule.

Let every delivery of a job fail with a fault that calls for a retry, and let acknowledgements and
rejections succeed. Starting from any headers, with the count `r₀` they carry, the copies that the
wait queues accept carry the counts `r₀ + 1, r₀ + 2, …` in order, each routed to the wait queue of
its count, and each count reads back as itself. A failed publish requeues the delivery and does
not advance the count. After exactly `maxRetries - r₀` accepted copies the next delivery reports
the failure once and rejects the message into the failed queue, and no other report is ever made
(`retry_lifecycle`).
-/

namespace Courier.Worker

open Courier.Broker

theorem retryCountFrom_retry {a : Nat} (ha : a < 2 ^ 32) :
    retryCountFrom (PublishOptions.retry a).properties.headers = a := by
  simp [retryCountFrom, PublishOptions.properties, PublishOptions.retry, FieldValue.asInt?,
    retryCountHeader]
  omega

/-! ### Redelivery -/

/-- Where a message stands between deliveries. -/
inductive Standing where
  /-- On the main queue, to be delivered with these headers. -/
  | waiting (headers : Option FieldTable)
  /-- Acknowledged or rejected for good. -/
  | settled

/-- Where a delivery with `headers` leaves the message once it was handled with result `r`. -/
def Standing.after (headers : Option FieldTable) : Outcome Settlement → Standing
  | .ok (.retried a) => .waiting (PublishOptions.retry a).properties.headers
  | .ok .requeued | .error _ => .waiting headers
  | .ok _ => .settled

@[simp] theorem after_retried (headers : Option FieldTable) (a : Nat) :
    Standing.after headers (.ok (.retried a)) =
      .waiting (PublishOptions.retry a).properties.headers := rfl

@[simp] theorem after_deadLettered (headers : Option FieldTable) :
    Standing.after headers (.ok .deadLettered) = .settled := rfl

@[simp] theorem after_requeued (headers : Option FieldTable) (x : Outcome Unit) :
    Standing.after headers (x.map fun _ => .requeued) = .waiting headers := by
  cases x <;> rfl

/-- The first `n` deliveries of a message that stands at `st`, stopping once it is settled: the
result of each, and where they leave the message. -/
def Consumer.lifecycle {m : Type → Type} [Monad m] (p : Ports m) (c : Consumer)
    (now : Time.Instant) (payload : String) :
    Nat → Standing → m (List (Outcome Settlement) × Standing)
  | 0, st => pure ([], st)
  | _ + 1, .settled => pure ([], .settled)
  | n + 1, .waiting headers => do
    let r ← c.dispatch p now payload headers
    let (rs, st) ← c.lifecycle p now payload n (Standing.after headers r)
    pure (r :: rs, st)

/-- The wait-queue copies of `payload` with the counts `a, a + 1, …, a + j - 1`, each routed to
the wait queue of its count. -/
def Consumer.retryCopies (c : Consumer) (payload : String) (a j : Nat) :
    List (String × String × PublishOptions) :=
  (List.range' a j).map fun k => (c.topology.waitRoutingKey k, payload, .retry k)

theorem retryCopies_add (c : Consumer) (payload : String) (a k j : Nat) :
    c.retryCopies payload a (k + j) =
      c.retryCopies payload a k ++ c.retryCopies payload (a + k) j := by
  simp only [Consumer.retryCopies, ← List.map_append, List.range'_append_1]

/-! ### Accepted publishes -/

/-- The publish a call makes, when the world accepts it after the calls `pre`. -/
def World.acceptedBy (w : World) (pre : List PortCall) :
    PortCall → Option (String × String × PublishOptions)
  | .publish key body opts =>
    match w.publish pre key body opts with
    | .ok _ => some (key, body, opts)
    | .error _ => none
  | _ => none

/-- The publishes of `log` that the world accepts, in order, each answered from `pre` and the
calls of `log` before it. -/
def World.accepted (w : World) (pre : List PortCall) :
    List PortCall → List (String × String × PublishOptions)
  | [] => []
  | y :: log => (w.acceptedBy pre y).toList ++ w.accepted (pre ++ [y]) log

section Accepted

variable {w : World}

theorem accepted_append (pre xs ys : List PortCall) :
    w.accepted pre (xs ++ ys) = w.accepted pre xs ++ w.accepted (pre ++ xs) ys := by
  induction xs generalizing pre with
  | nil => simp [World.accepted]
  | cons y xs ih => simp [World.accepted, ih, List.append_assoc]

theorem accepted_eq_nil {pre log : List PortCall} (h : ∀ y ∈ log, y.published? = none) :
    w.accepted pre log = [] := by
  induction log generalizing pre with
  | nil => rfl
  | cons y log ih =>
    have hy : w.acceptedBy pre y = none := by
      cases y <;> simp_all [World.acceptedBy, PortCall.published?]
    simp [World.accepted, hy, ih fun z hz => h z (List.mem_cons_of_mem y hz)]

theorem accepted_publish {pre ext : List PortCall} (hext : ∀ y ∈ ext, y.toProvider = true)
    (key body : String) (opts : PublishOptions) (call : AckCall) :
    w.accepted pre (ext ++ [.publish key body opts, .settle call]) =
      (w.acceptedBy (pre ++ ext) (.publish key body opts)).toList := by
  rw [accepted_append, accepted_eq_nil fun y hy => published?_of_toProvider y (hext y hy)]
  simp [World.accepted, World.acceptedBy]

end Accepted

/-! ### Deliveries that fail for a retry -/

/-- The job `payload` is read as fails every delivery with a fault that calls for a retry, while
acknowledgements and rejections succeed. -/
structure Retrying (c : Consumer) (w : World) (payload : String) (job : Job) : Prop where
  parse : c.parse payload = .ok job
  fail : ∀ l, ∃ f, ((c.handler.deliver w.ports job).run l).1 = .error f ∧
    classify f c.settings.dependencies = .retry
  ack : ∀ l, w.settle l .ack = .ok ()
  reject : ∀ l, w.settle l .reject = .ok ()

section Retrying

variable {c : Consumer} {w : World} {now : Time.Instant} {payload : String} {job : Job}

variable (c w now payload job) in
/-- The ways one delivery of a retrying job goes after the log `l`, with the retry count `rc`:
the handler's calls, then the copy for the next count accepted and the delivery acknowledged, the
copy refused and the delivery requeued, or, with no retries left, one failure report and the
rejection. -/
inductive RetryStep (rc : Nat) (l : List PortCall) : Outcome Settlement → List PortCall → Prop
  | retried {ext : List PortCall} : (∀ y ∈ ext, y.toProvider = true) →
      rc < c.settings.maxRetries →
      w.publish (l ++ ext) (c.topology.waitRoutingKey (rc + 1)) payload (.retry (rc + 1)) = .ok () →
      RetryStep rc l (.ok (.retried (rc + 1)))
        (l ++ ext ++ [.publish (c.topology.waitRoutingKey (rc + 1)) payload (.retry (rc + 1)),
          .settle .ack])
  | requeued {ext : List PortCall} {e : Fault} {r : Outcome Settlement} :
      (∀ y ∈ ext, y.toProvider = true) → rc < c.settings.maxRetries →
      w.publish (l ++ ext) (c.topology.waitRoutingKey (rc + 1)) payload (.retry (rc + 1)) =
        .error e →
      (∀ headers, Standing.after headers r = .waiting headers) →
      RetryStep rc l r
        (l ++ ext ++ [.publish (c.topology.waitRoutingKey (rc + 1)) payload (.retry (rc + 1)),
          .settle .requeue])
  | exhausted {ext : List PortCall} {msg : String} : (∀ y ∈ ext, y.toProvider = true) →
      c.settings.maxRetries ≤ rc →
      RetryStep rc l (.ok .deadLettered)
        (l ++ ext ++ [.report c.handler.channel (.failed job.requestId msg now), .settle .reject])

/-- Under a retrying job, handling goes one of the ways of `RetryStep`: the other ways of handling
need a payload that is not read, a delivery that succeeds, a fault that does not call for a retry,
or a settling call that fails. -/
theorem Handled.retryStep {rc : Nat} {l : List PortCall} {r : Outcome Settlement}
    {log : List PortCall} (h : Handled c w now payload rc l r log) (hr : Retrying c w payload job) :
    RetryStep c w now payload job rc l r log := by
  have hfail : ∀ {job' : Job} {x : Outcome Unit} {dl : List PortCall}, c.parse payload = .ok job' →
      (c.handler.deliver w.ports job').run l = (x, dl) →
      job' = job ∧ ∃ f, x = .error f ∧ classify f c.settings.dependencies = .retry := by
    intro job' x dl hp hd
    rw [hr.parse, Except.ok.injEq] at hp
    subst hp
    obtain ⟨f, hf, hcl⟩ := hr.fail l
    rw [hd] at hf
    exact ⟨rfl, f, hf, hcl⟩
  cases h with
  | malformed hp => rw [hr.parse] at hp; cases hp
  | delivered hp hd | unacknowledged hp hd =>
    obtain ⟨-, f, hx, -⟩ := hfail hp hd
    cases hx
  | discarded hp hd hcl | terminal hp hd hcl | dependencyDown hp hd hcl =>
    obtain ⟨-, f, hx, hcl'⟩ := hfail hp hd
    cases hx
    rw [hcl] at hcl'
    cases hcl'
  | retried hp hd _ hrc hpub =>
    obtain ⟨rfl, -⟩ := hfail hp hd
    obtain ⟨ext, rfl, hext⟩ := deliver_log hd
    rw [hr.ack]
    exact .retried hext hrc hpub
  | requeued hp hd _ hrc hpub =>
    obtain ⟨rfl, -⟩ := hfail hp hd
    obtain ⟨ext, rfl, hext⟩ := deliver_log hd
    exact .requeued hext hrc hpub fun headers => after_requeued headers _
  | exhausted hp hd _ hrc =>
    obtain ⟨rfl, -⟩ := hfail hp hd
    obtain ⟨ext, rfl, hext⟩ := deliver_log hd
    rw [hr.reject]
    exact .exhausted hext hrc

theorem quiet_of_provider {ext : List PortCall} (hext : ∀ y ∈ ext, y.toProvider = true) :
    ext.filterMap PortCall.reported? = [] ∧ PortCall.settle .reject ∉ ext :=
  ⟨List.filterMap_eq_nil_iff.2 fun y hy => reported?_of_toProvider y (hext y hy),
    fun hm => by simpa [PortCall.toProvider] using hext _ hm⟩

/-! ### A run of deliveries -/

theorem lifecycle_settled_run (n : Nat) (l : List PortCall) :
    (c.lifecycle w.ports now payload n .settled).run l = (([], .settled), l) := by
  cases n <;> rfl

theorem lifecycle_succ_run (n : Nat) (headers : Option FieldTable) (l : List PortCall) :
    (c.lifecycle w.ports now payload (n + 1) (.waiting headers)).run l =
      match (c.handle w.ports now payload (retryCountFrom headers)).run l with
      | (r, log) =>
        match (c.lifecycle w.ports now payload n (Standing.after headers r)).run log with
        | ((rs, st), log') => ((r :: rs, st), log') := rfl

variable (c now job) in
/-- How deliveries of a retrying job stand after `j` accepted copies from the count `r₀`, with the
results `rs`, the standing `st` and the calls `log`: dead-lettered by the last delivery once the
counts reached `maxRetries`, with one failure report right before the one rejection; or still
waiting with the count `r₀ + j`, with no report and no rejection made. -/
inductive RetryEnd (r₀ j : Nat) : List (Outcome Settlement) → Standing → List PortCall → Prop
  | deadLettered {rs : List (Outcome Settlement)} {msg : String} {log : List PortCall} :
      j = c.settings.maxRetries - r₀ → log.filterMap PortCall.reported? = [] →
      PortCall.settle .reject ∉ log →
      RetryEnd r₀ j (rs ++ [.ok .deadLettered]) .settled
        (log ++ [.report c.handler.channel (.failed job.requestId msg now), .settle .reject])
  | waiting {rs : List (Outcome Settlement)} {headers : Option FieldTable} {log : List PortCall} :
      retryCountFrom headers = r₀ + j → log.filterMap PortCall.reported? = [] →
      PortCall.settle .reject ∉ log → RetryEnd r₀ j rs (.waiting headers) log

theorem RetryEnd.cons {r₀ k j : Nat} {rs : List (Outcome Settlement)} {st : Standing}
    {seg log : List PortCall} (r : Outcome Settlement) (h : RetryEnd c now job (r₀ + k) j rs st log)
    (hk : k ≤ c.settings.maxRetries - r₀) (hrep : seg.filterMap PortCall.reported? = [])
    (hrej : PortCall.settle .reject ∉ seg) :
    RetryEnd c now job r₀ (k + j) (r :: rs) st (seg ++ log) := by
  cases h with
  | deadLettered hj hrep' hrej' =>
    rw [← List.cons_append, ← List.append_assoc]
    exact .deadLettered (by omega) (by simp [hrep, hrep']) (by simp [hrej, hrej'])
  | waiting hc hrep' hrej' =>
    exact .waiting (by omega) (by simp [hrep, hrep']) (by simp [hrej, hrej'])

theorem RetryEnd.publish_cons {rc k j : Nat} {l ext rest : List PortCall} {call : AckCall}
    {r : Outcome Settlement} {rs : List (Outcome Settlement)} {st : Standing}
    (hext : ∀ y ∈ ext, y.toProvider = true) (hcall : call ≠ .reject)
    (hk : k ≤ c.settings.maxRetries - rc)
    (hpub : (w.acceptedBy (l ++ ext) (.publish (c.topology.waitRoutingKey (rc + 1)) payload
      (.retry (rc + 1)))).toList = c.retryCopies payload (rc + 1) k)
    (hacc : w.accepted (l ++ ext ++ [.publish (c.topology.waitRoutingKey (rc + 1)) payload
      (.retry (rc + 1)), .settle call]) rest = c.retryCopies payload (rc + k + 1) j)
    (hend : RetryEnd c now job (rc + k) j rs st rest) :
    w.accepted l (ext ++ [.publish (c.topology.waitRoutingKey (rc + 1)) payload (.retry (rc + 1)),
        .settle call] ++ rest) = c.retryCopies payload (rc + 1) (k + j) ∧
      RetryEnd c now job rc (k + j) (r :: rs) st
        (ext ++ [.publish (c.topology.waitRoutingKey (rc + 1)) payload (.retry (rc + 1)),
          .settle call] ++ rest) := by
  have hq := quiet_of_provider hext
  constructor
  · rw [accepted_append, accepted_publish hext, ← List.append_assoc, hpub, hacc, retryCopies_add,
      Nat.add_right_comm]
  · exact hend.cons r hk (by simp [hq.1, PortCall.reported?]) (by simp [hq.2, Ne.symm hcall])

/-- Deliveries of a retrying job, from any headers and after any calls `l`: the copies the wait
queues accept carry the counts after the headers' one, in order, and the run ends as `RetryEnd`
says. -/
theorem lifecycle_retrying (hr : Retrying c w payload job) (hmax : c.settings.maxRetries < 2 ^ 32)
    (n : Nat) (headers : Option FieldTable) (l : List PortCall) :
    ∃ j ≤ c.settings.maxRetries - retryCountFrom headers, ∃ ext,
      ((c.lifecycle w.ports now payload n (.waiting headers)).run l).2 = l ++ ext ∧
      w.accepted l ext = c.retryCopies payload (retryCountFrom headers + 1) j ∧
      RetryEnd c now job (retryCountFrom headers) j
        ((c.lifecycle w.ports now payload n (.waiting headers)).run l).1.1
        ((c.lifecycle w.ports now payload n (.waiting headers)).run l).1.2 ext := by
  -- induction on the number of deliveries; each one goes a way of `RetryStep`
  induction n generalizing headers l with
  | zero => exact ⟨0, Nat.zero_le _, [], (List.append_nil l).symm, rfl, .waiting rfl rfl (by simp)⟩
  | succ n ih =>
    have hs := (handled c w now payload (retryCountFrom headers) l).retryStep hr
    rw [lifecycle_succ_run]
    generalize (c.handle w.ports now payload (retryCountFrom headers)).run l = d at hs ⊢
    obtain ⟨r, log⟩ := d
    have ih' := fun headers' => ih headers' log
    cases hs with
    | @retried ext hext hrc hpub =>
      have hcount := retryCountFrom_retry (a := retryCountFrom headers + 1) (by omega)
      obtain ⟨j, hj, ext', hrun, hacc, hend⟩ :=
        ih' (PublishOptions.retry (retryCountFrom headers + 1)).properties.headers
      rw [hcount] at hj hacc hend
      simp only [after_retried]
      generalize (c.lifecycle w.ports now payload n _).run _ = rest at hrun hend ⊢
      obtain ⟨⟨rs, st⟩, log'⟩ := rest
      have hcopy : (w.acceptedBy (l ++ ext) (.publish (c.topology.waitRoutingKey
          (retryCountFrom headers + 1)) payload (.retry (retryCountFrom headers + 1)))).toList =
          c.retryCopies payload (retryCountFrom headers + 1) 1 := by
        simp [World.acceptedBy, hpub, Consumer.retryCopies]
      obtain ⟨hacc', hend'⟩ := RetryEnd.publish_cons (r := .ok (.retried _)) hext (by decide)
        (by omega) hcopy hacc hend
      exact ⟨1 + j, by omega, _, by simpa using hrun, hacc', hend'⟩
    | @requeued ext e r hext hrc hpub hafter =>
      obtain ⟨j, hj, ext', hrun, hacc, hend⟩ := ih' headers
      simp only [hafter]
      generalize (c.lifecycle w.ports now payload n _).run _ = rest at hrun hend ⊢
      obtain ⟨⟨rs, st⟩, log'⟩ := rest
      have hcopy : (w.acceptedBy (l ++ ext) (.publish (c.topology.waitRoutingKey
          (retryCountFrom headers + 1)) payload (.retry (retryCountFrom headers + 1)))).toList =
          c.retryCopies payload (retryCountFrom headers + 1) 0 := by
        simp [World.acceptedBy, hpub, Consumer.retryCopies]
      obtain ⟨hacc', hend'⟩ := RetryEnd.publish_cons (r := r) hext (by decide) (Nat.zero_le _)
        hcopy hacc hend
      exact ⟨0 + j, by omega, _, by simpa using hrun, hacc', hend'⟩
    | @exhausted ext msg hext hrc =>
      have hq := quiet_of_provider hext
      simp only [after_deadLettered, lifecycle_settled_run]
      refine ⟨0, Nat.zero_le _,
        ext ++ [.report c.handler.channel (.failed job.requestId msg now), .settle .reject],
        by simp, ?_, ?_⟩
      · rw [accepted_append, accepted_eq_nil fun y hy => published?_of_toProvider y (hext y hy)]
        rfl
      · exact (RetryEnd.deadLettered (by omega) hq.1 hq.2 :
          RetryEnd c now job (retryCountFrom headers) 0 ([] ++ [.ok .deadLettered]) _ _)

end Retrying

/-- The retry lifecycle of a job that fails every delivery for a retry while acknowledgements and
rejections succeed, from any headers and over any number of deliveries. Every count of an unsigned
32-bit word survives the trip through a retry copy's header, and a message whose count has reached
`maxRetries` is settled by its next delivery. The copies that the wait queues accept carry the
counts after the headers' count `r₀`, in order, each routed to the wait queue of its count, and
there are at most `maxRetries - r₀` of them. The run ends dead-lettered after exactly that many,
with one failure report right before the one rejection; or it is still waiting, with `r₀`
advanced by the accepted copies and no report made. -/
theorem retry_lifecycle (c : Consumer) (w : World) (now : Time.Instant) (payload : String)
    (job : Job) (headers : Option FieldTable) (n : Nat) (hmax : c.settings.maxRetries < 2 ^ 32)
    (hr : Retrying c w payload job) :
    let r₀ := retryCountFrom headers
    let run := (c.lifecycle w.ports now payload n (.waiting headers)).run []
    (∀ a < 2 ^ 32, retryCountFrom (PublishOptions.retry a).properties.headers = a) ∧
    (∀ headers' l, c.settings.maxRetries ≤ retryCountFrom headers' →
      Standing.after headers' ((c.dispatch w.ports now payload headers').run l).1 = .settled) ∧
    ∃ j ≤ c.settings.maxRetries - r₀,
      w.accepted [] run.2 = c.retryCopies payload (r₀ + 1) j ∧
      RetryEnd c now job r₀ j run.1.1 run.1.2 run.2 := by
  intro r₀ run
  refine ⟨fun a ha => retryCountFrom_retry ha, fun headers' l hle => ?_, ?_⟩
  · -- with no retries left, only the way that rejects is open
    have hs := (handled c w now payload (retryCountFrom headers') l).retryStep hr
    unfold Consumer.dispatch
    generalize (c.handle w.ports now payload (retryCountFrom headers')).run l = d at hs ⊢
    obtain ⟨r, log⟩ := d
    cases hs with
    | retried _ hrc _ => omega
    | requeued _ hrc _ _ => omega
    | exhausted _ _ => rfl
  · obtain ⟨j, hj, ext, hrun, hacc, hend⟩ := lifecycle_retrying hr hmax n headers []
    rw [List.nil_append] at hrun
    refine ⟨j, hj, ?_, ?_⟩
    · rw [hrun]
      exact hacc
    · rw [hrun]
      exact hend

/-- An email job whose template source is down, delivered five times from fresh headers under the
default three retries, while every other call succeeds. -/
theorem template_down_lifecycle :
    let c : Consumer :=
      { handler := .email "noreply@example.com", topology := Topology.new "x" .email 1000 }
    let w : World :=
      { template := fun _ _ => .error (.internal "down"), deliver := fun _ _ => .ok (),
        publish := fun _ _ _ _ => .ok (), report := fun _ _ _ => .ok (), settle := fun _ _ => .ok () }
    let payload := "\x7b\"notification_type\":\"email\",\"request_id\":\"r1\",\"template_code\":\"t\",\"email\":\"a@b.c\"\x7d"
    let job : Job := { channel := .email, requestId := "r1", templateCode := "t", email := some "a@b.c" }
    let run := (c.lifecycle w.ports ⟨0, 0⟩ payload 5 (.waiting none)).run []
    c.settings.maxRetries < 2 ^ 32 ∧ Retrying c w payload job ∧
    (∀ a < 2 ^ 32, retryCountFrom (PublishOptions.retry a).properties.headers = a) ∧
    (∀ headers' l, c.settings.maxRetries ≤ retryCountFrom headers' →
      Standing.after headers' ((c.dispatch w.ports ⟨0, 0⟩ payload headers').run l).1 = .settled) ∧
    ∃ j ≤ c.settings.maxRetries - retryCountFrom none,
      w.accepted [] run.2 = c.retryCopies payload (retryCountFrom none + 1) j ∧
      RetryEnd c ⟨0, 0⟩ job (retryCountFrom none) j run.1.1 run.1.2 run.2 := by
  intro c w payload job run
  -- the payload is read with the consumer written out, so that the reader runs on literals
  have hp : Consumer.parse
      { handler := .email "noreply@example.com", topology := Topology.new "x" .email 1000 }
      "\x7b\"notification_type\":\"email\",\"request_id\":\"r1\",\"template_code\":\"t\",\"email\":\"a@b.c\"\x7d" =
      .ok { channel := .email, requestId := "r1", templateCode := "t", email := some "a@b.c" } := by
    with_unfolding_all rfl
  have hmax : c.settings.maxRetries < 2 ^ 32 := by decide
  have hr : Retrying c w payload job := ⟨hp, fun _ => ⟨_, rfl, rfl⟩, fun _ => rfl, fun _ => rfl⟩
  exact ⟨hmax, hr, retry_lifecycle c w ⟨0, 0⟩ payload job none 5 hmax hr⟩

end Courier.Worker
