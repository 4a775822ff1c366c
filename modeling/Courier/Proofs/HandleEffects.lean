import Courier.Proofs.JobHandoff

/-!
# Handling a request, exit by exit

Handling a request stops at up to four port calls: the user, the lookup of the request id, the
creation of the pending record and the publish of the job (`handleRequest_eq`). Run against any
answers of the user service, the store and the broker (`Script.runWith`), each way out leaves an
exact list of calls and an exact result (`handle_exits`):

* a request that breaks a rule is refused before any call;
* a failed user lookup is returned after that call alone, and so is `disabledByUser` for a user
  who does not accept the channel (a user without preferences accepts none);
* a record found by the lookup, or returned by a create that lost the race, is replayed (failed
  as previously failed, any other as already processed), and nothing is written or published;
* a failure of the store is returned, and nothing is published;
* otherwise the pending record is created and one publish of the job follows. A failed publish is
  answered as the broker being unavailable; nothing takes the pending record back.

Each stage of the handling has one lemma per answer (`publishing_runWith`,
`creating_runWith_created` and so on), and `handle_exits` chains them.
-/

namespace Courier.Gateway

open Courier.Broker

theorem replay_eq (r : StatusRecord) :
    replay r = if r.status = .failed then .previouslyFailed r else .alreadyProcessed r := by
  unfold replay
  cases r.status <;> rfl

theorem User.accepts_of_preferences_none {u : User} (h : u.preferences = none) (c : Channel) :
    u.accepts c = false := by
  simp [User.accepts, h]

/-- A request passes its checks exactly when its three ids are not blank and its priority is at
most `maxPriority`; otherwise it fails with a validation fault. -/
theorem NotificationRequest.validate_eq_ok_iff (req : NotificationRequest) :
    req.validate = .ok () ↔
      Text.isBlankText req.requestId = false ∧ Text.isBlankText req.userId = false ∧
        Text.isBlankText req.templateCode = false ∧ req.priority ≤ maxPriority := by
  refine ⟨NotificationRequest.validate_eq_ok, fun ⟨hr, hu, ht, hp⟩ => ?_⟩
  have hp' : ¬ req.priority > maxPriority := Nat.not_lt.2 hp
  simp [NotificationRequest.validate, hr, hu, ht, hp']

theorem NotificationRequest.validation_of_validate {req : NotificationRequest} {e : Fault}
    (h : req.validate = .error e) : ∃ m, e = .validation m := by
  unfold NotificationRequest.validate at h
  repeat' split at h
  all_goals cases h
  all_goals exact ⟨_, rfl⟩

/-! ### The stages, answer by answer -/

section Stages

variable (answer : (c : GatewayCall) → c.Answer) (now : Time.Instant) (req : NotificationRequest)
  (u : User)

theorem publishing_runWith :
    (publishing now req u).runWith answer =
      ([.publish req.channel.name (jobFor req u).toValue.write (.withPriority req.priority)],
        publishResult now req
          (answer (.publish req.channel.name (jobFor req u).toValue.write (.withPriority req.priority)))) :=
  rfl

variable {answer now req u}

theorem creating_runWith_created (h : answer (.create (pendingOf now req)) = .ok none) :
    (creating now req u).runWith answer =
      (.create (pendingOf now req) :: ((publishing now req u).runWith answer).1,
        ((publishing now req u).runWith answer).2) := by
  simp [creating, Script.runWith, h]

theorem creating_runWith_found {r : StatusRecord}
    (h : answer (.create (pendingOf now req)) = .ok (some r)) :
    (creating now req u).runWith answer = ([.create (pendingOf now req)], .ok (replay r)) := by
  simp [creating, Script.runWith, h]

theorem creating_runWith_failed {e : Fault} (h : answer (.create (pendingOf now req)) = .error e) :
    (creating now req u).runWith answer = ([.create (pendingOf now req)], .error e) := by
  simp [creating, Script.runWith, h]

theorem lookingUp_runWith_fresh (h : answer (.lookup req.requestId) = .ok none) :
    (lookingUp now req u).runWith answer =
      (.lookup req.requestId :: ((creating now req u).runWith answer).1,
        ((creating now req u).runWith answer).2) := by
  simp [lookingUp, Script.runWith, h]

theorem lookingUp_runWith_found {r : StatusRecord} (h : answer (.lookup req.requestId) = .ok (some r)) :
    (lookingUp now req u).runWith answer = ([.lookup req.requestId], .ok (replay r)) := by
  simp [lookingUp, Script.runWith, h]

theorem lookingUp_runWith_failed {e : Fault} (h : answer (.lookup req.requestId) = .error e) :
    (lookingUp now req u).runWith answer = ([.lookup req.requestId], .error e) := by
  simp [lookingUp, Script.runWith, h]

theorem starting_runWith_accepted (h : answer (.user req.userId) = .ok u)
    (hu : u.accepts req.channel = true) :
    (starting now req).runWith answer =
      (.user req.userId :: ((lookingUp now req u).runWith answer).1,
        ((lookingUp now req u).runWith answer).2) := by
  simp [starting, Script.runWith, h, hu]

theorem starting_runWith_declined (h : answer (.user req.userId) = .ok u)
    (hu : u.accepts req.channel = false) :
    (starting now req).runWith answer = ([.user req.userId], .ok .disabledByUser) := by
  simp [starting, Script.runWith, h, hu]

theorem starting_runWith_failed {e : Fault} (h : answer (.user req.userId) = .error e) :
    (starting now req).runWith answer = ([.user req.userId], .error e) := by
  simp [starting, Script.runWith, h]

end Stages

/-! ### Every exit -/

/-- Handling a request against any answers of the user service, the store and the broker, exit
by exit: the calls it makes, in order, and what it returns.

1. A request that breaks a rule (a blank request id, user id or template code, or a priority
   above `maxPriority`) gets its validation fault, with no call at all.
2. A failed user lookup is returned, with no store call and no publish.
3. A user without preferences, or who does not accept the channel, gets `disabledByUser`, with no
   store call and no publish.
4. A record found by the lookup, or returned by a create that lost the race, is replayed: failed
   as previously failed, pending or delivered as already processed; nothing else is written and
   nothing is published.
5. A failure of the store is returned, with no publish.
6. Otherwise exactly one pending record of the request is created, with its channel and priority
   and no error, and exactly one publish of the job follows under the channel's routing key with
   the request's priority. It is queued when the broker takes the job; otherwise the broker is
   reported unavailable, and no call takes the pending record back. -/
theorem handle_exits (now : Time.Instant) (req : NotificationRequest)
    (answer : (c : GatewayCall) → c.Answer) :
    (req.validate = .ok () ↔
      Text.isBlankText req.requestId = false ∧ Text.isBlankText req.userId = false ∧
        Text.isBlankText req.templateCode = false ∧ req.priority ≤ maxPriority) ∧
    (∀ e, req.validate = .error e →
      (∃ m, e = .validation m) ∧ (handleRequest scriptPorts now req).runWith answer = ([], .error e)) ∧
    (req.validate = .ok () → ∀ e, answer (.user req.userId) = .error e →
      (handleRequest scriptPorts now req).runWith answer = ([.user req.userId], .error e)) ∧
    (req.validate = .ok () → ∀ u, answer (.user req.userId) = .ok u →
      (u.preferences = none ∨ u.accepts req.channel = false) →
      (handleRequest scriptPorts now req).runWith answer = ([.user req.userId], .ok .disabledByUser)) ∧
    (req.validate = .ok () → ∀ u, answer (.user req.userId) = .ok u → u.accepts req.channel = true →
      (∀ r, answer (.lookup req.requestId) = .ok (some r) →
        (handleRequest scriptPorts now req).runWith answer =
          ([.user req.userId, .lookup req.requestId],
            .ok (if r.status = .failed then .previouslyFailed r else .alreadyProcessed r))) ∧
      (∀ e, answer (.lookup req.requestId) = .error e →
        (handleRequest scriptPorts now req).runWith answer =
          ([.user req.userId, .lookup req.requestId], .error e)) ∧
      (answer (.lookup req.requestId) = .ok none →
        let pending : StatusRecord :=
          { requestId := req.requestId, status := .pending, channel := some req.channel,
            priority := req.priority, error := none, timestamp := now }
        let job := (jobFor req u).toValue.write
        (∀ r, answer (.create pending) = .ok (some r) →
          (handleRequest scriptPorts now req).runWith answer =
            ([.user req.userId, .lookup req.requestId, .create pending],
              .ok (if r.status = .failed then .previouslyFailed r else .alreadyProcessed r))) ∧
        (∀ e, answer (.create pending) = .error e →
          (handleRequest scriptPorts now req).runWith answer =
            ([.user req.userId, .lookup req.requestId, .create pending], .error e)) ∧
        (answer (.create pending) = .ok none →
          ((handleRequest scriptPorts now req).runWith answer).1 =
            [.user req.userId, .lookup req.requestId, .create pending,
              .publish req.channel.name job (.withPriority req.priority)] ∧
          (answer (.publish req.channel.name job (.withPriority req.priority)) = .ok () →
            ((handleRequest scriptPorts now req).runWith answer).2 = .ok (.queued pending)) ∧
          (∀ e, answer (.publish req.channel.name job (.withPriority req.priority)) = .error e →
            ((handleRequest scriptPorts now req).runWith answer).2 =
              .error (.serviceUnavailable "message_broker" "Failed to queue notification."))))) := by
  refine ⟨NotificationRequest.validate_eq_ok_iff req, fun e hv => ⟨NotificationRequest.validation_of_validate hv, ?_⟩,
    fun hv e he => ?_, fun hv u hu hno => ?_, fun hv u hu hacc => ⟨fun r hl => ?_, fun e hl => ?_,
    fun hl => ⟨fun r hc => ?_, fun e hc => ?_, fun hc => ?_⟩⟩⟩ <;>
    rw [handleRequest_eq] <;> simp only [hv]
  · -- a request that breaks a rule makes no call
    rfl
  · rw [starting_runWith_failed he]
  · -- a user without preferences accepts no channel
    have hdecl : u.accepts req.channel = false := by
      rcases hno with hnone | hdecl
      · exact User.accepts_of_preferences_none hnone _
      · exact hdecl
    rw [starting_runWith_declined hu hdecl]
  · rw [starting_runWith_accepted hu hacc, lookingUp_runWith_found hl, replay_eq]
  · rw [starting_runWith_accepted hu hacc, lookingUp_runWith_failed hl]
  · rw [starting_runWith_accepted hu hacc, lookingUp_runWith_fresh hl,
      creating_runWith_found hc, replay_eq]
    rfl
  · rw [starting_runWith_accepted hu hacc, lookingUp_runWith_fresh hl, creating_runWith_failed hc]
    rfl
  · -- the pending record is written: one publish follows, and its answer decides
    rw [starting_runWith_accepted hu hacc, lookingUp_runWith_fresh hl,
      creating_runWith_created hc, publishing_runWith]
    refine ⟨rfl, fun hp => ?_, fun e hp => ?_⟩
    · simp only [hp]
      rfl
    · simp only [hp]
      rfl

/-- A welcome email to a user who takes email, in a world that knows nothing of the request, is
queued after the four calls, with its pending record. -/
theorem welcome_email_queued :
    let req : NotificationRequest :=
      { requestId := "req-1", channel := .email, userId := "user-1", templateCode := "welcome",
        vars := [], priority := 5 }
    let u : User :=
      { id := "user-1", email := some "ada@example.com", preferences := some { email := true } }
    req.validate = .ok () ∧ u.accepts req.channel = true ∧
      ((handleRequest scriptPorts ⟨0, 0⟩ req).runWith (freshAnswer u)).1 =
        [.user "user-1", .lookup "req-1", .create (pendingOf ⟨0, 0⟩ req),
          .publish "email" (jobFor req u).toValue.write (.withPriority 5)] ∧
      ((handleRequest scriptPorts ⟨0, 0⟩ req).runWith (freshAnswer u)).2 =
        .ok (.queued (pendingOf ⟨0, 0⟩ req)) := by
  intro req u
  have hv : req.validate = .ok () := by
    have hr : Text.isBlankText "req-1" = false := by decide
    have hu : Text.isBlankText "user-1" = false := by decide
    have ht : Text.isBlankText "welcome" = false := by decide
    simp [req, NotificationRequest.validate, maxPriority, hr, hu, ht]
  have hu : u.accepts req.channel = true := rfl
  have hfresh := ((handle_exits ⟨0, 0⟩ req (freshAnswer u)).2.2.2.2 hv u rfl hu).2.2 rfl
  exact ⟨hv, hu, (hfresh.2.2 rfl).1, (hfresh.2.2 rfl).2.1 rfl⟩

end Courier.Gateway
