import Courier.Proofs.ReadBack.Shapes
import Courier.Proofs.GatewayScript
import Courier.Worker.Consumer

/-!
# From the gateway to the worker

The gateway hands a job to a worker only as text: it writes the job of a request for its user as
JSON and publishes it under the channel's name, and the worker of that channel reads the text back
against the job shape and checks the fields its channel needs.

When the template variables read back (`Json.Value.Faithful`: integers within 64 bits, floats
whose text reads back, keys sorted, nesting within the reader's limit), the text reads back to the
very job the gateway built (`Job.readText_write_of_faithful`), so the worker's verdict depends on
the job alone (`Consumer.parse_toValue`). A request the gateway queues
is refused by the worker of its channel exactly when the user lacks an address on that channel,
and always by the worker of the other channel (`handleRequest_hands_off_job`).
-/

namespace Courier

open Json

/-! ### The text of a job -/

/-- The entries of a job's JSON object, in the order of their keys. -/
def Job.entries (j : Job) : List (String × Value) :=
  (match j.email with
    | some e => [("email", .str e)]
    | none => []) ++
  [("notification_type", j.channel.toValue), ("priority", .nat j.priority),
   ("push_tokens", .strs j.pushTokens), ("request_id", .str j.requestId),
   ("template_code", .str j.templateCode), ("user_id", .optStr j.userId),
   ("variables", .obj j.vars)]

theorem Job.toValue_eq (j : Job) : j.toValue = .obj j.entries := by
  obtain ⟨ch, rid, uid, tc, vars, prio, email, tokens⟩ := j
  cases email <;> rfl

theorem Job.entries_keys_nodup (j : Job) : (j.entries.map Prod.fst).Nodup := by
  cases h : j.email <;> simp [Job.entries, h]

/-- The fields of the job shape. -/
def Job.fieldShapes : List (String × Shape × Bool) :=
  [("notification_type", Channel.shape, false), ("request_id", .text, false),
   ("user_id", .optional .text, true), ("template_code", .text, false),
   ("variables", .dict .any, true), ("priority", .byte, true),
   ("email", .optional .text, true), ("push_tokens", .list .text, true)]

theorem Job.shape_eq : Job.shape = .record "NotificationJob" Job.fieldShapes := rfl

/-- A job as read against its shape: every field present, an absent email as `null`. -/
def Job.readEntries (j : Job) : List (String × Value) :=
  [("email", .optStr j.email), ("notification_type", j.channel.toValue),
   ("priority", .nat j.priority), ("push_tokens", .strs j.pushTokens),
   ("request_id", .str j.requestId), ("template_code", .str j.templateCode),
   ("user_id", .optStr j.userId), ("variables", .obj j.vars)]

theorem Job.completeFields_entries (j : Job) :
    completeFields Job.fieldShapes j.entries.reverse = .ok (.obj j.readEntries) := by
  obtain ⟨ch, rid, uid, tc, vars, prio, email, tokens⟩ := j
  cases email <;> rfl

theorem Json.Value.filterMap_str?_map_str (xs : List String) :
    (xs.map Value.str).filterMap Value.str? = xs := by
  induction xs with
  | nil => rfl
  | cons x xs ih => simp [Value.str?, ih]

theorem Job.ofValue_readEntries (j : Job) : Job.ofValue (.obj j.readEntries) = j := by
  obtain ⟨ch, rid, uid, tc, vars, prio, email, tokens⟩ := j
  have hch : (((Value.obj (Job.readEntries ⟨ch, rid, uid, tc, vars, prio, email, tokens⟩)).field
      "notification_type").str?.bind Channel.ofName?).getD .email = ch := by
    cases ch <;> rfl
  have htok : ((((Value.obj (Job.readEntries ⟨ch, rid, uid, tc, vars, prio, email, tokens⟩)).field
      "push_tokens").arr?).getD []).filterMap Value.str? = tokens :=
    Json.Value.filterMap_str?_map_str tokens
  simp only [Job.ofValue, hch, htok]
  cases uid <;> cases email <;> rfl

theorem Job.entries_readBack (j : Job) (hprio : j.priority ≤ 255)
    (hvars : (Value.obj j.vars).Faithful 127) :
    ∀ e ∈ j.entries, FieldReadsBack 127 Job.fieldShapes 2 e := by
  obtain ⟨-, hsorted, hvals⟩ := hvars.obj_inv
  have hitems : ∀ v ∈ j.pushTokens.map Value.str, ItemReadsBack 126 .text v := by
    intro v hv
    obtain ⟨t, -, rfl⟩ := List.mem_map.1 hv
    exact ⟨shapeReadsBack_text 126 t, _, _, write_str_toList t, by decide⟩
  intro e he
  simp only [Job.entries, List.mem_append, List.mem_cons, List.not_mem_nil, or_false] at he
  rcases he with he | rfl | rfl | rfl | rfl | rfl | rfl | rfl
  · cases hm : j.email with
    | none => simp [hm] at he
    | some m =>
      simp only [hm, List.mem_singleton] at he
      subst he
      exact ⟨_, _, rfl, Nat.le_refl _, shapeReadsBack_optional_text 127 m⟩
  · refine ⟨_, _, rfl, by decide, shapeReadsBack_choice 127 _ _ ?_⟩
    cases j.channel <;> decide
  · exact ⟨_, _, rfl, by decide, shapeReadsBack_natural 127 255 "u8" _ hprio (by decide)⟩
  · exact ⟨_, _, rfl, Nat.le_refl _, shapeReadsBack_list 127 .text _ (by decide) hitems⟩
  · exact ⟨_, _, rfl, by decide, shapeReadsBack_text 127 _⟩
  · exact ⟨_, _, rfl, by decide, shapeReadsBack_text 127 _⟩
  · exact ⟨_, _, rfl, Nat.le_refl _, shapeReadsBack_optStr 127 _⟩
  · exact ⟨_, _, rfl, Nat.le_refl _, shapeReadsBack_dict 127 .any _ (by decide) hsorted
      fun e he => shapeReadsBack_any (hvals e he).readsBack⟩

/-- Reading the text of a job against the job shape gives the job's record back, every field
present, when its priority fits a byte and its variables read back. -/
theorem Job.readText_write_of_faithful (j : Job) (hprio : j.priority ≤ 255)
    (hvars : (Value.obj j.vars).Faithful 127) :
    Job.shape.readText j.toValue.write = .ok (.obj j.readEntries) := by
  rw [Job.shape_eq, Job.toValue_eq]
  exact readText_record (j.entries_readBack hprio hvars) j.entries_keys_nodup (by decide)
    j.completeFields_entries

/-! ### What the worker makes of it -/

namespace Worker

/-- A consumer reads the text of a job as the job, then checks it: a job of another channel, with
a blank request id, or that its handler refuses is a malformed message. -/
theorem Consumer.parse_toValue (c : Consumer) (j : Job) (hprio : j.priority ≤ 255)
    (hvars : (Value.obj j.vars).Faithful 127) :
    c.parse j.toValue.write =
      if j.channel != c.handler.channel then
        .error (.malformed (j.channel.name ++ " job delivered to the " ++ c.handler.channel.name ++
          " worker"))
      else if Text.isBlankText j.requestId then .error (.malformed "Missing request_id")
      else (c.handler.validate j).map fun _ => j := by
  unfold Consumer.parse
  rw [Job.readText_write_of_faithful j hprio hvars]
  simp only [bind, Except.bind, Job.ofValue_readEntries]
  by_cases hch : (j.channel != c.handler.channel) = true
  · simp only [hch, if_true]
    rfl
  · by_cases hb : Text.isBlankText j.requestId = true
    · simp only [hch, hb, Bool.false_eq_true, if_false, if_true]
      rfl
    · simp only [hch, hb, Bool.false_eq_true, if_false]
      cases c.handler.validate j <;> rfl

end Worker

/-- The user has no address on a channel: no email, or a blank one, for email; no device token
for push. -/
def User.LacksAddress (u : User) : Channel → Prop
  | .email => u.email = none ∨ ∃ e, u.email = some e ∧ Text.isBlankText e = true
  | .push => u.pushTokens = []

namespace Worker

theorem Handler.validate_jobFor (h : Handler) (req : NotificationRequest) (u : User)
    (ht : Text.isBlankText req.templateCode = false) :
    (¬ u.LacksAddress h.channel ∧ h.validate (Gateway.jobFor req u) = .ok ()) ∨
      (u.LacksAddress h.channel ∧
        ∃ msg, h.validate (Gateway.jobFor req u) = .error (.malformed msg)) := by
  cases h with
  | email sender =>
    cases hm : u.email with
    | none => exact .inr ⟨.inl hm, "Missing email", by simp [Handler.validate, Gateway.jobFor, hm]⟩
    | some e =>
      cases hb : Text.isBlankText e
      · refine .inl ⟨?_, by simp [Handler.validate, Gateway.jobFor, hm, hb, ht]⟩
        rintro (hn | ⟨e', he', hb'⟩)
        · simp [hm] at hn
        · simp only [hm, Option.some.injEq] at he'
          subst he'
          simp [hb] at hb'
      · exact .inr ⟨.inr ⟨e, hm, hb⟩, "Missing email",
          by simp [Handler.validate, Gateway.jobFor, hm, hb]⟩
  | push =>
    cases hp : u.pushTokens with
    | nil => exact .inr ⟨hp, "No push tokens", by simp [Handler.validate, Gateway.jobFor, hp]⟩
    | cons t ts =>
      refine .inl ⟨?_, by simp [Handler.validate, Gateway.jobFor, hp, ht]⟩
      simp [User.LacksAddress, Handler.channel, hp]

end Worker

/-! ### The hand-off -/

namespace Gateway

open Worker

/-- Runs a script with every call answered by `answer`: the calls made, in order, and the
result. -/
def Script.runWith {α : Type} (answer : (c : GatewayCall) → c.Answer) :
    Script α → List GatewayCall × α
  | .done a => ([], a)
  | .call c k => let r := (k (answer c)).runWith answer; (c :: r.1, r.2)

/-- The answers of a world where the user service knows `u`, the store knows no request and the
broker takes every message. -/
def freshAnswer (u : User) : (c : GatewayCall) → c.Answer
  | .user _ => .ok u
  | .invalidate _ => ()
  | .lookup _ => .ok none
  | .create _ => .ok none
  | .store _ => .ok ()
  | .publish .. => .ok ()

theorem handleRequest_runWith_fresh (now : Time.Instant) (req : NotificationRequest) (u : User)
    (hv : req.validate = .ok ()) (hu : u.accepts req.channel = true) :
    (handleRequest scriptPorts now req).runWith (freshAnswer u) =
      ([.user req.userId, .lookup req.requestId, .create (pendingOf now req),
        .publish req.channel.name (jobFor req u).toValue.write (.withPriority req.priority)],
        .ok (.queued (pendingOf now req))) := by
  rw [handleRequest_eq, hv]
  simp [starting, lookingUp, creating, publishing, Script.runWith, freshAnswer, publishResult, hu]

section Verdict

variable {req : NotificationRequest} (u : User) (hv : req.validate = .ok ())
  (hvars : (Value.obj req.vars).Faithful 127)
include hv hvars

theorem parse_jobFor_of_channel_eq (c : Consumer) (hc : c.handler.channel = req.channel) :
    (c.parse (jobFor req u).toValue.write = .ok (jobFor req u) ↔
        ¬ u.LacksAddress req.channel) ∧
      ((∃ msg, c.parse (jobFor req u).toValue.write = .error (.malformed msg)) ↔
        u.LacksAddress req.channel) := by
  obtain ⟨hrid, -, htc, hp⟩ := NotificationRequest.validate_eq_ok hv
  have hsame : ((jobFor req u).channel != c.handler.channel) = false := by
    simp [jobFor, hc]
  have hrid' : Text.isBlankText (jobFor req u).requestId = false := hrid
  rw [Consumer.parse_toValue c (jobFor req u) (Nat.le_trans hp (by decide)) hvars]
  simp only [hsame, hrid', Bool.false_eq_true, if_false]
  rcases Handler.validate_jobFor c.handler req u htc with ⟨hl, hok⟩ | ⟨hl, msg, herr⟩
  · rw [hc] at hl
    rw [hok]
    exact ⟨⟨fun _ => hl, fun _ => rfl⟩, ⟨fun ⟨_, h⟩ => (nomatch h), fun h => absurd h hl⟩⟩
  · rw [hc] at hl
    rw [herr]
    exact ⟨⟨fun h => (nomatch h), fun h => absurd hl h⟩, ⟨fun _ => hl, fun _ => ⟨msg, rfl⟩⟩⟩

theorem parse_jobFor_of_channel_ne (c : Consumer) (hc : c.handler.channel ≠ req.channel) :
    c.parse (jobFor req u).toValue.write =
      .error (.malformed (req.channel.name ++ " job delivered to the " ++
        c.handler.channel.name ++ " worker")) := by
  obtain ⟨-, -, -, hp⟩ := NotificationRequest.validate_eq_ok hv
  have hother : ((jobFor req u).channel != c.handler.channel) = true := by
    simpa [jobFor] using Ne.symm hc
  rw [Consumer.parse_toValue c (jobFor req u) (Nat.le_trans hp (by decide)) hvars]
  simp only [hother, if_true]
  rfl

end Verdict

/-- What becomes of a request the gateway queues, at the workers. For a valid request whose
template variables read back and a user who accepts its channel, in a world that knows nothing of
the request yet:

* handling publishes the job of the request for the user under the channel's name, with the
  request's priority, which is at most `maxPriority`;
* the published text reads back to that very job;
* the worker of the channel takes the job as it is unless the user lacks an address on the
  channel, and then refuses it as malformed;
* the worker of the other channel refuses it as malformed. -/
theorem handleRequest_hands_off_job (now : Time.Instant) (req : NotificationRequest) (u : User)
    (hv : req.validate = .ok ()) (hu : u.accepts req.channel = true)
    (hvars : (Value.obj req.vars).Faithful 127) :
    (handleRequest scriptPorts now req).runWith (freshAnswer u) =
        ([.user req.userId, .lookup req.requestId, .create (pendingOf now req),
          .publish req.channel.name (jobFor req u).toValue.write (.withPriority req.priority)],
          .ok (.queued (pendingOf now req))) ∧
      req.priority ≤ maxPriority ∧
      (Job.shape.readText (jobFor req u).toValue.write).map Job.ofValue = .ok (jobFor req u) ∧
      (∀ c : Consumer, c.handler.channel = req.channel →
        (c.parse (jobFor req u).toValue.write = .ok (jobFor req u) ↔
          ¬ u.LacksAddress req.channel) ∧
        ((∃ msg, c.parse (jobFor req u).toValue.write = .error (.malformed msg)) ↔
          u.LacksAddress req.channel)) ∧
      (∀ c : Consumer, c.handler.channel ≠ req.channel →
        c.parse (jobFor req u).toValue.write =
          .error (.malformed (req.channel.name ++ " job delivered to the " ++
            c.handler.channel.name ++ " worker"))) := by
  have hp := (NotificationRequest.validate_eq_ok hv).2.2.2
  have hread : (Job.shape.readText (jobFor req u).toValue.write).map Job.ofValue =
      .ok (jobFor req u) := by
    rw [Job.readText_write_of_faithful _ (Nat.le_trans hp (by decide)) hvars]
    exact congrArg Except.ok (Job.ofValue_readEntries _)
  exact ⟨handleRequest_runWith_fresh now req u hv hu, hp, hread,
    parse_jobFor_of_channel_eq u hv hvars, parse_jobFor_of_channel_ne u hv hvars⟩

/-- A welcome email for a user with an address: the email worker takes the job as the gateway
built it. -/
theorem welcome_email_handed_off :
    let req : NotificationRequest :=
      { requestId := "req-1", channel := .email, userId := "user-1", templateCode := "welcome",
        vars := [("name", .str "Ada")], priority := 5 }
    let u : User :=
      { id := "user-1", email := some "ada@example.com", preferences := some { email := true } }
    let worker : Consumer :=
      { handler := .email "noreply@example.com",
        topology := Broker.Topology.new "notifications" .email 5000 }
    req.validate = .ok () ∧ u.accepts req.channel = true ∧ (Value.obj req.vars).Faithful 127 ∧
      worker.parse (jobFor req u).toValue.write = .ok (jobFor req u) := by
  intro req u worker
  have hv : req.validate = .ok () := by
    have hr : Text.isBlankText "req-1" = false := by decide
    have hu : Text.isBlankText "user-1" = false := by decide
    have ht : Text.isBlankText "welcome" = false := by decide
    simp [req, NotificationRequest.validate, maxPriority, hr, hu, ht]
  have hu : u.accepts req.channel = true := rfl
  have hvars : (Value.obj req.vars).Faithful 127 :=
    .obj 127 _ (by decide) (List.pairwise_singleton _ _) fun e he => by
      rw [List.mem_singleton.1 he]
      exact .str _ _
  have hl : ¬ u.LacksAddress req.channel := by
    rintro (h | ⟨e, he, hb⟩)
    · cases h
    · cases he
      exact absurd hb (by decide)
  obtain ⟨-, -, -, hsame, -⟩ := handleRequest_hands_off_job ⟨0, 0⟩ req u hv hu hvars
  exact ⟨hv, hu, hvars, (hsame worker rfl).1.2 hl⟩

end Gateway

end Courier
