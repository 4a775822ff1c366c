import Courier.Gateway.Orchestrator

/-!
# Gateway calls as scripts

To run several gateway calls side by side, each call is taken apart at its port calls: a
`Script` is a computation that stops at every call to a port until the call is answered, and
`scriptPorts` are the ports that do so. Handling a request then becomes a script of at most four
calls (`handleRequest_eq`): the user, the lookup of the request id, the creation of the pending
record and the publish of the job, each stage a definition of its own (`starting`, `lookingUp`,
`creating`, `publishing`). Folding in a status report only looks a record up and stores one
(`updateStatus_within`).
-/

namespace Courier.Gateway

open Courier.Broker

/-- A call to one of the gateway's ports. -/
inductive GatewayCall where
  | user (id : String)
  | invalidate (id : String)
  | lookup (requestId : String)
  | create (record : StatusRecord)
  | store (record : StatusRecord)
  | publish (key payload : String) (opts : PublishOptions)

/-- What a call is answered with. -/
def GatewayCall.Answer : GatewayCall → Type
  | .user _ => Outcome User
  | .invalidate _ => Unit
  | .lookup _ | .create _ => Outcome (Option StatusRecord)
  | .store _ | .publish .. => Outcome Unit

/-- Calls that neither create a record nor publish. -/
def GatewayCall.quiet : GatewayCall → Bool
  | .create _ | .publish .. => false
  | _ => true

/-- A computation of the gateway that stops at each port call until it is answered. -/
inductive Script (α : Type) where
  | done (a : α)
  | call (c : GatewayCall) (k : c.Answer → Script α)

namespace Script

/-- Runs `f` on the result of a script, after all of its calls. -/
def bind {α β : Type} : Script α → (α → Script β) → Script β
  | .done a, f => f a
  | .call c k, f => .call c fun a => (k a).bind f

instance : Monad Script where
  pure := .done
  bind := Script.bind

theorem call_congr {α : Type} {c : GatewayCall} {k k' : c.Answer → Script α}
    (h : ∀ a, k a = k' a) : Script.call c k = Script.call c k' :=
  congrArg _ (funext h)

/-- Every call a script can make satisfies `P`, whatever the answers. -/
inductive Within {α : Type} (P : GatewayCall → Prop) : Script α → Prop
  | done (a : α) : Within P (.done a)
  | call {c : GatewayCall} {k : c.Answer → Script α} : P c → (∀ a, Within P (k a)) →
      Within P (.call c k)

theorem Within.next {α : Type} {P : GatewayCall → Prop} {c : GatewayCall}
    {k : c.Answer → Script α} (h : Within P (.call c k)) (a : c.Answer) : Within P (k a) := by
  cases h with
  | call _ hk => exact hk a

theorem Within.head {α : Type} {P : GatewayCall → Prop} {c : GatewayCall}
    {k : c.Answer → Script α} (h : Within P (.call c k)) : P c := by
  cases h with
  | call hc _ => exact hc

theorem Within.imp {α : Type} {P Q : GatewayCall → Prop} (hPQ : ∀ c, P c → Q c)
    {s : Script α} (h : s.Within P) : s.Within Q := by
  induction h with
  | done a => exact .done a
  | call hc _ ih => exact .call (hPQ _ hc) ih

end Script

/-- The ports of a script: every call waits for its answer. -/
def scriptPorts : GatewayPorts Script where
  user id := .call (.user id) .done
  invalidate id := .call (.invalidate id) .done
  lookup r := .call (.lookup r) .done
  create record := .call (.create record) .done
  store record := .call (.store record) .done
  publish key payload opts := .call (.publish key payload opts) .done

/-! ### The stages of handling a request -/

/-- The pending record that handling `req` at `now` writes. -/
def pendingOf (now : Time.Instant) (req : NotificationRequest) : StatusRecord :=
  StatusRecord.pending req.requestId req.channel req.priority now

@[simp] theorem pendingOf_requestId (now : Time.Instant) (req : NotificationRequest) :
    (pendingOf now req).requestId = req.requestId := rfl

/-- What handling `req` returns once the broker answered its publish. -/
def publishResult (now : Time.Instant) (req : NotificationRequest) :
    Outcome Unit → Outcome HandleOutcome
  | .ok _ => .ok (.queued (pendingOf now req))
  | .error _ => .error (.serviceUnavailable "message_broker" "Failed to queue notification.")

/-- Publishing the job of `req` for the user `u`, the pending record written. -/
def publishing (now : Time.Instant) (req : NotificationRequest) (u : User) :
    Script (Outcome HandleOutcome) :=
  .call (.publish req.channel.name (jobFor req u).toValue.write (.withPriority req.priority))
    fun a => .done (publishResult now req a)

/-- Creating the pending record, unless one exists by now. -/
def creating (now : Time.Instant) (req : NotificationRequest) (u : User) :
    Script (Outcome HandleOutcome) :=
  .call (.create (pendingOf now req)) fun
    | .ok none => publishing now req u
    | .ok (some existing) => .done (.ok (replay existing))
    | .error e => .done (.error e)

/-- Looking the request id up. -/
def lookingUp (now : Time.Instant) (req : NotificationRequest) (u : User) :
    Script (Outcome HandleOutcome) :=
  .call (.lookup req.requestId) fun
    | .ok none => creating now req u
    | .ok (some existing) => .done (.ok (replay existing))
    | .error e => .done (.error e)

/-- Asking for the user of a valid request. -/
def starting (now : Time.Instant) (req : NotificationRequest) : Script (Outcome HandleOutcome) :=
  .call (.user req.userId) fun
    | .ok u => if !u.accepts req.channel then .done (.ok .disabledByUser) else lookingUp now req u
    | .error e => .done (.error e)

/-- Handling a request, taken apart at its port calls. -/
theorem handleRequest_eq (now : Time.Instant) (req : NotificationRequest) :
    handleRequest scriptPorts now req =
      match req.validate with
      | .ok _ => starting now req
      | .error e => .done (.error e) := by
  unfold handleRequest
  cases req.validate with
  | error e => rfl
  | ok _ =>
    -- stage by stage: the same call, then the same continuation for every answer
    refine Script.call_congr fun a => ?_
    rcases a with e | u
    · rfl
    dsimp only [Script.bind, ExceptT.bindCont]
    cases u.accepts req.channel
    · rfl
    refine Script.call_congr fun b => ?_
    rcases b with e | _ | existing
    · rfl
    · refine Script.call_congr fun d => ?_
      rcases d with e | _ | existing
      · rfl
      · refine Script.call_congr fun x => ?_
        cases x <;> rfl
      · rfl
    · rfl

theorem updateStatus_within (now : Time.Instant) (ch : Channel) (u : StatusUpdate) :
    (updateStatus scriptPorts now ch u).Within fun c => c.quiet = true := by
  unfold updateStatus
  by_cases hb : Text.isBlankText u.requestId = true
  · simp only [hb]
    exact .done _
  · simp only [hb]
    refine .call rfl fun a => ?_
    rcases a with e | existing
    · exact .done _
    · refine .call rfl fun b => ?_
      rcases b with e | _ <;> exact .done _

/-! ### What a handling publishes -/

theorem NotificationRequest.validate_eq_ok {req : NotificationRequest}
    (h : req.validate = .ok ()) :
    Text.isBlankText req.requestId = false ∧ Text.isBlankText req.userId = false ∧
      Text.isBlankText req.templateCode = false ∧ req.priority ≤ maxPriority := by
  unfold NotificationRequest.validate at h
  split at h
  · cases h
  split at h
  · cases h
  split at h
  · cases h
  split at h
  · cases h
  · rename_i hr hu ht hp
    exact ⟨by simpa using hr, by simpa using hu, by simpa using ht, by omega⟩

/-- A call that, if it publishes, publishes the job of `req` for a user who accepts its channel,
under the channel's name and with the request's priority, which is at most `maxPriority`. -/
def GatewayCall.PublishesJobOf (req : NotificationRequest) (call : GatewayCall) : Prop :=
  ∀ key payload opts, call = .publish key payload opts →
    key = req.channel.name ∧ opts = .withPriority req.priority ∧ req.priority ≤ maxPriority ∧
      ∃ u : User, u.accepts req.channel = true ∧ payload = (jobFor req u).toValue.write

section Stages

variable (now : Time.Instant) (req : NotificationRequest) (hp : req.priority ≤ maxPriority)
  (u : User) (hu : u.accepts req.channel = true)
include hp hu

theorem publishing_within : (publishing now req u).Within (GatewayCall.PublishesJobOf req) :=
  .call (fun _ _ _ h => by cases h; exact ⟨rfl, rfl, hp, u, hu, rfl⟩) fun _ => .done _

theorem creating_within : (creating now req u).Within (GatewayCall.PublishesJobOf req) := by
  refine .call (fun _ _ _ h => by cases h) fun a => ?_
  rcases a with e | _ | existing
  · exact .done _
  · exact publishing_within now req hp u hu
  · exact .done _

theorem lookingUp_within : (lookingUp now req u).Within (GatewayCall.PublishesJobOf req) := by
  refine .call (fun _ _ _ h => by cases h) fun a => ?_
  rcases a with e | _ | existing
  · exact .done _
  · exact creating_within now req hp u hu
  · exact .done _

end Stages

/-- Every publish of a handling is the job of its request for a user who accepts the request's
channel, under the channel's name, with the request's priority, after the request passed its
checks. -/
theorem handleRequest_publishes_job (now : Time.Instant) (req : NotificationRequest) :
    (handleRequest scriptPorts now req).Within (GatewayCall.PublishesJobOf req) := by
  rw [handleRequest_eq]
  cases hv : req.validate with
  | error e => exact .done _
  | ok _ =>
    have hp := (NotificationRequest.validate_eq_ok hv).2.2.2
    refine .call (fun _ _ _ h => by cases h) fun a => ?_
    rcases a with e | u
    · exact .done _
    · dsimp only
      split
      · exact .done _
      · rename_i hu
        exact lookingUp_within now req hp u (by simpa using hu)

end Courier.Gateway
