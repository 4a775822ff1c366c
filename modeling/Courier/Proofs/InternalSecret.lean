import Courier.Gateway.Routes
import Courier.Service.Clients
import Courier.Proofs.Named

/-!
# The internal secret

Workers report delivery outcomes to the gateway with the internal secret in the
`x-internal-secret` header, and the gateway takes reports, and drops cached users, only from
calls that carry it. The two sides read the header differently: a worker may put any byte but a
control character into it, while the gateway reads a value as text only when every byte is a
tab or visible ASCII.

The main statement (`internal_secret_guard`) says:

* on the report route and the cache route, a call whose header, read as text, is not the
  gateway's secret is refused without any port being used, whatever the ports do: with 401, or
  with 400 when its path parameter does not percent-decode to UTF-8, since the parameter is
  decoded before the handler looks at the header;
* a secret of tab and visible ASCII is accepted in the header of every request a worker builds,
  and a gateway holding the same secret lets a call carrying it through.

`secret_guard_gaps` shows where the first point stops short of "always 401" and where the
agreement ends: a secret with a byte above 127 is accepted by the worker and refused by the
gateway.
-/

namespace Courier.Gateway

open Courier.Service

/-- The reply to a call on a route that needs the secret, when it does not carry it: a path
parameter that does not decode is refused first, as a bad parameter named `key`. -/
def refusal (key raw : String) : Reply :=
  match decodeParam raw with
  | none => badParam key
  | some _ => unauthorized

/-! ### The gateway's side -/

theorem authorized_eq_false {c : HttpCall} {secret : String}
    (h : (c.header? secretHeader).bind headerText? ≠ some secret) : authorized c secret = false := by
  simpa [authorized] using h

theorem headerText?_of_visible {v : String} (h : ∀ b ∈ v.toUTF8.toList, visibleByte b = true) :
    headerText? v = some v := by
  unfold headerText?
  rw [if_pos (List.all_eq_true.2 h)]

section Refused

variable {m : Type → Type} [Monad m] (p : GatewayPorts m) (now : Time.Instant)
  {c : HttpCall} {secret : String}

theorem serve_of_route {route : Route} (hr : routeOf c.path = some route)
    (hm : c.method = route.method) :
    serve p secret now c = Answer.ofReply <$> serveRoute p secret now c route := by
  simp [serve, hr, hm]

theorem reportStatus_of_unauthorized (h : authorized c secret = false) (channel : String) :
    reportStatus p secret now c channel = pure unauthorized := by
  simp [reportStatus, h]

theorem serveRoute_report_refused (h : authorized c secret = false) (raw : String) :
    serveRoute p secret now c (.report raw) = pure (refusal "channel" raw) := by
  cases hd : decodeParam raw with
  | none => simp [serveRoute, refusal, hd]
  | some ch => simp [serveRoute, refusal, hd, reportStatus_of_unauthorized p now h]

theorem serveRoute_forget_refused (h : authorized c secret = false) (raw : String) :
    serveRoute p secret now c (.forget raw) = pure (refusal "user_id" raw) := by
  cases hd : decodeParam raw with
  | none => simp [serveRoute, refusal, hd]
  | some u => simp [serveRoute, refusal, hd, h]

end Refused

/-! ### The worker's side -/

theorem headerByteOk_of_visibleByte {b : UInt8} (h : visibleByte b = true) : headerByteOk b = true := by
  simp only [visibleByte, headerByteOk, Bool.or_eq_true, Bool.and_eq_true, decide_eq_true_eq,
    bne_iff_ne, ne_eq, beq_iff_eq] at h ⊢
  rcases h with ⟨h32, h127⟩ | h9
  · exact .inl ⟨h32, by intro h; simp [h] at h127⟩
  · exact .inr h9

theorem withHeader_of_allowed (r : ServiceRequest) (name : String) {v : String}
    (h : ∀ b ∈ v.toUTF8.toList, headerByteOk b = true) :
    r.withHeader name v = .ok { r with headers := r.headers.filter (·.1 != name) ++ [(name, v)] } := by
  unfold ServiceRequest.withHeader
  rw [if_pos (List.all_eq_true.2 h)]

/-- The internal secret on both sides, as the gateway and its workers hold the same one. On the
report and cache routes, a call whose secret header, read as text, is not the gateway's secret
is refused whatever the ports are, without using them: with 401 once its path parameter
decodes, with 400 before that. A secret of tab and visible ASCII is set in a worker's request
under the header the gateway reads, and a gateway holding it lets a call carrying it through. -/
theorem internal_secret_guard :
    (∀ {m : Type → Type} [Monad m] [LawfulMonad m] (p : GatewayPorts m) (secret : String)
        (now : Time.Instant) (c : HttpCall) (raw : String),
      (c.header? secretHeader).bind headerText? ≠ some secret →
      (routeOf c.path = some (.report raw) → c.method = "POST" →
        serve p secret now c = pure (Answer.ofReply (refusal "channel" raw))) ∧
      (routeOf c.path = some (.forget raw) → c.method = "DELETE" →
        serve p secret now c = pure (Answer.ofReply (refusal "user_id" raw)))) ∧
    (∀ secret : String, (∀ b ∈ secret.toUTF8.toList, visibleByte b = true) →
      ∀ r : ServiceRequest, ∃ r', r.withHeader internalSecretHeader secret = .ok r' ∧
        r'.headers.lookup secretHeader = some secret ∧
        ∀ c : HttpCall, c.header? secretHeader = some secret → authorized c secret = true) := by
  refine ⟨?_, ?_⟩
  · intro m _ _ p secret now c raw hsecret
    have h := authorized_eq_false hsecret
    refine ⟨fun hr hm => ?_, fun hr hm => ?_⟩
    · rw [serve_of_route p now hr hm, serveRoute_report_refused p now h, map_pure]
    · rw [serve_of_route p now hr hm, serveRoute_forget_refused p now h, map_pure]
  · intro secret hvis r
    -- the worker sets the header under the very name the gateway reads
    have hname : secretHeader = internalSecretHeader := rfl
    refine ⟨_, withHeader_of_allowed r internalSecretHeader
      fun b hb => headerByteOk_of_visibleByte (hvis b hb), ?_, ?_⟩
    · rw [lookup_put, if_pos hname]
    · intro c hc
      simp [authorized, hc, headerText?_of_visible hvis]

/-- Ports that answer every call, for runs that should use none. -/
def quietPorts : GatewayPorts Id where
  user _ := .error (.notFound "User")
  invalidate _ := ()
  lookup _ := .ok none
  create _ := .ok none
  store _ := .ok ()
  publish _ _ _ := .ok ()

/-- A report that carries a wrong secret is refused with 401, and no port is asked; one that
carries the secret, set as a worker sets it, is let through. -/
theorem wrong_secret_report_refused :
    (HttpCall.header? ⟨"POST", "/api/v1/notifications/email/status", [(secretHeader, "guess")], ""⟩
        secretHeader).bind headerText? ≠ some "s3cr3t" ∧
    routeOf "/api/v1/notifications/email/status" = some (.report "email") ∧
    serve quietPorts "s3cr3t" ⟨0, 0⟩
        ⟨"POST", "/api/v1/notifications/email/status", [(secretHeader, "guess")], ""⟩ =
      pure (Answer.ofReply unauthorized) ∧
    (∀ b ∈ "s3cr3t".toUTF8.toList, visibleByte b = true) ∧
    authorized ⟨"POST", "/api/v1/notifications/email/status", [(secretHeader, "s3cr3t")], ""⟩
      "s3cr3t" = true := by
  have hwrong : (HttpCall.header?
      ⟨"POST", "/api/v1/notifications/email/status", [(secretHeader, "guess")], ""⟩
        secretHeader).bind headerText? ≠ some "s3cr3t" := by decide +kernel
  have hroute : routeOf "/api/v1/notifications/email/status" = some (.report "email") := by
    have hs : "/api/v1/notifications/email/status".splitOn "/" =
        ["", "api", "v1", "notifications", "email", "status"] := by
      simp +decide [String.splitOn, String.splitOnAux]
    rw [routeOf, hs]
    rfl
  have hdecoded : decodeParam "email" = some "email" := by decide +kernel
  have hvisible : ∀ b ∈ "s3cr3t".toUTF8.toList, visibleByte b = true := by decide +kernel
  refine ⟨hwrong, hroute, ?_, hvisible, ?_⟩
  · rw [(internal_secret_guard.1 quietPorts "s3cr3t" ⟨0, 0⟩ _ "email" hwrong).1 hroute rfl]
    simp [refusal, hdecoded]
  · obtain ⟨_, -, -, hlet⟩ := internal_secret_guard.2 "s3cr3t" hvisible
      (ServiceRequest.post "/api/v1/notifications/email/status" .null)
    exact hlet _ rfl

/-- Where an unsigned call is not answered 401, and where the two sides stop agreeing: a report
whose channel is not UTF-8 is refused with 400 before the secret is read, and a secret with a
byte above 127 goes into a worker's request but is refused by the gateway. -/
theorem secret_guard_gaps :
    (Id.run (serve quietPorts "s3cr3t" ⟨0, 0⟩
        ⟨"POST", "/api/v1/notifications/%FF/status", [], ""⟩)).status = 400 ∧
    ((ServiceRequest.post "/api/v1/notifications/email/status" .null).withHeader
        internalSecretHeader "é").toBool = true ∧
    authorized ⟨"POST", "/api/v1/notifications/email/status", [(secretHeader, "é")], ""⟩ "é" =
      false := by
  refine ⟨?_, by decide +kernel, by decide +kernel⟩
  have hroute : routeOf (HttpCall.path ⟨"POST", "/api/v1/notifications/%FF/status", [], ""⟩) =
      some (.report "%FF") := by
    have hpath : HttpCall.path ⟨"POST", "/api/v1/notifications/%FF/status", [], ""⟩ =
        "/api/v1/notifications/%FF/status" := by decide +kernel
    have hs : "/api/v1/notifications/%FF/status".splitOn "/" =
        ["", "api", "v1", "notifications", "%FF", "status"] := by
      simp +decide [String.splitOn, String.splitOnAux]
    rw [hpath, routeOf, hs]
    rfl
  have hbad : decodeParam "%FF" = none := by decide +kernel
  have hunsigned : authorized ⟨"POST", "/api/v1/notifications/%FF/status", [], ""⟩ "s3cr3t" =
      false := by decide +kernel
  rw [Id.run, serve_of_route quietPorts ⟨0, 0⟩ hroute rfl,
    serveRoute_report_refused quietPorts ⟨0, 0⟩ hunsigned]
  simp only [refusal, hbad, badParam, map_pure, Answer.ofReply]
  rfl

end Courier.Gateway
