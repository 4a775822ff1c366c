import Courier.Service.Caller
import Courier.Proofs.RefusedCalls

/-!
# Calling a service by name

`Caller.callWith` first resolves the service through the catalog, then sends the request under
the service's breaker. Here it runs in the state monad over the log of requests sent: every
request is answered by a network `w` that sees the requests sent before it (so any sequence of
catalog and service outcomes can be produced), and is then logged (`logged`).

`Called` lists the six ways one call can go, each with what it returns, the caller after it and
the log after it, and `callWith_called` shows that every call goes one of them:

* discovery fails, and its fault is returned with the caller as it was, so the service's breaker
  is neither consulted nor made;
* the breaker refuses the call, and nothing is sent after the catalog lookup;
* the call is let through, and the request cannot be built, fails, gets no answer before the
  breaker's time limit, or is answered. A failure is an unavailable service, no answer a timeout,
  and an answer gives its body on a success status and a `downstream` fault carrying it
  otherwise. The breaker records every such call, as a failure exactly when the request could not
  be built or delivered, got no answer, or was answered with a status of 500 or more.

Discovery sends nothing but one lookup to the catalog, and fails only as an unavailable discovery
or an unknown service (`resolveWith_sent`, `resolveWith_error`); the request forwarded to the
service never carries `content-length` or `host` (`outgoing_no_hop_headers`).
-/

namespace Courier.Service

open Courier.Json Courier.Net Courier.Breaker

/-- A computation of a caller against a network that logs the requests sent, in order. -/
abbrev Sent := StateM (List HttpRequest)

/-- The port of a network `w` that answers each request from the requests sent before it, and
then logs it. -/
def logged (w : List HttpRequest → HttpRequest → HttpOutcome) (r : HttpRequest) :
    Sent HttpOutcome :=
  modifyGet fun log => (w log r, log ++ [r])

/-- The caller after a call let through the breaker of `s` as `adm`, leaving the breaker `b`,
ended at `stop`, and was recorded as a failure or not. -/
def Caller.afterCall (c : Caller) (s : String) (b : Circuit) (stop : Nat) (adm : Admission)
    (failed : Bool) : Caller :=
  { c with breakers := (c.breakers.touch s).1.put s (b.record c.breakers.config stop adm failed).1 }

variable (w : List HttpRequest → HttpRequest → HttpOutcome)

/-! ### Running the stages -/

@[simp] theorem Registry.touch_config (r : Registry) (s : String) :
    (r.touch s).1.config = r.config := by
  unfold Registry.touch
  split <;> rfl

theorem resolveWith_run (base name : String) (log : List HttpRequest) :
    (resolveWith (logged w) base name).run log =
      match requestUrl (catalogUrl base name) with
      | .error e => (.error (.discoveryUnavailable name e.message), log)
      | .ok url =>
        (readCatalog name url (w log { method := "GET", url }), log ++ [{ method := "GET", url }]) := by
  unfold resolveWith
  cases requestUrl (catalogUrl base name) <;> rfl

theorem sendWith_run (s url : String) (req : ServiceRequest) (log : List HttpRequest) :
    (sendWith (logged w) s url req).run log =
      match outgoing url req with
      | .error e => (.failed (.serviceUnavailable s e.message), log)
      | .ok r => (readAnswer s (w log r), log ++ [r]) := by
  unfold sendWith
  cases outgoing url req <;> rfl

variable {w}

theorem callWith_run_of_error {c : Caller} {now : Nat} {s : String} {req : ServiceRequest}
    {log log₁ : List HttpRequest} {f : Fault}
    (h : (resolveWith (logged w) c.discovery s).run log = (.error f, log₁)) :
    (c.callWith (logged w) now s req).run log = ((.error f, c), log₁) := by
  unfold Caller.callWith
  rw [StateT.run_bind, h]
  rfl

theorem callWith_run_of_ok {c : Caller} {now : Nat} {s : String} {req : ServiceRequest}
    {log log₁ : List HttpRequest} {e : Endpoint}
    (h : (resolveWith (logged w) c.discovery s).run log = (.ok e, log₁)) :
    (c.callWith (logged w) now s req).run log =
      (((c.breakers.touch s).2.callWith c.breakers.config s now
          (sendWith (logged w) s (e.urlFor req.stripHopHeaders.path) req.stripHopHeaders)).run log₁ |>
        fun p => ((p.1.1, { c with breakers := (c.breakers.touch s).1.put s p.1.2.1 }), p.2)) := by
  unfold Caller.callWith
  rw [StateT.run_bind, h, ← Registry.touch_config c.breakers s]
  rfl

theorem callWith_run_of_admitted {c : Caller} {now : Nat} {s : String} {req : ServiceRequest}
    {log log₁ : List HttpRequest} {e : Endpoint} {adm : Admission} {b : Circuit}
    {ts : List (CircuitState × CircuitState)}
    (hres : (resolveWith (logged w) c.discovery s).run log = (.ok e, log₁))
    (hadm : Circuit.admit c.breakers.config s now (c.breakers.touch s).2 = (.ok adm, b, ts)) :
    (c.callWith (logged w) now s req).run log =
      let sent := (sendWith (logged w) s (e.urlFor req.stripHopHeaders.path)
        req.stripHopHeaders).run log₁
      let o := timeLimited c.breakers.config s sent.1
      ((o, c.afterCall s b (endTime c.breakers.config now sent.1) adm (isFailure o)), sent.2) := by
  rw [callWith_run_of_ok hres, Circuit.callWith_of_admit hadm, StateT.run_bind]
  rfl

/-! ### Discovery -/

theorem readCatalog_error {name : String} {url : Url} {x : HttpOutcome} {f : Fault}
    (h : readCatalog name url x = .error f) :
    (∃ m, f = .discoveryUnavailable name m) ∨ ∃ what, f = .notFound what := by
  unfold readCatalog at h
  split at h
  · cases h
    exact .inl ⟨_, rfl⟩
  · cases h
    exact .inl ⟨_, rfl⟩
  · split at h
    · cases h
      exact .inl ⟨_, rfl⟩
    · split at h
      · cases h
        exact .inl ⟨_, rfl⟩
      · -- an endpoint was found
        cases h
      · cases h
        exact .inr ⟨_, rfl⟩

theorem resolveWith_error {base name : String} {log log₁ : List HttpRequest} {f : Fault}
    (h : (resolveWith (logged w) base name).run log = (.error f, log₁)) :
    (∃ m, f = .discoveryUnavailable name m) ∨ ∃ what, f = .notFound what := by
  rw [resolveWith_run] at h
  split at h
  · cases h
    exact .inl ⟨_, rfl⟩
  · exact readCatalog_error (Prod.mk.inj h).1

theorem resolveWith_sent (base name : String) (log : List HttpRequest) :
    ∃ sent, ((resolveWith (logged w) base name).run log).2 = log ++ sent ∧
      (sent = [] ∨ ∃ url, requestUrl (catalogUrl base name) = .ok url ∧
        sent = [{ method := "GET", url }]) := by
  rw [resolveWith_run]
  cases hu : requestUrl (catalogUrl base name) with
  | error e => exact ⟨[], by simp, .inl rfl⟩
  | ok url => exact ⟨_, rfl, .inr ⟨url, rfl, rfl⟩⟩

/-! ### The request forwarded -/

theorem outgoing_headers {url : String} {req : ServiceRequest} {r : HttpRequest}
    (h : outgoing url req = .ok r) :
    ∀ x ∈ r.headers, x ∈ req.headers ∨ x = ("content-type", "application/json") := by
  unfold outgoing at h
  split at h
  · cases h
  · cases h
    intro x hx
    simp only [List.mem_append] at hx
    rcases hx with hx | hx
    · exact .inl hx
    · split at hx <;> simp_all

theorem outgoing_no_hop_headers {url : String} {req : ServiceRequest} {r : HttpRequest}
    (h : outgoing url req.stripHopHeaders = .ok r) :
    ∀ x ∈ r.headers, x.1 ≠ "content-length" ∧ x.1 ≠ "host" := by
  intro x hx
  rcases outgoing_headers h x hx with hx | rfl
  · -- what the stripping kept
    have hkept := (List.mem_filter.1 hx).2
    simp only [Bool.and_eq_true, bne_iff_ne, ne_eq] at hkept
    exact hkept
  · exact ⟨by decide, by decide⟩

/-! ### The service's answer -/

theorem timeLimited_readAnswer (cfg : BreakerConfig) (s : String) (x : HttpOutcome) :
    timeLimited cfg s (readAnswer s x) =
      match x with
      | .answered r =>
        if isSuccess r.status then .ok (answerBody r.body)
        else .error (.downstream s r.status (answerBody r.body))
      | .failed e => .error (.serviceUnavailable s e.message)
      | .silent => .error (.timeout s cfg.timeoutMs) := by
  cases x with
  | answered r =>
    simp only [readAnswer]
    split <;> rfl
  | failed e => rfl
  | silent => rfl

theorem endTime_readAnswer_answered (cfg : BreakerConfig) (now : Nat) (s : String)
    (r : HttpResponse) : endTime cfg now (readAnswer s (.answered r)) = now := by
  simp only [readAnswer]
  split <;> rfl

theorem isFailure_answered (cfg : BreakerConfig) (s : String) (r : HttpResponse) :
    isFailure (timeLimited cfg s (readAnswer s (.answered r))) = decide (500 ≤ r.status) := by
  rw [timeLimited_readAnswer]
  simp only
  split
  · rename_i hs
    simp only [isSuccess, Bool.and_eq_true, decide_eq_true_eq] at hs
    have : ¬ 500 ≤ r.status := by omega
    simp [isFailure, this]
  · rfl

/-! ### Every way a call goes -/

variable (w) (c : Caller) (now : Nat) (s : String) (req : ServiceRequest) (log : List HttpRequest)

/-- The ways a call of the service `s` at `now` can go, from the log `log` of requests sent
before: what it returns, the caller after it and the log after it. `log₁` is the log after
discovery; the breaker of `s` is the one the registry has, made closed if new. -/
inductive Called : Outcome Value → Caller → List HttpRequest → Prop
  /-- discovery fails: its fault is returned, and the caller is as it was -/
  | unresolved {f : Fault} {log₁ : List HttpRequest} :
      (resolveWith (logged w) c.discovery s).run log = (.error f, log₁) → Called (.error f) c log₁
  /-- the breaker refuses the call: nothing more is sent, and the breaker is as it was -/
  | refused {e : Endpoint} {log₁ : List HttpRequest} :
      (resolveWith (logged w) c.discovery s).run log = (.ok e, log₁) →
      Circuit.Refuses c.breakers.config now (c.breakers.touch s).2 →
      Called (.error (.circuitOpen s))
        { c with breakers := (c.breakers.touch s).1.put s (c.breakers.touch s).2 } log₁
  /-- the request cannot be built: nothing is sent, and the service counts as unavailable -/
  | unbuilt {e : Endpoint} {log₁ : List HttpRequest} {adm : Admission} {b : Circuit}
      {ts : List (CircuitState × CircuitState)} {err : TransportError} :
      (resolveWith (logged w) c.discovery s).run log = (.ok e, log₁) →
      Circuit.admit c.breakers.config s now (c.breakers.touch s).2 = (.ok adm, b, ts) →
      outgoing (e.urlFor req.stripHopHeaders.path) req.stripHopHeaders = .error err →
      Called (.error (.serviceUnavailable s err.message)) (c.afterCall s b now adm true) log₁
  /-- the service answers: its body on a success status, a `downstream` fault otherwise, and
  a failure of the service when the status is 500 or more -/
  | answered {e : Endpoint} {log₁ : List HttpRequest} {adm : Admission} {b : Circuit}
      {ts : List (CircuitState × CircuitState)} {hr : HttpRequest} {r : HttpResponse} :
      (resolveWith (logged w) c.discovery s).run log = (.ok e, log₁) →
      Circuit.admit c.breakers.config s now (c.breakers.touch s).2 = (.ok adm, b, ts) →
      outgoing (e.urlFor req.stripHopHeaders.path) req.stripHopHeaders = .ok hr →
      w log₁ hr = .answered r →
      Called
        (if isSuccess r.status then .ok (answerBody r.body)
          else .error (.downstream s r.status (answerBody r.body)))
        (c.afterCall s b now adm (decide (500 ≤ r.status))) (log₁ ++ [hr])
  /-- the request fails: the service counts as unavailable -/
  | failed {e : Endpoint} {log₁ : List HttpRequest} {adm : Admission} {b : Circuit}
      {ts : List (CircuitState × CircuitState)} {hr : HttpRequest} {err : TransportError} :
      (resolveWith (logged w) c.discovery s).run log = (.ok e, log₁) →
      Circuit.admit c.breakers.config s now (c.breakers.touch s).2 = (.ok adm, b, ts) →
      outgoing (e.urlFor req.stripHopHeaders.path) req.stripHopHeaders = .ok hr →
      w log₁ hr = .failed err →
      Called (.error (.serviceUnavailable s err.message)) (c.afterCall s b now adm true)
        (log₁ ++ [hr])
  /-- no answer comes: the breaker's time limit ends the call as a timeout -/
  | timedOut {e : Endpoint} {log₁ : List HttpRequest} {adm : Admission} {b : Circuit}
      {ts : List (CircuitState × CircuitState)} {hr : HttpRequest} :
      (resolveWith (logged w) c.discovery s).run log = (.ok e, log₁) →
      Circuit.admit c.breakers.config s now (c.breakers.touch s).2 = (.ok adm, b, ts) →
      outgoing (e.urlFor req.stripHopHeaders.path) req.stripHopHeaders = .ok hr →
      w log₁ hr = .silent →
      Called (.error (.timeout s c.breakers.config.timeoutMs))
        (c.afterCall s b (now + c.breakers.config.timeoutMs * nanosPerMs) adm true) (log₁ ++ [hr])

/-- Every call goes one of the ways of `Called`. -/
theorem callWith_called :
    Called w c now s req log ((c.callWith (logged w) now s req).run log).1.1
      ((c.callWith (logged w) now s req).run log).1.2 ((c.callWith (logged w) now s req).run log).2 := by
  rcases hres : (resolveWith (logged w) c.discovery s).run log with ⟨d, log₁⟩
  cases d with
  | error f =>
    rw [callWith_run_of_error hres]
    exact .unresolved hres
  | ok e =>
    by_cases hr : Circuit.Refuses c.breakers.config now (c.breakers.touch s).2
    · rw [callWith_run_of_ok hres, Circuit.callWith_of_refuses hr]
      exact .refused hres hr
    obtain ⟨adm, b, ts, hadm⟩ := Circuit.admit_of_not_refuses s hr
    rw [callWith_run_of_admitted hres hadm, sendWith_run]
    cases hout : outgoing (e.urlFor req.stripHopHeaders.path) req.stripHopHeaders with
    | error err => exact .unbuilt hres hadm hout
    | ok hreq =>
      cases hw : w log₁ hreq with
      | answered r =>
        simp only [hw]
        rw [isFailure_answered, endTime_readAnswer_answered, timeLimited_readAnswer]
        exact .answered hres hadm hout hw
      | failed err =>
        simp only [hw]
        exact .failed hres hadm hout hw
      | silent =>
        simp only [hw]
        exact .timedOut hres hadm hout hw

/-- A call of a service by name, against a network that answers every request from the requests
sent before it: every call goes one of the ways of `Called`. Discovery fails only as an
unavailable discovery or an unknown service, and sends nothing but one lookup at the catalog;
after it, a call the breaker refuses sends nothing, and any other sends at most the request
forwarded to the service, which carries neither `content-length` nor `host`. -/
theorem call_by_name :
    let run := (c.callWith (logged w) now s req).run log
    Called w c now s req log run.1.1 run.1.2 run.2 ∧
    (∀ f log₁, (resolveWith (logged w) c.discovery s).run log = (.error f, log₁) →
      (∃ m, f = .discoveryUnavailable s m) ∨ ∃ what, f = .notFound what) ∧
    (∃ sent, ((resolveWith (logged w) c.discovery s).run log).2 = log ++ sent ∧
      (sent = [] ∨ ∃ url, requestUrl (catalogUrl c.discovery s) = .ok url ∧
        sent = [{ method := "GET", url }])) ∧
    (∀ (e : Endpoint) (hr : HttpRequest), outgoing (e.urlFor req.stripHopHeaders.path) req.stripHopHeaders = .ok hr →
      ∀ x ∈ hr.headers, x.1 ≠ "content-length" ∧ x.1 ≠ "host") :=
  ⟨callWith_called w c now s req log, fun _ _ h => resolveWith_error h,
    resolveWith_sent c.discovery s log, fun _ _ h => outgoing_no_hop_headers h⟩

end Courier.Service
