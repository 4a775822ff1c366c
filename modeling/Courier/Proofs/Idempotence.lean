import Courier.Proofs.GatewayScript
import Mathlib.Logic.Relation
import Mathlib.Logic.Function.Basic

/-!
# Handling requests is idempotent under concurrency

Any number of request handlings and status reports run side by side against one status store.
Each takes one step at a time, a step being one of its port calls answered at once, and the steps
of different calls interleave in any order (`Traffic.Step`). The store creates a record only where
none exists, stores by replacing, never removes a record, and may fail a call without changing
anything; the user directory and the broker answer anything (`Answers`).

Whatever the requests (several may share a request id), the order of the steps and the answers,
for every request id `r` (`handle_idempotent`):
* every publish carries the job of the request whose handling made it, at most one is made for
  `r`, and none when the store held a record for `r` at the start;
* at most one handling of `r` returns `queued`: the one whose create wrote the record;
* every other handling that finished returned `disabledByUser` without reaching the store, the
  replay of a record it read for `r`, or an error.

The proof carries `Traffic.Sound` along every step: where each handling stands given the calls it
made (`HandlerAt`), that status reports neither create nor publish, and that a record is created
at most once per request id.
-/

namespace Courier.Gateway

open Courier.Broker

/-- Who makes a call: the handling of the `i`-th request, or the folding in of the `j`-th status
report. -/
inductive Caller where
  | handler (i : Nat)
  | reporter (j : Nat)
  deriving DecidableEq

/-- A call and the answer it got. -/
abbrev Exchange := Σ c : GatewayCall, c.Answer

/-- Whether a call left something others can see: a record it created, or a publish. -/
def Exchange.writes : Exchange → Bool
  | ⟨.create _, .ok none⟩ | ⟨.publish .., _⟩ => true
  | _ => false

/-- Whether a call is a publish. -/
def Exchange.isPublish : Exchange → Bool
  | ⟨.publish .., _⟩ => true
  | _ => false

theorem Exchange.writes_of_isPublish {x : Exchange} (h : x.isPublish = true) :
    x.writes = true := by
  obtain ⟨c, a⟩ := x
  cases c <;> simp_all [isPublish, writes]

/-- A port call a caller made, with its answer. -/
structure Event where
  caller : Caller
  call : GatewayCall
  answer : call.Answer

namespace Event

/-- Whether the call created the record of the request id `k`. -/
def creates (k : String) : Event → Bool
  | ⟨_, .create record, .ok none⟩ => record.requestId == k
  | _ => false

/-- Whether the call is a publish made by the handling of a request with id `r` among
`requests`. -/
def publishFor (requests : List (Time.Instant × NotificationRequest)) (r : String) : Event → Bool
  | ⟨.handler i, .publish .., _⟩ => requests[i]?.map (·.2.requestId) == some r
  | _ => false

end Event

/-! ### The store -/

/-- The status store's records, by request id. -/
abbrev Records := String → Option StatusRecord

/-- How the world answers a call made against the records `records`, and the records after it.
The user directory and the broker answer anything. The store answers a lookup from its records,
creates a record only where none exists and otherwise returns the one there, stores by replacing,
never removes a record, and may fail a call without changing anything. -/
inductive Answers (records : Records) : (c : GatewayCall) → c.Answer → Records → Prop
  | user (id : String) (a : Outcome User) : Answers records (.user id) a records
  | invalidate (id : String) : Answers records (.invalidate id) () records
  | publish (key payload : String) (opts : PublishOptions) (a : Outcome Unit) :
      Answers records (.publish key payload opts) a records
  | lookup (requestId : String) :
      Answers records (.lookup requestId) (.ok (records requestId)) records
  | createFound {record existing : StatusRecord} : records record.requestId = some existing →
      Answers records (.create record) (.ok (some existing)) records
  | createNew {record : StatusRecord} : records record.requestId = none →
      Answers records (.create record) (.ok none)
        (Function.update records record.requestId (some record))
  | store (record : StatusRecord) :
      Answers records (.store record) (.ok ())
        (Function.update records record.requestId (some record))
  | lookupFailed (requestId : String) (e : Fault) :
      Answers records (.lookup requestId) (.error e) records
  | createFailed (record : StatusRecord) (e : Fault) :
      Answers records (.create record) (.error e) records
  | storeFailed (record : StatusRecord) (e : Fault) :
      Answers records (.store record) (.error e) records

namespace Answers

variable {records records' : Records} {c : GatewayCall} {a : c.Answer}

theorem none_of_none (h : Answers records c a records') {k : String} (hk : records' k = none) :
    records k = none := by
  cases h with
  | createNew _ | store _ =>
    rw [Function.update_apply] at hk
    split at hk
    · cases hk
    · exact hk
  | _ => exact hk

theorem of_creates (h : Answers records c a records') {who : Caller} {k : String}
    (hc : Event.creates k ⟨who, c, a⟩ = true) : records k = none ∧ records' k ≠ none := by
  cases h with
  | createNew hn =>
    simp only [Event.creates, beq_iff_eq] at hc
    subst hc
    exact ⟨hn, by simp⟩
  | _ => simp [Event.creates] at hc

end Answers

/-! ### Calls side by side -/

/-- Handlings of requests and foldings of status reports running side by side against one store:
the store's records, what is left of each call, and every port call made so far, in order. -/
structure Traffic where
  records : Records
  handlers : List (Script (Outcome HandleOutcome))
  reporters : List (Script (Outcome StatusRecord))
  trace : List Event

namespace Traffic

/-- The handlings of `requests`, each at its time, and the foldings of `reports`, all about to
start against the records `records`. -/
def start (records : Records) (requests : List (Time.Instant × NotificationRequest))
    (reports : List (Time.Instant × Channel × StatusUpdate)) : Traffic where
  records := records
  handlers := requests.map fun (now, req) => handleRequest scriptPorts now req
  reporters := reports.map fun (now, ch, u) => updateStatus scriptPorts now ch u
  trace := []

/-- One port call, by any call in flight that stands at one, answered at once. -/
inductive Step : Traffic → Traffic → Prop
  | handler {t : Traffic} {i : Nat} {c : GatewayCall}
      {k : c.Answer → Script (Outcome HandleOutcome)} {a : c.Answer} {records : Records} :
      t.handlers[i]? = some (.call c k) → Answers t.records c a records →
      Step t ⟨records, t.handlers.set i (k a), t.reporters, t.trace ++ [⟨.handler i, c, a⟩]⟩
  | reporter {t : Traffic} {j : Nat} {c : GatewayCall}
      {k : c.Answer → Script (Outcome StatusRecord)} {a : c.Answer} {records : Records} :
      t.reporters[j]? = some (.call c k) → Answers t.records c a records →
      Step t ⟨records, t.handlers, t.reporters.set j (k a), t.trace ++ [⟨.reporter j, c, a⟩]⟩

/-- The traffic that some interleaving reaches from the start. -/
def Reachable (records : Records) (requests : List (Time.Instant × NotificationRequest))
    (reports : List (Time.Instant × Channel × StatusUpdate)) (t : Traffic) : Prop :=
  Relation.ReflTransGen Step (start records requests reports) t

/-- The calls a caller made, with their answers, in order. -/
def history (t : Traffic) (who : Caller) : List Exchange :=
  (t.trace.filter (·.caller == who)).map fun e => ⟨e.call, e.answer⟩

theorem mem_history {t : Traffic} {who : Caller} {c : GatewayCall} {a : c.Answer} :
    ⟨c, a⟩ ∈ t.history who ↔ (⟨who, c, a⟩ : Event) ∈ t.trace := by
  constructor
  · intro h
    obtain ⟨⟨who', c', a'⟩, hm, he⟩ := List.mem_map.1 h
    simp only [List.mem_filter, beq_iff_eq] at hm
    obtain ⟨hm, rfl⟩ := hm
    obtain ⟨rfl, ha⟩ := Sigma.mk.inj he
    obtain rfl := eq_of_heq ha
    exact hm
  · intro h
    exact List.mem_map.2 ⟨_, List.mem_filter.2 ⟨h, by simp⟩, rfl⟩

theorem history_snoc_self {t t' : Traffic} {who : Caller} {c : GatewayCall} {a : c.Answer}
    (h : t'.trace = t.trace ++ [⟨who, c, a⟩]) : t'.history who = t.history who ++ [⟨c, a⟩] := by
  simp [history, h, List.filter_append]

theorem history_snoc_other {t t' : Traffic} {who who' : Caller} {c : GatewayCall}
    {a : c.Answer} (h : t'.trace = t.trace ++ [⟨who, c, a⟩]) (hne : who' ≠ who) :
    t'.history who' = t.history who' := by
  simp [history, h, List.filter_append, Ne.symm hne]

end Traffic

/-! ### Where a handling stands -/

section Handler

variable {now : Time.Instant} {req : NotificationRequest}

variable (now req) in
/-- Where the handling of `req` at `now` stands, given the calls it made with their answers:
about to ask for the user of a valid request, about to look the request id up for a user who
takes the channel, about to create the pending record, about to publish the job having written
that record, or finished. It finishes once the broker answered the publish, with the replay of a
record it read, when the user turned the channel off, or with an error before writing
anything. -/
inductive HandlerAt : List Exchange → Script (Outcome HandleOutcome) → Prop
  | start : req.validate = .ok () → HandlerAt [] (starting now req)
  | lookingUp {u : User} : u.accepts req.channel = true →
      HandlerAt [⟨.user req.userId, .ok u⟩] (lookingUp now req u)
  | creating {u : User} : u.accepts req.channel = true →
      HandlerAt [⟨.user req.userId, .ok u⟩, ⟨.lookup req.requestId, .ok none⟩]
        (creating now req u)
  | publishing {u : User} : u.accepts req.channel = true →
      HandlerAt [⟨.user req.userId, .ok u⟩, ⟨.lookup req.requestId, .ok none⟩,
        ⟨.create (pendingOf now req), .ok none⟩] (publishing now req u)
  | published {u : User} (a : Outcome Unit) : u.accepts req.channel = true →
      HandlerAt [⟨.user req.userId, .ok u⟩, ⟨.lookup req.requestId, .ok none⟩,
        ⟨.create (pendingOf now req), .ok none⟩,
        ⟨.publish req.channel.name (jobFor req u).toValue.write (.withPriority req.priority), a⟩]
        (.done (publishResult now req a))
  | replayed {h : List Exchange} {record : StatusRecord} :
      (⟨.lookup req.requestId, .ok (some record)⟩ ∈ h ∨
        ⟨.create (pendingOf now req), .ok (some record)⟩ ∈ h) →
      (h.all fun x => !x.writes) = true → HandlerAt h (.done (.ok (replay record)))
  | disabled {u : User} : u.accepts req.channel = false →
      HandlerAt [⟨.user req.userId, .ok u⟩] (.done (.ok .disabledByUser))
  | failed {h : List Exchange} {e : Fault} : (h.all fun x => !x.writes) = true →
      HandlerAt h (.done (.error e))

theorem HandlerAt.init : HandlerAt now req [] (handleRequest scriptPorts now req) := by
  rw [handleRequest_eq]
  cases hv : req.validate with
  | ok _ => exact .start hv
  | error e => exact .failed rfl

/-- One call of a handling, answered by the world, takes it to where the answer leads. -/
theorem HandlerAt.step {h : List Exchange} {s : Script (Outcome HandleOutcome)}
    {c : GatewayCall} {k : c.Answer → Script (Outcome HandleOutcome)} {a : c.Answer}
    {records records' : Records} (hp : HandlerAt now req h s) (hs : s = .call c k)
    (ha : Answers records c a records') : HandlerAt now req (h ++ [⟨c, a⟩]) (k a) := by
  cases hp with
  | start hv =>
    obtain ⟨rfl, hk⟩ := Script.call.inj hs
    obtain rfl := eq_of_heq hk
    rcases a with e | u
    · exact .failed rfl
    · cases hu : u.accepts req.channel
      · simp only [hu, Bool.not_false, ite_true]
        exact .disabled hu
      · simp only [hu, Bool.not_true]
        exact .lookingUp hu
  | lookingUp hu =>
    obtain ⟨rfl, hk⟩ := Script.call.inj hs
    obtain rfl := eq_of_heq hk
    cases ha with
    | lookup =>
      cases hr : records req.requestId with
      | none => exact .creating hu
      | some record => exact .replayed (.inl (by simp)) rfl
    | lookupFailed _ e => exact .failed rfl
  | creating hu =>
    obtain ⟨rfl, hk⟩ := Script.call.inj hs
    obtain rfl := eq_of_heq hk
    cases ha with
    | createNew _ => exact .publishing hu
    | @createFound _ existing _ => exact .replayed (.inr (by simp)) rfl
    | createFailed _ e => exact .failed rfl
  | publishing hu =>
    obtain ⟨rfl, hk⟩ := Script.call.inj hs
    obtain rfl := eq_of_heq hk
    exact .published a hu
  | published _ _ | replayed _ _ | disabled _ | failed _ => cases hs

theorem HandlerAt.of_publish {h : List Exchange} {s : Script (Outcome HandleOutcome)}
    {key payload : String} {opts : PublishOptions}
    {k : (GatewayCall.publish key payload opts).Answer → Script (Outcome HandleOutcome)}
    (hp : HandlerAt now req h s) (hs : s = .call (.publish key payload opts) k) :
    ∃ u : User, h = [⟨.user req.userId, .ok u⟩, ⟨.lookup req.requestId, .ok none⟩,
      ⟨.create (pendingOf now req), .ok none⟩] := by
  cases hp with
  | start _ | lookingUp _ | creating _ =>
    simp [Gateway.starting, Gateway.lookingUp, Gateway.creating] at hs
  | publishing _ => exact ⟨_, rfl⟩
  | published _ _ | replayed _ _ | disabled _ | failed _ => cases hs

theorem HandlerAt.of_isPublish {h : List Exchange} {s : Script (Outcome HandleOutcome)}
    (hp : HandlerAt now req h s) {x : Exchange} (hx : x ∈ h) (hpub : x.isPublish = true) :
    ∃ (u : User) (a : Outcome Unit), h = [⟨.user req.userId, .ok u⟩,
      ⟨.lookup req.requestId, .ok none⟩, ⟨.create (pendingOf now req), .ok none⟩,
      ⟨.publish req.channel.name (jobFor req u).toValue.write (.withPriority req.priority), a⟩] ∧
      s = .done (publishResult now req a) := by
  have quiet : ∀ {h : List Exchange}, (h.all fun x => !x.writes) = true → x ∈ h → False :=
    fun hw hx => by
      have := List.all_eq_true.1 hw x hx
      simp [Exchange.writes_of_isPublish hpub] at this
  cases hp with
  | published a _ => exact ⟨_, a, rfl, rfl⟩
  | replayed _ hw | failed hw => exact (quiet hw hx).elim
  | start _ => simp at hx
  | lookingUp _ | disabled _ =>
    simp only [List.mem_singleton] at hx
    subst hx
    simp [Exchange.isPublish] at hpub
  | creating _ | publishing _ =>
    simp only [List.mem_cons, List.not_mem_nil, or_false] at hx
    rcases hx with rfl | rfl | rfl <;> simp [Exchange.isPublish] at hpub

theorem HandlerAt.of_done {h : List Exchange} {s : Script (Outcome HandleOutcome)}
    {o : Outcome HandleOutcome} (hp : HandlerAt now req h s) (hs : s = .done o) :
    (∃ (u : User) (a : Outcome Unit), h = [⟨.user req.userId, .ok u⟩,
        ⟨.lookup req.requestId, .ok none⟩, ⟨.create (pendingOf now req), .ok none⟩,
        ⟨.publish req.channel.name (jobFor req u).toValue.write (.withPriority req.priority), a⟩] ∧
        o = publishResult now req a) ∨
      (∃ u : User, h = [⟨.user req.userId, .ok u⟩] ∧ o = .ok .disabledByUser) ∨
      (∃ record, (⟨.lookup req.requestId, .ok (some record)⟩ ∈ h ∨
        ⟨.create (pendingOf now req), .ok (some record)⟩ ∈ h) ∧ o = .ok (replay record)) ∨
      ∃ e, o = .error e := by
  cases hp with
  | start _ | lookingUp _ | creating _ | publishing _ =>
    simp [Gateway.starting, Gateway.lookingUp, Gateway.creating, Gateway.publishing] at hs
  | published a _ => exact .inl ⟨_, a, rfl, (Script.done.inj hs).symm⟩
  | disabled _ => exact .inr (.inl ⟨_, rfl, (Script.done.inj hs).symm⟩)
  | replayed hr _ => exact .inr (.inr (.inl ⟨_, hr, (Script.done.inj hs).symm⟩))
  | failed _ => exact .inr (.inr (.inr ⟨_, (Script.done.inj hs).symm⟩))

end Handler

theorem eq_of_mem_of_length_le_one {α : Type} {l : List α} (hl : l.length ≤ 1) {x y : α}
    (hx : x ∈ l) (hy : y ∈ l) : x = y := by
  match l, hl with
  | [], _ => simp at hx
  | [_], _ => simp_all
  | _ :: _ :: _, hl => simp at hl

theorem Event.of_publishFor {requests : List (Time.Instant × NotificationRequest)} {r : String}
    {e : Event} (h : e.publishFor requests r = true) :
    ∃ i now req key payload opts a, e = ⟨.handler i, .publish key payload opts, a⟩ ∧
      requests[i]? = some (now, req) ∧ req.requestId = r := by
  obtain ⟨who, c, a⟩ := e
  cases who with
  | reporter j => simp [publishFor] at h
  | handler i =>
    cases c with
    | publish key payload opts =>
      simp only [publishFor, beq_iff_eq, Option.map_eq_some_iff] at h
      obtain ⟨⟨now, req⟩, hreq, hr⟩ := h
      exact ⟨i, now, req, key, payload, opts, a, rfl, hreq, hr⟩
    | _ => simp [publishFor] at h

/-! ### What every interleaving keeps -/

namespace Traffic

variable (records₀ : Records) (requests : List (Time.Instant × NotificationRequest)) in
/-- What every reachable traffic keeps, for the records it started from and the requests it
handles. -/
structure Sound (t : Traffic) : Prop where
  /-- The store removes no record. -/
  kept : ∀ k, t.records k = none → records₀ k = none
  /-- A record is created at most once per request id, -/
  created_once : ∀ k, (t.trace.filter (Event.creates k)).length ≤ 1
  /-- only where there is none now, -/
  created_absent : ∀ k, t.records k = none → ∀ e ∈ t.trace, e.creates k = false
  /-- and never where there was one at the start. -/
  created_fresh : ∀ k, records₀ k ≠ none → ∀ e ∈ t.trace, e.creates k = false
  /-- There is one handling per request, -/
  handlers_length : t.handlers.length = requests.length
  handler_callers : ∀ e ∈ t.trace, ∀ i, e.caller = .handler i → ∃ x, requests[i]? = some x
  /-- each standing where its calls took it. -/
  handlers : ∀ (i : Nat) (now : Time.Instant) (req : NotificationRequest)
    (s : Script (Outcome HandleOutcome)), requests[i]? = some (now, req) →
    t.handlers[i]? = some s → HandlerAt now req (t.history (.handler i)) s
  /-- Status reports only look records up and store them. -/
  reporters : ∀ (j : Nat) (s : Script (Outcome StatusRecord)), t.reporters[j]? = some s →
    s.Within fun c => c.quiet = true
  reporters_quiet : ∀ e ∈ t.trace, ∀ j, e.caller = .reporter j → e.call.quiet = true
  /-- At most one publish is made per request id. -/
  published_once : ∀ r, (t.trace.filter (Event.publishFor requests r)).length ≤ 1

theorem sound_start (records₀ : Records) (requests : List (Time.Instant × NotificationRequest))
    (reports : List (Time.Instant × Channel × StatusUpdate)) :
    (start records₀ requests reports).Sound records₀ requests where
  kept _ h := h
  created_once _ := by simp [start]
  created_absent _ _ _ he := by simp [start] at he
  created_fresh _ _ _ he := by simp [start] at he
  handlers_length := by simp [start]
  handler_callers _ he := by simp [start] at he
  handlers i now req s hreq hs := by
    simp only [start, List.getElem?_map, hreq, Option.map_some, Option.some.injEq] at hs
    subst hs
    exact HandlerAt.init
  reporters j s hs := by
    simp only [start, List.getElem?_map, Option.map_eq_some_iff] at hs
    obtain ⟨⟨now, ch, u⟩, -, rfl⟩ := hs
    exact updateStatus_within now ch u
  reporters_quiet _ he := by simp [start] at he
  published_once _ := by simp [start]

variable {records₀ : Records} {requests : List (Time.Instant × NotificationRequest)} {t : Traffic}

theorem Sound.handler_some (hs : t.Sound records₀ requests) {i : Nat}
    {x : Time.Instant × NotificationRequest} (hreq : requests[i]? = some x) :
    ∃ s, t.handlers[i]? = some s := by
  have hlt : i < t.handlers.length := by
    rw [hs.handlers_length]
    exact (List.getElem?_eq_some_iff.1 hreq).1
  exact ⟨_, List.getElem?_eq_getElem hlt⟩

theorem Sound.request_some (hs : t.Sound records₀ requests) {i : Nat}
    {s : Script (Outcome HandleOutcome)} (hi : t.handlers[i]? = some s) :
    ∃ now req, requests[i]? = some (now, req) := by
  have hlt : i < requests.length := by
    rw [← hs.handlers_length]
    exact (List.getElem?_eq_some_iff.1 hi).1
  exact ⟨_, _, List.getElem?_eq_getElem hlt⟩

theorem Sound.of_publish (hs : t.Sound records₀ requests) {e : Event} (he : e ∈ t.trace)
    {key payload : String} {opts : PublishOptions} (hc : e.call = .publish key payload opts) :
    ∃ i now req u, e.caller = .handler i ∧ requests[i]? = some (now, req) ∧
      payload = (jobFor req u).toValue.write ∧
      ⟨.create (pendingOf now req), .ok none⟩ ∈ t.history (.handler i) := by
  obtain ⟨who, c, a⟩ := e
  simp only at hc
  subst hc
  cases who with
  | reporter j =>
    have := hs.reporters_quiet _ he j rfl
    simp [GatewayCall.quiet] at this
  | handler i =>
    obtain ⟨⟨now, req⟩, hreq⟩ := hs.handler_callers _ he i rfl
    obtain ⟨s, hsi⟩ := hs.handler_some hreq
    have hmem : (⟨.publish key payload opts, a⟩ : Exchange) ∈ t.history (.handler i) :=
      mem_history.2 he
    obtain ⟨u, a', hh, -⟩ := (hs.handlers i now req s hreq hsi).of_isPublish hmem rfl
    rw [hh] at hmem
    simp only [List.mem_cons, List.not_mem_nil, or_false] at hmem
    rcases hmem with h | h | h | h <;> cases h
    exact ⟨i, now, req, u, rfl, hreq, rfl, by simp [hh]⟩

theorem Sound.of_publishFor (hs : t.Sound records₀ requests) {e : Event} (he : e ∈ t.trace)
    {r : String} (hpe : e.publishFor requests r = true) :
    ∃ i now req key payload opts a, e = ⟨.handler i, .publish key payload opts, a⟩ ∧
      req.requestId = r ∧
      (⟨.handler i, .create (pendingOf now req), .ok none⟩ : Event) ∈ t.trace := by
  obtain ⟨i, now, req, key, payload, opts, a, rfl, hreq, hr⟩ := Event.of_publishFor hpe
  obtain ⟨i', now', req', u, hi, hreq', -, hcreate⟩ := hs.of_publish he rfl
  cases hi
  rw [hreq] at hreq'
  cases hreq'
  exact ⟨i, now, req, key, payload, opts, a, rfl, hr, mem_history.1 hcreate⟩

theorem Sound.created_snoc (hs : t.Sound records₀ requests) {who : Caller} {c : GatewayCall}
    {a : c.Answer} {records : Records} (ha : Answers t.records c a records) (k : String) :
    ((t.trace ++ [(⟨who, c, a⟩ : Event)]).filter (Event.creates k)).length ≤ 1 ∧
      (records k = none → ∀ e ∈ t.trace ++ [(⟨who, c, a⟩ : Event)], e.creates k = false) ∧
      (records₀ k ≠ none → ∀ e ∈ t.trace ++ [(⟨who, c, a⟩ : Event)], e.creates k = false) := by
  have hold : records k = none →
      ∀ e ∈ t.trace ++ [(⟨who, c, a⟩ : Event)], e.creates k = false := by
    intro hk
    refine List.forall_mem_append.2 ⟨hs.created_absent k (ha.none_of_none hk), ?_⟩
    refine List.forall_mem_singleton.2 (Bool.eq_false_iff.2 fun hc => ?_)
    exact (ha.of_creates hc).2 hk
  refine ⟨?_, hold, fun h0 => ?_⟩
  · rw [List.filter_append]
    cases hc : Event.creates k ⟨who, c, a⟩
    · simpa [hc] using hs.created_once k
    · -- a record created now was absent, so it had never been created before
      have hnil : t.trace.filter (Event.creates k) = [] :=
        List.filter_eq_nil_iff.2 fun e he => by
          simp [hs.created_absent k (ha.of_creates hc).1 e he]
      simp [hnil, hc]
  · refine List.forall_mem_append.2 ⟨hs.created_fresh k h0, ?_⟩
    refine List.forall_mem_singleton.2 (Bool.eq_false_iff.2 fun hc => ?_)
    exact h0 (hs.kept k (ha.of_creates hc).1)

/-- A publish for `r` finds none made before it: the handling making it created the record of
`r`, and so did the handling behind any earlier one, so both are the same handling, which has
published nothing yet. -/
theorem Sound.publishFor_first (hs : t.Sound records₀ requests) {i : Nat} {c : GatewayCall}
    {k : c.Answer → Script (Outcome HandleOutcome)} {a : c.Answer}
    (hi : t.handlers[i]? = some (.call c k)) {r : String}
    (hpf : Event.publishFor requests r ⟨.handler i, c, a⟩ = true) :
    t.trace.filter (Event.publishFor requests r) = [] := by
  obtain ⟨i', now, req, key, payload, opts, a', he, hreq, hr⟩ := Event.of_publishFor hpf
  cases he
  obtain ⟨u, hh⟩ := (hs.handlers i now req _ hreq hi).of_publish rfl
  have hmine : (⟨.handler i, .create (pendingOf now req), .ok none⟩ : Event) ∈ t.trace :=
    mem_history.1 (by rw [hh]; simp)
  refine List.filter_eq_nil_iff.2 fun e he hpe => ?_
  obtain ⟨j, now', req', key', payload', opts', b, rfl, hrj, htheirs⟩ := hs.of_publishFor he hpe
  -- the two creates of the record of `r` are one call
  have hsame := eq_of_mem_of_length_le_one (hs.created_once r)
    (List.mem_filter.2 ⟨hmine, by simp [Event.creates, hr]⟩)
    (List.mem_filter.2 ⟨htheirs, by simp [Event.creates, hrj]⟩)
  have hij : Caller.handler i = .handler j := congrArg Event.caller hsame
  cases hij
  -- so this handling published before, yet its calls hold no publish
  have hpub : (⟨.publish key' payload' opts', b⟩ : Exchange) ∈ t.history (.handler i) :=
    mem_history.2 he
  rw [hh] at hpub
  simp only [List.mem_cons, List.not_mem_nil, or_false] at hpub
  rcases hpub with h | h | h <;> cases h

theorem Sound.handler_step (hs : t.Sound records₀ requests) {i : Nat} {c : GatewayCall}
    {k : c.Answer → Script (Outcome HandleOutcome)} {a : c.Answer} {records : Records}
    (hi : t.handlers[i]? = some (.call c k)) (ha : Answers t.records c a records) :
    Sound records₀ requests
      ⟨records, t.handlers.set i (k a), t.reporters, t.trace ++ [⟨.handler i, c, a⟩]⟩ := by
  obtain ⟨now, req, hreq⟩ := hs.request_some hi
  constructor
  case kept => exact fun k hk => hs.kept k (ha.none_of_none hk)
  case created_once => exact fun k => (hs.created_snoc ha k).1
  case created_absent => exact fun k => (hs.created_snoc ha k).2.1
  case created_fresh => exact fun k => (hs.created_snoc ha k).2.2
  case handlers_length => simp [hs.handlers_length]
  case handler_callers =>
    refine List.forall_mem_append.2 ⟨hs.handler_callers, List.forall_mem_singleton.2 ?_⟩
    rintro i' ⟨⟩
    exact ⟨_, hreq⟩
  case handlers =>
    intro i' now' req' s hreq' hs'
    by_cases hii : i' = i
    · subst hii
      rw [hreq] at hreq'
      cases hreq'
      rw [List.getElem?_set_self (List.getElem?_eq_some_iff.1 hi).1] at hs'
      cases hs'
      rw [history_snoc_self rfl]
      exact (hs.handlers i' now req _ hreq hi).step rfl ha
    · rw [List.getElem?_set_ne (Ne.symm hii)] at hs'
      rw [history_snoc_other rfl (by simp [hii])]
      exact hs.handlers i' now' req' s hreq' hs'
  case reporters => exact hs.reporters
  case reporters_quiet =>
    refine List.forall_mem_append.2 ⟨hs.reporters_quiet, List.forall_mem_singleton.2 ?_⟩
    rintro j ⟨⟩
  case published_once =>
    intro r
    rw [List.filter_append]
    cases hpf : Event.publishFor requests r ⟨.handler i, c, a⟩
    · simpa [hpf] using hs.published_once r
    · simp [hs.publishFor_first hi hpf, hpf]

theorem Sound.reporter_step (hs : t.Sound records₀ requests) {j : Nat} {c : GatewayCall}
    {k : c.Answer → Script (Outcome StatusRecord)} {a : c.Answer} {records : Records}
    (hj : t.reporters[j]? = some (.call c k)) (ha : Answers t.records c a records) :
    Sound records₀ requests
      ⟨records, t.handlers, t.reporters.set j (k a), t.trace ++ [⟨.reporter j, c, a⟩]⟩ := by
  have hquiet : c.quiet = true := (hs.reporters j _ hj).head
  constructor
  case kept => exact fun k hk => hs.kept k (ha.none_of_none hk)
  case created_once => exact fun k => (hs.created_snoc ha k).1
  case created_absent => exact fun k => (hs.created_snoc ha k).2.1
  case created_fresh => exact fun k => (hs.created_snoc ha k).2.2
  case handlers_length => exact hs.handlers_length
  case handler_callers =>
    refine List.forall_mem_append.2 ⟨hs.handler_callers, List.forall_mem_singleton.2 ?_⟩
    rintro i ⟨⟩
  case handlers =>
    intro i now req s hreq hs'
    rw [history_snoc_other rfl (by simp)]
    exact hs.handlers i now req s hreq hs'
  case reporters =>
    intro j' s hs'
    by_cases hjj : j' = j
    · subst hjj
      rw [List.getElem?_set_self (List.getElem?_eq_some_iff.1 hj).1] at hs'
      cases hs'
      exact (hs.reporters j' _ hj).next a
    · rw [List.getElem?_set_ne (Ne.symm hjj)] at hs'
      exact hs.reporters j' s hs'
  case reporters_quiet =>
    refine List.forall_mem_append.2 ⟨hs.reporters_quiet, List.forall_mem_singleton.2 ?_⟩
    intro j' _
    exact hquiet
  case published_once =>
    intro r
    have hpf : Event.publishFor requests r ⟨.reporter j, c, a⟩ = false := rfl
    simpa [List.filter_append, hpf] using hs.published_once r

theorem Sound.step (hs : t.Sound records₀ requests) {t' : Traffic} (h : Step t t') :
    t'.Sound records₀ requests := by
  cases h with
  | handler hi ha => exact hs.handler_step hi ha
  | reporter hj ha => exact hs.reporter_step hj ha

/-- Every interleaving keeps `Sound`. -/
theorem reachable_sound {reports : List (Time.Instant × Channel × StatusUpdate)}
    (h : Reachable records₀ requests reports t) : t.Sound records₀ requests := by
  induction h with
  | refl => exact sound_start records₀ requests reports
  | tail _ hs ih => exact ih.step hs

theorem replay_ne_queued (record p : StatusRecord) : replay record ≠ .queued p := by
  unfold replay
  split <;> exact fun h => by cases h

theorem Sound.of_queued (hs : t.Sound records₀ requests) {i : Nat} {now : Time.Instant}
    {req : NotificationRequest} {p : StatusRecord} (hreq : requests[i]? = some (now, req))
    (hi : t.handlers[i]? = some (.done (.ok (.queued p)))) :
    p = pendingOf now req ∧ ⟨.create p, .ok none⟩ ∈ t.history (.handler i) ∧
      ∃ e ∈ t.trace, e.caller = .handler i ∧ e.publishFor requests req.requestId = true := by
  rcases (hs.handlers i now req _ hreq hi).of_done rfl with
    ⟨u, a, hh, ho⟩ | ⟨u, -, ho⟩ | ⟨record, -, ho⟩ | ⟨e, ho⟩
  · -- only an accepted publish answers `queued`
    cases a with
    | error _ => cases ho
    | ok _ =>
      cases ho
      have hpub : (⟨.publish req.channel.name (jobFor req u).toValue.write
          (.withPriority req.priority), .ok ()⟩ : Exchange) ∈ t.history (.handler i) := by
        rw [hh]
        simp
      exact ⟨rfl, by rw [hh]; simp, _, mem_history.1 hpub, rfl, by simp [Event.publishFor, hreq]⟩
  · cases ho
  · exact absurd (Except.ok.inj ho).symm (replay_ne_queued record p)
  · cases ho

end Traffic

/-- What handling requests idempotently means for the request id `r`, in a traffic that started
from the records `records₀` and handles `requests`. -/
structure Idempotent (records₀ : Records) (requests : List (Time.Instant × NotificationRequest))
    (t : Traffic) (r : String) : Prop where
  /-- Every publish carries the job of the request whose handling made it. -/
  publish_job : ∀ e ∈ t.trace, ∀ key payload opts, e.call = .publish key payload opts →
    ∃ (i : Nat) (now : Time.Instant) (req : NotificationRequest) (u : User),
      e.caller = .handler i ∧ requests[i]? = some (now, req) ∧
      payload = (jobFor req u).toValue.write
  /-- At most one publish is made for `r`, -/
  publish_once : (t.trace.filter (Event.publishFor requests r)).length ≤ 1
  /-- and none when the store held a record for `r` at the start. -/
  publish_fresh : records₀ r ≠ none → t.trace.filter (Event.publishFor requests r) = []
  /-- At most one handling of `r` returns `queued`, -/
  queued_once : ∀ (i j : Nat) (now now' : Time.Instant) (req req' : NotificationRequest)
    (p p' : StatusRecord), requests[i]? = some (now, req) →
    requests[j]? = some (now', req') → req.requestId = r → req'.requestId = r →
    t.handlers[i]? = some (.done (.ok (.queued p))) →
    t.handlers[j]? = some (.done (.ok (.queued p'))) → i = j
  /-- the one whose create wrote its pending record. -/
  queued_wrote : ∀ (i : Nat) (now : Time.Instant) (req : NotificationRequest) (p : StatusRecord),
    requests[i]? = some (now, req) → t.handlers[i]? = some (.done (.ok (.queued p))) →
    p = pendingOf now req ∧ ⟨.create p, .ok none⟩ ∈ t.history (.handler i)
  /-- Any other answer is `disabledByUser`, given having asked only for the user, or the replay of
  a record read for the request id. -/
  answered : ∀ (i : Nat) (now : Time.Instant) (req : NotificationRequest) (o : HandleOutcome),
    requests[i]? = some (now, req) → t.handlers[i]? = some (.done (.ok o)) →
    (∃ p, o = .queued p) ∨
    (o = .disabledByUser ∧ ∃ u, t.history (.handler i) = [⟨.user req.userId, .ok u⟩]) ∨
    ∃ record, o = replay record ∧
      (⟨.lookup req.requestId, .ok (some record)⟩ ∈ t.history (.handler i) ∨
        ⟨.create (pendingOf now req), .ok (some record)⟩ ∈ t.history (.handler i))

open Traffic in
/-- Handling requests is idempotent under concurrency: requests handled side by side with status
reports, against a store that creates a record only where none exists and removes none, in any
interleaving and with any answers, keep `Idempotent` for every request id. -/
theorem handle_idempotent (records₀ : Records)
    (requests : List (Time.Instant × NotificationRequest))
    (reports : List (Time.Instant × Channel × StatusUpdate)) {t : Traffic}
    (ht : t.Reachable records₀ requests reports) (r : String) :
    Idempotent records₀ requests t r := by
  have hs := reachable_sound ht
  constructor
  case publish_job =>
    intro e he key payload opts hc
    obtain ⟨i, now, req, u, hw, hreq, hpay, -⟩ := hs.of_publish he hc
    exact ⟨i, now, req, u, hw, hreq, hpay⟩
  case publish_once => exact hs.published_once r
  case publish_fresh =>
    intro h0
    refine List.filter_eq_nil_iff.2 fun e he hpe => ?_
    obtain ⟨i, now, req, -, -, -, -, -, hr, hcreate⟩ := hs.of_publishFor he hpe
    have := hs.created_fresh r h0 _ hcreate
    simp [Event.creates, hr] at this
  case queued_once =>
    -- both published for `r`, and there is at most one such publish
    intro i j now now' req req' p p' hreq hreq' hr hr' hi hj
    obtain ⟨-, -, e, he, hw, hpe⟩ := hs.of_queued hreq hi
    obtain ⟨-, -, e', he', hw', hpe'⟩ := hs.of_queued hreq' hj
    rw [hr] at hpe
    rw [hr'] at hpe'
    have hsame := eq_of_mem_of_length_le_one (hs.published_once r)
      (List.mem_filter.2 ⟨he, hpe⟩) (List.mem_filter.2 ⟨he', hpe'⟩)
    rw [hsame, hw'] at hw
    cases hw
    rfl
  case queued_wrote =>
    intro i now req p hreq hi
    obtain ⟨hp, hc, -⟩ := hs.of_queued hreq hi
    exact ⟨hp, hc⟩
  case answered =>
    intro i now req o hreq hi
    rcases (hs.handlers i now req _ hreq hi).of_done rfl with
      ⟨u, a, -, ho⟩ | ⟨u, hh, ho⟩ | ⟨record, hm, ho⟩ | ⟨e, ho⟩
    · cases a with
      | ok _ => exact .inl ⟨_, Except.ok.inj ho⟩
      | error _ => cases ho
    · exact .inr (.inl ⟨Except.ok.inj ho, u, hh⟩)
    · exact .inr (.inr ⟨record, Except.ok.inj ho, hm⟩)
    · cases ho

open Traffic in
/-- Two handlings of one request id against an empty store, both looking it up before either
creates its record: the first to create it publishes and is queued, the other replays its
record. -/
theorem duplicate_requests_idempotent :
    let req : NotificationRequest :=
      { requestId := "r1", channel := .email, userId := "u1", templateCode := "welcome" }
    let requests := [(⟨0, 0⟩, req), (⟨0, 0⟩, { req with priority := 5 })]
    ∃ t : Traffic, t.Reachable (fun _ => none) requests [] ∧
      t.handlers[0]? = some (.done (.ok (.queued (pendingOf ⟨0, 0⟩ req)))) ∧
      t.handlers[1]? = some (.done (.ok (replay (pendingOf ⟨0, 0⟩ req)))) ∧
      Idempotent (fun _ => none) requests t "r1" := by
  -- the steps run on the requests written out, so that the handlings' scripts compute
  have h := (((((((Relation.ReflTransGen.refl (r := Step) (a := start (fun _ => none)
      [(⟨0, 0⟩, { requestId := "r1", channel := .email, userId := "u1", templateCode := "welcome" }),
       (⟨0, 0⟩, { requestId := "r1", channel := .email, userId := "u1", templateCode := "welcome"
                  priority := 5 })] [])).tail
    (Step.handler (i := 0) rfl
      (Answers.user _ (.ok { id := "u1", preferences := some { email := true, push := false } })))).tail
    (Step.handler (i := 1) rfl
      (Answers.user _ (.ok { id := "u1", preferences := some { email := true, push := false } })))).tail
    (Step.handler (i := 0) rfl (Answers.lookup _))).tail
    (Step.handler (i := 1) rfl (Answers.lookup _))).tail
    (Step.handler (i := 0) rfl (Answers.createNew rfl))).tail
    (Step.handler (i := 1) rfl (Answers.createFound rfl))).tail
    (Step.handler (i := 0) rfl (Answers.publish _ _ _ (.ok ())))
  exact ⟨_, h, rfl, rfl, handle_idempotent _ _ _ h "r1"⟩

end Courier.Gateway
