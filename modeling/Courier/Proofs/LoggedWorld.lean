import Courier.Worker.Consumer

/-!
# A worker against a logged world

The worker is written over any monad, with its effects passed in as `Ports`. Here it runs in the
state monad over a log of the calls it makes: every port answers from a `World`, which sees all
calls made before (so any sequence of answers can be produced), and then logs the call. The log
holds, in order, every template fetch, delivery, publish, status report and settling call that a
delivery makes, each with its arguments.

* The handler's delivery only calls the template source and the provider (`deliver_appends`); its
  footprint is tracked by `Appends`, with one lemma per way of building a computation.
* `Handled` lists the nine ways one delivery can go, each with the log it leaves and the result it
  returns, and `handled` shows that `Consumer.handle` always goes one of them. Later proofs take the
  cases of `Handled` and never unfold the consumer.
-/

namespace Courier.Worker

open Courier.Broker

/-- A call a worker makes through its ports, as the world sees it. -/
inductive PortCall where
  | template (code : String)
  | deliver (o : Outbound)
  | publish (key payload : String) (opts : PublishOptions)
  | report (ch : Channel) (u : StatusUpdate)
  | settle (call : AckCall)

namespace PortCall

/-- Whether a call went to the template source or to the provider. -/
def toProvider : PortCall → Bool
  | .template _ | .deliver _ => true
  | _ => false

/-- The settling call a logged call makes, if it is one. -/
def settled? : PortCall → Option AckCall
  | .settle a => some a
  | _ => none

/-- The routing key, payload and options of a publish. -/
def published? : PortCall → Option (String × String × PublishOptions)
  | .publish key payload opts => some (key, payload, opts)
  | _ => none

/-- The channel and update of a status report. -/
def reported? : PortCall → Option (Channel × StatusUpdate)
  | .report ch u => some (ch, u)
  | _ => none

@[simp] theorem reported?_report (ch : Channel) (u : StatusUpdate) :
    (report ch u).reported? = some (ch, u) := rfl

@[simp] theorem reported?_settle (call : AckCall) : (settle call).reported? = none := rfl

@[simp] theorem reported?_publish (key payload : String) (opts : PublishOptions) :
    (publish key payload opts).reported? = none := rfl

end PortCall

/-- How the world answers each port, given the calls made before. -/
structure World where
  template : List PortCall → String → Outcome MessageTemplate
  deliver : List PortCall → Outbound → Outcome Unit
  publish : List PortCall → String → String → PublishOptions → Outcome Unit
  report : List PortCall → Channel → StatusUpdate → Outcome Unit
  settle : List PortCall → AckCall → Outcome Unit

/-- A worker's computation against the world, which logs every call. -/
abbrev Logged := StateM (List PortCall)

/-- The ports of a world: each call is answered from the log so far and then logged. -/
def World.ports (w : World) : Ports Logged where
  template code := modifyGet fun log => (w.template log code, log ++ [.template code])
  deliver o := modifyGet fun log => (w.deliver log o, log ++ [.deliver o])
  publish key payload opts :=
    modifyGet fun log => (w.publish log key payload opts, log ++ [.publish key payload opts])
  report ch u := modifyGet fun log => (w.report log ch u, log ++ [.report ch u])
  settle call := modifyGet fun log => (w.settle log call, log ++ [.settle call])

/-! ### Running the ports -/

section Ports

variable (w : World) (l : List PortCall)

theorem run_bind {α β : Type} (x : Logged α) (f : α → Logged β) :
    (x >>= f).run l = (f (x.run l).1).run (x.run l).2 := rfl

@[simp] theorem settle_run (call : AckCall) :
    (w.ports.settle call).run l = (w.settle l call, l ++ [.settle call]) := rfl

@[simp] theorem publish_run (key payload : String) (opts : PublishOptions) :
    (w.ports.publish key payload opts).run l =
      (w.publish l key payload opts, l ++ [.publish key payload opts]) := rfl

theorem settleWith_run (call : AckCall) (s : Settlement) :
    (settleWith w.ports call s).run l = ((w.settle l call).map fun _ => s, l ++ [.settle call]) := by
  cases h : w.settle l call <;> simp [settleWith, h, Except.map] <;> rfl

theorem report_run (c : Consumer) (u : StatusUpdate) :
    (c.report w.ports u).run l = ((), l ++ [.report c.handler.channel u]) := rfl

end Ports

/-! ### Footprints -/

/-- A computation that only adds calls allowed by `P` to the log. -/
def Appends {α : Type} (P : PortCall → Bool) (x : Logged α) : Prop :=
  ∀ l, ∃ ext, (x.run l).2 = l ++ ext ∧ ∀ y ∈ ext, P y = true

namespace Appends

variable {α β : Type} {P : PortCall → Bool}

theorem pure (a : α) : Appends P (Pure.pure a) :=
  fun l => ⟨[], by rw [List.append_nil]; rfl, by simp⟩

theorem bind {x : Logged α} {f : α → Logged β} (hx : Appends P x) (hf : ∀ a, Appends P (f a)) :
    Appends P (x >>= f) := by
  intro l
  obtain ⟨e₁, h₁, p₁⟩ := hx l
  obtain ⟨e₂, h₂, p₂⟩ := hf (x.run l).1 (x.run l).2
  refine ⟨e₁ ++ e₂, ?_, ?_⟩
  · rw [run_bind, h₂, h₁, List.append_assoc]
  · intro y hy
    rcases List.mem_append.1 hy with hy | hy
    · exact p₁ y hy
    · exact p₂ y hy

theorem call {γ : Type} (g : List PortCall → γ) (y : PortCall) (hy : P y = true) :
    Appends P (modifyGet fun log => (g log, log ++ [y])) :=
  fun l => ⟨[y], rfl, by simpa using hy⟩

theorem mapM {γ : Type} {f : γ → Logged α} (hf : ∀ a, Appends P (f a)) (xs : List γ) :
    Appends P (xs.mapM f) := by
  induction xs with
  | nil => exact pure _
  | cons a rest ih =>
    rw [List.mapM_cons]
    exact (hf a).bind fun b => ih.bind fun bs => pure _

theorem exceptBind {x : ExceptT Fault Logged α} {f : α → ExceptT Fault Logged β}
    (hx : Appends P x.run) (hf : ∀ a, Appends P (f a).run) : Appends P (x >>= f).run := by
  rw [ExceptT.run_bind]
  refine hx.bind fun r => ?_
  cases r with
  | error e => exact pure _
  | ok a => exact hf a

theorem liftExcept (e : Except Fault α) :
    Appends P (liftExcept e : ExceptT Fault Logged α).run := by
  cases e <;> exact pure _

theorem lift {x : Logged α} (hx : Appends P x) :
    Appends P (liftM x : ExceptT Fault Logged α).run :=
  hx.bind fun _ => pure _

end Appends

theorem deliver_appends (w : World) (h : Handler) (job : Job) :
    Appends PortCall.toProvider (h.deliver w.ports job) := by
  cases h with
  | email sender =>
    simp only [Handler.deliver]
    split <;> refine Appends.exceptBind (Appends.pure _) fun recipient => ?_ <;>
      refine Appends.exceptBind (Appends.call _ _ rfl) fun t => ?_ <;>
      refine Appends.exceptBind (Appends.liftExcept _) fun r => ?_ <;>
      exact Appends.call _ _ rfl
  | push =>
    simp only [Handler.deliver]
    split
    · -- with no token left the job fails before any call
      rw [ExceptT.bind_throw]
      exact Appends.pure _
    refine Appends.exceptBind (Appends.call _ _ rfl) fun t => ?_
    refine Appends.exceptBind (Appends.liftExcept _) fun r => ?_
    refine Appends.exceptBind (Appends.lift (Appends.mapM (fun tok => Appends.call _ _ rfl) _))
      fun results => ?_
    exact Appends.liftExcept _

theorem deliver_log {w : World} {h : Handler} {job : Job} {l dl : List PortCall}
    {r : Outcome Unit} (hd : (h.deliver w.ports job).run l = (r, dl)) :
    ∃ ext, dl = l ++ ext ∧ ∀ y ∈ ext, y.toProvider = true := by
  obtain ⟨ext, he, hp⟩ := deliver_appends w h job l
  rw [hd] at he
  exact ⟨ext, he, hp⟩

theorem filterMap_provider {β : Type} {g : PortCall → Option β}
    (hg : ∀ y, y.toProvider = true → g y = none) {l ext : List PortCall}
    (hext : ∀ y ∈ ext, y.toProvider = true) : (l ++ ext).filterMap g = l.filterMap g := by
  rw [List.filterMap_append, List.filterMap_eq_nil_iff.2 fun y hy => hg y (hext y hy),
    List.append_nil]

theorem deliver_filterMap {β : Type} {g : PortCall → Option β}
    (hg : ∀ y, y.toProvider = true → g y = none) {w : World} {h : Handler} {job : Job}
    {l dl : List PortCall} {r : Outcome Unit} (hd : (h.deliver w.ports job).run l = (r, dl)) :
    dl.filterMap g = l.filterMap g := by
  obtain ⟨ext, rfl, hext⟩ := deliver_log hd
  exact filterMap_provider hg hext

theorem settled?_of_toProvider (y : PortCall) (hy : y.toProvider = true) : y.settled? = none := by
  cases y <;> simp_all [PortCall.toProvider, PortCall.settled?]

theorem published?_of_toProvider (y : PortCall) (hy : y.toProvider = true) :
    y.published? = none := by
  cases y <;> simp_all [PortCall.toProvider, PortCall.published?]

theorem reported?_of_toProvider (y : PortCall) (hy : y.toProvider = true) : y.reported? = none := by
  cases y <;> simp_all [PortCall.toProvider, PortCall.reported?]

/-! ### The ways a delivery goes -/

variable (c : Consumer) (w : World) (now : Time.Instant) (payload : String) (rc : Nat)

/-- The ways one delivery can go against a world, from the log `l`: the result handling returns
and the log after it. `dl` is the log after the handler's own calls. -/
inductive Handled (l : List PortCall) : Outcome Settlement → List PortCall → Prop
  | malformed {e : Fault} : c.parse payload = .error e →
      Handled l ((w.settle l .reject).map fun _ => .discarded) (l ++ [.settle .reject])
  | delivered {job : Job} {dl : List PortCall} : c.parse payload = .ok job →
      (c.handler.deliver w.ports job).run l = (.ok (), dl) → w.settle dl .ack = .ok () →
      Handled l (.ok .delivered)
        (dl ++ [.settle .ack, .report c.handler.channel (.delivered job.requestId now)])
  | unacknowledged {job : Job} {dl : List PortCall} {e : Fault} : c.parse payload = .ok job →
      (c.handler.deliver w.ports job).run l = (.ok (), dl) → w.settle dl .ack = .error e →
      Handled l (.error e) (dl ++ [.settle .ack])
  | discarded {job : Job} {f : Fault} {dl : List PortCall} : c.parse payload = .ok job →
      (c.handler.deliver w.ports job).run l = (.error f, dl) →
      classify f c.settings.dependencies = .discard →
      Handled l
        ((w.settle (dl ++ [.report c.handler.channel (.failed job.requestId f.message now)])
          .reject).map fun _ => .discarded)
        (dl ++ [.report c.handler.channel (.failed job.requestId f.message now), .settle .reject])
  | terminal {job : Job} {f : Fault} {dl : List PortCall} : c.parse payload = .ok job →
      (c.handler.deliver w.ports job).run l = (.error f, dl) →
      classify f c.settings.dependencies = .terminal →
      Handled l
        ((w.settle (dl ++ [.report c.handler.channel (.failed job.requestId f.message now)])
          .reject).map fun _ => .deadLettered)
        (dl ++ [.report c.handler.channel (.failed job.requestId f.message now), .settle .reject])
  | dependencyDown {job : Job} {f : Fault} {dl : List PortCall} : c.parse payload = .ok job →
      (c.handler.deliver w.ports job).run l = (.error f, dl) →
      classify f c.settings.dependencies = .dependencyDown →
      Handled l ((w.settle dl .reject).map fun _ => .dependencyDown) (dl ++ [.settle .reject])
  | retried {job : Job} {f : Fault} {dl : List PortCall} : c.parse payload = .ok job →
      (c.handler.deliver w.ports job).run l = (.error f, dl) →
      classify f c.settings.dependencies = .retry → rc < c.settings.maxRetries →
      w.publish dl (c.topology.waitRoutingKey (rc + 1)) payload (.retry (rc + 1)) = .ok () →
      Handled l
        ((w.settle (dl ++ [.publish (c.topology.waitRoutingKey (rc + 1)) payload (.retry (rc + 1))])
          .ack).map fun _ => .retried (rc + 1))
        (dl ++ [.publish (c.topology.waitRoutingKey (rc + 1)) payload (.retry (rc + 1)), .settle .ack])
  | requeued {job : Job} {f : Fault} {dl : List PortCall} {e : Fault} : c.parse payload = .ok job →
      (c.handler.deliver w.ports job).run l = (.error f, dl) →
      classify f c.settings.dependencies = .retry → rc < c.settings.maxRetries →
      w.publish dl (c.topology.waitRoutingKey (rc + 1)) payload (.retry (rc + 1)) = .error e →
      Handled l
        ((w.settle (dl ++ [.publish (c.topology.waitRoutingKey (rc + 1)) payload (.retry (rc + 1))])
          .requeue).map fun _ => .requeued)
        (dl ++ [.publish (c.topology.waitRoutingKey (rc + 1)) payload (.retry (rc + 1)),
          .settle .requeue])
  | exhausted {job : Job} {f : Fault} {dl : List PortCall} : c.parse payload = .ok job →
      (c.handler.deliver w.ports job).run l = (.error f, dl) →
      classify f c.settings.dependencies = .retry → c.settings.maxRetries ≤ rc →
      Handled l
        ((w.settle (dl ++ [.report c.handler.channel (.failed job.requestId f.message now)])
          .reject).map fun _ => .deadLettered)
        (dl ++ [.report c.handler.channel (.failed job.requestId f.message now), .settle .reject])

/-- Every delivery goes one of the ways of `Handled`. -/
theorem handled (l : List PortCall) :
    Handled c w now payload rc l ((c.handle w.ports now payload rc).run l).1
      ((c.handle w.ports now payload rc).run l).2 := by
  unfold Consumer.handle
  cases hp : c.parse payload with
  | error e =>
    rw [settleWith_run]
    exact .malformed hp
  | ok job =>
    simp only [run_bind]
    cases hd : (c.handler.deliver w.ports job).run l with
    | mk r dl =>
      cases r with
      | ok u =>
        simp only [run_bind, settle_run]
        cases ha : w.settle dl .ack with
        | ok v =>
          simp only [run_bind, report_run]
          show Handled c w now payload rc l (.ok .delivered) (dl ++ [.settle .ack] ++ [_])
          rw [List.append_assoc]
          exact .delivered hp hd ha
        | error e => exact .unacknowledged hp hd ha
      | error f =>
        simp only [Consumer.settleFailure]
        cases hcl : classify f c.settings.dependencies with
        | discard =>
          simp only [run_bind, report_run, settleWith_run, List.append_assoc]
          exact .discarded hp hd hcl
        | terminal =>
          simp only [run_bind, report_run, settleWith_run, List.append_assoc]
          exact .terminal hp hd hcl
        | dependencyDown =>
          rw [settleWith_run]
          exact .dependencyDown hp hd hcl
        | retry =>
          by_cases hr : rc < c.settings.maxRetries
          · -- retries are left: the outcome of the publish decides between ack and requeue
            simp only [hr, ↓reduceIte, run_bind, publish_run]
            cases hpub : w.publish dl (c.topology.waitRoutingKey (rc + 1)) payload
              (.retry (rc + 1)) with
            | ok v =>
              simp only [settleWith_run, List.append_assoc]
              exact .retried hp hd hcl hr hpub
            | error e =>
              simp only [settleWith_run, List.append_assoc]
              exact .requeued hp hd hcl hr hpub
          · simp only [hr, ↓reduceIte, run_bind, report_run, settleWith_run, List.append_assoc]
            exact .exhausted hp hd hcl (Nat.le_of_not_lt hr)

end Courier.Worker
