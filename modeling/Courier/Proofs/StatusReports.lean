import Courier.Proofs.Settlement

/-!
# What a delivery reports

Handling a delivery tells the gateway how the job went at most once, on the handler's channel and
for the job read from the payload:

* a delivered report exactly when the job was delivered and its acknowledgement went through,
  right after that acknowledgement;
* a failure report, carrying the fault's message, exactly when the job was read and its delivery
  failed for good (`Consumer.FinalFailure`): the fault calls for discarding or dead-lettering, or
  for a retry when none is left. It comes right before the rejection;
* nothing for a payload that cannot be read, a dependency that is down, or a retry still to come.

A discarded delivery is therefore reported when its job was read and failed, and not when the
payload itself was malformed. The gateway's answer to a report is dropped: handling makes the
same calls and returns the same result whatever it is (`handle_report_blind`).
-/

namespace Courier.Worker

/-- Whether a fault ends a job's deliveries, so that its failure is reported: it calls for
discarding or dead-lettering, or for a retry when the retries are used up. -/
def Consumer.FinalFailure (c : Consumer) (f : Fault) (rc : Nat) : Prop :=
  classify f c.settings.dependencies = .discard ∨ classify f c.settings.dependencies = .terminal ∨
    (classify f c.settings.dependencies = .retry ∧ c.settings.maxRetries ≤ rc)

variable {c : Consumer} {w : World} {now : Time.Instant} {payload : String} {rc : Nat}
  {l : List PortCall} {r : Outcome Settlement} {log : List PortCall}

theorem eq_of_map_ok {x : Outcome Unit} {s s' : Settlement} (h : x.map (fun _ => s) = .ok s') :
    s' = s := by
  cases x with
  | ok u =>
    simp only [Except.map, Except.ok.injEq] at h
    exact h.symm
  | error f => simp [Except.map] at h

theorem deliver_reports {h : Handler} {job : Job} {x : Outcome Unit} {dl : List PortCall}
    (hd : (h.deliver w.ports job).run l = (x, dl)) (hl : l.filterMap PortCall.reported? = []) :
    dl.filterMap PortCall.reported? = [] :=
  (deliver_filterMap reported?_of_toProvider hd).trans hl

/-! ### The reports of each way a delivery goes -/

/-- The reports of a delivery, by the way it goes: none; one delivered report right after the
acknowledgement of a delivered job; or one failure report, with the fault's message, right before
the rejection of a job that failed for good. -/
theorem Handled.reports_cases (h : Handled c w now payload rc l r log)
    (hl : l.filterMap PortCall.reported? = []) :
    log.filterMap PortCall.reported? = [] ∨
    (∃ job dl, c.parse payload = .ok job ∧ (c.handler.deliver w.ports job).run l = (.ok (), dl) ∧
      w.settle dl .ack = .ok () ∧ r = .ok .delivered ∧
      log = dl ++ [.settle .ack, .report c.handler.channel (.delivered job.requestId now)] ∧
      log.filterMap PortCall.reported? = [(c.handler.channel, .delivered job.requestId now)]) ∨
    (∃ job f dl, c.parse payload = .ok job ∧
      (c.handler.deliver w.ports job).run l = (.error f, dl) ∧ c.FinalFailure f rc ∧
      (∀ s, r = .ok s → s = .discarded ∨ s = .deadLettered) ∧
      log = dl ++ [.report c.handler.channel (.failed job.requestId f.message now), .settle .reject] ∧
      log.filterMap PortCall.reported? =
        [(c.handler.channel, .failed job.requestId f.message now)]) := by
  -- the handler's own calls report nothing, so only the consumer's last calls can
  have hq : ∀ {job : Job} {x : Outcome Unit} {dl : List PortCall},
      (c.handler.deliver w.ports job).run l = (x, dl) → dl.filterMap PortCall.reported? = [] :=
    fun hd => deliver_reports hd hl
  cases h with
  | malformed hp => exact .inl (by simp [hl])
  | delivered hp hd ha =>
    exact .inr (.inl ⟨_, _, hp, hd, ha, rfl, rfl, by simp [hq hd, List.filterMap_cons]⟩)
  | unacknowledged hp hd ha => exact .inl (by simp [hq hd])
  | discarded hp hd hcl =>
    exact .inr (.inr ⟨_, _, _, hp, hd, .inl hcl, fun s hs => .inl (eq_of_map_ok hs), rfl,
      by simp [hq hd, List.filterMap_cons]⟩)
  | terminal hp hd hcl =>
    exact .inr (.inr ⟨_, _, _, hp, hd, .inr (.inl hcl), fun s hs => .inr (eq_of_map_ok hs), rfl,
      by simp [hq hd, List.filterMap_cons]⟩)
  | dependencyDown hp hd hcl => exact .inl (by simp [hq hd])
  | retried hp hd hcl hr hpub => exact .inl (by simp [hq hd])
  | requeued hp hd hcl hr hpub => exact .inl (by simp [hq hd])
  | exhausted hp hd hcl hmax =>
    exact .inr (.inr ⟨_, _, _, hp, hd, .inr (.inr ⟨hcl, hmax⟩),
      fun s hs => .inr (eq_of_map_ok hs), rfl, by simp [hq hd, List.filterMap_cons]⟩)

theorem Handled.log_of_delivered (h : Handled c w now payload rc l r log) {job : Job}
    {dl : List PortCall} (hp : c.parse payload = .ok job)
    (hd : (c.handler.deliver w.ports job).run l = (.ok (), dl)) (ha : w.settle dl .ack = .ok ()) :
    log = dl ++ [.settle .ack, .report c.handler.channel (.delivered job.requestId now)] := by
  cases h with
  | delivered hp' hd' =>
    rw [hp, Except.ok.injEq] at hp'
    subst hp'
    obtain ⟨-, rfl⟩ := deliveries_agree hp hd hp hd'
    rfl
  | malformed hp' =>
    rw [hp] at hp'
    cases hp'
  | unacknowledged hp' hd' ha' =>
    obtain ⟨-, rfl⟩ := deliveries_agree hp hd hp' hd'
    rw [ha] at ha'
    cases ha'
  | discarded hp' hd' | terminal hp' hd' | dependencyDown hp' hd' | retried hp' hd'
  | requeued hp' hd' | exhausted hp' hd' =>
    obtain ⟨hx, -⟩ := deliveries_agree hp hd hp' hd'
    cases hx

theorem Consumer.FinalFailure.ne_dependencyDown {f : Fault} (hf : c.FinalFailure f rc) :
    classify f c.settings.dependencies ≠ .dependencyDown := by
  rcases hf with h | h | ⟨h, -⟩ <;> rw [h] <;> decide

theorem Consumer.FinalFailure.retries_used {f : Fault} (hf : c.FinalFailure f rc)
    (h : classify f c.settings.dependencies = .retry) : c.settings.maxRetries ≤ rc := by
  rcases hf with h' | h' | ⟨-, hmax⟩
  · rw [h] at h'
    cases h'
  · rw [h] at h'
    cases h'
  · exact hmax

theorem Handled.log_of_final (h : Handled c w now payload rc l r log) {job : Job} {f : Fault}
    {dl : List PortCall} (hp : c.parse payload = .ok job)
    (hd : (c.handler.deliver w.ports job).run l = (.error f, dl)) (hf : c.FinalFailure f rc) :
    log = dl ++ [.report c.handler.channel (.failed job.requestId f.message now), .settle .reject] := by
  have agree : ∀ {job' : Job} {f' : Fault} {dl' : List PortCall}, c.parse payload = .ok job' →
      (c.handler.deliver w.ports job').run l = (.error f', dl') → job' = job ∧ f' = f ∧ dl' = dl :=
    fun hp' hd' => by
      rw [hp, Except.ok.injEq] at hp'
      subst hp'
      rw [hd, Prod.mk.injEq, Except.error.injEq] at hd'
      exact ⟨rfl, hd'.1.symm, hd'.2.symm⟩
  cases h with
  | discarded hp' hd' | terminal hp' hd' | exhausted hp' hd' =>
    obtain ⟨rfl, rfl, rfl⟩ := agree hp' hd'
    rfl
  | malformed hp' =>
    rw [hp] at hp'
    cases hp'
  | delivered hp' hd' | unacknowledged hp' hd' =>
    obtain ⟨hx, -⟩ := deliveries_agree hp hd hp' hd'
    cases hx
  | dependencyDown hp' hd' hcl' =>
    obtain ⟨rfl, rfl, rfl⟩ := agree hp' hd'
    exact absurd hcl' hf.ne_dependencyDown
  | retried hp' hd' hcl' hr | requeued hp' hd' hcl' hr =>
    obtain ⟨rfl, rfl, rfl⟩ := agree hp' hd'
    exact absurd hr (Nat.not_lt.2 (hf.retries_used hcl'))

/-! ### Each fact about the reports -/

section Facts

variable (h : Handled c w now payload rc l r log) (hl : l.filterMap PortCall.reported? = [])
include h hl

theorem Handled.reports_length : (log.filterMap PortCall.reported?).length ≤ 1 := by
  rcases h.reports_cases hl with h0 | ⟨_, _, _, _, _, _, _, h1⟩ | ⟨_, _, _, _, _, _, _, _, h1⟩
  · simp [h0]
  · simp [h1]
  · simp [h1]

theorem Handled.report_of_mem {ch : Channel} {u : StatusUpdate}
    (hm : (ch, u) ∈ log.filterMap PortCall.reported?) :
    ch = c.handler.channel ∧ ∃ job, c.parse payload = .ok job ∧ u.requestId = job.requestId := by
  rcases h.reports_cases hl with h0 | ⟨job, _, hp, _, _, _, _, h1⟩ |
      ⟨job, _, _, hp, _, _, _, _, h1⟩
  · simp [h0] at hm
  · simp only [h1, List.mem_singleton, Prod.mk.injEq] at hm
    obtain ⟨rfl, rfl⟩ := hm
    exact ⟨rfl, job, hp, rfl⟩
  · simp only [h1, List.mem_singleton, Prod.mk.injEq] at hm
    obtain ⟨rfl, rfl⟩ := hm
    exact ⟨rfl, job, hp, rfl⟩

theorem Handled.delivered_report_iff :
    (∃ ch u, (ch, u) ∈ log.filterMap PortCall.reported? ∧ u.status = .delivered) ↔
      ∃ job dl, c.parse payload = .ok job ∧
        (c.handler.deliver w.ports job).run l = (.ok (), dl) ∧ w.settle dl .ack = .ok () := by
  constructor
  · rintro ⟨ch, u, hm, hs⟩
    rcases h.reports_cases hl with h0 | ⟨job, dl, hp, hd, ha, _, _, _⟩ |
        ⟨_, _, _, _, _, _, _, _, h1⟩
    · simp [h0] at hm
    · exact ⟨job, dl, hp, hd, ha⟩
    · -- the one report is a failure report
      simp only [h1, List.mem_singleton, Prod.mk.injEq] at hm
      rw [hm.2] at hs
      cases hs
  · rintro ⟨job, dl, hp, hd, ha⟩
    refine ⟨c.handler.channel, .delivered job.requestId now, ?_, rfl⟩
    simp [h.log_of_delivered hp hd ha, deliver_reports hd hl, List.filterMap_cons]

theorem Handled.delivered_report_after_ack {ch : Channel} {u : StatusUpdate}
    (hm : (ch, u) ∈ log.filterMap PortCall.reported?) (hs : u.status = .delivered) :
    ∃ pre, log = pre ++ [.settle .ack, .report ch u] := by
  rcases h.reports_cases hl with h0 | ⟨_, dl, _, _, _, _, hlog, h1⟩ | ⟨_, _, _, _, _, _, _, _, h1⟩
  · simp [h0] at hm
  · simp only [h1, List.mem_singleton, Prod.mk.injEq] at hm
    obtain ⟨rfl, rfl⟩ := hm
    exact ⟨dl, hlog⟩
  · simp only [h1, List.mem_singleton, Prod.mk.injEq] at hm
    rw [hm.2] at hs
    cases hs

theorem Handled.failed_report_iff :
    (∃ ch u, (ch, u) ∈ log.filterMap PortCall.reported? ∧ u.status = .failed) ↔
      ∃ job f dl, c.parse payload = .ok job ∧
        (c.handler.deliver w.ports job).run l = (.error f, dl) ∧ c.FinalFailure f rc := by
  constructor
  · rintro ⟨ch, u, hm, hs⟩
    rcases h.reports_cases hl with h0 | ⟨_, _, _, _, _, _, _, h1⟩ |
        ⟨job, f, dl, hp, hd, hf, _, _, _⟩
    · simp [h0] at hm
    · -- the one report is a delivered report
      simp only [h1, List.mem_singleton, Prod.mk.injEq] at hm
      rw [hm.2] at hs
      cases hs
    · exact ⟨job, f, dl, hp, hd, hf⟩
  · rintro ⟨job, f, dl, hp, hd, hf⟩
    refine ⟨c.handler.channel, .failed job.requestId f.message now, ?_, rfl⟩
    simp [h.log_of_final hp hd hf, deliver_reports hd hl, List.filterMap_cons]

theorem Handled.failed_report_before_reject {ch : Channel} {u : StatusUpdate}
    (hm : (ch, u) ∈ log.filterMap PortCall.reported?) (hs : u.status = .failed) :
    ∃ job f dl, c.parse payload = .ok job ∧
      (c.handler.deliver w.ports job).run l = (.error f, dl) ∧ u.error = some f.message ∧
      log = dl ++ [.report ch u, .settle .reject] := by
  rcases h.reports_cases hl with h0 | ⟨_, _, _, _, _, _, _, h1⟩ |
      ⟨job, f, dl, hp, hd, _, _, hlog, h1⟩
  · simp [h0] at hm
  · simp only [h1, List.mem_singleton, Prod.mk.injEq] at hm
    rw [hm.2] at hs
    cases hs
  · simp only [h1, List.mem_singleton, Prod.mk.injEq] at hm
    obtain ⟨rfl, rfl⟩ := hm
    exact ⟨job, f, dl, hp, hd, rfl, hlog⟩

theorem Handled.no_report
    (hn : (∃ e, c.parse payload = .error e) ∨ r = .ok .dependencyDown ∨
      (∃ a, r = .ok (.retried a)) ∨ r = .ok .requeued) :
    log.filterMap PortCall.reported? = [] := by
  rcases h.reports_cases hl with h0 | ⟨_, _, hp, _, _, hr, _, _⟩ | ⟨_, _, _, hp, _, _, hr, _, _⟩
  · exact h0
  · rcases hn with ⟨e, he⟩ | hn | ⟨a, hn⟩ | hn
    · rw [hp] at he
      cases he
    all_goals (rw [hr] at hn; cases hn)
  · rcases hn with ⟨e, he⟩ | hn | ⟨a, hn⟩ | hn
    · rw [hp] at he
      cases he
    all_goals (rcases hr _ hn with h2 | h2 <;> cases h2)

end Facts

/-! ### The gateway's answers are dropped -/

section Blind

variable (g : List PortCall → Channel → StatusUpdate → Outcome Unit)

theorem deliver_report_blind (h : Handler) (job : Job) :
    h.deliver { w with report := g }.ports job = h.deliver w.ports job := by
  cases h <;> rfl

theorem report_report_blind (u : StatusUpdate) :
    c.report { w with report := g }.ports u = c.report w.ports u :=
  StateT.ext fun l => (report_run _ l c u).trans (report_run w l c u).symm

/-- Handling a delivery makes the same calls and returns the same result however the gateway
answers its reports. -/
theorem handle_report_blind :
    c.handle { w with report := g }.ports now payload rc = c.handle w.ports now payload rc := by
  simp only [Consumer.handle, Consumer.settleFailure, deliver_report_blind, report_report_blind]
  rfl

end Blind

/-! ### Status reporting of a delivery -/

/-- How handling a delivery reports, whatever the payload, the retry count and the answers of the
world: at most once, on the handler's channel and for the job read from the payload; a delivered
report exactly when the job was delivered and acknowledged, right after the acknowledgement; a
failure report, with the fault's message, exactly when the job was read and failed for good,
right before the rejection; none for a payload that cannot be read, a dependency that is down, a
retry or a requeue. However the gateway answers, the calls and the result stay the same. -/
theorem handle_status_reports (c : Consumer) (w : World) (now : Time.Instant) (payload : String)
    (rc : Nat) :
    let run := (c.handle w.ports now payload rc).run []
    let reports := run.2.filterMap PortCall.reported?
    reports.length ≤ 1 ∧
    (∀ ch u, (ch, u) ∈ reports →
      ch = c.handler.channel ∧ ∃ job, c.parse payload = .ok job ∧ u.requestId = job.requestId) ∧
    ((∃ ch u, (ch, u) ∈ reports ∧ u.status = .delivered) ↔
      ∃ job dl, c.parse payload = .ok job ∧
        (c.handler.deliver w.ports job).run [] = (.ok (), dl) ∧ w.settle dl .ack = .ok ()) ∧
    (∀ ch u, (ch, u) ∈ reports → u.status = .delivered →
      ∃ pre, run.2 = pre ++ [.settle .ack, .report ch u]) ∧
    ((∃ ch u, (ch, u) ∈ reports ∧ u.status = .failed) ↔
      ∃ job f dl, c.parse payload = .ok job ∧
        (c.handler.deliver w.ports job).run [] = (.error f, dl) ∧ c.FinalFailure f rc) ∧
    (∀ ch u, (ch, u) ∈ reports → u.status = .failed →
      ∃ job f dl, c.parse payload = .ok job ∧
        (c.handler.deliver w.ports job).run [] = (.error f, dl) ∧ u.error = some f.message ∧
        run.2 = dl ++ [.report ch u, .settle .reject]) ∧
    ((∃ e, c.parse payload = .error e) ∨ run.1 = .ok .dependencyDown ∨
        (∃ a, run.1 = .ok (.retried a)) ∨ run.1 = .ok .requeued → reports = []) ∧
    (∀ g, (c.handle { w with report := g }.ports now payload rc).run [] = run) := by
  intro run reports
  have h := handled c w now payload rc []
  exact ⟨h.reports_length rfl, fun _ _ hm => h.report_of_mem rfl hm, h.delivered_report_iff rfl,
    fun _ _ hm hs => h.delivered_report_after_ack rfl hm hs, h.failed_report_iff rfl,
    fun _ _ hm hs => h.failed_report_before_reject rfl hm hs, h.no_report rfl,
    fun g => by rw [handle_report_blind]⟩

end Courier.Worker
