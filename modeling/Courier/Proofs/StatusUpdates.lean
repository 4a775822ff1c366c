import Courier.Proofs.Idempotence

/-!
# Folding status reports into the store

A worker's report on a channel is folded into the stored record of its request id
(`updateStatus`). Taken apart at its port calls it reads the record and then stores one
(`updateStatus_eq`). Run against a store (`Script.Runs`, each call answered as `Answers` allows),
it goes one of four ways (`ReportFolded`, `updateStatus_runs_iff`):

* a blank request id is refused before any call;
* a failed read of the stored record is returned, and nothing is written;
* otherwise exactly one store call writes the record read, or a new one on the report's channel
  with priority 0, carrying the report's status and error and the report's time (or the present
  one); it replaces only the record under its own request id, and it is returned when the store
  takes it;
* a store that refuses the write leaves every record as it was.

A store keeps each record under its own request id (`Keyed`), and no call of a port breaks that
(`Answers.keyed`). Folding reports on one request id one after another (`Folds`) therefore leaves
the record there before the first, or the first report's new one, with the last report applied
(`folds_applied`): a report's fold forgets what the reports before it set (`apply_apply`).
-/

namespace Courier.Gateway

open Courier.Broker

namespace StatusRecord

variable (r : StatusRecord) (u : StatusUpdate) (now : Time.Instant)

@[simp] theorem apply_requestId : (r.apply u now).requestId = r.requestId := rfl
@[simp] theorem apply_status : (r.apply u now).status = u.status := rfl
@[simp] theorem apply_channel : (r.apply u now).channel = r.channel := rfl
@[simp] theorem apply_priority : (r.apply u now).priority = r.priority := rfl
@[simp] theorem apply_error : (r.apply u now).error = u.error := rfl
@[simp] theorem apply_timestamp : (r.apply u now).timestamp = u.timestamp.getD now := rfl

theorem apply_apply (u₁ u₂ : StatusUpdate) (t₁ t₂ : Time.Instant) :
    (r.apply u₁ t₁).apply u₂ t₂ = r.apply u₂ t₂ := rfl

end StatusRecord

/-! ### The stages of a fold -/

/-- The record a report on `ch` at `now` is folded into: the stored one, or a new record of the
report's request id on the report's channel. -/
def reportBase (ch : Channel) (now : Time.Instant) (u : StatusUpdate) :
    Option StatusRecord → StatusRecord
  | some existing => existing
  | none => { requestId := u.requestId, status := u.status, channel := some ch, timestamp := now }

/-- The record a report writes, given the record stored for its request id. -/
def reported (ch : Channel) (now : Time.Instant) (u : StatusUpdate) (existing : Option StatusRecord) :
    StatusRecord :=
  (reportBase ch now u existing).apply u now

/-- Storing the folded record; it is returned once the store took it. -/
def storing (record : StatusRecord) : Script (Outcome StatusRecord) :=
  .call (.store record) fun
    | .ok _ => .done (.ok record)
    | .error e => .done (.error e)

theorem updateStatus_eq (now : Time.Instant) (ch : Channel) (u : StatusUpdate) :
    updateStatus scriptPorts now ch u =
      if Text.isBlankText u.requestId = true then .done (.error (.validation "request_id is required."))
      else .call (.lookup u.requestId) fun
        | .ok existing => storing (reported ch now u existing)
        | .error e => .done (.error e) := by
  unfold updateStatus
  by_cases hb : Text.isBlankText u.requestId = true
  · simp only [hb]
    rfl
  · simp only [hb]
    refine Script.call_congr fun a => ?_
    rcases a with e | existing
    · rfl
    · -- the record stored is the one folded from what the read found
      rcases existing with _ | existing <;>
      · show Script.call _ _ = Script.call _ _
        refine Script.call_congr fun b => ?_
        rcases b with e | _ <;> rfl

/-! ### Runs against the store -/

namespace Script

/-- A script run to its end against the store from the records `records`: the calls it made with
their answers, in order, its result, and the records after. Each call is answered as `Answers`
allows. -/
inductive Runs {α : Type} : Records → Script α → List Exchange → α → Records → Prop
  | done (records : Records) (a : α) : Runs records (.done a) [] a records
  | call {records records₁ records₂ : Records} {c : GatewayCall} {k : c.Answer → Script α}
      {a : c.Answer} {xs : List Exchange} {r : α} :
      Answers records c a records₁ → Runs records₁ (k a) xs r records₂ →
      Runs records (.call c k) (⟨c, a⟩ :: xs) r records₂

variable {α : Type} {records records' : Records} {xs : List Exchange} {r : α}

theorem runs_done_iff {a : α} :
    Runs records (.done a) xs r records' ↔ xs = [] ∧ r = a ∧ records' = records := by
  constructor
  · rintro ⟨⟩
    exact ⟨rfl, rfl, rfl⟩
  · rintro ⟨rfl, rfl, rfl⟩
    exact .done _ _

theorem runs_call_iff {c : GatewayCall} {k : c.Answer → Script α} :
    Runs records (.call c k) xs r records' ↔
      ∃ a records₁ ys, Answers records c a records₁ ∧ Runs records₁ (k a) ys r records' ∧
        xs = ⟨c, a⟩ :: ys := by
  constructor
  · rintro (_ | ⟨ha, hk⟩)
    exact ⟨_, _, _, ha, hk, rfl⟩
  · rintro ⟨a, records₁, ys, ha, hk, rfl⟩
    exact .call ha hk

end Script

open Script

namespace Answers

variable {records records' : Records}

theorem lookup_iff {k : String} {a : (GatewayCall.lookup k).Answer} :
    Answers records (.lookup k) a records' ↔
      (a = .ok (records k) ∨ ∃ e, a = .error e) ∧ records' = records := by
  constructor
  · intro h
    cases h with
    | lookup => exact ⟨.inl rfl, rfl⟩
    | lookupFailed _ e => exact ⟨.inr ⟨e, rfl⟩, rfl⟩
  · rintro ⟨ha | ⟨e, rfl⟩, rfl⟩
    · rw [ha]
      exact .lookup k
    · exact .lookupFailed k e

theorem store_iff {record : StatusRecord} {a : (GatewayCall.store record).Answer} :
    Answers records (.store record) a records' ↔
      (a = .ok () ∧ records' = Function.update records record.requestId (some record)) ∨
        (∃ e, a = .error e ∧ records' = records) := by
  constructor
  · intro h
    cases h with
    | store => exact .inl ⟨rfl, rfl⟩
    | storeFailed _ e => exact .inr ⟨e, rfl, rfl⟩
  · rintro (⟨rfl, rfl⟩ | ⟨e, rfl, rfl⟩)
    · exact .store record
    · exact .storeFailed record e

end Answers

/-! ### Folding one report -/

section Fold

variable {now : Time.Instant} {ch : Channel} {u : StatusUpdate} {records records' : Records}
  {calls : List Exchange} {r : Outcome StatusRecord}

theorem storing_runs_iff {record : StatusRecord} :
    Runs records (storing record) calls r records' ↔
      (calls = [⟨.store record, .ok ()⟩] ∧ r = .ok record ∧
        records' = Function.update records record.requestId (some record)) ∨
      (∃ e, calls = [⟨.store record, .error e⟩] ∧ r = .error e ∧ records' = records) := by
  simp only [storing, runs_call_iff, Answers.store_iff]
  constructor
  · rintro ⟨a, records₁, ys, ⟨rfl, rfl⟩ | ⟨e, rfl, rfl⟩, hk, rfl⟩
    · obtain ⟨rfl, rfl, rfl⟩ := runs_done_iff.1 hk
      exact .inl ⟨rfl, rfl, rfl⟩
    · obtain ⟨rfl, rfl, rfl⟩ := runs_done_iff.1 hk
      exact .inr ⟨e, rfl, rfl, rfl⟩
  · rintro (⟨rfl, rfl, rfl⟩ | ⟨e, rfl, rfl, rfl⟩)
    · exact ⟨_, _, _, .inl ⟨rfl, rfl⟩, runs_done_iff.2 ⟨rfl, rfl, rfl⟩, rfl⟩
    · exact ⟨_, _, _, .inr ⟨e, rfl, rfl⟩, runs_done_iff.2 ⟨rfl, rfl, rfl⟩, rfl⟩

/-- The ways folding a report on `ch` at `now` into the records `records` can go: the calls it
makes with their answers, what it returns, and the records after it. -/
inductive ReportFolded (records : Records) (now : Time.Instant) (ch : Channel) (u : StatusUpdate) :
    List Exchange → Outcome StatusRecord → Records → Prop
  /-- a blank request id is refused before any call -/
  | refused : Text.isBlankText u.requestId = true →
      ReportFolded records now ch u [] (.error (.validation "request_id is required.")) records
  /-- a failed read is returned, and nothing is written -/
  | readFailed (e : Fault) : Text.isBlankText u.requestId = false →
      ReportFolded records now ch u [⟨.lookup u.requestId, .error e⟩] (.error e) records
  /-- the folded record is stored, replacing only the record under its own request id, and
  returned -/
  | stored : Text.isBlankText u.requestId = false →
      ReportFolded records now ch u
        [⟨.lookup u.requestId, .ok (records u.requestId)⟩,
          ⟨.store (reported ch now u (records u.requestId)), .ok ()⟩]
        (.ok (reported ch now u (records u.requestId)))
        (Function.update records (reported ch now u (records u.requestId)).requestId
          (some (reported ch now u (records u.requestId))))
  /-- a refused write is returned, and nothing changes -/
  | storeFailed (e : Fault) : Text.isBlankText u.requestId = false →
      ReportFolded records now ch u
        [⟨.lookup u.requestId, .ok (records u.requestId)⟩,
          ⟨.store (reported ch now u (records u.requestId)), .error e⟩]
        (.error e) records

/-- Folding a report into a store goes exactly the ways of `ReportFolded`. -/
theorem updateStatus_runs_iff :
    Runs records (updateStatus scriptPorts now ch u) calls r records' ↔
      ReportFolded records now ch u calls r records' := by
  rw [updateStatus_eq]
  by_cases hb : Text.isBlankText u.requestId = true
  · simp only [hb, ↓reduceIte, runs_done_iff]
    constructor
    · rintro ⟨rfl, rfl, rfl⟩
      exact .refused hb
    · rintro (_ | _ | _ | _) <;> simp_all
  · have hb' : Text.isBlankText u.requestId = false := by simpa using hb
    simp only [hb, Bool.false_eq_true, ↓reduceIte, runs_call_iff, Answers.lookup_iff]
    constructor
    · rintro ⟨a, records₁, ys, ⟨ha | ⟨e, rfl⟩, rfl⟩, hk, rfl⟩
      · -- the record read is folded and stored
        subst ha
        rcases storing_runs_iff.1 hk with ⟨rfl, rfl, rfl⟩ | ⟨e, rfl, rfl, rfl⟩
        · exact .stored hb'
        · exact .storeFailed e hb'
      · obtain ⟨rfl, rfl, rfl⟩ := runs_done_iff.1 hk
        exact .readFailed e hb'
    · rintro (_ | ⟨e⟩ | _ | ⟨e⟩)
      · simp_all
      · exact ⟨_, _, _, ⟨.inr ⟨e, rfl⟩, rfl⟩, runs_done_iff.2 ⟨rfl, rfl, rfl⟩, rfl⟩
      · exact ⟨_, _, _, ⟨.inl rfl, rfl⟩, storing_runs_iff.2 (.inl ⟨rfl, rfl, rfl⟩), rfl⟩
      · exact ⟨_, _, _, ⟨.inl rfl, rfl⟩, storing_runs_iff.2 (.inr ⟨e, rfl, rfl, rfl⟩), rfl⟩

end Fold

/-! ### A store keyed by request id -/

/-- Every record is stored under its own request id. -/
def Keyed (records : Records) : Prop :=
  ∀ k record, records k = some record → record.requestId = k

theorem Keyed.update {records : Records} (h : Keyed records) (record : StatusRecord) :
    Keyed (Function.update records record.requestId (some record)) := by
  intro k x hx
  rw [Function.update_apply] at hx
  split at hx
  · rename_i hk
    cases hx
    exact hk.symm
  · exact h k x hx

theorem Answers.keyed {records records' : Records} {c : GatewayCall} {a : c.Answer}
    (h : Answers records c a records') (hk : Keyed records) : Keyed records' := by
  cases h with
  | createNew _ => exact hk.update _
  | store record => exact hk.update record
  | _ => exact hk

theorem Script.Runs.keyed {α : Type} {records records' : Records} {s : Script α}
    {calls : List Exchange} {r : α} (h : Runs records s calls r records') (hk : Keyed records) :
    Keyed records' := by
  induction h with
  | done => exact hk
  | call ha _ ih => exact ih (ha.keyed hk)

theorem updateStatus_ok {now : Time.Instant} {ch : Channel} {u : StatusUpdate}
    {records records' : Records} {calls : List Exchange} {record : StatusRecord}
    (h : Runs records (updateStatus scriptPorts now ch u) calls (.ok record) records')
    (hk : Keyed records) :
    record = reported ch now u (records u.requestId) ∧
      records' = Function.update records u.requestId (some record) := by
  have hid : (reported ch now u (records u.requestId)).requestId = u.requestId := by
    cases hr : records u.requestId with
    | none => rfl
    | some existing => exact hk _ existing hr
  cases updateStatus_runs_iff.1 h with
  | stored =>
    rw [hid]
    exact ⟨rfl, rfl⟩

/-! ### Folding reports one after another -/

/-- Reports folded in one after another, each at its time and on its channel, each from the
records the one before left: what each returned, and the records after the last. -/
inductive Folds : Records → List (Time.Instant × Channel × StatusUpdate) →
    List (Outcome StatusRecord) → Records → Prop
  | nil (records : Records) : Folds records [] [] records
  | cons {records records₁ records₂ : Records} {now : Time.Instant} {ch : Channel}
      {u : StatusUpdate} {calls : List Exchange} {r : Outcome StatusRecord}
      {reports : List (Time.Instant × Channel × StatusUpdate)} {results : List (Outcome StatusRecord)} :
      Runs records (updateStatus scriptPorts now ch u) calls r records₁ →
      Folds records₁ reports results records₂ →
      Folds records ((now, ch, u) :: reports) (r :: results) records₂

theorem exists_ok_of_isOk {α : Type} {r : Outcome α} (h : r.isOk = true) : ∃ a, r = .ok a := by
  cases r with
  | ok a => exact ⟨a, rfl⟩
  | error e => simp [Except.isOk, Except.toBool] at h

/-- Reports on the request id `id` folded one after another into a keyed store, each returning
its record: the record under `id` after them is the record there before the first (or the first
report's new one), with the last report applied. -/
theorem folds_applied {id : String} :
    ∀ {records records' : Records} {now : Time.Instant} {ch : Channel} {u : StatusUpdate}
      {reports : List (Time.Instant × Channel × StatusUpdate)} {results : List (Outcome StatusRecord)},
      Folds records ((now, ch, u) :: reports) results records' →
      (∀ x ∈ (now, ch, u) :: reports, x.2.2.requestId = id) → (∀ x ∈ results, x.isOk = true) →
      Keyed records →
      records' id = some ((reportBase ch now u (records id)).apply
        (((now, ch, u) :: reports).getLast (List.cons_ne_nil _ _)).2.2
        (((now, ch, u) :: reports).getLast (List.cons_ne_nil _ _)).1) := by
  intro records records' now ch u reports results hf hid hok hk
  -- induction on the reports after the first, carrying the store's keys along
  induction reports generalizing records now ch u results with
  | nil =>
    rcases hf with _ | ⟨hrun, hrest⟩
    cases hrest
    rename_i r
    obtain ⟨record, rfl⟩ := exists_ok_of_isOk (hok r List.mem_cons_self)
    have hu : u.requestId = id := hid _ List.mem_cons_self
    obtain ⟨rfl, rfl⟩ := updateStatus_ok hrun hk
    subst hu
    simp [reported]
  | cons next reports ih =>
    rcases hf with _ | ⟨hrun, hrest⟩
    rename_i records₁ calls r results'
    obtain ⟨record, rfl⟩ := exists_ok_of_isOk (hok r List.mem_cons_self)
    have hu : u.requestId = id := hid _ List.mem_cons_self
    obtain ⟨rfl, rfl⟩ := updateStatus_ok hrun hk
    obtain ⟨now₂, ch₂, u₂⟩ := next
    have h := ih hrest (fun x hx => hid x (List.mem_cons_of_mem _ hx))
      (fun x hx => hok x (List.mem_cons_of_mem _ hx)) (hrun.keyed hk)
    rw [h]
    subst hu
    simp [reportBase, reported, StatusRecord.apply_apply]

/-- A worker's report on channel `ch`, folded into the status store, goes one of the ways of
`ReportFolded`:

1. a report whose request id is blank is refused as a validation fault with no call to the store;
2. a failed read of the stored record is returned and nothing is written;
3. otherwise exactly one store call writes `reported`: the record read, or a new one (the report's
   id, the channel `ch`, priority 0), with the report's status and error and its time or the
   present one. It is returned when the store takes it, and only the record under its request id
   changes; a refused write leaves every record as it was.

And reports on one request id folded one after another into a store that keeps each record under
its own id, each returning its record, leave under that id the status and error of the last
report, and the channel and priority of the record there before the first (or of the first
report's new record). -/
theorem status_report_fold :
    (∀ (records : Records) (now : Time.Instant) (ch : Channel) (u : StatusUpdate)
        (calls : List Exchange) (r : Outcome StatusRecord) (records' : Records),
      Runs records (updateStatus scriptPorts now ch u) calls r records' ↔
        ReportFolded records now ch u calls r records') ∧
    (∀ (id : String) (records records' : Records) (first : Time.Instant × Channel × StatusUpdate)
        (reports : List (Time.Instant × Channel × StatusUpdate))
        (results : List (Outcome StatusRecord)),
      Folds records (first :: reports) results records' →
      (∀ x ∈ first :: reports, x.2.2.requestId = id) → (∀ x ∈ results, x.isOk = true) →
      Keyed records →
      ∃ record, records' id = some record ∧ record.requestId = id ∧
        record.status = ((first :: reports).getLast (List.cons_ne_nil _ _)).2.2.status ∧
        record.error = ((first :: reports).getLast (List.cons_ne_nil _ _)).2.2.error ∧
        record.channel = (reportBase first.2.1 first.1 first.2.2 (records id)).channel ∧
        record.priority = (reportBase first.2.1 first.1 first.2.2 (records id)).priority) := by
  refine ⟨fun records now ch u calls r records' => updateStatus_runs_iff, ?_⟩
  rintro id records records' ⟨now, ch, u⟩ reports results hf hid hok hk
  have hu : u.requestId = id := hid _ List.mem_cons_self
  refine ⟨_, folds_applied hf hid hok hk, ?_, rfl, rfl, rfl, rfl⟩
  cases hr : records id with
  | none => exact hu
  | some existing => exact hk _ existing hr

/-- A delivered report and then a failed one on `r1`, folded into an empty store: the record left
carries the failure and its error, on the email channel with priority 0. -/
theorem failed_report_after_delivery :
    ∃ results records', Folds (fun _ => none)
        [(⟨0, 0⟩, .email, { requestId := "r1", status := .delivered }),
          (⟨1, 0⟩, .email, { requestId := "r1", status := .failed, error := some "bounced" })]
        results records' ∧ (∀ x ∈ results, x.isOk = true) ∧
      ∃ record, records' "r1" = some record ∧ record.status = .failed ∧
        record.error = some "bounced" ∧ record.channel = some .email ∧ record.priority = 0 := by
  have hf : Folds (fun _ => none)
      [(⟨0, 0⟩, .email, { requestId := "r1", status := .delivered }),
        (⟨1, 0⟩, .email, { requestId := "r1", status := .failed, error := some "bounced" })] _ _ :=
    .cons ((status_report_fold.1 _ _ _ _ _ _ _).2 (.stored (by decide)))
      (.cons ((status_report_fold.1 _ _ _ _ _ _ _).2 (.stored (by decide))) (.nil _))
  obtain ⟨record, hrec, -, hs, he, hc, hp⟩ :=
    status_report_fold.2 "r1" _ _ _ _ _ hf (by simp) (by simp [Except.isOk, Except.toBool])
      (fun _ _ h => by cases h)
  exact ⟨_, _, hf, by simp [Except.isOk, Except.toBool], record, hrec, hs, he, hc, hp⟩

end Courier.Gateway
