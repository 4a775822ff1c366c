import Courier.Proofs.JobHandoff

/-!
# The wire formats

Three records cross process boundaries as JSON text: jobs, from the gateway to the workers; status
updates, from the workers back to the gateway; and status records, from the gateway to the store.
Each is written with `toValue` and read back against its shape with `ofValue`. Their optional
fields are written in different ways: a job leaves out an absent email and writes an absent user
id as `null`, an update leaves out an absent error and writes an absent time as `null`, a record
leaves out an absent channel and writes an absent error as `null`. Every field left out has a
default when read, so each record reads back whole.

* A record's time reads back when its text parses to it (`shapeReadsBack_instant`), which is what
  the calendar arithmetic of `Instant.parse` and `Instant.render` gives for the times a clock
  produces.
* Each record is written as the object of its `entries`, which its shape reads back field by
  field, and `ofValue` makes the record again (`Job.decode_write`, `StatusUpdate.decode_write`,
  `StatusRecord.decode_write`).
* A job's template variables are arbitrary JSON, and the reader bounds how deeply containers nest:
  variables nested to the reader's limit make the text of a job unreadable
  (`deep_variables_unreadable`), so the round trip holds for variables nested within it whose
  floats read back (`Json.Value.Faithful`, `wire_formats_round_trip`).
-/

namespace Courier

open Json Time

/-! ### Times -/

namespace Json

theorem shapeReadsBack_instant (depth : Nat) {t : Instant} (ht : Instant.parse t.render = .ok t) :
    ShapeReadsBack depth .instant (.str t.render) := by
  intro fuel chain r _ hf
  obtain ⟨fuel, rfl, -⟩ := exists_succ_of_lt hf
  rw [readShape, write_str_toList]
  refine (Scan.Reads.placed ?_).framed chain
  refine (blank_reads _ (by simp; decide)).bind ?_
  simp only [List.cons_append, List.head?_cons, List.append_assoc]
  refine (advance_reads _ _).bind ((readStringBody_reads _ r).bind ?_)
  simp only [ht]
  exact Scan.reads_pure _ _

theorem shapeReadsBack_optional_instant (depth : Nat) {t : Option Instant}
    (ht : ∀ x ∈ t, Instant.parse x.render = .ok x) :
    ShapeReadsBack depth (.optional .instant) (Value.ofOption (fun x => .str x.render) t) := by
  cases t with
  | none => exact shapeReadsBack_optional_null depth .instant
  | some x =>
    exact shapeReadsBack_optional (shapeReadsBack_instant depth (ht x rfl)) (write_str_toList _)
      (by decide) (by decide)

end Json

theorem instantOfText_render {t : Instant} (ht : Instant.parse t.render = .ok t) :
    instantOfText t.render = t := by
  simp [instantOfText, ht]

/-! ### Jobs -/

namespace Job

/-- Reading the text of a job gives the job back, when its priority fits a byte and its template
variables read back. -/
theorem decode_write (j : Job) (hprio : j.priority ≤ 255)
    (hvars : (Value.obj j.vars).Faithful 127) :
    (shape.readText j.toValue.write).map ofValue = .ok j := by
  rw [j.readText_write_of_faithful hprio hvars]
  exact congrArg Except.ok j.ofValue_readEntries

theorem get?_email (j : Job) : j.toValue.get? "email" = j.email.map .str := by
  obtain ⟨ch, rid, uid, tc, vars, prio, email, tokens⟩ := j
  cases email <;> rfl

theorem get?_userId (j : Job) : j.toValue.get? "user_id" = some (.optStr j.userId) := by
  obtain ⟨ch, rid, uid, tc, vars, prio, email, tokens⟩ := j
  cases email <;> rfl

end Job

/-! ### Status records -/

namespace StatusRecord

/-- The entries of a record's JSON object, in the order of their keys. -/
def entries (r : StatusRecord) : List (String × Value) :=
  ("error", .optStr r.error) ::
  ((match r.channel with
    | some c => [("notification_type", c.toValue)]
    | none => []) ++
  [("priority", .nat r.priority), ("request_id", .str r.requestId),
   ("status", .str r.status.name), ("timestamp", .str r.timestamp.render)])

theorem toValue_eq (r : StatusRecord) : r.toValue = .obj r.entries := by
  obtain ⟨rid, st, ch, prio, err, ts⟩ := r
  cases ch <;> rfl

theorem entries_keys_nodup (r : StatusRecord) : (r.entries.map Prod.fst).Nodup := by
  cases h : r.channel <;> simp [entries, h]

/-- The fields of the record shape. -/
def fieldShapes : List (String × Shape × Bool) :=
  [("request_id", .text, false), ("status", DeliveryStatus.shape, false),
   ("notification_type", .optional Channel.shape, true), ("priority", .byte, true),
   ("error", .optional .text, true), ("timestamp", .instant, false)]

theorem shape_eq : shape = .record "NotificationRecord" fieldShapes := rfl

/-- A record as read against its shape: every field present, an absent channel as `null`. -/
def readEntries (r : StatusRecord) : List (String × Value) :=
  [("error", .optStr r.error), ("notification_type", Value.ofOption Channel.toValue r.channel),
   ("priority", .nat r.priority), ("request_id", .str r.requestId),
   ("status", .str r.status.name), ("timestamp", .str r.timestamp.render)]

theorem completeFields_entries (r : StatusRecord) :
    completeFields fieldShapes r.entries.reverse = .ok (.obj r.readEntries) := by
  obtain ⟨rid, st, ch, prio, err, ts⟩ := r
  cases ch <;> rfl

theorem ofValue_readEntries (r : StatusRecord)
    (ht : Instant.parse r.timestamp.render = .ok r.timestamp) :
    ofValue (.obj r.readEntries) = r := by
  obtain ⟨rid, st, ch, prio, err, ts⟩ := r
  have hst : (((Value.obj (readEntries ⟨rid, st, ch, prio, err, ts⟩)).field "status").str?.bind
      DeliveryStatus.ofName?).getD .pending = st := by
    cases st <;> rfl
  have hch : ((Value.obj (readEntries ⟨rid, st, ch, prio, err, ts⟩)).field
      "notification_type").str?.bind Channel.ofName? = ch := by
    rcases ch with _ | ⟨_ | _⟩ <;> rfl
  have hts : instantOfText (((Value.obj (readEntries ⟨rid, st, ch, prio, err, ts⟩)).field
      "timestamp").str?.getD "") = ts :=
    instantOfText_render ht
  simp only [ofValue, hst, hch, hts]
  cases err <;> rfl

theorem entries_readBack (r : StatusRecord) (hprio : r.priority ≤ 255)
    (ht : Instant.parse r.timestamp.render = .ok r.timestamp) :
    ∀ e ∈ r.entries, FieldReadsBack 127 fieldShapes 2 e := by
  intro e he
  simp only [entries, List.mem_cons, List.mem_append, List.not_mem_nil, or_false] at he
  rcases he with rfl | he | rfl | rfl | rfl | rfl
  · exact ⟨_, _, rfl, Nat.le_refl _, shapeReadsBack_optStr 127 _⟩
  · cases hc : r.channel with
    | none => simp [hc] at he
    | some c =>
      simp only [hc, List.mem_singleton] at he
      subst he
      refine ⟨_, _, rfl, Nat.le_refl _, shapeReadsBack_optional
        (shapeReadsBack_choice 127 _ _ ?_) (write_str_toList _) (by decide) (by decide)⟩
      cases c <;> decide
  · exact ⟨_, _, rfl, by decide, shapeReadsBack_natural 127 255 "u8" _ hprio (by decide)⟩
  · exact ⟨_, _, rfl, by decide, shapeReadsBack_text 127 _⟩
  · refine ⟨_, _, rfl, by decide, shapeReadsBack_choice 127 _ _ ?_⟩
    cases r.status <;> decide
  · exact ⟨_, _, rfl, by decide, shapeReadsBack_instant 127 ht⟩

/-- Reading the text of a record gives the record back, when its priority fits a byte and its time
parses back. -/
theorem decode_write (r : StatusRecord) (hprio : r.priority ≤ 255)
    (ht : Instant.parse r.timestamp.render = .ok r.timestamp) :
    (shape.readText r.toValue.write).map ofValue = .ok r := by
  have hread : shape.readText r.toValue.write = .ok (.obj r.readEntries) := by
    rw [shape_eq, toValue_eq]
    exact readText_record (r.entries_readBack hprio ht) r.entries_keys_nodup (by decide)
      r.completeFields_entries
  rw [hread]
  exact congrArg Except.ok (r.ofValue_readEntries ht)

theorem get?_channel (r : StatusRecord) :
    r.toValue.get? "notification_type" = r.channel.map Channel.toValue := by
  obtain ⟨rid, st, ch, prio, err, ts⟩ := r
  cases ch <;> rfl

theorem get?_error (r : StatusRecord) : r.toValue.get? "error" = some (.optStr r.error) := by
  obtain ⟨rid, st, ch, prio, err, ts⟩ := r
  cases ch <;> rfl

end StatusRecord

/-! ### Status updates -/

namespace StatusUpdate

/-- The entries of an update's JSON object, in the order of their keys. -/
def entries (u : StatusUpdate) : List (String × Value) :=
  (match u.error with
    | some e => [("error", .str e)]
    | none => []) ++
  [("request_id", .str u.requestId), ("status", .str u.status.name),
   ("timestamp", Value.ofOption (fun t => .str t.render) u.timestamp)]

theorem toValue_eq (u : StatusUpdate) : u.toValue = .obj u.entries := by
  obtain ⟨rid, st, ts, err⟩ := u
  cases err <;> rfl

theorem entries_keys_nodup (u : StatusUpdate) : (u.entries.map Prod.fst).Nodup := by
  cases h : u.error <;> simp [entries, h]

/-- The fields of the update shape. -/
def fieldShapes : List (String × Shape × Bool) :=
  [("request_id", .text, false), ("status", DeliveryStatus.shape, false),
   ("timestamp", .optional .instant, true), ("error", .optional .text, true)]

theorem shape_eq : shape = .record "StatusUpdate" fieldShapes := rfl

/-- An update as read against its shape: every field present, an absent error as `null`. -/
def readEntries (u : StatusUpdate) : List (String × Value) :=
  [("error", .optStr u.error), ("request_id", .str u.requestId), ("status", .str u.status.name),
   ("timestamp", Value.ofOption (fun t => .str t.render) u.timestamp)]

theorem completeFields_entries (u : StatusUpdate) :
    completeFields fieldShapes u.entries.reverse = .ok (.obj u.readEntries) := by
  obtain ⟨rid, st, ts, err⟩ := u
  cases err <;> rfl

theorem ofValue_readEntries (u : StatusUpdate)
    (ht : ∀ t ∈ u.timestamp, Instant.parse t.render = .ok t) :
    ofValue (.obj u.readEntries) = u := by
  obtain ⟨rid, st, ts, err⟩ := u
  have hst : (((Value.obj (readEntries ⟨rid, st, ts, err⟩)).field "status").str?.bind
      DeliveryStatus.ofName?).getD .pending = st := by
    cases st <;> rfl
  have hts : ((Value.obj (readEntries ⟨rid, st, ts, err⟩)).field "timestamp").str?.map
      instantOfText = ts := by
    cases ts with
    | none => rfl
    | some t => exact congrArg some (instantOfText_render (ht t rfl))
  simp only [ofValue, hst, hts]
  cases err <;> rfl

theorem entries_readBack (u : StatusUpdate)
    (ht : ∀ t ∈ u.timestamp, Instant.parse t.render = .ok t) :
    ∀ e ∈ u.entries, FieldReadsBack 127 fieldShapes 2 e := by
  intro e he
  simp only [entries, List.mem_append, List.mem_cons, List.not_mem_nil, or_false] at he
  rcases he with he | rfl | rfl | rfl
  · cases he' : u.error with
    | none => simp [he'] at he
    | some m =>
      simp only [he', List.mem_singleton] at he
      subst he
      exact ⟨_, _, rfl, Nat.le_refl _, shapeReadsBack_optional_text 127 m⟩
  · exact ⟨_, _, rfl, by decide, shapeReadsBack_text 127 _⟩
  · refine ⟨_, _, rfl, by decide, shapeReadsBack_choice 127 _ _ ?_⟩
    cases u.status <;> decide
  · exact ⟨_, _, rfl, Nat.le_refl _, shapeReadsBack_optional_instant 127 ht⟩

/-- Reading the text of an update gives the update back, when its time parses back. -/
theorem decode_write (u : StatusUpdate)
    (ht : ∀ t ∈ u.timestamp, Instant.parse t.render = .ok t) :
    (shape.readText u.toValue.write).map ofValue = .ok u := by
  have hread : shape.readText u.toValue.write = .ok (.obj u.readEntries) := by
    rw [shape_eq, toValue_eq]
    exact readText_record (u.entries_readBack ht) u.entries_keys_nodup (by decide)
      u.completeFields_entries
  rw [hread]
  exact congrArg Except.ok (u.ofValue_readEntries ht)

theorem get?_error (u : StatusUpdate) : u.toValue.get? "error" = u.error.map .str := by
  obtain ⟨rid, st, ts, err⟩ := u
  cases err <;> rfl

theorem get?_timestamp (u : StatusUpdate) :
    u.toValue.get? "timestamp" = some (Value.ofOption (fun t => .str t.render) u.timestamp) := by
  obtain ⟨rid, st, ts, err⟩ := u
  cases err <;> rfl

end StatusUpdate

/-! ### The three formats -/

/-- The three records read back from their text. A job does when its priority fits a byte and its
template variables read back (`Value.Faithful 127`: containers nested within the reader's limit
once the job's object and the variables' object are entered, integers within 64 bits, keys in
order, and floats whose own text reads back); an update does when its time parses back; a record
does when its priority fits a byte and its time parses back. An absent optional field is written
as follows: a job leaves out its email and writes its user id as `null`, an update leaves out its
error and writes its time as `null`, a record leaves out its channel and writes its error as
`null`. -/
theorem wire_formats_round_trip :
    (∀ j : Job, j.priority ≤ 255 → (Value.obj j.vars).Faithful 127 →
      (Job.shape.readText j.toValue.write).map Job.ofValue = .ok j ∧
        j.toValue.get? "email" = j.email.map .str ∧
        j.toValue.get? "user_id" = some (.optStr j.userId)) ∧
    (∀ u : StatusUpdate, (∀ t ∈ u.timestamp, Instant.parse t.render = .ok t) →
      (StatusUpdate.shape.readText u.toValue.write).map StatusUpdate.ofValue = .ok u ∧
        u.toValue.get? "error" = u.error.map .str ∧
        u.toValue.get? "timestamp" =
          some (Value.ofOption (fun t => .str t.render) u.timestamp)) ∧
    (∀ r : StatusRecord, r.priority ≤ 255 → Instant.parse r.timestamp.render = .ok r.timestamp →
      (StatusRecord.shape.readText r.toValue.write).map StatusRecord.ofValue = .ok r ∧
        r.toValue.get? "notification_type" = r.channel.map Channel.toValue ∧
        r.toValue.get? "error" = some (.optStr r.error)) :=
  ⟨fun j hprio hvars => ⟨j.decode_write hprio hvars, j.get?_email, j.get?_userId⟩,
    fun u ht => ⟨u.decode_write ht, u.get?_error, u.get?_timestamp⟩,
    fun r hprio ht => ⟨r.decode_write hprio ht, r.get?_channel, r.get?_error⟩⟩

/-- A welcome job, the report of its failed delivery and the record of the request after it: each
reads back from its text. -/
theorem failed_delivery_round_trip :
    let j : Job :=
      { channel := .email, requestId := "r1", userId := some "u1", templateCode := "welcome",
        vars := [("name", .str "Ada")], priority := 5, email := some "ada@example.com" }
    let u : StatusUpdate :=
      { requestId := "r1", status := .failed, timestamp := some ⟨1700000000, 250000000⟩,
        error := some "SMTP timeout" }
    let r : StatusRecord :=
      { requestId := "r1", status := .failed, channel := some .email, priority := 5,
        error := some "SMTP timeout", timestamp := ⟨1700000000, 250000000⟩ }
    (j.priority ≤ 255 ∧ (Value.obj j.vars).Faithful 127 ∧
      (Job.shape.readText j.toValue.write).map Job.ofValue = .ok j) ∧
    ((∀ x ∈ u.timestamp, Instant.parse x.render = .ok x) ∧
      (StatusUpdate.shape.readText u.toValue.write).map StatusUpdate.ofValue = .ok u) ∧
    (r.priority ≤ 255 ∧ Instant.parse r.timestamp.render = .ok r.timestamp ∧
      (StatusRecord.shape.readText r.toValue.write).map StatusRecord.ofValue = .ok r) := by
  intro j u r
  have ht : Instant.parse (⟨1700000000, 250000000⟩ : Instant).render =
      .ok ⟨1700000000, 250000000⟩ := by
    rfl
  have hvars : (Value.obj j.vars).Faithful 127 :=
    .obj 127 _ (by decide) (List.pairwise_singleton _ _) fun e he => by
      rw [List.mem_singleton.1 he]
      exact .str _ _
  have hu : ∀ x ∈ u.timestamp, Instant.parse x.render = .ok x := by
    rintro x ⟨⟩
    exact ht
  obtain ⟨hjob, hupdate, hrecord⟩ := wire_formats_round_trip
  exact ⟨⟨by decide, hvars, (hjob j (by decide) hvars).1⟩, ⟨hu, (hupdate u hu).1⟩,
    ⟨by decide, ht, (hrecord r (by decide) ht).1⟩⟩

/-- Template variables nested to the reader's limit: a job whose one variable is 126 arrays deep
is written, but its text is refused. -/
theorem deep_variables_unreadable :
    ∃ e, Job.shape.readText
        ({ channel := .email, requestId := "r1", templateCode := "t",
           vars := [("x", Nat.repeat (fun v => Value.arr [v]) 126 .null)] } : Job).toValue.write =
        .error e ∧
      e.message = "recursion limit exceeded at line 1 column 255" := by
  have h : (match Job.shape.readText
      ({ channel := .email, requestId := "r1", templateCode := "t",
         vars := [("x", Nat.repeat (fun v => Value.arr [v]) 126 .null)] } : Job).toValue.write with
      | .error e => some e.message
      | .ok _ => none) = some "recursion limit exceeded at line 1 column 255" := by
    decide +kernel
  revert h
  generalize Job.shape.readText _ = res
  intro h
  cases res with
  | ok v => cases h
  | error e => exact ⟨e, rfl, Option.some.inj h⟩

end Courier
