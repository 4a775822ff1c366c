import Mathlib
import Courier.Proofs.LoggedWorld
import Courier.Proofs.Named

/-!
# The push fan-out

The push handler delivers a job to every device token of it that passes the shape check (20 to
200 bytes of ASCII letters, digits, `_`, `-`, `:` and `.`), in order and with repeats. Run against
a logged world (`World.ports`), `push_fan_out` says what it does for every job and every world:

* with no token left it fails as malformed before any call;
* otherwise it fetches the template once, and a failed fetch or render is its result, with no
  send;
* otherwise it hands the provider one message per token, all alike but for the token: the
  rendered subject and body, the template's image, the rendered link unless it is empty, the data
  (the template's metadata as text, the job's user id, the template code, each key once), high
  priority exactly for jobs above priority 5 and a day to live;
* it succeeds exactly when the world answered one of the sends with success; otherwise it fails
  with a delivery fault naming the number of tokens and the last failure, which is retried.

The world answers each send from the log so far (`World.sendAll`), so the sends may succeed or
fail in any pattern.
-/

namespace Courier.Worker

open Courier.Json Courier.Broker

/-! ### Device tokens -/

theorem isTokenChar_iff (c : Char) :
    isTokenChar c = true ↔
      ('0' ≤ c ∧ c ≤ '9') ∨ ('A' ≤ c ∧ c ≤ 'Z') ∨ ('a' ≤ c ∧ c ≤ 'z') ∨
        c = '_' ∨ c = '-' ∨ c = ':' ∨ c = '.' := by
  simp only [isTokenChar, Char.isAlphanum, Char.isAlpha, Char.isUpper, Char.isLower, Char.isDigit]
  simp only [Bool.or_eq_true, Bool.and_eq_true, decide_eq_true_eq, beq_iff_eq, Char.le_def,
    UInt32.le_iff_toNat_le, Char.toNat_val, ← Char.toNat_inj]
  simp
  omega

theorem validatePushToken_eq_ok_iff (token : String) :
    validatePushToken token = .ok () ↔
      20 ≤ token.utf8ByteSize ∧ token.utf8ByteSize ≤ 200 ∧
        ∀ c ∈ token.toList, isTokenChar c = true := by
  unfold validatePushToken
  by_cases hs : token.utf8ByteSize < 20
  · -- an empty token is too short as well
    have hshort : ¬ 20 ≤ token.utf8ByteSize := by omega
    split <;> simp [hshort]
  · have hempty : token.isEmpty = false := by
      simp only [String.isEmpty_eq_false_iff]
      rintro rfl
      exact hs (by decide)
    by_cases hl : 200 < token.utf8ByteSize
    · have hlong : ¬ token.utf8ByteSize ≤ 200 := by omega
      simp [hempty, hs, hl, hlong]
    · have hin : 20 ≤ token.utf8ByteSize ∧ token.utf8ByteSize ≤ 200 := by omega
      simp [hempty, hs, hl, hin]

/-! ### The data of a push message -/

/-- How a metadata value is written into the data of a push message: text as it is, any other
value as compact JSON. -/
def metadataText : Value → String
  | .str s => s
  | other => other.write

theorem lookup_putEntry (k v : String) (kvs : List (String × String)) (k' : String) :
    (putEntry k v kvs).lookup k' = if k' = k then some v else kvs.lookup k' := by
  unfold putEntry
  exact lookup_put k v kvs k'

theorem keys_putEntry_nodup (k v : String) {kvs : List (String × String)}
    (h : (kvs.map Prod.fst).Nodup) : ((putEntry k v kvs).map Prod.fst).Nodup := by
  unfold putEntry
  rw [List.map_append, List.nodup_append]
  refine ⟨(List.filter_sublist.map Prod.fst).nodup h, List.nodup_singleton k, ?_⟩
  intro a ha b hb
  simp only [List.map_cons, List.map_nil, List.mem_singleton] at hb
  obtain ⟨e, he, rfl⟩ := List.mem_map.1 ha
  rw [hb]
  simpa using (List.mem_filter.1 he).2

theorem lookup_foldl_putEntry (kvs : List (String × Value)) (acc : List (String × String))
    (k' : String) :
    (kvs.foldl (fun acc kv => putEntry kv.1 (metadataText kv.2) acc) acc).lookup k' =
      ((kvs.reverse.lookup k').map metadataText).or (acc.lookup k') := by
  induction kvs generalizing acc with
  | nil => simp
  | cons e es ih =>
    rw [List.foldl_cons, ih, lookup_putEntry, List.reverse_cons, List.lookup_append]
    obtain ⟨a, v⟩ := e
    by_cases hk : k' = a
    · subst hk
      cases es.reverse.lookup k' <;> simp
    · simp [lookup_cons_ite, hk]

theorem keys_foldl_putEntry_nodup (kvs : List (String × Value)) {acc : List (String × String)}
    (h : (acc.map Prod.fst).Nodup) :
    ((kvs.foldl (fun acc kv => putEntry kv.1 (metadataText kv.2) acc) acc).map Prod.fst).Nodup := by
  induction kvs generalizing acc with
  | nil => exact h
  | cons e es ih => exact ih (keys_putEntry_nodup _ _ h)

theorem pushData_eq (t : MessageTemplate) (job : Job) :
    pushData t job =
      putEntry "template_code" job.templateCode
        (match job.userId with
          | some u => putEntry "user_id" u
              ((t.metadata.getD []).foldl (fun acc kv => putEntry kv.1 (metadataText kv.2) acc) [])
          | none =>
              (t.metadata.getD []).foldl (fun acc kv => putEntry kv.1 (metadataText kv.2) acc) []) :=
  rfl

/-- The data of a push message, key by key: the template code under its key, the job's user id
when it has one, and otherwise the template's metadata as text, its last entry of a key winning. -/
theorem lookup_pushData (t : MessageTemplate) (job : Job) (k : String) :
    (pushData t job).lookup k =
      if k = "template_code" then some job.templateCode
      else if k = "user_id" then
        job.userId.or (((t.metadata.getD []).reverse.lookup k).map metadataText)
      else ((t.metadata.getD []).reverse.lookup k).map metadataText := by
  rw [pushData_eq, lookup_putEntry]
  by_cases ht : k = "template_code"
  · simp [ht]
  · simp only [ht, if_false]
    cases job.userId with
    | some u =>
      rw [lookup_putEntry, lookup_foldl_putEntry]
      by_cases hu : k = "user_id" <;> simp [hu]
    | none =>
      rw [lookup_foldl_putEntry]
      by_cases hu : k = "user_id" <;> simp [hu]

theorem keys_pushData_nodup (t : MessageTemplate) (job : Job) :
    ((pushData t job).map Prod.fst).Nodup := by
  rw [pushData_eq]
  apply keys_putEntry_nodup
  cases job.userId with
  | some u => exact keys_putEntry_nodup _ _ (keys_foldl_putEntry_nodup _ List.nodup_nil)
  | none => exact keys_foldl_putEntry_nodup _ List.nodup_nil

theorem pushMessage_link (t : MessageTemplate) (r : Rendered) (data : List (String × String))
    (priority : PushPriority) (token : String) :
    (pushMessage t r data priority token).link =
      if r.actionUrl = some "" then none else r.actionUrl := by
  simp only [pushMessage]
  cases r.actionUrl with
  | none => rfl
  | some u => by_cases hu : u = "" <;> simp [Option.filter, hu]

theorem PushPriority.ofJobPriority_eq_high_iff (p : Nat) :
    PushPriority.ofJobPriority p = .high ↔ 5 < p := by
  unfold PushPriority.ofJobPriority
  split <;> simp_all

/-! ### The verdict of a batch -/

theorem tally_fst_eq_zero_iff (rs : List (Outcome Unit)) : (tally rs).1 = 0 ↔ .ok () ∉ rs := by
  induction rs with
  | nil => simp [tally]
  | cons r rs ih =>
    cases r with
    | ok u => simp [tally]
    | error f => simp [tally, ih]

theorem tally_snd_cons_error (g : Fault) (rs : List (Outcome Unit)) :
    (tally (.error g :: rs)).2 = (tally rs).2.orElse fun _ => some g := rfl

theorem tally_snd_of_undelivered {rs : List (Outcome Unit)} {f : Fault} (hok : .ok () ∉ rs)
    (hlast : rs.getLast? = some (.error f)) : (tally rs).2 = some f := by
  induction rs with
  | nil => cases hlast
  | cons r rs ih =>
    cases rs with
    | nil =>
      simp only [List.getLast?_singleton, Option.some.injEq] at hlast
      rw [hlast, tally_snd_cons_error]
      rfl
    | cons r' rs' =>
      -- the failure kept from the rest is the last one, and an earlier failure does not replace it
      have hrest : (tally (r' :: rs')).2 = some f :=
        ih (fun h => hok (List.mem_cons_of_mem _ h)) (by simpa [List.getLast?_cons_cons] using hlast)
      cases r with
      | ok u => exact absurd (List.mem_cons_self ..) hok
      | error g =>
        rw [tally_snd_cons_error, hrest]
        rfl

theorem getLast?_of_undelivered {rs : List (Outcome Unit)} (hne : rs ≠ []) (hok : .ok () ∉ rs) :
    ∃ f, rs.getLast? = some (.error f) := by
  obtain ⟨x, hx⟩ := Option.ne_none_iff_exists'.1 (mt List.getLast?_eq_none_iff.1 hne)
  cases x with
  | ok u => exact absurd (List.mem_of_getLast? hx) hok
  | error f => exact ⟨f, hx⟩

theorem batchOutcome_of_undelivered {n : Nat} {rs : List (Outcome Unit)} {f : Fault}
    (hok : .ok () ∉ rs) (hlast : rs.getLast? = some (.error f)) :
    batchOutcome n rs =
      .error (.delivery ("all " ++ toString n ++ " device tokens failed, last error: " ++
        f.message)) := by
  have htally : tally rs = (0, some f) :=
    Prod.ext ((tally_fst_eq_zero_iff rs).2 hok) (tally_snd_of_undelivered hok hlast)
  unfold batchOutcome
  rw [htally]
  rfl

theorem batchOutcome_of_delivered {n : Nat} {rs : List (Outcome Unit)} (h : .ok () ∈ rs) :
    batchOutcome n rs = .ok () := by
  have hcount : (tally rs).1 ≠ 0 := fun h0 => (tally_fst_eq_zero_iff rs).1 h0 h
  unfold batchOutcome
  split
  · rename_i f heq
    rw [heq] at hcount
    exact absurd rfl hcount
  · rfl

theorem batchOutcome_eq_ok_iff {n : Nat} {rs : List (Outcome Unit)} (hne : rs ≠ []) :
    batchOutcome n rs = .ok () ↔ .ok () ∈ rs := by
  refine ⟨fun h => ?_, batchOutcome_of_delivered⟩
  by_cases hok : .ok () ∈ rs
  · exact hok
  obtain ⟨f, hlast⟩ := getLast?_of_undelivered hne hok
  rw [batchOutcome_of_undelivered hok hlast] at h
  cases h

/-! ### Against a logged world -/

/-- The answers of a world to messages handed to the provider one after another from `log`:
each is answered from the log with the sends before it. -/
def World.sendAll (w : World) : List PortCall → List Outbound → List (Outcome Unit)
  | _, [] => []
  | log, o :: os => w.deliver log o :: w.sendAll (log ++ [.deliver o]) os

theorem length_sendAll (w : World) (log : List PortCall) (os : List Outbound) :
    (w.sendAll log os).length = os.length := by
  induction os generalizing log with
  | nil => rfl
  | cons o os ih => simp [World.sendAll, ih]

section Run

variable (w : World) (l : List PortCall)

@[simp] theorem deliver_run (o : Outbound) :
    (w.ports.deliver o).run l = (w.deliver l o, l ++ [.deliver o]) := rfl

@[simp] theorem template_run (code : String) :
    (w.ports.template code).run l = (w.template l code, l ++ [.template code]) := rfl

theorem liftM_run {α : Type} (x : Logged α) :
    (liftM x : ExceptT Fault Logged α).run.run l = (.ok (x.run l).1, (x.run l).2) := rfl

theorem mapM_deliver_run {γ : Type} (f : γ → Outbound) (xs : List γ) (l : List PortCall) :
    (xs.mapM fun x => w.ports.deliver (f x)).run l =
      (w.sendAll l (xs.map f), l ++ xs.map fun x => .deliver (f x)) := by
  induction xs generalizing l with
  | nil =>
    simp [World.sendAll]
    rfl
  | cons x xs ih =>
    rw [List.mapM_cons, run_bind, run_bind]
    simp [ih, World.sendAll]
    rfl

end Run

/-! ### The stages of a push delivery -/

section Stages

variable {w : World} {job : Job} {l : List PortCall} {V : List String}
  (hV : job.pushTokens.filter (fun tok => (validatePushToken tok).toBool) = V)
include hV

theorem deliver_push_of_no_tokens (h : V = []) :
    (Handler.push.deliver w.ports job).run l = (.error (.malformed "No valid push tokens"), l) := by
  simp only [Handler.deliver, hV, h, List.isEmpty_nil, if_true, ExceptT.bind_throw]
  rfl

variable (hne : V ≠ [])
include hne

theorem deliver_push_of_fetch_failed {f : Fault} (ht : w.template l job.templateCode = .error f) :
    (Handler.push.deliver w.ports job).run l = (.error f, l ++ [.template job.templateCode]) := by
  have hnil : V.isEmpty = false := List.isEmpty_eq_false_iff.2 hne
  simp only [Handler.deliver, hV, hnil, Bool.false_eq_true, if_false]
  rw [ExceptT.run_bind, run_bind]
  simp only [ExceptT.stM_eq, ExceptT.run_mk, template_run, ht, StateT.run_pure]
  rfl

theorem deliver_push_of_render_failed {t : MessageTemplate}
    (ht : w.template l job.templateCode = .ok t) {f : Fault}
    (hr : t.render (.obj job.vars) = .error f) :
    (Handler.push.deliver w.ports job).run l = (.error f, l ++ [.template job.templateCode]) := by
  have hnil : V.isEmpty = false := List.isEmpty_eq_false_iff.2 hne
  simp only [Handler.deliver, hV, hnil, Bool.false_eq_true, if_false]
  rw [ExceptT.run_bind, run_bind]
  simp only [ExceptT.stM_eq, ExceptT.run_mk, template_run, ht, liftExcept, hr, ExceptT.bind_throw,
    ExceptT.run_throw, StateT.run_pure]
  rfl

/-- With the template fetched and rendered, one message per token is handed over, and the
answers decide the batch. -/
theorem deliver_push_of_rendered {t : MessageTemplate}
    (ht : w.template l job.templateCode = .ok t) {r : Rendered}
    (hr : t.render (.obj job.vars) = .ok r) :
    (Handler.push.deliver w.ports job).run l =
      (batchOutcome V.length (w.sendAll (l ++ [.template job.templateCode])
          (V.map fun tok => .push
            (pushMessage t r (pushData t job) (.ofJobPriority job.priority) tok))),
        l ++ .template job.templateCode :: V.map fun tok => .deliver (.push
          (pushMessage t r (pushData t job) (.ofJobPriority job.priority) tok))) := by
  have hnil : V.isEmpty = false := List.isEmpty_eq_false_iff.2 hne
  simp only [Handler.deliver, hV, hnil, Bool.false_eq_true, if_false]
  rw [ExceptT.run_bind, run_bind]
  simp only [ExceptT.stM_eq, ExceptT.run_mk, template_run, ht, liftExcept, hr, pure_bind]
  rw [ExceptT.run_bind, run_bind, liftM_run, mapM_deliver_run]
  simp only [List.append_assoc, List.singleton_append]
  generalize batchOutcome _ _ = b
  cases b <;> rfl

end Stages

/-! ### The fan-out -/

/-- What delivering a push job does against any world, from any log. `V` is the list of the job's
device tokens that pass the shape check, in order and with repeats.

1. A token passes the check exactly when it is 20 to 200 bytes long and each of its characters is
   an ASCII letter or digit, `_`, `-`, `:` or `.`.
2. With `V` empty the job is malformed, and nothing is called.
3. Otherwise the template is fetched once, and a failed fetch or render is the result, with no
   send.
4. Otherwise one message per token of `V` is handed to the provider, in order. Each has its token
   and the same title, body, image, link (the rendered action link, dropped when empty), data
   (each key once: the template code, the job's user id when it has one, and otherwise the
   template's metadata as text), priority (high exactly above 5) and time to live (a day). The
   delivery succeeds exactly when the world answered some send with success. Otherwise it fails
   with a delivery fault naming the number of tokens and the last failure, and that fault is
   retried. -/
theorem push_fan_out (w : World) (job : Job) (l : List PortCall) :
    let V := job.pushTokens.filter fun tok => (validatePushToken tok).toBool
    (∀ tok, validatePushToken tok = .ok () ↔
      20 ≤ tok.utf8ByteSize ∧ tok.utf8ByteSize ≤ 200 ∧
        ∀ c ∈ tok.toList, ('0' ≤ c ∧ c ≤ '9') ∨ ('A' ≤ c ∧ c ≤ 'Z') ∨ ('a' ≤ c ∧ c ≤ 'z') ∨
          c = '_' ∨ c = '-' ∨ c = ':' ∨ c = '.') ∧
    (V = [] →
      (Handler.push.deliver w.ports job).run l = (.error (.malformed "No valid push tokens"), l)) ∧
    (V ≠ [] → ∀ f, (w.template l job.templateCode = .error f ∨
        ∃ t, w.template l job.templateCode = .ok t ∧ t.render (.obj job.vars) = .error f) →
      (Handler.push.deliver w.ports job).run l = (.error f, l ++ [.template job.templateCode])) ∧
    (V ≠ [] → ∀ t r, w.template l job.templateCode = .ok t → t.render (.obj job.vars) = .ok r →
      let message := fun tok => pushMessage t r (pushData t job) (.ofJobPriority job.priority) tok
      let answers :=
        w.sendAll (l ++ [.template job.templateCode]) (V.map fun tok => .push (message tok))
      ((Handler.push.deliver w.ports job).run l).2 =
          l ++ .template job.templateCode :: V.map (fun tok => .deliver (.push (message tok))) ∧
      (∀ tok, (message tok).token = tok ∧ (message tok).title = r.subject ∧
        (message tok).body = r.body ∧ (message tok).image = t.imageUrl ∧
        (message tok).link = (if r.actionUrl = some "" then none else r.actionUrl) ∧
        ((message tok).priority = .high ↔ 5 < job.priority) ∧ (message tok).ttlSeconds = 86400 ∧
        ((message tok).data.map Prod.fst).Nodup ∧
        ∀ k, (message tok).data.lookup k =
          if k = "template_code" then some job.templateCode
          else if k = "user_id" then
            job.userId.or (((t.metadata.getD []).reverse.lookup k).map metadataText)
          else ((t.metadata.getD []).reverse.lookup k).map metadataText) ∧
      (((Handler.push.deliver w.ports job).run l).1 = .ok () ↔ .ok () ∈ answers) ∧
      (.ok () ∉ answers → ∃ f, answers.getLast? = some (.error f) ∧
        ((Handler.push.deliver w.ports job).run l).1 =
          .error (.delivery ("all " ++ toString V.length ++
            " device tokens failed, last error: " ++ f.message)) ∧
        ∀ deps, classify (.delivery ("all " ++ toString V.length ++
            " device tokens failed, last error: " ++ f.message)) deps = .retry)) := by
  intro V
  refine ⟨fun tok => ?_, deliver_push_of_no_tokens rfl, fun hne f hf => ?_,
    fun hne t r ht hr => ?_⟩
  · rw [validatePushToken_eq_ok_iff]
    simp only [isTokenChar_iff]
  · rcases hf with hf | ⟨t, ht, hr⟩
    · exact deliver_push_of_fetch_failed rfl hne hf
    · exact deliver_push_of_render_failed rfl hne ht hr
  · intro message answers
    have hrun := deliver_push_of_rendered (w := w) (l := l) rfl hne ht hr
    have hans : answers ≠ [] := by
      rw [← List.length_pos_iff, length_sendAll, List.length_map]
      exact List.length_pos_iff.2 hne
    refine ⟨by rw [hrun], fun tok => ⟨rfl, rfl, rfl, rfl, pushMessage_link .., ?_, rfl,
      keys_pushData_nodup t job, lookup_pushData t job⟩, ?_, fun hok => ?_⟩
    · exact PushPriority.ofJobPriority_eq_high_iff _
    · rw [hrun]
      exact batchOutcome_eq_ok_iff hans
    · obtain ⟨f, hlast⟩ := getLast?_of_undelivered hans hok
      refine ⟨f, hlast, ?_, fun deps => rfl⟩
      rw [hrun]
      exact batchOutcome_of_undelivered hok hlast

/-- A job with one well-formed device token and one too short, against a provider that fails
every send: the batch fails, naming one token and the provider's failure. -/
theorem dead_provider_fails_batch :
    (["device-token-0123456789", "short"].filter fun tok => (validatePushToken tok).toBool) =
        ["device-token-0123456789"] ∧
      ((Handler.push.deliver
          (World.ports
            { template := fun _ _ => .ok {}
              deliver := fun _ _ => .error (.internal "provider down")
              publish := fun _ _ _ _ => .ok ()
              report := fun _ _ _ => .ok ()
              settle := fun _ _ => .ok () })
          { channel := .push, requestId := "r-1", templateCode := "welcome",
            pushTokens := ["device-token-0123456789", "short"] }).run []).1 =
        .error (.delivery "all 1 device tokens failed, last error: internal error: provider down") := by
  have hV : (["device-token-0123456789", "short"].filter fun tok => (validatePushToken tok).toBool) =
      ["device-token-0123456789"] := by decide
  obtain ⟨r, hr⟩ : ∃ r, ({} : MessageTemplate).render (.obj []) = .ok r := by
    have hok : (({} : MessageTemplate).render (.obj [])).toBool = true := by decide +kernel
    cases h : ({} : MessageTemplate).render (.obj []) with
    | ok r => exact ⟨r, rfl⟩
    | error e =>
      rw [h] at hok
      cases hok
  obtain ⟨-, -, -, hsent⟩ := push_fan_out
    { template := fun _ _ => .ok {}
      deliver := fun _ _ => .error (.internal "provider down")
      publish := fun _ _ _ _ => .ok ()
      report := fun _ _ _ => .ok ()
      settle := fun _ _ => .ok () }
    { channel := .push, requestId := "r-1", templateCode := "welcome",
      pushTokens := ["device-token-0123456789", "short"] } []
  obtain ⟨-, -, -, hfailed⟩ := hsent (by rw [hV]; simp) {} r rfl hr
  obtain ⟨f, hlast, hres, -⟩ := hfailed (by simp [hV, World.sendAll])
  simp [hV, World.sendAll] at hlast
  refine ⟨hV, ?_⟩
  rw [hres, hV, ← hlast]
  rfl

end Courier.Worker
