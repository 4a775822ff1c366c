import Mathlib
import Courier.Service.Clients
import Courier.Proofs.Named

/-!
# Concurrent user lookups and the cache

`Clients.getUser` looks in the cache and, on a miss, sends a request to the user service and
keeps the user of its answer. Between the request and the answer other calls run: lookups of the
same user, and invalidations, which drop the cached copy of a user after it changed elsewhere.
`Lookups` is a user client shared by concurrent calls, with those as separate steps
(`LookupStep`): a call asks (and is served from the cache, or its request goes out), the user
service answers a call's request, or the copy of a user is dropped. Each step shows what
happened (`LookupEvent`).

* A call with no other step between its ask and its answer is `getUser`
  (`getUser_eq_ask_answer`).
* A failed lookup leaves the cache as it was, and every cached copy of a user is one the user
  service gave in an answer since the copy was last dropped (`run_fresh`).
* So after an invalidation of `u`, a call served `u` from the cache gets a user that the user
  service gave after the invalidation, to a request sent after it or still waiting when it ran
  (`lookups_after_invalidate`). The second case is real: a call that starts after the
  invalidation can be served the copy that the invalidation was meant to drop, fetched by a
  request sent before it (`stale_user_served`).
-/

namespace Courier.Service

open Courier.Json Courier.Net

/-- A step of a user client shared by concurrent calls. -/
inductive LookupStep where
  /-- call `call` asks at `now` for the user `user` -/
  | ask (now call : Nat) (user : String)
  /-- the answer of the user service to the request of call `call` arrives at `now` -/
  | answer (now call : Nat) (result : Outcome Value)
  /-- the cached copy of `user` is dropped -/
  | invalidate (user : String)

/-- What a step shows. -/
inductive LookupEvent where
  /-- call `call` is served `u` from the cache -/
  | served (call : Nat) (user : String) (u : User)
  /-- the request of call `call` goes out -/
  | sent (call : Nat) (user : String)
  /-- no request could be made for call `call` -/
  | refused (call : Nat) (user : String) (f : Fault)
  /-- the answer to call `call` is read -/
  | answered (call : Nat) (user : String) (result : Outcome User)

/-- A user client shared by concurrent calls: its cache, and the calls waiting for the user
service, each with the user it asked for. -/
structure Lookups where
  cache : UserCache
  waiting : List (Nat × String) := []

namespace Lookups

variable (service : String)

/-- One step of the client, with what it shows. -/
def step : LookupStep → Lookups → Lookups × List LookupEvent
  | .ask now k u, s =>
    match s.cache.get? u now with
    | some x => (s, [.served k u x])
    | none =>
      match userRequest u with
      | .error f => (s, [.refused k u f])
      | .ok _ => ({ s with waiting := (k, u) :: s.waiting }, [.sent k u])
  | .answer now k r, s =>
    match s.waiting.lookup k with
    | none => (s, [])
    | some u =>
      let result := readUser service r
      ({ cache := s.cache.keep u now result, waiting := s.waiting.filter (·.1 != k) },
        [.answered k u result])
  | .invalidate u, s => ({ s with cache := s.cache.invalidate u }, [])

/-- A run of steps: the client after them, and what they showed, in order. -/
def run : List LookupStep → Lookups → Lookups × List LookupEvent
  | [], s => (s, [])
  | e :: es, s =>
    let (s₁, l₁) := s.step service e
    let (s₂, l₂) := s₁.run es
    (s₂, l₁ ++ l₂)

variable {service}

theorem run_cons (e : LookupStep) (es : List LookupStep) (s : Lookups) :
    s.run service (e :: es) =
      (((s.step service e).1.run service es).1,
        (s.step service e).2 ++ ((s.step service e).1.run service es).2) := rfl

end Lookups

/-! ### The cache -/

namespace UserCache

variable {c : UserCache} {u v : String} {x : User} {t now : Nat}

theorem mem_of_get? (h : c.get? u now = some x) : ∃ t, (u, x, t) ∈ c.entries := by
  unfold get? at h
  split at h
  · rename_i id y t' hfind
    have hmem := List.mem_of_find?_eq_some hfind
    have hid : id = u := by simpa using List.find?_some hfind
    split at h
    · cases h
      exact ⟨t', hid ▸ hmem⟩
    · cases h
  · cases h

theorem mem_invalidate {e : String × User × Nat} (h : e ∈ (c.invalidate v).entries) :
    e ∈ c.entries ∧ e.1 ≠ v := by
  simpa [invalidate] using h

@[simp] theorem keep_error (f : Fault) : c.keep u now (.error f) = c := rfl

theorem mem_keep {r : Outcome User} {e : String × User × Nat} (h : e ∈ (c.keep u now r).entries) :
    e ∈ c.entries ∨ (e.1 = u ∧ r = .ok e.2.1) := by
  cases r with
  | error f => exact .inl h
  | ok y =>
    simp only [keep, insert, List.mem_cons, List.mem_filter] at h
    rcases h with rfl | ⟨h, -⟩
    · exact .inr ⟨rfl, rfl⟩
    · exact .inl h

end UserCache

/-! ### The invariants -/

/-- Every cached copy of `u` is a user that the user service gave in an answer shown in `log`. -/
def CacheAnswered (u : String) (s : Lookups) (log : List LookupEvent) : Prop :=
  ∀ x t, (u, x, t) ∈ s.cache.entries → ∃ k, .answered k u (.ok x) ∈ log

/-- Every call of `log` served `u` from the cache got a user that an answer shown before gave. -/
def ServedAnswered (u : String) (log : List LookupEvent) : Prop :=
  ∀ l₁ k x l₂, log = l₁ ++ .served k u x :: l₂ → ∃ k', .answered k' u (.ok x) ∈ l₁

/-- Every call waiting in `s` was waiting in `s₀` already, or its request went out in `log`. -/
def WaitingSent (s₀ s : Lookups) (log : List LookupEvent) : Prop :=
  ∀ p ∈ s.waiting, p ∈ s₀.waiting ∨ .sent p.1 p.2 ∈ log

variable {service : String} {u : String} {s₀ s : Lookups} {log : List LookupEvent}

theorem CacheAnswered.append (h : CacheAnswered u s log) (l : List LookupEvent) :
    CacheAnswered u s (log ++ l) := fun x t hx =>
  let ⟨k, hk⟩ := h x t hx
  ⟨k, List.mem_append_left _ hk⟩

theorem WaitingSent.append (h : WaitingSent s₀ s log) (l : List LookupEvent) :
    WaitingSent s₀ s (log ++ l) := fun p hp =>
  (h p hp).imp_right (List.mem_append_left _)

theorem ServedAnswered.append (h : ServedAnswered u log) {ev : List LookupEvent}
    (hev : ∀ k x, .served k u x ∈ ev → ∃ k', .answered k' u (.ok x) ∈ log) :
    ServedAnswered u (log ++ ev) := by
  intro l₁ k x l₂ heq
  rcases List.append_eq_append_iff.1 heq with ⟨a, rfl, hev'⟩ | ⟨c, hlog, hc⟩
  · -- the served event is one of the new ones, so `log` already shows its answer
    obtain ⟨k', hk'⟩ := hev k x (by rw [hev']; simp)
    exact ⟨k', List.mem_append_left _ hk'⟩
  · cases c with
    | nil =>
      obtain ⟨k', hk'⟩ := hev k x (by simp at hc; rw [← hc]; simp)
      rw [hlog, List.append_nil] at hk'
      exact ⟨k', hk'⟩
    | cons a c =>
      obtain ⟨rfl, -⟩ := List.cons_eq_cons.1 hc
      exact h l₁ k x c hlog

/-! ### One step -/

theorem CacheAnswered.step (h : CacheAnswered u s log) (e : LookupStep) :
    CacheAnswered u (s.step service e).1 (log ++ (s.step service e).2) := by
  cases e with
  | ask now k v =>
    simp only [Lookups.step]
    split
    · exact h.append _
    · split
      · exact h.append _
      · exact h.append _
  | answer now k r =>
    simp only [Lookups.step]
    split
    · exact h.append _
    · rename_i v _
      intro x t hx
      rcases UserCache.mem_keep hx with hold | ⟨rfl, hres⟩
      · exact (h.append _) x t hold
      · exact ⟨k, by rw [← hres]; simp⟩
  | invalidate v =>
    intro x t hx
    exact (h.append _) x t (UserCache.mem_invalidate hx).1

theorem ServedAnswered.step (h : ServedAnswered u log) (hc : CacheAnswered u s log)
    (e : LookupStep) : ServedAnswered u (log ++ (s.step service e).2) := by
  apply h.append
  intro k x hx
  cases e with
  | ask now k' v =>
    simp only [Lookups.step] at hx
    split at hx
    · -- served from the cache: the copy was answered before
      rename_i y hget
      simp only [List.mem_singleton, LookupEvent.served.injEq] at hx
      obtain ⟨rfl, rfl, rfl⟩ := hx
      obtain ⟨t, ht⟩ := UserCache.mem_of_get? hget
      exact hc x t ht
    · split at hx <;> simp at hx
  | answer now k' r =>
    simp only [Lookups.step] at hx
    split at hx <;> simp at hx
  | invalidate v => simp [Lookups.step] at hx

theorem WaitingSent.step (h : WaitingSent s₀ s log) (e : LookupStep) :
    WaitingSent s₀ (s.step service e).1 (log ++ (s.step service e).2) := by
  cases e with
  | ask now k v =>
    simp only [Lookups.step]
    split
    · exact h.append _
    · split
      · exact h.append _
      · intro p hp
        rcases List.mem_cons.1 hp with rfl | hp
        · exact .inr (by simp)
        · exact (h.append _) p hp
  | answer now k r =>
    simp only [Lookups.step]
    split
    · exact h.append _
    · intro p hp
      exact (h.append _) p (List.mem_filter.1 hp).1
  | invalidate v => exact h.append _

theorem answered_waiting {e : LookupStep} {k : Nat} {v : String} {r : Outcome User}
    (h : .answered k v r ∈ (s.step service e).2) : (k, v) ∈ s.waiting := by
  cases e with
  | ask now k' w =>
    simp only [Lookups.step] at h
    split at h
    · simp at h
    · split at h <;> simp at h
  | answer now k' r' =>
    simp only [Lookups.step] at h
    split at h
    · simp at h
    · rename_i w hw
      simp only [List.mem_singleton, LookupEvent.answered.injEq] at h
      obtain ⟨rfl, rfl, -⟩ := h
      exact mem_of_lookup_eq_some hw
  | invalidate w => simp [Lookups.step] at h

/-! ### Runs -/

/-- Along any run, every cached copy of `u` and every call served `u` from the cache comes from an
answer shown in the run, and every call waiting was waiting at the start or sent its request in
the run. -/
theorem run_fresh (es : List LookupStep) :
    ∀ s log, CacheAnswered u s log → ServedAnswered u log → WaitingSent s₀ s log →
      CacheAnswered u (s.run service es).1 (log ++ (s.run service es).2) ∧
        ServedAnswered u (log ++ (s.run service es).2) ∧
        WaitingSent s₀ (s.run service es).1 (log ++ (s.run service es).2) := by
  induction es with
  | nil => intro s log hc hs hw; simpa [Lookups.run] using ⟨hc, hs, hw⟩
  | cons e es ih =>
    intro s log hc hs hw
    obtain ⟨hc', hs', hw'⟩ := ih (s.step service e).1 (log ++ (s.step service e).2)
      (hc.step e) (hs.step hc e) (hw.step e)
    rw [Lookups.run_cons, ← List.append_assoc]
    exact ⟨hc', hs', hw'⟩

theorem run_answered (es : List LookupStep) :
    ∀ s log, WaitingSent s₀ s log → ∀ k v r, .answered k v r ∈ (s.run service es).2 →
      (k, v) ∈ s₀.waiting ∨ .sent k v ∈ log ++ (s.run service es).2 := by
  induction es with
  | nil => intro s log _ k v r h; simp [Lookups.run] at h
  | cons e es ih =>
    intro s log hw k v r h
    rw [Lookups.run_cons, List.mem_append] at h
    rw [Lookups.run_cons, ← List.append_assoc]
    rcases h with h | h
    · rcases hw (k, v) (answered_waiting h) with h0 | hsent
      · exact .inl h0
      · exact .inr (List.mem_append_left _ (List.mem_append_left _ hsent))
    · exact ih _ _ (hw.step e) k v r h

/-- What follows an invalidation of `u`, whatever steps come after it: a call served `u` from the
cache gets a user that an answer of the user service gave after the invalidation, shown before the
call was served; every copy of `u` still cached is such a user; every answer after the invalidation
is to a request that was waiting when it ran or that went out after it; and a failed lookup leaves
the cache as it was. -/
theorem lookups_after_invalidate (service : String) (s : Lookups) (u : String)
    (post : List LookupStep) :
    let after := (s.step service (.invalidate u)).1
    let log := (after.run service post).2
    ServedAnswered u log ∧ CacheAnswered u (after.run service post).1 log ∧
      (∀ k v r, .answered k v r ∈ log → (k, v) ∈ s.waiting ∨ .sent k v ∈ log) ∧
      ∀ (t : Lookups) now k r f, readUser service r = .error f →
        (t.step service (.answer now k r)).1.cache = t.cache := by
  intro after log
  have hc : CacheAnswered u after [] := fun x t hx =>
    absurd rfl (UserCache.mem_invalidate (c := s.cache) hx).2
  have hs : ServedAnswered u [] := by
    intro l₁ k x l₂ h
    simp at h
  have hw : WaitingSent after after [] := fun p hp => .inl hp
  obtain ⟨hc', hs', -⟩ := run_fresh post after [] hc hs hw
  refine ⟨by simpa using hs', by simpa using hc', ?_, ?_⟩
  · intro k v r h
    have hans := run_answered post after [] hw k v r h
    simpa [after, log, Lookups.step] using hans
  · intro t now k r f hf
    simp only [Lookups.step]
    split
    · rfl
    · simp [hf]

/-! ### The sequential lookup -/

/-- A call with no other step between its ask and its answer is `getUser`: on a miss whose
request can be made, the ask sends the request, and the answer step, given what the caller got
from the user service, shows the result of `getUser` and leaves the cache that `getUser` leaves. -/
theorem getUser_eq_ask_answer (net : Network) (c : Clients) (now k : Nat) (id : String)
    (req : ServiceRequest) (hmiss : c.users.get? id now = none) (hreq : userRequest id = .ok req) :
    let lookups := ({ cache := c.users } : Lookups).run c.userService
      [.ask now k id, .answer now k (c.call net now c.userService req).1]
    lookups.2 = [.sent k id, .answered k id (c.getUser net now id).1] ∧
      lookups.1.cache = (c.getUser net now id).2.users := by
  intro lookups
  have hcall : (c.call net now c.userService req).2.userService = c.userService := rfl
  simp only [lookups, Lookups.run, Lookups.step, Clients.getUser, hmiss, hreq, List.lookup,
    beq_self_eq_true, hcall, List.singleton_append, List.append_nil]
  exact ⟨trivial, rfl⟩

theorem getUser_of_cached (net : Network) (c : Clients) (now k : Nat) (id : String) (x : User)
    (hhit : c.users.get? id now = some x) :
    c.getUser net now id = (.ok x, c) ∧
      ({ cache := c.users } : Lookups).step c.userService (.ask now k id) =
        ({ cache := c.users }, [.served k id x]) := by
  simp [Clients.getUser, Lookups.step, hhit]

/-- The failing interleaving: call 1 misses the cache and sends its request; the copy of `u1` is
dropped; the answer to call 1, the user as it was before, arrives and is kept; call 2, which starts
after the invalidation, is served that copy, though no request went out after the invalidation. -/
theorem stale_user_served :
    let old : User := { id := "u1", email := some "old@example.com" }
    let body : Value := .obj [("data", .obj [("email", .str "old@example.com"), ("id", .str "u1")])]
    let before := ({ cache := { ttl := 3600000000000 } } : Lookups).run "user-service" [.ask 0 1 "u1"]
    let after := before.1.run "user-service"
      [.invalidate "u1", .answer 2 1 (.ok body), .ask 3 2 "u1"]
    before.2 = [.sent 1 "u1"] ∧ after.2 = [.answered 1 "u1" (.ok old), .served 2 "u1" old] := by
  intro old body before after
  have hmiss : ({ ttl := 3600000000000 } : UserCache).get? "u1" 0 = none := by decide
  have hok : (userRequest "u1").toBool = true := by decide +kernel
  obtain ⟨req, hreq⟩ : ∃ req, userRequest "u1" = .ok req := by
    cases h : userRequest "u1" with
    | ok req => exact ⟨req, rfl⟩
    | error f =>
      rw [h] at hok
      cases hok
  have hread : readUser "user-service" (.ok body) = .ok old := rfl
  have hhit : ({ ttl := 3600000000000, entries := [("u1", old, 2)] } : UserCache).get? "u1" 3 =
      some old := by decide
  refine ⟨?_, ?_⟩
  · simp [before, Lookups.run, Lookups.step, hmiss, hreq]
  · simp [after, before, Lookups.run, Lookups.step, hmiss, hreq, hread, UserCache.keep,
      UserCache.insert, UserCache.invalidate, hhit]

end Courier.Service
