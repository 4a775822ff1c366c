import Mathlib
import Courier.Proofs.Settlement
import Courier.Proofs.GatewayScript

/-!
# The queues of both channels on one exchange

Both channels declare their queues on the same exchange, each with `Topology.new`, with or
without a backoff (`Topology.Declared`). Every name is the channel's name followed by a suffix:
nothing for the channel's routing key, `.queue` for the main queue, `.wait` or `.wait.<hop>` for
the wait queues, `.failed` for the failed queue and its routing key. Since neither channel's name
starts the other's, names of different channels never meet (`Channel.name_append_inj`), and the
suffixes of one channel are all different.

* The routing keys bound on the exchange are all different and free of topic wildcards, and every
  declared queue is bound exactly once.
* The wait queue of every attempt is declared, bound under its own name, and waits exactly the
  delay meant for that attempt, cut to the largest signed 64-bit value.
* Wait queues send expired messages back to the channel's routing key, which only the main queue
  is bound to; the main queue dead-letters to the failed routing key, which only the failed queue
  is bound to.
* A consumer publishes only to the wait queue of the next attempt and the gateway only under the
  routing key of the request's channel; neither is a failed routing key, so a message reaches a
  failed queue only as a dead letter of a main queue (`topology_consistent`).
-/

namespace Courier

theorem Channel.name_append_inj {c₁ c₂ : Channel} {s₁ s₂ : String} :
    c₁.name ++ s₁ = c₂.name ++ s₂ ↔ c₁ = c₂ ∧ s₁ = s₂ := by
  cases c₁ <;> cases c₂ <;>
    simp [Channel.name, ← String.toList_inj, String.toList_append]

theorem isDigit_of_mem_toString {n : Nat} {ch : Char} (h : ch ∈ (toString n).toList) :
    ch.isDigit = true :=
  Nat.isDigit_of_mem_toDigits (b := 10) (by decide) (by decide)
    (by simpa [Nat.toString_eq_repr, Nat.toList_repr] using h)

namespace Broker.Topology

variable {ex : String} {c : Channel} {t : Topology}

/-- The topologies a channel is declared with on an exchange: `new`, with or without a
backoff. -/
inductive Declared (exchange : String) (c : Channel) : Topology → Prop
  | plain (retryDelayMs : Nat) : Declared exchange c (new exchange c retryDelayMs)
  | backoff (retryDelayMs multiplier maxRetries : Nat) :
      Declared exchange c ((new exchange c retryDelayMs).withBackoff multiplier maxRetries)

theorem Declared.exchange_eq (h : Declared ex c t) : t.exchange = ex := by
  cases h <;> rfl

theorem Declared.routingKey_eq (h : Declared ex c t) : t.routingKey = c.name := by
  cases h <;> rfl

theorem Declared.one_le_maxRetries (h : Declared ex c t) : 1 ≤ t.maxRetries := by
  cases h with
  | plain => exact Nat.le_refl 1
  | backoff _ _ n => exact Nat.le_max_right n 1

/-! ### Names as suffixes of the channel's name -/

/-- The wait queues' names past the channel's name: one per hop, or a single one. -/
def waitSuffixes (t : Topology) : List String :=
  if t.perHop then (List.range t.maxRetries).map fun i => ".wait." ++ toString (i + 1)
  else [".wait"]

theorem hop_of_le {a : Nat} (h1 : 1 ≤ a) (h2 : a ≤ t.maxRetries) : t.hop a = a := by
  simp only [hop]
  omega

theorem hop_hop (a : Nat) : t.hop (t.hop a) = t.hop a := by
  simp only [hop]
  omega

theorem waitQueues_names :
    t.waitQueues.map Prod.snd = t.waitSuffixes.map (t.routingKey ++ ·) := by
  unfold waitQueues waitSuffixes waitQueue
  split
  · simp only [List.map_map]
    refine List.map_congr_left fun i hi => ?_
    rw [List.mem_range] at hi
    simp [hop_of_le (t := t) (Nat.succ_pos i) hi, String.append_assoc]
  · simp

theorem mem_waitSuffixes {s : String} (hs : s ∈ t.waitSuffixes) :
    s = ".wait" ∨ ∃ n : Nat, s = ".wait." ++ toString n := by
  unfold waitSuffixes at hs
  split at hs
  · obtain ⟨i, -, rfl⟩ := List.mem_map.1 hs
    exact .inr ⟨i + 1, rfl⟩
  · exact .inl (List.mem_singleton.1 hs)

theorem waitSuffixes_nodup : t.waitSuffixes.Nodup := by
  unfold waitSuffixes
  split
  · refine List.nodup_range.map fun i j h => ?_
    -- hops are told apart by their numerals
    have hij : toString (i + 1) = toString (j + 1) := (String.append_right_inj _).1 h
    have := Nat.repr_injective hij
    omega
  · exact List.nodup_singleton _

theorem waitSuffix_ne {s : String} (hs : s ∈ t.waitSuffixes) :
    s ≠ "" ∧ s ≠ ".failed" ∧ s ≠ ".queue" := by
  rcases mem_waitSuffixes hs with rfl | ⟨n, rfl⟩
  · simp [← String.toList_inj]
  · simp [← String.toList_inj, String.toList_append]

theorem waitSuffix_plain {s : String} (hs : s ∈ t.waitSuffixes) :
    '*' ∉ s.toList ∧ '#' ∉ s.toList := by
  rcases mem_waitSuffixes hs with rfl | ⟨n, rfl⟩
  · simp
  · -- past `.wait.` come the digits of the hop
    constructor <;> intro h <;> rw [String.toList_append, List.mem_append] at h <;>
      rcases h with h | h
    · simp at h
    · simpa using isDigit_of_mem_toString h
    · simp at h
    · simpa using isDigit_of_mem_toString h

theorem suffixes_nodup {first : String} (hw : ∀ s ∈ t.waitSuffixes, s ≠ first)
    (hf : first ≠ ".failed") : (first :: t.waitSuffixes ++ [".failed"]).Nodup := by
  rw [List.cons_append, List.nodup_cons, List.nodup_append]
  refine ⟨?_, waitSuffixes_nodup, List.nodup_singleton _, ?_⟩
  · simp only [List.mem_append, List.mem_singleton, not_or]
    exact ⟨fun h => hw first h rfl, hf⟩
  · intro a ha b hb
    rw [List.mem_singleton] at hb
    subst hb
    exact (waitSuffix_ne ha).2.1

/-! ### The names a topology binds and declares -/

theorem bindings_keys :
    t.bindings.map Prod.snd = ("" :: t.waitSuffixes ++ [".failed"]).map (t.routingKey ++ ·) := by
  simp [bindings, ← waitQueues_names, failedRoutingKey, Function.comp_def]

theorem bindings_queues :
    t.bindings.map Prod.fst = (".queue" :: t.waitSuffixes ++ [".failed"]).map (t.routingKey ++ ·) := by
  simp [bindings, ← waitQueues_names, failedQueue, mainQueue, Function.comp_def]

theorem declarations_queues : t.declarations.map Prod.fst = t.bindings.map Prod.fst := by
  simp [declarations, bindings, Function.comp_def]

/-- A binding of a topology: the main queue under the routing key, a wait queue under its own
name, or the failed queue under the failed routing key. -/
theorem mem_bindings {q k : String} (h : (q, k) ∈ t.bindings) :
    (q = t.mainQueue ∧ k = t.routingKey ++ "") ∨
    (∃ s ∈ t.waitSuffixes, q = t.routingKey ++ s ∧ k = t.routingKey ++ s) ∨
    (q = t.failedQueue ∧ k = t.routingKey ++ ".failed") := by
  simp only [bindings, List.mem_append, List.mem_singleton, List.mem_map, Prod.mk.injEq] at h
  rcases h with (⟨rfl, rfl⟩ | ⟨⟨hop, q'⟩, hm, rfl, rfl⟩) | ⟨rfl, rfl⟩
  · exact .inl ⟨rfl, by simp⟩
  · have : q' ∈ t.waitQueues.map Prod.snd := List.mem_map.2 ⟨_, hm, rfl⟩
    rw [waitQueues_names] at this
    obtain ⟨s, hs, rfl⟩ := List.mem_map.1 this
    exact .inr (.inl ⟨s, hs, rfl, rfl⟩)
  · exact .inr (.inr ⟨rfl, rfl⟩)

/-! ### The wait queue of each attempt -/

theorem waitRoutingKey_listed (h : 1 ≤ t.maxRetries) (a : Nat) :
    ∃ hop, (hop, t.waitRoutingKey a) ∈ t.waitQueues ∧ t.waitDelayMs hop = t.waitDelayMs a := by
  by_cases hp : t.perHop = true
  · -- one queue per hop: the attempt's hop, kept between 1 and the number of retries
    have hh : t.hop a - 1 + 1 = t.hop a := by
      simp only [hop]
      omega
    refine ⟨t.hop a, ?_, by simp [waitDelayMs, hp, hop_hop]⟩
    simp only [waitQueues, hp, ↓reduceIte, List.mem_map, List.mem_range]
    refine ⟨t.hop a - 1, by simp only [hop]; omega, ?_⟩
    rw [hh, waitRoutingKey, waitQueue, waitQueue, hop_hop]
  · refine ⟨1, ?_, by simp [waitDelayMs, hp]⟩
    simp [waitQueues, hp, waitRoutingKey, waitQueue]

theorem waitQueueArguments_lookup (hop : Nat) :
    (t.waitQueueArguments hop).lookup "x-message-ttl" =
      some (.longLongInt (min (t.waitDelayMs hop) int64Max.toNat)) ∧
    (t.waitQueueArguments hop).lookup "x-dead-letter-exchange" = some (.longString t.exchange) ∧
    (t.waitQueueArguments hop).lookup "x-dead-letter-routing-key" =
      some (.longString t.routingKey) :=
  ⟨rfl, rfl, rfl⟩

theorem mainQueueArguments_lookup :
    t.mainQueueArguments.lookup "x-dead-letter-exchange" = some (.longString t.exchange) ∧
    t.mainQueueArguments.lookup "x-dead-letter-routing-key" =
      some (.longString t.failedRoutingKey) :=
  ⟨rfl, rfl⟩

theorem mem_bindings_of_waitQueues {hop : Nat} {q : String} (h : (hop, q) ∈ t.waitQueues) :
    (q, q) ∈ t.bindings := by
  simp only [bindings, List.mem_append, List.mem_map]
  exact .inl (.inr ⟨(hop, q), h, rfl⟩)

theorem mem_declarations_of_waitQueues {hop : Nat} {q : String} (h : (hop, q) ∈ t.waitQueues) :
    (q, t.waitQueueArguments hop) ∈ t.declarations := by
  simp only [declarations, List.mem_append, List.mem_map]
  exact .inl (.inr ⟨(hop, q), h, rfl⟩)

/-- A declared queue: the main queue with its arguments, a wait queue with its hop's, or the
failed queue with none. -/
theorem mem_declarations {q : String} {args : FieldTable} (h : (q, args) ∈ t.declarations) :
    (q = t.mainQueue ∧ args = t.mainQueueArguments) ∨ (∃ hop, args = t.waitQueueArguments hop) ∨
      args = [] := by
  simp only [declarations, List.mem_append, List.mem_singleton, List.mem_map, Prod.mk.injEq] at h
  rcases h with (⟨rfl, rfl⟩ | ⟨⟨hop, q'⟩, -, -, rfl⟩) | ⟨-, rfl⟩
  · exact .inl ⟨rfl, rfl⟩
  · exact .inr (.inl ⟨hop, rfl⟩)
  · exact .inr (.inr rfl)

/-! ### Where routing keys lead -/

theorem bound_queue (h : Declared ex c t) {q k s : String} (hq : (q, k) ∈ t.bindings)
    (hk : k = c.name ++ s) : (s = "" → q = t.mainQueue) ∧ (s = ".failed" → q = t.failedQueue) := by
  have suffix : ∀ {x : String}, k = t.routingKey ++ x → s = x := by
    intro x hx
    rw [h.routingKey_eq, hk] at hx
    exact (String.append_right_inj _).1 hx
  rcases mem_bindings hq with ⟨rfl, hx⟩ | ⟨s', hs', -, hx⟩ | ⟨rfl, hx⟩
  · refine ⟨fun _ => rfl, fun hs => ?_⟩
    have := (suffix hx).symm.trans hs
    simp [← String.toList_inj] at this
  · obtain rfl := suffix hx
    exact ⟨fun hs => absurd hs (waitSuffix_ne hs').1, fun hs => absurd hs (waitSuffix_ne hs').2.1⟩
  · refine ⟨fun hs => ?_, fun _ => rfl⟩
    have := (suffix hx).symm.trans hs
    simp [← String.toList_inj] at this

theorem waitRoutingKey_eq (h : Declared ex c t) (a : Nat) :
    ∃ s ∈ t.waitSuffixes, t.waitRoutingKey a = c.name ++ s := by
  obtain ⟨hop, hm, -⟩ := waitRoutingKey_listed h.one_le_maxRetries a
  have : t.waitRoutingKey a ∈ t.waitQueues.map Prod.snd := List.mem_map.2 ⟨_, hm, rfl⟩
  rw [waitQueues_names, h.routingKey_eq] at this
  obtain ⟨s, hs, he⟩ := List.mem_map.1 this
  exact ⟨s, hs, he.symm⟩

theorem waitRoutingKey_ne_failed (h : Declared ex c t) {c' : Channel} {t' : Topology}
    (h' : Declared ex c' t') (a : Nat) : t.waitRoutingKey a ≠ t'.failedRoutingKey := by
  obtain ⟨s, hs, he⟩ := waitRoutingKey_eq h a
  rw [he, failedRoutingKey, h'.routingKey_eq]
  exact fun hn => (waitSuffix_ne hs).2.1 (Channel.name_append_inj.1 hn).2

theorem name_ne_failed (c : Channel) {c' : Channel} {t' : Topology} (h' : Declared ex c' t') :
    c.name ≠ t'.failedRoutingKey := by
  rw [failedRoutingKey, h'.routingKey_eq]
  intro hn
  have := (Channel.name_append_inj.1 (String.append_empty.trans hn)).2
  simp [← String.toList_inj] at this

theorem mem_own_bindings {c' : Channel} {t' : Topology} (h' : Declared ex c' t') (hc : c ≠ c') {q k s : String}
    (hq : (q, k) ∈ t.bindings ∨ (q, k) ∈ t'.bindings) (hk : k = c.name ++ s) :
    (q, k) ∈ t.bindings := by
  rcases hq with hq | hq
  · exact hq
  · exfalso
    rcases mem_bindings hq with ⟨-, hx⟩ | ⟨s', -, -, hx⟩ | ⟨-, hx⟩ <;>
      rw [hk, h'.routingKey_eq] at hx <;> exact hc (Channel.name_append_inj.1 hx).1

/-! ### Both channels on one exchange -/

theorem nodup_channel_names {se sp : List String} (he : se.Nodup) (hp : sp.Nodup) :
    (se.map (Channel.email.name ++ ·) ++ sp.map (Channel.push.name ++ ·)).Nodup := by
  have inj : ∀ c : Channel, Function.Injective (c.name ++ ·) :=
    fun _ _ _ hab => (Channel.name_append_inj.1 hab).2
  refine List.nodup_append.2 ⟨he.map (inj _), hp.map (inj _), fun a ha b hb hab => ?_⟩
  obtain ⟨s, -, rfl⟩ := List.mem_map.1 ha
  obtain ⟨s', -, rfl⟩ := List.mem_map.1 hb
  exact absurd (Channel.name_append_inj.1 hab).1 (by decide)

theorem key_suffixes_nodup : ("" :: t.waitSuffixes ++ [".failed"]).Nodup :=
  suffixes_nodup (fun _ hs => (waitSuffix_ne hs).1) (by simp [← String.toList_inj])

theorem queue_suffixes_nodup : (".queue" :: t.waitSuffixes ++ [".failed"]).Nodup :=
  suffixes_nodup (fun _ hs => (waitSuffix_ne hs).2.2) (by simp [← String.toList_inj])

variable {te tp : Topology}

theorem keys_nodup (he : Declared ex .email te) (hp : Declared ex .push tp) :
    ((te.bindings ++ tp.bindings).map Prod.snd).Nodup := by
  rw [List.map_append, bindings_keys, bindings_keys, he.routingKey_eq, hp.routingKey_eq]
  exact nodup_channel_names key_suffixes_nodup key_suffixes_nodup

theorem queues_nodup (he : Declared ex .email te) (hp : Declared ex .push tp) :
    ((te.bindings ++ tp.bindings).map Prod.fst).Nodup := by
  rw [List.map_append, bindings_queues, bindings_queues, he.routingKey_eq, hp.routingKey_eq]
  exact nodup_channel_names queue_suffixes_nodup queue_suffixes_nodup

theorem key_plain (h : Declared ex c t) {k : String} (hk : k ∈ t.bindings.map Prod.snd) :
    '*' ∉ k.toList ∧ '#' ∉ k.toList := by
  rw [bindings_keys, h.routingKey_eq] at hk
  obtain ⟨s, hs, rfl⟩ := List.mem_map.1 hk
  have hc : '*' ∉ c.name.toList ∧ '#' ∉ c.name.toList := by
    cases c <;> simp [Channel.name]
  have hsfx : '*' ∉ s.toList ∧ '#' ∉ s.toList := by
    simp only [List.cons_append, List.mem_cons, List.mem_append, List.not_mem_nil, or_false] at hs
    rcases hs with rfl | hs | rfl
    · simp
    · exact waitSuffix_plain hs
    · simp
  simp only [String.toList_append, List.mem_append, not_or]
  exact ⟨⟨hc.1, hsfx.1⟩, ⟨hc.2, hsfx.2⟩⟩

theorem deadLetters_to_failed (h : Declared ex c t) {c' : Channel} {t' : Topology}
    (h' : Declared ex c' t') {q : String} {args : FieldTable} (hq : (q, args) ∈ t.declarations)
    (hl : args.lookup "x-dead-letter-routing-key" = some (.longString t'.failedRoutingKey)) :
    c = c' ∧ q = t.mainQueue := by
  rcases mem_declarations hq with ⟨rfl, rfl⟩ | ⟨hop, rfl⟩ | rfl
  · rw [mainQueueArguments_lookup.2, Option.some.injEq, FieldValue.longString.injEq,
      failedRoutingKey, failedRoutingKey, h.routingKey_eq, h'.routingKey_eq] at hl
    exact ⟨(Channel.name_append_inj.1 hl).1, rfl⟩
  · -- a wait queue dead-letters to its channel's own routing key
    rw [(waitQueueArguments_lookup hop).2.2, Option.some.injEq, FieldValue.longString.injEq,
      failedRoutingKey, h.routingKey_eq, h'.routingKey_eq] at hl
    have := (Channel.name_append_inj.1 (String.append_empty.trans hl)).2
    simp [← String.toList_inj] at this
  · simp at hl

/-- What one channel's queues do beside another channel's on the same exchange: the wait queue of
every attempt is declared, bound under its own name and waits the attempt's delay; wait queues
dead-letter to the channel's routing key, which leads only to the main queue; the main queue
dead-letters to the failed routing key, which leads only to the failed queue, and no other queue
dead-letters there. -/
theorem channel_queues (h : Declared ex c t) {c' : Channel} {t' : Topology}
    (h' : Declared ex c' t') (hc : c ≠ c') :
    (∀ a, ∃ hop, (hop, t.waitRoutingKey a) ∈ t.waitQueues ∧
      (t.waitRoutingKey a, t.waitRoutingKey a) ∈ t.bindings ∧
      (t.waitRoutingKey a, t.waitQueueArguments hop) ∈ t.declarations ∧
      (t.waitQueueArguments hop).lookup "x-message-ttl" =
        some (.longLongInt (min (t.waitDelayMs a) int64Max.toNat))) ∧
    (∀ hop q, (hop, q) ∈ t.waitQueues →
      (t.waitQueueArguments hop).lookup "x-dead-letter-exchange" = some (.longString ex) ∧
      (t.waitQueueArguments hop).lookup "x-dead-letter-routing-key" =
        some (.longString t.routingKey)) ∧
    (∀ q, (q, t.routingKey) ∈ t.bindings ∨ (q, t.routingKey) ∈ t'.bindings → q = t.mainQueue) ∧
    t.mainQueueArguments.lookup "x-dead-letter-exchange" = some (.longString ex) ∧
    t.mainQueueArguments.lookup "x-dead-letter-routing-key" =
      some (.longString t.failedRoutingKey) ∧
    (∀ q, (q, t.failedRoutingKey) ∈ t.bindings ∨ (q, t.failedRoutingKey) ∈ t'.bindings →
      q = t.failedQueue) ∧
    (∀ q args, (q, args) ∈ t.declarations ∨ (q, args) ∈ t'.declarations →
      args.lookup "x-dead-letter-routing-key" = some (.longString t.failedRoutingKey) →
      q = t.mainQueue) := by
  have hkey : t.routingKey = c.name ++ "" := by rw [h.routingKey_eq, String.append_empty]
  have hfail : t.failedRoutingKey = c.name ++ ".failed" := by rw [failedRoutingKey, h.routingKey_eq]
  refine ⟨fun a => ?_, fun hop q _ => ?_, fun q hq => ?_, ?_, mainQueueArguments_lookup.2,
    fun q hq => ?_, fun q args hq hl => ?_⟩
  · obtain ⟨hop, hm, hd⟩ := waitRoutingKey_listed h.one_le_maxRetries a
    exact ⟨hop, hm, mem_bindings_of_waitQueues hm, mem_declarations_of_waitQueues hm,
      hd ▸ (waitQueueArguments_lookup hop).1⟩
  · rw [← h.exchange_eq]
    exact (waitQueueArguments_lookup hop).2
  · exact (bound_queue h (mem_own_bindings h' hc hq hkey) hkey).1 rfl
  · rw [← h.exchange_eq]
    exact mainQueueArguments_lookup.1
  · exact (bound_queue h (mem_own_bindings h' hc hq hfail) hfail).2 rfl
  · rcases hq with hq | hq
    · exact (deadLetters_to_failed h h hq hl).2
    · exact absurd (deadLetters_to_failed h' h hq hl).1 hc.symm

end Broker.Topology

/-! ### Who publishes where -/

namespace Worker

open Broker

variable {c : Consumer} {w : World} {now : Time.Instant} {payload : String} {rc : Nat}
  {l : List PortCall} {r : Outcome Settlement} {log : List PortCall}

theorem Handled.publish_key (h : Handled c w now payload rc l r log)
    (hl : l.filterMap PortCall.published? = []) {key body : String} {opts : PublishOptions}
    (hm : PortCall.publish key body opts ∈ log) : key = c.topology.waitRoutingKey (rc + 1) := by
  obtain ⟨job, f, dl, hp, hd, hcl, hr⟩ := h.retrying_of_publish hl hm
  rw [h.log_of_retrying hp hd hcl hr] at hm
  simp only [List.mem_append, List.mem_cons, List.not_mem_nil, or_false, PortCall.publish.injEq,
    reduceCtorEq] at hm
  rcases hm with hm | ⟨rfl, -, -⟩
  · exact absurd hm (publish_not_mem (no_publish_of_deliver hd hl) key body opts)
  · rfl

end Worker

/-! ### Both channels on one exchange -/

namespace Broker.Topology

/-- Both channels declared on one exchange, each with `Topology.new`, with or without a backoff,
as `top` gives them. On the exchange:

* the bound routing keys are all different and free of topic wildcards, and every declared queue
  is bound exactly once;
* the wait queue of every attempt of a channel is listed, bound under its own name and declared
  with a time-to-live of the attempt's delay, cut to the largest signed 64-bit value;
* wait queues dead-letter to the channel's routing key, which only the main queue is bound to; the
  main queue dead-letters to the failed routing key, which only the failed queue is bound to, and
  no other declared queue dead-letters there;
* a consumer publishes only to the wait queue of the next attempt and the gateway only under the
  routing key of the request's channel, neither of them a failed routing key: a message reaches a
  failed queue only by being rejected from a main queue. -/
theorem topology_consistent (ex : String) (top : Channel → Topology)
    (htop : ∀ c, Declared ex c (top c)) :
    let bindings := (top .email).bindings ++ (top .push).bindings
    let declared := (top .email).declarations ++ (top .push).declarations
    (bindings.map Prod.snd).Nodup ∧
    (∀ k ∈ bindings.map Prod.snd, '*' ∉ k.toList ∧ '#' ∉ k.toList) ∧
    (∀ q ∈ declared.map Prod.fst, (bindings.map Prod.fst).count q = 1) ∧
    (∀ c : Channel,
      (∀ a, ∃ hop, (hop, (top c).waitRoutingKey a) ∈ (top c).waitQueues ∧
        ((top c).waitRoutingKey a, (top c).waitRoutingKey a) ∈ bindings ∧
        ((top c).waitRoutingKey a, (top c).waitQueueArguments hop) ∈ declared ∧
        ((top c).waitQueueArguments hop).lookup "x-message-ttl" =
          some (.longLongInt (min ((top c).waitDelayMs a) int64Max.toNat))) ∧
      (∀ hop q, (hop, q) ∈ (top c).waitQueues →
        ((top c).waitQueueArguments hop).lookup "x-dead-letter-exchange" = some (.longString ex) ∧
        ((top c).waitQueueArguments hop).lookup "x-dead-letter-routing-key" =
          some (.longString (top c).routingKey)) ∧
      (∀ q, (q, (top c).routingKey) ∈ bindings → q = (top c).mainQueue) ∧
      (top c).mainQueueArguments.lookup "x-dead-letter-exchange" = some (.longString ex) ∧
      (top c).mainQueueArguments.lookup "x-dead-letter-routing-key" =
        some (.longString (top c).failedRoutingKey) ∧
      (∀ q, (q, (top c).failedRoutingKey) ∈ bindings → q = (top c).failedQueue) ∧
      (∀ q args, (q, args) ∈ declared →
        args.lookup "x-dead-letter-routing-key" = some (.longString (top c).failedRoutingKey) →
        q = (top c).mainQueue)) ∧
    (∀ (con : Worker.Consumer) (c : Channel) (w : Worker.World) (now : Time.Instant)
      (payload : String) (rc : Nat) (key body : String) (opts : PublishOptions),
      con.topology = top c →
      Worker.PortCall.publish key body opts ∈ ((con.handle w.ports now payload rc).run []).2 →
      key = (top c).waitRoutingKey (rc + 1) ∧ ∀ c', key ≠ (top c').failedRoutingKey) ∧
    (∀ (now : Time.Instant) (req : NotificationRequest),
      (Gateway.handleRequest Gateway.scriptPorts now req).Within fun call =>
        ∀ key payload opts, call = .publish key payload opts →
          key = (top req.channel).routingKey ∧ ∀ c', key ≠ (top c').failedRoutingKey) := by
  intro bindings declared
  have other : ∀ c : Channel, ∃ c', c ≠ c' ∧
      (∀ x, x ∈ bindings ↔ x ∈ (top c).bindings ∨ x ∈ (top c').bindings) ∧
      (∀ x, x ∈ declared ↔ x ∈ (top c).declarations ∨ x ∈ (top c').declarations) := by
    intro c
    cases c
    · exact ⟨.push, by decide, fun _ => List.mem_append, fun _ => List.mem_append⟩
    · exact ⟨.email, by decide, fun _ => List.mem_append.trans or_comm,
        fun _ => List.mem_append.trans or_comm⟩
  refine ⟨keys_nodup (htop .email) (htop .push), fun k hk => ?_, fun q hq => ?_, fun c => ?_,
    ?_, fun now req => ?_⟩
  · rw [List.map_append, List.mem_append] at hk
    rcases hk with hk | hk
    · exact key_plain (htop .email) hk
    · exact key_plain (htop .push) hk
  · rw [List.map_append, declarations_queues, declarations_queues, ← List.map_append] at hq
    exact List.count_eq_one_of_mem (queues_nodup (htop .email) (htop .push)) hq
  · obtain ⟨c', hc, hb, hd⟩ := other c
    obtain ⟨hwait, hwaitDl, hmain, hmainDlx, hmainDl, hfailed, honly⟩ :=
      channel_queues (htop c) (htop c') hc
    refine ⟨fun a => ?_, hwaitDl, fun q hq => hmain q ((hb _).1 hq), hmainDlx, hmainDl,
      fun q hq => hfailed q ((hb _).1 hq), fun q args hq => honly q args ((hd _).1 hq)⟩
    obtain ⟨hop, hm, hbound, hdecl, httl⟩ := hwait a
    exact ⟨hop, hm, (hb _).2 (.inl hbound), (hd _).2 (.inl hdecl), httl⟩
  · intro con c w now payload rc key body opts hcon hm
    have hk := (Worker.handled con w now payload rc []).publish_key rfl hm
    rw [hcon] at hk
    exact ⟨hk, fun c' => hk ▸ waitRoutingKey_ne_failed (htop c) (htop c') (rc + 1)⟩
  · refine (Gateway.handleRequest_publishes_job now req).imp
      fun call hcall key payload opts h => ?_
    have hk := (hcall key payload opts h).1
    rw [(htop req.channel).routingKey_eq]
    exact ⟨hk, fun c' => hk ▸ name_ne_failed req.channel (htop c')⟩

/-- Both channels on one exchange with five seconds of base delay, doubled over three hops: the
routing keys are all different, and every attempt's wait queue is listed and waits its delay. -/
theorem doubling_topology_consistent :
    let top : Channel → Topology := fun c => (Topology.new "notifications" c 5000).withBackoff 2 3
    (∀ c, Declared "notifications" c (top c)) ∧
      (((top .email).bindings ++ (top .push).bindings).map Prod.snd).Nodup ∧
      ∀ c a, ∃ hop, (hop, (top c).waitRoutingKey a) ∈ (top c).waitQueues ∧
        ((top c).waitQueueArguments hop).lookup "x-message-ttl" =
          some (.longLongInt (min ((top c).waitDelayMs a) int64Max.toNat)) := by
  intro top
  have htop : ∀ c, Declared "notifications" c (top c) := fun _ => .backoff 5000 2 3
  obtain ⟨hkeys, -, -, hchannel, -⟩ := topology_consistent "notifications" top htop
  refine ⟨htop, hkeys, fun c a => ?_⟩
  obtain ⟨hop, hm, -, -, httl⟩ := (hchannel c).1 a
  exact ⟨hop, hm, httl⟩

end Broker.Topology

end Courier
