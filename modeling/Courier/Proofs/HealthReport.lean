import Mathlib.Data.String.Basic
import Courier.Service.Health
import Courier.Proofs.Named

/-!
# What a health report says

`checkAll` puts the result of every probe into a list of checks kept sorted by name, then the
state of every breaker of the registry, and folds the overall status over the checks. A check
put under a name that is already there replaces the old one, so a report has one check per name:
a breaker named like a probe hides the probe's check, and of probes sharing a name the last one
stands. A failed probe hidden that way leaves the report healthy (`breaker_hides_failed_probe`).

The main statement (`checkAll_report`) says, for any probes and any registry (whose breakers have
distinct names, as a registry makes them):

* the checks are sorted by name, each name once, and the names are those of the probes and of
  the breakers;
* every breaker stands under its name with the health its state stands for;
* the report is unhealthy exactly when the check of some probe that failed or did not answer
  stands among the checks, and degraded exactly when it is not unhealthy and some breaker is
  open or half-open;
* when no two probes or breakers share a name, there is one check per probe and one per breaker,
  and the report is unhealthy exactly when some probe failed or did not answer.
-/

namespace Courier.Service

open Courier.Breaker

/-! ### Checks under names -/

/-- The checks after putting `xs` one by one into `acc`. -/
def putChecks (xs acc : List (String × ServiceHealth)) : List (String × ServiceHealth) :=
  xs.foldl (fun acc e => putCheck e.1 e.2 acc) acc

/-- Names in strictly increasing order: one check per name. -/
def SortedByName (l : List (String × ServiceHealth)) : Prop :=
  l.Pairwise fun a b => a.1 < b.1

section PutCheck

variable (n : String) (h : ServiceHealth)

theorem lookup_putCheck (l : List (String × ServiceHealth)) (m : String) :
    (putCheck n h l).lookup m = if m = n then some h else l.lookup m := by
  induction l with
  | nil => simp [putCheck, lookup_cons_ite]
  | cons e rest ih =>
    obtain ⟨k, x⟩ := e
    by_cases hlt : n < k
    · simp [putCheck, hlt, lookup_cons_ite]
    · by_cases hnk : n = k
      · subst hnk
        by_cases hm : m = n <;> simp [putCheck, hm, lookup_cons_ite]
      · simp only [putCheck, hlt, if_false, beq_iff_eq, hnk, lookup_cons_ite, ih]
        by_cases hmk : m = k
        · subst hmk
          simp [Ne.symm hnk]
        · simp [hmk]

theorem mem_putCheck {l : List (String × ServiceHealth)} {e : String × ServiceHealth}
    (he : e ∈ putCheck n h l) : e = (n, h) ∨ e ∈ l := by
  induction l with
  | nil => simpa [putCheck] using he
  | cons x rest ih =>
    unfold putCheck at he
    split_ifs at he with hlt heq
    · simpa using he
    · rcases List.mem_cons.1 he with rfl | hr
      · exact .inl rfl
      · exact .inr (List.mem_cons_of_mem _ hr)
    · rcases List.mem_cons.1 he with rfl | hr
      · exact .inr List.mem_cons_self
      · exact (ih hr).imp_right (List.mem_cons_of_mem _)

theorem mem_names_putCheck (l : List (String × ServiceHealth)) (m : String) :
    m ∈ (putCheck n h l).map Prod.fst ↔ m = n ∨ m ∈ l.map Prod.fst := by
  simp only [mem_names_iff_lookup, lookup_putCheck]
  by_cases hm : m = n <;> simp [hm]

theorem putCheck_sorted {l : List (String × ServiceHealth)} (hl : SortedByName l) :
    SortedByName (putCheck n h l) := by
  induction l with
  | nil => simp [putCheck, SortedByName]
  | cons e rest ih =>
    obtain ⟨k, x⟩ := e
    obtain ⟨hk, hrest⟩ := List.pairwise_cons.1 hl
    unfold putCheck
    by_cases hlt : n < k
    · -- the new check goes first, before every name of the list
      simp only [hlt, if_true]
      refine List.pairwise_cons.2 ⟨fun b hb => ?_, hl⟩
      rcases List.mem_cons.1 hb with rfl | hb
      · exact hlt
      · exact lt_trans hlt (hk b hb)
    · by_cases hnk : n = k
      · subst hnk
        simp only [hlt, if_false, beq_self_eq_true, if_true]
        exact List.pairwise_cons.2 ⟨hk, hrest⟩
      · -- the new name lies after `k`, so `k` stays first
        have hkn : k < n := lt_of_le_of_ne (not_lt.1 hlt) (Ne.symm hnk)
        simp only [hlt, if_false, beq_iff_eq, hnk]
        refine List.pairwise_cons.2 ⟨fun b hb => ?_, ih hrest⟩
        rcases mem_putCheck n h hb with rfl | hb
        · exact hkn
        · exact hk b hb

theorem length_putCheck {l : List (String × ServiceHealth)} (hn : n ∉ l.map Prod.fst) :
    (putCheck n h l).length = l.length + 1 := by
  induction l with
  | nil => rfl
  | cons e rest ih =>
    obtain ⟨k, x⟩ := e
    have hnk : n ≠ k := fun heq => hn (by simp [heq])
    have hrest : n ∉ rest.map Prod.fst := fun hm => hn (List.mem_cons_of_mem _ hm)
    unfold putCheck
    by_cases hlt : n < k
    · simp [hlt]
    · simp [hlt, hnk, ih hrest]

end PutCheck

section PutChecks

variable {xs acc : List (String × ServiceHealth)}

theorem lookup_putChecks (xs acc : List (String × ServiceHealth)) (m : String) :
    (putChecks xs acc).lookup m = (xs.reverse.lookup m).or (acc.lookup m) := by
  induction xs generalizing acc with
  | nil => simp [putChecks]
  | cons e rest ih =>
    have hstep : putChecks (e :: rest) acc = putChecks rest (putCheck e.1 e.2 acc) := rfl
    rw [hstep, ih, lookup_putCheck, List.reverse_cons, List.lookup_append, Option.or_assoc]
    obtain ⟨k, x⟩ := e
    by_cases hm : m = k <;> simp [hm, lookup_cons_ite]

theorem mem_putChecks {e : String × ServiceHealth} (he : e ∈ putChecks xs acc) :
    e ∈ xs ∨ e ∈ acc := by
  induction xs generalizing acc with
  | nil => exact .inr he
  | cons x rest ih =>
    rcases ih he with h | h
    · exact .inl (List.mem_cons_of_mem _ h)
    · rcases mem_putCheck x.1 x.2 h with rfl | h
      · exact .inl List.mem_cons_self
      · exact .inr h

theorem mem_names_putChecks (xs acc : List (String × ServiceHealth)) (m : String) :
    m ∈ (putChecks xs acc).map Prod.fst ↔ m ∈ xs.map Prod.fst ∨ m ∈ acc.map Prod.fst := by
  simp only [mem_names_iff_lookup, lookup_putChecks, Option.isSome_or, Bool.or_eq_true]
  rw [← mem_names_iff_lookup, ← mem_names_iff_lookup, ← mem_names_iff_lookup, List.map_reverse,
    List.mem_reverse]

theorem putChecks_sorted (xs : List (String × ServiceHealth)) (hacc : SortedByName acc) :
    SortedByName (putChecks xs acc) := by
  induction xs generalizing acc with
  | nil => exact hacc
  | cons e rest ih => exact ih (putCheck_sorted e.1 e.2 hacc)

theorem length_putChecks (hxs : (xs.map Prod.fst).Nodup)
    (hfresh : ∀ m ∈ xs.map Prod.fst, m ∉ acc.map Prod.fst) :
    (putChecks xs acc).length = acc.length + xs.length := by
  induction xs generalizing acc with
  | nil => rfl
  | cons e rest ih =>
    simp only [List.map_cons, List.nodup_cons, List.mem_cons, forall_eq_or_imp] at hxs hfresh
    have hnext : ∀ m ∈ rest.map Prod.fst, m ∉ (putCheck e.1 e.2 acc).map Prod.fst := by
      intro m hm hput
      rcases (mem_names_putCheck e.1 e.2 acc m).1 hput with rfl | hacc
      · exact hxs.1 hm
      · exact hfresh.2 m hm hacc
    have hstep : putChecks (e :: rest) acc = putChecks rest (putCheck e.1 e.2 acc) := rfl
    rw [hstep, ih hxs.2 hnext, length_putCheck e.1 e.2 hfresh.1, List.length_cons]
    omega

end PutChecks

/-! ### The overall status -/

theorem overallStatus_eq_unhealthy_iff (hs : List ServiceHealth) :
    overallStatus hs = .unhealthy ↔ ∃ h ∈ hs, h.status = .unhealthy := by
  unfold overallStatus
  split_ifs with hu hd <;> simp_all

theorem overallStatus_eq_degraded_iff (hs : List ServiceHealth) :
    overallStatus hs = .degraded ↔
      (∀ h ∈ hs, h.status ≠ .unhealthy) ∧ ∃ h ∈ hs, h.status = .degraded := by
  unfold overallStatus
  split_ifs with hu hd <;> simp_all

theorem ofProbe_status_ne_degraded (name : String) (o : Completion Nat) :
    (ServiceHealth.ofProbe name o).status ≠ .degraded := by
  cases o <;> simp [ServiceHealth.ofProbe, ServiceHealth.healthy, ServiceHealth.unhealthy]

theorem ofProbe_status_eq_unhealthy_iff (name : String) (o : Completion Nat) :
    (ServiceHealth.ofProbe name o).status = .unhealthy ↔ ∀ ms, o ≠ .done ms := by
  cases o <;> simp [ServiceHealth.ofProbe, ServiceHealth.healthy, ServiceHealth.unhealthy]

theorem fromCircuit_status_ne_unhealthy (s : CircuitState) :
    (ServiceHealth.fromCircuit s).status ≠ .unhealthy := by
  cases s <;> simp [ServiceHealth.fromCircuit]

theorem fromCircuit_status_eq_degraded_iff (s : CircuitState) :
    (ServiceHealth.fromCircuit s).status = .degraded ↔ s ≠ .closed := by
  cases s <;> simp [ServiceHealth.fromCircuit]

/-! ### The report -/

variable (probes : List (String × Completion Nat)) (r : Registry) (now : Time.Instant)

/-- The probes' checks, under their names. -/
def probeChecks : List (String × ServiceHealth) :=
  probes.map fun (n, o) => (n, ServiceHealth.ofProbe n o)

/-- The breakers' checks, under their names. -/
def breakerChecks : List (String × ServiceHealth) :=
  r.states.map fun (n, s) => (n, ServiceHealth.fromCircuit s)

theorem checkAll_checks :
    (checkAll probes r now).checks = putChecks (breakerChecks r) (putChecks (probeChecks probes) []) := by
  simp only [checkAll, healthReport, putChecks, probeChecks, breakerChecks, List.foldl_map]

theorem checkAll_status :
    (checkAll probes r now).status = overallStatus ((checkAll probes r now).checks.map Prod.snd) := by
  simp only [checkAll, healthReport]

theorem names_probeChecks : (probeChecks probes).map Prod.fst = probes.map Prod.fst := by
  simp [probeChecks]

theorem names_breakerChecks : (breakerChecks r).map Prod.fst = r.states.map Prod.fst := by
  simp [breakerChecks]

theorem states_names_perm : (r.states.map Prod.fst).Perm (r.breakers.map Prod.fst) := by
  simp only [Registry.states, Registry.sorted, List.map_map]
  exact (List.mergeSort_perm _ _).map _

variable {probes r now}

theorem mem_checkAll {n : String} {h : ServiceHealth} (he : (n, h) ∈ (checkAll probes r now).checks) :
    (∃ o, (n, o) ∈ probes ∧ h = ServiceHealth.ofProbe n o) ∨
      ∃ s, (n, s) ∈ r.states ∧ h = ServiceHealth.fromCircuit s := by
  rw [checkAll_checks] at he
  rcases mem_putChecks he with hb | hp
  · obtain ⟨⟨n, s⟩, hs, heq⟩ := List.mem_map.1 hb
    obtain ⟨rfl, rfl⟩ := Prod.mk.inj heq
    exact .inr ⟨s, hs, rfl⟩
  · rcases mem_putChecks hp with hp | hp
    · obtain ⟨⟨n, o⟩, ho, heq⟩ := List.mem_map.1 hp
      obtain ⟨rfl, rfl⟩ := Prod.mk.inj heq
      exact .inl ⟨o, ho, rfl⟩
    · cases hp

theorem breaker_mem_checkAll (hr : (r.breakers.map Prod.fst).Nodup) {n : String} {s : CircuitState}
    (hs : (n, s) ∈ r.states) : (n, ServiceHealth.fromCircuit s) ∈ (checkAll probes r now).checks := by
  have hnodup : ((breakerChecks r).reverse.map Prod.fst).Nodup := by
    rw [List.map_reverse, List.nodup_reverse, names_breakerChecks]
    exact (states_names_perm r).nodup_iff.2 hr
  have hmem : (n, ServiceHealth.fromCircuit s) ∈ (breakerChecks r).reverse :=
    List.mem_reverse.2 (List.mem_map.2 ⟨(n, s), hs, rfl⟩)
  apply mem_of_lookup_eq_some
  rw [checkAll_checks, lookup_putChecks, lookup_of_mem hnodup hmem, Option.some_or]

/-! ### The status of a report -/

theorem checkAll_unhealthy_iff :
    (checkAll probes r now).status = .unhealthy ↔
      ∃ n o, (n, o) ∈ probes ∧ (∀ ms, o ≠ .done ms) ∧
        (n, ServiceHealth.ofProbe n o) ∈ (checkAll probes r now).checks := by
  rw [checkAll_status, overallStatus_eq_unhealthy_iff]
  constructor
  · rintro ⟨h, hh, hu⟩
    obtain ⟨⟨n, h⟩, he, rfl⟩ := List.mem_map.1 hh
    -- a breaker's check is never unhealthy, so the check is a probe's
    rcases mem_checkAll he with ⟨o, ho, rfl⟩ | ⟨s, -, rfl⟩
    · exact ⟨n, o, ho, (ofProbe_status_eq_unhealthy_iff n o).1 hu, he⟩
    · exact absurd hu (fromCircuit_status_ne_unhealthy s)
  · rintro ⟨n, o, -, hfail, hmem⟩
    exact ⟨_, List.mem_map_of_mem hmem, (ofProbe_status_eq_unhealthy_iff n o).2 hfail⟩

theorem checkAll_degraded_iff (hr : (r.breakers.map Prod.fst).Nodup) :
    (checkAll probes r now).status = .degraded ↔
      (checkAll probes r now).status ≠ .unhealthy ∧ ∃ n s, (n, s) ∈ r.states ∧ s ≠ .closed := by
  constructor
  · intro hd
    refine ⟨by rw [hd]; decide, ?_⟩
    rw [checkAll_status, overallStatus_eq_degraded_iff] at hd
    obtain ⟨-, h, hh, hdeg⟩ := hd
    obtain ⟨⟨n, h⟩, he, rfl⟩ := List.mem_map.1 hh
    -- a probe's check is never degraded, so the check is a breaker's
    rcases mem_checkAll he with ⟨o, -, rfl⟩ | ⟨s, hs, rfl⟩
    · exact absurd hdeg (ofProbe_status_ne_degraded n o)
    · exact ⟨n, s, hs, (fromCircuit_status_eq_degraded_iff s).1 hdeg⟩
  · rintro ⟨hu, n, s, hs, hopen⟩
    rw [Ne, checkAll_status, overallStatus_eq_unhealthy_iff] at hu
    rw [checkAll_status, overallStatus_eq_degraded_iff]
    exact ⟨fun h hh hu' => hu ⟨h, hh, hu'⟩, _,
      List.mem_map_of_mem (breaker_mem_checkAll hr hs),
      (fromCircuit_status_eq_degraded_iff s).2 hopen⟩

/-! ### Distinct names -/

section Distinct

variable (hd : (probes.map Prod.fst ++ r.states.map Prod.fst).Nodup)
include hd

theorem probe_mem_checkAll {n : String} {o : Completion Nat} (ho : (n, o) ∈ probes) :
    (n, ServiceHealth.ofProbe n o) ∈ (checkAll probes r now).checks := by
  obtain ⟨hp, -, hdisj⟩ := List.nodup_append.1 hd
  have hn : n ∈ probes.map Prod.fst := List.mem_map.2 ⟨(n, o), ho, rfl⟩
  have hnb : (breakerChecks r).reverse.lookup n = none := by
    rw [← Option.not_isSome_iff_eq_none, ← mem_names_iff_lookup, List.map_reverse,
      List.mem_reverse, names_breakerChecks]
    exact fun hb => hdisj n hn n hb rfl
  have hnp : (probeChecks probes).reverse.lookup n = some (ServiceHealth.ofProbe n o) := by
    refine lookup_of_mem ?_ (List.mem_reverse.2 (List.mem_map.2 ⟨(n, o), ho, rfl⟩))
    rwa [List.map_reverse, List.nodup_reverse, names_probeChecks]
  apply mem_of_lookup_eq_some
  rw [checkAll_checks, lookup_putChecks, lookup_putChecks, hnb, hnp]
  rfl

theorem checkAll_length :
    (checkAll probes r now).checks.length = probes.length + r.states.length := by
  obtain ⟨hp, hb, hdisj⟩ := List.nodup_append.1 hd
  have hprobes : (putChecks (probeChecks probes) []).length = probes.length := by
    rw [length_putChecks (by rwa [names_probeChecks]) (by simp)]
    simp [probeChecks]
  rw [checkAll_checks, length_putChecks (by rwa [names_breakerChecks]), hprobes]
  · simp [breakerChecks]
  · -- no breaker is named like a probe
    intro m hm hacc
    rw [names_breakerChecks] at hm
    rcases (mem_names_putChecks _ _ m).1 hacc with hacc | hacc
    · rw [names_probeChecks] at hacc
      exact hdisj m hacc m hm rfl
    · simp at hacc

theorem checkAll_unhealthy_iff_of_nodup :
    (checkAll probes r now).status = .unhealthy ↔ ∃ n o, (n, o) ∈ probes ∧ ∀ ms, o ≠ .done ms := by
  rw [checkAll_unhealthy_iff]
  constructor
  · rintro ⟨n, o, ho, hfail, -⟩
    exact ⟨n, o, ho, hfail⟩
  · rintro ⟨n, o, ho, hfail⟩
    exact ⟨n, o, ho, hfail, probe_mem_checkAll hd ho⟩

end Distinct

/-- What a health report says, for any probes and any registry (whose breakers have distinct
names): one check per name, sorted, the names being those of the probes and of the breakers;
every breaker under its name; unhealthy exactly when the check of a probe that failed or did not
answer stands, and otherwise degraded exactly when a breaker is open or half-open. When no two
probes or breakers share a name, there is one check per probe and one per breaker, and the report
is unhealthy exactly when some probe failed or did not answer. -/
theorem checkAll_report (probes : List (String × Completion Nat)) (r : Registry)
    (now : Time.Instant) (hr : (r.breakers.map Prod.fst).Nodup) :
    let rep := checkAll probes r now
    SortedByName rep.checks ∧
      (∀ m, m ∈ rep.checks.map Prod.fst ↔ m ∈ probes.map Prod.fst ∨ m ∈ r.states.map Prod.fst) ∧
      (∀ n s, (n, s) ∈ r.states → (n, ServiceHealth.fromCircuit s) ∈ rep.checks) ∧
      (rep.status = .unhealthy ↔ ∃ n o, (n, o) ∈ probes ∧ (∀ ms, o ≠ .done ms) ∧
        (n, ServiceHealth.ofProbe n o) ∈ rep.checks) ∧
      (rep.status = .degraded ↔ rep.status ≠ .unhealthy ∧ ∃ n s, (n, s) ∈ r.states ∧ s ≠ .closed) ∧
      ((probes.map Prod.fst ++ r.states.map Prod.fst).Nodup →
        rep.checks.length = probes.length + r.states.length ∧
        (rep.status = .unhealthy ↔ ∃ n o, (n, o) ∈ probes ∧ ∀ ms, o ≠ .done ms)) := by
  intro rep
  have hsorted : SortedByName rep.checks := by
    simp only [rep, checkAll_checks]
    exact putChecks_sorted _ (putChecks_sorted _ (by simp [SortedByName]))
  have hnames : ∀ m, m ∈ rep.checks.map Prod.fst ↔
      m ∈ probes.map Prod.fst ∨ m ∈ r.states.map Prod.fst := by
    intro m
    simp only [rep, checkAll_checks, mem_names_putChecks, names_probeChecks, names_breakerChecks,
      List.map_nil, List.not_mem_nil, or_false]
    exact or_comm
  exact ⟨hsorted, hnames, fun _ _ hs => breaker_mem_checkAll hr hs, checkAll_unhealthy_iff,
    checkAll_degraded_iff hr,
    fun hd => ⟨checkAll_length hd, checkAll_unhealthy_iff_of_nodup hd⟩⟩

/-- The store is down and the user service's breaker has tripped: the report is unhealthy, with
one check for each probe and for the breaker. -/
theorem store_down_report :
    let probes : List (String × Completion Nat) :=
      [("store", .failed (.store "PING failed")), ("message_broker", .done 12)]
    let r : Registry := (({ config := .lenient } : Registry).call "user-service" 0
      (.failed (.internal "down") : Completion Unit)).2.1
    (r.breakers.map Prod.fst).Nodup ∧
      let rep := checkAll probes r ⟨0, 0⟩
      SortedByName rep.checks ∧
        (∀ m, m ∈ rep.checks.map Prod.fst ↔ m ∈ probes.map Prod.fst ∨ m ∈ r.states.map Prod.fst) ∧
        (∀ n s, (n, s) ∈ r.states → (n, ServiceHealth.fromCircuit s) ∈ rep.checks) ∧
        (rep.status = .unhealthy ↔ ∃ n o, (n, o) ∈ probes ∧ (∀ ms, o ≠ .done ms) ∧
          (n, ServiceHealth.ofProbe n o) ∈ rep.checks) ∧
        (rep.status = .degraded ↔
          rep.status ≠ .unhealthy ∧ ∃ n s, (n, s) ∈ r.states ∧ s ≠ .closed) ∧
        ((probes.map Prod.fst ++ r.states.map Prod.fst).Nodup →
          rep.checks.length = probes.length + r.states.length ∧
          (rep.status = .unhealthy ↔ ∃ n o, (n, o) ∈ probes ∧ ∀ ms, o ≠ .done ms)) := by
  intro probes r
  have hr : (r.breakers.map Prod.fst).Nodup := by decide +kernel
  exact ⟨hr, checkAll_report probes r ⟨0, 0⟩ hr⟩

/-- A breaker named like a probe hides the probe's failure: the store's probe fails, and the
registry holds a closed breaker named `store`; the report has a single check, the breaker's, and
is healthy. -/
theorem breaker_hides_failed_probe :
    let r : Registry := (({ config := .lenient } : Registry).touch "store").1
    let rep := checkAll [("store", .failed (.store "PING failed"))] r ⟨0, 0⟩
    r.states.length = 1 ∧ rep.checks.length = 1 ∧ rep.status = .healthy := by
  decide +kernel

end Courier.Service
