import Mathlib
import Courier.Broker.Topology

/-!
# Wait delays

With a backoff multiplier above 1, the wait before a redelivery is the base delay times the
multiplier once per earlier hop, and the hop of an attempt is the attempt number kept between 1
and `maxRetries`. The delay is computed with 64-bit saturating arithmetic: a saturating power,
then a saturating product (`waitDelayMs`). It is the exact product cut at `u64Max`
(`waitDelayMs_of_perHop`), even when the power alone saturates, so a zero base delay stays zero
and any other delay reaches the cut. The delay never shrinks from one attempt to the next
(`waitDelayMs_mono`), and a wait queue keeps its messages for the delay cut again to the largest
signed 64-bit value.
-/

namespace Courier.Broker

theorem saturatingPow_eq_min (b e : Nat) : saturatingPow b e = min (b ^ e) u64Max := by
  unfold saturatingPow
  split
  · rename_i hb
    have h1 : b ^ e ≤ 1 := by simpa using Nat.pow_le_pow_left hb e
    have : (1 : Nat) ≤ u64Max := by decide
    rw [Nat.min_eq_left (by omega)]
    rfl
  · split
    · rename_i hb he
      -- from the 64th power of 2 on, the power is past the cut
      have hpow : 2 ^ 64 ≤ b ^ e :=
        calc 2 ^ 64 ≤ 2 ^ e := Nat.pow_le_pow_right (by decide) he
          _ ≤ b ^ e := Nat.pow_le_pow_left (by omega) e
      have : u64Max < 2 ^ 64 := by decide
      rw [Nat.min_eq_right (by omega)]
    · rfl

/-- Cutting a factor at `M` before multiplying changes nothing once the product is cut at `M`:
a zero product stays zero, and any other reaches `M` either way. -/
theorem min_mul_min_cut (r x M : Nat) : min (r * min x M) M = min (r * x) M := by
  rcases Nat.le_total x M with h | h
  · rw [Nat.min_eq_left h]
  · rw [Nat.min_eq_right h]
    rcases Nat.eq_zero_or_pos r with rfl | hr
    · simp
    · have h1 : M ≤ r * M := Nat.le_mul_of_pos_left M hr
      have h2 : M ≤ r * x := Nat.le_trans h (Nat.le_mul_of_pos_left x hr)
      omega

namespace Topology

variable {t : Topology}

theorem one_le_hop (h : 1 ≤ t.maxRetries) (a : Nat) : 1 ≤ t.hop a := by
  simp only [hop]
  omega

theorem hop_mono {a a' : Nat} (h : a ≤ a') : t.hop a ≤ t.hop a' := by
  simp only [hop]
  omega

theorem waitDelayMs_of_perHop (hp : t.perHop = true) (a : Nat) :
    t.waitDelayMs a = min (t.retryDelayMs * t.backoffMultiplier ^ (t.hop a - 1)) u64Max := by
  simp only [waitDelayMs, hp, Bool.not_true, Bool.false_eq_true, ↓reduceIte,
    saturatingPow_eq_min, min_mul_min_cut]

theorem waitDelayMs_mono {a a' : Nat} (h : a ≤ a') : t.waitDelayMs a ≤ t.waitDelayMs a' := by
  cases hp : t.perHop
  · simp [waitDelayMs, hp]
  · rw [waitDelayMs_of_perHop hp, waitDelayMs_of_perHop hp]
    have hm : 0 < t.backoffMultiplier := by
      simp only [perHop, decide_eq_true_eq] at hp
      omega
    have hpow : t.backoffMultiplier ^ (t.hop a - 1) ≤ t.backoffMultiplier ^ (t.hop a' - 1) :=
      Nat.pow_le_pow_right hm (Nat.sub_le_sub_right (hop_mono h) 1)
    have := Nat.mul_le_mul_left t.retryDelayMs hpow
    omega

/-- The wait of an attempt on a channel declared with a backoff of `m` over `n` hops, base delay
`r`. The code's clamp of the attempt to `[1, max 1 n]` has its bounds in order and gives a hop of
at least 1, so nothing in the computation can fail. The delay is `r` when the multiplier is at
most 1, and otherwise `r * m ^ (hop - 1)` computed exactly and cut at `2 ^ 64 - 1`, whether or not
the power alone passes that value. It never shrinks as the attempt grows, and the attempt's wait
queue keeps messages for it, cut at `2 ^ 63 - 1`. -/
theorem backoff_delay_exact (ex : String) (ch : Channel) (r m n a : Nat) :
    let t := (Topology.new ex ch r).withBackoff m n
    let hop := if a < 1 then 1 else if max 1 n < a then max 1 n else a
    (1 ≤ t.maxRetries ∧ t.hop a = hop ∧ 1 ≤ t.hop a) ∧
    t.waitDelayMs a = (if max 1 m = 1 then r else min (r * m ^ (hop - 1)) (2 ^ 64 - 1)) ∧
    (∀ a', a ≤ a' → t.waitDelayMs a ≤ t.waitDelayMs a') ∧
    (t.waitQueueArguments a).lookup "x-message-ttl" =
      some (.longLongInt (min (t.waitDelayMs a : Int) (2 ^ 63 - 1))) := by
  intro t hop
  have hmax : 1 ≤ t.maxRetries := Nat.le_max_right n 1
  have hhop : t.hop a = hop := by
    simp only [t, hop, Topology.hop, withBackoff]
    split
    · omega
    · split <;> omega
  have httl : (t.waitQueueArguments a).lookup "x-message-ttl" =
      some (.longLongInt (min (t.waitDelayMs a : Int) (2 ^ 63 - 1))) := by
    have hcut : (int64Max.toNat : Int) = 2 ^ 63 - 1 := by decide
    simp only [waitQueueArguments, List.lookup, beq_self_eq_true, hcut]
  refine ⟨⟨hmax, hhop, one_le_hop hmax a⟩, ?_, fun a' h => waitDelayMs_mono h, httl⟩
  split
  · rename_i hm
    have hp : t.perHop = false := by
      simp only [t, perHop, withBackoff, decide_eq_false_iff_not]
      omega
    have hbase : t.waitDelayMs a = t.retryDelayMs := by simp [waitDelayMs, hp]
    rw [hbase]
    rfl
  · rename_i hm
    have hp : t.perHop = true := by
      simp only [t, perHop, withBackoff, decide_eq_true_eq]
      omega
    rw [waitDelayMs_of_perHop hp, hhop]
    have hm' : t.backoffMultiplier = m := by
      simp only [t, withBackoff]
      omega
    rw [hm']
    rfl

end Topology

end Courier.Broker
