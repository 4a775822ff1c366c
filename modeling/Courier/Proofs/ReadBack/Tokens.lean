import Mathlib
import Courier.Proofs.ReadBack.Scan
import Courier.Json.Write

/-!
# Reading strings and integers back

The writer quotes a string by escaping `"`, `\`, the control characters with short escapes
(`\n`, `\r`, `\t`, `\b`, `\f`) and the others as `\u00XX`, and writes every other character as it
is. The string reader undoes each escape, so reading a quoted string after its opening quote gives
the string back (`readStringBody_reads`).

An integer is written in decimal, with a minus sign when negative. Read before the end of a value,
the digits are kept as an integer when they fit 64 bits, that is from `-2^63` to `2^64 - 1`
(`readNumber_toDigits`): the digit loop never finds an overflow below that bound.
-/

namespace Courier.Json

/-! ### Escapes -/

theorem readEscape_short (acc r : List Char) (e c : Char)
    (h : (e, c) ∈ [('"', '"'), ('\\', '\\'), ('b', '\x08'), ('f', '\x0c'), ('n', '\n'),
      ('r', '\r'), ('t', '\t')]) :
    (readEscape acc).Reads (e :: r) r (c :: acc) := by
  unfold readEscape
  refine (nextChar_reads e r).bind ?_
  simp only [List.mem_cons, Prod.mk.injEq, List.not_mem_nil, or_false] at h
  rcases h with ⟨rfl, rfl⟩ | ⟨rfl, rfl⟩ | ⟨rfl, rfl⟩ | ⟨rfl, rfl⟩ | ⟨rfl, rfl⟩ | ⟨rfl, rfl⟩ |
    ⟨rfl, rfl⟩ <;> exact Scan.reads_pure _ _

theorem hexValue?_hexDigit : ∀ d, d < 16 → hexValue? (hexDigit d) = some d := by decide

theorem utf8Size_hexDigit : ∀ d, d < 16 → (hexDigit d).utf8Size = 1 := by decide

theorem readHex4_low (a b : Nat) (ha : a < 16) (hb : b < 16) (r : List Char) :
    readHex4.Reads ('0' :: '0' :: hexDigit a :: hexDigit b :: r) r (a * 16 + b) := by
  intro c hc
  have hrest : (c.advanceBytes 4).rest = r :=
    Cursor.advanceBytes_go_rest ['0', '0', hexDigit a, hexDigit b]
      (by simp [utf8Size_hexDigit a ha, utf8Size_hexDigit b hb]; decide) c r 5 (by rw [hc]; rfl)
      (by simp)
  refine ⟨c.advanceBytes 4, ?_, hrest⟩
  have h0 : hexValue? '0' = some 0 := by decide
  have hfour : (c.rest.take 4).mapM hexValue? = some [0, 0, a, b] := by
    simp [hc, h0, hexValue?_hexDigit a ha, hexValue?_hexDigit b hb]
  rw [readHex4, Scan.run_get_bind]
  dsimp only
  rw [hfour]
  simp only [Nat.zero_mul, Nat.zero_add]
  rfl

theorem readUnicodeEscape_low (acc r : List Char) (c : Char) (hc : c.toNat < 0x20) :
    (readUnicodeEscape acc).Reads
      ('0' :: '0' :: hexDigit (c.toNat / 16) :: hexDigit (c.toNat % 16) :: r) r (c :: acc) := by
  have hn : c.toNat / 16 * 16 + c.toNat % 16 = c.toNat := by omega
  have hx := readHex4_low (c.toNat / 16) (c.toNat % 16) (by omega) (by omega) r
  rw [hn] at hx
  unfold readUnicodeEscape
  refine hx.bind ?_
  have h1 : (decide (56320 ≤ c.toNat) && decide (c.toNat ≤ 57343)) = false := by simp; omega
  have h2 : (decide (c.toNat < 55296) || decide (c.toNat > 56319)) = true := by simp; omega
  simp only [h1, h2, Bool.false_eq_true, if_false, if_true, Char.ofNat_toNat]
  exact Scan.reads_pure _ _

theorem readEscape_unicode (acc : List Char) {s r x : List Char}
    (h : (readUnicodeEscape acc).Reads s r x) : (readEscape acc).Reads ('u' :: s) r x := by
  unfold readEscape
  exact (nextChar_reads 'u' s).bind h

/-! ### Strings -/

section StringBody

variable (acc : List Char) (fuel : Nat) {r rest : List Char} {x : String}

theorem readStringBody_go_plain {c : Char} (hq : c ≠ '"') (hb : c ≠ '\\') (hc : ¬ c.toNat < 0x20)
    (h : (readStringBody.go (c :: acc) fuel).Reads r rest x) :
    (readStringBody.go acc (fuel + 1)).Reads (c :: r) rest x := by
  rw [readStringBody.go]
  refine (peekChar_reads _).bind ?_
  simp only [List.head?_cons]
  split
  · contradiction
  · exact (advance_reads c r).bind h

theorem readStringBody_go_escape {s : List Char} {c : Char}
    (he : (readEscape acc).Reads s r (c :: acc))
    (h : (readStringBody.go (c :: acc) fuel).Reads r rest x) :
    (readStringBody.go acc (fuel + 1)).Reads ('\\' :: s) rest x := by
  rw [readStringBody.go]
  refine (peekChar_reads _).bind ?_
  simp only [List.head?_cons]
  exact (advance_reads _ _).bind (he.bind h)

theorem readStringBody_go_escapeChar (c : Char)
    (h : (readStringBody.go (c :: acc) fuel).Reads r rest x) :
    (readStringBody.go acc (fuel + 1)).Reads ((escapeChar c).toList ++ r) rest x := by
  unfold escapeChar
  split
  · exact readStringBody_go_escape acc fuel (readEscape_short acc r '"' '"' (by simp)) h
  · exact readStringBody_go_escape acc fuel (readEscape_short acc r '\\' '\\' (by simp)) h
  · exact readStringBody_go_escape acc fuel (readEscape_short acc r 'n' '\n' (by simp)) h
  · exact readStringBody_go_escape acc fuel (readEscape_short acc r 'r' '\r' (by simp)) h
  · exact readStringBody_go_escape acc fuel (readEscape_short acc r 't' '\t' (by simp)) h
  · rename_i hq hb hn hr ht
    split
    · rename_i h8
      have hc : c = '\x08' := by rw [← Char.ofNat_toNat c, beq_iff_eq.1 h8]
      subst hc
      exact readStringBody_go_escape acc fuel (readEscape_short acc r 'b' '\x08' (by simp)) h
    split
    · rename_i h12
      have hc : c = '\x0c' := by rw [← Char.ofNat_toNat c, beq_iff_eq.1 h12]
      subst hc
      exact readStringBody_go_escape acc fuel (readEscape_short acc r 'f' '\x0c' (by simp)) h
    split
    · rename_i hlow
      simpa using readStringBody_go_escape acc fuel
        (readEscape_unicode acc (readUnicodeEscape_low acc r c hlow)) h
    · rename_i hhigh
      simpa using readStringBody_go_plain acc fuel hq hb hhigh h

end StringBody

theorem escapeChar_length_pos (c : Char) : 0 < (escapeChar c).toList.length := by
  unfold escapeChar
  split
  any_goals simp
  split
  · simp
  split
  · simp
  split <;> simp

theorem length_le_escaped (cs : List Char) :
    cs.length ≤ (cs.flatMap fun c => (escapeChar c).toList).length := by
  induction cs with
  | nil => simp
  | cons c cs ih =>
    have := escapeChar_length_pos c
    simp only [List.flatMap_cons, List.length_append, List.length_cons]
    omega

theorem readStringBody_go_escaped (cs : List Char) :
    ∀ (acc : List Char) (fuel : Nat) (rest : List Char), cs.length < fuel →
      (readStringBody.go acc fuel).Reads
        ((cs.flatMap fun c => (escapeChar c).toList) ++ '"' :: rest) rest
        (String.ofList (acc.reverse ++ cs)) := by
  induction cs with
  | nil =>
    intro acc fuel rest hf
    obtain ⟨fuel, rfl, -⟩ := exists_succ_of_lt hf
    rw [readStringBody.go]
    refine (peekChar_reads _).bind ?_
    simp only [List.flatMap_nil, List.nil_append, List.head?_cons, List.append_nil]
    exact (advance_reads _ _).bind (Scan.reads_pure _ _)
  | cons c cs ih =>
    intro acc fuel rest hf
    obtain ⟨fuel, rfl, hle⟩ := exists_succ_of_lt hf
    have hnext := ih (c :: acc) fuel rest (by simp at hle; omega)
    simp only [List.reverse_cons, List.append_assoc, List.singleton_append] at hnext
    simpa only [List.flatMap_cons, List.append_assoc] using
      readStringBody_go_escapeChar acc fuel c hnext

theorem quote_toList (s : String) :
    (quote s).toList = '"' :: (s.toList.flatMap fun c => (escapeChar c).toList) ++ ['"'] := by
  simp [quote, String.toList_join, List.flatMap_map]

/-- After the opening quote, the string reader gives back the string the writer quoted. -/
theorem readStringBody_reads (s : String) (rest : List Char) :
    readStringBody.Reads ((s.toList.flatMap fun c => (escapeChar c).toList) ++ '"' :: rest) rest
      s := by
  have hlen : s.toList.length <
      ((s.toList.flatMap fun c => (escapeChar c).toList) ++ '"' :: rest).length + 1 := by
    have := length_le_escaped s.toList
    simp only [List.length_append, List.length_cons]
    omega
  have hgo := readStringBody_go_escaped s.toList [] _ rest hlen
  simp only [List.reverse_nil, List.nil_append, String.ofList_toList] at hgo
  exact (budget_reads _).bind hgo

/-! ### Integers -/

theorem ValueEnd.not_digit {r : List Char} (h : ValueEnd r) :
    ∀ ch ∈ r.head?, ch.isDigit = false := by
  intro ch hch
  rcases h ch hch with rfl | rfl | rfl <;> rfl

theorem overflows_eq_false {n d max : Nat} (hd : d < 10) (h : n * 10 + d ≤ max) :
    overflows n d max = false := by
  simp only [overflows, Bool.and_eq_false_iff, decide_eq_false_iff_not, Bool.or_eq_false_iff]
  omega

theorem digitOf_lt {c : Char} (hc : c.isDigit = true) : digitOf c < 10 := by
  have h := Char.isDigit_iff_toNat.1 hc
  have h9 : '9'.toNat = 57 := rfl
  simp only [digitOf]
  omega

theorem peekDigit_digit (c : Char) (r : List Char) (hc : c.isDigit = true) :
    peekDigit.Reads (c :: r) (c :: r) (some (digitOf c)) := by
  unfold peekDigit
  refine (peekChar_reads _).bind ?_
  simp only [List.head?_cons, hc, if_true]
  exact Scan.reads_pure _ _

theorem peekDigit_none (r : List Char) (hr : ∀ ch ∈ r.head?, ch.isDigit = false) :
    peekDigit.Reads r r none := by
  unfold peekDigit
  refine (peekChar_reads _).bind ?_
  cases r with
  | nil => exact Scan.reads_pure _ _
  | cons ch r =>
    have hch : ch.isDigit = false := hr ch (by simp)
    simp only [List.head?_cons, hch, Bool.false_eq_true, if_false]
    exact Scan.reads_pure _ _

theorem readNumberTail_int (positive : Bool) (sig : Nat) (r : List Char) (hr : ValueEnd r)
    (hneg : positive = false → 0 < sig ∧ sig ≤ 2 ^ 63) :
    (readNumberTail positive sig).Reads r r
      (.int (if positive then (sig : Int) else -(sig : Int))) := by
  unfold readNumberTail
  refine (peekChar_reads _).bind ?_
  have hrest : (if positive then pure (Number.int sig)
      else if (sig == 0) = true then pure (Number.float (-0.0))
      else if sig ≤ Nat.pow 2 63 then pure (Number.int (-(sig : Int)))
      else pure (Number.float (-(Decimal.natToFloat sig))) : Scan Number) =
      pure (.int (if positive then (sig : Int) else -(sig : Int))) := by
    cases positive with
    | true => rfl
    | false =>
      obtain ⟨h0, hs⟩ := hneg rfl
      have h0' : (sig == 0) = false := by simp; omega
      have hs' : sig ≤ Nat.pow 2 63 := hs
      simp only [h0', hs', Bool.false_eq_true, if_false, if_true]
  cases r with
  | nil =>
    simp only [List.head?_nil]
    rw [hrest]
    exact Scan.reads_pure _ _
  | cons ch r =>
    rcases hr ch rfl with rfl | rfl | rfl <;>
    · simp only [List.head?_cons]
      rw [hrest]
      exact Scan.reads_pure _ _

theorem le_ofDigitChars (ds : List Char) (init : Nat) : init ≤ Nat.ofDigitChars 10 ds init := by
  rw [Nat.ofDigitChars_eq_ofDigitChars_zero]
  exact Nat.le_add_right_of_le (Nat.le_mul_of_pos_left init (Nat.pow_pos (by decide)))

theorem readNumber_go_digits (positive : Bool) {r rest : List Char} {x : Number}
    (hr : ∀ ch ∈ r.head?, ch.isDigit = false) (ds : List Char) (hds : ∀ c ∈ ds, c.isDigit = true) :
    ∀ sig fuel, ds.length ≤ fuel → Nat.ofDigitChars 10 ds sig ≤ 18446744073709551615 →
      (readNumberTail positive (Nat.ofDigitChars 10 ds sig)).Reads r rest x →
      (readNumber.go positive sig fuel).Reads (ds ++ r) rest x := by
  induction ds with
  | nil =>
    intro sig fuel _ _ htail
    cases fuel with
    | zero => exact htail
    | succ fuel =>
      rw [readNumber.go]
      exact (peekDigit_none r hr).bind htail
  | cons d ds ih =>
    intro sig fuel hf hmax htail
    obtain ⟨fuel, rfl, hle⟩ := exists_succ_of_lt (Nat.lt_of_lt_of_le (Nat.zero_lt_succ _) hf)
    have hd : d.isDigit = true := hds d (by simp)
    have hstep : Nat.ofDigitChars 10 (d :: ds) sig =
        Nat.ofDigitChars 10 ds (sig * 10 + digitOf d) := by
      rw [Nat.ofDigitChars_cons, Nat.mul_comm]
      rfl
    rw [hstep] at hmax htail
    have hbound := le_ofDigitChars ds (sig * 10 + digitOf d)
    rw [readNumber.go]
    refine (peekDigit_digit d _ hd).bind ?_
    simp only [overflows_eq_false (digitOf_lt hd) (Nat.le_trans hbound hmax), Bool.false_eq_true,
      if_false]
    exact (advance_reads _ _).bind
      (ih (fun c hc => hds c (by simp [hc])) _ fuel (by simp at hf; omega) hmax htail)

theorem toDigits_head (n : Nat) (hn : 0 < n) : ∃ c ds, Nat.toDigits 10 n = c :: ds ∧ c ≠ '0' := by
  induction n using Nat.strongRecOn with
  | ind n ih =>
    rw [Nat.toDigits_eq_if (by decide)]
    split
    · have hc : ∀ m, m < 10 → 0 < m → m.digitChar ≠ '0' := by decide
      exact ⟨_, [], rfl, hc n ‹_› hn⟩
    · obtain ⟨c, ds, hds, hc⟩ := ih (n / 10) (by omega) (by omega)
      exact ⟨c, ds ++ [Nat.digitChar (n % 10)], by rw [hds, List.cons_append], hc⟩

/-- Reading an integer written in decimal gives it back, when it is at most `2^64 - 1`, or
negative and at least `-2^63`; the sign has been read. -/
theorem readNumber_toDigits (positive : Bool) (n : Nat) (r : List Char) (hr : ValueEnd r)
    (hn : n ≤ 18446744073709551615) (hneg : positive = false → 0 < n ∧ n ≤ 2 ^ 63) :
    (readNumber positive).Reads (Nat.toDigits 10 n ++ r) r
      (.int (if positive then (n : Int) else -(n : Int))) := by
  have htail := readNumberTail_int positive n r hr hneg
  unfold readNumber
  rcases Nat.eq_zero_or_pos n with rfl | hpos
  · rw [Nat.toDigits_zero]
    refine (nextChar_reads '0' r).bind ?_
    exact (peekDigit_none r hr.not_digit).bind htail
  · obtain ⟨c, ds, hds, hc⟩ := toDigits_head n hpos
    have hdigit : ∀ x ∈ c :: ds, x.isDigit = true := fun x hx =>
      Nat.isDigit_of_mem_toDigits (by decide) (by decide) (hds ▸ hx)
    have hval : Nat.ofDigitChars 10 ds (digitOf c) = n := by
      have := Nat.ofDigitChars_ten_toDigits (n := n)
      rw [hds, Nat.ofDigitChars_cons] at this
      simpa [digitOf] using this
    rw [hds, List.cons_append]
    refine (nextChar_reads c _).bind ?_
    simp only [hdigit c (by simp), if_true]
    refine (budget_reads _).bind ?_
    exact readNumber_go_digits positive hr.not_digit ds (fun x hx => hdigit x (by simp [hx])) _ _
      (by simp; omega) (by rw [hval]; exact hn) (by rw [hval]; exact htail)

end Courier.Json
