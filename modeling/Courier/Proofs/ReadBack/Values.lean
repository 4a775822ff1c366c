import Courier.Proofs.ReadBack.Tokens

/-!
# Reading written values back

Reading the text the writer makes of a value does not always give the value back: a float is
written in its shortest form and read back to a neighbouring double, integers beyond 64 bits are
read as floats, an object's later entry for a key wins over an earlier one, and nesting is bounded.
`Value.Exact depth v` names the values for which none of this happens: no floats, integers from
`-2^63` to `2^64 - 1`, object keys in strictly increasing order, and containers nested fewer than
`depth` deep.

For such a value, `readAny` reads its text back to the value itself, before anything that may end a
value and at any fuel above the length of the text (`Value.Exact.readsBack`). The proof follows
`Value.Exact`: one lemma for each kind of value, and for arrays and objects the loop over the items
and over the entries. `Value.Faithful` admits floats as well, each where its own text reads back
(`FloatReadsBack`), and the same lemmas read such values back (`Value.Faithful.readsBack`).
-/

namespace Courier.Json

/-- A value whose text reads back to it exactly: no floats, integers within 64 bits (`-2^63` to
`2^64 - 1`), object keys in strictly increasing order, and containers nested fewer than `depth`
deep. -/
inductive Value.Exact : Nat → Value → Prop
  | null (depth : Nat) : Value.Exact depth .null
  | bool (depth : Nat) (b : Bool) : Value.Exact depth (.bool b)
  | int (depth : Nat) (i : Int) (hlo : -2 ^ 63 ≤ i) (hhi : i < 2 ^ 64) :
      Value.Exact depth (.num (.int i))
  | str (depth : Nat) (s : String) : Value.Exact depth (.str s)
  | arr (depth : Nat) (items : List Value) (hd : 1 < depth)
      (h : ∀ v ∈ items, Value.Exact (depth - 1) v) : Value.Exact depth (.arr items)
  | obj (depth : Nat) (entries : List (String × Value)) (hd : 1 < depth)
      (hsorted : entries.Pairwise fun a b => a.1 < b.1)
      (h : ∀ e ∈ entries, Value.Exact (depth - 1) e.2) : Value.Exact depth (.obj entries)

theorem Value.Exact.obj_inv {depth : Nat} {entries : List (String × Value)}
    (h : (Value.obj entries).Exact depth) :
    1 < depth ∧ (entries.Pairwise fun a b => a.1 < b.1) ∧ ∀ e ∈ entries, e.2.Exact (depth - 1) := by
  cases h with
  | obj _ _ hd hs h => exact ⟨hd, hs, h⟩

/-! ### The written text -/

/-- The text of an entry of an object: its quoted key, a colon and its value. -/
def entryText (e : String × Value) : List Char := (quote e.1).toList ++ ':' :: e.2.write.toList

theorem write_str_toList (s : String) :
    (Value.str s).write.toList = '"' :: (s.toList.flatMap fun c => (escapeChar c).toList) ++ ['"'] :=
  quote_toList s

theorem write_arr_toList (items : List Value) :
    (Value.arr items).write.toList = '[' :: (writeItems items).toList ++ [']'] := by
  simp [Value.write]

theorem write_obj_toList (entries : List (String × Value)) :
    (Value.obj entries).write.toList = '{' :: (writeEntries entries).toList ++ ['}'] := by
  simp [Value.write]

/-- The text of items after the first: each item after a comma. -/
def commaItems (items : List Value) : List Char := items.flatMap fun v => ',' :: v.write.toList

/-- The text of entries after the first: each entry after a comma. -/
def commaEntries (entries : List (String × Value)) : List Char :=
  entries.flatMap fun e => ',' :: entryText e

theorem writeItems_cons_toList (v : Value) (rest : List Value) :
    (writeItems (v :: rest)).toList = v.write.toList ++ commaItems rest := by
  induction rest generalizing v with
  | nil => simp [writeItems, commaItems]
  | cons w rest ih =>
    rw [writeItems]
    · simp [ih, commaItems]
    · simp

theorem writeEntries_cons_toList (e : String × Value) (rest : List (String × Value)) :
    (writeEntries (e :: rest)).toList = entryText e ++ commaEntries rest := by
  induction rest generalizing e with
  | nil => simp [writeEntries, entryText, commaEntries]
  | cons e' rest ih =>
    rw [writeEntries]
    · simp [ih, entryText, commaEntries]
    · simp

theorem entryText_eq (e : String × Value) :
    entryText e = '"' :: ((e.1.toList.flatMap fun c => (escapeChar c).toList) ++
      '"' :: ':' :: e.2.write.toList) := by
  simp [entryText, quote_toList]

theorem commaItems_cons (v : Value) (rest : List Value) :
    commaItems (v :: rest) = ',' :: v.write.toList ++ commaItems rest := rfl

theorem commaEntries_cons (e : String × Value) (rest : List (String × Value)) :
    commaEntries (e :: rest) = ',' :: entryText e ++ commaEntries rest := rfl

theorem write_length_le_entryText (e : String × Value) :
    e.2.write.toList.length + 3 ≤ (entryText e).length := by
  simp only [entryText_eq, List.length_cons, List.length_append]
  omega

theorem write_ofNat_toList (n : Nat) :
    (Value.num (.int (Int.ofNat n))).write.toList = Nat.toDigits 10 n := by
  show (Int.repr (Int.ofNat n)).toList = _
  simp [Int.repr]

theorem write_negSucc_toList (m : Nat) :
    (Value.num (.int (Int.negSucc m))).write.toList = '-' :: Nat.toDigits 10 (m + 1) := by
  show (Int.repr (Int.negSucc m)).toList = _
  simp [Int.repr]

theorem valueStart_of_isDigit {ch : Char} (h : ch.isDigit = true) : ValueStart ch := by
  have h' := Char.isDigit_iff_toNat.1 h
  have h0 : '0'.toNat = 48 := rfl
  have h9 : '9'.toNat = 57 := rfl
  refine ⟨?_, ?_, ?_, ?_⟩
  · rintro rfl; simp at h'
  · rintro rfl; simp at h'
  · rintro rfl; simp at h'
  · simp only [isJsonBlank, Bool.or_eq_false_iff, beq_eq_false_iff_ne]
    refine ⟨⟨⟨?_, ?_⟩, ?_⟩, ?_⟩ <;> rintro rfl <;> simp at h'

/-! ### Scalars -/

/-- `readAny` reads the text of `v` back, before anything that may end a value, at any fuel
above the length of the text. -/
def ReadsBack (depth : Nat) (v : Value) : Prop :=
  ∀ (fuel : Nat) (chain : List Segment) (r : List Char), ValueEnd r →
    v.write.toList.length < fuel → (readAny fuel depth chain).Reads (v.write.toList ++ r) r v

theorem readsBack_null (depth : Nat) : ReadsBack depth .null := by
  intro fuel chain r _ hf
  obtain ⟨fuel, rfl, -⟩ := exists_succ_of_lt hf
  have ht : Value.null.write.toList = 'n' :: "ull".toList := rfl
  rw [readAny, ht]
  refine (Scan.Reads.placed ?_).framed chain
  refine (blank_reads _ (by simp; decide)).bind ?_
  simp only [List.cons_append, List.head?_cons]
  exact (advance_reads _ _).bind ((readWord_reads _ _).bind (Scan.reads_pure _ _))

theorem readsBack_bool (depth : Nat) (b : Bool) : ReadsBack depth (.bool b) := by
  intro fuel chain r _ hf
  obtain ⟨fuel, rfl, -⟩ := exists_succ_of_lt hf
  have ht : (Value.bool b).write.toList =
      if b then 't' :: "rue".toList else 'f' :: "alse".toList := by
    cases b <;> simp [Value.write]
  rw [readAny, ht]
  refine (Scan.Reads.placed ?_).framed chain
  cases b <;>
  · refine (blank_reads _ (by simp; decide)).bind ?_
    simp only [Bool.false_eq_true, ↓reduceIte, List.cons_append, List.head?_cons]
    exact (advance_reads _ _).bind ((readWord_reads _ _).bind (Scan.reads_pure _ _))

theorem readsBack_str (depth : Nat) (s : String) : ReadsBack depth (.str s) := by
  intro fuel chain r _ hf
  obtain ⟨fuel, rfl, -⟩ := exists_succ_of_lt hf
  rw [readAny, write_str_toList]
  refine (Scan.Reads.placed ?_).framed chain
  refine (blank_reads _ (by simp; decide)).bind ?_
  simp only [List.cons_append, List.head?_cons, List.append_assoc]
  exact (advance_reads _ _).bind ((readStringBody_reads s r).map _)

theorem ne_of_isDigit {c : Char} (hc : c.isDigit = true) :
    c ≠ 'n' ∧ c ≠ 't' ∧ c ≠ 'f' ∧ c ≠ '-' ∧ c ≠ '"' ∧ c ≠ '[' ∧ c ≠ '{' := by
  refine ⟨?_, ?_, ?_, ?_, ?_, ?_, ?_⟩ <;> (rintro rfl; exact absurd hc (by decide))

theorem readAny_digit (fuel depth : Nat) (chain : List Segment) {c : Char} {rest r : List Char}
    {n : Number} (hc : c.isDigit = true) (h : (readNumber true).Reads (c :: rest) r n) :
    (readAny (fuel + 1) depth chain).Reads (c :: rest) r (.num n) := by
  obtain ⟨h1, h2, h3, h4, h5, h6, h7⟩ := ne_of_isDigit hc
  rw [readAny]
  refine (Scan.Reads.placed ?_).framed chain
  refine (blank_reads _ (by simpa using (valueStart_of_isDigit hc).2.2.2)).bind ?_
  simp only [List.head?_cons, hc, if_true]
  exact h.map _

theorem readsBack_int (depth : Nat) (i : Int) (hlo : -2 ^ 63 ≤ i) (hhi : i < 2 ^ 64) :
    ReadsBack depth (.num (.int i)) := by
  intro fuel chain r hr hf
  obtain ⟨fuel, rfl, -⟩ := exists_succ_of_lt hf
  cases i with
  | ofNat n =>
    have hn : n ≤ 18446744073709551615 := by
      simp only [Int.ofNat_eq_natCast] at hhi
      omega
    obtain ⟨c, ds, hds⟩ : ∃ c ds, Nat.toDigits 10 n = c :: ds :=
      List.exists_cons_of_ne_nil Nat.toDigits_ne_nil
    have hc : c.isDigit = true := Nat.isDigit_of_mem_toDigits (b := 10) (by decide) (by decide)
      (by rw [hds]; simp)
    have hread := readNumber_toDigits true n r hr hn (by simp)
    rw [hds] at hread
    rw [write_ofNat_toList, hds]
    exact readAny_digit fuel depth chain hc hread
  | negSucc m =>
    have hm : m + 1 ≤ 2 ^ 63 := by omega
    have hread := readNumber_toDigits false (m + 1) r hr (by omega) (fun _ => ⟨by omega, hm⟩)
    rw [readAny, write_negSucc_toList]
    refine (Scan.Reads.placed ?_).framed chain
    refine (blank_reads _ (by simp; decide)).bind ?_
    simp only [List.cons_append, List.head?_cons]
    have hv : Number.int (if false = true then ((m + 1 : Nat) : Int) else -((m + 1 : Nat) : Int)) =
        Number.int (Int.negSucc m) := by simp [Int.negSucc_eq]
    rw [← hv]
    exact (advance_reads _ _).bind (hread.map _)

/-! ### Arrays -/

theorem valueEnd_commaItems (items : List Value) (r : List Char) :
    ValueEnd (commaItems items ++ ']' :: r) := by
  cases items <;> simp [ValueEnd, commaItems]

theorem readItems_commas (depth : Nat) (chain : List Segment) (r : List Char)
    (items : List Value)
    (h : ∀ v ∈ items,
      (∃ ch rest, v.write.toList = ch :: rest ∧ ValueStart ch) ∧ ReadsBack depth v) :
    ∀ (fuel idx : Nat) (acc : List Value), (commaItems items).length < fuel →
      (readItems fuel depth chain false idx acc).Reads (commaItems items ++ ']' :: r) (']' :: r)
        (acc.reverse ++ items) := by
  induction items with
  | nil =>
    intro fuel idx acc hf
    obtain ⟨fuel, rfl, -⟩ := exists_succ_of_lt hf
    rw [readItems, List.append_nil]
    refine ((hasNextItem_close false r).framed _).bind ?_
    exact Scan.reads_pure _ _
  | cons v rest ih =>
    intro fuel idx acc hf
    obtain ⟨fuel, rfl, -⟩ := exists_succ_of_lt hf
    obtain ⟨⟨ch, vrest, hv, hch⟩, hback⟩ := h v (by simp)
    simp only [commaItems_cons, List.length_cons, List.length_append] at hf
    rw [readItems, commaItems_cons, hv]
    simp only [List.cons_append, List.append_assoc]
    refine ((hasNextItem_comma _ hch).framed _).bind ?_
    simp only [Bool.not_true, Bool.false_eq_true, if_false]
    have hitem := hback fuel (.index idx :: chain) (commaItems rest ++ ']' :: r)
      (valueEnd_commaItems rest r) (by omega)
    rw [hv, List.cons_append] at hitem
    have hnext := ih (fun w hw => h w (by simp [hw])) fuel (idx + 1) (v :: acc) (by omega)
    simp only [List.reverse_cons, List.append_assoc, List.singleton_append] at hnext
    exact hitem.bind hnext

theorem readItems_first (depth : Nat) (chain : List Segment) (r : List Char)
    (items : List Value)
    (h : ∀ v ∈ items,
      (∃ ch rest, v.write.toList = ch :: rest ∧ ValueStart ch) ∧ ReadsBack depth v)
    (fuel : Nat)
    (hf : (writeItems items).toList.length + 1 < fuel) :
    (readItems fuel depth chain true 0 []).Reads ((writeItems items).toList ++ ']' :: r)
      (']' :: r) items := by
  obtain ⟨fuel, rfl, -⟩ := exists_succ_of_lt hf
  cases items with
  | nil =>
    rw [readItems]
    refine ((hasNextItem_close true r).framed _).bind ?_
    exact Scan.reads_pure _ _
  | cons v rest =>
    obtain ⟨⟨ch, vrest, hv, hch⟩, hback⟩ := h v (by simp)
    rw [writeItems_cons_toList] at hf ⊢
    rw [readItems, List.append_assoc, hv, List.cons_append]
    refine ((hasNextItem_first _ hch).framed _).bind ?_
    simp only [Bool.not_true, Bool.false_eq_true, if_false]
    have hitem := hback fuel (.index 0 :: chain) (commaItems rest ++ ']' :: r)
      (valueEnd_commaItems rest r) (by simp only [List.length_append] at hf; omega)
    rw [hv, List.cons_append] at hitem
    have hnext := readItems_commas depth chain r rest (fun w hw => h w (by simp [hw])) fuel 1 [v]
      (by simp only [List.length_append] at hf; omega)
    simpa using hitem.bind hnext

theorem readsBack_arr (depth : Nat) (items : List Value) (hd : 1 < depth)
    (h : ∀ v ∈ items,
      (∃ ch rest, v.write.toList = ch :: rest ∧ ValueStart ch) ∧ ReadsBack (depth - 1) v) :
    ReadsBack depth (.arr items) := by
  intro fuel chain r _ hf
  obtain ⟨fuel, rfl, -⟩ := exists_succ_of_lt hf
  rw [write_arr_toList] at hf ⊢
  rw [readAny]
  refine (Scan.Reads.placed ?_).framed chain
  refine (blank_reads _ (by simp; decide)).bind ?_
  simp only [List.cons_append, List.head?_cons, List.append_assoc]
  rw [nest_of_lt _ hd]
  have hitems := readItems_first (depth - 1) chain r items h fuel
    (by simp only [List.length_cons, List.length_append] at hf; omega)
  exact (advance_reads _ _).bind (hitems.attempt.bind ((closeArray_reads r).attempt.bind
    ((Scan.reads_pure _ _).map _)))

/-! ### Objects -/

theorem setEntry_of_lt (k : String) (v : Value) (acc : List (String × Value))
    (h : ∀ a ∈ acc, a.1 < k) : setEntry k v acc = acc ++ [(k, v)] := by
  induction acc with
  | nil => rfl
  | cons a rest ih =>
    have ha : a.1 < k := h a (by simp)
    rw [setEntry, if_neg (String.lt_asymm ha), if_neg (String.ne_of_lt ha).symm,
      ih fun b hb => h b (by simp [hb])]
    rfl

theorem foldl_setEntry_sorted (entries : List (String × Value))
    (hs : entries.Pairwise fun a b => a.1 < b.1) :
    ∀ acc : List (String × Value), (∀ a ∈ acc, ∀ b ∈ entries, a.1 < b.1) →
      entries.foldl (fun acc e => setEntry e.1 e.2 acc) acc = acc ++ entries := by
  induction entries with
  | nil => simp
  | cons e rest ih =>
    intro acc hacc
    obtain ⟨he, hrest⟩ := List.pairwise_cons.1 hs
    rw [List.foldl_cons, setEntry_of_lt e.1 e.2 acc fun a ha => hacc a ha e (by simp)]
    have hnext := ih hrest (acc ++ [e]) (by
      intro a ha b hb
      rcases List.mem_append.1 ha with ha | ha
      · exact hacc a ha b (by simp [hb])
      · rw [List.mem_singleton.1 ha]
        exact he b hb)
    simpa using hnext

theorem valueEnd_commaEntries (entries : List (String × Value)) (r : List Char) :
    ValueEnd (commaEntries entries ++ '}' :: r) := by
  cases entries <;> simp [ValueEnd, commaEntries]

theorem readMembers_commas (depth : Nat) (chain : List Segment) (r : List Char)
    (entries : List (String × Value)) (h : ∀ e ∈ entries, ReadsBack depth e.2) :
    ∀ (fuel : Nat) (acc : List (String × Value)), (commaEntries entries).length < fuel →
      (readMembers fuel depth chain false acc).Reads (commaEntries entries ++ '}' :: r) ('}' :: r)
        (entries.foldl (fun acc e => setEntry e.1 e.2 acc) acc) := by
  induction entries with
  | nil =>
    intro fuel acc hf
    obtain ⟨fuel, rfl, -⟩ := exists_succ_of_lt hf
    rw [readMembers]
    refine ((hasNextKey_close false r).framed _).bind ?_
    exact Scan.reads_pure _ _
  | cons e rest ih =>
    intro fuel acc hf
    obtain ⟨fuel, rfl, -⟩ := exists_succ_of_lt hf
    have hlen := write_length_le_entryText e
    simp only [commaEntries_cons, List.length_cons, List.length_append] at hf
    rw [readMembers, commaEntries_cons, entryText_eq]
    simp only [List.cons_append, List.append_assoc]
    refine ((hasNextKey_comma _).framed _).bind ?_
    simp only [Bool.not_true, Bool.false_eq_true, if_false]
    refine Scan.Reads.bind
      (Scan.Reads.framed ((advance_reads '"' _).bind (readStringBody_reads e.1 _)) _) ?_
    refine Scan.Reads.bind (Scan.Reads.framed ((readColon_reads _).bind
      (h e (by simp) fuel (.key e.1 :: chain) _ (valueEnd_commaEntries rest r) (by omega))) _) ?_
    exact ih (fun x hx => h x (by simp [hx])) fuel _ (by omega)

theorem readMembers_first (depth : Nat) (chain : List Segment) (r : List Char)
    (entries : List (String × Value)) (h : ∀ e ∈ entries, ReadsBack depth e.2)
    (fuel : Nat) (hf : (writeEntries entries).toList.length + 1 < fuel) :
    (readMembers fuel depth chain true []).Reads ((writeEntries entries).toList ++ '}' :: r)
      ('}' :: r) (entries.foldl (fun acc e => setEntry e.1 e.2 acc) []) := by
  obtain ⟨fuel, rfl, -⟩ := exists_succ_of_lt hf
  cases entries with
  | nil =>
    rw [readMembers]
    refine ((hasNextKey_close true r).framed _).bind ?_
    exact Scan.reads_pure _ _
  | cons e rest =>
    have hlen := write_length_le_entryText e
    rw [writeEntries_cons_toList] at hf ⊢
    simp only [List.length_append] at hf
    rw [readMembers, entryText_eq]
    simp only [List.cons_append, List.append_assoc]
    refine ((hasNextKey_first _).framed _).bind ?_
    simp only [Bool.not_true, Bool.false_eq_true, if_false]
    refine Scan.Reads.bind
      (Scan.Reads.framed ((advance_reads '"' _).bind (readStringBody_reads e.1 _)) _) ?_
    refine Scan.Reads.bind (Scan.Reads.framed ((readColon_reads _).bind
      (h e (by simp) fuel (.key e.1 :: chain) _ (valueEnd_commaEntries rest r) (by omega))) _) ?_
    have hrest := readMembers_commas depth chain r rest (fun x hx => h x (by simp [hx])) fuel
      (setEntry e.1 e.2 []) (by omega)
    simpa using hrest

theorem readsBack_obj (depth : Nat) (entries : List (String × Value)) (hd : 1 < depth)
    (hs : entries.Pairwise fun a b => a.1 < b.1) (h : ∀ e ∈ entries, ReadsBack (depth - 1) e.2) :
    ReadsBack depth (.obj entries) := by
  intro fuel chain r _ hf
  obtain ⟨fuel, rfl, -⟩ := exists_succ_of_lt hf
  rw [write_obj_toList] at hf ⊢
  rw [readAny]
  refine (Scan.Reads.placed ?_).framed chain
  refine (blank_reads _ (by simp; decide)).bind ?_
  simp only [List.cons_append, List.head?_cons, List.append_assoc]
  rw [nest_of_lt _ hd]
  have hmembers := readMembers_first (depth - 1) chain r entries h fuel
    (by simp only [List.length_cons, List.length_append] at hf; omega)
  -- the keys come in increasing order, so putting each entry in place keeps them as written
  rw [foldl_setEntry_sorted entries hs [] (by simp), List.nil_append] at hmembers
  exact (advance_reads _ _).bind (hmembers.attempt.bind ((closeObject_reads r).attempt.bind
    ((Scan.reads_pure _ _).map _)))

/-! ### Floats that read back -/

/-- A float whose text reads back: the text starts like a value, and `readAny` reads it, before
anything that may end a value, as the float itself. The writer's shortest form and the reader's
scaling by a power of ten agree on most floats, not on all. -/
def FloatReadsBack (f : Float) : Prop :=
  (∃ ch rest, (Value.num (.float f)).write.toList = ch :: rest ∧ ValueStart ch) ∧
    ∀ depth, ReadsBack depth (.num (.float f))

/-- A value whose text reads back to it: as `Value.Exact`, but floats may stand in it where their
text reads back. -/
inductive Value.Faithful : Nat → Value → Prop
  | null (depth : Nat) : Value.Faithful depth .null
  | bool (depth : Nat) (b : Bool) : Value.Faithful depth (.bool b)
  | int (depth : Nat) (i : Int) (hlo : -2 ^ 63 ≤ i) (hhi : i < 2 ^ 64) :
      Value.Faithful depth (.num (.int i))
  | float (depth : Nat) (f : Float) (h : FloatReadsBack f) : Value.Faithful depth (.num (.float f))
  | str (depth : Nat) (s : String) : Value.Faithful depth (.str s)
  | arr (depth : Nat) (items : List Value) (hd : 1 < depth)
      (h : ∀ v ∈ items, Value.Faithful (depth - 1) v) : Value.Faithful depth (.arr items)
  | obj (depth : Nat) (entries : List (String × Value)) (hd : 1 < depth)
      (hsorted : entries.Pairwise fun a b => a.1 < b.1)
      (h : ∀ e ∈ entries, Value.Faithful (depth - 1) e.2) : Value.Faithful depth (.obj entries)

theorem Value.Exact.faithful {depth : Nat} {v : Value} (h : v.Exact depth) : v.Faithful depth := by
  induction h with
  | null depth => exact .null depth
  | bool depth b => exact .bool depth b
  | int depth i hlo hhi => exact .int depth i hlo hhi
  | str depth s => exact .str depth s
  | arr depth items hd _ ih => exact .arr depth items hd ih
  | obj depth entries hd hs _ ih => exact .obj depth entries hd hs ih

theorem Value.Faithful.obj_inv {depth : Nat} {entries : List (String × Value)}
    (h : (Value.obj entries).Faithful depth) :
    1 < depth ∧ (entries.Pairwise fun a b => a.1 < b.1) ∧
      ∀ e ∈ entries, e.2.Faithful (depth - 1) := by
  cases h with
  | obj _ _ hd hs h => exact ⟨hd, hs, h⟩

theorem Value.Faithful.write_head {d : Nat} {v : Value} (h : v.Faithful d) :
    ∃ ch rest, v.write.toList = ch :: rest ∧ ValueStart ch := by
  cases h with
  | null => exact ⟨'n', _, rfl, by decide⟩
  | bool _ b => cases b <;> exact ⟨_, _, rfl, by decide⟩
  | int _ i =>
    cases i with
    | ofNat n =>
      obtain ⟨ch, rest, hds⟩ : ∃ ch rest, Nat.toDigits 10 n = ch :: rest :=
        List.exists_cons_of_ne_nil Nat.toDigits_ne_nil
      refine ⟨ch, rest, by rw [write_ofNat_toList, hds], valueStart_of_isDigit ?_⟩
      exact Nat.isDigit_of_mem_toDigits (b := 10) (by decide) (by decide) (by rw [hds]; simp)
    | negSucc m => exact ⟨'-', _, write_negSucc_toList m, by decide⟩
  | float _ f hf => exact hf.1
  | str _ s => exact ⟨'"', _, by rw [write_str_toList, List.cons_append], by decide⟩
  | arr _ items => exact ⟨'[', _, write_arr_toList items, by decide⟩
  | obj _ entries => exact ⟨'{', _, write_obj_toList entries, by decide⟩

/-- Reading the text of a value whose floats read back, before anything that may end a value,
gives the value back. -/
theorem Value.Faithful.readsBack {depth : Nat} {v : Value} (h : v.Faithful depth) :
    ReadsBack depth v := by
  induction h with
  | null depth => exact readsBack_null depth
  | bool depth b => exact readsBack_bool depth b
  | int depth i hlo hhi => exact readsBack_int depth i hlo hhi
  | float depth f hf => exact hf.2 depth
  | str depth s => exact readsBack_str depth s
  | arr depth items hd h ih =>
    exact readsBack_arr depth items hd fun v hv => ⟨(h v hv).write_head, ih v hv⟩
  | obj depth entries hd hs _ ih => exact readsBack_obj depth entries hd hs ih

/-- Reading the text of an exact value, before anything that may end a value, gives the value
back. -/
theorem Value.Exact.readsBack {depth : Nat} {v : Value} (h : v.Exact depth) :
    ReadsBack depth v :=
  h.faithful.readsBack

end Courier.Json
