import Courier.Proofs.ReadBack.Values

/-!
# Reading written values back against a shape

A shape guides the reader through a text: a record reads the entries of an object by field, a
list its items, a map its entries, an optional field `null` or its inner shape. Every shape costs
fuel for each level it goes into, so the fuel the reader needs is the length of the text plus the
depth of the shape (`ShapeReadsBack`).

The lemmas here follow the shapes: one for each kind of leaf, the item loop of lists and the entry
loop of maps, and the field loop of records, which reads entries with distinct keys, each by the
shape of its field (`readShape_record`). A text read whole is the value read from it when nothing
but blanks follows (`readText_eq`); for an exact value, `Value.parse` gives it back
(`Value.parse_write`).
-/

namespace Courier.Json

/-- `readShape` reads the text of `v` back against `shape`, before anything that may end a
value, at any fuel above the length of the text and the depth of the shape. -/
def ShapeReadsBack (depth : Nat) (shape : Shape) (v : Value) : Prop :=
  ∀ (fuel : Nat) (chain : List Segment) (r : List Char), ValueEnd r →
    v.write.toList.length + shape.depth < fuel →
      (readShape fuel depth chain shape).Reads (v.write.toList ++ r) r v

/-! ### Leaves -/

theorem shapeReadsBack_any {depth : Nat} {v : Value} (h : ReadsBack depth v) :
    ShapeReadsBack depth .any v := by
  intro fuel chain r hr hf
  obtain ⟨fuel, rfl, -⟩ := exists_succ_of_lt hf
  rw [readShape]
  exact h fuel chain r hr (by simp only [Shape.depth] at hf; omega)

theorem shapeReadsBack_text (depth : Nat) (s : String) : ShapeReadsBack depth .text (.str s) := by
  intro fuel chain r _ hf
  obtain ⟨fuel, rfl, -⟩ := exists_succ_of_lt hf
  rw [readShape, write_str_toList]
  refine (Scan.Reads.placed ?_).framed chain
  refine (blank_reads _ (by simp; decide)).bind ?_
  simp only [List.cons_append, List.head?_cons, List.append_assoc]
  exact (advance_reads _ _).bind ((readStringBody_reads s r).map _)

theorem shapeReadsBack_optional_null (depth : Nat) (inner : Shape) :
    ShapeReadsBack depth (.optional inner) .null := by
  intro fuel chain r _ hf
  obtain ⟨fuel, rfl, -⟩ := exists_succ_of_lt hf
  have ht : Value.null.write.toList = 'n' :: "ull".toList := rfl
  rw [readShape, ht]
  refine Scan.Reads.framed ?_ chain
  refine (blank_reads _ (by simp; decide)).bind ?_
  simp only [List.cons_append, List.head?_cons]
  exact (advance_reads _ _).bind ((readWord_reads _ _).bind (Scan.reads_pure _ _))

theorem shapeReadsBack_optional {depth : Nat} {inner : Shape} {v : Value}
    (h : ShapeReadsBack depth inner v) {ch : Char} {rest : List Char}
    (hv : v.write.toList = ch :: rest) (hch : ValueStart ch) (hn : ch ≠ 'n') :
    ShapeReadsBack depth (.optional inner) v := by
  intro fuel chain r hr hf
  obtain ⟨fuel, rfl, hle⟩ := exists_succ_of_lt hf
  have hinner := h fuel chain r hr (by simp only [Shape.depth] at hle; omega)
  rw [hv] at hinner ⊢
  rw [readShape]
  refine Scan.Reads.framed ?_ chain
  refine (blank_reads _ (by simpa using hch.2.2.2)).bind ?_
  simp only [List.cons_append, List.head?_cons]
  split
  · rename_i heq
    exact absurd (Option.some.inj heq) hn
  · exact hinner

theorem shapeReadsBack_optional_text (depth : Nat) (s : String) :
    ShapeReadsBack depth (.optional .text) (.str s) :=
  shapeReadsBack_optional (shapeReadsBack_text depth s) (write_str_toList s) (by decide) (by decide)

theorem shapeReadsBack_optStr (depth : Nat) (s : Option String) :
    ShapeReadsBack depth (.optional .text) (.optStr s) := by
  cases s with
  | none => exact shapeReadsBack_optional_null depth .text
  | some s => exact shapeReadsBack_optional_text depth s

theorem shapeReadsBack_natural (depth : Nat) (max : Nat) (name : String) (n : Nat) (hn : n ≤ max)
    (hmax : max ≤ 18446744073709551615) : ShapeReadsBack depth (.natural max name) (.nat n) := by
  intro fuel chain r hr hf
  obtain ⟨fuel, rfl, -⟩ := exists_succ_of_lt hf
  obtain ⟨c, ds, hds⟩ : ∃ c ds, Nat.toDigits 10 n = c :: ds :=
    List.exists_cons_of_ne_nil Nat.toDigits_ne_nil
  have hc : c.isDigit = true := Nat.isDigit_of_mem_toDigits (b := 10) (by decide) (by decide)
    (by rw [hds]; simp)
  obtain ⟨-, -, -, h4, -, -, -⟩ := ne_of_isDigit hc
  have hread := readNumber_toDigits true n r hr (Nat.le_trans hn hmax) (by simp)
  rw [hds] at hread
  have hfit : fitNatural max name (.int (if true = true then (n : Int) else -(n : Int))) =
      pure (.nat n) := by
    have hpos : ¬ (n : Int) < 0 := by omega
    simp [fitNatural, hn, hpos]
  have ht : (Value.nat n).write.toList = c :: ds := by
    rw [Value.nat, ← hds]
    exact write_ofNat_toList n
  rw [readShape, ht]
  refine (Scan.Reads.placed ?_).framed chain
  refine (blank_reads _ (by simpa using (valueStart_of_isDigit hc).2.2.2)).bind ?_
  simp only [List.cons_append, List.head?_cons, hc, if_true]
  refine hread.bind ?_
  rw [hfit]
  exact Scan.reads_pure _ _

theorem shapeReadsBack_choice (depth : Nat) (variants : List String) (s : String)
    (hs : variants.contains s = true) : ShapeReadsBack depth (.choice variants) (.str s) := by
  intro fuel chain r _ hf
  obtain ⟨fuel, rfl, -⟩ := exists_succ_of_lt hf
  rw [readShape, write_str_toList]
  refine Scan.Reads.framed ?_ chain
  unfold readChoice
  refine (blank_reads _ (by simp; decide)).bind ?_
  simp only [List.cons_append, List.head?_cons, List.append_assoc]
  refine Scan.Reads.map ?_ _
  unfold readVariantName
  refine Scan.Reads.placed ?_
  refine (blank_reads _ (by simp; decide)).bind ?_
  simp only [List.head?_cons]
  refine (advance_reads _ _).bind ((readStringBody_reads s r).bind ?_)
  simp only [hs, if_true]
  exact Scan.reads_pure _ _

/-! ### Lists and maps -/

/-- An item of a list read against a shape: it is read back, and its text starts like a
value. -/
def ItemReadsBack (depth : Nat) (item : Shape) (v : Value) : Prop :=
  ShapeReadsBack depth item v ∧ ∃ ch rest, v.write.toList = ch :: rest ∧ ValueStart ch

theorem readList_commas (depth : Nat) (chain : List Segment) (item : Shape) (r : List Char)
    (items : List Value) (h : ∀ v ∈ items, ItemReadsBack depth item v) :
    ∀ (fuel idx : Nat) (acc : List Value), (commaItems items).length + item.depth < fuel →
      (readList fuel depth chain item false idx acc).Reads (commaItems items ++ ']' :: r)
        (']' :: r) (acc.reverse ++ items) := by
  induction items with
  | nil =>
    intro fuel idx acc hf
    obtain ⟨fuel, rfl, -⟩ := exists_succ_of_lt hf
    rw [readList, List.append_nil]
    refine ((hasNextItem_close false r).framed _).bind ?_
    exact Scan.reads_pure _ _
  | cons v rest ih =>
    intro fuel idx acc hf
    obtain ⟨fuel, rfl, -⟩ := exists_succ_of_lt hf
    obtain ⟨hback, ch, vrest, hv, hch⟩ := h v (by simp)
    simp only [commaItems_cons, List.length_cons, List.length_append] at hf
    rw [readList, commaItems_cons, hv]
    simp only [List.cons_append, List.append_assoc]
    refine ((hasNextItem_comma _ hch).framed _).bind ?_
    simp only [Bool.not_true, Bool.false_eq_true, if_false]
    have hitem := hback fuel (.index idx :: chain) (commaItems rest ++ ']' :: r)
      (valueEnd_commaItems rest r) (by omega)
    rw [hv, List.cons_append] at hitem
    have hnext := ih (fun w hw => h w (by simp [hw])) fuel (idx + 1) (v :: acc) (by omega)
    simp only [List.reverse_cons, List.append_assoc, List.singleton_append] at hnext
    exact hitem.bind hnext

theorem readList_first (depth : Nat) (chain : List Segment) (item : Shape) (r : List Char)
    (items : List Value) (h : ∀ v ∈ items, ItemReadsBack depth item v) (fuel : Nat)
    (hf : (writeItems items).toList.length + item.depth + 1 < fuel) :
    (readList fuel depth chain item true 0 []).Reads ((writeItems items).toList ++ ']' :: r)
      (']' :: r) items := by
  obtain ⟨fuel, rfl, -⟩ := exists_succ_of_lt hf
  cases items with
  | nil =>
    rw [readList]
    refine ((hasNextItem_close true r).framed _).bind ?_
    exact Scan.reads_pure _ _
  | cons v rest =>
    obtain ⟨hback, ch, vrest, hv, hch⟩ := h v (by simp)
    rw [writeItems_cons_toList] at hf ⊢
    simp only [List.length_append] at hf
    rw [readList, List.append_assoc, hv, List.cons_append]
    refine ((hasNextItem_first _ hch).framed _).bind ?_
    simp only [Bool.not_true, Bool.false_eq_true, if_false]
    have hitem := hback fuel (.index 0 :: chain) (commaItems rest ++ ']' :: r)
      (valueEnd_commaItems rest r) (by omega)
    rw [hv, List.cons_append] at hitem
    have hnext := readList_commas depth chain item r rest (fun w hw => h w (by simp [hw])) fuel 1
      [v] (by omega)
    simpa using hitem.bind hnext

theorem shapeReadsBack_list (depth : Nat) (item : Shape) (items : List Value) (hd : 1 < depth)
    (h : ∀ v ∈ items, ItemReadsBack (depth - 1) item v) :
    ShapeReadsBack depth (.list item) (.arr items) := by
  intro fuel chain r _ hf
  obtain ⟨fuel, rfl, -⟩ := exists_succ_of_lt hf
  rw [write_arr_toList] at hf ⊢
  rw [readShape]
  refine (Scan.Reads.placed ?_).framed chain
  refine (blank_reads _ (by simp; decide)).bind ?_
  simp only [List.cons_append, List.head?_cons, List.append_assoc]
  rw [nest_of_lt _ hd]
  have hitems := readList_first (depth - 1) chain item r items h fuel
    (by simp only [Shape.depth, List.length_cons, List.length_append] at hf; omega)
  exact (advance_reads _ _).bind (hitems.attempt.bind ((closeArray_reads r).attempt.bind
    ((Scan.reads_pure _ _).map _)))

theorem readDict_commas (depth : Nat) (chain : List Segment) (item : Shape) (r : List Char)
    (entries : List (String × Value)) (h : ∀ e ∈ entries, ShapeReadsBack depth item e.2) :
    ∀ (fuel : Nat) (acc : List (String × Value)),
      (commaEntries entries).length + item.depth < fuel →
      (readDict fuel depth chain item false acc).Reads (commaEntries entries ++ '}' :: r)
        ('}' :: r) (entries.foldl (fun acc e => setEntry e.1 e.2 acc) acc) := by
  induction entries with
  | nil =>
    intro fuel acc hf
    obtain ⟨fuel, rfl, -⟩ := exists_succ_of_lt hf
    rw [readDict]
    refine ((hasNextKey_close false r).framed _).bind ?_
    exact Scan.reads_pure _ _
  | cons e rest ih =>
    intro fuel acc hf
    obtain ⟨fuel, rfl, -⟩ := exists_succ_of_lt hf
    have hlen := write_length_le_entryText e
    simp only [commaEntries_cons, List.length_cons, List.length_append] at hf
    rw [readDict, commaEntries_cons, entryText_eq]
    simp only [List.cons_append, List.append_assoc]
    refine ((hasNextKey_comma _).framed _).bind ?_
    simp only [Bool.not_true, Bool.false_eq_true, if_false]
    refine Scan.Reads.bind
      (Scan.Reads.framed ((advance_reads '"' _).bind (readStringBody_reads e.1 _)) _) ?_
    refine Scan.Reads.bind (Scan.Reads.framed ((readColon_reads _).bind
      (h e (by simp) fuel (.key e.1 :: chain) _ (valueEnd_commaEntries rest r) (by omega))) _) ?_
    exact ih (fun x hx => h x (by simp [hx])) fuel _ (by omega)

theorem readDict_first (depth : Nat) (chain : List Segment) (item : Shape) (r : List Char)
    (entries : List (String × Value)) (h : ∀ e ∈ entries, ShapeReadsBack depth item e.2)
    (fuel : Nat) (hf : (writeEntries entries).toList.length + item.depth + 1 < fuel) :
    (readDict fuel depth chain item true []).Reads ((writeEntries entries).toList ++ '}' :: r)
      ('}' :: r) (entries.foldl (fun acc e => setEntry e.1 e.2 acc) []) := by
  obtain ⟨fuel, rfl, -⟩ := exists_succ_of_lt hf
  cases entries with
  | nil =>
    rw [readDict]
    refine ((hasNextKey_close true r).framed _).bind ?_
    exact Scan.reads_pure _ _
  | cons e rest =>
    have hlen := write_length_le_entryText e
    rw [writeEntries_cons_toList] at hf ⊢
    simp only [List.length_append] at hf
    rw [readDict, entryText_eq]
    simp only [List.cons_append, List.append_assoc]
    refine ((hasNextKey_first _).framed _).bind ?_
    simp only [Bool.not_true, Bool.false_eq_true, if_false]
    refine Scan.Reads.bind
      (Scan.Reads.framed ((advance_reads '"' _).bind (readStringBody_reads e.1 _)) _) ?_
    refine Scan.Reads.bind (Scan.Reads.framed ((readColon_reads _).bind
      (h e (by simp) fuel (.key e.1 :: chain) _ (valueEnd_commaEntries rest r) (by omega))) _) ?_
    have hrest := readDict_commas depth chain item r rest (fun x hx => h x (by simp [hx])) fuel
      (setEntry e.1 e.2 []) (by omega)
    simpa using hrest

theorem shapeReadsBack_dict (depth : Nat) (item : Shape) (entries : List (String × Value))
    (hd : 1 < depth) (hs : entries.Pairwise fun a b => a.1 < b.1)
    (h : ∀ e ∈ entries, ShapeReadsBack (depth - 1) item e.2) :
    ShapeReadsBack depth (.dict item) (.obj entries) := by
  intro fuel chain r _ hf
  obtain ⟨fuel, rfl, -⟩ := exists_succ_of_lt hf
  rw [write_obj_toList] at hf ⊢
  rw [readShape]
  refine (Scan.Reads.placed ?_).framed chain
  refine (blank_reads _ (by simp; decide)).bind ?_
  simp only [List.cons_append, List.head?_cons, List.append_assoc]
  rw [nest_of_lt _ hd]
  have hentries := readDict_first (depth - 1) chain item r entries h fuel
    (by simp only [Shape.depth, List.length_cons, List.length_append] at hf; omega)
  rw [foldl_setEntry_sorted entries hs [] (by simp), List.nil_append] at hentries
  exact (advance_reads _ _).bind (hentries.attempt.bind ((closeObject_reads r).attempt.bind
    ((Scan.reads_pure _ _).map _)))

/-! ### Records -/

/-- An entry that a record reads back: its key names a field whose shape reads its value back
and is at most `m` deep. -/
def FieldReadsBack (depth : Nat) (fields : List (String × Shape × Bool)) (m : Nat)
    (e : String × Value) : Prop :=
  ∃ s d, fields.find? (fun f => f.1 == e.1) = some (e.1, s, d) ∧ s.depth ≤ m ∧
    ShapeReadsBack depth s e.2

theorem lookup_none_cons {k : String} {e : String × Value} {seen : List (String × Value)}
    (hne : k ≠ e.1) (h : seen.lookup k = none) : (e :: seen).lookup k = none := by
  obtain ⟨k', v⟩ := e
  have hb : (k == k') = false := beq_eq_false_iff_ne.2 hne
  rw [List.lookup_cons, hb]
  exact h

theorem readFieldEntries_commas (depth : Nat) (chain : List Segment)
    (fields : List (String × Shape × Bool)) (m : Nat) (r : List Char)
    (entries : List (String × Value)) (h : ∀ e ∈ entries, FieldReadsBack depth fields m e)
    (hkeys : (entries.map Prod.fst).Nodup) :
    ∀ (fuel : Nat) (seen : List (String × Value)), (∀ e ∈ entries, seen.lookup e.1 = none) →
      (commaEntries entries).length + m < fuel →
      (readFieldEntries fuel depth chain fields false seen).Reads
        (commaEntries entries ++ '}' :: r) ('}' :: r) (entries.reverse ++ seen) := by
  induction entries with
  | nil =>
    intro fuel seen _ hf
    obtain ⟨fuel, rfl, -⟩ := exists_succ_of_lt hf
    rw [readFieldEntries]
    refine ((hasNextKey_close false r).framed _).bind ?_
    exact Scan.reads_pure _ _
  | cons e rest ih =>
    intro fuel seen hseen hf
    obtain ⟨fuel, rfl, -⟩ := exists_succ_of_lt hf
    obtain ⟨s, d, hfind, hdepth, hback⟩ := h e (by simp)
    have hlen := write_length_le_entryText e
    simp only [commaEntries_cons, List.length_cons, List.length_append] at hf
    rw [readFieldEntries, commaEntries_cons, entryText_eq]
    simp only [List.cons_append, List.append_assoc]
    refine ((hasNextKey_comma _).framed _).bind ?_
    simp only [Bool.not_true, Bool.false_eq_true, if_false]
    refine Scan.Reads.bind
      (Scan.Reads.framed ((advance_reads '"' _).bind (readStringBody_reads e.1 _)) _) ?_
    simp only [hfind, hseen e (by simp), Option.isSome_none, Bool.false_eq_true, if_false]
    refine Scan.Reads.bind (Scan.Reads.framed ((readColon_reads _).bind
      (hback fuel (.key e.1 :: chain) _ (valueEnd_commaEntries rest r) (by omega))) _) ?_
    obtain ⟨hnotin, hnodup⟩ := List.nodup_cons.1 hkeys
    have hnext := ih (fun x hx => h x (by simp [hx])) hnodup fuel (e :: seen)
      (fun x hx => lookup_none_cons (fun heq => hnotin (heq ▸ List.mem_map_of_mem hx))
        (hseen x (by simp [hx])))
      (by omega)
    simpa using hnext

theorem readFieldEntries_first (depth : Nat) (chain : List Segment)
    (fields : List (String × Shape × Bool)) (m : Nat) (r : List Char)
    (entries : List (String × Value)) (h : ∀ e ∈ entries, FieldReadsBack depth fields m e)
    (hkeys : (entries.map Prod.fst).Nodup) (fuel : Nat)
    (hf : (writeEntries entries).toList.length + m + 1 < fuel) :
    (readFieldEntries fuel depth chain fields true []).Reads
      ((writeEntries entries).toList ++ '}' :: r) ('}' :: r) entries.reverse := by
  obtain ⟨fuel, rfl, -⟩ := exists_succ_of_lt hf
  cases entries with
  | nil =>
    rw [readFieldEntries]
    refine ((hasNextKey_close true r).framed _).bind ?_
    exact Scan.reads_pure _ _
  | cons e rest =>
    obtain ⟨s, d, hfind, hdepth, hback⟩ := h e (by simp)
    have hlen := write_length_le_entryText e
    rw [writeEntries_cons_toList] at hf ⊢
    simp only [List.length_append] at hf
    rw [readFieldEntries, entryText_eq]
    simp only [List.cons_append, List.append_assoc]
    refine ((hasNextKey_first _).framed _).bind ?_
    simp only [Bool.not_true, Bool.false_eq_true, if_false]
    refine Scan.Reads.bind
      (Scan.Reads.framed ((advance_reads '"' _).bind (readStringBody_reads e.1 _)) _) ?_
    simp only [hfind, List.lookup_nil, Option.isSome_none, Bool.false_eq_true, if_false]
    refine Scan.Reads.bind (Scan.Reads.framed ((readColon_reads _).bind
      (hback fuel (.key e.1 :: chain) _ (valueEnd_commaEntries rest r) (by omega))) _) ?_
    obtain ⟨hnotin, hnodup⟩ := List.nodup_cons.1 hkeys
    have hnext := readFieldEntries_commas depth chain fields m r rest
      (fun x hx => h x (by simp [hx])) hnodup fuel [e]
      (fun x hx => lookup_none_cons (fun heq => hnotin (heq ▸ List.mem_map_of_mem hx)) rfl)
      (by omega)
    simpa using hnext

/-- Reading the text of an object against a record shape whose fields read back each entry, the
keys all distinct, gives the record the entries complete. -/
theorem readShape_record (depth : Nat) (chain : List Segment) (name : String)
    (fields : List (String × Shape × Bool)) (m : Nat) (r : List Char)
    (entries : List (String × Value)) (h : ∀ e ∈ entries, FieldReadsBack (depth - 1) fields m e)
    (hkeys : (entries.map Prod.fst).Nodup) (hd : 1 < depth) {v : Value}
    (hv : completeFields fields entries.reverse = .ok v) (fuel : Nat)
    (hf : (Value.obj entries).write.toList.length + m < fuel) :
    (readShape fuel depth chain (.record name fields)).Reads
      ((Value.obj entries).write.toList ++ r) r v := by
  obtain ⟨fuel, rfl, -⟩ := exists_succ_of_lt hf
  rw [write_obj_toList] at hf ⊢
  rw [readShape]
  refine (Scan.Reads.placed ?_).framed chain
  refine (blank_reads _ (by simp; decide)).bind ?_
  simp only [List.cons_append, List.head?_cons, List.append_assoc]
  rw [nest_of_lt _ hd]
  have hentries := readFieldEntries_first (depth - 1) chain fields m r entries h hkeys fuel
    (by simp only [List.length_cons, List.length_append] at hf; omega)
  refine (advance_reads _ _).bind (Scan.Reads.bind (a := Except.ok v) ?_
    ((closeObject_reads r).attempt.bind (Scan.reads_pure _ _)))
  refine Scan.Reads.attempt (hentries.bind ?_)
  rw [hv]
  exact Scan.reads_pure _ _

/-! ### Whole texts -/

theorem readText_eq {shape : Shape} {text : String} {v : Value}
    (h : (readShape (readFuel text shape) nestingLimit [] shape).Reads text.toList [] v) :
    shape.readText text = .ok v := by
  obtain ⟨c', hrun, hrest⟩ := h (Cursor.ofString text) rfl
  have hblank : blank.run.run c' = (.ok none, c'.skipBlank) := by
    have hskip : c'.skipBlank = c' := skipBlank_of_head (by simp [hrest])
    show (Except.ok c'.skipBlank.rest.head?, c'.skipBlank) = _
    rw [hskip, hrest]
    rfl
  simp only [Shape.readText]
  rw [Scan.run_bind_ok hrun, Scan.run_bind_ok hblank]
  rfl

/-- The text of an object whose entries a record shape reads back, the keys all distinct, reads
whole to the record with its fields completed. -/
theorem readText_record {name : String} {fields : List (String × Shape × Bool)} {m : Nat}
    {entries : List (String × Value)}
    (h : ∀ e ∈ entries, FieldReadsBack (nestingLimit - 1) fields m e)
    (hkeys : (entries.map Prod.fst).Nodup) (hm : m ≤ fieldsDepth fields) {v : Value}
    (hv : completeFields fields entries.reverse = .ok v) :
    (Shape.record name fields).readText (Value.obj entries).write = .ok v := by
  apply readText_eq
  have hread := readShape_record nestingLimit [] name fields m [] entries h hkeys (by decide) hv
    (readFuel (Value.obj entries).write (.record name fields))
    (by simp only [readFuel, Shape.depth, String.length_toList]; omega)
  rwa [List.append_nil] at hread

theorem Value.parse_write {v : Value} (h : v.Exact nestingLimit) : Value.parse v.write = .ok v := by
  apply readText_eq
  have hread := shapeReadsBack_any h.readsBack (readFuel v.write .any) [] [] (by simp [ValueEnd])
    (by simp only [readFuel, Shape.depth, String.length]; omega)
  simpa using hread

end Courier.Json
