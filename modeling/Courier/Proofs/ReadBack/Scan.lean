import Courier.Json.Read

/-!
# Reading with a scan

`Scan.Reads m input rest a` says that the scan `m`, started on any cursor whose unread characters
are `input`, succeeds with `a` and leaves `rest` unread. Where in the text the cursor stands (line,
column, byte index) only places failures, so the relation speaks of the unread characters alone,
and a sequence of scans reads one piece after the other (`Scan.Reads.bind`). A scan that succeeds
goes through `framed`, `placed` and `attempt` unchanged.

This module gives the relation for the scanner's moves and for the punctuation of JSON text:
blanks, literal words, the separators between items and between entries, colons and closing
brackets. The characters that may follow a value (`ValueEnd`) and those that may start one
(`ValueStart`) are named here, since the separators are read by looking at them.
-/

namespace Courier.Json

variable {α β : Type}

/-- The scan, started on any cursor whose unread characters are `input`, succeeds with `a` and
leaves `rest` unread. -/
def Scan.Reads (m : Scan α) (input rest : List Char) (a : α) : Prop :=
  ∀ c : Cursor, c.rest = input → ∃ c' : Cursor, m.run.run c = (.ok a, c') ∧ c'.rest = rest

theorem Scan.run_bind_ok {m : Scan α} {f : α → Scan β} {c c₁ : Cursor} {a : α}
    (h : m.run.run c = (.ok a, c₁)) : (m >>= f).run.run c = (f a).run.run c₁ := by
  simp only [ExceptT.run_bind, StateT.run_bind, h]
  rfl

theorem Scan.run_get_bind (f : Cursor → Scan α) (c : Cursor) :
    ((get : Scan Cursor) >>= f).run.run c = (f c).run.run c := rfl

theorem Scan.run_tryCatch_ok {m : Scan α} {h : ReadError → Scan α} {c c' : Cursor} {a : α}
    (hm : m.run.run c = (.ok a, c')) : (tryCatch m h).run.run c = (.ok a, c') := by
  show (ExceptT.tryCatch m h).run.run c = _
  simp only [ExceptT.tryCatch, ExceptT.run_mk, StateT.run_bind]
  erw [hm]
  rfl

theorem Scan.reads_pure (a : α) (s : List Char) : (pure a : Scan α).Reads s s a :=
  fun c hc => ⟨c, rfl, hc⟩

namespace Scan.Reads

theorem bind {m : Scan α} {f : α → Scan β} {s₀ s₁ s₂ : List Char} {a : α} {b : β}
    (h₁ : m.Reads s₀ s₁ a) (h₂ : (f a).Reads s₁ s₂ b) : (m >>= f).Reads s₀ s₂ b := by
  intro c hc
  obtain ⟨c₁, hrun₁, hrest₁⟩ := h₁ c hc
  obtain ⟨c₂, hrun₂, hrest₂⟩ := h₂ c₁ hrest₁
  exact ⟨c₂, (run_bind_ok hrun₁).trans hrun₂, hrest₂⟩

theorem map {m : Scan α} {s r : List Char} {a : α} (hm : m.Reads s r a) (f : α → β) :
    (f <$> m).Reads s r (f a) := by
  rw [map_eq_pure_bind]
  exact hm.bind (reads_pure _ _)

theorem tryCatch {m : Scan α} {s r : List Char} {a : α} (hm : m.Reads s r a)
    (h : ReadError → Scan α) : (tryCatch m h).Reads s r a := by
  intro c hc
  obtain ⟨c', hrun, hrest⟩ := hm c hc
  exact ⟨c', run_tryCatch_ok hrun, hrest⟩

theorem framed {m : Scan α} {s r : List Char} {a : α} (hm : m.Reads s r a)
    (chain : List Segment) : (framed chain m).Reads s r a :=
  hm.tryCatch _

theorem placed {m : Scan α} {s r : List Char} {a : α} (hm : m.Reads s r a) :
    (placed m).Reads s r a :=
  hm.tryCatch _

theorem attempt {m : Scan α} {s r : List Char} {a : α} (hm : m.Reads s r a) :
    (attempt m).Reads s r (.ok a) := by
  unfold Json.attempt
  exact (hm.bind (reads_pure (Except.ok a : Except ReadError α) r)).tryCatch _

end Scan.Reads

theorem nest_of_lt {depth : Nat} (body : Nat → Scan α) (h : 1 < depth) :
    nest depth body = body (depth - 1) := by
  simp [nest, show ¬ depth ≤ 1 by omega]

theorem exists_succ_of_lt {n fuel : Nat} (h : n < fuel) : ∃ f, fuel = f + 1 ∧ n ≤ f :=
  ⟨fuel - 1, by omega, by omega⟩

/-! ### Moving the cursor -/

theorem Cursor.bump_rest {c : Cursor} {ch : Char} {r : List Char} (h : c.rest = ch :: r) :
    c.bump.rest = r := by
  simp only [Cursor.bump, h]
  split <;> rfl

theorem Cursor.advanceBytes_go_rest (cs : List Char) (hcs : ∀ ch ∈ cs, ch.utf8Size = 1) :
    ∀ (c : Cursor) (r : List Char) (fuel : Nat), c.rest = cs ++ r → cs.length < fuel →
      (Cursor.advanceBytes.go c cs.length fuel).rest = r := by
  induction cs with
  | nil =>
    intro c r fuel hc hf
    obtain ⟨fuel, rfl, -⟩ := exists_succ_of_lt hf
    simpa [Cursor.advanceBytes.go] using hc
  | cons ch cs ih =>
    intro c r fuel hc hf
    obtain ⟨fuel, rfl, hle⟩ := exists_succ_of_lt hf
    have h1 : ch.utf8Size = 1 := hcs ch (by simp)
    have hstep := ih (fun x hx => hcs x (by simp [hx])) c.bump r fuel
      (Cursor.bump_rest (by rw [hc]; rfl)) (by simp at hle; omega)
    simp only [Cursor.advanceBytes.go, List.length_cons, hc, List.cons_append, h1]
    simpa using hstep

theorem skipBlank_of_head {c : Cursor} (h : ∀ ch ∈ c.rest.head?, isJsonBlank ch = false) :
    c.skipBlank = c := by
  unfold Cursor.skipBlank
  cases hr : c.rest with
  | nil => simp [Cursor.skipBlank.go]
  | cons ch r =>
    have hb : isJsonBlank ch = false := h ch (by simp [hr])
    simp [Cursor.skipBlank.go, hr, hb]

theorem advance_reads (ch : Char) (r : List Char) : advance.Reads (ch :: r) r () :=
  fun c hc => ⟨c.bump, rfl, Cursor.bump_rest hc⟩

theorem peekChar_run (c : Cursor) : peekChar.run.run c = (.ok c.rest.head?, c) := rfl

theorem peekChar_reads (s : List Char) : peekChar.Reads s s s.head? :=
  fun c hc => ⟨c, by rw [peekChar_run, hc], hc⟩

theorem nextChar_reads (ch : Char) (r : List Char) : nextChar.Reads (ch :: r) r (some ch) :=
  (peekChar_reads _).bind ((advance_reads ch r).bind (Scan.reads_pure _ _))

theorem budget_reads (s : List Char) : budget.Reads s s (s.length + 1) :=
  fun c hc => ⟨c, by rw [← hc]; rfl, hc⟩

theorem blank_reads (s : List Char) (h : ∀ ch ∈ s.head?, isJsonBlank ch = false) :
    blank.Reads s s s.head? := by
  intro c hc
  have hskip : c.skipBlank = c := skipBlank_of_head (hc ▸ h)
  have hrun : blank.run.run c = (.ok c.skipBlank.rest.head?, c.skipBlank) := rfl
  exact ⟨c, by rw [hrun, hskip, hc], hc⟩

theorem readWord_reads (w r : List Char) : (readWord w).Reads (w ++ r) r () := by
  induction w with
  | nil => exact Scan.reads_pure _ _
  | cons e w ih =>
    unfold readWord
    rw [List.forM]
    refine Scan.Reads.bind (a := ⟨⟩) ?_ ih
    refine (nextChar_reads e _).bind ?_
    simp only [bne_self_eq_false, Bool.false_eq_true, if_false]
    exact Scan.reads_pure _ _

/-! ### Punctuation -/

/-- What may follow a value in written JSON: nothing, or the comma, bracket or brace after it. -/
def ValueEnd (r : List Char) : Prop := ∀ ch ∈ r.head?, ch = ',' ∨ ch = ']' ∨ ch = '}'

/-- A character that can start the text of a value: no closing bracket or brace, no comma and
no blank. -/
def ValueStart (ch : Char) : Prop :=
  ch ≠ ']' ∧ ch ≠ ',' ∧ ch ≠ '}' ∧ isJsonBlank ch = false

instance : DecidablePred ValueStart := fun _ => inferInstanceAs (Decidable (_ ∧ _))

theorem hasNextItem_close (first : Bool) (r : List Char) :
    (hasNextItem first).Reads (']' :: r) (']' :: r) false := by
  unfold hasNextItem
  refine (blank_reads _ (by simp; decide)).bind ?_
  simp only [List.head?_cons]
  exact Scan.reads_pure _ _

theorem hasNextItem_first {ch : Char} (rest : List Char) (hch : ValueStart ch) :
    (hasNextItem true).Reads (ch :: rest) (ch :: rest) true := by
  obtain ⟨hb, hc, -, hblank⟩ := hch
  unfold hasNextItem
  refine (blank_reads _ (by simpa using hblank)).bind ?_
  simp only [List.head?_cons, ↓reduceIte]
  refine (Scan.reads_pure _ _).bind ?_
  split
  · rename_i heq
    exact absurd (Option.some.inj heq) hb
  · exact Scan.reads_pure _ _
  · contradiction

theorem hasNextItem_comma {ch : Char} (rest : List Char) (hch : ValueStart ch) :
    (hasNextItem false).Reads (',' :: ch :: rest) (ch :: rest) true := by
  obtain ⟨hb, hc, -, hblank⟩ := hch
  unfold hasNextItem
  refine (blank_reads _ (by simp; decide)).bind ?_
  simp only [List.head?_cons, Bool.false_eq_true, if_false]
  refine (advance_reads _ _).bind ((blank_reads _ (by simpa using hblank)).bind ?_)
  simp only [List.head?_cons]
  exact Scan.reads_pure _ _

theorem hasNextKey_close (first : Bool) (r : List Char) :
    (hasNextKey first).Reads ('}' :: r) ('}' :: r) false := by
  unfold hasNextKey
  refine (blank_reads _ (by simp; decide)).bind ?_
  simp only [List.head?_cons]
  exact Scan.reads_pure _ _

theorem hasNextKey_first (rest : List Char) :
    (hasNextKey true).Reads ('"' :: rest) ('"' :: rest) true := by
  unfold hasNextKey
  refine (blank_reads _ (by simp; decide)).bind ?_
  simp only [List.head?_cons, ↓reduceIte]
  exact (Scan.reads_pure _ _).bind (Scan.reads_pure _ _)

theorem hasNextKey_comma (rest : List Char) :
    (hasNextKey false).Reads (',' :: '"' :: rest) ('"' :: rest) true := by
  unfold hasNextKey
  refine (blank_reads _ (by simp; decide)).bind ?_
  simp only [List.head?_cons, Bool.false_eq_true, if_false]
  refine (advance_reads _ _).bind ((blank_reads _ (by simp; decide)).bind ?_)
  simp only [List.head?_cons]
  exact Scan.reads_pure _ _

theorem closeArray_reads (r : List Char) : closeArray.Reads (']' :: r) r () := by
  unfold closeArray
  refine (blank_reads _ (by simp; decide)).bind ?_
  simp only [List.head?_cons]
  exact advance_reads _ _

theorem closeObject_reads (r : List Char) : closeObject.Reads ('}' :: r) r () := by
  unfold closeObject
  refine (blank_reads _ (by simp; decide)).bind ?_
  simp only [List.head?_cons]
  exact advance_reads _ _

theorem readColon_reads (r : List Char) : readColon.Reads (':' :: r) r () := by
  unfold readColon
  refine (blank_reads _ (by simp; decide)).bind ?_
  simp only [List.head?_cons]
  exact advance_reads _ _

end Courier.Json
