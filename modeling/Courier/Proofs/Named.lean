import Mathlib.Data.List.Nodup

/-!
# Entries under names

Checks, cached users and waiting calls are kept as lists of entries under names, read with
`List.lookup`. These are the facts about such lists that the proofs share: a lookup reads the
first entry under the name, finds only entries of the list, and finds the entry of a name when the
names are distinct.
-/

namespace Courier

variable {κ α : Type} [BEq κ] [LawfulBEq κ]

theorem lookup_cons_ite [DecidableEq κ] (k m : κ) (b : α) (l : List (κ × α)) :
    ((k, b) :: l).lookup m = if m = k then some b else l.lookup m := by
  simp only [List.lookup_cons]
  by_cases h : m = k
  · simp [h]
  · rw [beq_eq_false_iff_ne.2 h]
    simp [h]

theorem mem_names_iff_lookup (l : List (κ × α)) (m : κ) :
    m ∈ l.map Prod.fst ↔ (l.lookup m).isSome := by
  rw [List.lookup_isSome_iff, List.mem_map]
  simp only [beq_iff_eq]
  constructor
  · rintro ⟨p, hp, rfl⟩
    exact ⟨p, hp, rfl⟩
  · rintro ⟨p, hp, rfl⟩
    exact ⟨p, hp, rfl⟩

theorem mem_of_lookup_eq_some {l : List (κ × α)} {k : κ} {v : α}
    (h : l.lookup k = some v) : (k, v) ∈ l := by
  obtain ⟨l₁, l₂, rfl, -⟩ := List.lookup_eq_some_iff.1 h
  simp

theorem lookup_filter_ne [DecidableEq κ] (k : κ) (l : List (κ × α)) (m : κ) :
    (l.filter (·.1 != k)).lookup m = if m = k then none else l.lookup m := by
  induction l with
  | nil => simp
  | cons e rest ih =>
    obtain ⟨a, b⟩ := e
    by_cases ha : a = k
    · -- the entry under k is dropped
      have hdrop : ((a, b) :: rest).filter (·.1 != k) = rest.filter (·.1 != k) := by simp [ha]
      rw [hdrop, ih, lookup_cons_ite]
      by_cases hm : m = k <;> simp [hm, ha]
    · have hkeep : ((a, b) :: rest).filter (·.1 != k) = (a, b) :: rest.filter (·.1 != k) := by
        simp [ha]
      rw [hkeep, lookup_cons_ite, lookup_cons_ite, ih]
      by_cases hm : m = a
      · simp [hm, ha]
      · simp [hm]

theorem lookup_put [DecidableEq κ] (k : κ) (v : α) (l : List (κ × α)) (m : κ) :
    (l.filter (·.1 != k) ++ [(k, v)]).lookup m = if m = k then some v else l.lookup m := by
  rw [List.lookup_append, lookup_filter_ne]
  by_cases hm : m = k <;> simp [hm, lookup_cons_ite]

theorem lookup_of_mem [DecidableEq κ] {l : List (κ × α)} (hl : (l.map Prod.fst).Nodup)
    {k : κ} {v : α} (hm : (k, v) ∈ l) : l.lookup k = some v := by
  induction l with
  | nil => cases hm
  | cons e rest ih =>
    obtain ⟨k', v'⟩ := e
    obtain ⟨hk', hrest⟩ := List.nodup_cons.1 hl
    rcases List.mem_cons.1 hm with heq | hmr
    · obtain ⟨rfl, rfl⟩ := Prod.mk.inj heq
      simp
    · have hne : k ≠ k' := by
        rintro rfl
        exact hk' (List.mem_map.2 ⟨(k, v), hmr, rfl⟩)
      rw [lookup_cons_ite, if_neg hne, ih hrest hmr]

end Courier
