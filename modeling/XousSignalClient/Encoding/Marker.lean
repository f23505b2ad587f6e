import Mathlib.Data.List.DropRight

namespace Encoding

/-! Content followed by one marker and a run of fill. -/

variable {α : Type} {marker fill : α}

def Marked (marker fill : α) (p : List α) : Prop :=
  ∃ c n, p = c ++ marker :: List.replicate n fill

variable [DecidableEq α]

def unmark (marker fill : α) (p : List α) : List α :=
  let q := p.rdropWhile (· = fill)
  if q.getLast? = some marker then q.dropLast else q

theorem rdropWhile_fill (q : List α) (n : ℕ) :
    (q ++ List.replicate n fill).rdropWhile (· = fill) = q.rdropWhile (· = fill) := by
  induction n with
  | zero => simp
  | succ n ih =>
    rw [List.replicate_succ', ← List.append_assoc, List.rdropWhile_concat_pos _ _ _ (by simp), ih]

theorem exists_fill (fill : α) (p : List α) :
    ∃ n, p = p.rdropWhile (· = fill) ++ List.replicate n fill := by
  induction p using List.reverseRecOn with
  | nil => exact ⟨0, by simp⟩
  | append_singleton p a ih =>
    by_cases ha : a = fill
    · obtain ⟨n, hn⟩ := ih
      refine ⟨n + 1, ?_⟩
      rw [List.rdropWhile_concat_pos _ _ _ (by simp [ha]), List.replicate_succ', ← List.append_assoc,
        ← hn, ha]
    · refine ⟨0, ?_⟩
      rw [List.rdropWhile_concat_neg _ _ _ (by simp [ha]), List.replicate_zero, List.append_nil]

theorem rdropWhile_marked (h : marker ≠ fill) (c : List α) (n : ℕ) :
    (c ++ marker :: List.replicate n fill).rdropWhile (· = fill) = c ++ [marker] := by
  rw [← List.singleton_append, ← List.append_assoc, rdropWhile_fill,
    List.rdropWhile_concat_neg _ _ _ (by simp [h])]

/-- What a marker ends, the run of fill being dropped first, is the content before it. -/
theorem unmark_marked (h : marker ≠ fill) (c : List α) (n : ℕ) :
    unmark marker fill (c ++ marker :: List.replicate n fill) = c := by
  rw [unmark, rdropWhile_marked h]
  simp

theorem marked_iff (h : marker ≠ fill) (p : List α) :
    Marked marker fill p ↔ (p.rdropWhile (· = fill)).getLast? = some marker := by
  constructor
  · rintro ⟨c, n, rfl⟩
    rw [rdropWhile_marked h]
    simp
  · intro hlast
    obtain ⟨n, hn⟩ := exists_fill fill p
    obtain ⟨c, hc⟩ := List.getLast?_eq_some_iff.mp hlast
    refine ⟨c, n, ?_⟩
    rw [hn, hc, List.append_assoc, List.singleton_append]

theorem unmark_of_not_marked (h : marker ≠ fill) {p : List α} (hp : ¬Marked marker fill p) :
    unmark marker fill p = p.rdropWhile (· = fill) := by
  rw [marked_iff h] at hp
  rw [unmark, if_neg hp]

theorem rdropWhile_eq_self_iff_getLast? (p : List α) :
    p.rdropWhile (· = fill) = p ↔ p.getLast? ≠ some fill := by
  induction p using List.reverseRecOn with
  | nil => simp
  | append_singleton p a _ => simp [List.rdropWhile_eq_self_iff]

/-- Without a marker the fill is dropped all the same. -/
theorem unmark_eq_self_iff (h : marker ≠ fill) {p : List α} (hp : ¬Marked marker fill p) :
    unmark marker fill p = p ↔ p.getLast? ≠ some fill := by
  rw [unmark_of_not_marked h hp, rdropWhile_eq_self_iff_getLast?]

theorem not_marked_append (h : marker ≠ fill) {c : List α} (hc : c.getLast? ≠ some marker)
    (hf : c.getLast? ≠ some fill) (n : ℕ) : ¬Marked marker fill (c ++ List.replicate n fill) := by
  rw [marked_iff h, rdropWhile_fill, (rdropWhile_eq_self_iff_getLast? c).mpr hf]
  exact hc

end Encoding
