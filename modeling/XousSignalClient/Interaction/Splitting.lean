import Mathlib.Data.List.Basic

namespace Interaction

variable {α : Type} {xs ys pre post : List α} {e y : α}

theorem append_eq_split (h : xs ++ ys = pre ++ e :: post) :
    (∃ mid, xs = pre ++ e :: mid ∧ post = mid ++ ys) ∨ ∃ mid, pre = xs ++ mid ∧ ys = mid ++ e :: post := by
  rcases List.append_eq_append_iff.mp h with ⟨mid, hpre, hys⟩ | ⟨mid, hxs, hpost⟩
  · exact .inr ⟨mid, hpre, hys⟩
  · cases mid with
    | nil => exact .inr ⟨[], by simpa using hxs.symm, by simpa using hpost.symm⟩
    | cons m mid =>
      rw [List.cons_append, List.cons.injEq] at hpost
      obtain ⟨rfl, rfl⟩ := hpost
      exact .inl ⟨mid, hxs, rfl⟩

theorem split_cons {P : α → Prop} {x : α} (hx : ¬P x) (he : P e) (h : x :: xs = pre ++ e :: post) :
    ∃ pre', pre = x :: pre' ∧ xs = pre' ++ e :: post := by
  cases pre with
  | nil =>
    obtain ⟨rfl, -⟩ := List.cons.inj h
    exact absurd he hx
  | cons z pre =>
    obtain ⟨rfl, hxs⟩ := List.cons.inj h
    exact ⟨pre, rfl, hxs⟩

theorem split_unique {P : α → Prop} (hx : ∀ a ∈ xs, ¬P a) (hy : ∀ a ∈ ys, ¬P a) (he : P e)
    (h : xs ++ y :: ys = pre ++ e :: post) : pre = xs ∧ e = y ∧ post = ys := by
  rcases append_eq_split h with ⟨mid, hxs, -⟩ | ⟨mid, hpre, hys⟩
  · exact absurd he (hx e (by rw [hxs]; simp))
  · cases mid with
    | nil =>
      rw [List.nil_append, List.cons.injEq] at hys
      exact ⟨by simpa using hpre, hys.1.symm, hys.2.symm⟩
    | cons m mid =>
      rw [List.cons_append, List.cons.injEq] at hys
      exact absurd he (hy e (by rw [hys.2]; simp))

theorem split_none {P : α → Prop} (hx : ∀ a ∈ xs, ¬P a) (he : P e) (h : xs = pre ++ e :: post) : False :=
  hx e (by rw [h]; simp) he

end Interaction
