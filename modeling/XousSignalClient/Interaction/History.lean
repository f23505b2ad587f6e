import XousSignalClient.Interaction.Splitting

namespace Interaction

variable {α : Type}

def Every (P : List α → α → Prop) (history : List α) : Prop :=
  ∀ before e after, history = before ++ e :: after → P before e

theorem every_nil {P : List α → α → Prop} : Every P [] := by
  intro before e after h
  simp at h

theorem every_concat {P : List α → α → Prop} {history : List α} {e : α} (h : Every P history) (he : P history e) :
    Every P (history ++ [e]) := by
  intro before x after hsplit
  rcases List.eq_nil_or_concat after with rfl | ⟨rest, last, rfl⟩
  · obtain ⟨rfl, hx⟩ := List.append_inj' hsplit rfl
    obtain rfl : e = x := by simpa using hx
    exact he
  · apply h before x rest
    rw [List.concat_eq_append, ← List.cons_append, ← List.append_assoc] at hsplit
    exact (List.append_inj' hsplit rfl).1

theorem Every.append {P : List α → α → Prop} {history history' : List α}
    (hmono : ∀ front before e, P before e → P (front ++ before) e) (h : Every P history) (h' : Every P history') :
    Every P (history ++ history') := by
  intro before e after hsplit
  rcases append_eq_split hsplit with ⟨mid, hfirst, -⟩ | ⟨mid, rfl, hsecond⟩
  · exact h before e mid hfirst
  · exact hmono history mid e (h' mid e after hsecond)

theorem Every.of_concat {P : List α → α → Prop} {history : List α} {e : α} (h : Every P (history ++ [e])) :
    Every P history ∧ P history e := by
  refine ⟨?_, h history e [] rfl⟩
  rintro before x after rfl
  exact h before x (after ++ [e]) (by simp)

end Interaction
