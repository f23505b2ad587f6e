import XousSignalClient.Encoding.Text

namespace Encoding

inductive Escaped : List Char → Prop
  | nil : Escaped []
  | plain {c : Char} {cs : List Char} (hquote : c ≠ '"') (hslash : c ≠ '\\') (hcs : Escaped cs) : Escaped (c :: cs)
  | escape (c : Char) {cs : List Char} (hcs : Escaped cs) : Escaped ('\\' :: c :: cs)

theorem Escaped.append {cs ds : List Char} (hcs : Escaped cs) (hds : Escaped ds) : Escaped (cs ++ ds) := by
  induction hcs with
  | nil => exact hds
  | plain hquote hslash _ ih => exact .plain hquote hslash ih
  | escape c _ ih => exact .escape c ih

theorem Escaped.flatMap {α : Type} {f : α → List Char} (hf : ∀ a, Escaped (f a)) (l : List α) :
    Escaped (l.flatMap f) := by
  induction l with
  | nil => exact .nil
  | cons a l ih => exact (hf a).append ih

def marker (key tail : List Char) : List Char := '"' :: (key ++ '"' :: ':' :: tail)

def PlainKey (key : List Char) : Prop := ∀ c ∈ key, c ≠ '"' ∧ c ≠ '\\'

variable {key tail cs rest : List Char}

theorem plainKey_of_not_mem (hquote : '"' ∉ key) (hslash : '\\' ∉ key) : PlainKey key := by
  intro c hc
  exact ⟨fun h => hquote (h ▸ hc), fun h => hslash (h ▸ hc)⟩

/-- A key and its colon do not begin in escaped text, not even across the quote that ends it. -/
theorem not_prefix_escaped (hkey : PlainKey key) (hcs : Escaped cs) (hrest : rest.head? ≠ some ':') :
    ¬(key ++ '"' :: ':' :: tail) <+: (cs ++ '"' :: rest) := by
  induction key generalizing cs with
  | nil =>
    rintro ⟨more, h⟩
    cases hcs with
    | nil =>
      obtain ⟨-, h⟩ := List.cons.inj h
      apply hrest
      rw [← h]
      rfl
    | plain hquote _ _ => exact hquote (List.cons.inj h).1.symm
    | escape c _ => exact absurd (List.cons.inj h).1 (by decide)
  | cons k key ih =>
    rintro ⟨more, h⟩
    have hk := hkey k List.mem_cons_self
    cases hcs with
    | nil => exact hk.1 (List.cons.inj h).1
    | plain _ _ hcs => exact ih (fun c hc => hkey c (List.mem_cons_of_mem k hc)) hcs ⟨more, (List.cons.inj h).2⟩
    | escape c _ => exact hk.2 (List.cons.inj h).1

theorem marker_absent (hkey : PlainKey key) (hcs : Escaped cs) (hrest : rest.head? ≠ some ':') :
    (marker key tail).isPrefixOf? ('"' :: (cs ++ '"' :: rest)) = none := by
  cases hp : (marker key tail).isPrefixOf? ('"' :: (cs ++ '"' :: rest)) with
  | none => rfl
  | some more =>
    rw [List.isPrefixOf?_eq_some_iff_append_eq] at hp
    exact absurd ⟨more, (List.cons.inj hp).2⟩ (not_prefix_escaped hkey hcs hrest)

theorem marker_absent_cons {c : Char} (hc : c ≠ '"') (cs : List Char) :
    (marker key tail).isPrefixOf? (c :: cs) = none := by
  cases hp : (marker key tail).isPrefixOf? (c :: cs) with
  | none => rfl
  | some more =>
    rw [List.isPrefixOf?_eq_some_iff_append_eq] at hp
    exact absurd (List.cons.inj hp).1.symm hc

theorem afterFirst_escaped (hkey : PlainKey key) (hcs : Escaped cs) (hrest : rest.head? ≠ some ':') :
    afterFirst (marker key tail) (cs ++ '"' :: rest) = afterFirst (marker key tail) ('"' :: rest) := by
  induction hcs with
  | nil => rfl
  | plain hquote _ _ ih => exact (afterFirst_cons (marker_absent_cons hquote _)).trans ih
  | @escape c cs hcs ih =>
    refine (afterFirst_cons (marker_absent_cons (by decide) _)).trans ?_
    refine (afterFirst_cons ?_).trans ih
    by_cases hc : c = '"'
    · rw [hc]
      exact marker_absent hkey hcs hrest
    · exact marker_absent_cons hc _

theorem afterFirst_string (hkey : PlainKey key) (hcs : Escaped cs) (hrest : rest.head? ≠ some ':')
    (hend : (marker key tail).isPrefixOf? ('"' :: rest) = none) :
    afterFirst (marker key tail) ('"' :: (cs ++ '"' :: rest)) = afterFirst (marker key tail) rest := by
  rw [afterFirst_cons (marker_absent hkey hcs hrest), afterFirst_escaped hkey hcs hrest, afterFirst_cons hend]

theorem afterFirst_marker {other : List Char} (hkey : PlainKey key) (hother : PlainKey other) (hne : key ≠ other)
    (hcolon : ':' ∉ key) :
    afterFirst (marker key tail) (marker other [] ++ rest) = afterFirst (marker key tail) rest := by
  have hopen : (marker key tail).isPrefixOf? ('"' :: (other ++ '"' :: ':' :: rest)) = none := by
    cases hp : (marker key tail).isPrefixOf? ('"' :: (other ++ '"' :: ':' :: rest)) with
    | none => rfl
    | some more =>
      rw [List.isPrefixOf?_eq_some_iff_append_eq] at hp
      have heq : key ++ '"' :: (':' :: tail ++ more) = other ++ '"' :: ':' :: rest := by
        simpa [marker] using hp
      exact absurd (first_sep_eq (fun h => (hkey _ h).1 rfl) (fun h => (hother _ h).1 rfl) heq).1 hne
  have hclose : (marker key tail).isPrefixOf? ('"' :: ':' :: rest) = none := by
    cases hp : (marker key tail).isPrefixOf? ('"' :: ':' :: rest) with
    | none => rfl
    | some more =>
      rw [List.isPrefixOf?_eq_some_iff_append_eq] at hp
      cases key with
      | nil => exact absurd (List.cons.inj (List.cons.inj hp).2).1 (by decide)
      | cons k key => exact absurd ((List.cons.inj (List.cons.inj hp).2).1 ▸ List.mem_cons_self) hcolon
  have htext : marker other [] ++ rest = '"' :: (other ++ '"' :: ':' :: rest) := by
    simp [marker]
  rw [htext, afterFirst_cons hopen, marker, afterFirst_skip (fun h => (hother _ h).1 rfl), ← marker,
    afterFirst_cons hclose, afterFirst_cons (marker_absent_cons (by decide) _)]

theorem afterFirst_plain (hcs : '"' ∉ cs) :
    afterFirst (marker key tail) (cs ++ rest) = afterFirst (marker key tail) rest := afterFirst_skip hcs

end Encoding
