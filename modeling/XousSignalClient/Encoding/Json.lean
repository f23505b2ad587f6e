import XousSignalClient.Encoding.Text

namespace Encoding

abbrev Reader (α : Type) := List Char → Option (α × List Char)

def literal (t cs : List Char) : Option (List Char) := t.isPrefixOf? cs

def number : Reader ℕ := fun cs =>
  let digits := cs.takeWhile Char.isDigit
  if digits = [] then none else some (Nat.ofDigitChars 10 digits 0, cs.dropWhile Char.isDigit)

def quoted : Reader String
  | '"' :: cs =>
    match cs.dropWhile (· ≠ '"') with
    | _ :: rest => some (String.ofList (cs.takeWhile (· ≠ '"')), rest)
    | [] => none
  | _ => none

def more {α : Type} (item : Reader α) : ℕ → Reader (List α)
  | fuel + 1, ',' :: cs => do
    let (a, cs) ← item cs
    let (l, cs) ← more item fuel cs
    some (a :: l, cs)
  | _, ']' :: cs => some ([], cs)
  | _, _ => none

def array {α : Type} (item : Reader α) : Reader (List α)
  | '[' :: ']' :: cs => some ([], cs)
  | '[' :: cs => do
    let (a, cs) ← item cs
    let (l, cs) ← more item cs.length cs
    some (a :: l, cs)
  | _ => none

def numberText (n : ℕ) : List Char := (toString n).toList

def quotedText (s : String) : List Char := '"' :: (s.toList ++ ['"'])

def moreText {α : Type} (text : α → List Char) : List α → List Char
  | [] => [']']
  | a :: l => ',' :: (text a ++ moreText text l)

def arrayText {α : Type} (text : α → List Char) : List α → List Char
  | [] => ['[', ']']
  | a :: l => '[' :: (text a ++ moreText text l)

def Stops (cs : List Char) : Prop := ∀ c ∈ cs.head?, c.isDigit = false

def Reads {α : Type} (item : Reader α) (text : List Char) (a : α) : Prop :=
  ∀ rest, Stops rest → item (text ++ rest) = some (a, rest)

theorem literal_append (t rest : List Char) : literal t (t ++ rest) = some rest := by
  rw [literal, List.isPrefixOf?_eq_some_iff_append_eq]

theorem stops_cons {c : Char} {cs : List Char} (hc : c.isDigit = false) : Stops (c :: cs) := by
  intro d hd
  obtain rfl : c = d := by simpa using hd
  exact hc

theorem numberText_head (n : ℕ) : (numberText n).head? ≠ some ']' := by
  intro h
  have hdigit := toString_digits n ']' (List.mem_of_mem_head? h)
  exact absurd hdigit (by decide)

theorem reads_number (n : ℕ) : Reads number (numberText n) n := by
  intro rest hrest
  have hdigits := toString_digits n
  have hne : (toString n).toList ≠ [] := by
    rw [Nat.toString_eq_ofList_toDigits, String.toList_ofList]
    exact Nat.toDigits_ne_nil
  have htake : rest.takeWhile Char.isDigit = [] := by
    cases rest with
    | nil => rfl
    | cons c cs => simp [hrest c rfl]
  have hdrop : rest.dropWhile Char.isDigit = rest := by
    cases rest with
    | nil => rfl
    | cons c cs => simp [hrest c rfl]
  have hvalue : Nat.ofDigitChars 10 (toString n).toList 0 = n := by
    rw [Nat.toString_eq_ofList_toDigits, String.toList_ofList, Nat.ofDigitChars_ten_toDigits]
  have htext : (numberText n ++ rest).takeWhile Char.isDigit = (toString n).toList := by
    rw [numberText, List.takeWhile_append_of_pos hdigits, htake, List.append_nil]
  have hleft : (numberText n ++ rest).dropWhile Char.isDigit = rest := by
    rw [numberText, List.dropWhile_append_of_pos hdigits, hdrop]
  simp only [number, htext, hleft, if_neg hne, hvalue]

theorem reads_quoted {s : String} (hs : '"' ∉ s.toList) (rest : List Char) :
    quoted (quotedText s ++ rest) = some (s, rest) := by
  have hplain : ∀ c ∈ s.toList, (decide (c ≠ '"')) = true := by
    intro c hc
    simpa using fun h : c = '"' => hs (h ▸ hc)
  simp only [quotedText, List.cons_append, List.append_assoc, List.nil_append, quoted]
  rw [List.takeWhile_append_of_pos hplain, List.dropWhile_append_of_pos hplain]
  simp [String.ofList_toList]

section Array

variable {α : Type} {item : Reader α} {text : α → List Char}

theorem stops_moreText (text : α → List Char) (l : List α) (rest : List Char) : Stops (moreText text l ++ rest) := by
  cases l with
  | nil => exact stops_cons (by decide)
  | cons a l => exact stops_cons (by decide)

theorem length_le_moreText (text : α → List Char) (l : List α) : l.length ≤ (moreText text l).length := by
  induction l with
  | nil => exact Nat.zero_le _
  | cons a l ih =>
    simp only [moreText, List.length_cons, List.length_append]
    omega

theorem more_moreText {l : List α} (hitem : ∀ a ∈ l, Reads item (text a) a) {fuel : ℕ}
    (hfuel : l.length ≤ fuel) (rest : List Char) :
    more item fuel (moreText text l ++ rest) = some (l, rest) := by
  induction l generalizing fuel with
  | nil => cases fuel <;> rfl
  | cons a l ih =>
    obtain ⟨k, rfl⟩ : ∃ k, fuel = k + 1 := ⟨fuel - 1, by simp at hfuel; omega⟩
    have ha := hitem a List.mem_cons_self _ (stops_moreText text l rest)
    have hl := ih (fun b hb => hitem b (List.mem_cons_of_mem a hb)) (Nat.le_of_succ_le_succ hfuel)
    simp [moreText, more, ha, hl]

theorem reads_array {l : List α} (hitem : ∀ a ∈ l, Reads item (text a) a)
    (hhead : ∀ a ∈ l, (text a).head? ≠ some ']' ∧ text a ≠ []) (rest : List Char) :
    array item (arrayText text l ++ rest) = some (l, rest) := by
  cases l with
  | nil => rfl
  | cons a l =>
    have ha := hitem a List.mem_cons_self _ (stops_moreText text l rest)
    have hlen : l.length ≤ (moreText text l ++ rest).length := by
      have := length_le_moreText text l
      rw [List.length_append]
      omega
    have hl := more_moreText (fun b hb => hitem b (List.mem_cons_of_mem a hb)) hlen rest
    obtain ⟨hclose, hne⟩ := hhead a List.mem_cons_self
    obtain ⟨c, t, htext⟩ := List.exists_cons_of_ne_nil hne
    have hc : c ≠ ']' := by
      rintro rfl
      exact hclose (by rw [htext]; rfl)
    simp only [arrayText, List.cons_append, List.append_assoc]
    rw [htext, List.cons_append, array]
    · rw [htext, List.cons_append] at ha
      simp only [ha, hl, Option.bind_eq_bind, Option.bind_some]
    · rintro cs ⟨⟩
      exact hc rfl

end Array

end Encoding
