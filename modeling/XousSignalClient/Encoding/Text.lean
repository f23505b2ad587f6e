import Mathlib.Algebra.Group.Nat.Defs
import Mathlib.Data.List.Basic
import Mathlib.Data.List.DropRight
import Mathlib.Data.List.Infix

namespace Encoding

def parseUnsigned (bound : ℕ) (s : String) : Option ℕ :=
  let digits := match s.toList with
    | '+' :: rest => rest
    | cs => cs
  if digits ≠ [] ∧ digits.all Char.isDigit ∧ Nat.ofDigitChars 10 digits 0 < bound then
    some (Nat.ofDigitChars 10 digits 0)
  else none

def isWhitespace (c : Char) : Bool :=
  (9 ≤ c.toNat && c.toNat ≤ 13) || (0x2000 ≤ c.toNat && c.toNat ≤ 0x200A) ||
    [0x20, 0x85, 0xA0, 0x1680, 0x2028, 0x2029, 0x202F, 0x205F, 0x3000].contains c.toNat

def trim (s : String) : String :=
  String.ofList ((s.toList.dropWhile isWhitespace).rdropWhile isWhitespace)

def strip_prefix (s lead : String) : Option String :=
  (lead.toList.isPrefixOf? s.toList).map String.ofList

def afterFirst (needle : List Char) : List Char → Option (List Char)
  | [] => needle.isPrefixOf? []
  | c :: cs =>
    match needle.isPrefixOf? (c :: cs) with
    | some rest => some rest
    | none => afterFirst needle cs

theorem digit_ne {c d : Char} (hc : c.isDigit = true) (hd : d.isDigit = false) : c ≠ d := by
  rintro rfl
  simp [hc] at hd

theorem toString_digits (n : ℕ) : ∀ c ∈ (toString n).toList, c.isDigit = true := by
  intro c hc
  rw [Nat.toString_eq_ofList_toDigits, String.toList_ofList] at hc
  exact Nat.isDigit_of_mem_toDigits (by decide) (by decide) hc

theorem digit_not_whitespace {c : Char} (hc : c.isDigit = true) : isWhitespace c = false := by
  have hrange : 48 ≤ c.toNat ∧ c.toNat ≤ 57 := by simpa [Char.isDigit, UInt32.le_iff_toNat_le] using hc
  obtain ⟨hlow, hhigh⟩ := hrange
  simp only [isWhitespace, List.contains_eq_mem, List.mem_cons, List.not_mem_nil, or_false,
    Bool.or_eq_false_iff, Bool.and_eq_false_iff, decide_eq_false_iff_not]
  omega

theorem trim_toString (n : ℕ) : trim (toString n) = toString n := by
  have hblank : ∀ c ∈ (toString n).toList, isWhitespace c = false :=
    fun c hc => digit_not_whitespace (toString_digits n c hc)
  have hfront : (toString n).toList.dropWhile isWhitespace = (toString n).toList := by
    rw [List.dropWhile_eq_self_iff]
    intro hlen h
    rw [hblank _ (List.getElem_mem hlen)] at h
    exact absurd h (by decide)
  have hback : (toString n).toList.rdropWhile isWhitespace = (toString n).toList := by
    rw [List.rdropWhile_eq_self_iff]
    intro hne h
    rw [hblank _ (List.getLast_mem hne)] at h
    exact absurd h (by decide)
  rw [trim, hfront, hback, String.ofList_toList]

theorem parseUnsigned_toString {bound n : ℕ} (hn : n < bound) :
    parseUnsigned bound (toString n) = some n := by
  have hd := toString_digits n
  rw [Nat.toString_eq_ofList_toDigits, String.toList_ofList] at hd
  have hplus : ∀ rest, Nat.toDigits 10 n ≠ '+' :: rest := by
    intro rest he
    exact digit_ne (hd '+' (by simp [he])) (by decide) rfl
  have hdigits : (match Nat.toDigits 10 n with
      | '+' :: rest => rest
      | cs => cs) = Nat.toDigits 10 n := by
    split
    · exact absurd (by assumption) (hplus _)
    · rfl
  rw [parseUnsigned, Nat.toString_eq_ofList_toDigits, String.toList_ofList, hdigits]
  simp only [Nat.ofDigitChars_ten_toDigits]
  rw [if_pos ⟨Nat.toDigits_ne_nil, List.all_eq_true.mpr hd, hn⟩]

theorem parseUnsigned_eq_none {bound : ℕ} {s : String} {c : Char} (hc : c ∈ s.toList)
    (hd : c.isDigit = false) (hplus : c ≠ '+') : parseUnsigned bound s = none := by
  rw [parseUnsigned]
  apply if_neg
  rintro ⟨-, hall, -⟩
  rw [List.all_eq_true] at hall
  split at hall
  · rename_i rest hs
    rw [hs, List.mem_cons] at hc
    rcases hc with rfl | hc
    · exact hplus rfl
    · exact digit_ne (hall c hc) hd rfl
  · exact digit_ne (hall c hc) hd rfl

theorem strip_prefix_eq_some {s lead rest : String} :
    strip_prefix s lead = some rest ↔ s = lead ++ rest := by
  rw [ strip_prefix, Option.map_eq_some_iff]
  constructor
  · rintro ⟨cs, hcs, rfl⟩
    rw [List.isPrefixOf?_eq_some_iff_append_eq] at hcs
    apply String.toList_inj.mp
    rw [String.toList_append, String.toList_ofList, hcs]
  · rintro rfl
    refine ⟨rest.toList, ?_, String.ofList_toList⟩
    rw [List.isPrefixOf?_eq_some_iff_append_eq, String.toList_append]

theorem afterFirst_append (needle rest : List Char) (hne : needle ≠ []) :
    afterFirst needle (needle ++ rest) = some rest := by
  obtain ⟨c, n, rfl⟩ := List.exists_cons_of_ne_nil hne
  have hp : (c :: n).isPrefixOf? (c :: n ++ rest) = some rest :=
    List.isPrefixOf?_eq_some_iff_append_eq.mpr rfl
  rw [List.cons_append] at hp ⊢
  simp only [afterFirst, hp]

theorem afterFirst_cons {needle cs : List Char} {c : Char} (h : needle.isPrefixOf? (c :: cs) = none) :
    afterFirst needle (c :: cs) = afterFirst needle cs := by
  simp only [afterFirst, h]

theorem afterFirst_skip {q : Char} {n cs rest : List Char} (hq : q ∉ cs) :
    afterFirst (q :: n) (cs ++ rest) = afterFirst (q :: n) rest := by
  induction cs with
  | nil => rfl
  | cons c cs ih =>
    rw [List.mem_cons, not_or] at hq
    have hp : (q :: n).isPrefixOf? (c :: (cs ++ rest)) = none := by
      simp [List.isPrefixOf?, hq.1]
    rw [List.cons_append, afterFirst_cons hp, ih hq.2]

theorem first_sep_eq {c : Char} {xs ys r r' : List Char} (hx : c ∉ xs) (hy : c ∉ ys)
    (h : xs ++ c :: r = ys ++ c :: r') : xs = ys ∧ r = r' := by
  induction xs generalizing ys with
  | nil =>
    cases ys with
    | nil => exact ⟨rfl, (List.cons.inj h).2⟩
    | cons y ys =>
      obtain ⟨rfl, -⟩ := List.cons.inj h
      exact absurd List.mem_cons_self hy
  | cons x xs ih =>
    cases ys with
    | nil =>
      obtain ⟨rfl, -⟩ := List.cons.inj h
      exact absurd List.mem_cons_self hx
    | cons y ys =>
      obtain ⟨rfl, htail⟩ := List.cons.inj h
      obtain ⟨rfl, hr⟩ := ih (fun hc => hx (List.mem_cons_of_mem x hc))
        (fun hc => hy (List.mem_cons_of_mem x hc)) htail
      exact ⟨rfl, hr⟩

example : parseUnsigned (2 ^ 32) "+007" = some 7 := by decide

end Encoding
