import Mathlib.Algebra.Group.Nat.Defs
import Mathlib.Data.List.Basic

namespace Encoding

abbrev Bytes := List UInt8

def utf8 (s : String) : Bytes := s.toList.flatMap String.utf8EncodeChar

def firstChar? (b : Bytes) : Option Char := b.toByteArray.utf8DecodeChar? 0

def decodeChars : ℕ → Bytes → Option (List Char)
  | _, [] => some []
  | 0, _ :: _ => none
  | n + 1, b :: bs =>
    match firstChar? (b :: bs) with
    | none => none
    | some c => (decodeChars n ((b :: bs).drop c.utf8Size)).map (c :: ·)

def from_utf8 (b : Bytes) : Option String := (decodeChars b.length b).map String.ofList

def isContinuation (b : UInt8) : Bool := 0x80 ≤ b && b ≤ 0xBF

def secondByteFits (b₀ b₁ : UInt8) : Bool :=
  if b₀ = 0xE0 then 0xA0 ≤ b₁ && b₁ ≤ 0xBF
  else if b₀ = 0xED then 0x80 ≤ b₁ && b₁ ≤ 0x9F
  else if b₀ = 0xF0 then 0x90 ≤ b₁ && b₁ ≤ 0xBF
  else if b₀ = 0xF4 then 0x80 ≤ b₁ && b₁ ≤ 0x8F
  else isContinuation b₁

/-- How many bytes one replacement character stands for: the longest prefix of the input that
could still begin a character, and at least one byte. -/
def invalidLength : Bytes → ℕ
  | b₀ :: b₁ :: b₂ :: _ =>
    if 0xE0 ≤ b₀ && b₀ ≤ 0xF4 && secondByteFits b₀ b₁ then
      if 0xF0 ≤ b₀ && isContinuation b₂ then 3 else 2
    else 1
  | [b₀, b₁] => if 0xE0 ≤ b₀ && b₀ ≤ 0xF4 && secondByteFits b₀ b₁ then 2 else 1
  | _ => 1

def lossyChars : ℕ → Bytes → List Char
  | _, [] => []
  | 0, _ :: _ => []
  | n + 1, b :: bs =>
    match firstChar? (b :: bs) with
    | some c => c :: lossyChars n ((b :: bs).drop c.utf8Size)
    | none => '\uFFFD' :: lossyChars n ((b :: bs).drop (invalidLength (b :: bs)))

def from_utf8_lossy (b : Bytes) : String := String.ofList (lossyChars b.length b)

/-- `&s[..n]`: `none` past the end or inside a character. -/
def slicePrefix : List Char → ℕ → Option (List Char)
  | _, 0 => some []
  | [], _ + 1 => none
  | c :: cs, n + 1 =>
    if c.utf8Size ≤ n + 1 then (slicePrefix cs (n + 1 - c.utf8Size)).map (c :: ·) else none

@[simp] theorem utf8_append (s t : String) : utf8 (s ++ t) = utf8 s ++ utf8 t := by
  simp [utf8]

theorem firstChar?_encode (c : Char) (bs : Bytes) :
    firstChar? (String.utf8EncodeChar c ++ bs) = some c := by
  rw [firstChar?, List.toByteArray_append]
  exact ByteArray.utf8DecodeChar?_utf8EncodeChar_append

theorem encode_drop (c : Char) (bs : Bytes) :
    (String.utf8EncodeChar c ++ bs).drop c.utf8Size = bs := by
  rw [← String.length_utf8EncodeChar, List.drop_left]

theorem firstChar?_sound {b : Bytes} {c : Char} (h : firstChar? b = some c) :
    b = String.utf8EncodeChar c ++ b.drop c.utf8Size := by
  obtain ⟨t, ht⟩ := ByteArray.exists_of_utf8DecodeChar?_eq_some h
  have hb : b = String.utf8EncodeChar c ++ t.data.toList := by
    have hd := congrArg (fun a : ByteArray => a.data.toList) ht
    simpa [List.utf8Encode_singleton] using hd
  rw [hb, encode_drop]

theorem encode_length_pos (c : Char) : 0 < (String.utf8EncodeChar c).length := by
  rw [String.length_utf8EncodeChar]; exact c.utf8Size_pos

theorem encode_append_cons (c : Char) (bs : Bytes) :
    ∃ b bs', String.utf8EncodeChar c ++ bs = b :: bs' := by
  cases hc : String.utf8EncodeChar c with
  | nil => exact absurd hc String.utf8EncodeChar_ne_nil
  | cons b rest => exact ⟨b, rest ++ bs, rfl⟩

theorem utf8_toString_pos (n : ℕ) : 1 ≤ (utf8 (toString n)).length := by
  rw [utf8, Nat.toString_eq_ofList_toDigits, String.toList_ofList]
  obtain ⟨c, cs, hcs⟩ := List.exists_cons_of_ne_nil (Nat.toDigits_ne_nil (n := n) (b := 10))
  rw [hcs, List.flatMap_cons, List.length_append]
  have hchar := encode_length_pos c
  omega

theorem decodeChars_encode (cs : List Char) (n : ℕ) (hn : cs.length ≤ n) :
    decodeChars n (cs.flatMap String.utf8EncodeChar) = some cs := by
  induction cs generalizing n with
  | nil => simp [decodeChars]
  | cons c cs ih =>
    obtain ⟨m, rfl⟩ : ∃ m, n = m + 1 := ⟨n - 1, by simp only [List.length_cons] at hn; omega⟩
    have hfirst := firstChar?_encode c (cs.flatMap String.utf8EncodeChar)
    have hdrop := encode_drop c (cs.flatMap String.utf8EncodeChar)
    obtain ⟨b, bs, hb⟩ := encode_append_cons c (cs.flatMap String.utf8EncodeChar)
    rw [hb] at hfirst hdrop
    rw [List.flatMap_cons, hb, decodeChars, hfirst]
    simp only [hdrop, ih m (by simpa using hn), Option.map_some]

theorem length_le_utf8 (cs : List Char) : cs.length ≤ (cs.flatMap String.utf8EncodeChar).length := by
  induction cs with
  | nil => simp
  | cons c cs ih =>
    have := encode_length_pos c
    simp only [List.flatMap_cons, List.length_cons, List.length_append]
    omega

theorem decodeChars_sound {n : ℕ} {b : Bytes} {cs : List Char} (h : decodeChars n b = some cs) :
    b = cs.flatMap String.utf8EncodeChar := by
  induction n generalizing b cs with
  | zero =>
    cases b with
    | nil => simp only [decodeChars, Option.some.injEq] at h; simp [← h]
    | cons b bs => simp [decodeChars] at h
  | succ n ih =>
    cases b with
    | nil => simp only [decodeChars, Option.some.injEq] at h; simp [← h]
    | cons b bs =>
      rw [decodeChars] at h
      cases hc : firstChar? (b :: bs) with
      | none => simp [hc] at h
      | some c =>
        simp only [hc, Option.map_eq_some_iff] at h
        obtain ⟨ds, hds, rfl⟩ := h
        rw [firstChar?_sound hc, ih hds, List.flatMap_cons]

theorem utf8_length_pos (text : String) : 0 < (utf8 text).length ↔ text ≠ "" := by
  constructor
  · rintro hpos rfl
    cases hpos
  · intro hne
    refine Nat.lt_of_lt_of_le (List.length_pos_iff.mpr ?_) (length_le_utf8 text.toList)
    exact fun hnil => hne (String.toList_eq_nil_iff.mp hnil)

@[simp] theorem from_utf8_utf8 (s : String) : from_utf8 (utf8 s) = some s := by
  rw [from_utf8, utf8, decodeChars_encode s.toList _ (length_le_utf8 s.toList)]
  simp

theorem from_utf8_eq_some {b : Bytes} {s : String} : from_utf8 b = some s ↔ b = utf8 s := by
  constructor
  · intro h
    obtain ⟨cs, hcs, rfl⟩ := Option.map_eq_some_iff.mp h
    rw [decodeChars_sound hcs, utf8, String.toList_ofList]
  · rintro rfl
    exact from_utf8_utf8 s

theorem lossyChars_of_decodeChars {n : ℕ} {b : Bytes} {cs : List Char}
    (h : decodeChars n b = some cs) : lossyChars n b = cs := by
  induction n generalizing b cs with
  | zero =>
    cases b with
    | nil => simpa [decodeChars, lossyChars] using h
    | cons b bs => simp [decodeChars] at h
  | succ n ih =>
    cases b with
    | nil => simpa [decodeChars, lossyChars] using h
    | cons b bs =>
      rw [decodeChars] at h
      rw [lossyChars]
      cases hc : firstChar? (b :: bs) with
      | none => simp [hc] at h
      | some c =>
        simp only [hc, Option.map_eq_some_iff] at h
        obtain ⟨ds, hds, rfl⟩ := h
        simp only [ih hds]

theorem from_utf8_lossy_of_valid {b : Bytes} {s : String} (h : from_utf8 b = some s) :
    from_utf8_lossy b = s := by
  obtain ⟨cs, hcs, rfl⟩ := Option.map_eq_some_iff.mp h
  rw [from_utf8_lossy, lossyChars_of_decodeChars hcs]

theorem flatMap_encode_append {cs ds : List Char} {bs : Bytes}
    (h : cs.flatMap String.utf8EncodeChar ++ bs = ds.flatMap String.utf8EncodeChar) :
    ∃ es, ds = cs ++ es ∧ bs = es.flatMap String.utf8EncodeChar := by
  induction cs generalizing ds with
  | nil => exact ⟨ds, rfl, h⟩
  | cons c cs ih =>
    rw [List.flatMap_cons, List.append_assoc] at h
    cases ds with
    | nil =>
      obtain ⟨b, bs', hb⟩ := encode_append_cons c (cs.flatMap String.utf8EncodeChar ++ bs)
      rw [hb] at h
      cases h
    | cons d ds =>
      rw [List.flatMap_cons] at h
      have hfirst := firstChar?_encode c (cs.flatMap String.utf8EncodeChar ++ bs)
      rw [h, firstChar?_encode] at hfirst
      obtain rfl := Option.some.inj hfirst
      obtain ⟨es, rfl, hes⟩ := ih (List.append_cancel_left h)
      exact ⟨es, rfl, hes⟩

theorem from_utf8_append (s : String) (bs : Bytes) :
    from_utf8 (utf8 s ++ bs) = (from_utf8 bs).map (fun t => s ++ t) := by
  apply Option.ext
  intro u
  rw [from_utf8_eq_some, Option.map_eq_some_iff]
  constructor
  · intro h
    obtain ⟨es, hes, rfl⟩ := flatMap_encode_append h
    refine ⟨String.ofList es, from_utf8_eq_some.mpr (by rw [utf8, String.toList_ofList]), ?_⟩
    apply String.toList_inj.mp
    rw [String.toList_append, String.toList_ofList, hes]
  · rintro ⟨t, ht, rfl⟩
    rw [utf8_append, from_utf8_eq_some.mp ht]

theorem take_flatMap_ascii {cs : List Char} (h : ∀ c ∈ cs, c.utf8Size = 1) (n : ℕ) :
    (cs.flatMap String.utf8EncodeChar).take n = (cs.take n).flatMap String.utf8EncodeChar := by
  induction cs generalizing n with
  | nil => simp
  | cons c cs ih =>
    have hsize : (String.utf8EncodeChar c).length = 1 := by
      rw [String.length_utf8EncodeChar, h c List.mem_cons_self]
    cases n with
    | zero => rfl
    | succ n =>
      have hrest := ih (fun d hd => h d (List.mem_cons_of_mem c hd)) n
      rw [List.flatMap_cons, List.take_succ_cons, List.flatMap_cons, List.take_append, hsize, Nat.add_sub_cancel,
        hrest, List.take_of_length_le (by omega)]

theorem from_utf8_take_ascii {s : String} (h : ∀ c ∈ s.toList, c.utf8Size = 1) (n : ℕ) :
    from_utf8 ((utf8 s).take n) = some (String.ofList (s.toList.take n)) := by
  rw [from_utf8_eq_some, utf8, utf8, String.toList_ofList, take_flatMap_ascii h]

def IsCharBoundary (s : String) (n : ℕ) : Prop := ∃ t u : String, s = t ++ u ∧ (utf8 t).length = n

theorem slicePrefix_length {cs ds : List Char} {n : ℕ} (h : slicePrefix cs n = some ds) :
    ∃ rest, cs = ds ++ rest ∧ (ds.flatMap String.utf8EncodeChar).length = n := by
  induction cs generalizing n ds with
  | nil =>
    cases n with
    | zero =>
      obtain rfl := Option.some.inj h
      exact ⟨[], rfl, rfl⟩
    | succ n => cases h
  | cons c cs ih =>
    cases n with
    | zero =>
      obtain rfl := Option.some.inj h
      exact ⟨c :: cs, rfl, rfl⟩
    | succ n =>
      rw [slicePrefix] at h
      split_ifs at h with hc
      obtain ⟨ds, hds, rfl⟩ := Option.map_eq_some_iff.mp h
      obtain ⟨rest, rfl, hlen⟩ := ih hds
      refine ⟨rest, rfl, ?_⟩
      rw [List.flatMap_cons, List.length_append, hlen, String.length_utf8EncodeChar]
      omega

theorem slicePrefix_append (ds rest : List Char) :
    slicePrefix (ds ++ rest) (ds.flatMap String.utf8EncodeChar).length = some ds := by
  induction ds with
  | nil => cases rest <;> rfl
  | cons c ds ih =>
    have hpos := c.utf8Size_pos
    obtain ⟨k, hk⟩ : ∃ k, ((c :: ds).flatMap String.utf8EncodeChar).length = k + 1 := by
      refine Nat.exists_eq_add_one_of_ne_zero ?_
      rw [List.flatMap_cons, List.length_append, String.length_utf8EncodeChar]
      omega
    rw [hk, List.cons_append, slicePrefix]
    rw [List.flatMap_cons, List.length_append, String.length_utf8EncodeChar] at hk
    have hrest : k + 1 - c.utf8Size = (ds.flatMap String.utf8EncodeChar).length := by omega
    rw [if_pos (by omega), hrest, ih]
    rfl

theorem slicePrefix_isSome_iff {s : String} {n : ℕ} : (slicePrefix s.toList n).isSome ↔ IsCharBoundary s n := by
  rw [Option.isSome_iff_exists]
  constructor
  · rintro ⟨ds, hds⟩
    obtain ⟨rest, hs, hlen⟩ := slicePrefix_length hds
    refine ⟨String.ofList ds, String.ofList rest, ?_, ?_⟩
    · rw [← String.ofList_append, ← hs, String.ofList_toList]
    · rw [utf8, String.toList_ofList, hlen]
  · rintro ⟨t, u, rfl, rfl⟩
    rw [String.toList_append]
    exact ⟨t.toList, slicePrefix_append t.toList u.toList⟩

theorem exists_prefix_near (cs : List Char) (n : ℕ) (hn : n ≤ (cs.flatMap String.utf8EncodeChar).length) :
    ∃ ds rest, cs = ds ++ rest ∧ (ds.flatMap String.utf8EncodeChar).length ≤ n ∧
      n ≤ (ds.flatMap String.utf8EncodeChar).length + 3 := by
  induction cs generalizing n with
  | nil =>
    refine ⟨[], [], rfl, Nat.zero_le n, ?_⟩
    simp only [List.flatMap_nil, List.length_nil] at hn ⊢
    omega
  | cons c cs ih =>
    have hsize := c.utf8Size_le_four
    rw [List.flatMap_cons, List.length_append, String.length_utf8EncodeChar] at hn
    by_cases hc : c.utf8Size ≤ n
    · obtain ⟨ds, rest, rfl, hle, hge⟩ := ih (n - c.utf8Size) (by omega)
      refine ⟨c :: ds, rest, rfl, ?_⟩
      rw [List.flatMap_cons, List.length_append, String.length_utf8EncodeChar]
      omega
    · refine ⟨[], c :: cs, rfl, Nat.zero_le n, ?_⟩
      simp only [List.flatMap_nil, List.length_nil]
      omega

/-- A character has at most four bytes, so a boundary is at most three bytes back. -/
theorem exists_isCharBoundary_near {s : String} {n : ℕ} (hn : n ≤ (utf8 s).length) :
    ∃ k, IsCharBoundary s k ∧ k ≤ n ∧ n ≤ k + 3 := by
  obtain ⟨ds, rest, hs, hle, hge⟩ := exists_prefix_near s.toList n hn
  refine ⟨_, ⟨String.ofList ds, String.ofList rest, ?_, rfl⟩, ?_⟩
  · rw [← String.ofList_append, ← hs, String.ofList_toList]
  · rw [utf8, String.toList_ofList]
    exact ⟨hle, hge⟩

example : from_utf8_lossy [0x41, 0xE2, 0x86, 0x41, 0xFF] = "A\uFFFDA\uFFFD" := by decide

end Encoding
