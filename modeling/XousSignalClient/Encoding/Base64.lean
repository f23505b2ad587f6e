import Mathlib.Data.List.Basic
import XousSignalClient.Encoding.Utf8

namespace Encoding

def alphabet : List Char :=
  "ABCDEFGHIJKLMNOPQRSTUVWXYZabcdefghijklmnopqrstuvwxyz0123456789+/".toList

def sextetChar (n : ℕ) : Char := alphabet.getD n 'A'

def sextetOf (c : Char) : Option ℕ := alphabet.idxOf? c

def base64Chars : Bytes → List Char
  | [] => []
  | [a] => [sextetChar (a.toNat / 4), sextetChar (a.toNat % 4 * 16), '=', '=']
  | [a, b] =>
    [sextetChar (a.toNat / 4), sextetChar (a.toNat % 4 * 16 + b.toNat / 16),
      sextetChar (b.toNat % 16 * 4), '=']
  | a :: b :: c :: rest =>
    sextetChar (a.toNat / 4) :: sextetChar (a.toNat % 4 * 16 + b.toNat / 16) ::
      sextetChar (b.toNat % 16 * 4 + c.toNat / 64) :: sextetChar (c.toNat % 64) :: base64Chars rest

def firstByte (w x : ℕ) : UInt8 := UInt8.ofNat (w * 4 + x / 16)

def secondByte (x y : ℕ) : UInt8 := UInt8.ofNat (x % 16 * 16 + y / 4)

def thirdByte (y z : ℕ) : UInt8 := UInt8.ofNat (y % 4 * 64 + z)

def lastQuantum (w x y : Char) : Option Bytes := do
  let w ← sextetOf w
  let x ← sextetOf x
  if y = '=' then
    if x % 16 = 0 then some [firstByte w x] else none
  else
    let y ← sextetOf y
    if y % 4 = 0 then some [firstByte w x, secondByte x y] else none

def decodeBase64Chars : List Char → Option Bytes
  | [] => some []
  | w :: x :: y :: z :: rest =>
    if z = '=' then
      if rest = [] then lastQuantum w x y else none
    else do
      let w ← sextetOf w
      let x ← sextetOf x
      let y ← sextetOf y
      let z ← sextetOf z
      let bytes ← decodeBase64Chars rest
      some (firstByte w x :: secondByte x y :: thirdByte y z :: bytes)
  | _ => none

def base64Encode (b : Bytes) : String := String.ofList (base64Chars b)

def base64EncodeNoPad (b : Bytes) : String := String.ofList ((base64Chars b).filter (· ≠ '='))

def urlSafe (c : Char) : Char := if c = '+' then '-' else if c = '/' then '_' else c

def urlPlain (c : Char) : Char := if c = '-' then '+' else if c = '_' then '/' else c

def base64UrlEncodeNoPad (b : Bytes) : String :=
  String.ofList (((base64Chars b).filter (· ≠ '=')).map urlSafe)

def base64Decode (s : String) : Option Bytes := decodeBase64Chars s.toList

/-- The URL-safe alphabet without padding: `=`, `+` and `/` are invalid symbols. -/
def base64UrlDecodeNoPad (s : String) : Option Bytes :=
  if s.toList.any (fun c => c = '=' ∨ c = '+' ∨ c = '/') then none
  else decodeBase64Chars (s.toList.map urlPlain ++ List.replicate ((4 - s.toList.length % 4) % 4) '=')

def base64DecodeNoPad (s : String) : Option Bytes :=
  if s.toList.any (· = '=') then none
  else decodeBase64Chars (s.toList ++ List.replicate ((4 - s.toList.length % 4) % 4) '=')

theorem sextetOf_sextetChar {n : ℕ} (hn : n < 64) : sextetOf (sextetChar n) = some n := by
  have hall : ∀ m : Fin 64, sextetOf (sextetChar m.val) = some m.val := by decide +kernel
  exact hall ⟨n, hn⟩

theorem sextetChar_mem (n : ℕ) : sextetChar n ∈ alphabet := by
  rw [sextetChar, List.getD_eq_getElem?_getD]
  cases h : alphabet[n]? with
  | none => exact List.mem_cons_self
  | some c => exact List.mem_of_getElem? h

theorem sextetChar_ne_pad (n : ℕ) : sextetChar n ≠ '=' := by
  have hpad : '=' ∉ alphabet := by decide
  exact fun h => hpad (h ▸ sextetChar_mem n)

theorem base64Chars_plain (b : Bytes) : '"' ∉ base64Chars b := by
  have hquote : '"' ∉ alphabet := by decide
  have hne : ∀ n, '"' ≠ sextetChar n := fun n h => hquote (h ▸ sextetChar_mem n)
  induction b using base64Chars.induct with
  | case1 => simp [base64Chars]
  | case2 a => simp [base64Chars, hne]
  | case3 a b => simp [base64Chars, hne]
  | case4 a b c rest ih => simp [base64Chars, hne, ih]

theorem firstByte_split (a : UInt8) {r : ℕ} (hr : r < 16) :
    firstByte (a.toNat / 4) (a.toNat % 4 * 16 + r) = a := by
  have h : a.toNat / 4 * 4 + (a.toNat % 4 * 16 + r) / 16 = a.toNat := by omega
  rw [firstByte, h, UInt8.ofNat_toNat]

theorem secondByte_split (b : UInt8) (k : ℕ) {r : ℕ} (hr : r < 4) :
    secondByte (k * 16 + b.toNat / 16) (b.toNat % 16 * 4 + r) = b := by
  have hb := b.toNat_lt
  have h : (k * 16 + b.toNat / 16) % 16 * 16 + (b.toNat % 16 * 4 + r) / 4 = b.toNat := by omega
  rw [secondByte, h, UInt8.ofNat_toNat]

theorem thirdByte_split (c : UInt8) (k : ℕ) :
    thirdByte (k * 4 + c.toNat / 64) (c.toNat % 64) = c := by
  have hc := c.toNat_lt
  have h : (k * 4 + c.toNat / 64) % 4 * 64 + c.toNat % 64 = c.toNat := by omega
  rw [thirdByte, h, UInt8.ofNat_toNat]

theorem decodeBase64Chars_encode (b : Bytes) : decodeBase64Chars (base64Chars b) = some b := by
  have hlt : ∀ x : UInt8, x.toNat < 256 := fun x => x.toNat_lt
  induction b using base64Chars.induct with
  | case1 => rfl
  | case2 a =>
    have ha := hlt a
    have h₁ := sextetOf_sextetChar (n := a.toNat / 4) (by omega)
    have h₂ := sextetOf_sextetChar (n := a.toNat % 4 * 16) (by omega)
    have hx : firstByte (a.toNat / 4) (a.toNat % 4 * 16) = a := firstByte_split a (r := 0) (by omega)
    simp [base64Chars, decodeBase64Chars, lastQuantum, h₁, h₂, hx]
  | case3 a b =>
    have ha := hlt a
    have hb := hlt b
    have h₁ := sextetOf_sextetChar (n := a.toNat / 4) (by omega)
    have h₂ := sextetOf_sextetChar (n := a.toNat % 4 * 16 + b.toNat / 16) (by omega)
    have h₃ := sextetOf_sextetChar (n := b.toNat % 16 * 4) (by omega)
    have hx := firstByte_split a (r := b.toNat / 16) (by omega)
    have hy : secondByte (a.toNat % 4 * 16 + b.toNat / 16) (b.toNat % 16 * 4) = b :=
      secondByte_split b _ (r := 0) (by omega)
    simp [base64Chars, decodeBase64Chars, lastQuantum, sextetChar_ne_pad, h₁, h₂, h₃, hx, hy]
  | case4 a b c rest ih =>
    have ha := hlt a
    have hb := hlt b
    have hc := hlt c
    have h₁ := sextetOf_sextetChar (n := a.toNat / 4) (by omega)
    have h₂ := sextetOf_sextetChar (n := a.toNat % 4 * 16 + b.toNat / 16) (by omega)
    have h₃ := sextetOf_sextetChar (n := b.toNat % 16 * 4 + c.toNat / 64) (by omega)
    have h₄ := sextetOf_sextetChar (n := c.toNat % 64) (by omega)
    have hx := firstByte_split a (r := b.toNat / 16) (by omega)
    have hy := secondByte_split b (a.toNat % 4) (r := c.toNat / 64) (by omega)
    have hz := thirdByte_split c (b.toNat % 16)
    simp [base64Chars, decodeBase64Chars, sextetChar_ne_pad, h₁, h₂, h₃, h₄, ih, hx, hy, hz]

theorem base64Decode_encode (b : Bytes) : base64Decode (base64Encode b) = some b := by
  rw [base64Decode, base64Encode, String.toList_ofList, decodeBase64Chars_encode]

theorem base64Chars_injective : Function.Injective base64Chars := by
  intro b b' h
  apply Option.some.inj
  rw [← decodeBase64Chars_encode b, h, decodeBase64Chars_encode b']

theorem base64Chars_padding (b : Bytes) :
    base64Chars b = (base64Chars b).filter (· ≠ '=') ++
      List.replicate ((4 - ((base64Chars b).filter (· ≠ '=')).length % 4) % 4) '=' := by
  induction b using base64Chars.induct with
  | case1 => simp [base64Chars]
  | case2 a => simp [base64Chars, sextetChar_ne_pad]
  | case3 a b => simp [base64Chars, sextetChar_ne_pad]
  | case4 a b c rest ih =>
    have hlen : ∀ n : ℕ, (n + 1 + 1 + 1 + 1) % 4 = n % 4 := by omega
    simp only [base64Chars, List.filter_cons, sextetChar_ne_pad, ne_eq, not_false_eq_true, decide_true, if_true,
      List.length_cons, List.cons_append, hlen]
    simp only [ne_eq] at ih
    rw [← ih]

theorem unpadded_injective {b b' : Bytes} (h : (base64Chars b).filter (· ≠ '=') = (base64Chars b').filter (· ≠ '=')) :
    b = b' := by
  apply base64Chars_injective
  rw [base64Chars_padding b, base64Chars_padding b', h]

theorem base64EncodeNoPad_injective : Function.Injective base64EncodeNoPad :=
  fun _ _ h => unpadded_injective (String.ofList_injective h)

theorem mem_base64Chars {b : Bytes} {c : Char} (hc : c ∈ base64Chars b) : c ∈ alphabet ∨ c = '=' := by
  have hmem := sextetChar_mem
  induction b using base64Chars.induct with
  | case1 => cases hc
  | case2 a =>
    simp only [base64Chars, List.mem_cons, List.not_mem_nil, or_false] at hc
    rcases hc with rfl | rfl | rfl | rfl <;> simp [hmem]
  | case3 a b =>
    simp only [base64Chars, List.mem_cons, List.not_mem_nil, or_false] at hc
    rcases hc with rfl | rfl | rfl | rfl <;> simp [hmem]
  | case4 a b d rest ih =>
    simp only [base64Chars, List.mem_cons] at hc
    rcases hc with rfl | rfl | rfl | rfl | hc
    · simp [hmem]
    · simp [hmem]
    · simp [hmem]
    · simp [hmem]
    · exact ih hc

theorem base64Encode_ascii (b : Bytes) : ∀ c ∈ (base64Encode b).toList, c.utf8Size = 1 := by
  have hall : alphabet.all (fun c => c.utf8Size == 1) = true := by decide
  intro c hc
  rw [base64Encode, String.toList_ofList] at hc
  rcases mem_base64Chars hc with hc | rfl
  · exact beq_iff_eq.mp (List.all_eq_true.mp hall c hc)
  · rfl

theorem urlPlain_urlSafe {c : Char} (hc : c ∈ alphabet) : urlPlain (urlSafe c) = c := by
  have hall : alphabet.map (fun c => urlPlain (urlSafe c)) = alphabet.map id := by decide +kernel
  exact List.map_inj_left.mp hall c hc

theorem urlSafe_symbol {c : Char} (hc : c ∈ alphabet) : ¬(urlSafe c = '=' ∨ urlSafe c = '+' ∨ urlSafe c = '/') := by
  have hall : (alphabet.map urlSafe).filter (fun c => c = '=' ∨ c = '+' ∨ c = '/') = [] := by decide +kernel
  have hnone := List.filter_eq_nil_iff.mp hall (urlSafe c) (List.mem_map_of_mem hc)
  simpa using hnone

theorem mem_unpadded {b : Bytes} {c : Char} (hc : c ∈ (base64Chars b).filter (· ≠ '=')) : c ∈ alphabet := by
  obtain ⟨hmem, hpad⟩ := List.mem_filter.mp hc
  exact (mem_base64Chars hmem).resolve_right (by simpa using hpad)

theorem unpadded_urlPlain (b : Bytes) :
    (((base64Chars b).filter (· ≠ '=')).map urlSafe).map urlPlain = (base64Chars b).filter (· ≠ '=') := by
  rw [List.map_map]
  refine (List.map_congr_left ?_).trans (List.map_id _)
  exact fun c hc => urlPlain_urlSafe (mem_unpadded hc)

theorem base64UrlEncodeNoPad_injective : Function.Injective base64UrlEncodeNoPad := by
  intro b b' h
  have hchars := String.ofList_injective h
  apply unpadded_injective
  rw [← unpadded_urlPlain b, ← unpadded_urlPlain b', hchars]

theorem base64UrlDecodeNoPad_encode (b : Bytes) : base64UrlDecodeNoPad (base64UrlEncodeNoPad b) = some b := by
  have hsymbols : ¬(((base64Chars b).filter (· ≠ '=')).map urlSafe).any
      (fun c => c = '=' ∨ c = '+' ∨ c = '/') := by
    intro hany
    obtain ⟨c, hc, hbad⟩ := List.any_eq_true.mp hany
    obtain ⟨d, hd, rfl⟩ := List.mem_map.mp hc
    exact urlSafe_symbol (mem_unpadded hd) (of_decide_eq_true hbad)
  rw [base64UrlDecodeNoPad, base64UrlEncodeNoPad, String.toList_ofList, if_neg hsymbols, unpadded_urlPlain,
    List.length_map, ← base64Chars_padding, decodeBase64Chars_encode]

theorem base64DecodeNoPad_encode (b : Bytes) : base64DecodeNoPad (base64EncodeNoPad b) = some b := by
  have hpad : ¬((base64Chars b).filter (· ≠ '=')).any (· = '=') := by simp
  rw [base64DecodeNoPad, base64EncodeNoPad, String.toList_ofList, if_neg hpad, ← base64Chars_padding,
    decodeBase64Chars_encode]

example : base64Encode (utf8 "light w") = "bGlnaHQgdw==" := by decide

end Encoding
