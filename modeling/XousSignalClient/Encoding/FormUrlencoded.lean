import XousSignalClient.Encoding.Utf8

namespace Encoding

namespace FormUrlencoded

def hexDigits : List Char := "0123456789ABCDEF".toList

def hexDigit (n : ℕ) : Char := hexDigits.getD n '0'

def hexValue (c : Char) : Option ℕ :=
  if c.isDigit then some (c.toNat - '0'.toNat)
  else if 'A' ≤ c ∧ c ≤ 'F' then some (c.toNat - 'A'.toNat + 10)
  else if 'a' ≤ c ∧ c ≤ 'f' then some (c.toNat - 'a'.toNat + 10)
  else none

/-- `*-._` and the ASCII letters and digits stand for themselves. -/
def unreserved (c : Char) : Bool := c.isAlphanum || c = '*' || c = '-' || c = '.' || c = '_'

def serializeByte (b : UInt8) : List Char :=
  if b = 0x20 then ['+']
  else if unreserved (Char.ofNat b.toNat) then [Char.ofNat b.toNat]
  else ['%', hexDigit (b.toNat / 16), hexDigit (b.toNat % 16)]

def byteSerialize (s : String) : List Char := (utf8 s).flatMap serializeByte

def pairText (pair : String × String) : List Char := byteSerialize pair.1 ++ '=' :: byteSerialize pair.2

def serialize (pairs : List (String × String)) : List Char := ['&'].intercalate (pairs.map pairText)

/-- Percent decoding after `+` has been replaced by a space. A `%` without two digits stands for itself. -/
def percentDecode : List Char → Bytes
  | '+' :: cs => 0x20 :: percentDecode cs
  | '%' :: d :: e :: cs =>
    match hexValue d, hexValue e with
    | some m, some n => UInt8.ofNat (m * 16 + n) :: percentDecode cs
    | _, _ => 0x25 :: percentDecode (d :: e :: cs)
  | c :: cs => String.utf8EncodeChar c ++ percentDecode cs
  | [] => []

def component (cs : List Char) : String := from_utf8_lossy (percentDecode cs)

def pair (cs : List Char) : String × String :=
  (component (cs.takeWhile (· ≠ '=')), component ((cs.dropWhile (· ≠ '=')).drop 1))

def parse (cs : List Char) : List (String × String) :=
  ((cs.splitOn '&').filter (fun sequence => !sequence.isEmpty)).map pair

theorem hexValue_hexDigit {n : ℕ} (hn : n < 16) : hexValue (hexDigit n) = some n := by
  have hall : (List.range 16).map (fun n => hexValue (hexDigit n)) = (List.range 16).map some := by decide
  exact List.map_inj_left.mp hall n (List.mem_range.mpr hn)

def Plain (c : Char) : Prop := c ≠ '&' ∧ c ≠ '='

theorem hexDigit_plain {n : ℕ} (hn : n < 16) : Plain (hexDigit n) := by
  have hall : (List.range 16).all (fun n => hexDigit n != '&' && hexDigit n != '=') = true := by decide
  have h := List.all_eq_true.mp hall n (List.mem_range.mpr hn)
  simpa [Plain] using h

theorem not_unreserved : unreserved '&' = false ∧ unreserved '=' = false ∧ unreserved '%' = false ∧
    unreserved '+' = false := by decide

theorem plain_serializeByte {b : UInt8} {c : Char} (hc : c ∈ serializeByte b) : Plain c := by
  have hb := b.toNat_lt
  unfold serializeByte at hc
  split_ifs at hc with hspace hun
  · obtain rfl := List.mem_singleton.mp hc
    exact ⟨by decide, by decide⟩
  · obtain rfl := List.mem_singleton.mp hc
    constructor
    · intro h
      rw [h, not_unreserved.1] at hun
      cases hun
    · intro h
      rw [h, not_unreserved.2.1] at hun
      cases hun
  · simp only [List.mem_cons, List.not_mem_nil, or_false] at hc
    rcases hc with rfl | rfl | rfl
    · exact ⟨by decide, by decide⟩
    · exact hexDigit_plain (by omega)
    · exact hexDigit_plain (by omega)

theorem plain_byteSerialize {s : String} {c : Char} (hc : c ∈ byteSerialize s) : Plain c := by
  obtain ⟨b, -, hb⟩ := List.mem_flatMap.mp hc
  exact plain_serializeByte hb

theorem encode_unreserved {b : UInt8} (hun : unreserved (Char.ofNat b.toNat) = true) :
    String.utf8EncodeChar (Char.ofNat b.toNat) = [b] := by
  have hall : (List.range 256).all (fun n => !unreserved (Char.ofNat n) ||
      String.utf8EncodeChar (Char.ofNat n) == [UInt8.ofNat n]) = true := by decide +kernel
  have h := List.all_eq_true.mp hall b.toNat (List.mem_range.mpr b.toNat_lt)
  simpa [hun] using h

theorem percentDecode_cons {c : Char} (hplus : c ≠ '+') (hpercent : c ≠ '%') (cs : List Char) :
    percentDecode (c :: cs) = String.utf8EncodeChar c ++ percentDecode cs := by
  rw [percentDecode]
  · exact hplus
  · intro d e rest h
    exact absurd h hpercent

theorem percentDecode_serializeByte (b : UInt8) (rest : List Char) :
    percentDecode (serializeByte b ++ rest) = b :: percentDecode rest := by
  have hb := b.toNat_lt
  unfold serializeByte
  split_ifs with hspace hun
  · rw [hspace, List.singleton_append, percentDecode]
  · have hplus : Char.ofNat b.toNat ≠ '+' := by
      intro h
      rw [h, not_unreserved.2.2.2] at hun
      cases hun
    have hpercent : Char.ofNat b.toNat ≠ '%' := by
      intro h
      rw [h, not_unreserved.2.2.1] at hun
      cases hun
    rw [List.singleton_append, percentDecode_cons hplus hpercent, encode_unreserved hun, List.singleton_append]
  · have hjoin : UInt8.ofNat (b.toNat / 16 * 16 + b.toNat % 16) = b := by
      rw [Nat.div_add_mod']
      exact UInt8.ofNat_toNat
    simp only [List.cons_append, List.nil_append]
    rw [percentDecode, hexValue_hexDigit (by omega), hexValue_hexDigit (by omega)]
    dsimp only
    rw [hjoin]

theorem percentDecode_byteSerialize (s : String) : percentDecode (byteSerialize s) = utf8 s := by
  have hbytes : ∀ bs : Bytes, percentDecode (bs.flatMap serializeByte) = bs := by
    intro bs
    induction bs with
    | nil => rfl
    | cons b bs ih => rw [List.flatMap_cons, percentDecode_serializeByte, ih]
  exact hbytes (utf8 s)

theorem component_byteSerialize (s : String) : component (byteSerialize s) = s := by
  rw [component, percentDecode_byteSerialize]
  exact from_utf8_lossy_of_valid (from_utf8_utf8 s)

theorem pair_pairText (p : String × String) : pair (pairText p) = p := by
  have hname : ∀ c ∈ byteSerialize p.1, decide (c ≠ '=') = true :=
    fun c hc => decide_eq_true (plain_byteSerialize hc).2
  rw [pair, pairText, List.takeWhile_append_of_pos hname, List.dropWhile_append_of_pos hname]
  simp [component_byteSerialize]

theorem parse_serialize {pairs : List (String × String)} (hne : pairs ≠ []) : parse (serialize pairs) = pairs := by
  have hsep : ∀ l ∈ pairs.map pairText, '&' ∉ l := by
    intro l hl hmem
    obtain ⟨p, -, rfl⟩ := List.mem_map.mp hl
    rcases List.mem_append.mp hmem with h | h
    · exact (plain_byteSerialize h).1 rfl
    · rcases List.mem_cons.mp h with h | h
      · exact absurd h (by decide)
      · exact (plain_byteSerialize h).1 rfl
  have hfull : ∀ l ∈ pairs.map pairText, (!l.isEmpty) = true := by
    intro l hl
    obtain ⟨p, -, rfl⟩ := List.mem_map.mp hl
    simp [pairText]
  rw [parse, serialize, List.splitOn_intercalate _ hsep (by simpa using hne), List.filter_eq_self.mpr hfull,
    List.map_map]
  refine (List.map_congr_left ?_).trans (List.map_id pairs)
  exact fun p _ => pair_pairText p

end FormUrlencoded

end Encoding
