import XousSignalClient.Encoding.Utf8

namespace Encoding

def bigEndian : (len n : ℕ) → Bytes
  | 0, _ => []
  | len + 1, n => bigEndian len (n / 256) ++ [UInt8.ofNat n]

/-- Add one to the byte before position `i`. A byte that wraps to zero carries into the one before it. -/
def carryFrom (counter : Bytes) : ℕ → Bytes
  | 0 => counter
  | i + 1 =>
    let b := counter.getD i 0 + 1
    if b ≠ 0 then counter.set i b else carryFrom (counter.set i b) i

def chunks {α : Type} (n : ℕ) (l : List α) : List (List α) :=
  (List.range ((l.length + n - 1) / n)).map (fun k => (l.drop (n * k)).take n)

@[simp] theorem length_bigEndian (len n : ℕ) : (bigEndian len n).length = len := by
  induction len generalizing n with
  | zero => rfl
  | succ len ih => simp [bigEndian, ih]

@[simp] theorem length_carryFrom (counter : Bytes) (i : ℕ) : (carryFrom counter i).length = counter.length := by
  induction i generalizing counter with
  | zero => rfl
  | succ i ih =>
    rw [carryFrom]
    split_ifs
    · simp
    · simp [ih]

theorem ofNat_succ (n : ℕ) : UInt8.ofNat n + 1 = UInt8.ofNat (n + 1) := by
  apply UInt8.toNat.inj
  simp

theorem ofNat_succ_eq_zero {n : ℕ} : UInt8.ofNat (n + 1) = 0 ↔ (n + 1) % 256 = 0 := by
  rw [← UInt8.toNat_inj, UInt8.toNat_ofNat']
  rfl

theorem carryFrom_bigEndian (len n : ℕ) (rest : Bytes) :
    carryFrom (bigEndian len n ++ rest) len = bigEndian len (n + 1) ++ rest := by
  induction len generalizing n rest with
  | zero => rfl
  | succ len ih =>
    have hlast : (bigEndian (len + 1) n ++ rest).getD len 0 = UInt8.ofNat n := by
      simp [bigEndian, List.getD_eq_getElem?_getD]
    have hset : (bigEndian (len + 1) n ++ rest).set len (UInt8.ofNat (n + 1)) =
        bigEndian len (n / 256) ++ UInt8.ofNat (n + 1) :: rest := by
      simp [bigEndian, List.set_append_right]
    rw [carryFrom, hlast, ofNat_succ, hset]
    by_cases hwrap : UInt8.ofNat (n + 1) = 0
    · have hdiv : (n + 1) / 256 = n / 256 + 1 := by
        have := ofNat_succ_eq_zero.mp hwrap
        omega
      rw [if_neg (not_not.mpr hwrap), ih]
      simp [bigEndian, hdiv]
    · have hdiv : (n + 1) / 256 = n / 256 := by
        have := mt ofNat_succ_eq_zero.mpr hwrap
        omega
      rw [if_pos hwrap]
      simp [bigEndian, hdiv]

theorem bigEndian_injective {len m n : ℕ} (hm : m < 256 ^ len) (hn : n < 256 ^ len)
    (h : bigEndian len m = bigEndian len n) : m = n := by
  induction len generalizing m n with
  | zero => simp at hm hn; omega
  | succ len ih =>
    obtain ⟨hhigh, hlow⟩ := List.append_inj h (by simp)
    rw [Nat.pow_succ] at hm hn
    have hdiv := ih (by omega) (by omega) hhigh
    have hmod := congrArg UInt8.toNat (List.singleton_inj.mp hlow)
    rw [UInt8.toNat_ofNat', UInt8.toNat_ofNat'] at hmod
    omega

@[simp] theorem chunks_nil {α : Type} (n : ℕ) : chunks n ([] : List α) = [] := by
  have hnone : (n - 1) / n = 0 := by
    rcases Nat.eq_zero_or_pos n with rfl | hn
    · rfl
    · exact Nat.div_eq_of_lt (by omega)
  simp [chunks, hnone]

theorem chunks_of_ne_nil {α : Type} {n : ℕ} (hn : 0 < n) {l : List α} (hl : l ≠ []) :
    chunks n l = l.take n :: chunks n (l.drop n) := by
  have hpos := List.length_pos_iff.mpr hl
  have hcount : (l.length + n - 1) / n = ((l.drop n).length + n - 1) / n + 1 := by
    rw [List.length_drop]
    by_cases hle : n ≤ l.length
    · have hsub : l.length - n + n - 1 + n = l.length + n - 1 := by omega
      rw [← hsub, Nat.add_div_right _ hn]
    · have hlast : (l.length - n + n - 1) / n = 0 := Nat.div_eq_of_lt (by omega)
      have hfirst : l.length - 1 + n = l.length + n - 1 := by omega
      rw [hlast, ← hfirst, Nat.add_div_right _ hn, Nat.div_eq_of_lt (by omega)]
  rw [chunks, hcount, List.range_succ_eq_map, List.map_cons, List.map_map]
  congr 1
  apply List.map_congr_left
  intro k _
  have hmul : n * (k + 1) = n + n * k := by rw [Nat.mul_succ, Nat.add_comm]
  simp [List.drop_drop, hmul]

end Encoding
