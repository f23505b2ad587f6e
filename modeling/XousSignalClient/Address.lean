import XousSignalClient.Encoding.Text

namespace XousSignalClient

open Encoding

structure DeviceId where
  val : ℕ
  valid : 1 ≤ val ∧ val ≤ 127
  deriving DecidableEq

def DeviceId.new (d : ℕ) : Option DeviceId :=
  if h : 1 ≤ d ∧ d ≤ 127 then some ⟨d, h⟩ else none

structure ProtocolAddress where
  name : String
  device_id : DeviceId
  deriving DecidableEq

def ProtocolAddress.key (a : ProtocolAddress) : String :=
  a.name ++ "." ++ toString a.device_id.val

def device_protocol_address (uuid : String) (device_id : ℕ) : Option ProtocolAddress :=
  if device_id < 2 ^ 8 then (DeviceId.new device_id).map (ProtocolAddress.mk uuid) else none

theorem DeviceId.new_eq_some {d : ℕ} {i : DeviceId} : DeviceId.new d = some i ↔ i.val = d := by
  unfold DeviceId.new
  split_ifs with h
  · rw [Option.some.injEq]
    constructor
    · rintro rfl; rfl
    · intro hi; cases i; cases hi; rfl
  · refine ⟨nofun, fun hi => absurd i.valid ?_⟩
    rwa [hi]

theorem DeviceId.one_valid : 1 ≤ 1 ∧ 1 ≤ 127 := by decide

theorem DeviceId.two_valid : 1 ≤ 2 ∧ 2 ≤ 127 := by decide

@[simp] theorem DeviceId.new_val (i : DeviceId) : DeviceId.new i.val = some i :=
  DeviceId.new_eq_some.mpr rfl

theorem DeviceId.ext_val {i j : DeviceId} (h : i.val = j.val) : i = j := by
  cases i; cases j; cases h; rfl

@[simp] theorem device_protocol_address_val (uuid : String) (i : DeviceId) :
    device_protocol_address uuid i.val = some ⟨uuid, i⟩ := by
  have hi := i.valid
  rw [device_protocol_address, if_pos (by omega), DeviceId.new_val, Option.map_some]

theorem device_protocol_address_eq_some {uuid : String} {d : ℕ} {a : ProtocolAddress} :
    device_protocol_address uuid d = some a ↔ a.name = uuid ∧ a.device_id.val = d := by
  constructor
  · intro h
    unfold device_protocol_address at h
    split_ifs at h
    obtain ⟨i, hi, rfl⟩ := Option.map_eq_some_iff.mp h
    exact ⟨rfl, DeviceId.new_eq_some.mp hi⟩
  · rintro ⟨rfl, rfl⟩
    exact device_protocol_address_val _ _

theorem dot_not_digit : ('.').isDigit = false := by decide

theorem append_sep_eq {c : Char} {xs ys xs' ys' : List Char} (hy : c ∉ ys)
    (h : xs ++ c :: ys = xs' ++ c :: ys') : (xs = xs' ∧ ys = ys') ∨ c ∈ ys' := by
  rcases List.append_eq_append_iff.mp h with ⟨zs, rfl, hz⟩ | ⟨zs, rfl, hz⟩
  · cases zs with
    | nil => exact .inl ⟨by simp, by simpa using hz⟩
    | cons z zs =>
      rw [List.cons_append, List.cons.injEq] at hz
      obtain ⟨rfl, rfl⟩ := hz
      simp at hy
  · cases zs with
    | nil => exact .inl ⟨by simp, by simpa using hz.symm⟩
    | cons z zs =>
      rw [List.cons_append, List.cons.injEq] at hz
      obtain ⟨rfl, rfl⟩ := hz
      exact .inr (by simp)

theorem key_toList (a : ProtocolAddress) :
    a.key.toList = a.name.toList ++ '.' :: (toString a.device_id.val).toList := by
  simp [ProtocolAddress.key, String.toList_append]

theorem dot_not_mem_toString (n : ℕ) : '.' ∉ (toString n).toList :=
  fun h => digit_ne (toString_digits n '.' h) dot_not_digit rfl

theorem key_strip {a : ProtocolAddress} {uuid rest : String} (h : a.key = uuid ++ "." ++ rest) :
    (a.name = uuid ∧ rest = toString a.device_id.val) ∨ '.' ∈ rest.toList := by
  have hl := congrArg String.toList h
  rw [key_toList] at hl
  simp only [String.toList_append, List.append_assoc] at hl
  rcases append_sep_eq (dot_not_mem_toString _) hl with ⟨hn, hr⟩ | hr
  · exact .inl ⟨String.toList_inj.mp hn, (String.toList_inj.mp hr).symm⟩
  · exact .inr hr

theorem toString_injective {m n : ℕ} (h : toString m = toString n) : m = n := by
  have hm := parseUnsigned_toString (Nat.lt_succ_of_le (Nat.le_max_left m n))
  have hn := parseUnsigned_toString (Nat.lt_succ_of_le (Nat.le_max_right m n))
  rw [h, hn] at hm
  exact (Option.some.inj hm).symm

theorem key_injective {a b : ProtocolAddress} (h : a.key = b.key) : a = b := by
  have hb : a.key = b.name ++ "." ++ toString b.device_id.val := h
  rcases key_strip hb with ⟨hn, hd⟩ | hd
  · obtain ⟨name, dev⟩ := a
    obtain ⟨name', dev'⟩ := b
    obtain rfl : name = name' := hn
    exact congrArg _ (DeviceId.ext_val (toString_injective hd.symm))
  · exact absurd hd (dot_not_mem_toString _)

end XousSignalClient
