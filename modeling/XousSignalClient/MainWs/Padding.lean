import Mathlib.Order.Bounds.Defs
import XousSignalClient.MainWs.Content

namespace XousSignalClient

open Encoding

theorem strip_eq_unmark (p : Bytes) : strip_signal_padding p = unmark 0x80 0x00 p := rfl

theorem marker_ne_fill : (0x80 : UInt8) ≠ 0x00 := by simp

/-- Both removals run one after the other: what has no marker still loses its zeros. -/
theorem strip_signal_padding_of_not_marked {p : Bytes} (hp : ¬Marked 0x80 0x00 p) :
    strip_signal_padding p = p.rdropWhile (· = 0x00) := by
  rw [strip_eq_unmark, unmark_of_not_marked marker_ne_fill hp]

theorem strip_unpadded_iff (p : Bytes)
    (hp : ¬∃ c n, p = c ++ 0x80 :: List.replicate n 0x00) :
    strip_signal_padding p = p ↔ p.getLast? ≠ some 0x00 := by
  rw [strip_eq_unmark]
  exact unmark_eq_self_iff marker_ne_fill hp

theorem strip_unpadded_hello :
    strip_signal_padding [0x68, 0x65, 0x6c, 0x6c, 0x6f] = [0x68, 0x65, 0x6c, 0x6c, 0x6f] ↔
      ([0x68, 0x65, 0x6c, 0x6c, 0x6f] : Bytes).getLast? ≠ some 0x00 := by
  refine strip_unpadded_iff _ ?_
  have h := not_marked_append marker_ne_fill (c := [0x68, 0x65, 0x6c, 0x6c, 0x6f]) (by simp) (by simp) 0
  simpa [Marked] using h

/-- A data message whose last field is the timestamp 0. -/
theorem strip_truncates_timestamp :
    (¬∃ c n, ([0x0a, 0x02, 0x38, 0x00] : Bytes) = c ++ 0x80 :: List.replicate n 0x00) ∧
      strip_signal_padding [0x0a, 0x02, 0x38, 0x00] = [0x0a, 0x02, 0x38] := by
  have hp : ¬Marked 0x80 0x00 ([0x0a, 0x02, 0x38, 0x00] : Bytes) :=
    not_marked_append marker_ne_fill (c := [0x0a, 0x02, 0x38]) (by simp) (by simp) 1
  refine ⟨hp, ?_⟩
  rw [strip_signal_padding_of_not_marked hp]
  simp [List.rdropWhile]

theorem length_padZeros (content : Bytes) : (padZeros content).length % 160 = 0 := by
  induction content using padZeros.induct with
  | case1 content h ih => rwa [padZeros, if_pos h]
  | case2 content h =>
    rw [padZeros, if_neg h]
    exact not_not.mp h

theorem isLeast_length_signal_pad (m : Bytes) :
    IsLeast {k | 160 ∣ k ∧ m.length < k} (signal_pad m).length := by
  have hmod : (signal_pad m).length % 160 = 0 := length_padZeros _
  have hlen := length_signal_pad m
  constructor
  · exact ⟨Nat.dvd_of_mod_eq_zero hmod, hlen.1⟩
  · rintro k ⟨hk, hm⟩
    have := Nat.mod_eq_zero_of_dvd hk
    omega

theorem signal_pad_injective : Function.Injective signal_pad :=
  Function.LeftInverse.injective strip_signal_pad

theorem pad_then_strip_round_trips (m : Bytes) :
    (∃ n, signal_pad m = m ++ [0x80] ++ List.replicate n 0x00) ∧
      IsLeast {k | 160 ∣ k ∧ m.length < k} (signal_pad m).length ∧
      strip_signal_padding (signal_pad m) = m ∧
      ∀ m', signal_pad m' = signal_pad m → m' = m := by
  obtain ⟨n, -, hn⟩ := signal_pad_eq m
  refine ⟨⟨n, ?_⟩, isLeast_length_signal_pad m, strip_signal_pad m, fun m' h => signal_pad_injective h⟩
  rw [hn, List.append_assoc, List.singleton_append]

end XousSignalClient
