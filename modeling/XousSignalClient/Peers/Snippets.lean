import Mathlib.Order.Bounds.Basic
import XousSignalClient.Peers

namespace XousSignalClient

open Encoding

theorem sliceTo_eq_ok {s t : String} {n : ℕ} (h : sliceTo s n = .ok t) :
    (∃ u, s = t ++ u) ∧ (utf8 t).length = n := by
  unfold sliceTo at h
  cases hslice : slicePrefix s.toList n with
  | none => simp [hslice] at h
  | some cs =>
    simp only [hslice, Except.ok.injEq] at h
    obtain ⟨rest, hs, hlen⟩ := slicePrefix_length hslice
    subst h
    constructor
    · refine ⟨String.ofList rest, ?_⟩
      rw [← String.ofList_append, ← hs, String.ofList_toList]
    · rw [utf8, String.toList_ofList, hlen]

namespace Peers

theorem isGreatest_boundaryBelow (s : String) (n : ℕ) :
    IsGreatest {k | IsCharBoundary s k ∧ k ≤ n} (boundaryBelow s.toList n) := by
  induction n with
  | zero =>
    constructor
    · exact ⟨⟨"", s, by simp, rfl⟩, le_rfl⟩
    · exact fun k hk => hk.2
  | succ n ih =>
    rw [boundaryBelow]
    split_ifs with h
    · constructor
      · exact ⟨slicePrefix_isSome_iff.mp h, le_rfl⟩
      · exact fun k hk => hk.2
    · have hnot : ¬IsCharBoundary s (n + 1) := fun hb => h (slicePrefix_isSome_iff.mpr hb)
      constructor
      · exact ⟨ih.1.1, ih.1.2.trans (Nat.le_succ n)⟩
      · rintro k ⟨hk, hle⟩
        have hne : k ≠ n + 1 := by
          rintro rfl
          exact hnot hk
        exact ih.2 ⟨hk, by omega⟩

theorem boundaryBelow_near {s : String} {n : ℕ} (hn : n ≤ (utf8 s).length) : n ≤ boundaryBelow s.toList n + 3 := by
  obtain ⟨k, hk, hle, hnear⟩ := exists_isCharBoundary_near hn
  have := (isGreatest_boundaryBelow s n).2 ⟨hk, hle⟩
  omega

theorem truncate_snippet_short {s : String} (h : (utf8 s).length ≤ SNIPPET_MAX_BYTES) :
    truncate_snippet s = .ok s := by
  rw [truncate_snippet, if_pos h]

theorem truncate_snippet_long {s : String} (h : SNIPPET_MAX_BYTES < (utf8 s).length) :
    ∃ t u, s = t ++ u ∧ truncate_snippet s = .ok (t ++ "…") ∧
      (utf8 t).length = boundaryBelow s.toList SNIPPET_MAX_BYTES := by
  have hsome : ∃ t, sliceTo s (boundaryBelow s.toList SNIPPET_MAX_BYTES) = .ok t := by
    obtain ⟨cs, hcs⟩ := Option.isSome_iff_exists.mp (slicePrefix_boundary s.toList SNIPPET_MAX_BYTES)
    exact ⟨String.ofList cs, by rw [sliceTo, hcs]⟩
  obtain ⟨t, ht⟩ := hsome
  obtain ⟨⟨u, hu⟩, hlen⟩ := sliceTo_eq_ok ht
  refine ⟨t, u, hu, ?_, hlen⟩
  rw [truncate_snippet, if_neg (Nat.not_le.mpr h), ht]
  rfl

theorem length_utf8_ellipsis : (utf8 "…").length = 3 := rfl

theorem truncate_snippet_spec (s : String) :
    ∃ snippet, truncate_snippet s = .ok snippet ∧ (utf8 snippet).length ≤ 83 ∧
      ((utf8 s).length ≤ 80 → snippet = s) ∧
      (80 < (utf8 s).length → ∃ t u, s = t ++ u ∧ snippet = t ++ "…" ∧
        IsGreatest {k | IsCharBoundary s k ∧ k ≤ 80} (utf8 t).length ∧ 77 ≤ (utf8 t).length) := by
  by_cases h : (utf8 s).length ≤ 80
  · refine ⟨s, truncate_snippet_short h, by omega, fun _ => rfl, fun hlong => ?_⟩
    omega
  · obtain ⟨t, u, hs, ht, hlen⟩ := truncate_snippet_long (Nat.not_le.mp h)
    have hgreatest := isGreatest_boundaryBelow s 80
    have hnear := boundaryBelow_near (Nat.not_le.mp h).le
    simp only [SNIPPET_MAX_BYTES] at hlen
    rw [← hlen] at hgreatest hnear
    refine ⟨t ++ "…", ht, ?_, fun hshort => absurd hshort h, fun _ => ⟨t, u, hs, rfl, hgreatest, by omega⟩⟩
    have := hgreatest.1.2
    rw [utf8_append, List.length_append, length_utf8_ellipsis]
    omega

end Peers

end XousSignalClient
