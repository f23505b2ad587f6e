import Mathlib.Data.List.Induction
import XousSignalClient.Interaction.Program

namespace Interaction

section Latest

variable {Op κ : Type} [DecidableEq κ]

def latest (key : Op → κ) (ops : List Op) (k : κ) : Option Op :=
  (ops.filter (fun op => key op = k)).getLast?

@[simp] theorem latest_nil (key : Op → κ) (k : κ) : latest key [] k = none := rfl

theorem latest_append_singleton (key : Op → κ) (ops : List Op) (op : Op) (k : κ) :
    latest key (ops ++ [op]) k = if key op = k then some op else latest key ops k := by
  unfold latest
  rw [List.filter_append]
  by_cases hk : key op = k
  · simp [hk]
  · simp [hk]

theorem latest_mem {key : Op → κ} {ops : List Op} {k : κ} {op : Op} (h : latest key ops k = some op) :
    op ∈ ops ∧ key op = k := by
  simpa using List.mem_of_getLast? h

end Latest

namespace Program

variable {S : Signature} {σ α Op : Type}

def after (h : Handler S σ) (program : Op → Program S α) (ops : List Op) (s : σ) : σ :=
  ops.foldl (fun s op => ((program op).run h s).state) s

variable {h : Handler S σ} {program : Op → Program S α}

@[simp] theorem after_nil (s : σ) : after h program [] s = s := rfl

@[simp] theorem after_append_singleton (ops : List Op) (op : Op) (s : σ) :
    after h program (ops ++ [op]) s = ((program op).run h (after h program ops s)).state := by
  rw [after, List.foldl_append]
  rfl

theorem after_preserves {I : σ → Prop} {ops : List Op} {s : σ} (hs : I s)
    (hstep : ∀ op ∈ ops, ∀ t, I t → I ((program op).run h t).state) : I (after h program ops s) := by
  induction ops using List.reverseRecOn with
  | nil => exact hs
  | append_singleton ops op ih =>
    rw [after_append_singleton]
    apply hstep op (by simp)
    exact ih (fun op' hop' => hstep op' (by simp [hop']))

theorem view_after {κ β : Type} [DecidableEq κ] {key : Op → κ} (view : σ → κ → β) {effect : Op → β}
    {ops : List Op} (hstep : ∀ op ∈ ops, ∀ t k,
      view ((program op).run h t).state k = if key op = k then effect op else view t k) (s : σ) (k : κ) :
    view (after h program ops s) k = ((latest key ops k).map effect).getD (view s k) := by
  induction ops using List.reverseRecOn with
  | nil => rfl
  | append_singleton ops op ih =>
    have hbefore := ih (fun op' hop' => hstep op' (by simp [hop']))
    rw [after_append_singleton, hstep op (by simp), latest_append_singleton]
    by_cases hk : key op = k
    · rw [if_pos hk, if_pos hk]
      rfl
    · rw [if_neg hk, if_neg hk, hbefore]

end Program

end Interaction
