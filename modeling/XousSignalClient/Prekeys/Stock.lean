import XousSignalClient.Faults
import XousSignalClient.Prekeys.Replenish

namespace XousSignalClient

open Encoding Interaction Fallible

section Slots

def slot (first i : ℕ) : ℕ := (first - 1 + i) % MEDIUM_MAX + 1

theorem slot_range (first i : ℕ) : 1 ≤ slot first i ∧ slot first i ≤ MEDIUM_MAX := by
  have : (first - 1 + i) % MEDIUM_MAX < MEDIUM_MAX := Nat.mod_lt _ (by decide)
  rw [slot]
  omega

theorem slot_zero {first : ℕ} (h : 1 ≤ first ∧ first ≤ MEDIUM_MAX) : slot first 0 = first := by
  rw [slot, Nat.mod_eq_of_lt (by omega)]
  omega

theorem next_slot (first i : ℕ) : next_prekey_id (slot first i) = slot first (i + 1) := by
  by_cases h : slot first i ≥ MEDIUM_MAX
  · rw [next_prekey_id, if_pos h]
    simp only [slot, MEDIUM_MAX] at h ⊢
    generalize first - 1 = base at h ⊢
    omega
  · rw [next_prekey_id, if_neg h]
    simp only [slot, MEDIUM_MAX] at h ⊢
    generalize first - 1 = base at h ⊢
    omega

theorem slot_injective {first i j : ℕ} (hi : i < MEDIUM_MAX) (hj : j < MEDIUM_MAX)
    (h : slot first i = slot first j) : i = j := by
  simp only [slot, MEDIUM_MAX] at h hi hj
  generalize first - 1 = base at h
  omega

theorem slot_add {first m n : ℕ} (h : slot first m + n ≤ MEDIUM_MAX) : slot first (m + n) = slot first m + n := by
  simp only [slot, MEDIUM_MAX] at h ⊢
  generalize first - 1 = base at h ⊢
  rw [← Nat.add_assoc]
  omega

end Slots

section Counter

def Pddb.counter (p : Pddb) : Option Bytes := p.value ACCOUNT_DICT ACI_NEXT_PREKEY_ID_KEY

def counterValue (text : Bytes) : Option ℕ := (from_utf8 text).bind counterOf

theorem counterValue_toString {n : ℕ} (hn : n ≤ MEDIUM_MAX) :
    counterValue (utf8 (toString n)) = if 1 ≤ n then some n else none := by
  have hbound : n < 2 ^ 32 := hn.trans_lt (by decide)
  rw [counterValue, from_utf8_utf8, Option.bind_some, counterOf, trim_toString, parseUnsigned_toString hbound]
  simp only [hn, and_true]

theorem counterValue_slot (first i : ℕ) : counterValue (utf8 (toString (slot first i))) = some (slot first i) := by
  rw [counterValue_toString (slot_range first i).2, if_pos (slot_range first i).1]

theorem length_utf8_toString (n : ℕ) : (utf8 (toString n)).length = (Nat.toDigits 10 n).length := by
  have hsize : ∀ c ∈ Nat.toDigits 10 n, (String.utf8EncodeChar c).length = 1 := by
    intro c hc
    have hd : c.isDigit = true := Nat.isDigit_of_mem_toDigits (by decide) (by decide) hc
    rw [String.length_utf8EncodeChar, Char.utf8Size_eq_one_iff]
    simp only [Char.isDigit, ge_iff_le, Bool.and_eq_true, decide_eq_true_eq] at hd
    exact UInt32.le_trans hd.2 (by decide)
  rw [utf8, Nat.toString_eq_ofList_toDigits, String.toList_ofList, List.length_flatMap,
    List.map_congr_left hsize]
  simp

theorem length_toString_mono {m n : ℕ} (h : m ≤ n) :
    (utf8 (toString m)).length ≤ (utf8 (toString n)).length := by
  rw [length_utf8_toString, length_utf8_toString,
    Nat.length_toDigits_le_iff (by decide) Nat.length_toDigits_pos]
  exact h.trans_lt ((Nat.length_toDigits_le_iff (by decide) Nat.length_toDigits_pos).mp le_rfl)

end Counter

section World

/-- The device and the server's stock of its one-time prekeys. `stock` is what the server holds and has not
handed out; `allocated` records the keys of `sigchat.prekey` that cycles have begun to save, `overwritten` those
that were written while an uploaded and unconsumed prekey had them. -/
structure Phone where
  pddb : Pddb
  stock : List (ℕ × String)
  handed : List ℕ
  consumed : List ℕ
  allocated : List String
  overwritten : List String

namespace Phone

def live (s : Phone) : List ℕ := s.stock.map Prod.fst ++ s.handed.filter (· ∉ s.consumed)

def note (s : Phone) : PddbCall → Phone
  | .delete dict key => if dict = PREKEY_DICT then { s with allocated := s.allocated ++ [key] } else s
  | .write dict key _ =>
    if dict = PREKEY_DICT ∧ key ∈ s.live.map toString then { s with overwritten := s.overwritten ++ [key] } else s
  | _ => s

def accept (s : Phone) (body : SetKeysRequest) : Phone :=
  { s with stock := s.stock ++ body.pre_keys.map (fun k => (k.key_id, k.public_key)) }

inductive Moves (s : Phone) : Phone → Prop where
  | handOut {entry : ℕ × String} (h : entry ∈ s.stock) :
      Moves s { s with stock := s.stock.erase entry, handed := entry.1 :: s.handed }
  | consume {id : ℕ} (h : id ∈ s.handed) :
      Moves s { s with
        pddb := ((PddbPreKeyStore.remove_pre_key id).run Pddb.handler s.pddb).state
        consumed := id :: s.consumed }

end Phone

structure Regime where
  fails : Phone → PddbCall → Prop
  crashes : Phone → Prop

def Regime.reliable : Regime := ⟨fun _ _ => False, fun _ => False⟩

def Regime.faulty : Regime := ⟨fun _ _ => True, fun _ => True⟩

def Phone.Kept (s : Phone) : Prop := ∃ text, s.pddb.counter = some text ∧ text ≠ []

/-- Requests on other keys may fail as they like. Once an id is allocated, the device does not crash and the
counter is not written in vain while it is missing or empty; a counter that is stored can be read; and its
deletion fails only where a batch that does not wrap around goes on top of it. -/
def Regime.careful (batch_size : ℕ) : Regime where
  fails s c :=
    match c with
    | .read dict key => (dict, key) = (ACCOUNT_DICT, ACI_NEXT_PREKEY_ID_KEY) → s.pddb.counter = none
    | .delete dict key => (dict, key) = (ACCOUNT_DICT, ACI_NEXT_PREKEY_ID_KEY) →
        ∀ text, s.pddb.counter = some text → ∃ n, text = utf8 (toString n) ∧ n + batch_size ≤ MEDIUM_MAX
    | .write dict key _ => (dict, key) = (ACCOUNT_DICT, ACI_NEXT_PREKEY_ID_KEY) → s.Kept ∨ s.allocated = []
    | _ => True
  crashes s := s.Kept ∨ s.allocated = []

def Regime.surroundings (K : PreKeyCrate) (R : Regime) : Surroundings (keysSignature K) Phone where
  answers c s r t :=
    match c, r with
    | .pddb c, r => ∃ q, Pddb.Answers (R.fails s) (R.fails s) c s.pddb r q ∧ t = { s.note c with pddb := q }
    | .next_u32, _ => t = s
    | .generate, _ => t = s
    | .get_keys_status, _ => t = s
    | .put_keys body, .ok () => t = s.accept body
    | .put_keys body, .error _ => t = s ∨ t = s.accept body
  moves := Phone.Moves

end World

end XousSignalClient
