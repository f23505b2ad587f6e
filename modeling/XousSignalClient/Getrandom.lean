import XousSignalClient.Encoding.Utf8
import XousSignalClient.Interaction.Fallible

namespace XousSignalClient.Getrandom

open Encoding Interaction

inductive XousResult where
  | scalar2 (first second : UInt32)
  | other

inductive XousCall where
  | new_names
  | request_connection_blocking (name : String)
  | load_conn
  | store_conn (conn : UInt32)
  | send_message (conn : UInt32) (opcode arg : ℕ)

/-- `none` is an error of the kernel. -/
def XousCall.Reply : XousCall → Type
  | new_names => Option Unit
  | request_connection_blocking _ => Option UInt32
  | load_conn => UInt32
  | store_conn _ => Unit
  | send_message _ _ _ => Option XousResult

def xousSignature : Signature := ⟨XousCall, XousCall.Reply⟩

inductive Panic where
  | noNames
  | noConnection
  | ipcFailed
  | unexpectedResponse (response : XousResult)
  | lengthMismatch

abbrev XousProgram (α : Type) := Fallible xousSignature Panic α

def perform (c : XousCall) : XousProgram (XousCall.Reply c) := Fallible.call (S := xousSignature) c

def expect {α : Type} (p : Panic) : Option α → XousProgram α
  | some a => pure a
  | none => throw p

def ensure_trng_conn : XousProgram Unit := do
  let conn : UInt32 ← perform .load_conn
  if conn = 0 then
    let names ← perform .new_names
    let _ ← expect .noNames names
    let found ← perform (.request_connection_blocking "_TRNG manager_")
    let conn ← expect .noConnection found
    perform (.store_conn conn)
  else pure ()

def GET_TRNG : ℕ := 0

def get_trng (count : ℕ) : XousProgram (UInt32 × UInt32) := do
  let conn ← perform .load_conn
  let sent ← perform (.send_message conn GET_TRNG count)
  let response ← expect .ipcFailed sent
  match response with
  | .scalar2 first second => pure (first, second)
  | .other => throw (.unexpectedResponse .other)

def next_u32 : XousProgram UInt32 := do
  let (trng, _) ← get_trng 1
  pure trng

def next_u64 : XousProgram UInt64 := do
  let (lo, hi) ← get_trng 2
  pure (lo.toUInt64 ||| (hi.toUInt64 <<< 32))

def u32_to_ne_bytes (v : UInt32) : Bytes := (List.range 4).map fun j => (v >>> UInt32.ofNat (8 * j)).toUInt8

def u64_to_ne_bytes (v : UInt64) : Bytes := (List.range 8).map fun j => (v >>> UInt64.ofNat (8 * j)).toUInt8

def copy_from_slice (dst src : Bytes) : XousProgram Bytes :=
  if dst.length = src.length then pure src else throw .lengthMismatch

def fill_tail (left : Bytes) : XousProgram Bytes :=
  let n := left.length
  if 4 < n then do
    let word ← next_u64
    copy_from_slice left ((u64_to_ne_bytes word).take n)
  else if 0 < n then do
    let word ← next_u32
    copy_from_slice left ((u32_to_ne_bytes word).take n)
  else pure left

def fill_from_trng (left : Bytes) : XousProgram Bytes :=
  if 8 ≤ left.length then do
    let word ← next_u64
    let chunk ← copy_from_slice (left.take 8) (u64_to_ne_bytes word)
    let rest ← fill_from_trng (left.drop 8)
    pure (chunk ++ rest)
  else fill_tail left
termination_by left.length
decreasing_by
  simp only [List.length_drop]
  omega

def getrandom_v03_custom (dest : Bytes) : XousProgram Bytes :=
  if dest.length = 0 then pure dest
  else do
    ensure_trng_conn
    fill_from_trng dest

/-! A TRNG that answers every request with the next element of a stream. -/

structure Trng where
  conn : UInt32
  answered : ℕ

def trngAnswer (answers : ℕ → UInt32 × UInt32) : (c : XousCall) → Trng → XousCall.Reply c × Trng
  | .new_names, s => (some (), s)
  | .request_connection_blocking _, s => (some 1, s)
  | .load_conn, s => (s.conn, s)
  | .store_conn conn, s => ((), { s with conn := conn })
  | .send_message _ _ _, s =>
    (some (.scalar2 (answers s.answered).1 (answers s.answered).2), { s with answered := s.answered + 1 })

def trng (answers : ℕ → UInt32 × UInt32) : Handler xousSignature Trng := ⟨trngAnswer answers⟩

def request? (e : Event xousSignature Trng) : Option ℕ :=
  match e.call with
  | .send_message _ _ count => some count
  | _ => none

def answerByte (answer : UInt32 × UInt32) (k : ℕ) : UInt8 :=
  if k < 4 then (answer.1 >>> UInt32.ofNat (8 * k)).toUInt8
  else (answer.2 >>> UInt32.ofNat (8 * (k - 4))).toUInt8

def freshBytes (answers : ℕ → UInt32 × UInt32) (n : ℕ) : Bytes :=
  (List.range n).map fun i => answerByte (answers (i / 8)) (i % 8)

theorem u32_to_ne_bytes_eq (answer : UInt32 × UInt32) :
    u32_to_ne_bytes answer.1 = (List.range 4).map (answerByte answer) := by
  apply List.map_congr_left
  intro k hk
  rw [answerByte, if_pos (List.mem_range.mp hk)]

theorem word_toNat (lo hi : UInt32) :
    (lo.toUInt64 ||| (hi.toUInt64 <<< 32)).toNat = 2 ^ 32 * hi.toNat + lo.toNat := by
  have hhi := hi.toNat_lt
  have hshift : hi.toNat <<< 32 % 2 ^ 64 = 2 ^ 32 * hi.toNat := by
    rw [Nat.shiftLeft_eq, Nat.mod_eq_of_lt (by omega), Nat.mul_comm]
  rw [UInt64.toNat_or, UInt64.toNat_shiftLeft, UInt32.toNat_toUInt64, UInt32.toNat_toUInt64, Nat.or_comm]
  change hi.toNat <<< 32 % 2 ^ 64 ||| lo.toNat = _
  rw [hshift, ← Nat.two_pow_add_eq_or_of_lt lo.toNat_lt]

theorem low_byte {k : ℕ} (hk : k < 4) (hi lo : ℕ) :
    (2 ^ 32 * hi + lo) >>> (8 * k) % 2 ^ 8 = lo >>> (8 * k) % 2 ^ 8 := by
  obtain rfl | rfl | rfl | rfl : k = 0 ∨ k = 1 ∨ k = 2 ∨ k = 3 := by omega
  all_goals
    simp only [Nat.shiftRight_eq_div_pow]
    omega

theorem high_byte {k : ℕ} (hk : k < 8) (h : ¬k < 4) {hi lo : ℕ} (hlo : lo < 2 ^ 32) :
    (2 ^ 32 * hi + lo) >>> (8 * k) % 2 ^ 8 = hi >>> (8 * (k - 4)) % 2 ^ 8 := by
  obtain rfl | rfl | rfl | rfl : k = 4 ∨ k = 5 ∨ k = 6 ∨ k = 7 := by omega
  all_goals
    simp only [Nat.shiftRight_eq_div_pow]
    omega

theorem u64_to_ne_bytes_eq (answer : UInt32 × UInt32) :
    u64_to_ne_bytes (answer.1.toUInt64 ||| (answer.2.toUInt64 <<< 32)) =
      (List.range 8).map (answerByte answer) := by
  apply List.map_congr_left
  intro k hk
  rw [List.mem_range] at hk
  have hshift : (UInt64.ofNat (8 * k)).toNat % 64 = 8 * k := by
    rw [UInt64.toNat_ofNat', Nat.mod_eq_of_lt (by omega : 8 * k < 2 ^ 64), Nat.mod_eq_of_lt (by omega)]
  have hshift' (j : ℕ) (hj : j < 4) : (UInt32.ofNat (8 * j)).toNat % 32 = 8 * j := by
    rw [UInt32.toNat_ofNat', Nat.mod_eq_of_lt (by omega : 8 * j < 2 ^ 32), Nat.mod_eq_of_lt (by omega)]
  apply UInt8.toNat_inj.mp
  unfold answerByte
  split_ifs with h
  · rw [UInt64.toNat_toUInt8, UInt32.toNat_toUInt8, UInt64.toNat_shiftRight, UInt32.toNat_shiftRight, word_toNat,
      hshift, hshift' k h, low_byte h]
  · rw [UInt64.toNat_toUInt8, UInt32.toNat_toUInt8, UInt64.toNat_shiftRight, UInt32.toNat_shiftRight, word_toNat,
      hshift, hshift' (k - 4) (by omega), high_byte hk h answer.1.toNat_lt]

@[simp] theorem length_freshBytes (answers : ℕ → UInt32 × UInt32) (n : ℕ) : (freshBytes answers n).length = n := by
  simp [freshBytes]

theorem freshBytes_add_eight (answers : ℕ → UInt32 × UInt32) (n : ℕ) :
    freshBytes answers (8 + n) =
      (List.range 8).map (answerByte (answers 0)) ++ freshBytes (fun k => answers (k + 1)) n := by
  have hnow : freshBytes answers 8 = (List.range 8).map (answerByte (answers 0)) := by
    apply List.map_congr_left
    intro i hi
    rw [List.mem_range] at hi
    rw [Nat.div_eq_of_lt hi, Nat.mod_eq_of_lt hi]
  have hlater : (List.range n).map (fun i => answerByte (answers ((8 + i) / 8)) ((8 + i) % 8)) =
      freshBytes (fun k => answers (k + 1)) n := by
    apply List.map_congr_left
    intro i _
    rw [Nat.add_mod_left, Nat.add_div_left i (by omega)]
  rw [← hnow, ← hlater, freshBytes, List.range_add, List.map_append, List.map_map]
  rfl

theorem freshBytes_eq_take (answers : ℕ → UInt32 × UInt32) {n m : ℕ} (hn : n ≤ m) (hm : m ≤ 8) :
    freshBytes answers n = ((List.range m).map (answerByte (answers 0))).take n := by
  rw [← List.map_take, List.take_range, Nat.min_eq_left hn]
  apply List.map_congr_left
  intro i hi
  rw [List.mem_range] at hi
  rw [Nat.div_eq_of_lt (by omega), Nat.mod_eq_of_lt (by omega)]

theorem get_trng_exec (answers : ℕ → UInt32 × UInt32) (count : ℕ) (s : Trng) :
    ∃ es, es.filterMap request? = [count] ∧
      (get_trng count).exec (trng answers) s =
        ⟨.ok (answers s.answered), { s with answered := s.answered + 1 }, es⟩ := by
  refine ⟨_, ?_, rfl⟩
  rfl

theorem next_u64_exec (answers : ℕ → UInt32 × UInt32) (s : Trng) :
    ∃ es, es.filterMap request? = [2] ∧
      next_u64.exec (trng answers) s =
        ⟨.ok ((answers s.answered).1.toUInt64 ||| ((answers s.answered).2.toUInt64 <<< 32)),
          { s with answered := s.answered + 1 }, es⟩ := by
  obtain ⟨es, hes, h⟩ := get_trng_exec answers 2 s
  refine ⟨es, hes, ?_⟩
  rw [next_u64, Fallible.exec_bind_ok h]
  simp

theorem next_u32_exec (answers : ℕ → UInt32 × UInt32) (s : Trng) :
    ∃ es, es.filterMap request? = [1] ∧
      next_u32.exec (trng answers) s =
        ⟨.ok (answers s.answered).1, { s with answered := s.answered + 1 }, es⟩ := by
  obtain ⟨es, hes, h⟩ := get_trng_exec answers 1 s
  refine ⟨es, hes, ?_⟩
  rw [next_u32, Fallible.exec_bind_ok h]
  simp

theorem copy_from_slice_eq {dst src : Bytes} (h : dst.length = src.length) :
    copy_from_slice dst src = pure src := by
  rw [copy_from_slice, if_pos h]

def tailRequests (n : ℕ) : List ℕ := if 4 < n then [2] else if 0 < n then [1] else []

theorem fill_tail_exec (answers : ℕ → UInt32 × UInt32) {left : Bytes} (hleft : left.length < 8) (s : Trng) :
    ∃ s' es, es.filterMap request? = tailRequests left.length ∧
      (fill_tail left).exec (trng answers) s =
        ⟨.ok (freshBytes (fun k => answers (s.answered + k)) left.length), s', es⟩ := by
  by_cases h4 : 4 < left.length
  · obtain ⟨es, hes, hword⟩ := next_u64_exec answers s
    refine ⟨{ s with answered := s.answered + 1 }, es, ?_, ?_⟩
    · rw [hes, tailRequests, if_pos h4]
    · simp only [fill_tail, if_pos h4]
      rw [Fallible.exec_bind_ok hword, u64_to_ne_bytes_eq, copy_from_slice_eq (by simp; omega),
        freshBytes_eq_take _ (Nat.le_of_lt hleft) (Nat.le_refl 8)]
      simp
  by_cases h0 : 0 < left.length
  · obtain ⟨es, hes, hword⟩ := next_u32_exec answers s
    refine ⟨{ s with answered := s.answered + 1 }, es, ?_, ?_⟩
    · rw [hes, tailRequests, if_neg h4, if_pos h0]
    · simp only [fill_tail, if_neg h4, if_pos h0]
      rw [Fallible.exec_bind_ok hword, u32_to_ne_bytes_eq, copy_from_slice_eq (by simp; omega),
        freshBytes_eq_take _ (by omega : left.length ≤ 4) (by omega)]
      simp
  · have hnil : left = [] := List.eq_nil_of_length_eq_zero (by omega)
    subst hnil
    exact ⟨s, [], rfl, rfl⟩

theorem requests_add_eight (n : ℕ) :
    List.replicate ((8 + n) / 8) 2 ++ tailRequests ((8 + n) % 8) =
      2 :: (List.replicate (n / 8) 2 ++ tailRequests (n % 8)) := by
  rw [Nat.add_div_left n (by omega), Nat.add_mod_left, List.replicate_succ, List.cons_append]

theorem fill_from_trng_exec (answers : ℕ → UInt32 × UInt32) (left : Bytes) (s : Trng) :
    ∃ s' es, es.filterMap request? = List.replicate (left.length / 8) 2 ++ tailRequests (left.length % 8) ∧
      (fill_from_trng left).exec (trng answers) s =
        ⟨.ok (freshBytes (fun k => answers (s.answered + k)) left.length), s', es⟩ := by
  induction left using fill_from_trng.induct generalizing s with
  | case1 left h ih =>
    obtain ⟨es, hes, hword⟩ := next_u64_exec answers s
    obtain ⟨s', es', hes', hrest⟩ := ih { s with answered := s.answered + 1 }
    have hlength : left.length = 8 + (left.drop 8).length := by
      rw [List.length_drop]
      omega
    have hshift : (fun k => answers (s.answered + 1 + k)) = fun k => answers (s.answered + (k + 1)) := by
      funext k
      congr 1
      omega
    rw [hshift] at hrest
    refine ⟨s', es ++ es', ?_, ?_⟩
    · rw [List.filterMap_append, hes, hes', hlength, requests_add_eight, List.singleton_append]
    · rw [fill_from_trng, if_pos h, Fallible.exec_bind_ok hword, u64_to_ne_bytes_eq,
        copy_from_slice_eq (by simp; omega), pure_bind, Fallible.exec_bind_ok hrest, hlength,
        freshBytes_add_eight]
      simp
  | case2 left h =>
    have hlt : left.length < 8 := Nat.not_le.mp h
    rw [fill_from_trng, if_neg h, Nat.div_eq_of_lt hlt, Nat.mod_eq_of_lt hlt]
    exact fill_tail_exec answers hlt s

theorem fill_from_trng_eq (answers : ℕ → UInt32 × UInt32) (conn : UInt32) (buf : Bytes) :
    ∃ s' es, es.filterMap request? = List.replicate (buf.length / 8) 2 ++ tailRequests (buf.length % 8) ∧
      (fill_from_trng buf).exec (trng answers) ⟨conn, 0⟩ = ⟨.ok (freshBytes answers buf.length), s', es⟩ := by
  have hstream : (fun k => answers (0 + k)) = answers := by
    funext k
    rw [Nat.zero_add]
  have h := fill_from_trng_exec answers buf ⟨conn, 0⟩
  rwa [hstream] at h

theorem fill_from_trng_bytes (answers : ℕ → UInt32 × UInt32) (conn : UInt32) (buf : Bytes) :
    ∃ filled, ((fill_from_trng buf).exec (trng answers) ⟨conn, 0⟩).value = .ok filled ∧
      filled.length = buf.length ∧
      (∀ i < buf.length, filled[i]? = some (answerByte (answers (i / 8)) (i % 8))) ∧
      (∀ i j, i / 8 = j / 8 → i % 8 = j % 8 → i = j) ∧
      (∀ old : Bytes, old.length = buf.length →
        ((fill_from_trng old).exec (trng answers) ⟨conn, 0⟩).value = .ok filled) ∧
      (((fill_from_trng buf).exec (trng answers) ⟨conn, 0⟩).events.filterMap request?) =
        List.replicate (buf.length / 8) 2 ++
          (if 4 < buf.length % 8 then [2] else if 0 < buf.length % 8 then [1] else []) := by
  obtain ⟨s', es, hes, hexec⟩ := fill_from_trng_eq answers conn buf
  rw [hexec]
  refine ⟨_, rfl, length_freshBytes answers _, ?_, by omega, ?_, hes⟩
  · intro i hi
    rw [freshBytes, List.getElem?_map, List.getElem?_range hi, Option.map_some]
  · intro old hold
    obtain ⟨_, _, _, hexec'⟩ := fill_from_trng_eq answers conn old
    rw [hexec', hold]

theorem ensure_trng_conn_exec (answers : ℕ → UInt32 × UInt32) (conn : UInt32) :
    ∃ conn' es, es.filterMap request? = [] ∧
      ensure_trng_conn.exec (trng answers) ⟨conn, 0⟩ = ⟨.ok (), ⟨conn', 0⟩, es⟩ := by
  by_cases h : conn = 0
  · subst h
    exact ⟨1, _, rfl, rfl⟩
  · have hload : (perform .load_conn).exec (trng answers) ⟨conn, 0⟩ =
        ⟨.ok conn, ⟨conn, 0⟩, [⟨⟨conn, 0⟩, .load_conn, conn⟩]⟩ := rfl
    refine ⟨conn, [⟨⟨conn, 0⟩, .load_conn, conn⟩], rfl, ?_⟩
    refine (Fallible.exec_bind_ok hload).trans ?_
    rw [if_neg h]
    rfl

theorem getrandom_v03_custom_fills (answers : ℕ → UInt32 × UInt32) (conn : UInt32) (dest : Bytes) :
    ((getrandom_v03_custom dest).exec (trng answers) ⟨conn, 0⟩).value = .ok (freshBytes answers dest.length) := by
  unfold getrandom_v03_custom
  by_cases h : dest.length = 0
  · rw [if_pos h, Fallible.exec_pure, List.eq_nil_of_length_eq_zero h]
    rfl
  · obtain ⟨conn', es, -, hconn⟩ := ensure_trng_conn_exec answers conn
    obtain ⟨s', es', -, hfill⟩ := fill_from_trng_eq answers conn' dest
    rw [if_neg h, Fallible.exec_bind_ok hconn, hfill]

end XousSignalClient.Getrandom
