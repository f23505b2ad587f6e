import Mathlib.Data.List.Sort
import XousSignalClient.Address
import XousSignalClient.Pddb

namespace XousSignalClient

open Encoding Interaction

def IDENTITY_DICT : String := "sigchat.identity"

def SESSION_DICT : String := "sigchat.session"

inductive SignalProtocolError where
  | InvalidState (target text : String)
  | Other (text : String)
  deriving DecidableEq

structure SessionFormat where
  SessionRecord : Type
  serialize : SessionRecord → Except SignalProtocolError Bytes
  deserialize : Bytes → Except SignalProtocolError SessionRecord
  remote_registration_id : SessionRecord → Except SignalProtocolError ℕ

def io_err_to_signal (e : IoError) (context : String) : SignalProtocolError :=
  .InvalidState "pddb" (context ++ ": " ++ e.text)

def pddb_read_binary (dict key : String) : PddbProgram (Except IoError Bytes) :=
  pddbRead dict key

def pddb_write_binary (dict key : String) (data : Bytes) : PddbProgram (Except IoError Unit) := do
  let _ ← pddbDelete dict key
  match ← pddbWrite dict key data with
  | .error e => pure (.error e)
  | .ok () =>
    let _ ← pddbSync
    pure (.ok ())

theorem only_write_binary {P : PddbCall → Prop} {dict key : String} {data : Bytes} (hdelete : P (.delete dict key))
    (hwrite : P (.write dict key data)) (hsync : P .sync) : (pddb_write_binary dict key data).Only P := by
  apply (Program.Only.perform (S := pddbSignature) (.delete dict key) hdelete).bind
  intro _
  apply (Program.Only.perform (S := pddbSignature) (.write dict key data) hwrite).bind
  intro r
  cases r with
  | error e => exact .ret _
  | ok u => exact (Program.Only.perform (S := pddbSignature) .sync hsync).bind (fun _ => .ret _)

def dedup : List ℕ → List ℕ
  | [] => []
  | [a] => [a]
  | a :: b :: l => if a = b then dedup (b :: l) else a :: dedup (b :: l)

def sessionDeviceIds (recipient_uuid : String) (keys : List String) : List ℕ :=
  let lead := recipient_uuid ++ "."
  let ids := (keys.filterMap (fun k => strip_prefix k lead)).filterMap (parseUnsigned (2 ^ 32))
  dedup (ids.insertionSort (· ≤ ·))

namespace PddbSessionStore

variable (F : SessionFormat)

def load_session (a : ProtocolAddress) :
    PddbProgram (Except SignalProtocolError (Option F.SessionRecord)) := do
  match ← pddb_read_binary SESSION_DICT a.key with
  | .ok buf => pure ((F.deserialize buf).map some)
  | .error (.notFound _) => pure (.ok none)
  | .error (.other t) => pure (.error (io_err_to_signal (.other t) "read failed"))

def store_session (a : ProtocolAddress) (record : F.SessionRecord) :
    PddbProgram (Except SignalProtocolError Unit) := do
  match F.serialize record with
  | .error e => pure (.error e)
  | .ok buf =>
    match ← pddb_write_binary SESSION_DICT a.key buf with
    | .error e => pure (.error (io_err_to_signal e "write failed"))
    | .ok () => pure (.ok ())

def delete_session (a : ProtocolAddress) : PddbProgram Unit := do
  let _ ← pddbDelete SESSION_DICT a.key
  pure ()

def device_ids_for (recipient_uuid : String) : PddbProgram (List ℕ) := do
  match ← pddbList SESSION_DICT with
  | .error _ => pure []
  | .ok keys => pure (sessionDeviceIds recipient_uuid keys)

end PddbSessionStore

section Requests

variable (F : SessionFormat) {a : ProtocolAddress} {dict key : String}

theorem only_load_session (a : ProtocolAddress) (dict key : String) :
    (PddbSessionStore.load_session F a).Only (PddbCall.Leaves dict key) := by
  apply (Program.Only.perform (S := pddbSignature) (.read SESSION_DICT a.key) trivial).bind
  intro r
  cases r with
  | ok buf => exact .ret _
  | error e => cases e <;> exact .ret _

theorem only_store_session (hne : (dict, key) ≠ (SESSION_DICT, a.key)) (record : F.SessionRecord) :
    (PddbSessionStore.store_session F a record).Only (PddbCall.Leaves dict key) := by
  unfold PddbSessionStore.store_session
  cases F.serialize record with
  | error e => exact .ret _
  | ok buf =>
    apply (only_write_binary hne hne trivial).bind
    intro w
    cases w <;> exact .ret _

end Requests

theorem mem_dedup {l : List ℕ} {a : ℕ} : a ∈ dedup l ↔ a ∈ l := by
  induction l using dedup.induct with
  | case1 => simp [dedup]
  | case2 b => simp [dedup]
  | case3 b c ih => rw [dedup, if_pos rfl, ih]; simp
  | case4 b c l hne ih => simp only [dedup, if_neg hne, List.mem_cons, ih]

theorem dedup_ascending {l : List ℕ} (h : l.Pairwise (· ≤ ·)) : (dedup l).Pairwise (· < ·) := by
  induction l using dedup.induct with
  | case1 => simp [dedup]
  | case2 b => simp [dedup]
  | case3 b c ih => rw [dedup, if_pos rfl]; exact ih h.of_cons
  | case4 b c l hne ih =>
    rw [dedup, if_neg hne, List.pairwise_cons]
    refine ⟨?_, ih h.of_cons⟩
    intro x hx
    have hb : ∀ y ∈ c :: l, b ≤ y := (List.pairwise_cons.mp h).1
    have hc : ∀ y ∈ l, c ≤ y := (List.pairwise_cons.mp h.of_cons).1
    have hbc := hb c (by simp)
    rcases List.mem_cons.mp (mem_dedup.mp hx) with rfl | hx
    · omega
    · have := hc x hx
      omega

theorem sessionDeviceIds_ascending (uuid : String) (keys : List String) :
    (sessionDeviceIds uuid keys).Pairwise (· < ·) :=
  dedup_ascending (List.pairwise_insertionSort _ _)

theorem mem_sessionDeviceIds {uuid : String} {keys : List String} {d : ℕ} :
    d ∈ sessionDeviceIds uuid keys ↔
      ∃ rest, uuid ++ "." ++ rest ∈ keys ∧ parseUnsigned (2 ^ 32) rest = some d := by
  simp only [sessionDeviceIds, mem_dedup, List.mem_insertionSort, List.mem_filterMap,
    strip_prefix_eq_some]
  constructor
  · rintro ⟨rest, ⟨k, hk, rfl⟩, hd⟩
    exact ⟨rest, hk, hd⟩
  · rintro ⟨rest, hk, hd⟩
    exact ⟨rest, ⟨_, hk, rfl⟩, hd⟩

theorem key_mem_sessionDeviceIds {a : ProtocolAddress} {keys : List String} (h : a.key ∈ keys) :
    a.device_id.val ∈ sessionDeviceIds a.name keys := by
  have hv := a.device_id.valid
  exact mem_sessionDeviceIds.mpr ⟨_, h, parseUnsigned_toString (by omega)⟩

namespace Pddb

def session (p : Pddb) (a : ProtocolAddress) : Option Bytes := p.value SESSION_DICT a.key

/-- Every key of the session dict is the key of some address, as `store_session` writes them. -/
def SessionKeys (p : Pddb) : Prop := ∀ k ∈ p.keysOf SESSION_DICT, ∃ a : ProtocolAddress, k = a.key

def sessionDevices (p : Pddb) (uuid : String) : List ℕ :=
  sessionDeviceIds uuid (p.keysOf SESSION_DICT)

theorem sessionDevices_ascending (p : Pddb) (uuid : String) :
    (p.sessionDevices uuid).Pairwise (· < ·) := sessionDeviceIds_ascending _ _

theorem mem_sessionDevices_of_session {p : Pddb} {a : ProtocolAddress} (h : (p.session a).isSome) :
    a.device_id.val ∈ p.sessionDevices a.name :=
  key_mem_sessionDeviceIds (mem_keysOf.mpr h)

theorem mem_sessionDevices {p : Pddb} (hp : p.SessionKeys) {uuid : String} {d : ℕ} :
    d ∈ p.sessionDevices uuid ↔ ∃ i : DeviceId, i.val = d ∧ (p.session ⟨uuid, i⟩).isSome := by
  constructor
  · intro hd
    obtain ⟨rest, hk, hparse⟩ := mem_sessionDeviceIds.mp hd
    obtain ⟨a, ha⟩ := hp _ hk
    rcases key_strip ha.symm with ⟨hn, rfl⟩ | hdot
    · have hv := a.device_id.valid
      rw [parseUnsigned_toString (by omega), Option.some.injEq] at hparse
      obtain ⟨name, i⟩ := a
      obtain rfl : name = uuid := hn
      refine ⟨i, hparse, mem_keysOf.mp ?_⟩
      rw [← ha]
      exact hk
    · rw [parseUnsigned_eq_none hdot dot_not_digit (by decide)] at hparse
      cases hparse
  · rintro ⟨i, rfl, hs⟩
    exact mem_sessionDevices_of_session (a := ⟨uuid, i⟩) hs

theorem run_load_session (F : SessionFormat) (a : ProtocolAddress) (p : Pddb) :
    ((PddbSessionStore.load_session F a).run handler p).value =
        (match p.session a with
          | some b => (F.deserialize b).map some
          | none => .ok none) ∧
      ((PddbSessionStore.load_session F a).run handler p).state = p := by
  obtain ⟨hv, hs⟩ := run_read p SESSION_DICT a.key
  have hvalue : p.value SESSION_DICT a.key = p.session a := rfl
  rw [hvalue] at hv
  unfold PddbSessionStore.load_session pddb_read_binary
  rw [Program.run_bind, hv, hs]
  cases p.session a <;> exact ⟨rfl, rfl⟩

theorem run_write_binary (p : Pddb) (dict key : String) (data : Bytes) :
    ((pddb_write_binary dict key data).run handler p).value = .ok () ∧
      ∀ dict' key', ((pddb_write_binary dict key data).run handler p).state.value dict' key' =
        if (dict', key') = (dict, key) then some data else p.value dict' key' := by
  have hstate : ((pddb_write_binary dict key data).run handler p).state =
      (answer (.delete dict key) p).2.put dict key data := rfl
  refine ⟨rfl, ?_⟩
  intro dict' key'
  rw [hstate]
  split_ifs with hk
  · obtain ⟨rfl, rfl⟩ := Prod.mk.inj hk
    rw [value_put, answer_delete, value_remove]
    exact congrArg some (overlay_nil data)
  · rw [value_put_ne _ _ hk, answer_delete, value_remove_ne p hk]

theorem run_store_session {F : SessionFormat} {record : F.SessionRecord} {buf : Bytes}
    (hbuf : F.serialize record = .ok buf) (a : ProtocolAddress) (p : Pddb) :
    ((PddbSessionStore.store_session F a record).run handler p).value = .ok () ∧
      ((PddbSessionStore.store_session F a record).run handler p).state =
        ((pddb_write_binary SESSION_DICT a.key buf).run handler p).state := by
  obtain ⟨hv, -⟩ := run_write_binary p SESSION_DICT a.key buf
  unfold PddbSessionStore.store_session
  simp only [hbuf]
  rw [Program.run_bind, hv]
  exact ⟨rfl, rfl⟩

theorem session_store_session {F : SessionFormat} {record : F.SessionRecord} {buf : Bytes}
    (hbuf : F.serialize record = .ok buf) (a b : ProtocolAddress) (p : Pddb) :
    ((PddbSessionStore.store_session F a record).run handler p).state.session b =
      if b = a then some buf else p.session b := by
  have hkey : ((SESSION_DICT, b.key) = (SESSION_DICT, a.key)) ↔ b = a := by
    constructor
    · exact fun h => key_injective (Prod.mk.inj h).2
    · rintro rfl
      rfl
  rw [(run_store_session hbuf a p).2, session, (run_write_binary p SESSION_DICT a.key buf).2]
  by_cases hb : b = a
  · rw [if_pos (hkey.mpr hb), if_pos hb]
  · rw [if_neg (fun h => hb (hkey.mp h)), if_neg hb]
    rfl

theorem sessionKeys_store_session {F : SessionFormat} {record : F.SessionRecord} {buf : Bytes}
    (hbuf : F.serialize record = .ok buf) (a : ProtocolAddress) {p : Pddb} (hp : p.SessionKeys) :
    ((PddbSessionStore.store_session F a record).run handler p).state.SessionKeys := by
  intro k hk
  rw [mem_keysOf, (run_store_session hbuf a p).2, (run_write_binary p SESSION_DICT a.key buf).2] at hk
  by_cases hkey : k = a.key
  · exact ⟨a, hkey⟩
  · rw [if_neg (fun h => hkey (Prod.mk.inj h).2)] at hk
    exact hp k (mem_keysOf.mpr hk)

theorem session_delete_session (a b : ProtocolAddress) (p : Pddb) :
    ((PddbSessionStore.delete_session a).run handler p).state.session b =
      if b = a then none else p.session b := by
  have hstate : ((PddbSessionStore.delete_session a).run handler p).state =
      (answer (.delete SESSION_DICT a.key) p).2 := rfl
  rw [hstate, session, answer_delete]
  split_ifs with hb
  · rw [hb, value_remove]
  · exact value_remove_ne p (fun h => hb (key_injective (Prod.mk.inj h).2))

theorem sessionKeys_delete_session (a : ProtocolAddress) {p : Pddb} (hp : p.SessionKeys) :
    ((PddbSessionStore.delete_session a).run handler p).state.SessionKeys := by
  have hstate : ((PddbSessionStore.delete_session a).run handler p).state =
      (answer (.delete SESSION_DICT a.key) p).2 := rfl
  intro k hk
  apply hp
  rw [mem_keysOf, hstate, answer_delete] at hk
  rw [mem_keysOf]
  by_cases hkey : (SESSION_DICT, k) = (SESSION_DICT, a.key)
  · rw [(Prod.mk.inj hkey).2, value_remove] at hk
    cases hk
  · rwa [value_remove_ne p hkey] at hk

end Pddb

end XousSignalClient
