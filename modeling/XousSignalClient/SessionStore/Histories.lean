import XousSignalClient.Interaction.Latest
import XousSignalClient.SessionStore

namespace XousSignalClient

open Encoding Interaction

inductive SessionOp (F : SessionFormat) where
  | store_session (a : ProtocolAddress) (record : F.SessionRecord)
  | delete_session (a : ProtocolAddress)

namespace SessionOp

variable {F : SessionFormat}

def address : SessionOp F → ProtocolAddress
  | .store_session a _ => a
  | .delete_session a => a

def record : SessionOp F → Option F.SessionRecord
  | .store_session _ record => some record
  | .delete_session _ => none

def program : SessionOp F → PddbProgram (Except SignalProtocolError Unit)
  | .store_session a record => PddbSessionStore.store_session F a record
  | .delete_session a => do
    PddbSessionStore.delete_session a
    pure (.ok ())

def Readable (op : SessionOp F) : Prop :=
  ∀ record, op.record = some record → ∃ buf, F.serialize record = .ok buf ∧ F.deserialize buf = .ok record

def lastStored (ops : List (SessionOp F)) (a : ProtocolAddress) : Option F.SessionRecord :=
  (latest address ops a).bind record

theorem lastStored_eq_some {ops : List (SessionOp F)} {a : ProtocolAddress} {r : F.SessionRecord} :
    lastStored ops a = some r ↔ latest address ops a = some (.store_session a r) := by
  rw [lastStored, Option.bind_eq_some_iff]
  constructor
  · rintro ⟨op, hop, hr⟩
    have ha := (latest_mem hop).2
    cases op with
    | store_session b r' =>
      obtain rfl : b = a := ha
      obtain rfl : r' = r := Option.some.inj hr
      exact hop
    | delete_session b => cases hr
  · intro h
    exact ⟨_, h, rfl⟩

end SessionOp

namespace Pddb

variable {F : SessionFormat}

def loadedSession (F : SessionFormat) (p : Pddb) (a : ProtocolAddress) :
    Except SignalProtocolError (Option F.SessionRecord) :=
  match p.session a with
  | some buf => (F.deserialize buf).map some
  | none => .ok none

theorem run_device_ids_for (p : Pddb) (uuid : String) :
    ((PddbSessionStore.device_ids_for uuid).run handler p).value = p.sessionDevices uuid := rfl

theorem session_program_ne {op : SessionOp F} (hop : op.Readable) (p : Pddb) {a : ProtocolAddress}
    (ha : op.address ≠ a) : (op.program.run handler p).state.session a = p.session a := by
  cases op with
  | store_session b record =>
    obtain ⟨buf, hbuf, -⟩ := hop record rfl
    exact (session_store_session hbuf b a p).trans (if_neg (fun h => ha h.symm))
  | delete_session b => exact (session_delete_session b a p).trans (if_neg (fun h => ha h.symm))

theorem loadedSession_program {op : SessionOp F} (hop : op.Readable) (p : Pddb) (a : ProtocolAddress) :
    loadedSession F (op.program.run handler p).state a =
      if op.address = a then .ok op.record else loadedSession F p a := by
  by_cases ha : op.address = a
  · subst ha
    rw [if_pos rfl, loadedSession]
    cases op with
    | store_session b record =>
      obtain ⟨buf, hbuf, hread⟩ := hop record rfl
      have hsession : ((SessionOp.program (.store_session b record)).run handler p).state.session b = some buf :=
        (session_store_session hbuf b b p).trans (if_pos rfl)
      simp only [SessionOp.address, hsession, hread]
      rfl
    | delete_session b =>
      have hsession : ((SessionOp.program (F := F) (.delete_session b)).run handler p).state.session b = none :=
        (session_delete_session b b p).trans (if_pos rfl)
      simp only [SessionOp.address, hsession]
      rfl
  · rw [if_neg ha, loadedSession, loadedSession, session_program_ne hop p ha]

theorem sessionKeys_program {op : SessionOp F} (hop : op.Readable) {p : Pddb} (hp : p.SessionKeys) :
    (op.program.run handler p).state.SessionKeys := by
  cases op with
  | store_session a record =>
    obtain ⟨buf, hbuf, -⟩ := hop record rfl
    exact sessionKeys_store_session hbuf a hp
  | delete_session a => exact sessionKeys_delete_session a hp

section History

variable {p : Pddb} {ops : List (SessionOp F)}

theorem sessionKeys_of_empty (hp : p.keysOf SESSION_DICT = []) : p.SessionKeys := by
  simp [SessionKeys, hp]

theorem session_of_empty (hp : p.keysOf SESSION_DICT = []) (a : ProtocolAddress) : p.session a = none :=
  value_of_keysOf_nil hp a.key

theorem loadedSession_after (hp : p.keysOf SESSION_DICT = []) (hops : ∀ op ∈ ops, op.Readable)
    (a : ProtocolAddress) :
    loadedSession F (Program.after handler SessionOp.program ops p) a = .ok (SessionOp.lastStored ops a) := by
  rw [Program.view_after (loadedSession F) (fun op hop q b => loadedSession_program (hops op hop) q b),
    SessionOp.lastStored]
  cases latest SessionOp.address ops a with
  | none => simp [loadedSession, session_of_empty hp]
  | some op => rfl

theorem session_after (hp : p.keysOf SESSION_DICT = []) (hops : ∀ op ∈ ops, op.Readable) (a : ProtocolAddress) :
    ((Program.after handler SessionOp.program ops p).session a).isSome ↔ (SessionOp.lastStored ops a).isSome := by
  have hloaded := loadedSession_after hp hops a
  unfold loadedSession at hloaded
  cases hs : (Program.after handler SessionOp.program ops p).session a with
  | none =>
    rw [hs] at hloaded
    rw [← Except.ok.inj hloaded]
    rfl
  | some buf =>
    rw [hs] at hloaded
    cases hd : F.deserialize buf with
    | error e => simp [hd, Except.map] at hloaded
    | ok record =>
      simp only [hd, Except.map] at hloaded
      rw [← Except.ok.inj hloaded]
      simp

theorem sessionKeys_after (hp : p.keysOf SESSION_DICT = []) (hops : ∀ op ∈ ops, op.Readable) :
    (Program.after handler SessionOp.program ops p).SessionKeys :=
  Program.after_preserves (sessionKeys_of_empty hp) (fun op hop _ ht => sessionKeys_program (hops op hop) ht)

end History

end Pddb

/-- Whatever sessions were stored and deleted, the enumeration and the loads show the last operation on every
address, with no leak between names. -/
theorem device_ids_for_exact {F : SessionFormat} {p : Pddb} (hp : p.keysOf SESSION_DICT = [])
    {ops : List (SessionOp F)} (hops : ∀ op ∈ ops, op.Readable) (uuid : String) :
    let q := Program.after Pddb.handler SessionOp.program ops p
    let ids := ((PddbSessionStore.device_ids_for uuid).run Pddb.handler q).value
    ids.Pairwise (· < ·) ∧
      (∀ d, d ∈ ids ↔ ∃ (i : DeviceId) (record : F.SessionRecord), i.val = d ∧
        latest SessionOp.address ops ⟨uuid, i⟩ = some (.store_session ⟨uuid, i⟩ record)) ∧
      ∀ (i : DeviceId) (record : F.SessionRecord),
        (((PddbSessionStore.load_session F ⟨uuid, i⟩).run Pddb.handler q).value = .ok (some record) ↔
          latest SessionOp.address ops ⟨uuid, i⟩ = some (.store_session ⟨uuid, i⟩ record)) ∧
        (i.val ∉ ids → ((PddbSessionStore.load_session F ⟨uuid, i⟩).run Pddb.handler q).value = .ok none) := by
  intro q ids
  have henum : ids = q.sessionDevices uuid := Pddb.run_device_ids_for q uuid
  have hload : ∀ i : DeviceId, ((PddbSessionStore.load_session F ⟨uuid, i⟩).run Pddb.handler q).value =
      .ok (SessionOp.lastStored ops ⟨uuid, i⟩) := by
    intro i
    exact (Pddb.run_load_session F ⟨uuid, i⟩ q).1.trans (Pddb.loadedSession_after hp hops ⟨uuid, i⟩)
  have hmem : ∀ d, d ∈ ids ↔ ∃ i : DeviceId, i.val = d ∧ (SessionOp.lastStored ops ⟨uuid, i⟩).isSome := by
    intro d
    rw [henum, Pddb.mem_sessionDevices (Pddb.sessionKeys_after hp hops)]
    simp only [Pddb.session_after hp hops]
  refine ⟨q.sessionDevices_ascending uuid, ?_, ?_⟩
  · intro d
    simp only [hmem, Option.isSome_iff_exists, SessionOp.lastStored_eq_some]
    constructor
    · rintro ⟨i, hi, record, hrecord⟩
      exact ⟨i, record, hi, hrecord⟩
    · rintro ⟨i, record, hi, hrecord⟩
      exact ⟨i, hi, record, hrecord⟩
  · intro i record
    constructor
    · rw [hload, ← SessionOp.lastStored_eq_some]
      simp
    · intro hi
      have hnone : ¬(SessionOp.lastStored ops ⟨uuid, i⟩).isSome := fun h => hi ((hmem i.val).mpr ⟨i, rfl, h⟩)
      rw [hload, Option.not_isSome_iff_eq_none.mp hnone]

def plainRecords : SessionFormat := ⟨Bytes, .ok, .ok, fun _ => .ok 1⟩

def SessionOp.device : DeviceId := ⟨2, DeviceId.two_valid⟩

def dottedHistory : List (SessionOp plainRecords) :=
  [.store_session ⟨"ann.2", SessionOp.device⟩ [7], .store_session ⟨"ann", SessionOp.device⟩ [8],
    .delete_session ⟨"ann.2", SessionOp.device⟩]

theorem dottedHistory_readable : ∀ op ∈ dottedHistory, op.Readable := fun _ _ buf _ => ⟨buf, rfl, rfl⟩

theorem device_ids_for_dotted :
    let q := Program.after Pddb.handler SessionOp.program dottedHistory ∅
    ((PddbSessionStore.load_session plainRecords ⟨"ann", SessionOp.device⟩).run Pddb.handler q).value = .ok (some [8]) ∧
      2 ∈ ((PddbSessionStore.device_ids_for "ann").run Pddb.handler q).value := by
  obtain ⟨-, hids, hloads⟩ := device_ids_for_exact (p := ∅) rfl dottedHistory_readable "ann"
  exact ⟨(hloads SessionOp.device [8]).1.mpr rfl, (hids 2).mpr ⟨SessionOp.device, [8], rfl, rfl⟩⟩

end XousSignalClient
