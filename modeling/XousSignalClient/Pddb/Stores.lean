import Mathlib.Logic.Function.Basic
import XousSignalClient.Interaction.Simulation
import XousSignalClient.Pddb.Identities
import XousSignalClient.Prekeys.Runs
import XousSignalClient.Prekeys.Uploaded
import XousSignalClient.SessionStore.Histories

namespace XousSignalClient

open Encoding Interaction

def PddbSignedPreKeyStore.save_signed_pre_key (C : PrekeyCrates) (signed_prekey_id : ℕ)
    (record : C.SignedPreKeyRecord) : PddbProgram (Except SignalProtocolError Unit) :=
  (savePreKey SIGNED_PREKEY_DICT signed_prekey_id (C.signed_serialize record)).run

structure StoreCrates where
  session : SessionFormat
  identity : IdentityFormat
  pre_key : PreKeyCrate
  prekeys : PrekeyCrates

variable {C : StoreCrates}

inductive StoreOp (C : StoreCrates) where
  | load_session (a : ProtocolAddress)
  | store_session (a : ProtocolAddress) (record : C.session.SessionRecord)
  | delete_session (a : ProtocolAddress)
  | device_ids_for (recipient_uuid : String)
  | save_identity (a : ProtocolAddress) (identity : C.identity.IdentityKey)
  | is_trusted_identity (a : ProtocolAddress) (identity : C.identity.IdentityKey) (direction : Direction)
  | get_identity (a : ProtocolAddress)
  | get_pre_key (id : ℕ)
  | save_pre_key (id : ℕ) (record : C.pre_key.PreKeyRecord)
  | remove_pre_key (id : ℕ)
  | get_signed_pre_key (id : ℕ)
  | save_signed_pre_key (id : ℕ) (record : C.prekeys.SignedPreKeyRecord)
  | get_kyber_pre_key (id : ℕ)
  | save_kyber_pre_key (id : ℕ) (record : C.prekeys.KyberPreKeyRecord)
  | mark_kyber_pre_key_used (u : KyberUse)

inductive StoreReply (C : StoreCrates) where
  | session (r : Except SignalProtocolError (Option C.session.SessionRecord))
  | done (r : Except SignalProtocolError Unit)
  | ids (r : List ℕ)
  | change (r : Except SignalProtocolError IdentityChange)
  | trusted (r : Except SignalProtocolError Bool)
  | identity (r : Except SignalProtocolError (Option C.identity.IdentityKey))
  | pre_key (r : Except SignalProtocolError C.pre_key.PreKeyRecord)
  | signed_pre_key (r : Except SignalProtocolError C.prekeys.SignedPreKeyRecord)
  | kyber_pre_key (r : Except SignalProtocolError C.prekeys.KyberPreKeyRecord)

section Machine

def onStores {α : Type} (reply : α → StoreReply C) (x : PddbProgram α) (p : Pddb) : StoreReply C × Pddb :=
  (reply (x.run Pddb.handler p).value, (x.run Pddb.handler p).state)

def onFile {α : Type} (reply : α → StoreReply C) (x : FileProgram α) (p : Pddb) : StoreReply C × Pddb :=
  (reply (x.run CallFaults.none.handler p).value, (x.run CallFaults.none.handler p).state)

def StoreOp.perform : StoreOp C → Pddb → StoreReply C × Pddb
  | .load_session a => onStores .session (PddbSessionStore.load_session C.session a)
  | .store_session a record => onStores .done (PddbSessionStore.store_session C.session a record)
  | .delete_session a => onStores (fun _ => .done (.ok ())) (PddbSessionStore.delete_session a)
  | .device_ids_for uuid => onStores .ids (PddbSessionStore.device_ids_for uuid)
  | .save_identity a key => onFile .change (Calls.save_identity C.identity a key)
  | .is_trusted_identity a key direction => onFile .trusted (Calls.is_trusted_identity C.identity a key direction)
  | .get_identity a => onFile .identity (Calls.get_identity C.identity a)
  | .get_pre_key id => onStores .pre_key (PddbPreKeyStore.get_pre_key C.pre_key id)
  | .save_pre_key id record => onStores .done (PddbPreKeyStore.save_pre_key id record)
  | .remove_pre_key id => onStores .done (PddbPreKeyStore.remove_pre_key id)
  | .get_signed_pre_key id => onStores .signed_pre_key (PddbSignedPreKeyStore.get_signed_pre_key C.prekeys id)
  | .save_signed_pre_key id record => onStores .done (PddbSignedPreKeyStore.save_signed_pre_key C.prekeys id record)
  | .get_kyber_pre_key id =>
    onStores .kyber_pre_key (PddbKyberPreKeyStore.get_kyber_pre_key C.prekeys.kyberFormat KYBER_PREKEY_DICT id)
  | .save_kyber_pre_key id record =>
    onStores .done (PddbKyberPreKeyStore.save_kyber_pre_key C.prekeys.kyberFormat KYBER_PREKEY_DICT id record)
  | .mark_kyber_pre_key_used u => onStores .done (PddbKyberPreKeyStore.mark_kyber_pre_key_used KYBER_PREKEY_DICT u)

def pddbStores (C : StoreCrates) : Machine (StoreOp C) (StoreReply C) Pddb := ⟨StoreOp.perform⟩

end Machine

section Specification

/-- What the stores are for: five maps that know nothing of each other, and the set of the uses of Kyber keys. -/
structure ProtocolStores (C : StoreCrates) where
  sessions : ProtocolAddress → Option C.session.SessionRecord
  identities : ProtocolAddress → Option C.identity.IdentityKey
  pre_keys : ℕ → Option C.pre_key.PreKeyRecord
  signed_pre_keys : ℕ → Option C.prekeys.SignedPreKeyRecord
  kyber_pre_keys : ℕ → Option C.prekeys.KyberPreKeyRecord
  used : Set KyberUse

namespace ProtocolStores

def empty (C : StoreCrates) : ProtocolStores C :=
  ⟨fun _ => none, fun _ => none, fun _ => none, fun _ => none, fun _ => none, ∅⟩

def Reads (s : ProtocolStores C) (answer r : StoreReply C) (s' : ProtocolStores C) : Prop := r = answer ∧ s' = s

/-- A record that does not serialize is not stored. -/
def Saves (serialized : Except SignalProtocolError Bytes) (s stored : ProtocolStores C) (r : StoreReply C)
    (s' : ProtocolStores C) : Prop :=
  match serialized with
  | .ok _ => r = .done (.ok ()) ∧ s' = stored
  | .error e => r = .done (.error e) ∧ s' = s

open Classical in
def Step : Spec (StoreOp C) (StoreReply C) (ProtocolStores C)
  | .load_session a, s, r, s' => s.Reads (.session (.ok (s.sessions a))) r s'
  | .store_session a record, s, r, s' =>
    Saves (C.session.serialize record) s { s with sessions := Function.update s.sessions a (some record) } r s'
  | .delete_session a, s, r, s' =>
    r = .done (.ok ()) ∧ s' = { s with sessions := Function.update s.sessions a none }
  | .device_ids_for uuid, s, r, s' => ∃ ids : List ℕ, s.Reads (.ids ids) r s' ∧ ids.Pairwise (· < ·) ∧
      ∀ d, d ∈ ids ↔ ∃ i : DeviceId, i.val = d ∧ (s.sessions ⟨uuid, i⟩).isSome
  | .save_identity a key, s, r, s' =>
    r = .change (.ok (if ∃ old, s.identities a = some old ∧ old ≠ key then .ReplacedExisting else .NewOrUnchanged)) ∧
      s' = { s with identities := Function.update s.identities a (some key) }
  | .is_trusted_identity a key _, s, r, s' =>
    s.Reads (.trusted (.ok (decide (∀ old, s.identities a = some old → old = key)))) r s'
  | .get_identity a, s, r, s' => s.Reads (.identity (.ok (s.identities a))) r s'
  | .get_pre_key id, s, r, s' =>
    s.Reads (.pre_key ((s.pre_keys id).elim (.error (.Other "InvalidPreKeyId")) .ok)) r s'
  | .save_pre_key id record, s, r, s' =>
    Saves ((C.pre_key.serialize record).mapError
        (fun e => .InvalidState "pddb" ("serialize failed: " ++ C.pre_key.display e)))
      s { s with pre_keys := Function.update s.pre_keys id (some record) } r s'
  | .remove_pre_key id, s, r, s' =>
    r = .done (.ok ()) ∧ s' = { s with pre_keys := Function.update s.pre_keys id none }
  | .get_signed_pre_key id, s, r, s' =>
    s.Reads (.signed_pre_key ((s.signed_pre_keys id).elim (.error (.Other "InvalidSignedPreKeyId")) .ok)) r s'
  | .save_signed_pre_key id record, s, r, s' =>
    Saves (C.prekeys.signed_serialize record)
      s { s with signed_pre_keys := Function.update s.signed_pre_keys id (some record) } r s'
  | .get_kyber_pre_key id, s, r, s' =>
    s.Reads (.kyber_pre_key ((s.kyber_pre_keys id).elim (.error InvalidKyberPreKeyId) .ok)) r s'
  | .save_kyber_pre_key id record, s, r, s' =>
    Saves (C.prekeys.kyber_serialize record)
      s { s with kyber_pre_keys := Function.update s.kyber_pre_keys id (some record) } r s'
  | .mark_kyber_pre_key_used u, s, r, s' =>
    if u ∈ s.used then s.Reads (.done (.error InvalidKyberPreKeyId)) r s'
    else r = .done (.ok ()) ∧ s' = { s with used := insert u s.used }

end ProtocolStores

/-- What libsignal has serialized it reads back. -/
def StoreOp.Readable : StoreOp C → Prop
  | .store_session _ record => ∀ buf, C.session.serialize record = .ok buf → C.session.deserialize buf = .ok record
  | .save_identity _ key => C.identity.decode (C.identity.serialize key) = .ok key
  | .save_pre_key _ record => ∀ buf, C.pre_key.serialize record = .ok buf → C.pre_key.deserialize buf = .ok record
  | .save_signed_pre_key _ record =>
    ∀ buf, C.prekeys.signed_serialize record = .ok buf → C.prekeys.signed_deserialize buf = .ok record
  | .save_kyber_pre_key _ record =>
    ∀ buf, C.prekeys.kyber_serialize record = .ok buf → C.prekeys.kyber_deserialize buf = .ok record
  | _ => True

end Specification

section Representation

namespace Pddb

def Holds {κ Record : Type} (p : Pddb) (dict : String) (text : κ → String)
    (read : Bytes → Except SignalProtocolError Record) (m : κ → Option Record) : Prop :=
  ∀ k, (p.value dict (text k)).map read = (m k).map .ok

def Sets (p q : Pddb) (dict key : String) (v : Option Bytes) : Prop :=
  ∀ dict' key', q.value dict' key' = if (dict', key') = (dict, key) then v else p.value dict' key'

variable {κ Record : Type} {p q : Pddb} {dict : String} {text : κ → String}
  {read : Bytes → Except SignalProtocolError Record} {m : κ → Option Record}

theorem Sets.here {key : String} {v : Option Bytes} (h : Sets p q dict key v) : q.value dict key = v := by
  rw [h, if_pos rfl]

theorem Sets.elsewhere {key dict' key' : String} {v : Option Bytes} (h : Sets p q dict key v)
    (hne : (dict', key') ≠ (dict, key)) : q.value dict' key' = p.value dict' key' := by
  rw [h, if_neg hne]

theorem sets_write (p : Pddb) (dict key : String) (data : Bytes) :
    Sets p ((pddb_write_binary dict key data).run handler p).state dict key (some data) :=
  (run_write_binary p dict key data).2

theorem sets_delete (p : Pddb) (dict key : String) : Sets p (answer (.delete dict key) p).2 dict key none := by
  intro dict' key'
  rw [answer_delete]
  split_ifs with h
  · obtain ⟨rfl, rfl⟩ := Prod.mk.inj h
    exact value_remove p _ _
  · exact value_remove_ne p h

theorem sets_self (p : Pddb) (dict key : String) : Sets p p dict key (p.value dict key) := by
  intro dict' key'
  split_ifs with h
  · obtain ⟨rfl, rfl⟩ := Prod.mk.inj h
    rfl
  · rfl

theorem holds_empty (dict : String) (text : κ → String) (read : Bytes → Except SignalProtocolError Record) :
    Holds ∅ dict text read (fun _ => none) := by
  intro k
  rw [value_empty]
  rfl

variable [DecidableEq κ]

theorem Holds.update (h : p.Holds dict text read m) (htext : Function.Injective text) {k : κ} {v : Option Bytes}
    {record : Option Record} (hsets : Sets p q dict (text k) v) (hv : v.map read = record.map .ok) :
    q.Holds dict text read (Function.update m k record) := by
  intro j
  by_cases hj : j = k
  · subst hj
    rw [hsets.here, Function.update_self, hv]
  · rw [hsets.elsewhere (fun heq => hj (htext (Prod.mk.inj heq).2)), Function.update_of_ne hj, h j]

omit [DecidableEq κ] in
theorem Holds.frame (h : p.Holds dict text read m) {dict' key : String} {v : Option Bytes}
    (hsets : Sets p q dict' key v) (hne : ∀ k, (dict, text k) ≠ (dict', key)) : q.Holds dict text read m := by
  intro k
  rw [hsets.elsewhere (hne k), h k]

end Pddb

structure Represents (p : Pddb) (s : ProtocolStores C) : Prop where
  sessions : p.Holds SESSION_DICT ProtocolAddress.key C.session.deserialize s.sessions
  session_keys : p.SessionKeys
  identities : p.Holds IDENTITY_DICT ProtocolAddress.key C.identity.decode s.identities
  pre_keys : p.Holds PREKEY_DICT toString C.pre_key.deserialize s.pre_keys
  signed_pre_keys : p.Holds SIGNED_PREKEY_DICT toString C.prekeys.signed_deserialize s.signed_pre_keys
  kyber_pre_keys : p.Holds KYBER_PREKEY_DICT toString C.prekeys.kyber_deserialize s.kyber_pre_keys
  used : ∀ u, IsMarked KYBER_PREKEY_DICT p u ↔ u ∈ s.used

theorem represents_empty : Represents ∅ (ProtocolStores.empty C) where
  sessions := Pddb.holds_empty _ _ _
  session_keys := by
    intro k hk
    cases hk
  identities := Pddb.holds_empty _ _ _
  pre_keys := Pddb.holds_empty _ _ _
  signed_pre_keys := Pddb.holds_empty _ _ _
  kyber_pre_keys := Pddb.holds_empty _ _ _
  used := by
    intro u
    rw [IsMarked, Pddb.value_empty]
    simp [ProtocolStores.empty]

variable {p q : Pddb} {s : ProtocolStores C} {dict key : String} {v : Option Bytes}

theorem sessionKeys_of_sets (h : p.SessionKeys) {a : ProtocolAddress} (hsets : Pddb.Sets p q SESSION_DICT a.key v) :
    q.SessionKeys := by
  intro k hk
  rw [Pddb.mem_keysOf] at hk
  by_cases hkey : k = a.key
  · exact ⟨a, hkey⟩
  · rw [hsets.elsewhere (fun heq => hkey (Prod.mk.inj heq).2)] at hk
    exact h k (Pddb.mem_keysOf.mpr hk)

theorem sessionKeys_elsewhere (h : p.SessionKeys) (hsets : Pddb.Sets p q dict key v) (hdict : SESSION_DICT ≠ dict) :
    q.SessionKeys := by
  intro k hk
  rw [Pddb.mem_keysOf, hsets.elsewhere (fun heq => hdict (Prod.mk.inj heq).1)] at hk
  exact h k (Pddb.mem_keysOf.mpr hk)

structure Elsewhere (q : Pddb) (s : ProtocolStores C) (dict : String) : Prop where
  sessions : SESSION_DICT ≠ dict → q.Holds SESSION_DICT ProtocolAddress.key C.session.deserialize s.sessions
  session_keys : SESSION_DICT ≠ dict → q.SessionKeys
  identities : IDENTITY_DICT ≠ dict → q.Holds IDENTITY_DICT ProtocolAddress.key C.identity.decode s.identities
  pre_keys : PREKEY_DICT ≠ dict → q.Holds PREKEY_DICT toString C.pre_key.deserialize s.pre_keys
  signed_pre_keys : SIGNED_PREKEY_DICT ≠ dict →
    q.Holds SIGNED_PREKEY_DICT toString C.prekeys.signed_deserialize s.signed_pre_keys
  kyber_pre_keys : KYBER_PREKEY_DICT ≠ dict →
    q.Holds KYBER_PREKEY_DICT toString C.prekeys.kyber_deserialize s.kyber_pre_keys
  used : KYBER_PREKEY_DICT ≠ dict → ∀ u, IsMarked KYBER_PREKEY_DICT q u ↔ u ∈ s.used

theorem Represents.elsewhere (h : Represents p s) (hsets : Pddb.Sets p q dict key v) : Elsewhere q s dict where
  sessions hdict := h.sessions.frame hsets (fun _ heq => hdict (Prod.mk.inj heq).1)
  session_keys hdict := sessionKeys_elsewhere h.session_keys hsets hdict
  identities hdict := h.identities.frame hsets (fun _ heq => hdict (Prod.mk.inj heq).1)
  pre_keys hdict := h.pre_keys.frame hsets (fun _ heq => hdict (Prod.mk.inj heq).1)
  signed_pre_keys hdict := h.signed_pre_keys.frame hsets (fun _ heq => hdict (Prod.mk.inj heq).1)
  kyber_pre_keys hdict := h.kyber_pre_keys.frame hsets (fun _ heq => hdict (Prod.mk.inj heq).1)
  used hdict u := by
    rw [IsMarked, hsets.elsewhere (fun heq => hdict (Prod.mk.inj heq).1)]
    exact h.used u

theorem Represents.session (h : Represents p s) {a : ProtocolAddress} {record : Option C.session.SessionRecord}
    (hsets : Pddb.Sets p q SESSION_DICT a.key v) (hv : v.map C.session.deserialize = record.map .ok) :
    Represents q { s with sessions := Function.update s.sessions a record } := by
  have hrest := h.elsewhere hsets
  exact ⟨h.sessions.update (fun _ _ => key_injective) hsets hv, sessionKeys_of_sets h.session_keys hsets,
    hrest.identities (by decide), hrest.pre_keys (by decide), hrest.signed_pre_keys (by decide),
    hrest.kyber_pre_keys (by decide), hrest.used (by decide)⟩

theorem Represents.identity (h : Represents p s) {a : ProtocolAddress} {identity : Option C.identity.IdentityKey}
    (hsets : Pddb.Sets p q IDENTITY_DICT a.key v) (hv : v.map C.identity.decode = identity.map .ok) :
    Represents q { s with identities := Function.update s.identities a identity } := by
  have hrest := h.elsewhere hsets
  exact ⟨hrest.sessions (by decide), hrest.session_keys (by decide),
    h.identities.update (fun _ _ => key_injective) hsets hv, hrest.pre_keys (by decide),
    hrest.signed_pre_keys (by decide), hrest.kyber_pre_keys (by decide), hrest.used (by decide)⟩

theorem Represents.pre_key (h : Represents p s) {id : ℕ} {record : Option C.pre_key.PreKeyRecord}
    (hsets : Pddb.Sets p q PREKEY_DICT (toString id) v) (hv : v.map C.pre_key.deserialize = record.map .ok) :
    Represents q { s with pre_keys := Function.update s.pre_keys id record } := by
  have hrest := h.elsewhere hsets
  exact ⟨hrest.sessions (by decide), hrest.session_keys (by decide), hrest.identities (by decide),
    h.pre_keys.update (fun _ _ => toString_injective) hsets hv, hrest.signed_pre_keys (by decide),
    hrest.kyber_pre_keys (by decide), hrest.used (by decide)⟩

theorem Represents.signed_pre_key (h : Represents p s) {id : ℕ} {record : Option C.prekeys.SignedPreKeyRecord}
    (hsets : Pddb.Sets p q SIGNED_PREKEY_DICT (toString id) v)
    (hv : v.map C.prekeys.signed_deserialize = record.map .ok) :
    Represents q { s with signed_pre_keys := Function.update s.signed_pre_keys id record } := by
  have hrest := h.elsewhere hsets
  exact ⟨hrest.sessions (by decide), hrest.session_keys (by decide), hrest.identities (by decide),
    hrest.pre_keys (by decide), h.signed_pre_keys.update (fun _ _ => toString_injective) hsets hv,
    hrest.kyber_pre_keys (by decide), hrest.used (by decide)⟩

theorem Represents.kyber_pre_key (h : Represents p s) {id : ℕ} {record : Option C.prekeys.KyberPreKeyRecord}
    (hsets : Pddb.Sets p q KYBER_PREKEY_DICT (toString id) v)
    (hv : v.map C.prekeys.kyber_deserialize = record.map .ok) :
    Represents q { s with kyber_pre_keys := Function.update s.kyber_pre_keys id record } := by
  have hrest := h.elsewhere hsets
  refine ⟨hrest.sessions (by decide), hrest.session_keys (by decide), hrest.identities (by decide),
    hrest.pre_keys (by decide), hrest.signed_pre_keys (by decide),
    h.kyber_pre_keys.update (fun _ _ => toString_injective) hsets hv, ?_⟩
  intro u
  rw [IsMarked, hsets.elsewhere (fun heq => u.dedup_key_ne id (Prod.mk.inj heq).2)]
  exact h.used u

theorem Represents.mark (h : Represents p s) {u : KyberUse} {mark : Bytes}
    (hsets : Pddb.Sets p q KYBER_PREKEY_DICT u.dedup_key (some mark)) :
    Represents q { s with used := insert u s.used } := by
  have hrest := h.elsewhere hsets
  refine ⟨hrest.sessions (by decide), hrest.session_keys (by decide), hrest.identities (by decide),
    hrest.pre_keys (by decide), hrest.signed_pre_keys (by decide), ?_, ?_⟩
  · exact h.kyber_pre_keys.frame hsets (fun id heq => u.dedup_key_ne id (Prod.mk.inj heq).2.symm)
  · intro w
    by_cases hw : w = u
    · subst hw
      rw [IsMarked, hsets.here]
      exact iff_of_true rfl (Set.mem_insert w _)
    · rw [IsMarked, hsets.elsewhere (fun heq => hw (KyberUse.dedup_key_injective (Prod.mk.inj heq).2)),
        Set.mem_insert_iff, or_iff_right hw]
      exact h.used w

end Representation

section Refinement

variable {p : Pddb} {s : ProtocolStores C}

theorem Pddb.Holds.cases {κ Record : Type} {dict : String} {text : κ → String}
    {read : Bytes → Except SignalProtocolError Record} {m : κ → Option Record} (h : p.Holds dict text read m) (k : κ) :
    (p.value dict (text k) = none ∧ m k = none) ∨
      ∃ buf record, p.value dict (text k) = some buf ∧ read buf = .ok record ∧ m k = some record := by
  have hk := h k
  cases hvalue : p.value dict (text k) with
  | none =>
    rw [hvalue, Option.map_none, eq_comm, Option.map_eq_none_iff] at hk
    exact .inl ⟨rfl, hk⟩
  | some buf =>
    rw [hvalue, Option.map_some, eq_comm, Option.map_eq_some_iff] at hk
    obtain ⟨record, hrecord, hread⟩ := hk
    exact .inr ⟨buf, record, rfl, hread.symm, hrecord⟩

theorem run_savePreKey (p : Pddb) (dict : String) (id : ℕ) (serialized : Except SignalProtocolError Bytes) :
    let o := (savePreKey dict id serialized).run.run Pddb.handler p
    (∀ buf, serialized = .ok buf → o.value = .ok () ∧ Pddb.Sets p o.state dict (toString id) (some buf)) ∧
      ∀ e, serialized = .error e → o.value = .error e ∧ o.state = p := by
  constructor
  · rintro buf rfl
    exact ⟨rfl, Pddb.sets_write p dict (toString id) buf⟩
  · rintro e rfl
    exact ⟨rfl, rfl⟩

theorem saves_represents {serialized : Except SignalProtocolError Bytes} {stored : ProtocolStores C}
    {o : Outcome pddbSignature Pddb (Except SignalProtocolError Unit)} (h : Represents p s)
    (hok : ∀ buf, serialized = .ok buf → o.value = .ok () ∧ Represents o.state stored)
    (herror : ∀ e, serialized = .error e → o.value = .error e ∧ o.state = p) :
    ∃ s', ProtocolStores.Saves serialized s stored (.done o.value) s' ∧ Represents o.state s' := by
  cases serialized with
  | ok buf =>
    obtain ⟨hvalue, hstored⟩ := hok buf rfl
    exact ⟨stored, ⟨congrArg StoreReply.done hvalue, rfl⟩, hstored⟩
  | error e =>
    obtain ⟨hvalue, hstate⟩ := herror e rfl
    exact ⟨s, ⟨congrArg StoreReply.done hvalue, rfl⟩, hstate ▸ h⟩

theorem Represents.kept (h : Represents p s) {q : Pddb} (hq : q = p) : Represents q s := by
  rw [hq]
  exact h

def StoreOp.Refines (op : StoreOp C) : Prop :=
  ∀ p s, Represents p s → ∃ s', ProtocolStores.Step op s (op.perform p).1 s' ∧ Represents (op.perform p).2 s'

theorem load_session_refines (a : ProtocolAddress) : (StoreOp.load_session a : StoreOp C).Refines := by
  intro p s h
  obtain ⟨hvalue, hstate⟩ := Pddb.run_load_session C.session a p
  have hsession : p.session a = p.value SESSION_DICT a.key := rfl
  rw [hsession] at hvalue
  refine ⟨s, ⟨congrArg StoreReply.session (hvalue.trans ?_), rfl⟩, h.kept hstate⟩
  obtain ⟨hnone, hm⟩ | ⟨buf, record, hbuf, hread, hm⟩ := h.sessions.cases a
  · rw [hnone, hm]
  · rw [hbuf, hm]
    simp only [hread]
    rfl

theorem store_session_refines (a : ProtocolAddress) {record : C.session.SessionRecord}
    (hread : ∀ buf, C.session.serialize record = .ok buf → C.session.deserialize buf = .ok record) :
    (StoreOp.store_session a record : StoreOp C).Refines := by
  intro p s h
  apply saves_represents h
  · intro buf hbuf
    obtain ⟨hvalue, hstate⟩ := Pddb.run_store_session hbuf a p
    refine ⟨hvalue, ?_⟩
    rw [hstate]
    exact h.session (Pddb.sets_write p SESSION_DICT a.key buf) (congrArg some (hread buf hbuf))
  · intro e he
    unfold PddbSessionStore.store_session
    rw [he]
    exact ⟨rfl, rfl⟩

theorem delete_session_refines (a : ProtocolAddress) : (StoreOp.delete_session a : StoreOp C).Refines :=
  fun p _ h => ⟨_, ⟨rfl, rfl⟩, h.session (Pddb.sets_delete p SESSION_DICT a.key) rfl⟩

theorem device_ids_for_refines (uuid : String) : (StoreOp.device_ids_for uuid : StoreOp C).Refines := by
  intro p s h
  refine ⟨s, ⟨p.sessionDevices uuid, ⟨rfl, rfl⟩,
    p.sessionDevices_ascending uuid, ?_⟩, h⟩
  intro d
  have hsome : ∀ i : DeviceId, (p.session ⟨uuid, i⟩).isSome ↔ (s.sessions ⟨uuid, i⟩).isSome := by
    intro i
    have hsession : p.session ⟨uuid, i⟩ = p.value SESSION_DICT (ProtocolAddress.key ⟨uuid, i⟩) := rfl
    rw [hsession]
    obtain ⟨hnone, hm⟩ | ⟨buf, record, hbuf, -, hm⟩ := h.sessions.cases ⟨uuid, i⟩
    · simp [hnone, hm]
    · simp [hbuf, hm]
  rw [Pddb.mem_sessionDevices h.session_keys]
  exact exists_congr (fun i => and_congr_right (fun _ => hsome i))

theorem run_read_pure {α : Type} (p : Pddb) (dict key : String) (f : Except IoError Bytes → α) :
    ((pddb_read_binary dict key >>= fun r => pure (f r)).run Pddb.handler p).value = f (p.found dict key) ∧
      ((pddb_read_binary dict key >>= fun r => pure (f r)).run Pddb.handler p).state = p := by
  obtain ⟨hv, hs⟩ := Pddb.run_read p dict key
  unfold pddb_read_binary
  rw [Program.run_bind, hv, hs]
  exact ⟨rfl, rfl⟩

theorem found_of_none {dict key : String} (h : p.value dict key = none) :
    p.found dict key = .error (.notFound "key not found") := by
  rw [Pddb.found, h]

theorem found_of_some {dict key : String} {buf : Bytes} (h : p.value dict key = some buf) :
    p.found dict key = .ok buf := by
  rw [Pddb.found, h]

def recordOf {Record : Type} (missing : SignalProtocolError) (read : Bytes → Except SignalProtocolError Record) :
    Except IoError Bytes → Except SignalProtocolError Record
  | .ok buf => read buf
  | .error (.notFound _) => .error missing
  | .error (.other t) => .error (io_err_to_signal (.other t) "read failed")

theorem recordOf_found {dict : String} {Record : Type} {read : Bytes → Except SignalProtocolError Record}
    {m : ℕ → Option Record} (h : p.Holds dict toString read m) (missing : SignalProtocolError) (id : ℕ) :
    recordOf missing read (p.found dict (toString id)) = (m id).elim (.error missing) .ok := by
  obtain ⟨hnone, hm⟩ | ⟨buf, record, hbuf, hread, hm⟩ := h.cases id
  · rw [found_of_none hnone, hm]
    rfl
  · rw [found_of_some hbuf, hm]
    exact hread

theorem get_record_eq {Record : Type} (dict : String) (id : ℕ) (missing : SignalProtocolError)
    (read : Bytes → Except SignalProtocolError Record) (x : PddbProgram (Except SignalProtocolError Record))
    (hx : x = pddb_read_binary dict (toString id) >>= fun r => pure (recordOf missing read r)) {m : ℕ → Option Record}
    (h : p.Holds dict toString read m) :
    (x.run Pddb.handler p).value = (m id).elim (.error missing) .ok ∧ (x.run Pddb.handler p).state = p := by
  obtain ⟨hv, hs⟩ := run_read_pure p dict (toString id) (recordOf missing read)
  rw [hx]
  exact ⟨hv.trans (recordOf_found h missing id), hs⟩

theorem get_pre_key_eq (K : PreKeyCrate) (id : ℕ) : PddbPreKeyStore.get_pre_key K id =
    pddb_read_binary PREKEY_DICT (toString id) >>= fun r =>
      pure (recordOf (.Other "InvalidPreKeyId") K.deserialize r) := by
  unfold PddbPreKeyStore.get_pre_key
  congr 1
  funext r
  rcases r with (t | t) | buf <;> rfl

theorem get_signed_pre_key_eq (C : PrekeyCrates) (id : ℕ) : PddbSignedPreKeyStore.get_signed_pre_key C id =
    pddb_read_binary SIGNED_PREKEY_DICT (toString id) >>= fun r =>
      pure (recordOf (.Other "InvalidSignedPreKeyId") C.signed_deserialize r) := by
  unfold PddbSignedPreKeyStore.get_signed_pre_key
  congr 1
  funext r
  rcases r with (t | t) | buf <;> rfl

theorem get_kyber_pre_key_eq (F : KyberFormat) (dict : String) (id : ℕ) :
    PddbKyberPreKeyStore.get_kyber_pre_key F dict id = pddb_read_binary dict (toString id) >>= fun r =>
      pure (recordOf InvalidKyberPreKeyId F.deserialize r) := by
  unfold PddbKyberPreKeyStore.get_kyber_pre_key
  congr 1
  funext r
  rcases r with (t | t) | buf <;> rfl

theorem get_pre_key_refines (id : ℕ) : (StoreOp.get_pre_key id : StoreOp C).Refines := by
  intro p s h
  obtain ⟨hvalue, hstate⟩ := get_record_eq _ id _ _ _ (get_pre_key_eq C.pre_key id) h.pre_keys
  exact ⟨s, ⟨congrArg StoreReply.pre_key hvalue, rfl⟩, h.kept hstate⟩

theorem get_signed_pre_key_refines (id : ℕ) : (StoreOp.get_signed_pre_key id : StoreOp C).Refines := by
  intro p s h
  obtain ⟨hvalue, hstate⟩ := get_record_eq _ id _ _ _ (get_signed_pre_key_eq C.prekeys id) h.signed_pre_keys
  exact ⟨s, ⟨congrArg StoreReply.signed_pre_key hvalue, rfl⟩, h.kept hstate⟩

theorem get_kyber_pre_key_refines (id : ℕ) : (StoreOp.get_kyber_pre_key id : StoreOp C).Refines := by
  intro p s h
  obtain ⟨hvalue, hstate⟩ := get_record_eq _ id _ _ _ (get_kyber_pre_key_eq C.prekeys.kyberFormat KYBER_PREKEY_DICT id)
    h.kyber_pre_keys
  exact ⟨s, ⟨congrArg StoreReply.kyber_pre_key hvalue, rfl⟩, h.kept hstate⟩

theorem save_pre_key_refines (id : ℕ) {record : C.pre_key.PreKeyRecord}
    (hread : ∀ buf, C.pre_key.serialize record = .ok buf → C.pre_key.deserialize buf = .ok record) :
    (StoreOp.save_pre_key id record : StoreOp C).Refines := by
  intro p s h
  apply saves_represents h
  · intro buf hbuf
    cases hserialized : C.pre_key.serialize record with
    | error e =>
      rw [hserialized] at hbuf
      cases hbuf
    | ok buf' =>
      have hsets := Pddb.sets_write p PREKEY_DICT (toString id) buf'
      unfold PddbPreKeyStore.save_pre_key
      rw [hserialized]
      exact ⟨rfl, h.pre_key hsets (congrArg some (hread buf' hserialized))⟩
  · intro e he
    cases hserialized : C.pre_key.serialize record with
    | ok buf =>
      rw [hserialized] at he
      cases he
    | error e' =>
      rw [hserialized] at he
      obtain rfl := Except.error.inj he
      unfold PddbPreKeyStore.save_pre_key
      rw [hserialized]
      exact ⟨rfl, rfl⟩

theorem save_signed_pre_key_refines (id : ℕ) {record : C.prekeys.SignedPreKeyRecord}
    (hread : ∀ buf, C.prekeys.signed_serialize record = .ok buf → C.prekeys.signed_deserialize buf = .ok record) :
    (StoreOp.save_signed_pre_key id record : StoreOp C).Refines := by
  intro p s h
  obtain ⟨hok, herror⟩ := run_savePreKey p SIGNED_PREKEY_DICT id (C.prekeys.signed_serialize record)
  refine saves_represents h ?_ herror
  intro buf hbuf
  obtain ⟨hvalue, hsets⟩ := hok buf hbuf
  exact ⟨hvalue, h.signed_pre_key hsets (congrArg some (hread buf hbuf))⟩

theorem save_kyber_pre_key_refines (id : ℕ) {record : C.prekeys.KyberPreKeyRecord}
    (hread : ∀ buf, C.prekeys.kyber_serialize record = .ok buf → C.prekeys.kyber_deserialize buf = .ok record) :
    (StoreOp.save_kyber_pre_key id record : StoreOp C).Refines := by
  intro p s h
  obtain ⟨hok, herror⟩ := run_savePreKey p KYBER_PREKEY_DICT id (C.prekeys.kyber_serialize record)
  refine saves_represents h ?_ herror
  intro buf hbuf
  obtain ⟨hvalue, hsets⟩ := hok buf hbuf
  exact ⟨hvalue, h.kyber_pre_key hsets (congrArg some (hread buf hbuf))⟩

theorem remove_pre_key_refines (id : ℕ) : (StoreOp.remove_pre_key id : StoreOp C).Refines := by
  intro p s h
  have hsets := Pddb.sets_delete p PREKEY_DICT (toString id)
  rw [← state_remove_pre_key] at hsets
  refine ⟨_, ⟨congrArg StoreReply.done ?_, rfl⟩, h.pre_key hsets rfl⟩
  have hdelete : ((pddbDelete PREKEY_DICT (toString id)).run Pddb.handler p).value =
      (Pddb.answer (.delete PREKEY_DICT (toString id)) p).1 := rfl
  unfold PddbPreKeyStore.remove_pre_key
  rw [Program.run_bind, hdelete]
  cases hvalue : p.value PREKEY_DICT (toString id) with
  | none =>
    simp only [Pddb.answer, hvalue]
    rfl
  | some buf =>
    simp only [Pddb.answer, hvalue]
    rfl

theorem mark_kyber_refines (u : KyberUse) : (StoreOp.mark_kyber_pre_key_used u : StoreOp C).Refines := by
  intro p s h
  obtain ⟨hmarked, hvalue, hstate⟩ | ⟨hfresh, hvalue, hsets⟩ := run_mark_kyber KYBER_PREKEY_DICT p u
  · have hused : u ∈ s.used := (h.used u).mp hmarked
    refine ⟨s, ?_, h.kept hstate⟩
    simp only [ProtocolStores.Step, if_pos hused]
    exact ⟨congrArg StoreReply.done hvalue, rfl⟩
  · have hunused : u ∉ s.used := fun hu => hfresh ((h.used u).mpr hu)
    refine ⟨{ s with used := insert u s.used }, ?_, h.mark hsets⟩
    simp only [ProtocolStores.Step, if_neg hunused]
    exact ⟨congrArg StoreReply.done hvalue, trivial⟩

theorem sets_overwrite_identity (I : IdentityFormat) (p : Pddb) (a : ProtocolAddress) (key : I.IdentityKey)
    (change : IdentityChange) :
    Pddb.Sets p ((Calls.overwrite_identity I a key change).run CallFaults.none.handler p).state
      IDENTITY_DICT a.key (some (I.serialize key)) := by
  obtain ⟨-, hstate⟩ := CallFaults.run_write_binary_none p IDENTITY_DICT a.key (I.serialize key)
  intro dict' key'
  rw [CallFaults.run_overwrite_identity CallFaults.none p I a key change, hstate]
  exact Pddb.sets_write p IDENTITY_DICT a.key (I.serialize key) dict' key'

theorem sets_save_identity (I : IdentityFormat) (p : Pddb) (a : ProtocolAddress) {key : I.IdentityKey}
    (hkey : I.decode (I.serialize key) = .ok key) :
    ∃ v, Pddb.Sets p ((Calls.save_identity I a key).run CallFaults.none.handler p).state IDENTITY_DICT a.key v ∧
      v.map I.decode = some (.ok key) := by
  obtain ⟨-, hstate⟩ := Pddb.run_read_ask p (Calls.save_identity_over I a key) IDENTITY_DICT a.key
  have hover := fun change => sets_overwrite_identity I p a key change
  have hsaved : (some (I.serialize key)).map I.decode = some (.ok key) := congrArg some hkey
  rw [show ((Calls.save_identity I a key).run CallFaults.none.handler p).state = _ from hstate]
  cases hvalue : p.value IDENTITY_DICT a.key with
  | none =>
    rw [found_of_none hvalue]
    exact ⟨_, hover .NewOrUnchanged, hsaved⟩
  | some buf =>
    rw [found_of_some hvalue]
    simp only [Calls.save_identity_over]
    cases hdecode : I.decode buf with
    | error e => exact ⟨_, hover .ReplacedExisting, hsaved⟩
    | ok existing =>
      by_cases hsame : existing = key
      · subst hsame
        simp only [if_true]
        refine ⟨_, Pddb.sets_self p IDENTITY_DICT a.key, ?_⟩
        rw [hvalue, Option.map_some, hdecode]
      · simp only [if_neg hsame]
        exact ⟨_, hover .ReplacedExisting, hsaved⟩

theorem state_read_identity {α : Type} (p : Pddb) (k : Except IoError Bytes → α) (key : String) :
    (((FileCall.read IDENTITY_DICT key).ask >>= fun r => pure (k r)).run CallFaults.none.handler p).state = p :=
  (Pddb.run_read_ask p (fun r => pure (k r)) IDENTITY_DICT key).2

theorem save_identity_refines (a : ProtocolAddress) {key : C.identity.IdentityKey}
    (hkey : C.identity.decode (C.identity.serialize key) = .ok key) :
    (StoreOp.save_identity a key : StoreOp C).Refines := by
  intro p s h
  obtain ⟨hvalue, -⟩ := Pddb.run_save_identity C.identity p a hkey a
  obtain ⟨v, hsets, hv⟩ := sets_save_identity C.identity p a hkey
  refine ⟨_, ⟨congrArg StoreReply.change (hvalue.trans (congrArg Except.ok ?_)), rfl⟩, h.identity hsets hv⟩
  rw [Pddb.identity, h.identities a]
  cases s.identities a with
  | none => simp [Pddb.changeOf]
  | some old =>
    by_cases hsame : old = key <;> simp [Pddb.changeOf, hsame]

theorem is_trusted_identity_refines (a : ProtocolAddress) (key : C.identity.IdentityKey) (direction : Direction) :
    (StoreOp.is_trusted_identity a key direction : StoreOp C).Refines := by
  intro p s h
  have hvalue := Pddb.run_is_trusted_identity C.identity p a key direction
  refine ⟨s, ⟨congrArg StoreReply.trusted (hvalue.trans ?_), rfl⟩,
    h.kept (state_read_identity p (Calls.is_trusted_over C.identity key) a.key)⟩
  rw [Pddb.identity, h.identities a]
  cases s.identities a with
  | none => simp
  | some old => simp

theorem get_identity_refines (a : ProtocolAddress) : (StoreOp.get_identity a : StoreOp C).Refines := by
  intro p s h
  have hvalue := Pddb.run_get_identity C.identity p a
  refine ⟨s, ⟨congrArg StoreReply.identity (hvalue.trans ?_), rfl⟩,
    h.kept (state_read_identity p (Calls.get_identity_over C.identity) a.key)⟩
  rw [Pddb.identity, h.identities a]
  cases s.identities a <;> rfl

theorem simulates_stores : Simulates (pddbStores C) ProtocolStores.Step Represents StoreOp.Readable := by
  intro op p s hop h
  cases op with
  | load_session a => exact load_session_refines a p s h
  | store_session a record => exact store_session_refines a hop p s h
  | delete_session a => exact delete_session_refines a p s h
  | device_ids_for uuid => exact device_ids_for_refines uuid p s h
  | save_identity a key => exact save_identity_refines a hop p s h
  | is_trusted_identity a key direction => exact is_trusted_identity_refines a key direction p s h
  | get_identity a => exact get_identity_refines a p s h
  | get_pre_key id => exact get_pre_key_refines id p s h
  | save_pre_key id record => exact save_pre_key_refines id hop p s h
  | remove_pre_key id => exact remove_pre_key_refines id p s h
  | get_signed_pre_key id => exact get_signed_pre_key_refines id p s h
  | save_signed_pre_key id record => exact save_signed_pre_key_refines id hop p s h
  | get_kyber_pre_key id => exact get_kyber_pre_key_refines id p s h
  | save_kyber_pre_key id record => exact save_kyber_pre_key_refines id hop p s h
  | mark_kyber_pre_key_used u => exact mark_kyber_refines u p s h

/-- However the operations of the five stores are interleaved on one PDDB, they answer as five maps apart would. -/
theorem stores_refine_maps {ops : List (StoreOp C)} (hops : ∀ op ∈ ops, op.Readable) {p : Pddb} {s : ProtocolStores C}
    (h : Represents p s) : ∃ s', ProtocolStores.Step.Run s ((pddbStores C).run ops p).1 s' ∧
      Represents ((pddbStores C).run ops p).2 s' :=
  simulates_stores.run hops h

end Refinement

section Sample

def taggedCrates : PrekeyCrates :=
  { plainCrates with
    signed_serialize := fun record => .ok (encodeFields [.varint 1 record.1, .bytes 2 record.2])
    signed_deserialize := fun buf =>
      match decodeFields 100 buf with
      | some [.varint 1 id, .bytes 2 pair] => .ok (id, pair)
      | _ => .error (.Other "failed to decode protobuf")
    kyber_serialize := fun record => .ok (encodeFields [.varint 1 record.1, .bytes 2 record.2])
    kyber_deserialize := fun buf =>
      match decodeFields 100 buf with
      | some [.varint 1 id, .bytes 2 pair] => .ok (id, pair)
      | _ => .error (.Other "failed to decode protobuf") }

def sampleCrates : StoreCrates := ⟨plainRecords, byteIdentities, sampleKeys, taggedCrates⟩

def sampleOps : List (StoreOp sampleCrates) :=
  let a : ProtocolAddress := ⟨"ann", SessionOp.device⟩
  [.store_session a (id ([7] : Bytes)), .save_identity a (id ([5] : Bytes)),
    .save_pre_key 2 (sampleKeys.record_new 2 (id (6 : UInt8))),
    .save_signed_pre_key 2 (id ((2, [8]) : ℕ × Bytes)), .save_kyber_pre_key 2 (id ((2, [9]) : ℕ × Bytes)),
    .mark_kyber_pre_key_used ⟨2, 2, [5]⟩, .get_pre_key 2, .delete_session a, .remove_pre_key 2,
    .get_identity a, .get_signed_pre_key 2, .device_ids_for "ann", .get_pre_key 2,
    .mark_kyber_pre_key_used ⟨2, 2, [5]⟩]

theorem sampleOps_readable : ∀ op ∈ sampleOps, op.Readable := by
  simp only [sampleOps, List.forall_mem_cons, List.not_mem_nil, false_implies, implies_true, and_true]
  refine ⟨?_, rfl, ?_, ?_, ?_, trivial, trivial, trivial, trivial, trivial, trivial, trivial, trivial, trivial⟩
  · rintro buf ⟨⟩
    rfl
  · rintro buf ⟨⟩
    rfl
  · rintro buf ⟨⟩
    rfl
  · rintro buf ⟨⟩
    rfl

theorem sample_stores_refine : ∃ s', ProtocolStores.Step.Run (ProtocolStores.empty sampleCrates)
    ((pddbStores sampleCrates).run sampleOps ∅).1 s' ∧ Represents ((pddbStores sampleCrates).run sampleOps ∅).2 s' :=
  stores_refine_maps sampleOps_readable represents_empty

end Sample

end XousSignalClient
