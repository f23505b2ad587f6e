import XousSignalClient.Account.Link
import XousSignalClient.Interaction.Interference
import XousSignalClient.Outgoing.Recipient

namespace XousSignalClient

open Encoding Interaction Fallible

def MEDIUM_MAX : ℕ := 0x00FFFFFF

def PREKEY_DICT : String := "sigchat.prekey"

def ACCOUNT_DICT : String := "sigchat.account"

def ACI_NEXT_PREKEY_ID_KEY : String := "aci.next_prekey_id"

def PRE_KEY_MINIMUM : ℕ := 10

def PRE_KEY_BATCH_SIZE : ℕ := 100

/-- What replenishment uses of libsignal's key pairs and prekey records. Public keys stand for their
serialized form. -/
structure PreKeyCrate where
  KeyPair : Type
  public_key : KeyPair → Bytes
  PreKeyRecord : Type
  record_new : ℕ → KeyPair → PreKeyRecord
  serialize : PreKeyRecord → Except SignalProtocolError Bytes
  deserialize : Bytes → Except SignalProtocolError PreKeyRecord
  record_public_key : PreKeyRecord → Except SignalProtocolError Bytes
  display : SignalProtocolError → String
  debug : SignalProtocolError → String

def PreKeyCrate.Lawful (K : PreKeyCrate) : Prop :=
  ∀ id < 2 ^ 32, ∀ pair, ∃ buf record, K.serialize (K.record_new id pair) = .ok buf ∧ K.deserialize buf = .ok record ∧
    K.record_public_key record = .ok (K.public_key pair)

structure PreKeyCount where
  count : ℕ
  pq_count : ℕ

structure OneTimePreKeyJson where
  key_id : ℕ
  public_key_b64url : String

structure OneTimePreKeyBatch where
  json : List OneTimePreKeyJson
  count : ℕ

structure OneTimePreKeyEntity where
  key_id : ℕ
  public_key : String

structure SetKeysRequest where
  pre_keys : List OneTimePreKeyEntity := []
  signed_pre_key : Option PreKeyJson := none
  pq_pre_keys : List PreKeyJson := []
  pq_last_resort_pre_key : Option PreKeyJson := none

inductive ReplenishOutcome where
  | Skipped (server_count : ℕ)
  | Replenished (uploaded : ℕ)
  | Failed (reason : String)
  deriving DecidableEq

inductive KeysCall where
  | pddb (c : PddbCall)
  | next_u32
  | generate
  | get_keys_status
  | put_keys (body : SetKeysRequest)

def KeysCall.Reply (K : PreKeyCrate) : KeysCall → Type
  | .pddb c => c.Reply
  | .next_u32 => UInt32
  | .generate => K.KeyPair
  | .get_keys_status => Except Error PreKeyCount
  | .put_keys _ => Except Error Unit

def keysSignature (K : PreKeyCrate) : Signature := ⟨KeysCall, KeysCall.Reply K⟩

abbrev KeysProgram (K : PreKeyCrate) (α : Type) := Program (keysSignature K) α

abbrev KeysM (K : PreKeyCrate) (α : Type) := Fallible (keysSignature K) Error α

variable {K : PreKeyCrate}

def keysCall (c : KeysCall) : KeysM K (c.Reply K) := Fallible.call (S := keysSignature K) c

def inKeys {α : Type} (p : PddbProgram α) : KeysProgram K α :=
  p.interp (fun c => Program.perform (S := keysSignature K) (.pddb c))

namespace PddbPreKeyStore

def get_pre_key (K : PreKeyCrate) (id : ℕ) : PddbProgram (Except SignalProtocolError K.PreKeyRecord) := do
  match ← pddb_read_binary PREKEY_DICT (toString id) with
  | .ok buf => pure (K.deserialize buf)
  | .error (.notFound _) => pure (.error (.Other "InvalidPreKeyId"))
  | .error (.other t) => pure (.error (io_err_to_signal (.other t) "read failed"))

def save_pre_key (id : ℕ) (record : K.PreKeyRecord) : PddbProgram (Except SignalProtocolError Unit) := do
  match K.serialize record with
  | .error e => pure (.error (.InvalidState "pddb" ("serialize failed: " ++ K.display e)))
  | .ok buf =>
    let written ← pddb_write_binary PREKEY_DICT (toString id) buf
    pure (written.mapError (io_err_to_signal · "write failed"))

def remove_pre_key (id : ℕ) : PddbProgram (Except SignalProtocolError Unit) := do
  match ← pddbDelete PREKEY_DICT (toString id) with
  | .ok () => pure (.ok ())
  | .error (.notFound _) => pure (.ok ())
  | .error (.other t) => pure (.error (io_err_to_signal (.other t) "delete failed"))

end PddbPreKeyStore

/-- `get` with creation is a request of its own here: a write of nothing. -/
def write_prekey_counter (next : ℕ) : PddbProgram (Except Error Unit) := do
  let _deleted ← pddbDelete ACCOUNT_DICT ACI_NEXT_PREKEY_ID_KEY
  match ← pddbWrite ACCOUNT_DICT ACI_NEXT_PREKEY_ID_KEY [] with
  | .error e => pure (.error ⟨.Other, "counter get: " ++ e.text⟩)
  | .ok () =>
    match ← pddbWrite ACCOUNT_DICT ACI_NEXT_PREKEY_ID_KEY (utf8 (toString next)) with
    | .error e => pure (.error ⟨.Other, "counter write: " ++ e.text⟩)
    | .ok () =>
      let _synced ← pddbSync
      pure (.ok ())

def counterOf (s : String) : Option ℕ :=
  match parseUnsigned (2 ^ 32) (trim s) with
  | some v => if 1 ≤ v ∧ v ≤ MEDIUM_MAX then some v else none
  | none => none

def read_or_init_prekey_counter : KeysM K ℕ := do
  let stored ← ExceptT.lift (inKeys (pddb_get_string ACCOUNT_DICT ACI_NEXT_PREKEY_ID_KEY))
  match stored.bind counterOf with
  | some v => pure v
  | none => do
    let n : UInt32 ← keysCall .next_u32
    let seed := n.toNat % 1000 + 1
    ExceptT.mk (inKeys (write_prekey_counter seed))
    pure seed

def next_prekey_id (next : ℕ) : ℕ := if next ≥ MEDIUM_MAX then 1 else next + 1

def savePair (K : PreKeyCrate) (id : ℕ) : KeysM K OneTimePreKeyJson := do
  let pair : K.KeyPair ← keysCall .generate
  let saved ← ExceptT.lift (inKeys (PddbPreKeyStore.save_pre_key (K := K) id (K.record_new id pair)))
  Fallible.ofExcept (saved.mapError (fun e => ⟨.Other, "libsignal: " ++ K.debug e⟩))
  pure ⟨id, base64EncodeNoPad (K.public_key pair)⟩

def savePairs (K : PreKeyCrate) : ℕ → ℕ → KeysM K (List OneTimePreKeyJson × ℕ)
  | 0, next => pure ([], next)
  | n + 1, id => do
    let key ← savePair K id
    let (keys, next) ← savePairs K n (next_prekey_id id)
    pure (key :: keys, next)

def generate_one_time_prekeys (K : PreKeyCrate) (count : ℕ) : KeysM K OneTimePreKeyBatch :=
  if count = 0 then pure ⟨[], 0⟩
  else do
    let start_id ← read_or_init_prekey_counter
    let (json, next) ← savePairs K count start_id
    ExceptT.mk (inKeys (write_prekey_counter next))
    pure ⟨json, count⟩

def run_replenish (threshold batch_size : ℕ) (get_status : KeysM K PreKeyCount)
    (generate : ℕ → KeysM K (List OneTimePreKeyJson)) (put_keys : SetKeysRequest → KeysM K Unit) :
    KeysProgram K ReplenishOutcome := do
  match ← get_status.run with
  | .error e => pure (.Failed ("get_keys_status: " ++ e.text))
  | .ok status =>
    if status.count ≥ threshold then pure (.Skipped status.count)
    else
      match ← (generate batch_size).run with
      | .error e => pure (.Failed ("generate_one_time_prekeys: " ++ e.text))
      | .ok json_keys =>
        let body : SetKeysRequest := { pre_keys := json_keys.map (fun k => ⟨k.key_id, k.public_key_b64url⟩) }
        let uploaded := body.pre_keys.length % 2 ^ 32
        match ← (put_keys body).run with
        | .error e => pure (.Failed ("put_keys: " ++ e.text))
        | .ok () => pure (.Replenished uploaded)

def replenish (K : PreKeyCrate) (threshold batch_size : ℕ) : KeysProgram K ReplenishOutcome :=
  run_replenish threshold batch_size
    (do
      let status : Except Error PreKeyCount ← keysCall .get_keys_status
      Fallible.ofExcept status)
    (fun n => do
      let batch ← generate_one_time_prekeys K n
      pure batch.json)
    (fun body => do
      let accepted : Except Error Unit ← keysCall (.put_keys body)
      Fallible.ofExcept accepted)

def replenish_aci_one_time_prekeys (K : PreKeyCrate) : KeysProgram K ReplenishOutcome :=
  replenish K PRE_KEY_MINIMUM PRE_KEY_BATCH_SIZE

end XousSignalClient
