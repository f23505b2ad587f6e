import XousSignalClient.Account.Record
import XousSignalClient.Encoding.Base64

namespace XousSignalClient

open Encoding Interaction Fallible

structure IdentityKeyPair where
  service_id : String
  djb_identity_key : String
  djb_private_key : String

structure ProvisionMessage where
  number : String
  aci : IdentityKeyPair
  pni : IdentityKeyPair
  master_key : String
  profile_key : Option String
  provisioning_code : Option String
  account_entropy_pool : Option String

structure Capabilities where
  storage : Bool
  versioned_expiration_timer : Bool
  attachment_backfill : Bool
  ssre2 : Bool
  spqr : Bool

structure AccountAttributes where
  registration_id : ℕ
  fetches_messages : Bool
  registration_lock : Option String
  unidentified_access_key : String
  unrestricted_unidentified_access : Bool
  discoverable_by_phone_number : Bool
  capabilities : Capabilities
  name : String
  pni_registration_id : ℕ
  recovery_password : Option String

structure PreKeyJson where
  key_id : ℕ
  public_key_b64url : String
  signature_b64url : String

structure LinkDeviceRequestBody where
  verification_code : String
  account_attributes : AccountAttributes
  aci_signed_pre_key : PreKeyJson
  pni_signed_pre_key : PreKeyJson
  aci_pq_last_resort_pre_key : PreKeyJson
  pni_pq_last_resort_pre_key : PreKeyJson

structure LinkDeviceResponse where
  uuid : String
  pni : String
  device_id : ℕ
  fits : device_id < 2 ^ 32

theorem two_fits : 2 < 2 ^ 32 := by decide

structure LinkCrates extends HostCrate where
  Url : Type
  url_parse : String → Option Url
  set_path : Url → String → Url
  url_to_string : Url → String
  b64_url_decode : String → Option Bytes
  PrivateKey : Type
  private_key_deserialize : Bytes → Except SignalProtocolError PrivateKey
  aes256_gcm_encrypt : (key nonce msg : Bytes) → Option Bytes
  SignedPreKeyRecord : Type
  signed_id : SignedPreKeyRecord → Except SignalProtocolError ℕ
  signed_serialize : SignedPreKeyRecord → Except SignalProtocolError Bytes
  KyberPreKeyRecord : Type
  kyber_id : KyberPreKeyRecord → Except SignalProtocolError ℕ
  kyber_serialize : KyberPreKeyRecord → Except SignalProtocolError Bytes
  debug : SignalProtocolError → String

structure Prekeys (L : LinkCrates) where
  aci_signed : PreKeyJson
  pni_signed : PreKeyJson
  aci_kyber_last_resort : PreKeyJson
  pni_kyber_last_resort : PreKeyJson
  aci_signed_record : L.SignedPreKeyRecord
  pni_signed_record : L.SignedPreKeyRecord
  aci_kyber_record : L.KyberPreKeyRecord
  pni_kyber_record : L.KyberPreKeyRecord

inductive LinkCall (L : LinkCrates) where
  | pddb (c : PddbCall)
  | self
  | assign (account : Account L.toHostCrate)
  | try_fill_bytes (n : ℕ)
  | next_u32
  | encrypt_device_name (device_name aci_identity_priv : String)
  | generate_prekeys (aci pni : L.PrivateKey)
  | try_put (url auth_value : String) (body : LinkDeviceRequestBody)
  | put_attributes (url auth_value : String) (attrs : AccountAttributes)

def LinkCall.Reply {L : LinkCrates} : LinkCall L → Type
  | .pddb c => c.Reply
  | .self => Account L.toHostCrate
  | .assign _ => Unit
  | .try_fill_bytes _ => Option Bytes
  | .next_u32 => UInt32
  | .encrypt_device_name _ _ => Except Error String
  | .generate_prekeys _ _ => Except Error (Prekeys L)
  | .try_put _ _ _ => Except Error LinkDeviceResponse
  | .put_attributes _ _ _ => Except Error Unit

def linkSignature (L : LinkCrates) : Signature := ⟨LinkCall L, LinkCall.Reply⟩

inductive Failure where
  | error (e : Error)
  | unwrapNone
  deriving DecidableEq

abbrev LinkM (L : LinkCrates) (α : Type) := Fallible (linkSignature L) Failure α

variable {L : LinkCrates}

def linkCall (c : LinkCall L) : LinkM L c.Reply := Fallible.call (S := linkSignature L) c

def fail {α : Type} (kind : ErrorKind) (text : String) : LinkM L α := throw (.error ⟨kind, text⟩)

def inPddb {α : Type} (p : PddbProgram α) : Program (linkSignature L) α :=
  p.interp (fun c => Program.perform (S := linkSignature L) (.pddb c))

def inPddbM {α : Type} (x : Fallible pddbSignature Error α) : LinkM L α :=
  Fallible.mapError Failure.error (ExceptT.mk (inPddb x.run))

def propagate {α : Type} (r : Except Error α) : LinkM L α := Fallible.ofExcept (r.mapError .error)

section AccountAttrs

def generate_link_password : LinkM L String := do
  match ← linkCall (.try_fill_bytes 18) with
  | none => fail .Other "rng failure"
  | some bytes => pure (base64Encode bytes)

def generate_registration_id : LinkM L ℕ := do
  let n : UInt32 ← linkCall .next_u32
  pure (n.toNat % 16380 + 1)

def derive_unidentified_access_key (L : LinkCrates) (profile_key : Bytes) : Except Error Bytes :=
  if profile_key.length ≠ 32 then .error ⟨.InvalidInput, "profile_key must be 32 bytes"⟩
  else
    match L.aes256_gcm_encrypt profile_key (List.replicate 12 0) (List.replicate 16 0) with
    | none => .error ⟨.Other, "UAK AES-GCM failure"⟩
    | some encrypted => .ok (encrypted.take 16)

def build_account_attributes (L : LinkCrates) (encrypted_device_name_b64 : String) (profile_key : Bytes)
    (registration_id pni_registration_id : ℕ) : Except Error AccountAttributes := do
  let uak ← derive_unidentified_access_key L profile_key
  pure {
    registration_id := registration_id
    fetches_messages := true
    registration_lock := none
    unidentified_access_key := base64Encode uak
    unrestricted_unidentified_access := false
    discoverable_by_phone_number := false
    capabilities := ⟨true, true, true, true, true⟩
    name := encrypted_device_name_b64
    pni_registration_id := pni_registration_id
    recovery_password := none }

end AccountAttrs

section Rest

def LinkDeviceRequestBody.from_parts (verification_code : String) (account_attributes : AccountAttributes)
    (prekeys : Prekeys L) : LinkDeviceRequestBody where
  verification_code := verification_code
  account_attributes := account_attributes
  aci_signed_pre_key := prekeys.aci_signed
  pni_signed_pre_key := prekeys.pni_signed
  aci_pq_last_resort_pre_key := prekeys.aci_kyber_last_resort
  pni_pq_last_resort_pre_key := prekeys.pni_kyber_last_resort

def basic_auth_header (identifier password : String) : String :=
  "Basic " ++ base64Encode (utf8 (identifier ++ ":" ++ password))

def put_devices_link (base_url : L.Url) (phone_number password : String) (body : LinkDeviceRequestBody) :
    LinkM L LinkDeviceResponse := do
  let link_url := L.url_to_string (L.set_path base_url "/v1/devices/link")
  match ← linkCall (.try_put link_url (basic_auth_header (phone_number ++ ".-1") password) body) with
  | .ok r => pure r
  | .error e =>
    if e.kind = .PermissionDenied then
      let retried ← linkCall (.try_put link_url (basic_auth_header phone_number password) body)
      propagate retried
    else throw (.error e)

def put_accounts_attributes (base_url : L.Url) (identifier password : String) (attrs : AccountAttributes) :
    LinkM L (Except Error Unit) :=
  linkCall (.put_attributes (L.url_to_string (L.set_path base_url "/v1/accounts/attributes"))
    (basic_auth_header identifier password) attrs)

end Rest

section Prekeys

def SIGNED_PREKEY_DICT : String := "sigchat.signed_prekey"

def KYBER_PREKEY_DICT : String := "sigchat.kyber_prekey"

/-- `save_signed_pre_key` and `save_kyber_pre_key`. -/
def savePreKey (dict : String) (id : ℕ) (serialized : Except SignalProtocolError Bytes) :
    Fallible pddbSignature SignalProtocolError Unit := do
  let buf ← Fallible.ofExcept serialized
  let written : Except IoError Unit ← ExceptT.lift (pddb_write_binary dict (toString id) buf)
  Fallible.ofExcept (written.mapError (io_err_to_signal · "write failed"))

def saveRecord (dict : String) (id : Except SignalProtocolError ℕ)
    (serialized : Except SignalProtocolError Bytes) : Fallible pddbSignature SignalProtocolError Unit := do
  let id ← Fallible.ofExcept id
  savePreKey dict id serialized

def map_signal_err (L : LinkCrates) (e : SignalProtocolError) : Error := ⟨.Other, "libsignal: " ++ L.debug e⟩

def save_to_pddb (prekeys : Prekeys L) : Fallible pddbSignature Error Unit :=
  Fallible.mapError (map_signal_err L) do
    saveRecord SIGNED_PREKEY_DICT (L.signed_id prekeys.aci_signed_record)
      (L.signed_serialize prekeys.aci_signed_record)
    saveRecord SIGNED_PREKEY_DICT (L.signed_id prekeys.pni_signed_record)
      (L.signed_serialize prekeys.pni_signed_record)
    saveRecord KYBER_PREKEY_DICT (L.kyber_id prekeys.aci_kyber_record)
      (L.kyber_serialize prekeys.aci_kyber_record)
    saveRecord KYBER_PREKEY_DICT (L.kyber_id prekeys.pni_kyber_record)
      (L.kyber_serialize prekeys.pni_kyber_record)

end Prekeys

namespace Account

section Fields

variable {U : HostCrate}

def DEFAULT_DEVICE_ID : ℕ := 1

def is_registered (account : Account U) : Bool :=
  account.registered || (account.device_id ≠ 0 && account.aci_service_id.isSome && account.password.isSome)

def is_primary_device (account : Account U) : Bool :=
  account.is_registered && account.device_id == DEFAULT_DEVICE_ID

abbrev Mirror (U : HostCrate) := Account U → Option String → Except Failure (Account U)

def Mirror.text (set : Account U → Option String → Account U) : Mirror U := fun account value => .ok (set account value)

/-- `owned_value.unwrap().parse().unwrap()`. -/
def Mirror.parsed {α : Type} (parse : String → Option α) (set : Account U → α → Account U) : Mirror U :=
  fun account value =>
    match value.bind parse with
    | some x => .ok (set account x)
    | none => .error .unwrapNone

def Mirror.none : Mirror U := fun account _ => .ok account

def mirrors (U : HostCrate) : List (String × Mirror U) :=
  [(ACI_IDENTITY_PRIVATE_KEY, .text fun a v => { a with aci_identity_private := v }),
    (ACI_IDENTITY_PUBLIC_KEY, .text fun a v => { a with aci_identity_public := v }),
    (ACI_SERVICE_ID_KEY, .text fun a v => { a with aci_service_id := v }),
    (DEVICE_ID_KEY, .parsed (parseUnsigned (2 ^ 32)) fun a n => { a with device_id := n }),
    (ENCRYPTED_DEVICE_NAME_KEY, .text fun a v => { a with encrypted_device_name := v }),
    (IS_MULTI_DEVICE_KEY, .parsed parseBool fun a b => { a with is_multi_device := b }),
    (NUMBER_KEY, .text fun a v => { a with number := v }),
    (PASSWORD_KEY, .text fun a v => { a with password := v }),
    (PIN_MASTER_KEY_KEY, .text fun a v => { a with pin_master_key := v }),
    (PNI_IDENTITY_PRIVATE_KEY, .text fun a v => { a with pni_identity_private := v }),
    (PNI_IDENTITY_PUBLIC_KEY, .text fun a v => { a with pni_identity_public := v }),
    (PNI_SERVICE_ID_KEY, .text fun a v => { a with pni_service_id := v }),
    (PROFILE_KEY_KEY, .text fun a v => { a with profile_key := v }),
    (REGISTERED_KEY, .parsed parseBool fun a b => { a with registered := b }),
    (SERVICE_ENVIRONMENT_KEY, .parsed ServiceEnvironment.from_str fun a e => { a with service_environment := e }),
    (STORAGE_KEY_KEY, .text fun a v => { a with storage_key := v }),
    (ACCOUNT_ENTROPY_POOL_KEY, .none), (REGISTRATION_ID_KEY, .none), (PNI_REGISTRATION_ID_KEY, .none),
    (STORE_LAST_RECEIVE_TIMESTAMP_KEY, .none), (STORE_MANIFEST_VERSION_KEY, .none), (STORE_MANIFEST_KEY, .none)]

end Fields

def set_new (key : String) (value : Option String) : LinkM L Unit := do
  let account : Account L.toHostCrate ← linkCall .self
  inPddbM (AccountDict.set_new account.pddb_dict key value)
  match (mirrors L.toHostCrate).lookup key with
  | some mirror =>
    let account' ← Fallible.ofExcept (mirror account value)
    linkCall (.assign account')
  | none =>
    let _deleted : Except IoError Unit ← ExceptT.lift (inPddb (pddbDelete account.pddb_dict key))
    fail .NotFound "entity not found"

def set_new_all : List (String × Option String) → LinkM L Unit
  | [] => pure ()
  | (key, value) :: rest => do
    set_new key value
    set_new_all rest

def chat_url (account : Account L.toHostCrate) : LinkM L L.Url :=
  let base := match account.service_environment with
    | .Live => "https://chat." ++ L.host_to_string account.host
    | .Staging => "https://chat.staging." ++ L.host_to_string account.host
  match L.url_parse base with
  | some url => pure url
  | none => fail .InvalidData "invalid chat URL"

def decode_private_key (key_b64url : String) : LinkM L L.PrivateKey :=
  match L.b64_url_decode key_b64url with
  | none => fail .InvalidData "identity private key not valid base64"
  | some bytes =>
    match L.private_key_deserialize bytes with
    | .error _ => fail .InvalidData "identity private key invalid"
    | .ok key => pure key

structure Linked (L : LinkCrates) where
  password : String
  registration_id : ℕ
  pni_registration_id : ℕ
  profile_key_b64 : String
  encrypted_name : String
  attrs : AccountAttributes
  generated : Prekeys L
  base_url : L.Url
  response : LinkDeviceResponse

def requestLink (device_name : String) (provisioning_msg : ProvisionMessage) : LinkM L (Linked L) := do
  let account : Account L.toHostCrate ← linkCall .self
  match provisioning_msg.provisioning_code with
  | none => fail .InvalidData "missing provisioningCode"
  | some verification_code =>
    match provisioning_msg.profile_key with
    | none => fail .InvalidData "missing profile_key"
    | some profile_key_b64 =>
      match L.b64_url_decode profile_key_b64 with
      | none => fail .InvalidData "profile_key not valid base64"
      | some profile_key_bytes =>
        let password ← generate_link_password
        let registration_id ← generate_registration_id
        let pni_registration_id ← generate_registration_id
        let name : Except Error String ←
          linkCall (.encrypt_device_name device_name provisioning_msg.aci.djb_private_key)
        let encrypted_name ← propagate name
        let attrs ← propagate (build_account_attributes L encrypted_name profile_key_bytes registration_id
          pni_registration_id)
        let aci_priv ← decode_private_key provisioning_msg.aci.djb_private_key
        let pni_priv ← decode_private_key provisioning_msg.pni.djb_private_key
        let keys : Except Error (Prekeys L) ← linkCall (.generate_prekeys aci_priv pni_priv)
        let generated ← propagate keys
        let body := LinkDeviceRequestBody.from_parts verification_code attrs generated
        let base_url ← chat_url account
        let response ← put_devices_link base_url provisioning_msg.number password body
        pure ⟨password, registration_id, pni_registration_id, profile_key_b64, encrypted_name, attrs, generated,
          base_url, response⟩

def credentials (msg : ProvisionMessage) (linked : Linked L) : List (String × Option String) :=
  [(PASSWORD_KEY, some linked.password), (DEVICE_ID_KEY, some (toString linked.response.device_id)),
    (ACI_IDENTITY_PRIVATE_KEY, some msg.aci.djb_private_key),
    (ACI_IDENTITY_PUBLIC_KEY, some msg.aci.djb_identity_key), (ACI_SERVICE_ID_KEY, some msg.aci.service_id),
    (PNI_IDENTITY_PRIVATE_KEY, some msg.pni.djb_private_key),
    (PNI_IDENTITY_PUBLIC_KEY, some msg.pni.djb_identity_key), (PNI_SERVICE_ID_KEY, some msg.pni.service_id),
    (ENCRYPTED_DEVICE_NAME_KEY, some linked.encrypted_name), (IS_MULTI_DEVICE_KEY, some "true"),
    (NUMBER_KEY, some msg.number), (PROFILE_KEY_KEY, some linked.profile_key_b64)] ++
  (msg.account_entropy_pool.map (fun aep => (ACCOUNT_ENTROPY_POOL_KEY, some aep))).toList ++
  [(REGISTRATION_ID_KEY, some (toString linked.registration_id)),
    (PNI_REGISTRATION_ID_KEY, some (toString linked.pni_registration_id)), (STORAGE_KEY_KEY, none),
    (STORE_LAST_RECEIVE_TIMESTAMP_KEY, some "0"), (STORE_MANIFEST_VERSION_KEY, some "-1"),
    (STORE_MANIFEST_KEY, none), (REGISTERED_KEY, some "true")]

def link (device_name : String) (provisioning_msg : ProvisionMessage) : LinkM L Bool := do
  let account : Account L.toHostCrate ← linkCall .self
  if account.is_primary_device then pure false
  else
    let linked ← requestLink device_name provisioning_msg
    set_new_all (credentials provisioning_msg linked)
    let synced : Except IoError Unit ← ExceptT.lift (inPddb pddbSync)
    propagate (synced.mapError (fun _ => ⟨.Other, "PDDB sync failed after credentials persist"⟩))
    inPddbM (save_to_pddb linked.generated)
    let identifier := provisioning_msg.aci.service_id ++ "." ++ toString linked.response.device_id
    let _refreshed ← put_accounts_attributes linked.base_url identifier linked.password linked.attrs
    pure true

end Account

structure Device (U : HostCrate) (τ : Type) where
  pddb : Pddb
  account : Account U
  outside : τ

structure LinkEnv (L : LinkCrates) (τ : Type) where
  try_fill_bytes : ℕ → τ → Option Bytes × τ
  next_u32 : τ → UInt32 × τ
  encrypt_device_name : String → String → τ → Except Error String × τ
  generate_prekeys : L.PrivateKey → L.PrivateKey → τ → Except Error (Prekeys L) × τ
  try_put : String → String → LinkDeviceRequestBody → τ → Except Error LinkDeviceResponse × τ
  put_attributes : String → String → AccountAttributes → τ → Except Error Unit × τ

namespace LinkEnv

variable {τ : Type} (env : LinkEnv L τ)

def answer : (c : LinkCall L) → Device L.toHostCrate τ → c.Reply × Device L.toHostCrate τ
  | .pddb c, d => ((Pddb.answer c d.pddb).1, { d with pddb := (Pddb.answer c d.pddb).2 })
  | .self, d => (d.account, d)
  | .assign account, d => ((), { d with account := account })
  | .try_fill_bytes n, d =>
    ((env.try_fill_bytes n d.outside).1, { d with outside := (env.try_fill_bytes n d.outside).2 })
  | .next_u32, d => ((env.next_u32 d.outside).1, { d with outside := (env.next_u32 d.outside).2 })
  | .encrypt_device_name name key, d =>
    ((env.encrypt_device_name name key d.outside).1,
      { d with outside := (env.encrypt_device_name name key d.outside).2 })
  | .generate_prekeys aci pni, d =>
    ((env.generate_prekeys aci pni d.outside).1, { d with outside := (env.generate_prekeys aci pni d.outside).2 })
  | .try_put url auth body, d =>
    ((env.try_put url auth body d.outside).1, { d with outside := (env.try_put url auth body d.outside).2 })
  | .put_attributes url auth attrs, d =>
    ((env.put_attributes url auth attrs d.outside).1,
      { d with outside := (env.put_attributes url auth attrs d.outside).2 })

def handler : Handler (linkSignature L) (Device L.toHostCrate τ) := ⟨env.answer⟩

end LinkEnv

end XousSignalClient
