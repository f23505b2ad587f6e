import XousSignalClient.Interaction.Ensures
import XousSignalClient.SessionStore

namespace Encoding

def parseSigned64 (s : String) : Option Int :=
  match s.toList with
  | '-' :: '+' :: _ => none
  | '-' :: rest => (parseUnsigned (2 ^ 63 + 1) (String.ofList rest)).map (fun n => -(n : Int))
  | _ => (parseUnsigned (2 ^ 63) s).map (fun n => (n : Int))

def parseBool (s : String) : Option Bool :=
  if s = "true" then some true
  else if s = "false" then some false
  else none

end Encoding

namespace XousSignalClient

open Encoding Interaction Fallible

inductive ErrorKind where
  | NotFound
  | InvalidData
  | InvalidInput
  | PermissionDenied
  | ConnectionAborted
  | Other
  deriving DecidableEq

structure Error where
  kind : ErrorKind
  text : String
  deriving DecidableEq

def IoError.toError : IoError → Error
  | .notFound t => ⟨.NotFound, t⟩
  | .other t => ⟨.Other, t⟩

inductive ServiceEnvironment where
  | Live
  | Staging
  deriving DecidableEq

def ServiceEnvironment.to_string : ServiceEnvironment → String
  | .Live => "Live"
  | .Staging => "Staging"

def ServiceEnvironment.from_str (input : String) : Option ServiceEnvironment :=
  if input = "Live" then some .Live
  else if input = "Staging" then some .Staging
  else none

/-- What `account.rs` uses of `url::Host`; `signal.org` parses. -/
structure HostCrate where
  Host : Type
  host_parse : String → Option Host
  host_to_string : Host → String
  signal_org : Host
  parse_signal_org : host_parse "signal.org" = some signal_org

structure Account (U : HostCrate) where
  pddb_dict : String
  aci_identity_private : Option String
  aci_identity_public : Option String
  aci_service_id : Option String
  device_id : ℕ
  encrypted_device_name : Option String
  host : U.Host
  is_multi_device : Bool
  number : Option String
  password : Option String
  pin_master_key : Option String
  pni_identity_private : Option String
  pni_identity_public : Option String
  pni_service_id : Option String
  profile_key : Option String
  registered : Bool
  service_environment : ServiceEnvironment
  storage_key : Option String
  store_last_receive_timestamp : Int
  store_manifest_version : Int
  store_manifest : Option String

def ACCOUNT_ENTROPY_POOL_KEY : String := "aep"
def ACI_IDENTITY_PRIVATE_KEY : String := "aci.identity.private"
def ACI_IDENTITY_PUBLIC_KEY : String := "aci.identity.public"
def ACI_SERVICE_ID_KEY : String := "aci.service_id"
def DEVICE_ID_KEY : String := "device_id"
def ENCRYPTED_DEVICE_NAME_KEY : String := "encrypted_device_name"
def HOST_KEY : String := "host"
def IS_MULTI_DEVICE_KEY : String := "is_multi_device"
def NUMBER_KEY : String := "number"
def PASSWORD_KEY : String := "password"
def PIN_MASTER_KEY_KEY : String := "pin_master_key"
def PNI_IDENTITY_PRIVATE_KEY : String := "pni.identity.private"
def PNI_IDENTITY_PUBLIC_KEY : String := "pni.identity.public"
def PNI_REGISTRATION_ID_KEY : String := "pni.registration_id"
def PNI_SERVICE_ID_KEY : String := "pni.service_id"
def PROFILE_KEY_KEY : String := "profile_key"
def REGISTERED_KEY : String := "registered"
def REGISTRATION_ID_KEY : String := "registration_id"
def SERVICE_ENVIRONMENT_KEY : String := "service_environment"
def STORAGE_KEY_KEY : String := "storage_key"
def STORE_LAST_RECEIVE_TIMESTAMP_KEY : String := "store_last_receive_timestamp"
def STORE_MANIFEST_VERSION_KEY : String := "store_manifest_version"
def STORE_MANIFEST_KEY : String := "store_manifest"

namespace AccountDict

def READ_BUFFER : ℕ := 256

/-- The value of a key. A failing PDDB call reads as an absent key. -/
def get (dict key : String) : PddbProgram (Option String) := do
  match ← pddbRead dict key with
  | .ok value => pure (from_utf8 (value.take READ_BUFFER))
  | .error _ => pure none

def set_new (dict key : String) (value : Option String) : Fallible pddbSignature Error Unit :=
  match value with
  | none => pure ()
  | some value => do
    let written : Except IoError Unit ← ExceptT.lift (pddbWrite dict key (utf8 value))
    Fallible.ofExcept (written.mapError IoError.toError)

end AccountDict

namespace Account

variable {U : HostCrate}

def KEYS : List String :=
  [ACI_IDENTITY_PRIVATE_KEY, ACI_IDENTITY_PUBLIC_KEY, ACI_SERVICE_ID_KEY, DEVICE_ID_KEY,
    ENCRYPTED_DEVICE_NAME_KEY, HOST_KEY, IS_MULTI_DEVICE_KEY, NUMBER_KEY, PASSWORD_KEY, PIN_MASTER_KEY_KEY,
    PNI_IDENTITY_PRIVATE_KEY, PNI_IDENTITY_PUBLIC_KEY, PNI_SERVICE_ID_KEY, PROFILE_KEY_KEY, REGISTERED_KEY,
    SERVICE_ENVIRONMENT_KEY, STORAGE_KEY_KEY, STORE_LAST_RECEIVE_TIMESTAMP_KEY, STORE_MANIFEST_VERSION_KEY,
    STORE_MANIFEST_KEY]

/-- The account made of the values of its keys; a flag or a number that does not parse takes its default. -/
def ofValues (pddb_dict : String) (value : String → Option String) : Except Error (Account U) :=
  match value DEVICE_ID_KEY, value HOST_KEY, value IS_MULTI_DEVICE_KEY, value REGISTERED_KEY,
    value SERVICE_ENVIRONMENT_KEY, value STORE_MANIFEST_VERSION_KEY with
  | some device_id, some host, some is_multi_device, some registered, some service_environment,
    some store_manifest_version => .ok {
      pddb_dict := pddb_dict
      aci_identity_private := value ACI_IDENTITY_PRIVATE_KEY
      aci_identity_public := value ACI_IDENTITY_PUBLIC_KEY
      aci_service_id := value ACI_SERVICE_ID_KEY
      device_id := (parseUnsigned (2 ^ 32) device_id).getD 0
      encrypted_device_name := value ENCRYPTED_DEVICE_NAME_KEY
      host := (U.host_parse host).getD U.signal_org
      is_multi_device := (parseBool is_multi_device).getD false
      number := value NUMBER_KEY
      password := value PASSWORD_KEY
      pin_master_key := value PIN_MASTER_KEY_KEY
      pni_identity_private := value PNI_IDENTITY_PRIVATE_KEY
      pni_identity_public := value PNI_IDENTITY_PUBLIC_KEY
      pni_service_id := value PNI_SERVICE_ID_KEY
      profile_key := value PROFILE_KEY_KEY
      registered := (parseBool registered).getD false
      service_environment := (ServiceEnvironment.from_str service_environment).getD .Live
      storage_key := value STORAGE_KEY_KEY
      store_last_receive_timestamp := ((value STORE_LAST_RECEIVE_TIMESTAMP_KEY).bind parseSigned64).getD 0
      store_manifest_version := (parseSigned64 store_manifest_version).getD (-1)
      store_manifest := value STORE_MANIFEST_KEY }
  | _, _, _, _, _, _ => .error ⟨.InvalidData, "invalid data"⟩

def readValues (dict : String) : List String → PddbProgram (List (String × Option String))
  | [] => pure []
  | key :: keys => do
    let value ← AccountDict.get dict key
    let rest ← readValues dict keys
    pure ((key, value) :: rest)

def read (U : HostCrate) (pddb_dict : String) : Fallible pddbSignature Error (Account U) := do
  let values ← ExceptT.lift (readValues pddb_dict KEYS)
  Fallible.ofExcept (ofValues pddb_dict (fun key => (values.lookup key).join))

def NONE_KEYS : List String :=
  [ACI_IDENTITY_PRIVATE_KEY, ACI_IDENTITY_PUBLIC_KEY, ACI_SERVICE_ID_KEY, ENCRYPTED_DEVICE_NAME_KEY, NUMBER_KEY,
    PASSWORD_KEY, PIN_MASTER_KEY_KEY, PNI_IDENTITY_PRIVATE_KEY, PNI_IDENTITY_PUBLIC_KEY, PNI_SERVICE_ID_KEY,
    PROFILE_KEY_KEY, STORAGE_KEY_KEY, STORE_MANIFEST_KEY]

def defaults (host : U.Host) (service_environment : ServiceEnvironment) : List (String × String) :=
  [(DEVICE_ID_KEY, "0"), (HOST_KEY, U.host_to_string host), (IS_MULTI_DEVICE_KEY, "false"),
    (REGISTERED_KEY, "false"), (SERVICE_ENVIRONMENT_KEY, service_environment.to_string),
    (STORE_LAST_RECEIVE_TIMESTAMP_KEY, "0"), (STORE_MANIFEST_VERSION_KEY, "-1")]

def clear (dict : String) : List String → PddbProgram Unit
  | [] => pure ()
  | key :: keys => do
    let _deleted ← pddbDelete dict key
    clear dict keys

def persist (dict : String) : List (String × Option String) → Fallible pddbSignature Error Unit
  | [] => pure ()
  | (key, value) :: rest => do
    AccountDict.set_new dict key value
    persist dict rest

def new (pddb_dict : String) (host : U.Host) (service_environment : ServiceEnvironment) :
    Fallible pddbSignature Error (Account U) := do
  ExceptT.lift (clear pddb_dict NONE_KEYS)
  persist pddb_dict ((defaults host service_environment).map (fun entry => (entry.1, some entry.2)))
  let synced : Except IoError Unit ← ExceptT.lift pddbSync
  Fallible.ofExcept (synced.mapError (fun _ => ⟨.Other, "PDDB sync failed after Account::new init"⟩))
  read U pddb_dict

end Account

end XousSignalClient
