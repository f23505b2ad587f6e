import XousSignalClient.Encoding.Base64
import XousSignalClient.Interaction.Yields

namespace XousSignalClient

open Encoding Interaction Fallible

namespace MainWs

structure SocketCrates where
  Url : Type
  url_parse : String → Option Url
  host_str : Url → Option String
  as_str : Url → String
  uri_parse : String → Bool
  http_error : (uri : String) → (headers : List (String × String)) → String

structure UpgradeRequest where
  method : String
  uri : String
  headers : List (String × String)
  deriving DecidableEq

inductive UpgradeCall where
  | tcp_connect (host : String) (port : ℕ)
  | stream_owned (host : String)
  | generate_key
  | client (request : UpgradeRequest)

def UpgradeCall.Reply : UpgradeCall → Type
  | .tcp_connect _ _ => Except String Unit
  | .stream_owned _ => Except String Unit
  | .generate_key => String
  | .client _ => Except String Unit

def upgradeSignature : Signature := ⟨UpgradeCall, UpgradeCall.Reply⟩

inductive UpgradeFailure where
  | error (text : String)
  | expectFailed
  deriving DecidableEq

abbrev UpgradeM (α : Type) := Fallible upgradeSignature UpgradeFailure α

def UpgradeCall.ask (c : UpgradeCall) : UpgradeM c.Reply := Fallible.call (S := upgradeSignature) c

/-- `HeaderValue::from_str`: no control byte but the tab. -/
def headerValueByte (b : UInt8) : Bool := (32 ≤ b && b ≠ 127) || b = 9

def UpgradeRequest.Valid (crates : SocketCrates) (request : UpgradeRequest) : Bool :=
  crates.uri_parse request.uri && request.headers.all (fun h => (utf8 h.2).all headerValueByte)

section Request

variable (crates : SocketCrates)

def upgradeRequest (url : crates.Url) (host key : String) (auth : Option String) : UpgradeRequest where
  method := "GET"
  uri := crates.as_str url
  headers := [("Host", host), ("Connection", "Upgrade"), ("Upgrade", "websocket"), ("Sec-WebSocket-Version", "13"),
    ("Sec-WebSocket-Key", key), ("X-Signal-Receive-Stories", "false")] ++
    (auth.map (fun credentials => ("Authorization", "Basic " ++ credentials))).toList

def build_ws_upgrade_request (url : crates.Url) (auth : Option String) : UpgradeM UpgradeRequest :=
  match crates.host_str url with
  | none => throw (.error "url missing host")
  | some host => do
    let key : String ← UpgradeCall.generate_key.ask
    let request := upgradeRequest crates url host key auth
    if request.Valid crates then pure request
    else throw (.error ("build ws upgrade req: " ++ crates.http_error request.uri request.headers))

def io {α : Type} (r : Except String α) : UpgradeM α := Fallible.ofExcept (r.mapError .error)

def connect (url : crates.Url) (auth : Option String) : UpgradeM Unit :=
  match crates.host_str url with
  | none => throw .expectFailed
  | some host => do
    let sock : Except String Unit ← (UpgradeCall.tcp_connect host 443).ask
    io sock
    let tls_stream : Except String Unit ← (UpgradeCall.stream_owned host).ask
    io tls_stream
    let request ← build_ws_upgrade_request crates url auth
    let upgraded : Except String Unit ← (UpgradeCall.client request).ask
    match upgraded with
    | .ok () => pure ()
    | .error _ => throw (.error "connection refused")

def messageUrl (host : String) : String := "wss://" ++ host ++ "/v1/websocket/"

def messageAuth (aci_service_id : String) (device_id : ℕ) (password : String) : String :=
  base64Encode (utf8 (aci_service_id ++ "." ++ toString device_id ++ ":" ++ password))

def new_message (host aci_service_id : String) (device_id : ℕ) (password : String) : UpgradeM Unit :=
  match crates.url_parse (messageUrl host) with
  | none => throw (.error "invalid host for ws url")
  | some url => connect crates url (some (messageAuth aci_service_id device_id password))

end Request

end MainWs

end XousSignalClient
