import XousSignalClient.Account.Link
import XousSignalClient.Provisioning.Worker
import XousSignalClient.Wifi.Observer

namespace XousSignalClient

open Encoding Interaction Fallible

structure ManagerCrates extends LinkCrates where
  decode_uuid : Bytes → Except String String
  parse_with_params : String → List (String × String) → Except String String
  decode_provision : IdentityKeyPair → Bytes → Except String ProvisionMessage

/-- An `io::Error`; flap cancellation has a kind of its own. `panicked` is a panic in `Account::link`. -/
inductive AttemptError where
  | error (e : Error)
  | Interrupted (text : String)
  | panicked

inductive ManagerCall (M : ManagerCrates) where
  | observer_new
  | token_new
  | is_cancelled (token : ℕ)
  | wait_for_connection
  | new_provision
  | read_once
  | close
  | generate_identity_key_pair
  | xous_names
  | modals
  | spawn (deadline_secs : UInt64)
  | current
  | subscribe (last : LinkState) (token cid : ℕ)
  | show_notification (uri : String)
  | wait_and_take_binary (cid : ℕ)
  | send_cancel (cid : ℕ)
  | disconnect (cid : ℕ)
  | link (c : LinkCall M.toLinkCrates)

def ManagerCall.Reply {M : ManagerCrates} : ManagerCall M → Type
  | .observer_new => Except Error Unit
  | .token_new => ℕ
  | .is_cancelled _ => Bool
  | .wait_for_connection => Except Error Unit
  | .new_provision => Except Error Unit
  | .read_once => Except Error WsMessage
  | .close => Unit
  | .generate_identity_key_pair => IdentityKeyPair
  | .xous_names => Except String Unit
  | .modals => Except String Unit
  | .spawn _ => Except Error ℕ
  | .current => LinkState
  | .subscribe _ _ _ => Unit
  | .show_notification _ => Except String Unit
  | .wait_and_take_binary _ => WsResult
  | .send_cancel _ => Except String Unit
  | .disconnect _ => Unit
  | .link c => c.Reply

abbrev managerSignature (M : ManagerCrates) : Signature := ⟨ManagerCall M, ManagerCall.Reply⟩

abbrev ManagerM (M : ManagerCrates) (α : Type) := Fallible (managerSignature M) AttemptError α

variable {M : ManagerCrates}

def manage (c : ManagerCall M) : ManagerM M c.Reply := Fallible.call (S := managerSignature M) c

def link_err : AttemptError := .error ⟨.Other, "failed to link device"⟩

def closeAndFail {α : Type} : ManagerM M α := do
  manage .close
  throw link_err

def SignalWsServer.cancel (cid : ℕ) : ManagerM M (Except Error Unit) := do
  let res : Except String Unit ← manage (.send_cancel cid)
  manage (.disconnect cid)
  pure (res.mapError (fun e => ⟨.Other, "cancel: " ++ e⟩))

/-- `FlapWatcher::new` with the callback of an attempt: it cancels the token and signals the flap to the worker. -/
def FlapWatcher.new (token cid : ℕ) : ManagerM M Unit := do
  let last : LinkState ← manage .current
  manage (.subscribe last token cid)

def readUuid : ManagerM M String := do
  match ← manage .read_once with
  | .ok (.Binary uuid) =>
    match M.decode_uuid uuid with
    | .ok id => pure id
    | .error _ => closeAndFail
  | .ok _ => closeAndFail
  | .error _ => closeAndFail

def deviceLinkUri (uuid : String) (identity : IdentityKeyPair) : ManagerM M String := do
  let b := (M.b64_url_decode identity.djb_identity_key).getD []
  if b.length ≠ 33 then closeAndFail
  else
    match M.parse_with_params "sgnl://linkdevice"
        [("uuid", uuid), ("pub_key", base64EncodeNoPad b), ("capabilities", "backup5")] with
    | .ok uri => pure uri
    | .error _ => closeAndFail

def connectModals : ManagerM M Unit := do
  match ← manage .xous_names with
  | .error _ => closeAndFail
  | .ok () =>
    match ← manage .modals with
    | .error _ => closeAndFail
    | .ok () => pure ()

def awaitEnvelope (token : ℕ) (uri : String) : ManagerM M WsResult := do
  match ← manage (.spawn 180) with
  | .error _ => throw link_err
  | .ok cid =>
    FlapWatcher.new token cid
    match ← manage (.show_notification uri) with
    | .error _ =>
      let _ ← SignalWsServer.cancel cid
      throw link_err
    | .ok () =>
      let result ← manage (.wait_and_take_binary cid)
      let _ ← SignalWsServer.cancel cid
      pure result

def provision_one_attempt (token : ℕ) : ManagerM M (Bytes × IdentityKeyPair) := do
  match ← manage .new_provision with
  | .error e => throw (.error e)
  | .ok () =>
    let uuid ← readUuid
    let identity ← manage .generate_identity_key_pair
    let uri ← deviceLinkUri uuid identity
    connectModals
    match ← awaitEnvelope token uri with
    | .Binary b => pure (b, identity)
    | .Closed => throw link_err
    | .TimedOut => throw link_err
    | .Cancelled => throw (.Interrupted "ws cancelled by flap watcher")
    | .Error _ => throw link_err

def retryAttempt : ManagerM M (Bytes × IdentityKeyPair) := do
  match ← manage .wait_for_connection with
  | .error _ => throw link_err
  | .ok () =>
    let token2 ← manage .token_new
    match ← (provision_one_attempt token2).attempt with
    | .ok v => pure v
    | .error _ => throw link_err

def Manager.link (name : String) : ManagerM M Bool := do
  let _observer ← manage .observer_new
  let token ← manage .token_new
  let (registration, identity) ←
    match ← (provision_one_attempt token).attempt with
    | .ok v => pure v
    | .error e => do
      let cancelled : Bool ← manage (.is_cancelled token)
      if cancelled then retryAttempt
      else throw e
  match M.decode_provision identity registration with
  | .error _ => throw link_err
  | .ok provision_msg =>
    let linked : Except Failure Bool ← ExceptT.lift ((Account.link name provision_msg).run.interp
      (fun c => Program.perform (S := managerSignature M) (.link c)))
    match linked with
    | .ok result => pure result
    | .error (.error _) => pure false
    | .error .unwrapNone => throw .panicked

end XousSignalClient
