import XousSignalClient.Account.Cache
import XousSignalClient.Provisioning.Attempts
import XousSignalClient.SigChat.MainLoop

namespace XousSignalClient

open Encoding Interaction Fallible

/-- Whatever became of storing it, the number is in memory afterwards. -/
def Account.set_number {U : HostCrate} (account : Account U) (value : String) :
    FileProgram (Except Failure Unit × Account U) := do
  match ← account.set NUMBER_KEY (some value) with
  | (.ok (), account) => pure (.ok (), { account with number := some value })
  | (.error (.error _), account) => pure (.ok (), account)
  | (.error .unwrapNone, account) => pure (.error .unwrapNone, account)

inductive TrustMode where
  | OnFirstUse
  | Always
  | Never
  deriving DecidableEq

structure ChatCrates extends ManagerCrates where
  host_str : Url → Option String

structure Config (C : ChatCrates) where
  host : C.Host
  service_environment : ServiceEnvironment
  url : C.Url

def Config.new {C : ChatCrates} (host : C.Host) (service_environment : ServiceEnvironment) : Option (Config C) :=
  let base := match service_environment with
    | .Live => "https://chat." ++ C.host_to_string host
    | .Staging => "https://chat.staging." ++ C.host_to_string host
  (C.url_parse base).map (fun url => ⟨host, service_environment, url⟩)

structure Manager (C : ChatCrates) where
  account : Account C.toHostCrate
  config : Config C
  trust_mode : TrustMode

namespace SigChat

def SIGCHAT_ACCOUNT : String := "sigchat.account"

/-- What `connect` asks for. `set_manager` assigns `self.manager`; a text to show is given by its key. -/
inductive SetupCall (C : ChatCrates) where
  | wifi
  | manager
  | set_manager (manager : Manager C)
  | read (pddb_dict : String)
  | new (pddb_dict : String) (host : C.Host) (service_environment : ServiceEnvironment)
  | delete (pddb_dict : String)
  | set_number (account : Account C.toHostCrate) (value : String)
  | link (manager : Manager C) (name : String)
  | set_status_text (text : String)
  | set_busy_state (busy : Bool)
  | add_list_item (text : String)
  | get_radiobutton (text : String)
  | get_radio_index
  | accessible (host : String) (inspect : Bool)
  | alert (prompt default : String)
  | show_notification (text : String)

def SetupCall.Reply {C : ChatCrates} : SetupCall C → Type
  | .wifi => Except Panicked Bool
  | .manager => Option (Manager C)
  | .set_manager _ => Unit
  | .read _ => Except Error (Account C.toHostCrate)
  | .new _ _ _ => Except Error (Account C.toHostCrate)
  | .delete _ => Except IoError Unit
  | .set_number _ _ => Except Failure Unit × Account C.toHostCrate
  | .link _ _ => Except AttemptError Bool
  | .set_status_text _ => Unit
  | .set_busy_state _ => Unit
  | .add_list_item _ => Except IoError Unit
  | .get_radiobutton _ => Except IoError Unit
  | .get_radio_index => Except IoError ℕ
  | .accessible _ _ => Bool
  | .alert _ _ => Option String
  | .show_notification _ => Except IoError Unit

def setupSignature (C : ChatCrates) : Signature := ⟨SetupCall C, SetupCall.Reply⟩

abbrev SetupM (C : ChatCrates) (α : Type) := Fallible (setupSignature C) Panicked α

variable {C : ChatCrates}

def SetupCall.ask (c : SetupCall C) : SetupM C c.Reply := Fallible.call (S := setupSignature C) c

def expect {α : Type} : Except IoError α → SetupM C α
  | .ok a => pure a
  | .error _ => throw .unwrap

def expectSome {α : Type} : Option α → SetupM C α
  | some a => pure a
  | none => throw .unwrap

def other {α : Type} (text : String) : Except Error α := .error ⟨.Other, text⟩

/-- `Manager::new`; the URL of the account's host is unwrapped. -/
def newManager (account : Account C.toHostCrate) (trust_mode : TrustMode) : SetupM C (Manager C) := do
  let config ← expectSome (Config.new account.host account.service_environment)
  pure ⟨account, config, trust_mode⟩

def signal_config : SetupM C (Config C) := expectSome (Config.new C.signal_org .Live)

def notify (text : String) : SetupM C Unit := do
  let shown : Except IoError Unit ← (SetupCall.show_notification text).ask
  expect shown

def probe_host (url : C.Url) : SetupM C Bool := do
  (SetupCall.set_status_text "sigchat.status.probing").ask
  (SetupCall.set_busy_state true).ask
  let host ← expectSome (C.host_str url)
  let accessible : Bool ← (SetupCall.accessible host true).ask
  if accessible then
    (SetupCall.set_busy_state false).ask
    pure true
  else
    notify "sigchat.account.abort"
    (SetupCall.set_busy_state false).ask
    pure false

def name_modal (default_name prompt : String) : SetupM C String := do
  let typed : Option String ← (SetupCall.alert prompt default_name).ask
  pure (typed.getD default_name)

def number_modal : SetupM C (Option String) :=
  (SetupCall.alert "sigchat.number.title" "sigchat.number").ask

def linkFailed (text : String) : SetupM C (Except Error (Account C.toHostCrate)) := do
  let _deleted ← (SetupCall.delete SIGCHAT_ACCOUNT).ask
  (SetupCall.set_busy_state false).ask
  notify text
  pure (other "error while linking Signal Account")

def afterLink : Except AttemptError Bool → SetupM C (Except Error (Account C.toHostCrate))
  | .ok true => do
    (SetupCall.set_busy_state false).ask
    (SetupCall.read SIGCHAT_ACCOUNT).ask
  | .ok false => do
    (SetupCall.set_busy_state false).ask
    pure (other "failed to link Signal Account")
  | .error (.error e) => linkFailed e.text
  | .error (.Interrupted text) => linkFailed text
  | .error .panicked => throw .inside

def linkCreated (account : Account C.toHostCrate) : SetupM C (Except Error (Account C.toHostCrate)) := do
  let manager ← newManager account .OnFirstUse
  let name ← name_modal "xous" "sigchat.account.link.name"
  (SetupCall.set_status_text "sigchat.status.connecting").ask
  (SetupCall.set_busy_state true).ask
  let linked : Except AttemptError Bool ← (SetupCall.link manager name).ask
  afterLink linked

def account_link (config : Config C) : SetupM C (Except Error (Account C.toHostCrate)) := do
  (SetupCall.set_status_text "sigchat.status.initializing").ask
  (SetupCall.set_busy_state true).ask
  let created : Except Error (Account C.toHostCrate) ←
    (SetupCall.new SIGCHAT_ACCOUNT config.host config.service_environment).ask
  match created with
  | .ok account => linkCreated account
  | .error _ =>
    notify "sigchat.account.failed"
    pure (other "failed to create new Account in pddb")

def keepNumber (config : Config C) (number : String) : SetupM C Unit := do
  let created : Except Error (Account C.toHostCrate) ←
    (SetupCall.new SIGCHAT_ACCOUNT config.host config.service_environment).ask
  match created with
  | .ok account =>
    let stored : Except Failure Unit × Account C.toHostCrate ← (SetupCall.set_number account number).ask
    match stored with
    | (.ok (), account) =>
      let manager ← newManager account .OnFirstUse
      (SetupCall.set_manager manager).ask
    | (.error (.error _), _) => pure ()
    | (.error .unwrapNone, _) => throw .inside
  | .error _ => pure ()

def keepTyped (config : Config C) : Option String → SetupM C Unit
  | some number => keepNumber config number
  | none => pure ()

def account_register (config : Config C) : SetupM C (Except Error (Account C.toHostCrate)) := do
  notify "sorry - registration is not implemented yet"
  let typed ← number_modal
  keepTyped config typed
  pure (other "not implmented")

def withTrustedHost (online : Config C → SetupM C (Except Error (Account C.toHostCrate))) :
    SetupM C (Except Error (Account C.toHostCrate)) := do
  let config ← signal_config
  let trusted ← probe_host config.url
  if trusted then online config else pure (other "failed to trust host certificate")

def listItem (text : String) : SetupM C Unit := do
  let added : Except IoError Unit ← (SetupCall.add_list_item text).ask
  expect added

def account_setup : SetupM C (Except Error (Account C.toHostCrate)) := do
  listItem "sigchat.account.link"
  listItem "sigchat.account.register"
  listItem "sigchat.account.offline"
  let shown : Except IoError Unit ← (SetupCall.get_radiobutton "sigchat.account.title").ask
  expect shown
  let index : Except IoError ℕ ← SetupCall.get_radio_index.ask
  match index with
  | .ok 0 => withTrustedHost account_link
  | .ok 1 => withTrustedHost account_register
  | .ok 2 => pure (other "account setup aborted")
  | .ok _ => pure (other "invalid radio index")
  | .error _ => pure (other "failed to present account setup radio buttons")

def storedOrSetup : SetupM C (Except Error (Account C.toHostCrate)) := do
  let stored : Except Error (Account C.toHostCrate) ← (SetupCall.read SIGCHAT_ACCOUNT).ask
  match stored with
  | .ok account => if account.is_registered then pure (.ok account) else account_setup
  | .error _ => account_setup

def install (account : Account C.toHostCrate) : SetupM C Unit := do
  (SetupCall.set_status_text "sigchat.status.connecting").ask
  (SetupCall.set_busy_state true).ask
  let manager ← newManager account .OnFirstUse
  (SetupCall.set_manager manager).ask
  (SetupCall.set_busy_state false).ask

def setUpManager : SetupM C (Except Error Unit) := do
  match ← storedOrSetup with
  | .ok account =>
    install account
    pure (.ok ())
  | .error e =>
    (SetupCall.set_status_text "sigchat.status.offline").ask
    pure (.error e)

def reportStatus : SetupM C (Except Error Bool) := do
  let manager : Option (Manager C) ← SetupCall.manager.ask
  match manager with
  | some _ =>
    (SetupCall.set_status_text "sigchat.status.online").ask
    pure (.ok true)
  | none =>
    (SetupCall.set_status_text "sigchat.status.offline").ask
    pure (.ok false)

def connect : SetupM C (Except Error Bool) := do
  let connected : Except Panicked Bool ← SetupCall.wifi.ask
  let up ← Fallible.ofExcept connected
  if up then
    let manager : Option (Manager C) ← SetupCall.manager.ask
    match manager with
    | none =>
      match ← setUpManager with
      | .ok () => reportStatus
      | .error e => pure (.error e)
    | some _ => reportStatus
  else
    notify "sigchat.wifi.warning"
    pure (.ok false)

end SigChat

structure ManagerEnv (M : ManagerCrates) (τ : Type) where
  linkEnv : LinkEnv M.toLinkCrates τ
  reply : (c : ManagerCall M) → τ → c.Reply × τ

namespace ManagerEnv

variable {M : ManagerCrates} {τ : Type} (env : ManagerEnv M τ)

def answer : (c : ManagerCall M) → Device M.toHostCrate τ → c.Reply × Device M.toHostCrate τ
  | .link c, d => env.linkEnv.answer c d
  | c, d => ((env.reply c d.outside).1, { d with outside := (env.reply c d.outside).2 })

def handler : Handler (managerSignature M) (Device M.toHostCrate τ) := ⟨env.answer⟩

end ManagerEnv

structure SigChat (C : ChatCrates) (τ : Type) where
  pddb : Pddb
  manager : Option (Manager C)
  outside : τ

namespace SigChat

variable {C : ChatCrates} {τ : Type}

def remove_dict (p : Pddb) (dict : String) : Pddb := (p.keysOf dict).foldl (fun q key => q.remove dict key) p

structure Env (C : ChatCrates) (τ : Type) where
  managerEnv : ManagerEnv C.toManagerCrates τ
  reply : (c : SetupCall C) → τ → c.Reply × τ

namespace Env

variable (env : Env C τ)

def linking (s : SigChat C τ) (manager : Manager C) (name : String) :
    Outcome (managerSignature C.toManagerCrates) (Device C.toHostCrate τ) (Except AttemptError Bool) :=
  (Manager.link name).exec env.managerEnv.handler ⟨s.pddb, manager.account, s.outside⟩

def answer : (c : SetupCall C) → SigChat C τ → c.Reply × SigChat C τ
  | .manager, s => (s.manager, s)
  | .set_manager manager, s => ((), { s with manager := some manager })
  | .read dict, s =>
    let o := (Account.read C.toHostCrate dict).exec Pddb.handler s.pddb
    (o.value, { s with pddb := o.state })
  | .new dict host service_environment, s =>
    let o := (Account.new dict host service_environment).exec Pddb.handler s.pddb
    (o.value, { s with pddb := o.state })
  | .delete dict, s =>
    if s.pddb.keysOf dict = [] then (.error (.notFound "dictionary not found"), s)
    else (.ok (), { s with pddb := remove_dict s.pddb dict })
  | .set_number account value, s =>
    let o := (account.set_number value).run CallFaults.none.handler s.pddb
    (o.value, { s with pddb := o.state })
  | .link manager name, s =>
    let o := env.linking s manager name
    (o.value, { s with pddb := o.state.pddb, outside := o.state.outside })
  | c, s => ((env.reply c s.outside).1, { s with outside := (env.reply c s.outside).2 })

def handler : Handler (setupSignature C) (SigChat C τ) := ⟨env.answer⟩

end Env

/-- `SigChat::new`; `none` is a panic while the manager is made. -/
def new (C : ChatCrates) (p : Pddb) (outside : τ) : Option (SigChat C τ) :=
  match ((Account.read C.toHostCrate SIGCHAT_ACCOUNT).exec Pddb.handler p).value with
  | .ok account =>
    if account.is_registered then
      (Config.new account.host account.service_environment).map
        (fun config => ⟨p, some ⟨account, config, .OnFirstUse⟩, outside⟩)
    else some ⟨p, none, outside⟩
  | .error _ => some ⟨p, none, outside⟩

def is_ready (s : SigChat C τ) : Bool := s.manager.isSome

end SigChat

end XousSignalClient
