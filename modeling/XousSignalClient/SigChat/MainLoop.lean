import XousSignalClient.Interaction.Ensures
import XousSignalClient.Interaction.Splitting
import XousSignalClient.Peers

namespace XousSignalClient.SigChat

open Encoding Interaction Peers

inductive SigchatOp where
  | Event
  | Menu
  | Post
  | Rawkeys
  | Quit
  deriving DecidableEq

def SigchatOp.from_usize : ℕ → Option SigchatOp
  | 0 => some .Event
  | 1 => some .Menu
  | 2 => some .Post
  | 3 => some .Rawkeys
  | 4 => some .Quit
  | _ => none

inductive ChatEvent where
  | Focus
  | F1
  | other
  deriving DecidableEq

/-- The body of a message. The first argument of a scalar message is kept as the chat library's `Event` reads it, lent
memory as the string it unpacks to. -/
inductive MessageBody where
  | Scalar (id : ℕ) (event : Option ChatEvent)
  | BlockingScalar (id : ℕ)
  | Memory (id : ℕ) (text : Option String)
  deriving DecidableEq

def MessageBody.id : MessageBody → ℕ
  | Scalar id _ => id
  | BlockingScalar id => id
  | Memory id _ => id

/-- `Event` messages are unpacked as scalars; anything else is only logged. -/
def MessageBody.event : MessageBody → Option ChatEvent
  | Scalar id event => if SigchatOp.from_usize id = some .Event then event else none
  | BlockingScalar _ => none
  | Memory _ _ => none

inductive AuthorFlag where
  | Right

inductive Panicked where
  | unwrap
  | inside
  deriving DecidableEq

inductive MainCall where
  | seed_demo_recipient_from_env
  | focused_peer_uuid
  | is_ready
  | connect
  | dialogue_set (room_alias : Option String)
  | set_author_flags (author : String) (flag : AuthorFlag)
  | start_receive
  | receive_message
  | redraw
  | show_peer_picker
  | open_peer (peer_uuid : String) (device_id : ℕ)
  | post (text : String)
  | unregister_server
  | destroy_server
  | terminate_process (code : ℕ)

/-- A method that panics ends the thread. -/
def MainCall.Reply : MainCall → Type
  | seed_demo_recipient_from_env => Except IoError Bool
  | focused_peer_uuid => Option String
  | is_ready => Bool
  | connect => Except Panicked (Except IoError Bool)
  | dialogue_set _ => Except Panicked Unit
  | set_author_flags _ _ => Except IoError Unit
  | start_receive => Except IoError Bool
  | receive_message => Except IoError MessageBody
  | redraw => Unit
  | show_peer_picker => Except Panicked (Option PeerSummary)
  | open_peer _ _ => Except Panicked Unit
  | post _ => Except Panicked Unit
  | unregister_server => Except IoError Unit
  | destroy_server => Except IoError Unit
  | terminate_process _ => Unit

def mainSignature : Signature := ⟨MainCall, MainCall.Reply⟩

abbrev MainM (α : Type) := Fallible mainSignature Panicked α

def MainCall.ask (c : MainCall) : MainM c.Reply := Fallible.call (S := mainSignature) c

def unwrap {α : Type} : Except IoError α → MainM α
  | .ok a => pure a
  | .error _ => throw .unwrap

def tryConnect (initial_dialogue_key : String) : MainM Bool := do
  let ended : Except Panicked (Except IoError Bool) ← MainCall.connect.ask
  let outcome ← Fallible.ofExcept ended
  match outcome with
  | .ok true =>
    let set : Except Panicked Unit ← (MainCall.dialogue_set (some initial_dialogue_key)).ask
    Fallible.ofExcept set
    let _ ← (MainCall.set_author_flags "me" .Right).ask
    let _ ← MainCall.start_receive.ask
    pure true
  | .ok false => pure false
  | .error _ => pure false

structure MainState where
  first_focus : Bool
  user_post : Option String
  deriving DecidableEq

def onFocus (initial_dialogue_key : String) (s : MainState) : MainM MainState := do
  if s.first_focus then
    let connected ← tryConnect initial_dialogue_key
    MainCall.redraw.ask
    pure { s with first_focus := !connected }
  else
    MainCall.redraw.ask
    pure s

def onF1 : MainM Unit := do
  let shown : Except Panicked (Option PeerSummary) ← MainCall.show_peer_picker.ask
  let picked ← Fallible.ofExcept shown
  match picked with
  | some picked =>
    let opened : Except Panicked Unit ← (MainCall.open_peer picked.uuid 1).ask
    Fallible.ofExcept opened
  | none => pure ()

def onEvent (initial_dialogue_key : String) (event : Option ChatEvent) (s : MainState) : MainM MainState :=
  match event with
  | some .Focus => onFocus initial_dialogue_key s
  | some .F1 => do
    onF1
    pure s
  | some .other => pure s
  | none => pure s

def onPost (body : MessageBody) (s : MainState) : MainM MainState :=
  match body with
  | .Memory _ (some text) => pure (if 0 < (utf8 text).length then { s with user_post := some text } else s)
  | _ => throw .unwrap

def handleMessage (initial_dialogue_key : String) (body : MessageBody) (s : MainState) : MainM (Option MainState) :=
  match SigchatOp.from_usize body.id with
  | some .Event => do
    let s ← onEvent initial_dialogue_key body.event s
    pure (some s)
  | some .Post => do
    let s ← onPost body s
    pure (some s)
  | some .Quit => pure none
  | some .Menu => pure (some s)
  | some .Rawkeys => pure (some s)
  | none => pure (some s)

def postPending (s : MainState) : MainM MainState :=
  match s.user_post with
  | some text => do
    let posted : Except Panicked Unit ← (MainCall.post text).ask
    Fallible.ofExcept posted
    pure { s with user_post := none }
  | none => pure s

def mainTurn (initial_dialogue_key : String) (s : MainState) : MainM (Option MainState) := do
  let received : Except IoError MessageBody ← MainCall.receive_message.ask
  let body ← unwrap received
  match ← handleMessage initial_dialogue_key body s with
  | some s =>
    let s ← postPending s
    pure (some s)
  | none => pure none

/-- The loop for `n` iterations; `none` says that it has exited. -/
def mainLoop (initial_dialogue_key : String) : ℕ → MainState → MainM (Option MainState)
  | 0, s => pure (some s)
  | n + 1, s => do
    match ← mainTurn initial_dialogue_key s with
    | some s => mainLoop initial_dialogue_key n s
    | none => pure none

/-- Everything before the loop: the key of the first dialogue, and whether a first focus is still awaited. -/
def startUp : MainM (String × Bool) := do
  let _ ← MainCall.seed_demo_recipient_from_env.ask
  let focused : Option String ← MainCall.focused_peer_uuid.ask
  let initial_dialogue_key := focused.getD "default"
  let ready : Bool ← MainCall.is_ready.ask
  if ready then
    let _ ← tryConnect initial_dialogue_key
    pure (initial_dialogue_key, false)
  else pure (initial_dialogue_key, true)

def cleanUp : MainM Unit := do
  let unregistered : Except IoError Unit ← MainCall.unregister_server.ask
  unwrap unregistered
  let destroyed : Except IoError Unit ← MainCall.destroy_server.ask
  unwrap destroyed
  (MainCall.terminate_process 0).ask

def wrapped_main (n : ℕ) : MainM Unit := do
  let (initial_dialogue_key, first_focus) ← startUp
  match ← mainLoop initial_dialogue_key n ⟨first_focus, none⟩ with
  | some _ => pure ()
  | none => cleanUp

end XousSignalClient.SigChat
