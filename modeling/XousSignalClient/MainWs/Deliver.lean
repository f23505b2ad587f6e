import XousSignalClient.MainWs.Content
import XousSignalClient.Peers

namespace XousSignalClient

open Encoding Interaction

inductive ChatOp where
  | DialogueSet (dict : String) (key : Option String)
  | PostAdd (author : String) (timestamp : UInt64) (text : String)
  | Redraw
  deriving DecidableEq

inductive AppCall where
  | pddb (c : PddbCall)
  | chat (op : ChatOp)

def AppCall.Reply : AppCall → Type
  | .pddb c => c.Reply
  | .chat _ => Unit

def appSignature : Signature := ⟨AppCall, AppCall.Reply⟩

abbrev AppM (α : Type) := Fallible appSignature Panic α

def onStore {α : Type} (p : PddbProgram α) : Program appSignature α :=
  p.interp (fun c => Program.perform (S := appSignature) (.pddb c))

def onStoreM {α : Type} (x : Fallible pddbSignature Panic α) : AppM α := ExceptT.mk (onStore x.run)

theorem onStore_bind {α β : Type} (p : PddbProgram α) (f : α → PddbProgram β) :
    onStore (p >>= f) = onStore p >>= fun x => onStore (f x) :=
  Program.interp_bind (S := pddbSignature) _ p f

theorem onStoreM_lift {α : Type} (p : PddbProgram α) : onStoreM (ExceptT.lift p) = ExceptT.lift (onStore p) := by
  apply ExceptT.ext
  rw [onStoreM, ExceptT.run_lift, ExceptT.run_lift, map_eq_pure_bind, map_eq_pure_bind]
  exact onStore_bind p _

def toChat (op : ChatOp) : Program appSignature Unit := Program.perform (S := appSignature) (.chat op)

namespace MainWs

def PEER_DIALOGUE_DICT : String := "sigchat.dialogue"

def cf_dialogue_set (dict : String) (key : Option String) : Program appSignature Unit :=
  toChat (.DialogueSet dict key)

def post_to_peer_dialogue (peer_uuid author : String) (ts : UInt64) (body : String)
    (focused_uuid : Option String) : Program appSignature Unit := do
  if focused_uuid = some peer_uuid then toChat (.PostAdd author ts body)
  else
    cf_dialogue_set PEER_DIALOGUE_DICT (some peer_uuid)
    toChat (.PostAdd author ts body)
    match focused_uuid with
    | some focused => cf_dialogue_set PEER_DIALOGUE_DICT (some focused)
    | none => pure ()

def deliver_data_message (dm : DataMessageProto) (remote_addr : ProtocolAddress) (server_ts : UInt64) :
    AppM Bool := do
  let author := remote_addr.name
  let body := dm.body.getD ""
  if body.isEmpty then pure false
  else
    let ts := dm.timestamp.getD server_ts
    let focused_uuid : Option String ← ExceptT.lift (onStore focused_peer_uuid)
    let is_focused := decide (focused_uuid = some author)
    let _recorded : Except IoError Unit ← onStoreM (Peers.record_inbound author ts body is_focused)
    ExceptT.lift (post_to_peer_dialogue author author ts body focused_uuid)
    pure true

/-- The author label of a transcript: an arrow and the first eight bytes of the destination. -/
def transcriptAuthor (dest : String) : Except Panic String :=
  (sliceTo dest (min (utf8 dest).length 8)).map ("→" ++ ·)

def deliverSent (dest : String) (ts : UInt64) (body : String) : AppM Bool := do
  let author ← Fallible.ofExcept (transcriptAuthor dest)
  let focused_uuid : Option String ← ExceptT.lift (onStore focused_peer_uuid)
  let _recorded : Except IoError Unit ← onStoreM (Peers.record_outbound dest ts body)
  ExceptT.lift (post_to_peer_dialogue dest author ts body focused_uuid)
  pure true

def deliver_sync_message (sync : SyncMessageProto) (server_ts : UInt64) : AppM Bool :=
  match sync.sent with
  | none => pure false
  | some sent =>
    let dest := sent.destination_service_id.getD ""
    match sent.message with
    | none => pure false
    | some dm =>
      let body := dm.body.getD ""
      if body.isEmpty then pure false
      else
        let ts := dm.timestamp.getD (sent.timestamp.getD server_ts)
        if dest.isEmpty then pure false else deliverSent dest ts body

def deliverContent {m : Type → Type} [Monad m]
    (deliver_data_message : DataMessageProto → ProtocolAddress → UInt64 → m Bool)
    (deliver_sync_message : SyncMessageProto → UInt64 → m Bool)
    (set_current_recipient : ProtocolAddress → m (Except OutgoingError Unit)) (cf_redraw : m Unit)
    (plaintext : Bytes) (remote_addr : ProtocolAddress) (server_ts : UInt64) : m Unit := do
  match ContentProto.decode (strip_signal_padding plaintext) with
  | none => pure ()
  | some content =>
    match content.data_message with
    | some dm =>
      let was_delivered ← deliver_data_message dm remote_addr server_ts
      if was_delivered then
        let _set ← set_current_recipient remote_addr
        cf_redraw
      else pure ()
    | none =>
      match content.sync_message with
      | some sync =>
        let delivered ← deliver_sync_message sync server_ts
        if delivered then cf_redraw else pure ()
      | none => pure ()

def deliver_content (plaintext : Bytes) (remote_addr : ProtocolAddress) (server_ts : UInt64) : AppM Unit :=
  deliverContent deliver_data_message deliver_sync_message
    (fun a => ExceptT.lift (onStore (set_current_recipient a))) (ExceptT.lift (toChat .Redraw))
    plaintext remote_addr server_ts

end MainWs

structure Post where
  dialogue : Option (String × Option String)
  author : String
  timestamp : UInt64
  text : String
  deriving DecidableEq

structure Chat where
  active : Option (String × Option String)
  posts : List Post

def Chat.apply (chat : Chat) : ChatOp → Chat
  | .DialogueSet dict key => { chat with active := some (dict, key) }
  | .PostAdd author timestamp text => { chat with posts := chat.posts ++ [⟨chat.active, author, timestamp, text⟩] }
  | .Redraw => chat

structure App where
  pddb : Pddb
  chat : Chat

namespace App

def answer : (c : AppCall) → App → c.Reply × App
  | .pddb c, s => ((Pddb.answer c s.pddb).1, { s with pddb := (Pddb.answer c s.pddb).2 })
  | .chat op, s => ((), { s with chat := s.chat.apply op })

def handler : Handler appSignature App := ⟨answer⟩

def store : Program.Part App Pddb where
  get := App.pddb
  set := fun s p => { s with pddb := p }
  get_set := fun _ _ => rfl
  set_set := fun _ _ _ => rfl
  set_get := fun _ => rfl

theorem run_onStore {α : Type} (p : PddbProgram α) (s : App) :
    ((onStore p).run handler s).value = (p.run Pddb.handler s.pddb).value ∧
      ((onStore p).run handler s).state = { s with pddb := (p.run Pddb.handler s.pddb).state } :=
  Program.run_interp store (fun _ _ => ⟨rfl, rfl⟩) p s

end App

end XousSignalClient
