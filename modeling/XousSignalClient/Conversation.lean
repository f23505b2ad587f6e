import Mathlib.Logic.Relation
import XousSignalClient.MainWs.Deliver

namespace XousSignalClient

open Encoding Interaction Fallible

def SIGCHAT_DIALOGUE : String := "sigchat.dialogue"

def startup : Program appSignature Unit := do
  let focused : Option String ← onStore focused_peer_uuid
  let initial_dialogue_key := focused.getD "default"
  toChat (.DialogueSet SIGCHAT_DIALOGUE (some initial_dialogue_key))

def open_peer (peer_uuid : String) (device_id : ℕ) : Program appSignature Unit := do
  toChat (.DialogueSet SIGCHAT_DIALOGUE (some peer_uuid))
  let _cleared : Except IoError Unit ← onStore (Peers.clear_unread peer_uuid)
  match DeviceId.new (device_id % 2 ^ 8) with
  | some dev =>
    let _set : Except OutgoingError Unit ← onStore (set_focused_peer ⟨peer_uuid, dev⟩)
    pure ()
  | none => pure ()

def post (text : String) (ts : UInt64) : Program appSignature (Except OutgoingError ProtocolAddress) := do
  toChat (.PostAdd "me" ts text)
  toChat .Redraw
  onStore current_recipient

inductive AppOp where
  | startup
  | deliver (plaintext : Bytes) (remote_addr : ProtocolAddress) (server_ts : UInt64)
  | open_peer (peer_uuid : String)

namespace App

def step (s : App) : AppOp → App
  | .startup => (startup.run handler s).state
  | .deliver plaintext remote_addr server_ts =>
    ((MainWs.deliver_content plaintext remote_addr server_ts).exec handler s).state
  | .open_peer peer_uuid => ((XousSignalClient.open_peer peer_uuid 1).run handler s).state

def pointer (s : App) (key : String) : Option String := s.pddb.text DIALOGUE_DICT key

def screen (s : App) : Option String := s.chat.active.bind Prod.snd

def SendsToScreen (s : App) : Prop :=
  ∀ u, s.screen = some u → u ≠ "default" → ∀ text ts,
    (∃ a, ((post text ts).run handler s).value = .ok a ∧ a.name = u) ∧
      ((post text ts).run handler s).state.chat.posts = s.chat.posts ++ [⟨s.chat.active, "me", ts, text⟩]

end App

inductive Delivered where
  | data
  | sent (dest : String)
  deriving DecidableEq

def deliveredSent (sent : MainWs.SentMessageProto) : Option String :=
  match sent.message with
  | none => none
  | some dm =>
    if (dm.body.getD "").isEmpty then none
    else if (sent.destination_service_id.getD "").isEmpty then none
    else some (sent.destination_service_id.getD "")

def delivered (plaintext : Bytes) : Option Delivered :=
  match MainWs.ContentProto.decode (strip_signal_padding plaintext) with
  | none => none
  | some content =>
    match content.data_message with
    | some dm => if (dm.body.getD "").isEmpty then none else some .data
    | none => ((content.sync_message.bind MainWs.SyncMessageProto.sent).bind deliveredSent).map .sent

/-- The condition on one operation: a transcript that arrives while no conversation is focused is for
the peer a typed message already goes to, and the names that get stored have no double quote. -/
def AppOp.Meets (s : App) : AppOp → Prop
  | .startup => True
  | .deliver plaintext remote_addr _ =>
    match delivered plaintext with
    | none => True
    | some .data => s.pddb.focused.isSome ∨ '"' ∉ remote_addr.name.toList
    | some (.sent dest) => s.pddb.focused.isSome ∨ ∃ a, s.pddb.recipient = .ok a ∧ a.name = dest
  | .open_peer peer_uuid => '"' ∉ peer_uuid.toList

inductive App.Step (s : App) : App → Prop
  | op (o : AppOp) (ho : o.Meets s) : Step s (s.step o)

section Effects

def App.Agrees (s t : App) : Prop := (∀ key, t.pointer key = s.pointer key) ∧ t.chat = s.chat

def screenAfter (peer : String) (focused active : Option String) : Option String :=
  if focused = some peer then active else some (focused.getD peer)

/-- Where a post for `peer` goes: to the dialogue on screen if the peer is in focus, else to the peer's own. -/
def postDialogue (peer : String) (focused : Option String) (active : Option (String × Option String)) :
    Option (String × Option String) :=
  if focused = some peer then active else some (MainWs.PEER_DIALOGUE_DICT, some peer)

theorem text_of_only {α : Type} {x : PddbProgram α} (hx : x.Only (PddbCall.Touches Peers.PEERS_DICT)) (p : Pddb)
    (key : String) : (x.run Pddb.handler p).state.text DIALOGUE_DICT key = p.text DIALOGUE_DICT key := by
  rw [Pddb.text, Pddb.value_of_only (by decide) hx]
  rfl

theorem agrees_onStore {α : Type} {x : PddbProgram α} (hx : x.Only (PddbCall.Touches Peers.PEERS_DICT)) (s : App) :
    s.Agrees ((onStore x).run App.handler s).state := by
  rw [(App.run_onStore x s).2]
  exact ⟨fun key => text_of_only hx s.pddb key, rfl⟩

theorem run_post (peer author : String) (ts : UInt64) (body : String) (focused : Option String) (s : App) :
    ((MainWs.post_to_peer_dialogue peer author ts body focused).run App.handler s).state.pddb = s.pddb ∧
      ((MainWs.post_to_peer_dialogue peer author ts body focused).run App.handler s).state.screen =
        screenAfter peer focused s.screen ∧
      ((MainWs.post_to_peer_dialogue peer author ts body focused).run App.handler s).state.chat.posts =
        s.chat.posts ++ [⟨postDialogue peer focused s.chat.active, author, ts, body⟩] := by
  unfold MainWs.post_to_peer_dialogue screenAfter postDialogue
  by_cases hf : focused = some peer
  · simp only [if_pos hf]
    exact ⟨rfl, rfl, rfl⟩
  · simp only [if_neg hf]
    cases focused with
    | none => exact ⟨rfl, rfl, rfl⟩
    | some f => exact ⟨rfl, rfl, rfl⟩

def Results {α : Type} (x : AppM α) (s : App) (Q : Except Panic α → App → Prop) : Prop :=
  Ensures App.handler x s (fun v t _ => Q v t)

theorem results_recorded {α β : Type} {x : Fallible pddbSignature Panic α} {f : α → AppM β} {s : App}
    {Q : Except Panic β → App → Prop} (hx : x.run.Only (PddbCall.Touches Peers.PEERS_DICT))
    (hok : ∀ p, ∃ a, (x.exec Pddb.handler p).value = .ok a)
    (hf : ∀ a t, s.Agrees t → Results (f a) t Q) : Results (onStoreM x >>= f) s Q := by
  obtain ⟨a, ha⟩ := hok s.pddb
  have hvalue : ((onStoreM x).exec App.handler s).value = .ok a := (App.run_onStore x.run s).1.trans ha
  have hexec : (onStoreM x).exec App.handler s = ⟨.ok a, ((onStore x.run).run App.handler s).state,
      ((onStore x.run).run App.handler s).events⟩ := by
    rw [← hvalue]
    rfl
  rw [Results, Ensures, exec_bind_ok hexec]
  exact hf a _ (agrees_onStore hx s)

theorem results_focused {β : Type} {f : Option String → AppM β} {s : App} {Q : Except Panic β → App → Prop}
    (hf : Results (f s.pddb.focused) s Q) : Results (ExceptT.lift (onStore focused_peer_uuid) >>= f) s Q := by
  apply ensures_lift_bind
  have hrun := App.run_onStore focused_peer_uuid s
  rw [(run_focused_peer_uuid s.pddb).1, (run_focused_peer_uuid s.pddb).2] at hrun
  rw [hrun.1, hrun.2]
  exact hf

theorem results_post {s t : App} (hst : s.Agrees t) (peer author : String) (ts : UInt64) (body : String)
    (focused : Option String) :
    Results (ExceptT.lift (MainWs.post_to_peer_dialogue peer author ts body focused) >>= fun _ => pure true) t
      (fun v u => v = .ok true ∧ (∀ key, u.pointer key = s.pointer key) ∧
        u.screen = screenAfter peer focused s.screen ∧
        u.chat.posts = s.chat.posts ++ [⟨postDialogue peer focused s.chat.active, author, ts, body⟩]) := by
  obtain ⟨hpddb, hscreen, hposts⟩ := run_post peer author ts body focused t
  apply ensures_lift_bind
  refine ensures_pure ⟨rfl, ?_, ?_, ?_⟩
  · intro key
    rw [← hst.1 key, App.pointer, App.pointer, hpddb]
  · rw [hscreen, App.screen, App.screen, hst.2]
  · rw [hposts, hst.2]

theorem deliver_data_effect (dm : MainWs.DataMessageProto) (remote : ProtocolAddress) (ts : UInt64) (s : App) :
    Results (MainWs.deliver_data_message dm remote ts) s (fun v t =>
      if (dm.body.getD "").isEmpty then v = .ok false ∧ t = s
      else v = .ok true ∧ (∀ key, t.pointer key = s.pointer key) ∧
        t.screen = screenAfter remote.name s.pddb.focused s.screen ∧
        t.chat.posts = s.chat.posts ++ [⟨postDialogue remote.name s.pddb.focused s.chat.active, remote.name,
          dm.timestamp.getD ts, dm.body.getD ""⟩]) := by
  unfold MainWs.deliver_data_message
  by_cases hbody : (dm.body.getD "").isEmpty
  · simp only [hbody, if_true]
    exact ensures_pure ⟨rfl, rfl⟩
  · simp only [hbody]
    apply results_focused
    apply results_recorded (Peers.only_record_inbound _ _ _ _) (fun p => Peers.record_inbound_ok _ p _ _ _ _)
    intro _ t hst
    exact results_post hst _ _ _ _ _

theorem deliverSent_effect (dest : String) (ts : UInt64) (body : String) (s : App) :
    Results (MainWs.deliverSent dest ts body) s (fun _ t => t = s ∨
      (∀ key, t.pointer key = s.pointer key) ∧ t.screen = screenAfter dest s.pddb.focused s.screen ∧
        ∃ author, MainWs.transcriptAuthor dest = .ok author ∧
          t.chat.posts = s.chat.posts ++ [⟨postDialogue dest s.pddb.focused s.chat.active, author, ts, body⟩]) := by
  unfold MainWs.deliverSent
  apply ensures_ofExcept_bind
  · exact fun e _ => .inl rfl
  · intro author hauthor
    apply results_focused
    apply results_recorded (Peers.only_record_outbound _ _ _) (fun p => Peers.record_outbound_ok _ p _ _ _)
    intro _ t hst
    apply Ensures.mono (results_post hst dest author ts body s.pddb.focused)
    rintro v u - ⟨-, hpointers, hscreen, hposts⟩
    exact .inr ⟨hpointers, hscreen, author, hauthor, hposts⟩

theorem deliver_sync_cases (sync : MainWs.SyncMessageProto) (server_ts : UInt64) :
    (sync.sent.bind deliveredSent = none ∧ MainWs.deliver_sync_message sync server_ts = pure false) ∨
      ∃ sent dest ts body, sync.sent = some sent ∧ sent.destination_service_id = some dest ∧
        deliveredSent sent = some dest ∧
        MainWs.deliver_sync_message sync server_ts = MainWs.deliverSent dest ts body := by
  unfold MainWs.deliver_sync_message
  cases sync.sent with
  | none => exact .inl ⟨rfl, rfl⟩
  | some sent =>
    obtain ⟨destination_service_id, timestamp, message⟩ := sent
    cases message with
    | none => exact .inl ⟨rfl, rfl⟩
    | some dm =>
      simp only [Option.bind_some, deliveredSent]
      by_cases hbody : (dm.body.getD "").isEmpty
      · rw [if_pos hbody, if_pos hbody]
        exact .inl ⟨rfl, rfl⟩
      · rw [if_neg hbody, if_neg hbody]
        cases destination_service_id with
        | none => exact .inl ⟨rfl, rfl⟩
        | some dest =>
          simp only [Option.getD_some]
          by_cases hdest : dest.isEmpty
          · rw [if_pos hdest, if_pos hdest]
            exact .inl ⟨rfl, rfl⟩
          · rw [if_neg hdest, if_neg hdest]
            exact .inr ⟨_, dest, _, _, rfl, rfl, (if_neg hbody).trans (if_neg hdest), rfl⟩

/-- A transcript is posted under the arrow label of its destination, in the conversation with the destination. -/
def TranscriptPost (sync : MainWs.SyncMessageProto) (s : App) (post : Post) : Prop :=
  ∃ sent dest, sync.sent = some sent ∧ sent.destination_service_id = some dest ∧
    MainWs.transcriptAuthor dest = .ok post.author ∧
    post.dialogue = postDialogue dest s.pddb.focused s.chat.active

def DeliveryEffect (remote : ProtocolAddress) (s t : App) : Option Delivered → Prop
  | none => (∀ key, t.pointer key = s.pointer key) ∧ t.screen = s.screen
  | some .data => t.pointer DEFAULT_PEER_KEY = some (peerJson remote) ∧
      t.pointer FOCUSED_PEER_KEY = s.pointer FOCUSED_PEER_KEY ∧
      t.screen = screenAfter remote.name s.pddb.focused s.screen
  | some (.sent dest) => (∀ key, t.pointer key = s.pointer key) ∧
      (t.screen = s.screen ∨ t.screen = screenAfter dest s.pddb.focused s.screen)

theorem deliver_sync_effect (sync : MainWs.SyncMessageProto) (remote : ProtocolAddress) (ts : UInt64) (s : App) :
    Results (MainWs.deliver_sync_message sync ts) s (fun _ t =>
      DeliveryEffect remote s t ((sync.sent.bind deliveredSent).map .sent)) := by
  rcases deliver_sync_cases sync ts with ⟨hnone, hrun⟩ | ⟨sent, dest, ts', body, hsent, -, hdest, hrun⟩
  · rw [hnone, hrun]
    exact ensures_pure ⟨fun _ => rfl, rfl⟩
  · rw [hsent, Option.bind_some, hdest, hrun]
    apply Ensures.mono (deliverSent_effect dest ts' body s)
    rintro v t - (rfl | ⟨hpointers, hscreen, -⟩)
    · exact ⟨fun _ => rfl, .inl rfl⟩
    · exact ⟨hpointers, .inr hscreen⟩

theorem deliver_sync_posts (sync : MainWs.SyncMessageProto) (ts : UInt64) (s : App) :
    Results (MainWs.deliver_sync_message sync ts) s (fun _ t => ∀ post ∈ t.chat.posts,
      post ∈ s.chat.posts ∨ TranscriptPost sync s post) := by
  rcases deliver_sync_cases sync ts with ⟨-, hrun⟩ | ⟨sent, dest, ts', body, hsent, hdest, -, hrun⟩
  · rw [hrun]
    exact fun post hpost => .inl hpost
  · rw [hrun]
    apply Ensures.mono (deliverSent_effect dest ts' body s)
    rintro v t - (rfl | ⟨-, -, author, hauthor, hposts⟩) post hpost
    · exact .inl hpost
    · rw [hposts] at hpost
      rcases List.mem_append.mp hpost with hold | hnew
      · exact .inl hold
      · obtain rfl := List.mem_singleton.mp hnew
        exact .inr ⟨sent, dest, hsent, hdest, hauthor, rfl⟩

theorem pointer_set_current (remote : ProtocolAddress) (s : App) (key : String) :
    ((onStore (set_current_recipient remote)).run App.handler s).state.pointer key =
      if key = DEFAULT_PEER_KEY then some (peerJson remote) else s.pointer key := by
  rw [(App.run_onStore _ s).2, App.pointer]
  refine (text_setPeer s.pddb DEFAULT_PEER_KEY DIALOGUE_DICT key remote).trans ?_
  by_cases hk : key = DEFAULT_PEER_KEY
  · rw [if_pos hk, if_pos (by rw [hk])]
  · rw [if_neg hk, if_neg (fun h => hk (Prod.mk.inj h).2)]
    rfl

theorem deliver_effect (plaintext : Bytes) (remote : ProtocolAddress) (ts : UInt64) (s : App) :
    DeliveryEffect remote s (s.step (.deliver plaintext remote ts)) (delivered plaintext) := by
  change Results (MainWs.deliver_content plaintext remote ts) s
    (fun _ t => DeliveryEffect remote s t (delivered plaintext))
  unfold MainWs.deliver_content MainWs.deliverContent delivered
  cases MainWs.ContentProto.decode (strip_signal_padding plaintext) with
  | none => exact ensures_pure ⟨fun _ => rfl, rfl⟩
  | some content =>
    obtain ⟨data_message, sync_message⟩ := content
    cases data_message with
    | some dm =>
      simp only
      apply ensures_bind (deliver_data_effect dm remote ts s)
      · intro e t es hQ
        split_ifs at hQ with hbody
        · cases hQ.1
        · cases hQ.1
      · intro was_delivered t es hQ
        split_ifs at hQ with hbody
        · obtain ⟨hv, rfl⟩ := hQ
          obtain rfl := Except.ok.inj hv
          rw [if_pos hbody]
          exact ensures_pure ⟨fun _ => rfl, rfl⟩
        · obtain ⟨hv, hpointers, hscreen, -⟩ := hQ
          obtain rfl := Except.ok.inj hv
          rw [if_neg hbody, if_pos rfl]
          apply ensures_lift_bind
          have hset := pointer_set_current remote t
          refine ⟨?_, ?_, ?_⟩
          · exact (hset DEFAULT_PEER_KEY).trans (if_pos rfl)
          · exact ((hset FOCUSED_PEER_KEY).trans (if_neg (by decide))).trans (hpointers _)
          · have hkeep : ((onStore (set_current_recipient remote)).run App.handler t).state.screen = t.screen := by
              rw [(App.run_onStore _ t).2]
              rfl
            exact hkeep.trans hscreen
    | none =>
      simp only
      cases sync_message with
      | none => exact ensures_pure ⟨fun _ => rfl, rfl⟩
      | some sync =>
        simp only [Option.bind_some]
        apply ensures_bind (deliver_sync_effect sync remote ts s)
        · intro e t es hQ
          exact hQ
        · intro was_delivered t es hQ
          have hredraw : Results (if was_delivered then ExceptT.lift (toChat .Redraw) else pure ()) t
              (fun _ u => u = t) := by
            cases was_delivered <;> exact rfl
          apply Ensures.mono hredraw
          rintro v u es' rfl
          exact hQ

theorem startup_effect (s : App) :
    (∀ key, (s.step .startup).pointer key = s.pointer key) ∧
      (s.step .startup).screen = some (s.pddb.focused.getD "default") := by
  have hrun := App.run_onStore focused_peer_uuid s
  rw [(run_focused_peer_uuid s.pddb).1, (run_focused_peer_uuid s.pddb).2] at hrun
  have hstate : s.step .startup =
      ((toChat (.DialogueSet SIGCHAT_DIALOGUE (some (s.pddb.focused.getD "default")))).run App.handler s).state := by
    rw [App.step, startup, Program.run_bind, hrun.1, hrun.2]
  rw [hstate]
  exact ⟨fun _ => rfl, rfl⟩

theorem open_peer_effect (peer_uuid : String) (s : App) :
    (∃ a, a.name = peer_uuid ∧ (s.step (.open_peer peer_uuid)).pointer FOCUSED_PEER_KEY = some (peerJson a)) ∧
      (s.step (.open_peer peer_uuid)).screen = some peer_uuid := by
  let s₁ : App := { s with chat := s.chat.apply (.DialogueSet SIGCHAT_DIALOGUE (some peer_uuid)) }
  let s₂ : App := ((onStore (Peers.clear_unread peer_uuid)).run App.handler s₁).state
  let addr : ProtocolAddress := ⟨peer_uuid, ⟨1, DeviceId.one_valid⟩⟩
  have hstate : s.step (.open_peer peer_uuid) = ((onStore (set_focused_peer addr)).run App.handler s₂).state := by
    rw [App.step, open_peer, Program.run_bind, Program.run_bind]
    rfl
  have hagrees : s₁.Agrees s₂ := agrees_onStore (Peers.only_clear_unread peer_uuid) s₁
  rw [hstate, (App.run_onStore _ s₂).2]
  refine ⟨⟨addr, rfl, ?_⟩, ?_⟩
  · exact (text_setPeer s₂.pddb FOCUSED_PEER_KEY DIALOGUE_DICT FOCUSED_PEER_KEY addr).trans (if_pos rfl)
  · rw [App.screen, hagrees.2]
    rfl

end Effects

section Runs

/-- The invariant: with a conversation focused the screen shows it, and without one the screen shows the
peer a typed message falls back to. -/
def App.Consistent (s : App) : Prop :=
  (∃ a, '"' ∉ a.name.toList ∧ s.pointer FOCUSED_PEER_KEY = some (peerJson a) ∧
    (s.screen = none ∨ s.screen = some a.name)) ∨
  (s.pointer FOCUSED_PEER_KEY = none ∧
    (s.screen = none ∨ s.screen = some "default" ∨ ∃ a, s.pddb.recipient = .ok a ∧ s.screen = some a.name))

variable {s t : App}

theorem focused_of_pointer {a : ProtocolAddress} (hname : '"' ∉ a.name.toList)
    (hp : s.pointer FOCUSED_PEER_KEY = some (peerJson a)) : s.pddb.focused = some a.name := by
  rw [App.pointer] at hp
  rw [Pddb.focused, hp, Option.bind_some, uuid_of_peerJson hname]

theorem focused_of_no_pointer (hp : s.pointer FOCUSED_PEER_KEY = none) : s.pddb.focused = none := by
  rw [App.pointer] at hp
  rw [Pddb.focused, hp, Option.bind_none]

theorem recipient_of_focused {a : ProtocolAddress} (hname : '"' ∉ a.name.toList)
    (hp : s.pointer FOCUSED_PEER_KEY = some (peerJson a)) : s.pddb.recipient = .ok a := by
  rw [App.pointer] at hp
  rw [Pddb.recipient, hp]
  exact parse_peerJson hname

theorem recipient_of_default {a : ProtocolAddress} (hname : '"' ∉ a.name.toList)
    (hf : s.pointer FOCUSED_PEER_KEY = none) (hp : s.pointer DEFAULT_PEER_KEY = some (peerJson a)) :
    s.pddb.recipient = .ok a := by
  rw [App.pointer] at hf hp
  rw [Pddb.recipient, hf, hp]
  exact parse_peerJson hname

theorem recipient_congr (h : ∀ key, t.pointer key = s.pointer key) : t.pddb.recipient = s.pddb.recipient := by
  have hf := h FOCUSED_PEER_KEY
  have hd := h DEFAULT_PEER_KEY
  rw [App.pointer, App.pointer] at hf hd
  rw [Pddb.recipient, Pddb.recipient, hf, hd]

theorem screenAfter_focused {peer name : String} {active : Option String}
    (h : active = none ∨ active = some name) :
    screenAfter peer (some name) active = none ∨ screenAfter peer (some name) active = some name := by
  unfold screenAfter
  split_ifs
  · exact h
  · exact .inr rfl

theorem App.Consistent.congr (hs : s.Consistent) (hp : ∀ key, t.pointer key = s.pointer key)
    (hscreen : t.screen = s.screen) : t.Consistent := by
  unfold Consistent at hs ⊢
  rw [hp, hscreen, recipient_congr hp]
  exact hs

theorem consistent_startup (hs : s.Consistent) : (s.step .startup).Consistent := by
  obtain ⟨hp, hscreen⟩ := startup_effect s
  rcases hs with ⟨a, hname, hf, -⟩ | ⟨hf, -⟩
  · refine .inl ⟨a, hname, (hp _).trans hf, .inr ?_⟩
    rw [hscreen, focused_of_pointer hname hf, Option.getD_some]
  · refine .inr ⟨(hp _).trans hf, .inr (.inl ?_)⟩
    rw [hscreen, focused_of_no_pointer hf, Option.getD_none]

theorem consistent_open_peer {peer_uuid : String} (hname : '"' ∉ peer_uuid.toList) :
    (s.step (.open_peer peer_uuid)).Consistent := by
  obtain ⟨⟨a, rfl, hf⟩, hscreen⟩ := open_peer_effect peer_uuid s
  exact .inl ⟨a, hname, hf, .inr hscreen⟩

theorem consistent_data {remote : ProtocolAddress} (hs : s.Consistent)
    (hmeets : s.pddb.focused.isSome ∨ '"' ∉ remote.name.toList)
    (h : DeliveryEffect remote s t (some .data)) : t.Consistent := by
  obtain ⟨hd, hf, hscreen⟩ := h
  rcases hs with ⟨a, hname, hp, hold⟩ | ⟨hp, -⟩
  · refine .inl ⟨a, hname, hf.trans hp, ?_⟩
    rw [hscreen, focused_of_pointer hname hp]
    exact screenAfter_focused hold
  · have hnone := focused_of_no_pointer hp
    rw [hnone] at hmeets hscreen
    have hremote : '"' ∉ remote.name.toList := hmeets.resolve_left (by decide)
    exact .inr ⟨hf.trans hp, .inr (.inr ⟨remote, recipient_of_default hremote (hf.trans hp) hd, hscreen⟩)⟩

theorem consistent_sent {remote : ProtocolAddress} {dest : String} (hs : s.Consistent)
    (hmeets : s.pddb.focused.isSome ∨ ∃ a, s.pddb.recipient = .ok a ∧ a.name = dest)
    (h : DeliveryEffect remote s t (some (.sent dest))) : t.Consistent := by
  obtain ⟨hp, hsame | hscreen⟩ := h
  · exact hs.congr hp hsame
  · rcases hs with ⟨a, hname, hf, hold⟩ | ⟨hf, -⟩
    · refine .inl ⟨a, hname, (hp _).trans hf, ?_⟩
      rw [hscreen, focused_of_pointer hname hf]
      exact screenAfter_focused hold
    · rw [focused_of_no_pointer hf] at hmeets hscreen
      obtain ⟨a, ha, rfl⟩ := hmeets.resolve_left (by decide)
      exact .inr ⟨(hp _).trans hf, .inr (.inr ⟨a, (recipient_congr hp).trans ha, hscreen⟩)⟩

theorem consistent_step (hs : s.Consistent) (hst : App.Step s t) : t.Consistent := by
  obtain ⟨o, ho⟩ := hst
  cases o with
  | startup => exact consistent_startup hs
  | open_peer peer_uuid => exact consistent_open_peer ho
  | deliver plaintext remote ts =>
    have heffect := deliver_effect plaintext remote ts s
    rw [AppOp.Meets] at ho
    cases hd : delivered plaintext with
    | none =>
      rw [hd] at heffect
      exact hs.congr heffect.1 heffect.2
    | some d =>
      rw [hd] at ho heffect
      cases d with
      | data => exact consistent_data hs ho heffect
      | sent dest => exact consistent_sent hs ho heffect

theorem App.Consistent.run (hs : s.Consistent) (hrun : Relation.ReflTransGen App.Step s t) : t.Consistent := by
  induction hrun with
  | refl => exact hs
  | tail _ hstep ih => exact consistent_step ih hstep

theorem run_post_value (text : String) (ts : UInt64) (s : App) :
    ((post text ts).run App.handler s).value = s.pddb.recipient ∧
      ((post text ts).run App.handler s).state.chat.posts =
        s.chat.posts ++ [⟨s.chat.active, "me", ts, text⟩] := by
  let s₁ : App := { s with chat := s.chat.apply (.PostAdd "me" ts text) }
  have hrun : ((post text ts).run App.handler s).value = ((onStore current_recipient).run App.handler s₁).value ∧
      ((post text ts).run App.handler s).state = ((onStore current_recipient).run App.handler s₁).state :=
    ⟨rfl, rfl⟩
  obtain ⟨hvalue, hstate⟩ := App.run_onStore current_recipient s₁
  rw [hrun.1, hrun.2, hvalue, hstate]
  exact ⟨(run_current_recipient s.pddb).1, rfl⟩

theorem App.Consistent.sendsToScreen (hs : s.Consistent) : s.SendsToScreen := by
  intro u hu hdefault text ts
  obtain ⟨hvalue, hposts⟩ := run_post_value text ts s
  refine ⟨?_, hposts⟩
  rw [hvalue]
  rcases hs with ⟨a, hname, hf, hscreen | hscreen⟩ | ⟨-, hscreen | hscreen | ⟨a, ha, hscreen⟩⟩
  · rw [hu] at hscreen
    cases hscreen
  · rw [hu] at hscreen
    exact ⟨a, recipient_of_focused hname hf, (Option.some.inj hscreen).symm⟩
  · rw [hu] at hscreen
    cases hscreen
  · rw [hu] at hscreen
    exact absurd (Option.some.inj hscreen) hdefault
  · rw [hu] at hscreen
    exact ⟨a, ha, (Option.some.inj hscreen).symm⟩

/-- In every run whose transcripts, while nothing is focused, are for the current recipient, what is typed goes
to the conversation on screen. -/
theorem typed_message_reaches_screen {s₀ s : App} (hfocus : s₀.pointer FOCUSED_PEER_KEY = none)
    (hscreen : s₀.screen = none) (hrun : Relation.ReflTransGen App.Step s₀ s) : s.SendsToScreen :=
  App.Consistent.sendsToScreen (App.Consistent.run (.inr ⟨hfocus, .inl hscreen⟩) hrun)

section Examples

def App.fresh : App := ⟨∅, ⟨none, []⟩⟩

def carolAddress : ProtocolAddress := ⟨"3c5e1f70-9a41-4c0b-8f6d-2b7a90cd1e44", ⟨1, DeviceId.one_valid⟩⟩

def bobUuid : String := "0a1b2c3d-4e5f-6071-8293-a4b5c6d7e8f9"

def textFields (body : String) : List WireField := [.bytes 1 (utf8 body), .varint 7 1700000000000]

def dataContent : Bytes := signal_pad (encodeFields [.bytes 1 (encodeFields (textFields "hello"))])

def sentContent (dest : String) : Bytes :=
  signal_pad (encodeFields [.bytes 2 (encodeFields [.bytes 1 (encodeFields [.bytes 1 (utf8 dest),
    .varint 2 1700000000000, .bytes 3 (encodeFields (textFields "on my way"))])])])

/-- Carol writes, then the user's phone writes to Bob: Bob's conversation is shown, and what is typed there
goes to Carol. -/
theorem typed_message_misdirected :
    ¬∀ ops : List AppOp, (ops.foldl App.step App.fresh).SendsToScreen := by
  intro h
  have hend := h [.startup, .deliver dataContent carolAddress 0, .deliver (sentContent bobUuid) carolAddress 0]
  generalize hs : List.foldl App.step _ _ = s at hend
  have hrun : s.screen = some bobUuid ∧ s.pddb.recipient.toOption = some carolAddress := by
    rw [← hs]
    decide +kernel
  obtain ⟨⟨a, ha, hname⟩, -⟩ := hend bobUuid hrun.1 (by decide) "hi" 0
  rw [(run_post_value "hi" 0 s).1] at ha
  rw [ha] at hrun
  obtain rfl := Option.some.inj hrun.2
  exact absurd hname (by decide)

theorem meets_data {s : App} {plaintext : Bytes} {remote : ProtocolAddress} {ts : UInt64}
    (hd : delivered plaintext = some .data) (hname : '"' ∉ remote.name.toList) :
    (AppOp.deliver plaintext remote ts).Meets s := by
  rw [AppOp.Meets, hd]
  exact .inr hname

theorem meets_sent {s : App} {plaintext : Bytes} {remote a : ProtocolAddress} {ts : UInt64}
    (hd : delivered plaintext = some (.sent a.name)) (ha : s.pddb.recipient = .ok a) :
    (AppOp.deliver plaintext remote ts).Meets s := by
  rw [AppOp.Meets, hd]
  exact .inr ⟨a, ha, rfl⟩

theorem typed_message_reaches_bob :
    let ops : List AppOp := [.startup, .deliver dataContent carolAddress 0,
      .deliver (sentContent carolAddress.name) carolAddress 0, .open_peer bobUuid]
    (ops.foldl App.step App.fresh).screen = some bobUuid ∧ (ops.foldl App.step App.fresh).SendsToScreen := by
  refine ⟨(open_peer_effect bobUuid _).2, ?_⟩
  let s₁ := App.fresh.step .startup
  let s₂ := s₁.step (.deliver dataContent carolAddress 0)
  let s₃ := s₂.step (.deliver (sentContent carolAddress.name) carolAddress 0)
  have h₁ : App.Step App.fresh s₁ := .op .startup trivial
  have hdata : delivered dataContent = some .data := by decide +kernel
  have h₂ : App.Step s₁ s₂ := .op _ (meets_data hdata (by decide))
  have hcarol : s₂.pddb.recipient = .ok carolAddress := by
    have heffect := deliver_effect dataContent carolAddress 0 s₁
    rw [hdata] at heffect
    exact recipient_of_default (by decide) (heffect.2.1.trans ((startup_effect App.fresh).1 _)) heffect.1
  have h₃ : App.Step s₂ s₃ := .op _ (meets_sent (by decide +kernel) hcarol)
  have h₄ : App.Step s₃ (s₃.step (.open_peer bobUuid)) := .op (.open_peer bobUuid) (by decide : '"' ∉ bobUuid.toList)
  exact @typed_message_reaches_screen App.fresh _ rfl rfl
    ((((Relation.ReflTransGen.single h₁).tail h₂).tail h₃).tail h₄)

end Examples

end Runs

end XousSignalClient
