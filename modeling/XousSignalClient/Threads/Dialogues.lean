import XousSignalClient.Conversation
import XousSignalClient.Threads.Jobs

namespace XousSignalClient

open Encoding Interaction Fallible

structure Delivery where
  plaintext : Bytes
  remote_addr : ProtocolAddress
  server_ts : UInt64

structure InboundMessage where
  peer : String
  author : String
  timestamp : UInt64
  text : String

def dialogueOf (peer : String) : Option (String × Option String) := some (MainWs.PEER_DIALOGUE_DICT, some peer)

def InboundMessage.post (m : InboundMessage) : Post := ⟨dialogueOf m.peer, m.author, m.timestamp, m.text⟩

def sentMessage (server_ts : UInt64) (sent : MainWs.SentMessageProto) : Option InboundMessage :=
  match sent.message with
  | none => none
  | some dm =>
    if (dm.body.getD "").isEmpty then none
    else if (sent.destination_service_id.getD "").isEmpty then none
    else
      match MainWs.transcriptAuthor (sent.destination_service_id.getD "") with
      | .error _ => none
      | .ok author =>
        some ⟨sent.destination_service_id.getD "", author,
          dm.timestamp.getD (sent.timestamp.getD server_ts), dm.body.getD ""⟩

namespace Delivery

def job (d : Delivery) : Program appSignature (Except Panic Unit) :=
  (MainWs.deliver_content d.plaintext d.remote_addr d.server_ts).run

/-- The message in an envelope, if there is one to show. A transcript whose author label cannot be cut panics
before it is posted. -/
def message (d : Delivery) : Option InboundMessage :=
  match MainWs.ContentProto.decode (strip_signal_padding d.plaintext) with
  | none => none
  | some content =>
    match content.data_message with
    | some dm =>
      if (dm.body.getD "").isEmpty then none
      else some ⟨d.remote_addr.name, d.remote_addr.name, dm.timestamp.getD d.server_ts, dm.body.getD ""⟩
    | none => (content.sync_message.bind MainWs.SyncMessageProto.sent).bind (sentMessage d.server_ts)

end Delivery

def openJob (peer_uuid : String) : Program appSignature (Except Panic Unit) :=
  (ExceptT.lift (open_peer peer_uuid 1) : AppM Unit).run

namespace AppCall

def ReadsFocus : AppCall → Prop
  | .pddb (.read dict key) => (dict, key) = (DIALOGUE_DICT, FOCUSED_PEER_KEY)
  | _ => False

def StoresFocus : AppCall → Prop
  | .pddb (.write dict key _) => (dict, key) = (DIALOGUE_DICT, FOCUSED_PEER_KEY)
  | _ => False

def Routes : AppCall → Prop
  | .chat (.DialogueSet _ _) => True
  | .chat (.PostAdd _ _ _) => True
  | _ => False

def Quiet : AppCall → Prop
  | .pddb c => c.Leaves DIALOGUE_DICT FOCUSED_PEER_KEY ∧ ¬(AppCall.pddb c).ReadsFocus
  | .chat .Redraw => True
  | .chat _ => False

theorem Quiet.not_reads {c : AppCall} (hc : c.Quiet) : ¬c.ReadsFocus := by
  cases c with
  | pddb c => exact hc.2
  | chat op => exact not_false

theorem Quiet.not_routes {c : AppCall} (hc : c.Quiet) : ¬c.Routes := by
  cases c with
  | pddb c => exact not_false
  | chat op =>
    cases op with
    | Redraw => exact not_false
    | DialogueSet dict key => exact hc.elim
    | PostAdd author ts text => exact hc.elim

theorem quiet_answer {c : AppCall} (hc : c.Quiet) (s : App) :
    (App.answer c s).2.chat = s.chat ∧
      (App.answer c s).2.pddb.value DIALOGUE_DICT FOCUSED_PEER_KEY = s.pddb.value DIALOGUE_DICT FOCUSED_PEER_KEY := by
  cases c with
  | pddb c => exact ⟨rfl, Pddb.value_answer_of_leaves hc.1 s.pddb⟩
  | chat op =>
    cases op with
    | Redraw => exact ⟨rfl, rfl⟩
    | DialogueSet dict key => exact hc.elim
    | PostAdd author ts text => exact hc.elim

end AppCall

def Routing (w : Interaction.Worker appSignature (Except Panic Unit)) : Prop :=
  ∃ p rest, w.todo = p :: rest ∧ p.Only (fun c : AppCall => ¬c.ReadsFocus) ∧ ¬p.Only (fun c : AppCall => ¬c.Routes)

def Opening (w : Interaction.Worker appSignature (Except Panic Unit)) : Prop :=
  ∃ p rest, w.todo = p :: rest ∧ p.Only (fun c : AppCall => ¬c.Routes) ∧ ¬p.Only (fun c : AppCall => ¬c.StoresFocus)

abbrev Conversations := Pool appSignature App Thread (Except Panic Unit)

def conversations (s : App) (deliveries : List Delivery) (opened : List String) : Conversations where
  state := s
  workers
    | .main => ⟨[], opened.map openJob⟩
    | .receive => ⟨[], deliveries.map Delivery.job⟩

/-- The posts made so far are those of the first messages, each in its own peer's dialogue; in the end all are
there, and the dialogue on screen is the one in `current.peer`. -/
def Routed (s : App) (deliveries : List Delivery) (P : Conversations) : Prop :=
  (∃ made, P.state.chat.posts = s.chat.posts ++ made ∧
    made <+: (deliveries.filterMap Delivery.message).map InboundMessage.post) ∧
  ((∀ i, (P.workers i).todo = []) →
    P.state.chat.posts = s.chat.posts ++ (deliveries.filterMap Delivery.message).map InboundMessage.post ∧
      ∃ u, P.state.pddb.focused = some u ∧ P.state.chat.active = dialogueOf u)

def ApartStep (P Q : Conversations) : Prop :=
  P.Step App.handler Q ∧ ¬(Routing (Q.workers .receive) ∧ Opening (Q.workers .main))

section Stages

inductive DeliveryStage where
  | before
  | focused (f : Option String)
  | switched (peer : String) (f : Option String)
  | restoring (u : String)
  | after

def DeliveryStage.Inside : DeliveryStage → Prop
  | .before => False
  | .after => False
  | _ => True

def focusOf : Except IoError Bytes → Option String
  | .ok buf => (from_utf8 buf).bind (fun raw => Outgoing.extract_string_field raw "uuid")
  | .error _ => none

inductive Delivering (m : InboundMessage) : DeliveryStage → Program appSignature (Except Panic Unit) → Prop
  | quiet {stage : DeliveryStage} {c : AppCall} {next : c.Reply → Program appSignature (Except Panic Unit)}
      (hc : c.Quiet) (hnext : ∀ r, Delivering m stage (next r)) :
      Delivering m stage (.ask (S := appSignature) c next)
  | look {next : Except IoError Bytes → Program appSignature (Except Panic Unit)}
      (hnext : ∀ r, Delivering m (.focused (focusOf r)) (next r)) :
      Delivering m .before (.ask (S := appSignature) (.pddb (.read DIALOGUE_DICT FOCUSED_PEER_KEY)) next)
  | append {next : Unit → Program appSignature (Except Panic Unit)} (hnext : Delivering m .after (next ())) :
      Delivering m (.focused (some m.peer))
        (.ask (S := appSignature) (.chat (.PostAdd m.author m.timestamp m.text)) next)
  | switch {f : Option String} {next : Unit → Program appSignature (Except Panic Unit)}
      (hnext : Delivering m (.switched m.peer f) (next ())) :
      Delivering m (.focused f)
        (.ask (S := appSignature) (.chat (.DialogueSet MainWs.PEER_DIALOGUE_DICT (some m.peer))) next)
  | post {u : String} {next : Unit → Program appSignature (Except Panic Unit)}
      (hnext : Delivering m (.restoring u) (next ())) :
      Delivering m (.switched m.peer (some u))
        (.ask (S := appSignature) (.chat (.PostAdd m.author m.timestamp m.text)) next)
  | leave {next : Unit → Program appSignature (Except Panic Unit)} (hnext : Delivering m .after (next ())) :
      Delivering m (.switched m.peer none)
        (.ask (S := appSignature) (.chat (.PostAdd m.author m.timestamp m.text)) next)
  | restore {u : String} {next : Unit → Program appSignature (Except Panic Unit)}
      (hnext : Delivering m .after (next ())) :
      Delivering m (.restoring u)
        (.ask (S := appSignature) (.chat (.DialogueSet MainWs.PEER_DIALOGUE_DICT (some u))) next)
  | done (v : Except Panic Unit) : Delivering m .after (.ret v)

inductive OpenStage where
  | before
  | opening (u : String)
  | cleared (u : String)
  | after

def OpenStage.Inside : OpenStage → Prop
  | .opening _ => True
  | .cleared _ => True
  | _ => False

inductive OpeningPeer (u : String) : OpenStage → Program appSignature (Except Panic Unit) → Prop
  | quiet {stage : OpenStage} {c : AppCall} {next : c.Reply → Program appSignature (Except Panic Unit)}
      (hc : c.Quiet) (hnext : ∀ r, OpeningPeer u stage (next r)) :
      OpeningPeer u stage (.ask (S := appSignature) c next)
  | switch {next : Unit → Program appSignature (Except Panic Unit)}
      (hnext : OpeningPeer u (.opening u) (next ())) :
      OpeningPeer u .before (.ask (S := appSignature) (.chat (.DialogueSet SIGCHAT_DIALOGUE (some u))) next)
  | clear {next : Except IoError Unit → Program appSignature (Except Panic Unit)}
      (hnext : ∀ r, OpeningPeer u (.cleared u) (next r)) :
      OpeningPeer u (.opening u) (.ask (S := appSignature) (.pddb (.delete DIALOGUE_DICT FOCUSED_PEER_KEY)) next)
  | store {dev : DeviceId} {next : Except IoError Unit → Program appSignature (Except Panic Unit)}
      (hnext : ∀ r, OpeningPeer u .after (next r)) :
      OpeningPeer u (.cleared u)
        (.ask (S := appSignature) (.pddb (.write DIALOGUE_DICT FOCUSED_PEER_KEY (utf8 (peerJson ⟨u, dev⟩)))) next)
  | done (v : Except Panic Unit) : OpeningPeer u .after (.ret v)

variable {m : InboundMessage} {u : String} {α : Type}

theorem Delivering.quiet_bind {stage : DeliveryStage} {p : Program appSignature α}
    {k : α → Program appSignature (Except Panic Unit)} (hp : p.Only AppCall.Quiet)
    (hk : ∀ v, Delivering m stage (k v)) : Delivering m stage (p >>= k) := by
  induction hp with
  | ret v => exact hk v
  | ask c next hc _ ih => exact .quiet hc ih

theorem OpeningPeer.quiet_bind {stage : OpenStage} {p : Program appSignature α}
    {k : α → Program appSignature (Except Panic Unit)} (hp : p.Only AppCall.Quiet)
    (hk : ∀ v, OpeningPeer u stage (k v)) : OpeningPeer u stage (p >>= k) := by
  induction hp with
  | ret v => exact hk v
  | ask c next hc _ ih => exact .quiet hc ih

theorem Delivering.only_reads {stage : DeliveryStage} {p : Program appSignature (Except Panic Unit)}
    (h : Delivering m stage p) (hstage : stage ≠ .before) : p.Only (fun c : AppCall => ¬c.ReadsFocus) := by
  induction h with
  | quiet hc _ ih => exact .ask _ _ hc.not_reads (fun r => ih r hstage)
  | look _ _ => exact absurd rfl hstage
  | append _ ih => exact .ask _ _ not_false (fun _ => ih nofun)
  | switch _ ih => exact .ask _ _ not_false (fun _ => ih nofun)
  | post _ ih => exact .ask _ _ not_false (fun _ => ih nofun)
  | leave _ ih => exact .ask _ _ not_false (fun _ => ih nofun)
  | restore _ ih => exact .ask _ _ not_false (fun _ => ih nofun)
  | done v => exact .ret v

theorem Delivering.routes {stage : DeliveryStage} {p : Program appSignature (Except Panic Unit)}
    (h : Delivering m stage p) (hstage : stage.Inside) : ¬p.Only (fun c : AppCall => ¬c.Routes) := by
  induction h with
  | @quiet stage c next hc _ ih =>
    rintro (_ | ⟨_, _, _, hnext⟩)
    exact ih (App.answer c App.fresh).1 hstage (hnext _)
  | look _ _ => exact hstage.elim
  | append _ _ =>
    rintro (_ | ⟨_, _, hroutes, _⟩)
    exact hroutes trivial
  | switch _ _ =>
    rintro (_ | ⟨_, _, hroutes, _⟩)
    exact hroutes trivial
  | post _ _ =>
    rintro (_ | ⟨_, _, hroutes, _⟩)
    exact hroutes trivial
  | leave _ _ =>
    rintro (_ | ⟨_, _, hroutes, _⟩)
    exact hroutes trivial
  | restore _ _ =>
    rintro (_ | ⟨_, _, hroutes, _⟩)
    exact hroutes trivial
  | done v => exact hstage.elim

theorem OpeningPeer.only_routes {stage : OpenStage} {p : Program appSignature (Except Panic Unit)}
    (h : OpeningPeer u stage p) (hstage : stage ≠ .before) : p.Only (fun c : AppCall => ¬c.Routes) := by
  induction h with
  | quiet hc _ ih => exact .ask _ _ hc.not_routes (fun r => ih r hstage)
  | switch _ _ => exact absurd rfl hstage
  | clear _ ih => exact .ask _ _ not_false (fun r => ih r nofun)
  | store _ ih => exact .ask _ _ not_false (fun r => ih r nofun)
  | done v => exact .ret v

theorem OpeningPeer.stores {stage : OpenStage} {p : Program appSignature (Except Panic Unit)}
    (h : OpeningPeer u stage p) (hstage : stage.Inside) : ¬p.Only (fun c : AppCall => ¬c.StoresFocus) := by
  induction h with
  | @quiet stage c next hc _ ih =>
    rintro (_ | ⟨_, _, _, hnext⟩)
    exact ih (App.answer c App.fresh).1 hstage (hnext _)
  | switch _ _ => exact hstage.elim
  | clear _ ih =>
    rintro (_ | ⟨_, _, _, hnext⟩)
    exact ih (.ok ()) trivial (hnext _)
  | store _ _ =>
    rintro (_ | ⟨_, _, hstores, _⟩)
    exact hstores rfl
  | done v => exact hstage.elim

end Stages

section Jobs

def NotFocus (c : PddbCall) : Prop := c.Leaves DIALOGUE_DICT FOCUSED_PEER_KEY ∧ ¬(AppCall.pddb c).ReadsFocus

theorem quiet_store {α : Type} {p : PddbProgram α} (hp : p.Only NotFocus) : (onStore p).Only AppCall.Quiet := by
  induction hp with
  | ret v => exact .ret v
  | ask c next hc _ ih => exact .ask (S := appSignature) (.pddb c) _ hc ih

theorem peers_ne : Peers.PEERS_DICT ≠ DIALOGUE_DICT := by decide

theorem notFocus_read (uuid : String) : (Peers.read uuid).Only NotFocus := by
  have hget : (pddb_get_string Peers.PEERS_DICT uuid).Only NotFocus := by
    have hread : NotFocus (.read Peers.PEERS_DICT uuid) := ⟨trivial, fun h => peers_ne (Prod.mk.inj h).1⟩
    apply (Program.Only.perform (S := pddbSignature) (.read Peers.PEERS_DICT uuid) hread).bind
    intro r
    cases r <;> exact .ret _
  apply hget.bind
  intro r
  cases r <;> exact .ret _

theorem notFocus_write {dict key : String} (hkey : (DIALOGUE_DICT, FOCUSED_PEER_KEY) ≠ (dict, key)) (data : Bytes)
    {α : Type} (f : IoError → α) (v : α) : Program.Only NotFocus (S := pddbSignature) (do
      let _ ← pddbDelete dict key
      match ← pddbWrite dict key data with
      | .error e => pure (f e)
      | .ok () =>
        let _ ← pddbSync
        pure v) := by
  refine (Program.Only.perform (S := pddbSignature) (.delete dict key) ⟨hkey, not_false⟩).bind ?_
  intro _
  refine (Program.Only.perform (S := pddbSignature) (.write dict key data) ⟨hkey, not_false⟩).bind ?_
  intro r
  cases r with
  | error e => exact .ret _
  | ok u => exact (Program.Only.perform (S := pddbSignature) .sync ⟨trivial, not_false⟩).bind (fun _ => .ret _)

theorem notFocus_write_summary (summary : Peers.PeerSummary) : (Peers.write_summary summary).Only NotFocus := 
  notFocus_write (fun h => peers_ne (Prod.mk.inj h).1.symm) _ Except.error _

theorem notFocus_update (uuid : String) (f : Peers.PeerSummary → Peers.PeerSummary) :
    (Peers.update uuid f).Only NotFocus :=
  (notFocus_read uuid).bind (fun _ => notFocus_write_summary _)

theorem notFocus_clear_unread (uuid : String) : (Peers.clear_unread uuid).Only NotFocus := by
  apply (notFocus_read uuid).bind
  intro r
  cases r with
  | none => exact .ret _
  | some summary =>
    simp only
    split_ifs
    · exact notFocus_write_summary _
    · exact .ret _

theorem notFocus_set_current_recipient (addr : ProtocolAddress) : (set_current_recipient addr).Only NotFocus := by
  have hkey : (DIALOGUE_DICT, FOCUSED_PEER_KEY) ≠ (DIALOGUE_DICT, DEFAULT_PEER_KEY) := by decide
  exact notFocus_write hkey (utf8 (peerJson addr)) (fun e => Except.error (OutgoingError.Pddb ("write: " ++ e.text)))
    (Except.ok ())

variable {m : InboundMessage} {β : Type}

theorem focused_bind (k : Option String → Program appSignature β) :
    onStore focused_peer_uuid >>= k =
      .ask (S := appSignature) (.pddb (.read DIALOGUE_DICT FOCUSED_PEER_KEY)) (fun r => k (focusOf r)) := by
  unfold focused_peer_uuid
  rw [pddb_get_string_bind]
  refine congrArg (Program.ask (S := appSignature) (.pddb (.read DIALOGUE_DICT FOCUSED_PEER_KEY)))
    (funext fun r => ?_)
  cases r with
  | error e => rfl
  | ok buf =>
    change Program.interp _ _ >>= k = k ((from_utf8 buf).bind _)
    simp only [Except.toOption, Option.bind_some]
    cases from_utf8 buf <;> rfl

theorem Delivering.posting {k : Unit → Program appSignature (Except Panic Unit)} (hk : Delivering m .after (k ()))
    (f : Option String) :
    Delivering m (.focused f) (MainWs.post_to_peer_dialogue m.peer m.author m.timestamp m.text f >>= k) := by
  unfold MainWs.post_to_peer_dialogue
  by_cases hf : f = some m.peer
  · subst hf
    rw [if_pos rfl]
    exact .append hk
  · rw [if_neg hf]
    refine .switch ?_
    cases f with
    | none => exact .leave hk
    | some u => exact .post (.restore hk)

theorem Delivering.looking {f : Option String → Program appSignature (Except Panic Unit)}
    (hf : ∀ focused, Delivering m (.focused focused) (f focused)) :
    Delivering m .before (onStore focused_peer_uuid >>= f) := by
  rw [focused_bind]
  exact .look (fun r => hf _)

theorem Delivering.deliver {x : Option String → Fallible pddbSignature Panic (Except IoError Unit)}
    (hx : ∀ focused, ∃ p : PddbProgram (Except IoError Unit), x focused = ExceptT.lift p ∧ p.Only NotFocus)
    {g : Bool → AppM Unit} (hg : Delivering m .after (g true).run) :
    Delivering m .before ((do
      let focused : Option String ← ExceptT.lift (onStore focused_peer_uuid)
      let _recorded : Except IoError Unit ← onStoreM (x focused)
      ExceptT.lift (MainWs.post_to_peer_dialogue m.peer m.author m.timestamp m.text focused)
      pure true : AppM Bool) >>= g).run := by
  rw [bind_assoc, ExceptT.run_bind_lift]
  apply Delivering.looking
  intro focused
  obtain ⟨p, hp, honly⟩ := hx focused
  rw [hp, onStoreM_lift, bind_assoc, ExceptT.run_bind_lift]
  apply Delivering.quiet_bind (quiet_store honly)
  intro _
  rw [bind_assoc, ExceptT.run_bind_lift]
  exact Delivering.posting hg focused

def Handles : Option InboundMessage → DeliveryStage → Program appSignature (Except Panic Unit) → Prop
  | some m, stage, p => Delivering m stage p
  | none, stage, p => stage = .before ∧ p.Only AppCall.Quiet

theorem quiet_redraw : (ExceptT.lift (toChat .Redraw) : AppM Unit).run.Only AppCall.Quiet :=
  Fallible.only_lift (Program.Only.perform (S := appSignature) (.chat .Redraw) trivial)

theorem Delivering.notify {p : Program appSignature (Except Panic Unit)} (hp : p.Only AppCall.Quiet) :
    Delivering m .after p := by
  have h : Delivering m .after (p >>= .ret) := Delivering.quiet_bind hp (fun v => .done v)
  rwa [Program.bind_ret] at h

theorem handles_data (d : Delivery) (dm : MainWs.DataMessageProto) {g : Bool → AppM Unit}
    (htrue : (g true).run.Only AppCall.Quiet) (hfalse : (g false).run.Only AppCall.Quiet) :
    Handles (if (dm.body.getD "").isEmpty then none
      else some ⟨d.remote_addr.name, d.remote_addr.name, dm.timestamp.getD d.server_ts, dm.body.getD ""⟩) .before
      (MainWs.deliver_data_message dm d.remote_addr d.server_ts >>= g).run := by
  unfold MainWs.deliver_data_message
  by_cases hbody : (dm.body.getD "").isEmpty
  · simp only [hbody, if_true]
    exact ⟨rfl, hfalse⟩
  · simp only [hbody]
    obtain ⟨snippet, hsnippet⟩ := Peers.truncate_snippet_ok (dm.body.getD "")
    refine Delivering.deliver ?_ (.notify htrue)
    exact fun focused => ⟨_, Peers.record_inbound_eq hsnippet _ _ _, notFocus_update _ _⟩

theorem handles_sent (server_ts : UInt64) (sent : MainWs.SentMessageProto) {g : Bool → AppM Unit}
    (htrue : (g true).run.Only AppCall.Quiet) (hfalse : (g false).run.Only AppCall.Quiet) :
    Handles (sentMessage server_ts sent) .before
      (MainWs.deliver_sync_message ⟨some sent⟩ server_ts >>= g).run := by
  obtain ⟨destination_service_id, timestamp, message⟩ := sent
  unfold MainWs.deliver_sync_message sentMessage
  cases message with
  | none => exact ⟨rfl, hfalse⟩
  | some dm =>
    simp only
    by_cases hbody : (dm.body.getD "").isEmpty
    · rw [if_pos hbody, if_pos hbody]
      exact ⟨rfl, hfalse⟩
    · rw [if_neg hbody, if_neg hbody]
      by_cases hdest : (destination_service_id.getD "").isEmpty
      · rw [if_pos hdest, if_pos hdest]
        exact ⟨rfl, hfalse⟩
      · rw [if_neg hdest, if_neg hdest]
        unfold MainWs.deliverSent
        cases MainWs.transcriptAuthor (destination_service_id.getD "") with
        | error e => exact ⟨rfl, .ret _⟩
        | ok author =>
          obtain ⟨snippet, hsnippet⟩ := Peers.truncate_snippet_ok (dm.body.getD "")
          refine Delivering.deliver (m := ⟨_, _, _, _⟩) ?_ (.notify htrue)
          exact fun focused => ⟨_, Peers.record_outbound_eq hsnippet _ _, notFocus_update _ _⟩

theorem handles_job (d : Delivery) : Handles d.message .before d.job := by
  unfold Delivery.message Delivery.job MainWs.deliver_content MainWs.deliverContent
  cases MainWs.ContentProto.decode (strip_signal_padding d.plaintext) with
  | none => exact ⟨rfl, .ret _⟩
  | some content =>
    obtain ⟨data_message, sync_message⟩ := content
    cases data_message with
    | some dm =>
      refine handles_data d dm ?_ (.ret _)
      exact Fallible.only_bind (Fallible.only_lift (quiet_store (notFocus_set_current_recipient _)))
        (fun _ => quiet_redraw)
    | none =>
      cases sync_message with
      | none => exact ⟨rfl, .ret _⟩
      | some sync =>
        obtain ⟨sent⟩ := sync
        cases sent with
        | none => exact ⟨rfl, .ret _⟩
        | some sent => exact handles_sent d.server_ts sent quiet_redraw (.ret _)

variable {u : String}

theorem OpeningPeer.storing {dev : DeviceId} {k : Except OutgoingError Unit → Program appSignature (Except Panic Unit)}
    (hk : ∀ r, OpeningPeer u .after (k r)) :
    OpeningPeer u (.opening u) (onStore (set_focused_peer ⟨u, dev⟩) >>= k) := by
  refine .clear (fun _ => .store (fun r => ?_))
  cases r with
  | error e => exact hk _
  | ok v => exact .quiet (c := .pddb .sync) ⟨trivial, not_false⟩ (fun _ => hk _)

theorem openingPeer_job (u : String) : OpeningPeer u .before (openJob u) := by
  let dev : DeviceId := ⟨1, DeviceId.one_valid⟩
  have hrest : OpeningPeer u (.opening u) ((onStore (Peers.clear_unread u) >>= fun _ =>
      onStore (set_focused_peer ⟨u, dev⟩) >>= fun _ => pure ()) >>= fun a => pure (Except.ok a)) := by
    rw [bind_assoc]
    apply OpeningPeer.quiet_bind (quiet_store (notFocus_clear_unread u))
    intro _
    rw [bind_assoc]
    exact .storing (fun _ => .done _)
  unfold openJob open_peer
  rw [ExceptT.run_lift, map_eq_pure_bind, bind_assoc]
  refine .switch ?_
  exact hrest

end Jobs

section Runs

def Deliveries (stage : DeliveryStage) :
    List (Option InboundMessage) → List (Program appSignature (Except Panic Unit)) → Prop
  | [], ps => stage = .before ∧ ps = []
  | m :: ms, ps => ∃ p rest, ps = p :: rest ∧ Handles m stage p ∧ List.Forall₂ (fun m p => Handles m .before p) ms rest

def Openings (stage : OpenStage) : List String → List (Program appSignature (Except Panic Unit)) → Prop
  | [], ps => stage = .before ∧ ps = []
  | u :: us, ps =>
    ∃ p rest, ps = p :: rest ∧ OpeningPeer u stage p ∧ List.Forall₂ (fun u p => OpeningPeer u .before p) us rest

def DeliveryStage.posted : DeliveryStage → Bool
  | .restoring _ => true
  | .after => true
  | _ => false

def owed (stage : DeliveryStage) (ms : List (Option InboundMessage)) : List InboundMessage :=
  (if stage.posted then ms.tail else ms).filterMap id

def Home (s : App) (u : String) : Prop := s.pddb.focused = some u ∧ s.chat.active = dialogueOf u

def Followed (s : App) : DeliveryStage → Prop
  | .focused f => ∃ u, f = some u ∧ Home s u
  | .switched peer f => ∃ u, f = some u ∧ s.pddb.focused = some u ∧ s.chat.active = dialogueOf peer
  | .restoring u => s.pddb.focused = some u
  | _ => ∃ u, Home s u

def Placed (s : App) (stage : DeliveryStage) : OpenStage → Prop
  | .opening u => ¬stage.Inside ∧ s.chat.active = dialogueOf u
  | .cleared u =>
    ¬stage.Inside ∧ s.chat.active = dialogueOf u ∧ s.pddb.value DIALOGUE_DICT FOCUSED_PEER_KEY = none
  | _ => Followed s stage

def Accounted (before all : List Post) (s : App) (stage : DeliveryStage) (ms : List (Option InboundMessage)) : Prop :=
  ∃ made, s.chat.posts = before ++ made ∧ made ++ (owed stage ms).map InboundMessage.post = all

structure Settled (before all : List Post) (P : Conversations) (ms : List (Option InboundMessage)) (us : List String)
    (stage : DeliveryStage) (open_stage : OpenStage) : Prop where
  deliveries : Deliveries stage ms (P.workers .receive).todo
  openings : Openings open_stage us (P.workers .main).todo
  names : ∀ u ∈ us, '"' ∉ u.toList
  posts : Accounted before all P.state stage ms
  placed : Placed P.state stage open_stage

variable {before all : List Post} {P Q : Conversations} {ms : List (Option InboundMessage)} {us : List String}
  {stage : DeliveryStage} {open_stage : OpenStage} {s t : App}

theorem Home.congr {u : String} (h : Home s u) (hactive : t.chat.active = s.chat.active)
    (hvalue : t.pddb.value DIALOGUE_DICT FOCUSED_PEER_KEY = s.pddb.value DIALOGUE_DICT FOCUSED_PEER_KEY) :
    Home t u := by
  unfold Home Pddb.focused Pddb.text at *
  rw [hactive, hvalue]
  exact h

theorem Placed.congr (h : Placed s stage open_stage) (hactive : t.chat.active = s.chat.active)
    (hvalue : t.pddb.value DIALOGUE_DICT FOCUSED_PEER_KEY = s.pddb.value DIALOGUE_DICT FOCUSED_PEER_KEY) :
    Placed t stage open_stage := by
  unfold Placed Followed Home Pddb.focused Pddb.text at *
  rw [hactive, hvalue]
  exact h

theorem Placed.followed (h : Placed s stage open_stage) (hopen : ¬open_stage.Inside) : Followed s stage := by
  cases open_stage with
  | before => exact h
  | after => exact h
  | opening u => exact absurd trivial hopen
  | cleared u => exact absurd trivial hopen

theorem placed_of_followed (h : Followed s stage) (hopen : ¬open_stage.Inside) : Placed s stage open_stage := by
  cases open_stage with
  | before => exact h
  | after => exact h
  | opening u => exact absurd trivial hopen
  | cleared u => exact absurd trivial hopen

theorem Placed.not_open (h : Placed s stage open_stage) (hstage : stage.Inside) : ¬open_stage.Inside := by
  cases open_stage with
  | before => exact not_false
  | after => exact not_false
  | opening u => exact fun _ => h.1 hstage
  | cleared u => exact fun _ => h.1 hstage

theorem Placed.outside {stage' : DeliveryStage} (h : Placed s stage open_stage) (hstage : ¬stage.Inside)
    (hstage' : ¬stage'.Inside) : Placed s stage' open_stage := by
  have hfollowed : Followed s stage → Followed s stage' := by
    intro hs
    cases stage with
    | before => cases stage' <;> first | exact hs | exact absurd trivial hstage'
    | after => cases stage' <;> first | exact hs | exact absurd trivial hstage'
    | focused f => exact absurd trivial hstage
    | switched peer f => exact absurd trivial hstage
    | restoring u => exact absurd trivial hstage
  cases open_stage with
  | before => exact hfollowed h
  | after => exact hfollowed h
  | opening u => exact ⟨hstage', h.2⟩
  | cleared u => exact ⟨hstage', h.2⟩

theorem Accounted.congr (h : Accounted before all s stage ms) (hposts : t.chat.posts = s.chat.posts) :
    Accounted before all t stage ms := by
  obtain ⟨made, hmade, hall⟩ := h
  exact ⟨made, hposts.trans hmade, hall⟩

theorem Accounted.posted {m : InboundMessage} {stage' : DeliveryStage} (h : Accounted before all s stage (some m :: ms))
    (hstage : stage.posted = false) (hstage' : stage'.posted = true) (hactive : s.chat.active = dialogueOf m.peer) :
    Accounted before all (App.answer (.chat (.PostAdd m.author m.timestamp m.text)) s).2 stage' (some m :: ms) := by
  obtain ⟨made, hmade, hall⟩ := h
  refine ⟨made ++ [m.post], ?_, ?_⟩
  · simp [App.answer, Chat.apply, hmade, hactive, InboundMessage.post]
  · rw [← hall]
    simp [owed, hstage, hstage']

theorem Settled.receive (h : Settled before all P ms us stage open_stage) {s : App}
    {w : Interaction.Worker appSignature (Except Panic Unit)} {ms' : List (Option InboundMessage)}
    {stage' : DeliveryStage}
    (hdeliveries : Deliveries stage' ms' w.todo)
    (hposts : Accounted before all s stage' ms')
    (hplaced : Placed s stage' open_stage) : Settled before all (P.update .receive s w) ms' us stage' open_stage := by
  refine ⟨?_, ?_, h.names, hposts, hplaced⟩
  · rw [Pool.workers_update_self]
    exact hdeliveries
  · rw [Pool.workers_update_ne P (j := .main) (by decide)]
    exact h.openings

theorem Settled.main (h : Settled before all P ms us stage open_stage) {s : App}
    {w : Interaction.Worker appSignature (Except Panic Unit)} {us' : List String} {open_stage' : OpenStage}
    (hopenings : Openings open_stage' us' w.todo) (hnames : ∀ u ∈ us', '"' ∉ u.toList)
    (hposts : s.chat.posts = P.state.chat.posts) (hplaced : Placed s stage open_stage') :
    Settled before all (P.update .main s w) ms us' stage open_stage' := by
  refine ⟨?_, ?_, hnames, ?_, hplaced⟩
  · rw [Pool.workers_update_ne P (j := .receive) (by decide)]
    exact h.deliveries
  · rw [Pool.workers_update_self]
    exact hopenings
  · exact h.posts.congr hposts

theorem Deliveries.start {ps : List (Program appSignature (Except Panic Unit))}
    (h : List.Forall₂ (fun m p => Handles m .before p) ms ps) : Deliveries .before ms ps := by
  cases h with
  | nil => exact ⟨rfl, rfl⟩
  | cons hp hps => exact ⟨_, _, rfl, hp, hps⟩

theorem Openings.start {ps : List (Program appSignature (Except Panic Unit))}
    (h : List.Forall₂ (fun u p => OpeningPeer u .before p) us ps) : Openings .before us ps := by
  cases h with
  | nil => exact ⟨rfl, rfl⟩
  | cons hp hps => exact ⟨_, _, rfl, hp, hps⟩

theorem Deliveries.routing {ps : List (Program appSignature (Except Panic Unit))} (h : Deliveries stage ms ps)
    (hstage : stage.Inside) (results : List (Except Panic Unit)) : Routing ⟨results, ps⟩ := by
  cases ms with
  | nil =>
    obtain ⟨rfl, -⟩ := h
    exact hstage.elim
  | cons m ms =>
    obtain ⟨p, rest, hp, hhandles, -⟩ := h
    cases m with
    | none =>
      obtain ⟨rfl, -⟩ := hhandles
      exact hstage.elim
    | some m =>
      refine ⟨p, rest, hp, hhandles.only_reads ?_, hhandles.routes hstage⟩
      rintro rfl
      exact hstage

theorem Openings.opening {ps : List (Program appSignature (Except Panic Unit))} (h : Openings open_stage us ps)
    (hstage : open_stage.Inside) (results : List (Except Panic Unit)) : Opening ⟨results, ps⟩ := by
  cases us with
  | nil =>
    obtain ⟨rfl, -⟩ := h
    exact hstage.elim
  | cons u us =>
    obtain ⟨p, rest, hp, hopening, -⟩ := h
    refine ⟨p, rest, hp, hopening.only_routes ?_, hopening.stores hstage⟩
    rintro rfl
    exact hstage

theorem focusOf_answer (s : App) :
    focusOf (App.answer (.pddb (.read DIALOGUE_DICT FOCUSED_PEER_KEY)) s).1 = s.pddb.focused := by
  change focusOf (Pddb.answer (.read DIALOGUE_DICT FOCUSED_PEER_KEY) s.pddb).1 = _
  unfold Pddb.focused Pddb.text
  cases h : s.pddb.value DIALOGUE_DICT FOCUSED_PEER_KEY with
  | none => simp [Pddb.answer, h, focusOf]
  | some buf => simp [Pddb.answer, h, focusOf]

theorem Settled.receive_request (h : Settled before all P ms us stage open_stage) {c : AppCall}
    {next : c.Reply → Program appSignature (Except Panic Unit)} {rest : List (Program appSignature (Except Panic Unit))}
    (hw : (P.workers .receive).todo = Program.ask (S := appSignature) c next :: rest)
    (hapart : ¬(Routing ⟨(P.workers .receive).done, next (App.answer c P.state).1 :: rest⟩ ∧
      Opening (P.workers .main))) :
    ∃ stage', Settled before all (P.update .receive (App.answer c P.state).2
      ⟨(P.workers .receive).done, next (App.answer c P.state).1 :: rest⟩) ms us stage' open_stage := by
  have hdeliveries := h.deliveries
  have hposts := h.posts
  rw [hw] at hdeliveries
  cases ms with
  | nil => cases hdeliveries.2
  | cons m ms =>
    obtain ⟨p, rest', hp, hhandles, hrest⟩ := hdeliveries
    obtain ⟨rfl, rfl⟩ := List.cons.inj hp
    cases m with
    | none =>
      obtain ⟨rfl, honly⟩ := hhandles
      cases honly with
      | ask c next hc hnext =>
        obtain ⟨hchat, hvalue⟩ := AppCall.quiet_answer hc P.state
        refine ⟨.before, h.receive ⟨_, _, rfl, ⟨rfl, hnext _⟩, hrest⟩ ?_ ?_⟩
        · exact hposts.congr (congrArg Chat.posts hchat)
        · exact h.placed.congr (congrArg Chat.active hchat) hvalue
    | some m =>
      cases hhandles with
      | quiet hc hnext =>
        obtain ⟨hchat, hvalue⟩ := AppCall.quiet_answer hc P.state
        refine ⟨stage, h.receive ⟨_, _, rfl, hnext _, hrest⟩ ?_ ?_⟩
        · exact hposts.congr (congrArg Chat.posts hchat)
        · exact h.placed.congr (congrArg Chat.active hchat) hvalue
      | look hnext =>
        have hline : Deliveries (.focused P.state.pddb.focused) (some m :: ms) (_ :: rest) :=
          ⟨_, _, rfl, focusOf_answer P.state ▸ hnext _, hrest⟩
        have hopen : ¬open_stage.Inside := fun hin => hapart ⟨hline.routing trivial _, h.openings.opening hin _⟩
        obtain ⟨u, hhome⟩ := h.placed.followed hopen
        have hleaves : (PddbCall.read DIALOGUE_DICT FOCUSED_PEER_KEY).Leaves DIALOGUE_DICT FOCUSED_PEER_KEY := trivial
        have hvalue := Pddb.value_answer_of_leaves hleaves P.state.pddb
        exact ⟨_, h.receive hline hposts (placed_of_followed ⟨u, hhome.1, hhome.congr rfl hvalue⟩ hopen)⟩
      | append hnext =>
        have hopen := h.placed.not_open trivial
        obtain ⟨u, hu, hhome⟩ := h.placed.followed hopen
        obtain rfl := Option.some.inj hu
        exact ⟨.after, h.receive ⟨_, _, rfl, hnext, hrest⟩ (hposts.posted rfl rfl hhome.2)
          (placed_of_followed ⟨m.peer, hhome⟩ hopen)⟩
      | switch hnext =>
        have hopen := h.placed.not_open trivial
        obtain ⟨u, hu, hhome⟩ := h.placed.followed hopen
        exact ⟨_, h.receive ⟨_, _, rfl, hnext, hrest⟩ hposts
          (placed_of_followed ⟨u, hu, hhome.1, rfl⟩ hopen)⟩
      | @post u _ hnext =>
        have hopen := h.placed.not_open trivial
        obtain ⟨v, hv, hfocused, hactive⟩ := h.placed.followed hopen
        obtain rfl := Option.some.inj hv
        exact ⟨.restoring u, h.receive ⟨_, _, rfl, hnext, hrest⟩ (hposts.posted rfl rfl hactive)
          (placed_of_followed hfocused hopen)⟩
      | leave hnext =>
        obtain ⟨v, hv, -⟩ := h.placed.followed (h.placed.not_open trivial)
        cases hv
      | @restore u _ hnext =>
        have hopen := h.placed.not_open trivial
        have hfocused : P.state.pddb.focused = some u := h.placed.followed hopen
        exact ⟨_, h.receive ⟨_, _, rfl, hnext, hrest⟩ hposts (placed_of_followed ⟨u, hfocused, rfl⟩ hopen)⟩

theorem Settled.receive_finish (h : Settled before all P ms us stage open_stage) {v : Except Panic Unit}
    {rest : List (Program appSignature (Except Panic Unit))} (hw : (P.workers .receive).todo = .ret v :: rest) :
    ∃ ms', Settled before all (P.update .receive P.state ⟨(P.workers .receive).done ++ [v], rest⟩) ms' us .before
      open_stage := by
  have hdeliveries := h.deliveries
  have hposts := h.posts
  rw [hw] at hdeliveries
  cases ms with
  | nil => cases hdeliveries.2
  | cons m ms =>
    obtain ⟨p, rest', hp, hhandles, hrest⟩ := hdeliveries
    obtain ⟨rfl, rfl⟩ := List.cons.inj hp
    cases m with
    | none =>
      obtain ⟨rfl, -⟩ := hhandles
      exact ⟨ms, h.receive (.start hrest) hposts h.placed⟩
    | some m =>
      cases hhandles with
      | done v => exact ⟨ms, h.receive (.start hrest) hposts (h.placed.outside not_false not_false)⟩

theorem Settled.main_request (h : Settled before all P ms us stage open_stage) {c : AppCall}
    {next : c.Reply → Program appSignature (Except Panic Unit)} {rest : List (Program appSignature (Except Panic Unit))}
    (hw : (P.workers .main).todo = Program.ask (S := appSignature) c next :: rest)
    (hapart : ¬(Routing (P.workers .receive) ∧
      Opening ⟨(P.workers .main).done, next (App.answer c P.state).1 :: rest⟩)) :
    ∃ open_stage', Settled before all (P.update .main (App.answer c P.state).2
      ⟨(P.workers .main).done, next (App.answer c P.state).1 :: rest⟩) ms us stage open_stage' := by
  have hopenings := h.openings
  rw [hw] at hopenings
  cases us with
  | nil => cases hopenings.2
  | cons u us =>
    obtain ⟨p, rest', hp, hopening, hrest⟩ := hopenings
    obtain ⟨rfl, rfl⟩ := List.cons.inj hp
    cases hopening with
    | quiet hc hnext =>
      obtain ⟨hchat, hvalue⟩ := AppCall.quiet_answer hc P.state
      exact ⟨_, h.main ⟨_, _, rfl, hnext _, hrest⟩ h.names (congrArg Chat.posts hchat)
        (h.placed.congr (congrArg Chat.active hchat) hvalue)⟩
    | @switch next hnext =>
      have hline : Openings (.opening u) (u :: us) (next () :: rest) := ⟨_, _, rfl, hnext, hrest⟩
      have hstage : ¬stage.Inside := fun hin => hapart ⟨h.deliveries.routing hin _, hline.opening trivial _⟩
      exact ⟨_, h.main hline h.names rfl ⟨hstage, rfl⟩⟩
    | clear hnext =>
      obtain ⟨hstage, hactive⟩ := h.placed
      have hvalue := (Pddb.answer_delete P.state.pddb DIALOGUE_DICT FOCUSED_PEER_KEY DIALOGUE_DICT
        FOCUSED_PEER_KEY).trans (Pddb.value_remove _ _ _)
      exact ⟨_, h.main ⟨_, _, rfl, hnext _, hrest⟩ h.names rfl
        ⟨hstage, hactive, hvalue⟩⟩
    | @store dev next hnext =>
      obtain ⟨hstage, hactive, hnone⟩ := h.placed
      have hhome : Home
          (App.answer (.pddb (.write DIALOGUE_DICT FOCUSED_PEER_KEY (utf8 (peerJson ⟨u, dev⟩)))) P.state).2
          u := by
        refine ⟨?_, hactive⟩
        have hput : (P.state.pddb.put DIALOGUE_DICT FOCUSED_PEER_KEY (utf8 (peerJson ⟨u, dev⟩))).value DIALOGUE_DICT
            FOCUSED_PEER_KEY = some (utf8 (peerJson ⟨u, dev⟩)) := by
          rw [Pddb.value_put, hnone, Option.getD_none, Pddb.overlay_nil]
        have htext := congrArg (fun v => Option.bind v from_utf8) hput
        simp only [Option.bind_some, from_utf8_utf8] at htext
        exact focused_of_pointer (a := ⟨u, dev⟩) (h.names u List.mem_cons_self) htext
      refine ⟨.after, h.main ⟨_, _, rfl, hnext _, hrest⟩ h.names rfl ?_⟩
      cases stage with
      | before => exact ⟨u, hhome⟩
      | after => exact ⟨u, hhome⟩
      | _ => exact absurd trivial hstage

theorem Settled.main_finish (h : Settled before all P ms us stage open_stage) {v : Except Panic Unit}
    {rest : List (Program appSignature (Except Panic Unit))} (hw : (P.workers .main).todo = .ret v :: rest) :
    ∃ us', Settled before all (P.update .main P.state ⟨(P.workers .main).done ++ [v], rest⟩) ms us' stage .before := by
  have hopenings := h.openings
  rw [hw] at hopenings
  cases us with
  | nil => cases hopenings.2
  | cons u us =>
    obtain ⟨p, rest', hp, hopening, hrest⟩ := hopenings
    obtain ⟨rfl, rfl⟩ := List.cons.inj hp
    cases hopening with
    | done v => exact ⟨us, h.main (.start hrest) (fun u hu => h.names u (List.mem_cons_of_mem _ hu)) rfl h.placed⟩

theorem Settled.step (h : Settled before all P ms us stage open_stage) (hstep : ApartStep P Q) :
    ∃ ms' us' stage' open_stage', Settled before all Q ms' us' stage' open_stage' := by
  obtain ⟨hmove, hapart⟩ := hstep
  cases hmove with
  | request i c next rest hw =>
    cases i with
    | receive =>
      rw [Pool.workers_update_self, Pool.workers_update_ne P (show Thread.main ≠ Thread.receive by decide)] at hapart
      obtain ⟨stage', hQ⟩ := h.receive_request hw hapart
      exact ⟨_, _, stage', _, hQ⟩
    | main =>
      rw [Pool.workers_update_self, Pool.workers_update_ne P (show Thread.receive ≠ Thread.main by decide)] at hapart
      obtain ⟨open_stage', hQ⟩ := h.main_request hw hapart
      exact ⟨_, _, _, open_stage', hQ⟩
  | finish i v rest hw =>
    cases i with
    | receive =>
      obtain ⟨ms', hQ⟩ := h.receive_finish hw
      exact ⟨ms', _, _, _, hQ⟩
    | main =>
      obtain ⟨us', hQ⟩ := h.main_finish hw
      exact ⟨_, us', _, _, hQ⟩

theorem Settled.finished (h : Settled before all P ms us stage open_stage) (hdone : ∀ i, (P.workers i).todo = []) :
    P.state.chat.posts = before ++ all ∧ ∃ u, P.state.pddb.focused = some u ∧ P.state.chat.active = dialogueOf u := by
  have hdeliveries := h.deliveries
  have hopenings := h.openings
  rw [hdone] at hdeliveries hopenings
  cases ms with
  | cons m ms =>
    obtain ⟨p, rest, hp, -⟩ := hdeliveries
    cases hp
  | nil =>
    cases us with
    | cons u us =>
      obtain ⟨p, rest, hp, -⟩ := hopenings
      cases hp
    | nil =>
      obtain ⟨rfl, -⟩ := hdeliveries
      obtain ⟨rfl, -⟩ := hopenings
      obtain ⟨made, hmade, hall⟩ := h.posts
      have hall' : made ++ [] = all := hall
      rw [List.append_nil] at hall'
      exact ⟨hall' ▸ hmade, h.placed⟩

/-- In every run in which no delivery and no `open_peer` are under way at once, each message is posted to its own
peer's dialogue, and the focused peer's dialogue is on screen in the end. -/
theorem messages_routed (s : App) (deliveries : List Delivery) (opened : List String) {u₀ : String}
    (hfocused : s.pddb.focused = some u₀) (hactive : s.chat.active = dialogueOf u₀)
    (hnames : ∀ u ∈ opened, '"' ∉ u.toList) {P : Conversations}
    (hrun : Relation.ReflTransGen ApartStep (conversations s deliveries opened) P) : Routed s deliveries P := by
  have hjobs : List.Forall₂ (fun m p => Handles m .before p) (deliveries.map Delivery.message)
      (deliveries.map Delivery.job) := by
    rw [List.forall₂_map_left_iff, List.forall₂_map_right_iff]
    exact List.forall₂_same.mpr (fun d _ => handles_job d)
  have hopens : List.Forall₂ (fun u p => OpeningPeer u .before p) opened (opened.map openJob) := by
    rw [List.forall₂_map_right_iff]
    exact List.forall₂_same.mpr (fun u _ => openingPeer_job u)
  have hmessages : (deliveries.map Delivery.message).filterMap id = deliveries.filterMap Delivery.message := by
    rw [List.filterMap_map, Function.id_comp]
  have hstart : Settled s.chat.posts ((deliveries.filterMap Delivery.message).map InboundMessage.post)
      (conversations s deliveries opened) (deliveries.map Delivery.message) opened .before .before := by
    refine ⟨.start hjobs, .start hopens, hnames, ⟨[], (List.append_nil _).symm, ?_⟩, ⟨u₀, hfocused, hactive⟩⟩
    rw [← hmessages]
    rfl
  have hsettled : ∃ ms us stage open_stage, Settled s.chat.posts
      ((deliveries.filterMap Delivery.message).map InboundMessage.post) P ms us stage open_stage := by
    induction hrun with
    | refl => exact ⟨_, _, _, _, hstart⟩
    | tail _ hstep ih =>
      obtain ⟨ms, us, stage, open_stage, h⟩ := ih
      exact h.step hstep
  obtain ⟨ms, us, stage, open_stage, h⟩ := hsettled
  obtain ⟨made, hmade, hall⟩ := h.posts
  exact ⟨⟨made, hmade, hall ▸ List.prefix_append _ _⟩, h.finished⟩

end Runs

section Examples

def daveUuid : String := "7d2e9b14-0c35-4f8a-a6e1-95b3c8f2d070"

def carolWhileDave : Conversations :=
  conversations ⟨Pddb.put ∅ DIALOGUE_DICT FOCUSED_PEER_KEY (utf8 (peerJson ⟨bobUuid, ⟨1, DeviceId.one_valid⟩⟩)),
    ⟨dialogueOf bobUuid, []⟩⟩ [⟨dataContent, carolAddress, 0⟩] [daveUuid]

def overtaken : List Thread :=
  List.replicate 6 .receive ++ (.main :: (List.replicate 7 .receive ++ List.replicate 5 .main))

theorem carol_message : ([⟨dataContent, carolAddress, 0⟩].filterMap Delivery.message).map
    (fun m => m.post.dialogue) = [dialogueOf carolAddress.name] := by
  decide +kernel

/-- Carol's message is posted to Dave's dialogue. -/
theorem message_misrouted : ¬∀ P, Relation.ReflTransGen (Pool.Step App.handler) carolWhileDave P →
    Routed carolWhileDave.state [⟨dataContent, carolAddress, 0⟩] P := by
  intro h
  obtain ⟨⟨made, hmade, hprefix⟩, -⟩ :=
    h _ (Pool.reachable_schedule App.handler carolWhileDave overtaken)
  have hposted : (carolWhileDave.schedule App.handler overtaken).state.chat.posts.map Post.dialogue =
      [dialogueOf daveUuid] := by
    decide +kernel
  rw [hmade] at hposted
  have hdialogues := hprefix.map Post.dialogue
  rw [List.map_map] at hdialogues
  have hmade' : made.map Post.dialogue = [dialogueOf daveUuid] := hposted
  rw [hmade'] at hdialogues
  have hwrong : [dialogueOf daveUuid] <+: [dialogueOf carolAddress.name] := carol_message ▸ hdialogues
  exact absurd hwrong (by decide)

def startsRouting : List (Program appSignature (Except Panic Unit)) → Bool
  | .ask (.chat (.DialogueSet _ _)) _ :: _ => true
  | _ => false

def oneAtATime (P : Conversations) : Bool :=
  (P.workers .receive).todo.isEmpty || startsRouting (P.workers .main).todo

theorem apart_of_oneAtATime {P : Conversations} (hP : oneAtATime P = true) :
    ¬(Routing (P.workers .receive) ∧ Opening (P.workers .main)) := by
  rintro ⟨⟨p, rest, hreceive, -⟩, q, rest', hmain, honly, -⟩
  rw [oneAtATime, hreceive, hmain] at hP
  cases q with
  | ret v => cases hP
  | ask c next =>
    cases c with
    | pddb c => cases hP
    | chat op =>
      cases honly with
      | ask _ _ hroutes _ =>
        cases op with
        | DialogueSet dict key => exact hroutes trivial
        | PostAdd author ts text => cases hP
        | Redraw => cases hP

theorem message_routed :
    let P := carolWhileDave.schedule App.handler (List.replicate 13 .receive ++ List.replicate 6 .main)
    P.state.chat.posts.map Post.dialogue = [dialogueOf carolAddress.name] ∧
      Routed carolWhileDave.state [⟨dataContent, carolAddress, 0⟩] P := by
  have hrun : Relation.ReflTransGen ApartStep carolWhileDave
      (carolWhileDave.schedule App.handler (List.replicate 13 .receive ++ List.replicate 6 .main)) :=
    carolWhileDave.reachable_passes (fun _ => apart_of_oneAtATime) _ (by decide +kernel)
  have hfocused : carolWhileDave.state.pddb.focused = some bobUuid := by
    decide +kernel
  exact ⟨by decide +kernel, messages_routed carolWhileDave.state _ [daveUuid] hfocused rfl (by decide) hrun⟩

end Examples

end XousSignalClient
