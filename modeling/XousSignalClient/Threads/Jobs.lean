import XousSignalClient.Interaction.Interleaving
import XousSignalClient.Libsignal
import XousSignalClient.MainWs.Dispatch
import XousSignalClient.Outgoing.Encrypt

namespace XousSignalClient

open Encoding Interaction Fallible

section Cell

variable (a : ProtocolAddress)

theorem quiet_of_leaves {c : PddbCall} (hc : c.Leaves SESSION_DICT a.key) :
    c ≠ .delete SESSION_DICT a.key ∧ ∀ buf, c ≠ .write SESSION_DICT a.key buf := by
  constructor
  · rintro rfl
    exact hc rfl
  · rintro buf rfl
    exact hc rfl

theorem leaves_of_quiet {c : PddbCall} (hdelete : c ≠ .delete SESSION_DICT a.key)
    (hwrite : ∀ buf, c ≠ .write SESSION_DICT a.key buf) : c.Leaves SESSION_DICT a.key := by
  cases c with
  | delete d k =>
    intro h
    obtain ⟨rfl, rfl⟩ := Prod.mk.inj h
    exact hdelete rfl
  | write d k buf =>
    intro h
    obtain ⟨rfl, rfl⟩ := Prod.mk.inj h
    exact hwrite buf rfl
  | _ => trivial

def sessionCell : Cell App.handler Bytes where
  value := fun s => s.pddb.session a
  Clears := fun c => c = .pddb (.delete SESSION_DICT a.key)
  Stores := fun c buf => c = .pddb (.write SESSION_DICT a.key buf)
  value_clear := by
    rintro c s rfl
    exact (Pddb.answer_delete s.pddb _ _ _ _).trans (Pddb.value_remove s.pddb _ _)
  value_store := by
    rintro c buf s rfl hnone
    refine (Pddb.value_put s.pddb SESSION_DICT a.key buf).trans ?_
    have habsent : s.pddb.value SESSION_DICT a.key = none := hnone
    rw [habsent, Option.getD_none, Pddb.overlay_nil]
  value_other := by
    intro c s hclear hstore
    cases c with
    | chat op => rfl
    | pddb c =>
      apply Pddb.value_answer_of_leaves
      exact leaves_of_quiet a (fun h => hclear (congrArg AppCall.pddb h))
        (fun buf h => hstore buf (congrArg AppCall.pddb h))

theorem not_changes_pddb {c : PddbCall} (hc : c.Leaves SESSION_DICT a.key) :
    ¬(sessionCell a).Changes (.pddb c) := by
  obtain ⟨hdelete, hwrite⟩ := quiet_of_leaves a hc
  rintro (h | ⟨buf, h⟩)
  · exact hdelete (AppCall.pddb.inj h)
  · exact hwrite buf (AppCall.pddb.inj h)

theorem not_changes_chat (op : ChatOp) : ¬(sessionCell a).Changes (.chat op) := by
  rintro (h | ⟨buf, h⟩)
  · cases h
  · cases h

def Quiet {α : Type} (p : Program appSignature α) : Prop := p.Only (fun c => ¬(sessionCell a).Changes c)

variable {a}

theorem quiet_onStore {α : Type} {p : PddbProgram α} (hp : p.Only (PddbCall.Leaves SESSION_DICT a.key)) :
    Quiet a (onStore p) := by
  induction hp with
  | ret v => exact .ret v
  | ask c next hc _ ih => exact .ask (S := appSignature) (.pddb c) _ (not_changes_pddb a hc) ih

theorem quiet_toChat (op : ChatOp) : Quiet a (toChat op) :=
  Program.Only.perform (S := appSignature) (.chat op) (not_changes_chat a op)

end Cell

section Update

variable {a : ProtocolAddress} {F : SessionFormat} {α β Ω : Type}

def loaded (F : SessionFormat) : Except IoError Bytes → Except SignalProtocolError (Option F.SessionRecord)
  | .ok buf => (F.deserialize buf).map some
  | .error (.notFound _) => .ok none
  | .error (.other t) => .error (io_err_to_signal (.other t) "read failed")

theorem load_session_bind (k : Except SignalProtocolError (Option F.SessionRecord) → Program appSignature β) :
    onStore (PddbSessionStore.load_session F a) >>= k =
      .ask (S := appSignature) (.pddb (.read SESSION_DICT a.key)) (fun r => k (loaded F r)) := by
  refine congrArg (Program.ask (S := appSignature) (.pddb (.read SESSION_DICT a.key))) (funext fun r => ?_)
  cases r with
  | ok buf => rfl
  | error e => cases e <;> rfl

theorem store_session_bind {record : F.SessionRecord} {buf : Bytes} (hbuf : F.serialize record = .ok buf)
    (k : Except SignalProtocolError Unit → Program appSignature β) :
    onStore (PddbSessionStore.store_session F a record) >>= k =
      .ask (S := appSignature) (.pddb (.delete SESSION_DICT a.key)) (fun _ =>
        .ask (S := appSignature) (.pddb (.write SESSION_DICT a.key buf)) (fun w =>
          match w with
          | .error e => k (.error (io_err_to_signal e "write failed"))
          | .ok () => .ask (S := appSignature) (.pddb .sync) (fun _ => k (.ok ())))) := by
  unfold PddbSessionStore.store_session
  rw [hbuf]
  refine congrArg (Program.ask (S := appSignature) (.pddb (.delete SESSION_DICT a.key))) (funext fun _ => ?_)
  refine congrArg (Program.ask (S := appSignature) (.pddb (.write SESSION_DICT a.key buf))) (funext fun w => ?_)
  cases w with
  | error e => rfl
  | ok u => rfl

variable {Commits : Ω → Bytes → Bytes → Prop} {output : β → Option Ω}

theorem job_store {record : F.SessionRecord} {buf buf' : Bytes} {out : Ω}
    {k : Except SignalProtocolError Unit → Program appSignature β} (hbuf : F.serialize record = .ok buf')
    (hcommit : Commits out buf buf') (hk : Job (sessionCell a) Commits output (.after out) (k (.ok ()))) :
    Job (sessionCell a) Commits output (.holding buf)
      (onStore (PddbSessionStore.store_session F a record) >>= k) := by
  rw [store_session_bind hbuf]
  apply Job.clear rfl
  intro _
  apply Job.store rfl hcommit
  intro _
  apply Job.after (not_changes_pddb a (c := .sync) trivial)
  intro _
  exact hk

theorem job_update {advance : F.SessionRecord → Except SignalProtocolError (α × F.SessionRecord)}
    {k : Except SignalProtocolError α → Program appSignature β}
    (herr : ∀ e, Job (sessionCell a) Commits output .before (k (.error e)))
    (hok : ∀ buf record out record' buf', F.deserialize buf = .ok record → advance record = .ok (out, record') →
      F.serialize record' = .ok buf' →
        ∃ o, Commits o buf buf' ∧ Job (sessionCell a) Commits output (.after o) (k (.ok out))) :
    Job (sessionCell a) Commits output .before (onStore (updateSession F a advance) >>= k) := by
  rw [updateSession, onStore_bind, Program.bind_assoc, load_session_bind]
  apply Job.load (not_changes_pddb a (c := .read SESSION_DICT a.key) trivial)
  intro s
  have hread : (App.handler.answer (.pddb (.read SESSION_DICT a.key)) s).1 =
      (Pddb.answer (.read SESSION_DICT a.key) s.pddb).1 :=
    rfl
  rw [hread, Pddb.answer]
  cases hsession : s.pddb.value SESSION_DICT a.key with
  | none => exact .inl (herr _)
  | some buf =>
    simp only [loaded]
    cases hrecord : F.deserialize buf with
    | error e => exact .inl (herr e)
    | ok record =>
      simp only [Except.map]
      cases hadvance : advance record with
      | error e => exact .inl (herr e)
      | ok next =>
        obtain ⟨out, record'⟩ := next
        simp only [onStore_bind, Program.bind_assoc]
        cases hbuf : F.serialize record' with
        | error e =>
          left
          unfold PddbSessionStore.store_session
          rw [hbuf]
          exact herr e
        | ok buf' =>
          obtain ⟨o, hcommit, hafter⟩ := hok buf record out record' buf' hrecord hadvance hbuf
          exact .inr ⟨buf, hsession, job_store hbuf hcommit hafter⟩

end Update

/-- libsignal on session records: each encryption uses up one position of the sending chain, decryption leaves it
where it is, and unsealing changes no store. -/
structure Ratchet (C : Crates) (L : MainWs.InboundCrates) where
  position : C.SessionRecord → ℕ
  encrypt : Bytes → C.SessionRecord → Except SignalProtocolError (CiphertextMessage × C.SessionRecord)
  decrypt_prekey : L.PreKeySignalMessage → C.SessionRecord → Except SignalProtocolError (Bytes × C.SessionRecord)
  decrypt_signal : L.SignalMessage → C.SessionRecord → Except SignalProtocolError (Bytes × C.SessionRecord)
  unsealed : Bytes → PddbProgram (Except SignalProtocolError L.Usmc)
  deserialize_serialize : ∀ {r buf}, C.serialize r = .ok buf → C.deserialize buf = .ok r
  encrypt_position : ∀ {ptext r ct r'}, encrypt ptext r = .ok (ct, r') → position r' = position r + 1
  encrypt_kind : ∀ {ptext r t r'}, encrypt ptext r ≠ .ok (.Other t, r')
  decrypt_prekey_position : ∀ {msg r p r'}, decrypt_prekey msg r = .ok (p, r') → position r' = position r
  decrypt_signal_position : ∀ {msg r p r'}, decrypt_signal msg r = .ok (p, r') → position r' = position r
  unsealed_reads : ∀ ciphertext dict key, (unsealed ciphertext).Only (PddbCall.Leaves dict key)

inductive Thread where
  | main
  | receive
  deriving DecidableEq

inductive JobResult where
  | sent (recipient : ProtocolAddress) (content : Bytes) (result : Except OutgoingError EncryptedMessage)
  | received (opened : Option MainWs.Opened)

namespace Ratchet

variable {C : Crates} {L : MainWs.InboundCrates} (R : Ratchet C L)

def send (padded_content : Bytes) (timestamp_ms : UInt64) (recipient_addr local_addr : ProtocolAddress) :
    Program appSignature JobResult := do
  let result ← (encrypt_padded_for_recipient C (fun a => onStore (PddbSessionStore.load_session C.toSessionFormat a))
    (fun ptext remote _ => onStore (updateSession C.toSessionFormat remote (R.encrypt ptext)))
    padded_content timestamp_ms recipient_addr local_addr).run
  pure (.sent recipient_addr padded_content result)

def perform : (c : MainWs.DispatchCall L) → Program appSignature c.Reply
  | .sealed_sender_decrypt_to_usmc ciphertext => onStore (R.unsealed ciphertext)
  | .message_decrypt_prekey msg remote _ => onStore (updateSession C.toSessionFormat remote (R.decrypt_prekey msg))
  | .message_decrypt_signal msg remote => onStore (updateSession C.toSessionFormat remote (R.decrypt_signal msg))
  | .deliver_data_message dm remote ts => (MainWs.deliver_data_message dm remote ts).run
  | .deliver_sync_message sync ts => (MainWs.deliver_sync_message sync ts).run
  | .set_current_recipient remote => onStore (set_current_recipient remote)
  | .redraw => toChat .Redraw

def lower {α : Type} (x : MainWs.DispatchM L α) : Program appSignature (Except Panic α) :=
  Program.interp (S := MainWs.dispatchSignature L) R.perform x.run

def deliverOpened : Option MainWs.Opened → MainWs.DispatchM L Unit
  | none => pure ()
  | some opened =>
    MainWs.deliverContent (fun dm a ts => MainWs.orPanic (MainWs.DispatchCall.deliver_data_message dm a ts).ask)
      (fun sync ts => MainWs.orPanic (MainWs.DispatchCall.deliver_sync_message sync ts).ask)
      (fun a => (MainWs.DispatchCall.set_current_recipient a).ask) MainWs.DispatchCall.redraw.ask
      opened.plaintext opened.remote_addr opened.ts

theorem dispatch_envelope_eq (body : Bytes) (local_addr : ProtocolAddress) :
    (MainWs.dispatch_envelope body local_addr : MainWs.DispatchM L Unit) =
      MainWs.openEnvelope body local_addr >>= deliverOpened := by
  unfold MainWs.dispatch_envelope
  congr 1

def finish : Except Panic (Option MainWs.Opened) → Program appSignature JobResult
  | .error _ => pure (.received none)
  | .ok opened => do
    let _ ← R.lower (deliverOpened opened)
    pure (.received opened)

def dispatch (body : Bytes) (local_addr : ProtocolAddress) : Program appSignature JobResult :=
  R.lower (MainWs.openEnvelope body local_addr) >>= R.finish

theorem lower_bind {α β : Type} (x : MainWs.DispatchM L α) (f : α → MainWs.DispatchM L β) :
    R.lower (x >>= f) = R.lower x >>= fun r => match r with
      | .ok v => R.lower (f v)
      | .error e => pure (.error e) := by
  refine (Program.interp_bind (S := MainWs.dispatchSignature L) R.perform x.run _).trans ?_
  refine congrArg (fun k => R.lower x >>= k) (funext fun r => ?_)
  cases r <;> rfl

theorem dispatch_requests (body : Bytes) (local_addr : ProtocolAddress) :
    (R.dispatch body local_addr >>= fun _ => pure ()) =
      R.lower (MainWs.dispatch_envelope body local_addr) >>= fun _ => pure () := by
  rw [dispatch_envelope_eq, lower_bind, dispatch, Program.bind_assoc, Program.bind_assoc]
  congr 1
  funext r
  cases r with
  | error e => rfl
  | ok opened =>
    rw [finish, Program.bind_assoc]
    rfl

section Quiet

variable {a : ProtocolAddress}

theorem session_key_ne {b : ProtocolAddress} (hb : b ≠ a) : (SESSION_DICT, a.key) ≠ (SESSION_DICT, b.key) :=
  fun h => hb (key_injective (Prod.mk.inj h).2).symm

theorem quiet_bindM {α β : Type} {x : AppM α} {f : α → AppM β} (hx : Quiet a x.run) (hf : ∀ v, Quiet a (f v).run) :
    Quiet a (x >>= f).run := only_bind hx hf

theorem quiet_post_to_peer_dialogue (peer author : String) (ts : UInt64) (body : String) (focused : Option String) :
    Quiet a (MainWs.post_to_peer_dialogue peer author ts body focused) := by
  unfold MainWs.post_to_peer_dialogue
  by_cases hf : focused = some peer
  · rw [if_pos hf]
    exact quiet_toChat _
  · rw [if_neg hf]
    apply (quiet_toChat _).bind
    intro _
    apply (quiet_toChat _).bind
    intro _
    cases focused with
    | none => exact .ret _
    | some f => exact quiet_toChat _

theorem quiet_focused : Quiet a (onStore focused_peer_uuid) := by
  apply quiet_onStore
  apply Program.Only.bind
  · apply (Program.Only.perform (S := pddbSignature) (.read _ _) trivial).bind
    intro r
    cases r <;> exact .ret _
  · intro raw
    cases raw <;> exact .ret _

theorem quiet_recorded {α : Type} {x : Fallible pddbSignature Panic α}
    (hx : x.run.Only (PddbCall.Touches Peers.PEERS_DICT)) : Quiet a (onStoreM x).run :=
  quiet_onStore (hx.mono (fun _ hc => hc.leaves (by decide) a.key))

theorem quiet_deliver_data_message (dm : MainWs.DataMessageProto) (remote : ProtocolAddress) (ts : UInt64) :
    Quiet a (MainWs.deliver_data_message dm remote ts).run := by
  unfold MainWs.deliver_data_message
  by_cases hbody : (dm.body.getD "").isEmpty
  · simp only [hbody, if_true]
    exact .ret _
  · simp only [hbody]
    apply quiet_bindM (only_lift quiet_focused)
    intro focused
    apply quiet_bindM (quiet_recorded (Peers.only_record_inbound _ _ _ _))
    intro _
    apply quiet_bindM (only_lift (quiet_post_to_peer_dialogue _ _ _ _ _))
    exact fun _ => .ret _

theorem quiet_deliverSent (dest : String) (ts : UInt64) (body : String) :
    Quiet a (MainWs.deliverSent dest ts body).run := by
  unfold MainWs.deliverSent
  apply quiet_bindM (x := Fallible.ofExcept _) (.ret _)
  intro author
  apply quiet_bindM (only_lift quiet_focused)
  intro focused
  apply quiet_bindM (quiet_recorded (Peers.only_record_outbound _ _ _))
  intro _
  apply quiet_bindM (only_lift (quiet_post_to_peer_dialogue _ _ _ _ _))
  exact fun _ => .ret _

theorem quiet_deliver_sync_message (sync : MainWs.SyncMessageProto) (ts : UInt64) :
    Quiet a (MainWs.deliver_sync_message sync ts).run := by
  unfold MainWs.deliver_sync_message
  cases sync.sent with
  | none => exact .ret _
  | some sent =>
    obtain ⟨destination_service_id, timestamp, message⟩ := sent
    cases message with
    | none => exact .ret _
    | some dm =>
      simp only
      by_cases hbody : (dm.body.getD "").isEmpty
      · rw [if_pos hbody]
        exact .ret _
      · rw [if_neg hbody]
        by_cases hdest : (destination_service_id.getD "").isEmpty
        · rw [if_pos hdest]
          exact .ret _
        · rw [if_neg hdest]
          exact quiet_deliverSent _ _ _

theorem quiet_set_current_recipient (remote : ProtocolAddress) : Quiet a (onStore (set_current_recipient remote)) := by
  have hne : (SESSION_DICT, a.key) ≠ (DIALOGUE_DICT, DEFAULT_PEER_KEY) := fun h => absurd (Prod.mk.inj h).1 (by decide)
  apply quiet_onStore
  apply (Program.Only.perform (S := pddbSignature) (.delete DIALOGUE_DICT DEFAULT_PEER_KEY) hne).bind
  intro _
  apply (Program.Only.perform (S := pddbSignature) (.write DIALOGUE_DICT DEFAULT_PEER_KEY _) hne).bind
  intro w
  cases w with
  | error e => exact .ret _
  | ok u => exact (Program.Only.perform (S := pddbSignature) .sync trivial).bind (fun _ => .ret _)

def Delivers : MainWs.DispatchCall L → Prop
  | .deliver_data_message _ _ _ => True
  | .deliver_sync_message _ _ => True
  | .set_current_recipient _ => True
  | .redraw => True
  | _ => False

theorem quiet_perform {c : MainWs.DispatchCall L} (hc : Delivers c) : Quiet a (R.perform c) := by
  cases c with
  | deliver_data_message dm remote ts => exact quiet_deliver_data_message dm remote ts
  | deliver_sync_message sync ts => exact quiet_deliver_sync_message sync ts
  | set_current_recipient remote => exact quiet_set_current_recipient remote
  | redraw => exact quiet_toChat .Redraw
  | _ => cases hc

theorem quiet_lower {α : Type} {x : MainWs.DispatchM L α} (hx : x.run.Only Delivers) : Quiet a (R.lower x) := by
  unfold lower
  generalize x.run = p at hx
  induction hx with
  | ret v => exact .ret v
  | ask c next hc _ ih => exact (R.quiet_perform hc).bind ih

theorem only_deliverOpened (opened : Option MainWs.Opened) :
    (deliverOpened opened : MainWs.DispatchM L Unit).run.Only Delivers := by
  cases opened with
  | none => exact .ret _
  | some opened => exact MainWs.only_deliverContent _ _ _ (fun _ => trivial) (fun _ => trivial) trivial trivial

end Quiet

end Ratchet

inductive SessionUpdate where
  | encrypted (content : Bytes) (message : EncryptedMessage)
  | decrypted (opened : MainWs.Opened)
  deriving DecidableEq

def JobResult.update (a : ProtocolAddress) : JobResult → Option SessionUpdate
  | .sent recipient content (.ok message) => if recipient = a then some (.encrypted content message) else none
  | .received (some opened) => if opened.remote_addr = a then some (.decrypted opened) else none
  | _ => none

namespace Ratchet

variable {C : Crates} {L : MainWs.InboundCrates} (R : Ratchet C L)

def Advances : SessionUpdate → C.SessionRecord → C.SessionRecord → Prop
  | .encrypted content message, record, record' => ∃ ct ty, R.encrypt content record = .ok (ct, record') ∧
      ciphertext_payload ct = .ok (message.ciphertext_bytes, ty)
  | .decrypted opened, record, record' => (∃ msg, R.decrypt_prekey msg record = .ok (opened.plaintext, record')) ∨
      ∃ msg, R.decrypt_signal msg record = .ok (opened.plaintext, record')

def Commits (u : SessionUpdate) (buf buf' : Bytes) : Prop :=
  ∃ record record', C.deserialize buf = .ok record ∧ R.Advances u record record' ∧ C.serialize record' = .ok buf'

section Jobs

variable (a : ProtocolAddress)

theorem payload_of_encrypt {content : Bytes} {record record' : C.SessionRecord} {ct : CiphertextMessage}
    (h : R.encrypt content record = .ok (ct, record')) : ∃ bytes ty, ciphertext_payload ct = .ok (bytes, ty) := by
  cases ct with
  | SignalMessage s => exact ⟨s, _, rfl⟩
  | PreKeySignalMessage s => exact ⟨s, _, rfl⟩
  | Other t => exact absurd h R.encrypt_kind

theorem job_send (padded_content : Bytes) (timestamp_ms : UInt64) (recipient_addr local_addr : ProtocolAddress) :
    Job (sessionCell a) R.Commits (JobResult.update a) .before
      (R.send padded_content timestamp_ms recipient_addr local_addr) := by
  have hfailed : ∀ e, Job (sessionCell a) R.Commits (JobResult.update a) .before
      (.ret (.sent recipient_addr padded_content (.error e))) := fun _ => .failed rfl
  unfold send encrypt_padded_for_recipient
  rw [ExceptT.run_bind_lift, Program.bind_assoc]
  apply Job.before_bind (quiet_onStore (only_load_session C.toSessionFormat recipient_addr _ _))
  intro found
  cases found with
  | error e => exact hfailed _
  | ok found =>
    cases found with
    | none => exact hfailed _
    | some record =>
      simp only
      cases C.remote_registration_id record with
      | error e => exact hfailed _
      | ok dest_reg_id =>
        simp only
        rw [ExceptT.run_bind_lift, Program.bind_assoc]
        by_cases ha : recipient_addr = a
        · subst ha
          apply job_update
          · exact fun e => hfailed _
          · intro buf record out record' buf' hrecord hadvance hbuf
            obtain ⟨bytes, ty, hpayload⟩ := R.payload_of_encrypt hadvance
            simp only [hpayload]
            refine ⟨.encrypted padded_content ⟨bytes, ty, recipient_addr.device_id.val, dest_reg_id, timestamp_ms⟩,
              ⟨record, record', hrecord, ⟨out, ty, hadvance, hpayload⟩, hbuf⟩, ?_⟩
            exact .completed (if_pos rfl)
        · apply Job.before_bind (quiet_onStore (only_updateSession (session_key_ne ha) _))
          intro encrypted
          cases encrypted with
          | error e => exact hfailed _
          | ok ct =>
            simp only
            cases ciphertext_payload ct with
            | error e => exact hfailed _
            | ok payload => exact .failed (if_neg ha)

theorem job_finish_none : Job (sessionCell a) R.Commits (JobResult.update a) .before (R.finish (.ok none)) :=
  .failed rfl

theorem job_finish_other {opened : MainWs.Opened} (ha : opened.remote_addr ≠ a) :
    Job (sessionCell a) R.Commits (JobResult.update a) .before (R.finish (.ok (some opened))) :=
  Job.before_bind (R.quiet_lower (only_deliverOpened _)) (fun _ => .failed (if_neg ha))

theorem job_finish {opened : MainWs.Opened} (ha : opened.remote_addr = a) :
    Job (sessionCell a) R.Commits (JobResult.update a) (.after (.decrypted opened)) (R.finish (.ok (some opened))) :=
  Job.after_bind (R.quiet_lower (only_deliverOpened _)) (fun _ => .completed (if_pos ha))

theorem job_decrypt {remote : ProtocolAddress} {ts : UInt64}
    {advance : C.SessionRecord → Except SignalProtocolError (Bytes × C.SessionRecord)}
    (hadvances : ∀ {record p record'}, advance record = .ok (p, record') →
      R.Advances (.decrypted ⟨p, remote, ts⟩) record record') :
    Job (sessionCell a) R.Commits (JobResult.update a) .before
      (onStore (updateSession C.toSessionFormat remote advance) >>= fun decrypted =>
        R.finish (.ok (decrypted.toOption.map (fun p => ⟨p, remote, ts⟩)))) := by
  by_cases ha : remote = a
  · subst ha
    apply job_update
    · exact fun e => R.job_finish_none remote
    · intro buf record p record' buf' hrecord hadvance hbuf
      exact ⟨.decrypted ⟨p, remote, ts⟩, ⟨record, record', hrecord, hadvances hadvance, hbuf⟩,
        R.job_finish remote rfl⟩
  · apply Job.before_bind (quiet_onStore (only_updateSession (session_key_ne ha) _))
    intro decrypted
    cases decrypted with
    | error e => exact R.job_finish_none a
    | ok p => exact R.job_finish_other a ha

theorem lower_pure {α : Type} (v : α) : R.lower (pure v) = pure (.ok v) := rfl

theorem lower_ask (c : MainWs.DispatchCall L) : R.lower c.ask = R.perform c >>= fun r => pure (.ok r) := rfl

theorem lower_ask_bind {β : Type} (c : MainWs.DispatchCall L) (f : c.Reply → MainWs.DispatchM L β) :
    R.lower (c.ask >>= f) = R.perform c >>= fun r => R.lower (f r) := by
  rw [lower_bind, lower_ask, Program.bind_assoc]
  rfl

theorem job_decryptPreKey (content : Bytes) (remote local_addr : ProtocolAddress) (ts : UInt64) :
    Job (sessionCell a) R.Commits (JobResult.update a) .before
      (R.lower (do
        let plaintext ← MainWs.decryptPreKey content remote local_addr
        pure (plaintext.map (fun p => ⟨p, remote, ts⟩))) >>= R.finish) := by
  unfold MainWs.decryptPreKey
  cases L.prekey_signal_message content with
  | error e => exact R.job_finish_none a
  | ok msg =>
    simp only [lower_bind, lower_ask, lower_pure, Program.bind_assoc, Program.pure_eq, Program.ret_bind]
    exact R.job_decrypt a (fun h => .inl ⟨msg, h⟩)

theorem job_decryptSignal (content : Bytes) (remote : ProtocolAddress) (ts : UInt64) :
    Job (sessionCell a) R.Commits (JobResult.update a) .before
      (R.lower (do
        let plaintext ← MainWs.decryptSignal content remote
        pure (plaintext.map (fun p => ⟨p, remote, ts⟩))) >>= R.finish) := by
  unfold MainWs.decryptSignal
  cases L.signal_message content with
  | error e => exact R.job_finish_none a
  | ok msg =>
    simp only [lower_bind, lower_ask, lower_pure, Program.bind_assoc, Program.pure_eq, Program.ret_bind]
    exact R.job_decrypt a (fun h => .inr ⟨msg, h⟩)

def openUnsealed (ts : UInt64) (local_addr : ProtocolAddress) :
    Except SignalProtocolError L.Usmc → MainWs.DispatchM L (Option MainWs.Opened)
  | .error _ => pure none
  | .ok usmc =>
    match MainWs.certifiedSender usmc ts with
    | none => pure none
    | some remote_addr => do
      let plaintext ← MainWs.decryptSealed usmc remote_addr local_addr
      pure (plaintext.map (fun p => ⟨p, remote_addr, ts⟩))

theorem job_openSealed (content : Bytes) (ts : UInt64) (local_addr : ProtocolAddress) :
    Job (sessionCell a) R.Commits (JobResult.update a) .before
      (R.lower (MainWs.openSealed content ts local_addr) >>= R.finish) := by
  have hask : R.lower (MainWs.openSealed content ts local_addr) =
      onStore (R.unsealed content) >>= fun unsealed => R.lower (openUnsealed ts local_addr unsealed) :=
    R.lower_ask_bind (.sealed_sender_decrypt_to_usmc content) _
  rw [hask, Program.bind_assoc]
  apply Job.before_bind (quiet_onStore (R.unsealed_reads content _ _))
  intro unsealed
  cases unsealed with
  | error e => exact R.job_finish_none a
  | ok usmc =>
    simp only [openUnsealed]
    cases MainWs.certifiedSender usmc ts with
    | none => exact R.job_finish_none a
    | some remote =>
      simp only [MainWs.decryptSealed]
      cases L.msg_type usmc with
      | error e => exact R.job_finish_none a
      | ok kind =>
        cases kind with
        | PreKey => exact R.job_decryptPreKey a _ remote local_addr ts
        | Whisper => exact R.job_decryptSignal a _ remote ts
        | SenderKey => exact R.job_finish_none a
        | Plaintext => exact R.job_finish_none a

theorem job_dispatch (body : Bytes) (local_addr : ProtocolAddress) :
    Job (sessionCell a) R.Commits (JobResult.update a) .before (R.dispatch body local_addr) := by
  unfold dispatch MainWs.openEnvelope
  cases MainWs.EnvelopeProto.decode body with
  | none => exact R.job_finish_none a
  | some envelope =>
    simp only
    cases envelope.content with
    | none => exact R.job_finish_none a
    | some content =>
      simp only
      by_cases hsealed : envelope.type.getD 0 = MainWs.ENVELOPE_UNIDENTIFIED_SENDER
      · rw [if_pos hsealed]
        exact R.job_openSealed a content _ local_addr
      · rw [if_neg hsealed]
        unfold MainWs.openNamed
        cases DeviceId.new (envelope.source_device.getD 1) with
        | none => exact R.job_finish_none a
        | some sender_device =>
          simp only
          by_cases hprekey : envelope.type.getD 0 = ENVELOPE_PREKEY_BUNDLE
          · rw [if_pos hprekey]
            exact R.job_decryptPreKey a content _ local_addr _
          · rw [if_neg hprekey]
            by_cases hsignal : envelope.type.getD 0 = ENVELOPE_CIPHERTEXT
            · rw [if_pos hsignal]
              exact R.job_decryptSignal a content _ _
            · rw [if_neg hsignal]
              exact R.job_finish_none a

end Jobs

end Ratchet

end XousSignalClient
