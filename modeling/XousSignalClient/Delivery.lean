import XousSignalClient.Conversation
import XousSignalClient.MainWs.Deliveries
import XousSignalClient.MainWs.RoundTrip
import XousSignalClient.Send.FanOut
import XousSignalClient.Send.Recover

namespace XousSignalClient

open Encoding Interaction Fallible

section Sending

variable {C : Crates} {σ : Type}

/-- Where an entity comes from: libsignal's ciphertext of the padded content, for one device. -/
def Carried (sub : Submission) (ct : CiphertextMessage) (es : List (SendEvent C σ)) (entity : OutgoingMessageEntity) :
    Prop :=
  ∃ s dev bytes ty, sendEvent s (.message_encrypt sub.padded_content ⟨sub.recipient_uuid, dev⟩ sub.local_addr)
      (.ok ct) ∈ es ∧
    ciphertext_payload ct = .ok (bytes, ty) ∧ entity.message_type = ty.toNat ∧
    entity.destination_device_id = dev.val ∧ entity.content = C.b64_encode bytes

theorem Carried.mono {sub : Submission} {ct : CiphertextMessage} {es es' : List (SendEvent C σ)}
    {entity : OutgoingMessageEntity} (h : Carried sub ct es entity) (hsub : es ⊆ es') : Carried sub ct es' entity := by
  obtain ⟨s, dev, bytes, ty, hmem, hpayload⟩ := h
  exact ⟨s, dev, bytes, ty, hsub hmem, hpayload⟩

theorem FanRun.carried {sub : Submission} {ds : List ℕ} {es : List (SendEvent C σ)}
    {r : Except SendError (List OutgoingMessageEntity)} (hrun : FanRun sub ds es r)
    {entities : List OutgoingMessageEntity} (hr : r = .ok entities) :
    ∀ entity ∈ entities, ∃ ct, Carried sub ct es entity := by
  induction hrun generalizing entities with
  | nil =>
    intro entity hentity
    rw [← Except.ok.inj hr] at hentity
    cases hentity
  | badId d ds text => cases hr
  | failed dev ds es e henc => cases hr
  | cons dev ds es es' entity r henc hrest ih =>
    cases r with
    | error e => cases hr
    | ok rest =>
      obtain rfl := Except.ok.inj hr
      intro entity' hentity'
      rcases List.mem_cons.mp hentity' with rfl | hmem
      · cases henc with
        | done s s' record reg ct bytes ty hreg hpayload =>
          exact ⟨ct, s', dev, bytes, ty, by simp, hpayload, rfl, rfl, rfl⟩
      · obtain ⟨ct, hcarried⟩ := ih rfl entity' hmem
        exact ⟨ct, hcarried.mono (List.subset_append_right es es')⟩

def Accepted (sub : Submission) (es : List (SendEvent C σ)) (messages : List OutgoingMessageEntity) : Prop :=
  (∃ e ∈ es, ∃ url auth body, e.call = SendCall.put_json url auth body ∧ Answered e .accepted ∧
    body.messages = messages) ∧ messages ≠ [] ∧ ∀ entity ∈ messages, ∃ ct, Carried sub ct es entity

theorem Accepted.mono {sub : Submission} {es es' : List (SendEvent C σ)} {messages : List OutgoingMessageEntity}
    (h : Accepted sub es messages) (hsub : es ⊆ es') : Accepted sub es' messages := by
  obtain ⟨⟨e, he, hput⟩, hne, hcarried⟩ := h
  refine ⟨⟨e, hsub he, hput⟩, hne, ?_⟩
  intro entity hentity
  obtain ⟨ct, hct⟩ := hcarried entity hentity
  exact ⟨ct, hct.mono hsub⟩

theorem AttemptRun.accepted {sub : Submission} {k : ℕ} {es : List (SendEvent C σ)}
    {r : Except SendError (Option Bool)} (hrun : AttemptRun sub k es r) {delivered : Bool}
    (hr : r = .ok (some delivered)) (hall : sub.excluded_device_id = none) :
    ∃ messages, Accepted sub es messages := by
  cases hrun with
  | skipped s ids hids =>
    rw [addressed_eq_none] at hids
    rw [hall] at hids
    simp at hids
  | unaddressed s ids text => cases hr
  | unsent s ids devices fan r e hids hfan he => cases hr
  | sent s s' ids devices fan entities url auth reply tail r hids hfan htail =>
    refine ⟨entities, ⟨sendEvent s' (.put_json url auth ⟨entities, false, true, sub.timestamp_ms⟩) reply, ?_,
      url, auth, _, rfl, ?_, rfl⟩, ?_, ?_⟩
    · exact List.mem_cons_of_mem _ (List.mem_append_right fan List.mem_cons_self)
    · cases htail with
      | accepted reply h => exact congrArg some h
      | refused reply e h => cases hr
      | transient reply s h => cases hr
      | mismatch resp s parsed repair r h hrepair hagain =>
        rcases hagain with rfl | ⟨e, -, rfl⟩
        · cases hr
        · cases hr
    · intro hnil
      have hdest := hfan.destinations rfl
      rw [hnil] at hdest
      exact addressed_ne_nil hids hdest.symm
    · intro entity hentity
      obtain ⟨ct, hct⟩ := hfan.carried rfl entity hentity
      exact ⟨ct, hct.mono (fun x hx => List.mem_cons_of_mem _ (List.mem_append_left _ hx))⟩

theorem LoopRun.accepted {sub : Submission} {start left : ℕ} {es : List (SendEvent C σ)} {r : Except SendError Bool}
    (hrun : LoopRun sub start left es r) {delivered : Bool} (hr : r = .ok delivered)
    (hall : sub.excluded_device_id = none) : ∃ messages, Accepted sub es messages := by
  induction hrun with
  | expired left s t ht => cases hr
  | exhausted s t => cases hr
  | returned left s t es delivered h =>
    obtain ⟨messages, hmessages⟩ := h.accepted rfl hall
    exact ⟨messages, hmessages.mono (List.subset_cons_self _ es)⟩
  | failed left s t es e h => cases hr
  | again left s t es es' r h hrest ih =>
    obtain ⟨messages, hmessages⟩ := ih hr
    exact ⟨messages, hmessages.mono (List.subset_cons_of_subset _ (List.subset_append_right es es'))⟩

end Sending

section Showing

variable {L : MainWs.InboundCrates} (env : MainWs.InboundEnv L)

theorem data_message_decodes {body : String} (hlen : (utf8 body).length < 2 ^ 63) (t : UInt64) :
    MainWs.ContentProto.decode (strip_signal_padding (build_padded_data_message_content body t)) =
      some ⟨some ⟨some body, some t⟩, none⟩ := by
  let content : Outgoing.ContentProto := ⟨some ⟨some body, some t⟩, none⟩
  have hfits : (encodeFields content.fields).length < 2 ^ 64 := length_data_message hlen t
  have hdata : MainWs.embedded MainWs.DataMessageProto.read (MainWs.RECURSION_LIMIT - 1) 1 content.fields =
      some (some ⟨some body, some t⟩) :=
    embedded_encode (data_message_read body t) rfl (scalar_data_message _) hfits
  have hsync : MainWs.embedded (MainWs.SyncMessageProto.read (MainWs.RECURSION_LIMIT - 1)) (MainWs.RECURSION_LIMIT - 1)
      2 content.fields = some none := by
    apply embedded_absent
    intro f hf
    rw [List.mem_singleton.mp hf]
    exact fun h => by cases h
  have hdecode := decodeFields_encode MainWs.RECURSION_LIMIT (scalar_content content) hfits
  have hread : MainWs.ContentProto.read MainWs.RECURSION_LIMIT content.fields =
      some ⟨some ⟨some body, some t⟩, none⟩ := by
    rw [MainWs.ContentProto.read, hdata, hsync]
    rfl
  rw [build_padded_data_message_content, strip_signal_pad, MainWs.ContentProto.decode]
  exact (congrArg (·.bind (MainWs.ContentProto.read MainWs.RECURSION_LIMIT)) hdecode).trans hread

theorem ensures_deliver_data (dm : MainWs.DataMessageProto) (remote : ProtocolAddress) (server_ts : UInt64) (s : App)
    (hbody : ¬ (dm.body.getD "").isEmpty) :
    Ensures env.handler (MainWs.orPanic (MainWs.DispatchCall.deliver_data_message dm remote server_ts).ask) s
      (fun v t _ => v = .ok true ∧ t.chat.posts = s.chat.posts ++
        [⟨postDialogue remote.name s.pddb.focused s.chat.active, remote.name, dm.timestamp.getD server_ts,
          dm.body.getD ""⟩]) := by
  apply MainWs.ensures_dispatch
  have heffect := deliver_data_effect dm remote server_ts s
  simp only [if_neg hbody] at heffect
  exact ensures_ofExcept ⟨heffect.1, heffect.2.2.2⟩

theorem ensures_deliver_text {body : String} (hbody : ¬ body.isEmpty) (hlen : (utf8 body).length < 2 ^ 63) (t : UInt64)
    (remote : ProtocolAddress) (server_ts : UInt64) (s : App) :
    Ensures env.handler (MainWs.deliverContent
      (fun dm a ts => MainWs.orPanic (MainWs.DispatchCall.deliver_data_message dm a ts).ask)
      (fun sync ts => MainWs.orPanic (MainWs.DispatchCall.deliver_sync_message sync ts).ask)
      (fun a => (MainWs.DispatchCall.set_current_recipient a).ask) MainWs.DispatchCall.redraw.ask
      (build_padded_data_message_content body t) remote server_ts : MainWs.DispatchM L Unit) s
      (fun _ u _ => u.chat.posts = s.chat.posts ++
        [⟨postDialogue remote.name s.pddb.focused s.chat.active, remote.name, t, body⟩]) := by
  unfold MainWs.deliverContent
  rw [data_message_decodes hlen]
  apply ensures_bind (ensures_deliver_data env ⟨some body, some t⟩ remote server_ts s hbody)
  · rintro e u es ⟨⟨⟩, -⟩
  · rintro was_delivered u es ⟨hv, hposts⟩
    obtain rfl := Except.ok.inj hv
    apply MainWs.ensures_dispatch
    have hkept : ((onStore (set_current_recipient remote)).run App.handler u).state.chat = u.chat := by
      rw [(App.run_onStore _ u).2]
    exact (congrArg Chat.posts hkept).trans hposts

inductive Opens (plaintext : Bytes) (remote own : ProtocolAddress) (p p' : Pddb) : CiphertextMessage → Prop
  | signal (serialized : Bytes) (msg : L.SignalMessage) (hmsg : L.signal_message serialized = .ok msg)
      (hopen : env.message_decrypt_signal msg remote p = (.ok plaintext, p')) :
      Opens plaintext remote own p p' (.SignalMessage serialized)
  | prekey (serialized : Bytes) (msg : L.PreKeySignalMessage) (hmsg : L.prekey_signal_message serialized = .ok msg)
      (hopen : env.message_decrypt_prekey msg remote own p = (.ok plaintext, p')) :
      Opens plaintext remote own p p' (.PreKeySignalMessage serialized)

def forward (account : AccountInfo) (server_ts : UInt64) (entity : OutgoingMessageEntity) :
    Option MainWs.EnvelopeProto :=
  (base64Decode entity.content).map (fun content =>
    ⟨some entity.message_type, some account.aci_service_id, some account.device_id, some server_ts, some content⟩)

variable {env} {C : Crates} {σ : Type}

theorem ensures_decryptSignal {serialized plaintext : Bytes} {msg : L.SignalMessage} {remote : ProtocolAddress}
    {s : App} {p' : Pddb} (hmsg : L.signal_message serialized = .ok msg)
    (hopen : env.message_decrypt_signal msg remote s.pddb = (.ok plaintext, p')) :
    Ensures env.handler (MainWs.decryptSignal serialized remote) s
      (fun v t _ => v = .ok (some plaintext) ∧ t = { s with pddb := p' }) := by
  unfold MainWs.decryptSignal
  rw [hmsg]
  have hanswer : env.handler.answer (.message_decrypt_signal msg remote) s = (.ok plaintext, { s with pddb := p' }) := by
    change MainWs.onKeys (env.message_decrypt_signal msg remote) s = _
    rw [MainWs.onKeys, hopen]
    rfl
  apply MainWs.ensures_dispatch
  rw [hanswer]
  exact ensures_pure ⟨rfl, rfl⟩

theorem ensures_decryptPreKey {serialized plaintext : Bytes} {msg : L.PreKeySignalMessage}
    {remote own : ProtocolAddress} {s : App} {p' : Pddb} (hmsg : L.prekey_signal_message serialized = .ok msg)
    (hopen : env.message_decrypt_prekey msg remote own s.pddb = (.ok plaintext, p')) :
    Ensures env.handler (MainWs.decryptPreKey serialized remote own) s
      (fun v t _ => v = .ok (some plaintext) ∧ t = { s with pddb := p' }) := by
  unfold MainWs.decryptPreKey
  rw [hmsg]
  have hanswer : env.handler.answer (.message_decrypt_prekey msg remote own) s =
      (.ok plaintext, { s with pddb := p' }) := by
    change MainWs.onKeys (env.message_decrypt_prekey msg remote own) s = _
    rw [MainWs.onKeys, hopen]
    rfl
  apply MainWs.ensures_dispatch
  rw [hanswer]
  exact ensures_pure ⟨rfl, rfl⟩

theorem ensures_opened {x : MainWs.DispatchM L (Option Bytes)} {plaintext : Bytes} (remote : ProtocolAddress)
    (ts : UInt64) {s t : App} (hx : Ensures env.handler x s (fun v u _ => v = .ok (some plaintext) ∧ u = t)) :
    Ensures env.handler (x >>= fun r => pure (r.map (fun p => (⟨p, remote, ts⟩ : MainWs.Opened)))) s
      (fun v u _ => v = .ok (some ⟨plaintext, remote, ts⟩) ∧ u = t) := by
  apply ensures_bind hx
  · rintro e u es ⟨⟨⟩, -⟩
  · rintro r u es ⟨hv, rfl⟩
    obtain rfl := Except.ok.inj hv
    exact ensures_pure ⟨rfl, rfl⟩

theorem ensures_openNamed (account : AccountInfo) {source : DeviceId}
    (hsource : DeviceId.new account.device_id = some source) {ct : CiphertextMessage} {content : Bytes} {ty : ℤ}
    (hpayload : ciphertext_payload ct = .ok (content, ty)) (server_ts : UInt64) {plaintext : Bytes}
    {own : ProtocolAddress} {s : App} {p' : Pddb}
    (hopens : Opens env plaintext ⟨account.aci_service_id, source⟩ own s.pddb p' ct) :
    Ensures env.handler (MainWs.openNamed ty account.aci_service_id account.device_id content server_ts own) s
      (fun v t _ => v = .ok (some ⟨plaintext, ⟨account.aci_service_id, source⟩, server_ts⟩) ∧
        t = { s with pddb := p' }) := by
  unfold MainWs.openNamed
  rw [hsource]
  cases hopens with
  | signal serialized msg hmsg hopen =>
    obtain ⟨rfl, rfl⟩ := Prod.mk.inj (Except.ok.inj hpayload)
    have hother : ENVELOPE_CIPHERTEXT ≠ ENVELOPE_PREKEY_BUNDLE := by decide
    simp only [if_neg hother, if_true]
    exact ensures_opened _ server_ts (ensures_decryptSignal hmsg hopen)
  | prekey serialized msg hmsg hopen =>
    obtain ⟨rfl, rfl⟩ := Prod.mk.inj (Except.ok.inj hpayload)
    simp only [if_true]
    exact ensures_opened _ server_ts (ensures_decryptPreKey hmsg hopen)

theorem posts_deliver_forwarded (hencode : C.b64_encode = base64Encode) {account : AccountInfo} {source : DeviceId}
    (hsource : DeviceId.new account.device_id = some source) {sub : Submission} {ct : CiphertextMessage}
    {es : List (SendEvent C σ)} {entity : OutgoingMessageEntity} (hcarried : Carried sub ct es entity)
    {body : String} {t : UInt64} (hcontent : sub.padded_content = build_padded_data_message_content body t)
    (hbody : ¬ body.isEmpty) (hlen : (utf8 body).length < 2 ^ 63) {server_ts : UInt64} {read : Bytes}
    (hread : MainWs.EnvelopeProto.decode read = forward account server_ts entity) {own : ProtocolAddress} {s : App}
    {p' : Pddb} (hopens : Opens env sub.padded_content ⟨account.aci_service_id, source⟩ own s.pddb p' ct) :
    (env.deliver s (read, own)).chat.posts = s.chat.posts ++
      [⟨postDialogue account.aci_service_id p'.focused s.chat.active, account.aci_service_id, t, body⟩] := by
  obtain ⟨_, dev, content, ty, -, hpayload, htype, -, hentity⟩ := hcarried
  have hty : (ty.toNat : ℤ) = ty ∧ ty ≠ MainWs.ENVELOPE_UNIDENTIFIED_SENDER := by
    cases ct with
    | SignalMessage serialized =>
      obtain ⟨-, rfl⟩ := Prod.mk.inj (Except.ok.inj hpayload)
      decide
    | PreKeySignalMessage serialized =>
      obtain ⟨-, rfl⟩ := Prod.mk.inj (Except.ok.inj hpayload)
      decide
    | Other message_type => cases hpayload
  rw [forward, hentity, hencode, base64Decode_encode, htype, hty.1] at hread
  have hopen : (MainWs.openEnvelope read own : MainWs.DispatchM L (Option MainWs.Opened)) =
      MainWs.openNamed ty account.aci_service_id account.device_id content server_ts own := by
    unfold MainWs.openEnvelope
    rw [hread]
    simp only [Option.map_some, Option.getD_some, if_neg hty.2]
  change Ensures env.handler (MainWs.dispatch_envelope read own : MainWs.DispatchM L Unit) s
    (fun _ u _ => u.chat.posts = s.chat.posts ++
      [⟨postDialogue account.aci_service_id p'.focused s.chat.active, account.aci_service_id, t, body⟩])
  unfold MainWs.dispatch_envelope
  rw [hopen]
  apply ensures_bind (ensures_openNamed account hsource hpayload server_ts hopens)
  · rintro e u es' ⟨⟨⟩, -⟩
  · rintro opened u es' ⟨hv, rfl⟩
    obtain rfl := Except.ok.inj hv
    simp only [hcontent]
    exact ensures_deliver_text env hbody hlen t ⟨account.aci_service_id, source⟩ server_ts { s with pddb := p' }

end Showing

section Growth

variable {L : MainWs.InboundCrates} (env : MainWs.InboundEnv L)

theorem posts_grow {α : Type} (x : Program appSignature α) (s : App) :
    s.chat.posts <+: (x.run App.handler s).state.chat.posts := by
  induction x generalizing s with
  | ret a => exact List.prefix_rfl
  | ask c next ih =>
    have hstep : s.chat.posts <+: (App.handler.answer c s).2.chat.posts := by
      cases c with
      | pddb c => exact List.prefix_rfl
      | chat op =>
        cases op with
        | PostAdd author timestamp text => exact List.prefix_append _ _
        | DialogueSet dict key => exact List.prefix_rfl
        | Redraw => exact List.prefix_rfl
    exact hstep.trans (ih _ _)

theorem posts_grow_dispatch {α : Type} (x : Program (MainWs.dispatchSignature L) α) (s : App) :
    s.chat.posts <+: (x.run env.handler s).state.chat.posts := by
  induction x generalizing s with
  | ret a => exact List.prefix_rfl
  | ask c next ih =>
    have hstep : s.chat.posts <+: (env.answer c s).2.chat.posts := by
      cases c with
      | sealed_sender_decrypt_to_usmc ciphertext => exact List.prefix_rfl
      | message_decrypt_prekey msg remote_address local_address => exact List.prefix_rfl
      | message_decrypt_signal msg remote_address => exact List.prefix_rfl
      | deliver_data_message dm remote_addr server_ts => exact posts_grow _ s
      | deliver_sync_message sync server_ts => exact posts_grow _ s
      | set_current_recipient remote_addr => exact posts_grow _ s
      | redraw => exact posts_grow _ s
    exact hstep.trans (ih _ _)

theorem posts_grow_deliver (ds : List (Bytes × ProtocolAddress)) (s : App) :
    s.chat.posts <+: (ds.foldl env.deliver s).chat.posts := by
  induction ds generalizing s with
  | nil => exact List.prefix_rfl
  | cons d ds ih => exact (posts_grow_dispatch env _ s).trans (ih _)

theorem deliverAll_eq {c : MainWs.Credentials} {own : ProtocolAddress} (hown : c.local_addr = some own)
    (bodies : List Bytes) (s : App) :
    env.deliverAll c bodies s = (bodies.map (fun body => (body, own))).foldl env.deliver s := by
  rw [MainWs.InboundEnv.deliverAll, hown, Option.toList_some, List.flatMap_singleton]

end Growth

/-- Wherever in the life of the worker the forwarded entity is read, if libsignal opens it there, reading it adds
one post, the text in the name of the account that sent it, and nothing but the later envelopes add to that. -/
def Shown {ν : Type} {L : MainWs.InboundCrates} (env : MainWs.InboundEnv L) (line : MainWs.Line ν)
    (c : MainWs.Credentials) (bounds : List ℕ) (phone : App × ν) (account : AccountInfo) (source : DeviceId)
    (content : Bytes) (text : String) (timestamp_ms : UInt64) (ct : CiphertextMessage)
    (entity : OutgoingMessageEntity) : Prop :=
  let received := (MainWs.worker_loop c bounds).exec (env.receive line) phone
  ∀ own server_ts before read after p', c.local_addr = some own →
    MainWs.envelopes (MainWs.frames (MainWs.sessionEvents received.events)) = before ++ read :: after →
    MainWs.EnvelopeProto.decode read = forward account server_ts entity →
    let s := env.deliverAll c before phone.1
    let shown := env.deliver s (read, own)
    Opens env content ⟨account.aci_service_id, source⟩ own s.pddb p' ct →
    shown.chat.posts = s.chat.posts ++ [⟨postDialogue account.aci_service_id p'.focused s.chat.active,
      account.aci_service_id, timestamp_ms, text⟩] ∧
    received.state.1 = env.deliverAll c after shown ∧ shown.chat.posts <+: received.state.1.chat.posts

/-- From one phone to the other: a text whose send reports success was accepted by the server, entity by entity
as libsignal encrypted it; and each of these entities is shown by the phone it reaches. -/
theorem sent_message_shown {C : Crates} {σ ν : Type} {L : MainWs.InboundCrates} (hencode : C.b64_encode = base64Encode)
    (h : Handler (sendSignature C) σ) {text : String} (htext : ¬ text.isEmpty) (hlen : (utf8 text).length < 2 ^ 63)
    (timestamp_ms : UInt64) (recipient_addr local_addr : ProtocolAddress) (account : AccountInfo) {source : DeviceId}
    (hsource : DeviceId.new account.device_id = some source) (s : σ) (env : MainWs.InboundEnv L)
    (line : MainWs.Line ν) (c : MainWs.Credentials) (bounds : List ℕ) (phone : App × ν) :
    let sent := (submit_with_retry_generic text timestamp_ms recipient_addr local_addr account).exec h s
    let sub := recipientSubmission text timestamp_ms recipient_addr local_addr account
    sent.value = .ok () → (∃ messages, Accepted sub sent.events messages) ∧
      ∀ ct entity, Carried sub ct sent.events entity →
        Shown env line c bounds phone account source sub.padded_content text timestamp_ms ct entity := by
  intro sent sub hsent
  obtain ⟨start, es, r, hes, hrun, hv⟩ :=
    submit_with_retry_run (h := h) text timestamp_ms recipient_addr local_addr account s
  change sent.events = _ at hes
  change sent.value = _ at hv
  have hr : ∃ delivered, r = .ok delivered := by
    rw [hsent] at hv
    cases r with
    | error e => cases hv
    | ok delivered => exact ⟨delivered, rfl⟩
  obtain ⟨delivered, hr⟩ := hr
  obtain ⟨messages, haccepted⟩ := hrun.accepted hr rfl
  refine ⟨⟨messages, haccepted.mono (hes ▸ List.subset_cons_self _ es)⟩, ?_⟩
  intro ct entity hcarried own server_ts before read after p' hown hread hforward s shown hopens
  have hstate := (MainWs.worker_loop_delivered env line c bounds phone).1
  have hafter : env.deliverAll c (before ++ read :: after) phone.1 =
      env.deliverAll c after (env.deliver s (read, own)) := by
    have hbefore : s = (before.map (fun body => (body, own))).foldl env.deliver phone.1 :=
      deliverAll_eq env hown before phone.1
    rw [deliverAll_eq env hown, deliverAll_eq env hown, List.map_append, List.map_cons, List.foldl_append,
      List.foldl_cons, ← hbefore]
  rw [hread, hafter] at hstate
  refine ⟨posts_deliver_forwarded hencode hsource hcarried rfl htext hlen hforward hopens, hstate, ?_⟩
  rw [hstate, deliverAll_eq env hown]
  exact posts_grow_deliver env _ _

section Sample

open Reference

/-- Bob's phone, whose libsignal drops the counter that Alice's puts before a message. -/
def bobEnv : MainWs.InboundEnv MainWs.plainCrates :=
  { MainWs.plainEnv with message_decrypt_signal := fun msg _ p => (.ok msg.tail, p) }

def scriptedLine : MainWs.Line (List WsMessage) :=
  { MainWs.scripted with
    new_message := fun _ _ _ _ ms => (.ok (), ms)
    timer := fun ms => (.ok (), ms)
    sleep_ms := fun _ ms => (.ok (), ms) }

def bobCredentials : MainWs.Credentials := ⟨bob, 1, "swordfish", "signal.org"⟩

def acceptingEnv : SendEnv crates Unit :=
  { (bobServer fun _ => false).env with put_json := fun _ _ _ _ => (.ok ⟨200, []⟩, ()) }

def helloToBob : Outcome (sendSignature crates) (World Unit) (Except SendError Unit) :=
  (submit_with_retry_generic "hello" 1700000000000 ⟨bob, phone⟩ ⟨alice, laptop⟩ account).exec
    acceptingEnv.handler ⟨stock bob [(phone, (1, 0)), (laptop, (1, 0))], ()⟩

theorem helloToBob_value : helloToBob.value = .ok () := by decide +kernel

def helloEnvelope : Bytes :=
  encodeFields [.varint 1 1, .bytes 2 (utf8 alice), .varint 5 1700000000005, .varint 7 2,
    .bytes 8 (0 :: toBob.padded_content)]

def bobPhone : App × List WsMessage :=
  (MainWs.started, [.Binary (MainWs.WsMessageProto.encode_to_vec
    ⟨some MainWs.WS_TYPE_REQUEST, some ⟨some "PUT", some "/api/v1/message", some helloEnvelope, some 1, []⟩, none⟩)])

def bobReceived : Outcome MainWs.receiveSignature (App × List WsMessage)
    (Except Panic MainWs.Whereabouts) :=
  (MainWs.worker_loop bobCredentials [3]).exec (bobEnv.receive scriptedLine) bobPhone

def helloCiphertext : CiphertextMessage := .SignalMessage (0 :: toBob.padded_content)

def encryptsHello (e : Event (sendSignature crates) (World Unit)) : Bool :=
  match e with
  | ⟨_, .message_encrypt _ _ _, .ok ct⟩ => ct == helloCiphertext
  | _ => true

theorem helloToBob_encrypts : helloToBob.events.all encryptsHello = true := by decide +kernel

theorem hello_shown : ∃ messages, Accepted toBob helloToBob.events messages ∧
    (∃ entity ∈ messages, MainWs.EnvelopeProto.decode helloEnvelope = forward account 1700000000005 entity) ∧
    bobReceived.state.1.chat.posts =
      [⟨some (MainWs.PEER_DIALOGUE_DICT, some alice), alice, 1700000000000, "hello"⟩] := by
  obtain ⟨⟨messages, haccepted⟩, hshown⟩ := sent_message_shown rfl acceptingEnv.handler (by decide) (by decide)
    1700000000000 ⟨bob, phone⟩ ⟨alice, laptop⟩ account rfl _ bobEnv scriptedLine bobCredentials [3] bobPhone
    helloToBob_value
  have ⟨_, hne, hcarried⟩ := haccepted
  obtain ⟨entity, hentity⟩ := List.exists_mem_of_ne_nil messages hne
  obtain ⟨ct, hct⟩ := hcarried entity hentity
  have ⟨_, _, _, _, hmem, hpayload, htype, _, hcontent⟩ := hct
  obtain rfl : ct = helloCiphertext := beq_iff_eq.mp (List.all_eq_true.mp helloToBob_encrypts _ hmem)
  obtain ⟨rfl, rfl⟩ := Prod.mk.inj (Except.ok.inj hpayload)
  have hforward : MainWs.EnvelopeProto.decode helloEnvelope = forward account 1700000000005 entity := by
    have hdecode : MainWs.EnvelopeProto.decode helloEnvelope =
        some ⟨some 1, some alice, some 2, some 1700000000005, some (0 :: toBob.padded_content)⟩ := by decide +kernel
    rw [hdecode, forward, hcontent, htype]
    change _ = (base64Decode (base64Encode _)).map _
    rw [base64Decode_encode]
    rfl
  obtain ⟨hpost, hrest, -⟩ := hshown helloCiphertext entity hct ⟨bob, phone⟩ 1700000000005 [] helloEnvelope [] ∅ rfl
    (by decide +kernel) hforward (.signal _ _ rfl rfl)
  refine ⟨messages, haccepted, ⟨entity, hentity, hforward⟩, ?_⟩
  rw [bobReceived, hrest]
  exact hpost

end Sample

end XousSignalClient
