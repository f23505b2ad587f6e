import XousSignalClient.Conversation
import XousSignalClient.Encoding.Base64
import XousSignalClient.MainWs.Transcript

namespace XousSignalClient

open Encoding Interaction Fallible

namespace MainWs

variable {L : InboundCrates}

def DispatchCall.remote : DispatchCall L → Option ProtocolAddress
  | .message_decrypt_prekey _ remote_address _ => some remote_address
  | .message_decrypt_signal _ remote_address => some remote_address
  | .deliver_data_message _ remote_addr _ => some remote_addr
  | .set_current_recipient remote_addr => some remote_addr
  | _ => none

variable (env : InboundEnv L)

def Rejected (content : Bytes) (ts : UInt64) (p : Pddb) : Prop :=
  ∀ usmc, (env.sealed_sender_decrypt_to_usmc content p).1 = .ok usmc →
    (∀ cert, L.sender usmc = .ok cert → L.validate_with_trust_roots cert (trustRoots L) ts ≠ .ok true) ∨
      (L.msg_type usmc ≠ .ok .PreKey ∧ L.msg_type usmc ≠ .ok .Whisper)

def Certified (content : Bytes) (ts : UInt64) (p : Pddb) (remote : ProtocolAddress) : Prop :=
  ∃ usmc cert, (env.sealed_sender_decrypt_to_usmc content p).1 = .ok usmc ∧ L.sender usmc = .ok cert ∧
    L.validate_with_trust_roots cert (trustRoots L) ts = .ok true ∧
    L.sender_uuid cert = .ok remote.name ∧ L.sender_device_id cert = .ok remote.device_id

theorem certifiedSender_eq_some {usmc : L.Usmc} {ts : UInt64} {remote : ProtocolAddress}
    (h : certifiedSender usmc ts = some remote) : ∃ cert, L.sender usmc = .ok cert ∧
      L.validate_with_trust_roots cert (trustRoots L) ts = .ok true ∧
      L.sender_uuid cert = .ok remote.name ∧ L.sender_device_id cert = .ok remote.device_id := by
  unfold certifiedSender at h
  cases hcert : L.sender usmc with
  | error e => simp [hcert] at h
  | ok cert =>
    simp only [hcert] at h
    split at h
    · next hvalid =>
      cases huuid : L.sender_uuid cert with
      | error e => simp [huuid] at h
      | ok uuid =>
        cases hdevice : L.sender_device_id cert with
        | error e => simp [huuid, hdevice] at h
        | ok device =>
          simp only [huuid, hdevice] at h
          obtain rfl := Option.some.inj h
          exact ⟨cert, rfl, hvalid, huuid, hdevice⟩
    · cases h

section Opening

variable {content : Bytes} {ts : UInt64} {s : App} (local_addr : ProtocolAddress)

theorem ensures_unseal {α : Type} (hunseal : (env.sealed_sender_decrypt_to_usmc content s.pddb).2 = s.pddb)
    {f : Except SignalProtocolError L.Usmc → DispatchM L α}
    {Q : Except Panic α → App → List (DispatchEvent L App) → Prop}
    (hf : ∀ reply, reply = (env.sealed_sender_decrypt_to_usmc content s.pddb).1 →
      Ensures env.handler (f reply) s (fun v t es => Q v t
        (⟨s, DispatchCall.sealed_sender_decrypt_to_usmc content, reply⟩ :: es))) :
    Ensures env.handler ((DispatchCall.sealed_sender_decrypt_to_usmc content).ask >>= f) s Q := by
  apply ensures_dispatch
  have hstate : (env.handler.answer (DispatchCall.sealed_sender_decrypt_to_usmc content) s).2 = s := by
    change { s with pddb := (env.sealed_sender_decrypt_to_usmc content s.pddb).2 } = s
    rw [hunseal]
  rw [hstate]
  exact hf _ rfl

theorem openSealed_rejected (hunseal : (env.sealed_sender_decrypt_to_usmc content s.pddb).2 = s.pddb)
    (hrejected : Rejected env content ts s.pddb) :
    Ensures env.handler (openSealed content ts local_addr) s (fun v t _ => v = .ok none ∧ t = s) := by
  apply ensures_unseal env hunseal
  intro reply hreply
  cases reply with
  | error e => exact ⟨rfl, rfl⟩
  | ok usmc =>
    simp only
    cases hcert : certifiedSender usmc ts with
    | none => exact ⟨rfl, rfl⟩
    | some remote =>
      obtain ⟨cert, hsender, hvalid, -⟩ := certifiedSender_eq_some hcert
      rcases hrejected usmc hreply.symm with hinvalid | ⟨hprekey, hwhisper⟩
      · exact absurd hvalid (hinvalid cert hsender)
      · have hdrop : (decryptSealed usmc remote local_addr : DispatchM L (Option Bytes)) = pure none := by
          unfold decryptSealed
          split
          · next h => exact absurd h hprekey
          · next h => exact absurd h hwhisper
          · rfl
        simp only [hdrop]
        exact ⟨rfl, rfl⟩

def Attributed (content : Bytes) (ts : UInt64) (p : Pddb) (es : List (DispatchEvent L App)) : Prop :=
  ∀ e ∈ es, ∀ remote, DispatchCall.remote e.call = some remote → Certified env content ts p remote

theorem only_decryptPreKey (content : Bytes) (remote : ProtocolAddress) :
    (decryptPreKey content remote local_addr : DispatchM L (Option Bytes)).run.Only
      (fun c : DispatchCall L => c.remote = some remote) := by
  unfold decryptPreKey
  cases L.prekey_signal_message content with
  | error e => exact .ret _
  | ok msg =>
    exact only_bind (only_call (S := dispatchSignature L) (.message_decrypt_prekey msg remote local_addr) rfl)
      (fun _ => .ret _)

theorem only_decryptSignal (content : Bytes) (remote : ProtocolAddress) :
    (decryptSignal content remote : DispatchM L (Option Bytes)).run.Only
      (fun c : DispatchCall L => c.remote = some remote) := by
  unfold decryptSignal
  cases L.signal_message content with
  | error e => exact .ret _
  | ok msg =>
    exact only_bind (only_call (S := dispatchSignature L) (.message_decrypt_signal msg remote) rfl)
      (fun _ => .ret _)

theorem only_decryptSealed (usmc : L.Usmc) (remote : ProtocolAddress) :
    (decryptSealed usmc remote local_addr : DispatchM L (Option Bytes)).run.Only
      (fun c : DispatchCall L => c.remote = some remote) := by
  unfold decryptSealed
  split
  · exact only_decryptPreKey local_addr _ remote
  · exact only_decryptSignal _ remote
  · exact .ret _

theorem openSealed_attributed (hunseal : (env.sealed_sender_decrypt_to_usmc content s.pddb).2 = s.pddb) :
    Ensures env.handler (openSealed content ts local_addr) s (fun v _ es => Attributed env content ts s.pddb es ∧
      ∀ opened, v = .ok (some opened) → Certified env content ts s.pddb opened.remote_addr) := by
  apply ensures_unseal env hunseal
  intro reply hreply
  have hfirst : Attributed env content ts s.pddb [⟨s, DispatchCall.sealed_sender_decrypt_to_usmc content, reply⟩] := by
    intro e he remote hremote
    obtain rfl := List.mem_singleton.mp he
    cases hremote
  cases reply with
  | error e => exact ⟨hfirst, fun _ h => by cases h⟩
  | ok usmc =>
    simp only
    cases hcert : certifiedSender usmc ts with
    | none => exact ⟨hfirst, fun _ h => by cases h⟩
    | some remote =>
      obtain ⟨cert, hsender, hvalid, hname⟩ := certifiedSender_eq_some hcert
      have hcertified : Certified env content ts s.pddb remote := ⟨usmc, cert, hreply.symm, hsender, hvalid, hname⟩
      have hall : ∀ es : List (DispatchEvent L App), (∀ e ∈ es, DispatchCall.remote e.call = some remote) →
          Attributed env content ts s.pddb
            (⟨s, DispatchCall.sealed_sender_decrypt_to_usmc content, .ok usmc⟩ :: es) := by
        intro es hes e he remote' hremote
        rcases List.mem_cons.mp he with rfl | he
        · cases hremote
        · obtain rfl := Option.some.inj ((hes e he).symm.trans hremote)
          exact hcertified
      apply ensures_bind (ensures_only (only_decryptSealed local_addr usmc remote))
      · exact fun e t es hes => ⟨hall es hes, fun _ h => by cases h⟩
      · intro plaintext t es hes
        refine ensures_pure ⟨?_, ?_⟩
        · rw [List.append_nil]
          exact hall es hes
        · intro opened h
          obtain ⟨bytes, -, rfl⟩ := Option.map_eq_some_iff.mp (Except.ok.inj h)
          exact hcertified

end Opening

section Posts

/-- Whose name a request puts on a post, and in which conversation. -/
def PostedBy : DispatchCall L → App → Post → Prop
  | .deliver_data_message _ remote_addr _, s, post =>
    post.author = remote_addr.name ∧ post.dialogue = postDialogue remote_addr.name s.pddb.focused s.chat.active
  | .deliver_sync_message sync _, s, post => TranscriptPost sync s post
  | _, _, _ => False

theorem posted_by_data (dm : DataMessageProto) (remote : ProtocolAddress) (ts : UInt64) (s : App) :
    ∀ post ∈ (env.answer (.deliver_data_message dm remote ts) s).2.chat.posts,
      post ∈ s.chat.posts ∨ PostedBy (.deliver_data_message dm remote ts : DispatchCall L) s post := by
  change Results (MainWs.deliver_data_message dm remote ts) s (fun _ t => ∀ post ∈ t.chat.posts,
    post ∈ s.chat.posts ∨ PostedBy (.deliver_data_message dm remote ts : DispatchCall L) s post)
  apply Ensures.mono (deliver_data_effect dm remote ts s)
  intro v t es heffect post hpost
  split_ifs at heffect with hbody
  · rw [heffect.2] at hpost
    exact .inl hpost
  · rw [heffect.2.2.2] at hpost
    rcases List.mem_append.mp hpost with hold | hnew
    · exact .inl hold
    · obtain rfl := List.mem_singleton.mp hnew
      exact .inr ⟨rfl, rfl⟩

theorem posted_by_answer (c : DispatchCall L) (s : App) :
    ∀ post ∈ (env.answer c s).2.chat.posts, post ∈ s.chat.posts ∨ PostedBy c s post := by
  cases c with
  | deliver_data_message dm remote_addr ts => exact posted_by_data env dm remote_addr ts s
  | deliver_sync_message sync ts => exact deliver_sync_posts sync ts s
  | set_current_recipient remote_addr =>
    intro post hpost
    have hchat : (env.answer (.set_current_recipient remote_addr) s).2 = _ :=
      (App.run_onStore (XousSignalClient.set_current_recipient remote_addr) s).2
    rw [hchat] at hpost
    exact .inl hpost
  | _ => exact fun post hpost => .inl hpost

theorem posted_by_run {α : Type} (x : Program (dispatchSignature L) α) (s : App) :
    ∀ post ∈ (x.run env.handler s).state.chat.posts, post ∈ s.chat.posts ∨
      ∃ e ∈ (x.run env.handler s).events, PostedBy e.call e.before post := by
  induction x generalizing s with
  | ret a => exact fun post hpost => .inl hpost
  | ask c next ih =>
    intro post hpost
    rcases ih _ _ post hpost with hnow | ⟨e, he, hposted⟩
    · rcases posted_by_answer env c s post hnow with hold | hnew
      · exact .inl hold
      · exact .inr ⟨_, List.mem_cons_self, hnew⟩
    · exact .inr ⟨e, List.mem_cons_of_mem _ he, hposted⟩

end Posts

variable {body : Bytes} {envelope : EnvelopeProto} (local_addr : ProtocolAddress)

theorem openEnvelope_sealed (hdecode : EnvelopeProto.decode body = some envelope)
    (htype : envelope.type = some ENVELOPE_UNIDENTIFIED_SENDER) :
    (openEnvelope body local_addr : DispatchM L (Option Opened)) =
      match envelope.content with
      | none => pure none
      | some content => openSealed content (envelope.server_timestamp.getD 0) local_addr := by
  unfold openEnvelope
  rw [hdecode]
  cases hcontent : envelope.content with
  | none => simp only [hcontent]
  | some content => simp only [hcontent, htype, Option.getD_some, if_true]

/-- Nothing happens on a sealed-sender envelope that does not open to a certified sender. What happens on the
others happens in the name of the certified sender, whoever the envelope says it is from, but for transcripts:
these are posted under the arrow label of their destination. -/
theorem sealed_sender_gate (hunseal : ∀ content p, (env.sealed_sender_decrypt_to_usmc content p).2 = p)
    (hdecode : EnvelopeProto.decode body = some envelope)
    (htype : envelope.type = some ENVELOPE_UNIDENTIFIED_SENDER) (s : App) :
    let o := (dispatch_envelope (L := L) body local_addr).exec env.handler s
    let ts := envelope.server_timestamp.getD 0
    ((∀ content, envelope.content = some content → Rejected env content ts s.pddb) → o.state = s) ∧
    (∀ e ∈ o.events, ∀ remote, DispatchCall.remote e.call = some remote →
      ∃ content, envelope.content = some content ∧ Certified env content ts s.pddb remote) ∧
    (∀ post ∈ o.state.chat.posts, post ∈ s.chat.posts ∨ ∃ e ∈ o.events, PostedBy e.call e.before post) ∧
    ∀ body' source_service_id source_device, EnvelopeProto.decode body' =
        some { envelope with source_service_id := source_service_id, source_device := source_device } →
      (dispatch_envelope body' local_addr : DispatchM L Unit) = dispatch_envelope body local_addr := by
  intro o ts
  have hopen := openEnvelope_sealed (L := L) local_addr hdecode htype
  have hall : ∀ Q : Except Panic Unit → App → List (DispatchEvent L App) → Prop,
      Ensures env.handler (dispatch_envelope (L := L) body local_addr) s Q → Q o.value o.state o.events := fun _ h => h
  refine ⟨?_, ?_, posted_by_run env (dispatch_envelope (L := L) body local_addr).run s, ?_⟩
  · intro hrejected
    refine hall (fun _ t _ => t = s) ?_
    unfold dispatch_envelope
    rw [hopen]
    cases hcontent : envelope.content with
    | none => exact rfl
    | some content =>
      apply ensures_bind (openSealed_rejected env local_addr (hunseal content s.pddb) (hrejected content hcontent))
      · rintro e t es ⟨hv, -⟩
        cases hv
      · rintro opened t es ⟨hv, rfl⟩
        obtain rfl := Except.ok.inj hv
        exact rfl
  · refine hall (fun _ _ es => ∀ e ∈ es, ∀ remote, DispatchCall.remote e.call = some remote →
      ∃ content, envelope.content = some content ∧ Certified env content ts s.pddb remote) ?_
    unfold dispatch_envelope
    rw [hopen]
    cases hcontent : envelope.content with
    | none =>
      intro e he
      cases he
    | some content =>
      apply ensures_bind (openSealed_attributed env local_addr (hunseal content s.pddb))
      · exact fun e t es hes e' he' remote hremote => ⟨content, rfl, hes.1 e' he' remote hremote⟩
      · rintro opened t es ⟨hes, hopened⟩
        cases opened with
        | none =>
          apply ensures_pure
          intro e he remote hremote
          rw [List.append_nil] at he
          exact ⟨content, rfl, hes e he remote hremote⟩
        | some opened =>
          have honly := only_deliverContent (L := L)
            (P := fun c => ∀ remote, c.remote = some remote → remote = opened.remote_addr)
            opened.plaintext opened.remote_addr opened.ts (fun _ _ h => (Option.some.inj h).symm)
            (fun _ _ h => by cases h) (fun _ h => (Option.some.inj h).symm) (fun _ h => by cases h)
          apply (ensures_only honly).mono
          intro v u es' hes' e he remote hremote
          rcases List.mem_append.mp he with he | he
          · exact ⟨content, rfl, hes e he remote hremote⟩
          · obtain rfl := hes' e he remote hremote
            exact ⟨content, rfl, hopened opened rfl⟩
  · intro body' source_service_id source_device hdecode'
    unfold dispatch_envelope
    rw [hopen, openEnvelope_sealed (L := L) local_addr hdecode' htype]

section Certificates

structure Certificate where
  sender : ProtocolAddress
  expires : UInt64
  signer : Bytes

structure UnsealedContent where
  certificate : Certificate
  msg_type : CiphertextMessageType
  contents : Bytes

def deserializeRoot (raw : Bytes) : Except SignalProtocolError Bytes :=
  if raw.length = 33 ∧ raw.head? = some 5 then .ok raw else .error (.Other "BadKeyType")

abbrev certifyingCrates : InboundCrates where
  PublicKey := Bytes
  Usmc := UnsealedContent
  SenderCertificate := Certificate
  PreKeySignalMessage := Bytes
  SignalMessage := Bytes
  b64_decode := fun s => ((base64Decode s).map Except.ok).getD (.error "Invalid symbol")
  public_key_deserialize := deserializeRoot
  sender := fun usmc => .ok usmc.certificate
  msg_type := fun usmc => .ok usmc.msg_type
  contents := fun usmc => .ok usmc.contents
  validate_with_trust_roots := fun cert roots ts => .ok (decide (cert.signer ∈ roots ∧ ts ≤ cert.expires))
  sender_uuid := fun cert => .ok cert.sender.name
  sender_device_id := fun cert => .ok cert.sender.device_id
  prekey_signal_message := fun content => .ok content
  signal_message := fun content => .ok content

def signalRoot : Bytes := (base64Decode "BXu6QIKVz5MA8gstzfOgRQGqyLqOwNKHL6INkv3IHWMF").getD []

def certifyingEnv (sender : ProtocolAddress) : InboundEnv certifyingCrates where
  sealed_sender_decrypt_to_usmc := fun content p => (.ok ⟨⟨sender, 1700000600000, signalRoot⟩, .Whisper, content⟩, p)
  message_decrypt_prekey := fun msg _ _ p => (.ok msg, p)
  message_decrypt_signal := fun msg _ p => (.ok msg, p)

def sealedEnvelope (ts : ℕ) (content : Bytes) : Bytes :=
  encodeFields [.varint 1 6, .bytes 2 (utf8 malloryAddress.name), .varint 5 ts, .varint 7 1, .bytes 8 content]

def sealedHello (ts : UInt64) : EnvelopeProto :=
  ⟨some 6, some malloryAddress.name, some 1, some ts, some dataContent⟩

/-- Carol's sealed message is hers, though the envelope names Mallory; after her certificate has expired it is
dropped. -/
theorem sealed_hello_posted :
    let o := (dispatch_envelope (L := certifyingCrates) (sealedEnvelope 1700000000000 dataContent) aliceAddress).exec
      (certifyingEnv carolAddress).handler started
    let late := (dispatch_envelope (L := certifyingCrates) (sealedEnvelope 1700000600001 dataContent)
      aliceAddress).exec (certifyingEnv carolAddress).handler started
    o.state.chat.posts.map Post.author = [carolAddress.name] ∧
      (∀ e ∈ o.events, ∀ remote, DispatchCall.remote e.call = some remote → remote = carolAddress) ∧
      late.state = started := by
  intro o late
  have hdecode : EnvelopeProto.decode (sealedEnvelope 1700000000000 dataContent) =
      some (sealedHello 1700000000000) := by decide +kernel
  have hlate : EnvelopeProto.decode (sealedEnvelope 1700000600001 dataContent) =
      some (sealedHello 1700000600001) := by decide +kernel
  obtain ⟨-, hremotes, -, -⟩ := sealed_sender_gate (certifyingEnv carolAddress) aliceAddress (fun _ _ => rfl) hdecode
    rfl started
  have hcertified : ∀ {content ts p remote}, Certified (certifyingEnv carolAddress) content ts p remote →
      remote = carolAddress := by
    rintro content ts p remote ⟨usmc, cert, husmc, hcert, -, hname, hdevice⟩
    obtain rfl := Except.ok.inj husmc
    obtain rfl := Except.ok.inj hcert
    exact congrArg₂ ProtocolAddress.mk (Except.ok.inj hname).symm (Except.ok.inj hdevice).symm
  refine ⟨by decide +kernel, ?_, ?_⟩
  · intro e he remote hremote
    obtain ⟨content, -, h⟩ := hremotes e he remote hremote
    exact hcertified h
  · refine (sealed_sender_gate (certifyingEnv carolAddress) aliceAddress (fun _ _ => rfl) hlate rfl started).1 ?_
    rintro content - usmc husmc
    obtain rfl := Except.ok.inj husmc
    refine .inl ?_
    intro cert hcert hvalid
    obtain rfl := Except.ok.inj hcert
    have hexpired : ¬(1700000600001 : UInt64) ≤ 1700000600000 := by decide
    exact absurd (of_decide_eq_true (Except.ok.inj hvalid)).2 hexpired

/-- A sealed transcript of the own account's phone is delivered in the conversation with Bob, and not under the
name in the certificate. -/
theorem sealed_transcript_posted :
    let phone : ProtocolAddress := ⟨aliceAddress.name, ⟨1, DeviceId.one_valid⟩⟩
    let body := sealedEnvelope 1700000000000 (sentContent bobUuid)
    let o := (dispatch_envelope (L := certifyingCrates) body aliceAddress).exec (certifyingEnv phone).handler started
    Certified (certifyingEnv phone) (sentContent bobUuid) 1700000000000 started.pddb phone ∧
      o.state.chat.posts = [⟨some (PEER_DIALOGUE_DICT, some bobUuid), "→0a1b2c3d", 1700000000000, "on my way"⟩] ∧
      ¬∀ post ∈ o.state.chat.posts, post ∈ started.chat.posts ∨ post.author = phone.name := by
  intro phone body o
  have hposts : o.state.chat.posts =
      [⟨some (PEER_DIALOGUE_DICT, some bobUuid), "→0a1b2c3d", 1700000000000, "on my way"⟩] := by decide +kernel
  have hvalid : certifyingCrates.validate_with_trust_roots ⟨phone, 1700000600000, signalRoot⟩
      (trustRoots certifyingCrates) 1700000000000 = .ok true := by decide +kernel
  refine ⟨⟨_, _, rfl, rfl, hvalid, rfl, rfl⟩, hposts, ?_⟩
  intro hall
  rw [hposts] at hall
  rcases hall _ List.mem_cons_self with hold | hname
  · cases hold
  · exact absurd hname (by decide)

end Certificates

end MainWs

end XousSignalClient
