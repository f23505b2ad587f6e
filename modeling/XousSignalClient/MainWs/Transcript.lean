import XousSignalClient.MainWs.Dispatch

namespace XousSignalClient

open Encoding Interaction Fallible

namespace MainWs

variable {L : InboundCrates} {σ : Type}

abbrev DispatchEvent (L : InboundCrates) (σ : Type) := Event (dispatchSignature L) σ

def DispatchCall.decrypted : (c : DispatchCall L) → c.Reply → Option (ProtocolAddress × Bytes)
  | .message_decrypt_prekey _ remote_address _, reply => (Except.toOption (α := Bytes) reply).map (remote_address, ·)
  | .message_decrypt_signal _ remote_address, reply => (Except.toOption (α := Bytes) reply).map (remote_address, ·)
  | _, _ => none

def DispatchCall.syncReached : DispatchCall L → Option SyncMessageProto
  | .deliver_sync_message sync _ => some sync
  | _ => none

def decryptions (es : List (DispatchEvent L σ)) : List (ProtocolAddress × Bytes) :=
  es.filterMap (fun e => DispatchCall.decrypted e.call e.reply)

def syncsReached (es : List (DispatchEvent L σ)) : List SyncMessageProto :=
  es.filterMap (fun e => DispatchCall.syncReached e.call)

def syncOf (plaintext : Bytes) : Option SyncMessageProto :=
  match ContentProto.decode (strip_signal_padding plaintext) with
  | some ⟨none, some sync⟩ => some sync
  | _ => none

theorem decryptions_append (es es' : List (DispatchEvent L σ)) :
    decryptions (es ++ es') = decryptions es ++ decryptions es' := List.filterMap_append

theorem syncsReached_append (es es' : List (DispatchEvent L σ)) :
    syncsReached (es ++ es') = syncsReached es ++ syncsReached es' := List.filterMap_append

variable {h : Handler (dispatchSignature L) σ} {s : σ}

theorem ensures_dispatch {α : Type} {c : DispatchCall L} {f : c.Reply → DispatchM L α}
    {Q : Except Panic α → σ → List (DispatchEvent L σ) → Prop}
    (hf : Ensures h (f (h.answer c s).1) (h.answer c s).2
      (fun v t es => Q v t (⟨s, c, (h.answer c s).1⟩ :: es))) :
    Ensures h (c.ask >>= f) s Q :=
  ensures_call_bind (S := dispatchSignature L) (c := c) hf

def Decrypts (remote : ProtocolAddress) (v : Except Panic (Option Bytes)) (es : List (DispatchEvent L σ)) : Prop :=
  ∃ r, v = .ok r ∧ decryptions es = (r.map (remote, ·)).toList ∧ syncsReached es = []

theorem decrypts_none (remote : ProtocolAddress) :
    Ensures h (pure none : DispatchM L (Option Bytes)) s (fun v _ es => Decrypts remote v es) :=
  ensures_pure ⟨none, rfl, rfl, rfl⟩

theorem decryptPreKey_run (content : Bytes) (remote local_addr : ProtocolAddress) :
    Ensures h (decryptPreKey content remote local_addr) s (fun v _ es => Decrypts remote v es) := by
  unfold decryptPreKey
  cases hmsg : L.prekey_signal_message content with
  | error e => exact decrypts_none remote
  | ok msg =>
    apply ensures_dispatch
    generalize (h.answer (DispatchCall.message_decrypt_prekey msg remote local_addr) s).1 = reply
    cases reply with
    | error e => exact ⟨none, rfl, rfl, rfl⟩
    | ok plaintext => exact ⟨some plaintext, rfl, rfl, rfl⟩

theorem decryptSignal_run (content : Bytes) (remote : ProtocolAddress) :
    Ensures h (decryptSignal content remote) s (fun v _ es => Decrypts remote v es) := by
  unfold decryptSignal
  cases hmsg : L.signal_message content with
  | error e => exact decrypts_none remote
  | ok msg =>
    apply ensures_dispatch
    generalize (h.answer (DispatchCall.message_decrypt_signal msg remote) s).1 = reply
    cases reply with
    | error e => exact ⟨none, rfl, rfl, rfl⟩
    | ok plaintext => exact ⟨some plaintext, rfl, rfl, rfl⟩

theorem decryptSealed_run (usmc : L.Usmc) (remote local_addr : ProtocolAddress) :
    Ensures h (decryptSealed usmc remote local_addr) s (fun v _ es => Decrypts remote v es) := by
  unfold decryptSealed
  split
  · exact decryptPreKey_run _ remote local_addr
  · exact decryptSignal_run _ remote
  · exact decrypts_none remote

def Opens (v : Except Panic (Option Opened)) (es : List (DispatchEvent L σ)) : Prop :=
  ∃ r : Option Opened, v = .ok r ∧
    decryptions es = (r.map (fun o => (o.remote_addr, o.plaintext))).toList ∧ syncsReached es = []

theorem opens_none :
    Ensures h (pure none : DispatchM L (Option Opened)) s (fun v _ es => Opens v es) :=
  ensures_pure ⟨none, rfl, rfl, rfl⟩

theorem opens_decrypted {x : DispatchM L (Option Bytes)} {remote : ProtocolAddress} (ts : UInt64)
    (hx : Ensures h x s (fun v _ es => Decrypts remote v es)) :
    Ensures h (x >>= fun plaintext => pure (plaintext.map (fun p => (⟨p, remote, ts⟩ : Opened)))) s
      (fun v _ es => Opens v es) := by
  apply ensures_bind hx
  · rintro e t es ⟨r, hr, -⟩
    cases hr
  · rintro plaintext t es ⟨r, hr, hd, hsync⟩
    obtain rfl := Except.ok.inj hr
    refine ensures_pure ⟨_, rfl, ?_, ?_⟩
    · rw [List.append_nil, hd]
      cases plaintext <;> rfl
    · rw [List.append_nil, hsync]

theorem openSealed_run (content : Bytes) (ts : UInt64) (local_addr : ProtocolAddress) :
    Ensures h (openSealed content ts local_addr) s (fun v _ es => Opens v es) := by
  apply ensures_dispatch
  generalize (h.answer (DispatchCall.sealed_sender_decrypt_to_usmc content) s).1 = reply
  have hskip : ∀ x : DispatchM L (Option Opened), ∀ t, Ensures h x t (fun v _ es => Opens v es) →
      Ensures h x t (fun v _ es =>
        Opens v (⟨s, DispatchCall.sealed_sender_decrypt_to_usmc content, reply⟩ :: es)) := by
    intro x t hx
    apply hx.mono
    rintro v u es ⟨r, hv, hd, hsync⟩
    exact ⟨r, hv, hd, hsync⟩
  apply hskip
  cases reply with
  | error e => exact opens_none
  | ok usmc =>
    simp only
    cases hcert : certifiedSender usmc ts with
    | none => exact opens_none
    | some remote_addr => exact opens_decrypted ts (decryptSealed_run usmc remote_addr local_addr)

theorem openNamed_run (env_type : ℤ) (source_id : String) (source_dev : ℕ) (content : Bytes) (ts : UInt64)
    (local_addr : ProtocolAddress) :
    Ensures h (openNamed env_type source_id source_dev content ts local_addr) s (fun v _ es => Opens v es) := by
  unfold openNamed
  cases hdev : DeviceId.new source_dev with
  | none => exact opens_none
  | some sender_device =>
    simp only
    split_ifs
    · exact opens_decrypted ts (decryptPreKey_run content _ local_addr)
    · exact opens_decrypted ts (decryptSignal_run content _)
    · exact opens_none

theorem openEnvelope_run (body : Bytes) (local_addr : ProtocolAddress) :
    Ensures h (openEnvelope body local_addr) s (fun v _ es => Opens v es) := by
  unfold openEnvelope
  cases hdecode : EnvelopeProto.decode body with
  | none => exact opens_none
  | some envelope =>
    simp only
    cases hcontent : envelope.content with
    | none => exact opens_none
    | some content =>
      simp only
      split_ifs
      · exact openSealed_run _ _ local_addr
      · exact openNamed_run _ _ _ _ _ local_addr

def Routes (syncs : List SyncMessageProto) (es : List (DispatchEvent L σ)) : Prop :=
  decryptions es = [] ∧ syncsReached es = syncs

theorem Routes.append {syncs : List SyncMessageProto} {es es' : List (DispatchEvent L σ)} (hes : Routes syncs es)
    (hes' : Routes [] es') : Routes syncs (es ++ es') := by
  refine ⟨?_, ?_⟩
  · rw [decryptions_append, hes.1, hes'.1, List.append_nil]
  · rw [syncsReached_append, hes.2, hes'.2, List.append_nil]

theorem redraw_run : Ensures h (DispatchCall.redraw.ask : DispatchM L Unit) s (fun _ _ es => Routes [] es) :=
  ensures_call (S := dispatchSignature L) (c := DispatchCall.redraw) ⟨rfl, rfl⟩

theorem deliver_data_run (dm : DataMessageProto) (remote : ProtocolAddress) (ts : UInt64) :
    Ensures h (orPanic (DispatchCall.deliver_data_message dm remote ts).ask : DispatchM L Bool) s
      (fun _ _ es => Routes [] es) := by
  apply ensures_dispatch
  exact ensures_ofExcept ⟨rfl, rfl⟩

theorem deliver_sync_run (sync : SyncMessageProto) (ts : UInt64) :
    Ensures h (orPanic (DispatchCall.deliver_sync_message sync ts).ask : DispatchM L Bool) s
      (fun _ _ es => Routes [sync] es) := by
  apply ensures_dispatch
  exact ensures_ofExcept ⟨rfl, rfl⟩

theorem deliverContent_run (plaintext : Bytes) (remote : ProtocolAddress) (ts : UInt64) :
    Ensures h (deliverContent (fun dm a ts => orPanic (DispatchCall.deliver_data_message dm a ts).ask)
      (fun sync ts => orPanic (DispatchCall.deliver_sync_message sync ts).ask)
      (fun a => (DispatchCall.set_current_recipient a).ask) DispatchCall.redraw.ask plaintext remote ts) s
      (fun _ _ (es : List (DispatchEvent L σ)) => Routes (syncOf plaintext).toList es) := by
  unfold deliverContent syncOf
  cases ContentProto.decode (strip_signal_padding plaintext) with
  | none => exact ensures_pure ⟨rfl, rfl⟩
  | some content =>
    obtain ⟨data_message, sync_message⟩ := content
    cases data_message with
    | some dm =>
      apply ensures_bind (deliver_data_run dm remote ts)
      · exact fun e t es hes => hes
      · intro was_delivered t es hes
        cases was_delivered with
        | true =>
          apply ensures_dispatch
          apply redraw_run.mono
          intro v u es' hes'
          exact hes.append ⟨hes'.1, hes'.2⟩
        | false => exact ensures_pure (hes.append ⟨rfl, rfl⟩)
    | none =>
      cases sync_message with
      | none => exact ensures_pure ⟨rfl, rfl⟩
      | some sync =>
        apply ensures_bind (deliver_sync_run sync ts)
        · exact fun e t es hes => hes
        · intro delivered t es hes
          cases delivered with
          | true =>
            apply redraw_run.mono
            exact fun v u es' hes' => hes.append hes'
          | false => exact ensures_pure (hes.append ⟨rfl, rfl⟩)

/-- Every run establishes at most one plaintext, and reaches `deliver_sync_message` exactly when that
plaintext is a sync message: whoever sent it. -/
theorem dispatch_run (body : Bytes) (local_addr : ProtocolAddress) :
    Ensures h (dispatch_envelope body local_addr) s (fun _ _ es => ∃ r : Option (ProtocolAddress × Bytes),
      decryptions es = r.toList ∧ syncsReached es = (r.bind (fun x => syncOf x.2)).toList) := by
  apply ensures_bind (openEnvelope_run body local_addr)
  · rintro e t es ⟨r, hr, -⟩
    cases hr
  · rintro opened t es ⟨r, hr, hd, hsync⟩
    obtain rfl := Except.ok.inj hr
    cases opened with
    | none =>
      refine ensures_pure ⟨none, ?_, ?_⟩
      · rw [List.append_nil, hd]
        rfl
      · rw [List.append_nil, hsync]
        rfl
    | some o =>
      apply (deliverContent_run o.plaintext o.remote_addr o.ts).mono
      rintro v u es' ⟨hd', hsync'⟩
      refine ⟨some (o.remote_addr, o.plaintext), ?_, ?_⟩
      · rw [decryptions_append, hd, hd', List.append_nil]
        rfl
      · rw [syncsReached_append, hsync, hsync']
        rfl

/-- Transcripts are delivered from the own account only, exactly when no other sender's plaintext is a
sync message: nothing on the way looks at who the sender is. -/
theorem transcripts_own_account_iff (h : Handler (dispatchSignature L) σ) (s : σ) (body : Bytes)
    (local_addr : ProtocolAddress) :
    let o := (dispatch_envelope body local_addr).exec h s
    (∀ remote plaintext, (remote, plaintext) ∈ decryptions o.events → syncsReached o.events ≠ [] →
      remote.name = local_addr.name) ↔
    ∀ remote plaintext, (remote, plaintext) ∈ decryptions o.events →
      remote.name = local_addr.name ∨ syncOf plaintext = none := by
  intro o
  obtain ⟨r, hd, hsync⟩ := dispatch_run (h := h) (s := s) body local_addr
  change decryptions o.events = _ at hd
  change syncsReached o.events = _ at hsync
  rw [hd, hsync]
  cases r with
  | none =>
    constructor
    · intro _ remote plaintext hmem
      cases hmem
    · intro _ remote plaintext hmem
      cases hmem
  | some x =>
    constructor
    · intro hown remote plaintext hmem
      obtain rfl := List.mem_singleton.mp hmem
      by_cases hnone : syncOf plaintext = none
      · exact .inr hnone
      · refine .inl (hown remote plaintext hmem ?_)
        obtain ⟨sync, hs⟩ := Option.ne_none_iff_exists'.mp hnone
        simp [hs]
    · intro hcond remote plaintext hmem hreached
      obtain rfl := List.mem_singleton.mp hmem
      rcases hcond remote plaintext hmem with hname | hnone
      · exact hname
      · exact absurd (by simp [hnone]) hreached

section Forged

abbrev plainCrates : InboundCrates where
  PublicKey := Bytes
  Usmc := Unit
  SenderCertificate := Unit
  PreKeySignalMessage := Bytes
  SignalMessage := Bytes
  b64_decode := fun _ => .error "Invalid symbol"
  public_key_deserialize := fun _ => .error (.Other "NoKeyTypeIdentifier")
  sender := fun _ => .error (.Other "InvalidSealedSenderMessage")
  msg_type := fun _ => .error (.Other "InvalidSealedSenderMessage")
  contents := fun _ => .error (.Other "InvalidSealedSenderMessage")
  validate_with_trust_roots := fun _ _ _ => .ok false
  sender_uuid := fun _ => .error (.Other "InvalidSealedSenderMessage")
  sender_device_id := fun _ => .error (.Other "InvalidSealedSenderMessage")
  prekey_signal_message := fun content => .ok content
  signal_message := fun content => .ok content

def plainEnv : InboundEnv plainCrates where
  sealed_sender_decrypt_to_usmc := fun _ p => (.error (.Other "InvalidSealedSenderMessage"), p)
  message_decrypt_prekey := fun msg _ _ p => (.ok msg, p)
  message_decrypt_signal := fun msg _ p => (.ok msg, p)

def aliceAddress : ProtocolAddress := ⟨"9d0652a3-dcc3-4d11-975f-74d61598733f", ⟨2, DeviceId.two_valid⟩⟩

def malloryAddress : ProtocolAddress := ⟨"5b1c2f2e-0f6a-4b6e-9a55-1f3f0f5d2c11", ⟨1, DeviceId.one_valid⟩⟩

def bobAci : String := "0a1b2c3d-4e5f-6071-8293-a4b5c6d7e8f9"

def forgedContent : Bytes :=
  signal_pad (encodeFields [.bytes 2 (encodeFields [.bytes 1 (encodeFields [.bytes 1 (utf8 bobAci),
    .varint 2 1700000000000, .bytes 3 (encodeFields [.bytes 1 (utf8 "I owe you"),
      .varint 7 1700000000000])])])])

def forgedEnvelope : Bytes :=
  encodeFields [.varint 1 1, .bytes 2 (utf8 malloryAddress.name), .varint 5 1700000000000, .varint 7 1,
    .bytes 8 forgedContent]

def started : App := ⟨∅, ⟨some (DIALOGUE_DICT, some "default"), []⟩⟩

/-- Mallory's message appears in Alice's conversation with Bob as sent by Alice, and is recorded there. -/
theorem forged_transcript_delivered :
    let o := (dispatch_envelope (L := plainCrates) forgedEnvelope aliceAddress).exec plainEnv.handler started
    ¬(∀ remote plaintext, (remote, plaintext) ∈ decryptions o.events → syncsReached o.events ≠ [] →
      remote.name = aliceAddress.name) ∧
    o.state.chat.posts = [⟨some (DIALOGUE_DICT, some bobAci), "→0a1b2c3d", 1700000000000, "I owe you"⟩] ∧
    (o.state.pddb.text Peers.PEERS_DICT bobAci).isSome := by
  intro o
  have hrun : (malloryAddress, forgedContent) ∈ decryptions o.events ∧ syncsReached o.events ≠ [] ∧
      o.state.chat.posts = [⟨some (DIALOGUE_DICT, some bobAci), "→0a1b2c3d", 1700000000000, "I owe you"⟩] ∧
      (o.state.pddb.text Peers.PEERS_DICT bobAci).isSome := by decide +kernel
  obtain ⟨hdecrypted, hreached, heffects⟩ := hrun
  refine ⟨?_, heffects⟩
  intro hown
  have hname := hown malloryAddress forgedContent hdecrypted hreached
  exact absurd hname (by decide)

end Forged

end MainWs

end XousSignalClient
