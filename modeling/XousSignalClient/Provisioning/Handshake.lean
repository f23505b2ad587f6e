import XousSignalClient.Account.Restart
import XousSignalClient.Encoding.FormUrlencoded
import XousSignalClient.Encoding.Json
import XousSignalClient.Interaction.Ensures
import XousSignalClient.Provisioning.Attempts
import XousSignalClient.Provisioning.Cipher

namespace XousSignalClient

open Encoding Interaction Fallible

namespace Provisioning

section Frames

structure ProvisioningAddressProto where
  address : Option String

def ProvisioningAddressProto.decode (bs : Bytes) : Option ProvisioningAddressProto := do
  let fields ← decodeFields MainWs.RECURSION_LIMIT bs
  let address ← optionalField readString 1 fields
  pure ⟨address⟩

def ProvisioningUuid.decode (bytes : Bytes) : Except Error String := do
  let ws ← (WebSocketMessageProto.decode bytes).elim
    (.error ⟨.InvalidData, "failed to decode WebSocketMessage"⟩) .ok
  let body ← (ws.request.bind (·.body)).elim (.error ⟨.InvalidData, "missing request.body"⟩) .ok
  let proto ← (ProvisioningAddressProto.decode body).elim
    (.error ⟨.InvalidData, "failed to decode ProvisioningAddress"⟩) .ok
  proto.address.elim (.error ⟨.InvalidData, "missing address in ProvisioningAddress"⟩) .ok

def WebSocketRequestMessageProto.fields (m : WebSocketRequestMessageProto) : List WireField :=
  Outgoing.stringField 1 m.verb ++ Outgoing.stringField 2 m.path ++ bytesField 3 m.body ++
    Outgoing.uint64Field 4 m.id

def WebSocketMessageProto.fields (m : WebSocketMessageProto) : List WireField :=
  int32Field 1 m.type ++ Outgoing.messageField 2 (m.request.map WebSocketRequestMessageProto.fields)

def WebSocketMessageProto.encode_to_vec (m : WebSocketMessageProto) : Bytes := encodeFields m.fields

def ProvisioningAddressProto.fields (m : ProvisioningAddressProto) : List WireField :=
  Outgoing.stringField 1 m.address

def ProvisioningAddressProto.encode_to_vec (m : ProvisioningAddressProto) : Bytes := encodeFields m.fields

theorem WebSocketRequestMessageProto.scalar (m : WebSocketRequestMessageProto) : ∀ f ∈ m.fields, f.Scalar :=
  scalar_append (scalar_append (scalar_append (scalar_stringField (by decide) _) (scalar_stringField (by decide) _))
    (scalar_bytesField (by decide) _)) (scalar_uint64Field (by decide) _)

theorem WebSocketRequestMessageProto.read_fields (m : WebSocketRequestMessageProto) :
    WebSocketRequestMessageProto.read m.fields = some m := by
  have hverb : optionalField readString 1 m.fields = some m.verb := optionalField_string (by simp [fields])
  have hpath : optionalField readString 2 m.fields = some m.path := optionalField_string (by simp [fields])
  have hbody : optionalField readBytes 3 m.fields = some m.body := optionalField_bytes (by simp [fields])
  have hid : optionalField readUint64 4 m.fields = some m.id := optionalField_uint64 (by simp [fields])
  rw [read, hverb, hpath, hbody, hid]
  rfl

theorem WebSocketMessageProto.decode_encode {m : WebSocketMessageProto}
    (htyped : ∀ n, m.type = some n → -2 ^ 31 ≤ n ∧ n < 2 ^ 31) (hlen : m.encode_to_vec.length < 2 ^ 64) :
    WebSocketMessageProto.decode m.encode_to_vec = some m := by
  have htype : optionalField readInt32 1 m.fields = some m.type := optionalField_int32 htyped (by simp [fields])
  have hrequest : MainWs.embedded WebSocketRequestMessageProto.read (MainWs.RECURSION_LIMIT - 1) 2 m.fields =
      some m.request :=
    embedded_written (fun a _ => a.read_fields) (fun a _ => a.scalar) (by simp [fields]) hlen
  have hscalar : ∀ f ∈ m.fields, f.Scalar :=
    scalar_append (scalar_int32Field (by decide) _) (scalar_messageField (by decide) _)
  rw [decode, encode_to_vec, decodeFields_encode MainWs.RECURSION_LIMIT hscalar hlen]
  simp only [Option.bind_eq_bind, Option.bind_some, htype, hrequest]
  rfl

theorem ProvisioningAddressProto.decode_encode {m : ProvisioningAddressProto}
    (hlen : m.encode_to_vec.length < 2 ^ 64) : ProvisioningAddressProto.decode m.encode_to_vec = some m := by
  have haddress : optionalField readString 1 m.fields = some m.address := optionalField_string (by simp [fields])
  have hscalar : ∀ f ∈ m.fields, f.Scalar := scalar_stringField (by decide) _
  rw [decode, encode_to_vec, decodeFields_encode MainWs.RECURSION_LIMIT hscalar hlen]
  simp only [Option.bind_eq_bind, Option.bind_some, haddress]
  rfl

structure Pushes (frame body : Bytes) : Prop where
  pushed : ∃ m : WebSocketMessageProto, (∀ n, m.type = some n → -2 ^ 31 ≤ n ∧ n < 2 ^ 31) ∧
    m.request.bind (·.body) = some body ∧ frame = m.encode_to_vec
  fits : frame.length < 2 ^ 63

theorem Pushes.decode {frame body : Bytes} (h : Pushes frame body) :
    ∃ ws, WebSocketMessageProto.decode frame = some ws ∧ ws.request.bind (·.body) = some body := by
  obtain ⟨m, htyped, hbody, rfl⟩ := h.pushed
  exact ⟨m, WebSocketMessageProto.decode_encode htyped (h.fits.trans (by decide)), hbody⟩

theorem Pushes.length_le {frame body : Bytes} (h : Pushes frame body) : body.length ≤ frame.length := by
  obtain ⟨⟨type, request⟩, -, hbody, rfl⟩ := h.pushed
  obtain ⟨request, rfl, hrequest⟩ := Option.bind_eq_some_iff.mp hbody
  have hinner : WireField.bytes 3 body ∈ request.fields := by
    simp [WebSocketRequestMessageProto.fields, bytesField, hrequest]
  have houter : WireField.bytes 2 (encodeFields request.fields) ∈
      WebSocketMessageProto.fields ⟨type, some request⟩ := by
    simp [WebSocketMessageProto.fields, Outgoing.messageField]
  exact (length_bytes_le hinner).trans (length_bytes_le houter)

theorem ProvisioningUuid.decode_pushed {frame : Bytes} {uuid : String}
    (h : Pushes frame (ProvisioningAddressProto.encode_to_vec ⟨some uuid⟩)) :
    ProvisioningUuid.decode frame = .ok uuid := by
  obtain ⟨ws, hws, hbody⟩ := h.decode
  have hproto := ProvisioningAddressProto.decode_encode (m := ⟨some uuid⟩)
    ((h.length_le.trans_lt h.fits).trans (by decide))
  rw [ProvisioningUuid.decode, hws, Option.elim_some]
  dsimp only [bind, Except.bind]
  rw [hbody, Option.elim_some]
  dsimp only
  rw [hproto, Option.elim_some]
  rfl

theorem decode_pushed {C : CipherCrates} {identity : IdentityKeyPair} {frame envelope : Bytes}
    (h : Pushes frame envelope) {pm : ProvisionMessage}
    (hdecode : valueOf (decode identity frame : CipherM C ProvisionMessage) = .ok pm) :
    valueOf (decrypt identity envelope : CipherM C ProvisionMessage) = .ok pm := by
  obtain ⟨ws, hws, hbody⟩ := h.decode
  unfold Provisioning.decode at hdecode
  simp only [valueOf_bind_ok, valueOf_okOr_ok] at hdecode
  obtain ⟨ws', hws', body, hbody', hpm⟩ := hdecode
  obtain rfl := Option.some.inj (hws.symm.trans hws')
  obtain rfl := Option.some.inj (hbody.symm.trans hbody')
  exact hpm

end Frames

section Uri

/-- `Url::parse_with_params`, for a URL without a query. -/
def parse_with_params (url : String) (params : List (String × String)) : String :=
  url ++ "?" ++ String.ofList (FormUrlencoded.serialize params)

/-- What the primary device reads off the QR code: the address and the public key. -/
def scan (uri : String) : Option (String × Bytes) := do
  let query ← literal "sgnl://linkdevice?".toList uri.toList
  let params := FormUrlencoded.parse query
  let uuid ← params.lookup "uuid"
  let pub_key ← (params.lookup "pub_key").bind base64DecodeNoPad
  pure (uuid, pub_key)

theorem scan_parse_with_params (uuid : String) (key : Bytes) :
    scan (parse_with_params "sgnl://linkdevice"
      [("uuid", uuid), ("pub_key", base64EncodeNoPad key), ("capabilities", "backup5")]) = some (uuid, key) := by
  have huri : (parse_with_params "sgnl://linkdevice"
      [("uuid", uuid), ("pub_key", base64EncodeNoPad key), ("capabilities", "backup5")]).toList =
      "sgnl://linkdevice?".toList ++ FormUrlencoded.serialize
        [("uuid", uuid), ("pub_key", base64EncodeNoPad key), ("capabilities", "backup5")] := by
    simp [parse_with_params]
  rw [scan, huri, literal_append]
  simp only [Option.bind_eq_bind, Option.bind_some]
  rw [FormUrlencoded.parse_serialize (List.cons_ne_nil _ _)]
  have hkey : List.lookup "pub_key"
      [("uuid", uuid), ("pub_key", base64EncodeNoPad key), ("capabilities", "backup5")] =
      some (base64EncodeNoPad key) := rfl
  rw [hkey, Option.bind_some, base64DecodeNoPad_encode]
  rfl

end Uri

section Runs

variable {M : ManagerCrates} {σ : Type} {h : Handler (managerSignature M) σ} {s : σ}

abbrev ManagerEvent (M : ManagerCrates) (σ : Type) := Event (managerSignature M) σ

abbrev managerEvent (s : σ) (c : ManagerCall M) (r : c.Reply) : ManagerEvent M σ := ⟨s, c, r⟩

/-- An attempt that got its envelope: the server announces the address, a key pair is generated, the URI is shown,
and the envelope arrives, in this order. -/
def Offered (es : List (ManagerEvent M σ)) (frame : Bytes) (identity : IdentityKeyPair) (uri : String)
    (envelope : Bytes) : Prop :=
  ∃ s₁ s₂ s₃ s₄ cid, List.Sublist
    [managerEvent s₁ .read_once (.ok (.Binary frame)), managerEvent s₂ .generate_identity_key_pair identity,
      managerEvent s₃ (.show_notification uri) (.ok ()),
      managerEvent s₄ (.wait_and_take_binary cid) (.Binary envelope)] es

def Binds (M : ManagerCrates) (frame : Bytes) (identity : IdentityKeyPair) (uri : String) : Prop :=
  ∃ uuid, M.decode_uuid frame = .ok uuid ∧ ((M.b64_url_decode identity.djb_identity_key).getD []).length = 33 ∧
    M.parse_with_params "sgnl://linkdevice" [("uuid", uuid),
      ("pub_key", base64EncodeNoPad ((M.b64_url_decode identity.djb_identity_key).getD [])),
      ("capabilities", "backup5")] = .ok uri

theorem ensures_closeAndFail {α : Type} {Q : Except AttemptError α → σ → List (ManagerEvent M σ) → Prop}
    (hQ : ∀ e t es, Q (.error e) t es) : Ensures h closeAndFail s Q :=
  ensures_call_bind (ensures_throw (hQ _ _ _))

theorem ensures_readUuid : Ensures h readUuid s (fun v _ es => ∀ uuid, v = .ok uuid → ∃ frame,
    M.decode_uuid frame = .ok uuid ∧ es = [managerEvent s .read_once (.ok (.Binary frame))]) := by
  unfold readUuid
  apply ensures_call_bind
  have hfail : ∀ t es, Ensures h (closeAndFail : ManagerM M String) t (fun v _ es' => ∀ uuid, v = .ok uuid →
      ∃ frame, M.decode_uuid frame = .ok uuid ∧
        es ++ es' = [managerEvent s .read_once (.ok (.Binary frame))]) :=
    fun _ _ => ensures_closeAndFail (fun e t es uuid hv => by cases hv)
  generalize (h.answer (ManagerCall.read_once : ManagerCall M) s).1 = reply
  generalize (h.answer (ManagerCall.read_once : ManagerCall M) s).2 = t
  match reply with
  | .error e => exact hfail _ [_]
  | .ok (.Text _) => exact hfail _ [_]
  | .ok (.Ping _) => exact hfail _ [_]
  | .ok (.Pong _) => exact hfail _ [_]
  | .ok .Frame => exact hfail _ [_]
  | .ok (.Close _) => exact hfail _ [_]
  | .ok (.Binary frame) =>
    dsimp only
    split
    · next id hid =>
      refine ensures_pure ?_
      rintro _ ⟨⟩
      exact ⟨frame, hid, rfl⟩
    · exact hfail _ [_]

theorem ensures_deviceLinkUri (uuid : String) (identity : IdentityKeyPair) :
    Ensures h (deviceLinkUri uuid identity) s (fun v _ es => ∀ uri, v = .ok uri →
      ((M.b64_url_decode identity.djb_identity_key).getD []).length = 33 ∧
      M.parse_with_params "sgnl://linkdevice" [("uuid", uuid),
        ("pub_key", base64EncodeNoPad ((M.b64_url_decode identity.djb_identity_key).getD [])),
        ("capabilities", "backup5")] = .ok uri ∧ es = []) := by
  unfold deviceLinkUri
  dsimp only
  split_ifs with hlen
  · exact ensures_closeAndFail (fun e t es uri hv => by cases hv)
  · split
    · next uri' huri =>
      refine ensures_pure ?_
      rintro _ ⟨⟩
      exact ⟨not_not.mp hlen, huri, rfl⟩
    · exact ensures_closeAndFail (fun e t es uri hv => by cases hv)

theorem ensures_awaitEnvelope (token : ℕ) (uri : String) :
    Ensures h (awaitEnvelope token uri) s (fun v _ es => ∀ envelope, v = .ok (.Binary envelope) →
      ∃ s₃ s₄ cid, List.Sublist [managerEvent s₃ (.show_notification uri) (.ok ()),
        managerEvent s₄ (.wait_and_take_binary cid) (.Binary envelope)] es) := by
  unfold awaitEnvelope
  apply ensures_call_bind
  generalize (h.answer (ManagerCall.spawn 180 : ManagerCall M) s).1 = reply
  generalize (h.answer (ManagerCall.spawn 180 : ManagerCall M) s).2 = t
  match reply with
  | .error e => exact ensures_throw (fun envelope hv => by cases hv)
  | .ok cid =>
    have hwatcher : Ensures h (FlapWatcher.new token cid : ManagerM M Unit) t (fun _ _ _ => True) := trivial
    apply ensures_bind hwatcher (fun e t es _ envelope hv => by cases hv)
    rintro - t' es -
    apply ensures_call_bind
    generalize (h.answer (ManagerCall.show_notification uri : ManagerCall M) t').1 = shown
    generalize (h.answer (ManagerCall.show_notification uri : ManagerCall M) t').2 = t''
    have hcancel : ∀ u, Ensures h (SignalWsServer.cancel cid : ManagerM M (Except Error Unit)) u
        (fun _ _ _ => True) := fun _ => trivial
    match shown with
    | .error e =>
      apply ensures_bind (hcancel t'') (fun e t es _ envelope hv => by cases hv)
      rintro _ _ _ -
      exact ensures_throw (fun envelope hv => by cases hv)
    | .ok () =>
      apply ensures_call_bind
      generalize (h.answer (ManagerCall.wait_and_take_binary cid : ManagerCall M) t'').1 = result
      generalize (h.answer (ManagerCall.wait_and_take_binary cid : ManagerCall M) t'').2 = t₃
      apply ensures_bind (hcancel t₃) (fun e t es _ envelope hv => by cases hv)
      rintro _ _ es' -
      refine ensures_pure ?_
      rintro envelope ⟨⟩
      refine ⟨t', t'', cid, ?_⟩
      refine .cons _ (List.sublist_append_of_sublist_right ?_)
      exact ((List.nil_sublist _).cons_cons _).cons_cons _

theorem ensures_provision_one_attempt (token : ℕ) :
    Ensures h (provision_one_attempt token) s (fun v _ es => ∀ envelope identity, v = .ok (envelope, identity) →
      ∃ frame uri, Binds M frame identity uri ∧ Offered es frame identity uri envelope) := by
  unfold provision_one_attempt
  apply ensures_call_bind
  generalize (h.answer (ManagerCall.new_provision : ManagerCall M) s).1 = reply
  generalize (h.answer (ManagerCall.new_provision : ManagerCall M) s).2 = t
  match reply with
  | .error e => exact ensures_throw (fun _ _ hv => by cases hv)
  | .ok () =>
    apply ensures_bind ensures_readUuid (fun e t es _ _ _ hv => by cases hv)
    intro uuid t₁ es₁ huuid
    obtain ⟨frame, hframe, rfl⟩ := huuid uuid rfl
    apply ensures_call_bind
    generalize (h.answer (ManagerCall.generate_identity_key_pair : ManagerCall M) t₁).1 = identity
    generalize (h.answer (ManagerCall.generate_identity_key_pair : ManagerCall M) t₁).2 = t₂
    apply ensures_bind (ensures_deviceLinkUri uuid identity) (fun e t es _ _ _ hv => by cases hv)
    intro uri t₃ es₂ huri
    obtain ⟨hlen, hparse, rfl⟩ := huri uri rfl
    have hmodals : Ensures h (connectModals : ManagerM M Unit) t₃ (fun _ _ _ => True) := trivial
    apply ensures_bind hmodals (fun e t es _ _ _ hv => by cases hv)
    rintro - t₄ es₃ -
    apply ensures_bind (ensures_awaitEnvelope token uri) (fun e t es _ _ _ hv => by cases hv)
    intro result t₅ es₄ hresult
    cases result with
    | Binary b =>
      refine ensures_pure ?_
      rintro _ _ ⟨⟩
      obtain ⟨s₃, s₄, cid, hsub⟩ := hresult b rfl
      refine ⟨frame, uri, ⟨uuid, hframe, hlen, hparse⟩, t, t₁, s₃, s₄, cid, ?_⟩
      refine .cons _ (.cons_cons _ (.cons_cons _ ?_))
      simp only [List.nil_append, List.append_nil]
      exact hsub.trans (List.sublist_append_right es₃ es₄)
    | _ => exact ensures_throw (fun _ _ hv => by cases hv)

def ManagerCall.isLink : ManagerCall M → Bool
  | .link _ => true
  | _ => false

def Apart (c : ManagerCall M) : Prop := ManagerCall.isLink c = false

theorem only_manage (c : ManagerCall M) (hc : Apart c) : (manage c).run.Only Apart := only_call _ hc

theorem only_closeAndFail {α : Type} : (closeAndFail : ManagerM M α).run.Only Apart :=
  only_bind (only_manage .close rfl) (fun _ => .ret _)

theorem only_cancel (cid : ℕ) : (SignalWsServer.cancel cid : ManagerM M (Except Error Unit)).run.Only Apart :=
  only_bind (only_manage (.send_cancel cid) rfl)
    (fun _ => only_bind (only_manage (.disconnect cid) rfl) (fun _ => .ret _))

theorem only_readUuid : (readUuid : ManagerM M String).run.Only Apart := by
  refine only_bind (only_manage .read_once rfl) ?_
  intro reply
  split
  · split
    · exact .ret _
    · exact only_closeAndFail
  · exact only_closeAndFail
  · exact only_closeAndFail

theorem only_deviceLinkUri (uuid : String) (identity : IdentityKeyPair) :
    (deviceLinkUri uuid identity : ManagerM M String).run.Only Apart := by
  unfold deviceLinkUri
  dsimp only
  split_ifs
  · exact only_closeAndFail
  · split
    · exact .ret _
    · exact only_closeAndFail

theorem only_connectModals : (connectModals : ManagerM M Unit).run.Only Apart := by
  refine only_bind (only_manage .xous_names rfl) ?_
  intro names
  split
  · exact only_closeAndFail
  · refine only_bind (only_manage .modals rfl) ?_
    intro modals
    split
    · exact only_closeAndFail
    · exact .ret _

theorem only_awaitEnvelope (token : ℕ) (uri : String) :
    (awaitEnvelope token uri : ManagerM M WsResult).run.Only Apart := by
  refine only_bind (only_manage (.spawn 180) rfl) ?_
  intro spawned
  split
  · exact .ret _
  · next cid =>
    have hwatcher : (FlapWatcher.new token cid : ManagerM M Unit).run.Only Apart :=
      only_bind (only_manage .current rfl) (fun last => only_manage (.subscribe last token cid) rfl)
    refine only_bind hwatcher ?_
    rintro -
    refine only_bind (only_manage (.show_notification uri) rfl) ?_
    intro shown
    split
    · exact only_bind (only_cancel cid) (fun _ => .ret _)
    · exact only_bind (only_manage (.wait_and_take_binary cid) rfl)
        (fun _ => only_bind (only_cancel cid) (fun _ => .ret _))

theorem only_provision_one_attempt (token : ℕ) :
    (provision_one_attempt token : ManagerM M (Bytes × IdentityKeyPair)).run.Only Apart := by
  refine only_bind (only_manage .new_provision rfl) ?_
  intro provision
  split
  · exact .ret _
  · apply only_bind only_readUuid
    intro uuid
    refine only_bind (only_manage .generate_identity_key_pair rfl) ?_
    intro identity
    apply only_bind (only_deviceLinkUri uuid identity)
    intro uri
    apply only_bind only_connectModals
    rintro -
    apply only_bind (only_awaitEnvelope token uri)
    intro result
    split <;> exact .ret _

def Obtained (M : ManagerCrates) (es : List (ManagerEvent M σ)) (envelope : Bytes) (identity : IdentityKeyPair) :
    Prop :=
  ∃ before attempt frame uri, es = before ++ attempt ∧ Binds M frame identity uri ∧
    Offered attempt frame identity uri envelope

theorem ensures_retryAttempt : Ensures h (retryAttempt : ManagerM M (Bytes × IdentityKeyPair)) s
    (fun v _ es => (∀ e ∈ es, Apart e.call) ∧
      ∀ envelope identity, v = .ok (envelope, identity) → Obtained M es envelope identity) := by
  have honly : (retryAttempt : ManagerM M (Bytes × IdentityKeyPair)).run.Only Apart := by
    refine only_bind (only_manage .wait_for_connection rfl) ?_
    intro connected
    split
    · exact .ret _
    · refine only_bind (only_manage .token_new rfl) ?_
      intro token2
      apply only_bind (only_lift (only_provision_one_attempt token2))
      intro result
      split <;> exact .ret _
  refine (ensures_only honly).and ?_
  unfold retryAttempt
  apply ensures_call_bind
  generalize hreply : (h.answer (ManagerCall.wait_for_connection : ManagerCall M) s).1 = reply
  generalize (h.answer (ManagerCall.wait_for_connection : ManagerCall M) s).2 = t
  match reply with
  | .error e => exact ensures_throw (fun _ _ hv => by cases hv)
  | .ok () =>
    apply ensures_call_bind
    generalize (h.answer (ManagerCall.token_new : ManagerCall M) t).1 = token2
    generalize (h.answer (ManagerCall.token_new : ManagerCall M) t).2 = t'
    apply ensures_attempt_bind (ensures_provision_one_attempt token2)
    intro result u es hresult
    match result with
    | .error e => exact ensures_throw (fun _ _ hv => by cases hv)
    | .ok (envelope, identity) =>
      refine ensures_pure ?_
      rintro _ _ ⟨⟩
      obtain ⟨frame, uri, hbinds, hoffered⟩ := hresult envelope identity rfl
      refine ⟨[managerEvent s .wait_for_connection (.ok ()), managerEvent t .token_new token2], es, frame, uri, ?_,
        hbinds, hoffered⟩
      rw [List.append_nil]
      rfl

theorem Obtained.append {es : List (ManagerEvent M σ)} {envelope : Bytes} {identity : IdentityKeyPair}
    (hes : Obtained M es envelope identity) (before : List (ManagerEvent M σ)) :
    Obtained M (before ++ es) envelope identity := by
  obtain ⟨before', attempt, frame, uri, rfl, hbinds, hoffered⟩ := hes
  exact ⟨before ++ before', attempt, frame, uri, (List.append_assoc _ _ _).symm, hbinds, hoffered⟩

def linking (name : String) (pm : ProvisionMessage) : Program (managerSignature M) (Except Failure Bool) :=
  (Account.link name pm).run.interp (fun c => Program.perform (S := managerSignature M) (.link c))

def Linked (h : Handler (managerSignature M) σ) (name : String) (v : Except AttemptError Bool)
    (es : List (ManagerEvent M σ)) : Prop :=
  ((∀ e ∈ es, Apart e.call) ∧ ∀ linked, v ≠ .ok linked) ∨
    ∃ route envelope identity pm t, es = route ++ ((linking name pm).run h t).events ∧
      (∀ e ∈ route, Apart e.call) ∧ Obtained M route envelope identity ∧
      M.decode_provision identity envelope = .ok pm

def opening (name : String) (registration : Bytes) (identity : IdentityKeyPair) : ManagerM M Bool :=
  match M.decode_provision identity registration with
  | .error _ => throw link_err
  | .ok provision_msg => do
    let linked : Except Failure Bool ← ExceptT.lift (linking name provision_msg)
    match linked with
    | .ok result => pure result
    | .error (.error _) => pure false
    | .error .unwrapNone => throw .panicked

theorem ensures_opening (name : String) {route : List (ManagerEvent M σ)} {envelope : Bytes}
    {identity : IdentityKeyPair} (honly : ∀ e ∈ route, Apart e.call)
    (hobtained : Obtained M route envelope identity) :
    Ensures h (opening name envelope identity) s (fun v _ es => Linked h name v (route ++ es)) := by
  unfold opening
  cases hdecode : M.decode_provision identity envelope with
  | error e =>
    refine ensures_throw (.inl ⟨?_, nofun⟩)
    rwa [List.append_nil]
  | ok pm =>
    apply ensures_lift_bind
    have hlinked : ∀ v : Except AttemptError Bool,
        Linked h name v (route ++ (((linking name pm).run h s).events ++ [])) := by
      intro v
      rw [List.append_nil]
      exact .inr ⟨route, envelope, identity, pm, s, rfl, honly, hobtained, hdecode⟩
    split
    · exact ensures_pure (hlinked _)
    · exact ensures_pure (hlinked _)
    · exact ensures_throw (hlinked _)

theorem apart_append {es es' : List (ManagerEvent M σ)} (hes : ∀ e ∈ es, Apart e.call)
    (hes' : ∀ e ∈ es', Apart e.call) : ∀ e ∈ es ++ es', Apart e.call := by
  intro e he
  rcases List.mem_append.mp he with he | he
  · exact hes e he
  · exact hes' e he

theorem ensures_link (name : String) : Ensures h (Manager.link name : ManagerM M Bool) s
    (fun v _ es => Linked h name v es) := by
  unfold Manager.link
  apply ensures_call_bind
  apply ensures_call_bind
  generalize (h.answer (ManagerCall.observer_new : ManagerCall M) s).1 = observer
  generalize (h.answer (ManagerCall.observer_new : ManagerCall M) s).2 = t
  generalize (h.answer (ManagerCall.token_new : ManagerCall M) t).1 = token
  generalize (h.answer (ManagerCall.token_new : ManagerCall M) t).2 = t'
  obtain ⟨setup, hes⟩ : ∃ setup : List (ManagerEvent M σ),
      [managerEvent s .observer_new observer, managerEvent t .token_new token] = setup := ⟨_, rfl⟩
  have hsetup : ∀ e ∈ setup, Apart e.call := by
    intro e he
    rw [← hes] at he
    simp only [List.mem_cons, List.not_mem_nil, or_false] at he
    rcases he with rfl | rfl <;> rfl
  apply ensures_attempt_bind
    ((ensures_only (only_provision_one_attempt token)).and (ensures_provision_one_attempt token))
  rintro result u es ⟨honly, hresult⟩
  have htried : ∀ e ∈ setup ++ es, Apart e.call := apart_append hsetup honly
  match result with
  | .ok (envelope, identity) =>
    obtain ⟨frame, uri, hbinds, hoffered⟩ := hresult envelope identity rfl
    apply (ensures_opening (s := u) name htried ⟨setup, es, frame, uri, rfl, hbinds, hoffered⟩).mono
    intro v u' es' hlinked
    rw [← hes, List.append_assoc] at hlinked
    exact hlinked
  | .error e =>
    apply ensures_call_bind
    generalize (h.answer (ManagerCall.is_cancelled token : ManagerCall M) u).1 = cancelled
    generalize (h.answer (ManagerCall.is_cancelled token : ManagerCall M) u).2 = u'
    have hasked : ∀ e ∈ setup ++ es ++ [managerEvent u (.is_cancelled token) cancelled], Apart e.call := by
      apply apart_append htried
      intro e' he'
      rw [List.mem_singleton.mp he']
      rfl
    split_ifs
    · apply ensures_bind ensures_retryAttempt
      · rintro e' u'' es' ⟨honly', -⟩
        have hall := apart_append hasked honly'
        rw [← hes] at hall
        refine .inl ⟨?_, nofun⟩
        simpa using hall
      · rintro ⟨envelope, identity⟩ u'' es' ⟨honly', hobtained⟩
        apply (ensures_opening (s := u'') name (apart_append hasked honly')
          ((hobtained envelope identity rfl).append _)).mono
        intro v u₃ es'' hlinked
        rw [← hes] at hlinked
        simpa using hlinked
    · rw [← hes] at hasked
      refine ensures_throw (.inl ⟨?_, nofun⟩)
      simpa using hasked

end Runs

section Handshake

def CipherFailure.text : CipherFailure → String
  | .error e => e.text
  | .panicked => "panicked"

/-- The pure functions of `Manager::link`, over the primitives in `C`. -/
structure Genuine (M : ManagerCrates) (C : CipherCrates) : Prop where
  decode_uuid : ∀ b, M.decode_uuid b = (ProvisioningUuid.decode b).mapError Error.text
  parse_with_params : ∀ params, M.parse_with_params "sgnl://linkdevice" params =
    .ok (parse_with_params "sgnl://linkdevice" params)
  b64_url_decode : M.b64_url_decode = base64UrlDecodeNoPad
  decode_provision : ∀ identity b, M.decode_provision identity b =
    (valueOf (decode identity b : CipherM C ProvisionMessage)).mapError CipherFailure.text

def identityOf {C : CipherCrates} (k : C.PrivateKey) : IdentityKeyPair :=
  ⟨"", base64UrlEncodeNoPad (C.public_key_serialize (C.public_key k)),
    base64UrlEncodeNoPad (C.private_key_serialize k)⟩

theorem identityOf_injective {C : CipherCrates} (hC : C.Lawful) {k k' : C.PrivateKey}
    (h : identityOf k = identityOf k') : k = k' := by
  have hsecret : base64UrlEncodeNoPad (C.private_key_serialize k) =
      base64UrlEncodeNoPad (C.private_key_serialize k') := (IdentityKeyPair.mk.inj h).2.2
  have hdecoded := congrArg base64UrlDecodeNoPad hsecret
  rw [base64UrlDecodeNoPad_encode, base64UrlDecodeNoPad_encode] at hdecoded
  have hread := congrArg C.private_key_deserialize (Option.some.inj hdecoded)
  rw [hC.private_key, hC.private_key] at hread
  exact Except.ok.inj hread

theorem mapError_eq_ok {ε ε' α : Type} {r : Except ε α} {g : ε → ε'} {a : α} :
    r.mapError g = .ok a ↔ r = .ok a := by
  cases r <;> simp [Except.mapError]

variable {M : ManagerCrates} {C : CipherCrates} {σ : Type}

theorem scan_of_binds (hM : Genuine M C) {k : C.PrivateKey} {frame : Bytes} {uri : String}
    (hbinds : Binds M frame (identityOf k) uri) : ∃ uuid, ProvisioningUuid.decode frame = .ok uuid ∧
      scan uri = some (uuid, C.public_key_serialize (C.public_key k)) := by
  obtain ⟨uuid, huuid, -, huri⟩ := hbinds
  rw [hM.decode_uuid, mapError_eq_ok] at huuid
  refine ⟨uuid, huuid, ?_⟩
  rw [hM.parse_with_params, hM.b64_url_decode, identityOf, base64UrlDecodeNoPad_encode, Option.getD_some] at huri
  rw [← Except.ok.inj huri, scan_parse_with_params]

theorem carries_of_answer (hM : Genuine M C) (hC : C.Lawful) {k : C.PrivateKey} {answer : Bytes}
    {pm : ProvisionMessage} (hdecode : M.decode_provision (identityOf k) answer = .ok pm)
    (ephemeral : C.PrivateKey) {iv envelope : Bytes} {msg : ProvisionMessageProto} (hiv : iv.length = 16)
    (hpub : msg.aci_identity_key_public.isSome) (hpriv : msg.aci_identity_key_private.isSome)
    (henvelope : provisionEnvelope C ephemeral (C.public_key k) iv msg = .ok envelope)
    (hpushes : Pushes answer envelope) : Carries pm msg := by
  rw [hM.decode_provision, mapError_eq_ok] at hdecode
  have hours : (identityOf k).djb_private_key = base64UrlEncodeNoPad (C.private_key_serialize k) := rfl
  obtain ⟨bytes, hbytes, hopens⟩ := decrypt_provisionEnvelope hC ephemeral hours hiv hpub hpriv
  obtain rfl := Except.ok.inj (hbytes.symm.trans henvelope)
  obtain ⟨pm', hpm', hcarries⟩ := hopens (hpushes.length_le.trans_lt hpushes.fits)
  obtain rfl := Except.ok.inj ((decode_pushed hpushes hdecode).symm.trans hpm')
  exact hcarries

/-- Nothing is linked before a QR code has been shown and answered. The code gives the address that the server
announced and the public key of the pair that opens the answer, and a message sealed to that key is what is linked. -/
theorem link_handshake (hM : Genuine M C) (hC : C.Lawful) (h : Handler (managerSignature M) σ)
    (hkeys : ∀ s, ∃ k : C.PrivateKey, (h.answer .generate_identity_key_pair s).1 = identityOf k)
    (name : String) (s : σ) :
    let o := (Manager.link name : ManagerM M Bool).exec h s
    ((∀ e ∈ o.events, Apart e.call) ∧ ∀ linked, o.value ≠ .ok linked) ∨
      ∃ (before attempt : List (ManagerEvent M σ)) (k : C.PrivateKey) (frame answer : Bytes) (uri uuid : String)
        (pm : ProvisionMessage) (t : σ),
        o.events = before ++ attempt ++ ((linking name pm).run h t).events ∧
        (∀ e ∈ before ++ attempt, Apart e.call) ∧ Offered attempt frame (identityOf k) uri answer ∧
        (∀ announced, Pushes frame (ProvisioningAddressProto.encode_to_vec ⟨some announced⟩) → uuid = announced) ∧
        scan uri = some (uuid, C.public_key_serialize (C.public_key k)) ∧
        ∀ (ephemeral : C.PrivateKey) (iv envelope : Bytes) (msg : ProvisionMessageProto), iv.length = 16 →
          msg.aci_identity_key_public.isSome → msg.aci_identity_key_private.isSome →
          provisionEnvelope C ephemeral (C.public_key k) iv msg = .ok envelope → Pushes answer envelope →
          Carries pm msg := by
  intro o
  rcases (ensures_link name : Ensures h (Manager.link name : ManagerM M Bool) s _) with hnone | hlinked
  · exact .inl hnone
  obtain ⟨route, answer, identity, pm, t, hes, honly, hobtained, hdecode⟩ := hlinked
  obtain ⟨before, attempt, frame, uri, rfl, hbinds, hoffered⟩ := hobtained
  have hgenerated : ∃ s₂, identity = (h.answer .generate_identity_key_pair s₂).1 := by
    obtain ⟨s₁, s₂, s₃, s₄, cid, hsub⟩ := hoffered
    refine ⟨s₂, ?_⟩
    have hmem : managerEvent s₂ .generate_identity_key_pair identity ∈ o.events := by
      rw [hes]
      refine List.mem_append_left _ (List.mem_append_right _ (hsub.subset ?_))
      simp
    exact Program.events_answered h (Manager.link name : ManagerM M Bool).run s _ hmem
  obtain ⟨s₂, rfl⟩ := hgenerated
  obtain ⟨k, hk⟩ := hkeys s₂
  rw [hk] at hbinds hoffered hdecode
  obtain ⟨uuid, huuid, hscan⟩ := scan_of_binds hM hbinds
  refine .inr ⟨before, attempt, k, frame, answer, uri, uuid, pm, t, hes, honly, hoffered, ?_, hscan, ?_⟩
  · intro announced hpushes
    exact Except.ok.inj (huuid.symm.trans (ProvisioningUuid.decode_pushed hpushes))
  intro ephemeral iv envelope msg hiv hpub hpriv henvelope hpushes
  exact carries_of_answer hM hC hdecode ephemeral hiv hpub hpriv henvelope hpushes

section Sample

abbrev keyedCrates : CipherCrates :=
  { sampleCrates with
    public_key_serialize := fun k => 5 :: (id k : UInt8) :: List.replicate 31 0
    public_key_deserialize := fun
      | 5 :: k :: _ => .ok k
      | _ => .error (.Other "bad key type") }

theorem keyedCrates_lawful : keyedCrates.Lawful where
  private_key := sampleCrates_lawful.private_key
  public_key _ := rfl
  agreement := sampleCrates_lawful.agreement
  expand := sampleCrates_lawful.expand
  keyed := sampleCrates_lawful.keyed
  tag := sampleCrates_lawful.tag
  inverts := sampleCrates_lawful.inverts
  padded := sampleCrates_lawful.padded

abbrev genuineCrates : ManagerCrates where
  toLinkCrates := { phoneCrates with b64_url_decode := base64UrlDecodeNoPad }
  decode_uuid := fun b => (ProvisioningUuid.decode b).mapError Error.text
  parse_with_params := fun url params => .ok (parse_with_params url params)
  decode_provision := fun identity b =>
    (valueOf (decode identity b : CipherM keyedCrates ProvisionMessage)).mapError CipherFailure.text

theorem genuine : Genuine genuineCrates keyedCrates where
  decode_uuid _ := rfl
  parse_with_params _ := rfl
  b64_url_decode := rfl
  decode_provision _ _ := rfl

def pushFrame (body : Bytes) : Bytes :=
  WebSocketMessageProto.encode_to_vec ⟨some 1, some ⟨some "PUT", some "/v1/address", some body, some 1⟩⟩

def pairKey : keyedCrates.PrivateKey := (7 : UInt8)

def sealedEnvelope : Bytes :=
  match provisionEnvelope keyedCrates (3 : UInt8) (keyedCrates.public_key pairKey) (List.replicate 16 9)
      sampleMessage with
  | .ok envelope => envelope
  | .error _ => []

theorem provisionEnvelope_sample : provisionEnvelope keyedCrates (3 : UInt8) (keyedCrates.public_key pairKey)
    (List.replicate 16 9) sampleMessage = .ok sealedEnvelope := rfl

theorem pushes_pushFrame {body : Bytes} (hfits : (pushFrame body).length < 2 ^ 63) : Pushes (pushFrame body) body := by
  refine ⟨⟨⟨some 1, some ⟨some "PUT", some "/v1/address", some body, some 1⟩⟩, ?_, rfl, rfl⟩, hfits⟩
  rintro n ⟨⟩
  decide

def addressBody : Bytes := ProvisioningAddressProto.encode_to_vec ⟨some "a b+c=="⟩

def dryEnv : LinkEnv genuineCrates.toLinkCrates Unit where
  try_fill_bytes := fun _ s => (none, s)
  next_u32 := fun s => (41, s)
  encrypt_device_name := fun _ _ s => (.error ⟨.InvalidData, "device name"⟩, s)
  generate_prekeys := fun _ _ s => (.error ⟨.Other, "prekeys"⟩, s)
  try_put := fun _ _ _ s => (.error ⟨.Other, "refused"⟩, s)
  put_attributes := fun _ _ _ s => (.ok (), s)

def scannedHandler : Handler (managerSignature genuineCrates) Unit where
  answer
    | .observer_new, s => (.ok (), s)
    | .token_new, s => ((0 : ℕ), s)
    | .is_cancelled _, s => (false, s)
    | .wait_for_connection, s => (.ok (), s)
    | .new_provision, s => (.ok (), s)
    | .read_once, s => (.ok (.Binary (pushFrame addressBody)), s)
    | .close, s => ((), s)
    | .generate_identity_key_pair, s => (identityOf pairKey, s)
    | .xous_names, s => (.ok (), s)
    | .modals, s => (.ok (), s)
    | .spawn _, s => (.ok (0 : ℕ), s)
    | .current, s => (LinkState.Connected, s)
    | .subscribe _ _ _, s => ((), s)
    | .show_notification _, s => (.ok (), s)
    | .wait_and_take_binary _, s => (WsResult.Binary (pushFrame sealedEnvelope), s)
    | .send_cancel _, s => (.ok (), s)
    | .disconnect _, s => ((), s)
    | .link c, s => ((dryEnv.answer c ⟨∅, madeAccount, s⟩).1, s)

def scannedLink : Outcome (managerSignature genuineCrates) Unit (Except AttemptError Bool) :=
  (Manager.link "xous").exec scannedHandler ()

theorem scannedLink_value : ∃ linked, scannedLink.value = .ok linked := by
  have h : (match scannedLink.value with | .ok linked => some linked | .error _ => none) = some false := by
    decide +kernel
  cases hvalue : scannedLink.value with
  | ok linked => exact ⟨linked, rfl⟩
  | error e =>
    rw [hvalue] at h
    cases h

/-- The primary scans the code and seals a message to the key it shows; that message is what is linked. -/
theorem phone_scanned : ∃ (uri : String) (pm : ProvisionMessage) (t : Unit),
    (∃ e ∈ scannedLink.events, e.call = .show_notification uri) ∧
      scan uri = some ("a b+c==", keyedCrates.public_key_serialize (keyedCrates.public_key pairKey)) ∧
      Carries pm sampleMessage ∧ ((linking "xous" pm).run scannedHandler t).events ⊆ scannedLink.events := by
  obtain ⟨linked, hvalue⟩ := scannedLink_value
  rcases link_handshake genuine keyedCrates_lawful scannedHandler (fun _ => ⟨pairKey, rfl⟩) "xous" () with
    ⟨-, hnot⟩ | ⟨before, attempt, k, frame, answer, uri, uuid, pm, t, hes, -, hoffered, hannounced, hscan, hcarries⟩
  · exact absurd hvalue (hnot linked)
  obtain ⟨s₁, s₂, s₃, s₄, cid, hsub⟩ := hoffered
  have hrun : ∀ e ∈ attempt, e ∈ scannedLink.events ∧ e.reply = (scannedHandler.answer e.call e.before).1 := by
    intro e he
    have hmem : e ∈ scannedLink.events := hes ▸ List.mem_append_left _ (List.mem_append_right _ he)
    exact ⟨hmem, Program.events_answered scannedHandler (Manager.link "xous" : ManagerM genuineCrates Bool).run ()
      e hmem⟩
  have hframe := (hrun (managerEvent s₁ .read_once (.ok (.Binary frame))) (hsub.subset (by simp))).2
  have hkey := (hrun (managerEvent s₂ .generate_identity_key_pair (identityOf k)) (hsub.subset (by simp))).2
  have hanswer := (hrun (managerEvent s₄ (.wait_and_take_binary cid) (.Binary answer)) (hsub.subset (by simp))).2
  obtain rfl : frame = pushFrame addressBody := WsMessage.Binary.inj (Except.ok.inj hframe)
  obtain rfl : k = pairKey := identityOf_injective keyedCrates_lawful hkey
  obtain rfl : answer = pushFrame sealedEnvelope := WsResult.Binary.inj hanswer
  rw [hannounced _ (pushes_pushFrame (by decide +kernel))] at hscan
  refine ⟨uri, pm, t, ⟨managerEvent s₃ (.show_notification uri) (.ok ()), ?_, rfl⟩, hscan, ?_, ?_⟩
  · exact (hrun _ (hsub.subset (by simp))).1
  · exact hcarries (3 : UInt8) (List.replicate 16 9) sealedEnvelope sampleMessage rfl rfl rfl
      provisionEnvelope_sample (pushes_pushFrame (by decide +kernel))
  · exact hes ▸ List.subset_append_right _ _

example : scan (parse_with_params "sgnl://linkdevice"
    [("uuid", "a b+c=="), ("pub_key", "BQ"), ("capabilities", "backup5")]) = some ("a b+c==", [5]) := by
  decide +kernel

end Sample

end Handshake

end Provisioning

end XousSignalClient
