import XousSignalClient.Account.Link
import XousSignalClient.Interaction.Ensures
import XousSignalClient.Provisioning.Messages

namespace XousSignalClient

open Encoding Interaction Fallible

namespace Provisioning

structure Derived where
  bytes : Bytes
  valid : bytes.length = 64

/-- libsignal's keys, `hkdf`, `hmac` and `cbc` on plain values; `cbc_encrypt` and the serializers are the sender's. -/
structure CipherCrates where
  PrivateKey : Type
  PublicKey : Type
  Mac : Type
  Decryptor : Type
  public_key : PrivateKey → PublicKey
  private_key_serialize : PrivateKey → Bytes
  private_key_deserialize : Bytes → Except SignalProtocolError PrivateKey
  public_key_serialize : PublicKey → Bytes
  public_key_deserialize : Bytes → Except SignalProtocolError PublicKey
  calculate_agreement : PrivateKey → PublicKey → Except SignalProtocolError Bytes
  hkdf_expand : (ikm info : Bytes) → Except String Derived
  hmac_new_from_slice : (key : Bytes) → Except String Mac
  tag : Mac → Bytes → Bytes
  cbc_encrypt : (key iv plaintext : Bytes) → Bytes
  cbc_new_from_slices : (key iv : Bytes) → Except String Decryptor
  decrypt_padded : Decryptor → Bytes → Except String Bytes

inductive CipherCall (C : CipherCrates) where
  | private_key_deserialize (key : Bytes)
  | public_key_deserialize (key : Bytes)
  | calculate_agreement (ours : C.PrivateKey) (theirs : C.PublicKey)
  | hkdf_expand (ikm info : Bytes)
  | hmac_new_from_slice (key : Bytes)
  | verify_slice (mac : C.Mac) (input expected : Bytes)
  | cbc_new_from_slices (key iv : Bytes)
  | decrypt_padded (decryptor : C.Decryptor) (ciphertext : Bytes)

variable {C : CipherCrates}

abbrev CipherCall.Reply : CipherCall C → Type
  | .private_key_deserialize _ => Except SignalProtocolError C.PrivateKey
  | .public_key_deserialize _ => Except SignalProtocolError C.PublicKey
  | .calculate_agreement _ _ => Except SignalProtocolError Bytes
  | .hkdf_expand _ _ => Except String Derived
  | .hmac_new_from_slice _ => Except String C.Mac
  | .verify_slice _ _ _ => Except String Unit
  | .cbc_new_from_slices _ _ => Except String C.Decryptor
  | .decrypt_padded _ _ => Except String Bytes

def cipherSignature (C : CipherCrates) : Signature := ⟨CipherCall C, CipherCall.Reply⟩

inductive CipherFailure where
  | error (e : Error)
  | panicked

abbrev CipherM (C : CipherCrates) (α : Type) := Fallible (cipherSignature C) CipherFailure α

def CipherCall.ask (c : CipherCall C) : CipherM C c.Reply := Fallible.call (S := cipherSignature C) c

def invalidData (text : String) : CipherFailure := .error ⟨.InvalidData, text⟩

def okOr {α : Type} (text : String) (v : Option α) : CipherM C α :=
  Fallible.ofExcept (v.elim (.error (invalidData text)) .ok)

def mapErr {ε α : Type} (text : String) (r : Except ε α) : CipherM C α :=
  Fallible.ofExcept (r.mapError (fun _ => invalidData text))

def range (b : Bytes) (i j : ℕ) : CipherM C Bytes :=
  Fallible.ofExcept (if i ≤ j ∧ j ≤ b.length then .ok ((b.take j).drop i) else .error .panicked)

def lenMinus (b : Bytes) (n : ℕ) : CipherM C ℕ :=
  Fallible.ofExcept (if n ≤ b.length then .ok (b.length - n) else .error .panicked)

def byteAt (b : Bytes) (i : ℕ) : CipherM C UInt8 :=
  Fallible.ofExcept (b[i]?.elim (.error .panicked) .ok)

def HKDF_INFO : Bytes := utf8 "TextSecure Provisioning Message"

structure Opened where
  ephemeral_pub_bytes : Bytes
  body : Bytes

/-- (1) The envelope and the checks on its body. -/
def openEnvelope (bytes : Bytes) : CipherM C Opened := do
  let envelope ← okOr "failed to decode ProvisionEnvelope" (ProvisionEnvelopeProto.decode bytes)
  let ephemeral_pub_bytes ← okOr "missing publicKey in ProvisionEnvelope" envelope.public_key
  let body ← okOr "missing body in ProvisionEnvelope" envelope.body
  if body.length < 65 then throw (invalidData "ProvisionEnvelope body too short")
  else do
    let version ← byteAt body 0
    if version ≠ 0x01 then throw (invalidData "unexpected ProvisionEnvelope version")
    else pure ⟨ephemeral_pub_bytes, body⟩

structure Keys where
  aes_key : Bytes
  mac_key : Bytes

/-- (2) to (5) The keys that both sides derive. -/
def deriveKeys (temp_identity : IdentityKeyPair) (ephemeral_pub_bytes : Bytes) : CipherM C Keys := do
  let priv_bytes ← okOr "failed to decode temp private key" (base64UrlDecodeNoPad temp_identity.djb_private_key)
  let ours : Except SignalProtocolError C.PrivateKey ← (CipherCall.private_key_deserialize priv_bytes).ask
  let our_private_key ← mapErr "invalid temp private key" ours
  let theirs : Except SignalProtocolError C.PublicKey ← (CipherCall.public_key_deserialize ephemeral_pub_bytes).ask
  let their_pub_key ← mapErr "invalid ephemeral public key" theirs
  let agreed : Except SignalProtocolError Bytes ← (CipherCall.calculate_agreement our_private_key their_pub_key).ask
  let shared_secret ← mapErr "ECDH failed" agreed
  let expanded : Except String Derived ← (CipherCall.hkdf_expand shared_secret HKDF_INFO).ask
  let derived ← mapErr "HKDF expand failed" expanded
  let aes_key ← range derived.bytes 0 32
  let mac_key ← range derived.bytes 32 derived.bytes.length
  pure ⟨aes_key, mac_key⟩

/-- (6) The MAC over all but the last 32 bytes. -/
def verifyMac (mac_key body : Bytes) : CipherM C Unit := do
  let mac_input ← lenMinus body 32 >>= range body 0
  let mac_expected ← lenMinus body 32 >>= fun start => range body start body.length
  let keyed : Except String C.Mac ← (CipherCall.hmac_new_from_slice mac_key).ask
  let mac ← mapErr "HMAC key init failed" keyed
  let verified : Except String Unit ← (CipherCall.verify_slice mac mac_input mac_expected).ask
  mapErr "MAC verification failed" verified

/-- (7) AES-256-CBC-PKCS7. -/
def decryptBody (aes_key body : Bytes) : CipherM C Bytes := do
  let iv ← range body 1 17
  let ciphertext ← lenMinus body 32 >>= range body 17
  let keyed : Except String C.Decryptor ← (CipherCall.cbc_new_from_slices aes_key iv).ask
  let decryptor ← mapErr "AES key/IV length error" keyed
  let plaintext : Except String Bytes ← (CipherCall.decrypt_padded decryptor ciphertext).ask
  mapErr "AES-CBC-PKCS7 decryption failed" plaintext

/-- (8) The message. -/
def readMessage (plaintext : Bytes) : CipherM C ProvisionMessage := do
  let msg ← okOr "failed to decode ProvisionMessage" (ProvisionMessageProto.decode plaintext)
  let aci_pub ← okOr "missing aciIdentityKeyPublic" msg.aci_identity_key_public
  let aci_priv ← okOr "missing aciIdentityKeyPrivate" msg.aci_identity_key_private
  let pni_pub := msg.pni_identity_key_public.getD []
  let pni_priv := msg.pni_identity_key_private.getD []
  pure {
    number := msg.number.getD ""
    aci := ⟨msg.aci.getD "", base64UrlEncodeNoPad aci_pub, base64UrlEncodeNoPad aci_priv⟩
    pni := ⟨msg.pni.getD "", base64UrlEncodeNoPad pni_pub, base64UrlEncodeNoPad pni_priv⟩
    master_key := ""
    profile_key := msg.profile_key.map base64UrlEncodeNoPad
    provisioning_code := msg.provisioning_code
    account_entropy_pool := msg.account_entropy_pool }

/-- `PrimaryProvisioningCipher::decrypt`. -/
def decrypt (temp_identity : IdentityKeyPair) (bytes : Bytes) : CipherM C ProvisionMessage := do
  let opened ← openEnvelope bytes
  let keys ← deriveKeys temp_identity opened.ephemeral_pub_bytes
  verifyMac keys.mac_key opened.body
  let plaintext ← decryptBody keys.aes_key opened.body
  readMessage plaintext

/-- `ProvisionMessage::decode`. -/
def decode (temp_identity : IdentityKeyPair) (bytes : Bytes) : CipherM C ProvisionMessage := do
  let ws ← okOr "failed to decode WebSocketMessage" (WebSocketMessageProto.decode bytes)
  let body ← okOr "missing request.body" (ws.request.bind (·.body))
  decrypt temp_identity body

def CipherCrates.answer (C : CipherCrates) : (c : CipherCall C) → c.Reply
  | .private_key_deserialize key => C.private_key_deserialize key
  | .public_key_deserialize key => C.public_key_deserialize key
  | .calculate_agreement ours theirs => C.calculate_agreement ours theirs
  | .hkdf_expand ikm info => C.hkdf_expand ikm info
  | .hmac_new_from_slice key => C.hmac_new_from_slice key
  | .verify_slice mac input expected => if C.tag mac input = expected then .ok () else .error "MacError"
  | .cbc_new_from_slices key iv => C.cbc_new_from_slices key iv
  | .decrypt_padded decryptor ciphertext => C.decrypt_padded decryptor ciphertext

def CipherCrates.handler (C : CipherCrates) : Handler (cipherSignature C) Unit := ⟨fun c s => (C.answer c, s)⟩

def valueOf {α : Type} (x : CipherM C α) : Except CipherFailure α := (x.exec C.handler ()).value

section Values

variable {α β : Type} {x : CipherM C α} {f : α → CipherM C β}

theorem valueOf_bind (x : CipherM C α) (f : α → CipherM C β) :
    valueOf (x >>= f) = valueOf x >>= fun a => valueOf (f a) := by
  unfold valueOf
  rw [exec_bind]
  obtain ⟨v, s, es⟩ := x.exec C.handler ()
  cases v <;> rfl

@[simp] theorem valueOf_bind_ok {b : β} :
    valueOf (x >>= f) = .ok b ↔ ∃ a, valueOf x = .ok a ∧ valueOf (f a) = .ok b := by
  rw [valueOf_bind]
  cases valueOf x <;> simp [bind, Except.bind]

theorem valueOf_bind_error {e : CipherFailure} (h : valueOf (x >>= f) = .error e) :
    valueOf x = .error e ∨ ∃ a, valueOf x = .ok a ∧ valueOf (f a) = .error e := by
  rw [valueOf_bind] at h
  cases hx : valueOf x with
  | error e' =>
    rw [hx] at h
    obtain rfl := Except.error.inj h
    exact .inl rfl
  | ok a =>
    rw [hx] at h
    exact .inr ⟨a, rfl, h⟩

@[simp] theorem valueOf_pure (a : α) : valueOf (pure a : CipherM C α) = .ok a := rfl

@[simp] theorem valueOf_throw (e : CipherFailure) : valueOf (throw e : CipherM C α) = .error e := rfl

@[simp] theorem valueOf_ask (c : CipherCall C) : valueOf c.ask = .ok (C.answer c) := rfl

@[simp] theorem valueOf_okOr_ok {text : String} {v : Option α} {a : α} :
    valueOf (okOr text v : CipherM C α) = .ok a ↔ v = some a := by
  cases v <;> simp [okOr, valueOf]

@[simp] theorem valueOf_mapErr_ok {ε : Type} {text : String} {r : Except ε α} {a : α} :
    valueOf (mapErr text r : CipherM C α) = .ok a ↔ r = .ok a := by
  cases r <;> simp [mapErr, valueOf, Except.mapError]

@[simp] theorem valueOf_range_ok {b s : Bytes} {i j : ℕ} :
    valueOf (range b i j : CipherM C Bytes) = .ok s ↔ (i ≤ j ∧ j ≤ b.length) ∧ (b.take j).drop i = s := by
  by_cases h : i ≤ j ∧ j ≤ b.length <;> simp [range, valueOf, h]

@[simp] theorem valueOf_lenMinus_ok {b : Bytes} {n k : ℕ} :
    valueOf (lenMinus b n : CipherM C ℕ) = .ok k ↔ n ≤ b.length ∧ b.length - n = k := by
  by_cases h : n ≤ b.length <;> simp [lenMinus, valueOf, h]

@[simp] theorem valueOf_byteAt_ok {b : Bytes} {i : ℕ} {v : UInt8} :
    valueOf (byteAt b i : CipherM C UInt8) = .ok v ↔ b[i]? = some v := by
  cases h : b[i]? <;> simp [byteAt, valueOf, h]

end Values

def Derives (C : CipherCrates) (temp_identity : IdentityKeyPair) (ephemeral_pub_bytes : Bytes) (keys : Keys) : Prop :=
  ∃ priv_bytes ours theirs secret derived,
    base64UrlDecodeNoPad temp_identity.djb_private_key = some priv_bytes ∧
    C.private_key_deserialize priv_bytes = .ok ours ∧ C.public_key_deserialize ephemeral_pub_bytes = .ok theirs ∧
    C.calculate_agreement ours theirs = .ok secret ∧ C.hkdf_expand secret HKDF_INFO = .ok derived ∧
    keys = ⟨derived.bytes.take 32, derived.bytes.drop 32⟩

section Steps

variable {temp_identity : IdentityKeyPair} {bytes body ephemeral_pub_bytes plaintext : Bytes} {opened : Opened}
  {keys : Keys} {pm : ProvisionMessage}

theorem openEnvelope_ok : valueOf (openEnvelope bytes : CipherM C Opened) = .ok opened ↔
    ProvisionEnvelopeProto.decode bytes = some ⟨some opened.ephemeral_pub_bytes, some opened.body⟩ ∧
      65 ≤ opened.body.length ∧ opened.body[0]? = some 0x01 := by
  unfold openEnvelope
  simp only [valueOf_bind_ok, valueOf_okOr_ok]
  constructor
  · rintro ⟨⟨public_key, body⟩, hdecode, pub, rfl, body', rfl, h⟩
    split_ifs at h with hshort
    · cases h
    · simp only [valueOf_bind_ok, valueOf_byteAt_ok] at h
      obtain ⟨version, hversion, h⟩ := h
      split_ifs at h with hone
      · cases h
      · obtain rfl := Except.ok.inj h
        obtain rfl := not_not.mp hone
        exact ⟨hdecode, not_lt.mp hshort, hversion⟩
  · rintro ⟨hdecode, hlen, hversion⟩
    refine ⟨_, hdecode, _, rfl, _, rfl, ?_⟩
    rw [if_neg (by omega)]
    simp only [valueOf_bind_ok, valueOf_byteAt_ok]
    exact ⟨1, hversion, rfl⟩

theorem deriveKeys_ok : valueOf (deriveKeys temp_identity ephemeral_pub_bytes : CipherM C Keys) = .ok keys ↔
    Derives C temp_identity ephemeral_pub_bytes keys := by
  unfold deriveKeys
  simp only [valueOf_bind_ok, valueOf_okOr_ok, valueOf_mapErr_ok, valueOf_range_ok, valueOf_pure]
  constructor
  · rintro ⟨priv_bytes, hpriv, _, ⟨⟩, ours, hours, _, ⟨⟩, theirs, htheirs, _, ⟨⟩, secret, hsecret, _, ⟨⟩, derived,
      hderived, _, ⟨-, rfl⟩, _, ⟨-, rfl⟩, ⟨⟩⟩
    refine ⟨priv_bytes, ours, theirs, secret, derived, hpriv, hours, htheirs, hsecret, hderived, ?_⟩
    rw [List.drop_zero, List.take_length]
  · rintro ⟨priv_bytes, ours, theirs, secret, derived, hpriv, hours, htheirs, hsecret, hderived, rfl⟩
    have hvalid := derived.valid
    refine ⟨priv_bytes, hpriv, _, rfl, ours, hours, _, rfl, theirs, htheirs, _, rfl, secret, hsecret, _, rfl, derived,
      hderived, _, ⟨by omega, rfl⟩, _, ⟨by omega, rfl⟩, ?_⟩
    rw [List.drop_zero, List.take_length]

def MacMatches (C : CipherCrates) (mac_key body : Bytes) : Prop :=
  ∃ mac, C.hmac_new_from_slice mac_key = .ok mac ∧
    C.tag mac (body.take (body.length - 32)) = body.drop (body.length - 32)

theorem answer_verify_slice (mac : C.Mac) (input expected : Bytes) :
    C.answer (.verify_slice mac input expected) = .ok () ↔ C.tag mac input = expected := by
  change (if C.tag mac input = expected then Except.ok () else Except.error "MacError") = .ok () ↔ _
  split_ifs with h
  · simp [h]
  · simp [h]

theorem verifyMac_ok {mac_key : Bytes} (hlen : 32 ≤ body.length) :
    valueOf (verifyMac mac_key body : CipherM C Unit) = .ok () ↔ MacMatches C mac_key body := by
  unfold verifyMac
  simp only [valueOf_bind_ok, valueOf_mapErr_ok, valueOf_range_ok, valueOf_lenMinus_ok]
  constructor
  · rintro ⟨_, ⟨_, ⟨-, rfl⟩, -, rfl⟩, _, ⟨_, ⟨-, rfl⟩, -, rfl⟩, _, ⟨⟩, mac, hmac, _, ⟨⟩, hverified⟩
    have htag := (answer_verify_slice _ _ _).mp hverified
    rw [List.drop_zero, List.take_length] at htag
    exact ⟨mac, hmac, htag⟩
  · rintro ⟨mac, hmac, htag⟩
    refine ⟨_, ⟨_, ⟨hlen, rfl⟩, ⟨Nat.zero_le _, Nat.sub_le _ _⟩, rfl⟩, _,
      ⟨_, ⟨hlen, rfl⟩, ⟨Nat.sub_le _ _, le_refl _⟩, rfl⟩, _, rfl, mac, hmac, _, rfl, ?_⟩
    rw [List.drop_zero, List.take_length]
    exact (answer_verify_slice _ _ _).mpr htag

def Decrypts (C : CipherCrates) (aes_key body plaintext : Bytes) : Prop :=
  ∃ decryptor, C.cbc_new_from_slices aes_key ((body.take 17).drop 1) = .ok decryptor ∧
    C.decrypt_padded decryptor ((body.take (body.length - 32)).drop 17) = .ok plaintext

theorem decryptBody_ok {aes_key : Bytes} (hlen : 49 ≤ body.length) :
    valueOf (decryptBody aes_key body : CipherM C Bytes) = .ok plaintext ↔ Decrypts C aes_key body plaintext := by
  unfold decryptBody
  simp only [valueOf_bind_ok, valueOf_mapErr_ok, valueOf_range_ok, valueOf_lenMinus_ok]
  constructor
  · rintro ⟨_, ⟨-, rfl⟩, _, ⟨_, ⟨-, rfl⟩, -, rfl⟩, _, ⟨⟩, decryptor, hdecryptor, _, ⟨⟩, hplaintext⟩
    exact ⟨decryptor, hdecryptor, hplaintext⟩
  · rintro ⟨decryptor, hdecryptor, hplaintext⟩
    exact ⟨_, ⟨by omega, rfl⟩, _, ⟨_, ⟨by omega, rfl⟩, by omega, rfl⟩, _, rfl, decryptor, hdecryptor, _, rfl,
      hplaintext⟩

structure Carries (pm : ProvisionMessage) (msg : ProvisionMessageProto) : Prop where
  number : pm.number = msg.number.getD ""
  aci : pm.aci.service_id = msg.aci.getD ""
  aci_public : msg.aci_identity_key_public.map base64UrlEncodeNoPad = some pm.aci.djb_identity_key
  aci_private : msg.aci_identity_key_private.map base64UrlEncodeNoPad = some pm.aci.djb_private_key
  pni : pm.pni.service_id = msg.pni.getD ""
  pni_public : pm.pni.djb_identity_key = base64UrlEncodeNoPad (msg.pni_identity_key_public.getD [])
  pni_private : pm.pni.djb_private_key = base64UrlEncodeNoPad (msg.pni_identity_key_private.getD [])
  master_key : pm.master_key = ""
  profile_key : pm.profile_key = msg.profile_key.map base64UrlEncodeNoPad
  provisioning_code : pm.provisioning_code = msg.provisioning_code
  account_entropy_pool : pm.account_entropy_pool = msg.account_entropy_pool

theorem readMessage_ok : valueOf (readMessage plaintext : CipherM C ProvisionMessage) = .ok pm ↔
    ∃ msg, ProvisionMessageProto.decode plaintext = some msg ∧ Carries pm msg := by
  unfold readMessage
  simp only [valueOf_bind_ok, valueOf_okOr_ok, valueOf_pure]
  constructor
  · rintro ⟨msg, hmsg, aci_pub, hpub, aci_priv, hpriv, ⟨⟩⟩
    exact ⟨msg, hmsg, rfl, rfl, congrArg (Option.map _) hpub, congrArg (Option.map _) hpriv, rfl, rfl, rfl, rfl, rfl,
      rfl, rfl⟩
  · rintro ⟨msg, hmsg, hcarries⟩
    obtain ⟨aci_pub, hpub, haci_pub⟩ := Option.map_eq_some_iff.mp hcarries.aci_public
    obtain ⟨aci_priv, hpriv, haci_priv⟩ := Option.map_eq_some_iff.mp hcarries.aci_private
    refine ⟨msg, hmsg, aci_pub, hpub, aci_priv, hpriv, ?_⟩
    obtain ⟨number, ⟨aci, aci_public, aci_private⟩, ⟨pni, pni_public, pni_private⟩, master_key, profile_key, code,
      pool⟩ := pm
    obtain ⟨rfl, rfl, -, -, rfl, rfl, rfl, rfl, rfl, rfl, rfl⟩ := hcarries
    rw [haci_pub, haci_priv]

structure Authentic (C : CipherCrates) (temp_identity : IdentityKeyPair) (bytes : Bytes) (opened : Opened)
    (keys : Keys) : Prop where
  decoded : ProvisionEnvelopeProto.decode bytes = some ⟨some opened.ephemeral_pub_bytes, some opened.body⟩
  long : 65 ≤ opened.body.length
  version : opened.body[0]? = some 0x01
  keyed : Derives C temp_identity opened.ephemeral_pub_bytes keys
  mac : MacMatches C keys.mac_key opened.body

theorem decrypt_ok : valueOf (decrypt temp_identity bytes : CipherM C ProvisionMessage) = .ok pm ↔
    ∃ opened keys plaintext msg, Authentic C temp_identity bytes opened keys ∧
      Decrypts C keys.aes_key opened.body plaintext ∧ ProvisionMessageProto.decode plaintext = some msg ∧
      Carries pm msg := by
  unfold decrypt
  simp only [valueOf_bind_ok, openEnvelope_ok, deriveKeys_ok, readMessage_ok]
  constructor
  · rintro ⟨opened, ⟨hdecoded, hlong, hversion⟩, keys, hkeys, u, hmac, plaintext, hplaintext, msg, hmsg, hcarries⟩
    have hmatches := (verifyMac_ok (by omega)).mp hmac
    have hdecrypts := (decryptBody_ok (by omega)).mp hplaintext
    exact ⟨opened, keys, plaintext, msg, ⟨hdecoded, hlong, hversion, hkeys, hmatches⟩, hdecrypts, hmsg, hcarries⟩
  · rintro ⟨opened, keys, plaintext, msg, ⟨hdecoded, hlong, hversion, hkeys, hmatches⟩, hdecrypts, hmsg, hcarries⟩
    exact ⟨opened, ⟨hdecoded, hlong, hversion⟩, keys, hkeys, (), (verifyMac_ok (by omega)).mpr hmatches, plaintext,
      (decryptBody_ok (by omega)).mpr hdecrypts, msg, hmsg, hcarries⟩

end Steps

section Panics

variable {α β : Type} {x : CipherM C α} {f : α → CipherM C β}

def NeverPanics (x : CipherM C α) : Prop := valueOf x ≠ .error .panicked

theorem NeverPanics.bind (hx : NeverPanics x) (hf : ∀ a, valueOf x = .ok a → NeverPanics (f a)) :
    NeverPanics (x >>= f) := by
  intro h
  rcases valueOf_bind_error h with hpanic | ⟨a, ha, hpanic⟩
  · exact hx hpanic
  · exact hf a ha hpanic

theorem neverPanics_okOr (text : String) (v : Option α) : NeverPanics (okOr text v : CipherM C α) := by
  cases v <;> simp [NeverPanics, okOr, valueOf, invalidData]

theorem neverPanics_mapErr {ε : Type} (text : String) (r : Except ε α) :
    NeverPanics (mapErr text r : CipherM C α) := by
  cases r <;> simp [NeverPanics, mapErr, valueOf, invalidData, Except.mapError]

theorem neverPanics_ask (c : CipherCall C) : NeverPanics c.ask := nofun

theorem neverPanics_range {b : Bytes} {i j : ℕ} (hij : i ≤ j) (hj : j ≤ b.length) :
    NeverPanics (range b i j : CipherM C Bytes) := by
  simp [NeverPanics, range, valueOf, hij, hj]

theorem neverPanics_lenMinus {b : Bytes} {n : ℕ} (hn : n ≤ b.length) :
    NeverPanics (lenMinus b n : CipherM C ℕ) := by
  simp [NeverPanics, lenMinus, valueOf, hn]

theorem neverPanics_openEnvelope (bytes : Bytes) : NeverPanics (openEnvelope bytes : CipherM C Opened) := by
  apply (neverPanics_okOr _ _).bind
  intro envelope _
  apply (neverPanics_okOr _ _).bind
  intro ephemeral_pub_bytes _
  apply (neverPanics_okOr _ _).bind
  intro body _
  split_ifs with hshort
  · simp [NeverPanics, invalidData]
  · have hfirst : NeverPanics (byteAt body 0 : CipherM C UInt8) := by
      rw [NeverPanics, byteAt, List.getElem?_eq_getElem (by omega)]
      nofun
    apply hfirst.bind
    intro version _
    split_ifs
    · simp [NeverPanics, invalidData]
    · nofun

theorem neverPanics_deriveKeys (temp_identity : IdentityKeyPair) (ephemeral_pub_bytes : Bytes) :
    NeverPanics (deriveKeys temp_identity ephemeral_pub_bytes : CipherM C Keys) := by
  apply (neverPanics_okOr _ _).bind
  intro priv_bytes _
  apply (neverPanics_ask _).bind
  intro ours _
  apply (neverPanics_mapErr _ _).bind
  intro our_private_key _
  apply (neverPanics_ask _).bind
  intro theirs _
  apply (neverPanics_mapErr _ _).bind
  intro their_pub_key _
  apply (neverPanics_ask _).bind
  intro agreed _
  apply (neverPanics_mapErr _ _).bind
  intro shared_secret _
  apply (neverPanics_ask _).bind
  intro expanded _
  apply (neverPanics_mapErr _ _).bind
  intro derived _
  have hvalid := derived.valid
  apply (neverPanics_range (by omega) (by omega)).bind
  intro aes_key _
  apply (neverPanics_range (by omega) (by omega)).bind
  nofun

theorem neverPanics_verifyMac {mac_key body : Bytes} (hlen : 32 ≤ body.length) :
    NeverPanics (verifyMac mac_key body : CipherM C Unit) := by
  apply ((neverPanics_lenMinus hlen).bind _).bind
  · intro mac_input _
    apply ((neverPanics_lenMinus hlen).bind _).bind
    · intro mac_expected _
      apply (neverPanics_ask _).bind
      intro keyed _
      apply (neverPanics_mapErr _ _).bind
      intro mac _
      apply (neverPanics_ask _).bind
      intro verified _
      exact neverPanics_mapErr _ _
    · intro start hstart
      obtain ⟨-, rfl⟩ := valueOf_lenMinus_ok.mp hstart
      exact neverPanics_range (by omega) (le_refl _)
  · intro stop hstop
    obtain ⟨-, rfl⟩ := valueOf_lenMinus_ok.mp hstop
    exact neverPanics_range (by omega) (by omega)

theorem neverPanics_decryptBody {aes_key body : Bytes} (hlen : 49 ≤ body.length) :
    NeverPanics (decryptBody aes_key body : CipherM C Bytes) := by
  apply (neverPanics_range (by omega) (by omega)).bind
  intro iv _
  apply ((neverPanics_lenMinus (by omega)).bind _).bind
  · intro ciphertext _
    apply (neverPanics_ask _).bind
    intro keyed _
    apply (neverPanics_mapErr _ _).bind
    intro decryptor _
    apply (neverPanics_ask _).bind
    intro plaintext _
    exact neverPanics_mapErr _ _
  · intro stop hstop
    obtain ⟨-, rfl⟩ := valueOf_lenMinus_ok.mp hstop
    exact neverPanics_range (by omega) (by omega)

theorem neverPanics_readMessage (plaintext : Bytes) :
    NeverPanics (readMessage plaintext : CipherM C ProvisionMessage) := by
  apply (neverPanics_okOr _ _).bind
  intro msg _
  apply (neverPanics_okOr _ _).bind
  intro aci_pub _
  apply (neverPanics_okOr _ _).bind
  nofun

/-- The one length check covers every range that is taken. -/
theorem neverPanics_decrypt (temp_identity : IdentityKeyPair) (bytes : Bytes) :
    NeverPanics (decrypt temp_identity bytes : CipherM C ProvisionMessage) := by
  apply (neverPanics_openEnvelope bytes).bind
  intro opened hopened
  obtain ⟨-, hlong, -⟩ := openEnvelope_ok.mp hopened
  apply (neverPanics_deriveKeys temp_identity opened.ephemeral_pub_bytes).bind
  intro keys _
  apply (neverPanics_verifyMac (by omega)).bind
  intro u _
  apply (neverPanics_decryptBody (by omega)).bind
  intro plaintext _
  exact neverPanics_readMessage plaintext

theorem neverPanics_decode (temp_identity : IdentityKeyPair) (bytes : Bytes) :
    NeverPanics (decode temp_identity bytes : CipherM C ProvisionMessage) := by
  apply (neverPanics_okOr _ _).bind
  intro ws _
  apply (neverPanics_okOr _ _).bind
  intro body _
  exact neverPanics_decrypt temp_identity body

end Panics

/-- The two steps whose order matters: a MAC compared, with the outcome, and a decryption. -/
inductive Stage where
  | mac (input expected : Bytes) (verified : Bool)
  | decryption (ciphertext : Bytes)

def CipherCall.stage : (c : CipherCall C) → c.Reply → Option Stage
  | .verify_slice _ input expected, r => some (.mac input expected r.isOk)
  | .decrypt_padded _ ciphertext, _ => some (.decryption ciphertext)
  | _, _ => none

def stages (es : List (Event (cipherSignature C) Unit)) : List Stage :=
  es.filterMap (fun e => CipherCall.stage e.call e.reply)

section Order

variable {temp_identity : IdentityKeyPair} {bytes body : Bytes} {es es' : List (Event (cipherSignature C) Unit)}

@[simp] theorem stages_append : stages (es ++ es') = stages es ++ stages es' := List.filterMap_append

def CipherCall.Early (c : CipherCall C) : Prop := ∀ r, c.stage r = none

theorem stages_early (h : ∀ e ∈ es, CipherCall.Early e.call) : stages es = [] :=
  List.filterMap_eq_nil_iff.mpr (fun e he => h e he e.reply)

theorem only_early (c : CipherCall C) (hc : c.Early) : c.ask.run.Only CipherCall.Early :=
  only_call (S := cipherSignature C) c hc

theorem only_openEnvelope (bytes : Bytes) :
    (openEnvelope bytes : CipherM C Opened).run.Only CipherCall.Early := by
  apply only_bind (.ret _)
  intro envelope
  apply only_bind (.ret _)
  intro ephemeral_pub_bytes
  apply only_bind (.ret _)
  intro body
  split_ifs
  · exact .ret _
  · apply only_bind (.ret _)
    intro version
    split_ifs
    · exact .ret _
    · exact .ret _

theorem only_deriveKeys (temp_identity : IdentityKeyPair) (ephemeral_pub_bytes : Bytes) :
    (deriveKeys temp_identity ephemeral_pub_bytes : CipherM C Keys).run.Only CipherCall.Early := by
  apply only_bind (.ret _)
  intro priv_bytes
  apply only_bind (only_early _ (fun _ => rfl))
  intro ours
  apply only_bind (.ret _)
  intro our_private_key
  apply only_bind (only_early _ (fun _ => rfl))
  intro theirs
  apply only_bind (.ret _)
  intro their_pub_key
  apply only_bind (only_early _ (fun _ => rfl))
  intro agreed
  apply only_bind (.ret _)
  intro shared_secret
  apply only_bind (only_early _ (fun _ => rfl))
  intro expanded
  apply only_bind (.ret _)
  intro derived
  apply only_bind (.ret _)
  intro aes_key
  apply only_bind (.ret _)
  intro mac_key
  exact .ret _

theorem ensures_silent {α : Type} {x : CipherM C α} (hx : x.run.Only (fun _ => False)) :
    Ensures C.handler x () (fun v _ es => valueOf x = v ∧ es = []) :=
  ⟨rfl, List.eq_nil_iff_forall_not_mem.mpr (ensures_only (h := C.handler) (s := ()) hx)⟩

theorem only_lenMinus_bind {α : Type} (b : Bytes) (n : ℕ) {f : ℕ → CipherM C α}
    (hf : ∀ k, (f k).run.Only (fun _ => False)) : (lenMinus b n >>= f).run.Only (fun _ => False) :=
  only_bind (.ret _) hf

theorem only_range (b : Bytes) (i j : ℕ) : (range b i j : CipherM C Bytes).run.Only (fun _ => False) := .ret _

def Checks (body : Bytes) (v : Except CipherFailure Unit) (ss : List Stage) : Prop :=
  (∀ ciphertext, Stage.decryption ciphertext ∉ ss) ∧
    (v = .ok () → ss = [.mac (body.take (body.length - 32)) (body.drop (body.length - 32)) true])

theorem checks_nil (body : Bytes) (e : CipherFailure) : Checks body (.error e) [] :=
  ⟨fun _ => List.not_mem_nil, nofun⟩

theorem checks_mac (body : Bytes) (text : String) (r : Except String Unit) :
    Checks body (r.mapError (fun _ => invalidData text))
      [.mac (body.take (body.length - 32)) (body.drop (body.length - 32)) r.isOk] := by
  constructor
  · simp
  · intro hok
    cases r with
    | error e => cases hok
    | ok u => rfl

theorem ensures_verifyMac (mac_key body : Bytes) :
    Ensures C.handler (verifyMac mac_key body) () (fun v _ es => Checks body v (stages es)) := by
  have hinput : (lenMinus body 32 >>= range body 0 : CipherM C Bytes).run.Only (fun _ => False) :=
    only_lenMinus_bind body 32 (only_range body 0)
  have hexpected : (lenMinus body 32 >>= fun start => range body start body.length : CipherM C Bytes).run.Only
      (fun _ => False) := only_lenMinus_bind body 32 (fun start => only_range body start body.length)
  apply ensures_bind (ensures_silent hinput)
  · rintro e t es ⟨-, rfl⟩
    exact checks_nil body e
  rintro mac_input t es ⟨htake, rfl⟩
  simp only [valueOf_bind_ok, valueOf_lenMinus_ok, valueOf_range_ok] at htake
  obtain ⟨_, ⟨-, rfl⟩, -, rfl⟩ := htake
  apply ensures_bind (ensures_silent hexpected)
  · rintro e t es ⟨-, rfl⟩
    exact checks_nil body e
  rintro mac_expected t es ⟨hdrop, rfl⟩
  simp only [valueOf_bind_ok, valueOf_lenMinus_ok, valueOf_range_ok] at hdrop
  obtain ⟨_, ⟨-, rfl⟩, -, rfl⟩ := hdrop
  rw [List.drop_zero, List.take_length]
  apply ensures_call_bind
  apply ensures_ofExcept_bind
  · exact fun e _ => checks_nil body e
  intro mac _
  apply ensures_call_bind
  apply ensures_ofExcept
  exact checks_mac body _ _

theorem ensures_decryptBody (aes_key body : Bytes) : Ensures C.handler (decryptBody aes_key body) () (fun _ _ es =>
    stages es = [] ∨ ∃ ciphertext, stages es = [.decryption ciphertext]) := by
  have hciphertext : (lenMinus body 32 >>= range body 17 : CipherM C Bytes).run.Only (fun _ => False) :=
    only_lenMinus_bind body 32 (only_range body 17)
  apply ensures_bind (ensures_silent (only_range body 1 17))
  · rintro e t es ⟨-, rfl⟩
    exact .inl rfl
  rintro iv t es ⟨-, rfl⟩
  apply ensures_bind (ensures_silent hciphertext)
  · rintro e t es ⟨-, rfl⟩
    exact .inl rfl
  rintro ciphertext t es ⟨-, rfl⟩
  apply ensures_call_bind
  apply ensures_ofExcept_bind
  · exact fun e _ => .inl rfl
  intro decryptor _
  apply ensures_call_bind
  apply ensures_ofExcept
  exact .inr ⟨ciphertext, rfl⟩

/-- A decryption comes right after a MAC that matched on all but the last 32 bytes of the envelope's body. -/
def Guarded (bytes : Bytes) (ss : List Stage) : Prop :=
  ∀ ciphertext, Stage.decryption ciphertext ∈ ss → ∃ public_key body,
    ProvisionEnvelopeProto.decode bytes = some ⟨some public_key, some body⟩ ∧
      ss = [.mac (body.take (body.length - 32)) (body.drop (body.length - 32)) true, .decryption ciphertext]

theorem guarded_of_none {ss : List Stage} (h : ∀ ciphertext, Stage.decryption ciphertext ∉ ss) : Guarded bytes ss :=
  fun ciphertext hmem => absurd hmem (h ciphertext)

theorem only_readMessage (plaintext : Bytes) :
    (readMessage plaintext : CipherM C ProvisionMessage).run.Only (fun _ => False) := by
  apply only_bind (.ret _)
  intro msg
  apply only_bind (.ret _)
  intro aci_pub
  apply only_bind (.ret _)
  intro aci_priv
  exact .ret _

theorem ensures_decrypt (temp_identity : IdentityKeyPair) (bytes : Bytes) :
    Ensures C.handler (decrypt temp_identity bytes) () (fun _ _ es => Guarded bytes (stages es)) := by
  have hnone : Guarded bytes [] := guarded_of_none (fun _ => List.not_mem_nil)
  have hopen : Ensures C.handler (openEnvelope bytes) ()
      (fun v _ es => (∀ e ∈ es, CipherCall.Early e.call) ∧ valueOf (openEnvelope bytes) = v) :=
    ⟨ensures_only (only_openEnvelope bytes), rfl⟩
  apply ensures_bind hopen
  · rintro e t es ⟨hes, -⟩
    rw [stages_early hes]
    exact hnone
  rintro opened t es ⟨hes, hopened⟩
  obtain ⟨hdecoded, -, -⟩ := openEnvelope_ok.mp hopened
  apply ensures_bind (ensures_only (only_deriveKeys temp_identity opened.ephemeral_pub_bytes))
  · intro e t es' hes'
    rw [stages_append, stages_early hes, stages_early hes']
    exact hnone
  intro keys t es' hes'
  apply ensures_bind (ensures_verifyMac keys.mac_key opened.body)
  · rintro e t es'' ⟨hdecryptions, -⟩
    rw [stages_append, stages_append, stages_early hes, stages_early hes']
    exact guarded_of_none hdecryptions
  rintro u t es'' ⟨-, hmac⟩
  have hguarded : ∀ ss, (ss = [] ∨ ∃ ciphertext, ss = [Stage.decryption ciphertext]) →
      Guarded bytes (stages es'' ++ ss) := by
    intro ss hss
    rw [hmac rfl]
    rcases hss with rfl | ⟨ciphertext, rfl⟩
    · exact guarded_of_none (by simp)
    · rintro ciphertext' hmem
      obtain rfl : ciphertext' = ciphertext := by simpa using hmem
      exact ⟨_, _, hdecoded, rfl⟩
  apply ensures_bind (ensures_decryptBody keys.aes_key opened.body)
  · intro e t es₃ hes₃
    simp only [stages_append, stages_early hes, stages_early hes', List.nil_append]
    exact hguarded _ hes₃
  intro plaintext t es₃ hes₃
  apply (ensures_silent (only_readMessage plaintext)).mono
  rintro v t es₄ ⟨-, rfl⟩
  simp only [stages_append, stages_early hes, stages_early hes', List.nil_append, List.append_nil]
  exact hguarded _ hes₃

end Order

/-- X25519, HKDF-SHA256 for 64 bytes, HMAC-SHA256 and AES-256-CBC-PKCS7, on well-formed keys. -/
structure CipherCrates.Lawful (C : CipherCrates) : Prop where
  private_key : ∀ k, C.private_key_deserialize (C.private_key_serialize k) = .ok k
  public_key : ∀ k, C.public_key_deserialize (C.public_key_serialize k) = .ok k
  agreement : ∀ a b, ∃ secret, C.calculate_agreement a (C.public_key b) = .ok secret ∧
    C.calculate_agreement b (C.public_key a) = .ok secret
  expand : ∀ ikm info, ∃ derived, C.hkdf_expand ikm info = .ok derived
  keyed : ∀ key, ∃ mac, C.hmac_new_from_slice key = .ok mac
  tag : ∀ mac input, (C.tag mac input).length = 32
  inverts : ∀ key iv plaintext, key.length = 32 → iv.length = 16 → ∃ decryptor,
    C.cbc_new_from_slices key iv = .ok decryptor ∧
      C.decrypt_padded decryptor (C.cbc_encrypt key iv plaintext) = .ok plaintext
  padded : ∀ key iv plaintext, key.length = 32 → iv.length = 16 →
    (C.cbc_encrypt key iv plaintext).length = (plaintext.length / 16 + 1) * 16

def authenticated (iv ciphertext : Bytes) : Bytes := 0x01 :: (iv ++ ciphertext)

def sealedBody (C : CipherCrates) (mac : C.Mac) (iv ciphertext : Bytes) : Bytes :=
  authenticated iv ciphertext ++ C.tag mac (authenticated iv ciphertext)

/-- What the primary sends: its ephemeral public key, and `0x01 || IV || ciphertext || HMAC`. -/
def provisionEnvelope (C : CipherCrates) (ephemeral : C.PrivateKey) (recipient : C.PublicKey) (iv : Bytes)
    (msg : ProvisionMessageProto) : Except CipherFailure Bytes := do
  let secret ← (C.calculate_agreement ephemeral recipient).mapError (fun _ => invalidData "ECDH")
  let derived ← (C.hkdf_expand secret HKDF_INFO).mapError (fun _ => invalidData "HKDF")
  let mac ← (C.hmac_new_from_slice (derived.bytes.drop 32)).mapError (fun _ => invalidData "HMAC")
  let ciphertext := C.cbc_encrypt (derived.bytes.take 32) iv msg.encode_to_vec
  let ephemeral_pub := C.public_key_serialize (C.public_key ephemeral)
  pure (ProvisionEnvelopeProto.encode_to_vec ⟨some ephemeral_pub, some (sealedBody C mac iv ciphertext)⟩)

section RoundTrip

variable {iv ciphertext plaintext : Bytes} {mac : C.Mac}

theorem length_sealedBody (hC : C.Lawful) (hiv : iv.length = 16) :
    (sealedBody C mac iv ciphertext).length = ciphertext.length + 49 := by
  simp only [sealedBody, authenticated, List.length_append, List.length_cons, hC.tag]
  omega

theorem covered_sealedBody (hC : C.Lawful) :
    (sealedBody C mac iv ciphertext).take ((sealedBody C mac iv ciphertext).length - 32) =
      authenticated iv ciphertext := by
  rw [sealedBody, List.length_append, hC.tag, Nat.add_sub_cancel, List.take_left]

theorem mac_sealedBody (hC : C.Lawful) :
    (sealedBody C mac iv ciphertext).drop ((sealedBody C mac iv ciphertext).length - 32) =
      C.tag mac (authenticated iv ciphertext) := by
  rw [sealedBody, List.length_append, hC.tag, Nat.add_sub_cancel, List.drop_left]

theorem iv_sealedBody (hiv : iv.length = 16) : ((sealedBody C mac iv ciphertext).take 17).drop 1 = iv := by
  rw [sealedBody, authenticated, List.cons_append, List.take_succ_cons, List.drop_succ_cons, List.drop_zero,
    List.append_assoc, List.take_left' hiv]

theorem ciphertext_authenticated (hiv : iv.length = 16) : (authenticated iv ciphertext).drop 17 = ciphertext := by
  rw [authenticated, List.drop_succ_cons, List.drop_left' hiv]

theorem macMatches_sealedBody (hC : C.Lawful) {mac_key : Bytes} (hmac : C.hmac_new_from_slice mac_key = .ok mac) :
    MacMatches C mac_key (sealedBody C mac iv ciphertext) := by
  refine ⟨mac, hmac, ?_⟩
  rw [covered_sealedBody hC, mac_sealedBody hC]

theorem decrypts_sealedBody (hC : C.Lawful) {aes_key : Bytes} (hkey : aes_key.length = 32) (hiv : iv.length = 16) :
    Decrypts C aes_key (sealedBody C mac iv (C.cbc_encrypt aes_key iv plaintext)) plaintext := by
  obtain ⟨decryptor, hdecryptor, hinverts⟩ := hC.inverts aes_key iv plaintext hkey hiv
  refine ⟨decryptor, ?_, ?_⟩
  · rw [iv_sealedBody hiv]
    exact hdecryptor
  · rw [covered_sealedBody hC, ciphertext_authenticated hiv]
    exact hinverts

theorem length_plaintext_le (hC : C.Lawful) {aes_key ephemeral_pub : Bytes} (hkey : aes_key.length = 32)
    (hiv : iv.length = 16) : plaintext.length ≤ (ProvisionEnvelopeProto.encode_to_vec
      ⟨some ephemeral_pub, some (sealedBody C mac iv (C.cbc_encrypt aes_key iv plaintext))⟩).length := by
  have hmem : WireField.bytes 2 (sealedBody C mac iv (C.cbc_encrypt aes_key iv plaintext)) ∈
      ProvisionEnvelopeProto.fields
        ⟨some ephemeral_pub, some (sealedBody C mac iv (C.cbc_encrypt aes_key iv plaintext))⟩ := by
    simp [ProvisionEnvelopeProto.fields, bytesField]
  have hbody := length_bytes_le hmem
  rw [length_sealedBody hC hiv, hC.padded aes_key iv plaintext hkey hiv] at hbody
  rw [ProvisionEnvelopeProto.encode_to_vec]
  omega

theorem exists_carries {msg : ProvisionMessageProto} (hpub : msg.aci_identity_key_public.isSome)
    (hpriv : msg.aci_identity_key_private.isSome) : ∃ pm, Carries pm msg := by
  obtain ⟨aci_pub, haci_pub⟩ := Option.isSome_iff_exists.mp hpub
  obtain ⟨aci_priv, haci_priv⟩ := Option.isSome_iff_exists.mp hpriv
  let aci : IdentityKeyPair := ⟨msg.aci.getD "", base64UrlEncodeNoPad aci_pub, base64UrlEncodeNoPad aci_priv⟩
  let pni : IdentityKeyPair := ⟨msg.pni.getD "", base64UrlEncodeNoPad (msg.pni_identity_key_public.getD []),
    base64UrlEncodeNoPad (msg.pni_identity_key_private.getD [])⟩
  refine ⟨⟨msg.number.getD "", aci, pni, "", msg.profile_key.map base64UrlEncodeNoPad, msg.provisioning_code,
    msg.account_entropy_pool⟩, rfl, rfl, ?_, ?_, rfl, rfl, rfl, rfl, rfl, rfl, rfl⟩
  · rw [haci_pub]
    rfl
  · rw [haci_priv]
    rfl

theorem decrypt_provisionEnvelope (hC : C.Lawful) {temp_identity : IdentityKeyPair} {ours : C.PrivateKey}
    (ephemeral : C.PrivateKey) {msg : ProvisionMessageProto}
    (hours : temp_identity.djb_private_key = base64UrlEncodeNoPad (C.private_key_serialize ours))
    (hiv : iv.length = 16) (hpub : msg.aci_identity_key_public.isSome)
    (hpriv : msg.aci_identity_key_private.isSome) :
    ∃ bytes, provisionEnvelope C ephemeral (C.public_key ours) iv msg = .ok bytes ∧
      (bytes.length < 2 ^ 63 → ∃ pm, valueOf (decrypt temp_identity bytes : CipherM C ProvisionMessage) = .ok pm ∧
        Carries pm msg) := by
  obtain ⟨secret, htheirs, hsecret⟩ := hC.agreement ephemeral ours
  obtain ⟨derived, hderived⟩ := hC.expand secret HKDF_INFO
  obtain ⟨mac, hmac⟩ := hC.keyed (derived.bytes.drop 32)
  have hkey : (derived.bytes.take 32).length = 32 := by simp [derived.valid]
  let ephemeral_pub := C.public_key_serialize (C.public_key ephemeral)
  let body := sealedBody C mac iv (C.cbc_encrypt (derived.bytes.take 32) iv msg.encode_to_vec)
  refine ⟨ProvisionEnvelopeProto.encode_to_vec ⟨some ephemeral_pub, some body⟩, ?_, ?_⟩
  · simp only [provisionEnvelope, Except.mapError, bind, Except.bind, htheirs, hderived, hmac]
    rfl
  intro hlen
  have hplaintext : msg.encode_to_vec.length < 2 ^ 64 :=
    (length_plaintext_le hC hkey hiv).trans_lt (hlen.trans (by omega))
  have hbody : body.length = _ := length_sealedBody hC hiv
  have hpadded := hC.padded _ iv msg.encode_to_vec hkey hiv
  have hderives : Derives C temp_identity ephemeral_pub ⟨derived.bytes.take 32, derived.bytes.drop 32⟩ := by
    refine ⟨C.private_key_serialize ours, ours, C.public_key ephemeral, secret, derived, ?_, hC.private_key ours,
      hC.public_key _, hsecret, hderived, rfl⟩
    rw [hours, base64UrlDecodeNoPad_encode]
  have hauthentic : Authentic C temp_identity (ProvisionEnvelopeProto.encode_to_vec ⟨some ephemeral_pub, some body⟩)
      ⟨ephemeral_pub, body⟩ ⟨derived.bytes.take 32, derived.bytes.drop 32⟩ := by
    refine ⟨ProvisionEnvelopeProto.decode_encode (hlen.trans (by omega)), ?_, rfl, hderives,
      macMatches_sealedBody hC hmac⟩
    change 65 ≤ body.length
    omega
  obtain ⟨pm, hcarries⟩ := exists_carries hpub hpriv
  exact ⟨pm, decrypt_ok.mpr ⟨_, _, _, msg, hauthentic, decrypts_sealedBody hC hkey hiv,
    ProvisionMessageProto.decode_encode hplaintext, hcarries⟩, hcarries⟩

end RoundTrip

theorem provisioning_envelopes (C : CipherCrates) :
    (C.Lawful → ∀ (temp_identity : IdentityKeyPair) (ours ephemeral : C.PrivateKey) (iv : Bytes)
      (msg : ProvisionMessageProto),
      temp_identity.djb_private_key = base64UrlEncodeNoPad (C.private_key_serialize ours) → iv.length = 16 →
      msg.aci_identity_key_public.isSome → msg.aci_identity_key_private.isSome →
      ∃ bytes, provisionEnvelope C ephemeral (C.public_key ours) iv msg = .ok bytes ∧
        (bytes.length < 2 ^ 63 → ∃ pm, valueOf (decrypt temp_identity bytes : CipherM C ProvisionMessage) = .ok pm ∧
          Carries pm msg)) ∧
    ∀ (temp_identity : IdentityKeyPair) (bytes : Bytes),
      NeverPanics (decrypt temp_identity bytes : CipherM C ProvisionMessage) ∧
      NeverPanics (decode temp_identity bytes : CipherM C ProvisionMessage) ∧
      (∀ pm, valueOf (decrypt temp_identity bytes : CipherM C ProvisionMessage) = .ok pm →
        ∃ opened keys, Authentic C temp_identity bytes opened keys) ∧
      Guarded bytes (stages ((decrypt temp_identity bytes : CipherM C ProvisionMessage).exec C.handler ()).events) := by
  refine ⟨fun hC temp_identity ours ephemeral iv msg hours hiv hpub hpriv =>
    decrypt_provisionEnvelope hC ephemeral hours hiv hpub hpriv, fun temp_identity bytes =>
    ⟨neverPanics_decrypt temp_identity bytes, neverPanics_decode temp_identity bytes, ?_,
      ensures_decrypt temp_identity bytes⟩⟩
  intro pm hpm
  obtain ⟨opened, keys, _, _, hauthentic, -⟩ := decrypt_ok.mp hpm
  exact ⟨opened, keys, hauthentic⟩

section Sample

def pad (plaintext : Bytes) : Bytes :=
  plaintext ++ List.replicate (16 - plaintext.length % 16) (UInt8.ofNat (16 - plaintext.length % 16))

def unpad (padded : Bytes) : Except String Bytes :=
  match padded.getLast? with
  | some n => if n.toNat ≤ padded.length then .ok (padded.take (padded.length - n.toNat)) else .error "UnpadError"
  | none => .error "UnpadError"

theorem unpad_pad (plaintext : Bytes) : unpad (pad plaintext) = .ok plaintext := by
  have hlast : (pad plaintext).getLast? = some (UInt8.ofNat (16 - plaintext.length % 16)) := by
    rw [pad, List.getLast?_append, List.getLast?_replicate, if_neg (by omega)]
    rfl
  have hcount : (UInt8.ofNat (16 - plaintext.length % 16)).toNat = 16 - plaintext.length % 16 := by
    rw [UInt8.toNat_ofNat']
    omega
  have hlen : (pad plaintext).length = plaintext.length + (16 - plaintext.length % 16) := by simp [pad]
  simp only [unpad, hlast, hcount, hlen]
  rw [if_pos (by omega), Nat.add_sub_cancel, pad, List.take_left]

def sampleCrates : CipherCrates where
  PrivateKey := UInt8
  PublicKey := UInt8
  Mac := Bytes
  Decryptor := UInt8
  public_key k := 5 * k
  private_key_serialize k := [k]
  private_key_deserialize
    | [k] => .ok k
    | _ => .error (.Other "bad key length")
  public_key_serialize k := [5, k]
  public_key_deserialize
    | [5, k] => .ok k
    | _ => .error (.Other "bad key type")
  calculate_agreement a p := .ok [a * p]
  hkdf_expand ikm _ := .ok ⟨List.replicate 64 (ikm.headD 0), List.length_replicate⟩
  hmac_new_from_slice key := .ok key
  tag key input := List.replicate 32 (input.foldl (· + ·) (key.headD 0))
  cbc_encrypt key iv plaintext := (pad plaintext).map (· + (key.headD 0 + iv.headD 0))
  cbc_new_from_slices key iv := .ok (key.headD 0 + iv.headD 0)
  decrypt_padded d ciphertext := unpad (ciphertext.map (· - d))

theorem length_pad (plaintext : Bytes) : (pad plaintext).length = (plaintext.length / 16 + 1) * 16 := by
  simp only [pad, List.length_append, List.length_replicate]
  omega

theorem sampleCrates_lawful : sampleCrates.Lawful where
  private_key _ := rfl
  public_key _ := rfl
  agreement (a b : UInt8) := by
    refine ⟨[a * (5 * b)], rfl, congrArg (fun secret => Except.ok [secret]) ?_⟩
    change b * (5 * a) = a * (5 * b)
    rw [UInt8.mul_comm b, UInt8.mul_comm 5 a, UInt8.mul_assoc]
  expand _ _ := ⟨_, rfl⟩
  keyed _ := ⟨_, rfl⟩
  tag _ _ := List.length_replicate
  inverts key iv plaintext _ _ := by
    refine ⟨_, rfl, ?_⟩
    change unpad (((pad plaintext).map (· + _)).map (· - _)) = .ok plaintext
    rw [List.map_map, ← unpad_pad plaintext]
    congr 1
    exact List.map_id'' (fun b => UInt8.add_sub_cancel b _) _
  padded key iv plaintext _ _ := by
    change ((pad plaintext).map _).length = _
    rw [List.length_map, length_pad]

def sampleIdentity : IdentityKeyPair := ⟨"", "", base64UrlEncodeNoPad [7]⟩

def sampleMessage : ProvisionMessageProto :=
  ⟨some [1, 2], some [3], none, none, none, some true, none, none, some [4], none, none⟩

theorem provisioning_envelopes_sample : ∃ bytes pm,
    provisionEnvelope sampleCrates (3 : UInt8) (35 : UInt8) (List.replicate 16 9) sampleMessage = .ok bytes ∧
      valueOf (decrypt sampleIdentity bytes : CipherM sampleCrates ProvisionMessage) = .ok pm ∧
      Carries pm sampleMessage := by
  obtain ⟨bytes, hmade, hdecrypt⟩ := (provisioning_envelopes sampleCrates).1 sampleCrates_lawful sampleIdentity
    (7 : UInt8) (3 : UInt8) (List.replicate 16 9) sampleMessage rfl rfl rfl rfl
  have hlen : bytes.length < 2 ^ 63 := by
    obtain rfl := Except.ok.inj hmade
    decide +kernel
  obtain ⟨pm, hpm, hcarries⟩ := hdecrypt hlen
  exact ⟨bytes, pm, hmade, hpm, hcarries⟩

end Sample

end Provisioning

end XousSignalClient
