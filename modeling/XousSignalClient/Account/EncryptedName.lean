import XousSignalClient.Account.DeviceName
import XousSignalClient.Provisioning.Messages
import XousSignalClient.SigChat.Credentials

namespace XousSignalClient

open Encoding Interaction Fallible

structure DeviceNameProto where
  ephemeral_public : Option Bytes
  synthetic_iv : Option Bytes
  ciphertext : Option Bytes

namespace DeviceNameProto

def fields (m : DeviceNameProto) : List WireField :=
  bytesField 1 m.ephemeral_public ++ bytesField 2 m.synthetic_iv ++ bytesField 3 m.ciphertext

def encode_to_vec (m : DeviceNameProto) : Bytes := encodeFields m.fields

def decode (bs : Bytes) : Option DeviceNameProto := do
  let fields ← decodeFields MainWs.RECURSION_LIMIT bs
  let ephemeral_public ← optionalField readBytes 1 fields
  let synthetic_iv ← optionalField readBytes 2 fields
  let ciphertext ← optionalField readBytes 3 fields
  pure ⟨ephemeral_public, synthetic_iv, ciphertext⟩

theorem decode_encode {m : DeviceNameProto} (hlen : m.encode_to_vec.length < 2 ^ 64) :
    decode m.encode_to_vec = some m := by
  have hscalar : ∀ f ∈ m.fields, f.Scalar := by
    unfold fields
    repeat' apply scalar_append
    all_goals exact scalar_bytesField (by decide) _
  have hephemeral : optionalField readBytes 1 m.fields = some m.ephemeral_public :=
    optionalField_bytes (by simp [fields])
  have hiv : optionalField readBytes 2 m.fields = some m.synthetic_iv := optionalField_bytes (by simp [fields])
  have hciphertext : optionalField readBytes 3 m.fields = some m.ciphertext :=
    optionalField_bytes (by simp [fields])
  rw [decode, encode_to_vec, decodeFields_encode MainWs.RECURSION_LIMIT hscalar hlen]
  simp only [Option.bind_eq_bind, Option.bind_some, hephemeral, hiv, hciphertext]
  rfl

end DeviceNameProto

structure Digest where
  bytes : Bytes
  valid : bytes.length = 32

def Digest.key (d : Digest) : Aes256Key := ⟨d.bytes, d.valid⟩

/-- What the device name uses of libsignal, `hmac` and `base64`; the public keys are read by the primary alone. -/
structure NameCrates (L : LinkCrates) where
  PublicKey : Type
  Mac : Type
  decode_error : String → String
  public_key : L.PrivateKey → Except SignalProtocolError PublicKey
  public_key_serialize : PublicKey → Bytes
  public_key_deserialize : Bytes → Except SignalProtocolError PublicKey
  calculate_agreement : L.PrivateKey → PublicKey → Except SignalProtocolError Bytes
  hmac_new_from_slice : Bytes → Except String Mac
  finalize : Mac → Bytes → Digest

variable {L : LinkCrates} {N : NameCrates L} {τ : Type}

structure NameCrates.KeyPair (N : NameCrates L) where
  private_key : L.PrivateKey
  public_key : N.PublicKey

inductive NameCall (N : NameCrates L) where
  | generate
  | aes (c : AesCall)

abbrev NameCall.Reply : NameCall N → Type
  | .generate => N.KeyPair
  | .aes c => c.Reply

def nameSignature (N : NameCrates L) : Signature := ⟨NameCall N, NameCall.Reply⟩

abbrev NameM (N : NameCrates L) (α : Type) := Fallible (nameSignature N) Error α

namespace DeviceNameUtil

def inAes (x : Fallible aesSignature Error Bytes) : NameM N Bytes :=
  ExceptT.mk (x.run.interp (fun c => Program.perform (S := nameSignature N) (.aes c)))

def mapErr {ε α : Type} (text : ε → Error) (r : Except ε α) : NameM N α := Fallible.ofExcept (r.mapError text)

def hmac (label : String) (key input : Bytes) : NameM N Digest := do
  let mac ← mapErr (fun _ => ⟨.InvalidData, "HMAC key init (" ++ label ++ ")"⟩) (N.hmac_new_from_slice key)
  pure (N.finalize mac input)

def decode_priv (N : NameCrates L) (key : String) : Except Error Bytes :=
  (L.b64_url_decode key).elim (.error ⟨.InvalidData, "identity priv b64: " ++ N.decode_error key⟩) .ok

def encrypt_device_name (N : NameCrates L) (device_name aci_identity_priv : String) : NameM N String := do
  let priv_bytes ← Fallible.ofExcept (decode_priv N aci_identity_priv)
  let identity_private ← mapErr (fun e => ⟨.InvalidData, "identity priv deserialize: " ++ L.debug e⟩)
    (L.private_key_deserialize priv_bytes)
  let identity_public ← mapErr (fun e => ⟨.Other, "identity pub derivation: " ++ L.debug e⟩)
    (N.public_key identity_private)
  let ephemeral : N.KeyPair ← Fallible.call (S := nameSignature N) .generate
  let master_secret ← mapErr (fun e => ⟨.Other, "ECDH: " ++ L.debug e⟩)
    (N.calculate_agreement ephemeral.private_key identity_public)
  let synthetic_iv_key ← hmac "auth" master_secret (utf8 "auth")
  let synthetic_iv_full ← hmac "synth_iv" synthetic_iv_key.bytes (utf8 device_name)
  let synthetic_iv := synthetic_iv_full.bytes.take 16
  let cipher_key_key ← hmac "cipher" master_secret (utf8 "cipher")
  let cipher_key ← hmac "cipher_key" cipher_key_key.bytes synthetic_iv
  let ciphertext ← inAes (aes256_ctr_encrypt cipher_key.bytes (utf8 device_name))
  let proto : DeviceNameProto :=
    ⟨some (N.public_key_serialize ephemeral.public_key), some synthetic_iv, some ciphertext⟩
  pure (base64Encode proto.encode_to_vec)

end DeviceNameUtil

structure NameEnv (N : NameCrates L) (τ : Type) where
  generate : τ → N.KeyPair × τ
  aes : BlockCipher

namespace NameEnv

def answer (env : NameEnv N τ) : (c : NameCall N) → τ → c.Reply × τ
  | .generate, t => env.generate t
  | .aes (.encrypt_block key block), t => (env.aes key block, t)

def handler (env : NameEnv N τ) : Handler (nameSignature N) τ := ⟨env.answer⟩

end NameEnv

section Primary

def NameCrates.hmac (N : NameCrates L) (key input : Bytes) : Option Digest :=
  ((N.hmac_new_from_slice key).toOption).map (fun mac => N.finalize mac input)

/-- The name as the account's primary device reads it, which holds the same identity key. -/
def primary_name (N : NameCrates L) (aes : BlockCipher) (identity_private : L.PrivateKey) (encrypted : String) :
    Option String := do
  let proto ← base64Decode encrypted >>= DeviceNameProto.decode
  let ephemeral_public ← proto.ephemeral_public
  let synthetic_iv ← proto.synthetic_iv
  let ciphertext ← proto.ciphertext
  let ephemeral ← (N.public_key_deserialize ephemeral_public).toOption
  let master_secret ← (N.calculate_agreement identity_private ephemeral).toOption
  let cipher_key_key ← N.hmac master_secret (utf8 "cipher")
  let cipher_key ← N.hmac cipher_key_key.bytes synthetic_iv
  let plaintext := aes.ctr cipher_key.key 0 ciphertext
  let synthetic_iv_key ← N.hmac master_secret (utf8 "auth")
  let expected ← N.hmac synthetic_iv_key.bytes plaintext
  if expected.bytes.take 16 = synthetic_iv then from_utf8 plaintext else none

structure NameCrates.Lawful (N : NameCrates L) : Prop where
  hmac : ∀ key, ∃ mac, N.hmac_new_from_slice key = .ok mac
  reads : ∀ key, N.public_key_deserialize (N.public_key_serialize key) = .ok key
  fits : ∀ key, (N.public_key_serialize key).length = 33
  agrees : ∀ ours theirs ours_public theirs_public, N.public_key ours = .ok ours_public →
    N.public_key theirs = .ok theirs_public →
      N.calculate_agreement ours theirs_public = N.calculate_agreement theirs ours_public

def NameEnv.Matched (env : NameEnv N τ) : Prop :=
  ∀ t, N.public_key (env.generate t).1.private_key = .ok (env.generate t).1.public_key

end Primary

section Sealing

def Seals (N : NameCrates L) (aes : BlockCipher) (secret : Bytes) (public_key : N.PublicKey) (device_name : String)
    (m : DeviceNameProto) : Prop :=
  ∃ synthetic_iv_key synthetic_iv_full cipher_key_key cipher_key : Digest,
    N.hmac secret (utf8 "auth") = some synthetic_iv_key ∧
    N.hmac synthetic_iv_key.bytes (utf8 device_name) = some synthetic_iv_full ∧
    N.hmac secret (utf8 "cipher") = some cipher_key_key ∧
    N.hmac cipher_key_key.bytes (synthetic_iv_full.bytes.take 16) = some cipher_key ∧
    m = ⟨some (N.public_key_serialize public_key), some (synthetic_iv_full.bytes.take 16),
      some (aes.ctr cipher_key.key 0 (utf8 device_name))⟩

theorem length_encode_sealed (hlaws : N.Lawful) {aes : BlockCipher} {secret : Bytes} {public_key : N.PublicKey}
    {device_name : String} {m : DeviceNameProto} (h : Seals N aes secret public_key device_name m) :
    m.encode_to_vec.length ≤ (utf8 device_name).length + 109 := by
  obtain ⟨_, synthetic_iv_full, _, cipher_key, -, -, -, -, rfl⟩ := h
  have hephemeral := length_encodeBytes_le 1 (N.public_key_serialize public_key)
  have hiv := length_encodeBytes_le 2 (synthetic_iv_full.bytes.take 16)
  have hname := length_encodeBytes_le 3 (aes.ctr cipher_key.key 0 (utf8 device_name))
  have htake : (synthetic_iv_full.bytes.take 16).length ≤ 16 := List.length_take_le 16 _
  rw [hlaws.fits] at hephemeral
  rw [BlockCipher.length_ctr] at hname
  simp only [DeviceNameProto.encode_to_vec, DeviceNameProto.fields, bytesField, Option.map_some, Option.toList_some,
    List.cons_append, List.nil_append, encodeFields, List.flatMap_cons, List.flatMap_nil, List.append_nil,
    List.length_append]
  omega

theorem primary_name_sealed (hlaws : N.Lawful) {aes : BlockCipher} {identity ephemeral : L.PrivateKey}
    {identity_public ephemeral_public : N.PublicKey} {secret : Bytes} {device_name : String} {m : DeviceNameProto}
    (hidentity : N.public_key identity = .ok identity_public) (hephemeral : N.public_key ephemeral = .ok ephemeral_public)
    (hsecret : N.calculate_agreement ephemeral identity_public = .ok secret)
    (hsealed : Seals N aes secret ephemeral_public device_name m) (hlen : (utf8 device_name).length < 2 ^ 63) :
    primary_name N aes identity (base64Encode m.encode_to_vec) = some device_name := by
  have hfits : m.encode_to_vec.length < 2 ^ 64 := by
    have hle := length_encode_sealed hlaws hsealed
    omega
  have hagreed : N.calculate_agreement identity ephemeral_public = .ok secret :=
    (hlaws.agrees ephemeral identity ephemeral_public identity_public hephemeral hidentity).symm.trans hsecret
  obtain ⟨synthetic_iv_key, synthetic_iv_full, cipher_key_key, cipher_key, hauth, hiv, hcipher, hkey, rfl⟩ := hsealed
  unfold primary_name
  simp only [base64Decode_encode, Option.bind_eq_bind, Option.bind_some, DeviceNameProto.decode_encode hfits,
    hlaws.reads, hagreed, Except.toOption, hcipher, hkey, BlockCipher.ctr_ctr, hauth, hiv, if_true]
  exact from_utf8_eq_some.mpr rfl

end Sealing

section Encryption

variable {α : Type} {env : NameEnv N τ} {t : τ}

open DeviceNameUtil

theorem ensures_hmac_bind (hlaws : N.Lawful) (label : String) {key input : Bytes} {f : Digest → NameM N α}
    {Q : Except Error α → Prop}
    (hf : ∀ d, N.hmac key input = some d → Ensures env.handler (f d) t (fun v _ _ => Q v)) :
    Ensures env.handler (hmac label key input >>= f) t (fun v _ _ => Q v) := by
  obtain ⟨mac, hmac⟩ := hlaws.hmac key
  have hvalue : N.hmac key input = some (N.finalize mac input) := by
    rw [NameCrates.hmac, hmac]
    rfl
  unfold DeviceNameUtil.hmac
  rw [bind_assoc, hmac]
  apply ensures_ofExcept_bind
  · rintro e ⟨⟩
  · rintro _ ⟨⟩
    rw [pure_bind]
    exact hf _ hvalue

theorem exec_inAes (key : Aes256Key) (plaintext : Bytes) :
    ((inAes (aes256_ctr_encrypt key.bytes plaintext) : NameM N Bytes).exec env.handler t).value =
      .ok (env.aes.ctr key 0 plaintext) := by
  let part : Program.Part τ Unit := ⟨fun _ => (), fun t _ => t, fun _ _ => rfl, fun _ _ _ => rfl, fun _ => rfl⟩
  have himpl : ∀ (c : AesCall) (t : τ),
      ((Program.perform (S := nameSignature N) (.aes c)).run env.handler t).value = (env.aes.handler.answer c ()).1 ∧
        ((Program.perform (S := nameSignature N) (.aes c)).run env.handler t).state = t := by
    rintro ⟨key, block⟩ t
    exact ⟨rfl, rfl⟩
  refine ((Program.run_interp part himpl _ t).1).trans ?_
  exact (env.aes.exec_aes256_ctr_encrypt key plaintext).1

def Keyed (env : NameEnv N τ) (t : τ) (aci_identity_priv : String) (secret : Bytes) : Prop :=
  ∃ identity identity_public, ReadsAs L aci_identity_priv identity ∧ N.public_key identity = .ok identity_public ∧
    N.calculate_agreement (env.generate t).1.private_key identity_public = .ok secret

theorem ensures_mapErr_bind {ε β : Type} {text : ε → Error} {r : Except ε β} {f : β → NameM N α}
    {Q : Except Error α → Prop} (herr : ∀ e, r = .error e → Q (.error (text e)))
    (hok : ∀ b, r = .ok b → Ensures env.handler (f b) t (fun v _ _ => Q v)) :
    Ensures env.handler (mapErr text r >>= f) t (fun v _ _ => Q v) := by
  cases r with
  | error e => exact herr e rfl
  | ok b => exact hok b rfl

theorem decode_priv_ok {key : String} {bytes : Bytes} :
    decode_priv N key = .ok bytes ↔ L.b64_url_decode key = some bytes := by
  unfold decode_priv
  cases L.b64_url_decode key <;> simp

theorem ensures_encrypt_device_name (env : NameEnv N τ) (t : τ) (hlaws : N.Lawful)
    (device_name aci_identity_priv : String) :
    Ensures env.handler (encrypt_device_name N device_name aci_identity_priv) t (fun v _ _ =>
      (∃ m secret, v = .ok (base64Encode m.encode_to_vec) ∧ Keyed env t aci_identity_priv secret ∧
        Seals N env.aes secret (env.generate t).1.public_key device_name m) ∨
      (∃ e, v = .error e) ∧ ∀ secret, ¬ Keyed env t aci_identity_priv secret) := by
  unfold encrypt_device_name
  apply ensures_ofExcept_bind
  · intro e he
    refine .inr ⟨⟨e, rfl⟩, ?_⟩
    rintro secret ⟨_, _, ⟨bytes, hbytes, -⟩, -⟩
    rw [decode_priv_ok.mpr hbytes] at he
    cases he
  intro priv_bytes hpriv
  rw [decode_priv_ok] at hpriv
  apply ensures_mapErr_bind
  · intro e hidentity
    exact .inr ⟨⟨_, rfl⟩, by simp [Keyed, ReadsAs, hpriv, hidentity]⟩
  intro identity hidentity
  apply ensures_mapErr_bind
  · intro e hpublic
    exact .inr ⟨⟨_, rfl⟩, by simp [Keyed, ReadsAs, hpriv, hidentity, hpublic]⟩
  intro identity_public hpublic
  apply ensures_call_bind
  apply ensures_mapErr_bind
  · intro e hsecret
    refine .inr ⟨⟨_, rfl⟩, ?_⟩
    have hfails : N.calculate_agreement (env.generate t).1.private_key identity_public = .error e := hsecret
    simp [Keyed, ReadsAs, hpriv, hidentity, hpublic, hfails]
  intro secret hsecret
  apply ensures_hmac_bind hlaws
  intro synthetic_iv_key hauth
  apply ensures_hmac_bind hlaws
  intro synthetic_iv_full hiv
  apply ensures_hmac_bind hlaws
  intro cipher_key_key hcipher
  apply ensures_hmac_bind hlaws
  intro cipher_key hkey
  have hkeyed : Keyed env t aci_identity_priv secret :=
    ⟨identity, identity_public, ⟨priv_bytes, hpriv, hidentity⟩, hpublic, hsecret⟩
  refine ensures_bind (P := fun v _ _ => v = .ok (env.aes.ctr cipher_key.key 0 (utf8 device_name)))
    (exec_inAes cipher_key.key _) ?_ ?_
  · rintro e u es ⟨⟩
  · rintro ciphertext u es hciphertext
    obtain rfl := Except.ok.inj hciphertext
    exact ensures_pure (.inl ⟨_, secret, rfl, hkeyed, synthetic_iv_key, synthetic_iv_full, cipher_key_key, cipher_key,
      hauth, hiv, hcipher, hkey, rfl⟩)

theorem encrypt_device_name_readable (hlaws : N.Lawful) (hmatched : env.Matched) {device_name : String}
    (hlen : (utf8 device_name).length < 2 ^ 63) (aci_identity_priv : String) (t : τ) :
    let v := ((encrypt_device_name N device_name aci_identity_priv).exec env.handler t).value
    ((∃ encrypted, v = .ok encrypted) ↔ ∃ secret, Keyed env t aci_identity_priv secret) ∧
      ∀ encrypted, v = .ok encrypted → ∃ identity, ReadsAs L aci_identity_priv identity ∧
        primary_name N env.aes identity encrypted = some device_name := by
  intro v
  obtain ⟨m, secret, hv, hkeyed, hsealed⟩ | ⟨⟨e, hv⟩, hunkeyed⟩ :=
    ensures_encrypt_device_name env t hlaws device_name aci_identity_priv
  · change v = _ at hv
    rw [hv]
    refine ⟨⟨fun _ => ⟨secret, hkeyed⟩, fun _ => ⟨_, rfl⟩⟩, ?_⟩
    rintro encrypted hencrypted
    obtain rfl := Except.ok.inj hencrypted
    obtain ⟨identity, identity_public, hreads, hpublic, hsecret⟩ := hkeyed
    exact ⟨identity, hreads, primary_name_sealed hlaws hpublic (hmatched t) hsecret hsealed hlen⟩
  · change v = _ at hv
    rw [hv]
    refine ⟨⟨?_, ?_⟩, ?_⟩
    · rintro ⟨_, ⟨⟩⟩
    · rintro ⟨secret, hkeyed⟩
      exact absurd hkeyed (hunkeyed secret)
    · rintro _ ⟨⟩

end Encryption

section Linking

variable {σ : Type} {h : Handler (linkSignature L) σ}

def NameEnv.encrypts (names : NameEnv N τ) (device_name aci_identity_priv : String) (t : τ) :
    Except Error String × τ :=
  let o := (DeviceNameUtil.encrypt_device_name N device_name aci_identity_priv).exec names.handler t
  (o.value, o.state)

def ShowsName (answered : String → Prop) (linked : Account.Linked L) (es : List (Event (linkSignature L) σ)) : Prop :=
  answered linked.encrypted_name ∧ ∃ body, (∃ e ∈ es, Accepts linked.password linked.response body e) ∧
    body.account_attributes.name = linked.encrypted_name

theorem ShowsName.grows (answered : String → Prop) (linked : Account.Linked L) :
    Grows (ShowsName (σ := σ) answered linked) := by
  rintro es es' ⟨hanswered, body, haccepted, hname⟩
  exact ⟨hanswered, body, grows_mem es es' haccepted, hname⟩

theorem name_attributes {encrypted_name : String} {profile_key : Bytes} {id pni_id : ℕ} {attrs : AccountAttributes}
    (hattrs : build_account_attributes L encrypted_name profile_key id pni_id = .ok attrs) :
    attrs.name = encrypted_name := by
  unfold build_account_attributes at hattrs
  cases huak : derive_unidentified_access_key L profile_key with
  | error e =>
    rw [huak] at hattrs
    cases hattrs
  | ok uak =>
    rw [huak] at hattrs
    rw [← Except.ok.inj hattrs]

theorem yields_shows_name {answered : String → Prop} {device_name : String} {msg : ProvisionMessage}
    (hanswered : ∀ s encrypted, (h.answer (.encrypt_device_name device_name msg.aci.djb_private_key) s).1 =
      Except.ok encrypted → answered encrypted) :
    Yields h (Account.requestLink device_name msg : LinkM L (Account.Linked L)) (ShowsName answered) := by
  have hgrows : ∀ linked : Account.Linked L, Grows (ShowsName (σ := σ) answered linked) := ShowsName.grows answered
  unfold Account.requestLink
  apply yields_after hgrows
  intro account
  cases msg.provisioning_code with
  | none => exact yields_throw
  | some verification_code =>
    cases msg.profile_key with
    | none => exact yields_throw
    | some profile_key_b64 =>
      simp only
      cases L.b64_url_decode profile_key_b64 with
      | none => exact yields_throw
      | some profile_key_bytes =>
        refine yields_after hgrows (fun password => ?_)
        refine yields_after hgrows (fun registration_id => ?_)
        refine yields_after hgrows (fun pni_registration_id => ?_)
        refine yields_bind (P := fun name _ => ∀ encrypted, name = Except.ok encrypted → answered encrypted)
          ?_ ?_
        · intro s
          apply ensures_call (S := linkSignature L)
          intro name hname encrypted hencrypted
          rw [← Except.ok.inj hname] at hencrypted
          exact hanswered s encrypted hencrypted
        intro name es₁ hname
        refine Yields.mono ?_ (fun linked es' => hgrows linked es₁ es')
        refine yields_bind (yields_propagate _) ?_
        intro encrypted_name es₂ hencrypted
        refine Yields.mono ?_ (fun linked es' => hgrows linked es₂ es')
        refine yields_bind (yields_propagate _) ?_
        intro attrs es₃ hattrs
        refine Yields.mono ?_ (fun linked es' => hgrows linked es₃ es')
        refine yields_after hgrows (fun aci_priv => ?_)
        refine yields_after hgrows (fun pni_priv => ?_)
        refine yields_after hgrows (fun keys => ?_)
        refine yields_after hgrows (fun generated => ?_)
        refine yields_after hgrows (fun base_url => ?_)
        refine yields_bind (yields_put_devices_link_accepts _ _ _ _) ?_
        intro response es₄ hresponse
        apply yields_pure
        rw [List.append_nil]
        exact ⟨hname encrypted_name hencrypted, _, hresponse, name_attributes hattrs⟩

/-- After a link, the name that the server lists for the device, and that the account keeps, is one which the
primary device reads as the name the user gave. -/
theorem linked_name_readable (env : LinkEnv L τ) (names : NameEnv N τ)
    (henv : env.encrypt_device_name = names.encrypts) (hlaws : N.Lawful) (hmatched : names.Matched)
    {device_name : String} (hlen : (utf8 device_name).length < 2 ^ 63) (msg : ProvisionMessage)
    (d : Device L.toHostCrate τ) :
    let after := (Account.link device_name msg).exec env.handler d
    after.value = .ok true → ∃ (linked : Account.Linked L) (body : LinkDeviceRequestBody) (identity : L.PrivateKey),
      (∃ e ∈ after.events, Accepts linked.password linked.response body e) ∧
      after.state.account.encrypted_device_name = some body.account_attributes.name ∧
      ReadsAs L msg.aci.djb_private_key identity ∧
      primary_name N names.aes identity body.account_attributes.name = some device_name := by
  intro after hlinked
  have hanswered : ∀ (d : Device L.toHostCrate τ) encrypted,
      (env.handler.answer (.encrypt_device_name device_name msg.aci.djb_private_key) d).1 = Except.ok encrypted →
        ∃ identity, ReadsAs L msg.aci.djb_private_key identity ∧
          primary_name N names.aes identity encrypted = some device_name := by
    intro d encrypted hencrypted
    change (env.encrypt_device_name device_name msg.aci.djb_private_key d.outside).1 = _ at hencrypted
    rw [henv] at hencrypted
    exact (encrypt_device_name_readable hlaws hmatched hlen msg.aci.djb_private_key d.outside).2 encrypted hencrypted
  obtain ⟨linked, received, ⟨⟨identity, hreads, hname⟩, body, ⟨e, he, haccepted⟩, hbody⟩, hreceived, hassigned, -⟩ :=
    ensures_link_request env device_name msg d (yields_shows_name hanswered d) hlinked
  rw [assignedAll_credentials] at hassigned
  have haccount : d.account.linked msg linked = after.state.account := Option.some.inj hassigned
  refine ⟨linked, body, identity, ⟨e, hreceived he, haccepted⟩, ?_, hreads, ?_⟩
  · rw [← haccount, hbody]
    rfl
  · rw [hbody]
    exact hname

end Linking

section Phone

def phoneIdentityKey : Bytes := List.replicate 32 0

def phoneEphemeralKey : Bytes := List.replicate 32 9

def phoneIdentityPublic : Bytes :=
  [0x05, 0x2f, 0xe5, 0x7d, 0xa3, 0x47, 0xcd, 0x62, 0x43, 0x15, 0x28, 0xda, 0xac, 0x5f, 0xbb, 0x29,
    0x07, 0x30, 0xff, 0xf6, 0x84, 0xaf, 0xc4, 0xcf, 0xc2, 0xed, 0x90, 0x99, 0x5f, 0x58, 0xcb, 0x3b,
    0x74]

def phoneEphemeralPublic : Bytes :=
  [0x05, 0x57, 0xdb, 0x4b, 0x35, 0x9f, 0x23, 0xae, 0x5e, 0x14, 0x6e, 0x4e, 0x25, 0x12, 0x05, 0x67,
    0x04, 0x72, 0x25, 0x06, 0x34, 0x8c, 0x15, 0x0c, 0x14, 0x75, 0x3d, 0x0c, 0x93, 0x3d, 0x04, 0xd4,
    0x21]

def phoneSecret : Bytes :=
  [0x56, 0x55, 0xe8, 0xc8, 0x24, 0x5d, 0xd7, 0xd0, 0x0a, 0x40, 0xa0, 0xf3, 0x32, 0x9f, 0x7b, 0x61,
    0xf2, 0x05, 0xac, 0x16, 0x28, 0xa5, 0x5e, 0x9b, 0xec, 0x9e, 0xa3, 0x78, 0xb0, 0x43, 0x85, 0x15]

def phoneAuthKey : Digest :=
  ⟨[0x19, 0x9d, 0x02, 0x82, 0xad, 0x59, 0xaf, 0x6f, 0xa1, 0xe3, 0xab, 0x55, 0x7d, 0x3b, 0x2d, 0x51,
    0x82, 0xa4, 0xb4, 0xc8, 0x4a, 0x3c, 0xbc, 0x52, 0x96, 0x83, 0x8b, 0xe1, 0x9b, 0x34, 0x27, 0x2d], rfl⟩

def phoneNameIv : Digest :=
  ⟨[0x53, 0x1e, 0x0b, 0x7f, 0x1b, 0x00, 0x95, 0x47, 0x33, 0x6f, 0x79, 0xa2, 0xfb, 0x4f, 0x3a, 0x62,
    0xa2, 0xd0, 0x67, 0xc4, 0x95, 0xf8, 0x29, 0x1d, 0x37, 0x71, 0x8c, 0xa5, 0xef, 0x21, 0xbe, 0x00], rfl⟩

def phoneCipherKeyKey : Digest :=
  ⟨[0xc3, 0x73, 0x9b, 0xfd, 0x56, 0x05, 0xb5, 0x92, 0x27, 0x02, 0x07, 0xf6, 0xd5, 0x04, 0x50, 0x14,
    0xe6, 0xb0, 0x0f, 0xb2, 0xda, 0xf8, 0xb8, 0x22, 0xad, 0x11, 0x9a, 0x25, 0x0e, 0x33, 0xaa, 0x9a], rfl⟩

def phoneCipherKey : Digest :=
  ⟨[0x13, 0x30, 0x7c, 0x1a, 0xf0, 0xba, 0xb3, 0x0d, 0x6f, 0xb5, 0x1d, 0xd0, 0x81, 0x68, 0x4a, 0xde,
    0xe7, 0x0a, 0xe9, 0x69, 0xd5, 0x46, 0xd8, 0x6a, 0x16, 0x79, 0xd2, 0x91, 0x0c, 0xcb, 0x42, 0x56], rfl⟩

def phoneKeystream : Block :=
  ⟨[0xdd, 0xda, 0x75, 0xe9, 0x16, 0x58, 0xc6, 0x87, 0xda, 0x90, 0x4d, 0xdc, 0x3e, 0x55, 0x7e, 0x82], rfl⟩

def phoneNames : NameCrates phoneCrates where
  PublicKey := { b : Bytes // b.length = 33 }
  Mac := Bytes
  decode_error := fun _ => "Invalid symbol"
  public_key := fun key =>
    if key = phoneIdentityKey then .ok ⟨phoneIdentityPublic, rfl⟩
    else if key = phoneEphemeralKey then .ok ⟨phoneEphemeralPublic, rfl⟩ else .error (.Other "NoKeyTypeIdentifier")
  public_key_serialize := fun key => key.val
  public_key_deserialize := fun b => if h : b.length = 33 then .ok ⟨b, h⟩ else .error (.Other "BadKeyLength")
  calculate_agreement := fun ours theirs =>
    if (ours = phoneIdentityKey ∧ theirs.val = phoneEphemeralPublic) ∨
      (ours = phoneEphemeralKey ∧ theirs.val = phoneIdentityPublic) then .ok phoneSecret
    else .error (.Other "BadKeyType")
  hmac_new_from_slice := fun key => .ok key
  finalize := fun key input =>
    if key = phoneSecret ∧ input = utf8 "auth" then phoneAuthKey
    else if key = phoneAuthKey.bytes ∧ input = utf8 "precursor" then phoneNameIv
    else if key = phoneSecret ∧ input = utf8 "cipher" then phoneCipherKeyKey
    else phoneCipherKey

def phoneNamesEnv : NameEnv phoneNames Unit where
  generate := fun u => (⟨phoneEphemeralKey, ⟨phoneEphemeralPublic, rfl⟩⟩, u)
  aes := fun key block => if key.bytes = phoneCipherKey.bytes ∧ block = .zero then phoneKeystream else block

theorem phoneNames_lawful : phoneNames.Lawful where
  hmac := fun key => ⟨key, rfl⟩
  reads := fun key => dif_pos key.property
  fits := fun key => key.property
  agrees := by
    have hkeys : ∀ key pub, phoneNames.public_key key = .ok pub →
        key = phoneIdentityKey ∧ pub = ⟨phoneIdentityPublic, rfl⟩ ∨
          key = phoneEphemeralKey ∧ pub = ⟨phoneEphemeralPublic, rfl⟩ := by
      intro key pub hpub
      simp only [phoneNames] at hpub
      split_ifs at hpub with hidentity hephemeral
      · exact .inl ⟨hidentity, (Except.ok.inj hpub).symm⟩
      · exact .inr ⟨hephemeral, (Except.ok.inj hpub).symm⟩
    intro ours theirs ours_public theirs_public hours htheirs
    obtain ⟨rfl, rfl⟩ | ⟨rfl, rfl⟩ := hkeys ours ours_public hours
    · obtain ⟨rfl, rfl⟩ | ⟨rfl, rfl⟩ := hkeys theirs theirs_public htheirs
      · rfl
      · rfl
    · obtain ⟨rfl, rfl⟩ | ⟨rfl, rfl⟩ := hkeys theirs theirs_public htheirs
      · rfl
      · rfl

def namedEnv : LinkEnv phoneCrates Unit := { phoneEnv with encrypt_device_name := phoneNamesEnv.encrypts }

def namedPhone : Outcome (linkSignature phoneCrates) (Device phoneCrates.toHostCrate Unit) (Except Failure Bool) :=
  (Account.link "precursor" phoneMessage).exec namedEnv.handler ⟨madePhone.state, madeAccount, ()⟩

theorem namedPhone_value : namedPhone.value = .ok true := by decide +kernel

theorem phone_name_readable :
    ∃ (linked : Account.Linked phoneCrates) (body : LinkDeviceRequestBody) (identity : phoneCrates.PrivateKey),
    (∃ e ∈ namedPhone.events, Accepts linked.password linked.response body e) ∧
    namedPhone.state.account.encrypted_device_name = some body.account_attributes.name ∧
    ReadsAs phoneCrates phoneMessage.aci.djb_private_key identity ∧
    primary_name phoneNames phoneNamesEnv.aes identity body.account_attributes.name = some "precursor" :=
  linked_name_readable namedEnv phoneNamesEnv rfl phoneNames_lawful (fun _ => rfl) (by decide) phoneMessage
    ⟨madePhone.state, madeAccount, ()⟩ namedPhone_value

end Phone

end XousSignalClient
