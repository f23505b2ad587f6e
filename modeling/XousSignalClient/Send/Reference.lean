import XousSignalClient.Encoding.Base64
import XousSignalClient.Encoding.Json
import XousSignalClient.Send.Converge

namespace XousSignalClient

namespace Reference

open Encoding Interaction

section Bodies

def token (s : String) : List Char := s.toList

def mismatchText (mm : DeviceMismatchResponse) : List Char :=
  token "\x7b\"missingDevices\":" ++ (arrayText numberText mm.missing_devices ++
    (token ",\"extraDevices\":" ++ (arrayText numberText mm.extra_devices ++
      (token ",\"staleDevices\":" ++ (arrayText numberText mm.stale_devices ++ token "\x7d")))))

def readMismatch (cs : List Char) : Option DeviceMismatchResponse := do
  let cs ← literal (token "\x7b\"missingDevices\":") cs
  let (missing_devices, cs) ← array number cs
  let cs ← literal (token ",\"extraDevices\":") cs
  let (extra_devices, cs) ← array number cs
  let cs ← literal (token ",\"staleDevices\":") cs
  let (stale_devices, cs) ← array number cs
  let _ ← literal (token "\x7d") cs
  some ⟨missing_devices, extra_devices, stale_devices⟩

theorem reads_numbers (l : List ℕ) (rest : List Char) :
    array number (arrayText numberText l ++ rest) = some (l, rest) := by
  refine reads_array (fun n _ => reads_number n) ?_ rest
  intro n _
  refine ⟨numberText_head n, ?_⟩
  intro h
  have hread := reads_number n [] (fun c hc => absurd hc (by simp))
  rw [h] at hread
  cases hread

theorem readMismatch_text (mm : DeviceMismatchResponse) : readMismatch (mismatchText mm) = some mm := by
  have hclose : literal (token "\x7d") (token "\x7d") = some [] := by decide
  simp only [readMismatch, mismatchText, literal_append, reads_numbers, hclose, Option.bind_eq_bind,
    Option.bind_some]

def keyText (key_id : ℕ) (public_key signature : String) : List Char :=
  token "\x7b\"keyId\":" ++ (numberText key_id ++ (token ",\"publicKey\":" ++ (quotedText public_key ++
    (token ",\"signature\":" ++ (quotedText signature ++ token "\x7d")))))

def readKey : Reader (ℕ × String × String) := fun cs => do
  let cs ← literal (token "\x7b\"keyId\":") cs
  let (key_id, cs) ← number cs
  let cs ← literal (token ",\"publicKey\":") cs
  let (public_key, cs) ← quoted cs
  let cs ← literal (token ",\"signature\":") cs
  let (signature, cs) ← quoted cs
  let cs ← literal (token "\x7d") cs
  some ((key_id, public_key, signature), cs)

def entryText (e : DeviceEntry) : List Char :=
  token "\x7b\"deviceId\":" ++ (numberText e.device_id ++ (token ",\"registrationId\":" ++
    (numberText e.registration_id ++ (token ",\"signedPreKey\":" ++
      (keyText e.signed_pre_key.key_id e.signed_pre_key.public_key e.signed_pre_key.signature ++
        (token ",\"preKey\":null,\"pqPreKey\":" ++
          (keyText e.pq_pre_key.key_id e.pq_pre_key.public_key e.pq_pre_key.signature ++
            token "\x7d")))))))

def readEntry : Reader DeviceEntry := fun cs => do
  let cs ← literal (token "\x7b\"deviceId\":") cs
  let (device_id, cs) ← number cs
  let cs ← literal (token ",\"registrationId\":") cs
  let (registration_id, cs) ← number cs
  let cs ← literal (token ",\"signedPreKey\":") cs
  let ((key_id, public_key, signature), cs) ← readKey cs
  let cs ← literal (token ",\"preKey\":null,\"pqPreKey\":") cs
  let ((pq_key_id, pq_public_key, pq_signature), cs) ← readKey cs
  let cs ← literal (token "\x7d") cs
  some (⟨device_id, registration_id, ⟨key_id, public_key, signature⟩, none,
    ⟨pq_key_id, pq_public_key, pq_signature⟩⟩, cs)

def responseText (pre : PreKeyResponse) : List Char :=
  token "\x7b\"identityKey\":" ++ (quotedText pre.identity_key ++ (token ",\"devices\":" ++
    (arrayText entryText pre.devices ++ token "\x7d")))

def readResponse (cs : List Char) : Option PreKeyResponse := do
  let cs ← literal (token "\x7b\"identityKey\":") cs
  let (identity_key, cs) ← quoted cs
  let cs ← literal (token ",\"devices\":") cs
  let (devices, cs) ← array readEntry cs
  let _ ← literal (token "\x7d") cs
  some ⟨identity_key, devices⟩

theorem readKey_text {key_id : ℕ} {public_key signature : String} (hpublic : '"' ∉ public_key.toList)
    (hsignature : '"' ∉ signature.toList) (rest : List Char) :
    readKey (keyText key_id public_key signature ++ rest) = some ((key_id, public_key, signature), rest) := by
  have hnumber : ∀ t, number (numberText key_id ++ (token ",\"publicKey\":" ++ t)) =
      some (key_id, token ",\"publicKey\":" ++ t) :=
    fun t => reads_number key_id _ (stops_cons (by decide))
  simp only [readKey, keyText, List.append_assoc, literal_append, hnumber, reads_quoted hpublic,
    reads_quoted hsignature, Option.bind_eq_bind, Option.bind_some]

structure PlainEntry (e : DeviceEntry) : Prop where
  signed_public : '"' ∉ e.signed_pre_key.public_key.toList
  signed_signature : '"' ∉ e.signed_pre_key.signature.toList
  one_time : e.pre_key = none
  pq_public : '"' ∉ e.pq_pre_key.public_key.toList
  pq_signature : '"' ∉ e.pq_pre_key.signature.toList

theorem reads_entry {e : DeviceEntry} (he : PlainEntry e) : Reads readEntry (entryText e) e := by
  intro rest _
  have hdevice : ∀ t, number (numberText e.device_id ++ (token ",\"registrationId\":" ++ t)) =
      some (e.device_id, token ",\"registrationId\":" ++ t) :=
    fun t => reads_number _ _ (stops_cons (by decide))
  have hregistration : ∀ t, number (numberText e.registration_id ++ (token ",\"signedPreKey\":" ++ t)) =
      some (e.registration_id, token ",\"signedPreKey\":" ++ t) :=
    fun t => reads_number _ _ (stops_cons (by decide))
  simp only [readEntry, entryText, List.append_assoc, literal_append, hdevice, hregistration,
    readKey_text he.signed_public he.signed_signature, readKey_text he.pq_public he.pq_signature,
    Option.bind_eq_bind, Option.bind_some]
  rw [← he.one_time]

theorem readResponse_text {pre : PreKeyResponse} (hidentity : '"' ∉ pre.identity_key.toList)
    (hdevices : ∀ e ∈ pre.devices, PlainEntry e) : readResponse (responseText pre) = some pre := by
  have hentries : ∀ rest, array readEntry (arrayText entryText pre.devices ++ rest) =
      some (pre.devices, rest) := by
    refine reads_array (fun e he => reads_entry (hdevices e he)) ?_
    intro e _
    exact ⟨nofun, nofun⟩
  have hclose : literal (token "\x7d") (token "\x7d") = some [] := by decide
  simp only [readResponse, responseText, literal_append, reads_quoted hidentity, hentries, hclose,
    Option.bind_eq_bind, Option.bind_some]

end Bodies

section Crates

structure Url where
  origin : String
  path : String

structure Bundle where
  registration_id : ℕ
  device_id : DeviceId
  signed_pre_key : Bytes
  signed_pre_key_signature : Bytes
  kyber_pre_key : Bytes
  kyber_pre_key_signature : Bytes
  identity_key : Bytes

def tagged (length : ℕ) (tag : UInt8) (b : Bytes) : Except SignalProtocolError Bytes :=
  if b.length = length ∧ b.head? = some tag then .ok b else .error (.Other "bad key")

structure Record where
  registration : UInt8
  sent : UInt8
  identity_key : Bytes

def Record.bytes (r : Record) : Bytes := r.registration :: r.sent :: r.identity_key

def deserialize : Bytes → Except SignalProtocolError Record
  | registration :: sent :: identity_key => .ok ⟨registration, sent, identity_key⟩
  | _ => .error (.Other "failed to decode protobuf")

def url_parse (s : String) : Except String Url :=
  match strip_prefix s "https://" with
  | some _ => .ok ⟨s, "/"⟩
  | none => .error "relative URL without a base"

def orText {α : Type} (text : String) : Option α → Except String α
  | some a => .ok a
  | none => .error text

def prekey_response_from_slice (b : Bytes) : Except String PreKeyResponse :=
  orText "expected value" ((from_utf8 b).bind (fun s => readResponse s.toList))

def mismatch_from_slice (b : Bytes) : Except String DeviceMismatchResponse :=
  orText "expected value" ((from_utf8 b).bind (fun s => readMismatch s.toList))

abbrev crates : Crates where
  SessionRecord := Record
  serialize := fun r => .ok r.bytes
  deserialize := deserialize
  remote_registration_id := fun r => .ok r.registration.toNat
  debug := fun
    | .InvalidState target text => "InvalidState(\"" ++ target ++ "\", \"" ++ text ++ "\")"
    | .Other text => text
  IdentityKey := Bytes
  PublicKey := Bytes
  KemPublicKey := Bytes
  identity_key_decode := tagged 33 5
  public_key_deserialize := tagged 33 5
  kem_public_key_deserialize := tagged 1569 8
  Url := Url
  url_parse := url_parse
  set_path := fun url path => ⟨url.origin, path⟩
  as_str := fun url => url.origin ++ url.path
  b64_encode := base64Encode
  b64_decode := fun s => orText "Invalid symbol" (base64Decode s)
  prekey_response_from_slice := prekey_response_from_slice
  mismatch_from_slice := mismatch_from_slice
  PreKeyBundle := Bundle
  prekey_bundle_new := fun registration_id device_id _ _ signed_pre_key signature _ kyber_pre_key
      kyber_signature identity_key =>
    .ok ⟨registration_id, device_id, signed_pre_key, signature, kyber_pre_key, kyber_signature, identity_key⟩

def body (cs : List Char) : Bytes := utf8 (String.ofList cs)

theorem from_utf8_body (cs : List Char) : from_utf8 (body cs) = some (String.ofList cs) :=
  from_utf8_utf8 _

theorem prekey_slice_eq (b : Bytes) : crates.prekey_response_from_slice b = prekey_response_from_slice b := rfl

theorem mismatch_slice_eq (b : Bytes) : crates.mismatch_from_slice b = mismatch_from_slice b := rfl

theorem carries_mismatch (mm : DeviceMismatchResponse) : Carries crates (body (mismatchText mm)) mm := by
  have hread : mismatch_from_slice (body (mismatchText mm)) = .ok mm := by
    rw [mismatch_from_slice, from_utf8_body, Option.bind_some, String.toList_ofList, readMismatch_text]
    rfl
  rw [Carries, from_utf8_body, mismatch_slice_eq, hread]
  exact ⟨rfl, rfl⟩

theorem response_of_body {pre : PreKeyResponse} (hidentity : '"' ∉ pre.identity_key.toList)
    (hdevices : ∀ e ∈ pre.devices, PlainEntry e) :
    prekey_response_from_slice (body (responseText pre)) = .ok pre := by
  rw [prekey_response_from_slice, from_utf8_body, Option.bind_some, String.toList_ofList,
    readResponse_text hidentity hdevices]
  rfl

end Crates

section Keys

def identityKey : Bytes := 5 :: List.replicate 32 1

def signedPreKey : Bytes := 5 :: List.replicate 32 2

def kyberPreKey : Bytes := 8 :: List.replicate 1568 3

def sign (identity_key message : Bytes) : Bytes := identity_key.drop 1 ++ (message.drop 1).take 32

def deviceEntry (d : ℕ) : DeviceEntry where
  device_id := d
  registration_id := 1
  signed_pre_key := ⟨1, base64Encode signedPreKey, base64Encode (sign identityKey signedPreKey)⟩
  pre_key := none
  pq_pre_key := ⟨1, base64Encode kyberPreKey, base64Encode (sign identityKey kyberPreKey)⟩

def accountKeys (devices : List ℕ) : PreKeyResponse :=
  ⟨base64Encode identityKey, devices.map deviceEntry⟩

def deviceBundle (i : DeviceId) : Bundle :=
  ⟨1, i, signedPreKey, sign identityKey signedPreKey, kyberPreKey, sign identityKey kyberPreKey, identityKey⟩

def Bundle.Verified (b : Bundle) : Prop :=
  b.signed_pre_key_signature = sign b.identity_key b.signed_pre_key ∧
    b.kyber_pre_key_signature = sign b.identity_key b.kyber_pre_key

instance (b : Bundle) : Decidable b.Verified := inferInstanceAs (Decidable (_ ∧ _))

def Genuine (d : ℕ) (b : Bundle) : Prop :=
  b.device_id.val = d ∧ b.registration_id = 1 ∧ b.Verified ∧ b.identity_key = identityKey

theorem genuine_deviceBundle (i : DeviceId) : Genuine i.val (deviceBundle i) := ⟨rfl, rfl, ⟨rfl, rfl⟩, rfl⟩

theorem base64Encode_plain (b : Bytes) : '"' ∉ (base64Encode b).toList := by
  rw [base64Encode, String.toList_ofList]
  exact base64Chars_plain b

theorem plain_deviceEntry (d : ℕ) : PlainEntry (deviceEntry d) :=
  ⟨base64Encode_plain _, base64Encode_plain _, rfl, base64Encode_plain _, base64Encode_plain _⟩

theorem accountKeys_body (devices : List ℕ) :
    crates.prekey_response_from_slice (body (responseText (accountKeys devices))) = .ok (accountKeys devices) := by
  rw [prekey_slice_eq]
  refine response_of_body (base64Encode_plain _) ?_
  intro e he
  obtain ⟨d, -, rfl⟩ := List.mem_map.mp he
  exact plain_deviceEntry d

theorem decodeBase64_encode (label : String) (b : Bytes) :
    decodeBase64 crates label (base64Encode b) = .ok b := by
  have hdecode : crates.b64_decode (base64Encode b) =
      orText "Invalid symbol" (base64Decode (base64Encode b)) := rfl
  rw [decodeBase64, hdecode, base64Decode_encode]
  rfl

theorem tagged_replicate (n : ℕ) (tag x : UInt8) :
    tagged (n + 1) tag (tag :: List.replicate n x) = .ok (tag :: List.replicate n x) := by
  simp [tagged]

theorem identity_decodes {b : Bytes} (hb : tagged 33 5 b = .ok b) :
    decode_identity_key crates (base64Encode b) = .ok b := by
  rw [decode_identity_key, decodeBase64_encode]
  exact congrArg (Except.mapError _) hb

theorem ec_public_decodes {b : Bytes} (hb : tagged 33 5 b = .ok b) :
    decode_ec_public crates (base64Encode b) = .ok b := by
  rw [decode_ec_public, decodeBase64_encode]
  exact congrArg (Except.mapError _) hb

theorem kyber_public_decodes {b : Bytes} (hb : tagged 1569 8 b = .ok b) :
    decode_kyber_public crates (base64Encode b) = .ok b := by
  rw [decode_kyber_public, decodeBase64_encode]
  exact congrArg (Except.mapError _) hb

theorem build_decoded {i : DeviceId} {k signed signed_sig kyber kyber_sig : Bytes}
    (hsigned : tagged 33 5 signed = .ok signed) (hkyber : tagged 1569 8 kyber = .ok kyber) :
    build_prekey_bundle crates ⟨i.val, 1, ⟨1, base64Encode signed, base64Encode signed_sig⟩, none,
      ⟨1, base64Encode kyber, base64Encode kyber_sig⟩⟩ k =
        .ok ⟨1, i, signed, signed_sig, kyber, kyber_sig, k⟩ := by
  have hdevice : to_device_id "device id " i.val = .ok i := to_device_id_ok _ i
  simp only [build_prekey_bundle, hdevice, ec_public_decodes hsigned, kyber_public_decodes hkyber,
    decodeBase64_encode]
  rfl

theorem build_deviceEntry (i : DeviceId) :
    build_prekey_bundle crates (deviceEntry i.val) identityKey = .ok (deviceBundle i) :=
  build_decoded (tagged_replicate 32 5 2) (tagged_replicate 1568 8 3)

end Keys

end Reference

end XousSignalClient
