import XousSignalClient.MainWs.RoundTrip

namespace XousSignalClient

open Encoding Outgoing

namespace Provisioning

structure WebSocketRequestMessageProto where
  verb : Option String
  path : Option String
  body : Option Bytes
  id : Option UInt64

structure WebSocketMessageProto where
  type : Option ℤ
  request : Option WebSocketRequestMessageProto

structure ProvisionEnvelopeProto where
  public_key : Option Bytes
  body : Option Bytes

structure ProvisionMessageProto where
  aci_identity_key_public : Option Bytes
  aci_identity_key_private : Option Bytes
  number : Option String
  provisioning_code : Option String
  profile_key : Option Bytes
  read_receipts : Option Bool
  aci : Option String
  pni : Option String
  pni_identity_key_public : Option Bytes
  pni_identity_key_private : Option Bytes
  account_entropy_pool : Option String

def WebSocketRequestMessageProto.read (fields : List WireField) : Option WebSocketRequestMessageProto := do
  let verb ← optionalField readString 1 fields
  let path ← optionalField readString 2 fields
  let body ← optionalField readBytes 3 fields
  let id ← optionalField readUint64 4 fields
  pure ⟨verb, path, body, id⟩

def WebSocketMessageProto.decode (bs : Bytes) : Option WebSocketMessageProto := do
  let fields ← decodeFields MainWs.RECURSION_LIMIT bs
  let type ← optionalField readInt32 1 fields
  let request ← MainWs.embedded WebSocketRequestMessageProto.read (MainWs.RECURSION_LIMIT - 1) 2 fields
  pure ⟨type, request⟩

def ProvisionEnvelopeProto.fields (m : ProvisionEnvelopeProto) : List WireField :=
  bytesField 1 m.public_key ++ bytesField 2 m.body

def ProvisionEnvelopeProto.encode_to_vec (m : ProvisionEnvelopeProto) : Bytes := encodeFields m.fields

def ProvisionEnvelopeProto.decode (bs : Bytes) : Option ProvisionEnvelopeProto := do
  let fields ← decodeFields MainWs.RECURSION_LIMIT bs
  let public_key ← optionalField readBytes 1 fields
  let body ← optionalField readBytes 2 fields
  pure ⟨public_key, body⟩

def ProvisionMessageProto.fields (m : ProvisionMessageProto) : List WireField :=
  bytesField 1 m.aci_identity_key_public ++ bytesField 2 m.aci_identity_key_private ++ stringField 3 m.number ++
    stringField 4 m.provisioning_code ++ bytesField 6 m.profile_key ++ boolField 7 m.read_receipts ++
    stringField 8 m.aci ++ stringField 10 m.pni ++ bytesField 11 m.pni_identity_key_public ++
    bytesField 12 m.pni_identity_key_private ++ stringField 15 m.account_entropy_pool

def ProvisionMessageProto.encode_to_vec (m : ProvisionMessageProto) : Bytes := encodeFields m.fields

def ProvisionMessageProto.decode (bs : Bytes) : Option ProvisionMessageProto := do
  let fields ← decodeFields MainWs.RECURSION_LIMIT bs
  let aci_identity_key_public ← optionalField readBytes 1 fields
  let aci_identity_key_private ← optionalField readBytes 2 fields
  let number ← optionalField readString 3 fields
  let provisioning_code ← optionalField readString 4 fields
  let profile_key ← optionalField readBytes 6 fields
  let read_receipts ← optionalField readBool 7 fields
  let aci ← optionalField readString 8 fields
  let pni ← optionalField readString 10 fields
  let pni_identity_key_public ← optionalField readBytes 11 fields
  let pni_identity_key_private ← optionalField readBytes 12 fields
  let account_entropy_pool ← optionalField readString 15 fields
  pure ⟨aci_identity_key_public, aci_identity_key_private, number, provisioning_code, profile_key, read_receipts,
    aci, pni, pni_identity_key_public, pni_identity_key_private, account_entropy_pool⟩

section RoundTrip

theorem ProvisionEnvelopeProto.decode_encode {m : ProvisionEnvelopeProto} (hlen : m.encode_to_vec.length < 2 ^ 64) :
    ProvisionEnvelopeProto.decode m.encode_to_vec = some m := by
  have hscalar : ∀ f ∈ m.fields, f.Scalar :=
    scalar_append (scalar_bytesField (by decide) _) (scalar_bytesField (by decide) _)
  have hkey : optionalField readBytes 1 m.fields = some m.public_key := optionalField_bytes (by simp [fields])
  have hbody : optionalField readBytes 2 m.fields = some m.body := optionalField_bytes (by simp [fields])
  rw [decode, encode_to_vec, decodeFields_encode MainWs.RECURSION_LIMIT hscalar hlen]
  simp only [Option.bind_eq_bind, Option.bind_some, hkey, hbody]
  rfl

theorem ProvisionMessageProto.scalar (m : ProvisionMessageProto) : ∀ f ∈ m.fields, f.Scalar := by
  have hbytes : ∀ {tag : ℕ} {v : Option Bytes}, TagFits tag → ∀ f ∈ bytesField tag v, f.Scalar :=
    fun h => scalar_bytesField h _
  have hstring : ∀ {tag : ℕ} {v : Option String}, TagFits tag → ∀ f ∈ stringField tag v, f.Scalar :=
    fun h => scalar_stringField h _
  unfold fields
  repeat' apply scalar_append
  · exact hbytes (by decide)
  · exact hbytes (by decide)
  · exact hstring (by decide)
  · exact hstring (by decide)
  · exact hbytes (by decide)
  · exact scalar_boolField (by decide) _
  · exact hstring (by decide)
  · exact hstring (by decide)
  · exact hbytes (by decide)
  · exact hbytes (by decide)
  · exact hstring (by decide)

theorem ProvisionMessageProto.decode_encode {m : ProvisionMessageProto} (hlen : m.encode_to_vec.length < 2 ^ 64) :
    ProvisionMessageProto.decode m.encode_to_vec = some m := by
  have haci_public : optionalField readBytes 1 m.fields = some m.aci_identity_key_public :=
    optionalField_bytes (by simp [fields])
  have haci_private : optionalField readBytes 2 m.fields = some m.aci_identity_key_private :=
    optionalField_bytes (by simp [fields])
  have hnumber : optionalField readString 3 m.fields = some m.number :=
    optionalField_string (by simp [fields])
  have hcode : optionalField readString 4 m.fields = some m.provisioning_code :=
    optionalField_string (by simp [fields])
  have hprofile : optionalField readBytes 6 m.fields = some m.profile_key :=
    optionalField_bytes (by simp [fields])
  have hreceipts : optionalField readBool 7 m.fields = some m.read_receipts :=
    optionalField_bool (by simp [fields])
  have haci : optionalField readString 8 m.fields = some m.aci :=
    optionalField_string (by simp [fields])
  have hpni : optionalField readString 10 m.fields = some m.pni :=
    optionalField_string (by simp [fields])
  have hpni_public : optionalField readBytes 11 m.fields = some m.pni_identity_key_public :=
    optionalField_bytes (by simp [fields])
  have hpni_private : optionalField readBytes 12 m.fields = some m.pni_identity_key_private :=
    optionalField_bytes (by simp [fields])
  have hentropy : optionalField readString 15 m.fields = some m.account_entropy_pool :=
    optionalField_string (by simp [fields])
  rw [decode, encode_to_vec, decodeFields_encode MainWs.RECURSION_LIMIT m.scalar hlen]
  simp only [Option.bind_eq_bind, Option.bind_some, haci_public, haci_private, hnumber, hcode, hprofile, hreceipts,
    haci, hpni, hpni_public, hpni_private, hentropy]
  rfl

end RoundTrip

end Provisioning

end XousSignalClient
