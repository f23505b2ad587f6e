import XousSignalClient.MainWs.RoundTrip

namespace XousSignalClient

open Encoding Outgoing

namespace MainWs

def WS_TYPE_REQUEST : ℤ := 1
def WS_TYPE_RESPONSE : ℤ := 2

structure WsRequestProto where
  verb : Option String
  path : Option String
  body : Option Bytes
  id : Option UInt64
  headers : List String
  deriving DecidableEq

structure WsResponseProto where
  id : Option UInt64
  status : Option ℕ
  message : Option String
  body : Option Bytes
  headers : List String
  deriving DecidableEq

structure WsMessageProto where
  type : Option ℤ
  request : Option WsRequestProto
  response : Option WsResponseProto
  deriving DecidableEq

def WsRequestProto.fields (m : WsRequestProto) : List WireField :=
  stringField 1 m.verb ++ stringField 2 m.path ++ bytesField 3 m.body ++ uint64Field 4 m.id ++
    stringsField 5 m.headers

def WsResponseProto.fields (m : WsResponseProto) : List WireField :=
  uint64Field 1 m.id ++ uint32Field 2 m.status ++ stringField 3 m.message ++ bytesField 4 m.body ++
    stringsField 5 m.headers

def WsMessageProto.fields (m : WsMessageProto) : List WireField :=
  int32Field 1 m.type ++ messageField 2 (m.request.map WsRequestProto.fields) ++
    messageField 3 (m.response.map WsResponseProto.fields)

def WsMessageProto.encode_to_vec (m : WsMessageProto) : Bytes := encodeFields m.fields

def WsRequestProto.read (fields : List WireField) : Option WsRequestProto := do
  let verb ← optionalField readString 1 fields
  let path ← optionalField readString 2 fields
  let body ← optionalField readBytes 3 fields
  let id ← optionalField readUint64 4 fields
  let headers ← repeatedField readString 5 fields
  pure ⟨verb, path, body, id, headers⟩

def WsResponseProto.read (fields : List WireField) : Option WsResponseProto := do
  let id ← optionalField readUint64 1 fields
  let status ← optionalField readUint32 2 fields
  let message ← optionalField readString 3 fields
  let body ← optionalField readBytes 4 fields
  let headers ← repeatedField readString 5 fields
  pure ⟨id, status, message, body, headers⟩

def WsMessageProto.read (fields : List WireField) : Option WsMessageProto := do
  let type ← optionalField readInt32 1 fields
  let request ← embedded WsRequestProto.read (RECURSION_LIMIT - 1) 2 fields
  let response ← embedded WsResponseProto.read (RECURSION_LIMIT - 1) 3 fields
  pure ⟨type, request, response⟩

def WsMessageProto.decode (bs : Bytes) : Option WsMessageProto :=
  (decodeFields RECURSION_LIMIT bs).bind WsMessageProto.read

structure WsMessageProto.Typed (m : WsMessageProto) : Prop where
  type : ∀ n, m.type = some n → -2 ^ 31 ≤ n ∧ n < 2 ^ 31
  status : ∀ response, m.response = some response → ∀ n, response.status = some n → n < 2 ^ 32

section RoundTrip

theorem WsRequestProto.scalar (m : WsRequestProto) : ∀ f ∈ m.fields, f.Scalar :=
  scalar_append (scalar_append (scalar_append (scalar_append (scalar_stringField (by decide) _)
    (scalar_stringField (by decide) _)) (scalar_bytesField (by decide) _)) (scalar_uint64Field (by decide) _))
    (scalar_stringsField (by decide) _)

theorem WsRequestProto.read_fields (m : WsRequestProto) : WsRequestProto.read m.fields = some m := by
  have hverb : optionalField readString 1 m.fields = some m.verb := optionalField_string (by simp [fields])
  have hpath : optionalField readString 2 m.fields = some m.path := optionalField_string (by simp [fields])
  have hbody : optionalField readBytes 3 m.fields = some m.body := optionalField_bytes (by simp [fields])
  have hid : optionalField readUint64 4 m.fields = some m.id := optionalField_uint64 (by simp [fields])
  have hheaders : repeatedField readString 5 m.fields = some m.headers := repeatedField_strings (by simp [fields])
  rw [read, hverb, hpath, hbody, hid, hheaders]
  rfl

theorem WsResponseProto.scalar {m : WsResponseProto} (hstatus : ∀ n, m.status = some n → n < 2 ^ 32) :
    ∀ f ∈ m.fields, f.Scalar :=
  scalar_append (scalar_append (scalar_append (scalar_append (scalar_uint64Field (by decide) _)
    (scalar_uint32Field (by decide) hstatus)) (scalar_stringField (by decide) _)) (scalar_bytesField (by decide) _))
    (scalar_stringsField (by decide) _)

theorem WsResponseProto.read_fields {m : WsResponseProto} (hstatus : ∀ n, m.status = some n → n < 2 ^ 32) :
    WsResponseProto.read m.fields = some m := by
  have hid : optionalField readUint64 1 m.fields = some m.id := optionalField_uint64 (by simp [fields])
  have hcode : optionalField readUint32 2 m.fields = some m.status := optionalField_uint32 hstatus (by simp [fields])
  have hmessage : optionalField readString 3 m.fields = some m.message := optionalField_string (by simp [fields])
  have hbody : optionalField readBytes 4 m.fields = some m.body := optionalField_bytes (by simp [fields])
  have hheaders : repeatedField readString 5 m.fields = some m.headers := repeatedField_strings (by simp [fields])
  rw [read, hid, hcode, hmessage, hbody, hheaders]
  rfl

theorem WsMessageProto.scalar (m : WsMessageProto) : ∀ f ∈ m.fields, f.Scalar :=
  scalar_append (scalar_append (scalar_int32Field (by decide) _) (scalar_messageField (by decide) _))
    (scalar_messageField (by decide) _)

theorem WsMessageProto.decode_encode {m : WsMessageProto} (hm : m.Typed) (hlen : m.encode_to_vec.length < 2 ^ 64) :
    WsMessageProto.decode m.encode_to_vec = some m := by
  have htype : optionalField readInt32 1 m.fields = some m.type := optionalField_int32 hm.type (by simp [fields])
  have hrequest : embedded WsRequestProto.read (RECURSION_LIMIT - 1) 2 m.fields = some m.request :=
    embedded_written (fun a _ => a.read_fields) (fun a _ => a.scalar) (by simp [fields]) hlen
  have hresponse : embedded WsResponseProto.read (RECURSION_LIMIT - 1) 3 m.fields = some m.response :=
    embedded_written (fun a ha => WsResponseProto.read_fields (hm.status a ha))
      (fun a ha => WsResponseProto.scalar (hm.status a ha)) (by simp [fields]) hlen
  rw [decode, encode_to_vec, decodeFields_encode RECURSION_LIMIT m.scalar hlen, Option.bind_some, read, htype,
    hrequest, hresponse]
  rfl

end RoundTrip

end MainWs

end XousSignalClient
