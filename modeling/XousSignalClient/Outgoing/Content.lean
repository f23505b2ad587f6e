import XousSignalClient.Encoding.Wire

namespace XousSignalClient

open Encoding

def padZeros (content : Bytes) : Bytes :=
  if content.length % 160 ≠ 0 then padZeros (content ++ [0x00]) else content
termination_by (160 - content.length % 160) % 160
decreasing_by
  simp only [List.length_append, List.length_singleton]
  omega

def signal_pad (content : Bytes) : Bytes := padZeros (content ++ [0x80])

namespace Outgoing

structure DataMessageProto where
  body : Option String
  timestamp : Option UInt64

structure SentMessageProto where
  timestamp : Option UInt64
  message : Option DataMessageProto
  destination_service_id : Option String

structure SyncMessageProto where
  sent : Option SentMessageProto

structure ContentProto where
  data_message : Option DataMessageProto
  sync_message : Option SyncMessageProto

def stringField (tag : ℕ) (v : Option String) : List WireField :=
  (v.map (fun s => WireField.bytes tag (utf8 s))).toList

def uint64Field (tag : ℕ) (v : Option UInt64) : List WireField :=
  (v.map (fun n => WireField.varint tag n.toNat)).toList

def messageField (tag : ℕ) (v : Option (List WireField)) : List WireField :=
  (v.map (fun fields => WireField.bytes tag (encodeFields fields))).toList

def DataMessageProto.fields (m : DataMessageProto) : List WireField :=
  stringField 1 m.body ++ uint64Field 7 m.timestamp

def SentMessageProto.fields (m : SentMessageProto) : List WireField :=
  uint64Field 2 m.timestamp ++ messageField 3 (m.message.map DataMessageProto.fields) ++
    stringField 7 m.destination_service_id

def SyncMessageProto.fields (m : SyncMessageProto) : List WireField :=
  messageField 1 (m.sent.map SentMessageProto.fields)

def ContentProto.fields (m : ContentProto) : List WireField :=
  messageField 1 (m.data_message.map DataMessageProto.fields) ++
    messageField 2 (m.sync_message.map SyncMessageProto.fields)

def ContentProto.encode_to_vec (m : ContentProto) : Bytes := encodeFields m.fields

end Outgoing

open Outgoing

def build_padded_data_message_content (plaintext_body : String) (timestamp_ms : UInt64) : Bytes :=
  let dm : DataMessageProto := ⟨some plaintext_body, some timestamp_ms⟩
  let content : ContentProto := ⟨some dm, none⟩
  signal_pad content.encode_to_vec

def build_padded_sync_transcript_content (recipient_uuid plaintext_body : String)
    (timestamp_ms : UInt64) : Bytes :=
  let inner_dm : DataMessageProto := ⟨some plaintext_body, some timestamp_ms⟩
  let sent : SentMessageProto := ⟨some timestamp_ms, some inner_dm, some recipient_uuid⟩
  let content : ContentProto := ⟨none, some ⟨some sent⟩⟩
  signal_pad content.encode_to_vec

theorem padZeros_eq (content : Bytes) :
    ∃ n < 160, padZeros content = content ++ List.replicate n 0x00 := by
  have hbound : ∃ n ≤ (160 - content.length % 160) % 160,
      padZeros content = content ++ List.replicate n 0x00 := by
    induction content using padZeros.induct with
    | case1 content h ih =>
      obtain ⟨n, hle, hn⟩ := ih
      refine ⟨n + 1, ?_, ?_⟩
      · rw [List.length_append, List.length_singleton] at hle
        omega
      · rw [padZeros, if_pos h, hn, List.append_assoc, List.replicate_succ, List.singleton_append]
    | case2 content h =>
      refine ⟨0, Nat.zero_le _, ?_⟩
      rw [padZeros, if_neg h, List.replicate_zero, List.append_nil]
  obtain ⟨n, hle, hn⟩ := hbound
  exact ⟨n, by omega, hn⟩

theorem signal_pad_eq (content : Bytes) :
    ∃ n < 160, signal_pad content = content ++ 0x80 :: List.replicate n 0x00 := by
  obtain ⟨n, hlt, hn⟩ := padZeros_eq (content ++ [0x80])
  exact ⟨n, hlt, by rw [signal_pad, hn, List.append_assoc, List.singleton_append]⟩

theorem length_signal_pad (content : Bytes) :
    content.length < (signal_pad content).length ∧
      (signal_pad content).length ≤ content.length + 160 := by
  obtain ⟨n, hlt, hn⟩ := signal_pad_eq content
  rw [hn, List.length_append, List.length_cons, List.length_replicate]
  omega

end XousSignalClient
