import Mathlib.Data.List.DropRight
import XousSignalClient.Encoding.Marker
import XousSignalClient.Outgoing.Content

namespace XousSignalClient

open Encoding

def strip_signal_padding (plaintext : Bytes) : Bytes :=
  let plaintext := plaintext.rdropWhile (· = 0x00)
  if plaintext.getLast? = some 0x80 then plaintext.dropLast else plaintext

namespace MainWs

structure DataMessageProto where
  body : Option String
  timestamp : Option UInt64
  deriving DecidableEq

structure SentMessageProto where
  destination_service_id : Option String
  timestamp : Option UInt64
  message : Option DataMessageProto
  deriving DecidableEq

structure SyncMessageProto where
  sent : Option SentMessageProto
  deriving DecidableEq

structure ContentProto where
  data_message : Option DataMessageProto
  sync_message : Option SyncMessageProto
  deriving DecidableEq

def RECURSION_LIMIT : ℕ := 100

def DataMessageProto.read (fields : List WireField) : Option DataMessageProto := do
  let body ← optionalField readString 1 fields
  let timestamp ← optionalField readUint64 7 fields
  pure ⟨body, timestamp⟩

def embedded {α : Type} (read : List WireField → Option α) (depth tag : ℕ)
    (fields : List WireField) : Option (Option α) := do
  match ← messageField depth tag fields with
  | none => pure none
  | some inner => (read inner).map some

def SentMessageProto.read (depth : ℕ) (fields : List WireField) : Option SentMessageProto := do
  let destination_service_id ← optionalField readString 1 fields
  let timestamp ← optionalField readUint64 2 fields
  let message ← embedded DataMessageProto.read (depth - 1) 3 fields
  pure ⟨destination_service_id, timestamp, message⟩

def SyncMessageProto.read (depth : ℕ) (fields : List WireField) : Option SyncMessageProto := do
  let sent ← embedded (SentMessageProto.read (depth - 1)) (depth - 1) 1 fields
  pure ⟨sent⟩

def ContentProto.read (depth : ℕ) (fields : List WireField) : Option ContentProto := do
  let data_message ← embedded DataMessageProto.read (depth - 1) 1 fields
  let sync_message ← embedded (SyncMessageProto.read (depth - 1)) (depth - 1) 2 fields
  pure ⟨data_message, sync_message⟩

def ContentProto.decode (bs : Bytes) : Option ContentProto :=
  (decodeFields RECURSION_LIMIT bs).bind (ContentProto.read RECURSION_LIMIT)

end MainWs

theorem strip_signal_pad (m : Bytes) : strip_signal_padding (signal_pad m) = m := by
  obtain ⟨n, -, hn⟩ := signal_pad_eq m
  rw [hn]
  exact unmark_marked (by simp) m n

end XousSignalClient
