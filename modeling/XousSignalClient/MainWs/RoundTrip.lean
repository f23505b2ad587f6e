import XousSignalClient.Encoding.Fields
import XousSignalClient.MainWs.Content

namespace XousSignalClient

open Encoding

theorem scalar_stringField {tag : ℕ} (h : TagFits tag) (v : Option String) :
    ∀ f ∈ Outgoing.stringField tag v, f.Scalar := by
  intro f hf
  obtain ⟨s, -, rfl⟩ := Option.map_eq_some_iff.mp (Option.mem_toList.mp hf)
  exact h

theorem scalar_uint64Field {tag : ℕ} (h : TagFits tag) (v : Option UInt64) :
    ∀ f ∈ Outgoing.uint64Field tag v, f.Scalar := by
  intro f hf
  obtain ⟨n, -, rfl⟩ := Option.map_eq_some_iff.mp (Option.mem_toList.mp hf)
  exact ⟨h, n.toNat_lt⟩

theorem scalar_messageField {tag : ℕ} (h : TagFits tag) (v : Option (List WireField)) :
    ∀ f ∈ Outgoing.messageField tag v, f.Scalar := by
  intro f hf
  obtain ⟨fields, -, rfl⟩ := Option.map_eq_some_iff.mp (Option.mem_toList.mp hf)
  exact h

theorem scalar_append {fs gs : List WireField} (hf : ∀ f ∈ fs, f.Scalar) (hg : ∀ f ∈ gs, f.Scalar) :
    ∀ f ∈ fs ++ gs, f.Scalar :=
  fun f h => (List.mem_append.mp h).elim (hf f) (hg f)

theorem scalar_data_message (m : Outgoing.DataMessageProto) : ∀ f ∈ m.fields, f.Scalar :=
  scalar_append (scalar_stringField (by decide) _) (scalar_uint64Field (by decide) _)

theorem scalar_sent (m : Outgoing.SentMessageProto) : ∀ f ∈ m.fields, f.Scalar :=
  scalar_append (scalar_append (scalar_uint64Field (by decide) _) (scalar_messageField (by decide) _))
    (scalar_stringField (by decide) _)

theorem scalar_sync (m : Outgoing.SyncMessageProto) : ∀ f ∈ m.fields, f.Scalar :=
  scalar_messageField (by decide) _

theorem scalar_content (m : Outgoing.ContentProto) : ∀ f ∈ m.fields, f.Scalar :=
  scalar_append (scalar_messageField (by decide) _) (scalar_messageField (by decide) _)

theorem embedded_absent {α : Type} (read : List WireField → Option α) (depth tag : ℕ)
    {fields : List WireField} (h : ∀ f ∈ fields, f.tag ≠ tag) :
    MainWs.embedded read depth tag fields = some none := by
  have hfilter : fields.filter (fun f => f.tag = tag) = [] := by
    rw [List.filter_eq_nil_iff]
    intro f hf
    simpa using h f hf
  rw [MainWs.embedded, messageField, hfilter]
  rfl

theorem embedded_encode {α : Type} {read : List WireField → Option α} {depth tag : ℕ}
    {fields inner : List WireField} {a : α} (hread : read inner = some a)
    (hfilter : fields.filter (fun f => f.tag = tag) = [.bytes tag (encodeFields inner)])
    (hinner : ∀ f ∈ inner, f.Scalar) (hlen : (encodeFields fields).length < 2 ^ 64) :
    MainWs.embedded read depth tag fields = some (some a) := by
  have hmem : WireField.bytes tag (encodeFields inner) ∈ fields := by
    have : WireField.bytes tag (encodeFields inner) ∈ fields.filter (fun f => f.tag = tag) := by
      rw [hfilter]
      exact List.mem_singleton_self _
    exact (List.mem_filter.mp this).1
  have hdecode := decodeFields_encode depth hinner (Nat.lt_of_le_of_lt (length_bytes_le hmem) hlen)
  rw [MainWs.embedded, messageField, hfilter]
  simp [readMessage, hdecode, hread]

section Written

variable {tag : ℕ} {fields : List WireField}

@[simp] theorem filter_stringField (a tag : ℕ) (v : Option String) :
    (Outgoing.stringField a v).filter (fun f => f.tag = tag) = if a = tag then Outgoing.stringField a v else [] :=
  filter_of_tag (tag_of_mem_toList (fun s => WireField.bytes a (utf8 s)) (fun _ => rfl)) tag

@[simp] theorem filter_uint64Field (a tag : ℕ) (v : Option UInt64) :
    (Outgoing.uint64Field a v).filter (fun f => f.tag = tag) = if a = tag then Outgoing.uint64Field a v else [] :=
  filter_of_tag (tag_of_mem_toList (fun n : UInt64 => WireField.varint a n.toNat) (fun _ => rfl)) tag

@[simp] theorem filter_messageField (a tag : ℕ) (v : Option (List WireField)) :
    (Outgoing.messageField a v).filter (fun f => f.tag = tag) = if a = tag then Outgoing.messageField a v else [] :=
  filter_of_tag (tag_of_mem_toList (fun inner => WireField.bytes a (encodeFields inner)) (fun _ => rfl)) tag

theorem optionalField_string {v : Option String}
    (hfields : fields.filter (fun f => f.tag = tag) = Outgoing.stringField tag v) :
    optionalField readString tag fields = some v :=
  optionalField_written (fun s => .bytes tag (utf8 s)) (fun s _ => from_utf8_utf8 s) hfields

theorem optionalField_uint64 {v : Option UInt64}
    (hfields : fields.filter (fun f => f.tag = tag) = Outgoing.uint64Field tag v) :
    optionalField readUint64 tag fields = some v :=
  optionalField_written (fun n : UInt64 => .varint tag n.toNat) (fun _ _ => congrArg some UInt64.ofNat_toNat) hfields

theorem embedded_written {α : Type} {read : List WireField → Option α} {write : α → List WireField} {v : Option α}
    {depth : ℕ} (hread : ∀ a, v = some a → read (write a) = some a)
    (hscalar : ∀ a, v = some a → ∀ f ∈ write a, f.Scalar)
    (hfields : fields.filter (fun f => f.tag = tag) = Outgoing.messageField tag (v.map write))
    (hlen : (encodeFields fields).length < 2 ^ 64) :
    MainWs.embedded read depth tag fields = some v := by
  cases v with
  | none =>
    apply embedded_absent
    intro f hf htag
    have hmem : f ∈ fields.filter (fun f => f.tag = tag) := List.mem_filter.mpr ⟨hf, by simpa using htag⟩
    rw [hfields] at hmem
    cases hmem
  | some a => exact embedded_encode (hread a rfl) hfields (hscalar a rfl) hlen

end Written

theorem data_message_read (body : String) (t : UInt64) :
    MainWs.DataMessageProto.read (Outgoing.DataMessageProto.fields ⟨some body, some t⟩) =
      some ⟨some body, some t⟩ := by
  simp [MainWs.DataMessageProto.read, Outgoing.DataMessageProto.fields, Outgoing.stringField,
    Outgoing.uint64Field, optionalField, WireField.tag, readString, readUint64, from_utf8_utf8]

/-- A Rust `str` has at most `isize::MAX` bytes, so its two headers still fit the 64-bit prefixes. -/
theorem length_data_message {body : String} (hbody : (utf8 body).length < 2 ^ 63) (t : UInt64) :
    (encodeFields (Outgoing.ContentProto.fields ⟨some ⟨some body, some t⟩, none⟩)).length < 2 ^ 64 := by
  let dm : Outgoing.DataMessageProto := ⟨some body, some t⟩
  have hinner : (encodeFields dm.fields).length ≤ (utf8 body).length + 40 := by
    have henc : encodeFields dm.fields =
        encodeField (.bytes 1 (utf8 body)) ++ encodeField (.varint 7 t.toNat) := by
      simp [encodeFields, dm, Outgoing.DataMessageProto.fields, Outgoing.stringField,
        Outgoing.uint64Field]
    have hbytes := length_encodeBytes_le 1 (utf8 body)
    have hkey := length_encodeVarint_le (8 * 7 + 0)
    have hvalue := length_encodeVarint_le t.toNat
    rw [henc, List.length_append, encodeField, List.length_append, encodeKey]
    omega
  have houter : encodeFields (Outgoing.ContentProto.fields ⟨some dm, none⟩) =
      encodeField (.bytes 1 (encodeFields dm.fields)) := by
    simp [encodeFields, Outgoing.ContentProto.fields, Outgoing.messageField]
  have hcontent := length_encodeBytes_le 1 (encodeFields dm.fields)
  rw [houter]
  omega

theorem data_message_round_trip (body : String) (t : UInt64)
    (hbody : (utf8 body).length < 2 ^ 63) :
    MainWs.ContentProto.decode
        (strip_signal_padding (build_padded_data_message_content body t)) =
      some ⟨some ⟨some body, some t⟩, none⟩ := by
  let dm : Outgoing.DataMessageProto := ⟨some body, some t⟩
  let content : Outgoing.ContentProto := ⟨some dm, none⟩
  have hcontent : (encodeFields content.fields).length < 2 ^ 64 := length_data_message hbody t
  have hread : MainWs.ContentProto.read 100 content.fields =
      some ⟨some ⟨some body, some t⟩, none⟩ := by
    rw [MainWs.ContentProto.read,
      embedded_encode (data_message_read body t) rfl (scalar_data_message _) hcontent,
      embedded_absent _ _ _ (by intro f hf; rw [List.mem_singleton.mp hf]; simp [WireField.tag])]
    rfl
  have hdecode := decodeFields_encode 100 (scalar_content content) hcontent
  rw [build_padded_data_message_content, strip_signal_pad, MainWs.ContentProto.decode]
  exact (congrArg (·.bind (MainWs.ContentProto.read 100)) hdecode).trans hread

-- "À" is C3 80: the body ends in the byte that marks the padding.
theorem padding_like_round_trip :
    (utf8 "À").length < 2 ^ 63 ∧
    MainWs.ContentProto.decode
        (strip_signal_padding (build_padded_data_message_content "À" 18446744073709551615)) =
      some ⟨some ⟨some "À", some 18446744073709551615⟩, none⟩ :=
  ⟨by decide, data_message_round_trip "À" 18446744073709551615 (by decide)⟩

theorem sent_read (depth : ℕ) (recipient body : String) (t : UInt64)
    (hlen : (encodeFields (Outgoing.SentMessageProto.fields
      ⟨some t, some ⟨some body, some t⟩, some recipient⟩)).length < 2 ^ 64) :
    MainWs.SentMessageProto.read depth (Outgoing.SentMessageProto.fields
      ⟨some t, some ⟨some body, some t⟩, some recipient⟩) =
        some ⟨none, some t, some ⟨some body, some t⟩⟩ := by
  have hmessage : MainWs.embedded MainWs.DataMessageProto.read (depth - 1) 3
      (Outgoing.SentMessageProto.fields ⟨some t, some ⟨some body, some t⟩, some recipient⟩) =
        some (some ⟨some body, some t⟩) :=
    embedded_encode (data_message_read body t) rfl (scalar_data_message _) hlen
  rw [MainWs.SentMessageProto.read, hmessage]
  simp [Outgoing.SentMessageProto.fields, Outgoing.stringField, Outgoing.uint64Field,
    Outgoing.messageField, optionalField, WireField.tag, readUint64]

theorem transcript_decode {recipient body : String} {t : UInt64}
    (hlen : (build_padded_sync_transcript_content recipient body t).length < 2 ^ 63) :
    MainWs.ContentProto.decode
        (strip_signal_padding (build_padded_sync_transcript_content recipient body t)) =
      some ⟨none, some ⟨some ⟨none, some t, some ⟨some body, some t⟩⟩⟩⟩ := by
  let sent : Outgoing.SentMessageProto := ⟨some t, some ⟨some body, some t⟩, some recipient⟩
  let sync : Outgoing.SyncMessageProto := ⟨some sent⟩
  let content : Outgoing.ContentProto := ⟨none, some sync⟩
  have hcontent : (encodeFields content.fields).length < 2 ^ 64 := by
    have hpad := (length_signal_pad (encodeFields content.fields)).1
    have : (signal_pad (encodeFields content.fields)).length < 2 ^ 63 := hlen
    omega
  have hsync : (encodeFields sync.fields).length < 2 ^ 64 :=
    (length_bytes_le (List.mem_singleton_self _)).trans_lt hcontent
  have hsent : (encodeFields sent.fields).length < 2 ^ 64 :=
    (length_bytes_le (List.mem_singleton_self _)).trans_lt hsync
  have hread_sync : MainWs.SyncMessageProto.read 99 sync.fields =
      some ⟨some ⟨none, some t, some ⟨some body, some t⟩⟩⟩ := by
    rw [MainWs.SyncMessageProto.read,
      embedded_encode (sent_read 98 recipient body t hsent) rfl (scalar_sent _) hsync]
    rfl
  have hread : MainWs.ContentProto.read 100 content.fields =
      some ⟨none, some ⟨some ⟨none, some t, some ⟨some body, some t⟩⟩⟩⟩ := by
    rw [MainWs.ContentProto.read,
      embedded_absent _ _ _ (by intro f hf; rw [List.mem_singleton.mp hf]; simp [WireField.tag]),
      embedded_encode hread_sync rfl (scalar_sync _) hcontent]
    rfl
  have hdecode := decodeFields_encode 100 (scalar_content content) hcontent
  rw [build_padded_sync_transcript_content, strip_signal_pad, MainWs.ContentProto.decode]
  exact (congrArg (·.bind (MainWs.ContentProto.read 100)) hdecode).trans hread

def TranscriptUnderstood (recipient body : String) (t : UInt64) : Prop :=
  ∃ content, MainWs.ContentProto.decode
      (strip_signal_padding (build_padded_sync_transcript_content recipient body t)) = some content ∧
    content.sync_message = some ⟨some ⟨some recipient, some t, some ⟨some body, some t⟩⟩⟩

theorem not_understood {recipient body : String} {t : UInt64}
    (hlen : (build_padded_sync_transcript_content recipient body t).length < 2 ^ 63) :
    ¬ TranscriptUnderstood recipient body t := by
  rintro ⟨content, hdecode, hsync⟩
  rw [transcript_decode hlen, Option.some.injEq] at hdecode
  subst hdecode
  simp at hsync

theorem transcript_never_understood (recipient body : String) (t : UInt64)
    (hlen : (build_padded_sync_transcript_content recipient body t).length < 2 ^ 63) :
    ¬ TranscriptUnderstood recipient body t :=
  not_understood hlen

theorem length_transcript_example :
    (build_padded_sync_transcript_content "00000000-0000-0000-0000-000000000002" "hi"
      1700000000000).length < 2 ^ 63 := by
  refine (length_signal_pad _).2.trans_lt ?_
  decide

theorem transcript_not_understood_example :
    (build_padded_sync_transcript_content "00000000-0000-0000-0000-000000000002" "hi"
      1700000000000).length < 2 ^ 63 ∧
    ¬ TranscriptUnderstood "00000000-0000-0000-0000-000000000002" "hi" 1700000000000 :=
  ⟨length_transcript_example, transcript_never_understood _ _ _ length_transcript_example⟩

theorem transcript_claim_fails :
    ¬ ∀ (recipient body : String) (t : UInt64), recipient ≠ "" →
      TranscriptUnderstood recipient body t := by
  intro h
  exact not_understood length_transcript_example
    (h "00000000-0000-0000-0000-000000000002" "hi" 1700000000000 (by decide))

end XousSignalClient
