import XousSignalClient.MainWs.Transcript

namespace XousSignalClient

open Encoding Interaction Fallible

theorem sliceTo_ok_iff {s : String} {n : ℕ} : (∃ t, sliceTo s n = .ok t) ↔ IsCharBoundary s n := by
  rw [← slicePrefix_isSome_iff, sliceTo]
  cases slicePrefix s.toList n <;> simp

namespace MainWs

variable {σ : Type} {h : Handler appSignature σ} {s : σ}

def Completes {α : Type} (h : Handler appSignature σ) (x : AppM α) (s : σ) : Prop :=
  Ensures h x s (fun v _ _ => ∃ a, v = .ok a)

theorem completes_lift_bind {α β : Type} {p : Program appSignature β} {f : β → AppM α}
    (hf : ∀ b t, Completes h (f b) t) : Completes h (ExceptT.lift p >>= f) s :=
  ensures_lift_bind (hf _ _)

theorem completes_lift {α : Type} (p : Program appSignature α) : Completes h (ExceptT.lift p) s := by
  rw [Completes, Ensures, exec_lift]
  exact ⟨_, rfl⟩

theorem completes_bind_iff {α β : Type} {x : AppM β} {f : β → AppM α} (hf : ∀ b t, Completes h (f b) t) :
    Completes h (x >>= f) s ↔ Completes h x s := by
  constructor
  · intro hbind
    cases hv : (x.exec h s).value with
    | ok b => exact ⟨b, hv⟩
    | error e =>
      have hexec : x.exec h s = ⟨.error e, (x.exec h s).state, (x.exec h s).events⟩ := by rw [← hv]
      rw [Completes, Ensures, exec_bind_error hexec] at hbind
      obtain ⟨b, hb⟩ := hbind
      cases hb
  · intro hx
    apply ensures_bind hx
    · rintro e t es ⟨b, hb⟩
      cases hb
    · intro b t es _
      exact hf b t

theorem completes_recorded {α : Type} {x : Fallible pddbSignature Panic (Except IoError Unit)}
    {p : PddbProgram (Except IoError Unit)} (hx : x = ExceptT.lift p) {f : Except IoError Unit → AppM α}
    (hf : ∀ b t, Completes h (f b) t) : Completes h (onStoreM x >>= f) s := by
  rw [hx, onStoreM_lift]
  exact completes_lift_bind hf

theorem deliver_data_message_completes (dm : DataMessageProto) (remote_addr : ProtocolAddress) (server_ts : UInt64) :
    Completes h (deliver_data_message dm remote_addr server_ts) s := by
  unfold deliver_data_message
  by_cases hbody : (dm.body.getD "").isEmpty
  · simp only [hbody, if_true]
    exact ⟨false, rfl⟩
  · simp only [hbody]
    obtain ⟨snippet, hsnippet⟩ := Peers.truncate_snippet_ok (dm.body.getD "")
    apply completes_lift_bind
    intro focused t
    apply completes_recorded (Peers.record_inbound_eq hsnippet _ _ _)
    intro _ u
    apply completes_lift_bind
    intro _ v
    exact ⟨true, rfl⟩

theorem transcriptAuthor_ok_iff {dest : String} :
    (∃ author, transcriptAuthor dest = .ok author) ↔ IsCharBoundary dest (min (utf8 dest).length 8) := by
  rw [← sliceTo_ok_iff, transcriptAuthor]
  cases sliceTo dest (min (utf8 dest).length 8) <;> simp [Except.map]

theorem deliverSent_completes_iff (dest : String) (ts : UInt64) (body : String) :
    Completes h (deliverSent dest ts body) s ↔ IsCharBoundary dest (min (utf8 dest).length 8) := by
  rw [← transcriptAuthor_ok_iff]
  unfold deliverSent
  cases hauthor : transcriptAuthor dest with
  | error e =>
    rw [Completes, Ensures, exec_ofExcept_error_bind]
    simp
  | ok author =>
    refine iff_of_true ?_ ⟨author, rfl⟩
    rw [Completes, Ensures, exec_ofExcept_ok_bind]
    obtain ⟨snippet, hsnippet⟩ := Peers.truncate_snippet_ok body
    apply completes_lift_bind
    intro focused t
    apply completes_recorded (Peers.record_outbound_eq hsnippet _ _)
    intro _ u
    apply completes_lift_bind
    intro _ v
    exact ⟨true, rfl⟩

def labelledDest (sync : SyncMessageProto) : Option String := do
  let sent ← sync.sent
  let dm ← sent.message
  let dest := sent.destination_service_id.getD ""
  if (dm.body.getD "").isEmpty ∨ dest.isEmpty then none else some dest

theorem deliver_sync_message_completes_iff (sync : SyncMessageProto) (server_ts : UInt64) :
    Completes h (deliver_sync_message sync server_ts) s ↔
      ∀ dest, labelledDest sync = some dest → IsCharBoundary dest (min (utf8 dest).length 8) := by
  have hdone : ∀ {α : Type} (a : α), Completes h (pure a) s := fun a => ⟨a, rfl⟩
  obtain ⟨sent⟩ := sync
  cases sent with
  | none => exact iff_of_true (hdone false) nofun
  | some sent =>
    obtain ⟨destination, timestamp, message⟩ := sent
    cases message with
    | none => exact iff_of_true (hdone false) nofun
    | some dm =>
      by_cases hskip : (dm.body.getD "").isEmpty ∨ (destination.getD "").isEmpty
      · have hlabel : labelledDest ⟨some ⟨destination, timestamp, some dm⟩⟩ = none :=
          if_pos hskip
        rw [hlabel]
        refine iff_of_true ?_ nofun
        unfold deliver_sync_message
        rcases hskip with hbody | hdest
        · simp only [hbody]
          exact hdone false
        · simp only [hdest]
          split <;> exact hdone false
      · obtain ⟨hbody, hdest⟩ := not_or.mp hskip
        have hlabel : labelledDest ⟨some ⟨destination, timestamp, some dm⟩⟩ = some (destination.getD "") :=
          if_neg hskip
        rw [hlabel]
        unfold deliver_sync_message
        simp only [hbody, hdest]
        rw [if_neg (by simp), if_neg (by simp), deliverSent_completes_iff]
        simp

/-- The decrypted content is delivered to the end exactly when the eight-byte cut of a transcript's
destination falls between two characters. -/
theorem deliver_content_completes_iff (h : Handler appSignature σ) (s : σ) (plaintext : Bytes)
    (remote_addr : ProtocolAddress) (server_ts : UInt64) :
    (∃ u, ((deliver_content plaintext remote_addr server_ts).exec h s).value = .ok u) ↔
      ∀ dest, (syncOf plaintext).bind labelledDest = some dest →
        IsCharBoundary dest (min (utf8 dest).length 8) := by
  change Completes h (deliver_content plaintext remote_addr server_ts) s ↔ _
  have hdone : Completes h (pure ()) s := ⟨(), rfl⟩
  unfold deliver_content deliverContent syncOf
  cases ContentProto.decode (strip_signal_padding plaintext) with
  | none => exact iff_of_true hdone nofun
  | some content =>
    obtain ⟨data_message, sync_message⟩ := content
    cases data_message with
    | some dm =>
      refine iff_of_true ?_ nofun
      refine (completes_bind_iff ?_).mpr (deliver_data_message_completes dm remote_addr server_ts)
      intro was_delivered t
      cases was_delivered with
      | true =>
        apply completes_lift_bind
        intro _ u
        exact completes_lift _
      | false => exact ⟨(), rfl⟩
    | none =>
      cases sync_message with
      | none => exact iff_of_true hdone nofun
      | some sync =>
        rw [Option.bind_some, ← deliver_sync_message_completes_iff (h := h) (s := s) sync server_ts]
        refine completes_bind_iff ?_
        intro delivered t
        cases delivered with
        | true => exact completes_lift _
        | false => exact ⟨(), rfl⟩

def splitLabelContent : Bytes :=
  signal_pad (encodeFields [.bytes 2 (encodeFields [.bytes 1 (encodeFields [.bytes 1 (utf8 "0a1b2c3é"),
    .varint 2 1700000000000, .bytes 3 (encodeFields [.bytes 1 (utf8 "hi"), .varint 7 1700000000000])])])])

theorem label_cut_panics :
    ((deliver_content splitLabelContent malloryAddress 1700000000000).exec App.handler started).value =
        .error (.notCharBoundary 8) ∧
      ¬ ∀ (plaintext : Bytes) (remote_addr : ProtocolAddress) (server_ts : UInt64) (s : App),
        ∃ u, ((deliver_content plaintext remote_addr server_ts).exec App.handler s).value = .ok u := by
  have hrun : ((deliver_content splitLabelContent malloryAddress 1700000000000).exec App.handler started).value =
      .error (.notCharBoundary 8) := by decide +kernel
  refine ⟨hrun, ?_⟩
  intro hall
  obtain ⟨u, hu⟩ := hall splitLabelContent malloryAddress 1700000000000 started
  rw [hrun] at hu
  cases hu

end MainWs

end XousSignalClient
