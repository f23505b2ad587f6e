import XousSignalClient.Send.Outcome
import XousSignalClient.Send.World

namespace XousSignalClient

open Encoding Interaction Fallible

def SubmitMessagesRequest.destinations (body : SubmitMessagesRequest) : List ℕ :=
  body.messages.map OutgoingMessageEntity.destination_device_id

section Traces

variable {C : Crates} {σ : Type} {sub : Submission}

def SendCall.IsPut : SendCall C → Prop
  | .put_json _ _ _ => True
  | _ => False

def SendCall.EncryptionFailed : (c : SendCall C) → c.Reply → Prop
  | .load_session _, loaded =>
    ∀ record reg, loaded = .ok (some record) → C.remote_registration_id record ≠ .ok reg
  | .message_encrypt _ _ _, encrypted =>
    ∀ ct payload, encrypted = .ok ct → ciphertext_payload ct ≠ .ok payload
  | _, _ => False

def PutEvent (e : SendEvent C σ) : Prop := SendCall.IsPut e.call

def EncryptionFails (e : SendEvent C σ) : Prop := SendCall.EncryptionFailed e.call e.reply

theorem not_put_of_encryption {c : SendCall C} (hc : c.IsEncryption) : ¬c.IsPut := by
  cases c <;> first | exact hc.elim | exact id

theorem AfterPut.not_put {k : ℕ} {reply : Except String HttpResponse} {tail : List (SendEvent C σ)}
    {r : Except SendError (Option Bool)} (hafter : AfterPut k reply tail r) :
    ∀ e ∈ tail, ¬PutEvent e ∧ ¬EncryptionFails e := by
  cases hafter with
  | accepted _ h => exact fun _ he => absurd he List.not_mem_nil
  | refused _ e h => exact fun _ he => absurd he List.not_mem_nil
  | transient _ s h =>
    intro e he
    rw [List.mem_singleton.mp he]
    exact ⟨id, id⟩
  | mismatch resp s parsed repair _ h hrepair hr =>
    intro e he
    rcases List.mem_cons.mp he with rfl | he
    · exact ⟨id, id⟩
    · obtain ⟨before, call, reply⟩ := e
      have hc := hrepair _ he
      change SendCall.IsRepair call at hc
      cases call <;> first | exact hc.elim | exact ⟨id, id⟩

theorem FanRun.destinations {ds : List ℕ} {es : List (SendEvent C σ)} {entities : List OutgoingMessageEntity}
    {r : Except SendError (List OutgoingMessageEntity)} (hrun : FanRun sub ds es r)
    (hr : r = .ok entities) : entities.map OutgoingMessageEntity.destination_device_id = ds := by
  induction hrun generalizing entities with
  | nil => rw [← Except.ok.inj hr]; rfl
  | badId d ds text => cases hr
  | failed dev ds es e henc => cases hr
  | cons dev ds es es' entity r henc hrest ih =>
    cases r with
    | error e => cases hr
    | ok rest =>
      rw [← Except.ok.inj hr, List.map_cons, ih rfl]
      cases henc
      rfl

theorem EncryptRun.failure_last {a : ProtocolAddress} {es pre post : List (SendEvent C σ)}
    {e : SendEvent C σ} {r : Except SendError OutgoingMessageEntity} (hrun : EncryptRun sub a es r)
    (hsplit : es = pre ++ e :: post) (he : EncryptionFails e) : post = [] ∧ ∃ err, r = .error err := by
  cases hrun with
  | unloaded s loaded err hfail =>
    cases pre with
    | nil => exact ⟨(List.cons.inj hsplit).2.symm, _, rfl⟩
    | cons x pre => exact absurd (List.cons.inj hsplit).2 (by simp)
  | unencrypted s s' loaded encrypted err hload hfail =>
    obtain ⟨record, reg, hl, hreg⟩ := hload
    obtain ⟨pre, rfl, hrest⟩ := split_cons (fun hf => hf record reg hl hreg) he hsplit
    cases pre with
    | nil => exact ⟨(List.cons.inj hrest).2.symm, _, rfl⟩
    | cons x pre => exact absurd (List.cons.inj hrest).2 (by simp)
  | done s s' record reg ct bytes ty hreg hpayload =>
    obtain ⟨pre, rfl, hrest⟩ := split_cons (fun hf => hf record reg rfl hreg) he hsplit
    obtain ⟨pre, rfl, hnil⟩ := split_cons (fun hf => hf ct _ rfl hpayload) he hrest
    exact absurd hnil (by simp)

theorem FanRun.failure_last {ds : List ℕ} {es pre post : List (SendEvent C σ)} {e : SendEvent C σ}
    {r : Except SendError (List OutgoingMessageEntity)} (hrun : FanRun sub ds es r)
    (hsplit : es = pre ++ e :: post) (he : EncryptionFails e) : post = [] ∧ ∃ err, r = .error err := by
  induction hrun generalizing pre with
  | nil => simp at hsplit
  | badId d ds text => simp at hsplit
  | failed dev ds es err henc => exact ⟨(henc.failure_last hsplit he).1, err, rfl⟩
  | cons dev ds es es' entity r henc hrest ih =>
    rcases append_eq_split hsplit with ⟨mid, hes, -⟩ | ⟨mid, -, hes'⟩
    · obtain ⟨-, err, herr⟩ := henc.failure_last hes he
      cases herr
    · obtain ⟨hpost, err, rfl⟩ := ih hes'
      exact ⟨hpost, err, rfl⟩

theorem AttemptRun.failure_last {k : ℕ} {es pre post : List (SendEvent C σ)} {e : SendEvent C σ}
    {r : Except SendError (Option Bool)} (hrun : AttemptRun sub k es r)
    (hsplit : es = pre ++ e :: post) (he : EncryptionFails e) : post = [] ∧ ∃ err, r = .error err := by
  cases hrun with
  | skipped s ids hids =>
    obtain ⟨pre, rfl, hnil⟩ := split_cons id he hsplit
    exact absurd hnil (by simp)
  | unaddressed s ids text =>
    obtain ⟨pre, rfl, hnil⟩ := split_cons id he hsplit
    exact absurd hnil (by simp)
  | unsent s ids devices fan r err hids hfan herr =>
    obtain ⟨pre, rfl, hfans⟩ := split_cons id he hsplit
    exact ⟨(hfan.failure_last hfans he).1, err, rfl⟩
  | sent s s' ids devices fan entities url auth reply tail r hids hfan htail =>
    obtain ⟨pre, rfl, hrest⟩ := split_cons id he hsplit
    rcases append_eq_split hrest with ⟨mid, hfans, -⟩ | ⟨mid, -, htails⟩
    · obtain ⟨-, err, herr⟩ := hfan.failure_last hfans he
      cases herr
    · obtain ⟨mid, -, hafter⟩ := split_cons id he htails
      exact (split_none (fun a ha => (htail.not_put a ha).2) he hafter).elim

theorem LoopRun.failure_last {start left : ℕ} {es pre post : List (SendEvent C σ)} {e : SendEvent C σ}
    {r : Except SendError Bool} (hrun : LoopRun sub start left es r)
    (hsplit : es = pre ++ e :: post) (he : EncryptionFails e) : post = [] := by
  induction hrun generalizing pre with
  | expired left s t ht =>
    obtain ⟨pre, rfl, hnil⟩ := split_cons id he hsplit
    exact absurd hnil (by simp)
  | exhausted s t =>
    obtain ⟨pre, rfl, hnil⟩ := split_cons id he hsplit
    exact absurd hnil (by simp)
  | returned left s t es delivered h =>
    obtain ⟨pre, rfl, hes⟩ := split_cons id he hsplit
    exact (h.failure_last hes he).1
  | failed left s t es err h =>
    obtain ⟨pre, rfl, hes⟩ := split_cons id he hsplit
    exact (h.failure_last hes he).1
  | again left s t es es' r h hrest ih =>
    obtain ⟨pre, rfl, hes⟩ := split_cons id he hsplit
    rcases append_eq_split hes with ⟨mid, hes, -⟩ | ⟨mid, -, hes'⟩
    · obtain ⟨-, err, herr⟩ := h.failure_last hes he
      cases herr
    · exact ih hes'

structure PutOrigin (sub : Submission) (pre : List (SendEvent C σ)) (body : SubmitMessagesRequest) (s : σ)
    (ids devices : List ℕ) (fan : List (SendEvent C σ)) : Prop where
  enumerated : ∃ before, pre = before ++ sendEvent s (.device_ids_for sub.recipient_uuid) ids :: fan
  addressed : addressedDevices sub.fallback_device_id sub.excluded_device_id ids = some devices
  encrypted : FanRun sub devices fan (.ok body.messages)

theorem PutOrigin.prepend {pre fan : List (SendEvent C σ)} {body : SubmitMessagesRequest} {s : σ}
    {ids devices : List ℕ} (horigin : PutOrigin sub pre body s ids devices fan)
    (front : List (SendEvent C σ)) : PutOrigin sub (front ++ pre) body s ids devices fan := by
  obtain ⟨⟨before, rfl⟩, haddr, henc⟩ := horigin
  exact ⟨⟨front ++ before, by rw [List.append_assoc]⟩, haddr, henc⟩

theorem AttemptRun.put_origin {k : ℕ} {es pre post : List (SendEvent C σ)} {e : SendEvent C σ}
    {url auth : String} {body : SubmitMessagesRequest} {r : Except SendError (Option Bool)}
    (hrun : AttemptRun sub k es r) (hsplit : es = pre ++ e :: post)
    (he : e.call = SendCall.put_json url auth body) :
    ∃ s ids devices fan, PutOrigin sub pre body s ids devices fan := by
  have hput : PutEvent e := by rw [PutEvent, he]; trivial
  cases hrun with
  | skipped s ids hids =>
    obtain ⟨pre, rfl, hnil⟩ := split_cons id hput hsplit
    exact absurd hnil (by simp)
  | unaddressed s ids text =>
    obtain ⟨pre, rfl, hnil⟩ := split_cons id hput hsplit
    exact absurd hnil (by simp)
  | unsent s ids devices fan r err hids hfan herr =>
    obtain ⟨pre, rfl, hfans⟩ := split_cons id hput hsplit
    exact (split_none (fun a ha => not_put_of_encryption (hfan.encryption a ha)) hput hfans).elim
  | sent s s' ids devices fan entities url' auth' reply tail r hids hfan htail =>
    obtain ⟨pre, rfl, hrest⟩ := split_cons id hput hsplit
    obtain ⟨rfl, rfl, -⟩ := split_unique (fun a ha => not_put_of_encryption (hfan.encryption a ha))
      (fun a ha => (htail.not_put a ha).1) hput hrest
    obtain ⟨rfl, rfl, rfl⟩ := SendCall.put_json.inj he
    exact ⟨s, ids, devices, pre, ⟨[], rfl⟩, hids, hfan⟩

theorem LoopRun.put_origin {start left : ℕ} {es pre post : List (SendEvent C σ)} {e : SendEvent C σ}
    {url auth : String} {body : SubmitMessagesRequest} {r : Except SendError Bool}
    (hrun : LoopRun sub start left es r) (hsplit : es = pre ++ e :: post)
    (he : e.call = SendCall.put_json url auth body) :
    ∃ s ids devices fan, PutOrigin sub pre body s ids devices fan := by
  have hput : PutEvent e := by rw [PutEvent, he]; trivial
  induction hrun generalizing pre with
  | expired left s t ht =>
    obtain ⟨pre, rfl, hnil⟩ := split_cons id hput hsplit
    exact absurd hnil (by simp)
  | exhausted s t =>
    obtain ⟨pre, rfl, hnil⟩ := split_cons id hput hsplit
    exact absurd hnil (by simp)
  | returned left s t es delivered h =>
    obtain ⟨pre, rfl, hes⟩ := split_cons id hput hsplit
    obtain ⟨s', ids, devices, fan, horigin⟩ := h.put_origin hes he
    exact ⟨s', ids, devices, fan, horigin.prepend [sendEvent s .now t]⟩
  | failed left s t es err h =>
    obtain ⟨pre, rfl, hes⟩ := split_cons id hput hsplit
    obtain ⟨s', ids, devices, fan, horigin⟩ := h.put_origin hes he
    exact ⟨s', ids, devices, fan, horigin.prepend [sendEvent s .now t]⟩
  | again left s t es es' r h hrest ih =>
    obtain ⟨pre, rfl, hes⟩ := split_cons id hput hsplit
    rcases append_eq_split hes with ⟨mid, hes, -⟩ | ⟨mid, rfl, hes'⟩
    · obtain ⟨s', ids, devices, fan, horigin⟩ := h.put_origin hes he
      exact ⟨s', ids, devices, fan, horigin.prepend [sendEvent s .now t]⟩
    · obtain ⟨s', ids, devices, fan, horigin⟩ := ih hes'
      exact ⟨s', ids, devices, fan, horigin.prepend (sendEvent s .now t :: es)⟩

theorem addressed_ne_nil {fallback : ℕ} {excluded : Option ℕ} {ids devices : List ℕ}
    (h : addressedDevices fallback excluded ids = some devices) : devices ≠ [] := by
  unfold addressedDevices at h
  cases excluded with
  | some excl =>
    dsimp only at h
    split_ifs at h with hempty
    obtain rfl := Option.some.inj h
    simpa using hempty
  | none =>
    dsimp only at h
    split_ifs at h with hempty
    · obtain rfl := Option.some.inj h
      simp
    · obtain rfl := Option.some.inj h
      simpa using hempty

theorem addressed_eq {fallback : ℕ} {excluded : Option ℕ} {ids devices : List ℕ}
    (h : addressedDevices fallback excluded ids = some devices) :
    (devices = ids.filter (fun d => some d ≠ excluded)) ∨
      (ids.filter (fun d => some d ≠ excluded) = [] ∧ excluded = none ∧ devices = [fallback]) := by
  unfold addressedDevices at h
  cases excluded with
  | some excl =>
    dsimp only at h
    split_ifs at h with hempty
    obtain rfl := Option.some.inj h
    left
    apply List.filter_congr
    simp
  | none =>
    dsimp only at h
    split_ifs at h with hempty
    · obtain rfl := Option.some.inj h
      right
      rw [List.isEmpty_iff] at hempty
      simp [hempty]
    · obtain rfl := Option.some.inj h
      left
      simp

theorem addressed_eq_none {fallback : ℕ} {excluded : Option ℕ} {ids : List ℕ} :
    addressedDevices fallback excluded ids = none ↔
      excluded.isSome ∧ ids.filter (fun d => some d ≠ excluded) = [] := by
  unfold addressedDevices
  cases excluded with
  | some excl => simp
  | none =>
    dsimp only
    split_ifs <;> simp

theorem not_put_of_repair {c : SendCall C} (hc : c.IsRepair) : ¬c.IsPut := by
  cases c <;> first | exact hc.elim | exact id

def ExcludingTrace (own : ℕ) (es : List (SendEvent C σ)) : Prop :=
  ∃ front loop, es = front ++ loop ∧ (∀ e ∈ front, ¬PutEvent e) ∧
    (loop = [] ∨ ∃ sub start r, sub.excluded_device_id = some own ∧ LoopRun sub start MAX_ATTEMPTS loop r)

theorem ExcludingTrace.prepend {own : ℕ} {xs es : List (SendEvent C σ)} (hxs : ∀ e ∈ xs, ¬PutEvent e)
    (hes : ExcludingTrace own es) : ExcludingTrace own (xs ++ es) := by
  obtain ⟨front, loop, rfl, hfront, hloop⟩ := hes
  refine ⟨xs ++ front, loop, (List.append_assoc _ _ _).symm, ?_, hloop⟩
  intro e he
  exact (List.mem_append.mp he).elim (hxs e) (hfront e)

theorem excludingTrace_nil (own : ℕ) : ExcludingTrace own ([] : List (SendEvent C σ)) :=
  ⟨[], [], rfl, fun _ he => absurd he List.not_mem_nil, .inl rfl⟩

theorem submit_padded_excluding {h : Handler (sendSignature C) σ} {sub : Submission} {own : ℕ}
    (hown : sub.excluded_device_id = some own) (s : σ) :
    Ensures h (submit_padded_with_retry_generic sub) s (fun _ _ es => ExcludingTrace own es) := by
  apply (submit_padded_run sub s).mono
  rintro v t es ⟨start, loop, rfl, hrun⟩
  refine ⟨[sendEvent s .now start], loop, rfl, ?_, .inr ⟨sub, start, v, hown, hrun⟩⟩
  intro e he
  rw [List.mem_singleton.mp he]
  exact id

theorem submit_sync_transcript_run {h : Handler (sendSignature C) σ} (plaintext recipient_uuid : String)
    (timestamp_ms : UInt64) (own_uuid : String) (own_device_id : ℕ) (local_addr : ProtocolAddress)
    (account : AccountInfo) (s : σ) :
    Ensures h (submit_sync_transcript_generic plaintext recipient_uuid timestamp_ms own_uuid own_device_id
      local_addr account) s (fun _ _ es => ExcludingTrace own_device_id es) := by
  apply ensures_ask_bind
  generalize (h.answer (SendCall.device_ids_for own_uuid) s).1 = known
  generalize (h.answer (SendCall.device_ids_for own_uuid) s).2 = s₁
  have henum : ∀ e ∈ [sendEvent s (.device_ids_for own_uuid) known], ¬PutEvent (C := C) e := by
    intro e he
    rw [List.mem_singleton.mp he]
    exact id
  have hloop : ∀ (sub : Submission) (t : σ), sub.excluded_device_id = some own_device_id →
      Ensures h (submit_padded_with_retry_generic sub >>= fun _ => pure () : SendM C Unit) t
        (fun _ _ es => ExcludingTrace own_device_id es) := by
    intro sub t hown
    apply ensures_bind (submit_padded_excluding hown t)
    · exact fun _ _ _ hes => hes
    · intro b u es hes
      refine ensures_pure ?_
      rwa [List.append_nil]
  split_ifs
  · apply ensures_attempt_bind (repairs_discover own_uuid (some own_device_id) account s₁)
    rintro established t es ⟨hes, -⟩
    have hfront : ∀ e ∈ es, ¬PutEvent e := fun e he => not_put_of_repair (hes e he)
    match established with
    | .ok [] => exact ((excludingTrace_nil _).prepend hfront).prepend henum
    | .error e => exact ((excludingTrace_nil _).prepend hfront).prepend henum
    | .ok (d :: ds) =>
      apply (hloop _ t rfl).mono
      intro v u es' hes'
      exact (hes'.prepend hfront).prepend henum
  · apply (hloop _ s₁ rfl).mono
    intro v u es' hes'
    exact hes'.prepend henum

theorem ExcludingTrace.destinations {own : ℕ} {es : List (SendEvent C σ)} (hes : ExcludingTrace own es)
    {e : SendEvent C σ} (he : e ∈ es) {url auth : String} {body : SubmitMessagesRequest}
    (hput : e.call = SendCall.put_json url auth body) : own ∉ body.destinations := by
  obtain ⟨front, loop, rfl, hfront, hloop⟩ := hes
  have hp : PutEvent e := by rw [PutEvent, hput]; trivial
  have hmem : e ∈ loop := (List.mem_append.mp he).resolve_left (fun hf => hfront e hf hp)
  rcases hloop with rfl | ⟨sub, start, r, hown, hrun⟩
  · exact absurd hmem List.not_mem_nil
  · obtain ⟨pre, post, hsplit⟩ := List.append_of_mem hmem
    obtain ⟨s, ids, devices, fan, horigin⟩ := hrun.put_origin hsplit hput
    rw [SubmitMessagesRequest.destinations, horigin.encrypted.destinations rfl]
    rcases addressed_eq horigin.addressed with hdev | ⟨-, hnone, -⟩
    · rw [hdev, List.mem_filter, hown]
      simp
    · rw [hown] at hnone
      cases hnone

end Traces

section Stores

variable {C : Crates} {ω : Type}

inductive FreshEntities (sub : Submission) :
    List (SendEvent C (World ω)) → List OutgoingMessageEntity → Prop where
  | nil : FreshEntities sub [] []
  | cons (w w' : World ω) (dev : DeviceId) (stored : Bytes) (record : C.SessionRecord) (reg : ℕ)
      (ct : CiphertextMessage) (bytes : Bytes) (ty : ℤ) (es : List (SendEvent C (World ω)))
      (entities : List OutgoingMessageEntity)
      (hstored : w.pddb.session ⟨sub.recipient_uuid, dev⟩ = some stored)
      (hrecord : C.deserialize stored = .ok record) (hreg : C.remote_registration_id record = .ok reg)
      (hpayload : ciphertext_payload ct = .ok (bytes, ty)) (hrest : FreshEntities sub es entities) :
      FreshEntities sub
        (sendEvent w (.load_session ⟨sub.recipient_uuid, dev⟩) (.ok (some record)) ::
          sendEvent w' (.message_encrypt sub.padded_content ⟨sub.recipient_uuid, dev⟩ sub.local_addr)
            (.ok ct) :: es)
        (⟨ty.toNat, dev.val, reg, C.b64_encode bytes⟩ :: entities)

theorem loaded_stored {env : SendEnv C ω} {a : ProtocolAddress} {w : World ω} {record : C.SessionRecord}
    (h : (env.answer (.load_session a) w).1 = .ok (some record)) :
    ∃ stored, w.pddb.session a = some stored ∧ C.deserialize stored = .ok record := by
  rw [answer_load_session] at h
  dsimp only at h
  cases hs : w.pddb.session a with
  | none =>
    rw [hs] at h
    cases h
  | some stored =>
    rw [hs] at h
    dsimp only at h
    refine ⟨stored, rfl, ?_⟩
    cases hd : C.deserialize stored with
    | error e => rw [hd] at h; cases h
    | ok record' => rw [hd] at h; cases h; rfl

theorem FanRun.fresh {env : SendEnv C ω} {sub : Submission} {ds : List ℕ}
    {es : List (SendEvent C (World ω))} {r : Except SendError (List OutgoingMessageEntity)}
    {entities : List OutgoingMessageEntity} (hrun : FanRun sub ds es r) (hr : r = .ok entities)
    (hans : ∀ e ∈ es, e.reply = (env.handler.answer e.call e.before).1) : FreshEntities sub es entities := by
  induction hrun generalizing entities with
  | nil => rw [← Except.ok.inj hr]; exact .nil
  | badId d ds text => cases hr
  | failed dev ds es e henc => cases hr
  | cons dev ds es es' entity r henc hrest ih =>
    cases r with
    | error e => cases hr
    | ok rest =>
      obtain rfl := Except.ok.inj hr
      have hfresh := ih rfl (fun e he => hans e (List.mem_append_right _ he))
      cases henc with
      | done w w' record reg ct bytes ty hreg hpayload =>
        have hload : (env.answer (.load_session ⟨sub.recipient_uuid, dev⟩) w).1 = .ok (some record) :=
          (hans (sendEvent w (.load_session ⟨sub.recipient_uuid, dev⟩) (.ok (some record)))
            List.mem_cons_self).symm
        obtain ⟨stored, hstored, hrecord⟩ := loaded_stored hload
        exact .cons w w' dev stored record reg ct bytes ty es' rest hstored hrecord hreg hpayload hfresh

theorem addressed_ascending {p : Pddb} {uuid : String} {fallback : ℕ} {excluded : Option ℕ}
    {devices : List ℕ} (h : addressedDevices fallback excluded (p.sessionDevices uuid) = some devices) :
    devices.Pairwise (· < ·) := by
  rcases addressed_eq h with rfl | ⟨-, -, rfl⟩
  · exact (p.sessionDevices_ascending uuid).filter _
  · exact List.pairwise_singleton _ _

/-- Whatever the server, libsignal and the store contents: the devices a PUT addresses, where its
entities come from, and that the sync leg never addresses the own device. -/
theorem fan_out_exact (env : SendEnv C ω) :
    (∀ (sub : Submission) (w : World ω),
      let o := (submit_padded_with_retry_generic sub).exec env.handler w
      (∀ pre e post url auth body, o.events = pre ++ e :: post → e.call = SendCall.put_json url auth body →
        ∃ (before fan : List (SendEvent C (World ω))) (start : World ω),
          let known := (start.pddb.sessionDevices sub.recipient_uuid).filter
            (fun d => some d ≠ sub.excluded_device_id)
          pre = before ++ sendEvent start (.device_ids_for sub.recipient_uuid)
            (start.pddb.sessionDevices sub.recipient_uuid) :: fan ∧
          (body.destinations = known ∨
            (known = [] ∧ sub.excluded_device_id = none ∧ body.destinations = [sub.fallback_device_id])) ∧
          (start.pddb.SessionKeys → ∀ d, d ∈ known ↔ some d ≠ sub.excluded_device_id ∧
            ∃ i : DeviceId, i.val = d ∧ (start.pddb.session ⟨sub.recipient_uuid, i⟩).isSome) ∧
          body.destinations.Pairwise (· < ·) ∧ body.destinations ≠ [] ∧
          FreshEntities sub fan body.messages) ∧
      (∀ pre e post, o.events = pre ++ e :: post → EncryptionFails e → post = [])) ∧
    (∀ (plaintext recipient_uuid : String) (timestamp_ms : UInt64) (own_uuid : String) (own_device_id : ℕ)
        (local_addr : ProtocolAddress) (account : AccountInfo) (w : World ω),
      let o := (submit_sync_transcript_generic plaintext recipient_uuid timestamp_ms own_uuid own_device_id
        local_addr account).exec env.handler w
      ∀ e ∈ o.events, ∀ url auth body, e.call = SendCall.put_json url auth body →
        own_device_id ∉ body.destinations) := by
  refine ⟨?_, ?_⟩
  · intro sub w o
    obtain ⟨t₀, es, hes, hrun⟩ := submit_padded_run (h := env.handler) sub w
    change o.events = _ at hes
    have hans : ∀ e ∈ o.events, e.reply = (env.handler.answer e.call e.before).1 :=
      Program.events_answered env.handler _ w
    refine ⟨?_, ?_⟩
    · intro pre e post url auth body hsplit hput
      have hp : PutEvent e := by rw [PutEvent, hput]; trivial
      obtain ⟨pre', rfl, hes'⟩ := split_cons (x := sendEvent w .now t₀) id hp (hes.symm.trans hsplit)
      obtain ⟨start, ids, devices, fan, ⟨before, rfl⟩, haddr, hfan⟩ := hrun.put_origin hes' hput
      have hids : ids = start.pddb.sessionDevices sub.recipient_uuid := by
        have henum := hans (sendEvent start (.device_ids_for sub.recipient_uuid) ids)
          (by rw [hsplit]; simp)
        exact henum
      subst hids
      have hfresh : FreshEntities sub fan body.messages :=
        hfan.fresh rfl (fun x hx => hans x (by rw [hsplit]; simp [hx]))
      have hdest : body.destinations = devices := hfan.destinations rfl
      refine ⟨sendEvent w .now t₀ :: before, fan, start, rfl, ?_, ?_, ?_, ?_, hfresh⟩
      · rw [hdest]
        exact addressed_eq haddr
      · intro hkeys d
        rw [List.mem_filter, Pddb.mem_sessionDevices hkeys]
        simp [and_comm]
      · rw [hdest]
        exact addressed_ascending haddr
      · rw [hdest]
        exact addressed_ne_nil haddr
    · intro pre e post hsplit hfails
      obtain ⟨pre', rfl, hes'⟩ := split_cons (x := sendEvent w .now t₀) id hfails (hes.symm.trans hsplit)
      exact hrun.failure_last hes' hfails
  · intro plaintext recipient_uuid timestamp_ms own_uuid own_device_id local_addr account w o e he url auth
      body hput
    exact (submit_sync_transcript_run plaintext recipient_uuid timestamp_ms own_uuid own_device_id
      local_addr account w).destinations he hput

end Stores

end XousSignalClient
