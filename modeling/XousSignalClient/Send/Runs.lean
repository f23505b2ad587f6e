import XousSignalClient.Send.Repair

namespace XousSignalClient

open Encoding Interaction Fallible

variable {C : Crates} {σ α : Type} {h : Handler (sendSignature C) σ}

theorem ensures_ask_bind {c : SendCall C} {f : c.Reply → SendM C α} {s : σ}
    {Q : Except SendError α → σ → List (SendEvent C σ) → Prop}
    (hf : Ensures h (f (h.answer c s).1) (h.answer c s).2
      (fun v t es => Q v t (sendEvent s c (h.answer c s).1 :: es))) :
    Ensures h (c.ask >>= f) s Q :=
  ensures_call_bind hf

theorem encryptFor_run (sub : Submission) (a : ProtocolAddress) (s : σ) :
    Ensures h (encryptFor sub a) s (fun v _ es => EncryptRun sub a es (v.map (enc_to_entity C))) := by
  apply ensures_mapError
  unfold encrypt_padded_for_recipient
  apply ensures_call_bind (S := sendSignature C) (c := SendCall.load_session a)
  generalize (h.answer (SendCall.load_session a) s).1 = loaded
  generalize (h.answer (SendCall.load_session a) s).2 = s'
  cases loaded with
  | error e => exact .unloaded s _ _ (by rintro record reg ⟨⟩)
  | ok loaded =>
    cases loaded with
    | none => exact .unloaded s _ _ (by rintro record reg ⟨⟩)
    | some record =>
      cases hreg : C.remote_registration_id record with
      | error e =>
        simp only [hreg]
        refine .unloaded s _ _ ?_
        rintro record reg ⟨⟩
        rw [hreg]
        exact nofun
      | ok reg =>
        simp only [hreg]
        apply ensures_call_bind (S := sendSignature C)
          (c := SendCall.message_encrypt sub.padded_content a sub.local_addr)
        generalize (h.answer (SendCall.message_encrypt sub.padded_content a sub.local_addr) s').1 = enc
        cases enc with
        | error e => exact .unencrypted s s' _ _ _ ⟨record, reg, rfl, hreg⟩ (by rintro ct payload ⟨⟩)
        | ok ct =>
          cases hp : ciphertext_payload ct with
          | error e =>
            simp only [hp]
            refine .unencrypted s s' _ _ _ ⟨record, reg, rfl, hreg⟩ ?_
            rintro ct payload ⟨⟩
            rw [hp]
            exact nofun
          | ok payload =>
            simp only [hp]
            exact .done s s' record reg ct payload.1 payload.2 hreg hp

theorem encryptForAll_run (sub : Submission) (ds : List ℕ) (s : σ) :
    Ensures h (encryptForAll sub ds) s (fun v _ es => FanRun sub ds es v) := by
  induction ds generalizing s with
  | nil => exact .nil
  | cons d ds ih =>
    unfold encryptForAll
    apply ensures_ofExcept_bind
    · intro e he
      obtain ⟨text, rfl⟩ := badResponseOnly_to_device_id _ _ e he
      exact .badId d ds text
    · intro dev hdev
      obtain rfl := to_device_id_val hdev
      apply ensures_bind (encryptFor_run sub _ s)
      · intro e t es hes
        exact .failed dev ds es e hes
      · intro enc t es hes
        apply ensures_bind (ih t)
        · intro e u es' hes'
          exact .cons dev ds es es' _ _ hes hes'
        · intro entities u es' hes'
          refine ensures_pure ?_
          rw [List.append_nil]
          exact .cons dev ds es es' _ _ hes hes'

def putResult (reply : Except String HttpResponse) : Except SendError Unit :=
  (reply.mapError SendError.Transport).bind interpret_send_status

theorem submit_messages_run (uuid : String) (entities : List OutgoingMessageEntity) (ts : UInt64)
    (account : AccountInfo) (s : σ) :
    Ensures h (submit_messages uuid entities ts account) s (fun v _ es =>
      (es = [] ∧ ∃ text, v = .error (.Account text)) ∨
      ∃ url auth reply, es = [sendEvent s (.put_json url auth ⟨entities, false, true, ts⟩) reply] ∧
        v = putResult reply) := by
  unfold submit_messages
  apply ensures_ofExcept_bind
  · intro e he
    refine .inl ⟨rfl, ?_⟩
    unfold AccountInfo.chat_base_url at he
    cases hu : C.url_parse ("https://chat." ++ account.host) with
    | ok u =>
      rw [hu] at he
      cases he
    | error text =>
      rw [hu] at he
      cases he
      exact ⟨_, rfl⟩
  · intro url _
    apply ensures_ask_bind
    generalize (h.answer (SendCall.put_json _ _ _) s).1 = reply
    refine ensures_ofExcept_bind ?_ ?_
    · intro e he
      refine .inr ⟨_, _, reply, rfl, ?_⟩
      unfold putResult
      rw [he]
      rfl
    · intro resp hresp
      refine ensures_ofExcept (.inr ⟨_, _, reply, rfl, ?_⟩)
      unfold putResult
      rw [hresp]
      rfl

theorem parse_mismatch_run (body : Bytes) (s : σ) :
    Ensures h (parse_mismatch body) s (fun v _ es =>
      ∃ parsed, es = [sendEvent s (.mismatch_from_slice body) parsed] ∧ v ≠ .error .RetryExhausted) := by
  apply ensures_ask_bind
  generalize (h.answer (SendCall.mismatch_from_slice body) s).1 = parsed
  refine ensures_ofExcept ⟨parsed, rfl, ?_⟩
  cases parsed <;> exact nofun

theorem mismatch_run {k : ℕ} {resp : HttpResponse} {repair : DeviceMismatchResponse → SendM C Unit}
    (hresp : putVerdict resp = .mismatch) (hrepair : ∀ mm, Repairs h (repair mm)) (s : σ) :
    Ensures h (do let mm ← parse_mismatch (mismatchBody resp); repair mm; pure none) s
      (fun v _ es => AfterPut k (.ok resp) es v) := by
  apply ensures_bind (parse_mismatch_run _ s)
  · rintro e t es ⟨parsed, rfl, hv⟩
    exact .mismatch resp s parsed [] _ hresp (by simp) (.inr ⟨e, fun he => hv (congrArg _ he), rfl⟩)
  · rintro mm t es ⟨parsed, rfl, -⟩
    apply ensures_bind (hrepair mm t)
    · rintro e u es' ⟨hes', hv⟩
      exact .mismatch resp s parsed es' _ hresp hes' (.inr ⟨e, fun he => hv (congrArg _ he), rfl⟩)
    · rintro ⟨⟩ u es' ⟨hes', -⟩
      refine ensures_pure ?_
      rw [List.append_nil]
      exact .mismatch resp s parsed es' _ hresp hes' (.inl rfl)

theorem EncryptRun.error_ne {sub : Submission} {a : ProtocolAddress} {es : List (SendEvent C σ)}
    {r : Except SendError OutgoingMessageEntity} (hrun : EncryptRun sub a es r) :
    r ≠ .error .RetryExhausted := by
  cases hrun <;> exact nofun

theorem FanRun.error_ne {sub : Submission} {ds : List ℕ} {es : List (SendEvent C σ)}
    {r : Except SendError (List OutgoingMessageEntity)} (hrun : FanRun sub ds es r) :
    r ≠ .error .RetryExhausted := by
  induction hrun with
  | nil => exact nofun
  | badId d ds text => exact nofun
  | failed dev ds es e henc => exact fun he => henc.error_ne (congrArg _ (Except.error.inj he))
  | cons dev ds es es' entity r henc hrest ih =>
    cases r with
    | ok entities => exact nofun
    | error e => exact fun he => ih (congrArg _ (Except.error.inj he))

theorem actOn_run (sub : Submission) (a : ProtocolAddress) (k : ℕ) (reply : Except String HttpResponse)
    (s : σ) : Ensures h (actOn sub a k (classify_attempt (putResult reply))) s
      (fun v _ es => AfterPut k reply es v) := by
  cases reply with
  | error text => exact .transient _ s rfl
  | ok resp =>
    have hput : putResult (.ok resp) = interpret_send_status resp := rfl
    rw [hput]
    cases hv : putVerdict resp with
    | accepted =>
      rw [classify_accepted hv]
      exact .accepted _ hv
    | refused e =>
      rw [classify_refused hv]
      exact .refused _ e hv
    | transient =>
      rw [classify_transient hv]
      exact .transient _ s hv
    | mismatch =>
      rcases classify_mismatch hv with ⟨-, hc⟩ | ⟨-, hc⟩
      · rw [hc]
        exact mismatch_run hv (fun mm => repairs_handle_mismatched_devices _ mm _) s
      · rw [hc]
        exact mismatch_run hv (fun mm => repairs_deleteListed _ _) s

theorem submitAttempt_run (sub : Submission) (k : ℕ) (s : σ) :
    Ensures h (submitAttempt sub k) s (fun v _ es => AttemptRun sub k es v) := by
  apply ensures_ask_bind
  generalize (h.answer (SendCall.device_ids_for sub.recipient_uuid) s).1 = ids
  generalize (h.answer (SendCall.device_ids_for sub.recipient_uuid) s).2 = s₁
  cases hids : addressedDevices sub.fallback_device_id sub.excluded_device_id ids with
  | none => exact .skipped s ids hids
  | some devices =>
    simp only
    apply ensures_ofExcept_bind
    · intro e he
      obtain ⟨text, rfl⟩ := badResponseOnly_to_device_id _ _ e he
      exact .unaddressed s ids text
    · intro dev _
      apply ensures_bind (encryptForAll_run sub devices s₁)
      · intro e t fan hfan
        exact .unsent s ids devices fan _ e hids hfan (fun he => hfan.error_ne (congrArg _ he))
      · intro entities t fan hfan
        apply ensures_attempt_bind (submit_messages_run _ _ _ _ t)
        rintro outcome u es (⟨rfl, text, rfl⟩ | ⟨url, auth, reply, rfl, rfl⟩)
        · refine ensures_throw ?_
          rw [List.nil_append, List.append_nil]
          exact .unsent s ids devices fan _ _ hids hfan nofun
        · apply (actOn_run sub _ k reply u).mono
          intro v w tail htail
          rw [List.singleton_append]
          exact .sent s t ids devices fan entities url auth reply tail v hids hfan htail

theorem submitLoop_run (sub : Submission) (start left : ℕ) (s : σ) :
    Ensures h (submitLoop sub start left) s (fun v _ es => LoopRun sub start left es v) := by
  induction left generalizing s with
  | zero => exact .exhausted s _
  | succ left ih =>
    apply ensures_ask_bind
    generalize (h.answer (SendCall.now (C := C)) s).1 = t
    generalize (h.answer (SendCall.now (C := C)) s).2 = s'
    split_ifs with ht
    · exact .expired (left + 1) s t ht
    · apply ensures_bind (submitAttempt_run sub _ s')
      · intro e u es hes
        exact .failed left s t es e hes
      · intro next u es hes
        cases next with
        | some delivered =>
          refine ensures_pure ?_
          rw [List.append_nil]
          exact .returned left s t es delivered hes
        | none =>
          apply (ih u).mono
          intro v w es' hes'
          exact .again left s t es es' v hes hes'

theorem submit_padded_run (sub : Submission) (s : σ) :
    Ensures h (submit_padded_with_retry_generic sub) s (fun v _ es =>
      ∃ start es', es = sendEvent s .now start :: es' ∧ LoopRun sub start MAX_ATTEMPTS es' v) := by
  apply ensures_ask_bind
  apply (submitLoop_run sub _ _ _).mono
  intro v t es hes
  exact ⟨_, es, rfl, hes⟩

end XousSignalClient
