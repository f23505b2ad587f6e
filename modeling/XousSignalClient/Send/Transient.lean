import XousSignalClient.Interaction.Contract
import XousSignalClient.Send.Recover

namespace XousSignalClient

open Encoding Interaction Fallible

variable {C : Crates} {σ α β : Type}

def TransientStatus (status : ℕ) : Prop := status = 429 ∨ (500 ≤ status ∧ status ≤ 599)

def TransientReply : Except String HttpResponse → Prop
  | .error _ => True
  | .ok resp => TransientStatus resp.status

def SendError.IsTransient : SendError → Prop
  | .Transport _ => True
  | .Unexpected status => TransientStatus status
  | _ => False

def SendCall.getReply : (c : SendCall C) → c.Reply → Option (Except String HttpResponse)
  | .get_json _ _, reply => some reply
  | _, _ => none

def gets (es : List (SendEvent C σ)) : List (Except String HttpResponse) :=
  es.filterMap (fun e => SendCall.getReply e.call e.reply)

theorem gets_append (es es' : List (SendEvent C σ)) : gets (es ++ es') = gets es ++ gets es' :=
  List.filterMap_append

theorem gets_nil_of {P : SendCall C → Prop} (hP : ∀ c r, P c → SendCall.getReply c r = none)
    {es : List (SendEvent C σ)} (hes : ∀ e ∈ es, P e.call) : gets es = [] := by
  rw [gets, List.filterMap_eq_nil_iff]
  exact fun e he => hP e.call e.reply (hes e he)

def surfacing (C : Crates) (σ : Type) : Contract (sendSignature C) σ SendError where
  ok es := ∀ reply ∈ gets es, ¬TransientReply reply
  error e es := e.IsTransient ↔ ∃ reply ∈ gets es, TransientReply reply
  ok_nil := by simp [gets]
  ok_append := by
    intro es es' hes hes' reply hreply
    rw [gets_append, List.mem_append] at hreply
    exact hreply.elim (hes reply) (hes' reply)
  error_append := by
    intro es e es' hes hes'
    rw [hes', gets_append]
    constructor
    · rintro ⟨reply, hreply, htransient⟩
      exact ⟨reply, List.mem_append_right _ hreply, htransient⟩
    · rintro ⟨reply, hreply, htransient⟩
      rcases List.mem_append.mp hreply with hreply | hreply
      · exact absurd htransient (hes reply hreply)
      · exact ⟨reply, hreply, htransient⟩

variable {h : Handler (sendSignature C) σ}

abbrev Surfaces (h : Handler (sendSignature C) σ) (x : SendM C α) : Prop := Follows h (surfacing C σ) x

theorem surfacing_error_nil {e : SendError} : (surfacing C σ).error e [] ↔ ¬e.IsTransient := by
  change (e.IsTransient ↔ ∃ reply ∈ ([] : List (Except String HttpResponse)), _) ↔ _
  simp

theorem surfaces_throw {e : SendError} (he : ¬e.IsTransient) : Surfaces h (throw e : SendM C α) :=
  follows_throw (surfacing_error_nil.mpr he)

theorem surfaces_ofExcept {r : Except SendError α} (hr : ∀ e, r = .error e → ¬e.IsTransient) :
    Surfaces h (Fallible.ofExcept r : SendM C α) :=
  follows_ofExcept (fun e he => surfacing_error_nil.mpr (hr e he))

theorem surfaces_badResponseOnly {r : Except SendError α} (hr : BadResponseOnly r) :
    Surfaces h (Fallible.ofExcept r : SendM C α) := by
  apply surfaces_ofExcept
  intro e he
  obtain ⟨text, rfl⟩ := hr e he
  exact id

theorem surfaces_orFail {ε : Type} {f : ε → SendError} (hf : ∀ e, ¬(f e).IsTransient) (r : Except ε α) :
    Surfaces h (orFail f r : SendM C α) := by
  apply surfaces_ofExcept
  intro e he
  cases r with
  | ok a => cases he
  | error e' =>
    cases he
    exact hf e'

theorem surfaces_ask {c : SendCall C} (hc : ∀ r, SendCall.getReply c r = none) : Surfaces h c.ask := by
  apply follows_call
  intro s r reply hreply
  have hnil : gets [(⟨s, c, r⟩ : SendEvent C σ)] = [] := List.filterMap_cons_none (hc r)
  rw [hnil] at hreply
  cases hreply

theorem chat_base_url_error {account : AccountInfo} {e : SendError} (he : account.chat_base_url C = .error e) :
    ∃ text, e = .Account text := by
  unfold AccountInfo.chat_base_url at he
  cases hu : C.url_parse ("https://chat." ++ account.host) with
  | ok u =>
    rw [hu] at he
    cases he
  | error text =>
    rw [hu] at he
    cases he
    exact ⟨_, rfl⟩

theorem keysUrl_error {account : AccountInfo} {uuid device : String} {e : SendError}
    (he : keysUrl (C := C) account uuid device = .error e) : ∃ text, e = .Account text := by
  unfold keysUrl at he
  cases hu : account.chat_base_url C with
  | ok u =>
    rw [hu] at he
    cases he
  | error e' =>
    rw [hu] at he
    cases he
    exact chat_base_url_error hu

theorem surfaces_get {url auth : String} {label : String} {f : HttpResponse → SendM C α}
    (hok : ∀ resp, ¬TransientStatus resp.status → Surfaces h (f resp))
    (herr : ∀ resp, TransientStatus resp.status → f resp = throw (.Unexpected resp.status)) :
    Surfaces h (do
      let reply ← (SendCall.get_json url auth).ask
      let resp ← orFail (fun e => .Transport (label ++ e)) reply
      f resp) := by
  intro s
  apply ensures_ask_bind
  generalize (h.answer (SendCall.get_json url auth) s).1 = reply
  generalize (h.answer (SendCall.get_json url auth) s).2 = t
  have hone : ∀ e : SendError, e.IsTransient → TransientReply reply →
      (surfacing C σ).error e [sendEvent s (.get_json url auth) reply] :=
    fun e he hreply => iff_of_true he ⟨reply, List.mem_cons_self, hreply⟩
  apply ensures_ofExcept_bind
  · intro e he
    cases reply with
    | ok resp => cases he
    | error text =>
      cases he
      exact hone _ trivial trivial
  · intro resp hresp
    cases reply with
    | error text => cases hresp
    | ok resp' =>
      obtain rfl := Except.ok.inj hresp
      by_cases htransient : TransientStatus resp'.status
      · rw [herr resp' htransient]
        exact hone _ htransient htransient
      · apply (hok resp' htransient t).mono
        intro v u es hes
        have hfirst : (surfacing C σ).ok [sendEvent s (.get_json url auth) (.ok resp')] := by
          intro reply hreply
          obtain rfl := List.mem_singleton.mp hreply
          exact htransient
        exact Contract.Holds.prepend hfirst hes

theorem surfaces_deleteListed (name : String) (ds : List ℕ) : Surfaces h (deleteListed (C := C) name ds) := by
  induction ds with
  | nil => exact follows_pure ()
  | cons d ds ih =>
    unfold deleteListed
    cases device_protocol_address name d with
    | none => exact ih
    | some addr => exact follows_bind (surfaces_ask (fun _ => rfl)) (fun _ => ih)

theorem surfaces_process_one_prekey_bundle (uuid : String) (d : ℕ) (pre : PreKeyResponse) :
    Surfaces h (process_one_prekey_bundle (C := C) uuid d pre) := by
  unfold process_one_prekey_bundle
  apply follows_bind (surfaces_badResponseOnly (badResponseOnly_requestedEntry _ _))
  intro entry
  apply follows_bind (surfaces_badResponseOnly (badResponseOnly_decode_identity_key C _))
  intro identity_key
  apply follows_bind (surfaces_badResponseOnly (badResponseOnly_build_prekey_bundle C _ _))
  intro bundle
  split
  · exact surfaces_throw id
  · exact follows_bind (surfaces_ask (fun _ => rfl)) (fun _ => surfaces_orFail (fun _ => id) _)

theorem surfaces_fetchMissing (recipient : ProtocolAddress) (account : AccountInfo) (ds : List ℕ) :
    Surfaces h (fetchMissing (C := C) recipient account ds) := by
  induction ds with
  | nil => exact follows_pure ()
  | cons d ds ih =>
    unfold fetchMissing
    apply follows_bind
    · apply surfaces_ofExcept
      intro e he
      obtain ⟨text, rfl⟩ := keysUrl_error he
      exact id
    · intro url
      apply surfaces_get
      · intro resp hresp
        by_cases h200 : resp.status = 200
        · rw [if_pos h200]
          apply follows_bind (surfaces_orFail (fun _ => id) _)
          intro pre
          exact follows_bind (surfaces_process_one_prekey_bundle _ _ _) (fun _ => ih)
        · rw [if_neg h200]
          split_ifs
          · exact ih
          · exact surfaces_throw id
          · exact surfaces_throw hresp
      · intro resp hresp
        unfold TransientStatus at hresp
        rw [if_neg (by omega), if_neg (by omega), if_neg (by omega)]

theorem surfaces_handle_mismatched_devices (recipient : ProtocolAddress) (mm : DeviceMismatchResponse)
    (account : AccountInfo) : Surfaces h (handle_mismatched_devices (C := C) recipient mm account) :=
  follows_bind (surfaces_deleteListed _ _) (fun _ => surfaces_fetchMissing _ _ _)

theorem classify_fatal {outcome : Except SendError Unit} {e : SendError} (he : classify_attempt outcome = .Fatal e) :
    ¬e.IsTransient := by
  match outcome with
  | .error (.BadResponse m) =>
    simp only [classify_attempt] at he
    split at he
    · cases he
    · split at he
      · cases he
      · cases he
        exact id
  | .error (.Unexpected code) =>
    simp only [classify_attempt] at he
    split_ifs at he with hcode
    cases he
    exact hcode
  | .error .AuthFailed | .error .ServiceIdNotFound | .error .PayloadTooLarge | .error .ChallengeRequired
  | .error .RetryExhausted | .error (.Encryption _) | .error (.Account _) =>
    cases he
    exact id

theorem surfaces_parse_mismatch (body : Bytes) : Surfaces h (parse_mismatch (C := C) body) :=
  follows_bind (surfaces_ask (fun _ => rfl)) (fun _ => surfaces_orFail (fun _ => id) _)

theorem surfaces_actOn (sub : Submission) (a : ProtocolAddress) (k : ℕ) (outcome : Except SendError Unit) :
    Surfaces h (actOn (C := C) sub a k (classify_attempt outcome)) := by
  cases hd : classify_attempt outcome with
  | Done => exact follows_pure _
  | Mismatch409 body =>
    apply follows_bind (surfaces_parse_mismatch body)
    intro mm
    exact follows_bind (surfaces_handle_mismatched_devices a mm sub.account) (fun _ => follows_pure _)
  | Mismatch410 body =>
    apply follows_bind (surfaces_parse_mismatch body)
    intro mm
    exact follows_bind (surfaces_deleteListed a.name mm.stale_devices) (fun _ => follows_pure _)
  | Backoff => exact follows_bind (surfaces_ask (fun _ => rfl)) (fun _ => follows_pure _)
  | Fatal e => exact surfaces_throw (classify_fatal hd)

theorem FanRun.not_transient {sub : Submission} {ds : List ℕ} {es : List (SendEvent C σ)}
    {r : Except SendError (List OutgoingMessageEntity)} (hrun : FanRun sub ds es r) :
    ∀ e, r = .error e → ¬e.IsTransient := by
  induction hrun with
  | nil => exact nofun
  | badId d ds text =>
    rintro e ⟨⟩
    exact id
  | failed dev ds es e henc =>
    rintro e ⟨⟩
    cases henc <;> exact id
  | cons dev ds es es' entity r henc hrest ih =>
    intro e he
    cases r with
    | ok entities => cases he
    | error e' =>
      obtain rfl := Except.error.inj he
      exact ih e' rfl

theorem surfacing_of_quiet {v : Except SendError α} {es : List (SendEvent C σ)} (hgets : gets es = [])
    (hv : ∀ e, v = .error e → ¬e.IsTransient) : (surfacing C σ).Holds v es := by
  cases v with
  | ok a =>
    change ∀ reply ∈ gets es, _
    simp [hgets]
  | error e =>
    refine iff_of_false (hv e rfl) ?_
    simp [hgets]

theorem surfaces_encryptForAll (sub : Submission) (ds : List ℕ) : Surfaces h (encryptForAll (C := C) sub ds) := by
  intro s
  apply (encryptForAll_run sub ds s).mono
  intro v t es hrun
  refine surfacing_of_quiet (gets_nil_of ?_ hrun.encryption) hrun.not_transient
  intro c r hc
  cases c <;> first | exact hc.elim | rfl

theorem surfaces_submitAttempt (sub : Submission) (k : ℕ) : Surfaces h (submitAttempt (C := C) sub k) := by
  unfold submitAttempt
  apply follows_bind (surfaces_ask (fun _ => rfl))
  intro ids
  split
  · exact follows_pure _
  · apply follows_bind (surfaces_badResponseOnly (badResponseOnly_to_device_id _ _))
    intro dev
    apply follows_bind (surfaces_encryptForAll sub _)
    intro entities s
    apply ensures_attempt_bind (submit_messages_run _ _ _ _ s)
    intro outcome t es hes
    apply (surfaces_actOn sub _ k outcome t).mono
    intro v u es' hes'
    refine Contract.Holds.prepend ?_ hes'
    have hgets : gets es = [] := by
      rcases hes with ⟨rfl, -⟩ | ⟨url, auth, reply, rfl, -⟩ <;> rfl
    change ∀ reply ∈ gets es, _
    simp [hgets]

theorem surfaces_submitLoop (sub : Submission) (start left : ℕ) : Surfaces h (submitLoop (C := C) sub start left) := by
  induction left with
  | zero => exact follows_bind (surfaces_ask (fun _ => rfl)) (fun _ => surfaces_throw id)
  | succ left ih =>
    apply follows_bind (surfaces_ask (fun _ => rfl))
    intro t
    split_ifs
    · exact surfaces_throw id
    · apply follows_bind (surfaces_submitAttempt sub _)
      intro next
      cases next with
      | some delivered => exact follows_pure _
      | none => exact ih

theorem surfaces_submit_with_retry (plaintext : String) (timestamp_ms : UInt64)
    (recipient_addr local_addr : ProtocolAddress) (account : AccountInfo) :
    Surfaces h (submit_with_retry_generic (C := C) plaintext timestamp_ms recipient_addr local_addr account) :=
  follows_bind (follows_bind (surfaces_ask (fun _ => rfl)) (fun _ => surfaces_submitLoop _ _ _))
    (fun _ => follows_pure _)

section Attempts

variable {sub : Submission}

def SendCall.IsAttempt : SendCall C → Prop
  | .device_ids_for _ => True
  | _ => False

def TriedAgain (es : List (SendEvent C σ)) (r : Except SendError α) : Prop :=
  ∀ pre e post, es = pre ++ e :: post → Answered e .transient →
    (∃ x ∈ post, SendCall.IsAttempt x.call) ∨ r = .error .RetryExhausted

theorem AttemptRun.opens {k : ℕ} {es : List (SendEvent C σ)} {r : Except SendError (Option Bool)}
    (hrun : AttemptRun sub k es r) : ∃ x ∈ es, SendCall.IsAttempt x.call := by
  cases hrun <;> exact ⟨_, List.mem_cons_self, trivial⟩

theorem LoopRun.opens {start left : ℕ} {es : List (SendEvent C σ)} {r : Except SendError Bool}
    (hrun : LoopRun sub start left es r) : (∃ x ∈ es, SendCall.IsAttempt x.call) ∨ r = .error .RetryExhausted := by
  cases hrun with
  | expired left s t ht => exact .inr rfl
  | exhausted s t => exact .inr rfl
  | returned left s t es delivered h | failed left s t es e h =>
    obtain ⟨x, hx, hattempt⟩ := h.opens
    exact .inl ⟨x, List.mem_cons_of_mem _ hx, hattempt⟩
  | again left s t es es' r h hrest =>
    obtain ⟨x, hx, hattempt⟩ := h.opens
    exact .inl ⟨x, List.mem_cons_of_mem _ (List.mem_append_left _ hx), hattempt⟩

theorem AttemptRun.goes_on {k : ℕ} {es : List (SendEvent C σ)} {r : Except SendError (Option Bool)}
    (hrun : AttemptRun sub k es r) {e : SendEvent C σ} (he : e ∈ es) (hans : Answered e .transient) :
    r = .ok none := by
  have hquiet : ∀ {ds : List ℕ} {fan : List (SendEvent C σ)} {s : σ} {ids : List ℕ}
      {r' : Except SendError (List OutgoingMessageEntity)}, FanRun sub ds fan r' →
      e ∉ sendEvent s (.device_ids_for sub.recipient_uuid) ids :: fan :=
    fun hfan hmem => silent_not_answered (hfan.quiet.1 e hmem) _ hans
  cases hrun with
  | skipped s ids hids => exact absurd he (hquiet FanRun.nil)
  | unaddressed s ids text => exact absurd he (hquiet FanRun.nil)
  | unsent s ids devices fan r err hids hfan herr => exact absurd he (hquiet hfan)
  | sent s s' ids devices fan entities url auth reply tail r hids hfan htail =>
    rw [← List.cons_append, List.mem_append] at he
    rcases he with he | he
    · exact absurd he (hquiet hfan)
    rcases List.mem_cons.mp he with rfl | he
    · have hreply : putOutcome reply = .transient := Option.some.inj hans
      cases htail with
      | accepted _ h => rw [h] at hreply; cases hreply
      | refused _ err h => rw [h] at hreply; cases hreply
      | transient _ s h => rfl
      | mismatch resp s parsed repair _ h hrepair hr => rw [h] at hreply; cases hreply
    · exact absurd hans (htail.not_answered _ e he)

theorem LoopRun.triedAgain {start left : ℕ} {es : List (SendEvent C σ)} {r : Except SendError Bool}
    (hrun : LoopRun sub start left es r) : TriedAgain es r := by
  have hnow : ∀ {s : σ} {t : ℕ} {pre post es : List (SendEvent C σ)} {e : SendEvent C σ},
      sendEvent s .now t :: es = pre ++ e :: post → Answered e .transient → ∃ pre', es = pre' ++ e :: post := by
    intro s t pre post es e hsplit hans
    obtain ⟨pre', -, hes⟩ := split_cons (P := fun x => Answered x .transient) (now_not_answered s t _) hans hsplit
    exact ⟨pre', hes⟩
  induction hrun with
  | expired left s t ht => exact fun _ _ _ _ _ => .inr rfl
  | exhausted s t => exact fun _ _ _ _ _ => .inr rfl
  | returned left s t es delivered h =>
    intro pre e post hsplit hans
    obtain ⟨pre', rfl⟩ := hnow hsplit hans
    cases h.goes_on (by simp) hans
  | failed left s t es err h =>
    intro pre e post hsplit hans
    obtain ⟨pre', rfl⟩ := hnow hsplit hans
    cases h.goes_on (by simp) hans
  | again left s t es es' r h hrest ih =>
    intro pre e post hsplit hans
    obtain ⟨pre', hes⟩ := hnow hsplit hans
    rcases append_eq_split hes with ⟨mid, -, rfl⟩ | ⟨mid, -, hes'⟩
    · rcases hrest.opens with ⟨x, hx, hattempt⟩ | hr
      · exact .inl ⟨x, List.mem_append_right _ hx, hattempt⟩
      · exact .inr hr
    · exact ih mid e post hes' hans

end Attempts

theorem putOutcome_transient_iff {reply : Except String HttpResponse} :
    putOutcome reply = .transient ↔ TransientReply reply := by
  cases reply with
  | error text => exact iff_of_true rfl trivial
  | ok resp =>
    change putVerdict resp = .transient ↔ TransientStatus resp.status
    unfold putVerdict TransientStatus
    split_ifs <;> simp <;> omega

def MetTransient (e : SendEvent C σ) : Prop :=
  ∃ reply, (SendCall.putReply e.call e.reply = some reply ∨ SendCall.getReply e.call e.reply = some reply) ∧
    TransientReply reply

def RetriesTransient (o : Interaction.Outcome (sendSignature C) σ (Except SendError α)) : Prop :=
  (∀ e, o.value = .error e → ¬e.IsTransient) ∧
    ∀ pre e post, o.events = pre ++ e :: post → MetTransient e →
      (∃ x ∈ post, SendCall.IsAttempt x.call) ∨ o.value = .error .RetryExhausted

theorem triedAgain_submit {plaintext : String} {timestamp_ms : UInt64} {recipient_addr local_addr : ProtocolAddress}
    {account : AccountInfo} (s : σ) :
    Ensures h (submit_with_retry_generic plaintext timestamp_ms recipient_addr local_addr account) s
      (fun v _ es => TriedAgain es v) := by
  apply (submit_with_retry_run plaintext timestamp_ms recipient_addr local_addr account s).mono
  rintro v t es ⟨start, es', r, rfl, hrun, rfl⟩ pre e post hsplit hans
  obtain ⟨pre', -, hes'⟩ := split_cons (P := fun x => Answered x .transient) (now_not_answered s start _) hans hsplit
  rcases hrun.triedAgain pre' e post hes' hans with hagain | rfl
  · exact .inl hagain
  · exact .inr rfl

/-- Transient conditions are retried exactly in the runs whose prekey GETs meet none. -/
theorem transient_retried_iff (h : Handler (sendSignature C) σ) (plaintext : String) (timestamp_ms : UInt64)
    (recipient_addr local_addr : ProtocolAddress) (account : AccountInfo) (s : σ) :
    let o := (submit_with_retry_generic plaintext timestamp_ms recipient_addr local_addr account).exec h s
    RetriesTransient o ↔ ∀ reply ∈ gets o.events, ¬TransientReply reply := by
  intro o
  have hsurface : (surfacing C σ).Holds o.value o.events :=
    surfaces_submit_with_retry plaintext timestamp_ms recipient_addr local_addr account s
  have htried : TriedAgain o.events o.value := triedAgain_submit s
  constructor
  · rintro ⟨hvalue, -⟩
    cases hv : o.value with
    | ok u =>
      rw [hv] at hsurface
      exact hsurface
    | error e =>
      rw [hv] at hsurface
      have hnone := mt hsurface.mpr (hvalue e hv)
      simpa using hnone
  · intro hgets
    constructor
    · intro e hv htransient
      rw [hv] at hsurface
      obtain ⟨reply, hreply, ht⟩ := hsurface.mp htransient
      exact hgets reply hreply ht
    · rintro pre e post hsplit ⟨reply, hput | hget, ht⟩
      · apply htried pre e post hsplit
        rw [Answered, hput]
        exact congrArg some (putOutcome_transient_iff.mpr ht)
      · refine absurd ht (hgets reply ?_)
        rw [gets, List.mem_filterMap]
        exact ⟨e, by rw [hsplit]; simp, hget⟩

section

open Reference

def busyEnv : SendEnv crates Unit :=
  { (bobServer (· = 0)).env with
    put_json := fun _ _ _ _ => (.ok ⟨409, body (mismatchText ⟨[2], [], []⟩)⟩, ())
    get_json := fun _ _ _ => (.ok ⟨503, []⟩, ()) }

/-- The 503 leaves the loop after one attempt and a clock that never moved. -/
theorem busy_prekeys_surface :
    let o := (submit_with_retry_generic "hi" 1700000000000 ⟨bob, phone⟩ ⟨alice, laptop⟩ account).exec busyEnv.handler
      ⟨stock bob [(phone, (1, 0))], ()⟩
    o.value = .error (.Unexpected 503) ∧ (puts o.events).length = 1 ∧ ¬RetriesTransient o := by
  intro o
  have hrun : o.value = .error (.Unexpected 503) ∧ (puts o.events).length = 1 := by decide +kernel
  refine ⟨hrun.1, hrun.2, ?_⟩
  rintro ⟨hvalue, -⟩
  exact hvalue _ hrun.1 (.inr (by decide))

end

end XousSignalClient
