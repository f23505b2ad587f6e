import XousSignalClient.Delivery
import XousSignalClient.Interaction.Embedding
import XousSignalClient.Interaction.History
import XousSignalClient.Send.Frame
import XousSignalClient.SigChat.Credentials

namespace XousSignalClient

open Encoding Interaction Fallible

variable {C : Crates} {σ ω : Type}

inductive SubmitCall (C : Crates) where
  | pddb (c : PddbCall)
  | send (c : SendCall C)

abbrev SubmitCall.Reply : SubmitCall C → Type
  | .pddb c => c.Reply
  | .send c => c.Reply

def submitSignature (C : Crates) : Signature := ⟨SubmitCall C, SubmitCall.Reply⟩

abbrev SubmitM (C : Crates) (α : Type) := Fallible (submitSignature C) SendError α

def readingAccount {α : Type} (x : Fallible pddbSignature SendError α) : SubmitM C α :=
  ExceptT.mk (x.run.interp (fun c => Program.perform (S := submitSignature C) (.pddb c)))

def sending {α : Type} (x : SendM C α) : SubmitM C α :=
  ExceptT.mk (x.run.interp (fun c => Program.perform (S := submitSignature C) (.send c)))

def submit_with_retry (plaintext : String) (timestamp_ms : UInt64) (recipient_addr : ProtocolAddress) :
    SubmitM C Unit := do
  let account ← readingAccount AccountInfo.read_from_pddb
  match DeviceId.new account.device_id with
  | none => throw (.Account ("device_id " ++ toString account.device_id ++ " out of range"))
  | some local_dev =>
    sending (submit_with_retry_with_stores plaintext timestamp_ms recipient_addr
      ⟨account.aci_service_id, local_dev⟩ account)

def SendEnv.submit (env : SendEnv C ω) : Handler (submitSignature C) (World ω) where
  answer
    | .pddb c, w => ((Pddb.answer c w.pddb).1, { w with pddb := (Pddb.answer c w.pddb).2 })
    | .send c, w => env.answer c w

section Leg

structure Allows (P : SendCall C → Prop) (sub : Submission) : Prop where
  now : P .now
  device_ids_for : P (.device_ids_for sub.recipient_uuid)
  load_session : ∀ a, P (.load_session a)
  message_encrypt : ∀ dev, P (.message_encrypt sub.padded_content ⟨sub.recipient_uuid, dev⟩ sub.local_addr)
  process_prekey_bundle : ∀ a bundle, a.name = sub.recipient_uuid → P (.process_prekey_bundle a bundle)
  delete : ∀ a, a.name = sub.recipient_uuid → P (.delete a)
  put_json : ∀ base body, sub.account.chat_base_url C = .ok base →
    P (.put_json (messagesUrl C base sub.recipient_uuid) (sub.account.basic_auth C) body)
  get_json : ∀ url device, keysUrl (C := C) sub.account sub.recipient_uuid device = .ok url →
    P (.get_json url (sub.account.basic_auth C))
  mismatch_from_slice : ∀ body, P (.mismatch_from_slice body)
  sleep : ∀ ms, P (.sleep ms)

variable {P : SendCall C → Prop} {sub : Submission}

theorem Allows.submit_messages (h : Allows P sub) (entities : List OutgoingMessageEntity) :
    (submit_messages sub.recipient_uuid entities sub.timestamp_ms sub.account : SendM C Unit).run.Only P := by
  apply only_ofExcept_bind
  intro base hbase
  apply only_bind (only_ask (h.put_json base _ hbase))
  intro reply
  exact only_bind (only_ofExcept _) (fun _ => only_ofExcept _)

theorem Allows.fetchMissing (h : Allows P sub) (dev : DeviceId) (ds : List ℕ) :
    (fetchMissing ⟨sub.recipient_uuid, dev⟩ sub.account ds : SendM C Unit).run.Only P := by
  induction ds with
  | nil => exact .ret _
  | cons d ds ih =>
    apply only_ofExcept_bind
    intro url hurl
    apply only_bind (only_ask (h.get_json url _ hurl))
    intro reply
    apply only_bind (only_ofExcept _)
    intro resp
    split_ifs
    · apply only_bind (only_ofExcept _)
      intro pre
      exact only_bind (only_process_one pre (fun a bundle hname _ => h.process_prekey_bundle a bundle hname))
        (fun _ => ih)
    · exact ih
    · exact .ret _
    · exact .ret _

theorem Allows.parse_mismatch (h : Allows P sub) (body : Bytes) :
    (parse_mismatch body : SendM C DeviceMismatchResponse).run.Only P :=
  only_bind (only_ask (h.mismatch_from_slice body)) (fun _ => only_ofExcept _)

theorem Allows.actOn (h : Allows P sub) (dev : DeviceId) (attempt : ℕ) (decision : AttemptDecision) :
    (actOn sub ⟨sub.recipient_uuid, dev⟩ attempt decision : SendM C (Option Bool)).run.Only P := by
  have hdelete : ∀ ds, (deleteListed sub.recipient_uuid ds : SendM C Unit).run.Only P :=
    fun ds => only_deleteListed_at (fun a hname _ => h.delete a hname)
  cases decision with
  | Done => exact .ret _
  | Mismatch409 body =>
    apply only_bind (h.parse_mismatch body)
    intro mm
    apply only_bind
    · exact only_bind (hdelete mm.extra_devices) (fun _ => h.fetchMissing dev mm.missing_devices)
    · exact fun _ => .ret _
  | Mismatch410 body =>
    apply only_bind (h.parse_mismatch body)
    intro mm
    exact only_bind (hdelete mm.stale_devices) (fun _ => .ret _)
  | Backoff => exact only_bind (only_ask (h.sleep _)) (fun _ => .ret _)
  | Fatal e => exact .ret _

theorem Allows.submitAttempt (h : Allows P sub) (attempt : ℕ) :
    (submitAttempt sub attempt : SendM C (Option Bool)).run.Only P := by
  apply only_bind (only_ask h.device_ids_for)
  intro device_ids
  cases addressedDevices sub.fallback_device_id sub.excluded_device_id device_ids with
  | none => exact .ret _
  | some devices =>
    apply only_bind (only_ofExcept _)
    intro dev
    apply only_bind (only_encryptForAll devices h.load_session h.message_encrypt)
    intro entities
    exact only_bind (only_lift (h.submit_messages entities)) (fun outcome => h.actOn dev attempt _)

theorem Allows.submitLoop (h : Allows P sub) (start left : ℕ) :
    (submitLoop sub start left : SendM C Bool).run.Only P := by
  induction left with
  | zero => exact only_bind (only_ask h.now) (fun _ => .ret _)
  | succ left ih =>
    apply only_bind (only_ask h.now)
    intro t
    split_ifs
    · exact .ret _
    · apply only_bind (h.submitAttempt _)
      intro next
      cases next with
      | some delivered => exact .ret _
      | none => exact ih

theorem Allows.submit_padded (h : Allows P sub) :
    (submit_padded_with_retry_generic sub : SendM C Bool).run.Only P :=
  only_bind (only_ask h.now) (fun start => h.submitLoop start MAX_ATTEMPTS)

theorem Allows.establishAll (h : Allows P sub) (excluded : Option ℕ) (key : C.IdentityKey)
    (entries : List DeviceEntry) :
    (establishAll sub.recipient_uuid excluded key entries : SendM C (List ℕ)).run.Only P := by
  induction entries with
  | nil => exact .ret _
  | cons entry entries ih =>
    unfold XousSignalClient.establishAll
    split_ifs
    · exact ih
    · apply only_bind (only_ofExcept _)
      intro bundle
      cases haddr : device_protocol_address sub.recipient_uuid entry.device_id with
      | none => exact .ret _
      | some addr =>
        obtain ⟨hname, -⟩ := device_protocol_address_eq_some.mp haddr
        apply only_bind (only_ask (h.process_prekey_bundle addr bundle hname))
        intro processed
        exact only_bind (only_ofExcept _) (fun _ => only_bind ih (fun _ => .ret _))

theorem Allows.discover (h : Allows P sub) (excluded : Option ℕ) :
    (discover_and_establish_account_devices sub.recipient_uuid excluded sub.account : SendM C (List ℕ)).run.Only P := by
  apply only_ofExcept_bind
  intro url hurl
  apply only_bind (only_ask (h.get_json url _ hurl))
  intro reply
  apply only_bind (only_ofExcept _)
  intro resp
  split_ifs
  · apply only_bind (only_ofExcept _)
    intro pre
    apply only_bind (only_ofExcept _)
    exact fun key => h.establishAll excluded key pre.devices
  · exact .ret _
  · exact .ret _
  · exact .ret _

end Leg

section Requests

def SendCall.About (account : AccountInfo) (uuid : String) : SendCall C → Prop
  | .put_json url auth _ => auth = account.basic_auth C ∧
      ∃ base, account.chat_base_url C = .ok base ∧ url = messagesUrl C base uuid
  | .get_json url auth => auth = account.basic_auth C ∧
      ∃ base device, account.chat_base_url C = .ok base ∧ url = keysUrlAt C base uuid device
  | _ => True

theorem allows_about (sub : Submission) : Allows (SendCall.About (C := C) sub.account sub.recipient_uuid) sub where
  now := trivial
  device_ids_for := trivial
  load_session := fun _ => trivial
  message_encrypt := fun _ => trivial
  process_prekey_bundle := fun _ _ _ => trivial
  delete := fun _ _ => trivial
  put_json := fun base _ hbase => ⟨rfl, base, hbase, rfl⟩
  get_json := by
    intro url device hurl
    unfold keysUrl at hurl
    cases hbase : sub.account.chat_base_url C with
    | error e =>
      rw [hbase] at hurl
      cases hurl
    | ok base =>
      rw [hbase] at hurl
      exact ⟨rfl, base, device, hbase, (Except.ok.inj hurl).symm⟩
  mismatch_from_slice := fun _ => trivial
  sleep := fun _ => trivial

/-- A request is in the account's name and about the account of one of the legs, and a message carries nothing but
what was encrypted, earlier, for devices of the account it goes to. -/
def Directs (account : AccountInfo) (subs : List Submission) (earlier : List (SendEvent C σ)) (e : SendEvent C σ) :
    Prop :=
  SendCall.isHttp e.call = true → ∃ sub ∈ subs, SendCall.About account sub.recipient_uuid e.call ∧
    ∀ url auth body, e.call = SendCall.put_json url auth body →
      ∀ entity ∈ body.messages, ∃ ct, Carried sub ct earlier entity

def Directed (account : AccountInfo) (subs : List Submission) (es : List (SendEvent C σ)) : Prop :=
  Every (Directs account subs) es

variable {account : AccountInfo} {subs : List Submission} {h : Handler (sendSignature C) σ}

theorem Directed.append {es es' : List (SendEvent C σ)} (hes : Directed account subs es)
    (hes' : Directed account subs es') : Directed account subs (es ++ es') := by
  apply Every.append _ hes hes'
  intro front earlier e he hhttp
  obtain ⟨sub, hsub, habout, hcarried⟩ := he hhttp
  refine ⟨sub, hsub, habout, ?_⟩
  intro url auth body hput entity hentity
  obtain ⟨ct, hct⟩ := hcarried url auth body hput entity hentity
  exact ⟨ct, hct.mono (List.subset_append_right front earlier)⟩

theorem directed_silent {e : SendEvent C σ} (he : SendCall.isHttp e.call = false) : Directed account subs [e] := by
  intro earlier e' later hsplit hhttp
  have hmem : e' ∈ [e] := hsplit ▸ List.mem_append_right earlier List.mem_cons_self
  rw [List.mem_singleton.mp hmem, he] at hhttp
  cases hhttp

theorem directed_submit_padded {sub : Submission} (hsub : sub ∈ subs) (s : σ) :
    Ensures h (submit_padded_with_retry_generic sub) s (fun _ _ es => Directed sub.account subs es) := by
  apply ((submit_padded_run (h := h) sub s).and (ensures_only (allows_about sub).submit_padded)).mono
  rintro v t es ⟨⟨start, loop, rfl, hrun⟩, honly⟩
  intro earlier e later hsplit hhttp
  have he : e ∈ sendEvent s .now start :: loop := hsplit ▸ List.mem_append_right earlier List.mem_cons_self
  refine ⟨sub, hsub, honly e he, ?_⟩
  intro url auth body hput entity hentity
  have hrequest : PutEvent e := by
    rw [PutEvent, hput]
    trivial
  obtain ⟨pre, rfl, hloop⟩ := split_cons id hrequest hsplit
  obtain ⟨s', ids, devices, fan, horigin⟩ := hrun.put_origin hloop hput
  obtain ⟨ct, hct⟩ := horigin.encrypted.carried rfl entity hentity
  obtain ⟨before, rfl⟩ := horigin.enumerated
  refine ⟨ct, hct.mono ?_⟩
  intro x hx
  simp [hx]

theorem directed_discover {sub : Submission} (hsub : sub ∈ subs) (excluded : Option ℕ) (s : σ) :
    Ensures h (discover_and_establish_account_devices sub.recipient_uuid excluded sub.account) s
      (fun _ _ es => Directed sub.account subs es) := by
  apply ((repairs_discover sub.recipient_uuid excluded sub.account s).and
    (ensures_only ((allows_about sub).discover excluded))).mono
  rintro v t es ⟨⟨hrepair, -⟩, honly⟩
  intro earlier e later hsplit hhttp
  have he : e ∈ es := hsplit ▸ List.mem_append_right earlier List.mem_cons_self
  refine ⟨sub, hsub, honly e he, ?_⟩
  intro url auth body hput
  exact absurd (hput ▸ hrepair e he : SendCall.IsRepair (SendCall.put_json url auth body)) id

def transcriptSubmission (plaintext : String) (timestamp_ms : UInt64) (recipient_uuid : String)
    (local_addr : ProtocolAddress) (account : AccountInfo) : Submission where
  padded_content := build_padded_sync_transcript_content recipient_uuid plaintext timestamp_ms
  timestamp_ms := timestamp_ms
  recipient_uuid := account.aci_service_id
  fallback_device_id := account.device_id
  excluded_device_id := some account.device_id
  local_addr := local_addr
  account := account

theorem directed_submit_sync_transcript (plaintext : String) (timestamp_ms : UInt64) (recipient_uuid : String)
    (local_addr : ProtocolAddress) (account : AccountInfo) {subs : List Submission}
    (hsub : transcriptSubmission plaintext timestamp_ms recipient_uuid local_addr account ∈ subs) (s : σ) :
    Ensures h (submit_sync_transcript_generic plaintext recipient_uuid timestamp_ms account.aci_service_id
      account.device_id local_addr account) s (fun _ _ es => Directed account subs es) := by
  have hloop : ∀ t, Ensures h (submit_padded_with_retry_generic (transcriptSubmission plaintext timestamp_ms
      recipient_uuid local_addr account) >>= fun _ => pure () : SendM C Unit) t
        (fun _ _ es => Directed account subs es) := by
    intro t
    apply ensures_bind (directed_submit_padded hsub t)
    · exact fun _ _ _ hes => hes
    · intro delivered u es hes
      refine ensures_pure ?_
      rwa [List.append_nil]
  apply ensures_ask_bind
  generalize (h.answer (SendCall.device_ids_for account.aci_service_id) s).1 = known
  generalize (h.answer (SendCall.device_ids_for account.aci_service_id) s).2 = s₁
  have henum : Directed account subs
      [sendEvent (C := C) s (.device_ids_for account.aci_service_id) known] :=
    directed_silent rfl
  split_ifs
  · apply ensures_attempt_bind (directed_discover hsub (some account.device_id) s₁)
    intro established t es hes
    match established with
    | .ok [] =>
      refine ensures_pure ?_
      rw [List.append_nil]
      exact henum.append hes
    | .error e =>
      refine ensures_pure ?_
      rw [List.append_nil]
      exact henum.append hes
    | .ok (d :: ds) =>
      apply (hloop t).mono
      intro v u es' hes'
      exact henum.append (hes.append hes')
  · apply (hloop s₁).mono
    intro v u es' hes'
    exact henum.append hes'

def legs (plaintext : String) (timestamp_ms : UInt64) (recipient_addr local_addr : ProtocolAddress)
    (account : AccountInfo) : List Submission :=
  [recipientSubmission plaintext timestamp_ms recipient_addr local_addr account,
    transcriptSubmission plaintext timestamp_ms recipient_addr.name local_addr account]

theorem directed_submit_with_retry_with_stores (plaintext : String) (timestamp_ms : UInt64)
    (recipient_addr local_addr : ProtocolAddress) (account : AccountInfo) (s : σ) :
    Ensures h (submit_with_retry_with_stores plaintext timestamp_ms recipient_addr local_addr account) s
      (fun _ _ es => Directed account (legs plaintext timestamp_ms recipient_addr local_addr account) es) := by
  have hrecipient : Ensures h (submit_with_retry_generic plaintext timestamp_ms recipient_addr local_addr account) s
      (fun _ _ es => Directed account (legs plaintext timestamp_ms recipient_addr local_addr account) es) := by
    apply ensures_bind (directed_submit_padded (List.mem_cons_self : recipientSubmission plaintext timestamp_ms
      recipient_addr local_addr account ∈ legs plaintext timestamp_ms recipient_addr local_addr account) s)
    · exact fun _ _ _ hes => hes
    · intro delivered t es hes
      refine ensures_pure ?_
      rw [List.append_nil]
      exact hes
  apply ensures_bind hrecipient
  · exact fun _ _ _ hes => hes
  · intro _ t es hes
    apply ensures_attempt_bind (directed_submit_sync_transcript plaintext timestamp_ms recipient_addr.name local_addr
      account (List.mem_cons_of_mem _ List.mem_cons_self) t)
    intro r u es' hes'
    refine ensures_pure ?_
    rw [List.append_nil]
    exact hes.append hes'

end Requests

section Account

variable {α β : Type} {p : Pddb}

def Lookup (x : Fallible pddbSignature SendError α) (p : Pddb) : Prop :=
  Ensures Pddb.handler x p (fun v q _ => q = p ∧ ∀ e, v = .error e → ∃ text, e = SendError.Account text)

theorem lookup_bind {x : Fallible pddbSignature SendError β} {f : β → Fallible pddbSignature SendError α}
    (hx : Lookup x p) (hf : ∀ b, Lookup (f b) p) : Lookup (x >>= f) p := by
  apply ensures_bind hx
  · rintro e q es ⟨rfl, he⟩
    refine ⟨rfl, ?_⟩
    rintro e' ⟨⟩
    exact he e rfl
  · rintro b q es ⟨rfl, -⟩
    exact hf b

theorem lookup_ofExcept {r : Except SendError α} (hr : ∀ e, r = .error e → ∃ text, e = SendError.Account text) :
    Lookup (Fallible.ofExcept r) p :=
  ensures_ofExcept ⟨rfl, hr⟩

theorem lookup_string {text dict key : String} :
    Lookup (orMissing (.Account text) (pddb_get_string dict key)) p := by
  apply ensures_lift_bind
  rw [run_get_string]
  apply lookup_ofExcept
  intro e he
  cases hvalue : p.text dict key with
  | none =>
    simp only [hvalue] at he
    exact ⟨text, (Except.error.inj he).symm⟩
  | some s =>
    simp only [hvalue] at he
    cases he

theorem lookup_account (p : Pddb) : Lookup AccountInfo.read_from_pddb p := by
  unfold AccountInfo.read_from_pddb
  apply lookup_bind lookup_string
  intro aci
  apply lookup_bind lookup_string
  intro dev_str
  apply lookup_bind
  · apply lookup_ofExcept
    intro e he
    unfold parseDeviceId at he
    split at he
    · cases he
    · exact ⟨_, (Except.error.inj he).symm⟩
  · intro device_id
    apply lookup_bind lookup_string
    intro password
    apply lookup_bind lookup_string
    intro host
    exact ensures_pure ⟨rfl, fun e he => by cases he⟩

end Account

section Trace

variable {α : Type} (env : SendEnv C ω) (w : World ω)

abbrev SubmitEvent (C : Crates) (σ : Type) := Event (submitSignature C) σ

def SubmitEvent.asSend : SubmitEvent C σ → Option (SendEvent C σ)
  | ⟨s, .send c, r⟩ => some ⟨s, c, r⟩
  | ⟨_, .pddb _, _⟩ => none

def SubmitEvent.ofSend : SendEvent C σ → SubmitEvent C σ
  | ⟨s, c, r⟩ => ⟨s, .send c, r⟩

def sends (es : List (SubmitEvent C σ)) : List (SendEvent C σ) := es.filterMap SubmitEvent.asSend

theorem sends_ofSend (es : List (SendEvent C σ)) : sends (es.map SubmitEvent.ofSend) = es := by
  unfold sends
  rw [List.filterMap_map]
  exact List.filterMap_some

def World.pddbPart : Program.Part (World ω) Pddb where
  get := World.pddb
  set := fun w p => { w with pddb := p }
  get_set := fun _ _ => rfl
  set_set := fun _ _ _ => rfl
  set_get := fun _ => rfl

theorem exec_readingAccount (x : Fallible pddbSignature SendError α) :
    ((readingAccount x : SubmitM C α).exec env.submit w).value = (x.exec Pddb.handler w.pddb).value ∧
      ((readingAccount x : SubmitM C α).exec env.submit w).state =
        { w with pddb := (x.exec Pddb.handler w.pddb).state } :=
  Program.run_interp World.pddbPart (fun _ _ => ⟨rfl, rfl⟩) x.run w

theorem sends_readingAccount (x : Fallible pddbSignature SendError α) :
    sends ((readingAccount x : SubmitM C α).exec env.submit w).events = [] := by
  have hreads : Program.Only (fun c => ∃ read, c = SubmitCall.pddb read) (readingAccount (C := C) x).run :=
    Program.only_interp (fun c => Program.Only.perform (S := submitSignature C) (.pddb c) ⟨c, rfl⟩) x.run
  unfold sends
  rw [List.filterMap_eq_nil_iff]
  rintro ⟨t, c, r⟩ he
  obtain ⟨read, rfl⟩ := hreads.events env.submit w _ he
  rfl

theorem exec_sending (x : SendM C α) :
    (sending x).exec env.submit w = ⟨(x.exec env.handler w).value, (x.exec env.handler w).state,
      (x.exec env.handler w).events.map SubmitEvent.ofSend⟩ :=
  Program.run_interp_events (fun _ _ => rfl) x.run w

theorem sends_append (es es' : List (SubmitEvent C σ)) : sends (es ++ es') = sends es ++ sends es' :=
  List.filterMap_append

/-- A send speaks for the account in PDDB, and only about the two accounts it concerns: the recipient's and its
own. Without a whole account it asks for nothing. -/
theorem requests_directed (plaintext : String) (timestamp_ms : UInt64) (recipient_addr : ProtocolAddress) :
    let o := (submit_with_retry plaintext timestamp_ms recipient_addr : SubmitM C Unit).exec env.submit w
    (∃ account local_dev, Reads AccountInfo.read_from_pddb w.pddb (.ok account) ∧
      DeviceId.new account.device_id = some local_dev ∧
      Directed account (legs plaintext timestamp_ms recipient_addr ⟨account.aci_service_id, local_dev⟩ account)
        (sends o.events)) ∨
    (sends o.events = [] ∧ o.state = w ∧ ∃ text, o.value = .error (.Account text)) := by
  intro o
  obtain ⟨hvalue, hstate⟩ := exec_readingAccount (C := C) env w AccountInfo.read_from_pddb
  have hquiet := sends_readingAccount env w (AccountInfo.read_from_pddb)
  obtain ⟨hpddb, herr⟩ := lookup_account w.pddb
  rw [hpddb] at hstate
  generalize hread : (readingAccount (C := C) AccountInfo.read_from_pddb).exec env.submit w = read
    at hvalue hstate hquiet
  obtain ⟨v, w', es⟩ := read
  dsimp only at hvalue hstate hquiet
  subst hstate
  cases v with
  | error e =>
    obtain ⟨text, rfl⟩ := herr e hvalue.symm
    have ho : o = ⟨.error (.Account text), w, es⟩ := exec_bind_error hread
    exact .inr (ho ▸ ⟨hquiet, rfl, text, rfl⟩)
  | ok account =>
    have ho : o = _ := exec_bind_ok hread
    cases hdev : DeviceId.new account.device_id with
    | none =>
      rw [hdev] at ho
      refine .inr (ho ▸ ⟨?_, rfl, _, rfl⟩)
      rw [sends_append, hquiet]
      rfl
    | some local_dev =>
      refine .inl ⟨account, local_dev, ⟨hvalue.symm, hpddb⟩, hdev, ?_⟩
      rw [hdev] at ho
      dsimp only at ho
      rw [exec_sending] at ho
      rw [ho, sends_append, hquiet, sends_ofSend, List.nil_append]
      exact directed_submit_with_retry_with_stores plaintext timestamp_ms recipient_addr _ account _

end Trace

end XousSignalClient
