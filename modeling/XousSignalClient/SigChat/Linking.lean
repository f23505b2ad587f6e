import XousSignalClient.Account.Fresh
import XousSignalClient.Interaction.Yields
import XousSignalClient.SigChat.Setup

namespace XousSignalClient.SigChat

open Encoding Interaction Fallible

section Requests

variable {L : LinkCrates} {σ : Type} {h : Handler (linkSignature L) σ}

def Responds (response : LinkDeviceResponse) (e : Event (linkSignature L) σ) : Prop :=
  ∃ d url auth body, e = ⟨d, .try_put url auth body, .ok response⟩

theorem yields_generate_link_password :
    Yields h (generate_link_password : LinkM L String) (fun password _ => ∃ bytes, password = base64Encode bytes) := by
  refine yields_after (fun _ _ _ hpassword => hpassword) ?_
  intro bytes
  cases bytes with
  | none => exact yields_throw
  | some bytes => exact yields_pure ⟨bytes, rfl⟩

theorem yields_try_put (url auth : String) (body : LinkDeviceRequestBody) :
    Yields h (linkCall (.try_put url auth body)) (fun answer es => ∀ response,
      (answer : Except Error LinkDeviceResponse) = .ok response → ∃ e ∈ es, Responds response e) := by
  intro s
  apply ensures_call (S := linkSignature L)
  intro answer hanswer response hresponse
  refine ⟨_, List.mem_singleton_self _, s, url, auth, body, ?_⟩
  rw [Except.ok.inj hanswer]
  exact congrArg (fun r => (⟨s, .try_put url auth body, r⟩ : Event (linkSignature L) σ)) hresponse

theorem yields_put_devices_link (base_url : L.Url) (phone_number password : String) (body : LinkDeviceRequestBody) :
    Yields h (put_devices_link base_url phone_number password body)
      (fun response es => ∃ e ∈ es, Responds response e) := by
  refine yields_bind (yields_try_put _ _ body) ?_
  intro answer es hanswer
  cases answer with
  | ok response =>
    apply yields_pure
    rw [List.append_nil]
    exact hanswer response rfl
  | error e =>
    by_cases he : e.kind = .PermissionDenied
    · simp only [if_pos he]
      refine yields_bind (yields_try_put _ _ body) ?_
      intro retried es' hretried
      cases retried with
      | ok response =>
        apply yields_pure
        rw [List.append_nil]
        exact grows_mem es es' (hretried response rfl)
      | error e' => exact yields_throw
    · simp only [if_neg he]
      exact yields_throw

theorem yields_requestLink (device_name : String) (msg : ProvisionMessage) :
    Yields h (Account.requestLink device_name msg : LinkM L (Account.Linked L)) (fun linked es =>
      (∃ bytes, linked.password = base64Encode bytes) ∧ ∃ e ∈ es, Responds linked.response e) := by
  have hgrows : ∀ linked : Account.Linked L, Grows (fun es : List (Event (linkSignature L) σ) =>
      (∃ bytes, linked.password = base64Encode bytes) ∧ ∃ e ∈ es, Responds linked.response e) :=
    fun linked es es' hlinked => ⟨hlinked.1, grows_mem es es' hlinked.2⟩
  unfold Account.requestLink
  apply yields_after hgrows
  intro account
  cases msg.provisioning_code with
  | none => exact yields_throw
  | some verification_code =>
    cases msg.profile_key with
    | none => exact yields_throw
    | some profile_key_b64 =>
      simp only
      cases L.b64_url_decode profile_key_b64 with
      | none => exact yields_throw
      | some profile_key_bytes =>
        refine yields_bind yields_generate_link_password ?_
        intro password es hpassword
        refine Yields.mono ?_ (fun linked es' => hgrows linked es es')
        refine yields_after hgrows (fun registration_id => ?_)
        refine yields_after hgrows (fun pni_registration_id => ?_)
        refine yields_after hgrows (fun name => ?_)
        refine yields_after hgrows (fun encrypted_name => ?_)
        refine yields_after hgrows (fun attrs => ?_)
        refine yields_after hgrows (fun aci_priv => ?_)
        refine yields_after hgrows (fun pni_priv => ?_)
        refine yields_after hgrows (fun keys => ?_)
        refine yields_after hgrows (fun generated => ?_)
        refine yields_after hgrows (fun base_url => ?_)
        refine yields_bind (yields_put_devices_link _ _ _ _) ?_
        intro response es' hresponse
        apply yields_pure
        rw [List.append_nil]
        exact ⟨hpassword, hresponse⟩

end Requests

section Provisioning

variable {M : ManagerCrates} {σ : Type} {h : Handler (managerSignature M) σ}

def Apart : ManagerCall M → Prop
  | .link _ => False
  | _ => True

theorem only_manage (c : ManagerCall M) (hc : Apart c) : (manage c).run.Only Apart :=
  only_call (S := managerSignature M) c hc

theorem only_closeAndFail {α : Type} : (closeAndFail : ManagerM M α).run.Only Apart :=
  only_bind (only_manage .close trivial) (fun _ => .ret _)

theorem only_cancel (cid : ℕ) : (SignalWsServer.cancel cid : ManagerM M (Except Error Unit)).run.Only Apart :=
  only_bind (only_manage (.send_cancel cid) trivial)
    (fun _ => only_bind (only_manage (.disconnect cid) trivial) (fun _ => .ret _))

theorem only_readUuid : (readUuid : ManagerM M String).run.Only Apart := by
  apply only_bind (only_manage .read_once trivial)
  rintro (e | message)
  · exact only_closeAndFail
  · cases message with
    | Binary uuid =>
      simp only
      cases M.decode_uuid uuid with
      | ok id => exact .ret _
      | error e => exact only_closeAndFail
    | _ => exact only_closeAndFail

theorem only_deviceLinkUri (uuid : String) (identity : IdentityKeyPair) :
    (deviceLinkUri uuid identity : ManagerM M String).run.Only Apart := by
  unfold deviceLinkUri
  simp only
  split
  · exact only_closeAndFail
  · split
    · exact .ret _
    · exact only_closeAndFail

theorem only_connectModals : (connectModals : ManagerM M Unit).run.Only Apart := by
  apply only_bind (only_manage .xous_names trivial)
  rintro (e | _)
  · exact only_closeAndFail
  · apply only_bind (only_manage .modals trivial)
    rintro (e | _)
    · exact only_closeAndFail
    · exact .ret _

theorem only_awaitEnvelope (token : ℕ) (uri : String) :
    (awaitEnvelope token uri : ManagerM M WsResult).run.Only Apart := by
  apply only_bind (only_manage (.spawn 180) trivial)
  rintro (e | cid)
  · exact .ret _
  · apply only_bind (only_bind (only_manage .current trivial)
      (fun last => only_manage (.subscribe last token cid) trivial))
    intro _
    apply only_bind (only_manage (.show_notification uri) trivial)
    rintro (e | _)
    · exact only_bind (only_cancel cid) (fun _ => .ret _)
    · apply only_bind (only_manage (.wait_and_take_binary cid) trivial)
      intro result
      exact only_bind (only_cancel cid) (fun _ => .ret _)

theorem only_provision_one_attempt (token : ℕ) :
    (provision_one_attempt token : ManagerM M (Bytes × IdentityKeyPair)).run.Only Apart := by
  apply only_bind (only_manage .new_provision trivial)
  rintro (e | _)
  · exact .ret _
  · apply only_bind only_readUuid
    intro uuid
    apply only_bind (only_manage .generate_identity_key_pair trivial)
    intro identity
    apply only_bind (only_deviceLinkUri uuid identity)
    intro uri
    apply only_bind only_connectModals
    intro _
    apply only_bind (only_awaitEnvelope token uri)
    intro result
    cases result with
    | _ => exact .ret _

theorem only_retryAttempt : (retryAttempt : ManagerM M (Bytes × IdentityKeyPair)).run.Only Apart := by
  apply only_bind (only_manage .wait_for_connection trivial)
  rintro (e | _)
  · exact .ret _
  · apply only_bind (only_manage .token_new trivial)
    intro token
    apply only_bind (only_lift (only_provision_one_attempt token))
    rintro (e | v)
    · exact .ret _
    · exact .ret _

def Delivers (registration : Bytes) (e : Event (managerSignature M) σ) : Prop :=
  ∃ d cid, e = ⟨d, .wait_and_take_binary cid, .Binary registration⟩

theorem grows_delivers (registration : Bytes) :
    Grows (fun es : List (Event (managerSignature M) σ) => ∃ e ∈ es, Delivers registration e) := grows_mem

theorem yields_awaitEnvelope (token : ℕ) (uri : String) :
    Yields h (awaitEnvelope token uri : ManagerM M WsResult)
      (fun result es => ∀ registration, result = .Binary registration → ∃ e ∈ es, Delivers registration e) := by
  have hgrows : ∀ result : WsResult, Grows (fun es : List (Event (managerSignature M) σ) =>
      ∀ registration, result = .Binary registration → ∃ e ∈ es, Delivers registration e) :=
    fun result es es' hes registration hresult => grows_delivers registration es es' (hes registration hresult)
  unfold awaitEnvelope
  refine yields_after hgrows ?_
  rintro (e | cid)
  · exact yields_throw
  · refine yields_after hgrows (fun _ => yields_after hgrows ?_)
    rintro (e | _)
    · exact yields_after hgrows (fun _ => yields_throw)
    · have hwait : Yields h (manage (.wait_and_take_binary cid)) (fun result es => ∀ registration,
          (result : WsResult) = .Binary registration → ∃ e ∈ es, Delivers registration e) := by
        rintro s result ⟨⟩ registration hregistration
        refine ⟨_, List.mem_singleton_self _, s, cid, ?_⟩
        exact congrArg (fun r => (⟨s, .wait_and_take_binary cid, r⟩ : Event (managerSignature M) σ)) hregistration
      refine yields_bind hwait ?_
      intro result es hresult
      refine yields_bind (yields_trivial _) ?_
      intro _ es' _
      apply yields_pure
      intro registration hregistration
      obtain ⟨e, he, hdelivers⟩ := hresult registration hregistration
      exact ⟨e, List.mem_append_left _ he, hdelivers⟩

theorem yields_provision_one_attempt (token : ℕ) :
    Yields h (provision_one_attempt token : ManagerM M (Bytes × IdentityKeyPair))
      (fun v es => ∃ e ∈ es, Delivers v.1 e) := by
  have hgrows := fun v : Bytes × IdentityKeyPair => grows_delivers (M := M) (σ := σ) v.1
  unfold provision_one_attempt
  refine yields_after hgrows ?_
  rintro (e | _)
  · exact yields_throw
  · refine yields_after hgrows (fun uuid => yields_after hgrows (fun identity => yields_after hgrows (fun uri =>
      yields_after hgrows (fun _ => yields_bind (yields_awaitEnvelope token uri) ?_))))
    intro result es hresult
    cases result with
    | Binary b =>
      apply yields_pure
      rw [List.append_nil]
      exact hresult b rfl
    | _ => exact yields_throw

theorem yields_retryAttempt : Yields h (retryAttempt : ManagerM M (Bytes × IdentityKeyPair))
    (fun v es => ∃ e ∈ es, Delivers v.1 e) := by
  have hgrows := fun v : Bytes × IdentityKeyPair => grows_delivers (M := M) (σ := σ) v.1
  unfold retryAttempt
  refine yields_after hgrows ?_
  rintro (e | _)
  · exact yields_throw
  · refine yields_after hgrows (fun token => ?_)
    refine yields_attempt_bind (yields_provision_one_attempt token) ?_ (fun e es => yields_throw)
    intro v es hv
    apply yields_pure
    rw [List.append_nil]
    exact hv

def provision (token : ℕ) : ManagerM M (Bytes × IdentityKeyPair) := do
  match ← (provision_one_attempt token).attempt with
  | .ok v => pure v
  | .error e => do
    let cancelled : Bool ← manage (.is_cancelled token)
    if cancelled then retryAttempt
    else throw e

theorem only_provision (token : ℕ) : (provision token : ManagerM M (Bytes × IdentityKeyPair)).run.Only Apart := by
  apply only_bind (only_lift (only_provision_one_attempt token))
  rintro (e | v)
  · apply only_bind (only_manage (.is_cancelled token) trivial)
    rintro (_ | _)
    · exact .ret _
    · exact only_retryAttempt
  · exact .ret _

theorem yields_provision (token : ℕ) : Yields h (provision token : ManagerM M (Bytes × IdentityKeyPair))
    (fun v es => ∃ e ∈ es, Delivers v.1 e) := by
  refine yields_attempt_bind (yields_provision_one_attempt token) ?_ ?_
  · intro v es hv
    apply yields_pure
    rw [List.append_nil]
    exact hv
  · intro e es
    refine Yields.mono ?_ (fun v es' => grows_delivers v.1 es es')
    refine yields_after (fun v => grows_delivers v.1) ?_
    rintro (_ | _)
    · exact yields_throw
    · exact yields_retryAttempt

end Provisioning

section Managing

variable {M : ManagerCrates} {τ : Type} (env : ManagerEnv M τ)

theorem ensures_apart {α : Type} {x : ManagerM M α} (hx : x.run.Only Apart) (d : Device M.toHostCrate τ) :
    Ensures env.handler x d (fun _ t _ => t.pddb = d.pddb ∧ t.account = d.account) := by
  refine hx.preserves (I := fun t => t.pddb = d.pddb ∧ t.account = d.account) ?_ d ⟨rfl, rfl⟩
  intro c t hc ht
  cases c with
  | link c => cases hc
  | _ => exact ht

def wholeDevice : Program.Part (Device M.toHostCrate τ) (Device M.toHostCrate τ) where
  get := id
  set := fun _ d => d
  get_set := fun _ _ => rfl
  set_set := fun _ _ _ => rfl
  set_get := fun _ => rfl

theorem run_account_link {α : Type} (x : LinkM M.toLinkCrates α) (d : Device M.toHostCrate τ) :
    let lifted := x.run.interp (fun c => Program.perform (S := managerSignature M) (.link c))
    (lifted.run env.handler d).value = (x.exec env.linkEnv.handler d).value ∧
      (lifted.run env.handler d).state = (x.exec env.linkEnv.handler d).state ∧
      ∀ e ∈ (x.exec env.linkEnv.handler d).events,
        (⟨e.before, .link e.call, e.reply⟩ : Event (managerSignature M) _) ∈ (lifted.run env.handler d).events := by
  intro lifted
  have himpl : ∀ c t, ((Program.perform (S := managerSignature M) (.link c)).run env.handler t).value =
      (env.linkEnv.handler.answer c (wholeDevice.get t)).1 ∧
      ((Program.perform (S := managerSignature M) (.link c)).run env.handler t).state =
        wholeDevice.set t (env.linkEnv.handler.answer c (wholeDevice.get t)).2 := fun c t => ⟨rfl, rfl⟩
  obtain ⟨hv, hs⟩ := Program.run_interp wholeDevice himpl x.run d
  refine ⟨hv, hs, ?_⟩
  intro e he
  have himage := Program.mem_events_interp wholeDevice himpl
    (P := fun e e' => e' = (⟨e.before, ManagerCall.link e.call, e.reply⟩ : Event (managerSignature M) _))
    (fun c t => ⟨_, List.mem_singleton_self _, rfl⟩) x.run d
  obtain ⟨e', he', heq⟩ := himage e he
  rw [heq] at he'
  exact he'

def Answers (response : LinkDeviceResponse) (e : Event (managerSignature M) (Device M.toHostCrate τ)) : Prop :=
  ∃ d url auth body, e = ⟨d, .link (.try_put url auth body), .ok response⟩

def Stored (msg : ProvisionMessage) (linked : Account.Linked M.toLinkCrates) (d t : Device M.toHostCrate τ) : Prop :=
  ∀ key, Named key → t.pddb.value d.account.pddb_dict key =
    written key (Account.credentials msg linked) (d.pddb.value d.account.pddb_dict key)

def finishLink (name : String) (v : Bytes × IdentityKeyPair) : ManagerM M Bool :=
  match M.decode_provision v.2 v.1 with
  | .error _ => throw link_err
  | .ok provision_msg => do
    let linked : Except Failure Bool ← ExceptT.lift ((Account.link name provision_msg).run.interp
      (fun c => Program.perform (S := managerSignature M) (.link c)))
    match linked with
    | .ok result => pure result
    | .error (.error _) => pure false
    | .error .unwrapNone => throw .panicked

theorem ensures_finishLink (name : String) (v : Bytes × IdentityKeyPair) (d : Device M.toHostCrate τ) :
    Ensures env.handler (finishLink name v) d (fun r t es => r = .ok true →
      ∃ (msg : ProvisionMessage) (linked : Account.Linked M.toLinkCrates),
        M.decode_provision v.2 v.1 = .ok msg ∧ (∃ e ∈ es, Answers linked.response e) ∧
        (∃ bytes, linked.password = base64Encode bytes) ∧ Stored msg linked d t) := by
  unfold finishLink
  cases hmsg : M.decode_provision v.2 v.1 with
  | error e =>
    intro hr
    cases hr
  | ok msg =>
    obtain ⟨hv, hs, hes⟩ := run_account_link env (Account.link name msg) d
    have hlink := ensures_link_request env.linkEnv name msg d (yields_requestLink name msg d)
    apply ensures_lift_bind
    rw [hv, hs]
    cases hlinked : ((Account.link name msg).exec env.linkEnv.handler d).value with
    | error e =>
      cases e with
      | error e =>
        intro hr
        cases hr
      | unwrapNone =>
        intro hr
        cases hr
    | ok result =>
      rintro ⟨⟩
      obtain ⟨linked, received, ⟨hpassword, e, he, d', url, auth, body, rfl⟩, hsub, -, hvalues⟩ := hlink hlinked
      refine ⟨msg, linked, rfl, ⟨_, ?_, d', url, auth, body, rfl⟩, hpassword, hvalues⟩
      exact List.mem_append_left _ (hes _ (hsub he))

theorem link_eq (name : String) : (Manager.link name : ManagerM M Bool) = (do
    let _observer ← manage .observer_new
    let token ← manage .token_new
    let v ← provision token
    finishLink name v) := by
  refine bind_congr (fun _ => bind_congr (fun token => ?_))
  unfold provision
  rw [bind_assoc]
  refine bind_congr (fun r => ?_)
  cases r with
  | ok v => rfl
  | error e =>
    refine bind_congr (fun cancelled => ?_)
    cases cancelled <;> rfl

theorem ensures_manager_link (name : String) (d : Device M.toHostCrate τ) :
    Ensures env.handler (Manager.link name) d (fun r t es => r = .ok true →
      ∃ registration identity msg, ∃ linked : Account.Linked M.toLinkCrates,
        (∃ e ∈ es, Delivers registration e) ∧ M.decode_provision identity registration = .ok msg ∧
        (∃ e ∈ es, Answers linked.response e) ∧ (∃ bytes, linked.password = base64Encode bytes) ∧ Stored msg linked d t) := by
  rw [link_eq]
  refine ensures_bind (ensures_apart env (only_manage .observer_new trivial) d) (fun e t es _ hr => by cases hr) ?_
  rintro _ d₁ es₁ ⟨hpddb₁, haccount₁⟩
  refine ensures_bind (ensures_apart env (only_manage .token_new trivial) d₁) (fun e t es _ hr => by cases hr) ?_
  rintro token d₂ es₂ ⟨hpddb₂, haccount₂⟩
  refine ensures_bind ((ensures_apart env (only_provision token) d₂).and (yields_provision token d₂))
    (fun e t es _ hr => by cases hr) ?_
  rintro ⟨registration, identity⟩ d₃ es₃ ⟨⟨hpddb₃, haccount₃⟩, hdelivered⟩
  apply (ensures_finishLink env name (registration, identity) d₃).mono
  intro r t es hfinish hr
  obtain ⟨msg, linked, hmsg, hanswers, hpassword, hstored⟩ := hfinish hr
  have hlater : ∀ {P : Event (managerSignature M) (Device M.toHostCrate τ) → Prop},
      (∃ e ∈ es, P e) → ∃ e ∈ es₁ ++ (es₂ ++ (es₃ ++ es)), P e :=
    fun hP => grows_mem es₁ _ (grows_mem es₂ _ (grows_mem es₃ es hP))
  obtain ⟨e, he, hdelivers⟩ := hdelivered _ rfl
  refine ⟨registration, identity, msg, linked, ⟨e, by simp [he], hdelivers⟩, hmsg, hlater hanswers, hpassword, ?_⟩
  intro key hkey
  rw [← haccount₁, ← haccount₂, ← haccount₃, ← hpddb₁, ← hpddb₂, ← hpddb₃]
  exact hstored key hkey

end Managing

end XousSignalClient.SigChat
