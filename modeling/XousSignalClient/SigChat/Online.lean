import XousSignalClient.Provisioning.StaleCid
import XousSignalClient.SigChat.Linking

namespace XousSignalClient.SigChat

open Encoding Interaction Fallible

section Credentials

variable {L : LinkCrates}

theorem is_registered_ofValues {U : HostCrate} {dict : String} {f : String → Option String} {account : Account U}
    (h : Account.ofValues dict f = .ok account)
    (hdevice : ((f DEVICE_ID_KEY).bind (parseUnsigned (2 ^ 32))).getD 0 ≠ 0)
    (hservice : (f ACI_SERVICE_ID_KEY).isSome) (hpassword : (f PASSWORD_KEY).isSome) :
    account.is_registered = true := by
  unfold Account.ofValues at h
  split at h
  · next hdevice' _ _ _ _ _ =>
    obtain rfl := Except.ok.inj h
    rw [hdevice', Option.bind_some] at hdevice
    unfold Account.is_registered
    dsimp only
    rw [decide_eq_true hdevice, hservice, hpassword]
    exact Bool.or_true _
  · cases h

def DeviceIdReads (p : Pddb) (device_id : ℕ) : Prop :=
  ((reread (toString device_id) (p.value SIGCHAT_ACCOUNT DEVICE_ID_KEY)).bind (parseUnsigned (2 ^ 32))).getD 0 ≠ 0

def ServiceIdReads (service_id : String) : Prop := (reread service_id none).isSome

theorem registered_of_stored {M : ManagerCrates} {τ : Type} {p : Pddb} {host : M.Host} {senv : ServiceEnvironment}
    {account account' : Account M.toHostCrate} {outside : τ} {t : Device M.toHostCrate τ} {msg : ProvisionMessage}
    {linked : Account.Linked M.toLinkCrates} {bytes : Bytes} {made : Pddb}
    (hmade : ∀ key, made.value SIGCHAT_ACCOUNT key =
      written key ((Account.defaults host senv).map (fun entry => (entry.1, some entry.2)))
        (if key ∈ Account.NONE_KEYS then none else p.value SIGCHAT_ACCOUNT key))
    (hdict : account.pddb_dict = SIGCHAT_ACCOUNT) (hstored : Stored msg linked ⟨made, account, outside⟩ t)
    (hdevice : DeviceIdReads p linked.response.device_id) (hservice : ServiceIdReads msg.aci.service_id)
    (hpassword : linked.password = base64Encode bytes)
    (hread : Account.ofValues SIGCHAT_ACCOUNT (t.pddb.field SIGCHAT_ACCOUNT) = .ok account') :
    account'.is_registered = true := by
  have hfield : ∀ key v, Named key → (∀ old, written key (Account.credentials msg linked) old =
      some (Pddb.overlay (utf8 v) (old.getD []))) →
      t.pddb.field SIGCHAT_ACCOUNT key = reread v (made.value SIGCHAT_ACCOUNT key) := by
    intro key v hkey hcredential
    rw [← hdict, Pddb.field, hstored key hkey, hcredential, reread, Option.bind_some]
  have hnone : ∀ key ∈ Account.NONE_KEYS, made.value SIGCHAT_ACCOUNT key = none := by
    intro key hkey
    rw [hmade, if_pos hkey]
    exact written_of_notMem (none_not_defaults host senv hkey) none
  apply is_registered_ofValues hread
  · have hzero : made.value SIGCHAT_ACCOUNT DEVICE_ID_KEY =
        some (Pddb.overlay (utf8 "0") ((p.value SIGCHAT_ACCOUNT DEVICE_ID_KEY).getD [])) := by
      rw [hmade]
      exact written_of_mem (defaults_nodup host senv) List.mem_cons_self _
    have hlength : (utf8 "0").length ≤ (utf8 (toString linked.response.device_id)).length := utf8_toString_pos _
    have hreread : reread (toString linked.response.device_id) (made.value SIGCHAT_ACCOUNT DEVICE_ID_KEY) =
        reread (toString linked.response.device_id) (p.value SIGCHAT_ACCOUNT DEVICE_ID_KEY) := by
      rw [hzero, reread, reread, Option.getD_some, Pddb.overlay_overlay hlength]
    rw [hfield DEVICE_ID_KEY (toString linked.response.device_id) ⟨'d', by decide, by decide⟩
      (fun old => written_credentials old (DEVICE_ID_KEY, toString linked.response.device_id) (by simp)), hreread]
    exact hdevice
  · rw [hfield ACI_SERVICE_ID_KEY msg.aci.service_id ⟨'a', by decide, by decide⟩
      (fun old => written_credentials old (ACI_SERVICE_ID_KEY, msg.aci.service_id) (by simp)), hnone _ (by decide)]
    exact hservice
  · rw [hfield PASSWORD_KEY linked.password ⟨'p', by decide, by decide⟩
      (fun old => written_credentials old (PASSWORD_KEY, linked.password) (by simp)), hnone _ (by decide), hpassword,
      reread, Option.getD_none, Pddb.overlay_nil, from_utf8_take_ascii (base64Encode_ascii bytes)]
    rfl

end Credentials

section Connecting

variable {C : ChatCrates} {τ : Type} (env : Env C τ)

def Still : SetupCall C → Prop
  | .set_manager _ => False
  | .new _ _ _ => False
  | .delete _ => False
  | .set_number _ _ => False
  | .link _ _ => False
  | _ => True

theorem only_ask (c : SetupCall C) (hc : Still c) : c.ask.run.Only Still := only_call (S := setupSignature C) c hc

theorem only_expect {α : Type} (r : Except IoError α) : (expect r : SetupM C α).run.Only Still := by
  cases r with
  | ok a => exact .ret _
  | error e => exact .ret _

theorem only_expectSome {α : Type} (o : Option α) : (expectSome o : SetupM C α).run.Only Still := by
  cases o with
  | some a => exact .ret _
  | none => exact .ret _

theorem only_notify (text : String) : (notify text : SetupM C Unit).run.Only Still :=
  only_bind (only_ask (.show_notification text) trivial) (fun shown => only_expect shown)

theorem only_listItem (text : String) : (listItem text : SetupM C Unit).run.Only Still :=
  only_bind (only_ask (.add_list_item text) trivial) (fun added => only_expect added)

theorem only_probe_host (url : C.Url) : (probe_host url : SetupM C Bool).run.Only Still := by
  apply only_bind (only_ask (.set_status_text _) trivial)
  intro _
  apply only_bind (only_ask (.set_busy_state true) trivial)
  intro _
  apply only_bind (only_expectSome _)
  intro host
  apply only_bind (only_ask (.accessible host true) trivial)
  rintro (_ | _)
  · exact only_bind (only_notify _) (fun _ => only_bind (only_ask (.set_busy_state false) trivial) (fun _ => .ret _))
  · exact only_bind (only_ask (.set_busy_state false) trivial) (fun _ => .ret _)

theorem only_newManager (account : Account C.toHostCrate) (trust_mode : TrustMode) :
    (newManager account trust_mode : SetupM C (Manager C)).run.Only Still :=
  only_bind (only_expectSome _) (fun _ => .ret _)

theorem ensures_still {α : Type} {x : SetupM C α} (hx : x.run.Only Still) (s : SigChat C τ) :
    Ensures env.handler x s (fun _ t _ => t.pddb = s.pddb ∧ t.manager = s.manager) := by
  refine hx.preserves (I := fun t => t.pddb = s.pddb ∧ t.manager = s.manager) ?_ s ⟨rfl, rfl⟩
  intro c t hc ht
  cases c with
  | set_manager manager => cases hc
  | new dict host senv => cases hc
  | delete dict => cases hc
  | set_number account value => cases hc
  | link manager name => cases hc
  | read dict => exact ⟨(exec_read t.pddb dict).2.trans ht.1, ht.2⟩
  | _ => exact ht

/-- What a link receives can be read back from the PDDB, which held `p` before the setup. -/
structure Legible (p : Pddb) (xs : List (Event (managerSignature C.toManagerCrates) (Device C.toHostCrate τ))) :
    Prop where
  device_id : ∀ x ∈ xs, ∀ response, Answers response x → DeviceIdReads p response.device_id
  service_id : ∀ x ∈ xs, ∀ registration, Delivers registration x → ∀ identity msg,
    C.decode_provision identity registration = .ok msg → ServiceIdReads msg.aci.service_id

/-- A `connect` that starts on the PDDB `p`: `account_register` gets no account, and a link that succeeds can be read
back. -/
structure Careful (p : Pddb) (es : List (Event (setupSignature C) (SigChat C τ))) : Prop where
  registers : ∀ e ∈ es, ∀ account value, e.call ≠ SetupCall.set_number account value
  links : ∀ e ∈ es, ∀ manager name, e.call = SetupCall.link manager name →
    (env.linking e.before manager name).value = .ok true → Legible p (env.linking e.before manager name).events

variable {env} {p q : Pddb} {m : Option (Manager C)}

theorem Careful.left {es es' : List (Event (setupSignature C) (SigChat C τ))} (h : Careful env p (es ++ es')) :
    Careful env p es :=
  ⟨fun e he => h.registers e (List.mem_append_left es' he), fun e he => h.links e (List.mem_append_left es' he)⟩

theorem Careful.right {es es' : List (Event (setupSignature C) (SigChat C τ))} (h : Careful env p (es ++ es')) :
    Careful env p es' :=
  ⟨fun e he => h.registers e (List.mem_append_right es he), fun e he => h.links e (List.mem_append_right es he)⟩

variable (env)

def Sound (p q : Pddb) (m : Option (Manager C)) (x : SetupM C (Except Error (Account C.toHostCrate))) : Prop :=
  ∀ s : SigChat C τ, s.pddb = q → s.manager = m → Ensures env.handler x s (fun v t es => Careful env p es →
    t.manager = m ∧ ∀ account, v = .ok (.ok account) → account.is_registered = true)

variable {env}

theorem sound_bind {α : Type} {x : SetupM C α} {f : α → SetupM C (Except Error (Account C.toHostCrate))}
    {P : α → Prop} (hx : x.run.Only Still) (hP : Yields env.handler x (fun a _ => P a))
    (hf : ∀ a, P a → Sound env p q m (f a)) : Sound env p q m (x >>= f) := by
  intro s hq hm
  apply ensures_bind ((ensures_still env hx s).and (hP s))
  · rintro e t es ⟨⟨-, hmanager⟩, -⟩ -
    refine ⟨hmanager.trans hm, ?_⟩
    intro account haccount
    cases haccount
  · rintro a t es ⟨⟨hpddb, hmanager⟩, ha⟩
    apply (hf a (ha a rfl) t (hpddb.trans hq) (hmanager.trans hm)).mono
    exact fun v u es' h hcareful => h hcareful.right

theorem sound_after {α : Type} {x : SetupM C α} {f : α → SetupM C (Except Error (Account C.toHostCrate))}
    (hx : x.run.Only Still) (hf : ∀ a, Sound env p q m (f a)) : Sound env p q m (x >>= f) :=
  sound_bind hx (yields_trivial x) (fun a _ => hf a)

theorem sound_other (text : String) : Sound env p q m (pure (other text)) := by
  intro s hq hm hcareful
  refine ⟨hm, ?_⟩
  intro account haccount
  cases haccount

theorem yields_newManager (account : Account C.toHostCrate) (trust_mode : TrustMode) :
    Yields env.handler (newManager account trust_mode) (fun manager _ => manager.account = account) := by
  unfold newManager
  refine yields_after (fun _ _ _ h => h) (fun config => ?_)
  exact yields_pure rfl

variable (env)

theorem ensures_linkFailed (text : String) (s : SigChat C τ) : Ensures env.handler (linkFailed text) s
    (fun v t _ => t.manager = s.manager ∧ ∀ account, v ≠ .ok (.ok account)) := by
  have hdelete : Ensures env.handler (SetupCall.delete SIGCHAT_ACCOUNT).ask s (fun _ t _ => t.manager = s.manager) := by
    apply ensures_call (S := setupSignature C)
    change (if s.pddb.keysOf SIGCHAT_ACCOUNT = [] then (_, s) else (_, _) : Except IoError Unit × SigChat C τ).2.manager =
      s.manager
    split_ifs <;> rfl
  refine ensures_bind hdelete (fun e t es ht => ⟨ht, fun account => by simp⟩) ?_
  intro _ t es ht
  refine ensures_bind (ensures_still env (only_ask (.set_busy_state false) trivial) t) ?_ ?_
  · exact fun e u es' hu => ⟨hu.2.trans ht, fun account => by simp⟩
  · rintro _ u es' ⟨-, hu⟩
    refine ensures_bind (ensures_still env (only_notify text) u) ?_ ?_
    · exact fun e w es'' hw => ⟨hw.2.trans (hu.trans ht), fun account => by simp⟩
    · rintro _ w es'' ⟨-, hw⟩
      exact ⟨hw.trans (hu.trans ht), fun account => by simp [other]⟩

theorem ensures_afterLink (r : Except AttemptError Bool) (s : SigChat C τ) : Ensures env.handler (afterLink r) s
    (fun v t _ => t.manager = s.manager ∧ ∀ account, v = .ok (.ok account) →
      r = .ok true ∧ Account.ofValues SIGCHAT_ACCOUNT (s.pddb.field SIGCHAT_ACCOUNT) = .ok account) := by
  have hfailed : ∀ text, Ensures env.handler (linkFailed text) s (fun v t _ => t.manager = s.manager ∧
      ∀ account, v = .ok (.ok account) →
        r = .ok true ∧ Account.ofValues SIGCHAT_ACCOUNT (s.pddb.field SIGCHAT_ACCOUNT) = .ok account) :=
    fun text => (ensures_linkFailed env text s).mono
      (fun v t es h => ⟨h.1, fun account haccount => absurd haccount (h.2 account)⟩)
  cases r with
  | error e =>
    cases e with
    | error e => exact hfailed e.text
    | Interrupted text => exact hfailed text
    | panicked =>
      refine ⟨rfl, ?_⟩
      intro account haccount
      cases haccount
  | ok linked =>
    have hbusy := ensures_still env (only_ask (.set_busy_state false) trivial) s
    cases linked with
    | false =>
      refine ensures_bind hbusy (fun e t es ht => ⟨ht.2, fun account haccount => by cases haccount⟩) ?_
      rintro _ t es ⟨-, ht⟩
      refine ⟨ht, ?_⟩
      intro account haccount
      cases haccount
    | true =>
      refine ensures_bind hbusy (fun e t es ht => ⟨ht.2, fun account haccount => by cases haccount⟩) ?_
      rintro _ t es ⟨hpddb, hmanager⟩
      apply ensures_call (S := setupSignature C)
      refine ⟨hmanager, ?_⟩
      intro account haccount
      refine ⟨rfl, ?_⟩
      rw [← hpddb, ← (exec_read t.pddb SIGCHAT_ACCOUNT).1]
      exact Except.ok.inj haccount

def Reset (p made : Pddb) (config : Config C) : Prop :=
  ∀ key, made.value SIGCHAT_ACCOUNT key =
    written key ((Account.defaults config.host config.service_environment).map (fun entry => (entry.1, some entry.2)))
      (if key ∈ Account.NONE_KEYS then none else p.value SIGCHAT_ACCOUNT key)

theorem answer_new (dict : String) (host : C.Host) (senv : ServiceEnvironment) (s : SigChat C τ) :
    env.handler.answer (SetupCall.new dict host senv) s =
      (((Account.new dict host senv).exec Pddb.handler s.pddb).value,
        { s with pddb := ((Account.new (U := C.toHostCrate) dict host senv).exec Pddb.handler s.pddb).state }) := rfl

theorem ensures_ask_new (config : Config C) (s : SigChat C τ) :
    Ensures env.handler (SetupCall.new SIGCHAT_ACCOUNT config.host config.service_environment).ask s (fun v t _ =>
      t.manager = s.manager ∧ Reset s.pddb t.pddb config ∧
        ∀ account, v = .ok (.ok account) → account.pddb_dict = SIGCHAT_ACCOUNT) := by
  have hnew := ensures_new (U := C.toHostCrate) SIGCHAT_ACCOUNT config.host config.service_environment s.pddb
  refine ensures_call (S := setupSignature C) (c := .new SIGCHAT_ACCOUNT config.host config.service_environment) ?_
  rw [answer_new]
  unfold Ensures at hnew
  -- the run of `Account.new` must not be unfolded
  generalize (Account.new (U := C.toHostCrate) SIGCHAT_ACCOUNT config.host config.service_environment).exec
    Pddb.handler s.pddb = o at hnew ⊢
  refine ⟨rfl, hnew.2, ?_⟩
  intro account haccount
  exact ofValues_dict (hnew.1.symm.trans (Except.ok.inj haccount))

theorem answer_link (manager : Manager C) (name : String) (s : SigChat C τ) :
    env.handler.answer (SetupCall.link manager name) s =
      ((env.linking s manager name).value, { s with
        pddb := (env.linking s manager name).state.pddb
        outside := (env.linking s manager name).state.outside }) := rfl

theorem sound_linkCreated {made : Pddb} {config : Config C} {account : Account C.toHostCrate}
    (hreset : Reset p made config) (hdict : account.pddb_dict = SIGCHAT_ACCOUNT) :
    Sound env p made m (linkCreated account) := by
  refine sound_bind (only_newManager account .OnFirstUse) (yields_newManager account .OnFirstUse) ?_
  intro manager haccount
  refine sound_after (only_bind (only_ask (.alert _ _) trivial) (fun _ => .ret _)) (fun name => ?_)
  refine sound_after (only_ask (.set_status_text _) trivial) (fun _ => ?_)
  refine sound_after (only_ask (.set_busy_state true) trivial) (fun _ => ?_)
  intro s hq hm
  refine ensures_call_bind (S := setupSignature C) (c := .link manager name) ?_
  rw [answer_link]
  apply (ensures_afterLink env _ _).mono
  rintro v t es ⟨hmanager, hvalue⟩ hcareful
  refine ⟨hmanager.trans hm, ?_⟩
  intro account' haccount'
  obtain ⟨hlinked, hread⟩ := hvalue account' haccount'
  have hlegible := hcareful.links _ List.mem_cons_self manager name rfl hlinked
  have hlink := ensures_manager_link env.managerEnv name ⟨s.pddb, manager.account, s.outside⟩ hlinked
  obtain ⟨registration, identity, msg, linked, ⟨x, hx, hdelivers⟩, hmsg, ⟨y, hy, hanswers⟩, ⟨bytes, hpassword⟩,
    hstored⟩ := hlink
  have hdevice : Stored msg linked ⟨made, account, s.outside⟩ (env.linking s manager name).state := by
    rw [← haccount, ← hq]
    exact hstored
  exact registered_of_stored hreset hdict hdevice (hlegible.device_id y hy _ hanswers)
    (hlegible.service_id x hx registration hdelivers identity msg hmsg) hpassword hread

variable {env}

theorem sound_account_link (config : Config C) : Sound env p p m (account_link config) := by
  refine sound_after (only_ask (.set_status_text _) trivial) (fun _ => ?_)
  refine sound_after (only_ask (.set_busy_state true) trivial) (fun _ => ?_)
  intro s hq hm
  refine ensures_bind (ensures_ask_new env config s) ?_ ?_
  · rintro e t es ⟨hmanager, -⟩ -
    exact ⟨hmanager.trans hm, fun account haccount => by cases haccount⟩
  · rintro created t es ⟨hmanager, hreset, hdict⟩
    rw [hq] at hreset
    rw [hm] at hmanager
    cases created with
    | ok account =>
      apply (sound_linkCreated env hreset (hdict account rfl) t rfl hmanager).mono
      exact fun v u es' h hcareful => h hcareful.right
    | error e =>
      apply (sound_after (only_notify _) (fun _ => sound_other _) t rfl hmanager).mono
      exact fun v u es' h hcareful => h hcareful.right

theorem ensures_keepTyped (config : Config C) (typed : Option String) (s : SigChat C τ) :
    Ensures env.handler (keepTyped config typed) s (fun _ t es => Careful env p es → t.manager = s.manager) := by
  cases typed with
  | none => exact fun _ => rfl
  | some number =>
    refine ensures_bind (ensures_ask_new env config s) (fun e t es ht _ => ht.1) ?_
    rintro created t es ⟨hmanager, -, -⟩
    cases created with
    | error e => exact fun _ => hmanager
    | ok account =>
      refine ensures_call_bind (S := setupSignature C) (c := .set_number account number) ?_
      intro hcareful
      exact absurd rfl (hcareful.right.registers _ List.mem_cons_self account number)

theorem sound_account_register (config : Config C) : Sound env p q m (account_register config) := by
  refine sound_after (only_notify _) (fun _ => ?_)
  refine sound_after (only_ask (.alert _ _) trivial) (fun typed => ?_)
  intro s hq hm
  refine ensures_bind (ensures_keepTyped (p := p) config typed s) ?_ ?_
  · intro e t es ht hcareful
    exact ⟨(ht hcareful).trans hm, fun account haccount => by cases haccount⟩
  · intro _ t es ht hcareful
    exact ⟨(ht hcareful.left).trans hm, fun account haccount => by cases haccount⟩

theorem sound_withTrustedHost {online : Config C → SetupM C (Except Error (Account C.toHostCrate))}
    (honline : ∀ config, Sound env p q m (online config)) : Sound env p q m (withTrustedHost online) := by
  refine sound_after (only_expectSome _) (fun config => ?_)
  refine sound_after (only_probe_host config.url) (fun trusted => ?_)
  cases trusted with
  | true => exact honline config
  | false => exact sound_other _

theorem sound_account_setup : Sound env p p m account_setup := by
  refine sound_after (only_listItem _) (fun _ => ?_)
  refine sound_after (only_listItem _) (fun _ => ?_)
  refine sound_after (only_listItem _) (fun _ => ?_)
  refine sound_after (only_ask (.get_radiobutton _) trivial) (fun shown => ?_)
  refine sound_after (only_expect shown) (fun _ => ?_)
  refine sound_after (only_ask .get_radio_index trivial) (fun index => ?_)
  match index with
  | .ok 0 => exact sound_withTrustedHost sound_account_link
  | .ok 1 => exact sound_withTrustedHost sound_account_register
  | .ok 2 => exact sound_other _
  | .ok (_ + 3) => exact sound_other _
  | .error _ => exact sound_other _

theorem sound_storedOrSetup : Sound env p p m storedOrSetup := by
  refine sound_bind (only_ask (.read SIGCHAT_ACCOUNT) trivial) (yields_trivial _) (fun stored _ => ?_)
  cases stored with
  | error e => exact sound_account_setup
  | ok account =>
    simp only
    by_cases hregistered : account.is_registered = true
    · rw [if_pos hregistered]
      intro s hq hm hcareful
      refine ⟨hm, ?_⟩
      rintro account' ⟨⟩
      exact hregistered
    · rw [if_neg hregistered]
      exact sound_account_setup

variable (env)

theorem ensures_install (account : Account C.toHostCrate) (s : SigChat C τ) : Ensures env.handler (install account) s
    (fun v t _ => (v ≠ .ok () → t.manager = s.manager) ∧
      (v = .ok () → ∃ manager, t.manager = some manager ∧ manager.account = account)) := by
  refine ensures_bind (ensures_still env (only_ask (.set_status_text _) trivial) s) ?_ ?_
  · exact fun e t es ht => ⟨fun _ => ht.2, fun h => by cases h⟩
  rintro _ t es ⟨-, ht⟩
  refine ensures_bind (ensures_still env (only_ask (.set_busy_state true) trivial) t) ?_ ?_
  · exact fun e u es' hu => ⟨fun _ => hu.2.trans ht, fun h => by cases h⟩
  rintro _ u es' ⟨-, hu⟩
  refine ensures_bind ((ensures_still env (only_newManager account .OnFirstUse) u).and
    (yields_newManager account .OnFirstUse u)) ?_ ?_
  · exact fun e w es'' hw => ⟨fun _ => hw.1.2.trans (hu.trans ht), fun h => by cases h⟩
  rintro manager w es'' ⟨-, hmanager⟩
  exact ⟨fun h => absurd rfl h, fun _ => ⟨manager, rfl, hmanager manager rfl⟩⟩

theorem ensures_ask_manager (s : SigChat C τ) : Ensures env.handler SetupCall.manager.ask s
    (fun v t _ => t = s ∧ v = .ok s.manager) := ⟨rfl, rfl⟩

theorem ensures_reportStatus (s : SigChat C τ) : Ensures env.handler reportStatus s
    (fun v t _ => t.manager = s.manager ∧ (v = .ok (.ok true) → s.manager.isSome)) := by
  refine ensures_bind (ensures_ask_manager env s) (fun e t es ht => by cases ht.2) ?_
  rintro manager t es ⟨rfl, hmanager⟩
  obtain rfl := Except.ok.inj hmanager
  cases hm : t.manager with
  | some manager =>
    refine ensures_bind (ensures_still env (only_ask (.set_status_text _) trivial) t) ?_ ?_
    · exact fun e u es' hu => ⟨hu.2.trans hm, fun _ => rfl⟩
    · exact fun _ u es' hu => ⟨hu.2.trans hm, fun _ => rfl⟩
  | none =>
    refine ensures_bind (ensures_still env (only_ask (.set_status_text _) trivial) t) ?_ ?_
    · exact fun e u es' hu => ⟨hu.2.trans hm, fun h => by cases h⟩
    · exact fun _ u es' hu => ⟨hu.2.trans hm, fun h => by cases h⟩

def Registered (s : SigChat C τ) : Prop :=
  ∀ manager, s.manager = some manager → manager.account.is_registered = true

theorem registered_none {s : SigChat C τ} (hs : s.manager = none) : Registered s := by
  intro manager hmanager
  rw [hs] at hmanager
  cases hmanager

theorem Registered.of_eq {s t : SigChat C τ} (hs : Registered s) (ht : t.manager = s.manager) : Registered t :=
  fun manager hmanager => hs manager (ht.symm.trans hmanager)

theorem ensures_setUpManager {s : SigChat C τ} (hs : s.manager = none) : Ensures env.handler setUpManager s
    (fun _ t es => Careful env s.pddb es → Registered t) := by
  refine ensures_bind (sound_storedOrSetup s rfl hs) (fun e t es ht hcareful => registered_none (ht hcareful).1) ?_
  intro found t es hfound
  cases found with
  | error e =>
    refine ensures_bind (ensures_still env (only_ask (.set_status_text _) trivial) t) ?_ ?_
    · intro e' u es' hu hcareful
      exact registered_none (hu.2.trans (hfound hcareful.left).1)
    · intro _ u es' hu hcareful
      exact registered_none (hu.2.trans (hfound hcareful.left).1)
  | ok account =>
    refine ensures_bind (ensures_install env account t) ?_ ?_
    · intro e u es' hu hcareful
      exact registered_none ((hu.1 (by simp)).trans (hfound hcareful.left).1)
    · rintro _ u es' ⟨-, hu⟩ hcareful
      obtain ⟨manager, hmanager, haccount⟩ := hu rfl
      intro manager' hmanager'
      obtain rfl := Option.some.inj (hmanager.symm.trans hmanager')
      rw [haccount]
      exact (hfound hcareful.left).2 account rfl

theorem ensures_connect {s : SigChat C τ} (hs : Registered s) : Ensures env.handler connect s
    (fun v t es => Careful env s.pddb es → Registered t ∧ (v = .ok (.ok true) → t.manager.isSome)) := by
  have hreport : ∀ {t : SigChat C τ} {P : List (Event (setupSignature C) (SigChat C τ)) → Prop},
      (∀ es, P es → Registered t) → Ensures env.handler reportStatus t (fun v u es =>
        P es → Registered u ∧ (v = .ok (.ok true) → u.manager.isSome)) := by
    intro t P ht
    apply (ensures_reportStatus env t).mono
    rintro v u es ⟨hmanager, hvalue⟩ hes
    rw [hmanager]
    exact ⟨(ht es hes).of_eq hmanager, hvalue⟩
  refine ensures_bind (ensures_still env (only_ask .wifi trivial) s) ?_ ?_
  · exact fun e t es ht _ => ⟨hs.of_eq ht.2, fun h => by cases h⟩
  rintro connected t es ⟨hpddb, hmanager⟩
  cases connected with
  | error e => exact fun _ => ⟨hs.of_eq hmanager, fun h => by cases h⟩
  | ok up =>
    apply ensures_ok_bind
    cases up with
    | false =>
      refine ensures_bind (ensures_still env (only_notify _) t) ?_ ?_
      · exact fun e u es' hu _ => ⟨hs.of_eq (hu.2.trans hmanager), fun h => by cases h⟩
      · exact fun _ u es' hu _ => ⟨hs.of_eq (hu.2.trans hmanager), fun h => by cases h⟩
    | true =>
      refine ensures_bind (ensures_ask_manager env t) (fun e u es' hu => by cases hu.2) ?_
      rintro manager u es' ⟨rfl, hvalue⟩
      obtain rfl := Except.ok.inj hvalue
      cases hnone : u.manager with
      | some manager => exact hreport (fun _ _ => hs.of_eq hmanager)
      | none =>
        refine ensures_bind (ensures_setUpManager env hnone) ?_ ?_
        · intro e w es'' hw hcareful
          exact ⟨hw (hpddb ▸ hcareful.right.right), fun h => by cases h⟩
        · intro found w es'' hw
          cases found with
          | error e => exact fun hcareful => ⟨hw (hpddb ▸ hcareful.right.right.left), fun h => by cases h⟩
          | ok found => exact hreport (fun _ hcareful => hw (hpddb ▸ hcareful.right.right.left))

end Connecting

section Runs

variable {C : ChatCrates} {τ : Type} {env : Env C τ}

/-- The states that calls of `connect` that meet `P` lead to from `SigChat::new`. Between two calls anything may happen
to the PDDB and to the outside. -/
inductive Reachable (env : Env C τ) (P : Pddb → List (Event (setupSignature C) (SigChat C τ)) → Prop) :
    SigChat C τ → Prop where
  | new {p : Pddb} {outside : τ} {s : SigChat C τ} (hs : new C p outside = some s) : Reachable env P s
  | connect {s : SigChat C τ} (hs : Reachable env P s) (hP : P s.pddb (connect.exec env.handler s).events) :
      Reachable env P (connect.exec env.handler s).state
  | elsewhere {s : SigChat C τ} (hs : Reachable env P s) (p : Pddb) (outside : τ) :
      Reachable env P ⟨p, s.manager, outside⟩

theorem registered_new {p : Pddb} {outside : τ} {s : SigChat C τ} (hs : new C p outside = some s) : Registered s := by
  unfold new at hs
  split at hs
  · next account _ =>
    split_ifs at hs with hregistered
    · obtain ⟨config, -, rfl⟩ := Option.map_eq_some_iff.mp hs
      rintro manager ⟨⟩
      exact hregistered
    · obtain rfl := Option.some.inj hs
      exact registered_none rfl
  · obtain rfl := Option.some.inj hs
    exact registered_none rfl

theorem registered_reachable {s : SigChat C τ} (h : Reachable env (Careful env) s) : Registered s := by
  induction h with
  | new hs => exact registered_new hs
  | connect hs hcareful ih => exact (ensures_connect env ih hcareful).1
  | elsewhere hs p outside ih => exact ih

theorem is_ready_registered {s : SigChat C τ} (h : Reachable env (Careful env) s) (hready : s.is_ready = true) :
    ∃ manager, s.manager = some manager ∧ manager.account.is_registered = true := by
  obtain ⟨manager, hmanager⟩ := Option.isSome_iff_exists.mp hready
  exact ⟨manager, hmanager, registered_reachable h manager hmanager⟩

/-- Online means registered, in a run whose calls are careful. -/
theorem online_means_registered {s : SigChat C τ} (h : Reachable env (Careful env) s) :
    Registered s ∧ (Careful env s.pddb (connect.exec env.handler s).events →
      (connect.exec env.handler s).value = .ok (.ok true) →
      ∃ manager, (connect.exec env.handler s).state.manager = some manager ∧
        manager.account.is_registered = true) := by
  have hs := registered_reachable h
  refine ⟨hs, ?_⟩
  intro hcareful hvalue
  obtain ⟨hregistered, honline⟩ := ensures_connect env hs hcareful
  obtain ⟨manager, hmanager⟩ := Option.isSome_iff_exists.mp (honline hvalue)
  exact ⟨manager, hmanager, hregistered manager hmanager⟩

end Runs

section Phone

open Attempts

abbrev phoneChat : ChatCrates where
  toManagerCrates := deviceCrates
  host_str := fun url => some url

def phoneManagerEnv (linkEnv : LinkEnv phoneCrates Unit) : ManagerEnv deviceCrates Unit where
  linkEnv := linkEnv
  reply := fun c s =>
    match c with
    | .observer_new => (.ok (), s)
    | .token_new => ((0 : ℕ), s)
    | .is_cancelled _ => (false, s)
    | .wait_for_connection => (.ok (), s)
    | .new_provision => (.ok (), s)
    | .read_once => (.ok (.Binary [0x0a, 4, 0x75, 0x75, 0x69, 0x64]), s)
    | .close => ((), s)
    | .generate_identity_key_pair => (deviceIdentity, s)
    | .xous_names => (.ok (), s)
    | .modals => (.ok (), s)
    | .spawn _ => (.ok (0 : ℕ), s)
    | .current => (LinkState.Connected, s)
    | .subscribe _ _ _ => ((), s)
    | .show_notification _ => (.ok (), s)
    | .wait_and_take_binary _ => (WsResult.Binary [0x0a, 1, 5], s)
    | .send_cancel _ => (.ok (), s)
    | .disconnect _ => ((), s)
    | .link c => ((linkEnv.answer c ⟨∅, madeAccount, s⟩).1, s)

def phoneChatEnv (index : ℕ) (linkEnv : LinkEnv phoneCrates Unit) : Env phoneChat Unit where
  managerEnv := phoneManagerEnv linkEnv
  reply := fun c s =>
    match c with
    | .wifi => (.ok true, s)
    | .manager => (none, s)
    | .set_manager _ => ((), s)
    | .read _ => (.ok madeAccount, s)
    | .new _ _ _ => (.ok madeAccount, s)
    | .delete _ => (.ok (), s)
    | .set_number account _ => ((.ok (), account), s)
    | .link _ _ => (.ok false, s)
    | .set_status_text _ => ((), s)
    | .set_busy_state _ => ((), s)
    | .add_list_item _ => (.ok (), s)
    | .get_radiobutton _ => (.ok (), s)
    | .get_radio_index => (.ok index, s)
    | .accessible _ _ => (true, s)
    | .alert _ _ => (some "+15550100", s)
    | .show_notification _ => (.ok (), s)

def unset : SigChat phoneChat Unit := ⟨∅, none, ()⟩

def linkingEnv : Env phoneChat Unit := phoneChatEnv 0 phoneEnv

def registeringEnv : Env phoneChat Unit := phoneChatEnv 1 phoneEnv

def linkedChat : Outcome (setupSignature phoneChat) (SigChat phoneChat Unit) (Except Panicked (Except Error Bool)) :=
  connect.exec linkingEnv.handler unset

theorem legible_phone (manager : Manager phoneChat) (name : String) (s : SigChat phoneChat Unit) :
    Legible ∅ (linkingEnv.linking s manager name).events := by
  have hanswered := Program.events_answered linkingEnv.managerEnv.handler (Manager.link name).run
    ⟨s.pddb, manager.account, s.outside⟩
  constructor
  · rintro x hx response ⟨d, url, auth, body, rfl⟩
    obtain rfl := Except.ok.inj (hanswered _ hx)
    unfold DeviceIdReads
    decide
  · rintro x hx registration - identity msg hmsg
    change (if registration = [0x0a, 1, 5] then Except.ok phoneMessage else Except.error "invalid envelope") = _ at hmsg
    split_ifs at hmsg
    obtain rfl := Except.ok.inj hmsg
    unfold ServiceIdReads
    decide

theorem linkedChat_run : linkedChat.value = .ok (.ok true) ∧
    linkedChat.events.all (fun e => match (e.call : SetupCall phoneChat) with
      | .set_number _ _ => false
      | _ => true) = true := by decide +kernel

theorem careful_phone : Careful linkingEnv ∅ linkedChat.events := by
  refine ⟨?_, fun e he manager name _ _ => legible_phone manager name e.before⟩
  intro e he account value hcall
  have h := List.all_eq_true.mp linkedChat_run.2 e he
  rw [hcall] at h
  cases h

theorem reachable_unset (env : Env phoneChat Unit) (P : Pddb → List (Event (setupSignature phoneChat) _) → Prop) :
    Reachable env P unset :=
  .new (show new phoneChat ∅ () = some unset from rfl)

theorem linked_phone_registered : Registered linkedChat.state ∧
    ∃ manager, linkedChat.state.manager = some manager ∧ manager.account.is_registered = true :=
  ⟨(online_means_registered (.connect (reachable_unset linkingEnv (Careful linkingEnv)) careful_phone)).1,
    (online_means_registered (reachable_unset linkingEnv (Careful linkingEnv))).2 careful_phone linkedChat_run.1⟩

def registeredChat : Outcome (setupSignature phoneChat) (SigChat phoneChat Unit) (Except Panicked (Except Error Bool)) :=
  connect.exec registeringEnv.handler unset

def onlineChat : Outcome (setupSignature phoneChat) (SigChat phoneChat Unit) (Except Panicked (Except Error Bool)) :=
  connect.exec registeringEnv.handler registeredChat.state

theorem zero_fits : 0 < 2 ^ 32 := by decide

def zeroEnv : Env phoneChat Unit :=
  phoneChatEnv 0 { phoneEnv with try_put := fun _ _ _ s => (.ok ⟨"", "", 0, zero_fits⟩, s) }

def zeroChat : Outcome (setupSignature phoneChat) (SigChat phoneChat Unit) (Except Panicked (Except Error Bool)) :=
  connect.exec zeroEnv.handler unset

theorem zeroChat_run : zeroChat.value = .ok (.ok true) ∧
    zeroChat.state.manager.map (fun manager => manager.account.is_registered) = some false := by decide +kernel

theorem onlineChat_run : registeredChat.value = .ok (.error ⟨.Other, "not implmented"⟩) ∧
    onlineChat.value = .ok (.ok true) ∧
    onlineChat.state.manager.map (fun manager => manager.account.is_registered) = some false := by decide +kernel

theorem not_registered_of_flag {s : SigChat phoneChat Unit}
    (h : s.manager.map (fun manager => manager.account.is_registered) = some false) : ¬Registered s := by
  intro hs
  obtain ⟨manager, hmanager, hflag⟩ := Option.map_eq_some_iff.mp h
  rw [hs manager hmanager] at hflag
  cases hflag

/-- The user chooses to register, which fails, and connects again; or links to a server that assigns device 0. -/
theorem unregistered_goes_online :
    (registeredChat.value = .ok (.error ⟨.Other, "not implmented"⟩) ∧ onlineChat.value = .ok (.ok true) ∧
      ¬Registered onlineChat.state ∧ ¬∀ s, Reachable registeringEnv (fun _ _ => True) s → Registered s) ∧
    zeroChat.value = .ok (.ok true) ∧ ¬Registered zeroChat.state := by
  obtain ⟨hfails, hvalue, hflag⟩ := onlineChat_run
  have honline := not_registered_of_flag hflag
  refine ⟨⟨hfails, hvalue, honline, ?_⟩, zeroChat_run.1, not_registered_of_flag zeroChat_run.2⟩
  intro hall
  exact honline (hall _ (.connect (.connect (reachable_unset registeringEnv _) trivial) trivial))

end Phone

end XousSignalClient.SigChat
