import XousSignalClient.Send.Legs
import XousSignalClient.Send.Recover

namespace XousSignalClient

open Encoding Interaction Fallible

variable {C : Crates} {σ : Type}

def SendCall.encrypted : (c : SendCall C) → c.Reply → Option (Bytes × String)
  | .message_encrypt ptext _ _, .ok ct =>
    (ciphertext_payload ct).toOption.map (fun payload => (ptext, C.b64_encode payload.1))
  | _, _ => none

def encryptions (es : List (SendEvent C σ)) : List (Bytes × String) :=
  es.filterMap (fun e => SendCall.encrypted e.call e.reply)

def CarriesContent (content : Bytes) (pre : List (SendEvent C σ)) (e : SendEvent C σ) : Prop :=
  ∃ url auth body entity, e.call = SendCall.put_json url auth body ∧ entity ∈ body.messages ∧
    (content, entity.content) ∈ encryptions pre

def DiscoversOwn (account : AccountInfo) (e : SendEvent C σ) : Prop :=
  ∃ url auth, e.call = SendCall.get_json url auth ∧ keysUrl (C := C) account account.aci_service_id "*" = .ok url

def DeliveredContent (content : Bytes) (es : List (SendEvent C σ)) : Prop :=
  ∃ pre e post url auth body, es = pre ++ e :: post ∧ e.call = SendCall.put_json url auth body ∧
    Answered e .accepted ∧ body.messages ≠ [] ∧
    ∀ entity ∈ body.messages, (content, entity.content) ∈ encryptions pre

theorem encryptions_append (es es' : List (SendEvent C σ)) :
    encryptions (es ++ es') = encryptions es ++ encryptions es' := List.filterMap_append

theorem DeliveredContent.append {content : Bytes} {es : List (SendEvent C σ)} (hes : DeliveredContent content es)
    (es' : List (SendEvent C σ)) : DeliveredContent content (es ++ es') := by
  obtain ⟨pre, e, post, url, auth, body, rfl, hput, hans, hne, hall⟩ := hes
  exact ⟨pre, e, post ++ es', url, auth, body, by simp, hput, hans, hne, hall⟩

theorem DeliveredContent.cons {content : Bytes} {es : List (SendEvent C σ)} (hes : DeliveredContent content es)
    (x : SendEvent C σ) : DeliveredContent content (x :: es) := by
  obtain ⟨pre, e, post, url, auth, body, rfl, hput, hans, hne, hall⟩ := hes
  refine ⟨x :: pre, e, post, url, auth, body, rfl, hput, hans, hne, ?_⟩
  intro entity hentity
  rw [← List.singleton_append, encryptions_append]
  exact List.mem_append_right _ (hall entity hentity)

theorem data_ne_transcript (body recipient : String) (t : UInt64) :
    build_padded_data_message_content body t ≠ build_padded_sync_transcript_content recipient body t := by
  -- The first key is that of field 1 on one side and of field 2 on the other.
  have hpad : ∀ content : Bytes, content ≠ [] → (signal_pad content).head? = content.head? := by
    intro content hne
    obtain ⟨n, -, hn⟩ := signal_pad_eq content
    rw [hn, List.head?_append_of_ne_nil _ hne]
  have hdata : (build_padded_data_message_content body t).head? = some 10 := hpad _ nofun
  have hsync : (build_padded_sync_transcript_content recipient body t).head? = some 18 := hpad _ nofun
  intro h
  rw [h, hsync] at hdata
  exact absurd hdata (by decide)

theorem EncryptRun.encryptions_eq {sub : Submission} {a : ProtocolAddress} {es : List (SendEvent C σ)}
    {entity : OutgoingMessageEntity} {r : Except SendError OutgoingMessageEntity} (hrun : EncryptRun sub a es r)
    (hr : r = .ok entity) : encryptions es = [(sub.padded_content, entity.content)] := by
  cases hrun with
  | unloaded s loaded e hfail => cases hr
  | unencrypted s s' loaded encrypted e hload hfail => cases hr
  | done s s' record reg ct bytes ty hreg hpayload =>
    obtain rfl := Except.ok.inj hr
    have hct : (ciphertext_payload ct).toOption = some (bytes, ty) := by rw [hpayload]; rfl
    simp [encryptions, sendEvent, SendCall.encrypted, hct, enc_to_entity]

theorem FanRun.encryptions_eq {sub : Submission} {ds : List ℕ} {es : List (SendEvent C σ)}
    {entities : List OutgoingMessageEntity} {r : Except SendError (List OutgoingMessageEntity)}
    (hrun : FanRun sub ds es r) (hr : r = .ok entities) :
    encryptions es = entities.map (fun entity => (sub.padded_content, entity.content)) := by
  induction hrun generalizing entities with
  | nil =>
    obtain rfl := Except.ok.inj hr
    rfl
  | badId d ds text => cases hr
  | failed dev ds es e henc => cases hr
  | cons dev ds es es' entity r henc hrest ih =>
    cases r with
    | error e => cases hr
    | ok rest =>
      obtain rfl := Except.ok.inj hr
      rw [encryptions_append, henc.encryptions_eq rfl, ih rfl]
      rfl

theorem LoopRun.delivered_content {sub : Submission} {start left : ℕ} {es pre post : List (SendEvent C σ)}
    {e : SendEvent C σ} {r : Except SendError Bool} (hrun : LoopRun sub start left es r)
    (hsplit : es = pre ++ e :: post) (hans : Answered e .accepted) : DeliveredContent sub.padded_content es := by
  obtain ⟨before, call, reply⟩ := e
  cases call with
  | put_json url auth body =>
    obtain ⟨s, ids, devices, fan, ⟨front, hpre⟩, haddressed, hfan⟩ := hrun.put_origin hsplit rfl
    refine ⟨pre, _, post, url, auth, body, hsplit, rfl, hans, ?_, ?_⟩
    · intro hnil
      have hdevices := hfan.destinations rfl
      rw [hnil] at hdevices
      exact addressed_ne_nil haddressed hdevices.symm
    · intro entity hentity
      rw [hpre, encryptions_append]
      apply List.mem_append_right
      have hcons : encryptions (sendEvent s (SendCall.device_ids_for sub.recipient_uuid) ids :: fan) =
          encryptions fan := rfl
      rw [hcons, hfan.encryptions_eq rfl]
      exact List.mem_map_of_mem hentity
  | _ => cases hans

section Composite

variable {plaintext : String} {timestamp_ms : UInt64} {recipient_addr local_addr : ProtocolAddress}
  {account : AccountInfo}

theorem only_submit_with_retry :
    (submit_with_retry_generic plaintext timestamp_ms recipient_addr local_addr account : SendM C Unit).run.Only
      (SendCall.OnRecipient (recipientSubmission plaintext timestamp_ms recipient_addr local_addr account)) :=
  only_bind (only_submit_padded _) (fun _ => .ret _)

theorem encryptions_on_recipient {sub : Submission} {es : List (SendEvent C σ)}
    (hes : ∀ e ∈ es, SendCall.OnRecipient sub e.call) : ∀ p ∈ encryptions es, p.1 = sub.padded_content := by
  intro p hp
  obtain ⟨⟨before, call, reply⟩, he, henc⟩ := List.mem_filterMap.mp hp
  have hcall := hes _ he
  cases call with
  | message_encrypt ptext a l =>
    cases reply with
    | error e => cases henc
    | ok ct =>
      obtain ⟨payload, -, rfl⟩ := Option.map_eq_some_iff.mp henc
      exact hcall.1
  | _ => cases henc

theorem recipient_leg_quiet (hurls : ∀ (base : C.Url) (a b : String) (d : ℕ),
      keysUrlAt C base a (toString d) ≠ keysUrlAt C base b "*")
    {pre post : List (SendEvent C σ)} {e : SendEvent C σ}
    (hes : ∀ x ∈ pre ++ e :: post, SendCall.OnRecipient
      (recipientSubmission plaintext timestamp_ms recipient_addr local_addr account) x.call) :
    ¬CarriesContent (build_padded_sync_transcript_content recipient_addr.name plaintext timestamp_ms) pre e ∧
      ¬DiscoversOwn account e := by
  constructor
  · rintro ⟨url, auth, body, entity, -, -, hmem⟩
    have hpre := encryptions_on_recipient (fun x hx => hes x (List.mem_append_left _ hx)) _ hmem
    exact data_ne_transcript plaintext recipient_addr.name timestamp_ms hpre.symm
  · rintro ⟨url, auth, hget, hown⟩
    have he := hes e (List.mem_append_right _ List.mem_cons_self)
    rw [hget] at he
    obtain ⟨d, hd⟩ := he
    cases hbase : account.chat_base_url C with
    | error err =>
      rw [keysUrl, hbase] at hown
      cases hown
    | ok base =>
      rw [keysUrl_ok hbase] at hown
      change keysUrl account recipient_addr.name (toString d) = _ at hd
      rw [keysUrl_ok hbase] at hd
      exact hurls base _ _ d ((Except.ok.inj hd).trans (Except.ok.inj hown).symm)

theorem recipient_leg_delivered (h : Handler (sendSignature C) σ) (s : σ)
    (hok : ((submit_with_retry_generic plaintext timestamp_ms recipient_addr local_addr account).exec h s).value =
      .ok ()) :
    DeliveredContent (build_padded_data_message_content plaintext timestamp_ms)
      ((submit_with_retry_generic plaintext timestamp_ms recipient_addr local_addr account).exec h s).events := by
  obtain ⟨-, hlast, -⟩ := send_outcome h plaintext timestamp_ms recipient_addr local_addr account s
  obtain ⟨e, hlast, hans⟩ := hlast.mp hok
  obtain ⟨pre, post, hsplit⟩ := List.append_of_mem (List.mem_filter.mp (List.mem_of_getLast? hlast)).1
  obtain ⟨start, es, r, hes, hrun, -⟩ :=
    submit_with_retry_run (h := h) plaintext timestamp_ms recipient_addr local_addr account s
  change (exec h _ s).events = _ at hes
  rw [hes] at hsplit ⊢
  obtain ⟨pre, rfl, hes⟩ := split_cons (P := fun x => Answered x .accepted)
    (now_not_answered s start .accepted) hans hsplit
  exact (hrun.delivered_content hes hans).cons _

theorem exec_with_stores (h : Handler (sendSignature C) σ) (plaintext : String) (timestamp_ms : UInt64)
    (recipient_addr local_addr : ProtocolAddress) (account : AccountInfo) (s : σ) :
    let leg := (submit_with_retry_generic plaintext timestamp_ms recipient_addr local_addr account).exec h s
    let o := (submit_with_retry_with_stores plaintext timestamp_ms recipient_addr local_addr account).exec h s
    o.value = leg.value ∧ ∃ rest, o.events = leg.events ++ rest ∧ (leg.value ≠ .ok () → rest = []) := by
  intro leg o
  have ho : o = resume h _ leg := exec_bind h _ _ s
  rcases hleg : leg with ⟨value, t, es⟩
  rw [ho, hleg]
  cases value with
  | error e => exact ⟨rfl, [], (List.append_nil es).symm, fun _ => rfl⟩
  | ok u =>
    refine ⟨?_, _, rfl, fun hne => absurd rfl hne⟩
    -- The result of the transcript is handed on as a value and dropped.
    simp only [resume]
    rw [exec_bind_ok (exec_attempt h _ t)]
    rfl

/-- The transcript comes after the message: nothing of it is sent before an accepted PUT of the message, and
the result is that of the leg to the recipient, for every behaviour of the surroundings that agrees on
the requests of that leg. -/
theorem result_ignores_transcript (hurls : ∀ (base : C.Url) (a b : String) (d : ℕ),
      keysUrlAt C base a (toString d) ≠ keysUrlAt C base b "*")
    (h : Handler (sendSignature C) σ) (plaintext : String) (timestamp_ms : UInt64)
    (recipient_addr local_addr : ProtocolAddress) (account : AccountInfo) (s : σ) :
    let leg := (submit_with_retry_generic plaintext timestamp_ms recipient_addr local_addr account).exec h s
    let o := (submit_with_retry_with_stores plaintext timestamp_ms recipient_addr local_addr account).exec h s
    (∀ pre e post, o.events = pre ++ e :: post →
      CarriesContent (build_padded_sync_transcript_content recipient_addr.name plaintext timestamp_ms) pre e ∨
        DiscoversOwn account e →
      DeliveredContent (build_padded_data_message_content plaintext timestamp_ms) pre) ∧
    o.value = leg.value ∧
    ∀ h' : Handler (sendSignature C) σ, (∀ e ∈ leg.events, h'.answer e.call e.before = h.answer e.call e.before) →
      ((submit_with_retry_with_stores plaintext timestamp_ms recipient_addr local_addr account).exec h' s).value =
        o.value := by
  intro leg o
  obtain ⟨hvalue, rest, hevents, hstop⟩ := exec_with_stores h plaintext timestamp_ms recipient_addr local_addr account s
  refine ⟨?_, hvalue, ?_⟩
  · intro pre e post hsplit hsync
    rcases append_eq_split (hevents.symm.trans hsplit) with ⟨mid, hleg, -⟩ | ⟨mid, rfl, hrest⟩
    · have hquiet := recipient_leg_quiet hurls (hleg ▸ only_submit_with_retry.events h s)
      exact (hsync.elim hquiet.1 hquiet.2).elim
    · by_cases hok : leg.value = .ok ()
      · exact (recipient_leg_delivered h s hok).append mid
      · rw [hstop hok] at hrest
        exact absurd hrest (by simp)
  · intro h' hagree
    obtain ⟨hvalue', -⟩ := exec_with_stores h' plaintext timestamp_ms recipient_addr local_addr account s
    have hleg : leg = (submit_with_retry_generic plaintext timestamp_ms recipient_addr local_addr account).exec h' s :=
      (Program.run_eq_of_agree _ s hagree).symm
    exact hvalue'.trans ((congrArg Outcome.value hleg).symm.trans hvalue.symm)

end Composite

section

open Reference

theorem device_url_ne_discovery (base : crates.Url) (a b : String) (d : ℕ) :
    keysUrlAt crates base a (toString d) ≠ keysUrlAt crates base b "*" := by
  intro h
  have hlast : ∀ x device : String, device ≠ "" →
      (keysUrlAt crates base x device).toList.getLast? = device.toList.getLast? := by
    intro x device hne
    have heq : keysUrlAt crates base x device = base.origin ++ ("/v2/keys/" ++ x ++ "/") ++ device := by
      simp [keysUrlAt, String.append_assoc]
    rw [heq, String.toList_append, List.getLast?_append_of_ne_nil]
    simpa using hne
  have hurls := hlast a (toString d) Nat.repr_ne_empty
  rw [h, hlast b _ (by decide)] at hurls
  have hdigit := toString_digits d '*' (List.mem_of_getLast? hurls.symm)
  exact absurd hdigit (by decide)

/-- Every GET for Alice's own keys fails, after a message that both of Bob's devices accept. -/
theorem failed_discovery_unseen :
    let env := (bobServer fun _ => false).env
    let broken : SendEnv crates Unit := { env with get_json := fun _ _ _ => (.error "connection reset", ()) }
    let send : SendM crates Unit :=
      submit_with_retry_with_stores "hello" 1700000000000 ⟨bob, phone⟩ ⟨alice, laptop⟩ account
    let w : World Unit := ⟨stock bob [(phone, (1, 0)), (laptop, (1, 0))], ()⟩
    (send.exec env.handler w).value = .ok () ∧ (send.exec broken.handler w).value = .ok () := by
  intro env broken send w
  have hh := honest_toBob (fun _ => false) rfl
  have hstale : (bobServer fun _ => false).stale = fun _ => False := never_stale
  rw [hstale] at hh
  have hs := sessions_stock_fresh bob [(phone, (1, 0)), (laptop, (1, 0))] (by decide)
  obtain ⟨hv, -, hgets, -⟩ := recipient_send_logs (w := w) hh rfl (by decide) (by decide) hs (withinBudget _ _ _)
  obtain ⟨-, hvalue, hagree⟩ := result_ignores_transcript device_url_ne_discovery env.handler "hello" 1700000000000
    ⟨bob, phone⟩ ⟨alice, laptop⟩ account w
  have hleg : (submit_with_retry_generic "hello" 1700000000000 ⟨bob, phone⟩ ⟨alice, laptop⟩ account).exec
      env.handler w =
        resume env.handler (fun _ => pure ()) ((submit_padded_with_retry_generic toBob).exec env.handler w) :=
    exec_bind _ _ _ _
  generalize (submit_padded_with_retry_generic toBob).exec env.handler w = o at hv hgets hleg
  obtain ⟨value, t, es⟩ := o
  obtain rfl : value = .ok true := hv
  have hok : (send.exec env.handler w).value = .ok () := by
    rw [hvalue, hleg]
    rfl
  refine ⟨hok, (hagree broken.handler ?_).trans hok⟩
  intro e he
  -- The leg makes no GET, and the two environments differ in the GETs only.
  have hnone : getLog es = [] := List.eq_nil_of_length_eq_zero (hgets.trans (by decide))
  have hget : SendCall.getUrl e.call = none := by
    rw [hleg] at he
    simp only [resume, exec_pure, List.append_nil] at he
    exact List.filterMap_eq_nil_iff.mp hnone e he
  obtain ⟨before, call, reply⟩ := e
  cases call with
  | get_json url auth => cases hget
  | _ => rfl

end

end XousSignalClient
