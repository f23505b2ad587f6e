import XousSignalClient.Send.Honest

namespace XousSignalClient

open Encoding Interaction Fallible

variable {C : Crates} {ω : Type}

def SendCall.putBody : (c : SendCall C) → c.Reply → Option (List ℕ × Except String HttpResponse)
  | .put_json _ _ body, reply => some (body.destinations, reply)
  | _, _ => none

def SendCall.getUrl : SendCall C → Option String
  | .get_json url _ => some url
  | _ => none

def putLog {σ : Type} (es : List (SendEvent C σ)) : List (List ℕ × Except String HttpResponse) :=
  es.filterMap (fun e => SendCall.putBody e.call e.reply)

def getLog {σ : Type} (es : List (SendEvent C σ)) : List String :=
  es.filterMap (fun e => SendCall.getUrl e.call)

theorem putLog_append {σ : Type} (es es' : List (SendEvent C σ)) :
    putLog (es ++ es') = putLog es ++ putLog es' := List.filterMap_append

theorem getLog_append {σ : Type} (es es' : List (SendEvent C σ)) :
    getLog (es ++ es') = getLog es ++ getLog es' := List.filterMap_append

theorem putLog_cons {σ : Type} {e : SendEvent C σ} {es : List (SendEvent C σ)}
    (he : SendCall.putBody e.call e.reply = none) : putLog (e :: es) = putLog es :=
  List.filterMap_cons_none he

theorem getLog_cons {σ : Type} {e : SendEvent C σ} {es : List (SendEvent C σ)}
    (he : SendCall.getUrl e.call = none) : getLog (e :: es) = getLog es :=
  List.filterMap_cons_none he

theorem getLog_cons_get {σ : Type} {e : SendEvent C σ} {es : List (SendEvent C σ)} {url : String}
    (he : SendCall.getUrl e.call = some url) : getLog (e :: es) = url :: getLog es :=
  List.filterMap_cons_some he

theorem union_cons (X : Finset ℕ) (d : ℕ) (ds : List ℕ) :
    X ∪ (d :: ds).toFinset = insert d X ∪ ds.toFinset := by
  rw [List.toFinset_cons, Finset.union_insert, Finset.insert_union]

theorem sdiff_cons (X : Finset ℕ) (d : ℕ) (ds : List ℕ) :
    X \ (d :: ds).toFinset = X.erase d \ ds.toFinset := by
  ext x
  simp only [List.toFinset_cons, Finset.mem_sdiff, Finset.mem_insert, Finset.mem_erase]
  tauto

section Steps

variable {env : SendEnv C ω} {sub : Submission} {trusts : Pddb → Prop} {usable stale : C.SessionRecord → Prop}
  {genuine : ℕ → C.PreKeyBundle → Prop} {K S : Finset ℕ}

theorem encryptFor_honest (hlib : LibsignalWorks env sub.recipient_uuid trusts (fun _ => True) usable stale genuine)
    {i : DeviceId} (hi : i.val ∈ K) {w : World ω}
    (hs : Sessions C trusts usable stale w.pddb sub.recipient_uuid K S) :
    Ensures env.handler (encryptFor sub ⟨sub.recipient_uuid, i⟩) w (fun v w' es =>
      (∃ enc, v = .ok enc) ∧ Sessions C trusts usable stale w'.pddb sub.recipient_uuid K S ∧
        putLog es = [] ∧ getLog es = []) := by
  obtain ⟨stored, record, hstored, hrecord, huse⟩ := hs.usable_at i hi
  obtain ⟨reg, hreg⟩ := hlib.registration record huse
  obtain ⟨ct, payload, w', henc, hpayload, htrusts, husable, hstale, honly⟩ :=
    hlib.encrypts sub.padded_content i sub.local_addr w hs.trusted trivial (hs.usable_at i hi)
  have hload : env.handler.answer (SendCall.load_session ⟨sub.recipient_uuid, i⟩) w =
      ((.ok (some record) : Except SignalProtocolError (Option C.SessionRecord)), w) := by
    have hanswer := answer_load_session env ⟨sub.recipient_uuid, i⟩ w
    simp only [hstored, hrecord] at hanswer
    exact hanswer
  have hencrypt : env.handler.answer
      (SendCall.message_encrypt sub.padded_content ⟨sub.recipient_uuid, i⟩ sub.local_addr) w =
      ((.ok ct : Except SignalProtocolError CiphertextMessage), w') := henc
  apply ensures_mapError
  unfold encrypt_padded_for_recipient
  apply ensures_call_bind (S := sendSignature C) (c := SendCall.load_session ⟨sub.recipient_uuid, i⟩)
  rw [hload]
  simp only [hreg]
  apply ensures_call_bind (S := sendSignature C)
    (c := SendCall.message_encrypt sub.padded_content ⟨sub.recipient_uuid, i⟩ sub.local_addr)
  rw [hencrypt]
  simp only [hpayload]
  exact ⟨⟨_, rfl⟩, hs.encrypted hi htrusts husable hstale honly, rfl, rfl⟩

theorem encryptForAll_honest (hlib : LibsignalWorks env sub.recipient_uuid trusts (fun _ => True) usable stale genuine)
    {ds : List ℕ} (hds : ∀ d ∈ ds, d ∈ K) {w : World ω}
    (hs : Sessions C trusts usable stale w.pddb sub.recipient_uuid K S) :
    Ensures env.handler (encryptForAll sub ds) w (fun v w' es =>
      (∃ entities, v = .ok entities) ∧ Sessions C trusts usable stale w'.pddb sub.recipient_uuid K S ∧
        putLog es = [] ∧ getLog es = []) := by
  induction ds generalizing w with
  | nil => exact ⟨⟨[], rfl⟩, hs, rfl, rfl⟩
  | cons d ds ih =>
    have hd : d ∈ K := hds d List.mem_cons_self
    have hdev : to_device_id "device id " d = .ok ⟨d, hs.ids d hd⟩ :=
      to_device_id_ok _ ⟨d, hs.ids d hd⟩
    unfold encryptForAll
    rw [hdev]
    apply ensures_ok_bind
    apply ensures_bind (encryptFor_honest hlib hd hs)
    · rintro e t es ⟨⟨enc, henc⟩, -⟩
      cases henc
    · rintro enc t es ⟨-, ht, hput, hget⟩
      apply ensures_bind (ih (fun x hx => hds x (List.mem_cons_of_mem d hx)) ht)
      · rintro e u es' ⟨⟨enc, henc⟩, -⟩
        cases henc
      · rintro entities u es' ⟨-, hu, hput', hget'⟩
        refine ensures_pure ⟨⟨_, rfl⟩, hu, ?_, ?_⟩
        · rw [putLog_append, putLog_append, hput, hput']; rfl
        · rw [getLog_append, getLog_append, hget, hget']; rfl

theorem LibsignalWorks.deleted {uuid : String} {timely : World ω → Prop}
    (hlib : LibsignalWorks env uuid trusts timely usable stale genuine) (a : ProtocolAddress) (w : World ω)
    (h : trusts w.pddb) : trusts (env.answer (.delete a) w).2.pddb := by
  have hdelete : PddbCall.Touches SESSION_DICT (.delete SESSION_DICT a.key) := rfl
  have honly : (PddbSessionStore.delete_session a).Only (PddbCall.Touches SESSION_DICT) :=
    (Program.Only.perform (S := pddbSignature) _ hdelete).bind (fun _ => .ret _)
  apply hlib.identities w.pddb _ _ h
  intro dict key hdict
  exact Pddb.value_of_only hdict honly w.pddb key

theorem deleteListed_honest {uuid : String}
    (hlib : LibsignalWorks env uuid trusts (fun _ => True) usable stale genuine) {ds : List ℕ} {w : World ω}
    (hs : Sessions C trusts usable stale w.pddb uuid K S) :
    Ensures env.handler (deleteListed uuid ds) w (fun v w' es =>
      v = .ok () ∧ Sessions C trusts usable stale w'.pddb uuid (K \ ds.toFinset) (S \ ds.toFinset) ∧
        putLog es = [] ∧ getLog es = []) := by
  induction ds generalizing w K S with
  | nil =>
    refine ensures_pure ⟨rfl, ?_, rfl, rfl⟩
    simpa using hs
  | cons d ds ih =>
    unfold deleteListed
    by_cases hd : 1 ≤ d ∧ d ≤ 127
    · have haddr : device_protocol_address uuid d = some ⟨uuid, ⟨d, hd⟩⟩ :=
        device_protocol_address_val uuid ⟨d, hd⟩
      simp only [haddr]
      apply ensures_ask_bind
      have hdel : Sessions C trusts usable stale (env.answer (.delete ⟨uuid, ⟨d, hd⟩⟩) w).2.pddb uuid
          (K.erase d) (S.erase d) :=
        hs.deleted (hlib.deleted _ w hs.trusted) (Pddb.sessionKeys_delete_session _ hs.keys)
          (fun b => answer_delete_session env _ b w)
      apply (ih hdel).mono
      rintro v u es ⟨hv, hu, hput, hget⟩
      refine ⟨hv, ?_, hput, hget⟩
      rwa [sdiff_cons, sdiff_cons]
    · have haddr : device_protocol_address uuid d = none := by
        cases h : device_protocol_address uuid d with
        | none => rfl
        | some a =>
          obtain ⟨-, hval⟩ := device_protocol_address_eq_some.mp h
          exact absurd (hval ▸ a.device_id.valid) hd
      have hK : d ∉ K := fun h => hd (hs.ids d h)
      have hS : d ∉ S := fun h => hK (hs.stale_sub h)
      simp only [haddr]
      apply (ih hs).mono
      rintro v u es ⟨hv, hu, hput, hget⟩
      refine ⟨hv, ?_, hput, hget⟩
      rwa [sdiff_cons, sdiff_cons, Finset.erase_eq_of_notMem hK, Finset.erase_eq_of_notMem hS]

theorem keysUrl_ok {account : AccountInfo} {base : C.Url} (hbase : account.chat_base_url C = .ok base)
    (uuid device : String) : keysUrl (C := C) account uuid device = .ok (keysUrlAt C base uuid device) := by
  rw [keysUrl, hbase]
  rfl

theorem process_one_honest {uuid : String} (hlib : LibsignalWorks env uuid trusts (fun _ => True) usable stale genuine)
    {i : DeviceId} {pre : PreKeyResponse} {entry : DeviceEntry} {k : C.IdentityKey}
    {bundle : C.PreKeyBundle} (hfind : pre.devices.find? (fun x => x.device_id = i.val) = some entry)
    (hk : decode_identity_key C pre.identity_key = .ok k)
    (hbuild : build_prekey_bundle C entry k = .ok bundle) (hgenuine : genuine i.val bundle)
    {w : World ω} (hs : Sessions C trusts usable stale w.pddb uuid K S) :
    Ensures env.handler (process_one_prekey_bundle uuid i.val pre) w (fun v w' es =>
      v = .ok () ∧ Sessions C trusts usable stale w'.pddb uuid (insert i.val K) (S.erase i.val) ∧
        putLog es = [] ∧ getLog es = []) := by
  obtain ⟨w', hproc, htrusts, husable, hfresh, honly⟩ :=
    hlib.processes i bundle w hs.trusted (hs.clean i) hgenuine
  have hentry : requestedEntry i.val pre.devices = .ok entry := by
    rw [requestedEntry, hfind]
    rfl
  have hanswer : env.handler.answer (SendCall.process_prekey_bundle ⟨uuid, i⟩ bundle) w =
      ((.ok () : Except SignalProtocolError Unit), w') := hproc
  unfold process_one_prekey_bundle
  rw [hentry, hk]
  simp only [device_protocol_address_val]
  apply ensures_ok_bind
  apply ensures_ok_bind
  rw [hbuild]
  apply ensures_ok_bind
  apply ensures_ask_bind
  rw [hanswer]
  exact ⟨rfl, hs.established htrusts husable hfresh honly, rfl, rfl⟩

theorem fetchMissing_honest {account : AccountInfo} {base : C.Url} {recipient : ProtocolAddress}
    {own : Option ℕ} {R : Finset ℕ} (hbase : account.chat_base_url C = .ok base)
    (hlib : LibsignalWorks env recipient.name trusts (fun _ => True) usable stale genuine)
    (hserver : HonestServer env account base recipient.name own R stale genuine)
    (hR : ∀ d ∈ R, 1 ≤ d ∧ d ≤ 127) {ds : List ℕ} (hds : ∀ d ∈ ds, d ∈ R) {w : World ω}
    (hs : Sessions C trusts usable stale w.pddb recipient.name K S) :
    Ensures env.handler (fetchMissing recipient account ds) w (fun v w' es =>
      v = .ok () ∧ Sessions C trusts usable stale w'.pddb recipient.name (K ∪ ds.toFinset) (S \ ds.toFinset) ∧
        putLog es = [] ∧ getLog es = ds.map (fun d => keysUrlAt C base recipient.name (toString d))) := by
  induction ds generalizing w K S with
  | nil =>
    refine ensures_pure ⟨rfl, ?_, rfl, rfl⟩
    simpa using hs
  | cons d ds ih =>
    have hdR : d ∈ R := hds d List.mem_cons_self
    obtain ⟨b, hget, pre, entry, k, bundle, hpre, hfind, hk, hbuild, hgenuine⟩ := hserver.bundles d hdR w
    have hanswer : (env.handler.answer (SendCall.get_json (keysUrlAt C base recipient.name (toString d))
        (account.basic_auth C)) w).1 = (.ok ⟨200, b⟩ : Except String HttpResponse) := hget
    unfold fetchMissing
    rw [keysUrl_ok hbase]
    apply ensures_ok_bind
    apply ensures_ask_bind
    rw [hanswer]
    apply ensures_ok_bind
    rw [if_pos rfl, hpre]
    apply ensures_ok_bind
    have hone := process_one_honest (i := ⟨d, hR d hdR⟩) hlib hfind hk hbuild hgenuine (w :=
      (env.answer (.get_json (keysUrlAt C base recipient.name (toString d)) (account.basic_auth C)) w).2) hs
    apply ensures_bind hone
    · rintro e t es ⟨hv, -⟩
      cases hv
    · rintro _ t es ⟨-, ht, hput, hget⟩
      apply (ih (fun x hx => hds x (List.mem_cons_of_mem d hx)) ht).mono
      rintro v u es' ⟨hv, hu, hput', hget'⟩
      refine ⟨hv, ?_, ?_, ?_⟩
      · rwa [union_cons, sdiff_cons]
      · rw [putLog_cons rfl, putLog_append, hput, hput']
        rfl
      · rw [getLog_cons_get rfl, getLog_append, hget, hget', List.nil_append, List.map_cons]

theorem submit_messages_honest {account : AccountInfo} {base : C.Url}
    (hbase : account.chat_base_url C = .ok base) (uuid : String) (entities : List OutgoingMessageEntity)
    (ts : UInt64) (w : World ω) :
    Ensures env.handler (submit_messages uuid entities ts account) w (fun v w' es =>
      w'.pddb = w.pddb ∧ ∃ reply, reply = (env.put_json (messagesUrl C base uuid) (account.basic_auth C)
          ⟨entities, false, true, ts⟩ w).1 ∧ v = putResult reply ∧ getLog es = [] ∧
        putLog es = [(entities.map OutgoingMessageEntity.destination_device_id, reply)]) := by
  unfold submit_messages
  rw [hbase]
  apply ensures_ok_bind
  apply ensures_ask_bind
  refine ensures_ofExcept_bind ?_ ?_
  · intro e he
    refine ⟨rfl, _, rfl, ?_, rfl, rfl⟩
    change _ = (Except.mapError _ _).bind _
    exact he ▸ rfl
  · intro resp hresp
    refine ensures_ofExcept ⟨rfl, _, rfl, ?_, rfl, rfl⟩
    change _ = (Except.mapError _ _).bind _
    exact hresp ▸ rfl

def Lists (ds : List ℕ) (D : Finset ℕ) : Prop := ds.Pairwise (· < ·) ∧ ds.toFinset = D

def notExcluded (excluded : Option ℕ) (K : Finset ℕ) : Finset ℕ := K.filter (fun d => some d ≠ excluded)

theorem addressed_lists {w : World ω} (hs : Sessions C trusts usable stale w.pddb sub.recipient_uuid K S)
    (hD : (notExcluded sub.excluded_device_id K).Nonempty) :
    ∃ ds, addressedDevices sub.fallback_device_id sub.excluded_device_id
        (w.pddb.sessionDevices sub.recipient_uuid) = some ds ∧
      Lists ds (notExcluded sub.excluded_device_id K) := by
  have hmem : ∀ d, d ∈ (w.pddb.sessionDevices sub.recipient_uuid).filter
      (fun d => some d ≠ sub.excluded_device_id) ↔ d ∈ notExcluded sub.excluded_device_id K := by
    intro d
    rw [List.mem_filter, hs.mem_sessionDevices, notExcluded, Finset.mem_filter]
    simp
  obtain ⟨d, hd⟩ := hD
  have hne : (w.pddb.sessionDevices sub.recipient_uuid).filter
      (fun d => some d ≠ sub.excluded_device_id) ≠ [] := List.ne_nil_of_mem ((hmem d).mpr hd)
  cases haddr : addressedDevices sub.fallback_device_id sub.excluded_device_id
      (w.pddb.sessionDevices sub.recipient_uuid) with
  | none => exact absurd (addressed_eq_none.mp haddr).2 hne
  | some ds =>
    refine ⟨ds, rfl, addressed_ascending haddr, ?_⟩
    rcases addressed_eq haddr with rfl | ⟨hnil, -⟩
    · ext x
      rw [List.mem_toFinset]
      exact hmem x
    · exact absurd hnil hne

theorem submitAttempt_put {base : C.Url} (hbase : sub.account.chat_base_url C = .ok base)
    (hlib : LibsignalWorks env sub.recipient_uuid trusts (fun _ => True) usable stale genuine) (fallback : DeviceId)
    (hfallback : sub.fallback_device_id = fallback.val) {w : World ω}
    (hs : Sessions C trusts usable stale w.pddb sub.recipient_uuid K S)
    (hD : (notExcluded sub.excluded_device_id K).Nonempty) {k : ℕ}
    {Q : Except SendError (Option Bool) → World ω → List (SendEvent C (World ω)) → Prop}
    (hput : ∀ (w₁ u : World ω) (front : List (SendEvent C (World ω))) (body : SubmitMessagesRequest) reply,
      Sessions C trusts usable stale w₁.pddb sub.recipient_uuid K S → u.pddb = w₁.pddb →
      Lists body.destinations (notExcluded sub.excluded_device_id K) →
      reply = (env.put_json (messagesUrl C base sub.recipient_uuid) (sub.account.basic_auth C) body w₁).1 →
      putLog front = [(body.destinations, reply)] → getLog front = [] →
      Ensures env.handler (actOn sub ⟨sub.recipient_uuid, fallback⟩ k (classify_attempt (putResult reply))) u
        (fun v t es => Q v t (front ++ es))) :
    Ensures env.handler (submitAttempt sub k) w Q := by
  obtain ⟨ds, haddr, hlists⟩ := addressed_lists hs hD
  have hanswer : env.handler.answer (SendCall.device_ids_for sub.recipient_uuid) w =
      (w.pddb.sessionDevices sub.recipient_uuid, w) := rfl
  have hds : ∀ d ∈ ds, d ∈ K := by
    intro d hd
    rw [← List.mem_toFinset, hlists.2, notExcluded, Finset.mem_filter] at hd
    exact hd.1
  apply ensures_ask_bind
  rw [hanswer]
  simp only [haddr]
  rw [hfallback, to_device_id_ok]
  apply ensures_ok_bind
  apply ensures_bind ((encryptForAll_honest hlib hds hs).and (encryptForAll_run sub ds w))
  · rintro e t es ⟨⟨⟨entities, hv⟩, -⟩, -⟩
    cases hv
  · rintro entities t fan ⟨⟨-, ht, hfput, hfget⟩, hfan⟩
    apply ensures_attempt_bind (submit_messages_honest hbase _ _ _ t)
    rintro outcome u es ⟨hu, reply, hreply, rfl, hget, hputs⟩
    have hdest : entities.map OutgoingMessageEntity.destination_device_id = ds := hfan.destinations rfl
    have hbody : Lists (SubmitMessagesRequest.destinations ⟨entities, false, true, sub.timestamp_ms⟩)
        (notExcluded sub.excluded_device_id K) := by
      rw [SubmitMessagesRequest.destinations, hdest]
      exact hlists
    have hsettled := hput t u (sendEvent w (.device_ids_for sub.recipient_uuid)
      (w.pddb.sessionDevices sub.recipient_uuid) :: (fan ++ es)) ⟨entities, false, true, sub.timestamp_ms⟩ reply
      ht hu hbody hreply
      (by rw [putLog_cons rfl, putLog_append, hfput, hputs]; rfl)
      (by rw [getLog_cons rfl, getLog_append, hfget, hget]; rfl)
    apply hsettled.mono
    intro v t' es' hQ
    simpa using hQ

end Steps

end XousSignalClient
