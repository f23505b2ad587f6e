import XousSignalClient.Send.Transient

namespace XousSignalClient

open Encoding Interaction Fallible

variable {C : Crates} {σ : Type} {h : Handler (sendSignature C) σ} {uuid : String}

def SendCall.established : (c : SendCall C) → c.Reply → Option (ProtocolAddress × C.PreKeyBundle)
  | .process_prekey_bundle remote_address bundle, .ok _ => some (remote_address, bundle)
  | _, _ => none

def parsedResponse (C : Crates) : Except String HttpResponse → Option PreKeyResponse
  | .ok resp => if resp.status = 200 then (C.prekey_response_from_slice resp.body).toOption else none
  | .error _ => none

def OwnEntry (uuid : String) (pre : PreKeyResponse) (addr : ProtocolAddress) (bundle : C.PreKeyBundle) : Prop :=
  addr.name = uuid ∧ ∃ entry ∈ pre.devices, entry.device_id = addr.device_id.val ∧
    ∃ identity_key, decode_identity_key C pre.identity_key = .ok identity_key ∧
      build_prekey_bundle C entry identity_key = .ok bundle

def handed (last : Option PreKeyResponse) (e : SendEvent C σ) : Option PreKeyResponse :=
  match SendCall.getReply e.call e.reply with
  | some reply => parsedResponse C reply
  | none => last

def RightKeys (uuid : String) : Option PreKeyResponse → List (SendEvent C σ) → Prop
  | _, [] => True
  | last, e :: es =>
    (∀ addr bundle, SendCall.established e.call e.reply = some (addr, bundle) →
      ∃ pre, last = some pre ∧ OwnEntry uuid pre addr bundle) ∧ RightKeys uuid (handed last e) es

theorem rightKeys_append {last : Option PreKeyResponse} {es es' : List (SendEvent C σ)} :
    RightKeys uuid last (es ++ es') ↔ RightKeys uuid last es ∧ RightKeys uuid (es.foldl handed last) es' := by
  induction es generalizing last with
  | nil => simp [RightKeys]
  | cons e es ih =>
    rw [List.cons_append, RightKeys, RightKeys, ih, List.foldl_cons, and_assoc]

theorem rightKeys_get {last : Option PreKeyResponse} {s : σ} {url auth : String} {reply : Except String HttpResponse}
    {es : List (SendEvent C σ)} :
    RightKeys uuid last (sendEvent s (.get_json url auth) reply :: es) ↔
      RightKeys uuid (parsedResponse C reply) es := by
  rw [RightKeys]
  apply and_iff_right
  intro addr bundle hnone
  cases hnone

theorem rightKeys_of_quiet {es : List (SendEvent C σ)} (hes : ∀ e ∈ es, SendCall.established e.call e.reply = none)
    (last : Option PreKeyResponse) : RightKeys uuid last es := by
  induction es generalizing last with
  | nil => trivial
  | cons e es ih =>
    refine ⟨?_, ih (fun x hx => hes x (List.mem_cons_of_mem e hx)) _⟩
    intro addr bundle he
    rw [hes e List.mem_cons_self] at he
    cases he

theorem rightKeys_processed {last : Option PreKeyResponse} {s : σ} {addr : ProtocolAddress} {bundle : C.PreKeyBundle}
    {reply : Except SignalProtocolError Unit} {es : List (SendEvent C σ)} :
    RightKeys uuid last (sendEvent s (.process_prekey_bundle addr bundle) reply :: es) ↔
      (reply = .ok () → ∃ pre, last = some pre ∧ OwnEntry uuid pre addr bundle) ∧ RightKeys uuid last es := by
  rw [RightKeys]
  apply and_congr _ Iff.rfl
  constructor
  · rintro hright rfl
    exact hright addr bundle rfl
  · intro hright addr' bundle' heq
    cases reply with
    | error e => cases heq
    | ok u =>
      obtain ⟨rfl, rfl⟩ := Prod.mk.inj (Option.some.inj heq)
      exact hright rfl

def GivesSession (h : Handler (sendSignature C) σ) (t : σ) (uuid : String) (d : ℕ) (pre : PreKeyResponse) : Prop :=
  ∃ entry identity_key bundle addr, requestedEntry d pre.devices = .ok entry ∧
    decode_identity_key C pre.identity_key = .ok identity_key ∧
    build_prekey_bundle C entry identity_key = .ok bundle ∧ device_protocol_address uuid d = some addr ∧
    (h.answer (SendCall.process_prekey_bundle addr bundle) t).1 = .ok ()

def HasEntry (d : ℕ) (pre : PreKeyResponse) : Prop := ∃ entry ∈ pre.devices, entry.device_id = d

def fetches (h : Handler (sendSignature C) σ) (es : List (SendEvent C σ)) : List (Except String HttpResponse × σ) :=
  es.filterMap (fun e => (SendCall.getReply e.call e.reply).map (fun reply => (reply, (h.answer e.call e.before).2)))

def ListsRequested (h : Handler (sendSignature C) σ) (uuid : String) (ds : List ℕ)
    (responses : List (Except String HttpResponse × σ)) : Prop :=
  ∀ d reply t pre, (d, reply, t) ∈ ds.zip responses → parsedResponse C reply = some pre →
    GivesSession h t uuid d pre → HasEntry d pre

theorem fetches_append (es es' : List (SendEvent C σ)) : fetches h (es ++ es') = fetches h es ++ fetches h es' :=
  List.filterMap_append

theorem fetches_nil_of {P : SendCall C → Prop} (hP : ∀ c r, P c → SendCall.getReply c r = none)
    {es : List (SendEvent C σ)} (hes : ∀ e ∈ es, P e.call) : fetches h es = [] := by
  rw [fetches, List.filterMap_eq_nil_iff]
  intro e he
  rw [hP e.call e.reply (hes e he)]
  rfl

theorem requestedEntry_of_hasEntry {d : ℕ} {pre : PreKeyResponse} {entry : DeviceEntry}
    (hentry : requestedEntry d pre.devices = .ok entry) (hhas : HasEntry d pre) :
    entry ∈ pre.devices ∧ entry.device_id = d := by
  obtain ⟨e, he, hd⟩ := hhas
  cases hfind : pre.devices.find? (fun x => x.device_id = d) with
  | none =>
    rw [List.find?_eq_none] at hfind
    exact absurd hd (by simpa using hfind e he)
  | some found =>
    rw [requestedEntry, hfind] at hentry
    obtain rfl := Except.ok.inj hentry
    exact ⟨List.mem_of_find?_eq_some hfind, by simpa using List.find?_some hfind⟩

inductive OneSession (h : Handler (sendSignature C) σ) (t : σ) (uuid : String) (d : ℕ) (pre : PreKeyResponse) :
    List (SendEvent C σ) → Prop where
  | none (hnone : ¬GivesSession h t uuid d pre) : OneSession h t uuid d pre []
  | one (entry : DeviceEntry) (identity_key : C.IdentityKey) (bundle : C.PreKeyBundle) (addr : ProtocolAddress)
      (reply : Except SignalProtocolError Unit) (hentry : requestedEntry d pre.devices = .ok entry)
      (hkey : decode_identity_key C pre.identity_key = .ok identity_key)
      (hbundle : build_prekey_bundle C entry identity_key = .ok bundle)
      (haddr : device_protocol_address uuid d = some addr)
      (hreply : (h.answer (SendCall.process_prekey_bundle addr bundle) t).1 = reply) :
      OneSession h t uuid d pre [sendEvent t (.process_prekey_bundle addr bundle) reply]

theorem process_one_eq {d : ℕ} {pre : PreKeyResponse} {entry : DeviceEntry} {k : C.IdentityKey}
    {bundle : C.PreKeyBundle} {addr : ProtocolAddress} (hentry : requestedEntry d pre.devices = .ok entry)
    (hkey : decode_identity_key C pre.identity_key = .ok k) (hbundle : build_prekey_bundle C entry k = .ok bundle)
    (haddr : device_protocol_address uuid d = some addr) :
    process_one_prekey_bundle (C := C) uuid d pre = (SendCall.process_prekey_bundle addr bundle).ask >>=
      orFail (fun e => .BadResponse ("process_prekey_bundle: " ++ C.debug e)) := by
  unfold process_one_prekey_bundle
  rw [hentry, hkey]
  change (Fallible.ofExcept (build_prekey_bundle C entry k) >>= _) = _
  rw [hbundle, haddr]
  rfl

theorem process_one_session (d : ℕ) (pre : PreKeyResponse) (t : σ) :
    Ensures h (process_one_prekey_bundle (C := C) uuid d pre) t (fun _ _ es => OneSession h t uuid d pre es) := by
  unfold process_one_prekey_bundle
  apply ensures_ofExcept_bind
  · intro e he
    refine .none ?_
    rintro ⟨entry, identity_key, bundle, addr, hentry, -⟩
    rw [he] at hentry
    cases hentry
  intro entry hentry
  apply ensures_ofExcept_bind
  · intro e he
    refine .none ?_
    rintro ⟨entry, identity_key, bundle, addr, -, hkey, -⟩
    rw [he] at hkey
    cases hkey
  intro identity_key hkey
  apply ensures_ofExcept_bind
  · intro e he
    refine .none ?_
    rintro ⟨entry', identity_key', bundle, addr, hentry', hkey', hbundle, -⟩
    rw [hentry] at hentry'
    rw [hkey] at hkey'
    obtain rfl := Except.ok.inj hentry'
    obtain rfl := Except.ok.inj hkey'
    rw [he] at hbundle
    cases hbundle
  intro bundle hbundle
  cases haddr : device_protocol_address uuid d with
  | none =>
    refine ensures_throw (.none ?_)
    rintro ⟨entry, identity_key, bundle, addr, -, -, -, haddr', -⟩
    rw [haddr] at haddr'
    cases haddr'
  | some addr =>
    apply ensures_ask_bind
    exact ensures_ofExcept (.one entry identity_key bundle addr _ hentry hkey hbundle haddr rfl)

theorem OneSession.fetches_eq {t : σ} {d : ℕ} {pre : PreKeyResponse} {es : List (SendEvent C σ)}
    (hes : OneSession h t uuid d pre es) : fetches h es = [] := by
  cases hes <;> rfl

theorem GivesSession.accepted {t : σ} {d : ℕ} {pre : PreKeyResponse} {entry : DeviceEntry} {k : C.IdentityKey}
    {bundle : C.PreKeyBundle} {addr : ProtocolAddress} (hgives : GivesSession h t uuid d pre)
    (hentry : requestedEntry d pre.devices = .ok entry) (hkey : decode_identity_key C pre.identity_key = .ok k)
    (hbundle : build_prekey_bundle C entry k = .ok bundle) (haddr : device_protocol_address uuid d = some addr) :
    (h.answer (SendCall.process_prekey_bundle addr bundle) t).1 = .ok () := by
  obtain ⟨entry', k', bundle', addr', hentry', hkey', hbundle', haddr', hok⟩ := hgives
  obtain rfl := Except.ok.inj (hentry.symm.trans hentry')
  obtain rfl := Except.ok.inj (hkey.symm.trans hkey')
  obtain rfl := Except.ok.inj (hbundle.symm.trans hbundle')
  obtain rfl := Option.some.inj (haddr.symm.trans haddr')
  exact hok

theorem OneSession.rightKeys_iff {t : σ} {d : ℕ} {pre : PreKeyResponse} {es : List (SendEvent C σ)}
    (hes : OneSession h t uuid d pre es) :
    RightKeys uuid (some pre) es ↔ (GivesSession h t uuid d pre → HasEntry d pre) := by
  cases hes with
  | none hnone => exact iff_of_true trivial (fun hgives => absurd hgives hnone)
  | one entry identity_key bundle addr reply hentry hkey hbundle haddr hreply =>
    obtain ⟨hname, hval⟩ := device_protocol_address_eq_some.mp haddr
    rw [rightKeys_processed]
    constructor
    · rintro ⟨hright, -⟩ hgives
      obtain ⟨pre', hpre, -, e, he, hd, -⟩ := hright
        (hreply.symm.trans (hgives.accepted hentry hkey hbundle haddr))
      obtain rfl := Option.some.inj hpre
      exact ⟨e, he, hd.trans hval⟩
    · intro hhas
      refine ⟨?_, trivial⟩
      intro hok
      obtain ⟨hmem, hd⟩ := requestedEntry_of_hasEntry hentry
        (hhas ⟨entry, identity_key, bundle, addr, hentry, hkey, hbundle, haddr, hreply.trans hok⟩)
      exact ⟨pre, rfl, hname, entry, hmem, hd.trans hval.symm, identity_key, hkey, hbundle⟩

theorem listsRequested_nil (ds : List ℕ) : ListsRequested h uuid ds [] := by
  intro d reply t pre hmem
  simp at hmem

theorem listsRequested_cons {d : ℕ} {ds : List ℕ} {reply : Except String HttpResponse} {t : σ}
    {responses : List (Except String HttpResponse × σ)} :
    ListsRequested h uuid (d :: ds) ((reply, t) :: responses) ↔
      (∀ pre, parsedResponse C reply = some pre → GivesSession h t uuid d pre → HasEntry d pre) ∧
        ListsRequested h uuid ds responses := by
  unfold ListsRequested
  simp only [List.zip_cons_cons, List.mem_cons, Prod.mk.injEq]
  constructor
  · intro hall
    refine ⟨fun pre => hall d reply t pre (.inl ⟨rfl, rfl, rfl⟩), ?_⟩
    exact fun d' reply' t' pre hmem => hall d' reply' t' pre (.inr hmem)
  · rintro ⟨hhead, htail⟩ d' reply' t' pre (⟨rfl, rfl, rfl⟩ | hmem)
    · exact hhead pre
    · exact htail d' reply' t' pre hmem

def KeysMatch (h : Handler (sendSignature C) σ) (uuid : String) (ds : List ℕ) (es : List (SendEvent C σ)) : Prop :=
  ∀ last, RightKeys uuid last es ↔ ListsRequested h uuid ds (fetches h es)

theorem keysMatch_nil (ds : List ℕ) : KeysMatch h uuid ds [] :=
  fun _ => iff_of_true trivial (listsRequested_nil ds)

section Fetched

variable {url auth : String} {s : σ} {reply : Except String HttpResponse} {d : ℕ} {ds : List ℕ}

theorem keysMatch_unusable {es : List (SendEvent C σ)} (hnone : parsedResponse C reply = none)
    (hes : KeysMatch h uuid ds es) :
    KeysMatch h uuid (d :: ds) (sendEvent s (.get_json url auth) reply :: es) := by
  intro last
  change _ ↔ ListsRequested h uuid (d :: ds) ((reply, (h.answer (SendCall.get_json url auth) s).2) :: fetches h es)
  rw [rightKeys_get, hes, listsRequested_cons, hnone]
  refine (and_iff_right ?_).symm
  intro pre hpre
  cases hpre

theorem keysMatch_session {es es' : List (SendEvent C σ)} {pre : PreKeyResponse}
    (hpre : parsedResponse C reply = some pre)
    (hone : OneSession h (h.answer (SendCall.get_json url auth) s).2 uuid d pre es) (hes' : KeysMatch h uuid ds es') :
    KeysMatch h uuid (d :: ds) (sendEvent s (.get_json url auth) reply :: (es ++ es')) := by
  intro last
  change _ ↔ ListsRequested h uuid (d :: ds)
    ((reply, (h.answer (SendCall.get_json url auth) s).2) :: fetches h (es ++ es'))
  rw [rightKeys_get, hpre, rightKeys_append, hone.rightKeys_iff, hes', listsRequested_cons, fetches_append,
    hone.fetches_eq, List.nil_append, hpre]
  simp

end Fetched

theorem parsedResponse_ok {resp : HttpResponse} {pre : PreKeyResponse} {f : String → SendError}
    (h200 : resp.status = 200) (hpre : (C.prekey_response_from_slice resp.body).mapError f = .ok pre) :
    parsedResponse C (.ok resp) = some pre := by
  rw [parsedResponse, if_pos h200]
  cases hparse : C.prekey_response_from_slice resp.body with
  | ok pre' =>
    rw [hparse] at hpre
    exact congrArg some (Except.ok.inj hpre)
  | error text =>
    rw [hparse] at hpre
    cases hpre

theorem parsedResponse_error {resp : HttpResponse} {e : SendError} {f : String → SendError}
    (he : (C.prekey_response_from_slice resp.body).mapError f = .error e) : parsedResponse C (.ok resp) = none := by
  cases hparse : C.prekey_response_from_slice resp.body with
  | ok pre =>
    rw [hparse] at he
    cases he
  | error text => simp [parsedResponse, hparse, Except.toOption]

theorem fetchMissing_rightKeys (recipient : ProtocolAddress) (account : AccountInfo) (ds : List ℕ) (s : σ) :
    Ensures h (fetchMissing (C := C) recipient account ds) s
      (fun _ _ es => KeysMatch h recipient.name ds es) := by
  induction ds generalizing s with
  | nil => exact ensures_pure (keysMatch_nil [])
  | cons d ds ih =>
    unfold fetchMissing
    apply ensures_ofExcept_bind
    · exact fun e _ => keysMatch_nil _
    intro url _
    apply ensures_ask_bind
    cases hreply : (h.answer (SendCall.get_json url (account.basic_auth C)) s).1 with
    | error text => exact keysMatch_unusable rfl (keysMatch_nil ds)
    | ok resp =>
      apply ensures_ok_bind
      by_cases h200 : resp.status = 200
      · rw [if_pos h200]
        apply ensures_ofExcept_bind
        · exact fun e he => keysMatch_unusable (parsedResponse_error he) (keysMatch_nil ds)
        intro pre hpre
        have hparsed := parsedResponse_ok h200 hpre
        apply ensures_bind (process_one_session d pre _)
        · intro e u es hes
          have := keysMatch_session hparsed hes (keysMatch_nil ds)
          rwa [List.append_nil] at this
        · intro _ u es hes
          apply (ih u).mono
          exact fun v w es' hes' => keysMatch_session hparsed hes hes'
      · have hnone : parsedResponse C (.ok resp) = none := if_neg h200
        rw [if_neg h200]
        split_ifs
        · apply (ih _).mono
          exact fun v u es hes => keysMatch_unusable hnone hes
        · exact ensures_throw (keysMatch_unusable hnone (keysMatch_nil ds))
        · exact ensures_throw (keysMatch_unusable hnone (keysMatch_nil ds))

def SendCall.IsDelete : SendCall C → Prop
  | .delete _ => True
  | _ => False

theorem only_deleteListed (name : String) (ds : List ℕ) :
    (deleteListed (C := C) name ds).run.Only SendCall.IsDelete := by
  induction ds with
  | nil => exact .ret _
  | cons d ds ih =>
    unfold deleteListed
    cases device_protocol_address name d with
    | none => exact ih
    | some addr => exact only_bind (only_call (S := sendSignature C) (.delete addr) trivial) (fun _ => ih)

theorem handle_mismatched_rightKeys (recipient : ProtocolAddress) (mm : DeviceMismatchResponse)
    (account : AccountInfo) (s : σ) :
    Ensures h (handle_mismatched_devices (C := C) recipient mm account) s (fun _ _ es =>
      RightKeys recipient.name none es ↔ ListsRequested h recipient.name mm.missing_devices (fetches h es)) := by
  have hquiet : ∀ es : List (SendEvent C σ), (∀ e ∈ es, SendCall.IsDelete e.call) →
      RightKeys recipient.name none es ∧ fetches h es = [] := by
    intro es hes
    refine ⟨rightKeys_of_quiet ?_ none, fetches_nil_of ?_ hes⟩
    · intro e he
      obtain ⟨before, call, reply⟩ := e
      have hcall := hes _ he
      change SendCall.IsDelete call at hcall
      cases call <;> first | exact hcall.elim | rfl
    · intro c r hc
      cases c <;> first | exact hc.elim | rfl
  apply ensures_bind (ensures_only (only_deleteListed recipient.name mm.extra_devices))
  · intro e t es hes
    obtain ⟨hright, hfetches⟩ := hquiet es hes
    rw [hfetches]
    exact iff_of_true hright (listsRequested_nil _)
  · intro _ t es hes
    obtain ⟨hright, hfetches⟩ := hquiet es hes
    apply (fetchMissing_rightKeys recipient account mm.missing_devices t).mono
    intro v u es' hes'
    rw [rightKeys_append, fetches_append, hfetches, List.nil_append, hes']
    exact and_iff_right hright

theorem establishAll_rightKeys {excluded : Option ℕ} {pre : PreKeyResponse} {k : C.IdentityKey}
    (hkey : decode_identity_key C pre.identity_key = .ok k) {entries : List DeviceEntry}
    (hentries : ∀ entry ∈ entries, entry ∈ pre.devices) (s : σ) :
    Ensures h (establishAll uuid excluded k entries) s (fun _ _ es => RightKeys uuid (some pre) es) := by
  induction entries generalizing s with
  | nil => exact ensures_pure trivial
  | cons entry entries ih =>
    have hrest : ∀ t, Ensures h (establishAll uuid excluded k entries) t
        (fun _ _ es => RightKeys uuid (some pre) es) :=
      fun t => ih (fun x hx => hentries x (List.mem_cons_of_mem entry hx)) t
    unfold establishAll
    split_ifs
    · exact hrest s
    · apply ensures_ofExcept_bind (fun _ _ => trivial)
      intro bundle hbundle
      cases haddr : device_protocol_address uuid entry.device_id with
      | none => exact ensures_throw trivial
      | some dev_addr =>
        obtain ⟨hname, hval⟩ := device_protocol_address_eq_some.mp haddr
        apply ensures_ask_bind
        generalize (h.answer (SendCall.process_prekey_bundle dev_addr bundle) s).1 = reply
        have hcons : ∀ es : List (SendEvent C σ), RightKeys uuid (some pre) es →
            RightKeys uuid (some pre) (sendEvent s (.process_prekey_bundle dev_addr bundle) reply :: es) := by
          intro es hes
          refine rightKeys_processed.mpr ⟨?_, hes⟩
          exact fun _ => ⟨pre, rfl, hname, entry, hentries entry List.mem_cons_self, hval.symm, k, hkey, hbundle⟩
        apply ensures_ofExcept_bind (fun _ _ => hcons [] trivial)
        intro _ _
        apply ensures_bind (hrest _)
        · exact fun e t es hes => hcons es hes
        · intro established t es hes
          refine ensures_pure ?_
          rw [List.append_nil]
          exact hcons es hes

theorem discover_rightKeys (excluded : Option ℕ) (account : AccountInfo) (s : σ) :
    Ensures h (discover_and_establish_account_devices (C := C) uuid excluded account) s
      (fun _ _ es => RightKeys uuid none es) := by
  unfold discover_and_establish_account_devices
  apply ensures_ofExcept_bind (fun _ _ => trivial)
  intro url _
  apply ensures_ask_bind
  generalize (h.answer (SendCall.get_json url (account.basic_auth C)) s).1 = reply
  change Except String HttpResponse at reply
  have hget : ∀ es : List (SendEvent C σ), RightKeys uuid (parsedResponse C reply) es →
      RightKeys uuid none (sendEvent s (.get_json url (account.basic_auth C)) reply :: es) :=
    fun es hes => rightKeys_get.mpr hes
  apply ensures_ofExcept_bind (fun _ _ => hget [] trivial)
  intro resp hresp
  obtain rfl : reply = .ok resp := by
    cases reply with
    | ok resp' => exact congrArg Except.ok (Except.ok.inj hresp)
    | error text => cases hresp
  split_ifs with h200
  · apply ensures_ofExcept_bind (fun _ _ => hget [] trivial)
    intro pre hpre
    rw [parsedResponse_ok h200 hpre] at hget
    apply ensures_ofExcept_bind (fun _ _ => hget [] trivial)
    intro identity_key hkey
    apply (establishAll_rightKeys hkey (fun _ hentry => hentry) _).mono
    exact fun v t es hes => hget es hes
  · exact ensures_throw (hget [] trivial)
  · exact ensures_pure (hget [] trivial)
  · exact ensures_throw (hget [] trivial)

/-- A discovery builds each session from the device's own entry; the handler of a 409 does exactly when the
responses of which a session is made list the devices they were requested for. -/
theorem sessions_from_own_entries_iff (h : Handler (sendSignature C) σ) (account : AccountInfo) (s : σ) :
    (∀ (recipient : ProtocolAddress) (mm : DeviceMismatchResponse),
      let o := (handle_mismatched_devices (C := C) recipient mm account).exec h s
      RightKeys recipient.name none o.events ↔
        ListsRequested h recipient.name mm.missing_devices (fetches h o.events)) ∧
    ∀ (uuid : String) (excluded : Option ℕ),
      RightKeys uuid none ((discover_and_establish_account_devices (C := C) uuid excluded account).exec h s).events :=
  ⟨fun recipient mm => handle_mismatched_rightKeys recipient mm account s,
    fun _ excluded => discover_rightKeys excluded account s⟩

section

open Reference

def repeatingEnv (b : Bytes) : SendEnv crates Unit :=
  { (bobServer (· = 0)).env with get_json := fun _ _ _ => (.ok ⟨200, b⟩, ()) }

theorem repeating_processes (b : Bytes) {w : World Unit} (hw : Trusting bob w.pddb) :
    (repeatingEnv b).handler.answer (SendCall.process_prekey_bundle ⟨bob, laptop⟩ (deviceBundle phone)) w =
      ((.ok () : Except SignalProtocolError Unit), ⟨established ⟨bob, laptop⟩ ⟨1, 0, identityKey⟩ w.pddb, w.env⟩) := by
  have hreg : (deviceBundle phone).registration_id = 1 := rfl
  obtain ⟨hv, hs⟩ := run_process_prekey_bundle hw laptop hreg ⟨rfl, rfl⟩ rfl
  exact Prod.ext hv (congrArg (fun p => (⟨p, w.env⟩ : World Unit)) hs)

theorem repeating_run {b : Bytes} (hb : crates.prekey_response_from_slice b = .ok (accountKeys [1])) {w : World Unit}
    (hw : Trusting bob w.pddb) :
    Ensures (repeatingEnv b).handler (handle_mismatched_devices ⟨bob, phone⟩ ⟨[2], [], []⟩ account) w
      (fun _ w' es => (w'.pddb.session ⟨bob, laptop⟩).isSome ∧
        fetches (repeatingEnv b).handler es = [(.ok ⟨200, b⟩, w)]) := by
  have hentry : requestedEntry 2 (accountKeys [1]).devices = .ok (deviceEntry 1) := rfl
  have hbase : (bobServer (· = 0)).account.chat_base_url crates = .ok (bobServer (· = 0)).base := url_parsed
  change Ensures _ (fetchMissing ⟨bob, phone⟩ (bobServer (· = 0)).account [2]) w _
  unfold fetchMissing
  rw [keysUrl_ok hbase]
  apply ensures_ok_bind
  apply ensures_ask_bind
  have hget : ∀ url auth, (repeatingEnv b).handler.answer (SendCall.get_json url auth) w =
      ((.ok ⟨200, b⟩ : Except String HttpResponse), w) := fun _ _ => rfl
  rw [hget]
  apply ensures_ok_bind
  rw [if_pos rfl, hb]
  apply ensures_ok_bind
  have hprocess : Ensures (repeatingEnv b).handler (process_one_prekey_bundle bob 2 (accountKeys [1])) w
      (fun v w' es => v = .ok () ∧ (w'.pddb.session ⟨bob, laptop⟩).isSome ∧
        fetches (repeatingEnv b).handler es = []) := by
    rw [process_one_eq hentry (identity_decodes (tagged_replicate 32 5 1)) (build_deviceEntry phone)
      (device_protocol_address_val bob laptop)]
    apply ensures_ask_bind
    rw [repeating_processes b hw]
    have hrecord : RecordAt crates Known (established ⟨bob, laptop⟩ ⟨1, 0, identityKey⟩ w.pddb) ⟨bob, laptop⟩ :=
      (recordAt_established _ _ _).mpr rfl
    exact ensures_ofExcept ⟨rfl, hrecord.isSome, rfl⟩
  apply ensures_bind hprocess
  · rintro e t es ⟨hv, -⟩
    cases hv
  · rintro _ t es ⟨-, hsession, hfetches⟩
    refine ensures_pure ⟨hsession, ?_⟩
    change (.ok ⟨200, b⟩, w) :: fetches (repeatingEnv b).handler (es ++ []) = _
    rw [List.append_nil, hfetches]

theorem laptop_session_from_phone :
    let o := (handle_mismatched_devices ⟨bob, phone⟩ ⟨[2], [], []⟩ account).exec
      (repeatingEnv (body (responseText (accountKeys [1])))).handler ⟨stock bob [], ()⟩
    (o.state.pddb.session ⟨bob, laptop⟩).isSome ∧ ¬RightKeys bob none o.events := by
  intro o
  have hbody := accountKeys_body [1]
  have htrusts : Trusting bob (stock bob []) := (sessions_stock_fresh bob [] (by decide)).trusted
  obtain ⟨hsession, hfetches⟩ := repeating_run (w := ⟨stock bob [], ()⟩) hbody htrusts
  refine ⟨hsession, ?_⟩
  intro hright
  have hlists := (handle_mismatched_rightKeys ⟨bob, phone⟩ ⟨[2], [], []⟩ account _).mp hright
  rw [hfetches] at hlists
  have hparsed : parsedResponse crates (.ok ⟨200, body (responseText (accountKeys [1]))⟩) = some (accountKeys [1]) := by
    rw [parsedResponse, if_pos rfl, hbody]
    rfl
  obtain ⟨entry, hentry, hd⟩ := hlists 2 _ _ (accountKeys [1]) List.mem_cons_self hparsed
    ⟨deviceEntry 1, identityKey, deviceBundle phone, ⟨bob, laptop⟩, rfl, identity_decodes (tagged_replicate 32 5 1),
      build_deviceEntry phone, device_protocol_address_val bob laptop,
      congrArg Prod.fst (repeating_processes _ htrusts)⟩
  obtain rfl := List.mem_singleton.mp hentry
  exact absurd hd (by decide)

end

end XousSignalClient
