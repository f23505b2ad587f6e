import XousSignalClient.Account.Link

namespace XousSignalClient

open Encoding Interaction Fallible

section Reading

variable {U : HostCrate}

def Pddb.field (p : Pddb) (dict key : String) : Option String :=
  (p.value dict key).bind (fun value => from_utf8 (value.take AccountDict.READ_BUFFER))

theorem run_get (p : Pddb) (dict key : String) :
    ((AccountDict.get dict key).run Pddb.handler p).value = p.field dict key ∧
      ((AccountDict.get dict key).run Pddb.handler p).state = p := by
  obtain ⟨hv, hs⟩ := Pddb.run_read p dict key
  unfold AccountDict.get
  rw [Program.run_bind, hv, hs, Pddb.field]
  cases p.value dict key <;> exact ⟨rfl, rfl⟩

theorem run_readValues (p : Pddb) (dict : String) (keys : List String) :
    ((Account.readValues dict keys).run Pddb.handler p).value = keys.map (fun key => (key, p.field dict key)) ∧
      ((Account.readValues dict keys).run Pddb.handler p).state = p := by
  induction keys with
  | nil => exact ⟨rfl, rfl⟩
  | cons key keys ih =>
    obtain ⟨hv, hs⟩ := run_get p dict key
    rw [Account.readValues, Program.run_bind, hv, hs, Program.run_bind, ih.1, ih.2]
    exact ⟨rfl, rfl⟩

theorem lookup_map_self {β : Type} (f : String → β) {keys : List String} {key : String} (h : key ∈ keys) :
    (keys.map (fun k => (k, f k))).lookup key = some (f key) := by
  induction keys with
  | nil => cases h
  | cons k keys ih =>
    rw [List.map_cons, List.lookup_cons]
    by_cases hk : key = k
    · rw [hk, beq_self_eq_true]
    · rw [beq_false_of_ne hk]
      exact ih ((List.mem_cons.mp h).resolve_left hk)

theorem ofValues_congr (dict : String) {f g : String → Option String} (h : ∀ key ∈ Account.KEYS, f key = g key) :
    (Account.ofValues dict f : Except Error (Account U)) = Account.ofValues dict g := by
  simp only [Account.KEYS, List.forall_mem_cons] at h
  simp only [Account.ofValues, h]

theorem exec_read (p : Pddb) (dict : String) :
    ((Account.read U dict).exec Pddb.handler p).value = Account.ofValues dict (p.field dict) ∧
      ((Account.read U dict).exec Pddb.handler p).state = p := by
  obtain ⟨hv, hs⟩ := run_readValues p dict Account.KEYS
  unfold Account.read
  rw [exec_bind_ok (exec_lift Pddb.handler _ p), hv, hs]
  refine ⟨?_, rfl⟩
  simp only [exec_ofExcept]
  apply ofValues_congr
  intro key hkey
  rw [lookup_map_self _ hkey]
  rfl

theorem flags_ofValues {dict : String} {f : String → Option String} {account : Account U} {registered multi : String}
    (h : Account.ofValues dict f = .ok account) (hr : f REGISTERED_KEY = some registered)
    (hm : f IS_MULTI_DEVICE_KEY = some multi) :
    account.registered = (parseBool registered).getD false ∧
      account.is_multi_device = (parseBool multi).getD false := by
  unfold Account.ofValues at h
  split at h
  · next hm' hr' _ _ =>
    obtain rfl := Except.ok.inj h
    rw [hr] at hr'
    rw [hm] at hm'
    obtain rfl := Option.some.inj hr'
    obtain rfl := Option.some.inj hm'
    exact ⟨rfl, rfl⟩
  · cases h

end Reading

section Writing

def written (key : String) : List (String × Option String) → Option Bytes → Option Bytes
  | [], old => old
  | (_, none) :: rest, old => written key rest old
  | (k, some v) :: rest, old =>
    written key rest (if key = k then some (Pddb.overlay (utf8 v) (old.getD [])) else old)

theorem ensures_set_new (p : Pddb) (dict key : String) (value : Option String) :
    Ensures Pddb.handler (AccountDict.set_new dict key value) p (fun v q _ =>
      v = .ok () ∧ ∀ k, q.value dict k = written k [(key, value)] (p.value dict k)) := by
  cases value with
  | none => exact ⟨rfl, fun _ => rfl⟩
  | some v =>
    refine ⟨rfl, ?_⟩
    intro k
    change (p.put dict key (utf8 v)).value dict k = _
    simp only [written]
    by_cases hk : k = key
    · subst hk
      rw [if_pos rfl, Pddb.value_put]
    · rw [if_neg hk, Pddb.value_put_ne]
      intro h
      exact hk (Prod.mk.inj h).2

theorem written_cons (k : String) (entry : String × Option String) (rest : List (String × Option String))
    (old : Option Bytes) : written k (entry :: rest) old = written k rest (written k [entry] old) := by
  obtain ⟨key, value⟩ := entry
  cases value <;> rfl

theorem ensures_persist (dict : String) (batch : List (String × Option String)) (p : Pddb) :
    Ensures Pddb.handler (Account.persist dict batch) p (fun v q _ =>
      v = .ok () ∧ ∀ k, q.value dict k = written k batch (p.value dict k)) := by
  induction batch generalizing p with
  | nil => exact ⟨rfl, fun _ => rfl⟩
  | cons entry rest ih =>
    obtain ⟨key, value⟩ := entry
    rw [Account.persist]
    apply ensures_bind (ensures_set_new p dict key value)
    · rintro e q es ⟨hv, -⟩
      cases hv
    · rintro - q es ⟨-, hq⟩
      apply Ensures.mono (ih q)
      rintro v q' es' ⟨hv, hq'⟩
      refine ⟨hv, ?_⟩
      intro k
      rw [hq' k, hq k, ← written_cons]

theorem run_clear (dict : String) (keys : List String) (p : Pddb) (key : String) :
    ((Account.clear dict keys).run Pddb.handler p).state.value dict key =
      if key ∈ keys then none else p.value dict key := by
  induction keys generalizing p with
  | nil => rfl
  | cons k keys ih =>
    have hdelete : ((pddbDelete dict k).run Pddb.handler p).state = (Pddb.answer (.delete dict k) p).2 := rfl
    rw [Account.clear, Program.run_bind, hdelete]
    rw [ih, Pddb.answer_delete]
    by_cases hk : key = k
    · subst hk
      rw [Pddb.value_remove]
      simp
    · rw [Pddb.value_remove_ne p (fun h => hk (Prod.mk.inj h).2)]
      simp [hk]

theorem ensures_new {U : HostCrate} (dict : String) (host : U.Host) (env : ServiceEnvironment) (p : Pddb) :
    Ensures Pddb.handler (Account.new dict host env) p (fun v q _ => v = Account.ofValues dict (q.field dict) ∧
      ∀ key, q.value dict key = written key ((Account.defaults host env).map (fun entry => (entry.1, some entry.2)))
        (if key ∈ Account.NONE_KEYS then none else p.value dict key)) := by
  unfold Account.new
  apply ensures_lift_bind
  apply ensures_bind (ensures_persist dict _ _)
  · rintro e q es ⟨hv, -⟩
    cases hv
  · rintro - q es ⟨-, hq⟩
    apply ensures_lift_bind
    apply ensures_ofExcept_bind
    · intro e he
      cases he
    · rintro - -
      rw [Ensures, (exec_read _ dict).2, (exec_read _ dict).1]
      refine ⟨rfl, ?_⟩
      intro key
      refine (hq key).trans ?_
      rw [run_clear]

theorem ofValues_dict {U : HostCrate} {dict : String} {f : String → Option String} {account : Account U}
    (h : Account.ofValues dict f = .ok account) : account.pddb_dict = dict := by
  unfold Account.ofValues at h
  split at h
  · rw [← Except.ok.inj h]
  · cases h

end Writing

section Frames

def LinkCall.Outside {L : LinkCrates} : LinkCall L → Prop
  | .pddb _ => False
  | .assign _ => False
  | _ => True

variable {L : LinkCrates} {τ : Type} (env : LinkEnv L τ)

def Device.store : Program.Part (Device L.toHostCrate τ) Pddb where
  get := Device.pddb
  set := fun d p => { d with pddb := p }
  get_set := fun _ _ => rfl
  set_set := fun _ _ _ => rfl
  set_get := fun _ => rfl

theorem run_inPddb {α : Type} (p : PddbProgram α) (d : Device L.toHostCrate τ) :
    ((inPddb p).run env.handler d).value = (p.run Pddb.handler d.pddb).value ∧
      ((inPddb p).run env.handler d).state = { d with pddb := (p.run Pddb.handler d.pddb).state } :=
  Program.run_interp Device.store (fun _ _ => ⟨rfl, rfl⟩) p d

theorem ensures_inPddbM {α : Type} {x : Fallible pddbSignature Error α} {d : Device L.toHostCrate τ}
    {P : Except Error α → Pddb → Prop} (hx : Ensures Pddb.handler x d.pddb (fun v q _ => P v q)) :
    Ensures env.handler (inPddbM x) d (fun v t _ =>
      ∃ r, v = r.mapError .error ∧ P r t.pddb ∧ t.account = d.account) := by
  apply ensures_mapError
  obtain ⟨hv, hs⟩ := run_inPddb env x.run d
  refine ⟨(x.exec Pddb.handler d.pddb).value, ?_, ?_, ?_⟩
  · exact congrArg (Except.mapError Failure.error) hv
  · have hpddb : (Fallible.exec env.handler (ExceptT.mk (inPddb x.run)) d).state.pddb =
        (x.exec Pddb.handler d.pddb).state := congrArg Device.pddb hs
    rw [hpddb]
    exact hx
  · exact (congrArg Device.account hs).trans rfl

theorem ensures_outside {α : Type} {x : LinkM L α} (hx : x.run.Only LinkCall.Outside)
    (d : Device L.toHostCrate τ) :
    Ensures env.handler x d (fun _ t _ => t.pddb = d.pddb ∧ t.account = d.account) := by
  refine hx.preserves (I := fun t => t.pddb = d.pddb ∧ t.account = d.account) ?_ d ⟨rfl, rfl⟩
  intro c t hc ht
  cases c with
  | pddb c => cases hc
  | assign a => cases hc
  | self => exact ht
  | try_fill_bytes n => exact ht
  | next_u32 => exact ht
  | encrypt_device_name name key => exact ht
  | generate_prekeys aci pni => exact ht
  | try_put url auth body => exact ht
  | put_attributes url auth attrs => exact ht

theorem only_linkCall (c : LinkCall L) (hc : c.Outside) : (linkCall c).run.Only LinkCall.Outside :=
  only_call (S := linkSignature L) c hc

theorem only_propagate {α : Type} (r : Except Error α) : (propagate r : LinkM L α).run.Only LinkCall.Outside :=
  .ret _

theorem only_generate_link_password : (generate_link_password : LinkM L String).run.Only LinkCall.Outside := by
  apply only_bind (only_linkCall (.try_fill_bytes 18) trivial)
  intro bytes
  cases bytes with
  | none => exact .ret _
  | some bytes => exact .ret _

theorem only_generate_registration_id : (generate_registration_id : LinkM L ℕ).run.Only LinkCall.Outside :=
  only_bind (only_linkCall .next_u32 trivial) (fun _ => .ret _)

theorem only_decode_private_key (key : String) :
    (Account.decode_private_key key : LinkM L L.PrivateKey).run.Only LinkCall.Outside := by
  unfold Account.decode_private_key
  cases L.b64_url_decode key with
  | none => exact .ret _
  | some bytes =>
    simp only
    cases L.private_key_deserialize bytes with
    | error e => exact .ret _
    | ok k => exact .ret _

theorem only_chat_url (account : Account L.toHostCrate) :
    (Account.chat_url account : LinkM L L.Url).run.Only LinkCall.Outside := by
  unfold Account.chat_url
  simp only
  split
  · exact .ret _
  · exact .ret _

theorem only_put_devices_link (base_url : L.Url) (phone_number password : String) (body : LinkDeviceRequestBody) :
    (put_devices_link base_url phone_number password body).run.Only LinkCall.Outside := by
  unfold put_devices_link
  apply only_bind (only_linkCall (.try_put _ _ _) trivial)
  intro answer
  cases answer with
  | ok r => exact .ret _
  | error e =>
    simp only
    by_cases he : e.kind = .PermissionDenied
    · rw [if_pos he]
      exact only_bind (only_linkCall (.try_put _ _ _) trivial) (fun r => only_propagate r)
    · rw [if_neg he]
      exact .ret _

theorem only_requestLink (device_name : String) (msg : ProvisionMessage) :
    (Account.requestLink device_name msg : LinkM L (Account.Linked L)).run.Only LinkCall.Outside := by
  unfold Account.requestLink
  apply only_bind (only_linkCall .self trivial)
  intro account
  cases msg.provisioning_code with
  | none => exact .ret _
  | some verification_code =>
    cases msg.profile_key with
    | none => exact .ret _
    | some profile_key_b64 =>
      simp only
      cases L.b64_url_decode profile_key_b64 with
      | none => exact .ret _
      | some profile_key_bytes =>
        apply only_bind only_generate_link_password
        intro password
        apply only_bind only_generate_registration_id
        intro registration_id
        apply only_bind only_generate_registration_id
        intro pni_registration_id
        apply only_bind (only_linkCall (.encrypt_device_name _ _) trivial)
        intro name
        apply only_bind (only_propagate name)
        intro encrypted_name
        apply only_bind (only_propagate _)
        intro attrs
        apply only_bind (only_decode_private_key _)
        intro aci_priv
        apply only_bind (only_decode_private_key _)
        intro pni_priv
        apply only_bind (only_linkCall (.generate_prekeys _ _) trivial)
        intro keys
        apply only_bind (only_propagate keys)
        intro generated
        apply only_bind (only_chat_url account)
        intro base_url
        apply only_bind (only_put_devices_link _ _ _ _)
        intro response
        exact .ret _

end Frames

section Linking

variable {L : LinkCrates} {τ : Type} (env : LinkEnv L τ)

theorem mem_of_lookup {β : Type} {entries : List (String × β)} {key : String} {b : β}
    (h : entries.lookup key = some b) : (key, b) ∈ entries := by
  induction entries with
  | nil => cases h
  | cons entry entries ih =>
    obtain ⟨k, b'⟩ := entry
    rw [List.lookup_cons] at h
    by_cases hk : key = k
    · subst hk
      rw [beq_self_eq_true] at h
      rw [← Option.some.inj h]
      exact List.mem_cons_self
    · rw [beq_false_of_ne hk] at h
      exact List.mem_cons_of_mem _ (ih h)

theorem mirrors_dict {U : HostCrate} : ∀ entry ∈ Account.mirrors U, ∀ (account : Account U) value account',
    entry.2 account value = .ok account' → account'.pddb_dict = account.pddb_dict := by
  have htext : ∀ {set : Account U → Option String → Account U}, (∀ a v, (set a v).pddb_dict = a.pddb_dict) →
      ∀ a v a', Account.Mirror.text set a v = .ok a' → a'.pddb_dict = a.pddb_dict := by
    intro set hset a v a' h
    rw [← Except.ok.inj h]
    exact hset a v
  have hparsed : ∀ {α : Type} {parse : String → Option α} {set : Account U → α → Account U},
      (∀ a x, (set a x).pddb_dict = a.pddb_dict) →
      ∀ a v a', Account.Mirror.parsed parse set a v = .ok a' → a'.pddb_dict = a.pddb_dict := by
    intro α parse set hset a v a' h
    unfold Account.Mirror.parsed at h
    cases hx : v.bind parse with
    | none =>
      rw [hx] at h
      cases h
    | some x =>
      rw [hx] at h
      rw [← Except.ok.inj h]
      exact hset a x
  have hnone : ∀ (a : Account U) v a', Account.Mirror.none a v = .ok a' → a'.pddb_dict = a.pddb_dict := by
    intro a v a' h
    rw [← Except.ok.inj h]
  intro entry hentry
  simp only [Account.mirrors, List.mem_cons, List.not_mem_nil, or_false] at hentry
  rcases hentry with rfl | rfl | rfl | rfl | rfl | rfl | rfl | rfl | rfl | rfl | rfl | rfl | rfl | rfl | rfl | rfl |
    rfl | rfl | rfl | rfl | rfl | rfl
  all_goals first
    | exact hnone
    | exact htext (fun _ _ => rfl)
    | exact hparsed (fun _ _ => rfl)

def assigned {U : HostCrate} (account : Account U) (key : String) (value : Option String) : Option (Account U) :=
  ((Account.mirrors U).lookup key).bind (fun mirror => (mirror account value).toOption)

theorem assigned_dict {U : HostCrate} {account account' : Account U} {key : String} {value : Option String}
    (h : assigned account key value = some account') : account'.pddb_dict = account.pddb_dict := by
  obtain ⟨mirror, hlookup, hmirror⟩ := Option.bind_eq_some_iff.mp h
  cases hm : mirror account value with
  | error e =>
    rw [hm] at hmirror
    cases hmirror
  | ok a =>
    rw [hm] at hmirror
    rw [← Option.some.inj hmirror]
    exact mirrors_dict _ (mem_of_lookup hlookup) account value a hm

theorem ensures_self_bind {α : Type} {f : Account L.toHostCrate → LinkM L α} {d : Device L.toHostCrate τ}
    {Q : Except Failure α → Device L.toHostCrate τ → Prop}
    (hf : Ensures env.handler (f d.account) d (fun v t _ => Q v t)) :
    Ensures env.handler (linkCall .self >>= f) d (fun v t _ => Q v t) :=
  ensures_call_bind (S := linkSignature L) hf

theorem ensures_account_set_new (key : String) (value : Option String) (d : Device L.toHostCrate τ) :
    Ensures env.handler (Account.set_new key value) d (fun v t _ => v = .ok () →
      assigned d.account key value = some t.account ∧
        ∀ k, t.pddb.value d.account.pddb_dict k = written k [(key, value)] (d.pddb.value d.account.pddb_dict k)) := by
  unfold Account.set_new
  apply ensures_self_bind
  apply ensures_bind (ensures_inPddbM env (ensures_set_new d.pddb d.account.pddb_dict key value))
  · rintro e t es ⟨r, -, -⟩ hv
    cases hv
  · rintro - t es ⟨r, -, ⟨-, hvalues⟩, haccount⟩
    cases hlookup : (Account.mirrors L.toHostCrate).lookup key with
    | none =>
      apply ensures_lift_bind
      intro hv
      cases hv
    | some mirror =>
      apply ensures_ofExcept_bind
      · rintro e - hv
        cases hv
      · intro account' hmirror
        have hassigned : assigned d.account key value = some account' := by
          rw [assigned, hlookup, Option.bind_some]
          exact congrArg Except.toOption hmirror
        exact fun _ => ⟨hassigned, hvalues⟩

def assignedAll {U : HostCrate} (account : Account U) : List (String × Option String) → Option (Account U)
  | [] => some account
  | (key, value) :: rest =>
    (assigned account key value).bind (fun account' => assignedAll account' rest)

theorem ensures_set_new_all (batch : List (String × Option String)) (d : Device L.toHostCrate τ) :
    Ensures env.handler (Account.set_new_all batch) d (fun v t _ => v = .ok () →
      assignedAll d.account batch = some t.account ∧ t.account.pddb_dict = d.account.pddb_dict ∧
        ∀ k, t.pddb.value d.account.pddb_dict k = written k batch (d.pddb.value d.account.pddb_dict k)) := by
  induction batch generalizing d with
  | nil => exact fun _ => ⟨rfl, rfl, fun _ => rfl⟩
  | cons entry rest ih =>
    obtain ⟨key, value⟩ := entry
    rw [Account.set_new_all]
    apply ensures_bind (ensures_account_set_new env key value d)
    · intro e t es _ hv
      cases hv
    · intro _ t es hfirst
      obtain ⟨hassigned, hvalues⟩ := hfirst rfl
      have hdict := assigned_dict hassigned
      apply Ensures.mono (ih t)
      intro v u es' hrest hv
      obtain ⟨hall, hdict', hvalues'⟩ := hrest hv
      rw [hdict] at hdict' hvalues'
      refine ⟨?_, hdict', ?_⟩
      · rw [assignedAll, hassigned]
        exact hall
      · intro k
        rw [hvalues' k, hvalues k, ← written_cons]

def Named (key : String) : Prop := ∃ c ∈ key.toList, c.isDigit = false

theorem only_saveRecord {dict key : String} (hkey : Named key) (dict' : String) (id : Except SignalProtocolError ℕ)
    (serialized : Except SignalProtocolError Bytes) :
    (saveRecord dict' id serialized).run.Only (PddbCall.Leaves dict key) := by
  apply only_bind (.ret _)
  intro n
  have hne : (dict, key) ≠ (dict', toString n) := by
    intro h
    obtain ⟨c, hc, hdigit⟩ := hkey
    rw [(Prod.mk.inj h).2] at hc
    rw [toString_digits n c hc] at hdigit
    cases hdigit
  apply only_bind (.ret _)
  intro buf
  apply only_bind (only_lift (only_write_binary hne hne trivial))
  exact fun _ => .ret _

theorem only_save_to_pddb {dict key : String} (hkey : Named key) (prekeys : Prekeys L) :
    (save_to_pddb prekeys).run.Only (PddbCall.Leaves dict key) := by
  apply only_mapError
  apply only_bind (only_saveRecord hkey _ _ _)
  intro _
  apply only_bind (only_saveRecord hkey _ _ _)
  intro _
  apply only_bind (only_saveRecord hkey _ _ _)
  intro _
  exact only_saveRecord hkey _ _ _

theorem ensures_save (prekeys : Prekeys L) (d : Device L.toHostCrate τ) :
    Ensures env.handler (inPddbM (save_to_pddb prekeys)) d (fun _ t _ => t.account = d.account ∧
      ∀ dict key, Named key → t.pddb.value dict key = d.pddb.value dict key) := by
  have hsave : Ensures Pddb.handler (save_to_pddb prekeys) d.pddb (fun _ q _ =>
      ∀ dict key, Named key → q.value dict key = d.pddb.value dict key) :=
    fun dict key hkey => Pddb.value_of_leaves (only_save_to_pddb hkey prekeys) d.pddb
  apply Ensures.mono (ensures_inPddbM env hsave)
  rintro v t es ⟨r, -, hvalues, haccount⟩
  exact ⟨haccount, hvalues⟩

theorem ensures_link_request (device_name : String) (msg : ProvisionMessage) (d : Device L.toHostCrate τ)
    {P : Account.Linked L → List (Event (linkSignature L) (Device L.toHostCrate τ)) → Prop}
    (hrequest : Ensures env.handler (Account.requestLink device_name msg) d
      (fun v _ es => ∀ linked, v = .ok linked → P linked es)) :
    Ensures env.handler (Account.link device_name msg) d (fun v t es => v = .ok true →
      ∃ linked received, P linked received ∧ received ⊆ es ∧
        assignedAll d.account (Account.credentials msg linked) = some t.account ∧
        ∀ key, Named key → t.pddb.value d.account.pddb_dict key =
          written key (Account.credentials msg linked) (d.pddb.value d.account.pddb_dict key)) := by
  unfold Account.link
  apply ensures_call_bind (S := linkSignature L)
  change Ensures env.handler (if d.account.is_primary_device then _ else _) d _
  by_cases hprimary : d.account.is_primary_device
  · rw [if_pos hprimary]
    intro hv
    cases hv
  · rw [if_neg hprimary]
    apply ensures_bind ((ensures_outside env (only_requestLink device_name msg) d).and hrequest)
    · intro e t es _ hv
      cases hv
    · rintro linked t es ⟨⟨hpddb, haccount⟩, hlinked⟩
      apply ensures_bind (ensures_set_new_all env (Account.credentials msg linked) t)
      · intro e u es' _ hv
        cases hv
      · intro _ u es' hbatch
        obtain ⟨hassigned, -, hvalues⟩ := hbatch rfl
        rw [haccount] at hassigned
        rw [haccount, hpddb] at hvalues
        apply ensures_lift_bind
        apply ensures_ofExcept_bind
        · rintro e - hv
          cases hv
        · rintro - -
          apply ensures_bind (ensures_save env linked.generated _)
          · intro e x es'' _ hv
            cases hv
          · rintro - x es'' ⟨hsame, hkept⟩
            intro _
            refine ⟨linked, es, hlinked linked rfl, ?_, hassigned.trans (congrArg some hsame.symm), ?_⟩
            · exact List.subset_cons_of_subset _ (List.subset_append_left _ _)
            · intro key hkey
              exact (hkept _ key hkey).trans (hvalues key)

theorem ensures_link (device_name : String) (msg : ProvisionMessage) (d : Device L.toHostCrate τ) :
    Ensures env.handler (Account.link device_name msg) d (fun v t _ => v = .ok true →
      ∃ linked : Account.Linked L, assignedAll d.account (Account.credentials msg linked) = some t.account ∧
        ∀ key, Named key → t.pddb.value d.account.pddb_dict key =
          written key (Account.credentials msg linked) (d.pddb.value d.account.pddb_dict key)) := by
  apply (ensures_link_request env device_name msg d (P := fun _ _ => True) (fun _ _ => trivial)).mono
  intro v t es hlink hv
  obtain ⟨linked, -, -, -, hassigned, hvalues⟩ := hlink hv
  exact ⟨linked, hassigned, hvalues⟩

end Linking

section Restart

variable {L : LinkCrates} {τ : Type} (env : LinkEnv L τ)

/-- What a restart should find: a registered linked device with the credentials that are in memory. -/
def SurvivesRestart (dict : String) (d : Device L.toHostCrate τ) : Prop :=
  ∃ account, ((Account.read L.toHostCrate dict).exec Pddb.handler d.pddb).value = .ok account ∧
    account.registered = true ∧ account.is_multi_device = true ∧
    account.device_id = d.account.device_id ∧ account.password = d.account.password ∧
    account.number = d.account.number ∧
    account.aci_identity_private = d.account.aci_identity_private ∧
    account.aci_identity_public = d.account.aci_identity_public ∧
    account.pni_identity_private = d.account.pni_identity_private ∧
    account.pni_identity_public = d.account.pni_identity_public ∧
    account.aci_service_id = d.account.aci_service_id ∧ account.pni_service_id = d.account.pni_service_id ∧
    account.profile_key = d.account.profile_key ∧
    account.encrypted_device_name = d.account.encrypted_device_name

theorem written_defaults {U : HostCrate} (host : U.Host) (senv : ServiceEnvironment) (old : Option Bytes) :
    ∀ entry ∈ Account.defaults host senv,
      written entry.1 ((Account.defaults host senv).map (fun entry => (entry.1, some entry.2))) old =
        some (Pddb.overlay (utf8 entry.2) (old.getD [])) := by
  simp only [Account.defaults, List.forall_mem_cons, List.not_mem_nil, false_implies, implies_true, and_true]
  exact ⟨rfl, rfl, rfl, rfl, rfl, rfl, rfl⟩

/-- `true` written over the `false` of `new` reads `truee`. -/
theorem written_flags (msg : ProvisionMessage) (linked : Account.Linked L) :
    ∀ key ∈ [REGISTERED_KEY, IS_MULTI_DEVICE_KEY],
      written key (Account.credentials msg linked) (some (utf8 "false")) = some (utf8 "truee") := by
  obtain ⟨number, aci, pni, master_key, profile_key, provisioning_code, account_entropy_pool⟩ := msg
  simp only [List.forall_mem_cons, List.not_mem_nil, false_implies, implies_true, and_true]
  cases account_entropy_pool with
  | none => exact ⟨rfl, rfl⟩
  | some aep => exact ⟨rfl, rfl⟩

theorem written_credentials {msg : ProvisionMessage} {linked : Account.Linked L} (old : Option Bytes) :
    ∀ entry ∈ [(ACI_IDENTITY_PRIVATE_KEY, msg.aci.djb_private_key),
      (ACI_IDENTITY_PUBLIC_KEY, msg.aci.djb_identity_key), (REGISTRATION_ID_KEY, toString linked.registration_id),
      (PASSWORD_KEY, linked.password), (DEVICE_ID_KEY, toString linked.response.device_id),
      (ACI_SERVICE_ID_KEY, msg.aci.service_id)],
      written entry.1 (Account.credentials msg linked) old =
        some (Pddb.overlay (utf8 entry.2) (old.getD [])) := by
  obtain ⟨number, aci, pni, master_key, profile_key, provisioning_code, account_entropy_pool⟩ := msg
  simp only [List.forall_mem_cons, List.not_mem_nil, false_implies, implies_true, and_true]
  cases account_entropy_pool with
  | none => exact ⟨rfl, rfl, rfl, rfl, rfl, rfl⟩
  | some aep => exact ⟨rfl, rfl, rfl, rfl, rfl, rfl⟩

theorem flags_lost (dict : String) (host : L.Host) (senv : ServiceEnvironment) (p : Pddb) (outside : τ)
    (device_name : String) (msg : ProvisionMessage) {account : Account L.toHostCrate}
    (hempty : ∀ key, p.value dict key = none) :
    let made := (Account.new dict host senv : Fallible _ _ (Account L.toHostCrate)).exec Pddb.handler p
    let linked := (Account.link device_name msg).exec env.handler ⟨made.state, account, outside⟩
    made.value = .ok account → linked.value = .ok true →
      ∀ account', ((Account.read L.toHostCrate dict).exec Pddb.handler linked.state.pddb).value = .ok account' →
        account'.registered = false ∧ account'.is_multi_device = false := by
  intro made linked hmade hlinked account' hread
  obtain ⟨hnew, hstored⟩ := ensures_new dict host senv p
  have hdict : account.pddb_dict = dict := ofValues_dict (hnew.symm.trans hmade)
  obtain ⟨creds, -, hvalues⟩ := ensures_link env device_name msg ⟨made.state, account, outside⟩ hlinked
  have hflag : ∀ key ∈ [REGISTERED_KEY, IS_MULTI_DEVICE_KEY],
      linked.state.pddb.field dict key = some "truee" := by
    intro key hkey
    have hpair : key = REGISTERED_KEY ∨ key = IS_MULTI_DEVICE_KEY := by simpa using hkey
    have hnamed : Named key := by
      rcases hpair with rfl | rfl
      · exact ⟨'r', by decide, by decide⟩
      · exact ⟨'i', by decide, by decide⟩
    have hdefault : (key, "false") ∈ Account.defaults host senv := by
      rcases hpair with rfl | rfl <;> simp [Account.defaults]
    have hvalue := hvalues key hnamed
    simp only [hdict] at hvalue
    have hbefore : made.state.value dict key = some (utf8 "false") := by
      refine (hstored key).trans ?_
      rw [hempty key, ite_self, written_defaults host senv none _ hdefault, Option.getD_none, Pddb.overlay_nil]
    rw [hbefore, written_flags msg creds key hkey] at hvalue
    rw [Pddb.field]
    refine (congrArg (fun v => Option.bind v _) hvalue).trans ?_
    decide
  rw [(exec_read _ dict).1] at hread
  obtain ⟨hregistered, hmulti⟩ := flags_ofValues hread (hflag _ (by simp)) (hflag _ (by simp))
  rw [hregistered, hmulti]
  decide

theorem link_never_survives_restart (dict : String) (host : L.Host) (senv : ServiceEnvironment) (p : Pddb)
    (outside : τ) (device_name : String) (msg : ProvisionMessage) (account : Account L.toHostCrate)
    (hempty : ∀ key, p.value dict key = none) :
    let made := (Account.new dict host senv : Fallible _ _ (Account L.toHostCrate)).exec Pddb.handler p
    let linked := (Account.link device_name msg).exec env.handler ⟨made.state, account, outside⟩
    made.value = .ok account → linked.value = .ok true → ¬SurvivesRestart dict linked.state := by
  intro made linked hmade hlinked hsurvives
  obtain ⟨account', hread, hregistered, -⟩ := hsurvives
  have hlost := (flags_lost env dict host senv p outside device_name msg hempty hmade hlinked account' hread).1
  rw [hregistered] at hlost
  cases hlost

section Phone

def base64UrlDecode (s : String) : Option Bytes :=
  if s.toList.any (fun c => c = '=' || c = '+' || c = '/') then none
  else
    base64Decode (String.ofList (s.toList.map (fun c => if c = '-' then '+' else if c = '_' then '/' else c) ++
      List.replicate ((4 - s.length % 4) % 4) '='))

abbrev phoneCrates : LinkCrates where
  Host := String
  host_parse := fun s => some s
  host_to_string := fun host => host
  signal_org := "signal.org"
  parse_signal_org := rfl
  Url := String
  url_parse := fun s => some s
  set_path := fun url path => url ++ path
  url_to_string := fun url => url
  b64_url_decode := base64UrlDecode
  PrivateKey := Bytes
  private_key_deserialize := fun b => if b.length = 32 then .ok b else .error (.Other "BadKeyLength")
  aes256_gcm_encrypt := fun _ _ _ => some
    [0xce, 0xa7, 0x40, 0x3d, 0x4d, 0x60, 0x6b, 0x6e, 0x07, 0x4e, 0xc5, 0xd3, 0xba, 0xf3, 0x9d, 0x18,
      0xd0, 0xd1, 0xc8, 0xa7, 0x99, 0x99, 0x6b, 0xf0, 0x26, 0x5b, 0x98, 0xb5, 0xd4, 0x8a, 0xb9, 0x19]
  SignedPreKeyRecord := ℕ × Bytes
  signed_id := fun r => .ok r.1
  signed_serialize := fun r => .ok r.2
  KyberPreKeyRecord := ℕ × Bytes
  kyber_id := fun r => .ok r.1
  kyber_serialize := fun r => .ok r.2
  debug := fun _ => "SignalProtocolError"

def zeroKey : String := "AAAAAAAAAAAAAAAAAAAAAAAAAAAAAAAAAAAAAAAAAAA"

def phonePrekeys : Prekeys phoneCrates where
  aci_signed := ⟨11, "BQ", "AA"⟩
  pni_signed := ⟨12, "BQ", "AA"⟩
  aci_kyber_last_resort := ⟨13, "CA", "AA"⟩
  pni_kyber_last_resort := ⟨14, "CA", "AA"⟩
  aci_signed_record := (11, [8, 11])
  pni_signed_record := (12, [8, 12])
  aci_kyber_record := (13, [8, 13])
  pni_kyber_record := (14, [8, 14])

def phoneName : String :=
  base64Encode ([0x0a, 33, 5] ++ List.replicate 32 9 ++ [0x12, 16] ++ List.replicate 16 3 ++ [0x1a, 9] ++
    List.replicate 9 1)

def phoneEnv : LinkEnv phoneCrates Unit where
  try_fill_bytes := fun n s => (some (List.replicate n 7), s)
  next_u32 := fun s => (41, s)
  encrypt_device_name := fun _ _ s => (.ok phoneName, s)
  generate_prekeys := fun _ _ s => (.ok phonePrekeys, s)
  try_put := fun _ _ _ s => (.ok ⟨"9d0652a3-dcc3-4d11-975f-74d61598733f", "PNI:0a1b2c3d", 2, two_fits⟩, s)
  put_attributes := fun _ _ _ s => (.ok (), s)

def phoneMessage : ProvisionMessage where
  number := "+15550100"
  aci := ⟨"9d0652a3-dcc3-4d11-975f-74d61598733f", zeroKey, zeroKey⟩
  pni := ⟨"PNI:0a1b2c3d", zeroKey, zeroKey⟩
  master_key := ""
  profile_key := some zeroKey
  provisioning_code := some "123456"
  account_entropy_pool := none

def madeAccount : Account phoneCrates.toHostCrate where
  pddb_dict := "sigchat.account"
  aci_identity_private := none
  aci_identity_public := none
  aci_service_id := none
  device_id := 0
  encrypted_device_name := none
  host := "signal.org"
  is_multi_device := false
  number := none
  password := none
  pin_master_key := none
  pni_identity_private := none
  pni_identity_public := none
  pni_service_id := none
  profile_key := none
  registered := false
  service_environment := .Live
  storage_key := none
  store_last_receive_timestamp := 0
  store_manifest_version := -1
  store_manifest := none

def madePhone : Outcome pddbSignature Pddb (Except Error (Account phoneCrates.toHostCrate)) :=
  (Account.new "sigchat.account" "signal.org" .Live).exec Pddb.handler ∅

def linkedPhone : Outcome (linkSignature phoneCrates) (Device phoneCrates.toHostCrate Unit) (Except Failure Bool) :=
  (Account.link "precursor" phoneMessage).exec phoneEnv.handler ⟨madePhone.state, madeAccount, ()⟩

theorem madePhone_value : madePhone.value = .ok madeAccount := rfl

theorem linkedPhone_value : linkedPhone.value = .ok true := by decide +kernel

theorem phone_not_survived : linkedPhone.value = .ok true ∧ ¬SurvivesRestart "sigchat.account" linkedPhone.state :=
  ⟨linkedPhone_value, link_never_survives_restart phoneEnv "sigchat.account" "signal.org" .Live ∅ () "precursor"
    phoneMessage madeAccount (Pddb.value_empty _) madePhone_value linkedPhone_value⟩

/-- One link in full: it succeeds, the account in memory is a registered linked device whose encrypted name fits
the read buffer, and the account read back is not registered. -/
theorem phone_forgets_link :
    linkedPhone.value = .ok true ∧ linkedPhone.state.account.registered = true ∧
      linkedPhone.state.account.encrypted_device_name = some phoneName ∧
      (utf8 phoneName).length ≤ AccountDict.READ_BUFFER ∧
      ¬SurvivesRestart "sigchat.account" linkedPhone.state := by
  refine ⟨linkedPhone_value, by decide +kernel, by decide +kernel, by decide, ?_⟩
  rintro ⟨account, hread, hregistered, -⟩
  have hlost := (flags_lost phoneEnv "sigchat.account" "signal.org" .Live ∅ () "precursor" phoneMessage
    (Pddb.value_empty _) madePhone_value linkedPhone_value account hread).1
  rw [hregistered] at hlost
  cases hlost

end Phone

end Restart

end XousSignalClient
