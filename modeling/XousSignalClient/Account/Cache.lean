import XousSignalClient.Account.Restart
import XousSignalClient.Pddb.Calls

namespace XousSignalClient

open Encoding Interaction Fallible

/-- `set` of `account.rs`: the errors of all its calls end here. -/
def AccountDict.set (dict key : String) (value : Option String) : FileProgram (Except Error Unit) := do
  let _deleted : Except IoError Unit ← (FileCall.delete_key dict key).ask
  match value with
  | none => pure (.ok ())
  | some value =>
    let opened : Except IoError Unit ← (FileCall.get dict key true).ask
    match opened with
    | .error _ => pure (.ok ())
    | .ok () =>
      let written : Except IoError ℕ ← (FileCall.write dict key (utf8 value)).ask
      match written with
      | .error _ => pure (.ok ())
      | .ok _ =>
        let _synced : Except IoError Unit ← FileCall.sync.ask
        pure (.ok ())

namespace Account

variable {U : HostCrate}

/-- The `match key` of `set`, whose arms are those of `set_new`: the result, and the account it leaves. -/
def assign (account : Account U) (key : String) (value : Option String) :
    FileProgram (Except Failure Unit × Account U) :=
  match (mirrors U).lookup key with
  | some mirror =>
    match mirror account value with
    | .ok account' => pure (.ok (), account')
    | .error e => pure (.error e, account)
  | none => do
    let _deleted : Except IoError Unit ← (FileCall.delete_key account.pddb_dict key).ask
    pure (.error (.error ⟨.NotFound, "entity not found"⟩), account)

def set (account : Account U) (key : String) (value : Option String) :
    FileProgram (Except Failure Unit × Account U) := do
  match ← AccountDict.set account.pddb_dict key value with
  | .ok () => assign account key value
  | .error e => pure (.error (.error e), account)

end Account

section Fields

variable (U : HostCrate)

inductive FieldValue where
  | text (value : Option String)
  | device_id (n : ℕ)
  | host (h : U.Host)
  | flag (b : Bool)
  | environment (env : ServiceEnvironment)
  | number (n : Int)

variable {U}

def Account.fields (account : Account U) : List (String × FieldValue U) :=
  [(ACI_IDENTITY_PRIVATE_KEY, .text account.aci_identity_private),
    (ACI_IDENTITY_PUBLIC_KEY, .text account.aci_identity_public), (ACI_SERVICE_ID_KEY, .text account.aci_service_id),
    (DEVICE_ID_KEY, .device_id account.device_id), (ENCRYPTED_DEVICE_NAME_KEY, .text account.encrypted_device_name),
    (HOST_KEY, .host account.host), (IS_MULTI_DEVICE_KEY, .flag account.is_multi_device),
    (NUMBER_KEY, .text account.number), (PASSWORD_KEY, .text account.password),
    (PIN_MASTER_KEY_KEY, .text account.pin_master_key), (PNI_IDENTITY_PRIVATE_KEY, .text account.pni_identity_private),
    (PNI_IDENTITY_PUBLIC_KEY, .text account.pni_identity_public), (PNI_SERVICE_ID_KEY, .text account.pni_service_id),
    (PROFILE_KEY_KEY, .text account.profile_key), (REGISTERED_KEY, .flag account.registered),
    (SERVICE_ENVIRONMENT_KEY, .environment account.service_environment), (STORAGE_KEY_KEY, .text account.storage_key),
    (STORE_LAST_RECEIVE_TIMESTAMP_KEY, .number account.store_last_receive_timestamp),
    (STORE_MANIFEST_VERSION_KEY, .number account.store_manifest_version),
    (STORE_MANIFEST_KEY, .text account.store_manifest)]

def Account.fieldOf (account : Account U) (key : String) : Option (FieldValue U) := account.fields.lookup key

def parseField (key : String) (value : Option String) : Option (FieldValue U) :=
  if key = DEVICE_ID_KEY then (value.bind (parseUnsigned (2 ^ 32))).map .device_id
  else if key = HOST_KEY then (value.bind U.host_parse).map .host
  else if key = IS_MULTI_DEVICE_KEY ∨ key = REGISTERED_KEY then (value.bind parseBool).map .flag
  else if key = SERVICE_ENVIRONMENT_KEY then (value.bind ServiceEnvironment.from_str).map .environment
  else if key = STORE_LAST_RECEIVE_TIMESTAMP_KEY ∨ key = STORE_MANIFEST_VERSION_KEY then
    (value.bind parseSigned64).map .number
  else if key ∈ Account.KEYS then some (.text value)
  else none

end Fields

section Storing

variable (faults : CallFaults) (p : Pddb) (dict key : String)

/-- The calls of a `set` leave just the new value: nothing fails but what does not matter. -/
structure CallFaults.Stores (value : Option String) : Prop where
  deleted : faults.delete_key = .none ∨ ∀ old, p.value dict key = some old →
    ∃ v, value = some v ∧ old.length ≤ (utf8 v).length
  fits : ∀ v, value = some v → (utf8 v).length ≤ AccountDict.READ_BUFFER
  opened : value.isSome → faults.get = .none
  written : ∀ v, value = some v →
    faults.write = .none ∨ ∃ n, (utf8 v).length ≤ n ∧ faults.write = some ⟨n, .none⟩

variable {faults p dict key}

theorem run_dict_set_value (value : Option String) :
    ((AccountDict.set dict key value).run faults.handler p).value = .ok () := by
  obtain ⟨reads, deletes, opens, writes, syncs⟩ := faults
  cases value with
  | none => rfl
  | some v =>
    rcases opens with _ | ⟨e, created⟩
    · rcases writes with _ | ⟨n, _ | e⟩ <;> rfl
    · rfl

theorem stores_left {value : Option String} (h : faults.Stores p dict key value) :
    (value = none → faults.left p dict key = none) ∧
      ∀ v, value = some v → ((faults.left p dict key).getD []).length ≤ (utf8 v).length := by
  rcases h.deleted with hdelete | hshort
  · have hnone : faults.left p dict key = none := by simp [CallFaults.left, hdelete]
    refine ⟨fun _ => hnone, ?_⟩
    intro v _
    simp [hnone]
  · have hleft : ∀ old, faults.left p dict key = some old →
        ∃ v, value = some v ∧ old.length ≤ (utf8 v).length := by
      intro old hold
      apply hshort
      unfold CallFaults.left at hold
      split_ifs at hold
      exact hold
    constructor
    · rintro rfl
      cases hold : faults.left p dict key with
      | none => rfl
      | some old =>
        obtain ⟨v, hv, -⟩ := hleft old hold
        cases hv
    · rintro v rfl
      cases hold : faults.left p dict key with
      | none => simp
      | some old =>
        obtain ⟨v', hv, hlen⟩ := hleft old hold
        obtain rfl := Option.some.inj hv
        exact hlen

theorem run_dict_set {value : Option String} (h : faults.Stores p dict key value) :
    let o := (AccountDict.set dict key value).run faults.handler p
    o.state.field dict key = value ∧ ∀ key', key' ≠ key → o.state.value dict key' = p.value dict key' := by
  intro o
  have hleft := CallFaults.value_delete faults p dict key
  have hrest : ∀ key', key' ≠ key →
      (faults.answer (.delete_key dict key) p).2.value dict key' = p.value dict key' :=
    fun key' hne => CallFaults.value_delete_ne faults p dict key (fun h => hne (Prod.mk.inj h).2)
  obtain ⟨hnone, hshort⟩ := stores_left h
  cases value with
  | none =>
    have hstate : o.state = (faults.answer (.delete_key dict key) p).2 := rfl
    refine ⟨?_, fun key' hne => hstate ▸ hrest key' hne⟩
    rw [Pddb.field, hstate, hleft, hnone rfl]
    rfl
  | some v =>
    have hstate : o.state = ((faults.answer (.delete_key dict key) p).2.put dict key []).put dict key (utf8 v) := by
      have hopened := h.opened rfl
      have hwritten := h.written v rfl
      obtain ⟨reads, deletes, opens, writes, syncs⟩ := faults
      obtain rfl : opens = .none := hopened
      rcases hwritten with hwrites | ⟨n, hn, hwrites⟩
      · obtain rfl : writes = .none := hwrites
        rfl
      · obtain rfl : writes = some ⟨n, .none⟩ := hwrites
        have hstate : o.state = ((CallFaults.answer ⟨reads, deletes, .none, some ⟨n, .none⟩, syncs⟩
          (.delete_key dict key) p).2.put dict key []).put dict key ((utf8 v).take n) := rfl
        rw [hstate, List.take_of_length_le hn]
    refine ⟨?_, ?_⟩
    · rw [Pddb.field, hstate, Pddb.value_put, CallFaults.value_put_empty, hleft, Option.getD_some,
        Pddb.overlay_of_length_le (hshort v rfl), Option.bind_some, List.take_of_length_le (h.fits v rfl),
        from_utf8_utf8]
    · intro key' hne
      have hkey : (dict, key') ≠ (dict, key) := fun h => hne (Prod.mk.inj h).2
      rw [hstate, Pddb.value_put_ne _ _ hkey, Pddb.value_put_ne _ _ hkey, hrest key' hne]

end Storing

section Mirroring

variable {U : HostCrate}

def Account.TEXTS : List String :=
  [ACI_IDENTITY_PRIVATE_KEY, ACI_IDENTITY_PUBLIC_KEY, ACI_SERVICE_ID_KEY, ENCRYPTED_DEVICE_NAME_KEY, NUMBER_KEY,
    PASSWORD_KEY, PIN_MASTER_KEY_KEY, PNI_IDENTITY_PRIVATE_KEY, PNI_IDENTITY_PUBLIC_KEY, PNI_SERVICE_ID_KEY,
    PROFILE_KEY_KEY, STORAGE_KEY_KEY]

def Account.MIRRORED : List String :=
  Account.TEXTS ++ [DEVICE_ID_KEY, IS_MULTI_DEVICE_KEY, REGISTERED_KEY, SERVICE_ENVIRONMENT_KEY]

variable {dict key : String} {value : Option String} {f f' : String → Option String} {account : Account U}

def Mirrors (dict key : String) (value : Option String) (f' : String → Option String) (account : Account U) : Prop :=
  ∃ mirror account', (Account.mirrors U).lookup key = some mirror ∧ mirror account value = .ok account' ∧
    account'.fieldOf key = parseField key value ∧ Account.ofValues dict f' = .ok account'

theorem mirrors_text (hkey : key ∈ Account.TEXTS) (hread : Account.ofValues dict f = .ok account)
    (hvalue : f' key = value) (hoff : ∀ k, k ≠ key → f' k = f k) : Mirrors dict key value f' account := by
  unfold Account.ofValues at hread
  split at hread
  · next device_id host is_multi_device registered env version hdevice hhost hmulti hregistered henv hversion =>
    obtain rfl := Except.ok.inj hread
    simp only [Account.TEXTS, List.mem_cons, List.not_mem_nil, or_false] at hkey
    rcases hkey with rfl | rfl | rfl | rfl | rfl | rfl | rfl | rfl | rfl | rfl | rfl | rfl
    all_goals
      refine ⟨_, _, rfl, rfl, rfl, ?_⟩
      simp (disch := decide) only [Account.ofValues, hoff, hvalue, hdevice, hhost, hmulti, hregistered, henv, hversion]
  · cases hread

theorem some_of_map {α β : Type} {o : Option α} {g : α → β} (h : (o.map g).isSome) : ∃ x, o = some x := by
  rw [Option.isSome_map] at h
  exact Option.isSome_iff_exists.mp h

theorem mirrors_of_parse (hkey : key ∈ Account.MIRRORED)
    (hparse : (parseField key value : Option (FieldValue U)).isSome) (hread : Account.ofValues dict f = .ok account)
    (hvalue : f' key = value) (hoff : ∀ k, k ≠ key → f' k = f k) : Mirrors dict key value f' account := by
  rcases List.mem_append.mp hkey with htext | hkey
  · exact mirrors_text htext hread hvalue hoff
  unfold Account.ofValues at hread
  split at hread
  · next device_id host is_multi_device registered env version hdevice hhost hmulti hregistered henv hversion =>
    obtain rfl := Except.ok.inj hread
    simp only [List.mem_cons, List.not_mem_nil, or_false] at hkey
    rcases hkey with rfl | rfl | rfl | rfl
    · obtain ⟨n, hn⟩ := some_of_map hparse
      refine ⟨_, _, rfl, by rw [Account.Mirror.parsed, hn], ?_, ?_⟩
      · exact (congrArg (Option.map FieldValue.device_id) hn).symm
      · obtain ⟨v, rfl, hv⟩ := Option.bind_eq_some_iff.mp hn
        simp (disch := decide) only [Account.ofValues, hoff, hvalue, hhost, hmulti, hregistered, henv, hversion]
        rw [hv, Option.getD_some]
    · obtain ⟨b, hb⟩ := some_of_map hparse
      refine ⟨_, _, rfl, by rw [Account.Mirror.parsed, hb], ?_, ?_⟩
      · exact (congrArg (Option.map FieldValue.flag) hb).symm
      · obtain ⟨v, rfl, hv⟩ := Option.bind_eq_some_iff.mp hb
        simp (disch := decide) only [Account.ofValues, hoff, hvalue, hdevice, hhost, hregistered, henv, hversion]
        rw [hv, Option.getD_some]
    · obtain ⟨b, hb⟩ := some_of_map hparse
      refine ⟨_, _, rfl, by rw [Account.Mirror.parsed, hb], ?_, ?_⟩
      · exact (congrArg (Option.map FieldValue.flag) hb).symm
      · obtain ⟨v, rfl, hv⟩ := Option.bind_eq_some_iff.mp hb
        simp (disch := decide) only [Account.ofValues, hoff, hvalue, hdevice, hhost, hmulti, henv, hversion]
        rw [hv, Option.getD_some]
    · obtain ⟨e, he⟩ := some_of_map hparse
      refine ⟨_, _, rfl, by rw [Account.Mirror.parsed, he], ?_, ?_⟩
      · exact (congrArg (Option.map FieldValue.environment) he).symm
      · obtain ⟨v, rfl, hv⟩ := Option.bind_eq_some_iff.mp he
        simp (disch := decide) only [Account.ofValues, hoff, hvalue, hdevice, hhost, hmulti, hregistered, hversion]
        rw [hv, Option.getD_some]
  · cases hread

end Mirroring

section Runs

variable {U : HostCrate}

def Cached (s : Pddb × Account U) : Prop :=
  ((Account.read U s.2.pddb_dict).exec Pddb.handler s.1).value = .ok s.2

structure SetCall where
  key : String
  value : Option String
  faults : CallFaults

structure SetEvent (U : HostCrate) where
  call : SetCall
  before : Pddb × Account U
  result : Except Failure Unit
  after : Pddb × Account U

def SetCall.event (c : SetCall) (s : Pddb × Account U) : SetEvent U :=
  let o := (s.2.set c.key c.value).run c.faults.handler s.1
  ⟨c, s, o.value.1, o.state, o.value.2⟩

def setEvents : List SetCall → Pddb × Account U → List (SetEvent U)
  | [], _ => []
  | c :: cs, s => c.event s :: setEvents cs (c.event s).after

def SetCall.Valid (U : HostCrate) (c : SetCall) : Prop := (parseField c.key c.value : Option (FieldValue U)).isSome

def SetEvent.Faithful (e : SetEvent U) : Prop :=
  (e.result = .ok () → e.after.2.fieldOf e.call.key = parseField e.call.key e.call.value ∧
    Cached e.after) ∧
  (e.result ≠ .ok () → e.after.2.fieldOf e.call.key = e.before.2.fieldOf e.call.key)

def SetEvent.Stored (e : SetEvent U) : Prop :=
  e.call.key ∈ Account.MIRRORED ∧ e.call.faults.Stores e.before.1 e.before.2.pddb_dict e.call.key e.call.value

theorem run_set {account account' : Account U} {key : String} {value : Option String} {mirror : Account.Mirror U}
    (hmirror : (Account.mirrors U).lookup key = some mirror) (hset : mirror account value = .ok account')
    (faults : CallFaults) (p : Pddb) :
    ((account.set key value).run faults.handler p).value = (.ok (), account') ∧
      ((account.set key value).run faults.handler p).state =
        ((AccountDict.set account.pddb_dict key value).run faults.handler p).state := by
  have hassign : account.assign key value = pure (.ok (), account') := by
    unfold Account.assign
    rw [hmirror]
    simp only [hset]
  unfold Account.set
  rw [Program.run_bind, run_dict_set_value]
  simp only [hassign]
  exact ⟨rfl, rfl⟩

theorem event_faithful {c : SetCall} {s : Pddb × Account U} (hcached : Cached s) (hvalid : c.Valid U)
    (hstored : (c.event s).Stored) : (c.event s).Faithful ∧ Cached (c.event s).after := by
  obtain ⟨p, account⟩ := s
  obtain ⟨key, value, faults⟩ := c
  obtain ⟨hkey, hstores⟩ := hstored
  change key ∈ Account.MIRRORED at hkey
  change faults.Stores p account.pddb_dict key value at hstores
  have hread : Account.ofValues account.pddb_dict (p.field account.pddb_dict) = .ok account :=
    (exec_read p account.pddb_dict).1.symm.trans hcached
  obtain ⟨hvalue, hrest⟩ := run_dict_set hstores
  have hoff : ∀ k, k ≠ key →
      ((AccountDict.set account.pddb_dict key value).run faults.handler p).state.field account.pddb_dict k =
        p.field account.pddb_dict k := by
    intro k hk
    rw [Pddb.field, Pddb.field]
    exact congrArg (fun v => Option.bind v _) (hrest k hk)
  obtain ⟨mirror, account', hmirror, hset, hfield, hread'⟩ := mirrors_of_parse hkey hvalid hread hvalue hoff
  obtain ⟨hreturned, hleft⟩ := run_set hmirror hset faults p
  have hafter : (SetCall.event ⟨key, value, faults⟩ (p, account)).after =
      (((AccountDict.set account.pddb_dict key value).run faults.handler p).state, account') := by
    simp only [SetCall.event, hreturned, hleft]
  have hresult : (SetCall.event ⟨key, value, faults⟩ (p, account)).result = .ok () := by
    simp only [SetCall.event, hreturned]
  have hcached' : Cached (SetCall.event ⟨key, value, faults⟩ (p, account)).after := by
    rw [hafter, Cached, ofValues_dict hread', (exec_read _ _).1]
    exact hread'
  refine ⟨⟨fun _ => ⟨?_, hcached'⟩, fun h => absurd hresult h⟩, hcached'⟩
  rw [hafter]
  exact hfield

/-- In a run whose calls all leave just their value, the account stays what the PDDB says. -/
theorem set_run_faithful {s : Pddb × Account U} {calls : List SetCall} (hcached : Cached s)
    (hvalid : ∀ c ∈ calls, c.Valid U) (hstored : ∀ e ∈ setEvents calls s, e.Stored) :
    ∀ e ∈ setEvents calls s, e.Faithful := by
  induction calls generalizing s with
  | nil => simp [setEvents]
  | cons c cs ih =>
    simp only [setEvents, List.forall_mem_cons] at hstored ⊢
    obtain ⟨hnow, hnext⟩ := event_faithful hcached (hvalid c List.mem_cons_self) hstored.1
    exact ⟨hnow, ih hnext (fun c' hc' => hvalid c' (List.mem_cons_of_mem c hc')) hstored.2⟩

theorem number_ofValues {dict : String} {f : String → Option String} {account : Account U}
    (h : Account.ofValues dict f = .ok account) : account.number = f NUMBER_KEY := by
  unfold Account.ofValues at h
  split at h
  · rw [← Except.ok.inj h]
  · cases h

theorem madePhone_cached : Cached (madePhone.state, madeAccount) := rfl

theorem number_and_device_stored :
    let busy : CallFaults := { CallFaults.none with sync := some (.other "busy") }
    let calls : List SetCall := [⟨NUMBER_KEY, some "+15550100", busy⟩, ⟨DEVICE_ID_KEY, some "2", busy⟩]
    ∀ e ∈ setEvents calls (madePhone.state, madeAccount), e.Faithful := by
  intro busy calls
  have hstores : ∀ (p : Pddb) (dict key v : String), (utf8 v).length ≤ AccountDict.READ_BUFFER →
      busy.Stores p dict key (some v) := by
    intro p dict key v hv
    refine ⟨.inl rfl, ?_, fun _ => rfl, fun _ _ => .inl rfl⟩
    rintro _ ⟨⟩
    exact hv
  refine set_run_faithful madePhone_cached ?_ ?_
  · intro c hc
    rcases List.mem_cons.mp hc with rfl | hc
    · exact rfl
    · obtain rfl := List.mem_singleton.mp hc
      exact rfl
  · intro e he
    rcases List.mem_cons.mp he with rfl | he
    · exact ⟨by decide, hstores _ _ _ _ (by decide)⟩
    · obtain rfl := List.mem_singleton.mp he
      exact ⟨by decide, hstores _ _ _ _ (by decide)⟩

/-- The key cannot be created again, and the call succeeds: the number is in memory only. And a store manifest
is in the PDDB only, without any failure. -/
theorem set_not_faithful :
    let full : CallFaults := { CallFaults.none with get := some (.other "no free space", false) }
    let e := SetCall.event ⟨NUMBER_KEY, some "+15550100", full⟩ (madePhone.state, madeAccount)
    let e' := SetCall.event ⟨STORE_MANIFEST_KEY, some "AA", .none⟩ (madePhone.state, madeAccount)
    Cached (madePhone.state, madeAccount) ∧ (e.result = .ok () ∧ e.after.2.number = some "+15550100" ∧
      e.after.1.field "sigchat.account" NUMBER_KEY = none ∧ ¬e.Faithful) ∧
    (e'.result = .ok () ∧ e'.after.2.store_manifest = none ∧
      e'.after.1.field "sigchat.account" STORE_MANIFEST_KEY = some "AA" ∧ ¬e'.Faithful) := by
  intro full e e'
  have hresult : e.result = .ok () := rfl
  have hresult' : e'.result = .ok () := rfl
  have hgone : e.after.1.field "sigchat.account" NUMBER_KEY = none := by decide +kernel
  refine ⟨madePhone_cached, ⟨hresult, rfl, hgone, ?_⟩, ⟨hresult', rfl, by decide +kernel, ?_⟩⟩
  · intro h
    have hread : Account.ofValues "sigchat.account" (e.after.1.field "sigchat.account") = .ok e.after.2 :=
      (exec_read _ _).1.symm.trans (h.1 hresult).2
    have hnumber : e.after.2.number = some "+15550100" := rfl
    rw [number_ofValues hread, hgone] at hnumber
    cases hnumber
  · intro h
    have hfield := (h.1 hresult').1
    have hnone : e'.after.2.fieldOf STORE_MANIFEST_KEY = some (.text none) := rfl
    have hsome : (parseField STORE_MANIFEST_KEY (some "AA") : Option (FieldValue phoneCrates.toHostCrate)) =
        some (.text (some "AA")) := rfl
    exact absurd (hnone.symm.trans (hfield.trans hsome)) (by simp)

end Runs

end XousSignalClient
