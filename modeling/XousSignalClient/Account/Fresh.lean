import XousSignalClient.Account.Restart

namespace XousSignalClient

open Encoding Interaction Fallible

section Reset

variable {U : HostCrate}

def Account.optionals (account : Account U) : List (Option String) :=
  [account.aci_identity_private, account.aci_identity_public, account.aci_service_id, account.encrypted_device_name,
    account.number, account.password, account.pin_master_key, account.pni_identity_private,
    account.pni_identity_public, account.pni_service_id, account.profile_key, account.storage_key,
    account.store_manifest]

structure Account.Fresh (host : U.Host) (env : ServiceEnvironment) (account : Account U) : Prop where
  device_id : account.device_id = 0
  registered : account.registered = false
  is_multi_device : account.is_multi_device = false
  is_registered : account.is_registered = false
  store_manifest_version : account.store_manifest_version = -1
  host_eq : account.host = host
  service_environment : account.service_environment = env
  optionals : ∀ value ∈ account.optionals, value = none

def reread (new : String) (old : Option Bytes) : Option String :=
  from_utf8 ((Pddb.overlay (utf8 new) (old.getD [])).take AccountDict.READ_BUFFER)

def leftover (new : String) (old : Option Bytes) : Option String :=
  from_utf8 (((old.getD []).drop (utf8 new).length).take (AccountDict.READ_BUFFER - (utf8 new).length))

theorem reread_eq {new : String} (hnew : (utf8 new).length ≤ AccountDict.READ_BUFFER) (old : Option Bytes) :
    reread new old = (leftover new old).map (fun tail => new ++ tail) := by
  rw [reread, leftover, Pddb.overlay, List.take_append, List.take_of_length_le hnew, from_utf8_append]

def required (host : U.Host) (env : ServiceEnvironment) : List (String × String) :=
  (Account.defaults host env).filter (fun entry => entry.1 ≠ STORE_LAST_RECEIVE_TIMESTAMP_KEY)

variable (p : Pddb) (dict : String) (host : U.Host) (env : ServiceEnvironment)

def Readable : Prop := ∀ entry ∈ required host env, (reread entry.2 (p.value dict entry.1)).isSome

structure Overwritten : Prop where
  device_id : ∀ tail, leftover "0" (p.value dict DEVICE_ID_KEY) = some tail →
    ∀ n, parseUnsigned (2 ^ 32) ("0" ++ tail) = some n → n = 0
  host_eq : ∀ text, reread (U.host_to_string host) (p.value dict HOST_KEY) = some text →
    (U.host_parse text).getD U.signal_org = host
  service_environment : env = .Staging → leftover "Staging" (p.value dict SERVICE_ENVIRONMENT_KEY) = some ""
  store_manifest_version : ∀ tail, leftover "-1" (p.value dict STORE_MANIFEST_VERSION_KEY) = some tail →
    ∀ n, parseSigned64 ("-1" ++ tail) = some n → n = -1

theorem written_of_notMem {key : String} {entries : List (String × String)} (hkey : key ∉ entries.map Prod.fst)
    (old : Option Bytes) : written key (entries.map (fun entry => (entry.1, some entry.2))) old = old := by
  induction entries generalizing old with
  | nil => rfl
  | cons entry entries ih =>
    simp only [List.map_cons, List.mem_cons, not_or] at hkey
    rw [List.map_cons, written, if_neg hkey.1]
    exact ih hkey.2 old

theorem written_of_mem {key value : String} {entries : List (String × String)}
    (hnodup : (entries.map Prod.fst).Nodup) (hmem : (key, value) ∈ entries) (old : Option Bytes) :
    written key (entries.map (fun entry => (entry.1, some entry.2))) old =
      some (Pddb.overlay (utf8 value) (old.getD [])) := by
  induction entries generalizing old with
  | nil => cases hmem
  | cons entry entries ih =>
    rw [List.map_cons, List.nodup_cons] at hnodup
    rw [List.map_cons, written]
    rcases List.mem_cons.mp hmem with rfl | hmem
    · rw [if_pos rfl]
      exact written_of_notMem hnodup.1 _
    · have hne : key ≠ entry.1 := by
        rintro rfl
        exact hnodup.1 (List.mem_map.mpr ⟨_, hmem, rfl⟩)
      rw [if_neg hne]
      exact ih hnodup.2 hmem old

theorem keys_defaults : (Account.defaults host env).map Prod.fst = [DEVICE_ID_KEY, HOST_KEY, IS_MULTI_DEVICE_KEY,
    REGISTERED_KEY, SERVICE_ENVIRONMENT_KEY, STORE_LAST_RECEIVE_TIMESTAMP_KEY, STORE_MANIFEST_VERSION_KEY] := rfl

theorem defaults_nodup : ((Account.defaults host env).map Prod.fst).Nodup := by
  rw [keys_defaults]
  decide

theorem defaults_not_none {key value : String} (h : (key, value) ∈ Account.defaults host env) :
    key ∉ Account.NONE_KEYS := by
  have hall : ∀ k ∈ (Account.defaults host env).map Prod.fst, k ∉ Account.NONE_KEYS := by
    rw [keys_defaults]
    decide
  exact hall key (List.mem_map_of_mem h)

theorem none_not_defaults {key : String} (h : key ∈ Account.NONE_KEYS) :
    key ∉ (Account.defaults host env).map Prod.fst := by
  intro hmem
  obtain ⟨⟨k, value⟩, hentry, rfl⟩ := List.mem_map.mp hmem
  exact defaults_not_none host env hentry h

theorem field_new {q : Pddb} (hq : ∀ key, q.value dict key =
      written key ((Account.defaults host env).map (fun entry => (entry.1, some entry.2)))
        (if key ∈ Account.NONE_KEYS then none else p.value dict key)) :
    (∀ key value, (key, value) ∈ Account.defaults host env →
      q.field dict key = reread value (p.value dict key)) ∧
    ∀ key ∈ Account.NONE_KEYS, q.field dict key = none := by
  refine ⟨?_, ?_⟩
  · intro key value h
    rw [Pddb.field, hq, if_neg (defaults_not_none host env h), written_of_mem (defaults_nodup host env) h]
    rfl
  · intro key h
    rw [Pddb.field, hq, if_pos h, written_of_notMem (none_not_defaults host env h)]
    rfl

theorem getD_eq_iff {α : Type} {o : Option α} {d : α} : o.getD d = d ↔ ∀ a, o = some a → a = d := by
  cases o with
  | none => simp
  | some a => simp

theorem parseBool_false (tail : String) : (parseBool ("false" ++ tail)).getD false = false := by
  have hne : "false" ++ tail ≠ "true" := by
    intro h
    have hchars := congrArg String.toList h
    rw [String.toList_append] at hchars
    exact absurd (List.cons.inj hchars).1 (by decide)
  rw [parseBool, if_neg hne]
  split_ifs <;> rfl

theorem from_str_append (tail : String) :
    (ServiceEnvironment.from_str (env.to_string ++ tail)).getD .Live = env ↔ (env = .Staging → tail = "") := by
  cases env with
  | Live =>
    have hne : "Live" ++ tail ≠ "Staging" := by
      intro h
      have hchars := congrArg String.toList h
      rw [String.toList_append] at hchars
      exact absurd (List.cons.inj hchars).1 (by decide)
    apply iff_of_true
    · rw [ServiceEnvironment.to_string, ServiceEnvironment.from_str, if_neg hne]
      split_ifs <;> rfl
    · intro h
      cases h
  | Staging =>
    have hne : "Staging" ++ tail ≠ "Live" := by
      intro h
      have hchars := congrArg String.toList h
      rw [String.toList_append] at hchars
      exact absurd (List.cons.inj hchars).1 (by decide)
    have hsame : "Staging" ++ tail = "Staging" ↔ tail = "" := by
      constructor
      · intro h
        have hchars := congrArg String.toList h
        rw [String.toList_append] at hchars
        exact String.toList_inj.mp (List.append_right_eq_self.mp hchars)
      · rintro rfl
        rfl
    rw [ServiceEnvironment.to_string, ServiceEnvironment.from_str, if_neg hne]
    by_cases htail : tail = ""
    · rw [if_pos (hsame.mpr htail)]
      exact iff_of_true rfl (fun _ => htail)
    · rw [if_neg (fun h => htail (hsame.mp h))]
      exact iff_of_false (by decide) (fun h => htail (h rfl))

theorem required_eq : required host env = [(DEVICE_ID_KEY, "0"), (HOST_KEY, U.host_to_string host),
    (IS_MULTI_DEVICE_KEY, "false"), (REGISTERED_KEY, "false"), (SERVICE_ENVIRONMENT_KEY, env.to_string),
    (STORE_MANIFEST_VERSION_KEY, "-1")] := rfl

theorem ofValues_unreadable {f : String → Option String} {entry : String × String}
    (hentry : entry ∈ required host env) (hf : f entry.1 = none) (account : Account U) :
    Account.ofValues dict f ≠ .ok account := by
  intro h
  unfold Account.ofValues at h
  split at h
  · next hdevice hhost hmulti hregistered henv hversion =>
    rw [required_eq] at hentry
    simp only [List.mem_cons, List.not_mem_nil, or_false] at hentry
    rcases hentry with rfl | rfl | rfl | rfl | rfl | rfl
    · exact absurd (hf.symm.trans hdevice) (by simp)
    · exact absurd (hf.symm.trans hhost) (by simp)
    · exact absurd (hf.symm.trans hmulti) (by simp)
    · exact absurd (hf.symm.trans hregistered) (by simp)
    · exact absurd (hf.symm.trans henv) (by simp)
    · exact absurd (hf.symm.trans hversion) (by simp)
  · cases h

theorem fresh_ofValues {f : String → Option String} {device_id host' is_multi_device registered env' version : String}
    (hdevice : f DEVICE_ID_KEY = some device_id) (hhost : f HOST_KEY = some host')
    (hmulti : f IS_MULTI_DEVICE_KEY = some is_multi_device) (hregistered : f REGISTERED_KEY = some registered)
    (henv : f SERVICE_ENVIRONMENT_KEY = some env') (hversion : f STORE_MANIFEST_VERSION_KEY = some version)
    (hnone : ∀ key ∈ Account.NONE_KEYS, f key = none) :
    ∃ account : Account U, Account.ofValues dict f = .ok account ∧ (account.Fresh host env ↔
      (parseUnsigned (2 ^ 32) device_id).getD 0 = 0 ∧ (U.host_parse host').getD U.signal_org = host ∧
      (parseBool is_multi_device).getD false = false ∧ (parseBool registered).getD false = false ∧
      (ServiceEnvironment.from_str env').getD .Live = env ∧ (parseSigned64 version).getD (-1) = -1) := by
  unfold Account.ofValues
  rw [hdevice, hhost, hmulti, hregistered, henv, hversion]
  refine ⟨_, rfl, ?_⟩
  constructor
  · intro h
    exact ⟨h.device_id, h.host_eq, h.is_multi_device, h.registered, h.service_environment,
      h.store_manifest_version⟩
  · rintro ⟨hdevice, hhost, hmulti, hregistered, henv, hversion⟩
    refine ⟨hdevice, hregistered, hmulti, ?_, hversion, hhost, henv, ?_⟩
    · have hplaceholder : decide ((parseUnsigned (2 ^ 32) device_id).getD 0 ≠ 0) = false :=
        decide_eq_false (not_not_intro hdevice)
      unfold Account.is_registered
      dsimp only
      rw [hregistered, hplaceholder]
      rfl
    · intro value hvalue
      have hkeys : value ∈ Account.NONE_KEYS.map f := hvalue
      obtain ⟨key, hkey, rfl⟩ := List.mem_map.mp hkeys
      exact hnone key hkey

theorem reread_required {f : String → Option String} (hreadable : Readable p dict host env)
    (hfield : ∀ entry ∈ required host env, f entry.1 = reread entry.2 (p.value dict entry.1)) {key value : String}
    (hentry : (key, value) ∈ required host env) (hlen : (utf8 value).length ≤ AccountDict.READ_BUFFER) :
    ∃ tail, leftover value (p.value dict key) = some tail ∧ f key = some (value ++ tail) := by
  obtain ⟨text, htext⟩ := Option.isSome_iff_exists.mp (hreadable (key, value) hentry)
  rw [reread_eq hlen] at htext
  obtain ⟨tail, htail, rfl⟩ := Option.map_eq_some_iff.mp htext
  refine ⟨tail, htail, ?_⟩
  rw [hfield _ hentry, reread_eq hlen, htail]
  rfl

theorem overwritten_iff {device host' senv version : String}
    (hdevice : leftover "0" (p.value dict DEVICE_ID_KEY) = some device)
    (hhost : reread (U.host_to_string host) (p.value dict HOST_KEY) = some host')
    (hsenv : leftover env.to_string (p.value dict SERVICE_ENVIRONMENT_KEY) = some senv)
    (hversion : leftover "-1" (p.value dict STORE_MANIFEST_VERSION_KEY) = some version) :
    Overwritten p dict host env ↔ (parseUnsigned (2 ^ 32) ("0" ++ device)).getD 0 = 0 ∧
      (U.host_parse host').getD U.signal_org = host ∧ (env = .Staging → senv = "") ∧
      (parseSigned64 ("-1" ++ version)).getD (-1) = -1 := by
  rw [getD_eq_iff, getD_eq_iff]
  constructor
  · intro h
    refine ⟨h.device_id _ hdevice, h.host_eq _ hhost, ?_, h.store_manifest_version _ hversion⟩
    rintro rfl
    exact Option.some.inj (hsenv.symm.trans (h.service_environment rfl))
  · rintro ⟨h₁, h₂, h₃, h₄⟩
    refine ⟨?_, ?_, ?_, ?_⟩
    · intro tail htail
      rwa [← Option.some.inj (hdevice.symm.trans htail)]
    · intro text htext
      rwa [← Option.some.inj (hhost.symm.trans htext)]
    · rintro rfl
      rwa [h₃ rfl] at hsenv
    · intro tail htail
      rwa [← Option.some.inj (hversion.symm.trans htail)]

theorem ofValues_readable {f : String → Option String} (hreadable : Readable p dict host env)
    (hfield : ∀ entry ∈ required host env, f entry.1 = reread entry.2 (p.value dict entry.1))
    (hnone : ∀ key ∈ Account.NONE_KEYS, f key = none) :
    ∃ account : Account U, Account.ofValues dict f = .ok account ∧
      (account.Fresh host env ↔ Overwritten p dict host env) := by
  have htext : ∀ key value, (key, value) ∈ required host env → (utf8 value).length ≤ AccountDict.READ_BUFFER →
      ∃ tail, leftover value (p.value dict key) = some tail ∧ f key = some (value ++ tail) :=
    fun key value => reread_required p dict host env hreadable hfield
  have henv_length : (utf8 env.to_string).length ≤ AccountDict.READ_BUFFER := by cases env <;> decide
  obtain ⟨device, hdevice, hdevice'⟩ := htext DEVICE_ID_KEY "0" (by simp [required_eq]) (by decide)
  obtain ⟨host', hhost⟩ := Option.isSome_iff_exists.mp
    (hreadable (HOST_KEY, U.host_to_string host) (by simp [required_eq]))
  obtain ⟨multi, -, hmulti'⟩ := htext IS_MULTI_DEVICE_KEY "false" (by simp [required_eq]) (by decide)
  obtain ⟨registered, -, hregistered'⟩ := htext REGISTERED_KEY "false" (by simp [required_eq]) (by decide)
  obtain ⟨senv, hsenv, hsenv'⟩ := htext SERVICE_ENVIRONMENT_KEY env.to_string (by simp [required_eq]) henv_length
  obtain ⟨version, hversion, hversion'⟩ := htext STORE_MANIFEST_VERSION_KEY "-1" (by simp [required_eq]) (by decide)
  have hhost' : f HOST_KEY = some host' :=
    (hfield (HOST_KEY, U.host_to_string host) (by simp [required_eq])).trans hhost
  obtain ⟨account, haccount, hfresh⟩ := fresh_ofValues dict host env hdevice' hhost' hmulti' hregistered' hsenv'
    hversion' hnone
  refine ⟨account, haccount, ?_⟩
  rw [hfresh, from_str_append, overwritten_iff p dict host env hdevice hhost hsenv hversion]
  constructor
  · rintro ⟨h₁, h₂, -, -, h₃, h₄⟩
    exact ⟨h₁, h₂, h₃, h₄⟩
  · rintro ⟨h₁, h₂, h₃, h₄⟩
    exact ⟨h₁, h₂, parseBool_false _, parseBool_false _, h₃, h₄⟩

/-- `new` gives a fresh account exactly where what it leaves of the old values is harmless. -/
theorem new_fresh_iff (p : Pddb) (dict : String) (host : U.Host) (env : ServiceEnvironment) :
    let o := (Account.new dict host env : Fallible _ _ (Account U)).exec Pddb.handler p
    (∀ account, o.value = .ok account → account.Fresh host env) ↔
      (Readable p dict host env → Overwritten p dict host env) := by
  intro o
  obtain ⟨hvalue, hstored⟩ := ensures_new dict host env p
  obtain ⟨hdefault, hnone⟩ := field_new p dict host env hstored
  change o.value = Account.ofValues dict (o.state.field dict) at hvalue
  have hfield : ∀ entry ∈ required host env, o.state.field dict entry.1 = reread entry.2 (p.value dict entry.1) :=
    fun entry h => hdefault entry.1 entry.2 (List.mem_filter.mp h).1
  by_cases hreadable : Readable p dict host env
  · obtain ⟨account, haccount, hfresh⟩ := ofValues_readable p dict host env hreadable hfield hnone
    rw [forall_prop_of_true hreadable, ← hfresh, hvalue, haccount]
    constructor
    · exact fun h => h account rfl
    · rintro h account' h'
      rwa [← Except.ok.inj h']
  · refine iff_of_true ?_ (fun h => absurd h hreadable)
    intro account haccount
    obtain ⟨entry, hentry, hunreadable⟩ : ∃ entry ∈ required host env,
        ¬(reread entry.2 (p.value dict entry.1)).isSome := by
      simpa [Readable] using hreadable
    rw [hvalue] at haccount
    have hfail : o.state.field dict entry.1 = none := by
      rw [hfield entry hentry]
      simpa using hunreadable
    exact absurd haccount (ofValues_unreadable dict host env hentry hfail account)

/-- The account of a linked device 12, started anew: device 2. -/
theorem new_keeps_device :
    let p : Pddb := (∅ : Pddb).put "sigchat.account" DEVICE_ID_KEY (utf8 "12")
    let o := (Account.new "sigchat.account" "signal.org" .Live : Fallible _ _ (Account phoneCrates.toHostCrate)).exec
      Pddb.handler p
    (∃ account, o.value = .ok account ∧ account.device_id = 2) ∧
      ¬∀ account, o.value = .ok account → account.Fresh "signal.org" .Live := by
  intro p o
  have hdevice : (o.value.toOption.map (fun account => account.device_id)) = some 2 := by decide +kernel
  obtain ⟨account, haccount, htwo⟩ := Option.map_eq_some_iff.mp hdevice
  have hvalue : o.value = .ok account := by
    cases h : o.value with
    | ok account' =>
      rw [h] at haccount
      rw [Option.some.inj haccount]
    | error e =>
      rw [h] at haccount
      cases haccount
  refine ⟨⟨account, hvalue, htwo⟩, ?_⟩
  intro h
  have hzero := (h account hvalue).device_id
  omega

end Reset

end XousSignalClient
