import XousSignalClient.Account.Restart
import XousSignalClient.Faults
import XousSignalClient.Interaction.Interference

namespace XousSignalClient

open Encoding Interaction Fallible

variable {L : LinkCrates}

namespace Account

def saveLink (provisioning_msg : ProvisionMessage) (linked : Linked L) : LinkM L Bool := do
  set_new_all (credentials provisioning_msg linked)
  let synced : Except IoError Unit ← ExceptT.lift (inPddb pddbSync)
  propagate (synced.mapError (fun _ => ⟨.Other, "PDDB sync failed after credentials persist"⟩))
  inPddbM (save_to_pddb linked.generated)
  let identifier := provisioning_msg.aci.service_id ++ "." ++ toString linked.response.device_id
  let _refreshed ← put_accounts_attributes linked.base_url identifier linked.password linked.attrs
  pure true

theorem link_eq (device_name : String) (msg : ProvisionMessage) :
    (link device_name msg : LinkM L Bool) = (do
      let account : Account L.toHostCrate ← linkCall .self
      if account.is_primary_device then pure false
      else
        let linked ← requestLink device_name msg
        saveLink msg linked) := rfl

end Account

/-- A link that fails or is cut off; `outside` counts the PDDB requests. -/
structure LinkRegime (L : LinkCrates) where
  fails : Device L.toHostCrate ℕ → PddbCall → Prop
  creates : Device L.toHostCrate ℕ → PddbCall → Prop
  reboots : Device L.toHostCrate ℕ → Prop

namespace LinkRegime

def surroundings (R : LinkRegime L) : Surroundings (linkSignature L) (Device L.toHostCrate ℕ) where
  answers c s r t :=
    match c, r with
    | .pddb c, r => ∃ q, Pddb.Answers (R.fails s) (R.creates s) c s.pddb r q ∧
        t = { s with pddb := q, outside := s.outside + 1 }
    | .self, r => r = s.account ∧ t = s
    | .assign account, _ => t = { s with account := account }
    | _, _ => t = s
  moves _ _ := False

def faulty : LinkRegime L := ⟨fun _ _ => True, fun _ _ => True, fun _ => True⟩

/-- The link stops before the fifth write of `n`, that of the ACI service id, or after the ACI Kyber record is
written. In between only errors that the code ignores may occur: a record that is not there cannot be deleted, and
the sync after a record fails. -/
def careful (n : ℕ) : LinkRegime L where
  fails s c := s.outside < 5 ∨ n + 9 ≤ s.outside ∨
    match c with
    | .delete dict key => s.pddb.value dict key = none
    | .sync => s.outside ≠ n
    | _ => False
  creates s _ := s.outside < 4 ∨ n + 9 ≤ s.outside
  reboots s := s.outside < 5 ∨ n + 9 ≤ s.outside

def Stops (R : LinkRegime L) {α : Type} (p : Program (linkSignature L) α) (s t : Device L.toHostCrate ℕ) : Prop :=
  (∃ a, Passes R.surroundings p s (some a) t) ∨ (Passes R.surroundings p s none t ∧ R.reboots t)

end LinkRegime

def credentialWrites (msg : ProvisionMessage) : ℕ := if msg.account_entropy_pool.isSome then 18 else 17

def RecordStored (p : Pddb) (dict : String) (id : Except SignalProtocolError ℕ)
    (serialized : Except SignalProtocolError Bytes) : Prop :=
  ∃ n buf, id = .ok n ∧ serialized = .ok buf ∧ p.value dict (toString n) = some buf

structure Usable (dict : String) (msg : ProvisionMessage) (linked : Account.Linked L) (p : Pddb) : Prop where
  aci_identity_private : p.value dict ACI_IDENTITY_PRIVATE_KEY = some (utf8 msg.aci.djb_private_key)
  aci_identity_public : p.value dict ACI_IDENTITY_PUBLIC_KEY = some (utf8 msg.aci.djb_identity_key)
  registration_id : p.value dict REGISTRATION_ID_KEY = some (utf8 (toString linked.registration_id))
  password : p.value dict PASSWORD_KEY = some (utf8 linked.password)
  device_id : p.value dict DEVICE_ID_KEY = some (utf8 (toString linked.response.device_id))
  aci_service_id : p.value dict ACI_SERVICE_ID_KEY = some (utf8 msg.aci.service_id)
  aci_signed : RecordStored p SIGNED_PREKEY_DICT (L.signed_id linked.generated.aci_signed_record)
    (L.signed_serialize linked.generated.aci_signed_record)
  aci_kyber : RecordStored p KYBER_PREKEY_DICT (L.kyber_id linked.generated.aci_kyber_record)
    (L.kyber_serialize linked.generated.aci_kyber_record)

def NotMistaken (dict : String) (msg : ProvisionMessage) (linked : Account.Linked L) (p : Pddb) : Prop :=
  ∀ account, ((Account.read L.toHostCrate dict).exec Pddb.handler p).value = .ok account →
    account.is_registered = true → Usable dict msg linked p

section Early

variable {dict : String} {msg : ProvisionMessage} {linked : Account.Linked L} {p p₀ : Pddb}

structure Blank (dict : String) (p : Pddb) : Prop where
  cleared : ∀ key ∈ Account.NONE_KEYS, p.value dict key = none
  flag : ∃ tail, p.value dict REGISTERED_KEY = some (utf8 "false" ++ tail)

def After (dict : String) (p₀ : Pddb) (done : List (String × Option String)) (p : Pddb) : Prop :=
  ∀ k, p.value dict k = written k done (p₀.value dict k)

theorem written_append (k : String) (done rest : List (String × Option String)) (old : Option Bytes) :
    written k (done ++ rest) old = written k rest (written k done old) := by
  induction done generalizing old with
  | nil => rfl
  | cons entry done ih => rw [List.cons_append, written_cons, ih, ← written_cons]

theorem written_of_not_mem {k : String} {done : List (String × Option String)} (h : ∀ e ∈ done, e.1 ≠ k)
    (old : Option Bytes) : written k done old = old := by
  induction done generalizing old with
  | nil => rfl
  | cons entry done ih =>
    obtain ⟨key, value⟩ := entry
    have hne : k ≠ key := (h _ List.mem_cons_self).symm
    have hrest := ih (fun e he => h e (List.mem_cons_of_mem _ he))
    cases value with
    | none => exact hrest old
    | some v =>
      rw [written, if_neg hne]
      exact hrest old

theorem After.put {done : List (String × Option String)} (h : After dict p₀ done p) (key v : String) :
    After dict p₀ (done ++ [(key, some v)]) (p.put dict key (utf8 v)) := by
  intro k
  rw [written_append, ← h k]
  simp only [written]
  by_cases hk : k = key
  · subst hk
    rw [if_pos rfl, Pddb.value_put]
  · rw [if_neg hk, Pddb.value_put_ne]
    exact fun heq => hk (Prod.mk.inj heq).2

theorem registered_ofValues {f : String → Option String} {account : Account L.toHostCrate}
    (h : Account.ofValues dict f = .ok account) :
    account.aci_service_id = f ACI_SERVICE_ID_KEY ∧
      ∃ text, f REGISTERED_KEY = some text ∧ account.registered = (parseBool text).getD false := by
  unfold Account.ofValues at h
  split at h
  · next registered _ _ _ _ hregistered _ _ =>
    obtain rfl := Except.ok.inj h
    exact ⟨rfl, _, hregistered, rfl⟩
  · cases h

theorem field_not_true {key text : String} {tail : Bytes}
    (hvalue : p.value dict key = some (utf8 "false" ++ tail)) (hfield : p.field dict key = some text) :
    text ≠ "true" := by
  rintro rfl
  rw [Pddb.field, hvalue, Option.bind_some, from_utf8_eq_some] at hfield
  have hhead : ((utf8 "false" ++ tail).take AccountDict.READ_BUFFER).head? = some 102 := rfl
  rw [hfield] at hhead
  exact absurd hhead (by decide)

theorem not_registered_of_fields {account : Account L.toHostCrate}
    (hread : ((Account.read L.toHostCrate dict).exec Pddb.handler p).value = .ok account)
    (hid : p.value dict ACI_SERVICE_ID_KEY = none)
    (hflag : ∃ tail, p.value dict REGISTERED_KEY = some (utf8 "false" ++ tail)) : account.is_registered = false := by
  obtain ⟨tail, htail⟩ := hflag
  rw [(exec_read p dict).1] at hread
  obtain ⟨hservice, text, htext, hregistered⟩ := registered_ofValues hread
  have hnone : p.field dict ACI_SERVICE_ID_KEY = none := by rw [Pddb.field, hid, Option.bind_none]
  have hfalse : (parseBool text).getD false = false := by
    rw [parseBool, if_neg (field_not_true htail htext)]
    split_ifs <;> rfl
  rw [Account.is_registered, hregistered, hfalse, hservice, hnone]
  simp

theorem Blank.not_mistaken (h₀ : Blank dict p₀) {done : List (String × Option String)} (h : After dict p₀ done p)
    (hkeys : ∀ e ∈ done, e.1 ≠ ACI_SERVICE_ID_KEY ∧ e.1 ≠ REGISTERED_KEY) : NotMistaken dict msg linked p := by
  intro account hread hregistered
  have hid : p.value dict ACI_SERVICE_ID_KEY = none := by
    rw [h, written_of_not_mem (fun e he => (hkeys e he).1), h₀.cleared _ (by decide)]
  have hflag : ∃ tail, p.value dict REGISTERED_KEY = some (utf8 "false" ++ tail) := by
    rw [h, written_of_not_mem (fun e he => (hkeys e he).2)]
    exact h₀.flag
  rw [not_registered_of_fields hread hid hflag] at hregistered
  cases hregistered

theorem blank_new {host : L.Host} {senv : ServiceEnvironment} :
    Blank dict ((Account.new dict host senv : Fallible _ _ (Account L.toHostCrate)).exec Pddb.handler p).state := by
  obtain ⟨-, hstored⟩ := ensures_new (U := L.toHostCrate) dict host senv p
  constructor
  · intro key hkey
    refine (hstored key).trans ?_
    rw [if_pos hkey]
    apply written_of_not_mem
    intro e he heq
    have hdefault : key ∈ [DEVICE_ID_KEY, HOST_KEY, IS_MULTI_DEVICE_KEY, REGISTERED_KEY, SERVICE_ENVIRONMENT_KEY,
        STORE_LAST_RECEIVE_TIMESTAMP_KEY, STORE_MANIFEST_VERSION_KEY] := by
      rw [← heq]
      exact List.mem_map_of_mem (f := Prod.fst) he
    have hdisjoint : ∀ k ∈ Account.NONE_KEYS, k ∉ [DEVICE_ID_KEY, HOST_KEY, IS_MULTI_DEVICE_KEY, REGISTERED_KEY,
        SERVICE_ENVIRONMENT_KEY, STORE_LAST_RECEIVE_TIMESTAMP_KEY, STORE_MANIFEST_VERSION_KEY] := by decide
    exact hdisjoint key hkey hdefault
  · exact ⟨_, hstored REGISTERED_KEY⟩

def writesOf (entries : List (String × Option String)) : ℕ := entries.countP (fun e => e.2.isSome)

theorem credentials_eq (msg : ProvisionMessage) (linked : Account.Linked L) :
    ∃ more, Account.credentials msg linked =
      [(PASSWORD_KEY, some linked.password), (DEVICE_ID_KEY, some (toString linked.response.device_id)),
        (ACI_IDENTITY_PRIVATE_KEY, some msg.aci.djb_private_key),
        (ACI_IDENTITY_PUBLIC_KEY, some msg.aci.djb_identity_key),
        (ACI_SERVICE_ID_KEY, some msg.aci.service_id)] ++ more := ⟨_, rfl⟩

theorem writesOf_credentials (msg : ProvisionMessage) (linked : Account.Linked L) :
    writesOf (Account.credentials msg linked) = credentialWrites msg := by
  unfold credentialWrites Account.credentials
  cases msg.account_entropy_pool <;> rfl

theorem early_keys {done rest : List (String × Option String)} (h : done ++ rest = Account.credentials msg linked)
    (hcount : writesOf done ≤ 4) : ∀ e ∈ done, e.1 ≠ ACI_SERVICE_ID_KEY ∧ e.1 ≠ REGISTERED_KEY := by
  obtain ⟨more, hmore⟩ := credentials_eq msg linked
  rw [hmore] at h
  rcases List.append_eq_append_iff.mp h with ⟨mid, hfive, -⟩ | ⟨mid, hdone, -⟩
  · have hlen : done.length ≤ 4 := by
      by_contra hlong
      have hsum := congrArg List.length hfive
      rw [List.length_append] at hsum
      have hnil : mid = [] := List.length_eq_zero_iff.mp (by simp at hsum; omega)
      rw [hnil, List.append_nil] at hfive
      rw [← hfive] at hcount
      simp [writesOf] at hcount
    intro e he
    have htake : done <+: _ := ⟨mid, hfive.symm⟩
    rw [List.prefix_iff_eq_take.mp htake] at he
    have hmem := List.take_subset_take_left _ hlen he
    have hkey : e.1 ∈ [PASSWORD_KEY, DEVICE_ID_KEY, ACI_IDENTITY_PRIVATE_KEY, ACI_IDENTITY_PUBLIC_KEY] :=
      List.mem_map_of_mem (f := Prod.fst) hmem
    have hother : ∀ k ∈ [PASSWORD_KEY, DEVICE_ID_KEY, ACI_IDENTITY_PRIVATE_KEY, ACI_IDENTITY_PUBLIC_KEY],
        k ≠ ACI_SERVICE_ID_KEY ∧ k ≠ REGISTERED_KEY := by decide
    exact hother e.1 hkey
  · have hfive : 5 ≤ writesOf done := by
      rw [hdone, writesOf, List.countP_append]
      exact Nat.le_add_right 5 _
    omega

theorem After.not_mistaken (h₀ : Blank dict p₀) {done rest : List (String × Option String)}
    (h : After dict p₀ done p) (hsplit : done ++ rest = Account.credentials msg linked) (hcount : writesOf done ≤ 4) :
    NotMistaken dict msg linked p :=
  h₀.not_mistaken h (early_keys hsplit hcount)

theorem assigned_credentials {e : String × Option String} (he : e ∈ Account.credentials msg linked)
    (account : Account L.toHostCrate) : ∃ account', assigned account e.1 e.2 = some account' := by
  have hdevice : (some (toString linked.response.device_id)).bind (parseUnsigned (2 ^ 32)) =
      some linked.response.device_id := parseUnsigned_toString linked.response.fits
  unfold Account.credentials at he
  simp only [List.mem_append, List.mem_cons, List.not_mem_nil, or_false, Option.mem_toList,
    Option.map_eq_some_iff] at he
  rcases he with ((rfl | rfl | rfl | rfl | rfl | rfl | rfl | rfl | rfl | rfl | rfl | rfl) | ⟨aep, -, rfl⟩) |
    (rfl | rfl | rfl | rfl | rfl | rfl | rfl)
  case inl.inl.inr.inl =>
    refine ⟨{ account with device_id := linked.response.device_id }, ?_⟩
    change (Account.Mirror.parsed (parseUnsigned (2 ^ 32)) _ account
      (some (toString linked.response.device_id))).toOption = _
    rw [Account.Mirror.parsed, hdevice]
    rfl
  all_goals exact ⟨_, rfl⟩

theorem mirror_of_assigned {account account' : Account L.toHostCrate} {key : String} {value : Option String}
    (h : assigned account key value = some account') :
    ∃ mirror, (Account.mirrors L.toHostCrate).lookup key = some mirror ∧ mirror account value = .ok account' := by
  obtain ⟨mirror, hlookup, hmirror⟩ := Option.bind_eq_some_iff.mp h
  refine ⟨mirror, hlookup, ?_⟩
  cases hm : mirror account value with
  | error e =>
    rw [hm] at hmirror
    cases hmirror
  | ok a =>
    rw [hm] at hmirror
    rw [Option.some.inj hmirror]

end Early

section Saving

variable {dict : String} {msg : ProvisionMessage} {linked : Account.Linked L} {p₀ : Pddb} {i : ℕ} {φ ψ : Pddb → Prop}

def Here (dict : String) (i : ℕ) (φ : Pddb → Prop) (t : Device L.toHostCrate ℕ) : Prop :=
  t.account.pddb_dict = dict ∧ t.outside = i ∧ φ t.pddb

def RebootSafe (dict : String) (msg : ProvisionMessage) (linked : Account.Linked L)
    (t : Device L.toHostCrate ℕ) : Prop :=
  (LinkRegime.careful (L := L) (credentialWrites msg)).reboots t → NotMistaken dict msg linked t.pddb

def Ends (dict : String) (msg : ProvisionMessage) (linked : Account.Linked L) {ε α : Type}
    (ψ : α → Device L.toHostCrate ℕ → Prop) : Except ε α → Device L.toHostCrate ℕ → Prop
  | .ok a, t => ψ a t
  | .error _, t => NotMistaken dict msg linked t.pddb

abbrev carefulWorld (L : LinkCrates) (msg : ProvisionMessage) :
    Surroundings (linkSignature L) (Device L.toHostCrate ℕ) :=
  (LinkRegime.careful (L := L) (credentialWrites msg)).surroundings

theorem still (P : Device L.toHostCrate ℕ → Prop) : (carefulWorld L msg).Stable P := fun _ _ _ h => h.elim

theorem keeps_link_ret {α : Type} {a : α} {P : Device L.toHostCrate ℕ → Prop} {Q : α → Device L.toHostCrate ℕ → Prop}
    (hC : ∀ t, P t → RebootSafe dict msg linked t) (hQ : ∀ t, P t → Q a t) :
    Keeps (carefulWorld L msg) (RebootSafe dict msg linked) P (.ret a) Q :=
  keeps_ret (still P) hC hQ

theorem keeps_link_pddb {α : Type} {c : PddbCall} {next : c.Reply → Program (linkSignature L) α}
    {P : Device L.toHostCrate ℕ → Prop} {M : c.Reply → Device L.toHostCrate ℕ → Prop}
    {Q : α → Device L.toHostCrate ℕ → Prop} (hC : ∀ t, P t → RebootSafe dict msg linked t)
    (hanswer : ∀ s (r : c.Reply) q, P s → Pddb.Answers ((LinkRegime.careful (credentialWrites msg)).fails s)
      ((LinkRegime.careful (credentialWrites msg)).creates s) c s.pddb r q →
        M r { s with pddb := q, outside := s.outside + 1 })
    (hnext : ∀ r, Keeps (carefulWorld L msg) (RebootSafe dict msg linked) (M r) (next r) Q) :
    Keeps (carefulWorld L msg) (RebootSafe dict msg linked) P
      (Program.ask (S := linkSignature L) (LinkCall.pddb c) next) Q := by
  refine keeps_ask (still P) hC ?_ hnext
  rintro s r t hs ⟨q, hq, rfl⟩
  exact hanswer s r q hs hq

theorem Here.rebootSafe {t : Device L.toHostCrate ℕ} (h : Here dict i φ t)
    (hφ : (i < 5 ∨ credentialWrites msg + 9 ≤ i) → ∀ p, φ p → NotMistaken dict msg linked p) :
    RebootSafe dict msg linked t := by
  obtain ⟨-, rfl, hp⟩ := h
  exact fun hreboot => hφ hreboot _ hp

theorem Ends.rebootSafe {ε α : Type} {χ : α → Device L.toHostCrate ℕ → Prop} {r : Except ε α}
    {t : Device L.toHostCrate ℕ} (h : Ends dict msg linked χ r t)
    (hχ : ∀ a, χ a t → RebootSafe dict msg linked t) : RebootSafe dict msg linked t := by
  cases r with
  | ok a => exact hχ a h
  | error e => exact fun _ => h

theorem keeps_failed {α : Type} {x : α} {Q : α → Device L.toHostCrate ℕ → Prop}
    (hQ : ∀ t, NotMistaken dict msg linked t.pddb → Q x t) :
    Keeps (carefulWorld L msg) (RebootSafe dict msg linked) (fun t => NotMistaken dict msg linked t.pddb) (.ret x) Q :=
  keeps_link_ret (fun _ h _ => h) hQ

theorem keeps_account_write {key v : String} (hi : i < credentialWrites msg)
    (hφ : i < 5 → ∀ p, φ p → NotMistaken dict msg linked p) (hput : ∀ p, φ p → ψ (p.put dict key (utf8 v)))
    (hψ : i + 1 < 5 → ∀ p, ψ p → NotMistaken dict msg linked p)
    (hcreate : i < 4 → ∀ p, φ p → NotMistaken dict msg linked (p.put dict key [])) :
    Keeps (carefulWorld L msg) (RebootSafe dict msg linked) (Here dict i φ)
      (inPddbM (AccountDict.set_new dict key (some v)) : LinkM L Unit).run
      (Ends dict msg linked (fun _ => Here dict (i + 1) ψ)) := by
  refine keeps_link_pddb (c := .write dict key (utf8 v)) (M := Ends dict msg linked (fun _ => Here dict (i + 1) ψ))
    (fun t h => h.rebootSafe (fun hpos => hφ (by omega))) ?_ ?_
  · rintro s r q ⟨hdict, rfl, hp⟩ hq
    rcases hq.write with ⟨rfl, rfl⟩ | ⟨e, rfl, ⟨hfails, rfl⟩ | ⟨hcreates, rfl⟩⟩
    · exact ⟨hdict, rfl, hput _ hp⟩
    · refine hφ ?_ _ hp
      rcases hfails with h | h | h
      · exact h
      · omega
      · exact h.elim
    · exact hcreate (hcreates.elim id (fun h => by omega)) _ hp
  · rintro (e | ⟨⟩)
    · exact keeps_failed (fun _ h => h)
    · exact keeps_link_ret (fun t h => Here.rebootSafe h (fun hpos => hψ (by omega))) (fun _ h => h)

theorem keeps_set_new_some {key v : String}
    (hassigned : ∀ account : Account L.toHostCrate, ∃ account', assigned account key (some v) = some account')
    (hi : i < credentialWrites msg) (hφ : i < 5 → ∀ p, φ p → NotMistaken dict msg linked p)
    (hput : ∀ p, φ p → ψ (p.put dict key (utf8 v)))
    (hψ : i + 1 < 5 → ∀ p, ψ p → NotMistaken dict msg linked p)
    (hcreate : i < 4 → ∀ p, φ p → NotMistaken dict msg linked (p.put dict key [])) :
    Keeps (carefulWorld L msg) (RebootSafe dict msg linked) (Here dict i φ)
      (Account.set_new key (some v) : LinkM L Unit).run (Ends dict msg linked (fun _ => Here dict (i + 1) ψ)) := by
  refine keeps_call_bind (S := linkSignature L) (c := LinkCall.self)
    (M := fun (account : Account L.toHostCrate) t => account.pddb_dict = dict ∧ Here dict i φ t)
    (still _) (fun t h => h.rebootSafe (fun hpos => hφ (by omega))) ?_ ?_
  · rintro s r t hs ⟨rfl, rfl⟩
    exact ⟨hs.1, hs⟩
  intro account
  refine keeps_pure (fun hdict => ?_)
  obtain ⟨account', hassign⟩ := hassigned account
  obtain ⟨mirror, hlookup, hok⟩ := mirror_of_assigned hassign
  have hdict' : account'.pddb_dict = dict := (assigned_dict hassign).trans hdict
  rw [hdict, hlookup]
  refine keeps_bind_fallible (keeps_account_write hi hφ hput hψ hcreate) (fun e => keeps_failed (fun _ h => h)) ?_
  intro _
  simp only [hok]
  refine keeps_ask (S := linkSignature L) (c := LinkCall.assign account') (M := fun _ => Here dict (i + 1) ψ)
    (still _) (fun t h => Here.rebootSafe h (fun hpos => hψ (by omega))) ?_ ?_
  · rintro s r t ⟨-, hpos, hp⟩ rfl
    exact ⟨hdict', hpos, hp⟩
  · intro _
    exact keeps_link_ret (fun t h => Here.rebootSafe h (fun hpos => hψ (by omega))) (fun _ h => h)

theorem keeps_set_new_none {key : String}
    (hassigned : ∀ account : Account L.toHostCrate, ∃ account', assigned account key none = some account')
    (hφ : (i < 5 ∨ credentialWrites msg + 9 ≤ i) → ∀ p, φ p → NotMistaken dict msg linked p) :
    Keeps (carefulWorld L msg) (RebootSafe dict msg linked) (Here dict i φ)
      (Account.set_new key none : LinkM L Unit).run (Ends dict msg linked (fun _ => Here dict i φ)) := by
  refine keeps_call_bind (S := linkSignature L) (c := LinkCall.self)
    (M := fun (account : Account L.toHostCrate) t => account.pddb_dict = dict ∧ Here dict i φ t)
    (still _) (fun t h => h.rebootSafe hφ) ?_ ?_
  · rintro s r t hs ⟨rfl, rfl⟩
    exact ⟨hs.1, hs⟩
  intro account
  refine keeps_pure (fun hdict => ?_)
  obtain ⟨account', hassign⟩ := hassigned account
  obtain ⟨mirror, hlookup, hok⟩ := mirror_of_assigned hassign
  have hdict' : account'.pddb_dict = dict := (assigned_dict hassign).trans hdict
  rw [hlookup]
  change Keeps _ _ _ (Fallible.ofExcept (mirror account none) >>= fun a => linkCall (.assign a) : LinkM L Unit).run _
  rw [hok]
  refine keeps_ask (S := linkSignature L) (c := LinkCall.assign account') (M := fun _ => Here dict i φ)
    (still _) (fun t h => h.rebootSafe hφ) ?_ ?_
  · rintro s r t ⟨-, hpos, hp⟩ rfl
    exact ⟨hdict', hpos, hp⟩
  · intro _
    exact keeps_link_ret (fun t h => h.rebootSafe hφ) (fun _ h => h)

theorem keeps_set_new_all (h₀ : Blank dict p₀) (done rest : List (String × Option String))
    (hsplit : done ++ rest = Account.credentials msg linked) :
    Keeps (carefulWorld L msg) (RebootSafe dict msg linked) (Here dict (writesOf done) (After dict p₀ done))
      (Account.set_new_all rest : LinkM L Unit).run
      (Ends dict msg linked (fun _ => Here dict (credentialWrites msg)
        (After dict p₀ (Account.credentials msg linked)))) := by
  have hearly : ∀ done rest : List (String × Option String), done ++ rest = Account.credentials msg linked →
      writesOf done < 5 → ∀ p, After dict p₀ done p → NotMistaken dict msg linked p :=
    fun done rest hpre hcount p hp => hp.not_mistaken h₀ hpre (by omega)
  induction rest generalizing done with
  | nil =>
    rw [List.append_nil] at hsplit
    subst hsplit
    rw [writesOf_credentials]
    refine keeps_link_ret (fun t h => h.rebootSafe ?_) (fun _ h => h)
    rintro (hpos | hpos)
    · exact hearly _ [] (List.append_nil _) (by rwa [writesOf_credentials])
    · omega
  | cons entry rest ih =>
    obtain ⟨key, value⟩ := entry
    have hmem : (key, value) ∈ Account.credentials msg linked := by
      rw [← hsplit]
      simp
    have hnext : (done ++ [(key, value)]) ++ rest = Account.credentials msg linked := by
      rw [List.append_assoc]
      exact hsplit
    have htotal : writesOf done + writesOf ((key, value) :: rest) = credentialWrites msg := by
      rw [← writesOf_credentials msg linked, ← hsplit, writesOf, writesOf, writesOf, List.countP_append]
    cases value with
    | none =>
      have hsame : writesOf (done ++ [(key, none)]) = writesOf done := by simp [writesOf]
      have hrest := ih _ hnext
      rw [hsame] at hrest
      refine keeps_bind_fallible (keeps_set_new_none (fun account => assigned_credentials hmem account) ?_)
        (fun e => keeps_failed (fun _ h => h)) (fun _ => hrest.mono (fun t h => ⟨h.1, h.2.1, ?_⟩) (fun _ _ h => h))
      · rintro (hpos | hpos)
        · exact hearly _ _ hsplit hpos
        · omega
      · intro k
        rw [written_append]
        exact h.2.2 k
    | some v =>
      have hmore : writesOf (done ++ [(key, some v)]) = writesOf done + 1 := by simp [writesOf]
      have hleft : 1 ≤ writesOf ((key, some v) :: rest) := by simp [writesOf]
      have hrest := ih _ hnext
      rw [hmore] at hrest
      refine keeps_bind_fallible (keeps_set_new_some (fun account => assigned_credentials hmem account) (by omega)
        (hearly _ _ hsplit) (fun p hp => hp.put key v) (fun hpos => hearly _ _ hnext (by omega)) ?_)
        (fun e => keeps_failed (fun _ h => h)) (fun _ => hrest)
      -- the key is created and left empty: its name is one of the first four
      intro hpos p hp
      refine h₀.not_mistaken (hp.put key "") ?_
      intro e he
      have hkeys := early_keys hnext (by omega)
      rcases List.mem_append.mp he with he | he
      · exact hkeys e (List.mem_append_left _ he)
      · rw [List.mem_singleton.mp he]
        exact hkeys (key, some v) (List.mem_append_right _ (List.mem_singleton_self _))

end Saving

section Records

variable {dict : String} {msg : ProvisionMessage} {linked : Account.Linked L} {p q : Pddb} {i : ℕ} {φ ψ : Pddb → Prop}

theorem named_ne {key : String} (hkey : Named key) (dict' : String) (n : ℕ) : (dict, key) ≠ (dict', toString n) := by
  obtain ⟨c, hc, hdigit⟩ := hkey
  intro heq
  rw [(Prod.mk.inj heq).2] at hc
  rw [toString_digits n c hc] at hdigit
  cases hdigit

def CredentialsStored (dict : String) (msg : ProvisionMessage) (linked : Account.Linked L) (p : Pddb) : Prop :=
  ∀ entry ∈ [(ACI_IDENTITY_PRIVATE_KEY, msg.aci.djb_private_key), (ACI_IDENTITY_PUBLIC_KEY, msg.aci.djb_identity_key),
    (REGISTRATION_ID_KEY, toString linked.registration_id), (PASSWORD_KEY, linked.password),
    (DEVICE_ID_KEY, toString linked.response.device_id), (ACI_SERVICE_ID_KEY, msg.aci.service_id)],
      p.value dict entry.1 = some (utf8 entry.2)

theorem named_credentials {entry : String × String} {a b c d e f : String}
    (h : entry ∈ [(ACI_IDENTITY_PRIVATE_KEY, a), (ACI_IDENTITY_PUBLIC_KEY, b), (REGISTRATION_ID_KEY, c),
      (PASSWORD_KEY, d), (DEVICE_ID_KEY, e), (ACI_SERVICE_ID_KEY, f)]) : Named entry.1 := by
  have hkey : entry.1 ∈ [ACI_IDENTITY_PRIVATE_KEY, ACI_IDENTITY_PUBLIC_KEY, REGISTRATION_ID_KEY, PASSWORD_KEY,
      DEVICE_ID_KEY, ACI_SERVICE_ID_KEY] := List.mem_map_of_mem (f := Prod.fst) h
  have hnamed : ∀ k ∈ [ACI_IDENTITY_PRIVATE_KEY, ACI_IDENTITY_PUBLIC_KEY, REGISTRATION_ID_KEY, PASSWORD_KEY,
      DEVICE_ID_KEY, ACI_SERVICE_ID_KEY], k.toList.any (fun c => !c.isDigit) = true := by decide
  obtain ⟨c, hc, hdigit⟩ := List.any_eq_true.mp (hnamed _ hkey)
  exact ⟨c, hc, by simpa using hdigit⟩

theorem usable_iff : Usable dict msg linked p ↔ CredentialsStored dict msg linked p ∧
    RecordStored p SIGNED_PREKEY_DICT (L.signed_id linked.generated.aci_signed_record)
      (L.signed_serialize linked.generated.aci_signed_record) ∧
    RecordStored p KYBER_PREKEY_DICT (L.kyber_id linked.generated.aci_kyber_record)
      (L.kyber_serialize linked.generated.aci_kyber_record) := by
  constructor
  · intro h
    refine ⟨?_, h.aci_signed, h.aci_kyber⟩
    simp only [CredentialsStored, List.forall_mem_cons, List.not_mem_nil, false_implies, implies_true, and_true]
    exact ⟨h.aci_identity_private, h.aci_identity_public, h.registration_id, h.password, h.device_id,
      h.aci_service_id⟩
  · rintro ⟨h, hsigned, hkyber⟩
    simp only [CredentialsStored, List.forall_mem_cons, List.not_mem_nil, false_implies, implies_true, and_true] at h
    obtain ⟨hprivate, hpublic, hregistration, hpassword, hdevice, hservice⟩ := h
    exact ⟨hprivate, hpublic, hregistration, hpassword, hdevice, hservice, hsigned, hkyber⟩

def SameBut (dict : String) (n : ℕ) (p q : Pddb) : Prop :=
  ∀ d k, (d, k) ≠ (dict, toString n) → q.value d k = p.value d k

theorem CredentialsStored.same {n : ℕ} {rdict : String} (h : CredentialsStored dict msg linked p)
    (hq : SameBut rdict n p q) : CredentialsStored dict msg linked q := by
  intro entry hentry
  rw [hq _ _ (named_ne (named_credentials hentry) rdict n)]
  exact h entry hentry

theorem RecordStored.same {dict rdict : String} {n : ℕ} {id : Except SignalProtocolError ℕ}
    {serialized : Except SignalProtocolError Bytes} (h : RecordStored p dict id serialized)
    (hq : SameBut rdict n p q) (hne : dict ≠ rdict ∨ id ≠ .ok n) : RecordStored q dict id serialized := by
  obtain ⟨m, buf, rfl, hbuf, hvalue⟩ := h
  refine ⟨m, buf, rfl, hbuf, ?_⟩
  rw [hq, hvalue]
  intro heq
  obtain ⟨hdict, hkey⟩ := Prod.mk.inj heq
  rcases hne with hne | hne
  · exact hne hdict
  · exact hne (congrArg Except.ok (toString_injective hkey))

theorem credentialWrites_ge (msg : ProvisionMessage) : 17 ≤ credentialWrites msg := by
  unfold credentialWrites
  split_ifs <;> omega

theorem keeps_write_link_record {rdict : String} {n : ℕ} {buf : Bytes} (hlow : credentialWrites msg < i)
    (hhigh : i + 1 < credentialWrites msg + 9) (hsame : ∀ p q, φ p → SameBut rdict n p q → φ q)
    (hput : ∀ p, φ p → p.value rdict (toString n) = some buf → ψ p)
    (hψ : credentialWrites msg + 9 ≤ i + 3 → ∀ p, ψ p → NotMistaken dict msg linked p) :
    Keeps (carefulWorld L msg) (RebootSafe dict msg linked) (Here dict i φ)
      (inPddb (pddb_write_binary rdict (toString n) buf))
      (fun r t => r = .ok () ∧ Here dict (i + 3) ψ t) := by
  have hmany := credentialWrites_ge msg
  refine keeps_link_pddb (c := .delete rdict (toString n))
    (M := fun _ => Here dict (i + 1) (fun p => φ p ∧ p.value rdict (toString n) = none))
    (fun t h => h.rebootSafe (fun hpos => by omega)) ?_ (fun _ => ?_)
  · rintro s r q ⟨hdict, rfl, hp⟩ hq
    refine ⟨hdict, rfl, hsame _ _ hp (fun d k hne => hq.value_of_leaves hne), ?_⟩
    rcases hq.delete with hgone | ⟨hfails, hkept⟩
    · exact hgone
    · rcases hfails with h | h | h
      · omega
      · omega
      · exact hkept.trans h
  refine keeps_link_pddb (c := .write rdict (toString n) buf)
    (M := fun r t => r = .ok () ∧ Here dict (i + 2) ψ t)
    (fun t h => h.rebootSafe (fun hpos => by omega)) ?_ ?_
  · rintro s r q ⟨hdict, hpos, hp, hnone⟩ hq
    rcases hq.write with ⟨rfl, rfl⟩ | ⟨e, rfl, ⟨hfails, -⟩ | ⟨hcreates, -⟩⟩
    · refine ⟨rfl, hdict, by simp only [hpos], hput _ (hsame _ _ hp (fun d k hne => Pddb.value_put_ne _ _ hne)) ?_⟩
      rw [Pddb.value_put, hnone, Option.getD_none, Pddb.overlay_nil]
    · rcases hfails with h | h | h
      · omega
      · omega
      · exact h.elim
    · rcases hcreates with h | h
      · omega
      · omega
  rintro (e | ⟨⟩)
  · exact keeps_pure (fun h => nomatch h)
  refine keeps_pure (fun _ => ?_)
  refine keeps_link_pddb (c := .sync) (M := fun _ => Here dict (i + 3) ψ)
    (fun t h => h.rebootSafe (fun hpos => hψ (by omega))) ?_ (fun _ => ?_)
  · rintro s r q ⟨hdict, hpos, hp⟩ hq
    refine ⟨hdict, by simp only [hpos], ?_⟩
    cases hq with
    | answered => exact hp
    | failed => exact hp
  · exact keeps_link_ret (fun t h => h.rebootSafe (fun hpos => hψ (by omega))) (fun _ h => ⟨rfl, h⟩)

theorem inPddb_bind {ε α β : Type} (x : Fallible pddbSignature ε β) (f : β → Fallible pddbSignature ε α) :
    inPddb (L := L) (x >>= f).run =
      inPddb (L := L) x.run >>= fun r => match r with
        | .ok b => inPddb (f b).run
        | .error e => .ret (.error e) := by
  refine (Program.interp_bind _ _ _).trans ?_
  congr 1
  funext r
  cases r with
  | ok b => rfl
  | error e => rfl

theorem keeps_inPddb_bind {ε α β : Type} {x : Fallible pddbSignature ε β} {f : β → Fallible pddbSignature ε α}
    {W : Surroundings (linkSignature L) (Device L.toHostCrate ℕ)} {C P : Device L.toHostCrate ℕ → Prop}
    {M : Except ε β → Device L.toHostCrate ℕ → Prop} {Q : Except ε α → Device L.toHostCrate ℕ → Prop}
    (hx : Keeps W C P (inPddb x.run) M) (herr : ∀ e, Keeps W C (M (.error e)) (.ret (.error e)) Q)
    (hok : ∀ b, Keeps W C (M (.ok b)) (inPddb (f b).run) Q) : Keeps W C P (inPddb (x >>= f).run) Q := by
  rw [inPddb_bind]
  refine keeps_bind hx ?_
  rintro (e | b)
  · exact herr e
  · exact hok b

theorem inPddb_saveRecord {rdict : String} {n : ℕ} {buf : Bytes} {id : Except SignalProtocolError ℕ}
    {serialized : Except SignalProtocolError Bytes} (hid : id = .ok n) (hbuf : serialized = .ok buf) :
    inPddb (L := L) (saveRecord rdict id serialized).run =
      inPddb (L := L) (pddb_write_binary rdict (toString n) buf) >>= fun written =>
        Program.ret (written.mapError (io_err_to_signal · "write failed")) := by
  subst hid hbuf
  have hrun : (saveRecord rdict (.ok n) (.ok buf)).run = pddb_write_binary rdict (toString n) buf >>= fun written =>
      Program.ret (written.mapError (io_err_to_signal · "write failed")) :=
    ExceptT.run_bind_lift (pddb_write_binary rdict (toString n) buf) _
  rw [hrun]
  exact Program.interp_bind _ _ _

theorem keeps_saveRecord {rdict : String} {n : ℕ} {buf : Bytes} {id : Except SignalProtocolError ℕ}
    {serialized : Except SignalProtocolError Bytes} (hid : id = .ok n) (hbuf : serialized = .ok buf)
    (hlow : credentialWrites msg < i) (hhigh : i + 1 < credentialWrites msg + 9)
    (hsame : ∀ p q, φ p → SameBut rdict n p q → φ q)
    (hput : ∀ p, φ p → RecordStored p rdict id serialized → ψ p)
    (hψ : credentialWrites msg + 9 ≤ i + 3 → ∀ p, ψ p → NotMistaken dict msg linked p) :
    Keeps (carefulWorld L msg) (RebootSafe dict msg linked) (Here dict i φ)
      (inPddb (saveRecord rdict id serialized).run)
      (Ends dict msg linked (fun _ => Here dict (i + 3) ψ)) := by
  have hmany := credentialWrites_ge msg
  rw [inPddb_saveRecord hid hbuf]
  refine keeps_bind (keeps_write_link_record hlow hhigh hsame
    (fun p hp hvalue => hput p hp ⟨n, buf, hid, hbuf, hvalue⟩) hψ) ?_
  rintro (e | ⟨⟩)
  · exact keeps_pure (fun h => nomatch h)
  · refine keeps_pure (fun _ => ?_)
    exact keeps_link_ret (fun t h => h.rebootSafe (fun hpos => hψ (by omega))) (fun _ h => h)

structure Prekeys.Storable (prekeys : Prekeys L) : Prop where
  aci_signed : ∃ n buf, L.signed_id prekeys.aci_signed_record = .ok n ∧
    L.signed_serialize prekeys.aci_signed_record = .ok buf
  pni_signed : ∃ n buf, L.signed_id prekeys.pni_signed_record = .ok n ∧
    L.signed_serialize prekeys.pni_signed_record = .ok buf
  aci_kyber : ∃ n buf, L.kyber_id prekeys.aci_kyber_record = .ok n ∧
    L.kyber_serialize prekeys.aci_kyber_record = .ok buf
  pni_kyber : ∃ n buf, L.kyber_id prekeys.pni_kyber_record = .ok n ∧
    L.kyber_serialize prekeys.pni_kyber_record = .ok buf
  signed_ne : L.signed_id prekeys.aci_signed_record ≠ L.signed_id prekeys.pni_signed_record
  kyber_ne : L.kyber_id prekeys.aci_kyber_record ≠ L.kyber_id prekeys.pni_kyber_record

theorem Usable.same {n : ℕ} (h : Usable dict msg linked p) (hq : SameBut KYBER_PREKEY_DICT n p q)
    (hne : L.kyber_id linked.generated.aci_kyber_record ≠ .ok n) : Usable dict msg linked q := by
  obtain ⟨hcredentials, hsigned, hkyber⟩ := usable_iff.mp h
  exact usable_iff.mpr ⟨hcredentials.same hq, hsigned.same hq (.inl (by decide)), hkyber.same hq (.inr hne)⟩

theorem Usable.rebootSafe {t : Device L.toHostCrate ℕ} (h : Usable dict msg linked t.pddb) :
    RebootSafe dict msg linked t := fun _ _ _ _ => h

theorem keeps_last_record {n : ℕ} {buf : Bytes} {id : Except SignalProtocolError ℕ}
    {serialized : Except SignalProtocolError Bytes} (hid : id = .ok n) (hbuf : serialized = .ok buf)
    (hne : L.kyber_id linked.generated.aci_kyber_record ≠ .ok n) :
    Keeps (carefulWorld L msg) (RebootSafe dict msg linked) (fun t => Usable dict msg linked t.pddb)
      (inPddb (saveRecord KYBER_PREKEY_DICT id serialized).run) (fun _ t => Usable dict msg linked t.pddb) := by
  have hret : ∀ {α : Type} (a : α), Keeps (carefulWorld L msg) (RebootSafe dict msg linked)
      (fun t => Usable dict msg linked t.pddb) (.ret a) (fun _ t => Usable dict msg linked t.pddb) :=
    fun a => keeps_link_ret (fun _ h => h.rebootSafe) (fun _ h => h)
  rw [inPddb_saveRecord hid hbuf]
  refine keeps_bind (M := fun _ t => Usable dict msg linked t.pddb) ?_ (fun written => hret _)
  refine keeps_link_pddb (c := .delete KYBER_PREKEY_DICT (toString n))
    (M := fun _ t => Usable dict msg linked t.pddb) (fun _ h => h.rebootSafe) ?_ (fun _ => ?_)
  · intro s r q hs hq
    exact hs.same (fun d k hk => hq.value_of_leaves hk) hne
  refine keeps_link_pddb (c := .write KYBER_PREKEY_DICT (toString n) buf)
    (M := fun _ t => Usable dict msg linked t.pddb) (fun _ h => h.rebootSafe) ?_ ?_
  · intro s r q hs hq
    exact hs.same (fun d k hk => hq.value_of_leaves hk) hne
  rintro (e | ⟨⟩)
  · exact hret _
  refine keeps_link_pddb (c := .sync) (M := fun _ t => Usable dict msg linked t.pddb) (fun _ h => h.rebootSafe) ?_
    (fun _ => hret _)
  intro s r q hs hq
  exact hs.same (n := n) (fun d k hk => hq.value_of_leaves trivial) hne

theorem Ends.mapError {ε ε' α : Type} {χ : α → Device L.toHostCrate ℕ → Prop} {g : ε → ε'} {r : Except ε α}
    {t : Device L.toHostCrate ℕ} (h : Ends dict msg linked χ r t) : Ends dict msg linked χ (r.mapError g) t := by
  cases r with
  | ok a => exact h
  | error e => exact h

theorem keeps_mapError {ε ε' α : Type} {χ : α → Device L.toHostCrate ℕ → Prop} {g : ε → ε'}
    {x : Program (linkSignature L) (Except ε α)} {P : Device L.toHostCrate ℕ → Prop}
    (hx : Keeps (carefulWorld L msg) (RebootSafe dict msg linked) P x (Ends dict msg linked χ))
    (hχ : ∀ a t, χ a t → RebootSafe dict msg linked t) :
    Keeps (carefulWorld L msg) (RebootSafe dict msg linked) P (x >>= fun r => .ret (r.mapError g))
      (Ends dict msg linked χ) :=
  keeps_bind hx (fun _ => keeps_link_ret (fun t h => h.rebootSafe (fun a => hχ a t)) (fun _ h => h.mapError))

theorem inPddb_mapError {ε ε' α : Type} (g : ε → ε') (x : Fallible pddbSignature ε α) :
    inPddb (L := L) (x.mapError g).run = inPddb (L := L) x.run >>= fun r => .ret (r.mapError g) :=
  Program.interp_bind _ _ _

theorem keeps_save_to_pddb (hstorable : linked.generated.Storable) :
    Keeps (carefulWorld L msg) (RebootSafe dict msg linked)
      (Here dict (credentialWrites msg + 1) (CredentialsStored dict msg linked))
      (inPddbM (save_to_pddb linked.generated) : LinkM L Unit).run
      (Ends dict msg linked (fun _ t => Usable dict msg linked t.pddb)) := by
  obtain ⟨a, abuf, haci, habuf⟩ := hstorable.aci_signed
  obtain ⟨b, bbuf, hpni, hbbuf⟩ := hstorable.pni_signed
  obtain ⟨c, cbuf, hkyber, hcbuf⟩ := hstorable.aci_kyber
  obtain ⟨d, dbuf, hlast, hdbuf⟩ := hstorable.pni_kyber
  refine keeps_mapError (g := Failure.error) ?_ (fun _ _ h => h.rebootSafe)
  rw [ExceptT.run_mk, save_to_pddb, inPddb_mapError]
  refine keeps_mapError ?_ (fun _ _ h => h.rebootSafe)
  let signed : Pddb → Prop := fun p => CredentialsStored dict msg linked p ∧
    RecordStored p SIGNED_PREKEY_DICT (L.signed_id linked.generated.aci_signed_record)
      (L.signed_serialize linked.generated.aci_signed_record)
  refine keeps_inPddb_bind (M := Ends dict msg linked (fun _ => Here dict (credentialWrites msg + 4) signed)) ?_
    (fun e => keeps_failed (fun _ h => h)) (fun _ => ?_)
  · exact keeps_saveRecord haci habuf (by omega) (by omega) (fun p q h hq => h.same hq)
      (fun p h hrecord => ⟨h, hrecord⟩) (fun hpos => by omega)
  refine keeps_inPddb_bind (M := Ends dict msg linked (fun _ => Here dict (credentialWrites msg + 7) signed)) ?_
    (fun e => keeps_failed (fun _ h => h)) (fun _ => ?_)
  · exact keeps_saveRecord hpni hbbuf (by omega) (by omega)
      (fun p q h hq => ⟨h.1.same hq, h.2.same hq (.inr (by rw [← hpni]; exact hstorable.signed_ne))⟩)
      (fun p h _ => h) (fun hpos => by omega)
  refine keeps_inPddb_bind (M := Ends dict msg linked (fun _ => Here dict (credentialWrites msg + 10)
    (Usable dict msg linked))) ?_ (fun e => keeps_failed (fun _ h => h)) (fun _ => ?_)
  · exact keeps_saveRecord hkyber hcbuf (by omega) (by omega)
      (fun p q h hq => ⟨h.1.same hq, h.2.same hq (.inl (by decide))⟩)
      (fun p h hrecord => usable_iff.mpr ⟨h.1, h.2, hrecord⟩) (fun _ p h _ _ _ => h)
  refine (keeps_last_record hlast hdbuf (by rw [← hlast]; exact hstorable.kyber_ne)).mono (fun _ h => h.2.2) ?_
  intro r t h
  cases r with
  | ok _ => exact h
  | error e => exact fun _ _ _ => h

end Records

section Stopping

variable {dict : String} {msg : ProvisionMessage} {linked : Account.Linked L} {p p₀ : Pddb}

/-- What an earlier account left under the two keys that `new` does not delete is not longer than what the link
writes over it. -/
def Covered (dict : String) (linked : Account.Linked L) (p : Pddb) : Prop :=
  ((p.value dict DEVICE_ID_KEY).getD []).length ≤ (utf8 (toString linked.response.device_id)).length ∧
    ((p.value dict REGISTRATION_ID_KEY).getD []).length ≤ (utf8 (toString linked.registration_id)).length

theorem covered_new {host : L.Host} {senv : ServiceEnvironment} (h : Covered dict linked p) :
    Covered dict linked
      ((Account.new dict host senv : Fallible _ _ (Account L.toHostCrate)).exec Pddb.handler p).state := by
  obtain ⟨-, hstored⟩ := ensures_new (U := L.toHostCrate) dict host senv p
  have hdevice := hstored DEVICE_ID_KEY
  have hregistration := hstored REGISTRATION_ID_KEY
  constructor
  · rw [hdevice]
    have hpos := utf8_toString_pos linked.response.device_id
    change (Pddb.overlay (utf8 "0") ((p.value dict DEVICE_ID_KEY).getD [])).length ≤ _
    have hold := h.1
    rw [Pddb.overlay, List.length_append, List.length_drop]
    have hzero : (utf8 "0").length = 1 := by decide
    omega
  · rw [hregistration]
    exact h.2

theorem CredentialsStored.of_written (h₀ : Blank dict p₀) (hcovered : Covered dict linked p₀)
    (h : ∀ key, Named key → p.value dict key = written key (Account.credentials msg linked) (p₀.value dict key)) :
    CredentialsStored dict msg linked p := by
  have hcleared : ∀ key ∈ [ACI_IDENTITY_PRIVATE_KEY, ACI_IDENTITY_PUBLIC_KEY, PASSWORD_KEY, ACI_SERVICE_ID_KEY],
      ∀ data : Bytes, Pddb.overlay data ((p₀.value dict key).getD []) = data := by
    intro key hkey data
    have hnone : ∀ k ∈ [ACI_IDENTITY_PRIVATE_KEY, ACI_IDENTITY_PUBLIC_KEY, PASSWORD_KEY, ACI_SERVICE_ID_KEY],
        k ∈ Account.NONE_KEYS := by decide
    rw [h₀.cleared key (hnone key hkey)]
    exact Pddb.overlay_nil data
  intro entry hentry
  rw [h _ (named_credentials hentry), written_credentials _ entry hentry]
  simp only [List.mem_cons, List.not_mem_nil, or_false] at hentry
  congr 1
  rcases hentry with rfl | rfl | rfl | rfl | rfl | rfl
  · exact hcleared _ (by simp) _
  · exact hcleared _ (by simp) _
  · exact Pddb.overlay_of_length_le hcovered.2
  · exact hcleared _ (by simp) _
  · exact Pddb.overlay_of_length_le hcovered.1
  · exact hcleared _ (by simp) _

theorem After.stored (h₀ : Blank dict p₀) (hcovered : Covered dict linked p₀)
    (h : After dict p₀ (Account.credentials msg linked) p) : CredentialsStored dict msg linked p :=
  .of_written h₀ hcovered (fun key _ => h key)

theorem keeps_saveLink (h₀ : Blank dict p₀) (hcovered : Covered dict linked p₀)
    (hstorable : linked.generated.Storable) :
    Keeps (carefulWorld L msg) (RebootSafe dict msg linked) (Here dict 0 (· = p₀))
      (Account.saveLink msg linked).run (fun _ t => NotMistaken dict msg linked t.pddb) := by
  have hmany := credentialWrites_ge msg
  refine (keeps_bind_fallible (Q := Ends dict msg linked (fun _ t => Usable dict msg linked t.pddb))
    (keeps_set_new_all h₀ [] _ (List.nil_append _)) (fun e => keeps_failed (fun _ h => h)) (fun _ => ?_)).mono ?_ ?_
  · -- the batch is written; its sync is the one request whose failure `link` returns
    refine keeps_lift_bind (M := fun (r : Except IoError Unit) t =>
      r = .ok () ∧ Here dict (credentialWrites msg + 1) (CredentialsStored dict msg linked) t) ?_ ?_
    · refine keeps_link_pddb (c := .sync) (M := fun (r : Except IoError Unit) t =>
        r = .ok () ∧ Here dict (credentialWrites msg + 1) (CredentialsStored dict msg linked) t)
        (fun t h => Here.rebootSafe h (fun hpos => by omega)) ?_ ?_
      · rintro s r q ⟨hdict, hpos, hp⟩ hq
        cases hq with
        | answered => exact ⟨rfl, hdict, by simp only [hpos], hp.stored h₀ hcovered⟩
        | failed hfail =>
          rcases hfail with h | h | h
          · omega
          · omega
          · exact absurd hpos h
      · exact fun r => keeps_link_ret (fun t h => h.2.rebootSafe (fun hpos => by omega)) (fun _ h => h)
    rintro (e | ⟨⟩)
    · exact keeps_pure (fun h => nomatch h)
    refine keeps_pure (fun _ => ?_)
    change Keeps _ _ _ (inPddbM (save_to_pddb linked.generated) >>= fun _ =>
      put_accounts_attributes _ _ _ _ >>= fun _ => pure true : LinkM L Bool).run _
    refine keeps_bind_fallible (M := Ends dict msg linked (fun _ t => Usable dict msg linked t.pddb))
      (keeps_save_to_pddb hstorable) (fun e => keeps_failed (fun _ h => h)) (fun _ => ?_)
    refine keeps_call_bind (S := linkSignature L) (P := fun t => Usable dict msg linked t.pddb)
      (M := fun _ t => Usable dict msg linked t.pddb) (still _) (fun _ h => h.rebootSafe) ?_ ?_
    · rintro s r t h rfl
      exact h
    · intro _
      exact keeps_link_ret (a := Except.ok true) (fun _ h => Usable.rebootSafe h) (fun _ h => h)
  · rintro t ⟨hdict, hpos, hp⟩
    exact ⟨hdict, hpos, fun k => congrArg (fun q : Pddb => q.value dict k) hp⟩
  · intro r t h
    cases r with
    | ok _ => exact fun _ _ _ => h
    | error e => exact h

theorem passes_requestLink {R : LinkRegime L} {device_name : String} {s u : Device L.toHostCrate ℕ}
    {o : Option (Except Failure (Account.Linked L))}
    (h : Passes R.surroundings (Account.requestLink device_name msg).run s o u) : u = s := by
  refine (keeps_only (W := R.surroundings) (C := fun t => t = s) (I := fun t => t = s)
    (only_requestLink device_name msg)
    (fun _ _ _ hmove => hmove.elim) (fun _ h => h) ?_ s o u rfl h).1
  intro c t r t' hc ht hanswer
  cases c with
  | pddb c => cases hc
  | assign a => cases hc
  | self => exact hanswer.2.trans ht
  | try_fill_bytes n => exact (show t' = t from hanswer).trans ht
  | next_u32 => exact (show t' = t from hanswer).trans ht
  | encrypt_device_name name key => exact (show t' = t from hanswer).trans ht
  | generate_prekeys aci pni => exact (show t' = t from hanswer).trans ht
  | try_put url auth body => exact (show t' = t from hanswer).trans ht
  | put_attributes url auth attrs => exact (show t' = t from hanswer).trans ht

theorem not_mistaken_of_stops {account : Account L.toHostCrate} {t : Device L.toHostCrate ℕ} (h₀ : Blank dict p₀)
    (hdict : account.pddb_dict = dict) (hcovered : Covered dict linked p₀) (hstorable : linked.generated.Storable)
    (hstops : (LinkRegime.careful (credentialWrites msg)).Stops (Account.saveLink msg linked).run ⟨p₀, account, 0⟩ t) :
    NotMistaken dict msg linked t.pddb := by
  have hlink : Keeps (carefulWorld L msg) (RebootSafe dict msg linked) (Here dict 0 (· = p₀))
      (Account.saveLink msg linked).run (fun _ t => NotMistaken dict msg linked t.pddb) :=
    keeps_saveLink h₀ hcovered hstorable
  have hstart : Here dict 0 (· = p₀) (⟨p₀, account, 0⟩ : Device L.toHostCrate ℕ) := ⟨hdict, rfl, rfl⟩
  rcases hstops with ⟨a, hpass⟩ | ⟨hpass, hreboot⟩
  · exact (hlink _ _ _ hstart hpass).2 a rfl
  · exact (hlink _ _ _ hstart hpass).1 hreboot

/-- A link that stops outside the window is not taken for a usable account. -/
theorem interrupted_link_not_mistaken (dict : String) (host : L.Host) (senv : ServiceEnvironment) (p : Pddb)
    (device_name : String) (msg : ProvisionMessage) (account : Account L.toHostCrate) (linked : Account.Linked L)
    (u t : Device L.toHostCrate ℕ) :
    let made := (Account.new dict host senv : Fallible _ _ (Account L.toHostCrate)).exec Pddb.handler p
    let regime : LinkRegime L := .careful (credentialWrites msg)
    made.value = .ok account →
    Passes regime.surroundings (Account.requestLink device_name msg).run ⟨made.state, account, 0⟩
      (some (.ok linked)) u →
    linked.generated.Storable → Covered dict linked p →
    regime.Stops (Account.saveLink msg linked).run u t → NotMistaken dict msg linked t.pddb := by
  intro made regime hmade hrequest hstorable hcovered hstops
  have hsame := passes_requestLink hrequest
  subst hsame
  obtain ⟨hnew, -⟩ := ensures_new (U := L.toHostCrate) dict host senv p
  have hdict : account.pddb_dict = dict := ofValues_dict (hnew.symm.trans hmade)
  exact not_mistaken_of_stops blank_new hdict (covered_new hcovered) hstorable hstops

end Stopping

section Phone

def countingHandler : Handler (linkSignature phoneCrates) (Device phoneCrates.toHostCrate ℕ × Unit) where
  answer c s :=
    match c with
    | .pddb c => ((Pddb.answer c s.1.pddb).1,
        { s.1 with pddb := (Pddb.answer c s.1.pddb).2, outside := s.1.outside + 1 }, ())
    | .self => (s.1.account, s)
    | .assign account => ((), { s.1 with account := account }, ())
    | .try_fill_bytes n => ((phoneEnv.try_fill_bytes n ()).1, s)
    | .next_u32 => ((phoneEnv.next_u32 ()).1, s)
    | .encrypt_device_name name key => ((phoneEnv.encrypt_device_name name key ()).1, s)
    | .generate_prekeys aci pni => ((phoneEnv.generate_prekeys aci pni ()).1, s)
    | .try_put url auth body => ((phoneEnv.try_put url auth body ()).1, s)
    | .put_attributes url auth attrs => ((phoneEnv.put_attributes url auth attrs ()).1, s)

theorem countingHandler_answers (R : LinkRegime phoneCrates) (c : LinkCall phoneCrates)
    (s : Device phoneCrates.toHostCrate ℕ × Unit) :
    R.surroundings.answers c s.1 (countingHandler.answer c s).1 (countingHandler.answer c s).2.1 := by
  cases c with
  | pddb c => exact ⟨_, .answered c s.1.pddb, rfl⟩
  | self => exact ⟨rfl, rfl⟩
  | assign a => rfl
  | try_fill_bytes n => rfl
  | next_u32 => rfl
  | encrypt_device_name name key => rfl
  | generate_prekeys aci pni => rfl
  | try_put url auth body => rfl
  | put_attributes url auth attrs => rfl

def freshPhone : Device phoneCrates.toHostCrate ℕ := ⟨madePhone.state, madeAccount, 0⟩

def phoneLinked : Account.Linked phoneCrates where
  password := base64Encode (List.replicate 18 7)
  registration_id := 42
  pni_registration_id := 42
  profile_key_b64 := zeroKey
  encrypted_name := phoneName
  attrs := {
    registration_id := 42
    fetches_messages := true
    registration_lock := none
    unidentified_access_key := base64Encode
      [0xce, 0xa7, 0x40, 0x3d, 0x4d, 0x60, 0x6b, 0x6e, 0x07, 0x4e, 0xc5, 0xd3, 0xba, 0xf3, 0x9d, 0x18]
    unrestricted_unidentified_access := false
    discoverable_by_phone_number := false
    capabilities := ⟨true, true, true, true, true⟩
    name := phoneName
    pni_registration_id := 42
    recovery_password := none }
  generated := phonePrekeys
  base_url := "https://chat.signal.org"
  response := ⟨"9d0652a3-dcc3-4d11-975f-74d61598733f", "PNI:0a1b2c3d", 2, two_fits⟩

theorem phone_request : (Account.requestLink "precursor" phoneMessage).run.runFor countingHandler 8 (freshPhone, ()) =
    (some (.ok phoneLinked), freshPhone, ()) := by
  rfl

theorem phone_requests (R : LinkRegime phoneCrates) :
    Passes R.surroundings (Account.requestLink "precursor" phoneMessage).run freshPhone (some (.ok phoneLinked))
      freshPhone := by
  have hpass := passes_runFor (countingHandler_answers R) 8 (Account.requestLink "precursor" phoneMessage).run
    (freshPhone, ())
  rw [phone_request] at hpass
  exact hpass

theorem phonePrekeys_storable : phonePrekeys.Storable where
  aci_signed := ⟨11, _, rfl, rfl⟩
  pni_signed := ⟨12, _, rfl, rfl⟩
  aci_kyber := ⟨13, _, rfl, rfl⟩
  pni_kyber := ⟨14, _, rfl, rfl⟩
  signed_ne := fun h => absurd (Except.ok.inj h) (by decide)
  kyber_ne := fun h => absurd (Except.ok.inj h) (by decide)

def savedPhone (n : ℕ) : Option (Except Failure Bool) × Device phoneCrates.toHostCrate ℕ × Unit :=
  (Account.saveLink phoneMessage phoneLinked).run.runFor countingHandler n (freshPhone, ())

theorem phone_saves (R : LinkRegime phoneCrates) (n : ℕ) :
    Passes R.surroundings (Account.saveLink phoneMessage phoneLinked).run freshPhone (savedPhone n).1
      (savedPhone n).2.1 :=
  passes_runFor (countingHandler_answers R) n _ (freshPhone, ())

theorem savedPhone_finished : (savedPhone 100).1 = some (.ok true) := by decide +kernel

theorem savedPhone_not_mistaken :
    NotMistaken "sigchat.account" phoneMessage phoneLinked (savedPhone 100).2.1.pddb := by
  refine interrupted_link_not_mistaken (L := phoneCrates) "sigchat.account" "signal.org" .Live ∅ "precursor"
    phoneMessage madeAccount phoneLinked freshPhone (savedPhone 100).2.1 madePhone_value (phone_requests _)
    phonePrekeys_storable ?_ ?_
  · constructor
    · rw [Pddb.value_empty]
      exact Nat.zero_le _
    · rw [Pddb.value_empty]
      exact Nat.zero_le _
  · refine .inl ⟨.ok true, ?_⟩
    rw [← savedPhone_finished]
    exact phone_saves _ 100

def readsRegistered (p : Pddb) : Option Bool :=
  ((Account.read phoneCrates.toHostCrate "sigchat.account").exec Pddb.handler p).value.toOption.map
    Account.is_registered

/-- A reboot right after the service id: the account reads as registered, and has no registration id. -/
theorem rebooted_link_mistaken :
    Passes LinkRegime.faulty.surroundings (Account.requestLink "precursor" phoneMessage).run freshPhone
        (some (.ok phoneLinked)) freshPhone ∧
      LinkRegime.faulty.Stops (Account.saveLink phoneMessage phoneLinked).run freshPhone (savedPhone 14).2.1 ∧
      (savedPhone 14).2.1.outside = 5 ∧
      (savedPhone 14).2.1.pddb.value "sigchat.account" REGISTRATION_ID_KEY = none ∧
      ¬NotMistaken "sigchat.account" phoneMessage phoneLinked (savedPhone 14).2.1.pddb := by
  have hmissing : (savedPhone 14).2.1.pddb.value "sigchat.account" REGISTRATION_ID_KEY = none := by decide +kernel
  have hcut : (savedPhone 14).1 = none := by decide +kernel
  have hreads : readsRegistered (savedPhone 14).2.1.pddb = some true := by decide +kernel
  refine ⟨phone_requests _, .inr ⟨?_, trivial⟩, by decide +kernel, hmissing, ?_⟩
  · rw [← hcut]
    exact phone_saves _ 14
  · intro hnot
    obtain ⟨account, hread, hregistered⟩ := Option.map_eq_some_iff.mp hreads
    have hok : ((Account.read phoneCrates.toHostCrate "sigchat.account").exec Pddb.handler
        (savedPhone 14).2.1.pddb).value = .ok account := by
      cases hv : ((Account.read phoneCrates.toHostCrate "sigchat.account").exec Pddb.handler
          (savedPhone 14).2.1.pddb).value with
      | error e =>
        rw [hv] at hread
        cases hread
      | ok a =>
        rw [hv] at hread
        rw [Option.some.inj hread]
    have husable := hnot account hok hregistered
    rw [husable.registration_id] at hmissing
    cases hmissing

end Phone

end XousSignalClient
