import XousSignalClient.Interaction.Contract
import XousSignalClient.Send.Legs
import XousSignalClient.Send.Recover

namespace XousSignalClient

open Encoding Interaction Fallible

variable {C : Crates} {σ ω : Type}

def DeviceMismatchResponse.devices (mm : DeviceMismatchResponse) : List ℕ :=
  mm.missing_devices ++ mm.extra_devices ++ mm.stale_devices

def SendCall.listed : (c : SendCall C) → c.Reply → List ℕ
  | .mismatch_from_slice _, .ok mm => mm.devices
  | _, _ => []

def listed (es : List (SendEvent C σ)) : List ℕ := es.flatMap (fun e => SendCall.listed e.call e.reply)

def SendCall.Within (uuid : String) (ds : List ℕ) : SendCall C → Prop
  | .delete a => a.name = uuid ∧ a.device_id.val ∈ ds
  | .process_prekey_bundle a _ => a.name = uuid ∧ a.device_id.val ∈ ds
  | .message_encrypt _ a _ => a.name = uuid
  | _ => True

def Confined (uuid : String) (es : List (SendEvent C σ)) : Prop :=
  ∀ e ∈ es, SendCall.Within uuid (listed es) e.call

theorem SendCall.Within.mono {uuid : String} {ds ds' : List ℕ} {c : SendCall C} (hds : ds ⊆ ds')
    (hc : c.Within uuid ds) : c.Within uuid ds' := by
  cases c with
  | delete a => exact ⟨hc.1, hds hc.2⟩
  | process_prekey_bundle a bundle => exact ⟨hc.1, hds hc.2⟩
  | _ => exact hc

theorem listed_append (es es' : List (SendEvent C σ)) : listed (es ++ es') = listed es ++ listed es' :=
  List.flatMap_append

theorem confined_append {uuid : String} {es es' : List (SendEvent C σ)} (hes : Confined uuid es)
    (hes' : Confined uuid es') : Confined uuid (es ++ es') := by
  intro e he
  rw [listed_append]
  rcases List.mem_append.mp he with he | he
  · exact (hes e he).mono (List.subset_append_left _ _)
  · exact (hes' e he).mono (List.subset_append_right _ _)

def confinement (C : Crates) (σ : Type) (uuid : String) : Contract (sendSignature C) σ SendError where
  ok := Confined uuid
  error := fun _ => Confined uuid
  ok_nil := by simp [Confined]
  ok_append := fun _ _ hes hes' => confined_append hes hes'
  error_append := fun _ _ _ hes hes' => confined_append hes hes'

section Runs

variable {α : Type} {h : Handler (sendSignature C) σ} {uuid : String} {sub : Submission}

theorem confinement_holds {v : Except SendError α} {es : List (SendEvent C σ)} :
    (confinement C σ uuid).Holds v es ↔ Confined uuid es := by
  cases v <;> exact Iff.rfl

theorem confined_after {es es' : List (SendEvent C σ)} {ds : List ℕ} (hes : Confined uuid es)
    (hds : ds ⊆ listed es) (hes' : ∀ e ∈ es', SendCall.Within uuid ds e.call) : Confined uuid (es ++ es') := by
  intro e he
  rw [listed_append]
  rcases List.mem_append.mp he with he | he
  · exact (hes e he).mono (List.subset_append_left _ _)
  · exact (hes' e he).mono (List.subset_append_of_subset_left _ hds)

theorem follows_confined {x : SendM C α} (hx : x.run.Only (SendCall.Within uuid [])) :
    Follows h (confinement C σ uuid) x := by
  intro s
  apply (ensures_only hx).mono
  intro v t es hes
  exact confinement_holds.mpr (fun e he => (hes e he).mono (List.nil_subset _))

theorem follows_repair {body : Bytes} {repair : DeviceMismatchResponse → SendM C Unit}
    (hrepair : ∀ mm, (repair mm).run.Only (SendCall.Within uuid mm.devices)) :
    Follows h (confinement C σ uuid) (do let mm ← parse_mismatch body; repair mm; pure (none : Option Bool)) := by
  intro s
  have hparse : Ensures h (parse_mismatch (C := C) body) s (fun v _ es =>
      Confined uuid es ∧ ∀ mm, v = .ok mm → mm.devices ⊆ listed es) := by
    apply ensures_ask_bind
    generalize (h.answer (SendCall.mismatch_from_slice body) s).1 = parsed
    refine ensures_ofExcept ⟨by simp [Confined, sendEvent, SendCall.Within], ?_⟩
    intro mm hmm
    cases parsed with
    | error text => cases hmm
    | ok mm' =>
      obtain rfl := Except.ok.inj hmm
      simp [listed, sendEvent, SendCall.listed]
  apply ensures_bind hparse
  · exact fun e t es hes => hes.1
  · rintro mm t es ⟨hes, hlisted⟩
    apply ensures_bind (ensures_only (hrepair mm))
    · intro e u es' hes'
      exact confined_after hes (hlisted mm rfl) hes'
    · intro _ u es' hes'
      refine ensures_pure ?_
      rw [List.append_nil]
      exact confined_after hes (hlisted mm rfl) hes'

theorem follows_actOn {a : ProtocolAddress} (ha : a.name = uuid) (k : ℕ) (decision : AttemptDecision) :
    Follows h (confinement C σ uuid) (actOn (C := C) sub a k decision) := by
  have hdelete : ∀ (ds ds' : List ℕ), ds ⊆ ds' →
      (deleteListed a.name ds : SendM C Unit).run.Only (SendCall.Within uuid ds') := fun ds ds' hds =>
    only_deleteListed_at (fun b hname hd => ⟨hname.trans ha, hds hd⟩)
  cases decision with
  | Done => exact follows_pure _
  | Mismatch409 body =>
    apply follows_repair
    intro mm
    apply only_bind (hdelete mm.extra_devices _ (by simp [DeviceMismatchResponse.devices]))
    intro _
    refine only_fetchMissing (fun _ _ _ _ => trivial) ?_
    intro b bundle hname hd
    exact ⟨hname.trans ha, by simp [DeviceMismatchResponse.devices, hd]⟩
  | Mismatch410 body =>
    apply follows_repair
    intro mm
    exact hdelete mm.stale_devices _ (by simp [DeviceMismatchResponse.devices])
  | Backoff => exact follows_confined (only_bind (only_ask trivial) (fun _ => .ret _))
  | Fatal e => exact follows_confined (.ret _)

theorem follows_submitAttempt (k : ℕ) :
    Follows h (confinement C σ sub.recipient_uuid) (submitAttempt (C := C) sub k) := by
  refine follows_bind (follows_confined (only_ask trivial)) ?_
  intro device_ids
  cases hids : addressedDevices sub.fallback_device_id sub.excluded_device_id device_ids with
  | none =>
    exact follows_pure _
  | some devices =>
    apply follows_bind (follows_confined (only_ofExcept _))
    intro dev
    apply follows_bind (follows_confined (only_encryptForAll devices (fun _ => trivial) (fun _ => rfl)))
    intro entities
    apply follows_bind (follows_confined (only_lift (only_submit_messages (fun _ _ _ => trivial) _ _ _ _)))
    exact fun outcome => follows_actOn rfl k _

theorem follows_submitLoop (start left : ℕ) :
    Follows h (confinement C σ sub.recipient_uuid) (submitLoop (C := C) sub start left) := by
  induction left with
  | zero => exact follows_bind (follows_confined (only_ask trivial)) (fun _ => follows_confined (.ret _))
  | succ left ih =>
    refine follows_bind (follows_confined (only_ask trivial)) ?_
    intro t
    split_ifs
    · exact follows_confined (.ret _)
    · apply follows_bind (follows_submitAttempt _)
      intro next
      cases next with
      | some delivered => exact follows_pure _
      | none => exact ih

theorem confined_submit_padded (s : σ) :
    Confined sub.recipient_uuid ((submit_padded_with_retry_generic sub).exec h s).events := by
  have hfollows : Follows h (confinement C σ sub.recipient_uuid) (submit_padded_with_retry_generic sub) :=
    follows_bind (follows_confined (only_ask trivial)) (fun _ => follows_submitLoop _ _)
  exact confinement_holds.mp (hfollows s)

end Runs

def NamedDevice (es : List (SendEvent C σ)) (d : ℕ) : Prop :=
  ∃ resp mm, .ok resp ∈ puts es ∧ (resp.status = 409 ∨ resp.status = 410) ∧
    C.mismatch_from_slice (handedBody resp) = .ok mm ∧ d ∈ mm.devices

def EncryptsTo (es : List (SendEvent C σ)) (a : ProtocolAddress) : Prop :=
  ∃ e ∈ es, ∃ ptext local_address, e.call = SendCall.message_encrypt ptext a local_address

def Pddb.SameBut (a : ProtocolAddress) (p p' : Pddb) : Prop :=
  ∀ dict key, p'.value dict key ≠ p.value dict key → (dict = SESSION_DICT ∨ dict = IDENTITY_DICT) ∧ key = a.key

structure SendEnv.WritesAddressed (env : SendEnv C ω) : Prop where
  message_encrypt : ∀ ptext a local_address w,
    Pddb.SameBut a w.pddb (env.message_encrypt ptext a local_address w).2.pddb
  process_prekey_bundle : ∀ a bundle w, Pddb.SameBut a w.pddb (env.process_prekey_bundle a bundle w).2.pddb

theorem sameBut_delete (a : ProtocolAddress) (p : Pddb) :
    Pddb.SameBut a p (Pddb.answer (.delete SESSION_DICT a.key) p).2 := by
  intro dict key hne
  rw [Pddb.answer_delete] at hne
  by_cases hk : (dict, key) = (SESSION_DICT, a.key)
  · obtain ⟨rfl, rfl⟩ := Prod.mk.inj hk
    exact ⟨.inl rfl, rfl⟩
  · exact absurd (Pddb.value_remove_ne p hk) hne

theorem changing_call {env : SendEnv C ω} (hlib : env.WritesAddressed) {c : SendCall C} {w : World ω}
    {dict key uuid : String} {ds : List ℕ} (hc : c.Within uuid ds)
    (hne : (env.answer c w).2.pddb.value dict key ≠ w.pddb.value dict key) :
    (dict = SESSION_DICT ∨ dict = IDENTITY_DICT) ∧ ∃ a : ProtocolAddress, key = a.key ∧ a.name = uuid ∧
      ((∃ ptext local_address, c = .message_encrypt ptext a local_address) ∨ a.device_id.val ∈ ds) := by
  cases c with
  | message_encrypt ptext a l =>
    obtain ⟨hdict, hkey⟩ := hlib.message_encrypt ptext a l w dict key hne
    exact ⟨hdict, a, hkey, hc, .inl ⟨ptext, l, rfl⟩⟩
  | process_prekey_bundle a bundle =>
    obtain ⟨hdict, hkey⟩ := hlib.process_prekey_bundle a bundle w dict key hne
    exact ⟨hdict, a, hkey, hc.1, .inr hc.2⟩
  | delete a =>
    obtain ⟨hdict, hkey⟩ := sameBut_delete a w.pddb dict key hne
    exact ⟨hdict, a, hkey, hc.1, .inr hc.2⟩
  | load_session a =>
    rw [answer_load_session] at hne
    exact absurd rfl hne
  | _ => exact absurd rfl hne

theorem mismatchReply_eq_some {reply : Except String HttpResponse} {resp : HttpResponse}
    (h : mismatchReply reply = some resp) : reply = .ok resp ∧ (resp.status = 409 ∨ resp.status = 410) := by
  cases reply with
  | error text => cases h
  | ok resp' =>
    by_cases hstatus : resp'.status = 409 ∨ resp'.status = 410
    · rw [mismatchReply, if_pos hstatus, Option.some.injEq] at h
      exact h ▸ ⟨rfl, hstatus⟩
    · rw [mismatchReply, if_neg hstatus] at h
      cases h

theorem named_of_listed {env : SendEnv C ω} {sub : Submission} {w : World ω} {d : ℕ}
    (hd : d ∈ listed ((submit_padded_with_retry_generic sub).exec env.handler w).events) :
    NamedDevice ((submit_padded_with_retry_generic sub).exec env.handler w).events d := by
  obtain ⟨⟨before, call, reply⟩, he, hd⟩ := List.mem_flatMap.mp hd
  have hreply := Program.events_answered env.handler (submit_padded_with_retry_generic sub).run w _ he
  cases call with
  | mismatch_from_slice body =>
    obtain ⟨start, es, hes, hrun⟩ := submit_padded_run (h := env.handler) sub w
    have hobs := (hrun.observed (Nat.le_refl _)).cons_now w start
    change (exec env.handler (submit_padded_with_retry_generic sub) w).events = _ at hes
    rw [← hes] at hobs
    have hparsed : body ∈ parses ((submit_padded_with_retry_generic sub).exec env.handler w).events :=
      List.mem_filterMap.mpr ⟨_, he, rfl⟩
    rw [hobs.parses_eq] at hparsed
    obtain ⟨resp, hresp, rfl⟩ := List.mem_map.mp hparsed
    obtain ⟨put, hput, hmismatch⟩ := List.mem_filterMap.mp hresp
    obtain ⟨rfl, hstatus⟩ := mismatchReply_eq_some hmismatch
    cases reply with
    | error text => exact absurd hd List.not_mem_nil
    | ok mm =>
      refine ⟨resp, mm, hput, hstatus, ?_, hd⟩
      rw [← mismatchBody_eq]
      exact hreply.symm
  | _ => exact absurd hd List.not_mem_nil

/-- A run of the retry loop changes nothing but session and identity entries of the recipient. -/
theorem send_touches_recipient_only {env : SendEnv C ω} (hlib : env.WritesAddressed) (sub : Submission) (w : World ω) :
    let o := (submit_padded_with_retry_generic sub).exec env.handler w
    (∀ dict key, o.state.pddb.value dict key ≠ w.pddb.value dict key →
      (dict = SESSION_DICT ∨ dict = IDENTITY_DICT) ∧
        ∃ i : DeviceId, key = (ProtocolAddress.mk sub.recipient_uuid i).key ∧
        (EncryptsTo o.events ⟨sub.recipient_uuid, i⟩ ∨ NamedDevice o.events i.val)) ∧
    ∀ (a : ProtocolAddress) dict, a.name ≠ sub.recipient_uuid →
      o.state.pddb.value dict a.key = w.pddb.value dict a.key := by
  intro o
  have hchanged : ∀ dict key, o.state.pddb.value dict key ≠ w.pddb.value dict key →
      (dict = SESSION_DICT ∨ dict = IDENTITY_DICT) ∧
        ∃ i : DeviceId, key = (ProtocolAddress.mk sub.recipient_uuid i).key ∧
        (EncryptsTo o.events ⟨sub.recipient_uuid, i⟩ ∨ NamedDevice o.events i.val) := by
    intro dict key hne
    obtain ⟨e, he, hchange⟩ := Program.exists_changing_event (f := fun u : World ω => u.pddb.value dict key)
      (submit_padded_with_retry_generic sub).run w hne
    have hwithin : SendCall.Within sub.recipient_uuid (listed o.events) e.call := confined_submit_padded w e he
    obtain ⟨hdict, ⟨name, i⟩, hkey, hname, hcall⟩ := changing_call hlib hwithin hchange
    change name = _ at hname
    rw [hname] at hkey hcall
    refine ⟨hdict, i, hkey, ?_⟩
    rcases hcall with ⟨ptext, l, hcall⟩ | hlisted
    · exact .inl ⟨e, he, ptext, l, hcall⟩
    · exact .inr (named_of_listed hlisted)
  refine ⟨hchanged, ?_⟩
  intro a dict hname
  by_contra hne
  obtain ⟨-, i, hkey, -⟩ := hchanged dict a.key hne
  exact hname (congrArg ProtocolAddress.name (key_injective hkey))

section

open Reference

theorem sameBut_of_only {α : Type} {a : ProtocolAddress} {x : PddbProgram α} (p : Pddb)
    (hx : ∀ dict key, (dict, key) ≠ (SESSION_DICT, a.key) → (dict, key) ≠ (IDENTITY_DICT, a.key) →
      x.Only (PddbCall.Leaves dict key)) :
    Pddb.SameBut a p (x.run Pddb.handler p).state := by
  intro dict key hne
  by_cases hs : (dict, key) = (SESSION_DICT, a.key)
  · obtain ⟨rfl, rfl⟩ := Prod.mk.inj hs
    exact ⟨.inl rfl, rfl⟩
  · by_cases hi : (dict, key) = (IDENTITY_DICT, a.key)
    · obtain ⟨rfl, rfl⟩ := Prod.mk.inj hi
      exact ⟨.inr rfl, rfl⟩
    · exact absurd (Pddb.value_of_leaves (hx dict key hs hi) p) hne

theorem only_trusting {α : Type} {a : ProtocolAddress} {dict key : String} (identity_key : Bytes)
    (hne : (dict, key) ≠ (IDENTITY_DICT, a.key)) {x : PddbProgram (Except SignalProtocolError α)}
    (hx : x.Only (PddbCall.Leaves dict key)) : (trusting a identity_key x).Only (PddbCall.Leaves dict key) := by
  apply (Program.Only.perform (S := pddbSignature) (.read IDENTITY_DICT a.key) trivial).bind
  intro found
  split
  · exact .ret _
  · exact .ret _
  · apply (only_write_binary hne hne trivial).bind
    intro written
    cases written with
    | error e => exact .ret _
    | ok u => exact hx

theorem only_message_encrypt {a : ProtocolAddress} {dict key : String} (ptext : Bytes)
    (hs : (dict, key) ≠ (SESSION_DICT, a.key)) (hi : (dict, key) ≠ (IDENTITY_DICT, a.key)) :
    (Reference.message_encrypt ptext a).Only (PddbCall.Leaves dict key) := by
  apply (only_load_session crates.toSessionFormat a dict key).bind
  intro found
  cases found with
  | error e => exact .ret _
  | ok record =>
    cases record with
    | none => exact .ret _
    | some r =>
      apply only_trusting _ hi
      apply (only_store_session crates.toSessionFormat hs _).bind
      intro stored
      cases stored <;> exact .ret _

theorem reference_writesAddressed (server : Server) : server.env.WritesAddressed := by
  constructor
  · intro ptext a l w
    exact sameBut_of_only w.pddb (fun dict key hs hi => only_message_encrypt ptext hs hi)
  · intro a bundle w
    apply sameBut_of_only
    intro dict key hs hi
    unfold Reference.process_prekey_bundle
    split_ifs
    · exact only_trusting _ hi (only_store_session _ hs _)
    · exact .ret _

/-- An account whose id is Bob's followed by a dot and a number keeps its session through a 409 repair. -/
theorem dotted_account_kept :
    let neighbour : ProtocolAddress := ⟨bob ++ ".1", phone⟩
    let p := established neighbour (session (1, 0)) (stock bob [(phone, (1, 0)), (tablet, (1, 0))])
    ((submit_padded_with_retry_generic toBob).exec (bobServer fun _ => false).env.handler
      ⟨p, ()⟩).state.pddb.session neighbour = some (1 :: 0 :: identityKey) := by
  intro neighbour p
  have hframe := (send_touches_recipient_only (reference_writesAddressed (bobServer fun _ => false)) toBob ⟨p, ()⟩).2
  have hstored := session_established neighbour (session (1, 0)) (stock bob [(phone, (1, 0)), (tablet, (1, 0))])
  exact (hframe neighbour SESSION_DICT (by decide)).trans hstored

end

end XousSignalClient
