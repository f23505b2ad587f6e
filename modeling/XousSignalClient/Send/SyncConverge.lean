import XousSignalClient.Send.Recover

namespace XousSignalClient

open Encoding Interaction Fallible

variable {C : Crates} {ω : Type} {env : SendEnv C ω} {sub : Submission}
  {trusts : Pddb → Prop} {timely : World ω → Prop} {usable stale : C.SessionRecord → Prop}
  {genuine : ℕ → C.PreKeyBundle → Prop} {K S R : Finset ℕ}

theorem establishAll_honest {uuid : String}
    (hlib : LibsignalWorks env uuid trusts (fun _ => True) usable stale genuine) {own : ℕ} {k : C.IdentityKey}
    {entries : List DeviceEntry}
    (hids : ∀ entry ∈ entries, entry.device_id ≠ own → 1 ≤ entry.device_id ∧ entry.device_id ≤ 127)
    (hentries : ∀ entry ∈ entries, entry.device_id ≠ own →
      ∃ bundle, build_prekey_bundle C entry k = .ok bundle ∧ genuine entry.device_id bundle)
    {w : World ω} (hs : Sessions C trusts usable stale w.pddb uuid K S) :
    Logs env (establishAll uuid (some own) k entries) w (fun v u ps gs =>
      v = .ok ((entries.map DeviceEntry.device_id).filter (fun d => d ≠ own)) ∧
      Sessions C trusts usable stale u.pddb uuid
        (K ∪ ((entries.map DeviceEntry.device_id).filter (fun d => d ≠ own)).toFinset)
        (S \ ((entries.map DeviceEntry.device_id).filter (fun d => d ≠ own)).toFinset) ∧
      ps = [] ∧ gs = []) := by
  induction entries generalizing w K S with
  | nil =>
    refine ensures_pure ⟨rfl, ?_, rfl, rfl⟩
    simpa using hs
  | cons entry entries ih =>
    have hrest := fun {K S w} => ih (K := K) (S := S) (w := w)
      (fun e he => hids e (List.mem_cons_of_mem entry he))
      (fun e he => hentries e (List.mem_cons_of_mem entry he))
    unfold establishAll
    by_cases hown : entry.device_id = own
    · rw [if_pos (congrArg some hown)]
      have hfilter : ((entry :: entries).map DeviceEntry.device_id).filter (fun d => d ≠ own) =
          (entries.map DeviceEntry.device_id).filter (fun d => d ≠ own) := by simp [hown]
      rw [hfilter]
      exact hrest hs
    · have hne : ¬some entry.device_id = some own := fun h => hown (Option.some.inj h)
      have hfilter : ((entry :: entries).map DeviceEntry.device_id).filter (fun d => d ≠ own) =
          entry.device_id :: (entries.map DeviceEntry.device_id).filter (fun d => d ≠ own) := by
        simp [hown]
      obtain ⟨bundle, hbuild, hgenuine⟩ := hentries entry List.mem_cons_self hown
      have hvalid := hids entry List.mem_cons_self hown
      obtain ⟨w', hproc, htrusts, husable, hfresh, honly⟩ :=
        hlib.processes ⟨_, hvalid⟩ bundle w hs.trusted (hs.clean _) hgenuine
      have haddr : device_protocol_address uuid entry.device_id = some ⟨uuid, ⟨_, hvalid⟩⟩ :=
        device_protocol_address_val uuid ⟨_, hvalid⟩
      have hanswer : env.handler.answer (SendCall.process_prekey_bundle ⟨uuid, ⟨_, hvalid⟩⟩ bundle) w =
          ((.ok () : Except SignalProtocolError Unit), w') := hproc
      rw [if_neg hne, hfilter, hbuild]
      apply ensures_ok_bind
      simp only [haddr]
      apply ensures_ask_bind
      rw [hanswer]
      apply ensures_ok_bind
      apply ensures_bind (hrest (hs.established htrusts husable hfresh honly))
      · rintro e t es ⟨hv, -⟩
        cases hv
      · rintro established t es ⟨hv, ht, hps, hgs⟩
        obtain rfl := Except.ok.inj hv
        refine ensures_pure ⟨rfl, ?_, ?_, ?_⟩
        · rwa [union_cons, sdiff_cons]
        · rw [putLog_cons rfl, List.append_nil, hps]
        · rw [getLog_cons rfl, List.append_nil, hgs]

theorem discover_honest {own : ℕ} (hh : Honest env sub R trusts (fun _ => True) usable stale genuine) (hown : own ∉ R)
    (hserves : ServesAccount env sub.account sub.recipient_uuid own R genuine) {base : C.Url}
    (hbase : sub.account.chat_base_url C = .ok base) {w : World ω}
    (hs : Sessions C trusts usable stale w.pddb sub.recipient_uuid K S) :
    Logs env (discover_and_establish_account_devices sub.recipient_uuid (some own) sub.account) w
      (fun v u ps gs => (∃ established, v = .ok established ∧ established.toFinset = R) ∧
        Sessions C trusts usable stale u.pddb sub.recipient_uuid (K ∪ R) (S \ R) ∧ ps = [] ∧
        gs = [keysUrlAt C base sub.recipient_uuid "*"]) := by
  obtain ⟨b, hget, pre, k, hpre, hk, hdevices, hentries⟩ := hserves.listed base hbase w
  have hanswer : (env.handler.answer (SendCall.get_json (keysUrlAt C base sub.recipient_uuid "*")
      (sub.account.basic_auth C)) w).1 = (.ok ⟨200, b⟩ : Except String HttpResponse) := hget
  have hestablished : ((pre.devices.map DeviceEntry.device_id).filter (fun d => d ≠ own)).toFinset = R := by
    ext x
    have hx : x ∈ pre.devices.map DeviceEntry.device_id ↔ x = own ∨ x ∈ R := by
      rw [← List.mem_toFinset, hdevices, Finset.mem_insert]
    rw [List.mem_toFinset, List.mem_filter, hx]
    constructor
    · rintro ⟨rfl | hxR, hne⟩
      · simp at hne
      · exact hxR
    · intro hxR
      refine ⟨.inr hxR, ?_⟩
      simpa using fun h : x = own => hown (h ▸ hxR)
  have hids : ∀ entry ∈ pre.devices, entry.device_id ≠ own →
      1 ≤ entry.device_id ∧ entry.device_id ≤ 127 := by
    intro entry hentry hne
    apply hh.registered
    rw [← hestablished, List.mem_toFinset, List.mem_filter]
    exact ⟨List.mem_map_of_mem hentry, by simpa using hne⟩
  unfold discover_and_establish_account_devices
  rw [keysUrl_ok hbase]
  apply ensures_ok_bind
  apply ensures_ask_bind
  rw [hanswer]
  apply ensures_ok_bind
  rw [if_pos rfl, hpre]
  apply ensures_ok_bind
  rw [hk]
  apply ensures_ok_bind
  have hs' : Sessions C trusts usable stale (env.answer (.get_json (keysUrlAt C base sub.recipient_uuid "*")
      (sub.account.basic_auth C)) w).2.pddb sub.recipient_uuid K S := hs
  apply (establishAll_honest hh.libsignal hids hentries hs').mono
  rintro v u es ⟨rfl, hu, hps, hgs⟩
  rw [hestablished] at hu
  refine ⟨⟨_, rfl, hestablished⟩, hu, ?_, ?_⟩
  · rw [putLog_cons rfl, hps]
  · rw [getLog_cons_get rfl, hgs]

theorem notExcluded_repaired {own : ℕ} (hown : own ∉ R) (K : Finset ℕ) :
    notExcluded (some own) (K \ (notExcluded (some own) K \ R) ∪ (R \ notExcluded (some own) K)) = R := by
  ext x
  simp only [notExcluded, Finset.mem_filter, Finset.mem_union, Finset.mem_sdiff, ne_eq, Option.some.injEq]
  constructor
  · tauto
  · intro hx
    have hne : x ≠ own := fun h => hown (h ▸ hx)
    tauto

theorem notExcluded_discovered {own : ℕ} (hown : own ∉ R) (hK : notExcluded (some own) K = ∅) :
    notExcluded (some own) (K ∪ R) = R := by
  have hR : notExcluded (some own) R = R := by
    rw [notExcluded, Finset.filter_eq_self]
    intro x hx h
    exact hown (Option.some.inj h ▸ hx)
  rw [notExcluded, Finset.filter_union]
  rw [notExcluded] at hK hR
  rw [hK, hR, Finset.empty_union]

theorem sync_loop_converges {own : ℕ} (hh : Honest env sub R trusts (fun _ => True) usable (fun _ => False) genuine)
    (hexcl : sub.excluded_device_id = some own) (hown : own ∉ R) {w : World ω}
    (hs : Sessions C trusts usable (fun _ => False) w.pddb sub.recipient_uuid K ∅)
    (hD : (notExcluded (some own) K).Nonempty) :
    LogsTimely env (submit_padded_with_retry_generic sub) w (fun v _ ps gs =>
      (∃ delivered, v = .ok delivered) ∧
      (R.Nonempty → ps.length ≤ 2 ∧ ∃ ds b, ps.getLast? = some (ds, .ok ⟨200, b⟩) ∧ Lists ds R) ∧
      (R = ∅ → ∀ ds resp, (ds, .ok resp) ∈ ps → resp.status ≠ 200) ∧
      ∃ base, sub.account.chat_base_url C = .ok base ∧
        ∀ url ∈ gs, ∃ d : ℕ, url = keysUrlAt C base sub.recipient_uuid (toString d)) := by
  obtain ⟨base, hbase, -⟩ := hh.url
  apply submit_padded_step
  intro w₀ hw₀ start
  rw [← hw₀] at hs
  rcases R.eq_empty_or_nonempty with rfl | hR
  · apply submitLoop_step
    intro w₁ hw₁
    rw [← hw₁] at hs
    apply (round_mismatch hh hs rfl (by rw [hexcl]; exact hD) (by rw [hexcl]; exact hD.ne_empty) _).mono
    rintro v u es ⟨rfl, hu, ⟨base', missing, hbase', -, hmissing, hgets⟩, ds, b, -, hputs⟩
    have hnil : missing = [] := by simpa using hmissing
    apply submitLoop_step
    intro w₂ hw₂
    have hempty : notExcluded sub.excluded_device_id (K \ (notExcluded sub.excluded_device_id K \ ∅) ∪
        (∅ \ notExcluded sub.excluded_device_id K)) = ∅ := by
      rw [hexcl]
      exact notExcluded_repaired hown K
    rw [← hw₂] at hu
    apply (round_empty hu hempty (by rw [hexcl]; rfl) _).mono
    rintro v t es' ⟨rfl, rfl, hgets', hputs'⟩
    rw [hputs, hputs', hgets, hgets', hnil]
    refine ⟨⟨false, rfl⟩, fun h => absurd h (by simp), ?_, base, hbase, by simp⟩
    intro _ ds' resp hmem
    obtain ⟨-, hresp⟩ := Prod.mk.inj (List.mem_singleton.mp hmem)
    rw [Except.ok.inj hresp]
    simp
  · by_cases hDR : notExcluded sub.excluded_device_id K = R
    · refine LogsFrom.mono (loop_delivers hh hR hs hDR (by simp)) ?_
      rintro v u ps gs ⟨rfl, -, hgs, ds, b, hlists, hps⟩
      rw [hps, hgs]
      exact ⟨⟨true, rfl⟩, fun _ => ⟨by simp, ds, b, rfl, hlists⟩, fun h => absurd h hR.ne_empty,
        base, hbase, by simp⟩
    · have hrepaired : notExcluded sub.excluded_device_id
          (K \ (notExcluded sub.excluded_device_id K \ R) ∪ (R \ notExcluded sub.excluded_device_id K)) = R := by
        rw [hexcl]
        exact notExcluded_repaired hown K
      refine LogsFrom.mono (loop_repairs hh hR hs rfl (by rw [hexcl]; exact hD) hDR (by simp) hrepaired) ?_
      rintro v u ps gs ⟨rfl, -, -, hurls, ds, ds', b, b', hlists, hps⟩
      rw [hps]
      exact ⟨⟨true, rfl⟩, fun _ => ⟨Nat.le_refl 2, ds', b', rfl, hlists⟩, fun h => absurd h hR.ne_empty,
        hurls⟩

def syncSubmission (plaintext recipient_uuid : String) (timestamp_ms : UInt64) (own_uuid : String)
    (own_device_id : ℕ) (local_addr : ProtocolAddress) (account : AccountInfo) : Submission :=
  ⟨build_padded_sync_transcript_content recipient_uuid plaintext timestamp_ms, timestamp_ms, own_uuid,
    own_device_id, some own_device_id, local_addr, account⟩

theorem sync_transcript_logs {plaintext recipient_uuid : String} {timestamp_ms : UInt64}
    {own_uuid : String} {own_device_id : ℕ} {local_addr : ProtocolAddress} {account : AccountInfo}
    {w : World ω}
    (hh : Honest env (syncSubmission plaintext recipient_uuid timestamp_ms own_uuid own_device_id local_addr
      account) R trusts (fun _ => True) usable (fun _ => False) genuine)
    (hserves : ServesAccount env account own_uuid own_device_id R genuine) (hown : own_device_id ∉ R)
    (hs : Sessions C trusts usable (fun _ => False) w.pddb own_uuid K ∅) :
    LogsTimely env (submit_sync_transcript_generic plaintext recipient_uuid timestamp_ms own_uuid own_device_id
      local_addr account) w (fun v _ ps gs => v = .ok () ∧
        (R.Nonempty → ps.length ≤ 2 ∧ ∃ ds b, ps.getLast? = some (ds, .ok ⟨200, b⟩) ∧ Lists ds R) ∧
        (R = ∅ → (∀ ds resp, (ds, .ok resp) ∈ ps → resp.status ≠ 200) ∧
          (notExcluded (some own_device_id) K = ∅ → ps = [])) ∧
        (∀ base, account.chat_base_url C = .ok base →
          (keysUrlAt C base own_uuid "*" ∈ gs ↔ notExcluded (some own_device_id) K = ∅))) := by
  obtain ⟨base, hbase, -⟩ := hh.url
  have hunique : ∀ base', account.chat_base_url C = .ok base' → base' = base := by
    intro base' hbase'
    exact (Except.ok.inj (hbase.symm.trans hbase')).symm
  have hanswer : env.handler.answer (SendCall.device_ids_for own_uuid) w =
      (w.pddb.sessionDevices own_uuid, w) := rfl
  have hknown : ((w.pddb.sessionDevices own_uuid).filter (fun d => d ≠ own_device_id)).isEmpty ↔
      notExcluded (some own_device_id) K = ∅ := by
    rw [List.isEmpty_iff, List.filter_eq_nil_iff, notExcluded, Finset.filter_eq_empty_iff]
    simp only [hs.mem_sessionDevices, decide_eq_true_eq, ne_eq, Option.some.injEq]
  unfold submit_sync_transcript_generic
  apply ensures_ask_bind
  rw [hanswer]
  by_cases hothers : notExcluded (some own_device_id) K = ∅
  · rw [if_pos (hknown.mpr hothers)]
    apply ensures_attempt_bind (discover_honest hh hown hserves hbase hs)
    rintro r u es ⟨⟨established, rfl, hestablished⟩, hu, hps, hgs⟩
    rw [Finset.empty_sdiff] at hu
    cases established with
    | nil =>
      have hR : R = ∅ := by simpa using hestablished.symm
      refine ensures_pure ?_
      intro _
      rw [List.append_nil, putLog_cons rfl, getLog_cons rfl, hps, hgs]
      refine ⟨rfl, fun h => absurd hR h.ne_empty, fun _ => ⟨by simp, fun _ => rfl⟩, ?_⟩
      intro base' hbase'
      rw [hunique base' hbase']
      exact ⟨fun _ => hothers, fun _ => List.mem_singleton_self _⟩
    | cons d ds =>
      have hR : R.Nonempty := by
        rw [← hestablished]
        exact ⟨d, by simp⟩
      have hD : (notExcluded (some own_device_id) (K ∪ R)).Nonempty := by
        rw [notExcluded_discovered hown hothers]
        exact hR
      apply ensures_bind (sync_loop_converges hh rfl hown hu hD)
      · intro e t es' hloop hclock
        obtain ⟨⟨delivered, hv⟩, -⟩ := hloop (hclock.of_append (_ :: es))
        cases hv
      · intro delivered t es' hloop
        refine ensures_pure ?_
        intro hclock
        rw [List.append_nil] at hclock
        obtain ⟨-, hdelivers, -, -⟩ := hloop (hclock.of_append (_ :: es))
        rw [List.append_nil, putLog_cons rfl, getLog_cons rfl, putLog_append, getLog_append, hps, hgs]
        refine ⟨rfl, hdelivers, fun h => absurd h hR.ne_empty, ?_⟩
        intro base' hbase'
        rw [hunique base' hbase']
        exact ⟨fun _ => hothers, fun _ => List.mem_append_left _ (List.mem_singleton_self _)⟩
  · rw [if_neg (fun h => hothers (hknown.mp h))]
    have hD : (notExcluded (some own_device_id) K).Nonempty := Finset.nonempty_iff_ne_empty.mpr hothers
    apply ensures_bind (sync_loop_converges hh rfl hown hs hD)
    · intro e t es hloop hclock
      obtain ⟨⟨delivered, hv⟩, -⟩ := hloop (hclock.of_append [_])
      cases hv
    · intro delivered t es hloop
      refine ensures_pure ?_
      intro hclock
      rw [List.append_nil] at hclock
      obtain ⟨-, hdelivers, hrefused, base', hbase', hurls⟩ := hloop (hclock.of_append [_])
      rw [List.append_nil, putLog_cons rfl, getLog_cons rfl]
      refine ⟨rfl, hdelivers, fun h => ⟨hrefused h, fun h' => absurd h' hothers⟩, ?_⟩
      intro base'' hbase''
      refine ⟨?_, fun h => absurd h hothers⟩
      intro hmem
      obtain ⟨d, hd⟩ := hurls _ hmem
      have hsame : base'' = base' := (hunique base'' hbase'').trans (hunique base' hbase').symm
      rw [hsame] at hd
      exact absurd hd.symm (hserves.distinct base' hbase' d)

theorem sync_transcript_converges {plaintext recipient_uuid : String} {timestamp_ms : UInt64}
    {own_uuid : String} {own_device_id : ℕ} {local_addr : ProtocolAddress} {account : AccountInfo}
    {w : World ω}
    (hh : Honest env (syncSubmission plaintext recipient_uuid timestamp_ms own_uuid own_device_id local_addr
      account) R trusts timely usable (fun _ => False) genuine)
    (hserves : ServesAccount env account own_uuid own_device_id R genuine) (hown : own_device_id ∉ R)
    (hs : Sessions C trusts usable (fun _ => False) w.pddb own_uuid K ∅)
    (hclock : InTime timely ((submit_sync_transcript_generic plaintext recipient_uuid timestamp_ms own_uuid
      own_device_id local_addr account).exec env.handler w).events) :
    let o := (submit_sync_transcript_generic plaintext recipient_uuid timestamp_ms own_uuid own_device_id
      local_addr account).exec env.handler w
    let others := notExcluded (some own_device_id) K
    o.value = .ok () ∧
    (R.Nonempty → (putLog o.events).length ≤ 2 ∧
      ∃ ds b, (putLog o.events).getLast? = some (ds, .ok ⟨200, b⟩) ∧ Lists ds R) ∧
    (R = ∅ → (∀ ds resp, (ds, .ok resp) ∈ putLog o.events → resp.status ≠ 200) ∧
      (others = ∅ → putLog o.events = [])) ∧
    (∀ base, account.chat_base_url C = .ok base →
      (keysUrlAt C base own_uuid "*" ∈ getLog o.events ↔ others = ∅)) :=
  (sync_transcript_logs hh.ageless ⟨hserves.listed, hserves.distinct⟩ hown hs).in_time hclock

section

open Reference

def aliceServer : Server := ⟨account, alice, some 2, {1}, fun _ => false⟩

/-- With no own-account session yet, the wildcard discovery finds the phone. -/
theorem sync_transcript_converges_example :
    let o := (submit_sync_transcript_generic "hello" bob 1700000000000 alice 2 ⟨alice, laptop⟩ account).exec
      aliceServer.env.handler ⟨stock alice [], ()⟩
    o.value = .ok () ∧ ∃ ds b, (putLog o.events).getLast? = some (ds, .ok ⟨200, b⟩) ∧ Lists ds {1} := by
  intro o
  have hR : ∀ d ∈ aliceServer.registered, 1 ≤ d ∧ d ≤ 127 := by
    intro d hd
    have hd' : d = 1 := Finset.mem_singleton.mp hd
    omega
  have hh : Honest aliceServer.env (syncSubmission "hello" bob 1700000000000 alice 2 ⟨alice, laptop⟩ account)
      {1} (Trusting alice) (fun _ => True) Known aliceServer.stale Genuine := honest rfl rfl rfl (by decide) hR rfl
  have hstale : aliceServer.stale = fun _ => False := never_stale
  rw [hstale] at hh
  obtain ⟨hv, hdelivered, -⟩ := sync_transcript_converges (w := ⟨stock alice [], ()⟩) hh
    (serves_account rfl hR) (by decide) (sessions_stock_fresh alice [] (by decide)) (inTime _ _ _)
  exact ⟨hv, (hdelivered (by decide)).2⟩

end

end XousSignalClient
