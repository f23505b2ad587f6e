import XousSignalClient.Send.Rounds

namespace XousSignalClient

open Encoding Interaction Fallible

variable {C : Crates} {ω : Type} {env : SendEnv C ω} {sub : Submission}
  {trusts : Pddb → Prop} {timely : World ω → Prop} {usable stale : C.SessionRecord → Prop}
  {genuine : ℕ → C.PreKeyBundle → Prop} {K S R : Finset ℕ}

/-- The setting of the convergence results: the URL parses, the fallback id is a device id, the
registered ids are device ids, libsignal and the server behave. -/
structure Honest (env : SendEnv C ω) (sub : Submission) (R : Finset ℕ) (trusts : Pddb → Prop)
    (timely : World ω → Prop) (usable stale : C.SessionRecord → Prop) (genuine : ℕ → C.PreKeyBundle → Prop) : Prop where
  url : ∃ base, sub.account.chat_base_url C = .ok base ∧
    HonestServer env sub.account base sub.recipient_uuid sub.excluded_device_id R stale genuine
  fallback : 1 ≤ sub.fallback_device_id ∧ sub.fallback_device_id ≤ 127
  registered : ∀ d ∈ R, 1 ≤ d ∧ d ≤ 127
  libsignal : LibsignalWorks env sub.recipient_uuid trusts timely usable stale genuine

open Classical in
/-- The same surroundings with sessions that never grow too old. -/
noncomputable def SendEnv.ageless (env : SendEnv C ω) (timely : World ω → Prop) : SendEnv C ω :=
  { env with
    message_encrypt := fun ptext remote_address local_address w =>
      if timely w then env.message_encrypt ptext remote_address local_address w
      else (.ok (.SignalMessage []), w) }

theorem Honest.ageless (hh : Honest env sub R trusts timely usable stale genuine) :
    Honest (env.ageless timely) sub R trusts (fun _ => True) usable stale genuine := by
  obtain ⟨base, hbase, hserver⟩ := hh.url
  obtain ⟨hregistration, hidentities, hencrypts, hprocesses⟩ := hh.libsignal
  refine ⟨⟨base, hbase, ?_⟩, hh.fallback, hh.registered, hregistration, hidentities, ?_, hprocesses⟩
  · exact ⟨hserver.mismatched, hserver.stale_found, hserver.accepted, hserver.bundles⟩
  · intro ptext i l w htrusts _ husable
    by_cases hw : timely w
    · have hsame : (env.ageless timely).message_encrypt ptext ⟨sub.recipient_uuid, i⟩ l w =
          env.message_encrypt ptext ⟨sub.recipient_uuid, i⟩ l w := if_pos hw
      rw [hsame]
      exact hencrypts ptext i l w htrusts hw husable
    · exact ⟨.SignalMessage [], _, w, if_neg hw, rfl, htrusts, husable, Iff.rfl, id, fun _ _ => rfl⟩

theorem exec_ageless {α : Type} {x : SendM C α} {w : World ω}
    (hyoung : ∀ e ∈ (x.exec env.handler w).events, timely e.before) :
    x.exec (env.ageless timely).handler w = x.exec env.handler w := by
  apply Program.run_eq_of_agree
  intro e he
  obtain ⟨before, call, reply⟩ := e
  cases call with
  | message_encrypt ptext remote_address local_address => exact if_pos (hyoung _ he)
  | _ => rfl

theorem Lists.addressed {body : SubmitMessagesRequest} {own : Option ℕ}
    (h : Lists body.destinations (notExcluded own K)) : body.addressed own = notExcluded own K := by
  rw [SubmitMessagesRequest.addressed, h.2, notExcluded, Finset.filter_filter]
  simp

theorem round_accepted (hh : Honest env sub R trusts (fun _ => True) usable stale genuine) {w : World ω}
    (hs : Sessions C trusts usable stale w.pddb sub.recipient_uuid K S)
    (hD : notExcluded sub.excluded_device_id K = R) (hne : R.Nonempty) (hfresh : ∀ d ∈ R, d ∉ S) (k : ℕ) :
    Ensures env.handler (submitAttempt sub k) w (fun v u es => v = .ok (some true) ∧
      Sessions C trusts usable stale u.pddb sub.recipient_uuid K S ∧ getLog es = [] ∧
        ∃ ds b, Lists ds R ∧ putLog es = [(ds, .ok ⟨200, b⟩)]) := by
  obtain ⟨base, hbase, hserver⟩ := hh.url
  apply submitAttempt_put hbase hh.libsignal ⟨_, hh.fallback⟩ rfl hs (hD ▸ hne)
  intro w₁ u front body reply hs₁ hu hlists hreply hputs hgets
  have haddr : body.addressed sub.excluded_device_id = R := hlists.addressed.trans hD
  obtain ⟨b, hb⟩ := hserver.accepted body w₁ haddr
    (fun i hi hst => hfresh i.val hi ((hs₁.stale_iff i).mp hst))
  rw [hb] at hreply
  subst hreply
  refine ensures_pure ⟨rfl, hu ▸ hs₁, ?_, body.destinations, b, hD ▸ hlists, ?_⟩
  · rw [List.append_nil, hgets]
  · rw [List.append_nil, hputs]

theorem classify_409 (b : Bytes) :
    classify_attempt (putResult (.ok ⟨409, b⟩)) = .Mismatch409 (mismatchBody ⟨409, b⟩) := by
  have hv : putVerdict ⟨409, b⟩ = .mismatch := rfl
  rcases classify_mismatch hv with ⟨-, h⟩ | ⟨h, -⟩
  · exact h
  · cases h

theorem classify_410 (b : Bytes) :
    classify_attempt (putResult (.ok ⟨410, b⟩)) = .Mismatch410 (mismatchBody ⟨410, b⟩) := by
  have hv : putVerdict ⟨410, b⟩ = .mismatch := rfl
  rcases classify_mismatch hv with ⟨h, -⟩ | ⟨-, h⟩
  · cases h
  · exact h

theorem parse_carried {status : ℕ} {b : Bytes} {mm : DeviceMismatchResponse} (h : Carries C b mm)
    (w : World ω) : Ensures env.handler (parse_mismatch (mismatchBody ⟨status, b⟩)) w (fun v u es =>
      v = .ok mm ∧ u = w ∧ putLog es = [] ∧ getLog es = []) := by
  obtain ⟨t, ht⟩ := Option.isSome_iff_exists.mp h.1
  have hbody : mismatchBody ⟨status, b⟩ = b := mismatchBody_of_valid ht
  have hanswer : env.handler.answer (SendCall.mismatch_from_slice b) w =
      ((.ok mm : Except String DeviceMismatchResponse), w) := Prod.ext h.2 rfl
  rw [hbody]
  apply ensures_ask_bind
  rw [hanswer]
  exact ⟨rfl, rfl, rfl, rfl⟩

theorem round_stale (hh : Honest env sub R trusts (fun _ => True) usable stale genuine) {w : World ω}
    (hs : Sessions C trusts usable stale w.pddb sub.recipient_uuid K S)
    (hD : notExcluded sub.excluded_device_id K = R) (hstale : (R ∩ S).Nonempty) (k : ℕ) :
    Ensures env.handler (submitAttempt sub k) w (fun v u es => v = .ok none ∧
      Sessions C trusts usable stale u.pddb sub.recipient_uuid (K \ (R ∩ S)) (S \ (R ∩ S)) ∧ getLog es = [] ∧
        ∃ ds b, Lists ds R ∧ putLog es = [(ds, .ok ⟨410, b⟩)]) := by
  obtain ⟨base, hbase, hserver⟩ := hh.url
  obtain ⟨d, hd⟩ := hstale
  obtain ⟨hdR, hdS⟩ := Finset.mem_inter.mp hd
  apply submitAttempt_put hbase hh.libsignal ⟨_, hh.fallback⟩ rfl hs (hD ▸ ⟨d, hdR⟩)
  intro w₁ u front body reply hs₁ hu hlists hreply hputs hgets
  have haddr : body.addressed sub.excluded_device_id = R := hlists.addressed.trans hD
  obtain ⟨b, mm, hb, hcarries, hmm⟩ := hserver.stale_found body w₁ haddr
    ⟨⟨d, hh.registered d hdR⟩, hdR, (hs₁.stale_iff _).mpr hdS⟩
  rw [hb] at hreply
  subst hreply
  rw [classify_410]
  apply ensures_bind (parse_carried hcarries u)
  · rintro e t es ⟨hv, -⟩
    cases hv
  · rintro mm' t es ⟨hmm', rfl, hput₁, hget₁⟩
    obtain rfl := Except.ok.inj hmm'
    apply ensures_bind (deleteListed_honest hh.libsignal (hu ▸ hs₁))
    · rintro e t' es' ⟨hv, -⟩
      cases hv
    · rintro _ t' es' ⟨-, ht', hput₂, hget₂⟩
      have hset : ∀ X ⊆ K, X \ mm'.stale_devices.toFinset = X \ (R ∩ S) := by
        intro X hX
        ext x
        simp only [Finset.mem_sdiff, List.mem_toFinset, Finset.mem_inter]
        refine and_congr_right fun hx => not_congr ?_
        rw [hmm ⟨x, hs.ids x (hX hx)⟩, hs₁.stale_iff]
      rw [hset K (Finset.Subset.refl K), hset S hs.stale_sub] at ht'
      refine ensures_pure ⟨rfl, ht', ?_, body.destinations, b, hD ▸ hlists, ?_⟩
      · simp only [getLog_append, hgets, hget₁, hget₂]
        rfl
      · simp only [putLog_append, hputs, hput₁, hput₂]
        rfl

theorem round_mismatch (hh : Honest env sub R trusts (fun _ => True) usable stale genuine) {w : World ω}
    (hs : Sessions C trusts usable stale w.pddb sub.recipient_uuid K S) {D : Finset ℕ}
    (hD : notExcluded sub.excluded_device_id K = D) (hne : D.Nonempty) (hDR : D ≠ R) (k : ℕ) :
    Ensures env.handler (submitAttempt sub k) w (fun v u es => v = .ok none ∧
      Sessions C trusts usable stale u.pddb sub.recipient_uuid (K \ (D \ R) ∪ (R \ D))
        ((S \ (D \ R)) \ (R \ D)) ∧
      (∃ base, ∃ missing : List ℕ, sub.account.chat_base_url C = .ok base ∧ missing.Nodup ∧
        missing.toFinset = R \ D ∧
        getLog es = missing.map (fun d => keysUrlAt C base sub.recipient_uuid (toString d))) ∧
      ∃ ds b, Lists ds D ∧ putLog es = [(ds, .ok ⟨409, b⟩)]) := by
  obtain ⟨base, hbase, hserver⟩ := hh.url
  apply submitAttempt_put hbase hh.libsignal ⟨_, hh.fallback⟩ rfl hs (hD ▸ hne)
  intro w₁ u front body reply hs₁ hu hlists hreply hputs hgets
  have haddr : body.addressed sub.excluded_device_id = D := hlists.addressed.trans hD
  obtain ⟨b, mm, hb, hcarries, hnodup, hmissing, hextra⟩ := hserver.mismatched body w₁ (haddr ▸ hDR)
  rw [haddr] at hmissing hextra
  rw [hb] at hreply
  subst hreply
  have hregistered : ∀ d ∈ mm.missing_devices, d ∈ R := by
    intro d hd
    rw [← List.mem_toFinset, hmissing] at hd
    exact (Finset.mem_sdiff.mp hd).1
  rw [classify_409]
  apply ensures_bind (parse_carried hcarries u)
  · rintro e t es ⟨hv, -⟩
    cases hv
  · rintro mm' t es ⟨hmm', rfl, hput₁, hget₁⟩
    obtain rfl := Except.ok.inj hmm'
    have hhandle : Ensures env.handler (handle_mismatched_devices ⟨sub.recipient_uuid, ⟨_, hh.fallback⟩⟩ mm'
        sub.account) t (fun v t' es' => v = .ok () ∧ Sessions C trusts usable stale t'.pddb sub.recipient_uuid
          (K \ (D \ R) ∪ (R \ D)) ((S \ (D \ R)) \ (R \ D)) ∧ putLog es' = [] ∧
          getLog es' = mm'.missing_devices.map
            (fun d => keysUrlAt C base sub.recipient_uuid (toString d))) := by
      apply ensures_bind (deleteListed_honest hh.libsignal (hu ▸ hs₁))
      · rintro e t' es' ⟨hv, -⟩
        cases hv
      · rintro _ t' es' ⟨-, ht', hput₂, hget₂⟩
        apply (fetchMissing_honest hbase hh.libsignal hserver hh.registered hregistered ht').mono
        rintro v t'' es'' ⟨hv, ht'', hput₃, hget₃⟩
        rw [hextra, hmissing] at ht''
        refine ⟨hv, ht'', ?_, ?_⟩
        · rw [putLog_append, hput₂, hput₃]
          rfl
        · rw [getLog_append, hget₂, hget₃]
          rfl
    apply ensures_bind hhandle
    · rintro e t' es' ⟨hv, -⟩
      cases hv
    · rintro _ t' es' ⟨-, ht', hput₂, hget₂⟩
      refine ensures_pure ⟨rfl, ht', ⟨base, mm'.missing_devices, hbase, hnodup, hmissing, ?_⟩,
        body.destinations, b, hD ▸ hlists, ?_⟩
      · simp only [getLog_append, hgets, hget₁, hget₂]
        exact List.append_nil _
      · simp only [putLog_append, hputs, hput₁, hput₂]
        rfl

theorem round_empty {w : World ω} (hs : Sessions C trusts usable stale w.pddb sub.recipient_uuid K S)
    (hD : notExcluded sub.excluded_device_id K = ∅) (hex : sub.excluded_device_id.isSome) (k : ℕ) :
    Ensures env.handler (submitAttempt sub k) w (fun v u es => v = .ok (some false) ∧ u = w ∧
      getLog es = [] ∧ putLog es = []) := by
  have hanswer : env.handler.answer (SendCall.device_ids_for sub.recipient_uuid) w =
      (w.pddb.sessionDevices sub.recipient_uuid, w) := rfl
  have hnone : addressedDevices sub.fallback_device_id sub.excluded_device_id
      (w.pddb.sessionDevices sub.recipient_uuid) = none := by
    refine addressed_eq_none.mpr ⟨hex, List.filter_eq_nil_iff.mpr ?_⟩
    intro d hd hkeep
    have : d ∈ notExcluded sub.excluded_device_id K :=
      Finset.mem_filter.mpr ⟨hs.mem_sessionDevices.mp hd, by simpa using hkeep⟩
    rw [hD] at this
    exact absurd this (Finset.notMem_empty d)
  apply ensures_ask_bind
  rw [hanswer]
  simp only [hnone]
  exact ⟨rfl, rfl, rfl, rfl⟩

theorem round_no_session {w : World ω} (hs : Sessions C trusts usable stale w.pddb sub.recipient_uuid ∅ S)
    (hfallback : 1 ≤ sub.fallback_device_id ∧ sub.fallback_device_id ≤ 127)
    (hex : sub.excluded_device_id = none) (k : ℕ) :
    Ensures env.handler (submitAttempt sub k) w (fun v _ es =>
      v = .error (.Encryption .NoSession) ∧ putLog es = []) := by
  have hids : w.pddb.sessionDevices sub.recipient_uuid = [] :=
    List.eq_nil_iff_forall_not_mem.mpr fun d hd =>
      absurd (hs.mem_sessionDevices.mp hd) (Finset.notMem_empty d)
  have hanswer : env.handler.answer (SendCall.device_ids_for sub.recipient_uuid) w =
      (([] : List ℕ), w) := by
    rw [← hids]
    rfl
  have haddr : addressedDevices sub.fallback_device_id sub.excluded_device_id [] =
      some [sub.fallback_device_id] := by
    rw [hex]
    rfl
  have hgone : w.pddb.session ⟨sub.recipient_uuid, ⟨_, hfallback⟩⟩ = none := by
    have hiff := hs.isSome_iff ⟨_, hfallback⟩
    rw [← Option.not_isSome_iff_eq_none, hiff]
    exact Finset.notMem_empty _
  have hload : env.handler.answer (SendCall.load_session ⟨sub.recipient_uuid, ⟨_, hfallback⟩⟩) w =
      ((.ok none : Except SignalProtocolError (Option C.SessionRecord)), w) := by
    have hl := answer_load_session env ⟨sub.recipient_uuid, ⟨_, hfallback⟩⟩ w
    simp only [hgone] at hl
    exact hl
  have hencrypt : Ensures env.handler (encryptFor sub ⟨sub.recipient_uuid, ⟨_, hfallback⟩⟩) w
      (fun v _ es => v = .error (.Encryption .NoSession) ∧ putLog es = []) := by
    apply ensures_mapError
    unfold encrypt_padded_for_recipient
    apply ensures_call_bind (S := sendSignature C)
      (c := SendCall.load_session ⟨sub.recipient_uuid, ⟨_, hfallback⟩⟩)
    rw [hload]
    exact ⟨rfl, rfl⟩
  have hdev : ∀ label, to_device_id label sub.fallback_device_id = .ok ⟨_, hfallback⟩ :=
    fun label => to_device_id_ok label ⟨_, hfallback⟩
  apply ensures_ask_bind
  rw [hanswer]
  simp only [haddr, hdev]
  apply ensures_ok_bind
  unfold encryptForAll
  simp only [hdev]
  apply ensures_bind (P := fun v _ es => v = .error (.Encryption .NoSession) ∧ putLog es = [])
  · apply ensures_ok_bind
    apply ensures_bind hencrypt
    · exact fun _ _ _ h => ⟨congrArg Except.error (Except.error.inj h.1), h.2⟩
    · rintro enc t es ⟨hv, -⟩
      cases hv
  · exact fun _ _ _ h => ⟨congrArg Except.error (Except.error.inj h.1), h.2⟩
  · rintro entities t es ⟨hv, -⟩
    cases hv

end XousSignalClient
