import XousSignalClient.Send.Accounts

namespace XousSignalClient

open Encoding Interaction Fallible

variable {C : Crates} {ω : Type} {env : SendEnv C ω} {sub : Submission}
  {trusts : Pddb → Prop} {timely : World ω → Prop} {usable stale : C.SessionRecord → Prop}
  {genuine : ℕ → C.PreKeyBundle → Prop} {K S R : Finset ℕ}

def Logs {α : Type} (env : SendEnv C ω) (x : SendM C α) (w : World ω)
    (Q : Except SendError α → World ω → List (List ℕ × Except String HttpResponse) → List String → Prop) :
    Prop :=
  Ensures env.handler x w (fun v u es => Q v u (putLog es) (getLog es))

def LogsFrom {α : Type} (start : ℕ) (env : SendEnv C ω) (x : SendM C α) (w : World ω)
    (Q : Except SendError α → World ω → List (List ℕ × Except String HttpResponse) → List String → Prop) :
    Prop :=
  Ensures env.handler x w (fun v u es =>
    (∀ t ∈ clocks es, t - start ≤ RETRY_BUDGET) → Q v u (putLog es) (getLog es))

def LogsTimely {α : Type} (env : SendEnv C ω) (x : SendM C α) (w : World ω)
    (Q : Except SendError α → World ω → List (List ℕ × Except String HttpResponse) → List String → Prop) :
    Prop :=
  Ensures env.handler x w (fun v u es => WithinBudget es → Q v u (putLog es) (getLog es))

theorem LogsTimely.in_time {α : Type} {x : SendM C α} {w : World ω}
    {Q : Except SendError α → World ω → List (List ℕ × Except String HttpResponse) → List String → Prop}
    (h : LogsTimely (env.ageless timely) x w Q) (hclock : InTime timely (x.exec env.handler w).events) :
    let o := x.exec env.handler w
    Q o.value o.state (putLog o.events) (getLog o.events) := by
  have hsame := exec_ageless hclock.young
  unfold LogsTimely Ensures at h
  rw [hsame] at h
  exact h hclock.budget

theorem LogsFrom.mono {α : Type} {start : ℕ} {x : SendM C α} {w : World ω}
    {Q Q' : Except SendError α → World ω → List (List ℕ × Except String HttpResponse) → List String → Prop}
    (h : LogsFrom start env x w Q) (hQ : ∀ v u ps gs, Q v u ps gs → Q' v u ps gs) :
    LogsFrom start env x w Q' := by
  apply Ensures.mono h
  intro v u es hes hclock
  exact hQ _ _ _ _ (hes hclock)

theorem clocks_append {σ : Type} (es es' : List (SendEvent C σ)) :
    clocks (es ++ es') = clocks es ++ clocks es' := List.filterMap_append

theorem WithinBudget.of_append {σ : Type} (es : List (SendEvent C σ)) {es' : List (SendEvent C σ)}
    (h : WithinBudget (es ++ es')) : WithinBudget es' := by
  intro t ht t' ht'
  apply h <;> rw [clocks_append] <;> apply List.mem_append_right <;> assumption

theorem submitLoop_step {start left : ℕ} {w : World ω}
    {Q : Except SendError Bool → World ω → List (List ℕ × Except String HttpResponse) → List String → Prop}
    (hround : ∀ w₀ : World ω, w₀.pddb = w.pddb → Logs env (submitAttempt sub (MAX_ATTEMPTS - left)) w₀
      (fun v u ps gs =>
        match v with
        | .error e => Q (.error e) u ps gs
        | .ok (some delivered) => Q (.ok delivered) u ps gs
        | .ok none => LogsFrom start env (submitLoop sub start left) u
            (fun v' t ps' gs' => Q v' t (ps ++ ps') (gs ++ gs')))) :
    LogsFrom start env (submitLoop sub start (left + 1)) w Q := by
  have hanswer : env.handler.answer SendCall.now w =
      ((env.now w.env).1, (⟨w.pddb, (env.now w.env).2⟩ : World ω)) := rfl
  unfold LogsFrom submitLoop
  apply ensures_ask_bind
  rw [hanswer]
  by_cases hlate : RETRY_BUDGET < (env.now w.env).1 - start
  · rw [if_pos hlate]
    refine ensures_throw ?_
    intro hclock
    exact absurd hlate (Nat.not_lt.mpr (hclock _ List.mem_cons_self))
  · rw [if_neg hlate]
    apply ensures_bind (hround ⟨w.pddb, (env.now w.env).2⟩ rfl)
    · intro e u es hQ _
      exact hQ
    · intro next u es hQ
      cases next with
      | some delivered =>
        refine ensures_pure ?_
        intro _
        rw [List.append_nil]
        exact hQ
      | none =>
        apply Ensures.mono hQ
        intro v t es' hQ' hclock
        rw [putLog_cons rfl, getLog_cons rfl, putLog_append, getLog_append]
        apply hQ'
        intro reading hreading
        apply hclock
        apply List.mem_cons_of_mem
        change reading ∈ clocks (es ++ es')
        rw [clocks_append]
        exact List.mem_append_right _ hreading

theorem submit_padded_step {w : World ω}
    {Q : Except SendError Bool → World ω → List (List ℕ × Except String HttpResponse) → List String → Prop}
    (hloop : ∀ w₀ : World ω, w₀.pddb = w.pddb → ∀ start,
      LogsFrom start env (submitLoop sub start MAX_ATTEMPTS) w₀ Q) :
    LogsTimely env (submit_padded_with_retry_generic sub) w Q := by
  unfold LogsTimely submit_padded_with_retry_generic
  apply ensures_ask_bind
  apply Ensures.mono (hloop ⟨w.pddb, (env.now w.env).2⟩ rfl (env.now w.env).1)
  intro v u es hQ hclock
  apply hQ
  intro t ht
  exact hclock _ List.mem_cons_self t (List.mem_cons_of_mem _ ht)

def LastPut (R : Finset ℕ) (ps : List (List ℕ × Except String HttpResponse)) : Prop :=
  ∃ ds reply, ps.getLast? = some (ds, reply) ∧ Lists ds R

theorem notExcluded_none (K : Finset ℕ) : notExcluded none K = K := by
  simp [notExcluded]

theorem loop_delivers (hh : Honest env sub R trusts (fun _ => True) usable stale genuine) (hne : R.Nonempty)
    {start left : ℕ} {w : World ω} (hs : Sessions C trusts usable stale w.pddb sub.recipient_uuid K S)
    (hD : notExcluded sub.excluded_device_id K = R) (hfresh : ∀ d ∈ R, d ∉ S) :
    LogsFrom start env (submitLoop sub start (left + 1)) w (fun v u ps gs => v = .ok true ∧
      Sessions C trusts usable stale u.pddb sub.recipient_uuid K S ∧ gs = [] ∧
        ∃ ds b, Lists ds R ∧ ps = [(ds, .ok ⟨200, b⟩)]) := by
  apply submitLoop_step
  intro w₀ hw₀
  apply (round_accepted hh (hw₀ ▸ hs) hD hne hfresh _).mono
  rintro v u es ⟨rfl, hu, hget, hput⟩
  exact ⟨rfl, hu, hget, hput⟩

theorem loop_repairs (hh : Honest env sub R trusts (fun _ => True) usable stale genuine) (hne : R.Nonempty)
    {start left : ℕ} {w : World ω} (hs : Sessions C trusts usable stale w.pddb sub.recipient_uuid K S)
    {D : Finset ℕ} (hD : notExcluded sub.excluded_device_id K = D) (hDne : D.Nonempty) (hDR : D ≠ R)
    (hfresh : ∀ d ∈ D ∩ R, d ∉ S)
    (hK : notExcluded sub.excluded_device_id (K \ (D \ R) ∪ (R \ D)) = R) :
    LogsFrom start env (submitLoop sub start (left + 2)) w (fun v u ps gs => v = .ok true ∧
      Sessions C trusts usable stale u.pddb sub.recipient_uuid (K \ (D \ R) ∪ (R \ D))
        ((S \ (D \ R)) \ (R \ D)) ∧
      gs.length = (R \ D).card ∧ (∃ base, sub.account.chat_base_url C = .ok base ∧
        ∀ url ∈ gs, ∃ d : ℕ, url = keysUrlAt C base sub.recipient_uuid (toString d)) ∧
        ∃ ds ds' b b', Lists ds' R ∧ ps = [(ds, .ok ⟨409, b⟩), (ds', .ok ⟨200, b'⟩)]) := by
  apply submitLoop_step
  intro w₀ hw₀
  apply (round_mismatch hh (hw₀ ▸ hs) hD hDne hDR _).mono
  rintro v u es ⟨rfl, hu, ⟨base, missing, hbase, hnodup, hmissing, hgets⟩, ds, b, -, hputs⟩
  have hfresh' : ∀ d ∈ R, d ∉ (S \ (D \ R)) \ (R \ D) := by
    intro d hd hmem
    simp only [Finset.mem_sdiff, not_and, not_not] at hmem
    exact hfresh d (Finset.mem_inter.mpr ⟨hmem.2 hd, hd⟩) hmem.1.1
  refine LogsFrom.mono (loop_delivers hh hne hu hK hfresh') ?_
  rintro v t ps gs ⟨rfl, ht, hgets', ds', b', hlists', hputs'⟩
  refine ⟨rfl, ht, ?_, ⟨base, hbase, ?_⟩, ds, ds', b, b', hlists', ?_⟩
  · rw [hgets, hgets', List.append_nil, List.length_map, ← hmissing, List.toFinset_card_of_nodup hnodup]
  · intro url hurl
    rw [hgets, hgets', List.append_nil, List.mem_map] at hurl
    obtain ⟨d, -, rfl⟩ := hurl
    exact ⟨d, rfl⟩
  · rw [hputs, hputs', List.singleton_append]

theorem repaired_eq (K R : Finset ℕ) : K \ (K \ R) ∪ (R \ K) = R := by
  ext x
  simp only [Finset.mem_union, Finset.mem_sdiff]
  tauto

theorem recipient_send_logs (hh : Honest env sub R trusts (fun _ => True) usable (fun _ => False) genuine)
    (hex : sub.excluded_device_id = none) (hR : R.Nonempty) (hK : K.Nonempty) {w : World ω}
    (hs : Sessions C trusts usable (fun _ => False) w.pddb sub.recipient_uuid K ∅) :
    LogsTimely env (submit_padded_with_retry_generic sub) w (fun v u ps gs => v = .ok true ∧
      ps.length ≤ 2 ∧ gs.length = (R \ K).card ∧ LastPut R ps ∧
        Sessions C trusts usable (fun _ => False) u.pddb sub.recipient_uuid R ∅) := by
  apply submit_padded_step
  intro w₀ hw₀ start
  rw [← hw₀] at hs
  by_cases hKR : K = R
  · subst hKR
    have hD : notExcluded sub.excluded_device_id K = K := by rw [hex, notExcluded_none]
    refine LogsFrom.mono (loop_delivers hh hR hs hD (by simp)) ?_
    rintro v u ps gs ⟨hv, hu, hgs, ds, b, hlists, hps⟩
    rw [hps, hgs]
    exact ⟨hv, by simp, by simp, ⟨ds, _, rfl, hlists⟩, hu⟩
  · have hD : notExcluded sub.excluded_device_id K = K := by rw [hex, notExcluded_none]
    have hrepaired : notExcluded sub.excluded_device_id (K \ (K \ R) ∪ (R \ K)) = R := by
      rw [hex, notExcluded_none, repaired_eq]
    refine LogsFrom.mono (loop_repairs hh hR hs hD hK hKR (by simp) hrepaired) ?_
    rintro v u ps gs ⟨hv, hu, hgs, -, ds, ds', b, b', hlists, hps⟩
    rw [repaired_eq, Finset.empty_sdiff, Finset.empty_sdiff] at hu
    rw [hps]
    exact ⟨hv, Nat.le_refl 2, hgs, ⟨ds', _, rfl, hlists⟩, hu⟩

/-- 409 convergence: with no session stale, any non-empty set of usable sessions ends in exactly the
registered devices, after at most one repair. -/
theorem recipient_send_converges {w : World ω}
    (hh : Honest env sub R trusts timely usable (fun _ => False) genuine)
    (hex : sub.excluded_device_id = none) (hR : R.Nonempty) (hK : K.Nonempty)
    (hs : Sessions C trusts usable (fun _ => False) w.pddb sub.recipient_uuid K ∅)
    (hclock : InTime timely ((submit_padded_with_retry_generic sub).exec env.handler w).events) :
    let o := (submit_padded_with_retry_generic sub).exec env.handler w
    o.value = .ok true ∧ (putLog o.events).length ≤ 2 ∧ (getLog o.events).length = (R \ K).card ∧
      LastPut R (putLog o.events) ∧
      Sessions C trusts usable (fun _ => False) o.state.pddb sub.recipient_uuid R ∅ :=
  (recipient_send_logs hh.ageless hex hR hK hs).in_time hclock

namespace Reference

def alice : String := "9d0652a3-dcc3-4d11-975f-74d61598733f"

def bob : String := "0a1b2c3d-4e5f-6071-8293-a4b5c6d7e8f9"

def account : AccountInfo := ⟨alice, 2, "open sesame", "signal.org"⟩

def toBob : Submission where
  padded_content := build_padded_data_message_content "hello" 1700000000000
  timestamp_ms := 1700000000000
  recipient_uuid := bob
  fallback_device_id := 1
  excluded_device_id := none
  local_addr := ⟨alice, ⟨2, DeviceId.two_valid⟩⟩
  account := account

def bobServer (outdated : UInt8 → Bool) : Server := ⟨account, bob, none, {1, 2}, outdated⟩

def phone : DeviceId := ⟨1, DeviceId.one_valid⟩

def laptop : DeviceId := ⟨2, DeviceId.two_valid⟩

def tablet : DeviceId := ⟨3, by decide⟩

theorem honest_toBob (outdated : UInt8 → Bool) (hcurrent : outdated 1 = false) :
    Honest (bobServer outdated).env toBob {1, 2} (Trusting bob) (fun _ => True) Known (bobServer outdated).stale
      Genuine := by
  refine honest rfl rfl rfl (by decide) ?_ hcurrent
  intro d hd
  have hd' : d ∈ ({1, 2} : Finset ℕ) := hd
  rw [Finset.mem_insert, Finset.mem_singleton] at hd'
  omega

theorem never_stale {uuid : String} {own : Option ℕ} {registered : Finset ℕ} :
    (⟨account, uuid, own, registered, fun _ => false⟩ : Server).stale = fun _ => False := by
  funext r
  simp [Server.stale]

end Reference

section

open Reference

theorem recipient_send_converges_example :
    let o := (submit_padded_with_retry_generic toBob).exec (bobServer fun _ => false).env.handler
      ⟨stock bob [(phone, (1, 0)), (tablet, (1, 0))], ()⟩
    o.value = .ok true ∧ (putLog o.events).length ≤ 2 ∧ (getLog o.events).length = 1 ∧
      LastPut {1, 2} (putLog o.events) := by
  intro o
  have hh := honest_toBob (fun _ => false) rfl
  have hstale : (bobServer fun _ => false).stale = fun _ => False := never_stale
  rw [hstale] at hh
  have hs := sessions_stock_fresh bob [(phone, (1, 0)), (tablet, (1, 0))] (by decide)
  obtain ⟨hv, hputs, hgets, hlast, -⟩ := recipient_send_converges
    (w := ⟨stock bob [(phone, (1, 0)), (tablet, (1, 0))], ()⟩) hh rfl (by decide) (by decide) hs
    (inTime _ _ _)
  exact ⟨hv, hputs, hgets.trans (by decide), hlast⟩

-- With another key stored for the phone, nothing is encrypted for it.
example : ((submit_padded_with_retry_generic toBob).exec (bobServer fun _ => false).env.handler
    ⟨saved ⟨bob, phone⟩ (5 :: List.replicate 32 9) (stock bob [(phone, (1, 0))]), ()⟩).value =
      .error (.Encryption (.Encrypt "UntrustedIdentity")) := by decide +kernel

end

def Recovered (R : Finset ℕ) (o : Outcome (sendSignature C) (World ω) (Except SendError Bool)) : Prop :=
  o.value = .ok true ∧ (putLog o.events).length ≤ MAX_ATTEMPTS ∧ LastPut R (putLog o.events)

theorem no_session_error (hh : Honest env sub R trusts (fun _ => True) usable stale genuine)
    (hex : sub.excluded_device_id = none) {start left : ℕ} {w : World ω}
    (hs : Sessions C trusts usable stale w.pddb sub.recipient_uuid ∅ S) :
    LogsFrom start env (submitLoop sub start (left + 1)) w (fun v _ _ _ =>
      v = .error (.Encryption .NoSession)) := by
  apply submitLoop_step
  intro w₀ hw₀
  apply (round_no_session (hw₀ ▸ hs) hh.fallback hex _).mono
  rintro v u es ⟨rfl, -⟩
  rfl

theorem stale_recovers (hh : Honest env sub R trusts (fun _ => True) usable stale genuine)
    (hex : sub.excluded_device_id = none) {w : World ω}
    (hs : Sessions C trusts usable stale w.pddb sub.recipient_uuid R S) (hS : S.Nonempty)
    (hfresh : ∃ d ∈ R, d ∉ S) :
    LogsTimely env (submit_padded_with_retry_generic sub) w (fun v _ ps _ => v = .ok true ∧
      ps.length ≤ MAX_ATTEMPTS ∧ LastPut R ps) := by
  obtain ⟨d, hdR, hdS⟩ := hfresh
  have hinter : R ∩ S = S := Finset.inter_eq_right.mpr hs.stale_sub
  have hall : ∀ X, notExcluded sub.excluded_device_id X = X := fun X => by rw [hex, notExcluded_none]
  apply submit_padded_step
  intro w₀ hw₀ start
  apply submitLoop_step
  intro w₁ hw₁
  apply (round_stale hh (hw₁ ▸ hw₀ ▸ hs) (hall R) (hinter.symm ▸ hS) _).mono
  rintro v u es ⟨rfl, hu, hgs, ds, b, -, hps⟩
  rw [hinter, Finset.sdiff_self] at hu
  have hne : (R \ S).Nonempty := ⟨d, Finset.mem_sdiff.mpr ⟨hdR, hdS⟩⟩
  have hdiff : R \ S ≠ R := by
    obtain ⟨x, hx⟩ := hS
    intro heq
    have hxR : x ∈ R \ S := heq.symm ▸ hs.stale_sub hx
    exact (Finset.mem_sdiff.mp hxR).2 hx
  refine LogsFrom.mono (loop_repairs hh ⟨d, hdR⟩ hu (hall _) hne hdiff (by simp)
    ((hall _).trans (repaired_eq _ _))) ?_
  rintro v t ps gs ⟨hv, -, -, -, ds₁, ds₂, b₁, b₂, hlists, hps'⟩
  rw [hps, hps']
  exact ⟨hv, Nat.le_refl 3, ds₂, _, rfl, hlists⟩

theorem all_stale_fails (hh : Honest env sub R trusts (fun _ => True) usable stale genuine)
    (hex : sub.excluded_device_id = none) {w : World ω}
    (hs : Sessions C trusts usable stale w.pddb sub.recipient_uuid K S) (hKR : K = ∅ ∨ K = R ∧ S.Nonempty)
    (hstale : ∀ d ∈ K, d ∈ S) :
    LogsTimely env (submit_padded_with_retry_generic sub) w (fun v _ _ _ =>
      v = .error (.Encryption .NoSession)) := by
  apply submit_padded_step
  intro w₀ hw₀ start
  rw [← hw₀] at hs
  rcases hKR with rfl | ⟨rfl, hS⟩
  · exact no_session_error hh hex hs
  · have hSK : S = K := Finset.Subset.antisymm hs.stale_sub hstale
    subst hSK
    apply submitLoop_step
    intro w₁ hw₁
    apply (round_stale hh (hw₁ ▸ hs) (by rw [hex, notExcluded_none]) (by simpa using hS) _).mono
    rintro v u es ⟨rfl, hu, -⟩
    rw [Finset.inter_self, Finset.sdiff_self] at hu
    exact no_session_error hh hex hu

/-- Losing sessions inside one send: from no session at all, or from exactly the registered devices
with some sessions stale, the send recovers exactly when some session is left to send over. -/
theorem lost_sessions_recovered_iff (hh : Honest env sub R trusts timely usable stale genuine)
    (hex : sub.excluded_device_id = none) {w : World ω}
    (hs : Sessions C trusts usable stale w.pddb sub.recipient_uuid K S) (hKR : K = ∅ ∨ K = R ∧ S.Nonempty)
    (hclock : InTime timely ((submit_padded_with_retry_generic sub).exec env.handler w).events) :
    Recovered R ((submit_padded_with_retry_generic sub).exec env.handler w) ↔ ∃ d ∈ K, d ∉ S := by
  constructor
  · rintro ⟨hv, -⟩
    by_contra hall
    have hstale : ∀ d ∈ K, d ∈ S := by
      intro d hd
      by_contra hd'
      exact hall ⟨d, hd, hd'⟩
    have hfail := (all_stale_fails hh.ageless hex hs hKR hstale).in_time hclock
    rw [hfail] at hv
    cases hv
  · rintro ⟨d, hdK, hdS⟩
    rcases hKR with rfl | ⟨rfl, hS⟩
    · exact absurd hdK (Finset.notMem_empty d)
    · exact (stale_recovers hh.ageless hex hs hS ⟨d, hdK, hdS⟩).in_time hclock

section

open Reference

/-- The registration id 0 dates from before a reinstall: the laptop's session is stale. -/
theorem stale_laptop_recovered :
    Recovered {1, 2} ((submit_padded_with_retry_generic toBob).exec (bobServer (· = 0)).env.handler
      ⟨stock bob [(phone, (1, 0)), (laptop, (0, 0))], ()⟩) := by
  have hs := sessions_stock (bobServer (· = 0)).stale bob [(phone, (1, 0)), (laptop, (0, 0))] (by decide)
  refine (lost_sessions_recovered_iff (w := ⟨stock bob [(phone, (1, 0)), (laptop, (0, 0))], ()⟩)
    (honest_toBob (· = 0) (by decide)) rfl hs ?_ (inTime _ _ _)).mpr ⟨1, by decide, by decide⟩
  exact .inr ⟨by decide, 2, by decide⟩

/-- A fresh recipient whose server behaves: the fallback device has no session, and the send fails. -/
theorem fresh_recipient_not_recovered :
    Honest (bobServer (· = 0)).env toBob {1, 2} (Trusting bob) (fun _ => True) Known (bobServer (· = 0)).stale
        Genuine ∧
      Sessions crates (Trusting bob) Known (bobServer (· = 0)).stale (stock bob []) bob ∅ ∅ ∧
      toBob.fallback_device_id ∈ ({1, 2} : Finset ℕ) ∧
      (let o := (submit_padded_with_retry_generic toBob).exec (bobServer (· = 0)).env.handler ⟨stock bob [], ()⟩
      InTime (fun _ => True) o.events ∧ ¬Recovered {1, 2} o) := by
  have hh := honest_toBob (· = 0) (by decide)
  have hs := sessions_stock (bobServer (· = 0)).stale bob [] (by decide)
  have hclock := inTime (bobServer (· = 0)) (submit_padded_with_retry_generic toBob) ⟨stock bob [], ()⟩
  refine ⟨hh, hs, by decide, hclock, ?_⟩
  rintro ⟨hv, -⟩
  have hfail := all_stale_fails (w := ⟨stock bob [], ()⟩) hh rfl hs (.inl rfl) (by simp) hclock.budget
  rw [hfail] at hv
  cases hv

end

end XousSignalClient
