import XousSignalClient.Interaction.Embedding
import XousSignalClient.MainWs.Acknowledge

namespace XousSignalClient

open Encoding Interaction Fallible

namespace MainWs

def RECONNECT_BACKOFF_INITIAL_MS : ℕ := 2000
def RECONNECT_BACKOFF_MAX_MS : ℕ := 64000

inductive ReceiveCall where
  | new_message (host aci_service_id : String) (device_id : ℕ) (password : String)
  | session (c : SessionCall)
  | ticktimer_new
  | sleep_ms (ms : ℕ)

def ReceiveCall.Reply : ReceiveCall → Type
  | .new_message _ _ _ _ => Except String Unit
  | .session c => c.Reply
  | .ticktimer_new => Except String Unit
  | .sleep_ms _ => Except String Unit

def receiveSignature : Signature := ⟨ReceiveCall, ReceiveCall.Reply⟩

abbrev ReceiveM (α : Type) := Fallible receiveSignature Panic α

def ReceiveCall.ask (c : ReceiveCall) : ReceiveM c.Reply := Fallible.call (S := receiveSignature) c

def ofSession (c : SessionCall) : Program receiveSignature c.Reply :=
  Program.perform (S := receiveSignature) (.session c)

def inSession {α : Type} (x : SessionM α) : ReceiveM α := ExceptT.mk (x.run.interp ofSession)

inductive Whereabouts where
  | returned
  | inSession (s : Session)
  | reconnecting (backoff_ms : ℕ)
  deriving DecidableEq

structure Credentials where
  aci_service_id : String
  device_id : ℕ
  password : String
  host : String
  deriving DecidableEq

def pause (backoff_ms : ℕ) : ReceiveM Unit := do
  let timer : Except String Unit ← ReceiveCall.ticktimer_new.ask
  match timer with
  | .error _ => pure ()
  | .ok () =>
    let _slept : Except String Unit ← (ReceiveCall.sleep_ms backoff_ms).ask
    pure ()

def afterAttempt (backoff_ms : ℕ) : ReceiveM Whereabouts := do
  pause backoff_ms
  pure (.reconnecting (min (backoff_ms * 2) RECONNECT_BACKOFF_MAX_MS))

/-- One turn of the loop; its session is cut after `bound` iterations. -/
def reconnectTurn (c : Credentials) (local_addr : ProtocolAddress) (bound backoff_ms : ℕ) : ReceiveM Whereabouts := do
  let ws : Except String Unit ← (ReceiveCall.new_message c.host c.aci_service_id c.device_id c.password).ask
  match ws with
  | .ok () =>
    match ← inSession (run_session local_addr bound) with
    | none => afterAttempt RECONNECT_BACKOFF_INITIAL_MS
    | some s => pure (.inSession s)
  | .error _ => afterAttempt backoff_ms

def reconnectLoop (c : Credentials) (local_addr : ProtocolAddress) : (bounds : List ℕ) → ℕ → ReceiveM Whereabouts
  | [], backoff_ms => pure (.reconnecting backoff_ms)
  | bound :: bounds, backoff_ms => do
    match ← reconnectTurn c local_addr bound backoff_ms with
    | .reconnecting backoff_ms => reconnectLoop c local_addr bounds backoff_ms
    | w => pure w

/-- The worker for as many attempts as there are bounds, each the bound of that attempt's session. -/
def worker_loop (c : Credentials) (bounds : List ℕ) : ReceiveM Whereabouts :=
  if c.device_id = 0 ∨ 127 < c.device_id then pure .returned
  else
    match DeviceId.new c.device_id with
    | none => pure .returned
    | some local_device => reconnectLoop c ⟨c.aci_service_id, local_device⟩ bounds RECONNECT_BACKOFF_INITIAL_MS

section Traces

variable {σ : Type}

abbrev ReceiveEvent (σ : Type) := Event receiveSignature σ

def ReceiveCall.established : (c : ReceiveCall) → c.Reply → Option Bool
  | .new_message _ _ _ _, .ok () => some true
  | .new_message _ _ _ _, .error _ => some false
  | _, _ => none

def ReceiveCall.paused : (c : ReceiveCall) → c.Reply → Option (Option ℕ)
  | .ticktimer_new, .error _ => some none
  | .sleep_ms ms, _ => some (some ms)
  | _, _ => none

def sessionEvent : ReceiveEvent σ → Option (SessionEvent σ)
  | ⟨s, .session c, r⟩ => some ⟨s, c, r⟩
  | _ => none

def liftEvent (e : SessionEvent σ) : ReceiveEvent σ := ⟨e.before, .session e.call, e.reply⟩

def attempts (es : List (ReceiveEvent σ)) : List Bool :=
  es.filterMap (fun e => ReceiveCall.established e.call e.reply)

def pauses (es : List (ReceiveEvent σ)) : List (Option ℕ) := es.filterMap (fun e => ReceiveCall.paused e.call e.reply)

def sessionEvents (es : List (ReceiveEvent σ)) : List (SessionEvent σ) := es.filterMap sessionEvent

variable {es es' : List (ReceiveEvent σ)}

@[simp] theorem attempts_append : attempts (es ++ es') = attempts es ++ attempts es' := List.filterMap_append

@[simp] theorem pauses_append : pauses (es ++ es') = pauses es ++ pauses es' := List.filterMap_append

@[simp] theorem sessionEvents_append : sessionEvents (es ++ es') = sessionEvents es ++ sessionEvents es' :=
  List.filterMap_append

theorem filterMap_eq_nil_of_none {α β : Type} {f : α → Option β} (l : List α) (hf : ∀ a, f a = none) :
    l.filterMap f = [] :=
  List.filterMap_eq_nil_iff.mpr (fun a _ => hf a)

@[simp] theorem attempts_lift (es : List (SessionEvent σ)) : attempts (es.map liftEvent) = [] := by
  rw [attempts, List.filterMap_map]
  exact filterMap_eq_nil_of_none es (fun _ => rfl)

@[simp] theorem pauses_lift (es : List (SessionEvent σ)) : pauses (es.map liftEvent) = [] := by
  rw [pauses, List.filterMap_map]
  exact filterMap_eq_nil_of_none es (fun _ => rfl)

@[simp] theorem sessionEvents_lift (es : List (SessionEvent σ)) : sessionEvents (es.map liftEvent) = es := by
  rw [sessionEvents, List.filterMap_map]
  exact List.filterMap_some

end Traces

section Sessions

variable {σ α : Type} {h : Handler receiveSignature σ}

def sessionHandler (h : Handler receiveSignature σ) : Handler sessionSignature σ := ⟨fun c s => h.answer (.session c) s⟩

theorem ensures_inSession {x : SessionM α} {s : σ} {Q : Except Panic α → σ → List (SessionEvent σ) → Prop}
    (hx : Ensures (sessionHandler h) x s Q) :
    Ensures h (inSession x) s (fun v t es => ∃ es', es = es'.map liftEvent ∧ Q v t es') := by
  have hanswer : ∀ c t, (ofSession c).run h t = ⟨((sessionHandler h).answer c t).1, ((sessionHandler h).answer c t).2,
      [liftEvent ⟨t, c, ((sessionHandler h).answer c t).1⟩]⟩ := fun _ _ => rfl
  have hrun := Program.run_interp_events hanswer x.run s
  unfold Ensures inSession Fallible.exec
  change ∃ es', ((x.run.interp ofSession).run h s).events = es'.map liftEvent ∧
    Q ((x.run.interp ofSession).run h s).value ((x.run.interp ofSession).run h s).state es'
  rw [hrun]
  exact ⟨_, rfl, hx⟩

end Sessions

section Schedule

def sinceEstablished (outcomes : List Bool) : ℕ :=
  if true ∈ outcomes then (outcomes.reverse.takeWhile (fun established => !established)).length
  else outcomes.length - 1

def pauseAfter (outcomes : List Bool) : ℕ :=
  min (RECONNECT_BACKOFF_INITIAL_MS * 2 ^ sinceEstablished outcomes) RECONNECT_BACKOFF_MAX_MS

def backoffAfter (outcomes : List Bool) : ℕ :=
  if outcomes = [] then RECONNECT_BACKOFF_INITIAL_MS else min (pauseAfter outcomes * 2) RECONNECT_BACKOFF_MAX_MS

theorem pauseAfter_established (past : List Bool) : pauseAfter (past ++ [true]) = RECONNECT_BACKOFF_INITIAL_MS := by
  have hsince : sinceEstablished (past ++ [true]) = 0 := by simp [sinceEstablished]
  rw [pauseAfter, hsince]
  rfl

theorem sinceEstablished_failed {past : List Bool} (hpast : past ≠ []) :
    sinceEstablished (past ++ [false]) = sinceEstablished past + 1 := by
  have hpos : 0 < past.length := List.length_pos_iff.mpr hpast
  unfold sinceEstablished
  by_cases hmem : true ∈ past
  · rw [if_pos hmem, if_pos (List.mem_append_left _ hmem)]
    simp
  · rw [if_neg hmem, if_neg (by simpa using hmem), List.length_append]
    simp only [List.length_cons, List.length_nil]
    omega

theorem pauseAfter_failed (past : List Bool) : pauseAfter (past ++ [false]) = backoffAfter past := by
  unfold backoffAfter
  split_ifs with hpast
  · subst hpast
    rfl
  · have hdouble : 2 ^ (sinceEstablished past + 1) = 2 ^ sinceEstablished past * 2 := pow_succ 2 _
    rw [pauseAfter, sinceEstablished_failed hpast, hdouble, pauseAfter, RECONNECT_BACKOFF_INITIAL_MS,
      RECONNECT_BACKOFF_MAX_MS]
    omega

theorem backoffAfter_concat (past : List Bool) (established : Bool) :
    backoffAfter (past ++ [established]) = min (pauseAfter (past ++ [established]) * 2) RECONNECT_BACKOFF_MAX_MS :=
  if_neg (List.concat_ne_nil established past)

structure Paced (past outcomes : List Bool) (paused : List (Option ℕ)) : Prop where
  lengths : paused.length = outcomes.length ∨ paused.length + 1 = outcomes.length
  called_for : ∀ k ms, paused[k]? = some (some ms) → ms = pauseAfter (past ++ outcomes.take (k + 1))

theorem paced_nil (past : List Bool) : Paced past [] [] := by
  refine ⟨.inl rfl, ?_⟩
  intro k ms hk
  cases hk

theorem paced_last (past : List Bool) (established : Bool) : Paced past [established] [] := by
  refine ⟨.inr rfl, ?_⟩
  intro k ms hk
  cases hk

theorem Paced.cons {past outcomes : List Bool} {established : Bool} {paused : List (Option ℕ)} {first : Option ℕ}
    (hfirst : ∀ ms, first = some ms → ms = pauseAfter (past ++ [established]))
    (h : Paced (past ++ [established]) outcomes paused) : Paced past (established :: outcomes) (first :: paused) := by
  refine ⟨?_, ?_⟩
  · have hlengths := h.lengths
    simp only [List.length_cons]
    omega
  · intro k ms hk
    cases k with
    | zero => exact hfirst ms (Option.some.inj hk)
    | succ k =>
      rw [List.getElem?_cons_succ] at hk
      rw [List.take_succ_cons, List.append_cons]
      exact h.called_for k ms hk

variable {σ : Type} {h : Handler receiveSignature σ} {s : σ}

theorem ensures_pause (backoff_ms : ℕ) :
    Ensures h (pause backoff_ms) s (fun v _ es => v = .ok () ∧ attempts es = [] ∧
      ∃ first, pauses es = [first] ∧ ∀ ms, first = some ms → ms = backoff_ms) := by
  apply ensures_call_bind
  cases hreply : (h.answer .ticktimer_new s).1 with
  | error e =>
    refine ⟨rfl, rfl, none, rfl, ?_⟩
    intro ms hms
    cases hms
  | ok u =>
    apply ensures_call_bind
    refine ⟨rfl, rfl, some backoff_ms, rfl, ?_⟩
    rintro ms ⟨⟩
    rfl

def Turned (past : List Bool) (established : Bool) (w : Whereabouts) (paused : List (Option ℕ)) : Prop :=
  (∃ s, w = .inSession s ∧ paused = []) ∨
    (w = .reconnecting (backoffAfter (past ++ [established])) ∧
      ∃ first, paused = [first] ∧ ∀ ms, first = some ms → ms = pauseAfter (past ++ [established]))

theorem ensures_afterAttempt {past : List Bool} {established : Bool} {backoff_ms : ℕ}
    (hbackoff : backoff_ms = pauseAfter (past ++ [established])) :
    Ensures h (afterAttempt backoff_ms) s (fun v _ es => attempts es = [] ∧
      ∃ w, v = .ok w ∧ Turned past established w (pauses es)) := by
  apply ensures_bind (ensures_pause backoff_ms)
  · rintro e t es ⟨hv, -⟩
    cases hv
  · rintro u t es ⟨-, hattempts, first, hpauses, hfirst⟩
    refine ensures_pure ?_
    rw [List.append_nil]
    refine ⟨hattempts, _, rfl, .inr ⟨?_, first, hpauses, ?_⟩⟩
    · rw [backoffAfter_concat, hbackoff]
    · intro ms hms
      rw [hfirst ms hms, hbackoff]

theorem ensures_reconnectTurn (c : Credentials) (local_addr : ProtocolAddress) (bound : ℕ) (past : List Bool) :
    Ensures h (reconnectTurn c local_addr bound (backoffAfter past)) s (fun v _ es =>
      ∃ established, attempts es = [established] ∧
        ((∃ e, v = .error e ∧ pauses es = []) ∨ ∃ w, v = .ok w ∧ Turned past established w (pauses es))) := by
  apply ensures_call_bind
  cases hreply : (h.answer (.new_message c.host c.aci_service_id c.device_id c.password) s).1 with
  | error e =>
    refine (ensures_afterAttempt (pauseAfter_failed past).symm).mono ?_
    rintro v t es ⟨hattempts, w, hw, hturned⟩
    exact ⟨false, congrArg (false :: ·) hattempts, .inr ⟨w, hw, hturned⟩⟩
  | ok u =>
    have hsession : Ensures h (inSession (run_session local_addr bound))
        (h.answer (.new_message c.host c.aci_service_id c.device_id c.password) s).2
        (fun _ _ es => ∃ es' : List (SessionEvent σ), es = es'.map liftEvent ∧ True) := ensures_inSession trivial
    apply ensures_bind hsession
    · rintro e t es ⟨es', rfl, -⟩
      refine ⟨true, congrArg (true :: ·) (attempts_lift es'), .inl ⟨e, rfl, pauses_lift es'⟩⟩
    · rintro last t es ⟨es', rfl, -⟩
      cases last with
      | none =>
        refine (ensures_afterAttempt (pauseAfter_established past).symm).mono ?_
        rintro v t es ⟨hattempts, w, hw, hturned⟩
        refine ⟨true, congrArg (true :: ·) ?_, .inr ⟨w, hw, ?_⟩⟩
        · change attempts (es'.map liftEvent ++ es) = []
          rw [attempts_append, attempts_lift, hattempts, List.nil_append]
        · change Turned past true w (pauses (es'.map liftEvent ++ es))
          rw [pauses_append, pauses_lift, List.nil_append]
          exact hturned
      | some s' =>
        refine ensures_pure ?_
        rw [List.append_nil]
        exact ⟨true, congrArg (true :: ·) (attempts_lift es'), .inr ⟨.inSession s', rfl, .inl ⟨s', rfl, pauses_lift es'⟩⟩⟩

theorem ensures_reconnectLoop (c : Credentials) (local_addr : ProtocolAddress) (bounds : List ℕ) (past : List Bool)
    (s : σ) :
    Ensures h (reconnectLoop c local_addr bounds (backoffAfter past)) s
      (fun _ _ es => Paced past (attempts es) (pauses es)) := by
  induction bounds generalizing past s with
  | nil => exact ensures_pure (paced_nil past)
  | cons bound bounds ih =>
    apply ensures_bind (ensures_reconnectTurn c local_addr bound past)
    · rintro e t es ⟨established, hattempts, hturn⟩
      obtain ⟨-, -, hpauses⟩ | ⟨w, hw, -⟩ := hturn
      · rw [hattempts, hpauses]
        exact paced_last past established
      · cases hw
    · rintro w t es ⟨established, hattempts, hturn⟩
      obtain ⟨e, he, -⟩ | ⟨w', hw, hturned⟩ := hturn
      · cases he
      · obtain rfl := Except.ok.inj hw
        obtain ⟨s', rfl, hpauses⟩ | ⟨rfl, first, hpauses, hfirst⟩ := hturned
        · refine ensures_pure ?_
          rw [List.append_nil, hattempts, hpauses]
          exact paced_last past established
        · refine (ih (past ++ [established]) t).mono ?_
          intro v t' es' hpaced
          rw [attempts_append, pauses_append, hattempts, hpauses]
          exact hpaced.cons hfirst

def ReceiveCall.UsesAccount (c : Credentials) : ReceiveCall → Prop
  | .new_message host aci_service_id device_id password =>
    host = c.host ∧ aci_service_id = c.aci_service_id ∧ device_id = c.device_id ∧ password = c.password
  | _ => True

section Account

variable {c : Credentials}

theorem only_pause (backoff_ms : ℕ) : (pause backoff_ms).run.Only (ReceiveCall.UsesAccount c) := by
  apply only_bind (only_call (S := receiveSignature) .ticktimer_new trivial)
  intro timer
  cases timer with
  | error e => exact .ret _
  | ok u => exact only_bind (only_call (S := receiveSignature) (.sleep_ms backoff_ms) trivial) (fun _ => .ret _)

theorem only_inSession {α : Type} (x : SessionM α) : (inSession x).run.Only (ReceiveCall.UsesAccount c) :=
  Program.only_interp (fun call => Program.Only.perform (S := receiveSignature) (.session call) trivial) x.run

theorem only_reconnectTurn (local_addr : ProtocolAddress) (bound backoff_ms : ℕ) :
    (reconnectTurn c local_addr bound backoff_ms).run.Only (ReceiveCall.UsesAccount c) := by
  have hafter : ∀ ms, (afterAttempt ms).run.Only (ReceiveCall.UsesAccount c) :=
    fun ms => only_bind (only_pause ms) (fun _ => .ret _)
  apply only_bind (only_call (S := receiveSignature) (.new_message c.host c.aci_service_id c.device_id c.password)
    ⟨rfl, rfl, rfl, rfl⟩)
  intro ws
  cases ws with
  | error e => exact hafter _
  | ok u =>
    apply only_bind (only_inSession _)
    intro last
    cases last with
    | none => exact hafter _
    | some s => exact .ret _

theorem only_reconnectLoop (local_addr : ProtocolAddress) (bounds : List ℕ) (backoff_ms : ℕ) :
    (reconnectLoop c local_addr bounds backoff_ms).run.Only (ReceiveCall.UsesAccount c) := by
  induction bounds generalizing backoff_ms with
  | nil => exact .ret _
  | cons bound bounds ih =>
    apply only_bind (only_reconnectTurn local_addr bound backoff_ms)
    intro w
    cases w with
    | reconnecting next => exact ih next
    | _ => exact .ret _

theorem only_worker_loop (bounds : List ℕ) : (worker_loop c bounds).run.Only (ReceiveCall.UsesAccount c) := by
  unfold worker_loop
  split_ifs
  · exact .ret _
  · cases DeviceId.new c.device_id with
    | none => exact .ret _
    | some local_device => exact only_reconnectLoop _ bounds _

end Account

/-- Whatever the network does, the worker connects as the account and pauses after every attempt that is over: two
seconds after one that was established, and after one that failed twice what the attempt before called for, up to 64
seconds. -/
theorem reconnect_schedule (h : Handler receiveSignature σ) (c : Credentials) (bounds : List ℕ) (s : σ) :
    let es := ((worker_loop c bounds).exec h s).events
    (∀ e ∈ es, ReceiveCall.UsesAccount c e.call) ∧ Paced [] (attempts es) (pauses es) ∧
      ∀ ms, some ms ∈ pauses es → RECONNECT_BACKOFF_INITIAL_MS ≤ ms ∧ ms ≤ RECONNECT_BACKOFF_MAX_MS := by
  intro es
  have hpaced : Paced [] (attempts es) (pauses es) := by
    unfold es worker_loop
    split_ifs
    · exact paced_nil []
    · cases DeviceId.new c.device_id with
      | none => exact paced_nil []
      | some local_device => exact ensures_reconnectLoop c _ bounds [] s
  refine ⟨(only_worker_loop bounds).events h s, hpaced, ?_⟩
  intro ms hms
  obtain ⟨k, hk⟩ := List.mem_iff_getElem?.mp hms
  have hpos : 0 < 2 ^ sinceEstablished ([] ++ (attempts es).take (k + 1)) := Nat.two_pow_pos _
  rw [hpaced.called_for k ms hk, pauseAfter, RECONNECT_BACKOFF_INITIAL_MS, RECONNECT_BACKOFF_MAX_MS]
  omega

end Schedule

end MainWs

end XousSignalClient
