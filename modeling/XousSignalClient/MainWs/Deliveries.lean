import XousSignalClient.MainWs.Reconnect

namespace XousSignalClient

open Encoding Interaction Fallible

namespace MainWs

def envelopes (ms : List WsMessage) : List Bytes := ms.filterMap (fun m => (requestIn m).bind envelopeIn)

def SessionCall.dispatched : SessionCall → Option (Bytes × ProtocolAddress)
  | .dispatch_envelope body local_addr => some (body, local_addr)
  | _ => none

section Dispatched

variable {σ : Type} {es es' : List (SessionEvent σ)} {h : Handler sessionSignature σ} {t : σ}

def dispatches (es : List (SessionEvent σ)) : List (Bytes × ProtocolAddress) :=
  es.filterMap (fun e => SessionCall.dispatched e.call)

@[simp] theorem dispatches_append : dispatches (es ++ es') = dispatches es ++ dispatches es' := List.filterMap_append

def Dispatched (local_addr : ProtocolAddress) (es : List (SessionEvent σ)) : Prop :=
  dispatches es = (envelopes (frames es)).map (fun body => (body, local_addr))

def Dispatching (local_addr : ProtocolAddress) (bodies : List Bytes) (es : List (SessionEvent σ)) : Prop :=
  dispatches es = bodies.map (fun body => (body, local_addr)) ∧ frames es = []

variable {local_addr : ProtocolAddress}

theorem Dispatched.append (hes : Dispatched local_addr es) (hes' : Dispatched local_addr es') :
    Dispatched local_addr (es ++ es') := by
  rw [Dispatched, dispatches_append, frames_append, hes, hes', envelopes, envelopes, envelopes, List.filterMap_append,
    List.map_append]

theorem dispatched_nil : Dispatched local_addr ([] : List (SessionEvent σ)) := rfl

theorem Dispatching.append {bodies : List Bytes} (hes : Dispatching local_addr bodies es)
    (hes' : Dispatching local_addr [] es') : Dispatching local_addr bodies (es ++ es') := by
  refine ⟨?_, ?_⟩
  · rw [dispatches_append, hes.1, hes'.1, List.map_nil, List.append_nil]
  · rw [frames_append, hes.2, hes'.2, List.append_nil]

theorem Dispatching.dispatched (hes : Dispatching local_addr [] es) : Dispatched local_addr es := by
  rw [Dispatched, hes.1, hes.2]
  rfl

theorem ensures_send_ack_quiet (local_addr : ProtocolAddress) (id : UInt64) :
    Ensures h (send_ack id 200) t (fun _ _ es => Dispatching local_addr [] es) := by
  apply ensures_call_bind
  exact ⟨rfl, rfl⟩

theorem ensures_dispatch_dispatching (body : Option Bytes) (local_addr : ProtocolAddress) :
    Ensures h (dispatch body local_addr) t (fun _ _ es => Dispatching local_addr body.toList es) := by
  cases body with
  | none => exact ⟨rfl, rfl⟩
  | some body =>
    apply ensures_call_bind
    exact ensures_ofExcept ⟨rfl, rfl⟩

theorem ensures_handle_request_dispatching (req : WsRequestProto) (local_addr : ProtocolAddress) :
    Ensures h (handle_request req local_addr) t
      (fun _ _ es => Dispatching local_addr (envelopeIn req).toList es) := by
  have hput : req.verb.getD "" = "PUT" ↔ req.verb = some "PUT" := getD_eq_iff (by decide)
  have hpath : req.path.getD "" = "/api/v1/message" ↔ req.path = some "/api/v1/message" := getD_eq_iff (by decide)
  unfold handle_request
  dsimp only
  by_cases hmessage : req.verb.getD "" = "PUT" ∧ req.path.getD "" = "/api/v1/message"
  · have henvelope : envelopeIn req = req.body := if_pos ⟨hput.mp hmessage.1, hpath.mp hmessage.2⟩
    rw [if_pos hmessage, henvelope]
    apply ensures_bind (ensures_dispatch_dispatching req.body local_addr)
    · exact fun e t es hes => hes
    · intro u t es hes
      refine (ensures_send_ack_quiet local_addr _).mono ?_
      exact fun v t es' hes' => hes.append hes'
  · have henvelope : envelopeIn req = none := if_neg (fun h => hmessage ⟨hput.mpr h.1, hpath.mpr h.2⟩)
    rw [if_neg hmessage, ite_self, henvelope]
    exact ensures_send_ack_quiet local_addr _

theorem ensures_serveRead_dispatching (local_addr : ProtocolAddress) (s : Session)
    (frame : Except SocketError WsMessage) :
    Ensures h (serveRead local_addr s frame) t (fun _ _ es =>
      Dispatching local_addr (((Except.toOption frame).bind requestIn).bind envelopeIn).toList es) := by
  cases frame with
  | error e =>
    simp only [serveRead]
    split_ifs
    · exact ⟨rfl, rfl⟩
    · exact ⟨rfl, rfl⟩
  | ok m =>
    cases m with
    | Binary raw =>
      have hhandled : Ensures h (handleFrame raw local_addr) t (fun _ _ es =>
          Dispatching local_addr ((requestIn (.Binary raw)).bind envelopeIn).toList es) := by
        rw [handleFrame, requestIn]
        cases WsMessageProto.decode raw with
        | none => exact ⟨rfl, rfl⟩
        | some ws_msg =>
          simp only [Option.bind_some]
          split_ifs
          · cases ws_msg.request with
            | none => exact ⟨rfl, rfl⟩
            | some req => exact ensures_handle_request_dispatching req local_addr
          · exact ⟨rfl, rfl⟩
      apply ensures_bind hhandled
      · exact fun e t es hes => hes
      · intro u t es hes
        exact hes.append ⟨rfl, rfl⟩
    | _ => exact ⟨rfl, rfl⟩

theorem ensures_readFrame_dispatched (local_addr : ProtocolAddress) (s : Session) :
    Ensures h (readFrame local_addr s) t (fun _ _ es => Dispatched local_addr es) := by
  apply ensures_call_bind
  generalize (h.answer .read t).1 = frame
  refine (ensures_serveRead_dispatching local_addr s frame).mono ?_
  rintro v t' es ⟨hdispatches, hframes⟩
  cases frame with
  | error e => exact Dispatching.dispatched ⟨hdispatches, hframes⟩
  | ok m =>
    have hread : frames (⟨t, .read, .ok m⟩ :: es) = m :: frames es := List.filterMap_cons_some rfl
    rw [Dispatched, hread, hframes]
    refine hdispatches.trans ?_
    change _ = List.map _ ([m].filterMap _)
    cases henvelope : (requestIn m).bind envelopeIn with
    | none => simp [Except.toOption, henvelope]
    | some body => simp [Except.toOption, henvelope]

end Dispatched

section Rule

variable {σ : Type} {h : Handler sessionSignature σ} {t : σ} {P : List (SessionEvent σ) → Prop}
  {local_addr : ProtocolAddress}

def SessionCall.Quiet : SessionCall → Prop
  | .read => False
  | .dispatch_envelope _ _ => False
  | _ => True

structure Neutral (P : List (SessionEvent σ) → Prop) : Prop where
  nil : P []
  append : ∀ es es', P es → P es' → P (es ++ es')
  quiet : ∀ e, SessionCall.Quiet e.call → P [e]

theorem Neutral.cons (hP : Neutral P) {e : SessionEvent σ} {es : List (SessionEvent σ)}
    (he : SessionCall.Quiet e.call) (hes : P es) : P (e :: es) :=
  hP.append [e] es (hP.quiet e he) hes

theorem Neutral.sendPing (hP : Neutral P) (s : Session) : Ensures h (sendPing s) t (fun _ _ es => P es) := by
  apply ensures_call_bind
  split_ifs
  · apply ensures_call_bind
    cases (h.answer (.send (.Ping [])) (h.answer .elapsed_ms t).2).1 with
    | error e => exact hP.cons trivial (hP.quiet _ trivial)
    | ok u =>
      apply ensures_call_bind
      exact hP.cons trivial (hP.cons trivial (hP.quiet _ trivial))
  · exact hP.quiet _ trivial

theorem Neutral.sendKeepalive (hP : Neutral P) (s : Session) :
    Ensures h (sendKeepalive s) t (fun _ _ es => P es) := by
  apply ensures_call_bind
  split_ifs
  · apply ensures_call_bind
    cases (h.answer (.send (.Binary (keepaliveMessage s.next_request_id).encode_to_vec))
      (h.answer .elapsed_ms t).2).1 with
    | error e => exact hP.cons trivial (hP.quiet _ trivial)
    | ok u =>
      apply ensures_call_bind
      exact hP.cons trivial (hP.cons trivial (hP.quiet _ trivial))
  · exact hP.quiet _ trivial

variable (hread : ∀ s t, Ensures h (readFrame local_addr s) t (fun _ _ es => P es))
include hread

theorem Neutral.sessionTurn (hP : Neutral P) (s : Session) :
    Ensures h (sessionTurn local_addr s) t (fun _ _ es => P es) := by
  apply ensures_bind (hP.sendPing s)
  · exact fun e t es hes => hes
  rintro r t es hes
  cases r with
  | none => exact hP.append _ _ hes hP.nil
  | some s' =>
    apply ensures_bind (hP.sendKeepalive s')
    · exact fun e t es' hes' => hP.append _ _ hes hes'
    rintro r t es' hes'
    cases r with
    | none => exact hP.append _ _ hes (hP.append _ _ hes' hP.nil)
    | some s'' =>
      refine (hread s'' t).mono ?_
      exact fun v t es'' hes'' => hP.append _ _ hes (hP.append _ _ hes' hes'')

theorem Neutral.sessionLoop (hP : Neutral P) (n : ℕ) (s : Session) (t : σ) :
    Ensures h (sessionLoop local_addr n s) t (fun _ _ es => P es) := by
  induction n generalizing s t with
  | zero => exact hP.nil
  | succ n ih =>
    apply ensures_bind (hP.sessionTurn hread s)
    · exact fun e t es hes => hes
    rintro r t es hes
    cases r with
    | none => exact hP.append _ _ hes hP.nil
    | some s' => exact (ih s' t).mono (fun v t es' hes' => hP.append _ _ hes hes')

theorem Neutral.run_session (hP : Neutral P) (n : ℕ) (t : σ) :
    Ensures h (run_session local_addr n) t (fun _ _ es => P es) := by
  apply ensures_call_bind
  apply ensures_call_bind
  cases (h.answer .ticktimer_new (h.answer (.set_read_timeout READ_TIMEOUT_MS) t).2).1 with
  | error e =>
    apply ensures_call_bind
    exact hP.cons trivial (hP.cons trivial (hP.quiet _ trivial))
  | ok u =>
    apply ensures_call_bind
    apply ensures_call_bind
    have hopening : ∀ {es : List (SessionEvent σ)} {a b c d : SessionEvent σ}, P [a, b, c, d] → P es →
        P (a :: b :: c :: d :: es) := fun hquiet hes => hP.append _ _ hquiet hes
    have hfour := fun {a b c d : SessionEvent σ} (ha : SessionCall.Quiet a.call) (hb : SessionCall.Quiet b.call)
      (hc : SessionCall.Quiet c.call) (hd : SessionCall.Quiet d.call) =>
      hP.cons ha (hP.cons hb (hP.cons hc (hP.quiet d hd)))
    apply ensures_bind (hP.sessionLoop hread n _ _)
    · exact fun e t es hes => hopening (hfour trivial trivial trivial trivial) hes
    rintro r t es hes
    cases r with
    | none =>
      apply ensures_call_bind
      exact hopening (hfour trivial trivial trivial trivial) (hP.append _ _ hes (hP.quiet _ trivial))
    | some s => exact hopening (hfour trivial trivial trivial trivial) (hP.append _ _ hes hP.nil)

end Rule

theorem neutral_dispatched {σ : Type} (local_addr : ProtocolAddress) :
    Neutral (Dispatched local_addr : List (SessionEvent σ) → Prop) where
  nil := dispatched_nil
  append _ _ := Dispatched.append
  quiet := by
    rintro ⟨before, call, reply⟩ hquiet
    cases call with
    | read => cases hquiet
    | dispatch_envelope body addr => cases hquiet
    | _ => rfl

section Worker

variable {σ α : Type} {h : Handler receiveSignature σ} {s : σ} {local_addr : ProtocolAddress}

def Delivered (local_addr : ProtocolAddress) (v : Except Panic α) (es : List (SessionEvent σ)) : Prop :=
  Dispatched local_addr es ∧ ∀ a, v = .ok a → Served es

theorem Delivered.append {β : Type} {a : α} {v : Except Panic β} {es es' : List (SessionEvent σ)}
    (hes : Delivered local_addr (.ok a : Except Panic α) es) (hes' : Delivered local_addr v es') :
    Delivered local_addr v (es ++ es') :=
  ⟨hes.1.append hes'.1, fun b hb => (hes.2 a rfl).append (hes'.2 b hb)⟩

theorem delivered_nil {v : Except Panic α} : Delivered local_addr v ([] : List (SessionEvent σ)) :=
  ⟨dispatched_nil, fun _ _ => served_nil⟩

theorem ensures_run_session_delivered (h : Handler sessionSignature σ) (local_addr : ProtocolAddress) (n : ℕ) (t : σ) :
    Ensures h (run_session local_addr n) t (fun v _ es => Delivered local_addr v es) :=
  Ensures.and
    (Neutral.run_session (fun _ _ => ensures_readFrame_dispatched local_addr _) (neutral_dispatched local_addr) n t)
    (ensures_run_session_served local_addr n t)

theorem ensures_afterAttempt_outside (backoff_ms : ℕ) :
    Ensures h (afterAttempt backoff_ms) s (fun _ _ es => sessionEvents es = []) := by
  apply ensures_call_bind
  cases (h.answer .ticktimer_new s).1 with
  | error e => exact ensures_pure rfl
  | ok u =>
    apply ensures_call_bind
    exact ensures_pure rfl

theorem ensures_reconnectTurn_delivered (c : Credentials) (local_addr : ProtocolAddress) (bound backoff_ms : ℕ) :
    Ensures h (reconnectTurn c local_addr bound backoff_ms) s
      (fun v _ es => Delivered local_addr v (sessionEvents es)) := by
  apply ensures_call_bind
  cases (h.answer (.new_message c.host c.aci_service_id c.device_id c.password) s).1 with
  | error e =>
    refine (ensures_afterAttempt_outside backoff_ms).mono ?_
    intro v t es hes
    change Delivered local_addr v (sessionEvents es)
    rw [hes]
    exact delivered_nil
  | ok u =>
    apply ensures_bind (ensures_inSession (ensures_run_session_delivered (sessionHandler h) local_addr bound _))
    · rintro e t es ⟨es', rfl, hes'⟩
      change Delivered local_addr (.error e : Except Panic Whereabouts) (sessionEvents (es'.map liftEvent))
      rw [sessionEvents_lift]
      exact ⟨hes'.1, fun a ha => by cases ha⟩
    · rintro last t es ⟨es', rfl, hes'⟩
      cases last with
      | none =>
        refine (ensures_afterAttempt_outside _).mono ?_
        intro v t es hes
        change Delivered local_addr v (sessionEvents (es'.map liftEvent ++ es))
        rw [sessionEvents_append, sessionEvents_lift, hes]
        exact hes'.append delivered_nil
      | some s' =>
        refine ensures_pure ?_
        change Delivered local_addr _ (sessionEvents (es'.map liftEvent ++ []))
        rw [sessionEvents_append, sessionEvents_lift]
        exact hes'.append delivered_nil

theorem ensures_reconnectLoop_delivered (c : Credentials) (local_addr : ProtocolAddress) (bounds : List ℕ)
    (backoff_ms : ℕ) (s : σ) :
    Ensures h (reconnectLoop c local_addr bounds backoff_ms) s
      (fun v _ es => Delivered local_addr v (sessionEvents es)) := by
  induction bounds generalizing backoff_ms s with
  | nil => exact ensures_pure delivered_nil
  | cons bound bounds ih =>
    apply ensures_bind (ensures_reconnectTurn_delivered c local_addr bound backoff_ms)
    · rintro e t es ⟨hes, -⟩
      exact ⟨hes, fun a ha => by cases ha⟩
    · intro w t es hes
      have hstopped : Ensures h (pure w : ReceiveM Whereabouts) t
          (fun v _ es' => Delivered local_addr v (sessionEvents (es ++ es'))) := by
        refine ensures_pure ?_
        rw [List.append_nil]
        exact hes
      cases w with
      | reconnecting backoff_ms =>
        refine (ih backoff_ms t).mono ?_
        intro v t' es' hes'
        rw [sessionEvents_append]
        exact hes.append hes'
      | inSession s' => exact hstopped
      | returned => exact hstopped

end Worker

section Refinement

variable {L : InboundCrates} {ν : Type}

structure Line (ν : Type) extends Network ν where
  new_message : String → String → ℕ → String → ν → Except String Unit × ν
  timer : ν → Except String Unit × ν
  sleep_ms : ℕ → ν → Except String Unit × ν

def InboundEnv.receive (env : InboundEnv L) (line : Line ν) : Handler receiveSignature (App × ν) where
  answer
    | .new_message host aci_service_id device_id password, s =>
      onNetwork (line.new_message host aci_service_id device_id password) s
    | .session c, s => (env.session line.toNetwork).answer c s
    | .ticktimer_new, s => onNetwork line.timer s
    | .sleep_ms ms, s => onNetwork (line.sleep_ms ms) s

/-- The receive path alone: the application's stores and dialogues after it was handed one envelope. -/
def InboundEnv.deliver (env : InboundEnv L) (s : App) (d : Bytes × ProtocolAddress) : App :=
  ((dispatch_envelope d.1 d.2 : DispatchM L Unit).exec env.handler s).state

def Credentials.local_addr (c : Credentials) : Option ProtocolAddress :=
  (DeviceId.new c.device_id).map (fun local_device => ⟨c.aci_service_id, local_device⟩)

def InboundEnv.deliverAll (env : InboundEnv L) (c : Credentials) (bodies : List Bytes) (s : App) : App :=
  (c.local_addr.toList.flatMap (fun local_addr => bodies.map (fun body => (body, local_addr)))).foldl env.deliver s

def dispatchIn {σ : Type} (e : ReceiveEvent σ) : Option (Bytes × ProtocolAddress) :=
  (sessionEvent e).bind (fun e => SessionCall.dispatched e.call)

theorem filterMap_dispatchIn {σ : Type} (es : List (ReceiveEvent σ)) :
    es.filterMap dispatchIn = dispatches (sessionEvents es) := by
  rw [dispatches, sessionEvents, List.filterMap_filterMap]
  rfl

theorem worker_loop_delivered (env : InboundEnv L) (line : Line ν) (c : Credentials) (bounds : List ℕ)
    (s : App × ν) :
    let o := (worker_loop c bounds).exec (env.receive line) s
    o.state.1 = env.deliverAll c (envelopes (frames (sessionEvents o.events))) s.1 ∧
      ∀ w, o.value = .ok w → Served (sessionEvents o.events) := by
  intro o
  have hdelivered : ∀ local_addr, c.local_addr = some local_addr →
      Delivered local_addr o.value (sessionEvents o.events) := by
    intro local_addr hlocal
    obtain ⟨local_device, hdevice, rfl⟩ := Option.map_eq_some_iff.mp hlocal
    unfold o worker_loop
    split_ifs with hrange
    · exact delivered_nil
    · rw [hdevice]
      exact ensures_reconnectLoop_delivered (h := env.receive line) c _ bounds _ s
  have hstate : o.state.1 = (dispatches (sessionEvents o.events)).foldl env.deliver s.1 := by
    rw [← filterMap_dispatchIn]
    apply Program.state_foldl (h := env.receive line) Prod.fst env.deliver dispatchIn
    intro call s
    cases call with
    | session call => cases call <;> rfl
    | _ => rfl
  cases hlocal : c.local_addr with
  | none =>
    have hevents : o.events = [] ∧ o.state = s := by
      unfold o worker_loop
      split_ifs
      · exact ⟨rfl, rfl⟩
      · rw [Option.map_eq_none_iff.mp hlocal]
        exact ⟨rfl, rfl⟩
    rw [hevents.1, hevents.2]
    exact ⟨by rw [InboundEnv.deliverAll, hlocal]; rfl, fun _ _ => rfl⟩
  | some local_addr =>
    obtain ⟨hdispatched, hserved⟩ := hdelivered local_addr hlocal
    refine ⟨?_, hserved⟩
    rw [hstate, hdispatched, InboundEnv.deliverAll, hlocal, Option.toList_some, List.flatMap_singleton]

/-- Over its whole life, through any reconnects, pauses, keepalives and failures, the worker does to the phone
what the receive path alone does with the envelopes read, each once and in order; and as long as it has not
panicked it has answered every request once. -/
theorem receive_worker_delivers (env : InboundEnv L) (line : Line ν) (c : Credentials) (bounds : List ℕ)
    (s : App × ν) :
    let o := (worker_loop c bounds).exec (env.receive line) s
    o.state.1 = env.deliverAll c (envelopes (frames (sessionEvents o.events))) s.1 ∧
      ∀ w, o.value = .ok w →
        responses (sessionEvents o.events) = (frames (sessionEvents o.events)).filterMap responseTo := by
  intro o
  obtain ⟨hstate, hserved⟩ := worker_loop_delivered env line c bounds s
  refine ⟨hstate, ?_⟩
  intro w hw
  rw [responses_eq_visible, hserved w hw, filterMap_flatMap_served]

end Refinement

end MainWs

end XousSignalClient
