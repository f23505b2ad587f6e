import XousSignalClient.MainWs.Keepalive
import XousSignalClient.MainWs.Transcript

namespace XousSignalClient

open Encoding Interaction Fallible

namespace MainWs

/-- What a session shows: the frames it reads, the envelopes it dispatches, the responses it sends. -/
inductive Visible where
  | frame (m : WsMessage)
  | dispatched (body : Bytes)
  | response (r : WsResponseProto)

def SessionCall.visible : (c : SessionCall) → c.Reply → Option Visible
  | .read, .ok m => some (.frame m)
  | .dispatch_envelope body _, _ => some (.dispatched body)
  | .send m, _ => (responseIn m).map .response
  | _, _ => none

def SessionCall.frame : (c : SessionCall) → c.Reply → Option WsMessage
  | .read, .ok m => some m
  | _, _ => none

def SessionCall.response : SessionCall → Option WsResponseProto
  | .send m => responseIn m
  | _ => none

def envelopeIn (req : WsRequestProto) : Option Bytes :=
  if req.verb = some "PUT" ∧ req.path = some "/api/v1/message" then req.body else none

def responseTo (m : WsMessage) : Option WsResponseProto :=
  (requestIn m).map (fun req => ackOf (req.id.getD 0) 200)

def answered (req : WsRequestProto) : List Visible :=
  ((envelopeIn req).map Visible.dispatched).toList ++ [.response (ackOf (req.id.getD 0) 200)]

def served (m : WsMessage) : List Visible := .frame m :: ((requestIn m).map answered).getD []

section Traces

variable {σ : Type} {es es' : List (SessionEvent σ)} {e : SessionEvent σ}

def visible (es : List (SessionEvent σ)) : List Visible := es.filterMap (fun e => SessionCall.visible e.call e.reply)

def frames (es : List (SessionEvent σ)) : List WsMessage := es.filterMap (fun e => SessionCall.frame e.call e.reply)

def responses (es : List (SessionEvent σ)) : List WsResponseProto :=
  es.filterMap (fun e => SessionCall.response e.call)

@[simp] theorem visible_append : visible (es ++ es') = visible es ++ visible es' := List.filterMap_append

@[simp] theorem frames_append : frames (es ++ es') = frames es ++ frames es' := List.filterMap_append

def Visible.response? : Visible → Option WsResponseProto
  | .response r => some r
  | _ => none

theorem responses_eq_visible (es : List (SessionEvent σ)) :
    responses es = (visible es).filterMap Visible.response? := by
  rw [responses, visible, List.filterMap_filterMap]
  apply List.filterMap_congr
  rintro ⟨before, call, reply⟩ -
  cases call with
  | send m => cases h : responseIn m <;> simp [SessionCall.response, SessionCall.visible, h, Visible.response?]
  | read => cases reply <;> rfl
  | _ => rfl

theorem filterMap_served (m : WsMessage) : (served m).filterMap Visible.response? = (responseTo m).toList := by
  unfold served responseTo
  cases requestIn m with
  | none => rfl
  | some req =>
    cases h : envelopeIn req <;> simp only [answered, h, Option.map_some, Option.getD_some] <;> rfl

theorem filterMap_flatMap_served (ms : List WsMessage) :
    (ms.flatMap served).filterMap Visible.response? = ms.filterMap responseTo := by
  induction ms with
  | nil => rfl
  | cons m ms ih =>
    rw [List.flatMap_cons, List.filterMap_append, filterMap_served, ih]
    cases h : responseTo m <;> simp [h]

end Traces

section Turn

variable {σ : Type} {h : Handler sessionSignature σ} {t : σ}

theorem ensures_send_ack (id : UInt64) : Ensures h (send_ack id 200) t (fun _ _ es =>
    visible es = [.response (ackOf id 200)] ∧ frames es = []) := by
  apply ensures_call_bind
  refine ⟨?_, rfl⟩
  exact List.filterMap_cons_some (congrArg (Option.map Visible.response) (responseIn_ack id))

theorem ensures_dispatch_request (body : Option Bytes) (local_addr : ProtocolAddress) :
    Ensures h (dispatch body local_addr) t (fun _ _ es =>
      visible es = (body.map Visible.dispatched).toList ∧ frames es = []) := by
  cases body with
  | none => exact ⟨rfl, rfl⟩
  | some body =>
    apply ensures_call_bind
    exact ensures_ofExcept ⟨rfl, rfl⟩

theorem getD_eq_iff {v : Option String} {text : String} (htext : text ≠ "") : v.getD "" = text ↔ v = some text := by
  cases v with
  | none => simp [htext.symm]
  | some s => simp

theorem ensures_handle_request (req : WsRequestProto) (local_addr : ProtocolAddress) :
    Ensures h (handle_request req local_addr) t (fun v _ es =>
      (∀ u, v = .ok u → visible es = answered req) ∧ frames es = []) := by
  have hput : req.verb.getD "" = "PUT" ↔ req.verb = some "PUT" := getD_eq_iff (by decide)
  have hpath : req.path.getD "" = "/api/v1/message" ↔ req.path = some "/api/v1/message" := getD_eq_iff (by decide)
  have hother : envelopeIn req = none → Ensures h (send_ack (req.id.getD 0) 200) t (fun v _ es =>
      (∀ u, v = .ok u → visible es = answered req) ∧ frames es = []) := by
    intro hnone
    refine (ensures_send_ack _).mono ?_
    rintro v t' es ⟨hvisible, hframes⟩
    exact ⟨fun _ _ => by rw [hvisible, answered, hnone]; rfl, hframes⟩
  unfold handle_request
  dsimp only
  by_cases hmessage : req.verb.getD "" = "PUT" ∧ req.path.getD "" = "/api/v1/message"
  · rw [if_pos hmessage]
    have henvelope : envelopeIn req = req.body := if_pos ⟨hput.mp hmessage.1, hpath.mp hmessage.2⟩
    apply ensures_bind (ensures_dispatch_request req.body local_addr)
    · exact fun e t' es hes => ⟨nofun, hes.2⟩
    · rintro u t' es ⟨hvisible, hframes⟩
      refine (ensures_send_ack _).mono ?_
      rintro v t'' es' ⟨hvisible', hframes'⟩
      refine ⟨fun _ _ => ?_, by rw [frames_append, hframes, hframes']; rfl⟩
      rw [visible_append, hvisible, hvisible', answered, henvelope]
  · rw [if_neg hmessage, ite_self]
    apply hother
    exact if_neg (fun h => hmessage ⟨hput.mpr h.1, hpath.mpr h.2⟩)

theorem ensures_handleFrame (raw : Bytes) (local_addr : ProtocolAddress) :
    Ensures h (handleFrame raw local_addr) t (fun v _ es =>
      (∀ u, v = .ok u → visible es = ((requestIn (.Binary raw)).map answered).getD []) ∧ frames es = []) := by
  have hrequest : requestIn (.Binary raw) = (WsMessageProto.decode raw).bind
    (fun m => if m.type = some WS_TYPE_REQUEST then m.request else none) := rfl
  rw [hrequest, handleFrame]
  cases WsMessageProto.decode raw with
  | none => exact ⟨fun _ _ => rfl, rfl⟩
  | some ws_msg =>
    simp only [Option.bind_some]
    split_ifs
    · cases ws_msg.request with
      | none => exact ⟨fun _ _ => rfl, rfl⟩
      | some req => exact ensures_handle_request req local_addr
    · exact ⟨fun _ _ => rfl, rfl⟩

theorem ensures_serve (local_addr : ProtocolAddress) (s : Session) (frame : Except SocketError WsMessage) :
    Ensures h (serveRead local_addr s frame) t (fun v _ es =>
      (∀ r, v = .ok r → visible es = (((Except.toOption frame).bind requestIn).map answered).getD []) ∧
        frames es = []) := by
  cases frame with
  | error e =>
    simp only [serveRead]
    split_ifs
    · exact ⟨fun _ _ => rfl, rfl⟩
    · exact ⟨fun _ _ => rfl, rfl⟩
  | ok m =>
    cases m with
    | Binary raw =>
      apply ensures_bind (ensures_handleFrame raw local_addr)
      · intro e t es hes
        refine ⟨?_, hes.2⟩
        intro r hr
        cases hr
      · rintro u t' es ⟨hvisible, hframes⟩
        change (∀ r, _ → visible (es ++ []) = _) ∧ frames (es ++ []) = []
        rw [List.append_nil]
        exact ⟨fun _ _ => hvisible u rfl, hframes⟩
    | _ => exact ⟨fun _ _ => rfl, rfl⟩

def Served (es : List (SessionEvent σ)) : Prop := visible es = (frames es).flatMap served

theorem Served.append {es es' : List (SessionEvent σ)} (hes : Served es) (hes' : Served es') :
    Served (es ++ es') := by
  rw [Served, visible_append, frames_append, List.flatMap_append, hes, hes']

theorem served_nil : Served ([] : List (SessionEvent σ)) := rfl

theorem served_read (frame : Except SocketError WsMessage) {es : List (SessionEvent σ)}
    (hvisible : visible es = (((Except.toOption frame).bind requestIn).map answered).getD [])
    (hframes : frames es = []) :
    Served (⟨t, .read, frame⟩ :: es) := by
  unfold Served
  cases frame with
  | error e =>
    have hread : frames (⟨t, .read, .error e⟩ :: es) = frames es := List.filterMap_cons_none rfl
    rw [hread, hframes]
    exact (List.filterMap_cons_none rfl).trans hvisible
  | ok m =>
    have hread : frames (⟨t, .read, .ok m⟩ :: es) = m :: frames es := List.filterMap_cons_some rfl
    have hshown : visible (⟨t, .read, .ok m⟩ :: es) = .frame m :: visible es := List.filterMap_cons_some rfl
    rw [hread, hshown, hframes, hvisible, List.flatMap_cons, List.flatMap_nil, List.append_nil, served]
    rfl

theorem ensures_readFrame_served (local_addr : ProtocolAddress) (s : Session) :
    Ensures h (readFrame local_addr s) t (fun v _ es => ∀ r, v = .ok r → Served es) := by
  apply ensures_call_bind
  refine (ensures_serve local_addr s _).mono ?_
  rintro v t' es ⟨hvisible, hframes⟩ r hr
  exact served_read _ (hvisible r hr) hframes

def Hidden (es : List (SessionEvent σ)) : Prop := visible es = [] ∧ frames es = []

theorem ensures_sendPing_hidden (s : Session) : Ensures h (sendPing s) t (fun _ _ es => Hidden es) := by
  apply ensures_call_bind
  split_ifs
  · apply ensures_call_bind
    cases (h.answer (.send (.Ping [])) (h.answer .elapsed_ms t).2).1 with
    | error e => exact ⟨rfl, rfl⟩
    | ok u =>
      apply ensures_call_bind
      exact ⟨rfl, rfl⟩
  · exact ⟨rfl, rfl⟩

theorem ensures_sendKeepalive_hidden (s : Session) : Ensures h (sendKeepalive s) t (fun _ _ es => Hidden es) := by
  have hsend : ∀ r,
      SessionCall.visible (.send (.Binary (keepaliveMessage s.next_request_id).encode_to_vec)) r = none :=
    fun _ => congrArg (Option.map Visible.response) (responseIn_keepalive s.next_request_id)
  apply ensures_call_bind
  split_ifs
  · apply ensures_call_bind
    cases (h.answer (.send (.Binary (keepaliveMessage s.next_request_id).encode_to_vec))
      (h.answer .elapsed_ms t).2).1 with
    | error e => exact ⟨(List.filterMap_cons_none rfl).trans (List.filterMap_cons_none (hsend _)), rfl⟩
    | ok u =>
      apply ensures_call_bind
      exact ⟨(List.filterMap_cons_none rfl).trans (List.filterMap_cons_none (hsend _)), rfl⟩
  · exact ⟨rfl, rfl⟩

theorem Hidden.served {es : List (SessionEvent σ)} (hes : Hidden es) : Served es := by
  rw [Served, hes.1, hes.2, List.flatMap_nil]

theorem ensures_sessionTurn_served (local_addr : ProtocolAddress) (s : Session) :
    Ensures h (sessionTurn local_addr s) t (fun v _ es => ∀ r, v = .ok r → Served es) := by
  apply ensures_bind (ensures_sendPing_hidden s)
  · exact fun e t es hes => nofun
  rintro r t' es hes
  cases r with
  | none => exact fun _ _ => hes.served.append served_nil
  | some s' =>
    apply ensures_bind (ensures_sendKeepalive_hidden s')
    · exact fun e t es hes => nofun
    rintro r' t'' es' hes'
    cases r' with
    | none => exact fun _ _ => hes.served.append (hes'.served.append served_nil)
    | some s'' =>
      refine (ensures_readFrame_served local_addr s'').mono ?_
      exact fun v t es'' hes'' r hr => hes.served.append (hes'.served.append (hes'' r hr))

theorem ensures_sessionLoop_served (local_addr : ProtocolAddress) (n : ℕ) (s : Session) (t : σ) :
    Ensures h (sessionLoop local_addr n s) t (fun v _ es => ∀ r, v = .ok r → Served es) := by
  induction n generalizing s t with
  | zero => exact fun _ _ => served_nil
  | succ n ih =>
    apply ensures_bind (ensures_sessionTurn_served local_addr s)
    · exact fun e t es hes => nofun
    rintro r t' es hes
    cases r with
    | none => exact fun _ _ => (hes none rfl).append served_nil
    | some s' =>
      refine (ih s' t').mono ?_
      exact fun v t es' hes' r hr => (hes (some s') rfl).append (hes' r hr)

theorem ensures_run_session_served (local_addr : ProtocolAddress) (n : ℕ) (t : σ) :
    Ensures h (run_session local_addr n) t (fun v _ es => ∀ r, v = .ok r → Served es) := by
  apply ensures_call_bind
  apply ensures_call_bind
  cases (h.answer .ticktimer_new (h.answer (.set_read_timeout READ_TIMEOUT_MS) t).2).1 with
  | error e =>
    apply ensures_call_bind
    exact fun _ _ => rfl
  | ok u =>
    apply ensures_call_bind
    apply ensures_call_bind
    have hopening : ∀ {es : List (SessionEvent σ)} {a b c d : SessionEvent σ}, Hidden [a, b, c, d] → Served es →
        Served (a :: b :: c :: d :: es) := fun hhidden hes => hhidden.served.append hes
    apply ensures_bind (ensures_sessionLoop_served local_addr n _ _)
    · exact fun e t es hes => nofun
    rintro r t' es hes
    cases r with
    | none =>
      apply ensures_call_bind
      exact fun _ _ => hopening ⟨rfl, rfl⟩ ((hes none rfl).append rfl)
    | some s => exact fun _ _ => hopening ⟨rfl, rfl⟩ ((hes (some s) rfl).append served_nil)

end Turn

variable {L : InboundCrates} {ν : Type}

/-- A session that delivers without panicking answers every request it reads with one response, after it has
dispatched the request's envelope, and answers nothing else. -/
theorem one_response_per_request (env : InboundEnv L) (net : Network ν) (local_addr : ProtocolAddress) (n : ℕ)
    (s : App × ν) {last : Option Session}
    (hok : ((run_session local_addr n).exec (env.session net) s).value = .ok last) :
    responses (sessionTrace (env.session net) local_addr n s) =
        (frames (sessionTrace (env.session net) local_addr n s)).filterMap responseTo ∧
      visible (sessionTrace (env.session net) local_addr n s) =
        (frames (sessionTrace (env.session net) local_addr n s)).flatMap served := by
  have hserved : Served (sessionTrace (env.session net) local_addr n s) :=
    ensures_run_session_served (h := env.session net) local_addr n s last hok
  refine ⟨?_, hserved⟩
  rw [responses_eq_visible, hserved, filterMap_flatMap_served]

def scripted : Network (List WsMessage) where
  set_read_timeout _ ms := (.ok (), ms)
  ticktimer_new ms := (.ok (), ms)
  elapsed_ms ms := (60000, ms)
  send _ ms := (.ok (), ms)
  read
    | [] => (.error (.Io .TimedOut), [])
    | m :: ms => (.ok m, ms)
  close ms := ms

def queueEmpty : WsMessageProto :=
  ⟨some WS_TYPE_REQUEST, some ⟨some "PUT", some "/api/v1/queue/empty", none, some 7, []⟩, none⟩

def forgedRequest : WsMessageProto :=
  ⟨some WS_TYPE_REQUEST, some ⟨some "PUT", some "/api/v1/message", some forgedEnvelope, none, []⟩, none⟩

def morning : App × List WsMessage :=
  (started, [.Text "hello", .Binary queueEmpty.encode_to_vec, .Binary forgedRequest.encode_to_vec])

theorem one_response_per_request_morning :
    responses (sessionTrace (plainEnv.session scripted) aliceAddress 4 morning) =
        (frames (sessionTrace (plainEnv.session scripted) aliceAddress 4 morning)).filterMap responseTo ∧
      visible (sessionTrace (plainEnv.session scripted) aliceAddress 4 morning) =
        (frames (sessionTrace (plainEnv.session scripted) aliceAddress 4 morning)).flatMap served := by
  have hok : ((run_session aliceAddress 4).exec (plainEnv.session scripted) morning).value =
      .ok (some ⟨60000, 2, 60000⟩) := by decide +kernel
  exact one_response_per_request plainEnv scripted aliceAddress 4 morning hok

end MainWs

end XousSignalClient
