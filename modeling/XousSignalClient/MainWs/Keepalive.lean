import XousSignalClient.Interaction.Ensures
import XousSignalClient.MainWs.Session

namespace XousSignalClient

open Encoding Interaction Fallible

namespace MainWs

def SessionCall.keepaliveId : SessionCall → Option UInt64
  | .send m => (requestIn m).bind
      (fun req => if req.verb = some "GET" ∧ req.path = some APP_KEEPALIVE_PATH then req.id else none)
  | _ => none

def SessionCall.reading : (c : SessionCall) → c.Reply → Option UInt64
  | .elapsed_ms, t => some t
  | _, _ => none

def SessionCall.isRead : SessionCall → Bool
  | .read => true
  | _ => false

abbrev SessionEvent (σ : Type) := Event sessionSignature σ

section Traces

variable {σ : Type}

def keepaliveIds (es : List (SessionEvent σ)) : List UInt64 := es.filterMap (fun e => SessionCall.keepaliveId e.call)

def readings (es : List (SessionEvent σ)) : List UInt64 :=
  es.filterMap (fun e => SessionCall.reading e.call e.reply)

def HasRead (es : List (SessionEvent σ)) : Prop := ∃ e ∈ es, SessionCall.isRead e.call

def beforeRead (es : List (SessionEvent σ)) : List (SessionEvent σ) :=
  es.takeWhile (fun e => !SessionCall.isRead e.call)

def Consecutive (first : ℕ) (ids : List UInt64) : Prop := ids.map UInt64.toNat = List.range' first ids.length

variable {es es' : List (SessionEvent σ)} {e : SessionEvent σ}

@[simp] theorem keepaliveIds_append : keepaliveIds (es ++ es') = keepaliveIds es ++ keepaliveIds es' :=
  List.filterMap_append

@[simp] theorem readings_append : readings (es ++ es') = readings es ++ readings es' := List.filterMap_append

@[simp] theorem hasRead_append : HasRead (es ++ es') ↔ HasRead es ∨ HasRead es' := by
  simp only [HasRead, List.mem_append, or_and_right, exists_or]

theorem not_hasRead_nil : ¬HasRead ([] : List (SessionEvent σ)) := by simp [HasRead]

theorem hasRead_cons : HasRead (e :: es) ↔ SessionCall.isRead e.call ∨ HasRead es := by
  simp [HasRead]

theorem beforeRead_append (h : ¬HasRead es) : beforeRead (es ++ es') = es ++ beforeRead es' := by
  apply List.takeWhile_append_of_pos
  intro e he
  simp only [HasRead, not_exists, not_and, Bool.not_eq_true] at h
  simp [h e he]

theorem beforeRead_append_of_hasRead (h : HasRead es) : beforeRead (es ++ es') = beforeRead es := by
  induction es with
  | nil => simp [HasRead] at h
  | cons e es ih =>
    by_cases he : SessionCall.isRead e.call
    · simp [beforeRead, he]
    · have hrest := ih ((hasRead_cons.mp h).resolve_left he)
      simpa [beforeRead, he] using hrest

theorem beforeRead_read (he : SessionCall.isRead e.call) : beforeRead (e :: es) = [] := by
  simp [beforeRead, he]

theorem consecutive_append {first : ℕ} {ids ids' : List UInt64} (h : Consecutive first ids)
    (h' : Consecutive (first + ids.length) ids') : Consecutive first (ids ++ ids') := by
  unfold Consecutive at *
  rw [List.map_append, h, h', List.length_append, List.range'_append_1]

def SessionCall.Plain (c : SessionCall) : Prop :=
  c.keepaliveId = none ∧ (∀ r, c.reading r = none) ∧ c.isRead = false

theorem plain_keepaliveIds (h : ∀ e ∈ es, SessionCall.Plain e.call) : keepaliveIds es = [] :=
  List.filterMap_eq_nil_iff.mpr (fun e he => (h e he).1)

theorem plain_readings (h : ∀ e ∈ es, SessionCall.Plain e.call) : readings es = [] :=
  List.filterMap_eq_nil_iff.mpr (fun e he => (h e he).2.1 e.reply)

end Traces

theorem toNat_saturatingSub (a b : UInt64) : (saturatingSub a b).toNat = a.toNat - b.toNat := by
  unfold saturatingSub
  split_ifs with h
  · have hle := UInt64.le_iff_toNat_le.mp h
    simp only [UInt64.toNat_zero]
    omega
  · have hle : b ≤ a := (UInt64.le_total a b).resolve_left h
    exact UInt64.toNat_sub_of_le _ _ hle

section Calls

theorem plain_ack (id : UInt64) : (SessionCall.send (.Binary (ackMessage id 200).encode_to_vec)).Plain := by
  refine ⟨?_, fun _ => rfl, rfl⟩
  rw [SessionCall.keepaliveId, requestIn_ack]
  rfl

theorem keepaliveId_keepalive (id : UInt64) :
    (SessionCall.send (.Binary (keepaliveMessage id).encode_to_vec)).keepaliveId = some id := by
  rw [SessionCall.keepaliveId, requestIn_keepalive]
  rfl

theorem only_send_ack (id : UInt64) : (send_ack id 200).run.Only SessionCall.Plain :=
  only_bind (only_call (S := sessionSignature) _ (plain_ack id)) (fun _ => .ret _)

theorem only_dispatch (body : Option Bytes) (local_addr : ProtocolAddress) :
    (dispatch body local_addr).run.Only SessionCall.Plain := by
  cases body with
  | none => exact .ret _
  | some body =>
    have hplain : (SessionCall.dispatch_envelope body local_addr).Plain := ⟨rfl, fun _ => rfl, rfl⟩
    exact only_bind (only_call (S := sessionSignature) _ hplain) (fun _ => .ret _)

theorem only_handle_request (req : WsRequestProto) (local_addr : ProtocolAddress) :
    (handle_request req local_addr).run.Only SessionCall.Plain := by
  unfold handle_request
  dsimp only
  split_ifs
  · exact only_bind (only_dispatch _ _) (fun _ => only_send_ack _)
  · exact only_send_ack _
  · exact only_send_ack _

theorem only_handleFrame (raw : Bytes) (local_addr : ProtocolAddress) :
    (handleFrame raw local_addr).run.Only SessionCall.Plain := by
  unfold handleFrame
  cases WsMessageProto.decode raw with
  | none => exact .ret _
  | some ws_msg =>
    simp only
    split_ifs
    · cases ws_msg.request with
      | none => exact .ret _
      | some req => exact only_handle_request req local_addr
    · exact .ret _

end Calls

section Turn

variable {σ : Type} {h : Handler sessionSignature σ} {t : σ} {s : Session}

def Session.Due (s : Session) (now : UInt64) : Prop := APP_KEEPALIVE_MS ≤ saturatingSub now s.last_app_keepalive_ms

theorem ensures_sendPing (s : Session) : Ensures h (sendPing s) t (fun v _ es =>
    keepaliveIds es = [] ∧ ¬HasRead es ∧ ∃ r, v = .ok r ∧
      ∀ s', r = some s' → ∃ last_ping_ms, s' = { s with last_ping_ms := last_ping_ms }) := by
  apply ensures_call_bind
  split_ifs
  · apply ensures_call_bind
    cases (h.answer (.send (.Ping [])) (h.answer .elapsed_ms t).2).1 with
    | error e => exact ⟨rfl, by simp [HasRead, SessionCall.isRead], none, rfl, nofun⟩
    | ok u =>
      apply ensures_call_bind
      refine ⟨rfl, by simp [HasRead, SessionCall.isRead], some _, rfl, ?_⟩
      rintro _ ⟨⟩
      exact ⟨_, rfl⟩
  · refine ⟨rfl, by simp [HasRead, SessionCall.isRead], some s, rfl, ?_⟩
    rintro _ ⟨⟩
    exact ⟨s.last_ping_ms, rfl⟩

theorem ensures_sendKeepalive (s : Session) : Ensures h (sendKeepalive s) t (fun v _ es => ¬HasRead es ∧ ∃ now,
    (¬s.Due now ∧ keepaliveIds es = [] ∧ readings es = [now] ∧ v = .ok (some s)) ∨
      (s.Due now ∧ keepaliveIds es = [s.next_request_id] ∧ ((readings es = [now] ∧ v = .ok none) ∨
        ∃ sent, readings es = [now, sent] ∧ v = .ok (some { s with
          last_app_keepalive_ms := sent
          next_request_id := s.next_request_id + 1 })))) := by
  apply ensures_call_bind
  split_ifs with hdue
  · have hid := keepaliveId_keepalive s.next_request_id
    apply ensures_call_bind
    cases (h.answer (.send (.Binary (keepaliveMessage s.next_request_id).encode_to_vec))
      (h.answer .elapsed_ms t).2).1 with
    | error e =>
      refine ⟨by simp [HasRead, SessionCall.isRead], (h.answer .elapsed_ms t).1, .inr ⟨hdue, ?_, .inl ⟨rfl, rfl⟩⟩⟩
      exact (List.filterMap_cons_none rfl).trans (List.filterMap_cons_some hid)
    | ok u =>
      apply ensures_call_bind
      refine ⟨by simp [HasRead, SessionCall.isRead], (h.answer .elapsed_ms t).1,
        .inr ⟨hdue, ?_, .inr ⟨_, rfl, rfl⟩⟩⟩
      exact (List.filterMap_cons_none rfl).trans (List.filterMap_cons_some hid)
  · exact ⟨by simp [HasRead, SessionCall.isRead], (h.answer .elapsed_ms t).1, .inl ⟨hdue, rfl, rfl, rfl⟩⟩

theorem ensures_serveRead (local_addr : ProtocolAddress) (s : Session) (frame : Except SocketError WsMessage) :
    Ensures h (serveRead local_addr s frame) t (fun v _ es =>
      (∀ e ∈ es, SessionCall.Plain e.call) ∧ ∀ s', v = .ok (some s') → s' = s) := by
  have hnext : Ensures h (pure (some s) : SessionM (Option Session)) t (fun v _ es =>
      (∀ e ∈ es, SessionCall.Plain e.call) ∧ ∀ s', v = .ok (some s') → s' = s) := by
    refine ⟨nofun, ?_⟩
    rintro _ ⟨⟩
    rfl
  have hexit : Ensures h (pure none : SessionM (Option Session)) t (fun v _ es =>
      (∀ e ∈ es, SessionCall.Plain e.call) ∧ ∀ s', v = .ok (some s') → s' = s) := ⟨nofun, nofun⟩
  cases frame with
  | error e =>
    simp only [serveRead]
    split_ifs
    · exact hnext
    · exact hexit
  | ok m =>
    cases m with
    | Binary raw =>
      apply ensures_bind (ensures_only (only_handleFrame raw local_addr))
      · exact fun e t es hes => ⟨hes, nofun⟩
      · intro u t' es hes
        refine ⟨by simpa using hes, ?_⟩
        rintro _ ⟨⟩
        rfl
    | Close reason => exact hexit
    | Ping b => exact hnext
    | Pong b => exact hnext
    | Text text => exact hnext
    | Frame => exact hnext

theorem ensures_readFrame (local_addr : ProtocolAddress) (s : Session) :
    Ensures h (readFrame local_addr s) t (fun v _ es =>
      keepaliveIds es = [] ∧ readings es = [] ∧ (∃ e rest, es = e :: rest ∧ SessionCall.isRead e.call) ∧
        ∀ s', v = .ok (some s') → s' = s) := by
  apply ensures_call_bind
  refine (ensures_serveRead local_addr s _).mono ?_
  rintro v t' es ⟨hes, hv⟩
  refine ⟨?_, ?_, ⟨_, es, rfl, rfl⟩, hv⟩
  · exact (List.filterMap_cons_none rfl).trans (plain_keepaliveIds hes)
  · exact (List.filterMap_cons_none rfl).trans (plain_readings hes)

/-- The ids so far leave no room to wrap around: each keepalive came at least `APP_KEEPALIVE_MS` after the last. -/
def Session.Spaced (s : Session) : Prop :=
  1 ≤ s.next_request_id.toNat ∧ 55000 * (s.next_request_id.toNat - 2) ≤ s.last_app_keepalive_ms.toNat

def Session.FirstRead (s : Session) (es : List (SessionEvent σ)) : Prop :=
  HasRead es →
    (keepaliveIds (beforeRead es) = [s.next_request_id] ∧ ∃ now ∈ readings (beforeRead es), s.Due now) ∨
      (keepaliveIds (beforeRead es) = [] ∧ ∃ earlier now, readings (beforeRead es) = earlier ++ [now] ∧ ¬s.Due now)

structure Session.Turned (s : Session) (v : Except Panic (Option Session)) (es : List (SessionEvent σ)) : Prop where
  first : s.FirstRead es
  unread : ¬HasRead es → v = .ok none
  ids : s.Spaced → (readings es).Pairwise (· ≤ ·) → Consecutive s.next_request_id.toNat (keepaliveIds es)
  next : s.Spaced → (readings es).Pairwise (· ≤ ·) → ∀ s', v = .ok (some s') →
    s'.Spaced ∧ s'.next_request_id.toNat = s.next_request_id.toNat + (keepaliveIds es).length

theorem due_toNat {now : UInt64} : s.Due now ↔ 55000 ≤ now.toNat - s.last_app_keepalive_ms.toNat := by
  rw [Session.Due, UInt64.le_iff_toNat_le, toNat_saturatingSub]
  rfl

theorem Session.Spaced.sent (hs : s.Spaced) {now sent : UInt64} (hdue : s.Due now) (hle : now ≤ sent) :
    let s' : Session := { s with
      last_app_keepalive_ms := sent
      next_request_id := s.next_request_id + 1 }
    s'.Spaced ∧ s'.next_request_id.toNat = s.next_request_id.toNat + 1 := by
  obtain ⟨hpos, hspaced⟩ := hs
  have hnow := due_toNat.mp hdue
  have hsent := UInt64.le_iff_toNat_le.mp hle
  have hbound := sent.toNat_lt
  have hid : (s.next_request_id + 1).toNat = s.next_request_id.toNat + 1 := by
    rw [UInt64.toNat_add, UInt64.toNat_one]
    omega
  refine ⟨⟨?_, ?_⟩, hid⟩
  · simp only [hid]
    omega
  · simp only [hid]
    omega

theorem consecutive_one (id : UInt64) : Consecutive id.toNat [id] := rfl

theorem Session.Turned.prepend {v : Except Panic (Option Session)} {es es' : List (SessionEvent σ)}
    (h : s.Turned v es') (hids : keepaliveIds es = []) (hread : ¬HasRead es) : s.Turned v (es ++ es') where
  first := by
    intro hhas
    rw [beforeRead_append hread, keepaliveIds_append, hids, List.nil_append, readings_append]
    rcases h.first ((hasRead_append.mp hhas).resolve_left hread) with ⟨hone, now, hnow, hdue⟩ |
      ⟨hnone, earlier, now, hnow, hdue⟩
    · exact .inl ⟨hone, now, List.mem_append_right _ hnow, hdue⟩
    · exact .inr ⟨hnone, readings es ++ earlier, now, by rw [hnow, List.append_assoc], hdue⟩
  unread := fun hhas => h.unread (fun hread' => hhas (hasRead_append.mpr (.inr hread')))
  ids := by
    intro hs hsorted
    rw [readings_append] at hsorted
    rw [keepaliveIds_append, hids, List.nil_append]
    exact h.ids hs (List.pairwise_append.mp hsorted).2.1
  next := by
    intro hs hsorted
    rw [readings_append] at hsorted
    rw [keepaliveIds_append, hids, List.nil_append]
    exact h.next hs (List.pairwise_append.mp hsorted).2.1

theorem Session.Turned.of_read {v : Except Panic (Option Session)} {es es' : List (SessionEvent σ)}
    (hread : ¬HasRead es) (hids' : keepaliveIds es' = []) (hreadings' : readings es' = [])
    (hes' : ∃ e rest, es' = e :: rest ∧ SessionCall.isRead e.call)
    (hfirst : (keepaliveIds es = [s.next_request_id] ∧ ∃ now ∈ readings es, s.Due now) ∨
      (keepaliveIds es = [] ∧ ∃ earlier now, readings es = earlier ++ [now] ∧ ¬s.Due now))
    (hids : Consecutive s.next_request_id.toNat (keepaliveIds es))
    (hnext : s.Spaced → (readings es).Pairwise (· ≤ ·) → ∀ s', v = .ok (some s') →
      s'.Spaced ∧ s'.next_request_id.toNat = s.next_request_id.toNat + (keepaliveIds es).length) :
    s.Turned v (es ++ es') := by
  obtain ⟨e, rest, rfl, he⟩ := hes'
  have hbefore : beforeRead (es ++ e :: rest) = es := by
    rw [beforeRead_append hread, beforeRead_read he, List.append_nil]
  have hhas : HasRead (es ++ e :: rest) := hasRead_append.mpr (.inr (hasRead_cons.mpr (.inl he)))
  have hall : keepaliveIds (es ++ e :: rest) = keepaliveIds es := by
    rw [keepaliveIds_append, hids', List.append_nil]
  constructor
  · intro _
    rw [hbefore]
    exact hfirst
  · exact fun hno => absurd hhas hno
  · intro _ _
    rw [hall]
    exact hids
  · intro hs hsorted
    rw [readings_append, hreadings', List.append_nil] at hsorted
    rw [hall]
    exact hnext hs hsorted

theorem ensures_keepaliveAndRead (local_addr : ProtocolAddress) (s : Session) :
    Ensures h (do
      match ← sendKeepalive s with
      | none => pure none
      | some s => readFrame local_addr s) t (fun v _ es => s.Turned v es) := by
  apply ensures_bind (ensures_sendKeepalive s)
  · rintro e t' es ⟨-, now, ⟨-, -, -, ⟨⟩⟩ | ⟨-, -, ⟨-, ⟨⟩⟩ | ⟨sent, -, ⟨⟩⟩⟩⟩
  · rintro r t' es ⟨hread, now, ⟨hdue, hids, hreadings, ⟨⟩⟩ | ⟨hdue, hids, ⟨hreadings, ⟨⟩⟩ | ⟨sent, hreadings, ⟨⟩⟩⟩⟩
    · refine (ensures_readFrame local_addr s).mono ?_
      rintro v t'' es' ⟨hids', hreadings', hes', hv⟩
      refine .of_read hread hids' hreadings' hes' (.inr ⟨hids, [], now, hreadings, hdue⟩) ?_ ?_
      · rw [hids]
        rfl
      · intro hs _ s' hs'
        obtain rfl := hv s' hs'
        rw [hids]
        exact ⟨hs, rfl⟩
    · refine ⟨?_, fun _ => rfl, ?_, nofun⟩
      · intro hhas
        exact absurd (by simpa using hhas) hread
      · intro _ _
        change Consecutive _ (keepaliveIds (es ++ []))
        rw [List.append_nil, hids]
        exact consecutive_one _
    · refine (ensures_readFrame local_addr _).mono ?_
      rintro v t'' es' ⟨hids', hreadings', hes', hv⟩
      refine .of_read hread hids' hreadings' hes' (.inl ⟨hids, now, by simp [hreadings], hdue⟩) ?_ ?_
      · rw [hids]
        exact consecutive_one _
      · intro hs hsorted s' hs'
        obtain rfl := hv s' hs'
        rw [hreadings] at hsorted
        have hle : now ≤ sent := (List.pairwise_cons.mp hsorted).1 sent List.mem_cons_self
        rw [hids]
        exact hs.sent hdue hle

theorem ensures_sessionTurn (local_addr : ProtocolAddress) (s : Session) :
    Ensures h (sessionTurn local_addr s) t (fun v _ es => s.Turned v es) := by
  apply ensures_bind (ensures_sendPing s)
  · rintro e t' es ⟨-, -, r, ⟨⟩, -⟩
  · rintro r t' es ⟨hids, hread, _, ⟨⟩, hr⟩
    cases r with
    | none =>
      have hquiet : s.Turned (.ok none) ([] : List (SessionEvent σ)) :=
        ⟨fun hhas => absurd hhas not_hasRead_nil, fun _ => rfl, fun _ _ => rfl, nofun⟩
      exact hquiet.prepend hids hread
    | some s₁ =>
      obtain ⟨last_ping_ms, rfl⟩ := hr s₁ rfl
      refine (ensures_keepaliveAndRead local_addr _).mono ?_
      intro v t'' es' hturned
      have hsame : s.Turned v es' := ⟨hturned.first, hturned.unread, hturned.ids, hturned.next⟩
      exact hsame.prepend hids hread

theorem ensures_sessionLoop (local_addr : ProtocolAddress) (n : ℕ) (s : Session) (t : σ) :
    Ensures h (sessionLoop local_addr n s) t (fun _ _ es => s.FirstRead es ∧
      (s.Spaced → (readings es).Pairwise (· ≤ ·) → Consecutive s.next_request_id.toNat (keepaliveIds es))) := by
  induction n generalizing s t with
  | zero => exact ⟨fun hhas => absurd hhas not_hasRead_nil, fun _ _ => rfl⟩
  | succ n ih =>
    apply ensures_bind (ensures_sessionTurn local_addr s)
    · exact fun e t' es hturned => ⟨hturned.first, hturned.ids⟩
    · intro r t' es hturned
      cases r with
      | none =>
        change s.FirstRead (es ++ []) ∧
          (_ → (readings (es ++ [])).Pairwise _ → Consecutive _ (keepaliveIds (es ++ [])))
        rw [List.append_nil]
        exact ⟨hturned.first, hturned.ids⟩
      | some s' =>
        refine (ih s' t').mono ?_
        rintro v t'' es' ⟨-, hrest⟩
        have hread : HasRead es := by
          by_contra hno
          cases hturned.unread hno
        constructor
        · intro _
          rw [beforeRead_append_of_hasRead hread]
          exact hturned.first hread
        · intro hs hsorted
          rw [readings_append] at hsorted
          obtain ⟨hsorted, hsorted', -⟩ := List.pairwise_append.mp hsorted
          obtain ⟨hs', hid⟩ := hturned.next hs hsorted s' rfl
          rw [keepaliveIds_append]
          exact consecutive_append (hturned.ids hs hsorted) (hid ▸ hrest hs' hsorted')

end Turn

section Session

variable {σ : Type} (h : Handler sessionSignature σ)

def sessionTrace (local_addr : ProtocolAddress) (n : ℕ) (t : σ) : List (SessionEvent σ) :=
  ((run_session local_addr n).exec h t).events

def KeepaliveFirst (es : List (SessionEvent σ)) : Prop := HasRead es → keepaliveIds (beforeRead es) = [1]

def startedAt (last_ping_ms now : UInt64) : Session := ⟨last_ping_ms, 1, saturatingSub now APP_KEEPALIVE_MS⟩

theorem spaced_startedAt (last_ping_ms now : UInt64) : (startedAt last_ping_ms now).Spaced :=
  ⟨le_refl 1, Nat.zero_le _⟩

theorem due_startedAt (last_ping_ms : UInt64) {start now : UInt64} (hle : start ≤ now) :
    (startedAt last_ping_ms start).Due now ↔ 55000 ≤ now.toNat := by
  have hstart := UInt64.le_iff_toNat_le.mp hle
  have hkeepalive : APP_KEEPALIVE_MS.toNat = 55000 := by decide
  rw [due_toNat, startedAt, toNat_saturatingSub, hkeepalive]
  omega

def Looped (es : List (SessionEvent σ)) : Prop :=
  ∃ opening turns closing last_ping_ms now, es = opening ++ (turns ++ closing) ∧
    (¬HasRead opening ∧ keepaliveIds opening = [] ∧ readings opening = [last_ping_ms, now]) ∧
    (¬HasRead closing ∧ keepaliveIds closing = [] ∧ readings closing = []) ∧
    (startedAt last_ping_ms now).FirstRead turns ∧
    ((readings turns).Pairwise (· ≤ ·) → Consecutive 1 (keepaliveIds turns))

theorem ensures_run_session (local_addr : ProtocolAddress) (n : ℕ) (t : σ) :
    Ensures h (run_session local_addr n) t (fun _ _ es => (¬HasRead es ∧ keepaliveIds es = []) ∨ Looped es) := by
  apply ensures_call_bind
  apply ensures_call_bind
  cases (h.answer .ticktimer_new (h.answer (.set_read_timeout READ_TIMEOUT_MS) t).2).1 with
  | error e =>
    apply ensures_call_bind
    exact .inl ⟨by simp [HasRead, SessionCall.isRead], rfl⟩
  | ok u =>
    apply ensures_call_bind
    apply ensures_call_bind
    apply ensures_bind (ensures_sessionLoop local_addr n (startedAt _ _) _)
    · rintro e t' es ⟨hfirst, hids⟩
      refine .inr ⟨[_, _, _, _], es, [], _, _, by rw [List.append_nil]; rfl, ⟨?_, rfl, rfl⟩,
        ⟨not_hasRead_nil, rfl, rfl⟩, hfirst, hids (spaced_startedAt _ _)⟩
      simp [HasRead, SessionCall.isRead]
    · rintro r t' es ⟨hfirst, hids⟩
      cases r with
      | none =>
        apply ensures_call_bind
        refine .inr ⟨[_, _, _, _], es, [_], _, _, rfl, ⟨?_, rfl, rfl⟩, ⟨?_, rfl, rfl⟩, hfirst,
          hids (spaced_startedAt _ _)⟩
        · simp [HasRead, SessionCall.isRead]
        · simp [HasRead, SessionCall.isRead]
      | some s =>
        refine .inr ⟨[_, _, _, _], es, [], _, _, rfl, ⟨?_, rfl, rfl⟩, ⟨not_hasRead_nil, rfl, rfl⟩, hfirst,
          hids (spaced_startedAt _ _)⟩
        simp [HasRead, SessionCall.isRead]

section Looped

variable {es : List (SessionEvent σ)}

theorem readings_of_beforeRead (es : List (SessionEvent σ)) : readings (beforeRead es) <+: readings es := by
  refine ⟨readings (es.dropWhile (fun e => !SessionCall.isRead e.call)), ?_⟩
  rw [beforeRead, ← readings_append, List.takeWhile_append_dropWhile]

theorem Looped.ids (hl : Looped es) (hsorted : (readings es).Pairwise (· ≤ ·)) : Consecutive 1 (keepaliveIds es) := by
  obtain ⟨opening, turns, closing, last_ping_ms, start, rfl, ⟨-, hoids, -⟩, ⟨-, hcids, -⟩, -, hids⟩ := hl
  rw [readings_append, readings_append] at hsorted
  rw [keepaliveIds_append, keepaliveIds_append, hoids, hcids, List.nil_append, List.append_nil]
  exact hids (List.pairwise_append.mp (List.pairwise_append.mp hsorted).2.1).1

theorem Looped.first_iff (hl : Looped es) (hsorted : (readings es).Pairwise (· ≤ ·)) (hread : HasRead es) :
    keepaliveIds (beforeRead es) = [1] ↔ ∃ now ∈ readings (beforeRead es), APP_KEEPALIVE_MS ≤ now := by
  obtain ⟨opening, turns, closing, last_ping_ms, start, rfl, ⟨hopening, hoids, hreadings⟩, ⟨hclosing, -, hcreadings⟩,
    hfirst, -⟩ := hl
  have hturns : HasRead turns := by
    simpa [hopening, hclosing] using hread
  have hbefore : beforeRead (opening ++ (turns ++ closing)) = opening ++ beforeRead turns := by
    rw [beforeRead_append hopening, beforeRead_append_of_hasRead hturns]
  have hearly : ([last_ping_ms, start] ++ readings (beforeRead turns)).Pairwise (· ≤ ·) := by
    rw [readings_append, readings_append, hreadings, hcreadings, List.append_nil] at hsorted
    exact hsorted.sublist ((readings_of_beforeRead turns).sublist.append_left _)
  have hlate : ∀ now ∈ readings (beforeRead turns), start ≤ now :=
    (List.pairwise_append.mp hearly).2.2 start (by simp)
  have hlimit : ∀ now : UInt64, APP_KEEPALIVE_MS ≤ now ↔ 55000 ≤ now.toNat := fun now => UInt64.le_iff_toNat_le
  rw [hbefore, keepaliveIds_append, hoids, List.nil_append, readings_append, hreadings]
  rcases hfirst hturns with ⟨hone, now, hnow, hdue⟩ | ⟨hnone, earlier, now, hnow, hdue⟩
  · have hclock := (due_startedAt last_ping_ms (hlate now hnow)).mp hdue
    exact iff_of_true hone ⟨now, List.mem_append_right _ hnow, (hlimit now).mpr hclock⟩
  · have hlast : now ∈ readings (beforeRead turns) := by simp [hnow]
    have hclock := mt (due_startedAt last_ping_ms (hlate now hlast)).mpr hdue
    refine iff_of_false (by simp [hnone]) ?_
    rintro ⟨t, ht, hreached⟩
    rw [hnow, ← List.append_assoc] at hearly ht
    have hmax : t ≤ now := by
      rcases List.mem_append.mp ht with ht | ht
      · exact (List.pairwise_append.mp hearly).2.2 t ht now (by simp)
      · exact (List.mem_singleton.mp ht) ▸ UInt64.le_refl _
    have hle := UInt64.le_iff_toNat_le.mp hmax
    have hreached' := (hlimit t).mp hreached
    omega

end Looped

def stillClock (now : UInt64) : Handler sessionSignature Unit where
  answer
    | .set_read_timeout _, s => (.ok (), s)
    | .ticktimer_new, s => (.ok (), s)
    | .elapsed_ms, s => (now, s)
    | .send _, s => (.ok (), s)
    | .read, s => (.error (.Io .WouldBlock), s)
    | .dispatch_envelope _ _, s => (.ok (), s)
    | .close, s => ((), s)

/-- In a session whose clock never runs backwards, the keepalives have the ids 1, 2, 3, … and the first is sent
before the first read, exactly if the clock has reached 55 seconds by the first read. -/
theorem keepalive_before_first_read (local_addr : ProtocolAddress) (n : ℕ) (t : σ)
    (hsorted : (readings (sessionTrace h local_addr n t)).Pairwise (· ≤ ·)) :
    (KeepaliveFirst (sessionTrace h local_addr n t) ∧ Consecutive 1 (keepaliveIds (sessionTrace h local_addr n t))) ↔
      (HasRead (sessionTrace h local_addr n t) →
        ∃ now ∈ readings (beforeRead (sessionTrace h local_addr n t)), APP_KEEPALIVE_MS ≤ now) := by
  rcases ensures_run_session h local_addr n t with ⟨hread, hids⟩ | hlooped
  · refine iff_of_true ⟨fun hhas => absurd hhas hread, ?_⟩ (fun hhas => absurd hhas hread)
    exact congrArg (fun ids : List UInt64 => Consecutive 1 ids) hids ▸ rfl
  · constructor
    · rintro ⟨hfirst, -⟩ hread
      exact (hlooped.first_iff hsorted hread).mp (hfirst hread)
    · intro hclock
      exact ⟨fun hread => (hlooped.first_iff hsorted hread).mpr (hclock hread), hlooped.ids hsorted⟩

theorem stillClock_readings (now : UInt64) (local_addr : ProtocolAddress) (n : ℕ) :
    (readings (sessionTrace (stillClock now) local_addr n ())).Pairwise (· ≤ ·) := by
  have hnow : ∀ r ∈ readings (sessionTrace (stillClock now) local_addr n ()), r = now := by
    intro r hr
    obtain ⟨e, he, hreading⟩ := List.mem_filterMap.mp hr
    have hanswer := Program.events_answered (stillClock now) (run_session local_addr n).run () e he
    obtain ⟨before, call, reply⟩ := e
    cases call with
    | elapsed_ms =>
      obtain rfl := Option.some.inj hreading
      exact hanswer
    | _ => cases hreading
  apply List.pairwise_of_forall_mem_list
  intro a ha b hb
  rw [hnow a ha, hnow b hb]
  exact UInt64.le_refl _

def thisDevice : ProtocolAddress := ⟨"phone", ⟨1, DeviceId.one_valid⟩⟩

theorem keepalive_before_first_read_minute :
    let es := sessionTrace (stillClock 60000) thisDevice 3 ()
    (KeepaliveFirst es ∧ Consecutive 1 (keepaliveIds es)) ↔
      (HasRead es → ∃ now ∈ readings (beforeRead es), APP_KEEPALIVE_MS ≤ now) :=
  keepalive_before_first_read (stillClock 60000) _ 3 () (stillClock_readings 60000 _ 3)

/-- Ten seconds after boot, a session reads without having sent its keepalive. -/
theorem keepalive_missing_after_boot :
    ¬∀ (σ : Type) (h : Handler sessionSignature σ) (local_addr : ProtocolAddress) (n : ℕ) (t : σ),
      (readings (sessionTrace h local_addr n t)).Pairwise (· ≤ ·) →
        KeepaliveFirst (sessionTrace h local_addr n t) ∧
          Consecutive 1 (keepaliveIds (sessionTrace h local_addr n t)) := by
  intro hall
  obtain ⟨hfirst, -⟩ := hall Unit (stillClock 10000) thisDevice 1 () (stillClock_readings 10000 _ 1)
  have hread : HasRead (sessionTrace (stillClock 10000) thisDevice 1 ()) :=
    ⟨⟨(), .read, .error (.Io .WouldBlock)⟩, .tail _ (.tail _ (.tail _ (.tail _ (.tail _ (.tail _ (.head _)))))), rfl⟩
  have hnone : keepaliveIds (beforeRead (sessionTrace (stillClock 10000) thisDevice 1 ())) = [] := rfl
  have hkeepalive := hfirst hread
  rw [hnone] at hkeepalive
  cases hkeepalive

end Session

end MainWs

end XousSignalClient
