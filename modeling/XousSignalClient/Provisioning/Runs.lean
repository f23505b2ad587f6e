import XousSignalClient.Provisioning.Phases

namespace XousSignalClient

open Encoding Interaction

variable {B : IpcCrate} {w : Worker B}

section Progress

def WsCall.NoReceive : WsCall B → Prop
  | .try_receive_message => False
  | _ => True

def Ahead (k : ℕ) (s : Wire B) : Prop :=
  ∃ front msg back, s.queue = front ++ msg :: back ∧ msg.id = 1 ∧ front.length < k

theorem Ahead.stable (k : ℕ) : (Wire.surroundings B).Stable (Ahead k) := by
  rintro s t ⟨front, msg, back, hqueue, hid, hlt⟩ hsend
  have happend : ∃ m, t.queue = s.queue ++ [m] := by
    cases hsend with
    | wait hfree hopen hpage => exact ⟨_, rfl⟩
    | cancel hopen => exact ⟨_, rfl⟩
    | flap => exact ⟨_, rfl⟩
    | unknown hsender hid => exact ⟨_, rfl⟩
  obtain ⟨m, hm⟩ := happend
  exact ⟨front, msg, back ++ [m], by rw [hm, hqueue, List.append_assoc, List.cons_append], hid, hlt⟩

theorem keeps_ahead {α : Type} {p : WsM B α} (hp : p.Only WsCall.NoReceive) (k : ℕ) :
    Keeps (Wire.surroundings B) (fun _ => True) (Ahead k) p (fun _ => Ahead k) := by
  refine keeps_only hp (Ahead.stable k) (fun _ _ => trivial) ?_
  intro c s r t hc hs hanswer
  cases c with
  | try_receive_message => cases hc
  | set_read_timeout => exact (show t = s from hanswer) ▸ hs
  | ticktimer_new => exact hanswer.2 ▸ hs
  | elapsed_ms use => exact (show t = s.record _ from hanswer) ▸ hs
  | send_ping => exact (show t = s.record _ from hanswer) ▸ hs
  | read => exact (show t = s.record _ from hanswer) ▸ hs
  | return_memory sender page => exact (show t = s.record _ from hanswer) ▸ hs
  | return_scalar sender => exact (show t = s.record _ from hanswer) ▸ hs
  | close => exact (show t = s.record _ from hanswer) ▸ hs
  | destroy_server => exact (show t = s.record _ from hanswer) ▸ hs

theorem only_dropMessage (msg : Envelope B) : (dropMessage msg).Only WsCall.NoReceive := by
  unfold dropMessage
  cases msg.body with
  | none => exact .ret _
  | some page => exact .perform _ trivial

theorem only_ws_bind {α : Type} {c : WsCall B} {f : c.Reply → WsM B α} (hc : c.NoReceive)
    (hf : ∀ r, (f r).Only WsCall.NoReceive) : (ws c >>= f).Only WsCall.NoReceive :=
  Program.Only.ask (S := wsSignature B) c (fun r => f r) hc hf

theorem only_checkDeadline (w : Worker B) : (checkDeadline w).Only WsCall.NoReceive := by
  unfold checkDeadline
  split_ifs
  · exact .ret _
  · refine only_ws_bind trivial (fun now => ?_)
    split_ifs
    · exact .ret _
    · exact .ret _

theorem only_keepalive (w : Worker B) : (keepalive w).Only WsCall.NoReceive := by
  unfold keepalive
  split_ifs
  · exact .ret _
  · refine only_ws_bind trivial (fun now => ?_)
    split_ifs
    · refine only_ws_bind trivial ?_
      rintro (err | ⟨⟩)
      · exact .ret _
      · exact only_ws_bind trivial (fun _ => .ret _)
    · exact .ret _

theorem only_readSocket (w : Worker B) : (readSocket w).Only WsCall.NoReceive := by
  unfold readSocket
  split_ifs
  · exact .ret _
  · exact only_ws_bind trivial (fun _ => .ret _)

theorem only_deliver (w : Worker B) : (deliver w).Only WsCall.NoReceive := by
  unfold deliver
  split
  · exact (only_dropMessage _).bind (fun _ => .ret _)
  · exact .ret _

theorem only_serveMessage (w : Worker B) {msg : Envelope B} (hid : msg.id ≠ 1) :
    (serveMessage w msg).Only WsCall.NoReceive := by
  unfold serveMessage
  split
  · cases w.pending with
    | some result => exact (only_dropMessage _).bind (fun _ => .ret _)
    | none =>
      refine Program.Only.bind ?_ (fun _ => .ret _)
      unfold dropWaiter
      cases w.waiter with
      | none => exact .ret _
      | some m => exact only_dropMessage m
  · next hop => exact absurd (id_of_op hop) hid
  · exact (only_dropMessage _).bind (fun _ => .ret _)
  · exact (only_dropMessage _).bind (fun _ => .ret _)

def Advanced (n : ℕ) : Flow B → Wire B → Prop
  | .exit _, _ => True
  | .next _, s => Ahead n s

theorem keeps_anything {α : Type} {p : WsM B α} {P : Wire B → Prop} :
    Keeps (Wire.surroundings B) (fun _ => True) P p (fun _ _ => True) :=
  fun _ _ _ _ _ => ⟨trivial, fun _ _ => trivial⟩

theorem keeps_exit {P : Wire B → Prop} {n : ℕ} :
    Keeps (Wire.surroundings B) (fun _ => True) P (pure (.exit w)) (Advanced n) :=
  (keeps_ret (P := fun _ => True) (fun _ _ _ _ => trivial) (fun _ _ => trivial) (fun _ _ => trivial)).mono
    (fun _ _ => trivial) (fun _ _ h => h)

theorem keeps_serveCancel_exit {P : Wire B → Prop} {msg : Envelope B} {n : ℕ} :
    Keeps (Wire.surroundings B) (fun _ => True) P (serveCancel w msg) (Advanced n) := by
  refine keeps_bind keeps_anything (fun _ => ?_)
  refine keeps_bind keeps_anything (fun _ => ?_)
  exact keeps_bind keeps_anything (fun _ => keeps_exit)

theorem keeps_serviceIpc_ahead (n : ℕ) :
    Keeps (Wire.surroundings B) (fun _ => True) (Ahead (n + 1)) (serviceIpc w) (Advanced n) := by
  let M : Except String (Option (Envelope B)) → Wire B → Prop := fun r t =>
    (∃ msg, r = .ok (some msg) ∧ msg.id = 1) ∨ Ahead n t
  refine keeps_ask (S := wsSignature B) (c := .try_receive_message) (M := M) (Ahead.stable _)
    (fun _ _ => trivial) ?_ ?_
  · rintro s r t ⟨front, msg, back, hqueue, hid, hlt⟩ ⟨rfl, rfl⟩
    cases front with
    | nil => exact .inl ⟨msg, by rw [hqueue]; rfl, hid⟩
    | cons first front =>
      refine .inr ⟨front, msg, back, ?_, hid, ?_⟩
      · rw [Wire.record_queue, hqueue]
        rfl
      · rw [List.length_cons] at hlt
        omega
  rintro (err | (_ | msg))
  · exact keeps_exit
  · have hnone : ∀ s, M (.ok none) s → Ahead n s := by
      rintro s (⟨msg, hmsg, -⟩ | h)
      · cases hmsg
      · exact h
    exact (keeps_ret (a := Flow.next w) (Q := Advanced n) (Ahead.stable n) (fun _ _ => trivial)
      (fun _ h => h)).mono hnone
      (fun _ _ h => h)
  · by_cases hid : msg.id = 1
    · have hserve : serveMessage w msg = serveCancel w msg := by
        rw [serveMessage, hid]
        rfl
      change Keeps _ _ _ (serveMessage w msg) _
      rw [hserve]
      exact keeps_serveCancel_exit
    · have hsome : ∀ s, M (.ok (some msg)) s → Ahead n s := by
        rintro s (⟨m, hm, hone⟩ | h)
        · obtain rfl := Option.some.inj (Except.ok.inj hm)
          exact absurd hone hid
        · exact h
      refine (keeps_ahead (only_serveMessage w hid) n).mono hsome ?_
      intro flow s h
      cases flow with
      | next w => exact h
      | exit w => trivial

theorem keeps_iterate_exits (n : ℕ) (w : Worker B) :
    Keeps (Wire.surroundings B) (fun _ => True) (Ahead n) (iterate n w) (fun r _ => r = none) := by
  induction n generalizing w with
  | zero =>
    rintro s o t ⟨front, msg, back, -, -, hlt⟩
    omega
  | succ n ih =>
    refine keeps_bind (keeps_serviceIpc_ahead n) ?_
    rintro (w | w)
    · refine keeps_bind (keeps_ahead (only_checkDeadline w) n) (fun w => ?_)
      refine keeps_bind (keeps_ahead (only_keepalive w) n) (fun w => ?_)
      refine keeps_bind (keeps_ahead (only_readSocket w) n) (fun w => ?_)
      exact keeps_bind (keeps_ahead (only_deliver w) n) ih
    · refine keeps_bind keeps_anything (fun _ => ?_)
      exact (keeps_ret (P := fun _ => True) (fun _ _ _ _ => trivial) (fun _ _ => trivial) (fun _ _ => rfl)).mono
        (fun _ _ => trivial) (fun _ _ h => h)

end Progress

section Whole

variable {deadline_secs : UInt64}

def SpawnedAt (start : UInt64) (s : Wire B) : Prop := s.history.head? = some (.clock .spawn start)

theorem head?_concat {α : Type} {l : List α} {a x : α} (h : l.head? = some a) : (l ++ [x]).head? = some a := by
  rw [List.head?_append, h, Option.some_or]

theorem keeps_spawnedAt {α : Type} (start : UInt64) (p : WsM B α) :
    Keeps (Wire.surroundings B) (SpawnedAt start) (SpawnedAt start) p (fun _ => SpawnedAt start) := by
  refine keeps_invariant ?_ ?_ p
  · intro s t h hsend
    rw [SpawnedAt, sends_history hsend]
    exact h
  · intro c s r t h hanswer
    cases c with
    | set_read_timeout => exact (show t = s from hanswer) ▸ h
    | ticktimer_new => exact hanswer.2 ▸ h
    | try_receive_message => exact hanswer.2 ▸ head?_concat h
    | elapsed_ms use => exact (show t = s.record _ from hanswer) ▸ head?_concat h
    | send_ping => exact (show t = s.record _ from hanswer) ▸ head?_concat h
    | read => exact (show t = s.record _ from hanswer) ▸ head?_concat h
    | return_memory sender page => exact (show t = s.record _ from hanswer) ▸ head?_concat h
    | return_scalar sender => exact (show t = s.record _ from hanswer) ▸ head?_concat h
    | close => exact (show t = s.record _ from hanswer) ▸ head?_concat h
    | destroy_server => exact (show t = s.record _ from hanswer) ▸ head?_concat h

def ProtocolHonoured (deadline_secs : UInt64) (s : Wire B) : Prop :=
  ∀ start, SpawnedAt start s → Honoured (deadlineAfter start deadline_secs) s.history

def Ran (deadline_secs : UInt64) (r : Option (Worker B)) (s : Wire B) : Prop :=
  ∃ start, SpawnedAt start s ∧ Looped (deadlineAfter start deadline_secs) r s

def Unread (s : Wire B) : Prop := s.history = [] ∧ ∀ d, Inv d ⟨d, 0, none, none, false⟩ s

theorem Unread.stable (hB : B.Lawful) : (Wire.surroundings B).Stable (Unread (B := B)) := by
  intro s t h hsend
  exact ⟨(sends_history hsend).trans h.1, fun d => (h.2 d).sends hB hsend⟩

theorem Unread.honoured {s : Wire B} (h : Unread s) : ProtocolHonoured deadline_secs s := by
  intro start hstart
  rw [SpawnedAt, h.1] at hstart
  cases hstart

theorem unread_start : Unread (Wire.start : Wire B) := by
  refine ⟨rfl, fun d => ?_⟩
  constructor
  · rfl
  · rfl
  · exact Nat.zero_le 1
  · intro msg hmsg
    cases hmsg
  · intro msg hmsg
    cases hmsg
  · simp [Wire.start]
  · exact List.Pairwise.nil
  · rfl
  · rfl
  · intro e he
    cases he
  · exact every_nil

theorem keeps_worker_loop (hB : B.Lawful) (n : ℕ) (deadline_secs : UInt64) :
    Keeps (Wire.surroundings B) (ProtocolHonoured deadline_secs) Unread (worker_loop n deadline_secs)
      (Ran deadline_secs) := by
  have hsafe : ∀ s : Wire B, Unread s → ProtocolHonoured deadline_secs s := fun _ h => h.honoured
  refine keeps_ask (S := wsSignature B) (c := .set_read_timeout) (M := fun _ => Unread) (Unread.stable hB) hsafe ?_
    (fun _ => ?_)
  · rintro s r t hs rfl
    exact hs
  refine keeps_ask (S := wsSignature B) (c := .ticktimer_new)
    (M := fun (r : Except String Unit) t => r = .ok () ∧ Unread t)
    (Unread.stable hB) hsafe ?_ ?_
  · rintro s r t hs ⟨rfl, rfl⟩
    exact ⟨rfl, hs⟩
  rintro (err | ⟨⟩)
  · exact keeps_pure (fun h => nomatch h)
  refine keeps_pure (fun _ => ?_)
  refine keeps_ask (S := wsSignature B) (c := .elapsed_ms .spawn)
    (M := fun (start : UInt64) t => Inv (deadlineAfter start deadline_secs)
      ⟨deadlineAfter start deadline_secs, 0, none, none, false⟩ t ∧ SpawnedAt start t)
    (Unread.stable hB) hsafe ?_ ?_
  · rintro s r t hs rfl
    have hobserve := (hs.2 (deadlineAfter r deadline_secs)).observe (e := .clock .spawn r) rfl rfl trivial
    rw [Worker.hear_of_ignored rfl rfl] at hobserve
    refine ⟨hobserve, ?_⟩
    change (s.history ++ [_]).head? = _
    rw [hs.1]
    rfl
  intro (start : UInt64)
  let d := deadlineAfter start deadline_secs
  change Keeps _ _ _ (ws (.elapsed_ms .last_send_at) >>= fun last => iterate n ⟨d, last, none, none, false⟩) _
  have hrest : KeepsProtocol (B := B) d (Inv d ⟨d, 0, none, none, false⟩)
      (ws (.elapsed_ms .last_send_at) >>= fun last => iterate n ⟨d, last, none, none, false⟩) (Looped d) := by
    apply keeps_clock hB
    intro now
    rw [Worker.hear_of_ignored rfl rfl]
    exact (keeps_iterate hB n _).mono (fun _ h => ⟨fun hsome => (nomatch hsome), h.sent now⟩) (fun _ _ h => h)
  have hand := hrest.and (keeps_spawnedAt start _)
  refine (hand.imp ?_).mono (fun _ h => h) ?_
  · intro s h start' hstart'
    obtain rfl : start = start' := by
      have heq := Option.some.inj (h.2.symm.trans hstart')
      exact (WsEvent.clock.inj heq).2
    exact h.1
  · intro r s h
    exact ⟨start, h.2, h.1⟩

structure ProtocolKept (deadline : UInt64) (history : List (WsEvent B)) : Prop where
  answered_once : (answered history).Nodup
  cancel_once : history.countP WsEvent.isReply ≤ 1
  first_answer : ∀ before n page after, history = before ++ .returned (.waiter n) page :: after →
    answered before = [] →
      (∃ result, before.findSome? (·.terminal deadline) = some result ∧
        wait_and_take_binary page = result.toResult) ∨
      (before.findSome? (·.terminal deadline) = none ∧ (∃ e, before.getLast? = some e ∧ e.isCancel = true) ∧
        wait_and_take_binary page = .Cancelled)
  every_answer : ∀ before n page after, history = before ++ .returned (.waiter n) page :: after →
    AnswerOk deadline before page
  binary : ∀ before n page after b, history = before ++ .returned (.waiter n) page :: after →
    wait_and_take_binary page = .Binary b → .read (.ok (.Binary b)) ∈ before
  quiet : ∀ before e after, history = before ++ e :: after → flapped before = true →
    (∀ result, e ≠ .pinged result) ∧ ∀ result, e ≠ .read result

theorem held_eq_findSome {d : UInt64} {history : List (WsEvent B)} (h : answered history = []) :
    held d history = history.findSome? (·.terminal d) := by
  induction history using List.reverseRecOn with
  | nil => rfl
  | append_singleton history e ih =>
    rw [answered_concat] at h
    obtain ⟨hbefore, hlast⟩ := List.append_eq_nil_iff.mp h
    have hnone : e.answered? = none := by simpa using hlast
    rw [held_concat, ih hbefore, hold, hnone, List.findSome?_append]
    cases he : e.terminal d <;> simp [he]

theorem terminal_binary {d : UInt64} {e : WsEvent B} {b : Bytes} {fits : b.length ≤ WS_PROVISION_MAX}
    (h : e.terminal d = some (.Binary b fits)) : e = .read (.ok (.Binary b)) := by
  unfold WsEvent.terminal at h
  split at h
  all_goals first
    | cases h
    | split_ifs at h
      all_goals cases h
  rfl

theorem held_binary {d : UInt64} {history : List (WsEvent B)} {b : Bytes} {fits : b.length ≤ WS_PROVISION_MAX}
    (h : held d history = some (.Binary b fits)) : .read (.ok (.Binary b)) ∈ history := by
  induction history using List.reverseRecOn with
  | nil => cases h
  | append_singleton history e ih =>
    rw [held_concat, hold] at h
    split_ifs at h
    cases hheld : held d history with
    | some result =>
      rw [hheld, Option.some_or] at h
      exact List.mem_append_left _ (ih (hheld.trans h))
    | none =>
      rw [hheld, Option.none_or] at h
      rw [terminal_binary h]
      exact List.mem_append_right _ (List.mem_singleton_self _)

theorem Honoured.nodup {d : UInt64} {history : List (WsEvent B)} (h : Honoured d history) :
    (answered history).Nodup := by
  induction history using List.reverseRecOn with
  | nil => exact List.nodup_nil
  | append_singleton history e ih =>
    obtain ⟨hbefore, he⟩ := h.of_concat
    rw [answered_concat]
    cases hanswer : e.answered? with
    | none => simpa using ih hbefore
    | some n =>
      have hnew : n ∉ answered history := by
        unfold WsEvent.answered? at hanswer
        split at hanswer
        · obtain rfl := Option.some.inj hanswer
          exact he.1
        · cases hanswer
      refine List.nodup_append.mpr ⟨ih hbefore, List.nodup_singleton n, ?_⟩
      intro a ha b hb hab
      rw [List.mem_singleton.mp hb] at hab
      exact hnew (hab ▸ ha)

theorem Honoured.replies {d : UInt64} {history : List (WsEvent B)} (h : Honoured d history) :
    history.countP WsEvent.isReply ≤ 1 := by
  induction history using List.reverseRecOn with
  | nil => exact Nat.zero_le 1
  | append_singleton history e ih =>
    obtain ⟨hbefore, he⟩ := h.of_concat
    rw [List.countP_append, List.countP_singleton]
    cases hreply : e.isReply with
    | false => simpa using ih hbefore
    | true =>
      have hnone : history.countP WsEvent.isReply = 0 := by
        unfold WsEvent.isReply at hreply
        split at hreply
        · have hbefore : ∀ x ∈ history, x.isReply = false := he
          rw [List.countP_eq_zero]
          simpa using hbefore
        · cases hreply
      rw [hnone]
      exact Nat.le_refl 1

theorem Honoured.kept {d : UInt64} {history : List (WsEvent B)} (h : Honoured d history) :
    ProtocolKept d history where
  answered_once := h.nodup
  cancel_once := h.replies
  first_answer := by
    intro before n page after hsplit hfirst
    rw [← held_eq_findSome hfirst]
    exact (h before _ after hsplit).2
  every_answer := fun before n page after hsplit => (h before _ after hsplit).2
  binary := by
    intro before n page after b hsplit hbinary
    rcases (h before _ after hsplit).2 with ⟨result, hheld, hresult⟩ | ⟨-, -, hcancelled⟩
    · cases result with
      | Binary b' fits =>
        rw [hbinary] at hresult
        obtain rfl := WsResult.Binary.inj hresult
        exact held_binary hheld
      | Closed => rw [hbinary] at hresult; cases hresult
      | TimedOut => rw [hbinary] at hresult; cases hresult
      | Cancelled => rw [hbinary] at hresult; cases hresult
      | Error => rw [hbinary] at hresult; cases hresult
    · rw [hbinary] at hcancelled
      cases hcancelled
  quiet := by
    intro before e after hsplit hflap
    have hallowed := h before e after hsplit
    constructor
    · rintro result rfl
      rw [show flapped before = false from hallowed] at hflap
      cases hflap
    · rintro result rfl
      rw [show flapped before = false from hallowed] at hflap
      cases hflap

/-- The worker keeps the protocol in every run, and once `Cancel` is sent it answers everyone and exits. -/
theorem worker_keeps_protocol (hB : B.Lawful) (deadline_secs : UInt64) :
    (∀ n o t, Passes (Wire.surroundings B) (worker_loop n deadline_secs) Wire.start o t →
      ∀ start, SpawnedAt start t → ProtocolKept (deadlineAfter start deadline_secs) t.history) ∧
    (∀ m n w s r t, Passes (Wire.surroundings B) (worker_loop m deadline_secs) Wire.start (some (some w)) s →
      s.cancelled = true → s.queue.length ≤ n → Passes (Wire.surroundings B) (iterate n w) s (some r) t →
        r = none ∧ (∀ k < t.waits, (answered t.history).count k = 1) ∧ t.history.countP WsEvent.isReply = 1) := by
  constructor
  · intro n o t hpass start hstart
    exact ((keeps_worker_loop hB n deadline_secs _ o t unread_start hpass).1 start hstart).kept
  · intro m n w s r t hpass hcancelled hlen hrest
    obtain ⟨start, -, hloop⟩ := (keeps_worker_loop hB m deadline_secs _ _ s unread_start hpass).2 _ rfl
    obtain ⟨msg, hmem, hsender⟩ := hloop.2.cancels.mp hcancelled
    have hid : msg.id = 1 := by
      have hfits := hloop.2.queued msg hmem
      rw [Envelope.Fits, hsender] at hfits
      exact hfits.1
    obtain ⟨front, back, hsplit⟩ := List.append_of_mem hmem
    have hahead : Ahead n s := by
      refine ⟨front, msg, back, hsplit, hid, ?_⟩
      rw [hsplit, List.length_append, List.length_cons] at hlen
      omega
    have hnone : r = none := (keeps_iterate_exits n w s _ t hahead hrest).2 r rfl
    subst hnone
    have hclosed : Closed _ t := (keeps_iterate hB n w s _ t hloop hrest).2 none rfl
    refine ⟨rfl, ?_, hclosed.reply⟩
    intro k hk
    rw [hclosed.all]
    exact List.count_eq_one_of_mem List.nodup_range (List.mem_range.mpr hk)

end Whole

section Scan

abbrev plainIpc : IpcCrate := ⟨WsResultBuf, .ok, .ok, fun _ new => .ok new⟩

theorem plainIpc_lawful : plainIpc.Lawful where
  into_buf := fun buf => ⟨buf, rfl, rfl⟩
  replace := fun _ _ new _ => ⟨new, rfl, rfl⟩

def scanHandler : Handler (wsSignature plainIpc) (Wire plainIpc × Unit) where
  answer c s :=
    match c with
    | .set_read_timeout => (.ok (), s)
    | .ticktimer_new => (.ok (), s)
    | .elapsed_ms use => ((0 : UInt64), s.1.record (.clock use 0), ())
    | .try_receive_message =>
      (.ok s.1.queue.head?, { s.1 with queue := s.1.queue.tail }.record (.received s.1.queue.head?), ())
    | .send_ping => (.ok (), s.1.record (.pinged (.ok ())), ())
    | .read => (.ok (.Binary [1, 2, 3]), s.1.record (.read (.ok (.Binary [1, 2, 3]))), ())
    | .return_memory sender page => ((), s.1.record (.returned sender page), ())
    | .return_scalar sender => (.ok (), s.1.record (.replied sender), ())
    | .close => ((), s.1.record .closed, ())
    | .destroy_server => (.ok (), s.1.record .destroyed, ())

theorem scanHandler_answers (c : WsCall plainIpc) (s : Wire plainIpc × Unit) :
    (Wire.surroundings plainIpc).answers c s.1 (scanHandler.answer c s).1 (scanHandler.answer c s).2.1 := by
  cases c with
  | ticktimer_new => exact ⟨rfl, rfl⟩
  | try_receive_message => exact ⟨rfl, rfl⟩
  | _ => rfl

def scanWire : Wire plainIpc :=
  ⟨[⟨.waiter 0, 0, some .empty⟩, ⟨.canceller, 1, none⟩], 1, true, []⟩

theorem scanWire_reached {α : Type} {p : WsM plainIpc α} {o : Option α} {t : Wire plainIpc}
    (h : Passes (Wire.surroundings plainIpc) p scanWire o t) :
    Passes (Wire.surroundings plainIpc) p Wire.start o t := by
  have hwait : Wire.Sends (B := plainIpc) Wire.start ⟨[⟨.waiter 0, 0, some .empty⟩], 1, false, []⟩ :=
    .wait rfl rfl rfl
  have hcancel : Wire.Sends (B := plainIpc) ⟨[⟨.waiter 0, 0, some .empty⟩], 1, false, []⟩ scanWire := .cancel rfl
  exact .move hwait (.move hcancel h)

def scanned : Option (Option (Worker plainIpc)) × Wire plainIpc × Unit :=
  (worker_loop 1 180).runFor scanHandler 20 (scanWire, ())

def scannedWorker : Worker plainIpc := ⟨180000, 0, none, none, false⟩

theorem scanned_value : scanned.1 = some (some scannedWorker) := rfl

def cancelledScan : Option (Option (Worker plainIpc)) × Wire plainIpc × Unit :=
  (iterate 1 scannedWorker).runFor scanHandler 20 scanned.2

theorem cancelledScan_value : cancelledScan.1 = some none := rfl

theorem scan_keeps_protocol :
    ProtocolKept (deadlineAfter 0 180) scanned.2.1.history ∧
      (answered cancelledScan.2.1.history).count 0 = 1 ∧ cancelledScan.2.1.history.countP WsEvent.isReply = 1 := by
  have hscan : Passes (Wire.surroundings plainIpc) (worker_loop 1 180) Wire.start (some (some scannedWorker))
      scanned.2.1 := by
    rw [← scanned_value]
    exact scanWire_reached (passes_runFor scanHandler_answers 20 _ (scanWire, ()))
  have hrest : Passes (Wire.surroundings plainIpc) (iterate 1 scannedWorker) scanned.2.1 (some none)
      cancelledScan.2.1 := by
    rw [← cancelledScan_value]
    exact passes_runFor scanHandler_answers 20 _ scanned.2
  obtain ⟨hkept, hanswers⟩ := worker_keeps_protocol plainIpc_lawful 180
  refine ⟨hkept 1 _ _ hscan 0 rfl, ?_⟩
  obtain ⟨-, hcount, hreply⟩ := hanswers 1 1 _ _ _ _ hscan rfl (Nat.le_refl 1) hrest
  exact ⟨hcount 0 Nat.one_pos, hreply⟩

end Scan

end XousSignalClient
