import XousSignalClient.Provisioning.Protocol

namespace XousSignalClient

open Encoding Interaction

variable {B : IpcCrate} {d : UInt64} {w : Worker B} {s t : Wire B} {e : WsEvent B}

section Phases

abbrev KeepsProtocol (d : UInt64) {α : Type} (P : Wire B → Prop) (p : WsM B α) (Q : α → Wire B → Prop) : Prop :=
  Keeps (Wire.surroundings B) (fun s => Honoured d s.history) P p Q

theorem Inv.stable (hB : B.Lawful) : (Wire.surroundings B).Stable (Inv d w) := fun _ _ h hsend => h.sends hB hsend

theorem keeps_ws {α : Type} {c : WsCall B} {f : c.Reply → WsM B α} {P : Wire B → Prop}
    {M : c.Reply → Wire B → Prop} {Q : α → Wire B → Prop} (hstable : (Wire.surroundings B).Stable P)
    (hC : ∀ s, P s → Honoured d s.history) (hanswer : ∀ s r t, P s → (Wire.surroundings B).answers c s r t → M r t)
    (hnext : ∀ r, KeepsProtocol d (M r) (f r) Q) : KeepsProtocol d P (ws c >>= f) Q :=
  keeps_ask hstable hC hanswer hnext

theorem keeps_inv_ret (hB : B.Lawful) {α : Type} {a : α} {Q : α → Wire B → Prop} (hQ : ∀ s, Inv d w s → Q a s) :
    KeepsProtocol d (Inv d w) (pure a) Q :=
  keeps_ret (Inv.stable hB) (fun _ h => h.honoured) hQ

theorem keeps_hear (hB : B.Lawful) {α : Type} {c : WsCall B} {f : c.Reply → WsM B α} {Q : α → Wire B → Prop}
    (seen : c.Reply → WsEvent B)
    (hseen : ∀ s r t, (Wire.surroundings B).answers c s r t → t = s.record (seen r))
    (hanswer : ∀ r, (seen r).answered? = none) (hreply : ∀ r, (seen r).isReply = false)
    (hallowed : ∀ s r, Inv d w s → Allowed d s.history (seen r))
    (hnext : ∀ r, KeepsProtocol d (Inv d (w.hear d (seen r))) (f r) Q) :
    KeepsProtocol d (Inv d w) (ws c >>= f) Q := by
  refine keeps_ws (Inv.stable hB) (fun _ h => h.honoured) ?_ hnext
  intro s r t hs hr
  rw [hseen s r t hr]
  exact hs.observe (hanswer r) (hreply r) (hallowed s r hs)

theorem keeps_clock (hB : B.Lawful) {α : Type} (use : Clock) {f : UInt64 → WsM B α} {Q : α → Wire B → Prop}
    (hnext : ∀ now, KeepsProtocol d (Inv d (w.hear d (.clock use now))) (f now) Q) :
    KeepsProtocol d (Inv d w) (ws (.elapsed_ms use) >>= f) Q :=
  keeps_hear hB (fun now => .clock use now) (fun _ _ _ h => h) (fun _ => rfl) (fun _ => rfl)
    (fun _ _ _ => trivial) hnext

theorem keeps_checkDeadline (hB : B.Lawful) :
    KeepsProtocol d (Inv d w) (checkDeadline w) (fun w' s => Inv d w' s) := by
  unfold checkDeadline
  by_cases hpending : w.pending.isSome
  · rw [if_pos hpending]
    exact keeps_inv_ret hB (fun _ h => h)
  rw [if_neg hpending]
  have hnone : w.pending = none := by simpa using hpending
  apply keeps_clock hB
  intro now s o t hs
  have hdeadline : w.deadline_ms = d := hs.deadline
  by_cases hnow : w.deadline_ms ≤ now
  · have hhear : w.hear d (.clock .deadline now) = { w with pending := some .TimedOut } := by
      simp [Worker.hear, WsEvent.terminal, WsEvent.isFlap, hnone, ← hdeadline, hnow]
    rw [hhear] at hs
    rw [if_pos hnow]
    exact keeps_inv_ret hB (fun _ h => h) s o t hs
  · have hhear : w.hear d (.clock .deadline now) = w := by
      apply Worker.hear_of_ignored
      · simp [WsEvent.terminal, ← hdeadline, hnow]
      · rfl
    rw [hhear] at hs
    rw [if_neg hnow]
    exact keeps_inv_ret hB (fun _ h => h) s o t hs

theorem Inv.sent (h : Inv d w s) (now : UInt64) : Inv d { w with last_send_at := now } s :=
  ⟨h.deadline, h.ids, h.single, h.waiter, h.queued, h.cancels, h.cancel_last, h.held, h.flap, h.no_reply, h.honoured⟩

theorem keeps_keepalive (hB : B.Lawful) : KeepsProtocol d (Inv d w) (keepalive w) (fun w' s => Inv d w' s) := by
  unfold keepalive
  by_cases hidle : (w.flap_cancelled || w.pending.isSome) = true
  · rw [if_pos hidle]
    exact keeps_inv_ret hB (fun _ h => h)
  rw [if_neg hidle]
  obtain ⟨hflap, hnone⟩ : w.flap_cancelled = false ∧ w.pending = none := by simpa using hidle
  apply keeps_clock hB
  intro now
  rw [Worker.hear_of_ignored rfl rfl]
  by_cases hdue : KEEPALIVE_MS ≤ saturatingSub now w.last_send_at
  · rw [if_pos hdue]
    refine keeps_hear hB (fun r => .pinged r) (fun _ _ _ h => h) (fun _ => rfl) (fun _ => rfl) ?_ ?_
    · intro s r h
      exact h.flap.symm.trans hflap
    · rintro (err | ⟨⟩)
      · have hhear : w.hear d (.pinged (.error err)) = { w with pending := some .Error } := by
          simp [Worker.hear, WsEvent.terminal, WsEvent.isFlap, hnone]
        rw [hhear]
        exact keeps_inv_ret hB (fun _ h => h)
      · rw [Worker.hear_of_ignored rfl rfl]
        apply keeps_clock hB
        intro sent
        rw [Worker.hear_of_ignored rfl rfl]
        exact keeps_inv_ret hB (fun _ h => h.sent sent)
  · rw [if_neg hdue]
    exact keeps_inv_ret hB (fun _ h => h)

theorem keeps_readSocket (hB : B.Lawful) : KeepsProtocol d (Inv d w) (readSocket w) (fun w' s => Inv d w' s) := by
  unfold readSocket
  by_cases hidle : (w.flap_cancelled || w.pending.isSome) = true
  · rw [if_pos hidle]
    exact keeps_inv_ret hB (fun _ h => h)
  rw [if_neg hidle]
  obtain ⟨hflap, hnone⟩ : w.flap_cancelled = false ∧ w.pending = none := by simpa using hidle
  refine keeps_hear hB (fun r => .read r) (fun _ _ _ h => h) (fun _ => rfl) (fun _ => rfl) ?_ ?_
  · intro s r h
    exact h.flap.symm.trans hflap
  · intro (result : Except SocketError WsMessage)
    have hhear : w.hear d (.read result) = { w with pending := readResult result } := by
      simp only [Worker.hear, hnone, Option.none_or, WsEvent.isFlap, Bool.or_false]
      rw [terminal_read]
    rw [hhear]
    exact keeps_inv_ret hB (fun _ h => h)

theorem held_answered {n : ℕ} {page : B.Page} {history : List (WsEvent B)} :
    held d (history ++ [.returned (.waiter n) page]) = none := by
  rw [held_concat]
  rfl

theorem answered_answered {n : ℕ} {page : B.Page} {history : List (WsEvent B)} :
    answered (history ++ [.returned (.waiter n) page]) = answered history ++ [n] := by
  rw [answered_concat]
  rfl

theorem not_mem_answered {n : ℕ} {rest : List ℕ} {history : List (WsEvent B)} {k : ℕ}
    (h : answered history ++ n :: rest = List.range k) : n ∉ answered history := by
  have hnodup : (answered history ++ n :: rest).Nodup := by
    rw [h]
    exact List.nodup_range
  intro hmem
  exact (List.nodup_append.mp hnodup).2.2 n hmem n List.mem_cons_self rfl

theorem fill_buf_eq {msg : Envelope B} {page : B.Page} (hbody : msg.body = some page) (result : PendingResult) :
    fill_buf msg result = ws (.return_memory msg.sender (filledPage page result)) := by
  rw [fill_buf, hbody]
  rfl

theorem Inv.answer (hB : B.Lawful) (h : Inv d w s) {msg : Envelope B} {result : PendingResult} {page : B.Page}
    (hwaiter : w.waiter = some msg) (hbody : msg.body = some page) (hpending : w.pending = some result) :
    Inv d { w with pending := none, waiter := none } (s.record (.returned msg.sender (filledPage page result))) := by
  obtain ⟨hfits, n, hsender⟩ := h.waiter msg hwaiter
  rw [Envelope.Fits, hsender] at hfits
  obtain ⟨-, page', buf, hbody', horiginal⟩ := hfits
  rw [hbody] at hbody'
  obtain rfl := Option.some.inj hbody'
  have hparked : parked w = [n] := by simp [parked, hwaiter, waiting, hsender, Sender.waiter?]
  have hids := h.ids
  rw [hparked] at hids
  rw [hsender]
  have hallowed : Allowed d s.history (.returned (.waiter n) (filledPage page result)) :=
    ⟨not_mem_answered hids, .inl ⟨result, by rw [← h.held, hpending], filledPage_take hB horiginal result⟩⟩
  constructor
  · exact h.deadline
  · rw [Wire.record_history, answered_answered, List.append_assoc]
    exact hids
  · have hsingle := h.single
    rw [hparked] at hsingle
    simp only [List.cons_append, List.nil_append, List.length_cons] at hsingle
    change (waiting s.queue).length ≤ 1
    omega
  · intro m hm
    cases hm
  · exact h.queued
  · exact h.cancels
  · exact h.cancel_last
  · exact held_answered.symm
  · rw [Wire.record_history, flapped_concat, ← h.flap]
    exact (Bool.or_false _).symm
  · intro x hx
    rcases List.mem_append.mp hx with hx | hx
    · exact h.no_reply x hx
    · rw [List.mem_singleton.mp hx]
      rfl
  · exact every_concat h.honoured hallowed

def LoopInv (d : UInt64) (w : Worker B) (s : Wire B) : Prop :=
  (w.waiter.isSome → w.pending = none) ∧ Inv d w s

theorem keeps_deliver (hB : B.Lawful) : KeepsProtocol d (Inv d w) (deliver w) (fun w' s => LoopInv d w' s) := by
  cases hpending : w.pending with
  | none =>
    have hdeliver : deliver w = pure w := by
      unfold deliver
      rw [hpending]
    rw [hdeliver]
    exact keeps_inv_ret hB (fun _ h => ⟨fun _ => hpending, h⟩)
  | some result =>
    cases hwaiter : w.waiter with
    | none =>
      have hdeliver : deliver w = pure w := by
        unfold deliver
        rw [hpending, hwaiter]
      rw [hdeliver]
      refine keeps_inv_ret hB (fun _ h => ⟨fun hsome => ?_, h⟩)
      rw [hwaiter] at hsome
      cases hsome
    | some msg =>
      have hdeliver : deliver w = fill_buf msg result >>= fun _ => pure { w with pending := none, waiter := none } := by
        unfold deliver
        rw [hpending, hwaiter]
      rw [hdeliver]
      intro s o t hs
      obtain ⟨hfits, n, hsender⟩ := hs.waiter msg hwaiter
      rw [Envelope.Fits, hsender] at hfits
      obtain ⟨-, page, buf, hbody, -⟩ := hfits
      rw [fill_buf_eq hbody]
      refine keeps_ws (M := fun _ => Inv d { w with pending := none, waiter := none }) (Inv.stable hB)
        (fun _ h => h.honoured) ?_ ?_ s o t hs
      · rintro u r v hu rfl
        exact hu.answer hB hwaiter hbody hpending
      · intro _
        exact keeps_inv_ret hB (fun _ h => ⟨fun hsome => absurd hsome Bool.false_ne_true, h⟩)

end Phases

section Receiving

def Wire.unpop (s : Wire B) (msg : Envelope B) : Wire B := { s with queue := msg :: s.queue }

theorem Wire.Sends.unpop {msg : Envelope B} (h : Wire.Sends s t) : Wire.Sends (s.unpop msg) (t.unpop msg) := by
  cases h with
  | wait hfree hopen hpage => exact .wait hfree hopen hpage
  | cancel hopen => exact .cancel hopen
  | flap => exact .flap
  | unknown hsender hid => exact .unknown hsender hid

def InHand (d : UInt64) (w : Worker B) (msg : Envelope B) (s : Wire B) : Prop := Inv d w (s.unpop msg)

theorem InHand.stable (hB : B.Lawful) {msg : Envelope B} : (Wire.surroundings B).Stable (InHand d w msg) :=
  fun _ _ h hsend => Inv.sends hB h (Wire.Sends.unpop hsend)

theorem InHand.fits {msg : Envelope B} (h : InHand d w msg s) : msg.Fits := h.queued msg List.mem_cons_self

theorem InHand.drop {msg : Envelope B} (h : InHand d w msg s) (hsender : msg.sender = .stranger) : Inv d w s := by
  have hnone : waiting (msg :: s.queue) = waiting s.queue := by simp [waiting, hsender, Sender.waiter?]
  constructor
  · exact h.deadline
  · rw [← hnone]
    exact h.ids
  · rw [← hnone]
    exact h.single
  · exact h.waiter
  · exact fun x hx => h.queued x (List.mem_cons_of_mem _ hx)
  · rw [show s.cancelled = true ↔ _ from h.cancels]
    simp [Wire.unpop, hsender]
  · exact (List.pairwise_cons.mp h.cancel_last).2
  · exact h.held
  · exact h.flap
  · exact h.no_reply
  · exact h.honoured

theorem keeps_dropMessage (hB : B.Lawful) {msg : Envelope B} (hsender : msg.sender = .stranger) :
    KeepsProtocol d (Inv d w) (dropMessage msg) (fun _ => Inv d w) := by
  unfold dropMessage
  cases msg.body with
  | none => exact keeps_inv_ret hB (fun _ h => h)
  | some page =>
    refine keeps_ws (f := fun _ => pure ()) (M := fun _ => Inv d w) (Inv.stable hB) (fun _ h => h.honoured) ?_
      (fun _ => keeps_inv_ret hB (fun _ h => h))
    rintro u r v hu rfl
    have hobserve := hu.observe (e := .returned msg.sender page) (by rw [hsender]; rfl) rfl (by rw [hsender]; trivial)
    rwa [Worker.hear_of_ignored rfl rfl] at hobserve

theorem InHand.alone {msg : Envelope B} {n : ℕ} (h : InHand d w msg s) (hsender : msg.sender = .waiter n) :
    parked w = [] ∧ waiting s.queue = [] ∧ answered s.history ++ [n] = List.range s.waits := by
  have hcons : waiting (msg :: s.queue) = n :: waiting s.queue := by simp [waiting, hsender, Sender.waiter?]
  have hsingle := h.single
  have hids := h.ids
  simp only [Wire.unpop, hcons, List.length_append, List.length_cons] at hsingle hids
  have hparked : parked w = [] := List.length_eq_zero_iff.mp (by omega)
  have hqueue : waiting s.queue = [] := List.length_eq_zero_iff.mp (by omega)
  rw [hparked, hqueue] at hids
  exact ⟨hparked, hqueue, hids⟩

theorem waiter_of_parked (h : Inv d w s) (hparked : parked w = []) : w.waiter = none := by
  cases hwaiter : w.waiter with
  | none => rfl
  | some msg =>
    obtain ⟨-, n, hsender⟩ := h.waiter msg hwaiter
    simp [parked, hwaiter, waiting, hsender, Sender.waiter?] at hparked

theorem InHand.park {msg : Envelope B} {n : ℕ} (h : InHand d w msg s) (hsender : msg.sender = .waiter n) :
    Inv d { w with waiter := some msg } s := by
  obtain ⟨-, hqueue, hids⟩ := h.alone hsender
  have hparked : parked { w with waiter := some msg } = [n] := by simp [parked, waiting, hsender, Sender.waiter?]
  constructor
  · exact h.deadline
  · rw [hparked, hqueue]
    exact hids
  · rw [hparked, hqueue]
    exact Nat.le_refl 1
  · intro m hm
    obtain rfl := Option.some.inj hm
    exact ⟨h.fits, n, hsender⟩
  · exact fun x hx => h.queued x (List.mem_cons_of_mem _ hx)
  · rw [show s.cancelled = true ↔ _ from h.cancels]
    simp [Wire.unpop, hsender]
  · exact (List.pairwise_cons.mp h.cancel_last).2
  · exact h.held
  · exact h.flap
  · exact h.no_reply
  · exact h.honoured

theorem InHand.answer (hB : B.Lawful) {msg : Envelope B} {n : ℕ} {page : B.Page} {result : PendingResult}
    (h : InHand d w msg s) (hsender : msg.sender = .waiter n) (hbody : msg.body = some page)
    (hpending : w.pending = some result) :
    Inv d { w with pending := none } (s.record (.returned msg.sender (filledPage page result))) := by
  have hnone := waiter_of_parked h (h.alone hsender).1
  have hanswer := (h.park hsender).answer hB rfl hbody hpending
  have hsame : { w with pending := none, waiter := none } = { w with pending := none } := by rw [← hnone]
  rw [← hsame]
  exact hanswer

end Receiving

section Closing

structure Closing (d : UInt64) (s : Wire B) : Prop where
  cancelled : s.cancelled = true
  all : answered s.history = List.range s.waits
  no_reply : ∀ e ∈ s.history, e.isReply = false
  honoured : Honoured d s.history

structure Closed (d : UInt64) (s : Wire B) : Prop where
  cancelled : s.cancelled = true
  all : answered s.history = List.range s.waits
  reply : s.history.countP WsEvent.isReply = 1
  honoured : Honoured d s.history

theorem Wire.Sends.after_cancel (h : Wire.Sends s t) (hcancelled : s.cancelled = true) :
    t.cancelled = true ∧ t.waits = s.waits ∧ t.history = s.history := by
  cases h with
  | wait hfree hopen hpage =>
    rw [hopen] at hcancelled
    cases hcancelled
  | cancel hopen =>
    rw [hopen] at hcancelled
    cases hcancelled
  | flap => exact ⟨hcancelled, rfl, rfl⟩
  | unknown hsender hid => exact ⟨hcancelled, rfl, rfl⟩

theorem Closing.stable : (Wire.surroundings B).Stable (Closing d) := by
  intro s t h hsend
  obtain ⟨hcancelled, hwaits, hhistory⟩ := Wire.Sends.after_cancel hsend h.cancelled
  exact ⟨hcancelled, by rw [hhistory, hwaits]; exact h.all, by rw [hhistory]; exact h.no_reply,
    by rw [hhistory]; exact h.honoured⟩

theorem Closed.stable : (Wire.surroundings B).Stable (Closed d) := by
  intro s t h hsend
  obtain ⟨hcancelled, hwaits, hhistory⟩ := Wire.Sends.after_cancel hsend h.cancelled
  exact ⟨hcancelled, by rw [hhistory, hwaits]; exact h.all, by rw [hhistory]; exact h.reply,
    by rw [hhistory]; exact h.honoured⟩

theorem Closing.reply (h : Closing d s) (sender : Sender) : Closed d (s.record (.replied sender)) where
  cancelled := h.cancelled
  all := by
    rw [Wire.record_history, answered_concat]
    exact (List.append_nil _).trans h.all
  reply := by
    rw [Wire.record_history, List.countP_append, List.countP_eq_zero.mpr (by simpa using h.no_reply)]
    rfl
  honoured := every_concat h.honoured h.no_reply

theorem Closed.record (h : Closed d s) (hanswer : e.answered? = none) (hreply : e.isReply = false)
    (hallowed : Allowed d s.history e) : Closed d (s.record e) where
  cancelled := h.cancelled
  all := by
    rw [Wire.record_history, answered_concat, hanswer]
    exact (List.append_nil _).trans h.all
  reply := by
    rw [Wire.record_history, List.countP_append, h.reply, List.countP_singleton, hreply]
    rfl
  honoured := every_concat h.honoured hallowed

theorem InHand.no_waits {msg : Envelope B} (h : InHand d w msg s) (hsender : msg.sender = .canceller) :
    s.cancelled = true ∧ answered s.history ++ parked w = List.range s.waits := by
  have hqueue : waiting s.queue = [] := by
    rw [waiting, List.filterMap_eq_nil_iff]
    intro x hx
    rw [(List.pairwise_cons.mp h.cancel_last).1 x hx hsender]
    rfl
  have hnone : waiting (msg :: s.queue) = waiting s.queue := by simp [waiting, hsender, Sender.waiter?]
  have hids := h.ids
  simp only [Wire.unpop, hnone, hqueue, List.append_nil] at hids
  exact ⟨h.cancels.mpr ⟨msg, List.mem_cons_self, hsender⟩, hids⟩

theorem InHand.closing {msg : Envelope B} (h : InHand d w msg s) (hsender : msg.sender = .canceller)
    (hwaiter : w.waiter = none) : Closing d s := by
  obtain ⟨hcancelled, hids⟩ := h.no_waits hsender
  have hparked : parked w = [] := by simp [parked, hwaiter, waiting]
  rw [hparked, List.append_nil] at hids
  exact ⟨hcancelled, hids, h.no_reply, h.honoured⟩

theorem InHand.closing_waiter (hB : B.Lawful) {msg m : Envelope B} {page : B.Page} {n : ℕ}
    (h : InHand d w msg s) (hsender : msg.sender = .canceller)
    (hlast : s.history.getLast? = some (.received (some msg)))
    (hwaiter : w.waiter = some m) (hn : m.sender = .waiter n) (hbody : m.body = some page) (hidle : w.pending = none) :
    Closing d (s.record (.returned m.sender (filledPage page .Cancelled))) := by
  obtain ⟨hcancelled, hids⟩ := h.no_waits hsender
  have hparked : parked w = [n] := by simp [parked, hwaiter, waiting, hn, Sender.waiter?]
  rw [hparked] at hids
  have hfits := (h.waiter m hwaiter).1
  rw [Envelope.Fits, hn] at hfits
  obtain ⟨-, page', buf, hbody', horiginal⟩ := hfits
  rw [hbody] at hbody'
  obtain rfl := Option.some.inj hbody'
  have hcancel : (WsEvent.received (some msg)).isCancel = true := by
    have hmsg := h.fits
    rw [Envelope.Fits, hsender] at hmsg
    simp [WsEvent.isCancel, hmsg.1, WsServerOp.from_usize]
  rw [hn]
  constructor
  · exact hcancelled
  · rw [Wire.record_history, answered_answered]
    exact hids
  · intro x hx
    rcases List.mem_append.mp hx with hx | hx
    · exact h.no_reply x hx
    · rw [List.mem_singleton.mp hx]
      rfl
  · refine every_concat h.honoured ⟨not_mem_answered hids, .inr ⟨?_, ⟨_, hlast, hcancel⟩, ?_⟩⟩
    · exact h.held.symm.trans hidle
    · exact filledPage_take hB horiginal .Cancelled

end Closing

section Loop

def Received (d : UInt64) (w : Worker B) : Except String (Option (Envelope B)) → Wire B → Prop
  | .error _, _ => False
  | .ok none, s => Inv d w s
  | .ok (some msg), s =>
    s.history.getLast? = some (.received (some msg)) ∧ InHand d (w.hear d (.received (some msg))) msg s

def Serviced (d : UInt64) : Flow B → Wire B → Prop
  | .next w, s => Inv d w s
  | .exit w, s => w.waiter = none ∧ Closed d s

theorem keeps_closing {msg : Envelope B} (hfits : msg.Fits) (hsender : msg.sender = .canceller) :
    KeepsProtocol d (Closing d)
      (ws (.return_scalar msg.sender) >>= fun _ => dropMessage msg >>= fun _ => pure (.exit { w with waiter := none }))
      (Serviced d) := by
  rw [Envelope.Fits, hsender] at hfits
  have hdrop : dropMessage msg = pure () := by rw [dropMessage, hfits.2]
  rw [hdrop]
  refine keeps_ws (M := fun _ => Closed d) Closing.stable (fun _ h => h.honoured) ?_ ?_
  · rintro u r v hu rfl
    exact hu.reply msg.sender
  · intro _
    exact keeps_ret Closed.stable (fun _ h => h.honoured) (fun _ h => ⟨rfl, h⟩)

theorem sends_history (h : Wire.Sends s t) : t.history = s.history := by
  cases h <;> rfl

theorem Envelope.Fits.sender_of_id {msg : Envelope B} (h : msg.Fits) :
    (msg.id = 0 → ∃ n, msg.sender = .waiter n) ∧ (msg.id = 1 → msg.sender = .canceller) ∧
      (msg.id ≠ 0 → msg.id ≠ 1 → msg.sender = .stranger) := by
  rw [Envelope.Fits] at h
  cases hsender : msg.sender with
  | waiter n =>
    rw [hsender] at h
    exact ⟨fun _ => ⟨n, rfl⟩, fun h1 => by omega, fun h0 => absurd h.1 h0⟩
  | canceller =>
    rw [hsender] at h
    exact ⟨fun h0 => by omega, fun _ => rfl, fun _ h1 => absurd h.1 h1⟩
  | stranger =>
    rw [hsender] at h
    exact ⟨fun h0 => absurd h0 h.1, fun h1 => absurd h1 h.2, fun _ _ => rfl⟩

theorem id_of_op {n : ℕ} {op : WsServerOp} (h : WsServerOp.from_usize n = some op) :
    n = match op with
      | .WaitAndTakeBinary => 0
      | .Cancel => 1
      | .FlapCancel => 2 := by
  unfold WsServerOp.from_usize at h
  split at h
  · cases h
    rfl
  · cases h
    rfl
  · cases h
    rfl
  · cases h

theorem hear_of_op {msg : Envelope B} (hop : WsServerOp.from_usize msg.id ≠ some .FlapCancel) :
    w.hear d (.received (some msg)) = w := by
  apply Worker.hear_of_ignored
  · simp [WsEvent.terminal, hop]
  · simp [WsEvent.isFlap, hop]

theorem keeps_serveCancel (hB : B.Lawful) {msg : Envelope B} (hidle : w.waiter.isSome → w.pending = none)
    (hid : WsServerOp.from_usize msg.id = some .Cancel) :
    KeepsProtocol d (Received d w (.ok (some msg))) (serveCancel w msg) (Serviced d) := by
  have hhear : w.hear d (.received (some msg)) = w := hear_of_op (by simp [hid])
  have hstable : (Wire.surroundings B).Stable
      (fun s => s.history.getLast? = some (.received (some msg)) ∧ InHand d w msg s) := by
    intro u v hu hsend
    exact ⟨by rw [sends_history hsend]; exact hu.1, InHand.stable hB u v hu.2 hsend⟩
  intro s o t hs
  rw [Received, hhear] at hs
  have hfits := hs.2.fits
  have hsender : msg.sender = .canceller := hfits.sender_of_id.2.1 (id_of_op hid)
  unfold serveCancel cancelWaiter
  cases hwaiter : w.waiter with
  | none =>
    have hclosing : ∀ u, (u.history.getLast? = some (.received (some msg)) ∧ InHand d w msg u) → Closing d u :=
      fun u hu => hu.2.closing hsender hwaiter
    exact (keeps_closing hfits hsender).mono hclosing (fun _ _ h => h) s o t hs
  | some m =>
    obtain ⟨hm, n, hn⟩ := hs.2.waiter m hwaiter
    rw [Envelope.Fits, hn] at hm
    obtain ⟨-, page, buf, hbody, -⟩ := hm
    have hpending : w.pending = none := hidle (by rw [hwaiter]; rfl)
    simp only [fill_buf_eq hbody]
    refine keeps_ws (M := fun _ => Closing d) hstable (fun _ h => h.2.honoured) ?_
      (fun _ => keeps_closing hfits hsender) s o t hs
    rintro u r v hu rfl
    exact InHand.closing_waiter hB hu.2 hsender hu.1 hwaiter hn hbody hpending

theorem keeps_next (hB : B.Lawful) : KeepsProtocol d (Inv d w) (pure (.next w)) (Serviced d) :=
  keeps_inv_ret hB (fun _ h => h)

theorem keeps_inHand_drop (hB : B.Lawful) {msg : Envelope B} {w' : Worker B} (hsender : msg.sender = .stranger) :
    KeepsProtocol d (InHand d w' msg) (dropMessage msg >>= fun _ => pure (.next w')) (Serviced d) := by
  refine keeps_bind (M := fun _ => Inv d w') ?_ (fun _ => keeps_next hB)
  exact (keeps_dropMessage hB hsender).mono (fun _ h => h.drop hsender) (fun _ _ h => h)

theorem keeps_serveWait (hB : B.Lawful) {msg : Envelope B}
    (hop : WsServerOp.from_usize msg.id = some .WaitAndTakeBinary) :
    KeepsProtocol d (InHand d w msg) (serveMessage w msg) (Serviced d) := by
  intro s o t hs
  obtain ⟨n, hsender⟩ := hs.fits.sender_of_id.1 (id_of_op hop)
  have hfits := hs.fits
  rw [Envelope.Fits, hsender] at hfits
  obtain ⟨-, page, buf, hbody, -⟩ := hfits
  simp only [serveMessage, hop]
  cases hpending : w.pending with
  | some result =>
    simp only [fill_buf_eq hbody]
    refine keeps_ws (M := fun _ => Inv d { w with pending := none }) (Q := Serviced d) (InHand.stable hB)
      (fun _ h => h.honoured) ?_ (fun _ => keeps_next hB) s o t hs
    rintro u r v hu rfl
    exact hu.answer hB hsender hbody hpending
  | none =>
    have hwaiter := waiter_of_parked hs (hs.alone hsender).1
    have hpark : ∀ u, InHand d w msg u → Inv d { w with pending := none, waiter := some msg } u := by
      intro u hu
      rw [← hpending]
      exact hu.park hsender
    simp only [dropWaiter, hwaiter]
    exact (keeps_next hB).mono hpark (fun _ _ h => h) s o t hs

theorem keeps_serveMessage (hB : B.Lawful) {msg : Envelope B} (hidle : w.waiter.isSome → w.pending = none) :
    KeepsProtocol d (Received d w (.ok (some msg))) (serveMessage w msg) (Serviced d) := by
  intro s o t hs
  cases hop : WsServerOp.from_usize msg.id with
  | none =>
    rw [Received, hear_of_op (by simp [hop])] at hs
    have hsender : msg.sender = .stranger := by
      apply hs.2.fits.sender_of_id.2.2
      · intro h0
        rw [h0] at hop
        cases hop
      · intro h1
        rw [h1] at hop
        cases hop
    simp only [serveMessage, hop]
    exact keeps_inHand_drop hB hsender s o t hs.2
  | some op =>
    cases op with
    | WaitAndTakeBinary =>
      rw [Received, hear_of_op (by simp [hop])] at hs
      exact keeps_serveWait hB hop s o t hs.2
    | Cancel =>
      simp only [serveMessage, hop]
      exact keeps_serveCancel hB hidle hop s o t hs
    | FlapCancel =>
      have hhear : w.hear d (.received (some msg)) =
          { w with flap_cancelled := true, pending := w.pending.or (some .Cancelled) } := by
        simp [Worker.hear, WsEvent.terminal, WsEvent.isFlap, hop]
      rw [Received, hhear] at hs
      have hsender : msg.sender = .stranger := by
        have htwo : msg.id = 2 := id_of_op hop
        apply hs.2.fits.sender_of_id.2.2 <;> omega
      simp only [serveMessage, hop]
      exact keeps_inHand_drop hB hsender s o t hs.2

theorem keeps_serviceIpc (hB : B.Lawful) :
    KeepsProtocol d (LoopInv d w) (serviceIpc w) (Serviced d) := by
  refine keeps_pure (fun hidle => ?_)
  refine keeps_ws (c := .try_receive_message) (M := Received d w) (Inv.stable hB) (fun _ h => h.honoured) ?_ ?_
  · rintro s r t hs ⟨rfl, rfl⟩
    cases hqueue : s.queue with
    | nil =>
      have hempty : ({ s with queue := [] } : Wire B) = s := by rw [← hqueue]
      have hobserve := hs.observe (e := .received none) rfl rfl trivial
      rw [Worker.hear_of_ignored rfl rfl] at hobserve
      simp only [List.head?_nil, List.tail_nil, hempty]
      exact hobserve
    | cons msg rest =>
      have hsame : ({ s with queue := rest } : Wire B).unpop msg = s := by
        rw [Wire.unpop, ← hqueue]
      have hobserve := hs.observe (e := .received (some msg)) rfl rfl trivial
      rw [← hsame] at hobserve
      exact ⟨List.getLast?_concat, hobserve⟩
  rintro (err | (_ | msg))
  · exact fun s o t hs => hs.elim
  · exact keeps_inv_ret hB (fun _ h => h)
  · exact keeps_serveMessage hB hidle

def Looped (d : UInt64) : Option (Worker B) → Wire B → Prop
  | some w, s => LoopInv d w s
  | none, s => Closed d s

theorem keeps_shutdown (hwaiter : w.waiter = none) :
    KeepsProtocol d (Closed d) (shutdown w) (fun _ => Closed d) := by
  unfold shutdown dropWaiter
  rw [hwaiter]
  refine keeps_ws (c := .close) (M := fun _ => Closed d) Closed.stable (fun _ h => h.honoured) ?_ (fun _ => ?_)
  · rintro s r t hs rfl
    exact hs.record rfl rfl trivial
  refine keeps_ws (c := .destroy_server) (M := fun _ => Closed d) Closed.stable (fun _ h => h.honoured) ?_ (fun _ => ?_)
  · rintro s r t hs rfl
    exact hs.record rfl rfl trivial
  · exact keeps_ret Closed.stable (fun _ h => h.honoured) (fun _ h => h)

theorem LoopInv.stable (hB : B.Lawful) : (Wire.surroundings B).Stable (LoopInv d w) :=
  fun s t h hsend => ⟨h.1, Inv.stable hB s t h.2 hsend⟩

theorem keeps_iterate (hB : B.Lawful) (n : ℕ) (w : Worker B) :
    KeepsProtocol d (LoopInv d w) (iterate n w) (Looped d) := by
  induction n generalizing w with
  | zero => exact keeps_ret (LoopInv.stable hB) (fun _ h => h.2.honoured) (fun _ h => h)
  | succ n ih =>
    refine keeps_bind (keeps_serviceIpc hB) ?_
    rintro (w | w)
    · refine keeps_bind (keeps_checkDeadline hB) (fun w => ?_)
      refine keeps_bind (keeps_keepalive hB) (fun w => ?_)
      refine keeps_bind (keeps_readSocket hB) (fun w => ?_)
      exact keeps_bind (keeps_deliver hB) ih
    · refine keeps_pure (fun hwaiter => ?_)
      refine keeps_bind (keeps_shutdown hwaiter) (fun _ => ?_)
      exact keeps_ret Closed.stable (fun _ h => h.honoured) (fun _ h => h)

end Loop

end XousSignalClient
