import XousSignalClient.Interaction.History
import XousSignalClient.Interaction.Interference
import XousSignalClient.Provisioning.Worker

namespace XousSignalClient

open Encoding Interaction

variable {B : IpcCrate}

inductive WsEvent (B : IpcCrate) where
  | clock (use : Clock) (now : UInt64)
  | received (msg : Option (Envelope B))
  | pinged (result : Except SocketError Unit)
  | read (result : Except SocketError WsMessage)
  | returned (sender : Sender) (page : B.Page)
  | replied (sender : Sender)
  | closed
  | destroyed

namespace WsEvent

def answered? : WsEvent B → Option ℕ
  | .returned (.waiter n) _ => some n
  | _ => none

def isFlap : WsEvent B → Bool
  | .received (some msg) => WsServerOp.from_usize msg.id = some .FlapCancel
  | _ => false

def isCancel : WsEvent B → Bool
  | .received (some msg) => WsServerOp.from_usize msg.id = some .Cancel
  | _ => false

def isReply : WsEvent B → Bool
  | .replied _ => true
  | _ => false

def terminal (deadline : UInt64) : WsEvent B → Option PendingResult
  | .received (some msg) => if WsServerOp.from_usize msg.id = some .FlapCancel then some .Cancelled else none
  | .clock .deadline now => if deadline ≤ now then some .TimedOut else none
  | .pinged (.error _) => some .Error
  | .read (.ok (.Binary b)) => if h : b.length ≤ WS_PROVISION_MAX then some (.Binary b h) else some .Error
  | .read (.ok (.Close _)) => some .Closed
  | .read (.error e) => if is_timeout e then none else some .Error
  | _ => none

end WsEvent

def PendingResult.toResult : PendingResult → WsResult
  | .Binary b _ => .Binary b
  | .Closed => .Closed
  | .TimedOut => .TimedOut
  | .Cancelled => .Cancelled
  | .Error => .Error ⟨.Other, "worker error"⟩

section Histories

def answered (history : List (WsEvent B)) : List ℕ := history.filterMap WsEvent.answered?

def flapped (history : List (WsEvent B)) : Bool := history.any WsEvent.isFlap

def hold (deadline : UInt64) (result : Option PendingResult) (e : WsEvent B) : Option PendingResult :=
  if e.answered?.isSome then none else result.or (e.terminal deadline)

def held (deadline : UInt64) (history : List (WsEvent B)) : Option PendingResult :=
  history.foldl (hold deadline) none

/-- A wait is answered with the first terminal event, or with `Cancelled` by a `Cancel` that comes before any. -/
def AnswerOk (deadline : UInt64) (before : List (WsEvent B)) (page : B.Page) : Prop :=
  (∃ result, held deadline before = some result ∧ wait_and_take_binary page = result.toResult) ∨
    (held deadline before = none ∧ (∃ e, before.getLast? = some e ∧ e.isCancel = true) ∧
      wait_and_take_binary page = .Cancelled)

def Allowed (deadline : UInt64) (before : List (WsEvent B)) : WsEvent B → Prop
  | .returned (.waiter n) page => n ∉ answered before ∧ AnswerOk deadline before page
  | .replied _ => ∀ e ∈ before, e.isReply = false
  | .pinged _ => flapped before = false
  | .read _ => flapped before = false
  | _ => True

def Honoured (deadline : UInt64) (history : List (WsEvent B)) : Prop := Every (Allowed deadline) history

variable {d : UInt64} {history : List (WsEvent B)} {e : WsEvent B}

@[simp] theorem answered_concat : answered (history ++ [e]) = answered history ++ e.answered?.toList := by
  simp only [answered, List.filterMap_append]
  cases h : e.answered? <;> simp [h]

@[simp] theorem flapped_concat : flapped (history ++ [e]) = (flapped history || e.isFlap) := by simp [flapped]

@[simp] theorem held_concat : held d (history ++ [e]) = hold d (held d history) e := by simp [held]

end Histories

section Clients

structure Wire (B : IpcCrate) where
  queue : List (Envelope B)
  waits : ℕ
  cancelled : Bool
  history : List (WsEvent B)

namespace Wire

def start : Wire B := ⟨[], 0, false, []⟩

def record (s : Wire B) (e : WsEvent B) : Wire B := { s with history := s.history ++ [e] }

def push (s : Wire B) (msg : Envelope B) : Wire B := { s with queue := s.queue ++ [msg] }

@[simp] theorem record_queue (s : Wire B) (e : WsEvent B) : (s.record e).queue = s.queue := rfl
@[simp] theorem record_history (s : Wire B) (e : WsEvent B) : (s.record e).history = s.history ++ [e] := rfl

/-- One client waits again only when it has been answered, and cancels once and last; anyone may signal a flap or send
an unknown opcode. -/
inductive Sends : Wire B → Wire B → Prop where
  | wait {s : Wire B} {page : B.Page} (hfree : (answered s.history).length = s.waits) (hopen : s.cancelled = false)
      (hpage : B.into_buf .empty = .ok page) :
      Sends s { s.push ⟨.waiter s.waits, 0, some page⟩ with waits := s.waits + 1 }
  | cancel {s : Wire B} (hopen : s.cancelled = false) :
      Sends s { s.push ⟨.canceller, 1, none⟩ with cancelled := true }
  | flap {s : Wire B} : Sends s (s.push ⟨.stranger, 2, none⟩)
  | unknown {s : Wire B} {msg : Envelope B} (hsender : msg.sender = .stranger)
      (hid : WsServerOp.from_usize msg.id = none) : Sends s (s.push msg)

def surroundings (B : IpcCrate) : Surroundings (wsSignature B) (Wire B) where
  answers c s r t :=
    match c, r with
    | .set_read_timeout, _ => t = s
    | .ticktimer_new, r => r = .ok () ∧ t = s
    | .elapsed_ms use, now => t = s.record (.clock use now)
    | .try_receive_message, r =>
      r = .ok s.queue.head? ∧ t = { s with queue := s.queue.tail }.record (.received s.queue.head?)
    | .send_ping, result => t = s.record (.pinged result)
    | .read, result => t = s.record (.read result)
    | .return_memory sender page, _ => t = s.record (.returned sender page)
    | .return_scalar sender, _ => t = s.record (.replied sender)
    | .close, _ => t = s.record .closed
    | .destroy_server, _ => t = s.record .destroyed
  moves := Sends

end Wire

end Clients

section Answers

theorem fill_take (payload : WsResultBuf) (result : PendingResult) :
    (result.fill payload).take = result.toResult := by
  cases result with
  | Binary b fits =>
    have hlen : (UInt32.ofNat b.length).toNat = b.length := by
      have hmax : WS_PROVISION_MAX < UInt32.size := by decide
      exact UInt32.toNat_ofNat_of_lt' (by omega)
    have htake : (b ++ payload.bytes.drop b.length).take b.length = b := List.take_left
    simp only [PendingResult.fill, WsResultBuf.take, hlen, htake, if_pos, if_neg (Nat.not_lt.mpr fits)]
    rfl
  | Closed => rfl
  | TimedOut => rfl
  | Cancelled => rfl
  | Error => rfl

theorem filledPage_take (hB : B.Lawful) {page : B.Page} {buf : WsResultBuf} (hpage : B.to_original page = .ok buf)
    (result : PendingResult) : wait_and_take_binary (filledPage page result) = result.toResult := by
  obtain ⟨page', hreplace, horiginal⟩ := hB.replace page buf (result.fill buf) hpage
  rw [filledPage, hpage]
  simp only [hreplace]
  rw [wait_and_take_binary, horiginal]
  exact fill_take buf result

theorem terminal_read (d : UInt64) (result : Except SocketError WsMessage) :
    (WsEvent.read result : WsEvent B).terminal d = readResult result := by
  cases result with
  | error e => rfl
  | ok msg => cases msg <;> rfl

end Answers

section Invariant

def Sender.waiter? : Sender → Option ℕ
  | .waiter n => some n
  | _ => none

def waiting (queue : List (Envelope B)) : List ℕ := queue.filterMap (·.sender.waiter?)

def parked (w : Worker B) : List ℕ := waiting w.waiter.toList

def Envelope.Fits (msg : Envelope B) : Prop :=
  match msg.sender with
  | .waiter _ => msg.id = 0 ∧ ∃ page buf, msg.body = some page ∧ B.to_original page = .ok buf
  | .canceller => msg.id = 1 ∧ msg.body = none
  | .stranger => msg.id ≠ 0 ∧ msg.id ≠ 1

structure Inv (d : UInt64) (w : Worker B) (s : Wire B) : Prop where
  deadline : w.deadline_ms = d
  ids : answered s.history ++ (parked w ++ waiting s.queue) = List.range s.waits
  single : (parked w ++ waiting s.queue).length ≤ 1
  waiter : ∀ msg, w.waiter = some msg → msg.Fits ∧ ∃ n, msg.sender = .waiter n
  queued : ∀ msg ∈ s.queue, msg.Fits
  cancels : s.cancelled = true ↔ ∃ msg ∈ s.queue, msg.sender = .canceller
  cancel_last : s.queue.Pairwise (fun a b => a.sender = .canceller → b.sender = .stranger)
  held : w.pending = held d s.history
  flap : w.flap_cancelled = flapped s.history
  no_reply : ∀ e ∈ s.history, e.isReply = false
  honoured : Honoured d s.history

variable {d : UInt64} {w : Worker B} {s t : Wire B} {e : WsEvent B}

@[simp] theorem waiting_append (a b : List (Envelope B)) : waiting (a ++ b) = waiting a ++ waiting b := by
  simp [waiting]

def Worker.hear (d : UInt64) (w : Worker B) (e : WsEvent B) : Worker B :=
  { w with pending := w.pending.or (e.terminal d), flap_cancelled := w.flap_cancelled || e.isFlap }

theorem Worker.hear_of_ignored (hterminal : e.terminal d = none) (hflap : e.isFlap = false) : w.hear d e = w := by
  rw [Worker.hear, hterminal, hflap, Option.or_none, Bool.or_false]

theorem Inv.observe (h : Inv d w s) (hanswer : e.answered? = none) (hreply : e.isReply = false)
    (hallowed : Allowed d s.history e) : Inv d (w.hear d e) (s.record e) where
  deadline := h.deadline
  ids := by
    rw [Wire.record_history, answered_concat, hanswer, Option.toList_none, List.append_nil]
    exact h.ids
  single := h.single
  waiter := h.waiter
  queued := h.queued
  cancels := h.cancels
  cancel_last := h.cancel_last
  held := by
    rw [Wire.record_history, held_concat, hold, hanswer, ← h.held]
    rfl
  flap := by
    rw [Wire.record_history, flapped_concat, ← h.flap]
    rfl
  no_reply := by
    intro x hx
    rcases List.mem_append.mp hx with hx | hx
    · exact h.no_reply x hx
    · rw [List.mem_singleton.mp hx]
      exact hreply
  honoured := every_concat h.honoured hallowed

theorem Inv.push (h : Inv d w s) {msg : Envelope B} {n : ℕ} {c : Bool} (hfits : msg.Fits)
    (hlate : s.cancelled = true → msg.sender = .stranger)
    (hids : answered s.history ++ (parked w ++ (waiting s.queue ++ waiting [msg])) = List.range n)
    (hsingle : (parked w ++ (waiting s.queue ++ waiting [msg])).length ≤ 1)
    (hcancels : c = true ↔ s.cancelled = true ∨ msg.sender = .canceller) :
    Inv d w { s.push msg with waits := n, cancelled := c } where
  deadline := h.deadline
  ids := by
    rw [← waiting_append] at hids
    exact hids
  single := by
    rw [← waiting_append] at hsingle
    exact hsingle
  waiter := h.waiter
  queued := by
    intro x hx
    rcases List.mem_append.mp hx with hx | hx
    · exact h.queued x hx
    · rw [List.mem_singleton.mp hx]
      exact hfits
  cancels := by
    rw [hcancels, h.cancels]
    simp [Wire.push, or_and_right, exists_or]
  cancel_last := by
    refine List.pairwise_append.mpr ⟨h.cancel_last, List.pairwise_singleton _ _, ?_⟩
    intro a ha b hb hcancel
    rw [List.mem_singleton.mp hb]
    exact hlate (h.cancels.mpr ⟨a, ha, hcancel⟩)
  held := h.held
  flap := h.flap
  no_reply := h.no_reply
  honoured := h.honoured

theorem Inv.push_stranger (h : Inv d w s) {msg : Envelope B} (hsender : msg.sender = .stranger) (hfits : msg.Fits) :
    Inv d w (s.push msg) := by
  have hnone : waiting [msg] = [] := by simp [waiting, hsender, Sender.waiter?]
  refine h.push (n := s.waits) (c := s.cancelled) hfits (fun _ => hsender) ?_ ?_ ?_
  · rw [hnone, List.append_nil]
    exact h.ids
  · rw [hnone, List.append_nil]
    exact h.single
  · simp [hsender]

theorem Inv.sends (hB : B.Lawful) (h : Inv d w s) (hsend : Wire.Sends s t) : Inv d w t := by
  cases hsend with
  | wait hfree hopen hpage =>
    obtain ⟨page', hpage', horiginal⟩ := hB.into_buf .empty
    rw [hpage] at hpage'
    obtain rfl := Except.ok.inj hpage'
    have hnone : parked w ++ waiting s.queue = [] := by
      have hlen := congrArg List.length h.ids
      rw [List.length_append, List.length_range, hfree] at hlen
      exact List.length_eq_zero_iff.mp (by omega)
    refine h.push ⟨rfl, _, _, rfl, horiginal⟩ (fun hcancelled => ?_) ?_ ?_ ?_
    · rw [hopen] at hcancelled
      cases hcancelled
    · have hids := h.ids
      rw [hnone, List.append_nil] at hids
      rw [← List.append_assoc (parked w), hnone, List.range_succ, ← hids]
      rfl
    · rw [← List.append_assoc, hnone]
      exact Nat.le_refl 1
    · simp [Wire.push]
  | cancel hopen =>
    refine h.push ⟨rfl, rfl⟩ (fun hcancelled => ?_) ?_ ?_ ?_
    · rw [hopen] at hcancelled
      cases hcancelled
    · rw [show waiting [(⟨.canceller, 1, none⟩ : Envelope B)] = [] from rfl, List.append_nil]
      exact h.ids
    · rw [show waiting [(⟨.canceller, 1, none⟩ : Envelope B)] = [] from rfl, List.append_nil]
      exact h.single
    · simp
  | flap => exact h.push_stranger rfl ⟨by simp, by simp⟩
  | unknown hsender hid =>
    refine h.push_stranger hsender ?_
    rw [Envelope.Fits, hsender]
    constructor
    · intro h0
      rw [h0] at hid
      cases hid
    · intro h1
      rw [h1] at hid
      cases hid

end Invariant

end XousSignalClient
