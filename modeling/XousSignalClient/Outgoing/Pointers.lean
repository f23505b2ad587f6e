import XousSignalClient.Interaction.Latest
import XousSignalClient.Outgoing.Recipient

namespace XousSignalClient

open Encoding Interaction

inductive PointerOp where
  | set_current_recipient (addr : ProtocolAddress)
  | set_focused_peer (addr : ProtocolAddress)

namespace PointerOp

def key : PointerOp → String
  | .set_current_recipient _ => DEFAULT_PEER_KEY
  | .set_focused_peer _ => FOCUSED_PEER_KEY

def address : PointerOp → ProtocolAddress
  | .set_current_recipient addr => addr
  | .set_focused_peer addr => addr

def program : PointerOp → PddbProgram (Except OutgoingError Unit)
  | .set_current_recipient addr => XousSignalClient.set_current_recipient addr
  | .set_focused_peer addr => XousSignalClient.set_focused_peer addr

theorem program_eq (op : PointerOp) : op.program = setPeer op.key op.address := by
  cases op <;> rfl

def lastSet (ops : List PointerOp) (key : String) : Option ProtocolAddress :=
  (latest PointerOp.key ops key).map address

end PointerOp

section History

variable {p : Pddb} {ops : List PointerOp}

structure Unpointed (p : Pddb) : Prop where
  focused : p.text DIALOGUE_DICT FOCUSED_PEER_KEY = none
  default : p.text DIALOGUE_DICT DEFAULT_PEER_KEY = none

theorem text_program (op : PointerOp) (p : Pddb) (key : String) :
    (op.program.run Pddb.handler p).state.text DIALOGUE_DICT key =
      if op.key = key then some (peerJson op.address) else p.text DIALOGUE_DICT key := by
  rw [op.program_eq, text_setPeer]
  by_cases hkey : op.key = key
  · rw [if_pos hkey, if_pos (by rw [hkey])]
  · rw [if_neg hkey, if_neg (fun h => hkey (Prod.mk.inj h).2.symm)]

theorem text_after {key : String} (hnone : p.text DIALOGUE_DICT key = none) :
    (Program.after Pddb.handler PointerOp.program ops p).text DIALOGUE_DICT key =
      (PointerOp.lastSet ops key).map peerJson := by
  have hview := Program.view_after (fun q k => Pddb.text q DIALOGUE_DICT k)
    (fun op (_ : op ∈ ops) q k => text_program op q k) p key
  rw [hview, hnone, PointerOp.lastSet]
  cases latest PointerOp.key ops key <;> rfl

theorem name_of_lastSet (hnames : ∀ op ∈ ops, '"' ∉ op.address.name.toList) {key : String} {addr : ProtocolAddress}
    (h : PointerOp.lastSet ops key = some addr) : '"' ∉ addr.name.toList := by
  obtain ⟨op, hop, rfl⟩ := Option.map_eq_some_iff.mp h
  exact hnames op (latest_mem hop).1

theorem recipient_after (hp : Unpointed p) (hnames : ∀ op ∈ ops, '"' ∉ op.address.name.toList) :
    (Program.after Pddb.handler PointerOp.program ops p).recipient =
      match PointerOp.lastSet ops FOCUSED_PEER_KEY, PointerOp.lastSet ops DEFAULT_PEER_KEY with
      | some addr, _ => .ok addr
      | none, some addr => .ok addr
      | none, none => .error .NoRecipient := by
  rw [Pddb.recipient, text_after hp.focused, text_after hp.default]
  cases hfocused : PointerOp.lastSet ops FOCUSED_PEER_KEY with
  | some addr => exact parse_peerJson (name_of_lastSet hnames hfocused)
  | none =>
    cases hdefault : PointerOp.lastSet ops DEFAULT_PEER_KEY with
    | some addr => exact parse_peerJson (name_of_lastSet hnames hdefault)
    | none => rfl

theorem focused_after (hp : Unpointed p) (hnames : ∀ op ∈ ops, '"' ∉ op.address.name.toList) :
    (Program.after Pddb.handler PointerOp.program ops p).focused =
      (PointerOp.lastSet ops FOCUSED_PEER_KEY).map ProtocolAddress.name := by
  rw [Pddb.focused, text_after hp.focused]
  cases hfocused : PointerOp.lastSet ops FOCUSED_PEER_KEY with
  | some addr => exact uuid_of_peerJson (name_of_lastSet hnames hfocused)
  | none => rfl

end History

/-- The two pointers read back as they were last set; the focused peer goes before the most recent sender. -/
theorem recipient_pointers {p : Pddb} (hp : Unpointed p) {ops : List PointerOp}
    (hnames : ∀ op ∈ ops, '"' ∉ op.address.name.toList) :
    let q := Program.after Pddb.handler PointerOp.program ops p
    (current_recipient.run Pddb.handler q).value =
        (match PointerOp.lastSet ops FOCUSED_PEER_KEY, PointerOp.lastSet ops DEFAULT_PEER_KEY with
          | some addr, _ => .ok addr
          | none, some addr => .ok addr
          | none, none => .error .NoRecipient) ∧
      (focused_peer_uuid.run Pddb.handler q).value =
        (PointerOp.lastSet ops FOCUSED_PEER_KEY).map ProtocolAddress.name :=
  ⟨(run_current_recipient _).1.trans (recipient_after hp hnames),
    (run_focused_peer_uuid _).1.trans (focused_after hp hnames)⟩

def PointerOp.device : DeviceId := ⟨1, DeviceId.one_valid⟩

theorem recipient_pointers_mixed :
    let ops : List PointerOp :=
      [.set_focused_peer ⟨"device_id:1", PointerOp.device⟩, .set_current_recipient ⟨"uuid", PointerOp.device⟩]
    (current_recipient.run Pddb.handler (Program.after Pddb.handler PointerOp.program ops ∅)).value =
      .ok ⟨"device_id:1", PointerOp.device⟩ := by
  intro ops
  have hnames : ∀ op ∈ ops, '"' ∉ op.address.name.toList := by decide
  exact (recipient_pointers ⟨rfl, rfl⟩ hnames).1

end XousSignalClient
