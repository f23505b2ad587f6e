import XousSignalClient.Conversation
import XousSignalClient.Peers.Records
import XousSignalClient.Threads.Jobs

namespace XousSignalClient

open Encoding Interaction Fallible Peers

abbrev Summaries := Pool pddbSignature Pddb Thread (Except Panic (Except IoError Unit))

def summaries (uuid : String) (p : Pddb) (ops : Thread → List PeerOp) : Summaries where
  state := p
  workers i := ⟨[], (ops i).map (fun op => (op.program uuid).run)⟩

def sequential (uuid : String) (p : Pddb) (order : List (Thread × PeerOp)) : Pddb :=
  order.foldl (fun p e => ((e.2.program uuid).exec Pddb.handler p).state) p

def Linearizable (uuid : String) (p : Pddb) (ops : Thread → List PeerOp) (P : Summaries) : Prop :=
  (∀ i, (P.workers i).todo = []) → ∃ order : List (Thread × PeerOp), (∀ i, committed i order = ops i) ∧
    P.state.value PEERS_DICT uuid = (sequential uuid p order).value PEERS_DICT uuid

theorem value_sequential (uuid : String) (p : Pddb) (order : List (Thread × PeerOp)) :
    (sequential uuid p order).value PEERS_DICT uuid =
      replay (PeerOp.effect uuid) (p.value PEERS_DICT uuid) order := by
  induction order generalizing p with
  | nil => rfl
  | cons e order ih =>
    have hvalue := (transaction_program uuid e.2).run p
    refine (ih _).trans ?_
    exact congrArg (fun v => replay (PeerOp.effect uuid) v order) hvalue

/-- In every run in which the record is not read while the other thread is about to delete or write it, the updates
are linearizable. -/
theorem updates_linearizable (uuid : String) (p : Pddb) (ops : Thread → List PeerOp) {P : Summaries}
    (hrun : Relation.ReflTransGen (Pool.CalmStep (summaryRegister uuid)) (summaries uuid p ops) P) :
    Linearizable uuid p ops P := by
  have hjobs : ∀ i, List.Forall₂ (fun op p => Transaction (summaryRegister uuid) (PeerOp.effect uuid op) .before p)
      (ops i) ((summaries uuid p ops).workers i).todo := by
    intro i
    change List.Forall₂ _ _ ((ops i).map _)
    rw [List.forall₂_map_right_iff]
    exact List.forall₂_same.mpr (fun op _ => transaction_program uuid op)
  obtain ⟨log, stage, rest, hserialized⟩ := Pool.serialized hjobs hrun
  intro hdone
  obtain ⟨hall, hvalue⟩ := hserialized.finished hdone
  refine ⟨log, hall, ?_⟩
  rw [value_sequential]
  exact hvalue

section Examples

def carolUuid : String := carolAddress.name

def carolStored : Pddb :=
  Pddb.put ∅ PEERS_DICT carolUuid (utf8 (PeerSummary.to_json ⟨carolUuid, "Carol", 1700000000000, "hello", 1⟩))

def carolOps : Thread → List PeerOp
  | .receive => [.record_inbound 1700000000001 "again" false]
  | .main => [.clear_unread]

def between : List Thread := [.main, .main, .receive] ++ List.replicate 4 .main ++ List.replicate 4 .receive

def receiveFirst : List (Thread × PeerOp) :=
  [(.receive, .record_inbound 1700000000001 "again" false), (.main, .clear_unread)]

def mainFirst : List (Thread × PeerOp) :=
  [(.main, .clear_unread), (.receive, .record_inbound 1700000000001 "again" false)]

theorem carol_orders {order : List (Thread × PeerOp)} (h : ∀ i, committed i order = carolOps i) :
    order = receiveFirst ∨ order = mainFirst := by
  unfold receiveFirst mainFirst
  have hmain : committed .main order = [.clear_unread] := h .main
  have hreceive : committed .receive order = [.record_inbound 1700000000001 "again" false] := h .receive
  rcases order with _ | ⟨⟨i, op⟩, _ | ⟨⟨j, op'⟩, _ | ⟨⟨k, op''⟩, rest⟩⟩⟩
  · cases hmain
  · cases i <;> simp [committed] at hmain hreceive
  · cases i <;> cases j <;> simp [committed] at hmain hreceive <;> simp [hmain, hreceive]
  · cases i <;> cases j <;> cases k <;> simp [committed] at hmain hreceive

theorem carol_between :
    let P := (summaries carolUuid carolStored carolOps).schedule Pddb.handler between
    (P.workers .main).todo.isEmpty ∧ (P.workers .receive).todo.isEmpty ∧
      P.state.value PEERS_DICT carolUuid ≠ (sequential carolUuid carolStored receiveFirst).value PEERS_DICT carolUuid ∧
      P.state.value PEERS_DICT carolUuid ≠ (sequential carolUuid carolStored mainFirst).value PEERS_DICT carolUuid := by
  decide +kernel

/-- The record is built anew: Carol's name is gone. -/
theorem name_lost : ¬∀ P, Relation.ReflTransGen (Pool.Step Pddb.handler) (summaries carolUuid carolStored carolOps) P →
    Linearizable carolUuid carolStored carolOps P := by
  intro h
  obtain ⟨hmain, hreceive, hreceiveFirst, hmainFirst⟩ := carol_between
  obtain ⟨order, horder, hvalue⟩ := h _ (Pool.reachable_schedule Pddb.handler _ between) (by
    intro i
    cases i with
    | main => exact List.isEmpty_iff.mp hmain
    | receive => exact List.isEmpty_iff.mp hreceive)
  rcases carol_orders horder with rfl | rfl
  · exact hreceiveFirst hvalue
  · exact hmainFirst hvalue

def mayChange : List (Program pddbSignature (Except Panic (Except IoError Unit))) → Bool
  | .ask (.delete _ _) _ :: _ => true
  | .ask (.write _ _ _) _ :: _ => true
  | _ => false

def other : Thread → Thread
  | .main => .receive
  | .receive => .main

def otherCalm (P : Summaries) (i : Thread) : Bool :=
  !(P.workers i).todo.isEmpty && !mayChange (P.workers (other i)).todo

theorem calm_of_otherCalm {uuid : String} (P : Summaries) (i : Thread) (h : otherCalm P i = true) :
    P.CalmStep (summaryRegister uuid) (P.advance Pddb.handler i) := by
  rw [otherCalm, Bool.and_eq_true] at h
  refine ⟨i, ?_, rfl, ?_⟩
  · intro hnil
    rw [hnil] at h
    cases h.1
  · rintro - j hj ⟨c, next, rest, hw, hchanges⟩
    have hother : other i = j := by
      cases i <;> cases j <;> first | rfl | exact absurd rfl hj
    have hcalm := h.2
    rw [hother, hw] at hcalm
    cases c with
    | delete dict key => cases hcalm
    | write dict key data => cases hcalm
    | _ => exact hchanges trivial

def oneByOne : List Thread := List.replicate 5 .receive ++ List.replicate 5 .main

theorem updates_kept :
    let P := (summaries carolUuid carolStored carolOps).schedule Pddb.handler oneByOne
    P.state.value PEERS_DICT carolUuid = stored ⟨carolUuid, "Carol", 1700000000001, "again", 0⟩ ∧
      Linearizable carolUuid carolStored carolOps P :=
  ⟨by decide +kernel, updates_linearizable carolUuid carolStored carolOps
    (Pool.reachable_calm calm_of_otherCalm _ oneByOne (by decide +kernel))⟩

end Examples

end XousSignalClient
