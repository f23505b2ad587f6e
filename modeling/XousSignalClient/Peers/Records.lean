import XousSignalClient.Interaction.Transactions
import XousSignalClient.Peers

namespace XousSignalClient

open Encoding Interaction Fallible

namespace Peers

inductive PeerOp where
  | record_inbound (ts : UInt64) (body : String) (is_focused : Bool)
  | record_outbound (ts : UInt64) (body : String)
  | clear_unread

def PeerOp.program (uuid : String) : PeerOp → Fallible pddbSignature Panic (Except IoError Unit)
  | .record_inbound ts body is_focused => Peers.record_inbound uuid ts body is_focused
  | .record_outbound ts body => Peers.record_outbound uuid ts body
  | .clear_unread => ExceptT.lift (Peers.clear_unread uuid)

def summaryRegister (uuid : String) : Register Pddb.handler (Option Bytes) where
  value := fun p => p.value PEERS_DICT uuid
  Reads := fun c => c = .read PEERS_DICT uuid
  Changes := fun c => ¬c.Leaves PEERS_DICT uuid
  value_other := fun hc => Pddb.value_answer_of_leaves (not_not.mp hc) _

def found (uuid : String) (stored : Option Bytes) : Option PeerSummary :=
  (stored.bind from_utf8).map (PeerSummary.from_json uuid)

def snippetOf (body : String) : String :=
  match truncate_snippet body with
  | .ok snippet => snippet
  | .error _ => ""

def stored (summary : PeerSummary) : Option Bytes := some (utf8 summary.to_json)

def cleared (uuid : String) (x : Option Bytes) : Option Bytes :=
  match found uuid x with
  | none => x
  | some summary => if summary.unread ≠ 0 then stored { summary with unread := 0 } else x

def PeerOp.effect (uuid : String) : PeerOp → Option Bytes → Option Bytes
  | .record_inbound ts body is_focused, x =>
    stored (((found uuid x).getD (unknown uuid)).inbound ts (snippetOf body) is_focused)
  | .record_outbound ts body, x => stored (((found uuid x).getD (unknown uuid)).outbound ts (snippetOf body))
  | .clear_unread, x => cleared uuid x

section Transactions

variable {uuid : String} {α : Type} {f : Option Bytes → Option Bytes} {x : Option Bytes}

theorem uuid_found {summary : PeerSummary} (h : found uuid x = some summary) : summary.uuid = uuid := by
  obtain ⟨raw, -, rfl⟩ := Option.map_eq_some_iff.mp h
  rfl

theorem uuid_getD (uuid : String) (x : Option Bytes) : ((found uuid x).getD (unknown uuid)).uuid = uuid := by
  cases h : found uuid x with
  | none => rfl
  | some summary => exact uuid_found h

theorem read_bind (k : Option PeerSummary → PddbProgram α) :
    read uuid >>= k =
      .ask (S := pddbSignature) (.read PEERS_DICT uuid) (fun r => k (found uuid (Except.toOption r))) := by
  unfold read found
  rw [Program.bind_assoc, pddb_get_string_bind]
  refine congrArg (Program.ask (S := pddbSignature) (.read PEERS_DICT uuid)) (funext fun r => ?_)
  cases (Except.toOption r).bind from_utf8 <;> rfl

theorem toOption_read (p : Pddb) (dict key : String) :
    Except.toOption (Pddb.answer (.read dict key) p).1 = p.value dict key := by
  cases h : p.value dict key <;> simp [Pddb.answer, h, Except.toOption]

theorem transaction_write {summary : PeerSummary} {k : Except IoError Unit → PddbProgram α}
    (huuid : summary.uuid = uuid) (hf : f x = stored summary)
    (hk : Transaction (summaryRegister uuid) f .after (k (.ok ()))) :
    Transaction (summaryRegister uuid) f (.inside x x) (write_summary summary >>= k) := by
  subst huuid
  refine .change (fun _ => .inside x none) nofun (fun h => h rfl) ?_ ?_
  · intro s _
    refine .inl (congrArg (Progress.inside x) ?_)
    exact ((Pddb.answer_delete s _ _ _ _).trans (Pddb.value_remove s _ _)).symm
  · intro s _
    refine .change (fun _ => .after) nofun (fun h => h rfl) ?_ ?_
    · intro s hs
      refine .inr ⟨rfl, ?_⟩
      have hnone : s.value PEERS_DICT summary.uuid = none := hs
      refine (Pddb.value_put s _ _ _).trans ?_
      rw [hnone, Option.getD_none, Pddb.overlay_nil, hf]
      rfl
    · intro s _
      exact .quiet not_false nofun (fun h => h trivial) (fun _ => hk)

theorem transaction_read {k : Option PeerSummary → PddbProgram α} (stage : Option Bytes → Progress (Option Bytes))
    (hstage : ∀ x, stage x = .inside x x ∨ stage x = .after ∧ f x = x)
    (hk : ∀ x, Transaction (summaryRegister uuid) f (stage x) (k (found uuid x))) :
    Transaction (summaryRegister uuid) f .before (read uuid >>= k) := by
  rw [read_bind]
  refine .read (fun s => stage (s.value PEERS_DICT uuid)) rfl (fun h => h trivial) (fun s => hstage _) ?_
  intro s
  have hread := congrArg (fun v => Transaction (summaryRegister uuid) f (stage (s.value PEERS_DICT uuid))
    (k (found uuid v))) (toOption_read s PEERS_DICT uuid)
  exact hread.mpr (hk _)

theorem transaction_update (g : PeerSummary → PeerSummary) (hg : ∀ summary, (g summary).uuid = summary.uuid) :
    Transaction (summaryRegister uuid) (fun x => stored (g ((found uuid x).getD (unknown uuid)))) .before
      (ExceptT.lift (update uuid g) : Fallible pddbSignature Panic (Except IoError Unit)).run := by
  rw [ExceptT.run_lift, map_eq_pure_bind, update, bind_assoc]
  refine transaction_read (fun x => .inside x x) (fun _ => .inl rfl) (fun x => ?_)
  exact transaction_write ((hg _).trans (uuid_getD uuid x)) rfl (.done _)

theorem transaction_clear_unread : Transaction (summaryRegister uuid) (cleared uuid) .before
    (ExceptT.lift (clear_unread uuid) : Fallible pddbSignature Panic (Except IoError Unit)).run := by
  rw [ExceptT.run_lift, map_eq_pure_bind, clear_unread, bind_assoc]
  refine transaction_read (fun x => match found uuid x with
    | none => .after
    | some summary => if summary.unread ≠ 0 then .inside x x else .after) ?_ ?_
  · intro x
    unfold cleared
    cases found uuid x with
    | none => exact .inr ⟨rfl, rfl⟩
    | some summary =>
      by_cases hunread : summary.unread ≠ 0
      · exact .inl (if_pos hunread)
      · exact .inr ⟨if_neg hunread, if_neg hunread⟩
  · intro x
    cases hfound : found uuid x with
    | none => exact .done _
    | some summary =>
      by_cases hunread : summary.unread ≠ 0
      · simp only [if_pos hunread]
        have huuid : summary.uuid = uuid := uuid_found hfound
        refine transaction_write huuid ?_ (.done _)
        simp only [cleared, hfound, if_pos hunread]
      · simp only [if_neg hunread]
        exact .done _

theorem transaction_program (uuid : String) (op : PeerOp) :
    Transaction (summaryRegister uuid) (op.effect uuid) .before (op.program uuid).run := by
  cases op with
  | record_inbound ts body is_focused =>
    obtain ⟨snippet, hsnippet⟩ := truncate_snippet_ok body
    have hof : snippetOf body = snippet := by
      rw [snippetOf, hsnippet]
    rw [PeerOp.program, record_inbound_eq hsnippet, ← hof]
    exact transaction_update _ (fun _ => rfl)
  | record_outbound ts body =>
    obtain ⟨snippet, hsnippet⟩ := truncate_snippet_ok body
    have hof : snippetOf body = snippet := by
      rw [snippetOf, hsnippet]
    rw [PeerOp.program, record_outbound_eq hsnippet, ← hof]
    exact transaction_update _ (fun _ => rfl)
  | clear_unread => exact transaction_clear_unread

end Transactions

end Peers

end XousSignalClient
