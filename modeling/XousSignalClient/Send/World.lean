import XousSignalClient.Interaction.Splitting
import XousSignalClient.Send.Runs

namespace XousSignalClient

open Encoding Interaction Fallible

structure World (ω : Type) where
  pddb : Pddb
  env : ω

/-- libsignal, the HTTP client, the clock and the sleeper. HTTP leaves PDDB alone, libsignal works on
it through the stores. -/
structure SendEnv (C : Crates) (ω : Type) where
  now : ω → ℕ × ω
  sleep : ℕ → ω → ω
  message_encrypt : Bytes → ProtocolAddress → ProtocolAddress → World ω →
    Except SignalProtocolError CiphertextMessage × World ω
  process_prekey_bundle : ProtocolAddress → C.PreKeyBundle → World ω →
    Except SignalProtocolError Unit × World ω
  put_json : String → String → SubmitMessagesRequest → World ω → Except String HttpResponse × ω
  get_json : String → String → World ω → Except String HttpResponse × ω

variable {C : Crates} {ω : Type}

def onPddb {α : Type} (p : PddbProgram α) (w : World ω) : α × World ω :=
  let o := p.run Pddb.handler w.pddb
  (o.value, ⟨o.state, w.env⟩)

def SendEnv.answer (env : SendEnv C ω) : (c : SendCall C) → World ω → c.Reply × World ω
  | .now, w => ((env.now w.env).1, ⟨w.pddb, (env.now w.env).2⟩)
  | .device_ids_for uuid, w => onPddb (PddbSessionStore.device_ids_for uuid) w
  | .load_session a, w => onPddb (PddbSessionStore.load_session C.toSessionFormat a) w
  | .message_encrypt ptext remote_address local_address, w =>
    env.message_encrypt ptext remote_address local_address w
  | .process_prekey_bundle remote_address bundle, w => env.process_prekey_bundle remote_address bundle w
  | .delete a, w => onPddb (PddbSessionStore.delete_session a) w
  | .put_json url auth body, w =>
    ((env.put_json url auth body w).1, ⟨w.pddb, (env.put_json url auth body w).2⟩)
  | .get_json url auth, w =>
    ((env.get_json url auth w).1, ⟨w.pddb, (env.get_json url auth w).2⟩)
  | .mismatch_from_slice body, w => (C.mismatch_from_slice body, w)
  | .sleep ms, w => ((), ⟨w.pddb, env.sleep ms w.env⟩)

def SendEnv.handler (env : SendEnv C ω) : Handler (sendSignature C) (World ω) := ⟨env.answer⟩

theorem answer_load_session (env : SendEnv C ω) (a : ProtocolAddress) (w : World ω) :
    env.answer (.load_session a) w =
      ((match w.pddb.session a with
        | some b => (C.deserialize b).map some
        | none => .ok none), w) := by
  obtain ⟨hv, hs⟩ := Pddb.run_load_session C.toSessionFormat a w.pddb
  exact Prod.ext hv (congrArg (fun p => (⟨p, w.env⟩ : World ω)) hs)

theorem answer_delete_session (env : SendEnv C ω) (a b : ProtocolAddress) (w : World ω) :
    (env.answer (.delete a) w).2.pddb.session b = if b = a then none else w.pddb.session b :=
  Pddb.session_delete_session a b w.pddb

end XousSignalClient
