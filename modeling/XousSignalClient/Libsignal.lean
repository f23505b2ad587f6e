import XousSignalClient.SessionStore

namespace XousSignalClient

open Encoding Interaction

/-- How libsignal uses a session store: load the record, compute on it, store the advanced record. -/
def updateSession (F : SessionFormat) {α : Type} (a : ProtocolAddress)
    (advance : F.SessionRecord → Except SignalProtocolError (α × F.SessionRecord)) :
    PddbProgram (Except SignalProtocolError α) := do
  match ← PddbSessionStore.load_session F a with
  | .error e => pure (.error e)
  | .ok none => pure (.error (.Other "SessionNotFound"))
  | .ok (some record) =>
    match advance record with
    | .error e => pure (.error e)
    | .ok (out, record') =>
      match ← PddbSessionStore.store_session F a record' with
      | .error e => pure (.error e)
      | .ok () => pure (.ok out)

theorem only_updateSession {F : SessionFormat} {α : Type} {a : ProtocolAddress} {dict key : String}
    (hne : (dict, key) ≠ (SESSION_DICT, a.key))
    (advance : F.SessionRecord → Except SignalProtocolError (α × F.SessionRecord)) :
    (updateSession F a advance).Only (PddbCall.Leaves dict key) := by
  apply (only_load_session F a dict key).bind
  intro r
  cases r with
  | error e => exact .ret _
  | ok found =>
    cases found with
    | none => exact .ret _
    | some record =>
      simp only
      cases advance record with
      | error e => exact .ret _
      | ok next =>
        simp only
        apply (only_store_session F hne next.2).bind
        intro w
        cases w <;> exact .ret _

end XousSignalClient
