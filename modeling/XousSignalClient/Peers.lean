import XousSignalClient.Interaction.Ensures
import XousSignalClient.Outgoing.Recipient

namespace XousSignalClient

open Encoding Interaction

inductive Panic where
  | notCharBoundary (index : ℕ)
  deriving DecidableEq

def sliceTo (s : String) (n : ℕ) : Except Panic String :=
  match slicePrefix s.toList n with
  | some cs => .ok (String.ofList cs)
  | none => .error (.notCharBoundary n)

namespace Peers

def PEERS_DICT : String := "sigchat.peers"
def SNIPPET_MAX_BYTES : ℕ := 80

structure PeerSummary where
  uuid : String
  display_name : String
  last_ts : UInt64
  last_snippet : String
  unread : UInt32
  deriving DecidableEq

def hexDigit (n : ℕ) : Char := "0123456789abcdef".toList.getD n '0'

def escapeChar (c : Char) : List Char :=
  if c = '"' then ['\\', '"']
  else if c = '\\' then ['\\', '\\']
  else if c = '\n' then ['\\', 'n']
  else if c = '\r' then ['\\', 'r']
  else if c = '\t' then ['\\', 't']
  else if c.toNat < 0x20 then ['\\', 'u', '0', '0', hexDigit (c.toNat / 16), hexDigit (c.toNat % 16)]
  else [c]

def json_escape (s : String) : String := String.ofList (s.toList.flatMap escapeChar)

def unescapeChar : Char → List Char
  | '"' => ['"']
  | '\\' => ['\\']
  | 'n' => ['\n']
  | 'r' => ['\r']
  | 't' => ['\t']
  | other => ['\\', other]

def readEscaped : List Char → Option (List Char)
  | [] => none
  | '"' :: _ => some []
  | '\\' :: [] => none
  | '\\' :: c :: rest => (readEscaped rest).map (unescapeChar c ++ ·)
  | c :: rest => (readEscaped rest).map (c :: ·)

def extract_string_field (s key : String) : Option String := do
  let rest ← afterFirst ("\"" ++ key ++ "\":\"").toList s.toList
  let out ← readEscaped rest
  some (String.ofList out)

def extract_number_field (s key : String) : Option String := do
  let rest ← afterFirst ("\"" ++ key ++ "\":").toList s.toList
  let digits := rest.takeWhile Char.isDigit
  if digits.isEmpty then none else some (String.ofList digits)

def PeerSummary.to_json (summary : PeerSummary) : String :=
  "\x7b\"display_name\":\"" ++ json_escape summary.display_name ++ "\",\"last_ts\":" ++
    toString summary.last_ts.toNat ++ ",\"last_snippet\":\"" ++ json_escape summary.last_snippet ++
    "\",\"unread\":" ++ toString summary.unread.toNat ++ "\x7d"

def PeerSummary.from_json (uuid s : String) : PeerSummary where
  uuid := uuid
  display_name := (extract_string_field s "display_name").getD ""
  last_ts := UInt64.ofNat (((extract_number_field s "last_ts").bind (parseUnsigned (2 ^ 64))).getD 0)
  last_snippet := (extract_string_field s "last_snippet").getD ""
  unread := UInt32.ofNat (((extract_number_field s "unread").bind (parseUnsigned (2 ^ 32))).getD 0)

def boundaryBelow (cs : List Char) : ℕ → ℕ
  | 0 => 0
  | n + 1 => if (slicePrefix cs (n + 1)).isSome then n + 1 else boundaryBelow cs n

def truncate_snippet (s : String) : Except Panic String :=
  if (utf8 s).length ≤ SNIPPET_MAX_BYTES then .ok s
  else (sliceTo s (boundaryBelow s.toList SNIPPET_MAX_BYTES)).map (· ++ "…")

def read (uuid : String) : PddbProgram (Option PeerSummary) := do
  match ← pddb_get_string PEERS_DICT uuid with
  | none => pure none
  | some raw => pure (some (PeerSummary.from_json uuid raw))

def write_summary (summary : PeerSummary) : PddbProgram (Except IoError Unit) := do
  let _ ← pddbDelete PEERS_DICT summary.uuid
  match ← pddbWrite PEERS_DICT summary.uuid (utf8 summary.to_json) with
  | .error e => pure (.error e)
  | .ok () =>
    let _ ← pddbSync
    pure (.ok ())

def unknown (uuid : String) : PeerSummary := ⟨uuid, uuid, 0, "", 0⟩

def saturating_add_one (n : UInt32) : UInt32 := if n.toNat + 1 < 2 ^ 32 then n + 1 else n

def record_inbound (uuid : String) (ts : UInt64) (body : String) (is_focused : Bool) :
    Fallible pddbSignature Panic (Except IoError Unit) := do
  let found : Option PeerSummary ← ExceptT.lift (read uuid)
  let summary := found.getD (unknown uuid)
  let snippet ← Fallible.ofExcept (truncate_snippet body)
  let unread := if is_focused then summary.unread else saturating_add_one summary.unread
  ExceptT.lift (write_summary { summary with last_ts := ts, last_snippet := snippet, unread := unread })

def record_outbound (uuid : String) (ts : UInt64) (body : String) :
    Fallible pddbSignature Panic (Except IoError Unit) := do
  let found : Option PeerSummary ← ExceptT.lift (read uuid)
  let summary := found.getD (unknown uuid)
  let snippet ← Fallible.ofExcept (truncate_snippet body)
  ExceptT.lift (write_summary { summary with last_ts := ts, last_snippet := snippet })

def clear_unread (uuid : String) : PddbProgram (Except IoError Unit) := do
  match ← read uuid with
  | none => pure (.ok ())
  | some summary =>
    if summary.unread ≠ 0 then write_summary { summary with unread := 0 } else pure (.ok ())

def update (uuid : String) (f : PeerSummary → PeerSummary) : PddbProgram (Except IoError Unit) := do
  let found : Option PeerSummary ← read uuid
  write_summary (f (found.getD (unknown uuid)))

def PeerSummary.inbound (ts : UInt64) (snippet : String) (is_focused : Bool) (summary : PeerSummary) : PeerSummary :=
  { summary with
    last_ts := ts
    last_snippet := snippet
    unread := if is_focused then summary.unread else saturating_add_one summary.unread }

def PeerSummary.outbound (ts : UInt64) (snippet : String) (summary : PeerSummary) : PeerSummary :=
  { summary with
    last_ts := ts
    last_snippet := snippet }

theorem slicePrefix_boundary (cs : List Char) (n : ℕ) : (slicePrefix cs (boundaryBelow cs n)).isSome := by
  induction n with
  | zero => cases cs <;> rfl
  | succ n ih =>
    rw [boundaryBelow]
    split_ifs with h
    · exact h
    · exact ih

theorem truncate_snippet_ok (s : String) : ∃ snippet, truncate_snippet s = .ok snippet := by
  unfold truncate_snippet sliceTo
  split_ifs with h
  · exact ⟨s, rfl⟩
  · obtain ⟨cs, hcs⟩ := Option.isSome_iff_exists.mp (slicePrefix_boundary s.toList SNIPPET_MAX_BYTES)
    rw [hcs]
    exact ⟨_, rfl⟩

theorem record_inbound_eq {body snippet : String} (hsnippet : truncate_snippet body = .ok snippet) (uuid : String)
    (ts : UInt64) (is_focused : Bool) :
    record_inbound uuid ts body is_focused =
      ExceptT.lift (update uuid (PeerSummary.inbound ts snippet is_focused)) := by
  unfold record_inbound update
  rw [hsnippet]
  exact (monadLift_bind (n := Fallible pddbSignature Panic) (read uuid) _).symm

theorem record_outbound_eq {body snippet : String} (hsnippet : truncate_snippet body = .ok snippet) (uuid : String)
    (ts : UInt64) :
    record_outbound uuid ts body = ExceptT.lift (update uuid (PeerSummary.outbound ts snippet)) := by
  unfold record_outbound update
  rw [hsnippet]
  exact (monadLift_bind (n := Fallible pddbSignature Panic) (read uuid) _).symm

section Frame

theorem only_get_string (dict dict' key : String) :
    (pddb_get_string dict' key).Only (PddbCall.Touches dict) := by
  apply (Program.Only.perform (S := pddbSignature) (.read dict' key) trivial).bind
  intro r
  cases r <;> exact .ret _

theorem only_read (uuid : String) : (read uuid).Only (PddbCall.Touches PEERS_DICT) := by
  apply (only_get_string PEERS_DICT PEERS_DICT uuid).bind
  intro r
  cases r <;> exact .ret _

theorem only_write_summary (summary : PeerSummary) :
    (write_summary summary).Only (PddbCall.Touches PEERS_DICT) := by
  apply (Program.Only.perform (S := pddbSignature) (P := PddbCall.Touches PEERS_DICT)
    (.delete PEERS_DICT summary.uuid) rfl).bind
  intro _
  apply (Program.Only.perform (S := pddbSignature) (P := PddbCall.Touches PEERS_DICT)
    (.write PEERS_DICT summary.uuid (utf8 summary.to_json)) rfl).bind
  intro r
  cases r with
  | error e => exact .ret _
  | ok u =>
    apply (Program.Only.perform (S := pddbSignature) .sync trivial).bind
    exact fun _ => .ret _

theorem only_record_inbound (uuid : String) (ts : UInt64) (body : String) (is_focused : Bool) :
    (record_inbound uuid ts body is_focused).run.Only (PddbCall.Touches PEERS_DICT) := by
  apply Fallible.only_bind (Fallible.only_lift (only_read uuid))
  intro found
  apply Fallible.only_bind (.ret _)
  intro snippet
  exact Fallible.only_lift (only_write_summary _)

theorem only_record_outbound (uuid : String) (ts : UInt64) (body : String) :
    (record_outbound uuid ts body).run.Only (PddbCall.Touches PEERS_DICT) := by
  apply Fallible.only_bind (Fallible.only_lift (only_read uuid))
  intro found
  apply Fallible.only_bind (.ret _)
  intro snippet
  exact Fallible.only_lift (only_write_summary _)

theorem only_clear_unread (uuid : String) : (clear_unread uuid).Only (PddbCall.Touches PEERS_DICT) := by
  apply (only_read uuid).bind
  intro r
  cases r with
  | none => exact .ret _
  | some summary =>
    simp only
    split_ifs
    · exact only_write_summary _
    · exact .ret _

end Frame

theorem record_inbound_ok {σ : Type} (h : Handler pddbSignature σ) (s : σ) (uuid : String) (ts : UInt64)
    (body : String) (is_focused : Bool) :
    ∃ r, ((record_inbound uuid ts body is_focused).exec h s).value = .ok r := by
  obtain ⟨snippet, hsnippet⟩ := truncate_snippet_ok body
  change Fallible.Ensures h (record_inbound uuid ts body is_focused) s (fun v _ _ => ∃ r, v = .ok r)
  apply Fallible.ensures_lift_bind
  rw [hsnippet]
  apply Fallible.ensures_ofExcept_bind nofun
  rintro _ ⟨⟩
  rw [Fallible.Ensures, Fallible.exec_lift]
  exact ⟨_, rfl⟩

theorem record_outbound_ok {σ : Type} (h : Handler pddbSignature σ) (s : σ) (uuid : String) (ts : UInt64)
    (body : String) : ∃ r, ((record_outbound uuid ts body).exec h s).value = .ok r := by
  obtain ⟨snippet, hsnippet⟩ := truncate_snippet_ok body
  change Fallible.Ensures h (record_outbound uuid ts body) s (fun v _ _ => ∃ r, v = .ok r)
  apply Fallible.ensures_lift_bind
  rw [hsnippet]
  apply Fallible.ensures_ofExcept_bind nofun
  rintro _ ⟨⟩
  rw [Fallible.Ensures, Fallible.exec_lift]
  exact ⟨_, rfl⟩

end Peers

end XousSignalClient
