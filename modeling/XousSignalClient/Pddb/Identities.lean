import XousSignalClient.Interaction.Latest
import XousSignalClient.Pddb.Calls

namespace XousSignalClient

open Encoding Interaction

inductive Direction where
  | Sending
  | Receiving

namespace Calls

variable (I : IdentityFormat) (a : ProtocolAddress)

def is_trusted_over (identity : I.IdentityKey) : Except IoError Bytes → Except SignalProtocolError Bool
  | .ok existing_bytes =>
    match I.decode existing_bytes with
    | .ok existing => .ok (decide (existing = identity))
    | .error e => .error e
  | .error (.notFound _) => .ok true
  | .error (.other t) => .error (io_err_to_signal (.other t) "read failed")

def is_trusted_identity (identity : I.IdentityKey) (_direction : Direction) :
    FileProgram (Except SignalProtocolError Bool) := do
  let existing : Except IoError Bytes ← (FileCall.read IDENTITY_DICT a.key).ask
  pure (is_trusted_over I identity existing)

def get_identity_over : Except IoError Bytes → Except SignalProtocolError (Option I.IdentityKey)
  | .ok buf => (I.decode buf).map some
  | .error (.notFound _) => .ok none
  | .error (.other t) => .error (io_err_to_signal (.other t) "read failed")

def get_identity : FileProgram (Except SignalProtocolError (Option I.IdentityKey)) := do
  let existing : Except IoError Bytes ← (FileCall.read IDENTITY_DICT a.key).ask
  pure (get_identity_over I existing)

end Calls

namespace Pddb

variable (I : IdentityFormat) (p : Pddb) (a : ProtocolAddress)

def identity : Option (Except SignalProtocolError I.IdentityKey) := (p.value IDENTITY_DICT a.key).map I.decode

def found (dict key : String) : Except IoError Bytes :=
  match p.value dict key with
  | some b => .ok b
  | none => .error (.notFound "key not found")

theorem answer_read_none (dict key : String) :
    CallFaults.none.answer (.read dict key) p = (p.found dict key, p) := by
  unfold CallFaults.answer CallFaults.none found
  cases h : p.value dict key with
  | none =>
    simp only [answer, h]
    rfl
  | some b =>
    simp only [answer, h]
    rfl

theorem run_read_ask {α : Type} (k : Except IoError Bytes → FileProgram α) (dict key : String) :
    let o := ((FileCall.read dict key).ask >>= k).run CallFaults.none.handler p
    o.value = ((k (p.found dict key)).run CallFaults.none.handler p).value ∧
      o.state = ((k (p.found dict key)).run CallFaults.none.handler p).state := by
  have hread := answer_read_none p dict key
  intro o
  have hvalue : o.value = ((k (CallFaults.none.answer (.read dict key) p).1).run CallFaults.none.handler
      (CallFaults.none.answer (.read dict key) p).2).value := rfl
  have hstate : o.state = ((k (CallFaults.none.answer (.read dict key) p).1).run CallFaults.none.handler
      (CallFaults.none.answer (.read dict key) p).2).state := rfl
  rw [hread] at hvalue hstate
  exact ⟨hvalue, hstate⟩

theorem run_is_trusted_identity (key : I.IdentityKey) (direction : Direction) :
    ((Calls.is_trusted_identity I a key direction).run CallFaults.none.handler p).value =
      match p.identity I a with
      | none => .ok true
      | some (.ok existing) => .ok (decide (existing = key))
      | some (.error e) => .error e := by
  refine (run_read_ask p (fun r => pure (Calls.is_trusted_over I key r)) IDENTITY_DICT a.key).1.trans ?_
  unfold found identity
  cases p.value IDENTITY_DICT a.key with
  | none => rfl
  | some b =>
    simp only [Program.pure_eq, Program.run_ret, Calls.is_trusted_over, Option.map_some]
    cases I.decode b <;> rfl

theorem run_get_identity :
    ((Calls.get_identity I a).run CallFaults.none.handler p).value =
      match p.identity I a with
      | none => .ok none
      | some r => r.map some := by
  refine (run_read_ask p (fun r => pure (Calls.get_identity_over I r)) IDENTITY_DICT a.key).1.trans ?_
  unfold found identity
  cases p.value IDENTITY_DICT a.key <;> rfl

theorem identity_overwrite (key : I.IdentityKey) (change : IdentityChange) (b : ProtocolAddress) :
    let o := (Calls.overwrite_identity I a key change).run CallFaults.none.handler p
    o.value = .ok change ∧
      o.state.identity I b = if a = b then some (I.decode (I.serialize key)) else p.identity I b := by
  obtain ⟨hvalue, hstate⟩ := CallFaults.run_write_binary_none p IDENTITY_DICT a.key (I.serialize key)
  obtain ⟨hok, hkeys⟩ := run_write_binary p IDENTITY_DICT a.key (I.serialize key)
  intro o
  constructor
  · refine (congrArg Outcome.value (Program.run_bind _ _ _ p)).trans ?_
    rw [hvalue, hok]
    rfl
  · have hwritten := CallFaults.run_overwrite_identity CallFaults.none p I a key change
    unfold identity
    rw [hwritten, hstate, hkeys]
    by_cases hab : a = b
    · subst hab
      simp
    · rw [if_neg hab, if_neg (fun h => hab (key_injective (Prod.mk.inj h).2.symm))]

def changeOf (stored : Option (Except SignalProtocolError I.IdentityKey)) (key : I.IdentityKey) : IdentityChange :=
  match stored with
  | none => .NewOrUnchanged
  | some (.ok existing) => if existing = key then .NewOrUnchanged else .ReplacedExisting
  | some (.error _) => .ReplacedExisting

theorem run_save_identity {key : I.IdentityKey} (hkey : I.decode (I.serialize key) = .ok key) (b : ProtocolAddress) :
    let o := (Calls.save_identity I a key).run CallFaults.none.handler p
    o.value = .ok (changeOf I (p.identity I a) key) ∧
      o.state.identity I b = if a = b then some (.ok key) else p.identity I b := by
  have hover := fun change => identity_overwrite I p a key change b
  rw [hkey] at hover
  obtain ⟨hvalue, hstate⟩ := run_read_ask p (Calls.save_identity_over I a key) IDENTITY_DICT a.key
  intro o
  rw [show o.value = _ from hvalue, show o.state = _ from hstate]
  have hidentity : p.identity I a = (p.value IDENTITY_DICT a.key).map I.decode := rfl
  unfold found
  cases hstored : p.value IDENTITY_DICT a.key with
  | none =>
    rw [hidentity, hstored]
    exact hover .NewOrUnchanged
  | some bytes =>
    rw [hstored, Option.map_some] at hidentity
    rw [hidentity]
    simp only [Calls.save_identity_over]
    cases hdecode : I.decode bytes with
    | error e => exact hover .ReplacedExisting
    | ok existing =>
      by_cases hsame : existing = key
      · subst hsame
        simp only [if_true, changeOf]
        refine ⟨rfl, ?_⟩
        by_cases hab : a = b
        · subst hab
          rw [if_pos rfl, ← hdecode, ← hidentity]
          rfl
        · rw [if_neg hab]
          rfl
      · simp only [changeOf, if_neg hsame]
        exact hover .ReplacedExisting

end Pddb

section History

variable {I : IdentityFormat}

def lastSaved (ops : List (ProtocolAddress × I.IdentityKey)) (a : ProtocolAddress) : Option I.IdentityKey :=
  (latest Prod.fst ops a).map Prod.snd

def saveAll (ops : List (ProtocolAddress × I.IdentityKey)) (p : Pddb) : Pddb :=
  Program.after CallFaults.none.handler (fun op => Calls.save_identity I op.1 op.2) ops p

theorem identity_saveAll (hdecode : ∀ key, I.decode (I.serialize key) = .ok key) {p : Pddb}
    (hp : p.keysOf IDENTITY_DICT = []) (ops : List (ProtocolAddress × I.IdentityKey)) (a : ProtocolAddress) :
    (saveAll ops p).identity I a = (lastSaved ops a).map .ok := by
  have hview := Program.view_after (fun q b => Pddb.identity I q b)
    (fun op (_ : op ∈ ops) q b => (Pddb.run_save_identity I q op.1 (hdecode op.2) b).2) p a
  rw [saveAll, hview, Pddb.identity, Pddb.value_of_keysOf_nil hp, lastSaved]
  cases latest Prod.fst ops a <;> rfl

/-- A first identity is trusted, and from then on only the last one saved. -/
theorem trust_on_first_use (hdecode : ∀ key, I.decode (I.serialize key) = .ok key) {p : Pddb}
    (hp : p.keysOf IDENTITY_DICT = []) (ops : List (ProtocolAddress × I.IdentityKey)) (a : ProtocolAddress)
    (key : I.IdentityKey) (direction : Direction) :
    (∃ trusted, ((Calls.is_trusted_identity I a key direction).run CallFaults.none.handler
        (saveAll ops p)).value = .ok trusted ∧
        (trusted = true ↔ lastSaved ops a = none ∨ lastSaved ops a = some key)) ∧
      ((Calls.get_identity I a).run CallFaults.none.handler (saveAll ops p)).value = .ok (lastSaved ops a) ∧
      ∃ change, ((Calls.save_identity I a key).run CallFaults.none.handler (saveAll ops p)).value = .ok change ∧
        (change = .ReplacedExisting ↔ ∃ old, lastSaved ops a = some old ∧ old ≠ key) := by
  obtain ⟨hsave, -⟩ := Pddb.run_save_identity I (saveAll ops p) a (hdecode key) a
  rw [Pddb.run_is_trusted_identity, Pddb.run_get_identity, hsave, identity_saveAll hdecode hp]
  cases lastSaved ops a with
  | none => exact ⟨⟨true, rfl, by simp⟩, rfl, _, rfl, by simp [Pddb.changeOf]⟩
  | some old =>
    refine ⟨⟨decide (old = key), rfl, by simp⟩, rfl, _, rfl, ?_⟩
    by_cases hsame : old = key <;> simp [Pddb.changeOf, hsame]

def byteIdentities : IdentityFormat := ⟨Bytes, id, .ok⟩

theorem trust_on_first_use_dotted :
    ((Calls.get_identity byteIdentities ⟨"ann.1", ⟨1, DeviceId.one_valid⟩⟩).run CallFaults.none.handler
      (saveAll (I := byteIdentities) [(⟨"ann.1", ⟨1, DeviceId.one_valid⟩⟩, [5]),
        (⟨"ann", ⟨1, DeviceId.one_valid⟩⟩, [6]), (⟨"ann.1", ⟨1, DeviceId.one_valid⟩⟩, [7])] ∅)).value = .ok (some [7]) :=
  (trust_on_first_use (I := byteIdentities) (p := ∅) (fun _ => rfl) rfl _ ⟨"ann.1", ⟨1, DeviceId.one_valid⟩⟩ [5]
    .Sending).2.1

end History

end XousSignalClient
