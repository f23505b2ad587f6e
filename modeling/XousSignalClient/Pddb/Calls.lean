import XousSignalClient.Prekeys.Replenish

namespace XousSignalClient

open Encoding Interaction

/-- The calls that `pddbRead`, `pddbDelete`, `pddbWrite` and `pddbSync` stand for. A handle is written once,
from position 0; `write` may stop short and says how far it got. -/
inductive FileCall where
  | read (dict key : String)
  | delete_key (dict key : String)
  | get (dict key : String) (create_key : Bool)
  | write (dict key : String) (data : Bytes)
  | write_all (dict key : String) (data : Bytes)
  | sync

def FileCall.Reply : FileCall → Type
  | .read _ _ => Except IoError Bytes
  | .delete_key _ _ => Except IoError Unit
  | .get _ _ _ => Except IoError Unit
  | .write _ _ _ => Except IoError ℕ
  | .write_all _ _ _ => Except IoError Unit
  | .sync => Except IoError Unit

def fileSignature : Signature := ⟨FileCall, FileCall.Reply⟩

abbrev FileProgram (α : Type) := Program fileSignature α

def FileCall.ask (c : FileCall) : FileProgram c.Reply := Program.perform (S := fileSignature) c

structure ShortWrite where
  written : ℕ
  error : Option IoError

structure CallFaults where
  read : Option IoError
  delete_key : Option IoError
  get : Option (IoError × Bool)
  write : Option ShortWrite
  sync : Option IoError

namespace CallFaults

def none : CallFaults := ⟨.none, .none, .none, .none, .none⟩

def failing {α : Type} (e : Option IoError) (r : Except IoError α) : Except IoError α :=
  match e with
  | some e => .error e
  | .none => r

def answer (faults : CallFaults) : (c : FileCall) → Pddb → c.Reply × Pddb
  | .read dict key, p =>
    match faults.read with
    | some e => (.error e, p)
    | .none => Pddb.answer (.read dict key) p
  | .delete_key dict key, p =>
    match faults.delete_key with
    | some e => (.error e, p)
    | .none => Pddb.answer (.delete dict key) p
  | .get dict key create_key, p =>
    match faults.get with
    | some (e, created) => (.error e, if create_key && created then p.put dict key [] else p)
    | .none =>
      if create_key || (p.value dict key).isSome then (.ok (), if create_key then p.put dict key [] else p)
      else (.error (.notFound "key not found"), p)
  | .write dict key data, p =>
    match faults.write with
    | some ⟨_, some e⟩ => (.error e, p)
    | some ⟨n, .none⟩ => (.ok (min n data.length), p.put dict key (data.take n))
    | .none => (.ok data.length, p.put dict key data)
  | .write_all dict key data, p =>
    match faults.write with
    | some ⟨n, some e⟩ => (.error e, p.put dict key (data.take n))
    | _ => (.ok (), p.put dict key data)
  | .sync, p => (failing faults.sync (.ok ()), p)

def handler (faults : CallFaults) : Handler fileSignature Pddb := ⟨faults.answer⟩

end CallFaults

structure IdentityFormat where
  IdentityKey : Type
  [decidable_eq : DecidableEq IdentityKey]
  serialize : IdentityKey → Bytes
  decode : Bytes → Except SignalProtocolError IdentityKey

inductive IdentityChange where
  | NewOrUnchanged
  | ReplacedExisting

attribute [instance] IdentityFormat.decidable_eq

namespace Calls

def pddb_write_binary (dict key : String) (data : Bytes) : FileProgram (Except IoError Unit) := do
  let _deleted : Except IoError Unit ← (FileCall.delete_key dict key).ask
  let opened : Except IoError Unit ← (FileCall.get dict key true).ask
  match opened with
  | .error e => pure (.error e)
  | .ok () =>
    let written : Except IoError Unit ← (FileCall.write_all dict key data).ask
    match written with
    | .error e => pure (.error e)
    | .ok () =>
      let _synced : Except IoError Unit ← FileCall.sync.ask
      pure (.ok ())

def store_session (F : SessionFormat) (a : ProtocolAddress) (record : F.SessionRecord) :
    FileProgram (Except SignalProtocolError Unit) :=
  match F.serialize record with
  | .error e => pure (.error e)
  | .ok buf => do
    let written : Except IoError Unit ← pddb_write_binary SESSION_DICT a.key buf
    pure (written.mapError (fun e => io_err_to_signal e "write failed"))

def save_pre_key (K : PreKeyCrate) (id : ℕ) (record : K.PreKeyRecord) :
    FileProgram (Except SignalProtocolError Unit) :=
  match K.serialize record with
  | .error e => pure (.error (.InvalidState "pddb" ("serialize failed: " ++ K.display e)))
  | .ok buf => do
    let written : Except IoError Unit ← pddb_write_binary PREKEY_DICT (toString id) buf
    pure (written.mapError (fun e => io_err_to_signal e "write failed"))

def overwrite_identity (I : IdentityFormat) (a : ProtocolAddress) (identity : I.IdentityKey)
    (change : IdentityChange) : FileProgram (Except SignalProtocolError IdentityChange) := do
  let written : Except IoError Unit ← pddb_write_binary IDENTITY_DICT a.key (I.serialize identity)
  pure ((written.mapError (fun e => io_err_to_signal e "write failed")).map (fun _ => change))

def save_identity_over (I : IdentityFormat) (a : ProtocolAddress) (identity : I.IdentityKey) :
    Except IoError Bytes → FileProgram (Except SignalProtocolError IdentityChange)
  | .ok existing_bytes =>
    match I.decode existing_bytes with
    | .ok existing =>
      if existing = identity then pure (.ok .NewOrUnchanged)
      else overwrite_identity I a identity .ReplacedExisting
    | .error _ => overwrite_identity I a identity .ReplacedExisting
  | .error (.notFound _) => overwrite_identity I a identity .NewOrUnchanged
  | .error (.other t) => pure (.error (io_err_to_signal (.other t) "read failed"))

def save_identity (I : IdentityFormat) (a : ProtocolAddress) (identity : I.IdentityKey) :
    FileProgram (Except SignalProtocolError IdentityChange) := do
  let existing : Except IoError Bytes ← (FileCall.read IDENTITY_DICT a.key).ask
  save_identity_over I a identity existing

end Calls

namespace CallFaults

variable (faults : CallFaults) (p : Pddb) (dict key : String) (data : Bytes)

def left : Option Bytes := if faults.delete_key.isSome then p.value dict key else .none

theorem value_delete :
    (faults.answer (.delete_key dict key) p).2.value dict key = faults.left p dict key := by
  unfold answer left
  cases faults.delete_key with
  | some e => rfl
  | none =>
    dsimp only
    rw [Pddb.answer_delete, Pddb.value_remove]
    rfl

theorem value_delete_ne {dict' key' : String} (hne : (dict', key') ≠ (dict, key)) :
    (faults.answer (.delete_key dict key) p).2.value dict' key' = p.value dict' key' := by
  unfold answer
  cases faults.delete_key with
  | some e => rfl
  | none =>
    dsimp only
    rw [Pddb.answer_delete, Pddb.value_remove_ne p hne]

theorem overlay_empty (old : Bytes) : Pddb.overlay [] old = old := by simp [Pddb.overlay]

theorem value_put_empty (q : Pddb) : (q.put dict key []).value dict key = some ((q.value dict key).getD []) := by
  rw [Pddb.value_put, overlay_empty]

theorem run_write_binary :
    let o := (Calls.pddb_write_binary dict key data).run faults.handler p
    let left := faults.left p dict key
    match faults.get, faults.write with
    | some (e, created), _ => o.value = .error e ∧
        o.state.value dict key = if created then some (left.getD []) else left
    | .none, some ⟨n, some e⟩ => o.value = .error e ∧
        o.state.value dict key = some (Pddb.overlay (data.take n) (left.getD []))
    | .none, _ => o.value = .ok () ∧ o.state.value dict key = some (Pddb.overlay data (left.getD [])) := by
  have hleft := value_delete faults p dict key
  obtain ⟨reads, deletes, opens, writes, syncs⟩ := faults
  generalize hq : (answer ⟨reads, deletes, opens, writes, syncs⟩ (.delete_key dict key) p).2 = q at hleft
  have hover : ∀ bytes : Bytes, ((q.put dict key []).put dict key bytes).value dict key =
      some (Pddb.overlay bytes ((left ⟨reads, deletes, opens, writes, syncs⟩ p dict key).getD [])) := by
    intro bytes
    rw [Pddb.value_put, value_put_empty, hleft, Option.getD_some]
  subst hq
  rcases opens with _ | ⟨e, created⟩
  · rcases writes with _ | ⟨n, _ | e⟩
    · exact ⟨rfl, hover data⟩
    · exact ⟨rfl, hover data⟩
    · exact ⟨rfl, hover (data.take n)⟩
  · refine ⟨rfl, ?_⟩
    cases created with
    | true => exact (value_put_empty dict key _).trans (congrArg (fun v => some (Option.getD v [])) hleft)
    | false => exact hleft

theorem run_write_binary_frame {dict' key' : String} (hne : (dict', key') ≠ (dict, key)) :
    ((Calls.pddb_write_binary dict key data).run faults.handler p).state.value dict' key' = p.value dict' key' := by
  have hput : ∀ (q : Pddb) (bytes : Bytes), (q.put dict key bytes).value dict' key' = q.value dict' key' :=
    fun q bytes => Pddb.value_put_ne q bytes hne
  have hdelete := value_delete_ne faults p dict key hne
  obtain ⟨reads, deletes, opens, writes, syncs⟩ := faults
  rcases opens with _ | ⟨e, _ | _⟩
  · rcases writes with _ | ⟨n, _ | e⟩
    · exact ((hput _ _).trans (hput _ _)).trans hdelete
    · exact ((hput _ _).trans (hput _ _)).trans hdelete
    · exact ((hput _ _).trans (hput _ _)).trans hdelete
  · exact hdelete
  · exact (hput _ _).trans hdelete

theorem run_write_binary_none :
    let o := (Calls.pddb_write_binary dict key data).run CallFaults.none.handler p
    let o' := (XousSignalClient.pddb_write_binary dict key data).run Pddb.handler p
    o.value = o'.value ∧ ∀ dict' key', o.state.value dict' key' = o'.state.value dict' key' := by
  intro o o'
  obtain ⟨hvalue, hkeys⟩ := Pddb.run_write_binary p dict key data
  obtain ⟨hvalue', hkey⟩ := run_write_binary CallFaults.none p dict key data
  refine ⟨hvalue'.trans hvalue.symm, ?_⟩
  intro dict' key'
  rw [hkeys]
  split_ifs with hk
  · obtain ⟨rfl, rfl⟩ := Prod.mk.inj hk
    exact hkey.trans (congrArg some (Pddb.overlay_nil data))
  · exact run_write_binary_frame CallFaults.none p dict key data hk

def AllOrNothing (old : Option Bytes) (data : Bytes) (r : Except IoError Unit) (new : Option Bytes) : Prop :=
  (new = old ∨ new = some data) ∧ (r = .ok () → new = some data)

theorem run_store_session {F : SessionFormat} {a : ProtocolAddress} {record : F.SessionRecord} {buf : Bytes}
    (hbuf : F.serialize record = .ok buf) :
    ((Calls.store_session F a record).run faults.handler p).state =
      ((Calls.pddb_write_binary SESSION_DICT a.key buf).run faults.handler p).state := by
  unfold Calls.store_session
  rw [hbuf]
  exact congrArg Outcome.state (Program.run_bind _ _ _ p)

theorem run_save_pre_key {K : PreKeyCrate} {id : ℕ} {record : K.PreKeyRecord} {buf : Bytes}
    (hbuf : K.serialize record = .ok buf) :
    ((Calls.save_pre_key K id record).run faults.handler p).state =
      ((Calls.pddb_write_binary PREKEY_DICT (toString id) buf).run faults.handler p).state := by
  unfold Calls.save_pre_key
  rw [hbuf]
  exact congrArg Outcome.state (Program.run_bind _ _ _ p)

theorem answer_read : (faults.answer (.read dict key) p).2 = p := by
  unfold answer
  cases faults.read with
  | some e => rfl
  | none => cases h : p.value dict key <;> simp [Pddb.answer, h]

theorem run_overwrite_identity (I : IdentityFormat) (a : ProtocolAddress) (identity : I.IdentityKey)
    (change : IdentityChange) :
    ((Calls.overwrite_identity I a identity change).run faults.handler p).state =
      ((Calls.pddb_write_binary IDENTITY_DICT a.key (I.serialize identity)).run faults.handler p).state := by
  unfold Calls.overwrite_identity
  exact congrArg Outcome.state (Program.run_bind _ _ _ p)

theorem run_save_identity (I : IdentityFormat) (a : ProtocolAddress) (identity : I.IdentityKey) :
    let o := (Calls.save_identity I a identity).run faults.handler p
    o.state = p ∨
      o.state = ((Calls.pddb_write_binary IDENTITY_DICT a.key (I.serialize identity)).run faults.handler p).state := by
  intro o
  have hrun : ∀ existing : Except IoError Bytes,
      ((Calls.save_identity_over I a identity existing).run faults.handler p).state = p ∨
        ((Calls.save_identity_over I a identity existing).run faults.handler p).state =
          ((Calls.pddb_write_binary IDENTITY_DICT a.key (I.serialize identity)).run faults.handler p).state := by
    intro existing
    unfold Calls.save_identity_over
    split
    · split
      · split_ifs
        · exact .inl rfl
        · exact .inr (run_overwrite_identity faults p I a identity _)
      · exact .inr (run_overwrite_identity faults p I a identity _)
    · exact .inr (run_overwrite_identity faults p I a identity _)
    · exact .inl rfl
  have hread := answer_read faults p IDENTITY_DICT a.key
  have hstate : o.state = ((Calls.save_identity_over I a identity
      (faults.answer (.read IDENTITY_DICT a.key) p).1).run faults.handler
        (faults.answer (.read IDENTITY_DICT a.key) p).2).state := rfl
  rw [hread] at hstate
  rw [hstate]
  exact hrun _

/-- What a store write leaves under its key, in every pattern of failing calls; the other keys keep theirs. -/
theorem store_write_outcome (faults : CallFaults) (p : Pddb) (dict key : String) (data : Bytes) :
    let o := (Calls.pddb_write_binary dict key data).run faults.handler p
    (o.value = .ok () →
      (faults.delete_key = .none ∨ ∀ old, p.value dict key = some old → old.length ≤ data.length) →
      o.state.value dict key = some data) ∧
    (∀ e, o.value = .error e → faults.delete_key = .none →
      o.state.value dict key = .none ∨ ∃ n, o.state.value dict key = some (data.take n)) ∧
    (∀ e old, o.value = .error e → faults.delete_key ≠ .none → p.value dict key = some old →
      (faults.get ≠ .none → o.state.value dict key = some old) ∧
      ∃ n, o.state.value dict key = some (Pddb.overlay (data.take n) old)) ∧
    (∀ dict' key', (dict', key') ≠ (dict, key) → o.state.value dict' key' = p.value dict' key') ∧
    (∀ (F : SessionFormat) (a : ProtocolAddress) (record : F.SessionRecord), F.serialize record = .ok data →
      SESSION_DICT = dict → a.key = key →
      ((Calls.store_session F a record).run faults.handler p).state = o.state) ∧
    (∀ (K : PreKeyCrate) (id : ℕ) (record : K.PreKeyRecord), K.serialize record = .ok data →
      PREKEY_DICT = dict → toString id = key →
      ((Calls.save_pre_key K id record).run faults.handler p).state = o.state) ∧
    ∀ (I : IdentityFormat) (a : ProtocolAddress) (identity : I.IdentityKey), I.serialize identity = data →
      IDENTITY_DICT = dict → a.key = key →
      ((Calls.save_identity I a identity).run faults.handler p).state = p ∨
        ((Calls.save_identity I a identity).run faults.handler p).state = o.state := by
  intro o
  have hrun := run_write_binary faults p dict key data
  change match faults.get, faults.write with
    | some (e, created), _ => o.value = .error e ∧ o.state.value dict key =
        if created then some ((faults.left p dict key).getD []) else faults.left p dict key
    | .none, some ⟨n, some e⟩ => o.value = .error e ∧
        o.state.value dict key = some (Pddb.overlay (data.take n) ((faults.left p dict key).getD []))
    | .none, _ => o.value = .ok () ∧
        o.state.value dict key = some (Pddb.overlay data ((faults.left p dict key).getD [])) at hrun
  have hgone : faults.delete_key = .none → faults.left p dict key = .none := by
    intro hdelete
    simp [left, hdelete]
  have hkept : faults.delete_key ≠ .none → faults.left p dict key = p.value dict key := by
    intro hdelete
    simp [left, Option.isSome_iff_ne_none.mpr hdelete]
  refine ⟨?_, ?_, ?_, ?_, ?_, ?_, ?_⟩
  · intro hok hdelete
    have hvalue : o.state.value dict key = some (Pddb.overlay data ((faults.left p dict key).getD [])) := by
      split at hrun
      · rw [hok] at hrun
        cases hrun.1
      · rw [hok] at hrun
        cases hrun.1
      · exact hrun.2
    rw [hvalue, Pddb.overlay_of_length_le]
    by_cases hnone : faults.delete_key = .none
    · simp [hgone hnone]
    · rw [hkept hnone]
      cases hold : p.value dict key with
      | none => simp
      | some old => exact (hdelete.resolve_left hnone) old hold
  · intro e herr hdelete
    rw [hgone hdelete] at hrun
    split at hrun
    · obtain ⟨-, hnow⟩ := hrun
      split_ifs at hnow
      · exact .inr ⟨0, hnow⟩
      · exact .inl hnow
    · exact .inr ⟨_, by rw [hrun.2, Option.getD_none, Pddb.overlay_nil]⟩
    · rw [herr] at hrun
      cases hrun.1
  · intro e old herr hdelete hold
    rw [hkept hdelete, hold] at hrun
    split at hrun
    · have hsame : o.state.value dict key = some old := by
        obtain ⟨-, hnow⟩ := hrun
        split_ifs at hnow
        · exact hnow
        · exact hnow
      exact ⟨fun _ => hsame, 0, by rw [hsame, List.take_zero, overlay_empty]⟩
    · exact ⟨fun hget => absurd (by assumption) hget, _, hrun.2⟩
    · rw [herr] at hrun
      cases hrun.1
  · exact fun dict' key' hne => run_write_binary_frame faults p dict key data hne
  · rintro F a record hbuf rfl rfl
    exact run_store_session faults p hbuf
  · rintro K id record hbuf rfl rfl
    exact run_save_pre_key faults p hbuf
  · rintro I a identity rfl rfl rfl
    exact run_save_identity faults p I a identity

/-- The deletion succeeds and the key cannot be created again: the old record is gone. And a deletion that
fails leaves its tail behind a write that reports success. -/
theorem old_record_lost :
    let p : Pddb := (∅ : Pddb).put SESSION_DICT "bob.1" [1, 2, 3]
    let full : CallFaults := { none with get := some (.other "no free space", false) }
    let refused : CallFaults := { none with delete_key := some (.other "busy") }
    let o := (Calls.pddb_write_binary SESSION_DICT "bob.1" [9]).run full.handler p
    let o' := (Calls.pddb_write_binary SESSION_DICT "bob.1" [9]).run refused.handler p
    (o.value = .error (.other "no free space") ∧ o.state.value SESSION_DICT "bob.1" = .none) ∧
    (o'.value = .ok () ∧ o'.state.value SESSION_DICT "bob.1" = some [9, 2, 3]) ∧
    ¬AllOrNothing (p.value SESSION_DICT "bob.1") [9] o.value (o.state.value SESSION_DICT "bob.1") ∧
    ¬AllOrNothing (p.value SESSION_DICT "bob.1") [9] o'.value (o'.state.value SESSION_DICT "bob.1") := by
  unfold AllOrNothing
  decide

end CallFaults

end XousSignalClient
