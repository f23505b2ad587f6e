import XousSignalClient.Conversation
import XousSignalClient.MainWs.Transcript
import XousSignalClient.Send.Reference
import XousSignalClient.Threads.Jobs

namespace XousSignalClient

open Encoding Interaction Fallible

structure Send where
  padded_content : Bytes
  timestamp_ms : UInt64
  recipient_addr : ProtocolAddress

structure SessionEntry where
  thread : Thread
  position : ℕ
  update : SessionUpdate

def SessionUpdate.encrypts : SessionUpdate → Bool
  | .encrypted _ _ => true
  | .decrypted _ => false

namespace SessionEntry

def encrypts (e : SessionEntry) : Bool := e.update.encrypts

def positions (es : List SessionEntry) : List ℕ := (es.filter encrypts).map position

def by_thread (i : Thread) (es : List SessionEntry) : List SessionUpdate :=
  (es.filter (fun e => e.thread = i)).map update

end SessionEntry

namespace Ratchet

variable {C : Crates} {L : MainWs.InboundCrates} (R : Ratchet C L)

/-- `record` comes from `record₀` by the given updates, each computed from the record the one before it made. -/
inductive History (record₀ : C.SessionRecord) : List SessionEntry → C.SessionRecord → Prop
  | nil : History record₀ [] record₀
  | snoc {es : List SessionEntry} {record record' : C.SessionRecord} {u : SessionUpdate} (i : Thread)
      (hes : History record₀ es record) (hu : R.Advances u record record') :
      History record₀ (es ++ [⟨i, R.position record, u⟩]) record'

variable {R} {record₀ record : C.SessionRecord} {es : List SessionEntry}

theorem Advances.position {u : SessionUpdate} {record record' : C.SessionRecord} (h : R.Advances u record record') :
    R.position record' = R.position record + (match u with | .encrypted _ _ => 1 | .decrypted _ => 0) := by
  cases u with
  | encrypted content message =>
    obtain ⟨ct, ty, henc, -⟩ := h
    exact R.encrypt_position henc
  | decrypted opened =>
    rcases h with ⟨msg, hdec⟩ | ⟨msg, hdec⟩
    · exact R.decrypt_prekey_position hdec
    · exact R.decrypt_signal_position hdec

theorem positions_snoc (es : List SessionEntry) (e : SessionEntry) :
    SessionEntry.positions (es ++ [e]) = SessionEntry.positions es ++ (if e.encrypts then [e.position] else []) := by
  unfold SessionEntry.positions
  rw [List.filter_append, List.map_append]
  by_cases he : e.encrypts
  · rw [if_pos he, List.filter_cons_of_pos he]
    rfl
  · rw [if_neg he, List.filter_cons_of_neg he]
    rfl

theorem History.positions_eq (h : R.History record₀ es record) :
    SessionEntry.positions es = List.range' (R.position record₀) (SessionEntry.positions es).length ∧
      R.position record = R.position record₀ + (SessionEntry.positions es).length := by
  induction h with
  | nil => exact ⟨rfl, rfl⟩
  | @snoc es record record' u i hes hu ih =>
    obtain ⟨hrange, hposition⟩ := ih
    have hnext := hu.position
    rw [positions_snoc]
    cases u with
    | decrypted opened =>
      rw [if_neg (by exact Bool.false_ne_true), List.append_nil]
      exact ⟨hrange, hnext.trans hposition⟩
    | encrypted content message =>
      rw [if_pos (by rfl), List.length_append, List.length_singleton]
      refine ⟨?_, ?_⟩
      · rw [List.range'_concat, ← hrange, Nat.one_mul]
        exact congrArg (fun n => SessionEntry.positions es ++ [n]) hposition
      · rw [hnext, hposition, Nat.add_assoc]

theorem History.positions_nodup (h : R.History record₀ es record) : (SessionEntry.positions es).Nodup := by
  rw [h.positions_eq.1]
  exact List.nodup_range'

theorem history_of_chain {buf₀ buf : Bytes} {log : List (Thread × SessionUpdate)}
    (hchain : Chain R.Commits buf₀ log buf) (hrecord : C.deserialize buf₀ = .ok record₀) :
    ∃ es record, R.History record₀ es record ∧ C.deserialize buf = .ok record ∧
      ∀ i, SessionEntry.by_thread i es = committed i log := by
  induction hchain with
  | nil => exact ⟨[], record₀, .nil, hrecord, fun _ => rfl⟩
  | @snoc log buf buf' i u hlog hcommit ih =>
    obtain ⟨es, record, hes, hbuf, hupdates⟩ := ih
    obtain ⟨record', next, hread, hadvances, hnext⟩ := hcommit
    obtain rfl : record = record' := Except.ok.inj (hbuf.symm.trans hread)
    refine ⟨es ++ [⟨i, R.position record, u⟩], next, .snoc i hes hadvances, R.deserialize_serialize hnext, ?_⟩
    intro j
    unfold SessionEntry.by_thread
    rw [List.filter_append, List.map_append]
    by_cases hj : j = i
    · subst hj
      rw [committed_snoc_self, ← hupdates j]
      simp [SessionEntry.by_thread]
    · rw [committed_snoc_ne hj, ← hupdates j]
      simp [SessionEntry.by_thread, Ne.symm hj]

variable (R)

def threads (s : App) (sends : List Send) (envelopes : List Bytes) (local_addr : ProtocolAddress) :
    Pool appSignature App Thread JobResult where
  state := s
  workers
    | .main => ⟨[], sends.map (fun m => R.send m.padded_content m.timestamp_ms m.recipient_addr local_addr)⟩
    | .receive => ⟨[], envelopes.map (fun body => R.dispatch body local_addr)⟩

def completed (a : ProtocolAddress) (P : Pool appSignature App Thread JobResult) (i : Thread) : List SessionUpdate :=
  (P.workers i).done.filterMap (JobResult.update a)

/-- Nothing of the session with `a` is lost: the completed updates are part of one history, in which no two
encryptions use one sending position, and once both threads are done the stored record is what that history
makes of the first one. -/
def NoLostUpdate (a : ProtocolAddress) (record₀ : C.SessionRecord) (P : Pool appSignature App Thread JobResult) :
    Prop :=
  ∃ es record, R.History record₀ es record ∧ (∀ i, completed a P i <+: SessionEntry.by_thread i es) ∧
    (SessionEntry.positions es).Nodup ∧
    ((∀ i, (P.workers i).todo = []) → (∀ i, completed a P i = SessionEntry.by_thread i es) ∧
      ∃ buf, P.state.pddb.session a = some buf ∧ C.deserialize buf = .ok record)

/-- In every run in which the two threads are never both between libsignal's load of the record and its
write, no update is lost. -/
theorem no_lost_update (a : ProtocolAddress) (s : App) (sends : List Send) (envelopes : List Bytes)
    (local_addr : ProtocolAddress) {buf₀ : Bytes} {record₀ : C.SessionRecord}
    (hstored : s.pddb.session a = some buf₀) (hrecord : C.deserialize buf₀ = .ok record₀)
    {P : Pool appSignature App Thread JobResult}
    (hrun : Relation.ReflTransGen (Pool.ExclusiveStep (sessionCell a)) (R.threads s sends envelopes local_addr) P) :
    R.NoLostUpdate a record₀ P := by
  have hjobs : ∀ i, ∀ p ∈ ((R.threads s sends envelopes local_addr).workers i).todo,
      Job (sessionCell a) R.Commits (JobResult.update a) .before p := by
    intro i p hp
    cases i with
    | main =>
      obtain ⟨m, -, rfl⟩ := List.mem_map.mp hp
      exact R.job_send a _ _ _ _
    | receive =>
      obtain ⟨body, -, rfl⟩ := List.mem_map.mp hp
      exact R.job_dispatch a _ _
  have hdone : ∀ i, ((R.threads s sends envelopes local_addr).workers i).done = [] := by
    intro i
    cases i <;> rfl
  have hvalue : (sessionCell a).value (R.threads s sends envelopes local_addr).state = some buf₀ := hstored
  obtain ⟨log, buf, phase, hlin⟩ := Pool.linearized hvalue hdone hjobs hrun
  obtain ⟨es, record, hes, hbuf, hupdates⟩ := history_of_chain hlin.chain hrecord
  refine ⟨es, record, hes, ?_, hes.positions_nodup, ?_⟩
  · intro i
    rw [hupdates i, hlin.outputs i]
    exact List.prefix_append _ _
  · intro hfinished
    refine ⟨?_, buf, ?_, hbuf⟩
    · intro i
      rw [hupdates i]
      exact (hlin.committed_of_finished (hfinished i)).2.symm
    · apply hlin.present
      intro i y hy
      rw [(hlin.committed_of_finished (hfinished i)).1] at hy
      cases hy

end Ratchet

section Examples

def decodePair : Bytes → Except SignalProtocolError (UInt8 × UInt8)
  | [sent, received] => .ok (sent, received)
  | _ => .error (.Other "failed to decode protobuf")

abbrev countingCrates : Crates :=
  { Reference.crates with
    SessionRecord := UInt8 × UInt8
    serialize := fun r => .ok [r.1, r.2]
    deserialize := decodePair
    remote_registration_id := fun _ => .ok 7 }

theorem toNat_succ {n : UInt8} (hn : n ≠ 255) : (n + 1).toNat = n.toNat + 1 := by
  have hne : n.toNat ≠ 255 := by
    intro h
    exact hn (UInt8.toNat_inj.mp h)
  have hlt := UInt8.toNat_lt n
  have hone : (1 : UInt8).toNat = 1 := rfl
  rw [UInt8.toNat_add, hone]
  omega

def countingRatchet : Ratchet countingCrates MainWs.plainCrates where
  position := fun r : UInt8 × UInt8 => r.2.toNat
  encrypt := fun ptext (r : UInt8 × UInt8) =>
    if r.2 = 255 then .error (.Other "chain exhausted") else .ok (.SignalMessage (r.2 :: ptext), (r.1, r.2 + 1))
  decrypt_prekey := fun _ _ => .error (.Other "InvalidPreKeyId")
  decrypt_signal := fun (msg : Bytes) (r : UInt8 × UInt8) =>
    if r.1 = 255 then .error (.Other "chain exhausted") else .ok (msg, (r.1 + 1, r.2))
  unsealed := fun _ => pure (.error (.Other "InvalidSealedSenderMessage"))
  deserialize_serialize := by
    intro r buf h
    obtain rfl := Except.ok.inj h
    rfl
  encrypt_position := by
    intro ptext r ct r' h
    split_ifs at h with hr
    obtain ⟨-, rfl⟩ := Prod.mk.inj (Except.ok.inj h)
    exact toNat_succ hr
  encrypt_kind := by
    intro ptext r t r' h
    split_ifs at h
    cases (Prod.mk.inj (Except.ok.inj h)).1
  decrypt_prekey_position := by
    intro msg r p r' h
    cases h
  decrypt_signal_position := by
    intro msg r p r' h
    split_ifs at h
    obtain ⟨-, rfl⟩ := Prod.mk.inj (Except.ok.inj h)
    rfl
  unsealed_reads := fun _ _ _ => .ret _

def carolEnvelope : Bytes :=
  encodeFields [.varint 1 1, .bytes 2 (utf8 carolAddress.name), .varint 5 1700000000000, .varint 7 1,
    .bytes 8 dataContent]

def carolThreads : Pool appSignature App Thread JobResult :=
  countingRatchet.threads ⟨Pddb.put ∅ SESSION_DICT carolAddress.key [0, 0], ⟨none, []⟩⟩
    [⟨[1], 0, carolAddress⟩, ⟨[2], 0, carolAddress⟩] [carolEnvelope] MainWs.aliceAddress

/-- The receive worker loads the record, the first text is sent, the worker stores what it computed, and the second
text is sent. -/
def overlapping : List Thread :=
  .receive :: (List.replicate 6 .main ++ (List.replicate 24 .receive ++ List.replicate 6 .main))

def carolEnd : Pool appSignature App Thread JobResult := carolThreads.schedule App.handler overlapping

theorem carolEnd_eq : (carolEnd.workers .main).todo.isEmpty ∧ (carolEnd.workers .receive).todo.isEmpty ∧
    carolEnd.state.pddb.session carolAddress = some [1, 1] ∧
    Ratchet.completed carolAddress carolEnd .main =
      [.encrypted [1] ⟨[0, 1], 1, 1, 7, 0⟩, .encrypted [2] ⟨[0, 2], 1, 1, 7, 0⟩] := by
  decide +kernel

theorem encrypts_by_thread (i : Thread) (es : List SessionEntry) :
    ((SessionEntry.by_thread i es).filter SessionUpdate.encrypts).length ≤ (SessionEntry.positions es).length := by
  unfold SessionEntry.by_thread SessionEntry.positions
  rw [List.filter_map, List.length_map, List.length_map]
  exact (List.Sublist.filter _ List.filter_sublist).length_le

theorem session_update_lost : ¬∀ P, Relation.ReflTransGen (Pool.Step App.handler) carolThreads P →
    countingRatchet.NoLostUpdate carolAddress (0, 0) P := by
  intro h
  obtain ⟨hmain, hreceive, hstored, hcompleted⟩ := carolEnd_eq
  obtain ⟨es, record, hes, -, -, hend⟩ := h carolEnd (Pool.reachable_schedule App.handler carolThreads overlapping)
  have hfinished : ∀ i, (carolEnd.workers i).todo = [] := by
    intro i
    cases i with
    | main => exact List.isEmpty_iff.mp hmain
    | receive => exact List.isEmpty_iff.mp hreceive
  obtain ⟨hupdates, buf, hbuf, hrecord⟩ := hend hfinished
  have hposition := hes.positions_eq.2
  obtain rfl : [1, 1] = buf := Option.some.inj (hstored.symm.trans hbuf)
  obtain rfl : (1, 1) = record := Except.ok.inj hrecord
  have htwo := encrypts_by_thread .main es
  rw [← hupdates, hcompleted] at htwo
  have hone : 1 = 0 + (SessionEntry.positions es).length := hposition
  have htwice : 2 ≤ (SessionEntry.positions es).length := htwo
  omega

def AppCall.changesSession (a : ProtocolAddress) : AppCall → Bool
  | .pddb (.delete dict key) => dict = SESSION_DICT && key = a.key
  | .pddb (.write dict key _) => dict = SESSION_DICT && key = a.key
  | _ => false

def insideSession (a : ProtocolAddress) (w : Interaction.Worker appSignature JobResult) : Bool :=
  match w.todo with
  | .ask c _ :: _ => AppCall.changesSession a c
  | _ => false

theorem insideSession_of_inside {a : ProtocolAddress} {w : Interaction.Worker appSignature JobResult}
    (hw : w.Inside (sessionCell a)) : insideSession a w = true := by
  obtain ⟨c, next, rest, htodo, hc⟩ := hw
  rw [insideSession, htodo]
  rcases hc with rfl | ⟨buf, rfl⟩
  · simp [AppCall.changesSession]
  · simp [AppCall.changesSession]

def oneInside (a : ProtocolAddress) (P : Pool appSignature App Thread JobResult) : Bool :=
  !(insideSession a (P.workers .main) && insideSession a (P.workers .receive))

theorem exclusive_of_oneInside {a : ProtocolAddress} {P : Pool appSignature App Thread JobResult}
    (hP : oneInside a P = true) : P.Exclusive (sessionCell a) := by
  have hboth : ¬((P.workers .main).Inside (sessionCell a) ∧ (P.workers .receive).Inside (sessionCell a)) := by
    rintro ⟨hmain, hreceive⟩
    rw [oneInside, insideSession_of_inside hmain, insideSession_of_inside hreceive] at hP
    cases hP
  intro i j hi hj
  cases i with
  | main =>
    cases j with
    | main => rfl
    | receive => exact absurd ⟨hi, hj⟩ hboth
  | receive =>
    cases j with
    | main => exact absurd ⟨hj, hi⟩ hboth
    | receive => rfl

def separate : List Thread := List.replicate 6 .main ++ (List.replicate 25 .receive ++ List.replicate 6 .main)

theorem separate_updates_kept :
    (carolThreads.schedule App.handler separate).state.pddb.session carolAddress = some [1, 2] ∧
      countingRatchet.NoLostUpdate carolAddress (0, 0) (carolThreads.schedule App.handler separate) :=
  ⟨by decide +kernel, countingRatchet.no_lost_update carolAddress _ _ _ _ rfl rfl
    (Pool.reachable_exclusive (fun _ => exclusive_of_oneInside) carolThreads separate (by decide +kernel))⟩

end Examples

end XousSignalClient
