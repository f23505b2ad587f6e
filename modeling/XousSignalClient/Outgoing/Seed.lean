import XousSignalClient.Outgoing.Pointers

namespace XousSignalClient

open Encoding Interaction

/-- The two variables of the environment; one that is unset or no Unicode is `none`. -/
structure DemoEnv where
  XSC_DEMO_PEER_UUID : Option String
  XSC_DEMO_PEER_DEVICE_ID : Option String

namespace Outgoing

inductive DemoPeerError where
  | not_a_uuid (uuid : String)
  | device_id_parse (device_id_str : String)
  | device_id_out_of_range (device_id : ℕ)
  | device_id (device_id : ℕ)

def is_ascii_hexdigit (c : Char) : Bool := c.isDigit || ('a' ≤ c && c ≤ 'f') || ('A' ≤ c && c ≤ 'F')

def isUuidChar (c : Char) (i : ℕ) : Bool :=
  if i = 8 ∨ i = 13 ∨ i = 18 ∨ i = 23 then c = '-' else is_ascii_hexdigit c

def parse_demo_peer (uuid : String) (device_id_str : Option String) : Except DemoPeerError ProtocolAddress :=
  if (utf8 uuid).length ≠ 36 ∨ ¬uuid.toList.zipIdx.all (fun x => isUuidChar x.1 x.2) then
    .error (.not_a_uuid uuid)
  else
    match device_id_str.elim (some 1) (parseUnsigned (2 ^ 32)) with
    | none => .error (.device_id_parse (device_id_str.getD ""))
    | some device_id =>
      if device_id = 0 ∨ 127 < device_id then .error (.device_id_out_of_range device_id)
      else
        match DeviceId.new device_id with
        | none => .error (.device_id device_id)
        | some dev => .ok ⟨uuid, dev⟩

end Outgoing

def seed_demo_recipient_from_env (env : DemoEnv) : PddbProgram (Except OutgoingError Bool) :=
  match env.XSC_DEMO_PEER_UUID with
  | none => pure (.ok false)
  | some uuid_env =>
    if uuid_env.isEmpty then pure (.ok false)
    else
      match Outgoing.parse_demo_peer uuid_env env.XSC_DEMO_PEER_DEVICE_ID with
      | .error _ => pure (.ok false)
      | .ok addr => do
        match ← current_recipient with
        | .ok _ => pure (.ok false)
        | .error _ =>
          match ← set_current_recipient addr with
          | .error e => pure (.error e)
          | .ok () => pure (.ok true)

def DemoEnv.peer (env : DemoEnv) : Option ProtocolAddress :=
  env.XSC_DEMO_PEER_UUID.bind (fun uuid => (Outgoing.parse_demo_peer uuid env.XSC_DEMO_PEER_DEVICE_ID).toOption)

section Seed

variable {env : DemoEnv} {addr : ProtocolAddress}

theorem quote_not_uuid (i : ℕ) : Outgoing.isUuidChar '"' i = false := by
  unfold Outgoing.isUuidChar
  split_ifs <;> rfl

theorem name_of_parse {uuid : String} {device_id_str : Option String}
    (h : Outgoing.parse_demo_peer uuid device_id_str = .ok addr) : '"' ∉ addr.name.toList := by
  unfold Outgoing.parse_demo_peer at h
  split_ifs at h with hbad
  obtain ⟨-, hchars⟩ := not_or.mp hbad
  rw [not_not, List.all_eq_true] at hchars
  have hname : addr.name = uuid := by
    split at h
    · cases h
    · split_ifs at h
      split at h
      · cases h
      · rw [← Except.ok.inj h]
  rw [hname]
  intro hquote
  obtain ⟨i, hi, hget⟩ := List.getElem_of_mem hquote
  have hmem : ('"', i) ∈ uuid.toList.zipIdx :=
    List.mem_zipIdx_iff_getElem?.mpr (List.getElem?_eq_some_iff.mpr ⟨hi, hget⟩)
  have hchar := hchars _ hmem
  rw [quote_not_uuid] at hchar
  cases hchar

theorem name_of_peer (h : env.peer = some addr) : '"' ∉ addr.name.toList := by
  obtain ⟨uuid, -, hparse⟩ := Option.bind_eq_some_iff.mp h
  cases hp : Outgoing.parse_demo_peer uuid env.XSC_DEMO_PEER_DEVICE_ID with
  | error e =>
    rw [hp] at hparse
    cases hparse
  | ok a =>
    rw [hp] at hparse
    obtain rfl := Option.some.inj hparse
    exact name_of_parse hp

def Pddb.seeds (p : Pddb) (env : DemoEnv) : Option ProtocolAddress :=
  match p.recipient with
  | .ok _ => none
  | .error _ => env.peer

theorem run_seed (p : Pddb) (env : DemoEnv) :
    ((seed_demo_recipient_from_env env).run Pddb.handler p).value = .ok (p.seeds env).isSome ∧
      ((seed_demo_recipient_from_env env).run Pddb.handler p).state =
        (p.seeds env).elim p (fun addr => ((set_current_recipient addr).run Pddb.handler p).state) := by
  have hskip (hpeer : env.peer = none) : p.seeds env = none := by
    unfold Pddb.seeds
    cases p.recipient with
    | ok a => rfl
    | error e => exact hpeer
  unfold seed_demo_recipient_from_env
  cases huuid : env.XSC_DEMO_PEER_UUID with
  | none =>
    rw [hskip (by rw [DemoEnv.peer, huuid]; rfl)]
    exact ⟨rfl, rfl⟩
  | some uuid =>
    by_cases hempty : uuid.isEmpty = true
    · obtain rfl := String.isEmpty_iff.mp hempty
      rw [hskip (by rw [DemoEnv.peer, huuid]; rfl)]
      exact ⟨rfl, rfl⟩
    · simp only [if_neg hempty]
      cases hparse : Outgoing.parse_demo_peer uuid env.XSC_DEMO_PEER_DEVICE_ID with
      | error e =>
        rw [hskip (by rw [DemoEnv.peer, huuid, Option.bind_some, hparse]; rfl)]
        exact ⟨rfl, rfl⟩
      | ok addr =>
        have hpeer : env.peer = some addr := by rw [DemoEnv.peer, huuid, Option.bind_some, hparse]; rfl
        obtain ⟨hvalue, hstate⟩ := run_current_recipient p
        simp only
        rw [Program.run_bind, hvalue, hstate, Pddb.seeds]
        cases p.recipient with
        | ok a => exact ⟨rfl, rfl⟩
        | error e =>
          have hset : ((set_current_recipient addr).run Pddb.handler p).value = .ok () :=
            (run_setPeer p DEFAULT_PEER_KEY addr).1
          simp only
          rw [Program.run_bind, hset, hpeer]
          exact ⟨rfl, rfl⟩

end Seed

inductive RecipientOp where
  | start (env : DemoEnv)
  | pointer (op : PointerOp)

namespace RecipientOp

def program : RecipientOp → PddbProgram (Except OutgoingError Unit)
  | .start env => do
    let seeded ← seed_demo_recipient_from_env env
    pure (seeded.map (fun _ => ()))
  | .pointer op => op.program

def pointer? : RecipientOp → Option PointerOp
  | .start _ => none
  | .pointer op => some op

def seed? : RecipientOp → Option ProtocolAddress
  | .start env => env.peer
  | .pointer _ => none

def pointers (ops : List RecipientOp) : List PointerOp := ops.filterMap pointer?

def firstSeed (ops : List RecipientOp) : Option ProtocolAddress := ops.findSome? seed?

/-- Whom to write to: the conversation opened last, else the last sender, else the first peer that was named. -/
def recipient (ops : List RecipientOp) : Option ProtocolAddress :=
  (PointerOp.lastSet (pointers ops) FOCUSED_PEER_KEY).or
    ((PointerOp.lastSet (pointers ops) DEFAULT_PEER_KEY).or (firstSeed ops))

end RecipientOp

section Starts

open RecipientOp

variable {p q : Pddb} {ops : List RecipientOp}

/-- How the pointers in `q` stand with what was done: `d` is the one that a sender or a start has left. -/
structure Pointed (ops : List RecipientOp) (q : Pddb) (d : Option ProtocolAddress) : Prop where
  focused : q.text DIALOGUE_DICT FOCUSED_PEER_KEY =
    (PointerOp.lastSet (pointers ops) FOCUSED_PEER_KEY).map peerJson
  default : q.text DIALOGUE_DICT DEFAULT_PEER_KEY = d.map peerJson
  unquoted : ∀ a ∈ d, '"' ∉ a.name.toList
  sent : ∀ a ∈ PointerOp.lastSet (pointers ops) DEFAULT_PEER_KEY, d = some a
  seeded : PointerOp.lastSet (pointers ops) FOCUSED_PEER_KEY = none →
    PointerOp.lastSet (pointers ops) DEFAULT_PEER_KEY = none → d = firstSeed ops

theorem Pointed.or_eq {d : Option ProtocolAddress} (h : Pointed ops q d) :
    (PointerOp.lastSet (pointers ops) FOCUSED_PEER_KEY).or d = RecipientOp.recipient ops := by
  unfold RecipientOp.recipient
  cases hfocused : PointerOp.lastSet (pointers ops) FOCUSED_PEER_KEY with
  | some a => rfl
  | none =>
    rw [Option.none_or, Option.none_or]
    cases hsent : PointerOp.lastSet (pointers ops) DEFAULT_PEER_KEY with
    | some a => exact h.sent a hsent
    | none => exact h.seeded hfocused hsent

theorem Pointed.recipient_eq {d : Option ProtocolAddress} (h : Pointed ops q d)
    (hnames : ∀ op ∈ pointers ops, '"' ∉ op.address.name.toList) :
    q.recipient = (RecipientOp.recipient ops).elim (.error .NoRecipient) .ok := by
  rw [← h.or_eq, Pddb.recipient, h.focused, h.default]
  cases hfocused : PointerOp.lastSet (pointers ops) FOCUSED_PEER_KEY with
  | some a => exact parse_peerJson (name_of_lastSet hnames hfocused)
  | none =>
    cases d with
    | none => rfl
    | some a => exact parse_peerJson (h.unquoted a rfl)

theorem Pointed.seeds_eq {d : Option ProtocolAddress} (h : Pointed ops q d)
    (hnames : ∀ op ∈ pointers ops, '"' ∉ op.address.name.toList) (env : DemoEnv) :
    q.seeds env = if (RecipientOp.recipient ops).isNone then env.peer else none := by
  rw [Pddb.seeds, h.recipient_eq hnames]
  cases RecipientOp.recipient ops <;> rfl

theorem pointers_append (ops : List RecipientOp) (op : RecipientOp) :
    pointers (ops ++ [op]) = pointers ops ++ (op.pointer?).toList := by
  rw [pointers, List.filterMap_append]
  cases op <;> rfl

theorem pointers_append_start (ops : List RecipientOp) (env : DemoEnv) :
    pointers (ops ++ [.start env]) = pointers ops := by
  rw [pointers_append]
  exact List.append_nil _

theorem firstSeed_append (ops : List RecipientOp) (op : RecipientOp) :
    firstSeed (ops ++ [op]) = (firstSeed ops).or op.seed? := by
  rw [firstSeed, List.findSome?_append, List.findSome?_singleton, firstSeed]

theorem lastSet_append (ops : List PointerOp) (op : PointerOp) (key : String) :
    PointerOp.lastSet (ops ++ [op]) key = if op.key = key then some op.address else PointerOp.lastSet ops key := by
  rw [PointerOp.lastSet, latest_append_singleton]
  split_ifs <;> rfl

theorem run_start (q : Pddb) (env : DemoEnv) : ((RecipientOp.start env).program.run Pddb.handler q).state =
    (q.seeds env).elim q (fun addr => ((set_current_recipient addr).run Pddb.handler q).state) := by
  rw [← (run_seed q env).2, RecipientOp.program, Program.run_bind]
  rfl

theorem text_set (op : PointerOp) (key : String) : (op.program.run Pddb.handler q).state.text DIALOGUE_DICT key =
    if op.key = key then some (peerJson op.address) else q.text DIALOGUE_DICT key := text_program op q key

theorem Pointed.skip {d : Option ProtocolAddress} (h : Pointed ops q d) (env : DemoEnv)
    (hfirst : PointerOp.lastSet (pointers ops) FOCUSED_PEER_KEY = none →
      PointerOp.lastSet (pointers ops) DEFAULT_PEER_KEY = none → (firstSeed ops).or env.peer = firstSeed ops) :
    Pointed (ops ++ [.start env]) q d := by
  refine ⟨?_, h.default, h.unquoted, ?_, ?_⟩
  · rw [pointers_append_start]
    exact h.focused
  · rw [pointers_append_start]
    exact h.sent
  · rw [pointers_append_start, firstSeed_append]
    intro hfocused hsent
    rw [h.seeded hfocused hsent]
    exact (hfirst hfocused hsent).symm

theorem pointed_start {d : Option ProtocolAddress} (h : Pointed ops q d)
    (hnames : ∀ op ∈ pointers ops, '"' ∉ op.address.name.toList) (env : DemoEnv) :
    ∃ d', Pointed (ops ++ [.start env]) (((RecipientOp.start env).program.run Pddb.handler q).state) d' := by
  rw [run_start, h.seeds_eq hnames]
  cases hrecipient : RecipientOp.recipient ops with
  | some a =>
    refine ⟨d, h.skip env ?_⟩
    intro hfocused hsent
    rw [RecipientOp.recipient, hfocused, hsent, Option.none_or, Option.none_or] at hrecipient
    rw [hrecipient]
    rfl
  | none =>
    obtain ⟨hfocused, hrest⟩ := Option.or_eq_none_iff.mp hrecipient
    obtain ⟨hsent, hfirst⟩ := Option.or_eq_none_iff.mp hrest
    cases hpeer : env.peer with
    | none => exact ⟨d, h.skip env (fun _ _ => by rw [hpeer, Option.or_none])⟩
    | some addr =>
      refine ⟨some addr, ?_, ?_, ?_, ?_, ?_⟩
      · rw [pointers_append_start]
        exact (text_set (.set_current_recipient addr) FOCUSED_PEER_KEY).trans h.focused
      · exact text_set (.set_current_recipient addr) DEFAULT_PEER_KEY
      · rintro a ⟨⟩
        exact name_of_peer hpeer
      · rw [pointers_append_start, hsent]
        rintro a ⟨⟩
      · intro _ _
        rw [firstSeed_append, hfirst, Option.none_or]
        exact hpeer.symm

theorem pointed_pointer {d : Option ProtocolAddress} (h : Pointed ops q d) (op : PointerOp)
    (hname : '"' ∉ op.address.name.toList) :
    ∃ d', Pointed (ops ++ [.pointer op]) ((op.program.run Pddb.handler q).state) d' := by
  have hpointers : pointers (ops ++ [.pointer op]) = pointers ops ++ [op] := pointers_append ops _
  cases op with
  | set_current_recipient addr =>
    refine ⟨some addr, ?_, ?_, ?_, ?_, ?_⟩
    · rw [hpointers, lastSet_append]
      exact (text_set (.set_current_recipient addr) FOCUSED_PEER_KEY).trans h.focused
    · exact text_set (.set_current_recipient addr) DEFAULT_PEER_KEY
    · rintro a ⟨⟩
      exact hname
    · rw [hpointers, lastSet_append]
      rintro a ⟨⟩
      rfl
    · rw [hpointers, lastSet_append, lastSet_append]
      rintro - ⟨⟩
  | set_focused_peer addr =>
    refine ⟨d, ?_, ?_, h.unquoted, ?_, ?_⟩
    · rw [hpointers, lastSet_append]
      exact text_set (.set_focused_peer addr) FOCUSED_PEER_KEY
    · exact (text_set (.set_focused_peer addr) DEFAULT_PEER_KEY).trans h.default
    · rw [hpointers, lastSet_append]
      exact h.sent
    · rw [hpointers, lastSet_append]
      rintro ⟨⟩

theorem pointed_after (hp : Unpointed p) {ops : List RecipientOp}
    (hnames : ∀ op ∈ pointers ops, '"' ∉ op.address.name.toList) :
    ∃ d, Pointed ops (Program.after Pddb.handler RecipientOp.program ops p) d := by
  induction ops using List.reverseRecOn with
  | nil =>
    refine ⟨none, hp.focused, hp.default, ?_, ?_, fun _ _ => rfl⟩
    · rintro a ⟨⟩
    · rintro a ⟨⟩
  | append_singleton ops op ih =>
    rw [pointers_append] at hnames
    obtain ⟨hbefore, hlast⟩ := List.forall_mem_append.mp hnames
    obtain ⟨d, h⟩ := ih hbefore
    rw [Program.after_append_singleton]
    cases op with
    | start env => exact pointed_start h hbefore env
    | pointer op => exact pointed_pointer h op (hlast op List.mem_cons_self)

/-- A peer from the environment never goes before a conversation that was opened or a sender, and only the first such
peer is ever taken. -/
theorem seed_gives_way (hp : Unpointed p) {ops : List RecipientOp}
    (hnames : ∀ op ∈ pointers ops, '"' ∉ op.address.name.toList) :
    let q := Program.after Pddb.handler RecipientOp.program ops p
    (current_recipient.run Pddb.handler q).value = (RecipientOp.recipient ops).elim (.error .NoRecipient) .ok ∧
      ∀ env, ((seed_demo_recipient_from_env env).run Pddb.handler q).value =
        .ok ((RecipientOp.recipient ops).isNone && env.peer.isSome) := by
  intro q
  obtain ⟨d, h⟩ := pointed_after hp hnames
  refine ⟨(run_current_recipient q).1.trans (h.recipient_eq hnames), ?_⟩
  intro env
  rw [(run_seed q env).1, h.seeds_eq hnames]
  cases RecipientOp.recipient ops <;> rfl

def demoEnv : DemoEnv := ⟨some "0a1b2c3d-4e5f-6789-abcd-ef0123456789", none⟩

def otherEnv : DemoEnv := ⟨some "ffffffff-4e5f-6789-abcd-ef0123456789", some "2"⟩

theorem seeded_once :
    let q := Program.after Pddb.handler RecipientOp.program [.start demoEnv, .start otherEnv] ∅
    (current_recipient.run Pddb.handler q).value =
        .ok ⟨"0a1b2c3d-4e5f-6789-abcd-ef0123456789", PointerOp.device⟩ ∧
      ∀ env, ((seed_demo_recipient_from_env env).run Pddb.handler q).value = .ok false := by
  have hfirst : RecipientOp.recipient [.start demoEnv, .start otherEnv] =
      some ⟨"0a1b2c3d-4e5f-6789-abcd-ef0123456789", PointerOp.device⟩ := by decide +kernel
  have hnames : ∀ op ∈ pointers [.start demoEnv, .start otherEnv], '"' ∉ op.address.name.toList := by
    simp [pointers, pointer?]
  have hrun := seed_gives_way (p := ∅) ⟨rfl, rfl⟩ hnames
  rw [hfirst] at hrun
  exact hrun

end Starts

end XousSignalClient
