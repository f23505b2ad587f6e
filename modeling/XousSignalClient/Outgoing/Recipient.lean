import XousSignalClient.Outgoing.Encrypt

namespace XousSignalClient

open Encoding Interaction

def DIALOGUE_DICT : String := "sigchat.dialogue"
def DEFAULT_PEER_KEY : String := "default.peer"
def FOCUSED_PEER_KEY : String := "current.peer"

def pddb_get_string (dict key : String) : PddbProgram (Option String) := do
  match ← pddbRead dict key with
  | .ok buf => pure (from_utf8 buf)
  | .error _ => pure none

namespace Outgoing

def extract_string_field (s key : String) : Option String := do
  let rest ← afterFirst ("\"" ++ key ++ "\":\"").toList s.toList
  if '"' ∈ rest then some (String.ofList (rest.takeWhile (· ≠ '"'))) else none

def extract_number_field (s key : String) : Option String := do
  let rest ← afterFirst ("\"" ++ key ++ "\":").toList s.toList
  some (String.ofList (rest.takeWhile Char.isDigit))

def parseIntError (s : String) : String :=
  if s.isEmpty then "cannot parse integer from empty string"
  else "number too large to fit in target type"

def parse_peer_json (s : String) : Except OutgoingError ProtocolAddress :=
  match extract_string_field s "uuid" with
  | none => .error (.Pddb "peer json: uuid missing")
  | some uuid =>
    match extract_number_field s "device_id" with
    | none => .error (.Pddb "peer json: device_id missing")
    | some dev_str =>
      match parseUnsigned (2 ^ 32) dev_str with
      | none => .error (.Pddb ("peer json: device_id parse: " ++ parseIntError dev_str))
      | some dev_id =>
        match DeviceId.new dev_id with
        | none => .error (.BadDeviceId dev_id)
        | some dev => .ok ⟨uuid, dev⟩

end Outgoing

def peerJson (addr : ProtocolAddress) : String :=
  "\x7b\"uuid\":\"" ++ addr.name ++ "\",\"device_id\":" ++ toString addr.device_id.val ++ "\x7d"

def setPeer (key : String) (addr : ProtocolAddress) : PddbProgram (Except OutgoingError Unit) := do
  let _ ← pddbDelete DIALOGUE_DICT key
  match ← pddbWrite DIALOGUE_DICT key (utf8 (peerJson addr)) with
  | .error e => pure (.error (.Pddb ("write: " ++ e.text)))
  | .ok () =>
    let _ ← pddbSync
    pure (.ok ())

def set_current_recipient (remote_addr : ProtocolAddress) : PddbProgram (Except OutgoingError Unit) :=
  setPeer DEFAULT_PEER_KEY remote_addr

def set_focused_peer (addr : ProtocolAddress) : PddbProgram (Except OutgoingError Unit) :=
  setPeer FOCUSED_PEER_KEY addr

def current_recipient : PddbProgram (Except OutgoingError ProtocolAddress) := do
  match ← pddb_get_string DIALOGUE_DICT FOCUSED_PEER_KEY with
  | some raw => pure (Outgoing.parse_peer_json raw)
  | none =>
    match ← pddb_get_string DIALOGUE_DICT DEFAULT_PEER_KEY with
    | none => pure (.error .NoRecipient)
    | some raw => pure (Outgoing.parse_peer_json raw)

def focused_peer_uuid : PddbProgram (Option String) := do
  match ← pddb_get_string DIALOGUE_DICT FOCUSED_PEER_KEY with
  | none => pure none
  | some raw => pure (Outgoing.extract_string_field raw "uuid")

theorem pddb_get_string_bind {α : Type} (dict key : String) (k : Option String → PddbProgram α) :
    pddb_get_string dict key >>= k =
      .ask (S := pddbSignature) (.read dict key) (fun r => k ((Except.toOption r).bind from_utf8)) := by
  refine congrArg (Program.ask (S := pddbSignature) (.read dict key)) (funext fun r => ?_)
  cases r <;> rfl

section Parse

variable {addr : ProtocolAddress}

theorem peerJson_toList (addr : ProtocolAddress) : (peerJson addr).toList =
    '\x7b' :: ("\"uuid\":\"".toList ++ (addr.name.toList ++ '"' :: ',' :: ("\"device_id\":".toList ++
      ((toString addr.device_id.val).toList ++ ['\x7d'])))) := by
  simp [peerJson, String.toList_append]

theorem uuid_of_peerJson (hname : '"' ∉ addr.name.toList) :
    Outgoing.extract_string_field (peerJson addr) "uuid" = some addr.name := by
  have hneedle : ("\"" ++ "uuid" ++ "\":\"").toList = "\"uuid\":\"".toList := by decide
  have hplain : ∀ c ∈ addr.name.toList, (decide (c ≠ '"')) = true := by
    intro c hc
    simpa using fun h : c = '"' => hname (h ▸ hc)
  rw [Outgoing.extract_string_field, hneedle, peerJson_toList, afterFirst_cons (by rfl),
    afterFirst_append _ _ (by decide)]
  simp only [Option.bind_eq_bind, Option.bind_some]
  rw [if_pos (by simp), List.takeWhile_append_of_pos hplain]
  simp [String.ofList_toList]

theorem device_not_in_name (hname : '"' ∉ addr.name.toList) (rest : List Char) :
    "\"device_id\":".toList.isPrefixOf? ('"' :: (addr.name.toList ++ '"' :: ',' :: rest)) = none := by
  have hneedle : "\"device_id\":".toList = '"' :: ("device_id".toList ++ ['"', ':']) := by decide
  rw [hneedle]
  cases hp : ('"' :: ("device_id".toList ++ ['"', ':'])).isPrefixOf?
      ('"' :: (addr.name.toList ++ '"' :: ',' :: rest)) with
  | none => rfl
  | some tail =>
    rw [List.isPrefixOf?_eq_some_iff_append_eq] at hp
    have heq : "device_id".toList ++ '"' :: ':' :: tail = addr.name.toList ++ '"' :: ',' :: rest := by
      simpa using hp
    have hsep := (first_sep_eq (by decide) hname heq).2
    cases hsep

theorem device_of_peerJson (hname : '"' ∉ addr.name.toList) :
    Outgoing.extract_number_field (peerJson addr) "device_id" = some (toString addr.device_id.val) := by
  have hneedle : ("\"" ++ "device_id" ++ "\":").toList = "\"device_id\":".toList := by decide
  have hquote : "\"device_id\":".toList = '"' :: "device_id\":".toList := by decide
  have huuid : "\"uuid\":\"".toList = '"' :: ("uuid".toList ++ '"' :: ':' :: ['"']) := by decide
  have hskip : ∀ (cs rest : List Char), '"' ∉ cs →
      afterFirst "\"device_id\":".toList (cs ++ rest) = afterFirst "\"device_id\":".toList rest := by
    intro cs rest hcs
    rw [hquote]
    exact afterFirst_skip hcs
  have hdigits := toString_digits addr.device_id.val
  rw [Outgoing.extract_number_field, hneedle, peerJson_toList, afterFirst_cons (by rfl), huuid,
    List.cons_append, afterFirst_cons (by rfl), List.append_assoc, hskip _ _ (by decide), List.cons_append,
    afterFirst_cons (by rfl), List.cons_append, afterFirst_cons (by rfl), List.singleton_append,
    afterFirst_cons (device_not_in_name hname _), hskip _ _ hname, afterFirst_cons (by rfl),
    afterFirst_cons (by rfl), afterFirst_append _ _ (by decide)]
  simp only [Option.bind_eq_bind, Option.bind_some]
  rw [List.takeWhile_append_of_pos hdigits, List.takeWhile_cons_of_neg (by decide), List.append_nil,
    String.ofList_toList]

theorem parse_peerJson (hname : '"' ∉ addr.name.toList) :
    Outgoing.parse_peer_json (peerJson addr) = .ok addr := by
  have hvalid := addr.device_id.valid
  simp only [Outgoing.parse_peer_json, uuid_of_peerJson hname, device_of_peerJson hname,
    parseUnsigned_toString (show addr.device_id.val < 2 ^ 32 by omega), DeviceId.new_val]

end Parse

section Pointers

def Pddb.text (p : Pddb) (dict key : String) : Option String := (p.value dict key).bind from_utf8

theorem run_get_string (p : Pddb) (dict key : String) :
    (pddb_get_string dict key).run Pddb.handler p =
      ⟨p.text dict key, p, ((pddb_get_string dict key).run Pddb.handler p).events⟩ := by
  obtain ⟨hv, hs⟩ := Pddb.run_read p dict key
  unfold pddb_get_string
  rw [Program.run_bind, hv, hs, Pddb.text]
  cases p.value dict key <;> rfl

theorem run_setPeer (p : Pddb) (key : String) (addr : ProtocolAddress) :
    ((setPeer key addr).run Pddb.handler p).value = .ok () ∧
      ((setPeer key addr).run Pddb.handler p).state =
        ((pddb_write_binary DIALOGUE_DICT key (utf8 (peerJson addr))).run Pddb.handler p).state := ⟨rfl, rfl⟩

theorem text_setPeer (p : Pddb) (key dict key' : String) (addr : ProtocolAddress) :
    ((setPeer key addr).run Pddb.handler p).state.text dict key' =
      if (dict, key') = (DIALOGUE_DICT, key) then some (peerJson addr) else p.text dict key' := by
  rw [(run_setPeer p key addr).2, Pddb.text, (Pddb.run_write_binary p DIALOGUE_DICT key _).2]
  split_ifs with hk
  · rw [Option.bind_some, from_utf8_utf8]
  · rfl

def Pddb.recipient (p : Pddb) : Except OutgoingError ProtocolAddress :=
  match p.text DIALOGUE_DICT FOCUSED_PEER_KEY with
  | some raw => Outgoing.parse_peer_json raw
  | none =>
    match p.text DIALOGUE_DICT DEFAULT_PEER_KEY with
    | none => .error .NoRecipient
    | some raw => Outgoing.parse_peer_json raw

def Pddb.focused (p : Pddb) : Option String :=
  (p.text DIALOGUE_DICT FOCUSED_PEER_KEY).bind (fun raw => Outgoing.extract_string_field raw "uuid")

theorem run_current_recipient (p : Pddb) :
    (current_recipient.run Pddb.handler p).value = p.recipient ∧
      (current_recipient.run Pddb.handler p).state = p := by
  unfold current_recipient Pddb.recipient
  rw [Program.run_bind, run_get_string]
  cases p.text DIALOGUE_DICT FOCUSED_PEER_KEY with
  | some raw => exact ⟨rfl, rfl⟩
  | none =>
    simp only
    rw [Program.run_bind, run_get_string]
    cases p.text DIALOGUE_DICT DEFAULT_PEER_KEY <;> exact ⟨rfl, rfl⟩

theorem run_focused_peer_uuid (p : Pddb) :
    (focused_peer_uuid.run Pddb.handler p).value = p.focused ∧
      (focused_peer_uuid.run Pddb.handler p).state = p := by
  unfold focused_peer_uuid Pddb.focused
  rw [Program.run_bind, run_get_string]
  cases p.text DIALOGUE_DICT FOCUSED_PEER_KEY <;> exact ⟨rfl, rfl⟩

end Pointers

end XousSignalClient
