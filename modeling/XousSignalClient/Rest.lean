import XousSignalClient.Account.Link
import XousSignalClient.Encoding.JsonValue
import XousSignalClient.Prekeys.Replenish
import XousSignalClient.Send.Status

namespace XousSignalClient

open Encoding

section Bodies

/-- `SignedPreKeyEntity` and `KyberPreKeyEntity`. -/
def PreKeyJson.toJson (k : PreKeyJson) : Json :=
  .object [("keyId", .number k.key_id), ("publicKey", .string k.public_key_b64url),
    ("signature", .string k.signature_b64url)]

def Capabilities.toJson (c : Capabilities) : Json :=
  .object [("storage", .bool c.storage), ("versionedExpirationTimer", .bool c.versioned_expiration_timer),
    ("attachmentBackfill", .bool c.attachment_backfill), ("ssre2", .bool c.ssre2), ("spqr", .bool c.spqr)]

def AccountAttributes.toJson (a : AccountAttributes) : Json :=
  .object [("registrationId", .number a.registration_id), ("fetchesMessages", .bool a.fetches_messages),
    ("registrationLock", Json.ofOption a.registration_lock),
    ("unidentifiedAccessKey", .string a.unidentified_access_key),
    ("unrestrictedUnidentifiedAccess", .bool a.unrestricted_unidentified_access),
    ("discoverableByPhoneNumber", .bool a.discoverable_by_phone_number), ("capabilities", a.capabilities.toJson),
    ("name", .string a.name), ("pniRegistrationId", .number a.pni_registration_id),
    ("recoveryPassword", Json.ofOption a.recovery_password)]

/-- `gcm_token` is `None` always, and skipped. -/
def LinkDeviceRequestBody.toJson (b : LinkDeviceRequestBody) : Json :=
  .object [("verificationCode", .string b.verification_code), ("accountAttributes", b.account_attributes.toJson),
    ("aciSignedPreKey", b.aci_signed_pre_key.toJson), ("pniSignedPreKey", b.pni_signed_pre_key.toJson),
    ("aciPqLastResortPreKey", b.aci_pq_last_resort_pre_key.toJson),
    ("pniPqLastResortPreKey", b.pni_pq_last_resort_pre_key.toJson)]

def OneTimePreKeyEntity.toJson (k : OneTimePreKeyEntity) : Json :=
  .object [("keyId", .number k.key_id), ("publicKey", .string k.public_key)]

def skipEmpty {α : Type} (key : String) (item : α → Json) (l : List α) : List (String × Json) :=
  if l = [] then [] else [(key, .array (l.map item))]

def skipNone {α : Type} (key : String) (item : α → Json) (o : Option α) : List (String × Json) :=
  (o.map (fun a => (key, item a))).toList

def SetKeysRequest.toJson (r : SetKeysRequest) : Json :=
  .object (skipEmpty "preKeys" OneTimePreKeyEntity.toJson r.pre_keys ++
    skipNone "signedPreKey" PreKeyJson.toJson r.signed_pre_key ++
    skipEmpty "pqPreKeys" PreKeyJson.toJson r.pq_pre_keys ++
    skipNone "pqLastResortPreKey" PreKeyJson.toJson r.pq_last_resort_pre_key)

def OutgoingMessageEntity.toJson (m : OutgoingMessageEntity) : Json :=
  .object [("type", .number m.message_type), ("destinationDeviceId", .number m.destination_device_id),
    ("destinationRegistrationId", .number m.destination_registration_id), ("content", .string m.content)]

def SubmitMessagesRequest.toJson (r : SubmitMessagesRequest) : Json :=
  .object [("messages", .array (r.messages.map OutgoingMessageEntity.toJson)), ("online", .bool r.online),
    ("urgent", .bool r.urgent), ("timestamp", .number r.timestamp.toNat)]

end Bodies

section Server

def PreKeyJson.ofJson (v : Json) : Option PreKeyJson := do
  let key_id ← v.field "keyId" >>= Json.asNumber
  let public_key ← v.field "publicKey" >>= Json.asString
  let signature ← v.field "signature" >>= Json.asString
  some ⟨key_id, public_key, signature⟩

def Capabilities.ofJson (v : Json) : Option Capabilities := do
  let storage ← v.field "storage" >>= Json.asBool
  let versioned_expiration_timer ← v.field "versionedExpirationTimer" >>= Json.asBool
  let attachment_backfill ← v.field "attachmentBackfill" >>= Json.asBool
  let ssre2 ← v.field "ssre2" >>= Json.asBool
  let spqr ← v.field "spqr" >>= Json.asBool
  some ⟨storage, versioned_expiration_timer, attachment_backfill, ssre2, spqr⟩

def AccountAttributes.ofJson (v : Json) : Option AccountAttributes := do
  let registration_id ← v.field "registrationId" >>= Json.asNumber
  let fetches_messages ← v.field "fetchesMessages" >>= Json.asBool
  let registration_lock ← v.field "registrationLock" >>= Json.asOption Json.asString
  let unidentified_access_key ← v.field "unidentifiedAccessKey" >>= Json.asString
  let unrestricted_unidentified_access ← v.field "unrestrictedUnidentifiedAccess" >>= Json.asBool
  let discoverable_by_phone_number ← v.field "discoverableByPhoneNumber" >>= Json.asBool
  let capabilities ← v.field "capabilities" >>= Capabilities.ofJson
  let name ← v.field "name" >>= Json.asString
  let pni_registration_id ← v.field "pniRegistrationId" >>= Json.asNumber
  let recovery_password ← v.field "recoveryPassword" >>= Json.asOption Json.asString
  some ⟨registration_id, fetches_messages, registration_lock, unidentified_access_key,
    unrestricted_unidentified_access, discoverable_by_phone_number, capabilities, name, pni_registration_id,
    recovery_password⟩

def LinkDeviceRequestBody.ofJson (v : Json) : Option LinkDeviceRequestBody := do
  let verification_code ← v.field "verificationCode" >>= Json.asString
  let account_attributes ← v.field "accountAttributes" >>= AccountAttributes.ofJson
  let aci_signed_pre_key ← v.field "aciSignedPreKey" >>= PreKeyJson.ofJson
  let pni_signed_pre_key ← v.field "pniSignedPreKey" >>= PreKeyJson.ofJson
  let aci_pq_last_resort_pre_key ← v.field "aciPqLastResortPreKey" >>= PreKeyJson.ofJson
  let pni_pq_last_resort_pre_key ← v.field "pniPqLastResortPreKey" >>= PreKeyJson.ofJson
  some ⟨verification_code, account_attributes, aci_signed_pre_key, pni_signed_pre_key, aci_pq_last_resort_pre_key,
    pni_pq_last_resort_pre_key⟩

def OneTimePreKeyEntity.ofJson (v : Json) : Option OneTimePreKeyEntity := do
  let key_id ← v.field "keyId" >>= Json.asNumber
  let public_key ← v.field "publicKey" >>= Json.asString
  some ⟨key_id, public_key⟩

def SetKeysRequest.ofJson (v : Json) : Option SetKeysRequest := do
  let pre_keys ← v.absent [] (Json.asArray OneTimePreKeyEntity.ofJson) "preKeys"
  let signed_pre_key ← v.absent none (fun v => (PreKeyJson.ofJson v).map some) "signedPreKey"
  let pq_pre_keys ← v.absent [] (Json.asArray PreKeyJson.ofJson) "pqPreKeys"
  let pq_last_resort_pre_key ← v.absent none (fun v => (PreKeyJson.ofJson v).map some) "pqLastResortPreKey"
  some ⟨pre_keys, signed_pre_key, pq_pre_keys, pq_last_resort_pre_key⟩

def OutgoingMessageEntity.ofJson (v : Json) : Option OutgoingMessageEntity := do
  let message_type ← v.field "type" >>= Json.asNumber
  let destination_device_id ← v.field "destinationDeviceId" >>= Json.asNumber
  let destination_registration_id ← v.field "destinationRegistrationId" >>= Json.asNumber
  let content ← v.field "content" >>= Json.asString
  some ⟨message_type, destination_device_id, destination_registration_id, content⟩

def SubmitMessagesRequest.ofJson (v : Json) : Option SubmitMessagesRequest := do
  let messages ← v.field "messages" >>= Json.asArray OutgoingMessageEntity.ofJson
  let online ← v.field "online" >>= Json.asBool
  let urgent ← v.field "urgent" >>= Json.asBool
  let timestamp ← v.field "timestamp" >>= Json.asNumber
  some ⟨messages, online, urgent, UInt64.ofNat timestamp⟩

end Server

section RoundTrip

theorem preKey_ofJson (k : PreKeyJson) : PreKeyJson.ofJson k.toJson = some k := rfl

theorem oneTimePreKey_ofJson (k : OneTimePreKeyEntity) : OneTimePreKeyEntity.ofJson k.toJson = some k := rfl

theorem outgoingMessage_ofJson (m : OutgoingMessageEntity) : OutgoingMessageEntity.ofJson m.toJson = some m := rfl

theorem attributes_ofJson (a : AccountAttributes) : AccountAttributes.ofJson a.toJson = some a := by
  have hlock : a.toJson.field "registrationLock" >>= Json.asOption Json.asString = some a.registration_lock :=
    Json.asOption_ofOption a.registration_lock
  have hpassword : a.toJson.field "recoveryPassword" >>= Json.asOption Json.asString = some a.recovery_password :=
    Json.asOption_ofOption a.recovery_password
  unfold AccountAttributes.ofJson
  rw [hlock, hpassword]
  rfl

theorem linkBody_ofJson (b : LinkDeviceRequestBody) : LinkDeviceRequestBody.ofJson b.toJson = some b := by
  have hattributes : b.toJson.field "accountAttributes" >>= AccountAttributes.ofJson = some b.account_attributes :=
    attributes_ofJson b.account_attributes
  unfold LinkDeviceRequestBody.ofJson
  rw [hattributes]
  rfl

section Skipped

variable {α : Type} {key k : String} (item : α → Json)

theorem lookup_skipEmpty (l : List α) :
    (skipEmpty key item l).lookup key = if l = [] then none else some (.array (l.map item)) := by
  unfold skipEmpty
  split_ifs with hl
  · rfl
  · rw [List.lookup_cons, beq_self_eq_true]

theorem lookup_skipEmpty_ne (h : k ≠ key) (l : List α) : (skipEmpty key item l).lookup k = none := by
  unfold skipEmpty
  split_ifs with hl
  · rfl
  · rw [List.lookup_cons, beq_false_of_ne h]
    rfl

theorem lookup_skipNone (o : Option α) : (skipNone key item o).lookup key = o.map item := by
  cases o with
  | none => rfl
  | some a => exact List.lookup_cons_self

theorem lookup_skipNone_ne (h : k ≠ key) (o : Option α) : (skipNone key item o).lookup k = none := by
  cases o with
  | none => rfl
  | some a =>
    unfold skipNone
    rw [Option.map_some, Option.toList_some, List.lookup_cons, beq_false_of_ne h]
    rfl

variable {item}

theorem absent_skipEmpty {read : Json → Option α} (h : ∀ a, read (item a) = some a) {l : List α} {v : Json}
    (hv : v.field key = if l = [] then none else some (.array (l.map item))) :
    v.absent [] (Json.asArray read) key = some l := by
  rw [Json.absent, hv]
  split_ifs with hl
  · rw [hl]
  · exact Json.asArray_map h l

theorem absent_skipNone {read : Json → Option α} (h : ∀ a, read (item a) = some a) {o : Option α} {v : Json}
    (hv : v.field key = o.map item) : v.absent none (fun v => (read v).map some) key = some o := by
  rw [Json.absent, hv]
  cases o with
  | none => rfl
  | some a =>
    simp only [Option.map_some, h]

end Skipped

theorem setKeys_ofJson (r : SetKeysRequest) : SetKeysRequest.ofJson r.toJson = some r := by
  have hpre : r.toJson.absent [] (Json.asArray OneTimePreKeyEntity.ofJson) "preKeys" = some r.pre_keys := by
    apply absent_skipEmpty oneTimePreKey_ofJson
    simp (disch := decide) only [SetKeysRequest.toJson, Json.field, List.lookup_append, lookup_skipEmpty,
      lookup_skipEmpty_ne, lookup_skipNone_ne, Option.or_none]
  have hsigned : r.toJson.absent none (fun v => (PreKeyJson.ofJson v).map some) "signedPreKey" =
      some r.signed_pre_key := by
    apply absent_skipNone preKey_ofJson
    simp (disch := decide) only [SetKeysRequest.toJson, Json.field, List.lookup_append, lookup_skipNone,
      lookup_skipEmpty_ne, lookup_skipNone_ne, Option.or_none, Option.none_or]
  have hpq : r.toJson.absent [] (Json.asArray PreKeyJson.ofJson) "pqPreKeys" = some r.pq_pre_keys := by
    apply absent_skipEmpty preKey_ofJson
    simp (disch := decide) only [SetKeysRequest.toJson, Json.field, List.lookup_append, lookup_skipEmpty,
      lookup_skipEmpty_ne, lookup_skipNone_ne, Option.or_none, Option.none_or]
  have hlast : r.toJson.absent none (fun v => (PreKeyJson.ofJson v).map some) "pqLastResortPreKey" =
      some r.pq_last_resort_pre_key := by
    apply absent_skipNone preKey_ofJson
    simp (disch := decide) only [SetKeysRequest.toJson, Json.field, List.lookup_append, lookup_skipNone,
      lookup_skipEmpty_ne, lookup_skipNone_ne, Option.none_or]
  unfold SetKeysRequest.ofJson
  rw [hpre, hsigned, hpq, hlast]
  rfl

theorem submit_ofJson (r : SubmitMessagesRequest) : SubmitMessagesRequest.ofJson r.toJson = some r := by
  have hmessages : r.toJson.field "messages" >>= Json.asArray OutgoingMessageEntity.ofJson = some r.messages :=
    Json.asArray_map outgoingMessage_ofJson r.messages
  unfold SubmitMessagesRequest.ofJson
  rw [hmessages]
  simp [SubmitMessagesRequest.toJson, Json.field, List.lookup_cons, Json.asBool, Json.asNumber]

/-- The server reads back each request that the program writes, whatever characters its texts hold. -/
theorem request_bodies_read_back :
    (∀ b : LinkDeviceRequestBody, Json.parse b.toJson.text >>= LinkDeviceRequestBody.ofJson = some b) ∧
      (∀ a : AccountAttributes, Json.parse a.toJson.text >>= AccountAttributes.ofJson = some a) ∧
      (∀ r : SetKeysRequest, Json.parse r.toJson.text >>= SetKeysRequest.ofJson = some r) ∧
      ∀ r : SubmitMessagesRequest, Json.parse r.toJson.text >>= SubmitMessagesRequest.ofJson = some r := by
  refine ⟨?_, ?_, ?_, ?_⟩
  · intro b
    rw [Json.parse_text]
    exact linkBody_ofJson b
  · intro a
    rw [Json.parse_text]
    exact attributes_ofJson a
  · intro r
    rw [Json.parse_text]
    exact setKeys_ofJson r
  · intro r
    rw [Json.parse_text]
    exact submit_ofJson r

end RoundTrip

section Redaction

def verificationKey : List Char := "\"verificationCode\":\"".toList

def redact_verification_code (json : String) : String :=
  match afterFirst verificationKey json.toList with
  | none => json
  | some value =>
    match value.dropWhile (· ≠ '"') with
    | [] => json
    | rest =>
      String.ofList (json.toList.take (json.toList.length - value.length) ++ "<redacted>".toList ++ rest)

def LinkDeviceRequestBody.afterCode (b : LinkDeviceRequestBody) : List Char :=
  '"' :: (Json.renderMembers [("accountAttributes", b.account_attributes.toJson),
    ("aciSignedPreKey", b.aci_signed_pre_key.toJson), ("pniSignedPreKey", b.pni_signed_pre_key.toJson),
    ("aciPqLastResortPreKey", b.aci_pq_last_resort_pre_key.toJson),
    ("pniPqLastResortPreKey", b.pni_pq_last_resort_pre_key.toJson)] ++ ['}'])

theorem render_linkBody (b : LinkDeviceRequestBody) : b.toJson.render =
    '{' :: (verificationKey ++ (b.verification_code.toList.flatMap Json.escape ++ b.afterCode)) := by
  have hkey : Json.stringText "verificationCode" ++ [':', '"'] = verificationKey := by decide
  have hcode : Json.stringText b.verification_code =
      '"' :: (b.verification_code.toList.flatMap Json.escape ++ ['"']) := rfl
  rw [LinkDeviceRequestBody.toJson, Json.render, Json.tail_renderMembers, Json.render, hcode, ← hkey,
    LinkDeviceRequestBody.afterCode]
  simp only [List.append_assoc, List.cons_append, List.nil_append]

theorem quote_not_mem_escape {c : Char} (hc : c ≠ '"') : '"' ∉ Json.escape c := by
  have hhex : ∀ k : Fin 16, Json.hexDigit k ≠ '"' := by decide
  unfold Json.escape
  cases hletter : Json.shortEscape c with
  | some letter =>
    have hread := (Json.unescape_shortEscape hletter).2
    have hne : letter ≠ '"' := by
      rintro rfl
      exact hc (Option.some.inj hread).symm
    simp [Ne.symm hne]
  | none =>
    simp only
    split_ifs with hcontrol
    · have hhigh := hhex ⟨c.toNat / 16, by omega⟩
      have hlow := hhex ⟨c.toNat % 16, by omega⟩
      simp only [List.mem_cons, List.not_mem_nil, or_false, not_or]
      exact ⟨by decide, by decide, by decide, by decide, hhigh.symm, hlow.symm⟩
    · simpa using hc.symm

theorem quote_not_mem_escaped {cs : List Char} (h : '"' ∉ cs) : '"' ∉ cs.flatMap Json.escape := by
  intro hmem
  obtain ⟨c, hc, hquote⟩ := List.mem_flatMap.mp hmem
  exact quote_not_mem_escape (fun heq => h (heq ▸ hc)) hquote

theorem redact_eq {hidden rest : List Char} (hhidden : '"' ∉ hidden) :
    redact_verification_code (String.ofList ('{' :: (verificationKey ++ (hidden ++ '"' :: rest)))) =
      String.ofList ('{' :: (verificationKey ++ ("<redacted>".toList ++ '"' :: rest))) := by
  have hfirst : afterFirst verificationKey ('{' :: (verificationKey ++ (hidden ++ '"' :: rest))) =
      some (hidden ++ '"' :: rest) := by
    have hskip : afterFirst verificationKey (['{'] ++ (verificationKey ++ (hidden ++ '"' :: rest))) =
        afterFirst verificationKey (verificationKey ++ (hidden ++ '"' :: rest)) := afterFirst_skip (by decide)
    exact hskip.trans (afterFirst_append verificationKey _ (by decide))
  have hkeep : ∀ c ∈ hidden, decide (c ≠ '"') = true := fun c hc => decide_eq_true (fun heq => hhidden (heq ▸ hc))
  have hdrop : (hidden ++ '"' :: rest).dropWhile (fun c => decide (c ≠ '"')) = '"' :: rest := by
    rw [List.dropWhile_append_of_pos hkeep]
    rfl
  have htake : ('{' :: (verificationKey ++ (hidden ++ '"' :: rest))).take
      (('{' :: (verificationKey ++ (hidden ++ '"' :: rest))).length - (hidden ++ '"' :: rest).length) =
        '{' :: verificationKey := by
    have hlength : ('{' :: (verificationKey ++ (hidden ++ '"' :: rest))).length - (hidden ++ '"' :: rest).length =
        ('{' :: verificationKey).length := by
      simp only [List.length_cons, List.length_append]
      omega
    rw [hlength, ← List.cons_append, List.take_left']
    rfl
  rw [redact_verification_code, String.toList_ofList, hfirst]
  simp only [hdrop, htake, List.cons_append, List.append_assoc]

theorem redact_plain {b : LinkDeviceRequestBody} (hplain : '"' ∉ b.verification_code.toList) :
    redact_verification_code b.toJson.text = ({ b with verification_code := "<redacted>" }).toJson.text := by
  have hself : "<redacted>".toList.flatMap Json.escape = "<redacted>".toList := by decide
  have hshown : redact_verification_code (String.ofList ('{' :: (verificationKey ++
      (b.verification_code.toList.flatMap Json.escape ++ b.afterCode)))) =
        String.ofList ('{' :: (verificationKey ++ ("<redacted>".toList ++ b.afterCode))) :=
    redact_eq (quote_not_mem_escaped hplain)
  rw [Json.text, Json.text, render_linkBody, render_linkBody, hself]
  exact hshown

theorem redact_quoted {b : LinkDeviceRequestBody} {hidden leaked : List Char}
    (hcode : b.verification_code.toList = hidden ++ '"' :: leaked) (hhidden : '"' ∉ hidden) :
    redact_verification_code b.toJson.text = String.ofList ('{' :: (verificationKey ++ ("<redacted>".toList ++
      '"' :: (leaked.flatMap Json.escape ++ b.afterCode)))) := by
  have hslash : '"' ∉ hidden.flatMap Json.escape ++ ['\\'] := by
    rw [List.mem_append, not_or]
    exact ⟨quote_not_mem_escaped hhidden, by decide⟩
  have hquote : Json.escape '"' = ['\\', '"'] := rfl
  have htext : b.verification_code.toList.flatMap Json.escape ++ b.afterCode =
      (hidden.flatMap Json.escape ++ ['\\']) ++ '"' :: (leaked.flatMap Json.escape ++ b.afterCode) := by
    rw [hcode, List.flatMap_append, List.flatMap_cons, hquote]
    simp only [List.append_assoc, List.cons_append, List.nil_append]
  rw [Json.text, render_linkBody, htext]
  exact redact_eq hslash

/-- The text that is shown hides the code exactly if it has no quote; else it shows what follows the first one. -/
theorem redaction_exact (b : LinkDeviceRequestBody) :
    (redact_verification_code b.toJson.text = ({ b with verification_code := "<redacted>" }).toJson.text ↔
        '"' ∉ b.verification_code.toList) ∧
      ∀ hidden leaked, b.verification_code.toList = hidden ++ '"' :: leaked → '"' ∉ hidden →
        redact_verification_code b.toJson.text = String.ofList ('{' :: (verificationKey ++ ("<redacted>".toList ++
          '"' :: (leaked.flatMap Json.escape ++ b.afterCode)))) := by
  refine ⟨⟨?_, redact_plain⟩, fun hidden leaked hcode hhidden => redact_quoted hcode hhidden⟩
  intro hshown hmem
  obtain ⟨hidden, leaked, hcode, hhidden⟩ := List.eq_append_cons_of_mem hmem
  have hself : "<redacted>".toList.flatMap Json.escape = "<redacted>".toList := by decide
  rw [redact_quoted hcode hhidden, Json.text, render_linkBody, hself] at hshown
  have hchars := List.append_cancel_left (List.append_cancel_left (List.cons.inj (String.ofList_injective hshown)).2)
  have hlength := congrArg List.length hchars
  have hsame : ({ b with verification_code := "<redacted>" } : LinkDeviceRequestBody).afterCode = b.afterCode := rfl
  rw [hsame, List.length_cons, List.length_append] at hlength
  omega

end Redaction

end XousSignalClient
