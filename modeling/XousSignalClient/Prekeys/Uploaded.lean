import XousSignalClient.Account.Restart
import XousSignalClient.Prekeys.Generate

namespace XousSignalClient

open Encoding Interaction Fallible

variable {C : PrekeyCrates}

namespace PddbSignedPreKeyStore

def get_signed_pre_key (C : PrekeyCrates) (signed_prekey_id : ℕ) :
    PddbProgram (Except SignalProtocolError C.SignedPreKeyRecord) := do
  match ← pddb_read_binary SIGNED_PREKEY_DICT (toString signed_prekey_id) with
  | .ok buf => pure (C.signed_deserialize buf)
  | .error (.notFound _) => pure (.error (.Other "InvalidSignedPreKeyId"))
  | .error (.other t) => pure (.error (io_err_to_signal (.other t) "read failed"))

end PddbSignedPreKeyStore

def PrekeyCrates.kyberFormat (C : PrekeyCrates) : KyberFormat :=
  ⟨C.KyberPreKeyRecord, C.kyber_serialize, C.kyber_deserialize⟩

def HoldsKey {Record Pair : Type} (get : ℕ → PddbProgram (Except SignalProtocolError Record))
    (key_pair : Record → Except SignalProtocolError Pair) (public_key : Pair → Bytes) (p : Pddb)
    (uploaded : PreKeyJson) : Prop :=
  ∃ record pair, ((get uploaded.key_id).run Pddb.handler p).value = .ok record ∧ key_pair record = .ok pair ∧
    base64EncodeNoPad (public_key pair) = uploaded.public_key_b64url

def SignedUsable (C : PrekeyCrates) : Pddb → PreKeyJson → Prop :=
  HoldsKey (PddbSignedPreKeyStore.get_signed_pre_key C) C.signed_key_pair C.public_key

def KyberUsable (C : PrekeyCrates) : Pddb → PreKeyJson → Prop :=
  HoldsKey (PddbKyberPreKeyStore.get_kyber_pre_key C.kyberFormat KYBER_PREKEY_DICT) C.kyber_key_pair C.kem_public_key

theorem run_get_signed (p : Pddb) (id : ℕ) :
    ((PddbSignedPreKeyStore.get_signed_pre_key C id).run Pddb.handler p).value =
      match p.value SIGNED_PREKEY_DICT (toString id) with
      | some buf => C.signed_deserialize buf
      | none => .error (.Other "InvalidSignedPreKeyId") := by
  obtain ⟨hv, hs⟩ := Pddb.run_read p SIGNED_PREKEY_DICT (toString id)
  unfold PddbSignedPreKeyStore.get_signed_pre_key pddb_read_binary
  rw [Program.run_bind, hv, hs]
  cases p.value SIGNED_PREKEY_DICT (toString id) <;> rfl

section Save

def Recorded (p q : Pddb) (dict : String) (id : Except SignalProtocolError ℕ)
    (serialized : Except SignalProtocolError Bytes) : Prop :=
  ∃ n buf, id = .ok n ∧ serialized = .ok buf ∧ ∀ dict' key',
    q.value dict' key' = if (dict', key') = (dict, toString n) then some buf else p.value dict' key'

theorem ensures_saveRecord (p : Pddb) (dict : String) (id : Except SignalProtocolError ℕ)
    (serialized : Except SignalProtocolError Bytes) :
    Ensures Pddb.handler (saveRecord dict id serialized) p (fun v q _ =>
      v = .ok () → Recorded p q dict id serialized) := by
  unfold saveRecord savePreKey
  apply ensures_ofExcept_bind (fun _ _ => nofun)
  intro n hn
  apply ensures_ofExcept_bind (fun _ _ => nofun)
  intro buf hbuf
  obtain ⟨hok, hvalue⟩ := Pddb.run_write_binary p dict (toString n) buf
  apply ensures_lift_bind
  apply ensures_ofExcept
  exact fun _ => ⟨n, buf, hn, hbuf, hvalue⟩

structure Saved (prekeys : Prekeys C.toLinkCrates) (p q : Pddb) : Prop where
  steps : ∃ p₁ p₂ p₃,
    Recorded p p₁ SIGNED_PREKEY_DICT (C.signed_id prekeys.aci_signed_record)
      (C.signed_serialize prekeys.aci_signed_record) ∧
    Recorded p₁ p₂ SIGNED_PREKEY_DICT (C.signed_id prekeys.pni_signed_record)
      (C.signed_serialize prekeys.pni_signed_record) ∧
    Recorded p₂ p₃ KYBER_PREKEY_DICT (C.kyber_id prekeys.aci_kyber_record)
      (C.kyber_serialize prekeys.aci_kyber_record) ∧
    Recorded p₃ q KYBER_PREKEY_DICT (C.kyber_id prekeys.pni_kyber_record)
      (C.kyber_serialize prekeys.pni_kyber_record)

theorem ensures_save_to_pddb (prekeys : Prekeys C.toLinkCrates) (p : Pddb) :
    Ensures Pddb.handler (save_to_pddb prekeys) p (fun v q _ => v = .ok () → Saved prekeys p q) := by
  unfold save_to_pddb
  apply ensures_mapError
  apply ensures_bind (ensures_saveRecord p _ _ _) (fun _ _ _ _ => nofun)
  intro _ p₁ _ h₁
  apply ensures_bind (ensures_saveRecord p₁ _ _ _) (fun _ _ _ _ => nofun)
  intro _ p₂ _ h₂
  apply ensures_bind (ensures_saveRecord p₂ _ _ _) (fun _ _ _ _ => nofun)
  intro _ p₃ _ h₃
  apply (ensures_saveRecord p₃ _ _ _).mono
  intro v q _ h₄ hv
  have hok : v = .ok () := by
    cases v with
    | ok u => rfl
    | error e => cases hv
  exact ⟨p₁, p₂, p₃, h₁ rfl, h₂ rfl, h₃ rfl, h₄ hok⟩

theorem Recorded.value_other {p q : Pddb} {dict : String} {id : Except SignalProtocolError ℕ}
    {serialized : Except SignalProtocolError Bytes} (h : Recorded p q dict id serialized) {dict' : String}
    (hd : dict' ≠ dict) (key : String) : q.value dict' key = p.value dict' key := by
  obtain ⟨n, buf, -, -, hvalue⟩ := h
  rw [hvalue, if_neg (fun h => hd (Prod.mk.inj h).1)]

theorem Recorded.pair {p p₁ q : Pddb} {dict : String} {a b : ℕ} {id id' : Except SignalProtocolError ℕ}
    {serialized serialized' : Except SignalProtocolError Bytes} (h : Recorded p p₁ dict id serialized)
    (h' : Recorded p₁ q dict id' serialized') (hid : id = .ok a) (hid' : id' = .ok b) :
    ∃ buf buf', serialized = .ok buf ∧ serialized' = .ok buf' ∧
      q.value dict (toString a) = some (if a = b then buf' else buf) ∧ q.value dict (toString b) = some buf' := by
  obtain ⟨n, buf, hn, hbuf, hvalue⟩ := h
  obtain ⟨m, buf', hm, hbuf', hvalue'⟩ := h'
  obtain rfl := Except.ok.inj (hn.symm.trans hid)
  obtain rfl := Except.ok.inj (hm.symm.trans hid')
  refine ⟨buf, buf', hbuf, hbuf', ?_, ?_⟩
  · rw [hvalue']
    by_cases hnm : n = m
    · rw [hnm, if_pos rfl, if_pos rfl]
    · have hkey : (dict, toString n) ≠ (dict, toString m) := fun h => hnm (toString_injective (Prod.mk.inj h).2)
      rw [if_neg hkey, if_neg hnm, hvalue, if_pos rfl]
  · rw [hvalue', if_pos rfl]

theorem saved_of_ok {prekeys : Prekeys C.toLinkCrates} {p : Pddb}
    (h : ((save_to_pddb prekeys).exec Pddb.handler p).value = .ok ()) :
    Saved prekeys p ((save_to_pddb prekeys).exec Pddb.handler p).state :=
  ensures_save_to_pddb prekeys p h

end Save

section Usable

variable {Record Pair : Type} {get : ℕ → PddbProgram (Except SignalProtocolError Record)}
  {deserialize : Bytes → Except SignalProtocolError Record} {key_pair : Record → Except SignalProtocolError Pair}
  {public_key : Pair → Bytes} {dict : String} {missing : SignalProtocolError}

def ReadsFrom (get : ℕ → PddbProgram (Except SignalProtocolError Record))
    (deserialize : Bytes → Except SignalProtocolError Record) (dict : String) (missing : SignalProtocolError) : Prop :=
  ∀ p id, ((get id).run Pddb.handler p).value =
    match p.value dict (toString id) with
    | some buf => deserialize buf
    | none => .error missing

def Holds (deserialize : Bytes → Except SignalProtocolError Record)
    (key_pair : Record → Except SignalProtocolError Pair) (buf : Bytes) (pair : Pair) : Prop :=
  ∃ record, deserialize buf = .ok record ∧ key_pair record = .ok pair

theorem holdsKey_iff (hget : ReadsFrom get deserialize dict missing) {p : Pddb} {uploaded : PreKeyJson} {buf : Bytes}
    {pair : Pair} (hvalue : p.value dict (toString uploaded.key_id) = some buf)
    (hholds : Holds deserialize key_pair buf pair) :
    HoldsKey get key_pair public_key p uploaded ↔
      base64EncodeNoPad (public_key pair) = uploaded.public_key_b64url := by
  obtain ⟨record, hrecord, hpair⟩ := hholds
  have hread := hget p uploaded.key_id
  rw [hvalue] at hread
  constructor
  · rintro ⟨record', pair', hrecord', hpair', hpublic⟩
    obtain rfl := Except.ok.inj (hrecord.symm.trans (hread.symm.trans hrecord'))
    obtain rfl := Except.ok.inj (hpair.symm.trans hpair')
    exact hpublic
  · intro hpublic
    exact ⟨record, pair, hread.trans hrecord, hpair, hpublic⟩

theorem both_usable_iff (hget : ReadsFrom get deserialize dict missing) {p : Pddb} {a b : PreKeyJson}
    {buf buf' : Bytes} {pair pair' : Pair}
    (ha : p.value dict (toString a.key_id) = some (if a.key_id = b.key_id then buf' else buf))
    (hb : p.value dict (toString b.key_id) = some buf')
    (hpair : Holds deserialize key_pair buf pair) (hpair' : Holds deserialize key_pair buf' pair')
    (hpublic : a.public_key_b64url = base64EncodeNoPad (public_key pair))
    (hpublic' : b.public_key_b64url = base64EncodeNoPad (public_key pair')) :
    HoldsKey get key_pair public_key p a ∧ HoldsKey get key_pair public_key p b ↔
      a.key_id ≠ b.key_id ∨ public_key pair = public_key pair' := by
  have hlast : HoldsKey get key_pair public_key p b := (holdsKey_iff hget hb hpair').mpr hpublic'.symm
  rw [and_iff_left hlast]
  by_cases hid : a.key_id = b.key_id
  · rw [if_pos hid] at ha
    rw [holdsKey_iff hget ha hpair', hpublic, base64EncodeNoPad_injective.eq_iff]
    simp [hid, eq_comm]
  · rw [if_neg hid] at ha
    rw [holdsKey_iff hget ha hpair]
    simp [hid, hpublic]

end Usable

section Uploaded

theorem readsFrom_signed : ReadsFrom (PddbSignedPreKeyStore.get_signed_pre_key C) C.signed_deserialize
    SIGNED_PREKEY_DICT (.Other "InvalidSignedPreKeyId") := fun p id => run_get_signed p id

theorem readsFrom_kyber : ReadsFrom (PddbKyberPreKeyStore.get_kyber_pre_key C.kyberFormat KYBER_PREKEY_DICT)
    C.kyber_deserialize KYBER_PREKEY_DICT InvalidKyberPreKeyId := fun p id => (run_get_kyber KYBER_PREKEY_DICT p id).2

variable {rand : Randomness C} {aci pni : C.PrivateKey} {prekeys : Prekeys C.toLinkCrates} {p q : Pddb}

theorem signed_usable_iff (hC : C.Lawful) (hmade : rand.Made aci pni prekeys) (hsaved : Saved prekeys p q) :
    SignedUsable C q prekeys.aci_signed ∧ SignedUsable C q prekeys.pni_signed ↔
      rand.id 0 ≠ rand.id 1 ∨
        C.public_key (C.key_pair_generate (rand.seed 0)) = C.public_key (C.key_pair_generate (rand.seed 2)) := by
  obtain ⟨p₁, p₂, p₃, haci, hpni, hkyber, hlast⟩ := hsaved.steps
  obtain ⟨signature, hjson⟩ := hmade.aci_signed
  obtain ⟨signature', hjson'⟩ := hmade.pni_signed
  obtain ⟨hjson, hrecord⟩ := Prod.mk.inj hjson
  obtain ⟨hjson', hrecord'⟩ := Prod.mk.inj hjson'
  obtain ⟨buf, buf', hbuf, hbuf', hvalue, hvalue'⟩ := haci.pair hpni
    (hrecord ▸ hC.signed_id _ (rand.id_lt 0) _ _) (hrecord' ▸ hC.signed_id _ (rand.id_lt 1) _ _)
  rw [hrecord] at hbuf
  rw [hrecord'] at hbuf'
  have hkeep : ∀ key, q.value SIGNED_PREKEY_DICT key = p₂.value SIGNED_PREKEY_DICT key :=
    fun key => (hlast.value_other (by decide) key).trans (hkyber.value_other (by decide) key)
  rw [← hkeep] at hvalue hvalue'
  rw [hjson, hjson']
  exact both_usable_iff readsFrom_signed hvalue hvalue'
    (hC.signed_round_trip _ _ _ _ hbuf) (hC.signed_round_trip _ _ _ _ hbuf') rfl rfl

theorem kyber_public_key_eq (hC : C.Lawful) {n m : ℕ} {key : C.PrivateKey} {json : PreKeyJson}
    {record : C.KyberPreKeyRecord} (h : rand.MadeKyber n m key (json, record)) :
    json.public_key_b64url = base64EncodeNoPad (C.kem_public_key (C.kem_generate (rand.seed m))) := by
  obtain ⟨bytes, hbytes, hjson⟩ := h.public_key
  obtain rfl := Except.ok.inj (hbytes.symm.trans (hC.kyber_public_key _ _ _ _ h.record))
  exact hjson

theorem kyber_usable_iff (hC : C.Lawful) (hmade : rand.Made aci pni prekeys) (hsaved : Saved prekeys p q) :
    KyberUsable C q prekeys.aci_kyber_last_resort ∧ KyberUsable C q prekeys.pni_kyber_last_resort ↔
      rand.id 2 ≠ rand.id 3 ∨
        C.kem_public_key (C.kem_generate (rand.seed 4)) = C.kem_public_key (C.kem_generate (rand.seed 5)) := by
  obtain ⟨p₁, p₂, p₃, haci, hpni, hkyber, hlast⟩ := hsaved.steps
  have hfirst := hmade.aci_kyber
  have hsecond := hmade.pni_kyber
  obtain ⟨buf, buf', hbuf, hbuf', hvalue, hvalue'⟩ := hkyber.pair hlast
    (hC.kyber_id _ _ _ _ (rand.id_lt 2) hfirst.record) (hC.kyber_id _ _ _ _ (rand.id_lt 3) hsecond.record)
  have hid : prekeys.aci_kyber_last_resort.key_id = rand.id 2 := hfirst.key_id
  have hid' : prekeys.pni_kyber_last_resort.key_id = rand.id 3 := hsecond.key_id
  rw [← hid, ← hid'] at hvalue ⊢
  rw [← hid'] at hvalue'
  exact both_usable_iff readsFrom_kyber hvalue hvalue'
    (hC.kyber_round_trip _ _ _ _ _ hfirst.record hbuf) (hC.kyber_round_trip _ _ _ _ _ hsecond.record hbuf')
    (kyber_public_key_eq hC hfirst) (kyber_public_key_eq hC hsecond)

end Uploaded

/-- The four uploaded prekeys can all be used after a link exactly when the two signed ones, and the two Kyber ones,
were drawn with different ids, or with the same key. -/
theorem uploaded_prekeys_usable (hC : C.Lawful) (rand : Randomness C) (aci pni : C.PrivateKey)
    {prekeys : Prekeys C.toLinkCrates}
    (hgenerate : ((generate_prekeys aci pni).exec rand.handler ⟨0, 0⟩).value = .ok prekeys) {p : Pddb}
    (hsave : ((save_to_pddb prekeys).exec Pddb.handler p).value = .ok ()) (verification_code : String)
    (attrs : AccountAttributes) :
    let q := ((save_to_pddb prekeys).exec Pddb.handler p).state
    let body := LinkDeviceRequestBody.from_parts verification_code attrs prekeys
    ((SignedUsable C q body.aci_signed_pre_key ∧ SignedUsable C q body.pni_signed_pre_key) ∧
        KyberUsable C q body.aci_pq_last_resort_pre_key ∧ KyberUsable C q body.pni_pq_last_resort_pre_key) ↔
      (rand.id 0 ≠ rand.id 1 ∨
          C.public_key (C.key_pair_generate (rand.seed 0)) = C.public_key (C.key_pair_generate (rand.seed 2))) ∧
        (rand.id 2 ≠ rand.id 3 ∨
          C.kem_public_key (C.kem_generate (rand.seed 4)) = C.kem_public_key (C.kem_generate (rand.seed 5))) := by
  intro q body
  have hmade := Randomness.made_of_ok hgenerate
  have hsaved := saved_of_ok hsave
  exact and_congr (signed_usable_iff hC hmade hsaved) (kyber_usable_iff hC hmade hsaved)

def plainCrates : PrekeyCrates where
  toLinkCrates := phoneCrates
  Seed := Bytes
  KeyPair := Bytes
  key_pair_generate := fun seed => seed
  public_key := fun pair => 5 :: pair
  calculate_signature := fun _ _ _ => .ok (List.replicate 64 1)
  IdentityPublic := Bytes
  private_public_key := fun key => .ok (5 :: key)
  verify_signature := fun _ _ signature => signature.length == 64
  signed_new := fun id pair _ => (id, pair)
  signed_key_pair := fun record => .ok record.2
  signed_deserialize := fun buf => .ok (0, buf)
  KemKeyPair := Bytes
  kem_generate := fun seed => seed
  kem_public_key := fun pair => 8 :: pair
  kyber_generate := fun seed id _ => .ok (id, seed)
  kyber_key_pair := fun record => .ok record.2
  kyber_public_key := fun record => .ok (8 :: record.2)
  kyber_signature := fun _ => .ok (List.replicate 64 1)
  kyber_deserialize := fun buf => .ok (0, buf)

theorem plainCrates_lawful : plainCrates.Lawful where
  signed_id := fun _ _ _ _ => rfl
  signed_round_trip := by
    rintro id pair signature buf ⟨⟩
    exact ⟨(0, pair), rfl, rfl⟩
  kyber_id := by
    rintro seed id key record - ⟨⟩
    rfl
  kyber_public_key := by
    rintro seed id key record ⟨⟩
    rfl
  kyber_round_trip := by
    rintro seed id key record buf ⟨⟩ ⟨⟩
    exact ⟨(0, seed), rfl, rfl⟩

def numbered (u32 : ℕ → UInt32) : Randomness plainCrates := ⟨u32, fun n => List.replicate 32 (UInt8.ofNat n)⟩

def plainJson (u32 : ℕ → UInt32) (n : ℕ) (public_key : Bytes) : PreKeyJson :=
  ⟨(numbered u32).id n, base64EncodeNoPad public_key, base64EncodeNoPad (List.replicate 64 1)⟩

def numberedPrekeys (u32 : ℕ → UInt32) : Prekeys phoneCrates :=
  let seed := (numbered u32).seed
  ⟨plainJson u32 0 (5 :: seed 0), plainJson u32 1 (5 :: seed 2), plainJson u32 2 (8 :: seed 4),
    plainJson u32 3 (8 :: seed 5), ((numbered u32).id 0, seed 0), ((numbered u32).id 1, seed 2),
    ((numbered u32).id 2, seed 4), ((numbered u32).id 3, seed 5)⟩

theorem generate_numbered (u32 : ℕ → UInt32) :
    ((generate_prekeys (C := plainCrates) [1] [2]).exec (numbered u32).handler ⟨0, 0⟩).value =
      .ok (numberedPrekeys u32) := rfl

theorem save_numbered (u32 : ℕ → UInt32) :
    ((save_to_pddb (numberedPrekeys u32)).exec Pddb.handler ∅).value = .ok () := rfl

def plainAttributes : AccountAttributes :=
  ⟨1, true, none, "", false, false, ⟨true, true, true, true, true⟩, "", 2, none⟩

def countUp : ℕ → UInt32 := UInt32.ofNat

theorem countUp_ids :
    (numbered countUp).id 0 ≠ (numbered countUp).id 1 ∧ (numbered countUp).id 2 ≠ (numbered countUp).id 3 := by
  decide

theorem uploaded_prekeys_usable_distinct :
    let q := ((save_to_pddb (numberedPrekeys countUp)).exec Pddb.handler ∅).state
    let body := LinkDeviceRequestBody.from_parts "123-456" plainAttributes (numberedPrekeys countUp)
    (SignedUsable plainCrates q body.aci_signed_pre_key ∧ SignedUsable plainCrates q body.pni_signed_pre_key) ∧
      KyberUsable plainCrates q body.aci_pq_last_resort_pre_key ∧
      KyberUsable plainCrates q body.pni_pq_last_resort_pre_key := by
  apply (uploaded_prekeys_usable plainCrates_lawful (numbered countUp) [1] [2] (generate_numbered countUp)
    (save_numbered countUp) "123-456" plainAttributes).mpr
  exact ⟨.inl countUp_ids.1, .inl countUp_ids.2⟩

def sevens : ℕ → UInt32 := fun _ => 7

theorem sevens_seeds : (numbered sevens).seed 0 ≠ (numbered sevens).seed 2 := by
  intro h
  have hhead := congrArg (fun bytes : Bytes => bytes.head?) h
  exact absurd hhead (by decide)

/-- When every draw is 7, all four ids are 8: the PNI record takes the place of the ACI one. -/
theorem same_ids_lose_key :
    ¬∀ (C : PrekeyCrates) (rand : Randomness C) (aci pni : C.PrivateKey) (prekeys : Prekeys C.toLinkCrates) (p : Pddb),
      C.Lawful → ((generate_prekeys aci pni).exec rand.handler ⟨0, 0⟩).value = .ok prekeys →
      ((save_to_pddb prekeys).exec Pddb.handler p).value = .ok () →
      let q := ((save_to_pddb prekeys).exec Pddb.handler p).state
      let body := LinkDeviceRequestBody.from_parts "123-456" plainAttributes prekeys
      (SignedUsable C q body.aci_signed_pre_key ∧ SignedUsable C q body.pni_signed_pre_key) ∧
        KyberUsable C q body.aci_pq_last_resort_pre_key ∧ KyberUsable C q body.pni_pq_last_resort_pre_key := by
  intro h
  have hgenerate := generate_numbered sevens
  have hsave := save_numbered sevens
  obtain ⟨hsigned, -⟩ := h plainCrates (numbered sevens) [1] [2] (numberedPrekeys sevens) ∅ plainCrates_lawful
    hgenerate hsave
  have hmade := Randomness.made_of_ok hgenerate
  have hsaved := saved_of_ok (C := plainCrates) hsave
  rcases (signed_usable_iff plainCrates_lawful hmade hsaved).mp hsigned with hid | hkey
  · exact hid rfl
  · exact absurd (List.cons.inj hkey).2 sevens_seeds

end XousSignalClient
