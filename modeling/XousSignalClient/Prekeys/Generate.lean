import XousSignalClient.Interaction.Ensures
import XousSignalClient.Prekeys.Kyber
import XousSignalClient.Prekeys.Replenish

namespace XousSignalClient

open Encoding Interaction Fallible

/-- What prekey generation uses of libsignal. What its generators draw from the random generator is a `Seed`;
public keys stand for their serialized form. -/
structure PrekeyCrates extends LinkCrates where
  Seed : Type
  KeyPair : Type
  key_pair_generate : Seed → KeyPair
  public_key : KeyPair → Bytes
  calculate_signature : Seed → PrivateKey → (message : Bytes) → Except SignalProtocolError Bytes
  IdentityPublic : Type
  private_public_key : PrivateKey → Except SignalProtocolError IdentityPublic
  verify_signature : IdentityPublic → (message signature : Bytes) → Bool
  signed_new : (id : ℕ) → KeyPair → (signature : Bytes) → SignedPreKeyRecord
  signed_key_pair : SignedPreKeyRecord → Except SignalProtocolError KeyPair
  signed_deserialize : Bytes → Except SignalProtocolError SignedPreKeyRecord
  KemKeyPair : Type
  kem_generate : Seed → KemKeyPair
  kem_public_key : KemKeyPair → Bytes
  kyber_generate : Seed → (id : ℕ) → PrivateKey → Except SignalProtocolError KyberPreKeyRecord
  kyber_key_pair : KyberPreKeyRecord → Except SignalProtocolError KemKeyPair
  kyber_public_key : KyberPreKeyRecord → Except SignalProtocolError Bytes
  kyber_signature : KyberPreKeyRecord → Except SignalProtocolError Bytes
  kyber_deserialize : Bytes → Except SignalProtocolError KyberPreKeyRecord

/-- A record has the id and the key pair it was made with, also after it was written and read. -/
structure PrekeyCrates.Lawful (C : PrekeyCrates) : Prop where
  signed_id : ∀ id < 2 ^ 32, ∀ pair signature, C.signed_id (C.signed_new id pair signature) = .ok id
  signed_round_trip : ∀ id pair signature buf, C.signed_serialize (C.signed_new id pair signature) = .ok buf →
    ∃ record, C.signed_deserialize buf = .ok record ∧ C.signed_key_pair record = .ok pair
  kyber_id : ∀ seed id key record, id < 2 ^ 32 → C.kyber_generate seed id key = .ok record → C.kyber_id record = .ok id
  kyber_public_key : ∀ seed id key record, C.kyber_generate seed id key = .ok record →
    C.kyber_public_key record = .ok (C.kem_public_key (C.kem_generate seed))
  kyber_round_trip : ∀ seed id key record buf, C.kyber_generate seed id key = .ok record →
    C.kyber_serialize record = .ok buf →
    ∃ record', C.kyber_deserialize buf = .ok record' ∧ C.kyber_key_pair record' = .ok (C.kem_generate seed)

inductive GenerateCall (C : PrekeyCrates) where
  | next_u32
  | generate_key_pair
  | calculate_signature (identity_private : C.PrivateKey) (message : Bytes)
  | generate_kyber (id : ℕ) (identity_private : C.PrivateKey)

def GenerateCall.Reply {C : PrekeyCrates} : GenerateCall C → Type
  | .next_u32 => UInt32
  | .generate_key_pair => C.KeyPair
  | .calculate_signature _ _ => Except SignalProtocolError Bytes
  | .generate_kyber _ _ => Except SignalProtocolError C.KyberPreKeyRecord

def generateSignature (C : PrekeyCrates) : Signature := ⟨GenerateCall C, GenerateCall.Reply⟩

abbrev GenerateM (C : PrekeyCrates) (α : Type) := Fallible (generateSignature C) Error α

variable {C : PrekeyCrates}

def generateCall (c : GenerateCall C) : GenerateM C c.Reply := Fallible.call (S := generateSignature C) c

def orError {α : Type} (r : Except SignalProtocolError α) (text : String) : GenerateM C α :=
  Fallible.ofExcept (r.mapError (fun _ => ⟨.Other, text⟩))

def random_prekey_id : GenerateM C ℕ := do
  let n : UInt32 ← generateCall .next_u32
  pure (n.toNat % MEDIUM_MAX + 1)

def generate_signed_prekey (identity_private : C.PrivateKey) :
    GenerateM C (PreKeyJson × C.SignedPreKeyRecord) := do
  let key_id ← random_prekey_id
  let keypair : C.KeyPair ← generateCall .generate_key_pair
  let public_serialized := C.public_key keypair
  let signed : Except SignalProtocolError Bytes ← generateCall (.calculate_signature identity_private public_serialized)
  let signature ← orError signed "signed prekey signing failed"
  let identity_public ← orError (C.private_public_key identity_private) "identity public key derivation failed"
  if !C.verify_signature identity_public public_serialized signature then
    throw ⟨.InvalidData, "signed prekey self-verification failed"⟩
  else
    pure (⟨key_id, base64EncodeNoPad public_serialized, base64EncodeNoPad signature⟩,
      C.signed_new key_id keypair signature)

def generate_kyber_last_resort (identity_private : C.PrivateKey) :
    GenerateM C (PreKeyJson × C.KyberPreKeyRecord) := do
  let key_id ← random_prekey_id
  let generated : Except SignalProtocolError C.KyberPreKeyRecord ← generateCall (.generate_kyber key_id identity_private)
  let record ← orError generated "kyber last-resort generation failed"
  let public_serialized ← orError (C.kyber_public_key record) "kyber public_key() failed"
  let signature ← orError (C.kyber_signature record) "kyber signature() failed"
  let identity_public ← orError (C.private_public_key identity_private) "identity public key derivation failed"
  if !C.verify_signature identity_public public_serialized signature then
    throw ⟨.InvalidData, "kyber prekey self-verification failed"⟩
  else
    pure (⟨key_id, base64EncodeNoPad public_serialized, base64EncodeNoPad signature⟩, record)

def generate_prekeys (aci_identity_private pni_identity_private : C.PrivateKey) :
    GenerateM C (Prekeys C.toLinkCrates) := do
  let (aci_signed, aci_signed_record) ← generate_signed_prekey aci_identity_private
  let (pni_signed, pni_signed_record) ← generate_signed_prekey pni_identity_private
  let (aci_kyber_last_resort, aci_kyber_record) ← generate_kyber_last_resort aci_identity_private
  let (pni_kyber_last_resort, pni_kyber_record) ← generate_kyber_last_resort pni_identity_private
  pure ⟨aci_signed, pni_signed, aci_kyber_last_resort, pni_kyber_last_resort, aci_signed_record, pni_signed_record,
    aci_kyber_record, pni_kyber_record⟩

/-- An outcome of the random generator: the numbers and the seeds it gives, in order. -/
structure Randomness (C : PrekeyCrates) where
  u32 : ℕ → UInt32
  seed : ℕ → C.Seed

structure Drawn where
  u32 : ℕ
  seed : ℕ

namespace Randomness

variable (rand : Randomness C)

def answer : (c : GenerateCall C) → Drawn → c.Reply × Drawn
  | .next_u32, d => (rand.u32 d.u32, { d with u32 := d.u32 + 1 })
  | .generate_key_pair, d => (C.key_pair_generate (rand.seed d.seed), { d with seed := d.seed + 1 })
  | .calculate_signature key message, d =>
    (C.calculate_signature (rand.seed d.seed) key message, { d with seed := d.seed + 1 })
  | .generate_kyber id key, d => (C.kyber_generate (rand.seed d.seed) id key, { d with seed := d.seed + 1 })

def handler : Handler (generateSignature C) Drawn := ⟨rand.answer⟩

def id (n : ℕ) : ℕ := (rand.u32 n).toNat % MEDIUM_MAX + 1

theorem id_lt (n : ℕ) : rand.id n < 2 ^ 32 := by
  have hlt : (rand.u32 n).toNat % MEDIUM_MAX < MEDIUM_MAX := Nat.mod_lt _ (by decide)
  have hmax : MEDIUM_MAX = 16777215 := rfl
  unfold id
  omega

def MadeSigned (n m : ℕ) (made : PreKeyJson × C.SignedPreKeyRecord) : Prop :=
  ∃ signature, made =
    (⟨rand.id n, base64EncodeNoPad (C.public_key (C.key_pair_generate (rand.seed m))), base64EncodeNoPad signature⟩,
      C.signed_new (rand.id n) (C.key_pair_generate (rand.seed m)) signature)

structure MadeKyber (n m : ℕ) (key : C.PrivateKey) (made : PreKeyJson × C.KyberPreKeyRecord) : Prop where
  record : C.kyber_generate (rand.seed m) (rand.id n) key = .ok made.2
  key_id : made.1.key_id = rand.id n
  public_key : ∃ bytes, C.kyber_public_key made.2 = .ok bytes ∧ made.1.public_key_b64url = base64EncodeNoPad bytes

theorem ensures_orError {α β : Type} {r : Except SignalProtocolError α} {text : String} {f : α → GenerateM C β}
    {d : Drawn} {Q : Except Error β → Drawn → List (Event (generateSignature C) Drawn) → Prop}
    (herr : Q (.error ⟨.Other, text⟩) d []) (hok : ∀ a, r = .ok a → Ensures rand.handler (f a) d Q) :
    Ensures rand.handler (orError r text >>= f) d Q := by
  apply ensures_ofExcept_bind
  · intro e he
    cases r with
    | ok a => cases he
    | error e' =>
      obtain rfl := Except.error.inj he
      exact herr
  · intro a ha
    cases r with
    | ok a' =>
      obtain rfl := Except.ok.inj ha
      exact hok _ rfl
    | error e' => cases ha

theorem ensures_random_prekey_id (d : Drawn) : Ensures rand.handler random_prekey_id d (fun v t _ =>
    v = .ok (rand.id d.u32) ∧ t = { d with u32 := d.u32 + 1 }) := ⟨rfl, rfl⟩

theorem ensures_generate_signed (key : C.PrivateKey) (d : Drawn) :
    Ensures rand.handler (generate_signed_prekey key) d (fun v t _ =>
      ∀ made, v = .ok made → rand.MadeSigned d.u32 d.seed made ∧ t = ⟨d.u32 + 1, d.seed + 2⟩) := by
  unfold generate_signed_prekey
  apply ensures_bind (rand.ensures_random_prekey_id d) (fun _ _ _ _ => nofun)
  rintro key_id t es ⟨⟨⟩, rfl⟩
  apply ensures_call_bind
  apply ensures_call_bind
  apply rand.ensures_orError nofun
  intro signature _
  apply rand.ensures_orError nofun
  intro identity_public _
  split_ifs
  · exact ensures_throw nofun
  · apply ensures_pure
    rintro made ⟨⟩
    exact ⟨⟨signature, rfl⟩, rfl⟩

theorem ensures_generate_kyber (key : C.PrivateKey) (d : Drawn) :
    Ensures rand.handler (generate_kyber_last_resort key) d (fun v t _ =>
      ∀ made, v = .ok made → rand.MadeKyber d.u32 d.seed key made ∧ t = ⟨d.u32 + 1, d.seed + 1⟩) := by
  unfold generate_kyber_last_resort
  apply ensures_bind (rand.ensures_random_prekey_id d) (fun _ _ _ _ => nofun)
  rintro key_id t es ⟨⟨⟩, rfl⟩
  apply ensures_call_bind
  apply rand.ensures_orError nofun
  intro record hrecord
  apply rand.ensures_orError nofun
  intro public_serialized hpublic
  apply rand.ensures_orError nofun
  intro signature _
  apply rand.ensures_orError nofun
  intro identity_public _
  split_ifs
  · exact ensures_throw nofun
  · apply ensures_pure
    rintro made ⟨⟩
    exact ⟨⟨hrecord, rfl, public_serialized, hpublic, rfl⟩, rfl⟩

structure Made (aci pni : C.PrivateKey) (prekeys : Prekeys C.toLinkCrates) : Prop where
  aci_signed : rand.MadeSigned 0 0 (prekeys.aci_signed, prekeys.aci_signed_record)
  pni_signed : rand.MadeSigned 1 2 (prekeys.pni_signed, prekeys.pni_signed_record)
  aci_kyber : rand.MadeKyber 2 4 aci (prekeys.aci_kyber_last_resort, prekeys.aci_kyber_record)
  pni_kyber : rand.MadeKyber 3 5 pni (prekeys.pni_kyber_last_resort, prekeys.pni_kyber_record)

theorem ensures_generate_prekeys (aci pni : C.PrivateKey) :
    Ensures rand.handler (generate_prekeys aci pni) ⟨0, 0⟩ (fun v _ _ =>
      ∀ prekeys, v = .ok prekeys → rand.Made aci pni prekeys) := by
  unfold generate_prekeys
  apply ensures_bind (rand.ensures_generate_signed aci ⟨0, 0⟩) (fun _ _ _ _ => nofun)
  rintro ⟨json₀, record₀⟩ t es h₀
  obtain ⟨haci, rfl⟩ := h₀ _ rfl
  apply ensures_bind (rand.ensures_generate_signed pni _) (fun _ _ _ _ => nofun)
  rintro ⟨json₁, record₁⟩ t es h₁
  obtain ⟨hpni, rfl⟩ := h₁ _ rfl
  apply ensures_bind (rand.ensures_generate_kyber aci _) (fun _ _ _ _ => nofun)
  rintro ⟨json₂, record₂⟩ t es h₂
  obtain ⟨hkyber, rfl⟩ := h₂ _ rfl
  apply ensures_bind (rand.ensures_generate_kyber pni _) (fun _ _ _ _ => nofun)
  rintro ⟨json₃, record₃⟩ t es h₃
  obtain ⟨hlast, rfl⟩ := h₃ _ rfl
  apply ensures_pure
  rintro prekeys ⟨⟩
  exact ⟨haci, hpni, hkyber, hlast⟩

variable {rand} in
theorem made_of_ok {aci pni : C.PrivateKey} {prekeys : Prekeys C.toLinkCrates}
    (h : ((generate_prekeys aci pni).exec rand.handler ⟨0, 0⟩).value = .ok prekeys) : rand.Made aci pni prekeys :=
  rand.ensures_generate_prekeys aci pni prekeys h

end Randomness

end XousSignalClient
