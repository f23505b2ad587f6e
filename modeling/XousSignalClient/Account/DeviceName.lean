import XousSignalClient.Account.Record
import XousSignalClient.Encoding.Counter

namespace XousSignalClient

open Encoding Interaction Fallible

structure Aes256Key where
  bytes : Bytes
  valid : bytes.length = 32

structure Block where
  bytes : Bytes
  valid : bytes.length = 16
  deriving DecidableEq

inductive AesCall where
  | encrypt_block (key : Aes256Key) (block : Block)

def AesCall.Reply : AesCall → Type
  | .encrypt_block _ _ => Block

def aesSignature : Signature := ⟨AesCall, AesCall.Reply⟩

namespace Block

def zero : Block := ⟨bigEndian 16 0, length_bigEndian 16 0⟩

def increment (counter : Block) : Block :=
  ⟨carryFrom counter.bytes 16, (length_carryFrom counter.bytes 16).trans counter.valid⟩

def BE128 (n : ℕ) : Block := ⟨bigEndian 16 n, length_bigEndian 16 n⟩

theorem increment_BE128 (n : ℕ) : (BE128 n).increment = BE128 (n + 1) := by
  have h := carryFrom_bigEndian 16 n []
  simp only [List.append_nil] at h
  simp only [increment, BE128, h]

theorem BE128_injective {m n : ℕ} (hm : m < 2 ^ 128) (hn : n < 2 ^ 128) (h : BE128 m = BE128 n) : m = n := by
  have hpow : 2 ^ 128 = 256 ^ 16 := by decide
  rw [hpow] at hm hn
  exact bigEndian_injective hm hn (Block.mk.inj h)

end Block

def encryptChunks (key : Aes256Key) : List Bytes → (counter : Block) → (out : Bytes) → Program aesSignature Bytes
  | [], _, out => pure out
  | chunk :: rest, counter, out => do
    let block : Block ← Program.perform (S := aesSignature) (.encrypt_block key counter)
    encryptChunks key rest counter.increment (out ++ List.zipWith (· ^^^ ·) chunk block.bytes)

def aes256_ctr_encrypt (key plaintext : Bytes) : Fallible aesSignature Error Bytes :=
  if h : key.length = 32 then ExceptT.lift (encryptChunks ⟨key, h⟩ (chunks 16 plaintext) .zero [])
  else throw ⟨.InvalidData, "AES-256 key must be 32 bytes"⟩

abbrev BlockCipher := Aes256Key → Block → Block

namespace BlockCipher

variable (E : BlockCipher)

def answer : (c : AesCall) → Unit → c.Reply × Unit
  | .encrypt_block key block, s => (E key block, s)

def handler : Handler aesSignature Unit := ⟨E.answer⟩

def keystream (key : Aes256Key) (k i : ℕ) : UInt8 := (E key (.BE128 (k + i / 16))).bytes.getD (i % 16) 0

def ctr (key : Aes256Key) (k : ℕ) (plaintext : Bytes) : Bytes :=
  plaintext.mapIdx (fun i b => b ^^^ E.keystream key k i)

def blocksUsed (key : Aes256Key) (k n : ℕ) : List AesCall :=
  (List.range ((n + 15) / 16)).map (fun j => .encrypt_block key (.BE128 (k + j)))

theorem ctr_take_drop (key : Aes256Key) (k : ℕ) (plaintext : Bytes) :
    E.ctr key k plaintext = E.ctr key k (plaintext.take 16) ++ E.ctr key (k + 1) (plaintext.drop 16) := by
  by_cases hlen : 16 ≤ plaintext.length
  · have htake : (plaintext.take 16).length = 16 := by simpa using hlen
    have hshift : ∀ i, E.keystream key k (i + 16) = E.keystream key (k + 1) i := by
      intro i
      have hdiv : k + (i + 16) / 16 = k + 1 + i / 16 := by omega
      rw [keystream, keystream, hdiv, Nat.add_mod_right]
    rw [← List.take_append_drop 16 plaintext, ctr, List.mapIdx_append, htake]
    simp only [hshift]
    rw [List.take_append_drop]
    rfl
  · have htake : plaintext.take 16 = plaintext := List.take_of_length_le (by omega)
    have hdrop : plaintext.drop 16 = [] := List.drop_of_length_le (by omega)
    rw [htake, hdrop]
    exact (List.append_nil _).symm

theorem zipWith_block (key : Aes256Key) (k : ℕ) {chunk : Bytes} (hchunk : chunk.length ≤ 16) :
    List.zipWith (· ^^^ ·) chunk (E key (.BE128 k)).bytes = E.ctr key k chunk := by
  have hblock := (E key (.BE128 k)).valid
  apply List.ext_getElem
  · simp [ctr, hblock, hchunk]
  · intro i hi hi'
    have hlt : i < chunk.length := by simpa [ctr] using hi'
    have hdiv : k + i / 16 = k := by omega
    have hmod : i % 16 = i := by omega
    simp [ctr, keystream, hdiv, hmod, List.getD_eq_getElem?_getD, hblock, show i < 16 by omega]

theorem blocksUsed_of_ne_nil (key : Aes256Key) (k : ℕ) {n : ℕ} (hn : 0 < n) :
    blocksUsed key k n = .encrypt_block key (.BE128 k) :: blocksUsed key (k + 1) (n - 16) := by
  have hcount : (n + 15) / 16 = (n - 16 + 15) / 16 + 1 := by omega
  rw [blocksUsed, hcount, List.range_succ_eq_map, List.map_cons, List.map_map]
  refine congrArg (List.cons _) ?_
  apply List.map_congr_left
  intro j _
  simp [Nat.add_assoc, Nat.add_comm 1 j]

theorem run_encryptChunks (key : Aes256Key) (n k : ℕ) {plaintext : Bytes} (hn : plaintext.length ≤ n) (out : Bytes) :
    let o := (encryptChunks key (chunks 16 plaintext) (.BE128 k) out).run E.handler ()
    o.value = out ++ E.ctr key k plaintext ∧ o.events.map Event.call = blocksUsed key k plaintext.length := by
  induction n generalizing k plaintext out with
  | zero =>
    obtain rfl := List.length_eq_zero_iff.mp (Nat.le_zero.mp hn)
    exact ⟨(List.append_nil out).symm, rfl⟩
  | succ n ih =>
    by_cases hnil : plaintext = []
    · subst hnil
      exact ⟨(List.append_nil out).symm, rfl⟩
    · have hpos := List.length_pos_iff.mpr hnil
      have hdrop : (plaintext.drop 16).length ≤ n := by
        rw [List.length_drop]
        omega
      have htake : (plaintext.take 16).length ≤ 16 := by simp
      obtain ⟨hvalue, hevents⟩ := ih (k + 1) hdrop
        (out ++ List.zipWith (· ^^^ ·) (plaintext.take 16) (E key (.BE128 k)).bytes)
      rw [← Block.increment_BE128] at hvalue hevents
      rw [chunks_of_ne_nil (by omega) hnil]
      constructor
      · refine hvalue.trans ?_
        rw [zipWith_block E key k htake, List.append_assoc, ← ctr_take_drop]
      · rw [List.length_drop] at hevents
        rw [blocksUsed_of_ne_nil key k hpos, ← hevents]
        rfl

theorem exec_aes256_ctr_encrypt (key : Aes256Key) (plaintext : Bytes) :
    let o := (aes256_ctr_encrypt key.bytes plaintext).exec E.handler ()
    o.value = .ok (E.ctr key 0 plaintext) ∧ o.events.map Event.call = blocksUsed key 0 plaintext.length := by
  obtain ⟨hvalue, hevents⟩ := E.run_encryptChunks key plaintext.length 0 le_rfl []
  rw [aes256_ctr_encrypt, dif_pos key.valid]
  dsimp only
  rw [exec_lift]
  exact ⟨congrArg Except.ok hvalue, hevents⟩

@[simp] theorem length_ctr (key : Aes256Key) (k : ℕ) (plaintext : Bytes) :
    (E.ctr key k plaintext).length = plaintext.length := List.length_mapIdx

theorem ctr_ctr (key : Aes256Key) (k : ℕ) (plaintext : Bytes) : E.ctr key k (E.ctr key k plaintext) = plaintext := by
  apply List.ext_getElem
  · simp
  · intro i hi hi'
    simp only [ctr, List.getElem_mapIdx, UInt8.xor_assoc, UInt8.xor_self, UInt8.xor_zero]

theorem blocksUsed_nodup (key : Aes256Key) {n : ℕ} (hn : n < 2 ^ 132) : (blocksUsed key 0 n).Nodup := by
  apply List.Nodup.map_on ?_ List.nodup_range
  intro i hi j hj h
  rw [List.mem_range] at hi hj
  have hblock := Block.BE128_injective (by omega) (by omega) (AesCall.encrypt_block.inj h).2
  omega

end BlockCipher

/-- The cipher loop is counter mode with the block number as the counter. -/
theorem aes256_ctr_encrypt_ctr (E : BlockCipher) (key : Aes256Key) (plaintext : Bytes)
    (hlen : plaintext.length < 2 ^ 132) :
    let o := (aes256_ctr_encrypt key.bytes plaintext).exec E.handler ()
    ∃ out, o.value = .ok out ∧ out.length = plaintext.length ∧
      (∀ i b, plaintext[i]? = some b →
        out[i]? = some (b ^^^ (E key (.BE128 (i / 16))).bytes.getD (i % 16) 0)) ∧
      ((aes256_ctr_encrypt key.bytes out).exec E.handler ()).value = .ok plaintext ∧
      (o.events.map Event.call).Nodup := by
  intro o
  obtain ⟨hvalue, hevents⟩ := E.exec_aes256_ctr_encrypt key plaintext
  obtain ⟨hagain, -⟩ := E.exec_aes256_ctr_encrypt key (E.ctr key 0 plaintext)
  refine ⟨E.ctr key 0 plaintext, hvalue, E.length_ctr key 0 plaintext, ?_, ?_, ?_⟩
  · intro i b hb
    simp [BlockCipher.ctr, BlockCipher.keystream, List.getElem?_mapIdx, hb]
  · rw [hagain, E.ctr_ctr]
  · rw [hevents]
    exact BlockCipher.blocksUsed_nodup key hlen

def plainKey : Aes256Key := ⟨List.replicate 32 7, List.length_replicate⟩

def xorKey : BlockCipher := fun key block =>
  ⟨(List.zipWith (· ^^^ ·) block.bytes key.bytes), by simp [block.valid, key.valid]⟩

theorem aes256_ctr_encrypt_ctr_hello :
    ∃ out, ((aes256_ctr_encrypt plainKey.bytes (utf8 "hello")).exec xorKey.handler ()).value = .ok out ∧
      out.length = 5 := by
  obtain ⟨out, hout, hlength, -⟩ := aes256_ctr_encrypt_ctr xorKey plainKey (utf8 "hello") (by decide)
  exact ⟨out, hout, hlength⟩

end XousSignalClient
