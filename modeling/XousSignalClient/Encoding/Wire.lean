import XousSignalClient.Encoding.Utf8

namespace Encoding

/-- The protobuf wire format. A `u64` varint has at most ten bytes, the tenth being 0 or 1. -/
def encodeVarintIn : ℕ → ℕ → Bytes
  | 0, _ => []
  | room + 1, n =>
    if n < 128 then [UInt8.ofNat n]
    else UInt8.ofNat (n % 128 + 128) :: encodeVarintIn room (n / 128)

def encodeVarint (n : ℕ) : Bytes := encodeVarintIn 10 n

def decodeVarintIn : ℕ → Bytes → Option (ℕ × Bytes)
  | 0, _ => none
  | _ + 1, [] => none
  | room + 1, b :: rest =>
    if b.toNat < 128 then
      if room = 0 ∧ 2 ≤ b.toNat then none else some (b.toNat, rest)
    else (decodeVarintIn room rest).map (fun r => (b.toNat - 128 + 128 * r.1, r.2))

def decodeVarint (bs : Bytes) : Option (ℕ × Bytes) := decodeVarintIn 10 bs

inductive WireField where
  | varint (tag value : ℕ)
  | fixed64 (tag : ℕ) (data : Bytes)
  | bytes (tag : ℕ) (data : Bytes)
  | group (tag : ℕ)
  | fixed32 (tag : ℕ) (data : Bytes)
  deriving DecidableEq

def encodeKey (tag wire : ℕ) : Bytes := encodeVarint (8 * tag + wire)

def decodeKey (bs : Bytes) : Option ((ℕ × ℕ) × Bytes) :=
  match decodeVarint bs with
  | none => none
  | some (key, rest) =>
    if key < 2 ^ 32 ∧ key % 8 ≤ 5 ∧ 1 ≤ key / 8 then some ((key / 8, key % 8), rest) else none

def takeBytes (n : ℕ) (bs : Bytes) : Option (Bytes × Bytes) :=
  if n ≤ bs.length then some (bs.take n, bs.drop n) else none

def decodePlain (tag wire : ℕ) (bs : Bytes) : Option (WireField × Bytes) :=
  match wire with
  | 0 => (decodeVarint bs).map (fun r => (.varint tag r.1, r.2))
  | 1 => (takeBytes 8 bs).map (fun r => (.fixed64 tag r.1, r.2))
  | 2 => (decodeVarint bs).bind (fun n => (takeBytes n.1 n.2).map (fun r => (.bytes tag r.1, r.2)))
  | 5 => (takeBytes 4 bs).map (fun r => (.fixed32 tag r.1, r.2))
  | _ => none

/-- Skip to the end of the open groups, innermost first. `depth` bounds how many may be open while
a field is skipped. -/
def skipGroups (depth : ℕ) : ℕ → List ℕ → Bytes → Option Bytes
  | _, [], bs => some bs
  | 0, _ :: _, _ => none
  | fuel + 1, tag :: outer, bs =>
    match decodeKey bs with
    | none => none
    | some ((tag', 4), rest) => if tag' = tag then skipGroups depth fuel outer rest else none
    | some ((tag', wire), rest) =>
      if outer.length + 1 < depth then
        if wire = 3 then skipGroups depth fuel (tag' :: tag :: outer) rest
        else
          match decodePlain tag' wire rest with
          | none => none
          | some (_, rest') => skipGroups depth fuel (tag :: outer) rest'
      else none

def decodeField (depth tag wire : ℕ) (bs : Bytes) : Option (WireField × Bytes) :=
  if wire = 3 then (skipGroups depth bs.length [tag] bs).map (fun rest => (.group tag, rest))
  else decodePlain tag wire bs

def decodeFieldsIn (depth : ℕ) : ℕ → Bytes → Option (List WireField)
  | _, [] => some []
  | 0, _ :: _ => none
  | fuel + 1, b :: bs =>
    match decodeKey (b :: bs) with
    | none => none
    | some ((tag, wire), rest) =>
      match decodeField depth tag wire rest with
      | none => none
      | some (field, rest') => (decodeFieldsIn depth fuel rest').map (field :: ·)

def decodeFields (depth : ℕ) (bs : Bytes) : Option (List WireField) :=
  decodeFieldsIn depth bs.length bs

def encodeField : WireField → Bytes
  | .varint tag value => encodeKey tag 0 ++ encodeVarint value
  | .fixed64 tag data => encodeKey tag 1 ++ data
  | .bytes tag data => encodeKey tag 2 ++ encodeVarint data.length ++ data
  | .group tag => encodeKey tag 3 ++ encodeKey tag 4
  | .fixed32 tag data => encodeKey tag 5 ++ data

def encodeFields (fields : List WireField) : Bytes := fields.flatMap encodeField

def TagFits (tag : ℕ) : Prop := 1 ≤ tag ∧ tag < 2 ^ 29

instance (tag : ℕ) : Decidable (TagFits tag) := inferInstanceAs (Decidable (_ ∧ _))

def WireField.Scalar : WireField → Prop
  | .varint tag value => TagFits tag ∧ value < 2 ^ 64
  | .bytes tag _ => TagFits tag
  | _ => False

def WireField.Fits : WireField → Prop
  | .varint tag value => TagFits tag ∧ value < 2 ^ 64
  | .bytes tag data => TagFits tag ∧ data.length < 2 ^ 64
  | _ => False

def WireField.tag : WireField → ℕ
  | .varint tag _ => tag
  | .fixed64 tag _ => tag
  | .bytes tag _ => tag
  | .group tag => tag
  | .fixed32 tag _ => tag

/-- Optional fields of a message: the last occurrence wins, and an occurrence of the wrong wire type
or with an invalid value fails the whole message. -/
def optionalField {α : Type} (read : WireField → Option α) (tag : ℕ) (fields : List WireField) :
    Option (Option α) :=
  (fields.filter (fun f => f.tag = tag)).foldlM (fun _ f => (read f).map some) none

def readString : WireField → Option String
  | .bytes _ data => from_utf8 data
  | _ => none

def readUint64 : WireField → Option UInt64
  | .varint _ value => some (UInt64.ofNat value)
  | _ => none

def readUint32 : WireField → Option ℕ
  | .varint _ value => some (value % 2 ^ 32)
  | _ => none

def readInt32 : WireField → Option Int
  | .varint _ value => some (BitVec.ofNat 32 value).toInt
  | _ => none

def readBytes : WireField → Option Bytes
  | .bytes _ data => some data
  | _ => none

def readMessage (depth : ℕ) : WireField → Option (List WireField)
  | .bytes _ data => decodeFields depth data
  | _ => none

def messageField (depth tag : ℕ) (fields : List WireField) : Option (Option (List WireField)) :=
  match fields.filter (fun f => f.tag = tag) with
  | [] => some none
  | f :: fs => ((f :: fs).mapM (readMessage depth)).map (fun parts => some parts.flatten)

theorem toNat_ofNat_lt {n : ℕ} (h : n < 256) : (UInt8.ofNat n).toNat = n := by
  rw [UInt8.toNat_ofNat']
  exact Nat.mod_eq_of_lt h

theorem decodeVarintIn_encode {room n : ℕ} (hroom : 1 ≤ room) (h : n < 2 * 128 ^ (room - 1))
    (rest : Bytes) :
    decodeVarintIn room (encodeVarintIn room n ++ rest) = some (n, rest) := by
  induction room generalizing n with
  | zero => omega
  | succ room ih =>
    by_cases hn : n < 128
    · have hb : (UInt8.ofNat n).toNat = n := toNat_ofNat_lt (by omega)
      have hlast : ¬(room = 0 ∧ 2 ≤ (UInt8.ofNat n).toNat) := by
        rintro ⟨rfl, h2⟩
        rw [hb] at h2
        simp at h
        omega
      rw [encodeVarintIn, if_pos hn, List.cons_append, decodeVarintIn, if_pos (by omega),
        if_neg hlast, hb, List.nil_append]
    · have hpos : 1 ≤ room := by
        rcases Nat.eq_zero_or_pos room with rfl | hp
        · simp at h
          omega
        · exact hp
      have hb : (UInt8.ofNat (n % 128 + 128)).toNat = n % 128 + 128 := toNat_ofNat_lt (by omega)
      have hdiv : n / 128 < 2 * 128 ^ (room - 1) := by
        obtain ⟨m, rfl⟩ : ∃ m, room = m + 1 := ⟨room - 1, by omega⟩
        simp only [Nat.add_sub_cancel, Nat.pow_succ] at h ⊢
        omega
      rw [encodeVarintIn, if_neg hn, List.cons_append, decodeVarintIn, if_neg (by omega),
        ih hpos hdiv, Option.map_some, hb]
      simp only [Option.some.injEq, Prod.mk.injEq, and_true]
      omega

theorem decodeVarint_encode {n : ℕ} (h : n < 2 ^ 64) (rest : Bytes) :
    decodeVarint (encodeVarint n ++ rest) = some (n, rest) :=
  decodeVarintIn_encode (by omega) (by omega) rest

theorem encodeVarint_ne_nil (n : ℕ) : encodeVarint n ≠ [] := by
  rw [encodeVarint, encodeVarintIn]
  split_ifs <;> simp

theorem decodeKey_encode {tag wire : ℕ} (htag : TagFits tag) (hwire : wire ≤ 5) (rest : Bytes) :
    decodeKey (encodeKey tag wire ++ rest) = some ((tag, wire), rest) := by
  obtain ⟨hlow, hhigh⟩ := htag
  have hdiv : (8 * tag + wire) / 8 = tag := by omega
  have hmod : (8 * tag + wire) % 8 = wire := by omega
  rw [decodeKey, encodeKey, decodeVarint_encode (by omega)]
  simp only [hdiv, hmod]
  rw [if_pos ⟨by omega, hwire, hlow⟩]

theorem takeBytes_append (data rest : Bytes) :
    takeBytes data.length (data ++ rest) = some (data, rest) := by
  rw [takeBytes, if_pos (by simp)]
  simp

theorem encodeField_ne_nil (f : WireField) : encodeField f ≠ [] := by
  cases f <;> simp [encodeField, encodeKey, encodeVarint_ne_nil]

theorem decodeField_encode {f : WireField} (hf : f.Fits) (depth : ℕ) (rest : Bytes) :
    ∃ tag wire body, decodeKey (encodeField f ++ rest) = some ((tag, wire), body) ∧
      decodeField depth tag wire body = some (f, rest) := by
  cases f with
  | varint tag value =>
    refine ⟨tag, 0, encodeVarint value ++ rest, ?_, ?_⟩
    · rw [encodeField, List.append_assoc]
      exact decodeKey_encode hf.1 (by omega) _
    · rw [decodeField, if_neg (by omega), decodePlain, decodeVarint_encode hf.2, Option.map_some]
  | bytes tag data =>
    refine ⟨tag, 2, encodeVarint data.length ++ (data ++ rest), ?_, ?_⟩
    · rw [encodeField, List.append_assoc, List.append_assoc]
      exact decodeKey_encode hf.1 (by omega) _
    · rw [decodeField, if_neg (by omega), decodePlain, decodeVarint_encode hf.2, Option.bind_some,
        takeBytes_append, Option.map_some]
  | fixed64 tag data => exact hf.elim
  | group tag => exact hf.elim
  | fixed32 tag data => exact hf.elim

theorem decodeFieldsIn_encode (depth : ℕ) {fields : List WireField} (hf : ∀ f ∈ fields, f.Fits)
    {fuel : ℕ} (hfuel : fields.length ≤ fuel) :
    decodeFieldsIn depth fuel (encodeFields fields) = some fields := by
  induction fields generalizing fuel with
  | nil => cases fuel <;> rfl
  | cons f fields ih =>
    obtain ⟨fuel, rfl⟩ : ∃ n, fuel = n + 1 := ⟨fuel - 1, by simp at hfuel; omega⟩
    have hrest : decodeFieldsIn depth fuel (encodeFields fields) = some fields :=
      ih (fun g hg => hf g (List.mem_cons_of_mem f hg)) (by simpa using hfuel)
    obtain ⟨tag, wire, body, hkey, hfield⟩ :=
      decodeField_encode (hf f List.mem_cons_self) depth (encodeFields fields)
    have henc : encodeFields (f :: fields) = encodeField f ++ encodeFields fields := rfl
    cases hb : encodeField f ++ encodeFields fields with
    | nil => exact absurd (List.append_eq_nil_iff.mp hb).1 (encodeField_ne_nil f)
    | cons b bs =>
      rw [hb] at hkey
      rw [henc, hb, decodeFieldsIn, hkey]
      simp only [hfield, hrest, Option.map_some]

theorem length_le_encodeFields (fields : List WireField) :
    fields.length ≤ (encodeFields fields).length := by
  induction fields with
  | nil => simp
  | cons f fields ih =>
    have hpos := List.length_pos_iff.mpr (encodeField_ne_nil f)
    have henc : encodeFields (f :: fields) = encodeField f ++ encodeFields fields := rfl
    rw [henc, List.length_append, List.length_cons]
    omega

theorem length_bytes_le {tag : ℕ} {data : Bytes} {fields : List WireField}
    (h : WireField.bytes tag data ∈ fields) : data.length ≤ (encodeFields fields).length := by
  induction fields with
  | nil => cases h
  | cons f fields ih =>
    have henc : encodeFields (f :: fields) = encodeField f ++ encodeFields fields := rfl
    rw [henc, List.length_append]
    rcases List.mem_cons.mp h with rfl | hmem
    · simp only [encodeField, List.length_append]
      omega
    · have := ih hmem
      omega

theorem decodeFields_encode (depth : ℕ) {fields : List WireField} (hf : ∀ f ∈ fields, f.Scalar)
    (hlen : (encodeFields fields).length < 2 ^ 64) :
    decodeFields depth (encodeFields fields) = some fields := by
  refine decodeFieldsIn_encode depth (fun f hmem => ?_) (length_le_encodeFields fields)
  cases f with
  | varint tag value => exact hf _ hmem
  | bytes tag data => exact ⟨hf _ hmem, Nat.lt_of_le_of_lt (length_bytes_le hmem) hlen⟩
  | fixed64 tag data => exact (hf _ hmem).elim
  | group tag => exact (hf _ hmem).elim
  | fixed32 tag data => exact (hf _ hmem).elim

theorem length_encodeVarintIn_le (room n : ℕ) : (encodeVarintIn room n).length ≤ room := by
  induction room generalizing n with
  | zero => simp [encodeVarintIn]
  | succ room ih =>
    have := ih (n / 128)
    rw [encodeVarintIn]
    split_ifs
    · simp
    · simpa using this

theorem length_encodeVarint_le (n : ℕ) : (encodeVarint n).length ≤ 10 :=
  length_encodeVarintIn_le 10 n

theorem length_encodeBytes_le (tag : ℕ) (data : Bytes) :
    (encodeField (.bytes tag data)).length ≤ data.length + 20 := by
  have hkey := length_encodeVarint_le (8 * tag + 2)
  have hlen := length_encodeVarint_le data.length
  simp only [encodeField, encodeKey, List.length_append]
  omega

end Encoding
