import Mathlib.Algebra.Group.Int.Defs
import XousSignalClient.Encoding.Wire

namespace Encoding

def bytesField (tag : ℕ) (v : Option Bytes) : List WireField := (v.map (WireField.bytes tag)).toList

def uint32Field (tag : ℕ) (v : Option ℕ) : List WireField := (v.map (WireField.varint tag)).toList

def int32Field (tag : ℕ) (v : Option ℤ) : List WireField :=
  (v.map (fun n => WireField.varint tag (BitVec.ofInt 64 n).toNat)).toList

def boolField (tag : ℕ) (v : Option Bool) : List WireField :=
  (v.map (fun b => WireField.varint tag b.toNat)).toList

def stringsField (tag : ℕ) (vs : List String) : List WireField := vs.map (fun s => WireField.bytes tag (utf8 s))

def readBool : WireField → Option Bool
  | .varint _ value => some (value ≠ 0)
  | _ => none

def repeatedField {α : Type} (read : WireField → Option α) (tag : ℕ) (fields : List WireField) : Option (List α) :=
  (fields.filter (fun f => f.tag = tag)).mapM read

section Written

variable {α : Type} {read : WireField → Option α} {tag : ℕ} {fields : List WireField}

theorem filter_of_tag {a : ℕ} (h : ∀ f ∈ fields, f.tag = a) (tag : ℕ) :
    fields.filter (fun f => f.tag = tag) = if a = tag then fields else [] := by
  split_ifs with ha
  · apply List.filter_eq_self.mpr
    intro f hf
    simp [h f hf, ha]
  · apply List.filter_eq_nil_iff.mpr
    intro f hf
    simp [h f hf, ha]

theorem tag_of_mem_toList (write : α → WireField) {v : Option α} (hwrite : ∀ a, (write a).tag = tag) :
    ∀ f ∈ (v.map write).toList, f.tag = tag := by
  intro f hf
  obtain ⟨a, -, rfl⟩ := Option.map_eq_some_iff.mp (Option.mem_toList.mp hf)
  exact hwrite a

@[simp] theorem filter_bytesField (a tag : ℕ) (v : Option Bytes) :
    (bytesField a v).filter (fun f => f.tag = tag) = if a = tag then bytesField a v else [] :=
  filter_of_tag (tag_of_mem_toList (WireField.bytes a) (fun _ => rfl)) tag

@[simp] theorem filter_uint32Field (a tag : ℕ) (v : Option ℕ) :
    (uint32Field a v).filter (fun f => f.tag = tag) = if a = tag then uint32Field a v else [] :=
  filter_of_tag (tag_of_mem_toList (WireField.varint a) (fun _ => rfl)) tag

@[simp] theorem filter_int32Field (a tag : ℕ) (v : Option ℤ) :
    (int32Field a v).filter (fun f => f.tag = tag) = if a = tag then int32Field a v else [] :=
  filter_of_tag (tag_of_mem_toList (fun n : ℤ => WireField.varint a (BitVec.ofInt 64 n).toNat) (fun _ => rfl)) tag

@[simp] theorem filter_boolField (a tag : ℕ) (v : Option Bool) :
    (boolField a v).filter (fun f => f.tag = tag) = if a = tag then boolField a v else [] :=
  filter_of_tag (tag_of_mem_toList (fun b : Bool => WireField.varint a b.toNat) (fun _ => rfl)) tag

@[simp] theorem filter_stringsField (a tag : ℕ) (vs : List String) :
    (stringsField a vs).filter (fun f => f.tag = tag) = if a = tag then stringsField a vs else [] := by
  apply filter_of_tag
  intro f hf
  obtain ⟨s, -, rfl⟩ := List.mem_map.mp hf
  rfl

theorem optionalField_written (write : α → WireField) {v : Option α} (hread : ∀ a, v = some a → read (write a) = some a)
    (hfields : fields.filter (fun f => f.tag = tag) = (v.map write).toList) :
    optionalField read tag fields = some v := by
  rw [optionalField, hfields]
  cases v with
  | none => rfl
  | some a => simp [hread a rfl]

theorem optionalField_bytes {v : Option Bytes}
    (hfields : fields.filter (fun f => f.tag = tag) = bytesField tag v) :
    optionalField readBytes tag fields = some v :=
  optionalField_written (WireField.bytes tag) (fun _ _ => rfl) hfields

theorem optionalField_uint32 {v : Option ℕ} (hv : ∀ n, v = some n → n < 2 ^ 32)
    (hfields : fields.filter (fun f => f.tag = tag) = uint32Field tag v) :
    optionalField readUint32 tag fields = some v := by
  refine optionalField_written (WireField.varint tag) (fun n hn => ?_) hfields
  rw [readUint32, Nat.mod_eq_of_lt (hv n hn)]

theorem int32_extend {n : ℤ} (hlow : -2 ^ 31 ≤ n) (hhigh : n < 2 ^ 31) :
    (BitVec.ofNat 32 (BitVec.ofInt 64 n).toNat).toInt = n := by
  rw [BitVec.toInt_ofNat', BitVec.toNat_ofInt]
  have hcast : (((n % 2 ^ 64).toNat : ℕ) : ℤ) = n % 2 ^ 64 := Int.toNat_of_nonneg (by omega)
  simp only [Int.bmod_def]
  omega

theorem optionalField_int32 {v : Option ℤ} (hv : ∀ n, v = some n → -2 ^ 31 ≤ n ∧ n < 2 ^ 31)
    (hfields : fields.filter (fun f => f.tag = tag) = int32Field tag v) :
    optionalField readInt32 tag fields = some v := by
  refine optionalField_written (fun n : ℤ => .varint tag (BitVec.ofInt 64 n).toNat) (fun n hn => ?_) hfields
  rw [readInt32, int32_extend (hv n hn).1 (hv n hn).2]

theorem optionalField_bool {v : Option Bool}
    (hfields : fields.filter (fun f => f.tag = tag) = boolField tag v) :
    optionalField readBool tag fields = some v := by
  refine optionalField_written (fun b : Bool => .varint tag b.toNat) (fun b _ => ?_) hfields
  cases b <;> rfl

theorem repeatedField_strings {vs : List String}
    (hfields : fields.filter (fun f => f.tag = tag) = stringsField tag vs) :
    repeatedField readString tag fields = some vs := by
  rw [repeatedField, hfields]
  clear hfields
  induction vs with
  | nil => rfl
  | cons s vs ih =>
    rw [stringsField, List.map_cons, List.mapM_cons, readString, from_utf8_utf8]
    rw [stringsField] at ih
    rw [ih]
    rfl

end Written

section Fits

variable {tag : ℕ}

theorem scalar_bytesField (h : TagFits tag) (v : Option Bytes) : ∀ f ∈ bytesField tag v, f.Scalar := by
  intro f hf
  obtain ⟨data, -, rfl⟩ := Option.map_eq_some_iff.mp (Option.mem_toList.mp hf)
  exact h

theorem scalar_uint32Field (h : TagFits tag) {v : Option ℕ} (hv : ∀ n, v = some n → n < 2 ^ 32) :
    ∀ f ∈ uint32Field tag v, f.Scalar := by
  intro f hf
  obtain ⟨n, hn, rfl⟩ := Option.map_eq_some_iff.mp (Option.mem_toList.mp hf)
  have := hv n hn
  exact ⟨h, by omega⟩

theorem scalar_int32Field (h : TagFits tag) (v : Option ℤ) : ∀ f ∈ int32Field tag v, f.Scalar := by
  intro f hf
  obtain ⟨n, -, rfl⟩ := Option.map_eq_some_iff.mp (Option.mem_toList.mp hf)
  exact ⟨h, (BitVec.ofInt 64 n).isLt⟩

theorem scalar_boolField (h : TagFits tag) (v : Option Bool) : ∀ f ∈ boolField tag v, f.Scalar := by
  intro f hf
  obtain ⟨b, -, rfl⟩ := Option.map_eq_some_iff.mp (Option.mem_toList.mp hf)
  refine ⟨h, ?_⟩
  cases b <;> decide

theorem scalar_stringsField (h : TagFits tag) (vs : List String) : ∀ f ∈ stringsField tag vs, f.Scalar := by
  intro f hf
  obtain ⟨s, -, rfl⟩ := List.mem_map.mp hf
  exact h

end Fits

end Encoding
