import Mathlib.Data.List.AList
import XousSignalClient.Encoding.Utf8
import XousSignalClient.Interaction.Program

namespace XousSignalClient

open Encoding Interaction

inductive IoError where
  | notFound (text : String)
  | other (text : String)
  deriving DecidableEq

def IoError.text : IoError → String
  | .notFound t => t
  | .other t => t

/-- Requests to the PDDB server. `read` is `get` without creating the key and a read to the end;
`write` is `get` with creation and a write from position 0. -/
inductive PddbCall where
  | read (dict key : String)
  | delete (dict key : String)
  | write (dict key : String) (data : Bytes)
  | list (dict : String)
  | sync

def PddbCall.Reply : PddbCall → Type
  | .read _ _ => Except IoError Bytes
  | .delete _ _ => Except IoError Unit
  | .write _ _ _ => Except IoError Unit
  | .list _ => Except IoError (List String)
  | .sync => Except IoError Unit

def PddbCall.Touches (dict : String) : PddbCall → Prop
  | .delete dict' _ => dict' = dict
  | .write dict' _ _ => dict' = dict
  | _ => True

def PddbCall.Leaves (dict key : String) : PddbCall → Prop
  | .delete dict' key' => (dict, key) ≠ (dict', key')
  | .write dict' key' _ => (dict, key) ≠ (dict', key')
  | _ => True

theorem PddbCall.Touches.leaves {dict dict' : String} {c : PddbCall} (hc : c.Touches dict) (hd : dict' ≠ dict)
    (key : String) : c.Leaves dict' key := by
  have hne : ∀ k, (dict', key) ≠ (dict, k) := fun k h => hd (Prod.mk.inj h).1
  cases c with
  | delete d k =>
    obtain rfl : d = dict := hc
    exact hne k
  | write d k data =>
    obtain rfl : d = dict := hc
    exact hne k
  | _ => trivial

def pddbSignature : Signature := ⟨PddbCall, PddbCall.Reply⟩

abbrev PddbProgram (α : Type) := Program pddbSignature α

def pddbRead (dict key : String) : PddbProgram (Except IoError Bytes) :=
  Program.perform (S := pddbSignature) (.read dict key)

def pddbDelete (dict key : String) : PddbProgram (Except IoError Unit) :=
  Program.perform (S := pddbSignature) (.delete dict key)

def pddbWrite (dict key : String) (data : Bytes) : PddbProgram (Except IoError Unit) :=
  Program.perform (S := pddbSignature) (.write dict key data)

def pddbList (dict : String) : PddbProgram (Except IoError (List String)) :=
  Program.perform (S := pddbSignature) (.list dict)

def pddbSync : PddbProgram (Except IoError Unit) :=
  Program.perform (S := pddbSignature) .sync

abbrev Pddb := AList (fun _ : String × String => Bytes)

namespace Pddb

def value (p : Pddb) (dict key : String) : Option Bytes := p.lookup (dict, key)

def keysOf (p : Pddb) (dict : String) : List String :=
  (p.keys.filter (fun k => k.1 = dict)).map Prod.snd

def overlay (data old : Bytes) : Bytes := data ++ old.drop data.length

def put (p : Pddb) (dict key : String) (data : Bytes) : Pddb :=
  p.insert (dict, key) (overlay data ((p.value dict key).getD []))

def remove (p : Pddb) (dict key : String) : Pddb := p.erase (dict, key)

def answer : (c : PddbCall) → Pddb → c.Reply × Pddb
  | .read dict key, p =>
    match p.value dict key with
    | some b => (.ok b, p)
    | none => (.error (.notFound "key not found"), p)
  | .delete dict key, p =>
    match p.value dict key with
    | some _ => (.ok (), p.remove dict key)
    | none => (.error (.notFound "key not found"), p)
  | .write dict key data, p => (.ok (), p.put dict key data)
  | .list dict, p => (.ok (p.keysOf dict), p)
  | .sync, p => (.ok (), p)

def handler : Handler pddbSignature Pddb := ⟨answer⟩

@[simp] theorem value_empty (dict key : String) : value ∅ dict key = none := AList.lookup_empty _

@[simp] theorem value_put (p : Pddb) (dict key : String) (data : Bytes) :
    (p.put dict key data).value dict key = some (overlay data ((p.value dict key).getD [])) :=
  AList.lookup_insert _

theorem value_put_ne (p : Pddb) {dict key dict' key' : String} (data : Bytes)
    (h : (dict', key') ≠ (dict, key)) :
    (p.put dict key data).value dict' key' = p.value dict' key' :=
  AList.lookup_insert_ne h

@[simp] theorem value_remove (p : Pddb) (dict key : String) :
    (p.remove dict key).value dict key = none := AList.lookup_erase _ _

theorem value_remove_ne (p : Pddb) {dict key dict' key' : String}
    (h : (dict', key') ≠ (dict, key)) : (p.remove dict key).value dict' key' = p.value dict' key' :=
  AList.lookup_erase_ne h

@[simp] theorem overlay_nil (data : Bytes) : overlay data [] = data := by simp [overlay]

theorem overlay_of_length_le {data old : Bytes} (h : old.length ≤ data.length) : overlay data old = data := by
  rw [overlay, List.drop_eq_nil_of_le h, List.append_nil]

theorem overlay_overlay {new old rest : Bytes} (h : old.length ≤ new.length) :
    overlay new (overlay old rest) = overlay new rest := by
  have hsplit : new.length = old.length + (new.length - old.length) := by omega
  rw [overlay, overlay, overlay, List.drop_append, List.drop_of_length_le h, List.nil_append, List.drop_drop, ← hsplit]

theorem mem_keysOf {p : Pddb} {dict key : String} :
    key ∈ p.keysOf dict ↔ (p.value dict key).isSome := by
  rw [value, AList.lookup_isSome, AList.mem_keys, keysOf, List.mem_map]
  constructor
  · rintro ⟨⟨d, k⟩, hk, rfl⟩
    rw [List.mem_filter] at hk
    obtain rfl : d = dict := by simpa using hk.2
    exact hk.1
  · intro hk
    exact ⟨(dict, key), List.mem_filter.mpr ⟨hk, by simp⟩, rfl⟩

theorem value_of_keysOf_nil {p : Pddb} {dict : String} (hp : p.keysOf dict = []) (key : String) :
    p.value dict key = none := by
  have hkey : key ∉ p.keysOf dict := by simp [hp]
  rw [← Option.not_isSome_iff_eq_none, ← mem_keysOf]
  exact hkey

theorem remove_of_none {p : Pddb} {dict key : String} (h : p.value dict key = none)
    (dict' key' : String) : (p.remove dict key).value dict' key' = p.value dict' key' := by
  by_cases hk : (dict', key') = (dict, key)
  · obtain ⟨rfl, rfl⟩ := Prod.mk.inj hk
    rw [value_remove, h]
  · exact value_remove_ne p hk

theorem run_read (p : Pddb) (dict key : String) :
    ((pddbRead dict key).run handler p).value =
        (match p.value dict key with
          | some b => .ok b
          | none => .error (.notFound "key not found")) ∧
      ((pddbRead dict key).run handler p).state = p := by
  have hv : ((pddbRead dict key).run handler p).value = (answer (.read dict key) p).1 := rfl
  have hs : ((pddbRead dict key).run handler p).state = (answer (.read dict key) p).2 := rfl
  rw [hv, hs]
  cases h : p.value dict key <;> simp [answer, h]

theorem answer_delete (p : Pddb) (dict key dict' key' : String) :
    (answer (.delete dict key) p).2.value dict' key' = (p.remove dict key).value dict' key' := by
  cases h : p.value dict key with
  | some b => simp [answer, h]
  | none =>
    rw [remove_of_none h]
    simp [answer, h]

theorem value_answer_of_leaves {dict key : String} {c : PddbCall} (hc : c.Leaves dict key) (p : Pddb) :
    (answer c p).2.value dict key = p.value dict key := by
  cases c with
  | read d k => cases h : p.value d k <;> simp [answer, h]
  | delete d k => rw [answer_delete, value_remove_ne p hc]
  | write d k data => exact value_put_ne p data hc
  | list d => rfl
  | sync => rfl

theorem value_of_leaves {α : Type} {dict key : String} {x : PddbProgram α}
    (hx : x.Only (PddbCall.Leaves dict key)) (p : Pddb) :
    (x.run handler p).state.value dict key = p.value dict key := by
  refine hx.preserves (I := fun q => q.value dict key = p.value dict key) ?_ p rfl
  intro c q hc hq
  rw [← hq]
  exact value_answer_of_leaves hc q

theorem value_of_only {α : Type} {dict dict' : String} (hd : dict' ≠ dict) {x : PddbProgram α}
    (hx : x.Only (PddbCall.Touches dict)) (p : Pddb) (key : String) :
    (x.run handler p).state.value dict' key = p.value dict' key :=
  value_of_leaves (hx.mono (fun _ hc => hc.leaves hd key)) p

end Pddb

end XousSignalClient
