import XousSignalClient.Pddb

namespace XousSignalClient

open Encoding Interaction

def PddbCall.failure (e : IoError) : (c : PddbCall) → c.Reply
  | .read _ _ => .error e
  | .delete _ _ => .error e
  | .write _ _ _ => .error e
  | .list _ => .error e
  | .sync => .error e

namespace Pddb

inductive Answers (mayFail mayCreate : PddbCall → Prop) : (c : PddbCall) → Pddb → c.Reply → Pddb → Prop where
  | answered (c : PddbCall) (p : Pddb) : Answers mayFail mayCreate c p (answer c p).1 (answer c p).2
  | failed {c : PddbCall} (h : mayFail c) (p : Pddb) (e : IoError) : Answers mayFail mayCreate c p (c.failure e) p
  | created {dict key : String} {data : Bytes} (h : mayCreate (.write dict key data)) (p : Pddb) (e : IoError) :
      Answers mayFail mayCreate (.write dict key data) p (.error e) (p.put dict key [])

variable {mayFail mayCreate : PddbCall → Prop} {p q : Pddb} {dict key : String}

theorem Answers.value_of_leaves {c : PddbCall} {r : c.Reply} (h : Answers mayFail mayCreate c p r q)
    (hc : c.Leaves dict key) : q.value dict key = p.value dict key := by
  cases h with
  | answered => exact value_answer_of_leaves hc p
  | failed => rfl
  | created => exact value_put_ne p [] hc

theorem value_put_nil (p : Pddb) (dict key : String) :
    (p.put dict key []).value dict key = some ((p.value dict key).getD []) := by
  rw [value_put, overlay, List.nil_append, List.length_nil, List.drop_zero]

theorem Answers.delete {r : Except IoError Unit} (h : Answers mayFail mayCreate (.delete dict key) p r q) :
    q.value dict key = none ∨ (mayFail (.delete dict key) ∧ q.value dict key = p.value dict key) := by
  cases h with
  | answered =>
    left
    rw [answer_delete, value_remove]
  | failed hfail => exact .inr ⟨hfail, rfl⟩

theorem Answers.read {r : Except IoError Bytes} (h : Answers mayFail mayCreate (.read dict key) p r q) :
    q = p ∧ ((∃ b, r = .ok b ∧ p.value dict key = some b) ∨
      ∃ e, r = .error e ∧ (p.value dict key = none ∨ mayFail (.read dict key))) := by
  cases h with
  | answered =>
    cases hv : p.value dict key with
    | some b => exact ⟨by simp [answer, hv], .inl ⟨b, by simp [answer, hv]⟩⟩
    | none => exact ⟨by simp [answer, hv], .inr ⟨.notFound "key not found", by simp [answer, hv]⟩⟩
  | failed hfail p e => exact ⟨rfl, .inr ⟨e, rfl, .inr hfail⟩⟩

theorem Answers.write {data : Bytes} {r : Except IoError Unit}
    (h : Answers mayFail mayCreate (.write dict key data) p r q) :
    (r = .ok () ∧ q = p.put dict key data) ∨
      ∃ e, r = .error e ∧ ((mayFail (.write dict key data) ∧ q = p) ∨
        (mayCreate (.write dict key data) ∧ q = p.put dict key [])) := by
  cases h with
  | answered => exact .inl ⟨rfl, rfl⟩
  | failed hfail p e => exact .inr ⟨e, rfl, .inl ⟨hfail, rfl⟩⟩
  | created hcreate p e => exact .inr ⟨e, rfl, .inr ⟨hcreate, rfl⟩⟩

end Pddb

end XousSignalClient
