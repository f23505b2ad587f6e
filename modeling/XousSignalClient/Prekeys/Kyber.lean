import XousSignalClient.Account.Link

namespace XousSignalClient

open Encoding Interaction Fallible

structure KyberFormat where
  KyberPreKeyRecord : Type
  serialize : KyberPreKeyRecord → Except SignalProtocolError Bytes
  deserialize : Bytes → Except SignalProtocolError KyberPreKeyRecord

structure KyberUse where
  kyber_prekey_id : ℕ
  ec_prekey_id : ℕ
  base_key : Bytes
  deriving DecidableEq

def InvalidKyberPreKeyId : SignalProtocolError := .Other "InvalidKyberPreKeyId"

def KyberUse.dedup_key (u : KyberUse) : String :=
  "used:" ++ toString u.kyber_prekey_id ++ ":" ++ toString u.ec_prekey_id ++ ":" ++
    base64UrlEncodeNoPad u.base_key

namespace PddbKyberPreKeyStore

variable (F : KyberFormat) (dict : String)

def get_kyber_pre_key (kyber_prekey_id : ℕ) : PddbProgram (Except SignalProtocolError F.KyberPreKeyRecord) := do
  match ← pddb_read_binary dict (toString kyber_prekey_id) with
  | .ok buf => pure (F.deserialize buf)
  | .error (.notFound _) => pure (.error InvalidKyberPreKeyId)
  | .error (.other t) => pure (.error (io_err_to_signal (.other t) "read failed"))

def save_kyber_pre_key (kyber_prekey_id : ℕ) (record : F.KyberPreKeyRecord) :
    PddbProgram (Except SignalProtocolError Unit) :=
  (savePreKey dict kyber_prekey_id (F.serialize record)).run

def mark_kyber_pre_key_used (u : KyberUse) : PddbProgram (Except SignalProtocolError Unit) := do
  match ← pddb_read_binary dict u.dedup_key with
  | .ok _ => pure (.error InvalidKyberPreKeyId)
  | .error (.notFound _) =>
    let written ← pddb_write_binary dict u.dedup_key [1]
    pure (written.mapError (io_err_to_signal · "mark used: write failed"))
  | .error (.other t) => pure (.error (io_err_to_signal (.other t) "mark used: read failed"))

end PddbKyberPreKeyStore

theorem KyberUse.dedup_key_toList (u : KyberUse) : u.dedup_key.toList =
    "used".toList ++ ':' :: ((toString u.kyber_prekey_id).toList ++ ':' :: ((toString u.ec_prekey_id).toList ++
      ':' :: (base64UrlEncodeNoPad u.base_key).toList)) := by
  simp [dedup_key, String.toList_append]

theorem colon_not_mem_toString (n : ℕ) : ':' ∉ (toString n).toList :=
  fun h => digit_ne (toString_digits n ':' h) (by decide) rfl

theorem KyberUse.dedup_key_injective : Function.Injective KyberUse.dedup_key := by
  intro u u' h
  have hchars := congrArg String.toList h
  rw [dedup_key_toList, dedup_key_toList] at hchars
  have hids := (List.cons.inj (List.append_cancel_left hchars)).2
  obtain ⟨hkyber, hrest⟩ := first_sep_eq (colon_not_mem_toString _) (colon_not_mem_toString _) hids
  obtain ⟨hec, hbase⟩ := first_sep_eq (colon_not_mem_toString _) (colon_not_mem_toString _) hrest
  obtain ⟨kyber, ec, base⟩ := u
  obtain ⟨kyber', ec', base'⟩ := u'
  obtain rfl : kyber = kyber' := toString_injective (String.toList_inj.mp hkyber)
  obtain rfl : ec = ec' := toString_injective (String.toList_inj.mp hec)
  obtain rfl : base = base' := base64UrlEncodeNoPad_injective (String.toList_inj.mp hbase)
  rfl

theorem KyberUse.dedup_key_ne (u : KyberUse) (id : ℕ) : u.dedup_key ≠ toString id := by
  intro h
  have hmem : ':' ∈ u.dedup_key.toList := by
    rw [dedup_key_toList]
    simp
  rw [h] at hmem
  exact colon_not_mem_toString id hmem

section Calls

variable (F : KyberFormat) (dict : String)

inductive KyberCall where
  | save_kyber_pre_key (id : ℕ) (record : F.KyberPreKeyRecord)
  | get_kyber_pre_key (id : ℕ)
  | mark_kyber_pre_key_used (u : KyberUse)

inductive KyberReply where
  | saved (r : Except SignalProtocolError Unit)
  | got (r : Except SignalProtocolError F.KyberPreKeyRecord)
  | marked (r : Except SignalProtocolError Unit)

variable {F}

def KyberCall.perform : KyberCall F → PddbProgram (KyberReply F)
  | .save_kyber_pre_key id record => .saved <$> PddbKyberPreKeyStore.save_kyber_pre_key F dict id record
  | .get_kyber_pre_key id => .got <$> PddbKyberPreKeyStore.get_kyber_pre_key F dict id
  | .mark_kyber_pre_key_used u => .marked <$> PddbKyberPreKeyStore.mark_kyber_pre_key_used dict u

def runCalls : List (KyberCall F) → Pddb → List (KyberCall F × KyberReply F) × Pddb
  | [], p => ([], p)
  | c :: cs, p =>
    let o := (c.perform dict).run Pddb.handler p
    let rest := runCalls cs o.state
    ((c, o.value) :: rest.1, rest.2)

def IsMarked (p : Pddb) (u : KyberUse) : Prop := (p.value dict u.dedup_key).isSome

theorem run_mark_kyber (p : Pddb) (u : KyberUse) :
    let o := (PddbKyberPreKeyStore.mark_kyber_pre_key_used dict u).run Pddb.handler p
    (IsMarked dict p u ∧ o.value = .error InvalidKyberPreKeyId ∧ o.state = p) ∨
    (¬IsMarked dict p u ∧ o.value = .ok () ∧ ∀ dict' key, o.state.value dict' key =
      if (dict', key) = (dict, u.dedup_key) then some [1] else p.value dict' key) := by
  intro o
  obtain ⟨hv, hs⟩ := Pddb.run_read p dict u.dedup_key
  have ho : o = (PddbKyberPreKeyStore.mark_kyber_pre_key_used dict u).run Pddb.handler p := rfl
  unfold PddbKyberPreKeyStore.mark_kyber_pre_key_used pddb_read_binary at ho
  rw [Program.run_bind, hv, hs] at ho
  cases hvalue : p.value dict u.dedup_key with
  | some b =>
    rw [hvalue] at ho
    exact .inl ⟨by simp [IsMarked, hvalue], by rw [ho]; rfl, by rw [ho]; rfl⟩
  | none =>
    rw [hvalue] at ho
    obtain ⟨hok, hwritten⟩ := Pddb.run_write_binary p dict u.dedup_key [1]
    refine .inr ⟨by simp [IsMarked, hvalue], ?_, ?_⟩
    · rw [ho]
      rfl
    · rw [ho]
      exact hwritten

theorem run_save_kyber (p : Pddb) (id : ℕ) (record : F.KyberPreKeyRecord) {key : String} (hkey : key ≠ toString id) :
    ((PddbKyberPreKeyStore.save_kyber_pre_key F dict id record).run Pddb.handler p).state.value dict key =
      p.value dict key := by
  unfold PddbKyberPreKeyStore.save_kyber_pre_key savePreKey
  cases F.serialize record with
  | error e => rfl
  | ok buf =>
    refine ((Pddb.run_write_binary p dict (toString id) buf).2 dict key).trans (if_neg ?_)
    exact fun h => hkey (Prod.mk.inj h).2

theorem run_get_kyber (p : Pddb) (id : ℕ) :
    let o := (PddbKyberPreKeyStore.get_kyber_pre_key F dict id).run Pddb.handler p
    o.state = p ∧ o.value = match p.value dict (toString id) with
      | some buf => F.deserialize buf
      | none => .error InvalidKyberPreKeyId := by
  intro o
  obtain ⟨hv, hs⟩ := Pddb.run_read p dict (toString id)
  have ho : o = (PddbKyberPreKeyStore.get_kyber_pre_key F dict id).run Pddb.handler p := rfl
  unfold PddbKyberPreKeyStore.get_kyber_pre_key pddb_read_binary at ho
  rw [Program.run_bind, hv, hs] at ho
  rw [ho]
  cases p.value dict (toString id) <;> exact ⟨rfl, rfl⟩

theorem isMarked_perform (p : Pddb) (c : KyberCall F) (u : KyberUse) :
    IsMarked dict ((c.perform dict).run Pddb.handler p).state u ↔ IsMarked dict p u ∨
      (c, ((c.perform dict).run Pddb.handler p).value) = (.mark_kyber_pre_key_used u, .marked (.ok ())) := by
  cases c with
  | save_kyber_pre_key id record =>
    have hvalue := run_save_kyber dict p id record (u.dedup_key_ne id)
    simp only [KyberCall.perform, Program.run_map, IsMarked, hvalue]
    simp
  | get_kyber_pre_key id =>
    have hstate := (run_get_kyber (F := F) dict p id).1
    simp only [KyberCall.perform, Program.run_map, hstate]
    simp
  | mark_kyber_pre_key_used v =>
    simp only [KyberCall.perform, Program.run_map]
    rcases run_mark_kyber dict p v with ⟨-, hv, hs⟩ | ⟨-, hv, hs⟩
    · simp [hv, hs]
    · rw [IsMarked, hs, hv]
      by_cases huv : u = v
      · simp [huv]
      · have hkey : (dict, u.dedup_key) ≠ (dict, v.dedup_key) :=
          fun h => huv (KyberUse.dedup_key_injective (Prod.mk.inj h).2)
        rw [if_neg hkey, IsMarked]
        simp [Ne.symm huv]

theorem isMarked_runCalls (cs : List (KyberCall F)) (p : Pddb) (u : KyberUse) :
    IsMarked dict (runCalls dict cs p).2 u ↔
      IsMarked dict p u ∨ (.mark_kyber_pre_key_used u, .marked (.ok ())) ∈ (runCalls dict cs p).1 := by
  induction cs generalizing p with
  | nil => simp [runCalls]
  | cons c cs ih =>
    have hstep := isMarked_perform dict p c u
    simp only [runCalls, List.mem_cons]
    rw [ih, hstep, or_assoc]
    exact or_congr_right (or_congr_left eq_comm)

/-- A use is refused exactly if it is marked: before the run, or by an accepted call of the run. -/
theorem kyber_reuse_detected (p : Pddb) (earlier : List (KyberCall F)) (u : KyberUse) :
    let answers := (runCalls dict earlier p).1
    let q := (runCalls dict earlier p).2
    let o := (PddbKyberPreKeyStore.mark_kyber_pre_key_used dict u).run Pddb.handler q
    let Reused := IsMarked dict p u ∨ (.mark_kyber_pre_key_used u, .marked (.ok ())) ∈ answers
    (o.value = .error InvalidKyberPreKeyId ↔ Reused) ∧ (o.value = .ok () ↔ ¬Reused) ∧ ¬IsMarked dict ∅ u ∧
    (∀ id, ((PddbKyberPreKeyStore.get_kyber_pre_key F dict id).run Pddb.handler o.state).value =
      ((PddbKyberPreKeyStore.get_kyber_pre_key F dict id).run Pddb.handler q).value) ∧
    ∀ id (record : F.KyberPreKeyRecord) v, IsMarked dict q v →
      IsMarked dict ((PddbKyberPreKeyStore.save_kyber_pre_key F dict id record).run Pddb.handler q).state v := by
  intro answers q o Reused
  have hmarked : IsMarked dict q u ↔ Reused := isMarked_runCalls dict earlier p u
  have hfresh : ¬IsMarked dict ∅ u := by simp [IsMarked]
  refine ⟨?_, ?_, hfresh, ?_, ?_⟩
  · rw [← hmarked]
    rcases run_mark_kyber dict q u with ⟨hm, hv, -⟩ | ⟨hm, hv, -⟩
    · exact iff_of_true hv hm
    · exact iff_of_false (fun h => by rw [hv] at h; cases h) hm
  · rw [← hmarked]
    rcases run_mark_kyber dict q u with ⟨hm, hv, -⟩ | ⟨hm, hv, -⟩
    · exact iff_of_false (fun h => by rw [hv] at h; cases h) (not_not_intro hm)
    · exact iff_of_true hv hm
  · intro id
    rw [(run_get_kyber dict o.state id).2, (run_get_kyber dict q id).2]
    rcases run_mark_kyber dict q u with ⟨-, -, hs⟩ | ⟨-, -, hs⟩
    · rw [hs]
    · have hkey : (dict, toString id) ≠ (dict, u.dedup_key) := fun h => u.dedup_key_ne id (Prod.mk.inj h).2.symm
      rw [hs, if_neg hkey]
  · intro id record v hv
    rw [IsMarked, run_save_kyber dict q id record (v.dedup_key_ne id)]
    exact hv

end Calls

end XousSignalClient
