import XousSignalClient.Prekeys.Stock

namespace XousSignalClient

open Encoding Interaction Fallible

def Backed (K : PreKeyCrate) (p : Pddb) (entry : ℕ × String) : Prop :=
  ∃ record pub, ((PddbPreKeyStore.get_pre_key K entry.1).run Pddb.handler p).value = .ok record ∧
    K.record_public_key record = .ok pub ∧ base64EncodeNoPad pub = entry.2

def Regime.Reliable (R : Regime) : Prop := (∀ s c, ¬R.fails s c) ∧ ∀ s, ¬R.crashes s

def Regime.Within (R R' : Regime) : Prop :=
  (∀ s c, R.fails s c → R'.fails s c) ∧ ∀ s, R.crashes s → R'.crashes s

theorem reliable_within (R : Regime) : Regime.reliable.Within R := ⟨fun _ _ h => h.elim, fun _ h => h.elim⟩

theorem backed_of_value {K : PreKeyCrate} {p : Pddb} {id : ℕ} {buf : Bytes} {record : K.PreKeyRecord} {pub : Bytes}
    (hvalue : p.value PREKEY_DICT (toString id) = some buf) (hrecord : K.deserialize buf = .ok record)
    (hpub : K.record_public_key record = .ok pub) : Backed K p (id, base64EncodeNoPad pub) := by
  refine ⟨record, pub, ?_, hpub, rfl⟩
  obtain ⟨hv, -⟩ := Pddb.run_read p PREKEY_DICT (toString id)
  rw [hvalue] at hv
  unfold PddbPreKeyStore.get_pre_key pddb_read_binary
  rw [Program.run_bind, hv]
  exact hrecord

theorem Backed.of_value_eq {K : PreKeyCrate} {p q : Pddb} {entry : ℕ × String} (h : Backed K p entry)
    (hvalue : q.value PREKEY_DICT (toString entry.1) = p.value PREKEY_DICT (toString entry.1)) :
    Backed K q entry := by
  obtain ⟨record, pub, hget, hpub, hb64⟩ := h
  refine ⟨record, pub, ?_, hpub, hb64⟩
  rw [← hget]
  obtain ⟨hp, -⟩ := Pddb.run_read p PREKEY_DICT (toString entry.1)
  obtain ⟨hq, -⟩ := Pddb.run_read q PREKEY_DICT (toString entry.1)
  unfold PddbPreKeyStore.get_pre_key pddb_read_binary
  rw [Program.run_bind, Program.run_bind, hp, hq, hvalue]
  cases p.value PREKEY_DICT (toString entry.1) <;> rfl

theorem value_remove_pre_key (p : Pddb) (id : ℕ) {dict key : String} (h : (dict, key) ≠ (PREKEY_DICT, toString id)) :
    ((PddbPreKeyStore.remove_pre_key id).run Pddb.handler p).state.value dict key = p.value dict key := by
  have honly : (PddbPreKeyStore.remove_pre_key id).Only (PddbCall.Leaves dict key) := by
    apply (Program.Only.perform (S := pddbSignature) (.delete PREKEY_DICT (toString id)) h).bind
    rintro (e | u)
    · cases e <;> exact .ret _
    · exact .ret _
  exact Pddb.value_of_leaves honly p

/-- The stock in the middle of a cycle. Ids come from the counter's run from `first` on: `m` of them were
allocated before the counter was last stored, `a` since, and those of `fresh` are saved and not uploaded. -/
structure Batch (K : PreKeyCrate) (R : Regime) (first m a : ℕ) (fresh : List (ℕ × String)) (s : Phone) : Prop where
  seed : 1 ≤ first ∧ first ≤ MEDIUM_MAX
  count : m + a ≤ s.allocated.length
  uploaded : ∀ id ∈ s.stock.map Prod.fst ++ s.handed, ∃ i < m, id = slot first i
  unique : s.allocated.length ≤ MEDIUM_MAX → (s.stock.map Prod.fst ++ s.handed).Nodup
  intact : s.allocated.length ≤ MEDIUM_MAX → s.overwritten = []
  room : fresh.length ≤ a
  ids : fresh.map Prod.fst = (List.range fresh.length).map (fun i => slot first (m + i))
  exact : R.Reliable → s.allocated = (List.range (m + a)).map (fun i => toString (slot first i))
  backed : R.Reliable → s.allocated.length ≤ MEDIUM_MAX → ∀ e ∈ s.stock ++ fresh, Backed K s.pddb e

section Batch

variable {K : PreKeyCrate} {R : Regime} {first m a : ℕ} {fresh : List (ℕ × String)} {s : Phone}

theorem Batch.ne_slot (h : Batch K R first m a fresh s) {id i : ℕ} (hT : s.allocated.length ≤ MEDIUM_MAX)
    (hid : id ∈ s.stock.map Prod.fst ++ s.handed) (hi : m ≤ i) (hlt : i < s.allocated.length) :
    id ≠ slot first i := by
  obtain ⟨j, hj, rfl⟩ := h.uploaded id hid
  intro heq
  have := slot_injective (by omega) (by omega) heq
  omega

theorem Batch.fresh_slot (h : Batch K R first m a fresh s) {e : ℕ × String} (he : e ∈ fresh) :
    ∃ i < a, e.1 = slot first (m + i) := by
  have hmem : e.1 ∈ fresh.map Prod.fst := List.mem_map_of_mem he
  rw [h.ids] at hmem
  obtain ⟨i, hi, heq⟩ := List.mem_map.mp hmem
  have := List.mem_range.mp hi
  have := h.room
  exact ⟨i, by omega, heq.symm⟩

theorem Batch.of_pddb {q : Pddb} (h : Batch K R first m a fresh s)
    (hvalue : s.allocated.length ≤ MEDIUM_MAX → ∀ e ∈ s.stock ++ fresh,
      q.value PREKEY_DICT (toString e.1) = s.pddb.value PREKEY_DICT (toString e.1)) :
    Batch K R first m a fresh { s with pddb := q } where
  seed := h.seed
  count := h.count
  uploaded := h.uploaded
  unique := h.unique
  intact := h.intact
  room := h.room
  ids := h.ids
  exact := h.exact
  backed := fun hR hT e he => (h.backed hR hT e he).of_value_eq (hvalue hT e he)

theorem Batch.handOut (h : Batch K R first m a fresh s) {entry : ℕ × String} (hentry : entry ∈ s.stock) :
    Batch K R first m a fresh { s with stock := s.stock.erase entry, handed := entry.1 :: s.handed } := by
  have hperm : (s.stock.map Prod.fst ++ s.handed).Perm
      ((s.stock.erase entry).map Prod.fst ++ entry.1 :: s.handed) := by
    have hstock := ((List.perm_cons_erase hentry).map Prod.fst).append_right s.handed
    rw [List.map_cons, List.cons_append] at hstock
    exact hstock.trans List.perm_middle.symm
  exact {
    seed := h.seed
    count := h.count
    uploaded := fun id hid => h.uploaded id (hperm.mem_iff.mpr hid)
    unique := fun hT => hperm.nodup_iff.mp (h.unique hT)
    intact := h.intact
    room := h.room
    ids := h.ids
    exact := h.exact
    backed := fun hR hT e he => h.backed hR hT e (List.mem_append.mpr
      ((List.mem_append.mp he).imp (fun hs => List.mem_of_mem_erase hs) id)) }

theorem Batch.consume (h : Batch K R first m a fresh s) {id : ℕ} (hid : id ∈ s.handed) :
    Batch K R first m a fresh { s with
      pddb := ((PddbPreKeyStore.remove_pre_key id).run Pddb.handler s.pddb).state
      consumed := id :: s.consumed } := by
  have hpddb := h.of_pddb (q := ((PddbPreKeyStore.remove_pre_key id).run Pddb.handler s.pddb).state) ?_
  · exact { hpddb with }
  · intro hT e he
    apply value_remove_pre_key
    intro heq
    have heq : e.1 = id := toString_injective (Prod.mk.inj heq).2
    have hcount := h.count
    rcases List.mem_append.mp he with hs | hf
    · have hnodup := List.nodup_append.mp (h.unique hT)
      exact hnodup.2.2 e.1 (List.mem_map_of_mem hs) id hid heq
    · obtain ⟨i, hi, hslot⟩ := h.fresh_slot hf
      exact h.ne_slot hT (List.mem_append_right _ hid) (by omega : m ≤ m + i) (by omega) (heq ▸ hslot)

theorem Batch.move {t : Phone} (h : Batch K R first m a fresh s) (hmove : s.Moves t) :
    Batch K R first m a fresh t ∧ t.pddb.counter = s.pddb.counter ∧ t.allocated = s.allocated := by
  cases hmove with
  | handOut hentry => exact ⟨h.handOut hentry, rfl, rfl⟩
  | consume hid => exact ⟨h.consume hid, value_remove_pre_key _ _ (by simp [ACCOUNT_DICT, PREKEY_DICT]), rfl⟩

theorem Batch.drop (h : Batch K R first m a fresh s) (hR : ¬R.Reliable) : Batch K R first m 0 [] s where
  seed := h.seed
  count := by have := h.count; omega
  uploaded := h.uploaded
  unique := h.unique
  intact := h.intact
  room := le_rfl
  ids := rfl
  exact := fun hrel => (hR hrel).elim
  backed := fun hrel => (hR hrel).elim

theorem Batch.settle (h : Batch K R first m a fresh s) : Batch K R first (m + a) 0 [] s where
  seed := h.seed
  count := h.count
  uploaded := by
    intro id hid
    obtain ⟨i, hi, heq⟩ := h.uploaded id hid
    exact ⟨i, by omega, heq⟩
  unique := h.unique
  intact := h.intact
  room := le_rfl
  ids := rfl
  exact := h.exact
  backed := fun hR hT e he => h.backed hR hT e (List.mem_append_left _ (by simpa using he))

theorem Batch.reseed (h : Batch K R first m a fresh s) (hnone : s.allocated = []) {first' : ℕ}
    (hseed : 1 ≤ first' ∧ first' ≤ MEDIUM_MAX) : Batch K R first' 0 0 [] s where
  seed := hseed
  count := by omega
  uploaded := by
    intro id hid
    obtain ⟨i, hi, -⟩ := h.uploaded id hid
    have hcount := h.count
    rw [hnone, List.length_nil] at hcount
    omega
  unique := h.unique
  intact := h.intact
  room := le_rfl
  ids := rfl
  exact := fun _ => hnone
  backed := fun hR hT e he => h.backed hR hT e (List.mem_append_left _ (by simpa using he))

theorem Batch.slot_lt (h : Batch K R first m a fresh s) {e : ℕ × String} (he : e ∈ s.stock ++ fresh) :
    ∃ i < m + a, e.1 = slot first i := by
  rcases List.mem_append.mp he with hs | hf
  · obtain ⟨i, hi, heq⟩ := h.uploaded e.1 (List.mem_append_left _ (List.mem_map_of_mem hs))
    exact ⟨i, by omega, heq⟩
  · obtain ⟨i, hi, heq⟩ := h.fresh_slot hf
    exact ⟨m + i, by omega, heq⟩

theorem Batch.key_ne (h : Batch K R first m a fresh s) {e : ℕ × String} (he : e ∈ s.stock ++ fresh) {i : ℕ}
    (hi : m + a ≤ i) (hmax : i < MEDIUM_MAX) : toString e.1 ≠ toString (slot first i) := by
  obtain ⟨j, hj, hslot⟩ := h.slot_lt he
  intro heq
  have := slot_injective (by omega) hmax (hslot.symm.trans (toString_injective heq))
  omega

theorem Batch.accept (h : Batch K R first m a fresh s) :
    Batch K R first (m + a) 0 [] { s with stock := s.stock ++ fresh } where
  seed := h.seed
  count := h.count
  uploaded := by
    intro id hid
    rw [List.mem_append] at hid
    rcases hid with hid | hid
    · obtain ⟨e, he, rfl⟩ := List.mem_map.mp hid
      exact h.slot_lt he
    · obtain ⟨i, hi, heq⟩ := h.uploaded id (List.mem_append_right _ hid)
      exact ⟨i, by omega, heq⟩
  unique := by
    intro hT
    have hT : s.allocated.length ≤ MEDIUM_MAX := hT
    have hcount := h.count
    have hroom := h.room
    have hfresh : (fresh.map Prod.fst).Nodup := by
      rw [h.ids]
      refine List.Nodup.map_on ?_ List.nodup_range
      intro i hi j hj heq
      rw [List.mem_range] at hi hj
      have := slot_injective (by omega) (by omega) heq
      omega
    have hdisjoint : ∀ x ∈ s.stock.map Prod.fst ++ s.handed, ∀ y ∈ fresh.map Prod.fst, x ≠ y := by
      intro x hx y hy
      obtain ⟨e, he, rfl⟩ := List.mem_map.mp hy
      obtain ⟨i, hi, hslot⟩ := h.fresh_slot he
      rw [hslot]
      exact h.ne_slot hT hx (by omega) (by omega)
    have hall := List.nodup_append.mpr ⟨h.unique hT, hfresh, hdisjoint⟩
    have hperm : (s.stock.map Prod.fst ++ s.handed ++ fresh.map Prod.fst).Perm
        ((s.stock ++ fresh).map Prod.fst ++ s.handed) := by
      rw [List.map_append, List.append_assoc, List.append_assoc]
      exact List.Perm.append_left _ List.perm_append_comm
    exact hperm.nodup_iff.mp hall
  intact := h.intact
  room := le_rfl
  ids := rfl
  exact := h.exact
  backed := fun hR hT e he => h.backed hR hT e (by simpa using he)

theorem Batch.allocate {q : Pddb} (h : Batch K R first m a fresh s)
    (hvalue : ∀ key, key ≠ toString (slot first (m + a)) →
      q.value PREKEY_DICT key = s.pddb.value PREKEY_DICT key) :
    Batch K R first m (a + 1) fresh
      { s with allocated := s.allocated ++ [toString (slot first (m + a))], pddb := q } := by
  have hlen : (s.allocated ++ [toString (slot first (m + a))]).length = s.allocated.length + 1 := by simp
  have hcount := h.count
  have hroom := h.room
  exact {
    seed := h.seed
    count := by rw [hlen]; omega
    uploaded := h.uploaded
    unique := fun hT => h.unique (by rw [hlen] at hT; omega)
    intact := fun hT => h.intact (by rw [hlen] at hT; omega)
    room := by omega
    ids := h.ids
    exact := fun hR => by rw [h.exact hR, ← Nat.add_assoc, List.range_succ, List.map_append]; rfl
    backed := by
      intro hR hT e he
      rw [hlen] at hT
      exact (h.backed hR (by omega) e he).of_value_eq (hvalue _ (h.key_ne he le_rfl (by omega))) }

theorem Batch.write {q : Pddb} {data : Bytes} (h : Batch K R first m (a + 1) fresh s) (hfresh : fresh.length = a)
    (hvalue : ∀ key, key ≠ toString (slot first (m + a)) →
      q.value PREKEY_DICT key = s.pddb.value PREKEY_DICT key) :
    Batch K R first m (a + 1) fresh
      { s.note (.write PREKEY_DICT (toString (slot first (m + a))) data) with pddb := q } := by
  have hcount := h.count
  have hlive : s.allocated.length ≤ MEDIUM_MAX → toString (slot first (m + a)) ∉ s.live.map toString := by
    intro hT hmem
    obtain ⟨id, hid, heq⟩ := List.mem_map.mp hmem
    have hid : id ∈ s.stock.map Prod.fst ++ s.handed := by
      rw [Phone.live, List.mem_append] at hid
      exact List.mem_append.mpr (hid.imp_right (fun hmem => List.mem_of_mem_filter hmem))
    exact h.ne_slot hT hid (by omega : m ≤ m + a) (by omega) (toString_injective heq)
  have hvalues : s.allocated.length ≤ MEDIUM_MAX → ∀ e ∈ s.stock ++ fresh,
      q.value PREKEY_DICT (toString e.1) = s.pddb.value PREKEY_DICT (toString e.1) := by
    intro hT e he
    apply hvalue
    intro heq
    have hslot : e.1 = slot first (m + a) := toString_injective heq
    rcases List.mem_append.mp he with hs | hf
    · exact h.ne_slot hT (List.mem_append_left _ (List.mem_map_of_mem hs)) (by omega : m ≤ m + a) (by omega) hslot
    · have hmem : e.1 ∈ fresh.map Prod.fst := List.mem_map_of_mem hf
      rw [h.ids] at hmem
      obtain ⟨i, hi, hi'⟩ := List.mem_map.mp hmem
      rw [List.mem_range] at hi
      have := slot_injective (by omega) (by omega) (hi'.trans hslot)
      omega
  by_cases hmem : toString (slot first (m + a)) ∈ s.live.map toString
  · have hnote : s.note (.write PREKEY_DICT (toString (slot first (m + a))) data) =
        { s with overwritten := s.overwritten ++ [toString (slot first (m + a))] } := if_pos ⟨rfl, hmem⟩
    rw [hnote]
    exact { h.of_pddb hvalues with intact := fun hT => absurd hmem (hlive hT) }
  · have hnote : s.note (.write PREKEY_DICT (toString (slot first (m + a))) data) = s :=
      if_neg (fun hboth => hmem hboth.2)
    rw [hnote]
    exact h.of_pddb hvalues

theorem Batch.extend {pk : String} (h : Batch K R first m (a + 1) fresh s) (hfresh : fresh.length = a)
    (hbacked : R.Reliable → Backed K s.pddb (slot first (m + a), pk)) :
    Batch K R first m (a + 1) (fresh ++ [(slot first (m + a), pk)]) s where
  seed := h.seed
  count := h.count
  uploaded := h.uploaded
  unique := h.unique
  intact := h.intact
  room := by simp [hfresh]
  ids := by
    rw [List.map_append, List.length_append, List.length_singleton, List.range_succ, List.map_append, h.ids, hfresh]
    rfl
  exact := h.exact
  backed := by
    intro hR hT e he
    rw [← List.append_assoc, List.mem_append, List.mem_singleton] at he
    rcases he with he | rfl
    · exact h.backed hR hT e he
    · exact hbacked hR

end Batch

section Assertions

variable {K : PreKeyCrate} {R : Regime} {b first m a : ℕ} {fresh : List (ℕ × String)}

def Right (first m : ℕ) (counter : Option Bytes) (_allocated : List String) : Prop :=
  ∃ text, counter = some text ∧ counterValue text = some (slot first m)

def Trusted (first m : ℕ) (counter : Option Bytes) (allocated : List String) : Prop :=
  allocated ≠ [] → ∀ text, counter = some text → text ≠ [] → counterValue text = some (slot first m)

def During (K : PreKeyCrate) (R : Regime) (first m a : ℕ) (fresh : List (ℕ × String))
    (φ : Option Bytes → List String → Prop) (s : Phone) : Prop :=
  Batch K R first m a fresh s ∧ φ s.pddb.counter s.allocated

def Sound (K : PreKeyCrate) (R : Regime) (s : Phone) : Prop :=
  ∃ first m, During K R first m 0 [] (fun counter allocated => allocated = [] ∨ Right first m counter allocated) s

def Watched (K : PreKeyCrate) (R : Regime) (s : Phone) : Prop :=
  (∃ first m a fresh, Batch K R first m a fresh s) ∧ (R.crashes s → Sound K R s)

theorem Right.trusted {counter : Option Bytes} {allocated : List String} (h : Right first m counter allocated) :
    Trusted first m counter allocated := by
  obtain ⟨text, hcounter, hvalue⟩ := h
  intro _ text' htext' _
  rw [hcounter, Option.some.injEq] at htext'
  rwa [← htext']

theorem During.mono {φ ψ : Option Bytes → List String → Prop} {s : Phone} (h : During K R first m a fresh φ s)
    (himp : ∀ counter allocated, φ counter allocated → ψ counter allocated) : During K R first m a fresh ψ s :=
  ⟨h.1, himp _ _ h.2⟩

theorem stable_during (φ : Option Bytes → List String → Prop) :
    (R.surroundings K).Stable (During K R first m a fresh φ) := by
  rintro s t ⟨hbatch, hφ⟩ hmove
  obtain ⟨hbatch', hcounter, hallocated⟩ := hbatch.move hmove
  exact ⟨hbatch', by rwa [hcounter, hallocated]⟩

theorem stable_sound : (R.surroundings K).Stable (Sound K R) := by
  rintro s t ⟨first, m, h⟩ hmove
  exact ⟨first, m, stable_during _ s t h hmove⟩

theorem Regime.not_reliable_of_fails {s : Phone} {c : PddbCall} (h : R.fails s c) : ¬R.Reliable :=
  fun hrel => hrel.1 s c h

theorem During.watched (hR : R.Within (.careful b)) {s : Phone} (h : During K R first m a fresh (Trusted first m) s) :
    Watched K R s := by
  refine ⟨⟨first, m, a, fresh, h.1⟩, ?_⟩
  intro hcrash
  have hdrop := h.1.drop (fun hrel => hrel.2 s hcrash)
  refine ⟨first, m, hdrop, ?_⟩
  by_cases hnone : s.allocated = []
  · exact .inl hnone
  · rcases hR.2 s hcrash with ⟨text, htext, hne⟩ | hempty
    · exact .inr ⟨text, htext, h.2 hnone text htext hne⟩
    · exact .inl hempty

theorem During.sound {s : Phone} (h : During K R first m a fresh (Right first (m + a)) s) : Sound K R s :=
  ⟨first, m + a, h.1.settle, .inr h.2⟩

theorem Sound.watched {s : Phone} (h : Sound K R s) : Watched K R s := by
  refine ⟨?_, fun _ => h⟩
  obtain ⟨first, m, hbatch, -⟩ := h
  exact ⟨first, m, 0, [], hbatch⟩

theorem During.settled_watched {s : Phone} (h : During K R first m a fresh (Right first (m + a)) s) : Watched K R s :=
  h.sound.watched

theorem Batch.account_call {c : PddbCall} {s t : Phone} {r : c.Reply} (h : Batch K R first m a fresh s)
    (hc : c.Touches ACCOUNT_DICT)
    (hanswer : (R.surroundings K).answers (KeysCall.pddb c) s r t) :
    Batch K R first m a fresh t ∧ t.allocated = s.allocated ∧
      Pddb.Answers (R.fails s) (R.fails s) c s.pddb r t.pddb := by
  obtain ⟨q, hq, rfl⟩ := hanswer
  have hdict : ACCOUNT_DICT ≠ PREKEY_DICT := by decide
  have hnote : s.note c = s := by
    cases c with
    | delete dict key =>
      obtain rfl : dict = ACCOUNT_DICT := hc
      simp [Phone.note, hdict]
    | write dict key data =>
      obtain rfl : dict = ACCOUNT_DICT := hc
      simp [Phone.note, hdict]
    | _ => rfl
  rw [hnote]
  refine ⟨h.of_pddb (fun _ e _ => ?_), rfl, hq⟩
  exact hq.value_of_leaves (hc.leaves hdict.symm _)

theorem During.write_failed (hR : R.Within (.careful b)) {s t : Phone} {data : Bytes}
    (h : During K R first m a fresh (Trusted first m) s) (ht : Batch K R first m a fresh t)
    (hallocated : t.allocated = s.allocated)
    (hfails : R.fails s (.write ACCOUNT_DICT ACI_NEXT_PREKEY_ID_KEY data))
    (hput : t.pddb = s.pddb ∨ t.pddb = s.pddb.put ACCOUNT_DICT ACI_NEXT_PREKEY_ID_KEY []) : Sound K R t := by
  refine ⟨first, m, ht.drop (Regime.not_reliable_of_fails hfails), ?_⟩
  rcases hR.1 _ _ hfails rfl with ⟨text, htext, hne⟩ | hempty
  · by_cases hnone : s.allocated = []
    · exact .inl (hallocated.trans hnone)
    · refine .inr ⟨text, ?_, h.2 hnone text htext hne⟩
      rcases hput with hput | hput
      · rw [hput, htext]
      · have hvalue : s.pddb.value ACCOUNT_DICT ACI_NEXT_PREKEY_ID_KEY = some text := htext
        rw [hput, Pddb.counter, Pddb.value_put_nil, hvalue, Option.getD_some]
  · exact .inl (hallocated.trans hempty)

end Assertions

end XousSignalClient
