import XousSignalClient.Encoding.Wire
import XousSignalClient.Prekeys.Cycles

namespace XousSignalClient

open Encoding Interaction Fallible

variable {K : PreKeyCrate} {R : Regime} {b first m a : ℕ} {fresh : List (ℕ × String)} {s t : Phone}

section Requests

variable {α : Type} {C P : Phone → Prop} {Q : α → Phone → Prop}

theorem keeps_keys_call {c : KeysCall} {next : c.Reply K → KeysProgram K α} {M : c.Reply K → Phone → Prop}
    (hstable : (R.surroundings K).Stable P) (hC : ∀ s, P s → C s)
    (hanswer : ∀ s (r : c.Reply K) t, P s → (R.surroundings K).answers c s r t → M r t)
    (hnext : ∀ r, Keeps (R.surroundings K) C (M r) (next r) Q) :
    Keeps (R.surroundings K) C P (Program.ask (S := keysSignature K) c next) Q :=
  keeps_ask hstable hC hanswer hnext

theorem keeps_pddb_call {c : PddbCall} {next : c.Reply → KeysProgram K α} {M : c.Reply → Phone → Prop}
    (hstable : (R.surroundings K).Stable P) (hC : ∀ s, P s → C s)
    (hanswer : ∀ s (r : c.Reply) t, P s → (R.surroundings K).answers (KeysCall.pddb c) s r t → M r t)
    (hnext : ∀ r, Keeps (R.surroundings K) C (M r) (next r) Q) :
    Keeps (R.surroundings K) C P (Program.ask (S := keysSignature K) (KeysCall.pddb c) next) Q :=
  keeps_ask hstable hC hanswer hnext

theorem keeps_sound {x : α} (hQ : ∀ s, Sound K R s → Q x s) :
    Keeps (R.surroundings K) (Watched K R) (Sound K R) (.ret x) Q :=
  keeps_ret stable_sound (fun _ h => h.watched) hQ

end Requests

def OrSound (K : PreKeyCrate) (R : Regime) {ε α : Type} (φ : α → Phone → Prop) : Except ε α → Phone → Prop
  | .ok x, s => φ x s
  | .error _, s => Sound K R s

theorem synced {φ : Option Bytes → List String → Prop} {r : Except IoError Unit}
    (h : During K R first m a fresh φ s) (hanswer : (R.surroundings K).answers (KeysCall.pddb .sync) s r t) :
    During K R first m a fresh φ t := by
  obtain ⟨hbatch', hallocated, hq⟩ := h.1.account_call (c := .sync) trivial hanswer
  have hcounter : t.pddb.counter = s.pddb.counter := hq.value_of_leaves trivial
  refine ⟨hbatch', ?_⟩
  rw [hallocated, hcounter]
  exact h.2

section Counter

def Fits (b next : ℕ) (counter : Option Bytes) : Prop :=
  ∀ text, counter = some text → (∃ n, text = utf8 (toString n) ∧ n + b ≤ MEDIUM_MAX) →
    text.length ≤ (utf8 (toString next)).length

def Short (next : ℕ) (counter : Option Bytes) : Prop :=
  ∀ text, counter = some text → text.length ≤ (utf8 (toString next)).length

theorem counter_deleted (hR : R.Within (.careful b)) {next : ℕ} {r : Except IoError Unit}
    (h : During K R first m a fresh (fun c l => Trusted first m c l ∧ Fits b next c) s)
    (hanswer : (R.surroundings K).answers
      (KeysCall.pddb (.delete ACCOUNT_DICT ACI_NEXT_PREKEY_ID_KEY)) s r t) :
    During K R first m a fresh (fun c l => Trusted first m c l ∧ Short next c) t := by
  obtain ⟨hbatch, htrust, hfits⟩ := h
  obtain ⟨hbatch', hallocated, hq⟩ :=
    hbatch.account_call (c := .delete ACCOUNT_DICT ACI_NEXT_PREKEY_ID_KEY) rfl hanswer
  refine ⟨hbatch', ?_⟩
  rw [hallocated]
  rcases hq.delete with hgone | ⟨hfails, hsame⟩
  · have hgone : t.pddb.counter = none := hgone
    rw [hgone]
    exact ⟨fun _ text h => (nomatch h), fun text h => (nomatch h)⟩
  · have hsame : t.pddb.counter = s.pddb.counter := hsame
    rw [hsame]
    exact ⟨htrust, fun text htext => hfits text htext (hR.1 _ _ hfails rfl text htext)⟩

theorem counter_created (hR : R.Within (.careful b)) {next : ℕ} {r : Except IoError Unit}
    (h : During K R first m a fresh (fun c l => Trusted first m c l ∧ Short next c) s)
    (hanswer : (R.surroundings K).answers
      (KeysCall.pddb (.write ACCOUNT_DICT ACI_NEXT_PREKEY_ID_KEY [])) s r t) :
    OrSound K R (fun _ => During K R first m a fresh (fun c l => Trusted first m c l ∧ Short next c)) r t := by
  obtain ⟨hbatch', hallocated, hq⟩ :=
    h.1.account_call (c := .write ACCOUNT_DICT ACI_NEXT_PREKEY_ID_KEY []) rfl hanswer
  rcases hq.write with ⟨rfl, hput⟩ | ⟨e, rfl, hfailed⟩
  · refine ⟨hbatch', ?_⟩
    have hcounter : t.pddb.counter = some (s.pddb.counter.getD []) := by
      rw [hput]
      exact Pddb.value_put_nil _ _ _
    obtain ⟨htrust, hshort⟩ := h.2
    rw [hallocated, hcounter]
    cases hold : s.pddb.counter with
    | none =>
      refine ⟨fun _ text htext hne => absurd (Option.some.inj htext).symm hne, fun text htext => ?_⟩
      rw [← Option.some.inj htext]
      exact Nat.zero_le _
    | some text =>
      rw [hold] at htrust hshort
      exact ⟨htrust, hshort⟩
  · have htrust := h.mono fun _ _ hφ => hφ.1
    rcases hfailed with ⟨hfails, hput⟩ | ⟨hfails, hput⟩
    · exact htrust.write_failed hR hbatch' hallocated hfails (.inl hput)
    · exact htrust.write_failed hR hbatch' hallocated hfails (.inr hput)

theorem counter_stored (hR : R.Within (.careful b)) {next : ℕ} (hnext : next = slot first (m + a))
    {r : Except IoError Unit}
    (h : During K R first m a fresh (fun c l => Trusted first m c l ∧ Short next c) s)
    (hanswer : (R.surroundings K).answers
      (KeysCall.pddb (.write ACCOUNT_DICT ACI_NEXT_PREKEY_ID_KEY (utf8 (toString next)))) s r t) :
    OrSound K R (fun _ => During K R first m a fresh (Right first (m + a))) r t := by
  obtain ⟨hbatch', hallocated, hq⟩ :=
    h.1.account_call (c := .write ACCOUNT_DICT ACI_NEXT_PREKEY_ID_KEY (utf8 (toString next))) rfl hanswer
  rcases hq.write with ⟨rfl, hput⟩ | ⟨e, rfl, hfailed⟩
  · have hlen : ((s.pddb.value ACCOUNT_DICT ACI_NEXT_PREKEY_ID_KEY).getD []).length ≤
        (utf8 (toString next)).length := by
      cases hold : s.pddb.value ACCOUNT_DICT ACI_NEXT_PREKEY_ID_KEY with
      | none => exact Nat.zero_le _
      | some text => exact h.2.2 text hold
    refine ⟨hbatch', utf8 (toString next), ?_, ?_⟩
    · rw [hput, Pddb.counter, Pddb.value_put, Pddb.overlay_of_length_le hlen]
    · rw [hnext, counterValue_slot]
  · have htrust := h.mono fun _ _ hφ => hφ.1
    rcases hfailed with ⟨hfails, hput⟩ | ⟨hfails, hput⟩
    · exact htrust.write_failed hR hbatch' hallocated hfails (.inl hput)
    · exact htrust.write_failed hR hbatch' hallocated hfails (.inr hput)

theorem keeps_write_counter (hR : R.Within (.careful b)) {next : ℕ} (hnext : next = slot first (m + a)) :
    Keeps (R.surroundings K) (Watched K R)
      (During K R first m a fresh (fun c l => Trusted first m c l ∧ Fits b next c))
      (inKeys (write_prekey_counter next))
      (OrSound K R (fun _ => During K R first m a fresh (Right first (m + a)))) := by
  have hwatched : ∀ {φ : Option Bytes → Prop} (s : Phone),
      During K R first m a fresh (fun c l => Trusted first m c l ∧ φ c) s → Watched K R s :=
    fun s h => (h.mono fun _ _ hφ => hφ.1).watched hR
  refine keeps_pddb_call (c := .delete ACCOUNT_DICT ACI_NEXT_PREKEY_ID_KEY) (stable_during _) hwatched
    (fun s r t h hanswer => counter_deleted hR h hanswer) (fun _ => ?_)
  refine keeps_pddb_call (c := .write ACCOUNT_DICT ACI_NEXT_PREKEY_ID_KEY []) (stable_during _) hwatched
    (fun s r t h hanswer => counter_created hR h hanswer) ?_
  rintro (e | ⟨⟩)
  · exact keeps_sound (fun _ h => h)
  change Keeps _ _ (During K R first m a fresh (fun c l => Trusted first m c l ∧ Short next c)) _ _
  refine keeps_pddb_call (c := .write ACCOUNT_DICT ACI_NEXT_PREKEY_ID_KEY (utf8 (toString next)))
    (stable_during _) hwatched (fun s r t h hanswer => counter_stored hR hnext h hanswer) ?_
  rintro (e | ⟨⟩)
  · exact keeps_sound (fun _ h => h)
  change Keeps _ _ (During K R first m a fresh (Right first (m + a))) _ _
  refine keeps_pddb_call (c := .sync) (stable_during _) (fun _ h => h.settled_watched)
    (fun s r t h hanswer => synced h hanswer) (fun _ => ?_)
  exact keeps_ret (stable_during _) (fun _ h => h.settled_watched) (fun _ h => h)

def Counted (K : PreKeyCrate) (R : Regime) (v : ℕ) (s : Phone) : Prop :=
  ∃ first m, slot first m = v ∧ During K R first m 0 [] (Right first m) s

def Unset (K : PreKeyCrate) (R : Regime) (s : Phone) : Prop :=
  During K R 1 0 0 [] (fun c l => l = [] ∧ ∀ text, c = some text → counterValue text = none) s

def CounterRead (K : PreKeyCrate) (R : Regime) (stored : Option String) (s : Phone) : Prop :=
  match stored.bind counterOf with
  | some v => Counted K R v s
  | none => Unset K R s

theorem stable_counted (v : ℕ) : (R.surroundings K).Stable (Counted K R v) := by
  rintro s t ⟨first, m, hv, h⟩ hmove
  exact ⟨first, m, hv, stable_during _ s t h hmove⟩

theorem Counted.watched (hR : R.Within (.careful b)) {v : ℕ} (h : Counted K R v s) : Watched K R s := by
  obtain ⟨first, m, -, h⟩ := h
  exact (h.mono fun _ _ hright => hright.trusted).watched hR

theorem Unset.watched (hR : R.Within (.careful b)) (h : Unset K R s) : Watched K R s :=
  During.watched hR (h.mono fun _ _ hnone => fun hne => absurd hnone.1 hne)

theorem stable_counterRead (stored : Option String) : (R.surroundings K).Stable (CounterRead K R stored) := by
  intro s t h hmove
  rw [CounterRead] at h ⊢
  cases hv : stored.bind counterOf with
  | some v =>
    rw [hv] at h
    exact stable_counted v s t h hmove
  | none =>
    rw [hv] at h
    exact stable_during _ s t h hmove

theorem CounterRead.watched (hR : R.Within (.careful b)) {stored : Option String} (h : CounterRead K R stored s) :
    Watched K R s := by
  rw [CounterRead] at h
  cases hv : stored.bind counterOf with
  | some v =>
    rw [hv] at h
    exact Counted.watched hR h
  | none =>
    rw [hv] at h
    exact Unset.watched hR h

theorem counterOf_range {text : String} {v : ℕ} (h : counterOf text = some v) : 1 ≤ v ∧ v ≤ MEDIUM_MAX := by
  rw [counterOf] at h
  split at h
  · split_ifs at h with hrange
    rwa [← Option.some.inj h]
  · cases h

theorem Sound.unset (h : Sound K R s) (hnone : ∀ text, s.pddb.counter = some text → counterValue text = none) :
    Unset K R s := by
  obtain ⟨first, m, hbatch, hempty | ⟨text, htext, hvalue⟩⟩ := h
  · exact ⟨hbatch.reseed hempty (by decide), hempty, hnone⟩
  · rw [hnone text htext] at hvalue
    cases hvalue

theorem Sound.counted (h : Sound K R s) {text : Bytes} {v : ℕ} (htext : s.pddb.counter = some text)
    (hvalue : counterValue text = some v) : Counted K R v s := by
  obtain ⟨first, m, hbatch, hempty | ⟨text', htext', hvalue'⟩⟩ := h
  · obtain ⟨string, -, hstring⟩ := Option.bind_eq_some_iff.mp hvalue
    have hrange := counterOf_range hstring
    have hslot := slot_zero hrange
    exact ⟨v, 0, hslot, hbatch.reseed hempty hrange, text, htext, by rw [hvalue, hslot]⟩
  · rw [htext, Option.some.injEq] at htext'
    subst htext'
    rw [hvalue, Option.some.injEq] at hvalue'
    exact ⟨first, m, hvalue'.symm, hbatch, text, htext, by rw [hvalue, hvalue']⟩

theorem counter_read (hR : R.Within (.careful b)) {r : Except IoError Bytes} (h : Sound K R s)
    (hanswer : (R.surroundings K).answers (KeysCall.pddb (.read ACCOUNT_DICT ACI_NEXT_PREKEY_ID_KEY)) s r t) :
    CounterRead K R (r.toOption.bind from_utf8) t := by
  obtain ⟨q, hq, rfl⟩ := hanswer
  obtain ⟨rfl, hread⟩ := hq.read
  change CounterRead K R (r.toOption.bind from_utf8) s
  rcases hread with ⟨buf, rfl, hvalue⟩ | ⟨e, rfl, hfail⟩
  · change CounterRead K R (from_utf8 buf) s
    rw [CounterRead]
    cases hv : (from_utf8 buf).bind counterOf with
    | some v => exact h.counted hvalue hv
    | none =>
      refine h.unset (fun text htext => ?_)
      rw [← Option.some.inj (hvalue.symm.trans htext)]
      exact hv
  · have hnone : s.pddb.counter = none := hfail.elim id (fun hf => hR.1 _ _ hf rfl)
    exact h.unset (fun text htext => by rw [hnone] at htext; cases htext)

theorem Unset.seeded {seed : ℕ} (h : Unset K R s) (hseed : 1 ≤ seed ∧ seed ≤ MEDIUM_MAX) :
    During K R seed 0 0 [] (fun c l => Trusted seed 0 c l ∧ Fits b seed c) s := by
  obtain ⟨hbatch, hempty, hnone⟩ := h
  refine ⟨hbatch.reseed hempty hseed, fun hne => absurd hempty hne, ?_⟩
  rintro text htext ⟨n, rfl, hn⟩
  -- a number that does not read as an id is 0
  have hvalue := hnone _ htext
  rw [counterValue_toString (by omega)] at hvalue
  split_ifs at hvalue with hpos
  exact length_toString_mono (by omega)

theorem keeps_seed (hR : R.Within (.careful b)) {seed : ℕ} (hseed : 1 ≤ seed ∧ seed ≤ MEDIUM_MAX) :
    Keeps (R.surroundings K) (Watched K R) (Unset K R)
      (ExceptT.mk (inKeys (write_prekey_counter seed)) >>= fun _ => pure seed : KeysM K ℕ).run
      (OrSound K R (Counted K R)) := by
  have hslot := slot_zero hseed
  have hwrite := @keeps_write_counter K R b seed 0 0 [] hR seed hslot.symm
  refine keeps_bind_fallible (hwrite.mono (fun s h => h.seeded hseed) (fun _ _ h => h)) ?_ ?_
  · exact fun e => keeps_sound (fun _ h => h)
  · intro _
    exact keeps_ret (stable_during _) (fun _ h => h.settled_watched) (fun s h => ⟨seed, 0, hslot, h⟩)

theorem keeps_read_or_init (hR : R.Within (.careful b)) :
    Keeps (R.surroundings K) (Watched K R) (Sound K R) (read_or_init_prekey_counter (K := K)).run
      (OrSound K R (Counted K R)) := by
  refine keeps_lift_bind (M := CounterRead K R) ?_ (fun stored => ?_)
  · refine keeps_pddb_call (c := .read ACCOUNT_DICT ACI_NEXT_PREKEY_ID_KEY)
      (M := fun r => CounterRead K R (r.toOption.bind from_utf8)) stable_sound (fun _ h => h.watched)
      (fun s r t h hanswer => counter_read hR h hanswer) ?_
    rintro (e | buf)
    · exact keeps_ret (stable_counterRead _) (fun _ h => CounterRead.watched hR h) (fun _ h => h)
    · exact keeps_ret (stable_counterRead _) (fun _ h => CounterRead.watched hR h) (fun _ h => h)
  · cases hv : stored.bind counterOf with
    | some v =>
      refine keeps_ret (stable_counterRead _) (fun _ h => CounterRead.watched hR h) (fun s h => ?_)
      rwa [CounterRead, hv] at h
    | none =>
      refine keeps_call_bind (S := keysSignature K) (c := KeysCall.next_u32) (M := fun _ => Unset K R)
        (stable_counterRead _) (fun _ h => CounterRead.watched hR h) ?_ ?_
      · rintro s n t h rfl
        rwa [CounterRead, hv] at h
      · intro n
        have hlow : n.toNat % 1000 < 1000 := Nat.mod_lt _ (by decide)
        exact keeps_seed hR ⟨by omega, by rw [MEDIUM_MAX]; omega⟩

end Counter

section Saving

def Taken (K : PreKeyCrate) (R : Regime) (first m a : ℕ) (fresh : List (ℕ × String)) (s : Phone) : Prop :=
  During K R first m (a + 1) fresh (Right first m) s ∧
    (R.Reliable → s.pddb.value PREKEY_DICT (toString (slot first (m + a))) = none)

theorem state_remove_pre_key (p : Pddb) (id : ℕ) : ((PddbPreKeyStore.remove_pre_key id).run Pddb.handler p).state =
    (Pddb.answer (.delete PREKEY_DICT (toString id)) p).2 := by
  have hstate : ((pddbDelete PREKEY_DICT (toString id)).run Pddb.handler p).state =
      (Pddb.answer (.delete PREKEY_DICT (toString id)) p).2 := rfl
  unfold PddbPreKeyStore.remove_pre_key
  rw [Program.run_bind, ← hstate]
  rcases ((pddbDelete PREKEY_DICT (toString id)).run Pddb.handler p).value with (e | e) | u <;> rfl

theorem stable_taken : (R.surroundings K).Stable (Taken K R first m a fresh) := by
  rintro s t ⟨h, hfree⟩ hmove
  refine ⟨stable_during _ s t h hmove, fun hrel => ?_⟩
  cases hmove with
  | handOut hentry => exact hfree hrel
  | @consume id hid =>
    by_cases hkey : (PREKEY_DICT, toString (slot first (m + a))) = (PREKEY_DICT, toString id)
    · rw [state_remove_pre_key, Pddb.answer_delete, (Prod.mk.inj hkey).2, Pddb.value_remove]
    · exact (value_remove_pre_key _ _ hkey).trans (hfree hrel)

theorem During.right_watched (hR : R.Within (.careful b)) (h : During K R first m a fresh (Right first m) s) :
    Watched K R s :=
  (h.mono fun _ _ hright => hright.trusted).watched hR

theorem counter_of_prekey_call {c : PddbCall} {p q : Pddb} {r : c.Reply} {fails creates : PddbCall → Prop}
    (hc : c.Touches PREKEY_DICT) (hq : Pddb.Answers fails creates c p r q) : q.counter = p.counter :=
  hq.value_of_leaves (hc.leaves (by decide) _)

theorem id_taken {r : Except IoError Unit} (h : During K R first m a fresh (Right first m) s)
    (hanswer : (R.surroundings K).answers
      (KeysCall.pddb (.delete PREKEY_DICT (toString (slot first (m + a))))) s r t) :
    Taken K R first m a fresh t := by
  obtain ⟨q, hq, rfl⟩ := hanswer
  have hcounter : q.counter = s.pddb.counter := counter_of_prekey_call (c := .delete _ _) rfl hq
  have hnote : s.note (.delete PREKEY_DICT (toString (slot first (m + a)))) =
      { s with allocated := s.allocated ++ [toString (slot first (m + a))] } := by simp [Phone.note]
  rw [hnote]
  refine ⟨⟨h.1.allocate ?_, ?_⟩, ?_⟩
  · intro key hkey
    exact hq.value_of_leaves (c := .delete _ _) (fun heq => hkey (Prod.mk.inj heq).2)
  · obtain ⟨text, htext, hvalue⟩ := h.2
    exact ⟨text, hcounter.trans htext, hvalue⟩
  · intro hrel
    rcases hq.delete with hgone | ⟨hfails, -⟩
    · exact hgone
    · exact absurd hrel (Regime.not_reliable_of_fails hfails)

theorem record_written {buf : Bytes} {pair : K.KeyPair} (hfresh : fresh.length = a)
    (hbuf : ∃ record, K.deserialize buf = .ok record ∧ K.record_public_key record = .ok (K.public_key pair))
    {r : Except IoError Unit} (h : Taken K R first m a fresh s)
    (hanswer : (R.surroundings K).answers
      (KeysCall.pddb (.write PREKEY_DICT (toString (slot first (m + a))) buf)) s r t) :
    OrSound K R (fun _ => During K R first m (a + 1)
      (fresh ++ [(slot first (m + a), base64EncodeNoPad (K.public_key pair))]) (Right first m)) r t := by
  obtain ⟨q, hq, rfl⟩ := hanswer
  obtain ⟨⟨hbatch, hright⟩, hfree⟩ := h
  have hcounter : q.counter = s.pddb.counter := counter_of_prekey_call (c := .write _ _ _) rfl hq
  have hbatch' : Batch K R first m (a + 1) fresh
      { s.note (.write PREKEY_DICT (toString (slot first (m + a))) buf) with pddb := q } :=
    hbatch.write hfresh (fun key hkey =>
      hq.value_of_leaves (c := .write _ _ _) (fun heq => hkey (Prod.mk.inj heq).2))
  have hright' : Right first m q.counter s.allocated := by rwa [hcounter]
  have hallocated : (s.note (.write PREKEY_DICT (toString (slot first (m + a))) buf)).allocated = s.allocated := by
    rw [Phone.note]
    split_ifs <;> rfl
  rcases hq.write with ⟨rfl, hput⟩ | ⟨e, rfl, hfailed⟩
  · refine ⟨hbatch'.extend hfresh ?_, by rwa [hallocated]⟩
    intro hrel
    obtain ⟨record, hrecord, hpub⟩ := hbuf
    refine backed_of_value ?_ hrecord hpub
    change q.value PREKEY_DICT _ = _
    rw [hput, Pddb.value_put, hfree hrel, Option.getD_none, Pddb.overlay_nil]
  · have hfails : R.fails s (.write PREKEY_DICT (toString (slot first (m + a))) buf) :=
      hfailed.elim And.left And.left
    exact ⟨first, m, hbatch'.drop (Regime.not_reliable_of_fails hfails), .inr (by rwa [hallocated])⟩

theorem keeps_write_record (hR : R.Within (.careful b)) {buf : Bytes} {pair : K.KeyPair} (hfresh : fresh.length = a)
    (hbuf : ∃ record, K.deserialize buf = .ok record ∧ K.record_public_key record = .ok (K.public_key pair)) :
    Keeps (R.surroundings K) (Watched K R) (During K R first m a fresh (Right first m))
      (inKeys (pddb_write_binary PREKEY_DICT (toString (slot first (m + a))) buf))
      (OrSound K R (fun _ => During K R first m (a + 1)
        (fresh ++ [(slot first (m + a), base64EncodeNoPad (K.public_key pair))]) (Right first m))) := by
  refine keeps_pddb_call (c := .delete PREKEY_DICT (toString (slot first (m + a)))) (stable_during _)
    (fun _ h => h.right_watched hR) (fun s r t h hanswer => id_taken h hanswer) (fun _ => ?_)
  refine keeps_pddb_call (c := .write PREKEY_DICT (toString (slot first (m + a))) buf) stable_taken
    (fun _ h => h.1.right_watched hR) (fun s r t h hanswer => record_written hfresh hbuf h hanswer) ?_
  rintro (e | ⟨⟩)
  · exact keeps_sound (fun _ h => h)
  change Keeps _ _ (During K R first m (a + 1) _ (Right first m)) _ _
  refine keeps_pddb_call (c := .sync) (stable_during _) (fun _ h => h.right_watched hR)
    (fun s r t h hanswer => synced h hanswer) (fun _ => ?_)
  exact keeps_ret (stable_during _) (fun _ h => h.right_watched hR) (fun _ h => h)

def OneTimePreKeyJson.entry (k : OneTimePreKeyJson) : ℕ × String := (k.key_id, k.public_key_b64url)

theorem keeps_savePair (hK : K.Lawful) (hR : R.Within (.careful b)) (hfresh : fresh.length = a) :
    Keeps (R.surroundings K) (Watched K R) (During K R first m a fresh (Right first m))
      (savePair K (slot first (m + a))).run
      (OrSound K R (fun key => During K R first m (a + 1) (fresh ++ [key.entry]) (Right first m))) := by
  refine keeps_call_bind (S := keysSignature K) (c := KeysCall.generate)
    (M := fun _ => During K R first m a fresh (Right first m)) (stable_during _) (fun _ h => h.right_watched hR) ?_ ?_
  · rintro s pair t h rfl
    exact h
  · intro pair
    have hid : slot first (m + a) < 2 ^ 32 := (slot_range first (m + a)).2.trans_lt (by decide)
    obtain ⟨buf, record, hbuf, hrecord⟩ := hK (slot first (m + a)) hid pair
    have hsave : inKeys (K := K) (PddbPreKeyStore.save_pre_key (slot first (m + a))
        (K.record_new (slot first (m + a)) pair)) =
          inKeys (pddb_write_binary PREKEY_DICT (toString (slot first (m + a))) buf) >>= fun written =>
            Program.ret (written.mapError (io_err_to_signal · "write failed")) := by
      unfold PddbPreKeyStore.save_pre_key inKeys
      rw [hbuf]
      exact Program.interp_bind _ _ _
    refine keeps_lift_bind (M := OrSound K R (fun _ => During K R first m (a + 1)
      (fresh ++ [(slot first (m + a), base64EncodeNoPad (K.public_key pair))]) (Right first m))) ?_ ?_
    · rw [hsave]
      refine keeps_bind (keeps_write_record hR hfresh ⟨record, hrecord⟩) ?_
      rintro (e | ⟨⟩)
      · exact keeps_sound (fun _ h => h)
      · exact keeps_ret (stable_during _) (fun _ h => h.right_watched hR) (fun _ h => h)
    · rintro (e | ⟨⟩)
      · exact keeps_sound (fun _ h => h)
      · exact keeps_ret (stable_during _) (fun _ h => h.right_watched hR) (fun _ h => h)

theorem keeps_savePairs (hK : K.Lawful) (hR : R.Within (.careful b)) (n : ℕ) (hfresh : fresh.length = a) :
    Keeps (R.surroundings K) (Watched K R) (During K R first m a fresh (Right first m))
      (savePairs K n (slot first (m + a))).run
      (OrSound K R (fun result s => result.2 = slot first (m + (a + n)) ∧
        During K R first m (a + n) (fresh ++ result.1.map OneTimePreKeyJson.entry) (Right first m) s)) := by
  induction n generalizing a fresh with
  | zero =>
    refine keeps_ret (stable_during _) (fun _ h => h.right_watched hR) (fun s h => ⟨rfl, ?_⟩)
    simpa using h
  | succ n ih =>
    refine keeps_bind_fallible (keeps_savePair hK hR hfresh) (fun e => keeps_sound (fun _ h => h)) ?_
    intro key
    have hlen : (fresh ++ [key.entry]).length = a + 1 := by simp [hfresh]
    have hrest := ih hlen
    rw [← Nat.add_assoc m a 1, ← next_slot] at hrest
    refine keeps_bind_fallible hrest (fun e => keeps_sound (fun _ h => h)) ?_
    rintro ⟨keys, next⟩
    have hcount : a + 1 + n = a + (n + 1) := by omega
    refine keeps_ret (P := fun s => next = slot first (m + (a + 1 + n)) ∧ During K R first m (a + 1 + n)
      (fresh ++ [key.entry] ++ keys.map OneTimePreKeyJson.entry) (Right first m) s) ?_ ?_ ?_
    · rintro s t ⟨hnext, h⟩ hmove
      exact ⟨hnext, stable_during _ s t h hmove⟩
    · exact fun s h => h.2.right_watched hR
    · intro s h
      rw [hcount, List.append_assoc] at h
      exact h

def Generated (K : PreKeyCrate) (R : Regime) (json : List OneTimePreKeyJson) (s : Phone) : Prop :=
  ∃ first m a, During K R first m a (json.map OneTimePreKeyJson.entry)
    (fun c l => l = [] ∨ Right first (m + a) c l) s

theorem stable_generated (json : List OneTimePreKeyJson) : (R.surroundings K).Stable (Generated K R json) := by
  rintro s t ⟨first, m, a, h⟩ hmove
  exact ⟨first, m, a, stable_during _ s t h hmove⟩

theorem Generated.sound {json : List OneTimePreKeyJson} (h : Generated K R json s) : Sound K R s := by
  obtain ⟨first, m, a, hbatch, hcounter⟩ := h
  exact ⟨first, m + a, hbatch.settle, hcounter⟩

theorem Generated.accepted {json : List OneTimePreKeyJson} (h : Generated K R json s) :
    Sound K R (s.accept { pre_keys := json.map (fun k => ⟨k.key_id, k.public_key_b64url⟩) }) := by
  obtain ⟨first, m, a, hbatch, hcounter⟩ := h
  have haccept : s.accept { pre_keys := json.map (fun k => ⟨k.key_id, k.public_key_b64url⟩) } =
      { s with stock := s.stock ++ json.map OneTimePreKeyJson.entry } := by
    rw [Phone.accept, List.map_map]
    rfl
  rw [haccept]
  exact ⟨first, m + a, hbatch.accept, hcounter⟩

theorem Right.fits {n : ℕ} {c : Option Bytes} {l : List String} (h : Right first m c l) :
    Fits n (slot first (m + n)) c := by
  obtain ⟨text, htext, hvalue⟩ := h
  rintro text' htext' ⟨v, rfl, hv⟩
  rw [htext, Option.some.injEq] at htext'
  subst htext'
  rw [counterValue_toString (by omega)] at hvalue
  split_ifs at hvalue with hpos
  have hslot : v = slot first m := Option.some.inj hvalue
  rw [slot_add (by omega)]
  exact length_toString_mono (by omega)

theorem keeps_generate (hK : K.Lawful) {count : ℕ} (hR : R.Within (.careful count)) :
    Keeps (R.surroundings K) (Watched K R) (Sound K R) (generate_one_time_prekeys K count).run
      (OrSound K R (fun batch => Generated K R batch.json)) := by
  rw [generate_one_time_prekeys]
  split_ifs with hzero
  · refine keeps_ret stable_sound (fun _ h => h.watched) ?_
    rintro s ⟨first, m, h⟩
    exact ⟨first, m, 0, h⟩
  · refine keeps_bind_fallible (keeps_read_or_init hR) (fun e => keeps_sound (fun _ h => h)) ?_
    intro start
    refine keeps_bind_fallible (M := OrSound K R (fun result s => ∃ first m, result.2 = slot first (m + count) ∧
      During K R first m count (result.1.map OneTimePreKeyJson.entry) (Right first m) s)) ?_
      (fun e => keeps_sound (fun _ h => h)) ?_
    · refine keeps_exists (fun first => keeps_exists (fun m => keeps_pure (fun hstart => ?_)))
      rw [← hstart]
      have hsaved := @keeps_savePairs K R count first m 0 [] hK hR count rfl
      refine hsaved.mono (fun _ h => h) ?_
      rintro (e | result) s h
      · exact h
      · obtain ⟨hnext, h⟩ := h
        rw [Nat.zero_add] at hnext h
        exact ⟨first, m, hnext, h⟩
    · rintro ⟨json, next⟩
      refine keeps_exists (fun first => keeps_exists (fun m => keeps_pure (fun hnext => ?_)))
      refine keeps_bind_fallible ((keeps_write_counter hR hnext).mono
        (fun s h => h.mono (fun _ _ hright => ⟨hright.trusted, hnext ▸ hright.fits⟩)) (fun _ _ h => h))
        (fun e => keeps_sound (fun _ h => h)) (fun _ => ?_)
      refine keeps_ret (stable_during _) (fun _ h => h.settled_watched) (fun s h => ?_)
      exact ⟨first, m, count, h.mono (fun _ _ hright => .inr hright)⟩

end Saving

section Replenish

variable {threshold batch_size : ℕ}

theorem keeps_replenish (hK : K.Lawful) (hR : R.Within (.careful batch_size)) :
    Keeps (R.surroundings K) (Watched K R) (Sound K R) (replenish K threshold batch_size) (fun _ => Sound K R) := by
  have hret : ∀ x : ReplenishOutcome, Keeps (R.surroundings K) (Watched K R) (Sound K R) (.ret x)
      (fun _ => Sound K R) := fun x => keeps_sound (fun _ h => h)
  refine keeps_keys_call (c := .get_keys_status) (M := fun _ => Sound K R) stable_sound (fun _ h => h.watched) ?_ ?_
  · rintro s r t h rfl
    exact h
  rintro (e | status)
  · exact hret _
  change Keeps _ _ _ (if status.count ≥ threshold then _ else _) _
  split_ifs with hcount
  · exact hret _
  refine keeps_bind (M := OrSound K R (Generated K R)) ?_ ?_
  · refine keeps_bind_fallible (keeps_generate hK hR) (fun e => keeps_sound (fun _ h => h)) (fun batch => ?_)
    exact keeps_ret (stable_generated _) (fun _ h => h.sound.watched) (fun _ h => h)
  rintro (e | json)
  · exact hret _
  refine keeps_keys_call (c := .put_keys { pre_keys := json.map (fun k => ⟨k.key_id, k.public_key_b64url⟩) })
    (M := fun _ => Sound K R) (stable_generated _) (fun _ h => h.sound.watched) ?_ ?_
  · rintro s (e | ⟨⟩) t h hanswer
    · rcases hanswer with rfl | rfl
      · exact h.sound
      · exact h.accepted
    · obtain rfl : t = s.accept _ := hanswer
      exact h.accepted
  · rintro (e | ⟨⟩)
    · exact hret _
    · exact hret _

def Phone.Fresh (s : Phone) : Prop :=
  s.stock = [] ∧ s.handed = [] ∧ s.consumed = [] ∧ s.allocated = [] ∧ s.overwritten = []

theorem Phone.Fresh.sound (h : s.Fresh) : Sound K R s := by
  obtain ⟨hstock, hhanded, -, hallocated, hoverwritten⟩ := h
  refine ⟨1, 0, ⟨by decide, by omega, ?_, ?_, fun _ => hoverwritten, le_rfl, rfl, fun _ => hallocated, ?_⟩,
    .inl hallocated⟩
  · intro id hid
    rw [hstock, hhanded] at hid
    simp at hid
  · rw [hstock, hhanded]
    exact fun _ => List.nodup_nil
  · rw [hstock]
    intro _ _ e he
    simp at he

theorem watched_of_reaches (hK : K.Lawful) (hR : R.Within (.careful batch_size)) (hs : s.Fresh)
    (h : Reaches (R.surroundings K) R.crashes (replenish K threshold batch_size) s t) : Watched K R t :=
  Reaches.invariant (keeps_replenish hK hR) (fun _ hw hcrash => hw.2 hcrash) hs.sound h

end Replenish

section Sample

structure SampleRecord where
  id : ℕ
  public_key : Bytes
  private_key : Bytes

def sampleKeys : PreKeyCrate where
  KeyPair := UInt8
  public_key b := 0x05 :: List.replicate 32 b
  PreKeyRecord := SampleRecord
  record_new id b := ⟨id, 0x05 :: List.replicate 32 b, List.replicate 32 b⟩
  serialize r := .ok (encodeFields [.varint 1 r.id, .bytes 2 r.public_key, .bytes 3 r.private_key])
  deserialize buf :=
    match decodeFields 100 buf with
    | some [.varint 1 id, .bytes 2 public_key, .bytes 3 private_key] => .ok ⟨id, public_key, private_key⟩
    | _ => .error (.Other "failed to decode protobuf")
  record_public_key r :=
    if r.public_key.head? = some 0x05 ∧ r.public_key.length = 33 then .ok r.public_key
    else .error (.Other "bad key")
  display
    | .InvalidState target text => "invalid state for " ++ target ++ ": " ++ text
    | .Other text => text
  debug
    | .InvalidState target text => "InvalidState(" ++ target ++ ", " ++ text ++ ")"
    | .Other text => text

theorem sampleKeys_lawful : sampleKeys.Lawful := by
  intro id hid (b : UInt8)
  let fields : List WireField :=
    [.varint 1 id, .bytes 2 (0x05 :: List.replicate 32 b), .bytes 3 (List.replicate 32 b)]
  have hfits : ∀ f ∈ fields, f.Fits := by
    intro f hf
    simp only [fields, List.mem_cons, List.not_mem_nil, or_false] at hf
    rcases hf with rfl | rfl | rfl
    · exact ⟨by decide, by omega⟩
    · exact ⟨by decide, by rw [List.length_cons, List.length_replicate]; decide⟩
    · exact ⟨by decide, by rw [List.length_replicate]; decide⟩
  have hdecode : decodeFields 100 (encodeFields fields) = some fields :=
    decodeFieldsIn_encode 100 hfits (length_le_encodeFields fields)
  refine ⟨encodeFields fields, ⟨id, 0x05 :: List.replicate 32 b, List.replicate 32 b⟩, rfl, ?_, ?_⟩
  · change (match decodeFields 100 (encodeFields fields) with
      | some [.varint 1 id, .bytes 2 public_key, .bytes 3 private_key] => _
      | _ => _) = _
    rw [hdecode]
    rfl
  · rfl

/-- Surroundings that answer in one way. `fault` says which PDDB requests fail, by their number; the seed is always
5, the server reports an empty stock and takes what it is sent. -/
def steady (fault : ℕ → PddbCall → Bool) : Handler (keysSignature sampleKeys) (Phone × ℕ) where
  answer c s :=
    match c with
    | .pddb c =>
      if fault s.2 c then (c.failure (.other "pddb error"), s.1.note c, s.2 + 1)
      else ((Pddb.answer c s.1.pddb).1, { s.1.note c with pddb := (Pddb.answer c s.1.pddb).2 }, s.2 + 1)
    | .next_u32 => ((4 : UInt32), s)
    | .generate => (UInt8.ofNat s.2, s)
    | .get_keys_status => ((.ok ⟨0, 0⟩ : Except Error PreKeyCount), s)
    | .put_keys body => ((.ok () : Except Error Unit), s.1.accept body, s.2)

theorem steady_answers (fault : ℕ → PddbCall → Bool) (hfault : ∀ i c s, fault i c = true → R.fails s c)
    (c : KeysCall) (s : Phone × ℕ) :
    (R.surroundings sampleKeys).answers c s.1 ((steady fault).answer c s).1 ((steady fault).answer c s).2.1 := by
  cases c with
  | pddb c =>
    by_cases hf : fault s.2 c = true
    · have hanswer : (steady fault).answer (KeysCall.pddb c) s =
          (c.failure (.other "pddb error"), s.1.note c, s.2 + 1) := if_pos hf
      rw [hanswer]
      exact ⟨s.1.pddb, .failed (hfault _ _ _ hf) _ _, by cases c <;> simp [Phone.note] <;> split_ifs <;> rfl⟩
    · have hanswer : (steady fault).answer (KeysCall.pddb c) s =
          ((Pddb.answer c s.1.pddb).1, { s.1.note c with pddb := (Pddb.answer c s.1.pddb).2 }, s.2 + 1) := if_neg hf
      rw [hanswer]
      exact ⟨(Pddb.answer c s.1.pddb).2, .answered _ _, rfl⟩
  | next_u32 => rfl
  | generate => rfl
  | get_keys_status => rfl
  | put_keys body => rfl

def blankPhone : Phone := ⟨∅, [], [], [], [], []⟩

theorem blankPhone_fresh : blankPhone.Fresh := ⟨rfl, rfl, rfl, rfl, rfl⟩

end Sample

/-- Local and server stock agree at every point of every run whose PDDB requests succeed. -/
theorem stock_agrees (K : PreKeyCrate) (hK : K.Lawful) (threshold batch_size : ℕ) (s t : Phone) (hs : s.Fresh)
    (h : Reaches (Regime.reliable.surroundings K) Regime.reliable.crashes (replenish K threshold batch_size) s t)
    (htotal : t.allocated.length ≤ MEDIUM_MAX) :
    (∀ id ∈ t.handed, 1 ≤ id ∧ id ≤ MEDIUM_MAX) ∧
    (∃ ids : List ℕ, t.allocated = ids.map toString ∧ ids.Nodup) ∧
    ∀ entry ∈ t.stock, Backed K t.pddb entry := by
  obtain ⟨⟨first, m, a, fresh, hbatch⟩, -⟩ := watched_of_reaches hK (reliable_within _) hs h
  have hreliable : Regime.reliable.Reliable := ⟨fun _ _ hf => hf, fun _ hc => hc⟩
  have hexact := hbatch.exact hreliable
  refine ⟨?_, ⟨(List.range (m + a)).map (slot first), ?_, ?_⟩, ?_⟩
  · intro id hid
    obtain ⟨i, -, rfl⟩ := hbatch.uploaded id (List.mem_append_right _ hid)
    exact slot_range first i
  · rw [hexact, List.map_map]
    rfl
  · have hlen : m + a ≤ MEDIUM_MAX := by
      rw [hexact] at htotal
      simpa using htotal
    refine List.Nodup.map_on ?_ List.nodup_range
    intro i hi j hj heq
    rw [List.mem_range] at hi hj
    exact slot_injective (by omega) (by omega) heq
  · exact fun entry hentry => hbatch.backed hreliable htotal entry (List.mem_append_left _ hentry)

def filledPhone : Phone :=
  ((replenish sampleKeys 10 2).runFor (steady fun _ _ => false) 20 (blankPhone, 0)).2.1

theorem filledPhone_reached : Reaches (Regime.reliable.surroundings sampleKeys) Regime.reliable.crashes
    (replenish sampleKeys 10 2) blankPhone filledPhone :=
  ⟨blankPhone, _, .start, passes_runFor (steady_answers _ (by simp)) 20 _ (blankPhone, 0)⟩

theorem filledPhone_agrees :
    filledPhone.stock.map Prod.fst = [5, 6] ∧ filledPhone.allocated.length ≤ MEDIUM_MAX ∧
    ∀ entry ∈ filledPhone.stock, Backed sampleKeys filledPhone.pddb entry := by
  have htotal : filledPhone.allocated.length ≤ MEDIUM_MAX := by decide +kernel
  exact ⟨by decide +kernel, htotal, (stock_agrees sampleKeys sampleKeys_lawful 10 2 blankPhone filledPhone
    blankPhone_fresh filledPhone_reached htotal).2.2⟩

/-- No cycle writes over a prekey that is uploaded and not consumed, as long as no fault loses the counter. -/
theorem uploaded_prekeys_kept (K : PreKeyCrate) (hK : K.Lawful) (threshold batch_size : ℕ) (s t : Phone)
    (hs : s.Fresh)
    (h : Reaches ((Regime.careful batch_size).surroundings K) (Regime.careful batch_size).crashes
      (replenish K threshold batch_size) s t)
    (htotal : t.allocated.length ≤ MEDIUM_MAX) : t.overwritten = [] := by
  obtain ⟨⟨first, m, a, fresh, hbatch⟩, -⟩ := watched_of_reaches hK ⟨fun _ _ hf => hf, fun _ hc => hc⟩ hs h
  exact hbatch.intact htotal

def oneRecordFault (i : ℕ) : PddbCall → Bool
  | .write dict _ _ => i = 9 && dict = PREKEY_DICT
  | _ => false

theorem oneRecordFault_careful (i : ℕ) (c : PddbCall) (s : Phone) (h : oneRecordFault i c = true) :
    (Regime.careful 2).fails s c := by
  cases c with
  | write dict key data =>
    simp only [oneRecordFault, Bool.and_eq_true, decide_eq_true_eq] at h
    intro heq
    rw [h.2] at heq
    exact absurd (Prod.mk.inj heq).1 (by decide)
  | _ => cases h

def retriedPhone : Phone :=
  ((replenish sampleKeys 10 2).runFor (steady oneRecordFault) 20
    ((replenish sampleKeys 10 2).runFor (steady oneRecordFault) 20 (blankPhone, 0)).2).2.1

theorem retriedPhone_reached : Reaches ((Regime.careful 2).surroundings sampleKeys) (Regime.careful 2).crashes
    (replenish sampleKeys 10 2) blankPhone retriedPhone := by
  have hanswers := steady_answers _ oneRecordFault_careful
  have hfirst := passes_runFor hanswers 20 (replenish sampleKeys 10 2) (blankPhone, 0)
  have hfailed : ((replenish sampleKeys 10 2).runFor (steady oneRecordFault) 20 (blankPhone, 0)).1 =
      some (.Failed "generate_one_time_prekeys: libsignal: InvalidState(pddb, write failed: pddb error)") := by
    decide +kernel
  rw [hfailed] at hfirst
  exact ⟨_, _, .again .start hfirst, passes_runFor hanswers 20 _ _⟩

theorem retriedPhone_kept :
    retriedPhone.allocated = ["5", "6", "5", "6"] ∧ retriedPhone.stock.map Prod.fst = [5, 6] ∧
    retriedPhone.overwritten = [] := by
  have hallocated : retriedPhone.allocated = ["5", "6", "5", "6"] := by decide +kernel
  have hkept := uploaded_prekeys_kept sampleKeys sampleKeys_lawful 10 2 blankPhone retriedPhone blankPhone_fresh
    retriedPhone_reached (by rw [hallocated]; decide)
  exact ⟨hallocated, by decide +kernel, hkept⟩

def reseededPhone : Phone :=
  ((replenish_aci_one_time_prekeys sampleKeys).runFor (steady fun i _ => i = 309) 20
    ((replenish_aci_one_time_prekeys sampleKeys).runFor (steady fun i _ => i = 309) 500 (blankPhone, 0)).2).2.1

theorem reseededPhone_overwritten :
    ((replenish_aci_one_time_prekeys sampleKeys).runFor (steady fun i _ => i = 309) 500 (blankPhone, 0)).1 =
      some (.Replenished 100) ∧
    reseededPhone.allocated.length = 103 ∧ reseededPhone.overwritten = ["5", "6", "7"] := by
  decide +kernel

theorem uploaded_prekey_overwritten :
    ¬ ∀ (K : PreKeyCrate) (s t : Phone), K.Lawful → s.Fresh →
      Reaches (Regime.faulty.surroundings K) Regime.faulty.crashes (replenish_aci_one_time_prekeys K) s t →
      t.allocated.length ≤ MEDIUM_MAX → t.overwritten = [] := by
  intro h
  obtain ⟨hdone, hallocated, hoverwritten⟩ := reseededPhone_overwritten
  have hanswers := steady_answers (R := Regime.faulty) (fun i _ => i = 309) (fun _ _ _ _ => trivial)
  have hfirst := passes_runFor hanswers 500 (replenish_aci_one_time_prekeys sampleKeys) (blankPhone, 0)
  rw [hdone] at hfirst
  have hreached : Reaches (Regime.faulty.surroundings sampleKeys) Regime.faulty.crashes
      (replenish_aci_one_time_prekeys sampleKeys) blankPhone reseededPhone :=
    ⟨_, _, .again .start hfirst, passes_runFor hanswers 20 _ _⟩
  have hempty := h sampleKeys blankPhone reseededPhone sampleKeys_lawful blankPhone_fresh hreached
    (by rw [hallocated]; decide)
  rw [hoverwritten] at hempty
  cases hempty

end XousSignalClient
