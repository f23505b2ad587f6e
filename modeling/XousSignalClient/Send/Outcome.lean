import XousSignalClient.Interaction.Splitting
import XousSignalClient.Send.Runs

namespace XousSignalClient

open Encoding Interaction Fallible

variable {C : Crates} {σ : Type}

def SendCall.putReply : (c : SendCall C) → c.Reply → Option (Except String HttpResponse)
  | .put_json _ _ _, reply => some reply
  | _, _ => none

def SendCall.sleptMs : (c : SendCall C) → c.Reply → Option ℕ
  | .sleep ms, _ => some ms
  | _, _ => none

def SendCall.parsedBody : (c : SendCall C) → c.Reply → Option Bytes
  | .mismatch_from_slice body, _ => some body
  | _, _ => none

def SendCall.reading : (c : SendCall C) → c.Reply → Option ℕ
  | .now, t => some t
  | _, _ => none

def SendCall.isHttp : SendCall C → Bool
  | .put_json _ _ _ | .get_json _ _ => true
  | _ => false

def puts (es : List (SendEvent C σ)) : List (Except String HttpResponse) :=
  es.filterMap (fun e => SendCall.putReply e.call e.reply)

def sleeps (es : List (SendEvent C σ)) : List ℕ := es.filterMap (fun e => SendCall.sleptMs e.call e.reply)

def parses (es : List (SendEvent C σ)) : List Bytes :=
  es.filterMap (fun e => SendCall.parsedBody e.call e.reply)

def clocks (es : List (SendEvent C σ)) : List ℕ := es.filterMap (fun e => SendCall.reading e.call e.reply)

def https (es : List (SendEvent C σ)) : List (SendEvent C σ) := es.filter (fun e => SendCall.isHttp e.call)

def Answered (e : SendEvent C σ) (v : PutVerdict) : Prop :=
  (SendCall.putReply e.call e.reply).map putOutcome = some v

def Retriable (reply : Except String HttpResponse) : Prop :=
  putOutcome reply = .mismatch ∨ putOutcome reply = .transient

def backoffFor (reply : Except String HttpResponse) (k : ℕ) : Option ℕ :=
  if putOutcome reply = .transient then some (min (500 * 2 ^ (k - 1)) 4000) else none

def mismatchReply : Except String HttpResponse → Option HttpResponse
  | .ok resp => if resp.status = 409 ∨ resp.status = 410 then some resp else none
  | .error _ => none

theorem filterMap_one {α β : Type} (f : α → Option β) (a : α) : [a].filterMap f = (f a).toList := by
  cases hf : f a <;> simp [hf]

theorem puts_append (es es' : List (SendEvent C σ)) : puts (es ++ es') = puts es ++ puts es' :=
  List.filterMap_append

theorem sleeps_append (es es' : List (SendEvent C σ)) : sleeps (es ++ es') = sleeps es ++ sleeps es' :=
  List.filterMap_append

theorem parses_append (es es' : List (SendEvent C σ)) : parses (es ++ es') = parses es ++ parses es' :=
  List.filterMap_append

theorem https_append (es es' : List (SendEvent C σ)) : https (es ++ es') = https es ++ https es' :=
  List.filter_append _ _

theorem backoff_eq (k : ℕ) : backoff k = min (500 * 2 ^ (k - 1)) 4000 := by
  unfold backoff BACKOFF_BASE_MS BACKOFF_CAP_MS
  rw [Nat.shiftLeft_eq]
  by_cases hk : k - 1 ≤ 4
  · rw [min_eq_left hk]
  · have hpow : 2 ^ 4 ≤ 2 ^ (k - 1) := Nat.pow_le_pow_right (by omega) (by omega)
    have hmin : min (k - 1) 4 = 4 := by omega
    rw [hmin]
    omega

def SendCall.IsEncryption : SendCall C → Prop
  | .load_session _ | .message_encrypt _ _ _ => True
  | _ => False

theorem EncryptRun.encryption {sub : Submission} {a : ProtocolAddress} {es : List (SendEvent C σ)}
    {r : Except SendError OutgoingMessageEntity} (hrun : EncryptRun sub a es r) :
    ∀ e ∈ es, SendCall.IsEncryption e.call := by
  cases hrun <;> simp [sendEvent, SendCall.IsEncryption]

theorem FanRun.encryption {sub : Submission} {ds : List ℕ} {es : List (SendEvent C σ)}
    {r : Except SendError (List OutgoingMessageEntity)} (hrun : FanRun sub ds es r) :
    ∀ e ∈ es, SendCall.IsEncryption e.call := by
  induction hrun with
  | nil => simp
  | badId d ds text => simp
  | failed dev ds es e henc => exact henc.encryption
  | cons dev ds es es' entity r henc hrest ih =>
    intro e he
    exact (List.mem_append.mp he).elim (henc.encryption e) (ih e)

def SendCall.IsSilent (c : SendCall C) : Prop :=
  ∀ r, c.putReply r = none ∧ c.sleptMs r = none ∧ c.parsedBody r = none ∧ c.reading r = none

theorem SendCall.IsEncryption.silent {c : SendCall C} (hc : c.IsEncryption) :
    c.IsSilent ∧ c.isHttp = false := by
  cases c <;> first | exact hc.elim | exact ⟨fun _ => ⟨rfl, rfl, rfl, rfl⟩, rfl⟩

theorem SendCall.IsRepair.silent {c : SendCall C} (hc : c.IsRepair) : c.IsSilent := by
  cases c <;> first | exact hc.elim | exact fun _ => ⟨rfl, rfl, rfl, rfl⟩

theorem silent_observations {es : List (SendEvent C σ)} (hes : ∀ e ∈ es, SendCall.IsSilent e.call) :
    puts es = [] ∧ sleeps es = [] ∧ parses es = [] ∧ clocks es = [] := by
  simp only [puts, sleeps, parses, clocks, List.filterMap_eq_nil_iff]
  exact ⟨fun e he => (hes e he e.reply).1, fun e he => (hes e he e.reply).2.1,
    fun e he => (hes e he e.reply).2.2.1, fun e he => (hes e he e.reply).2.2.2⟩

theorem silent_not_answered {e : SendEvent C σ} (he : SendCall.IsSilent e.call) (v : PutVerdict) :
    ¬Answered e v := by
  unfold Answered
  rw [(he e.reply).1]
  exact nofun

theorem refused_ne {α : Type} {reply : Except String HttpResponse} {e : SendError}
    (h : putOutcome reply = .refused e) : (.error e : Except SendError α) ≠ .error .RetryExhausted := by
  rintro ⟨⟩
  cases reply with
  | error text => cases h
  | ok resp =>
    change putVerdict resp = _ at h
    unfold putVerdict at h
    split_ifs at h <;> cases h

structure Observed {α : Type} (accepted : α) (k : ℕ) (es : List (SendEvent C σ)) (r : Except SendError α) :
    Prop where
  sleeps_eq : sleeps es = ((puts es).zipIdx k).filterMap (fun p => backoffFor p.1 p.2)
  parses_eq : parses es = ((puts es).filterMap mismatchReply).map mismatchBody
  accepted_last : ∀ pre e post, es = pre ++ e :: post → Answered e .accepted → post = [] ∧ r = .ok accepted
  refused_last : ∀ pre e post err, es = pre ++ e :: post → Answered e (.refused err) →
    post = [] ∧ r = .error err
  last_http : r = .ok accepted → ∃ e, (https es).getLast? = some e ∧ Answered e .accepted

theorem observed_silent {α : Type} {accepted : α} {k : ℕ} {es : List (SendEvent C σ)}
    {r : Except SendError α} (hes : ∀ e ∈ es, SendCall.IsSilent e.call) (hr : r ≠ .ok accepted) :
    Observed accepted k es r := by
  obtain ⟨hputs, hsleeps, hparses, -⟩ := silent_observations hes
  constructor
  · rw [hsleeps, hputs]; rfl
  · rw [hparses, hputs]; rfl
  · intro pre e post hsplit hans
    exact (split_none (fun a ha => silent_not_answered (hes a ha) _) hans hsplit).elim
  · intro pre e post err hsplit hans
    exact (split_none (fun a ha => silent_not_answered (hes a ha) _) hans hsplit).elim
  · exact fun h => absurd h hr

theorem mismatchReply_of_mismatch {resp : HttpResponse} (h : putVerdict resp = .mismatch) :
    mismatchReply (.ok resp) = some resp := by
  rcases classify_mismatch h with ⟨hs, -⟩ | ⟨hs, -⟩ <;> simp [mismatchReply, hs]

theorem mismatchReply_of_ne {reply : Except String HttpResponse} (h : putOutcome reply ≠ .mismatch) :
    mismatchReply reply = none := by
  cases reply with
  | error text => rfl
  | ok resp =>
    rw [mismatchReply, if_neg]
    intro hs
    apply h
    change putVerdict resp = .mismatch
    rw [putVerdict, if_neg (by omega), if_pos hs]

theorem AfterPut.not_answered {k : ℕ} {reply : Except String HttpResponse} {tail : List (SendEvent C σ)}
    {r : Except SendError (Option Bool)} (hafter : AfterPut k reply tail r) (v : PutVerdict) :
    ∀ e ∈ tail, ¬Answered e v := by
  cases hafter with
  | accepted _ h => simp
  | refused _ e h => simp
  | transient _ s h =>
    intro e he
    rw [List.mem_singleton.mp he]
    exact nofun
  | mismatch resp s parsed repair _ h hrepair hr =>
    intro e he
    rcases List.mem_cons.mp he with rfl | he
    · exact nofun
    · exact silent_not_answered (hrepair e he).silent v

theorem AfterPut.puts_eq {k : ℕ} {reply : Except String HttpResponse} {tail : List (SendEvent C σ)}
    {r : Except SendError (Option Bool)} (hafter : AfterPut k reply tail r) :
    puts tail = [] ∧ sleeps tail = (backoffFor reply k).toList ∧
      parses tail = ((mismatchReply reply).map mismatchBody).toList := by
  cases hafter with
  | accepted _ h =>
    rw [backoffFor, if_neg (by rw [h]; exact nofun), mismatchReply_of_ne (by rw [h]; exact nofun)]
    exact ⟨rfl, rfl, rfl⟩
  | refused _ e h =>
    rw [backoffFor, if_neg (by rw [h]; exact nofun), mismatchReply_of_ne (by rw [h]; exact nofun)]
    exact ⟨rfl, rfl, rfl⟩
  | transient _ s h =>
    rw [backoffFor, if_pos h, mismatchReply_of_ne (by rw [h]; exact nofun), ← backoff_eq]
    exact ⟨rfl, rfl, rfl⟩
  | mismatch resp s parsed repair _ h hrepair hr =>
    obtain ⟨hputs, hsleeps, hparses, -⟩ := silent_observations (fun e he => (hrepair e he).silent)
    rw [backoffFor, if_neg (by rw [h]; exact nofun), mismatchReply_of_mismatch h]
    refine ⟨hputs, hsleeps, ?_⟩
    exact congrArg (List.cons (mismatchBody resp)) hparses

theorem observed_put {k : ℕ} {front tail : List (SendEvent C σ)} {s : σ} {url auth : String}
    {body : SubmitMessagesRequest} {reply : Except String HttpResponse}
    {r : Except SendError (Option Bool)} (hfront : ∀ e ∈ front, SendCall.IsSilent e.call)
    (hquiet : https front = []) (hafter : AfterPut k reply tail r) :
    Observed (some true) k (front ++ sendEvent s (.put_json url auth body) reply :: tail) r := by
  obtain ⟨hputs, hsleeps, hparses, -⟩ := silent_observations hfront
  obtain ⟨htputs, htsleeps, htparses⟩ := hafter.puts_eq
  have hall : puts (front ++ sendEvent s (.put_json url auth body) reply :: tail) = [reply] := by
    rw [puts_append, hputs, List.nil_append]
    exact congrArg (List.cons reply) htputs
  have hsplit : ∀ pre e post v, front ++ sendEvent s (.put_json url auth body) reply :: tail =
      pre ++ e :: post → Answered e v → post = tail ∧ putOutcome reply = v := by
    intro pre e post v heq hans
    obtain ⟨-, rfl, rfl⟩ := split_unique (fun a ha => silent_not_answered (hfront a ha) v)
      (hafter.not_answered v) hans heq
    exact ⟨rfl, Option.some.inj hans⟩
  constructor
  · rw [hall, sleeps_append, hsleeps, List.nil_append, List.zipIdx_singleton, filterMap_one]
    exact htsleeps
  · rw [hall, parses_append, hparses, List.nil_append, filterMap_one, ← Option.toList_map]
    exact htparses
  · intro pre e post heq hans
    obtain ⟨rfl, hv⟩ := hsplit pre e post _ heq hans
    cases hafter with
    | accepted _ h => exact ⟨rfl, rfl⟩
    | refused _ e h => rw [h] at hv; cases hv
    | transient _ s h => rw [h] at hv; cases hv
    | mismatch resp s parsed repair _ h hrepair hr => rw [h] at hv; cases hv
  · intro pre e post err heq hans
    obtain ⟨rfl, hv⟩ := hsplit pre e post _ heq hans
    cases hafter with
    | accepted _ h => rw [h] at hv; cases hv
    | refused _ e h => rw [h] at hv; cases hv; exact ⟨rfl, rfl⟩
    | transient _ s h => rw [h] at hv; cases hv
    | mismatch resp s parsed repair _ h hrepair hr => rw [h] at hv; cases hv
  · rintro rfl
    cases hafter with
    | accepted _ h =>
      refine ⟨sendEvent s (.put_json url auth body) reply, ?_, congrArg some h⟩
      rw [https_append, hquiet]
      rfl
    | mismatch resp s parsed repair _ h hrepair hr => rcases hr with hr | ⟨e, -, hr⟩ <;> cases hr

theorem FanRun.quiet {sub : Submission} {ds : List ℕ} {fan : List (SendEvent C σ)} {s : σ} {ids : List ℕ}
    {r : Except SendError (List OutgoingMessageEntity)} (hrun : FanRun sub ds fan r) :
    (∀ e ∈ sendEvent s (.device_ids_for sub.recipient_uuid) ids :: fan, SendCall.IsSilent e.call) ∧
      https (sendEvent s (.device_ids_for sub.recipient_uuid) ids :: fan) = [] := by
  constructor
  · intro e he
    rcases List.mem_cons.mp he with rfl | he
    · exact fun _ => ⟨rfl, rfl, rfl, rfl⟩
    · exact (hrun.encryption e he).silent.1
  · refine List.filter_eq_nil_iff.mpr ?_
    intro e he
    rcases List.mem_cons.mp he with rfl | he
    · exact nofun
    · rw [(hrun.encryption e he).silent.2]
      exact nofun

theorem AttemptRun.observed {sub : Submission} {k : ℕ} {es : List (SendEvent C σ)}
    {r : Except SendError (Option Bool)} (hrun : AttemptRun sub k es r) :
    Observed (some true) k es r := by
  cases hrun with
  | skipped s ids hids => exact observed_silent FanRun.nil.quiet.1 nofun
  | unaddressed s ids text => exact observed_silent FanRun.nil.quiet.1 nofun
  | unsent s ids devices fan r e hids hfan he => exact observed_silent hfan.quiet.1 nofun
  | sent s s' ids devices fan entities url auth reply tail r hids hfan htail =>
    rw [← List.cons_append]
    exact observed_put hfan.quiet.1 hfan.quiet.2 htail

theorem AttemptRun.puts_eq {sub : Submission} {k : ℕ} {es : List (SendEvent C σ)}
    {r : Except SendError (Option Bool)} (hrun : AttemptRun sub k es r) :
    r ≠ .error .RetryExhausted ∧
      ((puts es = [] ∧ r ≠ .ok none) ∨
        ∃ reply, puts es = [reply] ∧ (r = .ok none → Retriable reply)) := by
  cases hrun with
  | skipped s ids hids =>
    exact ⟨nofun, .inl ⟨(silent_observations FanRun.nil.quiet.1).1, nofun⟩⟩
  | unaddressed s ids text =>
    exact ⟨nofun, .inl ⟨(silent_observations FanRun.nil.quiet.1).1, nofun⟩⟩
  | unsent s ids devices fan r e hids hfan he =>
    exact ⟨fun h => he (Except.error.inj h), .inl ⟨(silent_observations hfan.quiet.1).1, nofun⟩⟩
  | sent s s' ids devices fan entities url auth reply tail r hids hfan htail =>
    have hputs : puts (sendEvent s (.device_ids_for sub.recipient_uuid) ids :: (fan ++
        sendEvent s' (.put_json url auth ⟨entities, false, true, sub.timestamp_ms⟩) reply :: tail)) =
          [reply] := by
      rw [← List.cons_append, puts_append, (silent_observations hfan.quiet.1).1, List.nil_append]
      exact congrArg (List.cons reply) htail.puts_eq.1
    refine ⟨?_, .inr ⟨reply, hputs, ?_⟩⟩
    · cases htail with
      | accepted _ h => exact nofun
      | refused _ e h => exact refused_ne h
      | transient _ s h => exact nofun
      | mismatch resp s parsed repair _ h hrepair hr =>
        rcases hr with rfl | ⟨e, he, rfl⟩
        · exact nofun
        · exact fun h => he (Except.error.inj h)
    · rintro rfl
      cases htail with
      | transient _ s h => exact .inr h
      | mismatch resp s parsed repair _ h hrepair hr => exact .inl h

theorem Observed.transfer {α β : Type} {a : α} {b : β} {k : ℕ} {es : List (SendEvent C σ)}
    {r : Except SendError α} {r' : Except SendError β} (hobs : Observed a k es r)
    (hok : r = .ok a ↔ r' = .ok b) (herr : ∀ e, r = .error e → r' = .error e) : Observed b k es r' where
  sleeps_eq := hobs.sleeps_eq
  parses_eq := hobs.parses_eq
  accepted_last pre e post hsplit hans :=
    ⟨(hobs.accepted_last pre e post hsplit hans).1, hok.mp (hobs.accepted_last pre e post hsplit hans).2⟩
  refused_last pre e post err hsplit hans :=
    ⟨(hobs.refused_last pre e post err hsplit hans).1,
      herr err (hobs.refused_last pre e post err hsplit hans).2⟩
  last_http hr := hobs.last_http (hok.mpr hr)

theorem now_not_answered (s : σ) (t : ℕ) (v : PutVerdict) :
    ¬Answered (sendEvent s .now t : SendEvent C σ) v := nofun

theorem Observed.cons_now {α : Type} {a : α} {k : ℕ} {es : List (SendEvent C σ)} {r : Except SendError α}
    (hobs : Observed a k es r) (s : σ) (t : ℕ) : Observed a k (sendEvent s .now t :: es) r := by
  have hsplit : ∀ pre e post v, sendEvent s .now t :: es = pre ++ e :: post → Answered e v →
      ∃ pre', es = pre' ++ e :: post := by
    intro pre e post v heq hans
    cases pre with
    | nil =>
      obtain ⟨rfl, -⟩ := List.cons.inj heq
      exact (now_not_answered s t v hans).elim
    | cons x pre => exact ⟨pre, (List.cons.inj heq).2⟩
  refine ⟨hobs.sleeps_eq, hobs.parses_eq, ?_, ?_, hobs.last_http⟩
  · intro pre e post heq hans
    obtain ⟨pre', hpre'⟩ := hsplit pre e post _ heq hans
    exact hobs.accepted_last pre' e post hpre' hans
  · intro pre e post err heq hans
    obtain ⟨pre', hpre'⟩ := hsplit pre e post _ heq hans
    exact hobs.refused_last pre' e post err hpre' hans

theorem Observed.append {k : ℕ} {es es' : List (SendEvent C σ)} {reply : Except String HttpResponse}
    {r : Except SendError Bool} (hobs : Observed (some true) k es (.ok none)) (hputs : puts es = [reply])
    (hrest : Observed true (k + 1) es' r) : Observed true k (es ++ es') r := by
  constructor
  · rw [sleeps_append, puts_append, hobs.sleeps_eq, hrest.sleeps_eq, List.zipIdx_append,
      List.filterMap_append, hputs]
    rfl
  · rw [parses_append, puts_append, hobs.parses_eq, hrest.parses_eq, List.filterMap_append,
      List.map_append]
  · intro pre e post heq hans
    rcases append_eq_split heq with ⟨mid, hes, -⟩ | ⟨mid, -, hes'⟩
    · cases (hobs.accepted_last pre e mid hes hans).2
    · exact hrest.accepted_last mid e post hes' hans
  · intro pre e post err heq hans
    rcases append_eq_split heq with ⟨mid, hes, -⟩ | ⟨mid, -, hes'⟩
    · cases (hobs.refused_last pre e mid err hes hans).2
    · exact hrest.refused_last mid e post err hes' hans
  · intro hr
    obtain ⟨e, hlast, hans⟩ := hrest.last_http hr
    refine ⟨e, ?_, hans⟩
    rw [https_append, List.getLast?_append, hlast]
    rfl

theorem observed_now (k : ℕ) (s : σ) (t : ℕ) :
    Observed true k [(sendEvent s .now t : SendEvent C σ)] (.error .RetryExhausted) := by
  have hnil : Observed true k ([] : List (SendEvent C σ)) (.error .RetryExhausted) :=
    observed_silent (fun _ he => absurd he List.not_mem_nil) (fun h => by cases h)
  exact hnil.cons_now s t

theorem LoopRun.observed {sub : Submission} {start left : ℕ} {es : List (SendEvent C σ)}
    {r : Except SendError Bool} (hrun : LoopRun sub start left es r) (hleft : left ≤ MAX_ATTEMPTS) :
    Observed true (MAX_ATTEMPTS - left + 1) es r := by
  induction hrun with
  | expired left s t ht => exact observed_now _ s t
  | exhausted s t => exact observed_now _ s t
  | returned left s t es delivered h =>
    have hk : MAX_ATTEMPTS - (left + 1) + 1 = MAX_ATTEMPTS - left := by omega
    rw [hk]
    refine (h.observed.transfer ?_ nofun).cons_now s t
    simp
  | failed left s t es e h =>
    have hk : MAX_ATTEMPTS - (left + 1) + 1 = MAX_ATTEMPTS - left := by omega
    rw [hk]
    refine (h.observed.transfer ?_ ?_).cons_now s t
    · exact ⟨nofun, nofun⟩
    · intro e' he
      rw [Except.error.inj he]
  | again left s t es es' r h hrest ih =>
    have hk : MAX_ATTEMPTS - (left + 1) + 1 = MAX_ATTEMPTS - left := by omega
    rw [hk]
    rcases h.puts_eq.2 with ⟨-, hne⟩ | ⟨reply, hputs, -⟩
    · exact absurd rfl hne
    · exact (h.observed.append hputs (ih (by omega))).cons_now s t

theorem LoopRun.retriable {sub : Submission} {start left : ℕ} {es : List (SendEvent C σ)}
    {r : Except SendError Bool} (hrun : LoopRun sub start left es r) :
    (puts es).length ≤ left ∧ (∀ reply ∈ (puts es).dropLast, Retriable reply) ∧
      (r = .error .RetryExhausted → ((puts es).length = left ∧ ∀ reply ∈ puts es, Retriable reply) ∨
        ∃ t ∈ clocks es, RETRY_BUDGET < t - start) := by
  induction hrun with
  | expired left s t ht => exact ⟨Nat.zero_le _, nofun, fun _ => .inr ⟨t, List.mem_singleton_self t, ht⟩⟩
  | exhausted s t => exact ⟨Nat.zero_le _, nofun, fun _ => .inl ⟨rfl, by rintro reply ⟨⟩⟩⟩
  | returned left s t es delivered h =>
    have hes : puts (sendEvent s .now t :: es) = puts es := rfl
    rw [hes]
    rcases h.puts_eq.2 with ⟨hputs, -⟩ | ⟨reply, hputs, -⟩
    · rw [hputs]
      exact ⟨Nat.zero_le _, nofun, nofun⟩
    · rw [hputs]
      exact ⟨by simp, nofun, nofun⟩
  | failed left s t es e h =>
    have hes : puts (sendEvent s .now t :: es) = puts es := rfl
    rw [hes]
    have hne : (.error e : Except SendError Bool) ≠ .error .RetryExhausted :=
      fun he => h.puts_eq.1 (congrArg _ (Except.error.inj he))
    rcases h.puts_eq.2 with ⟨hputs, -⟩ | ⟨reply, hputs, -⟩
    · rw [hputs]
      exact ⟨Nat.zero_le _, nofun, fun he => absurd he hne⟩
    · rw [hputs]
      exact ⟨by simp, nofun, fun he => absurd he hne⟩
  | again left s t es es' r h hrest ih =>
    obtain ⟨hlen, hdrop, hexh⟩ := ih
    rcases h.puts_eq.2 with ⟨-, hne⟩ | ⟨reply, hputs, hretry⟩
    · exact absurd rfl hne
    · have hes : puts (sendEvent s .now t :: (es ++ es')) = reply :: puts es' := by
        have hcons : puts (sendEvent s .now t :: (es ++ es')) = puts (es ++ es') := rfl
        rw [hcons, puts_append, hputs, List.singleton_append]
      rw [hes]
      refine ⟨by simpa using hlen, ?_, ?_⟩
      · intro x hx
        cases hp : puts es' with
        | nil => rw [hp] at hx; cases hx
        | cons y ys =>
          rw [hp] at hx hdrop
          rcases List.mem_cons.mp hx with rfl | hx
          · exact hretry rfl
          · exact hdrop x hx
      · intro hr
        rcases hexh hr with ⟨hfull, hall⟩ | ⟨u, hu, hlate⟩
        · refine .inl ⟨by simpa using hfull, ?_⟩
          intro x hx
          rcases List.mem_cons.mp hx with rfl | hx
          · exact hretry rfl
          · exact hall x hx
        · refine .inr ⟨u, ?_, hlate⟩
          have hclock : clocks (sendEvent s .now t :: (es ++ es')) = t :: (clocks es ++ clocks es') :=
            congrArg (List.cons t) List.filterMap_append
          rw [hclock]
          exact List.mem_cons_of_mem t (List.mem_append_right _ hu)

theorem LoopRun.delivered {sub : Submission} {start left : ℕ} {es : List (SendEvent C σ)}
    {r : Except SendError Bool} (hrun : LoopRun sub start left es r) (hex : sub.excluded_device_id = none) :
    r ≠ .ok false := by
  induction hrun with
  | expired left s t ht => exact nofun
  | exhausted s t => exact nofun
  | returned left s t es delivered h =>
    intro hr
    obtain rfl := Except.ok.inj hr
    cases h with
    | skipped s ids hids =>
      rw [hex, addressedDevices] at hids
      split_ifs at hids
    | sent s s' ids devices fan entities url auth reply tail r hids hfan htail =>
      cases htail with
      | mismatch resp s parsed repair _ h hrepair hr => rcases hr with hr | ⟨e, -, hr⟩ <;> cases hr
  | failed left s t es e h => exact nofun
  | again left s t es es' r h hrest ih => exact ih

/-- A 409/410 body as the parser gets it: unchanged when it is UTF-8. -/
def handedBody (resp : HttpResponse) : Bytes :=
  if (from_utf8 resp.body).isSome then resp.body else utf8 (from_utf8_lossy resp.body)

theorem mismatchBody_eq (resp : HttpResponse) : mismatchBody resp = handedBody resp := by
  unfold handedBody
  split_ifs with hv
  · obtain ⟨t, ht⟩ := Option.isSome_iff_exists.mp hv
    exact mismatchBody_of_valid ht
  · rfl

def recipientSubmission (plaintext : String) (timestamp_ms : UInt64) (recipient_addr local_addr : ProtocolAddress)
    (account : AccountInfo) : Submission where
  padded_content := build_padded_data_message_content plaintext timestamp_ms
  timestamp_ms := timestamp_ms
  recipient_uuid := recipient_addr.name
  fallback_device_id := recipient_addr.device_id.val
  excluded_device_id := none
  local_addr := local_addr
  account := account

theorem submit_with_retry_run {h : Handler (sendSignature C) σ} (plaintext : String) (timestamp_ms : UInt64)
    (recipient_addr local_addr : ProtocolAddress) (account : AccountInfo) (s : σ) :
    Ensures h (submit_with_retry_generic plaintext timestamp_ms recipient_addr local_addr account) s
      (fun v _ es => ∃ start es' r, es = sendEvent s .now start :: es' ∧
        LoopRun (recipientSubmission plaintext timestamp_ms recipient_addr local_addr account) start MAX_ATTEMPTS
          es' r ∧
        v = r.map (fun _ => ())) := by
  apply ensures_bind (submit_padded_run _ s)
  · rintro e t es ⟨start, es', rfl, hrun⟩
    exact ⟨start, es', _, rfl, hrun, rfl⟩
  · rintro delivered t es ⟨start, es', rfl, hrun⟩
    refine ensures_pure ?_
    rw [List.append_nil]
    exact ⟨start, es', _, rfl, hrun, rfl⟩

/-- The result of a send, and the requests it makes, as a function of the HTTP replies: for any
stores, libsignal, server, clock and sleeper. -/
theorem send_outcome (h : Handler (sendSignature C) σ) (plaintext : String) (timestamp_ms : UInt64)
    (recipient_addr local_addr : ProtocolAddress) (account : AccountInfo) (s : σ) :
    let o := (submit_with_retry_generic plaintext timestamp_ms recipient_addr local_addr account).exec h s
    (puts o.events).length ≤ 3 ∧
    (o.value = .ok () ↔ ∃ e, (https o.events).getLast? = some e ∧ Answered e .accepted) ∧
    (∀ pre e post, o.events = pre ++ e :: post → Answered e .accepted → post = []) ∧
    (∀ pre e post err, o.events = pre ++ e :: post → Answered e (.refused err) →
      post = [] ∧ o.value = .error err) ∧
    (∀ reply ∈ (puts o.events).dropLast, Retriable reply) ∧
    sleeps o.events = ((puts o.events).zipIdx 1).filterMap (fun p => backoffFor p.1 p.2) ∧
    parses o.events = ((puts o.events).filterMap mismatchReply).map handedBody ∧
    (o.value = .error .RetryExhausted →
      ((puts o.events).length = 3 ∧ ∀ reply ∈ puts o.events, Retriable reply) ∨
      ∃ start t, (clocks o.events).head? = some start ∧ t ∈ clocks o.events ∧ RETRY_BUDGET < t - start) := by
  intro o
  obtain ⟨start, es, r, hes, hrun, hv⟩ :=
    submit_with_retry_run (h := h) plaintext timestamp_ms recipient_addr local_addr account s
  change o.events = _ at hes
  change o.value = _ at hv
  have hobs := (hrun.observed (Nat.le_refl _)).cons_now s start
  obtain ⟨hlen, hdrop, hexh⟩ := hrun.retriable
  have hputs : puts o.events = puts es := by rw [hes]; rfl
  rw [← hes] at hobs
  have hok : r = .ok true ↔ o.value = .ok () := by
    rw [hv]
    cases r with
    | error e => exact ⟨nofun, nofun⟩
    | ok delivered =>
      have := hrun.delivered rfl
      cases delivered <;> simp_all [Except.map]
  have hobs' : Observed () 1 o.events o.value := by
    refine hobs.transfer hok ?_
    rintro e rfl
    rw [hv]
    rfl
  refine ⟨hputs ▸ hlen, ⟨hobs'.last_http, ?_⟩, ?_, hobs'.refused_last, hputs ▸ hdrop, hobs'.sleeps_eq, ?_, ?_⟩
  · rintro ⟨e, hlast, hans⟩
    obtain ⟨pre, post, hsplit⟩ := List.append_of_mem
      (List.mem_filter.mp (List.mem_of_getLast? hlast)).1
    exact (hobs'.accepted_last pre e post hsplit hans).2
  · intro pre e post hsplit hans
    exact (hobs'.accepted_last pre e post hsplit hans).1
  · rw [hobs'.parses_eq]
    exact List.map_congr_left (fun resp _ => mismatchBody_eq resp)
  · intro hexhausted
    have hr : r = .error .RetryExhausted := by
      rw [hv] at hexhausted
      cases r with
      | error e => exact congrArg _ (Except.error.inj hexhausted)
      | ok delivered => cases hexhausted
    rcases hexh hr with ⟨hfull, hall⟩ | ⟨t, ht, hlate⟩
    · exact .inl (hputs ▸ ⟨hfull, hall⟩)
    · refine .inr ⟨start, t, ?_, ?_, hlate⟩
      · rw [hes]; rfl
      · rw [hes]; exact List.mem_cons_of_mem start ht

end XousSignalClient
