import XousSignalClient.SigChat.MainLoop

namespace XousSignalClient.SigChat

open Interaction Fallible

def MainCall.online : (c : MainCall) → c.Reply → Bool
  | .connect, .ok (.ok true) => true
  | _, _ => false

def MainCall.focuses : (c : MainCall) → c.Reply → Bool
  | .receive_message, .ok body => body.event = some .Focus
  | _, _ => false

def MainCall.readyAtBoot : (c : MainCall) → c.Reply → Bool
  | .is_ready, true => true
  | _, _ => false

def MainCall.dialogueFails : (c : MainCall) → c.Reply → Bool
  | .dialogue_set _, .error _ => true
  | _, _ => false

def MainCall.isConnect : MainCall → Bool
  | .connect => true
  | _ => false

def MainCall.asksReady : MainCall → Bool
  | .is_ready => true
  | _ => false

def MainCall.starts : MainCall → Bool
  | .start_receive => true
  | _ => false

def MainCall.setsDialogue : MainCall → Bool
  | .dialogue_set _ => true
  | _ => false

def MainCall.setsFlags : MainCall → Bool
  | .set_author_flags _ _ => true
  | _ => false

section Traces

variable {σ : Type}

abbrev MainEvent (σ : Type) := Event mainSignature σ

def Online (e : MainEvent σ) : Prop := MainCall.online e.call e.reply
def Focuses (e : MainEvent σ) : Prop := MainCall.focuses e.call e.reply
def ReadyAtBoot (e : MainEvent σ) : Prop := MainCall.readyAtBoot e.call e.reply
def DialogueFails (e : MainEvent σ) : Prop := MainCall.dialogueFails e.call e.reply
def Connects (e : MainEvent σ) : Prop := MainCall.isConnect e.call
def Starts (e : MainEvent σ) : Prop := MainCall.starts e.call

def Tries (es : List (MainEvent σ)) : Prop :=
  ∀ pre e post, es = pre ++ e :: post → Focuses e → (∀ e' ∈ pre, ¬Online e') →
    ∃ attempt rest, post = attempt :: rest ∧ Connects attempt

def StartsOnce (es : List (MainEvent σ)) : Prop :=
  ((∀ e ∈ es, ¬Online e) → ∀ e ∈ es, ¬Starts e) ∧
  ∀ pre e post, es = pre ++ e :: post → Online e → (∀ e' ∈ pre, ¬Online e') →
    (∀ e' ∈ pre, ¬Starts e') ∧
      ∃ dialogue flags start rest, post = dialogue :: flags :: start :: rest ∧
        MainCall.setsDialogue dialogue.call ∧ MainCall.setsFlags flags.call ∧ Starts start ∧
        ∀ e' ∈ rest, ¬Starts e'

/-- With an account at the start, the first `connect` comes to `Ok(true)`, or no focus is ever received. -/
def BootConnects (es : List (MainEvent σ)) : Prop :=
  (∃ e, es.find? (fun e => MainCall.asksReady e.call) = some e ∧ ReadyAtBoot e) →
    (∃ e, es.find? (fun e => MainCall.isConnect e.call) = some e ∧ Online e) ∨ ∀ e ∈ es, ¬Focuses e

def DialoguesSet (es : List (MainEvent σ)) : Prop := ∀ e ∈ es, ¬DialogueFails e

def Idle (e : MainEvent σ) : Prop := ¬Online e ∧ ¬Starts e ∧ ¬DialogueFails e

def Waiting (es : List (MainEvent σ)) : Prop := Tries es ∧ ∀ e ∈ es, Idle e

def Keeps (es : List (MainEvent σ)) : Prop := Tries es ∧ (StartsOnce es ↔ DialoguesSet es)

def MainCall.Quiet (c : MainCall) : Prop :=
  c.isConnect = false ∧ c.starts = false ∧ c.setsDialogue = false

inductive Attempt : Except Panicked Bool → List (MainEvent σ) → Prop where
  | failed {e : MainEvent σ} {v : Except Panicked Bool} (hconnect : Connects e) (hoff : ¬Online e)
      (hv : v ≠ .ok true) : Attempt v [e]
  | stuck {e dialogue : MainEvent σ} {p : Panicked} (hconnect : Connects e) (hon : Online e)
      (hdialogue : MainCall.setsDialogue dialogue.call) (hfails : DialogueFails dialogue) :
      Attempt (.error p) [e, dialogue]
  | started {e dialogue flags start : MainEvent σ} (hconnect : Connects e) (hon : Online e)
      (hdialogue : MainCall.setsDialogue dialogue.call) (hset : ¬DialogueFails dialogue)
      (hflags : MainCall.setsFlags flags.call) (hstart : Starts start) :
      Attempt (.ok true) [e, dialogue, flags, start]

variable {es es' : List (MainEvent σ)} {e c : MainEvent σ}

theorem online_connects (h : Online e) : Connects e := by
  obtain ⟨s, c, r⟩ := e
  cases c <;> first | rfl | cases h

theorem focuses_not_connects (h : Focuses e) (hc : Connects e) : False := by
  obtain ⟨s, c, r⟩ := e
  cases c <;> first | (cases hc; done) | cases h

theorem dialogueFails_sets (h : DialogueFails e) : MainCall.setsDialogue e.call := by
  obtain ⟨s, c, r⟩ := e
  cases c <;> first | rfl | cases h

theorem not_dialogueFails (h : Connects e ∨ MainCall.setsFlags e.call ∨ Starts e) : ¬DialogueFails e := by
  intro hfails
  have hset := dialogueFails_sets hfails
  obtain ⟨s, c, r⟩ := e
  cases c <;> first | (cases hset; done) | rcases h with h | h | h <;> cases h

theorem idle_of_quiet (h : MainCall.Quiet e.call) : Idle e := by
  obtain ⟨hconnect, hstart, hset⟩ := h
  refine ⟨fun hon => ?_, ?_, fun hfails => ?_⟩
  · have := online_connects hon
    rw [Connects, hconnect] at this
    cases this
  · rw [Starts, hstart]
    simp
  · have := dialogueFails_sets hfails
    rw [hset] at this
    cases this

theorem tries_nil : Tries ([] : List (MainEvent σ)) := by
  intro pre e post h
  simp at h

theorem tries_append (h : Tries es) (h' : Tries es') : Tries (es ++ es') := by
  intro pre e post hsplit hfocus hoff
  rcases append_eq_split hsplit with ⟨mid, hes, rfl⟩ | ⟨mid, rfl, hes'⟩
  · obtain ⟨attempt, rest, rfl, hattempt⟩ := h pre e mid hes hfocus hoff
    exact ⟨attempt, rest ++ es', rfl, hattempt⟩
  · exact h' mid e post hes' hfocus (fun e' he' => hoff e' (List.mem_append_right _ he'))

theorem tries_of_not_focuses (h : ∀ e ∈ es, ¬Focuses e) : Tries es := by
  intro pre e post hsplit hfocus
  exact absurd hfocus (h e (by rw [hsplit]; simp))

theorem tries_of_online (h : Online e) : Tries (e :: es) := by
  intro pre x post hsplit hfocus hoff
  cases pre with
  | nil =>
    obtain ⟨rfl, -⟩ := List.cons.inj hsplit
    exact (focuses_not_connects hfocus (online_connects h)).elim
  | cons y pre =>
    obtain ⟨rfl, -⟩ := List.cons.inj hsplit
    exact absurd h (hoff e List.mem_cons_self)

theorem tries_cons_connects (hc : Connects c) (h : Tries (c :: es)) : Tries (e :: c :: es) := by
  intro pre x post hsplit hfocus hoff
  cases pre with
  | nil =>
    obtain ⟨-, rfl⟩ := List.cons.inj hsplit
    exact ⟨c, es, rfl, hc⟩
  | cons y pre =>
    obtain ⟨rfl, hrest⟩ := List.cons.inj hsplit
    exact h pre x post hrest hfocus (fun e' he' => hoff e' (List.mem_cons_of_mem _ he'))

theorem startsOnce_append (h : ∀ e ∈ es, Idle e) : StartsOnce (es ++ es') ↔ StartsOnce es' := by
  constructor
  · rintro ⟨hnever, hfirst⟩
    constructor
    · intro hoff e he
      apply hnever _ e (List.mem_append_right _ he)
      intro e' he'
      rcases List.mem_append.mp he' with he' | he'
      · exact (h e' he').1
      · exact hoff e' he'
    · intro pre e post hsplit hon hoff
      obtain ⟨hpre, hpost⟩ := hfirst (es ++ pre) e post (by rw [hsplit, List.append_assoc]) hon (by
        intro e' he'
        rcases List.mem_append.mp he' with he' | he'
        · exact (h e' he').1
        · exact hoff e' he')
      exact ⟨fun e' he' => hpre e' (List.mem_append_right _ he'), hpost⟩
  · rintro ⟨hnever, hfirst⟩
    constructor
    · intro hoff e he
      rcases List.mem_append.mp he with he | he
      · exact (h e he).2.1
      · exact hnever (fun e' he' => hoff e' (List.mem_append_right _ he')) e he
    · intro pre e post hsplit hon hoff
      rcases append_eq_split hsplit with ⟨mid, hes, -⟩ | ⟨mid, rfl, hes'⟩
      · exact absurd hon (h e (by rw [hes]; simp)).1
      · obtain ⟨hpre, hpost⟩ := hfirst mid e post hes' hon (fun e' he' => hoff e' (List.mem_append_right _ he'))
        refine ⟨?_, hpost⟩
        intro e' he'
        rcases List.mem_append.mp he' with he' | he'
        · exact (h e' he').2.1
        · exact hpre e' he'

theorem dialoguesSet_append (h : ∀ e ∈ es, Idle e) : DialoguesSet (es ++ es') ↔ DialoguesSet es' := by
  constructor
  · exact fun hset e he => hset e (List.mem_append_right _ he)
  · intro hset e he
    rcases List.mem_append.mp he with he | he
    · exact (h e he).2.2
    · exact hset e he

theorem startsOnce_idle (h : ∀ e ∈ es, Idle e) : StartsOnce es :=
  ⟨fun _ e he => (h e he).2.1, fun pre e post hsplit hon => absurd hon (h e (by rw [hsplit]; simp)).1⟩

theorem waiting_nil : Waiting ([] : List (MainEvent σ)) := ⟨tries_nil, by simp⟩

theorem Waiting.append (h : Waiting es) (h' : Waiting es') : Waiting (es ++ es') := by
  refine ⟨tries_append h.1 h'.1, ?_⟩
  intro e he
  rcases List.mem_append.mp he with he | he
  · exact h.2 e he
  · exact h'.2 e he

theorem Waiting.keeps (h : Waiting es) : Keeps es :=
  ⟨h.1, iff_of_true (startsOnce_idle h.2) (fun e he => (h.2 e he).2.2)⟩

theorem Waiting.append_keeps (h : Waiting es) (h' : Keeps es') : Keeps (es ++ es') :=
  ⟨tries_append h.1 h'.1, by rw [startsOnce_append h.2, dialoguesSet_append h.2]; exact h'.2⟩

def Closed (es : List (MainEvent σ)) : Prop :=
  ∀ es', (∀ e ∈ es', MainCall.Quiet e.call) → Keeps (es ++ es')

theorem Closed.append (h : Closed es) (hquiet : ∀ e ∈ es', MainCall.Quiet e.call) : Closed (es ++ es') := by
  intro es'' hquiet'
  rw [List.append_assoc]
  apply h
  intro e he
  rcases List.mem_append.mp he with he | he
  · exact hquiet e he
  · exact hquiet' e he

theorem Waiting.append_closed (h : Waiting es) (h' : Closed es') : Closed (es ++ es') := by
  intro es'' hquiet
  rw [List.append_assoc]
  exact h.append_keeps (h' es'' hquiet)

theorem Closed.keeps (h : Closed es) : Keeps es := by
  have hnil := h [] (by simp)
  rwa [List.append_nil] at hnil

theorem startsOnce_of_online (h : Online e) : StartsOnce (e :: es) ↔
    ∃ dialogue flags start rest, es = dialogue :: flags :: start :: rest ∧
      MainCall.setsDialogue dialogue.call ∧ MainCall.setsFlags flags.call ∧ Starts start ∧ ∀ e' ∈ rest, ¬Starts e' := by
  constructor
  · rintro ⟨-, hfirst⟩
    exact (hfirst [] e es rfl h (by simp)).2
  · intro hpost
    refine ⟨fun hoff => absurd h (hoff e List.mem_cons_self), ?_⟩
    intro pre x post hsplit hon hoff
    cases pre with
    | nil =>
      obtain ⟨rfl, rfl⟩ := List.cons.inj hsplit
      exact ⟨by simp, hpost⟩
    | cons y pre =>
      obtain ⟨rfl, -⟩ := List.cons.inj hsplit
      exact absurd h (hoff e List.mem_cons_self)

theorem Attempt.closed {v : Except Panicked Bool} (h : Attempt v (e :: es)) (hon : Online e) : Closed (e :: es) := by
  intro es' hquiet
  refine ⟨tries_of_online hon, ?_⟩
  rw [List.cons_append, startsOnce_of_online hon]
  cases h with
  | failed hconnect hoff hv => exact absurd hon hoff
  | stuck hconnect hon hdialogue hfails =>
    refine iff_of_false ?_ ?_
    · rintro ⟨dialogue, flags, start, rest, hes, -, -, hstart, -⟩
      obtain ⟨-, hes⟩ := List.cons.inj hes
      have := hquiet start (by rw [show es' = flags :: start :: rest from hes]; simp)
      rw [Starts, this.2.1] at hstart
      cases hstart
    · exact fun hset => hset _ (by simp) hfails
  | started hconnect hon hdialogue hset hflags hstart =>
    refine iff_of_true ⟨_, _, _, es', rfl, hdialogue, hflags, hstart, ?_⟩ ?_
    · exact fun e' he' => (idle_of_quiet (hquiet e' he')).2.1
    · intro x hx hfails
      simp only [List.cons_append, List.nil_append, List.mem_cons] at hx
      rcases hx with rfl | rfl | rfl | rfl | hx
      · exact not_dialogueFails (.inl hconnect) hfails
      · exact hset hfails
      · exact not_dialogueFails (.inr (.inl hflags)) hfails
      · exact not_dialogueFails (.inr (.inr hstart)) hfails
      · exact (idle_of_quiet (hquiet x hx)).2.2 hfails

theorem connects_not_starts (h : Connects e) (hs : Starts e) : False := by
  obtain ⟨s, c, r⟩ := e
  cases c <;> first | (cases h; done) | cases hs

theorem idle_of_failed (hconnect : Connects e) (hoff : ¬Online e) : Idle e :=
  ⟨hoff, connects_not_starts hconnect, not_dialogueFails (.inl hconnect)⟩

theorem Waiting.message (hr : Idle e) (hc : Connects c) (h : Waiting (c :: es)) : Waiting (e :: c :: es) :=
  ⟨tries_cons_connects hc h.1, by simpa using ⟨hr, by simpa using h.2⟩⟩

theorem Closed.message (hr : Idle e) (hc : Connects c) (h : Closed (c :: es)) : Closed (e :: c :: es) := by
  intro es' hquiet
  obtain ⟨htries, hkeeps⟩ := h es' hquiet
  have hidle : ∀ e' ∈ [e], Idle e' := by simpa using hr
  refine ⟨tries_cons_connects hc htries, ?_⟩
  have hstarts : StartsOnce ([e] ++ (c :: es ++ es')) ↔ StartsOnce (c :: es ++ es') := startsOnce_append hidle
  have hdialogues : DialoguesSet ([e] ++ (c :: es ++ es')) ↔ DialoguesSet (c :: es ++ es') := dialoguesSet_append hidle
  exact hstarts.trans (hkeeps.trans hdialogues.symm)

theorem Attempt.cases {v : Except Panicked Bool} (h : Attempt v es) :
    ∃ c rest, es = c :: rest ∧ Connects c ∧
      ((Waiting es ∧ ¬Online c ∧ v ≠ .ok true) ∨ (Closed es ∧ Online c ∧ v ≠ .ok false)) := by
  have hattempt := h
  cases h with
  | failed hconnect hoff hv =>
    refine ⟨_, [], rfl, hconnect, .inl ⟨⟨?_, ?_⟩, hoff, hv⟩⟩
    · exact tries_of_not_focuses (by simpa using fun hfocus => focuses_not_connects hfocus hconnect)
    · simpa using idle_of_failed hconnect hoff
  | stuck hconnect hon hdialogue hfails =>
    exact ⟨_, _, rfl, hconnect, .inr ⟨hattempt.closed hon, hon, by simp⟩⟩
  | started hconnect hon hdialogue hset hflags hstart =>
    exact ⟨_, _, rfl, hconnect, .inr ⟨hattempt.closed hon, hon, by simp⟩⟩

def MainCall.Inert (c : MainCall) : Prop :=
  c.Quiet ∧ ∀ r, c.focuses r = false

theorem waiting_inert (h : ∀ e ∈ es, MainCall.Inert e.call) : Waiting es := by
  constructor
  · apply tries_of_not_focuses
    intro e he
    rw [Focuses, (h e he).2 e.reply]
    simp
  · exact fun e he => idle_of_quiet (h e he).1

theorem not_focuses_inert (h : MainCall.Inert e.call) : ¬Focuses e := by
  rw [Focuses, h.2 e.reply]
  simp

/-- A failed attempt after which no other is made: the trace is right as long as nobody looks. -/
theorem tries_quiet_iff {b q : List (MainEvent σ)} (hb : ∀ e ∈ b, MainCall.Inert e.call) (hc : Connects c)
    (hoff : ¬Online c) (hq : ∀ e ∈ q, MainCall.Quiet e.call) :
    Tries (b ++ c :: q) ↔ ∀ e ∈ b ++ c :: q, ¬Focuses e := by
  refine ⟨?_, tries_of_not_focuses⟩
  intro htries e he hfocus
  rcases List.mem_append.mp he with he | he
  · exact not_focuses_inert (hb e he) hfocus
  rcases List.mem_cons.mp he with rfl | he
  · exact focuses_not_connects hfocus hc
  obtain ⟨pre, post, rfl⟩ := List.append_of_mem he
  obtain ⟨attempt, rest, rfl, hattempt⟩ := htries (b ++ c :: pre) e post (by simp) hfocus (by
    intro e' he'
    rcases List.mem_append.mp he' with he' | he'
    · exact (idle_of_quiet (hb e' he').1).1
    · rcases List.mem_cons.mp he' with rfl | he'
      · exact hoff
      · exact (idle_of_quiet (hq e' (List.mem_append_left _ he'))).1)
  have hquiet := hq attempt (by simp)
  rw [Connects, hquiet.1] at hattempt
  cases hattempt

end Traces

section Runs

variable {σ : Type} {h : Handler mainSignature σ} {t : σ}

theorem ensures_tryConnect (key : String) : Ensures h (tryConnect key) t (fun v _ es => Attempt v es) := by
  apply ensures_call_bind
  cases (h.answer .connect t).1 with
  | error p =>
    rw [Ensures, exec_ofExcept_error_bind]
    exact .failed rfl (by simp [Online, MainCall.online]) (by simp)
  | ok outcome =>
    apply ensures_ok_bind
    rcases outcome with e | connected
    · exact .failed rfl (by simp [Online, MainCall.online]) (by simp)
    · cases connected with
      | false => exact .failed rfl (by simp [Online, MainCall.online]) (by simp)
      | true =>
        apply ensures_call_bind
        cases (h.answer (.dialogue_set (some key)) (h.answer .connect t).2).1 with
        | error p =>
          rw [Ensures, exec_ofExcept_error_bind]
          exact .stuck rfl rfl rfl rfl
        | ok u =>
          apply ensures_ok_bind
          apply ensures_call_bind
          apply ensures_call_bind
          exact .started rfl rfl rfl (by simp [DialogueFails, MainCall.dialogueFails]) rfl rfl

def Progress (v : Except Panicked (Option MainState)) (es : List (MainEvent σ)) : Prop :=
  (Waiting es ∧ ∀ s, v = .ok (some s) → s.first_focus = true) ∨
    (Closed es ∧ ∀ s, v = .ok (some s) → s.first_focus = false)

theorem Progress.append {v v' : Except Panicked (Option MainState)} {es es' : List (MainEvent σ)}
    (hprogress : Progress v es) (hinert : ∀ e ∈ es', MainCall.Inert e.call)
    (hkept : ∀ s', v' = .ok (some s') → ∃ s, v = .ok (some s) ∧ s'.first_focus = s.first_focus) :
    Progress v' (es ++ es') := by
  rcases hprogress with ⟨hes, hfocus⟩ | ⟨hes, hfocus⟩
  · refine .inl ⟨hes.append (waiting_inert hinert), ?_⟩
    intro s' hs'
    obtain ⟨s, hs, heq⟩ := hkept s' hs'
    rw [heq, hfocus s hs]
  · refine .inr ⟨hes.append (fun e he => (hinert e he).1), ?_⟩
    intro s' hs'
    obtain ⟨s, hs, heq⟩ := hkept s' hs'
    rw [heq, hfocus s hs]

theorem inert_redraw : MainCall.Inert .redraw := ⟨⟨rfl, rfl, rfl⟩, fun _ => rfl⟩

theorem only_onF1 : onF1.run.Only MainCall.Inert := by
  have hshow : MainCall.Inert .show_peer_picker := ⟨⟨rfl, rfl, rfl⟩, fun _ => rfl⟩
  refine only_bind (only_call (S := mainSignature) _ hshow) (fun shown => ?_)
  refine only_bind (.ret _) (fun picked => ?_)
  cases picked with
  | none => exact .ret _
  | some picked =>
    have hopen : MainCall.Inert (.open_peer picked.uuid 1) := ⟨⟨rfl, rfl, rfl⟩, fun _ => rfl⟩
    exact only_bind (only_call (S := mainSignature) _ hopen) (fun _ => .ret _)

theorem only_cleanUp : cleanUp.run.Only MainCall.Inert := by
  have hunregister : MainCall.Inert .unregister_server := ⟨⟨rfl, rfl, rfl⟩, fun _ => rfl⟩
  have hdestroy : MainCall.Inert .destroy_server := ⟨⟨rfl, rfl, rfl⟩, fun _ => rfl⟩
  have hterminate : MainCall.Inert (.terminate_process 0) := ⟨⟨rfl, rfl, rfl⟩, fun _ => rfl⟩
  have hunwrap (r : Except IoError Unit) : (unwrap r).run.Only MainCall.Inert := by
    cases r <;> exact .ret _
  refine only_bind (only_call (S := mainSignature) _ hunregister) (fun r => only_bind (hunwrap r) (fun _ => ?_))
  refine only_bind (only_call (S := mainSignature) _ hdestroy) (fun r => only_bind (hunwrap r) (fun _ => ?_))
  exact only_call (S := mainSignature) _ hterminate

theorem ensures_postPending (s : MainState) : Ensures h (postPending s) t (fun v _ es =>
    (∀ e ∈ es, MainCall.Inert e.call) ∧ ∀ s', v = .ok s' → s'.first_focus = s.first_focus) := by
  unfold postPending
  cases s.user_post with
  | none =>
    refine ⟨by simp, ?_⟩
    rintro s' ⟨⟩
    rfl
  | some text =>
    have hpost : MainCall.Inert (.post text) := ⟨⟨rfl, rfl, rfl⟩, fun _ => rfl⟩
    apply ensures_call_bind
    cases (h.answer (.post text) t).1 with
    | error p =>
      rw [Ensures, exec_ofExcept_error_bind]
      refine ⟨by simpa using hpost, ?_⟩
      rintro s' ⟨⟩
    | ok u =>
      apply ensures_ok_bind
      refine ⟨by simpa using hpost, ?_⟩
      rintro s' ⟨⟩
      rfl

theorem ensures_onFocus {s : MainState} (hfocus : s.first_focus = true) (key : String) {r : MainEvent σ}
    (hr : Idle r) : Ensures h (onFocus key s) t (fun v _ es => Progress (v.map some) (r :: es)) := by
  rw [onFocus, if_pos hfocus]
  apply ensures_bind (ensures_tryConnect key)
  · intro p t' es hes
    obtain ⟨c, rest, rfl, hc, ⟨hwaiting, -⟩ | ⟨hclosed, -⟩⟩ := hes.cases
    · exact .inl ⟨hwaiting.message hr hc, by simp [Except.map]⟩
    · exact .inr ⟨hclosed.message hr hc, by simp [Except.map]⟩
  · intro connected t' es hes
    apply ensures_call_bind
    have hredraw {t'' : σ} : ∀ e ∈ [(⟨t'', .redraw, (h.answer .redraw t'').1⟩ : MainEvent σ)], MainCall.Inert e.call := by
      simpa using inert_redraw
    obtain ⟨c, rest, rfl, hc, ⟨hwaiting, -, hv⟩ | ⟨hclosed, -, hv⟩⟩ := hes.cases
    · cases connected with
      | true => exact absurd rfl hv
      | false =>
        refine .inl ⟨(hwaiting.message hr hc).append (waiting_inert hredraw), ?_⟩
        rintro s' ⟨⟩
        rfl
    · cases connected with
      | false => exact absurd rfl hv
      | true =>
        refine .inr ⟨(hclosed.message hr hc).append (fun e he => (hredraw e he).1), ?_⟩
        rintro s' ⟨⟩
        rfl

theorem ensures_onEvent {event : Option ChatEvent} {s : MainState} (hno : event ≠ some .Focus ∨ s.first_focus = false)
    (key : String) : Ensures h (onEvent key event s) t (fun v _ es =>
      (∀ e ∈ es, MainCall.Inert e.call) ∧ ∀ s', v = .ok s' → s' = s) := by
  have hsame : Ensures h (pure s : MainM MainState) t (fun v _ es =>
      (∀ e ∈ es, MainCall.Inert e.call) ∧ ∀ s', v = .ok s' → s' = s) := by
    refine ⟨by simp, ?_⟩
    rintro s' ⟨⟩
    rfl
  cases event with
  | none => exact hsame
  | some event =>
    cases event with
    | Focus =>
      have hfocus := hno.resolve_left (by simp)
      simp only [onEvent, onFocus, hfocus]
      apply ensures_call_bind
      refine ⟨by simpa using inert_redraw, ?_⟩
      rintro s' ⟨⟩
      rfl
    | F1 =>
      apply ensures_bind (ensures_only only_onF1)
      · intro p t' es hes
        refine ⟨hes, ?_⟩
        rintro s' ⟨⟩
      · intro u t' es hes
        refine ⟨by simpa using hes, ?_⟩
        rintro s' ⟨⟩
        rfl
    | other => exact hsame

theorem ensures_onPost (body : MessageBody) (s : MainState) : Ensures h (onPost body s) t (fun v _ es =>
    es = [] ∧ ∀ s', v = .ok s' → s'.first_focus = s.first_focus) := by
  unfold onPost
  split
  · refine ⟨rfl, ?_⟩
    rintro s' ⟨⟩
    split_ifs <;> rfl
  · refine ⟨rfl, ?_⟩
    rintro s' ⟨⟩

theorem ensures_handleMessage {body : MessageBody} {s : MainState}
    (hno : body.event ≠ some .Focus ∨ s.first_focus = false) (key : String) :
    Ensures h (handleMessage key body s) t (fun v _ es =>
      (∀ e ∈ es, MainCall.Inert e.call) ∧ ∀ s', v = .ok (some s') → s'.first_focus = s.first_focus) := by
  have hsame : Ensures h (pure (some s) : MainM (Option MainState)) t (fun v _ es =>
      (∀ e ∈ es, MainCall.Inert e.call) ∧ ∀ s', v = .ok (some s') → s'.first_focus = s.first_focus) := by
    refine ⟨by simp, ?_⟩
    rintro s' ⟨⟩
    rfl
  unfold handleMessage
  split
  · apply ensures_bind (ensures_onEvent hno key)
    · intro p t' es hes
      refine ⟨hes.1, ?_⟩
      rintro s' ⟨⟩
    · intro s' t' es hes
      refine ⟨by simpa using hes.1, ?_⟩
      rintro s'' ⟨⟩
      rw [hes.2 s' rfl]
  · apply ensures_bind (ensures_onPost body s)
    · intro p t' es hes
      refine ⟨by simp [hes.1], ?_⟩
      rintro s' ⟨⟩
    · intro s' t' es hes
      refine ⟨by simp [hes.1], ?_⟩
      rintro s'' ⟨⟩
      exact hes.2 s' rfl
  · refine ⟨by simp, ?_⟩
    rintro s' ⟨⟩
  · exact hsame
  · exact hsame
  · exact hsame

theorem event_id {body : MessageBody} {event : ChatEvent} (hevent : body.event = some event) :
    SigchatOp.from_usize body.id = some .Event := by
  cases body with
  | Scalar id e =>
    by_contra hid
    change ¬SigchatOp.from_usize id = some .Event at hid
    rw [MessageBody.event, if_neg hid] at hevent
    cases hevent
  | BlockingScalar id => cases hevent
  | Memory id text => cases hevent

theorem idle_received (t : σ) (r : Except IoError MessageBody) : Idle (⟨t, .receive_message, r⟩ : MainEvent σ) :=
  idle_of_quiet ⟨rfl, rfl, rfl⟩

theorem progress_message {body : MessageBody} {s : MainState} (hfocus : s.first_focus = true) (key : String) (t₀ : σ) :
    Ensures h (handleMessage key body s) t
      (fun v _ es => Progress v (⟨t₀, .receive_message, .ok body⟩ :: es)) := by
  by_cases hevent : body.event = some .Focus
  · rw [handleMessage, event_id hevent, hevent]
    apply ensures_bind (ensures_onFocus hfocus key (idle_received t₀ (.ok body)))
    · intro p t' es hes
      rcases hes with ⟨hes, -⟩ | ⟨hes, -⟩
      · exact .inl ⟨hes, by simp⟩
      · exact .inr ⟨hes, by simp⟩
    · intro s' t' es hes
      rw [Ensures]
      simpa [Except.map] using hes
  · refine (ensures_handleMessage (.inl hevent) key).mono ?_
    rintro v t' es ⟨hinert, hkept⟩
    have hmessage : Waiting [(⟨t₀, .receive_message, .ok body⟩ : MainEvent σ)] := by
      refine ⟨tries_of_not_focuses ?_, by simpa using idle_received t₀ (.ok body)⟩
      simpa [Focuses, MainCall.focuses] using hevent
    refine .inl ⟨hmessage.append (waiting_inert hinert), ?_⟩
    intro s' hs'
    rw [hkept s' hs', hfocus]

theorem ensures_unwrap_bind {α β : Type} {r : Except IoError α} {f : α → MainM β}
    {Q : Except Panicked β → σ → List (MainEvent σ) → Prop} (herr : ∀ e, r = .error e → Q (.error .unwrap) t [])
    (hok : ∀ a, r = .ok a → Ensures h (f a) t Q) : Ensures h (unwrap r >>= f) t Q := by
  cases r with
  | error e => exact herr e rfl
  | ok a => exact hok a rfl

theorem ensures_mainTurn {s : MainState} (hfocus : s.first_focus = true) (key : String) :
    Ensures h (mainTurn key s) t (fun v _ es => Progress v es) := by
  apply ensures_call_bind
  apply ensures_unwrap_bind
  · intro e he
    refine .inl ⟨⟨tries_of_not_focuses ?_, by simpa using idle_received t _⟩, by simp⟩
    simp [Focuses, MainCall.focuses, he]
  · intro body hbody
    rw [hbody]
    apply ensures_bind (progress_message hfocus key t)
    · intro p t' es hes
      rcases hes with ⟨hes, -⟩ | ⟨hes, -⟩
      · exact .inl ⟨hes, by simp⟩
      · exact .inr ⟨hes, by simp⟩
    · intro handled t' es hes
      cases handled with
      | none =>
        rw [Ensures]
        simpa using hes
      | some s' =>
        have hkept := ensures_postPending (h := h) (t := t') s'
        apply ensures_bind hkept
        · rintro p t'' es' ⟨hinert, -⟩
          exact hes.append hinert (by simp)
        · rintro s'' t'' es' ⟨hinert, hsame⟩
          rw [Ensures]
          simp only [exec_pure, List.append_nil]
          refine hes.append hinert ?_
          rintro _ ⟨⟩
          exact ⟨s', rfl, hsame s'' rfl⟩

theorem quiet_message {r : Except IoError MessageBody} {es : List (MainEvent σ)}
    (hinert : ∀ e ∈ es, MainCall.Inert e.call) :
    ∀ e ∈ (⟨t, .receive_message, r⟩ : MainEvent σ) :: es, MainCall.Quiet e.call :=
  List.forall_mem_cons.mpr ⟨⟨rfl, rfl, rfl⟩, fun e he => (hinert e he).1⟩

theorem ensures_mainTurn_quiet {s : MainState} (hfocus : s.first_focus = false) (key : String) :
    Ensures h (mainTurn key s) t (fun v _ es =>
      (∀ e ∈ es, MainCall.Quiet e.call) ∧ ∀ s', v = .ok (some s') → s'.first_focus = false) := by
  apply ensures_call_bind
  apply ensures_unwrap_bind
  · intro e he
    exact ⟨quiet_message (by simp), by simp⟩
  · intro body hbody
    apply ensures_bind (ensures_handleMessage (.inr hfocus) key)
    · rintro p t' es ⟨hinert, -⟩
      exact ⟨quiet_message hinert, by simp⟩
    · rintro handled t' es ⟨hinert, hkept⟩
      cases handled with
      | none => exact ⟨quiet_message (by simpa using hinert), by simp⟩
      | some s' =>
        have hpost := ensures_postPending (h := h) (t := t') s'
        apply ensures_bind hpost
        · rintro p t'' es' ⟨hinert', -⟩
          exact ⟨quiet_message (List.forall_mem_append.mpr ⟨hinert, hinert'⟩), by simp⟩
        · rintro s'' t'' es' ⟨hinert', hsame⟩
          refine ⟨quiet_message (List.forall_mem_append.mpr ⟨hinert, by simpa using hinert'⟩), ?_⟩
          rintro _ ⟨⟩
          rw [hsame s'' rfl, hkept s' rfl, hfocus]

theorem ensures_mainLoop_quiet {s : MainState} (hfocus : s.first_focus = false) (key : String) (n : ℕ) :
    Ensures h (mainLoop key n s) t (fun _ _ es => ∀ e ∈ es, MainCall.Quiet e.call) := by
  induction n generalizing s t with
  | zero => simp [Ensures, mainLoop]
  | succ n ih =>
    apply ensures_bind (ensures_mainTurn_quiet hfocus key)
    · exact fun p t' es hes => hes.1
    · rintro turned t' es ⟨hquiet, hkept⟩
      cases turned with
      | none => simpa [Ensures] using hquiet
      | some s' =>
        apply (ih (hkept s' rfl)).mono
        exact fun v u es' hquiet' => List.forall_mem_append.mpr ⟨hquiet, hquiet'⟩

theorem ensures_mainLoop {s : MainState} (hfocus : s.first_focus = true) (key : String) (n : ℕ) :
    Ensures h (mainLoop key n s) t (fun _ _ es => Waiting es ∨ Closed es) := by
  induction n generalizing s t with
  | zero => exact .inl waiting_nil
  | succ n ih =>
    apply ensures_bind (ensures_mainTurn hfocus key)
    · intro p t' es hes
      rcases hes with ⟨hes, -⟩ | ⟨hes, -⟩
      · exact .inl hes
      · exact .inr hes
    · intro turned t' es hes
      cases turned with
      | none =>
        rw [Ensures]
        simp only [exec_pure, List.append_nil]
        exact hes.imp And.left And.left
      | some s' =>
        rcases hes with ⟨hes, hfocus'⟩ | ⟨hes, hfocus'⟩
        · apply (ih (hfocus' s' rfl)).mono
          rintro v u es' (hes' | hes')
          · exact .inl (hes.append hes')
          · exact .inr (hes.append_closed hes')
        · apply (ensures_mainLoop_quiet (hfocus' s' rfl) key n).mono
          exact fun v u es' hquiet => .inr (hes.append hquiet)

theorem find_connect {b rest : List (MainEvent σ)} {c : MainEvent σ} (hb : ∀ e ∈ b, MainCall.Inert e.call)
    (hc : Connects c) : (b ++ c :: rest).find? (fun e => MainCall.isConnect e.call) = some c := by
  have hfirst : (c :: rest).find? (fun e => MainCall.isConnect e.call) = some c :=
    List.find?_cons_of_pos (p := fun e : MainEvent σ => MainCall.isConnect e.call) hc
  rw [List.find?_append, List.find?_eq_none.mpr (fun e he => by simp [(hb e he).1.1]), Option.none_or, hfirst]

theorem keeps_trying_ready {b a q : List (MainEvent σ)} {v : Except Panicked Bool}
    (hb : ∀ e ∈ b, MainCall.Inert e.call) (ha : Attempt v a) (hq : ∀ e ∈ q, MainCall.Quiet e.call)
    (hready : ∃ e, (b ++ (a ++ q)).find? (fun e => MainCall.asksReady e.call) = some e ∧ ReadyAtBoot e) :
    Tries (b ++ (a ++ q)) ∧ StartsOnce (b ++ (a ++ q)) ↔
      BootConnects (b ++ (a ++ q)) ∧ DialoguesSet (b ++ (a ++ q)) := by
  obtain ⟨c, rest, hcons, hc, ⟨hwaiting, hoff, -⟩ | ⟨hclosed, hon, -⟩⟩ := ha.cases
  · have hidle : ∀ e ∈ b ++ (a ++ q), Idle e :=
      List.forall_mem_append.mpr ⟨(waiting_inert hb).2,
        List.forall_mem_append.mpr ⟨hwaiting.2, fun e he => idle_of_quiet (hq e he)⟩⟩
    have hset : DialoguesSet (b ++ (a ++ q)) := fun e he => (hidle e he).2.2
    have hfirst : (b ++ c :: (rest ++ q)).find? (fun e => MainCall.isConnect e.call) = some c := find_connect hb hc
    have hquiet : ∀ e ∈ rest ++ q, MainCall.Quiet e.call := by
      cases ha with
      | failed hconnect hoff' hv =>
        obtain ⟨-, rfl⟩ := List.cons.inj hcons
        exact hq
      | stuck hconnect hon hdialogue hfails =>
        obtain ⟨rfl, -⟩ := List.cons.inj hcons
        exact absurd hon hoff
      | started hconnect hon hdialogue hset hflags hstart =>
        obtain ⟨rfl, -⟩ := List.cons.inj hcons
        exact absurd hon hoff
    have htries := tries_quiet_iff hb hc hoff hquiet
    rw [hcons, List.cons_append] at hidle hset hready ⊢
    rw [and_iff_left (startsOnce_idle hidle), and_iff_left hset, htries]
    constructor
    · exact fun hnone _ => .inr hnone
    · intro hboot
      rcases hboot hready with ⟨e, he, hon⟩ | hnone
      · obtain rfl := Option.some.inj (hfirst.symm.trans he)
        exact absurd hon hoff
      · exact hnone
  · obtain ⟨htries, hkeeps⟩ := (waiting_inert hb).append_keeps (hclosed q hq)
    have hboot : BootConnects (b ++ (a ++ q)) := by
      intro _
      rw [hcons]
      exact .inl ⟨c, find_connect hb hc, hon⟩
    rw [and_iff_right htries, and_iff_right hboot]
    exact hkeeps

theorem keeps_trying_unready {es : List (MainEvent σ)} (hkeeps : Keeps es)
    (hready : ¬∃ e, es.find? (fun e => MainCall.asksReady e.call) = some e ∧ ReadyAtBoot e) :
    Tries es ∧ StartsOnce es ↔ BootConnects es ∧ DialoguesSet es := by
  have hboot : BootConnects es := fun h => absurd h hready
  rw [and_iff_right hkeeps.1, and_iff_right hboot]
  exact hkeeps.2

inductive Booted : Except Panicked (String × Bool) → List (MainEvent σ) → Prop where
  | ready {v : Except Panicked (String × Bool)} {w : Except Panicked Bool} {b a : List (MainEvent σ)}
      (hb : ∀ e ∈ b, MainCall.Inert e.call) (ha : Attempt w a)
      (hready : ∀ rest, ∃ e, (b ++ rest).find? (fun e => MainCall.asksReady e.call) = some e ∧ ReadyAtBoot e)
      (hv : ∀ key first_focus, v = .ok (key, first_focus) → first_focus = false) : Booted v (b ++ a)
  | unready {v : Except Panicked (String × Bool)} {b : List (MainEvent σ)} (hb : ∀ e ∈ b, MainCall.Inert e.call)
      (hready : ∀ rest, ¬∃ e, (b ++ rest).find? (fun e => MainCall.asksReady e.call) = some e ∧ ReadyAtBoot e)
      (hv : ∀ key first_focus, v = .ok (key, first_focus) → first_focus = true) : Booted v b

def asking (t₀ t₁ t₂ : σ) (r₀ : Except IoError Bool) (r₁ : Option String) (ready : Bool) : List (MainEvent σ) :=
  [⟨t₀, .seed_demo_recipient_from_env, r₀⟩, ⟨t₁, .focused_peer_uuid, r₁⟩, ⟨t₂, .is_ready, ready⟩]

theorem inert_asking (t₀ t₁ t₂ : σ) (r₀ : Except IoError Bool) (r₁ : Option String) (ready : Bool) :
    ∀ e ∈ asking t₀ t₁ t₂ r₀ r₁ ready, MainCall.Inert e.call := by
  simp only [asking, List.forall_mem_cons]
  exact ⟨⟨⟨rfl, rfl, rfl⟩, fun _ => rfl⟩, ⟨⟨rfl, rfl, rfl⟩, fun _ => rfl⟩, ⟨⟨rfl, rfl, rfl⟩, fun _ => rfl⟩, by simp⟩

theorem find_asking (t₀ t₁ t₂ : σ) (r₀ : Except IoError Bool) (r₁ : Option String) (ready : Bool)
    (rest : List (MainEvent σ)) :
    (∃ e, (asking t₀ t₁ t₂ r₀ r₁ ready ++ rest).find? (fun e => MainCall.asksReady e.call) = some e ∧
      ReadyAtBoot e) ↔ ready = true := by
  constructor
  · rintro ⟨e, he, hready⟩
    obtain rfl := Option.some.inj he
    cases ready with
    | true => rfl
    | false => cases hready
  · rintro rfl
    exact ⟨_, rfl, rfl⟩

theorem ensures_startUp : Ensures h startUp t (fun v _ es => Booted v es) := by
  apply ensures_call_bind
  apply ensures_call_bind
  apply ensures_call_bind
  have hb := inert_asking t (h.answer .seed_demo_recipient_from_env t).2
    (h.answer .focused_peer_uuid (h.answer .seed_demo_recipient_from_env t).2).2
    (h.answer .seed_demo_recipient_from_env t).1 (h.answer .focused_peer_uuid (h.answer .seed_demo_recipient_from_env t).2).1
  split
  · next hready =>
    rw [hready]
    apply ensures_bind (ensures_tryConnect _)
    · intro p t' es hes
      refine .ready (hb true) hes (fun rest => (find_asking ..).mpr rfl) ?_
      rintro key first_focus ⟨⟩
    · intro connected t' es hes
      rw [Ensures, exec_pure, List.append_nil]
      refine .ready (hb true) hes (fun rest => (find_asking ..).mpr rfl) ?_
      rintro key first_focus ⟨⟩
      rfl
  · next hready =>
    rw [Bool.eq_false_of_not_eq_true hready]
    refine .unready (hb false) (fun rest hfind => ?_) ?_
    · cases (find_asking ..).mp hfind
    · rintro key first_focus ⟨⟩
      rfl

def exitLoop : Option MainState → MainM Unit
  | some _ => pure ()
  | none => cleanUp

theorem ensures_exitLoop (exited : Option MainState) :
    Ensures h (exitLoop exited) t (fun _ _ es => ∀ e ∈ es, MainCall.Inert e.call) := by
  cases exited with
  | none => exact ensures_only only_cleanUp
  | some s => exact fun e he => by cases he

theorem ensures_rest_quiet (key : String) (n : ℕ) :
    Ensures h (mainLoop key n ⟨false, none⟩ >>= exitLoop) t (fun _ _ es => ∀ e ∈ es, MainCall.Quiet e.call) := by
  apply ensures_bind (ensures_mainLoop_quiet rfl key n)
  · exact fun p t' es hes => hes
  · intro exited t' es hes
    apply (ensures_exitLoop exited).mono
    exact fun v u es' hinert => List.forall_mem_append.mpr ⟨hes, fun e he => (hinert e he).1⟩

theorem ensures_rest (key : String) (n : ℕ) :
    Ensures h (mainLoop key n ⟨true, none⟩ >>= exitLoop) t (fun _ _ es => Keeps es) := by
  apply ensures_bind (ensures_mainLoop rfl key n)
  · exact fun p t' es hes => hes.elim Waiting.keeps Closed.keeps
  · intro exited t' es hes
    apply (ensures_exitLoop exited).mono
    intro v u es' hinert
    rcases hes with hes | hes
    · exact (hes.append (waiting_inert hinert)).keeps
    · exact hes es' (fun e he => (hinert e he).1)

theorem keeps_trying_iff (h : Handler mainSignature σ) (t : σ) (n : ℕ) :
    Tries ((wrapped_main n).exec h t).events ∧ StartsOnce ((wrapped_main n).exec h t).events ↔
      BootConnects ((wrapped_main n).exec h t).events ∧ DialoguesSet ((wrapped_main n).exec h t).events := by
  change Ensures h (wrapped_main n) t (fun _ _ es => Tries es ∧ StartsOnce es ↔ BootConnects es ∧ DialoguesSet es)
  apply ensures_bind ensures_startUp
  · intro p t' es hes
    cases hes with
    | ready hb ha hready hv =>
      have hrun := keeps_trying_ready (q := []) hb ha (by simp) (hready _)
      rwa [List.append_nil] at hrun
    | unready hb hready hv =>
      have hnot := hready []
      rw [List.append_nil] at hnot
      exact keeps_trying_unready (waiting_inert hb).keeps hnot
  · rintro ⟨key, first_focus⟩ t' es hes
    cases hes with
    | ready hb ha hready hv =>
      obtain rfl := hv key first_focus rfl
      apply (ensures_rest_quiet key n).mono
      intro v u es' hquiet
      rw [List.append_assoc]
      exact keeps_trying_ready hb ha hquiet (hready _)
    | unready hb hready hv =>
      obtain rfl := hv key first_focus rfl
      apply (ensures_rest key n).mono
      exact fun v u es' hkeeps => keeps_trying_unready ((waiting_inert hb).append_keeps hkeeps) (hready es')

end Runs

def offlineBoot : Handler mainSignature Unit where
  answer
    | .seed_demo_recipient_from_env, s => (.ok false, s)
    | .focused_peer_uuid, s => (none, s)
    | .is_ready, s => (true, s)
    | .connect, s => (.ok (.ok false), s)
    | .dialogue_set _, s => (.ok (), s)
    | .set_author_flags _ _, s => (.ok (), s)
    | .start_receive, s => (.ok true, s)
    | .receive_message, s => (.ok (.Scalar 0 (some .Focus)), s)
    | .redraw, s => ((), s)
    | .show_peer_picker, s => (.ok none, s)
    | .open_peer _ _, s => (.ok (), s)
    | .post _, s => (.ok (), s)
    | .unregister_server, s => (.ok (), s)
    | .destroy_server, s => (.ok (), s)
    | .terminate_process _, s => ((), s)

theorem offline_boot_gives_up :
    ¬(Tries ((wrapped_main 1).exec offlineBoot ()).events ∧
      StartsOnce ((wrapped_main 1).exec offlineBoot ()).events) := by
  have hevents : ((wrapped_main 1).exec offlineBoot ()).events =
      [⟨(), .seed_demo_recipient_from_env, .ok false⟩, ⟨(), .focused_peer_uuid, none⟩, ⟨(), .is_ready, true⟩,
        ⟨(), .connect, .ok (.ok false)⟩, ⟨(), .receive_message, .ok (.Scalar 0 (some .Focus))⟩,
        ⟨(), .redraw, ()⟩] := rfl
  rintro ⟨htries, -⟩
  obtain ⟨attempt, rest, hpost, hattempt⟩ := htries
    [⟨(), .seed_demo_recipient_from_env, .ok false⟩, ⟨(), .focused_peer_uuid, none⟩, ⟨(), .is_ready, true⟩,
      ⟨(), .connect, .ok (.ok false)⟩] ⟨(), .receive_message, .ok (.Scalar 0 (some .Focus))⟩ [⟨(), .redraw, ()⟩]
    hevents rfl (by simp [Online, MainCall.online])
  obtain ⟨rfl, -⟩ := List.cons.inj hpost
  cases hattempt

end XousSignalClient.SigChat
