import XousSignalClient.Wifi.Waiting

namespace XousSignalClient

section Progress

def Activity.rank : Activity → ℕ
  | .waits _ .entered => 4
  | .waits _ .unconnected => 3
  | .waits _ (.locking _) => 2
  | .waits _ (.testing _) => 1
  | .waits _ (.timing _) => 6
  | .waits _ (.waiting _ _) => 5
  | .waits _ (.asleep _ _) => 4
  | .waits _ (.woken _ _) => 3
  | .waits _ (.rechecking _ _) => 2
  | .updates .stored => 3
  | .updates .locked => 2
  | .updates .notified => 1
  | _ => 0

def Activity.Hopeful (call : WaitCall) : Activity → Prop
  | .waits _ (.timing _) => False
  | .waits c _ => c = call
  | .returned c r => c = call ∧ r = .ok ()
  | _ => False

def Activity.isReport : Activity → Bool
  | .updates (.computed _) => true
  | _ => false

theorem rank_le (b : Activity) : b.rank ≤ 6 := by
  unfold Activity.rank
  split <;> decide

theorem rank_notify (b : Activity) : b.notify.rank ≤ b.rank := by
  unfold Activity.notify
  split
  · exact Nat.le_succ 3
  · exact le_refl _

theorem hopeful_notify {call : WaitCall} {b : Activity} (h : b.Hopeful call) : b.notify.Hopeful call := by
  unfold Activity.notify
  split
  · exact h
  · exact h

theorem isReport_notify (b : Activity) : b.notify.isReport = b.isReport := by
  unfold Activity.notify
  split <;> rfl

end Progress

namespace WifiThreads

variable {ι : Type} [DecidableEq ι] {s s' : WifiThreads ι} {i : ι}

structure Up (s : WifiThreads ι) : Prop where
  connected : s.state.is_connected = true
  quiet : ∀ i, (s.threads i).isReport = false

structure Moved (s s' : WifiThreads ι) (i : ι) (b : Activity) : Prop where
  state : s'.state = s.state
  threads : s'.threads = Function.update s.threads i b ∨
    s'.threads = Function.update (fun j => (s.threads j).notify) i b
  rank : b.rank < (s.threads i).rank
  hopeful : ∀ call, (s.threads i).Hopeful call → b.Hopeful call
  quiet : b.isReport = false

theorem moved_set {b : Activity} (hrank : b.rank < (s.threads i).rank)
    (hhopeful : ∀ call, (s.threads i).Hopeful call → b.Hopeful call) (hquiet : b.isReport = false) :
    Moved s (s.set i b) i b := ⟨rfl, .inl rfl, hrank, hhopeful, hquiet⟩

theorem moved_unlock {b : Activity} (hrank : b.rank < (s.threads i).rank)
    (hhopeful : ∀ call, (s.threads i).Hopeful call → b.Hopeful call) (hquiet : b.isReport = false) :
    Moved s (s.unlock i b) i b := ⟨rfl, .inl rfl, hrank, hhopeful, hquiet⟩

theorem moved_lock {b : Activity} (hlock : s.lock i b = some s') (hrank : b.rank < (s.threads i).rank)
    (hhopeful : ∀ call, (s.threads i).Hopeful call → b.Hopeful call) (hquiet : b.isReport = false) :
    Moved s s' i b := by
  unfold lock at hlock
  split_ifs at hlock
  cases hlock
  exact ⟨rfl, .inl rfl, hrank, hhopeful, hquiet⟩

theorem moved_wait {call : WaitCall} {w : Waiting} (hup : s.state.is_connected = true)
    (hi : s.threads i = .waits call w) (hstep : s.wait i call w = some s') : ∃ b, Moved s s' i b := by
  have same : ∀ {w' : Waiting} (c : WaitCall), (s.threads i).Hopeful c → (∀ d, w' ≠ .timing d) →
      Activity.Hopeful c (.waits call w') := by
    intro w' c hc hw'
    rw [hi] at hc
    have hcall : call = c := by
      cases w with
      | timing d => exact hc.elim
      | _ => exact hc
    cases w' with
    | timing d => exact absurd rfl (hw' d)
    | _ => exact hcall
  have done : ∀ c : WaitCall, (s.threads i).Hopeful c → Activity.Hopeful c (.returned call (.ok ())) := by
    intro c hc
    have hcall : Activity.Hopeful c (.waits call .entered) := same c hc (fun _ h => by cases h)
    exact ⟨hcall, rfl⟩
  cases w with
  | entered =>
    simp only [wait, hup, if_true] at hstep
    cases hstep
    exact ⟨_, moved_set (by simp [hi, Activity.rank]) done rfl⟩
  | unconnected =>
    cases hstep
    exact ⟨_, moved_set (by simp [hi, Activity.rank]) (fun c hc => same c hc fun _ h => by cases h) rfl⟩
  | locking deadline =>
    exact ⟨_, moved_lock hstep (by simp [hi, Activity.rank]) (fun c hc => same c hc fun _ h => by cases h) rfl⟩
  | testing deadline =>
    simp only [wait, hup, if_true] at hstep
    cases hstep
    exact ⟨_, moved_unlock (by simp [hi, Activity.rank]) done rfl⟩
  | timing deadline =>
    have hnot : ∀ c : WaitCall, ¬ (s.threads i).Hopeful c := by
      intro c hc
      rw [hi] at hc
      exact hc
    simp only [wait] at hstep
    split_ifs at hstep <;> cases hstep
    · exact ⟨_, moved_set (by simp [hi, Activity.rank]) (fun c hc => absurd hc (hnot c)) rfl⟩
    · exact ⟨_, moved_unlock (by simp [hi, Activity.rank]) (fun c hc => absurd hc (hnot c)) rfl⟩
  | waiting deadline remaining =>
    cases hstep
    exact ⟨_, moved_unlock (by simp [hi, Activity.rank]) (fun c hc => same c hc fun _ h => by cases h) rfl⟩
  | asleep deadline wakes =>
    simp only [wait] at hstep
    split_ifs at hstep
    cases hstep
    exact ⟨_, moved_set (by simp [hi, Activity.rank]) (fun c hc => same c hc fun _ h => by cases h) rfl⟩
  | woken deadline timedOut =>
    exact ⟨_, moved_lock hstep (by simp [hi, Activity.rank]) (fun c hc => same c hc fun _ h => by cases h) rfl⟩
  | rechecking deadline timedOut =>
    simp only [wait, hup, Bool.not_true, Bool.and_false, Bool.false_eq_true, if_false] at hstep
    cases hstep
    exact ⟨_, moved_set (by simp [hi, Activity.rank]) (fun c hc => same c hc fun _ h => by cases h) rfl⟩

theorem moved_update {u : Updating} (hquiet : (s.threads i).isReport = false) (hi : s.threads i = .updates u)
    (hstep : s.update i u = some s') : ∃ b, Moved s s' i b := by
  have hnot : ∀ c : WaitCall, ¬ (s.threads i).Hopeful c := by
    intro c hc
    rw [hi] at hc
    exact hc
  cases u with
  | computed new =>
    rw [hi] at hquiet
    cases hquiet
  | stored => exact ⟨_, moved_lock hstep (by simp [hi, Activity.rank]) (fun c hc => absurd hc (hnot c)) rfl⟩
  | locked =>
    cases hstep
    exact ⟨_, rfl, .inr rfl, by simp [hi, Activity.rank], fun c hc => absurd hc (hnot c), rfl⟩
  | notified =>
    cases hstep
    exact ⟨_, moved_unlock (by simp [hi, Activity.rank]) (fun c hc => absurd hc (hnot c)) rfl⟩

theorem moved_go (hup : s.Up) (hstep : s.go i = some s') : ∃ b, Moved s s' i b := by
  unfold go at hstep
  split at hstep
  · exact moved_wait hup.connected (by assumption) hstep
  · exact moved_update (hup.quiet i) (by assumption) hstep
  · cases hstep

theorem go_of_holds (hholds : (s.threads i).holds = true) : (s.go i).isSome = true := by
  unfold go
  cases hi : s.threads i with
  | waits call w =>
    rw [hi] at hholds
    cases w with
    | testing deadline =>
      simp only [wait]
      split_ifs <;> rfl
    | timing deadline =>
      simp only [wait]
      split_ifs <;> rfl
    | waiting deadline remaining => rfl
    | rechecking deadline timedOut =>
      simp only [wait]
      split_ifs <;> rfl
    | _ => cases hholds
  | updates u =>
    rw [hi] at hholds
    cases u with
    | locked => rfl
    | notified => rfl
    | _ => cases hholds
  | _ =>
    rw [hi] at hholds
    cases hholds

theorem lock_of_free {b : Activity} (hfree : s.holder = none) : (s.lock i b).isSome = true := by
  unfold lock
  rw [hfree]
  rfl

theorem go_of_announces (hfree : s.holder = none) (hann : (s.threads i).announces = true) :
    (s.go i).isSome = true := by
  unfold go
  cases hi : s.threads i with
  | updates u =>
    rw [hi] at hann
    cases u with
    | stored => exact lock_of_free hfree
    | locked => rfl
    | _ => cases hann
  | _ =>
    rw [hi] at hann
    cases hann

theorem go_of_waits (hfree : s.holder = none) {call : WaitCall} {w : Waiting} (hi : s.threads i = .waits call w) :
    (s.go i).isSome = true ∨ (s.threads i).unaware = true := by
  unfold go
  rw [hi]
  cases w with
  | entered =>
    left
    simp only [wait]
    split_ifs <;> rfl
  | unconnected => exact .inl rfl
  | locking deadline => exact .inl (lock_of_free hfree)
  | testing deadline =>
    left
    simp only [wait]
    split_ifs <;> rfl
  | woken deadline timedOut => exact .inl (lock_of_free hfree)
  | rechecking deadline timedOut =>
    left
    simp only [wait]
    split_ifs <;> rfl
  | _ => exact .inr rfl

theorem Sound.rest (hs : Sound s) (hup : s.Up) (hstuck : ∀ i, s.go i = none) {call : WaitCall} :
    (s.threads i).Hopeful call → s.threads i = .returned call (.ok ()) := by
  have stuck : ∀ j, (s.go j).isSome ≠ true := by
    intro j hj
    rw [hstuck j] at hj
    cases hj
  have hfree : s.holder = none := by
    rw [Option.eq_none_iff_forall_not_mem]
    intro j hj
    exact stuck j (go_of_holds ((hs.holder j).mp hj))
  intro hhopeful
  cases hi : s.threads i with
  | waits c w =>
    rcases go_of_waits hfree hi with hgo | hunaware
    · exact absurd hgo (stuck i)
    · obtain ⟨j, hj⟩ := hs.announced hup.connected i hunaware
      exact absurd (go_of_announces hfree hj) (stuck j)
  | returned c r =>
    rw [hi] at hhopeful
    obtain ⟨rfl, rfl⟩ := hhopeful
    rfl
  | _ =>
    rw [hi] at hhopeful
    exact hhopeful.elim

def Undisturbed : WaitAct ι → Prop
  | .wait_for_connection _ _ => False
  | .update_state _ _ => False
  | _ => True

def actor : WaitAct ι → Option ι
  | .tick => none
  | .wait_for_connection i _ => some i
  | .update_state i _ => some i
  | .go i => some i
  | .spurious i => some i

theorem rank_of_moved {b : Activity} (h : Moved s s' i b) (j : ι) :
    (s'.threads j).rank + (if some i = some j then 1 else 0) ≤ (s.threads j).rank := by
  by_cases hj : i = j
  · subst hj
    have hlast : s'.threads i = b := by
      rcases h.threads with hthreads | hthreads <;> rw [hthreads, Function.update_self]
    rw [if_pos rfl, hlast]
    exact h.rank
  · rw [if_neg (fun h => hj (Option.some.inj h)), Nat.add_zero]
    rcases h.threads with hthreads | hthreads <;> rw [hthreads, Function.update_of_ne (Ne.symm hj)]
    exact rank_notify _

theorem up_of_moved {b : Activity} (hup : s.Up) (h : Moved s s' i b) : s'.Up where
  connected := h.state ▸ hup.connected
  quiet := by
    rcases h.threads with hthreads | hthreads <;> rw [hthreads]
    · exact (Function.forall_update_iff s.threads (fun _ c => c.isReport = false)).mpr
        ⟨h.quiet, fun j _ => hup.quiet j⟩
    · exact (Function.forall_update_iff (fun j => (s.threads j).notify) (fun _ c => c.isReport = false)).mpr
        ⟨h.quiet, fun j _ => (isReport_notify _).trans (hup.quiet j)⟩

theorem hopeful_of_moved {b : Activity} (h : Moved s s' i b) (j : ι) {call : WaitCall}
    (hj : (s.threads j).Hopeful call) : (s'.threads j).Hopeful call := by
  by_cases hne : j = i
  · subst hne
    rcases h.threads with hthreads | hthreads <;> rw [hthreads, Function.update_self]
    · exact h.hopeful call hj
    · exact h.hopeful call hj
  · rcases h.threads with hthreads | hthreads <;> rw [hthreads, Function.update_of_ne hne]
    · exact hj
    · exact hopeful_notify hj

theorem step_up {act : WaitAct ι} (hup : s.Up) (hact : Undisturbed act) (hstep : s.step act = some s') :
    s'.Up ∧ (∀ j call, (s.threads j).Hopeful call → (s'.threads j).Hopeful call) ∧
      ∀ j, (s'.threads j).rank + (if actor act = some j then 1 else 0) ≤ (s.threads j).rank := by
  have hmoved : ∀ {i b}, Moved s s' i b → s'.Up ∧
      (∀ j call, (s.threads j).Hopeful call → (s'.threads j).Hopeful call) ∧
        ∀ j, (s'.threads j).rank + (if some i = some j then 1 else 0) ≤ (s.threads j).rank :=
    fun h => ⟨up_of_moved hup h, fun j _ hj => hopeful_of_moved h j hj, rank_of_moved h⟩
  cases act with
  | tick =>
    cases hstep
    exact ⟨⟨hup.connected, hup.quiet⟩, fun _ _ hj => hj, fun _ => le_refl _⟩
  | wait_for_connection i timeout => exact hact.elim
  | update_state i link_state => exact hact.elim
  | go i =>
    obtain ⟨b, h⟩ := moved_go hup hstep
    exact hmoved h
  | spurious i =>
    simp only [step] at hstep
    split at hstep
    · rename_i call deadline wakes hi
      cases hstep
      refine hmoved (moved_set (by simp [hi, Activity.rank]) ?_ rfl)
      intro c hc
      rw [hi] at hc
      exact hc
    · cases hstep

theorem run_up {acts : List (WaitAct ι)} (hup : s.Up) (hacts : ∀ act ∈ acts, Undisturbed act)
    (hrun : s.run acts = some s') : s'.Up ∧
      (∀ j call, (s.threads j).Hopeful call → (s'.threads j).Hopeful call) ∧
      ∀ j, (s'.threads j).rank + acts.countP (fun act => actor act = some j) ≤ (s.threads j).rank := by
  induction acts generalizing s with
  | nil =>
    cases hrun
    exact ⟨hup, fun _ _ hj => hj, fun _ => le_refl _⟩
  | cons act acts ih =>
    obtain ⟨t, hstep, hrest⟩ := Option.bind_eq_some_iff.mp hrun
    obtain ⟨hup', hhope, hrank⟩ := step_up hup (hacts act List.mem_cons_self) hstep
    obtain ⟨hup'', hhope', hrank'⟩ := ih hup' (fun a ha => hacts a (List.mem_cons_of_mem act ha)) hrest
    refine ⟨hup'', fun j call hj => hhope' j call (hhope j call hj), ?_⟩
    intro j
    have hfirst := hrank j
    have hlater := hrank' j
    simp only [List.countP_cons, decide_eq_true_eq]
    omega

/-- No connection is missed: once the link is up and stays up, each thread needs at most six steps, and when none of
them can go on, every call has returned, but for those that had just found the link down. -/
theorem connection_never_missed {start : WifiState} {now : ℕ} {before acts : List (WaitAct ι)}
    (hbefore : (created start now).run before = some s) (hup : s.Up) (hacts : ∀ act ∈ acts, Undisturbed act)
    (hrun : s.run acts = some s') :
    (∀ i, acts.countP (fun act => actor act = some i) ≤ 6) ∧
      ((∀ i, s'.go i = none) → ∀ i call, (s.threads i).Hopeful call → s'.threads i = .returned call (.ok ())) := by
  have hsound : s'.Sound := ((sound_created start now).run hbefore).run hrun
  obtain ⟨hup', hhope, hrank⟩ := run_up hup hacts hrun
  constructor
  · intro i
    have hleft := hrank i
    have hmost := rank_le (s.threads i)
    omega
  · exact fun hstuck i call hi => hsound.rest hup' hstuck (hhope i call hi)

def sleeping : List (WaitAct Bool) :=
  [.wait_for_connection false 60, .go false, .go false, .go false, .go false, .go false, .go false,
    .update_state true .Connected, .go true]

def waking : List (WaitAct Bool) := [.go true, .go true, .go true, .go false, .go false, .go false]

def asleep : WifiThreads Bool := ((created ⟨.Unknown, 0⟩ 0).run sleeping).get (by decide)

theorem run_sleeping : (created ⟨.Unknown, 0⟩ 0).run sleeping = some asleep := (Option.some_get _).symm

def awake : WifiThreads Bool := (asleep.run waking).get (by decide)

theorem run_waking : asleep.run waking = some awake := (Option.some_get _).symm

theorem sleeper_woken : (∀ i, waking.countP (fun act => actor act = some i) ≤ 6) ∧
    awake.threads false = .returned ⟨0, 60⟩ (.ok ()) := by
  obtain ⟨hcount, hrest⟩ := connection_never_missed run_sleeping ⟨rfl, Bool.forall_bool.mpr ⟨rfl, rfl⟩⟩
    (by simp [waking, Undisturbed]) run_waking
  exact ⟨hcount, hrest (Bool.forall_bool.mpr ⟨rfl, rfl⟩) false ⟨0, 60⟩ rfl⟩

end WifiThreads

end XousSignalClient
