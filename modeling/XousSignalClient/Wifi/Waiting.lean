import Mathlib.Logic.Function.Basic
import Mathlib.Order.Nat
import XousSignalClient.Wifi.Observer

namespace XousSignalClient

inductive WaitError where
  | TimedOut (text : String)
  deriving DecidableEq

def timed_out : WaitError := .TimedOut "wait_for_connection timed out"

structure WaitCall where
  began : ℕ
  timeout : ℕ
  deriving DecidableEq

inductive Waiting where
  | entered
  | unconnected
  | locking (deadline : ℕ)
  | testing (deadline : ℕ)
  | timing (deadline : ℕ)
  | waiting (deadline remaining : ℕ)
  | asleep (deadline wakes : ℕ)
  | woken (deadline : ℕ) (timedOut : Bool)
  | rechecking (deadline : ℕ) (timedOut : Bool)
  deriving DecidableEq

inductive Updating where
  | computed (new : WifiState)
  | stored
  | locked
  | notified
  deriving DecidableEq

inductive Activity where
  | idle
  | waits (call : WaitCall) (w : Waiting)
  | returned (call : WaitCall) (result : Except WaitError Unit)
  | updates (u : Updating)

/-- The threads that share an observer: its state, the clock, who holds the mutex of `waiter`, and what each thread
is doing. -/
structure WifiThreads (ι : Type) where
  state : WifiState
  now : ℕ
  holder : Option ι
  threads : ι → Activity

inductive WaitAct (ι : Type) where
  | tick
  | wait_for_connection (i : ι) (timeout : ℕ)
  | update_state (i : ι) (link_state : LinkState)
  | go (i : ι)
  | spurious (i : ι)

def Activity.notify : Activity → Activity
  | .waits call (.asleep deadline _) => .waits call (.woken deadline false)
  | a => a

def Activity.free : Activity → Bool
  | .idle => true
  | .returned _ _ => true
  | _ => false

namespace WifiThreads

variable {ι : Type} [DecidableEq ι]

def created (start : WifiState) (now : ℕ) : WifiThreads ι := ⟨start, now, none, fun _ => .idle⟩

def set (s : WifiThreads ι) (i : ι) (a : Activity) : WifiThreads ι :=
  { s with threads := Function.update s.threads i a }

def lock (s : WifiThreads ι) (i : ι) (a : Activity) : Option (WifiThreads ι) :=
  if s.holder.isNone then some { s.set i a with holder := some i } else none

def unlock (s : WifiThreads ι) (i : ι) (a : Activity) : WifiThreads ι := { s.set i a with holder := none }

def wait (s : WifiThreads ι) (i : ι) (call : WaitCall) : Waiting → Option (WifiThreads ι)
  | .entered =>
    if s.state.is_connected then some (s.set i (.returned call (.ok ())))
    else some (s.set i (.waits call .unconnected))
  | .unconnected => some (s.set i (.waits call (.locking (s.now + call.timeout))))
  | .locking deadline => s.lock i (.waits call (.testing deadline))
  | .testing deadline =>
    if s.state.is_connected then some (s.unlock i (.returned call (.ok ())))
    else some (s.set i (.waits call (.timing deadline)))
  | .timing deadline =>
    if s.now < deadline then some (s.set i (.waits call (.waiting deadline (deadline - s.now))))
    else some (s.unlock i (.returned call (.error timed_out)))
  | .waiting deadline remaining => some (s.unlock i (.waits call (.asleep deadline (s.now + remaining))))
  | .asleep deadline wakes =>
    if wakes ≤ s.now then some (s.set i (.waits call (.woken deadline true))) else none
  | .woken deadline timedOut => s.lock i (.waits call (.rechecking deadline timedOut))
  | .rechecking deadline timedOut =>
    if timedOut && !s.state.is_connected then some (s.unlock i (.returned call (.error timed_out)))
    else some (s.set i (.waits call (.testing deadline)))

def update (s : WifiThreads ι) (i : ι) : Updating → Option (WifiThreads ι)
  | .computed new =>
    if new.last_change < s.state.last_change then some (s.set i .idle)
    else some { s.set i (.updates .stored) with state := new }
  | .stored => s.lock i (.updates .locked)
  | .locked => some ({ s with threads := fun j => (s.threads j).notify }.set i (.updates .notified))
  | .notified => some (s.unlock i .idle)

def go (s : WifiThreads ι) (i : ι) : Option (WifiThreads ι) :=
  match s.threads i with
  | .waits call w => s.wait i call w
  | .updates u => s.update i u
  | _ => none

def step (s : WifiThreads ι) : WaitAct ι → Option (WifiThreads ι)
  | .tick => some { s with now := s.now + 1 }
  | .wait_for_connection i timeout =>
    if (s.threads i).free then some (s.set i (.waits ⟨s.now, timeout⟩ .entered)) else none
  | .update_state i link_state =>
    if (s.threads i).free then some (s.set i (.updates (.computed ⟨link_state, s.now⟩))) else none
  | .go i => s.go i
  | .spurious i =>
    match s.threads i with
    | .waits call (.asleep deadline _) => some (s.set i (.waits call (.woken deadline false)))
    | _ => none

def run (s : WifiThreads ι) : List (WaitAct ι) → Option (WifiThreads ι)
  | [] => some s
  | a :: acts => (s.step a).bind (fun s' => s'.run acts)

end WifiThreads

def Activity.holds : Activity → Bool
  | .waits _ (.testing _) => true
  | .waits _ (.timing _) => true
  | .waits _ (.waiting _ _) => true
  | .waits _ (.rechecking _ _) => true
  | .updates .locked => true
  | .updates .notified => true
  | _ => false

def Activity.unaware : Activity → Bool
  | .waits _ (.timing _) => true
  | .waits _ (.waiting _ _) => true
  | .waits _ (.asleep _ _) => true
  | _ => false

def Activity.announces : Activity → Bool
  | .updates .stored => true
  | .updates .locked => true
  | _ => false

def WaitCall.ends (call : WaitCall) : ℕ := call.began + call.timeout

def Waiting.InTime (call : WaitCall) (now : ℕ) : Waiting → Prop
  | .entered => call.began ≤ now
  | .unconnected => call.began ≤ now
  | .locking deadline => call.ends ≤ deadline
  | .testing deadline => call.ends ≤ deadline
  | .timing deadline => call.ends ≤ deadline
  | .waiting deadline remaining => call.ends ≤ deadline ∧ deadline ≤ now + remaining
  | .asleep deadline wakes => call.ends ≤ deadline ∧ deadline ≤ wakes
  | .woken deadline timedOut => call.ends ≤ deadline ∧ (timedOut = true → deadline ≤ now)
  | .rechecking deadline timedOut => call.ends ≤ deadline ∧ (timedOut = true → deadline ≤ now)

def Activity.InTime (now : ℕ) : Activity → Prop
  | .waits call w => w.InTime call now
  | .returned call (.error e) => e = timed_out ∧ call.ends ≤ now
  | _ => True

namespace WifiThreads

variable {ι : Type} [DecidableEq ι] {s s' : WifiThreads ι} {i : ι} {a : Activity}

structure Sound (s : WifiThreads ι) : Prop where
  holder : ∀ i, s.holder = some i ↔ (s.threads i).holds = true
  announced : s.state.is_connected = true → ∀ i, (s.threads i).unaware = true →
    ∃ j, (s.threads j).announces = true
  inTime : ∀ i, (s.threads i).InTime s.now

omit [DecidableEq ι] in
theorem sound_created (start : WifiState) (now : ℕ) : Sound (created start now : WifiThreads ι) where
  holder := fun i => by simp [created, Activity.holds]
  announced := by
    intro _ i h
    cases h
  inTime := fun _ => trivial

def Heeds (s : WifiThreads ι) (state : WifiState) (i : ι) (a : Activity) : Prop :=
  a.announces = true ∨ (state = s.state ∧ (s.threads i).announces = false ∧
    (s.state.is_connected = true → a.unaware = true → (s.threads i).unaware = true))

theorem Sound.move (hs : Sound s) {state : WifiState} {holder : Option ι}
    (hself : holder = some i ↔ a.holds = true) (hothers : ∀ j, j ≠ i → (holder = some j ↔ s.holder = some j))
    (hheeds : s.Heeds state i a) (htime : a.InTime s.now) :
    Sound ⟨state, s.now, holder, Function.update s.threads i a⟩ where
  holder := by
    apply (Function.forall_update_iff s.threads (fun j b => holder = some j ↔ b.holds = true)).mpr
    exact ⟨hself, fun j hj => (hothers j hj).trans (hs.holder j)⟩
  announced := by
    intro hup j hunaware
    dsimp only at hup hunaware ⊢
    rcases hheeds with hann | ⟨rfl, hquiet, hsame⟩
    · refine ⟨i, ?_⟩
      rw [Function.update_self]
      exact hann
    · have hbefore : (s.threads j).unaware = true := by
        by_cases hj : j = i
        · subst hj
          rw [Function.update_self] at hunaware
          exact hsame hup hunaware
        · rwa [Function.update_of_ne hj] at hunaware
      obtain ⟨k, hk⟩ := hs.announced hup j hbefore
      refine ⟨k, ?_⟩
      have hne : k ≠ i := by
        rintro rfl
        rw [hquiet] at hk
        cases hk
      rwa [Function.update_of_ne hne]
  inTime := by
    apply (Function.forall_update_iff s.threads (fun _ b => b.InTime s.now)).mpr
    exact ⟨htime, fun j _ => hs.inTime j⟩

theorem Sound.set (hs : Sound s) (hholds : a.holds = (s.threads i).holds) (hheeds : s.Heeds s.state i a)
    (htime : a.InTime s.now) : Sound (s.set i a) :=
  hs.move ((hs.holder i).trans (by rw [hholds])) (fun _ _ => Iff.rfl) hheeds htime

theorem Sound.lock (hs : Sound s) (hlock : s.lock i a = some s') (hholds : a.holds = true)
    (hheeds : s.Heeds s.state i a) (htime : a.InTime s.now) : Sound s' := by
  unfold WifiThreads.lock at hlock
  split_ifs at hlock with hfree
  cases hlock
  apply hs.move (iff_of_true rfl hholds) _ hheeds htime
  intro j hj
  simp [Option.isNone_iff_eq_none.mp hfree, hj.symm]

theorem Sound.unlock (hs : Sound s) (hheld : (s.threads i).holds = true) (hholds : a.holds = false)
    (hheeds : s.Heeds s.state i a) (htime : a.InTime s.now) : Sound (s.unlock i a) := by
  apply hs.move _ _ hheeds htime
  · simp [hholds]
  · intro j hj
    simp [(hs.holder i).mpr hheld, hj.symm]

theorem Sound.wait {call : WaitCall} {w : Waiting} (hs : Sound s) (hi : s.threads i = .waits call w)
    (hstep : s.wait i call w = some s') : Sound s' := by
  have htime : w.InTime call s.now := by
    have h := hs.inTime i
    rwa [hi] at h
  have hquiet : (s.threads i).announces = false := by rw [hi]; rfl
  have heeds : ∀ {b : Activity}, b.unaware = false → s.Heeds s.state i b :=
    fun hb => .inr ⟨rfl, hquiet, fun _ h => by rw [hb] at h; cases h⟩
  have stays : ∀ {b : Activity}, (s.threads i).unaware = true → s.Heeds s.state i b :=
    fun h => .inr ⟨rfl, hquiet, fun _ _ => h⟩
  cases w with
  | entered =>
    simp only [WifiThreads.wait] at hstep
    split_ifs at hstep <;> cases hstep
    · exact hs.set (by rw [hi]; rfl) (heeds rfl) trivial
    · exact hs.set (by rw [hi]; rfl) (heeds rfl) htime
  | unconnected =>
    cases hstep
    exact hs.set (by rw [hi]; rfl) (heeds rfl) (Nat.add_le_add_right htime call.timeout)
  | locking deadline => exact hs.lock hstep rfl (heeds rfl) htime
  | testing deadline =>
    simp only [WifiThreads.wait] at hstep
    split_ifs at hstep with hup <;> cases hstep
    · exact hs.unlock (by rw [hi]; rfl) rfl (heeds rfl) trivial
    · exact hs.set (by rw [hi]; rfl) (.inr ⟨rfl, hquiet, fun h => absurd h hup⟩) htime
  | timing deadline =>
    simp only [WifiThreads.wait] at hstep
    split_ifs at hstep with hbefore <;> cases hstep
    · exact hs.set (by rw [hi]; rfl) (stays (by rw [hi]; rfl)) ⟨htime, by omega⟩
    · exact hs.unlock (by rw [hi]; rfl) rfl (heeds rfl) ⟨rfl, htime.trans (not_lt.mp hbefore)⟩
  | waiting deadline remaining =>
    cases hstep
    exact hs.unlock (by rw [hi]; rfl) rfl (stays (by rw [hi]; rfl)) htime
  | asleep deadline wakes =>
    simp only [WifiThreads.wait] at hstep
    split_ifs at hstep with hlate
    cases hstep
    exact hs.set (by rw [hi]; rfl) (heeds rfl) ⟨htime.1, fun _ => htime.2.trans hlate⟩
  | woken deadline timedOut => exact hs.lock hstep rfl (heeds rfl) htime
  | rechecking deadline timedOut =>
    simp only [WifiThreads.wait] at hstep
    split_ifs at hstep with hout <;> cases hstep
    · have hlate : timedOut = true := (Bool.and_eq_true_iff.mp hout).1
      exact hs.unlock (by rw [hi]; rfl) rfl (heeds rfl) ⟨rfl, htime.1.trans (htime.2 hlate)⟩
    · exact hs.set (by rw [hi]; rfl) (heeds rfl) htime.1

theorem holds_notify (b : Activity) : b.notify.holds = b.holds := by
  unfold Activity.notify
  split <;> rfl

theorem inTime_notify {b : Activity} {now : ℕ} (h : b.InTime now) : b.notify.InTime now := by
  unfold Activity.notify
  split
  · exact ⟨h.1, fun h' => by cases h'⟩
  · exact h

theorem holds_of_unaware_notify {b : Activity} (h : b.notify.unaware = true) : b.holds = true := by
  cases b with
  | waits call w =>
    cases w with
    | timing deadline => rfl
    | waiting deadline remaining => rfl
    | _ => cases h
  | _ => cases h

theorem Sound.notify (hs : Sound s) (hi : s.threads i = .updates .locked) :
    Sound ({ s with threads := fun j => (s.threads j).notify }.set i (.updates .notified)) where
  holder := by
    apply (Function.forall_update_iff (fun j => (s.threads j).notify)
      (fun j b => s.holder = some j ↔ b.holds = true)).mpr
    refine ⟨iff_of_true ((hs.holder i).mpr (by rw [hi]; rfl)) rfl, ?_⟩
    intro j _
    rw [holds_notify]
    exact hs.holder j
  announced := by
    have haware : ∀ j, (Function.update (fun j => (s.threads j).notify) i (.updates .notified) j).unaware ≠ true := by
      apply (Function.forall_update_iff (fun j => (s.threads j).notify) (fun _ b => b.unaware ≠ true)).mpr
      refine ⟨nofun, ?_⟩
      intro j hj hunaware
      have hholds := (hs.holder j).mpr (holds_of_unaware_notify hunaware)
      rw [(hs.holder i).mpr (by rw [hi]; rfl)] at hholds
      exact hj (Option.some.inj hholds).symm
    exact fun _ j hunaware => absurd hunaware (haware j)
  inTime := by
    apply (Function.forall_update_iff (fun j => (s.threads j).notify) (fun _ b => b.InTime s.now)).mpr
    exact ⟨trivial, fun j _ => inTime_notify (hs.inTime j)⟩

theorem Sound.update {u : Updating} (hs : Sound s) (hi : s.threads i = .updates u)
    (hstep : s.update i u = some s') : Sound s' := by
  cases u with
  | computed new =>
    simp only [WifiThreads.update] at hstep
    split_ifs at hstep <;> cases hstep
    · exact hs.set (by rw [hi]; rfl) (.inr ⟨rfl, by rw [hi]; rfl, nofun⟩) trivial
    · exact hs.move ((hs.holder i).trans (by rw [hi]; rfl)) (fun _ _ => Iff.rfl) (.inl rfl) trivial
  | stored => exact hs.lock hstep rfl (.inl rfl) trivial
  | locked =>
    cases hstep
    exact hs.notify hi
  | notified =>
    cases hstep
    exact hs.unlock (by rw [hi]; rfl) rfl (.inr ⟨rfl, by rw [hi]; rfl, nofun⟩) trivial

theorem inTime_tick {b : Activity} {now : ℕ} (h : b.InTime now) : b.InTime (now + 1) := by
  cases b with
  | waits call w =>
    cases w with
    | entered => exact Nat.le_succ_of_le h
    | unconnected => exact Nat.le_succ_of_le h
    | waiting deadline remaining => exact ⟨h.1, h.2.trans (by omega)⟩
    | woken deadline timedOut => exact ⟨h.1, fun hout => Nat.le_succ_of_le (h.2 hout)⟩
    | rechecking deadline timedOut => exact ⟨h.1, fun hout => Nat.le_succ_of_le (h.2 hout)⟩
    | _ => exact h
  | returned call result =>
    cases result with
    | error e => exact ⟨h.1, Nat.le_succ_of_le h.2⟩
    | ok _ => trivial
  | _ => trivial

theorem Sound.step (hs : Sound s) {act : WaitAct ι} (hstep : s.step act = some s') : Sound s' := by
  have quiet : ∀ {i}, (s.threads i).free = true → (s.threads i).holds = false ∧ (s.threads i).announces = false := by
    intro i hfree
    cases hi : s.threads i with
    | waits call w => rw [hi] at hfree; cases hfree
    | updates u => rw [hi] at hfree; cases hfree
    | _ => exact ⟨rfl, rfl⟩
  cases act with
  | tick =>
    cases hstep
    exact ⟨hs.holder, hs.announced, fun i => inTime_tick (hs.inTime i)⟩
  | wait_for_connection i timeout =>
    simp only [WifiThreads.step] at hstep
    split_ifs at hstep with hfree
    cases hstep
    obtain ⟨hholds, hquiet⟩ := quiet hfree
    exact hs.set hholds.symm (.inr ⟨rfl, hquiet, nofun⟩) (le_refl s.now)
  | update_state i link_state =>
    simp only [WifiThreads.step] at hstep
    split_ifs at hstep with hfree
    cases hstep
    obtain ⟨hholds, hquiet⟩ := quiet hfree
    exact hs.set hholds.symm (.inr ⟨rfl, hquiet, nofun⟩) trivial
  | go i =>
    simp only [WifiThreads.step, WifiThreads.go] at hstep
    split at hstep
    · exact hs.wait (by assumption) hstep
    · exact hs.update (by assumption) hstep
    · cases hstep
  | spurious i =>
    simp only [WifiThreads.step] at hstep
    split at hstep
    · rename_i call deadline wakes hi
      cases hstep
      have htime : Activity.InTime s.now (.waits call (.asleep deadline wakes)) := hi ▸ hs.inTime i
      exact hs.set (by rw [hi]; rfl) (.inr ⟨rfl, by rw [hi]; rfl, nofun⟩) ⟨htime.1, nofun⟩
    · cases hstep

theorem Sound.run (hs : Sound s) {acts : List (WaitAct ι)} (hrun : s.run acts = some s') : Sound s' := by
  induction acts generalizing s with
  | nil =>
    cases hrun
    exact hs
  | cons act acts ih =>
    obtain ⟨t, hstep, hrest⟩ := Option.bind_eq_some_iff.mp hrun
    exact ih (hs.step hstep) hrest

section Answers

def Answers (s s' : WifiThreads ι) (i : ι) (b : Activity) : Prop :=
  (s'.threads = Function.update s.threads i b ∨ s'.threads = Function.update (fun j => (s.threads j).notify) i b) ∧
    ∀ call, b = .returned call (.ok ()) → s.state.is_connected = true

theorem answers_lock {b : Activity} (hlock : s.lock i b = some s') (hb : ∀ call, b ≠ .returned call (.ok ())) :
    Answers s s' i b := by
  unfold lock at hlock
  split_ifs at hlock
  cases hlock
  exact ⟨.inl rfl, fun call h => absurd h (hb call)⟩

theorem answers_wait {call : WaitCall} {w : Waiting} (hstep : s.wait i call w = some s') :
    ∃ b, Answers s s' i b := by
  cases w with
  | entered =>
    simp only [wait] at hstep
    split_ifs at hstep with hup <;> cases hstep
    · exact ⟨_, .inl rfl, fun _ _ => hup⟩
    · exact ⟨_, .inl rfl, nofun⟩
  | unconnected =>
    cases hstep
    exact ⟨_, .inl rfl, nofun⟩
  | locking deadline => exact ⟨_, answers_lock hstep nofun⟩
  | testing deadline =>
    simp only [wait] at hstep
    split_ifs at hstep with hup <;> cases hstep
    · exact ⟨_, .inl rfl, fun _ _ => hup⟩
    · exact ⟨_, .inl rfl, nofun⟩
  | timing deadline =>
    simp only [wait] at hstep
    split_ifs at hstep <;> cases hstep
    · exact ⟨_, .inl rfl, nofun⟩
    · exact ⟨_, .inl rfl, nofun⟩
  | waiting deadline remaining =>
    cases hstep
    exact ⟨_, .inl rfl, nofun⟩
  | asleep deadline wakes =>
    simp only [wait] at hstep
    split_ifs at hstep
    cases hstep
    exact ⟨_, .inl rfl, nofun⟩
  | woken deadline timedOut => exact ⟨_, answers_lock hstep nofun⟩
  | rechecking deadline timedOut =>
    simp only [wait] at hstep
    split_ifs at hstep <;> cases hstep
    · exact ⟨_, .inl rfl, nofun⟩
    · exact ⟨_, .inl rfl, nofun⟩

theorem answers_update {u : Updating} (hstep : s.update i u = some s') : ∃ b, Answers s s' i b := by
  cases u with
  | computed new =>
    simp only [update] at hstep
    split_ifs at hstep <;> cases hstep
    · exact ⟨_, .inl rfl, nofun⟩
    · exact ⟨_, .inl rfl, nofun⟩
  | stored => exact ⟨_, answers_lock hstep nofun⟩
  | locked =>
    cases hstep
    exact ⟨_, .inr rfl, nofun⟩
  | notified =>
    cases hstep
    exact ⟨_, .inl rfl, nofun⟩

theorem answers_step {act : WaitAct ι} (hstep : s.step act = some s') :
    s'.threads = s.threads ∨ ∃ i b, Answers s s' i b := by
  cases act with
  | tick =>
    cases hstep
    exact .inl rfl
  | wait_for_connection i timeout =>
    simp only [step] at hstep
    split_ifs at hstep
    cases hstep
    exact .inr ⟨i, _, .inl rfl, nofun⟩
  | update_state i link_state =>
    simp only [step] at hstep
    split_ifs at hstep
    cases hstep
    exact .inr ⟨i, _, .inl rfl, nofun⟩
  | go i =>
    simp only [step, go] at hstep
    split at hstep
    · exact .inr ⟨i, answers_wait hstep⟩
    · exact .inr ⟨i, answers_update hstep⟩
    · cases hstep
  | spurious i =>
    simp only [step] at hstep
    split at hstep
    · cases hstep
      exact .inr ⟨i, _, .inl rfl, nofun⟩
    · cases hstep

theorem returned_of_notify {b : Activity} {call : WaitCall} {r : Except WaitError Unit}
    (h : b.notify = .returned call r) : b = .returned call r := by
  unfold Activity.notify at h
  split at h
  · cases h
  · exact h

/-- In every run, a call succeeds in a step in which the link is up, and fails only once its time is over. -/
theorem wait_for_connection_answers {start : WifiState} {now : ℕ} {before : List (WaitAct ι)} {act : WaitAct ι}
    (hbefore : (created start now).run before = some s) (hstep : s.step act = some s') {call : WaitCall}
    {r : Except WaitError Unit} (hnew : s.threads i ≠ .returned call r) (hret : s'.threads i = .returned call r) :
    (r = .ok () ∧ s.state.is_connected = true) ∨
      (r = .error timed_out ∧ call.began + call.timeout ≤ s'.now) := by
  have hsound : s'.Sound := ((sound_created start now).run hbefore).step hstep
  have htime := hsound.inTime i
  rw [hret] at htime
  cases r with
  | error e => exact .inr ⟨congrArg Except.error htime.1, htime.2⟩
  | ok _ =>
    refine .inl ⟨rfl, ?_⟩
    rcases answers_step hstep with hsame | ⟨j, b, hthreads, hup⟩
    · exact absurd (hsame ▸ hret) hnew
    · by_cases hj : i = j
      · subst hj
        have hb : b = .returned call (.ok ()) := by
          rcases hthreads with h | h <;> rw [h, Function.update_self] at hret
          · exact hret
          · exact hret
        exact hup call hb
      · rcases hthreads with h | h <;> rw [h, Function.update_of_ne hj] at hret
        · exact absurd hret hnew
        · exact absurd (returned_of_notify hret) hnew

def patient : List (WaitAct Bool) :=
  [.wait_for_connection false 2, .go false, .go false, .go false, .go false, .go false, .go false, .tick, .tick,
    .go false, .go false]

def overdue : WifiThreads Bool := ((created ⟨.Unknown, 0⟩ 0).run patient).get (by decide)

theorem run_patient : (created ⟨.Unknown, 0⟩ 0).run patient = some overdue := (Option.some_get _).symm

def refused : WifiThreads Bool := (overdue.step (.go false)).get (by decide)

theorem step_overdue : overdue.step (.go false) = some refused := (Option.some_get _).symm

theorem overdue_refused : ∃ r, refused.threads false = .returned ⟨0, 2⟩ r ∧
    ((r = .ok () ∧ overdue.state.is_connected = true) ∨ (r = .error timed_out ∧ 0 + 2 ≤ refused.now)) := by
  refine ⟨.error timed_out, rfl, ?_⟩
  have hwaits : overdue.threads false = .waits ⟨0, 2⟩ (.rechecking 2 true) := rfl
  have hnew : overdue.threads false ≠ .returned ⟨0, 2⟩ (.error timed_out) := by
    rw [hwaits]
    exact fun h => by cases h
  exact wait_for_connection_answers run_patient step_overdue hnew rfl

end Answers

end WifiThreads

end XousSignalClient
