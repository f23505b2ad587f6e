import XousSignalClient.Wifi.Observer

namespace XousSignalClient

def Handling.inHand : Handling → List LinkState
  | .idle => []
  | .stored new => [new.link_state]
  | .notifying new _ => [new.link_state]
  | .flapping new _ _ => [new.link_state]

def Handling.new? : Handling → Option WifiState
  | .idle => none
  | .stored new => some new
  | .notifying new _ => some new
  | .flapping new _ _ => some new

def Handling.rest : Handling → List ℕ
  | .idle => []
  | .stored _ => []
  | .notifying _ rest => rest
  | .flapping _ _ rest => rest

namespace Wifi

def next (w : Wifi) (i : ℕ) : ℕ :=
  match w.worker with
  | .idle => w.handled
  | .stored _ => w.handled
  | .notifying _ rest => if i ∈ rest then w.handled else w.handled + 1
  | .flapping _ _ rest => if i ∈ rest then w.handled else w.handled + 1

structure Consistent (w : Wifi) : Prop where
  flow : w.states.drop (w.handled + 1) = w.worker.inHand ++ w.queue
  started : w.handled < w.states.length
  idle : w.worker = .idle → w.handled = 0 ∨ w.states[w.handled]? = some w.state.link_state
  busy : ∀ new, w.worker.new? = some new → w.state = new
  time : w.state.last_change ≤ w.now
  seed : ∀ last, w.seed = some last → (∀ new, w.worker ≠ .stored new) → last = w.state.link_state
  rest_lt : ∀ i ∈ w.worker.rest, i < w.watchers.length
  rest_nodup : w.worker.rest.Nodup
  ready : ∀ i watcher, w.watchers[i]? = some watcher → w.states[w.next i]? = some .Connected →
    watcher.since ≤ w.next i → watcher.last = .Connected
  noticed : ∀ i watcher, w.watchers[i]? = some watcher → ∀ k, watcher.since ≤ k → k < w.next i → w.Dropped k →
    (i, k) ∈ w.flaps

theorem flow_cons {states queue : List LinkState} {k : ℕ} {x : LinkState} (h : states.drop k = x :: queue) :
    k < states.length ∧ states[k]? = some x ∧ states.drop (k + 1) = queue := by
  have hlen : k < states.length := by
    by_contra hle
    rw [List.drop_eq_nil_of_le (Nat.not_lt.mp hle)] at h
    cases h
  rw [List.drop_eq_getElem_cons hlen] at h
  obtain ⟨hhead, htail⟩ := List.cons.inj h
  exact ⟨hlen, by rw [List.getElem?_eq_getElem hlen, hhead], htail⟩

variable {w w' : Wifi}

theorem Consistent.next_lt (h : Consistent w) (i : ℕ) : w.next i < w.states.length := by
  have hflow := h.flow
  have hstarted := h.started
  unfold next
  cases hworker : w.worker with
  | idle => exact hstarted
  | stored new => exact hstarted
  | notifying new rest =>
    rw [hworker] at hflow
    have hlen := (flow_cons hflow).1
    dsimp only
    split_ifs <;> omega
  | flapping new j rest =>
    rw [hworker] at hflow
    have hlen := (flow_cons hflow).1
    dsimp only
    split_ifs <;> omega

theorem consistent_created (start : LinkState) (now : ℕ) : Consistent (created start now) where
  flow := rfl
  started := Nat.one_pos
  idle := fun _ => .inl rfl
  busy := by
    intro new hnew
    cases hnew
  time := Nat.le_refl now
  seed := by
    intro last hlast
    cases hlast
  rest_lt := by
    intro i hi
    cases hi
  rest_nodup := List.nodup_nil
  ready := by
    intro i watcher hwatcher
    cases hwatcher
  noticed := by
    intro i watcher hwatcher
    cases hwatcher

theorem Consistent.frame (h : Consistent w) (hstates : w'.states = w.states) (hwatchers : w'.watchers = w.watchers)
    (hnext : ∀ i < w.watchers.length, w'.next i = w.next i) (hflaps : w'.flaps = w.flaps)
    (hflow : w'.states.drop (w'.handled + 1) = w'.worker.inHand ++ w'.queue) (hstarted : w'.handled < w'.states.length)
    (hidle : w'.worker = .idle → w'.handled = 0 ∨ w'.states[w'.handled]? = some w'.state.link_state)
    (hbusy : ∀ new, w'.worker.new? = some new → w'.state = new) (htime : w'.state.last_change ≤ w'.now)
    (hseed : ∀ last, w'.seed = some last → (∀ new, w'.worker ≠ .stored new) → last = w'.state.link_state)
    (hrest : ∀ i ∈ w'.worker.rest, i < w'.watchers.length) (hnodup : w'.worker.rest.Nodup) : Consistent w' where
  flow := hflow
  started := hstarted
  idle := hidle
  busy := hbusy
  time := htime
  seed := hseed
  rest_lt := hrest
  rest_nodup := hnodup
  ready := by
    intro i watcher hwatcher hconnected hsince
    rw [hwatchers] at hwatcher
    rw [hnext i (List.getElem?_eq_some_iff.mp hwatcher).1] at hconnected hsince
    rw [hstates] at hconnected
    exact h.ready i watcher hwatcher hconnected hsince
  noticed := by
    intro i watcher hwatcher k hsince hk hdropped
    rw [hwatchers] at hwatcher
    rw [hnext i (List.getElem?_eq_some_iff.mp hwatcher).1] at hk
    rw [Dropped, hstates] at hdropped
    rw [hflaps]
    exact h.noticed i watcher hwatcher k hsince hk hdropped

theorem Consistent.change (h : Consistent w) (x : LinkState) :
    Consistent { w with states := w.states ++ [x], queue := w.queue ++ [x] } := by
  have hstarted := h.started
  have hget : ∀ k < w.states.length, (w.states ++ [x])[k]? = w.states[k]? :=
    fun k hk => List.getElem?_append_left hk
  constructor
  · change (w.states ++ [x]).drop (w.handled + 1) = w.worker.inHand ++ (w.queue ++ [x])
    rw [List.drop_append_of_le_length (by omega), h.flow, List.append_assoc]
  · change w.handled < (w.states ++ [x]).length
    rw [List.length_append]
    omega
  · intro hidle
    change w.handled = 0 ∨ (w.states ++ [x])[w.handled]? = _
    rw [hget _ hstarted]
    exact h.idle hidle
  · exact h.busy
  · exact h.time
  · exact h.seed
  · exact h.rest_lt
  · exact h.rest_nodup
  · intro i watcher hwatcher hconnected hsince
    change (w.states ++ [x])[w.next i]? = _ at hconnected
    rw [hget _ (h.next_lt i)] at hconnected
    exact h.ready i watcher hwatcher hconnected hsince
  · intro i watcher hwatcher k hsince hk hdropped
    have hnext : k < w.next i := hk
    have hlen := h.next_lt i
    obtain ⟨hbefore, y, hafter, hy⟩ := hdropped
    change (w.states ++ [x])[k]? = _ at hbefore
    change (w.states ++ [x])[k + 1]? = _ at hafter
    rw [hget _ (by omega)] at hbefore hafter
    exact h.noticed i watcher hwatcher k hsince hnext ⟨hbefore, y, hafter, hy⟩

theorem Consistent.receive (h : Consistent w) {x : LinkState} {rest : List LinkState} (hworker : w.worker = .idle)
    (hqueue : w.queue = x :: rest) : Consistent (w.store ⟨x, w.now⟩ rest) := by
  have htime := h.time
  rw [store, if_neg (Nat.not_lt.mpr htime)]
  refine h.frame rfl rfl ?_ rfl ?_ h.started ?_ ?_ (Nat.le_refl _) ?_ ?_ List.nodup_nil
  · intro i _
    simp [next, hworker]
  · have hflow := h.flow
    rw [hworker, hqueue] at hflow
    exact hflow
  · intro hidle
    cases hidle
  · intro new hnew
    exact Option.some.inj hnew
  · intro last _ hstored
    exact absurd rfl (hstored _)
  · intro i hi
    cases hi

theorem Consistent.copy (h : Consistent w) {new : WifiState} (hworker : w.worker = .stored new)
    (hseed : ∀ last, w.seed = some last → last = w.state.link_state) :
    Consistent { w with worker := .notifying new (List.range w.watchers.length) } := by
  refine h.frame rfl rfl ?_ rfl ?_ h.started ?_ ?_ h.time ?_ ?_ List.nodup_range
  · intro i hi
    simp [next, hworker, hi]
  · have hflow := h.flow
    rw [hworker] at hflow
    exact hflow
  · intro hidle
    cases hidle
  · intro new' hnew
    obtain rfl := Option.some.inj hnew
    exact h.busy new (by rw [hworker]; rfl)
  · exact fun last hlast _ => hseed last hlast
  · exact fun i hi => List.mem_range.mp hi

theorem Consistent.returned (h : Consistent w) {new : WifiState} {i : ℕ} {rest : List ℕ}
    (hworker : w.worker = .flapping new i rest) : Consistent { w with worker := .notifying new rest } := by
  have hflow := h.flow
  have hrest := h.rest_lt
  have hnodup := h.rest_nodup
  have hseed := h.seed
  rw [hworker] at hflow hrest hnodup
  refine h.frame rfl rfl ?_ rfl hflow h.started ?_ ?_ h.time ?_ hrest hnodup
  · intro j _
    simp [next, hworker]
  · intro hidle
    cases hidle
  · intro new' hnew
    obtain rfl := Option.some.inj hnew
    exact h.busy new (by rw [hworker]; rfl)
  · intro last hlast _
    exact hseed last hlast (by rw [hworker]; simp)

theorem Consistent.finish (h : Consistent w) {new : WifiState} (hworker : w.worker = .notifying new []) :
    Consistent { w with worker := .idle, handled := w.handled + 1 } := by
  have hflow := h.flow
  rw [hworker] at hflow
  obtain ⟨hlen, hget, htail⟩ := flow_cons hflow
  have hstate : w.state = new := h.busy new (by rw [hworker]; rfl)
  refine h.frame rfl rfl ?_ rfl htail hlen ?_ ?_ h.time ?_ ?_ List.nodup_nil
  · intro i _
    simp [next, hworker]
  · intro _
    right
    rw [← hstate] at hget
    exact hget
  · intro new' hnew
    cases hnew
  · intro last hlast _
    exact h.seed last hlast (by rw [hworker]; simp)
  · intro i hi
    cases hi

theorem Consistent.current (h : Consistent w) : Consistent { w with seed := some w.state.link_state } := by
  refine h.frame rfl rfl (fun _ _ => rfl) rfl h.flow h.started h.idle h.busy h.time ?_ h.rest_lt h.rest_nodup
  intro last hlast _
  exact (Option.some.inj hlast).symm

theorem Consistent.tick (h : Consistent w) : Consistent { w with now := w.now + 1 } :=
  h.frame rfl rfl (fun _ _ => rfl) rfl h.flow h.started h.idle h.busy (Nat.le_succ_of_le h.time) h.seed h.rest_lt
    h.rest_nodup

def tell (w : Wifi) (i : ℕ) (watcher : Watcher) (new : WifiState) (worker : Handling) (flaps : List (ℕ × ℕ)) : Wifi :=
  { w with
    watchers := w.watchers.set i { watcher with last := new.link_state }
    worker := worker
    flaps := flaps }

theorem tell_worker {i : ℕ} {watcher : Watcher} {new : WifiState} {worker : Handling} {flaps : List (ℕ × ℕ)} :
    (w.tell i watcher new worker flaps).worker = worker := rfl

theorem tell_watchers {i : ℕ} {watcher : Watcher} {new : WifiState} {worker : Handling} {flaps : List (ℕ × ℕ)} :
    (w.tell i watcher new worker flaps).watchers = w.watchers.set i { watcher with last := new.link_state } := rfl

theorem Consistent.told (h : Consistent w) {new : WifiState} {i : ℕ} {rest : List ℕ} {watcher : Watcher}
    (worker : Handling) (flaps : List (ℕ × ℕ)) (hworker : w.worker = .notifying new (i :: rest))
    (hwatcher : w.watchers[i]? = some watcher) (hnew : worker.inHand = [new.link_state])
    (hnew? : worker.new? = some new) (hrest : worker.rest = rest)
    (hnext : ∀ j, (w.tell i watcher new worker flaps).next j = if j ∈ rest then w.handled else w.handled + 1)
    (hflaps : ∀ e ∈ w.flaps, e ∈ flaps) (htold : watcher.flaps new = true → (i, w.handled) ∈ flaps) :
    Consistent (w.tell i watcher new worker flaps) := by
  have hflow := h.flow
  have hlt := h.rest_lt
  have hnodup := h.rest_nodup
  rw [hworker] at hflow hlt hnodup
  obtain ⟨hlen, hget, -⟩ := flow_cons hflow
  obtain ⟨hfresh, hrest_nodup⟩ := List.nodup_cons.mp hnodup
  have hold : ∀ j, w.next j = if j ∈ i :: rest then w.handled else w.handled + 1 := by
    intro j
    simp [Wifi.next, hworker]
  have hindex : i < w.watchers.length := hlt i List.mem_cons_self
  constructor
  · rw [tell_worker, hnew]
    exact hflow
  · exact h.started
  · intro hidle
    rw [tell_worker] at hidle
    rw [hidle] at hnew
    cases hnew
  · intro new' hnew'
    rw [tell_worker, hnew?] at hnew'
    obtain rfl := Option.some.inj hnew'
    exact h.busy new (by rw [hworker]; rfl)
  · exact h.time
  · intro last hlast _
    exact h.seed last hlast (by rw [hworker]; simp)
  · intro j hj
    rw [tell_worker, hrest] at hj
    rw [tell_watchers, List.length_set]
    exact hlt j (List.mem_cons_of_mem _ hj)
  · rw [tell_worker, hrest]
    exact hrest_nodup
  · intro j other hother hconnected hsince
    rw [hnext j] at hconnected hsince
    by_cases hj : i = j
    · subst hj
      rw [tell_watchers, List.getElem?_set_self hindex] at hother
      obtain rfl := Option.some.inj hother
      rw [if_neg hfresh] at hconnected
      change w.states[w.handled + 1]? = _ at hconnected
      rw [hget] at hconnected
      exact Option.some.inj hconnected
    · rw [tell_watchers, List.getElem?_set_ne hj] at hother
      have hsame : w.next j = if j ∈ rest then w.handled else w.handled + 1 := by
        rw [hold j]
        simp [Ne.symm hj]
      rw [← hsame] at hconnected hsince
      exact h.ready j other hother hconnected hsince
  · intro j other hother k hsince hk hdropped
    rw [hnext j] at hk
    by_cases hj : i = j
    · subst hj
      rw [tell_watchers, List.getElem?_set_self hindex] at hother
      obtain rfl := Option.some.inj hother
      rw [if_neg hfresh] at hk
      have hbefore : w.next i = w.handled := by
        rw [hold i]
        simp
      by_cases hlast : k = w.handled
      · -- the broadcast in hand is the drop: the watcher was ready for it
        subst hlast
        obtain ⟨hconnected, x, hx, hdown⟩ := hdropped
        change w.states[w.handled + 1]? = _ at hx
        rw [hget] at hx
        obtain rfl := Option.some.inj hx
        have hready := h.ready i watcher hwatcher (by rw [hbefore]; exact hconnected) (by rw [hbefore]; exact hsince)
        exact htold (by simp [Watcher.flaps, hready, hdown])
      · exact hflaps _ (h.noticed i watcher hwatcher k hsince (by omega) hdropped)
    · rw [tell_watchers, List.getElem?_set_ne hj] at hother
      have hsame : w.next j = if j ∈ rest then w.handled else w.handled + 1 := by
        rw [hold j]
        simp [Ne.symm hj]
      rw [← hsame] at hk
      exact hflaps _ (h.noticed j other hother k hsince hk hdropped)

theorem Consistent.notify (h : Consistent w) {new : WifiState} {i : ℕ} {rest : List ℕ}
    (hworker : w.worker = .notifying new (i :: rest)) (hstep : w.notify new i rest = some w') : Consistent w' := by
  unfold Wifi.notify at hstep
  cases hwatcher : w.watchers[i]? with
  | none =>
    rw [hwatcher] at hstep
    cases hstep
  | some watcher =>
    rw [hwatcher] at hstep
    dsimp only at hstep
    by_cases hflaps : watcher.flaps new = true
    · rw [if_pos hflaps] at hstep
      obtain rfl := Option.some.inj hstep
      exact h.told (.flapping new i rest) (w.flaps ++ [(i, w.handled)]) hworker hwatcher rfl rfl rfl (fun _ => rfl)
        (fun e he => List.mem_append_left _ he) (fun _ => List.mem_append_right _ (List.mem_singleton_self _))
    · rw [if_neg hflaps] at hstep
      obtain rfl := Option.some.inj hstep
      exact h.told (.notifying new rest) w.flaps hworker hwatcher rfl rfl rfl (fun _ => rfl) (fun e he => he)
        (fun hyes => absurd hyes hflaps)

theorem Consistent.subscribe (h : Consistent w) {last : LinkState} (hseed : w.seed = some last)
    (hcareful : w.states.head? ≠ some .Connected ∨ 1 < w.states.length) :
    Consistent { w with watchers := w.watchers ++ [⟨last, w.states.length - 1⟩], seed := none } := by
  have hstarted := h.started
  have hflow := h.flow
  have hcases : ∀ i watcher, (w.watchers ++ [⟨last, w.states.length - 1⟩])[i]? = some watcher →
      w.watchers[i]? = some watcher ∨ (i = w.watchers.length ∧ watcher = ⟨last, w.states.length - 1⟩) := by
    intro i watcher hwatcher
    rcases Nat.lt_trichotomy i w.watchers.length with hi | hi | hi
    · left
      rwa [List.getElem?_append_left hi] at hwatcher
    · right
      subst hi
      simp only [List.getElem?_concat_length] at hwatcher
      exact ⟨rfl, (Option.some.inj hwatcher).symm⟩
    · rw [List.getElem?_eq_none (by simp; omega)] at hwatcher
      cases hwatcher
  constructor
  · exact h.flow
  · exact h.started
  · exact h.idle
  · exact h.busy
  · exact h.time
  · intro other hother
    cases hother
  · intro i hi
    have hlt := h.rest_lt i hi
    change i < (w.watchers ++ [_]).length
    rw [List.length_append]
    omega
  · exact h.rest_nodup
  · intro i watcher hwatcher hconnected hsince
    rcases hcases i watcher hwatcher with hold | ⟨hi, rfl⟩
    · exact h.ready i watcher hold hconnected hsince
    subst hi
    change w.states[w.next w.watchers.length]? = _ at hconnected
    change w.states.length - 1 ≤ w.next w.watchers.length at hsince
    change last = .Connected
    have hfresh : w.watchers.length ∉ w.worker.rest := fun hmem => Nat.lt_irrefl _ (h.rest_lt _ hmem)
    cases hworker : w.worker with
    | idle =>
      have hlast := h.seed last hseed (by rw [hworker]; simp)
      have hnext : w.next w.watchers.length = w.handled := by simp [next, hworker]
      rw [hnext] at hconnected hsince
      rcases h.idle hworker with hzero | hstate
      · rw [hzero] at hconnected
        rcases hcareful with hdown | hchanged
        · rw [List.head?_eq_getElem?] at hdown
          exact absurd hconnected hdown
        · omega
      · rw [hstate] at hconnected
        exact hlast.trans (Option.some.inj hconnected)
    | stored new =>
      rw [hworker] at hflow
      have hlen := (flow_cons hflow).1
      have hnext : w.next w.watchers.length = w.handled := by simp [next, hworker]
      omega
    | notifying new rest =>
      have hlast := h.seed last hseed (by rw [hworker]; simp)
      rw [hworker] at hflow hfresh
      obtain ⟨-, hget, -⟩ := flow_cons hflow
      have hnext : w.next w.watchers.length = w.handled + 1 := by
        have hnot : w.watchers.length ∉ rest := hfresh
        simp [next, hworker, hnot]
      rw [hnext, hget] at hconnected
      rw [hlast, h.busy new (by rw [hworker]; rfl)]
      exact Option.some.inj hconnected
    | flapping new j rest =>
      have hlast := h.seed last hseed (by rw [hworker]; simp)
      rw [hworker] at hflow hfresh
      obtain ⟨-, hget, -⟩ := flow_cons hflow
      have hnext : w.next w.watchers.length = w.handled + 1 := by
        have hnot : w.watchers.length ∉ rest := hfresh
        simp [next, hworker, hnot]
      rw [hnext, hget] at hconnected
      rw [hlast, h.busy new (by rw [hworker]; rfl)]
      exact Option.some.inj hconnected
  · intro i watcher hwatcher k hsince hk hdropped
    rcases hcases i watcher hwatcher with hold | ⟨hi, rfl⟩
    · exact h.noticed i watcher hold k hsince hk hdropped
    · -- it is registered after every change that has been broadcast so far
      have hlen := h.next_lt i
      have hnext : k < w.next i := hk
      change w.states.length - 1 ≤ k at hsince
      omega

theorem Consistent.step (h : Consistent w) (hstep : CarefulStep w w') : Consistent w' := by
  obtain ⟨a, hcareful, ha⟩ := hstep
  cases a with
  | change x =>
    simp only [Wifi.step] at ha
    split_ifs at ha
    obtain rfl := Option.some.inj ha
    exact h.change x
  | tick =>
    obtain rfl := Option.some.inj ha
    exact h.tick
  | receive =>
    simp only [Wifi.step] at ha
    split at ha
    · next hworker hqueue =>
      obtain rfl := Option.some.inj ha
      exact h.receive hworker hqueue
    · cases ha
  | copy =>
    simp only [Wifi.step] at ha
    split at ha
    · next hworker =>
      obtain rfl := Option.some.inj ha
      exact h.copy hworker hcareful
    · cases ha
  | call =>
    simp only [Wifi.step] at ha
    split at ha
    · next hworker => exact h.notify hworker ha
    · cases ha
  | returned =>
    simp only [Wifi.step] at ha
    split at ha
    · next hworker =>
      obtain rfl := Option.some.inj ha
      exact h.returned hworker
    · cases ha
  | finish =>
    simp only [Wifi.step] at ha
    split at ha
    · next hworker =>
      obtain rfl := Option.some.inj ha
      exact h.finish hworker
    · cases ha
  | current =>
    simp only [Wifi.step] at ha
    split at ha
    · obtain rfl := Option.some.inj ha
      exact h.current
    · cases ha
  | subscribe =>
    simp only [Wifi.step] at ha
    split at ha
    · cases ha
    · next hseed =>
      obtain rfl := Option.some.inj ha
      exact h.subscribe hseed hcareful

theorem Consistent.all_noticed (h : Consistent w) : w.Noticed := by
  intro i watcher hwatcher k hsince hk hdropped
  refine h.noticed i watcher hwatcher k hsince ?_ hdropped
  unfold next
  cases w.worker with
  | idle => exact hk
  | stored new => exact hk
  | notifying new rest =>
    dsimp only
    split_ifs <;> omega
  | flapping new j rest =>
    dsimp only
    split_ifs <;> omega

theorem drops_noticed (start : LinkState) (now : ℕ) (w : Wifi)
    (hrun : Relation.ReflTransGen CarefulStep (created start now) w) : w.Noticed := by
  have hconsistent : Consistent w := by
    induction hrun with
    | refl => exact consistent_created start now
    | tail _ hstep ih => exact ih.step hstep
  exact hconsistent.all_noticed

section Drop

def firstDrop : List WifiAct :=
  [.current, .subscribe, .change .Disconnected, .receive, .copy, .call, .finish]

/-- The drop of a link that was up when the observer was created is not noticed. -/
theorem first_drop_missed : ∃ w, (created .Connected 0).run firstDrop = some w ∧ ¬w.Noticed := by
  refine ⟨_, rfl, ?_⟩
  intro hnoticed
  have hflap := hnoticed 0 _ rfl 0 (Nat.le_refl 0) Nat.one_pos ⟨rfl, .Disconnected, rfl, by decide⟩
  exact absurd hflap (List.not_mem_nil)

def secondDrop : List WifiAct :=
  [.change .Connected, .receive, .copy, .finish, .current, .subscribe, .change .Disconnected, .receive, .copy, .call,
    .returned, .finish]

theorem second_drop_noticed :
    ∃ w, (created .Disconnected 0).run secondDrop = some w ∧ w.Dropped 1 ∧ (0, 1) ∈ w.flaps := by
  refine ⟨_, rfl, ⟨rfl, .Disconnected, rfl, by decide⟩, ?_⟩
  refine drops_noticed .Disconnected 0 _ ?_ 0 _ rfl 1 (Nat.le_refl 1) (by decide) ⟨rfl, .Disconnected, rfl, by decide⟩
  refine .head ⟨.change .Connected, trivial, rfl⟩ (.head ⟨.receive, trivial, rfl⟩ ?_)
  refine .head ⟨.copy, fun last hlast => (nomatch hlast), rfl⟩ (.head ⟨.finish, trivial, rfl⟩ ?_)
  refine .head ⟨.current, trivial, rfl⟩ (.head ⟨.subscribe, .inr (by decide), rfl⟩ ?_)
  refine .head ⟨.change .Disconnected, trivial, rfl⟩ (.head ⟨.receive, trivial, rfl⟩ ?_)
  refine .head ⟨.copy, fun last hlast => (nomatch hlast), rfl⟩ (.head ⟨.call, trivial, rfl⟩ ?_)
  exact .head ⟨.returned, trivial, rfl⟩ (.head ⟨.finish, trivial, rfl⟩ .refl)

end Drop

end Wifi

end XousSignalClient
