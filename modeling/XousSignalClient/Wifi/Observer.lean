import Mathlib.Data.List.Basic
import Mathlib.Logic.Relation

namespace XousSignalClient

inductive LinkState where
  | Unknown
  | ResetHold
  | Uninitialized
  | Initializing
  | Disconnected
  | Connecting
  | Connected
  | WFXError
  deriving DecidableEq

structure WifiState where
  link_state : LinkState
  last_change : ℕ
  deriving DecidableEq

def WifiState.is_connected (s : WifiState) : Bool := s.link_state = .Connected

structure Watcher where
  last : LinkState
  since : ℕ
  deriving DecidableEq

def Watcher.flaps (watcher : Watcher) (new : WifiState) : Bool :=
  watcher.last = .Connected && new.link_state ≠ .Connected

inductive Handling where
  | idle
  | stored (new : WifiState)
  | notifying (new : WifiState) (rest : List ℕ)
  | flapping (new : WifiState) (i : ℕ) (rest : List ℕ)
  deriving DecidableEq

/-- The link, the observer and its watchers. `states` are the states of the link from `WifiObserver::new` on, `queue`
the broadcasts that have not been received, `seed` the state that a `FlapWatcher::new` has read and not yet registered,
and `flaps` the calls of `on_flap`, each with the number of the change it reports. -/
structure Wifi where
  states : List LinkState
  queue : List LinkState
  now : ℕ
  handled : ℕ
  state : WifiState
  watchers : List Watcher
  seed : Option LinkState
  worker : Handling
  flaps : List (ℕ × ℕ)
  deriving DecidableEq

inductive WifiAct where
  | change (x : LinkState)
  | tick
  | receive
  | copy
  | call
  | returned
  | finish
  | current
  | subscribe

namespace Wifi

def created (start : LinkState) (now : ℕ) : Wifi :=
  ⟨[start], [], now, 0, ⟨.Unknown, now⟩, [], none, .idle, []⟩

/-- The write in `update_state`: an older state is rejected. -/
def store (w : Wifi) (new : WifiState) (rest : List LinkState) : Wifi :=
  if new.last_change < w.state.last_change then { w with queue := rest, handled := w.handled + 1 }
  else { w with queue := rest, state := new, worker := .stored new }

def notify (w : Wifi) (new : WifiState) (i : ℕ) (rest : List ℕ) : Option Wifi :=
  match w.watchers[i]? with
  | none => none
  | some watcher =>
    let w' := { w with watchers := w.watchers.set i { watcher with last := new.link_state } }
    if watcher.flaps new then some { w' with worker := .flapping new i rest, flaps := w.flaps ++ [(i, w.handled)] }
    else some { w' with worker := .notifying new rest }

def step (w : Wifi) : WifiAct → Option Wifi
  | .change x =>
    if w.states.getLast? = some x then none
    else some { w with states := w.states ++ [x], queue := w.queue ++ [x] }
  | .tick => some { w with now := w.now + 1 }
  | .receive =>
    match w.worker, w.queue with
    | .idle, x :: rest => some (w.store ⟨x, w.now⟩ rest)
    | _, _ => none
  | .copy =>
    match w.worker with
    | .stored new => some { w with worker := .notifying new (List.range w.watchers.length) }
    | _ => none
  | .call =>
    match w.worker with
    | .notifying new (i :: rest) => w.notify new i rest
    | _ => none
  | .returned =>
    match w.worker with
    | .flapping new _ rest => some { w with worker := .notifying new rest }
    | _ => none
  | .finish =>
    match w.worker with
    | .notifying _ [] => some { w with worker := .idle, handled := w.handled + 1 }
    | _ => none
  | .current =>
    match w.seed with
    | none => some { w with seed := some w.state.link_state }
    | some _ => none
  | .subscribe =>
    match w.seed with
    | none => none
    | some last => some { w with watchers := w.watchers ++ [⟨last, w.states.length - 1⟩], seed := none }

def run (w : Wifi) : List WifiAct → Option Wifi
  | [] => some w
  | a :: rest => (w.step a).bind (fun w' => w'.run rest)

def Dropped (w : Wifi) (k : ℕ) : Prop :=
  w.states[k]? = some .Connected ∧ ∃ x, w.states[k + 1]? = some x ∧ x ≠ .Connected

/-- Every drop after a watcher was registered is reported to it by the time the drop's broadcast is handled. -/
def Noticed (w : Wifi) : Prop :=
  ∀ i watcher, w.watchers[i]? = some watcher → ∀ k, watcher.since ≤ k → k < w.handled → w.Dropped k →
    (i, k) ∈ w.flaps

/-- A watcher is registered when the link was not up at the start or has changed since, and the listeners are not
copied while a watcher holds an older state than the one just stored. -/
def Careful (w : Wifi) : WifiAct → Prop
  | .subscribe => w.states.head? ≠ some .Connected ∨ 1 < w.states.length
  | .copy => ∀ last, w.seed = some last → last = w.state.link_state
  | _ => True

def CarefulStep (w w' : Wifi) : Prop := ∃ a, w.Careful a ∧ w.step a = some w'

end Wifi

end XousSignalClient
