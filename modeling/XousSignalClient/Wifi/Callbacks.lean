import XousSignalClient.Wifi.Observer

namespace XousSignalClient.Callbacks

structure Effects (σ : Type) where
  tokens : ℕ → Bool
  outside : σ

variable {σ : Type}

/-- `CancellationHandle::cancel`: only ever a store of `true`. -/
def Effects.cancel (e : Effects σ) (token : ℕ) : Effects σ :=
  { e with tokens := fun t => if t = token then true else e.tokens t }

structure Callback (σ : Type) where
  cancels : List ℕ
  besides : σ → σ

def Callback.run (f : Callback σ) (e : Effects σ) : Effects σ :=
  f.cancels.foldl Effects.cancel { e with outside := f.besides e.outside }

def Callback.for_handle (token : ℕ) : Callback σ := ⟨[token], id⟩

structure Listener (σ : Type) where
  last : LinkState
  on_flap : Callback σ
  runs : ℕ

def drops (was new : LinkState) : Bool := was = .Connected && new ≠ .Connected

def Listener.call (new : WifiState) (l : Listener σ) (e : Effects σ) : Listener σ × Effects σ :=
  let was := l.last
  let l := { l with last := new.link_state }
  if drops was new.link_state then ({ l with runs := l.runs + 1 }, l.on_flap.run e) else (l, e)

def fan_out (new : WifiState) : List (Listener σ) → Effects σ → List (Listener σ) × Effects σ
  | [], e => ([], e)
  | l :: ls, e =>
    let (l, e) := l.call new e
    let (ls, e) := fan_out new ls e
    (l :: ls, e)

structure WifiObserver (σ : Type) where
  state : WifiState
  listeners : List (Listener σ)
  effects : Effects σ

namespace WifiObserver

def created (start : WifiState) (outside : σ) : WifiObserver σ := ⟨start, [], ⟨fun _ => false, outside⟩⟩

def update_state (o : WifiObserver σ) (new_state : WifiState) : WifiObserver σ :=
  if new_state.last_change < o.state.last_change then o
  else
    let (listeners, effects) := fan_out new_state o.listeners o.effects
    ⟨new_state, listeners, effects⟩

def subscribe (o : WifiObserver σ) (l : Listener σ) : WifiObserver σ := { o with listeners := o.listeners ++ [l] }

/-- `FlapWatcher::new`, which reads the current state first. -/
def watch (o : WifiObserver σ) (on_flap : Callback σ) : WifiObserver σ :=
  o.subscribe ⟨o.state.link_state, on_flap, 0⟩

end WifiObserver

inductive Op (σ : Type) where
  | update (new_state : WifiState)
  | watch (on_flap : Callback σ)
  | cancel (token : ℕ)

def WifiObserver.apply (o : WifiObserver σ) : Op σ → WifiObserver σ
  | .update new_state => o.update_state new_state
  | .watch on_flap => o.watch on_flap
  | .cancel token => { o with effects := o.effects.cancel token }

def WifiObserver.applyAll (o : WifiObserver σ) (ops : List (Op σ)) : WifiObserver σ := ops.foldl apply o

def InOrder (now : ℕ) : List (Op σ) → Prop
  | [] => True
  | .update new_state :: ops => now ≤ new_state.last_change ∧ InOrder new_state.last_change ops
  | .watch _ :: ops => InOrder now ops
  | .cancel _ :: ops => InOrder now ops

def links : List (Op σ) → List LinkState
  | [] => []
  | .update new_state :: ops => new_state.link_state :: links ops
  | .watch _ :: ops => links ops
  | .cancel _ :: ops => links ops

def callbacks : List (Op σ) → List (Callback σ)
  | [] => []
  | .update _ :: ops => callbacks ops
  | .watch on_flap :: ops => on_flap :: callbacks ops
  | .cancel _ :: ops => callbacks ops

def Op.Names (token : ℕ) : Op σ → Prop
  | .update _ => False
  | .watch on_flap => token ∈ on_flap.cancels
  | .cancel t => t = token

def falling : List LinkState → ℕ
  | was :: new :: rest => (drops was new).toNat + falling (new :: rest)
  | _ => 0

def flaps (start : WifiState) (before after : List (Op σ)) : ℕ :=
  falling ((links before).getLastD start.link_state :: links after)

theorem tokens_cancel (e : Effects σ) (token t : ℕ) :
    (e.cancel token).tokens t = true ↔ e.tokens t = true ∨ t = token := by
  unfold Effects.cancel
  dsimp only
  split_ifs with h <;> simp [h]

theorem tokens_cancels (cancels : List ℕ) (e : Effects σ) (t : ℕ) :
    (cancels.foldl Effects.cancel e).tokens t = true ↔ e.tokens t = true ∨ t ∈ cancels := by
  induction cancels generalizing e with
  | nil => simp
  | cons token cancels ih =>
    rw [List.foldl_cons, ih, tokens_cancel, List.mem_cons, or_assoc]

theorem tokens_run (f : Callback σ) (e : Effects σ) (t : ℕ) :
    (f.run e).tokens t = true ↔ e.tokens t = true ∨ t ∈ f.cancels := tokens_cancels f.cancels _ t

def Listener.told (new : WifiState) (l : Listener σ) : Listener σ :=
  ⟨new.link_state, l.on_flap, l.runs + (drops l.last new.link_state).toNat⟩

theorem call_of_drops {new : WifiState} {l : Listener σ} (h : drops l.last new.link_state = true) (e : Effects σ) :
    l.call new e = (l.told new, l.on_flap.run e) := by
  simp [Listener.call, Listener.told, h]

theorem call_of_not_drops {new : WifiState} {l : Listener σ} (h : drops l.last new.link_state = false)
    (e : Effects σ) : l.call new e = (l.told new, e) := by
  simp [Listener.call, Listener.told, h]

theorem call_fst (new : WifiState) (l : Listener σ) (e : Effects σ) : (l.call new e).1 = l.told new := by
  cases h : drops l.last new.link_state with
  | true => rw [call_of_drops h]
  | false => rw [call_of_not_drops h]

theorem tokens_call (new : WifiState) (l : Listener σ) (e : Effects σ) (t : ℕ) :
    (l.call new e).2.tokens t = true ↔
      e.tokens t = true ∨ drops l.last new.link_state = true ∧ t ∈ l.on_flap.cancels := by
  cases h : drops l.last new.link_state with
  | true => simp [call_of_drops h, tokens_run]
  | false => simp [call_of_not_drops h]

theorem fan_out_fst (new : WifiState) (ls : List (Listener σ)) (e : Effects σ) :
    (fan_out new ls e).1 = ls.map (Listener.told new) := by
  induction ls generalizing e with
  | nil => rfl
  | cons l ls ih =>
    rw [List.map_cons, ← ih (l.call new e).2, ← call_fst new l e]
    rfl

theorem tokens_fan_out (new : WifiState) (ls : List (Listener σ)) (e : Effects σ) (t : ℕ) :
    (fan_out new ls e).2.tokens t = true ↔
      e.tokens t = true ∨ ∃ l ∈ ls, drops l.last new.link_state = true ∧ t ∈ l.on_flap.cancels := by
  induction ls generalizing e with
  | nil => simp [fan_out]
  | cons l ls ih =>
    have hstep : (fan_out new (l :: ls) e).2 = (fan_out new ls (l.call new e).2).2 := rfl
    rw [hstep, ih, tokens_call, List.exists_mem_cons_iff, or_assoc]

variable {o : WifiObserver σ}

theorem update_state_of_older {new : WifiState} (h : new.last_change < o.state.last_change) :
    o.update_state new = o := by
  rw [WifiObserver.update_state, if_pos h]

theorem update_state_of_newer {new : WifiState} (h : o.state.last_change ≤ new.last_change) :
    o.update_state new =
      ⟨new, o.listeners.map (Listener.told new), (fan_out new o.listeners o.effects).2⟩ := by
  rw [WifiObserver.update_state, if_neg (Nat.not_lt.mpr h), ← fan_out_fst new o.listeners o.effects]

def Synced (o : WifiObserver σ) : Prop := ∀ l ∈ o.listeners, l.last = o.state.link_state

theorem synced_update {new : WifiState} (h : o.state.last_change ≤ new.last_change) :
    Synced (o.update_state new) := by
  rw [update_state_of_newer h]
  intro l hl
  obtain ⟨l', -, rfl⟩ := List.mem_map.mp hl
  rfl

theorem synced_watch (h : Synced o) (on_flap : Callback σ) : Synced (o.watch on_flap) := by
  intro l hl
  rcases List.mem_append.mp hl with hl | hl
  · exact h l hl
  · rw [List.mem_singleton.mp hl]
    rfl

theorem runs_applyAll (ops : List (Op σ)) (hsynced : Synced o) (horder : InOrder o.state.last_change ops)
    {i : ℕ} {l : Listener σ} (hl : o.listeners[i]? = some l) :
    ∃ l', (o.applyAll ops).listeners[i]? = some l' ∧ l'.on_flap = l.on_flap ∧
      l'.runs = l.runs + falling (o.state.link_state :: links ops) := by
  induction ops generalizing o l with
  | nil => exact ⟨l, hl, rfl, rfl⟩
  | cons op ops ih =>
    cases op with
    | update new =>
      obtain ⟨hle, horder⟩ := horder
      have hlast := hsynced l (List.mem_of_getElem? hl)
      have hsynced' := synced_update (o := o) hle
      have hstep := update_state_of_newer (o := o) hle
      obtain ⟨l', hl', hflap, hruns⟩ := ih (o := o.update_state new) (l := l.told new) hsynced'
        (by rw [hstep]; exact horder) (by rw [hstep, List.getElem?_map, hl]; rfl)
      refine ⟨l', hl', hflap, ?_⟩
      rw [hruns, hstep, links, falling, ← hlast]
      exact Nat.add_assoc _ _ _
    | watch on_flap =>
      obtain ⟨hlt, -⟩ := List.getElem?_eq_some_iff.mp hl
      exact ih (o := o.watch on_flap) (synced_watch hsynced on_flap) horder
        ((List.getElem?_append_left hlt).trans hl)
    | cancel token => exact ih (o := o.apply (.cancel token)) hsynced horder hl

theorem state_applyAll {before after : List (Op σ)} (hsynced : Synced o)
    (horder : InOrder o.state.last_change (before ++ after)) :
    Synced (o.applyAll before) ∧ InOrder (o.applyAll before).state.last_change after ∧
      (o.applyAll before).state.link_state = (links before).getLastD o.state.link_state := by
  induction before generalizing o with
  | nil => exact ⟨hsynced, horder, rfl⟩
  | cons op ops ih =>
    cases op with
    | update new =>
      obtain ⟨hle, horder⟩ := horder
      have hstep := update_state_of_newer (o := o) hle
      obtain ⟨hsynced', horder', hlink⟩ := ih (o := o.update_state new) (synced_update hle)
        (by rw [hstep]; exact horder)
      rw [hstep] at hlink
      exact ⟨hsynced', horder', by rw [links, List.getLastD_cons, ← hlink, ← hstep]; rfl⟩
    | watch on_flap => exact ih (o := o.watch on_flap) (synced_watch hsynced on_flap) horder
    | cancel token => exact ih (o := o.apply (.cancel token)) hsynced horder

theorem on_flap_update (new : WifiState) :
    (o.update_state new).listeners.map Listener.on_flap = o.listeners.map Listener.on_flap := by
  by_cases h : new.last_change < o.state.last_change
  · rw [update_state_of_older h]
  · rw [update_state_of_newer (Nat.not_lt.mp h), List.map_map]
    rfl

theorem on_flap_applyAll (o : WifiObserver σ) (ops : List (Op σ)) :
    (o.applyAll ops).listeners.map Listener.on_flap = o.listeners.map Listener.on_flap ++ callbacks ops := by
  induction ops generalizing o with
  | nil => exact (List.append_nil _).symm
  | cons op ops ih =>
    refine (ih (o.apply op)).trans ?_
    cases op with
    | update new =>
      rw [callbacks, ← on_flap_update (o := o) new]
      rfl
    | watch on_flap =>
      rw [callbacks, List.append_cons]
      congr 1
      exact List.map_append
    | cancel token => rfl

def Explained (byHand : ℕ → Prop) (o : WifiObserver σ) : Prop :=
  ∀ t, o.effects.tokens t = true ↔ byHand t ∨ ∃ l ∈ o.listeners, t ∈ l.on_flap.cancels ∧ 0 < l.runs

theorem told_runs_pos (new : WifiState) (l : Listener σ) :
    0 < (l.told new).runs ↔ 0 < l.runs ∨ drops l.last new.link_state = true := by
  cases h : drops l.last new.link_state <;> simp [Listener.told, h]

theorem explained_update {byHand : ℕ → Prop} (h : Explained byHand o) (new : WifiState) :
    Explained byHand (o.update_state new) := by
  by_cases hold : new.last_change < o.state.last_change
  · rwa [update_state_of_older hold]
  · rw [update_state_of_newer (Nat.not_lt.mp hold)]
    intro t
    rw [tokens_fan_out, h t, or_assoc]
    apply or_congr_right
    constructor
    · rintro (⟨l, hl, ht, hruns⟩ | ⟨l, hl, hdrops, ht⟩)
      · exact ⟨l.told new, List.mem_map_of_mem hl, ht, (told_runs_pos new l).mpr (.inl hruns)⟩
      · exact ⟨l.told new, List.mem_map_of_mem hl, ht, (told_runs_pos new l).mpr (.inr hdrops)⟩
    · rintro ⟨_, hl', ht, hruns⟩
      obtain ⟨l, hl, rfl⟩ := List.mem_map.mp hl'
      rcases (told_runs_pos new l).mp hruns with hruns | hdrops
      · exact .inl ⟨l, hl, ht, hruns⟩
      · exact .inr ⟨l, hl, hdrops, ht⟩

theorem explained_watch {byHand : ℕ → Prop} (h : Explained byHand o) (on_flap : Callback σ) :
    Explained byHand (o.watch on_flap) := by
  intro t
  refine (h t).trans (or_congr_right ?_)
  constructor
  · rintro ⟨l, hl, hrest⟩
    exact ⟨l, List.mem_append_left _ hl, hrest⟩
  · rintro ⟨l, hl, ht, hruns⟩
    rcases List.mem_append.mp hl with hl | hl
    · exact ⟨l, hl, ht, hruns⟩
    · rw [List.mem_singleton.mp hl] at hruns
      cases hruns

theorem explained_cancel {byHand : ℕ → Prop} (h : Explained byHand o) (token : ℕ) :
    Explained (fun t => byHand t ∨ t = token) (o.apply (.cancel token)) := by
  intro t
  refine (tokens_cancel o.effects token t).trans ?_
  rw [h t, or_right_comm]
  rfl

theorem applyAll_cons (o : WifiObserver σ) (op : Op σ) (ops : List (Op σ)) :
    o.applyAll (op :: ops) = (o.apply op).applyAll ops := rfl

theorem explained_applyAll {byHand : ℕ → Prop} (h : Explained byHand o) (ops : List (Op σ)) :
    Explained (fun t => byHand t ∨ .cancel t ∈ ops) (o.applyAll ops) := by
  induction ops generalizing o byHand with
  | nil => simpa [WifiObserver.applyAll] using h
  | cons op ops ih =>
    rw [applyAll_cons]
    cases op with
    | update new =>
      have hrest := ih (explained_update h new)
      simpa [WifiObserver.apply] using hrest
    | watch on_flap =>
      have hrest := ih (explained_watch h on_flap)
      simpa [WifiObserver.apply] using hrest
    | cancel token =>
      have hrest := ih (explained_cancel h token)
      simpa [WifiObserver.apply, or_assoc] using hrest

theorem callbacks_append (ops more : List (Op σ)) : callbacks (ops ++ more) = callbacks ops ++ callbacks more := by
  induction ops with
  | nil => rfl
  | cons op ops ih => cases op <;> simp [callbacks, ih]

theorem applyAll_append (o : WifiObserver σ) (ops more : List (Op σ)) :
    o.applyAll (ops ++ more) = (o.applyAll ops).applyAll more := List.foldl_append

theorem names_of_callback {ops : List (Op σ)} {f : Callback σ} {token : ℕ} (hf : f ∈ callbacks ops)
    (htoken : token ∈ f.cancels) : ∃ op ∈ ops, op.Names token := by
  induction ops with
  | nil => cases hf
  | cons op ops ih =>
    have hlater (h : f ∈ callbacks ops) : ∃ op' ∈ op :: ops, op'.Names token := by
      obtain ⟨op', hmem, hnames⟩ := ih h
      exact ⟨op', List.mem_cons_of_mem _ hmem, hnames⟩
    cases op with
    | update new => exact hlater hf
    | watch on_flap =>
      rcases List.mem_cons.mp hf with rfl | hf
      · exact ⟨.watch f, List.mem_cons_self, htoken⟩
      · exact hlater hf
    | cancel t => exact hlater hf

variable {start : WifiState} {outside : σ} {before after : List (Op σ)} {on_flap : Callback σ}

theorem synced_created (start : WifiState) (outside : σ) : Synced (.created start outside) := by
  intro l hl
  cases hl

theorem explained_created (start : WifiState) (outside : σ) : Explained (fun _ => False) (.created start outside) := by
  intro t
  simp [WifiObserver.created]

theorem on_flap_created (start : WifiState) (outside : σ) (ops : List (Op σ)) :
    ((WifiObserver.created start outside).applyAll ops).listeners.map Listener.on_flap = callbacks ops :=
  on_flap_applyAll _ ops

theorem runs_watch (outside : σ) (h : InOrder start.last_change (before ++ .watch on_flap :: after)) :
    ∃ l, ((WifiObserver.created start outside).applyAll (before ++ .watch on_flap :: after)).listeners[
        (callbacks before).length]? = some l ∧
      l.on_flap = on_flap ∧ l.runs = flaps start before after := by
  obtain ⟨hsynced, horder, hlink⟩ := state_applyAll (synced_created start outside) h
  have hlength : ((WifiObserver.created start outside).applyAll before).listeners.length = (callbacks before).length := by
    rw [← on_flap_created start outside, List.length_map]
  have hnew : (((WifiObserver.created start outside).applyAll before).watch on_flap).listeners[
      (callbacks before).length]? =
      some ⟨((WifiObserver.created start outside).applyAll before).state.link_state, on_flap, 0⟩ := by
    rw [← hlength]
    exact List.getElem?_concat_length
  obtain ⟨l, hl, hflap, hruns⟩ := runs_applyAll after (synced_watch hsynced on_flap) horder hnew
  rw [applyAll_append, applyAll_cons]
  refine ⟨l, hl, hflap, ?_⟩
  rw [hruns, Nat.zero_add, flaps]
  congr 2

theorem cancelled_iff_flapped {token : ℕ}
    (h : InOrder start.last_change (before ++ .watch (.for_handle token) :: after))
    (honly : ∀ op ∈ before ++ after, ¬op.Names token) :
    ((WifiObserver.created start outside).applyAll
        (before ++ .watch (.for_handle token) :: after)).effects.tokens token = true ↔
      0 < flaps start before after := by
  have hcallbacks := on_flap_created start outside (before ++ .watch (.for_handle token) :: after)
  obtain ⟨l, hl, hflap, hruns⟩ := runs_watch outside h
  rw [callbacks_append, callbacks] at hcallbacks
  refine (explained_applyAll (explained_created start outside) _ token).trans ?_
  constructor
  · rintro ((hfalse | hcancel) | ⟨l', hl', htoken, hpos⟩)
    · exact hfalse.elim
    · rcases List.mem_append.mp hcancel with hmem | hmem
      · exact absurd rfl (honly _ (List.mem_append_left _ hmem))
      · rcases List.mem_cons.mp hmem with heq | hmem
        · cases heq
        · exact absurd rfl (honly _ (List.mem_append_right _ hmem))
    · obtain ⟨i, hi⟩ := List.mem_iff_getElem?.mp hl'
      have hat : (callbacks before ++ .for_handle token :: callbacks after)[i]? = some l'.on_flap := by
        rw [← hcallbacks, List.getElem?_map, hi]
        rfl
      have hnot {ops : List (Op σ)} (hsub : ops ⊆ before ++ after) : l'.on_flap ∉ callbacks ops := by
        intro hmem
        obtain ⟨op, hop, hnames⟩ := names_of_callback hmem htoken
        exact honly op (hsub hop) hnames
      rcases Nat.lt_trichotomy i (callbacks before).length with hlt | heq | hgt
      · rw [List.getElem?_append_left hlt] at hat
        exact absurd (List.mem_of_getElem? hat) (hnot (List.subset_append_left _ _))
      · rw [heq, hl] at hi
        obtain rfl := Option.some.inj hi
        rwa [← hruns]
      · obtain ⟨k, hk⟩ : ∃ k, i - (callbacks before).length = k + 1 := ⟨i - (callbacks before).length - 1, by omega⟩
        rw [List.getElem?_append_right (Nat.le_of_lt hgt), hk, List.getElem?_cons_succ] at hat
        exact absurd (List.mem_of_getElem? hat) (hnot (List.subset_append_right _ _))
  · intro hpos
    refine .inr ⟨l, List.mem_of_getElem? hl, ?_, by rwa [hruns]⟩
    rw [hflap]
    exact List.mem_singleton_self token

theorem tokens_apply {token : ℕ} (h : o.effects.tokens token = true) (op : Op σ) :
    (o.apply op).effects.tokens token = true := by
  cases op with
  | update new =>
    change (o.update_state new).effects.tokens token = true
    by_cases hold : new.last_change < o.state.last_change
    · rwa [update_state_of_older hold]
    · rw [update_state_of_newer (Nat.not_lt.mp hold)]
      exact (tokens_fan_out new o.listeners o.effects token).mpr (.inl h)
  | watch on_flap => exact h
  | cancel t => exact (tokens_cancel o.effects t token).mpr (.inl h)

theorem tokens_applyAll {token : ℕ} (h : o.effects.tokens token = true) (ops : List (Op σ)) :
    (o.applyAll ops).effects.tokens token = true := by
  induction ops generalizing o with
  | nil => exact h
  | cons op ops ih => exact ih (tokens_apply h op)

theorem flap_callbacks_count (start : WifiState) (outside : σ) (ops : List (Op σ))
    (h : InOrder start.last_change ops) :
    (∀ before on_flap after, ops = before ++ .watch on_flap :: after →
      ∃ l, ((WifiObserver.created start outside).applyAll ops).listeners[(callbacks before).length]? = some l ∧
        l.on_flap = on_flap ∧ l.runs = flaps start before after) ∧
    (∀ before token after, ops = before ++ .watch (.for_handle token) :: after →
      (∀ op ∈ before ++ after, ¬op.Names token) →
      (((WifiObserver.created start outside).applyAll ops).effects.tokens token = true ↔
        0 < flaps start before after)) ∧
    (∀ token more, ((WifiObserver.created start outside).applyAll ops).effects.tokens token = true →
      ((WifiObserver.created start outside).applyAll (ops ++ more)).effects.tokens token = true) := by
  refine ⟨?_, ?_, ?_⟩
  · rintro before on_flap after rfl
    exact runs_watch outside h
  · rintro before token after rfl honly
    exact cancelled_iff_flapped h honly
  · intro token more hcancelled
    rw [applyAll_append]
    exact tokens_applyAll hcancelled more

def reconnecting : List (Op Unit) :=
  [.update ⟨.Connected, 3⟩, .watch (.for_handle 7), .update ⟨.Disconnected, 5⟩, .update ⟨.Connected, 5⟩,
    .update ⟨.Connecting, 8⟩]

theorem reconnecting_flaps :
    ∃ l, ((WifiObserver.created ⟨.Unknown, 0⟩ ()).applyAll reconnecting).listeners[0]? = some l ∧
      l.on_flap = .for_handle 7 ∧ l.runs = 2 :=
  (flap_callbacks_count ⟨.Unknown, 0⟩ () reconnecting (by simp [reconnecting, InOrder])).1
    [.update ⟨.Connected, 3⟩] (.for_handle 7) _ rfl

end XousSignalClient.Callbacks
