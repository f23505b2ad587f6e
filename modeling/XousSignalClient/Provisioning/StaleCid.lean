import XousSignalClient.Account.Restart
import XousSignalClient.Interaction.Interference
import XousSignalClient.Provisioning.Attempts

namespace XousSignalClient

open Encoding Interaction Fallible

/-- A connection to a worker, with the flag that the `CancelHandle`s share. -/
structure Server where
  connected : Bool
  flap_signaled : Bool
  deriving DecidableEq

inductive OnFlap where
  | entered (token cid : ℕ)
  | cancelled (cid : ℕ)
  | sending (cid : ℕ)
  | done
  deriving DecidableEq

/-- The observer with the attempts it reports to. `targets` are the tokens and connections of the watchers, and
`sends` the messages of `cancel_flap`, each with whether its connection was still there. -/
structure Attempts where
  wifi : Wifi
  live : Bool
  tokens : List Bool
  servers : List Server
  targets : List (ℕ × ℕ)
  on_flap : Option OnFlap
  sends : List (ℕ × Bool)
  deriving DecidableEq

inductive FlapAct where
  | wifi (a : WifiAct)
  | token
  | swap
  | send

namespace Attempts

def connected (s : Attempts) (cid : ℕ) : Bool := (s.servers[cid]?.map Server.connected).getD false

def enter (s : Attempts) (w : Wifi) : Attempts :=
  match w.worker with
  | .flapping _ i _ => { s with wifi := w, on_flap := (s.targets[i]?).map (fun target => .entered target.1 target.2) }
  | _ => { s with wifi := w, on_flap := none }

def step (s : Attempts) : FlapAct → Option Attempts
  | .wifi .current => none
  | .wifi .subscribe => none
  | .wifi .receive => if s.live then (s.wifi.step .receive).map (fun w => { s with wifi := w }) else none
  | .wifi .call => (s.wifi.step .call).map s.enter
  | .wifi .returned =>
    if s.on_flap = some .done then (s.wifi.step .returned).map (fun w => { s with wifi := w, on_flap := none })
    else none
  | .wifi a => (s.wifi.step a).map (fun w => { s with wifi := w })
  | .token =>
    match s.on_flap with
    | some (.entered token cid) => some { s with tokens := s.tokens.set token true, on_flap := some (.cancelled cid) }
    | _ => none
  | .swap =>
    match s.on_flap with
    | some (.cancelled cid) =>
      match s.servers[cid]? with
      | none => none
      | some server =>
        if server.flap_signaled then some { s with on_flap := some .done }
        else
          some { s with
            servers := s.servers.set cid { server with flap_signaled := true }
            on_flap := some (.sending cid) }
    | _ => none
  | .send =>
    match s.on_flap with
    | some (.sending cid) => some { s with sends := s.sends ++ [(cid, s.connected cid)], on_flap := some .done }
    | _ => none

def disconnect (s : Attempts) (cid : ℕ) : Attempts :=
  { s with servers := s.servers.modify cid (fun server => { server with connected := false }) }

structure Regime where
  acts : Attempts → FlapAct → Prop
  disconnects : Attempts → ℕ → Prop

def surroundings (M : ManagerCrates) (R : Regime) : Surroundings (managerSignature M) Attempts where
  answers c s r t :=
    match c, r with
    | .observer_new, r => ∃ start now, t = { s with wifi := Wifi.created start now, live := r.toBool }
    | .token_new, r => r = s.tokens.length ∧ t = { s with tokens := s.tokens ++ [false] }
    | .is_cancelled token, r => r = (s.tokens[token]?).getD false ∧ t = s
    | .wait_for_connection, r => (r = .ok () → s.wifi.state.is_connected = true) ∧ t = s
    | .spawn _, .ok cid => cid = s.servers.length ∧ t = { s with servers := s.servers ++ [⟨true, false⟩] }
    | .spawn _, .error _ => t = s
    | .current, r =>
      r = s.wifi.state.link_state ∧ ∃ w, s.wifi.step .current = some w ∧ t = { s with wifi := w }
    | .subscribe last token cid, _ =>
      s.wifi.seed = some last ∧ ∃ w, s.wifi.step .subscribe = some w ∧
        t = { s with wifi := w, targets := s.targets ++ [(token, cid)] }
    | .disconnect cid, _ => R.disconnects s cid ∧ t = s.disconnect cid
    | _, _ => t = s
  moves s t := ∃ a, R.acts s a ∧ s.step a = some t

def anyhow : Regime := ⟨fun _ _ => True, fun _ _ => True⟩

def signaled (s : Attempts) (cid : ℕ) : Bool := (s.servers[cid]?.map Server.flap_signaled).getD false

def Pending (s : Attempts) (cid : ℕ) : Prop :=
  s.on_flap = some (.sending cid) ∨
    (((∃ token, s.on_flap = some (.entered token cid)) ∨ s.on_flap = some (.cancelled cid)) ∧ s.signaled cid = false)

/-- `on_flap` is called for an attempt while its connection is there or once a flap has been signalled on it, and the
connection is not given up while a callback has still to send on it. -/
def careful : Regime where
  acts s a :=
    match a with
    | .wifi .call => ∀ t, s.step (.wifi .call) = some t → ∀ token cid, t.on_flap = some (.entered token cid) →
        s.connected cid = true ∨ s.signaled cid = true
    | _ => True
  disconnects s cid := ¬s.Pending cid

section Safety

def Safe (s : Attempts) : Prop :=
  (∀ e ∈ s.sends, e.2 = true) ∧ ∀ cid, s.Pending cid → s.connected cid = true

variable {s t : Attempts}

theorem not_pending {cid : ℕ} (h : s.on_flap = none ∨ s.on_flap = some .done) : ¬s.Pending cid := by
  rintro (hsending | ⟨⟨token, hentered⟩ | hcancelled, -⟩)
  · rcases h with h | h <;> rw [h] at hsending <;> cases hsending
  · rcases h with h | h <;> rw [h] at hentered <;> cases hentered
  · rcases h with h | h <;> rw [h] at hcancelled <;> cases hcancelled

theorem Safe.frame (h : Safe s) (hservers : t.servers = s.servers) (hflap : t.on_flap = s.on_flap)
    (hsends : t.sends = s.sends) : Safe t := by
  refine ⟨by rw [hsends]; exact h.1, ?_⟩
  intro cid hpending
  have hsame : s.Pending cid := by
    unfold Pending signaled at hpending ⊢
    rw [hservers, hflap] at hpending
    exact hpending
  unfold connected
  rw [hservers]
  exact h.2 cid hsame

theorem Safe.rest (h : Safe s) (hflap : t.on_flap = none ∨ t.on_flap = some .done) (hsends : t.sends = s.sends) :
    Safe t :=
  ⟨by rw [hsends]; exact h.1, fun _ hpending => absurd hpending (not_pending hflap)⟩

theorem Safe.wifi (h : Safe s) {a : WifiAct}
    (hstep : (s.wifi.step a).map (fun w => { s with wifi := w }) = some t) : Safe t := by
  obtain ⟨w, -, rfl⟩ := Option.map_eq_some_iff.mp hstep
  exact h.frame rfl rfl rfl

theorem enter_frame (s : Attempts) (w : Wifi) :
    (s.enter w).servers = s.servers ∧ (s.enter w).targets = s.targets ∧ (s.enter w).sends = s.sends := by
  unfold enter
  split <;> exact ⟨rfl, rfl, rfl⟩

theorem enter_on_flap {w : Wifi} {stage : OnFlap} (hflap : (s.enter w).on_flap = some stage) :
    ∃ target ∈ s.targets, stage = .entered target.1 target.2 := by
  unfold enter at hflap
  split at hflap
  · obtain ⟨target, htarget, rfl⟩ := Option.map_eq_some_iff.mp hflap
    exact ⟨target, List.mem_of_getElem? htarget, rfl⟩
  · cases hflap

theorem Safe.call (h : Safe s) (hcareful : careful.acts s (.wifi .call)) (hstep : s.step (.wifi .call) = some t) :
    Safe t := by
  have hallowed := hcareful t hstep
  obtain ⟨w, -, rfl⟩ := Option.map_eq_some_iff.mp hstep
  obtain ⟨hservers, -, hsends⟩ := s.enter_frame w
  cases hflap : (s.enter w).on_flap with
  | none => exact h.rest (.inl hflap) hsends
  | some stage =>
    obtain ⟨target, -, rfl⟩ := enter_on_flap hflap
    refine ⟨by rw [hsends]; exact h.1, ?_⟩
    intro other hpending
    unfold Pending signaled at hpending
    rw [hservers, hflap] at hpending
    rcases hpending with hsending | ⟨⟨token', hother⟩ | hcancelled, hunset⟩
    · cases hsending
    · obtain ⟨-, rfl⟩ := OnFlap.entered.inj (Option.some.inj hother)
      unfold connected
      rw [hservers]
      rcases hallowed target.1 target.2 hflap with hconnected | hsignaled
      · exact hconnected
      · rw [signaled, hunset] at hsignaled
        cases hsignaled
    · cases hcancelled

theorem Safe.token (h : Safe s) (hstep : s.step .token = some t) : Safe t := by
  simp only [step] at hstep
  split at hstep
  · next token cid hflap =>
    obtain rfl := Option.some.inj hstep
    refine ⟨h.1, ?_⟩
    intro other hpending
    have hbefore : s.Pending other := by
      rcases hpending with hsending | ⟨⟨token', hentered⟩ | hcancelled, hunset⟩
      · cases hsending
      · cases hentered
      · obtain rfl := OnFlap.cancelled.inj (Option.some.inj hcancelled)
        exact .inr ⟨.inl ⟨token, hflap⟩, hunset⟩
    exact h.2 other hbefore
  · cases hstep

theorem connected_set {cid : ℕ} {server : Server} (hserver : s.servers[cid]? = some server) (other : ℕ) :
    (({ s with servers := s.servers.set cid { server with flap_signaled := true } } : Attempts).connected other) =
      s.connected other := by
  unfold connected
  by_cases hother : cid = other
  · subst hother
    have hlt := (List.getElem?_eq_some_iff.mp hserver).1
    rw [List.getElem?_set_self hlt, hserver]
    rfl
  · rw [List.getElem?_set_ne hother]

theorem Safe.swap (h : Safe s) (hstep : s.step .swap = some t) : Safe t := by
  simp only [step] at hstep
  split at hstep
  · next cid hflap =>
    split at hstep
    · cases hstep
    · next server hserver =>
      split_ifs at hstep with hset
      · obtain rfl := Option.some.inj hstep
        exact h.rest (.inr rfl) rfl
      · obtain rfl := Option.some.inj hstep
        refine ⟨h.1, ?_⟩
        intro other hpending
        have hbefore : s.Pending other := by
          rcases hpending with hsending | ⟨⟨token', hentered⟩ | hcancelled, -⟩
          · obtain rfl := OnFlap.sending.inj (Option.some.inj hsending)
            refine .inr ⟨.inr hflap, ?_⟩
            rw [signaled, hserver]
            simpa using hset
          · cases hentered
          · cases hcancelled
        exact (connected_set hserver other).trans (h.2 other hbefore)
  · cases hstep

theorem Safe.send (h : Safe s) (hstep : s.step .send = some t) : Safe t := by
  simp only [step] at hstep
  split at hstep
  · next cid hflap =>
    obtain rfl := Option.some.inj hstep
    refine ⟨?_, fun other hpending => absurd hpending (not_pending (.inr rfl))⟩
    intro e he
    rcases List.mem_append.mp he with he | he
    · exact h.1 e he
    · rw [List.mem_singleton.mp he]
      exact h.2 cid (.inl hflap)
  · cases hstep

theorem Safe.moves {M : ManagerCrates} (h : Safe s) (hmove : (surroundings M careful).moves s t) : Safe t := by
  obtain ⟨a, hcareful, hstep⟩ := hmove
  cases a with
  | token => exact h.token hstep
  | swap => exact h.swap hstep
  | send => exact h.send hstep
  | wifi a =>
    cases a with
    | current => cases hstep
    | subscribe => cases hstep
    | call => exact h.call hcareful hstep
    | receive =>
      simp only [step] at hstep
      split_ifs at hstep
      exact h.wifi hstep
    | returned =>
      simp only [step] at hstep
      split_ifs at hstep
      obtain ⟨w, -, rfl⟩ := Option.map_eq_some_iff.mp hstep
      exact h.rest (.inl rfl) rfl
    | change x => exact h.wifi hstep
    | tick => exact h.wifi (a := .tick) hstep
    | copy => exact h.wifi hstep
    | finish => exact h.wifi hstep

theorem Safe.spawn (h : Safe s) : Safe { s with servers := s.servers ++ [⟨true, false⟩] } := by
  refine ⟨h.1, ?_⟩
  intro cid hpending
  unfold connected
  rcases Nat.lt_trichotomy cid s.servers.length with hlt | rfl | hgt
  · have hsame : (s.servers ++ [⟨true, false⟩])[cid]? = s.servers[cid]? := List.getElem?_append_left hlt
    have hbefore : s.Pending cid := by
      rcases hpending with hsending | ⟨hstage, hunset⟩
      · exact .inl hsending
      · refine .inr ⟨hstage, ?_⟩
        unfold signaled at hunset ⊢
        rwa [hsame] at hunset
    rw [hsame]
    exact h.2 cid hbefore
  · simp
  · -- nobody holds the number of a connection that has not been made
    rcases hpending with hsending | ⟨hstage, hunset⟩
    · have hold := h.2 cid (.inl hsending)
      rw [connected, List.getElem?_eq_none (by omega)] at hold
      cases hold
    · have hold := h.2 cid (.inr ⟨hstage, by rw [signaled, List.getElem?_eq_none (by omega)]; rfl⟩)
      rw [connected, List.getElem?_eq_none (by omega)] at hold
      cases hold

theorem Safe.disconnect (h : Safe s) {cid : ℕ} (hcareful : ¬s.Pending cid) : Safe (s.disconnect cid) := by
  have hother : ∀ other, cid ≠ other → (s.disconnect cid).servers[other]? = s.servers[other]? := by
    intro other hne
    exact List.getElem?_modify_ne _ _ hne
  have hflag : ∀ other, (s.disconnect cid).signaled other = s.signaled other := by
    intro other
    unfold signaled
    by_cases hne : cid = other
    · subst hne
      have hself : (s.disconnect cid).servers[cid]? =
          s.servers[cid]?.map (fun server => { server with connected := false }) :=
        List.getElem?_modify_eq _ _ _
      rw [hself]
      cases s.servers[cid]? <;> rfl
    · rw [hother other hne]
  refine ⟨h.1, ?_⟩
  intro other hpending
  have hbefore : s.Pending other := by
    unfold Pending at hpending ⊢
    rw [hflag] at hpending
    exact hpending
  have hne : cid ≠ other := by
    rintro rfl
    exact hcareful hbefore
  unfold connected
  rw [hother other hne]
  exact h.2 other hbefore

theorem Safe.answers {M : ManagerCrates} (h : Safe s) {c : ManagerCall M} {r : c.Reply}
    (hanswer : (surroundings M careful).answers c s r t) : Safe t := by
  cases c with
  | observer_new =>
    obtain ⟨start, now, rfl⟩ := hanswer
    exact h.frame rfl rfl rfl
  | token_new =>
    obtain ⟨-, rfl⟩ := hanswer
    exact h.frame rfl rfl rfl
  | spawn secs =>
    cases r with
    | error e => exact (show t = s from hanswer) ▸ h
    | ok cid =>
      obtain ⟨-, rfl⟩ := hanswer
      exact h.spawn
  | current =>
    obtain ⟨-, w, -, rfl⟩ := hanswer
    exact h.frame rfl rfl rfl
  | subscribe last token cid =>
    obtain ⟨-, w, -, rfl⟩ := hanswer
    exact h.frame rfl rfl rfl
  | disconnect cid =>
    obtain ⟨hcareful, rfl⟩ := hanswer
    exact h.disconnect hcareful
  | is_cancelled token => exact hanswer.2 ▸ h
  | wait_for_connection => exact hanswer.2 ▸ h
  | new_provision => exact (show t = s from hanswer) ▸ h
  | read_once => exact (show t = s from hanswer) ▸ h
  | close => exact (show t = s from hanswer) ▸ h
  | generate_identity_key_pair => exact (show t = s from hanswer) ▸ h
  | xous_names => exact (show t = s from hanswer) ▸ h
  | modals => exact (show t = s from hanswer) ▸ h
  | show_notification uri => exact (show t = s from hanswer) ▸ h
  | wait_and_take_binary cid => exact (show t = s from hanswer) ▸ h
  | send_cancel cid => exact (show t = s from hanswer) ▸ h
  | link c => exact (show t = s from hanswer) ▸ h

end Safety

def start : Attempts := ⟨Wifi.created .Unknown 0, false, [], [], [], none, []⟩

/-- In a careful run of `Manager::link` no flap is signalled on a connection that is gone. -/
theorem no_send_on_dead_cid (M : ManagerCrates) (name : String) (o : Option (Except AttemptError Bool)) (t : Attempts)
    (hpass : Passes (surroundings M careful) (Manager.link name).run start o t) : ∀ e ∈ t.sends, e.2 = true := by
  have hstart : Safe start := ⟨fun e he => (nomatch he), fun cid hpending => absurd hpending (not_pending (.inl rfl))⟩
  have hkeeps := keeps_invariant (W := surroundings M careful) (I := Safe) (fun s t h hmove => h.moves hmove)
    (fun c s r t h hanswer => h.answers hanswer) (Manager.link name).run
  exact (hkeeps start o t hstart hpass).1.1

section Runs

variable {M : ManagerCrates} {s t : Attempts}

def runActs (s : Attempts) : List FlapAct → Option Attempts
  | [] => some s
  | a :: rest => (s.step a).bind (fun t => t.runActs rest)

theorem moves_anyhow {acts : List FlapAct} (h : s.runActs acts = some t) :
    Relation.ReflTransGen (surroundings M anyhow).moves s t := by
  induction acts generalizing s with
  | nil =>
    obtain rfl := Option.some.inj h
    exact .refl
  | cons a rest ih =>
    obtain ⟨u, hstep, hrest⟩ := Option.bind_eq_some_iff.mp h
    exact .head ⟨a, trivial, hstep⟩ (ih hrest)

theorem step_connected {a : FlapAct} (hstep : s.step a = some t) :
    t.targets = s.targets ∧ ∀ cid, t.connected cid = s.connected cid := by
  have hmap : ∀ {x : WifiAct} {f : Option OnFlap},
      (s.wifi.step x).map (fun w => { s with wifi := w, on_flap := f }) = some t →
        t.targets = s.targets ∧ ∀ cid, t.connected cid = s.connected cid := by
    intro x f h
    obtain ⟨w, -, rfl⟩ := Option.map_eq_some_iff.mp h
    exact ⟨rfl, fun _ => rfl⟩
  cases a with
  | token =>
    simp only [step] at hstep
    split at hstep
    · obtain rfl := Option.some.inj hstep
      exact ⟨rfl, fun _ => rfl⟩
    · cases hstep
  | swap =>
    simp only [step] at hstep
    split at hstep
    · split at hstep
      · cases hstep
      · next server hserver =>
        split_ifs at hstep with hset
        · obtain rfl := Option.some.inj hstep
          exact ⟨rfl, fun _ => rfl⟩
        · obtain rfl := Option.some.inj hstep
          exact ⟨rfl, connected_set hserver⟩
    · cases hstep
  | send =>
    simp only [step] at hstep
    split at hstep
    · obtain rfl := Option.some.inj hstep
      exact ⟨rfl, fun _ => rfl⟩
    · cases hstep
  | wifi a =>
    cases a with
    | current => cases hstep
    | subscribe => cases hstep
    | call =>
      obtain ⟨w, -, rfl⟩ := Option.map_eq_some_iff.mp hstep
      obtain ⟨hservers, htargets, -⟩ := s.enter_frame w
      refine ⟨htargets, ?_⟩
      intro cid
      unfold connected
      rw [hservers]
    | receive =>
      simp only [step] at hstep
      split_ifs at hstep
      exact hmap hstep
    | returned =>
      simp only [step] at hstep
      split_ifs at hstep
      exact hmap hstep
    | change x => exact hmap hstep
    | tick => exact hmap (x := .tick) hstep
    | copy => exact hmap hstep
    | finish => exact hmap hstep

theorem moves_careful {acts : List FlapAct} (hconnected : ∀ target ∈ s.targets, s.connected target.2 = true)
    (h : s.runActs acts = some t) : Relation.ReflTransGen (surroundings M careful).moves s t := by
  induction acts generalizing s with
  | nil =>
    obtain rfl := Option.some.inj h
    exact .refl
  | cons a rest ih =>
    obtain ⟨u, hstep, hrest⟩ := Option.bind_eq_some_iff.mp h
    have hacts : careful.acts s a := by
      cases a with
      | wifi a =>
        cases a with
        | call =>
          intro t ht token cid hflap
          obtain ⟨w, -, rfl⟩ := Option.map_eq_some_iff.mp ht
          obtain ⟨target, hmem, htarget⟩ := enter_on_flap hflap
          obtain ⟨rfl, rfl⟩ := OnFlap.entered.inj htarget
          exact .inl (hconnected target hmem)
        | _ => trivial
      | _ => trivial
    obtain ⟨htargets, hkept⟩ := step_connected hstep
    refine .head ⟨a, hacts, hstep⟩ (ih ?_ hrest)
    rw [htargets]
    intro target hmem
    rw [hkept]
    exact hconnected target hmem

end Runs

section Device

def djbKey : String := "BQAAAAAAAAAAAAAAAAAAAAAAAAAAAAAAAAAAAAAAAAAA"

abbrev deviceCrates : ManagerCrates where
  toLinkCrates := phoneCrates
  decode_uuid := fun b => if b = [0x0a, 4, 0x75, 0x75, 0x69, 0x64] then .ok "uuid" else .error "invalid tag"
  parse_with_params := fun base params =>
    .ok (base ++ "?" ++ "&".intercalate (params.map (fun p => p.1 ++ "=" ++ p.2)))
  decode_provision := fun _ b => if b = [0x0a, 1, 5] then .ok phoneMessage else .error "invalid envelope"

def deviceIdentity : IdentityKeyPair := ⟨"", djbKey, zeroKey⟩

theorem length_djbKey : ((base64UrlDecode djbKey).getD []).length = 33 := by
  decide +kernel

theorem deviceLinkUri_device : ∃ uri, deviceLinkUri (M := deviceCrates) "uuid" deviceIdentity = pure uri := by
  unfold deviceLinkUri
  dsimp only [deviceIdentity]
  rw [if_neg (not_not.mpr length_djbKey)]
  exact ⟨_, rfl⟩

def begun : Attempts := ⟨Wifi.created .Disconnected 0, true, [false], [], [], none, []⟩

def spawned : Attempts := { begun with servers := [⟨true, false⟩] }

def watching : Attempts :=
  { spawned with
    wifi := { begun.wifi with watchers := [⟨.Unknown, 0⟩] }
    targets := [(0, 0)] }

def finished : Attempts := watching.disconnect 0

variable {R : Regime}

theorem passes_readUuid : Passes (surroundings deviceCrates R) readUuid.run begun (some (.ok "uuid")) begun := by
  have hread : Passes (surroundings deviceCrates R) (manage .read_once).run begun
      (some (.ok (Except.ok (WsMessage.Binary [0x0a, 4, 0x75, 0x75, 0x69, 0x64])))) begun := Passes.call rfl
  exact hread.bind_ok (.done _ _)

theorem passes_connectModals :
    Passes (surroundings deviceCrates R) connectModals.run begun (some (.ok ())) begun := by
  have hnames : Passes (surroundings deviceCrates R) (manage .xous_names).run begun (some (.ok (Except.ok ()))) begun :=
    Passes.call rfl
  have hmodals : Passes (surroundings deviceCrates R) (manage .modals).run begun (some (.ok (Except.ok ()))) begun :=
    Passes.call rfl
  exact hnames.bind_ok (hmodals.bind_ok (.done _ _))

theorem passes_flapWatcher :
    Passes (surroundings deviceCrates R) (FlapWatcher.new 0 0).run spawned (some (.ok ())) watching :=
  Passes.bind_ok (Passes.call (r := LinkState.Unknown) ⟨rfl, _, rfl, rfl⟩) (Passes.call ⟨rfl, _, rfl, rfl⟩)

theorem passes_spawn : Passes (surroundings deviceCrates R) (manage (.spawn 180)).run begun
    (some (.ok (Except.ok 0))) spawned :=
  Passes.call ⟨rfl, rfl⟩

theorem passes_awaitEnvelope_moves {uri : String} {t : Attempts}
    (hmoves : Relation.ReflTransGen (surroundings deviceCrates R).moves watching t) :
    Passes (surroundings deviceCrates R) (awaitEnvelope 0 uri).run begun none t :=
  passes_spawn.bind_ok (passes_flapWatcher.bind_ok (passes_of_moves hmoves))

theorem passes_awaitEnvelope {uri : String} (hdisconnect : R.disconnects watching 0) :
    Passes (surroundings deviceCrates R) (awaitEnvelope 0 uri).run begun
      (some (.ok (.Binary [0x0a, 1, 5]))) finished := by
  have hshow : Passes (surroundings deviceCrates R) (manage (.show_notification uri)).run watching
      (some (.ok (Except.ok ()))) watching := Passes.call rfl
  have hwait : Passes (surroundings deviceCrates R) (manage (.wait_and_take_binary 0)).run watching
      (some (.ok (WsResult.Binary [0x0a, 1, 5]))) watching := Passes.call rfl
  have hsend : Passes (surroundings deviceCrates R) (manage (.send_cancel 0)).run watching
      (some (.ok (Except.ok ()))) watching := Passes.call rfl
  have hgone : Passes (surroundings deviceCrates R) (manage (.disconnect 0)).run watching (some (.ok ())) finished :=
    Passes.call ⟨hdisconnect, rfl⟩
  have hcancel : Passes (surroundings deviceCrates R) (SignalWsServer.cancel 0).run watching
      (some (.ok (.ok ()))) finished := hsend.bind_ok (hgone.bind_ok (.done _ _))
  exact passes_spawn.bind_ok (passes_flapWatcher.bind_ok
    (hshow.bind_ok (hwait.bind_ok (hcancel.bind_ok (.done _ _)))))

theorem passes_provision_one_attempt {o : Option (Except AttemptError (Bytes × IdentityKeyPair))} {t : Attempts}
    (hawait : ∀ uri, Passes (surroundings deviceCrates R) (do
      match ← awaitEnvelope 0 uri with
      | .Binary b => pure (b, deviceIdentity)
      | .Closed => throw link_err
      | .TimedOut => throw link_err
      | .Cancelled => throw (.Interrupted "ws cancelled by flap watcher")
      | .Error _ => throw link_err : ManagerM deviceCrates (Bytes × IdentityKeyPair)).run begun o t) :
    Passes (surroundings deviceCrates R) (provision_one_attempt 0).run begun o t := by
  obtain ⟨uri, huri⟩ := deviceLinkUri_device
  have hprovision : Passes (surroundings deviceCrates R) (manage .new_provision).run begun
      (some (.ok (Except.ok ()))) begun := Passes.call rfl
  have hidentity : Passes (surroundings deviceCrates R) (manage .generate_identity_key_pair).run begun
      (some (.ok deviceIdentity)) begun := Passes.call rfl
  have hlink : Passes (surroundings deviceCrates R) (deviceLinkUri "uuid" deviceIdentity).run begun
      (some (.ok uri)) begun := by
    rw [huri]
    exact .done _ _
  exact hprovision.bind_ok (passes_readUuid.bind_ok (hidentity.bind_ok (hlink.bind_ok (passes_connectModals.bind_ok
      (hawait uri)))))

theorem passes_link {u : Attempts}
    (hrest : Passes (surroundings deviceCrates R)
      (provision_one_attempt (M := deviceCrates) 0).run begun none u ∨
      ∃ t, Passes (surroundings deviceCrates R) (provision_one_attempt (M := deviceCrates) 0).run begun
        (some (.ok ([0x0a, 1, 5], deviceIdentity))) t ∧
        Relation.ReflTransGen (surroundings deviceCrates R).moves t u) :
    Passes (surroundings deviceCrates R) (Manager.link "xous").run start none u := by
  have hnew : Passes (surroundings deviceCrates R) (manage .observer_new).run start (some (.ok (Except.ok ())))
      { begun with tokens := [] } := Passes.call ⟨.Disconnected, 0, rfl⟩
  have htoken : Passes (surroundings deviceCrates R) (manage .token_new).run { begun with tokens := [] }
      (some (.ok (0 : ℕ))) begun := Passes.call ⟨rfl, rfl⟩
  refine hnew.bind_ok (htoken.bind_ok ?_)
  rcases hrest with hattempt | ⟨t, hattempt, hmoves⟩
  · rw [ExceptT.run_bind]
    exact Passes.bind_stop (Passes.attempt hattempt)
  · exact Passes.bind_ok (Passes.attempt hattempt) (passes_of_moves hmoves)

def flapActs : List FlapAct :=
  [.wifi (.change .Connected), .wifi .receive, .wifi .copy, .wifi .call, .wifi .finish,
    .wifi (.change .Disconnected), .wifi .receive, .wifi .copy, .wifi .call, .token, .swap, .send]

/-- The attempt has succeeded, its connection is given up, and the link drops during `Account::link`. -/
theorem dead_cid_signalled : ∃ t, Passes (surroundings deviceCrates anyhow) (Manager.link "xous").run start none t ∧
    ¬∀ e ∈ t.sends, e.2 = true := by
  refine ⟨_, passes_link (.inr ⟨finished, ?_, moves_anyhow (show finished.runActs flapActs = some _ from rfl)⟩), ?_⟩
  · exact passes_provision_one_attempt (fun uri => (passes_awaitEnvelope trivial).bind_ok (.done _ _))
  · decide

theorem live_cid_signalled : ∃ t, Passes (surroundings deviceCrates careful) (Manager.link "xous").run start none t ∧
    t.sends.length = 1 ∧ ∀ e ∈ t.sends, e.2 = true := by
  obtain ⟨t, hrun, hlength⟩ : ∃ t, watching.runActs flapActs = some t ∧ t.sends.length = 1 := ⟨_, rfl, rfl⟩
  have hmoves := moves_careful (M := deviceCrates) (s := watching) (by decide) hrun
  have hpass : Passes (surroundings deviceCrates careful) (Manager.link "xous").run start none t := by
    refine passes_link (.inl (passes_provision_one_attempt (fun uri => ?_)))
    rw [ExceptT.run_bind]
    exact Passes.bind_stop (passes_awaitEnvelope_moves hmoves)
  exact ⟨t, hpass, hlength, no_send_on_dead_cid deviceCrates "xous" none t hpass⟩

end Device

end Attempts

end XousSignalClient
