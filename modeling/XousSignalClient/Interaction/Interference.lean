import Mathlib.Logic.Relation
import XousSignalClient.Interaction.Fallible

namespace Interaction

/-- Surroundings that may answer a request in several ways, and that change on their own between the
requests of a program. -/
structure Surroundings (S : Signature) (σ : Type) where
  answers : (c : S.Call) → σ → S.Reply c → σ → Prop
  moves : σ → σ → Prop

variable {S : Signature} {σ α β ε : Type}

inductive Passes (W : Surroundings S σ) : Program S α → σ → Option α → σ → Prop where
  | stop (p : Program S α) (s : σ) : Passes W p s none s
  | done (a : α) (s : σ) : Passes W (.ret a) s (some a) s
  | move {p : Program S α} {s t u : σ} {o : Option α} (hmove : W.moves s t) (hrest : Passes W p t o u) :
      Passes W p s o u
  | ask {c : S.Call} {next : S.Reply c → Program S α} {s t u : σ} {r : S.Reply c} {o : Option α}
      (hanswer : W.answers c s r t) (hrest : Passes W (next r) t o u) : Passes W (.ask c next) s o u

def Surroundings.Stable (W : Surroundings S σ) (P : σ → Prop) : Prop := ∀ s t, P s → W.moves s t → P t

def Keeps (W : Surroundings S σ) (C P : σ → Prop) (p : Program S α) (Q : α → σ → Prop) : Prop :=
  ∀ s o t, P s → Passes W p s o t → C t ∧ ∀ a, o = some a → Q a t

section Rules

variable {W : Surroundings S σ} {C P : σ → Prop} {Q : α → σ → Prop}

theorem Keeps.mono {P' : σ → Prop} {Q' : α → σ → Prop} {p : Program S α} (h : Keeps W C P p Q)
    (hP : ∀ s, P' s → P s) (hQ : ∀ a s, Q a s → Q' a s) : Keeps W C P' p Q' := by
  intro s o t hs hpass
  obtain ⟨hC, hres⟩ := h s o t (hP s hs) hpass
  exact ⟨hC, fun a ha => hQ a t (hres a ha)⟩

theorem Keeps.and {C' P' : σ → Prop} {Q' : α → σ → Prop} {p : Program S α} (h : Keeps W C P p Q)
    (h' : Keeps W C' P' p Q') :
    Keeps W (fun s => C s ∧ C' s) (fun s => P s ∧ P' s) p (fun a s => Q a s ∧ Q' a s) := by
  intro s o t hs hpass
  obtain ⟨hC, hres⟩ := h s o t hs.1 hpass
  obtain ⟨hC', hres'⟩ := h' s o t hs.2 hpass
  exact ⟨⟨hC, hC'⟩, fun a ha => ⟨hres a ha, hres' a ha⟩⟩

theorem Keeps.imp {C' : σ → Prop} {p : Program S α} (h : Keeps W C P p Q) (hC : ∀ s, C s → C' s) :
    Keeps W C' P p Q := by
  intro s o t hs hpass
  exact ⟨hC t (h s o t hs hpass).1, (h s o t hs hpass).2⟩

theorem keeps_exists {ι : Sort*} {P : ι → σ → Prop} {p : Program S α} (h : ∀ i, Keeps W C (P i) p Q) :
    Keeps W C (fun s => ∃ i, P i s) p Q :=
  fun s o t hs hpass => hs.elim (fun i hi => h i s o t hi hpass)

theorem keeps_pure {F : Prop} {p : Program S α} (h : F → Keeps W C P p Q) : Keeps W C (fun s => F ∧ P s) p Q :=
  fun s o t hs hpass => h hs.1 s o t hs.2 hpass

theorem keeps_ret {a : α} (hstable : W.Stable P) (hC : ∀ s, P s → C s) (hQ : ∀ s, P s → Q a s) :
    Keeps W C P (.ret a) Q := by
  intro s o t hs hpass
  generalize hp : (Program.ret a : Program S α) = p at hpass
  induction hpass with
  | stop p s => exact ⟨hC s hs, by simp⟩
  | done b s =>
    obtain rfl := Program.ret.inj hp
    refine ⟨hC s hs, ?_⟩
    intro b hb
    obtain rfl := Option.some.inj hb
    exact hQ s hs
  | move hmove hrest ih => exact ih (hstable _ _ hs hmove) hp
  | ask hanswer hrest ih => cases hp

theorem keeps_ask {c : S.Call} {next : S.Reply c → Program S α} {M : S.Reply c → σ → Prop}
    (hstable : W.Stable P) (hC : ∀ s, P s → C s) (hanswer : ∀ s r t, P s → W.answers c s r t → M r t)
    (hnext : ∀ r, Keeps W C (M r) (next r) Q) : Keeps W C P (.ask c next) Q := by
  intro s o t hs hpass
  generalize hp : Program.ask c next = p at hpass
  induction hpass with
  | stop p s => exact ⟨hC s hs, by simp⟩
  | done b s => cases hp
  | move hmove hrest ih => exact ih (hstable _ _ hs hmove) hp
  | ask ha hrest ih =>
    obtain ⟨rfl, hn⟩ := Program.ask.inj hp
    obtain rfl := eq_of_heq hn
    exact hnext _ _ _ _ (hanswer _ _ _ hs ha) hrest

theorem passes_bind {p : Program S α} {f : α → Program S β} {s t : σ} {o : Option β}
    (h : Passes W (p >>= f) s o t) :
    (o = none ∧ Passes W p s none t) ∨ ∃ a u, Passes W p s (some a) u ∧ Passes W (f a) u o t := by
  generalize hq : p >>= f = q at h
  induction h generalizing p with
  | stop q s => exact .inl ⟨rfl, .stop p s⟩
  | done b s =>
    cases p with
    | ret a => exact .inr ⟨a, s, .done a s, by rw [Program.ret_bind] at hq; rw [hq]; exact .done b s⟩
    | ask c next => cases hq
  | move hmove hrest ih =>
    rcases ih hq with ⟨ho, hp⟩ | ⟨a, u, hp, hf⟩
    · exact .inl ⟨ho, .move hmove hp⟩
    · exact .inr ⟨a, u, .move hmove hp, hf⟩
  | ask ha hrest ih =>
    cases p with
    | ret a =>
      rw [Program.ret_bind] at hq
      exact .inr ⟨a, _, .done a _, by rw [hq]; exact .ask ha hrest⟩
    | ask c next =>
      rw [Program.ask_bind] at hq
      obtain ⟨rfl, hn⟩ := Program.ask.inj hq
      obtain rfl := eq_of_heq hn
      rcases ih rfl with ⟨ho, hp⟩ | ⟨a, u, hp, hf⟩
      · exact .inl ⟨ho, .ask ha hp⟩
      · exact .inr ⟨a, u, .ask ha hp, hf⟩

theorem Passes.bind {p : Program S β} {f : β → Program S α} {s t u : σ} {o : Option α} {b : β}
    (hp : Passes W p s (some b) u) (hf : Passes W (f b) u o t) : Passes W (p >>= f) s o t := by
  generalize hr : some b = r at hp
  induction hp with
  | stop p s => cases hr
  | done a s =>
    obtain rfl := Option.some.inj hr
    exact hf
  | move hmove _ ih => exact .move hmove (ih hf hr)
  | ask hanswer _ ih => exact .ask hanswer (ih hf hr)

theorem Passes.bind_stop {p : Program S β} {f : β → Program S α} {s t : σ} (hp : Passes W p s none t) :
    Passes W (p >>= f) s none t := by
  generalize hr : none = r at hp
  induction hp with
  | stop p s => exact .stop _ s
  | done a s => cases hr
  | move hmove _ ih => exact .move hmove (ih hr)
  | ask hanswer _ ih => exact .ask hanswer (ih hr)

theorem Passes.bind_ok {x : Fallible S ε β} {f : β → Fallible S ε α} {s t u : σ} {o : Option (Except ε α)} {b : β}
    (hx : Passes W x.run s (some (.ok b)) u) (hf : Passes W (f b).run u o t) : Passes W (x >>= f).run s o t := by
  rw [ExceptT.run_bind]
  exact hx.bind hf

theorem Passes.call {c : S.Call} {s t : σ} {r : S.Reply c} (hanswer : W.answers c s r t) :
    Passes W (Fallible.call (ε := ε) c).run s (some (.ok r)) t :=
  .ask hanswer (.done _ t)

theorem Passes.attempt {ε' : Type} {x : Fallible S ε β} {s t : σ} {o : Option (Except ε β)}
    (hx : Passes W x.run s o t) : Passes W (x.attempt : Fallible S ε' (Except ε β)).run s (o.map .ok) t := by
  rw [Fallible.attempt, ExceptT.run_lift, map_eq_pure_bind]
  cases o with
  | none => exact hx.bind_stop
  | some r => exact hx.bind (.done _ t)

theorem keeps_bind {p : Program S β} {f : β → Program S α} {M : β → σ → Prop} (hp : Keeps W C P p M)
    (hf : ∀ b, Keeps W C (M b) (f b) Q) : Keeps W C P (p >>= f) Q := by
  intro s o t hs hpass
  rcases passes_bind hpass with ⟨rfl, hstop⟩ | ⟨b, u, hfirst, hrest⟩
  · exact ⟨(hp s none t hs hstop).1, by simp⟩
  · exact hf b u o t ((hp s (some b) u hs hfirst).2 b rfl) hrest

theorem keeps_bind_fallible {x : Fallible S ε β} {f : β → Fallible S ε α} {M : Except ε β → σ → Prop}
    {Q : Except ε α → σ → Prop} (hx : Keeps W C P x.run M)
    (herr : ∀ e, Keeps W C (M (.error e)) (.ret (.error e)) Q)
    (hok : ∀ b, Keeps W C (M (.ok b)) (f b).run Q) : Keeps W C P (x >>= f).run Q := by
  rw [ExceptT.run_bind]
  refine keeps_bind hx ?_
  rintro (e | b)
  · exact herr e
  · exact hok b

theorem keeps_only {G : S.Call → Prop} {I : σ → Prop} {p : Program S α} (hp : p.Only G) (hstable : W.Stable I)
    (hC : ∀ s, I s → C s) (hanswer : ∀ c s r t, G c → I s → W.answers c s r t → I t) :
    Keeps W C I p (fun _ => I) := by
  induction hp with
  | ret a => exact keeps_ret hstable hC (fun _ hs => hs)
  | ask c next hc _ ih => exact keeps_ask hstable hC (fun s r t hs ha => hanswer c s r t hc hs ha) ih

theorem keeps_invariant {I : σ → Prop} (hstable : W.Stable I)
    (hanswer : ∀ c s r t, I s → W.answers c s r t → I t) (p : Program S α) : Keeps W I I p (fun _ => I) := by
  induction p with
  | ret a => exact keeps_ret hstable (fun _ h => h) (fun _ h => h)
  | ask c next ih => exact keeps_ask hstable (fun _ h => h) (hanswer c) ih

theorem keeps_call_bind {c : S.Call} {f : S.Reply c → Fallible S ε β} {M : S.Reply c → σ → Prop}
    {Q : Except ε β → σ → Prop} (hstable : W.Stable P) (hC : ∀ s, P s → C s)
    (hanswer : ∀ s r t, P s → W.answers c s r t → M r t) (hnext : ∀ r, Keeps W C (M r) (f r).run Q) :
    Keeps W C P (Fallible.call c >>= f).run Q :=
  keeps_ask hstable hC hanswer hnext

theorem keeps_lift_bind {p : Program S β} {f : β → Fallible S ε α} {M : β → σ → Prop}
    {Q : Except ε α → σ → Prop} (hp : Keeps W C P p M) (hf : ∀ b, Keeps W C (M b) (f b).run Q) :
    Keeps W C P (ExceptT.lift p >>= f).run Q := by
  rw [ExceptT.run_bind_lift]
  exact keeps_bind hp hf

end Rules

/-- A program started over and over. It may be cut off, and then starts afresh, where `cut` allows it. -/
inductive Repeats (W : Surroundings S σ) (cut : σ → Prop) (p : Program S α) (s : σ) : σ → Prop where
  | start : Repeats W cut p s s
  | again {t u : σ} {a : α} (hprev : Repeats W cut p s t) (hpass : Passes W p t (some a) u) :
      Repeats W cut p s u
  | cutOff {t u : σ} (hprev : Repeats W cut p s t) (hpass : Passes W p t none u) (hcut : cut u) :
      Repeats W cut p s u

def Reaches (W : Surroundings S σ) (cut : σ → Prop) (p : Program S α) (s u : σ) : Prop :=
  ∃ t o, Repeats W cut p s t ∧ Passes W p t o u

section Repetition

variable {W : Surroundings S σ} {cut C I : σ → Prop} {p : Program S α} {s u : σ}

theorem Repeats.invariant (hround : Keeps W C I p (fun _ => I)) (hcut : ∀ t, C t → cut t → I t) (hs : I s)
    (h : Repeats W cut p s u) : I u := by
  induction h with
  | start => exact hs
  | again hprev hpass ih => exact (hround _ _ _ ih hpass).2 _ rfl
  | cutOff hprev hpass hc ih => exact hcut _ (hround _ _ _ ih hpass).1 hc

theorem Reaches.invariant (hround : Keeps W C I p (fun _ => I)) (hcut : ∀ t, C t → cut t → I t) (hs : I s)
    (h : Reaches W cut p s u) : C u := by
  obtain ⟨t, o, hrepeats, hpass⟩ := h
  exact (hround t o u (hrepeats.invariant hround hcut hs) hpass).1

end Repetition

def Program.runFor (h : Handler S σ) : ℕ → Program S α → σ → Option α × σ
  | _, .ret a, s => (some a, s)
  | 0, .ask _ _, s => (none, s)
  | n + 1, .ask c next, s => runFor h n (next (h.answer c s).1) (h.answer c s).2

theorem passes_runFor {τ : Type} {W : Surroundings S σ} {h : Handler S (σ × τ)}
    (hanswer : ∀ c s, W.answers c s.1 (h.answer c s).1 (h.answer c s).2.1) (n : ℕ) (p : Program S α)
    (s : σ × τ) : Passes W p s.1 (p.runFor h n s).1 (p.runFor h n s).2.1 := by
  induction n generalizing p s with
  | zero =>
    cases p with
    | ret a => exact .done a s.1
    | ask c next => exact .stop _ s.1
  | succ n ih =>
    cases p with
    | ret a => exact .done a s.1
    | ask c next => exact .ask (hanswer c s) (ih _ _)

theorem passes_of_moves {W : Surroundings S σ} {p : Program S α} {s t : σ}
    (hmoves : Relation.ReflTransGen W.moves s t) : Passes W p s none t := by
  induction hmoves using Relation.ReflTransGen.head_induction_on with
  | refl => exact .stop p t
  | head hmove _ ih => exact .move hmove ih

end Interaction
