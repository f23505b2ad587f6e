import XousSignalClient.Interaction.Fallible

namespace Interaction

namespace Program

variable {S : Signature} {σ α : Type}

theorem events_answered (h : Handler S σ) (p : Program S α) (s : σ) :
    ∀ e ∈ (p.run h s).events, e.reply = (h.answer e.call e.before).1 := by
  induction p generalizing s with
  | ret a => simp
  | ask c next ih =>
    intro e he
    rw [run_ask, List.mem_cons] at he
    rcases he with rfl | he
    · rfl
    · exact ih _ _ e he

end Program

namespace Fallible

variable {S : Signature} {σ ε ε' α β : Type}

def Ensures (h : Handler S σ) (x : Fallible S ε α) (s : σ)
    (Q : Except ε α → σ → List (Event S σ) → Prop) : Prop :=
  Q (x.exec h s).value (x.exec h s).state (x.exec h s).events

variable {h : Handler S σ} {s : σ} {Q R : Except ε α → σ → List (Event S σ) → Prop}

theorem Ensures.mono {x : Fallible S ε α} (hx : Ensures h x s Q)
    (hQR : ∀ v t es, Q v t es → R v t es) : Ensures h x s R :=
  hQR _ _ _ hx

theorem Ensures.and {x : Fallible S ε α} (hx : Ensures h x s Q) (hx' : Ensures h x s R) :
    Ensures h x s (fun v t es => Q v t es ∧ R v t es) := ⟨hx, hx'⟩

theorem ensures_pure {a : α} (hQ : Q (.ok a) s []) : Ensures h (pure a) s Q := hQ

theorem ensures_throw {e : ε} (hQ : Q (.error e) s []) : Ensures h (throw e) s Q := hQ

theorem ensures_ofExcept {r : Except ε α} (hQ : Q r s []) : Ensures h (ofExcept r) s Q := hQ

theorem ensures_bind {x : Fallible S ε β} {f : β → Fallible S ε α}
    {P : Except ε β → σ → List (Event S σ) → Prop} (hx : Ensures h x s P)
    (herr : ∀ e t es, P (.error e) t es → Q (.error e) t es)
    (hok : ∀ b t es, P (.ok b) t es → Ensures h (f b) t (fun v u es' => Q v u (es ++ es'))) :
    Ensures h (x >>= f) s Q := by
  rw [Ensures] at hx
  cases hv : (x.exec h s).value with
  | error e =>
    have ho : x.exec h s = ⟨.error e, (x.exec h s).state, (x.exec h s).events⟩ := by rw [← hv]
    rw [Ensures, exec_bind_error ho]
    rw [hv] at hx
    exact herr _ _ _ hx
  | ok b =>
    have ho : x.exec h s = ⟨.ok b, (x.exec h s).state, (x.exec h s).events⟩ := by rw [← hv]
    rw [Ensures, exec_bind_ok ho]
    rw [hv] at hx
    exact hok _ _ _ hx

theorem ensures_call {c : S.Call} {Q : Except ε (S.Reply c) → σ → List (Event S σ) → Prop}
    (hQ : Q (.ok (h.answer c s).1) (h.answer c s).2 [⟨s, c, (h.answer c s).1⟩]) :
    Ensures h (call c) s Q := hQ

theorem ensures_call_bind {c : S.Call} {f : S.Reply c → Fallible S ε α}
    (hf : Ensures h (f (h.answer c s).1) (h.answer c s).2
      (fun v t es => Q v t (⟨s, c, (h.answer c s).1⟩ :: es))) :
    Ensures h (call c >>= f) s Q := by
  rw [Ensures, exec_call_bind]
  exact hf

theorem ensures_ofExcept_bind {r : Except ε β} {f : β → Fallible S ε α}
    (herr : ∀ e, r = .error e → Q (.error e) s [])
    (hok : ∀ b, r = .ok b → Ensures h (f b) s Q) : Ensures h (ofExcept r >>= f) s Q := by
  cases r with
  | error e =>
    rw [Ensures, exec_ofExcept_error_bind]
    exact herr e rfl
  | ok b =>
    rw [Ensures, exec_ofExcept_ok_bind]
    exact hok b rfl

theorem ensures_ok_bind {b : β} {f : β → Fallible S ε α} (hf : Ensures h (f b) s Q) :
    Ensures h (ofExcept (.ok b) >>= f) s Q := by
  rw [Ensures, exec_ofExcept_ok_bind]
  exact hf

theorem ensures_attempt_bind {x : Fallible S ε' β} {f : Except ε' β → Fallible S ε α}
    {P : Except ε' β → σ → List (Event S σ) → Prop} (hx : Ensures h x s P)
    (hf : ∀ r t es, P r t es → Ensures h (f r) t (fun v u es' => Q v u (es ++ es'))) :
    Ensures h (x.attempt >>= f) s Q := by
  rw [Ensures, exec_bind_ok (exec_attempt h x s)]
  exact hf _ _ _ hx

theorem ensures_lift_bind {p : Program S β} {f : β → Fallible S ε α}
    (hf : Ensures h (f (p.run h s).value) (p.run h s).state (fun v t es => Q v t ((p.run h s).events ++ es))) :
    Ensures h (ExceptT.lift p >>= f) s Q := by
  rw [Ensures, exec_bind_ok (exec_lift h p s)]
  exact hf

theorem ensures_mapError {x : Fallible S ε' α} {g : ε' → ε}
    (hx : Ensures h x s (fun v t es => Q (v.mapError g) t es)) : Ensures h (x.mapError g) s Q := by
  rw [Ensures, exec_mapError]
  exact hx

theorem ensures_only {P : S.Call → Prop} {x : Fallible S ε α} (hx : Program.Only P x.run) :
    Ensures h x s (fun _ _ es => ∀ e ∈ es, P e.call) :=
  hx.events h s

end Fallible

end Interaction
