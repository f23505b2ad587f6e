import XousSignalClient.Interaction.Ensures

namespace Interaction

namespace Program

theorem mem_events_interp {S T : Signature} {σ τ α : Type} {impl : (c : S.Call) → Program T (S.Reply c)}
    {h : Handler T τ} {h' : Handler S σ} (part : Part τ σ)
    (himpl : ∀ c t, ((impl c).run h t).value = (h'.answer c (part.get t)).1 ∧
      ((impl c).run h t).state = part.set t (h'.answer c (part.get t)).2)
    {P : Event S σ → Event T τ → Prop}
    (himage : ∀ c t, ∃ e ∈ ((impl c).run h t).events, P ⟨part.get t, c, (h'.answer c (part.get t)).1⟩ e)
    (p : Program S α) (t : τ) :
    ∀ e ∈ (p.run h' (part.get t)).events, ∃ e' ∈ ((p.interp impl).run h t).events, P e e' := by
  induction p generalizing t with
  | ret a =>
    intro e he
    cases he
  | ask c next ih =>
    intro e he
    obtain ⟨hv, hs⟩ := himpl c t
    rw [interp, run_bind, hv, hs]
    rw [run_ask, List.mem_cons] at he
    rcases he with rfl | he
    · obtain ⟨e', he', hP⟩ := himage c t
      exact ⟨e', List.mem_append_left _ he', hP⟩
    · have hnext := ih (h'.answer c (part.get t)).1 (part.set t (h'.answer c (part.get t)).2)
      rw [part.get_set] at hnext
      obtain ⟨e', he', hP⟩ := hnext e he
      exact ⟨e', List.mem_append_right _ he', hP⟩

end Program

namespace Fallible

variable {S : Signature} {σ ε ε' α β : Type} {h : Handler S σ}

def Yields (h : Handler S σ) (x : Fallible S ε α) (Q : α → List (Event S σ) → Prop) : Prop :=
  ∀ s, Ensures h x s (fun v _ es => ∀ a, v = .ok a → Q a es)

def Grows (Q : List (Event S σ) → Prop) : Prop := ∀ es es', Q es' → Q (es ++ es')

theorem grows_mem {P : Event S σ → Prop} : Grows (fun es => ∃ e ∈ es, P e) := by
  rintro es es' ⟨e, he, hP⟩
  exact ⟨e, List.mem_append_right es he, hP⟩

variable {Q : α → List (Event S σ) → Prop}

theorem Yields.mono {x : Fallible S ε α} {R : α → List (Event S σ) → Prop} (hx : Yields h x Q)
    (hQR : ∀ a es, Q a es → R a es) : Yields h x R :=
  fun s => (hx s).mono (fun _ _ es hQ a ha => hQR a es (hQ a ha))

theorem yields_pure {a : α} (hQ : Q a []) : Yields h (pure a : Fallible S ε α) Q := by
  rintro s b ⟨⟩
  exact hQ

theorem yields_throw {e : ε} : Yields h (throw e : Fallible S ε α) Q := by
  intro s a ha
  cases ha

theorem yields_bind {x : Fallible S ε β} {f : β → Fallible S ε α} {P : β → List (Event S σ) → Prop}
    (hx : Yields h x P) (hf : ∀ b es, P b es → Yields h (f b) (fun a es' => Q a (es ++ es'))) :
    Yields h (x >>= f) Q := by
  intro s
  apply ensures_bind (hx s)
  · intro e t es _ a ha
    cases ha
  · intro b t es hb
    exact hf b es (hb b rfl) t

theorem yields_trivial (x : Fallible S ε α) : Yields h x (fun _ _ => True) := fun _ _ _ => trivial

theorem yields_after {x : Fallible S ε β} {f : β → Fallible S ε α} (hgrows : ∀ a, Grows (Q a))
    (hf : ∀ b, Yields h (f b) Q) : Yields h (x >>= f) Q :=
  yields_bind (yields_trivial x) (fun b es _ s => (hf b s).mono (fun _ _ es' hQ a ha => hgrows a es es' (hQ a ha)))

theorem yields_attempt_bind {x : Fallible S ε' β} {f : Except ε' β → Fallible S ε α}
    {P : β → List (Event S σ) → Prop} (hx : Yields h x P)
    (hok : ∀ b es, P b es → Yields h (f (.ok b)) (fun a es' => Q a (es ++ es')))
    (herr : ∀ e es, Yields h (f (.error e)) (fun a es' => Q a (es ++ es'))) : Yields h (x.attempt >>= f) Q := by
  intro s
  apply ensures_attempt_bind (hx s)
  intro r t es hr
  cases r with
  | ok b => exact hok b es (hr b rfl) t
  | error e => exact herr e es t

end Fallible

end Interaction
