import XousSignalClient.Interaction.Ensures

namespace Interaction

/-- What a computation may leave in its trace, by how it ends. A trace that ended well can be continued. -/
structure Contract (S : Signature) (σ ε : Type) where
  ok : List (Event S σ) → Prop
  error : ε → List (Event S σ) → Prop
  ok_nil : ok []
  ok_append : ∀ es es', ok es → ok es' → ok (es ++ es')
  error_append : ∀ es e es', ok es → error e es' → error e (es ++ es')

namespace Contract

variable {S : Signature} {σ ε α : Type}

def Holds (K : Contract S σ ε) : Except ε α → List (Event S σ) → Prop
  | .ok _, es => K.ok es
  | .error e, es => K.error e es

theorem Holds.prepend {K : Contract S σ ε} {v : Except ε α} {es es' : List (Event S σ)} (hes : K.ok es)
    (hv : K.Holds v es') : K.Holds v (es ++ es') := by
  cases v with
  | ok a => exact K.ok_append es es' hes hv
  | error e => exact K.error_append es e es' hes hv

end Contract

namespace Fallible

variable {S : Signature} {σ ε ε' α β : Type} {h : Handler S σ} {K : Contract S σ ε}

def Follows (h : Handler S σ) (K : Contract S σ ε) (x : Fallible S ε α) : Prop :=
  ∀ s, Ensures h x s (fun v _ es => K.Holds v es)

theorem follows_pure (a : α) : Follows h K (pure a) := fun _ => K.ok_nil

theorem follows_ofExcept {r : Except ε α} (hr : ∀ e, r = .error e → K.error e []) :
    Follows h K (ofExcept r) := by
  intro s
  apply ensures_ofExcept
  cases r with
  | ok a => exact K.ok_nil
  | error e => exact hr e rfl

theorem follows_throw {e : ε} (he : K.error e []) : Follows h K (throw e : Fallible S ε α) := fun _ => he

theorem follows_call {c : S.Call} (hc : ∀ s r, K.ok [⟨s, c, r⟩]) : Follows h K (call c : Fallible S ε (S.Reply c)) :=
  fun s => hc s (h.answer c s).1

theorem follows_bind {x : Fallible S ε β} {f : β → Fallible S ε α} (hx : Follows h K x)
    (hf : ∀ b, Follows h K (f b)) : Follows h K (x >>= f) := by
  intro s
  apply ensures_bind (hx s)
  · exact fun e t es hes => hes
  · intro b t es hes
    apply (hf b t).mono
    exact fun v u es' hes' => Contract.Holds.prepend hes hes'

end Fallible

end Interaction
