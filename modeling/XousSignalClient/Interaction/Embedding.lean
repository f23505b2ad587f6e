import XousSignalClient.Interaction.Ensures

namespace Interaction

namespace Program

variable {S T : Signature} {σ α : Type}

/-- A program whose calls are each made as one call of another signature leaves the same trace, translated. -/
theorem run_interp_events {impl : (c : S.Call) → Program T (S.Reply c)} {h : Handler T σ} {h' : Handler S σ}
    {lift : Event S σ → Event T σ}
    (himpl : ∀ c t, (impl c).run h t =
      ⟨(h'.answer c t).1, (h'.answer c t).2, [lift ⟨t, c, (h'.answer c t).1⟩]⟩)
    (p : Program S α) (t : σ) :
    (p.interp impl).run h t = ⟨(p.run h' t).value, (p.run h' t).state, (p.run h' t).events.map lift⟩ := by
  induction p generalizing t with
  | ret a => rfl
  | ask c next ih =>
    rw [interp, run_bind, himpl c t, run_ask]
    dsimp only
    rw [ih]
    rfl

theorem only_interp {Q : T.Call → Prop} {impl : (c : S.Call) → Program T (S.Reply c)}
    (himpl : ∀ c, Only Q (impl c)) (p : Program S α) : Only Q (p.interp impl) := by
  induction p with
  | ret a => exact .ret a
  | ask c next ih => exact (himpl c).bind ih

theorem state_foldl {β δ : Type} {h : Handler S σ} (part : σ → β) (effect : β → δ → β)
    (change : Event S σ → Option δ)
    (hstep : ∀ c s, part (h.answer c s).2 = (change ⟨s, c, (h.answer c s).1⟩).elim (part s) (effect (part s)))
    (p : Program S α) (s : σ) :
    part (p.run h s).state = ((p.run h s).events.filterMap change).foldl effect (part s) := by
  induction p generalizing s with
  | ret a => rfl
  | ask c next ih =>
    rw [run_ask]
    dsimp only
    rw [ih, hstep]
    cases hchange : change ⟨s, c, (h.answer c s).1⟩ with
    | none =>
      rw [List.filterMap_cons_none hchange]
      rfl
    | some d =>
      rw [List.filterMap_cons_some hchange, List.foldl_cons]
      rfl

end Program

end Interaction
