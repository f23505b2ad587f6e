namespace Interaction

structure Machine (Op Reply σ : Type) where
  step : Op → σ → Reply × σ

abbrev Spec (Op Reply α : Type) := Op → α → Reply → α → Prop

variable {Op Reply σ α : Type}

def Machine.run (M : Machine Op Reply σ) : List Op → σ → List (Op × Reply) × σ
  | [], s => ([], s)
  | op :: ops, s =>
    let o := M.step op s
    let rest := M.run ops o.2
    ((op, o.1) :: rest.1, rest.2)

inductive Spec.Run (A : Spec Op Reply α) : α → List (Op × Reply) → α → Prop
  | nil (a : α) : A.Run a [] a
  | cons {a b c : α} {op : Op} {r : Reply} {rest : List (Op × Reply)} (hstep : A op a r b) (hrest : A.Run b rest c) :
      A.Run a ((op, r) :: rest) c

def Simulates (M : Machine Op Reply σ) (A : Spec Op Reply α) (R : σ → α → Prop) (Allowed : Op → Prop) : Prop :=
  ∀ op s a, Allowed op → R s a → ∃ b, A op a (M.step op s).1 b ∧ R (M.step op s).2 b

theorem Simulates.run {M : Machine Op Reply σ} {A : Spec Op Reply α} {R : σ → α → Prop} {Allowed : Op → Prop}
    (h : Simulates M A R Allowed) {ops : List Op} (hops : ∀ op ∈ ops, Allowed op) {s : σ} {a : α} (ha : R s a) :
    ∃ b, A.Run a (M.run ops s).1 b ∧ R (M.run ops s).2 b := by
  induction ops generalizing s a with
  | nil => exact ⟨a, .nil a, ha⟩
  | cons op ops ih =>
    obtain ⟨b, hstep, hb⟩ := h op s a (hops op List.mem_cons_self) ha
    obtain ⟨c, hrest, hc⟩ := ih (fun op' hop' => hops op' (List.mem_cons_of_mem _ hop')) hb
    exact ⟨c, .cons hstep hrest, hc⟩

end Interaction
