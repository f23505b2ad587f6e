import XousSignalClient.Interaction.Interleaving

namespace Interaction

variable {S : Signature} {σ ι α X Ω : Type} {h : Handler S σ}

structure Register (h : Handler S σ) (X : Type) where
  value : σ → X
  Reads : S.Call → Prop
  Changes : S.Call → Prop
  value_other : ∀ {c s}, ¬Changes c → value (h.answer c s).2 = value s

/-- How far a job is: it has read `x` and has left the register at `y`, or its effect has taken place. -/
inductive Progress (X : Type) where
  | before
  | inside (x y : X)
  | after

def Progress.Inside : Progress X → Prop
  | .inside _ _ => True
  | _ => False

/-- The rest of a job that reads the register once and replaces what it has read by `f` of it. -/
inductive Transaction (R : Register h X) (f : X → X) : Progress X → Program S α → Prop
  | quiet {stage : Progress X} {c : S.Call} {next : S.Reply c → Program S α} (hstage : ¬stage.Inside)
      (hreads : ¬R.Reads c) (hchanges : ¬R.Changes c) (hnext : ∀ r, Transaction R f stage (next r)) :
      Transaction R f stage (.ask c next)
  | read {c : S.Call} {next : S.Reply c → Program S α} (stage : σ → Progress X) (hreads : R.Reads c)
      (hchanges : ¬R.Changes c)
      (hstage : ∀ s, stage s = .inside (R.value s) (R.value s) ∨ stage s = .after ∧ f (R.value s) = R.value s)
      (hnext : ∀ s, Transaction R f (stage s) (next (h.answer c s).1)) : Transaction R f .before (.ask c next)
  | change {x y : X} {c : S.Call} {next : S.Reply c → Program S α} (stage : σ → Progress X) (hreads : ¬R.Reads c)
      (hchanges : R.Changes c)
      (hstage : ∀ s, R.value s = y → stage s = .inside x (R.value (h.answer c s).2) ∨
        stage s = .after ∧ R.value (h.answer c s).2 = f x)
      (hnext : ∀ s, R.value s = y → Transaction R f (stage s) (next (h.answer c s).1)) :
      Transaction R f (.inside x y) (.ask c next)
  | done (v : α) : Transaction R f .after (.ret v)

section Sequential

variable {R : Register h X} {f : X → X}

def Progress.outcome (f : X → X) (x₀ : X) : Progress X → X
  | .before => f x₀
  | .inside x _ => f x
  | .after => x₀

theorem Transaction.outcome {stage : Progress X} {p : Program S α} (hp : Transaction R f stage p) (s : σ)
    (hstage : ∀ x y, stage = .inside x y → R.value s = y) :
    R.value (p.run h s).state = stage.outcome f (R.value s) := by
  induction hp generalizing s with
  | @quiet stage c next hout hreads hchanges hnext ih =>
    have hkept := R.value_other (s := s) hchanges
    refine (ih _ _ ?_).trans ?_
    · rintro x y rfl
      exact absurd trivial hout
    · cases stage with
      | before => exact congrArg f hkept
      | inside x y => exact absurd trivial hout
      | after => exact hkept
  | @read c next stage hreads hchanges hstages hnext ih =>
    have hkept := R.value_other (s := s) hchanges
    refine (ih s _ ?_).trans ?_
    · intro x y hxy
      rcases hstages s with hin | ⟨hafter, -⟩
      · rw [hin] at hxy
        obtain ⟨-, rfl⟩ := Progress.inside.inj hxy
        exact hkept
      · rw [hafter] at hxy
        cases hxy
    · rcases hstages s with hin | ⟨hafter, hsame⟩
      · rw [hin]
        rfl
      · rw [hafter]
        exact hkept.trans hsame.symm
  | @change x y c next stage hreads hchanges hstages hnext ih =>
    have hy := hstage x y rfl
    refine (ih s hy _ ?_).trans ?_
    · intro x' y' hxy
      rcases hstages s hy with hin | ⟨hafter, -⟩
      · rw [hin] at hxy
        exact (Progress.inside.inj hxy).2
      · rw [hafter] at hxy
        cases hxy
    · rcases hstages s hy with hin | ⟨hafter, hvalue⟩
      · rw [hin]
        rfl
      · rw [hafter]
        exact hvalue
  | done v => rfl

theorem Transaction.run {p : Program S α} (hp : Transaction R f .before p) (s : σ) :
    R.value (p.run h s).state = f (R.value s) := hp.outcome s nofun

end Sequential

def replay (effect : Ω → X → X) (x₀ : X) (log : List (ι × Ω)) : X := log.foldl (fun x e => effect e.2 x) x₀

theorem replay_snoc (effect : Ω → X → X) (x₀ : X) (log : List (ι × Ω)) (i : ι) (op : Ω) :
    replay effect x₀ (log ++ [(i, op)]) = effect op (replay effect x₀ log) := by
  simp [replay]

section Pools

variable [DecidableEq ι]

def Worker.Asks (C : S.Call → Prop) (w : Worker S α) : Prop := ∃ c next rest, w.todo = .ask c next :: rest ∧ C c

def Pool.CalmStep (R : Register h X) (P Q : Pool S σ ι α) : Prop :=
  ∃ i, (P.workers i).todo ≠ [] ∧ Q = P.advance h i ∧
    ((P.workers i).Asks R.Reads → ∀ j, j ≠ i → ¬(P.workers j).Asks R.Changes)

variable {R : Register h X} {effect : Ω → X → X}

def Pool.permits (h : Handler S σ) (test : Pool S σ ι α → ι → Bool) (P : Pool S σ ι α) : List ι → Bool
  | [] => true
  | i :: order => test P i && (P.advance h i).permits h test order

theorem Pool.reachable_calm {test : Pool S σ ι α → ι → Bool}
    (htest : ∀ P i, test P i = true → P.CalmStep R (P.advance h i)) (P : Pool S σ ι α) (order : List ι)
    (horder : P.permits h test order = true) :
    Relation.ReflTransGen (Pool.CalmStep R) P (P.schedule h order) := by
  induction order generalizing P with
  | nil => exact .refl
  | cons i order ih =>
    rw [Pool.permits, Bool.and_eq_true] at horder
    exact (ih (P.advance h i) horder.2).head (htest P i horder.1)

def Transactions (R : Register h X) (effect : Ω → X → X) (stage : Progress X) : List Ω → List (Program S α) → Prop
  | [], ps => stage = .before ∧ ps = []
  | op :: ops, ps => ∃ p rest, ps = p :: rest ∧ Transaction R (effect op) stage p ∧
      List.Forall₂ (fun op p => Transaction R (effect op) .before p) ops rest

def Progress.owed : Progress X → List Ω → List Ω
  | .after, ops => ops.tail
  | _, ops => ops

theorem Transactions.start {ops : List Ω} {ps : List (Program S α)}
    (hps : List.Forall₂ (fun op p => Transaction R (effect op) .before p) ops ps) :
    Transactions R effect .before ops ps := by
  cases hps with
  | nil => exact ⟨rfl, rfl⟩
  | cons hp hrest => exact ⟨_, _, rfl, hp, hrest⟩

theorem Transactions.changes {stage : Progress X} {ops : List Ω} {w : Worker S α}
    (hw : Transactions R effect stage ops w.todo) (hstage : stage.Inside) : w.Asks R.Changes := by
  cases ops with
  | nil =>
    obtain ⟨rfl, -⟩ := hw
    exact hstage.elim
  | cons op ops =>
    obtain ⟨p, rest, hp, hjob, -⟩ := hw
    cases hjob with
    | quiet hout _ _ _ => exact absurd hstage hout
    | read _ _ _ _ _ => exact hstage.elim
    | change _ _ hchanges _ _ => exact ⟨_, _, rest, hp, hchanges⟩
    | done v => exact hstage.elim

structure Serialized (R : Register h X) (effect : Ω → X → X) (x₀ : X) (all : ι → List Ω) (P : Pool S σ ι α)
    (log : List (ι × Ω)) (stage : ι → Progress X) (ops : ι → List Ω) : Prop where
  jobs : ∀ i, Transactions R effect (stage i) (ops i) (P.workers i).todo
  outputs : ∀ i, committed i log ++ (stage i).owed (ops i) = all i
  held : ∀ i x y, stage i = .inside x y → x = replay effect x₀ log ∧ y = R.value P.state
  alone : ∀ i j, (stage i).Inside → (stage j).Inside → i = j
  settled : (∀ i, ¬(stage i).Inside) → R.value P.state = replay effect x₀ log

variable {x₀ : X} {all : ι → List Ω} {P Q : Pool S σ ι α} {log : List (ι × Ω)} {stage : ι → Progress X}
  {ops : ι → List Ω}

theorem Serialized.update (hP : Serialized R effect x₀ all P log stage ops) {i : ι} {s : σ} {w : Worker S α}
    {stage' : Progress X} {ops' : List Ω} {log' : List (ι × Ω)} (hjobs : Transactions R effect stage' ops' w.todo)
    (hself : committed i log' ++ stage'.owed ops' = all i) (hothers : ∀ j, j ≠ i → committed j log' = committed j log)
    (hkept : (∀ j, j ≠ i → ¬(stage j).Inside) ∨
      ¬stage'.Inside ∧ R.value s = R.value P.state ∧ replay effect x₀ log' = replay effect x₀ log)
    (hheld : ∀ x y, stage' = .inside x y → x = replay effect x₀ log' ∧ y = R.value s)
    (hsettled : ¬stage'.Inside → (∀ j, j ≠ i → ¬(stage j).Inside) → R.value s = replay effect x₀ log') :
    Serialized R effect x₀ all (P.update i s w) log' (Function.update stage i stage') (Function.update ops i ops') := by
  have hnew : ∀ j, j ≠ i → Function.update stage i stage' j = stage j := fun j hj => Function.update_of_ne hj _ _
  have hstage : Function.update stage i stage' i = stage' := Function.update_self _ _ _
  refine ⟨?_, ?_, ?_, ?_, ?_⟩
  · intro j
    by_cases hj : j = i
    · subst hj
      rw [hstage, Function.update_self, Pool.workers_update_self]
      exact hjobs
    · rw [hnew j hj, Function.update_of_ne hj, Pool.workers_update_ne P hj]
      exact hP.jobs j
  · intro j
    by_cases hj : j = i
    · subst hj
      rw [hstage, Function.update_self]
      exact hself
    · rw [hnew j hj, Function.update_of_ne hj, hothers j hj]
      exact hP.outputs j
  · intro j x y hxy
    by_cases hj : j = i
    · subst hj
      rw [hstage] at hxy
      exact hheld x y hxy
    · rw [hnew j hj] at hxy
      rcases hkept with hout | ⟨-, hvalue, hlog⟩
      · have hin := hout j hj
        rw [hxy] at hin
        exact absurd trivial hin
      · obtain ⟨hx, hy⟩ := hP.held j x y hxy
        exact ⟨hx.trans hlog.symm, hy.trans hvalue.symm⟩
  · intro j k hj hk
    by_cases hji : j = i
    · by_cases hki : k = i
      · rw [hji, hki]
      · rw [hnew k hki] at hk
        rw [hji, hstage] at hj
        rcases hkept with hout | ⟨hout, -⟩
        · exact absurd hk (hout k hki)
        · exact absurd hj hout
    · rw [hnew j hji] at hj
      by_cases hki : k = i
      · rw [hki, hstage] at hk
        rcases hkept with hout | ⟨hout, -⟩
        · exact absurd hj (hout j hji)
        · exact absurd hk hout
      · rw [hnew k hki] at hk
        exact hP.alone j k hj hk
  · intro hout
    have hi := hout i
    rw [hstage] at hi
    refine hsettled hi ?_
    intro j hj
    have hjout := hout j
    rwa [hnew j hj] at hjout

theorem Transactions.head {ph : Progress X} {op : Ω} {rest : List Ω} {p : Program S α} {ps : List (Program S α)}
    (hp : Transaction R (effect op) ph p)
    (hrest : List.Forall₂ (fun op p => Transaction R (effect op) .before p) rest ps) :
    Transactions R effect ph (op :: rest) (p :: ps) := ⟨p, ps, rfl, hp, hrest⟩

theorem Serialized.all_outside (hP : Serialized R effect x₀ all P log stage ops) {i : ι}
    (hi : ¬(stage i).Inside) (hothers : ∀ j, j ≠ i → ¬(stage j).Inside) :
    R.value P.state = replay effect x₀ log := by
  apply hP.settled
  intro j
  by_cases hj : j = i
  · rw [hj]
    exact hi
  · exact hothers j hj

theorem Serialized.commit (hP : Serialized R effect x₀ all P log stage ops) {i : ι} {s : σ} {w : Worker S α}
    {op : Ω} {rest : List Ω} (hops : ops i = op :: rest) (howed : (stage i).owed (ops i) = ops i)
    (hjobs : Transactions R effect .after (op :: rest) w.todo) (hout : ∀ j, j ≠ i → ¬(stage j).Inside)
    (hvalue : R.value s = effect op (replay effect x₀ log)) :
    Serialized R effect x₀ all (P.update i s w) (log ++ [(i, op)]) (Function.update stage i .after)
      (Function.update ops i (op :: rest)) := by
  refine hP.update hjobs ?_ ?_ (.inl hout) nofun ?_
  · rw [committed_snoc_self, ← hP.outputs i, howed, hops]
    simp [Progress.owed]
  · intro j hj
    exact committed_snoc_ne hj op log
  · intro _ _
    rw [replay_snoc]
    exact hvalue

theorem Serialized.step (hP : Serialized R effect x₀ all P log stage ops) (hstep : P.CalmStep R Q) :
    ∃ log' stage' ops', Serialized R effect x₀ all Q log' stage' ops' := by
  obtain ⟨i, htodo, rfl, hcalm⟩ := hstep
  have hjobs := hP.jobs i
  have houtputs := hP.outputs i
  have hquiet : ∀ j, j ≠ i → (P.workers i).Asks R.Reads → ¬(stage j).Inside :=
    fun j hj hreads hin => hcalm hreads j hj ((hP.jobs j).changes hin)
  obtain ⟨p, rest, hw⟩ := List.exists_cons_of_ne_nil htodo
  rw [hw] at hjobs
  generalize hstage : stage i = ph at hjobs houtputs
  cases hops : ops i with
  | nil =>
    rw [hops] at hjobs
    cases hjobs.2
  | cons op ops' =>
    rw [hops] at hjobs houtputs
    obtain ⟨p', rest', hp, hjob, hrest⟩ := hjobs
    obtain ⟨rfl, rfl⟩ := List.cons.inj hp
    cases hjob with
    | @quiet _ c next hout hreads hchanges hnext =>
      rw [P.advance_ask hw]
      have hkept := R.value_other (s := P.state) hchanges
      refine ⟨log, _, _, hP.update (.head (hnext _) hrest) houtputs (fun _ _ => rfl) (.inr ⟨hout, hkept, rfl⟩) ?_ ?_⟩
      · rintro x y rfl
        exact absurd trivial hout
      · intro _ hothers
        exact hkept.trans (hP.all_outside (hstage ▸ hout) hothers)
    | @read c next next_stage hreads hchanges hstages hnext =>
      rw [P.advance_ask hw]
      have hkept := R.value_other (s := P.state) hchanges
      have hothers : ∀ j, j ≠ i → ¬(stage j).Inside := fun j hj => hquiet j hj ⟨c, next, rest, hw, hreads⟩
      have hvalue := hP.all_outside (hstage ▸ not_false) hothers
      have hjob := hnext P.state
      rcases hstages P.state with hin | ⟨hafter, hsame⟩
      · rw [hin] at hjob
        refine ⟨log, _, _, hP.update (.head hjob hrest) houtputs (fun _ _ => rfl) (.inl hothers) ?_ ?_⟩
        · intro x y hxy
          obtain ⟨rfl, rfl⟩ := Progress.inside.inj hxy
          exact ⟨hvalue, hkept.symm⟩
        · exact fun hout => absurd trivial hout
      · rw [hafter] at hjob
        refine ⟨_, _, _, hP.commit hops (by rw [hstage]; rfl) (.head hjob hrest) hothers ?_⟩
        rw [hkept, ← hsame, hvalue]
    | @change x y c next next_stage hreads hchanges hstages hnext =>
      rw [P.advance_ask hw]
      obtain ⟨hx, hy⟩ := hP.held i x y hstage
      have hothers : ∀ j, j ≠ i → ¬(stage j).Inside := by
        intro j hj hin
        exact hj (hP.alone j i hin (hstage ▸ trivial))
      have hjob := hnext P.state hy.symm
      rcases hstages P.state hy.symm with hin | ⟨hafter, hvalue⟩
      · rw [hin] at hjob
        refine ⟨log, _, _, hP.update (.head hjob hrest) houtputs (fun _ _ => rfl) (.inl hothers) ?_ ?_⟩
        · intro x' y' hxy
          obtain ⟨rfl, rfl⟩ := Progress.inside.inj hxy
          exact ⟨hx, rfl⟩
        · exact fun hout => absurd trivial hout
      · rw [hafter] at hjob
        refine ⟨_, _, _, hP.commit hops (by rw [hstage]; rfl) (.head hjob hrest) hothers ?_⟩
        rw [hvalue, hx]
    | done v =>
      rw [P.advance_ret hw]
      refine ⟨log, _, _, hP.update (.start hrest) houtputs (fun _ _ => rfl) (.inr ⟨not_false, rfl, rfl⟩) nofun ?_⟩
      intro _ hothers
      exact hP.all_outside (hstage ▸ not_false) hothers

theorem Pool.serialized {P₀ : Pool S σ ι α}
    (hjobs : ∀ i, List.Forall₂ (fun op p => Transaction R (effect op) .before p) (all i) (P₀.workers i).todo)
    (hrun : Relation.ReflTransGen (Pool.CalmStep R) P₀ Q) :
    ∃ log stage ops, Serialized R effect (R.value P₀.state) all Q log stage ops := by
  induction hrun with
  | refl =>
    exact ⟨[], fun _ => .before, all, fun i => .start (hjobs i), fun _ => rfl, nofun, fun _ _ hin => hin.elim,
      fun _ => rfl⟩
  | tail _ hstep ih =>
    obtain ⟨log, stage, ops, h⟩ := ih
    exact h.step hstep

theorem Serialized.finished (hP : Serialized R effect x₀ all P log stage ops) (hdone : ∀ i, (P.workers i).todo = []) :
    (∀ i, committed i log = all i) ∧ R.value P.state = replay effect x₀ log := by
  have hend : ∀ i, stage i = .before ∧ ops i = [] := by
    intro i
    have hjobs := hP.jobs i
    rw [hdone i] at hjobs
    cases hops : ops i with
    | nil =>
      rw [hops] at hjobs
      exact ⟨hjobs.1, rfl⟩
    | cons op rest =>
      rw [hops] at hjobs
      obtain ⟨p, rest', hp, -⟩ := hjobs
      cases hp
  constructor
  · intro i
    rw [← hP.outputs i, (hend i).1, (hend i).2]
    exact (List.append_nil _).symm
  · apply hP.settled
    intro i
    rw [(hend i).1]
    exact not_false

end Pools

end Interaction
