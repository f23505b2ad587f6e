import Mathlib.Logic.Function.Basic
import Mathlib.Logic.Relation
import XousSignalClient.Interaction.Program

namespace Interaction

structure Worker (S : Signature) (α : Type) where
  done : List α
  todo : List (Program S α)

structure Pool (S : Signature) (σ ι α : Type) where
  state : σ
  workers : ι → Worker S α

variable {S : Signature} {σ ι α X Ω : Type} {h : Handler S σ}

namespace Pool

variable [DecidableEq ι]

def update (P : Pool S σ ι α) (i : ι) (s : σ) (w : Worker S α) : Pool S σ ι α :=
  ⟨s, Function.update P.workers i w⟩

theorem workers_update_self (P : Pool S σ ι α) (i : ι) (s : σ) (w : Worker S α) : (P.update i s w).workers i = w := by
  simp [update]

theorem workers_update_ne (P : Pool S σ ι α) {i j : ι} (hj : j ≠ i) (s : σ) (w : Worker S α) :
    (P.update i s w).workers j = P.workers j := by
  simp [update, hj]

inductive Step (h : Handler S σ) (P : Pool S σ ι α) : Pool S σ ι α → Prop
  | request (i : ι) (c : S.Call) (next : S.Reply c → Program S α) (rest : List (Program S α))
      (hw : (P.workers i).todo = .ask c next :: rest) :
      Step h P (P.update i (h.answer c P.state).2 ⟨(P.workers i).done, next (h.answer c P.state).1 :: rest⟩)
  | finish (i : ι) (v : α) (rest : List (Program S α)) (hw : (P.workers i).todo = .ret v :: rest) :
      Step h P (P.update i P.state ⟨(P.workers i).done ++ [v], rest⟩)

def advance (h : Handler S σ) (P : Pool S σ ι α) (i : ι) : Pool S σ ι α :=
  match (P.workers i).todo with
  | [] => P
  | .ask c next :: rest =>
    P.update i (h.answer c P.state).2 ⟨(P.workers i).done, next (h.answer c P.state).1 :: rest⟩
  | .ret v :: rest => P.update i P.state ⟨(P.workers i).done ++ [v], rest⟩

def schedule (h : Handler S σ) (P : Pool S σ ι α) (order : List ι) : Pool S σ ι α := order.foldl (advance h) P

theorem advance_ask (P : Pool S σ ι α) {i : ι} {c : S.Call} {next : S.Reply c → Program S α}
    {rest : List (Program S α)} (hw : (P.workers i).todo = .ask c next :: rest) :
    P.advance h i =
      P.update i (h.answer c P.state).2 ⟨(P.workers i).done, next (h.answer c P.state).1 :: rest⟩ := by
  unfold advance
  rw [hw]

theorem advance_ret (P : Pool S σ ι α) {i : ι} {v : α} {rest : List (Program S α)}
    (hw : (P.workers i).todo = .ret v :: rest) :
    P.advance h i = P.update i P.state ⟨(P.workers i).done ++ [v], rest⟩ := by
  unfold advance
  rw [hw]

theorem advance_step (h : Handler S σ) (P : Pool S σ ι α) (i : ι) : P.advance h i = P ∨ Step h P (P.advance h i) := by
  unfold advance
  split
  · exact .inl rfl
  · next c next rest hw => exact .inr (.request i c next rest hw)
  · next v rest hw => exact .inr (.finish i v rest hw)

theorem reachable_schedule (h : Handler S σ) (P : Pool S σ ι α) (order : List ι) :
    Relation.ReflTransGen (Step h) P (P.schedule h order) := by
  induction order generalizing P with
  | nil => exact .refl
  | cons i order ih =>
    have hrest := ih (P.advance h i)
    rcases P.advance_step h i with hsame | hstep
    · rw [hsame] at hrest
      rw [schedule, List.foldl_cons, hsame]
      exact hrest
    · exact hrest.head hstep

def passes (h : Handler S σ) (test : Pool S σ ι α → Bool) (P : Pool S σ ι α) : List ι → Bool
  | [] => true
  | i :: order => test (P.advance h i) && (P.advance h i).passes h test order

theorem reachable_passes {test : Pool S σ ι α → Bool} {Good : Pool S σ ι α → Prop}
    (htest : ∀ Q, test Q = true → Good Q) (P : Pool S σ ι α) (order : List ι) (horder : P.passes h test order = true) :
    Relation.ReflTransGen (fun P Q => Step h P Q ∧ Good Q) P (P.schedule h order) := by
  induction order generalizing P with
  | nil => exact .refl
  | cons i order ih =>
    rw [passes, Bool.and_eq_true] at horder
    have hrest := ih (P.advance h i) horder.2
    rcases P.advance_step h i with hsame | hstep
    · rw [hsame] at hrest
      rw [schedule, List.foldl_cons, hsame]
      exact hrest
    · exact hrest.head ⟨hstep, htest _ horder.1⟩

end Pool

structure Cell (h : Handler S σ) (X : Type) where
  value : σ → Option X
  Clears : S.Call → Prop
  Stores : S.Call → X → Prop
  value_clear : ∀ {c s}, Clears c → value (h.answer c s).2 = none
  value_store : ∀ {c x s}, Stores c x → value s = none → value (h.answer c s).2 = some x
  value_other : ∀ {c s}, ¬Clears c → (∀ x, ¬Stores c x) → value (h.answer c s).2 = value s

def Cell.Changes (K : Cell h X) (c : S.Call) : Prop := K.Clears c ∨ ∃ x, K.Stores c x

theorem Cell.value_quiet (K : Cell h X) {c : S.Call} (hc : ¬K.Changes c) (s : σ) :
    K.value (h.answer c s).2 = K.value s :=
  K.value_other (fun h => hc (.inl h)) (fun x h => hc (.inr ⟨x, h⟩))

/-- Where a job stands: it has not read the cell for its update, it has read `x`, it has also cleared the cell,
or it has stored and will return `out`. -/
inductive Phase (X Ω : Type) where
  | before
  | holding (x : X)
  | cleared (x : X)
  | after (out : Ω)

namespace Phase

def Inside : Phase X Ω → Prop
  | .holding _ => True
  | .cleared _ => True
  | _ => False

def pending : Phase X Ω → List Ω
  | .after out => [out]
  | _ => []

end Phase

/-- The rest of a job that updates the cell at most once, by reading it, clearing it and storing a value `x'`
with `Commits out x x'`, and then returns a result whose output is `out`. -/
inductive Job (K : Cell h X) (Commits : Ω → X → X → Prop) (output : α → Option Ω) :
    Phase X Ω → Program S α → Prop
  | failed {v : α} (hv : output v = none) : Job K Commits output .before (.ret v)
  | read {c : S.Call} {next : S.Reply c → Program S α} (phase : σ → Phase X Ω) (hc : ¬K.Changes c)
      (hphase : ∀ s, phase s = .before ∨ ∃ x, K.value s = some x ∧ phase s = .holding x)
      (hnext : ∀ s, Job K Commits output (phase s) (next (h.answer c s).1)) :
      Job K Commits output .before (.ask c next)
  | clear {x : X} {c : S.Call} {next : S.Reply c → Program S α} (hc : K.Clears c)
      (hnext : ∀ s, Job K Commits output (.cleared x) (next (h.answer c s).1)) :
      Job K Commits output (.holding x) (.ask c next)
  | store {x x' : X} {out : Ω} {c : S.Call} {next : S.Reply c → Program S α} (hc : K.Stores c x')
      (hcommit : Commits out x x') (hnext : ∀ s, Job K Commits output (.after out) (next (h.answer c s).1)) :
      Job K Commits output (.cleared x) (.ask c next)
  | after {out : Ω} {c : S.Call} {next : S.Reply c → Program S α} (hc : ¬K.Changes c)
      (hnext : ∀ s, Job K Commits output (.after out) (next (h.answer c s).1)) :
      Job K Commits output (.after out) (.ask c next)
  | completed {v : α} {out : Ω} (hv : output v = some out) : Job K Commits output (.after out) (.ret v)

section Jobs

variable {K : Cell h X} {Commits : Ω → X → X → Prop} {β : Type} {output : β → Option Ω}

theorem Job.quiet {c : S.Call} {next : S.Reply c → Program S β} (hc : ¬K.Changes c)
    (hnext : ∀ r, Job K Commits output .before (next r)) : Job K Commits output .before (.ask c next) :=
  .read (fun _ => .before) hc (fun _ => .inl rfl) (fun _ => hnext _)

theorem Job.load {c : S.Call} {next : S.Reply c → Program S β} (hc : ¬K.Changes c)
    (hnext : ∀ s, Job K Commits output .before (next (h.answer c s).1) ∨
      ∃ x, K.value s = some x ∧ Job K Commits output (.holding x) (next (h.answer c s).1)) :
    Job K Commits output .before (.ask c next) := by
  have hphase : ∀ s, ∃ phase : Phase X Ω, (phase = .before ∨ ∃ x, K.value s = some x ∧ phase = .holding x) ∧
      Job K Commits output phase (next (h.answer c s).1) := by
    intro s
    rcases hnext s with hbefore | ⟨x, hx, hholding⟩
    · exact ⟨.before, .inl rfl, hbefore⟩
    · exact ⟨.holding x, .inr ⟨x, hx, rfl⟩, hholding⟩
  choose phase hallowed hjob using hphase
  exact .read phase hc hallowed hjob

theorem Job.before_bind {p : Program S α} {k : α → Program S β} (hp : p.Only (fun c => ¬K.Changes c))
    (hk : ∀ v, Job K Commits output .before (k v)) : Job K Commits output .before (p >>= k) := by
  induction hp with
  | ret v => exact hk v
  | ask c next hc _ ih => exact .quiet hc ih

theorem Job.after_bind {p : Program S α} {k : α → Program S β} {out : Ω} (hp : p.Only (fun c => ¬K.Changes c))
    (hk : ∀ v, Job K Commits output (.after out) (k v)) : Job K Commits output (.after out) (p >>= k) := by
  induction hp with
  | ret v => exact hk v
  | ask c next hc _ ih => exact .after hc (fun _ => ih _)

end Jobs

inductive Chain (Commits : Ω → X → X → Prop) (x₀ : X) : List (ι × Ω) → X → Prop
  | nil : Chain Commits x₀ [] x₀
  | snoc {log : List (ι × Ω)} {x x' : X} {i : ι} {out : Ω} (hlog : Chain Commits x₀ log x)
      (hcommit : Commits out x x') : Chain Commits x₀ (log ++ [(i, out)]) x'

section Pools

variable [DecidableEq ι] {K : Cell h X} {Commits : Ω → X → X → Prop} {output : α → Option Ω}

def Worker.Inside (K : Cell h X) (w : Worker S α) : Prop :=
  ∃ c next rest, w.todo = .ask c next :: rest ∧ K.Changes c

def Pool.Exclusive (K : Cell h X) (P : Pool S σ ι α) : Prop :=
  ∀ i j, (P.workers i).Inside K → (P.workers j).Inside K → i = j

def Pool.ExclusiveStep (K : Cell h X) (P Q : Pool S σ ι α) : Prop := P.Step h Q ∧ Q.Exclusive K

theorem Pool.reachable_exclusive {test : Pool S σ ι α → Bool} (htest : ∀ Q, test Q = true → Q.Exclusive K)
    (P : Pool S σ ι α) (order : List ι) (horder : P.passes h test order = true) :
    Relation.ReflTransGen (Pool.ExclusiveStep K) P (P.schedule h order) := P.reachable_passes htest order horder

def Jobs (K : Cell h X) (Commits : Ω → X → X → Prop) (output : α → Option Ω) (phase : Phase X Ω) :
    List (Program S α) → Prop
  | [] => phase = .before
  | p :: rest => Job K Commits output phase p ∧ ∀ q ∈ rest, Job K Commits output .before q

theorem Jobs.inside {phase : Phase X Ω} {w : Worker S α} (hjobs : Jobs K Commits output phase w.todo)
    (hin : phase.Inside) : w.Inside K := by
  obtain ⟨done, todo⟩ := w
  cases todo with
  | nil =>
    obtain rfl : phase = .before := hjobs
    cases hin
  | cons p rest =>
    cases hjobs.1 with
    | failed hv => cases hin
    | read f hc hphase hnext => cases hin
    | clear hc hnext => exact ⟨_, _, rest, rfl, .inl hc⟩
    | store hc hcommit hnext => exact ⟨_, _, rest, rfl, .inr ⟨_, hc⟩⟩
    | after hc hnext => cases hin
    | completed hv => cases hin

theorem Jobs.rest {rest : List (Program S α)} (h : ∀ q ∈ rest, Job K Commits output .before q) :
    Jobs K Commits output .before rest := by
  cases rest with
  | nil => rfl
  | cons p rest => exact ⟨h p List.mem_cons_self, fun q hq => h q (List.mem_cons_of_mem p hq)⟩

def committed (i : ι) (log : List (ι × Ω)) : List Ω := log.filterMap (fun e => if e.1 = i then some e.2 else none)

theorem committed_snoc_self (i : ι) (out : Ω) (log : List (ι × Ω)) :
    committed i (log ++ [(i, out)]) = committed i log ++ [out] := by
  simp [committed]

theorem committed_snoc_ne {i j : ι} (hij : j ≠ i) (out : Ω) (log : List (ι × Ω)) :
    committed j (log ++ [(i, out)]) = committed j log := by
  simp [committed, hij.symm]

/-- The updates committed so far have happened one after the other, the last one leading to `x`. -/
structure Linearized (K : Cell h X) (Commits : Ω → X → X → Prop) (output : α → Option Ω) (x₀ : X)
    (P : Pool S σ ι α) (log : List (ι × Ω)) (x : X) (phase : ι → Phase X Ω) : Prop where
  chain : Chain Commits x₀ log x
  jobs : ∀ i, Jobs K Commits output (phase i) (P.workers i).todo
  outputs : ∀ i, committed i log = (P.workers i).done.filterMap output ++ (phase i).pending
  held : ∀ i y, phase i = .holding y ∨ phase i = .cleared y → y = x
  exclusive : ∀ i j, (phase i).Inside → (phase j).Inside → i = j
  present : (∀ i y, phase i ≠ .cleared y) → K.value P.state = some x
  absent : ∀ i y, phase i = .cleared y → K.value P.state = none

variable {x₀ x : X} {P : Pool S σ ι α} {log : List (ι × Ω)} {phase : ι → Phase X Ω}

theorem update_jobs (hjobs : ∀ j, Jobs K Commits output (phase j) (P.workers j).todo) {i : ι} {s : σ}
    {w : Worker S α} {ph : Phase X Ω} (hw : Jobs K Commits output ph w.todo) (j : ι) :
    Jobs K Commits output (Function.update phase i ph j) ((P.update i s w).workers j).todo := by
  by_cases hj : j = i
  · subst hj
    rw [Function.update_self, Pool.workers_update_self]
    exact hw
  · rw [Function.update_of_ne hj, Pool.workers_update_ne P hj]
    exact hjobs j

theorem update_outputs {log' : List (ι × Ω)} {i : ι} {s : σ} {w : Worker S α} {ph : Phase X Ω}
    (hself : committed i log' = w.done.filterMap output ++ ph.pending)
    (hother : ∀ j, j ≠ i → committed j log' = (P.workers j).done.filterMap output ++ (phase j).pending) (j : ι) :
    committed j log' = ((P.update i s w).workers j).done.filterMap output ++
      (Function.update phase i ph j).pending := by
  by_cases hj : j = i
  · subst hj
    rw [Function.update_self, Pool.workers_update_self]
    exact hself
  · rw [Function.update_of_ne hj, Pool.workers_update_ne P hj]
    exact hother j hj

theorem Linearized.quiet_step (hP : Linearized K Commits output x₀ P log x phase) {i : ι} {s : σ}
    {w : Worker S α} {ph : Phase X Ω} (hvalue : K.value s = K.value P.state)
    (hjobs : Jobs K Commits output ph w.todo)
    (houtputs : (P.workers i).done.filterMap output ++ (phase i).pending = w.done.filterMap output ++ ph.pending)
    (hold : ¬(phase i).Inside) (hnew : ph.Inside → ph = .holding x) (hexclusive : (P.update i s w).Exclusive K) :
    Linearized K Commits output x₀ (P.update i s w) log x (Function.update phase i ph) := by
  have hall := fun j => update_jobs (i := i) (s := s) hP.jobs hjobs j
  refine ⟨hP.chain, hall, ?_, ?_, ?_, ?_, ?_⟩
  · exact update_outputs ((hP.outputs i).trans houtputs) (fun j _ => hP.outputs j)
  · intro j y hy
    by_cases hj : j = i
    · subst hj
      rw [Function.update_self] at hy
      rcases hy with hy | hy
      · rw [hy] at hnew
        exact Phase.holding.inj (hnew trivial)
      · rw [hy] at hnew
        cases hnew trivial
    · rw [Function.update_of_ne hj] at hy
      exact hP.held j y hy
  · intro j k hj hk
    exact hexclusive j k ((hall j).inside hj) ((hall k).inside hk)
  · intro hclear
    refine hvalue.trans (hP.present ?_)
    intro j y hy
    by_cases hj : j = i
    · subst hj
      rw [hy] at hold
      exact hold trivial
    · apply hclear j y
      rw [Function.update_of_ne hj, hy]
  · intro j y hy
    by_cases hj : j = i
    · subst hj
      rw [Function.update_self] at hy
      rw [hy] at hnew
      cases hnew trivial
    · rw [Function.update_of_ne hj] at hy
      exact hvalue.trans (hP.absent j y hy)

theorem Linearized.clear_step (hP : Linearized K Commits output x₀ P log x phase) {i : ι} {s : σ}
    {w : Worker S α} (hphase : phase i = .holding x) (hdone : w.done = (P.workers i).done)
    (hvalue : K.value s = none) (hjobs : Jobs K Commits output (.cleared x) w.todo) :
    Linearized K Commits output x₀ (P.update i s w) log x (Function.update phase i (.cleared x)) := by
  have hin : (phase i).Inside := by
    rw [hphase]
    trivial
  have hother : ∀ j, (Function.update phase i (.cleared x) j).Inside → j = i := by
    intro j hj
    by_contra hne
    rw [Function.update_of_ne hne] at hj
    exact hne (hP.exclusive j i hj hin)
  refine ⟨hP.chain, fun j => update_jobs hP.jobs hjobs j, ?_, ?_, ?_, ?_, ?_⟩
  · refine update_outputs ?_ (fun j _ => hP.outputs j)
    rw [hP.outputs i, hphase, hdone]
    rfl
  · intro j y hy
    by_cases hj : j = i
    · subst hj
      rw [Function.update_self] at hy
      rcases hy with hy | hy
      · cases hy
      · exact (Phase.cleared.inj hy).symm
    · rw [Function.update_of_ne hj] at hy
      exact hP.held j y hy
  · intro j k hj hk
    rw [hother j hj, hother k hk]
  · intro hclear
    exact absurd (Function.update_self i (Phase.cleared x) phase) (hclear i x)
  · intro j y _
    exact hvalue

theorem Linearized.store_step (hP : Linearized K Commits output x₀ P log x phase) {i : ι} {s : σ}
    {w : Worker S α} {x' : X} {out : Ω} (hphase : phase i = .cleared x) (hdone : w.done = (P.workers i).done)
    (hvalue : K.value s = some x') (hcommit : Commits out x x') (hjobs : Jobs K Commits output (.after out) w.todo) :
    Linearized K Commits output x₀ (P.update i s w) (log ++ [(i, out)]) x' (Function.update phase i (.after out)) := by
  have hin : (phase i).Inside := by
    rw [hphase]
    trivial
  have hnone : ∀ j, ¬(Function.update phase i (.after out) j).Inside := by
    intro j hj
    by_cases hne : j = i
    · subst hne
      rw [Function.update_self] at hj
      cases hj
    · rw [Function.update_of_ne hne] at hj
      exact hne (hP.exclusive j i hj hin)
  have hinside : ∀ j y, Function.update phase i (.after out) j = .holding y ∨
      Function.update phase i (.after out) j = .cleared y → False := by
    intro j y hy
    apply hnone j
    rcases hy with hy | hy
    · rw [hy]
      trivial
    · rw [hy]
      trivial
  refine ⟨hP.chain.snoc hcommit, fun j => update_jobs hP.jobs hjobs j, ?_, ?_, ?_, ?_, ?_⟩
  · refine update_outputs ?_ ?_
    · rw [committed_snoc_self, hP.outputs i, hphase, hdone]
      simp [Phase.pending]
    · intro j hj
      rw [committed_snoc_ne hj, hP.outputs j]
  · intro j y hy
    exact (hinside j y hy).elim
  · intro j k hj _
    exact absurd hj (hnone j)
  · intro _
    exact hvalue
  · intro j y hy
    exact (hinside j y (.inr hy)).elim

theorem Linearized.step (hP : Linearized K Commits output x₀ P log x phase) {Q : Pool S σ ι α}
    (hstep : P.ExclusiveStep K Q) : ∃ log' x' phase', Linearized K Commits output x₀ Q log' x' phase' := by
  obtain ⟨hmove, hexclusive⟩ := hstep
  cases hmove with
  | request i c next rest hw =>
    have hjobs := hP.jobs i
    rw [hw] at hjobs
    obtain ⟨hjob, hrest⟩ := hjobs
    generalize hph : phase i = ph at hjob
    cases hjob with
    | read f hc hf hnext =>
      refine ⟨log, x, _, hP.quiet_step (K.value_quiet hc P.state) ⟨hnext P.state, hrest⟩ ?_ ?_ ?_ hexclusive⟩
      · rw [hph]
        rcases hf P.state with hbefore | ⟨y, -, hholding⟩
        · rw [hbefore]
        · rw [hholding]
          rfl
      · rw [hph]
        exact not_false
      · intro hin
        rcases hf P.state with hbefore | ⟨y, hy, hholding⟩
        · rw [hbefore] at hin
          cases hin
        · have hpresent : K.value P.state = some x := by
            apply hP.present
            intro j z hz
            rw [hP.absent j z hz] at hy
            cases hy
          rw [hholding, Option.some.inj (hy.symm.trans hpresent)]
    | clear hc hnext =>
      obtain rfl := hP.held i _ (.inl hph)
      exact ⟨log, _, _, hP.clear_step hph rfl (K.value_clear hc) ⟨hnext P.state, hrest⟩⟩
    | store hc hcommit hnext =>
      obtain rfl := hP.held i _ (.inr hph)
      have hstored := K.value_store hc (hP.absent i _ hph)
      exact ⟨_, _, _, hP.store_step hph rfl hstored hcommit ⟨hnext P.state, hrest⟩⟩
    | after hc hnext =>
      refine ⟨log, x, _, hP.quiet_step (K.value_quiet hc P.state) ⟨hnext P.state, hrest⟩ ?_ ?_ ?_ hexclusive⟩
      · rw [hph]
      · rw [hph]
        exact not_false
      · exact fun hin => hin.elim
  | finish i v rest hw =>
    have hjobs := hP.jobs i
    rw [hw] at hjobs
    obtain ⟨hjob, hrest⟩ := hjobs
    generalize hph : phase i = ph at hjob
    cases hjob with
    | failed hv =>
      refine ⟨log, x, _, hP.quiet_step rfl (Jobs.rest hrest) ?_ ?_ ?_ hexclusive⟩
      · rw [hph, List.filterMap_append]
        simp [hv]
      · rw [hph]
        exact not_false
      · exact fun hin => hin.elim
    | completed hv =>
      refine ⟨log, x, _, hP.quiet_step rfl (Jobs.rest hrest) ?_ ?_ ?_ hexclusive⟩
      · rw [hph, List.filterMap_append]
        simp [hv, Phase.pending]
      · rw [hph]
        exact not_false
      · exact fun hin => hin.elim

theorem Pool.linearized {P₀ Q : Pool S σ ι α} (hvalue : K.value P₀.state = some x₀)
    (hdone : ∀ i, (P₀.workers i).done = [])
    (hjobs : ∀ i, ∀ p ∈ (P₀.workers i).todo, Job K Commits output .before p)
    (hrun : Relation.ReflTransGen (Pool.ExclusiveStep K) P₀ Q) :
    ∃ log x phase, Linearized K Commits output x₀ Q log x phase := by
  induction hrun with
  | refl =>
    refine ⟨[], x₀, fun _ => .before, .nil, fun i => Jobs.rest (hjobs i), ?_, ?_, ?_, fun _ => hvalue, ?_⟩
    · intro i
      rw [hdone i]
      rfl
    · rintro i y (hy | hy) <;> cases hy
    · intro i j hi
      cases hi
    · intro i y hy
      cases hy
  | tail _ hstep ih =>
    obtain ⟨log, x, phase, hP⟩ := ih
    exact hP.step hstep

theorem Linearized.committed_of_finished (hP : Linearized K Commits output x₀ P log x phase) {i : ι}
    (hi : (P.workers i).todo = []) : phase i = .before ∧ committed i log = (P.workers i).done.filterMap output := by
  have hjobs := hP.jobs i
  rw [hi] at hjobs
  have hphase : phase i = .before := hjobs
  refine ⟨hphase, ?_⟩
  rw [hP.outputs i, hphase]
  exact List.append_nil _

end Pools

end Interaction
