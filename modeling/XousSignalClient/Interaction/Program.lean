import Mathlib.Control.Basic
import Mathlib.Data.List.Basic

namespace Interaction

structure Signature where
  Call : Type
  Reply : Call → Type

inductive Program (S : Signature) (α : Type) : Type where
  | ret (a : α)
  | ask (c : S.Call) (next : S.Reply c → Program S α)

structure Handler (S : Signature) (σ : Type) where
  answer : (c : S.Call) → σ → S.Reply c × σ

structure Event (S : Signature) (σ : Type) where
  before : σ
  call : S.Call
  reply : S.Reply call

@[ext]
structure Outcome (S : Signature) (σ α : Type) where
  value : α
  state : σ
  events : List (Event S σ)

namespace Program

variable {S T : Signature} {σ α β : Type}

def bind : Program S α → (α → Program S β) → Program S β
  | ret a, f => f a
  | ask c next, f => ask c (fun r => (next r).bind f)

instance : Monad (Program S) where
  pure := ret
  bind := bind

def perform (c : S.Call) : Program S (S.Reply c) := ask c ret

@[simp] theorem pure_eq (a : α) : (pure a : Program S α) = ret a := rfl

@[simp] theorem ret_bind (a : α) (f : α → Program S β) : (ret a : Program S α) >>= f = f a := rfl

@[simp] theorem ask_bind (c : S.Call) (next : S.Reply c → Program S α) (f : α → Program S β) :
    ask c next >>= f = ask c (fun r => next r >>= f) := rfl

theorem bind_ret (p : Program S α) : p >>= ret = p := by
  induction p with
  | ret a => rfl
  | ask c next ih => rw [ask_bind]; exact congrArg _ (funext ih)

theorem bind_assoc {γ : Type} (p : Program S α) (f : α → Program S β) (g : β → Program S γ) :
    p >>= f >>= g = p >>= fun a => f a >>= g := by
  induction p with
  | ret a => rfl
  | ask c next ih => simp only [ask_bind]; exact congrArg _ (funext ih)

instance : LawfulMonad (Program S) :=
  LawfulMonad.mk' _ (fun p => bind_ret p) (fun _ _ => rfl) bind_assoc

def run (h : Handler S σ) : Program S α → σ → Outcome S σ α
  | ret a, s => ⟨a, s, []⟩
  | ask c next, s =>
    let (r, s') := h.answer c s
    let o := (next r).run h s'
    ⟨o.value, o.state, ⟨s, c, r⟩ :: o.events⟩

@[simp] theorem run_ret (h : Handler S σ) (a : α) (s : σ) :
    (ret a : Program S α).run h s = ⟨a, s, []⟩ := rfl

theorem run_ask (h : Handler S σ) (c : S.Call) (next : S.Reply c → Program S α) (s : σ) :
    (ask c next).run h s =
      ⟨((next (h.answer c s).1).run h (h.answer c s).2).value,
        ((next (h.answer c s).1).run h (h.answer c s).2).state,
        ⟨s, c, (h.answer c s).1⟩ :: ((next (h.answer c s).1).run h (h.answer c s).2).events⟩ := rfl

theorem run_bind (h : Handler S σ) (p : Program S α) (f : α → Program S β) (s : σ) :
    (p >>= f).run h s =
      ⟨((f (p.run h s).value).run h (p.run h s).state).value,
        ((f (p.run h s).value).run h (p.run h s).state).state,
        (p.run h s).events ++ ((f (p.run h s).value).run h (p.run h s).state).events⟩ := by
  induction p generalizing s with
  | ret a => rfl
  | ask c next ih => simp only [ask_bind, run_ask, ih, List.cons_append]

@[simp] theorem run_map (h : Handler S σ) (f : α → β) (p : Program S α) (s : σ) :
    (f <$> p).run h s = ⟨f (p.run h s).value, (p.run h s).state, (p.run h s).events⟩ := by
  rw [← bind_pure_comp, run_bind]
  simp

theorem run_eq_of_agree {h h' : Handler S σ} (p : Program S α) (s : σ)
    (hagree : ∀ e ∈ (p.run h s).events, h'.answer e.call e.before = h.answer e.call e.before) :
    p.run h' s = p.run h s := by
  induction p generalizing s with
  | ret a => rfl
  | ask c next ih =>
    simp only [run_ask, List.forall_mem_cons] at hagree ⊢
    obtain ⟨hnow, hrest⟩ := hagree
    rw [hnow, ih _ _ hrest]

/-- Every request the program can make, whatever the replies, satisfies `P`. -/
inductive Only (P : S.Call → Prop) : Program S α → Prop where
  | ret (a : α) : Only P (ret a)
  | ask (c : S.Call) (next : S.Reply c → Program S α) (hc : P c)
      (hnext : ∀ r, Only P (next r)) : Only P (ask c next)

theorem Only.bind {P : S.Call → Prop} {p : Program S α} {f : α → Program S β}
    (hp : Only P p) (hf : ∀ a, Only P (f a)) : Only P (p >>= f) := by
  induction hp with
  | ret a => exact hf a
  | ask c next hc _ ih => exact .ask c _ hc ih

theorem Only.perform {P : S.Call → Prop} (c : S.Call) (hc : P c) : Only P (Program.perform c) :=
  .ask c _ hc (fun r => .ret r)

theorem Only.mono {P Q : S.Call → Prop} (hPQ : ∀ c, P c → Q c) {p : Program S α}
    (hp : Only P p) : Only Q p := by
  induction hp with
  | ret a => exact .ret a
  | ask c next hc _ ih => exact .ask c _ (hPQ c hc) ih

theorem Only.events {P : S.Call → Prop} {p : Program S α} (hp : Only P p) (h : Handler S σ) (s : σ) :
    ∀ e ∈ (p.run h s).events, P e.call := by
  induction hp generalizing s with
  | ret a => simp
  | ask c next hc _ ih =>
    intro e he
    rw [run_ask, List.mem_cons] at he
    rcases he with rfl | he
    · exact hc
    · exact ih _ _ e he

theorem Only.preserves {P : S.Call → Prop} {I : σ → Prop} {p : Program S α} (hp : Only P p)
    {h : Handler S σ} (hstep : ∀ c s, P c → I s → I (h.answer c s).2) (s : σ) (hs : I s) :
    I (p.run h s).state := by
  induction hp generalizing s with
  | ret a => exact hs
  | ask c next hc _ ih => exact ih _ _ (hstep c s hc hs)

theorem exists_changing_event {f : σ → β} {h : Handler S σ} (p : Program S α) (s : σ)
    (hne : f (p.run h s).state ≠ f s) :
    ∃ e ∈ (p.run h s).events, f (h.answer e.call e.before).2 ≠ f e.before := by
  induction p generalizing s with
  | ret a => exact absurd rfl hne
  | ask c next ih =>
    rw [run_ask] at hne ⊢
    by_cases hnow : f (h.answer c s).2 = f s
    · rw [← hnow] at hne
      obtain ⟨e, he, hchanged⟩ := ih _ _ hne
      exact ⟨e, List.mem_cons_of_mem _ he, hchanged⟩
    · exact ⟨⟨s, c, (h.answer c s).1⟩, List.mem_cons_self, hnow⟩

def interp (impl : (c : S.Call) → Program T (S.Reply c)) : Program S α → Program T α
  | ret a => ret a
  | ask c next => impl c >>= fun r => (next r).interp impl

theorem interp_bind (impl : (c : S.Call) → Program T (S.Reply c)) (p : Program S α)
    (f : α → Program S β) : (p >>= f).interp impl = p.interp impl >>= fun a => (f a).interp impl := by
  induction p with
  | ret a => rfl
  | ask c next ih => simp only [ask_bind, interp, ih, bind_assoc]

structure Part (τ σ : Type) where
  get : τ → σ
  set : τ → σ → τ
  get_set : ∀ t s, get (set t s) = s
  set_set : ∀ t s s', set (set t s) s' = set t s'
  set_get : ∀ t, set t (get t) = t

theorem run_interp {τ : Type} {impl : (c : S.Call) → Program T (S.Reply c)} {h : Handler T τ}
    {h' : Handler S σ} (part : Part τ σ)
    (himpl : ∀ c t, ((impl c).run h t).value = (h'.answer c (part.get t)).1 ∧
      ((impl c).run h t).state = part.set t (h'.answer c (part.get t)).2)
    (p : Program S α) (t : τ) :
    ((p.interp impl).run h t).value = (p.run h' (part.get t)).value ∧
      ((p.interp impl).run h t).state = part.set t (p.run h' (part.get t)).state := by
  induction p generalizing t with
  | ret a => exact ⟨rfl, (part.set_get t).symm⟩
  | ask c next ih =>
    obtain ⟨hv, hs⟩ := himpl c t
    rw [interp, run_bind, hv, hs, run_ask]
    obtain ⟨hv', hs'⟩ := ih (h'.answer c (part.get t)).1 (part.set t (h'.answer c (part.get t)).2)
    rw [part.get_set] at hv' hs'
    rw [part.set_set] at hs'
    exact ⟨hv', hs'⟩

end Program

end Interaction
