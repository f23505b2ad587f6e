import XousSignalClient.Interaction.Program

namespace Interaction

abbrev Fallible (S : Signature) (ε α : Type) := ExceptT ε (Program S) α

namespace Fallible

variable {S : Signature} {σ ε ε' α β : Type}

def call (c : S.Call) : Fallible S ε (S.Reply c) := ExceptT.lift (Program.perform c)

def ofExcept (r : Except ε α) : Fallible S ε α := ExceptT.mk (Program.ret r)

def mapError (f : ε → ε') (x : Fallible S ε α) : Fallible S ε' α :=
  ExceptT.mk (x.run >>= fun r => Program.ret (r.mapError f))

def attempt (x : Fallible S ε α) : Fallible S ε' (Except ε α) := ExceptT.lift x.run

def exec (h : Handler S σ) (x : Fallible S ε α) (s : σ) : Outcome S σ (Except ε α) :=
  x.run.run h s

def resume (h : Handler S σ) (f : α → Fallible S ε β) :
    Outcome S σ (Except ε α) → Outcome S σ (Except ε β)
  | ⟨.error e, s, es⟩ => ⟨.error e, s, es⟩
  | ⟨.ok a, s, es⟩ => ⟨((f a).exec h s).value, ((f a).exec h s).state, es ++ ((f a).exec h s).events⟩

@[simp] theorem exec_pure (h : Handler S σ) (a : α) (s : σ) :
    (pure a : Fallible S ε α).exec h s = ⟨.ok a, s, []⟩ := rfl

@[simp] theorem exec_throw (h : Handler S σ) (e : ε) (s : σ) :
    (throw e : Fallible S ε α).exec h s = ⟨.error e, s, []⟩ := rfl

@[simp] theorem exec_ofExcept (h : Handler S σ) (r : Except ε α) (s : σ) :
    (ofExcept r : Fallible S ε α).exec h s = ⟨r, s, []⟩ := rfl

theorem exec_call (h : Handler S σ) (c : S.Call) (s : σ) :
    (call c : Fallible S ε (S.Reply c)).exec h s =
      ⟨.ok (h.answer c s).1, (h.answer c s).2, [⟨s, c, (h.answer c s).1⟩]⟩ := rfl

theorem exec_lift (h : Handler S σ) (p : Program S α) (s : σ) :
    exec h (ExceptT.lift p : Fallible S ε α) s = ⟨.ok (p.run h s).value, (p.run h s).state, (p.run h s).events⟩ := by
  simp only [exec, ExceptT.run_lift]
  exact (Program.run_bind h p _ s).trans (by simp)

theorem exec_attempt (h : Handler S σ) (x : Fallible S ε α) (s : σ) :
    (x.attempt : Fallible S ε' (Except ε α)).exec h s =
      ⟨.ok (x.exec h s).value, (x.exec h s).state, (x.exec h s).events⟩ := exec_lift h x.run s

theorem exec_bind (h : Handler S σ) (x : Fallible S ε α) (f : α → Fallible S ε β) (s : σ) :
    (x >>= f).exec h s = resume h f (x.exec h s) := by
  simp only [exec, ExceptT.run_bind, Program.run_bind]
  cases hv : (Program.run h x.run s).value with
  | ok a =>
    have ho : Program.run h x.run s =
        ⟨.ok a, (Program.run h x.run s).state, (Program.run h x.run s).events⟩ := by rw [← hv]
    rw [ho]
    rfl
  | error e =>
    have ho : Program.run h x.run s =
        ⟨.error e, (Program.run h x.run s).state, (Program.run h x.run s).events⟩ := by rw [← hv]
    rw [ho]
    simp [resume]

theorem exec_bind_ok {h : Handler S σ} {x : Fallible S ε α} {f : α → Fallible S ε β} {s s' : σ}
    {a : α} {es : List (Event S σ)} (hx : x.exec h s = ⟨.ok a, s', es⟩) :
    (x >>= f).exec h s =
      ⟨((f a).exec h s').value, ((f a).exec h s').state, es ++ ((f a).exec h s').events⟩ := by
  rw [exec_bind, hx]; rfl

theorem exec_bind_error {h : Handler S σ} {x : Fallible S ε α} {f : α → Fallible S ε β} {s s' : σ}
    {e : ε} {es : List (Event S σ)} (hx : x.exec h s = ⟨.error e, s', es⟩) :
    (x >>= f).exec h s = ⟨.error e, s', es⟩ := by
  rw [exec_bind, hx]; rfl

theorem exec_call_bind (h : Handler S σ) (c : S.Call) (f : S.Reply c → Fallible S ε α) (s : σ) :
    (call c >>= f).exec h s =
      ⟨((f (h.answer c s).1).exec h (h.answer c s).2).value,
        ((f (h.answer c s).1).exec h (h.answer c s).2).state,
        ⟨s, c, (h.answer c s).1⟩ :: ((f (h.answer c s).1).exec h (h.answer c s).2).events⟩ := by
  rw [exec_bind_ok (exec_call h c s)]; rfl

@[simp] theorem exec_ofExcept_ok_bind (h : Handler S σ) (a : α) (f : α → Fallible S ε β) (s : σ) :
    (ofExcept (.ok a) >>= f).exec h s = (f a).exec h s := by
  rw [exec_bind_ok (exec_ofExcept h _ s)]; rfl

@[simp] theorem exec_ofExcept_error_bind (h : Handler S σ) (e : ε) (f : α → Fallible S ε β) (s : σ) :
    (ofExcept (.error e) >>= f).exec h s = ⟨.error e, s, []⟩ :=
  exec_bind_error (exec_ofExcept h _ s)

theorem exec_mapError (h : Handler S σ) (g : ε → ε') (x : Fallible S ε α) (s : σ) :
    (x.mapError g).exec h s =
      ⟨(x.exec h s).value.mapError g, (x.exec h s).state, (x.exec h s).events⟩ := by
  simp only [exec, mapError, ExceptT.run_mk, Program.run_bind, Program.run_ret, List.append_nil]

theorem only_bind {P : S.Call → Prop} {x : Fallible S ε α} {f : α → Fallible S ε β}
    (hx : Program.Only P x.run) (hf : ∀ a, Program.Only P (f a).run) :
    Program.Only P (x >>= f).run := by
  rw [ExceptT.run_bind]
  apply hx.bind
  rintro (e | a)
  · exact .ret _
  · exact hf a

theorem only_lift {P : S.Call → Prop} {p : Program S α} (hp : Program.Only P p) :
    Program.Only P (ExceptT.lift p : Fallible S ε α).run := by
  rw [ExceptT.run_lift]
  exact hp.bind (fun a => .ret _)

theorem only_mapError {P : S.Call → Prop} {x : Fallible S ε α} (f : ε → ε') (hx : Program.Only P x.run) :
    Program.Only P (x.mapError f).run :=
  Program.Only.bind hx (fun _ => .ret _)

theorem only_call {P : S.Call → Prop} (c : S.Call) (hc : P c) :
    Program.Only P (call c : Fallible S ε (S.Reply c)).run :=
  .ask c _ hc (fun _ => .ret _)

end Fallible

end Interaction
