import Mathlib.Data.List.Chain
import XousSignalClient.SigChat.Focus

namespace XousSignalClient.SigChat

open Encoding Interaction Fallible

def MessageBody.typed : MessageBody → Option String
  | Memory id (some text) => if SigchatOp.from_usize id = some .Post ∧ text ≠ "" then some text else none
  | _ => none

/-- What a message must lead to at once. -/
def MessageBody.reaction (body : MessageBody) : Option MainCall :=
  match SigchatOp.from_usize body.id with
  | some .Event => if body.event = some .F1 then some .show_peer_picker else none
  | some .Post => body.typed.map .post
  | some .Quit => some .unregister_server
  | _ => none

def MainCall.reaction : (c : MainCall) → c.Reply → Option MainCall
  | .receive_message, .ok body => body.reaction
  | .show_peer_picker, .ok (some picked) => some (.open_peer picked.uuid 1)
  | .unregister_server, .ok () => some .destroy_server
  | .destroy_server, .ok () => some (.terminate_process 0)
  | _, _ => none

def MainCall.reactive : MainCall → Bool
  | .show_peer_picker => true
  | .open_peer _ _ => true
  | .post _ => true
  | .unregister_server => true
  | .destroy_server => true
  | .terminate_process _ => true
  | _ => false

def MainCall.posted : MainCall → Option String
  | .post text => some text
  | _ => none

def MainCall.typed : (c : MainCall) → c.Reply → Option String
  | .receive_message, .ok body => body.typed
  | _, _ => none

section Traces

variable {σ : Type}

def reaction (e : MainEvent σ) : Option MainCall := MainCall.reaction e.call e.reply

def Reactive (e : MainEvent σ) : Prop := MainCall.reactive e.call

def typed (es : List (MainEvent σ)) : List String := es.filterMap (fun e => MainCall.typed e.call e.reply)

def posted (es : List (MainEvent σ)) : List String := es.filterMap (fun e => MainCall.posted e.call)

def starts (es : List (MainEvent σ)) : ℕ := es.countP (fun e => MainCall.starts e.call)

def Linked (e e' : MainEvent σ) : Prop := (reaction e).isSome ∨ Reactive e' → reaction e = some e'.call

/-- Whatever an event calls for comes next, and comes only then. -/
structure Reacts (es : List (MainEvent σ)) : Prop where
  linked : es.IsChain Linked
  opens : ∀ e ∈ es.head?, ¬Reactive e
  closes : ∀ e ∈ es.getLast?, reaction e = none

variable {es es' : List (MainEvent σ)} {e e' r : MainEvent σ}

theorem reacts_nil : Reacts ([] : List (MainEvent σ)) := ⟨.nil, by simp, by simp⟩

theorem linked_free (h : reaction e = none) (h' : ¬Reactive e') : Linked e e' := by
  rintro (hsome | hreactive)
  · rw [h] at hsome
    cases hsome
  · exact absurd hreactive h'

theorem Reacts.append (h : Reacts es) (h' : Reacts es') : Reacts (es ++ es') := by
  refine ⟨h.linked.append h'.linked ?_, ?_, ?_⟩
  · exact fun e he e' he' => linked_free (h.closes e he) (h'.opens e' he')
  · intro e he
    cases es with
    | nil => exact h'.opens e he
    | cons x es => exact h.opens e he
  · intro e he
    rw [List.getLast?_append] at he
    cases hlast : es'.getLast? with
    | none =>
      rw [hlast] at he
      exact h.closes e he
    | some x =>
      rw [hlast] at he
      exact h'.closes e (hlast.trans he)

def MainCall.Plain (c : MainCall) : Prop := (∀ r, c.reaction r = none) ∧ c.reactive = false

theorem reacts_single (hr : ¬Reactive r) (hnone : reaction r = none) : Reacts [r] :=
  ⟨.singleton r, by simpa using hr, by simpa using hnone⟩

theorem reacts_cons (hr : ¬Reactive r) (hnext : reaction r = some e.call) (hlinked : (e :: es).IsChain Linked)
    (hcloses : ∀ x ∈ (e :: es).getLast?, reaction x = none) : Reacts (r :: e :: es) := by
  refine ⟨List.isChain_cons_cons.mpr ⟨fun _ => hnext, hlinked⟩, by simpa using hr, ?_⟩
  rwa [List.getLast?_cons_cons]

theorem reacts_pair (hr : ¬Reactive r) (hnext : reaction r = some e.call) (hnone : reaction e = none) :
    Reacts [r, e] := reacts_cons hr hnext (.singleton e) (by simpa using hnone)

theorem reacts_plain (h : ∀ e ∈ es, MainCall.Plain e.call) : Reacts es := by
  induction es with
  | nil => exact reacts_nil
  | cons e es ih =>
    obtain ⟨hplain, hes⟩ := List.forall_mem_cons.mp h
    have he : Reacts [e] := reacts_single (by rw [Reactive, hplain.2]; simp) (hplain.1 e.reply)
    exact he.append (ih hes)

theorem reaction_post_iff (body : MessageBody) (text : String) :
    body.reaction = some (.post text) ↔ body.typed = some text := by
  unfold MessageBody.reaction
  cases hid : SigchatOp.from_usize body.id with
  | none =>
    cases body with
    | Memory id lent =>
      change SigchatOp.from_usize id = none at hid
      cases lent <;> simp [MessageBody.typed, hid]
    | _ => simp [MessageBody.typed]
  | some op =>
    cases op with
    | Post => simp
    | _ =>
      cases body with
      | Memory id lent =>
        change SigchatOp.from_usize id = some _ at hid
        cases lent <;> simp [MessageBody.typed, MessageBody.event, hid]
      | _ => simp [MessageBody.typed]

theorem calls_for_post_iff {text : String} :
    reaction e = some (.post text) ↔ MainCall.typed e.call e.reply = some text := by
  obtain ⟨s, c, r⟩ := e
  cases c with
  | receive_message =>
    cases r with
    | error e => exact iff_of_false (fun h => by cases h) (fun h => by cases h)
    | ok body => exact reaction_post_iff body text
  | show_peer_picker =>
    rcases r with e | _ | picked <;> exact iff_of_false (fun h => by cases h) (fun h => by cases h)
  | unregister_server => cases r <;> exact iff_of_false (fun h => by cases h) (fun h => by cases h)
  | destroy_server => cases r <;> exact iff_of_false (fun h => by cases h) (fun h => by cases h)
  | _ => exact iff_of_false (fun h => by cases h) (fun h => by cases h)

theorem call_of_posted {c : MainCall} {text : String} (h : c.posted = some text) : c = .post text := by
  cases c <;> cases h
  rfl

theorem posted_of_linked (h : Linked e e') : MainCall.posted e'.call = MainCall.typed e.call e.reply := by
  cases htyped : MainCall.typed e.call e.reply with
  | some text =>
    have hcalls := calls_for_post_iff.mpr htyped
    have hnext := h (.inl (by rw [hcalls]; rfl))
    rw [← Option.some.inj (hcalls.symm.trans hnext)]
    rfl
  | none =>
    cases hposted : MainCall.posted e'.call with
    | none => rfl
    | some text =>
      have hcall : e'.call = .post text := call_of_posted hposted
      have hnext := h (.inr (by rw [Reactive, hcall]; rfl))
      rw [hcall] at hnext
      rw [calls_for_post_iff.mp hnext] at htyped
      cases htyped

theorem typed_of_closes (h : reaction e = none) : MainCall.typed e.call e.reply = none := by
  cases htyped : MainCall.typed e.call e.reply with
  | none => rfl
  | some text =>
    rw [calls_for_post_iff.mpr htyped] at h
    cases h

theorem posted_tail (h : (e :: es).IsChain Linked) (hcloses : ∀ x ∈ (e :: es).getLast?, reaction x = none) :
    posted es = typed (e :: es) := by
  induction es generalizing e with
  | nil =>
    have hnone := typed_of_closes (hcloses e rfl)
    simp [posted, typed, hnone]
  | cons e' es ih =>
    obtain ⟨hlinked, hrest⟩ := List.isChain_cons_cons.mp h
    rw [List.getLast?_cons_cons] at hcloses
    have htail := ih hrest hcloses
    unfold posted typed at htail ⊢
    rw [List.filterMap_cons, List.filterMap_cons (a := e), posted_of_linked hlinked, htail]

theorem Reacts.posted_eq (h : Reacts es) : posted es = typed es := by
  cases es with
  | nil => rfl
  | cons e es =>
    have hnot : MainCall.posted e.call = none := by
      cases hposted : MainCall.posted e.call with
      | none => rfl
      | some text =>
        refine absurd ?_ (h.opens e rfl)
        rw [Reactive, call_of_posted hposted]
        rfl
    rw [← posted_tail h.linked h.closes, posted, List.filterMap_cons, hnot]
    rfl

theorem starts_append : starts (es ++ es') = starts es + starts es' := List.countP_append

theorem starts_single (h : MainCall.starts e.call = false) : starts [e] = 0 := by
  rw [starts, List.countP_singleton, h]
  rfl

end Traces

section Runs

variable {σ : Type} {h : Handler mainSignature σ} {t : σ}

def Quits (e : MainEvent σ) : Prop := ¬Reactive e ∧ reaction e = some .unregister_server

inductive Turned (s : MainState) : Except Panicked (Option MainState) → List (MainEvent σ) → Prop where
  | failed {p : Panicked} {es : List (MainEvent σ)} (hes : Reacts es) (hstarts : starts es ≤ s.first_focus.toNat) :
      Turned s (.error p) es
  | went {s' : MainState} {es : List (MainEvent σ)} (hes : Reacts es)
      (hstarts : starts es + s'.first_focus.toNat ≤ s.first_focus.toNat) (hpost : s'.user_post = none) :
      Turned s (.ok (some s')) es
  | quit {es : List (MainEvent σ)} {q : MainEvent σ} (hes : Reacts es) (hstarts : starts es ≤ s.first_focus.toNat)
      (hq : Quits q) : Turned s (.ok none) (es ++ [q])

theorem only_tryConnect (key : String) : (tryConnect key).run.Only MainCall.Plain := by
  have hconnect : MainCall.Plain .connect := ⟨fun _ => rfl, rfl⟩
  have hset : MainCall.Plain (.dialogue_set (some key)) := ⟨fun _ => rfl, rfl⟩
  have hflags : MainCall.Plain (.set_author_flags "me" .Right) := ⟨fun _ => rfl, rfl⟩
  have hstart : MainCall.Plain .start_receive := ⟨fun _ => rfl, rfl⟩
  refine only_bind (only_call (S := mainSignature) _ hconnect) (fun ended => only_bind (.ret _) (fun outcome => ?_))
  rcases outcome with e | connected
  · exact .ret _
  · cases connected with
    | false => exact .ret _
    | true =>
      refine only_bind (only_call (S := mainSignature) _ hset) (fun set => only_bind (.ret _) (fun _ => ?_))
      refine only_bind (only_call (S := mainSignature) _ hflags) (fun _ => ?_)
      exact only_bind (only_call (S := mainSignature) _ hstart) (fun _ => .ret _)

theorem ensures_tryConnect_starts (key : String) : Ensures h (tryConnect key) t (fun v _ es =>
    starts es ≤ 1 ∧ (v = .ok false → starts es = 0)) := by
  apply ensures_call_bind
  apply ensures_ofExcept_bind
  · exact fun p hp => ⟨Nat.zero_le 1, fun _ => rfl⟩
  · rintro (e | connected) -
    · exact ⟨Nat.zero_le 1, fun _ => rfl⟩
    · cases connected with
      | false => exact ⟨Nat.zero_le 1, fun _ => rfl⟩
      | true =>
        apply ensures_call_bind
        apply ensures_ofExcept_bind
        · exact fun p hp => ⟨Nat.zero_le 1, fun _ => rfl⟩
        · intro u hu
          apply ensures_call_bind
          apply ensures_call_bind
          exact ⟨le_refl 1, fun hv => by cases hv⟩

theorem ensures_tryConnect_plain (key : String) : Ensures h (tryConnect key) t (fun v _ es =>
    Reacts es ∧ starts es ≤ 1 ∧ (v = .ok false → starts es = 0)) :=
  (ensures_only (only_tryConnect key)).and (ensures_tryConnect_starts key)
    |>.mono (fun _ _ _ hes => ⟨reacts_plain hes.1, hes.2⟩)

inductive Handled (r : MainEvent σ) (s : MainState) :
    Except Panicked (Option MainState) → List (MainEvent σ) → Prop where
  | failed {p : Panicked} {es : List (MainEvent σ)} (hes : Reacts (r :: es))
      (hstarts : starts (r :: es) ≤ s.first_focus.toNat) : Handled r s (.error p) es
  | went {s' : MainState} {es : List (MainEvent σ)} (hes : Reacts (r :: es))
      (hstarts : starts (r :: es) + s'.first_focus.toNat ≤ s.first_focus.toNat) (hpost : s'.user_post = s.user_post) :
      Handled r s (.ok (some s')) es
  | typed {text : String} (hpost : reaction r = some (.post text)) :
      Handled r s (.ok (some { s with user_post := some text })) []
  | quit (hq : Quits r) : Handled r s (.ok none) []

theorem starts_cons {r : MainEvent σ} {es : List (MainEvent σ)} (hr : MainCall.starts r.call = false) :
    starts (r :: es) = starts es := by
  have happend : starts ([r] ++ es) = starts [r] + starts es := starts_append
  rwa [starts_single hr, Nat.zero_add] at happend

theorem handled_same {r : MainEvent σ} (s : MainState) (hr : Reacts [r]) (hstarts : MainCall.starts r.call = false) :
    Handled r s (.ok (some s)) [] :=
  .went hr (by rw [starts_single hstarts, Nat.zero_add]) rfl

theorem ensures_redraw {r : MainEvent σ} {s s' : MainState} {es : List (MainEvent σ)} (hes : Reacts (r :: es))
    (hstarts : starts (r :: es) + s'.first_focus.toNat ≤ s.first_focus.toNat) (hpost : s'.user_post = s.user_post) :
    Ensures h (MainCall.redraw.ask >>= fun _ => (pure s' : MainM MainState)) t
      (fun v _ es' => Handled r s (v.map some) (es ++ es')) := by
  apply ensures_call_bind
  apply ensures_pure
  have hredraw : MainCall.Plain .redraw := ⟨fun _ => rfl, rfl⟩
  have hplain : Reacts [(⟨t, .redraw, (h.answer .redraw t).1⟩ : MainEvent σ)] :=
    reacts_plain (by simpa using hredraw)
  refine .went ?_ ?_ hpost
  · rw [← List.cons_append]
    exact hes.append hplain
  · rw [← List.cons_append, starts_append, starts_single rfl, Nat.add_zero]
    exact hstarts

theorem handled_onFocus {r : MainEvent σ} (s : MainState) (key : String) (hr : Reacts [r])
    (hstarts : MainCall.starts r.call = false) :
    Ensures h (onFocus key s) t (fun v _ es => Handled r s (v.map some) es) := by
  unfold onFocus
  by_cases hfocus : s.first_focus = true
  · rw [if_pos hfocus]
    have hone : s.first_focus.toNat = 1 := by rw [hfocus]; rfl
    apply ensures_bind (ensures_tryConnect_plain key)
    · rintro p t' es ⟨hes, hle, -⟩
      exact .failed (hr.append hes) (by rw [starts_cons hstarts, hone]; exact hle)
    · rintro connected t' es ⟨hes, hle, hnone⟩
      refine ensures_redraw (hr.append hes) ?_ rfl
      rw [starts_cons hstarts, hone]
      cases connected with
      | true => exact hle
      | false => exact (Nat.add_eq_right.mpr (hnone rfl)).le
  · rw [if_neg hfocus]
    have hsame : starts [r] + s.first_focus.toNat ≤ s.first_focus.toNat := by
      rw [starts_single hstarts, Nat.zero_add]
    exact ensures_redraw hr hsame rfl

theorem handled_onF1 {r : MainEvent σ} (s : MainState) (hr : ¬Reactive r) (hstarts : MainCall.starts r.call = false)
    (hnext : reaction r = some .show_peer_picker) :
    Ensures h (onF1 >>= fun _ => (pure s : MainM MainState)) t (fun v _ es => Handled r s (v.map some) es) := by
  have hstarted {es : List (MainEvent σ)} (hes : starts es = 0) :
      starts (r :: es) + s.first_focus.toNat ≤ s.first_focus.toNat := by
    rw [starts_cons hstarts, hes, Nat.zero_add]
  have hshown : Ensures h onF1 t (fun _ _ es => Reacts (r :: es) ∧ starts es = 0) := by
    apply ensures_call_bind
    cases hshow : (h.answer .show_peer_picker t).1 with
    | error p => exact ⟨reacts_pair hr hnext rfl, rfl⟩
    | ok shown =>
      apply ensures_ok_bind
      cases shown with
      | none => exact ⟨reacts_pair hr hnext rfl, rfl⟩
      | some picked =>
        apply ensures_call_bind
        refine ensures_ofExcept ⟨reacts_cons hr hnext ?_ (by simp [reaction, MainCall.reaction]), rfl⟩
        exact List.isChain_cons_cons.mpr ⟨fun _ => rfl, .singleton _⟩
  apply ensures_bind hshown
  · rintro p t' es ⟨hes, hnone⟩
    exact .failed hes (le_trans (Nat.le_add_right _ _) (hstarted hnone))
  · rintro u t' es ⟨hes, hnone⟩
    apply ensures_pure
    rw [List.append_nil]
    exact .went hes (hstarted hnone) rfl

theorem handled_onPost {body : MessageBody} (s : MainState) (hop : SigchatOp.from_usize body.id = some .Post)
    {r : MainEvent σ} (hr : ¬Reactive r) (hstarts : MainCall.starts r.call = false)
    (hreaction : reaction r = body.typed.map .post) :
    Ensures h (onPost body s) t (fun v _ es => Handled r s (v.map some) es) := by
  have hrefused (htyped : body.typed = none) : Handled r s (.error .unwrap) [] := by
    rw [htyped] at hreaction
    exact .failed (reacts_single hr hreaction) (by rw [starts_single hstarts]; exact Nat.zero_le _)
  cases body with
  | Memory id lent =>
    cases lent with
    | none => exact ensures_throw (hrefused rfl)
    | some text =>
      apply ensures_pure
      by_cases htext : text = ""
      · rw [if_neg (by rw [utf8_length_pos]; simpa using htext)]
        refine handled_same s (reacts_single hr ?_) hstarts
        rw [hreaction]
        simp [MessageBody.typed, htext]
      · rw [if_pos ((utf8_length_pos text).mpr htext)]
        have htyped : (MessageBody.Memory id (some text)).typed = some text := if_pos ⟨hop, htext⟩
        exact .typed (by rw [hreaction, htyped]; rfl)
  | Scalar id event => exact ensures_throw (hrefused rfl)
  | BlockingScalar id => exact ensures_throw (hrefused rfl)

abbrev received (t₀ : σ) (body : MessageBody) : MainEvent σ := ⟨t₀, .receive_message, .ok body⟩

theorem handled_message {s : MainState} (body : MessageBody) (key : String) (t₀ : σ) :
    Ensures h (handleMessage key body s) t
      (fun v _ es => Handled (received t₀ body) s v es) := by
  have hr : ¬Reactive (received t₀ body) := by simp [Reactive, MainCall.reactive]
  have hsame (hnone : body.reaction = none) : Handled (received t₀ body) s
      (.ok (some s)) [] := handled_same s (reacts_single hr hnone) rfl
  have hskip (hnone : body.reaction = none) : Ensures h (pure (some s) : MainM (Option MainState)) t
      (fun v _ es => Handled (received t₀ body) s v es) := ensures_pure (hsame hnone)
  unfold handleMessage
  cases hop : SigchatOp.from_usize body.id with
  | none => exact hskip (by simp [MessageBody.reaction, hop])
  | some op =>
    cases op with
    | Event =>
      have hreaction : body.reaction = if body.event = some .F1 then some .show_peer_picker else none := by
        simp [MessageBody.reaction, hop]
      have hevent : Ensures h (onEvent key body.event s) t
          (fun v _ es => Handled (received t₀ body) s (v.map some) es) := by
        cases he : body.event with
        | none => exact ensures_pure (hsame (by rw [hreaction, he]; simp))
        | some event =>
          rw [he] at hreaction
          cases event with
          | Focus => exact handled_onFocus s key (reacts_single hr hreaction) rfl
          | F1 => exact handled_onF1 s hr rfl hreaction
          | other => exact ensures_pure (hsame hreaction)
      apply ensures_bind hevent
      · exact fun p t' es hes => hes
      · intro s' t' es hes
        apply ensures_pure
        rwa [List.append_nil]
    | Post =>
      have hreaction : body.reaction = body.typed.map .post := by simp [MessageBody.reaction, hop]
      have hpost : Ensures h (onPost body s) t
          (fun v _ es => Handled (received t₀ body) s (v.map some) es) :=
        handled_onPost s hop hr rfl hreaction
      apply ensures_bind hpost
      · exact fun p t' es hes => hes
      · intro s' t' es hes
        apply ensures_pure
        rwa [List.append_nil]
    | Quit => exact ensures_pure (.quit ⟨hr, by simp [reaction, MainCall.reaction, MessageBody.reaction, hop]⟩)
    | Menu => exact hskip (by simp [MessageBody.reaction, hop])
    | Rawkeys => exact hskip (by simp [MessageBody.reaction, hop])

theorem ensures_post {s : MainState} {text : String} (hpost : s.user_post = some text) :
    Ensures h (postPending s) t (fun v _ es =>
      (∃ reply, es = [(⟨t, .post text, reply⟩ : MainEvent σ)]) ∧
        ∀ s', v = .ok s' → s' = { s with user_post := none }) := by
  rw [postPending, hpost]
  apply ensures_call_bind
  apply ensures_ofExcept_bind
  · exact fun p hp => ⟨⟨_, rfl⟩, fun s' hs' => by cases hs'⟩
  · exact fun u hu => ensures_pure ⟨⟨_, rfl⟩, fun s' hs' => (Except.ok.inj hs').symm⟩

theorem turned_postPending {r : MainEvent σ} {s s' : MainState} {es : List (MainEvent σ)}
    (hempty : s.user_post = none) (hr : ¬Reactive r) (hstarts : MainCall.starts r.call = false)
    (hes : Handled r s (.ok (some s')) es) :
    Ensures h (postPending s' >>= fun s'' => (pure (some s'') : MainM (Option MainState))) t
      (fun v _ es' => Turned s v (r :: (es ++ es'))) := by
  cases hes with
  | went hes hstarts hpost =>
    rw [postPending, hpost, hempty]
    apply ensures_pure
    rw [List.append_nil]
    exact .went hes hstarts (hpost.trans hempty)
  | typed hpost =>
    rename_i text
    have hposted (reply : Except Panicked Unit) : Reacts [r, (⟨t, .post text, reply⟩ : MainEvent σ)] ∧
        starts [r, (⟨t, .post text, reply⟩ : MainEvent σ)] = 0 :=
      ⟨reacts_pair hr hpost rfl, by rw [starts_cons hstarts]; exact starts_single rfl⟩
    apply ensures_bind (ensures_post rfl)
    · rintro p t' es ⟨⟨reply, rfl⟩, -⟩
      exact .failed (hposted reply).1 ((hposted reply).2.trans_le (Nat.zero_le _))
    · rintro s'' t' es ⟨⟨reply, rfl⟩, hkept⟩
      obtain rfl := hkept s'' rfl
      apply ensures_pure
      rw [List.nil_append, List.append_nil]
      refine .went (hposted reply).1 ?_ rfl
      rw [(hposted reply).2, Nat.zero_add]

theorem turned_mainTurn {s : MainState} (hempty : s.user_post = none) (key : String) :
    Ensures h (mainTurn key s) t (fun v _ es => Turned s v es) := by
  apply ensures_call_bind
  apply ensures_unwrap_bind
  · intro e he
    rw [he]
    exact .failed (reacts_single (by simp [Reactive, MainCall.reactive]) rfl) (Nat.zero_le _)
  · intro body hbody
    rw [hbody]
    apply ensures_bind (handled_message body key t)
    · intro p t' es hes
      cases hes with
      | failed hes hstarts => exact .failed hes hstarts
    · intro handled t' es hes
      cases handled with
      | none =>
        cases hes with
        | quit hq => exact ensures_pure (.quit reacts_nil (Nat.zero_le _) hq)
      | some s' => exact turned_postPending hempty (by simp [Reactive, MainCall.reactive]) rfl hes

theorem turned_mainLoop {s : MainState} (hempty : s.user_post = none) (key : String) (n : ℕ) :
    Ensures h (mainLoop key n s) t (fun v _ es => Turned s v es) := by
  induction n generalizing s t with
  | zero => exact ensures_pure (.went reacts_nil (Nat.zero_add _).le hempty)
  | succ n ih =>
    apply ensures_bind (turned_mainTurn hempty key)
    · intro p t' es hes
      cases hes with
      | failed hes hstarts => exact .failed hes hstarts
    · intro turned t' es hes
      cases hes with
      | quit hes hstarts hq =>
        apply ensures_pure
        rw [List.append_nil]
        exact .quit hes hstarts hq
      | went hes hstarts hpost =>
        apply (ih hpost).mono
        intro v u es' hes'
        cases hes' with
        | failed hes' hstarts' =>
          refine .failed (hes.append hes') ?_
          rw [starts_append]
          exact (Nat.add_le_add_left hstarts' _).trans hstarts
        | went hes' hstarts' hpost' =>
          refine .went (hes.append hes') ?_ hpost'
          rw [starts_append, Nat.add_assoc]
          exact (Nat.add_le_add_left hstarts' _).trans hstarts
        | quit hes' hstarts' hq =>
          rw [← List.append_assoc]
          refine .quit (hes.append hes') ?_ hq
          rw [starts_append]
          exact (Nat.add_le_add_left hstarts' _).trans hstarts

theorem reacts_asking (t₀ t₁ t₂ : σ) (r₀ : Except IoError Bool) (r₁ : Option String) (ready : Bool) :
    Reacts (asking t₀ t₁ t₂ r₀ r₁ ready) := by
  apply reacts_plain
  simp only [asking, List.forall_mem_cons]
  exact ⟨⟨fun _ => rfl, rfl⟩, ⟨fun _ => rfl, rfl⟩, ⟨fun _ => rfl, rfl⟩, by simp⟩

theorem ensures_startUp_plain : Ensures h startUp t (fun v _ es =>
    Reacts es ∧ starts es ≤ 1 ∧
      ∀ key first_focus, v = .ok (key, first_focus) → starts es + first_focus.toNat ≤ 1) := by
  apply ensures_call_bind
  apply ensures_call_bind
  apply ensures_call_bind
  have hasked := reacts_asking t (h.answer .seed_demo_recipient_from_env t).2
    (h.answer .focused_peer_uuid (h.answer .seed_demo_recipient_from_env t).2).2
    (h.answer .seed_demo_recipient_from_env t).1
    (h.answer .focused_peer_uuid (h.answer .seed_demo_recipient_from_env t).2).1
  split
  · next hready =>
    rw [hready]
    apply ensures_bind (ensures_tryConnect_plain _)
    · rintro p t' es ⟨hes, hle, -⟩
      refine ⟨(hasked true).append hes, hle, ?_⟩
      rintro key first_focus ⟨⟩
    · rintro connected t' es ⟨hes, hle, -⟩
      apply ensures_pure
      rw [List.append_nil]
      refine ⟨(hasked true).append hes, hle, ?_⟩
      rintro key first_focus ⟨⟩
      exact hle
  · next hready =>
    rw [Bool.eq_false_of_not_eq_true hready]
    apply ensures_pure
    refine ⟨hasked false, Nat.zero_le 1, ?_⟩
    rintro key first_focus ⟨⟩
    exact le_refl 1

theorem starts_of_quits {q : MainEvent σ} (hq : Quits q) : MainCall.starts q.call = false := by
  obtain ⟨s, c, r⟩ := q
  cases c with
  | start_receive => cases hq.2
  | _ => rfl

theorem ensures_cleanUp {q : MainEvent σ} (hq : Quits q) : Ensures h cleanUp t (fun _ _ es =>
    Reacts (q :: es) ∧ starts es = 0) := by
  apply ensures_call_bind
  cases hunregister : (h.answer .unregister_server t).1 with
  | error e => exact ensures_throw ⟨reacts_pair hq.1 hq.2 rfl, rfl⟩
  | ok u =>
    apply ensures_call_bind
    cases hdestroy : (h.answer .destroy_server (h.answer .unregister_server t).2).1 with
    | error e =>
      refine ensures_throw ⟨reacts_cons hq.1 hq.2 ?_ (by simp [reaction, MainCall.reaction]), rfl⟩
      exact List.isChain_cons_cons.mpr ⟨fun _ => rfl, .singleton _⟩
    | ok u' =>
      refine ensures_call ⟨reacts_cons hq.1 hq.2 ?_ (by simp [reaction, MainCall.reaction]), rfl⟩
      exact List.isChain_cons_cons.mpr ⟨fun _ => rfl, List.isChain_cons_cons.mpr ⟨fun _ => rfl, .singleton _⟩⟩

theorem ensures_looped {s : MainState} (hempty : s.user_post = none) (key : String) (n : ℕ) :
    Ensures h (mainLoop key n s >>= exitLoop) t (fun _ _ es => Reacts es ∧ starts es ≤ s.first_focus.toNat) := by
  apply ensures_bind (turned_mainLoop hempty key n)
  · intro p t' es hes
    cases hes with
    | failed hes hstarts => exact ⟨hes, hstarts⟩
  · intro exited t' es hes
    cases hes with
    | went hes hstarts hpost =>
      apply ensures_pure
      rw [List.append_nil]
      exact ⟨hes, (Nat.le_add_right _ _).trans hstarts⟩
    | quit hes hstarts hq =>
      apply (ensures_cleanUp hq).mono
      rintro v u es' ⟨hes', hnone⟩
      rw [List.append_assoc, List.singleton_append]
      refine ⟨hes.append hes', ?_⟩
      rwa [starts_append, starts_cons (starts_of_quits hq), hnone, Nat.add_zero]

/-- In every run, every line that is typed is posted at once, every peer that is picked is opened and no other, the
servers are given up on `Quit` only, and one receiver is started at most. -/
theorem reacts_at_once (h : Handler mainSignature σ) (t : σ) (n : ℕ) :
    let es := ((wrapped_main n).exec h t).events
    Reacts es ∧ posted es = typed es ∧ starts es ≤ 1 := by
  have hreacts : Ensures h (wrapped_main n) t (fun _ _ es => Reacts es ∧ starts es ≤ 1) := by
    apply ensures_bind ensures_startUp_plain
    · rintro p t' es ⟨hes, hle, -⟩
      exact ⟨hes, hle⟩
    · rintro ⟨key, first_focus⟩ t' es ⟨hes, -, hstarts⟩
      apply (ensures_looped rfl key n).mono
      rintro v u es' ⟨hes', hle⟩
      refine ⟨hes.append hes', ?_⟩
      rw [starts_append]
      exact (Nat.add_le_add_left hle _).trans (hstarts key first_focus rfl)
  exact ⟨hreacts.1, hreacts.1.posted_eq, hreacts.2⟩

end Runs

end XousSignalClient.SigChat
