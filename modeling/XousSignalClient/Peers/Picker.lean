import XousSignalClient.Peers.Records
import XousSignalClient.Peers.RoundTrip

namespace XousSignalClient

open Encoding Interaction

namespace Peers

def readAll : List String → PddbProgram (List PeerSummary)
  | [] => pure []
  | uuid :: keys => do
    let summary ← read uuid
    let out ← readAll keys
    pure (summary.toList ++ out)

def list_sorted : PddbProgram (List PeerSummary) := do
  match ← pddbList PEERS_DICT with
  | .error _ => pure []
  | .ok keys =>
    let out ← readAll keys
    pure (out.mergeSort (fun a b => b.last_ts ≤ a.last_ts))

inductive PickerCall where
  | pddb (c : PddbCall)
  | show_notification (text : String)
  | add_list_item (label : String)
  | get_radiobutton (title : String)

/-- The modals server's replies are kept as `.ok()` keeps them. -/
def PickerCall.Reply : PickerCall → Type
  | .pddb c => c.Reply
  | .show_notification _ => Option Unit
  | .add_list_item _ => Option Unit
  | .get_radiobutton _ => Option String

def pickerSignature : Signature := ⟨PickerCall, PickerCall.Reply⟩

abbrev PickerProgram (α : Type) := Fallible pickerSignature Panic α

def PickerCall.ask (c : PickerCall) : PickerProgram c.Reply := Fallible.call (S := pickerSignature) c

def onPicker (c : PddbCall) : Program pickerSignature c.Reply := Program.perform (S := pickerSignature) (.pddb c)

def cut (s : String) (n : ℕ) : Except Panic String := if n < (utf8 s).length then sliceTo s n else .ok s

def rowLabel (p : PeerSummary) : Except Panic String := do
  let name_short ← cut p.display_name 12
  let snippet_short ← cut p.last_snippet 32
  pure ((if 0 < p.unread then "*" else " ") ++ " " ++ name_short ++ "  " ++ snippet_short)

def addListItems : List String → PickerProgram Unit
  | [] => pure ()
  | label :: labels => do
    let _ ← (PickerCall.add_list_item label).ask
    addListItems labels

def show_peer_picker : PickerProgram (Option PeerSummary) := do
  let peers ← ExceptT.lift (list_sorted.interp onPicker)
  if peers.isEmpty then
    let _ ← (PickerCall.show_notification "No conversations yet. Wait for an incoming message.").ask
    pure none
  else
    let labels ← Fallible.ofExcept (peers.mapM rowLabel)
    addListItems labels
    let answer : Option String ← (PickerCall.get_radiobutton "Conversations").ask
    pure (answer.bind (fun chosen => (labels.findIdx? (· == chosen)).bind (fun idx => peers[idx]?)))

structure Picker where
  pddb : Pddb
  items : List String
  notices : List String

namespace Picker

def start (p : Pddb) : Picker := ⟨p, [], []⟩

/-- The modals server shows the items in the order they were added; the user selects row `i`. -/
def answer (i : ℕ) : (c : PickerCall) → Picker → c.Reply × Picker
  | .pddb c, s => ((Pddb.answer c s.pddb).1, { s with pddb := (Pddb.answer c s.pddb).2 })
  | .show_notification text, s => (some (), { s with notices := s.notices ++ [text] })
  | .add_list_item label, s => (some (), { s with items := s.items ++ [label] })
  | .get_radiobutton _, s => (s.items[i]?, { s with items := [] })

def handler (i : ℕ) : Handler pickerSignature Picker := ⟨answer i⟩

def store : Program.Part Picker Pddb where
  get := Picker.pddb
  set := fun s p => { s with pddb := p }
  get_set := fun _ _ => rfl
  set_set := fun _ _ _ => rfl
  set_get := fun _ => rfl

end Picker

def rows (p : Pddb) : List PeerSummary := (list_sorted.run Pddb.handler p).value

section Rows

variable (p : Pddb)

theorem run_read_summary (uuid : String) :
    ((read uuid).run Pddb.handler p).value = found uuid (p.value PEERS_DICT uuid) ∧
      ((read uuid).run Pddb.handler p).state = p := by
  have hread : read uuid >>= Program.ret = _ := read_bind (fun r => Program.ret r)
  rw [Program.bind_ret] at hread
  rw [hread]
  constructor
  · exact congrArg (found uuid) (toOption_read p PEERS_DICT uuid)
  · change (Pddb.answer (.read PEERS_DICT uuid) p).2 = p
    cases h : p.value PEERS_DICT uuid <;> simp [Pddb.answer, h]

theorem run_readAll (keys : List String) :
    ((readAll keys).run Pddb.handler p).value = keys.filterMap (fun uuid => found uuid (p.value PEERS_DICT uuid)) ∧
      ((readAll keys).run Pddb.handler p).state = p := by
  induction keys with
  | nil => exact ⟨rfl, rfl⟩
  | cons uuid keys ih =>
    obtain ⟨hvalue, hstate⟩ := run_read_summary p uuid
    rw [readAll, Program.run_bind, hstate]
    simp only [Program.run_bind, Program.pure_eq, Program.run_ret, ih.1, ih.2, hvalue, List.filterMap_cons]
    cases found uuid (p.value PEERS_DICT uuid) <;> simp

theorem run_list_sorted :
    rows p = ((p.keysOf PEERS_DICT).filterMap (fun uuid => found uuid (p.value PEERS_DICT uuid))).mergeSort
        (fun a b => b.last_ts ≤ a.last_ts) ∧
      (list_sorted.run Pddb.handler p).state = p := by
  obtain ⟨hvalue, hstate⟩ := run_readAll p (p.keysOf PEERS_DICT)
  constructor
  · refine (congrArg Outcome.value (Program.run_bind Pddb.handler (readAll (p.keysOf PEERS_DICT)) _ p)).trans ?_
    rw [hvalue]
    rfl
  · refine (congrArg Outcome.state (Program.run_bind Pddb.handler (readAll (p.keysOf PEERS_DICT)) _ p)).trans ?_
    rw [hvalue]
    exact hstate

theorem uuids_filterMap (keys : List String) :
    ((keys.filterMap (fun uuid => found uuid (p.value PEERS_DICT uuid))).map PeerSummary.uuid).Sublist keys := by
  induction keys with
  | nil => exact .slnil
  | cons uuid keys ih =>
    rw [List.filterMap_cons]
    cases h : found uuid (p.value PEERS_DICT uuid) with
    | none => exact ih.cons uuid
    | some summary =>
      rw [List.map_cons, uuid_found h]
      exact ih.cons_cons uuid

theorem keysOf_nodup (dict : String) : (p.keysOf dict).Nodup := by
  refine List.Nodup.map_on ?_ (p.keys_nodup.filter _)
  intro k hk k' hk' h
  have hdict := (List.mem_filter.mp hk).2
  have hdict' := (List.mem_filter.mp hk').2
  simp only [decide_eq_true_eq] at hdict hdict'
  exact Prod.ext (hdict.trans hdict'.symm) h

theorem rows_nodup : ((rows p).map PeerSummary.uuid).Nodup := by
  rw [(run_list_sorted p).1]
  refine ((List.mergeSort_perm _ _).map _).nodup_iff.mpr ?_
  exact (keysOf_nodup p PEERS_DICT).sublist (uuids_filterMap p _)

theorem rows_sorted : (rows p).Pairwise (fun a b => b.last_ts ≤ a.last_ts) := by
  rw [(run_list_sorted p).1]
  apply (List.pairwise_mergeSort _ _ _).imp
  · intro a b h
    exact of_decide_eq_true h
  · intro a b c hab hbc
    simp only [decide_eq_true_eq] at hab hbc ⊢
    exact UInt64.le_trans hbc hab
  · intro a b
    simp only [Bool.or_eq_true, decide_eq_true_eq]
    exact UInt64.le_total b.last_ts a.last_ts

theorem mem_rows {row : PeerSummary} : row ∈ rows p ↔ ∃ uuid, found uuid (p.value PEERS_DICT uuid) = some row := by
  rw [(run_list_sorted p).1, (List.mergeSort_perm _ _).mem_iff, List.mem_filterMap]
  constructor
  · rintro ⟨uuid, -, hrow⟩
    exact ⟨uuid, hrow⟩
  · rintro ⟨uuid, hrow⟩
    refine ⟨uuid, ?_, hrow⟩
    rw [Pddb.mem_keysOf]
    cases h : p.value PEERS_DICT uuid with
    | none =>
      rw [h] at hrow
      cases hrow
    | some b => rfl

end Rows

def CutsWhole (p : PeerSummary) : Prop :=
  (12 < (utf8 p.display_name).length → IsCharBoundary p.display_name 12) ∧
    (32 < (utf8 p.last_snippet).length → IsCharBoundary p.last_snippet 32)

/-- Both rows are marked or neither is, and what is shown of their texts reads the same. -/
def LooksLike (p q : PeerSummary) : Prop :=
  (0 < p.unread ↔ 0 < q.unread) ∧
    (utf8 p.display_name).take 12 ++ utf8 "  " ++ (utf8 p.last_snippet).take 32 =
      (utf8 q.display_name).take 12 ++ utf8 "  " ++ (utf8 q.last_snippet).take 32

section Labels

variable {p q : PeerSummary} {l m : String}

theorem cut_ok_iff {s : String} {n : ℕ} :
    (∃ t, cut s n = .ok t) ↔ (n < (utf8 s).length → IsCharBoundary s n) := by
  unfold cut sliceTo
  split_ifs with hlong
  · rw [← slicePrefix_isSome_iff]
    cases h : slicePrefix s.toList n <;> simp [hlong]
  · simp [hlong]

theorem utf8_cut {s t : String} {n : ℕ} (h : cut s n = .ok t) : utf8 t = (utf8 s).take n := by
  unfold cut sliceTo at h
  split_ifs at h with hlong
  · cases hslice : slicePrefix s.toList n with
    | none => simp [hslice] at h
    | some ds =>
      simp only [hslice, Except.ok.injEq] at h
      obtain ⟨rest, hs, hlen⟩ := slicePrefix_length hslice
      rw [← h, utf8, utf8, hs, String.toList_ofList, List.flatMap_append, ← hlen, List.take_left]
  · obtain rfl := Except.ok.inj h
    rw [List.take_of_length_le (by omega)]

theorem rowLabel_eq_ok : rowLabel p = .ok l ↔ ∃ name_short snippet_short, cut p.display_name 12 = .ok name_short ∧
    cut p.last_snippet 32 = .ok snippet_short ∧
    (if 0 < p.unread then "*" else " ") ++ " " ++ name_short ++ "  " ++ snippet_short = l := by
  unfold rowLabel
  constructor
  · intro h
    cases hname : cut p.display_name 12 with
    | error e => rw [hname] at h; cases h
    | ok name_short =>
      cases hsnippet : cut p.last_snippet 32 with
      | error e => rw [hname, hsnippet] at h; cases h
      | ok snippet_short =>
        rw [hname, hsnippet] at h
        exact ⟨name_short, snippet_short, rfl, rfl, Except.ok.inj h⟩
  · rintro ⟨name_short, snippet_short, hname, hsnippet, rfl⟩
    rw [hname, hsnippet]
    rfl

theorem rowLabel_ok_iff : (∃ l, rowLabel p = .ok l) ↔ CutsWhole p := by
  simp only [rowLabel_eq_ok, CutsWhole, ← cut_ok_iff]
  constructor
  · rintro ⟨_, name_short, snippet_short, hname, hsnippet, -⟩
    exact ⟨⟨name_short, hname⟩, snippet_short, hsnippet⟩
  · rintro ⟨⟨name_short, hname⟩, snippet_short, hsnippet⟩
    exact ⟨_, name_short, snippet_short, hname, hsnippet, rfl⟩

theorem utf8_rowLabel (h : rowLabel p = .ok l) :
    utf8 l = utf8 (if 0 < p.unread then "*" else " ") ++ (utf8 " " ++
      ((utf8 p.display_name).take 12 ++ utf8 "  " ++ (utf8 p.last_snippet).take 32)) := by
  obtain ⟨name_short, snippet_short, hname, hsnippet, rfl⟩ := rowLabel_eq_ok.mp h
  simp only [utf8_append, utf8_cut hname, utf8_cut hsnippet, List.append_assoc]

theorem utf8_injective {s t : String} (h : utf8 s = utf8 t) : s = t := by
  have hs := congrArg from_utf8 h
  rw [from_utf8_utf8, from_utf8_utf8] at hs
  exact Option.some.inj hs

theorem rowLabel_eq_iff (hp : rowLabel p = .ok l) (hq : rowLabel q = .ok m) : l = m ↔ LooksLike p q := by
  have hbytes : l = m ↔ utf8 l = utf8 m := ⟨congrArg utf8, utf8_injective⟩
  have hstar : utf8 "*" = [0x2A] := by decide
  have hspace : utf8 " " = [0x20] := by decide
  rw [hbytes, utf8_rowLabel hp, utf8_rowLabel hq, LooksLike]
  by_cases hunread : 0 < p.unread <;> by_cases hunread' : 0 < q.unread <;>
    simp [hunread, hunread', hstar, hspace]

end Labels

section Run

variable {ε α β : Type} {f : α → Except ε β}

theorem mapM_eq_ok {xs : List α} {ys : List β} : xs.mapM f = .ok ys ↔ xs.map f = ys.map .ok := by
  induction xs generalizing ys with
  | nil => cases ys <;> simp [pure, Except.pure]
  | cons x xs ih =>
    rw [List.mapM_cons, List.map_cons]
    cases hx : f x with
    | error e => cases ys <;> simp [bind, Except.bind]
    | ok y =>
      cases ys with
      | nil => cases xs.mapM f <;> simp [bind, Except.bind, pure, Except.pure]
      | cons y' ys =>
        rw [List.map_cons, List.cons.injEq, ← ih, Except.ok.injEq]
        cases xs.mapM f <;> simp [bind, Except.bind, pure, Except.pure]

theorem exists_mapM_ok {xs : List α} : (∃ ys, xs.mapM f = .ok ys) ↔ ∀ x ∈ xs, ∃ y, f x = .ok y := by
  simp only [mapM_eq_ok]
  induction xs with
  | nil => simp
  | cons x xs ih =>
    rw [List.forall_mem_cons, ← ih]
    constructor
    · rintro ⟨_ | ⟨y, ys⟩, h⟩
      · cases h
      · obtain ⟨hx, hxs⟩ := List.cons.inj h
        exact ⟨⟨y, hx⟩, ys, hxs⟩
    · rintro ⟨⟨y, hx⟩, ys, hxs⟩
      exact ⟨y :: ys, by rw [List.map_cons, List.map_cons, hx, hxs]⟩

theorem exec_addListItems (i : ℕ) (labels : List String) (s : Picker) :
    ∃ es, (addListItems labels).exec (Picker.handler i) s = ⟨.ok (), { s with items := s.items ++ labels }, es⟩ := by
  induction labels generalizing s with
  | nil => exact ⟨[], by simp [addListItems]⟩
  | cons label labels ih =>
    obtain ⟨es, hes⟩ := ih { s with items := s.items ++ [label] }
    refine ⟨⟨s, .add_list_item label, some ()⟩ :: es, (Fallible.exec_call_bind _ _ _ _).trans ?_⟩
    have hstep : ((Picker.handler i).answer (.add_list_item label) s).2 =
      { s with items := s.items ++ [label] } := rfl
    have hitems : s.items ++ label :: labels = s.items ++ [label] ++ labels := by simp
    rw [hstep, hes, hitems]
    rfl

theorem run_onPicker (i : ℕ) (x : PddbProgram α) (s : Picker) :
    ((x.interp onPicker).run (Picker.handler i) s).value = (x.run Pddb.handler s.pddb).value ∧
      ((x.interp onPicker).run (Picker.handler i) s).state =
        { s with pddb := (x.run Pddb.handler s.pddb).state } :=
  Program.run_interp Picker.store (fun _ _ => ⟨rfl, rfl⟩) x s

theorem run_list_sorted_onPicker (i : ℕ) (p : Pddb) :
    ((list_sorted.interp onPicker).run (Picker.handler i) (.start p)).value = rows p ∧
      ((list_sorted.interp onPicker).run (Picker.handler i) (.start p)).state = .start p := by
  obtain ⟨hvalue, hstate⟩ := run_onPicker i list_sorted (.start p)
  refine ⟨hvalue, hstate.trans ?_⟩
  exact congrArg (Picker.store.set (.start p)) (run_list_sorted p).2

theorem show_peer_picker_value (p : Pddb) (i : ℕ) (hrows : rows p ≠ []) :
    (show_peer_picker.exec (Picker.handler i) (.start p)).value =
      ((rows p).mapM rowLabel).map (fun labels => labels[i]?.bind
        (fun chosen => (labels.findIdx? (· == chosen)).bind (fun idx => (rows p)[idx]?))) := by
  obtain ⟨hvalue, hstate⟩ := run_list_sorted_onPicker i p
  change Fallible.Ensures (Picker.handler i) show_peer_picker (.start p) (fun v _ _ => v = _)
  apply Fallible.ensures_lift_bind
  rw [hvalue, hstate, if_neg (by simpa using hrows)]
  apply Fallible.ensures_ofExcept_bind
  · intro e he
    rw [he]
    rfl
  · intro labels hlabels
    obtain ⟨es, hes⟩ := exec_addListItems i labels (.start p)
    rw [hlabels, Fallible.Ensures, Fallible.exec_bind_ok hes]
    refine (congrArg Outcome.value (Fallible.exec_call_bind _ _ _ _)).trans ?_
    have hitems : (Picker.start p).items ++ labels = labels := List.nil_append labels
    rw [hitems]
    rfl

theorem show_peer_picker_empty (p : Pddb) (i : ℕ) (hrows : rows p = []) :
    let o := show_peer_picker.exec (Picker.handler i) (.start p)
    o.value = .ok none ∧ o.state.notices = ["No conversations yet. Wait for an incoming message."] := by
  obtain ⟨hvalue, hstate⟩ := run_list_sorted_onPicker i p
  change Fallible.Ensures (Picker.handler i) show_peer_picker (.start p) (fun v s _ => v = .ok none ∧ s.notices = _)
  apply Fallible.ensures_lift_bind
  rw [hvalue, hstate, if_pos (by simp [hrows])]
  exact ⟨rfl, rfl⟩

end Run

section Position

variable {ps : List PeerSummary} {labels : List String}

theorem label_of_row (hlabels : ps.map rowLabel = labels.map .ok) (k : Fin ps.length) :
    ∃ label, labels[k.val]? = some label ∧ rowLabel (ps.get k) = .ok label := by
  have hk := congrArg (fun xs => xs[k.val]?) hlabels
  simp only [List.getElem?_map] at hk
  rw [List.getElem?_eq_getElem k.2, Option.map_some] at hk
  obtain ⟨label, hlabel, hrow⟩ := Option.map_eq_some_iff.mp hk.symm
  exact ⟨label, hlabel, hrow.symm⟩

theorem uuid_get_injective (hnodup : (ps.map PeerSummary.uuid).Nodup) {j k : Fin ps.length}
    (h : (ps.get j).uuid = (ps.get k).uuid) : j = k := by
  have hget : ps.get j = ps.get k :=
    List.inj_on_of_nodup_map hnodup (List.get_mem _ _) (List.get_mem _ _) h
  exact hnodup.of_map.injective_get hget

theorem find_row (hlabels : ps.map rowLabel = labels.map .ok) (i : Fin ps.length) :
    ∃ k : Fin ps.length, LooksLike (ps.get k) (ps.get i) ∧ (∀ j < k, ¬LooksLike (ps.get j) (ps.get i)) ∧
      labels[i.val]?.bind (fun chosen => (labels.findIdx? (· == chosen)).bind (fun idx => ps[idx]?)) =
        some (ps.get k) := by
  obtain ⟨chosen, hchosen, hrow⟩ := label_of_row hlabels i
  have hsame : ∀ j : Fin ps.length, LooksLike (ps.get j) (ps.get i) ↔ labels[j.val]? = some chosen := by
    intro j
    obtain ⟨label, hlabel, hrow'⟩ := label_of_row hlabels j
    rw [← rowLabel_eq_iff hrow' hrow, hlabel, Option.some.injEq]
  simp only [hsame]
  rw [hchosen, Option.bind_some]
  cases hfind : labels.findIdx? (· == chosen) with
  | none =>
    have hnone := List.findIdx?_eq_none_iff.mp hfind chosen (List.mem_of_getElem? hchosen)
    simp at hnone
  | some k =>
    obtain ⟨hk, hhere, habove⟩ := List.findIdx?_eq_some_iff_getElem.mp hfind
    simp only [beq_iff_eq] at hhere habove
    have hlength : ps.length = labels.length := by
      simpa using congrArg List.length hlabels
    have hkps : k < ps.length := by omega
    refine ⟨⟨k, hkps⟩, List.getElem?_eq_some_iff.mpr ⟨hk, hhere⟩, ?_, ?_⟩
    · intro j hj hlabel
      obtain ⟨_, hj'⟩ := List.getElem?_eq_some_iff.mp hlabel
      exact habove j hj hj'
    · rw [Option.bind_some, List.getElem?_eq_getElem hkps]
      rfl

theorem looksLike_self (p : PeerSummary) : LooksLike p p := ⟨Iff.rfl, rfl⟩

end Position

section Choice

variable (p : Pddb)

theorem rows_labelled : (∀ row ∈ rows p, CutsWhole row) ↔ ∃ labels, (rows p).mapM rowLabel = .ok labels := by
  simp only [exists_mapM_ok, rowLabel_ok_iff]

theorem show_peer_picker_first (hwhole : ∀ row ∈ rows p, CutsWhole row) (i : Fin (rows p).length) :
    ∃ k, LooksLike ((rows p).get k) ((rows p).get i) ∧ (∀ j < k, ¬LooksLike ((rows p).get j) ((rows p).get i)) ∧
      (show_peer_picker.exec (Picker.handler i) (.start p)).value = .ok (some ((rows p).get k)) := by
  obtain ⟨labels, hlabels⟩ := (rows_labelled p).mp hwhole
  obtain ⟨k, hlook, hfirst, hfound⟩ := find_row (mapM_eq_ok.mp hlabels) i
  refine ⟨k, hlook, hfirst, ?_⟩
  rw [show_peer_picker_value p i (List.ne_nil_of_length_pos i.pos), hlabels, Except.map, hfound]

theorem show_peer_picker_panics {row : PeerSummary} (hrow : row ∈ rows p) (hcut : ¬CutsWhole row) (i : ℕ) :
    ∃ e, (show_peer_picker.exec (Picker.handler i) (.start p)).value = .error e := by
  rw [show_peer_picker_value p i (List.ne_nil_of_mem hrow)]
  cases hmap : (rows p).mapM rowLabel with
  | error e => exact ⟨e, rfl⟩
  | ok labels => exact absurd ((rows_labelled p).mpr ⟨labels, hmap⟩ row hrow) hcut

/-- A row that looks like one above it cannot be opened: another peer's conversation is. -/
theorem show_peer_picker_other (hwhole : ∀ row ∈ rows p, CutsWhole row) {i j : Fin (rows p).length} (hj : j < i)
    (hlook : LooksLike ((rows p).get j) ((rows p).get i)) :
    ∃ other ∈ rows p, other.uuid ≠ ((rows p).get i).uuid ∧
      (show_peer_picker.exec (Picker.handler i) (.start p)).value = .ok (some other) := by
  obtain ⟨k, -, hfirst, hvalue⟩ := show_peer_picker_first p hwhole i
  refine ⟨(rows p).get k, List.get_mem _ _, ?_, hvalue⟩
  intro huuid
  obtain rfl := uuid_get_injective (rows_nodup p) huuid
  exact hfirst j hj hlook

/-- Selecting a row returns its peer exactly when every row can be labelled and no row above looks like it. -/
theorem show_peer_picker_opens_row (i : Fin (rows p).length) :
    (show_peer_picker.exec (Picker.handler i) (.start p)).value = .ok (some ((rows p).get i)) ↔
      (∀ row ∈ rows p, CutsWhole row) ∧ ∀ j < i, ¬LooksLike ((rows p).get j) ((rows p).get i) := by
  constructor
  · intro h
    have hwhole : ∀ row ∈ rows p, CutsWhole row := by
      intro row hrow
      by_contra hcut
      obtain ⟨e, he⟩ := show_peer_picker_panics p hrow hcut i
      rw [he] at h
      cases h
    refine ⟨hwhole, fun j hj hlook => ?_⟩
    obtain ⟨other, -, huuid, hother⟩ := show_peer_picker_other p hwhole hj hlook
    rw [h] at hother
    obtain rfl := Option.some.inj (Except.ok.inj hother)
    exact huuid rfl
  · rintro ⟨hwhole, habove⟩
    obtain ⟨k, hlook, hfirst, hvalue⟩ := show_peer_picker_first p hwhole i
    have hki : ¬k < i := fun hki => habove k hki hlook
    have hik : ¬i < k := fun hik => hfirst i hik (looksLike_self _)
    obtain rfl : k = i := by omega
    exact hvalue

end Choice

section Accent

/-- The `é` takes bytes 31 and 32. -/
def accented : String := "aaaaaaaaaaaaaaaaaaaaaaaaaaaaaaaé"

def accentedPddb : Pddb := ((record_inbound "u" 1 accented false).exec Pddb.handler ∅).state

theorem found_to_json (uuid : String) (summary : PeerSummary) :
    found uuid (stored summary) = some (PeerSummary.from_json uuid summary.to_json) := by
  simp [found, stored]

theorem accented_row : ∃ row ∈ rows accentedPddb, ¬CutsWhole row := by
  have hstored : accentedPddb.value PEERS_DICT "u" = (PeerOp.record_inbound 1 accented false).effect "u" none :=
    ((transaction_program "u" (.record_inbound 1 accented false)).run ∅).trans
      (congrArg _ (Pddb.value_empty PEERS_DICT "u"))
  have hsnippet : snippetOf accented = accented := by decide +kernel
  have hreread : String.ofList (accented.toList.flatMap reread) = accented := by decide +kernel
  refine ⟨_, (mem_rows _).mpr ⟨"u", (congrArg (found "u") hstored).trans (found_to_json _ _)⟩, ?_⟩
  rintro ⟨-, hcut⟩
  rw [from_json_last_snippet] at hcut
  simp only [PeerSummary.inbound, hsnippet, hreread, ← slicePrefix_isSome_iff] at hcut
  revert hcut
  decide +kernel

theorem accented_snippet_panics :
    ¬∀ (p : Pddb) (i : Fin (rows p).length),
      (show_peer_picker.exec (Picker.handler i) (.start p)).value = .ok (some ((rows p).get i)) := by
  intro h
  obtain ⟨row, hrow, hcut⟩ := accented_row
  have hopens := h accentedPddb ⟨0, List.length_pos_of_mem hrow⟩
  obtain ⟨e, he⟩ := show_peer_picker_panics accentedPddb hrow hcut 0
  rw [he] at hopens
  cases hopens

end Accent

end Peers

end XousSignalClient
