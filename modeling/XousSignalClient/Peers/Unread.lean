import XousSignalClient.Encoding.Escape
import XousSignalClient.Peers.Records

namespace XousSignalClient

open Encoding Interaction Fallible

namespace Peers

section Text

theorem escaped_hexDigit (n : ℕ) : hexDigit n ≠ '"' ∧ hexDigit n ≠ '\\' := by
  by_cases hn : n < 16
  · have hplain : ∀ k < 16, hexDigit k ≠ '"' ∧ hexDigit k ≠ '\\' := by decide
    exact hplain n hn
  · have hnone : "0123456789abcdef".toList[n]? = none := List.getElem?_eq_none (by simpa using hn)
    have hzero : hexDigit n = '0' := by
      rw [hexDigit, List.getD, hnone]
      rfl
    rw [hzero]
    decide

theorem escaped_escapeChar (c : Char) : Escaped (escapeChar c) := by
  have hdigit := fun n => escaped_hexDigit n
  unfold escapeChar
  split_ifs with hquote hslash
  · exact .escape _ .nil
  · exact .escape _ .nil
  · exact .escape _ .nil
  · exact .escape _ .nil
  · exact .escape _ .nil
  · exact .escape _ (.plain (by decide) (by decide) (.plain (by decide) (by decide)
      (.plain (hdigit _).1 (hdigit _).2 (.plain (hdigit _).1 (hdigit _).2 .nil))))
  · exact .plain hquote hslash .nil

theorem escaped_json_escape (s : String) : Escaped (json_escape s).toList := by
  rw [json_escape, String.toList_ofList]
  exact Escaped.flatMap escaped_escapeChar _

def nameKey : List Char := "display_name".toList
def tsKey : List Char := "last_ts".toList
def snippetKey : List Char := "last_snippet".toList
def unreadKey : List Char := "unread".toList

theorem to_json_toList (summary : PeerSummary) : summary.to_json.toList =
    '\x7b' :: (marker nameKey [] ++ '"' :: ((json_escape summary.display_name).toList ++ '"' :: ',' ::
      (marker tsKey [] ++ ((toString summary.last_ts.toNat).toList ++ ',' ::
        (marker snippetKey [] ++ '"' :: ((json_escape summary.last_snippet).toList ++ '"' :: ',' ::
          (marker unreadKey [] ++ ((toString summary.unread.toNat).toList ++ ['\x7d'])))))))) := by
  have hname : "\x7b\"display_name\":\"".toList = '\x7b' :: (marker nameKey [] ++ ['"']) := by decide
  have hts : "\",\"last_ts\":".toList = '"' :: ',' :: marker tsKey [] := by decide
  have hsnippet : ",\"last_snippet\":\"".toList = ',' :: (marker snippetKey [] ++ ['"']) := by decide
  have hunread : "\",\"unread\":".toList = '"' :: ',' :: marker unreadKey [] := by decide
  have hend : "\x7d".toList = ['\x7d'] := by decide
  unfold PeerSummary.to_json
  generalize json_escape summary.display_name = name
  generalize json_escape summary.last_snippet = snippet
  generalize toString summary.last_ts.toNat = ts
  generalize toString summary.unread.toNat = unread
  simp only [String.toList_append]
  rw [hname, hts, hsnippet, hunread, hend]
  simp only [List.cons_append, List.append_assoc, List.nil_append]

variable {key tail rest : List Char}

theorem afterFirst_text_field {other text : List Char} (hkey : PlainKey key) (hother : PlainKey other)
    (hne : key ≠ other) (hcolon : ':' ∉ key) (hcomma : ',' ∉ key) (hnil : key ≠ []) (htext : Escaped text) :
    afterFirst (marker key tail) (marker other [] ++ '"' :: (text ++ '"' :: ',' :: rest)) =
      afterFirst (marker key tail) rest := by
  have hend : (marker key tail).isPrefixOf? ('"' :: ',' :: rest) = none := by
    cases key with
    | nil => exact absurd rfl hnil
    | cons k key =>
      have hk : k ≠ ',' := fun h => hcomma (h ▸ List.mem_cons_self)
      simp [marker, List.isPrefixOf?, hk]
  have hhead : (',' :: rest).head? ≠ some ':' := fun h => absurd (Option.some.inj h) (by decide)
  rw [afterFirst_marker hkey hother hne hcolon, afterFirst_string hkey htext hhead hend,
    afterFirst_cons (marker_absent_cons (by decide) _)]

theorem afterFirst_number_field {other : List Char} (n : ℕ) (hkey : PlainKey key) (hother : PlainKey other)
    (hne : key ≠ other) (hcolon : ':' ∉ key) :
    afterFirst (marker key tail) (marker other [] ++ ((toString n).toList ++ ',' :: rest)) =
      afterFirst (marker key tail) rest := by
  have hdigits : '"' ∉ (toString n).toList := fun h => absurd (toString_digits n _ h) (by decide)
  rw [afterFirst_marker hkey hother hne hcolon, afterFirst_plain hdigits,
    afterFirst_cons (marker_absent_cons (by decide) _)]

theorem number_after_marker (n : ℕ) {c : Char} (hc : c.isDigit = false) :
    (afterFirst (marker key []) (marker key [] ++ ((toString n).toList ++ c :: rest))).bind (fun rest =>
      let digits := rest.takeWhile Char.isDigit
      if digits.isEmpty then none else some (String.ofList digits)) = some (toString n) := by
  have hne : (toString n).toList ≠ [] := by
    rw [Nat.toString_eq_ofList_toDigits, String.toList_ofList]
    exact Nat.toDigits_ne_nil
  have htake : ((toString n).toList ++ c :: rest).takeWhile Char.isDigit = (toString n).toList := by
    rw [List.takeWhile_append_of_pos (toString_digits n), List.takeWhile_cons_of_neg (by simp [hc]), List.append_nil]
  rw [afterFirst_append _ _ (by simp [marker]), Option.bind_some]
  simp only [htake]
  rw [if_neg (by simp), String.ofList_toList]

theorem plainKeys : PlainKey nameKey ∧ PlainKey tsKey ∧ PlainKey snippetKey ∧ PlainKey unreadKey := by
  refine ⟨?_, ?_, ?_, ?_⟩
  all_goals exact plainKey_of_not_mem (by decide) (by decide)

theorem last_ts_of_to_json (summary : PeerSummary) :
    extract_number_field summary.to_json "last_ts" = some (toString summary.last_ts.toNat) := by
  obtain ⟨hname, hts, hsnippet, hunread⟩ := plainKeys
  have hneedle : ("\"" ++ "last_ts" ++ "\":").toList = marker tsKey [] := by decide
  rw [extract_number_field, hneedle, to_json_toList, afterFirst_cons (marker_absent_cons (by decide) _),
    afterFirst_text_field hts hname (by decide) (by decide) (by decide) (by decide) (escaped_json_escape _)]
  exact number_after_marker _ (by decide)

theorem unread_of_to_json (summary : PeerSummary) :
    extract_number_field summary.to_json "unread" = some (toString summary.unread.toNat) := by
  obtain ⟨hname, hts, hsnippet, hunread⟩ := plainKeys
  have hneedle : ("\"" ++ "unread" ++ "\":").toList = marker unreadKey [] := by decide
  rw [extract_number_field, hneedle, to_json_toList, afterFirst_cons (marker_absent_cons (by decide) _),
    afterFirst_text_field hunread hname (by decide) (by decide) (by decide) (by decide) (escaped_json_escape _),
    afterFirst_number_field _ hunread hts (by decide) (by decide),
    afterFirst_text_field hunread hsnippet (by decide) (by decide) (by decide) (by decide) (escaped_json_escape _)]
  exact number_after_marker _ (by decide)

theorem found_stored (uuid : String) (summary : PeerSummary) :
    ∃ back, found uuid (stored summary) = some back ∧ back.last_ts = summary.last_ts ∧
      back.unread = summary.unread := by
  refine ⟨PeerSummary.from_json uuid summary.to_json, ?_, ?_, ?_⟩
  · rw [found, stored, Option.bind_some, from_utf8_utf8]
    rfl
  · have hlt : summary.last_ts.toNat < 2 ^ 64 := summary.last_ts.toNat_lt
    change UInt64.ofNat (((extract_number_field summary.to_json "last_ts").bind (parseUnsigned (2 ^ 64))).getD 0) = _
    rw [last_ts_of_to_json, Option.bind_some, parseUnsigned_toString hlt, Option.getD_some, UInt64.ofNat_toNat]
  · have hlt : summary.unread.toNat < 2 ^ 32 := summary.unread.toNat_lt
    change UInt32.ofNat (((extract_number_field summary.to_json "unread").bind (parseUnsigned (2 ^ 32))).getD 0) = _
    rw [unread_of_to_json, Option.bind_some, parseUnsigned_toString hlt, Option.getD_some, UInt32.ofNat_toNat]

end Text

section Runs

def PeerOp.ts : PeerOp → Option UInt64
  | .record_inbound ts _ _ => some ts
  | .record_outbound ts _ => some ts
  | .clear_unread => none

def PeerOp.clears : PeerOp → Bool
  | .clear_unread => true
  | _ => false

def PeerOp.unfocused : PeerOp → Bool
  | .record_inbound _ _ is_focused => !is_focused
  | _ => false

def unreadCount (ops : List PeerOp) : ℕ := (ops.reverse.takeWhile (fun op => !op.clears)).countP PeerOp.unfocused

def lastTs (ops : List PeerOp) : Option UInt64 := (ops.filterMap PeerOp.ts).getLast?

def ofPeer (uuid : String) (run : List (String × PeerOp)) : List PeerOp :=
  (run.filter (fun e => e.1 = uuid)).map Prod.snd

def after (p : Pddb) (run : List (String × PeerOp)) : Pddb :=
  run.foldl (fun p e => ((e.2.program e.1).exec Pddb.handler p).state) p

def Summarizes (ops : List PeerOp) (summary : Option PeerSummary) : Prop :=
  match lastTs ops with
  | none => summary = none
  | some ts => ∃ s, summary = some s ∧ s.last_ts = ts ∧ s.unread.toNat = min (2 ^ 32 - 1) (unreadCount ops)

theorem unreadCount_snoc (ops : List PeerOp) (op : PeerOp) :
    unreadCount (ops ++ [op]) = if op.clears then 0 else unreadCount ops + (if op.unfocused then 1 else 0) := by
  unfold unreadCount
  rw [List.reverse_append, List.reverse_singleton, List.singleton_append]
  by_cases hclears : op.clears
  · simp [hclears]
  · simp [hclears, List.countP_cons]

theorem lastTs_snoc (ops : List PeerOp) (op : PeerOp) : lastTs (ops ++ [op]) = op.ts.or (lastTs ops) := by
  unfold lastTs
  rw [List.filterMap_append]
  cases h : op.ts <;> simp [h]

theorem ofPeer_snoc_self (uuid : String) (run : List (String × PeerOp)) (op : PeerOp) :
    ofPeer uuid (run ++ [(uuid, op)]) = ofPeer uuid run ++ [op] := by
  simp [ofPeer]

theorem ofPeer_snoc_ne {uuid other : String} (hne : other ≠ uuid) (run : List (String × PeerOp)) (op : PeerOp) :
    ofPeer uuid (run ++ [(other, op)]) = ofPeer uuid run := by
  simp [ofPeer, hne]

theorem saturating_toNat (n : UInt32) : (saturating_add_one n).toNat = min (2 ^ 32 - 1) (n.toNat + 1) := by
  have hlt := n.toNat_lt
  unfold saturating_add_one
  split_ifs with h
  · rw [UInt32.toNat_add]
    have hone : (1 : UInt32).toNat = 1 := rfl
    omega
  · omega

structure Counted (uuid : String) (ops : List PeerOp) (x : Option Bytes) : Prop where
  absent : lastTs ops = none → x = none
  recent : ∀ ts, lastTs ops = some ts → ∃ s, found uuid x = some s ∧ s.last_ts = ts
  unread : ((found uuid x).getD (unknown uuid)).unread.toNat = min (2 ^ 32 - 1) (unreadCount ops)

variable {uuid : String} {ops : List PeerOp} {x : Option Bytes}

theorem counted_stored {op : PeerOp} {ts : UInt64} {summary : PeerSummary}
    (hts : op.ts = some ts) (hlast : summary.last_ts = ts)
    (hunread : summary.unread.toNat = min (2 ^ 32 - 1) (unreadCount (ops ++ [op]))) :
    Counted uuid (ops ++ [op]) (stored summary) := by
  obtain ⟨back, hback, hback_ts, hback_unread⟩ := found_stored uuid summary
  refine ⟨?_, ?_, ?_⟩
  · rw [lastTs_snoc, hts]
    nofun
  · intro ts' hts'
    rw [lastTs_snoc, hts] at hts'
    obtain rfl := Option.some.inj hts'
    exact ⟨back, hback, hback_ts.trans hlast⟩
  · rw [hback, Option.getD_some, hback_unread, hunread]

theorem Counted.clear (h : Counted uuid ops x) : Counted uuid (ops ++ [.clear_unread]) (cleared uuid x) := by
  have hlast : lastTs (ops ++ [.clear_unread]) = lastTs ops := by
    rw [lastTs_snoc]
    rfl
  have hcount : unreadCount (ops ++ [.clear_unread]) = 0 := by
    rw [unreadCount_snoc]
    rfl
  unfold cleared
  cases hfound : found uuid x with
  | none =>
    refine ⟨hlast ▸ h.absent, hlast ▸ h.recent, ?_⟩
    rw [hfound, hcount]
    rfl
  | some summary =>
    by_cases hunread : summary.unread ≠ 0
    · simp only [if_pos hunread]
      obtain ⟨back, hback, hback_ts, hback_unread⟩ := found_stored uuid { summary with unread := 0 }
      refine ⟨?_, ?_, ?_⟩
      · intro hnone
        rw [h.absent (hlast ▸ hnone)] at hfound
        cases hfound
      · intro ts hts
        obtain ⟨s, hs, hts⟩ := h.recent ts (hlast ▸ hts)
        obtain rfl := Option.some.inj (hfound.symm.trans hs)
        exact ⟨back, hback, hback_ts.trans hts⟩
      · rw [hback, Option.getD_some, hback_unread, hcount]
        rfl
    · simp only [if_neg hunread]
      refine ⟨hlast ▸ h.absent, hlast ▸ h.recent, ?_⟩
      rw [hfound, Option.getD_some, not_not.mp hunread, hcount]
      rfl

theorem Counted.step (h : Counted uuid ops x) (op : PeerOp) : Counted uuid (ops ++ [op]) (op.effect uuid x) := by
  have hunread := h.unread
  cases op with
  | clear_unread => exact h.clear
  | record_outbound ts body =>
    refine counted_stored rfl rfl ?_
    rw [unreadCount_snoc]
    exact hunread
  | record_inbound ts body is_focused =>
    refine counted_stored rfl rfl ?_
    rw [unreadCount_snoc]
    cases is_focused with
    | true => exact hunread
    | false =>
      refine (saturating_toNat _).trans ?_
      rw [hunread]
      simp only [PeerOp.clears, PeerOp.unfocused, Bool.not_false, Bool.false_eq_true, if_false, if_true]
      omega

theorem only_write_leaves {summary : PeerSummary} {other : String} (hne : other ≠ summary.uuid) :
    (write_summary summary).Only (PddbCall.Leaves PEERS_DICT other) := by
  have hkey : (PEERS_DICT, other) ≠ (PEERS_DICT, summary.uuid) := fun h => hne (Prod.mk.inj h).2
  apply (Program.Only.perform (S := pddbSignature) (.delete PEERS_DICT summary.uuid) hkey).bind
  intro _
  apply (Program.Only.perform (S := pddbSignature) (.write PEERS_DICT summary.uuid (utf8 summary.to_json)) hkey).bind
  intro r
  cases r with
  | error e => exact .ret _
  | ok u => exact (Program.Only.perform (S := pddbSignature) .sync trivial).bind (fun _ => .ret _)

theorem only_update_leaves {uuid other : String} (hne : other ≠ uuid) {g : PeerSummary → PeerSummary}
    (hg : ∀ summary, (g summary).uuid = summary.uuid) : (update uuid g).Only (PddbCall.Leaves PEERS_DICT other) := by
  unfold update
  rw [read_bind]
  refine .ask _ _ trivial (fun r => only_write_leaves ?_)
  rw [hg, uuid_getD]
  exact hne

theorem only_program_leaves {uuid other : String} (hne : other ≠ uuid) (op : PeerOp) :
    (op.program uuid).run.Only (PddbCall.Leaves PEERS_DICT other) := by
  cases op with
  | record_inbound ts body is_focused =>
    obtain ⟨snippet, hsnippet⟩ := truncate_snippet_ok body
    rw [PeerOp.program, record_inbound_eq hsnippet]
    exact only_lift (only_update_leaves hne (fun _ => rfl))
  | record_outbound ts body =>
    obtain ⟨snippet, hsnippet⟩ := truncate_snippet_ok body
    rw [PeerOp.program, record_outbound_eq hsnippet]
    exact only_lift (only_update_leaves hne (fun _ => rfl))
  | clear_unread =>
    refine only_lift ?_
    unfold clear_unread
    rw [read_bind]
    refine .ask _ _ trivial (fun r => ?_)
    cases hfound : found uuid (Except.toOption r) with
    | none => exact .ret _
    | some summary =>
      have huuid : other ≠ summary.uuid := uuid_found hfound ▸ hne
      simp only
      split_ifs
      · exact only_write_leaves huuid
      · exact .ret _

theorem after_snoc (p : Pddb) (run : List (String × PeerOp)) (uuid : String) (op : PeerOp) :
    after p (run ++ [(uuid, op)]) = ((op.program uuid).exec Pddb.handler (after p run)).state := by
  rw [after, List.foldl_append]
  rfl

theorem value_after_ne {uuid other : String} (hne : other ≠ uuid) (p : Pddb) (run : List (String × PeerOp))
    (op : PeerOp) :
    (after p (run ++ [(uuid, op)])).value PEERS_DICT other = (after p run).value PEERS_DICT other := by
  rw [after_snoc]
  exact Pddb.value_of_leaves (only_program_leaves hne op) _

theorem counted_after {p : Pddb} {uuid : String} (hfresh : p.value PEERS_DICT uuid = none)
    (run : List (String × PeerOp)) : Counted uuid (ofPeer uuid run) ((after p run).value PEERS_DICT uuid) := by
  induction run using List.reverseRecOn with
  | nil =>
    refine ⟨fun _ => hfresh, nofun, ?_⟩
    change ((found uuid (p.value PEERS_DICT uuid)).getD (unknown uuid)).unread.toNat = _
    rw [hfresh]
    rfl
  | append_singleton run e ih =>
    obtain ⟨peer, op⟩ := e
    by_cases hpeer : peer = uuid
    · subst hpeer
      have hvalue : ((op.program peer).exec Pddb.handler (after p run)).state.value PEERS_DICT peer =
          op.effect peer ((after p run).value PEERS_DICT peer) := (transaction_program peer op).run (after p run)
      rw [ofPeer_snoc_self, after_snoc, hvalue]
      exact ih.step op
    · rw [ofPeer_snoc_ne hpeer, value_after_ne (Ne.symm hpeer)]
      exact ih

theorem run_read (uuid : String) (p : Pddb) :
    ((read uuid).run Pddb.handler p).value = found uuid (p.value PEERS_DICT uuid) := by
  unfold read found
  rw [Program.run_bind, run_get_string, Pddb.text]
  cases (p.value PEERS_DICT uuid).bind from_utf8 <;> rfl

theorem Counted.summarizes (h : Counted uuid ops x) : Summarizes ops (found uuid x) := by
  unfold Summarizes
  cases hlast : lastTs ops with
  | none =>
    rw [h.absent hlast]
    rfl
  | some ts =>
    obtain ⟨s, hs, hts⟩ := h.recent ts hlast
    have hunread := h.unread
    rw [hs] at hunread
    exact ⟨s, hs, hts, hunread⟩

/-- After any calls for any peers, the summary of each tells its unfocused messages since it was last cleared and the
time of its last message, and a call for one peer leaves the record of every other alone. -/
theorem unread_and_recency (p : Pddb) (run : List (String × PeerOp)) (uuid : String)
    (hfresh : p.value PEERS_DICT uuid = none) :
    Summarizes (ofPeer uuid run) ((read uuid).run Pddb.handler (after p run)).value ∧
      ∀ other op, other ≠ uuid →
        (after p (run ++ [(other, op)])).value PEERS_DICT uuid = (after p run).value PEERS_DICT uuid := by
  refine ⟨?_, fun other op hne => value_after_ne (Ne.symm hne) p run op⟩
  rw [run_read]
  exact (counted_after hfresh run).summarizes

def quotedRun : List (String × PeerOp) :=
  [("a\"b", .record_inbound 5 "\",\"unread\":9" false), ("unread\":", .record_outbound 6 "\\"),
    ("a\"b", .record_inbound 7 "\\\"last_ts\":1" false)]

theorem quotedRun_counted : ∃ s, ((read "a\"b").run Pddb.handler (after ∅ quotedRun)).value = some s ∧
    s.last_ts = 7 ∧ s.unread.toNat = 2 := by
  obtain ⟨s, hs, hts, hunread⟩ := (unread_and_recency ∅ quotedRun "a\"b" rfl).1
  exact ⟨s, hs, hts, hunread⟩

end Runs

end Peers

end XousSignalClient
