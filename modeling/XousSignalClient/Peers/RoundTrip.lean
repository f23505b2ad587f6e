import XousSignalClient.Peers.Unread

namespace XousSignalClient

open Encoding Interaction

namespace Peers

/-- The characters that `json_escape` writes as a `\u` escape, which `extract_string_field` does not undo. -/
def UnicodeEscaped (c : Char) : Prop := c.toNat < 0x20 ∧ c ≠ '\n' ∧ c ≠ '\r' ∧ c ≠ '\t'

instance (c : Char) : Decidable (UnicodeEscaped c) := inferInstanceAs (Decidable (_ ∧ _))

def reread (c : Char) : List Char := if UnicodeEscaped c then escapeChar c else [c]

section Text

theorem escapeChar_of_unicodeEscaped {c : Char} (hc : UnicodeEscaped c) :
    escapeChar c = ['\\', 'u', '0', '0', hexDigit (c.toNat / 16), hexDigit (c.toNat % 16)] := by
  obtain ⟨hlow, hn, hr, ht⟩ := hc
  have hquote : c ≠ '"' := by
    rintro rfl
    exact absurd hlow (by decide)
  have hslash : c ≠ '\\' := by
    rintro rfl
    exact absurd hlow (by decide)
  rw [escapeChar, if_neg hquote, if_neg hslash, if_neg hn, if_neg hr, if_neg ht, if_pos hlow]

theorem readEscaped_plain {c : Char} (hquote : c ≠ '"') (hslash : c ≠ '\\') (rest : List Char) :
    readEscaped (c :: rest) = (readEscaped rest).map (c :: ·) := by
  rw [readEscaped]
  · exact hquote
  · exact fun h _ => hslash h
  · exact fun _ _ h _ => hslash h

theorem readEscaped_escapeChar (c : Char) (rest : List Char) :
    readEscaped (escapeChar c ++ rest) = (readEscaped rest).map (reread c ++ ·) := by
  by_cases hc : UnicodeEscaped c
  · have hhigh := escaped_hexDigit (c.toNat / 16)
    have hlow := escaped_hexDigit (c.toNat % 16)
    rw [reread, if_pos hc, escapeChar_of_unicodeEscaped hc]
    simp only [List.cons_append, List.nil_append, readEscaped]
    rw [readEscaped_plain (by decide) (by decide), readEscaped_plain (by decide) (by decide),
      readEscaped_plain hhigh.1 hhigh.2, readEscaped_plain hlow.1 hlow.2]
    simp only [Option.map_map]
    rfl
  · rw [reread, if_neg hc]
    unfold escapeChar
    split_ifs with hquote hslash hn hr ht hctrl
    · subst hquote; rfl
    · subst hslash; rfl
    · subst hn; rfl
    · subst hr; rfl
    · subst ht; rfl
    · exact absurd ⟨hctrl, hn, hr, ht⟩ hc
    · exact readEscaped_plain hquote hslash rest

theorem readEscaped_json_escape (s : String) (rest : List Char) :
    readEscaped ((json_escape s).toList ++ '"' :: rest) = some (s.toList.flatMap reread) := by
  rw [json_escape, String.toList_ofList]
  induction s.toList with
  | nil => rfl
  | cons c cs ih =>
    rw [List.flatMap_cons, List.append_assoc, readEscaped_escapeChar, ih]
    rfl

theorem string_after_marker {key rest : List Char} (s : String) :
    (afterFirst (marker key ['"']) (marker key [] ++ '"' :: ((json_escape s).toList ++ '"' :: rest))).bind
      readEscaped = some (s.toList.flatMap reread) := by
  have hopen : marker key [] ++ '"' :: ((json_escape s).toList ++ '"' :: rest) =
      marker key ['"'] ++ ((json_escape s).toList ++ '"' :: rest) := by
    simp [marker]
  rw [hopen, afterFirst_append _ _ (by simp [marker]), Option.bind_some, readEscaped_json_escape]

theorem display_name_of_to_json (summary : PeerSummary) :
    extract_string_field summary.to_json "display_name" =
      some (String.ofList (summary.display_name.toList.flatMap reread)) := by
  have hneedle : ("\"" ++ "display_name" ++ "\":\"").toList = marker nameKey ['"'] := by decide
  simp only [extract_string_field, hneedle, to_json_toList, Option.bind_eq_bind]
  rw [afterFirst_cons (marker_absent_cons (by decide) _), ← Option.bind_assoc, string_after_marker,
    Option.bind_some]

theorem last_snippet_of_to_json (summary : PeerSummary) :
    extract_string_field summary.to_json "last_snippet" =
      some (String.ofList (summary.last_snippet.toList.flatMap reread)) := by
  obtain ⟨hname, hts, hsnippet, -⟩ := plainKeys
  have hneedle : ("\"" ++ "last_snippet" ++ "\":\"").toList = marker snippetKey ['"'] := by decide
  simp only [extract_string_field, hneedle, to_json_toList, Option.bind_eq_bind]
  rw [afterFirst_cons (marker_absent_cons (by decide) _),
    afterFirst_text_field hsnippet hname (by decide) (by decide) (by decide) (by decide) (escaped_json_escape _),
    afterFirst_number_field _ hsnippet hts (by decide) (by decide), ← Option.bind_assoc, string_after_marker,
    Option.bind_some]

theorem length_reread (c : Char) : (reread c).length = if UnicodeEscaped c then 6 else 1 := by
  unfold reread
  split_ifs with hc
  · rw [escapeChar_of_unicodeEscaped hc]
    rfl
  · rfl

theorem length_le_flatMap_reread (cs : List Char) : cs.length ≤ (cs.flatMap reread).length := by
  induction cs with
  | nil => exact le_rfl
  | cons c cs ih =>
    have hpos : 1 ≤ (reread c).length := by
      rw [length_reread]
      split_ifs <;> omega
    rw [List.flatMap_cons, List.length_append, List.length_cons]
    omega

theorem flatMap_reread_eq_self {cs : List Char} : cs.flatMap reread = cs ↔ ∀ c ∈ cs, ¬UnicodeEscaped c := by
  induction cs with
  | nil => simp
  | cons c cs ih =>
    rw [List.flatMap_cons, List.forall_mem_cons, ← ih]
    by_cases hc : UnicodeEscaped c
    · constructor
      · intro h
        have hlength := congrArg List.length h
        have hrest := length_le_flatMap_reread cs
        rw [List.length_append, List.length_cons, length_reread, if_pos hc] at hlength
        omega
      · rintro ⟨hplain, -⟩
        exact absurd hc hplain
    · simp [reread, hc]

theorem reread_eq_self {s : String} :
    String.ofList (s.toList.flatMap reread) = s ↔ ∀ c ∈ s.toList, ¬UnicodeEscaped c := by
  rw [← flatMap_reread_eq_self, ← String.toList_inj, String.toList_ofList]

theorem from_json_display_name (uuid : String) (summary : PeerSummary) :
    (PeerSummary.from_json uuid summary.to_json).display_name =
      String.ofList (summary.display_name.toList.flatMap reread) := by
  simp only [PeerSummary.from_json, display_name_of_to_json, Option.getD_some]

theorem from_json_last_snippet (uuid : String) (summary : PeerSummary) :
    (PeerSummary.from_json uuid summary.to_json).last_snippet =
      String.ofList (summary.last_snippet.toList.flatMap reread) := by
  simp only [PeerSummary.from_json, last_snippet_of_to_json, Option.getD_some]

end Text

/-- A summary's texts come back from its JSON exactly when no character of them was written as a `\u` escape. -/
theorem texts_round_trip (uuid : String) (summary : PeerSummary) :
    ((PeerSummary.from_json uuid summary.to_json).display_name = summary.display_name ∧
        (PeerSummary.from_json uuid summary.to_json).last_snippet = summary.last_snippet) ↔
      ∀ c ∈ summary.display_name.toList ++ summary.last_snippet.toList, ¬UnicodeEscaped c := by
  rw [from_json_display_name, from_json_last_snippet, reread_eq_self, reread_eq_self, List.forall_mem_append]

def controlSummary : PeerSummary := ⟨"u", "u", 0, "\x01", 0⟩

theorem control_character_lost :
    ¬∀ (uuid : String) (summary : PeerSummary),
      (PeerSummary.from_json uuid summary.to_json).display_name = summary.display_name ∧
        (PeerSummary.from_json uuid summary.to_json).last_snippet = summary.last_snippet := by
  intro h
  have hback := (h "u" controlSummary).2
  rw [from_json_last_snippet, reread_eq_self] at hback
  exact hback '\x01' (by decide) (by decide)

end Peers

end XousSignalClient
