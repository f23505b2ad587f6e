import XousSignalClient.Encoding.Json

namespace Encoding

inductive Json where
  | null
  | bool (b : Bool)
  | number (n : ℕ)
  | string (s : String)
  | array (items : List Json)
  | object (members : List (String × Json))

namespace Json

section Writer

def hexDigit (n : ℕ) : Char := if n < 10 then Char.ofNat (48 + n) else Char.ofNat (87 + n)

def shortEscape (c : Char) : Option Char :=
  if c = '"' then some '"'
  else if c = '\\' then some '\\'
  else if c.toNat = 8 then some 'b'
  else if c.toNat = 9 then some 't'
  else if c.toNat = 10 then some 'n'
  else if c.toNat = 12 then some 'f'
  else if c.toNat = 13 then some 'r'
  else none

def escape (c : Char) : List Char :=
  match shortEscape c with
  | some letter => ['\\', letter]
  | none =>
    if c.toNat < 32 then ['\\', 'u', '0', '0', hexDigit (c.toNat / 16), hexDigit (c.toNat % 16)] else [c]

def stringText (s : String) : List Char := '"' :: (s.toList.flatMap escape ++ ['"'])

mutual

def render : Json → List Char
  | null => "null".toList
  | bool b => (toString b).toList
  | number n => numberText n
  | string s => stringText s
  | array items => '[' :: ((renderItems items).tail ++ [']'])
  | object members => '{' :: ((renderMembers members).tail ++ ['}'])

def renderItems : List Json → List Char
  | [] => []
  | v :: rest => ',' :: (render v ++ renderItems rest)

def renderMembers : List (String × Json) → List Char
  | [] => []
  | (key, v) :: rest => ',' :: (stringText key ++ ':' :: (render v ++ renderMembers rest))

end

def text (v : Json) : String := String.ofList v.render

end Writer

section Reader

def blank (c : Char) : Bool := c = ' ' || c = '\t' || c = '\n' || c = '\r'

def skip (cs : List Char) : List Char := cs.dropWhile blank

def hexValue (c : Char) : Option ℕ :=
  if 48 ≤ c.toNat ∧ c.toNat ≤ 57 then some (c.toNat - 48)
  else if 97 ≤ c.toNat ∧ c.toNat ≤ 102 then some (c.toNat - 87)
  else if 65 ≤ c.toNat ∧ c.toNat ≤ 70 then some (c.toNat - 55)
  else none

def hex4 (a b c d : Char) : Option ℕ := do
  let a ← hexValue a
  let b ← hexValue b
  let c ← hexValue c
  let d ← hexValue d
  some (((a * 16 + b) * 16 + c) * 16 + d)

def unescape : Char → Option Char
  | '"' => some '"'
  | '\\' => some '\\'
  | '/' => some '/'
  | 'b' => some (Char.ofNat 8)
  | 't' => some (Char.ofNat 9)
  | 'n' => some (Char.ofNat 10)
  | 'f' => some (Char.ofNat 12)
  | 'r' => some (Char.ofNat 13)
  | _ => none

def readString : List Char → Option (List Char × List Char)
  | [] => none
  | '"' :: rest => some ([], rest)
  | '\\' :: 'u' :: a :: b :: c :: d :: rest => do
    let unit ← hex4 a b c d
    if 0xD800 ≤ unit ∧ unit < 0xDC00 then
      match rest with
      | '\\' :: 'u' :: a :: b :: c :: d :: rest => do
        let low ← hex4 a b c d
        if 0xDC00 ≤ low ∧ low < 0xE000 then
          let (cs, rest) ← readString rest
          some (Char.ofNat (0x10000 + (unit - 0xD800) * 0x400 + (low - 0xDC00)) :: cs, rest)
        else none
      | _ => none
    else if 0xDC00 ≤ unit ∧ unit < 0xE000 then none
    else
      let (cs, rest) ← readString rest
      some (Char.ofNat unit :: cs, rest)
  | '\\' :: letter :: rest => do
    let c ← unescape letter
    let (cs, rest) ← readString rest
    some (c :: cs, rest)
  | c :: rest => do
    if c.toNat < 32 then none
    else
      let (cs, rest) ← readString rest
      some (c :: cs, rest)

mutual

def value : ℕ → Reader Json
  | 0, _ => none
  | fuel + 1, cs =>
    match skip cs with
    | 'n' :: 'u' :: 'l' :: 'l' :: rest => some (null, rest)
    | 't' :: 'r' :: 'u' :: 'e' :: rest => some (bool true, rest)
    | 'f' :: 'a' :: 'l' :: 's' :: 'e' :: rest => some (bool false, rest)
    | '"' :: rest => (readString rest).map (fun r => (string (String.ofList r.1), r.2))
    | '[' :: rest =>
      match skip rest with
      | ']' :: rest => some (array [], rest)
      | rest => (items fuel rest).map (fun r => (array r.1, r.2))
    | '{' :: rest =>
      match skip rest with
      | '}' :: rest => some (object [], rest)
      | rest => (members fuel rest).map (fun r => (object r.1, r.2))
    | cs => (Encoding.number cs).map (fun r => (number r.1, r.2))

def items : ℕ → Reader (List Json)
  | 0, _ => none
  | fuel + 1, cs => do
    let (v, rest) ← value fuel cs
    match skip rest with
    | ']' :: rest => some ([v], rest)
    | ',' :: rest =>
      let (l, rest) ← items fuel rest
      some (v :: l, rest)
    | _ => none

def members : ℕ → Reader (List (String × Json))
  | 0, _ => none
  | fuel + 1, cs =>
    match skip cs with
    | '"' :: rest => do
      let (key, rest) ← readString rest
      match skip rest with
      | ':' :: rest =>
        let (v, rest) ← value fuel rest
        match skip rest with
        | '}' :: rest => some ([(String.ofList key, v)], rest)
        | ',' :: rest =>
          let (l, rest) ← members fuel rest
          some ((String.ofList key, v) :: l, rest)
        | _ => none
      | _ => none
    | _ => none

end

def parse (s : String) : Option Json := do
  let (v, rest) ← value s.toList.length s.toList
  if skip rest = [] then some v else none

end Reader

section Strings

theorem hexValue_hexDigit {n : ℕ} (hn : n < 16) : hexValue (hexDigit n) = some n := by
  have hall : ∀ k : Fin 16, hexValue (hexDigit k) = some k.val := by decide
  exact hall ⟨n, hn⟩

theorem hex4_control {n : ℕ} (hn : n < 32) : hex4 '0' '0' (hexDigit (n / 16)) (hexDigit (n % 16)) = some n := by
  have hzero : hexValue '0' = some 0 := by decide
  have hhigh : n / 16 < 16 := by omega
  have hlow : n % 16 < 16 := Nat.mod_lt _ (by decide)
  simp only [hex4, hzero, hexValue_hexDigit hhigh, hexValue_hexDigit hlow, Option.bind_eq_bind, Option.bind_some,
    Option.some.injEq]
  omega

theorem eq_ofNat {c : Char} {n : ℕ} (h : c.toNat = n) : Char.ofNat n = c := by
  rw [← h, Char.ofNat_toNat]

theorem unescape_shortEscape {c letter : Char} (h : shortEscape c = some letter) :
    letter ≠ 'u' ∧ unescape letter = some c := by
  unfold shortEscape at h
  split_ifs at h with hquote hslash h8 h9 h10 h12 h13
  · obtain rfl := Option.some.inj h
    exact ⟨by decide, congrArg some hquote.symm⟩
  · obtain rfl := Option.some.inj h
    exact ⟨by decide, congrArg some hslash.symm⟩
  · obtain rfl := Option.some.inj h
    exact ⟨by decide, congrArg some (eq_ofNat h8)⟩
  · obtain rfl := Option.some.inj h
    exact ⟨by decide, congrArg some (eq_ofNat h9)⟩
  · obtain rfl := Option.some.inj h
    exact ⟨by decide, congrArg some (eq_ofNat h10)⟩
  · obtain rfl := Option.some.inj h
    exact ⟨by decide, congrArg some (eq_ofNat h12)⟩
  · obtain rfl := Option.some.inj h
    exact ⟨by decide, congrArg some (eq_ofNat h13)⟩

theorem plain_of_shortEscape {c : Char} (h : shortEscape c = none) : c ≠ '"' ∧ c ≠ '\\' := by
  constructor
  · rintro rfl
    cases h
  · rintro rfl
    cases h

theorem readString_short {letter c : Char} (hletter : letter ≠ 'u') (hc : unescape letter = some c) (cs : List Char) :
    readString ('\\' :: letter :: cs) = (readString cs).map (fun r => (c :: r.1, r.2)) := by
  rw [readString]
  · simp only [hc, Option.bind_eq_bind, Option.bind_some]
    cases readString cs <;> rfl
  · intro a b c d rest h
    exact absurd h hletter

theorem readString_plain {c : Char} (hc : c ≠ '"' ∧ c ≠ '\\') (hcontrol : ¬c.toNat < 32) (cs : List Char) :
    readString (c :: cs) = (readString cs).map (fun r => (c :: r.1, r.2)) := by
  rw [readString]
  · simp only [if_neg hcontrol]
    cases readString cs <;> rfl
  · exact hc.1
  · intro a b c' d rest h
    exact absurd h hc.2
  · intro letter rest h
    exact absurd h hc.2

theorem readString_control {c : Char} (hcontrol : c.toNat < 32) (cs : List Char) :
    readString (['\\', 'u', '0', '0', hexDigit (c.toNat / 16), hexDigit (c.toNat % 16)] ++ cs) =
      (readString cs).map (fun r => (c :: r.1, r.2)) := by
  have hhigh : ¬(0xD800 ≤ c.toNat ∧ c.toNat < 0xDC00) := by omega
  have hlow : ¬(0xDC00 ≤ c.toNat ∧ c.toNat < 0xE000) := by omega
  simp only [List.cons_append, List.nil_append]
  rw [readString, hex4_control hcontrol]
  simp only [Option.bind_eq_bind, Option.bind_some, if_neg hhigh, if_neg hlow, Char.ofNat_toNat]
  cases readString cs <;> rfl

theorem readString_escape (c : Char) (cs : List Char) :
    readString (escape c ++ cs) = (readString cs).map (fun r => (c :: r.1, r.2)) := by
  unfold escape
  cases hc : shortEscape c with
  | some letter =>
    obtain ⟨hletter, hread⟩ := unescape_shortEscape hc
    exact readString_short hletter hread cs
  | none =>
    simp only
    split_ifs with hcontrol
    · exact readString_control hcontrol cs
    · exact readString_plain (plain_of_shortEscape hc) hcontrol cs

theorem readString_escaped (cs rest : List Char) :
    readString (cs.flatMap escape ++ '"' :: rest) = some (cs, rest) := by
  induction cs with
  | nil => rfl
  | cons c cs ih =>
    rw [List.flatMap_cons, List.append_assoc, readString_escape, ih]
    rfl

end Strings

section RoundTrip

theorem skip_of_not_blank {c : Char} (hc : blank c = false) (cs : List Char) : skip (c :: cs) = c :: cs := by
  rw [skip, List.dropWhile_cons_of_neg (by simp [hc])]

theorem numberText_cons (n : ℕ) : ∃ c cs, numberText n = c :: cs ∧ c.isDigit = true := by
  have hne : numberText n ≠ [] := by
    have hread := reads_number n [] (fun c hc => by cases hc)
    intro h
    rw [h] at hread
    cases hread
  obtain ⟨c, cs, hcs⟩ := List.exists_cons_of_ne_nil hne
  exact ⟨c, cs, hcs, toString_digits n c (by rw [show (toString n).toList = c :: cs from hcs]; simp)⟩

theorem digit_not_blank {c : Char} (hc : c.isDigit = true) : blank c = false := by
  have hspace : c ≠ ' ' := digit_ne hc (by decide)
  have htab : c ≠ '\t' := digit_ne hc (by decide)
  have hline : c ≠ '\n' := digit_ne hc (by decide)
  have hreturn : c ≠ '\r' := digit_ne hc (by decide)
  simp [blank, hspace, htab, hline, hreturn]

theorem render_head (v : Json) : ∃ c cs, v.render = c :: cs ∧ blank c = false ∧ c ≠ ']' ∧ c ≠ '}' := by
  cases v with
  | null => exact ⟨'n', _, rfl, by decide, by decide, by decide⟩
  | bool b =>
    cases b
    · exact ⟨'f', _, rfl, by decide, by decide, by decide⟩
    · exact ⟨'t', _, rfl, by decide, by decide, by decide⟩
  | number n =>
    obtain ⟨c, cs, hcs, hc⟩ := numberText_cons n
    exact ⟨c, cs, hcs, digit_not_blank hc, digit_ne hc (by decide), digit_ne hc (by decide)⟩
  | string s => exact ⟨'"', _, rfl, by decide, by decide, by decide⟩
  | array l => exact ⟨'[', _, by rw [render], by decide, by decide, by decide⟩
  | object l => exact ⟨'{', _, by rw [render], by decide, by decide, by decide⟩

theorem value_number (n : ℕ) (fuel : ℕ) {rest : List Char} (hrest : Stops rest) :
    value (fuel + 1) (numberText n ++ rest) = some (number n, rest) := by
  obtain ⟨c, cs, hcs, hc⟩ := numberText_cons n
  have hread := reads_number n rest hrest
  have hdigit : ∀ {d : Char} {l l' : List Char}, c :: l = d :: l' → d.isDigit = true := by
    intro d l l' h
    rw [← (List.cons.inj h).1]
    exact hc
  rw [hcs, List.cons_append] at hread ⊢
  rw [value, skip_of_not_blank (digit_not_blank hc)]
  split
  · next h => cases hdigit h
  · next h => cases hdigit h
  · next h => cases hdigit h
  · next h => cases hdigit h
  · next h => cases hdigit h
  · next h => cases hdigit h
  · rw [hread]
    rfl

theorem stops_renderItems (l : List Json) (rest : List Char) : Stops (renderItems l ++ ']' :: rest) := by
  cases l with
  | nil => exact stops_cons (by decide)
  | cons v l =>
    rw [renderItems]
    exact stops_cons (by decide)

theorem stops_renderMembers (l : List (String × Json)) (rest : List Char) :
    Stops (renderMembers l ++ '}' :: rest) := by
  cases l with
  | nil => exact stops_cons (by decide)
  | cons entry l =>
    rw [renderMembers]
    exact stops_cons (by decide)

theorem tail_renderItems (v : Json) (l : List Json) : (renderItems (v :: l)).tail = v.render ++ renderItems l := by
  rw [renderItems, List.tail_cons]

theorem tail_renderMembers (key : String) (v : Json) (l : List (String × Json)) :
    (renderMembers ((key, v) :: l)).tail = stringText key ++ ':' :: (v.render ++ renderMembers l) := by
  rw [renderMembers, List.tail_cons]

theorem renderItems_eq (v : Json) (l : List Json) : renderItems (v :: l) = ',' :: (renderItems (v :: l)).tail := by
  rw [tail_renderItems, renderItems]

theorem renderMembers_eq (entry : String × Json) (l : List (String × Json)) :
    renderMembers (entry :: l) = ',' :: (renderMembers (entry :: l)).tail := by
  obtain ⟨key, v⟩ := entry
  rw [tail_renderMembers, renderMembers]

theorem skip_tail_renderItems (v : Json) (l : List Json) (rest : List Char) :
    ∃ c cs, (renderItems (v :: l)).tail ++ rest = c :: cs ∧ blank c = false ∧ c ≠ ']' := by
  obtain ⟨c, cs, hcs, hblank, hclose, -⟩ := render_head v
  refine ⟨c, cs ++ (renderItems l ++ rest), ?_, hblank, hclose⟩
  rw [tail_renderItems, hcs]
  simp

theorem tail_renderMembers_append (entry : String × Json) (l : List (String × Json)) (rest : List Char) :
    ∃ cs, (renderMembers (entry :: l)).tail ++ rest = '"' :: cs := by
  obtain ⟨key, v⟩ := entry
  rw [tail_renderMembers, stringText]
  exact ⟨_, rfl⟩

structure ReadsBack (fuel : ℕ) : Prop where
  value : ∀ v : Json, v.render.length ≤ fuel → ∀ rest, Stops rest → value fuel (v.render ++ rest) = some (v, rest)
  items : ∀ v l, (renderItems (v :: l)).length ≤ fuel → ∀ rest,
    items fuel ((renderItems (v :: l)).tail ++ ']' :: rest) = some (v :: l, rest)
  members : ∀ entry l, (renderMembers (entry :: l)).length ≤ fuel → ∀ rest,
    members fuel ((renderMembers (entry :: l)).tail ++ '}' :: rest) = some (entry :: l, rest)

variable {fuel : ℕ}

theorem ReadsBack.next_value (h : ReadsBack fuel) (v : Json) (hfuel : v.render.length ≤ fuel + 1) (rest : List Char)
    (hrest : Stops rest) : Json.value (fuel + 1) (v.render ++ rest) = some (v, rest) := by
  cases v with
  | null => rfl
  | bool b => cases b <;> rfl
  | number n =>
    rw [render]
    exact value_number n fuel hrest
  | string s =>
    rw [render, stringText, List.cons_append, List.append_assoc, Json.value, skip_of_not_blank (by decide)]
    simp only [List.cons_append, List.nil_append, readString_escaped, Option.map_some, String.ofList_toList]
  | array l =>
    rw [render, List.length_cons, List.length_append, List.length_singleton, List.length_tail] at hfuel
    rw [render, List.cons_append, List.append_assoc, Json.value, skip_of_not_blank (by decide)]
    cases l with
    | nil => rfl
    | cons v l =>
      have hitems := h.items v l (by omega) rest
      obtain ⟨c, cs, hcs, hc, hclose⟩ := skip_tail_renderItems v l (']' :: rest)
      simp only [List.cons_append, List.nil_append]
      rw [hcs] at hitems ⊢
      rw [skip_of_not_blank hc]
      split
      · next heq => exact absurd (List.cons.inj heq).1 hclose
      · rw [hitems]
        rfl
  | object l =>
    rw [render, List.length_cons, List.length_append, List.length_singleton, List.length_tail] at hfuel
    rw [render, List.cons_append, List.append_assoc, Json.value, skip_of_not_blank (by decide)]
    cases l with
    | nil => rfl
    | cons entry l =>
      have hmembers := h.members entry l (by omega) rest
      obtain ⟨cs, hcs⟩ := tail_renderMembers_append entry l ('}' :: rest)
      simp only [List.cons_append, List.nil_append]
      rw [hcs] at hmembers ⊢
      rw [skip_of_not_blank (by decide)]
      split
      · next heq => exact absurd (List.cons.inj heq).1 (by decide)
      · rw [hmembers]
        rfl

theorem ReadsBack.next_items (h : ReadsBack fuel) (v : Json) (l : List Json)
    (hfuel : (renderItems (v :: l)).length ≤ fuel + 1) (rest : List Char) :
    Json.items (fuel + 1) ((renderItems (v :: l)).tail ++ ']' :: rest) = some (v :: l, rest) := by
  rw [renderItems, List.length_cons, List.length_append] at hfuel
  rw [tail_renderItems, List.append_assoc, Json.items, h.value v (by omega) _ (stops_renderItems l rest)]
  cases l with
  | nil => rfl
  | cons w l =>
    have hcomma : blank ',' = false := by decide
    have hitems := h.items w l (by omega) rest
    rw [renderItems_eq, List.cons_append]
    simp only [Option.bind_eq_bind, Option.bind_some, skip_of_not_blank hcomma, hitems]

theorem ReadsBack.next_members (h : ReadsBack fuel) (entry : String × Json) (l : List (String × Json))
    (hfuel : (renderMembers (entry :: l)).length ≤ fuel + 1) (rest : List Char) :
    Json.members (fuel + 1) ((renderMembers (entry :: l)).tail ++ '}' :: rest) = some (entry :: l, rest) := by
  obtain ⟨key, v⟩ := entry
  have hcolon : blank ':' = false := by decide
  rw [renderMembers, List.length_cons, List.length_append, List.length_cons, List.length_append] at hfuel
  rw [tail_renderMembers, stringText, Json.members]
  simp only [List.cons_append, List.nil_append, List.append_assoc]
  rw [skip_of_not_blank (by decide)]
  simp only [readString_escaped, Option.bind_eq_bind, Option.bind_some, skip_of_not_blank hcolon]
  rw [h.value v (by omega) _ (stops_renderMembers l rest)]
  cases l with
  | nil =>
    have hbrace : blank '}' = false := by decide
    simp [skip_of_not_blank hbrace, renderMembers]
  | cons next l =>
    have hcomma : blank ',' = false := by decide
    have hmembers := h.members next l (by omega) rest
    rw [renderMembers_eq, List.cons_append]
    simp only [Option.bind_some, skip_of_not_blank hcomma, hmembers, String.ofList_toList]

theorem readsBack (fuel : ℕ) : ReadsBack fuel := by
  induction fuel with
  | zero =>
    refine ⟨?_, ?_, ?_⟩
    · intro v hfuel
      obtain ⟨c, cs, hcs, -⟩ := render_head v
      rw [hcs] at hfuel
      cases hfuel
    · intro v l hfuel
      rw [renderItems] at hfuel
      cases hfuel
    · intro entry l hfuel
      rw [renderMembers_eq] at hfuel
      cases hfuel
  | succ fuel ih => exact ⟨ih.next_value, ih.next_items, ih.next_members⟩

theorem parse_text (v : Json) : parse v.text = some v := by
  have hread := (readsBack v.render.length).value v le_rfl [] (fun c hc => by cases hc)
  rw [List.append_nil] at hread
  rw [parse, text, String.toList_ofList, hread]
  rfl

end RoundTrip

section Fields

def ofOption (s : Option String) : Json := s.elim null string

def field (key : String) : Json → Option Json
  | .object members => members.lookup key
  | _ => none

def asString : Json → Option String
  | .string s => some s
  | _ => none

def asNumber : Json → Option ℕ
  | .number n => some n
  | _ => none

def asBool : Json → Option Bool
  | .bool b => some b
  | _ => none

def asArray {α : Type} (item : Json → Option α) : Json → Option (List α)
  | .array items => items.mapM item
  | _ => none

def asOption {α : Type} (item : Json → Option α) : Json → Option (Option α)
  | .null => some none
  | v => (item v).map some

def absent {α : Type} (default : α) (item : Json → Option α) (key : String) (v : Json) : Option α :=
  match v.field key with
  | none => some default
  | some field => item field

theorem asOption_ofOption (s : Option String) : asOption asString (ofOption s) = some s := by
  cases s <;> rfl

theorem asArray_map {α : Type} {item : Json → Option α} {write : α → Json} (h : ∀ a, item (write a) = some a)
    (l : List α) : asArray item (array (l.map write)) = some l := by
  have hread : (l.map write).mapM item = some l := by
    induction l with
    | nil => rfl
    | cons a l ih => simp [h, ih]
  exact hread

end Fields

end Json

end Encoding
