import SitePreview.Json.Parser
import SitePreview.Json.Printer
import SitePreview.Proofs.Text.Encoding
import SitePreview.Proofs.Text.Parts

/-! Quoted JSON strings: every escape is read back as its code point, so a quoted text is read back
whatever follows it, and where it ends is never in doubt. An object that holds texts is read back from
the line that it is written on, and no control character is part of that line. -/

namespace SitePreview.Json

open Text CodePoint

theorem hexValue?_hexDigit : ∀ n < 16, hexValue? (hexDigit n) = some n := by decide

/-- Four hexadecimal digits are read back as the number that they stand for. -/
theorem hex4?_hex4_append {n : Nat} (hn : n < 0x10000) (s : Text) :
    hex4? (hex4 n ++ s) = some (n, s) := by
  have digit (k : Nat) : hexValue? (hexDigit (k % 16)) = some (k % 16) :=
    hexValue?_hexDigit _ (Nat.mod_lt _ (by decide))
  simp only [hex4, List.cons_append, List.nil_append, hex4?, digit, Option.bind_eq_bind,
    Option.bind_some]
  congr 2
  omega

/-- The digits of an escape by number, which follow its backslash and its `u`. -/
def escapeDigits (n : Nat) : Text :=
  if n < 0x10000 then hex4 n
  else hex4 (0xD800 + (n - 0x10000) / 0x400) ++ "\\u" ++ hex4 (0xDC00 + n % 0x400)

theorem escapeNumber_eq (n : Nat) :
    escapeNumber n = ofChar '\\' :: ofChar 'u' :: escapeDigits n := by
  unfold escapeNumber escapeDigits
  split
  · rfl
  · simp only [List.append_assoc]
    rfl

/-- Digits of a number that is no high surrogate stand for that number alone. -/
theorem numberedEscape?_hex4_append {c : CodePoint} (hn : c.val < 0x10000)
    (hc : c.val < 0xD800 ∨ 0xDBFF < c.val) (s : Text) :
    numberedEscape? (hex4 c.val ++ s) = some (c, s) := by
  rw [numberedEscape?, hex4?_hex4_append hn]
  simp only [Option.bind_eq_bind, Option.bind_some, if_pos hc, Option.bind_none, Option.getD_none,
    ofNat?_val]

/-- Digits of a high and of a low surrogate stand for the code point of the pair. -/
theorem numberedEscape?_pair_append {c : CodePoint} {high low : Nat} (hh : high < 0x10000)
    (hl : low < 0x10000) (hhigh : ¬(high < 0xD800 ∨ 0xDBFF < high))
    (hlow : ¬(low < 0xDC00 ∨ 0xDFFF < low))
    (hc : 0x10000 + (high - 0xD800) * 0x400 + (low - 0xDC00) = c.val) (s : Text) :
    numberedEscape? (hex4 high ++ ("\\u" ++ (hex4 low ++ s))) = some (c, s) := by
  rw [numberedEscape?, hex4?_hex4_append hh]
  simp only [Option.bind_eq_bind, Option.bind_some, if_neg hhigh, after?_append,
    hex4?_hex4_append hl, if_neg hlow, Option.getD_some, hc, ofNat?_val]

theorem numberedEscape?_append {c : CodePoint} (hc : c.isSurrogate = false) (s : Text) :
    numberedEscape? (escapeDigits c.val ++ s) = some (c, s) := by
  have hb := c.lt_bound
  simp only [isSurrogate, Bool.and_eq_false_iff, decide_eq_false_iff_not] at hc
  unfold escapeDigits
  split
  · next h => exact numberedEscape?_hex4_append h (by omega) s
  · next h =>
    rw [List.append_assoc, List.append_assoc]
    exact numberedEscape?_pair_append (by omega) (by omega) (by omega) (by omega) (by omega) s

theorem stringBody?_quote (s : Text) : stringBody? ('"' :: s) = some ([], s) := by
  rw [stringBody?.eq_def]
  rfl

/-- An escape of one letter is read as its code point. -/
theorem stringBody?_letter {d e : CodePoint} (hu : d ≠ 'u') (h : unescape? d = some e) (s : Text) :
    stringBody? ('\\' :: d :: s) = (stringBody? s).map fun (t, after) => (e :: t, after) := by
  rw [stringBody?, if_neg (by decide), if_pos rfl]
  simp only [if_neg hu, h]

/-- An escape by number is read as its code point. -/
theorem stringBody?_escapeNumber {c : CodePoint} (hc : c.isSurrogate = false) (s : Text) :
    stringBody? (escapeNumber c.val ++ s) =
      (stringBody? s).map fun (t, after) => (c :: t, after) := by
  have hlen : s.length < (escapeDigits c.val ++ s).length := by
    unfold escapeDigits
    split <;> simp [hex4] <;> omega
  rw [escapeNumber_eq, List.cons_append, List.cons_append, stringBody?, if_neg (by decide),
    if_pos rfl]
  simp only [if_true, numberedEscape?_append hc, if_pos hlen]

/-- A code point that needs no escape is read as itself. -/
theorem stringBody?_plain {c : CodePoint} (hq : c ≠ '"') (hb : c ≠ '\\') (h : ¬c.val < 0x20)
    (s : Text) : stringBody? (c :: s) = (stringBody? s).map fun (t, after) => (c :: t, after) := by
  rw [stringBody?.eq_def]
  simp only [if_neg hq, if_neg hb, if_neg h]

theorem stringBody?_escape_append {c : CodePoint} {asciiOnly : Bool}
    (hc : asciiOnly = true → c.isSurrogate = false) (s : Text) :
    stringBody? (escape asciiOnly c ++ s) =
      (stringBody? s).map fun (t, after) => (c :: t, after) := by
  unfold escape
  split
  · next h => exact h ▸ stringBody?_letter (by decide) (by decide) s
  split
  · next h => exact h ▸ stringBody?_letter (by decide) (by decide) s
  split
  · next h => exact h ▸ stringBody?_letter (by decide) (by decide) s
  split
  · next h => exact h ▸ stringBody?_letter (by decide) (by decide) s
  split
  · next h => exact h ▸ stringBody?_letter (by decide) (by decide) s
  split
  · next h =>
    have hf : c = '\x0c' := CodePoint.ext h
    exact hf ▸ stringBody?_letter (by decide) (by decide) s
  split
  · next h =>
    have hf : c = '\x08' := CodePoint.ext h
    exact hf ▸ stringBody?_letter (by decide) (by decide) s
  split
  · next h =>
    simp only [Bool.or_eq_true, Bool.and_eq_true, decide_eq_true_eq] at h
    have hsurrogate : c.isSurrogate = false := by
      rcases h with hlow | ⟨hascii, -⟩
      · simp only [isSurrogate, Bool.and_eq_false_iff, decide_eq_false_iff_not]
        omega
      · exact hc hascii
    exact stringBody?_escapeNumber hsurrogate s
  · next hq hb _ _ _ _ _ h =>
    simp only [Bool.or_eq_true, decide_eq_true_eq, not_or] at h
    exact stringBody?_plain hq hb h.1 s

/-- A text in quotes is read back, whatever follows it. Surrogates are read back unless they are
escaped, when two of them can be read as one code point. -/
theorem stringBody?_quoted_append {t : Text} {asciiOnly : Bool}
    (ht : asciiOnly = true → t.isUtf8 = true) (s : Text) :
    stringBody? (t.flatMap (escape asciiOnly) ++ ofChar '"' :: s) = some (t, s) := by
  induction t with
  | nil => exact stringBody?_quote s
  | cons c t ih =>
    simp only [isUtf8_cons, Bool.and_eq_true, Bool.not_eq_true'] at ht
    rw [List.flatMap_cons, List.append_assoc, stringBody?_escape_append fun h => (ht h).1,
      ih fun h => (ht h).2]
    rfl

/-- Where only control characters are escaped, every text is read back. -/
theorem stringBody?_quoted_append_self (t s : Text) :
    stringBody? (t.flatMap (escape false) ++ ofChar '"' :: s) = some (t, s) :=
  stringBody?_quoted_append (by simp) s

theorem quote_append (asciiOnly : Bool) (t s : Text) :
    quote asciiOnly t ++ s = ofChar '"' :: (t.flatMap (escape asciiOnly) ++ ofChar '"' :: s) := by
  simp only [quote, List.append_assoc]
  rfl

theorem quote_append_inj {asciiOnly : Bool} {t u r s : Text} (ht : t.isUtf8 = true)
    (hu : u.isUtf8 = true) (h : quote asciiOnly t ++ r = quote asciiOnly u ++ s) :
    t = u ∧ r = s := by
  rw [quote_append, quote_append, List.cons.injEq] at h
  have hread := congrArg stringBody? h.2
  rw [stringBody?_quoted_append fun _ => ht, stringBody?_quoted_append fun _ => hu] at hread
  simpa using hread

section Objects

variable {c : CodePoint} {fuel : Nat} {k v s : Text} {before : List (Text × Json)}
  {fields : List (Text × Text)}

/-- A member whose value is a text, on one line and with code points as they are. -/
def textMember (k v : Text) : Text := quote false k ++ ": " ++ quote false v

theorem skipSpace_quote (asciiOnly : Bool) (t s : Text) :
    skipSpace (quote asciiOnly t ++ s) = quote asciiOnly t ++ s := by
  rw [quote_append, skipSpace, List.dropWhile_cons_of_neg (by decide)]

/-- A quoted text is a value. -/
theorem value?_quote_append (fuel : Nat) (t s : Text) :
    value? (fuel + 1) (quote false t ++ s) = some (.string t, s) := by
  rw [quote_append, value?]
  simp only [if_true, stringBody?_quoted_append_self]
  rfl

theorem members?_blank (fuel : Nat) (before : List (Text × Json)) (s : Text) :
    members? fuel before (ofChar ' ' :: s) = members? fuel before s := by
  cases fuel with
  | zero => rfl
  | succ fuel =>
    have hskip : skipSpace (ofChar ' ' :: s) = skipSpace s := List.dropWhile_cons_of_pos (by decide)
    rw [members?, members?, hskip]

/-- One member is read up to the mark behind it. -/
theorem members?_textMember (hc : skipSpace (c :: s) = c :: s) (fuel : Nat)
    (before : List (Text × Json)) (k v : Text) :
    members? (fuel + 2) before (textMember k v ++ c :: s) =
      if c = '\x7d' then some (setMember k (.string v) before, s)
      else if c = ',' then members? (fuel + 1) (setMember k (.string v) before) s
      else none := by
  have hkey (r : Text) : after? "\"" (skipSpace (quote false k ++ r)) =
      some (k.flatMap (escape false) ++ ofChar '"' :: r) := by
    rw [skipSpace_quote, quote_append]
    exact after?_append "\"" _
  have hcolon : after? ":" (skipSpace (": " ++ (quote false v ++ c :: s))) =
      some (" " ++ (quote false v ++ c :: s)) := after?_append ":" _
  have hblank : skipSpace (" " ++ (quote false v ++ c :: s)) = quote false v ++ c :: s := by
    rw [← skipSpace_quote false v]
    exact List.dropWhile_cons_of_pos (by decide)
  rw [textMember, List.append_assoc, List.append_assoc, members?, hkey]
  simp only [Option.bind_eq_bind, Option.bind_some, stringBody?_quoted_append_self, hcolon, hblank,
    value?_quote_append, hc]

theorem setMember_of_not_mem {j : Json} (h : k ∉ before.map Prod.fst) :
    setMember k j before = before ++ [(k, j)] := by
  induction before with
  | nil => rfl
  | cons m before ih =>
    rw [List.map_cons, List.mem_cons, not_or] at h
    rw [setMember, if_neg (Ne.symm h.1), ih h.2, List.cons_append]

/-- Members with texts are read one after another, each key for its text. -/
theorem members?_texts (hne : fields ≠ []) (hfuel : fields.length < fuel)
    (hnodup : (before.map Prod.fst ++ fields.map Prod.fst).Nodup) (s : Text) :
    members? fuel before (join ", " (fields.map fun f => textMember f.1 f.2) ++ ofChar '\x7d' :: s) =
      some (before ++ fields.map fun f => (f.1, .string f.2), s) := by
  induction fields generalizing fuel before with
  | nil => exact absurd rfl hne
  | cons f fields ih =>
    obtain ⟨fuel, rfl⟩ : ∃ n, fuel = n + 2 := ⟨fuel - 2, by rw [List.length_cons] at hfuel; omega⟩
    obtain ⟨k, v⟩ := f
    have hk : k ∉ before.map Prod.fst := by
      rw [List.map_cons, List.nodup_append] at hnodup
      exact fun hmem => hnodup.2.2 k hmem k List.mem_cons_self rfl
    cases fields with
    | nil =>
      rw [List.map_cons, List.map_nil, join, members?_textMember (by rfl), if_pos rfl,
        setMember_of_not_mem hk]
      rfl
    | cons f fields =>
      rw [List.length_cons] at hfuel
      have hbefore : ((before ++ [(k, Json.string v)]).map Prod.fst ++
          (f :: fields).map Prod.fst).Nodup := by
        rw [List.map_append, List.append_assoc]
        exact hnodup
      have hcomma (t : Text) : (", " : Text) ++ t = ofChar ',' :: ofChar ' ' :: t := rfl
      rw [List.map_cons, join_cons _ _ (by simp), List.append_assoc, List.append_assoc, hcomma,
        members?_textMember (by rfl), if_neg (by decide), if_pos rfl, members?_blank,
        setMember_of_not_mem hk, ih (by simp) (by omega) hbefore, List.append_assoc]
      rfl

/-- The object that holds texts. -/
def ofFields (fields : List (Text × Text)) : Json := object (fields.map fun f => (f.1, string f.2))

theorem memberTexts_fields (depth : Nat) (fields : List (Text × Text)) :
    memberTexts .line depth (fields.map fun f => (f.1, string f.2)) =
      fields.map fun f => textMember f.1 f.2 := by
  induction fields with
  | nil => rfl
  | cons f fields ih =>
    rw [List.map_cons, List.map_cons, memberTexts, ih]
    simp only [Style.line, textAt, textMember]

theorem toText_ofFields (hne : fields ≠ []) : (ofFields fields).toText .line =
    ofChar '\x7b' :: (join ", " (fields.map fun f => textMember f.1 f.2) ++ [ofChar '\x7d']) := by
  rw [toText, ofFields, textAt, memberTexts_fields, bracketed, if_neg (by simpa using hne)]
  rfl

/-- An object that holds texts is read back from its line. -/
theorem parse?_toText_ofFields (hne : fields ≠ []) (hnodup : (fields.map Prod.fst).Nodup) :
    parse? ((ofFields fields).toText .line) = some (ofFields fields) := by
  obtain ⟨first, rest, rfl⟩ := List.exists_cons_of_ne_nil hne
  rw [toText_ofFields hne]
  generalize hbody : join ", " ((first :: rest).map fun f => textMember f.1 f.2) ++
    [ofChar '\x7d'] = body
  have hopened : after? "\x7d" (skipSpace body) = none := by
    obtain ⟨more, hmore⟩ : ∃ more, body = quote false first.1 ++ more := by
      cases rest with
      | nil => exact ⟨_, by rw [← hbody, List.map_cons, List.map_nil, join, textMember,
          List.append_assoc, List.append_assoc]⟩
      | cons next rest => exact ⟨_, by rw [← hbody, List.map_cons, join_cons _ _ (by simp),
          textMember, List.append_assoc, List.append_assoc, List.append_assoc, List.append_assoc]⟩
    rw [hmore, skipSpace_quote, quote_append]
    rfl
  have hfuel : (first :: rest).length < body.length + 1 := by
    have hmember (k v : Text) : textMember k v ≠ [] := by
      rw [textMember, List.append_assoc, quote_append]
      exact List.cons_ne_nil _ _
    have hjoin := length_le_length_join ", " (List.forall_mem_map.mpr fun f (_ : f ∈ first :: rest) =>
      hmember f.1 f.2)
    rw [List.length_map] at hjoin
    rw [← hbody, List.length_append]
    omega
  have hmembers : members? (body.length + 1) [] body =
      some ((first :: rest).map fun f => (f.1, string f.2), []) := by
    rw [← hbody] at hfuel ⊢
    exact members?_texts hne hfuel (by simpa using hnodup) []
  have hskip : skipSpace (ofChar '\x7b' :: body) = ofChar '\x7b' :: body :=
    List.dropWhile_cons_of_neg (by decide)
  rw [parse?, hskip, List.length_cons, value?, if_neg (by decide), if_neg (by decide),
    if_pos rfl, hopened]
  simp only [hmembers]
  rfl

theorem le_val_hexDigit : ∀ n < 16, 0x20 ≤ (hexDigit n).val := by decide

theorem le_val_of_mem_hex4 {n : Nat} (h : c ∈ hex4 n) : 0x20 ≤ c.val := by
  have digit (k : Nat) : 0x20 ≤ (hexDigit (k % 16)).val :=
    le_val_hexDigit _ (Nat.mod_lt _ (by decide))
  simp only [hex4, List.mem_cons, List.not_mem_nil, or_false] at h
  rcases h with rfl | rfl | rfl | rfl <;> exact digit _

theorem le_val_of_mem_escapeNumber {n : Nat} (h : c ∈ escapeNumber n) : 0x20 ≤ c.val := by
  have hmark : ∀ d ∈ ("\\u" : Text), 0x20 ≤ d.val := by decide
  rw [escapeNumber] at h
  split at h
  · rcases List.mem_append.mp h with h | h
    · exact hmark c h
    · exact le_val_of_mem_hex4 h
  · simp only [List.mem_append] at h
    rcases h with ((h | h) | h) | h
    · exact hmark c h
    · exact le_val_of_mem_hex4 h
    · exact hmark c h
    · exact le_val_of_mem_hex4 h

/-- No control character is written inside a string. -/
theorem le_val_of_mem_escape {asciiOnly : Bool} {d : CodePoint} (h : d ∈ escape asciiOnly c) :
    0x20 ≤ d.val := by
  have hletters : ∀ letter ∈ (["\\\"", "\\\\", "\\n", "\\r", "\\t", "\\f", "\\b"] : List String),
      ∀ d ∈ ofString letter, 0x20 ≤ d.val := by decide
  simp only [List.forall_mem_cons] at hletters
  obtain ⟨h1, h2, h3, h4, h5, h6, h7, -⟩ := hletters
  unfold escape at h
  split at h
  · exact h1 d h
  split at h
  · exact h2 d h
  split at h
  · exact h3 d h
  split at h
  · exact h4 d h
  split at h
  · exact h5 d h
  split at h
  · exact h6 d h
  split at h
  · exact h7 d h
  split at h
  · exact le_val_of_mem_escapeNumber h
  · next hlow =>
    simp only [Bool.or_eq_true, decide_eq_true_eq, not_or] at hlow
    rw [List.mem_singleton.mp h]
    exact Nat.not_lt.mp hlow.1

theorem le_val_of_mem_quote {asciiOnly : Bool} {t : Text} (h : c ∈ quote asciiOnly t) :
    0x20 ≤ c.val := by
  have hmark : ∀ d ∈ ("\"" : Text), 0x20 ≤ d.val := by decide
  simp only [quote, List.mem_append, List.mem_flatMap] at h
  rcases h with (h | ⟨d, -, h⟩) | h
  · exact hmark c h
  · exact le_val_of_mem_escape h
  · exact hmark c h

theorem le_val_of_mem_textMember {k v : Text} (h : c ∈ textMember k v) : 0x20 ≤ c.val := by
  have hcolon : ∀ d ∈ (": " : Text), 0x20 ≤ d.val := by decide
  rw [textMember, List.mem_append, List.mem_append] at h
  rcases h with (h | h) | h
  · exact le_val_of_mem_quote h
  · exact hcolon c h
  · exact le_val_of_mem_quote h

/-- An object that holds texts is written without control characters, so on one line. -/
theorem le_val_of_mem_toText_ofFields (hne : fields ≠ [])
    (h : c ∈ (ofFields fields).toText .line) : 0x20 ≤ c.val := by
  have hcomma : ∀ d ∈ (", " : Text), 0x20 ≤ d.val := by decide
  rw [toText_ofFields hne, List.mem_cons, List.mem_append, List.mem_singleton] at h
  rcases h with rfl | h | rfl
  · decide
  · rcases mem_join h with h | ⟨part, hpart, h⟩
    · exact hcomma c h
    · obtain ⟨f, -, rfl⟩ := List.mem_map.mp hpart
      exact le_val_of_mem_textMember h
  · decide

end Objects

end SitePreview.Json
