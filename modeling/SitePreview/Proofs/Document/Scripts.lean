import SitePreview.Document.Component
import SitePreview.Document.Runtime
import SitePreview.Proofs.Markup.Inside
import Mathlib.Data.List.TakeWhile

/-! The texts of preview documents stay inside their elements. The fixed ones hold no end tags, and
the diagnostics no tag at all: each line is tried out on its characters. The script that mounts the
root component holds an end tag only where the name of the mount element does: the names of
candidates hold no marks, and a quoted text holds an end tag only where the text does.

Scripts know four ends of a line. Quoted texts and the names of candidates stand on one line, but
for the line feed that may end such a name, and the label of a component may hold two of the four. -/

namespace SitePreview

open Markup Text

variable {element q t : Text} {c : CodePoint}

namespace Text

variable {check : Text → Bool}

theorem ofString_of_chars (cs : List Char) (h : check (cs.map CodePoint.ofChar) = true) :
    check (ofString (String.ofList cs)) = true := by
  rw [ofString, String.toList_ofList, h]

theorem ofString_append (s t : String) : ofString (s ++ t) = ofString s ++ ofString t := by
  rw [ofString, String.toList_append, List.map_append, ofString, ofString]

/-- What holds of texts, and of what is put together from such texts, holds of them joined. -/
theorem check_join {separator : Text} {ts : List Text} (hnil : check [] = true)
    (happend : ∀ a b, check a = true → check b = true → check (a ++ b) = true)
    (hseparator : check separator = true) (h : ∀ t ∈ ts, check t = true) :
    check (join separator ts) = true := by
  induction ts with
  | nil => exact hnil
  | cons t ts ih =>
    rw [List.forall_mem_cons] at h
    cases ts with
    | nil => exact h.1
    | cons u us =>
      rw [join]
      exact happend _ _ (happend _ _ h.1 hseparator) (ih h.2)

end Text

namespace Document

theorem markless_join {separator : Text} {ts : List Text} (hseparator : markless separator = true)
    (h : ∀ t ∈ ts, markless t = true) : markless (join separator ts) = true := by
  refine check_join rfl (fun a b ha hb => ?_) hseparator h
  rw [markless_append, ha, hb]
  rfl

theorem markless_ofStrings {ls : List String} (h : ∀ s ∈ ls, markless (ofString s) = true) :
    markless (ofStrings ls) = true :=
  markless_join rfl (List.forall_mem_map.mpr h)

theorem markless_diagnosticsScript : markless diagnosticsScript = true := by
  refine markless_ofStrings ?_
  simp only [List.forall_mem_cons, List.not_mem_nil, false_implies, implies_true, and_true,
    ofString_append, markless_append, Bool.and_eq_true]
  and_intros <;> exact ofString_of_chars _ rfl

theorem markless_baselineCss : markless baselineCss = true := by
  refine markless_ofStrings ?_
  simp only [List.forall_mem_cons, List.not_mem_nil, false_implies, implies_true, and_true,
    ofString_append, markless_append, Bool.and_eq_true]
  and_intros <;> exact ofString_of_chars _ rfl

theorem markless_hookBindings : markless hookBindings = true := by
  refine markless_ofStrings ?_
  simp only [List.forall_mem_cons, List.not_mem_nil, false_implies, implies_true, and_true,
    ofString_append, markless_append, Bool.and_eq_true]
  and_intros <;> exact ofString_of_chars _ rfl

/-- The router compares numbers, so there are marks in it that start no tag. -/
theorem endTagless_hashRouter : endTagless hashRouter = true := by
  refine check_join rfl (fun a b ha hb => endTagless_append ha hb) rfl ?_
  simp only [List.forall_mem_map, List.forall_mem_cons, List.not_mem_nil, false_implies,
    implies_true, and_true, ofString_append]
  and_intros
  all_goals
    first
    | (with_reducible refine endTagless_append ?_ ?_) <;> exact ofString_of_chars _ rfl
    | exact ofString_of_chars _ rfl

end Document

namespace Json

theorem markless_hexDigit : ∀ n < 16, markless [hexDigit n] = true := by decide

theorem markless_hex4 (n : Nat) : markless (hex4 n) = true := by
  have hdigit (k : Nat) : markless [hexDigit (k % 16)] = true :=
    markless_hexDigit _ (Nat.mod_lt _ (by decide))
  simp only [markless, List.all_cons, List.all_nil, Bool.and_true] at hdigit
  simp only [hex4, markless, List.all_cons, List.all_nil, Bool.and_true, hdigit]

theorem markless_escapeNumber (n : Nat) : markless (escapeNumber n) = true := by
  rw [escapeNumber]
  split
  · rw [markless_append, markless_hex4]
    rfl
  · rw [markless_append, markless_append, markless_append, markless_hex4, markless_hex4]
    rfl

/-- An escaped code point is the code point, or starts with a backslash and holds no mark. -/
theorem escape_cases (asciiOnly : Bool) (c : CodePoint) :
    escape asciiOnly c = [c] ∨
      (escape asciiOnly c).head? = some ('\\' : CodePoint) ∧
        markless (escape asciiOnly c) = true := by
  unfold escape
  split
  · exact .inr ⟨rfl, rfl⟩
  split
  · exact .inr ⟨rfl, rfl⟩
  split
  · exact .inr ⟨rfl, rfl⟩
  split
  · exact .inr ⟨rfl, rfl⟩
  split
  · exact .inr ⟨rfl, rfl⟩
  split
  · exact .inr ⟨rfl, rfl⟩
  split
  · exact .inr ⟨rfl, rfl⟩
  split
  · refine .inr ⟨?_, markless_escapeNumber _⟩
    rw [escapeNumber]
    split <;> rfl
  · exact .inl rfl

theorem markless_quote (h : markless t = true) : markless (quote true t) = true := by
  have hflat : markless (t.flatMap (escape true)) = true := by
    rw [markless, List.all_flatMap, List.all_eq_true]
    intro c hc
    rcases escape_cases true c with heq | ⟨-, hescape⟩
    · rw [heq, List.all_cons, List.all_nil, Bool.and_true]
      exact List.all_eq_true.mp h c hc
    · exact hescape
  rw [quote, markless_append, markless_append, hflat]
  rfl

/-- Without backslashes, what a quoted text starts with is what the text starts with. -/
theorem prefix_of_prefix_escape (hq : ('\\' : CodePoint) ∉ q)
    (h : q <+: toLower (t.flatMap (escape true))) : q <+: t.toLower := by
  induction q generalizing t with
  | nil => exact List.nil_prefix
  | cons p q ih =>
    rw [List.mem_cons, not_or] at hq
    cases t with
    | nil => exact h
    | cons c s =>
      rw [List.flatMap_cons] at h
      rcases escape_cases true c with heq | ⟨hhead, -⟩
      · rw [heq, toLower, List.singleton_append, List.map_cons, List.cons_prefix_cons] at h
        exact List.cons_prefix_cons.mpr ⟨h.1, ih hq.2 h.2⟩
      · obtain ⟨u, hu⟩ := List.head?_eq_some_iff.mp hhead
        rw [hu, toLower, List.cons_append, List.map_cons, List.cons_prefix_cons] at h
        exact absurd h.1.symm hq.1

theorem staysInside_escaped (h : StaysInside element t) (hname : IsLowerName element) :
    StaysInside element (t.flatMap (escape true)) := by
  induction t with
  | nil => exact staysInside_nil element
  | cons c s ih =>
    have hs := ih (h.of_infix (List.suffix_cons c s).isInfix)
    rw [List.flatMap_cons]
    rcases escape_cases true c with heq | ⟨-, hmarkless⟩
    · rw [heq]
      intro hinfix
      rcases List.infix_cons_iff.mp hinfix with hstart | hinfix
      · -- the mark starts no end tag in what follows, or it would start one in the text
        rw [endMark, List.cons_prefix_cons] at hstart
        have hslash : ('\\' : CodePoint) ∉ ('/' :: element : Text) := by
          intro hmem
          rcases List.mem_cons.mp hmem with hmem | hmem
          · exact absurd hmem (by decide)
          · exact absurd (hname _ hmem) (by decide)
        exact h (List.cons_prefix_cons.mpr
          ⟨hstart.1, prefix_of_prefix_escape hslash hstart.2⟩).isInfix
      · exact hs hinfix
    · exact hs.markless_append hmarkless

theorem staysInside_quote (h : StaysInside element t) (hname : IsLowerName element) :
    StaysInside element (quote true t) :=
  ((staysInside_escaped h hname).markless_append rfl).append_cons (staysInside_nil element) hname
    ⟨by decide, by decide, by decide⟩

end Json

namespace Document

/-- A code point that may stand in a name. -/
def isNamePoint (c : CodePoint) : Bool := c.isIdentifierStart || c.isIdentifierPart

/-- The name of a candidate is made of such code points, but for a line feed at its end. -/
theorem exists_name_of_isCandidateName (h : isCandidateName t = true) :
    ∃ name : Text, (∀ c ∈ name, isNamePoint c = true) ∧ (t = name ∨ t = name ++ "\n") := by
  cases t with
  | nil => cases h
  | cons c s =>
    rw [isCandidateName, Bool.and_eq_true, Bool.or_eq_true, decide_eq_true_eq,
      decide_eq_true_eq] at h
    obtain ⟨hstart, hrest⟩ := h
    refine ⟨c :: s.takeWhile CodePoint.isIdentifierPart, ?_, ?_⟩
    · refine List.forall_mem_cons.mpr ⟨?_, fun d hd => ?_⟩
      · rw [isNamePoint, hstart, Bool.true_or]
      · rw [isNamePoint, List.mem_takeWhile_imp hd, Bool.or_true]
    · have hsplit := List.takeWhile_append_dropWhile (p := CodePoint.isIdentifierPart) (l := s)
      rcases hrest with hrest | hrest <;> rw [hrest] at hsplit
      · exact .inl (congrArg (c :: ·) (hsplit.symm.trans (List.append_nil _)))
      · exact .inr (congrArg (c :: ·) hsplit.symm)

theorem markless_of_isCandidateName (h : isCandidateName t = true) : markless t = true := by
  obtain ⟨name, hname, heq⟩ := exists_name_of_isCandidateName h
  have hmarkless : markless name = true := by
    rw [markless, List.all_eq_true]
    intro c hc
    refine decide_eq_true ?_
    rintro rfl
    exact absurd (hname _ hc) (by decide)
  rcases heq with rfl | rfl
  · exact hmarkless
  · rw [markless_append, hmarkless]
    rfl

theorem markless_candidateRow (h : isCandidateName t = true) :
    markless (candidateRow t) = true := by
  have hname := markless_of_isCandidateName h
  simp only [candidateRow, markless_append, hname, Json.markless_quote hname, Bool.and_true]
  rfl

theorem staysInside_mountHarness (candidates : List Text) (h : StaysInside element t)
    (hname : IsLowerName element) : StaysInside element (mountHarness candidates t) := by
  have hcandidate : ∀ name ∈ candidates.filter isCandidateName, isCandidateName name = true :=
    fun name hmem => (List.mem_filter.mp hmem).2
  rw [mountHarness]
  generalize candidates.filter isCandidateName = names at hcandidate
  have hnode : StaysInside element
      ("  var mountNode = document.getElementById(" ++ Json.quote true t ++ ");") :=
    ((Json.staysInside_quote h hname).markless_append (ofString_of_chars _ rfl)).append_cons
      (staysInside_of_endTagless (t := ";") rfl) hname ⟨by decide, by decide, by decide⟩
  have hrows : StaysInside element (join ",\n" (names.map candidateRow)) := by
    refine staysInside_of_endTagless (endTagless_of_markless (markless_join rfl ?_))
    rw [List.forall_mem_map]
    exact fun name hmem => markless_candidateRow (hcandidate name hmem)
  have hwarn : StaysInside element ("  console.warn(" ++
      Json.quote true ("No root component found; tried: " ++ join ", " names) ++ ");") := by
    refine staysInside_of_endTagless (endTagless_of_markless ?_)
    have hnames : markless (join ", " names) = true :=
      markless_join rfl fun name hmem => markless_of_isCandidateName (hcandidate name hmem)
    have htried : markless ("No root component found; tried: " ++ join ", " names) = true := by
      rw [markless_append, hnames]
      rfl
    rw [markless_append, markless_append, Json.markless_quote htried]
    rfl
  have hfailed : StaysInside element
      ("      console.error(\"Failed to mount \" + name + \": \" + " ++
        "(err && err.message ? err.message : err));") :=
    staysInside_of_endTagless
      (endTagless_append (ofString_of_chars _ rfl) (ofString_of_chars _ rfl))
  refine staysInside_ofLines ?_ hname
  simp only [List.forall_mem_cons, List.not_mem_nil, false_implies, implies_true, and_true]
  and_intros
  all_goals
    first
    | with_reducible assumption
    | exact staysInside_of_endTagless (ofString_of_chars _ rfl)

end Document

/-- What ends a line of a script, and with it a line comment: the line feed, the carriage return,
the line separator and the paragraph separator. -/
def lineTerminators : Text := ['\n', '\r', '\u2028', '\u2029']

/-- The text holds no end of a line. -/
def IsOneLine (t : Text) : Prop := ∀ c ∈ t, c ∉ lineTerminators

instance (t : Text) : Decidable (IsOneLine t) := List.decidableBAll _ t

section Lines

open CodePoint

variable {a b : Text}

theorem isOneLine_append : IsOneLine (a ++ b) ↔ IsOneLine a ∧ IsOneLine b :=
  List.forall_mem_append

theorem isOneLine_of_printable (h : ∀ c ∈ t, 0x20 ≤ c.val ∧ c.val ≤ 0x7E) : IsOneLine t := by
  have hends : ∀ c ∈ lineTerminators, c.val < 0x20 ∨ 0x7E < c.val := by decide
  intro c hc hend
  have hlow := h c hc
  have hhigh := hends c hend
  omega

namespace Json

theorem printable_hexDigit : ∀ n < 16, 0x20 ≤ (hexDigit n).val ∧ (hexDigit n).val ≤ 0x7E := by
  decide

theorem printable_escapeNumber (n : Nat) :
    ∀ c ∈ escapeNumber n, 0x20 ≤ c.val ∧ c.val ≤ 0x7E := by
  have hstart : ∀ c ∈ ("\\u" : Text), 0x20 ≤ c.val ∧ c.val ≤ 0x7E := by decide
  have hdigits (n : Nat) : ∀ c ∈ hex4 n, 0x20 ≤ c.val ∧ c.val ≤ 0x7E := by
    have hdigit (k : Nat) := printable_hexDigit (k % 16) (Nat.mod_lt _ (by decide))
    simp only [hex4, List.forall_mem_cons, hdigit, List.not_mem_nil, false_implies, implies_true,
      and_self]
  rw [escapeNumber]
  split
  · exact List.forall_mem_append.mpr ⟨hstart, hdigits _⟩
  · simp only [List.forall_mem_append]
    exact ⟨⟨⟨hstart, hdigits _⟩, hstart⟩, hdigits _⟩

/-- Whatever a code point is, its escape in ASCII is printable. -/
theorem printable_escape (c : CodePoint) :
    ∀ d ∈ escape true c, 0x20 ≤ d.val ∧ d.val ≤ 0x7E := by
  unfold escape
  split
  · decide
  split
  · decide
  split
  · decide
  split
  · decide
  split
  · decide
  split
  · decide
  split
  · decide
  split
  · exact printable_escapeNumber c.val
  · next h =>
    simp only [Bool.true_and, Bool.or_eq_true, decide_eq_true_eq, not_or] at h
    rw [List.forall_mem_singleton]
    omega

theorem isOneLine_quote (t : Text) : IsOneLine (quote true t) := by
  have hmark : ∀ c ∈ ("\"" : Text), 0x20 ≤ c.val ∧ c.val ≤ 0x7E := by decide
  refine isOneLine_of_printable ?_
  rw [quote, List.forall_mem_append, List.forall_mem_append]
  exact ⟨⟨hmark, List.forall_mem_flatMap.mpr fun c _ => printable_escape c⟩, hmark⟩

end Json

namespace Document

theorem isOneLine_of_namePoints (h : ∀ c ∈ t, isNamePoint c = true) : IsOneLine t := by
  have hends : ∀ c ∈ lineTerminators, isNamePoint c = false := by decide +kernel
  intro c hc hend
  have hname := h c hc
  rw [hends c hend] at hname
  cases hname

/-- The name of a candidate stands on one line unless a line feed ends it. -/
theorem isOneLine_iff_of_isCandidateName (h : isCandidateName t = true) :
    IsOneLine t ↔ t.getLast? ≠ some (ofChar '\n') := by
  constructor
  · intro hline hlast
    exact hline _ (List.mem_of_getLast? hlast) (by decide)
  · intro hlast
    obtain ⟨name, hname, rfl | rfl⟩ := exists_name_of_isCandidateName h
    · exact isOneLine_of_namePoints hname
    · exact absurd List.getLast?_concat hlast

/-- The row of a candidate stands on one line exactly if its name does. -/
theorem isOneLine_candidateRow : IsOneLine (candidateRow t) ↔ IsOneLine t := by
  have hfront : IsOneLine "    [" := by decide
  have htype : IsOneLine ", typeof " := by decide
  have htest : IsOneLine " !== \"undefined\" ? " := by decide
  have hback : IsOneLine " : undefined]" := by decide
  simp only [candidateRow, isOneLine_append, Json.isOneLine_quote, hfront, htype, htest, hback,
    true_and, and_true, and_self]

/-- A line break of the usual kinds becomes a space. -/
def labelPoint (c : CodePoint) : CodePoint :=
  if c = ofChar '\n' ∨ c = ofChar '\r' then ' ' else c

theorem label_eq_map (path : Text) : label path = path.map labelPoint := by
  rw [label, replace, replace, List.flatMap_assoc, List.map_eq_flatMap]
  refine congrArg (path.flatMap ·) (funext fun c => ?_)
  by_cases hfeed : c = ofChar '\n'
  · subst hfeed
    rfl
  by_cases hreturn : c = ofChar '\r'
  · subst hreturn
    rfl
  · simp [labelPoint, hfeed, hreturn]

/-- The line that names the path of a component. -/
def labelLine (path : Text) : Text := "// --- " ++ path.map labelPoint ++ " ---"

/-- The path stays on its line unless it holds one of the separators that scripts know beside the
line breaks of the usual kinds. -/
theorem isOneLine_labelLine (path : Text) :
    IsOneLine (labelLine path) ↔ ofChar '\u2028' ∉ path ∧ ofChar '\u2029' ∉ path := by
  have hpoint (c : CodePoint) :
      labelPoint c ∉ lineTerminators ↔ c ≠ ofChar '\u2028' ∧ c ≠ ofChar '\u2029' := by
    by_cases hbreak : c = ofChar '\n' ∨ c = ofChar '\r'
    · rw [labelPoint, if_pos hbreak]
      rcases hbreak with rfl | rfl <;> decide
    · rw [labelPoint, if_neg hbreak]
      rw [not_or] at hbreak
      simp [lineTerminators, hbreak]
  have hfront : IsOneLine "// --- " := by decide
  have hback : IsOneLine " ---" := by decide
  have hlabel : IsOneLine (path.map labelPoint) ↔ ∀ c ∈ path, labelPoint c ∉ lineTerminators :=
    List.forall_mem_map
  simp only [labelLine, isOneLine_append, hlabel, hfront, hback, true_and, and_true, hpoint]
  constructor
  · exact fun h => ⟨fun hmem => (h _ hmem).1 rfl, fun hmem => (h _ hmem).2 rfl⟩
  · exact fun h c hc => ⟨fun heq => h.1 (heq ▸ hc), fun heq => h.2 (heq ▸ hc)⟩

end Document

end Lines

end SitePreview
