import SitePreview.Proofs.Source.Elimination
import SitePreview.Proofs.Source.MountStart
import SitePreview.Proofs.Source.Settled

/-! The loops of normalisation, turn by turn and without the bounds that the definitions carry.
Every turn leaves less to look at, so each loop ends, and it ends with what the definitions give. -/

namespace SitePreview.Source

open Text CodePoint

variable {r s t : Text} {c : CodePoint}

/-- A loop from its first state to its last. Every turn makes the state smaller. -/
inductive Loop {α : Type} (step : α → Option α) (size : α → Nat) : α → α → Prop
  | stop {a : α} (h : step a = none) : Loop step size a a
  | turn {a b z : α} (h : step a = some b) (smaller : size b < size a)
      (rest : Loop step size b z) : Loop step size a z

/-- One run after another, each on what the last one left. -/
inductive InTurn {α : Type} (run : α → Text → Text → Prop) : List α → Text → Text → Prop
  | done (s : Text) : InTurn run [] s s
  | next {a : α} {as : List α} {s t r : Text} (first : run a s t) (rest : InTurn run as t r) :
      InTurn run (a :: as) s r

section Loops

variable {α : Type} {step : α → Option α} {size : α → Nat}

theorem exists_loop (hstep : ∀ a b, step a = some b → size b < size a) (a : α) :
    ∃ z, Loop step size a z := by
  induction h : size a using Nat.strong_induction_on generalizing a with
  | _ n ih =>
    cases ha : step a with
    | none => exact ⟨a, .stop ha⟩
    | some b =>
      have hlt := hstep a b ha
      obtain ⟨z, hz⟩ := ih (size b) (h ▸ hlt) b rfl
      exact ⟨z, .turn ha hlt hz⟩

/-- What holds at first and is kept by every turn holds in the end, where no turn is left. -/
theorem Loop.ends {P : α → Prop} {a z : α} (h : Loop step size a z) (hfirst : P a)
    (hkeeps : ∀ a b, step a = some b → P a → P b) : P z ∧ step z = none := by
  induction h with
  | stop h => exact ⟨hfirst, h⟩
  | turn h _ _ ih => exact ih (hkeeps _ _ h hfirst)

theorem inTurn_foldl {run : α → Text → Text → Prop} {f : α → Text → Text} {as : List α}
    (h : ∀ a ∈ as, ∀ s, run a s (f a s)) (s : Text) :
    InTurn run as s (as.foldl (fun s a => f a s) s) := by
  induction as generalizing s with
  | nil => exact .done s
  | cons a as ih =>
    rw [List.forall_mem_cons] at h
    exact .next (h.1 s) (ih h.2 (f a s))

end Loops

section Scans

/-- A scan for the places of an edit, from a place at which a line may start, and what it makes of
the text. Every edit that is made moves the scan forward. -/
inductive Scans (edit : Text → Option Edit) : Bool → Text → Text → Prop
  | stop (atLineStart : Bool) : Scans edit atLineStart [] []
  | pass {atLineStart : Bool} {c : CodePoint} {s r : Text}
      (h : atLineStart = true → edit (c :: s) = none) (rest : Scans edit (c = '\n') s r) :
      Scans edit atLineStart (c :: s) (c :: r)
  | make {s r : Text} {x : Edit} (h : edit s = some x) (forward : x.rest.length < s.length)
      (rest : Scans edit x.atLineStart x.rest r) : Scans edit true s (x.kept ++ r)

/-- A search for everything that `find` yields at a start of a line. Every find moves the search
forward. -/
inductive FindsAll {α : Type} (find : Text → Option (α × Text)) : Bool → Text → List α → Prop
  | stop (atLineStart : Bool) : FindsAll find atLineStart [] []
  | pass {atLineStart : Bool} {c : CodePoint} {s : Text} {as : List α}
      (h : atLineStart = true → find (c :: s) = none) (rest : FindsAll find (c = '\n') s as) :
      FindsAll find atLineStart (c :: s) as
  | found {s t : Text} {a : α} {as : List α} (h : find s = some (a, t))
      (forward : t.length < s.length) (rest : FindsAll find false t as) :
      FindsAll find true s (a :: as)

theorem scans_editFrom {edit : Text → Option Edit}
    (h : ∀ s x, edit s = some x → x.rest.length < s.length) (b : Bool) (s : Text) :
    Scans edit b s (editFrom edit b s) := by
  fun_induction editFrom edit b s with
  | case1 b => exact .stop b
  | case2 b c s hnone ih => exact .pass (by simpa using hnone) ih
  | case3 b c s x hx hlt ih =>
    obtain ⟨rfl, hx⟩ := atLineStart_of_edit hx
    exact .make hx hlt ih
  | case4 b c s x hx hlong => exact absurd (h _ x (atLineStart_of_edit hx).2) hlong

theorem findsAll_findFrom {α : Type} {find : Text → Option (α × Text)}
    (h : ∀ s a t, find s = some (a, t) → t.length < s.length) (b : Bool) (s : Text) :
    FindsAll find b s (findFrom find b s) := by
  have hmade {b : Bool} {s t : Text} {a : α}
      (hf : (if b = true then find s else none) = some (a, t)) :
      b = true ∧ find s = some (a, t) := by simpa using hf
  fun_induction findFrom find b s with
  | case1 b => exact .stop b
  | case2 b c s hnone ih => exact .pass (by simpa using hnone) ih
  | case3 b c s a t hf hlt ih =>
    obtain ⟨rfl, hf⟩ := hmade hf
    exact .found hf hlt ih
  | case4 b c s a t hf hlong => exact absurd (h _ a t (hmade hf).2) hlong

/-- Makes the edit that removes a statement. -/
def removal (statement : Text → Option Text) (s : Text) : Option Edit := (statement s).map .remove

/-- Makes the edit that removes words behind the indentation of a line. -/
def unwrapping (words : Text → Option Text) (s : Text) : Option Edit :=
  (words (skipInline s)).map fun rest => ⟨s.takeWhile isInlineBlank, rest, false⟩

theorem scans_removeStatements {statement : Text → Option Text} (hc : Consumes statement)
    (s : Text) : Scans (removal statement) true s (removeStatements statement s) := by
  refine scans_editFrom (fun s x hx => ?_) true s
  obtain ⟨r, hr, rfl⟩ := Option.map_eq_some_iff.mp hx
  exact (hc s r hr).2

theorem scans_removeLeadingWords {words : Text → Option Text} (hc : Consumes words) (s : Text) :
    Scans (unwrapping words) true s (removeLeadingWords words s) := by
  refine scans_editFrom (fun s x hx => ?_) true s
  obtain ⟨r, hr, rfl⟩ := Option.map_eq_some_iff.mp hx
  exact Nat.lt_of_lt_of_le (hc _ r hr).2 (skipInline_suffix s).length_le

end Scans

section Statements

/-- What follows the next call of a chain. -/
def link? (s : Text) : Option Text := (chainedCall? s).bind callRest?

/-- How the end of a statement is found, from the parenthesis of its first call on. -/
inductive StatementEnds : Text → Option Text → Prop
  | unclosed {s : Text} (h : callRest? s = none) : StatementEnds s none
  | closed {s t u : Text} (h : callRest? s = some t) (links : Loop link? List.length t u) :
      StatementEnds s (if chainedCall? u = none then statementTail? u else none)

theorem link?_length_lt (h : link? s = some r) : r.length < s.length := by
  obtain ⟨t, ht, hr⟩ := Option.bind_eq_some_iff.mp h
  exact Nat.lt_of_lt_of_le (callRest?_suffix hr).2 (chainedCall?_suffix ht).length_le

/-- A statement ends where the calls that are chained to it end. -/
theorem callStatement?_ends (s : Text) : StatementEnds s (callStatement? s) := by
  fun_induction callStatement? s with
  | case1 s hs => exact .unclosed hs
  | case2 s t hs hlast =>
    have hstop : link? t = none := by rw [link?, hlast, Option.bind_none]
    have := StatementEnds.closed hs (.stop hstop)
    rwa [if_pos hlast] at this
  | case3 s t hs u hchain hlt ih =>
    cases hu : callRest? u with
    | none =>
      have hstop : link? t = none := by rw [link?, hchain, Option.bind_some, hu]
      have hnone : callStatement? u = none := by rw [callStatement?, hu]
      have := StatementEnds.closed hs (.stop hstop)
      rwa [if_neg (by simp [hchain]), ← hnone] at this
    | some v =>
      have hnext : link? t = some v := by rw [link?, hchain, Option.bind_some, hu]
      generalize callStatement? u = o at ih
      cases ih with
      | unclosed h => simp [hu] at h
      | closed h links =>
        obtain rfl : v = _ := Option.some.inj (hu.symm.trans h)
        exact .closed hs (.turn hnext (link?_length_lt hnext) links)
  | case4 s t hs u hchain hlong =>
    have hrest := (callRest?_suffix hs).2
    have hlink := (chainedCall?_suffix hchain).length_le
    omega

end Statements

section Removal

/-- A search for statements under way: what it has passed, what is to the right of its place, and
the statements that it removed. -/
structure Scan where
  passed : Text
  right : Text
  removed : List Text

namespace Scan

def start (s : Text) : Scan := ⟨[], s, []⟩

/-- The source as it is now. -/
def text (a : Scan) : Text := a.passed ++ a.right

end Scan

/-- A line starts behind the text. -/
def endsLine (s : Text) : Bool := s.getLast?.all (· = ofChar '\n')

/-- A place at which a call is recognised: the text in front of it, the text from there on and the
text from the parenthesis of the call on. -/
structure Hit where
  before : Text
  here : Text
  opened : Text

/-- The first start of a line at which the call is recognised. -/
def nextCall? (call : Text → Option Text) (atLineStart : Bool) : Text → Option Hit
  | [] => none
  | c :: s =>
    match if atLineStart then call (c :: s) else none with
    | some opened => some ⟨[], c :: s, opened⟩
    | none => (nextCall? call (c = '\n') s).map fun x => { x with before := c :: x.before }

/-- One round of a search: the statement that is found goes away, or the search goes on behind its
parenthesis when it does not end. -/
def round? (call : Text → Option Text) (a : Scan) : Option Scan :=
  (nextCall? call (endsLine a.passed) a.right).map fun x =>
    match callStatement? x.opened with
    | some rest =>
      ⟨a.passed ++ x.before, rest, a.removed ++ [x.here.take (x.here.length - rest.length)]⟩
    | none =>
      let rest := x.opened.tail
      ⟨a.passed ++ (x.before ++ x.here.take (x.here.length - rest.length)), rest, a.removed⟩

/-- The searches one after another: what they start from, the statements that they remove and what
they leave. -/
inductive Searched : List Search → Text → List Text → Text → Prop
  | done (s : Text) : Searched [] s [] s
  | next {x : Search} {xs : List Search} {s r : Text} {a : Scan} {removed : List Text}
      (rounds : Loop (round? x.call?) (fun a => a.right.length) (.start s) a)
      (rest : Searched xs a.text removed r) : Searched (x :: xs) s (a.removed ++ removed) r

variable {call : Text → Option Text} {a b : Scan} {x : Hit}

theorem endsLine_append_singleton (s : Text) (c : CodePoint) :
    endsLine (s ++ [c]) = decide (c = ofChar '\n') := by simp [endsLine]

/-- A call is found at the start of a line, and it splits what the search looks at. -/
theorem nextCall?_spec {p : Text} (h : nextCall? call (endsLine p) s = some x) :
    s = x.before ++ x.here ∧ call x.here = some x.opened ∧ endsLine (p ++ x.before) = true := by
  induction s generalizing p x with
  | nil => simp [nextCall?] at h
  | cons c s ih =>
    rw [nextCall?] at h
    split at h
    · next opened hcall =>
      obtain ⟨hp, hcall⟩ : endsLine p = true ∧ call (c :: s) = some opened := by simpa using hcall
      obtain rfl := Option.some.inj h
      exact ⟨rfl, hcall, by rwa [List.append_nil]⟩
    · obtain ⟨y, hy, rfl⟩ := Option.map_eq_some_iff.mp h
      have hline := endsLine_append_singleton p c
      obtain ⟨hs, hcall, hy⟩ := ih (p := p ++ [c]) (hline ▸ hy)
      exact ⟨congrArg (c :: ·) hs, hcall, by simpa using hy⟩

theorem callEdit_eq_none_of {b : Bool} (h : (if b = true then call (c :: s) else none) = none) :
    b = true → callEdit call (c :: s) = none := by
  rintro rfl
  rw [if_pos rfl] at h
  rw [callEdit, h, Option.map_none]

theorem editFrom_of_nextCall?_eq_none {b : Bool} (h : nextCall? call b s = none) :
    editFrom (callEdit call) b s = s := by
  induction s generalizing b with
  | nil => rw [editFrom]
  | cons c s ih =>
    rw [nextCall?] at h
    split at h
    · simp at h
    · next hcall =>
      rw [editFrom_cons_of_none (callEdit_eq_none_of hcall), ih (Option.map_eq_none_iff.mp h)]

/-- Editing passes over everything in front of the next call. -/
theorem editFrom_nextCall? {b : Bool} (h : nextCall? call b s = some x) :
    editFrom (callEdit call) b s = x.before ++ editFrom (callEdit call) true x.here := by
  induction s generalizing b x with
  | nil => simp [nextCall?] at h
  | cons c s ih =>
    rw [nextCall?] at h
    split at h
    · next hcall =>
      obtain rfl := Option.some.inj h
      cases b with
      | false => simp at hcall
      | true => rfl
    · next hcall =>
      obtain ⟨y, hy, rfl⟩ := Option.map_eq_some_iff.mp h
      rw [editFrom_cons_of_none (callEdit_eq_none_of hcall), ih hy, List.cons_append]

/-- What a round of a search for statements does, and what the edit for them makes of the text to
the right before and after it. -/
inductive Round (call : Text → Option Text) : Scan → Scan → Prop
  | removes {p v w r : Text} {removed : List Text} (line : endsLine (p ++ v) = true)
      (nonempty : w ≠ []) (statement : removable? call (w ++ r) = some r)
      (edits : editFrom (callEdit call) (endsLine p) (v ++ (w ++ r)) =
        v ++ editFrom (callEdit call) true r) :
      Round call ⟨p, v ++ (w ++ r), removed⟩ ⟨p ++ v, r, removed ++ [w]⟩
  | passes {p v w r : Text} {removed : List Text}
      (edits : editFrom (callEdit call) (endsLine p) (v ++ (w ++ ofChar '(' :: r)) =
        v ++ (w ++ [ofChar '('] ++ editFrom (callEdit call) false r)) :
      Round call ⟨p, v ++ (w ++ ofChar '(' :: r), removed⟩
        ⟨p ++ (v ++ (w ++ [ofChar '('])), r, removed⟩

theorem take_of_append (v r : Text) : (v ++ r).take ((v ++ r).length - r.length) = v := by
  rw [List.length_append, Nat.add_sub_cancel, List.take_left]

theorem round?_spec (ho : Opens call) (h : round? call a = some b) : Round call a b := by
  obtain ⟨p, right, removed⟩ := a
  obtain ⟨⟨v, u, opened⟩, hx, rfl⟩ := Option.map_eq_some_iff.mp h
  obtain ⟨hright, hcall, hline⟩ := nextCall?_spec hx
  have hedits := editFrom_nextCall? hx
  dsimp only at hright hcall hline hedits
  subst hright
  obtain ⟨⟨w, rfl, -⟩, hhead⟩ := ho u opened hcall
  cases hst : callStatement? opened with
  | some r =>
    obtain ⟨⟨z, rfl⟩, hlt⟩ := callStatement?_consumes opened r hst
    have hz : z ≠ [] := by
      rintro rfl
      exact absurd hlt (Nat.lt_irrefl _)
    have hedit : callEdit call (w ++ (z ++ r)) = some (.remove r) := by
      rw [callEdit, hcall, Option.map_some, hst]
    have hshort : (Edit.remove r).rest.length < (w ++ (z ++ r)).length := by
      rw [List.length_append]
      exact Nat.lt_of_lt_of_le hlt (Nat.le_add_left _ _)
    rw [editFrom_of_some hedit hshort] at hedits
    have hstatement : removable? call (w ++ z ++ r) = some r := by
      rw [List.append_assoc, removable?, hcall, Option.bind_some, hst]
    simp only [← List.append_assoc w z r] at hedits ⊢
    rw [take_of_append]
    exact .removes hline (by simp [hz]) hstatement hedits
  | none =>
    obtain ⟨r, rfl⟩ := List.head?_eq_some_iff.mp hhead
    have hw : w ++ ofChar '(' :: r = w ++ [ofChar '('] ++ r := by simp
    have hedit : callEdit call (w ++ ofChar '(' :: r) = some (.pass (w ++ ofChar '(' :: r) r) := by
      rw [callEdit, hcall, Option.map_some, hst]
      rfl
    have hshort : (Edit.pass (w ++ ofChar '(' :: r) r).rest.length <
        (w ++ ofChar '(' :: r).length := by
      simp [Edit.pass]
      omega
    have hkept : (w ++ ofChar '(' :: r).take ((w ++ ofChar '(' :: r).length - r.length) =
        w ++ [ofChar '('] := by
      rw [hw, take_of_append]
    rw [editFrom_of_some hedit hshort] at hedits
    simp only [Edit.pass, hkept] at hedits
    simp only [List.tail_cons, hkept]
    exact .passes hedits

theorem Round.right_length_lt (h : Round call a b) : b.right.length < a.right.length := by
  cases h with
  | removes _ nonempty _ _ =>
    have := List.length_pos_iff.mpr nonempty
    simp only [List.length_append]
    omega
  | passes =>
    simp only [List.length_append, List.length_cons]
    omega

/-- What the edit makes of the source is the same before and after a round. -/
theorem Round.edits (h : Round call a b) :
    b.passed ++ editFrom (callEdit call) (endsLine b.passed) b.right =
      a.passed ++ editFrom (callEdit call) (endsLine a.passed) a.right := by
  cases h with
  | removes line _ _ edits => rw [edits, line, List.append_assoc]
  | @passes p v w r removed edits =>
    have hline : endsLine (p ++ (v ++ (w ++ [ofChar '(']))) = false := by
      rw [← List.append_assoc, ← List.append_assoc, endsLine_append_singleton]
      decide
    rw [edits, hline]
    simp only [List.append_assoc]

/-- The rounds of a search come to an end, with all its statements removed. -/
theorem exists_rounds (ho : Opens call) (s : Text) :
    ∃ z, Loop (round? call) (fun a => a.right.length) (.start s) z ∧
      z.text = removeCalls call s := by
  have hless (a b : Scan) (h : round? call a = some b) : b.right.length < a.right.length :=
    (round?_spec ho h).right_length_lt
  obtain ⟨z, hz⟩ := exists_loop hless (.start s)
  let P (a : Scan) : Prop :=
    a.passed ++ editFrom (callEdit call) (endsLine a.passed) a.right = removeCalls call s
  have hkeeps (a b : Scan) (h : round? call a = some b) (ha : P a) : P b :=
    (round?_spec ho h).edits.trans ha
  obtain ⟨hend, hstop⟩ := hz.ends (P := P) rfl hkeeps
  rw [round?, Option.map_eq_none_iff] at hstop
  exact ⟨z, hz, by rw [Scan.text, ← hend, editFrom_of_nextCall?_eq_none hstop]⟩

theorem exists_searched {xs : List Search} (hxs : ∀ x ∈ xs, Opens x.call?) (s : Text) :
    ∃ removed, Searched xs s removed (xs.foldl (fun s x => removeCalls x.call? s) s) := by
  induction xs generalizing s with
  | nil => exact ⟨[], .done s⟩
  | cons x xs ih =>
    rw [List.forall_mem_cons] at hxs
    obtain ⟨a, hrounds, ha⟩ := exists_rounds hxs.1 s
    obtain ⟨removed, hrest⟩ := ih hxs.2 a.text
    rw [List.foldl_cons, ← ha]
    exact ⟨a.removed ++ removed, .next hrounds hrest⟩

theorem Search.all_opens (s : Text) : ∀ x ∈ Search.all s, Opens x.call? := by
  simp only [Search.all, List.forall_mem_cons, List.forall_mem_map]
  exact ⟨rootBinding?_opens, mountCall?_opens,
    fun n hn => rootRender?_opens (rootNames_no_paren hn)⟩

end Removal

section BlankRuns

/-- Blank lines behind a line end are read to the last of them when there are two. -/
inductive Collapses : Text → Text → Prop
  | stop : Collapses [] []
  | keep {c : CodePoint} {s r : Text}
      (h : c = ofChar '\n' → (blankLine? s).bind blankLine? = none) (rest : Collapses s r) :
      Collapses (c :: s) (c :: r)
  | collapse {s t u r : Text} (h : (blankLine? s).bind blankLine? = some t)
      (lines : Loop blankLine? List.length t u) (rest : Collapses u r) :
      Collapses (ofChar '\n' :: s) (ofChar '\n' :: ofChar '\n' :: r)

theorem blankLine?_length_lt (h : blankLine? s = some r) : r.length < s.length := by
  have hfeed := length_of_after? h
  have hskip := (skipInline_suffix s).length_le
  rw [List.length_singleton] at hfeed
  omega

theorem blankRun_of_blankLine? (h : blankLine? s = some t) :
    blankRun s = ((blankRun t).1 + 1, (blankRun t).2) := by
  rw [blankRun, h]
  exact if_pos (blankLine?_length_lt h)

theorem loop_blankRun (s : Text) : Loop blankLine? List.length s (blankRun s).2 := by
  fun_induction blankRun s with
  | case1 s h => exact .stop h
  | case2 s t h hlt ih => exact .turn h hlt ih
  | case3 s t h hlong => exact absurd (blankLine?_length_lt h) hlong

theorem two_le_blankRun_iff (s : Text) :
    2 ≤ (blankRun s).1 ↔ ∃ t, (blankLine? s).bind blankLine? = some t ∧
      (blankRun s).2 = (blankRun t).2 := by
  cases hs : blankLine? s with
  | none => simp [blankRun_of_blankLine?_eq_none hs]
  | some t =>
    rw [blankRun_of_blankLine? hs, Option.bind_some]
    cases ht : blankLine? t with
    | none => simp [blankRun_of_blankLine?_eq_none ht]
    | some u => simp [blankRun_of_blankLine? ht]

theorem collapses_collapseRuns (s : Text) : Collapses s (collapseRuns s) := by
  fun_induction collapseRuns s with
  | case1 => exact .stop
  | case2 c s h ih =>
    obtain ⟨rfl, htwo, -⟩ := h
    obtain ⟨t, ht, hrest⟩ := (two_le_blankRun_iff s).mp htwo
    exact .collapse ht (hrest ▸ loop_blankRun t) ih
  | case3 c s h ih =>
    refine .keep (fun hc => ?_) ih
    rw [Option.eq_none_iff_forall_ne_some]
    intro t ht
    cases hs : blankLine? s with
    | none => simp [hs] at ht
    | some u =>
      rw [hs, Option.bind_some] at ht
      have htwo : 2 ≤ (blankRun s).1 := by
        rw [blankRun_of_blankLine? hs, blankRun_of_blankLine? ht]
        simp
      exact h ⟨hc, htwo, blankRun_length_le s⟩

end BlankRuns

/-- What a pass makes of a source when every loop of it has come to its end. -/
inductive Pass.Runs : Pass → Text → Text → Prop
  | imports {s r : Text}
      (scans : InTurn (Scans · true) [removal importFrom?, removal importEffect?] s r) :
      Runs .imports s r
  | reexports {s r : Text}
      (scans : InTurn (Scans · true) [removal exportStar?, removal exportList?] s r) :
      Runs .reexports s r
  | defaultExports {s r : Text}
      (scans : InTurn (Scans · true) [unwrapping defaultExport?, removal defaultExportName?] s r) :
      Runs .defaultExports s r
  | namedExports {s r : Text} (scans : Scans (unwrapping namedExport?) true s r) :
      Runs .namedExports s r
  | mountCalls {s r : Text} {names removed : List Text}
      (bindings : FindsAll (fun s => (rootBinding? s).map fun (name, opened) => (name, opened.tail))
        true s names)
      (searches : Searched (.binding :: .mount :: (distinct names).map .render) s removed r) :
      Runs .mountCalls s r
  | blankLines {s t r : Text} (runs : Collapses s t) (first : Loop blankLine? List.length t r) :
      Runs .blankLines s (dropLastBlankLines r)

/-- Every pass comes to its end. -/
theorem Pass.runs_run (p : Pass) (s : Text) : p.Runs s (p.run s) := by
  cases p with
  | imports =>
    exact .imports (.next (scans_removeStatements importFrom?_consumes s)
      (.next (scans_removeStatements importEffect?_consumes _) (.done _)))
  | reexports =>
    exact .reexports (.next (scans_removeStatements exportStar?_consumes s)
      (.next (scans_removeStatements exportList?_consumes _) (.done _)))
  | defaultExports =>
    exact .defaultExports (.next (scans_removeLeadingWords defaultExport?_consumes s)
      (.next (scans_removeStatements defaultExportName?_consumes _) (.done _)))
  | namedExports => exact .namedExports (scans_removeLeadingWords namedExport?_consumes s)
  | mountCalls =>
    let find (s : Text) : Option (Text × Text) :=
      (rootBinding? s).map fun (name, opened) => (name, opened.tail)
    have hnames : FindsAll find true s (findFrom find true s) := by
      refine findsAll_findFrom (fun s name t h => ?_) true s
      obtain ⟨⟨name, opened⟩, hb, he⟩ := Option.map_eq_some_iff.mp h
      obtain ⟨rfl, rfl⟩ := Prod.mk.inj he
      obtain ⟨hskip, hhead, -⟩ := rootBinding?_spec hb
      obtain ⟨r, rfl⟩ := List.head?_eq_some_iff.mp hhead
      exact Nat.lt_of_succ_le hskip.suffix.length_le
    obtain ⟨removed, hsearched⟩ := exists_searched (Search.all_opens s) s
    rw [Pass.run, stripMountCalls_eq]
    exact .mountCalls hnames hsearched
  | blankLines => exact .blankLines (collapses_collapseRuns s) (loop_blankRun _)

/-- Normalisation only deletes, and it comes to its end: each pass runs through all its loops, every
turn of which leaves less to look at, and keeps some of the characters in their order, and so does
the whole. The end of each statement is found by following the chain of its calls. -/
theorem normalize_runs (source : Text) :
    InTurn Pass.Runs Pass.all (normalizeLineEnds source) (normalize source) ∧
      (normalize source).Sublist source ∧
      (∀ (p : Pass) (s : Text), p.Runs s (p.run s) ∧ (p.run s).Sublist s) ∧
      ∀ s : Text, StatementEnds s (callStatement? s) :=
  ⟨inTurn_foldl (fun p _ => p.runs_run) _, normalize_deletesOnly source,
    fun p s => ⟨p.runs_run s, p.run_deletesOnly s⟩, callStatement?_ends⟩

end SitePreview.Source
