import SitePreview.Proofs.Source.MountStart
import SitePreview.Proofs.Text.Parts

/-! Sources made of mount statements and of lines of anything else, and what the lines of the two
show to the searches for mount statements. -/

namespace SitePreview.Source

open Text CodePoint

/-- A mount statement up to the end of its last line. -/
structure Statement where
  indent : Indent
  start : MountStart
  calls : Text
  isCalls : Calls calls
  ending : Ending

def Statement.text (m : Statement) : Text :=
  m.indent.text ++ (m.start.text ++ (m.calls ++ m.ending.text))

/-- The words that start a mount statement where the names are bound to roots. -/
def mountWords (names : List Text) : List Text :=
  [ofString "ReactDOM", ofString "createRoot", ofString "hydrateRoot"] ++ names

/-- A mount statement of a source that binds the names. -/
structure Mount (names : List Text) extends Statement where
  bound : ∀ r, start = .render r → r.name.text ∈ ofString "ReactDOM" :: names
  inner : ∀ u, ofChar '\n' :: u <:+ calls → firstWord u ∉ variableWords ++ mountWords names

/-- The line ends in a semicolon, white space behind it aside. -/
def EndsInSemicolon (s : Text) : Prop :=
  ∃ (a : Text) (b : Blanks), s = a ++ ofChar ';' :: b.text

/-- The line declares a variable and gives it a root. -/
def AssignsRoot (s : Text) : Prop :=
  ∃ (i : Indent) (b : BindingStart), i.text ++ (b.text ++ [ofChar '(']) <+: s

/-- A line that starts no mount statement and goes on with none. -/
structure OrdinaryLine (names : List Text) where
  text : Text
  no_lineFeed : ofChar '\n' ∉ text
  firstWord_ne : firstWord text ∉ mountWords names
  no_point : (skipBlanks text).head? ≠ some (ofChar '.')
  declares : firstWord text ∈ variableWords → EndsInSemicolon text ∧ ¬AssignsRoot text

/-- A part of a source that binds the names. -/
inductive MountItem (names : List Text)
  | mount (m : Mount names)
  | line (l : OrdinaryLine names)

variable {names : List Text}

namespace MountItem

def text : MountItem names → Text
  | mount m => m.text
  | line l => l.text

/-- The name that the item binds to a root. -/
def boundName? : MountItem names → Option Text
  | mount m =>
    match m.start with
    | .binding b => some b.name.text
    | _ => none
  | line _ => none

/-- The line, if the item is an ordinary one. -/
def ordinary? : MountItem names → Option Text
  | mount _ => none
  | line l => some l.text

end MountItem

/-- The items one after another, each ended by a line feed, and then one without, if there is
one. -/
def mountText (items : List (MountItem names)) (last : Option (MountItem names)) : Text :=
  unlines (items.map MountItem.text) (last.elim [] MountItem.text)

/-- A source made of mount statements and ordinary lines, with the names that it binds. -/
structure MountSource where
  names : List Text
  items : List (MountItem names)
  last : Option (MountItem names)
  bound : ∀ n, n ∈ names ↔ ∃ i ∈ items ++ last.toList, i.boundName? = some n

def MountSource.text (p : MountSource) : Text := mountText p.items p.last

/-- The ordinary lines of the source, each with the line feed that ends it. -/
def MountSource.ordinary (p : MountSource) : Text :=
  unlines (p.items.filterMap MountItem.ordinary?) ((p.last.bind MountItem.ordinary?).getD [])

variable {a b e r s t u v w : Text} {c : CodePoint} {x : Search}

section Lines

/-- The first word of a line stands in front of a mark that no word holds. -/
theorem firstWord_append_stop (hinline : notAhead isInlineBlank t = true)
    (hpart : notAhead isIdentifierPart t = true) (s : Text) :
    firstWord (s ++ t) = firstWord s := by
  have hskip : skipInline (s ++ t) = skipInline s ++ t := by
    rw [skipInline, List.dropWhile_append, ← skipInline, ← skipInline]
    split
    · next h => rw [skipInline_of_notAhead hinline, List.isEmpty_iff.mp h, List.nil_append]
    · rfl
  have hnil : t.takeWhile isIdentifierPart = [] :=
    takeWhile_append_stop (w := []) (by simp) hpart
  rw [firstWord, hskip, List.takeWhile_append, hnil, firstWord]
  split
  · next h => rw [List.append_nil, (List.takeWhile_prefix _).eq_of_length h]
  · rfl

/-- White space at the start of a line hides what follows or shows it as it is. -/
theorem firstWord_blanks (hv : ∀ c ∈ v, c.isBlank = true) (t : Text) :
    firstWord (v ++ t) = [] ∨
      (firstWord (v ++ t) = firstWord t ∧ nextMark (v ++ t) = nextMark t) := by
  induction v with
  | nil => exact .inr ⟨rfl, rfl⟩
  | cons c v ih =>
    rw [List.forall_mem_cons] at hv
    by_cases hc : c.isInlineBlank = true
    · have hskip : skipInline (c :: v ++ t) = skipInline (v ++ t) := by
        rw [List.cons_append, skipInline, List.dropWhile_cons_of_pos hc, skipInline]
      rw [firstWord, nextMark, hskip]
      exact ih hv.2
    · exact .inl (firstWord_of_notAhead (by simpa using hc)
        (by simpa using isIdentifierPart_of_isBlank hv.1))

/-- A text of white space with a mark behind it shows no word. -/
theorem firstWord_blanks_mark (hv : ∀ c ∈ v, c.isBlank = true) (hinline : c.isInlineBlank = false)
    (hpart : c.isIdentifierPart = false) (t : Text) : firstWord (v ++ c :: t) = [] := by
  rcases firstWord_blanks hv (c :: t) with h | ⟨h, -⟩
  · exact h
  · rw [h]
    exact firstWord_of_notAhead (by simpa using hinline) (by simpa using hpart)

theorem firstWord_word (hne : w ≠ []) (hw : ∀ c ∈ w, c.isIdentifierPart = true) (b : Blanks)
    (t : Text) : firstWord (w ++ (b.text ++ ofChar '(' :: t)) = w ∧
      nextMark (w ++ (b.text ++ ofChar '(' :: t)) = some (ofChar '(') :=
  firstWord_nextMark ⟨[], by simp⟩ hne hw b (by decide) (b.notAhead rfl)

/-- What stands at the start of a line between white space and a parenthesis. -/
theorem firstWord_blanks_word (hv : ∀ c ∈ v, c.isBlank = true) (hne : w ≠ [])
    (hw : ∀ c ∈ w, c.isIdentifierPart = true) (b : Blanks) (t : Text) :
    firstWord (v ++ (w ++ (b.text ++ ofChar '(' :: t))) = [] ∨
      (firstWord (v ++ (w ++ (b.text ++ ofChar '(' :: t))) = w ∧
        nextMark (v ++ (w ++ (b.text ++ ofChar '(' :: t))) = some (ofChar '(')) := by
  obtain ⟨hword, hmark⟩ := firstWord_word hne hw b t
  rcases firstWord_blanks hv (w ++ (b.text ++ ofChar '(' :: t)) with h | ⟨h1, h2⟩
  · exact .inl h
  · exact .inr ⟨h1.trans hword, h2.trans hmark⟩

end Lines

section Starts

theorem not_mem_of_all {p : CodePoint → Bool} (hw : ∀ d ∈ w, p d = true) (hc : p c = false) :
    c ∉ w := fun h => by simp [hw c h] at hc

/-- The lines within the start of a root show no word or the one that makes the root. -/
theorem RootStart.inner (y : RootStart) (h : ofChar '\n' :: v <:+ y.text) (t : Text) :
    firstWord (v ++ ofChar '(' :: t) = [] ∨ firstWord (v ++ ofChar '(' :: t) = y.word.text := by
  have hword : ofChar '\n' ∉ y.word.text := not_mem_of_all y.word.all_part (by decide)
  have hbehind {u : Text} (hu : ofChar '\n' :: u <:+ y.behind.text) :
      firstWord (u ++ ofChar '(' :: t) = [] :=
    firstWord_blanks_mark (fun c hc => y.behind.all_blank c
      (hu.subset (List.mem_cons_of_mem _ hc))) (by decide) (by decide) t
  rw [RootStart.text] at h
  rcases suffix_append_cases h with h | ⟨u, hu, rfl⟩
  · exact .inl (hbehind (suffix_append_of_not_mem hword h))
  · cases hd : y.dom with
    | none => simp [hd] at hu
    | some d =>
      rw [hd, Option.elim_some, DomPrefix.text] at hu
      rcases suffix_append_cases (suffix_append_of_not_mem (by decide) hu) with hu | ⟨z, hz, rfl⟩
      · -- behind the point white space stands in front of the word
        have hafter : ∀ c ∈ u, c.isBlank = true := by
          rcases List.suffix_cons_iff.mp hu with heq | hu
          · exact absurd (List.cons.inj heq).1 (by decide)
          · exact fun c hc => d.after.all_blank c (hu.subset (List.mem_cons_of_mem _ hc))
        rw [List.append_assoc, List.append_assoc]
        exact (firstWord_blanks_word hafter y.word.text_ne_nil y.word.all_part y.behind t).imp_right
          And.left
      · left
        rw [List.append_assoc, List.append_assoc]
        exact firstWord_blanks_mark (c := ofChar '.') (fun c hc => d.before.all_blank c
          (hz.subset (List.mem_cons_of_mem _ hc))) (by decide) (by decide) _

/-- The lines within the start of a rendering show no word or `render` up to its parenthesis. -/
theorem RenderStart.inner (y : RenderStart) (h : ofChar '\n' :: v <:+ y.text) (t : Text) :
    firstWord (v ++ ofChar '(' :: t) = [] ∨ (firstWord (v ++ ofChar '(' :: t) = "render" ∧
      nextMark (v ++ ofChar '(' :: t) = some (ofChar '(')) := by
  have hname : ofChar '\n' ∉ y.name.text := not_mem_of_all y.name.all_part (by decide)
  rw [RenderStart.text] at h
  rcases suffix_append_cases (suffix_append_of_not_mem hname h) with h | ⟨u, hu, rfl⟩
  · rcases List.suffix_cons_iff.mp h with heq | h
    · exact absurd (List.cons.inj heq).1 (by decide)
    rcases suffix_append_cases h with h | ⟨u, hu, rfl⟩
    · have hbehind := suffix_append_of_not_mem (by decide) h
      exact .inl (firstWord_blanks_mark (fun c hc => y.behind.all_blank c
        (hbehind.subset (List.mem_cons_of_mem _ hc))) (by decide) (by decide) t)
    · rw [List.append_assoc, List.append_assoc]
      exact firstWord_blanks_word (fun c hc => y.after.all_blank c
        (hu.subset (List.mem_cons_of_mem _ hc))) (by decide) (by decide) y.behind t
  · left
    rw [List.append_assoc]
    exact firstWord_blanks_mark (fun c hc => y.before.all_blank c
      (hu.subset (List.mem_cons_of_mem _ hc))) (by decide) (by decide) _

end Starts

end SitePreview.Source
