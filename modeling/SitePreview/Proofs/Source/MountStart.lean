import SitePreview.Proofs.Source.CallText
import SitePreview.Proofs.Text.Parts

/-! The starts of mount statements as a grammar. A statement binds a root to a name, makes a root
without a name or renders into one. Each of the searches that remove them knows the starts of its
own kind and nothing else, which its first word and the mark behind that word tell. -/

namespace SitePreview.Source

open Text CodePoint

/-- `ReactDOM` and a point with white space around it. -/
structure DomPrefix where
  before : Blanks
  after : Blanks

def DomPrefix.text (d : DomPrefix) : Text :=
  ofString "ReactDOM" ++ (d.before.text ++ ofChar '.' :: d.after.text)

inductive RootWord
  | createRoot
  | hydrateRoot

def RootWord.text : RootWord → Text
  | createRoot => "createRoot"
  | hydrateRoot => "hydrateRoot"

/-- The words that make a root, up to the parenthesis. -/
structure RootStart where
  dom : Option DomPrefix
  word : RootWord
  behind : Blanks

def RootStart.text (r : RootStart) : Text :=
  r.dom.elim [] DomPrefix.text ++ (r.word.text ++ r.behind.text)

inductive VariableWord
  | constWord
  | letWord
  | varWord

def VariableWord.text : VariableWord → Text
  | constWord => "const"
  | letWord => "let"
  | varWord => "var"

/-- The words that declare a variable. -/
def variableWords : List Text := [ofString "const", ofString "let", ofString "var"]

/-- The declaration of a name for a root, up to the parenthesis. -/
structure BindingStart where
  word : VariableWord
  gap : Gap
  name : VariableName
  before : Blanks
  after : Blanks
  root : RootStart

def BindingStart.text (b : BindingStart) : Text :=
  b.word.text ++ (b.gap.text ++ (b.name.text ++
    (b.before.text ++ ofChar '=' :: (b.after.text ++ b.root.text))))

/-- `render` of a name, up to the parenthesis. -/
structure RenderStart where
  name : VariableName
  before : Blanks
  after : Blanks
  behind : Blanks

def RenderStart.text (r : RenderStart) : Text :=
  r.name.text ++ (r.before.text ++ ofChar '.' ::
    (r.after.text ++ (ofString "render" ++ r.behind.text)))

/-- The start of a mount statement, up to the parenthesis. -/
inductive MountStart
  | binding (b : BindingStart)
  | root (r : RootStart)
  | render (r : RenderStart)

namespace MountStart

def text : MountStart → Text
  | binding b => b.text
  | root r => r.text
  | render r => r.text

/-- The first word of the start. -/
def word : MountStart → Text
  | binding b => b.word.text
  | root ⟨none, w, _⟩ => w.text
  | root ⟨some _, _, _⟩ => "ReactDOM"
  | render r => r.name.text

/-- What stands behind the first word, white space aside. -/
def mark : MountStart → CodePoint
  | binding b => b.name.first
  | root ⟨none, _, _⟩ => '('
  | root ⟨some _, _, _⟩ => '.'
  | render _ => '.'

end MountStart

/-- One of the searches for mount statements. -/
inductive Search
  | binding
  | mount
  | render (name : Text)

namespace Search

/-- What the search recognises at the start of a line, from its parenthesis on. -/
def call? : Search → Text → Option Text
  | binding => fun s => (rootBinding? s).map Prod.snd
  | mount => mountCall?
  | render name => rootRender? name

/-- The starts that the search knows. -/
def Knows : Search → MountStart → Prop
  | binding, .binding _ => True
  | mount, .root _ => True
  | mount, .render r => r.name.text = "ReactDOM"
  | render name, .render r => r.name.text = name
  | _, _ => False

instance : (x : Search) → (m : MountStart) → Decidable (x.Knows m)
  | binding, .binding _ | mount, .root _ => .isTrue trivial
  | binding, .root _ | binding, .render _ | mount, .binding _ => .isFalse id
  | mount, .render r => inferInstanceAs (Decidable (r.name.text = "ReactDOM"))
  | render _, .binding _ | render _, .root _ => .isFalse id
  | render name, .render r => inferInstanceAs (Decidable (r.name.text = name))

/-- What the search asks of the first word of a line and of the mark behind that word. -/
def Fits : Search → Text → Option CodePoint → Prop
  | binding, word, mark => word ∈ variableWords ∧
      ∃ c ∈ mark, c.isIdentifierStart = true
  | mount, word, mark => (word = "ReactDOM" ∧ mark = some (ofChar '.')) ∨
      (word ∈ ([ofString "createRoot", ofString "hydrateRoot"] : List Text) ∧
        mark = some (ofChar '('))
  | render name, word, mark => word = name ∧ mark = some (ofChar '.')

/-- The searches that the pass makes in a source, in their order. -/
def all (source : Text) : List Search := binding :: mount :: (rootNames source).map render

end Search

theorem stripMountCalls_eq (s : Text) :
    stripMountCalls s = (Search.all s).foldl (fun t x => removeCalls x.call? t) s := by
  rw [Search.all, List.foldl_cons, List.foldl_cons, List.foldl_map]
  rfl

variable {r s t w : Text} {c : CodePoint}

section Words

theorem RootWord.mem (w : RootWord) :
    w.text ∈ ([ofString "createRoot", ofString "hydrateRoot"] : List Text) := by
  cases w <;> decide

theorem VariableWord.mem (w : VariableWord) : w.text ∈ variableWords := by
  cases w <;> decide

theorem RootWord.text_ne_nil (w : RootWord) : w.text ≠ [] := by
  cases w <;> decide

theorem VariableWord.text_ne_nil (w : VariableWord) : w.text ≠ [] := by
  cases w <;> decide

theorem RootWord.all_part (w : RootWord) : ∀ c ∈ w.text, c.isIdentifierPart = true := by
  cases w <;> decide

theorem VariableWord.all_part (w : VariableWord) : ∀ c ∈ w.text, c.isIdentifierPart = true := by
  cases w <;> decide

theorem VariableName.text_ne_nil (n : VariableName) : n.text ≠ [] := List.cons_ne_nil _ _

theorem VariableName.notAhead_inline (n : VariableName) (t : Text) :
    notAhead isInlineBlank (n.text ++ t) = true :=
  notAhead_of_imp (fun _ => isBlank_of_isInlineBlank) (n.notAhead_blank t)

/-- What stands behind the first word of a line, white space aside. -/
def nextMark (u : Text) : Option CodePoint :=
  (skipBlanks ((skipInline u).dropWhile isIdentifierPart)).head?

/-- A line that is put together from a word and a mark behind it shows them. -/
theorem firstWord_nextMark (i : Indent) (hne : w ≠ [])
    (hw : ∀ c ∈ w, c.isIdentifierPart = true) (b : Blanks) (hc : c.isBlank = false)
    (hstop : notAhead isIdentifierPart (b.text ++ c :: t) = true) :
    firstWord (i.text ++ (w ++ (b.text ++ c :: t))) = w ∧
      nextMark (i.text ++ (w ++ (b.text ++ c :: t))) = some c := by
  have hinline : notAhead isInlineBlank (w ++ (b.text ++ c :: t)) = true := by
    rw [notAhead_append hne]
    refine notAhead_of_all hw fun d hd => ?_
    cases h : d.isInlineBlank with
    | false => rfl
    | true => simp [isIdentifierPart_of_isInlineBlank h] at hd
  have hskip : skipBlanks (b.text ++ c :: t) = c :: t := skipBlanks_blanks b (by simp [hc])
  rw [firstWord, nextMark, skipInline_indent i hinline, takeWhile_append_stop hw hstop,
    dropWhile_append_stop hw hstop, hskip]
  exact ⟨rfl, rfl⟩

end Words

section Recognisers

theorem openParen?_blanks (b : Blanks) (t : Text) :
    openParen? (b.text ++ ofChar '(' :: t) = some (ofChar '(' :: t) := by
  rw [openParen?, skipBlanks_blanks b rfl]
  rfl

theorem exists_openParen (h : openParen? s = some r) :
    ∃ (b : Blanks) (t : Text), r = ofChar '(' :: t ∧ s = b.text ++ r := by
  simp only [openParen?, Option.ite_none_right_eq_some, Option.some.injEq] at h
  obtain ⟨hhead, rfl⟩ := h
  obtain ⟨t, ht⟩ := List.head?_eq_some_iff.mp hhead
  obtain ⟨b, hb⟩ := exists_blanks s
  exact ⟨b, t, ht, hb⟩

theorem reactDom?_prefix (d : DomPrefix) (hr : notAhead CodePoint.isBlank r = true) :
    reactDom? (d.text ++ r) = some r := by
  have hpoint : after? "." (skipBlanks (d.before.text ++ ofChar '.' :: (d.after.text ++ r))) =
      some (d.after.text ++ r) := by
    rw [skipBlanks_blanks d.before rfl]
    exact after?_append "." _
  rw [reactDom?, DomPrefix.text, List.append_assoc, List.append_assoc, after?_append,
    Option.bind_eq_bind, Option.bind_some, List.cons_append, hpoint]
  exact congrArg some (skipBlanks_blanks d.after hr)

theorem exists_domPrefix (h : reactDom? s = some r) : ∃ d : DomPrefix, s = d.text ++ r := by
  simp only [reactDom?, Option.bind_eq_bind, Option.bind_eq_some_iff, Option.some.injEq] at h
  obtain ⟨t, ht, u, hu, rfl⟩ := h
  obtain ⟨before, hbefore⟩ := exists_blanks t
  obtain ⟨after, hafter⟩ := exists_blanks u
  refine ⟨⟨before, after⟩, ?_⟩
  calc s = ofString "ReactDOM" ++
          (before.text ++ (ofString "." ++ (after.text ++ skipBlanks u))) := by
        rw [← hafter, ← eq_append_of_after? hu, ← hbefore, ← eq_append_of_after? ht]
    _ = _ := by simp [DomPrefix.text, ofString]

theorem RootWord.notAhead_blank (w : RootWord) (t : Text) :
    notAhead CodePoint.isBlank (w.text ++ t) = true := by
  cases w <;> rfl

theorem RootStart.notAhead_blank (x : RootStart) (t : Text) :
    notAhead CodePoint.isBlank (x.text ++ t) = true := by
  rw [RootStart.text]
  rcases x.dom with _ | d
  · rw [List.append_assoc, List.append_assoc]
    exact x.word.notAhead_blank _
  · rfl

theorem reactDom?_rootWord (w : RootWord) (t : Text) : reactDom? (w.text ++ t) = none := by
  cases w <;> rfl

theorem after?_render_rootWord (w : RootWord) (t : Text) :
    after? "render" (w.text ++ t) = none := by
  cases w <;> rfl

theorem after?_rootWord (w : RootWord) (t : Text) :
    ((after? "createRoot" (w.text ++ t)).orElse fun _ => after? "hydrateRoot" (w.text ++ t)) =
      some t := by
  cases w with
  | createRoot =>
    rw [RootWord.text, after?_append]
    rfl
  | hydrateRoot => exact after?_append "hydrateRoot" t

theorem reactDom?_rootStart (r : RootStart) (t : Text) :
    reactDom? (r.text ++ t) = r.dom.map fun _ => r.word.text ++ (r.behind.text ++ t) := by
  cases hd : r.dom with
  | none =>
    rw [RootStart.text, hd, List.append_assoc, List.append_assoc]
    exact reactDom?_rootWord r.word _
  | some d =>
    rw [RootStart.text, hd, List.append_assoc, List.append_assoc]
    exact reactDom?_prefix d (r.word.notAhead_blank _)

theorem rootCall?_start (r : RootStart) (t : Text) :
    rootCall? (r.text ++ ofChar '(' :: t) = some (ofChar '(' :: t) := by
  have hdom : (reactDom? (r.text ++ ofChar '(' :: t)).getD (r.text ++ ofChar '(' :: t) =
      r.word.text ++ (r.behind.text ++ ofChar '(' :: t) := by
    rw [reactDom?_rootStart]
    cases hd : r.dom with
    | none => simp [RootStart.text, hd]
    | some d => rfl
  rw [rootCall?, hdom, after?_rootWord, Option.bind_some, openParen?_blanks]

theorem exists_rootStart (h : rootCall? s = some r) :
    ∃ (x : RootStart) (t : Text), r = ofChar '(' :: t ∧ s = x.text ++ r := by
  obtain ⟨u, hu, h⟩ := Option.bind_eq_some_iff.mp h
  obtain ⟨behind, t, hr, rfl⟩ := exists_openParen h
  obtain ⟨dom, hdom⟩ : ∃ dom : Option DomPrefix,
      s = dom.elim [] DomPrefix.text ++ (reactDom? s).getD s := by
    cases hd : reactDom? s with
    | none => exact ⟨none, rfl⟩
    | some v =>
      obtain ⟨d, hd⟩ := exists_domPrefix hd
      exact ⟨some d, hd⟩
  obtain ⟨word, hword⟩ : ∃ word : RootWord,
      (reactDom? s).getD s = word.text ++ (behind.text ++ r) := by
    cases hc : after? "createRoot" ((reactDom? s).getD s) with
    | none =>
      rw [hc] at hu
      exact ⟨.hydrateRoot, eq_append_of_after? hu⟩
    | some v =>
      rw [hc] at hu
      obtain rfl := Option.some.inj hu
      exact ⟨.createRoot, eq_append_of_after? hc⟩
  refine ⟨⟨dom, word, behind⟩, t, hr, ?_⟩
  rw [RootStart.text, List.append_assoc, List.append_assoc, ← hword]
  exact hdom

theorem RenderStart.text_append (x : RenderStart) (t : Text) :
    x.text ++ t = x.name.text ++ (x.before.text ++ ofChar '.' ::
      (x.after.text ++ (ofString "render" ++ (x.behind.text ++ t)))) := by
  simp [RenderStart.text]

theorem rootRender?_start (i : Indent) (x : RenderStart) (t : Text) :
    rootRender? x.name.text (i.text ++ (x.text ++ ofChar '(' :: t)) = some (ofChar '(' :: t) := by
  have hpoint : after? "." (skipBlanks (x.before.text ++ ofChar '.' ::
      (x.after.text ++ (ofString "render" ++ (x.behind.text ++ ofChar '(' :: t))))) =
      some (x.after.text ++ (ofString "render" ++ (x.behind.text ++ ofChar '(' :: t))) := by
    rw [skipBlanks_blanks x.before rfl]
    exact after?_append "." _
  have hrender : skipBlanks (x.after.text ++
      (ofString "render" ++ (x.behind.text ++ ofChar '(' :: t))) =
      ofString "render" ++ (x.behind.text ++ ofChar '(' :: t) := skipBlanks_blanks x.after rfl
  rw [x.text_append, rootRender?, skipInline_indent i (x.name.notAhead_inline _), after?_append,
    Option.bind_eq_bind, Option.bind_some, hpoint, Option.bind_some, hrender, after?_append,
    Option.bind_some, openParen?_blanks]

theorem exists_renderStart {n : VariableName} (h : rootRender? n.text s = some r) :
    ∃ (i : Indent) (x : RenderStart) (t : Text), x.name = n ∧ r = ofChar '(' :: t ∧
      s = i.text ++ (x.text ++ r) := by
  simp only [rootRender?, Option.bind_eq_bind, Option.bind_eq_some_iff] at h
  obtain ⟨t, ht, u, hu, v, hv, h⟩ := h
  obtain ⟨behind, w, hr, rfl⟩ := exists_openParen h
  obtain ⟨i, hi⟩ := exists_indent s
  obtain ⟨before, hbefore⟩ := exists_blanks t
  obtain ⟨after, hafter⟩ := exists_blanks u
  refine ⟨i, ⟨n, before, after, behind⟩, w, rfl, hr, ?_⟩
  rw [RenderStart.text_append, ← eq_append_of_after? hv, ← hafter]
  have hpoint : ofChar '.' :: u = skipBlanks t := (eq_append_of_after? hu).symm
  rw [hpoint, ← hbefore, ← eq_append_of_after? ht, ← hi]

theorem mountCall?_rootStart (i : Indent) (x : RootStart) (t : Text) :
    mountCall? (i.text ++ (x.text ++ ofChar '(' :: t)) = some (ofChar '(' :: t) := by
  have hinline : notAhead isInlineBlank (x.text ++ ofChar '(' :: t) = true :=
    notAhead_of_imp (fun _ => isBlank_of_isInlineBlank) (x.notAhead_blank _)
  have hrender : (reactDom? (x.text ++ ofChar '(' :: t)).bind (after? "render") = none := by
    rw [reactDom?_rootStart]
    cases x.dom with
    | none => rfl
    | some d => exact after?_render_rootWord x.word _
  rw [mountCall?, skipInline_indent i hinline]
  simp only [hrender, rootCall?_start, Option.bind_none, Option.orElse_none]

/-- `ReactDOM` as a name. -/
def reactDomName : VariableName := ⟨'R', ofString "eactDOM", by decide, by decide⟩

theorem mountCall?_renderStart (i : Indent) (x : RenderStart) (hx : x.name.text = "ReactDOM")
    (t : Text) : mountCall? (i.text ++ (x.text ++ ofChar '(' :: t)) = some (ofChar '(' :: t) := by
  have hdom : reactDom? (x.text ++ ofChar '(' :: t) =
      some (ofString "render" ++ (x.behind.text ++ ofChar '(' :: t)) := by
    have := reactDom?_prefix ⟨x.before, x.after⟩
      (r := ofString "render" ++ (x.behind.text ++ ofChar '(' :: t)) rfl
    rw [DomPrefix.text, List.append_assoc, List.append_assoc] at this
    rw [x.text_append, hx]
    exact this
  rw [mountCall?, x.text_append, skipInline_indent i (x.name.notAhead_inline _), ← x.text_append]
  simp only [hdom, Option.bind_some, after?_append, openParen?_blanks, Option.orElse_some]

theorem exists_mountStart (h : mountCall? s = some r) :
    ∃ (i : Indent) (m : MountStart) (t : Text), Search.mount.Knows m ∧ r = ofChar '(' :: t ∧
      s = i.text ++ (m.text ++ r) := by
  obtain ⟨i, hi⟩ := exists_indent s
  simp only [mountCall?] at h
  cases hr : ((reactDom? (skipInline s)).bind (after? "render")).bind openParen? with
  | none =>
    obtain ⟨x, t, hr, hs⟩ := exists_rootStart (s := skipInline s) (by simpa [hr] using h)
    exact ⟨i, .root x, t, trivial, hr, by rw [MountStart.text, ← hs, ← hi]⟩
  | some u =>
    obtain rfl : u = r := by simpa [hr] using h
    obtain ⟨v, hv, hopen⟩ := Option.bind_eq_some_iff.mp hr
    obtain ⟨w, hw, hv⟩ := Option.bind_eq_some_iff.mp hv
    obtain ⟨d, hd⟩ := exists_domPrefix hw
    obtain ⟨behind, t, hr, hb⟩ := exists_openParen hopen
    refine ⟨i, .render ⟨reactDomName, d.before, d.after, behind⟩, t, rfl, hr, ?_⟩
    rw [MountStart.text, RenderStart.text_append, ← hb, ← eq_append_of_after? hv]
    calc s = i.text ++ (d.text ++ w) := by rw [← hd, ← hi]
      _ = _ := by
        rw [DomPrefix.text, List.append_assoc, List.append_assoc]
        rfl

theorem exists_gap (h : wordAndBlanks? w s = some r) : ∃ g : Gap, s = w ++ (g.text ++ r) := by
  obtain ⟨t, ht, h⟩ := Option.bind_eq_some_iff.mp h
  cases t with
  | nil => simp [skipSomeBlanks?] at h
  | cons c t =>
    simp only [skipSomeBlanks?, Option.ite_none_right_eq_some, Option.some.injEq] at h
    obtain ⟨hc, rfl⟩ := h
    obtain ⟨b, hb⟩ := exists_blanks t
    have hall : ∀ d ∈ c :: b.text, d.isBlank = true := List.forall_mem_cons.mpr ⟨hc, b.all_blank⟩
    refine ⟨⟨⟨c :: b.text, hall⟩, List.cons_ne_nil _ _⟩, ?_⟩
    rw [eq_append_of_after? ht, List.cons_append, ← hb]

/-- The word that declares a variable with white space behind it. -/
def variableWord? (s : Text) : Option Text :=
  (wordAndBlanks? "const" s).orElse fun _ =>
    (wordAndBlanks? "let" s).orElse fun _ => wordAndBlanks? "var" s

theorem variableWord?_append (w : VariableWord) (g : Gap)
    (ht : notAhead CodePoint.isBlank t = true) :
    variableWord? (w.text ++ (g.text ++ t)) = some t := by
  cases w with
  | constWord =>
    rw [variableWord?, VariableWord.text, wordAndBlanks?_gap _ g ht, Option.orElse_some]
  | letWord =>
    have hconst : wordAndBlanks? "const" (ofString "let" ++ (g.text ++ t)) = none := rfl
    rw [variableWord?, VariableWord.text, hconst, wordAndBlanks?_gap _ g ht, Option.orElse_none,
      Option.orElse_some]
  | varWord =>
    have hconst : wordAndBlanks? "const" (ofString "var" ++ (g.text ++ t)) = none := rfl
    have hlet : wordAndBlanks? "let" (ofString "var" ++ (g.text ++ t)) = none := rfl
    rw [variableWord?, VariableWord.text, hconst, hlet, wordAndBlanks?_gap _ g ht,
      Option.orElse_none, Option.orElse_none]

theorem exists_variableWord (h : variableWord? s = some r) :
    ∃ (w : VariableWord) (g : Gap), s = w.text ++ (g.text ++ r) := by
  unfold variableWord? at h
  cases hconst : wordAndBlanks? "const" s with
  | some t =>
    obtain rfl : t = r := by simpa [hconst] using h
    obtain ⟨g, hg⟩ := exists_gap hconst
    exact ⟨.constWord, g, hg⟩
  | none =>
    cases hlet : wordAndBlanks? "let" s with
    | some t =>
      obtain rfl : t = r := by simpa [hconst, hlet] using h
      obtain ⟨g, hg⟩ := exists_gap hlet
      exact ⟨.letWord, g, hg⟩
    | none =>
      obtain ⟨g, hg⟩ := exists_gap (w := "var") (s := s) (r := r)
        (by simpa [hconst, hlet] using h)
      exact ⟨.varWord, g, hg⟩

theorem BindingStart.text_append (b : BindingStart) (t : Text) :
    b.text ++ t = b.word.text ++ (b.gap.text ++ (b.name.text ++ (b.before.text ++ ofChar '=' ::
      (b.after.text ++ (b.root.text ++ t))))) := by
  simp [BindingStart.text]

theorem VariableWord.notAhead_inline (w : VariableWord) (t : Text) :
    notAhead isInlineBlank (w.text ++ t) = true := by
  cases w <;> rfl

theorem rootBinding?_start (i : Indent) (b : BindingStart) (t : Text) :
    rootBinding? (i.text ++ (b.text ++ ofChar '(' :: t)) =
      some (b.name.text, ofChar '(' :: t) := by
  have hword := variableWord?_append b.word b.gap (b.name.notAhead_blank
    (b.before.text ++ ofChar '=' :: (b.after.text ++ (b.root.text ++ ofChar '(' :: t))))
  have hstop : notAhead isIdentifierPart
      (b.before.text ++ ofChar '=' :: (b.after.text ++ (b.root.text ++ ofChar '(' :: t))) = true :=
    b.before.notAhead rfl
  have hequals : after? "=" (skipBlanks
      (b.before.text ++ ofChar '=' :: (b.after.text ++ (b.root.text ++ ofChar '(' :: t)))) =
      some (b.after.text ++ (b.root.text ++ ofChar '(' :: t)) := by
    rw [skipBlanks_blanks b.before rfl]
    exact after?_append "=" _
  unfold variableWord? at hword
  rw [rootBinding?, b.text_append, skipInline_indent i (b.word.notAhead_inline _), hword,
    Option.bind_eq_bind, Option.bind_some, VariableName.text, List.cons_append]
  simp only [b.name.starts, if_true, dropWhile_append_stop b.name.parts hstop,
    takeWhile_append_stop b.name.parts hstop, hequals, Option.bind_some,
    skipBlanks_blanks b.after (b.root.notAhead_blank _), rootCall?_start]

theorem exists_bindingStart {name : Text} (h : rootBinding? s = some (name, r)) :
    ∃ (i : Indent) (b : BindingStart) (t : Text), b.name.text = name ∧ r = ofChar '(' :: t ∧
      s = i.text ++ (b.text ++ r) := by
  obtain ⟨i, hi⟩ := exists_indent s
  simp only [rootBinding?, Option.bind_eq_bind, Option.bind_eq_some_iff] at h
  obtain ⟨t, ht, h⟩ := h
  obtain ⟨word, gap, hword⟩ := exists_variableWord ht
  split at h
  · exact absurd h (by simp)
  · next c u =>
    split at h
    · next hstart =>
      simp only [Option.bind_eq_some_iff, Option.some.injEq, Prod.mk.injEq] at h
      obtain ⟨v, hv, o, ho, rfl, rfl⟩ := h
      obtain ⟨before, hbefore⟩ := exists_blanks (u.dropWhile isIdentifierPart)
      obtain ⟨after, hafter⟩ := exists_blanks v
      obtain ⟨root, w, ho, hroot⟩ := exists_rootStart ho
      let x : VariableName := ⟨c, u.takeWhile isIdentifierPart, hstart,
        fun c hc => List.all_eq_true.mp List.all_takeWhile c hc⟩
      refine ⟨i, ⟨word, gap, x, before, after, root⟩, w, rfl, ho, ?_⟩
      have hname : c :: u = x.text ++ u.dropWhile isIdentifierPart :=
        congrArg (c :: ·) List.takeWhile_append_dropWhile.symm
      have hequals : ofChar '=' :: v = skipBlanks (u.dropWhile isIdentifierPart) :=
        (eq_append_of_after? hv).symm
      rw [BindingStart.text_append, ← hroot, ← hafter, hequals, ← hbefore, ← hname, ← hword, ← hi]
    · exact absurd h (by simp)

end Recognisers

namespace Search

variable {x : Search} {m : MountStart}

/-- The search is for a name that a variable can have. -/
def Named : Search → Prop
  | render name => ∃ n : VariableName, n.text = name
  | _ => True

/-- A search recognises the starts that it knows. -/
theorem call?_start (h : x.Knows m) (i : Indent) (t : Text) :
    x.call? (i.text ++ (m.text ++ ofChar '(' :: t)) = some (ofChar '(' :: t) := by
  cases x with
  | binding =>
    cases m with
    | binding b => exact congrArg (Option.map Prod.snd) (rootBinding?_start i b t)
    | root | render => exact h.elim
  | mount =>
    cases m with
    | binding => exact h.elim
    | root r => exact mountCall?_rootStart i r t
    | render r => exact mountCall?_renderStart i r h t
  | render name =>
    cases m with
    | binding | root => exact h.elim
    | render r =>
      obtain rfl : r.name.text = name := h
      exact rootRender?_start i r t

/-- What a search recognises is a start that it knows. -/
theorem exists_start (hx : x.Named) (h : x.call? s = some r) :
    ∃ (i : Indent) (m : MountStart) (t : Text), x.Knows m ∧ r = ofChar '(' :: t ∧
      s = i.text ++ (m.text ++ r) := by
  cases x with
  | binding =>
    obtain ⟨⟨name, o⟩, hb, rfl⟩ := Option.map_eq_some_iff.mp h
    obtain ⟨i, b, t, -, ht, hs⟩ := exists_bindingStart hb
    exact ⟨i, .binding b, t, trivial, ht, hs⟩
  | mount => exact exists_mountStart h
  | render name =>
    obtain ⟨n, rfl⟩ := hx
    obtain ⟨i, m, t, rfl, ht, hs⟩ := exists_renderStart h
    exact ⟨i, .render m, t, rfl, ht, hs⟩

theorem Knows.fits (h : x.Knows m) : x.Fits m.word (some m.mark) := by
  cases x with
  | binding =>
    cases m with
    | binding b => exact ⟨b.word.mem, b.name.first, rfl, b.name.starts⟩
    | root | render => exact h.elim
  | mount =>
    cases m with
    | binding => exact h.elim
    | root r =>
      rcases r with ⟨_ | d, w, b⟩
      · exact .inr ⟨w.mem, rfl⟩
      · exact .inl ⟨rfl, rfl⟩
    | render r => exact .inl ⟨h, rfl⟩
  | render name =>
    cases m with
    | binding | root => exact h.elim
    | render r => exact ⟨h, rfl⟩

end Search

/-- The first word of a start and the mark behind it, as the line shows them. -/
theorem MountStart.shows (m : MountStart) (i : Indent) (t : Text) :
    firstWord (i.text ++ (m.text ++ ofChar '(' :: t)) = m.word ∧
      nextMark (i.text ++ (m.text ++ ofChar '(' :: t)) = some m.mark := by
  cases m with
  | binding b =>
    have hblank : b.name.first.isBlank = false :=
      isBlank_of_isIdentifierPart (isIdentifierPart_of_isIdentifierStart b.name.starts)
    rw [text, b.text_append]
    exact firstWord_nextMark i b.word.text_ne_nil b.word.all_part b.gap.toBlanks hblank
      (b.gap.notAhead _)
  | root r =>
    have hparen : (ofChar '(').isBlank = false := by decide
    have hpoint : (ofChar '.').isBlank = false := by decide
    rcases r with ⟨_ | d, w, b⟩
    · have hline : (root ⟨none, w, b⟩).text ++ ofChar '(' :: t =
          w.text ++ (b.text ++ ofChar '(' :: t) := by simp [text, RootStart.text]
      rw [hline]
      exact firstWord_nextMark i w.text_ne_nil w.all_part b hparen (b.notAhead rfl)
    · have hline : (root ⟨some d, w, b⟩).text ++ ofChar '(' :: t = ofString "ReactDOM" ++
          (d.before.text ++ ofChar '.' ::
            (d.after.text ++ (w.text ++ (b.text ++ ofChar '(' :: t)))) := by
        simp [text, RootStart.text, DomPrefix.text]
      rw [hline]
      exact firstWord_nextMark i (by decide) (by decide) d.before hpoint (d.before.notAhead rfl)
  | render r =>
    rw [text, r.text_append]
    exact firstWord_nextMark i r.name.text_ne_nil r.name.all_part r.before (by decide)
      (r.before.notAhead rfl)

/-- A search recognises only lines that show a start of its own. -/
theorem Search.fits_of_call? {x : Search} (hx : x.Named) (h : x.call? s = some r) :
    x.Fits (firstWord s) (nextMark s) := by
  obtain ⟨i, m, t, hm, rfl, rfl⟩ := exists_start hx h
  obtain ⟨hword, hmark⟩ := m.shows i t
  rw [hword, hmark]
  exact hm.fits

end SitePreview.Source
