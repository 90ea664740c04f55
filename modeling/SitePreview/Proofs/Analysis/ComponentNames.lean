import SitePreview.Analysis.Summary
import SitePreview.Proofs.FileSet.Lookup
import SitePreview.Proofs.Markup.TagReading
import SitePreview.Proofs.Text.Lists
import SitePreview.Proofs.Text.Parts

/-! Names of components. No declaration of a capitalised name starts inside another one, so a search
from left to right that goes on behind each declaration finds all of them. A summary lists the names
that the sources declare, each where it is declared first: by the path of the file, then by the place
in it. -/

namespace SitePreview

open Text CodePoint

variable {s t w name rest : Text} {c : CodePoint} {inWord : Bool} {place : Nat}

/-- The text declares the name, with a rest behind it: a keyword, white space and the name, which
starts with an ASCII capital and goes as far as ASCII letters, digits and underscores do. -/
inductive Declares (name rest : Text) : Text → Prop
  | intro {keyword blanks : Text} (hkeyword : keyword ∈ declarationKeywords) (hne : blanks ≠ [])
      (hblanks : ∀ c ∈ blanks, c.isBlank = true) (hcapital : name.head?.any isAsciiUpper = true)
      (hparts : ∀ c ∈ name, isNamePart c = true) (hend : notAhead isNamePart rest = true) :
      Declares name rest (keyword ++ (blanks ++ (name ++ rest)))

/-- In a place of a source, at a word boundary, a declaration of the name stands. -/
inductive DeclaredAt (source : Text) (place : Nat) (name : Text) : Prop
  | intro {front text rest : Text} (hsource : source = front ++ text)
      (hplace : place = front.length)
      (hboundary : ∀ c, front.getLast? = some c → c.isWord = false)
      (hdeclares : Declares name rest text)

/-- A source of the project declares the name in a place. -/
structure DeclaredIn (files : FileSet) (path : Text) (place : Nat) (name : Text) : Prop where
  mem : path ∈ files.paths
  kind : FileKind.ofPath path ∈ [.script, .component, .markup]
  declared : DeclaredAt (files.content path) place name

section Reading

theorem keyword_isWord : ∀ keyword ∈ declarationKeywords, ∀ c ∈ keyword, c.isWord = true := by
  decide

theorem keyword_isAsciiLower :
    ∀ keyword ∈ declarationKeywords, keyword.head?.any isAsciiLower = true := by
  decide

theorem eq_of_keyword_startsWith : ∀ keyword ∈ declarationKeywords, ∀ other ∈ declarationKeywords,
    other <+: keyword → other = keyword := by
  decide

theorem keyword_not_mem_before {before behind : List Text} {keyword : Text}
    (h : declarationKeywords = before ++ keyword :: behind) : keyword ∉ before := by
  have hnodup : declarationKeywords.Nodup := by decide
  rw [h, List.nodup_append] at hnodup
  exact fun hmem => hnodup.2.2 keyword hmem keyword List.mem_cons_self rfl

theorem isWord_of_isNamePart (h : isNamePart c = true) : c.isWord = true := by
  have hlow : c.val < 128 := by
    simp only [isNamePart, isAsciiLetter, isAsciiUpper, isAsciiLower, isAsciiDigit,
      Bool.or_eq_true, Bool.and_eq_true, decide_eq_true_eq] at h
    rcases h with h | rfl
    · omega
    · decide
  rwa [isWord, if_pos hlow]

theorem isAsciiLower_of_not_isWord (h : c.isWord = false) : c.isAsciiLower = false := by
  cases hlower : c.isAsciiLower with
  | false => rfl
  | true =>
    have hpart : isNamePart c = true := by simp [isNamePart, isAsciiLetter, hlower]
    exact absurd (isWord_of_isNamePart hpart) (by simp [h])

theorem isAsciiLower_of_isAsciiUpper (h : c.isAsciiUpper = true) : c.isAsciiLower = false := by
  simp only [isAsciiUpper, isAsciiLower, Bool.and_eq_true, Bool.and_eq_false_iff,
    decide_eq_true_eq, decide_eq_false_iff_not] at h ⊢
  omega

theorem isBlank_of_isAsciiUpper (h : c.isAsciiUpper = true) : c.isBlank = false := by
  refine isBlank_of_isIdentifierPart ?_
  rw [isIdentifierPart, isWord_of_isNamePart (by simp [isNamePart, isAsciiLetter, h])]
  rfl

theorem exists_of_wordAndBlanks? {keyword : Text} (h : wordAndBlanks? keyword s = some t) :
    ∃ blanks : Text, blanks ≠ [] ∧ (∀ c ∈ blanks, c.isBlank = true) ∧
      s = keyword ++ (blanks ++ t) := by
  obtain ⟨behind, hbehind, h⟩ := Option.bind_eq_some_iff.mp h
  cases behind with
  | nil => cases h
  | cons c r =>
    rw [skipSomeBlanks?] at h
    split at h
    · next hc =>
      obtain rfl := Option.some.inj h
      refine ⟨c :: r.takeWhile CodePoint.isBlank, by simp, ?_, ?_⟩
      · rw [List.forall_mem_cons]
        exact ⟨hc, fun d hd => List.mem_takeWhile_imp hd⟩
      · rw [eq_append_of_after? hbehind, List.cons_append, skipBlanks, List.takeWhile_append_dropWhile]
    · cases h

/-- A declaration is read exactly where one stands. -/
theorem declaration?_eq_some_iff : declaration? s = some (name, rest) ↔ Declares name rest s := by
  constructor
  · intro h
    obtain ⟨keyword, hkeyword, h⟩ := List.exists_of_findSome?_eq_some h
    split at h
    · next c r hread =>
      split at h
      · next hupper =>
        obtain ⟨rfl, rfl⟩ := Prod.mk.inj (Option.some.inj h)
        obtain ⟨blanks, hne, hblanks, rfl⟩ := exists_of_wordAndBlanks? hread
        have hname : c :: r = (c :: r.takeWhile isNamePart) ++ r.dropWhile isNamePart := by
          rw [List.cons_append, List.takeWhile_append_dropWhile]
        rw [hname]
        refine .intro hkeyword hne hblanks hupper ?_ (notAhead_dropWhile _ _)
        rw [List.forall_mem_cons]
        exact ⟨by simp [isNamePart, isAsciiLetter, hupper], fun d hd => List.mem_takeWhile_imp hd⟩
      · cases h
    · cases h
  · rintro ⟨hkeyword, hne, hblanks, hcapital, hparts, hend⟩
    next keyword blanks =>
    cases name with
    | nil => cases hcapital
    | cons c name =>
    have hupper : c.isAsciiUpper = true := hcapital
    rw [List.forall_mem_cons] at hparts
    have hread : wordAndBlanks? keyword (keyword ++ (blanks ++ (c :: name ++ rest))) =
        some (c :: (name ++ rest)) :=
      wordAndBlanks?_append keyword hne hblanks (by simp [isBlank_of_isAsciiUpper hupper])
    obtain ⟨before, behind, hkeywords⟩ := List.append_of_mem hkeyword
    refine List.findSome?_eq_some_iff.mpr ⟨before, keyword, behind, hkeywords, ?_, ?_⟩
    · simp only [hread, hupper, if_true]
      rw [takeWhile_append_stop hparts.2 hend, dropWhile_append_stop hparts.2 hend]
    · intro other hother
      have hmem : other ∈ declarationKeywords := hkeywords ▸ List.mem_append_left _ hother
      have hprefix : ¬other <+: keyword := fun h =>
        keyword_not_mem_before hkeywords (eq_of_keyword_startsWith _ hkeyword _ hmem h ▸ hother)
      have hblank : notAhead isWord (blanks ++ (c :: name ++ rest)) = true := by
        rw [notAhead_append hne]
        exact notAhead_of_all hblanks fun d => Markup.isWord_of_isBlank
      rw [wordAndBlanks?_eq_none
        (after?_append_eq_none (keyword_isWord other hmem) hprefix hblank)]

end Reading

section Scanning

/-- The names declared in all places of a text that stands behind `place` others; `inWord` tells
whether a word code point stands in front of it. -/
def declarationsFrom (place : Nat) (inWord : Bool) : Text → List (Nat × Text)
  | [] => []
  | c :: s =>
    ((if inWord then none else declaration? (c :: s)).map fun d => (place, d.1)).toList ++
      declarationsFrom (place + 1) c.isWord s

theorem declaration?_eq_none (h : c.isAsciiLower = false) : declaration? (c :: s) = none := by
  rw [Option.eq_none_iff_forall_ne_some]
  rintro ⟨name, rest⟩ hread
  have hdeclares := declaration?_eq_some_iff.mp hread
  generalize hs : c :: s = u at hdeclares
  obtain ⟨hkeyword, -, -, -, -, -⟩ := hdeclares
  next keyword blanks =>
  have hlower := keyword_isAsciiLower keyword hkeyword
  cases keyword with
  | nil => cases hlower
  | cons d keyword =>
    obtain ⟨rfl, -⟩ := List.cons.inj hs
    exact absurd hlower (by simp [h])

/-- No declaration starts inside a word. -/
theorem declarationsFrom_word (hw : ∀ c ∈ w, c.isWord = true) (place : Nat) (t : Text) :
    declarationsFrom place true (w ++ t) = declarationsFrom (place + w.length) true t := by
  induction w generalizing place with
  | nil => rfl
  | cons c w ih =>
    rw [List.forall_mem_cons] at hw
    rw [List.cons_append, declarationsFrom, hw.1, ih hw.2, List.length_cons, Nat.add_right_comm]
    rfl

/-- No declaration starts with white space. -/
theorem declarationsFrom_blanks (hne : w ≠ []) (hw : ∀ c ∈ w, c.isBlank = true) (place : Nat)
    (inWord : Bool) (t : Text) :
    declarationsFrom place inWord (w ++ t) = declarationsFrom (place + w.length) false t := by
  induction w generalizing place inWord with
  | nil => exact absurd rfl hne
  | cons c w ih =>
    rw [List.forall_mem_cons] at hw
    have hword := Markup.isWord_of_isBlank hw.1
    have hnone : (if inWord then none else declaration? (c :: (w ++ t))) = none := by
      split
      · rfl
      · exact declaration?_eq_none (isAsciiLower_of_not_isWord hword)
    rw [List.cons_append, declarationsFrom, hnone, hword]
    cases w with
    | nil => rfl
    | cons d w =>
      rw [ih (by simp) hw.2, List.length_cons (a := c), Nat.add_right_comm]
      rfl

theorem length_lt_of_declares (h : Declares name rest s) : rest.length < s.length := by
  obtain ⟨-, hne, -, -, -, -⟩ := h
  have := List.length_pos_of_ne_nil hne
  simp only [List.length_append]
  omega

/-- No declaration starts inside another one. -/
theorem declarationsFrom_declares (h : Declares name rest s) (place : Nat) :
    declarationsFrom place false s =
      (place, name) :: declarationsFrom (place + (s.length - rest.length)) true rest := by
  have hread := declaration?_eq_some_iff.mpr h
  obtain ⟨hkeyword, hne, hblanks, hcapital, hparts, -⟩ := h
  next keyword blanks =>
  have hword := keyword_isWord keyword hkeyword
  cases keyword with
  | nil => exact absurd hkeyword (by decide)
  | cons k keyword =>
  cases name with
  | nil => cases hcapital
  | cons n name =>
  rw [List.forall_mem_cons] at hword hparts
  have hcapital : declaration? (n :: (name ++ rest)) = none :=
    declaration?_eq_none (isAsciiLower_of_isAsciiUpper hcapital)
  have hlength : place + 1 + keyword.length + blanks.length + 1 + name.length =
      place + ((k :: keyword ++ (blanks ++ (n :: name ++ rest))).length - rest.length) := by
    simp only [List.length_append, List.length_cons]
    omega
  rw [← hlength]
  calc declarationsFrom place false (k :: keyword ++ (blanks ++ (n :: name ++ rest)))
      = (place, n :: name) ::
          declarationsFrom (place + 1) true (keyword ++ (blanks ++ (n :: name ++ rest))) := by
        rw [List.cons_append, declarationsFrom, ← List.cons_append, hread, hword.1]
        rfl
    _ = (place, n :: name) :: declarationsFrom (place + 1 + keyword.length + blanks.length) false
          (n :: (name ++ rest)) := by
        rw [declarationsFrom_word hword.2, declarationsFrom_blanks hne hblanks, List.cons_append]
    _ = _ := by
        rw [declarationsFrom, hcapital, isWord_of_isNamePart hparts.1,
          declarationsFrom_word fun c hc => isWord_of_isNamePart (hparts.2 c hc)]
        rfl

/-- A search that goes on behind each declaration finds what a search in all places finds. -/
theorem map_declarationsFrom (place : Nat) (inWord : Bool) (s : Text) :
    (declarationsFrom place inWord s).map Prod.snd = declaredNamesFrom inWord s := by
  fun_induction declaredNamesFrom inWord s generalizing place with
  | case1 => rfl
  | case2 inWord c s hnone ih =>
    rw [dite_eq_ite] at hnone
    rw [declarationsFrom, hnone, ← ih (place + 1)]
    rfl
  | case3 inWord c s name rest hread _ ih =>
    cases inWord with
    | true => cases hread
    | false =>
      rw [declarationsFrom_declares (declaration?_eq_some_iff.mp hread), List.map_cons, ih]
  | case4 inWord c s name rest hread hlength _ =>
    cases inWord with
    | true => cases hread
    | false => exact absurd (length_lt_of_declares (declaration?_eq_some_iff.mp hread)) hlength

theorem mem_declarationsFrom {d : Nat × Text} :
    d ∈ declarationsFrom place inWord s ↔ ∃ front text rest, s = front ++ text ∧
      d.1 = place + front.length ∧ (front.getLast?.map isWord).getD inWord = false ∧
      Declares d.2 rest text := by
  induction s generalizing place inWord with
  | nil =>
    refine iff_of_false List.not_mem_nil ?_
    rintro ⟨front, text, rest, hs, -, -, hdeclares⟩
    rw [(List.append_eq_nil_iff.mp hs.symm).2] at hdeclares
    exact absurd (length_lt_of_declares hdeclares) (Nat.not_lt_zero _)
  | cons c s ih =>
    have hhere : d ∈ ((if inWord then none else declaration? (c :: s)).map
        fun e => (place, e.1)).toList ↔
        d.1 = place ∧ inWord = false ∧ ∃ rest, Declares d.2 rest (c :: s) := by
      simp only [Option.mem_toList, Option.map_eq_some_iff, ← declaration?_eq_some_iff]
      cases inWord <;> simp [Prod.ext_iff, and_comm, eq_comm]
    rw [declarationsFrom, List.mem_append, hhere, ih]
    constructor
    · rintro (⟨hplace, hword, rest, hdeclares⟩ | ⟨front, text, rest, rfl, hplace, hword, hdeclares⟩)
      · exact ⟨[], c :: s, rest, rfl, hplace, hword, hdeclares⟩
      · refine ⟨c :: front, text, rest, rfl, ?_, ?_, hdeclares⟩
        · rw [hplace, List.length_cons]
          omega
        · rw [List.getLast?_cons]
          cases hlast : front.getLast? <;> simpa [hlast] using hword
    · rintro ⟨front, text, rest, hs, hplace, hword, hdeclares⟩
      cases front with
      | nil => exact .inl ⟨hplace, hword, rest, hs ▸ hdeclares⟩
      | cons d front =>
        obtain ⟨rfl, rfl⟩ := List.cons.inj hs
        refine .inr ⟨front, text, rest, rfl, ?_, ?_, hdeclares⟩
        · rw [hplace, List.length_cons]
          omega
        · rw [List.getLast?_cons] at hword
          cases hlast : front.getLast? <;> simpa [hlast] using hword

theorem mem_declarationsFrom_zero :
    (place, name) ∈ declarationsFrom 0 false s ↔ DeclaredAt s place name := by
  have hboundary (front : Text) : (front.getLast?.map isWord).getD false = false ↔
      ∀ c, front.getLast? = some c → c.isWord = false := by
    cases front.getLast? <;> simp
  rw [mem_declarationsFrom]
  simp only [Nat.zero_add, hboundary]
  constructor
  · rintro ⟨front, text, rest, hs, hplace, hboundary, hdeclares⟩
    exact ⟨hs, hplace, hboundary, hdeclares⟩
  · rintro ⟨hs, hplace, hboundary, hdeclares⟩
    exact ⟨_, _, _, hs, hplace, hboundary, hdeclares⟩

theorem pairwise_declarationsFrom (place : Nat) (inWord : Bool) (s : Text) :
    (declarationsFrom place inWord s).Pairwise fun d e => d.1 < e.1 := by
  induction s generalizing place inWord with
  | nil => exact List.Pairwise.nil
  | cons c s ih =>
    rw [declarationsFrom, List.pairwise_append]
    refine ⟨by cases Option.map _ _ <;> simp, ih _ _, fun d hd e he => ?_⟩
    obtain ⟨-, -, rfl⟩ := Option.map_eq_some_iff.mp (Option.mem_toList.mp hd)
    obtain ⟨front, -, -, -, hplace, -⟩ := mem_declarationsFrom.mp he
    show place < e.1
    omega

end Scanning

section Summaries

variable {files : FileSet} {path : Text}

/-- The first of two places comes first: by the path of its file, then in the file. -/
def Earlier (a b : Text × Nat) : Prop := a.1 < b.1 ∨ a.1 = b.1 ∧ a.2 < b.2

/-- The names that the sources declare with their places, file by file in the order of paths. -/
def declarations (files : FileSet) : List ((Text × Nat) × Text) :=
  (files.sortedPaths.filter fun p => (FileKind.ofPath p).isSource).flatMap fun path =>
    (declarationsFrom 0 false (files.content path)).map fun d => ((path, d.1), d.2)

theorem isSource_eq_true_iff (kind : FileKind) :
    kind.isSource = true ↔ kind ∈ [.script, .component, .markup] := by
  cases kind <;> simp [FileKind.isSource]

theorem mem_declarations :
    ((path, place), name) ∈ declarations files ↔ DeclaredIn files path place name := by
  simp only [declarations, List.mem_flatMap, List.mem_filter, FileSet.mem_sortedPaths,
    isSource_eq_true_iff, List.mem_map, Prod.mk.injEq, Prod.exists]
  constructor
  · rintro ⟨path, ⟨hmem, hkind⟩, place, name, hdeclared, ⟨rfl, rfl⟩, rfl⟩
    exact ⟨hmem, hkind, mem_declarationsFrom_zero.mp hdeclared⟩
  · rintro ⟨hmem, hkind, hdeclared⟩
    exact ⟨path, ⟨hmem, hkind⟩, place, name, mem_declarationsFrom_zero.mpr hdeclared, ⟨rfl, rfl⟩,
      rfl⟩

theorem pairwise_sortedPaths (files : FileSet) : files.sortedPaths.Pairwise (· < ·) := by
  have hne : files.sortedPaths.Nodup := (sort_perm files.paths).nodup_iff.mpr files.nodup
  refine ((pairwise_sort files.paths).and hne).imp fun {p q} h => ?_
  exact (List.le_iff_lt_or_eq.mp h.1).resolve_right h.2

theorem pairwise_declarations (files : FileSet) :
    (declarations files).Pairwise fun d e => Earlier d.1 e.1 := by
  rw [declarations, List.flatMap, List.pairwise_flatten, List.pairwise_map]
  constructor
  · simp only [List.mem_map, forall_exists_index, and_imp, forall_apply_eq_imp_iff₂]
    intro path _
    rw [List.pairwise_map]
    exact (pairwise_declarationsFrom 0 false _).imp fun h => .inr ⟨rfl, h⟩
  · refine ((pairwise_sortedPaths files).filter _).imp fun {p q} hlt d hd e he => ?_
    obtain ⟨-, -, rfl⟩ := List.mem_map.mp hd
    obtain ⟨-, -, rfl⟩ := List.mem_map.mp he
    exact .inl hlt

theorem components_eq (files : FileSet) :
    files.summary.components = distinct ((declarations files).map Prod.snd) := by
  have hnames (source : Text) :
      componentNames source = distinct ((declarationsFrom 0 false source).map Prod.snd) := by
    rw [componentNames, map_declarationsFrom]
  show distinct (((files.sortedPaths.filter fun p => (FileKind.ofPath p).isSource).map
    files.content).flatMap componentNames) = _
  simp only [List.flatMap_map, hnames, distinct_flatMap_distinct, declarations, List.map_flatMap,
    List.map_map, Function.comp_def]

/-- The components of a summary are the names that the sources of the project declare anywhere, each
once. A name is declared somewhere before each place where a name behind it is declared. -/
theorem components_exact (files : FileSet) :
    files.summary.components.Nodup ∧
      (∀ name, name ∈ files.summary.components ↔ ∃ path place, DeclaredIn files path place name) ∧
      files.summary.components.Pairwise fun first second =>
        ∀ path place, DeclaredIn files path place second →
          ∃ path' place', DeclaredIn files path' place' first ∧
            Earlier (path', place') (path, place) := by
  rw [components_eq]
  refine ⟨nodup_distinct _, fun name => ?_, (pairwise_distinct _).imp ?_⟩
  · rw [mem_distinct, List.mem_map]
    constructor
    · rintro ⟨⟨⟨path, place⟩, name⟩, hmem, rfl⟩
      exact ⟨path, place, mem_declarations.mp hmem⟩
    · rintro ⟨path, place, hdeclared⟩
      exact ⟨_, mem_declarations.mpr hdeclared, rfl⟩
  · intro first second hfirst path place hdeclared
    obtain ⟨front, back, hsplit⟩ := List.append_of_mem (mem_declarations.mpr hdeclared)
    have hnames : (declarations files).map Prod.snd =
        front.map Prod.snd ++ second :: back.map Prod.snd := by
      rw [hsplit, List.map_append, List.map_cons]
    obtain ⟨⟨⟨path', place'⟩, name⟩, hmem, rfl⟩ := List.mem_map.mp (hfirst _ _ hnames)
    have hsorted := pairwise_declarations files
    rw [hsplit, List.pairwise_append] at hsorted
    refine ⟨path', place', mem_declarations.mp ?_, hsorted.2.2 _ hmem _ List.mem_cons_self⟩
    rw [hsplit]
    exact List.mem_append_left _ hmem

example : (FileSet.ofList [("a.js", "let\n Nav, B; superclass Top; class A_1é")]).summary.components =
    [("Nav" : Text), "A_1"] := by
  decide +kernel

end Summaries

end SitePreview
