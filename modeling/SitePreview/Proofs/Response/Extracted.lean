import SitePreview.Proofs.Project.Storable
import SitePreview.Proofs.Response.Writing
import SitePreview.Proofs.Source.Suffix

/-! What a response of any form gives. Every file has a path of one line and a code without a fence
mark, both without white space at their ends, and a snapshot takes the files if the response holds
neither NUL nor a surrogate. Only a code block that names its file itself can give an empty code: it
holds nothing else. -/

namespace SitePreview

/-- A snapshot takes files that follow the rules, as they are. -/
theorem Snapshot.ofOptional_ofFiles {files : FileSet} (h : files.Legal) :
    Snapshot.ofOptional (.ofFiles files) = .ok files := by
  have hall (es : List (Text × Text)) :
      Checked.all (es.map fun e => Checked.entry (.string e.1) (.string e.2)) = .ok es := by
    induction es with
    | nil => rfl
    | cons e es ih =>
      rw [List.map_cons, Checked.all, ih]
      rfl
  have hmapping : Snapshot.ofMapping (.ofFiles files) = .ok files := by
    rw [Snapshot.ofMapping, RawMapping.ofFiles, Checked.fileSet, List.map_map]
    simp only [Function.comp_def, hall, Checked.map, Checked.inside, FileSet.ofList_entries]
    exact FileSet.checkFiles_eq_ok_iff.mpr h
  show Snapshot.ofValue (.ofFiles files) = .ok files
  have hread : Snapshot.mappingOf (.ofFiles files) = .ok (.ofFiles files) := rfl
  simp only [Snapshot.ofValue, hread, hmapping, bind, Except.bind, pure, Except.pure]

namespace Response

open Text CodePoint

variable {α : Type} {recognise : Text → Option (α × Text)} {a : α}
  {response s t line below body rest path code : Text}

theorem exists_of_mem_findAll
    (hrest : ∀ s a rest, recognise s = some (a, rest) → rest <:+ s)
    (h : a ∈ findAll recognise s) : ∃ y rest, y <:+ s ∧ recognise y = some (a, rest) := by
  fun_induction findAll recognise s with
  | case1 => cases h
  | case2 c s hnone ih =>
    obtain ⟨y, rest, hy, hfound⟩ := ih h
    exact ⟨y, rest, hy.trans (List.suffix_cons c s), hfound⟩
  | case3 c s b rest hb hlt ih =>
    rcases List.mem_cons.mp h with rfl | h
    · exact ⟨c :: s, rest, List.suffix_rfl, hb⟩
    · obtain ⟨y, rest', hy, hfound⟩ := ih h
      exact ⟨y, rest', hy.trans (hrest _ _ _ hb), hfound⟩
  | case4 c s b rest hb hlt ih =>
    obtain ⟨y, rest', hy, hfound⟩ := ih h
    exact ⟨y, rest', hy.trans (List.suffix_cons c s), hfound⟩

/-- A code block holds no fence mark, and lies in the text with what follows it. -/
theorem codeBlock?_eq_some (h : codeBlock? s = some (body, rest)) :
    ¬fenceMark <:+: body ∧ body <:+: s ∧ rest <:+ s := by
  simp only [codeBlock?, Option.bind_eq_bind, Option.bind_eq_some_iff] at h
  obtain ⟨opened, hopened, inside, hinside, hbody⟩ := h
  obtain ⟨rfl, hunfenced⟩ := untilFence?_eq_some hbody
  have hsuffix : body ++ (fenceMark ++ rest) <:+ s :=
    ((after?_suffix hinside).trans (skipInline_suffix _)).trans
      ((List.dropWhile_suffix _).trans (after?_suffix hopened))
  have hrest : rest <:+ body ++ (fenceMark ++ rest) :=
    (List.suffix_append _ _).trans (List.suffix_append _ _)
  have hinside : body <:+: s := (List.prefix_append _ _).isInfix.trans hsuffix.isInfix
  exact ⟨hunfenced, hinside, hrest.trans hsuffix⟩

theorem line?_eq_some (h : line? s = some (line, below)) :
    s = line ++ ofChar '\n' :: below ∧ ofChar '\n' ∉ line := by
  simp only [line?, Option.bind_eq_bind, Option.bind_eq_some_iff] at h
  obtain ⟨rest, hrest, heq⟩ := h
  obtain ⟨rfl, rfl⟩ := Prod.mk.inj (Option.some.inj heq)
  refine ⟨?_, fun hmem => by simpa using List.mem_takeWhile_imp hmem⟩
  rw [← List.singleton_append]
  show s = _ ++ (("\n" : Text) ++ rest)
  rw [← eq_append_of_after? hrest, List.takeWhile_append_dropWhile]

/-! ### Paths in marker lines -/

theorem named?_suffix {mark : Text} (h : named? mark s = some t) : t <:+ s := by
  simp only [named?, Option.bind_eq_bind, Option.bind_eq_some_iff] at h
  obtain ⟨u, hu, ht⟩ := h
  exact (after?_suffix ht).trans ((skipInline_suffix u).trans (after?_suffix hu))

theorem commentPath?_isInfix (h : commentPath? line = some path) : path <:+: line := by
  simp only [commentPath?, Option.bind_eq_bind, Option.bind_eq_some_iff,
    Option.ite_none_left_eq_some, Option.some.injEq] at h
  obtain ⟨u, hu, -, rfl⟩ := h
  exact (named?_suffix hu).isInfix

theorem markupPath?_isInfix (h : markupPath? line = some path) : path <:+: line := by
  simp only [markupPath?, Option.bind_eq_bind, Option.bind_eq_some_iff,
    Option.ite_none_right_eq_some, Option.some.injEq] at h
  obtain ⟨u, hu, -, rfl⟩ := h
  have hbehind : dropRightWhile isInlineBlank u <:+: line :=
    (dropRightWhile_isPrefix _ u).isInfix.trans (named?_suffix hu).isInfix
  exact (List.take_prefix _ _).isInfix.trans hbehind

theorem boldPath?_isInfix (h : boldPath? line = some path) : path <:+: line := by
  simp only [boldPath?, Option.bind_eq_bind, Option.bind_eq_some_iff,
    Option.ite_none_right_eq_some, Option.some.injEq] at h
  obtain ⟨u, hu, -, -, -, rfl⟩ := h
  have hbehind : dropPrefix "\x60" u <:+: line :=
    ((dropPrefix_suffix _ u).trans (after?_suffix hu)).isInfix
  exact (List.takeWhile_prefix _).isInfix.trans hbehind

theorem pathBeforeTick?_isInfix (h : pathBeforeTick? s = some path) : path <:+: s := by
  have hrun : s.takeWhile (fun c : CodePoint => c ≠ '\x60') <:+: s :=
    (List.takeWhile_prefix _).isInfix
  rw [pathBeforeTick?] at h
  split at h
  · obtain rfl := Option.some.inj h
    exact (dropRightWhile_isPrefix _ _).isInfix.trans hrun
  · obtain ⟨-, h⟩ := Option.ite_none_right_eq_some.mp h
    obtain rfl := Option.some.inj h
    exact hrun

/-- A heading may lend its path a number sign. -/
theorem headingPath?_subset (h : headingPath? line = some path) :
    path ⊆ ofChar '#' :: line := by
  simp only [headingPath?] at h
  obtain ⟨-, h⟩ := Option.ite_none_left_eq_some.mp h
  generalize hsigns : min 6 (line.takeWhile fun c : CodePoint => c = '#').length = signs at h
  have hbehind : skipInline (line.drop signs) <:+: line :=
    ((skipInline_suffix _).trans (List.drop_suffix _ _)).isInfix
  have hlent {t : Text} (ht : t <:+: line) : t ⊆ ofChar '#' :: line :=
    fun c hc => List.mem_cons_of_mem _ (ht.subset hc)
  split at h
  · next inner hinner =>
    obtain ⟨hpath, -⟩ := Option.filter_eq_some_iff.mp h
    have hinner := (after?_suffix hinner).isInfix.trans hbehind
    exact hlent ((pathBeforeTick?_isInfix hpath).trans hinner)
  · obtain ⟨stem, hstem, h⟩ := Option.bind_eq_some_iff.mp h
    have hsub := hlent ((pathBeforeTick?_isInfix hstem).trans hbehind)
    split at h
    · obtain rfl := Option.some.inj h
      exact hsub
    split at h
    · obtain rfl := Option.some.inj h
      exact hsub
    split at h
    · obtain rfl := Option.some.inj h
      exact List.cons_subset.mpr ⟨by simp, hsub⟩
    · cases h

theorem markedPath?_subset (h : markedPath? line = some path) :
    path ⊆ ofChar '#' :: line := by
  have hlent (hpath : path <:+: line) : path ⊆ ofChar '#' :: line :=
    fun c hc => List.mem_cons_of_mem _ (hpath.subset hc)
  simp only [markedPath?, Option.orElse_eq_or, Option.or_eq_some_iff] at h
  rcases h with h | ⟨-, h | ⟨-, h | ⟨-, h⟩⟩⟩
  · exact hlent (commentPath?_isInfix h)
  · exact hlent (markupPath?_isInfix h)
  · exact hlent (boldPath?_isInfix h)
  · exact headingPath?_subset h

/-! ### Files -/

/-- What a response can give: a path of one line and a code without a fence mark. -/
structure IsFile (path code : Text) : Prop where
  path_ne_nil : path ≠ []
  path_strip : path.strip = path
  path_line : ofChar '\n' ∉ path
  code_strip : code.strip = code
  code_unfenced : ¬fenceMark <:+: code

theorem announcedFile?_eq_some (h : announcedFile? s = some ((path, code), rest)) :
    (path ≠ [] → IsFile path code) ∧ path ⊆ ofChar '#' :: s ∧ code ⊆ s ∧ rest <:+ s := by
  simp only [announcedFile?, Option.bind_eq_bind, Option.bind_eq_some_iff] at h
  obtain ⟨⟨line, below⟩, hline, marked, hmarked, ⟨body, rest'⟩, hbody, heq⟩ := h
  obtain ⟨hfile, rfl⟩ := Prod.mk.inj (Option.some.inj heq)
  obtain ⟨rfl, rfl⟩ := Prod.mk.inj hfile
  obtain ⟨rfl, hlineFeed⟩ := line?_eq_some hline
  obtain ⟨hunfenced, hinside, hrest⟩ := codeBlock?_eq_some hbody
  have hbelow : below <:+ line ++ ofChar '\n' :: below :=
    (List.suffix_cons _ _).trans (List.suffix_append _ _)
  have hpath : marked.strip ⊆ ofChar '#' :: line :=
    fun c hc => markedPath?_subset hmarked ((strip_isInfix marked).subset hc)
  refine ⟨fun hne => ⟨hne, strip_strip marked, fun hmem => ?_, strip_strip body, fun hfence => ?_⟩,
    fun c hc => ?_, fun c hc => ?_, hrest.trans hbelow⟩
  · rcases List.mem_cons.mp (hpath hmem) with hsign | hmem
    · exact absurd hsign (by decide)
    · exact hlineFeed hmem
  · exact hunfenced (hfence.trans (strip_isInfix body))
  · rcases List.mem_cons.mp (hpath hc) with hsign | hmem
    · exact hsign ▸ List.mem_cons_self
    · exact List.mem_cons_of_mem _ (List.mem_append_left _ hmem)
  · exact hbelow.subset (hinside.subset ((strip_isInfix body).subset hc))

theorem exists_dropPrefix_append {w : Text} (s : Text) :
    ∃ e, s = e ++ dropPrefix w s ∧ (e = [] ∨ e = w) := by
  rw [dropPrefix]
  cases h : after? w s with
  | none => exact ⟨[], rfl, .inl rfl⟩
  | some r => exact ⟨w, eq_append_of_after? h, .inr rfl⟩

theorem notAhead_skipBlanks (s : Text) : notAhead CodePoint.isBlank (skipBlanks s) = true := by
  have hhead := List.head?_dropWhile_not CodePoint.isBlank s
  cases hskip : skipBlanks s with
  | nil => rfl
  | cons c t =>
    have hdrop : s.dropWhile CodePoint.isBlank = c :: t := hskip
    rw [hdrop] at hhead
    simpa using hhead

/-- A line that starts with its path: the path, blanks, and what follows the line. -/
theorem exists_pathLine (h : notAhead CodePoint.isBlank s = true) :
    ∃ behind : Text,
      s = strip (s.takeWhile fun c => decide (c ≠ ofChar '\n')) ++
        (behind ++ dropPrefix "\n" (s.dropWhile fun c => decide (c ≠ ofChar '\n'))) ∧
      ∀ c ∈ behind, c.isBlank = true := by
  have hahead : notAhead CodePoint.isBlank
      (s.takeWhile fun c => decide (c ≠ ofChar '\n')) = true := by
    cases s with
    | nil => rfl
    | cons c s =>
      rw [List.takeWhile_cons]
      split
      · exact h
      · rfl
  obtain ⟨blank, hblank, hall⟩ := exists_strip_append hahead
  obtain ⟨ending, hending, hallEnding⟩ := exists_dropPrefix_append (w := "\n")
    (s.dropWhile fun c => decide (c ≠ ofChar '\n'))
  refine ⟨blank ++ ending, ?_, List.forall_mem_append.mpr ⟨hall, ?_⟩⟩
  · rw [List.append_assoc, ← hending, ← List.append_assoc, ← hblank,
      List.takeWhile_append_dropWhile]
  · rcases hallEnding with rfl | rfl <;> decide

/-- The text is a comment that names the path, with the line feed behind it, if there is one. -/
def IsComment (path comment : Text) : Prop :=
  ∃ front gap behind : Text,
    comment = "//" ++ (front ++ ("filename:" ++ (gap ++ (path ++ behind)))) ∧
    ∀ c ∈ front ++ (gap ++ behind), c.isBlank = true

theorem inlineMarker?_eq_some (h : inlineMarker? s = some (path, rest)) :
    path.strip = path ∧ ofChar '\n' ∉ path ∧
      ∃ comment, s = comment ++ rest ∧ IsComment path comment := by
  simp only [inlineMarker?, Option.bind_eq_bind, Option.bind_eq_some_iff] at h
  obtain ⟨t, ht, u, hu, h⟩ := h
  have hblank (v : Text) : ∀ c ∈ v.takeWhile CodePoint.isBlank, c.isBlank = true :=
    fun c hc => List.mem_takeWhile_imp hc
  have hs : s = "//" ++ (t.takeWhile CodePoint.isBlank ++ ("filename:" ++
      (u.takeWhile CodePoint.isBlank ++ skipBlanks u))) := by
    rw [skipBlanks, List.takeWhile_append_dropWhile, ← eq_append_of_after? hu, skipBlanks,
      List.takeWhile_append_dropWhile]
    exact eq_append_of_after? ht
  split at h
  · next hnil =>
    split at h
    · cases h
    obtain ⟨rfl, rfl⟩ := Prod.mk.inj (Option.some.inj h)
    rw [hnil, List.append_nil] at hs
    refine ⟨rfl, List.not_mem_nil, s, (List.append_nil s).symm, t.takeWhile CodePoint.isBlank,
      u.takeWhile CodePoint.isBlank, [], by rw [List.append_nil]; simpa using hs, ?_⟩
    simp only [List.append_nil, List.forall_mem_append]
    exact ⟨hblank t, hblank u⟩
  · next c v hcons =>
    obtain ⟨rfl, rfl⟩ := Prod.mk.inj (Option.some.inj h)
    have hlineFeed : ofChar '\n' ∉ (c :: v).takeWhile fun c => decide (c ≠ ofChar '\n') :=
      fun hmem => by simpa using List.mem_takeWhile_imp hmem
    obtain ⟨behind, hline, hbehind⟩ := exists_pathLine (hcons ▸ notAhead_skipBlanks u)
    refine ⟨strip_strip _, fun hmem => hlineFeed ((strip_isInfix _).subset hmem), _, ?_,
      t.takeWhile CodePoint.isBlank, u.takeWhile CodePoint.isBlank, behind, rfl, ?_⟩
    · rw [hcons] at hs
      refine hs.trans ?_
      conv_lhs => rw [hline]
      simp only [List.append_assoc]
    · simp only [List.forall_mem_append]
      exact ⟨hblank t, hblank u, hbehind⟩

/-- A comment that is taken away stands at the start of a line. -/
theorem takeInlineMarker?_eq_some {atLineStart : Bool}
    (h : takeInlineMarker? atLineStart s = some (path, rest)) :
    path.strip = path ∧ ofChar '\n' ∉ path ∧
      ∃ front comment back, s = front ++ (comment ++ back) ∧ rest = front ++ back ∧
        IsComment path comment ∧
        (front = [] ∧ atLineStart = true ∨ front.getLast? = some (ofChar '\n')) := by
  induction s generalizing atLineStart rest with
  | nil => cases h
  | cons c s ih =>
    rw [takeInlineMarker?] at h
    split at h
    · next found hfound =>
      obtain rfl := Option.some.inj h
      obtain ⟨hstart, hfound⟩ := Option.ite_none_right_eq_some.mp hfound
      obtain ⟨hstrip, hline, comment, hs, hcomment⟩ := inlineMarker?_eq_some hfound
      exact ⟨hstrip, hline, [], comment, rest, hs, rfl, hcomment, .inl ⟨rfl, hstart⟩⟩
    · obtain ⟨⟨path', rest'⟩, hfound, heq⟩ := Option.map_eq_some_iff.mp h
      obtain ⟨rfl, rfl⟩ := Prod.mk.inj heq
      obtain ⟨hstrip, hline, front, comment, back, rfl, rfl, hcomment, hfront⟩ := ih hfound
      refine ⟨hstrip, hline, c :: front, comment, back, rfl, rfl, hcomment, .inr ?_⟩
      rcases hfront with ⟨rfl, hc⟩ | hfront
      · rw [decide_eq_true_eq] at hc
        rw [hc]
        rfl
      · rw [List.getLast?_cons, hfront]
        rfl

/-- No fence mark arises where whole lines are taken away. -/
theorem unfenced_of_lines {front back : Text}
    (hfront : front = [] ∨ front.getLast? = some (ofChar '\n')) (hunfront : ¬fenceMark <:+: front)
    (hunback : ¬fenceMark <:+: back) : ¬fenceMark <:+: front ++ back := by
  intro h
  induction front with
  | nil => exact hunback h
  | cons c front ih =>
    have hlast := hfront.resolve_left (List.cons_ne_nil c front)
    rcases List.infix_cons_iff.mp h with hprefix | hinfix
    · exact not_prefix_of_lines hlast hunfront back hprefix
    · refine ih ?_ (fun hfence => hunfront (List.infix_cons hfence)) hinfix
      cases front with
      | nil => exact .inl rfl
      | cons d front => exact .inr (by simpa using hlast)

/-- The code block holds a comment that names the path, and blanks. -/
def HoldsOnlyComment (path body : Text) : Prop :=
  ∃ front comment back : Text, body = front ++ (comment ++ back) ∧ IsComment path comment ∧
    ∀ c ∈ front ++ back, c.isBlank = true

theorem takeInlineMarker?_isFile {body : Text} (hbody : ¬fenceMark <:+: body) (hne : path ≠ [])
    (h : takeInlineMarker? true body = some (path, rest)) :
    IsFile path rest.strip ∧ path ⊆ body ∧ rest ⊆ body ∧
      (rest.strip = [] → HoldsOnlyComment path body) := by
  obtain ⟨hstrip, hline, front, comment, back, rfl, rfl, hcomment, hfront⟩ :=
    takeInlineMarker?_eq_some h
  have hback : back <:+ front ++ (comment ++ back) :=
    (List.suffix_append _ _).trans (List.suffix_append _ _)
  have hunfront : ¬fenceMark <:+: front :=
    fun hfence => hbody (hfence.trans (List.prefix_append _ _).isInfix)
  have hunback : ¬fenceMark <:+: back := fun hfence => hbody (hfence.trans hback.isInfix)
  have hunfenced := unfenced_of_lines (hfront.imp_left And.left) hunfront hunback
  refine ⟨⟨hne, hstrip, hline, strip_strip _, fun hfence => ?_⟩, fun c hc => ?_, fun c hc => ?_,
    fun hnil => ⟨front, comment, back, rfl, hcomment, strip_eq_nil_iff.mp hnil⟩⟩
  · exact hunfenced (hfence.trans (strip_isInfix _))
  · obtain ⟨before, gap, behind, rfl, -⟩ := hcomment
    simp [hc]
  · rcases List.mem_append.mp hc with hc | hc
    · exact List.mem_append_left _ hc
    · exact hback.subset hc

theorem exists_announced {f : Text × Text} (h : f ∈ (announcedFiles response).entries) :
    f.2 ≠ [] ∧ IsFile f.1 f.2 ∧ f.1 ⊆ ofChar '#' :: response ∧ f.2 ⊆ response := by
  obtain ⟨path, code⟩ := f
  obtain ⟨hmem, hne⟩ := List.mem_filter.mp (FileSet.mem_of_mem_ofList h)
  simp only [Bool.and_eq_true, decide_eq_true_eq] at hne
  obtain ⟨y, rest, hy, hfound⟩ :=
    exists_of_mem_findAll (fun _ _ _ h => (announcedFile?_eq_some h).2.2.2) hmem
  obtain ⟨hfile, hpath, hcode, -⟩ := announcedFile?_eq_some hfound
  refine ⟨hne.2, hfile hne.1, fun c hc => ?_, fun c hc => hy.subset (hcode hc)⟩
  rcases List.mem_cons.mp (hpath hc) with hsign | hmem
  · exact hsign ▸ List.mem_cons_self
  · exact List.mem_cons_of_mem _ (hy.subset hmem)

theorem exists_selfNamed {f : Text × Text} (h : f ∈ (selfNamedFiles response).entries) :
    IsFile f.1 f.2 ∧ f.1 ⊆ response ∧ f.2 ⊆ response ∧
      (f.2 = [] → ∃ body ∈ findAll codeBlock? response, HoldsOnlyComment f.1 body) := by
  obtain ⟨body, hmem, hnamed⟩ := List.mem_filterMap.mp (FileSet.mem_of_mem_ofList h)
  obtain ⟨y, behind, hy, hfound⟩ :=
    exists_of_mem_findAll (fun _ _ _ h => (codeBlock?_eq_some h).2.2) hmem
  obtain ⟨hunfenced, hbody, -⟩ := codeBlock?_eq_some hfound
  have hinside : body ⊆ response := fun c hc => hy.subset (hbody.subset hc)
  split at hnamed
  · next path rest hmarker =>
    obtain ⟨hne, heq⟩ := Option.ite_none_left_eq_some.mp hnamed
    obtain rfl := Option.some.inj heq
    obtain ⟨hfile, hpath, hrest, hblank⟩ := takeInlineMarker?_isFile hunfenced hne hmarker
    exact ⟨hfile, fun c hc => hinside (hpath hc),
      fun c hc => hinside (hrest ((strip_isInfix rest).subset hc)),
      fun hnil => ⟨body, hmem, hblank hnil⟩⟩
  · cases hnamed

/-- Every file in a response has a path and a code of the right form. The code is empty only where
no file is announced and a code block holds nothing but the comment that names the file. -/
theorem files_real (response : Text) :
    (∀ f ∈ (files response).entries, IsFile f.1 f.2 ∧
      (f.2 = [] → announcedFiles response = .empty ∧
        ∃ body ∈ findAll codeBlock? response, HoldsOnlyComment f.1 body)) ∧
    ((∀ c ∈ response, c ≠ ofChar '\x00' ∧ c.isSurrogate = false) →
      Snapshot.ofOptional (.ofFiles (files response)) = .ok (files response)) := by
  have hentries : ∀ f ∈ (files response).entries, IsFile f.1 f.2 ∧
      f.1 ⊆ ofChar '#' :: response ∧ f.2 ⊆ response ∧
      (f.2 = [] → announcedFiles response = .empty ∧
        ∃ body ∈ findAll codeBlock? response, HoldsOnlyComment f.1 body) := by
    intro f hf
    rw [files] at hf
    split at hf
    · next hsize =>
      obtain ⟨hfile, hpath, hcode, hblank⟩ := exists_selfNamed hf
      exact ⟨hfile, fun c hc => List.mem_cons_of_mem _ (hpath hc), hcode,
        fun hnil => ⟨FileSet.eq_empty_of_size hsize, hblank hnil⟩⟩
    · obtain ⟨hne, hfile, hpath, hcode⟩ := exists_announced hf
      exact ⟨hfile, hpath, hcode, fun hnil => absurd hnil hne⟩
  refine ⟨fun f hf => ⟨(hentries f hf).1, (hentries f hf).2.2.2⟩, fun hplain => ?_⟩
  refine Snapshot.ofOptional_ofFiles (FileSet.legal_iff.mpr fun f hf => ?_)
  obtain ⟨hfile, hpath, hcode, -⟩ := hentries f hf
  have hplainPath : ∀ c ∈ f.1, c ≠ ofChar '\x00' ∧ c.isSurrogate = false := by
    intro c hc
    rcases List.mem_cons.mp (hpath hc) with rfl | hmem
    · decide
    · exact hplain c hmem
  have hblank : f.1.isBlank = false := by
    rw [Text.isBlank, List.all_eq_false]
    by_contra hall
    refine hfile.path_ne_nil (hfile.path_strip ▸ strip_eq_nil_iff.mpr fun c hc => ?_)
    by_contra hc'
    exact hall ⟨c, hc, hc'⟩
  have hnul : ofChar '\x00' ∉ f.1 := fun hmem => (hplainPath _ hmem).1 rfl
  have hutf8 : f.1.isUtf8 = true := List.all_eq_true.mpr fun c hc => by simp [(hplainPath c hc).2]
  have hutf8' : f.2.isUtf8 = true :=
    List.all_eq_true.mpr fun c hc => by simp [(hplain c (hcode hc)).2]
  simp [entryError?, hblank, hnul, hutf8, hutf8']

/-- A response with a block that names its file itself. -/
def selfNamedResponse : Text := "See below.\n\x60\x60\x60js\n// filename: a.js\nf()\n\x60\x60\x60"

theorem files_real_selfNamedResponse :
    (files selfNamedResponse).entries = [(("a.js" : Text), ("f()" : Text))] ∧
      IsFile "a.js" "f()" ∧
      (∀ c ∈ selfNamedResponse, c ≠ ofChar '\x00' ∧ c.isSurrogate = false) ∧
      Snapshot.ofOptional (.ofFiles (files selfNamedResponse)) = .ok (files selfNamedResponse) := by
  have hentries : (files selfNamedResponse).entries = [(("a.js" : Text), ("f()" : Text))] := by
    decide +kernel
  have hplain : ∀ c ∈ selfNamedResponse, c ≠ ofChar '\x00' ∧ c.isSurrogate = false := by
    decide +kernel
  obtain ⟨hreal, haccepted⟩ := files_real selfNamedResponse
  exact ⟨hentries, (hreal _ (hentries ▸ List.mem_cons_self)).1, hplain, haccepted hplain⟩

/-- A code block that holds nothing but its comment gives a file without code. -/
theorem files_hollowBlock :
    (files "\x60\x60\x60\n// filename: a.js\n\x60\x60\x60").entries = [(("a.js" : Text), [])] := by
  decide +kernel

end Response

end SitePreview
