import SitePreview.Proofs.Console.PlainText
import SitePreview.Proofs.Text.Parts
import Mathlib.Data.List.Forall2

/-! Rows of tables that have room: where a table may be as wide as its content, each cell takes one
line, which holds the text of the cell as it is, between blanks. -/

-- The zero of sums is that of the core library, beside Mathlib too.
attribute [local instance (2000)] Zero.ofOfNat0

namespace SitePreview

namespace CodePoint

/-- The code point takes one column, whatever is around it. -/
structure IsNarrow (c : CodePoint) : Prop where
  columns : c.columns = 1
  ne_joiner : c ≠ joiner
  ne_selector : c ≠ emojiSelector
  not_widened : c.isWidened = false

instance (c : CodePoint) : Decidable c.IsNarrow :=
  decidable_of_iff (c.columns = 1 ∧ c ≠ joiner ∧ c ≠ emojiSelector ∧ c.isWidened = false)
    ⟨fun h => ⟨h.1, h.2.1, h.2.2.1, h.2.2.2⟩,
      fun h => ⟨h.columns, h.ne_joiner, h.ne_selector, h.not_widened⟩⟩

end CodePoint

namespace Text

open CodePoint

variable {c : CodePoint} {last : Option CodePoint} {s t : Text}

/-- The code point that a selector behind the text belongs to. -/
def lastAfter (last : Option CodePoint) : Text → Option CodePoint
  | [] => last
  | c :: t =>
    if c = emojiSelector then lastAfter none t
    else if c.columns = 0 then lastAfter last t
    else lastAfter (some c) t

theorem columnsAfter_append (h : joiner ∉ s) (last : Option CodePoint) (t : Text) :
    columnsAfter last (s ++ t) = columnsAfter last s + columnsAfter (lastAfter last s) t := by
  induction s generalizing last with
  | nil => rw [List.nil_append, columnsAfter, lastAfter, Nat.zero_add]
  | cons c s ih =>
    rw [List.mem_cons, not_or] at h
    rw [List.cons_append, columnsAfter.eq_def, columnsAfter.eq_def last (c :: s), lastAfter]
    simp only [if_neg (Ne.symm h.1), ih h.2]
    split
    · omega
    · split
      · rfl
      · omega

/-- A selector takes no column where there is nothing that it could widen. -/
theorem columns_le_columnsAfter (h : joiner ∉ t) (last : Option CodePoint) :
    t.columns ≤ columnsAfter last t := by
  rw [columns]
  -- behind the first code point that takes columns, `last` is the same on both sides
  induction t generalizing last with
  | nil => exact Nat.le_refl _
  | cons c t ih =>
    rw [List.mem_cons, not_or] at h
    rw [columnsAfter.eq_def, columnsAfter.eq_def last]
    simp only [if_neg (Ne.symm h.1)]
    split
    · simp
    · split
      · exact ih h.2 last
      · exact Nat.le_refl _

theorem columnsAfter_of_not_widened (h : joiner ∉ t) (hlast : last.any isWidened = false) :
    columnsAfter last t = t.columns := by
  rw [columns]
  induction t with
  | nil => rfl
  | cons c t ih =>
    rw [List.mem_cons, not_or] at h
    rw [columnsAfter.eq_def, columnsAfter.eq_def none]
    simp only [if_neg (Ne.symm h.1), hlast, ih h.2, Option.any_none]

theorem columns_add_le (hs : joiner ∉ s) (ht : joiner ∉ t) :
    s.columns + t.columns ≤ (s ++ t).columns := by
  have happend : (s ++ t).columns = s.columns + columnsAfter (lastAfter none s) t :=
    columnsAfter_append hs none t
  rw [happend]
  exact Nat.add_le_add_left (columns_le_columnsAfter ht _) _

theorem columns_append_cons (hs : joiner ∉ s) (hc : c.IsNarrow) (ht : joiner ∉ t) :
    (s ++ c :: t).columns = s.columns + (1 + t.columns) := by
  have happend : (s ++ c :: t).columns = s.columns + columnsAfter (lastAfter none s) (c :: t) :=
    columnsAfter_append hs none (c :: t)
  have hnarrow : (some c).any isWidened = false := hc.not_widened
  rw [happend, columnsAfter.eq_def]
  simp only [if_neg hc.ne_joiner, if_neg hc.ne_selector, hc.columns, Nat.one_ne_zero, if_false,
    columnsAfter_of_not_widened ht hnarrow]

/-- A narrow code point in front takes one column. -/
theorem columns_cons (hc : c.IsNarrow) (ht : joiner ∉ t) : columns (c :: t) = 1 + t.columns := by
  have hcons := columns_append_cons List.not_mem_nil hc ht
  rw [List.nil_append] at hcons
  refine hcons.trans ?_
  show 0 + (1 + t.columns) = _
  rw [Nat.zero_add]

theorem not_mem_replicate (hc : c.IsNarrow) (n : Nat) : joiner ∉ List.replicate n c :=
  fun h => hc.ne_joiner (List.eq_of_mem_replicate h).symm

theorem columns_replicate_append (hc : c.IsNarrow) (ht : joiner ∉ t) (n : Nat) :
    columns (List.replicate n c ++ t) = n + t.columns := by
  induction n with
  | zero => rw [List.replicate_zero, List.nil_append, Nat.zero_add]
  | succ n ih =>
    have hrest : joiner ∉ List.replicate n c ++ t := by
      rw [List.mem_append, not_or]
      exact ⟨not_mem_replicate hc n, ht⟩
    rw [List.replicate_succ, List.cons_append, columns_cons hc hrest, ih]
    omega

theorem columns_replicate (hc : c.IsNarrow) (n : Nat) : columns (List.replicate n c) = n := by
  have happend := columns_replicate_append hc List.not_mem_nil n
  rwa [List.append_nil] at happend

theorem columns_append_replicate (hs : joiner ∉ s) (hc : c.IsNarrow) (n : Nat) :
    (s ++ List.replicate n c).columns = s.columns + n := by
  cases n with
  | zero => rw [List.replicate_zero, List.append_nil, Nat.add_zero]
  | succ n =>
    rw [List.replicate_succ, columns_append_cons hs hc (not_mem_replicate hc n),
      columns_replicate hc, Nat.add_comm 1]

theorem isNarrow_blank : (ofChar ' ').IsNarrow := by decide +kernel

end Text

namespace Console

open Text CodePoint

variable {s t : Text} {width : Nat}

/-- A padded text fills its width. -/
theorem columns_padTo (h : joiner ∉ t) (hfits : t.columns ≤ width) :
    (padTo width t).columns = width := by
  rw [padTo, blanks, columns_append_replicate h isNarrow_blank]
  omega

theorem padTo_eq_self (h : t.columns = width) : padTo width t = t := by
  rw [padTo, h, Nat.sub_self]
  exact List.append_nil t

theorem setColumns_eq_padTo (hwidth : width ≠ 0) (hfits : t.columns ≤ width) :
    setColumns width t = padTo width t := by
  rw [setColumns, if_neg hwidth, if_pos hfits]

theorem truncate_eq_self {overflow : Overflow} (h : t.columns ≤ width) :
    truncate overflow width t = t := if_pos h

/-! ### Texts of one line -/

theorem wordAt?_eq_some {word rest : Text} (h : wordAt? t = some (word, rest)) :
    t = word ++ rest := by
  have hcut (p : CodePoint → Bool) (u : Text) :
      u.takeWhile p ++ u.drop (u.takeWhile p).length = u :=
    List.prefix_iff_eq_append.mp (List.takeWhile_prefix p)
  simp only [wordAt?] at h
  split at h
  · cases h
  · obtain ⟨rfl, rfl⟩ := Prod.mk.inj (Option.some.inj h)
    simp only [List.append_assoc, hcut]

/-- The words of a text take no more columns than the text. -/
theorem sum_columns_wordsFrom_le (h : joiner ∉ t) :
    ((wordsFrom t).map Text.columns).sum ≤ t.columns ∧ ∀ word ∈ wordsFrom t, joiner ∉ word := by
  fun_induction wordsFrom t with
  | case1 t hnone => exact ⟨Nat.zero_le _, List.forall_mem_nil _⟩
  | case2 t word rest hword hlt ih =>
    obtain rfl := wordAt?_eq_some hword
    rw [List.mem_append, not_or] at h
    obtain ⟨hsum, hwords⟩ := ih h.2
    refine ⟨?_, List.forall_mem_cons.mpr ⟨h.1, hwords⟩⟩
    rw [List.map_cons, List.sum_cons]
    exact (Nat.add_le_add_left hsum _).trans (columns_add_le h.1 h.2)
  | case3 t word rest hword hlt =>
    obtain rfl := wordAt?_eq_some hword
    rw [List.mem_append, not_or] at h
    refine ⟨?_, List.forall_mem_singleton.mpr h.1⟩
    rw [List.map_singleton, List.sum_singleton]
    exact (Nat.le_add_right _ _).trans (columns_add_le h.1 h.2)

theorem columns_stripRight_le (h : joiner ∉ t) : (stripRight t).columns ≤ t.columns := by
  obtain ⟨blank, heq⟩ := dropRightWhile_isPrefix CodePoint.isBlank t
  rw [← heq, List.mem_append, not_or] at h
  have hle := columns_add_le h.1 h.2
  rw [heq] at hle
  exact (Nat.le_add_right _ _).trans hle

/-- No line is broken that has room. -/
theorem breaksFrom_eq_nil {overflow : Overflow} {start used : Nat} {words : List Text}
    (hwords : ∀ word ∈ words, joiner ∉ word)
    (hfits : used + (words.map Text.columns).sum ≤ width) :
    breaksFrom overflow width start used words = [] := by
  induction words generalizing start used with
  | nil => rfl
  | cons word words ih =>
    rw [List.forall_mem_cons] at hwords
    rw [List.map_cons, List.sum_cons] at hfits
    have hsize := columns_stripRight_le hwords.1
    have hroom : (stripRight word).columns + used ≤ width := by omega
    simp only [breaksFrom, if_pos hroom]
    exact ih hwords.2 (by omega)

theorem wrap_of_fits {justify : Justify} {overflow : Overflow} (h : t.IsPrintable)
    (hwidth : width ≠ 0) (hfits : t.columns ≤ width) :
    wrap justify overflow width t =
      [truncate overflow width (justifyLine justify overflow width (dropExcess width t))] := by
  -- line feeds and tabs cannot be printed
  have hline : t.splitOn '\n' = [t] := splitOn_of_not_mem (h.not_mem (by decide +kernel))
  have htabs : expandTabs t = t := by
    rw [expandTabs, splitOn_of_not_mem (h.not_mem (by decide +kernel)), alignParts]
  obtain ⟨hsum, hwords⟩ := sum_columns_wordsFrom_le h.no_joiner
  have hbreaks : breaksFrom overflow width 0 0 (wordsFrom t) = [] :=
    breaksFrom_eq_nil hwords (by omega)
  rw [wrap, if_neg hwidth, hline, List.flatMap_singleton, wrapLine, htabs, hbreaks, divide,
    List.map_singleton]

/-! ### Cells -/

/-- Only blanks at the end go away. -/
theorem exists_dropExcess (h : t.IsPrintable) (width : Nat) :
    ∃ n, t = dropExcess width t ++ blanks n := by
  rw [dropExcess]
  split
  · exact ⟨0, (List.append_nil t).symm⟩
  · generalize hcount : min (takeRightWhile CodePoint.isBlank t).length (t.length - width) = count
    have hrun : takeRightWhile CodePoint.isBlank t <:+ t := List.rtakeWhile_suffix _ _
    have hback : t.drop (t.length - count) <:+ takeRightWhile CodePoint.isBlank t := by
      refine List.suffix_of_suffix_length_le (List.drop_suffix _ t) hrun ?_
      rw [List.length_drop]
      omega
    -- the only white space that can be printed is the blank
    have hblank : ∀ c ∈ t.drop (t.length - count), c = ofChar ' ' := fun c hc =>
      eq_of_isBlank_of_isPrintable (List.mem_rtakeWhile_imp (hback.subset hc))
        (h c (List.mem_of_mem_drop hc))
    refine ⟨(t.drop (t.length - count)).length, ?_⟩
    rw [blanks, ← List.eq_replicate_of_mem hblank, List.take_append_drop]

theorem padTo_dropExcess (h : t.IsPrintable) (hfits : t.columns ≤ width) :
    (dropExcess width t).columns ≤ width ∧ padTo width (dropExcess width t) = padTo width t := by
  obtain ⟨n, hn⟩ := exists_dropExcess h width
  have hjoiner : joiner ∉ dropExcess width t := fun hmem => by
    have := h.no_joiner
    rw [hn, List.mem_append, not_or] at this
    exact this.1 hmem
  have hcolumns := columns_append_replicate hjoiner isNarrow_blank n
  rw [← blanks, ← hn] at hcolumns
  have hblanks : blanks n ++ blanks (width - t.columns) =
      blanks (width - (dropExcess width t).columns) := by
    rw [blanks, blanks, List.replicate_append_replicate]
    exact congrArg blanks (by omega)
  refine ⟨by omega, ?_⟩
  calc padTo width (dropExcess width t)
      = dropExcess width t ++ blanks n ++ blanks (width - t.columns) := by
        rw [List.append_assoc, hblanks, padTo]
    _ = padTo width t := by rw [← hn, padTo]

theorem dropExcess_eq_self (h : stripRight t = t) (width : Nat) : dropExcess width t = t := by
  have hrun : takeRightWhile CodePoint.isBlank t = [] := by
    have hparts : stripRight t ++ takeRightWhile CodePoint.isBlank t = t :=
      List.rdropWhile_append_rtakeWhile
    rw [h] at hparts
    exact List.append_right_eq_self.mp hparts
  rw [dropExcess, hrun]
  split
  · rfl
  · rw [List.length_nil, Nat.zero_min, Nat.sub_zero, List.take_length]

/-- A text at its place in a width that it fits into. -/
def aligned (justify : Justify) (width : Nat) (t : Text) : Text :=
  if justify = .right then blanks (width - t.columns) ++ t else padTo width t

/-- How a cell stands that takes one line: its text is at the left, or at the right without blanks
behind it. -/
def Justify.Stands (justify : Justify) (t : Text) : Prop :=
  justify = .left ∨ justify = .right ∧ stripRight t = t

theorem joiner_not_mem_aligned {justify : Justify} (h : joiner ∉ t) (width : Nat) :
    joiner ∉ aligned justify width t := by
  have hblanks := not_mem_replicate isNarrow_blank (width - t.columns)
  rw [aligned]
  split <;> exact fun hmem => (List.mem_append.mp hmem).elim (by assumption) (by assumption)

theorem columns_aligned {justify : Justify} (h : joiner ∉ t) (hfits : t.columns ≤ width) :
    (aligned justify width t).columns = width := by
  rw [aligned]
  split
  · rw [blanks, columns_replicate_append isNarrow_blank h]
    omega
  · exact columns_padTo h hfits

theorem justifyLine_of_fits {justify : Justify} {overflow : Overflow} (h : t.IsPrintable)
    (hfits : t.columns ≤ width) (hjustify : justify.Stands t) :
    justifyLine justify overflow width (dropExcess width t) = aligned justify width t := by
  rcases hjustify with rfl | ⟨rfl, hstrip⟩
  · obtain ⟨hexcess, hpad⟩ := padTo_dropExcess h hfits
    show padTo width (truncate overflow width (dropExcess width t)) = padTo width t
    rw [truncate_eq_self hexcess, hpad]
  · rw [dropExcess_eq_self hstrip]
    show blanks (width - (truncate overflow width (stripRight t)).columns) ++
      truncate overflow width (stripRight t) = blanks (width - t.columns) ++ t
    rw [hstrip, truncate_eq_self hfits]

/-- A cell with room for its text has one line, with the text as it is. -/
theorem cellLines_of_fits {justify : Justify} (h : t.IsPrintable) (hwidth : width ≠ 0)
    (hfits : t.columns ≤ width) (hjustify : justify.Stands t) :
    Table.cellLines justify (width + cellPadding) t =
      [blanks 1 ++ aligned justify width t ++ blanks 1] := by
  have hcolumns : (aligned justify width t).columns = width := columns_aligned h.no_joiner hfits
  have hroom : ¬ width + cellPadding ≤ cellPadding := by omega
  rw [Table.cellLines, if_neg hroom, Nat.add_sub_cancel, wrap_of_fits h hwidth hfits,
    justifyLine_of_fits h hfits hjustify, truncate_eq_self (Nat.le_of_eq hcolumns),
    List.map_singleton, setColumns_eq_padTo hwidth (Nat.le_of_eq hcolumns), padTo_eq_self hcolumns]

/-! ### Widths -/

section Greatest

variable {n : Nat} {ns : List Nat}

theorem greatest_cons (n : Nat) (ns : List Nat) : greatest (n :: ns) = max n (greatest ns) := by
  have hfold (ns : List Nat) (k : Nat) : ns.foldl max k = max k (ns.foldl max 0) := by
    induction ns generalizing k with
    | nil => simp
    | cons m ns ih =>
      rw [List.foldl_cons, List.foldl_cons, ih, ih (max 0 m)]
      omega
  rw [greatest, List.foldl_cons, hfold, Nat.zero_max, greatest]

theorem le_greatest (h : n ∈ ns) : n ≤ greatest ns := by
  induction ns with
  | nil => cases h
  | cons m ns ih =>
    rw [greatest_cons]
    rcases List.mem_cons.mp h with rfl | h
    · exact Nat.le_max_left _ _
    · exact (ih h).trans (Nat.le_max_right _ _)

theorem greatest_le (h : ∀ m ∈ ns, m ≤ n) : greatest ns ≤ n := by
  induction ns with
  | nil => exact Nat.zero_le n
  | cons m ns ih =>
    rw [List.forall_mem_cons] at h
    rw [greatest_cons]
    exact Nat.max_le.mpr ⟨h.1, ih h.2⟩

theorem greatest_map_add (h : ns ≠ []) (k : Nat) : greatest (ns.map (· + k)) = greatest ns + k := by
  induction ns with
  | nil => exact absurd rfl h
  | cons m ns ih =>
    rw [List.map_cons, greatest_cons, greatest_cons]
    by_cases hns : ns = []
    · subst hns
      show max (m + k) 0 = max m 0 + k
      omega
    · rw [ih hns]
      omega

theorem le_sum_of_mem (h : n ∈ ns) : n ≤ ns.sum := by
  induction ns with
  | nil => cases h
  | cons m ns ih =>
    rw [List.sum_cons]
    rcases List.mem_cons.mp h with rfl | h
    · exact Nat.le_add_right _ _
    · exact (ih h).trans (Nat.le_add_left _ _)

end Greatest

theorem longestLine_of_isPrintable (h : t.IsPrintable) : longestLine t = t.columns := by
  have hone : measuredLines t = [t] := by
    induction t with
    | nil => rfl
    | cons c t ih =>
      have hc : endsLine c = false := endsLine_of_isPrintable (h c List.mem_cons_self)
      rw [measuredLines, hc, ih fun d hd => h d (List.mem_cons_of_mem c hd)]
      rfl
  rw [longestLine, hone]
  exact Nat.zero_max _

theorem cellWidth_of_fits {available : Nat} (h : t.IsPrintable)
    (hfits : t.columns + cellPadding ≤ available) :
    cellWidth available t = t.columns + cellPadding := by
  rw [cellWidth, longestLine_of_isPrintable h]
  split <;> omega

namespace Column

variable {c : Column}

/-- The columns that the widest text of a column takes. -/
def content (c : Column) : Nat := greatest ((c.heading :: c.cells).map Text.columns)

/-- The text takes one line as a cell of the column. -/
structure Fits (c : Column) (t : Text) : Prop where
  printable : t.IsPrintable
  stands : c.justify.Stands t
  columns_le : t.columns ≤ c.content

/-- A text as a cell of the column, between blanks. -/
def box (c : Column) (t : Text) : Text :=
  blanks 1 ++ aligned c.justify c.content t ++ blanks 1

theorem Fits.joiner_not_mem_box (h : c.Fits t) : joiner ∉ c.box t := by
  have hblank : joiner ∉ blanks 1 := not_mem_replicate isNarrow_blank 1
  rw [box, List.mem_append, List.mem_append, not_or, not_or]
  exact ⟨⟨hblank, joiner_not_mem_aligned h.printable.no_joiner _⟩, hblank⟩

theorem Fits.columns_box (h : c.Fits t) :
    (c.box t).columns = c.content + cellPadding := by
  have haligned : joiner ∉ aligned c.justify c.content t :=
    joiner_not_mem_aligned h.printable.no_joiner c.content
  have hback : joiner ∉ blanks 1 ++ aligned c.justify c.content t := fun hmem =>
    (List.mem_append.mp hmem).elim (not_mem_replicate isNarrow_blank 1) haligned
  have hfront : Text.columns (blanks 1 ++ aligned c.justify c.content t) =
      1 + (aligned c.justify c.content t).columns :=
    columns_replicate_append isNarrow_blank haligned 1
  have hcolumns : (c.box t).columns =
      Text.columns (blanks 1 ++ aligned c.justify c.content t) + 1 :=
    columns_append_replicate hback isNarrow_blank 1
  rw [hcolumns, hfront, columns_aligned h.printable.no_joiner h.columns_le, cellPadding]
  omega

/-- A column whose cells take one line each. -/
structure Simple (c : Column) : Prop where
  printable : ∀ t ∈ c.heading :: c.cells, t.IsPrintable
  stands : ∀ t ∈ [] :: c.heading :: c.cells, c.justify.Stands t
  content_ne_zero : c.content ≠ 0

theorem columns_le_content (h : t ∈ c.heading :: c.cells) :
    t.columns ≤ c.content := le_greatest (List.mem_map_of_mem h)

theorem content_ne_zero (h : c.heading.columns ≠ 0) : c.content ≠ 0 := by
  have hle : c.heading.columns ≤ c.content := columns_le_content List.mem_cons_self
  omega

theorem Simple.fits (h : c.Simple) (ht : t ∈ c.heading :: c.cells) :
    c.Fits t :=
  ⟨h.printable t ht, h.stands t (List.mem_cons_of_mem _ ht), columns_le_content ht⟩

/-- A column that ends above a row has an empty cell in it. -/
theorem Simple.fits_cell (h : c.Simple) (i : Nat) :
    c.Fits (c.cells.getD i []) := by
  rw [List.getD_eq_getElem?_getD]
  cases hcell : c.cells[i]? with
  | none => exact ⟨List.forall_mem_nil _, h.stands [] List.mem_cons_self, Nat.zero_le _⟩
  | some t => exact h.fits (List.mem_cons_of_mem _ (List.mem_of_getElem? hcell))

theorem width_of_fits {available : Nat} (h : c.Simple)
    (hfits : c.content + cellPadding ≤ available) :
    c.width available = c.content + cellPadding := by
  have hcells : (c.heading :: c.cells).map (cellWidth available) =
      ((c.heading :: c.cells).map Text.columns).map (· + cellPadding) := by
    rw [List.map_map]
    refine List.map_congr_left fun t ht => cellWidth_of_fits (h.printable t ht) ?_
    have := columns_le_content ht
    omega
  rw [Column.width, hcells]
  exact greatest_map_add (by simp) cellPadding

end Column

namespace Table

variable {table : Table}

/-- The width of a table that is as wide as its content. -/
def drawnWidth (table : Table) : Nat :=
  (table.columns.map fun c => c.content + cellPadding).sum + table.borderWidth

/-- A table with columns, all of them simple. -/
structure Simple (table : Table) : Prop where
  columns_ne_nil : table.columns ≠ []
  columns : ∀ c ∈ table.columns, c.Simple

theorem content_le_available (h : table.drawnWidth ≤ width) {c : Column} (hc : c ∈ table.columns) :
    c.content + cellPadding ≤ table.available width := by
  have hle : c.content + cellPadding ≤
      (table.columns.map fun c => c.content + cellPadding).sum :=
    le_sum_of_mem (List.mem_map_of_mem hc)
  rw [drawnWidth] at h
  rw [available]
  omega

/-- Columns that have room are as wide as their content. -/
theorem widths_of_fits (hsimple : table.Simple) (h : table.drawnWidth ≤ width) :
    table.widths width = table.columns.map fun c => c.content + cellPadding := by
  have hnatural : (table.columns.map fun c => max 1 (c.width (table.available width))) =
      table.columns.map fun c => c.content + cellPadding := by
    refine List.map_congr_left fun c hc => ?_
    rw [Column.width_of_fits (hsimple.columns c hc) (content_le_available h hc), cellPadding]
    omega
  have hsum : (table.columns.map fun c => c.content + cellPadding).sum ≤ table.available width := by
    rw [drawnWidth] at h
    rw [available]
    omega
  rw [widths, hnatural, if_pos hsum]

/-! ### Rows -/

/-- A row of cells that take one line each. -/
def rowOf (border : CodePoint) (cell : Column → Text) (table : Table) : Text :=
  border :: Text.join [border] (table.columns.map fun c => c.box (cell c)) ++ [border]

/-- The lines below the title of a table that has room: its headings, and a line for each row. -/
def grid (table : Table) : List Text :=
  let widths := table.columns.map fun c => c.content + cellPadding
  let row (i : Nat) : Text := table.rowOf '│' fun c => c.cells.getD i []
  [Rule.top.draw widths, table.rowOf '┃' Column.heading, Rule.underHeadings.draw widths] ++
    (List.range table.height).map row ++ [Rule.bottom.draw widths]

theorem rowLines_single (border : CodePoint) (isHeading : Bool) (cells : List (Nat × Text)) :
    rowLines border isHeading (cells.map fun c => (c.1, [c.2])) =
      [border :: Text.join [border] (cells.map Prod.snd) ++ [border]] := by
  have hheight : max 1 (greatest ((cells.map fun c => (c.1, [c.2])).map fun c => c.2.length)) = 1 :=
    Nat.max_eq_left (greatest_le fun m hm => by
      rw [List.map_map] at hm
      obtain ⟨c, -, rfl⟩ := List.mem_map.mp hm
      exact Nat.le_refl 1)
  have hparts : (cells.map fun c => (c.1, [c.2])).map (fun c =>
      (if isHeading = true then List.replicate (1 - c.2.length) (blanks c.1) ++ c.2
        else c.2 ++ List.replicate (1 - c.2.length) (blanks c.1)).getD 0 []) =
      cells.map Prod.snd := by
    rw [List.map_map]
    refine List.map_congr_left fun c _ => ?_
    cases isHeading <;> rfl
  rw [rowLines]
  dsimp only
  rw [hheight]
  exact congrArg (fun parts => [border :: Text.join [border] parts ++ [border]]) hparts

theorem rowLines_of_fits (hsimple : table.Simple) (h : table.drawnWidth ≤ width)
    {cell : Column → Text} (hcell : ∀ c ∈ table.columns, c.Fits (cell c)) (border : CodePoint)
    (isHeading : Bool) :
    rowLines border isHeading (table.columns.zipWith
      (fun c w => (w, cellLines c.justify w (cell c))) (table.widths width)) =
      [table.rowOf border cell] := by
  have hcells : table.columns.zipWith (fun c w => (w, cellLines c.justify w (cell c)))
      (table.widths width) =
      (table.columns.map fun c => (c.content + cellPadding, c.box (cell c))).map
        fun c => (c.1, [c.2]) := by
    rw [widths_of_fits hsimple h, List.zipWith_map_right, List.zipWith_self, List.map_map]
    refine List.map_congr_left fun c hc => congrArg _ ?_
    have hfits := hcell c hc
    exact cellLines_of_fits hfits.printable (hsimple.columns c hc).content_ne_zero
      hfits.columns_le hfits.stands
  rw [hcells, rowLines_single, List.map_map]
  rfl

theorem lines_of_fits (hsimple : table.Simple) (h : table.drawnWidth ≤ width) :
    table.lines width = wrap .center .fold table.drawnWidth table.title ++ table.grid := by
  have hheading := rowLines_of_fits hsimple h
    (fun c hc => (hsimple.columns c hc).fits List.mem_cons_self) '┃' true
  have hrows : (List.range table.height).flatMap (fun i => rowLines '│' false
      (table.columns.zipWith (fun c w => (w, cellLines c.justify w (c.cells.getD i [])))
        (table.widths width))) =
      (List.range table.height).map fun i => table.rowOf '│' fun c => c.cells.getD i [] := by
    rw [List.map_eq_flatMap]
    congr 1
    funext i
    exact rowLines_of_fits hsimple h (fun c hc => (hsimple.columns c hc).fits_cell i) '│' false
  rw [lines]
  dsimp only
  rw [hheading, hrows, widths_of_fits hsimple h]
  simp only [grid, drawnWidth, List.append_assoc, List.cons_append, List.nil_append]

section Bordered

variable {left crossing right : CodePoint} {parts : List Text}

theorem not_mem_join (hcrossing : crossing.IsNarrow) (hparts : ∀ part ∈ parts, joiner ∉ part) :
    joiner ∉ Text.join [crossing] parts := by
  induction parts with
  | nil => exact List.not_mem_nil
  | cons part parts ih =>
    rw [List.forall_mem_cons] at hparts
    by_cases hne : parts = []
    · rw [hne]
      exact hparts.1
    · rw [join_cons _ _ hne, List.append_assoc, List.mem_append, List.singleton_append,
        List.mem_cons, not_or, not_or]
      exact ⟨hparts.1, hcrossing.ne_joiner.symm, ih hparts.2⟩

/-- Parts with a border at both ends and between them. -/
theorem columns_bordered (hleft : left.IsNarrow) (hcrossing : crossing.IsNarrow)
    (hright : right.IsNarrow) (hparts : ∀ part ∈ parts, joiner ∉ part) (hne : parts ≠ []) :
    Text.columns (left :: Text.join [crossing] parts ++ [right]) =
      (parts.map Text.columns).sum + (parts.length + 1) := by
  have hend : joiner ∉ [right] := by
    rw [List.mem_singleton]
    exact hright.ne_joiner.symm
  induction parts generalizing left with
  | nil => exact absurd rfl hne
  | cons part parts ih =>
    rw [List.forall_mem_cons] at hparts
    have hcons : joiner ∉ Text.join [crossing] (part :: parts) ++ [right] := by
      rw [List.mem_append, not_or]
      exact ⟨not_mem_join hcrossing (List.forall_mem_cons.mpr hparts), hend⟩
    rw [List.cons_append, columns_cons hleft hcons, List.map_cons, List.sum_cons, List.length_cons]
    by_cases hmore : parts = []
    · subst hmore
      rw [show Text.join [crossing] [part] = part from rfl,
        columns_append_cons hparts.1 hright List.not_mem_nil]
      show 1 + (part.columns + (1 + 0)) = part.columns + 0 + (0 + 1 + 1)
      omega
    · have hrest : joiner ∉ Text.join [crossing] parts ++ [right] := by
        rw [List.mem_append, not_or]
        exact ⟨not_mem_join hcrossing hparts.2, hend⟩
      have hstep := ih hcrossing hparts.2 hmore
      rw [List.cons_append, columns_cons hcrossing hrest] at hstep
      rw [join_cons _ _ hmore, List.append_assoc, List.append_assoc, List.singleton_append,
        columns_append_cons hparts.1 hcrossing hrest, hstep]
      omega

end Bordered

theorem columns_rowOf (hsimple : table.Simple) {border : CodePoint} (hborder : border.IsNarrow)
    {cell : Column → Text} (hcell : ∀ c ∈ table.columns, c.Fits (cell c)) :
    (table.rowOf border cell).columns = table.drawnWidth := by
  have hjoiner : ∀ part ∈ table.columns.map fun c => c.box (cell c), joiner ∉ part :=
    List.forall_mem_map.mpr fun c hc => (hcell c hc).joiner_not_mem_box
  have hsum : ((table.columns.map fun c => c.box (cell c)).map Text.columns).sum =
      (table.columns.map fun c => c.content + cellPadding).sum := by
    rw [List.map_map]
    exact congrArg List.sum (List.map_congr_left fun c hc => (hcell c hc).columns_box)
  rw [rowOf, columns_bordered hborder hborder hborder hjoiner
    (List.map_eq_nil_iff.not.mpr hsimple.columns_ne_nil), hsum, List.length_map]
  rfl

theorem columns_draw (hsimple : table.Simple) {r : Rule} (hleft : r.left.IsNarrow)
    (hstroke : r.stroke.IsNarrow) (hcrossing : r.crossing.IsNarrow) (hright : r.right.IsNarrow) :
    (r.draw (table.columns.map fun c => c.content + cellPadding)).columns = table.drawnWidth := by
  have hjoiner : ∀ part ∈ (table.columns.map fun c => c.content + cellPadding).map
      fun w => List.replicate w r.stroke, joiner ∉ part :=
    List.forall_mem_map.mpr fun w _ => not_mem_replicate hstroke w
  have hsum : (((table.columns.map fun c => c.content + cellPadding).map
      fun w => List.replicate w r.stroke).map Text.columns) =
      table.columns.map fun c => c.content + cellPadding := by
    rw [List.map_map]
    exact (List.map_congr_left fun w _ => columns_replicate hstroke w).trans (List.map_id _)
  rw [Rule.draw, columns_bordered hleft hcrossing hright hjoiner
    (by simpa only [ne_eq, List.map_eq_nil_iff] using hsimple.columns_ne_nil), hsum,
    List.length_map, List.length_map]
  rfl

/-- What rules and borders are made of. -/
def strokes : Text := "┏━┳┓┃┡╇┩│└─┴┘"

theorem isNarrow_of_mem_strokes : ∀ c ∈ strokes, c.IsNarrow := by decide +kernel

/-- All lines of a table are equally wide. -/
theorem columns_grid (hsimple : table.Simple) {line : Text} (hline : line ∈ table.grid) :
    line.columns = table.drawnWidth := by
  have hrule {r : Rule} (hr : ∀ c ∈ [r.left, r.stroke, r.crossing, r.right], c ∈ strokes) :
      (r.draw (table.columns.map fun c => c.content + cellPadding)).columns = table.drawnWidth := by
    simp only [List.forall_mem_cons] at hr
    obtain ⟨hleft, hstroke, hcrossing, hright, -⟩ := hr
    exact columns_draw hsimple (isNarrow_of_mem_strokes _ hleft) (isNarrow_of_mem_strokes _ hstroke)
      (isNarrow_of_mem_strokes _ hcrossing) (isNarrow_of_mem_strokes _ hright)
  have hborder {border : CodePoint} (hborder : border ∈ strokes)
      {cell : Column → Text} (hcell : ∀ c ∈ table.columns, c.Fits (cell c)) :
      (table.rowOf border cell).columns = table.drawnWidth :=
    columns_rowOf hsimple (isNarrow_of_mem_strokes _ hborder) hcell
  rw [grid] at hline
  simp only [List.mem_append, List.mem_cons, List.mem_map, List.not_mem_nil, or_false] at hline
  obtain ((rfl | rfl | rfl) | ⟨i, -, rfl⟩) | rfl := hline
  · exact hrule (by decide)
  · exact hborder (by decide) fun c hc => (hsimple.columns c hc).fits List.mem_cons_self
  · exact hrule (by decide)
  · exact hborder (by decide) fun c hc => (hsimple.columns c hc).fits_cell i
  · exact hrule (by decide)

end Table

/-! ### Printing -/

theorem mapM_of_forall₂ {α β ε : Type} {f : α → Except ε β} {as : List α} {bs : List β}
    (h : List.Forall₂ (fun a b => f a = .ok b) as bs) : as.mapM f = .ok bs := by
  induction h with
  | nil => rfl
  | cons ha _ ih =>
    rw [List.mapM_cons, ha, ih]
    rfl

/-- The second column has the texts that the marked-up texts of the first one show. -/
structure Column.Shows (c d : Column) : Prop where
  heading : shown c.heading = .ok d.heading
  cells : List.Forall₂ (fun a b => shown a = .ok b) c.cells d.cells
  justify : d.justify = c.justify

/-- The second table has the texts that the marked-up texts of the first one show. -/
structure Table.Shows (table drawn : Table) : Prop where
  title : shown table.title = .ok drawn.title
  columns : List.Forall₂ Column.Shows table.columns drawn.columns

variable {table drawn : Table}

theorem Table.ofMarkup_of_shows (hshows : table.Shows drawn)
    (hroom : cellPadding < table.available width) : table.ofMarkup width = .ok drawn := by
  have hcolumns : table.columns.mapM (fun c => do
      let heading ← shownIf (cellPadding < table.available width) c.heading
      let cells ← c.cells.mapM (shownIf (cellPadding < table.available width))
      return { c with heading := heading, cells := cells }) = .ok drawn.columns := by
    refine mapM_of_forall₂ (hshows.columns.imp fun c d hcd => ?_)
    have hshown : shownIf (cellPadding < table.available width) = shown := by
      funext markup
      rw [shownIf, if_pos (decide_eq_true hroom)]
    rw [hshown, hcd.heading, mapM_of_forall₂ hcd.cells]
    show Except.ok { c with heading := d.heading, cells := d.cells } = Except.ok d
    rw [← hcd.justify]
  rw [ofMarkup, hcolumns, hshows.title]
  rfl

/-- A table of marked-up texts is drawn with the texts that they show, where these have room. -/
theorem Block.lines_table (hshows : table.Shows drawn) (hsimple : drawn.Simple)
    (hfits : drawn.drawnWidth ≤ width) :
    (Block.table table).lines width =
      .ok (wrap .center .fold drawn.drawnWidth drawn.title ++ drawn.grid) := by
  have hborder : table.borderWidth = drawn.borderWidth := by
    rw [Table.borderWidth, Table.borderWidth, hshows.columns.length_eq]
  have hroom : cellPadding < table.available width := by
    obtain ⟨c, hc⟩ := List.exists_mem_of_ne_nil _ hsimple.columns_ne_nil
    have hcontent := Table.content_le_available hfits hc
    have hne := (hsimple.columns c hc).content_ne_zero
    rw [Table.available] at hcontent ⊢
    omega
  have hwidth : width ≠ 0 := by
    rw [Table.available] at hroom
    omega
  rw [Block.lines, if_neg hwidth, Table.ofMarkup_of_shows hshows hroom,
    ← Table.lines_of_fits hsimple hfits]
  rfl

theorem map_crop_grid (hsimple : drawn.Simple) (hfits : drawn.drawnWidth ≤ width) :
    drawn.grid.map (crop width) = drawn.grid := by
  have hcrop : ∀ line ∈ drawn.grid, crop width line = id line := fun line hline => by
    rw [crop, Table.columns_grid hsimple hline, if_pos hfits, id]
  rw [List.map_congr_left hcrop, List.map_id]

end Console

end SitePreview
