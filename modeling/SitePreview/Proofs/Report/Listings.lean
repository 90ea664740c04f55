import SitePreview.Proofs.Console.TableRows
import SitePreview.Proofs.FileSet.Lookup
import SitePreview.Proofs.Text.Encoding
import SitePreview.Report.Blocks
import SitePreview.Snapshot.Entry

/-! Listings of paths. The report of changes and that of a file set list paths in a table, each path
in a row of its own with what is told of it. The paths are handed to the console as they are, which
reads them as markup: they are listed as they are if there is no markup in them. -/

namespace SitePreview

open Text Console

/-- The styles of what reports print beside paths. -/
def reportStyles : List Text := ["bold", "dim", "green", "yellow", "red"]

theorem isStyle_of_mem : ∀ name ∈ reportStyles, IsStyle name := by decide +kernel

/-- What reports print beside paths and numbers. -/
def reportWords : List Text :=
  ["Changes", "Path", "Change", "Bytes", "added", "modified", "removed", "No changes.",
    "No files found in response."]

theorem isPrintable_of_mem : ∀ word ∈ reportWords, word.IsPrintable := by decide +kernel

theorem isBare_of_mem : ∀ word ∈ reportWords, IsBare word := by decide +kernel

theorem shown_word (word : Text) (h : word ∈ reportWords) : shown word = .ok word :=
  shown_of_isBare (isBare_of_mem word h) (isPrintable_of_mem word h)

theorem shown_styledWord (name word : Text) (hname : name ∈ reportStyles)
    (h : word ∈ reportWords) : shown (styled name word) = .ok word :=
  shown_styled (isStyle_of_mem name hname) (isBare_of_mem word h) (isPrintable_of_mem word h)

/-- Paths with what is told of each, below headings. -/
structure Listing where
  heading : Text
  justify : Justify
  rows : List (Text × Text)
deriving DecidableEq

namespace Listing

/-- The text of lines, each with its end. -/
def printed (lines : List Text) : Text := lines.flatMap fun line => line ++ "\n"

variable (l : Listing)

/-- The columns that the widest path takes. -/
def pathWidth : Nat := greatest ((("Path" : Text) :: l.rows.map Prod.fst).map Text.columns)

/-- The columns that the widest text about a path takes. -/
def noteWidth : Nat := greatest ((l.heading :: l.rows.map Prod.snd).map Text.columns)

/-- The columns that a line takes. -/
def width : Nat := l.pathWidth + cellPadding + (l.noteWidth + cellPadding) + 3

/-- A path and what is told of it, between borders. -/
def line (border : CodePoint) (path note : Text) : Text :=
  [border] ++ (blanks 1 ++ padTo l.pathWidth path ++ blanks 1) ++ [border] ++
    (blanks 1 ++ aligned l.justify l.noteWidth note ++ blanks 1) ++ [border]

def rule (r : Rule) : Text := r.draw [l.pathWidth + cellPadding, l.noteWidth + cellPadding]

/-- The lines of the listing: headings between rules, a line for each path, and a rule at the end.
There are none where nothing is listed. -/
def lines : List Text :=
  if l.rows.isEmpty then []
  else
    [l.rule .top, l.line '┃' "Path" l.heading, l.rule .underHeadings] ++
      (l.rows.map fun r => l.line '│' r.1 r.2) ++ [l.rule .bottom]

/-- The listing stands in a text, between other lines. -/
def IsIn (printed : Text) : Prop :=
  ∃ above below, printed = Listing.printed (above ++ l.lines ++ below)

/-- The table that the listing is drawn as. -/
def table (title : Text) : Table where
  title := title
  columns := [
    { heading := "Path", cells := l.rows.map Prod.fst },
    { heading := l.heading, cells := l.rows.map Prod.snd, justify := l.justify }]

/-- All that is told can be printed, and stands at its place. -/
structure Simple : Prop where
  heading_printable : l.heading.IsPrintable
  heading_columns : l.heading.columns ≠ 0
  heading_stands : l.justify.Stands l.heading
  stands_nil : l.justify.Stands []
  paths : ∀ r ∈ l.rows, r.1.IsPrintable
  notes : ∀ r ∈ l.rows, r.2.IsPrintable ∧ l.justify.Stands r.2

variable {l}

/-- The headings of paths and of what is told of them. -/
theorem columns_headings : Text.columns "Path" = 4 ∧ Text.columns "Change" = 6 ∧
    Text.columns "Bytes" = 5 := by decide +kernel

theorem Simple.table (h : l.Simple) (title : Text) : (l.table title).Simple where
  columns_ne_nil := List.cons_ne_nil _ _
  columns := by
    have hpath : Text.IsPrintable "Path" := isPrintable_of_mem _ (by decide)
    have hcolumns : Text.columns "Path" ≠ 0 := by
      rw [columns_headings.1]
      decide
    refine List.forall_mem_cons.mpr ⟨⟨?_, fun _ _ => .inl rfl, Column.content_ne_zero hcolumns⟩,
      List.forall_mem_singleton.mpr ⟨?_, ?_, Column.content_ne_zero h.heading_columns⟩⟩
    · exact List.forall_mem_cons.mpr ⟨hpath, List.forall_mem_map.mpr h.paths⟩
    · exact List.forall_mem_cons.mpr
        ⟨h.heading_printable, List.forall_mem_map.mpr fun r hr => (h.notes r hr).1⟩
    · exact List.forall_mem_cons.mpr ⟨h.stands_nil, List.forall_mem_cons.mpr
        ⟨h.heading_stands, List.forall_mem_map.mpr fun r hr => (h.notes r hr).2⟩⟩

theorem drawnWidth_table (title : Text) : (l.table title).drawnWidth = l.width := rfl

theorem grid_table (title : Text) (hrows : l.rows ≠ []) : (l.table title).grid = l.lines := by
  have hheight : (l.table title).height = l.rows.length := by
    show greatest [(l.rows.map Prod.fst).length, (l.rows.map Prod.snd).length] = _
    rw [List.length_map, List.length_map]
    show max (max 0 l.rows.length) l.rows.length = _
    omega
  have hlines : (List.range l.rows.length).map (fun i =>
      (l.table title).rowOf '│' fun c => c.cells.getD i []) =
      l.rows.map fun r => l.line '│' r.1 r.2 := by
    refine List.ext_getElem (by simp) fun i hi hi' => ?_
    rw [List.length_map, List.length_range] at hi
    rw [List.getElem_map, List.getElem_map, List.getElem_range]
    have hpath : (l.rows.map Prod.fst).getD i [] = l.rows[i].1 := by simp [hi]
    have hnote : (l.rows.map Prod.snd).getD i [] = l.rows[i].2 := by simp [hi]
    rw [← hpath, ← hnote]
    rfl
  rw [Table.grid, hheight, hlines, lines, if_neg (by simpa using hrows)]
  rfl

theorem print_eq_ok {width : Nat} {blocks : List Block} {lines : List (List Text)}
    (h : blocks.mapM (Block.lines width) = .ok lines) :
    print width blocks = .ok (printed (lines.flatten.map (crop width))) := by
  rw [print, h, printed, List.flatMap_map]
  rfl

theorem mapM_lines_text {width : Nat} {markup text : Text} (h : shown markup = .ok text) :
    [Block.text markup].mapM (Block.lines width) = .ok [wrap .free .fold width text] := by
  rw [List.mapM_cons, Block.lines, h]
  rfl

/-- Where nothing is listed, a text stands instead. -/
theorem isIn_print_text (hrows : l.rows = []) {markup text : Text} (h : shown markup = .ok text)
    (width : Nat) : ∃ printed, print width [.text markup] = .ok printed ∧ l.IsIn printed := by
  refine ⟨_, print_eq_ok (mapM_lines_text h),
    (wrap .free .fold width text).map (crop width), [], ?_⟩
  rw [lines, hrows, List.isEmpty_nil, if_pos rfl, List.append_nil, List.append_nil,
    List.flatten_singleton]

theorem columns_of_mem_lines (hsimple : l.Simple) {line : Text} (hline : line ∈ l.lines) :
    line.columns = l.width := by
  have hrows : l.rows ≠ [] := by
    rintro hnil
    rw [lines, hnil] at hline
    exact List.not_mem_nil hline
  rw [← grid_table [] hrows] at hline
  rw [Table.columns_grid (hsimple.table []) hline, drawnWidth_table]

/-- The printed text of a listing that fits, and of blocks below it. -/
theorem print_table {width : Nat} {shown : Table} {title : Text} {rest : List Block}
    {below : List (List Text)} (hsimple : l.Simple) (hrows : l.rows ≠ [])
    (hshows : shown.Shows (l.table title)) (hfits : l.width ≤ width)
    (hrest : rest.mapM (Block.lines width) = .ok below) :
    print width (.table shown :: rest) = .ok (printed ((wrap .center .fold l.width title).map
      (crop width) ++ l.lines ++ below.flatten.map (crop width))) := by
  rw [← drawnWidth_table title] at hfits ⊢
  have hgrid : (l.table title).grid = l.lines := grid_table title hrows
  have hlines : (Block.table shown :: rest).mapM (Block.lines width) =
      .ok ((wrap .center .fold (l.table title).drawnWidth title ++ l.lines) :: below) := by
    rw [List.mapM_cons, Block.lines_table hshows (hsimple.table title) hfits, hgrid, hrest]
    rfl
  have hcrop : l.lines.map (crop width) = l.lines :=
    hgrid ▸ map_crop_grid (hsimple.table title) hfits
  rw [print_eq_ok hlines, List.flatten_cons, List.map_append, List.map_append, hcrop]

/-- A listing is printed as it is where its lines fit and the blocks below it can be shown. -/
theorem isIn_print {width : Nat} {shown : Table} {title : Text} {rest : List Block}
    {below : List (List Text)} (hsimple : l.Simple) (hrows : l.rows ≠ [])
    (hshows : shown.Shows (l.table title)) (hfits : ∀ line ∈ l.lines, line.columns ≤ width)
    (hrest : rest.mapM (Block.lines width) = .ok below) :
    ∃ text, print width (.table shown :: rest) = .ok text ∧ l.IsIn text := by
  have hline : l.rule .top ∈ l.lines := by
    rw [lines, if_neg (by simpa using hrows)]
    exact List.mem_append_left _ List.mem_cons_self
  have hwidth : l.width ≤ width := columns_of_mem_lines hsimple hline ▸ hfits _ hline
  exact ⟨_, print_table hsimple hrows hshows hwidth hrest, _, _, rfl⟩

end Listing

namespace ChangeSet

/-- What became of a changed path. -/
def noteOf (c : ChangeSet) (path : Text) : Text :=
  if c.added.contains path then "added" else "modified"

/-- The changed paths, then the removed ones, each with what became of it. -/
def pathListing (c : ChangeSet) : Listing where
  heading := "Change"
  justify := .left
  rows := (c.changed.map fun p => (p, c.noteOf p)) ++ c.removed.map fun p => (p, ("removed" : Text))

variable {c : ChangeSet}

theorem shown_kindOf (c : ChangeSet) (p : Text) : shown (c.kindOf p) = .ok (c.noteOf p) := by
  rw [kindOf, noteOf]
  split
  · exact shown_styledWord "green" "added" (by decide) (by decide)
  · exact shown_styledWord "yellow" "modified" (by decide) (by decide)

theorem isPrintable_noteOf (c : ChangeSet) (p : Text) : (c.noteOf p).IsPrintable := by
  rw [noteOf]
  split
  · exact isPrintable_of_mem "added" (by decide)
  · exact isPrintable_of_mem "modified" (by decide)

theorem simple_pathListing (h : ∀ p ∈ c.changed ++ c.removed, IsPlain p) :
    c.pathListing.Simple where
  heading_printable := isPrintable_of_mem "Change" (by decide)
  heading_columns := by
    show Text.columns "Change" ≠ 0
    rw [Listing.columns_headings.2.1]
    decide
  heading_stands := .inl rfl
  stands_nil := .inl rfl
  paths := by
    rw [List.forall_mem_append] at h
    refine List.forall_mem_append.mpr ⟨?_, ?_⟩
    · exact List.forall_mem_map.mpr fun p hp => (h.1 p hp).printable
    · exact List.forall_mem_map.mpr fun p hp => (h.2 p hp).printable
  notes := by
    refine List.forall_mem_append.mpr ⟨?_, ?_⟩
    · exact List.forall_mem_map.mpr fun p _ => ⟨c.isPrintable_noteOf p, .inl rfl⟩
    · exact List.forall_mem_map.mpr fun _ _ =>
        ⟨isPrintable_of_mem "removed" (by decide), .inl rfl⟩

theorem shows_table (h : ∀ p ∈ c.changed ++ c.removed, IsPlain p) :
    c.table.Shows (c.pathListing.table "Changes") where
  title := shown_word "Changes" (by decide)
  columns := by
    have hpaths : c.pathListing.rows.map Prod.fst = c.changed ++ c.removed := by
      simp [pathListing, Function.comp_def]
    refine .cons ⟨?_, ?_, rfl⟩ (.cons ⟨?_, ?_, rfl⟩ .nil)
    · exact shown_word "Path" (by decide)
    · show List.Forall₂ _ (c.changed ++ c.removed) (c.pathListing.rows.map Prod.fst)
      rw [hpaths, List.forall₂_same]
      exact fun p hp => shown_of_isPlain (h p hp)
    · exact shown_word "Change" (by decide)
    · show List.Forall₂ _ (c.changed.map c.kindOf ++ c.removed.map _)
        (c.pathListing.rows.map Prod.snd)
      rw [pathListing, List.map_append, List.map_map, List.map_map]
      refine List.rel_append ?_ ?_ <;>
        rw [List.forall₂_map_left_iff, List.forall₂_map_right_iff, List.forall₂_same]
      · exact fun p _ => c.shown_kindOf p
      · exact fun _ _ => shown_styledWord "red" "removed" (by decide) (by decide)

theorem exists_shown_counts (c : ChangeSet) : ∃ text, shown ("\n" ++ c.counts) = .ok text := by
  have hbold : IsStyle "bold" := isStyle_of_mem _ (by decide)
  have hcounts : "\n" ++ c.counts = "\n" ++ (styled "bold" (ofNat c.added.length) ++
      (" added, " ++ (styled "bold" (ofNat c.modified.length) ++
        (" modified, " ++ (styled "bold" (ofNat c.removed.length) ++ " removed"))))) := by
    have hstyled (t : Text) : "[bold]" ++ t ++ "[/bold]" = styled "bold" t := by
      rw [List.append_assoc]
      rfl
    rw [counts]
    simp only [hstyled, List.append_assoc]
  have hend (position : Nat) : Shows [] (piecesFrom [] position " removed") " removed" :=
    Shows.of_bare (by decide) position
  have hshows : Shows [] (piecesFrom [] 0 ("\n" ++ (styled "bold" (ofNat c.added.length) ++
      (" added, " ++ (styled "bold" (ofNat c.modified.length) ++
        (" modified, " ++ (styled "bold" (ofNat c.removed.length) ++ " removed")))))))
      ("\n" ++ (ofNat c.added.length ++ (" added, " ++ (ofNat c.modified.length ++
        (" modified, " ++ (ofNat c.removed.length ++ " removed")))))) :=
    Shows.styled_append hbold (by decide) (isBare_ofNat _) fun _ =>
      Shows.styled_append hbold (by decide) (isBare_ofNat _) fun _ =>
        Shows.styled_append hbold (by decide) (isBare_ofNat _) hend
  rw [hcounts]
  refine ⟨_, shown_of_shows hshows ?_⟩
  exact List.mem_append_right _ (List.mem_append_left _ List.mem_cons_self)

theorem rows_pathListing_eq_nil_iff : c.pathListing.rows = [] ↔ c.isEmpty = true := by
  simp [pathListing, isEmpty]

/-- The report lists changes as they are, as far as there is no markup in their paths. -/
theorem isIn_print_report {width : Nat} (hplain : ∀ p ∈ c.changed ++ c.removed, IsPlain p)
    (hfits : ∀ line ∈ c.pathListing.lines, line.columns ≤ width) :
    ∃ text, print width c.report = .ok text ∧ c.pathListing.IsIn text := by
  rw [report]
  split
  · next hempty =>
    exact Listing.isIn_print_text (rows_pathListing_eq_nil_iff.mpr hempty)
      (shown_styledWord "dim" "No changes." (by decide) (by decide)) width
  · next hempty =>
    obtain ⟨counts, hcounts⟩ := c.exists_shown_counts
    exact Listing.isIn_print (simple_pathListing hplain)
      (rows_pathListing_eq_nil_iff.not.mpr hempty) (shows_table hplain) hfits
      (Listing.mapM_lines_text hcounts)

end ChangeSet

namespace FileSet

variable {files : FileSet}

/-- The paths in order, each with the number of bytes of its content. -/
def pathListing (files : FileSet) : Listing where
  heading := "Bytes"
  justify := .right
  rows := files.sortedPaths.map fun p => (p, ofNat (files.content p).utf8Bytes.length)

theorem stripRight_ofNat (n : Nat) : stripRight (ofNat n) = ofNat n := by
  refine List.rdropWhile_eq_self_iff.mpr fun hne hblank => ?_
  have hdigit := isAsciiDigit_of_mem_ofNat (List.getLast_mem hne)
  have hle := CodePoint.isBlank_ascii (by omega) hblank
  omega

theorem simple_pathListing (h : ∀ p ∈ files.paths, IsPlain p) : files.pathListing.Simple where
  heading_printable := isPrintable_of_mem "Bytes" (by decide)
  heading_columns := by
    show Text.columns "Bytes" ≠ 0
    rw [Listing.columns_headings.2.2]
    decide
  heading_stands := .inr ⟨rfl, rfl⟩
  stands_nil := .inr ⟨rfl, rfl⟩
  paths := List.forall_mem_map.mpr fun p hp => (h p (mem_sortedPaths.mp hp)).printable
  notes := List.forall_mem_map.mpr fun _ _ =>
    ⟨isPrintable_ofNat _, .inr ⟨rfl, stripRight_ofNat _⟩⟩

/-- Contents without surrogates have sizes, and the table of files shows the listing with them. -/
theorem exists_listing_shows (hplain : ∀ p ∈ files.paths, IsPlain p)
    (hutf8 : ∀ p ∈ files.paths, (files.content p).isUtf8 = true) :
    ∃ table title, files.listing = .ok table ∧ table.Shows (files.pathListing.table title) := by
  let size (p : Text) : Nat := (files.content p).utf8Bytes.length
  have hsizes : files.sortedPaths.mapM (fun p => (files.content p).toUtf8.map List.length) =
      .ok (files.sortedPaths.map size) := by
    refine mapM_of_forall₂ ?_
    rw [List.forall₂_map_right_iff, List.forall₂_same]
    intro p hp
    rw [toUtf8_of_isUtf8 (hutf8 p (mem_sortedPaths.mp hp))]
    rfl
  have htitle : CodePoint.ofChar '[' ∉ "Extracted files (" ++ ofNat files.size ++ ")" := by
    rw [List.mem_append, List.mem_append, not_or, not_or]
    exact ⟨⟨by decide, (isBare_ofNat _).no_bracket⟩, by decide⟩
  obtain ⟨title, htitle⟩ := exists_shown_of_no_bracket htitle
  have hlisting : files.listing = .ok {
      title := "Extracted files (" ++ ofNat files.size ++ ")"
      columns := [
        { heading := "Path", cells := files.sortedPaths },
        { heading := "Bytes"
          cells := (files.sortedPaths.map size).map ofNat
          justify := .right }] } := by
    rw [listing, hsizes]
    rfl
  refine ⟨_, title, hlisting, htitle, ?_⟩
  refine .cons ⟨?_, ?_, rfl⟩ (.cons ⟨?_, ?_, rfl⟩ .nil)
  · exact shown_word "Path" (by decide)
  · show List.Forall₂ _ files.sortedPaths (files.pathListing.rows.map Prod.fst)
    rw [pathListing, List.map_map, List.forall₂_map_right_iff, List.forall₂_same]
    exact fun p hp => shown_of_isPlain (hplain p (mem_sortedPaths.mp hp))
  · exact shown_word "Bytes" (by decide)
  · show List.Forall₂ _ ((files.sortedPaths.map size).map ofNat)
      (files.pathListing.rows.map Prod.snd)
    rw [pathListing, List.map_map, List.map_map, List.forall₂_map_left_iff,
      List.forall₂_map_right_iff, List.forall₂_same]
    exact fun p _ => shown_of_isBare (isBare_ofNat _) (isPrintable_ofNat _)

theorem rows_pathListing_eq_nil_iff : files.pathListing.rows = [] ↔ files.size = 0 := by
  have hlength : files.sortedPaths.length = files.size :=
    (sort_perm files.paths).length_eq.trans (List.length_map _)
  rw [pathListing, List.map_eq_nil_iff, ← List.length_eq_zero_iff, hlength]

/-- The report lists files as they are, as far as there is no markup in their paths. -/
theorem exists_isIn_print_report {width : Nat} (hplain : ∀ p ∈ files.paths, IsPlain p)
    (hutf8 : ∀ p ∈ files.paths, (files.content p).isUtf8 = true)
    (hfits : ∀ line ∈ files.pathListing.lines, line.columns ≤ width) :
    ∃ blocks, files.report = .ok blocks ∧
      ∃ text, print width blocks = .ok text ∧ files.pathListing.IsIn text := by
  rw [report]
  split
  · next hsize =>
    exact ⟨_, rfl, Listing.isIn_print_text (rows_pathListing_eq_nil_iff.mpr hsize)
      (shown_styledWord "yellow" "No files found in response." (by decide) (by decide)) width⟩
  · next hsize =>
    obtain ⟨table, title, htable, hshows⟩ := exists_listing_shows hplain hutf8
    refine ⟨[.table table], by rw [htable]; rfl, ?_⟩
    exact Listing.isIn_print (simple_pathListing hplain) (rows_pathListing_eq_nil_iff.not.mpr hsize)
      hshows hfits rfl

end FileSet

/-! ### Both reports -/

/-- A file that is new, and one that is gone. -/
def twoChanges : ChangeSet :=
  { changed := ["b/new one.ts"], removed := ["a.ts"], added := ["b/new one.ts"], modified := [] }

def oneFile : FileSet := FileSet.empty.insert "a.ts" "f()"

/-- A change with a path that looks like markup. -/
def changeAt (path : Text) : ChangeSet :=
  { changed := [path], removed := [], added := [path], modified := [] }

end SitePreview
