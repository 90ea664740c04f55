import SitePreview.Console.Block
import SitePreview.Proofs.Text.Parts
import SitePreview.Text.Printable
import Mathlib.Data.List.Infix

/-! Texts that the console shows as they are, although it reads them as markup: they hold no tag, no
escaped bracket and no name of an emoji, and all that is in them can be printed. -/

namespace SitePreview

namespace CodePoint

variable {c : CodePoint}

theorem le_of_isPrintable (h : c.isPrintable = true) :
    32 ≤ c.val ∧ (c.val < 128 → c.val < 127) := by
  rw [isPrintable] at h
  split at h
  · simp only [Bool.and_eq_true, decide_eq_true_eq] at h
    omega
  · omega

/-- The printable code points of ranges are those of ASCII, if the others are within ranges that are
not printable. -/
theorem lt_of_isPrintable {ranges : List (Nat × Nat)} (h : c.isPrintable = true)
    (hin : c.inRanges ranges = true)
    (hranges : ∀ r ∈ ranges, r.2 < 128 ∨ ∃ u ∈ unprintableRanges, u.1 ≤ r.1 ∧ r.2 ≤ u.2) :
    c.val < 128 := by
  by_contra hhigh
  rw [isPrintable, if_neg hhigh, Bool.not_eq_true', inRanges, List.any_eq_false] at h
  simp only [inRanges, List.any_eq_true, Bool.and_eq_true, decide_eq_true_eq] at hin
  obtain ⟨r, hr, hlow, hle⟩ := hin
  rcases hranges r hr with hascii | ⟨u, hu, hulow, hule⟩
  · omega
  · refine h u hu ?_
    simp only [Bool.and_eq_true, decide_eq_true_eq]
    omega

theorem eq_of_isBlank_of_isPrintable (hblank : c.isBlank = true) (h : c.isPrintable = true) :
    c = ofChar ' ' := by
  have hlt := lt_of_isPrintable h hblank (by decide +kernel)
  have hle := isBlank_ascii hlt hblank
  have hge := (le_of_isPrintable h).1
  exact CodePoint.ext (Nat.le_antisymm hle hge)

theorem ne_joiner_of_isPrintable (h : c.isPrintable = true) : c ≠ joiner := by
  rintro rfl
  exact absurd h (by decide +kernel)

end CodePoint

namespace Text

open CodePoint

variable {c : CodePoint} {t : Text}

/-- Everything in the text can be printed. -/
def IsPrintable (t : Text) : Prop := ∀ c ∈ t, c.isPrintable = true

instance (t : Text) : Decidable t.IsPrintable :=
  inferInstanceAs (Decidable (∀ c ∈ t, c.isPrintable = true))

theorem IsPrintable.no_joiner (h : t.IsPrintable) : joiner ∉ t :=
  fun hmem => ne_joiner_of_isPrintable (h _ hmem) rfl

theorem IsPrintable.not_mem (h : t.IsPrintable) (hc : c.isPrintable = false) : c ∉ t :=
  fun hmem => by simp [h c hmem] at hc

end Text

namespace Console

open Text CodePoint

theorem endsLine_of_isPrintable {c : CodePoint} (h : c.isPrintable = true) :
    endsLine c = false := by
  rw [Bool.eq_false_iff]
  intro hends
  have hlt := lt_of_isPrintable h hends (by decide +kernel)
  have hge := (le_of_isPrintable h).1
  simp only [endsLine, inRanges, List.any_cons, List.any_nil, Bool.or_eq_true, Bool.and_eq_true,
    decide_eq_true_eq, Bool.or_false] at hends
  omega

theorem isDropped_of_isPrintable {c : CodePoint} (h : c.isPrintable = true) :
    isDropped c = false := by
  have hge := (le_of_isPrintable h).1
  simp only [isDropped, Bool.or_eq_false_iff, decide_eq_false_iff_not]
  omega

/-- The text holds a tag. -/
def holdsTag (t : Text) : Bool := t.tails.any fun s => (bracketed? s).isSome

/-- The text is printable and holds nothing that markup is made of. -/
structure IsPlain (t : Text) : Prop where
  printable : t.IsPrintable
  untagged : holdsTag t = false
  unescaped : ¬ ("\\[" : Text) <:+: t
  no_emoji : withEmoji t = t

theorem bareBrackets_eq_self {t : Text} (h : ¬ ("\\[" : Text) <:+: t) : bareBrackets t = t := by
  fun_induction bareBrackets t with
  | case1 | case2 => rfl
  | case3 c d s hescape ih =>
    obtain ⟨rfl, rfl⟩ := hescape
    exact absurd (List.prefix_append [ofChar '\\', ofChar '['] s).isInfix h
  | case4 c d s hescape ih => rw [ih fun hescaped => h (List.infix_cons hescaped)]

theorem bracketed?_of_suffix {s t : Text} (h : holdsTag t = false) (hs : s <:+ t) :
    bracketed? s = none := by
  rw [holdsTag, List.any_eq_false] at h
  simpa using h s ((List.mem_tails _ _).mpr hs)

theorem piecesFrom_untagged {t : Text} (h : holdsTag t = false) (plain : Text) (position : Nat) :
    piecesFrom plain position t = plainPiece (plain.reverse ++ t) := by
  induction t generalizing plain position with
  | nil => rw [piecesFrom, List.append_nil]
  | cons c t ih =>
    have hrest : holdsTag t = false := by
      rw [holdsTag, List.tails_cons, List.any_cons, Bool.or_eq_false_iff] at h
      exact h.2
    rw [piecesFrom]
    dsimp only
    rw [bracketed?_of_suffix h (List.drop_suffix _ _)]
    dsimp only
    rw [ih hrest, List.reverse_cons, List.append_assoc]
    rfl

theorem filter_isDropped {t : Text} (h : t.IsPrintable) :
    (t.filter fun c => !isDropped c) = t :=
  List.filter_eq_self.mpr fun c hc => by rw [isDropped_of_isPrintable (h c hc)]; rfl

/-- A text without markup is shown as it is. -/
theorem shown_of_isPlain {t : Text} (h : IsPlain t) : shown t = .ok t := by
  rw [shown]
  split
  · rw [piecesFrom_untagged h.untagged, List.reverse_nil, List.nil_append, plainPiece]
    split
    · next hnil =>
      subst hnil
      rfl
    · have hplain : plainOf [] [.plain (bareBrackets t)] = .ok (t, []) := by
        show Except.ok (withEmoji (bareBrackets t) ++ [], []) = _
        rw [bareBrackets_eq_self h.unescaped, h.no_emoji, List.append_nil]
      rw [hplain]
      exact congrArg _ (filter_isDropped h.printable)
  · rw [h.no_emoji, filter_isDropped h.printable]

theorem withEmoji_eq_self {t : Text} (h : ofChar ':' ∉ t) : withEmoji t = t := by
  induction t with
  | nil => rw [withEmoji]
  | cons c t ih =>
    rw [List.mem_cons, not_or] at h
    rw [withEmoji, if_neg (Ne.symm h.1), ih h.2]

theorem bracketed?_of_ne {c : CodePoint} (h : c ≠ ofChar '[') (s : Text) :
    bracketed? (c :: s) = none := by
  have hafter : after? "[" (c :: s) = none := if_neg (Ne.symm h)
  rw [bracketed?, hafter]

/-- Text that has nothing to do with markup, though it need not be printable. -/
structure IsBare (t : Text) : Prop where
  no_bracket : ofChar '[' ∉ t
  no_slash : ofChar '\\' ∉ t
  no_colon : ofChar ':' ∉ t

instance (t : Text) : Decidable (IsBare t) :=
  decidable_of_iff (ofChar '[' ∉ t ∧ ofChar '\\' ∉ t ∧ ofChar ':' ∉ t)
    ⟨fun h => ⟨h.1, h.2.1, h.2.2⟩, fun h => ⟨h.no_bracket, h.no_slash, h.no_colon⟩⟩

theorem IsBare.withEmoji_bareBrackets {t : Text} (h : IsBare t) :
    withEmoji (bareBrackets t) = t := by
  rw [bareBrackets_eq_self fun hescaped => h.no_bracket (hescaped.subset (by decide)),
    withEmoji_eq_self h.no_colon]

theorem IsBare.isPlain {t : Text} (h : IsBare t) (hprintable : t.IsPrintable) : IsPlain t := by
  refine ⟨hprintable, ?_, fun hescaped => h.no_bracket (hescaped.subset (by decide)),
    withEmoji_eq_self h.no_colon⟩
  rw [holdsTag, List.any_eq_false]
  intro s hs
  cases s with
  | nil => decide
  | cons c s =>
    have hc : c ≠ ofChar '[' := by
      rintro rfl
      exact h.no_bracket (((List.mem_tails _ _).mp hs).subset List.mem_cons_self)
    rw [bracketed?_of_ne hc]
    decide

theorem shown_of_isBare {t : Text} (h : IsBare t) (hprintable : t.IsPrintable) :
    shown t = .ok t := shown_of_isPlain (h.isPlain hprintable)

theorem isAsciiDigit_of_mem_ofNat {n : Nat} {c : CodePoint} (h : c ∈ ofNat n) :
    48 ≤ c.val ∧ c.val ≤ 57 := by
  obtain ⟨d, hd, rfl⟩ := List.mem_map.mp h
  rw [Nat.toList_repr] at hd
  show 48 ≤ d.toNat ∧ d.toNat ≤ 57
  simpa [Char.isDigit, UInt32.le_iff_toNat_le] using
    Nat.isDigit_of_mem_toDigits (by decide) (by decide) hd

theorem isBare_ofNat (n : Nat) : IsBare (ofNat n) where
  no_bracket hc := absurd (isAsciiDigit_of_mem_ofNat hc) (by decide)
  no_slash hc := absurd (isAsciiDigit_of_mem_ofNat hc) (by decide)
  no_colon hc := absurd (isAsciiDigit_of_mem_ofNat hc) (by decide)

theorem isPrintable_ofNat (n : Nat) : (ofNat n).IsPrintable := by
  intro c hc
  have hdigit := isAsciiDigit_of_mem_ofNat hc
  rw [isPrintable, if_pos (by omega)]
  simp only [Bool.and_eq_true, decide_eq_true_eq]
  omega

section Markup

variable {plain s t inside : Text} {position : Nat} {c : CodePoint} {opened : List Tag}
  {pieces : List Piece}

/-- Text without brackets and backslashes is plain. -/
theorem piecesFrom_append (hbracket : ofChar '[' ∉ t) (hslash : ofChar '\\' ∉ t) (s : Text) :
    piecesFrom plain position (t ++ s) =
      piecesFrom (t.reverse ++ plain) (position + t.length) s := by
  induction t generalizing plain position with
  | nil => rfl
  | cons c t ih =>
    rw [List.mem_cons, not_or] at hbracket hslash
    have hnone : bracketed? ((c :: (t ++ s)).drop
        ((c :: (t ++ s)).takeWhile fun (c : CodePoint) => c = '\\').length) = none := by
      rw [List.takeWhile_cons_of_neg (by simpa using Ne.symm hslash.1)]
      exact bracketed?_of_ne (Ne.symm hbracket.1) _
    rw [List.cons_append, piecesFrom]
    dsimp only
    rw [hnone]
    dsimp only
    rw [ih hbracket.2 hslash.2, List.reverse_cons, List.append_assoc, List.length_cons]
    simp only [List.singleton_append, Nat.add_assoc, Nat.add_comm 1]

theorem bracketed?_tag (hc : startsTag c = true)
    (hinside : ∀ d ∈ inside, d ≠ ofChar ']' ∧ d ≠ ofChar '[') (s : Text) :
    bracketed? (ofChar '[' :: c :: (inside ++ ofChar ']' :: s)) = some (c :: inside, s) := by
  have hopened : after? "[" (ofChar '[' :: c :: (inside ++ ofChar ']' :: s)) =
      some (c :: (inside ++ ofChar ']' :: s)) := after?_append "[" _
  have htake : ((inside ++ ofChar ']' :: s).takeWhile fun d => decide (d ≠ ofChar ']') &&
      decide (d ≠ ofChar '[')) = inside := by
    refine takeWhile_append_stop (fun d hd => ?_) rfl
    simpa using hinside d hd
  have hclosed : after? "]" (ofChar ']' :: s) = some s := after?_append "]" s
  rw [bracketed?, hopened]
  dsimp only
  rw [if_pos hc, htake, List.drop_left, hclosed]

theorem piecesFrom_tag (hc : startsTag c = true)
    (hinside : ∀ d ∈ inside, d ≠ ofChar ']' ∧ d ≠ ofChar '[') (s : Text) :
    piecesFrom plain position (ofChar '[' :: c :: (inside ++ ofChar ']' :: s)) =
      plainPiece plain.reverse ++ .tag (.ofContent (c :: inside)) position ::
        piecesFrom [] (position + (inside.length + 1 + 2)) s := by
  have hslashes : ((ofChar '[' :: c :: (inside ++ ofChar ']' :: s)).takeWhile
      fun (c : CodePoint) => c = '\\') = [] := rfl
  have hlt : s.length < (c :: (inside ++ ofChar ']' :: s)).length + 1 := by
    simp only [List.length_cons, List.length_append]
    omega
  rw [piecesFrom]
  dsimp only
  rw [hslashes, List.length_nil, List.drop_zero, bracketed?_tag hc hinside]
  dsimp only
  rw [if_pos hlt]
  simp [plainPiece]

theorem ofContent_eq (h : ofChar '=' ∉ t) : Tag.ofContent t = ⟨t, none⟩ := by
  have hall : ∀ c ∈ t, decide (c ≠ ofChar '=') = true := fun c hc =>
    decide_eq_true (ne_of_mem_of_not_mem hc h)
  have hdrop : (t.dropWhile fun c => decide (c ≠ ofChar '=')) = [] :=
    List.dropWhile_eq_nil_iff.mpr hall
  rw [Tag.ofContent, hdrop]

/-- The name of a style that is its own normal form. -/
structure IsStyle (name : Text) : Prop where
  normal : normalStyle name = .ok name
  stripped : name.strip = name
  ne_nil : name ≠ []
  letters : ∀ c ∈ name, c.isAsciiLower = true

instance (name : Text) : Decidable (IsStyle name) :=
  decidable_of_iff (normalStyle name = .ok name ∧ name.strip = name ∧ name ≠ [] ∧
      ∀ c ∈ name, c.isAsciiLower = true)
    ⟨fun h => ⟨h.1, h.2.1, h.2.2.1, h.2.2.2⟩,
      fun h => ⟨h.normal, h.stripped, h.ne_nil, h.letters⟩⟩

theorem IsStyle.not_mem {name : Text} (h : IsStyle name) (hc : c.isAsciiLower = false) : c ∉ name :=
  fun hmem => by simp [h.letters c hmem] at hc

/-- A text in a style. -/
def styled (name t : Text) : Text :=
  ofChar '[' :: (name ++ ofChar ']' :: (t ++ ofChar '[' :: ofChar '/' :: (name ++ [ofChar ']'])))

/-- The parts show the text, and no tag in them has a value. -/
def Shows (opened : List Tag) (pieces : List Piece) (text : Text) : Prop :=
  ∃ tags, plainOf opened pieces = .ok (text, tags) ∧ ∀ tag ∈ tags, tag.value = none

namespace Shows

variable {text name : Text}

theorem plain_append (ht : IsBare t) (h : Shows opened pieces text) :
    Shows opened (plainPiece t ++ pieces) (t ++ text) := by
  rw [plainPiece]
  split
  · next hnil => rwa [hnil]
  · obtain ⟨tags, hread, htags⟩ := h
    refine ⟨tags, ?_, htags⟩
    rw [List.singleton_append, plainOf, hread, ht.withEmoji_bareBrackets]
    rfl

theorem opening (hname : IsStyle name) (h : Shows (⟨name, none⟩ :: opened) pieces text) :
    Shows opened (.tag ⟨name, none⟩ position :: pieces) text := by
  obtain ⟨tags, hread, htags⟩ := h
  refine ⟨⟨name, none⟩ :: tags, ?_, List.forall_mem_cons.mpr ⟨rfl, htags⟩⟩
  have hopens : after? "/" name = none := by
    cases hafter : after? "/" name with
    | none => rfl
    | some rest =>
      have hslash : ofChar '/' ∉ name := hname.not_mem (by decide)
      rw [eq_append_of_after? hafter] at hslash
      exact absurd List.mem_cons_self hslash
  simp only [plainOf, hopens, hname.normal, Except.mapError, hread, bind, Except.bind, pure,
    Except.pure]

theorem closing (hname : IsStyle name) (h : Shows opened pieces text) :
    Shows (⟨name, none⟩ :: opened) (.tag ⟨ofChar '/' :: name, none⟩ position :: pieces) text := by
  obtain ⟨tags, hread, htags⟩ := h
  refine ⟨tags, ?_, htags⟩
  have hcloses : after? "/" (ofChar '/' :: name) = some name := after?_append "/" name
  simp only [plainOf, hcloses, hname.stripped, if_neg hname.ne_nil, hname.normal, Except.mapError,
    closeLast?, if_true, checkHandler, hread, bind, Except.bind]

/-- A text in a style shows the text. -/
theorem styled_append (hname : IsStyle name) (hplain : IsBare plain) (ht : IsBare t)
    (h : ∀ position, Shows opened (piecesFrom [] position s) text) :
    Shows opened (piecesFrom [] position (plain ++ (styled name t ++ s)))
      (plain ++ (t ++ text)) := by
  -- the opening tag and the closing one are both read by `piecesFrom_tag`
  obtain ⟨c, inside, rfl⟩ := List.exists_cons_of_ne_nil hname.ne_nil
  have hstarts : startsTag c = true := by
    simp [startsTag, hname.letters c List.mem_cons_self]
  have hname_inside : ∀ d ∈ c :: inside, d ≠ ofChar ']' ∧ d ≠ ofChar '[' := fun d hd =>
    ⟨ne_of_mem_of_not_mem hd (hname.not_mem (by decide)),
      ne_of_mem_of_not_mem hd (hname.not_mem (by decide))⟩
  have heq : ofChar '=' ∉ c :: inside := hname.not_mem (by decide)
  have heq_closing : ofChar '=' ∉ ofChar '/' :: c :: inside := fun hmem =>
    (List.mem_cons.mp hmem).elim (by decide) heq
  have hopened : styled (c :: inside) t ++ s = ofChar '[' :: c :: (inside ++ ofChar ']' ::
      (t ++ ofChar '[' :: ofChar '/' :: (c :: inside ++ ofChar ']' :: s))) := by
    simp [styled]
  rw [piecesFrom_append hplain.no_bracket hplain.no_slash, hopened,
    piecesFrom_tag hstarts (fun d hd => hname_inside d (List.mem_cons_of_mem c hd)),
    ofContent_eq heq, List.append_nil, List.reverse_reverse]
  refine plain_append hplain (opening hname ?_)
  rw [piecesFrom_append ht.no_bracket ht.no_slash, piecesFrom_tag (by decide) hname_inside,
    ofContent_eq heq_closing, List.append_nil, List.reverse_reverse]
  exact plain_append ht (closing hname (h _))

theorem of_bare (ht : IsBare t) (position : Nat) :
    Shows opened (piecesFrom [] position t) t := by
  have hnil : Shows opened [] [] := ⟨[], rfl, List.forall_mem_nil _⟩
  have hpieces : piecesFrom [] position t = plainPiece t ++ [] := by
    rw [← List.append_nil t, piecesFrom_append ht.no_bracket ht.no_slash, piecesFrom]
    simp
  rw [hpieces]
  simpa using plain_append ht hnil

end Shows

theorem forM_checkStyle {tags : List Tag} (h : ∀ tag ∈ tags, tag.value = none) :
    tags.forM checkStyle = .ok () := by
  induction tags with
  | nil => rfl
  | cons tag tags ih =>
    rw [List.forall_mem_cons] at h
    have htag : checkStyle tag = .ok () := by rw [checkStyle, h.1]
    show (checkStyle tag >>= fun _ => tags.forM checkStyle) = _
    rw [htag]
    exact ih h.2

/-- What the parts of a text show is shown, but for code points that are never shown. -/
theorem shown_of_shows {markup text : Text} (h : Shows [] (piecesFrom [] 0 markup) text)
    (hbracket : ofChar '[' ∈ markup) :
    shown markup = .ok (text.filter fun c => !isDropped c) := by
  obtain ⟨tags, hread, htags⟩ := h
  rw [shown, if_pos (by simpa using hbracket), hread]
  show (tags.forM checkStyle >>= fun _ => _) = _
  rw [forM_checkStyle htags]
  rfl

/-- A printable text in a style is shown without the style. -/
theorem shown_styled {name : Text} (hname : IsStyle name) (ht : IsBare t)
    (hprintable : t.IsPrintable) : shown (styled name t) = .ok t := by
  have hend (position : Nat) : Shows [] (piecesFrom [] position []) [] :=
    Shows.of_bare (by decide) position
  have hshows : Shows [] (piecesFrom [] 0 ([] ++ (styled name t ++ []))) ([] ++ (t ++ [])) :=
    Shows.styled_append hname (by decide) ht hend
  rw [List.nil_append, List.append_nil, List.nil_append, List.append_nil] at hshows
  rw [shown_of_shows hshows List.mem_cons_self, filter_isDropped hprintable]

theorem exists_shown_of_no_bracket (h : ofChar '[' ∉ t) : ∃ text, shown t = .ok text := by
  rw [shown, if_neg (by simpa using h)]
  exact ⟨_, rfl⟩

end Markup

end Console

end SitePreview
