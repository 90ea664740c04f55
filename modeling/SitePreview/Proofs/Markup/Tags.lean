import SitePreview.Markup.Reference
import SitePreview.Proofs.Markup.Searching
import SitePreview.Proofs.Text.Parts

/-! Documents as tags with text between them, and what is left of one without the tags that refer to
local files. -/

namespace SitePreview.Markup

open Text CodePoint

section Tags

/-- What the names of elements and attributes are made of. -/
def isNamePoint (c : CodePoint) : Bool :=
  !(c.isBlank || c = '"' || c = '\'' || c = '<' || c = '>' || c = '/' || c = '=')

structure Name where
  text : Text
  ne_nil : text ≠ []
  points : ∀ c ∈ text, isNamePoint c = true

/-- The name is the given one, in ASCII letters of any case. -/
def Name.is (n : Name) (word : Text) : Bool := n.text.toLower = word

/-- A name with a value between quotes, and the white space in front of it. -/
structure Attribute where
  gap : Text
  name : Name
  quote : CodePoint
  value : Text
  gap_ne_nil : gap ≠ []
  gap_blank : ∀ c ∈ gap, c.isBlank = true
  quote_mem : quote ∈ [ofChar '"', ofChar '\'']
  value_free : ∀ c ∈ value, c ∉ [ofChar '"', ofChar '\'', ofChar '<', ofChar '>']

def Attribute.text (a : Attribute) : Text :=
  a.gap ++ (a.name.text ++ ofChar '=' :: a.quote :: (a.value ++ [a.quote]))

/-- A start tag, with white space and slashes in front of its end. -/
structure StartTag where
  name : Name
  attributes : List Attribute
  closing : Text
  closing_points : ∀ c ∈ closing, c.isBlank = true ∨ c = ofChar '/'

/-- A start tag without the mark that it starts with. -/
def StartTag.inner (t : StartTag) : Text :=
  t.name.text ++ (t.attributes.flatMap Attribute.text ++ (t.closing ++ [ofChar '>']))

structure EndTag where
  name : Name
  blanks : Text
  all_blank : ∀ c ∈ blanks, c.isBlank = true

/-- An end tag without the mark that it starts with. -/
def EndTag.inner (t : EndTag) : Text := ofChar '/' :: (t.name.text ++ (t.blanks ++ [ofChar '>']))

inductive Tag
  | opening (t : StartTag)
  | closing (t : EndTag)

namespace Tag

def inner : Tag → Text
  | opening t => t.inner
  | closing t => t.inner

def text (t : Tag) : Text := ofChar '<' :: t.inner

end Tag

/-- Text without the mark of a tag. -/
structure Content where
  text : Text
  markless : markless text = true

/-- A tag and the text up to the next one. -/
structure Piece where
  tag : Tag
  content : Content

def piecesText (ps : List Piece) : Text := ps.flatMap fun p => p.tag.text ++ p.content.text

/-- A document: text, and tags with text behind each of them. -/
structure Document where
  lead : Content
  pieces : List Piece

def Document.text (d : Document) : Text := d.lead.text ++ piecesText d.pieces

end Tags

section Addresses

def isSchemePoint (c : CodePoint) : Bool :=
  c.isAsciiLetter || c.isAsciiDigit || c = '+' || c = '.' || c = '-'

/-- The address starts with a scheme and a colon. -/
def HasScheme (s : Text) : Prop :=
  ∃ c w t, s = c :: (w ++ ofChar ':' :: t) ∧ c.isAsciiLetter = true ∧
    ∀ d ∈ w, isSchemePoint d = true

/-- The address, white space around it aside, starts neither with a scheme nor with two slashes. -/
def IsLocal (address : Text) : Prop :=
  ¬HasScheme address.strip ∧ ¬ofString "//" <+: address.strip

theorem hasScheme_cons_iff (c : CodePoint) (s : Text) :
    HasScheme (c :: s) ↔
      c.isAsciiLetter = true ∧ (s.dropWhile isSchemePoint).head? = some (ofChar ':') := by
  constructor
  · rintro ⟨d, w, t, h, hd, hw⟩
    obtain ⟨rfl, rfl⟩ := List.cons.inj h
    exact ⟨hd, by rw [dropWhile_append_stop hw rfl]; rfl⟩
  · rintro ⟨hc, ht⟩
    obtain ⟨u, hu⟩ := List.head?_eq_some_iff.mp ht
    refine ⟨c, s.takeWhile isSchemePoint, u, ?_, hc, fun d hd => ?_⟩
    · rw [← hu, List.takeWhile_append_dropWhile]
    · exact List.all_eq_true.mp List.all_takeWhile d hd

instance (s : Text) : Decidable (HasScheme s) :=
  match s with
  | [] => isFalse fun ⟨_, _, _, h, _⟩ => List.cons_ne_nil _ _ h.symm
  | c :: s => decidable_of_iff _ (hasScheme_cons_iff c s).symm

instance (address : Text) : Decidable (IsLocal address) :=
  inferInstanceAs (Decidable (¬_ ∧ ¬_))

end Addresses

section References

/-- The tag is one of the element and has the attribute with a local address in it. -/
def Tag.isReference (element word : Text) : Tag → Bool
  | .opening t => t.name.is element &&
    t.attributes.any fun a => a.name.is word && decide (IsLocal a.value)
  | .closing _ => false

/-- The tag is the end tag of the element. -/
def Tag.ends (element : Text) : Tag → Bool
  | .opening _ => false
  | .closing t => t.name.is element

namespace Content

def append (a b : Content) : Content :=
  ⟨a.text ++ b.text, by rw [markless_append, a.markless, b.markless, Bool.and_self]⟩

theorem markless_of_suffix {s t : Text} (h : s <:+ t) (ht : Markup.markless t = true) :
    Markup.markless s = true :=
  List.all_eq_true.mpr fun c hc => List.all_eq_true.mp ht c (h.subset hc)

theorem skipLineEnd_suffix (s : Text) : skipLineEnd s <:+ s :=
  (dropPrefix_suffix _ _).trans (skipInline_suffix s)

/-- The text without the blanks it starts with and the line feed behind them. -/
def skipLineEnd (a : Content) : Content :=
  ⟨Markup.skipLineEnd a.text, markless_of_suffix (skipLineEnd_suffix a.text) a.markless⟩

def empty : Content := ⟨[], rfl⟩

end Content

/-- What comes in front of the next tag, and the pieces from it on. -/
abbrev Rest : Type := Content × List Piece

/-- The text in front of what comes behind it. -/
def Rest.behind (a : Content) (r : Rest) : Rest := (a.append r.1, r.2)

/-- The piece in front of what comes behind it. -/
def Rest.behindPiece (p : Piece) (r : Rest) : Rest :=
  (.empty, ⟨p.tag, p.content.append r.1⟩ :: r.2)

/-- Drops the script tags with a local source that are followed by nothing but white space and their
end tag, with that end tag and the line end behind it. -/
def dropScripts : List Piece → Rest
  | [] => (.empty, [])
  | [p] => (.empty, [p])
  | p :: q :: ps =>
    if p.tag.isReference "script" "src" ∧ p.content.text.isBlank = true ∧ q.tag.ends "script" then
      (dropScripts ps).behind q.content.skipLineEnd
    else (dropScripts (q :: ps)).behindPiece p

/-- Drops the link tags with a local address, with the line end behind them. -/
def dropLinks : List Piece → Rest
  | [] => (.empty, [])
  | p :: ps =>
    if p.tag.isReference "link" "href" then (dropLinks ps).behind p.content.skipLineEnd
    else (dropLinks ps).behindPiece p

/-- The document with its pieces changed. -/
def Document.changed (change : List Piece → Rest) (d : Document) : Document :=
  ⟨d.lead.append (change d.pieces).1, (change d.pieces).2⟩

/-- The document without references to local files: first the scripts go, then the links. -/
def Document.withoutLocal (d : Document) : Document := (d.changed dropScripts).changed dropLinks

end References

end SitePreview.Markup
