import SitePreview.Document.Render
import SitePreview.Proofs.Markup.Searching

/-! Documents put together from parts: text of the document's own, fragments that are put in whole,
and what is set beside them. A document can be split in front of a tag, and a fragment put in there,
without a split in any part of which the tag is not a piece. -/

namespace SitePreview.Document

open Text Markup
open scoped List

inductive Part
  | own (t : Text)
  | fragment (t : Text)
  | joint (t : Text)

namespace Part

def text : Part → Text
  | own t => t
  | fragment t => t
  | joint t => t

def ownText : Part → Text
  | own t => t
  | _ => []

def fragment? : Part → Option Text
  | fragment t => some t
  | _ => none

/-- The part may be split, or the word starts nowhere inside it. -/
def Closed (word : Text) : Part → Prop
  | own _ => True
  | fragment t => freeOf word t.tail = true
  | joint t => freeOf word t.tail = true

end Part

/-- What parts are put together to. -/
def textOf (parts : List Part) : Text := parts.flatMap Part.text

/-- What is left of it without the fragments and what stands beside them. -/
def ownText (parts : List Part) : Text := parts.flatMap Part.ownText

def fragmentsOf (parts : List Part) : List Text := parts.filterMap Part.fragment?

/-- What may stand beside fragments: line feeds, and the tags of a head that there was none of. -/
def jointTexts : List Text := ["\n", "\n<head>\n", "</head>"]

/-- The parts make up the document with the fragments, empty ones aside, put in. -/
structure Assembly (document : Text) (fragments : List Text) (parts : List Part) : Prop where
  own : ownText parts = document
  fragments : (fragmentsOf parts).Perm (fragments.filter (· ≠ []))
  joints : ∀ t, .joint t ∈ parts → t ∈ jointTexts

/-- The same parts, one of the document's own perhaps in two pieces, before and behind a place. -/
structure SplitAt (parts ps qs : List Part) : Prop where
  own : ownText ps ++ ownText qs = ownText parts
  fragments : fragmentsOf ps ++ fragmentsOf qs = fragmentsOf parts
  mem : ∀ p ∈ ps ++ qs, p ∈ parts ∨ ∃ t, p = .own t

variable {document fragment before rest more word : Text} {fragments : List Text}
  {parts ps qs : List Part} {p : Part}

theorem textOf_append (ps qs : List Part) : textOf (ps ++ qs) = textOf ps ++ textOf qs :=
  List.flatMap_append

theorem textOf_cons (p : Part) (ps : List Part) : textOf (p :: ps) = p.text ++ textOf ps :=
  List.flatMap_cons

theorem ownText_append (ps qs : List Part) : ownText (ps ++ qs) = ownText ps ++ ownText qs :=
  List.flatMap_append

theorem ownText_cons (p : Part) (ps : List Part) : ownText (p :: ps) = p.ownText ++ ownText ps :=
  List.flatMap_cons

theorem fragmentsOf_append (ps qs : List Part) :
    fragmentsOf (ps ++ qs) = fragmentsOf ps ++ fragmentsOf qs :=
  List.filterMap_append

theorem ownText_joints (ts : List Text) : ownText (ts.map .joint) = [] := by
  induction ts with
  | nil => rfl
  | cons t ts ih => exact ih

theorem fragmentsOf_joints (ts : List Text) : fragmentsOf (ts.map .joint) = [] := by
  induction ts with
  | nil => rfl
  | cons t ts ih => exact ih

theorem splitAt_start (parts : List Part) : SplitAt parts [] parts :=
  ⟨rfl, rfl, fun _ h => .inl h⟩

theorem splitAt_end (parts : List Part) : SplitAt parts parts [] := by
  refine ⟨?_, ?_, fun p h => .inl ?_⟩
  · exact List.append_nil _
  · exact List.append_nil _
  · rwa [List.append_nil] at h

theorem splitAt_own (x y : Text) (parts : List Part) :
    SplitAt (.own (x ++ y) :: parts) [.own x] (.own y :: parts) where
  own := by simp [ownText, Part.ownText]
  fragments := rfl
  mem p hp := by
    simp only [List.singleton_append, List.mem_cons] at hp
    rcases hp with rfl | rfl | hp
    · exact .inr ⟨x, rfl⟩
    · exact .inr ⟨y, rfl⟩
    · exact .inl (List.mem_cons_of_mem _ hp)

theorem SplitAt.append_left (h : SplitAt parts ps qs) (front : List Part) :
    SplitAt (front ++ parts) (front ++ ps) qs where
  own := by rw [ownText_append, ownText_append, List.append_assoc, h.own]
  fragments := by rw [fragmentsOf_append, fragmentsOf_append, List.append_assoc, h.fragments]
  mem p hp := by
    rw [List.append_assoc, List.mem_append] at hp
    rcases hp with hp | hp
    · exact .inl (List.mem_append_left _ hp)
    · exact (h.mem p hp).imp_left (List.mem_append_right _)

theorem SplitAt.append_right (h : SplitAt parts ps qs) (back : List Part) :
    SplitAt (parts ++ back) ps (qs ++ back) where
  own := by rw [ownText_append, ownText_append, ← List.append_assoc, h.own]
  fragments := by rw [fragmentsOf_append, fragmentsOf_append, ← List.append_assoc, h.fragments]
  mem p hp := by
    rw [← List.append_assoc, List.mem_append] at hp
    rcases hp with hp | hp
    · exact (h.mem p hp).imp_left (List.mem_append_left _)
    · exact .inl (List.mem_append_right _ hp)

/-- Inside a closed part, the word does not start: a part can only be split there if it is the
document's own. -/
theorem Part.Closed.exists_own (h : p.Closed word) {x y : Text} (hp : p.text = x ++ y)
    (hx : x ≠ []) (hy : y ≠ []) (hword : (afterFolded? word (y ++ more)).isSome = true) :
    p = .own (x ++ y) := by
  cases p with
  | own t => exact congrArg Part.own hp
  | fragment t | joint t =>
    refine absurd hword ?_
    obtain ⟨c, x, rfl⟩ := List.exists_cons_of_ne_nil hx
    have hfree : freeOf word (x ++ y) = true := by
      have htail : t.tail = x ++ y := congrArg List.tail hp
      exact htail ▸ h
    rw [afterFolded?_of_freeOf (freeOf_right hfree) hy more]
    simp

/-- Closed parts can be split in front of a place at which the word starts. -/
theorem exists_splitAt (more : Text) (hclosed : ∀ p ∈ parts, p.Closed word)
    (h : textOf parts = before ++ rest)
    (hword : (afterFolded? word (rest ++ more)).isSome = true) :
    ∃ ps qs, textOf ps = before ∧ textOf qs = rest ∧ SplitAt parts ps qs := by
  induction parts generalizing before with
  | nil =>
    obtain ⟨rfl, rfl⟩ := List.append_eq_nil_iff.mp h.symm
    exact ⟨[], [], rfl, rfl, splitAt_start []⟩
  | cons p parts ih =>
    rw [List.forall_mem_cons] at hclosed
    rw [textOf_cons] at h
    rcases List.append_eq_append_iff.mp h with ⟨b, rfl, hb⟩ | ⟨y, hp, rfl⟩
    · obtain ⟨ps, qs, rfl, hqs, hsplit⟩ := ih hclosed.2 hb
      exact ⟨p :: ps, qs, textOf_cons p ps, hqs, hsplit.append_left [p]⟩
    by_cases hbefore : before = []
    · subst hbefore
      refine ⟨[], p :: parts, rfl, ?_, splitAt_start _⟩
      rw [textOf_cons, hp, List.nil_append]
    by_cases hy : y = []
    · subst hy
      rw [List.append_nil] at hp
      exact ⟨[p], parts, by simp [textOf, hp], rfl, (splitAt_start parts).append_left [p]⟩
    · rw [List.append_assoc] at hword
      obtain rfl := hclosed.1.exists_own hp hbefore hy hword
      exact ⟨[.own before], .own y :: parts, by simp [textOf, Part.text], rfl,
        splitAt_own before y parts⟩

/-- A fragment is put in at a place, with something on each side of it. -/
theorem Assembly.put (left right : List Text) (h : Assembly document fragments parts)
    (hsplit : SplitAt parts ps qs) (hfragment : fragment ≠ []) (hleft : ∀ t ∈ left, t ∈ jointTexts)
    (hright : ∀ t ∈ right, t ∈ jointTexts) :
    Assembly document (fragments ++ [fragment])
      (ps ++ left.map .joint ++ .fragment fragment :: (right.map .joint ++ qs)) where
  own := by
    rw [ownText_append, ownText_append, ownText_cons, ownText_append, ownText_joints,
      ownText_joints, List.append_nil, List.nil_append]
    exact hsplit.own.trans h.own
  fragments := by
    have hparts : fragmentsOf (ps ++ left.map .joint ++ .fragment fragment ::
        (right.map .joint ++ qs)) = fragmentsOf ps ++ fragment :: fragmentsOf qs := by
      rw [fragmentsOf_append, fragmentsOf_append, fragmentsOf_joints, List.append_nil,
        ← List.singleton_append, fragmentsOf_append, fragmentsOf_append, fragmentsOf_joints]
      rfl
    rw [hparts, List.filter_append, List.filter_cons_of_pos (by simpa using hfragment),
      List.filter_nil]
    calc fragmentsOf ps ++ fragment :: fragmentsOf qs
        ~ fragment :: (fragmentsOf ps ++ fragmentsOf qs) := List.perm_middle
      _ ~ fragment :: fragments.filter (· ≠ []) := by
        rw [hsplit.fragments]
        exact h.fragments.cons fragment
      _ ~ fragments.filter (· ≠ []) ++ [fragment] := (List.perm_append_singleton ..).symm
  joints t ht := by
    simp only [List.mem_append, List.mem_cons, List.mem_map, Part.joint.injEq, reduceCtorEq,
      false_or, exists_eq_right] at ht
    have hmem (ht : .joint t ∈ ps ++ qs) : t ∈ jointTexts := by
      rcases hsplit.mem _ ht with ht | ⟨x, hx⟩
      · exact h.joints t ht
      · cases hx
    rcases ht with (ht | ht) | ht | ht
    · exact hmem (List.mem_append_left _ ht)
    · exact hleft t ht
    · exact hright t ht
    · exact hmem (List.mem_append_right _ ht)

/-- A fragment that was put in stands in the document whole. -/
theorem Assembly.infix (h : Assembly document fragments parts) (fragment : Text)
    (hfragment : fragment ∈ fragments) (hne : fragment ≠ []) : fragment <:+: textOf parts := by
  have hmem : fragment ∈ fragmentsOf parts :=
    h.fragments.mem_iff.mpr (List.mem_filter.mpr ⟨hfragment, by simpa using hne⟩)
  obtain ⟨p, hp, hpart⟩ := List.mem_filterMap.mp hmem
  obtain ⟨ps, qs, rfl⟩ := List.append_of_mem hp
  cases p with
  | fragment t =>
    cases hpart
    exact ⟨textOf ps, textOf qs, by simp [textOf, Part.text]⟩
  | own | joint => cases hpart

end SitePreview.Document
