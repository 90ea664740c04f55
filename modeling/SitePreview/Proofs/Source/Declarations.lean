import SitePreview.Proofs.Source.MountItem
import SitePreview.Proofs.Source.Rounds
import SitePreview.Proofs.Text.Parts

/-! Declarations beside mount statements. The pass takes whole lines away, each time those of one
mount statement, so a declaration is lost exactly when it stands within what is read as one. -/

namespace SitePreview.Source

open Text CodePoint

variable {p : Text → Bool} {c : CodePoint} {r s t u w : Text} {l : Text} {x : Search}
  {xs : List Search} {removed more : List Text}

/-- The lines of a text. -/
def lines (s : Text) : List Text := s.splitOn '\n'

/-- The lines of a text that `p` picks. -/
def picked (p : Text → Bool) (s : Text) : List Text := (lines s).filter p

/-- Of the lines that `p` picks, `t` keeps some in their order, and the removed texts hold the
others. -/
structure Parts (p : Text → Bool) (s : Text) (removed : List Text) (t : Text) : Prop where
  sublist : (picked p t).Sublist (picked p s)
  perm : (picked p s).Perm (picked p t ++ removed.flatMap (picked p))

namespace Parts

theorem refl (p : Text → Bool) (s : Text) : Parts p s [] s :=
  ⟨.refl _, by simp⟩

theorem trans (hs : Parts p s removed t) (ht : Parts p t more u) :
    Parts p s (removed ++ more) u := by
  refine ⟨ht.sublist.trans hs.sublist, ?_⟩
  calc (picked p s).Perm (picked p t ++ removed.flatMap (picked p)) := hs.perm
    _ |>.Perm ((picked p u ++ more.flatMap (picked p)) ++ removed.flatMap (picked p)) :=
      ht.perm.append_right _
    _ |>.Perm (picked p u ++ (removed ++ more).flatMap (picked p)) := by
      rw [List.append_assoc, List.flatMap_append]
      exact List.perm_append_comm.append_left _

/-- Nothing is lost exactly when the removed texts hold none of the lines. -/
theorem eq_iff (h : Parts p s removed t) :
    picked p t = picked p s ↔ ∀ st ∈ removed, picked p st = [] := by
  rw [← List.flatMap_eq_nil_iff]
  have hlength := h.perm.length_eq
  rw [List.length_append] at hlength
  constructor
  · intro heq
    rw [heq] at hlength
    exact List.length_eq_zero_iff.mp (by omega)
  · intro hnil
    rw [hnil, List.length_nil, Nat.add_zero] at hlength
    exact h.sublist.eq_of_length hlength.symm

end Parts

section Lines

theorem eq_nil_or_of_endsLine (h : endsLine s = true) : s = [] ∨ ∃ v, s = v ++ [ofChar '\n'] := by
  rcases List.eq_nil_or_concat s with rfl | ⟨v, d, rfl⟩
  · exact .inl rfl
  · rw [List.concat_eq_append, endsLine_append_singleton, decide_eq_true_eq] at h
    exact .inr ⟨v, by rw [List.concat_eq_append, h]⟩

/-- Behind the end of a line the lines start anew. -/
theorem picked_append (hp : p [] = false) (h : endsLine s = true) (t : Text) :
    picked p (s ++ t) = picked p s ++ picked p t := by
  have hnil : picked p [] = [] := by simp [picked, lines, splitOn, hp]
  rcases eq_nil_or_of_endsLine h with rfl | ⟨v, rfl⟩
  · rw [hnil, List.nil_append, List.nil_append]
  · have hlines (t : Text) : picked p (v ++ ofChar '\n' :: t) = picked p v ++ picked p t := by
      rw [picked, lines, splitOn_append, List.filter_append]
      rfl
    rw [List.append_assoc, List.singleton_append, hlines, hlines, hnil, List.append_nil]

/-- Taking whole lines away keeps the others. -/
theorem parts_of_append (hp : p [] = false) (hs : endsLine s = true)
    (hw : endsLine w = true ∨ t = []) : Parts p (s ++ (w ++ t)) [w] (s ++ t) := by
  have hpicked : picked p (w ++ t) = picked p w ++ picked p t := by
    rcases hw with hw | rfl
    · exact picked_append hp hw t
    · simp [picked, lines, splitOn, hp]
  rw [← List.append_nil [w], ← List.nil_append [w]]
  refine ⟨?_, ?_⟩
  · rw [picked_append hp hs, picked_append hp hs, hpicked]
    exact (List.sublist_append_right _ _).append_left _
  · rw [picked_append hp hs, picked_append hp hs, hpicked, List.append_assoc]
    simpa using List.perm_append_comm.append_left (picked p s)

end Lines

section Removed

/-- A mount statement that one of the searches knows, with the line feed behind it if there is
one. -/
def IsMount (xs : List Search) (st : Text) : Prop :=
  ∃ m : Statement, (∃ x ∈ xs, x.Knows m.start) ∧ (st = m.text ∨ st = m.text ++ [ofChar '\n'])

theorem IsMount.mono {ys : List Search} (hsub : xs ⊆ ys) (h : IsMount xs s) : IsMount ys s := by
  obtain ⟨m, ⟨x, hx, hm⟩, hs⟩ := h
  exact ⟨m, ⟨x, hsub hx, hm⟩, hs⟩

/-- What a search removes is a mount statement to the end of its line. -/
theorem exists_statement (hx : x.Named) (h : removable? x.call? (w ++ r) = some r) :
    IsMount [x] w ∧ (endsLine w = true ∨ r = []) := by
  obtain ⟨opened, hcall, hst⟩ := Option.bind_eq_some_iff.mp h
  obtain ⟨i, m, v, hm, -, hw⟩ := Search.exists_start hx hcall
  obtain ⟨t, e, en, ht, rfl, he⟩ := exists_calls hst
  let statement : Statement := ⟨i, m, t, ht, en⟩
  have htext : w ++ r = statement.text ++ e := by
    rw [hw]
    simp [statement, Statement.text]
  cases he with
  | stop =>
    rw [List.append_nil, List.append_nil] at htext
    exact ⟨⟨statement, ⟨x, by simp, hm⟩, .inl htext⟩, .inr rfl⟩
  | feed =>
    have hline : w = statement.text ++ [ofChar '\n'] :=
      List.append_cancel_right (htext.trans (by simp))
    refine ⟨⟨statement, ⟨x, by simp, hm⟩, .inr hline⟩, .inl ?_⟩
    rw [hline, endsLine_append_singleton]
    rfl

variable (hp : p [] = false)
include hp

/-- A round takes the lines of one mount statement away, or none. -/
theorem Round.parts {a b : Scan} (hx : x.Named) (h : Round x.call? a b) :
    ∃ more, b.removed = a.removed ++ more ∧ (∀ st ∈ more, IsMount [x] st) ∧
      Parts p a.text more b.text := by
  cases h with
  | @removes q v w r removed line _ statement _ =>
    obtain ⟨hmount, hw⟩ := exists_statement hx statement
    refine ⟨[w], rfl, by simpa using hmount, ?_⟩
    have := parts_of_append hp line hw
    rwa [List.append_assoc] at this
  | @passes q v w r removed _ =>
    refine ⟨[], by simp, by simp, ?_⟩
    have htext : Scan.text ⟨q ++ (v ++ (w ++ [ofChar '('])), r, removed⟩ =
        Scan.text ⟨q, v ++ (w ++ ofChar '(' :: r), removed⟩ := by simp [Scan.text]
    rw [htext]
    exact .refl p _

theorem Searched.parts (hxs : ∀ x ∈ xs, x.Named ∧ Opens x.call?)
    (h : Searched xs s removed t) :
    (∀ st ∈ removed, IsMount xs st) ∧ Parts p s removed t := by
  induction h with
  | done s => exact ⟨by simp, .refl p s⟩
  | @next x xs s t a removed rounds rest ih =>
    rw [List.forall_mem_cons] at hxs
    obtain ⟨hmounts, hparts⟩ := ih hxs.2
    let P (b : Scan) : Prop := (∀ st ∈ b.removed, IsMount [x] st) ∧ Parts p s b.removed b.text
    have hkeeps (b d : Scan) (h : round? x.call? b = some d) (hb : P b) : P d := by
      obtain ⟨more, hmore, hnew, hround⟩ := (round?_spec hxs.1.2 h).parts hp hxs.1.1
      obtain ⟨hold, hb⟩ := hb
      refine ⟨?_, hmore ▸ hb.trans hround⟩
      rw [hmore, List.forall_mem_append]
      exact ⟨hold, hnew⟩
    obtain ⟨⟨hsearch, ha⟩, -⟩ := rounds.ends (P := P) ⟨by simp [Scan.start], .refl p s⟩ hkeeps
    refine ⟨List.forall_mem_append.mpr ⟨fun st hst => ?_, fun st hst => ?_⟩, ha.trans hparts⟩
    · exact (hsearch st hst).mono (by simp)
    · exact (hmounts st hst).mono (List.subset_cons_self x xs)

end Removed

/-- The names that a search is made for are names that a variable can have. -/
theorem Search.all_named (s : Text) : ∀ x ∈ Search.all s, x.Named := by
  simp only [Search.all, List.forall_mem_cons, List.forall_mem_map]
  refine ⟨trivial, trivial, fun n hn => ?_⟩
  obtain ⟨u, r, hu⟩ := mem_findFrom (mem_distinct.mp hn)
  obtain ⟨⟨name, opened⟩, hb, he⟩ := Option.map_eq_some_iff.mp hu
  obtain ⟨rfl, -⟩ := Prod.mk.inj he
  obtain ⟨i, b, v, hname, -⟩ := exists_bindingStart hb
  exact ⟨b.name, hname⟩

section Declarations

/-- What stands on the first line of a text. -/
def firstLine (s : Text) : Text := s.takeWhile (· ≠ ofChar '\n')

/-- The lines that begin a declaration in the first column and bind no root. -/
def declarations (s : Text) : List Text :=
  ((lineStarts s).filter fun u =>
    startsDeclaration ["function", "class", "const", "let", "var"] u &&
      (rootBinding? u).isNone).map firstLine

/-- The lines of `t` that read as a declaration of `s` does. -/
def declared (s t : Text) : List Text := picked (fun l => decide (l ∈ declarations s)) t

theorem lines_lineFeed (s : Text) : lines (ofChar '\n' :: s) = [] :: lines s := rfl

theorem lines_cons (hc : c ≠ ofChar '\n') (s : Text) :
    ∃ l ls, lines s = l :: ls ∧ lines (c :: s) = (c :: l) :: ls := by
  cases hs : lines s with
  | nil => exact absurd hs (splitOn_ne_nil _ s)
  | cons l ls =>
    refine ⟨l, ls, rfl, ?_⟩
    rw [lines, splitOn, if_neg hc]
    rw [lines] at hs
    rw [hs]

theorem head?_lines (s : Text) : (lines s).head? = some (firstLine s) := by
  induction s with
  | nil => rfl
  | cons c s ih =>
    by_cases hc : c = ofChar '\n'
    · rw [hc, lines_lineFeed]
      rfl
    · obtain ⟨l, ls, hs, hcons⟩ := lines_cons hc s
      rw [hs, List.head?_cons, Option.some.injEq] at ih
      rw [hcons, ih, firstLine, firstLine, List.takeWhile_cons_of_pos (by simpa using hc)]
      rfl

/-- The lines that start somewhere are lines of the text, all but the first of them when the text
itself starts none. -/
theorem map_firstLine_startsFrom (s : Text) :
    ((startsFrom true s).map firstLine).Sublist (lines s) ∧
      ((startsFrom false s).map firstLine).Sublist (lines s).tail := by
  induction s with
  | nil => exact ⟨List.nil_sublist _, List.nil_sublist _⟩
  | cons c s ih =>
    by_cases hc : c = ofChar '\n'
    · subst hc
      exact ⟨ih.1.cons_cons [], ih.1⟩
    · obtain ⟨l, ls, hs, hcons⟩ := lines_cons hc s
      have hstarts (b : Bool) : startsFrom b (c :: s) =
          (if b then [c :: s] else []) ++ startsFrom false s := by
        rw [startsFrom, decide_eq_false hc]
      have hhead := head?_lines (c :: s)
      have htail := ih.2
      rw [hs, List.tail_cons] at htail
      rw [hcons, List.head?_cons, Option.some.injEq] at hhead
      rw [hcons, hstarts, hstarts, hhead]
      exact ⟨htail.cons_cons _, htail⟩

theorem declarations_sublist (s : Text) : (declarations s).Sublist (lines s) :=
  (List.filter_sublist.map firstLine).trans (map_firstLine_startsFrom s).1

theorem declarations_sublist_declared (s : Text) : (declarations s).Sublist (declared s s) := by
  have h := (declarations_sublist s).filter fun l => decide (l ∈ declarations s)
  rwa [List.filter_eq_self.mpr fun l hl => decide_eq_true hl] at h

/-- A declaration holds at least its first word. -/
theorem nil_not_mem_declarations (s : Text) : [] ∉ declarations s := by
  intro h
  obtain ⟨u, hu, hline⟩ := List.mem_map.mp h
  rw [List.mem_filter, Bool.and_eq_true] at hu
  obtain ⟨-, hstarts, -⟩ := hu
  cases u with
  | nil => exact absurd hstarts (by decide)
  | cons c u =>
    rw [firstLine, List.takeWhile_eq_nil_iff] at hline
    have hc : c = ofChar '\n' := by simpa using hline (Nat.zero_lt_succ _)
    subst hc
    have hnone : startsDeclaration ["function", "class", "const", "let", "var"]
        (ofChar '\n' :: u) = false := rfl
    exact absurd hstarts (by simp [hnone])

/-- The pass takes away the text of mount statements and nothing else, so all the lines that read as
declarations of the source stay, with their text and in their order, exactly when none of them
stands within a text that was taken for a mount statement. -/
theorem declarations_kept_iff (s : Text) :
    ∃ removed, Searched (Search.all s) s removed (stripMountCalls s) ∧
      (∀ st ∈ removed, IsMount (Search.all s) st) ∧
      (declared s (stripMountCalls s) = declared s s ↔ ∀ st ∈ removed, declared s st = []) ∧
      ((∀ st ∈ removed, declared s st = []) →
        (declarations s).Sublist (lines (stripMountCalls s))) := by
  obtain ⟨removed, h⟩ := exists_searched (Search.all_opens s) s
  rw [← stripMountCalls_eq] at h
  obtain ⟨hmounts, hparts⟩ := h.parts (p := fun l => decide (l ∈ declarations s))
    (by simp [nil_not_mem_declarations])
    fun x hx => ⟨Search.all_named s x hx, Search.all_opens s x hx⟩
  refine ⟨removed, h, hmounts, hparts.eq_iff, fun hnone => ?_⟩
  have heq : declared s (stripMountCalls s) = declared s s := hparts.eq_iff.mpr hnone
  have hkept := declarations_sublist_declared s
  rw [← heq] at hkept
  exact hkept.trans List.filter_sublist

/-- An apostrophe in the text of an element and one more below. -/
def apostrophes : Text :=
  unlines ["ReactDOM.render(<p>Don't panic</p>, document.body);", "function Hint() \x7b",
    "  return wrap(<p>It's here</p>);", "\x7d"] []

/-- The two apostrophes are taken for the marks of one string, and the declaration between them goes
away. -/
theorem declarations_not_kept :
    ofChar '\x60' ∉ apostrophes ∧
      ¬(declarations apostrophes).Sublist (lines (stripMountCalls apostrophes)) := by
  decide +kernel

end Declarations

end SitePreview.Source
