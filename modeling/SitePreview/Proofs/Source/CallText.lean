import SitePreview.Proofs.Source.ItemForms

/-! The text of a call as a grammar. Between parentheses stand other calls, strings and templates
that are closed, and anything else. The scanner for the end of a call accepts exactly these texts,
so that a call that starts at an index ends at one index at most, and so does the scanner for the
end of a statement with the calls that are chained to it. -/

namespace SitePreview.Source

open Text CodePoint

/-- The inside of a string or template that `q` opens: its marks stand behind a backslash only. -/
inductive StringText (q : CodePoint) : Text → Prop
  | nil : StringText q []
  | escape (c : CodePoint) {s : Text} (rest : StringText q s) :
      StringText q (ofChar '\\' :: c :: s)
  | plain {c : CodePoint} {s : Text} (hbackslash : c ≠ ofChar '\\') (hquote : c ≠ q)
      (rest : StringText q s) : StringText q (c :: s)

/-- What stands between the parentheses of a call. -/
inductive Arguments : Text → Prop
  | nil : Arguments []
  | plain {c : CodePoint} {s : Text} (hquote : isQuote c = false) (hopen : c ≠ ofChar '(')
      (hclose : c ≠ ofChar ')') (rest : Arguments s) : Arguments (c :: s)
  | call {a s : Text} (inner : Arguments a) (rest : Arguments s) :
      Arguments (ofChar '(' :: (a ++ ofChar ')' :: s))
  | quoted {q : CodePoint} {a s : Text} (hquote : isQuote q = true) (inner : StringText q a)
      (rest : Arguments s) : Arguments (q :: (a ++ q :: s))

/-- A call from its parenthesis on. -/
def IsCall (t : Text) : Prop := ∃ a, Arguments a ∧ t = ofChar '(' :: (a ++ [ofChar ')'])

/-- What closes `depth` open parentheses, the last of them at its end. -/
inductive Closes : Nat → Text → Prop
  | last {a : Text} (inner : Arguments a) : Closes 1 (a ++ [ofChar ')'])
  | more {depth : Nat} {a t : Text} (inner : Arguments a) (rest : Closes depth t) :
      Closes (depth + 1) (a ++ ofChar ')' :: t)

variable {a e r s t : Text} {c q : CodePoint} {depth : Nat}

section Closing

theorem closeCall?_backslash (q c : CodePoint) (depth : Nat) (s : Text) :
    closeCall? (some q) depth (ofChar '\\' :: c :: s) = closeCall? (some q) depth s := by
  rw [closeCall?, if_pos rfl]

theorem closeCall?_inString (hc : c ≠ ofChar '\\') (q : CodePoint) (depth : Nat) (s : Text) :
    closeCall? (some q) depth (c :: s) = closeCall? (if c = q then none else some q) depth s := by
  rw [closeCall?.eq_def]
  exact if_neg hc

theorem closeCall?_stringText (ha : StringText q a) (hq : isQuote q = true) (s : Text) :
    closeCall? (some q) depth (a ++ q :: s) = closeCall? none depth s := by
  induction ha with
  | nil =>
    have hne : q ≠ ofChar '\\' := by
      rintro rfl
      exact absurd hq (by decide)
    rw [List.nil_append, closeCall?_inString hne, if_pos rfl]
  | escape c _ ih => exact (closeCall?_backslash q c depth _).trans ih
  | plain hbackslash hquote _ ih =>
    rw [List.cons_append, closeCall?_inString hbackslash, if_neg hquote, ih]

/-- Scanning passes over what stands between parentheses. -/
theorem closeCall?_arguments (ha : Arguments a) (hd : 1 ≤ depth) (s : Text) :
    closeCall? none depth (a ++ s) = closeCall? none depth s := by
  induction ha generalizing depth s with
  | nil => rfl
  | plain hquote hopen hclose _ ih =>
    rw [List.cons_append, closeCall?]
    simpa [hquote, hopen, hclose] using ih hd s
  | call _ _ ihInner ihRest =>
    have hquote : isQuote (ofChar '(') = false := rfl
    have hquote' : isQuote (ofChar ')') = false := rfl
    have hne : ofChar ')' ≠ ofChar '(' := by decide
    rw [List.cons_append, List.append_assoc, closeCall?]
    simp only [hquote, Bool.false_eq_true, if_false, if_true]
    rw [ihInner (by omega), List.cons_append, closeCall?]
    simp only [hquote', Bool.false_eq_true, if_false, hne, if_true, Nat.add_sub_cancel]
    rw [if_neg (by omega)]
    exact ihRest hd s
  | quoted hquote inner _ ih =>
    rw [List.cons_append, List.append_assoc, List.cons_append, closeCall?]
    simp only [hquote, if_true]
    rw [closeCall?_stringText inner hquote]
    exact ih hd s

theorem callRest?_isCall (h : IsCall t) (s : Text) : callRest? (t ++ s) = some s := by
  obtain ⟨a, ha, rfl⟩ := h
  have hquote : isQuote (ofChar ')') = false := rfl
  have hne : ofChar ')' ≠ ofChar '(' := by decide
  rw [List.cons_append, List.append_assoc, callRest?, if_pos rfl,
    closeCall?_arguments ha (Nat.le_refl 1), List.cons_append, closeCall?]
  simp [hquote, hne]

theorem Closes.plain (hquote : isQuote c = false) (hopen : c ≠ ofChar '(')
    (hclose : c ≠ ofChar ')') (h : Closes depth t) : Closes depth (c :: t) := by
  cases h with
  | last inner => exact .last (inner.plain hquote hopen hclose)
  | more inner rest => exact .more (inner.plain hquote hopen hclose) rest

theorem Closes.quoted (hquote : isQuote q = true) (ha : StringText q a) (h : Closes depth t) :
    Closes depth (q :: (a ++ q :: t)) := by
  cases h with
  | last inner =>
    have := Closes.last (inner.quoted hquote ha)
    rwa [List.cons_append, List.append_assoc] at this
  | more inner rest =>
    have := Closes.more (inner.quoted hquote ha) rest
    rwa [List.cons_append, List.append_assoc] at this

/-- A call in front takes up one of the closing parentheses. -/
theorem Closes.open (hd : 1 ≤ depth) (h : Closes (depth + 1) t) :
    Closes depth (ofChar '(' :: t) := by
  cases h with
  | last => omega
  | more inner rest =>
    cases rest with
    | last inner' =>
      have := Closes.last (inner.call inner')
      rwa [List.cons_append, List.append_assoc] at this
    | more inner' rest =>
      have := Closes.more (inner.call inner') rest
      rwa [List.cons_append, List.append_assoc] at this

/-- What the scanner has behind it when it ends, inside a string or outside of one. -/
def Scanned (quote : Option CodePoint) (depth : Nat) (t : Text) : Prop :=
  match quote with
  | none => Closes depth t
  | some q => ∃ a u, t = a ++ q :: u ∧ StringText q a ∧ Closes depth u

theorem Scanned.plain (hbackslash : c ≠ ofChar '\\') (hquote : c ≠ q)
    (h : Scanned (some q) depth t) : Scanned (some q) depth (c :: t) := by
  obtain ⟨a, u, rfl, ha, hu⟩ := h
  exact ⟨c :: a, u, rfl, ha.plain hbackslash hquote, hu⟩

/-- What the scanner passes closes the open parentheses. -/
theorem exists_scanned {quote : Option CodePoint} (hquote : ∀ q ∈ quote, isQuote q = true)
    (hd : 1 ≤ depth) (h : closeCall? quote depth s = some r) :
    ∃ t, s = t ++ r ∧ Scanned quote depth t := by
  fun_induction closeCall? quote depth s with
  | case1 | case2 => exact absurd h (by simp)
  | case3 depth q c s ih =>
    obtain ⟨t, rfl, a, u, rfl, ha, hu⟩ := ih hquote hd h
    exact ⟨ofChar '\\' :: c :: (a ++ q :: u), rfl, ofChar '\\' :: c :: a, u, rfl, ha.escape c, hu⟩
  | case4 depth c s q hbackslash ih =>
    by_cases hc : c = q
    · subst hc
      simp only [if_true] at ih h
      obtain ⟨t, rfl, ht⟩ := ih (by simp) hd h
      exact ⟨c :: t, rfl, [], t, rfl, .nil, ht⟩
    · simp only [if_neg hc] at ih h
      obtain ⟨t, rfl, ht⟩ := ih hquote hd h
      exact ⟨c :: t, rfl, ht.plain hbackslash hc⟩
  | case5 depth c s hc ih =>
    obtain ⟨t, rfl, a, u, rfl, ha, hu⟩ := ih (by simpa using hc) hd h
    exact ⟨c :: (a ++ c :: u), rfl, Closes.quoted hc ha hu⟩
  | case6 depth s _ ih =>
    obtain ⟨t, rfl, ht⟩ := ih (by simp) (by omega) h
    exact ⟨ofChar '(' :: t, rfl, Closes.open hd ht⟩
  | case7 depth s hle _ _ =>
    obtain rfl := Option.some.inj h
    obtain rfl : depth = 1 := by omega
    exact ⟨[ofChar ')'], rfl, Closes.last .nil⟩
  | case8 depth s hlt _ _ ih =>
    obtain ⟨t, rfl, ht⟩ := ih (by simp) (by omega) h
    refine ⟨ofChar ')' :: t, rfl, ?_⟩
    have := Closes.more .nil ht
    rwa [Nat.sub_add_cancel hd] at this
  | case9 depth c s hc hopen hclose ih =>
    obtain ⟨t, rfl, ht⟩ := ih (by simp) hd h
    exact ⟨c :: t, rfl, Closes.plain (by simpa using hc) hopen hclose ht⟩

/-- A call is read up to what follows it exactly when its text is one. -/
theorem callRest?_eq_some_iff : callRest? s = some r ↔ ∃ t, IsCall t ∧ s = t ++ r := by
  constructor
  · intro h
    cases s with
    | nil => simp [callRest?] at h
    | cons c s =>
      simp only [callRest?, Option.ite_none_right_eq_some] at h
      obtain ⟨rfl, h⟩ := h
      obtain ⟨t, rfl, ht⟩ := exists_scanned (by simp) (Nat.le_refl 1) h
      generalize hone : 1 = depth at ht
      cases ht with
      | last inner => exact ⟨_, ⟨_, inner, rfl⟩, by simp⟩
      | more inner rest =>
        obtain rfl : _ = 0 := (Nat.succ.inj hone).symm
        cases rest
  · rintro ⟨t, ht, rfl⟩
    exact callRest?_isCall ht r

end Closing

section Extents

/-- The index behind the call whose parenthesis stands at index `i`, or `none` when it is not
closed. -/
def callEnd? (source : Text) (i : Nat) : Option Nat :=
  (callRest? (source.drop i)).map fun rest => source.length - rest.length

variable {source : Text} {i j : Nat}

theorem IsCall.length_pos (h : IsCall t) : 0 < t.length := by
  obtain ⟨a, -, rfl⟩ := h
  exact Nat.succ_pos _

/-- The index behind a call and the text behind it tell the same. -/
theorem callEnd?_eq_some_iff :
    callEnd? source i = some j ↔
      j ≤ source.length ∧ callRest? (source.drop i) = some (source.drop j) := by
  rw [callEnd?, Option.map_eq_some_iff]
  constructor
  · rintro ⟨rest, hrest, rfl⟩
    have hsuffix : rest <:+ source := (callRest?_suffix hrest).1.trans (List.drop_suffix i source)
    refine ⟨Nat.sub_le _ _, ?_⟩
    rw [hrest, ← List.suffix_iff_eq_drop.mp hsuffix]
  · rintro ⟨hle, hrest⟩
    refine ⟨source.drop j, hrest, ?_⟩
    rw [List.length_drop]
    omega

/-- A call that starts at one index and leaves what stands from another on lies between them. -/
theorem callRest?_drop_eq_some_iff (hj : j ≤ source.length) :
    callRest? (source.drop i) = some (source.drop j) ↔ IsCall (source.extract i j) := by
  rw [callRest?_eq_some_iff, List.extract_eq_take_drop]
  constructor
  · rintro ⟨t, ht, hsplit⟩
    have hlength := congrArg List.length hsplit
    simp only [List.length_append, List.length_drop] at hlength
    have hpos := ht.length_pos
    rw [hsplit, List.take_left' (by omega)]
    exact ht
  · intro h
    have hpos := h.length_pos
    simp only [List.length_take, List.length_drop] at hpos
    refine ⟨_, h, ?_⟩
    have hrest : source.drop j = (source.drop i).drop (j - i) := by
      rw [List.drop_drop, Nat.add_sub_cancel' (by omega)]
    rw [hrest, List.take_append_drop]

/-- A call ends exactly where the text from its parenthesis on is one, which is so at one index at
most; without such an index it has no end. -/
theorem callEnd_exact (source : Text) (i : Nat) :
    (∀ j, callEnd? source i = some j ↔ j ≤ source.length ∧ IsCall (source.extract i j)) ∧
      (∀ j k, j ≤ source.length ∧ IsCall (source.extract i j) →
        k ≤ source.length ∧ IsCall (source.extract i k) → j = k) ∧
      (callEnd? source i = none ↔ ∀ j ≤ source.length, ¬IsCall (source.extract i j)) := by
  have hend (j : Nat) :
      callEnd? source i = some j ↔ j ≤ source.length ∧ IsCall (source.extract i j) :=
    callEnd?_eq_some_iff.trans (and_congr_right callRest?_drop_eq_some_iff)
  refine ⟨hend, fun j k hj hk => ?_, ?_⟩
  · exact Option.some.inj (((hend j).mpr hj).symm.trans ((hend k).mpr hk))
  · rw [Option.eq_none_iff_forall_ne_some]
    exact forall_congr' fun j => (not_congr (hend j)).trans not_and

/-- A parenthesis in a string does not close the call, and a backslash at the end leaves the string
open. -/
example : callRest? "(a, ')', (b))(c)" = some (ofString "(c)") ∧ callRest? "('\\" = none :=
  ⟨by cbv, by cbv⟩

end Extents

section Chains

/-- A name of a variable or a method. -/
structure VariableName where
  first : CodePoint
  rest : Text
  starts : first.isIdentifierStart = true
  parts : ∀ c ∈ rest, c.isIdentifierPart = true

def VariableName.text (n : VariableName) : Text := n.first :: n.rest

/-- The point and the name of a chained call up to its parenthesis, with white space around
them. -/
structure Link where
  before : Blanks
  after : Blanks
  name : VariableName
  behind : Blanks

def Link.text (l : Link) : Text :=
  l.before.text ++ ofChar '.' :: (l.after.text ++ (l.name.text ++ l.behind.text))

/-- A call from its parenthesis on with any number of calls chained to it. -/
inductive Calls : Text → Prop
  | one {t : Text} (call : IsCall t) : Calls t
  | chained {t u : Text} (call : IsCall t) (l : Link) (rest : Calls u) : Calls (t ++ (l.text ++ u))

theorem isIdentifierPart_of_isIdentifierStart (h : c.isIdentifierStart = true) :
    c.isIdentifierPart = true := by
  simp only [isIdentifierStart, Bool.or_eq_true, decide_eq_true_eq] at h
  rcases h with (hletter | rfl) | rfl
  · have hlow : c.val < 128 := by
      simp only [isAsciiLetter, isAsciiUpper, isAsciiLower, Bool.or_eq_true, Bool.and_eq_true,
        decide_eq_true_eq] at hletter
      omega
    simp [isIdentifierPart, isWord, hlow, hletter]
  · decide
  · decide

theorem VariableName.all_part (n : VariableName) : ∀ c ∈ n.text, c.isIdentifierPart = true :=
  List.forall_mem_cons.mpr ⟨isIdentifierPart_of_isIdentifierStart n.starts, n.parts⟩

theorem VariableName.notAhead_blank (n : VariableName) (t : Text) :
    notAhead CodePoint.isBlank (n.text ++ t) = true := by
  have := isBlank_of_isIdentifierPart (n.all_part n.first List.mem_cons_self)
  simpa [VariableName.text] using this

/-- White space as far as it goes. -/
theorem exists_blanks (s : Text) : ∃ b : Blanks, s = b.text ++ skipBlanks s :=
  ⟨⟨s.takeWhile CodePoint.isBlank, fun c hc => List.all_eq_true.mp List.all_takeWhile c hc⟩,
    List.takeWhile_append_dropWhile.symm⟩

theorem exists_indent (s : Text) : ∃ i : Indent, s = i.text ++ skipInline s :=
  ⟨⟨s.takeWhile isInlineBlank, fun c hc => List.all_eq_true.mp List.all_takeWhile c hc⟩,
    List.takeWhile_append_dropWhile.symm⟩

theorem notAhead_blanks_paren (b : Blanks) (t : Text) :
    notAhead isIdentifierPart (b.text ++ ofChar '(' :: t) = true := b.notAhead rfl

theorem chainedCall?_link (l : Link) (t : Text) :
    chainedCall? (l.text ++ ofChar '(' :: t) = some (ofChar '(' :: t) := by
  have hdot : after? "." (skipBlanks (l.text ++ ofChar '(' :: t)) =
      some (l.after.text ++ (l.name.text ++ (l.behind.text ++ ofChar '(' :: t))) := by
    rw [Link.text, List.append_assoc, skipBlanks_blanks l.before rfl, List.cons_append,
      List.append_assoc, List.append_assoc]
    exact after?_append "." _
  have hname : skipBlanks (l.after.text ++ (l.name.text ++ (l.behind.text ++ ofChar '(' :: t))) =
      l.name.first :: (l.name.rest ++ (l.behind.text ++ ofChar '(' :: t)) :=
    skipBlanks_blanks l.after (l.name.notAhead_blank _)
  have hrest : (l.name.rest ++ (l.behind.text ++ ofChar '(' :: t)).dropWhile isIdentifierPart =
      l.behind.text ++ ofChar '(' :: t :=
    dropWhile_append_stop l.name.parts (notAhead_blanks_paren l.behind t)
  have hparen : skipBlanks (l.behind.text ++ ofChar '(' :: t) = ofChar '(' :: t :=
    skipBlanks_blanks l.behind rfl
  rw [chainedCall?, hdot, Option.bind_eq_bind, Option.bind_some, hname]
  simp only [l.name.starts, if_true, hrest, hparen]
  rfl

theorem exists_link (h : chainedCall? s = some r) :
    ∃ (l : Link) (t : Text), r = ofChar '(' :: t ∧ s = l.text ++ r := by
  obtain ⟨u, hu, h⟩ := Option.bind_eq_some_iff.mp h
  split at h
  · exact absurd h (by simp)
  · next c v hv =>
    simp only [Option.ite_none_right_eq_some, Option.some.injEq] at h
    obtain ⟨hstart, hhead, rfl⟩ := h
    obtain ⟨t, ht⟩ := List.head?_eq_some_iff.mp hhead
    obtain ⟨before, hbefore⟩ := exists_blanks s
    obtain ⟨after, hafter⟩ := exists_blanks u
    obtain ⟨behind, hbehind⟩ := exists_blanks (v.dropWhile isIdentifierPart)
    let name : VariableName := ⟨c, v.takeWhile isIdentifierPart, hstart,
      fun c hc => List.all_eq_true.mp List.all_takeWhile c hc⟩
    have hname : u.skipBlanks =
        name.text ++ (behind.text ++ skipBlanks (v.dropWhile isIdentifierPart)) := by
      rw [hv, ← hbehind]
      exact congrArg (c :: ·) List.takeWhile_append_dropWhile.symm
    refine ⟨⟨before, after, name, behind⟩, t, ht, ?_⟩
    calc s = before.text ++ (ofString "." ++ (after.text ++ u.skipBlanks)) := by
          rw [← hafter, ← eq_append_of_after? hu, ← hbefore]
      _ = _ := by
          rw [hname]
          simp [Link.text, ofString]

/-- Only a point goes on with a chain. -/
theorem chainedCall?_eq_none (h : (skipBlanks s).head? ≠ some (ofChar '.')) :
    chainedCall? s = none := by
  rw [Option.eq_none_iff_forall_ne_some]
  intro r hr
  obtain ⟨l, t, rfl, rfl⟩ := exists_link hr
  rw [Link.text, List.append_assoc, skipBlanks_blanks l.before rfl] at h
  exact h rfl

theorem callStatement?_of_last (hcall : callRest? s = some t) (hlast : chainedCall? t = none) :
    callStatement? s = statementTail? t := by
  rw [callStatement?, hcall]
  simp only [hlast]

theorem callStatement?_of_chained {u : Text} (hcall : callRest? s = some t)
    (hchain : chainedCall? t = some u) : callStatement? s = callStatement? u := by
  have hlt := (callRest?_suffix hcall).2
  have hle := (chainedCall?_suffix hchain).length_le
  rw [callStatement?, hcall]
  simp only [hchain]
  rw [if_pos (by omega)]

theorem Calls.exists_cons (h : Calls t) : ∃ u, t = ofChar '(' :: u := by
  cases h with
  | one call | chained call _ _ =>
    obtain ⟨a, -, rfl⟩ := call
    exact ⟨_, rfl⟩

/-- A statement is read up to the end of its last call and from there to the end of its line. -/
theorem callStatement?_calls (h : Calls t) (hs : chainedCall? s = none) :
    callStatement? (t ++ s) = statementTail? s := by
  induction h with
  | one call => exact callStatement?_of_last (callRest?_isCall call s) hs
  | @chained t u call l rest ih =>
    obtain ⟨v, rfl⟩ := rest.exists_cons
    have hlink : chainedCall? (l.text ++ (ofChar '(' :: v ++ s)) = some (ofChar '(' :: v ++ s) :=
      chainedCall?_link l (v ++ s)
    rw [List.append_assoc, List.append_assoc,
      callStatement?_of_chained (callRest?_isCall call _) hlink]
    exact ih

theorem exists_ending (h : statementTail? s = some r) :
    ∃ (en : Ending) (e : Text), s = en.text ++ e ∧ LineEnd e r := by
  obtain ⟨before, hbefore⟩ := exists_indent s
  obtain ⟨after, hafter⟩ := exists_indent (dropPrefix ";" (skipInline s))
  have hsplit : ∃ semicolon : Bool, skipInline s =
      (if semicolon then [ofChar ';'] else []) ++ dropPrefix ";" (skipInline s) := by
    unfold dropPrefix
    cases hc : after? ";" (skipInline s) with
    | none => exact ⟨false, rfl⟩
    | some u => exact ⟨true, eq_append_of_after? hc⟩
  obtain ⟨semicolon, hsemicolon⟩ := hsplit
  refine ⟨⟨before, semicolon, after⟩, skipInline (dropPrefix ";" (skipInline s)), ?_, ?_⟩
  · rw [Ending.text, List.append_assoc, List.append_assoc, ← hafter, ← hsemicolon, ← hbefore]
  · unfold statementTail? at h
    split at h
    · next hnil =>
      obtain rfl := Option.some.inj h
      rw [hnil]
      exact .stop
    · next c u hc =>
      simp only [Option.ite_none_right_eq_some, Option.some.injEq] at h
      obtain ⟨rfl, rfl⟩ := h
      rw [hc]
      exact .feed u

/-- What is read as a statement is made of calls and the end of a line. -/
theorem exists_calls (h : callStatement? s = some r) :
    ∃ (t e : Text) (en : Ending), Calls t ∧ s = t ++ (en.text ++ e) ∧ LineEnd e r := by
  fun_induction callStatement? s with
  | case1 => exact absurd h (by simp)
  | case2 s rest hcall hlast =>
    obtain ⟨t, ht, rfl⟩ := callRest?_eq_some_iff.mp hcall
    obtain ⟨en, e, rfl, he⟩ := exists_ending h
    exact ⟨t, e, en, .one ht, rfl, he⟩
  | case3 s rest hcall u hchain _ ih =>
    obtain ⟨v, e, en, hv, rfl, he⟩ := ih h
    obtain ⟨t, ht, rfl⟩ := callRest?_eq_some_iff.mp hcall
    obtain ⟨l, -, -, rfl⟩ := exists_link hchain
    exact ⟨t ++ (l.text ++ v), e, en, .chained ht l hv, by simp, he⟩
  | case4 => exact absurd h (by simp)

end Chains

end SitePreview.Source
