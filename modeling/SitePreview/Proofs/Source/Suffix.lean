import SitePreview.Source.Mount

/-! What the recognisers leave. Each one gives back the end of the text that it was given, and each
one that recognises a statement takes something off its front. -/

namespace SitePreview

namespace Text

variable {s r w : Text}

theorem skipInline_suffix (s : Text) : skipInline s <:+ s := List.dropWhile_suffix _

theorem skipBlanks_suffix (s : Text) : skipBlanks s <:+ s := List.dropWhile_suffix _

theorem after?_suffix (h : after? w s = some r) : r <:+ s :=
  ⟨w, (eq_append_of_after? h).symm⟩

theorem length_of_after? (h : after? w s = some r) : s.length = w.length + r.length := by
  rw [eq_append_of_after? h, List.length_append]

theorem dropPrefix_suffix (w s : Text) : dropPrefix w s <:+ s := by
  unfold dropPrefix
  cases h : after? w s with
  | none => exact List.suffix_rfl
  | some r => exact after?_suffix h

theorem skipSomeBlanks?_suffix (h : skipSomeBlanks? s = some r) : r <:+ s := by
  cases s with
  | nil => simp [skipSomeBlanks?] at h
  | cons c s =>
    simp only [skipSomeBlanks?, Option.ite_none_right_eq_some, Option.some.injEq] at h
    obtain ⟨_, rfl⟩ := h
    exact (skipBlanks_suffix s).trans (List.suffix_cons c s)

theorem wordAndBlanks?_suffix (h : wordAndBlanks? w s = some r) : r <:+ s := by
  simp only [wordAndBlanks?, Option.bind_eq_bind, Option.bind_eq_some_iff] at h
  obtain ⟨t, ht, h⟩ := h
  exact (skipSomeBlanks?_suffix h).trans (after?_suffix ht)

theorem length_lt_of_wordAndBlanks? (h : wordAndBlanks? w s = some r) :
    r.length + w.length ≤ s.length := by
  simp only [wordAndBlanks?, Option.bind_eq_bind, Option.bind_eq_some_iff] at h
  obtain ⟨t, ht, h⟩ := h
  have h1 := (skipSomeBlanks?_suffix h).length_le
  have h2 := length_of_after? ht
  omega

theorem getD_suffix {o : Option Text} (h : ∀ r, o = some r → r <:+ s) : o.getD s <:+ s := by
  cases o with
  | none => exact List.suffix_rfl
  | some r => exact h r rfl

end Text

namespace Source

open Text CodePoint

variable {s r name : Text}

theorem statementTail?_suffix (h : statementTail? s = some r) : r <:+ s := by
  have hs : skipInline (dropPrefix ";" (skipInline s)) <:+ s :=
    (skipInline_suffix _).trans ((dropPrefix_suffix _ _).trans (skipInline_suffix s))
  unfold statementTail? at h
  split at h
  · obtain rfl := Option.some.inj h
    exact List.nil_suffix
  · next c rest hc =>
    split at h
    · obtain rfl := Option.some.inj h
      exact ((List.suffix_cons c rest).trans (hc ▸ List.suffix_rfl)).trans hs
    · exact absurd h (by simp)

theorem moduleSpecifier?_suffix (h : moduleSpecifier? s = some r) : r <:+ s := by
  cases s with
  | nil => simp [moduleSpecifier?] at h
  | cons q s =>
    simp only [moduleSpecifier?, Option.ite_none_right_eq_some] at h
    exact ((after?_suffix h.2).trans (List.dropWhile_suffix _)).trans (List.suffix_cons q s)

theorem fromClause?_suffix (h : fromClause? s = some r) : r <:+ s := by
  simp only [fromClause?, Option.bind_eq_bind, Option.bind_eq_some_iff] at h
  obtain ⟨t, ht, h⟩ := h
  exact ((moduleSpecifier?_suffix h).trans (skipBlanks_suffix t)).trans
    ((after?_suffix ht).trans (skipBlanks_suffix s))

theorem braceList?_suffix (h : braceList? s = some r) : r <:+ s := by
  simp only [braceList?, Option.bind_eq_bind, Option.bind_eq_some_iff] at h
  obtain ⟨t, ht, h⟩ := h
  exact ((after?_suffix h).trans (List.dropWhile_suffix _)).trans (after?_suffix ht)

/-- The recogniser gives back a proper end of the text that it was given. -/
def Consumes (recognise : Text → Option Text) : Prop :=
  ∀ s r, recognise s = some r → r <:+ s ∧ r.length < s.length

/-- A recogniser that reads a first word and what may follow it consumes that word. -/
theorem consumes_of_word (word : Text) (hw : word ≠ []) {recognise rest : Text → Option Text}
    (hrest : ∀ t r, rest t = some r → r <:+ t)
    (h : ∀ s, recognise s = (wordAndBlanks? word s).bind rest) : Consumes recognise := by
  intro s r hr
  rw [h, Option.bind_eq_some_iff] at hr
  obtain ⟨t, ht, hr⟩ := hr
  have h1 := hrest t r hr
  have h2 := length_lt_of_wordAndBlanks? ht
  have h3 := h1.length_le
  have h4 : 0 < word.length := List.length_pos_iff.mpr hw
  exact ⟨h1.trans (wordAndBlanks?_suffix ht), by omega⟩

theorem Consumes.skipInline {recognise : Text → Option Text} (h : Consumes recognise) :
    Consumes fun s => recognise (skipInline s) := by
  intro s r hr
  obtain ⟨h1, h2⟩ := h _ r hr
  have h3 := (skipInline_suffix s).length_le
  exact ⟨h1.trans (skipInline_suffix s), by omega⟩

theorem importFrom?_consumes : Consumes importFrom? := by
  refine (consumes_of_word "import" (by decide) ?_ fun s => rfl).skipInline
  intro t r h
  have hclause := List.dropWhile_suffix isImportClause (l := t)
  split at h
  · exact absurd h (by simp)
  · next c rest hc =>
    rw [hc] at hclause
    split at h
    · simp only [Option.bind_eq_bind, Option.bind_eq_some_iff] at h
      obtain ⟨u, hu, v, hv, h⟩ := h
      exact ((statementTail?_suffix h).trans (fromClause?_suffix hv)).trans
        ((braceList?_suffix hu).trans hclause)
    · split at h
      · obtain ⟨u, hu, h⟩ := Option.bind_eq_some_iff.mp h
        exact ((statementTail?_suffix h).trans (moduleSpecifier?_suffix hu)).trans hclause
      · exact absurd h (by simp)

theorem importEffect?_consumes : Consumes importEffect? := by
  intro s r h
  simp only [importEffect?, Option.bind_eq_bind, Option.bind_eq_some_iff] at h
  obtain ⟨t, ht, u, hu, h⟩ := h
  have hr : r <:+ t := ((statementTail?_suffix h).trans (moduleSpecifier?_suffix hu)).trans
    (skipBlanks_suffix t)
  refine ⟨hr.trans ((after?_suffix ht).trans (skipInline_suffix s)), ?_⟩
  have := hr.length_le
  have := length_of_after? ht
  have := (skipInline_suffix s).length_le
  simp only [show (ofString "import").length = 6 from rfl] at *
  omega

theorem exportStar?_consumes : Consumes exportStar? := by
  refine (consumes_of_word "export" (by decide) ?_ fun s => rfl).skipInline
  intro t r h
  simp only [Option.bind_eq_bind, Option.bind_eq_some_iff] at h
  obtain ⟨u, hu, v, hv, w, hw, h⟩ := h
  have hnamed := (statementTail?_suffix h).trans (fromClause?_suffix hw)
  have hv := (skipSomeBlanks?_suffix hv).trans (after?_suffix hu)
  refine (hnamed.trans (getD_suffix ?_)).trans hv
  intro x hx
  obtain ⟨y, hy, hx⟩ := Option.bind_eq_some_iff.mp hx
  split at hx
  · exact absurd hx (by simp)
  · exact ((skipSomeBlanks?_suffix hx).trans (List.dropWhile_suffix _)).trans
      (wordAndBlanks?_suffix hy)

theorem exportList?_consumes : Consumes exportList? := by
  refine (consumes_of_word "export" (by decide) ?_ fun s => rfl).skipInline
  intro t r h
  simp only [Option.bind_eq_bind, Option.bind_eq_some_iff] at h
  obtain ⟨u, hu, h⟩ := h
  have hlist := (braceList?_suffix hu).trans
    (getD_suffix fun r hr => wordAndBlanks?_suffix hr)
  refine List.IsSuffix.trans ?_ hlist
  cases hf : (fromClause? u).bind statementTail? with
  | none =>
    rw [hf] at h
    exact statementTail?_suffix h
  | some x =>
    rw [hf] at h
    obtain rfl : x = r := by simpa using h
    obtain ⟨y, hy, hx⟩ := Option.bind_eq_some_iff.mp hf
    exact (statementTail?_suffix hx).trans (fromClause?_suffix hy)

theorem defaultExportName?_consumes : Consumes defaultExportName? := by
  refine (consumes_of_word "export" (by decide) ?_ fun s => rfl).skipInline
  intro t r h
  obtain ⟨u, hu, h⟩ := Option.bind_eq_some_iff.mp h
  refine List.IsSuffix.trans ?_ (wordAndBlanks?_suffix hu)
  split at h
  · exact absurd h (by simp)
  · next c s =>
    split at h
    · exact ((statementTail?_suffix h).trans (List.dropWhile_suffix _)).trans (List.suffix_cons c s)
    · exact absurd h (by simp)

theorem defaultExport?_consumes : Consumes defaultExport? := by
  refine consumes_of_word "export" (by decide) ?_ fun s => rfl
  intro t r h
  obtain ⟨u, hu, h⟩ := Option.bind_eq_some_iff.mp h
  split at h
  · obtain rfl := Option.some.inj h
    exact wordAndBlanks?_suffix hu
  · exact absurd h (by simp)

theorem namedExport?_consumes : Consumes namedExport? := by
  refine consumes_of_word "export" (by decide) ?_ fun s => rfl
  intro t r h
  split at h
  · obtain rfl := Option.some.inj h
    exact List.suffix_rfl
  · exact absurd h (by simp)

/-- `r` is what is left of `s` behind some text without an opening parenthesis. -/
def SkipsTo (s r : Text) : Prop := ∃ w, s = w ++ r ∧ ofChar '(' ∉ w

namespace SkipsTo

variable {t : Text}

theorem refl (s : Text) : SkipsTo s s := ⟨[], rfl, by simp⟩

theorem trans (h1 : SkipsTo s t) (h2 : SkipsTo t r) : SkipsTo s r := by
  obtain ⟨w, rfl, hw⟩ := h1
  obtain ⟨v, rfl, hv⟩ := h2
  exact ⟨w ++ v, by rw [List.append_assoc], by simp [hw, hv]⟩

theorem suffix (h : SkipsTo s r) : r <:+ s := by
  obtain ⟨w, rfl, _⟩ := h
  exact List.suffix_append w r

theorem dropWhile (p : CodePoint → Bool) (hp : p (ofChar '(') = false) (s : Text) :
    SkipsTo s (s.dropWhile p) := by
  refine ⟨s.takeWhile p, (List.takeWhile_append_dropWhile).symm, fun hm => ?_⟩
  have hall := List.all_eq_true.mp (List.all_takeWhile (p := p) (l := s)) _ hm
  exact absurd hall (by simp [hp])

theorem skipInline (s : Text) : SkipsTo s (skipInline s) := dropWhile _ (by decide) s

theorem skipBlanks (s : Text) : SkipsTo s (skipBlanks s) := dropWhile _ (by decide) s

theorem after? {w : Text} (hw : ofChar '(' ∉ w) (h : after? w s = some r) : SkipsTo s r :=
  ⟨w, eq_append_of_after? h, hw⟩

theorem wordAndBlanks? {w : Text} (hw : ofChar '(' ∉ w) (h : wordAndBlanks? w s = some r) :
    SkipsTo s r := by
  obtain ⟨t, ht, h⟩ := Option.bind_eq_some_iff.mp h
  refine (SkipsTo.after? hw ht).trans ?_
  cases t with
  | nil => simp [skipSomeBlanks?] at h
  | cons c t =>
    simp only [skipSomeBlanks?, Option.ite_none_right_eq_some, Option.some.injEq] at h
    obtain ⟨hc, rfl⟩ := h
    have := SkipsTo.skipBlanks (c :: t)
    rwa [Text.skipBlanks, List.dropWhile_cons_of_pos hc] at this

end SkipsTo

/-- The recogniser gives the text from the first parenthesis on. -/
def Opens (call : Text → Option Text) : Prop :=
  ∀ s opened, call s = some opened → SkipsTo s opened ∧ opened.head? = some (ofChar '(')

theorem openParen?_opens : Opens openParen? := by
  intro s opened h
  simp only [openParen?, Option.ite_none_right_eq_some, Option.some.injEq] at h
  obtain ⟨hp, rfl⟩ := h
  exact ⟨.skipBlanks s, hp⟩

theorem reactDom?_skipsTo (h : reactDom? s = some r) : SkipsTo s r := by
  simp only [reactDom?, Option.bind_eq_bind, Option.bind_eq_some_iff, Option.some.injEq] at h
  obtain ⟨t, ht, u, hu, rfl⟩ := h
  have hdom : SkipsTo s t := .after? (by decide) ht
  have hpoint : SkipsTo (skipBlanks t) u := .after? (by decide) hu
  exact ((hdom.trans (.skipBlanks t)).trans hpoint).trans (.skipBlanks u)

theorem rootCall?_opens : Opens rootCall? := by
  intro s opened h
  obtain ⟨t, ht, h⟩ := Option.bind_eq_some_iff.mp h
  have hdom : SkipsTo s ((reactDom? s).getD s) := by
    cases hd : reactDom? s with
    | none => exact .refl s
    | some r => exact reactDom?_skipsTo hd
  have hname : SkipsTo ((reactDom? s).getD s) t := by
    cases hc : after? "createRoot" ((reactDom? s).getD s) with
    | none =>
      have ht : after? "hydrateRoot" ((reactDom? s).getD s) = some t := by simpa [hc] using ht
      exact .after? (by decide) ht
    | some u =>
      obtain rfl : u = t := by simpa [hc] using ht
      exact .after? (by decide) hc
  obtain ⟨hskip, hhead⟩ := openParen?_opens t opened h
  exact ⟨(hdom.trans hname).trans hskip, hhead⟩

theorem mountCall?_opens : Opens mountCall? := by
  intro s opened h
  simp only [mountCall?] at h
  cases hr : ((reactDom? (skipInline s)).bind (after? "render")).bind openParen? with
  | none =>
    obtain ⟨hskip, hhead⟩ := rootCall?_opens (skipInline s) opened (by simpa [hr] using h)
    exact ⟨(SkipsTo.skipInline s).trans hskip, hhead⟩
  | some u =>
    obtain rfl : u = opened := by simpa [hr] using h
    obtain ⟨t, ht, hopen⟩ := Option.bind_eq_some_iff.mp hr
    obtain ⟨v, hv, ht⟩ := Option.bind_eq_some_iff.mp ht
    obtain ⟨hskip, hhead⟩ := openParen?_opens t u hopen
    exact ⟨(((SkipsTo.skipInline s).trans (reactDom?_skipsTo hv)).trans
      (.after? (by decide) ht)).trans hskip, hhead⟩

theorem wordAndBlanks?_orElse_skipsTo {w : Text} {next : Option Text}
    (hw : ofChar '(' ∉ w) (hnext : ∀ r, next = some r → SkipsTo s r)
    (h : ((wordAndBlanks? w s).orElse fun _ => next) = some r) : SkipsTo s r := by
  cases hc : wordAndBlanks? w s with
  | none => exact hnext r (by simpa [hc] using h)
  | some u =>
    obtain rfl : u = r := by simpa [hc] using h
    exact .wordAndBlanks? hw hc

/-- A binding is recognised up to its parenthesis, and its name is one word. -/
theorem rootBinding?_spec {opened : Text} (h : rootBinding? s = some (name, opened)) :
    SkipsTo s opened ∧ opened.head? = some (ofChar '(') ∧ ofChar '(' ∉ name := by
  simp only [rootBinding?, Option.bind_eq_bind, Option.bind_eq_some_iff] at h
  obtain ⟨t, ht, h⟩ := h
  have hkeyword : SkipsTo (skipInline s) t := by
    refine wordAndBlanks?_orElse_skipsTo (by decide) (fun r hr => ?_) ht
    refine wordAndBlanks?_orElse_skipsTo (by decide) (fun r hr => ?_) hr
    exact .wordAndBlanks? (by decide) hr
  split at h
  · exact absurd h (by simp)
  · next c u =>
    split at h
    · next hstart =>
      simp only [Option.bind_eq_some_iff, Option.some.injEq, Prod.mk.injEq] at h
      obtain ⟨v, hv, w, hw, hname, rfl⟩ := h
      have hc : c ≠ ofChar '(' := by
        rintro rfl
        exact absurd hstart (by decide)
      have hpart : ofChar '(' ∉ u.takeWhile isIdentifierPart := fun hm =>
        absurd (List.all_eq_true.mp List.all_takeWhile _ hm) (by decide)
      have hrest : SkipsTo (c :: u) (u.dropWhile isIdentifierPart) :=
        ⟨c :: u.takeWhile isIdentifierPart, by simp, by simp [hpart, hc.symm]⟩
      have hequals : SkipsTo (skipBlanks (u.dropWhile isIdentifierPart)) v :=
        .after? (by decide) hv
      obtain ⟨hcall, hhead⟩ := rootCall?_opens (skipBlanks v) w hw
      refine ⟨?_, hhead, ?_⟩
      · exact ((((((SkipsTo.skipInline s).trans hkeyword).trans hrest).trans
          (.skipBlanks _)).trans hequals).trans (.skipBlanks v)).trans hcall
      · rw [← hname]
        simp [hpart, hc.symm]
    · exact absurd h (by simp)

theorem rootBinding?_opens : Opens fun s => (rootBinding? s).map Prod.snd := by
  intro s opened h
  obtain ⟨⟨name, o⟩, hb, rfl⟩ := Option.map_eq_some_iff.mp h
  obtain ⟨hskip, hhead, _⟩ := rootBinding?_spec hb
  exact ⟨hskip, hhead⟩

theorem rootRender?_opens (hname : ofChar '(' ∉ name) : Opens (rootRender? name) := by
  intro s opened h
  simp only [rootRender?, Option.bind_eq_bind, Option.bind_eq_some_iff] at h
  obtain ⟨t, ht, u, hu, v, hv, hopen⟩ := h
  have hword : SkipsTo (skipInline s) t := .after? hname ht
  have hpoint : SkipsTo (skipBlanks t) u := .after? (by decide) hu
  have hrender : SkipsTo (skipBlanks u) v := .after? (by decide) hv
  obtain ⟨hparen, hhead⟩ := openParen?_opens v opened hopen
  exact ⟨((((((SkipsTo.skipInline s).trans hword).trans (.skipBlanks t)).trans hpoint).trans
    (.skipBlanks u)).trans hrender).trans hparen, hhead⟩

theorem closeCall?_suffix {quote : Option CodePoint} {depth : Nat}
    (h : closeCall? quote depth s = some r) : r <:+ s := by
  fun_induction closeCall? quote depth s with
  | case1 | case2 => exact absurd h (by simp)
  | case3 depth q c s ih => exact (ih h).trans ((List.suffix_cons c s).trans (List.suffix_cons _ _))
  | case7 depth s =>
    obtain rfl := Option.some.inj h
    exact List.suffix_cons _ _
  | case4 _ _ _ _ _ ih | case5 _ _ _ _ ih | case6 _ _ _ ih | case8 _ _ _ _ _ ih
  | case9 _ _ _ _ _ _ ih => exact (ih h).trans (List.suffix_cons _ _)

theorem callRest?_suffix (h : callRest? s = some r) : r <:+ s ∧ r.length < s.length := by
  cases s with
  | nil => simp [callRest?] at h
  | cons c s =>
    simp only [callRest?, Option.ite_none_right_eq_some] at h
    have hr := closeCall?_suffix h.2
    exact ⟨hr.trans (List.suffix_cons c s), by have := hr.length_le; simp; omega⟩

theorem chainedCall?_suffix (h : chainedCall? s = some r) : r <:+ s := by
  obtain ⟨t, ht, h⟩ := Option.bind_eq_some_iff.mp h
  refine List.IsSuffix.trans ?_ ((after?_suffix ht).trans (skipBlanks_suffix s))
  split at h
  · exact absurd h (by simp)
  · next c u hu =>
    simp only [Option.ite_none_right_eq_some, Option.some.injEq] at h
    obtain ⟨_, _, rfl⟩ := h
    have htail : u <:+ t := ((List.suffix_cons c u).trans (hu ▸ List.suffix_rfl)).trans
      (skipBlanks_suffix t)
    exact ((skipBlanks_suffix _).trans (List.dropWhile_suffix _)).trans htail

theorem callStatement?_consumes : Consumes callStatement? := by
  intro s
  fun_induction callStatement? s with
  | case1 s hc => intro r h; exact absurd h (by simp)
  | case2 s rest hc hch =>
    intro r h
    have hrest := callRest?_suffix hc
    have hr := statementTail?_suffix h
    exact ⟨hr.trans hrest.1, by have := hr.length_le; omega⟩
  | case3 s rest hc chained hch hlt ih =>
    intro r h
    obtain ⟨hr, hlen⟩ := ih r h
    exact ⟨(hr.trans (chainedCall?_suffix hch)).trans (callRest?_suffix hc).1, by omega⟩
  | case4 s rest hc chained hch hlt => intro r h; exact absurd h (by simp)

end Source

end SitePreview
