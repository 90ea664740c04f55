import SitePreview.Text.Utf8

/-! Reading UTF-8 inverts writing it: the bytes of a text without surrogates stand for that text, so
no two such texts have the same bytes, and no other bytes stand for a text. -/

namespace SitePreview

namespace CodePoint

@[simp] theorem ofNat?_val (c : CodePoint) : ofNat? c.val = some c := by
  simp [ofNat?, c.lt_bound]

/-- A character is no surrogate. -/
theorem isSurrogate_ofChar (c : Char) : (ofChar c).isSurrogate = false := by
  have h := c.valid
  simp only [UInt32.isValidChar, Nat.isValidChar] at h
  rw [isSurrogate, Bool.and_eq_false_iff, decide_eq_false_iff_not, decide_eq_false_iff_not]
  show ¬0xD800 ≤ c.val.toNat ∨ ¬c.val.toNat ≤ 0xDFFF
  omega

end CodePoint

namespace Text

theorem shortestForm?_val {c : CodePoint} {least : Nat} (hl : least ≤ c.val)
    (hs : c.isSurrogate = false) : shortestForm? least c.val = some c := by
  simp [shortestForm?, Nat.not_lt.mpr hl, hs]

/-- A byte that follows the first one of a code point gives back its six bits. -/
theorem continuation?_ofNat (m : Nat) :
    continuation? (.ofNat (0x80 + m % 64)) = some (m % 64) := by
  have hn : (UInt8.ofNat (0x80 + m % 64)).toNat = 0x80 + m % 64 := by
    rw [UInt8.toNat_ofNat']
    omega
  simp only [continuation?, hn]
  rw [if_pos (by simp; omega)]
  simp

variable {c : CodePoint} {bs : List UInt8}

theorem ofUtf8?_utf8_one (h1 : c.val < 0x80) :
    ofUtf8? (c.utf8 ++ bs) = (ofUtf8? bs).map (c :: ·) := by
  have hn : (UInt8.ofNat c.val).toNat = c.val := by rw [UInt8.toNat_ofNat']; omega
  simp only [CodePoint.utf8, h1, if_true, List.cons_append, List.nil_append]
  rw [ofUtf8?.eq_def]
  simp [hn, h1]

theorem ofUtf8?_utf8_two (hs : c.isSurrogate = false) (h1 : ¬c.val < 0x80) (h2 : c.val < 0x800) :
    ofUtf8? (c.utf8 ++ bs) = (ofUtf8? bs).map (c :: ·) := by
  have hn : (UInt8.ofNat (0xC0 + c.val / 64)).toNat = 0xC0 + c.val / 64 := by
    rw [UInt8.toNat_ofNat']; omega
  have hv : (0xC0 + c.val / 64 - 0xC0) * 64 + c.val % 64 = c.val := by omega
  simp only [CodePoint.utf8, h1, h2, if_true, if_false, List.cons_append, List.nil_append,
    ofUtf8?, hn, Nat.pow_zero, Nat.div_one, continuation?_ofNat]
  rw [if_neg (by omega), if_neg (by omega), if_pos (by omega)]
  simp only [Option.bind_eq_bind, Option.bind_some, hv]
  rw [shortestForm?_val (by omega) hs]
  rfl

theorem ofUtf8?_utf8_three (hs : c.isSurrogate = false) (h2 : ¬c.val < 0x800)
    (h3 : c.val < 0x10000) : ofUtf8? (c.utf8 ++ bs) = (ofUtf8? bs).map (c :: ·) := by
  have h1 : ¬c.val < 0x80 := by omega
  have hn : (UInt8.ofNat (0xE0 + c.val / 64 ^ 2)).toNat = 0xE0 + c.val / 64 ^ 2 := by
    rw [UInt8.toNat_ofNat']; omega
  have hv : (0xE0 + c.val / 64 ^ 2 - 0xE0) * 64 ^ 2 + c.val / 64 ^ 1 % 64 * 64 + c.val % 64 =
      c.val := by omega
  simp only [CodePoint.utf8, h1, h2, h3, if_true, if_false, List.cons_append, List.nil_append,
    ofUtf8?, hn, Nat.pow_zero, Nat.div_one, continuation?_ofNat]
  rw [if_neg (by omega), if_neg (by omega), if_neg (by omega), if_pos (by omega)]
  simp only [Option.bind_eq_bind, Option.bind_some, hv]
  rw [shortestForm?_val (by omega) hs]
  rfl

theorem ofUtf8?_four {a b d e : UInt8} (hlow : 0xF0 ≤ a.toNat) (hhigh : a.toNat < 0xF8) :
    ofUtf8? (a :: b :: d :: e :: bs) =
      (continuation? b).bind fun x =>
        (continuation? d).bind fun y =>
          (continuation? e).bind fun z =>
            (shortestForm? 0x10000 ((a.toNat - 0xF0) * 64 ^ 3 + x * 64 ^ 2 + y * 64 + z)).bind
              fun c => (ofUtf8? bs).map (c :: ·) := by
  rw [ofUtf8?, if_neg (by omega), if_neg (by omega), if_neg (by omega), if_neg (by omega),
    if_pos hhigh]
  rfl

theorem ofUtf8?_utf8_four (hs : c.isSurrogate = false) (h3 : ¬c.val < 0x10000) :
    ofUtf8? (c.utf8 ++ bs) = (ofUtf8? bs).map (c :: ·) := by
  have hbound := c.lt_bound
  have h1 : ¬c.val < 0x80 := by omega
  have h2 : ¬c.val < 0x800 := by omega
  have hn : (UInt8.ofNat (0xF0 + c.val / 64 ^ 3)).toNat = 0xF0 + c.val / 64 ^ 3 := by
    rw [UInt8.toNat_ofNat']; omega
  have hv : (0xF0 + c.val / 64 ^ 3 - 0xF0) * 64 ^ 3 + c.val / 64 ^ 2 % 64 * 64 ^ 2 +
      c.val / 64 ^ 1 % 64 * 64 + c.val / 64 ^ 0 % 64 = c.val := by omega
  rw [CodePoint.utf8, if_neg h1, if_neg h2, if_neg h3]
  simp only [List.cons_append, List.nil_append]
  rw [ofUtf8?_four (by omega) (by omega), continuation?_ofNat, continuation?_ofNat,
    continuation?_ofNat, Option.bind_some, Option.bind_some, Option.bind_some, hn, hv,
    shortestForm?_val (by omega) hs, Option.bind_some]

/-- The bytes of a code point are read as that code point, whatever follows. -/
theorem ofUtf8?_utf8_append (hs : c.isSurrogate = false) (bs : List UInt8) :
    ofUtf8? (c.utf8 ++ bs) = (ofUtf8? bs).map (c :: ·) := by
  by_cases h1 : c.val < 0x80
  · exact ofUtf8?_utf8_one h1
  by_cases h2 : c.val < 0x800
  · exact ofUtf8?_utf8_two hs h1 h2
  by_cases h3 : c.val < 0x10000
  · exact ofUtf8?_utf8_three hs h2 h3
  · exact ofUtf8?_utf8_four hs h3

@[simp] theorem isUtf8_nil : isUtf8 [] = true := rfl

@[simp] theorem isUtf8_cons (c : CodePoint) (t : Text) :
    isUtf8 (c :: t) = (!c.isSurrogate && t.isUtf8) := rfl

@[simp] theorem isUtf8_append (s t : Text) : isUtf8 (s ++ t) = (s.isUtf8 && t.isUtf8) := by
  simp [isUtf8]

theorem isUtf8_map_ofChar (cs : List Char) : isUtf8 (cs.map CodePoint.ofChar) = true := by
  simp [isUtf8, CodePoint.isSurrogate_ofChar]

theorem isUtf8_take {t : Text} (h : t.isUtf8 = true) (n : Nat) : isUtf8 (t.take n) = true := by
  rw [isUtf8, List.all_eq_true] at h ⊢
  exact fun c hc => h c (List.mem_of_mem_take hc)

theorem ofUtf8?_utf8Bytes {t : Text} (ht : t.isUtf8 = true) : ofUtf8? t.utf8Bytes = some t := by
  induction t with
  | nil => rfl
  | cons c t ih =>
    simp only [isUtf8_cons, Bool.and_eq_true, Bool.not_eq_true'] at ht
    rw [utf8Bytes, List.flatMap_cons, ofUtf8?_utf8_append ht.1]
    simpa [utf8Bytes] using ih ht.2

section Reading

variable {a b : UInt8} {t : Text} {x y z least n : Nat}

theorem shortestForm?_eq_some (h : shortestForm? least n = some c) :
    n = c.val ∧ least ≤ c.val ∧ c.isSurrogate = false := by
  rw [shortestForm?] at h
  split at h
  · cases h
  · next hleast =>
    obtain ⟨hread, hsurrogate⟩ := Option.filter_eq_some_iff.mp h
    rw [CodePoint.ofNat?] at hread
    split at hread
    · obtain rfl := Option.some.inj hread
      exact ⟨rfl, Nat.not_lt.mp hleast, by simpa using hsurrogate⟩
    · cases hread

theorem continuation?_eq_some (h : continuation? b = some x) : x < 64 ∧ b = .ofNat (0x80 + x) := by
  rw [continuation?] at h
  split at h
  · next hrange =>
    simp only [Bool.and_eq_true, decide_eq_true_eq] at hrange
    have hx := Option.some.inj h
    refine ⟨by omega, ?_⟩
    rw [← hx, Nat.add_sub_cancel' hrange.1, UInt8.ofNat_toNat]
  · cases h

theorem utf8_of_two (hlow : 0xC0 ≤ a.toNat) (hhigh : a.toNat < 0xE0) (hx : x < 64)
    (hc : (a.toNat - 0xC0) * 64 + x = c.val) (hleast : 0x80 ≤ c.val) :
    c.utf8 = [a, .ofNat (0x80 + x)] := by
  have ha : 0xC0 + c.val / 64 = a.toNat := by omega
  have hx : c.val / 64 ^ 0 % 64 = x := by omega
  rw [CodePoint.utf8, if_neg (by omega), if_pos (by omega)]
  dsimp only
  rw [ha, hx, UInt8.ofNat_toNat]

theorem utf8_of_three (hlow : 0xE0 ≤ a.toNat) (hhigh : a.toNat < 0xF0) (hx : x < 64) (hy : y < 64)
    (hc : (a.toNat - 0xE0) * 64 ^ 2 + x * 64 + y = c.val) (hleast : 0x800 ≤ c.val) :
    c.utf8 = [a, .ofNat (0x80 + x), .ofNat (0x80 + y)] := by
  have ha : 0xE0 + c.val / 64 ^ 2 = a.toNat := by omega
  have hx : c.val / 64 ^ 1 % 64 = x := by omega
  have hy : c.val / 64 ^ 0 % 64 = y := by omega
  rw [CodePoint.utf8, if_neg (by omega), if_neg (by omega), if_pos (by omega)]
  dsimp only
  rw [ha, hx, hy, UInt8.ofNat_toNat]

theorem utf8_of_four (hlow : 0xF0 ≤ a.toNat) (hx : x < 64) (hy : y < 64) (hz : z < 64)
    (hc : (a.toNat - 0xF0) * 64 ^ 3 + x * 64 ^ 2 + y * 64 + z = c.val)
    (hleast : 0x10000 ≤ c.val) :
    c.utf8 = [a, .ofNat (0x80 + x), .ofNat (0x80 + y), .ofNat (0x80 + z)] := by
  have ha : 0xF0 + c.val / 64 ^ 3 = a.toNat := by omega
  have hx : c.val / 64 ^ 2 % 64 = x := by omega
  have hy : c.val / 64 ^ 1 % 64 = y := by omega
  have hz : c.val / 64 ^ 0 % 64 = z := by omega
  rw [CodePoint.utf8, if_neg (by omega), if_neg (by omega), if_neg (by omega)]
  dsimp only
  rw [ha, hx, hy, hz, UInt8.ofNat_toNat]

/-- What is read starts with the bytes of its first code point, which is no surrogate. -/
theorem exists_of_ofUtf8?_cons (h : ofUtf8? (a :: bs) = some t) :
    ∃ c u rest, t = c :: u ∧ a :: bs = c.utf8 ++ rest ∧ c.isSurrogate = false ∧
      ofUtf8? rest = some u := by
  rw [ofUtf8?.eq_def] at h
  simp only [Option.bind_eq_bind] at h
  split at h
  · next hone =>
    simp only [Option.bind_eq_some_iff, Option.map_eq_some_iff] at h
    obtain ⟨c, hc, u, hu, rfl⟩ := h
    have hc : a.toNat = c.val := by
      rw [CodePoint.ofNat?, dif_pos (by omega)] at hc
      rw [← Option.some.inj hc]
    have hbytes : c.utf8 = [a] := by
      rw [CodePoint.utf8, if_pos (hc ▸ hone), ← hc, UInt8.ofNat_toNat]
    have hsurrogate : c.isSurrogate = false := by simp [CodePoint.isSurrogate]; omega
    exact ⟨c, u, bs, rfl, by rw [hbytes]; rfl, hsurrogate, hu⟩
  split at h
  · cases h
  split at h
  · split at h
    · next b bs =>
      simp only [Option.bind_eq_some_iff, Option.map_eq_some_iff] at h
      obtain ⟨x, hx, c, hc, u, hu, rfl⟩ := h
      obtain ⟨hxlt, rfl⟩ := continuation?_eq_some hx
      obtain ⟨hc, hleast, hsurrogate⟩ := shortestForm?_eq_some hc
      have hbytes := utf8_of_two (by omega) (by omega) hxlt hc hleast
      exact ⟨c, u, bs, rfl, by rw [hbytes]; rfl, hsurrogate, hu⟩
    · cases h
  split at h
  · split at h
    · next b d bs =>
      simp only [Option.bind_eq_some_iff, Option.map_eq_some_iff] at h
      obtain ⟨x, hx, y, hy, c, hc, u, hu, rfl⟩ := h
      obtain ⟨hxlt, rfl⟩ := continuation?_eq_some hx
      obtain ⟨hylt, rfl⟩ := continuation?_eq_some hy
      obtain ⟨hc, hleast, hsurrogate⟩ := shortestForm?_eq_some hc
      have hbytes := utf8_of_three (by omega) (by omega) hxlt hylt hc hleast
      exact ⟨c, u, bs, rfl, by rw [hbytes]; rfl, hsurrogate, hu⟩
    · cases h
  split at h
  · split at h
    · next b d e bs =>
      simp only [Option.bind_eq_some_iff, Option.map_eq_some_iff] at h
      obtain ⟨x, hx, y, hy, z, hz, c, hc, u, hu, rfl⟩ := h
      obtain ⟨hxlt, rfl⟩ := continuation?_eq_some hx
      obtain ⟨hylt, rfl⟩ := continuation?_eq_some hy
      obtain ⟨hzlt, rfl⟩ := continuation?_eq_some hz
      obtain ⟨hc, hleast, hsurrogate⟩ := shortestForm?_eq_some hc
      have hbytes := utf8_of_four (by omega) hxlt hylt hzlt hc hleast
      exact ⟨c, u, bs, rfl, by rw [hbytes]; rfl, hsurrogate, hu⟩
    · cases h
  · cases h

/-- Bytes are read as the text without surrogates that is written with them, and as no other. -/
theorem ofUtf8?_eq_some_iff : ofUtf8? bs = some t ↔ t.isUtf8 = true ∧ t.utf8Bytes = bs := by
  constructor
  · intro h
    induction t generalizing bs with
    | nil =>
      cases bs with
      | nil => exact ⟨rfl, rfl⟩
      | cons a bs =>
        obtain ⟨c, u, rest, hnil, -⟩ := exists_of_ofUtf8?_cons h
        cases hnil
    | cons c t ih =>
      cases bs with
      | nil => cases h
      | cons a bs =>
        obtain ⟨c', t', rest, heq, hbytes, hsurrogate, hrest⟩ := exists_of_ofUtf8?_cons h
        obtain ⟨rfl, rfl⟩ := List.cons.inj heq
        obtain ⟨hvalid, rfl⟩ := ih hrest
        exact ⟨by simp [hsurrogate, hvalid], hbytes.symm⟩
  · rintro ⟨hvalid, rfl⟩
    exact ofUtf8?_utf8Bytes hvalid

end Reading

theorem utf8Bytes_inj {s t : Text} (hs : s.isUtf8 = true) (ht : t.isUtf8 = true) :
    s.utf8Bytes = t.utf8Bytes ↔ s = t := by
  refine ⟨fun h => ?_, fun h => h ▸ rfl⟩
  have h' := congrArg ofUtf8? h
  rw [ofUtf8?_utf8Bytes hs, ofUtf8?_utf8Bytes ht] at h'
  exact Option.some.inj h'

theorem encodeErrorFrom?_eq_none_iff {t : Text} {n : Nat} :
    encodeErrorFrom? n t = none ↔ t.isUtf8 = true := by
  induction t generalizing n with
  | nil => simp [encodeErrorFrom?]
  | cons c t ih => cases h : c.isSurrogate <;> simp [encodeErrorFrom?, h, ih]

theorem toUtf8_of_isUtf8 {t : Text} (ht : t.isUtf8 = true) : t.toUtf8 = .ok t.utf8Bytes := by
  rw [toUtf8, encodeErrorFrom?_eq_none_iff.mpr ht]

end Text

end SitePreview
