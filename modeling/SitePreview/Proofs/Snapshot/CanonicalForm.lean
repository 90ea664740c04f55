import SitePreview.Snapshot.Canonical
import SitePreview.Proofs.FileSet.Lookup
import SitePreview.Proofs.Json.QuotedText

/-! The canonical form of a file set can be written, and it stands for the files and nothing else:
two file sets have the same canonical bytes exactly when every path has the same content in both. -/

namespace SitePreview

namespace Json

/-- The text of a pair of texts in canonical style. -/
def pairText (e : Text × Text) : Text :=
  "[" ++ (quote false e.1 ++ ("," ++ (quote false e.2 ++ "]")))

/-- The texts of pairs behind the first one, each with its comma, up to the closing bracket. -/
def pairsRest : List (Text × Text) → Text
  | [] => "]"
  | e :: es => "," ++ (pairText e ++ pairsRest es)

/-- The texts of pairs up to the closing bracket. -/
def pairsText : List (Text × Text) → Text
  | [] => "]"
  | e :: es => pairText e ++ pairsRest es

theorem textAt_ofTexts (depth : Nat) (e : Text × Text) :
    textAt .canonical depth (ofTexts [e.1, e.2]) = pairText e := by
  simp [ofTexts, textAt, itemTexts, bracketed, Style.canonical, pairText, Text.join]

theorem itemTexts_ofTexts (depth : Nat) (es : List (Text × Text)) :
    itemTexts .canonical depth (es.map fun e => ofTexts [e.1, e.2]) = es.map pairText := by
  induction es with
  | nil => rfl
  | cons e es ih => rw [List.map_cons, itemTexts, textAt_ofTexts, ih, List.map_cons]

theorem join_pairText_append (e : Text × Text) (es : List (Text × Text)) :
    Text.join "," ((e :: es).map pairText) ++ "]" = pairText e ++ pairsRest es := by
  induction es generalizing e with
  | nil => rfl
  | cons f es ih =>
    rw [List.map_cons, Text.join_cons _ _ (by simp), List.append_assoc, List.append_assoc, ih f]
    rfl

theorem toText_pairs (es : List (Text × Text)) :
    (array (es.map fun e => ofTexts [e.1, e.2])).toText .canonical = "[" ++ pairsText es := by
  rw [toText, textAt, itemTexts_ofTexts, bracketed]
  cases es with
  | nil => rfl
  | cons e es =>
    rw [if_neg (by simp)]
    simp only [Style.canonical]
    rw [List.append_assoc, join_pairText_append, pairsText]

/-- Both texts of a pair can be written in UTF-8. -/
def IsUtf8Pair (e : Text × Text) : Prop := e.1.isUtf8 = true ∧ e.2.isUtf8 = true

theorem pairText_append_inj {e f : Text × Text} {r s : Text} (he : IsUtf8Pair e)
    (hf : IsUtf8Pair f) (h : pairText e ++ r = pairText f ++ s) : e = f ∧ r = s := by
  simp only [pairText, List.append_assoc, List.append_cancel_left_eq] at h
  obtain ⟨h1, h⟩ := quote_append_inj he.1 hf.1 h
  rw [List.append_cancel_left_eq] at h
  obtain ⟨h2, h⟩ := quote_append_inj he.2 hf.2 h
  exact ⟨Prod.ext h1 h2, List.append_cancel_left_eq .. ▸ h⟩

theorem pairsRest_inj {es fs : List (Text × Text)} (he : ∀ e ∈ es, IsUtf8Pair e)
    (hf : ∀ f ∈ fs, IsUtf8Pair f) (h : pairsRest es = pairsRest fs) : es = fs := by
  induction es generalizing fs with
  | nil =>
    cases fs with
    | nil => rfl
    | cons f fs => exact absurd (List.cons.inj h).1 (by decide)
  | cons e es ih =>
    cases fs with
    | nil => exact absurd (List.cons.inj h).1 (by decide)
    | cons f fs =>
      rw [List.forall_mem_cons] at he hf
      rw [pairsRest, pairsRest, List.append_cancel_left_eq] at h
      obtain ⟨rfl, hrest⟩ := pairText_append_inj he.1 hf.1 h
      rw [ih he.2 hf.2 hrest]

/-- No list of pairs has the text of another one. -/
theorem pairsText_inj {es fs : List (Text × Text)} (he : ∀ e ∈ es, IsUtf8Pair e)
    (hf : ∀ f ∈ fs, IsUtf8Pair f) (h : pairsText es = pairsText fs) : es = fs := by
  cases es with
  | nil =>
    cases fs with
    | nil => rfl
    | cons f fs => exact absurd (List.cons.inj h).1 (by decide)
  | cons e es =>
    cases fs with
    | nil => exact absurd (List.cons.inj h).1 (by decide)
    | cons f fs =>
      rw [List.forall_mem_cons] at he hf
      rw [pairsText, pairsText] at h
      obtain ⟨rfl, hrest⟩ := pairText_append_inj he.1 hf.1 h
      rw [pairsRest_inj he.2 hf.2 hrest]

theorem isUtf8_hexDigit : ∀ n < 16, (hexDigit n).isSurrogate = false := by decide

theorem isUtf8_hex4 (n : Nat) : (hex4 n).isUtf8 = true := by
  have digit (k : Nat) : (hexDigit (k % 16)).isSurrogate = false :=
    isUtf8_hexDigit _ (Nat.mod_lt _ (by decide))
  simp [hex4, digit]

theorem isUtf8_escape {c : CodePoint} (hc : c.isSurrogate = false) :
    (escape false c).isUtf8 = true := by
  unfold escape
  split; · decide
  split; · decide
  split; · decide
  split; · decide
  split; · decide
  split; · decide
  split; · decide
  split
  · next h =>
    have hn : c.val < 0x10000 := by simp at h; omega
    rw [escapeNumber, if_pos hn, Text.isUtf8_append, isUtf8_hex4]
    decide
  · simp [hc]

theorem isUtf8_quote {t : Text} (ht : t.isUtf8 = true) : (quote false t).isUtf8 = true := by
  have hbody : Text.isUtf8 (t.flatMap (escape false)) = true := by
    induction t with
    | nil => rfl
    | cons c t ih =>
      simp only [Text.isUtf8_cons, Bool.and_eq_true, Bool.not_eq_true'] at ht
      rw [List.flatMap_cons, Text.isUtf8_append, isUtf8_escape ht.1, ih ht.2]
      rfl
  rw [quote, Text.isUtf8_append, Text.isUtf8_append, hbody]
  decide

theorem isUtf8_pairText {e : Text × Text} (he : IsUtf8Pair e) : (pairText e).isUtf8 = true := by
  simp only [pairText, Text.isUtf8_append, isUtf8_quote he.1, isUtf8_quote he.2]
  decide

theorem isUtf8_pairsRest {es : List (Text × Text)} (he : ∀ e ∈ es, IsUtf8Pair e) :
    (pairsRest es).isUtf8 = true := by
  induction es with
  | nil => decide
  | cons e es ih =>
    rw [List.forall_mem_cons] at he
    rw [pairsRest, Text.isUtf8_append, Text.isUtf8_append, isUtf8_pairText he.1, ih he.2]
    decide

theorem isUtf8_pairsText {es : List (Text × Text)} (he : ∀ e ∈ es, IsUtf8Pair e) :
    (pairsText es).isUtf8 = true := by
  cases es with
  | nil => decide
  | cons e es =>
    rw [List.forall_mem_cons] at he
    rw [pairsText, Text.isUtf8_append, isUtf8_pairText he.1, isUtf8_pairsRest he.2]
    rfl

end Json

theorem Text.isUtf8_hex (length n : Nat) : (hex length n).isUtf8 = true := by
  rw [hex, padLeft, isUtf8_append, isUtf8_map_ofChar, Bool.and_true]
  simp [isUtf8, CodePoint.isSurrogate_ofChar]

theorem Digest.isUtf8_hexDigest (bytes : List UInt8) : (hexDigest bytes).isUtf8 = true := by
  rw [hexDigest, Text.isUtf8, List.all_eq_true]
  intro c hc
  obtain ⟨b, -, hb⟩ := List.mem_flatMap.mp hc
  exact List.all_eq_true.mp (Text.isUtf8_hex 2 b.toNat) c hb

namespace FileSet

open Json

variable {a b files : FileSet}

/-- The entries in the order of their paths. -/
def sortedEntries (files : FileSet) : List (Text × Text) :=
  files.sortedPaths.map fun p => (p, files.content p)

theorem canonicalText_eq (files : FileSet) :
    files.canonicalText = "livepreview-snapshot-v1:" ++ ("[" ++ pairsText files.sortedEntries) := by
  rw [canonicalText, ← toText_pairs, sortedEntries, List.map_map]
  rfl

theorem IsUtf8.sortedEntries (h : files.IsUtf8) : ∀ e ∈ files.sortedEntries, IsUtf8Pair e := by
  intro e he
  obtain ⟨p, hp, rfl⟩ := List.mem_map.mp he
  have hp := mem_sortedPaths.mp hp
  exact ⟨h.path hp, h.content hp⟩

theorem isUtf8_canonicalText (h : files.IsUtf8) : files.canonicalText.isUtf8 = true := by
  rw [canonicalText_eq, Text.isUtf8_append, Text.isUtf8_append, isUtf8_pairsText h.sortedEntries]
  decide

theorem canonicalBytes_of_isUtf8 (h : files.IsUtf8) :
    files.canonicalBytes = .ok files.canonicalText.utf8Bytes :=
  Text.toUtf8_of_isUtf8 (isUtf8_canonicalText h)

theorem hash_of_isUtf8 (h : files.IsUtf8) : ∃ hash, files.hash = .ok hash ∧ hash.isUtf8 = true := by
  rw [hash, canonicalBytes_of_isUtf8 h]
  exact ⟨_, rfl, Text.isUtf8_take (Digest.isUtf8_hexDigest _) _⟩

theorem sortedEntries_eq_iff : a.sortedEntries = b.sortedEntries ↔ ∀ p, a.get? p = b.get? p := by
  constructor
  · intro h p
    have hpaths : a.sortedPaths = b.sortedPaths := by
      simpa [sortedEntries, Function.comp_def] using congrArg (List.map Prod.fst) h
    have hmem : p ∈ a.paths ↔ p ∈ b.paths := by
      rw [← mem_sortedPaths, hpaths, mem_sortedPaths]
    by_cases hp : p ∈ a.paths
    · have hcontent : a.content p = b.content p := by
        rw [sortedEntries, sortedEntries, hpaths, List.map_inj_left] at h
        exact (Prod.ext_iff.mp (h p (mem_sortedPaths.mpr (hmem.mp hp)))).2
      rw [get?_of_mem_paths hp, get?_of_mem_paths (hmem.mp hp), hcontent]
    · rw [get?_eq_none_iff.mpr hp, get?_eq_none_iff.mpr (mt hmem.mpr hp)]
  · intro h
    rw [sortedEntries, sortedEntries, sortedPaths_eq_of_get?_eq h]
    exact List.map_congr_left fun p _ => by rw [content, content, h p]

theorem canonicalText_inj (ha : a.IsUtf8) (hb : b.IsUtf8) :
    a.canonicalText = b.canonicalText ↔ ∀ p, a.get? p = b.get? p := by
  rw [← sortedEntries_eq_iff, canonicalText_eq, canonicalText_eq, List.append_cancel_left_eq,
    List.append_cancel_left_eq]
  exact ⟨pairsText_inj ha.sortedEntries hb.sortedEntries, fun h => h ▸ rfl⟩

/-- File sets without surrogates have canonical bytes, and these are the same exactly when the file
sets are the same map, in whatever order the files came in. -/
theorem canonicalBytes_eq_iff_same_map (ha : a.IsUtf8) (hb : b.IsUtf8) :
    ∃ bs cs, a.canonicalBytes = .ok bs ∧ b.canonicalBytes = .ok cs ∧
      (bs = cs ↔ ∀ p, a.get? p = b.get? p) :=
  ⟨_, _, canonicalBytes_of_isUtf8 ha, canonicalBytes_of_isUtf8 hb,
    (Text.utf8Bytes_inj (isUtf8_canonicalText ha) (isUtf8_canonicalText hb)).trans
      (canonicalText_inj ha hb)⟩

/-- A character that moves from a path to its content changes the canonical bytes. -/
theorem canonicalBytes_ne_of_moved_character :
    ∃ bs cs, (ofList [("a\"é", "c")]).canonicalBytes = .ok bs ∧
      (ofList [("a\"", "éc")]).canonicalBytes = .ok cs ∧ bs ≠ cs := by
  obtain ⟨bs, cs, hbs, hcs, hiff⟩ := canonicalBytes_eq_iff_same_map
    (a := ofList [("a\"é", "c")]) (b := ofList [("a\"", "éc")]) (by decide) (by decide)
  refine ⟨bs, cs, hbs, hcs, fun h => ?_⟩
  exact absurd (hiff.mp h "a\"") (by decide)

end FileSet

end SitePreview
