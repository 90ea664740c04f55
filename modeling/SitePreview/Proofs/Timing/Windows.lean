import SitePreview.Keyed
import SitePreview.Proofs.Decimal.Doubles
import SitePreview.Timing

/-! Statistics of recent durations. Each operation has a window of its own, which holds the last of
its durations, and statistics see nothing else. They depend on the order in the window only where
durations of the same value are not the same: an integer and a double, or the two zeros. -/

namespace SitePreview

variable {operation : Text} {d : Duration} {ds es : List Duration} {t : Timings}
  {samples : List (Text × Duration)}

namespace Duration

/-- The duration has a place in the order of numbers. -/
def IsNumber : Duration → Prop
  | whole _ => True
  | real x => Decimal.Value.ofFloat x ≠ .notANumber

instance : DecidablePred IsNumber
  | whole _ => isTrue trivial
  | real x => inferInstanceAs (Decidable (Decimal.Value.ofFloat x ≠ .notANumber))

/-- The durations of one value, in their order. -/
def ofSteps (steps : Int) (ds : List Duration) : List Duration := ds.filter fun d => d.steps = steps

theorem ofSteps_cons (steps : Int) (d : Duration) (ds : List Duration) :
    ofSteps steps (d :: ds) =
      if d.steps = steps then d :: ofSteps steps ds else ofSteps steps ds := by
  rw [ofSteps, List.filter_cons]
  simp only [decide_eq_true_eq]
  rfl

theorem mem_ofSteps {steps : Int} : d ∈ ofSteps steps ds ↔ d ∈ ds ∧ d.steps = steps := by
  rw [ofSteps, List.mem_filter, decide_eq_true_eq]

/-- The durations are numbers and the same ones, in an order that may differ between those of
different values. -/
structure Rearranged (ds es : List Duration) : Prop where
  numbers : ∀ d ∈ ds ++ es, d.IsNumber
  same : ∀ steps, ofSteps steps ds = ofSteps steps es

/-- Where durations of the same value are the same, any order will do. -/
theorem Rearranged.of_perm (hnumbers : ∀ d ∈ ds, d.IsNumber) (hperm : ds.Perm es)
    (hsame : ∀ a ∈ ds, ∀ b ∈ ds, a.steps = b.steps → a = b) : Rearranged ds es := by
  refine ⟨fun d hd => ?_, fun steps => ?_⟩
  · exact hnumbers d ((List.mem_append.mp hd).elim id hperm.mem_iff.mpr)
  · have hfilter : (ofSteps steps ds).Perm (ofSteps steps es) := hperm.filter _
    have hall (fs : List Duration) : fs.Pairwise fun _ _ => True :=
      List.pairwise_of_forall fun _ _ => trivial
    refine hfilter.eq_of_pairwise (fun a b ha hb _ _ => ?_) (hall _) (hall _)
    have ha := mem_ofSteps.mp ha
    have hb := mem_ofSteps.mp hb
    exact hsame a ha.1 b (hperm.mem_iff.mpr hb.1) (ha.2.trans hb.2.symm)

/-- The durations from the least on; those of the same value stay in order. -/
def sort (ds : List Duration) : List Duration := ds.mergeSort fun a b => decide (a.steps ≤ b.steps)

theorem sort_perm (ds : List Duration) : (sort ds).Perm ds := List.mergeSort_perm ds _

theorem sort_eq_nil : sort ds = [] ↔ ds = [] := by
  rw [← List.length_eq_zero_iff, (sort_perm ds).length_eq, List.length_eq_zero_iff]

theorem le_trans_steps (a b c : Duration) (hab : decide (a.steps ≤ b.steps) = true)
    (hbc : decide (b.steps ≤ c.steps) = true) : decide (a.steps ≤ c.steps) = true :=
  decide_eq_true ((of_decide_eq_true hab).trans (of_decide_eq_true hbc))

theorem le_total_steps (a b : Duration) :
    (decide (a.steps ≤ b.steps) || decide (b.steps ≤ a.steps)) = true := by
  simpa using Int.le_total a.steps b.steps

theorem pairwise_sort (ds : List Duration) : (sort ds).Pairwise fun a b => a.steps ≤ b.steps :=
  (List.pairwise_mergeSort le_trans_steps le_total_steps ds).imp of_decide_eq_true

theorem ofSteps_sort (steps : Int) (ds : List Duration) :
    ofSteps steps (sort ds) = ofSteps steps ds := by
  have hequal : (ofSteps steps ds).Pairwise fun a b => decide (a.steps ≤ b.steps) = true :=
    List.pairwise_of_forall_mem_list fun a ha b hb =>
      decide_eq_true ((mem_ofSteps.mp ha).2.trans (mem_ofSteps.mp hb).2.symm).le
  have hsublist : (ofSteps steps ds).Sublist (sort ds) :=
    List.sublist_mergeSort le_trans_steps le_total_steps hequal List.filter_sublist
  have hfilter : (ofSteps steps ds).Sublist (ofSteps steps (sort ds)) := by
    have hidem : ofSteps steps (ofSteps steps ds) = ofSteps steps ds :=
      List.filter_eq_self.mpr fun d hd => decide_eq_true (mem_ofSteps.mp hd).2
    exact hidem ▸ hsublist.filter _
  exact (hfilter.eq_of_length ((sort_perm ds).symm.filter _).length_eq).symm

theorem head_le (hds : (d :: ds).Pairwise fun a b => a.steps ≤ b.steps) {e : Duration}
    (he : e ∈ d :: ds) : d.steps ≤ e.steps := by
  rcases List.mem_cons.mp he with rfl | he
  · exact Int.le_refl _
  · exact List.rel_of_pairwise_cons hds he

theorem mem_iff_of_ofSteps_eq (h : ∀ steps, ofSteps steps ds = ofSteps steps es) :
    d ∈ ds ↔ d ∈ es := by
  have hd : d ∈ ofSteps d.steps ds ↔ d ∈ ofSteps d.steps es := by rw [h]
  simpa [mem_ofSteps] using hd

/-- Sorted durations are determined by those of each value. -/
theorem eq_of_ofSteps_eq (hds : ds.Pairwise fun a b => a.steps ≤ b.steps)
    (hes : es.Pairwise fun a b => a.steps ≤ b.steps)
    (h : ∀ steps, ofSteps steps ds = ofSteps steps es) : ds = es := by
  induction ds generalizing es with
  | nil => exact (List.eq_nil_iff_forall_not_mem.mpr fun a ha =>
      nomatch (mem_iff_of_ofSteps_eq h).mpr ha).symm
  | cons d ds ih =>
    cases es with
    | nil => exact nomatch (mem_iff_of_ofSteps_eq h).mp (List.mem_cons_self (a := d))
    | cons e es =>
      have hsteps : d.steps = e.steps :=
        Int.le_antisymm (head_le hds ((mem_iff_of_ofSteps_eq h).mpr List.mem_cons_self))
          (head_le hes ((mem_iff_of_ofSteps_eq h).mp List.mem_cons_self))
      have hhead := h e.steps
      rw [ofSteps_cons, ofSteps_cons, if_pos hsteps, if_pos rfl] at hhead
      obtain rfl : d = e := List.head_eq_of_cons_eq hhead
      have htail (steps : Int) : ofSteps steps ds = ofSteps steps es := by
        have hcons := h steps
        rw [ofSteps_cons, ofSteps_cons] at hcons
        split at hcons
        · exact List.tail_eq_of_cons_eq hcons
        · exact hcons
      rw [ih hds.of_cons hes.of_cons htail]

theorem sort_eq_self (h : ds.Pairwise fun a b => a.steps ≤ b.steps) : sort ds = ds :=
  List.mergeSort_of_pairwise (h.imp decide_eq_true)

/-- Durations in another order are sorted alike. -/
theorem Rearranged.sort_eq (h : Rearranged ds es) : sort ds = sort es :=
  eq_of_ofSteps_eq (pairwise_sort ds) (pairwise_sort es) fun steps => by
    rw [ofSteps_sort, ofSteps_sort, h.same]

/-- The duration is a double, or an integer that is smaller than the largest power of two. -/
def Fits (d : Duration) : Prop := ∀ n, d = whole n → n.natAbs < 2 ^ 1023

theorem Fits.toFloat_eq_ok (h : d.Fits) : ∃ x, d.toFloat = .ok x := by
  cases d with
  | whole n =>
    obtain ⟨x, hx⟩ := Decimal.quotient?_isSome Nat.one_pos (by norm_num)
      ((Nat.div_le_self _ _).trans_lt (h n rfl))
    exact ⟨x, by rw [toFloat, hx]; rfl⟩
  | real x => exact ⟨x, rfl⟩

theorem Fits.divide_eq_ok (h : d.Fits) {count : Nat} (hcount : 0 < count)
    (hbound : count < 2 ^ 64) : ∃ x, d.divide count = .ok x := by
  cases d with
  | whole n =>
    obtain ⟨x, hx⟩ := Decimal.quotient?_isSome hcount hbound
      ((Nat.div_le_self _ _).trans_lt (h n rfl))
    exact ⟨x, by rw [divide, hx]; rfl⟩
  | real x => exact ⟨x / count.toFloat, rfl⟩

theorem Fits.add_eq_ok {a b : Duration} (ha : a.Fits) (hb : b.Fits) :
    ∃ c, a.add b = .ok c ∧ ∀ k, c = whole k → ∃ m n, a = whole m ∧ b = whole n ∧ k = m + n := by
  obtain ⟨x, hx⟩ := ha.toFloat_eq_ok
  obtain ⟨y, hy⟩ := hb.toFloat_eq_ok
  have hsum : (do return real ((← a.toFloat) + (← b.toFloat))) = Except.ok (real (x + y)) := by
    rw [hx, hy]
    rfl
  match a, b with
  | whole m, whole n => exact ⟨whole (m + n), rfl, fun k hk => ⟨m, n, rfl, rfl, by cases hk; rfl⟩⟩
  | whole _, real _ => exact ⟨real (x + y), hsum, nofun⟩
  | real _, whole _ => exact ⟨real (x + y), hsum, nofun⟩
  | real _, real _ => exact ⟨real (x + y), hsum, nofun⟩

/-- Durations add up if their integers are so small that those add up. -/
theorem foldlM_add_eq_ok {bound : Nat} (hbound : bound < 2 ^ 1023)
    (hds : ∀ n, whole n ∈ ds → n.natAbs ≤ bound) {d : Duration}
    (hd : ∀ n, d = whole n → n.natAbs + bound * ds.length < 2 ^ 1023) :
    ∃ total, ds.foldlM add d = .ok total ∧ total.Fits := by
  induction ds generalizing d with
  | nil => exact ⟨d, rfl, hd⟩
  | cons e ds ih =>
    have hfits : d.Fits := fun n hn => (Nat.le_add_right _ _).trans_lt (hd n hn)
    have he : e.Fits := fun n hn => (hds n (hn ▸ List.mem_cons_self)).trans_lt hbound
    obtain ⟨c, hc, hwhole⟩ := hfits.add_eq_ok he
    have hrest (k : Int) (hk : c = whole k) : k.natAbs + bound * ds.length < 2 ^ 1023 := by
      obtain ⟨m, n, hm, hn, rfl⟩ := hwhole k hk
      have hle := hds n (hn ▸ List.mem_cons_self)
      have hlt := hd m hm
      rw [List.length_cons, Nat.mul_succ] at hlt
      omega
    obtain ⟨total, htotal, hfits⟩ := ih (fun n hn => hds n (List.mem_cons_of_mem _ hn)) hrest
    exact ⟨total, by rw [List.foldlM_cons, hc]; exact htotal, hfits⟩

end Duration

namespace Timings

open Duration

/-- The durations recorded for an operation, the oldest first. -/
def durationsOf (operation : Text) (samples : List (Text × Duration)) : List Duration :=
  samples.filterMap fun s => if s.1 = operation then some s.2 else none

section Recording

theorem lastItems_lastItems_append (window : Nat) (ds es : List Duration) :
    lastItems window (lastItems window ds ++ es) = lastItems window (ds ++ es) := by
  simp only [lastItems, List.length_append, List.length_drop]
  rw [List.drop_append, List.drop_append, List.drop_drop, List.length_drop]
  congr 2 <;> omega

theorem lookup_addEntry (window : Nat) (operation : Text) (d : Duration)
    (entries : List (Text × List Duration)) (other : Text) :
    (addEntry window operation d entries).lookup other =
      if other = operation then
        some (lastItems window ((entries.lookup operation).getD [] ++ [d]))
      else entries.lookup other := by
  induction entries with
  | nil => rw [addEntry, Keyed.lookup_cons]; rfl
  | cons e entries ih =>
    obtain ⟨name, ds⟩ := e
    rw [addEntry]
    split
    · next hname =>
      rw [hname, Keyed.lookup_cons, Keyed.lookup_cons, Keyed.lookup_cons, if_pos rfl]
      split <;> rfl
    · next hname =>
      rw [Keyed.lookup_cons, ih, Keyed.lookup_cons, Keyed.lookup_cons, if_neg (Ne.symm hname)]
      split
      · next hother => rw [if_neg (hother ▸ hname)]
      · rfl

theorem recent_record (t : Timings) (operation : Text) (d : Duration) (other : Text) :
    (t.record operation d).recent other =
      if other = operation then lastItems t.window (t.recent operation ++ [d])
      else t.recent other := by
  rw [recent, record, lookup_addEntry]
  split <;> rfl

/-- Each operation has the last of its own durations. -/
theorem recent_foldl (hrecent : t.recent operation = lastItems t.window ds)
    (samples : List (Text × Duration)) :
    (samples.foldl (fun t s => t.record s.1 s.2) t).recent operation =
      lastItems t.window (ds ++ durationsOf operation samples) := by
  induction samples generalizing t ds with
  | nil => rw [List.foldl_nil, hrecent, durationsOf, List.filterMap_nil, List.append_nil]
  | cons s samples ih =>
    rw [List.foldl_cons, durationsOf, List.filterMap_cons]
    by_cases hs : s.1 = operation
    · have hnext : (t.record s.1 s.2).recent operation =
          lastItems (t.record s.1 s.2).window (ds ++ [s.2]) := by
        rw [recent_record, if_pos hs.symm, hs, hrecent, lastItems_lastItems_append]
        rfl
      rw [ih hnext, if_pos hs, List.append_assoc]
      rfl
    · have hnext : (t.record s.1 s.2).recent operation =
          lastItems (t.record s.1 s.2).window ds := by
        rw [recent_record, if_neg (Ne.symm hs), hrecent]
        rfl
      rw [ih hnext, if_neg hs]
      rfl

end Recording

/-- Recording succeeds if the window is not negative and has a size. -/
theorem ofDurations_eq_ok {window : Int} (hleast : 0 ≤ window) (hgreatest : window < 2 ^ 63)
    (samples : List (Text × Duration)) : ∃ t, ofDurations window samples = .ok t := by
  rw [ofDurations]
  split
  · exact ⟨_, rfl⟩
  · rw [if_neg (Int.not_lt.mpr hleast), if_neg (Int.not_le.mpr hgreatest)]
    exact ⟨_, rfl⟩

/-- What is recent of an operation are the last of its durations. -/
theorem recent_ofDurations {window : Int} (h : ofDurations window samples = .ok t)
    (operation : Text) :
    t.recent operation = (durationsOf operation samples).rtake window.toNat := by
  rw [ofDurations] at h
  split at h
  · next hempty =>
    cases h
    rw [List.isEmpty_iff.mp hempty, durationsOf, List.filterMap_nil, List.rtake_nil]
    rfl
  · split at h
    · cases h
    · split at h
      · cases h
      · cases h
        have hstart : ({ window := window.toNat } : Timings).recent operation =
            lastItems window.toNat [] := by
          rw [lastItems, List.drop_nil]
          rfl
        exact recent_foldl hstart samples

section Statistics

/-- The statistics of an operation whose durations are sorted. -/
def statsOfSorted (operation : Text) (sorted : List Duration) : Except TimingError TimingStats := do
  let total ← sorted.foldlM Duration.add (.whole 0)
  let mean ← total.divide sorted.length
  let median ← percentile sorted 0.5
  let upper ← percentile sorted 0.95
  let maximum ← (sorted.getLastD (.whole 0)).toFloat
  return ⟨operation, sorted.length, mean, median, upper, maximum⟩

theorem stats_eq (t : Timings) (operation : Text) :
    t.stats operation = if t.recent operation = [] then .ok none
      else some <$> statsOfSorted operation (sort (t.recent operation)) := by
  rw [stats]
  split
  · next hrecent => rw [hrecent, if_pos rfl]
  · next d ds hrecent =>
    have hne : sort (d :: ds) ≠ [] := sort_eq_nil.not.mpr (List.cons_ne_nil d ds)
    have hlast : (sort (d :: ds)).getLastD d = (sort (d :: ds)).getLastD (.whole 0) := by
      rw [List.getLastD_eq_getLast?, List.getLastD_eq_getLast?, List.getLast?_eq_some_getLast hne]
      rfl
    rw [hrecent, if_neg (List.cons_ne_nil d ds), statsOfSorted, ← hlast]
    simp only [sort, map_bind, map_pure]

/-- A value on the line between two durations. -/
def between (below above : Duration) (weight : Float) : Except TimingError Float := do
  return (← below.toFloat) * (1 - weight) + (← above.toFloat) * weight

/-- Three roundings do not carry a smaller share to the last place. -/
theorem lower_lt {share : Float} {m last : Nat} (hshare : Decimal.IsNormal share m (-53))
    (hm : (m : ℚ) ≤ 24 / 25 * 2 ^ 53) (hlast : 0 < last) :
    (share * last.toFloat).toUInt64.toNat < last := by
  by_cases hbound : last < 2 ^ 64
  · obtain ⟨n, e, hnormal, hexponent, hvalue⟩ := Decimal.isNormal_toFloat hlast hbound
    obtain ⟨m', e', hnormal', -, hvalue'⟩ := hshare.mul hnormal (by omega) (by omega)
    have hpos : (0 : ℚ) < last := Nat.cast_pos.mpr hlast
    have hm' : Decimal.valueOf m (-53) ≤ 24 / 25 := by
      rw [Decimal.valueOf, zpow_neg, ← div_eq_mul_inv]
      exact (div_le_iff₀ (by positivity)).mpr hm
    have hlt : ((share * last.toFloat).toUInt64.toNat : ℚ) < last :=
      calc _ ≤ Decimal.valueOf m' e' := Decimal.toNat_toUInt64_le hnormal'
        _ ≤ Decimal.valueOf m (-53) * Decimal.valueOf n e * (1 + 1 / 2 ^ 52) := hvalue'
        _ ≤ 24 / 25 * (last * (1 + 1 / 2 ^ 52) ^ 2) * (1 + 1 / 2 ^ 52) := by
          have := Decimal.valueOf_nonneg n e
          gcongr
        _ = last * (24 / 25 * (1 + 1 / 2 ^ 52) ^ 3) := by ring
        _ < last * 1 := by
          gcongr
          norm_num
        _ = last := mul_one _
    exact Nat.cast_lt.mp hlt
  · have := UInt64.toNat_lt (share * last.toFloat).toUInt64
    omega

theorem isNormal_median : Decimal.IsNormal 0.5 (2 ^ 52) (-53) :=
  ⟨⟨by decide, rfl⟩, by decide, by decide⟩

theorem isNormal_upper : Decimal.IsNormal 0.95 8556839292003942 (-53) :=
  ⟨⟨by decide, rfl⟩, by decide, by decide⟩

/-- A percentile of two durations or more lies between neighbours among them. -/
theorem percentile_eq {share : Float} {sorted : List Duration}
    (hshare : share = 0.5 ∨ share = 0.95) (hsorted : 2 ≤ sorted.length) :
    ∃ i j : Fin sorted.length,
      let rank := share * (sorted.length - 1).toFloat
      i.val = rank.toUInt64.toNat ∧ j.val = i.val + 1 ∧
      percentile sorted share = between sorted[i] sorted[j] (rank - i.val.toFloat) := by
  have hlast : 0 < sorted.length - 1 := by omega
  have hlower : (share * (sorted.length - 1).toFloat).toUInt64.toNat < sorted.length - 1 := by
    rcases hshare with rfl | rfl
    · exact lower_lt isNormal_median (by norm_num) hlast
    · exact lower_lt isNormal_upper (by norm_num) hlast
  refine ⟨⟨_, hlower.trans_le (Nat.sub_le ..)⟩, ⟨_, Nat.add_lt_of_lt_sub hlower⟩, rfl, rfl, ?_⟩
  match sorted, hsorted with
  | d :: e :: ds, _ =>
    rw [percentile, between]
    · dsimp only
      rw [Nat.min_eq_left hlower, List.getD_eq_getElem?_getD, List.getD_eq_getElem?_getD,
        List.getElem?_eq_getElem (hlower.trans_le (Nat.sub_le ..)),
        List.getElem?_eq_getElem (Nat.add_lt_of_lt_sub hlower)]
      rfl
    · exact List.cons_ne_nil e ds

theorem percentile_eq_ok {sorted : List Duration} (h : ∀ d ∈ sorted, d.Fits) (share : Float) :
    ∃ x, percentile sorted share = .ok x := by
  match sorted with
  | [] => exact ⟨_, rfl⟩
  | [d] => exact (h d List.mem_cons_self).toFloat_eq_ok
  | d :: e :: ds =>
    have hget (i : Nat) : ((d :: e :: ds).getD i d).Fits := by
      rw [List.getD_eq_getElem?_getD]
      cases hi : (d :: e :: ds)[i]? with
      | none => exact h d List.mem_cons_self
      | some a => exact h a (List.mem_of_getElem? hi)
    obtain ⟨x, hx⟩ := (hget _).toFloat_eq_ok
    obtain ⟨y, hy⟩ := (hget _).toFloat_eq_ok
    rw [percentile]
    · exact ⟨_, Except.bind_eq_ok.mpr ⟨x, hx, Except.bind_eq_ok.mpr ⟨y, hy, rfl⟩⟩⟩
    · exact List.cons_ne_nil e ds

/-- Integers of which a count stays below a limit have a bound of which it does. -/
theorem exists_bound {limit count : Nat} (hlimit : 0 < limit) (hcount : 0 < count)
    (h : ∀ n, .whole n ∈ ds → n.natAbs * count < limit) :
    ∃ bound, bound * count < limit ∧ ∀ n, .whole n ∈ ds → n.natAbs ≤ bound := by
  refine ⟨(limit - 1) / count, ?_, fun n hn => (Nat.le_div_iff_mul_le hcount).mpr ?_⟩
  · exact (Nat.div_mul_le_self _ _).trans_lt (Nat.sub_one_lt hlimit.ne')
  · exact Nat.le_sub_one_of_lt (h n hn)

/-- Sorted durations have statistics if all their integers add up to a double. -/
theorem statsOfSorted_eq_ok {sorted : List Duration} (operation : Text) (hne : sorted ≠ [])
    (hlength : sorted.length < 2 ^ 64)
    (h : ∀ n, .whole n ∈ sorted → n.natAbs * sorted.length < 2 ^ 1023) :
    ∃ s, statsOfSorted operation sorted = .ok s := by
  have hpos : 0 < sorted.length := List.length_pos_of_ne_nil hne
  have hfits (d : Duration) (hd : d ∈ sorted) : d.Fits := fun n hn =>
    (Nat.le_mul_of_pos_right _ hpos).trans_lt (h n (hn ▸ hd))
  obtain ⟨bound, hbound, hwhole⟩ := exists_bound (Nat.two_pow_pos 1023) hpos h
  obtain ⟨total, htotal, htotalFits⟩ := foldlM_add_eq_ok (d := .whole 0)
    ((Nat.le_mul_of_pos_right _ hpos).trans_lt hbound) hwhole fun n hn => by
      cases hn
      rwa [Int.natAbs_zero, Nat.zero_add]
  obtain ⟨mean, hmean⟩ := htotalFits.divide_eq_ok hpos hlength
  obtain ⟨median, hmedian⟩ := percentile_eq_ok hfits 0.5
  obtain ⟨upper, hupper⟩ := percentile_eq_ok hfits 0.95
  obtain ⟨maximum, hmaximum⟩ : ∃ x, (sorted.getLastD (.whole 0)).toFloat = .ok x := by
    rw [List.getLastD_eq_getLast?, List.getLast?_eq_some_getLast hne]
    exact (hfits _ (List.getLast_mem hne)).toFloat_eq_ok
  exact ⟨_, Except.bind_eq_ok.mpr ⟨total, htotal, Except.bind_eq_ok.mpr ⟨mean, hmean,
    Except.bind_eq_ok.mpr ⟨median, hmedian, Except.bind_eq_ok.mpr ⟨upper, hupper,
      Except.bind_eq_ok.mpr ⟨maximum, hmaximum, rfl⟩⟩⟩⟩⟩⟩

/-- Statistics are about their operation, all of its durations and two percentiles of them. -/
theorem fields_of_statsOfSorted {sorted : List Duration} {s : TimingStats}
    (h : statsOfSorted operation sorted = .ok s) :
    (s.operation = operation ∧ s.count = sorted.length) ∧
      percentile sorted 0.5 = .ok s.median ∧ percentile sorted 0.95 = .ok s.upper := by
  obtain ⟨total, -, h⟩ := Except.bind_eq_ok.mp h
  obtain ⟨mean, -, h⟩ := Except.bind_eq_ok.mp h
  obtain ⟨median, hmedian, h⟩ := Except.bind_eq_ok.mp h
  obtain ⟨upper, hupper, h⟩ := Except.bind_eq_ok.mp h
  obtain ⟨maximum, -, h⟩ := Except.bind_eq_ok.mp h
  cases h
  exact ⟨⟨rfl, rfl⟩, hmedian, hupper⟩

end Statistics

section Windows

/-- The statistics of an operation after durations were recorded. -/
def statsAfter (window : Int) (samples : List (Text × Duration)) (operation : Text) :
    Except TimingError (Option TimingStats) := do
  (← ofDurations window samples).stats operation

/-- The last durations of an operation, as many as a window holds. -/
def windowOf (window : Int) (samples : List (Text × Duration)) (operation : Text) : List Duration :=
  (durationsOf operation samples).rtake window.toNat

theorem statsAfter_eq {window : Int} (hwindow : 0 ≤ window ∧ window < 2 ^ 63)
    (samples : List (Text × Duration)) (operation : Text) :
    statsAfter window samples operation =
      if windowOf window samples operation = [] then .ok none
      else some <$> statsOfSorted operation (sort (windowOf window samples operation)) := by
  obtain ⟨t, ht⟩ := ofDurations_eq_ok hwindow.1 hwindow.2 samples
  rw [windowOf, ← recent_ofDurations ht, ← stats_eq, statsAfter, ht]
  rfl

theorem length_windowOf (window : Int) (samples : List (Text × Duration)) (operation : Text) :
    (windowOf window samples operation).length =
      min window.toNat (durationsOf operation samples).length := by
  rw [windowOf, List.rtake_eq_reverse_take_reverse, List.length_reverse, List.length_take,
    List.length_reverse]

/-- Durations that are in order and fit in the window are what the statistics are made of. -/
theorem statsAfter_map (operation : Text) (ds : List Duration)
    (h : ds ≠ [] ∧ ds.length ≤ 200 ∧ ds.Pairwise fun a b => a.steps ≤ b.steps) :
    statsAfter 200 (ds.map fun d => (operation, d)) operation =
      some <$> statsOfSorted operation ds := by
  obtain ⟨hne, hlength, hsorted⟩ := h
  have hdurations : durationsOf operation (ds.map fun d => (operation, d)) = ds := by
    simp [durationsOf]
  have hlast : ds.length - 200 = 0 := Nat.sub_eq_zero_of_le hlength
  have hrecent : windowOf 200 (ds.map fun d => (operation, d)) operation = ds := by
    rw [windowOf, hdurations]
    exact (congrArg (fun n => ds.drop n) hlast).trans List.drop_zero
  rw [statsAfter_eq (by decide), hrecent, if_neg hne, sort_eq_self hsorted]

end Windows

end Timings

end SitePreview
