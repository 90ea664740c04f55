import SitePreview.Proofs.Trail.Survivors

/-! Numbers of version records over a whole run of store calls. A new record gets the number behind
the largest one that a record still holds, so a number is given again exactly if the record that got
the last number is removed before the next one is added. -/

namespace SitePreview

theorem VersionTable.nextId_eq (t : VersionTable) :
    t.nextId = 1 ∨ ∃ n ∈ t.rows.map Prod.fst, t.nextId = n + 1 := by
  rw [nextId]
  generalize t.rows.map Prod.fst = ns
  induction ns with
  | nil => exact .inl rfl
  | cons n ns ih =>
    rw [List.foldr_cons]
    rcases Nat.le_total (ns.foldr max 0) n with hle | hle
    · exact .inr ⟨n, List.mem_cons_self, by omega⟩
    · rw [Nat.max_eq_right hle]
      rcases ih with h | ⟨k, hk, h⟩
      · exact .inl h
      · exact .inr ⟨k, List.mem_cons_of_mem n hk, h⟩

namespace Chronicle

variable {h : Chronicle} {now : Timestamp} {c : StoreCall} {calls : List (Timestamp × StoreCall)}

/-- The record that got the last number, if there is one, is left. -/
def KeepsLast (h : Chronicle) : Prop := ∀ n ∈ h.numbers.getLast?, some n ∈ h.held

/-- The numbers from 1 on, as many as there are to be. -/
def firstNumbers (k : Nat) : List Int := (List.range k).map fun n : Nat => (n : Int) + 1

theorem firstNumbers_succ (k : Nat) : firstNumbers (k + 1) = firstNumbers k ++ [(k : Int) + 1] := by
  rw [firstNumbers, List.range_succ, List.map_append]
  rfl

theorem mem_firstNumbers {k : Nat} {n : Int} : n ∈ firstNumbers k ↔ 1 ≤ n ∧ n ≤ k := by
  rw [firstNumbers, List.mem_map]
  constructor
  · rintro ⟨i, hi, rfl⟩
    have := List.mem_range.mp hi
    omega
  · rintro ⟨hpos, hle⟩
    exact ⟨(n - 1).toNat, List.mem_range.mpr (by omega), by omega⟩

theorem nodup_firstNumbers (k : Nat) : (firstNumbers k).Nodup := by
  induction k with
  | zero => exact .nil
  | succ k ih =>
    rw [firstNumbers_succ, List.nodup_append]
    refine ⟨ih, List.pairwise_singleton _ _, fun n hn i hi => ?_⟩
    have := (mem_firstNumbers.mp hn).2
    have := List.mem_singleton.mp hi
    omega

theorem getLast?_firstNumbers_succ (k : Nat) :
    (firstNumbers (k + 1)).getLast? = some ((k : Int) + 1) := by
  rw [firstNumbers_succ, List.getLast?_concat]

/-- The number that the next record gets. -/
def nextNumber (h : Chronicle) : Int := h.database.versions.nextId

theorem Faithful.mem_held (hh : h.Faithful) {n : Int} :
    some n ∈ h.held ↔ ∃ i ∈ h.database.versions.rows.map Prod.fst, n = (i : Int) := by
  simp only [hh.held_eq, List.mem_map, Option.some.injEq]
  constructor
  · rintro ⟨row, hrow, rfl⟩
    exact ⟨row.1, ⟨row, hrow, rfl⟩, rfl⟩
  · rintro ⟨_, ⟨row, hrow, rfl⟩, rfl⟩
    exact ⟨row, hrow, rfl⟩

/-- The next number is larger than those that are held, and no larger than it has to be. -/
theorem Faithful.nextNumber_spec (hh : h.Faithful) :
    (∀ n, some n ∈ h.held → n < h.nextNumber) ∧
      (h.nextNumber = 1 ∨ some (h.nextNumber - 1) ∈ h.held) := by
  refine ⟨fun n hn => ?_, ?_⟩
  · obtain ⟨i, hi, rfl⟩ := hh.mem_held.mp hn
    exact Int.ofNat_lt.mpr (VersionTable.lt_nextId hi)
  · rcases h.database.versions.nextId_eq with hone | ⟨i, hi, hnext⟩
    · exact .inl (by rw [nextNumber, hone]; rfl)
    · refine .inr (hh.mem_held.mpr ⟨i, hi, ?_⟩)
      rw [nextNumber, hnext]
      omega

theorem numbers_next_append {r : VersionRecord} (ht : h.database.hasTables = true)
    (hc : (StoreCall.appendVersion r).Plain) :
    (h.next now (.appendVersion r)).numbers = h.numbers ++ [h.nextNumber] := by
  rw [next_append ht hc]
  rfl

/-- Only an append that is taken gives a number. -/
theorem numbers_next (ht : h.database.hasTables = true) (now : Timestamp) (c : StoreCall) :
    (h.next now c).numbers = h.numbers ∨
      (∃ r, c = .appendVersion r) ∧ c.Plain ∧
        (h.next now c).numbers = h.numbers ++ [h.nextNumber] := by
  by_cases hc : c.Plain
  · cases c with
    | appendVersion r => exact .inr ⟨⟨r, rfl⟩, hc, numbers_next_append ht hc⟩
    | eraseVersions | listVersions | loadProject | saveProject | eraseProject =>
      refine .inl ?_
      rw [next_of_plain ht hc]
      exact List.append_nil _
  · exact .inl (congrArg numbers (next_of_not_plain ht hc))

/-- As long as the last record is left, numbers go on without a gap. -/
theorem Faithful.nextNumber_of_keepsLast (hh : h.Faithful) {k : Nat}
    (hnumbers : h.numbers = firstNumbers k) (hkeeps : h.KeepsLast) :
    h.nextNumber = (k : Int) + 1 := by
  obtain ⟨habove, hleast⟩ := hh.nextNumber_spec
  have hle : h.nextNumber ≤ (k : Int) + 1 := by
    rcases hleast with hone | hheld
    · omega
    · obtain ⟨n, hn, heq⟩ := hh.given _ hheld
      rw [hnumbers] at hn
      have := (mem_firstNumbers.mp hn).2
      have := Option.some.inj heq
      omega
  have hlt : (k : Int) < h.nextNumber := by
    cases k with
    | zero =>
      rcases hleast with hone | hheld
      · omega
      · obtain ⟨n, hn, -⟩ := hh.given _ hheld
        rw [hnumbers] at hn
        cases hn
    | succ k =>
      refine habove _ (hkeeps _ ?_)
      rw [hnumbers, getLast?_firstNumbers_succ]
      rfl
  omega

/-- Once the last record is removed, a number that was given is the next. -/
theorem Faithful.nextNumber_mem_of_not_keepsLast (hh : h.Faithful) {k : Nat}
    (hnumbers : h.numbers = firstNumbers k) (hkeeps : ¬h.KeepsLast) :
    h.nextNumber ∈ h.numbers := by
  obtain ⟨-, hleast⟩ := hh.nextNumber_spec
  cases k with
  | zero => exact absurd (fun n hn => by rw [hnumbers] at hn; cases hn) hkeeps
  | succ k =>
    have hlast : some ((k : Int) + 1) ∉ h.held := by
      intro hheld
      refine hkeeps fun n hn => ?_
      rw [hnumbers, getLast?_firstNumbers_succ] at hn
      cases hn
      exact hheld
    rw [hnumbers, mem_firstNumbers]
    rcases hleast with hone | hheld
    · omega
    · obtain ⟨n, hn, heq⟩ := hh.given _ hheld
      rw [hnumbers, mem_firstNumbers] at hn
      cases heq
      have hne : h.nextNumber - 1 ≠ (k : Int) + 1 := fun heq => hlast (heq ▸ hheld)
      omega

/-- Whenever a record is added in the course of the calls, the one added before it is left. -/
def Spared (calls : List (Timestamp × StoreCall)) : Prop :=
  ∀ before now r later, calls = before ++ (now, .appendVersion r) :: later →
    (∃ v, ((after before).database.perform now (.appendVersion r)).1 = .ok v) →
    (after before).KeepsLast

theorem spared_concat {x : Timestamp × StoreCall} :
    Spared (calls ++ [x]) ↔ Spared calls ∧
      ∀ r, x.2 = .appendVersion r → (StoreCall.appendVersion r).Plain →
        (after calls).KeepsLast := by
  constructor
  · refine fun h => ⟨fun before now r later hcalls => ?_, fun r hx hplain => ?_⟩
    · exact h before now r (later ++ [x]) (by rw [hcalls, List.append_assoc]; rfl)
    · exact h calls x.1 r [] (by rw [← hx])
        ((Database.perform_ok_iff (faithful_after calls).tables x.1).mpr hplain)
  · rintro ⟨hcalls, hlast⟩ before now r later heq hok
    rcases List.eq_nil_or_concat' later with rfl | ⟨later, y, rfl⟩
    · obtain ⟨rfl, hx⟩ := List.append_inj' heq rfl
      cases hx
      exact hlast r rfl ((Database.perform_ok_iff (faithful_after calls).tables now).mp hok)
    · rw [← List.cons_append, ← List.append_assoc] at heq
      exact hcalls before now r later (List.append_inj' heq rfl).1 hok

/-- The numbers of spared records are the first ones there are. -/
theorem exists_numbers_of_spared (hspared : Spared calls) :
    ∃ k, (after calls).numbers = firstNumbers k := by
  induction calls using List.reverseRecOn with
  | nil => exact ⟨0, rfl⟩
  | append_singleton calls x ih =>
    obtain ⟨hcalls, hlast⟩ := spared_concat.mp hspared
    obtain ⟨k, hk⟩ := ih hcalls
    have hh := faithful_after calls
    rw [after_concat]
    rcases numbers_next hh.tables x.1 x.2 with hsame | ⟨⟨r, hx⟩, hplain, hmore⟩
    · exact ⟨k, hsame.trans hk⟩
    · refine ⟨k + 1, ?_⟩
      have hkeeps := hlast r hx (hx ▸ hplain)
      rw [hmore, hh.nextNumber_of_keepsLast hk hkeeps, hk, firstNumbers_succ]

theorem spared_of_nodup (hnodup : (after calls).numbers.Nodup) : Spared calls := by
  induction calls using List.reverseRecOn with
  | nil =>
    intro before now r later hcalls
    exact absurd hcalls.symm (List.append_ne_nil_of_right_ne_nil _ (List.cons_ne_nil _ _))
  | append_singleton calls x ih =>
    have hh := faithful_after calls
    rw [after_concat] at hnodup
    have hcalls : Spared calls := ih (hnodup.sublist (List.sublist_append_left _ _))
    refine spared_concat.mpr ⟨hcalls, fun r hx hplain => ?_⟩
    obtain ⟨k, hk⟩ := exists_numbers_of_spared hcalls
    rw [hx, numbers_next_append hh.tables hplain, List.nodup_append] at hnodup
    by_contra hkeeps
    exact hnodup.2.2 _ (hh.nextNumber_mem_of_not_keepsLast hk hkeeps) _
      (List.mem_singleton_self _) rfl

/-- No number is given to two records exactly if, whenever a record is added, the one that was added
before it is left. -/
theorem nodup_numbers_iff (calls : List (Timestamp × StoreCall)) :
    (after calls).numbers.Nodup ↔
      ∀ before now r later, calls = before ++ (now, .appendVersion r) :: later →
        (∃ v, ((after before).database.perform now (.appendVersion r)).1 = .ok v) →
        ∀ n ∈ (after before).numbers.getLast?, some n ∈ (after before).held := by
  refine ⟨spared_of_nodup, fun hspared => ?_⟩
  obtain ⟨k, hk⟩ := exists_numbers_of_spared hspared
  rw [hk]
  exact nodup_firstNumbers k

/-- A record is added, removed with its project, and another one added. -/
def renewedCalls : List (Timestamp × StoreCall) :=
  [demoCall (.appendVersion (demoVersion "p1")), demoCall (.eraseVersions "p1"),
    demoCall (.appendVersion (demoVersion "p1"))]

/-- The second record gets the number of the first one. -/
theorem numbers_renewedCalls :
    (after renewedCalls).numbers = [1, 1] ∧ ¬(after renewedCalls).numbers.Nodup := by
  decide +kernel

end Chronicle

end SitePreview
