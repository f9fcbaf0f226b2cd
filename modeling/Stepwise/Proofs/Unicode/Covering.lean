import Mathlib.Data.List.Chain
import Mathlib.Data.List.TakeWhile
import Stepwise.Unicode.Ranges

/-!
# What ranges cover

Looking a code point up stops early, and sets are put together by joining ranges. Main
statement: if the ranges are tidy, neither loses a code point or adds one, and the ranges
stay tidy.
-/

namespace Stepwise.Unicode.Ranges

variable {n : Nat} {r s : Ranges}

/-- A code point lies between the ends of one of the ranges. -/
def Covers (r : Ranges) (n : Nat) : Prop :=
  ∃ p ∈ r, p.1 ≤ n ∧ n ≤ p.2

/-- Each range begins with a character, and no range begins before the one in front of it. -/
structure Tidy (r : Ranges) : Prop where
  ascending : r.Pairwise (·.1 ≤ ·.1)
  valid : ∀ p ∈ r, p.1.isValidChar

theorem covers_nil : ¬ Covers [] n := by
  rintro ⟨p, hp, -⟩
  exact List.not_mem_nil hp

theorem covers_cons {p : Nat × Nat} :
    Covers (p :: r) n ↔ (p.1 ≤ n ∧ n ≤ p.2) ∨ Covers r n := by
  simp [Covers]

theorem tidy_nil : Tidy [] :=
  ⟨List.Pairwise.nil, fun _ hp => absurd hp List.not_mem_nil⟩

theorem tidy_cons {p : Nat × Nat} :
    Tidy (p :: r) ↔ (p.1.isValidChar ∧ ∀ q ∈ r, p.1 ≤ q.1) ∧ Tidy r := by
  constructor
  · intro h
    obtain ⟨hfirst, hrest⟩ := List.pairwise_cons.mp h.ascending
    exact ⟨⟨h.valid p List.mem_cons_self, hfirst⟩, hrest,
      fun q hq => h.valid q (List.mem_cons_of_mem p hq)⟩
  · intro h
    obtain ⟨⟨hp, hfirst⟩, hr⟩ := h
    refine ⟨List.pairwise_cons.mpr ⟨hfirst, hr.ascending⟩, fun q hq => ?_⟩
    rcases List.mem_cons.mp hq with rfl | hq
    · exact hp
    · exact hr.valid q hq

theorem tidy_singleton {lo hi : Nat} (h : lo.isValidChar) : Tidy [(lo, hi)] :=
  tidy_cons.mpr ⟨⟨h, fun _ hq => absurd hq List.not_mem_nil⟩, tidy_nil⟩

/-- It is enough to compare each range with the next one. -/
theorem tidy_of_isChain (h : r.IsChain fun p q => p.1 ≤ q.1)
    (hvalid : ∀ p ∈ r, p.1.isValidChar) : Tidy r := by
  let starts : Nat × Nat → Nat × Nat → Prop := fun p q => p.1 ≤ q.1
  have : Trans starts starts starts := ⟨fun h h' => Nat.le_trans h h'⟩
  exact ⟨h.pairwise, hvalid⟩

/-- A look-up in tidy ranges does not stop too early. -/
theorem Tidy.contains_iff (h : r.Tidy) : r.contains n = true ↔ r.Covers n := by
  constructor
  · exact exists_of_contains
  · intro hcovers
    induction r with
    | nil => exact absurd hcovers covers_nil
    | cons p r ih =>
        obtain ⟨⟨-, hfirst⟩, hr⟩ := tidy_cons.mp h
        rw [contains]
        rcases covers_cons.mp hcovers with ⟨hlo, hhi⟩ | hcovers
        · rw [if_neg (Nat.not_lt.mpr hlo), if_pos hhi]
        · obtain ⟨q, hq, hlo, -⟩ := id hcovers
          rw [if_neg (Nat.not_lt.mpr (Nat.le_trans (hfirst q hq) hlo)), ih hr hcovers]
          exact ite_self true

theorem Tidy.has_iff (h : r.Tidy) (c : Char) : r.has c = true ↔ r.Covers c.toNat :=
  h.contains_iff

/-- The first code points of joined ranges are first code points of the ranges. -/
theorem exists_of_mem_join {p : Nat × Nat} (hp : p ∈ join r) : ∃ q ∈ r, p.1 = q.1 := by
  fun_induction join r with
  | case1 => exact absurd hp List.not_mem_nil
  | case2 q => exact ⟨p, hp, rfl⟩
  | case3 lo hi lo' hi' rest htouch ih =>
      obtain ⟨q, hq, hpq⟩ := ih hp
      rcases List.mem_cons.mp hq with rfl | hq
      · exact ⟨(lo, hi), List.mem_cons_self, hpq⟩
      · exact ⟨q, List.mem_cons_of_mem _ (List.mem_cons_of_mem _ hq), hpq⟩
  | case4 lo hi lo' hi' rest hapart ih =>
      rcases List.mem_cons.mp hp with rfl | hp
      · exact ⟨(lo, hi), List.mem_cons_self, rfl⟩
      · obtain ⟨q, hq, hpq⟩ := ih hp
        exact ⟨q, List.mem_cons_of_mem _ hq, hpq⟩

theorem Tidy.join (h : r.Tidy) : (join r).Tidy := by
  fun_induction Ranges.join r with
  | case1 => exact h
  | case2 q => exact h
  | case3 lo hi lo' hi' rest htouch ih =>
      obtain ⟨⟨hvalid, hfirst⟩, hrest⟩ := tidy_cons.mp h
      apply ih
      exact tidy_cons.mpr ⟨⟨hvalid, fun q hq => hfirst q (List.mem_cons_of_mem _ hq)⟩,
        (tidy_cons.mp hrest).2⟩
  | case4 lo hi lo' hi' rest hapart ih =>
      obtain ⟨⟨hvalid, hfirst⟩, hrest⟩ := tidy_cons.mp h
      refine tidy_cons.mpr ⟨⟨hvalid, fun q hq => ?_⟩, ih hrest⟩
      obtain ⟨q', hq', heq⟩ := exists_of_mem_join hq
      rw [heq]
      exact hfirst q' hq'

/-- Joined ranges cover what the ranges cover. -/
theorem Tidy.covers_join (h : r.Tidy) : (Ranges.join r).Covers n ↔ r.Covers n := by
  fun_induction Ranges.join r with
  | case1 => rfl
  | case2 q => rfl
  | case3 lo hi lo' hi' rest htouch ih =>
      obtain ⟨⟨hvalid, hfirst⟩, hrest⟩ := tidy_cons.mp h
      have hle : lo ≤ lo' := hfirst (lo', hi') List.mem_cons_self
      rw [ih (tidy_cons.mpr ⟨⟨hvalid, fun q hq => hfirst q (List.mem_cons_of_mem _ hq)⟩,
        (tidy_cons.mp hrest).2⟩), covers_cons, covers_cons, covers_cons, ← or_assoc]
      apply or_congr_left
      change lo ≤ n ∧ n ≤ max hi hi' ↔ _
      omega
  | case4 lo hi lo' hi' rest hapart ih =>
      rw [covers_cons, covers_cons, ih (tidy_cons.mp h).2]

theorem startsFirst_trans (p q t : Nat × Nat) (h : startsFirst p q = true)
    (h' : startsFirst q t = true) : startsFirst p t = true := by
  simp only [startsFirst, decide_eq_true_eq] at h h' ⊢
  exact Nat.le_trans h h'

theorem startsFirst_total (p q : Nat × Nat) : (startsFirst p q || startsFirst q p) = true := by
  simp only [startsFirst, Bool.or_eq_true, decide_eq_true_eq]
  exact Nat.le_total p.1 q.1

theorem tidy_arranged (h : ∀ p ∈ r, p.1.isValidChar) : (arranged r).Tidy := by
  apply Tidy.join
  refine ⟨?_, fun p hp => h p (List.mem_mergeSort.mp hp)⟩
  have hsorted := List.pairwise_mergeSort startsFirst_trans startsFirst_total r
  exact hsorted.imp fun hpq => of_decide_eq_true hpq

/-- Ranges cover the same in ascending order. -/
theorem covers_arranged (h : ∀ p ∈ r, p.1.isValidChar) : (arranged r).Covers n ↔ r.Covers n := by
  have hsorted := List.pairwise_mergeSort startsFirst_trans startsFirst_total r
  have htidy : Tidy (r.mergeSort startsFirst) :=
    ⟨hsorted.imp fun hpq => of_decide_eq_true hpq, fun p hp => h p (List.mem_mergeSort.mp hp)⟩
  rw [arranged, htidy.covers_join]
  simp [Covers]

theorem Tidy.merge (hr : r.Tidy) (hs : s.Tidy) : Tidy (r.merge s startsFirst) := by
  have hmerged := List.pairwise_merge startsFirst_trans startsFirst_total r s
    (hr.ascending.imp fun h => decide_eq_true h) (hs.ascending.imp fun h => decide_eq_true h)
  refine ⟨hmerged.imp fun hpq => of_decide_eq_true hpq, fun p hp => ?_⟩
  rcases List.mem_merge.mp hp with hp | hp
  · exact hr.valid p hp
  · exact hs.valid p hp

theorem Tidy.union (hr : r.Tidy) (hs : s.Tidy) : (r.union s).Tidy :=
  (hr.merge hs).join

/-- A union covers what either side covers. -/
theorem Tidy.covers_union (hr : r.Tidy) (hs : s.Tidy) :
    (r.union s).Covers n ↔ r.Covers n ∨ s.Covers n := by
  rw [Ranges.union, (hr.merge hs).covers_join]
  simp only [Covers, List.mem_merge]
  grind

theorem tidy_unionAll {sets : List Ranges} (h : ∀ t ∈ sets, t.Tidy) : (unionAll sets).Tidy := by
  induction sets with
  | nil => exact tidy_nil
  | cons t sets ih =>
      exact (h t List.mem_cons_self).union (ih fun u hu => h u (List.mem_cons_of_mem t hu))

/-- A union of several sets covers what one of them covers. -/
theorem covers_unionAll {sets : List Ranges} (h : ∀ t ∈ sets, t.Tidy) :
    (unionAll sets).Covers n ↔ ∃ t ∈ sets, t.Covers n := by
  induction sets with
  | nil => simp [unionAll, Covers]
  | cons t sets ih =>
      have hsets : ∀ u ∈ sets, u.Tidy := fun u hu => h u (List.mem_cons_of_mem t hu)
      rw [unionAll, (h t List.mem_cons_self).covers_union (tidy_unionAll hsets), ih hsets]
      simp

theorem isValidChar_toNat (c : Char) : c.toNat.isValidChar :=
  c.valid

theorem tidy_compl_singleton (c : Char) : Tidy (compl [(c.toNat, c.toNat)]) := by
  have hc : c.toNat < 0xd800 ∨ 0xdfff < c.toNat ∧ c.toNat < 0x110000 := c.valid
  have hbehind : Tidy (complFrom (after c.toNat) []) := by
    rw [complFrom]
    split
    · rename_i hle
      apply tidy_singleton
      change after c.toNat < 0xd800 ∨ 0xdfff < after c.toNat ∧ after c.toNat < 0x110000
      rw [lastPoint] at hle
      unfold after at hle ⊢
      split at hle
      · rename_i heq
        rw [if_pos heq]
        omega
      · rename_i hne
        rw [if_neg hne]
        omega
    · exact tidy_nil
  rw [compl, complFrom]
  split
  · exact tidy_cons.mpr ⟨⟨Or.inl (Nat.zero_lt_succ _), fun q _ => Nat.zero_le q.1⟩, hbehind⟩
  · exact hbehind

/-- The complement of a single character has all others. -/
theorem has_compl_singleton (c d : Char) : (compl [(c.toNat, c.toNat)]).has d = true ↔ d ≠ c := by
  have hc : c.toNat < 0xd800 ∨ 0xdfff < c.toNat ∧ c.toNat < 0x110000 := c.valid
  have hd : d.toNat < 0xd800 ∨ 0xdfff < d.toNat ∧ d.toNat < 0x110000 := d.valid
  rw [ne_eq, ← Char.toNat_inj]
  simp only [has, compl, complFrom, after, before, lastPoint]
  generalize c.toNat = m at hc
  generalize d.toNat = n at hd
  rcases Nat.lt_trichotomy n m with hnm | hnm | hnm
  · grind [contains]
  · grind [contains]
  · grind [contains]

theorem exists_has_compl_singleton (c : Char) :
    ∃ d, (compl [(c.toNat, c.toNat)]).has d = true := by
  by_cases h : c = 'a'
  · exact ⟨'b', (has_compl_singleton c 'b').mpr (by rw [h]; decide)⟩
  · exact ⟨'a', (has_compl_singleton c 'a').mpr (Ne.symm h)⟩

/-- Whether each of some ranges lies in one of the others. A range of the others takes those in
front that lie in it, so all are in ascending order. -/
def isWithin : (inner outer : Ranges) → Bool
  | inner, [] => inner.isEmpty
  | inner, q :: outer => isWithin (inner.dropWhile fun p => q.1 ≤ p.1 && p.2 ≤ q.2) outer

theorem covers_of_isWithin (h : isWithin r s = true) (hr : r.Covers n) : s.Covers n := by
  induction s generalizing r with
  | nil =>
      rw [isWithin, List.isEmpty_iff] at h
      exact absurd (h ▸ hr) covers_nil
  | cons q s ih =>
      obtain ⟨p, hp, hfrom, hto⟩ := hr
      rw [covers_cons]
      rw [← List.takeWhile_append_dropWhile (p := fun p => q.1 ≤ p.1 && p.2 ≤ q.2) (l := r)] at hp
      rcases List.mem_append.mp hp with hinside | hleft
      · have hends : q.1 ≤ p.1 ∧ p.2 ≤ q.2 := by simpa using List.mem_takeWhile_imp hinside
        exact Or.inl ⟨Nat.le_trans hends.1 hfrom, Nat.le_trans hto hends.2⟩
      · exact Or.inr (ih h ⟨p, hleft, hfrom, hto⟩)

end Stepwise.Unicode.Ranges
