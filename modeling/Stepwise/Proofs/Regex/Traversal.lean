import Mathlib.Logic.Basic
import Mathlib.Tactic.ByContra
import Stepwise.Regex.Search

/-!
# What a search finds

A thread ends at an accepted one if steps of the program lead there. Main statement:
following some threads finds an accepted one that they end at, and finds none only if they
end at none. Pairs of an instruction and a place that were tried before lead nowhere new,
whatever places were remembered on the way to them.
-/

namespace Stepwise.Regex

variable {program : Program} {text : Array Char}

/-- A thread ends at an accepted one in a number of steps. -/
def Thread.EndsIn (program : Program) (text : Array Char) (last : Thread) : Nat → Thread → Prop
  | 0, t => t = last ∧ t.isAccepted program = true
  | n + 1, t => ∃ t' ∈ t.next program text, EndsIn program text last n t'

/-- A thread ends at an accepted one. -/
def Thread.EndsAt (program : Program) (text : Array Char) (t last : Thread) : Prop :=
  ∃ n, EndsIn program text last n t

/-- Two threads stand at the same instruction and the same place. -/
def Thread.Alike (t s : Thread) : Prop :=
  t.instruction = s.instruction ∧ t.place = s.place

theorem Thread.alike_refl (t : Thread) : t.Alike t :=
  ⟨rfl, rfl⟩

theorem Thread.Alike.isAccepted_eq {t s : Thread} (h : t.Alike s) :
    t.isAccepted program = s.isAccepted program := by
  rw [isAccepted, isAccepted, h.1]

/-- Threads that are alike go on alike. -/
theorem Thread.Alike.next {t s : Thread} (h : t.Alike s) {t' : Thread}
    (ht : t' ∈ t.next program text) : ∃ s' ∈ s.next program text, t'.Alike s' := by
  obtain ⟨instruction, place, marks⟩ := t
  obtain ⟨instruction', place', marks'⟩ := s
  obtain ⟨rfl, rfl⟩ := h
  unfold Thread.next at ht ⊢
  simp only at ht ⊢
  cases hp : program[instruction]? with
  | none => simp [hp] at ht
  | some step =>
      cases step with
      | consume s next =>
          cases hc : text[place]? with
          | none => simp [hp, hc] at ht
          | some c =>
              by_cases hs : s.has c = true
              · simp only [hp, hc, hs, ↓reduceIte, List.mem_singleton] at ht
                simp [hs, ht, Thread.Alike]
              · simp [hp, hc, hs] at ht
      | check look next =>
          by_cases hl : look.holds (charBefore text place) text[place]? = true
          · simp only [hp, hl, ↓reduceIte, List.mem_singleton] at ht
            simp [hl, ht, Thread.Alike]
          · simp [hp, hl] at ht
      | mark slot next =>
          simp only [hp, List.mem_singleton] at ht
          simp [ht, Thread.Alike]
      | fork first second =>
          simp only [hp, List.mem_cons, List.not_mem_nil, or_false] at ht
          rcases ht with rfl | rfl
          · exact ⟨⟨first, place, marks'⟩, by simp, rfl, rfl⟩
          · exact ⟨⟨second, place, marks'⟩, by simp, rfl, rfl⟩
      | jump next =>
          simp only [hp, List.mem_singleton] at ht
          simp [ht, Thread.Alike]
      | accept => simp [hp] at ht

/-- No step leaves the text. -/
theorem Thread.place_le_of_mem_next {t t' : Thread} (hplace : t.place ≤ text.size)
    (ht : t' ∈ t.next program text) : t'.place ≤ text.size := by
  unfold Thread.next at ht
  split at ht
  · split at ht
    · rename_i c hc
      obtain ⟨hlt, -⟩ := Array.getElem?_eq_some_iff.mp hc
      split at ht
      · rw [List.mem_singleton.mp ht]
        exact hlt
      · simp at ht
    · simp at ht
  · split at ht
    · rw [List.mem_singleton.mp ht]
      exact hplace
    · simp at ht
  · rw [List.mem_singleton.mp ht]
    exact hplace
  · simp only [List.mem_cons, List.not_mem_nil, or_false] at ht
    rcases ht with rfl | rfl
    · exact hplace
    · exact hplace
  · rw [List.mem_singleton.mp ht]
    exact hplace
  · simp at ht
  · simp at ht

/-- A thread has not been tried yet. -/
def Thread.IsOpen (text : Array Char) (tried : Tried) (t : Thread) : Prop :=
  ∃ inside : t.entry text.size < tried.size, tried[t.entry text.size] = 0

/-- The first accepted thread that is found is one that the threads end at. -/
theorem endsAt_of_follow {tried : Tried} {threads : List Thread} {last : Thread}
    (h : follow program text tried threads = some last) :
    ∃ t ∈ threads, t.EndsAt program text last := by
  fun_induction follow program text tried threads with
  | case1 => simp at h
  | case2 tried t others hopen haccepted =>
      rw [Option.some.injEq] at h
      exact ⟨t, List.mem_cons_self, 0, h, haccepted⟩
  | case3 tried t others hopen haccepted inside ih =>
      obtain ⟨s, hs, n, hends⟩ := ih h
      rcases List.mem_append.mp hs with hnext | hothers
      · exact ⟨t, List.mem_cons_self, n + 1, s, hnext, hends⟩
      · exact ⟨s, List.mem_cons_of_mem t hothers, n, hends⟩
  | case4 tried t others hclosed ih =>
      obtain ⟨s, hs, hends⟩ := ih h
      exact ⟨s, List.mem_cons_of_mem t hs, hends⟩

theorem getElem_untried (n i : Nat) (h : i < (untried n).size) : (untried n)[i] = 0 := by
  fun_induction untried n generalizing i with
  | case1 => exact absurd h (by simp)
  | case2 n half heven ih =>
      by_cases hleft : i < half.size
      · rw [ByteArray.getElem_append_left hleft]
        exact ih i hleft
      · rw [ByteArray.getElem_append_right (Nat.le_of_not_lt hleft)]
        exact ih _ _
  | case3 n half hodd ih =>
      by_cases hlast : i < (half ++ half).size
      · have hfront : ((half ++ half).push 0)[i] = (half ++ half)[i] := by
          simp only [ByteArray.getElem_eq_getElem_data, ByteArray.data_push]
          exact Array.getElem_push_lt hlast
        rw [hfront]
        by_cases hleft : i < half.size
        · rw [ByteArray.getElem_append_left hleft]
          exact ih i hleft
        · rw [ByteArray.getElem_append_right (Nat.le_of_not_lt hleft)]
          exact ih _ _
      · have hi : i = (half ++ half).size := by
          rw [ByteArray.size_push] at h
          omega
        subst hi
        simp only [ByteArray.getElem_eq_getElem_data, ByteArray.data_push]
        exact Array.getElem_push_eq

/-- Trying a thread closes exactly the threads that are alike. -/
theorem Thread.isOpen_set {tried : Tried} {t s : Thread}
    (inside : t.entry text.size < tried.size) (ht : t.place ≤ text.size)
    (hs : s.place ≤ text.size) :
    s.IsOpen text (tried.set (t.entry text.size) 1) ↔ s.IsOpen text tried ∧ ¬ s.Alike t := by
  have hentry : s.entry text.size = t.entry text.size ↔ s.Alike t := by
    unfold Thread.entry Thread.Alike
    constructor
    · intro h
      have hinstruction : s.instruction = t.instruction := by
        rcases Nat.lt_trichotomy s.instruction t.instruction with hlt | heq | hgt
        · have := Nat.mul_le_mul_right (text.size + 1) hlt
          rw [Nat.succ_mul] at this
          omega
        · exact heq
        · have := Nat.mul_le_mul_right (text.size + 1) hgt
          rw [Nat.succ_mul] at this
          omega
      rw [hinstruction] at h
      exact ⟨hinstruction, Nat.add_left_cancel h⟩
    · intro h
      obtain ⟨hinstruction, hplace⟩ := h
      rw [hinstruction, hplace]
  have hsize : (tried.set (t.entry text.size) 1).size = tried.size := by
    rw [← ByteArray.size_data, ByteArray.data_set, Array.size_set, ByteArray.size_data]
  unfold Thread.IsOpen
  simp only [ByteArray.getElem_eq_getElem_data, ByteArray.data_set, hsize, Array.getElem_set]
  by_cases heq : s.entry text.size = t.entry text.size
  · simp [heq, hentry.mp heq]
  · simp [Ne.symm heq, mt hentry.mpr heq]

/-- A thread was tried, or one that is alike is still to be followed. -/
def Thread.IsKnown (text : Array Char) (tried : Tried) (threads : List Thread) (t : Thread) :
    Prop :=
  ¬ t.IsOpen text tried ∨ ∃ s ∈ threads, t.Alike s

/-- What is known stays known when the first thread is tried and its next ones are to be
followed. -/
theorem Thread.IsKnown.visit {tried : Tried} {s t : Thread} {others : List Thread}
    (inside : s.entry text.size < tried.size) (hs : s.place ≤ text.size)
    (ht : t.place ≤ text.size) (h : t.IsKnown text tried (s :: others)) :
    t.IsKnown text (tried.set (s.entry text.size) 1) (s.next program text ++ others) := by
  rw [IsKnown, Thread.isOpen_set inside hs ht, not_and, not_not]
  rcases h with hclosed | ⟨q, hq, halike⟩
  · exact Or.inl fun hopen => absurd hopen hclosed
  · rcases List.mem_cons.mp hq with rfl | hothers
    · exact Or.inl fun _ => halike
    · exact Or.inr ⟨q, List.mem_append_right _ hothers, halike⟩

/-- What is known stays known when the first thread is left out because it was tried. -/
theorem Thread.IsKnown.skip {tried : Tried} {s t : Thread} {others : List Thread}
    (hclosed : ¬ s.IsOpen text tried) (h : t.IsKnown text tried (s :: others)) :
    t.IsKnown text tried others := by
  rcases h with ht | ⟨q, hq, halike⟩
  · exact Or.inl ht
  · rcases List.mem_cons.mp hq with rfl | hothers
    · left
      unfold IsOpen entry
      rw [halike.1, halike.2]
      exact hclosed
    · exact Or.inr ⟨q, hothers, halike⟩

/-- What was tried is not accepted, and its next threads are known. -/
def Explored (program : Program) (text : Array Char) (tried : Tried) (threads : List Thread) :
    Prop :=
  ∀ t : Thread, t.place ≤ text.size → ¬ t.IsOpen text tried →
    t.isAccepted program = false ∧ ∀ t' ∈ t.next program text, t'.IsKnown text tried threads

theorem Explored.visit {tried : Tried} {s : Thread} {others : List Thread}
    (h : Explored program text tried (s :: others)) (inside : s.entry text.size < tried.size)
    (hs : s.place ≤ text.size) (haccepted : s.isAccepted program = false) :
    Explored program text (tried.set (s.entry text.size) 1) (s.next program text ++ others) := by
  intro t ht hclosed
  rw [Thread.isOpen_set inside hs ht, not_and, not_not] at hclosed
  by_cases hopen : t.IsOpen text tried
  · have halike := hclosed hopen
    refine ⟨halike.isAccepted_eq.trans haccepted, ?_⟩
    intro t' hnext
    obtain ⟨q, hq, hqalike⟩ := halike.next hnext
    exact Or.inr ⟨q, List.mem_append_left _ hq, hqalike⟩
  · obtain ⟨hnot, hnexts⟩ := h t ht hopen
    refine ⟨hnot, ?_⟩
    intro t' hnext
    exact (hnexts t' hnext).visit inside hs (Thread.place_le_of_mem_next ht hnext)

theorem Explored.skip {tried : Tried} {s : Thread} {others : List Thread}
    (h : Explored program text tried (s :: others)) (hclosed : ¬ s.IsOpen text tried) :
    Explored program text tried others := by
  intro t ht htclosed
  obtain ⟨hnot, hnexts⟩ := h t ht htclosed
  exact ⟨hnot, fun t' hnext => (hnexts t' hnext).skip hclosed⟩

/-- Before anything is tried, only threads outside of the program are not open. -/
theorem explored_untried (threads : List Thread) :
    Explored program text (untried (program.size * (text.size + 1))) threads := by
  intro t hplace hclosed
  have houtside : program.size ≤ t.instruction := by
    by_contra hinside
    apply hclosed
    have hlt : t.entry text.size < (untried (program.size * (text.size + 1))).size := by
      rw [size_untried, Thread.entry]
      have := Nat.mul_le_mul_right (text.size + 1) (Nat.lt_of_not_le hinside)
      rw [Nat.succ_mul] at this
      omega
    exact ⟨hlt, getElem_untried _ _ hlt⟩
  have hnone : program[t.instruction]? = none := Array.getElem?_eq_none houtside
  simp [Thread.isAccepted, Thread.next, hnone]

/-- A thread that was tried ends nowhere, once nothing is left to be followed. -/
theorem not_endsAt_of_explored {tried : Tried} (hexplored : Explored program text tried [])
    {t last : Thread} (hplace : t.place ≤ text.size) (hclosed : ¬ t.IsOpen text tried) :
    ¬ t.EndsAt program text last := by
  rintro ⟨n, hends⟩
  induction n generalizing t with
  | zero =>
      obtain ⟨-, haccepted⟩ := hends
      rw [(hexplored t hplace hclosed).1] at haccepted
      exact absurd haccepted (by simp)
  | succ n ih =>
      obtain ⟨t', hnext, hends⟩ := hends
      rcases (hexplored t hplace hclosed).2 t' hnext with htried | ⟨s, hs, -⟩
      · exact ih (Thread.place_le_of_mem_next hplace hnext) htried hends
      · simp at hs

/-- If no accepted thread is found, then neither what was tried before nor the threads
themselves end anywhere. -/
theorem not_endsAt_of_follow {tried : Tried} {threads : List Thread}
    (hnone : follow program text tried threads = none)
    (hexplored : Explored program text tried threads)
    (hplaces : ∀ t ∈ threads, t.place ≤ text.size) {t last : Thread}
    (hplace : t.place ≤ text.size) (ht : t.IsKnown text tried threads) :
    ¬ t.EndsAt program text last := by
  fun_induction follow program text tried threads generalizing t with
  | case1 tried =>
      have hclosed : ¬ t.IsOpen text tried := by simpa [Thread.IsKnown] using ht
      exact not_endsAt_of_explored hexplored hplace hclosed
  | case2 tried s others hopen haccepted => simp at hnone
  | case3 tried s others hopen haccepted inside ih =>
      have hs : s.place ≤ text.size := hplaces s List.mem_cons_self
      have hnot : s.isAccepted program = false := by simpa using haccepted
      apply ih hnone (hexplored.visit inside hs hnot) _ hplace (ht.visit inside hs hplace)
      intro r hr
      rcases List.mem_append.mp hr with hnext | hothers
      · exact Thread.place_le_of_mem_next hs hnext
      · exact hplaces r (List.mem_cons_of_mem s hothers)
  | case4 tried s others hclosed ih =>
      exact ih hnone (hexplored.skip hclosed) (fun r hr => hplaces r (List.mem_cons_of_mem s hr))
        hplace (ht.skip hclosed)

/-- The threads that a search starts with. -/
def startingThreads (text : Array Char) : List Thread :=
  (List.range (text.size + 1)).map fun place => ⟨0, place, []⟩

/-- What a search finds, its first thread ends at. -/
theorem endsAt_of_search {last : Thread} (h : search program text = some last) :
    ∃ place ≤ text.size, (Thread.mk 0 place []).EndsAt program text last := by
  obtain ⟨t, ht, hends⟩ := endsAt_of_follow h
  obtain ⟨place, hplace, rfl⟩ := List.mem_map.mp ht
  exact ⟨place, Nat.lt_succ_iff.mp (List.mem_range.mp hplace), hends⟩

/-- A search finds something if there is something to be found. -/
theorem isSome_search_iff :
    (search program text).isSome = true ↔
      ∃ place ≤ text.size, ∃ last, (Thread.mk 0 place []).EndsAt program text last := by
  constructor
  · intro h
    obtain ⟨last, hlast⟩ := Option.isSome_iff_exists.mp h
    obtain ⟨place, hplace, hends⟩ := endsAt_of_search hlast
    exact ⟨place, hplace, last, hends⟩
  · intro h
    obtain ⟨place, hplace, last, hends⟩ := h
    by_contra hnone
    rw [Option.not_isSome_iff_eq_none] at hnone
    have hstarting : ∀ t ∈ startingThreads text, t.place ≤ text.size := by
      intro t ht
      obtain ⟨place, hplace, rfl⟩ := List.mem_map.mp ht
      exact Nat.lt_succ_iff.mp (List.mem_range.mp hplace)
    have hmem : Thread.mk 0 place [] ∈ startingThreads text :=
      List.mem_map.mpr ⟨place, List.mem_range.mpr (Nat.lt_succ_of_le hplace), rfl⟩
    exact not_endsAt_of_follow hnone (explored_untried _) hstarting hplace
      (Or.inr ⟨_, hmem, Thread.alike_refl _⟩) hends

end Stepwise.Regex
