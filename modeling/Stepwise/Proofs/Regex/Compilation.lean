import Stepwise.Proofs.Regex.Passage
import Stepwise.Proofs.Regex.Traversal

/-!
# Programs match what their expressions match

The code of an expression leads from its first instruction to where it goes on, over the
pieces that the expression matches and with the marks that it sets. Main statement: a
search of a text finds something exactly if the expression matches a piece of the text,
and the marks that it finds are those of such a match.
-/

namespace Stepwise.Regex

variable {program : Program} {text : List Char} {start next : Nat} {R S : Passage}

/-- A program has some code from a number on. -/
def Holds (program : Program) (start : Nat) (code : List Instruction) : Prop :=
  ∀ i (h : i < code.length), program[start + i]? = some code[i]

theorem holds_cons {step : Instruction} {code : List Instruction} :
    Holds program start (step :: code) ↔
      program[start]? = some step ∧ Holds program (start + 1) code := by
  constructor
  · intro h
    refine ⟨h 0 (Nat.zero_lt_succ _), fun i hi => ?_⟩
    have hstep := h (i + 1) (Nat.succ_lt_succ hi)
    rwa [List.getElem_cons_succ, ← Nat.add_assoc, Nat.add_right_comm] at hstep
  · rintro ⟨hfirst, hrest⟩ i hi
    cases i with
    | zero => exact hfirst
    | succ i =>
        have hstep := hrest i (Nat.lt_of_succ_lt_succ hi)
        rwa [Nat.add_right_comm] at hstep

theorem holds_append {front back : List Instruction} :
    Holds program start (front ++ back) ↔
      Holds program start front ∧ Holds program (start + front.length) back := by
  induction front generalizing start with
  | nil => simp [Holds]
  | cons step front ih =>
      rw [List.cons_append, holds_cons, holds_cons, ih, List.length_cons, and_assoc,
        Nat.add_assoc, Nat.add_comm 1]

/-- From one instruction on, a program goes on at another one exactly over the pieces of a
passage, with its marks. Each way to an accepted thread gets shorter by that. -/
structure Carries (program : Program) (text : List Char) (start next : Nat) (R : Passage) :
    Prop where
  sound : ∀ {before rest : List Char} {marks : List Mark} {last : Thread} {n : Nat},
    text = before ++ rest →
    Thread.EndsIn program text.toArray last n ⟨start, before.length, marks⟩ →
      ∃ piece after added m, m < n ∧ rest = piece ++ after ∧ R before piece after added ∧
        Thread.EndsIn program text.toArray last m
          ⟨next, (before ++ piece).length, added ++ marks⟩
  complete : ∀ {before piece after : List Char} {marks added : List Mark} {last : Thread},
    text = before ++ (piece ++ after) → R before piece after added →
    Thread.EndsAt program text.toArray ⟨next, (before ++ piece).length, added ++ marks⟩ last →
      Thread.EndsAt program text.toArray ⟨start, before.length, marks⟩ last

/-- An instruction whose next threads are those behind a passage carries over it. -/
theorem carries_of_next
    (haccept : ∀ place marks, (Thread.mk start place marks).isAccepted program = false)
    (hnext : ∀ {before rest marks}, text = before ++ rest → ∀ t : Thread,
      t ∈ (Thread.mk start before.length marks).next program text.toArray ↔
        ∃ piece after added, rest = piece ++ after ∧ R before piece after added ∧
          t = ⟨next, (before ++ piece).length, added ++ marks⟩) :
    Carries program text start next R where
  sound := by
    intro before rest marks last n htext hends
    cases n with
    | zero =>
        obtain ⟨-, haccepted⟩ := hends
        rw [haccept] at haccepted
        exact absurd haccepted (by simp)
    | succ n =>
        obtain ⟨t, ht, hends⟩ := hends
        obtain ⟨piece, after, added, hrest, hR, rfl⟩ := (hnext htext t).mp ht
        exact ⟨piece, after, added, n, Nat.lt_succ_self n, hrest, hR, hends⟩
  complete := by
    rintro before piece after marks added last htext hR ⟨n, hends⟩
    exact ⟨n + 1, _, (hnext htext _).mpr ⟨piece, after, added, rfl, hR, rfl⟩, hends⟩

theorem carries_jump (hp : program[start]? = some (.jump next)) :
    Carries program text start next .nil := by
  apply carries_of_next
  · intro place marks
    simp [Thread.isAccepted, hp]
  · intro before rest marks htext t
    simp only [Thread.next, hp, List.mem_singleton]
    constructor
    · rintro rfl
      exact ⟨[], rest, [], rfl, ⟨rfl, rfl⟩, by simp⟩
    · intro h
      obtain ⟨_, after, _, hrest, ⟨rfl, rfl⟩, rfl⟩ := h
      simp

theorem carries_consume {s : CharSet} (hp : program[start]? = some (.consume s next)) :
    Carries program text start next (.oneOf s) := by
  apply carries_of_next
  · intro place marks
    simp [Thread.isAccepted, hp]
  · intro before rest marks htext t
    have hplace : text.toArray[before.length]? = rest.head? := by
      rw [List.getElem?_toArray, htext, List.getElem?_append_right (Nat.le_refl _), Nat.sub_self,
        List.head?_eq_getElem?]
    simp only [Thread.next, hp, hplace]
    constructor
    · intro ht
      cases rest with
      | nil => simp at ht
      | cons c rest =>
          by_cases hc : s.has c = true
          · simp only [List.head?_cons, hc, ↓reduceIte, List.mem_singleton] at ht
            exact ⟨[c], rest, [], rfl, ⟨⟨c, hc, rfl⟩, rfl⟩, by simp [ht]⟩
          · simp [hc] at ht
    · intro h
      obtain ⟨_, after, _, rfl, ⟨⟨c, hc, rfl⟩, rfl⟩, rfl⟩ := h
      simp [hc]

theorem carries_check {l : Look} (hp : program[start]? = some (.check l next)) :
    Carries program text start next (.look l) := by
  apply carries_of_next
  · intro place marks
    simp [Thread.isAccepted, hp]
  · intro before rest marks htext t
    have hbehind : text.toArray[before.length]? = rest.head? := by
      rw [List.getElem?_toArray, htext, List.getElem?_append_right (Nat.le_refl _), Nat.sub_self,
        List.head?_eq_getElem?]
    have hbefore : charBefore text.toArray before.length = before.getLast? := by
      rw [charBefore, List.getLast?_eq_getElem?]
      split
      · rename_i hempty
        rw [List.length_eq_zero_iff.mp hempty]
        rfl
      · rename_i hempty
        rw [List.getElem?_toArray, htext, List.getElem?_append_left (by omega)]
    simp only [Thread.next, hp, hbehind, hbefore]
    constructor
    · intro ht
      by_cases hl : l.holds before.getLast? rest.head? = true
      · simp only [hl, ↓reduceIte, List.mem_singleton] at ht
        exact ⟨[], rest, [], rfl, ⟨rfl, rfl, hl⟩, by simp [ht]⟩
      · simp [hl] at ht
    · intro h
      obtain ⟨_, after, _, rfl, ⟨rfl, rfl, hl⟩, rfl⟩ := h
      rw [List.nil_append, if_pos hl]
      simp

theorem carries_mark {slot : Nat} (hp : program[start]? = some (.mark slot next)) :
    Carries program text start next (.mark slot) := by
  apply carries_of_next
  · intro place marks
    simp [Thread.isAccepted, hp]
  · intro before rest marks htext t
    simp only [Thread.next, hp, List.mem_singleton]
    constructor
    · rintro rfl
      exact ⟨[], rest, [⟨slot, before.length⟩], rfl, ⟨rfl, rfl⟩, by simp⟩
    · intro h
      obtain ⟨_, after, _, hrest, ⟨rfl, rfl⟩, rfl⟩ := h
      simp

/-- Code in sequence carries over passages in sequence. -/
theorem Carries.andThen {between : Nat} (hR : Carries program text start between R)
    (hS : Carries program text between next S) :
    Carries program text start next (R.andThen S) where
  sound := by
    intro before rest marks last n htext hends
    obtain ⟨left, others, leftMarks, m, hm, rfl, hleft, hends⟩ := hR.sound htext hends
    obtain ⟨right, after, rightMarks, k, hk, rfl, hright, hends⟩ :=
      hS.sound (by rw [htext, List.append_assoc]) hends
    refine ⟨left ++ right, after, rightMarks ++ leftMarks, k, Nat.lt_trans hk hm, by simp,
      ⟨left, right, leftMarks, rightMarks, rfl, rfl, hleft, hright⟩, ?_⟩
    simpa [Nat.add_assoc] using hends
  complete := by
    rintro before _ after marks _ last htext
      ⟨left, right, leftMarks, rightMarks, rfl, rfl, hleft, hright⟩ hends
    rw [List.append_assoc] at htext
    apply hR.complete htext hleft
    apply hS.complete (by rw [htext, List.append_assoc]) hright
    simpa [Nat.add_assoc] using hends

/-- A fork carries over either of two passages. -/
theorem carries_fork {first second : Nat} (hp : program[start]? = some (.fork first second))
    (hR : Carries program text first next R) (hS : Carries program text second next S) :
    Carries program text start next (R.either S) where
  sound := by
    intro before rest marks last n htext hends
    cases n with
    | zero => simp [Thread.EndsIn, Thread.isAccepted, hp] at hends
    | succ n =>
        simp only [Thread.EndsIn, Thread.next, hp, List.mem_cons, List.not_mem_nil, or_false,
          exists_eq_or_imp, exists_eq_left] at hends
        rcases hends with hends | hends
        · obtain ⟨piece, after, added, m, hm, hrest, hpiece, hends⟩ := hR.sound htext hends
          exact ⟨piece, after, added, m, Nat.lt_succ_of_lt hm, hrest, Or.inl hpiece, hends⟩
        · obtain ⟨piece, after, added, m, hm, hrest, hpiece, hends⟩ := hS.sound htext hends
          exact ⟨piece, after, added, m, Nat.lt_succ_of_lt hm, hrest, Or.inr hpiece, hends⟩
  complete := by
    intro before piece after marks added last htext hpiece hends
    rcases hpiece with hpiece | hpiece
    · obtain ⟨n, hends⟩ := hR.complete htext hpiece hends
      exact ⟨n + 1, ⟨first, before.length, marks⟩, by simp [Thread.next, hp], hends⟩
    · obtain ⟨n, hends⟩ := hS.complete htext hpiece hends
      exact ⟨n + 1, ⟨second, before.length, marks⟩, by simp [Thread.next, hp], hends⟩

/-- A turn goes on inside of a repetition or behind it, whatever it prefers. -/
theorem mem_next_turn {greedy : Bool} {inside behind place : Nat} {marks : List Mark}
    (hp : program[start]? = some (.turn greedy inside behind)) (t : Thread) :
    t ∈ (Thread.mk start place marks).next program text.toArray ↔
      t = ⟨inside, place, marks⟩ ∨ t = ⟨behind, place, marks⟩ := by
  cases greedy with
  | true =>
      have hfork : program[start]? = some (.fork inside behind) := hp
      simp [Thread.next, hfork]
  | false =>
      have hfork : program[start]? = some (.fork behind inside) := hp
      simp [Thread.next, hfork, or_comm]

theorem isAccepted_turn {greedy : Bool} {inside behind place : Nat} {marks : List Mark}
    (hp : program[start]? = some (.turn greedy inside behind)) :
    (Thread.mk start place marks).isAccepted program = false := by
  cases greedy with
  | true =>
      have hfork : program[start]? = some (.fork inside behind) := hp
      simp [Thread.isAccepted, hfork]
  | false =>
      have hfork : program[start]? = some (.fork behind inside) := hp
      simp [Thread.isAccepted, hfork]

/-- A turn to something that goes on behind the repetition carries over it or nothing. -/
theorem carries_turn {greedy : Bool} {inside : Nat}
    (hp : program[start]? = some (.turn greedy inside next))
    (hR : Carries program text inside next R) :
    Carries program text start next (Passage.nil.either R) where
  sound := by
    intro before rest marks last n htext hends
    cases n with
    | zero =>
        obtain ⟨-, haccepted⟩ := hends
        rw [isAccepted_turn hp] at haccepted
        exact absurd haccepted (by simp)
    | succ n =>
        obtain ⟨t, ht, hends⟩ := hends
        rcases (mem_next_turn hp t).mp ht with rfl | rfl
        · obtain ⟨piece, after, added, m, hm, hrest, hpiece, hends⟩ := hR.sound htext hends
          exact ⟨piece, after, added, m, Nat.lt_succ_of_lt hm, hrest, Or.inr hpiece, hends⟩
        · exact ⟨[], rest, [], n, Nat.lt_succ_self n, rfl, Or.inl ⟨rfl, rfl⟩, by simpa using hends⟩
  complete := by
    intro before piece after marks added last htext hpiece hends
    rcases hpiece with ⟨rfl, rfl⟩ | hpiece
    · obtain ⟨n, hends⟩ := hends
      exact ⟨n + 1, ⟨next, before.length, marks⟩, (mem_next_turn hp _).mpr (Or.inr rfl),
        by simpa using hends⟩
    · obtain ⟨n, hends⟩ := hR.complete htext hpiece hends
      exact ⟨n + 1, ⟨inside, before.length, marks⟩, (mem_next_turn hp _).mpr (Or.inl rfl), hends⟩

/-- A turn to something that comes back to the turn carries over any number of times. The
ways to an accepted thread get shorter with each time, also if nothing is matched. -/
theorem carries_loop {greedy : Bool} {inside : Nat}
    (hp : program[start]? = some (.turn greedy inside next))
    (hR : Carries program text inside start R) :
    Carries program text start next (R.timesOf fun _ => True) where
  sound := by
    intro before rest marks last n
    induction n using Nat.strongRecOn generalizing before rest marks with
    | ind n ih =>
        intro htext hends
        cases n with
        | zero =>
            obtain ⟨-, haccepted⟩ := hends
            rw [isAccepted_turn hp] at haccepted
            exact absurd haccepted (by simp)
        | succ n =>
            obtain ⟨t, ht, hends⟩ := hends
            rcases (mem_next_turn hp t).mp ht with rfl | rfl
            · obtain ⟨left, others, leftMarks, m, hm, rfl, hleft, hends⟩ := hR.sound htext hends
              obtain ⟨right, after, rightMarks, k, hk, rfl, hright, hends⟩ :=
                ih m (Nat.lt_succ_of_lt hm) (by rw [htext, List.append_assoc]) hends
              refine ⟨left ++ right, after, rightMarks ++ leftMarks, k,
                Nat.lt_succ_of_lt (Nat.lt_trans hk hm), by simp, ?_, ?_⟩
              · rw [Passage.timesOf_true]
                exact Or.inr ⟨left, right, leftMarks, rightMarks, rfl, rfl, hleft, hright⟩
              · simpa [Nat.add_assoc] using hends
            · exact ⟨[], rest, [], n, Nat.lt_succ_self n, rfl, ⟨0, trivial, rfl, rfl⟩,
                by simpa using hends⟩
  complete := by
    rintro before piece after marks added last htext ⟨k, -, hpiece⟩ hends
    induction k generalizing before piece marks added with
    | zero =>
        obtain ⟨rfl, rfl⟩ := hpiece
        obtain ⟨n, hends⟩ := hends
        exact ⟨n + 1, ⟨next, before.length, marks⟩, (mem_next_turn hp _).mpr (Or.inr rfl),
          by simpa using hends⟩
    | succ k ih =>
        obtain ⟨left, right, leftMarks, rightMarks, rfl, rfl, hleft, hright⟩ := hpiece
        rw [List.append_assoc] at htext
        have hagain : Thread.EndsAt program text.toArray
            ⟨start, (before ++ left).length, leftMarks ++ marks⟩ last :=
          ih (by rw [htext, List.append_assoc]) hright (by simpa [Nat.add_assoc] using hends)
        obtain ⟨n, hends⟩ := hR.complete htext hleft hagain
        exact ⟨n + 1, ⟨inside, before.length, marks⟩, (mem_next_turn hp _).mpr (Or.inl rfl),
          hends⟩

theorem inRow_succ (size : Nat) (part : Nat → List Instruction) (n : Nat) :
    inRow size part start (n + 1) = part start ++ inRow size part (start + size) n := by
  have hshift (i : Nat) : start + (i + 1) * size = start + size + i * size := by
    rw [Nat.succ_mul, Nat.add_assoc, Nat.add_comm size]
  simp only [inRow, List.range_succ_eq_map, List.flatMap_cons, List.flatMap_map, Nat.zero_mul,
    Nat.add_zero, Nat.succ_eq_add_one, hshift]

theorem holds_of_inRow {size i n : Nat} {part : Nat → List Instruction}
    (hlength : ∀ place, (part place).length = size)
    (hrow : Holds program start (inRow size part start n)) (hi : i < n) :
    Holds program (start + i * size) (part (start + i * size)) := by
  induction n generalizing start i with
  | zero => exact absurd hi (Nat.not_lt_zero i)
  | succ n ih =>
      rw [inRow_succ, holds_append, hlength] at hrow
      cases i with
      | zero => rw [Nat.zero_mul]; exact hrow.1
      | succ i =>
          have hother := ih hrow.2 (Nat.lt_of_succ_lt_succ hi)
          rwa [Nat.add_assoc, Nat.add_comm size, ← Nat.succ_mul] at hother

/-- Copies of a part in a row carry over its passage as many times. -/
theorem carries_copies {size : Nat} {part : Nat → List Instruction}
    (hlength : ∀ place, (part place).length = size)
    (hpart : ∀ place, Holds program place (part place) →
      Carries program text place (place + size) R)
    (n : Nat) (hrow : Holds program start (inRow size part start n))
    (hS : Carries program text (start + n * size) next S) :
    Carries program text start next ((R.times n).andThen S) := by
  induction n generalizing start with
  | zero =>
      rw [Nat.zero_mul, Nat.add_zero] at hS
      rwa [Passage.times, Passage.nil_andThen]
  | succ n ih =>
      rw [inRow_succ, holds_append, hlength] at hrow
      rw [Nat.succ_mul, Nat.add_comm (n * size), ← Nat.add_assoc] at hS
      rw [Passage.times, Passage.andThen_assoc]
      exact (hpart start hrow.1).andThen (ih hrow.2 hS)

/-- Parts in a row, each behind a turn to the end of the row, carry over the passage of the
part up to as many times. -/
theorem carries_turns {size : Nat} {part : Nat → List Instruction} {greedy : Bool}
    (hlength : ∀ place, (part place).length = size)
    (hpart : ∀ place, Holds program place (part place) →
      Carries program text place (place + size) R)
    (n : Nat)
    (hrow : Holds program start
      (inRow (size + 1) (fun place => .turn greedy (place + 1) next :: part (place + 1)) start n))
    (hend : Carries program text (start + n * (size + 1)) next .nil) :
    Carries program text start next (R.timesOf (· ≤ n)) := by
  induction n generalizing start with
  | zero =>
      rw [Nat.zero_mul, Nat.add_zero] at hend
      rwa [Passage.timesOf_le_zero]
  | succ n ih =>
      rw [inRow_succ, List.cons_append, holds_cons, holds_append, hlength] at hrow
      obtain ⟨hturn, hfirst, hothers⟩ := hrow
      rw [Nat.succ_mul, Nat.add_comm (n * (size + 1)), ← Nat.add_assoc] at hend
      rw [Nat.add_right_comm, Nat.add_assoc] at hothers
      rw [Passage.timesOf_le_succ]
      apply carries_turn hturn
      have hfirst' := hpart (start + 1) hfirst
      rw [Nat.add_right_comm, Nat.add_assoc] at hfirst'
      exact hfirst'.andThen (ih hothers hend)

theorem carries_spell (cs : List Char) (hcode : Holds program start (spell start cs))
    (hS : Carries program text (start + cs.length) next S) :
    Carries program text start next ((Passage.text cs).andThen S) := by
  induction cs generalizing start with
  | nil => rwa [Passage.text_nil, Passage.nil_andThen]
  | cons c cs ih =>
      rw [spell, holds_cons] at hcode
      have hfirst : Carries program text start (start + 1) (.oneOf (.single c)) :=
        carries_consume hcode.1
      rw [Passage.oneOf_single] at hfirst
      rw [List.length_cons, Nat.add_comm cs.length, ← Nat.add_assoc] at hS
      rw [← List.singleton_append, Passage.text_append, Passage.andThen_assoc]
      exact hfirst.andThen (ih hcode.2 hS)

/-- The code of a limited repetition carries over its passage, if the code of its body does. -/
theorem carries_limited {body : Expression} {min max : Nat} {greedy : Bool}
    (hbody : ∀ {start next}, Holds program start (body.code start next) →
      Carries program text start next body.passage)
    (hcode : Holds program start
      ((Expression.repeated min (some max) greedy body).code start next)) :
    Carries program text start next (Expression.repeated min (some max) greedy body).passage := by
  have hlength (place : Nat) : (body.code place (place + body.size)).length = body.size :=
    body.length_code place _
  have hrow : (inRow body.size (fun place => body.code place (place + body.size))
      start min).length = min * body.size := length_inRow hlength start min
  have hturns : (inRow (body.size + 1) (fun place => Instruction.turn greedy (place + 1) next ::
      body.code (place + 1) (place + 1 + body.size)) (start + min * body.size)
        (max - min)).length = (max - min) * (body.size + 1) :=
    length_inRow (fun place => by rw [List.length_cons, hlength]) _ _
  simp only [Expression.code] at hcode
  rw [holds_append, hrow, holds_append, hturns, holds_cons] at hcode
  obtain ⟨hcopies, hmaybe, hjump, -⟩ := hcode
  have hend := carries_turns hlength (fun place => hbody) (max - min) hmaybe
    (carries_jump hjump)
  have hall := carries_copies hlength (fun place => hbody) min hcopies hend
  rwa [← Passage.timesOf_limited] at hall

/-- The code of an unlimited repetition carries over its passage, if the code of its body
does. -/
theorem carries_unlimited {body : Expression} {min : Nat} {greedy : Bool}
    (hbody : ∀ {start next}, Holds program start (body.code start next) →
      Carries program text start next body.passage)
    (hcode : Holds program start ((Expression.repeated min none greedy body).code start next)) :
    Carries program text start next (Expression.repeated min none greedy body).passage := by
  have hlength (place : Nat) : (body.code place (place + body.size)).length = body.size :=
    body.length_code place _
  rw [Expression.passage, Passage.timesOf_unlimited]
  simp only [Expression.code] at hcode
  by_cases hmin : min = 0
  · rw [if_pos hmin] at hcode
    rw [hmin, Passage.times, Passage.nil_andThen]
    obtain ⟨hturn, hbehind⟩ := holds_cons.mp hcode
    by_cases hconsumes : body.consumes = true
    · rw [if_pos hconsumes] at hbehind
      exact carries_loop hturn (hbody hbehind)
    · rw [if_neg hconsumes, holds_append, hlength, holds_cons] at hbehind
      obtain ⟨honce, hagain, -⟩ := hbehind
      rw [Passage.timesOf_true]
      exact carries_turn hturn ((hbody honce).andThen (carries_loop hagain (hbody honce)))
  · rw [if_neg hmin, holds_append, length_inRow hlength, holds_cons] at hcode
    obtain ⟨hcopies, hturn, -⟩ := hcode
    apply carries_copies hlength (fun place => hbody) min hcopies
    apply carries_loop hturn
    -- The last copy is where the turn at the end of the row goes back to.
    obtain ⟨n, rfl⟩ := Nat.exists_eq_succ_of_ne_zero hmin
    rw [Nat.succ_sub_one]
    have hlast := hbody (holds_of_inRow hlength hcopies (Nat.lt_succ_self n))
    rwa [Nat.add_assoc, ← Nat.succ_mul] at hlast

/-- The code of an expression carries over its passage. -/
theorem code_carries (e : Expression) (hcode : Holds program start (e.code start next)) :
    Carries program text start next e.passage := by
  induction e generalizing start next with
  | empty => exact carries_jump (holds_cons.mp hcode).1
  | literal cs =>
      rw [Expression.code, holds_append, length_spell, holds_cons] at hcode
      obtain ⟨hspell, hjump, -⟩ := hcode
      have hall : Carries program text start next ((Passage.text cs).andThen .nil) :=
        carries_spell cs hspell (carries_jump hjump)
      rwa [Passage.andThen_nil] at hall
  | set octets s => exact carries_consume (holds_cons.mp hcode).1
  | look l => exact carries_check (holds_cons.mp hcode).1
  | group index body ih =>
      rw [Expression.code, holds_cons, holds_append, Expression.length_code, holds_cons] at hcode
      obtain ⟨hfirst, hbody, hlast, -⟩ := hcode
      exact (carries_mark hfirst).andThen ((ih hbody).andThen (carries_mark hlast))
  | repeated min max greedy body ih =>
      cases max with
      | some max => exact carries_limited ih hcode
      | none => exact carries_unlimited ih hcode
  | cat left right ihl ihr =>
      rw [Expression.code, holds_append, Expression.length_code] at hcode
      exact (ihl hcode.1).andThen (ihr hcode.2)
  | alt left right ihl ihr =>
      rw [Expression.code, holds_cons, holds_append, Expression.length_code] at hcode
      obtain ⟨hfork, hleft, hright⟩ := hcode
      exact carries_fork hfork (ihl hleft) (ihr hright)

theorem holds_program (e : Expression) : Holds e.program 0 (e.code 0 e.size ++ [.accept]) := by
  intro i hi
  simp [Expression.program, List.getElem?_eq_getElem hi]

theorem code_carries_program (e : Expression) :
    Carries e.program text 0 e.size e.passage :=
  code_carries e (holds_append.mp (holds_program e)).1

theorem getElem?_program_size (e : Expression) : e.program[e.size]? = some .accept := by
  have haccept := (holds_append.mp (holds_program e)).2
  rw [Expression.length_code, Nat.zero_add, holds_cons] at haccept
  exact haccept.1

theorem eq_of_endsIn_accept {e : Expression} {n place : Nat} {marks : List Mark} {last : Thread}
    (h : Thread.EndsIn e.program text.toArray last n ⟨e.size, place, marks⟩) :
    last = ⟨e.size, place, marks⟩ := by
  cases n with
  | zero => exact h.1.symm
  | succ n => simp [Thread.EndsIn, Thread.next, getElem?_program_size] at h

/-- What a search finds is a match of the expression, with its marks. -/
theorem passage_of_search {e : Expression} {last : Thread}
    (h : search e.program text.toArray = some last) :
    ∃ before piece after, text = before ++ (piece ++ after) ∧
      e.passage before piece after last.marks := by
  obtain ⟨place, hplace, n, hends⟩ := endsAt_of_search h
  have htext := (List.take_append_drop place text).symm
  have hlength : (text.take place).length = place :=
    List.length_take_of_le (by rwa [List.size_toArray] at hplace)
  rw [← hlength] at hends
  obtain ⟨piece, after, added, m, -, hrest, hpiece, hends⟩ :=
    (code_carries_program e).sound htext hends
  refine ⟨text.take place, piece, after, by rw [← hrest, List.take_append_drop], ?_⟩
  rw [eq_of_endsIn_accept hends, List.append_nil]
  exact hpiece

/-- A search finds something exactly if the expression has a match in the text. -/
theorem isSome_search_program_iff (e : Expression) (text : List Char) :
    (search e.program text.toArray).isSome = true ↔
      ∃ before piece after marks, text = before ++ (piece ++ after) ∧
        e.passage before piece after marks := by
  constructor
  · intro h
    obtain ⟨last, hlast⟩ := Option.isSome_iff_exists.mp h
    obtain ⟨before, piece, after, htext, hpiece⟩ := passage_of_search hlast
    exact ⟨before, piece, after, last.marks, htext, hpiece⟩
  · intro h
    obtain ⟨before, piece, after, marks, htext, hpiece⟩ := h
    rw [isSome_search_iff]
    have hend : Thread.EndsAt e.program text.toArray
        ⟨e.size, (before ++ piece).length, marks ++ []⟩
          ⟨e.size, (before ++ piece).length, marks ++ []⟩ :=
      ⟨0, rfl, by simp [Thread.isAccepted, getElem?_program_size]⟩
    refine ⟨before.length, ?_, _, (code_carries_program e).complete htext hpiece hend⟩
    rw [htext, List.size_toArray, List.length_append]
    exact Nat.le_add_right _ _

end Stepwise.Regex
