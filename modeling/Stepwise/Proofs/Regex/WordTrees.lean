import Mathlib.Algebra.BigOperators.Ring.List
import Mathlib.Algebra.Order.BigOperators.Group.List
import Mathlib.Algebra.Order.Group.Nat
import Mathlib.Algebra.Ring.Nat
import Mathlib.Data.List.Nodup
import Mathlib.Data.List.Induction
import Stepwise.Regex.WordTree
import Stepwise.Proofs.Regex.Drafting

/-!
# The size of trees of words

Words share what they begin with, so that their tree is no larger than their octets call for.
Main statement: a tree has at most two states for every octet and one more.
-/

namespace Stepwise.Regex

variable {words run : List (List Nat)}

def letters (words : List (List Nat)) : Nat :=
  (words.map List.length).sum

theorem letters_cons (word : List Nat) (words : List (List Nat)) :
    letters (word :: words) = word.length + letters words :=
  List.sum_cons

/-! Runs of words. -/

theorem onceEmpty_le (words : List (List Nat)) :
    (onceEmpty words).length ≤ words.length ∧ letters (onceEmpty words) ≤ letters words := by
  fun_induction onceEmpty words with
  | case1 words ih =>
      rw [letters_cons, List.length_cons]
      omega
  | case2 words => exact ⟨Nat.le_refl _, Nat.le_refl _⟩

/-- The octets of words are those of their runs, which are separated by empty words. -/
theorem runs_le (words : List (List Nat)) :
    (runs words).length + ((runs words).filter (!·.isEmpty)).length ≤ words.length + 1 ∧
      ((runs words).map letters).sum ≤ letters words ∧
        ∀ run ∈ runs words, ∀ word ∈ run, word ≠ [] := by
  fun_induction runs words with
  | case1 => simp
  | case2 words ih =>
      obtain ⟨hlength, hletters, hwords⟩ := ih
      refine ⟨?_, ?_, List.forall_mem_cons.mpr ⟨by simp, hwords⟩⟩
      · simp only [List.filter_cons, List.isEmpty_nil, List.length_cons, Bool.not_true,
          Bool.false_eq_true, if_false]
        omega
      · rw [List.map_cons, List.sum_cons, letters_cons]
        simpa [letters] using hletters
  | case3 word words hword run rest heq ih =>
      rw [heq] at ih
      obtain ⟨hlength, hletters, hwords⟩ := ih
      rw [List.forall_mem_cons] at hwords
      refine ⟨?_, ?_, List.forall_mem_cons.mpr ⟨List.forall_mem_cons.mpr ⟨hword, hwords.1⟩,
        hwords.2⟩⟩
      · have hfull : (rest.filter (!·.isEmpty)).length ≤
            ((run :: rest).filter (!·.isEmpty)).length :=
          ((List.sublist_cons_self run rest).filter _).length_le
        rw [List.filter_cons_of_pos (by simp), List.length_cons, List.length_cons,
          List.length_cons]
        rw [List.length_cons] at hlength
        omega
      · rw [List.map_cons, List.sum_cons] at hletters ⊢
        rw [letters_cons, letters_cons]
        omega
  | case4 word words hword heq ih =>
      refine ⟨?_, ?_, by simpa using hword⟩
      · rw [List.filter_cons_of_pos (by simp)]
        simp
      · rw [List.map_singleton, List.sum_singleton, letters_cons, letters_cons]
        exact Nat.add_le_add_left (Nat.zero_le _) _

/-! The words of a run that begin with an octet. -/

theorem nodup_eraseDups {α : Type} [DecidableEq α] (l : List α) : l.eraseDups.Nodup := by
  induction l using List.reverseRecOn with
  | nil => exact List.nodup_nil
  | append_singleton l last ih =>
      rw [List.eraseDups_append]
      by_cases hlast : last ∈ l
      · simpa [List.removeAll, hlast] using ih
      · simp [List.removeAll, hlast, List.eraseDups_cons, List.nodup_append, ih]
        rintro a ha rfl
        exact hlast ha

theorem sum_ite_le {l : List Nat} (h : l.Nodup) (c n : Nat) :
    (l.map fun o => if c = o then n else 0).sum ≤ n := by
  induction l with
  | nil => exact Nat.zero_le n
  | cons o rest ih =>
      obtain ⟨hnew, hrest⟩ := List.nodup_cons.mp h
      rw [List.map_cons, List.sum_cons]
      by_cases hc : c = o
      · have hzero : (rest.map fun o => if c = o then n else 0).sum = 0 := by
          rw [List.sum_eq_zero_iff_forall_eq_nat]
          intro m hm
          obtain ⟨other, hother, rfl⟩ := List.mem_map.mp hm
          exact if_neg fun heq => hnew (hc.symm.trans heq ▸ hother)
        rw [hzero, if_pos hc, Nat.add_zero]
      · rw [if_neg hc, Nat.zero_add]
        exact ih hrest

/-- The octets of the words that begin with some different octets, the first ones included. -/
theorem sum_behind_le {octets : List Nat} (hoctets : octets.Nodup)
    (hwords : ∀ word ∈ run, word ≠ []) :
    (octets.map fun o => letters (behind o run) + (behind o run).length).sum ≤ letters run := by
  induction run with
  | nil => simp [behind, letters]
  | cons word run ih =>
      rw [List.forall_mem_cons] at hwords
      obtain ⟨c, rest, rfl⟩ := List.exists_cons_of_ne_nil hwords.1
      have hbehind (o : Nat) : letters (behind o ((c :: rest) :: run)) +
          (behind o ((c :: rest) :: run)).length =
            (letters (behind o run) + (behind o run).length) +
              if c = o then rest.length + 1 else 0 := by
        rw [behind, List.filterMap_cons]
        by_cases hc : c = o
        · simp only [hc, if_true, letters_cons, List.length_cons]
          rw [behind]
          omega
        · simp only [if_neg hc]
          rfl
      have hrest := ih hwords.2
      have hfirst := sum_ite_le hoctets c (rest.length + 1)
      simp only [hbehind]
      rw [List.sum_map_add, letters_cons, List.length_cons]
      omega

/-- The states, and the bytes that they do not hold, of a run: its own ones and those of the trees
behind its octets. -/
def runParts (tree : List (List Nat) → Nat × Nat) (run : List (List Nat)) : List (Nat × Nat) :=
  let octets := (run.filterMap List.head?).eraseDups
  let arcs := if octets.length = 1 then 0 else octets.length * arcBytes
  (1, arcs) :: ((octets.map (behind · run)).filter (·.any (!·.isEmpty))).map tree

theorem one_le_length_behind {o : Nat} (h : o ∈ run.filterMap List.head?) :
    1 ≤ (behind o run).length := by
  obtain ⟨word, hword, hhead⟩ := List.mem_filterMap.mp h
  obtain ⟨rest, rfl⟩ := List.head?_eq_some_iff.mp hhead
  exact List.length_pos_of_mem (List.mem_filterMap.mpr ⟨_, hword, if_pos rfl⟩)

section Trees

variable {tree : List (List Nat) → Nat × Nat}
  (htree : ∀ words, (tree words).1 ≤ 2 * letters words + 1 ∧
    (tree words).2 ≤ words.length * linkBytes + letters words * (linkBytes + arcBytes))
include htree

/-- Bounds of trees are summed up, in each of which there is a word. -/
theorem sum_trees_le {all : List (List (List Nat))} (hone : ∀ words ∈ all, 1 ≤ words.length) :
    (all.map fun words => (tree words).1).sum ≤
        2 * (all.map letters).sum + (all.map List.length).sum ∧
      (all.map fun words => (tree words).2).sum ≤
        (all.map List.length).sum * linkBytes +
          (all.map letters).sum * (linkBytes + arcBytes) := by
  constructor
  · rw [← List.sum_map_mul_left, ← List.sum_map_add]
    refine List.sum_le_sum fun words hwords => Nat.le_trans (htree words).1 ?_
    exact Nat.add_le_add_left (hone words hwords) _
  · rw [← List.sum_map_mul_right, ← List.sum_map_mul_right, ← List.sum_map_add]
    exact List.sum_le_sum fun words _ => (htree words).2

/-- Bounds of the trees behind the octets of a run carry over to the run. -/
theorem runParts_le (hne : run ≠ []) (hwords : ∀ word ∈ run, word ≠ []) :
    ((runParts tree run).map (·.1)).sum ≤ 2 * letters run ∧
      ((runParts tree run).map (·.2)).sum ≤ letters run * (linkBytes + arcBytes) := by
  let octets := (run.filterMap List.head?).eraseDups
  let arcs := if octets.length = 1 then 0 else octets.length * arcBytes
  let all := octets.map (behind · run)
  let trees := (all.filter (·.any (!·.isEmpty))).map tree
  have hparts : runParts tree run = (1, arcs) :: trees := rfl
  have hkept (f : Nat × Nat → Nat) :
      (trees.map f).sum ≤ (all.map fun words => f (tree words)).sum := by
    rw [List.map_map]
    exact (List.filter_sublist.map _).sum_le_sum fun n _ => Nat.zero_le n
  have hone : ∀ words ∈ all, 1 ≤ words.length := by
    intro words hwords
    obtain ⟨o, ho, rfl⟩ := List.mem_map.mp hwords
    exact one_le_length_behind (List.mem_eraseDups.mp ho)
  have hcount := List.length_le_sum_of_one_le (all.map List.length)
    (List.forall_mem_map.mpr hone)
  rw [List.length_map, List.length_map] at hcount
  have hsum : (all.map letters).sum + (all.map List.length).sum ≤ letters run := by
    have hbehind := sum_behind_le (nodup_eraseDups (run.filterMap List.head?)) hwords
    rw [List.sum_map_add] at hbehind
    rw [List.map_map, List.map_map]
    exact hbehind
  obtain ⟨hstates, hextra⟩ := sum_trees_le htree hone
  have hoctets : 0 < octets.length := by
    obtain ⟨word, others, rfl⟩ := List.exists_cons_of_ne_nil hne
    obtain ⟨c, rest, rfl⟩ := List.exists_cons_of_ne_nil (hwords word List.mem_cons_self)
    simp [octets, List.eraseDups_cons]
  have harcs : arcs ≤ octets.length * arcBytes := by
    simp only [arcs]
    split
    · exact Nat.zero_le _
    · exact Nat.le_refl _
  have hfirst := hkept (·.1)
  have hsecond := hkept (·.2)
  rw [hparts, List.map_cons, List.map_cons, List.sum_cons, List.sum_cons]
  simp only [linkBytes, arcBytes] at hextra harcs ⊢
  constructor
  · omega
  · omega

end Trees

/-- A tree has at most two states for every octet of its words and one more. -/
theorem wordTree_le (depth : Nat) (words : List (List Nat)) :
    (wordTree depth words).1 ≤ 2 * letters words + 1 ∧
      (wordTree depth words).2 ≤
        words.length * linkBytes + letters words * (linkBytes + arcBytes) := by
  induction depth generalizing words with
  | zero => exact ⟨Nat.le_add_left _ _, Nat.zero_le _⟩
  | succ depth ih =>
      let full := (runs (onceEmpty words)).filter (!·.isEmpty)
      obtain ⟨hruns, hletters, hwords⟩ := runs_le (onceEmpty words)
      have hlength : (runs (onceEmpty words)).length + full.length ≤
          (onceEmpty words).length + 1 := hruns
      have hfew : full.length ≤ (runs (onceEmpty words)).length := List.length_filter_le _ _
      obtain ⟨honce, honce'⟩ := onceEmpty_le words
      have hfull : (full.map letters).sum ≤ ((runs (onceEmpty words)).map letters).sum :=
        (List.filter_sublist.map _).sum_le_sum fun n _ => Nat.zero_le n
      have hparts : ∀ run ∈ full,
          ((runParts (wordTree depth) run).map (·.1)).sum ≤ 2 * letters run ∧
            ((runParts (wordTree depth) run).map (·.2)).sum ≤
              letters run * (linkBytes + arcBytes) := by
        intro run hrun
        obtain ⟨hmem, hne⟩ := List.mem_filter.mp hrun
        exact runParts_le ih (by simpa using hne) (hwords run hmem)
      have hsums (f : Nat × Nat → Nat) :
          ((full.flatMap (runParts (wordTree depth))).map f).sum =
            (full.map fun run => ((runParts (wordTree depth) run).map f).sum).sum := by
        rw [List.map_flatMap, List.flatMap_def, List.sum_flatten, List.map_map]
        rfl
      have hstates : ((full.flatMap (runParts (wordTree depth))).map (·.1)).sum ≤
          2 * (full.map letters).sum := by
        rw [hsums, ← List.sum_map_mul_left]
        exact List.sum_le_sum fun run hrun => (hparts run hrun).1
      have hextra : ((full.flatMap (runParts (wordTree depth))).map (·.2)).sum ≤
          (full.map letters).sum * (linkBytes + arcBytes) := by
        rw [hsums, ← List.sum_map_mul_right]
        exact List.sum_le_sum fun run hrun => (hparts run hrun).2
      have htree : wordTree (depth + 1) words =
          (((full.flatMap (runParts (wordTree depth))).map (·.1)).sum + 1,
            ((full.flatMap (runParts (wordTree depth))).map (·.2)).sum +
              ((runs (onceEmpty words)).length - 1 + full.length) * linkBytes) := rfl
      rw [htree]
      simp only [linkBytes, arcBytes] at hextra ⊢
      constructor
      · omega
      · omega

/-- The bytes that a choice between words takes at most. -/
def wordsBytes (words : List (List Nat)) : Nat :=
  stateBytes + ((2 * letters words + 1) * stateBytes +
    (words.length * linkBytes + letters words * (linkBytes + arcBytes)))

theorem letters_map_reverse (words : List (List Nat)) :
    letters (words.map List.reverse) = letters words := by
  rw [letters, List.map_map]
  exact congrArg List.sum (List.map_congr_left fun word _ => List.length_reverse)

theorem affords_tree {plan : DraftPlan} {states extra : Nat}
    (hstates : states ≤ 2 * letters words + 1)
    (hextra : extra ≤ words.length * linkBytes + letters words * (linkBytes + arcBytes)) :
    Affords plan (wordsBytes words + linkBytes) (do
      let _ ← addState
      let _ ← addStates states extra
      return Exit.held) fun _ => linkBytes := by
  refine (affords_addState.andThen fun _ => (affords_addStates states extra).andThen fun _ =>
    affords_exit .held).mono ?_
  have hbytes := Nat.mul_le_mul_right stateBytes hstates
  rw [wordsBytes]
  omega

theorem affords_draftWords {plan : DraftPlan} (words : List (List Nat)) :
    Affords plan (wordsBytes words + linkBytes) (draftWords words) fun _ => linkBytes := by
  rw [draftWords]
  refine affords_read ?_
  dsimp only
  split
  · obtain ⟨hstates, hextra⟩ := wordTree_le ((words.map List.length).foldl max 0) words
    exact affords_tree hstates hextra
  · obtain ⟨hstates, hextra⟩ := wordTree_le
      (((words.map List.reverse).map List.length).foldl max 0) (words.map List.reverse)
    rw [letters_map_reverse] at hstates hextra
    rw [List.length_map] at hextra
    exact affords_tree hstates hextra

end Stepwise.Regex
