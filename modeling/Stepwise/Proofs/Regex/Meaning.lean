import Mathlib.Data.List.Forall2
import Mathlib.Tactic.Tauto
import Stepwise.Proofs.Regex.Compilation
import Stepwise.Proofs.Regex.NormalForm
import Stepwise.Proofs.Regex.Spelling
import Stepwise.Proofs.Unicode.Tables

/-!
# What a written expression matches

A part of an expression denotes a passage if it is read as some trees that mean the
passage, wherever it stands. Main statement: an expression that denotes a passage compiles,
unless it is too large, to a program that matches this passage.
-/

namespace Stepwise.Regex

/-- A tree means a passage without any flags. -/
def Tree.Means (t : Tree) (R : Passage) : Prop :=
  ∃ es, t.resolve {} = .ok (es, {}) ∧ (∀ e ∈ es, e.Tidy) ∧ Expression.anyOf es = R

namespace Tree

variable {t s : Tree} {ts : List Tree} {R S : Passage}

/-! Trees and their passages. -/

theorem Means.choice (h : t.Means R) :
    ∃ es, t.resolve {} = .ok (es, {}) ∧ (Expression.choice es).Tidy ∧
      (Expression.choice es).passage = R := by
  obtain ⟨es, hes, htidy, hR⟩ := h
  exact ⟨es, hes, Expression.tidy_choice htidy, by rw [Expression.passage_choice htidy, hR]⟩

/-- A tree with a single alternative means its passage. -/
theorem means_of_resolve {e : Expression} (h : t.resolve {} = .ok ([e], {})) (he : e.Tidy)
    (hR : e.passage = R) : t.Means R := by
  refine ⟨[e], h, ?_, by rw [Expression.anyOf_singleton, hR]⟩
  intro f hf
  rwa [List.mem_singleton.mp hf]

theorem means_empty : Tree.empty.Means .nil :=
  means_of_resolve rfl trivial rfl

theorem means_look {a : Anchor} {l : Look} (h : ({} : Flags).anchor a = l) :
    (Tree.anchor a).Means (.look l) :=
  means_of_resolve rfl trivial (by rw [h]; rfl)

theorem means_set {s : CharSet} (hs : Unicode.Ranges.Tidy s)
    (h : t.resolve {} = .ok ([.ofSet false s], {})) : t.Means (.oneOf s) :=
  means_of_resolve h (Expression.tidy_ofSet false hs) (Expression.passage_ofSet false hs)

theorem means_literal (c : Char) : (Tree.literal ⟨c, false⟩).Means (.text [c]) := by
  rw [← Passage.oneOf_single]
  apply means_set _ rfl
  exact Unicode.Ranges.tidy_singleton (Unicode.Ranges.isValidChar_toNat c)

theorem means_short (k : ShortClass) (hk : Unicode.Ranges.Tidy (CharSet.ofShort k)) :
    (Tree.short false k).Means (.oneOf (.ofShort k)) :=
  means_set hk rfl

theorem means_allBut (c : Char) :
    (Tree.bracket true (.literal ⟨c, false⟩)).Means
      (.oneOf (Unicode.Ranges.compl (CharSet.single c))) :=
  means_set (Unicode.Ranges.tidy_compl_singleton c) rfl

theorem means_cat (ht : t.Means R) (hs : s.Means S) : (Tree.cat t s).Means (R.andThen S) := by
  obtain ⟨ls, hls, hltidy, hR⟩ := ht.choice
  obtain ⟨rs, hrs, hrtidy, hS⟩ := hs.choice
  apply means_of_resolve (e := (Expression.choice ls).followedBy (.choice rs))
  · simp only [resolve, hls, hrs, pure, bind, Except.bind, Except.pure]
  · exact Expression.tidy_followedBy hltidy hrtidy
  · rw [Expression.passage_followedBy, hR, hS]

theorem means_alt (ht : t.Means R) (hs : s.Means S) : (Tree.alt t s).Means (R.either S) := by
  obtain ⟨ls, hls, hltidy, hR⟩ := ht.choice
  obtain ⟨rs, hrs, hrtidy, hS⟩ := hs
  refine ⟨.choice ls :: rs, ?_, ?_, by rw [Expression.anyOf_cons, hR, hS]⟩
  · simp only [resolve, hls, hrs, pure, bind, Except.bind, Except.pure]
  · intro e he
    rcases List.mem_cons.mp he with rfl | he
    · exact hltidy
    · exact hrtidy e he

theorem means_group (h : t.Means R) : (Tree.group [] t).Means R := by
  obtain ⟨es, hes, htidy, hR⟩ := h.choice
  apply means_of_resolve (e := Expression.choice es)
  · have happly : Flags.apply {} [] = {} := rfl
    simp only [resolve, happly, hes, pure, bind, Except.bind, Except.pure]
  · exact htidy
  · exact hR

theorem means_capture (index : Nat) (h : t.Means R) :
    (Tree.capture index t).Means (R.group index) := by
  obtain ⟨es, hes, htidy, hR⟩ := h.choice
  apply means_of_resolve (e := .group index (.choice es))
  · simp only [resolve, hes, pure, bind, Except.bind, Except.pure]
  · exact htidy
  · rw [Expression.passage, hR]

theorem means_repeated (h : t.Means R) {before piece after : List Char} {marks : List Mark}
    (hR : R before piece after marks) (hpiece : piece ≠ []) (min : Nat) (max : Option Nat)
    (greedy : Bool) :
    (Tree.repeated t min max greedy).Means (R.timesOf (Passage.allowedTimes min max)) := by
  obtain ⟨es, hes, htidy, rfl⟩ := h.choice
  apply means_of_resolve (e := (Expression.choice es).times min max (greedy != false))
  · simp only [resolve, hes, pure, bind, Except.bind, Except.pure]
  · exact Expression.tidy_times htidy _ _ _
  · exact Expression.passage_times hR hpiece _ _ _

/-- Characters of a set in a row. -/
theorem means_run {s : CharSet} {c : Char} (h : t.Means (.oneOf s)) (hc : s.has c = true)
    (min : Nat) :
    (Tree.repeated t min none true).Means
      ((Passage.oneOf s).timesOf (Passage.allowedTimes min none)) := by
  have hmatch : Passage.oneOf s [] [c] [] [] := ⟨⟨c, hc, rfl⟩, rfl⟩
  exact means_repeated h hmatch (List.cons_ne_nil c []) min none true

theorem means_sequence {Rs : List Passage} (h : List.Forall₂ Means ts Rs) :
    (sequence ts).Means (Passage.inOrder Rs) := by
  induction h with
  | nil => exact means_empty
  | cons ht hts ih =>
      cases hts with
      | nil =>
          rw [Passage.inOrder, Passage.inOrder, Passage.andThen_nil]
          exact ht
      | cons hs hss => exact means_cat ht ih

/-- Trees one behind the other mean a passage. -/
def MeanInOrder (ts : List Tree) (R : Passage) : Prop :=
  ∃ Rs, List.Forall₂ Means ts Rs ∧ Passage.inOrder Rs = R

theorem meanInOrder_nil : MeanInOrder [] .nil :=
  ⟨[], .nil, rfl⟩

theorem Means.inOrder (h : t.Means R) : MeanInOrder [t] R :=
  ⟨[R], .cons h .nil, Passage.andThen_nil R⟩

theorem MeanInOrder.append {us : List Tree} (h : MeanInOrder ts R) (hus : MeanInOrder us S) :
    MeanInOrder (ts ++ us) (R.andThen S) := by
  obtain ⟨Rs, hRs, rfl⟩ := h
  obtain ⟨Ss, hSs, rfl⟩ := hus
  exact ⟨Rs ++ Ss, List.rel_append hRs hSs, Passage.inOrder_append Rs Ss⟩

theorem MeanInOrder.sequence (h : MeanInOrder ts R) : (sequence ts).Means R := by
  obtain ⟨Rs, hRs, rfl⟩ := h
  exact means_sequence hRs

end Tree

/-- A part of an expression behind a number of groups has groups of some names and is read
as pieces that mean a passage one behind the other. No piece is nested too deeply. -/
def Denotes (source : List Char) (n : Nat) (names : List (Option String)) (d : Nat)
    (R : Passage) : Prop :=
  ∃ ts, Spells source n names ts ∧ (∀ t ∈ ts, t.depth .none ≤ d) ∧ Tree.MeanInOrder ts R

variable {source left right : List Char} {n d : Nat} {names others : List (Option String)}
  {R S : Passage}

/-- Parts behind each other denote passages behind each other. -/
theorem Denotes.append (hleft : Denotes left n names d R)
    (hright : Denotes right (n + names.length) others d S) :
    Denotes (left ++ right) n (names ++ others) d (R.andThen S) := by
  obtain ⟨ts, hts, htd, hmeansl⟩ := hleft
  obtain ⟨us, hus, hud, hmeansr⟩ := hright
  exact ⟨ts ++ us, hts.append hus, List.forall_mem_append.mpr ⟨htd, hud⟩, hmeansl.append hmeansr⟩

theorem Denotes.mono {d' : Nat} (h : Denotes source n names d R) (hd : d ≤ d') :
    Denotes source n names d' R := by
  obtain ⟨ts, hts, htd, hmeans⟩ := h
  exact ⟨ts, hts, fun t ht => Nat.le_trans (htd t ht) hd, hmeans⟩

theorem denotes_start (n : Nat) : Denotes ['^'] n [] 0 (.look .textStart) :=
  ⟨_, spells_start n, List.forall_mem_singleton.mpr (Nat.le_refl 0), (Tree.means_look rfl).inOrder⟩

theorem denotes_end (n : Nat) : Denotes ['$'] n [] 0 (.look .textEnd) :=
  ⟨_, spells_end n, List.forall_mem_singleton.mpr (Nat.le_refl 0), (Tree.means_look rfl).inOrder⟩

/-- What a part of an expression denotes, it matches when it is compiled on its own. -/
theorem Denotes.compile_eq (h : Denotes source 0 names d R) (hnames : Distinct names)
    (hd : d < depthLimit) :
    ∃ e : Expression, e.passage = R ∧ ∀ limit : Option Nat,
      compile limit source =
        if limit.all e.fitsInto then .ok ⟨e.program, names⟩ else .error .tooLarge := by
  obtain ⟨ts, hts, htd, hmeans⟩ := h
  obtain ⟨es, hes, htidy, hR⟩ := hmeans.sequence.choice
  have hdepth : ∀ t ∈ ts, t.depth .none < depthLimit :=
    fun t ht => Nat.lt_of_le_of_lt (htd t ht) hd
  exact ⟨Expression.choice es, hR, hts.compile_eq hnames hdepth hes⟩

end Stepwise.Regex
