import Stepwise.Proofs.Regex.Passage
import Stepwise.Proofs.Unicode.Covering

/-!
# The normal form keeps what is matched

Putting expressions together in normal form merges literals, opens choices, and takes out
what the alternatives of a choice begin with. Main statements: a sequence matches pieces
one behind the other and a choice what one of its alternatives matches, with the same
marks, as long as the sets in them are tidy.
-/

namespace Stepwise.Regex

/-- Passages one behind the other. -/
def Passage.inOrder : List Passage → Passage
  | [] => .nil
  | R :: others => R.andThen (inOrder others)

theorem Passage.inOrder_append (front back : List Passage) :
    inOrder (front ++ back) = (inOrder front).andThen (inOrder back) := by
  induction front with
  | nil => rw [List.nil_append, inOrder, nil_andThen]
  | cons R front ih => rw [List.cons_append, inOrder, ih, inOrder, andThen_assoc]

namespace Expression

/-- All sets of an expression are tidy. -/
def Tidy : Expression → Prop
  | .empty => True
  | .literal _ => True
  | .set _ s => Unicode.Ranges.Tidy s
  | .look _ => True
  | .group _ body => body.Tidy
  | .repeated _ _ _ body => body.Tidy
  | .cat left right => left.Tidy ∧ right.Tidy
  | .alt left right => left.Tidy ∧ right.Tidy

/-- What one of some alternatives matches. -/
def anyOf (es : List Expression) : Passage :=
  fun before piece after marks => ∃ e ∈ es, e.passage before piece after marks

theorem anyOf_singleton (e : Expression) : anyOf [e] = e.passage := by
  apply Passage.ext
  simp [anyOf]

theorem anyOf_cons (e : Expression) (es : List Expression) :
    anyOf (e :: es) = e.passage.either (anyOf es) := by
  apply Passage.ext
  simp [anyOf, Passage.either]

theorem anyOf_flatMap (es : List Expression) (parts : Expression → List Expression)
    (hparts : ∀ e ∈ es, anyOf (parts e) = e.passage) : anyOf (es.flatMap parts) = anyOf es := by
  apply Passage.ext
  intro before piece after marks
  constructor
  · intro h
    obtain ⟨f, hf, hmatch⟩ := h
    obtain ⟨e, he, hf⟩ := List.mem_flatMap.mp hf
    exact ⟨e, he, by rw [← hparts e he]; exact ⟨f, hf, hmatch⟩⟩
  · intro h
    obtain ⟨e, he, hmatch⟩ := h
    rw [← hparts e he] at hmatch
    obtain ⟨f, hf, hmatch⟩ := hmatch
    exact ⟨f, List.mem_flatMap.mpr ⟨e, he, hf⟩, hmatch⟩

theorem passage_pieces (e : Expression) : Passage.inOrder (e.pieces.map passage) = e.passage := by
  induction e with
  | empty => rfl
  | cat left right ihl ihr => rw [pieces, List.map_cons, Passage.inOrder, ihr, passage]
  | literal cs => exact Passage.andThen_nil _
  | set octets s => exact Passage.andThen_nil _
  | look l => exact Passage.andThen_nil _
  | group index body ih => exact Passage.andThen_nil _
  | repeated min max greedy body ih => exact Passage.andThen_nil _
  | alt left right ihl ihr => exact Passage.andThen_nil _

theorem passage_alternatives (e : Expression) : anyOf e.alternatives = e.passage := by
  induction e with
  | alt left right ihl ihr => rw [alternatives, anyOf_cons, ihr, passage]
  | empty => exact anyOf_singleton _
  | cat left right ihl ihr => exact anyOf_singleton _
  | literal cs => exact anyOf_singleton _
  | set octets s => exact anyOf_singleton _
  | look l => exact anyOf_singleton _
  | group index body ih => exact anyOf_singleton _
  | repeated min max greedy body ih => exact anyOf_singleton _

/-! Sequences. -/

theorem passage_followedBy (e next : Expression) :
    (e.followedBy next).passage = e.passage.andThen next.passage := by
  fun_induction followedBy e next with
  | case1 next => exact (Passage.nil_andThen _).symm
  | case2 left right next ih => rw [passage, ih, passage, Passage.andThen_assoc]
  | case3 e => exact (Passage.andThen_nil _).symm
  | case4 cs ds => exact Passage.text_append cs ds
  | case5 cs ds rest => simp only [passage, Passage.text_append, Passage.andThen_assoc]
  | case6 e next => rfl

theorem passage_sequence (es : List Expression) :
    (sequence es).passage = Passage.inOrder (es.map passage) := by
  induction es with
  | nil => rfl
  | cons e es ih =>
      rw [sequence, List.foldr_cons, passage_followedBy, List.map_cons, Passage.inOrder, ← ih,
        sequence]

theorem tidy_followedBy {e next : Expression} (he : e.Tidy) (hnext : next.Tidy) :
    (e.followedBy next).Tidy := by
  fun_induction followedBy e next with
  | case1 next => exact hnext
  | case2 left right next ih => exact ⟨he.1, ih he.2 hnext⟩
  | case3 e => exact he
  | case4 cs ds => trivial
  | case5 cs ds rest => exact ⟨trivial, hnext.2⟩
  | case6 e next => exact ⟨he, hnext⟩

theorem tidy_sequence {es : List Expression} (h : ∀ e ∈ es, e.Tidy) : (sequence es).Tidy := by
  induction es with
  | nil => trivial
  | cons e es ih =>
      exact tidy_followedBy (h e List.mem_cons_self)
        (ih fun f hf => h f (List.mem_cons_of_mem e hf))

theorem Tidy.of_mem_pieces {e f : Expression} (he : e.Tidy) (hf : f ∈ e.pieces) : f.Tidy := by
  induction e with
  | empty => exact absurd hf List.not_mem_nil
  | cat left right ihl ihr =>
      rcases List.mem_cons.mp hf with rfl | hf
      · exact he.1
      · exact ihr he.2 hf
  | literal cs => exact List.mem_singleton.mp hf ▸ he
  | set octets s => exact List.mem_singleton.mp hf ▸ he
  | look l => exact List.mem_singleton.mp hf ▸ he
  | group index body ih => exact List.mem_singleton.mp hf ▸ he
  | repeated min max greedy body ih => exact List.mem_singleton.mp hf ▸ he
  | alt left right ihl ihr => exact List.mem_singleton.mp hf ▸ he

theorem Tidy.of_mem_alternatives {e f : Expression} (he : e.Tidy) (hf : f ∈ e.alternatives) :
    f.Tidy := by
  induction e with
  | alt left right ihl ihr =>
      rcases List.mem_cons.mp hf with rfl | hf
      · exact he.1
      · exact ihr he.2 hf
  | empty => exact List.mem_singleton.mp hf ▸ he
  | cat left right ihl ihr => exact List.mem_singleton.mp hf ▸ he
  | literal cs => exact List.mem_singleton.mp hf ▸ he
  | set octets s => exact List.mem_singleton.mp hf ▸ he
  | look l => exact List.mem_singleton.mp hf ▸ he
  | group index body ih => exact List.mem_singleton.mp hf ▸ he
  | repeated min max greedy body ih => exact List.mem_singleton.mp hf ▸ he

/-! Sets. -/

theorem exists_toNat_eq {n : Nat} (h : n.isValidChar) : ∃ c : Char, c.toNat = n :=
  ⟨Char.ofNatAux n h, rfl⟩

/-- A set of one character is as good as a literal. -/
theorem passage_ofSet {s : CharSet} (octets : Bool) (hs : Unicode.Ranges.Tidy s) :
    (ofSet octets s).passage = .oneOf s := by
  unfold ofSet
  split
  · rfl
  · rename_i lo hi
    split
    · rename_i heq
      subst heq
      obtain ⟨c, rfl⟩ := exists_toNat_eq (hs.valid _ List.mem_cons_self)
      rw [Char.ofNat_toNat]
      exact (Passage.oneOf_single c).symm
    · rfl
  · rfl

theorem tidy_ofSet {s : CharSet} (octets : Bool) (hs : Unicode.Ranges.Tidy s) :
    (ofSet octets s).Tidy := by
  unfold ofSet
  split
  · exact Unicode.Ranges.tidy_nil
  · split
    · trivial
    · exact hs
  · exact hs

/-! Choices. -/

theorem eq_of_mapM_character? {es : List Expression} {cs : List Char}
    (h : es.mapM character? = some cs) : es = cs.map fun c => .literal [c] := by
  induction es generalizing cs with
  | nil =>
      simp only [List.mapM_nil, Option.pure_def, Option.some.injEq] at h
      rw [← h, List.map_nil]
  | cons e es ih =>
      simp only [List.mapM_cons, Option.pure_def, Option.bind_eq_bind, Option.bind_eq_some_iff,
        Option.some.injEq] at h
      obtain ⟨c, hc, cs', hcs, rfl⟩ := h
      rw [List.map_cons, ← ih hcs]
      unfold character? at hc
      split at hc
      · rw [Option.some.inj hc]
      · exact absurd hc (by simp)

theorem eq_of_set?_eq_some {e : Expression} {s : CharSet} (h : e.set? = some s) :
    ∃ octets, e = .set octets s := by
  unfold set? at h
  split at h
  · rename_i octets s'
    exact ⟨octets, by rw [Option.some.inj h]⟩
  · exact absurd h (by simp)

/-- Alternatives that are sets match what one of the sets has. -/
theorem anyOf_of_mapM_set? {es : List Expression} {sets : List CharSet}
    (hes : ∀ e ∈ es, e.Tidy) (h : es.mapM set? = some sets) :
    (∀ s ∈ sets, Unicode.Ranges.Tidy s) ∧ ∀ before piece after marks,
      anyOf es before piece after marks ↔ ∃ s ∈ sets, Passage.oneOf s before piece after marks := by
  induction es generalizing sets with
  | nil =>
      simp only [List.mapM_nil, Option.pure_def, Option.some.injEq] at h
      simp [← h, anyOf]
  | cons e es ih =>
      simp only [List.mapM_cons, Option.pure_def, Option.bind_eq_bind, Option.bind_eq_some_iff,
        Option.some.injEq] at h
      obtain ⟨s, hs, others, hothers, rfl⟩ := h
      obtain ⟨octets, rfl⟩ := eq_of_set?_eq_some hs
      obtain ⟨htidy, hmatch⟩ := ih (fun f hf => hes f (List.mem_cons_of_mem _ hf)) hothers
      constructor
      · intro t ht
        rcases List.mem_cons.mp ht with rfl | ht
        · exact hes _ List.mem_cons_self
        · exact htidy t ht
      · intro before piece after marks
        rw [anyOf_cons, Passage.either, hmatch]
        simp [passage]

/-- A choice between characters, or between sets, is one set. -/
theorem oneOf_of_union? {es : List Expression} {s : CharSet} (hes : ∀ e ∈ es, e.Tidy)
    (h : union? es = some s) : Unicode.Ranges.Tidy s ∧ Passage.oneOf s = anyOf es := by
  unfold union? at h
  rw [Option.or_eq_some_iff] at h
  rcases h with h | ⟨-, h⟩
  · obtain ⟨cs, hcs, rfl⟩ := Option.map_eq_some_iff.mp h
    have hvalid : ∀ p ∈ cs.map fun c => (c.toNat, c.toNat), p.1.isValidChar := by
      intro p hp
      obtain ⟨c, -, rfl⟩ := List.mem_map.mp hp
      exact Unicode.Ranges.isValidChar_toNat c
    have htidy := Unicode.Ranges.tidy_arranged hvalid
    have hhas (d : Char) :
        (Unicode.Ranges.arranged (cs.map fun c => (c.toNat, c.toNat))).has d = true ↔ d ∈ cs := by
      rw [htidy.has_iff, Unicode.Ranges.covers_arranged hvalid]
      constructor
      · intro h
        obtain ⟨p, hp, hlo, hhi⟩ := h
        obtain ⟨c, hc, rfl⟩ := List.mem_map.mp hp
        rwa [Char.toNat_inj.mp (Nat.le_antisymm hhi hlo)]
      · intro hd
        exact ⟨_, List.mem_map_of_mem hd, Nat.le_refl _, Nat.le_refl _⟩
    refine ⟨htidy, ?_⟩
    rw [eq_of_mapM_character? hcs]
    apply Passage.ext
    intro before piece after marks
    simp only [Passage.oneOf, hhas, anyOf, List.mem_map, exists_exists_and_eq_and, passage,
      Passage.text]
    grind
  · obtain ⟨sets, hsets, rfl⟩ := Option.map_eq_some_iff.mp h
    obtain ⟨htidy, hmatch⟩ := anyOf_of_mapM_set? hes hsets
    have hunion := Unicode.Ranges.tidy_unionAll htidy
    refine ⟨hunion, Passage.ext fun before piece after marks => ?_⟩
    rw [hmatch]
    simp only [Passage.oneOf, hunion.has_iff, Unicode.Ranges.covers_unionAll htidy]
    constructor
    · intro h
      obtain ⟨⟨c, ⟨t, ht, hc⟩, rfl⟩, hmarks⟩ := h
      exact ⟨t, ht, ⟨c, ((htidy t ht).has_iff c).mpr hc, rfl⟩, hmarks⟩
    · intro h
      obtain ⟨t, ht, ⟨c, hc, rfl⟩, hmarks⟩ := h
      exact ⟨⟨c, ⟨t, ht, ((htidy t ht).has_iff c).mp hc⟩, rfl⟩, hmarks⟩

theorem passage_chain (es : List Expression) : (chain es).passage = anyOf es := by
  fun_induction chain es with
  | case1 =>
      apply Passage.ext
      simp [nothing, passage, Passage.oneOf, anyOf, Unicode.Ranges.has, Unicode.Ranges.contains]
  | case2 e => exact (anyOf_singleton e).symm
  | case3 e es hne ih => rw [passage, ih, anyOf_cons]

theorem tidy_chain {es : List Expression} (hes : ∀ e ∈ es, e.Tidy) : (chain es).Tidy := by
  fun_induction chain es with
  | case1 => exact Unicode.Ranges.tidy_nil
  | case2 e => exact hes e List.mem_cons_self
  | case3 e es hne ih =>
      exact ⟨hes e List.mem_cons_self, ih fun f hf => hes f (List.mem_cons_of_mem e hf)⟩

theorem anyOf_alternatives (es : List Expression) :
    anyOf (es.flatMap alternatives) = anyOf es :=
  anyOf_flatMap es alternatives fun e _ => passage_alternatives e

theorem tidy_alternatives {es : List Expression} (hes : ∀ e ∈ es, e.Tidy) :
    ∀ e ∈ es.flatMap alternatives, e.Tidy := by
  intro f hf
  obtain ⟨e, he, hf⟩ := List.mem_flatMap.mp hf
  exact (hes e he).of_mem_alternatives hf

theorem passage_choose {es : List Expression} (hes : ∀ e ∈ es, e.Tidy) :
    (choose es).passage = anyOf es := by
  rw [← anyOf_alternatives es, choose]
  split
  · rename_i s hunion
    obtain ⟨hs, hmatch⟩ := oneOf_of_union? (tidy_alternatives hes) hunion
    rw [passage_ofSet false hs, hmatch]
  · exact passage_chain _

theorem tidy_choose {es : List Expression} (hes : ∀ e ∈ es, e.Tidy) : (choose es).Tidy := by
  rw [choose]
  split
  · rename_i s hunion
    exact tidy_ofSet false (oneOf_of_union? (tidy_alternatives hes) hunion).1
  · exact tidy_chain (tidy_alternatives hes)

theorem commonStart_prefix_left (es fs : List Expression) : commonStart es fs <+: es := by
  fun_induction commonStart es fs with
  | case1 e es fs ih => exact List.cons_prefix_cons.mpr ⟨rfl, ih⟩
  | case2 e es f fs hne => exact List.nil_prefix
  | case3 es fs hne => exact List.nil_prefix

theorem commonStart_prefix_right (es fs : List Expression) : commonStart es fs <+: fs := by
  fun_induction commonStart es fs with
  | case1 e es fs ih => exact List.cons_prefix_cons.mpr ⟨rfl, ih⟩
  | case2 e es f fs hne => exact List.nil_prefix
  | case3 es fs hne => exact List.nil_prefix

theorem foldl_commonStart_prefix_all (shared : List Expression) (es : List Expression) :
    es.foldl (fun shared f => commonStart shared f.pieces) shared <+: shared ∧
      ∀ f ∈ es, es.foldl (fun shared f => commonStart shared f.pieces) shared <+: f.pieces := by
  induction es generalizing shared with
  | nil => exact ⟨List.prefix_refl _, fun f hf => absurd hf List.not_mem_nil⟩
  | cons e es ih =>
      obtain ⟨hshared, hothers⟩ := ih (commonStart shared e.pieces)
      refine ⟨hshared.trans (commonStart_prefix_left _ _), fun f hf => ?_⟩
      rcases List.mem_cons.mp hf with rfl | hf
      · exact hshared.trans (commonStart_prefix_right _ _)
      · exact hothers f hf

/-- All alternatives begin with the shared pieces. -/
theorem sharedPieces_prefix_of_mem {es : List Expression} {e : Expression} (he : e ∈ es) :
    sharedPieces es <+: e.pieces := by
  cases es with
  | nil => exact absurd he List.not_mem_nil
  | cons first es =>
      rw [sharedPieces]
      split
      · obtain ⟨hfirst, hothers⟩ := foldl_commonStart_prefix_all first.pieces es
        rcases List.mem_cons.mp he with rfl | he
        · exact hfirst
        · exact hothers e he
      · exact List.nil_prefix

/-- What alternatives begin with can be taken out of the choice between them. -/
theorem andThen_anyOf (es : List Expression) (shared : List Expression)
    (hshared : ∀ e ∈ es, shared <+: e.pieces) :
    (Passage.inOrder (shared.map passage)).andThen
      (anyOf (es.map fun e => sequence (e.pieces.drop shared.length))) = anyOf es := by
  have hsplit : ∀ e ∈ es, (Passage.inOrder (shared.map passage)).andThen
      (sequence (e.pieces.drop shared.length)).passage = e.passage := by
    intro e he
    obtain ⟨rest, hrest⟩ := hshared e he
    rw [passage_sequence, ← Passage.inOrder_append, ← List.map_append, ← hrest,
      List.drop_left, hrest, passage_pieces]
  apply Passage.ext
  intro before piece after marks
  constructor
  · intro h
    obtain ⟨left, right, leftMarks, rightMarks, hpiece, hmarks, hleft, f, hf, hright⟩ := h
    obtain ⟨e, he, rfl⟩ := List.mem_map.mp hf
    refine ⟨e, he, ?_⟩
    rw [← hsplit e he]
    exact ⟨left, right, leftMarks, rightMarks, hpiece, hmarks, hleft, hright⟩
  · intro h
    obtain ⟨e, he, hmatch⟩ := h
    rw [← hsplit e he] at hmatch
    obtain ⟨left, right, leftMarks, rightMarks, hpiece, hmarks, hleft, hright⟩ := hmatch
    exact ⟨left, right, leftMarks, rightMarks, hpiece, hmarks, hleft, _,
      List.mem_map_of_mem he, hright⟩

theorem tidy_rests {es : List Expression} (hes : ∀ e ∈ es, e.Tidy) (n : Nat) :
    ∀ f ∈ es.map fun e => sequence (e.pieces.drop n), f.Tidy := by
  intro f hf
  obtain ⟨e, he, rfl⟩ := List.mem_map.mp hf
  exact tidy_sequence fun g hg => (hes e he).of_mem_pieces (List.mem_of_mem_drop hg)

/-- A choice matches what one of its alternatives matches. -/
theorem passage_choice {es : List Expression} (hes : ∀ e ∈ es, e.Tidy) :
    (choice es).passage = anyOf es := by
  unfold choice
  split
  · exact (anyOf_singleton _).symm
  · rename_i hne
    have htidy := tidy_alternatives hes
    rw [← anyOf_alternatives es]
    generalize es.flatMap alternatives = fs at htidy
    simp only
    split
    · exact passage_choose htidy
    · rw [passage_followedBy, passage_sequence, passage_choose (tidy_rests htidy _)]
      exact andThen_anyOf fs _ fun e he => sharedPieces_prefix_of_mem he

theorem tidy_choice {es : List Expression} (hes : ∀ e ∈ es, e.Tidy) : (choice es).Tidy := by
  unfold choice
  split
  · exact hes _ List.mem_cons_self
  · have htidy := tidy_alternatives hes
    generalize es.flatMap alternatives = fs at htidy
    simp only
    split
    · exact tidy_choose htidy
    · apply tidy_followedBy _ (tidy_choose (tidy_rests htidy _))
      apply tidy_sequence
      intro f hf
      cases fs with
      | nil => exact absurd hf List.not_mem_nil
      | cons e fs =>
          exact (htidy e List.mem_cons_self).of_mem_pieces
            ((sharedPieces_prefix_of_mem List.mem_cons_self).subset hf)

/-! Repetitions. -/

/-- What is widthless matches the empty text at most. -/
theorem eq_nil_of_isWidthless {e : Expression} (he : e.isWidthless = true)
    {before piece after : List Char} {marks : List Mark}
    (h : e.passage before piece after marks) : piece = [] := by
  induction e generalizing before piece after marks with
  | empty => exact h.1
  | literal cs => exact absurd he (by simp [isWidthless])
  | set octets s => exact absurd he (by simp [isWidthless])
  | look l => exact h.1
  | group index body ih =>
      obtain ⟨inner, hinner, -⟩ := (Passage.group_iff _ _ _ _ _ _).mp h
      exact ih he hinner
  | repeated min max greedy body ih =>
      obtain ⟨k, -, hk⟩ := h
      induction k generalizing before piece after marks with
      | zero => exact hk.1
      | succ k ihk =>
          obtain ⟨left, right, _, _, rfl, -, hleft, hright⟩ := hk
          rw [ih he hleft, ihk hright, List.append_nil]
  | cat left right ihl ihr =>
      obtain ⟨hleft, hright⟩ := Bool.and_eq_true_iff.mp he
      obtain ⟨first, second, _, _, rfl, -, hfirst, hsecond⟩ := h
      rw [ihl hleft hfirst, ihr hright hsecond, List.append_nil]
  | alt left right ihl ihr =>
      obtain ⟨hleft, hright⟩ := Bool.and_eq_true_iff.mp he
      rcases h with h | h
      · exact ihl hleft h
      · exact ihr hright h

/-- What matches some text that is not empty is repeated as it is written. -/
theorem passage_times {e : Expression} {before piece after : List Char} {marks : List Mark}
    (h : e.passage before piece after marks) (hpiece : piece ≠ []) (min : Nat)
    (max : Option Nat) (greedy : Bool) :
    (e.times min max greedy).passage = e.passage.timesOf (Passage.allowedTimes min max) := by
  have hwidth : e.isWidthless = false := by
    cases hwidthless : e.isWidthless with
    | false => rfl
    | true => exact absurd (eq_nil_of_isWidthless hwidthless h) hpiece
  simp only [times, hwidth, Bool.false_eq_true, ↓reduceIte]
  split
  · rename_i hnever
    obtain ⟨rfl, rfl⟩ := hnever
    rw [Passage.timesOf_limited, Passage.timesOf_le_zero, Passage.andThen_nil]
    rfl
  · split
    · rename_i honce
      obtain ⟨rfl, rfl⟩ := honce
      rw [Passage.timesOf_limited, Passage.timesOf_le_zero, Passage.andThen_nil,
        Passage.times_one]
    · rfl

theorem tidy_times {e : Expression} (he : e.Tidy) (min : Nat) (max : Option Nat)
    (greedy : Bool) : (e.times min max greedy).Tidy := by
  unfold times
  generalize (if e.isWidthless then Nat.min min 1 else min) = least
  generalize (if e.isWidthless then some (Nat.min (max.getD 1) 1) else max) = most
  simp only
  split
  · trivial
  · split
    · exact he
    · exact he

end Expression

end Stepwise.Regex
