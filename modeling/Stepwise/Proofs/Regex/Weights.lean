import Stepwise.Proofs.Regex.Footprints
import Stepwise.Proofs.Regex.NormalForm
import Stepwise.Proofs.Regex.Spelling

/-!
# The weights of trees

Expressions are put together in a normal form, which changes what they take by little. Main
statement: what is spelled fits into a limit that is not below the bytes that its trees take
together, and it does not fit into one that is below the least of them.
-/

namespace Stepwise.Regex

/-- The characters other than a quote take few bytes. -/
theorem CharSet.bytes_compl_single {quote : Char} (hquote : quote = '"' ∨ quote = '\'') :
    leastBytes false (Unicode.Ranges.compl (single quote)) = 1000 ∧
      mostBytes false (Unicode.Ranges.compl (single quote)) = 1224 := by
  rcases hquote with rfl | rfl
  · decide +kernel
  · decide +kernel

namespace Expression

theorem spelled_append (cs ds : List Char) : spelled (cs ++ ds) = spelled cs ++ spelled ds :=
  List.flatMap_append

theorem mostBytes_followedBy_le (e next : Expression) :
    (e.followedBy next).mostBytes ≤ e.mostBytes + next.mostBytes := by
  fun_induction followedBy e next with
  | case1 next => exact Nat.le_add_left _ _
  | case2 left right next ih =>
      rw [mostBytes, mostBytes]
      omega
  | case3 e => exact Nat.le_add_right _ _
  | case4 cs ds =>
      simp only [mostBytes, spelled_append, List.length_append, Nat.add_mul]
      omega
  | case5 cs ds rest =>
      simp only [mostBytes, spelled_append, List.length_append, Nat.add_mul]
      omega
  | case6 e next => exact Nat.le_refl _

theorem leastBytes_followedBy (e next : Expression) :
    (e.followedBy next).leastBytes = e.leastBytes + next.leastBytes := by
  fun_induction followedBy e next with
  | case1 next => rw [leastBytes, Nat.zero_add]
  | case2 left right next ih => rw [leastBytes, leastBytes, ih, Nat.add_assoc]
  | case3 e => rfl
  | case4 cs ds => simp only [leastBytes, spelled_append, List.length_append, Nat.add_mul]
  | case5 cs ds rest =>
      simp only [leastBytes, spelled_append, List.length_append, Nat.add_mul, Nat.add_assoc]
  | case6 e next => rfl

/-- The bytes that a character of a literal takes at most. -/
def characterBytes : Nat :=
  4 * octetBytes

theorem mostBytes_literal_le (cs : List Char) :
    (literal cs).mostBytes ≤ cs.length * characterBytes + linkBytes := by
  have hlength : (spelled cs).length ≤ cs.length * 4 := by
    induction cs with
    | nil => exact Nat.le_refl 0
    | cons c cs ih =>
        have hc : (Regex.octets c.toNat).length ≤ 4 := by
          rw [Regex.octets, List.length_map, String.length_utf8EncodeChar]
          exact Char.utf8Size_le_four _
        rw [spelled, List.flatMap_cons, List.length_append, List.length_cons, Nat.succ_mul]
        exact Nat.le_trans (Nat.add_le_add hc ih) (Nat.le_of_eq (Nat.add_comm _ _))
  rw [mostBytes, characterBytes, ← Nat.mul_assoc]
  exact Nat.add_le_add_right (Nat.mul_le_mul_right _ hlength) _

/-- A set of one character is a literal. -/
theorem mostBytes_ofSet_le (octets : Bool) (s : CharSet) :
    (ofSet octets s).mostBytes ≤ max (s.mostBytes octets) characterBytes + linkBytes := by
  unfold ofSet
  split
  · exact Nat.add_le_add_right (Nat.le_trans (by decide) (Nat.le_max_right _ characterBytes)) _
  · split
    · refine Nat.le_trans (mostBytes_literal_le _) (Nat.add_le_add_right ?_ _)
      rw [List.length_singleton, Nat.one_mul]
      exact Nat.le_max_right _ _
    · exact Nat.add_le_add_right (Nat.le_max_left _ _) _
  · exact Nat.add_le_add_right (Nat.le_max_left _ _) _

theorem eq_singleton_of_character? {cs : List Char} {c : Char}
    (h : (literal cs).character? = some c) : cs = [c] := by
  unfold character? at h
  split at h
  · rename_i d heq
    rw [literal.inj heq, Option.some.inj h]
  · exact absurd h (by simp)

theorem eq_arranged_of_union? {left right : List Char} {s : CharSet}
    (h : union? [literal left, literal right] = some s) :
    ∃ c d, left = [c] ∧ right = [d] ∧
      s = .arranged [(c.toNat, c.toNat), (d.toNat, d.toNat)] := by
  have hsets : [literal left, literal right].mapM set? = none := rfl
  rw [union?, hsets, Option.map_none, Option.or_none] at h
  obtain ⟨cs, hcs, rfl⟩ := Option.map_eq_some_iff.mp h
  rw [List.mapM_cons, List.mapM_cons, List.mapM_nil] at hcs
  obtain ⟨c, hc, hcs⟩ := Option.bind_eq_some_iff.mp hcs
  obtain ⟨ds, hds, hcs⟩ := Option.bind_eq_some_iff.mp hcs
  obtain ⟨d, hd, hds⟩ := Option.bind_eq_some_iff.mp hds
  obtain rfl : [d] = ds := Option.some.inj hds
  obtain rfl : [c, d] = cs := Option.some.inj hcs
  exact ⟨c, d, eq_singleton_of_character? hc, eq_singleton_of_character? hd, rfl⟩

/-- A choice between two words takes little more than the words, also if it comes to a set. -/
theorem mostBytes_choice_le {left right : List Char} :
    (choice [literal left, literal right]).mostBytes ≤
      (left.length + right.length) * characterBytes + (2 * linkBytes + choiceBytes) := by
  have hchoice : choice [literal left, literal right] = choose [literal left, literal right] := rfl
  rw [hchoice, choose, Nat.add_mul]
  split
  · rename_i s hs
    obtain ⟨c, d, rfl, rfl, rfl⟩ := eq_arranged_of_union? hs
    have hset : CharSet.mostBytes false (.arranged [(c.toNat, c.toNat), (d.toNat, d.toNat)]) ≤
        2 * stateBytes + codePoints [(c.toNat, c.toNat), (d.toNat, d.toNat)] * sequenceBytes :=
      mostBytes_arranged_le (by simp) false
    have hpoints : codePoints [(c.toNat, c.toNat), (d.toNat, d.toNat)] = 2 := by
      simp [codePoints]
    rw [hpoints] at hset
    refine Nat.le_trans (mostBytes_ofSet_le false _) ?_
    have hmax := Nat.max_le.mpr ⟨hset, show characterBytes ≤ 2 * stateBytes + 2 * sequenceBytes by
      decide⟩
    refine Nat.le_trans (Nat.add_le_add_right hmax _) ?_
    rw [List.length_singleton, List.length_singleton]
    decide
  · have hl := mostBytes_literal_le left
    have hr := mostBytes_literal_le right
    change (alt (literal left) (literal right)).mostBytes ≤ _
    rw [mostBytes]
    omega

end Expression

namespace Tree

variable {t : Tree} {ts us : List Tree} {least most least' most' : Nat}

/-- A tree takes numbers of bytes at least and at most, without any flags. -/
def Weighs (t : Tree) (least most : Nat) : Prop :=
  ∃ e : Expression, t.resolve {} = .ok ([e], {}) ∧ least ≤ e.leastBytes ∧ e.mostBytes ≤ most

/-- Trees one behind the other take numbers of bytes at least and at most. -/
def WeighInOrder (ts : List Tree) (least most : Nat) : Prop :=
  ∃ es : List Expression, List.Forall₂ (fun t e => t.resolve {} = .ok ([e], {})) ts es ∧
    least ≤ (es.map Expression.leastBytes).sum ∧ (es.map Expression.mostBytes).sum ≤ most

theorem weighs_anchor (a : Anchor) : (Tree.anchor a).Weighs 0 (stateBytes + linkBytes) :=
  ⟨_, rfl, Nat.zero_le _, Nat.le_refl _⟩

theorem weighInOrder_nil : WeighInOrder [] 0 0 :=
  ⟨[], .nil, Nat.le_refl 0, Nat.le_refl 0⟩

theorem Weighs.inOrder (h : t.Weighs least most) : WeighInOrder [t] least most := by
  obtain ⟨e, he, hleast, hmost⟩ := h
  exact ⟨[e], .cons he .nil, by simpa using hleast, by simpa using hmost⟩

theorem WeighInOrder.append (h : WeighInOrder ts least most) (hus : WeighInOrder us least' most') :
    WeighInOrder (ts ++ us) (least + least') (most + most') := by
  obtain ⟨es, hes, hleast, hmost⟩ := h
  obtain ⟨fs, hfs, hleast', hmost'⟩ := hus
  refine ⟨es ++ fs, List.rel_append hes hfs, ?_, ?_⟩
  · rw [List.map_append, List.sum_append]
    exact Nat.add_le_add hleast hleast'
  · rw [List.map_append, List.sum_append]
    exact Nat.add_le_add hmost hmost'

theorem WeighInOrder.mono (h : WeighInOrder ts least most) (hmost : most ≤ most') :
    WeighInOrder ts least most' := by
  obtain ⟨es, hes, hleast, hle⟩ := h
  exact ⟨es, hes, hleast, Nat.le_trans hle hmost⟩

theorem resolve_cat {s : Tree} {e f : Expression} (ht : t.resolve {} = .ok ([e], {}))
    (hs : s.resolve {} = .ok ([f], {})) :
    (Tree.cat t s).resolve {} = .ok ([e.followedBy f], {}) := by
  simp only [resolve, ht, hs, pure, bind, Except.bind, Except.pure, Expression.choice]

theorem resolve_sequence {es : List Expression}
    (h : List.Forall₂ (fun t e => t.resolve {} = .ok ([e], {})) ts es) :
    ∃ e : Expression, (sequence ts).resolve {} = .ok ([e], {}) ∧
      e.leastBytes = (es.map Expression.leastBytes).sum ∧
      e.mostBytes ≤ (es.map Expression.mostBytes).sum + (stateBytes + linkBytes) := by
  induction h with
  | nil => exact ⟨.empty, rfl, rfl, Nat.le_refl _⟩
  | @cons t e ts es ht hts ih =>
      obtain ⟨f, hf, hleast, hmost⟩ := ih
      cases hts with
      | nil => exact ⟨e, ht, rfl, Nat.le_add_right _ _⟩
      | cons hs hss =>
          have hbytes := Expression.mostBytes_followedBy_le e f
          refine ⟨e.followedBy f, resolve_cat ht hf, ?_, ?_⟩
          · rw [Expression.leastBytes_followedBy, hleast]
            rfl
          · rw [List.map_cons, List.sum_cons]
            omega

/-- A sequence takes what its trees take, and no more than a state besides. -/
theorem WeighInOrder.sequence (h : WeighInOrder ts least most) :
    (sequence ts).Weighs least (most + (stateBytes + linkBytes)) := by
  obtain ⟨es, hes, hleast, hmost⟩ := h
  obtain ⟨e, he, hleast', hmost'⟩ := resolve_sequence hes
  exact ⟨e, he, by omega, by omega⟩

/-- A part that is repeated at least once or not at all takes what it takes once. -/
theorem weighs_capturedRun {s : CharSet} (ht : t.resolve {} = .ok ([.set false s], {}))
    {min : Nat} (hmin : min ≤ 1) (index : Nat) :
    (Tree.capture index (.repeated t min none true)).Weighs 0
      (s.mostBytes false + (6 * stateBytes + 9 * linkBytes)) := by
  have hresolve : (Tree.capture index (.repeated t min none true)).resolve {} =
      .ok ([.group index (.repeated min none true (.set false s))], {}) := by
    have htimes : (Expression.set false s).times min none true =
        .repeated min none true (.set false s) := by
      simp [Expression.times, Expression.isWidthless]
    simp only [resolve, ht, pure, bind, Except.bind, Except.pure, Expression.choice, ← htimes]
    rfl
  refine ⟨_, hresolve, Nat.zero_le _, ?_⟩
  rw [Expression.mostBytes, Expression.mostBytes, Expression.mostBytes, mostTimes,
    Nat.max_eq_right hmin, Nat.one_mul, repeatBytes]
  omega

/-! Trees of characters. -/

theorem resolve_literal (c : Char) :
    (Tree.literal ⟨c, false⟩).resolve {} = .ok ([.literal [c]], {}) := by
  have hset : Expression.ofSet false (CharSet.single c) = .literal [c] := by
    simp [Expression.ofSet, CharSet.single]
  rw [← hset]
  rfl

theorem resolve_sequence_plainTrees {cs : List Char} (hne : cs ≠ []) :
    (sequence (plainTrees cs)).resolve {} = .ok ([.literal cs], {}) := by
  induction cs with
  | nil => exact absurd rfl hne
  | cons c cs ih =>
      cases cs with
      | nil => exact resolve_literal c
      | cons d cs => exact resolve_cat (resolve_literal c) (ih (List.cons_ne_nil d cs))

theorem weighInOrder_plainTrees (cs : List Char) :
    WeighInOrder (plainTrees cs) 0 (cs.length * (Expression.characterBytes + linkBytes)) := by
  induction cs with
  | nil => exact weighInOrder_nil
  | cons c cs ih =>
      have hmost := Expression.mostBytes_literal_le [c]
      rw [List.length_singleton, Nat.one_mul] at hmost
      have hfirst : (Tree.literal ⟨c, false⟩).Weighs 0 (Expression.characterBytes + linkBytes) :=
        ⟨_, resolve_literal c, Nat.zero_le _, hmost⟩
      rw [List.length_cons, Nat.succ_mul]
      exact (hfirst.inOrder.append ih).mono (by omega)

end Tree

variable {source : List Char} {names : List (Option String)} {ts : List Tree}
  {least most : Nat}

/-- An expression compiles within the bytes that it takes at most. -/
theorem compile_of_mostBytes_le (source : List Char) (limit : Nat)
    (h : ((parse source).bind fun (t, _) => t.expression).toOption.any
      (·.mostBytes + Expression.aroundBytes ≤ limit) = true) :
    ∃ regex, compile (some limit) source = .ok regex := by
  cases hparse : parse source with
  | error fault =>
      rw [hparse] at h
      exact absurd h Bool.false_ne_true
  | ok parsed =>
      obtain ⟨t, names⟩ := parsed
      rw [hparse] at h
      cases he : t.expression with
      | error fault =>
          simp [Except.bind, he, Except.toOption] at h
      | ok e =>
          have hcompile := compile_eq hparse he (some limit)
          have hmost : e.mostBytes + Expression.aroundBytes ≤ limit := by
            simpa [Except.bind, he, Except.toOption] using h
          rw [Option.all_some, Expression.fitsInto_of_mostBytes_le hmost, if_pos rfl] at hcompile
          exact ⟨_, hcompile⟩

/-- What is spelled compiles within the bytes that its trees take at most, and does not compile
within less than they take at least. -/
theorem Spells.compile_of_weighInOrder (h : Spells source 0 names ts) (hnames : Distinct names)
    (hdepth : ∀ t ∈ ts, t.depth .none < depthLimit) (hweigh : Tree.WeighInOrder ts least most)
    (limit : Nat) :
    (most + (stateBytes + linkBytes) + Expression.aroundBytes ≤ limit →
      ∃ regex, compile (some limit) source = .ok regex) ∧
      (limit < least → compile (some limit) source = .error .tooLarge) := by
  obtain ⟨e, he, hleast, hmost⟩ := hweigh.sequence
  have hcompile := h.compile_eq hnames hdepth he (some limit)
  rw [Option.all_some, Expression.choice] at hcompile
  constructor
  · intro hlimit
    rw [Expression.fitsInto_of_mostBytes_le (by omega), if_pos rfl] at hcompile
    exact ⟨_, hcompile⟩
  · intro hlimit
    have hfits : e.fitsInto limit = false := by
      by_contra hfits
      have hle := Expression.leastBytes_le_of_fitsInto (Bool.eq_true_of_not_eq_false hfits)
      omega
    rw [hfits] at hcompile
    exact hcompile

end Stepwise.Regex
