import Stepwise.Proofs.Step.Recognition

/-!
# The pieces of a step text are the only ones

Main statement: what its literals must be like leaves only one way to part a text into pieces.
-/

namespace Stepwise.Step

variable {text : List Char} {ps qs : List Piece} {p q : Piece} {s t : Span} {start : Nat}

theorem start_le_of_mem_spansFrom (hs : s ∈ spansFrom start ps) : start ≤ s.start := by
  induction ps generalizing start with
  | nil => exact absurd hs List.not_mem_nil
  | cons p ps ih =>
      cases p with
      | text chars => exact (Nat.le_add_right _ _).trans (ih hs)
      | literal kind chars =>
          rcases List.mem_cons.mp hs with rfl | hs
          · exact Nat.le_refl start
          · exact (Nat.le_add_right _ _).trans (ih hs)

theorem stop_le_of_mem_spansFrom (hs : s ∈ spansFrom start ps) :
    s.stop ≤ start + (ps.flatMap Piece.chars).length := by
  induction ps generalizing start with
  | nil => exact absurd hs List.not_mem_nil
  | cons p ps ih =>
      rw [List.flatMap_cons, List.length_append, ← Nat.add_assoc]
      cases p with
      | text chars => exact ih hs
      | literal other chars =>
          rcases List.mem_cons.mp hs with rfl | hs
          · exact Nat.le_add_right _ _
          · exact ih hs

/-- Two literals of a text share no place. -/
theorem eq_of_overlaps (hs : s ∈ spansFrom start ps) (ht : t ∈ spansFrom start ps)
    (hover : s.Overlaps t) : s = t := by
  induction ps generalizing start with
  | nil => exact absurd hs List.not_mem_nil
  | cons p ps ih =>
      cases p with
      | text chars => exact ih hs ht
      | literal kind chars =>
          rcases List.mem_cons.mp hs with rfl | hs
          · rcases List.mem_cons.mp ht with rfl | ht
            · rfl
            · exact absurd hover.2 (Nat.not_lt_of_le (start_le_of_mem_spansFrom ht))
          · rcases List.mem_cons.mp ht with rfl | ht
            · exact absurd hover.1 (Nat.not_lt_of_le (start_le_of_mem_spansFrom hs))
            · exact ih hs ht

/-- A literal that is recognized in one way is recognized in every way: otherwise the one that
goes into it precedes it, and is recognized in both ways itself. -/
theorem Recognized.mem_of_mem {ps qs : List Piece} {s : Span} (hp : Recognized 3 text ps)
    (hq : Recognized 3 text qs) (hs : s ∈ spansFrom 0 ps) : s ∈ spansFrom 0 qs := by
  obtain hfound | ⟨t, ht, hover, hbefore⟩ :=
    hq.complete s (hp.sound s hs).1 s.kind.turn_lt
  · exact hfound
  · have hsame : t ∈ spansFrom 0 ps := hq.mem_of_mem hp ht
    rw [eq_of_overlaps hsame hs hover, Span.Precedes] at hbefore
    omega
termination_by (s.kind.turn, s.start)
decreasing_by
  rcases hbefore with hturn | ⟨hkind, hleft⟩
  · exact Prod.Lex.left _ _ hturn
  · rw [hkind]
    exact Prod.Lex.right _ hleft

/-- The literals behind a piece are those that do not start with it. -/
theorem mem_spansFrom_cons (hne : p.chars ≠ []) :
    s ∈ spansFrom (start + p.chars.length) ps ↔
      s ∈ spansFrom start (p :: ps) ∧ s.start ≠ start := by
  have hpos : 0 < p.chars.length := List.length_pos_iff.mpr hne
  have hbehind (hs : s ∈ spansFrom (start + p.chars.length) ps) : s.start ≠ start := by
    have hle := start_le_of_mem_spansFrom hs
    omega
  cases p with
  | text chars => exact ⟨fun hs => ⟨hs, hbehind hs⟩, And.left⟩
  | literal kind chars =>
      refine ⟨fun hs => ⟨List.mem_cons_of_mem _ hs, hbehind hs⟩, ?_⟩
      rintro ⟨hs, hstart⟩
      rcases List.mem_cons.mp hs with rfl | hs
      · exact absurd rfl hstart
      · exact hs

/-- The text in front of the first literal is the same for pieces with the same literals. -/
theorem length_le_of_spansFrom {chars others : List Char} (hparted : Parted (.text chars :: ps))
    (hchars : chars ++ ps.flatMap Piece.chars = others ++ qs.flatMap Piece.chars)
    (hspans : ∀ s ∈ spansFrom start (.text chars :: ps), s ∈ spansFrom start (.text others :: qs)) :
    others.length ≤ chars.length := by
  cases ps with
  | nil =>
      have hlength := congrArg List.length hchars
      simp only [List.flatMap_nil, List.append_nil, List.length_append] at hlength
      omega
  | cons p ps =>
      have hp := (parted_text_cons.mp hparted).1 p rfl
      cases p with
      | text following => exact absurd hp Bool.false_ne_true
      | literal kind following =>
          have hmem := hspans ⟨kind, start + chars.length, following⟩ List.mem_cons_self
          have hle := @start_le_of_mem_spansFrom qs _ (start + others.length) hmem
          exact Nat.le_of_add_le_add_left hle

/-- A literal that starts with a piece is this piece. -/
theorem eq_literal_of_mem_spansFrom {kind : LiteralKind} {chars : List Char} (hne : q.chars ≠ [])
    (h : ⟨kind, start, chars⟩ ∈ spansFrom start (q :: qs)) : q = .literal kind chars := by
  have hrest : ⟨kind, start, chars⟩ ∉ spansFrom (start + q.chars.length) qs :=
    fun hmem => ((mem_spansFrom_cons hne).mp hmem).2 rfl
  cases q with
  | text others => exact absurd h hrest
  | literal other others =>
      rcases List.mem_cons.mp h with heq | h
      · obtain ⟨rfl, -, rfl⟩ := Span.mk.inj heq
        rfl
      · exact absurd h hrest

theorem head_eq_of_spansFrom (hp : Parted (p :: ps)) (hq : Parted (q :: qs)) (hpne : p.chars ≠ [])
    (hqne : q.chars ≠ [])
    (hchars : (p :: ps).flatMap Piece.chars = (q :: qs).flatMap Piece.chars)
    (hspans : ∀ s, s ∈ spansFrom start (p :: ps) ↔ s ∈ spansFrom start (q :: qs)) : p = q := by
  cases p with
  | literal kind chars =>
      exact (eq_literal_of_mem_spansFrom hqne ((hspans _).mp List.mem_cons_self)).symm
  | text chars =>
      cases q with
      | literal kind others =>
          exact eq_literal_of_mem_spansFrom hpne ((hspans _).mpr List.mem_cons_self)
      | text others =>
          have hle := length_le_of_spansFrom hp hchars fun s => (hspans s).mp
          have hge := length_le_of_spansFrom hq hchars.symm fun s => (hspans s).mpr
          have hsame : chars = others := (List.append_inj hchars (Nat.le_antisymm hge hle)).1
          rw [hsame]

/-- Pieces that have the same text and the same literals are the same. -/
theorem eq_of_spansFrom (hp : Parted ps) (hq : Parted qs) (hps : ∀ p ∈ ps, p.chars ≠ [])
    (hqs : ∀ q ∈ qs, q.chars ≠ []) (hchars : ps.flatMap Piece.chars = qs.flatMap Piece.chars)
    (hspans : ∀ s, s ∈ spansFrom start ps ↔ s ∈ spansFrom start qs) : ps = qs := by
  induction ps generalizing qs start with
  | nil =>
      cases qs with
      | nil => rfl
      | cons q qs => exact absurd hchars.symm (by simp [hqs q List.mem_cons_self])
  | cons p ps ih =>
      cases qs with
      | nil => exact absurd hchars (by simp [hps p List.mem_cons_self])
      | cons q qs =>
          obtain ⟨hpne, hpsne⟩ := List.forall_mem_cons.mp hps
          obtain ⟨hqne, hqsne⟩ := List.forall_mem_cons.mp hqs
          have hparted : Parted ps ∧ Parted qs := ⟨hp.tail, hq.tail⟩
          obtain rfl := head_eq_of_spansFrom hp hq hpne hqne hchars hspans
          have hrest (s : Span) : s ∈ spansFrom (start + p.chars.length) ps ↔
              s ∈ spansFrom (start + p.chars.length) qs := by
            rw [mem_spansFrom_cons hpne, mem_spansFrom_cons hpne, hspans]
          rw [ih hparted.1 hparted.2 hpsne hqsne (List.append_cancel_left hchars) hrest]

/-- The pieces of a text are the only ones whose literals are recognized. -/
theorem Recognized.eq_pieces (h : Recognized 3 text ps) (hne : ∀ p ∈ ps, p.chars ≠ []) :
    ps = pieces text := by
  have hpieces := recognized_pieces text
  exact eq_of_spansFrom h.parted hpieces.parted hne (ne_nil_of_mem_pieces text)
    (h.chars.trans hpieces.chars.symm) fun _ => ⟨h.mem_of_mem hpieces, hpieces.mem_of_mem h⟩

end Stepwise.Step
