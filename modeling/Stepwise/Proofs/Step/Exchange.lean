import Stepwise.Proofs.Step.Uniqueness

/-!
# Literals exchanged for others

Where the spans of a text are after one of its literals was exchanged for another one. Main
statement: what is recognized in the text stays the same, but for this literal.
-/

namespace Stepwise.Step

variable {kind : LiteralKind} {front chars others back text : List Char} {s t : Span}

/-! Neighbours of a span. -/

/-- Two neighbours are the same to every span: both end a literal or none does, and both or none
go on with a run of digits. -/
def AlikeNeighbours (c d : Option Char) : Prop :=
  isBoundary c = isBoundary d ∧ c.any Char.isDigit = d.any Char.isDigit

theorem AlikeNeighbours.refl (c : Option Char) : AlikeNeighbours c c :=
  ⟨rfl, rfl⟩

theorem AlikeNeighbours.symm {c d : Option Char} (h : AlikeNeighbours c d) : AlikeNeighbours d c :=
  ⟨h.1.symm, h.2.symm⟩

/-- What fits somewhere fits between all neighbours that are alike. -/
theorem LiteralKind.Fits.congr {front' back' : List Char} (h : kind.Fits front chars back)
    (hfront : AlikeNeighbours front.getLast? front'.getLast?)
    (hback : AlikeNeighbours back.head? back'.head?) : kind.Fits front' chars back' := by
  cases kind with
  | doubleQuoted => exact ⟨h.1, hfront.1 ▸ h.2.1, hback.1 ▸ h.2.2⟩
  | singleQuoted => exact ⟨h.1, hfront.1 ▸ h.2.1, hback.1 ▸ h.2.2⟩
  | integer =>
      obtain ⟨hne, hdigits, hbefore, hbehind, hboundary⟩ := h
      exact ⟨hne, hdigits, hfront.2 ▸ hbefore, hback.2 ▸ hbehind, hfront.1 ▸ hboundary⟩

/-- Two parts of a text look the same from outside. -/
structure AlikeOutside (chars others : List Char) : Prop where
  ne_nil : chars ≠ []
  others_ne_nil : others ≠ []
  head? : AlikeNeighbours chars.head? others.head?
  getLast? : AlikeNeighbours chars.getLast? others.getLast?

theorem AlikeOutside.symm (h : AlikeOutside chars others) : AlikeOutside others chars :=
  ⟨h.others_ne_nil, h.ne_nil, h.head?.symm, h.getLast?.symm⟩

theorem AlikeOutside.head?_append (h : AlikeOutside chars others) (rest back : List Char) :
    AlikeNeighbours (rest ++ (chars ++ back)).head? (rest ++ (others ++ back)).head? := by
  cases rest with
  | nil =>
      rw [List.nil_append, List.nil_append, List.head?_append_of_ne_nil _ h.ne_nil,
        List.head?_append_of_ne_nil _ h.others_ne_nil]
      exact h.head?
  | cons c rest => exact .refl _

theorem AlikeOutside.getLast?_append (h : AlikeOutside chars others) (front rest : List Char) :
    AlikeNeighbours (front ++ chars ++ rest).getLast? (front ++ others ++ rest).getLast? := by
  by_cases hrest : rest = []
  · rw [hrest, List.append_nil, List.append_nil, List.getLast?_append_of_ne_nil _ h.ne_nil,
      List.getLast?_append_of_ne_nil _ h.others_ne_nil]
    exact h.getLast?
  · rw [List.getLast?_append_of_ne_nil _ hrest, List.getLast?_append_of_ne_nil _ hrest]
    exact .refl _

/-- A span in front of a part of the text that is exchanged is one before and after. -/
theorem Span.IsIn.exchange_behind (h : s.IsIn (front ++ (chars ++ back)))
    (hstop : s.stop ≤ front.length) (halike : AlikeOutside chars others) :
    s.IsIn (front ++ (others ++ back)) := by
  obtain ⟨before, behind, htext, hlength, hfits⟩ := h
  rw [← List.append_assoc before] at htext
  obtain ⟨rest, rfl⟩ : before ++ s.chars <+: front := by
    refine List.prefix_of_prefix_length_le ⟨behind, htext.symm⟩ ⟨chars ++ back, rfl⟩ ?_
    rw [List.length_append, hlength]
    exact hstop
  rw [List.append_assoc, List.append_cancel_left_eq] at htext
  refine ⟨before, rest ++ (others ++ back), ?_, hlength, ?_⟩
  · simp only [List.append_assoc]
  · rw [← htext] at hfits
    exact hfits.congr (.refl _) (halike.head?_append rest back)

/-- A span behind a part of the text that is exchanged is moved. -/
theorem Span.IsIn.exchange_before {n : Nat} {cs : List Char}
    (h : Span.IsIn (front ++ (chars ++ back)) ⟨kind, front.length + chars.length + n, cs⟩)
    (halike : AlikeOutside chars others) :
    Span.IsIn (front ++ (others ++ back)) ⟨kind, front.length + others.length + n, cs⟩ := by
  obtain ⟨before, behind, htext, hlength, hfits⟩ := h
  rw [← List.append_assoc front] at htext
  obtain ⟨rest, rfl⟩ : front ++ chars <+: before := by
    refine List.prefix_of_prefix_length_le ⟨back, rfl⟩ ⟨cs ++ behind, htext.symm⟩ ?_
    rw [List.length_append, hlength]
    exact Nat.le_add_right _ n
  rw [List.append_assoc (front ++ chars), List.append_cancel_left_eq] at htext
  simp only [List.length_append] at hlength
  refine ⟨front ++ others ++ rest, behind, ?_, ?_, ?_⟩
  · simp only [htext, List.append_assoc]
  · simp only [List.length_append]
    omega
  · exact hfits.congr (halike.getLast?_append front rest) (.refl _)

/-! Spans that go around a part of the text. -/

theorem mem_of_getElem?_middle {i : Nat} {c : Char} (h : (front ++ (chars ++ back))[i]? = some c)
    (hfrom : front.length ≤ i) (hto : i < front.length + chars.length) : c ∈ chars := by
  rw [List.getElem?_append_right hfrom, List.getElem?_append_left (by omega)] at h
  exact List.mem_of_getElem? h

theorem getElem?_append_length (front back : List Char) :
    (front ++ back)[front.length]? = back.head? := by
  rw [List.getElem?_append_right (Nat.le_refl _), Nat.sub_self, List.head?_eq_getElem?]

theorem LiteralKind.fits_iff_isQuotedSpan {quote : Char} (hquote : kind.quotes = [quote]) :
    kind.Fits front chars back ↔ IsQuotedSpan quote front chars back := by
  cases kind with
  | doubleQuoted => rw [← List.singleton_inj.mp hquote, Fits]
  | singleQuoted => rw [← List.singleton_inj.mp hquote, Fits]
  | integer => exact absurd hquote (by simp [quotes])

/-- A quoted span begins and ends with its quote, has none in between, and stands before white
space or the end of the text. -/
theorem Span.IsIn.getElem?_quotes {quote : Char} (h : s.IsIn text)
    (hquote : s.kind.quotes = [quote]) :
    s.start + 1 < s.stop ∧ text[s.start]? = some quote ∧ text[s.stop - 1]? = some quote ∧
      (∀ i, s.start < i → i + 1 < s.stop → text[i]? ≠ some quote) ∧
      isBoundary text[s.stop]? = true := by
  obtain ⟨before, behind, rfl, hlength, hfits⟩ := h
  obtain ⟨⟨value, -, hvalue, hchars⟩, -, hbehind⟩ :=
    (LiteralKind.fits_iff_isQuotedSpan hquote).mp hfits
  have hstop : s.stop = before.length + (value.length + 2) := by
    rw [Span.stop, hchars, ← hlength]
    simp
  have hopening : before ++ (s.chars ++ behind) =
      before ++ quote :: (value ++ quote :: behind) := by
    simp [hchars]
  have hclosing : before ++ (s.chars ++ behind) =
      (before ++ quote :: value) ++ quote :: behind := by
    simp [hchars]
  refine ⟨by omega, ?_, ?_, ?_, ?_⟩
  · rw [hopening, ← hlength, getElem?_append_length]
    rfl
  · have hplace : s.stop - 1 = (before ++ quote :: value).length := by
      simp only [List.length_append, List.length_cons]
      omega
    rw [hclosing, hplace, getElem?_append_length]
    rfl
  · intro i hfrom hto hquoted
    rw [hopening, List.append_cons] at hquoted
    refine hvalue (mem_of_getElem?_middle hquoted ?_ ?_)
    · simp only [List.length_append, List.length_singleton]
      omega
    · simp only [List.length_append, List.length_singleton]
      omega
  · have hplace : s.stop = (before ++ s.chars).length := by
      rw [List.length_append, hlength, Span.stop]
    rw [← List.append_assoc, hplace, getElem?_append_length]
    exact hbehind

/-- Where a span moves to if a part of the text that begins at `place` and has `n` characters gets
`m` of them: it stays in front of that part, or keeps its distance behind it. -/
def MovesTo (place n m x y : Nat) : Prop :=
  x ≤ place ∧ y = x ∨ place + n ≤ x ∧ y + n = x + m

/-- Whether a span is moved to another one by such an exchange. -/
structure Span.Moves (place n m : Nat) (s t : Span) : Prop where
  kind : t.kind = s.kind
  start : MovesTo place n m s.start t.start
  stop : MovesTo place n m s.stop t.stop

theorem MovesTo.lt_iff {place n m x y x' y' : Nat} (h : MovesTo place n m x y)
    (h' : MovesTo place n m x' y') (hn : 0 < n) (hm : 0 < m) : x < x' ↔ y < y' := by
  rw [MovesTo] at h h'
  omega

theorem MovesTo.unique {place n m x y y' : Nat} (h : MovesTo place n m x y)
    (h' : MovesTo place n m x y') (hn : 0 < n) : y = y' := by
  rw [MovesTo] at h h'
  omega

/-- Spans that are moved go into each other as before. -/
theorem Span.Moves.overlaps {place n m : Nat} {s t s' t' : Span} (h : s.Moves place n m t)
    (h' : s'.Moves place n m t') (hn : 0 < n) (hm : 0 < m) (hover : s.Overlaps s') :
    t.Overlaps t' :=
  ⟨(h.start.lt_iff h'.stop hn hm).mp hover.1, (h'.start.lt_iff h.stop hn hm).mp hover.2⟩

theorem Span.Moves.precedes {place n m : Nat} {s t s' t' : Span} (h : s.Moves place n m t)
    (h' : s'.Moves place n m t') (hn : 0 < n) (hm : 0 < m) (hbefore : s.Precedes s') :
    t.Precedes t' := by
  rw [Span.Precedes, h.kind, h'.kind, ← h.start.lt_iff h'.start hn hm]
  exact hbefore

/-- A quoted span around a part of the text that has no such quote is one after the exchange. -/
theorem Span.IsIn.exchange_inside {quote : Char} (h : s.IsIn (front ++ (chars ++ back)))
    (hquote : s.kind.quotes = [quote]) (hothers : quote ∉ others) (hne : others ≠ [])
    (hstart : s.start < front.length) (hstop : front.length + chars.length < s.stop) :
    ∃ t : Span, t.IsIn (front ++ (others ++ back)) ∧ t.kind = s.kind ∧ t.start = s.start ∧
      t.stop + chars.length = s.stop + others.length := by
  obtain ⟨before, behind, htext, hlength, hfits⟩ := h
  obtain ⟨⟨value, -, hvalue, hchars⟩, hbefore, hbehind⟩ :=
    (LiteralKind.fits_iff_isQuotedSpan hquote).mp hfits
  obtain ⟨rest, rfl⟩ : before <+: front :=
    List.prefix_of_prefix_length_le ⟨_, htext.symm⟩ ⟨_, rfl⟩ (by omega)
  rw [List.append_assoc, List.append_cancel_left_eq, hchars] at htext
  rw [List.length_append] at hstart hstop
  -- The span starts in front of the part, so its opening quote is not in the part.
  cases rest with
  | nil =>
      simp only [List.length_nil] at hstart
      omega
  | cons c rest =>
      obtain ⟨rfl, hrest⟩ := List.cons.inj htext
      have htext : rest ++ chars ++ back = value ++ ([c] ++ behind) := by
        rw [List.append_assoc, ← List.append_assoc value]
        exact hrest
      rw [Span.stop, hchars] at hstop
      simp only [List.length_cons, List.length_append, List.length_nil] at hstop
      obtain ⟨after, rfl⟩ : rest ++ chars <+: value := by
        refine List.prefix_of_prefix_length_le ⟨_, htext⟩ ⟨_, rfl⟩ ?_
        rw [List.length_append]
        omega
      rw [List.append_assoc (rest ++ chars), List.append_cancel_left_eq] at htext
      refine ⟨⟨s.kind, s.start, c :: (rest ++ others ++ after ++ [c])⟩, ?_, rfl, rfl, ?_⟩
      · refine ⟨before, behind, ?_, hlength, ?_⟩
        · simp [htext]
        · refine (LiteralKind.fits_iff_isQuotedSpan hquote).mpr ⟨⟨_, ?_, ?_, rfl⟩, hbefore, hbehind⟩
          · simp [hne]
          · simp only [List.mem_append, not_or] at hvalue ⊢
            exact ⟨⟨hvalue.1.1, hothers⟩, hvalue.2⟩
      · simp only [Span.stop, hchars, List.length_cons, List.length_append, List.length_nil]
        omega

/-- Spans of one kind that start at the same place are the same. -/
theorem Span.IsIn.eq_of_start (hs : s.IsIn text) (ht : t.IsIn text) (hkind : s.kind = t.kind)
    (hstart : s.start = t.start) : s = t := by
  obtain ⟨before, behind, rfl, hlength, -⟩ := id hs
  have hsegment {r : Span} (hr : r.IsIn (before ++ (s.chars ++ behind)))
      (hfrom : r.start = before.length) :
      ∃ after, r.kind.takeBounded? before.getLast? none (s.chars ++ behind) =
        some (r.chars, after) := by
    have hstop := hr.stop_le
    rw [List.length_append] at hstop
    rw [← List.append_nil (s.chars ++ behind)] at hr
    exact hr.takeBounded?_eq hfrom hstop
  obtain ⟨after, hafter⟩ := hsegment hs hlength.symm
  obtain ⟨after', hafter'⟩ := hsegment ht (hstart ▸ hlength.symm)
  rw [← hkind, hafter] at hafter'
  have hchars := (Prod.mk.inj (Option.some.inj hafter')).1
  cases s
  cases t
  simp only at hkind hstart hchars
  rw [hkind, hstart, hchars]

/-! One literal for another. -/

theorem LiteralKind.exists_quotes (h : kind ≠ .integer) : ∃ quote, kind.quotes = [quote] := by
  cases kind with
  | doubleQuoted => exact ⟨_, rfl⟩
  | singleQuoted => exact ⟨_, rfl⟩
  | integer => exact absurd rfl h

/-- A literal of a kind may be exchanged for other characters: they look the same from outside and
fit wherever it fits, neither of them has a quote of a kind that is looked for earlier, and behind
the opening quote of the other characters is no white space. -/
structure Exchanges (kind : LiteralKind) (chars others : List Char) : Prop where
  alike : AlikeOutside chars others
  fits : ∀ front back, kind.Fits front chars back → kind.Fits front others back
  unquoted : ∀ (other : LiteralKind) (quote : Char), other.turn < kind.turn →
    other.quotes = [quote] → quote ∉ chars ∧ quote ∉ others
  opened : ∀ quote, kind.quotes = [quote] →
    ∃ c rest, others = quote :: c :: rest ∧ isBoundary (some c) = false

/-- Further left than a literal, no span of its kind goes into it, unless there is white space
behind its opening quote. -/
theorem Span.IsIn.not_into_opened (h : s.IsIn (front ++ (others ++ back)))
    (hothers : Span.IsIn (front ++ (others ++ back)) ⟨s.kind, front.length, others⟩)
    (hopened : ∀ quote, s.kind.quotes = [quote] →
      ∃ c rest, others = quote :: c :: rest ∧ isBoundary (some c) = false)
    (hstart : s.start < front.length) : s.stop ≤ front.length := by
  by_contra hstop
  by_cases hkind : s.kind = .integer
  · -- The run of digits begins in front of the literal, which is one itself.
    obtain ⟨before, behind, htext, hlength, hfits⟩ := h
    obtain ⟨front', back', htext', hlength', hfits'⟩ := hothers
    obtain rfl := (List.append_inj htext' hlength'.symm).1
    rw [hkind] at hfits hfits'
    obtain ⟨-, hdigits, -⟩ := hfits
    obtain ⟨-, -, hlast, -⟩ := hfits'
    have hne : front ≠ [] := by
      rintro rfl
      exact absurd hstart (Nat.not_lt_zero _)
    have hplace : (before ++ (s.chars ++ behind))[front.length - 1]? =
        some (front.getLast hne) := by
      rw [← htext, List.getElem?_append_left (by omega), ← List.getLast?_eq_getElem?,
        List.getLast?_eq_some_getLast]
    have hmem : front.getLast hne ∈ s.chars := by
      refine mem_of_getElem?_middle hplace (by omega) ?_
      rw [hlength]
      show front.length - 1 < s.stop
      omega
    rw [List.getLast?_eq_some_getLast hne, Option.any_some, hdigits _ hmem] at hlast
    exact absurd hlast (by simp)
  · -- The opening quote of the literal closes the span, which needs white space behind it.
    obtain ⟨quote, hquote⟩ := LiteralKind.exists_quotes hkind
    obtain ⟨c, rest, rfl, hc⟩ := hopened quote hquote
    obtain ⟨-, -, -, hinner, hend⟩ := h.getElem?_quotes hquote
    have hopening : (front ++ (quote :: c :: rest ++ back))[front.length]? = some quote :=
      getElem?_append_length _ _
    have hclosing : s.stop = (front ++ [quote]).length := by
      rw [List.length_append, List.length_singleton]
      by_contra hne
      exact hinner front.length hstart (by omega) hopening
    rw [List.cons_append, List.append_cons, hclosing, getElem?_append_length] at hend
    rw [List.cons_append, List.head?_cons, hc] at hend
    exact absurd hend (by simp)

/-- A span of the text with the other characters is these characters, or they precede it, or it
is moved from a span of the text before the exchange. -/
theorem Exchanges.moves_or_precedes (h : Exchanges kind chars others)
    (hothers : Span.IsIn (front ++ (others ++ back)) ⟨kind, front.length, others⟩)
    (hs : s.IsIn (front ++ (others ++ back))) :
    s = ⟨kind, front.length, others⟩ ∨
      (Span.Overlaps ⟨kind, front.length, others⟩ s ∧
        Span.Precedes ⟨kind, front.length, others⟩ s) ∨
      ∃ t : Span, t.IsIn (front ++ (chars ++ back)) ∧
        t.Moves front.length chars.length others.length s := by
  by_cases hleft : s.stop ≤ front.length
  · have hstart := hs.start_lt_stop
    exact .inr (.inr ⟨s, hs.exchange_behind hleft h.alike.symm, rfl,
      .inl ⟨by omega, rfl⟩, .inl ⟨hleft, rfl⟩⟩)
  · by_cases hright : front.length + others.length ≤ s.start
    · obtain ⟨other, start, cs⟩ := s
      obtain ⟨n, rfl⟩ := Nat.exists_eq_add_of_le hright
      refine .inr (.inr ⟨⟨other, front.length + chars.length + n, cs⟩,
        hs.exchange_before h.alike.symm, rfl, .inr ⟨?_, ?_⟩, .inr ⟨?_, ?_⟩⟩)
      all_goals
        simp only [Span.stop]
        omega
    · have hover : Span.Overlaps ⟨kind, front.length, others⟩ s :=
        ⟨Nat.lt_of_not_le hleft, Nat.lt_of_not_le hright⟩
      rcases Nat.lt_trichotomy kind.turn s.kind.turn with hlater | hsame | hearlier
      · exact .inr (.inl ⟨hover, .inl hlater⟩)
      · obtain rfl := turn_injective hsame
        rcases Nat.lt_trichotomy front.length s.start with hbehind | hat | hbefore
        · exact .inr (.inl ⟨hover, .inr ⟨rfl, hbehind⟩⟩)
        · exact .inl (hs.eq_of_start hothers rfl hat.symm)
        · exact absurd (hs.not_into_opened hothers h.opened hbefore) hleft
      · have hkind : s.kind ≠ .integer := by
          intro heq
          rw [heq] at hearlier
          exact absurd kind.turn_lt (Nat.not_lt_of_le hearlier)
        obtain ⟨quote, hquote⟩ := LiteralKind.exists_quotes hkind
        obtain ⟨hchars, hnot⟩ := h.unquoted s.kind quote hearlier hquote
        obtain ⟨-, hopening, hclosing, -, -⟩ := hs.getElem?_quotes hquote
        have hstart : s.start < front.length := by
          by_contra hge
          exact hnot (mem_of_getElem?_middle hopening (by omega) (by omega))
        have hstop : front.length + others.length < s.stop := by
          by_contra hle
          exact hnot (mem_of_getElem?_middle hclosing (by omega) (by omega))
        obtain ⟨t, ht, hkind, hsame, hmoved⟩ :=
          hs.exchange_inside hquote hchars h.alike.ne_nil hstart hstop
        refine .inr (.inr ⟨t, ht, hkind.symm, .inl ⟨by omega, hsame.symm⟩, .inr ⟨by omega, ?_⟩⟩)
        omega

/-! One literal for another among the pieces of a text. -/

variable {ps qs : List Piece}

theorem mem_spansFrom_add {n m : Nat} {cs : List Char} :
    (⟨kind, m + n, cs⟩ : Span) ∈ spansFrom (m + start) ps ↔ ⟨kind, n, cs⟩ ∈ spansFrom start ps := by
  induction ps generalizing start with
  | nil => simp [spansFrom]
  | cons p ps ih =>
      cases p with
      | text chars => rw [spansFrom, spansFrom, Nat.add_assoc, ih]
      | literal other chars =>
          rw [spansFrom, spansFrom, Nat.add_assoc, List.mem_cons, List.mem_cons, ih]
          simp only [Span.mk.injEq, Nat.add_left_cancel_iff]

/-- The literals of pieces are those in front of one of them, this one, and those behind it. -/
theorem mem_spansFrom_middle :
    s ∈ spansFrom 0 (ps ++ .literal kind chars :: qs) ↔
      s ∈ spansFrom 0 ps ∨ s = ⟨kind, (ps.flatMap Piece.chars).length, chars⟩ ∨
        ∃ n, s.start = (ps.flatMap Piece.chars).length + chars.length + n ∧
          ⟨s.kind, n, s.chars⟩ ∈ spansFrom 0 qs := by
  rw [spansFrom_append, spansFrom, Nat.zero_add, List.mem_append, List.mem_cons]
  refine or_congr_right (or_congr_right ⟨fun hs => ?_, ?_⟩)
  · obtain ⟨n, hn⟩ := Nat.exists_eq_add_of_le (start_le_of_mem_spansFrom hs)
    refine ⟨n, hn, ?_⟩
    rw [← mem_spansFrom_add, ← hn]
    exact hs
  · rintro ⟨n, hn, hs⟩
    rw [← mem_spansFrom_add, ← hn] at hs
    exact hs

/-- The literals of the pieces after an exchange are moved from those before. -/
theorem exists_moves_of_mem (others : List Char)
    (hne : ∀ t ∈ spansFrom 0 (ps ++ .literal kind chars :: qs), t.start < t.stop)
    (hs : s ∈ spansFrom 0 (ps ++ .literal kind chars :: qs)) :
    ∃ t ∈ spansFrom 0 (ps ++ .literal kind others :: qs),
      s.Moves (ps.flatMap Piece.chars).length chars.length others.length t := by
  rcases mem_spansFrom_middle.mp hs with hbefore | rfl | ⟨n, hn, hbehind⟩
  · have hstop := stop_le_of_mem_spansFrom hbefore
    have hlt := hne s hs
    rw [Nat.zero_add] at hstop
    exact ⟨s, mem_spansFrom_middle.mpr (.inl hbefore), rfl, .inl ⟨by omega, rfl⟩,
      .inl ⟨hstop, rfl⟩⟩
  · refine ⟨_, mem_spansFrom_middle.mpr (.inr (.inl rfl)), rfl, .inl ⟨Nat.le_refl _, rfl⟩,
      .inr ⟨Nat.le_refl _, ?_⟩⟩
    simp only [Span.stop]
    omega
  · obtain ⟨other, start, cs⟩ := s
    obtain rfl : start = _ := hn
    refine ⟨⟨other, (ps.flatMap Piece.chars).length + others.length + n, cs⟩,
      mem_spansFrom_middle.mpr (.inr (.inr ⟨n, rfl, hbehind⟩)), rfl, .inr ⟨?_, ?_⟩, .inr ⟨?_, ?_⟩⟩
    all_goals
      simp only [Span.stop]
      omega

theorem parted_exchange (h : Parted (ps ++ .literal kind chars :: qs)) :
    Parted (ps ++ .literal kind others :: qs) := by
  have hiff (rs : List Piece) : Parted rs ↔
      (rs.map Piece.isLiteral).IsChain fun a b => a = true ∨ b = true := by
    rw [Parted, List.isChain_map]
  rw [hiff, List.map_append, List.map_cons] at h ⊢
  exact h

/-- After an exchange the literals may be ones if they were before. -/
theorem isIn_exchange (hexchanges : Exchanges kind chars others)
    (hold : ∀ t ∈ spansFrom 0 (ps ++ .literal kind chars :: qs),
      t.IsIn (ps.flatMap Piece.chars ++ (chars ++ qs.flatMap Piece.chars))) :
    ∀ s ∈ spansFrom 0 (ps ++ .literal kind others :: qs),
      s.IsIn (ps.flatMap Piece.chars ++ (others ++ qs.flatMap Piece.chars)) := by
  intro s hs
  rcases mem_spansFrom_middle.mp hs with hbefore | rfl | ⟨n, hn, hbehind⟩
  · have hstop := stop_le_of_mem_spansFrom hbefore
    rw [Nat.zero_add] at hstop
    exact (hold s (mem_spansFrom_middle.mpr (.inl hbefore))).exchange_behind hstop
      hexchanges.alike
  · obtain ⟨front, back, htext, hlength, hfits⟩ :=
      hold _ (mem_spansFrom_middle.mpr (.inr (.inl rfl)))
    obtain ⟨rfl, hrest⟩ := List.append_inj htext hlength.symm
    rw [← List.append_cancel_left hrest] at hfits
    exact ⟨_, _, rfl, rfl, hexchanges.fits _ _ hfits⟩
  · obtain ⟨other, start, cs⟩ := s
    obtain rfl : start = _ := hn
    have hmem : ⟨other, (ps.flatMap Piece.chars).length + chars.length + n, cs⟩ ∈
        spansFrom 0 (ps ++ .literal kind chars :: qs) :=
      mem_spansFrom_middle.mpr (.inr (.inr ⟨n, rfl, hbehind⟩))
    exact (hold _ hmem).exchange_before hexchanges.alike

/-- Pieces whose literals are recognized in their text are so after an exchange: what might be
found instead of a literal then might have been found before, or is not found because of the new
literal. -/
theorem Recognized.exchange (h : Recognized 3 text (ps ++ .literal kind chars :: qs))
    (hexchanges : Exchanges kind chars others) :
    Recognized 3 ((ps ++ .literal kind others :: qs).flatMap Piece.chars)
      (ps ++ .literal kind others :: qs) := by
  have hflat (cs : List Char) : (ps ++ .literal kind cs :: qs).flatMap Piece.chars =
      ps.flatMap Piece.chars ++ (cs ++ qs.flatMap Piece.chars) := by
    rw [List.flatMap_append, List.flatMap_cons, Piece.chars]
  have hold : ∀ t ∈ spansFrom 0 (ps ++ .literal kind chars :: qs),
      t.IsIn (ps.flatMap Piece.chars ++ (chars ++ qs.flatMap Piece.chars)) := by
    intro t ht
    rw [← hflat, h.chars]
    exact (h.sound t ht).1
  have hnew := isIn_exchange hexchanges hold
  have hmiddle : ⟨kind, (ps.flatMap Piece.chars).length, others⟩ ∈
      spansFrom 0 (ps ++ .literal kind others :: qs) :=
    mem_spansFrom_middle.mpr (.inr (.inl rfl))
  have hpos := List.length_pos_iff.mpr hexchanges.alike.ne_nil
  have hothers := List.length_pos_iff.mpr hexchanges.alike.others_ne_nil
  have hlength : ∀ t ∈ spansFrom 0 (ps ++ .literal kind chars :: qs), t.start < t.stop :=
    fun t ht => (hold t ht).start_lt_stop
  rw [hflat]
  refine ⟨hflat others, parted_exchange h.parted, fun s hs => ⟨hnew s hs, s.kind.turn_lt⟩, ?_⟩
  intro s hs _
  rcases hexchanges.moves_or_precedes (hnew _ hmiddle) hs with rfl | hbefore | ⟨t, ht, hmoves⟩
  · exact .inl hmiddle
  · exact .inr ⟨_, hmiddle, hbefore⟩
  · -- Before the exchange the span was found, or something was found instead, and both moved.
    rw [← hflat, h.chars] at ht
    obtain hfound | ⟨u, hu, hover, hprecedes⟩ := h.complete t ht t.kind.turn_lt
    · obtain ⟨r, hr, hmoved⟩ := exists_moves_of_mem others hlength hfound
      left
      rwa [hs.eq_of_start (hnew r hr) (hmoves.kind.trans hmoved.kind.symm)
        (hmoves.start.unique hmoved.start hpos)]
    · obtain ⟨r, hr, hmoved⟩ := exists_moves_of_mem others hlength hu
      exact .inr ⟨r, hr, hmoved.overlaps hmoves hpos hothers hover,
        hmoved.precedes hmoves hpos hothers hprecedes⟩

end Stepwise.Step
