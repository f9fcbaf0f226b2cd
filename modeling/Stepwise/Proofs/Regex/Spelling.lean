import Stepwise.Proofs.Regex.Building
import Stepwise.Proofs.Regex.Lexing
import Stepwise.Regex

/-!
# The trees that a written expression spells

A part of an expression spells some trees if it is cut into lexemes that add these trees,
wherever it stands. What the trees match and what they take is a matter of the trees alone.
-/

namespace Stepwise.Regex

namespace Tree

variable {ts : List Tree} {d : Nat}

/-! The depth of trees. -/

theorem depth_le_depth_none (t : Tree) (chain : Tree.Chain) :
    t.depth chain ≤ t.depth .none := by
  cases t with
  | cat left right => simp only [depth]; split <;> simp
  | alt left right => simp only [depth]; split <;> simp
  | _ => exact Nat.le_refl _

theorem depth_sequence_le (h : ∀ t ∈ ts, t.depth .none ≤ d) :
    (sequence ts).depth .sequence ≤ d ∧ (sequence ts).depth .none ≤ d + 1 := by
  fun_induction sequence ts with
  | case1 => exact ⟨Nat.zero_le _, Nat.zero_le _⟩
  | case2 t =>
      have ht := h t List.mem_cons_self
      exact ⟨Nat.le_trans (depth_le_depth_none t _) ht, Nat.le_succ_of_le ht⟩
  | case3 t ts hne ih =>
      have ht := h t List.mem_cons_self
      have hts := (ih fun s hs => h s (List.mem_cons_of_mem t hs)).1
      simp only [depth, ↓reduceIte, reduceCtorEq]
      omega

theorem depth_choice_le (h : ∀ t ∈ ts, t.depth .none ≤ d) :
    (choice ts).depth .choice ≤ d ∧ (choice ts).depth .none ≤ d + 1 := by
  fun_induction choice ts with
  | case1 => exact ⟨Nat.zero_le _, Nat.zero_le _⟩
  | case2 t =>
      have ht := h t List.mem_cons_self
      exact ⟨Nat.le_trans (depth_le_depth_none t _) ht, Nat.le_succ_of_le ht⟩
  | case3 t ts hne ih =>
      have ht := h t List.mem_cons_self
      have hts := (ih fun s hs => h s (List.mem_cons_of_mem t hs)).1
      simp only [depth, ↓reduceIte, reduceCtorEq]
      omega

end Tree

/-- A part of an expression behind a number of groups has groups of some names and is read
as pieces one behind the other. -/
def Spells (source : List Char) (n : Nat) (names : List (Option String)) (ts : List Tree) : Prop :=
  Separate source ∧ ∃ ls, Lexes source ls ∧ Builds ls n names ts

/-- A part of an expression that is read as alternatives. -/
def SpellsChoice (source : List Char) (n : Nat) (names : List (Option String)) (ts : List Tree) :
    Prop :=
  Separate source ∧ ∃ ls, Lexes source ls ∧ BuildsChoice ls n names ts

variable {source left right : List Char} {n : Nat} {names others : List (Option String)}
  {t : Tree} {ts us : List Tree}

theorem spells_nil (n : Nat) : Spells [] n [] [] :=
  ⟨separate_nil, [], lexes_nil, builds_nil⟩

/-- Parts behind each other spell trees behind each other. -/
theorem Spells.append (hleft : Spells left n names ts)
    (hright : Spells right (n + names.length) others us) :
    Spells (left ++ right) n (names ++ others) (ts ++ us) := by
  obtain ⟨hsl, ls, hls, hts⟩ := hleft
  obtain ⟨hsr, ms, hms, hus⟩ := hright
  exact ⟨hsl.append hsr, ls ++ ms, hls.append hms hsr, hts.append hus⟩

/-! Single pieces. -/

theorem spells_of_atom {c : Char} {rest : List Char} (hc : c ≠ '?' ∧ c ≠ '\x7b')
    (hl : Lexes (c :: rest) [.atom t]) (n : Nat) : Spells (c :: rest) n [] [t] :=
  ⟨separate_cons hc rest, [.atom t], hl, builds_atom t⟩

theorem spells_literal {c : Char} (hc : c ∉ metacharacters) (n : Nat) :
    Spells [c] n [] [.literal ⟨c, false⟩] := by
  refine spells_of_atom ?_ (lexes_literal hc) n
  simp only [metacharacters, List.mem_cons, not_or] at hc
  exact ⟨hc.2.2.2.2.1, hc.2.2.2.2.2.2.2.1⟩

theorem spells_quoted {c : Char} (hc : isSpecial c = true ∨ isQuotable c = true) (n : Nat) :
    Spells ['\\', c] n [] [.literal ⟨c, false⟩] :=
  spells_of_atom (by decide) (lexes_quoted hc) n

theorem spells_start (n : Nat) : Spells ['^'] n [] [.anchor .lineStart] :=
  spells_of_atom (by decide) lexes_start n

theorem spells_end (n : Nat) : Spells ['$'] n [] [.anchor .lineEnd] :=
  spells_of_atom (by decide) lexes_end n

theorem spells_boundary (n : Nat) : Spells ['\\', 'b'] n [] [.anchor (.edge .boundary)] :=
  spells_of_atom (by decide) lexes_boundary n

theorem spells_digit (n : Nat) : Spells ['\\', 'd'] n [] [.short false .digit] :=
  spells_of_atom (by decide) lexes_digits n

theorem spells_word (n : Nat) : Spells ['\\', 'w'] n [] [.short false .word] :=
  spells_of_atom (by decide) lexes_word n

theorem spells_allBut {c : Char} (hc : c ∉ ['[', ']', '\\', '-', '&', '~']) (n : Nat) :
    Spells ['[', '^', c, ']'] n [] [.bracket true (.literal ⟨c, false⟩)] :=
  spells_of_atom (by decide) (lexes_allBut hc) n

/-- The trees of characters that stand for themselves. -/
def plainTrees (cs : List Char) : List Tree :=
  cs.map fun c => .literal ⟨c, false⟩

/-- Characters without a meaning of their own spell themselves. -/
theorem spells_plain {cs : List Char} (h : ∀ c ∈ cs, c ∉ metacharacters) (n : Nat) :
    Spells cs n [] (plainTrees cs) := by
  induction cs with
  | nil => exact spells_nil n
  | cons c cs ih =>
      exact (spells_literal (h c List.mem_cons_self) n).append
        (ih fun d hd => h d (List.mem_cons_of_mem c hd))

theorem depth_plainTrees (cs : List Char) : ∀ t ∈ plainTrees cs, t.depth .none ≤ 0 := by
  intro t ht
  obtain ⟨c, -, rfl⟩ := List.mem_map.mp ht
  exact Nat.le_refl 0

/-! Repetitions, choices and groups. -/

theorem Spells.repeated {sign : Char} {min : Nat} (hsign : Separate [sign])
    (hlexes : Lexes [sign] [.repetition min none false]) (h : Spells source n names [t])
    (ht : ∀ change, t ≠ .flags change) :
    Spells (source ++ [sign]) n names [.repeated t min none true] := by
  obtain ⟨hs, ls, hls, hbuilds⟩ := h
  exact ⟨hs.append hsign, ls ++ [.repetition min none false], hls.append hlexes hsign,
    hbuilds.repeated ht min none false⟩

theorem Spells.plus (h : Spells source n names [t]) (ht : ∀ change, t ≠ .flags change) :
    Spells (source ++ ['+']) n names [.repeated t 1 none true] :=
  h.repeated (separate_cons (by decide) _) lexes_plus ht

theorem Spells.star (h : Spells source n names [t]) (ht : ∀ change, t ≠ .flags change) :
    Spells (source ++ ['*']) n names [.repeated t 0 none true] :=
  h.repeated (separate_cons (by decide) _) lexes_star ht

theorem Spells.any (h : Spells source n names ts) :
    SpellsChoice source n names [Tree.sequence ts] := by
  obtain ⟨hs, ls, hls, hts⟩ := h
  exact ⟨hs, ls, hls, hts.choice⟩

theorem Spells.or (hleft : Spells left n names ts)
    (hright : SpellsChoice right (n + names.length) others us) :
    SpellsChoice (left ++ '|' :: right) n (names ++ others) (Tree.sequence ts :: us) := by
  obtain ⟨hsl, ls, hls, hts⟩ := hleft
  obtain ⟨hsr, ms, hms, hus⟩ := hright
  have hbar : Lexes ('|' :: right) (.bar :: ms) := lexes_bar.append hms hsr
  have hseparate : Separate ('|' :: right) := separate_cons (by decide) _
  exact ⟨hsl.append hseparate, ls ++ .bar :: ms, hls.append hbar hseparate, hts.choice_cons hus⟩

theorem SpellsChoice.group (h : SpellsChoice source n names ts) :
    Spells ('(' :: '?' :: ':' :: (source ++ [')'])) n names [.group [] (Tree.choice ts)] := by
  obtain ⟨hs, ls, hls, hts⟩ := h
  have hclose : Separate [')'] := separate_cons (by decide) _
  have hlexes := lexes_open.append (hls.append lexes_close hclose) (hs.append hclose)
  exact ⟨separate_cons (by decide) _, _, hlexes, hts.group⟩

/-- A group that may be missing. -/
theorem SpellsChoice.maybe (h : SpellsChoice source n names ts) :
    Spells ('(' :: '?' :: ':' :: (source ++ [')', '?'])) n names
      [.repeated (.group [] (Tree.choice ts)) 0 (some 1) true] := by
  obtain ⟨hs, ls, hls, hts⟩ := h
  have hclose : Separate [')', '?'] := separate_cons (by decide) _
  have hlexes := lexes_open.append (hls.append lexes_closeOptional hclose) (hs.append hclose)
  have hgroup := hts.group.repeated (by simp) 0 (some 1) false
  exact ⟨separate_cons (by decide) _, _, hlexes, by simpa using hgroup⟩

theorem SpellsChoice.captureBy {opening : List Char} {name : Option String}
    (h : SpellsChoice source (n + 1) names ts) (hopening : Separate opening)
    (hlexes : Lexes opening [.openGroup (.capture name)]) :
    Spells (opening ++ (source ++ [')'])) n (name :: names)
      [.capture (n + 1) (Tree.choice ts)] := by
  obtain ⟨hs, ls, hls, hts⟩ := h
  have hclose : Separate [')'] := separate_cons (by decide) _
  exact ⟨hopening.append (hs.append hclose), [.openGroup (.capture name)] ++ (ls ++ [.closeGroup]),
    hlexes.append (hls.append lexes_close hclose) (hs.append hclose), hts.capture⟩

/-- A group that is remembered under its number. -/
theorem SpellsChoice.capture (h : SpellsChoice source (n + 1) names ts) :
    Spells ('(' :: (source ++ [')'])) n (none :: names) [.capture (n + 1) (Tree.choice ts)] :=
  h.captureBy (separate_cons (by decide) _) lexes_capture

/-- A group that is remembered under its number and has a name. -/
theorem SpellsChoice.named {name : List Char} (h : SpellsChoice source (n + 1) names ts)
    (hname : IsGroupName name) :
    Spells ('(' :: '?' :: 'P' :: '<' :: name ++ ['>'] ++ (source ++ [')'])) n
      (some (String.ofList name) :: names) [.capture (n + 1) (Tree.choice ts)] :=
  h.captureBy (separate_cons (by decide) _) (lexes_named hname)

/-- The trees of a value between quotes, which is remembered and has a number of characters at
least. -/
def enclosedTrees (quote : Char) (min index : Nat) : List Tree :=
  [.literal ⟨quote, false⟩,
    .capture index (.repeated (.bracket true (.literal ⟨quote, false⟩)) min none true),
    .literal ⟨quote, false⟩]

/-- A group between quotes. -/
theorem Spells.enclosed {quote : Char} {min : Nat} (hquote : quote ∉ metacharacters)
    (h : Spells source n names
      [.capture (n + 1) (.repeated (.bracket true (.literal ⟨quote, false⟩)) min none true)]) :
    Spells (quote :: (source ++ [quote])) n names (enclosedTrees quote min (n + 1)) := by
  have hall := (spells_literal hquote n).append (h.append (spells_literal hquote _))
  rwa [List.append_nil, List.nil_append] at hall

/-- What is spelled on its own is what is parsed. -/
theorem Spells.parse_eq (h : Spells source 0 names ts) (hnames : Distinct names)
    (hdepth : ∀ t ∈ ts, t.depth .none < depthLimit) :
    parse source = .ok (Tree.sequence ts, names) := by
  obtain ⟨hs, ls, hls, hts⟩ := h
  have hdeep : (Tree.sequence ts).depth .none ≤ depthLimit :=
    (Tree.depth_sequence_le fun t ht => Nat.le_sub_one_of_lt (hdepth t ht)).2
  have hbuilt := hts {} rfl (by simpa using hnames.reverse)
  unfold parse
  rw [hls.lexemes_eq]
  change (ls.foldlM TreeBuilder.take {} >>= fun builder => builder.finish) = _
  rw [hbuilt]
  simp [bind, Except.bind, TreeBuilder.finish, TreeBuilder.tree, Tree.choice,
    Nat.not_lt.mpr hdeep]

/-- What is parsed and resolved compiles unless it is too large. -/
theorem compile_eq {e : Expression} (hparse : parse source = .ok (t, names))
    (he : t.expression = .ok e) (limit : Option Nat) :
    compile limit source =
      if limit.all e.fitsInto then .ok ⟨e.program, names⟩ else .error .tooLarge := by
  unfold compile
  rw [hparse]
  simp only [he, bind, Except.bind, pure, Except.pure]
  by_cases hfits : limit.all e.fitsInto = true
  · simp [hfits]
  · simp only [hfits]
    rfl

/-- What is spelled on its own compiles to the expression that its trees are resolved to, unless
this is too large. -/
theorem Spells.compile_eq (h : Spells source 0 names ts) (hnames : Distinct names)
    (hdepth : ∀ t ∈ ts, t.depth .none < depthLimit) {es : List Expression} {flags : Flags}
    (hes : (Tree.sequence ts).resolve {} = .ok (es, flags)) (limit : Option Nat) :
    compile limit source =
      if limit.all (Expression.choice es).fitsInto then .ok ⟨(Expression.choice es).program, names⟩
      else .error .tooLarge := by
  refine Regex.compile_eq (h.parse_eq hnames hdepth) ?_ limit
  simp only [Tree.expression, hes, bind, Except.bind, pure, Except.pure]

end Stepwise.Regex
