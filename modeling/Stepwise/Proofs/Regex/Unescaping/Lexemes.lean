import Stepwise.Proofs.Regex.Lexing
import Stepwise.Proofs.Regex.Unescaping.Classes
import Stepwise.Proofs.Regex.Unescaping.Groups

/-!
# Reading expressions without the escapes of a delimiter

Main statement: an expression that compiles does so without the escapes of a delimiter, and to the
same program, as long as its classes keep their tildes apart and no number sign stands for itself
where blanks are skipped.
-/

namespace Stepwise.Regex

variable {d : Char} {verbose : Bool} {mode : LexicalMode} {source after : List Char} {l : Lexeme}
  {ls : List Lexeme}

/-- Whether a lexeme is the same without the escapes of a delimiter. -/
def Lexeme.isUnescapable (verbose : Bool) (d : Char) : Lexeme → Bool
  | .atom (.literal l) => !verbose || d ≠ '#' || l.char ≠ '#'
  | .atom (.bracket _ content) => content.isUnescapable verbose d
  | _ => true

/-- Whether the lexemes of an expression are the same without the escapes of a delimiter. -/
def areUnescapable (d : Char) : LexicalMode → List Lexeme → Bool
  | _, [] => true
  | mode, l :: ls => l.isUnescapable mode.verbose d && areUnescapable d (mode.after l) ls

/-- Only a tilde and a number sign have a meaning of their own somewhere. -/
theorem areUnescapable_of_ne (htilde : d ≠ '~') (hsign : d ≠ '#') (mode : LexicalMode)
    (ls : List Lexeme) : areUnescapable d mode ls = true := by
  induction ls generalizing mode with
  | nil => rfl
  | cons l ls ih =>
      have hl : l.isUnescapable mode.verbose d = true := by
        unfold Lexeme.isUnescapable
        split
        · simp [hsign]
        · simp [Bracket.isUnescapable, htilde, hsign]
        · rfl
      rw [areUnescapable, hl, ih, Bool.and_self]

theorem lexemes_eq_nil_iff :
    lexemes mode source = .ok [] ↔ skipBlanks mode.verbose source = [] := by
  rw [lexemes]
  constructor
  · intro h
    split at h
    · rename_i heq
      exact heq
    · split at h
      · cases h
      · split at h
        · obtain ⟨others, -, heq⟩ := map_eq_ok.mp h
          cases heq
        · cases h
  · intro h
    rw [h]

theorem lexemes_cons (h : lexemes mode source = .ok (l :: ls)) :
    ∃ after, Lexeme.read mode.verbose (skipBlanks mode.verbose source) = .ok (l, after) ∧
      lexemes (mode.after l) after = .ok ls := by
  rw [lexemes] at h
  split at h
  · cases h
  · split at h
    · cases h
    · rename_i first rest hread
      split at h
      · obtain ⟨others, hothers, heq⟩ := map_eq_ok.mp h
        cases heq
        exact ⟨rest, hread, hothers⟩
      · cases h

theorem lexemes_of_cons
    (hread : Lexeme.read mode.verbose (skipBlanks mode.verbose source) = .ok (l, after))
    (hrest : lexemes (mode.after l) after = .ok ls) : lexemes mode source = .ok (l :: ls) := by
  have hless : after.length < source.length :=
    Nat.lt_of_lt_of_le (Lexeme.read_length_lt hread) (skipBlanks_length_le mode.verbose source)
  rw [lexemes]
  split
  · rename_i heq
    rw [heq] at hread
    cases hread
  · rw [hread]
    simp only [hless, ↓reduceIte, hrest]
    rfl

theorem settled_of_lexemes (h : lexemes mode source = .ok ls)
    (hls : areUnescapable d mode ls = true) : Settled mode.verbose d source := by
  rintro hv rfl ⟨comment, heq⟩
  change '\\' :: '#' :: comment = _ at heq
  cases ls with
  | nil =>
      rw [lexemes_eq_nil_iff, ← heq] at h
      cases h
  | cons l ls =>
      obtain ⟨after, hread, -⟩ := lexemes_cons h
      have hescape : Escape.read mode.verbose ('#' :: comment) = _ :=
        Escape.read_delimiter (by decide) comment
      rw [← heq] at hread
      rw [Lexeme.read, hescape] at hread
      cases hread
      simp [areUnescapable, Lexeme.isUnescapable, Escape.toTree, hv] at hls

/-- A brace is followed by a count. -/
theorem settled_of_brace (h : lexemes mode ('\x7b' :: source) = .ok ls) :
    Settled mode.verbose d source := by
  have hblanks : skipBlanks mode.verbose ('\x7b' :: source) = '\x7b' :: source :=
    skipBlanks_cons (by decide) (by decide) source
  cases ls with
  | nil =>
      rw [lexemes_eq_nil_iff, hblanks] at h
      cases h
  | cons l ls =>
      obtain ⟨after, hread, -⟩ := lexemes_cons h
      rw [hblanks, Lexeme.read, readRepetition_eq] at hread
      obtain ⟨⟨min, left⟩, hmin, -⟩ := bind_eq_ok.mp hread
      exact settled_of_readCount hmin

theorem exists_of_readRepetition (h : readRepetition verbose source = .ok (l, after)) :
    ∃ min max isLazy, l = .repetition min max isLazy := by
  rw [readRepetition_eq] at h
  obtain ⟨⟨min, left⟩, -, h⟩ := bind_eq_ok.mp h
  obtain ⟨⟨max, behind⟩, -, h⟩ := bind_eq_ok.mp h
  change endRepetition verbose min max behind = _ at h
  unfold endRepetition at h
  split at h
  · by_cases hmax : max.any (· < min)
    · rw [if_pos hmax] at h
      cases h
    · rw [if_neg hmax] at h
      cases h
      exact ⟨min, max, _, rfl⟩
  · cases h

theorem Escape.isClean_of_toTree {escape : Escape} (h : escape.toTree.IsClean) :
    escape.IsClean := by
  cases escape with
  | property negated query => exact h
  | _ => trivial

section Readers

variable (hd : d ∈ Turnip.delimiters)

include hd

theorem Lexeme.read_delimiter (rest : List Char) :
    Lexeme.read verbose (d :: rest) = .ok (.atom (.literal ⟨d, false⟩), rest) := by
  have hall : Turnip.delimiters.all (· ∉ metacharacters) = true := by decide
  have hplain : d ∉ metacharacters := by simpa using List.all_eq_true.mp hall d hd
  exact Lexeme.read_literal hplain verbose rest

theorem Lexeme.read_unescape (hclean : l.IsClean) (hl : l.isUnescapable mode.verbose d = true)
    (h : Lexeme.read mode.verbose source = .ok (l, after))
    (hafter : Settled (mode.after l).verbose d after)
    (hbrace : ∀ rest, after = '\x7b' :: rest → Settled (mode.after l).verbose d rest) :
    Lexeme.read mode.verbose (unescape [d] source) = .ok (l, unescape [d] after) := by
  unfold Lexeme.read at h
  split at h
  · cases h
  · rename_i rest
    rw [unescape_cons (by decide)]
    refine readGroup_unescape hd h ?_
    rintro rfl
    exact hafter
  · rename_i rest
    cases h
    rw [unescape_cons (by decide)]
    rfl
  · rename_i rest
    cases h
    rw [unescape_cons (by decide)]
    rfl
  · rename_i rest
    obtain ⟨⟨negated, content, left⟩, hread, heq⟩ := map_eq_ok.mp h
    cases heq
    rw [unescape_cons (by decide)]
    refine map_eq_ok.mpr ⟨_, readBracket_unescape hd hread ⟨hclean, hl⟩, rfl⟩
  · rename_i rest
    cases h
    rw [unescape_cons (by decide), Lexeme.read, readLazy_unescape hd]
    rfl
  · rename_i rest
    cases h
    rw [unescape_cons (by decide), Lexeme.read, readLazy_unescape hd]
    rfl
  · rename_i rest
    cases h
    rw [unescape_cons (by decide), Lexeme.read, readLazy_unescape hd]
    rfl
  · rename_i rest
    rw [unescape_cons (by decide)]
    obtain ⟨min, max, isLazy, rfl⟩ := exists_of_readRepetition h
    exact readRepetition_unescape hd h hafter
  · rename_i rest
    obtain ⟨⟨escape, left⟩, hread, heq⟩ := map_eq_ok.mp h
    cases heq
    cases rest with
    | nil => cases hread
    | cons c rest =>
        rw [unescape_pair]
        split
        · rename_i hc
          rw [List.mem_singleton] at hc
          subst hc
          rw [Escape.read_delimiter hd] at hread
          cases hread
          exact Lexeme.read_delimiter hd _
        · rw [Lexeme.read]
          have hescape := Escape.isClean_of_toTree hclean
          exact map_eq_ok.mpr ⟨_, Escape.read_unescape hd hescape hread hafter
            (fun _ rest _ => hbrace rest), rfl⟩
  · rename_i rest
    cases h
    rw [unescape_cons (by decide)]
    rfl
  · rename_i rest
    cases h
    rw [unescape_cons (by decide)]
    rfl
  · rename_i rest
    cases h
    rw [unescape_cons (by decide)]
    rfl
  · rename_i c rest _ _ _ _ _ _ _ _ hslash _ _ _
    cases h
    have hc : c ∉ metacharacters := by
      simp only [metacharacters, List.mem_cons, List.not_mem_nil, or_false]
      tauto
    rw [unescape_cons hslash]
    exact Lexeme.read_literal hc mode.verbose _

theorem lexemes_unescape (h : lexemes mode source = .ok ls) (hclean : ∀ l ∈ ls, l.IsClean)
    (hls : areUnescapable d mode ls = true) : lexemes mode (unescape [d] source) = .ok ls := by
  have hsource := settled_of_lexemes h hls
  induction ls generalizing mode source with
  | nil =>
      rw [lexemes_eq_nil_iff] at h ⊢
      rw [skipBlanks_unescape hd hsource, h]
      rfl
  | cons l ls ih =>
      obtain ⟨after, hread, hrest⟩ := lexemes_cons h
      rw [areUnescapable, Bool.and_eq_true] at hls
      have hafter := settled_of_lexemes hrest hls.2
      have hbrace : ∀ rest, after = '\x7b' :: rest → Settled (mode.after l).verbose d rest := by
        rintro rest rfl
        exact settled_of_brace hrest
      have hread := Lexeme.read_unescape hd (hclean l List.mem_cons_self) hls.1 hread hafter hbrace
      rw [← skipBlanks_unescape hd hsource] at hread
      exact lexemes_of_cons hread
        (ih hrest (fun k hk => hclean k (List.mem_cons_of_mem l hk)) hls.2 hafter)

/-- An expression compiles in the same way without the escapes of a delimiter. -/
theorem compile_unescape {limit : Option Nat} {regex : Regex}
    (h : compile limit source = .ok regex)
    (hls : ∀ ls, lexemes {} source = .ok ls → areUnescapable d {} ls = true) :
    compile limit (unescape [d] source) = .ok regex := by
  obtain ⟨ls, hlexemes, hclean⟩ := isClean_of_compile h
  have hsame := lexemes_unescape hd hlexemes hclean (hls ls hlexemes)
  rw [compile, parse, hlexemes] at h
  rw [compile, parse, hsame]
  exact h

end Readers

end Stepwise.Regex
