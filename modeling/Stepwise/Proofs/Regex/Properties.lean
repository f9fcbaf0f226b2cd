import Stepwise.Proofs.Regex.Progress
import Stepwise.Proofs.Unicode.Names
import Stepwise.Regex

/-!
# Properties in expressions that compile

A property that is in no table is a fault. Main statement: an expression that compiles has no
backslash in the names of its properties.
-/

namespace Stepwise.Regex

/-- No name in a query has a backslash. -/
def PropertyQuery.IsClean : PropertyQuery → Prop
  | .name n => '\\' ∉ n.toList
  | .value p v _ => '\\' ∉ p.toList ∧ '\\' ∉ v.toList

def Escape.IsClean : Escape → Prop
  | .property _ query => query.IsClean
  | _ => True

def Bracket.IsClean : Bracket → Prop
  | .property _ query => query.IsClean
  | .nested _ content => content.IsClean
  | .union left right => left.IsClean ∧ right.IsClean
  | .operation _ left right => left.IsClean ∧ right.IsClean
  | _ => True

def Tree.IsClean : Tree → Prop
  | .property _ query => query.IsClean
  | .bracket _ content => content.IsClean
  | .capture _ body => body.IsClean
  | .group _ body => body.IsClean
  | .repeated body _ _ _ => body.IsClean
  | .cat left right => left.IsClean ∧ right.IsClean
  | .alt left right => left.IsClean ∧ right.IsClean
  | _ => True

def Lexeme.IsClean : Lexeme → Prop
  | .atom tree => tree.IsClean
  | _ => True

variable {flags : Flags} {negated : Bool}

theorem isClean_of_property {query : PropertyQuery} {s : CharSet}
    (h : flags.property negated query = .ok s) : query.IsClean := by
  unfold Flags.property at h
  split at h
  · cases h
  · split at h
    · split at h
      · cases h
      · rename_i hnamed
        exact Unicode.backslash_not_mem_of_named? hnamed
    · split at h
      · cases h
      · rename_i hvalued
        exact Unicode.backslash_not_mem_of_valued? hvalued

theorem Bracket.isClean_of_resolve {content : Bracket} {s : CharSet}
    (h : content.resolve flags = .ok s) : content.IsClean := by
  induction content generalizing s with
  | property negated query => exact isClean_of_property h
  | nested negated content ih =>
      obtain ⟨inner, hinner, -⟩ := bind_eq_ok.mp h
      exact ih hinner
  | union left right ihleft ihright =>
      obtain ⟨l, hleft, h⟩ := bind_eq_ok.mp h
      obtain ⟨r, hright, -⟩ := bind_eq_ok.mp h
      exact ⟨ihleft hleft, ihright hright⟩
  | operation op left right ihleft ihright =>
      obtain ⟨l, hleft, h⟩ := bind_eq_ok.mp h
      obtain ⟨r, hright, -⟩ := bind_eq_ok.mp h
      exact ⟨ihleft hleft, ihright hright⟩
  | _ => trivial

theorem Tree.isClean_of_resolve {t : Tree} {result : List Expression × Flags}
    (h : t.resolve flags = .ok result) : t.IsClean := by
  induction t generalizing flags result with
  | property negated query =>
      obtain ⟨s, hs, -⟩ := bind_eq_ok.mp h
      exact isClean_of_property hs
  | bracket negated content =>
      obtain ⟨s, hs, -⟩ := bind_eq_ok.mp h
      exact Bracket.isClean_of_resolve hs
  | capture index body ih =>
      obtain ⟨inner, hinner, -⟩ := bind_eq_ok.mp h
      exact ih hinner
  | group change body ih =>
      obtain ⟨inner, hinner, -⟩ := bind_eq_ok.mp h
      exact ih hinner
  | repeated body min max greedy ih =>
      obtain ⟨inner, hinner, -⟩ := bind_eq_ok.mp h
      exact ih hinner
  | cat left right ihleft ihright =>
      obtain ⟨l, hleft, h⟩ := bind_eq_ok.mp h
      obtain ⟨r, hright, -⟩ := bind_eq_ok.mp h
      exact ⟨ihleft hleft, ihright hright⟩
  | alt left right ihleft ihright =>
      obtain ⟨l, hleft, h⟩ := bind_eq_ok.mp h
      obtain ⟨r, hright, -⟩ := bind_eq_ok.mp h
      exact ⟨ihleft hleft, ihright hright⟩
  | _ => trivial

theorem Tree.isClean_of_sequence {ts : List Tree} (h : (Tree.sequence ts).IsClean) :
    ∀ t ∈ ts, t.IsClean := by
  induction ts with
  | nil => exact fun t ht => absurd ht List.not_mem_nil
  | cons first ts ih =>
      cases ts with
      | nil => exact fun t ht => List.mem_singleton.mp ht ▸ h
      | cons second ts => exact List.forall_mem_cons.mpr ⟨h.1, ih h.2⟩

theorem Tree.isClean_of_choice {ts : List Tree} (h : (Tree.choice ts).IsClean) :
    ∀ t ∈ ts, t.IsClean := by
  induction ts with
  | nil => exact fun t ht => absurd ht List.not_mem_nil
  | cons first ts ih =>
      cases ts with
      | nil => exact fun t ht => List.mem_singleton.mp ht ▸ h
      | cons second ts => exact List.forall_mem_cons.mpr ⟨h.1, ih h.2⟩

/-! The trees that lexemes are built into. -/

structure TreeBuilder.IsClean (builder : TreeBuilder) : Prop where
  outer : ∀ group ∈ builder.outer,
    (∀ t ∈ group.alternatives, t.IsClean) ∧ ∀ t ∈ group.pieces, t.IsClean
  alternatives : ∀ t ∈ builder.alternatives, t.IsClean
  pieces : ∀ t ∈ builder.pieces, t.IsClean

/-- Closing a group shows all of its content. -/
def TreeBuilder.Shows (builder : TreeBuilder) : Prop :=
  ∀ group ∈ builder.outer, ∀ t, (group.close t).IsClean → t.IsClean

namespace TreeBuilder

variable {builder next : TreeBuilder} {l : Lexeme}

theorem isClean_of_tree (h : builder.tree.IsClean) :
    (∀ t ∈ builder.alternatives, t.IsClean) ∧ ∀ t ∈ builder.pieces, t.IsClean := by
  have hall := Tree.isClean_of_choice h
  simp only [List.mem_reverse, List.mem_cons, forall_eq_or_imp] at hall
  exact ⟨hall.2, fun t ht => Tree.isClean_of_sequence hall.1 t (List.mem_reverse.mpr ht)⟩

theorem Shows.open (h : builder.Shows) (close : Tree → Tree)
    (hclose : ∀ t, (close t).IsClean → t.IsClean) (names : List (Option String)) :
    (builder.open close names).Shows := by
  intro group hmem
  rcases List.mem_cons.mp hmem with rfl | hmem
  · exact hclose
  · exact h group hmem

theorem IsClean.of_open {close : Tree → Tree} {names : List (Option String)}
    (h : (builder.open close names).IsClean) : builder.IsClean := by
  obtain ⟨houter, -, -⟩ := h
  have hfirst := houter _ List.mem_cons_self
  exact ⟨fun group hmem => houter group (List.mem_cons_of_mem _ hmem), hfirst.1, hfirst.2⟩

/-- A lexeme adds to the trees or puts them into a larger one, so they are clean if the result
is. -/
theorem Shows.take (hshows : builder.Shows) (h : builder.take l = .ok next) :
    next.Shows ∧ (next.IsClean → builder.IsClean ∧ l.IsClean) := by
  cases l with
  | atom tree =>
      cases h
      refine ⟨hshows, fun hclean => ⟨⟨hclean.outer, hclean.alternatives, ?_⟩, ?_⟩⟩
      · exact fun t ht => hclean.pieces t (List.mem_cons_of_mem tree ht)
      · exact hclean.pieces tree List.mem_cons_self
  | flags change =>
      cases h
      refine ⟨hshows, fun hclean => ⟨⟨hclean.outer, hclean.alternatives, ?_⟩, trivial⟩⟩
      exact fun t ht => hclean.pieces t (List.mem_cons_of_mem _ ht)
  | openGroup kind =>
      cases kind with
      | plain change =>
          cases h
          exact ⟨hshows.open (.group change) (fun _ ht => ht) _,
            fun hclean => ⟨hclean.of_open, trivial⟩⟩
      | capture name =>
          have hopen : ∃ names,
              next = builder.open (.capture (builder.names.length + 1)) names := by
            cases name with
            | none =>
                cases h
                exact ⟨_, rfl⟩
            | some name =>
                rw [TreeBuilder.take] at h
                split at h <;> cases h
                exact ⟨_, rfl⟩
          obtain ⟨names, rfl⟩ := hopen
          exact ⟨hshows.open (.capture _) (fun _ ht => ht) _,
            fun hclean => ⟨hclean.of_open, trivial⟩⟩
  | closeGroup =>
      rw [TreeBuilder.take] at h
      split at h
      · cases h
      · rename_i group outer houter
        cases h
        have hgroup : group ∈ builder.outer := houter ▸ List.mem_cons_self
        refine ⟨fun g hg => hshows g (houter ▸ List.mem_cons_of_mem group hg), fun hclean => ?_⟩
        have htree : builder.tree.IsClean :=
          hshows group hgroup _ (hclean.pieces _ List.mem_cons_self)
        obtain ⟨halternatives, hpieces⟩ := isClean_of_tree htree
        refine ⟨⟨fun g hg => ?_, halternatives, hpieces⟩, trivial⟩
        rw [houter, List.mem_cons] at hg
        rcases hg with rfl | hg
        · exact ⟨hclean.alternatives, fun t ht => hclean.pieces t (List.mem_cons_of_mem _ ht)⟩
        · exact hclean.outer g hg
  | bar =>
      cases h
      refine ⟨hshows, fun hclean => ⟨⟨hclean.outer, ?_, ?_⟩, trivial⟩⟩
      · exact fun t ht => hclean.alternatives t (List.mem_cons_of_mem _ ht)
      · intro t ht
        exact Tree.isClean_of_sequence (hclean.alternatives _ List.mem_cons_self) t
          (List.mem_reverse.mpr ht)
  | repetition min max isLazy =>
      rw [TreeBuilder.take] at h
      split at h
      · cases h
      · cases h
      · rename_i piece pieces _ hpieces
        cases h
        refine ⟨hshows, fun hclean => ⟨⟨hclean.outer, hclean.alternatives, ?_⟩, trivial⟩⟩
        rw [hpieces]
        obtain ⟨hpiece, hbefore⟩ := List.forall_mem_cons.mp hclean.pieces
        exact List.forall_mem_cons.mpr ⟨hpiece, hbefore⟩

theorem Shows.foldlM {ls : List Lexeme} (hshows : builder.Shows)
    (h : ls.foldlM TreeBuilder.take builder = .ok next) (hclean : next.IsClean) :
    builder.IsClean ∧ ∀ l ∈ ls, l.IsClean := by
  induction ls generalizing builder with
  | nil =>
      cases h
      exact ⟨hclean, by simp⟩
  | cons l ls ih =>
      rw [List.foldlM_cons] at h
      obtain ⟨between, htake, hrest⟩ := bind_eq_ok.mp h
      obtain ⟨hbetween, htaken⟩ := hshows.take htake
      obtain ⟨hfront, hls⟩ := ih hbetween hrest
      obtain ⟨hbuilder, hl⟩ := htaken hfront
      exact ⟨hbuilder, List.forall_mem_cons.mpr ⟨hl, hls⟩⟩

end TreeBuilder

/-- An expression that compiles has no backslash in the names of its properties. -/
theorem isClean_of_compile {limit : Option Nat} {source : List Char} {regex : Regex}
    (h : compile limit source = .ok regex) :
    ∃ ls, lexemes {} source = .ok ls ∧ ∀ l ∈ ls, l.IsClean := by
  obtain ⟨⟨tree, names⟩, hparse, h⟩ := bind_eq_ok.mp h
  obtain ⟨expression, hexpression, -⟩ := bind_eq_ok.mp h
  obtain ⟨⟨es, flags⟩, hresolve, -⟩ := bind_eq_ok.mp hexpression
  obtain ⟨ls, hls, hparse⟩ := bind_eq_ok.mp hparse
  obtain ⟨built, hbuilt, hfinish⟩ := bind_eq_ok.mp hparse
  refine ⟨ls, hls, ?_⟩
  have hshows : TreeBuilder.Shows {} := by
    intro group hmem
    cases hmem
  refine (hshows.foldlM hbuilt ?_).2
  unfold TreeBuilder.finish at hfinish
  split at hfinish
  · cases hfinish
  · rename_i houter
    split at hfinish
    · cases hfinish
    · cases hfinish
      obtain ⟨halternatives, hpieces⟩ :=
        TreeBuilder.isClean_of_tree (Tree.isClean_of_resolve hresolve)
      refine ⟨?_, halternatives, hpieces⟩
      have hnil : built.outer = [] := by simpa using houter
      simp [hnil]

end Stepwise.Regex
