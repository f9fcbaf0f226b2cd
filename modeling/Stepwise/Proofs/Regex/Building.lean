import Mathlib.Data.List.Nodup
import Stepwise.Regex.Parse

/-!
# Building trees from lexemes

Lexemes that belong together add the same pieces to every tree they are taken into. Main
statement: this goes on through groups, choices and repetitions, as long as no group has
the name of another one.
-/

namespace Stepwise.Regex

/-- No name occurs twice among the names of groups. -/
def Distinct (names : List (Option String)) : Prop :=
  (names.filterMap id).Nodup

/-- Lexemes behind a number of groups add some names and some pieces. -/
def Builds (ls : List Lexeme) (n : Nat) (names : List (Option String)) (ts : List Tree) : Prop :=
  ∀ builder : TreeBuilder, builder.names.length = n →
    Distinct (names.reverse ++ builder.names) →
      ls.foldlM TreeBuilder.take builder =
        .ok { builder with
          pieces := ts.reverse ++ builder.pieces
          names := names.reverse ++ builder.names }

/-- Lexemes behind a number of groups add some names and some alternatives, of which the
last one is still read. -/
def BuildsChoice (ls : List Lexeme) (n : Nat) (names : List (Option String)) (ts : List Tree) :
    Prop :=
  ∀ builder : TreeBuilder, builder.pieces = [] → builder.names.length = n →
    Distinct (names.reverse ++ builder.names) →
      ∃ built, ls.foldlM TreeBuilder.take builder = .ok built ∧
        built.outer = builder.outer ∧ built.names = names.reverse ++ builder.names ∧
        Tree.sequence built.pieces.reverse :: built.alternatives =
          ts.reverse ++ builder.alternatives

variable {ls ms : List Lexeme} {n : Nat} {names others : List (Option String)} {ts us : List Tree}

theorem Distinct.of_append (h : Distinct (names ++ others)) : Distinct others := by
  rw [Distinct, List.filterMap_append] at h
  exact h.of_append_right

theorem Distinct.reverse (h : Distinct names) : Distinct names.reverse := by
  rw [Distinct, List.filterMap_reverse]
  exact List.nodup_reverse.mpr h

theorem Distinct.not_mem {name : String} (h : Distinct (some name :: names)) :
    some name ∉ names := by
  intro hmem
  rw [Distinct, List.filterMap_cons_some (by rfl : id (some name) = some name)] at h
  exact (List.nodup_cons.mp h).1 (List.mem_filterMap.mpr ⟨some name, hmem, rfl⟩)

theorem builds_nil : Builds [] n [] [] := by
  intro builder hn hnames
  rfl

theorem builds_atom (t : Tree) : Builds [.atom t] n [] [t] := by
  intro builder hn hnames
  rfl

theorem Builds.append (hleft : Builds ls n names ts)
    (hright : Builds ms (n + names.length) others us) :
    Builds (ls ++ ms) n (names ++ others) (ts ++ us) := by
  intro builder hn hnames
  rw [List.reverse_append, List.append_assoc] at hnames
  rw [List.foldlM_append, hleft builder hn hnames.of_append]
  change ms.foldlM TreeBuilder.take _ = _
  rw [hright _ (by simp [hn, Nat.add_comm]) hnames]
  simp

theorem Builds.repeated {t : Tree} (h : Builds ls n names [t]) (ht : ∀ change, t ≠ .flags change)
    (min : Nat) (max : Option Nat) (isLazy : Bool) :
    Builds (ls ++ [.repetition min max isLazy]) n names [.repeated t min max (!isLazy)] := by
  intro builder hn hnames
  rw [List.foldlM_append, h builder hn hnames]
  change List.foldlM TreeBuilder.take _ [_] = _
  cases t with
  | flags change => exact absurd rfl (ht change)
  | _ => rfl

theorem Builds.choice (h : Builds ls n names ts) :
    BuildsChoice ls n names [Tree.sequence ts] := by
  intro builder hpieces hn hnames
  refine ⟨_, h builder hn hnames, rfl, rfl, ?_⟩
  simp [hpieces]

theorem Builds.choice_cons (hleft : Builds ls n names ts)
    (hright : BuildsChoice ms (n + names.length) others us) :
    BuildsChoice (ls ++ .bar :: ms) n (names ++ others) (Tree.sequence ts :: us) := by
  intro builder hpieces hn hnames
  rw [List.reverse_append, List.append_assoc] at hnames
  obtain ⟨built, hbuilt, houter, hnames', halternatives⟩ := hright
    { builder with
      alternatives := Tree.sequence ts :: builder.alternatives
      pieces := []
      names := names.reverse ++ builder.names } rfl (by simp [hn, Nat.add_comm]) hnames
  refine ⟨built, ?_, houter, by simp [hnames'], by simp [halternatives]⟩
  rw [List.foldlM_append, hleft builder hn hnames.of_append]
  change List.foldlM TreeBuilder.take _ (.bar :: ms) = _
  rw [List.foldlM_cons]
  simp only [TreeBuilder.take, hpieces, List.append_nil, List.reverse_reverse]
  exact hbuilt

/-- Taking in a group that is closed again. -/
theorem foldlM_group (builder : TreeBuilder) (close : Tree → Tree) (name : List (Option String))
    (h : BuildsChoice ls (name ++ builder.names).length names ts)
    (hnames : Distinct (names.reverse ++ (name ++ builder.names))) :
    (ls ++ [Lexeme.closeGroup]).foldlM TreeBuilder.take (builder.open close (name ++ builder.names)) =
      .ok { builder with
        pieces := close (Tree.choice ts) :: builder.pieces
        names := names.reverse ++ (name ++ builder.names) } := by
  obtain ⟨built, hbuilt, houter, hnames', halternatives⟩ :=
    h (builder.open close (name ++ builder.names)) rfl rfl hnames
  rw [List.foldlM_append, hbuilt]
  change List.foldlM TreeBuilder.take built [.closeGroup] = _
  have htree : built.tree = Tree.choice ts := by
    rw [TreeBuilder.tree, halternatives]
    simp [TreeBuilder.open]
  rw [TreeBuilder.open] at houter hnames'
  simp [TreeBuilder.take, houter, htree, hnames']

theorem BuildsChoice.group (h : BuildsChoice ls n names ts) :
    Builds (.openGroup (.plain []) :: (ls ++ [.closeGroup])) n names
      [.group [] (Tree.choice ts)] := by
  intro builder hn hnames
  exact foldlM_group builder (.group []) [] (by rwa [List.nil_append, hn]) hnames

theorem BuildsChoice.capture {name : Option String} (h : BuildsChoice ls (n + 1) names ts) :
    Builds (.openGroup (.capture name) :: (ls ++ [.closeGroup])) n (name :: names)
      [.capture (n + 1) (Tree.choice ts)] := by
  intro builder hn hnames
  rw [List.reverse_cons, List.append_assoc] at hnames
  have hgroup := foldlM_group builder (.capture (n + 1)) [name]
    (by rw [List.length_append, hn, Nat.add_comm]; exact h) hnames
  rw [List.foldlM_cons]
  have htake : builder.take (.openGroup (.capture name)) =
      .ok (builder.open (.capture (n + 1)) ([name] ++ builder.names)) := by
    cases name with
    | none => simp [TreeBuilder.take, hn]
    | some name =>
        have hnew : some name ∉ builder.names := hnames.of_append.not_mem
        simp [TreeBuilder.take, hn, hnew]
  rw [htake]
  change List.foldlM TreeBuilder.take _ (ls ++ [.closeGroup]) = _
  rw [hgroup]
  simp

end Stepwise.Regex
