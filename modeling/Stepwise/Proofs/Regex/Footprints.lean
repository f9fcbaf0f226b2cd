import Stepwise.Proofs.Regex.SetDrafting
import Stepwise.Proofs.Regex.WordTrees
import Stepwise.Regex.Footprint

/-!
# Bounds of footprints

What the parts of an expression take is added up by induction on the expression. Main
statements: the automata of an expression fit into any number of bytes that is not below the
most that they take, and not into one that is below the least.
-/

namespace Stepwise.Regex

variable {plan : DraftPlan} {once : Drafting Exit} {cost least : Nat}

/-- A part of an automaton is affordable if the bytes of a link to what follows are left. -/
abbrev AffordsPart (plan : DraftPlan) (cost : Nat) (part : Drafting Exit) : Prop :=
  Affords plan cost part fun _ => linkBytes

/-- Joining a part to what follows takes the bytes that it leaves. -/
theorem AffordsPart.join {β : Type} {other : Nat} {next : Drafting β} {left : β → Nat}
    (h : AffordsPart plan cost once) (hnext : Affords plan other next left) :
    Affords plan (cost + other) (do (← once).join; next) left :=
  (h.add other).bind fun exit => (affords_join exit).andThen fun _ => hnext

theorem affords_part (exit : Exit) (h : linkBytes ≤ cost) : AffordsPart plan cost (pure exit) :=
  (affords_exit exit).mono h

/-! Repetitions. -/

theorem affords_draftMore (h : AffordsPart plan cost once) (before : Exit) (n : Nat) :
    AffordsPart plan (n * cost + linkBytes) (draftMore once before n) := by
  induction n generalizing before with
  | zero => exact affords_part before (Nat.le_add_left _ _)
  | succ n ih =>
      rw [draftMore, Nat.succ_mul]
      refine ((h.add (n * cost + linkBytes)).bind fun exit => ?_).mono (by omega)
      refine ((affords_join before).andThen fun _ => ih exit).mono (by omega)

theorem affords_draftTimes (h : AffordsPart plan cost once) (n : Nat) :
    AffordsPart plan (n * cost + (stateBytes + linkBytes)) (draftTimes once n) := by
  cases n with
  | zero => exact (affords_addState.andThen fun _ => affords_exit .held).mono (by omega)
  | succ n =>
      rw [draftTimes, Nat.succ_mul]
      refine ((h.add (n * cost)).bind fun exit => ?_).mono (by omega)
      exact (affords_draftMore h exit n).mono (by omega)

theorem affords_draftUpTo (h : AffordsPart plan cost once) (before : Exit) (n : Nat) :
    Affords plan (n * (cost + (stateBytes + 2 * linkBytes)) + linkBytes)
      (draftUpTo once before n) fun _ => 0 := by
  induction n generalizing before with
  | zero => exact (affords_join before).mono (by omega)
  | succ n ih =>
      rw [draftUpTo, Nat.succ_mul]
      refine (affords_addState.andThen fun _ => (affords_join before).andThen fun _ =>
        (h.add (2 * linkBytes + n * (cost + (stateBytes + 2 * linkBytes)))).bind fun exit =>
          ((affords_addLinks 2).andThen fun _ => ih exit).mono (by omega)).mono (by omega)

/-- The bytes that a repetition takes at most besides its parts. -/
def repeatBytes : Nat :=
  3 * stateBytes + 5 * linkBytes

/-- The most times that a part is drafted for a repetition. -/
def mostTimes (least : Nat) : Option Nat → Nat
  | none => max least 1
  | some most => max least most

theorem affords_draftMany (h : AffordsPart plan cost once) (consumes : Bool) :
    AffordsPart plan (cost + repeatBytes) (draftMany once consumes) := by
  rw [draftMany]
  split
  · refine (affords_addState.andThen fun _ => h.join
      ((affords_addLinks 1).andThen fun _ => affords_exit .listed)).mono ?_
    rw [repeatBytes]
    omega
  · refine (h.join ((affords_addStates 3 0).andThen fun _ =>
      (affords_addLinks 4).andThen fun _ => affords_exit .held)).mono ?_
    rw [repeatBytes]
    omega

theorem affords_draftAtLeast (h : AffordsPart plan cost once) (min : Nat) :
    AffordsPart plan (min * cost + repeatBytes) (draftAtLeast once min) := by
  rw [draftAtLeast]
  refine ((affords_draftTimes h min).join (affords_addState.andThen fun _ =>
    (affords_addLinks 1).andThen fun _ => affords_exit .listed)).mono ?_
  rw [repeatBytes]
  omega

theorem affords_draftOptional (h : AffordsPart plan cost once) :
    AffordsPart plan (cost + repeatBytes) (draftRepeated once false 0 (some 1)) := by
  refine (affords_addState.andThen fun _ => h.join (affords_addState.andThen fun _ =>
    (affords_addLinks 2).andThen fun _ => affords_exit .held)).mono ?_
  rw [repeatBytes]
  omega

theorem affords_draftRepeated (h : AffordsPart plan cost once) (consumes : Bool) (least : Nat)
    (most : Option Nat) :
    AffordsPart plan
      (mostTimes least most * (cost + (stateBytes + 2 * linkBytes)) + repeatBytes)
      (draftRepeated once consumes least most) := by
  have hcost : cost ≤ cost + (stateBytes + 2 * linkBytes) := Nat.le_add_right _ _
  cases most with
  | none =>
      rw [draftRepeated, mostTimes]
      split
      · have hone : cost ≤ max least 1 * (cost + (stateBytes + 2 * linkBytes)) :=
          Nat.le_trans hcost (Nat.le_mul_of_pos_left _ (Nat.le_max_right least 1))
        exact (affords_draftMany h consumes).mono (Nat.add_le_add_right hone _)
      · have hleast : least * cost ≤ max least 1 * (cost + (stateBytes + 2 * linkBytes)) :=
          Nat.mul_le_mul (Nat.le_max_left least 1) hcost
        exact (affords_draftAtLeast h least).mono (Nat.add_le_add_right hleast _)
  | some most =>
      rw [draftRepeated, mostTimes]
      split
      · rename_i hone
        obtain ⟨rfl, rfl⟩ := hone
        exact (affords_draftOptional h).mono (by simp)
      · have hleast : least * cost ≤ least * (cost + (stateBytes + 2 * linkBytes)) :=
          Nat.mul_le_mul_left least hcost
        have hmost : max least most = least + (most - least) := by omega
        rw [hmost, Nat.add_mul]
        refine (((affords_draftTimes h least).add (stateBytes + linkBytes +
          (most - least) * (cost + (stateBytes + 2 * linkBytes)))).bind fun exit => ?_).mono (by
            rw [repeatBytes]
            omega)
        split
        · exact affords_part exit (Nat.le_add_right _ _)
        · refine (affords_addState.andThen fun _ => (affords_draftUpTo h exit _).andThen fun _ =>
            affords_exit .held).mono ?_
          omega

/-! Choices. -/

/-- The bytes that one more part of a choice takes at most besides the part itself. -/
def choiceBytes : Nat :=
  2 * stateBytes + 3 * linkBytes

/-- Joining parts to what follows a choice takes a link for each of them. -/
theorem affords_joinAll {parts : List (Drafting Exit)} {costs : List Nat}
    (h : List.Forall₂ (fun part cost => AffordsPart plan cost part) parts costs) :
    Affords plan (costs.sum + costs.length * linkBytes)
      (forIn parts PUnit.unit fun part _ => do
        (← part).join
        addLinks 1
        return ForInStep.yield PUnit.unit) fun _ => 0 := by
  have hturns : List.Forall₂
      (fun part cost => Affords plan cost (do
        (← part).join
        addLinks 1
        return ForInStep.yield PUnit.unit) fun _ => 0)
      parts (costs.map (· + linkBytes)) := by
    refine List.forall₂_map_right_iff.mpr (h.imp fun part cost hpart => ?_)
    exact (hpart.join ((affords_addLinks 1).andThen fun _ =>
      affords_done (ForInStep.yield PUnit.unit))).mono (by omega)
  have hsum : (costs.map (· + linkBytes)).sum = costs.sum + costs.length * linkBytes := by
    rw [List.sum_map_add, List.map_id', List.map_const', List.sum_replicate_nat]
  rw [← hsum]
  exact affords_forIn hturns

theorem affords_draftParts {parts : List (Drafting Exit)} {costs : List Nat}
    (h : List.Forall₂ (fun part cost => AffordsPart plan cost part) parts costs)
    (hne : parts ≠ []) :
    AffordsPart plan (costs.sum + choiceBytes * (costs.length - 1)) (draftParts parts) := by
  cases h with
  | nil => exact absurd rfl hne
  | @cons first a others bs hfirst hothers =>
      cases hothers with
      | nil => exact hfirst.mono (Nat.le_add_right _ _)
      | @cons second b rest cs hsecond hrest =>
          have hjoined (x y : Exit) : AffordsPart plan
              (2 * stateBytes + 5 * linkBytes + (cs.sum + cs.length * linkBytes)) (do
                let _ ← addStates 2 0
                x.join
                y.join
                addLinks 2
                for part in rest do
                  (← part).join
                  addLinks 1
                return .held) := by
            refine ((affords_addStates 2 0).andThen fun _ => (affords_join x).andThen fun _ =>
              (affords_join y).andThen fun _ => (affords_addLinks 2).andThen fun _ =>
                (affords_joinAll hrest).andThen fun _ => affords_exit .held).mono ?_
            omega
          refine ((hfirst.add (b + (2 * stateBytes + 3 * linkBytes +
            (cs.sum + cs.length * linkBytes)))).bind fun x =>
              ((hsecond.add (2 * stateBytes + 4 * linkBytes +
                (cs.sum + cs.length * linkBytes))).bind fun y =>
                  (hjoined x y).mono ?_).mono ?_).mono ?_
          · omega
          · omega
          · rw [List.sum_cons, List.sum_cons, List.length_cons, List.length_cons, choiceBytes,
              Nat.add_sub_cancel, Nat.mul_succ]
            have hlinks : cs.length * linkBytes ≤ (2 * stateBytes + 3 * linkBytes) * cs.length := by
              rw [Nat.mul_comm]
              exact Nat.mul_le_mul_right _ (by decide)
            omega

namespace Expression

/-- The bytes that an octet of a literal takes at most, also if it is in the tree of a choice. -/
def octetBytes : Nat :=
  2 * stateBytes + linkBytes + arcBytes

/-- The bytes that an expression takes at most, with those of a link to what follows. -/
def mostBytes : Expression → Nat
  | .empty => stateBytes + linkBytes
  | .literal cs => (spelled cs).length * octetBytes + linkBytes
  | .set octets s => s.mostBytes octets + linkBytes
  | .look _ => stateBytes + linkBytes
  | .group _ body => body.mostBytes + (2 * stateBytes + linkBytes)
  | .repeated least most _ body =>
      mostTimes least most * (body.mostBytes + (stateBytes + 2 * linkBytes)) + repeatBytes
  | .cat left right => left.mostBytes + right.mostBytes
  | .alt left right => left.mostBytes + right.mostBytes + choiceBytes

variable {words : List (List Nat)}

theorem words?_alt_eq_some {left right : Expression} :
    (alt left right).words? = some words ↔
      ∃ cs rest, left = .literal cs ∧ right.words? = some rest ∧ words = spelled cs :: rest := by
  rw [Expression.words?, alternatives, List.mapM_cons, Option.bind_eq_bind, Option.bind_eq_some_iff]
  constructor
  · rintro ⟨word, hword, h⟩
    obtain ⟨rest, hrest, h⟩ := Option.bind_eq_some_iff.mp h
    cases left with
    | literal cs =>
        obtain rfl := Option.some.inj hword
        exact ⟨cs, rest, rfl, hrest, (Option.some.inj h).symm⟩
    | _ => exact absurd hword (by simp)
  · rintro ⟨cs, rest, rfl, hrest, rfl⟩
    exact ⟨spelled cs, rfl, Option.bind_eq_some_iff.mpr ⟨rest, hrest, rfl⟩⟩

/-- A choice between words takes no more than its words. -/
theorem wordsBytes_le {e : Expression} (h : e.words? = some words) :
    letters words * octetBytes + words.length * linkBytes + choiceBytes * (words.length - 1) ≤
      e.mostBytes := by
  induction e generalizing words with
  | alt left right _ ih =>
      obtain ⟨cs, rest, rfl, hrest, rfl⟩ := words?_alt_eq_some.mp h
      have hle := ih hrest
      rw [letters_cons, List.length_cons, mostBytes, mostBytes, Nat.add_sub_cancel]
      simp only [octetBytes, choiceBytes, stateBytes, linkBytes, arcBytes] at hle ⊢
      omega
  | literal cs =>
      obtain rfl : [spelled cs] = words := Option.some.inj h
      simp [letters, mostBytes]
  | _ => exact absurd h (by simp [Expression.words?, alternatives])

theorem two_le_length_of_words? {e : Expression} (h : e.words? = some words)
    (hdrafts : 2 ≤ e.drafts.length) : 2 ≤ words.length := by
  have hne {e : Expression} {words : List (List Nat)} (h : e.words? = some words) : words ≠ [] := by
    rintro rfl
    cases e with
    | alt left right => obtain ⟨cs, rest, -, -, hwords⟩ := words?_alt_eq_some.mp h; simp at hwords
    | _ => exact absurd h (by simp [Expression.words?, alternatives])
  cases e with
  | alt left right =>
      obtain ⟨cs, rest, -, hrest, rfl⟩ := words?_alt_eq_some.mp h
      exact Nat.succ_le_succ (List.length_pos_of_ne_nil (hne hrest))
  | _ => exact absurd hdrafts (by simp [drafts])

/-- The drafts of the alternatives of an expression are affordable. -/
def AffordsAll (plan : DraftPlan) (parts : List (Drafting Exit)) (cost : Nat) : Prop :=
  ∃ costs, List.Forall₂ (fun part cost => AffordsPart plan cost part) parts costs ∧
    costs ≠ [] ∧ costs.sum + choiceBytes * (costs.length - 1) ≤ cost

theorem affordsAll_single {part : Drafting Exit} (h : AffordsPart plan cost part) :
    AffordsAll plan [part] cost :=
  ⟨[cost], .cons h .nil, List.cons_ne_nil _ _, by simp⟩

theorem affordsAll_cons {part : Drafting Exit} {parts : List (Drafting Exit)} {other : Nat}
    (h : AffordsPart plan cost part) (hparts : AffordsAll plan parts other) :
    AffordsAll plan (part :: parts) (cost + other + choiceBytes) := by
  obtain ⟨costs, hcosts, hne, hle⟩ := hparts
  refine ⟨cost :: costs, .cons h hcosts, List.cons_ne_nil _ _, ?_⟩
  obtain ⟨n, hn⟩ := Nat.exists_eq_succ_of_ne_zero (List.length_pos_of_ne_nil hne).ne'
  rw [hn, Nat.succ_sub_one] at hle
  rw [List.sum_cons, List.length_cons, hn, Nat.add_sub_cancel, Nat.mul_succ]
  omega

/-- An expression is affordable if the drafts of its alternatives are. -/
theorem affords_draft_of_drafts {e : Expression} (h : AffordsAll plan e.drafts e.mostBytes) :
    AffordsPart plan e.mostBytes e.draft := by
  obtain ⟨costs, hcosts, hne, hle⟩ := h
  have hparts : e.drafts ≠ [] := fun hnil =>
    hne (List.length_eq_zero_iff.mp (hcosts.length_eq ▸ List.length_eq_zero_iff.mpr hnil))
  unfold draft draftChoice
  split
  · rename_i words hdrafts hwords
    have htwo := two_le_length_of_words? hwords (by rw [hdrafts]; simp)
    have hbytes := wordsBytes_le hwords
    refine (affords_draftWords words).mono (Nat.le_trans ?_ hbytes)
    simp only [wordsBytes, octetBytes, choiceBytes, stateBytes, linkBytes, arcBytes]
    omega
  · exact (affords_draftParts hcosts hparts).mono hle

theorem affords_literal (cs : List Char) :
    AffordsPart plan ((spelled cs).length * octetBytes + linkBytes) (do
      let _ ← addStates (spelled cs).length 0
      return .held) := by
  refine ((affords_addStates _ 0).andThen fun _ => affords_exit .held).mono ?_
  have hstate : (spelled cs).length * stateBytes ≤ (spelled cs).length * octetBytes :=
    Nat.mul_le_mul_left _ (by decide)
  omega

/-- A group is remembered by two states around its body, unless the automaton reads backward. -/
theorem affords_group (h : AffordsPart plan cost once) :
    AffordsPart plan (cost + (2 * stateBytes + linkBytes)) (do
      match (← read).direction with
      | .forward =>
          let _ ← addState
          (← once).join
          let _ ← addState
          return .held
      | .backward => once) := by
  refine affords_read ?_
  split
  · exact (affords_addState.andThen fun _ => h.join (affords_addState.andThen fun _ =>
      affords_exit .held)).mono (by omega)
  · exact h.mono (Nat.le_add_right _ _)

theorem affords_cat {left right : Drafting Exit} {other : Nat} (hleft : AffordsPart plan cost left)
    (hright : AffordsPart plan other right) :
    AffordsPart plan (cost + other) (do
      match (← read).direction with
      | .forward =>
          let exit ← left
          let last ← right
          exit.join
          return last
      | .backward =>
          let exit ← right
          let last ← left
          exit.join
          return last) := by
  have hboth {first second : Drafting Exit} {a b : Nat} (hfirst : AffordsPart plan a first)
      (hsecond : AffordsPart plan b second) :
      AffordsPart plan (a + b) (do
        let exit ← first
        let last ← second
        exit.join
        return last) :=
    (hfirst.add b).bind fun exit => ((hsecond.add linkBytes).mono (by omega)).bind fun last =>
      (affords_join exit).andThen fun _ => affords_exit last
  refine affords_read ?_
  split
  · exact hboth hleft hright
  · exact (hboth hright hleft).mono (by omega)

/-- The drafts of the alternatives of an expression are affordable. -/
theorem affords_drafts (e : Expression) : AffordsAll plan e.drafts e.mostBytes := by
  induction e with
  | empty => exact affordsAll_single (affords_addState.andThen fun _ => affords_exit .held)
  | literal cs => exact affordsAll_single (affords_literal cs)
  | set octets s => exact affordsAll_single (affords_draftSet octets s)
  | look l => exact affordsAll_single (affords_addState.andThen fun _ => affords_exit .held)
  | group index body ih => exact affordsAll_single (affords_group (affords_draft_of_drafts ih))
  | repeated min max greedy body ih =>
      exact affordsAll_single
        (affords_draftRepeated (affords_draft_of_drafts ih) body.consumes min max)
  | cat left right ihl ihr =>
      exact affordsAll_single
        (affords_cat (affords_draft_of_drafts ihl) (affords_draft_of_drafts ihr))
  | alt left right ihl ihr => exact affordsAll_cons (affords_draft_of_drafts ihl) ihr

theorem affords_draft (e : Expression) : AffordsPart plan e.mostBytes e.draft :=
  affords_draft_of_drafts e.affords_drafts

/-- The remaining text in front of what an automaton finds. -/
def lead (isAnchored : Bool) : Expression :=
  if isAnchored then .empty else .repeated 0 none false (.set true [(0, 0xff)])

/-- The bytes that an automaton takes at most besides its expression: for the remaining text in
front of it, for the group of the whole match and for the state of the match. -/
def aroundBytes : Nat :=
  (lead false).mostBytes + (2 * stateBytes + linkBytes) + stateBytes

theorem affords_draftWhole (e : Expression) (plan : DraftPlan) :
    Affords plan (e.mostBytes + aroundBytes) e.draftWhole fun _ => 0 := by
  have hlead (isAnchored : Bool) :
      AffordsPart plan (lead false).mostBytes (lead isAnchored).draft :=
    (affords_draft _).mono (by cases isAnchored <;> decide)
  have hmatch (before : Exit) :
      Affords plan ((Expression.group 0 e).mostBytes + stateBytes + linkBytes) (do
        let exit ← (Expression.group 0 e).draft
        let _ ← addState
        exit.join
        before.join) fun _ => 0 :=
    (((affords_draft (.group 0 e)).add (stateBytes + linkBytes)).bind fun exit =>
      (affords_addState.andThen fun _ => (affords_join exit).andThen fun _ =>
        affords_join before).mono (by omega)).mono (by omega)
  unfold draftWhole
  refine affords_read ?_
  refine (((hlead _).add ((Expression.group 0 e).mostBytes + stateBytes)).bind fun before =>
    (hmatch before).mono (by omega)).mono ?_
  rw [aroundBytes, mostBytes]
  omega

/-- The automata of an expression fit into the bytes that they take at most. -/
theorem fitsInto_of_mostBytes_le {e : Expression} {limit : Nat}
    (h : e.mostBytes + aroundBytes ≤ limit) : e.fitsInto limit = true := by
  have hsome (direction : Direction) : (e.footprint? direction limit).isSome = true := by
    obtain ⟨done, after, hafter, -⟩ := affords_draftWhole e ⟨direction, limit⟩ {} (by
      simpa [Draft.bytes] using h)
    have hrun : (e.draftWhole ⟨direction, limit⟩).run {} = some (done, after) := hafter
    rw [footprint?, hrun]
    rfl
  rw [fitsInto, hsome, hsome]
  rfl

end Expression

/-! What parts take at least. -/

theorem takes_draftMore (h : Takes plan least once) (before : Exit) (n : Nat) :
    Takes plan (n * least) (draftMore once before n) := by
  induction n generalizing before with
  | zero => exact (takes_pure before).mono (by omega)
  | succ n ih =>
      rw [draftMore, Nat.succ_mul]
      exact (h.bind fun exit => (takes_join before).bind fun _ => ih exit).mono (by omega)

theorem takes_draftTimes (h : Takes plan least once) (n : Nat) :
    Takes plan (n * least) (draftTimes once n) := by
  cases n with
  | zero => exact (takes_addState.bind fun _ => takes_pure Exit.held).mono (by omega)
  | succ n =>
      rw [draftTimes, Nat.succ_mul]
      exact (h.bind fun exit => takes_draftMore h exit n).mono (by omega)

theorem takes_draftUpTo (h : Takes plan 0 once) (before : Exit) (n : Nat) :
    Takes plan 0 (draftUpTo once before n) := by
  induction n generalizing before with
  | zero => exact takes_join before
  | succ n ih =>
      exact (takes_addState.bind fun _ => (takes_join before).bind fun _ => h.bind fun exit =>
        (takes_addLinks 2).bind fun _ => ih exit).mono (Nat.zero_le _)

theorem takes_draftRepeated (h : Takes plan least once) (consumes : Bool) (min : Nat)
    (max : Option Nat) : Takes plan (min * least) (draftRepeated once consumes min max) := by
  have hnone : Takes plan 0 once := h.mono (Nat.zero_le _)
  cases max with
  | none =>
      rw [draftRepeated]
      split
      · rename_i hmin
        rw [hmin, Nat.zero_mul, draftMany]
        split
        · exact (takes_addState.bind fun _ => hnone.bind fun exit => (takes_join exit).bind fun _ =>
            (takes_addLinks 1).bind fun _ => takes_pure Exit.listed).mono (Nat.zero_le _)
        · exact (hnone.bind fun exit => (takes_join exit).bind fun _ =>
            (takes_addStates 3 0).bind fun _ => (takes_addLinks 4).bind fun _ =>
              takes_pure Exit.held).mono (Nat.zero_le _)
      · exact ((takes_draftTimes h min).bind fun exit => (takes_join exit).bind fun _ =>
          takes_addState.bind fun _ => (takes_addLinks 1).bind fun _ =>
            takes_pure Exit.listed).mono (Nat.le_add_right _ _)
  | some max =>
      rw [draftRepeated]
      split
      · rename_i hmin
        rw [hmin.1, Nat.zero_mul]
        exact (takes_addState.bind fun _ => hnone.bind fun exit => (takes_join exit).bind fun _ =>
          takes_addState.bind fun _ => (takes_addLinks 2).bind fun _ =>
            takes_pure Exit.held).mono (Nat.zero_le _)
      · change Takes plan (min * least + 0) _
        refine (takes_draftTimes h min).bind fun exit => ?_
        split
        · exact takes_pure exit
        · exact (takes_addState.bind fun _ => (takes_draftUpTo hnone exit _).bind fun _ =>
            takes_pure Exit.held).mono (Nat.zero_le _)

theorem takes_draftParts {parts : List (Drafting Exit)} {bytes : List Nat}
    (h : List.Forall₂ (fun part least => Takes plan least part) parts bytes) :
    Takes plan bytes.sum (draftParts parts) := by
  cases h with
  | nil => exact fun draft result after hnone => absurd hnone (Option.some_ne_none _).symm
  | @cons first a others bs hfirst hothers =>
      cases hothers with
      | nil => exact hfirst.mono (by simp)
      | @cons second b rest cs hsecond hrest =>
          have hturns : Takes plan cs.sum
              (forIn rest PUnit.unit fun part _ => do
                (← part).join
                addLinks 1
                return ForInStep.yield PUnit.unit) := by
            have hloop := takes_forIn (hrest.imp fun part least hpart =>
              (hpart.bind fun exit => (takes_join exit).bind fun _ => takes_addLinks 1).mono
                (Nat.le_add_right least _))
            simpa only [bind_assoc] using hloop
          rw [List.sum_cons, List.sum_cons]
          exact (hfirst.bind fun x => hsecond.bind fun y => (takes_addStates 2 0).bind fun _ =>
            (takes_join x).bind fun _ => (takes_join y).bind fun _ => (takes_addLinks 2).bind
              fun _ => hturns.bind fun _ => takes_pure Exit.held).mono (by omega)

namespace Expression

/-- The bytes that an expression takes at least in a backward automaton. The tree of a choice
between words takes none that are counted. -/
def leastBytes : Expression → Nat
  | .empty => 0
  | .literal cs => (spelled cs).length * stateBytes
  | .set octets s => s.leastBytes octets
  | .look _ => stateBytes
  | .group _ body => body.leastBytes
  | .repeated min _ _ body => min * body.leastBytes
  | .cat left right => left.leastBytes + right.leastBytes
  | .alt left right =>
      if (alt left right).words?.isSome then 0 else left.leastBytes + right.leastBytes

/-- The drafts of the alternatives of an expression take a number of bytes at least. -/
def TakesAll (plan : DraftPlan) (parts : List (Drafting Exit)) (least : Nat) : Prop :=
  ∃ bytes, List.Forall₂ (fun part least => Takes plan least part) parts bytes ∧ least ≤ bytes.sum

theorem takesAll_single {part : Drafting Exit} (h : Takes plan least part) :
    TakesAll plan [part] least :=
  ⟨[least], .cons h .nil, by simp⟩

theorem takes_draftWords (words : List (List Nat)) : Takes plan 0 (draftWords words) :=
  fun draft result after hafter =>
    (takes_addState.bind fun _ => (takes_addStates _ _).bind fun _ => takes_pure Exit.held).mono
      (Nat.zero_le _) draft result after hafter

theorem leastBytes_eq_zero_of_words? {e : Expression} {words : List (List Nat)}
    (h : e.words? = some words) (hdrafts : 2 ≤ e.drafts.length) : e.leastBytes = 0 := by
  cases e with
  | alt left right => rw [leastBytes, h]; rfl
  | _ => exact absurd hdrafts (by simp [drafts])

theorem takes_draft_of_drafts {e : Expression} (h : TakesAll plan e.drafts e.leastBytes) :
    Takes plan e.leastBytes e.draft := by
  obtain ⟨bytes, hbytes, hle⟩ := h
  unfold draft draftChoice
  split
  · rename_i words hdrafts hwords
    rw [leastBytes_eq_zero_of_words? hwords (by rw [hdrafts]; simp)]
    exact takes_draftWords words
  · exact (takes_draftParts hbytes).mono hle

theorem takes_literal (cs : List Char) :
    Takes plan ((spelled cs).length * stateBytes) (do
      let _ ← addStates (spelled cs).length 0
      return Exit.held) :=
  ((takes_addStates _ 0).bind fun _ => takes_pure Exit.held).mono (Nat.le_add_right _ _)

/-- The drafts of the alternatives of an expression take its bytes at least. -/
theorem takes_drafts (e : Expression) (limit : Nat) :
    TakesAll ⟨.backward, limit⟩ e.drafts e.leastBytes := by
  induction e with
  | empty =>
      exact takesAll_single
        ((takes_addState.bind fun _ => takes_pure Exit.held).mono (Nat.zero_le _))
  | literal cs => exact takesAll_single (takes_literal cs)
  | set octets s => exact takesAll_single (takes_draftSet limit octets s)
  | look l =>
      exact takesAll_single
        ((takes_addState.bind fun _ => takes_pure Exit.held).mono (Nat.le_refl _))
  | group index body ih =>
      have hbody : Takes ⟨.backward, limit⟩ body.leastBytes body.draft := takes_draft_of_drafts ih
      exact takesAll_single hbody
  | repeated min max greedy body ih =>
      exact takesAll_single (takes_draftRepeated (takes_draft_of_drafts ih) body.consumes min max)
  | cat left right ihl ihr =>
      have hboth : Takes ⟨.backward, limit⟩ (right.leastBytes + (left.leastBytes + 0)) (do
          let exit ← right.draft
          let last ← left.draft
          exit.join
          return last) :=
        (takes_draft_of_drafts ihr).bind fun exit => (takes_draft_of_drafts ihl).bind fun last =>
          (takes_join exit).bind fun _ => takes_pure last
      exact takesAll_single (hboth.mono (by rw [leastBytes]; omega))
  | alt left right ihl ihr =>
      obtain ⟨bytes, hbytes, hle⟩ := ihr
      refine ⟨left.leastBytes :: bytes, .cons (takes_draft_of_drafts ihl) hbytes, ?_⟩
      rw [leastBytes, List.sum_cons]
      split
      · exact Nat.zero_le _
      · omega

theorem takes_draft (e : Expression) (limit : Nat) :
    Takes ⟨.backward, limit⟩ e.leastBytes e.draft :=
  takes_draft_of_drafts (e.takes_drafts limit)

/-- The automata of an expression do not fit into less than it takes at least. -/
theorem leastBytes_le_of_fitsInto {e : Expression} {limit : Nat} (h : e.fitsInto limit = true) :
    e.leastBytes ≤ limit := by
  have hwhole : Takes ⟨.backward, limit⟩ (0 + (e.leastBytes + 0)) e.draftWhole :=
    ((takes_draft _ limit).mono (Nat.zero_le _)).bind fun before =>
      (takes_draft (.group 0 e) limit).bind fun exit => (takes_addState.bind fun _ =>
        (takes_join exit).bind fun _ => takes_join before).mono (Nat.zero_le _)
  have hsome : (e.footprint? .backward limit).isSome = true := by
    rw [fitsInto, Bool.and_eq_true] at h
    exact h.2
  obtain ⟨bytes, hbytes⟩ := Option.isSome_iff_exists.mp hsome
  obtain ⟨⟨done, after⟩, hafter, -⟩ := Option.map_eq_some_iff.mp hbytes
  obtain ⟨hle, hlimit⟩ := hwhole {} done after hafter
  have hstart : ({} : Draft).bytes = 0 := rfl
  rw [hstart] at hle hlimit
  exact Nat.le_trans (by omega) (hlimit (Nat.zero_le _))

end Expression

end Stepwise.Regex
