import Mathlib.Algebra.Order.BigOperators.Group.List
import Mathlib.Algebra.Order.Group.Nat
import Mathlib.Data.List.Dedup
import Mathlib.Data.List.Destutter
import Mathlib.Data.List.Infix
import Mathlib.Data.List.Perm.Subperm
import Mathlib.Logic.Function.Basic
import Stepwise.Proofs.Regex.Drafting
import Stepwise.Regex.SetDraft

/-!
# The bytes of drafted sets

The states of a set are shared as far as they are remembered, so that its size is not told by
its characters alone. Main statements: a set takes no more than the ranges of octets in its
sequences call for, and a backward automaton has a state for every beginning of a sequence.
-/

namespace Stepwise.Regex

/-- The sequences of ranges of octets that the characters of a set are written with. -/
def CharSet.sequences (s : CharSet) : List (List OctetRange) :=
  s.flatMap fun (lo, hi) => octetRanges lo hi

/-- The bytes of a list of links with ranges, and of the state that has them. -/
def arcsBytes (n : Nat) : Nat :=
  stateBytes + n * arcBytes

/-- The bytes that an open state takes when it is closed. -/
def OpenState.bytes (s : OpenState) : Nat :=
  arcsBytes (s.arcs.length + s.last.toList.length)

/-- The bytes that open states take when they are closed. -/
def openBytes (states : List OpenState) : Nat :=
  (states.map OpenState.bytes).sum

/-- The bytes that ranges of octets take at most when each of them has a state of its own. -/
def rangesBytes (ranges : List OctetRange) : Nat :=
  ranges.length * arcsBytes 1

def CharSet.mostBytes (octets : Bool) (s : CharSet) : Nat :=
  if octets || s.all (·.2 < 0x80) then stateBytes + arcsBytes s.length
  else 2 * stateBytes + (s.sequences.map fun ranges => rangesBytes ranges + linkBytes).sum

variable {plan : DraftPlan}

/-! Forward automata. -/

theorem length_arcs_settle (s : OpenState) (next : Nat) :
    (s.settle next).arcs.length = s.arcs.length + s.last.toList.length := by
  rw [OpenState.settle]
  split
  · rename_i lo hi hlast
    rw [hlast, List.length_append]
    rfl
  · rename_i hlast
    rw [hlast]
    rfl

theorem affords_close (s : OpenState) (next : Nat) :
    Affords plan s.bytes (s.settle next).close fun _ => 0 := by
  rw [OpenState.bytes, ← length_arcs_settle s next]
  exact affords_sharedState (affords_addArcs _) _ _

theorem openBytes_cons (s : OpenState) (states : List OpenState) :
    openBytes (s :: states) = s.bytes + openBytes states := by
  rw [openBytes, List.map_cons, List.sum_cons, openBytes]

theorem rangesBytes_cons (r : OctetRange) (ranges : List OctetRange) :
    rangesBytes (r :: ranges) = arcsBytes 1 + rangesBytes ranges := by
  rw [rangesBytes, List.length_cons, Nat.succ_mul, Nat.add_comm, rangesBytes]

theorem openBytes_new (ranges : List OctetRange) :
    openBytes (ranges.map fun r => ⟨[], some r⟩) = rangesBytes ranges := by
  induction ranges with
  | nil => rfl
  | cons r ranges ih =>
      rw [List.map_cons, openBytes_cons, ih, rangesBytes_cons]
      rfl

theorem affords_closeAll (target : Nat) (states : List OpenState) :
    Affords plan (openBytes states) (closeAll target states) fun _ => 0 := by
  induction states with
  | nil => exact affords_done target
  | cons s deeper ih =>
      rw [openBytes_cons, Nat.add_comm]
      exact ih.andThen fun next => affords_close s next

/-- A sequence is added for the bytes of its ranges, which the states that are left open take. -/
theorem affords_addSequence (target : Nat) (states : List OpenState) (ranges : List OctetRange) :
    Affords plan (openBytes states + rangesBytes ranges) (addSequence target states ranges)
      openBytes := by
  fun_induction addSequence target states ranges with
  | case1 ranges =>
      apply affords_pure
      rw [openBytes_new]
      exact Nat.le_add_left _ _
  | case2 states hstates => exact affords_pure (Nat.le_add_right _ _)
  | case3 s deeper r ranges hlast ih =>
      rw [openBytes_cons, rangesBytes_cons]
      refine ((ih.add s.bytes).bind fun others => affords_pure ?_).mono (by omega)
      exact Nat.le_of_eq ((openBytes_cons s others).trans (Nat.add_comm _ _))
  | case4 s deeper r ranges hlast =>
      have hsettled (next : Nat) : OpenState.bytes { s.settle next with last := some r } =
          s.bytes + arcBytes := by
        simp only [OpenState.bytes, length_arcs_settle, Option.toList_some, List.length_singleton,
          arcsBytes, Nat.add_mul, Nat.one_mul, Nat.add_assoc]
      rw [openBytes_cons, rangesBytes_cons]
      have hopened (next : Nat) :
          openBytes ({ s.settle next with last := some r } :: ranges.map fun r => ⟨[], some r⟩) ≤
            s.bytes + (arcsBytes 1 + rangesBytes ranges) := by
        rw [openBytes_cons, openBytes_new, hsettled]
        simp only [arcsBytes]
        omega
      exact ((affords_closeAll target deeper).andThen fun next =>
        affords_pure (hopened next)).mono (by omega)

theorem affords_draftForward (sequences : List (List OctetRange)) :
    Affords plan (2 * stateBytes + (sequences.map rangesBytes).sum + linkBytes)
      (draftForward sequences) fun _ => linkBytes := by
  have hfold (target : Nat) : Affords plan (stateBytes + (sequences.map rangesBytes).sum)
      (sequences.foldlM (addSequence target) [⟨[], none⟩]) openBytes :=
    affords_foldlM (affords_addSequence target) [⟨[], none⟩] sequences
  refine (affords_addState.andThen fun target => ((hfold target).add linkBytes).bind fun states =>
    (affords_closeAll target states).andThen fun _ => affords_exit .held).mono ?_
  omega

/-! Backward automata. -/

/-- Puts the links of a sequence behind a state. -/
def draftPath (next : Nat) (ranges : List OctetRange) : Drafting Nat :=
  ranges.foldlM (fun next (lo, hi) => sharedState backwardSlots [next, lo, hi] addState) next

theorem draftPath_cons (next : Nat) (r : OctetRange) (ranges : List OctetRange) :
    draftPath next (r :: ranges) =
      sharedState backwardSlots [next, r.1, r.2] addState >>= fun made => draftPath made ranges :=
  rfl

theorem affords_draftPath (next : Nat) (ranges : List OctetRange) :
    Affords plan (rangesBytes ranges) (draftPath next ranges) fun _ => 0 := by
  induction ranges generalizing next with
  | nil => exact affords_done next
  | cons r ranges ih =>
      rw [draftPath_cons, rangesBytes_cons]
      exact ((affords_sharedState affords_addState _ _).mono (by decide)).andThen ih

theorem affords_draftBackward (sequences : List (List OctetRange)) :
    Affords plan
      (2 * stateBytes + (sequences.map fun ranges => rangesBytes ranges + linkBytes).sum +
        linkBytes)
      (draftBackward sequences) fun _ => linkBytes := by
  have hpath (target : Nat) (ranges : List OctetRange) :
      Affords plan (rangesBytes ranges + linkBytes) (do
        let _ ← draftPath target ranges
        addLinks 1
        return ForInStep.yield PUnit.unit) fun _ => 0 :=
    (affords_draftPath target ranges).andThen fun _ => (affords_addLinks 1).andThen fun _ =>
      affords_done (ForInStep.yield PUnit.unit)
  have hpaths (target : Nat) : List.Forall₂
      (fun ranges cost => Affords plan cost (do
        let _ ← draftPath target ranges
        addLinks 1
        return ForInStep.yield PUnit.unit) fun _ => 0)
      sequences (sequences.map fun ranges => rangesBytes ranges + linkBytes) :=
    List.forall₂_map_right_iff.mpr (List.forall₂_same.mpr fun ranges _ => hpath target ranges)
  refine (affords_addState.andThen fun _ => affords_addState.andThen fun target =>
    (affords_forIn (hpaths target)).andThen fun _ => affords_exit .listed).mono ?_
  omega

/-- The states behind a target are labelled with sequences: the target with the empty one, and a
state that was made for a link with the sequence of the next state and the range of the link. -/
structure Labelled (target : Nat) (label : Nat → List OctetRange) (draft : Draft) : Prop where
  target_lt : target < draft.states
  label_target : label target = []
  shared : ∀ (slot : Nat) (key : List Nat) (state : Nat),
    draft.shared[slot]? = some (key, state) → ∃ next lo hi, key = [next, lo, hi] ∧
      next < draft.states ∧ target < state ∧ state < draft.states ∧
        label state = label next ++ [(lo, hi)]

/-- A labelled draft goes on with more states, of which those that were there keep their labels. -/
structure Extends (target : Nat) (label : Nat → List OctetRange) (draft : Draft)
    (extended : Nat → List OctetRange) (after : Draft) : Prop where
  labelled : Labelled target extended after
  states_le : draft.states ≤ after.states
  label_eq : ∀ state < draft.states, extended state = label state

section Labels

variable {target state next : Nat} {label extended last : Nat → List OctetRange}
  {draft after final : Draft} {r : OctetRange} {ranges : List OctetRange}

theorem Labelled.refl (h : Labelled target label draft) :
    Extends target label draft label draft :=
  ⟨h, Nat.le_refl _, fun _ _ => rfl⟩

theorem Extends.trans (h : Extends target label draft extended after)
    (hlast : Extends target extended after last final) : Extends target label draft last final :=
  ⟨hlast.labelled, Nat.le_trans h.states_le hlast.states_le, fun state hstate =>
    (hlast.label_eq state (Nat.lt_of_lt_of_le hstate h.states_le)).trans
      (h.label_eq state hstate)⟩

theorem Extends.addExtra (h : Extends target label draft extended after) (extra : Nat) :
    Extends target label draft extended { after with extra := extra } :=
  ⟨⟨h.labelled.target_lt, h.labelled.label_target, h.labelled.shared⟩, h.states_le, h.label_eq⟩

/-- A state that is made for a link is labelled, too. -/
theorem Labelled.extend (h : Labelled target label draft) (hnext : next < draft.states)
    (slot lo hi : Nat) :
    let made : Draft := { draft with
      states := draft.states + 1
      shared := draft.shared.insert slot ([next, lo, hi], draft.states) }
    Extends target label draft
      (Function.update label draft.states (label next ++ [(lo, hi)])) made := by
  intro made
  have hkept : ∀ state < draft.states,
      Function.update label draft.states (label next ++ [(lo, hi)]) state = label state :=
    fun state hstate => Function.update_of_ne (Nat.ne_of_lt hstate) _ _
  refine ⟨⟨Nat.lt_succ_of_lt h.target_lt, ?_, ?_⟩, Nat.le_succ _, hkept⟩
  · rw [hkept target h.target_lt, h.label_target]
  · intro place key state hstate
    rw [Std.HashMap.getElem?_insert] at hstate
    split at hstate
    · obtain ⟨rfl, rfl⟩ := Prod.mk.inj (Option.some.inj hstate)
      refine ⟨next, lo, hi, rfl, Nat.lt_succ_of_lt hnext, h.target_lt, Nat.lt_succ_self _, ?_⟩
      rw [Function.update_self, hkept next hnext]
    · obtain ⟨other, lo, hi, rfl, hother, htarget, hlt, hlabel⟩ := h.shared place key state hstate
      refine ⟨other, lo, hi, rfl, Nat.lt_succ_of_lt hother, htarget, Nat.lt_succ_of_lt hlt, ?_⟩
      rw [hkept state hlt, hkept other hother, hlabel]

/-- The state for a link is labelled with the sequence of the next state and the range. -/
theorem Labelled.sharedState (h : Labelled target label draft) (hnext : next < draft.states)
    (hstate : sharedState backwardSlots [next, r.1, r.2] addState plan draft =
      some (state, after)) :
    ∃ extended, Extends target label draft extended after ∧ target < state ∧
      state < after.states ∧ extended state = label next ++ [r] ∧ after.extra = draft.extra := by
  rcases sharedState_cases backwardSlots [next, r.1, r.2] addState plan draft with
    ⟨known, hknown, hshared⟩ | hshared
  · rw [hstate] at hshared
    obtain ⟨rfl, rfl⟩ := Prod.mk.inj (Option.some.inj hshared)
    obtain ⟨other, lo, hi, hkey, -, htarget, hlt, hlabel⟩ := h.shared _ _ _ hknown
    obtain ⟨rfl, rfl, rfl⟩ : next = other ∧ r.1 = lo ∧ r.2 = hi := by simpa using hkey
    exact ⟨label, h.refl, htarget, hlt, hlabel, rfl⟩
  · rw [hstate] at hshared
    obtain ⟨⟨made, grown⟩, hmade, heq⟩ := Option.map_eq_some_iff.mp hshared.symm
    obtain ⟨-, rfl, rfl⟩ := eq_of_addStates hmade
    obtain ⟨rfl, rfl⟩ := Prod.mk.inj heq
    exact ⟨_, h.extend hnext _ r.1 r.2, h.target_lt, Nat.lt_succ_self _,
      Function.update_self _ _ _, rfl⟩

/-- There is a state behind the target that is labelled with a sequence. -/
def HasState (target : Nat) (label : Nat → List OctetRange) (draft : Draft)
    (ranges : List OctetRange) : Prop :=
  ∃ state, target < state ∧ state < draft.states ∧ label state = ranges

theorem Extends.hasState (h : Extends target label draft extended after)
    (hranges : HasState target label draft ranges) : HasState target extended after ranges := by
  obtain ⟨state, htarget, hlt, hlabel⟩ := hranges
  exact ⟨state, htarget, Nat.lt_of_lt_of_le hlt h.states_le, (h.label_eq state hlt).trans hlabel⟩

/-- Every beginning of a sequence that is put behind a state has a state. -/
theorem Labelled.draftPath (h : Labelled target label draft) (hnext : next < draft.states)
    (hpath : draftPath next ranges plan draft = some (state, after)) :
    ∃ extended, Extends target label draft extended after ∧ after.extra = draft.extra ∧
      ∀ front, front ≠ [] → front <+: ranges →
        HasState target extended after (label next ++ front) := by
  induction ranges generalizing label draft next with
  | nil =>
      obtain ⟨-, rfl⟩ := Prod.mk.inj (Option.some.inj hpath)
      exact ⟨label, h.refl, rfl, fun front hne hfront => absurd (List.prefix_nil.mp hfront) hne⟩
  | cons r ranges ih =>
      obtain ⟨first, between, hfirst, hrest⟩ := exists_of_bind hpath
      obtain ⟨middle, hmiddle, htarget, hlt, hlabel, hextra⟩ := h.sharedState hnext hfirst
      obtain ⟨extended, hextended, hextra', hall⟩ := ih hmiddle.labelled hlt hrest
      refine ⟨extended, hmiddle.trans hextended, hextra'.trans hextra, fun front hne hfront => ?_⟩
      obtain ⟨c, others, rfl⟩ := List.exists_cons_of_ne_nil hne
      obtain ⟨rfl, hothers⟩ := List.cons_prefix_cons.mp hfront
      by_cases hlast : others = []
      · rw [hlast, ← hlabel]
        exact hextended.hasState ⟨first, htarget, hlt, rfl⟩
      · have hbehind := hall others hlast hothers
        rwa [hlabel, List.append_assoc, List.singleton_append] at hbehind

/-- Every beginning of the sequences that are put behind a target has a state. -/
theorem Labelled.draftPaths {sequences : List (List OctetRange)} {done : PUnit}
    (h : Labelled target label draft)
    (hpaths : (forIn sequences PUnit.unit fun ranges _ => do
      let _ ← Regex.draftPath target ranges
      addLinks 1
      return ForInStep.yield PUnit.unit : Drafting PUnit) plan draft = some (done, after)) :
    ∃ extended, Extends target label draft extended after ∧
      after.extra = draft.extra + sequences.length * linkBytes ∧
        ∀ ranges ∈ sequences, ∀ front, front ≠ [] → front <+: ranges →
          HasState target extended after front := by
  induction sequences generalizing label draft with
  | nil =>
      obtain ⟨-, rfl⟩ := Prod.mk.inj (Option.some.inj hpaths)
      exact ⟨label, h.refl, (Nat.add_zero _).symm, fun _ hranges => absurd hranges (by simp)⟩
  | cons ranges sequences ih =>
      rw [List.forIn_cons] at hpaths
      obtain ⟨step, between, hfirst, hrest⟩ := exists_of_bind hpaths
      obtain ⟨first, made, hpath, hlink⟩ := exists_of_bind hfirst
      obtain ⟨linked, joined, hjoined, hstep⟩ := exists_of_bind hlink
      obtain ⟨rfl, rfl⟩ := Prod.mk.inj (Option.some.inj hstep)
      obtain rfl := eq_of_addLinks hjoined
      obtain ⟨middle, hmiddle, hextra, hfronts⟩ := h.draftPath h.target_lt hpath
      have hjoin := hmiddle.addExtra (made.extra + 1 * linkBytes)
      obtain ⟨extended, hextended, hextra', hall⟩ := ih hjoin.labelled hrest
      refine ⟨extended, hjoin.trans hextended, ?_, ?_⟩
      · dsimp only at hextra'
        rw [hextra', hextra, List.length_cons, Nat.add_mul]
        omega
      · rw [List.forall_mem_cons]
        refine ⟨fun front hne hfront => hextended.hasState ?_, hall⟩
        obtain ⟨state, htarget, hlt, hlabel⟩ := hfronts front hne hfront
        rw [h.label_target, List.nil_append] at hlabel
        exact ⟨state, htarget, hlt, hlabel⟩

end Labels

/-- The beginnings of sequences, each one once. -/
def fronts (sequences : List (List OctetRange)) : List (List OctetRange) :=
  (sequences.flatMap fun ranges => ranges.inits.tail).dedup

theorem mem_tail_inits {α : Type} {front list : List α} :
    front ∈ list.inits.tail ↔ front ≠ [] ∧ front <+: list := by
  cases list with
  | nil => simp
  | cons x list =>
      rw [List.inits_cons, List.tail_cons, List.mem_map]
      constructor
      · rintro ⟨others, hothers, rfl⟩
        exact ⟨List.cons_ne_nil x others,
          List.cons_prefix_cons.mpr ⟨rfl, (List.mem_inits _ _).mp hothers⟩⟩
      · rintro ⟨hne, hfront⟩
        obtain ⟨y, others, rfl⟩ := List.exists_cons_of_ne_nil hne
        obtain ⟨rfl, hothers⟩ := List.cons_prefix_cons.mp hfront
        exact ⟨others, (List.mem_inits _ _).mpr hothers, rfl⟩

theorem mem_fronts {sequences : List (List OctetRange)} {front : List OctetRange} :
    front ∈ fronts sequences ↔ ∃ ranges ∈ sequences, front ≠ [] ∧ front <+: ranges := by
  simp only [fronts, List.mem_dedup, List.mem_flatMap, mem_tail_inits]

theorem nodup_fronts (sequences : List (List OctetRange)) : (fronts sequences).Nodup :=
  List.nodup_dedup _

/-- The beginnings with a number of ranges, but for those that repeat the one before. -/
def frontsOf (sequences : List (List OctetRange)) (n : Nat) : List (List OctetRange) :=
  ((sequences.filter (n ≤ ·.length)).map (·.take n)).destutter (· ≠ ·)

/-- Numbers for beginnings of sequences, which tell more than they need to. -/
def frontCodes (sequences : List (List OctetRange)) : List Nat :=
  ([1, 2, 3, 4].flatMap (frontsOf sequences)).map fun front =>
    front.foldl (fun code (lo, hi) => (code * 256 + lo) * 256 + hi) 1

theorem frontsOf_subset (sequences : List (List OctetRange)) {n : Nat} (hn : n ≠ 0) :
    frontsOf sequences n ⊆ fronts sequences := by
  intro front hfront
  obtain ⟨ranges, hranges, rfl⟩ :=
    List.mem_map.mp ((List.destutter_sublist _ _).subset hfront)
  obtain ⟨hmem, hlength⟩ := List.mem_filter.mp hranges
  refine mem_fronts.mpr ⟨ranges, hmem, ?_, List.take_prefix n ranges⟩
  have hle : n ≤ ranges.length := of_decide_eq_true hlength
  apply List.ne_nil_of_length_pos
  rw [List.length_take]
  omega

/-- Beginnings with ascending numbers are different, so that there are as many at least. -/
theorem length_frontCodes_le {sequences : List (List OctetRange)}
    (h : (frontCodes sequences).IsChain (· < ·)) :
    (frontCodes sequences).length ≤ (fronts sequences).length := by
  have hcodes : (frontCodes sequences).Nodup :=
    (List.isChain_iff_pairwise.mp h).imp fun hlt => Nat.ne_of_lt hlt
  have hsubset : [1, 2, 3, 4].flatMap (frontsOf sequences) ⊆ fronts sequences := by
    intro front hfront
    obtain ⟨n, hn, hmem⟩ := List.mem_flatMap.mp hfront
    exact frontsOf_subset sequences (by rintro rfl; simp at hn) hmem
  rw [frontCodes, List.length_map]
  exact ((List.Nodup.of_map _ hcodes).subperm hsubset).length_le

/-- Different sequences have different states. -/
theorem length_le_of_hasState {target : Nat} {label : Nat → List OctetRange} {draft : Draft}
    {fronts : List (List OctetRange)} (hnodup : fronts.Nodup)
    (h : ∀ front ∈ fronts, HasState target label draft front) :
    fronts.length ≤ draft.states - (target + 1) := by
  have hsubset : fronts ⊆ (List.range' (target + 1) (draft.states - (target + 1))).map label := by
    intro front hfront
    obtain ⟨state, htarget, hlt, hlabel⟩ := h front hfront
    exact List.mem_map.mpr ⟨state, List.mem_range'_1.mpr (by omega), hlabel⟩
  have hle := (hnodup.subperm hsubset).length_le
  rwa [List.length_map, List.length_range'] at hle

/-- The bytes that a set takes at least in a backward automaton. -/
def CharSet.leastBytes (octets : Bool) (s : CharSet) : Nat :=
  if octets || s.all (·.2 < 0x80) then stateBytes + arcsBytes s.length
  else 2 * stateBytes + s.sequences.length * linkBytes + (fronts s.sequences).length * stateBytes

/-- A set that is drafted backward, with no states of other sets, has a state for every beginning
of a sequence. -/
theorem bytes_le_of_draftBackward {sequences : List (List OctetRange)} {draft after : Draft}
    {exit : Exit} (hshared : draft.shared = {})
    (h : draftBackward sequences plan draft = some (exit, after)) :
    draft.bytes + (2 * stateBytes + sequences.length * linkBytes +
      (fronts sequences).length * stateBytes) ≤ after.bytes := by
  obtain ⟨first, opened, hopened, hrest⟩ := exists_of_bind h
  obtain ⟨target, started, hstarted, hrest⟩ := exists_of_bind hrest
  obtain ⟨done, last, hpaths, hlast⟩ := exists_of_bind hrest
  obtain ⟨-, rfl, rfl⟩ := eq_of_addStates hopened
  obtain ⟨-, rfl, rfl⟩ := eq_of_addStates hstarted
  obtain ⟨-, rfl⟩ := Prod.mk.inj (Option.some.inj hlast)
  have hstart : Labelled (draft.states + 1) (fun _ => [])
      { draft with states := draft.states + 1 + 1, extra := draft.extra + 0 + 0 } := by
    refine ⟨Nat.lt_succ_self _, rfl, ?_⟩
    intro slot key state hstate
    rw [hshared] at hstate
    simp at hstate
  obtain ⟨label, hlabel, hextra, hfronts⟩ := hstart.draftPaths hpaths
  have hstates : ∀ front ∈ fronts sequences, HasState (draft.states + 1) label last front := by
    intro front hfront
    obtain ⟨ranges, hranges, hne, hprefix⟩ := mem_fronts.mp hfront
    exact hfronts ranges hranges front hne hprefix
  have hlength := length_le_of_hasState (nodup_fronts sequences) hstates
  have hle : draft.states + 1 + 1 ≤ last.states := hlabel.states_le
  simp only [Draft.bytes, hextra, stateBytes] at hle ⊢
  omega

theorem takes_draftBackward (sequences : List (List OctetRange)) :
    Takes plan 0 (draftBackward sequences) := by
  have hpath (next : Nat) (ranges : List OctetRange) : Takes plan 0 (draftPath next ranges) :=
    takes_foldlM (fun next r => takes_sharedState (takes_addState.mono (Nat.zero_le _)) _ _)
      next ranges
  have hpaths (target : Nat) : Takes plan 0 (forIn sequences PUnit.unit fun ranges _ => do
      let _ ← draftPath target ranges
      addLinks 1
      return ForInStep.yield PUnit.unit) := by
    have hturns : List.Forall₂ (fun ranges least => Takes plan least (do
        let _ ← draftPath target ranges
        addLinks 1)) sequences (sequences.map fun _ => 0) :=
      List.forall₂_map_right_iff.mpr (List.forall₂_same.mpr fun ranges _ =>
        ((hpath target ranges).bind fun _ => takes_addLinks 1).mono (Nat.zero_le _))
    have hloop := (takes_forIn hturns).mono (Nat.zero_le _)
    simpa only [bind_assoc] using hloop
  exact (takes_addState.bind fun _ => takes_addState.bind fun target => (hpaths target).bind
    fun _ => takes_pure Exit.listed).mono (Nat.zero_le _)

/-! Sets. -/

theorem affords_draftSet (octets : Bool) (s : CharSet) :
    Affords plan (s.mostBytes octets + linkBytes) (draftSet octets s) fun _ => linkBytes := by
  have hsum : (s.sequences.map rangesBytes).sum ≤
      (s.sequences.map fun ranges => rangesBytes ranges + linkBytes).sum :=
    List.sum_le_sum fun ranges _ => Nat.le_add_right _ _
  rw [draftSet, CharSet.mostBytes]
  split
  · rw [Nat.add_assoc]
    exact affords_addState.andThen fun _ => (affords_addArcs s.length).andThen fun _ =>
      affords_exit .held
  · rw [← Nat.zero_add (_ + linkBytes)]
    refine affords_forget.andThen fun _ => ?_
    obtain ⟨direction, limit⟩ := plan
    cases direction with
    | forward =>
        have hforward : Affords ⟨.forward, limit⟩ _ (draftForward s.sequences) _ :=
          affords_draftForward s.sequences
        exact hforward.mono (by omega)
    | backward =>
        have hbackward : Affords ⟨.backward, limit⟩ _ (draftBackward s.sequences) _ :=
          affords_draftBackward s.sequences
        exact hbackward

theorem takes_draftSet (limit : Nat) (octets : Bool) (s : CharSet) :
    Takes ⟨.backward, limit⟩ (s.leastBytes octets) (draftSet octets s) := by
  rw [draftSet, CharSet.leastBytes]
  split
  · exact takes_addState.bind fun _ => (takes_addArcs s.length).bind fun _ => takes_pure Exit.held
  · refine Takes.of_grows ?_ fun draft exit after h => ?_
    · have hbackward : Takes ⟨.backward, limit⟩ 0 (draftBackward s.sequences) :=
        takes_draftBackward s.sequences
      change Takes _ (0 + 0) _
      refine takes_forget.bind fun _ => ?_
      exact hbackward
    · obtain ⟨done, forgotten, hforgotten, hset⟩ := exists_of_bind h
      obtain ⟨-, rfl⟩ := Prod.mk.inj (Option.some.inj hforgotten)
      have hbackward : draftBackward s.sequences ⟨.backward, limit⟩ { draft with shared := {} } =
          some (exit, after) := hset
      have hbytes := bytes_le_of_draftBackward (by rfl) hbackward
      exact hbytes

/-! Sets of few characters. -/

/-- Every sequence of ranges stands for a code point at least. -/
theorem length_octetRanges_le (first last : Nat) :
    (octetRanges first last).length ≤ last + 1 - first := by
  fun_induction octetRanges first last with
  | case1 first last cut _ h _ hbefore ihl ihr =>
      rw [List.length_append]
      omega
  | case2 => exact Nat.zero_le _
  | case3 first last _ h =>
      rw [List.length_singleton]
      omega
  | case4 => exact Nat.zero_le _

def codePoints (s : CharSet) : Nat :=
  (s.map fun (lo, hi) => hi + 1 - lo).sum

theorem length_sequences_le (s : CharSet) : s.sequences.length ≤ codePoints s := by
  rw [CharSet.sequences, List.length_flatMap]
  exact List.sum_le_sum fun (lo, hi) _ => length_octetRanges_le lo hi

/-- The bytes that a sequence of ranges takes at most. -/
def sequenceBytes : Nat :=
  4 * arcsBytes 1 + linkBytes

/-- A set takes no more than its characters would take one by one. -/
theorem CharSet.mostBytes_le {s : CharSet} (h : ∀ r ∈ s, r.1 ≤ r.2) (octets : Bool) :
    s.mostBytes octets ≤ 2 * stateBytes + codePoints s * sequenceBytes := by
  rw [CharSet.mostBytes]
  split
  · have hpoints : s.length ≤ codePoints s := by
      rw [codePoints, ← List.length_map (f := fun (r : Nat × Nat) => r.2 + 1 - r.1)]
      apply List.length_le_sum_of_one_le
      intro n hn
      obtain ⟨r, hr, rfl⟩ := List.mem_map.mp hn
      have hle := h r hr
      omega
    have hbytes := Nat.mul_le_mul hpoints (show arcBytes ≤ sequenceBytes by decide)
    rw [arcsBytes]
    omega
  · have hsequence : ∀ ranges ∈ s.sequences, rangesBytes ranges + linkBytes ≤ sequenceBytes := by
      intro ranges hranges
      obtain ⟨⟨lo, hi⟩, -, hmem⟩ := List.mem_flatMap.mp hranges
      have hle := Nat.mul_le_mul_right (arcsBytes 1) (length_of_mem_octetRanges hmem)
      exact Nat.add_le_add_right hle linkBytes
    have hsum : (s.sequences.map fun ranges => rangesBytes ranges + linkBytes).sum ≤
        (s.sequences.map fun ranges => rangesBytes ranges + linkBytes).length * sequenceBytes :=
      List.sum_le_card_nsmul _ sequenceBytes (List.forall_mem_map.mpr hsequence)
    rw [List.length_map] at hsum
    exact Nat.add_le_add_left (Nat.le_trans hsum
      (Nat.mul_le_mul_right _ (length_sequences_le s))) _

/-- Joining ranges adds no code points. -/
theorem codePoints_join_le {s : CharSet} (h : ∀ r ∈ s, r.1 ≤ r.2) :
    codePoints (Unicode.Ranges.join s) ≤ codePoints s ∧
      ∀ r ∈ Unicode.Ranges.join s, r.1 ≤ r.2 := by
  have hcons (r : Nat × Nat) (s : CharSet) : codePoints (r :: s) = (r.2 + 1 - r.1) + codePoints s :=
    List.sum_cons
  fun_induction Unicode.Ranges.join s with
  | case1 => exact ⟨Nat.le_refl _, h⟩
  | case2 r => exact ⟨Nat.le_refl _, h⟩
  | case3 lo hi lo' hi' rest htouch ih =>
      obtain ⟨hfirst, hrest⟩ := List.forall_mem_cons.mp h
      obtain ⟨hsecond, hrest⟩ := List.forall_mem_cons.mp hrest
      obtain ⟨hle, hjoined⟩ := ih (List.forall_mem_cons.mpr
        ⟨Nat.le_trans hfirst (Nat.le_max_left hi hi'), hrest⟩)
      refine ⟨Nat.le_trans hle ?_, hjoined⟩
      simp only [hcons] at hfirst hsecond ⊢
      omega
  | case4 lo hi lo' hi' rest hapart ih =>
      obtain ⟨hfirst, hrest⟩ := List.forall_mem_cons.mp h
      obtain ⟨hle, hjoined⟩ := ih hrest
      refine ⟨?_, List.forall_mem_cons.mpr ⟨hfirst, hjoined⟩⟩
      rw [hcons, hcons (lo, hi)]
      exact Nat.add_le_add_left hle _

theorem mostBytes_arranged_le {s : CharSet} (h : ∀ r ∈ s, r.1 ≤ r.2) (octets : Bool) :
    CharSet.mostBytes octets (Unicode.Ranges.arranged s) ≤
      2 * stateBytes + codePoints s * sequenceBytes := by
  have hperm := List.mergeSort_perm s Unicode.Ranges.startsFirst
  have hpoints : codePoints (s.mergeSort Unicode.Ranges.startsFirst) = codePoints s :=
    (hperm.map _).sum_eq
  obtain ⟨hle, hjoined⟩ := codePoints_join_le fun r hr => h r (hperm.subset hr)
  rw [hpoints] at hle
  exact Nat.le_trans (CharSet.mostBytes_le hjoined octets)
    (Nat.add_le_add_left (Nat.mul_le_mul_right _ hle) _)

end Stepwise.Regex
