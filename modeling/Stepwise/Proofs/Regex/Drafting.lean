import Mathlib.Algebra.Ring.Nat
import Mathlib.Data.List.Forall2
import Stepwise.Regex.Draft

/-!
# The bytes that drafting takes

A draft is given up as soon as it takes more memory than it may. Main statements: within a
credit of bytes an action goes through, and what it leaves of the credit is there for the next
one; an action that goes through adds its bytes and stays within the limit.
-/

namespace Stepwise.Regex

variable {α β : Type} {plan : DraftPlan}

/-- With a credit of bytes that is still within the limit an action goes through, and leaves some
of the credit behind its result. -/
def Affords (plan : DraftPlan) (credit : Nat) (action : Drafting α) (left : α → Nat) : Prop :=
  ∀ draft : Draft, draft.bytes + credit ≤ plan.limit →
    ∃ result after, action plan draft = some (result, after) ∧
      after.bytes + left result ≤ draft.bytes + credit

/-- An action that goes through has added a number of bytes at least, and does not go beyond the
limit. -/
def Takes (plan : DraftPlan) (least : Nat) (action : Drafting α) : Prop :=
  ∀ (draft : Draft) (result : α) (after : Draft), action plan draft = some (result, after) →
    draft.bytes + least ≤ after.bytes ∧ (draft.bytes ≤ plan.limit → after.bytes ≤ plan.limit)

theorem bind_eq (action : Drafting α) (next : α → Drafting β) (plan : DraftPlan) (draft : Draft) :
    (action >>= next) plan draft =
      (action plan draft).bind fun made => next made.1 plan made.2 :=
  rfl

theorem exists_of_bind {action : Drafting α} {next : α → Drafting β} {draft after : Draft}
    {last : β} (h : (action >>= next) plan draft = some (last, after)) :
    ∃ result between, action plan draft = some (result, between) ∧
      next result plan between = some (last, after) := by
  obtain ⟨⟨result, between⟩, hresult, hlast⟩ := Option.bind_eq_some_iff.mp h
  exact ⟨result, between, hresult, hlast⟩

theorem addStates_eq (states extra : Nat) (plan : DraftPlan) (draft : Draft) :
    addStates states extra plan draft =
      if draft.bytes + (states * stateBytes + extra) ≤ plan.limit then
        some (draft.states,
          { draft with states := draft.states + states, extra := draft.extra + extra })
      else none := by
  let grown := { draft with states := draft.states + states, extra := draft.extra + extra }
  have hgrown : grown.bytes = draft.bytes + (states * stateBytes + extra) := by
    simp only [grown, Draft.bytes, Nat.add_mul]
    omega
  rw [← hgrown]
  change (if grown.bytes ≤ plan.limit then do set grown; return draft.states
    else failure : Drafting Nat) plan draft = _
  split
  · rfl
  · rfl

theorem eq_of_addStates {states extra first : Nat} {draft after : Draft}
    (h : addStates states extra plan draft = some (first, after)) :
    draft.bytes + (states * stateBytes + extra) ≤ plan.limit ∧ first = draft.states ∧
      after = { draft with states := draft.states + states, extra := draft.extra + extra } := by
  rw [addStates_eq] at h
  split at h
  · rename_i hlimit
    obtain ⟨rfl, rfl⟩ := Prod.mk.inj (Option.some.inj h)
    exact ⟨hlimit, rfl, rfl⟩
  · exact absurd h (Option.some_ne_none _).symm

theorem eq_of_addLinks {n : Nat} {draft after : Draft} {done : Unit}
    (h : addLinks n plan draft = some (done, after)) :
    after = { draft with extra := draft.extra + n * linkBytes } := by
  obtain ⟨first, made, hmade, heq⟩ := exists_of_bind h
  obtain ⟨-, -, rfl⟩ := eq_of_addStates hmade
  exact (Prod.mk.inj (Option.some.inj heq)).2.symm

/-- The state for a key is one that was made for this key, or it is made and kept. -/
theorem sharedState_cases (slots : Nat) (key : List Nat) (make : Drafting Nat) (plan : DraftPlan)
    (draft : Draft) :
    (∃ state, draft.shared[slotOf slots key]? = some (key, state) ∧
      sharedState slots key make plan draft = some (state, draft)) ∨
      sharedState slots key make plan draft = (make plan draft).map fun made =>
        (made.1,
          { made.2 with shared := made.2.shared.insert (slotOf slots key) (key, made.1) }) := by
  have hremember : sharedState.remember key make (slotOf slots key) plan draft =
      (make plan draft).map fun made =>
        (made.1,
          { made.2 with shared := made.2.shared.insert (slotOf slots key) (key, made.1) }) := by
    rw [sharedState.remember, bind_eq]
    cases make plan draft with
    | none => rfl
    | some made => rfl
  have hget : (get : Drafting Draft) plan draft = some (draft, draft) := rfl
  rw [sharedState, bind_eq, hget, Option.bind_some]
  dsimp only
  cases hfound : draft.shared[slotOf slots key]? with
  | none => exact Or.inr hremember
  | some found =>
      obtain ⟨known, state⟩ := found
      by_cases hknown : known = key
      · subst hknown
        exact Or.inl ⟨state, rfl, by simp only [if_true]; rfl⟩
      · refine Or.inr ?_
        simp only [if_neg hknown]
        exact hremember

/-! What a credit affords. -/

section Affords

variable {credit other : Nat} {action : Drafting α} {left : α → Nat}

theorem affords_pure {left : α → Nat} {result : α} (h : left result ≤ credit) :
    Affords plan credit (pure result) left :=
  fun draft _ => ⟨result, draft, rfl, Nat.add_le_add_left h _⟩

theorem affords_done (result : α) : Affords plan 0 (pure result) fun _ => 0 :=
  affords_pure (Nat.le_refl 0)

/-- What is left of a credit affords the next action. -/
theorem Affords.bind {next : α → Drafting β} {rest : β → Nat} (h : Affords plan credit action left)
    (hnext : ∀ result, Affords plan (left result) (next result) rest) :
    Affords plan credit (action >>= next) rest := by
  intro draft hdraft
  obtain ⟨result, between, hresult, hbetween⟩ := h draft hdraft
  obtain ⟨last, after, hlast, hafter⟩ := hnext result between (Nat.le_trans hbetween hdraft)
  refine ⟨last, after, ?_, Nat.le_trans hafter hbetween⟩
  rw [bind_eq, hresult]
  exact hlast

/-- A greater credit leaves more. -/
theorem Affords.add (h : Affords plan credit action left) (more : Nat) :
    Affords plan (credit + more) action fun result => left result + more := by
  intro draft hdraft
  obtain ⟨result, after, hresult, hafter⟩ := h draft (by omega)
  exact ⟨result, after, hresult, by dsimp only; omega⟩

theorem Affords.mono (h : Affords plan credit action left) (hcredit : credit ≤ other) :
    Affords plan other action left := by
  intro draft hdraft
  obtain ⟨result, after, hresult, hafter⟩ := h draft (by omega)
  exact ⟨result, after, hresult, by omega⟩

/-- Behind an action that leaves nothing the next one has a credit of its own. -/
theorem Affords.andThen {next : α → Drafting β} {rest : β → Nat}
    (h : Affords plan credit action fun _ => 0)
    (hnext : ∀ result, Affords plan other (next result) rest) :
    Affords plan (credit + other) (action >>= next) rest :=
  (h.add other).bind fun result => (hnext result).mono (Nat.le_add_left _ _)

theorem affords_read {next : DraftPlan → Drafting α} (h : Affords plan credit (next plan) left) :
    Affords plan credit (read >>= next) left :=
  h

theorem affords_forget :
    Affords plan 0 (modify fun draft => { draft with shared := {} }) fun _ => 0 :=
  fun _ _ => ⟨PUnit.unit, _, rfl, Nat.le_refl _⟩

theorem affords_addStates (states extra : Nat) :
    Affords plan (states * stateBytes + extra) (addStates states extra) fun _ => 0 := by
  intro draft hdraft
  refine ⟨_, _, by rw [addStates_eq, if_pos hdraft], ?_⟩
  simp only [Draft.bytes, Nat.add_mul]
  omega

theorem affords_addState : Affords plan stateBytes addState fun _ => 0 :=
  affords_addStates 1 0

theorem affords_addLinks (n : Nat) : Affords plan (n * linkBytes) (addLinks n) fun _ => 0 := by
  have hadd : Affords plan _ (addStates 0 (n * linkBytes)) _ := affords_addStates _ _
  rw [Nat.zero_mul, Nat.zero_add] at hadd
  exact hadd.andThen fun _ => affords_done ()

theorem affords_addArcs (n : Nat) :
    Affords plan (stateBytes + n * arcBytes) (addArcs n) fun _ => 0 := by
  have hadd : Affords plan _ (addStates 1 (n * arcBytes)) _ := affords_addStates _ _
  rwa [Nat.one_mul] at hadd

theorem affords_join (exit : Exit) : Affords plan linkBytes exit.join fun _ => 0 := by
  cases exit with
  | held => exact affords_pure (Nat.zero_le _)
  | listed => exact affords_addLinks 1

/-- A part with an exit leaves the bytes of a link, so that it can be joined to what follows. -/
theorem affords_exit (exit : Exit) : Affords plan linkBytes (pure exit) fun _ => linkBytes :=
  affords_pure (Nat.le_refl linkBytes)

/-- A state is affordable if it is affordable to make it. -/
theorem affords_sharedState {make : Drafting Nat} (h : Affords plan credit make fun _ => 0)
    (slots : Nat) (key : List Nat) :
    Affords plan credit (sharedState slots key make) fun _ => 0 := by
  intro draft hdraft
  rcases sharedState_cases slots key make plan draft with ⟨state, -, hshared⟩ | hshared
  · exact ⟨state, draft, hshared, Nat.le_add_right _ _⟩
  · obtain ⟨state, after, hmake, hafter⟩ := h draft hdraft
    rw [hmake] at hshared
    exact ⟨_, _, hshared, hafter⟩

/-- A fold is affordable if each of its steps is, with what its state is worth. -/
theorem affords_foldlM {σ : Type} {step : σ → α → Drafting σ} {worth : σ → Nat} {cost : α → Nat}
    (h : ∀ state x, Affords plan (worth state + cost x) (step state x) worth) (state : σ)
    (xs : List α) :
    Affords plan (worth state + (xs.map cost).sum) (xs.foldlM step state) worth := by
  induction xs generalizing state with
  | nil => exact affords_pure (Nat.le_refl _)
  | cons x xs ih =>
      rw [List.foldlM_cons, List.map_cons, List.sum_cons, ← Nat.add_assoc]
      exact ((h state x).add _).bind fun next => ih next

/-- A loop is affordable for what its turns take. -/
theorem affords_forIn {body : α → PUnit → Drafting (ForInStep PUnit)} {xs : List α}
    {costs : List Nat}
    (h : List.Forall₂ (fun x cost => Affords plan cost (body x PUnit.unit) fun _ => 0) xs costs) :
    Affords plan costs.sum (forIn xs PUnit.unit body) fun _ => 0 := by
  induction h with
  | nil => exact affords_done PUnit.unit
  | cons hx _ ih =>
      rw [List.forIn_cons, List.sum_cons]
      refine hx.andThen fun step => ?_
      cases step with
      | done state => exact affords_pure (Nat.zero_le _)
      | yield state => exact ih

end Affords

/-! What an action takes. -/

section Takes

variable {least : Nat} {action : Drafting α}

theorem takes_pure (result : α) : Takes plan 0 (pure result) := by
  intro draft other after h
  obtain ⟨rfl, rfl⟩ := Prod.mk.inj (Option.some.inj h)
  exact ⟨Nat.le_refl _, id⟩

theorem Takes.bind {more : Nat} {next : α → Drafting β} (h : Takes plan least action)
    (hnext : ∀ result, Takes plan more (next result)) :
    Takes plan (least + more) (action >>= next) := by
  intro draft result after hafter
  obtain ⟨first, between, hfirst, hlast⟩ := exists_of_bind hafter
  obtain ⟨hbytes, hlimit⟩ := h draft first between hfirst
  obtain ⟨hbytes', hlimit'⟩ := hnext first between result after hlast
  exact ⟨by omega, fun hdraft => hlimit' (hlimit hdraft)⟩

theorem Takes.mono (h : Takes plan least action) {less : Nat} (hless : less ≤ least) :
    Takes plan less action := by
  intro draft result after hafter
  obtain ⟨hbytes, hlimit⟩ := h draft result after hafter
  exact ⟨by omega, hlimit⟩

theorem takes_forget : Takes plan 0 (modify fun draft => { draft with shared := {} }) := by
  intro draft result after h
  obtain ⟨-, rfl⟩ := Prod.mk.inj (Option.some.inj h)
  exact ⟨Nat.le_refl _, id⟩

/-- To an action that keeps the limit, what it adds at least may be shown on its own. -/
theorem Takes.of_grows (h : Takes plan 0 action)
    (hgrows : ∀ draft result after, action plan draft = some (result, after) →
      draft.bytes + least ≤ after.bytes) : Takes plan least action :=
  fun draft result after hafter =>
    ⟨hgrows draft result after hafter, (h draft result after hafter).2⟩

theorem takes_addStates (states extra : Nat) :
    Takes plan (states * stateBytes + extra) (addStates states extra) := by
  intro draft result after h
  obtain ⟨hlimit, -, rfl⟩ := eq_of_addStates h
  simp only [Draft.bytes, Nat.add_mul] at hlimit ⊢
  omega

theorem takes_addState : Takes plan stateBytes addState :=
  takes_addStates 1 0

theorem takes_addArcs (n : Nat) : Takes plan (stateBytes + n * arcBytes) (addArcs n) := by
  have hadd : Takes plan _ (addStates 1 (n * arcBytes)) := takes_addStates _ _
  rwa [Nat.one_mul] at hadd

theorem takes_addLinks (n : Nat) : Takes plan (n * linkBytes) (addLinks n) := by
  have hadd : Takes plan _ (addStates 0 (n * linkBytes)) := takes_addStates _ _
  rw [Nat.zero_mul, Nat.zero_add] at hadd
  exact hadd.bind fun _ => takes_pure ()

theorem takes_join (exit : Exit) : Takes plan 0 exit.join := by
  cases exit with
  | held => exact takes_pure ()
  | listed => exact (takes_addLinks 1).mono (Nat.zero_le _)

theorem takes_sharedState {make : Drafting Nat} (h : Takes plan 0 make) (slots : Nat)
    (key : List Nat) : Takes plan 0 (sharedState slots key make) := by
  intro draft result after hafter
  rcases sharedState_cases slots key make plan draft with ⟨state, -, hshared⟩ | hshared
  · rw [hafter] at hshared
    obtain ⟨rfl, rfl⟩ := Prod.mk.inj (Option.some.inj hshared)
    exact ⟨Nat.le_refl _, id⟩
  · rw [hafter] at hshared
    obtain ⟨⟨state, made⟩, hmake, heq⟩ := Option.map_eq_some_iff.mp hshared.symm
    obtain ⟨-, rfl⟩ := Prod.mk.inj heq
    exact h draft state made hmake

theorem takes_foldlM {σ : Type} {step : σ → α → Drafting σ}
    (h : ∀ state x, Takes plan 0 (step state x)) (state : σ) (xs : List α) :
    Takes plan 0 (xs.foldlM step state) := by
  induction xs generalizing state with
  | nil => exact takes_pure state
  | cons x xs ih =>
      rw [List.foldlM_cons]
      exact (h state x).bind ih

/-- A loop that no turn leaves takes what its turns take. -/
theorem takes_forIn {turn : α → Drafting Unit} {xs : List α} {bytes : List Nat}
    (h : List.Forall₂ (fun x least => Takes plan least (turn x)) xs bytes) :
    Takes plan bytes.sum (forIn xs PUnit.unit fun x _ => do
      turn x
      return ForInStep.yield PUnit.unit) := by
  induction h with
  | nil => exact takes_pure PUnit.unit
  | cons hx _ ih =>
      rw [List.forIn_cons, List.sum_cons, bind_assoc]
      refine hx.bind fun _ => ?_
      rw [pure_bind]
      exact ih

end Takes

end Stepwise.Regex
