import Stepwise.Pattern.Replacement
import Stepwise.Proofs.Pattern.Units

/-!
# What a pass does to a text

A pass goes through a row from left to right, keeps what its rule does not apply to and replaces
the rest. Main statement: what a rule leaves alone in front of a row is kept as it is, and two
parts of a row that do not see each other are edited one after the other.
-/

namespace Stepwise

/-- Each backslash of a text, read from left to right, has a partner behind it. -/
inductive Paired : List Char → Prop
  | nil : Paired []
  | single {c : Char} {rest : List Char} (alone : c ≠ '\\') (behind : Paired rest) :
      Paired (c :: rest)
  | pair {c : Char} {rest : List Char} (behind : Paired rest) : Paired ('\\' :: c :: rest)

theorem Paired.append {front back : List Char} (hfront : Paired front) (hback : Paired back) :
    Paired (front ++ back) := by
  induction hfront with
  | nil => exact hback
  | single alone _ ih => exact .single alone ih
  | pair _ ih => exact .pair ih

theorem Paired.unescape {chars text : List Char} (h : Paired text) (hchars : '\\' ∉ chars) :
    Paired (unescape chars text) := by
  induction h with
  | nil => exact .nil
  | single alone _ ih =>
      rw [unescape_cons alone]
      exact .single alone ih
  | @pair c _ _ ih =>
      rw [unescape_pair]
      split
      · rename_i hc
        exact .single (fun heq => hchars (heq ▸ hc)) ih
      · exact .pair ih

/-! Edits. -/

/-- What a pass does at a place: it keeps an element, or replaces some. -/
inductive Edit (α β : Type)
  | kept (a : α)
  | replaced (taken : List α) (put : β)

namespace Edit

variable {α β : Type}

/-- What was there before. -/
def taken : Edit α β → List α
  | kept a => [a]
  | replaced taken _ => taken

/-- What is there afterwards. -/
def put : Edit α (List α) → List α
  | kept a => [a]
  | replaced _ put => put

end Edit

variable {α β : Type}

/-- What a pass does from the left to the right of a row. -/
def edits (rule : List α → Option (β × List α)) : List α → List (Edit α β)
  | [] => []
  | a :: rest =>
      match rule (a :: rest) with
      | none => .kept a :: edits rule rest
      | some (put, after) =>
          if after.length ≤ rest.length then
            .replaced ((a :: rest).take (rest.length + 1 - after.length)) put :: edits rule after
          else .kept a :: edits rule rest
termination_by row => row.length

theorem edits_nil (rule : List α → Option (β × List α)) : edits rule [] = [] := by
  rw [edits]

/-- A pass puts out what its edits put. -/
theorem flatMap_put_edits (rule : ReplacementRule) (text : List Char) :
    (edits rule text).flatMap Edit.put = rule.replaceAll text := by
  fun_induction edits rule text with
  | case1 => rw [List.flatMap_nil, ReplacementRule.replaceAll]
  | case2 c rest hnone ih =>
      rw [List.flatMap_cons, ih, ReplacementRule.replaceAll, hnone]
      rfl
  | case3 c rest put after hsome hle ih =>
      rw [List.flatMap_cons, ih, ReplacementRule.replaceAll, hsome]
      simp only [hle, ↓reduceIte]
      rfl
  | case4 c rest put after hsome hlt ih =>
      rw [List.flatMap_cons, ih, ReplacementRule.replaceAll, hsome]
      simp only [hlt, ↓reduceIte]
      rfl

/-- What a rule does not apply to is kept. -/
theorem edits_append {rule : List α → Option (β × List α)} {front back : List α}
    (h : ∀ s, s <:+ front → s ≠ [] → rule (s ++ back) = none) :
    edits rule (front ++ back) = front.map .kept ++ edits rule back := by
  induction front with
  | nil => rfl
  | cons a front ih =>
      have hnone := h (a :: front) (List.suffix_refl _) (List.cons_ne_nil _ _)
      rw [List.cons_append] at hnone ⊢
      rw [edits, hnone]
      simp only
      rw [ih fun s hs => h s (hs.trans (List.suffix_cons a front))]
      rfl

theorem flatMap_taken_kept (row : List α) :
    (row.map (.kept : α → Edit α β)).flatMap Edit.taken = row := by
  rw [List.flatMap_map]
  exact List.flatMap_singleton' row

/-- A rule goes on behind what it takes, which is something. -/
def GoesOn (rule : List α → Option (β × List α)) : Prop :=
  ∀ {a rest put after}, rule (a :: rest) = some (put, after) → after <:+ rest

theorem edits_of_none {rule : List α → Option (β × List α)} {a : α} {rest : List α}
    (h : rule (a :: rest) = none) : edits rule (a :: rest) = .kept a :: edits rule rest := by
  rw [edits, h]

theorem edits_of_some {rule : List α → Option (β × List α)} {a : α} {front after : List α}
    {put : β} (h : rule (a :: (front ++ after)) = some (put, after)) :
    edits rule (a :: (front ++ after)) = .replaced (a :: front) put :: edits rule after := by
  have hlength : after.length ≤ (front ++ after).length := by
    rw [List.length_append]
    exact Nat.le_add_left _ _
  have htaken : (front ++ after).length + 1 - after.length = (a :: front).length := by
    rw [List.length_append, List.length_cons]
    omega
  rw [edits, h]
  simp only [hlength, ↓reduceIte, htaken]
  rw [← List.cons_append, List.take_left]

/-- A property of rows holds if it is kept by each edit in front. -/
@[elab_as_elim]
theorem edits_induction {rule : List α → Option (β × List α)} (hrule : GoesOn rule)
    {motive : List α → Prop} (nil : motive [])
    (kept : ∀ a rest, rule (a :: rest) = none → motive rest → motive (a :: rest))
    (replaced : ∀ a front put after, rule (a :: (front ++ after)) = some (put, after) →
      motive after → motive (a :: (front ++ after))) (row : List α) : motive row := by
  fun_induction edits rule row with
  | case1 => exact nil
  | case2 a rest hnone ih => exact kept a rest hnone ih
  | case3 a rest put after hsome hle ih =>
      obtain ⟨front, rfl⟩ := hrule hsome
      exact replaced a front put after hsome ih
  | case4 a rest put after hsome hlt ih => exact absurd (hrule hsome).length_le hlt

/-- The edits of a row take all of it, in order. -/
theorem flatMap_taken_edits {rule : List α → Option (β × List α)} (hrule : GoesOn rule)
    (row : List α) : (edits rule row).flatMap Edit.taken = row := by
  induction row using edits_induction hrule with
  | nil => rw [edits_nil, List.flatMap_nil]
  | kept a rest hnone ih =>
      rw [edits_of_none hnone, List.flatMap_cons, ih]
      rfl
  | replaced a front put after hsome ih =>
      rw [edits_of_some hsome, List.flatMap_cons, ih]
      rfl

/-- Two parts of a row are edited one after the other if the rule does not look from the first
one into the second. -/
theorem edits_append_of_local {rule : List α → Option (β × List α)} (hrule : GoesOn rule)
    {back : List α} (hlocal : ∀ s, s ≠ [] → rule (s ++ back) =
      (rule s).map fun (put, after) => (put, after ++ back)) (front : List α) :
    edits rule (front ++ back) = edits rule front ++ edits rule back := by
  induction front using edits_induction hrule with
  | nil => rw [edits_nil, List.nil_append, List.nil_append]
  | kept a rest hnone ih =>
      have hboth := hlocal (a :: rest) (List.cons_ne_nil _ _)
      rw [hnone, List.cons_append] at hboth
      rw [edits_of_none hnone, List.cons_append, edits_of_none hboth, ih, List.cons_append]
  | replaced a between put after hsome ih =>
      have hboth := hlocal (a :: (between ++ after)) (List.cons_ne_nil _ _)
      rw [hsome, List.cons_append, List.append_assoc] at hboth
      rw [edits_of_some hsome, List.cons_append, List.append_assoc, edits_of_some hboth, ih,
        List.cons_append]

/-! Edits between pairs. -/

/-- What is replaced begins and ends between the pairs of a text. -/
def AtPairs (es : List (Edit Char (List Char))) : Prop :=
  ∀ front taken put back, es = front ++ .replaced taken put :: back →
    Paired (front.flatMap Edit.taken) ∧ Paired taken

theorem atPairs_nil : AtPairs [] := by
  intro front taken put back h
  exact absurd h (by simp)

theorem AtPairs.keep {text : List Char} (htext : Paired text)
    {es : List (Edit Char (List Char))} (h : AtPairs es) : AtPairs (text.map .kept ++ es) := by
  intro front taken put back heq
  rcases List.append_eq_append_iff.mp heq with ⟨between, rfl, hes⟩ | ⟨between, htext', hes⟩
  · obtain ⟨hbetween, htaken⟩ := h between taken put back hes
    rw [List.flatMap_append, flatMap_taken_kept]
    exact ⟨htext.append hbetween, htaken⟩
  · cases between with
    | nil =>
        obtain ⟨-, htaken⟩ := h [] taken put back hes.symm
        rw [List.append_nil] at htext'
        rw [← htext', flatMap_taken_kept]
        exact ⟨htext, htaken⟩
    | cons e between =>
        have hmem : Edit.replaced taken put ∈ text.map Edit.kept := by
          rw [htext', (List.cons.inj hes).1]
          simp
        obtain ⟨c, -, hc⟩ := List.mem_map.mp hmem
        exact absurd hc (by simp)

theorem AtPairs.replace {taken put : List Char} (htaken : Paired taken)
    {es : List (Edit Char (List Char))} (h : AtPairs es) :
    AtPairs (.replaced taken put :: es) := by
  intro front other text back heq
  cases front with
  | nil =>
      obtain ⟨heq, -⟩ := List.cons.inj heq
      rw [← (Edit.replaced.inj heq).1]
      exact ⟨.nil, htaken⟩
  | cons e front =>
      rw [List.cons_append] at heq
      obtain ⟨rfl, hes⟩ := List.cons.inj heq
      obtain ⟨hfront, hother⟩ := h front other text back hes
      exact ⟨htaken.append hfront, hother⟩

/-- The edits of a pass are what it reads and what it writes, and none of them begins or ends
inside of a pair. -/
structure EditsPairs (rule : ReplacementRule) (text : List Char) : Prop where
  taken : (edits rule text).flatMap Edit.taken = text
  put : (edits rule text).flatMap Edit.put = rule.replaceAll text
  atPairs : AtPairs (edits rule text)

end Stepwise
