import Stepwise.Proofs.Regex.Properties

/-!
# Contents of classes

A class is read from left to right, and what has been read stays a part of its content. Main
statement: what holds of a content and of all parts of such contents holds of everything that
was read on the way.
-/

namespace Stepwise.Regex

/-- What holds of a content holds of its parts, and of nothing. -/
structure Hereditary (P : Bracket → Prop) : Prop where
  empty : P .empty
  nested : ∀ {negated content}, P (.nested negated content) → P content
  union : ∀ {left right}, P (.union left right) → P left ∧ P right
  operation : ∀ {op left right}, P (.operation op left right) → P left ∧ P right

variable {P : Bracket → Prop}

theorem Bracket.unionOf_concat {items : List Bracket} (hitems : items ≠ []) (item : Bracket) :
    unionOf (items ++ [item]) = .union (unionOf items) item := by
  cases items with
  | nil => exact absurd rfl hitems
  | cons first items =>
      rw [List.cons_append, unionOf, List.foldl_append]
      rfl

theorem Hereditary.of_concat (hP : Hereditary P) {items : List Bracket} {item : Bracket}
    (h : P (.unionOf (items ++ [item]))) : P (.unionOf items) ∧ P item := by
  by_cases hitems : items = []
  · subst hitems
    exact ⟨hP.empty, h⟩
  · rw [Bracket.unionOf_concat hitems] at h
    exact hP.union h

/-- The parts that wait for what follows have a property. The outermost bracket waits for
nothing. -/
def AllPending (P : Bracket → Prop) : List OpenClass → Prop
  | [] => True
  | .operation op left :: pending => (∃ right, P (.operation op left right)) ∧ AllPending P pending
  | .bracket _ outer :: pending =>
      (pending ≠ [] → P (.unionOf outer.reverse)) ∧ AllPending P pending

namespace BracketReader

/-- Everything that has been read has a property. -/
structure Has (P : Bracket → Prop) (reader : BracketReader) : Prop where
  items : P (.unionOf reader.items.reverse)
  pending : AllPending P reader.pending

variable {verbose : Bool} {reader next : BracketReader} {source rest : List Char}

theorem Has.of_side (hP : Hereditary P) (hcontent : P reader.side.1)
    (hpending : AllPending P reader.side.2) : reader.Has P := by
  unfold side at hcontent hpending
  split at hcontent
  · rename_i op left outer heq
    rw [heq] at hpending
    refine ⟨(hP.operation hcontent).2, ?_⟩
    rw [heq]
    exact ⟨⟨_, hcontent⟩, hpending⟩
  · rename_i hnone
    refine ⟨hcontent, ?_⟩
    split at hpending
    · rename_i op left outer heq
      exact absurd heq (hnone op left outer)
    · exact hpending

theorem Has.of_add (hP : Hereditary P) {item : Bracket} (h : (reader.add item).Has P) :
    reader.Has P ∧ P item := by
  obtain ⟨hitems, hpending⟩ := h
  rw [add, List.reverse_cons] at hitems
  obtain ⟨hfront, hitem⟩ := hP.of_concat hitems
  exact ⟨⟨hfront, hpending⟩, hitem⟩

theorem Has.exists_operation {op : SetOperation} (h : (reader.operate op).Has P) :
    ∃ right, P (.operation op reader.side.1 right) :=
  h.pending.1

theorem Has.of_operate (hP : Hereditary P) {op : SetOperation} (h : (reader.operate op).Has P) :
    reader.Has P := by
  obtain ⟨right, hright⟩ := h.exists_operation
  exact Has.of_side hP (hP.operation hright).1 h.pending.2

/-- What a step does to the open parts of a class. -/
inductive LeadsTo (reader : BracketReader) : BracketReader → Prop
  | added (item : Bracket) : LeadsTo reader (reader.add item)
  | opened (negated : Bool) (items : List Bracket) :
      LeadsTo reader ⟨.bracket negated reader.items :: reader.pending, items⟩
  | closed {negated : Bool} {content : Bracket} {outer : List Bracket} {pending : List OpenClass}
      (side : reader.side = (content, .bracket negated outer :: pending)) (inner : pending ≠ []) :
      LeadsTo reader ⟨pending, .nested negated content :: outer⟩
  | operated (op : SetOperation) : LeadsTo reader (reader.operate op)

theorem leadsTo_of_step (h : reader.step verbose source = .ok (.more next rest)) :
    reader.LeadsTo next := by
  unfold step at h
  split at h
  · cases h
  · split at h
    · cases h
      exact .added _
    · obtain ⟨⟨negated, items, left⟩, hopen, heq⟩ := bind_eq_ok.mp h
      cases heq
      exact .opened negated items
  · split at h
    · cases h
    · rename_i content negated outer pending hmore hside
      cases h
      exact .closed hside hmore
    · cases h
  · cases h
    exact .operated .intersection
  · cases h
    exact .operated .difference
  · cases h
    exact .operated .symmetricDifference
  · obtain ⟨⟨item, left⟩, hrange, heq⟩ := bind_eq_ok.mp h
    cases heq
    exact .added item

theorem LeadsTo.pending_ne_nil (h : reader.LeadsTo next) (hne : reader.pending ≠ []) :
    next.pending ≠ [] := by
  cases h with
  | added item => exact hne
  | opened negated items => exact List.cons_ne_nil _ _
  | closed side inner => exact inner
  | operated op => exact List.cons_ne_nil _ _

/-- A step keeps what has been read, so it has the property if the result has it. -/
theorem Has.of_leadsTo (hP : Hereditary P) (hne : reader.pending ≠ []) (h : reader.LeadsTo next)
    (hnext : next.Has P) : reader.Has P := by
  cases h with
  | added item => exact (Has.of_add hP hnext).1
  | opened negated items =>
      obtain ⟨houter, hpending⟩ := hnext.pending
      exact ⟨houter hne, hpending⟩
  | closed side inner =>
      obtain ⟨hitems, hpending⟩ := hnext
      rw [List.reverse_cons] at hitems
      obtain ⟨houter, hnested⟩ := hP.of_concat hitems
      refine Has.of_side hP ?_ ?_
      · rw [side]
        exact hP.nested hnested
      · rw [side]
        exact ⟨fun _ => houter, hpending⟩
  | operated op => exact Has.of_operate hP hnext

theorem Has.of_done (hP : Hereditary P) {negated : Bool} {content : Bracket}
    (h : reader.step verbose source = .ok (.done negated content rest)) (hcontent : P content) :
    reader.Has P := by
  unfold step at h
  split at h
  · cases h
  · split at h
    · cases h
    · obtain ⟨⟨negated, items, left⟩, hopen, heq⟩ := bind_eq_ok.mp h
      cases heq
  · split at h
    · rename_i content negated outer hside
      cases h
      refine Has.of_side hP ?_ ?_
      · rw [hside]
        exact hcontent
      · rw [hside]
        exact ⟨fun hne => absurd rfl hne, trivial⟩
    · cases h
    · cases h
  · cases h
  · cases h
  · cases h
  · obtain ⟨⟨item, left⟩, hrange, heq⟩ := bind_eq_ok.mp h
    cases heq

/-- What holds of the whole content holds of what was read before the end. -/
theorem Has.of_run (hP : Hereditary P) (hne : reader.pending ≠ []) {negated : Bool}
    {content : Bracket} (h : reader.run verbose source = .ok (negated, content, rest))
    (hcontent : P content) : reader.Has P := by
  fun_induction run verbose reader source with
  | case1 => cases h
  | case2 reader source negated content left hstep =>
      cases h
      exact Has.of_done hP hstep hcontent
  | case3 reader source next left hstep hlt ih =>
      have hleads := leadsTo_of_step hstep
      exact Has.of_leadsTo hP hne hleads (ih (hleads.pending_ne_nil hne) h)
  | case4 => cases h

/-- A class is complete after a step, or it is read on. -/
theorem run_cases {negated : Bool} {content : Bracket}
    (h : reader.run verbose source = .ok (negated, content, rest)) :
    reader.step verbose (skipBlanks verbose source) = .ok (.done negated content rest) ∨
      ∃ next left, reader.step verbose (skipBlanks verbose source) = .ok (.more next left) ∧
        next.run verbose left = .ok (negated, content, rest) := by
  rw [run] at h
  split at h
  · cases h
  · rename_i hstep
    cases h
    exact .inl hstep
  · rename_i next left hstep
    split at h
    · exact .inr ⟨next, left, hstep, h⟩
    · cases h

/-- What stands in front of an item, an operation or a bracket. -/
def signs : List (List Char) :=
  [['['], [']'], ['&', '&'], ['-', '-'], ['~', '~']]

/-- Without a sign in front, an item is read. -/
theorem step_of_no_sign (hsource : source ≠ []) (h : ∀ front ∈ signs, ¬ front <+: source) :
    reader.step verbose source =
      classRange verbose source >>= fun (item, after) => .ok (.more (reader.add item) after) := by
  unfold step
  split
  · exact absurd rfl hsource
  · exact absurd ⟨_, rfl⟩ (h ['['] (by simp [signs]))
  · exact absurd ⟨_, rfl⟩ (h [']'] (by simp [signs]))
  · exact absurd ⟨_, rfl⟩ (h ['&', '&'] (by simp [signs]))
  · exact absurd ⟨_, rfl⟩ (h ['-', '-'] (by simp [signs]))
  · exact absurd ⟨_, rfl⟩ (h ['~', '~'] (by simp [signs]))
  · rfl

end BracketReader

/-! Escapes that a class needs. -/

namespace Bracket

/-- Whether a content ends with a tilde that stands for itself. -/
def endsTilde : Bracket → Bool
  | .literal l => l.char = '~'
  | .union _ right => right.endsTilde
  | .operation _ _ right => right.endsTilde
  | _ => false

/-- Whether an item begins with a tilde that stands for itself. -/
def beginsTilde : Bracket → Bool
  | .literal l => l.char = '~'
  | .range first _ => first.char = '~'
  | _ => false

/-- Whether no two tildes stand next to each other, unless they are an operation. -/
def tildesApart : Bracket → Bool
  | .nested _ content => content.tildesApart
  | .union left right =>
      left.tildesApart && right.tildesApart && !(left.endsTilde && right.beginsTilde)
  | .operation op left right =>
      left.tildesApart && right.tildesApart &&
        !(op = .symmetricDifference && left.endsTilde)
  | _ => true

/-- Whether a character does not stand for itself, neither alone nor at an end of a range. -/
def lacks (c : Char) : Bracket → Bool
  | .literal l => l.char ≠ c
  | .range first last => first.char ≠ c && last.char ≠ c
  | .nested _ content => content.lacks c
  | .union left right => left.lacks c && right.lacks c
  | .operation _ left right => left.lacks c && right.lacks c
  | _ => true

/-- Whether a class means the same without the escapes of a delimiter: two tildes would be an
operation, and a number sign would begin a comment where blanks are skipped. -/
def isUnescapable (verbose : Bool) (d : Char) (content : Bracket) : Bool :=
  (d ≠ '~' || content.tildesApart) && (!verbose || d ≠ '#' || content.lacks '#')

/-- A content whose names can be read and whose escapes can be removed. -/
structure Bears (verbose : Bool) (d : Char) (content : Bracket) : Prop where
  clean : content.IsClean
  unescapable : content.isUnescapable verbose d = true

variable {verbose : Bool} {d : Char} {content : Bracket}

theorem Bears.tildesApart (h : content.Bears verbose d) (hd : d = '~') :
    content.tildesApart = true := by
  have hboth := h.unescapable
  rw [isUnescapable, Bool.and_eq_true] at hboth
  simpa [hd] using hboth.1

theorem Bears.lacks (h : content.Bears verbose d) (hv : verbose = true) (hd : d = '#') :
    content.lacks '#' = true := by
  have hboth := h.unescapable
  rw [isUnescapable, Bool.and_eq_true] at hboth
  simpa [hd, hv] using hboth.2

theorem hereditary_bears : Hereditary (Bears verbose d) where
  empty := ⟨trivial, by simp [isUnescapable, Bracket.tildesApart, Bracket.lacks]⟩
  nested h := ⟨h.clean, h.unescapable⟩
  union h := by
    have hboth := h.unescapable
    simp only [isUnescapable, Bracket.tildesApart, Bracket.lacks] at hboth
    exact ⟨⟨h.clean.1, by grind [isUnescapable]⟩, ⟨h.clean.2, by grind [isUnescapable]⟩⟩
  operation h := by
    have hboth := h.unescapable
    simp only [isUnescapable, Bracket.tildesApart, Bracket.lacks] at hboth
    exact ⟨⟨h.clean.1, by grind [isUnescapable]⟩, ⟨h.clean.2, by grind [isUnescapable]⟩⟩

end Bracket

end Stepwise.Regex
