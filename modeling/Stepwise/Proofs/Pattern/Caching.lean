import Mathlib.Data.List.Induction
import Stepwise.Pattern.Registry

/-!
# What a registry remembers

A registry remembers the matchers of the patterns that were compiled, and new notations may
come behind the ones it has. Main statement: whatever it was asked before, it compiles a
pattern as it would without remembering any, and each pattern was compiled once.
-/

namespace Stepwise.Registry

/-- What a registry is asked. -/
inductive Call
  | register (added : Notation)
  | generate (kind : Option String) (text : String)
  | supports (pattern : String)
  | compile (pattern : String)

inductive Reply
  | registered
  | generated (result : Except PatternError Pattern)
  | supported (answer : Bool)
  | compiled (result : Except PatternError Matcher)

/-- Performs a call. Patterns are compiled within a number of bytes, if there is one. -/
def perform (limit : Option Nat) (registry : Registry) : Call → Registry × Logged Reply
  | .register added => (registry.withNotation added, { value := .registered })
  | .generate kind text =>
      let result := registry.generate kind text
      (registry, { value := .generated result.value, log := result.log })
  | .supports pattern => (registry, { value := .supported (registry.supports pattern) })
  | .compile pattern =>
      let result := registry.compileWithin limit pattern
      (result.value.1, { value := .compiled result.value.2, log := result.log })

/-- A registry without the patterns compiled so far. -/
def forget (registry : Registry) : Registry :=
  { registry with compiled := [] }

/-- A registry behind some calls, and the calls with their replies. -/
structure History where
  registry : Registry
  served : List (Call × Logged Reply) := []

namespace History

/-- A history with one more call. -/
def after (limit : Option Nat) (history : History) (call : Call) : History :=
  let (registry, reply) := history.registry.perform limit call
  { registry := registry, served := history.served ++ [(call, reply)] }

/-- The history of a registry that starts with some notations. -/
def ofCalls (limit : Option Nat) (notations : List Notation) (calls : List Call) : History :=
  calls.foldl (after limit) { registry := { notations := notations } }

def registered (history : History) : List Notation :=
  history.served.filterMap fun
    | (.register added, _) => some added
    | _ => none

/-- The patterns that a matcher was given for, as often as it was. -/
def answered (history : History) : List String :=
  history.served.filterMap fun
    | (.compile pattern, ⟨.compiled (.ok _), _⟩) => some pattern
    | _ => none

/-- What was logged by the calls that compile. -/
def compileLog (history : History) : List LogEntry :=
  history.served.flatMap fun
    | (.compile _, reply) => reply.log
    | _ => []

end History

theorem eraseDups_concat (patterns : List String) (pattern : String) :
    (patterns ++ [pattern]).eraseDups =
      if pattern ∈ patterns then patterns.eraseDups else patterns.eraseDups ++ [pattern] := by
  rw [List.eraseDups_append]
  by_cases h : pattern ∈ patterns
  · simp [List.removeAll, h]
  · simp [List.removeAll, h, List.eraseDups_cons]

theorem count_eraseDups (patterns : List String) (pattern : String) :
    patterns.eraseDups.count pattern = if pattern ∈ patterns then 1 else 0 := by
  induction patterns using List.reverseRecOn with
  | nil => rfl
  | append_singleton patterns last ih =>
      rw [eraseDups_concat]
      by_cases hlast : last ∈ patterns
      · rw [if_pos hlast, ih]
        by_cases hpattern : pattern = last
        · simp [hpattern, hlast]
        · simp [hpattern]
      · rw [if_neg hlast, List.count_append, ih]
        by_cases hpattern : pattern = last
        · simp [hpattern, hlast]
        · simp [hpattern, Ne.symm hpattern]

/-! What a single call does. -/

variable {limit : Option Nat} {registry : Registry} {pattern : String} {used : Notation}

/-- The first notation of a pattern is the first one in front of others, too. -/
theorem notation?_withNotation (h : registry.notation? pattern = some used) (added : Notation) :
    (registry.withNotation added).notation? pattern = some used := by
  rw [notation?] at h
  rw [notation?, withNotation, List.find?_append, h, Option.some_or]

theorem mem_of_lookup? {m : Matcher} (h : registry.lookup? pattern = some m) :
    (pattern, m) ∈ registry.compiled := by
  obtain ⟨entry, hfind, rfl⟩ := Option.map_eq_some_iff.mp h
  have hpattern : entry.1 = pattern := by simpa using List.find?_some hfind
  rw [← hpattern]
  exact List.mem_of_find?_eq_some hfind

theorem not_mem_of_lookup?_eq_none (h : registry.lookup? pattern = none) :
    pattern ∉ registry.compiled.map Prod.fst := by
  rw [lookup?, Option.map_eq_none_iff, List.find?_eq_none] at h
  intro hmem
  obtain ⟨entry, hentry, hpattern⟩ := List.mem_map.mp hmem
  exact h entry hentry (by simpa using hpattern)

/-- A pattern is known, has no notation, or is compiled by its first one and known from then
on. -/
theorem compileWithin_cases (limit : Option Nat) (registry : Registry) (pattern : String) :
    (∃ m, registry.lookup? pattern = some m ∧
      registry.compileWithin limit pattern = { value := (registry, .ok m), log := [] }) ∨
    (registry.lookup? pattern = none ∧ registry.notation? pattern = none ∧
      registry.compileWithin limit pattern =
        { value := (registry, .error (.unsupportedPattern pattern)), log := [] }) ∨
    ∃ used, registry.lookup? pattern = none ∧ registry.notation? pattern = some used ∧
      registry.compileWithin limit pattern =
        { value :=
            ({ registry with
                compiled := registry.compiled ++ [(pattern, (compileBy limit used pattern).value)] },
              .ok (compileBy limit used pattern).value)
          log := (compileBy limit used pattern).log } := by
  unfold compileWithin
  cases hlookup : registry.lookup? pattern with
  | some m => exact .inl ⟨m, rfl, rfl⟩
  | none =>
      cases hfirst : registry.notation? pattern with
      | none => exact .inr (.inl ⟨rfl, rfl, rfl⟩)
      | some used => exact .inr (.inr ⟨used, rfl, rfl, rfl⟩)

/-- A registry that remembers nothing compiles a pattern by its first notation. -/
theorem compileWithin_forget (limit : Option Nat) (registry : Registry) (pattern : String) :
    (registry.forget.compileWithin limit pattern).value.2 =
      match registry.notation? pattern with
      | some used => .ok (compileBy limit used pattern).value
      | none => .error (.unsupportedPattern pattern) := by
  have hlookup : registry.forget.lookup? pattern = none := rfl
  have hfirst : registry.forget.notation? pattern = registry.notation? pattern := rfl
  rw [compileWithin, hlookup, hfirst]
  cases registry.notation? pattern with
  | none => rfl
  | some used => rfl

/-! What calls in a row leave behind. -/

/-- Compilations of patterns by notations, each of which was done once: their matchers are
remembered, and what was logged was logged by them. -/
structure Compiled (limit : Option Nat) (history : History) (work : List (Notation × String)) :
    Prop where
  compiled : history.registry.compiled =
    work.map fun entry => (entry.2, (compileBy limit entry.1 entry.2).value)
  compileLog : history.compileLog =
    work.flatMap fun entry => (compileBy limit entry.1 entry.2).log
  notation? : ∀ entry ∈ work, history.registry.notation? entry.2 = some entry.1
  patterns : work.map Prod.snd = history.answered.eraseDups

variable {history : History} {work : List (Notation × String)}

/-- The patterns that are remembered are those that a matcher was given for. -/
theorem Compiled.keys (h : Compiled limit history work) :
    history.registry.compiled.map Prod.fst = history.answered.eraseDups := by
  rw [h.compiled, List.map_map, ← h.patterns]
  rfl

/-- A matcher that is remembered was made by the first notation of its pattern. -/
theorem Compiled.of_lookup? (h : Compiled limit history work) {m : Matcher}
    (hlookup : history.registry.lookup? pattern = some m) :
    ∃ used, history.registry.notation? pattern = some used ∧
      m = (compileBy limit used pattern).value := by
  have hmem := mem_of_lookup? hlookup
  rw [h.compiled] at hmem
  obtain ⟨entry, hwork, hentry⟩ := List.mem_map.mp hmem
  obtain ⟨rfl, rfl⟩ := Prod.mk.inj hentry
  exact ⟨entry.1, h.notation? entry hwork, rfl⟩

/-- What is remembered is what would be compiled without remembering anything. -/
theorem Compiled.compileWithin_eq (h : Compiled limit history work) (pattern : String) :
    (history.registry.compileWithin limit pattern).value.2 =
      (history.registry.forget.compileWithin limit pattern).value.2 := by
  rw [compileWithin_forget]
  rcases compileWithin_cases limit history.registry pattern with
    ⟨m, hlookup, hcompile⟩ | ⟨-, hfirst, hcompile⟩ | ⟨used, -, hfirst, hcompile⟩
  · obtain ⟨used, hfirst, rfl⟩ := h.of_lookup? hlookup
    rw [hcompile, hfirst]
  · rw [hcompile, hfirst]
  · rw [hcompile, hfirst]

/-- Calls that compile nothing keep what was compiled. -/
theorem Compiled.of_same (h : Compiled limit history work) {later : History}
    (hcompiled : later.registry.compiled = history.registry.compiled)
    (hfirst : ∀ pattern used, history.registry.notation? pattern = some used →
      later.registry.notation? pattern = some used)
    (hlog : later.compileLog = history.compileLog) (hanswered : later.answered = history.answered) :
    Compiled limit later work where
  compiled := hcompiled.trans h.compiled
  compileLog := hlog.trans h.compileLog
  notation? entry hentry := hfirst _ _ (h.notation? entry hentry)
  patterns := by rw [hanswered, h.patterns]

theorem answered_compile (limit : Option Nat) (history : History) (pattern : String) :
    (history.after limit (.compile pattern)).answered =
      history.answered ++
        match (history.registry.compileWithin limit pattern).value.2 with
        | .ok _ => [pattern]
        | .error _ => [] := by
  rw [History.after, History.answered, History.answered, List.filterMap_append]
  simp only [perform]
  cases (history.registry.compileWithin limit pattern).value.2 with
  | ok m => rfl
  | error e => rfl

theorem compileLog_compile (limit : Option Nat) (history : History) (pattern : String) :
    (history.after limit (.compile pattern)).compileLog =
      history.compileLog ++ (history.registry.compileWithin limit pattern).log := by
  rw [History.after, History.compileLog, History.compileLog, List.flatMap_append]
  simp [perform]

/-- A call that compiles adds to what was compiled only if it gives a matcher for the first
time. -/
theorem Compiled.compile (h : Compiled limit history work) (pattern : String) :
    ∃ work, Compiled limit (history.after limit (.compile pattern)) work := by
  have hregistry : (history.after limit (.compile pattern)).registry =
      (history.registry.compileWithin limit pattern).value.1 := rfl
  have hlog := compileLog_compile limit history pattern
  have hanswered := answered_compile limit history pattern
  rcases compileWithin_cases limit history.registry pattern with
    ⟨m, hlookup, hcompile⟩ | ⟨-, -, hcompile⟩ | ⟨used, hlookup, hfirst, hcompile⟩
  · -- remembered: the pattern is one of those that a matcher was given for
    rw [hcompile] at hregistry hlog hanswered
    have hmem : pattern ∈ history.answered := by
      rw [← List.mem_eraseDups, ← h.keys]
      exact List.mem_map_of_mem (mem_of_lookup? hlookup)
    refine ⟨work, ?_, ?_, ?_, ?_⟩
    · rw [hregistry, h.compiled]
    · rw [hlog, List.append_nil, h.compileLog]
    · rw [hregistry]
      exact h.notation?
    · rw [hanswered, eraseDups_concat, if_pos hmem, h.patterns]
  · rw [hcompile] at hregistry hlog hanswered
    refine ⟨work, h.of_same ?_ ?_ ?_ ?_⟩
    · rw [hregistry]
    · rw [hregistry]
      exact fun _ _ hsome => hsome
    · rw [hlog, List.append_nil]
    · rw [hanswered, List.append_nil]
  · -- compiled: no matcher was given for the pattern before
    rw [hcompile] at hregistry hlog hanswered
    have hnew : pattern ∉ history.answered := by
      rw [← List.mem_eraseDups, ← h.keys]
      exact not_mem_of_lookup?_eq_none hlookup
    refine ⟨work ++ [(used, pattern)], ?_, ?_, ?_, ?_⟩
    · rw [hregistry, List.map_append, ← h.compiled]
      rfl
    · rw [hlog, List.flatMap_append, ← h.compileLog, List.flatMap_singleton]
    · rw [hregistry]
      intro entry hentry
      rcases List.mem_append.mp hentry with hwork | hlast
      · exact h.notation? entry hwork
      · rw [List.mem_singleton.mp hlast]
        exact hfirst
    · rw [hanswered, eraseDups_concat, if_neg hnew, List.map_append, h.patterns]
      rfl

/-- One call more keeps track of what was compiled. -/
theorem Compiled.after (h : Compiled limit history work) (call : Call) :
    ∃ work, Compiled limit (history.after limit call) work := by
  cases call with
  | register added =>
      refine ⟨work, h.of_same rfl (fun pattern used hused => ?_) ?_ ?_⟩
      · exact notation?_withNotation hused added
      · simp [History.after, History.compileLog, perform]
      · simp [History.after, History.answered, perform]
  | generate kind text =>
      refine ⟨work, h.of_same rfl (fun _ _ hused => hused) ?_ ?_⟩
      · simp [History.after, History.compileLog, perform]
      · simp [History.after, History.answered, perform]
  | supports pattern =>
      refine ⟨work, h.of_same rfl (fun _ _ hused => hused) ?_ ?_⟩
      · simp [History.after, History.compileLog, perform]
      · simp [History.after, History.answered, perform]
  | compile pattern => exact h.compile pattern

theorem ofCalls_concat (limit : Option Nat) (notations : List Notation) (calls : List Call)
    (call : Call) :
    History.ofCalls limit notations (calls ++ [call]) =
      (History.ofCalls limit notations calls).after limit call := by
  rw [History.ofCalls, List.foldl_append]
  rfl

/-- Whatever calls there are, what was compiled is accounted for. -/
theorem exists_compiled (limit : Option Nat) (notations : List Notation) (calls : List Call) :
    ∃ work, Compiled limit (History.ofCalls limit notations calls) work := by
  induction calls using List.reverseRecOn with
  | nil => exact ⟨[], rfl, rfl, by simp, rfl⟩
  | append_singleton calls call ih =>
      obtain ⟨work, h⟩ := ih
      rw [ofCalls_concat]
      exact h.after call

/-- A registration adds to the notations, and no other call changes them. -/
theorem notations_after {start : List Notation} (limit : Option Nat)
    (h : history.registry.notations = start ++ history.registered) (call : Call) :
    (history.after limit call).registry.notations =
      start ++ (history.after limit call).registered := by
  cases call with
  | register added => simp [History.after, History.registered, perform, withNotation, h]
  | generate kind text => simpa [History.after, History.registered, perform] using h
  | supports pattern => simpa [History.after, History.registered, perform] using h
  | compile pattern =>
      have hsame : (history.registry.compileWithin limit pattern).value.1.notations =
          history.registry.notations := by
        rcases compileWithin_cases limit history.registry pattern with
          ⟨m, -, hcompile⟩ | ⟨-, -, hcompile⟩ | ⟨used, -, -, hcompile⟩ <;> rw [hcompile]
      simpa [History.after, History.registered, perform, hsame] using h

/-- The notations are those at the start and the registered ones. -/
theorem notations_ofCalls (limit : Option Nat) (notations : List Notation) (calls : List Call) :
    (History.ofCalls limit notations calls).registry.notations =
      notations ++ (History.ofCalls limit notations calls).registered := by
  induction calls using List.reverseRecOn with
  | nil => exact (List.append_nil notations).symm
  | append_singleton calls call ih =>
      rw [ofCalls_concat]
      exact notations_after limit ih call

/-- Whether a log entry tells that a pattern was compiled. -/
def isCompilationOf (pattern : String) : LogEntry → Bool
  | .compiledPattern compiled _ _ => compiled = pattern
  | _ => false

/-- A compilation is logged behind everything else that is logged about it. -/
theorem log_compileBy (limit : Option Nat) (used : Notation) (pattern : String) :
    (compileBy limit used pattern).log =
      used.remarks pattern ++
        (if (Matcher.ofSourceWithin limit (used.toRegex pattern)).isDegraded then
          [.uncompilablePattern (used.toRegex pattern)]
        else []) ++
        [.compiledPattern pattern used.name (used.toRegex pattern)] :=
  rfl

theorem countP_log_compileBy (limit : Option Nat) (used : Notation) (compiled pattern : String) :
    (compileBy limit used compiled).log.countP (isCompilationOf pattern) =
      if compiled = pattern then 1 else 0 := by
  have hremarks : (used.remarks compiled).countP (isCompilationOf pattern) = 0 := by
    rw [List.countP_eq_zero, Notation.remarks]
    intro entry hentry
    obtain ⟨letters, -, rfl⟩ := List.mem_map.mp hentry
    exact Bool.false_ne_true
  have hdegraded : (if (Matcher.ofSourceWithin limit (used.toRegex compiled)).isDegraded then
      [LogEntry.uncompilablePattern (used.toRegex compiled)] else []).countP
        (isCompilationOf pattern) = 0 := by
    split <;> rfl
  rw [log_compileBy, List.countP_append, List.countP_append, hremarks, hdegraded,
    List.countP_singleton]
  simp only [isCompilationOf, decide_eq_true_eq, Nat.zero_add]

/-- Each pattern that a matcher was given for is logged as compiled once, and no other one is. -/
theorem Compiled.countP_compileLog (h : Compiled limit history work) (pattern : String) :
    history.compileLog.countP (isCompilationOf pattern) =
      if pattern ∈ history.answered then 1 else 0 := by
  have hcount : ∀ entries : List (Notation × String),
      (entries.flatMap fun entry => (compileBy limit entry.1 entry.2).log).countP
        (isCompilationOf pattern) = (entries.map Prod.snd).count pattern := by
    intro entries
    induction entries with
    | nil => rfl
    | cons entry rest ih =>
        rw [List.flatMap_cons, List.countP_append, ih, countP_log_compileBy, List.map_cons,
          List.count_cons, Nat.add_comm]
        simp only [beq_iff_eq]
  rw [h.compileLog, hcount, h.patterns, count_eraseDups]

/-- Whatever calls there were, a registry compiles a pattern by the first notation that accepts
it, as one with the same notations would that compiled none before. It fails for the patterns
without a notation and does not change then. What it remembers is never out of date: these are the
patterns that a matcher was given for, each of them turned into an expression, compiled, and
logged, once. -/
theorem compileWithin_ofCalls (limit : Option Nat) (notations : List Notation)
    (calls : List Call) (pattern : String) :
    let history := History.ofCalls limit notations calls
    let registry := history.registry
    let result := (registry.compileWithin limit pattern).value
    let first (known : String) := (notations ++ history.registered).find? (·.accepts known)
    registry.notations = notations ++ history.registered ∧
    (∀ used, first pattern = some used →
      result.2 = .ok (Matcher.ofSourceWithin limit (used.toRegex pattern))) ∧
    (first pattern = none → result.2 = .error (.unsupportedPattern pattern)) ∧
    result.2 = (registry.forget.compileWithin limit pattern).value.2 ∧
    (result.2 = .error (.unsupportedPattern pattern) ↔ registry.supports pattern = false) ∧
    (∀ e, result.2 = .error e → e = .unsupportedPattern pattern ∧ result.1 = registry) ∧
    registry.compiled.map Prod.fst = history.answered.eraseDups ∧
    (∀ known m, registry.lookup? known = some m →
      (registry.forget.compileWithin limit known).value.2 = .ok m) ∧
    (∃ work : List (Notation × String),
      work.map Prod.snd = history.answered.eraseDups ∧
      (∀ entry ∈ work, first entry.2 = some entry.1) ∧
      registry.compiled = work.map (fun entry =>
        (entry.2, Matcher.ofSourceWithin limit (entry.1.toRegex entry.2))) ∧
      history.compileLog = work.flatMap (fun entry =>
        entry.1.remarks entry.2 ++
          (if (Matcher.ofSourceWithin limit (entry.1.toRegex entry.2)).isDegraded then
            [.uncompilablePattern (entry.1.toRegex entry.2)]
          else []) ++
          [.compiledPattern entry.2 entry.1.name (entry.1.toRegex entry.2)])) ∧
    ∀ known, history.compileLog.countP (isCompilationOf known) =
      if known ∈ history.answered then 1 else 0 := by
  intro history registry result first
  obtain ⟨work, h⟩ := exists_compiled limit notations calls
  have hnotations : registry.notations = notations ++ history.registered :=
    notations_ofCalls limit notations calls
  have hfirst (known : String) : registry.notation? known = first known := by
    rw [notation?, hnotations]
  have hforget : result.2 = (registry.forget.compileWithin limit pattern).value.2 :=
    h.compileWithin_eq pattern
  refine ⟨hnotations, ?_, ?_, hforget, ?_, ?_, h.keys, ?_,
    ⟨work, h.patterns, ?_, h.compiled, ?_⟩, h.countP_compileLog⟩
  · intro used hused
    rw [hforget, compileWithin_forget, hfirst, hused]
    rfl
  · intro hnone
    rw [hforget, compileWithin_forget, hfirst, hnone]
  · rw [hforget, compileWithin_forget, supports_eq_isSome]
    cases registry.notation? pattern with
    | none => exact iff_of_true rfl rfl
    | some used => exact iff_of_false (by simp) (by simp)
  · intro e he
    have hresult : result = (registry.compileWithin limit pattern).value := rfl
    rcases compileWithin_cases limit registry pattern with
      ⟨m, -, hcompile⟩ | ⟨-, -, hcompile⟩ | ⟨used, -, -, hcompile⟩ <;>
      rw [hresult, hcompile] at he ⊢
    · cases he
    · cases he
      exact ⟨rfl, rfl⟩
    · cases he
  · intro known m hlookup
    obtain ⟨used, hused, rfl⟩ := h.of_lookup? hlookup
    rw [compileWithin_forget, hused]
  · intro entry hentry
    rw [← hfirst]
    exact h.notation? entry hentry
  · exact h.compileLog

end Stepwise.Registry
