import TestBench.Proofs.Directory.Leaves
import TestBench.Proofs.Script.Visits

/-! The calls by which a script declares tests. A call declares a test, passes a path over or ends
with an error; nothing else in a script touches ids, tests or paths passed over, so that calls which
are made one after the other can be added up. -/
namespace TestBench

def Stop.isInvalidExpectation : Stop → Bool
  | .failure (.invalidExpectation _ _ _) => true
  | _ => false

def refusedBy {α : Type} : Except Stop α → Bool
  | .error e => e.isInvalidExpectation
  | .ok _ => false

/-- A text that is not empty ends the path. -/
def IsEnding (suffix path : String) : Prop :=
  suffix ≠ "" ∧ suffix.toList <:+ path.toList

/-- The values that the option `skip` gives as suffixes: one text, or the items of another value. A
value that does not count as given has none. -/
inductive Suffixes (options : List (Value × Value)) : List Value → Prop
  | absent (absent : Value.find? (.text "skip") options = none) : Suffixes options []
  | notGiven {v : Value} (found : Value.find? (.text "skip") options = some v)
      (empty : v.isTrue = false) : Suffixes options []
  | text {s : String} (found : Value.find? (.text "skip") options = some (.text s))
      (given : s ≠ "") : Suffixes options [.text s]
  | items {v : Value} {vs : List Value} (found : Value.find? (.text "skip") options = some v)
      (given : v.isTrue = true) (other : ∀ s, v ≠ .text s) (items : v.items = .ok vs) :
      Suffixes options vs

/-- An option that a test is made with holds a number that is too long to be shown. It is the first
one, in the order `args`, `expected`, `comment`, that anything is wrong with. -/
inductive LongOption (options : List (Value × Value)) : Prop where
  | args {v : Value} (given : Value.find? (.text "args") options = some v)
      (long : v.hasLongNumber = true)
  | expected {v : Value} {text : String} (args : optionText options "args" = .ok text)
      (given : Value.find? (.text "expected") options = some v) (long : v.hasLongNumber = true)
  | comment {v : Value} {text : String} {o : Outcome} (args : optionText options "args" = .ok text)
      (expected : optionExpectation options = .ok o)
      (given : Value.find? (.text "comment") options = some v) (long : v.hasLongNumber = true)

namespace Call

def declare (c : Call) : ScriptM (Option Test) := do
  declareTest (← ScriptM.ofExcept Stop.fault (c.bind .test))

/-- What a call says before its test has an id, its arguments in their places. -/
def said (c : Call) : Except Stop (List (Value × Value) × String × List Value) :=
  match c.bind .test with
  | .error f => .error (.fault f)
  | .ok bound => bound.reading

/-- The call gives a path, and these options and suffixes. -/
structure Gives (c : Call) (options : List (Value × Value)) (path : String)
    (suffixes : List Value) : Prop where
  merged : ∃ bound, c.bind .test = .ok bound ∧ bound.mergedOptions .test = .ok options
  path : c.path.toText = .ok path
  suffixes : Suffixes options suffixes

/-- One of the suffixes of the call ends its path, and those before it have texts. -/
def Skips (c : Call) : Prop :=
  ∃ options path before v after suffix, c.Gives options path (before ++ v :: after) ∧
    (∀ u ∈ before, u.hasLongNumber = false) ∧ v.toText = .ok suffix ∧ IsEnding suffix path

/-- No suffix of the call ends its path, and one of the options of its test has no text. -/
def Unshown (c : Call) : Prop :=
  ∃ options path suffixes, c.Gives options path suffixes ∧
    (∀ v ∈ suffixes, ∃ suffix, v.toText = .ok suffix ∧ ¬ IsEnding suffix path) ∧
    LongOption options

/-- What becomes of a call, and of the state it is made in, if ids are taken by tests and by
expectations that are refused. -/
inductive Ends (c : Call) (s : ScriptState) : Except Stop (Option Test) × ScriptState → Prop
  | declares {t : Test} (kept : ¬ c.Skips) (id : t.id = s.next) (path : c.path.toText = .ok t.path)
      (expected : t.expected.isExpectation = true) (unrun : t.result = none) :
      Ends c s (.ok (some t), { s with next := s.next + 1, tests := s.tests ++ [t] })
  | skips {path : String} (skipped : c.Skips) (shown : c.path.toText = .ok path) :
      Ends c s (.ok none, { s with skipped := s.skipped ++ [path] })
  | refuses (kept : ¬ c.Skips) {e : Stop} (invalid : e.isInvalidExpectation = true) :
      Ends c s (.error e, { s with next := s.next + 1 })
  | raises (kept : ¬ c.Skips) {e : Stop} (other : e.isInvalidExpectation = false) :
      Ends c s (.error e, s)

theorem path_bind {p : Primitive} {c b : Call} (bound : c.bind p = .ok b) : b.path = c.path := by
  unfold bind at bound
  split at bound
  · cases bound
  · split at bound <;> cases bound <;> rfl

end Call

/-! What the options of a test fail with. -/

section Options

variable {options : List (Value × Value)} {v : Value} {e : Stop}

theorem isInvalidExpectation_of_check {o : Outcome} (h : o.checkExpectation = .error e) :
    e.isInvalidExpectation = true := by
  unfold Outcome.checkExpectation at h
  split at h
  · cases h
  · cases h
    rfl

theorem invalid_or_long_of_value (h : v.toExpectation = .error e) :
    e.isInvalidExpectation = true ∨ e = .fault .longNumber ∧ v.hasLongNumber = true := by
  unfold Value.toExpectation at h
  split at h
  · exact .inl (isInvalidExpectation_of_check h)
  · split at h
    · rename_i f failed
      cases h
      obtain ⟨rfl, long⟩ := Value.toText_eq_error_iff.mp failed
      exact .inr ⟨rfl, long⟩
    · split at h
      · exact .inl (isInvalidExpectation_of_check h)
      · cases h
        exact .inl rfl

theorem toExpectation_of_long (long : v.hasLongNumber = true) :
    v.toExpectation = .error (.fault .longNumber) := by
  have text : v.toText = .error .longNumber := Value.toText_eq_error_iff.mpr ⟨rfl, long⟩
  unfold Value.toExpectation
  split
  · cases long
  · rw [text]

theorem optionText_eq_error_iff {name : String} {f : Fault} :
    optionText options name = .error f ↔
      f = .longNumber ∧ ∃ v, Value.find? (.text name) options = some v ∧ v.hasLongNumber = true := by
  unfold optionText
  cases Value.find? (.text name) options with
  | none => simp
  | some v => simp [Value.toText_eq_error_iff]

theorem invalid_or_long_of_options (failed : testOptions options = .error e) :
    e.isInvalidExpectation = true ∨ e = .fault .longNumber ∧ LongOption options := by
  simp only [testOptions, bind_eq_error_iff, mapError_eq_error_iff, mapError_eq_ok_iff] at failed
  rcases failed with ⟨f, no_args, rfl⟩ | ⟨args, args_ok, failed⟩
  · obtain ⟨rfl, v, given, long⟩ := optionText_eq_error_iff.mp no_args
    exact .inr ⟨rfl, .args given long⟩
  · rcases failed with no_outcome | ⟨o, outcome_ok, ⟨f, no_comment, rfl⟩ | ⟨_, -, ⟨⟩⟩⟩
    · rcases invalid_or_long_of_value no_outcome with invalid | ⟨rfl, long⟩
      · exact .inl invalid
      · -- the outcome that stands for an option not given has a text
        cases given : Value.find? (.text "expected") options with
        | none => rw [given] at long; cases long
        | some v => rw [given] at long; exact .inr ⟨rfl, .expected args_ok given long⟩
    · obtain ⟨rfl, v, given, long⟩ := optionText_eq_error_iff.mp no_comment
      exact .inr ⟨rfl, .comment args_ok outcome_ok given long⟩

theorem testOptions_of_long (long : LongOption options) :
    testOptions options = .error (.fault .longNumber) := by
  unfold testOptions
  cases long with
  | args given long =>
    rw [optionText_eq_error_iff.mpr ⟨rfl, _, given, long⟩]
    rfl
  | expected args given long =>
    rw [args, optionExpectation, given, Option.getD_some, toExpectation_of_long long]
    rfl
  | comment args expected given long =>
    rw [args, expected, optionText_eq_error_iff.mpr ⟨rfl, _, given, long⟩]
    rfl

end Options

theorem not_invalid_of_options {p : Primitive} {c : Call} {e : Stop}
    (h : c.mergedOptions p = .error e) : e.isInvalidExpectation = false := by
  unfold Call.mergedOptions at h
  split at h
  · cases h
    rfl
  · dsimp only at h
    split at h
    · cases h
    · cases h
      unfold unknownOptionsStop
      split
      · rfl
      · split <;> rfl
      · rfl

theorem not_invalid_of_directories {fs : FileSystem} {c : Call} {e : Stop}
    (h : loopDirectories fs c = .error e) : e.isInvalidExpectation = false := by
  unfold loopDirectories at h
  split at h
  · rename_i failed
    cases h
    exact not_invalid_of_options failed
  · split at h
    · cases h
    · split at h
      · cases h
        rfl
      · obtain ⟨failure, searched, rfl⟩ := mapError_eq_error_iff.mp h
        rcases FileSystem.leaves_error searched with rfl | ⟨path, reason, rfl⟩ <;> rfl

/-! Suffixes. -/

section Suffixes

theorem isTrue_text {s : String} : (Value.text s).isTrue = true ↔ s ≠ "" := by
  simp [Value.isTrue]

theorem skipSuffixes_eq_ok_iff {options : List (Value × Value)} {vs : List Value} :
    skipSuffixes options = .ok vs ↔ Suffixes options vs := by
  constructor
  · intro read
    unfold skipSuffixes at read
    cases found : Value.find? (.text "skip") options with
    | none =>
      rw [found] at read
      cases read
      exact .absent found
    | some v =>
      rw [found, Option.getD_some] at read
      dsimp only at read
      cases given : v.isTrue with
      | false =>
        rw [given] at read
        cases read
        exact .notGiven found given
      | true =>
        simp only [given, Bool.not_true, Bool.false_eq_true, if_false] at read
        split at read
        · cases read
          exact .text found (isTrue_text.mp given)
        · rename_i other
          exact .items found given other read
  · intro gives
    unfold skipSuffixes
    cases gives with
    | absent absent => simp [absent, Value.isTrue]
    | notGiven found empty => simp [found, empty]
    | text found given => simp [found, isTrue_text.mpr given]
    | items found given other items =>
      simp only [found, Option.getD_some, given, Bool.not_true, Bool.false_eq_true, if_false]
      exact items

theorem skips_cons (path : String) (vs : List Value) {v : Value} {suffix : String}
    (shown : v.toText = .ok suffix) :
    IsEnding suffix path ∧ skips path (v :: vs) = .ok true ∨
      ¬ IsEnding suffix path ∧ skips path (v :: vs) = skips path vs := by
  simp only [skips, shown, IsEnding]
  by_cases ending : suffix ≠ "" ∧ suffix.toList <:+ path.toList
  · exact .inl ⟨ending, by simp [ending]⟩
  · refine .inr ⟨ending, ?_⟩
    rw [if_neg]
    simpa using ending

variable {path : String} {suffixes : List Value}

theorem skips_eq_true_iff :
    skips path suffixes = .ok true ↔
      ∃ before v after suffix, suffixes = before ++ v :: after ∧
        (∀ u ∈ before, u.hasLongNumber = false) ∧ v.toText = .ok suffix ∧ IsEnding suffix path := by
  induction suffixes with
  | nil => simp [skips]
  | cons v vs ih =>
    cases shown : v.toText with
    | error f =>
      have long := (Value.toText_eq_error_iff.mp shown).2
      refine iff_of_false (by simp [skips, shown]) ?_
      rintro ⟨before, w, after, suffix, parts, texts, text, -⟩
      cases before with
      | nil =>
        cases parts
        cases shown.symm.trans text
      | cons u before =>
        cases parts
        cases (texts _ List.mem_cons_self).symm.trans long
    | ok suffix =>
      rcases skips_cons path vs shown with ⟨ending, here⟩ | ⟨kept, on⟩
      · exact iff_of_true here ⟨[], v, vs, suffix, rfl, by simp, shown, ending⟩
      · rw [on, ih]
        constructor
        · rintro ⟨before, w, after, suffix', rfl, texts, text, ending⟩
          exact ⟨v :: before, w, after, suffix', rfl,
            List.forall_mem_cons.mpr ⟨Value.hasLongNumber_of_toText shown, texts⟩, text, ending⟩
        · rintro ⟨before, w, after, suffix', parts, texts, text, ending⟩
          cases before with
          | nil =>
            cases parts
            cases shown.symm.trans text
            exact absurd ending kept
          | cons u before =>
            cases parts
            exact ⟨before, w, after, suffix', rfl, (List.forall_mem_cons.mp texts).2, text, ending⟩

theorem skips_eq_false_iff :
    skips path suffixes = .ok false ↔
      ∀ v ∈ suffixes, ∃ suffix, v.toText = .ok suffix ∧ ¬ IsEnding suffix path := by
  induction suffixes with
  | nil => simp [skips]
  | cons v vs ih =>
    rw [List.forall_mem_cons]
    cases shown : v.toText with
    | error f => simp [skips, shown]
    | ok suffix =>
      rcases skips_cons path vs shown with ⟨ending, here⟩ | ⟨kept, on⟩
      · simp [here, ending]
      · simp [on, ih, kept]

end Suffixes

namespace Call

open ScriptM

variable (c : Call) (s : ScriptState)

theorem not_invalid_of_said {e : Stop} (failed : c.said = .error e) :
    e.isInvalidExpectation = false := by
  unfold said at failed
  split at failed
  · cases failed
    rfl
  · simp only [reading, bind_eq_error_iff, mapError_eq_error_iff] at failed
    rcases failed with unmerged | ⟨_, -, ⟨f, -, rfl⟩ | ⟨_, -, ⟨f, -, rfl⟩ | ⟨_, -, ⟨⟩⟩⟩⟩
    · exact not_invalid_of_options unmerged
    · rfl
    · rfl

theorem said_eq_ok_iff {options : List (Value × Value)} {path : String} {suffixes : List Value} :
    c.said = .ok (options, path, suffixes) ↔ c.Gives options path suffixes := by
  unfold said
  constructor
  · intro said
    split at said
    · cases said
    · rename_i b bound
      simp only [reading, bind_eq_ok_iff, mapError_eq_ok_iff] at said
      obtain ⟨_, merged, _, text, _, read, same⟩ := said
      cases same
      rw [path_bind bound] at text
      exact ⟨⟨b, bound, merged⟩, text, skipSuffixes_eq_ok_iff.mp read⟩
  · rintro ⟨⟨b, bound, merged⟩, text, gives⟩
    rw [← path_bind bound] at text
    simp only [bound, reading, bind_eq_ok_iff, mapError_eq_ok_iff]
    exact ⟨_, merged, _, text, _, skipSuffixes_eq_ok_iff.mpr gives, rfl⟩

theorem run_declare :
    c.declare.run s =
      match c.said with
      | .error e => (.error e, s)
      | .ok (options, path, suffixes) =>
        match skips path suffixes with
        | .error f => (.error (.fault f), s)
        | .ok true => (.ok none, { s with skipped := s.skipped ++ [path] })
        | .ok false =>
          match testOptions options with
          | .error e => (.error e, { s with next := s.next + 1 })
          | .ok (args, expected, comment) =>
            let t : Test := { id := s.next, path, args, expected, comment }
            (.ok (some t), { s with next := s.next + 1, tests := s.tests ++ [t] }) := by
  simp only [declare, said, run_bind]
  cases c.bind .test with
  | error f => rfl
  | ok b =>
    simp only [run_ok, declareTest, run_bind]
    cases b.reading with
    | error e => rfl
    | ok parts =>
      obtain ⟨options, path, suffixes⟩ := parts
      simp only [run_ok]
      cases skips path suffixes with
      | error f => rfl
      | ok skipped =>
        cases skipped with
        | true => rfl
        | false =>
          simp only [run_ok, Bool.false_eq_true, if_false, run_bind, run_get, run_modify]
          cases testOptions options with
          | error e => rfl
          | ok parts => rfl

theorem run_of_unshown (unshown : c.Unshown) :
    c.declare.run s = (.error (.fault .longNumber), { s with next := s.next + 1 }) := by
  obtain ⟨options, path, suffixes, gives, kept, long⟩ := unshown
  rw [run_declare, c.said_eq_ok_iff.mpr gives]
  simp only [skips_eq_false_iff.mpr kept, testOptions_of_long long]

theorem skips_iff : c.Skips ↔ ∃ options path suffixes,
    c.said = .ok (options, path, suffixes) ∧ skips path suffixes = .ok true := by
  simp only [said_eq_ok_iff]
  constructor
  · rintro ⟨options, path, before, v, after, suffix, gives, ends⟩
    exact ⟨options, path, _, gives, skips_eq_true_iff.mpr ⟨before, v, after, suffix, rfl, ends⟩⟩
  · rintro ⟨options, path, suffixes, gives, skipped⟩
    obtain ⟨before, v, after, suffix, rfl, ends⟩ := skips_eq_true_iff.mp skipped
    exact ⟨options, path, before, v, after, suffix, gives, ends⟩

theorem ends_or_unshown : c.Ends s (c.declare.run s) ∨ c.Unshown := by
  rw [run_declare]
  cases said : c.said with
  | error e =>
    refine .inl (.raises ?_ (c.not_invalid_of_said said))
    rw [skips_iff]
    rintro ⟨options, path, suffixes, same, -⟩
    cases said.symm.trans same
  | ok parts =>
    obtain ⟨options, path, suffixes⟩ := parts
    have gives : c.Gives options path suffixes := c.said_eq_ok_iff.mp said
    have kept_of (other : skips path suffixes ≠ .ok true) : ¬ c.Skips := by
      rw [skips_iff]
      rintro ⟨options', path', suffixes', same, skipped⟩
      cases said.symm.trans same
      exact other skipped
    dsimp only
    cases skipped : skips path suffixes with
    | error f => exact .inl (.raises (kept_of (by simp [skipped])) rfl)
    | ok ending =>
      cases ending with
      | true =>
        exact .inl (.skips (c.skips_iff.mpr ⟨_, _, _, said, skipped⟩) gives.path)
      | false =>
        have kept := kept_of (by simp [skipped])
        dsimp only
        cases made : testOptions options with
        | error e =>
          rcases invalid_or_long_of_options made with invalid | ⟨rfl, long⟩
          · exact .inl (.refuses kept invalid)
          · exact .inr ⟨options, path, suffixes, gives, skips_eq_false_iff.mp skipped, long⟩
        | ok parts =>
          obtain ⟨args, expected, comment⟩ := parts
          exact .inl (.declares kept rfl gives.path (isExpectation_of_options made) rfl)

theorem ends_iff : c.Ends s (c.declare.run s) ↔ ¬ c.Unshown := by
  constructor
  · intro ends unshown
    rw [c.run_of_unshown s unshown] at ends
    generalize left : ({ s with next := s.next + 1 } : ScriptState) = s' at ends
    cases ends with
    | refuses kept invalid => cases invalid
    | raises kept other =>
      -- an error of another kind leaves the ids alone
      have taken := congrArg ScriptState.next left
      simp only at taken
      omega
  · exact (c.ends_or_unshown s).resolve_right

end Call

open ScriptM in
theorem run_call (arguments : Arguments) (s : ScriptState) :
    (evalCall .test arguments >>= declareTest).run s =
      match Call.ofArguments s.vars arguments with
      | .error f => (.error (.fault f), s)
      | .ok call => call.declare.run s := by
  simp only [evalCall, Call.declare, run_bind, run_get]
  cases Call.ofArguments s.vars arguments <;> rfl

/-! The calls of a run. -/

/-- A call that a run makes, and the state it makes it in. -/
structure Made where
  call : Call
  state : ScriptState

namespace Made

def result (m : Made) : Except Stop (Option Test) × ScriptState :=
  m.call.declare.run m.state

def declared? (m : Made) : Option Test :=
  match m.result.1 with
  | .ok t => t
  | .error _ => none

def skipped? (m : Made) : Option String :=
  match m.result.1 with
  | .ok none => m.call.path.toText.toOption
  | _ => none

/-- The call takes an id for a test that may not be declared. -/
def isRefused (m : Made) : Bool :=
  refusedBy m.result.1

/-- The call takes an id and ends with an error that is no refusal. -/
def isUnshown (m : Made) : Bool :=
  match m.result with
  | (.error (.fault _), s) => s.next != m.state.next
  | _ => false

theorem isUnshown_iff (m : Made) : m.isUnshown = true ↔ m.call.Unshown := by
  unfold isUnshown
  constructor
  · intro taken
    refine (m.call.ends_or_unshown m.state).resolve_left fun ends => ?_
    change m.call.Ends m.state m.result at ends
    generalize m.result = result at ends taken
    cases ends with
    | declares => cases taken
    | skips => cases taken
    | refuses kept invalid =>
      rename_i e
      cases e with
      | fault f => cases invalid
      | failure f => cases taken
      | escape kind v => cases taken
    | raises kept other =>
      rename_i e
      cases e with
      | fault f => simp at taken
      | failure f => cases taken
      | escape kind v => cases taken
  · intro unshown
    rw [result, m.call.run_of_unshown m.state unshown]
    simp only [bne_iff_ne]
    omega

theorem left (m : Made) :
    m.result.2.tests = m.state.tests ++ m.declared?.toList ∧
      m.result.2.skipped = m.state.skipped ++ m.skipped?.toList ∧
      m.result.2.next =
        m.state.next + m.declared?.toList.length + m.isRefused.toNat + m.isUnshown.toNat := by
  by_cases unshown : m.call.Unshown
  · have ran : m.result = _ := m.call.run_of_unshown m.state unshown
    rw [m.isUnshown_iff.mpr unshown]
    simp [declared?, skipped?, isRefused, ran, refusedBy, Stop.isInvalidExpectation]
  · have shown : m.isUnshown = false := by rwa [← Bool.not_eq_true, m.isUnshown_iff]
    have ends : m.call.Ends m.state m.result := (m.call.ends_iff m.state).mpr unshown
    rw [shown]
    unfold declared? skipped? isRefused
    generalize m.result = result at ends
    cases ends with
    | declares => simp [refusedBy]
    | skips skipped text => simp [refusedBy, text, Except.toOption]
    | refuses kept invalid => simp [refusedBy, invalid]
    | raises kept other => simp [refusedBy, other]

end Made

/-- The error that an attempt holds back. -/
def heldBack? : Except Stop Unit → Option Stop
  | .error (.escape _ _) => none
  | .error e => some e
  | .ok _ => none

namespace Visit

/-- The call that a step makes, if it declares tests and its arguments have values. -/
def made? (v : Visit) : Option Made :=
  match v.step with
  | .test arguments _ =>
    match Call.ofArguments v.state.vars arguments with
    | .ok call => some ⟨call, v.state⟩
    | .error _ => none
  | _ => none

def swallowed? (fs : FileSystem) (v : Visit) : Option Stop :=
  match v.step with
  | .attempt body => heldBack? ((runSteps fs body).run v.state).1
  | _ => none

end Visit

/-- The states differ in their variables at most. -/
structure ScriptState.SameRecord (s s' : ScriptState) : Prop where
  tests : s'.tests = s.tests
  skipped : s'.skipped = s.skipped
  next : s'.next = s.next

namespace ScriptState.SameRecord

variable {s s' s'' : ScriptState}

theorem refl (s : ScriptState) : s.SameRecord s :=
  ⟨rfl, rfl, rfl⟩

theorem trans (first : s.SameRecord s') (rest : s'.SameRecord s'') : s.SameRecord s'' :=
  ⟨rest.tests.trans first.tests, rest.skipped.trans first.skipped, rest.next.trans first.next⟩

end ScriptState.SameRecord

/-- Calls made one after the other from one state to another. Between them only variables change. -/
inductive Threads : ScriptState → List Made → ScriptState → Prop
  | nil {s s' : ScriptState} (same : s.SameRecord s') : Threads s [] s'
  | cons {s s' : ScriptState} {m : Made} {ms : List Made} (same : s.SameRecord m.state)
      (rest : Threads m.result.2 ms s') : Threads s (m :: ms) s'

namespace Threads

variable {s s' s'' : ScriptState} {ms more : List Made}

theorem of_same (same : s.SameRecord s') (threads : Threads s' ms s'') : Threads s ms s'' := by
  cases threads with
  | nil next => exact .nil (same.trans next)
  | cons next rest => exact .cons (same.trans next) rest

theorem append (first : Threads s ms s') (rest : Threads s' more s'') :
    Threads s (ms ++ more) s'' := by
  induction first with
  | nil same => exact of_same same rest
  | cons same _ ih => exact .cons same (ih rest)

theorem totals (threads : Threads s ms s') :
    s'.tests = s.tests ++ ms.filterMap Made.declared? ∧
      s'.skipped = s.skipped ++ ms.filterMap Made.skipped? ∧
      s'.next = s.next + (ms.filterMap Made.declared?).length + ms.countP Made.isRefused +
        ms.countP Made.isUnshown := by
  induction threads with
  | nil same => simp [same.tests, same.skipped, same.next]
  | @cons s s' m ms same _ ih =>
    obtain ⟨tests, skipped, next⟩ := ih
    obtain ⟨left_tests, left_skipped, left_next⟩ := m.left
    simp only [List.filterMap_eq_flatMap_toList, List.flatMap_cons, List.countP_cons]
      at tests skipped next ⊢
    refine ⟨?_, ?_, ?_⟩
    · rw [tests, left_tests, same.tests, List.append_assoc]
    · rw [skipped, left_skipped, same.skipped, List.append_assoc]
    · rw [next, left_next, same.next]
      cases m.isRefused <;> cases m.isUnshown <;> simp <;> omega

end Threads

end TestBench
