import TestBench.Proofs.Settings.Values

/-! What settings depend on, and settings written as a value and read back. Reading looks up eight
fields in three sections and nothing else, and what it makes of a field is a text, an integer or a
list of texts, each of which is read as itself. -/
namespace TestBench

theorem Value.sameKey_text_iff {v : Value} {s : String} :
    v.sameKey (.text s) = true ↔ v = .text s := by
  cases v with
  | text t => simp [sameKey]
  | float x => cases x <;> simp [sameKey, number?]
  | _ => simp [sameKey, number?]

namespace Value

/-- The entries that are seen when a mapping is looked into. One that holds itself stands in them in
the place of its label. -/
def entries? : Value → Option (List (Value × Value))
  | .mapping entries => some entries
  | .knot label w =>
    w.entries?.map fun entries => entries.map fun e => (e.1, tie label (.knot label w) e.2)
  | _ => none

theorem get_of_entries {v : Value} {entries : List (Value × Value)}
    (seen : v.entries? = some entries) (name : String) :
    v.get name = .ok (find? (.text name) entries) := by
  fun_induction entries? v generalizing entries with
  | case1 =>
    cases seen
    rfl
  | case2 label w ih =>
    obtain ⟨inner, untied, rfl⟩ := Option.map_eq_some_iff.mp seen
    simp [get, ih untied, find?, List.find?_map, Function.comp_def, Except.map]
  | case3 => cases seen

theorem isTrue_of_entries {v : Value} {entries : List (Value × Value)}
    (seen : v.entries? = some entries) : v.isTrue = !entries.isEmpty := by
  fun_induction entries? v generalizing entries with
  | case1 =>
    cases seen
    rfl
  | case2 label w ih =>
    obtain ⟨inner, untied, rfl⟩ := Option.map_eq_some_iff.mp seen
    rw [isTrue, ih untied, List.isEmpty_map]
  | case3 => cases seen

theorem find?_insert {key : Value} {name : String} (other : key ≠ .text name)
    (before after : List (Value × Value)) (v : Value) :
    find? (.text name) (before ++ (key, v) :: after) = find? (.text name) (before ++ after) := by
  have unmatched : key.sameKey (.text name) = false := by
    rw [← Bool.not_eq_true, sameKey_text_iff]
    exact other
  simp [find?, List.find?_append, unmatched]

/-- The second mapping is the first with one entry more, of that key. -/
def HasMore (key : Value) (v w : Value) : Prop :=
  ∃ before after x, v.entries? = some (before ++ after) ∧
    w.entries? = some (before ++ (key, x) :: after)

end Value

namespace Settings

def found (data : Value) (within name : String) : Except Fault (Option Value) :=
  givenSection data within >>= (·.get name)

/-- The fields that are looked up, with their sections. -/
def fieldsRead : List (String × String) :=
  [("tool", "extra_args"), ("tool", "command"), ("tool", "args_flag"), ("tool", "target_flag"),
    ("tool", "exit_on_failure_flag"), ("exit_codes", "success"), ("exit_codes", "failure"),
    ("parallel", "max_workers")]

section Found

def readOr {α : Type} (read : Value → Except Fault α) (default : α)
    (x : Except Fault (Option Value)) : Except Fault α :=
  x >>= fun v => (v.map read).getD (.ok default)

theorem textField_eq (part : Value) (name default : String) :
    textField part name default = readOr Value.toText default (part.get name) := by
  unfold textField readOr
  congr 1
  funext v
  cases v <;> rfl

theorem toolOfValue_found (data : Value) :
    toolOfValue data = found data "tool" "extra_args" >>= fun extra =>
      readOr Value.toText "rt" (found data "tool" "command") >>= fun command =>
      readOr Value.toText "--chow-args" (found data "tool" "args_flag") >>= fun argsFlag =>
      readOr Value.toText "--test" (found data "tool" "target_flag") >>= fun targetFlag =>
      readOr Value.toText "--exit-on-failure" (found data "tool" "exit_on_failure_flag") >>=
        fun exitFlag =>
      argumentList (extra.getD .null) >>= fun extraArgs =>
      .ok { command, argsFlag, targetFlag, exitFlag, extraArgs } := by
  unfold toolOfValue found
  cases givenSection data "tool" with
  | error f => rfl
  | ok part =>
    simp only [textField_eq]
    rfl

theorem exitCodesOfValue_found (data : Value) :
    exitCodesOfValue data =
      readOr Value.toInteger 0 (found data "exit_codes" "success") >>= fun success =>
      readOr Value.toInteger 99 (found data "exit_codes" "failure") >>= fun failure =>
      .ok { success, failure } := by
  rw [exitCodesOfValue_eq]
  unfold found
  cases givenSection data "exit_codes" with
  | error f => rfl
  | ok part =>
    simp only [integerField_eq]
    rfl

theorem maxWorkersOfValue_found (data : Value) :
    maxWorkersOfValue data =
      readOr Value.toInteger 1 (found data "parallel" "max_workers") >>= fun workers =>
      .ok (max 1 workers) := by
  rw [maxWorkersOfValue_eq]
  unfold found
  cases givenSection data "parallel" with
  | error f => rfl
  | ok part =>
    simp only [integerField_eq]
    rfl

theorem ofValue_congr {data other : Value}
    (same : ∀ field ∈ fieldsRead, found data field.1 field.2 = found other field.1 field.2) :
    ofValue data = ofValue other := by
  simp only [fieldsRead, List.forall_mem_cons, List.not_mem_nil, false_imp_iff, implies_true,
    and_true] at same
  obtain ⟨extra, command, args, target, exit, success, failure, workers⟩ := same
  simp only [ofValue_eq, toolOfValue_found, exitCodesOfValue_found, maxWorkersOfValue_found, extra,
    command, args, target, exit, success, failure, workers]

end Found

section Sections

variable {data : Value} {within : String}

/-- The section is absent, or its value does not count as given. -/
def NotGiven (data : Value) (within : String) : Prop :=
  data.get within = .ok none ∨ ∃ v, data.get within = .ok (some v) ∧ v.isTrue = false

theorem found_of_notGiven (not_given : NotGiven data within) (name : String) :
    found data within name = .ok none := by
  have empty : givenSection data within = .ok (.mapping []) := by
    unfold givenSection
    rcases not_given with absent | ⟨v, present, false_value⟩
    · rw [absent]
      rfl
    · rw [present]
      simp [bind, Except.bind, pure, Except.pure, false_value]
  rw [found, empty]
  rfl

theorem toolOfValue_of_notGiven (not_given : NotGiven data "tool") :
    toolOfValue data = .ok {} := by
  simp only [toolOfValue_found, found_of_notGiven not_given]
  rfl

theorem exitCodesOfValue_of_notGiven (not_given : NotGiven data "exit_codes") :
    exitCodesOfValue data = .ok {} := by
  simp only [exitCodesOfValue_found, found_of_notGiven not_given]
  rfl

theorem maxWorkersOfValue_of_notGiven (not_given : NotGiven data "parallel") :
    maxWorkersOfValue data = .ok ({} : Settings).maxWorkers := by
  simp only [maxWorkersOfValue_found, found_of_notGiven not_given]
  rfl

theorem found_of_entries {part : Value} {entries : List (Value × Value)}
    (present : data.get within = .ok (some part)) (seen : part.entries? = some entries)
    (name : String) : found data within name = .ok (Value.find? (.text name) entries) := by
  unfold found givenSection
  rw [present]
  cases entries with
  | nil =>
    simp [bind, Except.bind, pure, Except.pure, Value.isTrue_of_entries seen, Value.get]
  | cons e entries =>
    simp [bind, Except.bind, pure, Except.pure, Value.isTrue_of_entries seen,
      Value.get_of_entries seen]

theorem found_congr {other : Value} (same : data.get within = other.get within) (name : String) :
    found data within name = found other within name := by
  unfold found givenSection
  rw [same]

variable {other key : Value}

theorem ofValue_of_more (unread : ∀ field ∈ fieldsRead, key ≠ .text field.1)
    (more : Value.HasMore key data other) : ofValue other = ofValue data := by
  obtain ⟨before, after, x, seen, seen'⟩ := more
  refine ofValue_congr fun field mem => found_congr ?_ field.2
  rw [Value.get_of_entries seen, Value.get_of_entries seen', Value.find?_insert (unread field mem)]

theorem ofValue_of_more_within {part part' : Value}
    (unread : ∀ field ∈ fieldsRead, field.1 = within → key ≠ .text field.2)
    (others : ∀ field ∈ fieldsRead, field.1 ≠ within → data.get field.1 = other.get field.1)
    (present : data.get within = .ok (some part)) (present' : other.get within = .ok (some part'))
    (more : Value.HasMore key part part') : ofValue other = ofValue data := by
  obtain ⟨before, after, x, seen, seen'⟩ := more
  refine ofValue_congr fun field mem => ?_
  by_cases here : field.1 = within
  · rw [here, found_of_entries present seen, found_of_entries present' seen',
      Value.find?_insert (unread field mem here)]
  · exact found_congr (others field mem here).symm field.2

end Sections

section Written

/-- The value with the sections and the fields of the settings. -/
def toValue (s : Settings) : Value :=
  .mapping [
    (.text "tool", .mapping [
      (.text "command", .text s.tool.command),
      (.text "args_flag", .text s.tool.argsFlag),
      (.text "target_flag", .text s.tool.targetFlag),
      (.text "exit_on_failure_flag", .text s.tool.exitFlag),
      (.text "extra_args", .list (s.tool.extraArgs.map .text))]),
    (.text "exit_codes", .mapping [
      (.text "success", .int s.exitCodes.success),
      (.text "failure", .int s.exitCodes.failure)]),
    (.text "parallel", .mapping [
      (.text "max_workers", .int s.maxWorkers)])]

theorem mapM_toText (texts : List String) :
    (texts.map Value.text).mapM Value.toText = .ok texts := by
  induction texts with
  | nil => rfl
  | cons text texts ih =>
    rw [List.map_cons, List.mapM_cons, ih]
    rfl

theorem argumentList_texts (texts : List String) :
    argumentList (.list (texts.map .text)) = .ok texts := by
  cases texts with
  | nil => rfl
  | cons text texts => exact mapM_toText (text :: texts)

theorem toolOfValue_toValue (s : Settings) : toolOfValue s.toValue = .ok s.tool := by
  have read : toolOfValue s.toValue =
      argumentList (.list (s.tool.extraArgs.map .text)) >>= fun extraArgs =>
        .ok { s.tool with extraArgs } := rfl
  rw [read, argumentList_texts]
  rfl

theorem exitCodesOfValue_toValue (s : Settings) : exitCodesOfValue s.toValue = .ok s.exitCodes :=
  rfl

theorem maxWorkersOfValue_toValue {s : Settings} (working : 1 ≤ s.maxWorkers) :
    maxWorkersOfValue s.toValue = .ok s.maxWorkers := by
  have read : maxWorkersOfValue s.toValue = .ok (max 1 s.maxWorkers) := rfl
  rw [read, Int.max_eq_right working]

theorem ofValue_toValue {s : Settings} (working : 1 ≤ s.maxWorkers) :
    ofValue s.toValue = .ok s := by
  rw [ofValue_eq, toolOfValue_toValue, exitCodesOfValue_toValue, maxWorkersOfValue_toValue working]
  rfl

end Written

section Read

variable {data : Value} {s : Settings}

theorem parts_of_ofValue (read : ofValue data = .ok s) :
    toolOfValue data = .ok s.tool ∧ exitCodesOfValue data = .ok s.exitCodes ∧
      maxWorkersOfValue data = .ok s.maxWorkers := by
  rw [ofValue_eq] at read
  cases tool : toolOfValue data with
  | error f => simp [tool, bind, Except.bind] at read
  | ok t =>
    cases codes : exitCodesOfValue data with
    | error f => simp [tool, codes, bind, Except.bind] at read
    | ok c =>
      cases workers : maxWorkersOfValue data with
      | error f => simp [tool, codes, workers, bind, Except.bind] at read
      | ok n =>
        rw [tool, codes, workers] at read
        cases read
        exact ⟨rfl, rfl, rfl⟩

theorem one_le_maxWorkers (read : ofValue data = .ok s) : 1 ≤ s.maxWorkers := by
  obtain ⟨-, -, workers⟩ := parts_of_ofValue read
  rw [maxWorkersOfValue_found] at workers
  cases asked : readOr Value.toInteger 1 (found data "parallel" "max_workers") with
  | error f => simp [asked, bind, Except.bind] at workers
  | ok n =>
    simp only [asked, bind, Except.bind, Except.ok.injEq] at workers
    rw [← workers]
    exact Int.le_max_left 1 n

end Read

/-- Settings that are read have at least one worker and are read again from their own sections and
fields, and a section that does not count as given gives its defaults. What is read depends only on
what is found under the fields; so keys that are none make no difference, neither at the top nor in
a section. -/
theorem reading_settings_is_stable :
    (∀ data s, ofValue data = .ok s →
      1 ≤ s.maxWorkers ∧ ofValue s.toValue = .ok s ∧
      (NotGiven data "tool" → s.tool = {}) ∧ (NotGiven data "exit_codes" → s.exitCodes = {}) ∧
      (NotGiven data "parallel" → s.maxWorkers = ({} : Settings).maxWorkers)) ∧
    (∀ data other,
      (∀ field ∈ fieldsRead, found data field.1 field.2 = found other field.1 field.2) →
      ofValue data = ofValue other) ∧
    (∀ key data other, (∀ field ∈ fieldsRead, key ≠ .text field.1) →
      Value.HasMore key data other → ofValue other = ofValue data) ∧
    ∀ within key data other part part',
      (∀ field ∈ fieldsRead, field.1 = within → key ≠ .text field.2) →
      (∀ field ∈ fieldsRead, field.1 ≠ within → data.get field.1 = other.get field.1) →
      data.get within = .ok (some part) → other.get within = .ok (some part') →
      Value.HasMore key part part' → ofValue other = ofValue data := by
  refine ⟨?_, fun data other => ofValue_congr, fun key data other => ofValue_of_more,
    fun within key data other part part' => ofValue_of_more_within⟩
  intro data s read
  have working := one_le_maxWorkers read
  obtain ⟨tool, codes, workers⟩ := parts_of_ofValue read
  refine ⟨working, ofValue_toValue working, ?_, ?_, ?_⟩
  · intro not_given
    exact Except.ok.inj (tool.symm.trans (toolOfValue_of_notGiven not_given))
  · intro not_given
    exact Except.ok.inj (codes.symm.trans (exitCodesOfValue_of_notGiven not_given))
  · intro not_given
    exact Except.ok.inj (workers.symm.trans (maxWorkersOfValue_of_notGiven not_given))

/-- Odd values in two sections, a section that is an empty list, and keys that nothing asks for: one
at the top, which holds the whole, and one in a section. -/
theorem reading_settings_is_stable_of_odd_values :
    let tool : List (Value × Value) :=
      [(.text "command", .null), (.text "extra_args", .text " -a \t-b c")]
    let more : List (Value × Value) := (.text "junk", .int 1) :: tool
    let sections (tool : List (Value × Value)) : List (Value × Value) :=
      [(.text "tool", .mapping tool), (.text "exit_codes", .list []),
        (.text "parallel", .mapping [(.text "max_workers", .bool false)])]
    let whole : Value := .knot 0 (.mapping ((.text "whole", .again 0) :: sections tool))
    let s : Settings := { tool := { command := "None", extraArgs := ["-a", "-b", "c"] } }
    ofValue (.mapping (sections tool)) = .ok s ∧ NotGiven (.mapping (sections tool)) "exit_codes" ∧
      1 ≤ s.maxWorkers ∧ ofValue s.toValue = .ok s ∧ s.exitCodes = {} ∧
      Value.HasMore (.text "whole") (.mapping (sections tool)) whole ∧ ofValue whole = .ok s ∧
      Value.HasMore (.text "junk") (.mapping tool) (.mapping more) ∧
      ofValue (.mapping (sections more)) = .ok s ∧
      (∀ field ∈ fieldsRead, found whole field.1 field.2 =
        found (.mapping (sections more)) field.1 field.2) ∧
      ofValue whole = ofValue (.mapping (sections more)) := by
  intro tool more sections whole s
  have read : ofValue (.mapping (sections tool)) = .ok s := by rfl
  have not_given : NotGiven (.mapping (sections tool)) "exit_codes" := .inr ⟨.list [], rfl, rfl⟩
  have one_section_more : Value.HasMore (.text "whole") (.mapping (sections tool)) whole :=
    ⟨[], sections tool, whole, rfl, rfl⟩
  have one_field_more : Value.HasMore (.text "junk") (.mapping tool) (.mapping more) :=
    ⟨[], tool, .int 1, rfl, rfl⟩
  have same : ∀ field ∈ fieldsRead,
      found whole field.1 field.2 = found (.mapping (sections more)) field.1 field.2 := by
    simp only [fieldsRead, List.forall_mem_cons]
    exact ⟨rfl, rfl, rfl, rfl, rfl, rfl, rfl, rfl, by simp⟩
  have no_section : ∀ field ∈ fieldsRead, Value.text "whole" ≠ .text field.1 := by
    simp [fieldsRead]
  have no_field : ∀ field ∈ fieldsRead, field.1 = "tool" → Value.text "junk" ≠ .text field.2 := by
    simp [fieldsRead]
  have others : ∀ field ∈ fieldsRead, field.1 ≠ "tool" →
      (Value.mapping (sections tool)).get field.1 =
        (Value.mapping (sections more)).get field.1 := by
    simp only [fieldsRead, List.forall_mem_cons]
    exact ⟨nofun, nofun, nofun, nofun, nofun, fun _ => rfl, fun _ => rfl, fun _ => rfl, by simp⟩
  obtain ⟨again, agree, at_top, inside⟩ := reading_settings_is_stable
  obtain ⟨working, same_again, -, codes, -⟩ := again _ s read
  refine ⟨read, not_given, working, same_again, codes not_given, one_section_more, ?_,
    one_field_more, ?_, same, agree _ _ same⟩
  · exact (at_top _ _ _ no_section one_section_more).trans read
  · exact (inside "tool" _ _ _ _ _ no_field others rfl rfl one_field_more).trans read

end Settings

end TestBench
