import TestBench.CommandLine.Invocation
import TestBench.Proofs.FileTree.Names
import TestBench.Proofs.Settings.Values

/-! The loading of settings against what it announces. Whatever keeps a file from giving settings is
announced, in both ways of loading, unless it is a path that is too long to be looked up, a fault of
the reader that is not held back, or an infinite number where an integer has to stand. -/
namespace TestBench

namespace Settings

section Files

variable {read : ValueReader} {tree : FileTree} {file path : String} {f : Fault}

/-- The fault is met where nothing holds it back: before the file is opened, in the reader, or at a
field that has to be an integer. -/
inductive Unheld (read : ValueReader) (tree : FileTree) (path : String) : Fault → Prop where
  | tooLong (failed : isThere tree path = .error ⟨.nameTooLong, path⟩) :
      Unheld read tree path (.file ⟨.nameTooLong, path⟩)
  | unread {f : Fault} (there : isThere tree path = .ok true)
      (failed : settingsData read tree path = .error f) (loose : f.spoilsSettings = false) :
      Unheld read tree path f
  | infinite {data : Value} (there : isThere tree path = .ok true)
      (data_ok : settingsData read tree path = .ok data)
      (overflows : Overflows (if data.isTrue then data else .mapping [])) :
      Unheld read tree path .infiniteNumber

/-- What strict and what lenient loading come to if they announce what fails. -/
inductive Announced (path : String) : Loaded → Loaded → Prop where
  | loaded (s : Settings) : Announced path ⟨.ok s, []⟩ ⟨.ok s, []⟩
  | missing :
      Announced path ⟨.error (.failure (.settingsMissing path)), []⟩
        ⟨.ok {}, ["config file not found: " ++ path ++ ", using defaults"]⟩
  | unusable (reason : String) :
      Announced path ⟨.error (.failure (.settingsUnusable path reason)), []⟩
        ⟨.ok {}, ["failed to load config file: " ++ reason ++ ", using defaults"]⟩

theorem isThere_eq_error {e : FileError} (failed : isThere tree path = .error e) :
    e = ⟨.nameTooLong, path⟩ := by
  unfold isThere at failed
  split at failed
  · cases failed
  · split at failed
    · cases failed
      rfl
    · split at failed
      · cases failed
      · cases failed
        rfl
      · cases failed

theorem ofFile_eq (read : ValueReader) (tree : FileTree) (path : String) :
    ofFile read tree path = settingsData read tree path >>= fun data =>
      ofValue (if data.isTrue then data else .mapping []) := rfl

theorem unheld_of_ofFile (there : isThere tree path = .ok true)
    (failed : ofFile read tree path = .error f) (loose : f.spoilsSettings = false) :
    Unheld read tree path f := by
  rw [ofFile_eq] at failed
  rcases bind_eq_error_iff.mp failed with no_data | ⟨data, data_ok, failed⟩
  · exact .unread there no_data loose
  · rcases ofValue_eq_error failed with held | ⟨rfl, overflows⟩
    · rw [loose] at held
      cases held
    · exact .infinite there data_ok overflows

theorem loadBy_of_unheld (unheld : Unheld read tree (tidyPath file) f) (strict : Bool) :
    loadBy read tree file strict = ⟨.error (.fault f), []⟩ := by
  cases unheld with
  | tooLong failed => simp only [loadBy, failed]
  | unread there failed loose =>
    have stopped : ofFile read tree (tidyPath file) = .error f := by
      rw [ofFile_eq, failed]
      rfl
    simp [loadBy, there, stopped, loose]
  | infinite there data_ok overflows =>
    have stopped : ofFile read tree (tidyPath file) = .error .infiniteNumber := by
      rw [ofFile_eq, data_ok]
      exact ofValue_of_overflows overflows
    have loose : Fault.infiniteNumber.spoilsSettings = false := rfl
    simp [loadBy, there, stopped, loose]

section Names

variable {name : String} (proper : ProperName name)
  (here : tree.isDirectoryAt tree.workingDirectory = true)
include proper

theorem below_pathLimit : ¬ pathLimit ≤ name.utf8ByteSize := by
  have short := proper.short
  simp only [pathLimit, FileTree.nameLimit] at short ⊢
  omega

include here

theorem isThere_of_file {content : Content}
    (found : tree.at? (tree.workingDirectory ++ [name]) = some (.file content)) :
    isThere tree name = .ok true := by
  simp only [isThere, proper.visible, below_pathLimit proper, proper.locate_eq here found,
    Bool.false_eq_true, if_false]

theorem isThere_of_absent (absent : tree.at? (tree.workingDirectory ++ [name]) = none) :
    isThere tree name = .ok false := by
  simp only [isThere, proper.visible, below_pathLimit proper, proper.locate_of_absent here absent,
    Bool.false_eq_true, if_false]

end Names

theorem announced_or_unheld (read : ValueReader) (tree : FileTree) (file : String) :
    Announced (tidyPath file) (loadBy read tree file true) (loadBy read tree file false) ∨
      ∃ f, Unheld read tree (tidyPath file) f := by
  cases there : isThere tree (tidyPath file) with
  | error e =>
    obtain rfl := isThere_eq_error there
    exact .inr ⟨_, .tooLong there⟩
  | ok found =>
    cases found with
    | false =>
      simp only [loadBy, there]
      exact .inl .missing
    | true =>
      cases reading : ofFile read tree (tidyPath file) with
      | ok s =>
        simp only [loadBy, there, reading]
        exact .inl (.loaded s)
      | error f =>
        cases spoils : f.spoilsSettings with
        | true =>
          simp only [loadBy, there, reading, spoils]
          exact .inl (.unusable f.message)
        | false => exact .inr ⟨f, unheld_of_ofFile there reading spoils⟩

namespace Announced

variable {strict lenient : Loaded} (announced : Announced path strict lenient)
include announced

theorem lenient_loads {s : Settings} (loaded : strict.result = .ok s) : lenient.result = .ok s := by
  cases announced with
  | loaded s => exact loaded
  | missing => cases loaded
  | unusable reason => cases loaded

theorem failure_of_unusable (unusable : ∀ s, strict.result ≠ .ok s) :
    ∃ failure : Failure, strict.result = .error (.failure failure) := by
  cases announced with
  | loaded s => exact absurd rfl (unusable s)
  | missing => exact ⟨_, rfl⟩
  | unusable reason => exact ⟨_, rfl⟩

theorem ne_fault (f : Fault) : strict.result ≠ .error (.fault f) := by
  cases announced <;> intro same <;> cases same

end Announced

end Files

end Settings

namespace CommandLine

variable {σ : Type} {arguments : List String} {read : ValueReader} {tree : FileTree}
  {file : String}

/-- The arguments name the file of settings. -/
def NamesSettings (arguments : List String) (file : String) : Prop :=
  file ≠ "" ∧ ∃ o : Options,
    Demand.ofArguments (splitToolArguments arguments).1 = .options o ∧ o.config = some file

section Stopped

variable (named : NamesSettings arguments file) (clock : Clock) (exec : Executor σ)
  (complete : List Test → List Test) (w : σ)
include named

theorem invoke_of_failure {f : Failure}
    (failed : (Settings.loadBy read tree file true).result = .error (.failure f)) :
    (invoke arguments clock exec complete tree read).run w =
      ({ tree, stderr := usageError f.message, ending := .exit 2 }, w) := by
  obtain ⟨some_file, o, demanded, config⟩ := named
  have stopped : o.settings tree read = .error (.failure f) := by
    simp [Options.settings, config, some_file, failed]
  simp only [invoke, demanded, stopped]
  rfl

theorem invoke_of_fault {f : Fault}
    (failed : (Settings.loadBy read tree file true).result = .error (.fault f)) :
    (invoke arguments clock exec complete tree read).run w =
      ({ tree, ending := .stopped (.fault f) }, w) := by
  obtain ⟨some_file, o, demanded, config⟩ := named
  have stopped : o.settings tree read = .error (.fault f) := by
    simp [Options.settings, config, some_file, failed]
  simp only [invoke, demanded, stopped]
  rfl

end Stopped

end CommandLine

namespace Settings

open CommandLine in
/-- Loading fails only as it announces, and a file of no use that is named by the arguments is an
error of usage, exactly if no fault is met where nothing holds it back; else both ways of loading
end with that fault. In all cases, what strict loading loads lenient loading loads as well. -/
theorem loads_as_announced_iff (read : ValueReader) (tree : FileTree) (file : String) :
    let strict := loadBy read tree file true
    let lenient := loadBy read tree file false
    (Announced (tidyPath file) strict lenient ↔ ∀ f, ¬ Unheld read tree (tidyPath file) f) ∧
      (∀ f, Unheld read tree (tidyPath file) f →
        strict = ⟨.error (.fault f), []⟩ ∧ lenient = ⟨.error (.fault f), []⟩) ∧
      (∀ s, strict.result = .ok s → lenient.result = .ok s) ∧
      ∀ arguments, NamesSettings arguments file → (∀ s, strict.result ≠ .ok s) →
        ∀ {σ : Type} (clock : Clock) (exec : Executor σ) (complete : List Test → List Test) (w : σ),
          (∃ failure, strict.result = .error (.failure failure) ∧
            (invoke arguments clock exec complete tree read).run w =
              ({ tree, stderr := usageError failure.message, ending := .exit 2 }, w)) ↔
          ∀ f, ¬ Unheld read tree (tidyPath file) f := by
  intro strict lenient
  have either := announced_or_unheld read tree file
  have stops (f : Fault) (unheld : Unheld read tree (tidyPath file) f) :
      strict = ⟨.error (.fault f), []⟩ ∧ lenient = ⟨.error (.fault f), []⟩ :=
    ⟨loadBy_of_unheld unheld true, loadBy_of_unheld unheld false⟩
  refine ⟨⟨?_, ?_⟩, stops, ?_, ?_⟩
  · intro announced f unheld
    exact announced.ne_fault f (congrArg Loaded.result (stops f unheld).1)
  · intro none_met
    exact either.resolve_right fun ⟨f, unheld⟩ => none_met f unheld
  · intro s loaded
    rcases either with announced | ⟨f, unheld⟩
    · exact announced.lenient_loads loaded
    · rw [(stops f unheld).1] at loaded
      cases loaded
  · intro arguments named unusable σ clock exec complete w
    constructor
    · rintro ⟨failure, failed, -⟩ f unheld
      have stopped : strict.result = .error (.fault f) := congrArg Loaded.result (stops f unheld).1
      cases failed.symm.trans stopped
    · intro none_met
      have announced := either.resolve_right fun ⟨f, unheld⟩ => none_met f unheld
      obtain ⟨failure, failed⟩ := announced.failure_of_unusable unusable
      exact ⟨failure, failed, invoke_of_failure named clock exec complete w failed⟩

open CommandLine in
/-- An infinite number of workers, seven workers, and a file of settings that is missing. -/
theorem loads_as_announced_iff_of_workers :
    let tree : FileTree := { entries := [(["c"], .file (.bytes []))] }
    let workers (v : Value) : ValueReader := fun _ =>
      .ok (.mapping [(.text "parallel", .mapping [(.text "max_workers", v)])])
    let infinite := workers (.float (.infinite true))
    let seven := workers (.int 7)
    let arguments := ["-f", "t", "-c", "gone"]
    Unheld infinite tree (tidyPath "c") .infiniteNumber ∧
      loadBy infinite tree "c" true = ⟨.error (.fault .infiniteNumber), []⟩ ∧
      loadBy infinite tree "c" false = ⟨.error (.fault .infiniteNumber), []⟩ ∧
      (loadBy seven tree "c" true).result = .ok { maxWorkers := 7 } ∧
      (loadBy seven tree "c" false).result = .ok { maxWorkers := 7 } ∧
      NamesSettings arguments "gone" ∧ (∀ s, (load tree "gone" true).result ≠ .ok s) ∧
      (∀ f, ¬ Unheld Yaml.read tree (tidyPath "gone") f) ∧
      ∀ {σ : Type} (clock : Clock) (exec : Executor σ) (complete : List Test → List Test) (w : σ),
        ∃ failure, (load tree "gone" true).result = .error (.failure failure) ∧
          (invoke arguments clock exec complete tree).run w =
            ({ tree, stderr := usageError failure.message, ending := .exit 2 }, w) := by
  intro tree workers infinite seven arguments
  have proper : ProperName "c" := by constructor <;> decide +kernel
  have gone : ProperName "gone" := by constructor <;> decide +kernel
  have here : tree.isDirectoryAt tree.workingDirectory = true := by decide +kernel
  have there : isThere tree "c" = .ok true := isThere_of_file proper here rfl
  have opened : openFile tree "c" = .ok (.bytes []) := proper.openFile_eq here rfl
  have data (v : Value) : settingsData (workers v) tree "c" =
      .ok (.mapping [(.text "parallel", .mapping [(.text "max_workers", v)])]) := by
    rw [settingsData, opened]
  have overflow : ofFile infinite tree "c" = .error .infiniteNumber := by
    rw [ofFile_eq, data]
    decide +kernel
  have unheld : Unheld infinite tree (tidyPath "c") .infiniteNumber := by
    rw [proper.tidyPath_eq]
    exact unheld_of_ofFile there overflow rfl
  have loaded : (loadBy seven tree "c" true).result = .ok { maxWorkers := 7 } := by
    have settings : ofFile seven tree "c" = .ok { maxWorkers := 7 } := by
      rw [ofFile_eq, data]
      rfl
    simp only [loadBy, proper.tidyPath_eq, there, settings]
  have absent : isThere tree "gone" = .ok false := isThere_of_absent gone here rfl
  have missing : (load tree "gone" true).result = .error (.failure (.settingsMissing "gone")) := by
    simp only [load, loadBy, gone.tidyPath_eq, absent, if_true]
  have unusable : ∀ s, (load tree "gone" true).result ≠ .ok s := by
    rw [missing]
    intro s same
    cases same
  have held : ∀ f, ¬ Unheld Yaml.read tree (tidyPath "gone") f := by
    rw [gone.tidyPath_eq]
    intro f unheld
    cases unheld with
    | tooLong failed => cases absent.symm.trans failed
    | unread there failed loose => cases absent.symm.trans there
    | infinite there data_ok overflows => cases absent.symm.trans there
  have named : NamesSettings arguments "gone" := by
    refine ⟨by decide, { files := ["t"], config := some "gone" }, ?_, rfl⟩
    decide +kernel
  obtain ⟨-, stops, -, -⟩ := loads_as_announced_iff infinite tree "c"
  obtain ⟨-, -, same, -⟩ := loads_as_announced_iff seven tree "c"
  obtain ⟨-, -, -, ends⟩ := loads_as_announced_iff Yaml.read tree "gone"
  obtain ⟨strict, lenient⟩ := stops _ unheld
  refine ⟨unheld, strict, lenient, loaded, same _ loaded, named, unusable, held, ?_⟩
  intro σ clock exec complete w
  exact (ends arguments named unusable clock exec complete w).mpr held

/-- An infinite exit code in a file that writes it is announced by neither way of loading, and ends
the program. -/
theorem infinite_exit_code_escapes :
    let text := "exit_codes:\n  success: .inf\n"
    let tree : FileTree := { entries := [(["c.yaml"], .file (.bytes (Text.encode text.toList)))] }
    (∀ strict, load tree "c.yaml" strict = ⟨.error (.fault .infiniteNumber), []⟩) ∧
      ∀ {σ : Type} (clock : Clock) (exec : Executor σ) (complete : List Test → List Test) (w : σ),
        (CommandLine.invoke ["-f", "t", "-c", "c.yaml"] clock exec complete tree).run w =
          ({ tree, ending := .stopped (.fault .infiniteNumber) }, w) := by
  intro text tree
  have proper : ProperName "c.yaml" := by constructor <;> decide +kernel
  have here : tree.isDirectoryAt tree.workingDirectory = true := by decide +kernel
  have there : isThere tree "c.yaml" = .ok true := isThere_of_file proper here rfl
  have opened : openFile tree "c.yaml" = .ok (.bytes (Text.encode text.toList)) :=
    proper.openFile_eq here rfl
  have overflow : (Yaml.read (Text.encode text.toList) >>= fun data =>
      ofValue (if data.isTrue then data else .mapping [])) = .error .infiniteNumber := by
    decide +kernel
  have stopped : ofFile Yaml.read tree "c.yaml" = .error .infiniteNumber := by
    rw [ofFile_eq, settingsData, opened]
    exact overflow
  have unheld : Unheld Yaml.read tree (tidyPath "c.yaml") .infiniteNumber := by
    rw [proper.tidyPath_eq]
    exact unheld_of_ofFile there stopped rfl
  have named : CommandLine.NamesSettings ["-f", "t", "-c", "c.yaml"] "c.yaml" := by
    refine ⟨by decide, { files := ["t"], config := some "c.yaml" }, ?_, rfl⟩
    decide +kernel
  refine ⟨loadBy_of_unheld unheld, ?_⟩
  intro σ clock exec complete w
  refine CommandLine.invoke_of_fault named clock exec complete w ?_
  exact congrArg Loaded.result (loadBy_of_unheld unheld true)

end Settings

end TestBench
