import TestBench.Proofs.FileTree.Names
import TestBench.Proofs.Suite.Load
import TestBench.Proofs.Text.Blocks

/-! What stops a loading: the first file that cannot be loaded, after others that can be. Of files
that hold text, and of those that hold scripts, only a few kinds of errors come. -/
namespace TestBench

/-- What stops the loading of a file without being announced or coming from the system, and what is
then wrong with the file. -/
inductive LooseStop (tree : FileTree) (file : String) : Stop → Prop where
  | nullCharacter (mem : '\x00' ∈ file.toList) : LooseStop tree file (.fault .nullCharacter)
  | undecodable {bs : List UInt8} (opened : openFile tree (tidyPath file) = .ok (.bytes bs))
    (broken : Text.decode? bs = none) : LooseStop tree file (.fault .notUtf8)
  /-- It is a script that raises what nothing holds back. -/
  | escaped {script : Script} {fs : FileSystem} {next : Int} {kind : String} {v : Value}
    (opened : openScript tree (tidyPath file) = .ok script)
    (raised : (script.run fs (tidyPath file) next).stop = some (.escape kind v)) :
    LooseStop tree file (.escape kind v)
  /-- It is a script that raises an error that has no text to be announced with. -/
  | unshown {script : Script} {fs : FileSystem} {next : Int} {kind : String}
    (opened : openScript tree (tidyPath file) = .ok script)
    (raised : ((runSteps fs script).run { next, vars := initialVariables (tidyPath file) }).1 =
      .error (.fault (.raised kind none))) :
    LooseStop tree file (.fault .longNumber)

/-- What can stop the loading of a file. -/
inductive FileStop (tree : FileTree) (file : String) : Stop → Prop where
  | refused (f : Failure) : FileStop tree file (.failure f)
  | unopened {e : FileError} (failed : openFile tree (tidyPath file) = .error (.file e)) :
    FileStop tree file (.fault (.file e))
  | loose {s : Stop} (h : LooseStop tree file s) : FileStop tree file s

variable {tree : FileTree} {fs : FileSystem} {next : Int} {file : String} {s : Stop}

theorem fileStop_of_openFile {f : Fault} (failed : openFile tree (tidyPath file) = .error f) :
    FileStop tree file (.fault f) := by
  have opening := failed
  unfold openFile at opening
  split at opening
  · rename_i null
    cases opening
    have mem : '\x00' ∈ (tidyPath file).toList := by simpa [List.contains_eq_mem] using null
    rcases mem_of_mem_tidyPath mem with mem | mem | mem
    · exact .loose (.nullCharacter mem)
    · exact absurd mem (by decide)
    · exact absurd mem (by decide)
  · split at opening
    · cases opening
    · cases opening
      exact .unopened failed

theorem fileStop_of_text (stopped : (readTextFile tree fs (tidyPath file) next {}).stop = some s) :
    FileStop tree file s := by
  unfold readTextFile openLines at stopped
  cases opened : openFile tree (tidyPath file) with
  | error f =>
    rw [opened] at stopped
    cases stopped
    exact fileStop_of_openFile opened
  | ok content =>
    rw [opened] at stopped
    cases content with
    | script steps => cases stopped
    | bytes bs =>
      dsimp only at stopped
      split at stopped
      · cases stopped
        exact .refused _
      · split at stopped
        · rename_i broken
          cases stopped
          exact .loose (.undecodable opened (Text.broken_ofBytes_iff.mp broken))
        · cases stopped

theorem fileStop_of_openScript (failed : openScript tree (tidyPath file) = .error s) :
    FileStop tree file s := by
  unfold openScript at failed
  cases opened : openFile tree (tidyPath file) with
  | error f =>
    rw [opened] at failed
    cases failed
    exact fileStop_of_openFile opened
  | ok content =>
    rw [opened] at failed
    cases content with
    | script steps => cases failed
    | bytes bs =>
      dsimp only at failed
      split at failed
      · rename_i broken
        cases failed
        exact .loose (.undecodable opened broken)
      · unfold scriptOfText at failed
        split at failed
        · cases failed
        · cases failed
          exact .refused _

theorem outerStop_eq_fault {f : Fault} {s : Stop} (same : outerStop file s = .fault f) :
    f = .longNumber ∧ ∃ kind, s = .fault (.raised kind none) := by
  cases s with
  | failure g => cases same
  | escape kind v => cases same
  | fault g =>
    unfold outerStop at same
    split at same
    · rename_i raised
      cases raised
      cases same
      exact ⟨rfl, _, rfl⟩
    · cases same
    · cases same
      rename_i other
      exact absurd rfl (other _)

theorem fileStop_of_run {script : Script} (opened : openScript tree (tidyPath file) = .ok script)
    (stopped : (script.run fs (tidyPath file) next).stop = some s) : FileStop tree file s := by
  cases s with
  | failure f => exact .refused f
  | escape kind v => exact .loose (.escaped opened stopped)
  | fault f =>
    rcases ended : (runSteps fs script).run { next, vars := initialVariables (tidyPath file) } with
      ⟨e | ⟨⟩, left⟩
    · simp only [Script.run, ended, Option.some.injEq] at stopped
      obtain ⟨rfl, kind, rfl⟩ := outerStop_eq_fault stopped
      exact .loose (.unshown opened (congrArg Prod.fst ended))
    · simp only [Script.run, ended] at stopped
      cases stopped

namespace Suite

theorem fileStop_of_loadFile (stopped : (loadFile tree fs next file).stop = some s) :
    FileStop tree file s := by
  simp only [loadFile] at stopped
  split at stopped
  · unfold runScriptFile at stopped
    cases opened : openScript tree (tidyPath file) with
    | error e =>
      rw [opened] at stopped
      cases stopped
      exact fileStop_of_openScript opened
    | ok script =>
      rw [opened] at stopped
      dsimp only at stopped
      split at stopped
      · rename_i e raised
        cases stopped
        exact fileStop_of_run opened raised
      · cases stopped
  · split at stopped
    · rename_i e raised
      cases stopped
      exact fileStop_of_text raised
    · cases stopped

theorem load_of_stopped (files : List String)
    (stopped : (loadFile tree fs next file).stop = some s) :
    load tree fs next (file :: files) = loadFile tree fs next file := by
  simp only [load_cons, stopped]

theorem load_goes_on (files : List String) (loaded : (loadFile tree fs next file).stop = none) :
    (load tree fs next (file :: files)).stop =
        (load tree fs (loadFile tree fs next file).next files).stop ∧
      (load tree fs next (file :: files)).next =
        (load tree fs (loadFile tree fs next file).next files).next := by
  simp only [load_cons, loaded, and_self]

theorem load_stop_iff {files : List String} :
    (load tree fs next files).stop = some s ↔
      ∃ before file after, files = before ++ file :: after ∧
        (load tree fs next before).stop = none ∧
        (loadFile tree fs (load tree fs next before).next file).stop = some s := by
  -- the first file stops the loading, or hands the id that comes next to the rest of the files
  induction files generalizing next with
  | nil =>
    rw [load_nil]
    constructor
    · rintro ⟨⟩
    · rintro ⟨before, file, after, parts, -⟩
      cases before <;> cases parts
  | cons first files ih =>
    cases here : (loadFile tree fs next first).stop with
    | some e =>
      rw [load_of_stopped files here]
      constructor
      · intro stopped
        refine ⟨[], first, files, rfl, rfl, ?_⟩
        rw [load_nil]
        exact stopped
      · rintro ⟨before, file, after, parts, loaded, stopped⟩
        cases before with
        | nil =>
          cases parts
          rw [load_nil] at stopped
          exact stopped
        | cons head before =>
          cases parts
          rw [load_of_stopped before here, here] at loaded
          cases loaded
    | none =>
      rw [(load_goes_on files here).1, ih]
      constructor
      · rintro ⟨before, file, after, rfl, loaded, stopped⟩
        have on := load_goes_on before here
        refine ⟨first :: before, file, after, rfl, on.1.trans loaded, ?_⟩
        rw [on.2]
        exact stopped
      · rintro ⟨before, file, after, parts, loaded, stopped⟩
        cases before with
        | nil =>
          cases parts
          rw [load_nil, here] at stopped
          cases stopped
        | cons head before =>
          cases parts
          have on := load_goes_on before here
          rw [on.1] at loaded
          rw [on.2] at stopped
          exact ⟨before, file, after, rfl, loaded, stopped⟩

end Suite

end TestBench
