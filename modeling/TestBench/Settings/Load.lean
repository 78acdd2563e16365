import TestBench.FileTree.PathText
import TestBench.Settings.Basic
import TestBench.Stop
import TestBench.Suite.Load
import TestBench.Yaml.Value

/-! Settings come from a file. If it is missing or of no use, strict loading announces that, and
lenient loading warns and goes on with the defaults; a few faults of the values in it are held back
by neither. -/
namespace TestBench

/-- A reader of the value that the bytes of a file write. -/
abbrev ValueReader := List UInt8 → Except Fault Value

def Yaml.read : ValueReader :=
  fun bs => valueOf (.ofBytes bs)

def settingsData (read : ValueReader) (tree : FileTree) (path : String) : Except Fault Value :=
  match openFile tree path with
  | .error f => .error f
  | .ok (.script _) => .ok .null
  | .ok (.bytes bs) => read bs

namespace Fault

/-- Whether a fault makes a file of settings one of no use; other faults are not held back. -/
def spoilsSettings : Fault → Bool
  | .infiniteNumber | .hugeNumber | .beyondFloat | .missingKey _ | .indexOutOfRange => false
  | _ => true

end Fault

/-- How the loading of settings came out: with settings and what was said on the way, or stopped. -/
structure Loaded where
  result : Except Stop Settings
  warnings : List String := []

namespace Settings

def ofFile (read : ValueReader) (tree : FileTree) (path : String) : Except Fault Settings := do
  let data ← settingsData read tree path
  ofValue (if data.isTrue then data else .mapping [])

/-- The length in bytes that a path has to stay below. -/
def pathLimit : Nat := 4096

/-- Whether there is something at a path. A name or a path that is too long is an error instead. -/
def isThere (tree : FileTree) (path : String) : Except FileError Bool :=
  if path.toList.contains '\x00' then .ok false
  else if pathLimit ≤ path.utf8ByteSize then .error ⟨.nameTooLong, path⟩
  else
    match tree.locate path with
    | .ok _ => .ok true
    | .error .nameTooLong => .error ⟨.nameTooLong, path⟩
    | .error _ => .ok false

def loadBy (read : ValueReader) (tree : FileTree) (file : String) (strict : Bool) : Loaded :=
  let path := tidyPath file
  match isThere tree path with
  | .error e => ⟨.error (.fault (.file e)), []⟩
  | .ok false =>
    let missing := Failure.settingsMissing path
    if strict then ⟨.error (.failure missing), []⟩
    else ⟨.ok {}, [missing.message ++ ", using defaults"]⟩
  | .ok true =>
    match ofFile read tree path with
    | .ok s => ⟨.ok s, []⟩
    | .error f =>
      if !f.spoilsSettings then ⟨.error (.fault f), []⟩
      else if strict then ⟨.error (.failure (.settingsUnusable path f.message)), []⟩
      else ⟨.ok {}, ["failed to load config file: " ++ f.message ++ ", using defaults"]⟩

def load (tree : FileTree) (file : String) (strict : Bool) : Loaded :=
  loadBy Yaml.read tree file strict

end Settings

/-- The settings of a process: once asked for or loaded anew they stay, until they are loaded
anew. -/
structure SettingsStore where
  current : Option Settings := none

namespace SettingsStore

/-- The settings of the process; at first they are the defaults. -/
def get (s : SettingsStore) : Settings × SettingsStore :=
  let settings := s.current.getD {}
  (settings, ⟨some settings⟩)

def keep (s : SettingsStore) (l : Loaded) : SettingsStore :=
  match l.result with
  | .ok settings => ⟨some settings⟩
  | .error _ => s

end SettingsStore

end TestBench
