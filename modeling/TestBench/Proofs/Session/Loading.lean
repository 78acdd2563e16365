import TestBench.Proofs.Session.Transcript
import TestBench.Proofs.Suite.Stops

/-! Sessions whose loading is stopped. The tool is never called, and what is announced or comes from
the system makes the one message of the report; a few other errors of files pass the session and end
it. -/
namespace TestBench

/-- The message of a stop that a session holds back. -/
def Stop.message? : Stop → Option String
  | .failure f => some f.message
  | .fault f => if f.isSystem then some f.message else none
  | .escape .. => none

theorem stopped_of_message {s : Stop} {message : String} (log : List String)
    (h : s.message? = some message) : Account.stopped true log s = .failed log message := by
  cases s with
  | failure f =>
    cases h
    rfl
  | fault f =>
    simp only [Stop.message?] at h
    split at h
    · rename_i system
      cases h
      simp only [Account.stopped, system, Bool.and_self, if_true]
    · cases h
  | escape kind v => cases h

theorem stopped_of_no_message {s : Stop} (log : List String) (h : s.message? = none) :
    Account.stopped true log s = { log, ending := .stopped s } := by
  cases s with
  | failure f => cases h
  | fault f =>
    simp only [Stop.message?] at h
    split at h
    · cases h
    · rename_i other
      simp [Account.stopped, other]
  | escape kind v => rfl

variable {tree : FileTree} {file : String} {s : Stop}

theorem LooseStop.no_message (h : LooseStop tree file s) : s.message? = none := by
  cases h <;> rfl

/-- What stops the loading of a file has a message, or is loose. -/
theorem FileStop.message_or_loose (h : FileStop tree file s) :
    (∃ message, s.message? = some message) ∨ LooseStop tree file s := by
  cases h with
  | refused f => exact .inl ⟨_, rfl⟩
  | unopened failed => exact .inl ⟨_, rfl⟩
  | loose h => exact .inr h

end TestBench
