import TestBench.Proofs.Except
import TestBench.Settings.Load

/-! What keeps a value from giving settings. A value can be of any shape, and every use of it can
fail; but all it fails with spoils a file of settings, unless an integer is asked of an infinite
number. -/
namespace TestBench

section Faults

variable {α β : Type} {x : Except Fault α} {g : α → Except Fault β} {f : Fault}

/-- Whether a computation fails with the fault. -/
instance decidableFails (x : Except Fault α) (f : Fault) : Decidable (x = .error f) :=
  match x with
  | .ok _ => isFalse (fun same => nomatch same)
  | .error e => decidable_of_iff (e = f) (by simp)

/-- What a computation fails with spoils settings. -/
def Held (x : Except Fault α) : Prop :=
  ∀ f, x = .error f → f.spoilsSettings = true

theorem held_ok (a : α) : Held (.ok a) := by
  intro f failed
  cases failed

theorem held_error {e : Fault} (spoils : e.spoilsSettings = true) :
    Held (.error e : Except Fault α) := by
  intro f failed
  cases failed
  exact spoils

theorem held_bind (first : Held x) (second : ∀ a, Held (g a)) : Held (x >>= g) := by
  intro f failed
  rcases bind_eq_error_iff.mp failed with here | ⟨a, -, there⟩
  · exact first f here
  · exact second a f there

theorem held_map (first : Held x) (h : α → β) : Held (x.map h) := by
  intro f failed
  cases x with
  | error e =>
    cases failed
    exact first f rfl
  | ok a => cases failed

theorem held_mapM (each : ∀ a, Held (g a)) (xs : List α) : Held (xs.mapM g) := by
  induction xs with
  | nil => exact held_ok []
  | cons a xs ih =>
    rw [List.mapM_cons]
    exact held_bind (each a) fun _ => held_bind ih fun _ => held_ok _

end Faults

namespace Value

theorem held_get (v : Value) (key : String) : Held (v.get key) := by
  fun_induction get v key with
  | case1 entries => exact held_ok _
  | case2 label w ih => exact held_map ih _
  | case3 v => exact held_error rfl

theorem held_items (v : Value) : Held v.items := by
  fun_induction items v with
  | case7 label w ih => exact held_map ih _
  | case8 v => exact held_error rfl
  | _ => exact held_ok _

theorem held_toText (v : Value) : Held v.toText := by
  intro f failed
  rw [(toText_eq_error_iff.mp failed).1]
  rfl

theorem held_readInteger (cs : List Char) (shown : String) : Held (readInteger cs shown) := by
  unfold readInteger
  split
  · split
    · exact held_error rfl
    · exact held_ok _
  · exact held_error rfl

theorem held_toInteger {v : Value} (finite : ∀ negative, v ≠ .float (.infinite negative)) :
    Held v.toInteger := by
  unfold toInteger
  split
  · exact held_ok _
  · exact held_ok _
  · exact held_error rfl
  · exact absurd rfl (finite _)
  · exact held_ok _
  · exact held_readInteger _ _
  · exact held_readInteger _ _
  · exact held_error rfl

end Value

namespace Settings

section Fields

variable {part data : Value} {name default : String}

theorem held_givenSection (data : Value) (name : String) : Held (givenSection data name) :=
  held_bind (data.held_get name) fun _ => held_ok _

theorem held_textField (part : Value) (name default : String) :
    Held (textField part name default) := by
  refine held_bind (part.held_get name) fun found => ?_
  cases found with
  | none => exact held_ok _
  | some v => exact v.held_toText

theorem held_argumentList (v : Value) : Held (argumentList v) := by
  unfold argumentList
  split
  · exact held_ok _
  · split
    · exact held_ok _
    · exact held_bind (Value.held_items _) fun items => held_mapM Value.held_toText items

theorem held_toolOfValue (data : Value) : Held (toolOfValue data) := by
  refine held_bind (held_givenSection data "tool") fun part => ?_
  refine held_bind (part.held_get "extra_args") fun extra => ?_
  refine held_bind (held_textField _ _ _) fun command => ?_
  refine held_bind (held_textField _ _ _) fun args => ?_
  refine held_bind (held_textField _ _ _) fun target => ?_
  refine held_bind (held_textField _ _ _) fun exit => ?_
  exact held_bind (held_argumentList _) fun arguments => held_ok _

theorem integerField_eq (part : Value) (name : String) (default : Int) :
    integerField part name default =
      part.get name >>= fun found => (found.map Value.toInteger).getD (.ok default) := by
  unfold integerField
  congr 1
  funext found
  cases found <;> rfl

theorem integerField_eq_error {default : Int} {f : Fault}
    (failed : integerField part name default = .error f) :
    f.spoilsSettings = true ∨
      f = .infiniteNumber ∧ ∃ negative, part.get name = .ok (some (.float (.infinite negative))) := by
  rw [integerField_eq] at failed
  rcases bind_eq_error_iff.mp failed with unasked | ⟨found, asked, unread⟩
  · exact .inl (part.held_get name f unasked)
  · cases found with
    | none => cases unread
    | some v =>
      by_cases infinite : ∃ negative, v = .float (.infinite negative)
      · obtain ⟨negative, rfl⟩ := infinite
        cases unread
        exact .inr ⟨rfl, negative, asked⟩
      · exact .inl (Value.held_toInteger (fun negative h => infinite ⟨negative, h⟩) f unread)

theorem integerField_infinite {default : Int} {negative : Bool}
    (infinite : part.get name = .ok (some (.float (.infinite negative)))) :
    integerField part name default = .error .infiniteNumber := by
  rw [integerField_eq, infinite]
  rfl

/-- The field of the section is an infinite number. -/
def InfiniteAt (data : Value) (within name : String) : Prop :=
  ∃ part negative, givenSection data within = .ok part ∧
    part.get name = .ok (some (.float (.infinite negative)))

/-- A field that has to be an integer is an infinite number, and all that is read before it can be
read. -/
inductive Overflows (data : Value) : Prop where
  | success {tool : Tool} (tool_ok : toolOfValue data = .ok tool)
      (infinite : InfiniteAt data "exit_codes" "success")
  | failure {tool : Tool} {part : Value} {n : Int} (tool_ok : toolOfValue data = .ok tool)
      (part_ok : givenSection data "exit_codes" = .ok part)
      (success_ok : integerField part "success" 0 = .ok n)
      (infinite : InfiniteAt data "exit_codes" "failure")
  | workers {tool : Tool} {codes : ExitCodes} (tool_ok : toolOfValue data = .ok tool)
      (codes_ok : exitCodesOfValue data = .ok codes)
      (infinite : InfiniteAt data "parallel" "max_workers")

theorem ofValue_eq (data : Value) :
    ofValue data = toolOfValue data >>= fun tool => exitCodesOfValue data >>= fun exitCodes =>
      maxWorkersOfValue data >>= fun maxWorkers => .ok { tool, exitCodes, maxWorkers } := rfl

theorem exitCodesOfValue_eq (data : Value) :
    exitCodesOfValue data = givenSection data "exit_codes" >>= fun part =>
      integerField part "success" 0 >>= fun success =>
        integerField part "failure" 99 >>= fun failure => .ok { success, failure } := rfl

theorem maxWorkersOfValue_eq (data : Value) :
    maxWorkersOfValue data = givenSection data "parallel" >>= fun part =>
      integerField part "max_workers" 1 >>= fun workers => .ok (max 1 workers) := rfl

theorem exitCodesOfValue_eq_error {f : Fault} {tool : Tool} (tool_ok : toolOfValue data = .ok tool)
    (failed : exitCodesOfValue data = .error f) :
    f.spoilsSettings = true ∨ f = .infiniteNumber ∧ Overflows data := by
  rw [exitCodesOfValue_eq] at failed
  rcases bind_eq_error_iff.mp failed with no_part | ⟨part, part_ok, failed⟩
  · exact .inl (held_givenSection data _ f no_part)
  rcases bind_eq_error_iff.mp failed with no_success | ⟨success, success_ok, failed⟩
  · refine (integerField_eq_error no_success).imp_right fun ⟨infinite, negative, found⟩ => ?_
    exact ⟨infinite, .success tool_ok ⟨part, negative, part_ok, found⟩⟩
  rcases bind_eq_error_iff.mp failed with no_failure | ⟨failure, -, built⟩
  · refine (integerField_eq_error no_failure).imp_right fun ⟨infinite, negative, found⟩ => ?_
    exact ⟨infinite, .failure tool_ok part_ok success_ok ⟨part, negative, part_ok, found⟩⟩
  · cases built

theorem maxWorkersOfValue_eq_error {f : Fault} {tool : Tool} {codes : ExitCodes}
    (tool_ok : toolOfValue data = .ok tool) (codes_ok : exitCodesOfValue data = .ok codes)
    (failed : maxWorkersOfValue data = .error f) :
    f.spoilsSettings = true ∨ f = .infiniteNumber ∧ Overflows data := by
  rw [maxWorkersOfValue_eq] at failed
  rcases bind_eq_error_iff.mp failed with no_part | ⟨part, part_ok, failed⟩
  · exact .inl (held_givenSection data _ f no_part)
  rcases bind_eq_error_iff.mp failed with no_workers | ⟨workers, -, built⟩
  · refine (integerField_eq_error no_workers).imp_right fun ⟨infinite, negative, found⟩ => ?_
    exact ⟨infinite, .workers tool_ok codes_ok ⟨part, negative, part_ok, found⟩⟩
  · cases built

theorem ofValue_eq_error {f : Fault} (failed : ofValue data = .error f) :
    f.spoilsSettings = true ∨ f = .infiniteNumber ∧ Overflows data := by
  rw [ofValue_eq] at failed
  -- sections are read in order: a later number is not met unless all before it could be read
  rcases bind_eq_error_iff.mp failed with no_tool | ⟨tool, tool_ok, failed⟩
  · exact .inl (held_toolOfValue data f no_tool)
  rcases bind_eq_error_iff.mp failed with no_codes | ⟨codes, codes_ok, failed⟩
  · exact exitCodesOfValue_eq_error tool_ok no_codes
  rcases bind_eq_error_iff.mp failed with no_workers | ⟨workers, -, built⟩
  · exact maxWorkersOfValue_eq_error tool_ok codes_ok no_workers
  · cases built

theorem ofValue_of_overflows (overflows : Overflows data) :
    ofValue data = .error .infiniteNumber := by
  rw [ofValue_eq]
  cases overflows with
  | success tool_ok infinite =>
    obtain ⟨part, negative, part_ok, found⟩ := infinite
    rw [tool_ok, exitCodesOfValue_eq, part_ok]
    simp only [bind, Except.bind, integerField_infinite found]
  | failure tool_ok part_ok success_ok infinite =>
    obtain ⟨part, negative, same, found⟩ := infinite
    cases part_ok.symm.trans same
    rw [tool_ok, exitCodesOfValue_eq, part_ok]
    simp only [bind, Except.bind, success_ok, integerField_infinite found]
  | workers tool_ok codes_ok infinite =>
    obtain ⟨part, negative, part_ok, found⟩ := infinite
    rw [tool_ok, codes_ok, maxWorkersOfValue_eq, part_ok]
    simp only [bind, Except.bind, integerField_infinite found]

end Fields

end Settings

end TestBench
