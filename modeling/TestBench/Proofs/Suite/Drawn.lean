import TestBench.Test

/-! Tests that draw their ids from one sequence. Both readers of test files give such tests, and
what they give after each other draws on the same sequence. -/
namespace TestBench

/-- Tests with increasing ids from `low` up to, but not, `high`, each with a proper expectation and
not run yet. Ids in between may be left out. -/
structure Test.Drawn (low high : Int) (ts : List Test) : Prop where
  le : low ≤ high
  increasing : ts.Pairwise fun a b => a.id < b.id
  range : ∀ t ∈ ts, low ≤ t.id ∧ t.id < high
  declared : ∀ t ∈ ts, t.expected.isExpectation = true
  unrun : ∀ t ∈ ts, t.result = none

namespace Test.Drawn

variable {low mid high : Int} {ts us : List Test}

theorem nil (le : low ≤ high) : Drawn low high [] := by
  constructor <;> simp [le]

theorem singleton {t : Test} (first : t.id = low) (declared : t.expected.isExpectation = true)
    (unrun : t.result = none) : Drawn low (low + 1) [t] := by
  refine ⟨by omega, List.pairwise_singleton _ _, ?_, ?_, ?_⟩
  · rw [List.forall_mem_singleton]
    omega
  · rwa [List.forall_mem_singleton]
  · rwa [List.forall_mem_singleton]

theorem append (left : Drawn low mid ts) (right : Drawn mid high us) :
    Drawn low high (ts ++ us) := by
  have hl := left.le
  have hr := right.le
  refine ⟨Int.le_trans hl hr, List.pairwise_append.mpr ⟨left.increasing, right.increasing, ?_⟩,
    ?_, ?_, ?_⟩
  · intro a ha b hb
    have below := (left.range a ha).2
    have above := (right.range b hb).1
    omega
  · intro t ht
    rcases List.mem_append.mp ht with ht | ht
    · have within_left := left.range t ht
      omega
    · have within_right := right.range t ht
      omega
  · exact List.forall_mem_append.mpr ⟨left.declared, right.declared⟩
  · exact List.forall_mem_append.mpr ⟨left.unrun, right.unrun⟩

theorem cons {t : Test} (first : t.id = low) (declared : t.expected.isExpectation = true)
    (unrun : t.result = none) (rest : Drawn (low + 1) high ts) : Drawn low high (t :: ts) :=
  (singleton first declared unrun).append rest

theorem nodup_of_sublist (drawn : Drawn low high ts) (chosen : us.Sublist ts) :
    (us.map Test.id).Nodup := by
  have increasing := drawn.increasing.sublist chosen
  rw [List.nodup_iff_pairwise_ne, List.pairwise_map]
  exact increasing.imp fun h => Int.ne_of_lt h

end Test.Drawn

end TestBench
