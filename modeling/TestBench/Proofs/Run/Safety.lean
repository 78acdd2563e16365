import TestBench.Proofs.Run.Pool

/-! Runs whose calls are answered in any way. If the tests have distinct ids and proper
expectations, nothing but an exit code without a meaning stops a run: no test is recorded twice, and
none is found to be declared wrongly. -/
namespace TestBench

/-- A run of tests that only the exit code of one of them can have stopped. -/
def RunResult.StopsOnCode (settings : Settings) (tests : List Test) (r : RunResult) : Prop :=
  r.stop = none ∨ ∃ t ∈ tests, ∃ code,
    code ≠ settings.exitCodes.success ∧ code ≠ settings.exitCodes.failure ∧
    r.stop = some (.failure (.unresolvedStatus t.id t.path code))

variable {σ : Type} {settings : Settings} {extraArgs : List String} {exec : Executor σ}
  {tests : List Test}

theorem reply_of_mem_trials (replies : exec.Replies) {w : σ} {u : Trial}
    (h : u ∈ exec.trials settings extraArgs tests w) :
    ∃ t ∈ tests, ∃ reply, u = Trial.ofReply settings extraArgs t reply := by
  induction tests generalizing w with
  | nil => cases h
  | cons t ts ih =>
    rcases List.mem_cons.mp h with rfl | h
    · obtain ⟨reply, called⟩ := replies (settings.tool.commandLine t extraArgs) w
      exact ⟨t, List.mem_cons_self, reply, by rw [called]; rfl⟩
    · obtain ⟨t', ht, reply, replied⟩ := ih h
      exact ⟨t', List.mem_cons_of_mem _ ht, reply, replied⟩

variable (settings extraArgs) in
theorem runFrom_stops_on_code (replies : exec.Replies) (distinct : (tests.map Test.id).Nodup)
    (declared : ∀ t ∈ tests, t.expected.isExpectation = true) (total : Nat) (w : σ) :
    ((RunResult.runFrom settings extraArgs exec total 0 {} tests).run w).1.StopsOnCode
      settings tests := by
  have run := runFrom_eq_ofTrials settings extraArgs exec total tests [] w distinct
  change ((RunResult.runFrom settings extraArgs exec total 0 {} tests).run w).1 = _ at run
  rw [run, RunResult.StopsOnCode, stop_ofTrials]
  cases stop : (exec.trials settings extraArgs tests w).findSome? Trial.stop? with
  | none => exact .inl rfl
  | some e =>
    obtain ⟨u, hu, stopped⟩ := List.exists_of_findSome?_eq_some stop
    obtain ⟨t, ht, reply, rfl⟩ := reply_of_mem_trials replies hu
    obtain ⟨code, output, -, success, failure, rfl⟩ := stop?_ofReply (declared t ht) stopped
    exact .inr ⟨t, ht, code, success, failure, rfl⟩

theorem run_stops_on_code (replies : exec.Replies) (distinct : (tests.map Test.id).Nodup)
    (declared : ∀ t ∈ tests, t.expected.isExpectation = true)
    {complete : List Test → List Test} (permutes : ∀ ts, (complete ts).Perm ts)
    (workers : Option Int) (w : σ) :
    ((RunResult.run settings extraArgs exec complete workers tests).run w).1.StopsOnCode
      settings tests := by
  unfold RunResult.run
  split
  · have same := permutes tests
    have run := runFrom_stops_on_code settings extraArgs replies
      ((same.map Test.id).nodup_iff.mpr distinct) (fun t ht => declared t (same.mem_iff.mp ht))
      (complete tests).length w
    rcases run with none | ⟨t, ht, stops⟩
    · exact .inl none
    · exact .inr ⟨t, same.mem_iff.mp ht, stops⟩
  · exact runFrom_stops_on_code settings extraArgs replies distinct declared tests.length w

namespace Pool

/-- The ids that are recorded or may still be. -/
def ids (p : Pool σ) : List Int :=
  p.result.stats.recorded ++ (p.ended ++ p.running).map (·.test.id) ++ p.waiting.map Test.id

/-- What every move keeps: trials of the tests of the run are under way, no id is there twice, and
only an exit code has stopped the run. -/
structure Sound (settings : Settings) (extraArgs : List String) (tests : List Test) (p : Pool σ) :
    Prop where
  trials : ∀ u ∈ p.ended ++ p.running, ∃ t ∈ tests, ∃ reply,
    u = Trial.ofReply settings extraArgs t reply
  waiting : ∀ t ∈ p.waiting, t ∈ tests
  distinct : p.ids.Nodup
  stop : p.result.StopsOnCode settings tests

theorem sound_start (distinct : (tests.map Test.id).Nodup) (w : σ) :
    Sound settings extraArgs tests { waiting := tests, world := w } where
  trials := by simp
  waiting _ ht := ht
  distinct := distinct
  stop := .inl rfl

variable (settings extraArgs) in
/-- Recording a trial can fail only by its exit code, and takes its own id at most. -/
theorem collect_sound {r : RunResult} {t : Test} (reply : Reply) (ht : t ∈ tests)
    (declared : t.expected.isExpectation = true) (total : Nat) (goesOn : r.stop = none)
    (fresh : t.id ∉ r.stats.recorded) :
    let s := r.collect total (Trial.ofReply settings extraArgs t reply)
    s.StopsOnCode settings tests ∧
      (s.stats.recorded = r.stats.recorded ∨ s.stats.recorded = r.stats.recorded ++ [t.id]) := by
  intro s
  cases verdict : (Trial.ofReply settings extraArgs t reply).verdict with
  | error e =>
    have stopped : (Trial.ofReply settings extraArgs t reply).stop? = some e := by
      simp only [Trial.stop?, verdict]
    obtain ⟨code, output, -, success, failure, rfl⟩ := stop?_ofReply declared stopped
    have collected : s = { r with stop := some (.failure (.unresolvedStatus t.id t.path code)) } :=
      collect_of_unjudged total stopped
    exact ⟨.inr ⟨t, ht, code, success, failure, by rw [collected]⟩, .inl (by rw [collected])⟩
  | ok o =>
    cases o with
    | none =>
      simp only [s, RunResult.collect, verdict, Stats.enter, Stats.addError]
      exact ⟨.inl goesOn, .inl trivial⟩
    | some o =>
      have absent : r.stats.recorded.contains t.id = false := by
        simpa [List.contains_eq_mem] using fresh
      simp only [s, RunResult.collect, verdict, Stats.enter, Stats.record, test_ofReply, absent,
        Bool.false_eq_true, if_false]
      exact ⟨.inl goesOn, .inr trivial⟩

theorem sound_move (replies : exec.Replies)
    (declared : ∀ t ∈ tests, t.expected.isExpectation = true) {workers total : Nat} {m : Move}
    {p q : Pool σ} (sound : Sound settings extraArgs tests p)
    (moved : p.move settings extraArgs exec workers total m = some q) :
    Sound settings extraArgs tests q := by
  rcases move_cases moved with ⟨t, rest, waiting, -, rfl⟩ | ⟨place, u, found, rfl⟩ |
    ⟨place, u, goesOn, found, rfl⟩ | ⟨place, t, e, stop, found, rfl⟩
  · obtain ⟨reply, called⟩ := replies (settings.tool.commandLine t extraArgs) p.world
    have mine : t ∈ tests := sound.waiting t (by simp [waiting])
    refine ⟨?_, ?_, ?_, sound.stop⟩
    · intro u hu
      rw [called, ← List.append_assoc] at hu
      rcases List.mem_append.mp hu with hu | hu
      · exact sound.trials u hu
      · exact ⟨t, mine, reply, List.mem_singleton.mp hu⟩
    · exact fun t' ht' => sound.waiting t' (by simp [waiting, ht'])
    · have before := sound.distinct
      simpa [ids, waiting, test_ofAnswer] using before
  · have taken := eraseIdx_perm found
    refine ⟨?_, sound.waiting, ?_, sound.stop⟩
    · intro v hv
      apply sound.trials v
      simp only [List.mem_append, taken.mem_iff, List.mem_cons, List.not_mem_nil] at hv ⊢
      tauto
    · have same : ((p.ended ++ [u]) ++ p.running.eraseIdx place).Perm (p.ended ++ p.running) := by
        rw [List.append_assoc]
        exact taken.symm.append_left p.ended
      exact (((same.map (·.test.id)).append_left _).append_right _).nodup_iff.mpr sound.distinct
  · have taken := eraseIdx_perm found
    obtain ⟨t, ht, reply, rfl⟩ :=
      sound.trials u (List.mem_append_left _ (List.mem_of_getElem? found))
    have shares : p.ids.Perm (p.result.stats.recorded ++ t.id ::
        ((p.ended.eraseIdx place ++ p.running).map (·.test.id) ++ p.waiting.map Test.id)) := by
      have moved := (taken.append_right p.running).map (·.test.id)
      rw [List.cons_append, List.map_cons, test_ofReply] at moved
      rw [ids, List.append_assoc]
      exact (moved.append_right _).append_left _
    have distinct := shares.nodup_iff.mp sound.distinct
    have fresh : t.id ∉ p.result.stats.recorded := fun h =>
      (List.nodup_append.mp distinct).2.2 _ h _ List.mem_cons_self rfl
    obtain ⟨stop, recorded⟩ := collect_sound settings extraArgs reply ht
      (declared t ht) total goesOn fresh
    refine ⟨?_, sound.waiting, ?_, stop⟩
    · intro v hv
      apply sound.trials v
      simp only [List.mem_append, taken.mem_iff, List.mem_cons] at hv ⊢
      tauto
    · simp only [ids]
      rcases recorded with recorded | recorded
      · rw [recorded, List.append_assoc]
        exact distinct.sublist ((List.sublist_cons_self _ _).append_left _)
      · rw [recorded, List.append_assoc, List.append_assoc]
        exact distinct
  · refine ⟨sound.trials, ?_, ?_, sound.stop⟩
    · exact fun t' ht' => sound.waiting t' (List.mem_of_mem_eraseIdx ht')
    · exact sound.distinct.sublist
        (((List.eraseIdx_sublist _ _).map Test.id).append_left _)

theorem sound_run (replies : exec.Replies)
    (declared : ∀ t ∈ tests, t.expected.isExpectation = true) {workers total : Nat}
    {moves : List Move} {p q : Pool σ} (sound : Sound settings extraArgs tests p)
    (ran : run settings extraArgs exec workers total moves p = some q) :
    Sound settings extraArgs tests q := by
  induction moves generalizing p with
  | nil =>
    cases ran
    exact sound
  | cons m moves ih =>
    simp only [run] at ran
    split at ran
    · cases ran
    · rename_i next moved
      exact ih (sound_move replies declared sound moved) ran

end Pool

end TestBench
