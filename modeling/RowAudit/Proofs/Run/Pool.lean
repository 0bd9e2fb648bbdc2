import Mathlib.Data.List.Pairwise
import Mathlib.Logic.Relation
import RowAudit.Proofs.Run.Findings

/-!
# Runs with workers

A `Pool` of workers checks rules side by side: a job that waits is started while fewer jobs run than
the settings allow, and any job that runs may be the next to finish. Where aggregations are not
remembered, workers share nothing, so each finished job brings the buffer that it would have filled
alone. The main statement says that the report does not depend on any of this: whatever the order in
which the buffers arrive, and whatever keys the rules share, it is the report of checking the rules
one after the other (`Run.report_collect_eq_validate`).
-/

namespace RowAudit

/-- The jobs of a concurrent run: those that wait, those that run, and the buffers of those that
have finished, in the order in which they finished. -/
structure Pool where
  waiting : List (Nat × Rule)
  running : List (Nat × Rule)
  finished : List (Nat × Buffer)

namespace Run

/-- What a worker brings back: the position of its rule and the buffer that it filled. -/
def worker (run : Run) (job : Nat × Rule) : Nat × Buffer :=
  (job.1, ((run.checkRule job.2 .empty).run .empty).1)

/-- What can happen next in a pool. There is always room for one job. -/
inductive PoolStep (run : Run) : Pool → Pool → Prop
  | start {job : Nat × Rule} {waiting running : List (Nat × Rule)}
      {finished : List (Nat × Buffer)} :
      running.length < max run.settings.maxConcurrency 1 →
      PoolStep run ⟨job :: waiting, running, finished⟩ ⟨waiting, running ++ [job], finished⟩
  | finish {job : Nat × Rule} {waiting before after : List (Nat × Rule)}
      {finished : List (Nat × Buffer)} :
      PoolStep run ⟨waiting, before ++ job :: after, finished⟩
        ⟨waiting, before ++ after, finished ++ [run.worker job]⟩

/-- The workers of a run may finish in an order: some sequence of steps leads there. -/
def Finishes (run : Run) (finished : List (Nat × Buffer)) : Prop :=
  Relation.ReflTransGen (PoolStep run) ⟨jobsFrom 0 run.input.rules, [], []⟩ ⟨[], [], finished⟩

variable {run : Run}

/-! ## Pools -/

/-- What the jobs of a pool have brought and will bring. -/
def poolTotal (run : Run) (p : Pool) : List (Nat × Buffer) :=
  p.finished ++ (p.running ++ p.waiting).map run.worker

/-- The first of the running jobs may finish. -/
theorem PoolStep.finish_head {job : Nat × Rule} {waiting running : List (Nat × Rule)}
    {finished : List (Nat × Buffer)} :
    PoolStep run ⟨waiting, job :: running, finished⟩
      ⟨waiting, running, finished ++ [run.worker job]⟩ :=
  @PoolStep.finish run job waiting [] running finished

/-- No step loses a job or adds one. -/
theorem PoolStep.poolTotal_perm {p q : Pool} (h : PoolStep run p q) :
    (poolTotal run q).Perm (poolTotal run p) := by
  cases h with
  | start hroom => simp [poolTotal]
  | @finish job waiting before after finished =>
    have hjobs : (job :: (before ++ after) ++ waiting).Perm (before ++ job :: after ++ waiting) :=
      List.perm_middle.symm.append_right waiting
    simpa [poolTotal] using (hjobs.map run.worker).append_left finished

/-- Workers finish in an order of their own and bring what they would bring alone. -/
theorem Finishes.perm {finished : List (Nat × Buffer)} (h : run.Finishes finished) :
    finished.Perm ((jobsFrom 0 run.input.rules).map run.worker) := by
  have hperm : ∀ {p q : Pool}, Relation.ReflTransGen (PoolStep run) p q →
      (poolTotal run q).Perm (poolTotal run p) := by
    intro p q hpq
    induction hpq with
    | refl => exact .refl _
    | tail _ hstep ih => exact hstep.poolTotal_perm.trans ih
  simpa [poolTotal] using hperm h

/-- A pool can always be brought to an end. -/
theorem exists_reflTransGen_finished (waiting running : List (Nat × Rule))
    (finished : List (Nat × Buffer)) :
    ∃ all, Relation.ReflTransGen (PoolStep run) ⟨waiting, running, finished⟩ ⟨[], [], all⟩ := by
  induction waiting generalizing running finished with
  | nil =>
    induction running generalizing finished with
    | nil => exact ⟨finished, .refl⟩
    | cons job running ih =>
      obtain ⟨all, hall⟩ := ih (finished ++ [run.worker job])
      exact ⟨all, .head .finish_head hall⟩
  | cons job waiting ih =>
    -- Running jobs finish first, so that there is room for the next one.
    induction running generalizing finished with
    | nil =>
      have hroom : 0 < max run.settings.maxConcurrency 1 :=
        Nat.lt_of_lt_of_le Nat.zero_lt_one (Nat.le_max_right _ _)
      obtain ⟨all, hall⟩ := ih [job] finished
      exact ⟨all, .head (.start hroom) hall⟩
    | cons running₀ running ihr =>
      obtain ⟨all, hall⟩ := ihr (finished ++ [run.worker running₀])
      exact ⟨all, .head .finish_head hall⟩

/-- Every run can finish. -/
theorem exists_finishes (run : Run) : ∃ finished, run.Finishes finished :=
  exists_reflTransGen_finished _ _ _

/-! ## Jobs -/

/-- The jobs are the enabled rules. -/
theorem map_snd_jobsFrom (position : Nat) (rules : List Rule) :
    (jobsFrom position rules).map Prod.snd = rules.filter Rule.enabled := by
  induction rules generalizing position with
  | nil => rfl
  | cons r rest ih =>
    unfold jobsFrom
    split
    · next h => rw [List.map_cons, ih, List.filter_cons_of_pos h]
    · next h => rw [ih, List.filter_cons_of_neg h]

/-- Positions are counted from the given one on. -/
theorem le_of_mem_jobsFrom {position : Nat} {rules : List Rule} {job : Nat × Rule}
    (h : job ∈ jobsFrom position rules) : position ≤ job.1 := by
  induction rules generalizing position with
  | nil => cases h
  | cons r rest ih =>
    unfold jobsFrom at h
    split at h
    · rcases List.mem_cons.1 h with rfl | h
      · exact Nat.le_refl _
      · exact Nat.le_of_succ_le (ih h)
    · exact Nat.le_of_succ_le (ih h)

/-- Jobs stand in the order of their positions. -/
theorem jobsFrom_pairwise (position : Nat) (rules : List Rule) :
    (jobsFrom position rules).Pairwise fun a b => a.1 < b.1 := by
  induction rules generalizing position with
  | nil => exact List.Pairwise.nil
  | cons r rest ih =>
    unfold jobsFrom
    split
    · exact List.pairwise_cons.2 ⟨fun job hjob => le_of_mem_jobsFrom hjob, ih _⟩
    · exact ih _

/-- Where nothing is remembered, a worker writes the block of its rule. -/
theorem worker_eq (hm : run.settings.memoize = false) (job : Nat × Rule) :
    run.worker job = (job.1, (run.entries job.2).foldl Buffer.write .empty) := by
  unfold worker
  rw [checkRule_run hm]

/-- Where nothing is remembered, workers that take turns bring what they bring alone. -/
theorem work_run (hm : run.settings.memoize = false) (jobs : List (Nat × Rule)) (m : Memo) :
    (run.work jobs).run m = (jobs.map run.worker, m) := by
  induction jobs generalizing m with
  | nil => rfl
  | cons job rest ih =>
    obtain ⟨position, r⟩ := job
    rw [work, StateT.run_bind, checkRule_run hm, List.map_cons, worker_eq hm]
    show ((run.work rest).run m >>= fun p => pure (_ :: p.1, p.2) : Id _) = _
    rw [ih]
    rfl

/-! ## Collecting -/

/-- Sorting by position undoes any order of arrival. -/
theorem mergeSort_of_perm {finished : List (Nat × Buffer)} {jobs : List (Nat × Rule)}
    (hjobs : jobs.Pairwise fun a b => a.1 < b.1) (h : finished.Perm (jobs.map run.worker)) :
    (finished.mergeSort fun a b => a.1 ≤ b.1) = jobs.map run.worker := by
  have hsymm : Std.Symm fun a b : Nat × Rule => a.1 ≠ b.1 := ⟨fun _ _ h => h.symm⟩
  have hne : jobs.Pairwise fun a b => a.1 ≠ b.1 := hjobs.imp fun h => Nat.ne_of_lt h
  have hfirst : ∀ a ∈ jobs.map run.worker, ∀ b ∈ jobs.map run.worker, a.1 = b.1 → a = b := by
    intro a ha b hb hab
    obtain ⟨j, hj, rfl⟩ := List.mem_map.1 ha
    obtain ⟨k, hk, rfl⟩ := List.mem_map.1 hb
    by_cases hjk : j = k
    · rw [hjk]
    · exact absurd hab (hne.forall hj hk hjk)
  have hsorted : (finished.mergeSort fun a b => a.1 ≤ b.1).Pairwise fun a b => a.1 ≤ b.1 := by
    simpa using List.pairwise_mergeSort
      (fun (a b c : Nat × Buffer) (hab : decide (a.1 ≤ b.1) = true)
        (hbc : decide (b.1 ≤ c.1) = true) =>
        decide_eq_true (Nat.le_trans (of_decide_eq_true hab) (of_decide_eq_true hbc)))
      (fun a b => by simpa using Nat.le_total a.1 b.1) finished
  have hjoined : (jobs.map run.worker).Pairwise fun a b => a.1 ≤ b.1 :=
    List.pairwise_map.2 (hjobs.imp fun hab => Nat.le_of_lt hab)
  refine List.Perm.eq_of_pairwise (fun a b ha hb hab hba => ?_) hsorted hjoined
    ((List.mergeSort_perm _ _).trans h)
  exact hfirst a (h.mem_iff.1 (List.mem_mergeSort.1 ha)) b hb (Nat.le_antisymm hab hba)

/-- Merging the buffers of rules one after the other is writing the blocks of the rules. -/
theorem toList_foldl_merge (hm : run.settings.memoize = false) (jobs : List (Nat × Rule))
    {b : Buffer} (hb : b.Indexed) :
    ((jobs.map run.worker).foldl (fun b f => b.merge f.2) b).entries.toList =
      Entries.placeAll (jobs.flatMap fun job => run.entries job.2) b.entries.toList := by
  induction jobs generalizing b with
  | nil => rfl
  | cons job rest ih =>
    rw [List.map_cons, List.foldl_cons, ih (hb.merge _), List.flatMap_cons, Entries.placeAll_append,
      worker_eq hm, Buffer.toList_merge_foldl_write hb]

/-- Buffers that arrive in any order give the report of checking the rules one after the other. -/
theorem report_collect_of_perm (hm : run.settings.memoize = false) {finished : List (Nat × Buffer)}
    (h : finished.Perm ((jobsFrom 0 run.input.rules).map run.worker)) :
    run.report (collect finished) = run.validate := by
  rw [validate_eq hm]
  refine report_congr ?_
  rw [collect, mergeSort_of_perm (jobsFrom_pairwise 0 _) h,
    toList_foldl_merge hm _ Buffer.indexed_empty, Buffer.toList_foldl_write Buffer.indexed_empty]
  have hrules : (jobsFrom 0 run.input.rules).flatMap (fun job => run.entries job.2) =
      run.enabledRules.flatMap run.entries := by
    rw [enabledRules, ← map_snd_jobsFrom 0 run.input.rules, List.flatMap_map]
  rw [hrules]

/-- Where nothing is remembered, the order in which workers finish has no influence: buffers that
arrive in any order at all give the report of checking the rules one after the other, workers do
finish in some order, and whatever that is they bring such buffers. -/
theorem report_collect_eq_validate (run : Run) (hm : run.settings.memoize = false) :
    (∀ finished, finished.Perm ((run.work (jobsFrom 0 run.input.rules)).run .empty).1 →
      run.report (collect finished) = run.validate) ∧
    (∃ finished, run.Finishes finished) ∧
    (∀ finished, run.Finishes finished → run.report (collect finished) = run.validate) ∧
    run.validateConcurrent = run.validate := by
  have hwork : ((run.work (jobsFrom 0 run.input.rules)).run .empty).1 =
      (jobsFrom 0 run.input.rules).map run.worker := by rw [work_run hm]
  refine ⟨fun finished hperm => ?_, exists_finishes run, fun finished hfin => ?_, ?_⟩
  · exact report_collect_of_perm hm (hwork ▸ hperm)
  · exact report_collect_of_perm hm hfin.perm
  · exact report_collect_of_perm hm (.of_eq hwork)

/-- Two rules with one key: what the second one says about the row replaces what the first one says.
-/
def sharedKey : Run :=
  onTable .debugging "t" [.ofList [("a", .number 1)]]
    [{ id := "r", name := "first", table := "t", column := "a", kind := .rowFormula,
       parameters := [("formula", .text "a == 1")] },
     { id := "r", name := "second", table := "t", column := "a", kind := .rowFormula,
       parameters := [("formula", .text "a == 2")] }]

/-- Buffers that share a key may arrive in reverse. -/
theorem report_collect_reverse :
    sharedKey.settings.memoize = false ∧
      sharedKey.report (collect
        ((sharedKey.work (jobsFrom 0 sharedKey.input.rules)).run .empty).1.reverse) =
          sharedKey.validate :=
  ⟨rfl, (report_collect_eq_validate sharedKey rfl).1 _ (List.reverse_perm _)⟩

end Run

end RowAudit
