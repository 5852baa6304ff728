import DocWeave.Proofs.Documenting.OneFile
import DocWeave.Proofs.Generation.Schedules

/-!
# Files and schedules

The comments of a file are made by workers side by side, and the order in which they come is
anybody's guess. Where answers depend on nothing but the job and the attempt, this cannot be seen in
the file.

* `fst_of_scheduled` — on every schedule the same comments or the same failure come of the jobs
* `schedules_agree` — every schedule comes to an end, with all comments in the order of the jobs or
  the failure of the first job in order that fails, and documents the file as one worker alone does
-/

namespace DocWeave.Documenting

open Generation

variable {ask : Asker} {store : Prompt.Store}

theorem fst_of_scheduled {settings : Generation.Settings} {run : Runner} (hask : Steady ask)
    (hrun : Scheduled ask store settings run) (hworkers : 0 < settings.maxWorkers)
    (spans : List Span) (s : Session) :
    (run spans s).1 = (commentJobs store settings spans).mapM (Job.alone ask) :=
  Pool.fst_of_outcome hask (numberedFrom_commentJobs store settings spans) (hrun hworkers spans s)

/-- The settings with one worker. -/
def Settings.oneWorker (settings : Settings) : Settings :=
  { settings with generation := { settings.generation with maxWorkers := 1 } }

/-- A schedule documents a file as one worker alone does. -/
theorem alike_oneWorker {settings : Settings} {run : Runner} (hask : Steady ask)
    (hrun : Scheduled ask store settings.generation run)
    (hworkers : 0 < settings.generation.maxWorkers) (p : Path) (s : State) :
    Alike (documentFileBy run settings p s) (documentFile ask store settings.oneWorker p s) := by
  refine documentFileBy_congr hworkers Int.one_pos ?_ p s
  intro spans s s'
  rw [fst_of_scheduled hask hrun hworkers,
    fst_of_scheduled hask (scheduled_blocks ask store settings.oneWorker.generation) Int.one_pos]
  rfl

/--
What comes of the jobs of a file does not depend on the schedule. As long as there is no result
something can be done, nothing can be done for ever, and the result is told by what each job comes
to alone: all comments in the order of the jobs, or the failure of the first job in order that
fails. So the file is documented as one worker alone does it, or left as it was.
-/
theorem schedules_agree {settings : Settings} (hask : Steady ask)
    (hworkers : 1 ≤ settings.generation.maxWorkers) :
    (∀ (spans : List Span) (s : Session),
      let jobs := commentJobs store settings.generation spans
      let workers := settings.generation.maxWorkers.toNat
      (∀ p, Pool.Run ask workers (Pool.start jobs s) p → p.result? jobs.length = none →
          ∃ q, Pool.Step ask workers p q)
        ∧ (¬ ∃ run : Nat → Pool, run 0 = Pool.start jobs s
          ∧ ∀ n, Pool.Step ask workers (run n) (run (n + 1)))
        ∧ ∀ r, Pool.Outcome ask workers jobs s r →
          (∀ bs : List Text, jobs.map (Job.alone ask) = bs.map .ok → r.1 = .ok bs)
            ∧ ∀ (i : Nat) (e : Generation.Failure),
              (jobs.map (Job.alone ask))[i]? = some (.error e) →
              (∀ k < i, ∃ b, (jobs.map (Job.alone ask))[k]? = some (.ok b)) → r.1 = .error e)
      ∧ ∀ run, Scheduled ask store settings.generation run → ∀ p s,
        Alike (documentFileBy run settings p s) (documentFile ask store settings.oneWorker p s)
          ∧ ∀ e s', documentFileBy run settings p s = (.error e, s') → s'.files = s.files := by
  constructor
  · intro spans s
    have hn := numberedFrom_commentJobs store settings.generation spans
    refine ⟨?_, Pool.not_forall_step hn, ?_⟩
    · intro p hp hres
      exact Pool.exists_step_of_run (by omega) hn hp hres
    · intro r hr
      have hfst := Pool.fst_of_outcome hask hn hr
      constructor
      · intro bs hbs
        rw [hfst, mapM_eq_ok hbs]
      · intro i e hi hlt
        rw [hfst, mapM_eq_error hi hlt]
  · intro run hrun p s
    constructor
    · exact alike_oneWorker hask hrun hworkers p s
    · intro e s' h
      exact files_of_documentFileBy_error h

theorem steady_breakingOut : Steady breakingOut := fun _ _ _ => rfl

/-- Four workers get on every schedule what one of them gets. -/
theorem schedules_agree_breakingOut :
    Steady breakingOut ∧ ∀ run, Scheduled breakingOut (Prompt.Store.packaged []) {} run →
      (documentFileBy run {} (Path.ofText "a.js".toList)
        (State.ofFile "a.js".toList (Encoding.encode "function f() {}\n".toList))).1.toOption.map
          Documented.content = some "/** d */\n\n/** d */\nfunction f() {}\n".toList := by
  refine ⟨steady_breakingOut, ?_⟩
  intro run hrun
  have hworkers : 1 ≤ ({} : Settings).generation.maxWorkers := by decide
  obtain ⟨-, hagree⟩ := schedules_agree steady_breakingOut hworkers
  rw [(hagree run hrun _ _).1.result]
  decide +kernel

end DocWeave.Documenting
