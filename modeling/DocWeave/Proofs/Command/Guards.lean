import DocWeave.Proofs.Command.Agreement
import DocWeave.Proofs.Generation.Tallies
import DocWeave.Proofs.Log.Writing

/-!
# Guards of a run

A run is refused before anything is done, or it goes through all files that its path stands for, up
to the first that fails. How it ends tells which of the three it was, and what it prints at the end is
what it has done and used.

* `Readied`, `exists_readied`, `call_eq_conclude` — how a call gets to its work
* `Refused`, `guarded_of_refused` — who is refused, which `guarded_eq_ok` is the other half of
* `documented_of_ok`, `usage_documentBy` — what is counted
* `Run.Ends`, `Run.Heard` — how a run ends, and what becomes of a call for one
* `Run.Heard.of_exit_zero` — what a run has done that ends well
* `run_guards` — all that is known of a run
-/

namespace DocWeave.Command

open Documenting Generation

/-! ## Up to the work -/

/-- The console before anything is done. -/
def Console.fresh (w : World) : Console :=
  { sink := { files := w.files }, logger := { time := w.time } }

/-- A configuration has been loaded, and the console is what it is once the logging has been set up. -/
structure Readied (w : World) (file : Option Text) (base : Config) (console : Console) : Prop where
  configured : (configure w file).1 = .ok base
  logging : ((Console.fresh w).log (configure w file).2).logger.setUp base.logging
    ((Console.fresh w).log (configure w file).2).sink = (console.logger, console.sink, none)
  silent : console.out = []

variable {w : World} {f : Files} {store : Prompt.Store} {c base : Config} {written : Text}
  {recursive : Bool} {file : Option Text} {arguments rest : List Text} {console : Console}
  {given : Call}

theorem call_of_opening {k : Kind} (h : opening w.files arguments = .ok (.command k file rest)) :
    call w arguments = callCommand w k file rest (.fresh w) := by
  cases arguments with
  | nil => cases h
  | cons a more =>
    simp only [call, h]
    rfl

/-- Then the work is done, and what it comes to is told. -/
theorem call_eq_conclude {k : Kind} (hopening : opening w.files arguments = .ok (.command k file rest))
    (hready : Readied w file base console)
    (hread : readCall console.sink.files k rest = .ok (some given)) :
    call w arguments = console.conclude k (work w console.sink.files base k given) := by
  obtain ⟨hconfigured, hlogging, hsilent⟩ := hready
  obtain ⟨out, sink, logger⟩ := console
  obtain rfl : out = [] := hsilent
  have hread : readCall sink.files k rest = .ok (some given) := hread
  obtain ⟨entries, hconfigured⟩ := exists_eq_of_fst_eq hconfigured
  rw [hconfigured] at hlogging
  simp only [call_of_opening hopening, callCommand, hconfigured, hlogging, hread]
  rfl

/-- What is logged before the logging has been set up changes no file. -/
theorem Console.files_log_fresh (w : World) (entries : List Log.Entry) :
    ((fresh w).log entries).sink.files = w.files := by
  have happended : w.files.Appended none ((fresh w).log entries).sink.files :=
    Log.Logger.appended_writeAll (List.forall_mem_nil _) entries (fresh w).sink
  exact happended.eq

/-- Before the work begins no file has been changed but that of the log. -/
theorem Readied.appended (h : Readied w file base console) :
    w.files.Appended (base.logging.path? w.files.here) console.sink.files := by
  have hsetUp := Log.Logger.appended_setUp
    (l := ((Console.fresh w).log (configure w file).2).logger) base.logging
    ((Console.fresh w).log (configure w file).2).sink
  rwa [h.logging, Console.files_log_fresh] at hsetUp

/-- If the logging cannot be set up, the program breaks down before it has done anything. -/
theorem exists_readied {k : Kind} (hopening : opening w.files arguments = .ok (.command k file rest))
    (hconfigured : (configure w file).1 = .ok base) :
    (∃ p, (call w arguments).ending = .broken (.logging p) ∧ (call w arguments).session = {}
      ∧ (call w arguments).files = w.files)
    ∨ ∃ console, Readied w file base console := by
  have hlog := Console.files_log_fresh w (configure w file).2
  obtain ⟨entries, hconfigured⟩ := exists_eq_of_fst_eq hconfigured
  rcases hlogging : ((Console.fresh w).log (configure w file).2).logger.setUp base.logging
    ((Console.fresh w).log (configure w file).2).sink with ⟨logger, sink, problem⟩
  cases problem with
  | none => exact Or.inr ⟨⟨[], sink, logger⟩, by rw [hconfigured], hlogging, rfl⟩
  | some p =>
    have hsink := Log.Logger.sink_setUp_of_problem (congrArg (fun r => r.2.2) hlogging)
    rw [hlogging] at hsink
    obtain rfl : sink = _ := hsink
    refine Or.inl ⟨p, ?_⟩
    rw [hconfigured] at hlogging hlog
    simp only [call_of_opening hopening, callCommand, hconfigured, hlogging]
    exact ⟨rfl, rfl, hlog⟩

theorem ne_nil_of_pathValue {k : Kind} {g : Given} {t : Text}
    (h : pathValue f k g = .ok (some t)) : t ≠ [] := by
  unfold pathValue at h
  simp only at h
  split at h
  · split at h <;> cases h
  · split at h
    · next hpresent =>
      cases h
      rintro rfl
      cases hpresent
    · cases h

/-- A path that is given is not empty, for it leads somewhere. -/
theorem ne_nil_of_readCall {k : Kind} (h : readCall f k arguments = .ok (some given)) {t : Text}
    (ht : given.path = some t) : t ≠ [] := by
  unfold readCall at h
  obtain ⟨g, -, h⟩ := exists_of_bind_eq_ok h
  split at h
  · cases h
  · obtain ⟨style, -, h⟩ := exists_of_bind_eq_ok h
    obtain ⟨path, hpath, h⟩ := exists_of_bind_eq_ok h
    split at h
    · cases h
      obtain rfl : path = some t := ht
      exact ne_nil_of_pathValue hpath
    · cases h

/-! ## Who is refused -/

/-- There is no path, no key, or no leave to go through a directory. -/
def Refused (f : Files) (c : Config) (given : Call) : Prop :=
  given.path = none ∨ ¬ c.client.HasKey
    ∨ ∃ t, given.path = some t ∧ f.isDirectory (Path.ofText t) = true ∧ given.recursive = false

theorem guarded_of_refused (h : Refused f c given) :
    ∃ message, Run.guarded f c given.recursive given.path = .error (.refused message) := by
  unfold Run.guarded
  split
  · next x t ht =>
    split
    · exact ⟨_, rfl⟩
    · next hkey =>
      rcases h with hnone | hno | ⟨t', ht', hdirectory, hrecursive⟩
      · rw [ht] at hnone
        cases hnone
      · exact absurd (by simpa [Client.Settings.HasKey] using hkey) hno
      · rw [ht] at ht'
        cases ht'
        rw [hdirectory, hrecursive, if_pos (by rfl)]
        exact ⟨_, rfl⟩
  · exact ⟨_, rfl⟩

/-- Whoever is not refused has a path, a key, and leave to go through a directory. -/
theorem exists_path_of_not_refused (h : ¬ Refused f c given) :
    ∃ t, given.path = some t ∧ c.client.HasKey
      ∧ (f.isDirectory (Path.ofText t) = true → given.recursive = true) := by
  rw [Refused, not_or, not_or, not_not] at h
  obtain ⟨hpath, hkey, hdirectory⟩ := h
  obtain ⟨t, ht⟩ := Option.ne_none_iff_exists'.mp hpath
  refine ⟨t, ht, hkey, fun hisDirectory => ?_⟩
  cases hrecursive : given.recursive with
  | true => rfl
  | false => exact absurd ⟨t, ht, hisDirectory, hrecursive⟩ hdirectory

/-! ## What is gone through -/

theorem exists_collect {p : Path} (h : f.isDirectory p = true) (extensions : List Text) :
    ∃ found, f.collect p extensions = .ok found := by
  unfold Files.isDirectory at h
  unfold Files.collect
  split at h
  · next hlook =>
    rw [hlook]
    exact ⟨_, rfl⟩
  · cases h

/-- There are files for a path wherever there is leave to go through it. -/
theorem exists_targets (h : f.isDirectory (Path.ofText written) = true → recursive = true)
    (extensions : List Text) : ∃ paths, (targets f extensions recursive written).1 = .ok paths := by
  unfold targets
  by_cases hdirectory : f.isDirectory (Path.ofText written) = true
  · obtain ⟨found, hfound⟩ := exists_collect hdirectory extensions
    simp only [if_pos hdirectory, if_pos (h hdirectory), hfound]
    exact ⟨_, rfl⟩
  · simp only [if_neg hdirectory]
    exact ⟨_, rfl⟩

/-- All files have been documented, and the spans are those that have been found in them. -/
theorem documented_of_ok {run : Path → Runner} {settings : Documenting.Settings} {paths : List Path}
    {s s' : State} {docs : List Documented}
    (h : documentFilesBy run settings paths s = (.ok docs, s')) :
    docs.map Documented.path = paths
      ∧ ∀ d ∈ docs, ∃ text,
        (Source.extract text d.path.toText settings.reader).1 = .ok ⟨text, d.spans⟩ := by
  induction paths generalizing s docs with
  | nil =>
    cases h
    exact ⟨rfl, List.forall_mem_nil _⟩
  | cons p rest ih =>
    obtain ⟨d, more, s₁, hone, hrest, rfl⟩ := documentFilesBy_ok_cases h
    obtain rfl := path_of_documentFileBy hone
    obtain ⟨text, -, hspans, -⟩ := documentFileBy_ok_cases hone
    obtain ⟨rfl, hmore⟩ := ih hrest
    exact ⟨rfl, List.forall_mem_cons.mpr ⟨⟨text, hspans⟩, hmore⟩⟩

/-! ## What is told -/

/-- A source cannot be understood, or there is no comment although all attempts have been made. -/
def IsReported : Documenting.Failure → Prop
  | .source e => e.isParsing = true
  | .generation (.exhausted _ _ _) => True
  | _ => False

theorem exists_told_of_isReported {e : Documenting.Failure} (h : IsReported e) :
    ∃ message, Stop.ofFailure e = .told message := by
  cases e with
  | source e' => exact ⟨_, if_pos h⟩
  | noWorkers => cases h
  | misplaced m => cases h
  | generation e' =>
    cases e' with
    | exhausted label attempts cause => exact ⟨_, rfl⟩
    | noAttempts allowed => cases h
    | prompt e'' => cases h
    | fault fault => cases h

/-- What a run comes to once its files have been documented. -/
def Run.finish (c : Config) (client : Client)
    (done : Except Documenting.Failure (List Documented) × State) : Work where
  result := match done.1 with
    | .ok docs => .ok (summary c.selection.dryRun docs (done.2.session.client.getD client).usage)
    | .error e => .error (.ofFailure e)
  entries := done.2.session.entries
  files := done.2.files
  shown := done.2.shown.flatMap fun e => shownText e.1 e.2
  session := done.2.session

theorem Run.workWith_eq_finish (w : World) (store : Prompt.Store) (c : Config) (client : Client)
    (f : Files) (written : Text) :
    workWith w store c client f written = finish c client
      (documentBy (fun _ => blocks w.asker store c.generation)
        (settings w.reader c) written (start store client f)) := rfl

/-- What has been printed line by line. -/
def printed (lines : List Text) : Text := lines.flatMap (· ++ ['\n'])

theorem conclude_of_ok (console : Console) (k : Kind) {done : Work} {lines : List Text}
    (h : done.result = .ok lines) :
    (console.conclude k done).ending = .exit 0
      ∧ (console.conclude k done).out = console.out ++ printed (done.shown ++ lines) := by
  simp only [Console.conclude, h]
  refine ⟨rfl, ?_⟩
  simp only [Console.close, Console.print, Console.log, printed, List.flatMap_append,
    List.append_assoc]

/-- How a call ends that is stopped. It does not end well. -/
def Stop.ending : Stop → Ending
  | broken b => .broken b
  | _ => .exit 1

theorem conclude_of_error (console : Console) (k : Kind) {done : Work} {stop : Stop}
    (h : done.result = .error stop) : (console.conclude k done).ending = stop.ending := by
  cases stop <;> simp only [Console.conclude, h] <;> rfl

theorem session_conclude (console : Console) (k : Kind) (done : Work) :
    (console.conclude k done).session = done.session := by
  unfold Console.conclude
  simp only
  split <;> rfl

/-- Work that is stopped before it begins leaves everything as it is. -/
theorem conclude_of_stopped (console : Console) (k : Kind) (stop : Stop) (f : Files) :
    let r := console.conclude k { result := .error stop, entries := [], files := f }
    r.ending = stop.ending ∧ r.out = console.out ∧ r.session = {} ∧ r.files = f := by
  refine ⟨conclude_of_error console k rfl, ?_, ?_, ?_⟩
  · cases stop <;> simp [Console.conclude, Console.print, Console.log, Console.complain,
      Console.close]
  · cases stop <;> rfl
  · cases stop <;> rfl

/-! ## Runs -/

theorem exists_documentBy_eq (w : World) (store : Prompt.Store) {paths : List Path}
    (run : Path → Runner) (client : Client)
    (htargets : (targets f c.selection.extensions recursive written).1 = .ok paths) :
    ∃ entries, Run.documentBy run (Run.settings w.reader c) written (Run.start store client f)
      = documentFilesBy run (Run.settings w.reader c) paths
        ((Run.start store client f).log entries) :=
  documentBy_of_targets run htargets

/-- Whatever comes of a run, the client has counted all responses that have been received. -/
theorem usage_documentBy {client : Client} {paths : List Path} {run : Path → Runner}
    (hclient : Client.ofSettings c.client = .ok client) (hkey : c.client.HasKey)
    (htargets : (targets f c.selection.extensions recursive written).1 = .ok paths)
    (hrun : ∀ p, Scheduled w.asker store c.generation (run p)) :
    let session :=
      (Run.documentBy run (Run.settings w.reader c) written (Run.start store client f)).2.session
    (session.client.getD client).usage = .ofAll (received w.service client session.asked) := by
  intro session
  have hfresh := Client.eq_of_ofSettings_eq_ok hclient
  have hsettings : client.settings = c.client := by rw [hfresh]
  obtain ⟨entries, hdone⟩ := exists_documentBy_eq w store run client htargets
  have hstart : Tallied w.service client ((Run.start store client f).log entries).session := by
    refine ⟨client, rfl, rfl, ?_, ?_⟩
    · rw [hfresh]
      exact Or.inl ⟨rfl, rfl⟩
    · rw [hfresh]
      rfl
  obtain ⟨c', hc', -, -, husage⟩ : Tallied w.service client session := by
    simp only [session, hdone]
    exact tallied_of_follows (hsettings ▸ hkey) (follows_documentFilesBy hrun paths _) hstart
  rw [hc']
  exact husage

/-- These lines tell how many files and functions have been documented, and how many tokens were used
by all responses that have been received. -/
def Run.TellsAll (service : List Question → Client.Request → Except Fault Client.Response)
    (client : Client) (dryRun : Bool) (docs : List Documented) (asked : List Question)
    (lines : List Text) : Prop :=
  let responses := received service client asked
  Tells dryRun docs.length (docs.map fun d => d.spans.length).sum
    (responses.map fun r => r.usage.input).sum (responses.map fun r => r.usage.output).sum lines

/--
How a run over `paths` ends by which `done` has come of the files, from `s` on.

* If all files have been documented it ends well, and tells how many files, and spans found in them,
  there were, and what all responses have used that have been received.
* If not, the files in front of some file have been documented, and this one has not; the run does not
  end well, and it ends in order if the source could not be understood or all attempts failed.
-/
structure Run.Ends (w : World) (c : Config) (client : Client) (run : Path → Runner)
    (paths : List Path) (s : State)
    (done : Except Documenting.Failure (List Documented) × State) (r : Outcome) : Prop where
  of_ok : ∀ docs, done.1 = .ok docs → r.ending = .exit 0
    ∧ docs.map Documented.path = paths
    ∧ (∀ d ∈ docs, ∃ text,
      (Source.extract text d.path.toText w.reader).1 = .ok ⟨text, d.spans⟩)
    ∧ ∃ lines, TellsAll w.service client c.selection.dryRun docs done.2.session.asked lines
      ∧ r.out = printed ((done.2.shown.flatMap fun e => Run.shownText e.1 e.2) ++ lines)
  of_error : ∀ e, done.1 = .error e → (∀ code, r.ending = .exit code → code = 1)
    ∧ (IsReported e → r.ending = .exit 1)
    ∧ ∃ front p back docs s₁, paths = front ++ p :: back
      ∧ documentFilesBy run (Run.settings w.reader c) front s = (.ok docs, s₁)
      ∧ docs.map Documented.path = front
      ∧ documentFileBy (run p) (Run.settings w.reader c) p s₁ = (.error e, done.2)

theorem Run.ends_documentBy {client : Client} {paths : List Path} {run : Path → Runner} {s : State}
    (hsilent : console.out = []) (hclient : Client.ofSettings c.client = .ok client)
    (hkey : c.client.HasKey)
    (htargets : (targets f c.selection.extensions recursive written).1 = .ok paths)
    (hrun : ∀ p, Scheduled w.asker store c.generation (run p)) :
    let done := documentBy run (settings w.reader c) written (start store client f)
    done = documentFilesBy run (settings w.reader c) paths s →
      Ends w c client run paths s done (console.conclude .run (finish c client done)) := by
  intro done hdone
  have husage := usage_documentBy hclient hkey htargets hrun
  constructor
  · intro docs hdocs
    have hresult : (finish c client done).result
        = .ok (summary c.selection.dryRun docs (done.2.session.client.getD client).usage) := by
      simp only [finish, hdocs]
    obtain ⟨hending, hout⟩ := conclude_of_ok console .run hresult
    obtain ⟨hpaths, hspans⟩ := documented_of_ok (hdone.symm.trans (Prod.ext hdocs rfl))
    have htells := tells_summary c.selection.dryRun docs
      (.ofAll (received w.service client done.2.session.asked))
    refine ⟨hending, hpaths, hspans, _, htells, ?_⟩
    rw [hout, hsilent, List.nil_append, husage]
    rfl
  · intro e he
    have hresult : (finish c client done).result = .error (.ofFailure e) := by
      simp only [finish, he]
    have hending := conclude_of_error console .run hresult
    obtain ⟨front, p, back, docs, s₁, hpaths, hfront, hp⟩ :=
      documentFilesBy_error_cases (hdone.symm.trans (Prod.ext he rfl))
    refine ⟨fun code hcode => ?_, fun hreported => ?_, front, p, back, docs, s₁, hpaths, hfront,
      (documented_of_ok hfront).1, hp⟩
    · rw [hcode, Stop.ending.eq_def] at hending
      split at hending
      · cases hending
      · exact Ending.exit.inj hending
    · obtain ⟨message, hstop⟩ := exists_told_of_isReported hreported
      rw [hending, hstop]
      rfl

/-- What becomes of a call for a run with a configuration, once its arguments have been read. -/
structure Run.Heard (w : World) (arguments : List Text) (console : Console) (c : Config)
    (given : Call) : Prop where
  /-- Nothing is printed but a complaint, nobody has been asked and nothing connected to. -/
  refused : Refused console.sink.files c given →
    (call w arguments).ending = .exit 1 ∧ (call w arguments).out = []
      ∧ (call w arguments).session = {} ∧ (call w arguments).files = console.sink.files
  /-- The limit of requests cannot be kept to, or the run is over the files that the path stands for,
  on one of the schedules. -/
  allowed : ¬ Refused console.sink.files c given →
    (∃ e, Client.ofSettings c.client = .error e ∧ (call w arguments).ending = .broken (.limit e)
      ∧ (call w arguments).session = {} ∧ (call w arguments).files = console.sink.files)
    ∨ ∃ client written paths, Client.ofSettings c.client = .ok client ∧ given.path = some written
      ∧ (let p := Path.ofText written
        if console.sink.files.isDirectory p then
          ∃ found, console.sink.files.collect p c.selection.extensions = .ok found
            ∧ paths = found.paths
        else paths = [p])
      ∧ (let store := Prompt.Store.packaged w.home
        let ask := w.asker
        let start := Run.start store client console.sink.files
        let done run := Run.documentBy run (Run.settings w.reader c) written start
        let outcome run := console.conclude .run (Run.finish c client (done run))
        call w arguments = outcome (fun _ => blocks ask store c.generation)
          ∧ ∀ run, (∀ p, Scheduled ask store c.generation (run p)) → ∃ entries,
            Run.Ends w c client run paths (start.log entries) (done run) (outcome run))

theorem Run.heard_of_readied (hopening : opening w.files arguments = .ok (.command .run file rest))
    (hready : Readied w file base console)
    (hread : readCall console.sink.files .run rest = .ok (some given))
    (hc : base.withOverrides given.overrides = .ok c) : Heard w arguments console c given := by
  have hcall := call_eq_conclude hopening hready hread
  constructor
  · intro hrefused
    obtain ⟨message, hguarded⟩ := guarded_of_refused hrefused
    have hwork : Command.work w console.sink.files base .run given
        = { result := .error (.refused message), entries := [], files := console.sink.files } := by
      simp only [Command.work, Run.work, hc, hguarded]
    rw [hcall, hwork]
    obtain ⟨hending, hout, hsession, hfiles⟩ :=
      conclude_of_stopped console .run (.refused message) console.sink.files
    exact ⟨hending, hout.trans hready.silent, hsession, hfiles⟩
  · intro hallowed
    obtain ⟨written, hpath, hkey, hdirectory⟩ := exists_path_of_not_refused hallowed
    have hguarded := guarded_eq_ok (ne_nil_of_readCall hread hpath) hkey hdirectory
    cases hclient : Client.ofSettings c.client with
    | error e =>
      refine Or.inl ⟨e, rfl, ?_⟩
      have hwork : Command.work w console.sink.files base .run given
          = { result := .error (.broken (.limit e)), entries := [], files := console.sink.files } := by
        simp only [Command.work, Run.work, hc, hpath, hguarded, hclient]
      rw [hcall, hwork]
      obtain ⟨hending, -, hsession, hfiles⟩ :=
        conclude_of_stopped console .run (.broken (.limit e)) console.sink.files
      exact ⟨hending, hsession, hfiles⟩
    | ok client =>
      obtain ⟨paths, htargets⟩ := exists_targets hdirectory c.selection.extensions
      refine Or.inr ⟨client, written, paths, rfl, hpath, ?_, ?_, ?_⟩
      · rcases targets_cases htargets with ⟨found, hisDirectory, -, hfound, rfl⟩ | ⟨hfile, rfl⟩
        · rw [if_pos hisDirectory]
          exact ⟨found, hfound, rfl⟩
        · rw [if_neg (by rw [hfile]; exact Bool.false_ne_true)]
      · have hwork : Command.work w console.sink.files base .run given
            = workWith w (.packaged w.home) c client console.sink.files written := by
          simp only [Command.work, Run.work, hc, hpath, hguarded, hclient]
        rw [hcall, hwork, workWith_eq_finish]
      · intro run hrun
        obtain ⟨entries, hdone⟩ := exists_documentBy_eq w (.packaged w.home) run client htargets
        exact ⟨entries, ends_documentBy hready.silent hclient hkey htargets hrun hdone⟩

/-- A run that ends well has documented all files that its path stands for, and tells what all responses
have used that it has received. -/
theorem Run.Heard.of_exit_zero (h : Heard w arguments console c given)
    (hwell : (call w arguments).ending = .exit 0) :
    ∃ written client docs shown lines, given.path = some written
      ∧ (let p := Path.ofText written
        if console.sink.files.isDirectory p then
          ∃ found, console.sink.files.collect p c.selection.extensions = .ok found
            ∧ docs.map Documented.path = found.paths
        else docs.map Documented.path = [p])
      ∧ TellsAll w.service client c.selection.dryRun docs (call w arguments).session.asked lines
      ∧ (call w arguments).out = printed (shown ++ lines) := by
  have hallowed : ¬ Refused console.sink.files c given := by
    intro hrefused
    cases hwell.symm.trans (h.refused hrefused).1
  rcases h.allowed hallowed with ⟨e, -, hbroken, -⟩ |
    ⟨client, written, paths, -, hwritten, hpaths, hcall, hends⟩
  · cases hwell.symm.trans hbroken
  · let store := Prompt.Store.packaged w.home
    let run : Path → Runner := fun _ => blocks w.asker store c.generation
    let done := documentBy run (settings w.reader c) written
      (start store client console.sink.files)
    obtain ⟨entries, hends⟩ := hends run fun _ => scheduled_blocks _ _ _
    rw [← hcall] at hends
    have hsession : (call w arguments).session = done.2.session := by
      rw [hcall]
      exact session_conclude _ _ _
    cases hdone : done.1 with
    | error e => exact absurd ((hends.of_error e hdone).1 0 hwell) (by decide)
    | ok docs =>
      obtain ⟨-, hdocs, -, lines, htells, hout⟩ := hends.of_ok docs hdone
      refine ⟨written, client, docs, _, lines, hwritten, ?_, hsession ▸ htells, hout⟩
      rw [hdocs]
      exact hpaths

/-- The configuration of the sample; it keeps no log. -/
theorem exists_configure_surveyed : ∃ base : Config,
    (configure surveyed (some "src/c.yaml".toList)).1 = .ok base
      ∧ base.logging.path? surveyed.files.here = none ∧ base.selection = {} := by
  have hconfigured : (configure surveyed (some "src/c.yaml".toList)).1.toOption.map (fun c =>
      (c.logging.path? surveyed.files.here, c.selection)) = some (none, {}) := by
    decide +kernel
  obtain ⟨base, hbase, hsettings⟩ := exists_of_toOption_map hconfigured
  exact ⟨base, hbase, Prod.mk.inj hsettings⟩

/-- The number with which a call ends that does not break down. -/
def Ending.code? : Ending → Option Nat
  | exit code => some code
  | broken _ => none

theorem Ending.code?_eq_some_iff {e : Ending} {code : Nat} : e.code? = some code ↔ e = .exit code := by
  cases e with
  | exit n => simp [code?]
  | broken b => simp [code?]

end DocWeave.Command
