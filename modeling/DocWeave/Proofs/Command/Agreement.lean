import DocWeave.Proofs.Command.Telling
import DocWeave.Proofs.Command.DryRun
import DocWeave.Proofs.Command.Planning

/-!
# The commands agree

Three commands go through the same files: one lists the spans, one prices the prompts, and one asks
with them and writes the comments. Each of them has its own loop, and the last one writes files while
it is at it. Still they are about the same spans and prompts, file by file.

* `Run.documentBy`, `documentBy_of_targets` — a run on any schedule goes through the same files
* `Run.Fulfils`, `fulfils_documentBy` — what a run does if every answer is accepted
* `commands_agree` — that it is what the other commands have told
-/

namespace DocWeave.Command

open Documenting Generation

variable {w : World} {f : Files} {store : Prompt.Store} {written : Text} {recursive : Bool}
  {paths : List Path}

/-! ## Runs on any schedule -/

/-- Documents what a path leads to. The comments of the file at `p` are made by `run p`. -/
def Run.documentBy (run : Path → Runner) (settings : Documenting.Settings) (written : Text)
    (s : State) : Except Documenting.Failure (List Documented) × State :=
  if s.files.isDirectory (Path.ofText written) then documentDirectoryBy run settings written s
  else
    let (d, s) := documentFileBy (run (Path.ofText written)) settings (Path.ofText written) s
    (d.map fun d => [d], s)

theorem Run.document_eq_documentBy (ask : Asker) (store : Prompt.Store) (reader : Reader)
    (c : Config) (written : Text) (s : State) :
    document ask store reader c written s
      = documentBy (fun _ => blocks ask store c.generation) (settings reader c) written s := rfl

/-- A run goes through the files that the other commands go through. -/
theorem documentBy_of_targets (run : Path → Runner) {settings : Documenting.Settings} {s : State}
    (h : (targets s.files settings.selection.extensions recursive written).1 = .ok paths) :
    ∃ entries, Run.documentBy run settings written s
      = documentFilesBy run settings paths (s.log entries) := by
  unfold Run.documentBy
  rcases targets_cases h with ⟨found, hdirectory, -, hfound, rfl⟩ | ⟨hfile, rfl⟩
  · rw [if_pos hdirectory]
    exact ⟨_, documentDirectoryBy_of_ok hfound⟩
  · refine ⟨[], ?_⟩
    have hsilent : s.log [] = s := by simp [State.log, Session.log]
    rw [if_neg (by rw [hfile]; exact Bool.false_ne_true), hsilent]
    rcases hone : documentFileBy (run (Path.ofText written)) settings (Path.ofText written) s with
      ⟨result, s'⟩
    cases result with
    | error e =>
      rw [documentFilesBy_cons_error hone]
      rfl
    | ok d =>
      rw [documentFilesBy_cons_ok hone]
      rfl

/-- A run that has a path, a key and leave to go through a directory is not refused. -/
theorem guarded_eq_ok {c : Config} (hwritten : written ≠ []) (hkey : c.client.HasKey)
    (hdirectory : f.isDirectory (Path.ofText written) = true → recursive = true) :
    Run.guarded f c recursive (some written) = .ok written := by
  obtain ⟨x, t, rfl⟩ := List.exists_cons_of_ne_nil hwritten
  have hhas : (c.client.key.getD []).isEmpty = false := by
    rw [List.isEmpty_eq_false_iff]
    exact hkey
  have hallowed : (f.isDirectory (Path.ofText (x :: t)) && !recursive) = false := by
    cases hisDirectory : f.isDirectory (Path.ofText (x :: t)) with
    | false => rfl
    | true => simp [hdirectory hisDirectory]
  simp only [Run.guarded, hhas, hallowed, Bool.false_eq_true, if_false]

/-! ## What a run does -/

/-- What has been documented are these spans of these files, and what has been sent to the service,
the newest in front, are requests with these prompts, one with each of them; in their order, if
`inOrder` holds. -/
structure Run.Fulfils (planned : Report) (prompts : List Text) (inOrder : Prop)
    (docs : List Documented) (sent : List Client.Request) : Prop where
  reported : docs.map (fun d => (d.path, d.spans)) = planned
  counted : Run.functionCount docs = planned.spanCount
  prompted : (sent.map Client.Request.prompt).Perm prompts
  ordered : inOrder → (sent.map Client.Request.prompt).reverse = prompts

/-- As many functions have been documented as spans have been listed. -/
theorem functionCount_of_spans {docs : List Documented} {planned : Report}
    (h : docs.map (fun d => (d.path, d.spans)) = planned) :
    Run.functionCount docs = planned.spanCount := by
  rw [← h, Report.spanCount, List.flatMap_map]
  rfl

section Welcome

variable {c : Config} {reader : Reader} {style : Text} (plan : Plan f store reader style paths)
  (hstyle : c.generation.style = style) (hsound : c.Sound) (hreader : Fitting reader)
  (hplaces : f.Targets paths) {client : Client} (hclient : Client.ofSettings c.client = .ok client)
  (hkey : c.client.HasKey)
  (htargets : (targets f c.selection.extensions recursive written).1 = .ok paths)

include hstyle hsound hreader hplaces hclient hkey htargets

/-- Where every answer is accepted, a run does what has been planned, on whatever schedule. -/
theorem fulfils_documentBy {run : Path → Runner}
    (hrun : ∀ p, Scheduled w.asker store c.generation (run p)) :
    let r := Run.documentBy run (Run.settings reader c) written (Run.start store client f)
    AllWelcome (servedReply w.service client) r.2.session.asked →
      ∃ docs, r.1 = .ok docs
        ∧ Run.Fulfils plan.report plan.prompts.flatten (c.generation.maxWorkers = 1) docs
          r.2.session.sent := by
  intro r hwelcome
  have hsettings : client.settings = c.client := by rw [Client.eq_of_ofSettings_eq_ok hclient]
  have hask : Answers w.asker (Serves client.settings)
      (servedReply w.service client) :=
    answers_served w.timer w.now w.service (hsettings ▸ hkey)
  obtain ⟨entries, hr⟩ : ∃ entries, r = documentFilesBy run (Run.settings reader c) paths
      ((Run.start store client f).log entries) := documentBy_of_targets run htargets
  have hready : Serves client.settings ((Run.start store client f).log entries).session := by
    refine ⟨client, rfl, rfl, Or.inl ?_⟩
    rw [Client.eq_of_ofSettings_eq_ok hclient]
    exact ⟨rfl, rfl⟩
  have hworkers : 0 < (Run.settings reader c).generation.maxWorkers := hsound.maxWorkers
  have hprepares := plan.prepares hstyle hsound.maxRetries
  have hquestions := plan.map_prompt_flatMap_questions hstyle hsound.maxRetries
  rw [hr] at hwelcome ⊢
  obtain ⟨docs, s', hdone, hspans, order, hperm, hordered, hasked⟩ :=
    documentFilesBy_of_allWelcome hask hreader hprepares hrun hworkers hplaces plan.load hready
      hwelcome
  -- nothing has been asked before, and what is asked is sent
  have hall : s'.session.asked = order.reverse := hasked.trans (List.append_nil _)
  have hrun' : ∀ p, Scheduled w.asker store (Run.settings reader c).generation (run p) := hrun
  have hfollows := follows_documentFilesBy hrun' paths ((Run.start store client f).log entries)
  rw [hdone] at hfollows ⊢
  have hsent : s'.session.sent.map Client.Request.prompt = (order.map Question.prompt).reverse := by
    rw [sendsAsked_of_follows hfollows rfl, hall, List.map_reverse]
  refine ⟨docs, rfl, hspans, functionCount_of_spans hspans, ?_, fun hone => ?_⟩
  · rw [hsent, ← hquestions]
    exact (List.reverse_perm _).trans (hperm.map _)
  · rw [hsent, List.reverse_reverse, hordered hone, ← hquestions]
    rfl

/-- A run that has a path and a key is not refused, and where every answer is accepted it does what
has been planned. -/
theorem fulfils_work {base : Config} {o : Config.Overrides} (hc : base.withOverrides o = .ok c)
    (hw : w.reader = reader) (hwritten : written ≠ []) :
    let r := Run.work w f store base o recursive (some written)
    AllWelcome (servedReply w.service client) r.session.asked →
      ∃ docs lines input output, r.result = .ok lines
        ∧ Run.Tells c.selection.dryRun paths.length plan.report.spanCount input output lines
        ∧ Run.Fulfils plan.report plan.prompts.flatten (c.generation.maxWorkers = 1) docs
          r.session.sent := by
  have hguarded : Run.guarded f c recursive (some written) = .ok written := by
    refine guarded_eq_ok hwritten hkey fun hdirectory => ?_
    rcases targets_cases htargets with ⟨-, -, hrecursive, -⟩ | ⟨hfile, -⟩
    · exact hrecursive
    · rw [hfile] at hdirectory
      cases hdirectory
  -- the program itself works on one of the schedules
  have hrun := fulfils_documentBy (w := w) plan hstyle hsound hreader hplaces hclient hkey htargets
    fun _ => scheduled_blocks w.asker store c.generation
  subst hw
  simp only [Run.work, hc, hguarded, hclient, Run.workWith, Run.document_eq_documentBy]
  intro hwelcome
  obtain ⟨docs, hdone, hfulfils⟩ := hrun hwelcome
  rw [hdone]
  have hfiles : docs.length = paths.length := by
    rw [← plan.length_report, ← hfulfils.reported, List.length_map]
  have htells (u : Client.Usage) : Run.Tells c.selection.dryRun paths.length plan.report.spanCount
      u.input u.output (Run.summary c.selection.dryRun docs u) := by
    rw [← hfiles, ← hfulfils.counted, Run.functionCount_eq_sum]
    exact tells_summary _ docs u
  exact ⟨docs, _, _, _, rfl, htells _, hfulfils⟩

end Welcome

/-! ## The three commands -/

/-- Whatever they come to, the other commands change no file, ask nothing and use no client. -/
theorem work_of_ne_run (w : World) (f : Files) (c : Config) {k : Kind} (hk : k ≠ .run) (call : Call) :
    (work w f c k call).files = f ∧ (work w f c k call).session = {} := by
  cases k with
  | run => exact absurd rfl hk
  | spans => exact ⟨rfl, rfl⟩
  | estimate =>
    simp only [work, Estimate.work]
    split
    · exact ⟨rfl, rfl⟩
    · split
      · exact ⟨rfl, rfl⟩
      · exact ⟨rfl, rfl⟩

/-- A world with two scripts and a configuration, in which every answer is the same comment. -/
def surveyed : World where
  files := (State.ofDirectory "src".toList [
    ("b.js".toList, Encoding.encode "x;\n".toList),
    ("c.yaml".toList, Encoding.encode "api:\n  rate_limit_rpm: 1\n".toList),
    ("a.js".toList, Encoding.encode "function f() {}\n".toList)]).files
  environment name := if name = "ANTHROPIC_API_KEY" then some ['k'] else none
  service _ _ := .ok { blocks := ["/** d */".toList], usage := {}, model := [], stopReason := none }
  home := []
  now := 0.0
  time := default

/-- The spans of the two scripts, as JSON. -/
def surveyedSpans : Text :=
  ("\x7b\n  \"src/a.js\": [\n    \x7b\n      \"name\": \"f\",\n      \"kind\": \"function\",\n"
    ++ "      \"start_offset\": 0,\n      \"end_offset\": 15,\n      \"line_number\": 1\n    \x7d\n"
    ++ "  ],\n  \"src/b.js\": []\n\x7d").toList

end DocWeave.Command
