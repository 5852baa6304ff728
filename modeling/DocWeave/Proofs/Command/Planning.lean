import DocWeave.Proofs.Client.Accounting
import DocWeave.Proofs.Config.Validity
import DocWeave.Proofs.Documenting.FirstAnswers
import DocWeave.Proofs.Documenting.WritingBack
import DocWeave.Proofs.Prompt.Filling

/-!
# What is known before anything is asked

The files that a path stands for, the spans in them and the prompts for these are the same for all
commands. Where all files can be read and understood, the spans are what `Spans.report` lists, the
prompts are what `Estimate.quote` prices, and they are what is asked of a model as well.

* `targets_cases`, `targets_of_load` — the files that a path stands for
* `Plan`, `exists_plan` — the scripts and the prompts
* `Plan.report_eq`, `Plan.exists_quote` — they are what is listed, and what is priced
* `Plan.map_prompt_questions` — and they are what is asked first
-/

namespace DocWeave.Command

open Documenting Generation

variable {f : Files} {store : Prompt.Store} {reader : Reader} {c : Config} {written : Text}
  {recursive : Bool} {paths : List Path} {p : Path} {script : Source.Parsed}

/-- Nothing stops a list of which every item comes to a result. -/
theorem each_of_forall_mem {α β : Type} {step : α → Except Stop β × List Log.Entry} {result : α → β}
    {as : List α} (h : ∀ a ∈ as, (step a).1 = .ok (result a)) :
    (each step as).1 = .ok (as.map result) := by
  induction as with
  | nil => rfl
  | cons a rest ih =>
    obtain ⟨hone, hrest⟩ := List.forall_mem_cons.mp h
    rw [each]
    obtain ⟨entries, hstep⟩ := exists_eq_of_fst_eq hone
    simp only [hstep, ih hrest]
    rfl

/-! ## The files -/

/-- A path stands for all files that have been collected below it, or for itself. -/
theorem targets_cases {extensions : List Text}
    (h : (targets f extensions recursive written).1 = .ok paths) :
    (∃ found, f.isDirectory (Path.ofText written) = true ∧ recursive = true
      ∧ f.collect (Path.ofText written) extensions = .ok found ∧ paths = found.paths)
    ∨ (f.isDirectory (Path.ofText written) = false ∧ paths = [Path.ofText written]) := by
  unfold targets at h
  simp only at h
  split at h
  · next hdirectory =>
    split at h
    · next hrecursive =>
      split at h
      · next found hfound =>
        cases h
        exact Or.inl ⟨found, hdirectory, hrecursive, hfound, rfl⟩
      · cases h
    · cases h
  · next hdirectory =>
    cases h
    exact Or.inr ⟨Bool.eq_false_iff.mpr hdirectory, rfl⟩

theorem leads_of_load (hp : p.Plain) (h : (Source.load f p reader).1 = .ok script) :
    ∃ location, f.Leads p location := by
  obtain ⟨hread, -⟩ := load_ok_cases h
  obtain ⟨bytes, -, hbytes, -, -⟩ := Documenting.read_ok_cases hread
  rw [Path.ofText_toText_of_plain hp] at hbytes
  obtain ⟨location, hplace, hfind⟩ := Files.read_ok_cases hbytes
  exact ⟨location, hplace, bytes, hfind⟩

/-- The files that a path stands for are there, and no two of them are the same. -/
theorem targets_of_load (hroot : f.root.WellNamed) {extensions : List Text}
    (h : (targets f extensions recursive written).1 = .ok paths)
    (hload : ∀ p ∈ paths, ∃ script, (Source.load f p reader).1 = .ok script) : f.Targets paths := by
  have hplain := Path.plain_ofText written
  rcases targets_cases h with ⟨found, -, -, hfound, rfl⟩ | ⟨-, rfl⟩
  · exact Files.targets_of_collect hroot hplain hfound
  · obtain ⟨script, hscript⟩ := hload _ List.mem_cons_self
    exact {
      plain := List.forall_mem_singleton.mpr hplain
      leads := List.forall_mem_singleton.mpr (leads_of_load hplain hscript)
      apart := List.pairwise_singleton _ _ }

/-! ## The spans -/

/-- A file that can be read is there. -/
theorem parse_of_load (hp : p.Plain) (h : (Source.load f p reader).1 = .ok script) :
    (Source.parse f p.toText reader).1 = .ok script := by
  obtain ⟨hread, hextract⟩ := load_ok_cases h
  have hpresent : f.isPresent p = true := by
    obtain ⟨bytes, -, hbytes, -, -⟩ := Documenting.read_ok_cases hread
    rw [Path.ofText_toText_of_plain hp] at hbytes
    unfold Files.read at hbytes
    unfold Files.isPresent
    split at hbytes
    · next hlook => rw [hlook]; rfl
    · cases hbytes
    · cases hbytes
  unfold Source.parse
  simp only [Path.ofText_toText_of_plain hp, hpresent, if_true, hread]
  exact hextract

/-! ## The plan -/

/-- What is known of files before anything is asked: the script that each of them holds, and the
prompt for every span in a style. -/
structure Plan (f : Files) (store : Prompt.Store) (reader : Reader) (style : Text)
    (paths : List Path) where
  scriptOf : Path → Source.Parsed
  promptOf : Span → Text
  load : ∀ p ∈ paths, (Source.load f p reader).1 = .ok (scriptOf p)
  prompt : ∀ span, store.prompt span.text span.docKind style span.name = .ok (promptOf span)

theorem exists_plan {style : Text} (hstyle : style ∈ Config.styleWords) (home : Text)
    (hload : ∀ p ∈ paths, ∃ script, (Source.load f p reader).1 = .ok script) :
    Nonempty (Plan f (.packaged home) reader style paths) := by
  have hknown : style ∈ Prompt.styles.map Prod.fst := hstyle
  choose promptOf hprompt using fun span : Span =>
    Prompt.Store.exists_prompt hknown home span.text span.docKind span.name
  have : Nonempty Source.Parsed := ⟨⟨[], []⟩⟩
  choose! scriptOf hscript using hload
  exact ⟨⟨scriptOf, promptOf, hscript, hprompt⟩⟩

namespace Plan

variable {style : Text} (plan : Plan f store reader style paths)

/-- The spans of all files. -/
def report : Report := paths.map fun p => (p, (plan.scriptOf p).spans)

/-- The prompts, file by file: one for the file, and then one for every span. -/
def prompts : List (List Text) :=
  paths.map fun p => (jobs (plan.scriptOf p)).map plan.promptOf

theorem length_report : plan.report.length = paths.length := List.length_map _

theorem length_prompts : plan.prompts.length = paths.length := List.length_map _

/-- The spans of every file are in the order of their starts. -/
theorem ascending : ∀ e ∈ plan.report, e.2.Pairwise fun a b => a.start ≤ b.start := by
  refine List.forall_mem_map.mpr fun p hp => ?_
  obtain ⟨-, hextract⟩ := load_ok_cases (plan.load p hp)
  exact spans_ascending hextract

/-- There are as many prompts as there are files and spans. -/
theorem length_flatten_prompts :
    plan.prompts.flatten.length = paths.length + plan.report.spanCount := by
  have hall (ps : List Path) :
      (ps.map fun p => (jobs (plan.scriptOf p)).map plan.promptOf).flatten.length
        = ps.length + Report.spanCount (ps.map fun p => (p, (plan.scriptOf p).spans)) := by
    unfold Report.spanCount
    induction ps with
    | nil => rfl
    | cons p rest ih =>
      simp only [List.map_cons, List.flatten_cons, List.flatMap_cons, List.length_append,
        List.length_map, List.length_cons] at ih ⊢
      rw [ih, jobs, List.length_cons]
      omega
  exact hall paths

/-! ## What is told -/

section Told

variable (htargets : (targets f c.selection.extensions recursive written).1 = .ok paths)

include htargets

/-- The spans are what is listed. -/
theorem report_eq (hplain : ∀ p ∈ paths, p.Plain) :
    (Spans.report f reader c recursive written).1 = .ok plan.report := by
  have hfile : ∀ p ∈ paths,
      (Spans.fileReport f reader p).1 = .ok (p, (plan.scriptOf p).spans) := by
    intro p hp
    obtain ⟨entries, hparse⟩ :=
      exists_eq_of_fst_eq (parse_of_load (hplain p hp) (plan.load p hp))
    rw [Spans.fileReport, hparse]
  obtain ⟨entries, htargets⟩ := exists_eq_of_fst_eq htargets
  rw [Spans.report, htargets]
  exact each_of_forall_mem hfile

/-- The prompts are what is priced, file by file. -/
theorem exists_quote (hstyle : c.generation.style = style) {client : Client}
    (hclient : Client.ofSettings c.client = .ok client)
    (hprice : (Pricing.ofModel? c.client.model).isSome) :
    ∃ quote, (Estimate.quote f store reader c recursive written).1 = .ok quote
      ∧ quote.files.map (List.map Estimate.Priced.prompt) = plan.prompts := by
  obtain ⟨pricing, hpricing⟩ := Option.isSome_iff_exists.mp hprice
  have hsettings : client.settings = c.client := by rw [Client.eq_of_ofSettings_eq_ok hclient]
  -- what a prompt costs depends on its length alone
  have hpriced (length : Nat) :
      ∃ price, client.estimate? length Pricing.Estimate.usualOutput none = some price := by
    simp only [Client.estimate?, Pricing.estimate?, hsettings, hpricing, Option.map_some]
    exact ⟨_, rfl⟩
  choose priceOf hpriceOf using hpriced
  let priced (span : Span) : Estimate.Priced :=
    ⟨plan.promptOf span, priceOf (plan.promptOf span).length⟩
  have hspan (span : Span) :
      (Estimate.priceSpan store style client span).1 = .ok (priced span) := by
    simp only [Estimate.priceSpan, plan.prompt span, hpriceOf, priced]
  have hfile : ∀ p ∈ paths, (Estimate.priceFile f store reader style client p).1
      = .ok ((jobs (plan.scriptOf p)).map priced) := by
    intro p hp
    obtain ⟨entries, hscript⟩ := exists_eq_of_fst_eq (plan.load p hp)
    rw [Estimate.priceFile, hscript]
    exact each_of_forall_mem fun span _ => hspan span
  obtain ⟨entries, htargets⟩ := exists_eq_of_fst_eq htargets
  simp only [Estimate.quote, htargets, hclient, hstyle, each_of_forall_mem hfile]
  refine ⟨_, rfl, ?_⟩
  rw [List.map_map]
  exact List.map_congr_left fun p _ => List.map_map

end Told

/-! ## What is asked -/

section Asked

variable {settings : Generation.Settings} (hstyle : settings.style = style)
  (hretries : 1 ≤ settings.maxRetries)

include plan hstyle hretries

theorem prepared_job (number : Nat) (span : Span) :
    (job store settings number span).prepared
      = .ok (.ofPrompt settings settings.maxRetries span.name span.docKind (plan.promptOf span)) := by
  have hallowed : ¬ settings.maxRetries < 1 := by omega
  simp only [job, prepare, Option.getD_some, if_neg hallowed, hstyle, plan.prompt span]

theorem prepares : Prepares store settings :=
  fun number span => ⟨_, plan.prepared_job hstyle hretries number span⟩

/-- What is asked first about a script are its prompts, in this order. -/
theorem map_prompt_questions (script : Source.Parsed) :
    (questions store settings script).map Question.prompt = (jobs script).map plan.promptOf := by
  have hfirst (number : Nat) (span : Span) :
      (job store settings number span).first?.map Question.prompt = some (plan.promptOf span) := by
    rw [Job.first?, plan.prepared_job hstyle hretries]
    rfl
  unfold questions commentJobs
  rw [List.map_filterMap, List.mapIdx_eq_zipIdx_map, List.filterMap_map]
  calc (jobs script).zipIdx.filterMap _
      = (jobs script).zipIdx.filterMap fun e => some (plan.promptOf e.1) :=
        List.filterMap_congr fun e _ => hfirst e.2 e.1
    _ = ((jobs script).zipIdx.map Prod.fst).map plan.promptOf := by
        rw [List.filterMap_eq_map', List.map_map]
        rfl
    _ = (jobs script).map plan.promptOf := by rw [List.zipIdx_map_fst]

/-- What is asked first about all files are all prompts. -/
theorem map_prompt_flatMap_questions :
    (paths.flatMap fun p => questions store settings (plan.scriptOf p)).map Question.prompt
      = plan.prompts.flatten := by
  rw [List.map_flatMap]
  exact List.flatMap_congr fun p _ => plan.map_prompt_questions hstyle hretries (plan.scriptOf p)

end Asked

end Plan

end DocWeave.Command
