import DocWeave.Proofs.Documenting.Directory
import DocWeave.Proofs.Extraction.Reader
import DocWeave.Proofs.Generation.FirstAnswers

/-!
# Files for which every answer is accepted

Files that are there and that can be read and understood are documented if every answer is accepted,
whether they are written or not: nothing else is in the way. What has been asked then are the
questions about all of them.

* `exists_splice` — spans that have been found start in the text, so that comments can be put there
* `documentFileBy_of_allWelcome`, `documentFilesBy_of_allWelcome` — one file, and one after the other
-/

namespace DocWeave.Documenting

open Generation

variable {ask : Asker} {Ready : Session → Prop} {reply : List Question → Except Fault Text}
  {store : Prompt.Store} {settings : Settings} {p : Path} {script : Source.Parsed} {s s' : State}

/-! ## Questions -/

/-- What is asked about a script if no question is asked twice: for a comment on the file, and then
for one on every span. -/
def questions (store : Prompt.Store) (settings : Generation.Settings) (script : Source.Parsed) :
    List Question :=
  (commentJobs store settings (jobs script)).filterMap Job.first?

/-- The settings allow for attempts, and all prompts can be made. -/
def Prepares (store : Prompt.Store) (settings : Generation.Settings) : Prop :=
  ∀ number span, ∃ t, (job store settings number span).prepared = .ok t

theorem Prepares.of_mem_commentJobs {settings : Generation.Settings} (h : Prepares store settings)
    {spans : List Span} : ∀ j ∈ commentJobs store settings spans, ∃ t, j.prepared = .ok t := by
  intro j hj
  obtain ⟨number, hnumber, rfl⟩ := List.mem_mapIdx.mp hj
  exact h number _

/-! ## One file -/

/-- Comments can be put in front of spans that start in the text. -/
theorem exists_splice (hstarts : ∀ s ∈ script.spans, 0 ≤ s.start ∧ s.start ≤ script.text.length)
    (bs : List Text) :
    ∃ content,
      Splice.splice script.text (bs.headD []) (placements script.spans bs) = .ok content := by
  refine ⟨_, Splice.splice_eq_ok_iff.mpr ⟨fun q hq => ?_, rfl⟩⟩
  obtain ⟨⟨span, block⟩, hmem, rfl⟩ := List.mem_map.mp hq
  exact hstarts span (List.of_mem_zip hmem).1

theorem documentScript_of_allWelcome {run : Runner} {settings : Generation.Settings}
    (hask : Answers ask Ready reply) (hprepares : Prepares store settings)
    (hrun : Scheduled ask store settings run) (hworkers : 0 < settings.maxWorkers)
    (hstarts : ∀ s ∈ script.spans, 0 ≤ s.start ∧ s.start ≤ script.text.length) {s : Session}
    (hs : Ready s) (hwelcome : AllWelcome reply (documentScript run settings script s).2.asked) :
    let r := documentScript run settings script s
    (∃ content, r.1 = .ok content) ∧ Ready r.2
      ∧ s.Asked (settings.maxWorkers = 1) (questions store settings script) r.2 := by
  have hone : settings.maxWorkers = 1 → settings.maxWorkers.toNat = 1 := by omega
  have houtcome := hrun hworkers (jobs script) s
  unfold documentScript at hwelcome ⊢
  rw [if_neg (by omega)] at hwelcome ⊢
  rcases hr : run (jobs script) s with ⟨result, s₁⟩
  rw [hr] at houtcome hwelcome
  have hpool (h : AllWelcome reply s₁.asked) := Pool.outcome_of_allWelcome hask
    hprepares.of_mem_commentJobs hs houtcome h
  cases result with
  | error e =>
    obtain ⟨⟨bs, hbs⟩, -⟩ := hpool hwelcome
    cases hbs
  | ok bs =>
    obtain ⟨content, hcontent⟩ := exists_splice hstarts bs
    unfold placements at hcontent
    simp only [hcontent] at hwelcome ⊢
    obtain ⟨-, hready, order, hperm, heq, hasked⟩ := hpool hwelcome
    exact ⟨⟨content, rfl⟩, hask.log s₁ _ hready, order, hperm, fun h => heq (hone h), hasked⟩

/-- To files that are there every text is delivered, and only something may be logged then. -/
theorem exists_deliver {location : List Text} (hleads : s.files.Leads p location) (content : Text) :
    ∃ d s' entries, deliver settings p script content s = (.ok d, s') ∧ d.path = p
      ∧ d.spans = script.spans ∧ s'.session = s.session.log entries := by
  have hsilent : s.session = s.session.log [] := by simp [Session.log]
  unfold deliver
  split
  · simp only
    split
    · exact ⟨_, _, [], rfl, rfl, rfl, hsilent⟩
    · exact ⟨_, _, _, rfl, rfl, rfl, rfl⟩
  · obtain ⟨g, hwrite, -, -⟩ := Files.exists_write hleads (Encoding.encode content)
    simp only [hwrite]
    exact ⟨_, _, _, rfl, rfl, rfl, rfl⟩

theorem draft_of_load (run : Runner)
    (h : (Source.load s.files p settings.reader).1 = .ok script) :
    ∃ entries,
      let r := documentScript run settings.generation script (s.session.log entries)
      draft run settings p s
        = (r.1.map (Prod.mk script), { s with session := r.2 }) := by
  refine ⟨[entry .info ["Processing ", .path p.toText]]
    ++ (Source.load s.files p settings.reader).2, ?_⟩
  unfold draft
  simp only [State.log, h, Session.log, List.append_assoc]

/-- Once a file has been documented, the other files are where they were and hold what they held,
whether it has been written or not. -/
theorem kept_rest {run : Runner} {rest : List Path} {d : Documented}
    (ht : s.files.Targets (p :: rest)) (h : documentFileBy run settings p s = (.ok d, s')) :
    s'.files.Targets rest ∧ ∀ q ∈ rest, s'.files.read q = s.files.read q := by
  obtain ⟨-, -, -, -, -, hdry, hwrite⟩ := documentFileBy_ok_cases h
  cases hdryRun : settings.selection.dryRun with
  | true =>
    rw [hdry hdryRun]
    exact ⟨ht.tail, fun _ _ => rfl⟩
  | false =>
    obtain ⟨location, hleads⟩ := ht.leads p List.mem_cons_self
    obtain ⟨hrewritten, -⟩ := Files.rewritten_of_write hleads (hwrite hdryRun)
    exact ⟨ht.tail.rewritten hrewritten, ht.read_rest hrewritten⟩

section Welcome

variable {run : Path → Runner} (hask : Answers ask Ready reply) (hreader : Fitting settings.reader)
  (hprepares : Prepares store settings.generation)
  (hrun : ∀ p, Scheduled ask store settings.generation (run p))
  (hworkers : 0 < settings.generation.maxWorkers)

include hask hreader hprepares hrun hworkers

/-- A file that can be read and understood is documented. -/
theorem documentFileBy_of_allWelcome
    (hload : (Source.load s.files p settings.reader).1 = .ok script) {location : List Text}
    (hleads : s.files.Leads p location) (hs : Ready s.session)
    (hwelcome : AllWelcome reply (documentFileBy (run p) settings p s).2.session.asked) :
    ∃ d s', documentFileBy (run p) settings p s = (.ok d, s') ∧ d.path = p
      ∧ d.spans = script.spans ∧ Ready s'.session
      ∧ s.session.Asked (settings.generation.maxWorkers = 1)
        (questions store settings.generation script) s'.session := by
  obtain ⟨entries, hdraft⟩ := draft_of_load (run p) hload
  obtain ⟨-, hextract⟩ := load_ok_cases hload
  have hstarts := Extraction.start_le_of_run hreader (extract_ok_cases hextract).2
  have hscript := documentScript_of_allWelcome hask hprepares (hrun p) hworkers hstarts
    (hask.log s.session entries hs)
  rcases hr : documentScript (run p) settings.generation script (s.session.log entries) with
    ⟨result, s₁⟩
  rw [hr] at hscript hdraft
  cases result with
  | error e =>
    rw [documentFileBy_of_draft_error hdraft] at hwelcome
    obtain ⟨⟨content, hcontent⟩, -⟩ := hscript hwelcome
    cases hcontent
  | ok content =>
    obtain ⟨d, s', later, hdeliver, hpath, hspans, hsession⟩ :=
      exists_deliver (s := { s with session := s₁ }) hleads content
    rw [documentFileBy_of_draft_ok hdraft, hdeliver] at hwelcome ⊢
    rw [hsession] at hwelcome
    obtain ⟨-, hready, hasked⟩ := hscript hwelcome
    refine ⟨d, s', rfl, hpath, hspans, ?_, hasked.congr rfl ?_⟩
    · rw [hsession]
      exact hask.log s₁ later hready
    · rw [hsession]
      rfl

/-- Files that can be read and understood are documented one after the other. -/
theorem documentFilesBy_of_allWelcome {paths : List Path} (ht : s.files.Targets paths)
    {scriptOf : Path → Source.Parsed}
    (hload : ∀ p ∈ paths, (Source.load s.files p settings.reader).1 = .ok (scriptOf p))
    (hs : Ready s.session)
    (hwelcome : AllWelcome reply (documentFilesBy run settings paths s).2.session.asked) :
    ∃ docs s', documentFilesBy run settings paths s = (.ok docs, s')
      ∧ docs.map (fun d => (d.path, d.spans)) = paths.map (fun p => (p, (scriptOf p).spans))
      ∧ s.session.Asked (settings.generation.maxWorkers = 1)
        (paths.flatMap fun p => questions store settings.generation (scriptOf p)) s'.session := by
  induction paths generalizing s with
  | nil => exact ⟨[], s, rfl, rfl, .of_asked_eq rfl⟩
  | cons p rest ih =>
    obtain ⟨hone, hrest⟩ := List.forall_mem_cons.mp hload
    obtain ⟨location, hleads⟩ := ht.leads p List.mem_cons_self
    have hfile := documentFileBy_of_allWelcome hask hreader hprepares hrun hworkers hone hleads hs
    rcases hdone : documentFileBy (run p) settings p s with ⟨result, s₁⟩
    rw [hdone] at hfile
    cases result with
    | error e =>
      rw [documentFilesBy_cons_error hdone] at hwelcome
      obtain ⟨d, s', heq, -⟩ := hfile hwelcome
      cases heq
    | ok d =>
      rw [documentFilesBy_cons_ok hdone] at hwelcome ⊢
      obtain ⟨_, _, heq, rfl, hspans, hready, hasked⟩ :=
        hfile (hwelcome.of_onlyAsks
          (onlyAsks_of_follows hask.noting (follows_documentFilesBy hrun rest s₁)))
      cases heq
      -- the files that are left are read as at the beginning
      obtain ⟨ht', hsame⟩ := kept_rest ht hdone
      have hrest' : ∀ q ∈ rest, (Source.load s₁.files q settings.reader).1 = .ok (scriptOf q) := by
        intro q hq
        rw [load_congr (ht'.plain q hq) (hsame q hq) settings.reader]
        exact hrest q hq
      obtain ⟨more, s₂, hmore, hpaths, hasked'⟩ := ih ht' hrest' hready hwelcome
      refine ⟨d :: more, s₂, ?_, ?_, hasked.trans hasked'⟩
      · rw [hmore]
        rfl
      · rw [List.map_cons, hpaths, hspans]
        rfl

end Welcome

end DocWeave.Documenting
