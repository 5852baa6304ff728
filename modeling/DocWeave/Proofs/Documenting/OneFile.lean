import DocWeave.Documenting
import DocWeave.Proofs.Generation.Outcome
import DocWeave.Proofs.Results

/-!
# What becomes of one file

* `draft_cases` — what it takes to come by the documented text of a file; all else is to deliver it
* `documentFileBy_ok_cases` — all that has gone well if a file has been documented
* `files_of_documentFileBy_error` — a file that has not been documented is as it was
* `documentFileBy_congr` — only what comes of the jobs counts, not what is logged meanwhile

How comments are made is left open in all of this: `Scheduled` says of a runner that it is a pool of
workers, and `scheduled_blocks` that one worker after the other is such a pool.
-/

namespace DocWeave.Documenting

open Generation

variable {ask : Asker} {store : Prompt.Store} {run run' : Runner} {settings : Settings} {p : Path}
  {s s' : State}

/-! ## Runners -/

theorem length_commentJobs (store : Prompt.Store) (settings : Generation.Settings)
    (spans : List Span) : (commentJobs store settings spans).length = spans.length :=
  List.length_mapIdx

theorem numberedFrom_commentJobs (store : Prompt.Store) (settings : Generation.Settings)
    (spans : List Span) : Pool.NumberedFrom 0 (commentJobs store settings spans) := by
  intro i j hj
  rw [commentJobs, List.getElem?_mapIdx] at hj
  obtain ⟨span, -, rfl⟩ := Option.map_eq_some_iff.mp hj
  exact (Nat.zero_add i).symm

/-- What `run` gives is what may come of the jobs in a pool with as many workers as the settings ask
for. -/
def Scheduled (ask : Asker) (store : Prompt.Store) (settings : Generation.Settings)
    (run : Runner) : Prop :=
  0 < settings.maxWorkers → ∀ spans s,
    Pool.Outcome ask settings.maxWorkers.toNat (commentJobs store settings spans) s (run spans s)

theorem scheduled_blocks (ask : Asker) (store : Prompt.Store) (settings : Generation.Settings) :
    Scheduled ask store settings (blocks ask store settings) := by
  intro hworkers spans s
  exact Pool.outcome_performAll (by omega) (numberedFrom_commentJobs store settings spans) s

/-! ## The parts -/

/-- Blocks in front of the spans that they are about. -/
def placements (spans : List Span) (bs : List Text) : List Placement :=
  (spans.zip bs.tail).map fun p => ⟨p.1, p.2⟩

theorem extract_ok_cases {text written : Text} {reader : Reader} {script : Source.Parsed}
    (h : (Source.extract text written reader).1 = .ok script) :
    script.text = text
      ∧ (Extraction.run (reader text) text written
        (Script.Language.ofPath (Path.ofText written))).result = .ok script.spans := by
  unfold Source.extract at h
  simp only at h
  split at h
  · next spans hspans =>
    cases h
    exact ⟨rfl, hspans⟩
  · cases h

theorem load_ok_cases {f : Files} {reader : Reader} {script : Source.Parsed}
    (h : (Source.load f p reader).1 = .ok script) :
    Source.read f p.toText = .ok script.text
      ∧ (Source.extract script.text p.toText reader).1 = .ok script := by
  unfold Source.load at h
  split at h
  · next text hread =>
    obtain ⟨rfl, -⟩ := extract_ok_cases h
    exact ⟨hread, h⟩
  · cases h

theorem documentScript_ok_cases {settings : Generation.Settings} {script : Source.Parsed}
    {s s' : Session} {content : Text}
    (h : documentScript run settings script s = (.ok content, s')) :
    0 < settings.maxWorkers ∧ ∃ bs s₁, run (jobs script) s = (.ok bs, s₁)
      ∧ Splice.splice script.text (bs.headD []) (placements script.spans bs) = .ok content := by
  unfold documentScript at h
  split at h
  · cases h
  · next hworkers =>
    refine ⟨by omega, ?_⟩
    split at h
    · cases h
    · next bs s₁ hrun =>
      refine ⟨bs, s₁, hrun, ?_⟩
      simp only at h
      split at h
      · next hsplice =>
        cases h
        exact hsplice
      · cases h

theorem deliver_ok_cases {script : Source.Parsed} {content : Text} {d : Documented}
    (h : deliver settings p script content s = (.ok d, s')) :
    d.path = p ∧ d.spans = script.spans ∧ d.content = content
      ∧ (settings.selection.dryRun = true → s'.files = s.files)
      ∧ (settings.selection.dryRun = false →
        s.files.write p (Encoding.encode content) = .ok s'.files) := by
  unfold deliver at h
  split at h
  · next hdry =>
    simp only at h
    split at h <;> cases h <;> simp [hdry, State.log]
  · next hdry =>
    split at h
    · next files hwrite =>
      cases h
      simp [hdry, hwrite, State.log]
    · cases h

theorem deliver_error_cases {script : Source.Parsed} {content : Text} {e : Failure}
    (h : deliver settings p script content s = (.error e, s')) : s' = s := by
  unfold deliver at h
  split at h
  · simp only at h
    split at h <;> cases h
  · split at h
    · cases h
    · cases h
      rfl

/-! ## Up to the documented text -/

/-- Reads a file and has its comments made, up to the text that is to be delivered. -/
def draft (run : Runner) (settings : Settings) (p : Path) (s : State) :
    Except Failure (Source.Parsed × Text) × State :=
  let s := s.log [entry .info ["Processing ", .path p.toText]]
  let (script, entries) := Source.load s.files p settings.reader
  let s := s.log entries
  match script with
  | .error e => (.error (.source e), s)
  | .ok script =>
    let (content, session) := documentScript run settings.generation script s.session
    (content.map (Prod.mk script), { s with session })

theorem documentFileBy_eq (run : Runner) (settings : Settings) (p : Path) (s : State) :
    documentFileBy run settings p s = match draft run settings p s with
      | (.error e, s) => (.error e, s)
      | (.ok (script, content), s) => deliver settings p script content s := by
  unfold documentFileBy draft
  simp only
  generalize (Source.load _ p settings.reader).1 = script
  cases script with
  | error e => rfl
  | ok script =>
    simp only
    generalize documentScript run settings.generation script _ = drafted
    obtain ⟨content, session⟩ := drafted
    cases content <;> rfl

/-- Without a text nothing is delivered. -/
theorem documentFileBy_of_draft_error {e : Failure}
    (h : draft run settings p s = (.error e, s')) :
    documentFileBy run settings p s = (.error e, s') := by
  rw [documentFileBy_eq, h]

theorem documentFileBy_of_draft_ok {script : Source.Parsed} {content : Text}
    (h : draft run settings p s = (.ok (script, content), s')) :
    documentFileBy run settings p s = deliver settings p script content s' := by
  rw [documentFileBy_eq, h]

/-- A draft fails with the file, or it comes to what comes of the script that has been read. What is
logged before that is no question. -/
theorem draft_cases (run : Runner) (settings : Settings) (p : Path) (s : State) :
    (∃ e, (Source.load s.files p settings.reader).1 = .error e
      ∧ (draft run settings p s).1 = .error (.source e)
      ∧ (draft run settings p s).2.session.asked = s.session.asked)
    ∨ ∃ script s₁, (Source.load s.files p settings.reader).1 = .ok script
      ∧ s₁.asked = s.session.asked
      ∧ (draft run settings p s).1
        = (documentScript run settings.generation script s₁).1.map (Prod.mk script)
      ∧ (draft run settings p s).2.session
        = (documentScript run settings.generation script s₁).2 := by
  unfold draft
  simp only [State.log]
  cases hload : (Source.load s.files p settings.reader).1 with
  | error e => exact Or.inl ⟨e, rfl, rfl, rfl⟩
  | ok script =>
    refine Or.inr ⟨script, _, rfl, ?_, rfl, rfl⟩
    rfl

/-- What is drafted comes of a script that has been read, and of comments for it. -/
theorem draft_ok_cases {script : Source.Parsed} {content : Text}
    (h : draft run settings p s = (.ok (script, content), s')) :
    (Source.load s.files p settings.reader).1 = .ok script
      ∧ ∃ s₁ s₂, documentScript run settings.generation script s₁ = (.ok content, s₂) := by
  rcases draft_cases run settings p s with
    ⟨e, -, hdraft, -⟩ | ⟨script', s₁, hload, -, hdraft, -⟩
  · rw [h] at hdraft
    cases hdraft
  · rw [h] at hdraft
    cases hscript : (documentScript run settings.generation script' s₁).1 with
    | error e =>
      rw [hscript] at hdraft
      cases hdraft
    | ok content' =>
      rw [hscript] at hdraft
      cases hdraft
      exact ⟨hload, s₁, _, Prod.ext hscript rfl⟩

/-- Nothing is written while a text is drafted, and nothing is handed out. -/
theorem kept_of_draft {r : Except Failure (Source.Parsed × Text)}
    (h : draft run settings p s = (r, s')) : s'.files = s.files ∧ s'.shown = s.shown := by
  unfold draft at h
  simp only at h
  split at h <;> cases h <;> exact ⟨rfl, rfl⟩

/-! ## Success -/

/-- A file that has been documented was read, its spans were found, there were comments for all of
them, and these could be put into its text. -/
theorem documentFileBy_ok_cases {d : Documented}
    (h : documentFileBy run settings p s = (.ok d, s')) :
    ∃ text, Source.read s.files p.toText = .ok text
      ∧ (Source.extract text p.toText settings.reader).1 = .ok ⟨text, d.spans⟩
      ∧ 0 < settings.generation.maxWorkers
      ∧ (∃ bs s₁ s₂, run (jobs ⟨text, d.spans⟩) s₁ = (.ok bs, s₂)
        ∧ Splice.splice text (bs.headD []) (placements d.spans bs) = .ok d.content)
      ∧ (settings.selection.dryRun = true → s'.files = s.files)
      ∧ (settings.selection.dryRun = false →
        s.files.write p (Encoding.encode d.content) = .ok s'.files) := by
  rcases hdraft : draft run settings p s with ⟨e | ⟨script, content⟩, s₁⟩
  · rw [documentFileBy_of_draft_error hdraft] at h
    cases h
  · rw [documentFileBy_of_draft_ok hdraft] at h
    obtain ⟨hfiles, -⟩ := kept_of_draft hdraft
    obtain ⟨hload, s₂, s₃, hscript⟩ := draft_ok_cases hdraft
    obtain ⟨hread, hextract⟩ := load_ok_cases hload
    obtain ⟨hworkers, bs, s₄, hrun, hsplice⟩ := documentScript_ok_cases hscript
    obtain ⟨-, hspans, rfl, hdry, hwrite⟩ := deliver_ok_cases h
    have hd : (⟨script.text, d.spans⟩ : Source.Parsed) = script := by rw [hspans]
    refine ⟨script.text, hread, by rw [hd, hextract], hworkers, ⟨bs, s₂, s₄, by rw [hd, hrun], ?_⟩,
      ?_, ?_⟩
    · rw [hspans]
      exact hsplice
    · rw [← hfiles]
      exact hdry
    · rw [← hfiles]
      exact hwrite

theorem path_of_documentFileBy {d : Documented}
    (h : documentFileBy run settings p s = (.ok d, s')) : d.path = p := by
  rcases hdraft : draft run settings p s with ⟨e | ⟨script, content⟩, s₁⟩
  · rw [documentFileBy_of_draft_error hdraft] at h
    cases h
  · rw [documentFileBy_of_draft_ok hdraft] at h
    exact (deliver_ok_cases h).1

/-! ## Failure -/

/-- Whatever goes wrong, nothing is written. -/
theorem files_of_documentFileBy_error {e : Failure}
    (h : documentFileBy run settings p s = (.error e, s')) : s'.files = s.files := by
  rcases hdraft : draft run settings p s with ⟨e₁ | ⟨script, content⟩, s₁⟩
  · rw [documentFileBy_of_draft_error hdraft] at h
    cases h
    exact (kept_of_draft hdraft).1
  · rw [documentFileBy_of_draft_ok hdraft] at h
    rw [deliver_error_cases h]
    exact (kept_of_draft hdraft).1

/-! ## What does not count -/

variable {g : Generation.Settings} {settings' : Settings}

theorem documentScript_congr {settings : Generation.Settings}
    (hworkers : 0 < settings.maxWorkers ↔ 0 < g.maxWorkers)
    (hrun : 0 < settings.maxWorkers → ∀ spans s s', (run spans s).1 = (run' spans s').1)
    (script : Source.Parsed) (s s' : Session) :
    (documentScript run settings script s).1 = (documentScript run' g script s').1 := by
  by_cases h : 0 < settings.maxWorkers
  · have hg := hworkers.mp h
    have hjobs := hrun h (jobs script) s s'
    unfold documentScript
    rw [if_neg (by omega), if_neg (by omega)]
    rcases hr : run (jobs script) s with ⟨result, s₁⟩
    rcases hr' : run' (jobs script) s' with ⟨result', s₁'⟩
    obtain rfl : result = result' := by simpa only [hr, hr'] using hjobs
    cases result with
    | error e => rfl
    | ok bs =>
      simp only
      split <;> rfl
  · have hg := mt hworkers.mpr h
    unfold documentScript
    rw [if_pos (by omega), if_pos (by omega)]

/-- What is drafted depends on what is read and on what the comments are, not on the rest. -/
theorem draft_congr
    (hload : (Source.load s'.files p settings'.reader).1 = (Source.load s.files p settings.reader).1)
    (hscript : ∀ script s s', (documentScript run settings.generation script s).1
      = (documentScript run' settings'.generation script s').1) :
    (draft run settings p s).1 = (draft run' settings' p s').1 := by
  rcases draft_cases run settings p s with ⟨e, he, hdraft, -⟩ | ⟨script, s₁, hs, -, hdraft, -⟩
  · rcases draft_cases run' settings' p s' with ⟨e', he', hdraft', -⟩ | ⟨_, _, hs', -, -, -⟩
    · rw [hload, he] at he'
      cases he'
      rw [hdraft, hdraft']
    · rw [hload, he] at hs'
      cases hs'
  · rcases draft_cases run' settings' p s' with ⟨_, he', -, -⟩ | ⟨script', s₁', hs', -, hdraft', -⟩
    · rw [hload, hs] at he'
      cases he'
    · rw [hload, hs] at hs'
      cases hs'
      rw [hdraft, hdraft', hscript script s₁ s₁']

/-- Two outcomes differ in nothing but what has happened while questions were asked. -/
structure Alike (r r' : Except Failure Documented × State) : Prop where
  result : r.1 = r'.1
  files : r.2.files = r'.2.files
  shown : r.2.shown = r'.2.shown

theorem deliver_congr (script : Source.Parsed) (content : Text) (hfiles : s'.files = s.files)
    (hshown : s'.shown = s.shown) :
    Alike (deliver settings p script content s)
      (deliver { settings with generation := g } p script content s') := by
  unfold deliver
  simp only [hfiles, hshown]
  split
  · split
    · exact ⟨rfl, rfl, rfl⟩
    · exact ⟨rfl, hfiles.symm, hshown.symm⟩
  · split
    · exact ⟨rfl, rfl, rfl⟩
    · exact ⟨rfl, hfiles.symm, hshown.symm⟩

/-- Two runners that give the same comments document a file in the same way, whatever they log and
however many workers there are. -/
theorem documentFileBy_congr (h : 0 < settings.generation.maxWorkers) (hg : 0 < g.maxWorkers)
    (hrun : ∀ spans s s', (run spans s).1 = (run' spans s').1) (p : Path) (s : State) :
    Alike (documentFileBy run settings p s)
      (documentFileBy run' { settings with generation := g } p s) := by
  have hsame : (draft run settings p s).1
      = (draft run' { settings with generation := g } p s).1 :=
    draft_congr rfl (documentScript_congr (iff_of_true h hg) fun _ => hrun)
  rcases hdraft : draft run settings p s with ⟨drafted, s₁⟩
  rcases hdraft' : draft run' { settings with generation := g } p s with ⟨drafted', s₁'⟩
  rw [hdraft, hdraft'] at hsame
  obtain rfl : drafted = drafted' := hsame
  obtain ⟨hfiles, hshown⟩ := kept_of_draft hdraft
  obtain ⟨hfiles', hshown'⟩ := kept_of_draft hdraft'
  rw [← hfiles] at hfiles'
  rw [← hshown] at hshown'
  cases drafted with
  | error e =>
    rw [documentFileBy_of_draft_error hdraft, documentFileBy_of_draft_error hdraft']
    exact ⟨rfl, hfiles'.symm, hshown'.symm⟩
  | ok result =>
    obtain ⟨script, content⟩ := result
    rw [documentFileBy_of_draft_ok hdraft, documentFileBy_of_draft_ok hdraft']
    exact deliver_congr script content hfiles' hshown'

/-! ## A file to try -/

/-- A state in which the working directory holds one file. -/
def State.ofFile (name : Text) (bytes : Bytes) : State where
  files := { root := .directory [(name, .file bytes)], here := [] }

/-- Answers with code behind a comment, and with a comment alone when asked again. -/
def breakingOut : Asker where
  answer q s :=
    (.ok (if q.attempt = 1 then "/** a */ b(); /* c */".toList else "/** d */".toList), s)

theorem exists_of_content {content : Text}
    (h : (documentFileBy run settings p s).1.toOption.map Documented.content = some content) :
    ∃ d s', documentFileBy run settings p s = (.ok d, s') ∧ d.content = content := by
  obtain ⟨d, hd, hcontent⟩ := exists_of_toOption_map h
  exact ⟨d, _, Prod.ext hd rfl, hcontent⟩

end DocWeave.Documenting
