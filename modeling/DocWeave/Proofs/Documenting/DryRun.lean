import DocWeave.Proofs.Documenting.ManyFiles
import DocWeave.Proofs.Documenting.Schedules

/-!
# Dry runs

A dry run leaves all files as they are, and what it hands out is what a run writes that is not dry.

* `documentFileBy_dry` — a file is documented in both with the same text, or in neither: up to the
  text it is treated alike (`draft`), and only then is the text handed out or written
* `mirrors_documentFilesBy` — and so are files one after the other

The two runs see different files from the first file on, because one of them writes. That they go on
alike is the invariant of the induction: the files that are left to be documented hold the same in
both.
-/

namespace DocWeave

/-! ## Many writes -/

namespace Files

variable {f g : Files}

/-- The files once texts are written to some paths, one after the other. -/
def writeAll (f : Files) (texts : List (Path × Text)) : Except Problem Files :=
  texts.foldlM (fun f e => f.write e.1 (Encoding.encode e.2)) f

theorem writeAll_cons (f : Files) (e : Path × Text) (texts : List (Path × Text)) :
    f.writeAll (e :: texts) = f.write e.1 (Encoding.encode e.2) >>= fun g => g.writeAll texts :=
  List.foldlM_cons

/-- To files of which no two are the same texts can be written, and each of them holds its own. -/
theorem exists_writeAll {texts : List (Path × Text)} (h : f.Targets (texts.map Prod.fst)) :
    ∃ g, f.writeAll texts = .ok g ∧ Rewritten f g (texts.map Prod.fst)
      ∧ ∀ e ∈ texts, g.read e.1 = .ok (Encoding.encode e.2) := by
  induction texts generalizing f with
  | nil => exact ⟨f, rfl, .refl f, by simp⟩
  | cons e texts ih =>
    obtain ⟨location, hleads⟩ := h.leads e.1 List.mem_cons_self
    obtain ⟨g, hwrite, hg, hread⟩ := exists_write hleads (Encoding.encode e.2)
    obtain ⟨k, hall, hk, hheld⟩ := ih (h.tail.rewritten hg)
    have hkeeps : k.read e.1 = g.read e.1 := h.read_head hg hk
    refine ⟨k, ?_, hg.trans hk, List.forall_mem_cons.mpr ⟨hkeeps.trans hread, hheld⟩⟩
    rw [writeAll_cons, hwrite]
    exact hall

end Files

namespace Documenting

open Generation

variable {ask : Asker} {store : Prompt.Store} {settings : Settings} {p : Path} {paths : List Path}
  {s s' : State}

/-! ## One file, dry and in earnest -/

/-- The settings, with dry runs or without. -/
def Settings.withDryRun (settings : Settings) (on : Bool) : Settings :=
  { settings with selection := { settings.selection with dryRun := on } }

/-- The file once it has been written after all. -/
def Documented.asWritten (d : Documented) : Documented := { d with written := true }

/-- A dry run changes no file. -/
theorem files_of_documentFileBy_dry {run : Runner} (hdry : settings.selection.dryRun = true) :
    (documentFileBy run settings p s).2.files = s.files := by
  cases h : documentFileBy run settings p s with
  | mk result s' =>
    cases result with
    | error e => exact files_of_documentFileBy_error h
    | ok d =>
      obtain ⟨-, -, -, -, -, hfiles, -⟩ := documentFileBy_ok_cases h
      exact hfiles hdry

/-- A text that is to be handed out is handed out. -/
theorem deliver_dry (settings : Settings) (p : Path) (script : Source.Parsed) (content : Text)
    (s : State) :
    let r := deliver (settings.withDryRun true) p script content s
    r.1 = .ok ⟨p, content, script.spans, false⟩
      ∧ (settings.observed = true → r.2.shown = s.shown ++ [(p, content)]) := by
  cases hobserved : settings.observed with
  | true => simp [deliver, Settings.withDryRun, hobserved]
  | false => simp [deliver, Settings.withDryRun, hobserved, State.log]

/-- A text that can be written is written. -/
theorem deliver_written (settings : Settings) (script : Source.Parsed) {content : Text} {g : Files}
    (h : s.files.write p (Encoding.encode content) = .ok g) :
    let r := deliver (settings.withDryRun false) p script content s
    r.1 = .ok ⟨p, content, script.spans, true⟩ ∧ r.2.files = g := by
  simp [deliver, Settings.withDryRun, h, State.log]

/-- A file is documented with the same text in both runs, or in neither. -/
theorem documentFileBy_dry {run run' : Runner}
    (hrun : 0 < settings.generation.maxWorkers → ∀ spans s s', (run spans s).1 = (run' spans s').1)
    (hload : Source.load s'.files p settings.reader = Source.load s.files p settings.reader)
    {location : List Text} (hleads : s'.files.Leads p location) :
    let dry := documentFileBy run (settings.withDryRun true) p s
    let real := documentFileBy run' (settings.withDryRun false) p s'
    (∃ e, dry.1 = .error e ∧ real.1 = .error e)
      ∨ ∃ d, dry.1 = .ok d ∧ real.1 = .ok d.asWritten ∧ d.path = p ∧ d.written = false
        ∧ (settings.observed = true → dry.2.shown = s.shown ++ [(p, d.content)])
        ∧ s'.files.write p (Encoding.encode d.content) = .ok real.2.files := by
  have hsame : (draft run (settings.withDryRun true) p s).1
      = (draft run' (settings.withDryRun false) p s').1 :=
    draft_congr (congrArg Prod.fst hload) (documentScript_congr Iff.rfl hrun)
  rcases hdraft : draft run (settings.withDryRun true) p s with ⟨drafted, s₁⟩
  rcases hdraft' : draft run' (settings.withDryRun false) p s' with ⟨drafted', s₁'⟩
  rw [hdraft, hdraft'] at hsame
  obtain rfl : drafted = drafted' := hsame
  cases drafted with
  | error e =>
    rw [documentFileBy_of_draft_error hdraft, documentFileBy_of_draft_error hdraft']
    exact Or.inl ⟨e, rfl, rfl⟩
  | ok result =>
    obtain ⟨script, content⟩ := result
    rw [documentFileBy_of_draft_ok hdraft, documentFileBy_of_draft_ok hdraft']
    obtain ⟨-, hshown⟩ := kept_of_draft hdraft
    obtain ⟨hfiles, -⟩ := kept_of_draft hdraft'
    obtain ⟨g, hwrite, -, -⟩ := Files.exists_write hleads (Encoding.encode content)
    obtain ⟨hdry, hhanded⟩ := deliver_dry settings p script content s₁
    obtain ⟨hreal, hwritten⟩ := deliver_written (s := s₁') settings script (hfiles ▸ hwrite)
    refine Or.inr ⟨_, hdry, hreal, rfl, rfl, ?_, ?_⟩
    · rw [← hshown]
      exact hhanded
    · rw [hwrite]
      exact congrArg _ hwritten.symm

/-! ## Files one after the other -/

/-- What is delivered: a text and the path it is for. -/
def Documented.delivery (d : Documented) : Path × Text := (d.path, d.content)

/-- Of a dry run and of one that writes: they fail alike, or they succeed with the same texts for
`paths`, which one of them hands out and the other writes. -/
def Mirrors (observed : Bool) (paths : List Path) (s s' : State)
    (dry real : Except Failure (List Documented) × State) : Prop :=
  (∃ e, dry.1 = .error e ∧ real.1 = .error e)
    ∨ ∃ docs, dry.1 = .ok docs ∧ real.1 = .ok (docs.map Documented.asWritten)
      ∧ docs.map Documented.path = paths ∧ (∀ d ∈ docs, d.written = false)
      ∧ (observed = true → dry.2.shown = s.shown ++ docs.map Documented.delivery)
      ∧ s'.files.writeAll (docs.map Documented.delivery) = .ok real.2.files

variable {run run' : Path → Runner}

/-- One file has been documented in both runs, and what they do then is alike. -/
theorem Mirrors.cons {d : Documented} {rest : List Path} {s₁ s₁' : State}
    (hdry : documentFileBy (run d.path) (settings.withDryRun true) d.path s = (.ok d, s₁))
    (hreal : documentFileBy (run' d.path) (settings.withDryRun false) d.path s'
      = (.ok d.asWritten, s₁'))
    (hunwritten : d.written = false)
    (hshown : settings.observed = true → s₁.shown = s.shown ++ [d.delivery])
    (hwrite : s'.files.write d.path (Encoding.encode d.content) = .ok s₁'.files)
    (h : Mirrors settings.observed rest s₁ s₁'
      (documentFilesBy run (settings.withDryRun true) rest s₁)
      (documentFilesBy run' (settings.withDryRun false) rest s₁')) :
    Mirrors settings.observed (d.path :: rest) s s'
      (documentFilesBy run (settings.withDryRun true) (d.path :: rest) s)
      (documentFilesBy run' (settings.withDryRun false) (d.path :: rest) s') := by
  rw [documentFilesBy_cons_ok hdry, documentFilesBy_cons_ok hreal]
  rcases h with ⟨e, hdry', hreal'⟩ | ⟨docs, hdry', hreal', rfl, hall, hshown', hwritten⟩
  · exact Or.inl ⟨e, by rw [hdry']; rfl, by rw [hreal']; rfl⟩
  · refine Or.inr ⟨d :: docs, by rw [hdry']; rfl, by rw [hreal']; rfl, rfl,
      List.forall_mem_cons.mpr ⟨hunwritten, hall⟩, fun hobserved => ?_, ?_⟩
    · rw [hshown' hobserved, hshown hobserved, List.append_assoc, List.singleton_append,
        List.map_cons]
    · rw [List.map_cons, Files.writeAll_cons]
      exact hwrite ▸ hwritten

/-- Files that hold the same in both runs are documented alike, one after the other. -/
theorem mirrors_documentFilesBy
    (hrun : 0 < settings.generation.maxWorkers →
      ∀ p spans s s', (run p spans s).1 = (run' p spans s').1)
    (ht : s'.files.Targets paths) (hsame : ∀ p ∈ paths, s'.files.read p = s.files.read p) :
    Mirrors settings.observed paths s s'
      (documentFilesBy run (settings.withDryRun true) paths s)
      (documentFilesBy run' (settings.withDryRun false) paths s') := by
  induction paths generalizing s s' with
  | nil => exact Or.inr ⟨[], rfl, rfl, rfl, by simp, by simp [documentFilesBy], rfl⟩
  | cons p rest ih =>
    have hload := load_congr (ht.plain p List.mem_cons_self) (hsame p List.mem_cons_self)
      settings.reader
    obtain ⟨location, hleads⟩ := ht.leads p List.mem_cons_self
    have hfiles : (documentFileBy (run p) (settings.withDryRun true) p s).2.files = s.files :=
      files_of_documentFileBy_dry rfl
    have hone := documentFileBy_dry (fun h => hrun h p) hload hleads
    rcases hdry : documentFileBy (run p) (settings.withDryRun true) p s with ⟨result, s₁⟩
    rcases hreal : documentFileBy (run' p) (settings.withDryRun false) p s' with ⟨result', s₁'⟩
    rw [hdry] at hfiles
    rw [hdry, hreal] at hone
    rcases hone with ⟨e, rfl, rfl⟩ | ⟨d, rfl, rfl, rfl, hunwritten, hshown, hwrite⟩
    · rw [documentFilesBy_cons_error hdry, documentFilesBy_cons_error hreal]
      exact Or.inl ⟨e, rfl, rfl⟩
    · obtain ⟨hrewritten, -⟩ := Files.rewritten_of_write hleads hwrite
      refine .cons hdry hreal hunwritten hshown hwrite (ih (ht.tail.rewritten hrewritten) ?_)
      -- what has been written is none of the files that are left
      intro q hq
      rw [hfiles, ht.read_rest hrewritten q hq]
      exact hsame q (List.mem_cons_of_mem d.path hq)

/-! ## Directories -/

theorem files_of_documentFilesBy_dry (hdry : settings.selection.dryRun = true) (paths : List Path)
    (s : State) : (documentFilesBy run settings paths s).2.files = s.files := by
  induction paths generalizing s with
  | nil => rfl
  | cons p rest ih =>
    have hfiles : (documentFileBy (run p) settings p s).2.files = s.files :=
      files_of_documentFileBy_dry hdry
    rcases hone : documentFileBy (run p) settings p s with ⟨result, s₁⟩
    rw [hone] at hfiles
    cases result with
    | error e =>
      rw [documentFilesBy_cons_error hone]
      exact hfiles
    | ok d =>
      rw [documentFilesBy_cons_ok hone]
      exact (ih s₁).trans hfiles

theorem files_of_documentDirectoryBy_dry (hdry : settings.selection.dryRun = true) (written : Text)
    (s : State) : (documentDirectoryBy run settings written s).2.files = s.files := by
  unfold documentDirectoryBy
  simp only
  split
  · rfl
  · exact files_of_documentFilesBy_dry hdry _ _

/-- A directory is documented alike in both runs, on whatever schedules, and every file that is
written is written once. -/
theorem mirrors_documentDirectoryBy (hask : Steady ask)
    (hrun : ∀ p, Scheduled ask store settings.generation (run p))
    (hrun' : ∀ p, Scheduled ask store settings.generation (run' p))
    (hroot : s.files.root.WellNamed) (written : Text) (session : Session) :
    ∃ paths, s.files.Targets paths ∧ Mirrors settings.observed paths s { s with session }
      (documentDirectoryBy run (settings.withDryRun true) written s)
      (documentDirectoryBy run' (settings.withDryRun false) written { s with session }) := by
  have hsame : 0 < settings.generation.maxWorkers →
      ∀ p spans s s', (run p spans s).1 = (run' p spans s').1 := by
    intro hworkers p spans s s'
    rw [fst_of_scheduled hask (hrun p) hworkers, fst_of_scheduled hask (hrun' p) hworkers]
  cases hfound : s.files.collect (Path.ofText written) settings.selection.extensions with
  | error problem =>
    have hdry : documentDirectoryBy run (settings.withDryRun true) written s = (.error _, s) :=
      documentDirectoryBy_of_error hfound
    have hreal : documentDirectoryBy run' (settings.withDryRun false) written { s with session }
        = (.error _, { s with session }) := documentDirectoryBy_of_error hfound
    rw [hdry, hreal]
    exact ⟨[], ⟨by simp, by simp, .nil⟩, Or.inl ⟨_, rfl, rfl⟩⟩
  | ok found =>
    have htargets := Files.targets_of_collect hroot (Path.plain_ofText written) hfound
    have hdry : documentDirectoryBy run (settings.withDryRun true) written s = _ :=
      documentDirectoryBy_of_ok hfound
    have hreal : documentDirectoryBy run' (settings.withDryRun false) written { s with session }
        = _ := documentDirectoryBy_of_ok hfound
    rw [hdry, hreal]
    exact ⟨found.paths, htargets, mirrors_documentFilesBy hsame htargets fun _ _ => rfl⟩

end Documenting

end DocWeave
