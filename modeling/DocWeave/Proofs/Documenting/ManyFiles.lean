import DocWeave.Documenting
import DocWeave.Proofs.Files.Collecting
import DocWeave.Proofs.Results

/-!
# What becomes of many files

* `documentFilesBy_error_cases` — a run that fails has come to some file, and fails there
* `load_congr` — of all files only the one that is read counts for what is found in it

A run over a directory is a run over the files that have been collected
(`documentDirectoryBy_of_ok`).
-/

namespace DocWeave.Documenting

variable {run : Path → Runner} {settings : Settings} {f g : Files} {p : Path}
  {paths rest : List Path} {s s' s'' : State} {d : Documented} {docs : List Documented} {e : Failure}

/-! ## The files that are read -/

theorem source_read_congr (hp : p.Plain) (h : g.read p = f.read p) :
    Source.read g p.toText = Source.read f p.toText := by
  simp only [Source.read, Path.ofText_toText_of_plain hp, h]

theorem load_congr (hp : p.Plain) (h : g.read p = f.read p) (reader : Reader) :
    Source.load g p reader = Source.load f p reader := by
  unfold Source.load
  rw [source_read_congr hp h]

/-! ## One file more -/

theorem documentFilesBy_cons_ok (h : documentFileBy (run p) settings p s = (.ok d, s')) :
    documentFilesBy run settings (p :: rest) s
      = ((documentFilesBy run settings rest s').1.map (d :: ·),
        (documentFilesBy run settings rest s').2) := by
  rw [documentFilesBy, h]

theorem documentFilesBy_cons_error (h : documentFileBy (run p) settings p s = (.error e, s')) :
    documentFilesBy run settings (p :: rest) s = (.error e, s') := by
  rw [documentFilesBy, h]

theorem documentFilesBy_ok_cases
    (h : documentFilesBy run settings (p :: rest) s = (.ok docs, s'')) :
    ∃ d more s', documentFileBy (run p) settings p s = (.ok d, s')
      ∧ documentFilesBy run settings rest s' = (.ok more, s'') ∧ docs = d :: more := by
  rcases hone : documentFileBy (run p) settings p s with ⟨result, s'⟩
  cases result with
  | error e =>
    rw [documentFilesBy_cons_error hone] at h
    cases h
  | ok d =>
    rw [documentFilesBy_cons_ok hone] at h
    obtain ⟨more, hrest, rfl⟩ := eq_of_map_eq_ok h
    exact ⟨d, more, s', rfl, hrest, rfl⟩

/-- A run that fails has come to some file, and fails there. -/
theorem documentFilesBy_error_cases (h : documentFilesBy run settings paths s = (.error e, s')) :
    ∃ front p back docs s₁, paths = front ++ p :: back
      ∧ documentFilesBy run settings front s = (.ok docs, s₁)
      ∧ documentFileBy (run p) settings p s₁ = (.error e, s') := by
  induction paths generalizing s with
  | nil => cases h
  | cons p rest ih =>
    rcases hone : documentFileBy (run p) settings p s with ⟨result, s₁⟩
    cases result with
    | error e' =>
      rw [documentFilesBy_cons_error hone] at h
      cases h
      exact ⟨[], p, rest, [], s, rfl, rfl, hone⟩
    | ok d =>
      rw [documentFilesBy_cons_ok hone] at h
      obtain ⟨front, q, back, docs, s₂, rfl, hfront, hq⟩ := ih (eq_of_map_eq_error h)
      refine ⟨p :: front, q, back, d :: docs, s₂, rfl, ?_, hq⟩
      rw [documentFilesBy_cons_ok hone, hfront]
      rfl

/-! ## Directories -/

section Collecting

variable {written : Text}

theorem documentDirectoryBy_of_ok {found : Files.Found}
    (h : s.files.collect (Path.ofText written) settings.selection.extensions = .ok found) :
    documentDirectoryBy run settings written s
      = documentFilesBy run settings found.paths (s.log (collectedEntries found written)) := by
  simp only [documentDirectoryBy, h]

theorem documentDirectoryBy_of_error {problem : Files.Problem}
    (h : s.files.collect (Path.ofText written) settings.selection.extensions = .error problem) :
    documentDirectoryBy run settings written s
      = (.error (.source (.file problem (Path.ofText written).toText)), s) := by
  simp only [documentDirectoryBy, h]

end Collecting

/-! ## A directory to try -/

/-- Gives every question the same comment. -/
def commenting : Asker := .scripted fun _ => .ok "/** d */".toList

/-- A state in which a directory within the working directory holds some files. -/
def State.ofDirectory (name : Text) (entries : List (Text × Bytes)) : State where
  files := {
    root := .directory [(name, .directory (entries.map fun e => (e.1, .file e.2)))]
    here := [] }

theorem wellNamed_ofDirectory {name : Text} {entries : List (Text × Bytes)}
    (hname : FileNode.IsName name) (hnodup : (entries.map Prod.fst).Nodup)
    (hnames : ∀ e ∈ entries, FileNode.IsName e.1) :
    (State.ofDirectory name entries).files.root.WellNamed := by
  refine .directory (by simp) (List.forall_mem_singleton.mpr hname)
    (List.forall_mem_singleton.mpr (.directory ?_ ?_ ?_))
  · rwa [List.map_map]
  · exact List.forall_mem_map.mpr hnames
  · exact List.forall_mem_map.mpr fun e _ => .file e.2

end DocWeave.Documenting
