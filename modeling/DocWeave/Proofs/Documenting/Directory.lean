import DocWeave.Proofs.Documenting.Content
import DocWeave.Proofs.Documenting.ManyFiles
import DocWeave.Proofs.Generation.Questions

/-!
# One file after the other

* `proceeded_of_ok` — files that have all been documented hold their documented texts, all others
  what they held, and nothing has been asked but about these files, one after the other
* `source_error_cases` — what is known of a file that has not been documented
* `documentDirectoryBy_error` — both together: what a run leaves behind that has failed

What is said of a file is said of the files with which the run began, although a run comes late to
most of them. It may be, because no two paths lead to one file (`Files.Targets`), so that nothing
that has been written on the way is read again.
-/

namespace DocWeave.Documenting

open Generation

variable {ask : Asker} {store : Prompt.Store} {run : Path → Runner} {settings : Settings}
  {f g : Files} {p : Path} {paths : List Path} {s s' s'' : State} {d : Documented}
  {docs more : List Documented}

/-! ## Questions about a file -/

/-- The question is about the file at `p` as a whole, or about one of its spans. -/
def AsksAbout (store : Prompt.Store) (settings : Settings) (f : Files) (p : Path) (q : Question) :
    Prop :=
  ∃ script, (Source.load f p settings.reader).1 = .ok script
    ∧ ∃ j ∈ commentJobs store settings.generation (jobs script), j.Asks q

theorem follows_documentScript {run : Runner} {settings : Generation.Settings}
    (hrun : Scheduled ask store settings run) (script : Source.Parsed) (s : Session) :
    Session.Follows ask (fun q => ∃ j ∈ commentJobs store settings (jobs script), j.Asks q) s
      (documentScript run settings script s).2 := by
  unfold documentScript
  split
  · exact .refl
  · next hworkers =>
    have hout := Pool.follows_of_outcome (hrun (by omega) (jobs script) s)
    split
    · next hr => rwa [hr] at hout
    · next hr =>
      rw [hr] at hout
      simp only
      split
      · exact hout.tail (.log _)
      · exact hout

theorem follows_deliver {P : Question → Prop} (script : Source.Parsed) (content : Text) (s : State) :
    Session.Follows ask P s.session (deliver settings p script content s).2.session := by
  unfold deliver
  split
  · simp only
    split
    · exact .refl
    · exact .single (.log _)
  · split
    · exact .single (.log _)
    · exact .refl

theorem follows_draft {run : Runner} (hrun : Scheduled ask store settings.generation run) (p : Path)
    (s : State) :
    Session.Follows ask (AsksAbout store settings s.files p) s.session
      (draft run settings p s).2.session := by
  have hlogged : Session.Follows ask (AsksAbout store settings s.files p) s.session
      ((s.session.log [entry .info ["Processing ", .path p.toText]]).log
        (Source.load s.files p settings.reader).2) := .tail (.single (.log _)) (.log _)
  unfold draft
  simp only [State.log]
  cases hload : (Source.load s.files p settings.reader).1 with
  | error e => exact hlogged
  | ok script =>
    have hscript := follows_documentScript hrun script ((s.session.log
      [entry .info ["Processing ", .path p.toText]]).log
        (Source.load s.files p settings.reader).2)
    exact hlogged.trans (hscript.mono fun q hq => ⟨script, hload, hq⟩)

/-- To document a file, nothing is asked but what is about it. -/
theorem follows_documentFileBy {run : Runner} (hrun : Scheduled ask store settings.generation run)
    (p : Path) (s : State) :
    Session.Follows ask (AsksAbout store settings s.files p) s.session
      (documentFileBy run settings p s).2.session := by
  have hdrafted := follows_draft hrun p s
  rcases hdraft : draft run settings p s with ⟨e | ⟨script, content⟩, s₁⟩
  · rw [documentFileBy_of_draft_error hdraft]
    rwa [hdraft] at hdrafted
  · rw [documentFileBy_of_draft_ok hdraft]
    rw [hdraft] at hdrafted
    exact hdrafted.trans (follows_deliver script content s₁)

theorem onlyAsks_documentFileBy {run : Runner} (hask : Noting ask)
    (hrun : Scheduled ask store settings.generation run) (p : Path) (s : State) :
    s.session.OnlyAsks (AsksAbout store settings s.files p)
      (documentFileBy run settings p s).2.session :=
  onlyAsks_of_follows hask (follows_documentFileBy hrun p s)

/-- The same of several files, whatever the questions are about. -/
theorem follows_documentFilesBy (hrun : ∀ p, Scheduled ask store settings.generation (run p))
    (paths : List Path) (s : State) :
    Session.Follows ask (fun _ => True) s.session
      (documentFilesBy run settings paths s).2.session := by
  induction paths generalizing s with
  | nil => exact .refl
  | cons p rest ih =>
    have hone := (follows_documentFileBy (hrun p) p s).mono fun _ _ => trivial
    rcases hdone : documentFileBy (run p) settings p s with ⟨result, s₁⟩
    rw [hdone] at hone
    cases result with
    | error e =>
      rw [documentFilesBy_cons_error hdone]
      exact hone
    | ok d =>
      rw [documentFilesBy_cons_ok hdone]
      exact hone.trans (ih s₁)

/-! ## Documented files -/

/-- `d` is what comes of a file of `f`: there is a comment for it and one for each of its spans, and
these have been put into its text. -/
def IsDocumented (run : Path → Runner) (settings : Settings) (f : Files) (d : Documented) : Prop :=
  ∃ text c₀ cs, Source.read f d.path.toText = .ok text
    ∧ (Source.extract text d.path.toText settings.reader).1 = .ok ⟨text, d.spans⟩
    ∧ (∃ s₁ s₂, run d.path (jobs ⟨text, d.spans⟩) s₁ = (.ok (c₀ :: cs), s₂))
    ∧ cs.length = d.spans.length ∧ (∀ c ∈ c₀ :: cs, Comment.IsWhole c)
    ∧ Splice.splice text c₀ (placements d.spans (c₀ :: cs)) = .ok d.content

theorem AsksAbout.congr (hp : p.Plain) (h : g.read p = f.read p) {q : Question}
    (hq : AsksAbout store settings g p q) : AsksAbout store settings f p q := by
  obtain ⟨script, hload, hj⟩ := hq
  exact ⟨script, load_congr hp h settings.reader ▸ hload, hj⟩

theorem IsDocumented.congr (hp : d.path.Plain) (h : g.read d.path = f.read d.path)
    (hd : IsDocumented run settings g d) : IsDocumented run settings f d := by
  obtain ⟨text, c₀, cs, hread, hrest⟩ := hd
  exact ⟨text, c₀, cs, source_read_congr hp h ▸ hread, hrest⟩

/-! ## Questions about many files -/

/-- From `s` to `s'` the files at `paths` have been asked about, one after the other, and nothing
else has been asked. -/
def AskedInOrder (store : Prompt.Store) (settings : Settings) (f : Files) (paths : List Path)
    (s s' : Session) : Prop :=
  ∃ asked : List (Path × List Question), asked.map Prod.fst = paths
    ∧ (∀ e ∈ asked, ∀ q ∈ e.2, AsksAbout store settings f e.1 q)
    ∧ s'.asked = (asked.map Prod.snd).reverse.flatten ++ s.asked

namespace AskedInOrder

variable {s s' s'' : Session} {later : List Path}

theorem refl (s : Session) : AskedInOrder store settings f [] s s :=
  ⟨[], rfl, fun _ he => absurd he List.not_mem_nil, rfl⟩

theorem of_onlyAsks (h : s.OnlyAsks (AsksAbout store settings f p) s') :
    AskedInOrder store settings f [p] s s' := by
  obtain ⟨qs, heq, hqs⟩ := h
  exact ⟨[(p, qs)], rfl, List.forall_mem_singleton.mpr hqs, by simpa using heq⟩

theorem trans (h : AskedInOrder store settings f paths s s')
    (h' : AskedInOrder store settings f later s' s'') :
    AskedInOrder store settings f (paths ++ later) s s'' := by
  obtain ⟨asked, rfl, hall, heq⟩ := h
  obtain ⟨asked', rfl, hall', heq'⟩ := h'
  refine ⟨asked ++ asked', List.map_append, List.forall_mem_append.mpr ⟨hall, hall'⟩, ?_⟩
  rw [heq', heq]
  simp

/-- Only what the files at the paths hold counts. -/
theorem congr (h : AskedInOrder store settings g paths s s') (hplain : ∀ p ∈ paths, p.Plain)
    (hsame : ∀ p ∈ paths, g.read p = f.read p) : AskedInOrder store settings f paths s s' := by
  obtain ⟨asked, rfl, hall, heq⟩ := h
  refine ⟨asked, rfl, fun e he q hq => ?_, heq⟩
  have hmem : e.1 ∈ asked.map Prod.fst := List.mem_map_of_mem he
  exact (hall e he q hq).congr (hplain e.1 hmem) (hsame e.1 hmem)

end AskedInOrder

/-! ## Runs that succeed -/

/-- From `s` to `s'` the files of `docs` have been documented, and nothing else has happened: each
of them holds its documented text, no other file has been written, and nothing else has been asked
about. -/
structure Proceeded (run : Path → Runner) (store : Prompt.Store) (settings : Settings)
    (s s' : State) (docs : List Documented) : Prop where
  documented : ∀ d ∈ docs, IsDocumented run settings s.files d
  held : ∀ d ∈ docs, s'.files.read d.path = .ok (Encoding.encode d.content)
  rewritten : Files.Rewritten s.files s'.files (docs.map Documented.path)
  asked : AskedInOrder store settings s.files (docs.map Documented.path) s.session s'.session

namespace Proceeded

theorem nil (s : State) : Proceeded run store settings s s [] where
  documented := by simp
  held := by simp
  rewritten := .refl s.files
  asked := .refl s.session

/-- What is logged before does not count. -/
theorem of_log {entries : List Log.Entry}
    (h : Proceeded run store settings (s.log entries) s' docs) :
    Proceeded run store settings s s' docs :=
  ⟨h.documented, h.held, h.rewritten, h.asked⟩

/-- One file is documented, and then others, none of which is the same file. -/
theorem cons (hd : Proceeded run store settings s s' [d])
    (h : Proceeded run store settings s' s'' docs)
    (ht : s.files.Targets (d.path :: docs.map Documented.path)) :
    Proceeded run store settings s s'' (d :: docs) := by
  have hplain : ∀ p ∈ docs.map Documented.path, p.Plain := ht.tail.plain
  have hsame : ∀ p ∈ docs.map Documented.path, s'.files.read p = s.files.read p :=
    ht.read_rest hd.rewritten
  refine ⟨?_, ?_, hd.rewritten.trans h.rewritten, hd.asked.trans (h.asked.congr hplain hsame)⟩
  · refine List.forall_mem_cons.mpr ⟨hd.documented d List.mem_cons_self, fun e he => ?_⟩
    have hmem := List.mem_map_of_mem (f := Documented.path) he
    exact (h.documented e he).congr (hplain e.path hmem) (hsame e.path hmem)
  · refine List.forall_mem_cons.mpr ⟨?_, h.held⟩
    rw [ht.read_head hd.rewritten h.rewritten]
    exact hd.held d List.mem_cons_self

end Proceeded

/-- One file has been documented. -/
theorem proceeded_of_documentFileBy (hask : Noting ask)
    (hrun : ∀ p, Scheduled ask store settings.generation (run p))
    (hdry : settings.selection.dryRun = false) {location : List Text}
    (hleads : s.files.Leads p location) (h : documentFileBy (run p) settings p s = (.ok d, s')) :
    d.path = p ∧ Proceeded run store settings s s' [d] := by
  obtain rfl := path_of_documentFileBy h
  have hdone := exists_blocks (hrun d.path) h
  have hasked := onlyAsks_documentFileBy hask (hrun d.path) d.path s
  rw [h] at hasked
  obtain ⟨-, -, -, -, -, -, hwrite⟩ := documentFileBy_ok_cases h
  obtain ⟨hrewritten, hread⟩ := Files.rewritten_of_write hleads (hwrite hdry)
  refine ⟨rfl, ?_, ?_, hrewritten, .of_onlyAsks hasked⟩
  · exact List.forall_mem_singleton.mpr hdone
  · exact List.forall_mem_singleton.mpr hread

/-- All files have been documented. -/
theorem proceeded_of_ok (hask : Noting ask)
    (hrun : ∀ p, Scheduled ask store settings.generation (run p))
    (hdry : settings.selection.dryRun = false) (ht : s.files.Targets paths)
    (h : documentFilesBy run settings paths s = (.ok docs, s')) :
    docs.map Documented.path = paths ∧ Proceeded run store settings s s' docs := by
  induction paths generalizing s docs with
  | nil =>
    cases h
    exact ⟨rfl, .nil s'⟩
  | cons p rest ih =>
    obtain ⟨d, more, s₁, hone, hrest, rfl⟩ := documentFilesBy_ok_cases h
    obtain ⟨location, hleads⟩ := ht.leads p List.mem_cons_self
    obtain ⟨rfl, hd⟩ := proceeded_of_documentFileBy hask hrun hdry hleads hone
    obtain ⟨rfl, hmore⟩ := ih (ht.tail.rewritten hd.rewritten) hrest
    exact ⟨rfl, hd.cons hmore ht⟩

/-! ## Runs that fail -/

/-- Neither workers nor the splicing of comments fail as a source does. -/
theorem documentScript_ne_source {run : Runner} {settings : Generation.Settings}
    {script : Source.Parsed} {s : Session} {e : Source.Failure} :
    (documentScript run settings script s).1 ≠ .error (.source e) := by
  unfold documentScript
  split
  · simp
  · split
    · simp
    · simp only
      split <;> simp

/-- It is known from the failure of a draft whether the file could be read and understood, and if
not, nothing has been asked about it. -/
theorem draft_source_cases {run : Runner} {e : Failure}
    (h : draft run settings p s = (.error e, s')) (e' : Source.Failure) :
    (e = .source e' ↔ (Source.load s.files p settings.reader).1 = .error e')
      ∧ (e = .source e' → s'.session.asked = s.session.asked) := by
  rcases draft_cases run settings p s with
    ⟨e₁, hload, hdraft, hasked⟩ | ⟨script, s₁, hload, -, hdraft, -⟩
  · rw [h] at hdraft hasked
    cases hdraft
    refine ⟨?_, fun _ => hasked⟩
    rw [hload, Failure.source.injEq, Except.error.injEq]
  · rw [h] at hdraft
    have hne : e ≠ .source e' := by
      rintro rfl
      cases hscript : (documentScript run settings.generation script s₁).1 with
      | error e₁ =>
        rw [hscript] at hdraft
        cases hdraft
        exact documentScript_ne_source hscript
      | ok content =>
        rw [hscript] at hdraft
        cases hdraft
    refine ⟨iff_of_false hne ?_, fun heq => absurd heq hne⟩
    simp [hload]

/-- The same of a file that is to be written, which there is nothing in the way of. -/
theorem source_error_cases (hdry : settings.selection.dryRun = false) {run : Runner}
    {location : List Text} (hleads : s.files.Leads p location) {e : Failure}
    (h : documentFileBy run settings p s = (.error e, s')) (e' : Source.Failure) :
    (e = .source e' ↔ (Source.load s.files p settings.reader).1 = .error e')
      ∧ (e = .source e' → s'.session.asked = s.session.asked) := by
  rcases hdraft : draft run settings p s with ⟨e₁ | ⟨script, content⟩, s₁⟩
  · rw [documentFileBy_of_draft_error hdraft] at h
    cases h
    exact draft_source_cases hdraft e'
  · rw [documentFileBy_of_draft_ok hdraft] at h
    obtain ⟨hfiles, -⟩ := kept_of_draft hdraft
    obtain ⟨g, hwrite, -, -⟩ := Files.exists_write hleads (Encoding.encode content)
    simp [deliver, hdry, hfiles, hwrite] at h

/-! ## Directories -/

/--
A run over a directory that fails has come to one of the files that were collected, and fails there.
The files in front of it hold their documented texts, and no other file holds anything new: neither
the file itself, nor one behind it, nor one that was not collected. All that has been asked are
questions about the files in front of it, one after the other, and then about the file itself; none
about this one, if the run fails because the file cannot be read or understood.

Comments are texts and so have bytes: this says nothing of an answer with half of a surrogate pair,
which could not be written once the file is open.
-/
theorem documentDirectoryBy_error (hask : Noting ask)
    (hrun : ∀ p, Scheduled ask store settings.generation (run p))
    (hdry : settings.selection.dryRun = false) (hroot : s.files.root.WellNamed) {written : Text}
    {found : Files.Found}
    (hfound : s.files.collect (Path.ofText written) settings.selection.extensions = .ok found)
    {e : Failure} (h : documentDirectoryBy run settings written s = (.error e, s')) :
    ∃ front p back docs s₁, found.paths = front ++ p :: back
      ∧ documentFilesBy run settings front (s.log (collectedEntries found written)) = (.ok docs, s₁)
      ∧ documentFileBy (run p) settings p s₁ = (.error e, s')
      ∧ docs.map Documented.path = front
      ∧ (∀ d ∈ docs, IsDocumented run settings s.files d
        ∧ s'.files.read d.path = .ok (Encoding.encode d.content))
      ∧ (∀ q ∈ p :: back, s'.files.read q = s.files.read q)
      ∧ Files.Rewritten s.files s'.files front
      ∧ AskedInOrder store settings s.files front s.session s₁.session
      ∧ s₁.session.OnlyAsks (AsksAbout store settings s.files p) s'.session
      ∧ ∀ e', (e = .source e' ↔ (Source.load s.files p settings.reader).1 = .error e')
        ∧ (e = .source e' → s'.session.asked = s₁.session.asked) := by
  have htargets := Files.targets_of_collect hroot (Path.plain_ofText written) hfound
  rw [documentDirectoryBy_of_ok hfound] at h
  obtain ⟨front, p, back, docs, s₁, hpaths, hfront, hp⟩ := documentFilesBy_error_cases h
  rw [hpaths] at htargets
  obtain ⟨hdocs, hlogged⟩ := proceeded_of_ok (s := s.log _) hask hrun hdry htargets.left hfront
  have hdone := hlogged.of_log
  have hbehind : ∀ q ∈ p :: back, s₁.files.read q = s.files.read q :=
    fun q hq => hdone.rewritten.read_eq fun q' hq' => htargets.apart_append q' (hdocs ▸ hq') q hq
  have hmem := List.mem_cons_self (a := p) (l := back)
  have hleft : s'.files = s₁.files := files_of_documentFileBy_error hp
  have hload := load_congr (htargets.plain p (List.mem_append_right _ hmem)) (hbehind p hmem)
    settings.reader
  have hasked := onlyAsks_documentFileBy hask (hrun p) p s₁
  rw [hp] at hasked
  obtain ⟨location, hleads⟩ := htargets.leads p (List.mem_append_right _ hmem)
  refine ⟨front, p, back, docs, s₁, hpaths, hfront, hp, hdocs, ?_, ?_, ?_, ?_, ?_, ?_⟩
  · intro d hd
    rw [hleft]
    exact ⟨hdone.documented d hd, hdone.held d hd⟩
  · rw [hleft]
    exact hbehind
  · rw [hleft]
    exact hdocs ▸ hdone.rewritten
  · exact hdocs ▸ hdone.asked
  · refine hasked.mono fun q hq => ?_
    exact hq.congr (htargets.plain p (List.mem_append_right _ hmem)) (hbehind p hmem)
  · intro e'
    rw [← hload]
    exact source_error_cases hdry (hdone.rewritten.leads hleads) hp e'

/-! ## A directory to try -/

/-- Three files, of which the second ends in the middle of a function. -/
def unfinished : State :=
  .ofDirectory "src".toList [
    ("a.js".toList, Encoding.encode "function f() {}\n".toList),
    ("b.js".toList, Encoding.encode "function (".toList),
    ("c.js".toList, Encoding.encode "x;\n".toList)]

/-- The first file is documented, the others are as they were, and no third question is asked. -/
theorem documentDirectoryBy_error_unfinished :
    let run := fun _ => blocks commenting (Prompt.Store.packaged []) {}
    unfinished.files.root.WellNamed ∧ ∃ e s',
      documentDirectoryBy run {} "src".toList unfinished = (.error e, s')
        ∧ s'.session.asked.length = 2
        ∧ (s'.files.read (Path.ofText "src/a.js".toList)).toOption
          = some (Encoding.encode "/** d */\n\n/** d */\nfunction f() {}\n".toList)
        ∧ ∃ front p back, (front ++ p :: back).map Path.toText
            = ["src/a.js".toList, "src/b.js".toList, "src/c.js".toList]
          ∧ (∀ q ∈ p :: back, s'.files.read q = unfinished.files.read q)
          ∧ Files.Rewritten unfinished.files s'.files front := by
  intro run
  have hask : Noting commenting := noting_scripted _
  have hdry : ({} : Settings).selection.dryRun = false := rfl
  have hroot : unfinished.files.root.WellNamed :=
    wellNamed_ofDirectory (by decide) (by decide) (by decide)
  have hrun : ∀ p, Scheduled commenting (Prompt.Store.packaged []) ({} : Settings).generation (run p)
    := fun _ => scheduled_blocks commenting (Prompt.Store.packaged []) {}
  have hpaths : (unfinished.files.collect (Path.ofText "src".toList)
      ({} : Settings).selection.extensions).toOption.map (fun found => found.paths.map Path.toText)
        = some ["src/a.js".toList, "src/b.js".toList, "src/c.js".toList] := by
    decide +kernel
  have hends : (documentDirectoryBy run {} "src".toList unfinished).1.toOption.isNone = true
      ∧ (documentDirectoryBy run {} "src".toList unfinished).2.session.asked.length = 2
      ∧ ((documentDirectoryBy run {} "src".toList unfinished).2.files.read
          (Path.ofText "src/a.js".toList)).toOption
        = some (Encoding.encode "/** d */\n\n/** d */\nfunction f() {}\n".toList) := by
    decide +kernel
  obtain ⟨found, hfound, hlisted⟩ := exists_of_toOption_map hpaths
  rcases h : documentDirectoryBy run {} "src".toList unfinished with ⟨result, s'⟩
  rw [h] at hends
  cases result with
  | ok docs => cases hends.1
  | error e =>
    obtain ⟨front, p, back, -, -, hsplit, -, -, -, -, hbehind, hrewritten, -⟩ :=
      documentDirectoryBy_error hask hrun hdry hroot hfound h
    refine ⟨hroot, e, s', rfl, hends.2.1, hends.2.2, front, p, back, ?_, hbehind, hrewritten⟩
    rw [← hsplit]
    exact hlisted

end DocWeave.Documenting
