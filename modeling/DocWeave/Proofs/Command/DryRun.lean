import DocWeave.Proofs.Config.Validity
import DocWeave.Proofs.Documenting.DryRun

/-!
# Calls for a dry run

The switch for a dry run has the last word: whatever a file or the environment says, a call that has
it is a dry run, and changes no file.

* `readCall_ok_cases`, `dryRun_of_withOverrides` — from the arguments to the configuration
* `files_work_dry` — from the configuration to the files
* `dryRun_faithful` — and what a dry run hands out is what is written otherwise
-/

namespace DocWeave.Command

variable {w : World} {f : Files} {store : Prompt.Store} {arguments : List Text} {call : Call}
  {c c' : Config} {o : Config.Overrides}

/-! ## From the arguments to the configuration -/

/-- What is known of the settings of a call: they have been read from its switches. -/
theorem readCall_ok_cases {k : Kind} (h : readCall f k arguments = .ok (some call)) :
    ∃ g, Arguments.read k.switches true arguments = .ok g
      ∧ styleValue g = .ok call.overrides.style
      ∧ call.overrides.dryRun = if g.has "--dry-run" then some true else none := by
  unfold readCall at h
  obtain ⟨g, hread, h⟩ := exists_of_bind_eq_ok h
  refine ⟨g, hread, ?_⟩
  split at h
  · cases h
  · obtain ⟨style, hstyle, h⟩ := exists_of_bind_eq_ok h
    obtain ⟨path, -, h⟩ := exists_of_bind_eq_ok h
    split at h
    · cases h
      exact ⟨hstyle, rfl⟩
    · cases h

/-- A comment style that has been given is one that is known. -/
theorem exists_style {g : Given} {v : Value} (h : styleValue g = .ok v) (hv : v.isGiven = true) :
    ∃ style, Config.style v = .ok style := by
  unfold styleValue at h
  split at h
  · cases h
    cases hv
  · next t _ =>
    split at h
    · next ht =>
      cases h
      have hmem : t = "jsdoc".toList ∨ t = "tsdoc".toList := by
        simpa [Prompt.styles] using ht
      rcases hmem with rfl | rfl <;> exact ⟨_, rfl⟩
    · cases h

/-- The layer of the command line decides on dry runs, if it says anything about them. -/
theorem dryRun_of_withOverrides (h : c.withOverrides o = .ok c') :
    c'.selection.dryRun = o.dryRun.getD c.selection.dryRun := by
  obtain ⟨style, -, rfl⟩ := Config.withOverrides_ok_cases h
  rfl

theorem exists_withOverrides (c : Config)
    (h : o.style.isGiven = true → ∃ style, Config.style o.style = .ok style) :
    ∃ c', c.withOverrides o = .ok c' := by
  unfold Config.withOverrides
  by_cases hgiven : o.style.isGiven = true
  · obtain ⟨style, hstyle⟩ := h hgiven
    simp only [if_pos hgiven, hstyle]
    exact ⟨_, rfl⟩
  · simp only [if_neg hgiven]
    exact ⟨_, rfl⟩

/-! ## From the configuration to the files -/

theorem files_document_dry (ask : Asker) (reader : Reader) (hdry : c.selection.dryRun = true)
    (written : Text) (s : Documenting.State) :
    (Run.document ask store reader c written s).2.files = s.files := by
  unfold Run.document
  split
  · exact Documenting.files_of_documentDirectoryBy_dry hdry written s
  · exact Documenting.files_of_documentFileBy_dry hdry

/-- A call for a dry run leaves the files as they are, whatever it comes to. -/
theorem files_work_dry (ho : o.dryRun = some true) (recursive : Bool) (path : Option Text) :
    (Run.work w f store c o recursive path).files = f := by
  unfold Run.work
  simp only
  split
  · rfl
  · next c' hc =>
    have hdry : c'.selection.dryRun = true := by
      rw [dryRun_of_withOverrides hc, ho, Option.getD_some]
    split
    · rfl
    · split
      · rfl
      · exact files_document_dry _ _ hdry _ _

/-! ## What a dry run tells -/

section Faithful

open Documenting Generation

/--
A dry run of a directory changes no file, whatever it comes to. Where it fails, so does a run that
writes, on whatever schedule. Where it succeeds, so does the other: it documents the same files with
the same spans and texts, and what the dry run hands out is, in this order, what the other writes
and leaves in the files.

A call with the switch for dry runs is a dry run, whatever configuration has been loaded.

Comments are texts and so have bytes: an answer with half of a surrogate pair, which could be shown
but not written, is none.
-/
theorem dryRun_faithful {ask : Asker} {settings : Documenting.Settings} {run run' : Path → Runner}
    (hask : Steady ask) (hrun : ∀ p, Scheduled ask store settings.generation (run p))
    (hrun' : ∀ p, Scheduled ask store settings.generation (run' p)) {s : State}
    (hroot : s.files.root.WellNamed) (written : Text) (session : Session) :
    let dry := documentDirectoryBy run (settings.withDryRun true) written s
    let real := documentDirectoryBy run' (settings.withDryRun false) written { s with session }
    dry.2.files = s.files
      ∧ (∀ e, dry.1 = .error e → real.1 = .error e)
      ∧ (∀ docs, dry.1 = .ok docs →
        real.1 = .ok (docs.map Documented.asWritten)
          ∧ (∀ d ∈ docs, d.written = false)
          ∧ (settings.observed = true → dry.2.shown = s.shown ++ docs.map Documented.delivery)
          ∧ s.files.writeAll (docs.map Documented.delivery) = .ok real.2.files
          ∧ ∀ d ∈ docs, real.2.files.read d.path = .ok (Encoding.encode d.content))
      ∧ ∀ (w : World) (file : Option Text) (c : Config) (f : Files) (arguments : List Text)
          (g : Given) (call : Call),
        (configure w file).1 = .ok c → Arguments.read Kind.run.switches true arguments = .ok g →
        g.has "--dry-run" = true → readCall f .run arguments = .ok (some call) →
        ∃ c', c.withOverrides call.overrides = .ok c' ∧ c'.selection.dryRun = true
          ∧ (work w f c .run call).files = f := by
  intro dry real
  obtain ⟨paths, htargets, hmirrors⟩ :=
    mirrors_documentDirectoryBy hask hrun hrun' hroot written session
  refine ⟨files_of_documentDirectoryBy_dry rfl written s, ?_, ?_, ?_⟩
  · intro e he
    rcases hmirrors with ⟨e', hdry, hreal⟩ | ⟨docs, hdry, -⟩
    · cases hdry.symm.trans he
      exact hreal
    · cases hdry.symm.trans he
  · intro docs hdocs
    rcases hmirrors with ⟨e, hdry, -⟩ | ⟨docs', hdry, hreal, hpaths, hunwritten, hshown, hwritten⟩
    · cases hdry.symm.trans hdocs
    · cases hdry.symm.trans hdocs
      have hfirsts : (docs.map Documented.delivery).map Prod.fst = paths := by
        rw [← hpaths, List.map_map]
        rfl
      obtain ⟨g, hg, -, hread⟩ := Files.exists_writeAll (hfirsts ▸ htargets)
      obtain rfl : g = real.2.files := Except.ok.inj (hg.symm.trans hwritten)
      exact ⟨hreal, hunwritten, hshown, hwritten, fun d hd => hread _ (List.mem_map_of_mem hd)⟩
  · intro w file c f arguments g call _ hread hgiven hcall
    obtain ⟨g', hread', hstyle, hdry⟩ := readCall_ok_cases hcall
    cases hread.symm.trans hread'
    rw [if_pos hgiven] at hdry
    obtain ⟨c', hc'⟩ := exists_withOverrides c (exists_style hstyle)
    refine ⟨c', hc', ?_, files_work_dry hdry _ _⟩
    rw [dryRun_of_withOverrides hc', hdry, Option.getD_some]

/-- A world in which a variable of the environment speaks of dry runs. -/
def World.withDryRun (files : Files) (value : Text) : World where
  files := files
  environment name := if name = "DRY_RUN" then some value else none
  service _ _ := .error .noKey
  home := []
  now := 0.0
  time := default

/-- Two files, not in the order of their names. -/
def listed : State :=
  .ofDirectory "src".toList [
    ("b.js".toList, Encoding.encode "x;\n".toList),
    ("a.js".toList, Encoding.encode "function f() {}\n".toList)]

/-- What is shown of two files is what is written to them, and a call for it is heard although the
environment says no, or nothing at all. -/
theorem dryRun_faithful_listed :
    let run := fun _ => blocks commenting (Prompt.Store.packaged []) {}
    let settings : Documenting.Settings := { observed := true }
    let real := documentDirectoryBy run (settings.withDryRun false) "src".toList listed
    listed.files.root.WellNamed ∧ (∃ docs : List Documented,
      (documentDirectoryBy run (settings.withDryRun true) "src".toList listed).1 = .ok docs
        ∧ docs.map (fun d => (d.path.toText, d.content)) = [
          ("src/a.js".toList, "/** d */\n\n/** d */\nfunction f() {}\n".toList),
          ("src/b.js".toList, "/** d */\n\nx;\n".toList)]
        ∧ real.1 = .ok (docs.map Documented.asWritten)
        ∧ listed.files.writeAll (docs.map Documented.delivery) = .ok real.2.files)
      ∧ ∀ value ∈ ["false".toList, []], ∃ c call c',
        (configure (World.withDryRun listed.files value) none).1 = .ok c
          ∧ c.selection.dryRun = false
          ∧ readCall listed.files .run ["--dry-run".toList, "-r".toList, "src".toList]
            = .ok (some call)
          ∧ c.withOverrides call.overrides = .ok c' ∧ c'.selection.dryRun = true := by
  intro run settings real
  have hask : Steady commenting := fun _ _ _ => rfl
  have hrun : ∀ p, Scheduled commenting (Prompt.Store.packaged []) settings.generation (run p) :=
    fun _ => scheduled_blocks commenting (Prompt.Store.packaged []) {}
  have hroot : listed.files.root.WellNamed :=
    wellNamed_ofDirectory (by decide) (by decide) (by decide)
  obtain ⟨-, -, hdone, hcalls⟩ :=
    dryRun_faithful hask hrun hrun hroot "src".toList listed.session
  refine ⟨hroot, ?_, ?_⟩
  · have hshown : (documentDirectoryBy run (settings.withDryRun true) "src".toList
        listed).1.toOption.map (List.map fun d => (d.path.toText, d.content)) = some [
          ("src/a.js".toList, "/** d */\n\n/** d */\nfunction f() {}\n".toList),
          ("src/b.js".toList, "/** d */\n\nx;\n".toList)] := by
      decide +kernel
    obtain ⟨docs, hdocs, htexts⟩ := exists_of_toOption_map hshown
    obtain ⟨hreal, -, -, hwritten, -⟩ := hdone docs hdocs
    exact ⟨docs, hdocs, htexts, hreal, hwritten⟩
  · intro value hvalue
    have hread : (Arguments.read Kind.run.switches true
        ["--dry-run".toList, "-r".toList, "src".toList]).toOption.map (Given.has · "--dry-run")
          = some true := by
      decide +kernel
    have hcall : (readCall listed.files .run
        ["--dry-run".toList, "-r".toList, "src".toList]).toOption.map Option.isSome = some true := by
      decide +kernel
    have hloaded : (configure (World.withDryRun listed.files value) none).1.toOption.map
        (fun c => c.selection.dryRun) = some false := by
      revert value
      decide +kernel
    obtain ⟨g, hg, hgiven⟩ := exists_of_toOption_map hread
    obtain ⟨asked, hasked, hsome⟩ := exists_of_toOption_map hcall
    obtain ⟨call, rfl⟩ := Option.isSome_iff_exists.mp hsome
    obtain ⟨c, hc, hno⟩ := exists_of_toOption_map hloaded
    obtain ⟨c', hc', hdry, -⟩ :=
      hcalls (World.withDryRun listed.files value) none c listed.files _ g call hc hg hgiven hasked
    exact ⟨c, call, c', hc, hno, hasked, hc', hdry⟩

end Faithful

end DocWeave.Command
