import DocWeave.Proofs.Config.Validity
import DocWeave.Proofs.Documenting.FirstAnswers
import DocWeave.Proofs.Generation.Failing
import DocWeave.Proofs.Prompt.Filling

/-!
# What relies on the configuration

Those who make prompts look at the comment style again, those who ask at the number of attempts, and
those who document files at the number of workers. By a configuration that can be reached they find
nothing to complain of, so files fail for other reasons only.

* `prepares_of_sound` — every question can be asked
* `isOfWork_of_documentFileBy` — why a file is not documented then
* `resolved_serves` — both, of whatever the layers hold
-/

namespace DocWeave

open Documenting Generation

/-! ## Questions -/

namespace Config

variable {c : Config}

/-- No style that has been resolved is unknown to those who make prompts. -/
theorem exists_label (hstyle : c.generation.style ∈ styleWords) :
    ∃ label, Prompt.label c.generation.style = .ok label := by
  have hwords : ∀ word ∈ styleWords, (Prompt.label word).toOption.isSome := by decide
  obtain ⟨label, hlabel⟩ := Option.isSome_iff_exists.mp (hwords _ hstyle)
  exact ⟨label, eq_ok_of_toOption hlabel⟩

/-- So it is for other reasons if there is no prompt. -/
theorem promptOfWord_ne_unknownStyle {style label : Text} (h : Prompt.label style = .ok label)
    (store : Prompt.Store) (code kind : Text) (name : Option Text) (word : Text) :
    store.promptOfWord code kind style name ≠ .error (.unknownStyle word) := by
  unfold Prompt.Store.promptOfWord
  split
  · next k _ =>
    unfold Prompt.Store.prompt
    simp only [h, bind, Except.bind]
    split
    · simp [Except.map]
    · simp [Except.map]
    · split <;> simp [Except.map]
  · simp [h]

/-- Who is allowed an attempt does not find that there are none. -/
theorem generateOfWord_ne_noAttempts {settings : Generation.Settings}
    (h : 1 ≤ settings.maxRetries) (ask : Asker) (store : Prompt.Store) (code kind : Text)
    (name : Option Text) (s : Session) (n : Int) :
    (generateOfWord ask store settings (some settings.maxRetries) code kind name s).1
      ≠ .error (.noAttempts n) := by
  intro hfails
  rcases perform_error_cases hfails with hprepared | hasking
  · unfold prepareOfWord at hprepared
    simp only [Option.getD_some] at hprepared
    rw [if_neg (by omega)] at hprepared
    split at hprepared <;> cases hprepared
  · exact hasking

theorem prepares_of_sound (hc : c.Sound) (home : Text) : Prepares (.packaged home) c.generation := by
  intro number span
  have hallowed : ¬ c.generation.maxRetries < 1 := by
    have := hc.maxRetries
    omega
  obtain ⟨prompt, hprompt⟩ :=
    Prompt.Store.exists_prompt hc.style home span.text span.docKind span.name
  simp only [job, prepare, Option.getD_some, if_neg hallowed, hprompt]
  exact ⟨_, rfl⟩

end Config

/-! ## Files -/

namespace Documenting

variable {ask : Asker} {store : Prompt.Store} {run : Runner} {settings : Settings} {p : Path}
  {s s' : State} {e : Failure}

/-- The file could not be used, asking for comments has failed, or comments have no place in it. -/
def Failure.IsOfWork : Failure → Prop
  | source _ => True
  | noWorkers => False
  | generation e => e.IsOfAsking
  | misplaced _ => True

theorem isOfWork_of_documentScript {settings : Generation.Settings}
    (hprepares : Prepares store settings) (hrun : Scheduled ask store settings run)
    (hworkers : 0 < settings.maxWorkers) {script : Source.Parsed} {s : Session}
    (h : (documentScript run settings script s).1 = .error e) : e.IsOfWork := by
  have houtcome := hrun hworkers (jobs script) s
  unfold documentScript at h
  rw [if_neg (by omega)] at h
  rcases hr : run (jobs script) s with ⟨e' | bs, s₁⟩
  · rw [hr] at houtcome h
    cases h
    rcases Pool.error_of_outcome houtcome with ⟨j, hj, hprepared⟩ | hasking
    · obtain ⟨t, ht⟩ := hprepares.of_mem_commentJobs j hj
      rw [ht] at hprepared
      cases hprepared
    · exact hasking
  · rw [hr] at h
    simp only at h
    split at h
    · cases h
    · cases h
      trivial

theorem isOfWork_of_documentFileBy (hprepares : Prepares store settings.generation)
    (hrun : Scheduled ask store settings.generation run)
    (hworkers : 0 < settings.generation.maxWorkers)
    (h : documentFileBy run settings p s = (.error e, s')) : e.IsOfWork := by
  rcases hdraft : draft run settings p s with ⟨e' | ⟨script, content⟩, s₁⟩
  · rw [documentFileBy_of_draft_error hdraft] at h
    cases h
    rcases draft_cases run settings p s with ⟨e', -, hfails, -⟩ | ⟨script, s₂, -, -, hfails, -⟩
    · rw [hdraft] at hfails
      cases hfails
      trivial
    · rw [hdraft] at hfails
      cases hscript : (documentScript run settings.generation script s₂).1 with
      | ok content =>
        rw [hscript] at hfails
        cases hfails
      | error e' =>
        rw [hscript] at hfails
        cases hfails
        exact isOfWork_of_documentScript hprepares hrun hworkers hscript
  · rw [documentFileBy_of_draft_ok hdraft] at h
    unfold deliver at h
    split at h
    · simp only at h
      split at h <;> cases h
    · split at h
      · cases h
      · cases h
        trivial

end Documenting

/-! ## Whatever the layers hold -/

namespace Config

/--
Whatever a file, the environment and the command line hold: if they can be read, the comment style is
one of the two that are known, there is one attempt and one worker at least, and every extension has
a point in front and no blanks around it. So no prompt is refused for its style, nobody who is asked
for a comment finds that no attempts are allowed, whatever the code, its kind and its name, and if a
file is not documented it is for what has come of reading, of asking or of placing comments.
-/
theorem resolved_serves {c₀ c₁ c : Config} {e : Environment} {o : Overrides} (hload : Loaded c₀)
    (he : c₀.withEnvironment e = .ok c₁) (ho : c₁.withOverrides o = .ok c) :
    (c.generation.style = "jsdoc".toList ∨ c.generation.style = "tsdoc".toList)
      ∧ 1 ≤ c.generation.maxRetries ∧ 1 ≤ c.generation.maxWorkers
      ∧ (∀ x ∈ c.selection.extensions, x ≠ [] ∧ x.head? = some '.' ∧ Blank.trim x = x)
      ∧ (∀ (store : Prompt.Store) (code kind : Text) (name : Option Text) (word : Text),
        store.promptOfWord code kind c.generation.style name ≠ .error (.unknownStyle word))
      ∧ (∀ (home code : Text) (kind : DocKind) (name : Option Text), ∃ prompt,
        (Prompt.Store.packaged home).prompt code kind c.generation.style name = .ok prompt)
      ∧ (∀ (ask : Asker) (store : Prompt.Store) (code kind : Text) (name : Option Text)
          (s : Session) (n : Int),
        (generateOfWord ask store c.generation (some c.generation.maxRetries) code kind name s).1
          ≠ .error (.noAttempts n))
      ∧ ∀ (ask : Asker) (home : Text) (reader : Reader) (run : Runner) (p : Path) (s s' : State)
          (failure : Documenting.Failure),
        Scheduled ask (.packaged home) c.generation run →
        documentFileBy run (Command.Run.settings reader c) p s = (.error failure, s') →
        failure.IsOfWork := by
  have hsound := (hload.sound.withEnvironment he).withOverrides ho
  have hretries := hsound.maxRetries
  obtain ⟨label, hlabel⟩ := exists_label hsound.style
  refine ⟨?_, hretries, hsound.maxWorkers, ?_, promptOfWord_ne_unknownStyle hlabel, ?_,
    generateOfWord_ne_noAttempts hretries, ?_⟩
  · simpa [styleWords] using hsound.style
  · intro x hx
    have h := hsound.extensions x hx
    exact ⟨h.ne_nil, h.point, h.trimmed⟩
  · exact fun home code kind name => Prompt.Store.exists_prompt hsound.style home code kind name
  · intro ask home reader run p s s' failure hrun h
    have hworkers : 0 < c.generation.maxWorkers := hsound.maxWorkers
    exact isOfWork_of_documentFileBy (prepares_of_sound hsound home) hrun hworkers h

/-- The contents of a file, written carelessly. -/
def scribbled : Value := .map [
  (.text "generation".toList, .map [
    (.text "max_retries".toList, .text " 2 ".toList),
    (.text "max_workers".toList, .int 1)]),
  (.text "walker".toList, .map [
    (.text "supported_extensions".toList,
      .list [.text " ts ".toList, .null, .text "\t".toList, .bool true])])]

/-- They are read, and what they say can be relied on. -/
theorem resolved_serves_scribbled :
    let e := Environment.ofList [("AUTOSCRIBE_FORMAT", " TSDoc")]
    ∃ c₀ c₁ c, ofValue scribbled = .ok c₀ ∧ c₀.withEnvironment e = .ok c₁
      ∧ c₁.withOverrides {} = .ok c
      ∧ c.generation.style = "tsdoc".toList
      ∧ c.selection.extensions = [".ts".toList, ".None".toList, ".True".toList]
      ∧ 1 ≤ c.generation.maxRetries
      ∧ (∀ x ∈ c.selection.extensions, x ≠ [] ∧ x.head? = some '.' ∧ Blank.trim x = x)
      ∧ ∀ home code kind name, ∃ prompt,
        (Prompt.Store.packaged home).prompt code kind c.generation.style name = .ok prompt := by
  intro e
  have hresolved : (ofValue scribbled >>= fun c₀ => c₀.withEnvironment e >>= fun c₁ =>
      c₁.withOverrides {}).toOption.map (fun c : Config => (c.generation.style, c.selection.extensions))
        = some ("tsdoc".toList, [".ts".toList, ".None".toList, ".True".toList]) := by
    decide +kernel
  obtain ⟨c, hc, hsettings⟩ := exists_of_toOption_map hresolved
  obtain ⟨c₀, hload, hc⟩ := exists_of_bind_eq_ok hc
  obtain ⟨c₁, he, ho⟩ := exists_of_bind_eq_ok hc
  obtain ⟨-, hretries, -, hextensions, -, hprompts, -⟩ := resolved_serves (.read hload) he ho
  exact ⟨c₀, c₁, c, hload, he, ho, congrArg Prod.fst hsettings, congrArg Prod.snd hsettings,
    hretries, hextensions, hprompts⟩

end Config

end DocWeave
