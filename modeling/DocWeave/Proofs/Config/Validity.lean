import DocWeave.Command
import DocWeave.Proofs.Config.Layers

/-!
# Configurations that can be reached

Every layer of a configuration reads its settings from values of any kind, and what it does not name
it leaves as it is. So whatever the layers hold, a configuration that has been made of them is one by
which comments can be asked for.

* `Sound` — what is known of every configuration
* `Loaded.sound`, `Sound.withEnvironment`, `Sound.withOverrides` — layer by layer
* `sound_of_configure` — and of all that the program itself puts together
-/

namespace DocWeave

namespace Config

variable {c c' : Config} {o : Overrides}

/-! ## Settings that have been read -/

theorem mem_styleWords_of_style {v : Value} {s : Text} (h : style v = .ok s) : s ∈ styleWords := by
  obtain ⟨t, -, hword, rfl⟩ := style_eq_ok_iff.mp h
  exact hword

theorem pos_of_count {name : Text} {v : Value} {n : Int} (h : count name v = .ok n) : 1 ≤ n :=
  (count_eq_ok_iff.mp h).2.2

/-- What is known of a default and of all that is read is known of a setting. -/
theorem of_readOr {α β : Type} {P : β → Prop} {given? : Option α} {default b : β}
    {read : α → Except Problem β} (hdefault : P default) (hread : ∀ a b, read a = .ok b → P b)
    (h : readOr given? default read = .ok b) : P b := by
  rcases readOr_eq_ok_iff.mp h with ⟨-, rfl⟩ | ⟨a, -, ha⟩
  · exact hdefault
  · exact hread a b ha

/-! ## Sound configurations -/

/-- Comments can be asked for: in a style that is known, at least once, and by somebody. Files are
known by extensions that are in order. -/
structure Sound (c : Config) : Prop where
  style : c.generation.style ∈ styleWords
  maxRetries : 1 ≤ c.generation.maxRetries
  maxWorkers : 1 ≤ c.generation.maxWorkers
  extensions : ∀ x ∈ c.selection.extensions, IsExtension x

theorem sound_default : ({} : Config).Sound where
  style := List.mem_cons_self
  maxRetries := by decide
  maxWorkers := by decide
  extensions := by
    intro x hx
    have hread : extensionsOfText ".js,.jsx,.ts".toList = ({} : Config).selection.extensions := rfl
    exact isExtension_of_mem_extensionsOfText (hread ▸ hx)

theorem sound_of_ofValue {v : Value} (h : ofValue v = .ok c) : c.Sound := by
  obtain ⟨-, -, entries, walker, -, -, -, -, -, -, hgeneration, hselection, -⟩ := ofValue_ok_cases h
  unfold generationSection at hgeneration
  obtain ⟨style, hstyle, hgeneration⟩ := exists_of_bind_eq_ok hgeneration
  obtain ⟨maxRetries, hretries, hgeneration⟩ := exists_of_bind_eq_ok hgeneration
  obtain ⟨delay, -, hgeneration⟩ := exists_of_bind_eq_ok hgeneration
  obtain ⟨maxWorkers, hworkers, hgeneration⟩ := exists_of_bind_eq_ok hgeneration
  unfold selectionSection at hselection
  obtain ⟨xs, hextensions, hselection⟩ := exists_of_bind_eq_ok hselection
  obtain ⟨dryRun, -, hselection⟩ := exists_of_bind_eq_ok hselection
  have hgeneration : _ = c.generation := Except.ok.inj hgeneration
  have hselection : _ = c.selection := Except.ok.inj hselection
  constructor
  · rw [← hgeneration]
    exact of_readOr sound_default.style (fun _ _ => mem_styleWords_of_style) hstyle
  · rw [← hgeneration]
    exact of_readOr sound_default.maxRetries (fun _ _ => pos_of_count) hretries
  · rw [← hgeneration]
    exact of_readOr sound_default.maxWorkers (fun _ _ => pos_of_count) hworkers
  · rw [← hselection]
    exact of_readOr (P := fun xs => ∀ x ∈ xs, IsExtension x) sound_default.extensions
      (fun _ _ => isExtension_of_extensions) hextensions

theorem Loaded.sound (hc : Loaded c) : c.Sound := by
  cases hc with
  | builtIn => exact sound_default
  | read h => exact sound_of_ofValue h

/-! ## Layers -/

theorem Sound.withEnvironment {e : Environment} (hc : c.Sound) (h : c.withEnvironment e = .ok c') :
    c'.Sound := by
  obtain ⟨s, n, b, hs, hn, -, rfl⟩ := withEnvironment_ok_cases h
  refine ⟨of_readOr hc.style (fun _ _ => mem_styleWords_of_style) hs,
    of_readOr hc.maxRetries (fun _ _ => pos_of_count) hn, hc.maxWorkers, ?_⟩
  intro x hx
  simp only at hx
  split at hx
  · next y more hread =>
    obtain ⟨t, -, ht⟩ := Option.map_eq_some_iff.mp hread
    exact isExtension_of_mem_extensionsOfText (ht ▸ hx)
  · exact hc.extensions x hx

theorem Sound.withOverrides (hc : c.Sound) (h : c.withOverrides o = .ok c') : c'.Sound := by
  obtain ⟨s, hs, rfl⟩ := withOverrides_ok_cases h
  refine ⟨?_, hc.maxRetries, hc.maxWorkers, hc.extensions⟩
  split at hs
  · exact mem_styleWords_of_style hs
  · cases hs
    exact hc.style

end Config

namespace Command

variable {w : World} {file : Option Text} {c : Config}

/-- What the program puts together has been loaded, and the environment has had its say. -/
theorem configure_ok_cases (h : (configure w file).1 = .ok c) :
    ∃ c₀, (Config.load w.files file).1 = .ok c₀ ∧ c₀.withEnvironment w.environment = .ok c := by
  unfold configure at h
  simp only at h
  cases hload : (Config.load w.files file).1 with
  | error p =>
    rw [hload] at h
    cases h
  | ok c₀ =>
    rw [hload] at h
    cases henv : c₀.withEnvironment w.environment with
    | error p =>
      simp only [Except.bind, henv] at h
      cases h
    | ok c' =>
      simp only [Except.bind, henv] at h
      cases h
      exact ⟨c₀, rfl, henv⟩

end Command

/-- Whatever a file and the environment hold, comments can be asked for by a configuration that has
been made of them. -/
theorem Config.sound_of_configure {w : Command.World} {file : Option Text} {c : Config}
    (h : (Command.configure w file).1 = .ok c) : c.Sound := by
  obtain ⟨c₀, hload, henv⟩ := Command.configure_ok_cases h
  exact (Config.loaded_of_load hload).sound.withEnvironment henv

end DocWeave
