import DocWeave.Proofs.Config.Layers
import Mathlib.Tactic.MkIffOfInductiveProp

/-!
# The contents of a file

A file may hold any value. Only some of what can be wrong with it is told: that a value is of the
wrong kind is told in a few places, and not at all where a setting is kept as it was given.

* `Shaped`, `Malformed`, `Typed` — everything is of the kind that is looked for there; something is
  bad of which the user is told; settings that are kept as they are given are of the kind they should be
* `reads_ofValue` — the contents can be read exactly if they are shaped and not malformed
* `ofValue_contract` — which contents are read into a configuration of the right kinds or told of
-/

namespace DocWeave

/-! ## Kinds of values -/

namespace Value

def IsText : Value → Prop
  | text _ => True
  | _ => False

theorem isText_iff {v : Value} : v.IsText ↔ ∃ t, v = text t := by
  cases v <;> simp [IsText]

/-- Truth values count as whole numbers. -/
def IsWhole : Value → Prop
  | bool _ => True
  | int _ => True
  | _ => False

/-- Whole numbers count as numbers. -/
def IsReal : Value → Prop
  | bool _ => True
  | int _ => True
  | float _ => True
  | _ => False

/-- What a value stands for by names, if it is a map. -/
def entries : Value → List (Value × Value)
  | map es => es
  | _ => []

end Value

namespace Config

variable {v : Value} {c : Config} {es : List (Value × Value)}

/-! ## Sections and settings -/

/-- A section holds settings, or counts as nothing. -/
def IsSection (v : Value) : Prop := (∃ es, v = .map es) ∨ v.isGiven = false

theorem reads_sectionOf (v : Value) : Reads (sectionOf v) (IsSection v) False := by
  unfold sectionOf
  split
  · next es => exact (Reads.of_ok es).congr (by simp [IsSection]) Iff.rfl
  · next hmap =>
    have hno : ¬ ∃ es, v = .map es := fun ⟨es, hes⟩ => hmap es hes
    by_cases hgiven : v.isGiven = true
    · rw [if_pos hgiven]
      exact (Reads.of_untold rfl).congr (by simp [IsSection, hno, hgiven]) Iff.rfl
    · rw [if_neg hgiven]
      exact (Reads.of_ok []).congr (by simp [IsSection, hgiven]) Iff.rfl

theorem entries_of_sectionOf (h : sectionOf v = .ok es) : es = v.entries := by
  unfold sectionOf at h
  split at h
  · cases h
    rfl
  · next hmap =>
    split at h
    · cases h
    · cases h
      cases v with
      | map es => exact absurd rfl (hmap es)
      | _ => rfl

/-- The section of a name; there may be nothing. -/
def sectionAt (v : Value) (name : String) : Value := (find? v.entries name).getD .null

/-- What is given for a setting, if it is. -/
def setting? (v : Value) (sectionName name : String) : Option Value :=
  find? (sectionAt v sectionName).entries name

/-- If a setting is given, it is as `P` says. -/
def IfGiven (given? : Option Value) (P : Value → Prop) : Prop := ∀ s, given? = some s → P s

/-- A setting is given, and it is as `P` says. -/
def Given (given? : Option Value) (P : Value → Prop) : Prop := ∃ s, given? = some s ∧ P s

/-- A default that is as `P` says does no harm. -/
theorem getD_iff_ifGiven {given? : Option Value} {default : Value} {P : Value → Prop}
    (h : P default) : P (given?.getD default) ↔ IfGiven given? P := by
  cases given? with
  | none => simp [IfGiven, h]
  | some s => simp [IfGiven]

/-- Everything is of the kind that is looked for: sections hold settings, a style is a text, a delay
is a number and extensions are a text or a list, and what is read from its plain text has one. -/
structure Shaped (v : Value) : Prop where
  whole : IsSection v
  sections : ∀ name ∈ ["api", "generation", "walker", "logging"], IsSection (sectionAt v name)
  style : IfGiven (setting? v "generation" "output_format") Value.IsText
  maxRetries : IfGiven (setting? v "generation" "max_retries") (·.isWritable = true)
  retryBaseDelay : IfGiven (setting? v "generation" "retry_base_delay") IsNumber
  maxWorkers : IfGiven (setting? v "generation" "max_workers") (·.isWritable = true)
  extensions : IfGiven (setting? v "walker" "supported_extensions") IsListing
  dryRun : IfGiven (setting? v "walker" "dry_run") (·.isWritable = true)

/-- There is a bad value of which the user is told. -/
def Malformed (v : Value) : Prop :=
  Given (setting? v "generation" "output_format") IsBadStyle
    ∨ Given (setting? v "generation" "max_retries") IsBadCount
    ∨ Given (setting? v "generation" "max_workers") IsBadCount
    ∨ Given (setting? v "walker" "dry_run") IsBadFlag

/-- Settings that are kept as they are given are of the kind they should be. -/
@[mk_iff]
structure Typed (v : Value) : Prop where
  model : IfGiven (setting? v "api" "model") Value.IsText
  maxTokens : IfGiven (setting? v "api" "max_tokens") Value.IsWhole
  temperature : IfGiven (setting? v "api" "temperature") Value.IsReal
  perMinute : IfGiven (setting? v "api" "rate_limit_rpm") Value.IsWhole
  level : IfGiven (setting? v "logging" "level") Value.IsText
  format : IfGiven (setting? v "logging" "format") Value.IsText
  file : IfGiven (setting? v "logging" "file") fun s => s = .null ∨ s.IsText

/-- The same of a configuration. The other settings have been read, and cannot be of another kind. -/
@[mk_iff]
structure IsTyped (c : Config) : Prop where
  model : c.client.model.IsText
  maxTokens : c.client.maxTokens.IsWhole
  temperature : c.client.temperature.IsReal
  perMinute : c.client.perMinute.IsWhole
  level : c.logging.level.IsText
  format : c.logging.format.IsText
  file : c.logging.file = .null ∨ c.logging.file.IsText

/-- What is kept as it is given is of the right kind exactly if it was. -/
theorem isTyped_iff_of_ofValue (h : ofValue v = .ok c) : c.IsTyped ↔ Typed v := by
  obtain ⟨whole, client, -, -, logging, hwhole, hclient, -, -, hlogging, -, -, hc, hl⟩ :=
    ofValue_ok_cases h
  obtain rfl := entries_of_sectionOf hwhole
  obtain rfl := entries_of_sectionOf hclient
  obtain rfl := entries_of_sectionOf hlogging
  rw [isTyped_iff, typed_iff, hc, hl]
  exact and_congr (getD_iff_ifGiven trivial) <| and_congr (getD_iff_ifGiven trivial) <|
    and_congr (getD_iff_ifGiven trivial) <| and_congr (getD_iff_ifGiven trivial) <|
    and_congr (getD_iff_ifGiven trivial) <| and_congr (getD_iff_ifGiven trivial)
      (getD_iff_ifGiven (P := fun s => s = .null ∨ s.IsText) (Or.inl rfl))

/-! ## Readings -/

theorem reads_generationSection (es : List (Value × Value)) :
    Reads (generationSection es)
      (IfGiven (find? es "output_format") Value.IsText
        ∧ IfGiven (find? es "max_retries") (·.isWritable = true)
        ∧ IfGiven (find? es "retry_base_delay") IsNumber
        ∧ IfGiven (find? es "max_workers") (·.isWritable = true))
      (Given (find? es "output_format") IsBadStyle
        ∨ Given (find? es "max_retries") IsBadCount
        ∨ Given (find? es "max_workers") IsBadCount) := by
  let base : Generation.Settings := {}
  have hstyle := Reads.readOr (find? es "output_format") base.style reads_style
  have hretries := Reads.readOr (find? es "max_retries") base.maxRetries
    (reads_count "generation.max_retries".toList)
  have hdelay := Reads.readOr (find? es "retry_base_delay") base.retryBaseDelay reads_number
  have hworkers := Reads.readOr (find? es "max_workers") base.maxWorkers
    (reads_count "generation.max_workers".toList)
  refine (hstyle.bind fun _ _ => hretries.bind fun _ _ => hdelay.bind fun _ _ =>
    hworkers.bind fun _ _ => Reads.of_ok _).congr ?_ ?_
  · simp [IfGiven, Value.isText_iff]
  · simp [Given]

theorem reads_selectionSection (es : List (Value × Value)) :
    Reads (selectionSection es)
      (IfGiven (find? es "supported_extensions") IsListing
        ∧ IfGiven (find? es "dry_run") (·.isWritable = true))
      (Given (find? es "dry_run") IsBadFlag) := by
  let base : Selection := {}
  have hextensions := Reads.readOr (find? es "supported_extensions") base.extensions
    reads_extensions
  have hdryRun := Reads.readOr (find? es "dry_run") base.dryRun
    (reads_flag "walker.dry_run".toList)
  refine (hextensions.bind fun _ _ => hdryRun.bind fun _ _ => Reads.of_ok _).congr ?_ ?_
  · simp [IfGiven]
  · simp [Given]

/-- The contents can be read exactly if they are shaped and not malformed, and if not, the one or the
other is told of. -/
theorem reads_ofValue (v : Value) : Reads (ofValue v) (Shaped v) (Malformed v) := by
  have hsection (es : List (Value × Value)) (name : String) :
      Reads (subsection es name) (IsSection ((find? es name).getD .null)) False :=
    reads_sectionOf _
  have hall : Reads (ofValue v) _ _ := (reads_sectionOf v).bind fun whole hwhole => by
    obtain rfl := entries_of_sectionOf hwhole
    exact (hsection v.entries "api").bind fun _ _ =>
      (hsection v.entries "generation").bind fun generation hgeneration => by
        obtain rfl := entries_of_sectionOf hgeneration
        exact (reads_generationSection _).bind fun _ _ =>
          (hsection v.entries "walker").bind fun walker hwalker => by
            obtain rfl := entries_of_sectionOf hwalker
            exact (reads_selectionSection _).bind fun _ _ =>
              (hsection v.entries "logging").bind fun _ _ => Reads.of_ok _
  refine hall.congr ?_ ?_
  · constructor
    · rintro ⟨hv, hapi, hgeneration, ⟨hstyle, hretries, hdelay, hworkers⟩, hwalker,
        ⟨hextensions, hdryRun⟩, hlogging, -⟩
      refine ⟨hv, ?_, hstyle, hretries, hdelay, hworkers, hextensions, hdryRun⟩
      simpa [sectionAt] using ⟨hapi, hgeneration, hwalker, hlogging⟩
    · rintro ⟨hv, hsections, hstyle, hretries, hdelay, hworkers, hextensions, hdryRun⟩
      exact ⟨hv, hsections "api" (by simp), hsections "generation" (by simp),
        ⟨hstyle, hretries, hdelay, hworkers⟩, hsections "walker" (by simp),
        ⟨hextensions, hdryRun⟩, hsections "logging" (by simp), trivial⟩
  · simp only [false_or, or_false, or_assoc]
    rfl

/-! ## What becomes of the contents -/

/-- There is a configuration of the right kinds, or the user is told why there is none. -/
def KeepsContract (read : Except Problem Config) : Prop :=
  (∃ c, read = .ok c ∧ c.IsTyped) ∨ ∃ p, read = .error p ∧ p.isTold = true

/--
The contents of a file are read into a configuration exactly if they are shaped and not malformed.
The user is told of malformed contents only, and of all others that cannot be read the program says
nothing in its own words. What has been read is of the right kinds exactly if what is kept as it is
given was.

So contents that are shaped are read into the right kinds or told of, unless they hold something of
a wrong kind that is kept; and if they are not malformed, nothing is told at all, whatever shape they
have.
-/
theorem ofValue_contract (v : Value) :
    ((∃ c, ofValue v = .ok c) ↔ Shaped v ∧ ¬ Malformed v)
      ∧ (∀ p, ofValue v = .error p → p.isTold = true → Malformed v)
      ∧ (∀ p, ofValue v = .error p → p.isTold = false → ¬ Shaped v)
      ∧ (∀ c, ofValue v = .ok c → (c.IsTyped ↔ Typed v))
      ∧ (Shaped v → (KeepsContract (ofValue v) ↔ Malformed v ∨ Typed v))
      ∧ (¬ Malformed v → (KeepsContract (ofValue v) ↔ Shaped v ∧ Typed v)) := by
  have hreads := reads_ofValue v
  refine ⟨hreads.ok_iff, hreads.bad_of_told, hreads.not_fits_of_untold,
    fun c => isTyped_iff_of_ofValue, ?_, ?_⟩
  · intro hshaped
    constructor
    · rintro (⟨c, hc, htyped⟩ | ⟨p, hp, htold⟩)
      · exact Or.inr ((isTyped_iff_of_ofValue hc).mp htyped)
      · exact Or.inl (hreads.bad_of_told p hp htold)
    · intro h
      by_cases hmalformed : Malformed v
      · exact Or.inr ((hreads.told_iff hshaped).mpr hmalformed)
      · obtain ⟨c, hc⟩ := hreads.ok_iff.mpr ⟨hshaped, hmalformed⟩
        have htyped := h.resolve_left hmalformed
        exact Or.inl ⟨c, hc, (isTyped_iff_of_ofValue hc).mpr htyped⟩
  · intro hgood
    constructor
    · rintro (⟨c, hc, htyped⟩ | ⟨p, hp, htold⟩)
      · exact ⟨(hreads.ok_iff.mp ⟨c, hc⟩).1, (isTyped_iff_of_ofValue hc).mp htyped⟩
      · exact absurd (hreads.bad_of_told p hp htold) hgood
    · rintro ⟨hshaped, htyped⟩
      obtain ⟨c, hc⟩ := hreads.ok_iff.mpr ⟨hshaped, hgood⟩
      exact Or.inl ⟨c, hc, (isTyped_iff_of_ofValue hc).mpr htyped⟩

/-- One setting, in a section. -/
def inSection (sectionName name : String) (s : Value) : Value :=
  .map [(.text sectionName.toList, .map [(.text name.toList, s)])]

/-- Of a word that stands for a delay nobody is told, and a number that stands for a model is kept. -/
theorem ofValue_contract_abc :
    let delayed := inSection "generation" "retry_base_delay" (.text "abc".toList)
    let modelled := inSection "api" "model" (.int 5)
    ofValue delayed = .error (.unreadable "abc".toList) ∧ ¬ KeepsContract (ofValue delayed)
      ∧ (∃ c, ofValue modelled = .ok c ∧ ¬ c.IsTyped) ∧ ¬ KeepsContract (ofValue modelled) := by
  intro delayed modelled
  obtain ⟨-, -, -, -, -, hdelayed⟩ := ofValue_contract delayed
  obtain ⟨-, -, -, htyped, -, hmodelled⟩ := ofValue_contract modelled
  have hwell {v : Value} (h : v = delayed ∨ v = modelled) : ¬ Malformed v := by
    rintro (⟨s, hs, -⟩ | ⟨s, hs, -⟩ | ⟨s, hs, -⟩ | ⟨s, hs, -⟩) <;>
      rcases h with rfl | rfl <;> cases (hs : none = some s)
  have hmodel : ¬ Typed modelled := fun h => h.model _ rfl
  refine ⟨rfl, ?_, ⟨_, rfl, ?_⟩, ?_⟩
  · intro hkeeps
    have hnumber := ((hdelayed (hwell (Or.inl rfl))).mp hkeeps).1.retryBaseDelay _ rfl
    exact absurd (show (Decimal.real? "abc".toList).isSome = true from hnumber) (by decide +kernel)
  · exact fun h => hmodel ((htyped _ rfl).mp h)
  · exact fun hkeeps => hmodel ((hmodelled (hwell (Or.inr rfl))).mp hkeeps).2

end Config

end DocWeave
