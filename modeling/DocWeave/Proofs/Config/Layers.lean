import DocWeave.Config.Loading
import DocWeave.Proofs.Config.Reading

/-!
# Layers of settings

A configuration is loaded, then the environment has its say, and then the command line. Each of the
two changes the settings that it names and no others, and what it names is read even if the layer
above it names the same setting, so that a bad value is found wherever it stands.

* `Loaded` — the configurations that loading gives, `loaded_of_load`; none of them has a key
* `withEnvironment_ok_cases`, `withOverrides_ok_cases` — what one layer changes
* `reads_withEnvironment`, `reads_withOverrides` — when there is something wrong with a layer
* `layered_of_loaded` — both layers over what has been loaded, setting by setting
-/

namespace DocWeave.Config

variable {c c' : Config} {e : Environment} {o : Overrides} {v : Value}

/-! ## Files -/

/-- What the contents of a file are made into, section by section. -/
theorem ofValue_ok_cases (h : ofValue v = .ok c) :
    ∃ whole client generation walker logging, sectionOf v = .ok whole
      ∧ subsection whole "api" = .ok client
      ∧ subsection whole "generation" = .ok generation
      ∧ subsection whole "walker" = .ok walker
      ∧ subsection whole "logging" = .ok logging
      ∧ generationSection generation = .ok c.generation
      ∧ selectionSection walker = .ok c.selection
      ∧ c.client = clientSection client ∧ c.logging = loggingSection logging := by
  unfold ofValue at h
  obtain ⟨whole, hwhole, h⟩ := exists_of_bind_eq_ok h
  obtain ⟨client, hclient, h⟩ := exists_of_bind_eq_ok h
  obtain ⟨entries, hentries, h⟩ := exists_of_bind_eq_ok h
  obtain ⟨generation, hgeneration, h⟩ := exists_of_bind_eq_ok h
  obtain ⟨walker, hwalker, h⟩ := exists_of_bind_eq_ok h
  obtain ⟨selection, hselection, h⟩ := exists_of_bind_eq_ok h
  obtain ⟨logging, hlogging, h⟩ := exists_of_bind_eq_ok h
  cases h
  exact ⟨whole, client, entries, walker, logging, hwhole, hclient, hentries, hwalker, hlogging,
    hgeneration, hselection, rfl, rfl⟩

/-- The configurations that loading gives: what is built in, and what the contents of a file are made
into. -/
inductive Loaded : Config → Prop where
  | builtIn : Loaded {}
  | read {v : Value} {c : Config} (h : ofValue v = .ok c) : Loaded c

theorem loaded_of_ofBytes {bytes : Bytes} (h : ofBytes bytes = .ok c) : Loaded c := by
  unfold ofBytes at h
  split at h
  · cases h
  · split at h
    · cases h
    · next v _ =>
      cases hv : ofValue v with
      | error p =>
        rw [hv] at h
        cases h
      | ok c' =>
        rw [hv] at h
        cases h
        exact .read hv

theorem loaded_of_load {f : Files} {written : Option Text} (h : (load f written).1 = .ok c) :
    Loaded c := by
  unfold load at h
  split at h
  · cases h
    exact .builtIn
  · simp only at h
    split at h
    · cases h
      exact .builtIn
    · split at h
      · split at h
        · cases h
        · exact loaded_of_ofBytes h
      · cases h
        exact .builtIn

/-- Whatever a file holds, no key is read from it. -/
theorem Loaded.key (hc : Loaded c) : c.client.key = none := by
  cases hc with
  | builtIn => rfl
  | read h =>
    obtain ⟨-, client, -, -, -, -, -, -, -, -, -, -, hclient, -⟩ := ofValue_ok_cases h
    rw [hclient]
    rfl

/-! ## What a layer changes -/

/-- The environment changes six settings at most. -/
theorem withEnvironment_ok_cases (h : c.withEnvironment e = .ok c') :
    ∃ s n b,
      readOr (e.given? "AUTOSCRIBE_FORMAT") c.generation.style (fun t => style (.text t)) = .ok s
      ∧ readOr (e.given? "MAX_RETRIES") c.generation.maxRetries
        (fun t => count "MAX_RETRIES".toList (.text t)) = .ok n
      ∧ readOr (e "DRY_RUN") c.selection.dryRun (fun t => flag "DRY_RUN".toList (.text t)) = .ok b
      ∧ c' = { c with
        client := { c.client with
          key := (e.given? "ANTHROPIC_API_KEY").or c.client.key
          model := ((e.given? "AUTOSCRIBE_MODEL").map .text).getD c.client.model }
        generation := { c.generation with style := s, maxRetries := n }
        selection := {
          extensions := match (e.given? "SUPPORTED_EXTENSIONS").map extensionsOfText with
            | some (x :: more) => x :: more
            | _ => c.selection.extensions
          dryRun := b } } := by
  unfold withEnvironment at h
  obtain ⟨s, hs, h⟩ := exists_of_bind_eq_ok h
  obtain ⟨n, hn, h⟩ := exists_of_bind_eq_ok h
  obtain ⟨b, hb, h⟩ := exists_of_bind_eq_ok h
  cases h
  exact ⟨s, n, b, hs, hn, hb, rfl⟩

/-- The command line changes nothing but the key, the model, the style and whether it is a dry run. -/
theorem withOverrides_ok_cases (h : c.withOverrides o = .ok c') :
    ∃ s, (if o.style.isGiven then style o.style else .ok c.generation.style) = .ok s
      ∧ c' = { c with
        client := { c.client with
          key := (o.key.filter fun t => !t.isEmpty).or c.client.key
          model := if o.model.isGiven then o.model else c.client.model }
        generation := { c.generation with style := s }
        selection := { c.selection with dryRun := o.dryRun.getD c.selection.dryRun } } := by
  unfold withOverrides at h
  simp only at h
  split at h
  · next hgiven =>
    obtain ⟨s, hs, h⟩ := exists_of_bind_eq_ok h
    cases h
    exact ⟨s, by rw [if_pos hgiven, hs], rfl⟩
  · next hgiven =>
    obtain ⟨s, hs, h⟩ := exists_of_bind_eq_ok h
    cases h
    exact ⟨s, by rw [if_neg hgiven]; exact hs, rfl⟩

/-! ## What is given -/

namespace Overrides

/-- The key, if it is not empty. -/
def givenKey? (o : Overrides) : Option Text := o.key.filter fun t => !t.isEmpty

/-- The model, if there is one. -/
def givenModel? (o : Overrides) : Option Value := if o.model.isGiven then some o.model else none

/-- The comment style as it is written, if anything is. -/
def givenStyle? (o : Overrides) : Option Text :=
  match o.style with
  | .text t => if t.isEmpty then none else some t
  | _ => none

/-- What is given for the style is no word for one. -/
def IsBad (o : Overrides) : Prop := ∃ t, o.givenStyle? = some t ∧ word t ∉ styleWords

end Overrides

/-- A variable that is read stands for a word for no style, for no whole number above zero, or for no
word for a flag. The variable of the flag is read even if it is empty. -/
def Environment.IsBad (e : Environment) : Prop :=
  (∃ t, e.given? "AUTOSCRIBE_FORMAT" = some t ∧ word t ∉ styleWords)
    ∨ (∃ t, e.given? "MAX_RETRIES" = some t ∧ ∀ n, Decimal.whole? t = some n → n < 1)
    ∨ ∃ t, e "DRY_RUN" = some t ∧ word t ∉ trueWords ++ falseWords

/-! ## What is wrong with a layer -/

/-- In an environment there are texts only, so of all that is wrong the user is told. -/
theorem reads_withEnvironment (c : Config) (e : Environment) :
    Reads (c.withEnvironment e) True e.IsBad := by
  have hstyle := Reads.readOr (e.given? "AUTOSCRIBE_FORMAT") c.generation.style fun t =>
    reads_style (.text t)
  have hcount := Reads.readOr (e.given? "MAX_RETRIES") c.generation.maxRetries fun t =>
    reads_count "MAX_RETRIES".toList (.text t)
  have hflag := Reads.readOr (e "DRY_RUN") c.selection.dryRun fun t =>
    reads_flag "DRY_RUN".toList (.text t)
  refine (hstyle.bind fun s _ => hcount.bind fun n _ => hflag.bind fun b _ =>
    Reads.of_ok _).congr ?_ ?_
  · simp
  · simp [Environment.IsBad, IsBadStyle, IsBadCount, IsBadFlag]

/-- Of a style that is no text nobody is told. -/
theorem reads_withOverrides (c : Config) (o : Overrides) :
    Reads (c.withOverrides o) (o.style.isGiven = true → ∃ t, o.style = .text t) o.IsBad := by
  unfold withOverrides
  by_cases hgiven : o.style.isGiven = true
  · simp only [if_pos hgiven]
    refine ((reads_style o.style).bind fun s _ => Reads.of_ok _).congr ?_ ?_
    · simp [hgiven]
    · have hstyle : o.IsBad ↔ IsBadStyle o.style := by
        unfold Overrides.IsBad Overrides.givenStyle? IsBadStyle
        cases hv : o.style with
        | text t =>
          have hne : ¬ t.isEmpty = true := by simpa [hv, Value.isGiven] using hgiven
          simp [hne]
        | _ => simp
      rw [hstyle, or_false]
  · simp only [if_neg hgiven]
    refine (Reads.of_ok _).congr (by simp [hgiven]) ?_
    have hnone : o.givenStyle? = none := by
      unfold Overrides.givenStyle?
      split
      · next t hv => simpa [hv, Value.isGiven] using hgiven
      · rfl
    simp [Overrides.IsBad, hnone]

/-! ## Both layers -/

/--
The settings of `c'` are those of the command line, as far as it has any, or else of the environment,
or else of `c`. A key is never taken from `c`, and whatever is not named here is.
-/
structure Layered (c : Config) (e : Environment) (o : Overrides) (c' : Config) : Prop where
  key : c'.client.key = o.givenKey?.or (e.given? "ANTHROPIC_API_KEY")
  model : c'.client.model
    = (o.givenModel?.or ((e.given? "AUTOSCRIBE_MODEL").map .text)).getD c.client.model
  style : c'.generation.style
    = ((o.givenStyle?.or (e.given? "AUTOSCRIBE_FORMAT")).map word).getD c.generation.style
  maxRetries :
    match e.given? "MAX_RETRIES" with
    | some t => Decimal.whole? t = some c'.generation.maxRetries
    | none => c'.generation.maxRetries = c.generation.maxRetries
  extensions : c'.selection.extensions =
    match extensionsOfText ((e "SUPPORTED_EXTENSIONS").getD []) with
    | [] => c.selection.extensions
    | xs => xs
  dryRun : c'.selection.dryRun
    = (o.dryRun.or ((e "DRY_RUN").map fun t => decide (word t ∈ trueWords))).getD
      c.selection.dryRun
  others : c' = { c with
    client := { c.client with
      key := c'.client.key
      model := c'.client.model }
    generation := { c.generation with
      style := c'.generation.style
      maxRetries := c'.generation.maxRetries }
    selection := { extensions := c'.selection.extensions, dryRun := c'.selection.dryRun } }

theorem style_of_readOr {given? : Option Text} {default s : Text}
    (h : readOr given? default (fun t => style (.text t)) = .ok s) :
    s = (given?.map word).getD default := by
  rcases readOr_eq_ok_iff.mp h with ⟨rfl, rfl⟩ | ⟨t, rfl, hs⟩
  · rfl
  · obtain ⟨t', ht, -, rfl⟩ := style_eq_ok_iff.mp hs
    cases ht
    rfl

theorem style_of_overrides {default s : Text}
    (h : (if o.style.isGiven then style o.style else .ok default) = .ok s) :
    s = (o.givenStyle?.map word).getD default := by
  unfold Overrides.givenStyle?
  split at h
  · next hgiven =>
    obtain ⟨t, ht, -, rfl⟩ := style_eq_ok_iff.mp h
    rw [ht] at hgiven ⊢
    have hne : ¬ t.isEmpty = true := by simpa [Value.isGiven] using hgiven
    simp [hne]
  · next hgiven =>
    cases h
    split
    · next t ht =>
      have hempty : t.isEmpty = true := by simpa [ht, Value.isGiven] using hgiven
      rw [if_pos hempty]
      rfl
    · rfl

theorem flag_of_readOr {name : Text} {given? : Option Text} {default b : Bool}
    (h : readOr given? default (fun t => flag name (.text t)) = .ok b) :
    b = (given?.map fun t => decide (word t ∈ trueWords)).getD default := by
  rcases readOr_eq_ok_iff.mp h with ⟨rfl, rfl⟩ | ⟨t, rfl, hb⟩
  · rfl
  · obtain ⟨-, -, rfl⟩ := flag_eq_ok_iff.mp hb
    rfl

/-- From an empty variable no extensions are read, so it is all the same whether it is read. -/
theorem extensions_of_given (e : Environment) (default : List Text) :
    (match (e.given? "SUPPORTED_EXTENSIONS").map extensionsOfText with
      | some (x :: more) => x :: more
      | _ => default)
    = match extensionsOfText ((e "SUPPORTED_EXTENSIONS").getD []) with
      | [] => default
      | xs => xs := by
  have hnone : extensionsOfText [] = [] := rfl
  unfold Environment.given?
  cases e "SUPPORTED_EXTENSIONS" with
  | none => simp [hnone]
  | some t =>
    cases t with
    | nil => simp [hnone]
    | cons a rest =>
      simp only [Option.filter_some, List.isEmpty_cons, Bool.not_false, if_true, Option.map_some,
        Option.getD_some]
      cases extensionsOfText (a :: rest) <;> rfl

theorem layered_of_ok {c₁ : Config} (hc : Loaded c) (he : c.withEnvironment e = .ok c₁)
    (ho : c₁.withOverrides o = .ok c') : Layered c e o c' := by
  obtain ⟨s, n, b, hs, hn, hb, rfl⟩ := withEnvironment_ok_cases he
  obtain ⟨s', hs', rfl⟩ := withOverrides_ok_cases ho
  have hstyle := style_of_readOr hs
  have hstyle' := style_of_overrides hs'
  have hflag := flag_of_readOr hb
  refine {
    key := ?_
    model := ?_
    style := ?_
    maxRetries := ?_
    extensions := extensions_of_given e _
    dryRun := ?_
    others := rfl }
  · simp [hc.key, Overrides.givenKey?]
  · unfold Overrides.givenModel?
    simp only
    split <;> simp
  · rw [hstyle', hstyle]
    cases o.givenStyle? <;> rfl
  · rcases readOr_eq_ok_iff.mp hn with ⟨hnone, rfl⟩ | ⟨t, ht, hcount⟩
    · rw [hnone]
    · rw [ht]
      exact (count_eq_ok_iff.mp hcount).2.1
  · rw [hflag]
    cases o.dryRun <;> rfl

/--
Whatever has been loaded, from whatever file: behind the environment and the command line every
setting comes from the topmost layer that gives it, and there is no key but one of theirs. The user
is told of a problem exactly if one of the layers holds a bad value, even where the other one gives
the same setting. Other problems there are none, unless a style is asked for that is no text.
-/
theorem layered_of_loaded (hc : Loaded c) (e : Environment) (o : Overrides) :
    let resolved := c.withEnvironment e >>= fun c₁ => c₁.withOverrides o
    (∀ c', resolved = .ok c' → Layered c e o c')
      ∧ ((∃ p, resolved = .error p ∧ p.isTold = true) ↔ e.IsBad ∨ o.IsBad)
      ∧ ((o.style.isGiven = true → ∃ t, o.style = .text t) →
        ∀ p, resolved = .error p → p.isTold = true) := by
  intro resolved
  have hreads : Reads resolved
      (True ∧ (o.style.isGiven = true → ∃ t, o.style = .text t)) (e.IsBad ∨ o.IsBad) :=
    (reads_withEnvironment c e).bind fun c₁ _ => reads_withOverrides c₁ o
  refine ⟨?_, ?_, ?_⟩
  · intro c' h
    obtain ⟨c₁, he, ho⟩ := exists_of_bind_eq_ok h
    exact layered_of_ok hc he ho
  · constructor
    · rintro ⟨p, hp, htold⟩
      exact hreads.bad_of_told p hp htold
    · rintro (hbad | hbad)
      · obtain ⟨p, hp, htold⟩ := ((reads_withEnvironment c e).told_iff trivial).mpr hbad
        exact ⟨p, by simp only [resolved, hp]; rfl, htold⟩
      · have htext : ∃ t, o.style = .text t := by
          obtain ⟨t, ht, -⟩ := hbad
          unfold Overrides.givenStyle? at ht
          split at ht
          · next t' hstyle => exact ⟨t', hstyle⟩
          · cases ht
        exact (hreads.told_iff ⟨trivial, fun _ => htext⟩).mpr (Or.inr hbad)
  · intro hstyle p hp
    exact hreads.isTold_of_fits ⟨trivial, hstyle⟩ hp

/-- The contents of a file that hold a key, a model and a style, and ask for a dry run. -/
def settled : Value := .map [
  (.text "api".toList, .map [
    (.text "api_key".toList, .text "secret".toList),
    (.text "model".toList, .text "small".toList)]),
  (.text "generation".toList, .map [(.text "output_format".toList, .text " TSDoc ".toList)]),
  (.text "walker".toList, .map [(.text "dry_run".toList, .text "yes".toList)])]

/-- An environment in which some variables stand for something. -/
def Environment.ofList (given : List (String × String)) : Environment :=
  fun name => (given.lookup name).map String.toList

/-- The key of the file is not taken and an empty variable means no, and what the environment says of
the style counts as wrong even where the command line asks for another one. -/
theorem layered_of_loaded_settled :
    ∃ c, ofValue settled = .ok c ∧ Loaded c
      ∧ (let e := Environment.ofList [("AUTOSCRIBE_MODEL", "large"), ("MAX_RETRIES", " 7"),
          ("SUPPORTED_EXTENSIONS", " , "), ("DRY_RUN", "")]
        ∃ c', (c.withEnvironment e >>= fun c₁ => c₁.withOverrides {}) = .ok c'
          ∧ c'.client.key = none ∧ c'.client.model = .text "large".toList
          ∧ c'.generation.style = "tsdoc".toList ∧ some c'.generation.maxRetries = some 7
          ∧ c'.selection.extensions = c.selection.extensions ∧ c'.selection.dryRun = false)
      ∧ (let e := Environment.ofList [("AUTOSCRIBE_FORMAT", "pydoc")]
        let o : Overrides := { style := .text "jsdoc".toList }
        ∃ p, (c.withEnvironment e >>= fun c₁ => c₁.withOverrides o) = .error p
          ∧ p.isTold = true) := by
  have hread : (ofValue settled).toOption.map (fun c => (c.generation.style, c.selection.dryRun))
      = some ("tsdoc".toList, true) := by
    decide +kernel
  obtain ⟨c, hc, hsettings⟩ := exists_of_toOption_map hread
  have hstyle : c.generation.style = "tsdoc".toList := congrArg Prod.fst hsettings
  refine ⟨c, hc, .read hc, ?_, ?_⟩
  · intro e
    obtain ⟨hlayered, htold, hall⟩ := layered_of_loaded (.read hc) e {}
    have hgood : ¬ (e.IsBad ∨ ({} : Overrides).IsBad) := by
      rintro ((⟨t, ht, -⟩ | ⟨t, ht, hn⟩ | ⟨t, ht, hflag⟩) | ⟨t, ht, -⟩)
      · cases (ht : none = some t)
      · cases (ht : some " 7".toList = some t)
        exact absurd (hn 7 (by decide)) (by decide)
      · cases (ht : some [] = some t)
        exact hflag (by decide)
      · cases (ht : none = some t)
    cases hresolved : c.withEnvironment e >>= fun c₁ => c₁.withOverrides {} with
    | error p =>
      have hp := hall (fun hgiven => by cases hgiven) p hresolved
      exact absurd (htold.mp ⟨p, hresolved, hp⟩) hgood
    | ok c' =>
      have h := hlayered c' hresolved
      exact ⟨c', rfl, h.key, h.model, h.style.trans hstyle, h.maxRetries.symm, h.extensions,
        h.dryRun⟩
  · intro e o
    obtain ⟨-, htold, -⟩ := layered_of_loaded (.read hc) e o
    exact htold.mpr (Or.inl (Or.inl ⟨"pydoc".toList, rfl, by decide⟩))

end DocWeave.Config
