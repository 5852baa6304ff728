import DocWeave.Prompt

/-!
# Templates that can be filled in

A template can be filled in if all names in it are bound, whatever they stand for, and what comes of
it depends on no other names. Those of the packaged templates are always bound, so that there is a
prompt for every piece of code in every style that is known.
-/

namespace DocWeave.Prompt

/-! ## Names -/

/-- The name that is looked up for an operand. -/
def Operand.names : Operand → List Text
  | binding name => [name]
  | literal _ => []

def Test.names : Test → List Text
  | filled x => x.names
  | same x y => x.names ++ y.names

/-- All names that a template may look up. -/
def Template.names : Template → List Text
  | done => []
  | text _ next => next.names
  | put x next => x.names ++ next.names
  | choice test yes no next => test.names ++ (yes.names ++ (no.names ++ next.names))

/-- All these names are bound. -/
def Bindings.Bind (env : Bindings) (names : List Text) : Prop :=
  ∀ name ∈ names, ∃ v, env.lookup name = some v

variable {env : Bindings} {names more : List Text}

theorem Bindings.bind_append :
    env.Bind (names ++ more) ↔ env.Bind names ∧ env.Bind more := List.forall_mem_append

/-! ## Filling in -/

theorem Operand.exists_value (x : Operand) (h : env.Bind x.names) : ∃ v, x.value env = .ok v := by
  cases x with
  | binding name =>
    obtain ⟨v, hv⟩ := h name List.mem_cons_self
    exact ⟨v, by simp only [value, hv]⟩
  | literal t => exact ⟨some t, rfl⟩

theorem Test.exists_holds (test : Test) (h : env.Bind test.names) :
    ∃ b, test.holds env = .ok b := by
  cases test with
  | filled x =>
    obtain ⟨v, hv⟩ := x.exists_value h
    exact ⟨!(v.getD []).isEmpty, by rw [holds, hv]; rfl⟩
  | same x y =>
    obtain ⟨hx, hy⟩ := Bindings.bind_append.mp h
    obtain ⟨v, hv⟩ := x.exists_value hx
    obtain ⟨w, hw⟩ := y.exists_value hy
    exact ⟨v == w, by rw [holds, hv, hw]; rfl⟩

/-- A template can be filled in if all its names are bound. -/
theorem Template.exists_fill (t : Template) (h : env.Bind t.names) : ∃ out, t.fill env = .ok out := by
  induction t with
  | done => exact ⟨[], rfl⟩
  | text piece next ih =>
    obtain ⟨out, hout⟩ := ih h
    exact ⟨piece ++ out, by rw [fill, hout]; rfl⟩
  | put x next ih =>
    obtain ⟨hx, hnext⟩ := Bindings.bind_append.mp h
    obtain ⟨v, hv⟩ := x.exists_value hx
    obtain ⟨out, hout⟩ := ih hnext
    exact ⟨shown v ++ out, by rw [fill, hv, hout]; rfl⟩
  | choice test yes no next ihYes ihNo ihNext =>
    simp only [names, Bindings.bind_append] at h
    obtain ⟨htest, hyes, hno, hnext⟩ := h
    obtain ⟨b, hb⟩ := test.exists_holds htest
    obtain ⟨out, hout⟩ : ∃ out, (if b then yes.fill env else no.fill env) = .ok out := by
      cases b with
      | true => exact ihYes hyes
      | false => exact ihNo hno
    obtain ⟨rest, hrest⟩ := ihNext hnext
    refine ⟨out ++ rest, ?_⟩
    rw [fill, hb, hrest]
    cases b <;> exact congrArg (fun t : Except Unbound Text => t.map (· ++ rest)) hout

/-! ## What filling in depends on -/

section Congr

variable {env' : Bindings}

theorem Operand.value_congr (x : Operand) (h : ∀ n ∈ x.names, env.lookup n = env'.lookup n) :
    x.value env = x.value env' := by
  cases x with
  | binding name => simp only [value, h name List.mem_cons_self]
  | literal t => rfl

theorem Test.holds_congr (test : Test) (h : ∀ n ∈ test.names, env.lookup n = env'.lookup n) :
    test.holds env = test.holds env' := by
  cases test with
  | filled x => rw [holds, x.value_congr h, holds]
  | same x y =>
    obtain ⟨hx, hy⟩ := List.forall_mem_append.mp h
    rw [holds, x.value_congr hx, y.value_congr hy, holds]

/-- What comes of a template depends on its names alone. -/
theorem Template.fill_congr (t : Template) (h : ∀ n ∈ t.names, env.lookup n = env'.lookup n) :
    t.fill env = t.fill env' := by
  induction t with
  | done => rfl
  | text piece next ih => rw [fill, ih h, fill]
  | put x next ih =>
    obtain ⟨hx, hnext⟩ := List.forall_mem_append.mp h
    rw [fill, x.value_congr hx, ih hnext, fill]
  | choice test yes no next ihYes ihNo ihNext =>
    simp only [names, List.forall_mem_append] at h
    obtain ⟨htest, hyes, hno, hnext⟩ := h
    rw [fill, test.holds_congr htest, ihYes hyes, ihNo hno, ihNext hnext, fill]

end Congr

/-! ## The packaged templates -/

/-- The packaged template of a kind. -/
def Packaged.template : DocKind → Template
  | .file => file
  | .function => function

namespace Store

variable {s : Store} {t : Template} {code style : Text} {kind : DocKind} {name : Option Text}

/-- What the prompts of a store are that has the template. -/
theorem prompt_of_template (h : s.template? (templateName kind) = some (some t)) :
    s.prompt code kind style name = (label style).bind fun label =>
      (t.fill (bindings code name style label)).mapError fun u => .unbound u.name := by
  unfold prompt
  rw [h]
  cases label style with
  | error e => rfl
  | ok label =>
    -- only now is the template filled in, so that there is something to look at
    rw [Except.bind]
    cases h : t.fill (bindings code name style label) with
    | error u =>
      simp only [bind, Except.bind, h]
      rfl
    | ok text =>
      simp only [bind, Except.bind, h]
      rfl

theorem template?_packaged (home : Text) (kind : DocKind) :
    (packaged home).template? (templateName kind) = some (some (Packaged.template kind)) := by
  cases kind <;> rfl

theorem prompt_packaged (home : Text) :
    (packaged home).prompt code kind style name = (label style).bind fun label =>
      ((Packaged.template kind).fill (bindings code name style label)).mapError
        fun u => .unbound u.name :=
  prompt_of_template (template?_packaged home kind)

/-- The names that are bound for a prompt are all that the packaged templates look up. -/
theorem bind_bindings (code : Text) (name : Option Text) (style label : Text) (kind : DocKind) :
    (bindings code name style label).Bind (Packaged.template kind).names := by
  -- the packaged templates are closed terms, so that their names can be computed
  have hnames : ∀ n ∈ (Packaged.template kind).names,
      n ∈ [Packaged.codeName, Packaged.functionName, Packaged.formatName, Packaged.labelName] := by
    cases kind <;> decide
  intro n hn
  have hmem := hnames n hn
  simp only [List.mem_cons, List.not_mem_nil, or_false] at hmem
  rcases hmem with rfl | rfl | rfl | rfl
  · exact ⟨some code, rfl⟩
  · exact ⟨name, rfl⟩
  · exact ⟨some style, rfl⟩
  · exact ⟨some label, rfl⟩

theorem exists_label (hstyle : style ∈ styles.map Prod.fst) : ∃ l, label style = .ok l := by
  simp only [styles, List.map_cons, List.map_nil, List.mem_cons, List.not_mem_nil, or_false] at hstyle
  rcases hstyle with rfl | rfl
  · exact ⟨"JSDoc".toList, rfl⟩
  · exact ⟨"TSDoc".toList, rfl⟩

/-- There is a prompt for every piece of code in every style that is known. -/
theorem exists_prompt (hstyle : style ∈ styles.map Prod.fst) (home code : Text) (kind : DocKind)
    (name : Option Text) : ∃ t, (packaged home).prompt code kind style name = .ok t := by
  obtain ⟨l, hlabel⟩ := exists_label hstyle
  obtain ⟨t, ht⟩ := (Packaged.template kind).exists_fill (bind_bindings code name style l kind)
  refine ⟨t, ?_⟩
  rw [prompt_packaged, hlabel, Except.bind, ht]
  rfl

end Store

end DocWeave.Prompt
