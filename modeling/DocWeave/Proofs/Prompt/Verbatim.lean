import DocWeave.Proofs.Prompt.Reading

/-!
# Code is put into prompts as it is

Whatever a piece of code holds, tags, quotes or line breaks, it stands at the end of its prompt
character by character, and what stands in front of it does not depend on it. The name of a function is
put in the same way, between backticks.

* `EndsIn.fill_cons` — a template that looks a name up at its end alone ends in what the name stands
  for
* `prompt_eq` — a prompt is its header and the code
* `header_named` — the header of a function holds its name between backticks
* `prompt_verbatim` — all this, and that the code can be told from the prompt
-/

namespace DocWeave.Prompt

/-! ## Names that are looked up at the end -/

namespace Template

/-- The last piece of the template looks the name up, and no other does. -/
def EndsIn (name : Text) : Template → Prop
  | done => False
  | text _ next => next.EndsIn name
  | put x next => (x = .binding name ∧ next = done) ∨ (name ∉ x.names ∧ next.EndsIn name)
  | choice test yes no next =>
    name ∉ test.names ∧ name ∉ yes.names ∧ name ∉ no.names ∧ next.EndsIn name

instance EndsIn.decidable (name : Text) : DecidablePred (EndsIn name)
  | done => inferInstanceAs (Decidable False)
  | text _ next => EndsIn.decidable name next
  | put _ next =>
    have := EndsIn.decidable name next
    inferInstanceAs (Decidable ((_ ∧ _) ∨ (_ ∧ next.EndsIn name)))
  | choice _ _ _ next =>
    have := EndsIn.decidable name next
    inferInstanceAs (Decidable (_ ∧ _ ∧ _ ∧ next.EndsIn name))

variable {name : Text} {env : Bindings}

/-- Other names stand for the same, whatever this one stands for. -/
theorem lookup_cons {names : List Text} (v w : Option Text) (h : name ∉ names) :
    ∀ n ∈ names, List.lookup n ((name, v) :: env) = List.lookup n ((name, w) :: env) := by
  intro n hn
  have hne : (n == name) = false := beq_false_of_ne fun e => h (e ▸ hn)
  simp only [List.lookup_cons, hne]

/-- What is put behind the second of two texts stands behind both. -/
theorem bind_append {α : Type} (x : Except Unbound α) (f : α → Text) (y : Except Unbound Text)
    (v : Text) :
    (do return f (← x) ++ (← y.map (· ++ v))) = (do return f (← x) ++ (← y)).map (· ++ v) := by
  cases x with
  | error e => rfl
  | ok a =>
    cases y with
    | error e => rfl
    | ok out => exact congrArg Except.ok (List.append_assoc (f a) out v).symm

/-- What comes of the template ends in what the name stands for. -/
theorem EndsIn.fill_cons {t : Template} (h : t.EndsIn name) (v : Text) :
    t.fill ((name, some v) :: env) = (t.fill ((name, some []) :: env)).map (· ++ v) := by
  induction t with
  | done => exact h.elim
  | text u next ih =>
    rw [fill, fill, ih h]
    exact bind_append (.ok u) id (next.fill _) v
  | put x next ih =>
    rcases h with ⟨rfl, rfl⟩ | ⟨hx, hnext⟩
    · simp [fill, Operand.value, shown, Except.map, bind, Except.bind, pure, Except.pure]
    · rw [fill, fill, x.value_congr (lookup_cons _ (some []) hx), ih hnext]
      exact bind_append _ shown _ v
  | choice test yes no next ihYes ihNo ihNext =>
    obtain ⟨htest, hyes, hno, hnext⟩ := h
    -- neither the test nor what is chosen depends on the name
    rw [fill, fill, test.holds_congr (lookup_cons _ (some []) htest),
      yes.fill_congr (lookup_cons _ (some []) hyes), no.fill_congr (lookup_cons _ (some []) hno),
      ihNext hnext]
    cases test.holds ((name, some []) :: env) with
    | error e => rfl
    | ok b =>
      cases b with
      | true => exact bind_append (yes.fill _) id (next.fill _) v
      | false => exact bind_append (no.fill _) id (next.fill _) v

end Template

/-! ## Where the packaged templates look names up -/

namespace Packaged

/-- The code is looked up at the end. -/
theorem endsIn_codeName (kind : DocKind) : (template kind).EndsIn codeName := by
  cases kind <;> decide

/-- Nothing asks for the name of a file. -/
theorem functionName_notMem_file : functionName ∉ file.names := by decide

/-- A template that asks for the name in one place, between backticks and only if it is not empty. -/
def naming (start middle front unnamed : Text) (behind : Template) : Template :=
  .text start <| .put (.binding labelName) <| .text middle <|
  .choice (.filled (.binding functionName))
    (.text (front ++ ['\x60']) <| .put (.binding functionName) <| .text ['\x60'] .done)
    (.text unnamed .done) behind

/-- The template of a function is of this shape. -/
theorem exists_function_eq : ∃ (start middle front unnamed : Text) (behind : Template),
    functionName ∉ behind.names ∧ function = naming start middle front unnamed behind := by
  refine ⟨_, _, "function ".toList, _, _, ?_, rfl⟩
  decide

end Packaged

namespace Store

variable {code style l : Text} {kind : DocKind}

/-! ## The code -/

/-- The prompt for some code is that for no code with the code behind it. -/
theorem prompt_append (home home' : Text) (name : Option Text) :
    (packaged home).prompt code kind style name
      = ((packaged home').prompt [] kind style name).map (· ++ code) := by
  rw [prompt_packaged, prompt_packaged]
  cases label style with
  | error e => rfl
  | ok l =>
    -- the code is the first of the bindings
    have hfill : (Packaged.template kind).fill (bindings code name style l)
        = ((Packaged.template kind).fill (bindings [] name style l)).map (· ++ code) :=
      (Packaged.endsIn_codeName kind).fill_cons code
    rw [Except.bind, Except.bind, hfill]
    cases (Packaged.template kind).fill (bindings [] name style l) <;> rfl

/-- What stands in front of the code in a prompt, which is the whole prompt for no code. -/
def header (kind : DocKind) (style : Text) (name : Option Text) : Text :=
  match (packaged []).prompt [] kind style name with
  | .ok t => t
  | .error _ => []

/-- A prompt is its header and the code. -/
theorem prompt_eq (hstyle : style ∈ styles.map Prod.fst) (home : Text) (name : Option Text) :
    (packaged home).prompt code kind style name = .ok (header kind style name ++ code) := by
  obtain ⟨t, ht⟩ := exists_prompt hstyle [] [] kind name
  rw [prompt_append home [], header, ht]
  rfl

/-! ## The name -/

theorem lookup_bindings {names : List Text} (h : Packaged.functionName ∉ names)
    (name name' : Option Text) :
    ∀ n ∈ names,
      (bindings code name style l).lookup n = (bindings code name' style l).lookup n := by
  intro n hn
  have hne : (n == Packaged.functionName) = false := beq_false_of_ne fun e => h (e ▸ hn)
  simp only [bindings, List.lookup_cons, hne]

/-- The prompt of a file does not depend on the name. -/
theorem prompt_file (home : Text) (name name' : Option Text) :
    (packaged home).prompt code .file style name
      = (packaged home).prompt code .file style name' := by
  rw [prompt_packaged, prompt_packaged]
  refine congrArg (label style).bind (funext fun l => ?_)
  have hfill : Packaged.file.fill (bindings code name style l)
      = Packaged.file.fill (bindings code name' style l) :=
    Packaged.file.fill_congr (lookup_bindings Packaged.functionName_notMem_file name name')
  rw [Packaged.template, hfill]

section Naming

variable {start middle front unnamed : Text} {behind : Template} {name : Option Text}

theorem fill_naming_some {n : Text} (hn : n ≠ []) :
    (Packaged.naming start middle front unnamed behind).fill (bindings code (some n) style l)
      = (behind.fill (bindings code (some n) style l)).map fun out =>
        (start ++ l ++ middle ++ front) ++ '\x60' :: (n ++ '\x60' :: out) := by
  have hname : (bindings code (some n) style l).lookup Packaged.functionName = some (some n) := rfl
  have hlabel : (bindings code (some n) style l).lookup Packaged.labelName = some (some l) := rfl
  cases h : behind.fill (bindings code (some n) style l) <;>
    simp [Packaged.naming, Template.fill, Operand.value, Test.holds, shown, hname, hlabel, hn, h,
      Except.map, bind, Except.bind, pure, Except.pure]

theorem fill_naming_none (hname : name.getD [] = []) :
    (Packaged.naming start middle front unnamed behind).fill (bindings code name style l)
      = (behind.fill (bindings code name style l)).map fun out =>
        start ++ l ++ middle ++ unnamed ++ out := by
  have hlookup : (bindings code name style l).lookup Packaged.functionName = some name := rfl
  have hlabel : (bindings code name style l).lookup Packaged.labelName = some (some l) := rfl
  cases h : behind.fill (bindings code name style l) <;>
    simp [Packaged.naming, Template.fill, Operand.value, Test.holds, shown, hname, hlookup, hlabel,
      h, Except.map, bind, Except.bind, pure, Except.pure]

end Naming

/-- A prompt for an empty name is the prompt for no name. -/
theorem prompt_nameless (home : Text) (kind : DocKind) :
    (packaged home).prompt code kind style (some [])
      = (packaged home).prompt code kind style none := by
  cases kind with
  | file => exact prompt_file home (some []) none
  | function =>
    obtain ⟨start, middle, front, unnamed, behind, hbehind, heq⟩ := Packaged.exists_function_eq
    rw [prompt_packaged, prompt_packaged]
    refine congrArg (label style).bind (funext fun l => ?_)
    rw [Packaged.template, heq, fill_naming_none rfl, fill_naming_none rfl,
      behind.fill_congr (lookup_bindings hbehind (some []) none)]

/-- The header of a function holds its name between backticks. What is around them depends on the
style alone. -/
theorem header_named (hstyle : style ∈ styles.map Prod.fst) :
    ∃ front back : Text, ∀ n ≠ [],
      header .function style (some n) = front ++ '\x60' :: (n ++ '\x60' :: back) := by
  obtain ⟨start, middle, front, unnamed, behind, hbehind, heq⟩ := Packaged.exists_function_eq
  obtain ⟨t, ht⟩ := exists_prompt hstyle [] [] .function none
  rw [prompt_packaged, Packaged.template, heq] at ht
  cases hlabel : label style with
  | error e =>
    rw [hlabel] at ht
    cases ht
  | ok l =>
    rw [hlabel, Except.bind, fill_naming_none rfl] at ht
    -- the name is not asked for behind the backticks
    cases hback : behind.fill (bindings [] none style l) with
    | error u =>
      rw [hback] at ht
      cases ht
    | ok back =>
      refine ⟨start ++ l ++ middle ++ front, back, fun n hn => ?_⟩
      rw [header, prompt_packaged, Packaged.template, heq, hlabel, Except.bind, fill_naming_some hn,
        behind.fill_congr (lookup_bindings hbehind (some n) none), hback]
      rfl

/-- Different pieces of code have different prompts. -/
theorem prompt_injective {code' : Text} (hstyle : style ∈ styles.map Prod.fst) {home : Text}
    {name : Option Text} (h : (packaged home).prompt code kind style name
      = (packaged home).prompt code' kind style name) : code = code' := by
  rw [prompt_eq hstyle, prompt_eq hstyle, Except.ok.injEq] at h
  exact List.append_cancel_left h

/-- Code is never read as a template. In a style that is known, every prompt is a header and the code
as it is, where the header depends on the kind, the style and the name alone. The name of a function,
if it is not empty, stands between backticks in the header, and an empty one is as good as none; the
prompt of a file does not depend on it. Different pieces of code have different prompts. All this is
the same for the packaged templates read from what is written. -/
theorem prompt_verbatim (home : Text) {style : Text} (hstyle : style ∈ styles.map Prod.fst) :
    (∀ code kind name, (packaged home).prompt code kind style name
      = .ok (header kind style name ++ code)) ∧
    (∃ front back : Text, ∀ n ≠ [],
      header .function style (some n) = front ++ '\x60' :: (n ++ '\x60' :: back)) ∧
    (∀ code kind, (packaged home).prompt code kind style (some [])
      = (packaged home).prompt code kind style none) ∧
    (∀ code name name', (packaged home).prompt code .file style name
      = (packaged home).prompt code .file style name') ∧
    (∀ code code' kind name, (packaged home).prompt code kind style name
      = (packaged home).prompt code' kind style name → code = code') ∧
    (∀ location code kind name, (read location).prompt code kind style name
      = (packaged home).prompt code kind style name) :=
  ⟨fun _ _ name => prompt_eq hstyle home name, header_named hstyle,
    fun _ kind => prompt_nameless home kind, fun _ name name' => prompt_file home name name',
    fun _ _ _ _ h => prompt_injective hstyle h,
    fun location code kind name => prompt_read home location code style kind name⟩

/-- Code that could pass for a template, a function's name that could, and two pieces of code that
differ in a last line break alone. -/
theorem prompt_verbatim_tagged :
    (packaged []).prompt "\x7b\x7b name \x7d\x7d\x7b% else %\x7d\r\n".toList .function
        "jsdoc".toList (some "\x7b# f".toList)
      = .ok (header .function "jsdoc".toList (some "\x7b# f".toList)
          ++ "\x7b\x7b name \x7d\x7d\x7b% else %\x7d\r\n".toList)
    ∧ (∃ front back : Text, header .function "jsdoc".toList (some "\x7b# f".toList)
      = front ++ '\x60' :: ("\x7b# f".toList ++ '\x60' :: back))
    ∧ (packaged []).prompt "f()\n".toList .file "jsdoc".toList none
      ≠ (packaged []).prompt "f()".toList .file "jsdoc".toList none := by
  have hstyle : "jsdoc".toList ∈ styles.map Prod.fst := by decide
  obtain ⟨hcode, ⟨front, back, hname⟩, -, -, hdiffer, -⟩ := prompt_verbatim [] hstyle
  have hbreak : "f()\n".toList ≠ "f()".toList := by decide
  exact ⟨hcode _ _ _, ⟨front, back, hname _ (by decide)⟩, fun h => hbreak (hdiffer _ _ _ _ h)⟩

end Store
end DocWeave.Prompt
