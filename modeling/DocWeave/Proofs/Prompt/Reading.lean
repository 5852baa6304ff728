import DocWeave.Proofs.Prompt.Filling

/-!
# The packaged templates as they are written

The packaged templates come as written text. Read back, they are in other pieces than the templates
that are told here, for reading ends a text at every tag and telling at every line. Where a text is cut
makes no difference to what is filled in: joined into one wherever they are in a row, the texts of
both are the same.

* `fill_merged` — joined texts are filled in as before
* `ofText?_written` — the written templates can be read, and are the packaged ones once texts are
  joined
* `prompt_read` — there are the same prompts from the written templates as from the packaged ones
-/

namespace DocWeave.Prompt

/-! ## Texts in a row -/

namespace Template

/-- A text in front of a template, joined with the text that it begins with. -/
def push (t : Text) : Template → Template
  | text u next => text (t ++ u) next
  | next => text t next

/-- A template that has one text, if only an empty one, before each place and each choice and at its
end. -/
def merged : Template → Template
  | done => text [] done
  | text t next => next.merged.push t
  | put x next => text [] (put x next.merged)
  | choice test yes no next => text [] (choice test yes.merged no.merged next.merged)

variable {env : Bindings}

theorem fill_push (t : Text) (next : Template) :
    (next.push t).fill env = (next.fill env).map (t ++ ·) := by
  cases next with
  | text u next =>
    rw [push, fill, fill]
    cases next.fill env with
    | error e => rfl
    | ok out => exact congrArg Except.ok (List.append_assoc t u out)
  | done => rfl
  | put x next => rfl
  | choice test yes no next => rfl

theorem fill_text_nil (next : Template) : (text [] next).fill env = next.fill env := by
  rw [fill]
  cases next.fill env <;> rfl

/-- Joined texts are filled in as before. -/
theorem fill_merged (t : Template) : t.merged.fill env = t.fill env := by
  induction t with
  | done => rfl
  | text u next ih => rw [merged, fill_push, ih, fill]
  | put x next ih => rw [merged, fill_text_nil, fill, ih, fill]
  | choice test yes no next ihYes ihNo ihNext =>
    rw [merged, fill_text_nil, fill, ihYes, ihNo, ihNext, fill]

end Template

/-! ## What is written -/

namespace Packaged

/-- How to answer, and the code, as `closing` is written. -/
def writtenClosing (heading : String) : Text :=
  "\nReply with the comment block alone: it must start with /** and end with */.\n".toList
    ++ "Do not wrap it in a Markdown code fence and do not repeat the code.\n\n".toList
    ++ heading.toList ++ "\x7b\x7b code \x7d\x7d\n".toList

/-- The template of a kind as it is written. -/
def written : DocKind → Text
  | .file =>
    "Write a file-level \x7b\x7b format_label \x7d\x7d comment ".toList
      ++ "for the following source file.\n\n".toList
      ++ "Describe the purpose of the file and summarize what it exports or defines.\n".toList
      ++ "\x7b% if output_format == \"tsdoc\" %\x7d\n".toList
      ++ "Use TSDoc tags only (for example @packageDocumentation, @remarks, @see).\n".toList
      ++ "\x7b% else %\x7d\n".toList
      ++ "Use JSDoc tags only (for example @file, @module, @description, @see).\n".toList
      ++ "\x7b% endif %\x7d\n".toList
      ++ writtenClosing "Source file:\n"
  | .function =>
    "Write a \x7b\x7b format_label \x7d\x7d comment for the ".toList
      ++ "\x7b% if name %\x7dfunction \x60\x7b\x7b name \x7d\x7d\x60".toList
      ++ "\x7b% else %\x7dfollowing function\x7b% endif %\x7d.\n\n".toList
      ++ "Describe what it does, each parameter, the return value and any errors it throws.\n".toList
      ++ "\x7b% if output_format == \"tsdoc\" %\x7d\n".toList
      ++ "Use TSDoc syntax: @param name - description, @returns, @throws, @example. ".toList
      ++ "Do not add type annotations in braces.\n".toList
      ++ "\x7b% else %\x7d\n".toList
      ++ "Use JSDoc syntax: @param \x7btype\x7d name - description, @returns \x7btype\x7d, ".toList
      ++ "@throws \x7btype\x7d, @example.\n".toList
      ++ "\x7b% endif %\x7d\n".toList
      ++ writtenClosing "Function:\n"

/-- The written templates can be read, and are the packaged ones once texts are joined. -/
theorem ofText?_written (kind : DocKind) :
    (Template.ofText? (written kind)).map Template.merged = some (template kind).merged := by
  -- both sides are closed terms; their texts are made rows of characters first, so that reading can
  -- be computed
  cases kind <;>
  · unfold written template
    unfold writtenClosing file function closing isTsdoc say
    unfold labelName functionName formatName codeName
    repeat rewrite [String.toList_ofList]
    decide +kernel

end Packaged

/-! ## Prompts of written templates -/

namespace Store

/-- A store at `location` of the packaged templates as they are written. -/
def read (location : Text) : Store where
  location
  template? name :=
    if name = templateName .file then some (Template.ofText? (Packaged.written .file))
    else if name = templateName .function then some (Template.ofText? (Packaged.written .function))
    else none

theorem template?_read (location : Text) (kind : DocKind) :
    (read location).template? (templateName kind)
      = some (Template.ofText? (Packaged.written kind)) := by
  have hne : templateName .function ≠ templateName .file := by decide
  cases kind with
  | file =>
    dsimp only [read]
    exact if_pos rfl
  | function =>
    dsimp only [read]
    exact (if_neg hne).trans (if_pos rfl)

/-- There are the same prompts from the written templates as from the packaged ones. -/
theorem prompt_read (home location code style : Text) (kind : DocKind) (name : Option Text) :
    (read location).prompt code kind style name
      = (packaged home).prompt code kind style name := by
  obtain ⟨t, ht, hmerged⟩ := Option.map_eq_some_iff.1 (Packaged.ofText?_written kind)
  have hread : (read location).template? (templateName kind) = some (some t) := by
    rw [template?_read, ht]
  have hfill : ∀ env, t.fill env = (Packaged.template kind).fill env := fun env => by
    rw [← t.fill_merged, hmerged, Template.fill_merged]
  rw [prompt_of_template hread, prompt_packaged]
  simp only [hfill]

end Store

end DocWeave.Prompt
