import DocWeave.Extraction

/-!
# What gets a comment

`Documentable` says which places of a tree get a comment, under what name and as what, without saying
how they are found: a declared function with a name, an arrow function that a declarator gives an
identifier, and a method with a name in the body of a class or in an object.

* `documentable_iff` — these are the places at which there is a construct, with its name and its
  kind
-/

namespace DocWeave

open Script

/-- The place gets a comment; `name` is what it is called by, and the kind is what it is. -/
inductive Documentable (f : Focus) : Tree → SpanKind → Prop where
  | function {name : Tree}
      (kind : f.kind = "function_declaration" ∨ f.kind = "generator_function_declaration")
      (named : f.tree.child? "name" = some name) : Documentable f name .function
  | arrowFunction {name value : Tree} (kind : f.kind = "variable_declarator")
      (named : f.tree.child? "name" = some name) (simple : name.kind = "identifier")
      (bound : f.tree.child? "value" = some value) (arrow : value.kind = "arrow_function") :
      Documentable f name .arrowFunction
  | classMethod {name : Tree} {parent : Focus} (kind : f.kind = "method_definition")
      (named : f.tree.child? "name" = some name) (within : f.parent? = some parent)
      (body : parent.kind = "class_body") : Documentable f name .classMethod
  | objectMethod {name : Tree} {parent : Focus} (kind : f.kind = "method_definition")
      (named : f.tree.child? "name" = some name) (within : f.parent? = some parent)
      (body : parent.kind = "object") : Documentable f name .objectMethod

namespace Documentable

variable {f : Focus} {name : Tree} {kind : SpanKind}

/-- The construct at a place that gets a comment. -/
theorem exists_at? (h : Documentable f name kind) :
    ∃ anchor, Construct.at? f = some ⟨name, kind, anchor⟩ := by
  obtain ⟨t, above⟩ := f
  cases h with
  | function hkind hnamed => exact ⟨_, by rw [Construct.at?, if_pos hkind, hnamed]; rfl⟩
  | arrowFunction hkind hnamed hsimple hbound harrow =>
    exact ⟨_, by simp [Construct.at?, hkind, hnamed, hbound, hsimple, harrow]; rfl⟩
  | classMethod hkind hnamed hwithin hbody =>
    cases above with
    | nil => cases hwithin
    | cons fr above =>
      cases hwithin
      have hclass : fr.parent.kind = "class_body" := hbody
      exact ⟨_, by simp [Construct.at?, hkind, hnamed, hclass]; rfl⟩
  | objectMethod hkind hnamed hwithin hbody =>
    cases above with
    | nil => cases hwithin
    | cons fr above =>
      cases hwithin
      have hobject : fr.parent.kind = "object" := hbody
      exact ⟨_, by simp [Construct.at?, hkind, hnamed, hobject]; rfl⟩

theorem of_at? {c : Construct} (h : Construct.at? f = some c) : Documentable f c.name c.kind := by
  unfold Construct.at? at h
  split at h
  · next hkind =>
    obtain ⟨name, hnamed, rfl⟩ := Option.map_eq_some_iff.mp h
    exact .function hkind hnamed
  · split at h
    · next hkind =>
      split at h
      · next name value hnamed hbound =>
        split at h
        · next hboth =>
          cases h
          exact .arrowFunction hkind hnamed hboth.1 hbound hboth.2
        · cases h
      · cases h
    · split at h
      · next hkind =>
        obtain ⟨t, above⟩ := f
        cases above with
        | nil => cases h
        | cons fr above =>
          simp only at h
          split at h
          · next kind name hparent hnamed =>
            cases h
            -- the parent of the method says of which kind it is
            split at hparent
            · next hclass =>
              cases hparent
              exact .classMethod hkind hnamed rfl hclass
            · split at hparent
              · next hobject =>
                cases hparent
                exact .objectMethod hkind hnamed rfl hobject
              · cases hparent
          · cases h
      · cases h

end Documentable

/-- Constructs are found at the places that get a comment, and nowhere else. -/
theorem documentable_iff {f : Focus} {name : Tree} {kind : SpanKind} :
    Documentable f name kind ↔ ∃ anchor, Construct.at? f = some ⟨name, kind, anchor⟩ :=
  ⟨Documentable.exists_at?, fun ⟨_, h⟩ => Documentable.of_at? h⟩

/-- The place gets a comment. -/
def IsDocumentable (f : Focus) : Prop := ∃ name kind, Documentable f name kind

theorem isSome_at?_iff (f : Focus) : (Construct.at? f).isSome ↔ IsDocumentable f := by
  constructor
  · intro h
    obtain ⟨c, hc⟩ := Option.isSome_iff_exists.mp h
    exact ⟨c.name, c.kind, .of_at? hc⟩
  · rintro ⟨name, kind, h⟩
    obtain ⟨anchor, hat⟩ := h.exists_at?
    rw [hat]
    rfl

instance (f : Focus) : Decidable (IsDocumentable f) := decidable_of_iff _ (isSome_at?_iff f)

end DocWeave
