import DocWeave.Path

/-!
# Paths and their written forms

* `split_join`, `not_mem_of_mem_split` — pieces without a separator are got back, and pieces have
  none
* `ofText_toText` — a path that has been read from a text is read again from its written form

A path that has been read is `Plain`: no name in it is empty, a single point or holds a slash.
Nothing else is needed to read it again.
-/

namespace DocWeave

namespace Pieces

variable {separator : Char}

theorem split_of_not_mem {piece : Text} (h : separator ∉ piece) :
    split separator piece = [piece] := by
  induction piece with
  | nil => rfl
  | cons c rest ih =>
    have hc : c ≠ separator := fun e => h (e ▸ List.mem_cons_self)
    rw [split, if_neg hc, ih fun hm => h (List.mem_cons_of_mem c hm)]

theorem split_append_separator {piece rest : Text} (h : separator ∉ piece) :
    split separator (piece ++ separator :: rest) = piece :: split separator rest := by
  induction piece with
  | nil => rw [List.nil_append, split, if_pos rfl]
  | cons c piece ih =>
    have hc : c ≠ separator := fun e => h (e ▸ List.mem_cons_self)
    rw [List.cons_append, split, if_neg hc, ih fun hm => h (List.mem_cons_of_mem c hm)]

theorem join_cons_cons (separator : Char) (a b : Text) (pieces : List Text) :
    join separator (a :: b :: pieces) = a ++ separator :: join separator (b :: pieces) := by
  simp [join, List.intercalate]

theorem split_join {pieces : List Text} (hne : pieces ≠ []) (h : ∀ a ∈ pieces, separator ∉ a) :
    split separator (join separator pieces) = pieces := by
  induction pieces with
  | nil => exact absurd rfl hne
  | cons a rest ih =>
    have ha := h a List.mem_cons_self
    cases rest with
    | nil =>
      have hjoin : join separator [a] = a := by simp [join, List.intercalate]
      rw [hjoin, split_of_not_mem ha]
    | cons b rest =>
      rw [join_cons_cons, split_append_separator ha,
        ih (List.cons_ne_nil b rest) fun c hc => h c (List.mem_cons_of_mem a hc)]

theorem not_mem_of_mem_split {t piece : Text} (h : piece ∈ split separator t) :
    separator ∉ piece := by
  induction t generalizing piece with
  | nil =>
    rw [split, List.mem_singleton] at h
    rw [h]
    exact List.not_mem_nil
  | cons c rest ih =>
    rw [split] at h
    split at h
    · rcases List.mem_cons.mp h with rfl | h
      · exact List.not_mem_nil
      · exact ih h
    · next hc =>
      split at h
      · next first pieces hsplit =>
        rcases List.mem_cons.mp h with rfl | h
        · intro hmem
          rcases List.mem_cons.mp hmem with rfl | hmem
          · exact hc rfl
          · exact ih (by rw [hsplit]; exact List.mem_cons_self) hmem
        · exact ih (by rw [hsplit]; exact List.mem_cons_of_mem first h)
      · next hsplit => exact absurd hsplit (split_ne_nil separator rest)

end Pieces

namespace Path

/-- No name is empty, a single point or holds a slash, and there are no more than two slashes in
front. -/
structure Plain (p : Path) : Prop where
  root : p.root = [] ∨ p.root = ['/'] ∨ p.root = ['/', '/']
  names : ∀ name ∈ p.names, name ≠ [] ∧ name ≠ ['.'] ∧ '/' ∉ name

theorem plain_ofText (t : Text) : (ofText t).Plain where
  root := by
    unfold ofText
    simp only
    split
    · exact Or.inl rfl
    · split
      · exact Or.inr (Or.inr rfl)
      · exact Or.inr (Or.inl rfl)
  names := by
    intro name hname
    obtain ⟨hmem, hkept⟩ := List.mem_filter.mp hname
    simp only [Bool.and_eq_true, Bool.not_eq_true', List.isEmpty_eq_false_iff, bne_iff_ne] at hkept
    exact ⟨hkept.1, hkept.2, Pieces.not_mem_of_mem_split hmem⟩

theorem filter_names {p : Path} (h : p.Plain) :
    p.names.filter (fun name => !name.isEmpty && name != ['.']) = p.names := by
  refine List.filter_eq_self.mpr ?_
  intro name hname
  obtain ⟨hne, hpoint, -⟩ := h.names name hname
  simp [hne, hpoint]

/-- What is written behind the slashes in front begins with none. -/
theorem takeWhile_join {p : Path} (h : p.Plain) (hne : p.names ≠ []) :
    (Pieces.join '/' p.names).takeWhile (· == '/') = [] := by
  obtain ⟨name, rest, hnames⟩ := List.exists_cons_of_ne_nil hne
  obtain ⟨hname, -, hslash⟩ := h.names name (by rw [hnames]; exact List.mem_cons_self)
  obtain ⟨c, name', rfl⟩ := List.exists_cons_of_ne_nil hname
  have hc : c ≠ '/' := fun e => hslash (e ▸ List.mem_cons_self)
  rw [hnames]
  cases rest with
  | nil => simp [Pieces.join, List.intercalate, hc]
  | cons b rest => simp [Pieces.join_cons_cons, hc]

theorem ofText_toText_of_plain {p : Path} (h : p.Plain) : ofText p.toText = p := by
  obtain ⟨root, names⟩ := p
  cases names with
  | nil => rcases h.root with hr | hr | hr <;> (simp only at hr; subst hr; rfl)
  | cons name rest =>
    have hsplit : Pieces.split '/' (Pieces.join '/' (name :: rest)) = name :: rest :=
      Pieces.split_join (List.cons_ne_nil name rest) fun a ha => (h.names a ha).2.2
    have hfilter := filter_names h
    have hwhile := takeWhile_join h (List.cons_ne_nil name rest)
    simp only at hfilter hwhile
    have htext : (⟨root, name :: rest⟩ : Path).toText
        = root ++ Pieces.join '/' (name :: rest) := by
      cases root <;> rfl
    rw [htext]
    unfold ofText
    rcases h.root with hr | hr | hr <;> simp only at hr <;> subst hr
    · simp [hwhile, hsplit, hfilter]
    · simp [hwhile, Pieces.split, hsplit, hfilter]
    · simp [hwhile, Pieces.split, hsplit, hfilter]

/-- The written form of a path leads where the path leads. -/
theorem ofText_toText (t : Text) : ofText (ofText t).toText = ofText t :=
  ofText_toText_of_plain (plain_ofText t)

end Path

end DocWeave
