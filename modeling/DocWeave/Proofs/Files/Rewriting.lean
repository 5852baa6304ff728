import DocWeave.Proofs.Files.Writing

/-!
# Files some of which get other contents

Writing to files that are there changes what these hold and nothing else: no name appears or goes,
every path leads where it led, and all other files are as they were. This is `Rewritten`, which a
write brings about (`exists_write`) and which adds up over many writes (`Rewritten.trans`).

* `Rewritten.read_eq` — what is read by a path that leads to none of these files is what was read
  before
-/

namespace DocWeave

namespace FileNode

theorem SameKind.trans {a b c : Option FileNode} (hab : SameKind a b) (hbc : SameKind b c) :
    SameKind a c := by
  cases hab <;> cases hbc <;> constructor

/-- Files at other locations hold what they held. -/
theorem find?_put_eq_file_iff {root : FileNode} {old new bytes : Bytes} {location other : List Text}
    (h : root.find? location = some (file old)) (hne : other ≠ location) :
    (put (file new) location root).find? other = some (file bytes)
      ↔ root.find? other = some (file bytes) := by
  induction location generalizing root other with
  | nil =>
    cases h
    obtain ⟨name, rest, rfl⟩ := List.exists_cons_of_ne_nil hne
    rfl
  | cons name rest ih =>
    obtain ⟨entries, next, rfl, hnext, hfind⟩ := find?_cons_cases h
    rw [put, if_pos (by rw [hnext]; rfl)]
    cases other with
    | nil => simp [find?]
    | cons key more =>
      rw [find?, find?, lookup_map_put]
      by_cases hkey : key = name
      · subst hkey
        rw [if_pos rfl, hnext]
        exact ih hfind fun e => hne (by rw [e])
      · rw [if_neg hkey]

end FileNode

namespace Files

open FileNode

variable {f g k : Files} {p : Path} {paths more : List Path} {location : List Text}

/-- The path leads to a file, which is at `location`. -/
def Leads (f : Files) (p : Path) (location : List Text) : Prop :=
  f.place p = .ok location ∧ ∃ bytes, f.root.find? location = some (file bytes)

/-- There is nothing new in `g` but what some of the files hold to which `paths` lead. -/
structure Rewritten (f g : Files) (paths : List Path) : Prop where
  here : g.here = f.here
  kinds : ∀ location, SameKind (f.root.find? location) (g.root.find? location)
  others : ∀ location, (∀ p ∈ paths, f.place p ≠ .ok location) → ∀ bytes,
    g.root.find? location = some (file bytes) ↔ f.root.find? location = some (file bytes)

theorem Rewritten.refl (f : Files) : Rewritten f f [] where
  here := rfl
  kinds _ := .refl _
  others _ _ _ := Iff.rfl

theorem Rewritten.place_eq (h : Rewritten f g paths) (p : Path) : g.place p = f.place p := by
  unfold place
  rw [h.here, follow_congr h.kinds]

theorem Rewritten.trans (h : Rewritten f g paths) (h' : Rewritten g k more) :
    Rewritten f k (paths ++ more) where
  here := h'.here.trans h.here
  kinds location := (h.kinds location).trans (h'.kinds location)
  others location hnot bytes := by
    have hmore : ∀ p ∈ more, g.place p ≠ .ok location := by
      intro p hp
      rw [h.place_eq]
      exact hnot p (List.mem_append_right _ hp)
    rw [h'.others location hmore bytes,
      h.others location (fun p hp => hnot p (List.mem_append_left _ hp)) bytes]

theorem Rewritten.leads (h : Rewritten f g paths) (hp : f.Leads p location) :
    g.Leads p location := by
  obtain ⟨hplace, bytes, hfind⟩ := hp
  refine ⟨(h.place_eq p).trans hplace, ?_⟩
  have hkind := h.kinds location
  rw [hfind] at hkind
  generalize g.root.find? location = n at hkind
  cases hkind with
  | file _ new => exact ⟨new, rfl⟩

/-- A path that leads to none of the files is read as before. -/
theorem Rewritten.read_eq (h : Rewritten f g paths) (hp : ∀ q ∈ paths, f.place q ≠ f.place p) :
    g.read p = f.read p := by
  unfold Files.read look nodeAt
  rw [h.place_eq p]
  cases hplace : f.place p with
  | error e => rfl
  | ok location =>
    have hothers := h.others location fun q hq => hplace ▸ hp q hq
    have hkind := h.kinds location
    simp only [bind, Except.bind]
    generalize f.root.find? location = n at hkind hothers
    generalize g.root.find? location = n' at hkind hothers
    cases hkind with
    | absent => rfl
    | file a b =>
      have hab := (hothers b).mp rfl
      cases hab
      rfl
    | link target => rfl
    | directory a b => rfl

/-- To a file that is there anything can be written. -/
theorem exists_write (h : f.Leads p location) (bytes : Bytes) :
    ∃ g, f.write p bytes = .ok g ∧ Rewritten f g [p] ∧ g.read p = .ok bytes := by
  obtain ⟨hplace, old, hfind⟩ := h
  let g : Files := { f with root := put (file bytes) location f.root }
  have hwrite : f.write p bytes = .ok g := by
    simp [Files.write, hplace, hfind, bind, Except.bind, pure, Except.pure, g]
  have hread : f.read p = .ok old := by
    simp [Files.read, look, nodeAt, hplace, hfind, bind, Except.bind]
  refine ⟨g, hwrite, ⟨rfl, sameKind_put hfind, ?_⟩, read_write hread hwrite⟩
  intro other hother new
  refine find?_put_eq_file_iff hfind fun e => ?_
  exact hother p List.mem_cons_self (by rw [hplace, e])

theorem rewritten_of_write {bytes : Bytes} (h : f.Leads p location)
    (hw : f.write p bytes = .ok g) : Rewritten f g [p] ∧ g.read p = .ok bytes := by
  obtain ⟨k, hk, hrewritten, hread⟩ := exists_write h bytes
  obtain rfl : k = g := Except.ok.inj (hk.symm.trans hw)
  exact ⟨hrewritten, hread⟩

end Files

end DocWeave
