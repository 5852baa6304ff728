import DocWeave.Files

/-!
# Files that are written

* `read_write` — what has been written to a file is read from it

On the way to a file nothing is looked at but what kind of node is where, and where links point to.
A file that gets other contents changes none of this, so that every path leads where it led before
(`place_put`).
-/

namespace DocWeave

namespace FileNode

/-! ## What is looked at on the way to a file -/

/-- Both nodes are missing, files, directories, or links to one place. -/
inductive SameKind : Option FileNode → Option FileNode → Prop where
  | absent : SameKind none none
  | file (a b : Bytes) : SameKind (some (file a)) (some (file b))
  | link (target : Text) : SameKind (some (link target)) (some (link target))
  | directory (a b : List (Text × FileNode)) : SameKind (some (directory a)) (some (directory b))

theorem SameKind.refl (n : Option FileNode) : SameKind n n := by
  cases n with
  | none => exact .absent
  | some n =>
    cases n with
    | file bytes => exact .file bytes bytes
    | link target => exact .link target
    | directory entries => exact .directory entries entries

/-! ## A node in the place of another -/

theorem lookup_map_put (entries : List (Text × FileNode)) (name other : Text)
    (g : FileNode → FileNode) :
    (entries.map fun e => if e.1 = name then (name, g e.2) else e).lookup other
      = if other = name then (entries.lookup other).map g else entries.lookup other := by
  induction entries with
  | nil => simp
  | cons e entries ih =>
    obtain ⟨key, n⟩ := e
    rw [List.map_cons]
    by_cases hother : other = key
    · subst hother
      by_cases hkey : other = name
      · simp [hkey]
      · simp [hkey]
    · have hne : (other == key) = false := beq_eq_false_iff_ne.mpr hother
      by_cases hkey : key = name
      · subst hkey
        simp only [if_true, List.lookup_cons, hne]
        exact ih
      · simp only [if_neg hkey, List.lookup_cons, hne]
        exact ih

/-- A location at which there is something leads from its first name into an entry of that name. -/
theorem find?_cons_cases {n found : FileNode} {name : Text} {rest : List Text}
    (h : n.find? (name :: rest) = some found) :
    ∃ entries next, n = directory entries ∧ entries.lookup name = some next
      ∧ next.find? rest = some found := by
  cases n with
  | file bytes => cases h
  | link target => cases h
  | directory entries =>
    obtain ⟨next, hnext, hfind⟩ := Option.bind_eq_some_iff.mp h
    exact ⟨entries, next, rfl, hnext, hfind⟩

theorem find?_put {root old new : FileNode} {location : List Text}
    (h : root.find? location = some old) : (put new location root).find? location = some new := by
  induction location generalizing root with
  | nil => rfl
  | cons name rest ih =>
    obtain ⟨entries, next, rfl, hnext, hfind⟩ := find?_cons_cases h
    rw [put, if_pos (by rw [hnext]; rfl), find?, lookup_map_put, if_pos rfl, hnext]
    exact ih hfind

/-- A file that gets other contents changes the kind of nothing. -/
theorem sameKind_put {root : FileNode} {old new : Bytes} {location : List Text}
    (h : root.find? location = some (file old)) (other : List Text) :
    SameKind (root.find? other) ((put (file new) location root).find? other) := by
  induction location generalizing root other with
  | nil =>
    cases h
    cases other with
    | nil => exact .file old new
    | cons name rest => exact .absent
  | cons name rest ih =>
    obtain ⟨entries, next, rfl, hnext, hfind⟩ := find?_cons_cases h
    rw [put, if_pos (by rw [hnext]; rfl)]
    -- another location leads through the same entry, or through one that stays as it is
    cases other with
    | nil => exact .directory _ _
    | cons key more =>
      rw [find?, find?, lookup_map_put]
      by_cases hkey : key = name
      · subst hkey
        rw [if_pos rfl, hnext]
        exact ih hfind more
      · rw [if_neg hkey]
        exact SameKind.refl _

end FileNode

namespace Files

open FileNode

/-! ## Paths lead where they led -/

variable {root root' : FileNode}

theorem descend_congr (h : ∀ location, SameKind (root.find? location) (root'.find? location))
    (redirect : List Text → Path → List Text → Except Problem (List Text))
    (location names : List Text) :
    descend root redirect location names = descend root' redirect location names := by
  induction names generalizing location with
  | nil => rfl
  | cons name rest ih =>
    unfold descend
    split
    · exact ih _
    split
    · exact ih _
    · -- `descend` tells nodes apart by their kinds alone
      have hkind := h (location ++ [name])
      generalize root.find? (location ++ [name]) = n at hkind
      generalize root'.find? (location ++ [name]) = n' at hkind
      cases hkind with
      | absent => rfl
      | file a b => rfl
      | link target => rfl
      | directory a b => exact ih _

theorem follow_congr (h : ∀ location, SameKind (root.find? location) (root'.find? location))
    (links : Nat) (location names : List Text) :
    follow root links location names = follow root' links location names := by
  induction links generalizing location names with
  | zero => exact descend_congr h _ location names
  | succ links ih =>
    rw [follow, follow, descend_congr h]
    congr 1
    funext location p rest
    exact ih _ _

theorem place_put {f : Files} {old new : Bytes} {location : List Text}
    (h : f.root.find? location = some (file old)) (p : Path) :
    ({ f with root := put (file new) location f.root } : Files).place p = f.place p :=
  (follow_congr (sameKind_put h) linkLimit _ p.names).symm

/-! ## Reading what has been written -/

theorem read_ok_cases {f : Files} {p : Path} {bytes : Bytes} (h : f.read p = .ok bytes) :
    ∃ location, f.place p = .ok location ∧ f.root.find? location = some (file bytes) := by
  unfold Files.read look nodeAt at h
  cases hplace : f.place p with
  | error e => simp [hplace, bind, Except.bind] at h
  | ok location =>
    cases hfind : f.root.find? location with
    | none => simp [hplace, hfind, bind, Except.bind] at h
    | some n =>
      cases n with
      | file old =>
        simp only [hplace, hfind, bind, Except.bind, Except.ok.injEq] at h
        exact ⟨location, rfl, by rw [hfind, h]⟩
      | link target => simp [hplace, hfind, bind, Except.bind] at h
      | directory entries => simp [hplace, hfind, bind, Except.bind] at h

/-- What has been written to a file is read from it. -/
theorem read_write {f f' : Files} {p : Path} {old new : Bytes} (hold : f.read p = .ok old)
    (h : f.write p new = .ok f') : f'.read p = .ok new := by
  obtain ⟨location, hplace, hfind⟩ := read_ok_cases hold
  have hf' : f' = { f with root := put (file new) location f.root } := by
    simp only [Files.write, hplace, hfind, bind, Except.bind, pure, Except.pure,
      Except.ok.injEq] at h
    exact h.symm
  have hplace' : f'.place p = .ok location := by rw [hf', place_put hfind, hplace]
  have hfind' : f'.root.find? location = some (file new) := by rw [hf', find?_put hfind]
  unfold Files.read look nodeAt
  simp only [hplace', hfind', bind, Except.bind]

end Files

end DocWeave
