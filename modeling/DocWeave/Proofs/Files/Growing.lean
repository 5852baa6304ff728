import DocWeave.Proofs.Files.Appending
import DocWeave.Proofs.Files.Collecting

/-!
# Files that only grow

Where the program stands in a directory, to add something to a file changes what is read by the
paths that lead to this file, and nothing else: whatever was there is there still, and no path leads
anywhere else than before, also those that lead to a file which is only made now.

* `Grown.place_eq_ok_iff` — paths lead to what they led to
* `contents_append` — what is read by any path once something has been added
-/

namespace DocWeave

namespace FileNode

variable {root n : FileNode} {new : Bytes} {name : Text} {parent other location : List Text}

/-! ## What may become of a node -/

/-- What was there is there still, though a file may hold something else and a directory have other
entries; where there was nothing, there may be a file now. -/
inductive Grows : Option FileNode → Option FileNode → Prop where
  | kept {n n' : Option FileNode} (h : SameKind n n') : Grows n n'
  | made (bytes : Bytes) : Grows none (some (file bytes))

theorem Grows.trans {a b c : Option FileNode} (hab : Grows a b) (hbc : Grows b c) : Grows a c := by
  cases hab with
  | kept hab =>
    cases hbc with
    | kept hbc => exact .kept (hab.trans hbc)
    | made bytes =>
      cases hab
      exact .made bytes
  | made bytes =>
    cases hbc with
    | kept hbc =>
      cases hbc with
      | file a b => exact .made b

/-! ## A file in a directory -/

def IsDirectoryAt (root : FileNode) (location : List Text) : Prop :=
  ∃ entries, root.find? location = some (directory entries)

/-- On the way to what is there, there are only directories. -/
theorem isDirectoryAt_of_find?_append {rest : List Text}
    (h : root.find? (location ++ name :: rest) = some n) : root.IsDirectoryAt location := by
  rw [find?_append] at h
  obtain ⟨m, hm, hrest⟩ := Option.bind_eq_some_iff.mp h
  obtain ⟨entries, -, rfl, -, -⟩ := find?_cons_cases hrest
  exact ⟨entries, hm⟩

theorem IsDirectoryAt.atRoot (h : root.IsDirectoryAt location) : root.IsDirectoryAt [] := by
  cases location with
  | nil => exact h
  | cons name rest =>
    obtain ⟨entries, hfind⟩ := h
    rw [← List.nil_append (name :: rest)] at hfind
    exact isDirectoryAt_of_find?_append hfind

theorem IsDirectoryAt.dropLast (h : root.IsDirectoryAt location) :
    root.IsDirectoryAt location.dropLast := by
  rcases List.eq_nil_or_concat location with rfl | ⟨front, name, rfl⟩
  · exact h
  · obtain ⟨entries, hfind⟩ := h
    rw [List.concat_eq_append] at hfind ⊢
    rw [List.dropLast_concat]
    exact isDirectoryAt_of_find?_append hfind

/-- What is put into a directory is found there. -/
theorem find?_put_self (hparent : root.IsDirectoryAt parent) (new : FileNode) (name : Text) :
    (put new (parent ++ [name]) root).find? (parent ++ [name]) = some new := by
  obtain ⟨inside, hinside⟩ := hparent
  induction parent generalizing root with
  | nil =>
    cases hinside
    rw [List.nil_append, put]
    split
    · next hpresent =>
      obtain ⟨old, hold⟩ := Option.isSome_iff_exists.mp hpresent
      rw [find?, lookup_map_put, if_pos rfl, hold]
      rfl
    · next hmissing =>
      rw [find?, List.lookup_append, Option.not_isSome_iff_eq_none.mp hmissing]
      simp [put, find?]
  | cons key rest ih =>
    obtain ⟨entries, next, rfl, hnext, hrest⟩ := find?_cons_cases hinside
    rw [List.cons_append, put, if_pos (by rw [hnext]; rfl), find?, lookup_map_put, if_pos rfl, hnext]
    exact ih hrest

/-- Where there was nothing, there is nothing once a file has been put somewhere else. -/
theorem find?_put_eq_none (hparent : root.IsDirectoryAt parent)
    (hfile : ∀ m, root.find? (parent ++ [name]) = some m → ∃ bytes, m = file bytes)
    (hother : root.find? other = none) (hne : other ≠ parent ++ [name]) (new : Bytes) :
    (put (file new) (parent ++ [name]) root).find? other = none := by
  obtain ⟨inside, hinside⟩ := hparent
  cases other with
  | nil => cases hother
  | cons key more =>
    induction parent generalizing root key more with
    | nil =>
      cases hinside
      -- below the file itself there is nothing either
      have hbelow : key = name → ∃ first rest, more = first :: rest := by
        rintro rfl
        exact List.exists_cons_of_ne_nil fun hnil => hne (by rw [hnil]; rfl)
      rw [List.nil_append, put]
      rw [find?] at hother
      split
      · rw [find?, lookup_map_put]
        by_cases hkey : key = name
        · obtain ⟨first, rest, rfl⟩ := hbelow hkey
          rw [if_pos hkey]
          cases inside.lookup key <;> rfl
        · rwa [if_neg hkey]
      · rw [find?, List.lookup_append]
        cases hlookup : inside.lookup key with
        | some m => rwa [hlookup] at hother
        | none =>
          rw [Option.none_or, List.lookup_cons]
          by_cases hkey : key = name
          · obtain ⟨first, rest, rfl⟩ := hbelow hkey
            simp [hkey, put, find?]
          · simp [beq_eq_false_iff_ne.mpr hkey]
    | cons first rest ih =>
      obtain ⟨entries, next, rfl, hnext, hrest⟩ := find?_cons_cases hinside
      rw [List.cons_append, put, if_pos (by rw [hnext]; rfl), find?, lookup_map_put]
      by_cases hkey : key = first
      · subst hkey
        rw [find?, hnext, Option.bind_some] at hother
        rw [if_pos rfl, hnext, Option.map_some, Option.bind_some]
        cases more with
        | nil => cases hother
        | cons key' more =>
          refine ih (fun m hm => hfile m ?_) hrest key' more hother fun e => hne (by rw [e]; rfl)
          rw [List.cons_append, find?, hnext]
          exact hm
      · rw [if_neg hkey]
        exact hother

/-- A file that is put into a directory, where there was a file or nothing, lets all else be. -/
theorem grows_put (hparent : root.IsDirectoryAt parent)
    (hfile : ∀ m, root.find? (parent ++ [name]) = some m → ∃ bytes, m = file bytes) (new : Bytes)
    (other : List Text) :
    Grows (root.find? other) ((put (file new) (parent ++ [name]) root).find? other) := by
  cases hother : root.find? other with
  | some n => exact .kept (sameKind_put_of_some hfile hother)
  | none =>
    by_cases hne : other = parent ++ [name]
    · rw [hne, find?_put_self hparent]
      exact .made new
    · rw [find?_put_eq_none hparent hfile hother hne]
      exact .kept .absent

end FileNode

namespace Files

open FileNode

variable {root root' : FileNode} {f g k : Files} {p q : Path} {more : Bytes} {location : List Text}

/-! ## Where paths lead -/

theorem descend_eq_ok_iff_of_grows
    (h : ∀ location, Grows (root.find? location) (root'.find? location))
    {redirect redirect' : List Text → Path → List Text → Except Problem (List Text)}
    (hredirect : ∀ start p names,
      redirect start p names = .ok location ↔ redirect' start p names = .ok location)
    (start names : List Text) :
    descend root redirect start names = .ok location
      ↔ descend root' redirect' start names = .ok location := by
  induction names generalizing start with
  | nil => exact Iff.rfl
  | cons name rest ih =>
    unfold descend
    by_cases hpoint : name = ['.']
    · rw [if_pos hpoint, if_pos hpoint]
      exact ih _
    rw [if_neg hpoint, if_neg hpoint]
    by_cases hup : name = ['.', '.']
    · rw [if_pos hup, if_pos hup]
      exact ih _
    rw [if_neg hup, if_neg hup]
    have hgrows := h (start ++ [name])
    generalize root.find? (start ++ [name]) = n at hgrows
    generalize root'.find? (start ++ [name]) = n' at hgrows
    cases hgrows with
    | kept hkind =>
      cases hkind with
      | absent => exact Iff.rfl
      | file a b => exact Iff.rfl
      | link target => exact hredirect _ _ _
      | directory a b => exact ih _
    | made bytes =>
      -- a file that is made can be where a path ends, as the place for it could before
      by_cases hlast : rest.isEmpty = true <;> simp [hlast]

theorem follow_eq_ok_iff_of_grows
    (h : ∀ location, Grows (root.find? location) (root'.find? location))
    (links : Nat) (start names : List Text) :
    follow root links start names = .ok location
      ↔ follow root' links start names = .ok location := by
  induction links generalizing start names with
  | zero => exact descend_eq_ok_iff_of_grows h (fun _ _ _ => by simp) start names
  | succ links ih =>
    rw [follow, follow]
    exact descend_eq_ok_iff_of_grows h (fun _ _ _ => ih _ _) start names

/-- The location is that of a directory, or there is a directory for what may be there. -/
def InTree (root : FileNode) (location : List Text) : Prop :=
  root.IsDirectoryAt location
    ∨ ∃ parent name, location = parent ++ [name] ∧ root.IsDirectoryAt parent

theorem inTree_of_descend
    {redirect : List Text → Path → List Text → Except Problem (List Text)}
    (hredirect : ∀ start p names, root.IsDirectoryAt start →
      redirect start p names = .ok location → InTree root location) {start names : List Text}
    (hstart : root.IsDirectoryAt start) (h : descend root redirect start names = .ok location) :
    InTree root location := by
  induction names generalizing start with
  | nil =>
    cases h
    exact Or.inl hstart
  | cons name rest ih =>
    unfold descend at h
    split at h
    · exact ih hstart h
    split at h
    · exact ih hstart.dropLast h
    · split at h
      · split at h
        · cases h
          exact Or.inr ⟨start, name, rfl, hstart⟩
        · cases h
      · split at h
        · cases h
          exact Or.inr ⟨start, name, rfl, hstart⟩
        · cases h
      · next entries hfind => exact ih ⟨entries, hfind⟩ h
      · exact hredirect _ _ _ hstart h

theorem inTree_of_follow {links : Nat} {start names : List Text} (hstart : root.IsDirectoryAt start)
    (h : follow root links start names = .ok location) : InTree root location := by
  induction links generalizing start names with
  | zero => exact inTree_of_descend (fun _ _ _ _ hloop => by cases hloop) hstart h
  | succ links ih =>
    refine inTree_of_descend (fun at_ p rest hat hlink => ih ?_ hlink) hstart h
    split
    · exact hat
    · exact hat.atRoot

/-- The program stands in a directory. -/
def Stands (f : Files) : Prop := f.root.IsDirectoryAt f.here

theorem Stands.inTree (h : f.Stands) (hplace : f.place p = .ok location) :
    InTree f.root location := by
  refine inTree_of_follow ?_ hplace
  split
  · exact h
  · exact h.atRoot

/-! ## Files that have grown -/

/-- The program stands where it stood, and at every location there is what may have become of what
there was. -/
structure Grown (f g : Files) : Prop where
  here : g.here = f.here
  grows : ∀ location, Grows (f.root.find? location) (g.root.find? location)

namespace Grown

theorem refl (f : Files) : Grown f f := ⟨rfl, fun _ => .kept (.refl _)⟩

theorem trans (h : Grown f g) (h' : Grown g k) : Grown f k :=
  ⟨h'.here.trans h.here, fun location => (h.grows location).trans (h'.grows location)⟩

/-- Paths lead to the locations to which they led. -/
theorem place_eq_ok_iff (h : Grown f g) (p : Path) :
    g.place p = .ok location ↔ f.place p = .ok location := by
  unfold place
  rw [h.here]
  exact (follow_eq_ok_iff_of_grows h.grows _ _ _).symm

theorem leads (h : Grown f g) (hp : f.Leads p location) : g.Leads p location := by
  obtain ⟨hplace, bytes, hfind⟩ := hp
  refine ⟨(h.place_eq_ok_iff p).mpr hplace, ?_⟩
  have hgrows := h.grows location
  rw [hfind] at hgrows
  generalize g.root.find? location = n at hgrows
  cases hgrows with
  | kept hkind =>
    cases hkind with
    | file _ new => exact ⟨new, rfl⟩

theorem stands (h : Grown f g) (hstands : f.Stands) : g.Stands := by
  obtain ⟨entries, hfind⟩ := hstands
  have hgrows := h.grows f.here
  rw [← h.here] at hgrows hfind
  rw [hfind] at hgrows
  unfold Stands IsDirectoryAt
  generalize g.root.find? g.here = n at hgrows
  cases hgrows with
  | kept hkind =>
    cases hkind with
    | directory _ more => exact ⟨more, rfl⟩

end Grown

/-! ## What is read -/

/-- Both paths lead to one location, at which there may be nothing yet. -/
def Meet (f : Files) (p q : Path) : Prop :=
  ∃ location, f.place p = .ok location ∧ f.place q = .ok location

instance (f : Files) (p q : Path) : Decidable (f.Meet p q) :=
  let at_ (p : Path) := (f.place p).toOption
  decidable_of_iff ((at_ p).isSome = true ∧ at_ p = at_ q) <| by
    unfold Meet
    cases hp : f.place p <;> cases hq : f.place q <;> simp [at_, hp, hq, Except.toOption, eq_comm]

theorem Grown.meet_iff (h : Grown f g) : g.Meet p q ↔ f.Meet p q := by
  unfold Meet
  simp only [h.place_eq_ok_iff]

/-- What a node holds if it is a file. -/
def bytesOf : Option FileNode → Bytes
  | some (file bytes) => bytes
  | _ => []

theorem contents_of_place (h : f.place p = .ok location) :
    f.contents p = bytesOf (f.root.find? location) := by
  unfold contents Files.read look nodeAt
  simp only [h, bind, Except.bind]
  cases f.root.find? location with
  | none => rfl
  | some n => cases n <;> rfl

theorem contents_of_not_place (h : ∀ location, f.place p ≠ .ok location) : f.contents p = [] := by
  unfold contents Files.read look
  cases hplace : f.place p with
  | error e => rfl
  | ok location => exact absurd hplace (h location)

theorem Stands.exists_parent (h : f.Stands) (hplace : f.place p = .ok location)
    (hfile : ∀ n, f.root.find? location = some n → ∃ bytes, n = file bytes) :
    ∃ parent name, location = parent ++ [name] ∧ f.root.IsDirectoryAt parent := by
  refine (h.inTree hplace).resolve_left ?_
  rintro ⟨entries, hfind⟩
  obtain ⟨bytes, hbytes⟩ := hfile _ hfind
  cases hbytes

theorem grown_append (hstands : f.Stands) (h : f.append p more = .ok g) : Grown f g := by
  obtain ⟨location, hplace, hfile, rfl⟩ := append_ok_cases h
  obtain ⟨parent, name, rfl, hparent⟩ := hstands.exists_parent hplace hfile
  exact ⟨rfl, grows_put hparent hfile _⟩

/-- What has been added is read behind what was read before, by all paths that lead where it has been
added. By all other paths the same is read as before. -/
theorem contents_append (hstands : f.Stands) (h : f.append p more = .ok g) (q : Path) :
    g.contents q = f.contents q ++ if f.Meet p q then more else [] := by
  have hgrown := grown_append hstands h
  obtain ⟨location, hplace, hfile, rfl⟩ := append_ok_cases h
  obtain ⟨parent, name, rfl, hparent⟩ := hstands.exists_parent hplace hfile
  cases hq : f.place q with
  | error e =>
    have hnot : ¬ f.Meet p q := by
      rintro ⟨other, -, hother⟩
      cases hq.symm.trans hother
    rw [if_neg hnot, List.append_nil, contents_of_not_place, contents_of_not_place]
    · intro other hother
      cases hq.symm.trans hother
    · intro other hother
      cases hq.symm.trans ((hgrown.place_eq_ok_iff q).mp hother)
  | ok other =>
    rw [contents_of_place ((hgrown.place_eq_ok_iff q).mpr hq), contents_of_place hq]
    by_cases hne : other = parent ++ [name]
    · subst hne
      rw [if_pos ⟨_, hplace, hq⟩, find?_put_self hparent, contents_of_place hplace]
      rfl
    · have hnot : ¬ f.Meet p q := by
        rintro ⟨_, hp, hq'⟩
        exact hne (Except.ok.inj (hq.symm.trans (hq'.trans (hp.symm.trans hplace))))
      rw [if_neg hnot, List.append_nil]
      cases hfind : f.root.find? other with
      | none => rw [find?_put_eq_none hparent hfile hfind hne]
      | some n =>
        rcases find?_put_cases (f.contents p ++ more) hfile hfind hne with hsame
          | ⟨entries, more, rfl, hdirectory⟩
        · rw [hsame]
        · rw [hdirectory]
          rfl

/-- A path by which something has been added leads to a file. -/
theorem leads_append (hstands : f.Stands) (h : f.append p more = .ok g) :
    ∃ location, g.Leads p location := by
  have hgrown := grown_append hstands h
  obtain ⟨location, hplace, hfile, rfl⟩ := append_ok_cases h
  obtain ⟨parent, name, rfl, hparent⟩ := hstands.exists_parent hplace hfile
  exact ⟨_, (hgrown.place_eq_ok_iff p).mpr hplace, _, find?_put_self hparent _ name⟩

/-- To a file that is there anything can be added. -/
theorem exists_append (h : f.Leads p location) (more : Bytes) : ∃ g, f.append p more = .ok g := by
  obtain ⟨hplace, old, hfind⟩ := h
  have hread : f.read p = .ok old := by
    simp [Files.read, look, nodeAt, hplace, hfind, bind, Except.bind]
  obtain ⟨g, hg, -⟩ := exists_write ⟨hplace, old, hfind⟩ (old ++ more)
  refine ⟨g, ?_⟩
  rw [append, hread]
  exact hg

end Files

end DocWeave
