import DocWeave.Proofs.Files.Rewriting
import Mathlib.Logic.Relation

/-!
# Files something is added to

To add something to a file changes what this file holds, or makes it if it is not there. No other
file is changed, and paths that led to a file lead there still.

* `Appended` — something has been added to one file, again and again
* `Appended.read_eq_ok` — what could be read by a path that leads elsewhere can be read as before
-/

namespace DocWeave

namespace FileNode

variable {root old n : FileNode} {new bytes : Bytes} {location other : List Text}

theorem find?_put_none_or_self (root : FileNode) (new : Bytes) (location : List Text) :
    (put (file new) location root).find? location = none
      ∨ (put (file new) location root).find? location = some (file new) := by
  induction location generalizing root with
  | nil => exact Or.inr rfl
  | cons name rest ih =>
    cases root with
    | file bytes => exact Or.inl rfl
    | link target => exact Or.inl rfl
    | directory entries =>
      unfold put
      split
      · next hpresent =>
        obtain ⟨next, hnext⟩ := Option.isSome_iff_exists.mp hpresent
        rw [find?, lookup_map_put, if_pos rfl, hnext]
        exact ih next
      · next hmissing =>
        have hnone : entries.lookup name = none := Option.not_isSome_iff_eq_none.mp hmissing
        rw [find?, List.lookup_append, hnone]
        simp only [Option.none_or, List.lookup_cons, BEq.rfl]
        exact ih _

/-- Where there is no file yet, or only a file, nothing else is changed by a file that is put there:
a directory on the way may get an entry. -/
theorem find?_put_cases (new : Bytes)
    (hfile : ∀ m, root.find? location = some m → ∃ bytes, m = file bytes)
    (hother : root.find? other = some n) (hne : other ≠ location) :
    (put (file new) location root).find? other = some n
      ∨ ∃ entries more, n = directory entries
        ∧ (put (file new) location root).find? other = some (directory more) := by
  induction location generalizing root other with
  | nil =>
    obtain ⟨bytes, rfl⟩ := hfile root rfl
    obtain ⟨key, more, rfl⟩ := List.exists_cons_of_ne_nil hne
    cases hother
  | cons name rest ih =>
    cases root with
    | file bytes => exact Or.inl hother
    | link target => exact Or.inl hother
    | directory entries =>
      unfold put
      cases other with
      | nil =>
        cases hother
        split
        · exact Or.inr ⟨_, _, rfl, rfl⟩
        · exact Or.inr ⟨_, _, rfl, rfl⟩
      | cons key more =>
        obtain ⟨_, found, hentries, hfound, hmore⟩ := find?_cons_cases hother
        cases hentries
        split
        · rw [find?, lookup_map_put]
          by_cases hkey : key = name
          · subst hkey
            rw [if_pos rfl, hfound]
            refine ih (fun m hm => hfile m ?_) hmore fun e => hne (by rw [e])
            rw [find?, hfound]
            exact hm
          · rw [if_neg hkey]
            exact Or.inl hother
        · rw [find?, List.lookup_append, hfound]
          exact Or.inl hmore

theorem sameKind_put_of_some (hfile : ∀ m, root.find? location = some m → ∃ bytes, m = file bytes)
    (hother : root.find? other = some n) :
    SameKind (some n) ((put (file new) location root).find? other) := by
  by_cases hne : other = location
  · subst hne
    obtain ⟨bytes, rfl⟩ := hfile n hother
    rw [find?_put hother]
    exact .file bytes new
  · rcases find?_put_cases new hfile hother hne with hsame | ⟨entries, more, rfl, hdirectory⟩
    · rw [hsame]
      exact .refl _
    · rw [hdirectory]
      exact .directory entries more

end FileNode

namespace Files

open FileNode

variable {root root' : FileNode} {f g : Files} {p q : Path} {p? : Option Path} {bytes more : Bytes}
  {location : List Text}

/-! ## Paths lead where they led -/

/-- Names that lead to a location still do once there are more nodes, if a file is all that may be
there now. -/
theorem descend_of_grown
    (hgrown : ∀ other n, root.find? other = some n → SameKind (some n) (root'.find? other))
    (hlocation : root'.find? location = none ∨ ∃ bytes, root'.find? location = some (file bytes))
    {redirect redirect' : List Text → Path → List Text → Except Problem (List Text)}
    (hredirect : ∀ start p names, redirect start p names = .ok location →
      redirect' start p names = .ok location) {start names : List Text}
    (h : descend root redirect start names = .ok location) :
    descend root' redirect' start names = .ok location := by
  induction names generalizing start with
  | nil => exact h
  | cons name rest ih =>
    unfold descend at h ⊢
    by_cases hpoint : name = ['.']
    · rw [if_pos hpoint] at h ⊢
      exact ih h
    rw [if_neg hpoint] at h ⊢
    by_cases hup : name = ['.', '.']
    · rw [if_pos hup] at h ⊢
      exact ih h
    rw [if_neg hup] at h ⊢
    cases hn : root.find? (start ++ [name]) with
    | none =>
      rw [hn] at h
      simp only at h
      split at h
      · next hlast =>
        cases h
        rcases hlocation with hnone | ⟨bytes, hfile⟩
        · rw [hnone]
          exact if_pos hlast
        · rw [hfile]
          exact if_pos hlast
      · cases h
    | some n =>
      have hkind := hgrown _ _ hn
      rw [hn] at h
      generalize root'.find? (start ++ [name]) = n' at hkind
      cases hkind with
      | file a b => exact h
      | link target => exact hredirect _ _ _ h
      | directory a b => exact ih h

theorem follow_of_grown
    (hgrown : ∀ other n, root.find? other = some n → SameKind (some n) (root'.find? other))
    (hlocation : root'.find? location = none ∨ ∃ bytes, root'.find? location = some (file bytes))
    {links : Nat} {start names : List Text} (h : follow root links start names = .ok location) :
    follow root' links start names = .ok location := by
  induction links generalizing start names with
  | zero =>
    rw [follow] at h ⊢
    refine descend_of_grown hgrown hlocation (fun _ _ _ hloop => ?_) h
    cases hloop
  | succ links ih =>
    rw [follow] at h ⊢
    exact descend_of_grown hgrown hlocation (fun _ _ _ hlink => ih hlink) h

/-! ## Adding once -/

/-- What is read by a path; nothing if it leads to no file. -/
def contents (f : Files) (p : Path) : Bytes := (f.read p).toOption.getD []

/-- What is added goes to a location at which there is a file, or nothing, behind what is there. -/
theorem append_ok_cases (h : f.append p more = .ok g) :
    ∃ location, f.place p = .ok location
      ∧ (∀ n, f.root.find? location = some n → ∃ bytes, n = file bytes)
      ∧ g = { f with root := put (file (f.contents p ++ more)) location f.root } := by
  unfold append Files.read look nodeAt at h
  unfold contents Files.read look nodeAt
  cases hplace : f.place p with
  | error e =>
    simp only [hplace, bind, Except.bind] at h
    split at h
    · next hread => cases hread
    · simp [Files.write, hplace, bind, Except.bind] at h
    · cases h
  | ok location =>
    cases hfind : f.root.find? location with
    | none =>
      simp only [hplace, hfind, bind, Except.bind, Files.write, pure, Except.pure,
        Except.ok.injEq] at h
      refine ⟨location, rfl, fun n hn => ?_, h.symm.trans ?_⟩
      · cases hfind.symm.trans hn
      · simp [hfind, bind, Except.bind, Except.toOption]
    | some n =>
      cases n with
      | file old =>
        simp only [hplace, hfind, bind, Except.bind, Files.write, pure, Except.pure,
          Except.ok.injEq] at h
        refine ⟨location, rfl, fun n hn => ⟨old, ?_⟩, h.symm.trans ?_⟩
        · exact (Option.some.inj (hfind.symm.trans hn)).symm
        · simp [hfind, bind, Except.bind, Except.toOption]
      | link target => simp [hplace, hfind, bind, Except.bind] at h
      | directory entries => simp [hplace, hfind, bind, Except.bind] at h

theorem place_append (h : f.append p more = .ok g) : g.place p = f.place p := by
  obtain ⟨location, hplace, hfile, rfl⟩ := append_ok_cases h
  rw [hplace]
  refine follow_of_grown (fun _ _ => sameKind_put_of_some hfile) ?_ hplace
  exact (find?_put_none_or_self f.root _ location).imp_right fun hself => ⟨_, hself⟩

/-- By a path that leads elsewhere, what could be read is read, and from where it was. -/
theorem read_append_of_ne (h : f.append p more = .ok g) (hne : f.place q ≠ f.place p)
    (hread : f.read q = .ok bytes) : g.place q = f.place q ∧ g.read q = .ok bytes := by
  obtain ⟨location, hplace, hfile, hg⟩ := append_ok_cases h
  generalize f.contents p ++ more = new at hg
  subst hg
  obtain ⟨other, hother, hbytes⟩ := read_ok_cases hread
  have hkept : (put (file new) location f.root).find? other = some (file bytes) := by
    have hlocations : other ≠ location := by
      rintro rfl
      exact hne (hother.trans hplace.symm)
    rcases find?_put_cases new hfile hbytes hlocations with hsame | ⟨_, _, hdirectory, -⟩
    · exact hsame
    · cases hdirectory
  have hplace' : ({ f with root := put (file new) location f.root } : Files).place q = .ok other :=
    follow_of_grown (fun _ _ => sameKind_put_of_some hfile) (Or.inr ⟨bytes, hkept⟩) hother
  refine ⟨hplace'.trans hother.symm, ?_⟩
  unfold Files.read look nodeAt
  simp only [hplace', hkept, bind, Except.bind]

/-! ## Adding again and again -/

/-- Something has been added to the file at a path, any number of times; if there is no path, nothing
has been. -/
def Appended (p? : Option Path) : Files → Files → Prop :=
  Relation.ReflTransGen fun f g => ∃ p bytes, p? = some p ∧ f.append p bytes = .ok g

theorem Appended.eq (h : Appended none f g) : g = f := by
  induction h with
  | refl => rfl
  | tail _ hstep _ =>
    obtain ⟨p, bytes, hp, -⟩ := hstep
    cases hp

/-- What could be read by a path that does not lead to the file can be read as before. -/
theorem Appended.read_eq_ok (h : Appended p? f g)
    (hne : ∀ p, p? = some p → f.place q ≠ f.place p) (hread : f.read q = .ok bytes) :
    g.read q = .ok bytes := by
  -- on the way both paths lead where they led
  suffices hkept : (∀ p, p? = some p → g.place p = f.place p) ∧ g.place q = f.place q
      ∧ g.read q = .ok bytes from hkept.2.2
  induction h with
  | refl => exact ⟨fun _ _ => rfl, rfl, hread⟩
  | tail _ hstep ih =>
    obtain ⟨p, more, hp, happend⟩ := hstep
    obtain ⟨hplaces, hplace, hread⟩ := ih
    have hne : _ ≠ _ := hne p hp
    rw [← hplace, ← hplaces p hp] at hne
    obtain ⟨hplace', hread'⟩ := read_append_of_ne happend hne hread
    refine ⟨fun p' hp' => ?_, hplace'.trans hplace, hread'⟩
    obtain rfl : p = p' := Option.some.inj (hp.symm.trans hp')
    exact (place_append happend).trans (hplaces p hp)

end Files

end DocWeave
