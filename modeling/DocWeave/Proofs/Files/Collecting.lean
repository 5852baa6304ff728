import DocWeave.Files.Collecting
import DocWeave.Proofs.Files.Rewriting
import DocWeave.Proofs.Path
import DocWeave.Proofs.Sorting

/-!
# What is collected

Where no directory keeps two things under one name, and no name is empty, made of points or holds a
slash, the paths that are collected lead to files, each to a file of its own.

* `place_child` — in a directory, a name that is no link is gone on to
* `leads_of_mem_visits` — every file that is met on the way is where its path leads
* `targets_of_collect` — no file is collected twice

The induction is on the tree: of a node that is met, the path leads to its location, unless it is a
link.
-/

namespace DocWeave

namespace FileNode

/-! ## Names -/

/-- What an entry of a directory may be called. -/
def IsName (name : Text) : Prop :=
  name ≠ [] ∧ name ≠ ['.'] ∧ name ≠ ['.', '.'] ∧ '/' ∉ name

instance (name : Text) : Decidable (IsName name) := inferInstanceAs (Decidable (_ ∧ _))

/-- All directories keep their entries under names, and no two of them under one name. -/
inductive WellNamed : FileNode → Prop where
  | file (bytes : Bytes) : WellNamed (file bytes)
  | link (target : Text) : WellNamed (link target)
  | directory {entries : List (Text × FileNode)} (nodup : (entries.map Prod.fst).Nodup)
      (names : ∀ e ∈ entries, IsName e.1) (below : ∀ e ∈ entries, WellNamed e.2) :
      WellNamed (directory entries)

theorem lookup_of_mem {entries : List (Text × FileNode)} (h : (entries.map Prod.fst).Nodup)
    {name : Text} {n : FileNode} (hn : (name, n) ∈ entries) : entries.lookup name = some n := by
  induction entries with
  | nil => cases hn
  | cons e entries ih =>
    rw [List.map_cons, List.nodup_cons] at h
    rcases List.mem_cons.mp hn with rfl | hmem
    · simp
    · have hne : name ≠ e.1 := fun heq => h.1 (heq ▸ List.mem_map.mpr ⟨_, hmem, rfl⟩)
      rw [List.lookup_cons, beq_eq_false_iff_ne.mpr hne]
      exact ih h.2 hmem

theorem mem_of_lookup {entries : List (Text × FileNode)} {name : Text} {n : FileNode}
    (h : entries.lookup name = some n) : (name, n) ∈ entries := by
  induction entries with
  | nil => cases h
  | cons e entries ih =>
    obtain ⟨key, m⟩ := e
    rw [List.lookup_cons] at h
    split at h
    · next heq =>
      cases h
      rw [beq_iff_eq.mp heq]
      exact List.mem_cons_self
    · exact List.mem_cons_of_mem _ (ih h)

theorem find?_append (n : FileNode) (a b : List Text) :
    n.find? (a ++ b) = (n.find? a).bind fun m => m.find? b := by
  induction a generalizing n with
  | nil => rfl
  | cons name rest ih =>
    cases n with
    | file bytes => rfl
    | link target => rfl
    | directory entries =>
      rw [List.cons_append, find?, find?, Option.bind_assoc]
      exact congrArg _ (funext fun m => ih m)

/-- An entry of a directory is found under its name. -/
theorem find?_child {root n : FileNode} {location : List Text} {entries : List (Text × FileNode)}
    {name : Text} (h : root.find? location = some (directory entries))
    (hn : entries.lookup name = some n) : root.find? (location ++ [name]) = some n := by
  rw [find?_append, h, Option.bind_some, find?, hn]
  rfl

theorem WellNamed.find? {root n : FileNode} (h : root.WellNamed) {location : List Text}
    (hn : root.find? location = some n) : n.WellNamed := by
  induction location generalizing root with
  | nil =>
    cases hn
    exact h
  | cons name rest ih =>
    obtain ⟨entries, next, rfl, hnext, hfind⟩ := find?_cons_cases hn
    cases h with
    | directory nodup names below => exact ih (below _ (mem_of_lookup hnext)) hfind

end FileNode

/-- A name put behind a path that has been read makes such a path again. -/
theorem Path.Plain.child {p : Path} (h : p.Plain) {name : Text} (hname : FileNode.IsName name) :
    (p.child name).Plain where
  root := h.root
  names := by
    intro a ha
    rcases List.mem_append.mp ha with ha | ha
    · exact h.names a ha
    · rw [List.mem_singleton.mp ha]
      exact ⟨hname.1, hname.2.1, hname.2.2.2⟩

namespace Files

open FileNode

/-! ## One name more -/

variable {root child : FileNode} {entries : List (Text × FileNode)} {name : Text}

theorem descend_append
    {redirect : List Text → Path → List Text → Except Problem (List Text)} {found : List Text}
    (hredirect : ∀ location p rest, redirect location p rest = .ok found →
      redirect location p (rest ++ [name]) = .ok (found ++ [name]))
    (hfound : root.find? found = some (directory entries)) (hname : IsName name)
    (hchild : root.find? (found ++ [name]) = some child) (hlink : ∀ target, child ≠ link target)
    {location names : List Text} (h : descend root redirect location names = .ok found) :
    descend root redirect location (names ++ [name]) = .ok (found ++ [name]) := by
  induction names generalizing location with
  | nil =>
    cases h
    rw [List.nil_append, descend, if_neg hname.2.1, if_neg hname.2.2.1, hchild]
    cases child with
    | file bytes => rfl
    | link target => exact absurd rfl (hlink target)
    | directory entries => rfl
  | cons first rest ih =>
    rw [List.cons_append, descend]
    rw [descend] at h
    by_cases hpoint : first = ['.']
    · rw [if_pos hpoint] at h ⊢
      exact ih h
    rw [if_neg hpoint] at h ⊢
    by_cases hup : first = ['.', '.']
    · rw [if_pos hup] at h ⊢
      exact ih h
    rw [if_neg hup] at h ⊢
    -- a name at which the way ends would be that of no directory
    cases hfirst : root.find? (location ++ [first]) with
    | none =>
      simp only [hfirst] at h
      split at h
      · cases h
        rw [hfirst] at hfound
        cases hfound
      · cases h
    | some n =>
      cases n with
      | file bytes =>
        simp only [hfirst] at h
        split at h
        · cases h
          rw [hfirst] at hfound
          cases hfound
        · cases h
      | link target =>
        simp only [hfirst] at h
        exact hredirect _ _ _ h
      | directory inner =>
        simp only [hfirst] at h
        exact ih h

theorem follow_append {links : Nat} {location names found : List Text}
    (hfound : root.find? found = some (directory entries)) (hname : IsName name)
    (hchild : root.find? (found ++ [name]) = some child) (hlink : ∀ target, child ≠ link target)
    (h : follow root links location names = .ok found) :
    follow root links location (names ++ [name]) = .ok (found ++ [name]) := by
  induction links generalizing location names with
  | zero => exact descend_append (fun _ _ _ h => by cases h) hfound hname hchild hlink h
  | succ links ih =>
    refine descend_append (fun location p rest h => ?_) hfound hname hchild hlink h
    rw [← List.append_assoc]
    exact ih h

/-- In a directory, a name that is no link is gone on to. -/
theorem place_child {f : Files} {p : Path} {location : List Text} (h : f.place p = .ok location)
    (hdirectory : f.root.find? location = some (directory entries)) (hname : IsName name)
    (hchild : entries.lookup name = some child) (hlink : ∀ target, child ≠ link target) :
    f.place (p.child name) = .ok (location ++ [name]) :=
  follow_append hdirectory hname (find?_child hdirectory hchild) hlink h

/-! ## Files that are met -/

variable {f : Files} {q : Path} {location : List Text}

theorem look_ok_cases {p : Path} {n : FileNode} (h : f.look p = .ok (location, n)) :
    f.place p = .ok location ∧ f.root.find? location = some n := by
  unfold look nodeAt at h
  cases hplace : f.place p with
  | error e => simp [hplace, bind, Except.bind] at h
  | ok base =>
    simp only [hplace, bind, Except.bind] at h
    split at h
    · next hfind =>
      cases h
      exact ⟨rfl, hfind⟩
    · cases h

theorem leads_of_mem_visitLink {p : Path} (h : Visit.file q location ∈ f.visitLink p) :
    q = p ∧ f.Leads q location := by
  unfold visitLink at h
  split at h
  · simp at h
  · next hlook =>
    obtain ⟨hplace, hfind⟩ := look_ok_cases hlook
    simp only [List.mem_singleton, Visit.file.injEq] at h
    obtain ⟨rfl, rfl⟩ := h
    exact ⟨rfl, hplace, _, hfind⟩
  · cases h

mutual

/-- A file that is met at a node or below is where its path leads. -/
theorem leads_of_mem_visits {p : Path} {n : FileNode} {base : List Text} (hp : p.Plain)
    (hfind : f.root.find? base = some n) (hplace : (∀ target, n ≠ link target) → f.place p = .ok base)
    (hn : n.WellNamed) (h : Visit.file q location ∈ f.visits p base n) :
    q.Plain ∧ f.Leads q location := by
  cases n with
  | file bytes =>
    rw [visits, List.mem_singleton] at h
    cases h
    exact ⟨hp, hplace (fun _ e => by cases e), bytes, hfind⟩
  | link target =>
    rw [visits] at h
    obtain ⟨rfl, hleads⟩ := leads_of_mem_visitLink h
    exact ⟨hp, hleads⟩
  | directory entries =>
    rw [visits, List.mem_flatMap] at h
    obtain ⟨e, he, hmem⟩ := h
    cases hn with
    | directory nodup names below =>
      exact leads_of_mem_visitsBelow hp hfind (hplace fun _ e => by cases e) nodup names below
        (fun _ h => h) ((Sorting.mem_sort _).mp he) hmem

/-- So is a file that is met below a directory, at some of its entries or below. -/
theorem leads_of_mem_visitsBelow {p : Path} {all part : List (Text × FileNode)}
    {base : List Text} {e : Text × List Visit} (hp : p.Plain)
    (hfind : f.root.find? base = some (directory all)) (hplace : f.place p = .ok base) (nodup : (all.map Prod.fst).Nodup)
    (names : ∀ e ∈ all, IsName e.1) (below : ∀ e ∈ all, e.2.WellNamed)
    (hall : ∀ e ∈ part, e ∈ all) (he : e ∈ f.visitsBelow p base part)
    (h : Visit.file q location ∈ e.2) : q.Plain ∧ f.Leads q location := by
  cases part with
  | nil => cases he
  | cons first rest =>
    obtain ⟨name, n⟩ := first
    rw [visitsBelow] at he
    rcases List.mem_cons.mp he with rfl | he
    · have hmem := hall _ List.mem_cons_self
      have hname := names _ hmem
      have hlookup := lookup_of_mem nodup hmem
      exact leads_of_mem_visits (hp.child hname) (find?_child hfind hlookup)
        (place_child hplace hfind hname hlookup) (below _ hmem) h
    · exact leads_of_mem_visitsBelow hp hfind hplace nodup names below
        (fun e he => hall e (List.mem_cons_of_mem _ he)) he h

end

/-! ## Files that are collected -/

/-- Paths in their written forms, each of which leads to a file of its own. -/
structure Targets (f : Files) (paths : List Path) : Prop where
  plain : ∀ p ∈ paths, p.Plain
  leads : ∀ p ∈ paths, ∃ location, f.Leads p location
  apart : paths.Pairwise fun p q => f.place p ≠ f.place q

namespace Targets

variable {g : Files} {p : Path} {rest written paths front back : List Path}

theorem left (h : f.Targets (front ++ back)) : f.Targets front where
  plain q hq := h.plain q (List.mem_append_left back hq)
  leads q hq := h.leads q (List.mem_append_left back hq)
  apart := (List.pairwise_append.mp h.apart).1

theorem apart_append (h : f.Targets (front ++ back)) :
    ∀ p ∈ front, ∀ q ∈ back, f.place p ≠ f.place q :=
  (List.pairwise_append.mp h.apart).2.2

theorem tail (h : f.Targets (p :: rest)) : f.Targets rest where
  plain q hq := h.plain q (List.mem_cons_of_mem p hq)
  leads q hq := h.leads q (List.mem_cons_of_mem p hq)
  apart := (List.pairwise_cons.mp h.apart).2

theorem head_apart (h : f.Targets (p :: rest)) : ∀ q ∈ rest, f.place p ≠ f.place q :=
  (List.pairwise_cons.mp h.apart).1

/-- Paths lead where they led once some files hold other contents. -/
theorem rewritten (h : f.Targets paths) (hg : Rewritten f g written) : g.Targets paths where
  plain := h.plain
  leads q hq := by
    obtain ⟨location, hleads⟩ := h.leads q hq
    exact ⟨location, hg.leads hleads⟩
  apart := h.apart.imp fun hne => by rwa [hg.place_eq, hg.place_eq]

/-- What is written to the first file is not read from the others. -/
theorem read_rest (h : f.Targets (p :: rest)) (hg : Rewritten f g [p]) :
    ∀ q ∈ rest, g.read q = f.read q := by
  intro q hq
  refine hg.read_eq fun q' hq' => ?_
  rw [List.mem_singleton.mp hq']
  exact h.head_apart q hq

/-- Nor does it change when the others are written. -/
theorem read_head {k : Files} (h : f.Targets (p :: rest)) (hg : Rewritten f g [p])
    (hk : Rewritten g k rest) : k.read p = g.read p := by
  refine hk.read_eq fun q hq => ?_
  rw [hg.place_eq, hg.place_eq]
  exact (h.head_apart q hq).symm

end Targets

/-- The paths that have been collected lead to the locations that have been seen, of which no two
are the same. -/
structure Found.Sound (f : Files) (found : Found) : Prop where
  plain : ∀ p ∈ found.paths, p.Plain
  leads : ∀ p ∈ found.paths, ∃ location, f.Leads p location
  places : found.paths.map f.place = found.locations.map .ok
  nodup : found.locations.Nodup

theorem Found.Sound.visit {found : Found} (h : found.Sound f) {extensions : List Text} {v : Visit}
    (hv : ∀ q location, v = .file q location → q.Plain ∧ f.Leads q location) :
    (found.visit extensions v).Sound f := by
  cases v with
  | skipped p => exact ⟨h.plain, h.leads, h.places, h.nodup⟩
  | file p location =>
    obtain ⟨hplain, hleads⟩ := hv p location rfl
    rw [Found.visit]
    split
    · next htaken =>
      have hnew : location ∉ found.locations := by
        simp only [Bool.and_eq_true, Bool.not_eq_true', List.contains_eq_mem,
          decide_eq_false_iff_not] at htaken
        exact htaken.2
      refine ⟨?_, ?_, ?_, ?_⟩
      · exact List.forall_mem_append.mpr ⟨h.plain, by simpa using hplain⟩
      · exact List.forall_mem_append.mpr ⟨h.leads, by simpa using ⟨location, hleads⟩⟩
      · simp [h.places, hleads.1]
      · refine List.nodup_append.mpr ⟨h.nodup, List.pairwise_singleton _ _, ?_⟩
        intro a ha b hb e
        exact hnew (List.mem_singleton.mp hb ▸ e ▸ ha)
    · exact h

theorem Found.Sound.foldl {found : Found} (h : found.Sound f) {extensions : List Text}
    {vs : List Visit} (hvs : ∀ q location, .file q location ∈ vs → q.Plain ∧ f.Leads q location) :
    (vs.foldl (Found.visit extensions) found).Sound f := by
  induction vs generalizing found with
  | nil => exact h
  | cons v vs ih =>
    refine ih (h.visit fun q location e => ?_) fun q location hmem => ?_
    · exact hvs q location (e ▸ List.mem_cons_self)
    · exact hvs q location (List.mem_cons_of_mem v hmem)

theorem Found.Sound.targets {found : Found} (h : found.Sound f) : f.Targets found.paths where
  plain := h.plain
  leads := h.leads
  apart := by
    have hplaces : (found.paths.map f.place).Pairwise (· ≠ ·) := by
      rw [h.places]
      exact List.pairwise_map.mpr (h.nodup.imp fun hne e => hne (Except.ok.inj e))
    exact List.pairwise_map.mp hplaces

/-- What is collected are paths that lead to files, no two of them to one file. -/
theorem targets_of_collect (hroot : f.root.WellNamed) {p : Path} (hp : p.Plain)
    {extensions : List Text} {found : Found} (h : f.collect p extensions = .ok found) :
    f.Targets found.paths := by
  unfold collect at h
  split at h
  · next base entries hlook =>
    cases h
    obtain ⟨hplace, hfind⟩ := look_ok_cases hlook
    have hsound : Found.Sound f {} := ⟨by simp, by simp, rfl, .nil⟩
    exact Found.Sound.targets (hsound.foldl fun q location hmem =>
      leads_of_mem_visits hp hfind (fun _ => hplace) (hroot.find? hfind) hmem)
  · cases h
  · cases h

end Files

end DocWeave
