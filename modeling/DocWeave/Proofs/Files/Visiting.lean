import DocWeave.Proofs.Files.Collecting
import Mathlib.Data.List.Lex

/-!
# Which files are collected

A file is reached below a directory if a way through directories, none of which is a link, leads to
an entry that is the file or a link to it. Of all paths by which a file with a fitting name is reached
the first one is collected, in the order of paths, which is that of their components.

* `mem_visits_iff_reaches` — what is visited below a directory is what is reached below it
* `pairwise_before_visits` — paths are visited in their order
* `exists_takes` — of each file that is visited the first fitting path is taken
* `collect_reached` — so it is these paths that are collected, in their order
-/

namespace DocWeave

/-! ## The order of paths -/

/-- The first text stands in front of the second one and is another one. -/
def Order.Before (s t : Text) : Prop := Order.le s t = true ∧ s ≠ t

instance (s t : Text) : Decidable (Order.Before s t) := inferInstanceAs (Decidable (_ ∧ _))

namespace Path

/-- The path that goes on from `p` by more names. -/
def below (p : Path) (names : List Text) : Path := { p with names := p.names ++ names }

/-- Where the two paths part, the first one goes on by the component in front, or ends. -/
def Before (p q : Path) : Prop := List.Lex Order.Before p.parts q.parts

theorem below_nil (p : Path) : p.below [] = p := by
  rw [below, List.append_nil]

theorem child_below (p : Path) (name : Text) (names : List Text) :
    (p.child name).below names = p.below (name :: names) := by
  rw [below, child, below, List.append_assoc]
  rfl

theorem parts_below (p : Path) (names : List Text) : (p.below names).parts = p.parts ++ names := by
  unfold parts below
  split <;> rfl

/-- Paths into two entries of a directory are in the order of these. -/
theorem before_of_names {p : Path} {a b : Text} (h : Order.Before a b) (more more' : List Text) :
    (p.below (a :: more)).Before (p.below (b :: more')) := by
  rw [Before, parts_below, parts_below]
  exact List.Lex.append_left Order.Before (.rel h) _

end Path

namespace Files

open FileNode

/-- The path by which something is visited. -/
def Visit.path : Visit → Path
  | skipped path => path
  | file path _ => path

/-- Below the directory at `base`, to which `p` leads, a way through directories that are no links
goes to an entry, which is the file at `location` or leads to it. -/
structure Reaches (f : Files) (p : Path) (base : List Text) (q : Path) (location : List Text) :
    Prop where
  entry : ∃ names name entries n, q = p.below (names ++ [name])
    ∧ f.root.find? (base ++ names) = some (directory entries) ∧ entries.lookup name = some n
  leads : f.Leads q location

variable {f : Files} {p q : Path} {base location : List Text} {n : FileNode} {v : Visit}
  {entries : List (Text × FileNode)} {extensions : List Text}

/-! ## What is visited -/

theorem visitsBelow_eq_map (f : Files) (p : Path) (base : List Text)
    (entries : List (Text × FileNode)) : f.visitsBelow p base entries
      = entries.map fun e => (e.1, f.visits (p.child e.1) (base ++ [e.1]) e.2) := by
  induction entries with
  | nil => rfl
  | cons e entries ih => rw [visitsBelow, ih, List.map_cons]

theorem mem_visits_directory : v ∈ f.visits p base (directory entries)
    ↔ ∃ e ∈ entries, v ∈ f.visits (p.child e.1) (base ++ [e.1]) e.2 := by
  rw [visits, List.mem_flatMap]
  simp only [Sorting.mem_sort, visitsBelow_eq_map, List.mem_map, exists_exists_and_eq_and]

theorem path_of_mem_visitLink (h : v ∈ f.visitLink p) : v.path = p := by
  unfold visitLink at h
  split at h
  · rw [List.mem_singleton.mp h]
    rfl
  · rw [List.mem_singleton.mp h]
    rfl
  · cases h

/-- What is visited at a node has the path of the node, or is visited as an entry of some directory
that is found from there. -/
theorem entry_of_mem_visits (hn : n.WellNamed) (hfind : f.root.find? base = some n)
    (h : v ∈ f.visits p base n) :
    (v.path = p ∧ ∀ entries, n ≠ directory entries)
      ∨ ∃ names name entries m, v.path = p.below (names ++ [name])
        ∧ f.root.find? (base ++ names) = some (directory entries) ∧ entries.lookup name = some m := by
  induction hn generalizing p base with
  | file bytes =>
    rw [visits, List.mem_singleton] at h
    rw [h]
    exact Or.inl ⟨rfl, fun _ e => by cases e⟩
  | link target =>
    rw [visits] at h
    exact Or.inl ⟨path_of_mem_visitLink h, fun _ e => by cases e⟩
  | @directory entries nodup _ _ ih =>
    obtain ⟨e, he, h⟩ := mem_visits_directory.mp h
    have hlookup := lookup_of_mem nodup he
    refine Or.inr ?_
    rcases ih e he (find?_child hfind hlookup) h with ⟨hpath, -⟩ | ⟨names, name, inner, m, hpath, hinner, hm⟩
    · refine ⟨[], e.1, entries, e.2, hpath, ?_, hlookup⟩
      rwa [List.append_nil]
    · refine ⟨e.1 :: names, name, inner, m, ?_, ?_, hm⟩
      · rw [hpath, Path.child_below]
        rfl
      · rwa [List.append_assoc] at hinner

/-- All that is reached is visited. -/
theorem mem_visits_of_entry (hn : (directory entries).WellNamed)
    (hfind : f.root.find? base = some (directory entries)) (hplace : f.place p = .ok base)
    {names : List Text} {name : Text} {inner : List (Text × FileNode)}
    (hinner : f.root.find? (base ++ names) = some (directory inner))
    (hname : inner.lookup name = some n) (hleads : f.Leads (p.below (names ++ [name])) location) :
    .file (p.below (names ++ [name])) location ∈ f.visits p base (directory entries) := by
  -- the induction is on the directories on the way
  induction names generalizing p base entries with
  | nil =>
    rw [List.append_nil, hfind] at hinner
    cases hinner
    refine mem_visits_directory.mpr ⟨(name, n), mem_of_lookup hname, ?_⟩
    obtain ⟨hq, bytes, hbytes⟩ := hleads
    cases hn with
    | directory nodup hnames below =>
      have hentry (hlink : ∀ target, n ≠ link target) : location = base ++ [name] := by
        have hchild := place_child hplace hfind (hnames _ (mem_of_lookup hname)) hname hlink
        exact Except.ok.inj (hq.symm.trans hchild)
      cases n with
      | file _ =>
        rw [hentry fun _ e => by cases e]
        exact List.mem_cons_self
      | link target =>
        have hlook : f.look (p.child name) = .ok (location, file bytes) := by
          have hplace' : f.place (p.child name) = .ok location := hq
          simp only [look, nodeAt, hplace', hbytes, bind, Except.bind]
        rw [visits, visitLink, hlook]
        exact List.mem_cons_self
      | directory inside =>
        rw [hentry (fun _ e => by cases e), find?_child hfind hname] at hbytes
        cases hbytes
  | cons first names ih =>
    obtain ⟨m, hm, hrest⟩ : ∃ m, entries.lookup first = some m
        ∧ m.find? names = some (directory inner) := by
      rw [find?_append, hfind] at hinner
      exact Option.bind_eq_some_iff.mp hinner
    obtain ⟨inside, rfl⟩ : ∃ inside, m = directory inside := by
      cases names with
      | nil => exact ⟨inner, Option.some.inj hrest⟩
      | cons second names =>
        obtain ⟨inside, -, heq, -⟩ := find?_cons_cases hrest
        exact ⟨inside, heq⟩
    have hmem := mem_of_lookup hm
    cases hn with
    | directory nodup hnames below =>
      refine mem_visits_directory.mpr ⟨(first, directory inside), hmem, ?_⟩
      rw [List.cons_append, ← Path.child_below] at hleads ⊢
      refine ih (below _ hmem) (find?_child hfind hm)
        (place_child hplace hfind (hnames _ hmem) hm fun _ e => by cases e) ?_ hleads
      rwa [List.append_assoc]

/-- The files that are visited below a directory are those that are reached. -/
theorem mem_visits_iff_reaches (hn : (directory entries).WellNamed) (hp : p.Plain)
    (hfind : f.root.find? base = some (directory entries)) (hplace : f.place p = .ok base) :
    .file q location ∈ f.visits p base (directory entries) ↔ f.Reaches p base q location := by
  constructor
  · intro h
    refine ⟨?_, (leads_of_mem_visits hp hfind (fun _ => hplace) hn h).2⟩
    exact (entry_of_mem_visits hn hfind h).resolve_left fun hnot => hnot.2 entries rfl
  · rintro ⟨⟨names, name, inner, m, rfl, hinner, hm⟩, hleads⟩
    exact mem_visits_of_entry hn hfind hplace hinner hm hleads

/-! ## The order of visits -/

theorem exists_below_of_mem_visits (hn : n.WellNamed) (hfind : f.root.find? base = some n)
    (h : v ∈ f.visits p base n) : ∃ names, v.path = p.below names := by
  rcases entry_of_mem_visits hn hfind h with ⟨hpath, -⟩ | ⟨names, name, -, -, hpath, -⟩
  · exact ⟨[], by rw [hpath, Path.below_nil]⟩
  · exact ⟨_, hpath⟩

/-- What is visited at a node is visited in the order of paths. -/
theorem pairwise_before_visits (hn : n.WellNamed) (hfind : f.root.find? base = some n) :
    (f.visits p base n).Pairwise fun v w => v.path.Before w.path := by
  induction hn generalizing p base with
  | file bytes => exact List.pairwise_singleton _ _
  | link target =>
    rw [visits, visitLink]
    split
    · exact List.pairwise_singleton _ _
    · exact List.pairwise_singleton _ _
    · exact .nil
  | @directory entries nodup hnames below ih =>
    have hsorted := Sorting.pairwise_sort (nameLe (α := List Visit)) (fun a b => Order.le_total a.1 b.1)
      (fun a b c => Order.le_trans) (f.visitsBelow p base entries)
    have hne : (Sorting.sort nameLe (f.visitsBelow p base entries)).Pairwise
        fun a b => a.1 ≠ b.1 := by
      refine ((Sorting.sort_perm _ _).pairwise_iff fun h => Ne.symm h).mpr ?_
      rw [visitsBelow_eq_map, List.pairwise_map]
      exact List.pairwise_map.mp nodup
    have hbelow : ∀ a ∈ Sorting.sort nameLe (f.visitsBelow p base entries),
        ∃ m, (a.1, m) ∈ entries ∧ a.2 = f.visits (p.child a.1) (base ++ [a.1]) m := by
      intro a ha
      rw [Sorting.mem_sort, visitsBelow_eq_map, List.mem_map] at ha
      obtain ⟨e, he, rfl⟩ := ha
      exact ⟨e.2, he, rfl⟩
    rw [visits, List.pairwise_flatMap]
    constructor
    · intro a ha
      obtain ⟨m, hm, ha⟩ := hbelow a ha
      rw [ha]
      exact ih _ hm (find?_child hfind (lookup_of_mem nodup hm))
    · refine (hsorted.and hne).imp_of_mem ?_
      rintro a b ha hb hab v hv w hw
      obtain ⟨m, hm, ha⟩ := hbelow a ha
      obtain ⟨m', hm', hb⟩ := hbelow b hb
      rw [ha] at hv
      rw [hb] at hw
      obtain ⟨more, hv⟩ := exists_below_of_mem_visits (below _ hm)
        (find?_child hfind (lookup_of_mem nodup hm)) hv
      obtain ⟨more', hw⟩ := exists_below_of_mem_visits (below _ hm')
        (find?_child hfind (lookup_of_mem nodup hm')) hw
      rw [hv, hw, Path.child_below, Path.child_below]
      exact Path.before_of_names hab more more'

/-! ## What is taken of it -/

/-- Of the files that are visited, `taken` are those with fitting names that are the first ones at
their locations, apart from locations that have been seen before. -/
structure Found.Takes (extensions : List Text) (found : Found) (vs : List Visit)
    (taken : List (Path × List Text)) : Prop where
  paths : (vs.foldl (Found.visit extensions) found).paths = found.paths ++ taken.map Prod.fst
  among : (taken.map fun e => Visit.file e.1 e.2).Sublist vs
  suffix : ∀ e ∈ taken, e.1.suffix ∈ extensions
  first : ∀ q location, .file q location ∈ vs → q.suffix ∈ extensions →
    location ∈ found.locations ∨ ∃ e ∈ taken, e.2 = location ∧ (e.1 = q ∨ e.1.Before q)

theorem Found.exists_takes (extensions : List Text) (found : Found) {vs : List Visit}
    (h : vs.Pairwise fun v w => v.path.Before w.path) :
    ∃ taken, found.Takes extensions vs taken := by
  induction vs generalizing found with
  | nil => exact ⟨[], by simp, List.Sublist.refl _, by simp, by simp⟩
  | cons v vs ih =>
    cases v with
    | skipped path =>
      obtain ⟨taken, htaken⟩ := ih (found.visit extensions (.skipped path)) h.of_cons
      refine ⟨taken, htaken.paths, htaken.among.cons _, htaken.suffix, fun q location hmem hq => ?_⟩
      rcases List.mem_cons.mp hmem with heq | hmem
      · cases heq
      · exact htaken.first q location hmem hq
    | file path here =>
      by_cases hnew : path.suffix ∈ extensions ∧ here ∉ found.locations
      · have hvisit : found.visit extensions (.file path here) = { found with
            paths := found.paths ++ [path], locations := found.locations ++ [here] : Found } :=
          if_pos (by simp [hnew])
        obtain ⟨taken, htaken⟩ := ih (found.visit extensions (.file path here)) h.of_cons
        refine ⟨(path, here) :: taken, ?_, htaken.among.cons_cons _, ?_, fun q location hmem hq => ?_⟩
        · rw [List.foldl_cons, htaken.paths, hvisit, List.map_cons, List.append_assoc]
          rfl
        · exact List.forall_mem_cons.mpr ⟨hnew.1, htaken.suffix⟩
        · rcases List.mem_cons.mp hmem with heq | hmem
          · cases heq
            exact Or.inr ⟨_, List.mem_cons_self, rfl, Or.inl rfl⟩
          · rcases htaken.first q location hmem hq with hseen | ⟨e, he, hfirst⟩
            · rw [hvisit] at hseen
              rcases List.mem_append.mp hseen with hseen | hseen
              · exact Or.inl hseen
              · have hbefore := List.rel_of_pairwise_cons h hmem
                exact Or.inr ⟨_, List.mem_cons_self, (List.mem_singleton.mp hseen).symm,
                  Or.inr hbefore⟩
            · exact Or.inr ⟨e, List.mem_cons_of_mem _ he, hfirst⟩
      · have hvisit : found.visit extensions (.file path here) = found :=
          if_neg (by simpa using hnew)
        obtain ⟨taken, htaken⟩ := ih found h.of_cons
        refine ⟨taken, ?_, htaken.among.cons _, htaken.suffix, fun q location hmem hq => ?_⟩
        · rw [List.foldl_cons, hvisit, htaken.paths]
        · rcases List.mem_cons.mp hmem with heq | hmem
          · cases heq
            exact Or.inl (Decidable.not_not.mp fun hno => hnew ⟨hq, hno⟩)
          · exact htaken.first q location hmem hq

/-! ## What is collected -/

/-- Below every directory files are collected: in the order of their paths, all with fitting names,
each reached through directories that are no links, no two of them the same file, and for every file
that is reached by a fitting name the first such path. -/
theorem collect_reached (hroot : f.root.WellNamed) (hp : p.Plain)
    (hlook : f.look p = .ok (base, directory entries)) (extensions : List Text) :
    (f.visits p base (directory entries)).Pairwise (fun v w => v.path.Before w.path)
      ∧ ∃ found, f.collect p extensions = .ok found
        ∧ found.paths.Pairwise Path.Before
        ∧ (∀ q ∈ found.paths, q.suffix ∈ extensions ∧ ∃ location, f.Reaches p base q location)
        ∧ found.paths.Pairwise (fun q q' => f.place q ≠ f.place q')
        ∧ ∀ q location, f.Reaches p base q location → q.suffix ∈ extensions →
          ∃ first ∈ found.paths, f.Reaches p base first location
            ∧ (first = q ∨ first.Before q) := by
  obtain ⟨hplace, hfind⟩ := look_ok_cases hlook
  have hn := hroot.find? hfind
  have hordered := pairwise_before_visits (p := p) hn hfind
  have hreached {q : Path} {location : List Text} : .file q location
      ∈ f.visits p base (directory entries) ↔ f.Reaches p base q location :=
    mem_visits_iff_reaches hn hp hfind hplace
  have hcollect : f.collect p extensions = .ok
      ((f.visits p base (directory entries)).foldl (Found.visit extensions) {}) := by
    rw [collect, hlook]
  obtain ⟨taken, htaken⟩ := Found.exists_takes extensions {} hordered
  have hpaths : ((f.visits p base (directory entries)).foldl (Found.visit extensions) {}).paths
      = taken.map Prod.fst := htaken.paths
  have hmem : ∀ e ∈ taken, f.Reaches p base e.1 e.2 := fun e he =>
    hreached.mp (htaken.among.subset (List.mem_map_of_mem he))
  refine ⟨hordered, _, hcollect, ?_, ?_, (targets_of_collect hroot hp hcollect).apart, ?_⟩
  · have hbefore := List.pairwise_map.mp (hordered.sublist htaken.among)
    rw [hpaths]
    exact List.pairwise_map.mpr hbefore
  · rw [hpaths]
    exact List.forall_mem_map.mpr fun e he => ⟨htaken.suffix e he, e.2, hmem e he⟩
  · intro q location hq hsuffix
    obtain hseen | ⟨e, he, rfl, hfirst⟩ := htaken.first q location (hreached.mpr hq) hsuffix
    · cases hseen
    · refine ⟨e.1, ?_, hmem e he, hfirst⟩
      rw [hpaths]
      exact List.mem_map_of_mem he

/-- A file that a link in front of it leads to, a directory in which a link leads back, a link to
that directory, and a link to nothing. -/
def tangled : Files where
  root := .directory [("w".toList, .directory [
    ("z".toList, .link "sub".toList),
    ("sub".toList, .directory [("up".toList, .link "..".toList), ("c.ts".toList, .file [])]),
    ("lost.js".toList, .link "nowhere".toList),
    ("a.js".toList, .file []),
    ("0.js".toList, .link "a.js".toList)])]
  here := ["w".toList]

theorem wellNamed_tangled : tangled.root.WellNamed := by
  refine .directory (by decide) (by decide) (List.forall_mem_singleton.mpr ?_)
  refine .directory (by decide) (by decide) ?_
  simp only [List.forall_mem_cons]
  refine ⟨.link _, .directory (by decide) (by decide) ?_, .link _, .file _, .link _, by simp⟩
  simp only [List.forall_mem_cons]
  exact ⟨.link _, .file _, by simp⟩

/-- The file is collected once, by the link in front of it, and the directory is gone through once. -/
theorem collect_reached_tangled :
    tangled.root.WellNamed ∧ (Path.ofText ".".toList).Plain
      ∧ (∃ entries, tangled.look (Path.ofText ".".toList) = .ok (["w".toList], directory entries))
      ∧ ∃ found, tangled.collect (Path.ofText ".".toList) [".js".toList, ".ts".toList] = .ok found
        ∧ found.paths.map Path.toText = ["0.js".toList, "sub/c.ts".toList]
        ∧ found.paths.Pairwise Path.Before
        ∧ ∀ q location, tangled.Reaches (Path.ofText ".".toList) ["w".toList] q location →
          q.suffix ∈ [".js".toList, ".ts".toList] → ∃ first ∈ found.paths,
            tangled.Reaches (Path.ofText ".".toList) ["w".toList] first location
              ∧ (first = q ∨ first.Before q) := by
  have hplain := Path.plain_ofText ".".toList
  obtain ⟨entries, hlook⟩ : ∃ entries,
      tangled.look (Path.ofText ".".toList) = .ok (["w".toList], directory entries) := ⟨_, rfl⟩
  have hpaths : (tangled.collect (Path.ofText ".".toList) [".js".toList, ".ts".toList]).toOption.map
      (fun found => found.paths.map Path.toText) = some ["0.js".toList, "sub/c.ts".toList] := by
    decide +kernel
  obtain ⟨-, found, hfound, hordered, -, -, hfirst⟩ :=
    collect_reached wellNamed_tangled hplain hlook [".js".toList, ".ts".toList]
  rw [hfound] at hpaths
  exact ⟨wellNamed_tangled, hplain, ⟨entries, hlook⟩, found, hfound, Option.some.inj hpaths, hordered,
    hfirst⟩

end Files

end DocWeave
