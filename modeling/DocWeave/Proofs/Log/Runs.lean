import DocWeave.Proofs.Files.Growing
import DocWeave.Proofs.Log.Format
import DocWeave.Proofs.Log.Writing
import DocWeave.Proofs.Text.Bytes

/-!
# A log that is set up again and again

Between setups the program logs entries. For every entry the latest setup counts, and for the entry
that a setup logs itself, this setup: it says from which level on entries are written, in which
format, and to which file beside the console. A `Record` is an entry together with this setup.

* `told_write`, `told_setUp` — one entry, and one setup, write one record
* `run_told` — what has been written in the end: every record that reaches its level, once and in
  order, to the console, and to the file if its setup names one

The induction is on what is done. It is carried by `Follows`: the writers are those of the latest
setup, and its file is there.
-/

namespace DocWeave.Log

/-! ## Levels -/

namespace Level

/-- The word for a level, in capitals. -/
def title : Level → String
  | debug => "DEBUG"
  | info => "INFO"
  | warning => "WARNING"
  | error => "ERROR"
  | critical => "CRITICAL"

/-- The place of a level among the five, the least grave one first. -/
def gravity : Level → Nat
  | debug => 0
  | info => 1
  | warning => 2
  | error => 3
  | critical => 4

theorem rank_le_rank_iff (a b : Level) : a.rank ≤ b.rank ↔ a.gravity ≤ b.gravity := by
  cases a <;> cases b <;> decide

end Level

/-! ## What is done -/

/-- A setup that asks for a level, by its word in letters of whichever case, and for a format in
which every entry can be written. It may ask for a file as well. -/
structure Setup where
  settings : Settings
  word : Text
  level : Level
  format : Text
  level_eq : settings.level = .text word
  spelled : word.flatMap Logger.capitals = level.title.toList
  format_eq : Logger.formatOf settings.format = .ok format
  valid : Format.IsValid format

/-- The setup asks for the file to which a path leads. -/
def Setup.Names (setup : Setup) (f : Files) (q : Path) : Prop :=
  ∃ p ∈ setup.settings.path? f.here, f.Meet p q

instance (setup : Setup) (f : Files) (q : Path) : Decidable (setup.Names f q) :=
  inferInstanceAs (Decidable (∃ p ∈ setup.settings.path? f.here, _))

/-- The writers that the setup asks for. -/
def Setup.writers (setup : Setup) (f : Files) : List Writer :=
  ⟨.console, setup.level.rank, setup.format⟩
    :: (setup.settings.path? f.here).toList.map fun p => ⟨.file p, setup.level.rank, setup.format⟩

/-- The log is set up, or the program logs an entry. -/
inductive Act where
  | setUp (setup : Setup)
  | log (e : Entry) (own : Logger.isOwn e.source = true)

/-- The writers and what has been written once all this has been done; `none` if a setup fails. -/
def Logger.run : List Act → Logger → Sink → Option (Logger × Sink)
  | [], l, s => some (l, s)
  | .log e _ :: acts, l, s => run acts l (l.write e s)
  | .setUp setup :: acts, l, s =>
    match l.setUp setup.settings s with
    | (l, s, none) => run acts l s
    | (_, _, some _) => none

/-- The setup that counts once all this has been done. -/
def latest (setup : Setup) : List Act → Setup
  | [] => setup
  | .log _ _ :: acts => latest setup acts
  | .setUp next :: acts => latest next acts

/-- An entry, when and where it is logged, and the setup that counts for it. -/
structure Record where
  setup : Setup
  moment : Moment
  entry : Entry

/-- What a setup logs itself. -/
def Setup.ready (setup : Setup) : Entry :=
  ⟨"autoscribe", .debug, ["Logging initialized at level ", .text setup.word]⟩

/-- What is logged, also by setups, when `setup` counts at first and `n` entries have been logged. -/
def records (clock : Clock) : Nat → Setup → List Act → List Record
  | _, _, [] => []
  | n, setup, .log e _ :: acts => ⟨setup, clock.reading n, e⟩ :: records clock (n + 1) setup acts
  | n, _, .setUp next :: acts => ⟨next, clock.reading n, next.ready⟩ :: records clock (n + 1) next acts

namespace Record

/-- The entry is as grave as the setup asks for. -/
def Reaches (r : Record) : Prop := r.setup.level.gravity ≤ r.entry.level.gravity

instance (r : Record) : Decidable r.Reaches := inferInstanceAs (Decidable (_ ≤ _))

/-- The record in the format of its setup. -/
def line (r : Record) : Text :=
  (Format.line? r.setup.format r.moment r.entry).get (r.setup.valid r.moment r.entry)

end Record

/-- The records that reach their levels, a line for each. -/
def told (rs : List Record) : Text :=
  (rs.filter fun r => r.Reaches).flatMap fun r => r.line ++ ['\n']

variable {clock : Clock} {n : Nat} {r : Record} {rs rs' : List Record} {setup : Setup} {acts : List Act}

theorem told_append (rs rs' : List Record) : told (rs ++ rs') = told rs ++ told rs' := by
  rw [told, List.filter_append, List.flatMap_append]
  rfl

theorem told_of_reaches (h : r.Reaches) : told [r] = r.line ++ ['\n'] := by
  simp [told, h]

theorem told_of_not_reaches (h : ¬ r.Reaches) : told [r] = [] := by
  simp [told, h]

theorem records_append (clock : Clock) (n : Nat) (setup : Setup) (before after : List Act) :
    records clock n setup (before ++ after) = records clock n setup before
      ++ records clock (n + before.length) (latest setup before) after := by
  induction before generalizing n setup with
  | nil => rfl
  | cons act before ih =>
    rw [List.length_cons, Nat.add_comm before.length 1, ← Nat.add_assoc]
    cases act with
    | log e own => exact congrArg _ (ih (n + 1) setup)
    | setUp next => exact congrArg _ (ih (n + 1) next)

/-- For every record counts the setup of the beginning or one that is made. -/
theorem setUp_mem_of_mem_records (h : r ∈ records clock n setup acts) :
    .setUp r.setup ∈ Act.setUp setup :: acts := by
  induction acts generalizing n setup with
  | nil => cases h
  | cons act acts ih =>
    cases act with
    | log e own =>
      rcases List.mem_cons.mp h with rfl | h
      · exact List.mem_cons_self
      · exact List.cons_subset_cons _ (List.subset_cons_self _ _) (ih h)
    | setUp next =>
      refine List.mem_cons_of_mem _ ?_
      rcases List.mem_cons.mp h with rfl | h
      · exact List.mem_cons_self
      · exact ih h

/-! ## What has been written -/

theorem Setup.names_iff_of_grown {f g : Files} (h : Files.Grown f g) (setup : Setup) (q : Path) :
    setup.Names g q ↔ setup.Names f q := by
  unfold Setup.Names
  rw [h.here]
  simp only [h.meet_iff]

/-- The records have been written to the console, and to the files that their setups name, and
nothing else has been written. -/
structure Sink.Told (s s' : Sink) (rs : List Record) : Prop where
  grown : Files.Grown s.files s'.files
  console : s'.console = s.console ++ told rs
  contents : ∀ q, s'.files.contents q = s.files.contents q
    ++ Encoding.encode (told (rs.filter fun r => r.setup.Names s.files q))

namespace Sink.Told

variable {s s' s'' : Sink}

theorem nil (s : Sink) : s.Told s [] where
  grown := .refl _
  console := (List.append_nil _).symm
  contents _ := (List.append_nil _).symm

theorem trans (h : s.Told s' rs) (h' : s'.Told s'' rs') : s.Told s'' (rs ++ rs') where
  grown := h.grown.trans h'.grown
  console := by rw [h'.console, h.console, told_append, List.append_assoc]
  contents q := by
    have hnames : (rs'.filter fun r => r.setup.Names s'.files q)
        = rs'.filter fun r => r.setup.Names s.files q :=
      List.filter_congr fun r _ => decide_eq_decide.mpr (r.setup.names_iff_of_grown h.grown q)
    rw [h'.contents, h.contents, hnames, List.filter_append, told_append, Encoding.encode_append,
      List.append_assoc]

end Sink.Told

/-! ## One entry -/

/-- The writers are those that the setup asks for, and its file is there. -/
structure Logger.Follows (l : Logger) (f : Files) (setup : Setup) : Prop where
  level : l.level = setup.level.rank
  writers : l.writers = setup.writers f
  leads : ∀ p ∈ setup.settings.path? f.here, ∃ location, f.Leads p location

variable {l l' : Logger} {s s' : Sink} {e : Entry}

theorem Logger.Follows.of_grown {f g : Files} (h : l.Follows f setup) (hgrown : Files.Grown f g) :
    l.Follows g setup where
  level := h.level
  writers := by rw [h.writers, Setup.writers, Setup.writers, hgrown.here]
  leads := by
    intro p hp
    rw [hgrown.here] at hp
    obtain ⟨location, hleads⟩ := h.leads p hp
    exact ⟨location, hgrown.leads hleads⟩

theorem Logger.Follows.leastLevel_eq {f : Files} (h : l.Follows f setup) :
    l.leastLevel = setup.level.rank := by
  unfold Logger.leastLevel
  rw [h.level]
  cases setup.level <;> rfl

theorem line?_eq_line (r : Record) :
    Format.line? r.setup.format r.moment r.entry = some r.line :=
  (Option.some_get _).symm

/-- Without a file, the only writer writes to the console. -/
theorem foldl_writers_of_none (hp : setup.settings.path? s.files.here = none) (m : Moment)
    (e : Entry) : (setup.writers s.files).foldl (fun s w => w.write m e s) s
      = { s with console := s.console ++ Record.line ⟨setup, m, e⟩ ++ ['\n'] } := by
  have hline := line?_eq_line ⟨setup, m, e⟩
  simp only [Setup.writers, hp, Option.toList_none, List.map_nil, List.foldl_cons, List.foldl_nil,
    Writer.write, hline]

/-- With a file, the same is written to the console and behind what the file holds. -/
theorem foldl_writers_of_some {p : Path} {g : Files}
    (hp : setup.settings.path? s.files.here = some p) (m : Moment) (e : Entry)
    (hg : s.files.append p (Encoding.encode (Record.line ⟨setup, m, e⟩ ++ ['\n'])) = .ok g) :
    (setup.writers s.files).foldl (fun s w => w.write m e s) s
      = { s with files := g, console := s.console ++ Record.line ⟨setup, m, e⟩ ++ ['\n'] } := by
  have hline := line?_eq_line ⟨setup, m, e⟩
  simp only [Setup.writers, hp, Option.toList_some, List.map_cons, List.map_nil, List.foldl_cons,
    List.foldl_nil, Writer.write, hline, hg]

/-- A record that reaches its level is written by both writers, or by the only one. -/
theorem told_foldl (hstands : s.files.Stands) (hf : l.Follows s.files setup) {m : Moment}
    (hreaches : Record.Reaches ⟨setup, m, e⟩) :
    s.Told (l.writers.foldl (fun s w => w.write m e s) s) [⟨setup, m, e⟩] := by
  have htold : told [⟨setup, m, e⟩] = Record.line ⟨setup, m, e⟩ ++ ['\n'] :=
    told_of_reaches hreaches
  rw [hf.writers]
  cases hp : setup.settings.path? s.files.here with
  | none =>
    have hnames (q : Path) : ¬ setup.Names s.files q := by
      rintro ⟨p, hpath, -⟩
      cases hp.symm.trans hpath
    rw [foldl_writers_of_none hp]
    refine ⟨.refl _, ?_, fun q => ?_⟩
    · rw [htold, List.append_assoc]
    · rw [List.filter_cons_of_neg (by simpa using hnames q)]
      exact (List.append_nil _).symm
  | some p =>
    obtain ⟨location, hleads⟩ := hf.leads p hp
    obtain ⟨g, hg⟩ := Files.exists_append hleads
      (Encoding.encode (Record.line ⟨setup, m, e⟩ ++ ['\n']))
    have hnames (q : Path) : setup.Names s.files q ↔ s.files.Meet p q := by
      unfold Setup.Names
      simp [hp]
    rw [foldl_writers_of_some hp m e hg]
    refine ⟨Files.grown_append hstands hg, ?_, fun q => ?_⟩
    · rw [htold, List.append_assoc]
    · rw [Files.contents_append hstands hg]
      by_cases hmeet : s.files.Meet p q
      · rw [if_pos hmeet, List.filter_cons_of_pos (by simpa using (hnames q).mpr hmeet),
          List.filter_nil, htold]
      · rw [if_neg hmeet, List.filter_cons_of_neg (by simpa using mt (hnames q).mp hmeet)]
        rfl

/-- An entry of the program is written as one record of the latest setup. -/
theorem told_writeAt (hstands : s.files.Stands) (hf : l.Follows s.files setup)
    (own : Logger.isOwn e.source = true) (m : Moment) :
    s.Told (l.writeAt m e s) [⟨setup, m, e⟩] := by
  have hwriters : l.writers.isEmpty = false := by rw [hf.writers]; rfl
  unfold Logger.writeAt
  rw [own, hwriters, Bool.not_false, Bool.and_true, if_pos rfl, hf.leastLevel_eq]
  by_cases hreaches : Record.Reaches ⟨setup, m, e⟩
  · have hle : setup.level.rank ≤ e.level.rank := (Level.rank_le_rank_iff _ _).mpr hreaches
    have hall : (l.writers.filter fun w => w.level ≤ e.level.rank) = l.writers := by
      refine List.filter_eq_self.mpr fun w hw => ?_
      rw [hf.writers] at hw
      rcases List.mem_cons.mp hw with rfl | hw
      · simpa using hle
      · obtain ⟨p, -, rfl⟩ := List.mem_map.mp hw
        simpa using hle
    rw [if_neg (by omega), hall]
    exact told_foldl hstands hf hreaches
  · have hlt : e.level.rank < setup.level.rank :=
      Int.not_le.mp (mt (Level.rank_le_rank_iff _ _).mp hreaches)
    rw [if_pos hlt]
    refine ⟨.refl _, ?_, fun q => ?_⟩
    · rw [told_of_not_reaches hreaches, List.append_nil]
    · by_cases hnames : setup.Names s.files q
      · rw [List.filter_cons_of_pos (by simpa using hnames), List.filter_nil,
          told_of_not_reaches hreaches]
        exact (List.append_nil _).symm
      · rw [List.filter_cons_of_neg (by simpa using hnames)]
        exact (List.append_nil _).symm

/-- The clock tells when and where the entry is logged. -/
theorem told_write (hstands : s.files.Stands) (hf : l.Follows s.files setup)
    (own : Logger.isOwn e.source = true) :
    s.Told (l.write e s) [⟨setup, l.time.reading s.count, e⟩] := by
  let numbered : Sink := { s with count := s.count + 1 }
  have hf' : l.Follows numbered.files setup := hf
  obtain ⟨hgrown, hconsole, hcontents⟩ :=
    told_writeAt (s := numbered) hstands hf' own (l.time.reading s.count)
  exact ⟨hgrown, hconsole, hcontents⟩

/-! ## One setup -/

/-- The word for a level, in letters of whichever case, stands for this level. -/
theorem levelOfWord_of_spelled {word : Text} {level : Level}
    (h : word.flatMap Logger.capitals = level.title.toList) :
    Logger.levelOfWord word = .ok level.rank := by
  unfold Logger.levelOfWord
  rw [h]
  cases level <;> rfl

/-- A setup that does not fail makes its own writers, whatever writers there were, and they write one
record, which it logs itself. -/
theorem told_setUp (hstands : s.files.Stands) (h : l.setUp setup.settings s = (l', s', none)) :
    l'.time = l.time ∧ s'.count = s.count + 1 ∧ l'.Follows s'.files setup
      ∧ s.Told s' [⟨setup, l.time.reading s.count, setup.ready⟩] := by
  simp only [Logger.setUp, setup.level_eq, levelOfWord_of_spelled setup.spelled,
    setup.format_eq] at h
  split at h
  · cases h
  · next opened? k hopened =>
    obtain ⟨hpath, hcases⟩ := Logger.openFile_ok_cases hopened
    -- to open a file adds nothing to it, but it is there then
    have hopen : k.count = s.count ∧ s.Told k []
        ∧ ∀ p ∈ opened?, ∃ location, k.files.Leads p location := by
      rcases hcases with ⟨rfl, rfl⟩ | ⟨p, files, rfl, happend, rfl⟩
      · exact ⟨rfl, .nil _, by simp⟩
      · refine ⟨rfl, ⟨Files.grown_append hstands happend, (List.append_nil _).symm,
          fun q => ?_⟩, ?_⟩
        · rw [Files.contents_append hstands happend, ite_self]
          rfl
        · intro p hp
          cases hp
          exact Files.leads_append hstands happend
    obtain ⟨hcount, hopen, hleads⟩ := hopen
    simp only [Prod.mk.injEq, and_true] at h
    obtain ⟨rfl, rfl⟩ := h
    rw [hpath, ← hopen.grown.here] at hleads ⊢
    have hfollows : Logger.Follows
        { l with level := setup.level.rank, writers := setup.writers k.files } k.files setup :=
      ⟨rfl, rfl, hleads⟩
    have htold := told_write (e := setup.ready) (hopen.grown.stands hstands) hfollows rfl
    rw [← hcount]
    exact ⟨rfl, Logger.count_write _ _ _, hfollows.of_grown htold.grown, hopen.trans htold⟩

/-! ## Many of them -/

theorem told_run (hstands : s.files.Stands) (hf : l.Follows s.files setup)
    (h : Logger.run acts l s = some (l', s')) :
    l'.Follows s'.files (latest setup acts)
      ∧ s.Told s' (records l.time s.count setup acts) := by
  induction acts generalizing l s setup with
  | nil =>
    cases h
    exact ⟨hf, .nil _⟩
  | cons act acts ih =>
    cases act with
    | log e own =>
      have htold := told_write hstands hf own
      obtain ⟨hfollows, hrest⟩ := ih (htold.grown.stands hstands) (hf.of_grown htold.grown) h
      rw [Logger.count_write] at hrest
      exact ⟨hfollows, htold.trans hrest⟩
    | setUp next =>
      rw [Logger.run] at h
      split at h
      · next m k hset =>
        obtain ⟨htime, hcount, hfollows, htold⟩ := told_setUp hstands hset
        obtain ⟨hlast, hrest⟩ := ih (htold.grown.stands hstands) hfollows h
        rw [htime, hcount] at hrest
        exact ⟨hlast, htold.trans hrest⟩
      · cases h

/-- The log is set up, whatever writers there were before, then entries are logged and it is set up
again and again, and no setup fails. In the end there is one writer for the console and, if the
latest setup names a file, one for this file. Every record that reaches the level of its setup has
been written in this setup's format, once to the console and, if its setup names a file, once to
this file, in order. Nothing else has been written to the console or to any file, and a file that no
setup names from some setup on has been given nothing since. -/
theorem run_told {first : Setup} (hstands : s.files.Stands)
    (h : Logger.run (.setUp first :: acts) l s = some (l', s')) :
    l'.writers.map (·.target) = .console
        :: ((latest first acts).settings.path? s.files.here).toList.map .file
      ∧ s'.console = s.console ++ told (records l.time s.count first (.setUp first :: acts))
      ∧ (∀ q, s'.files.contents q = s.files.contents q
        ++ Encoding.encode (told ((records l.time s.count first (.setUp first :: acts)).filter
          fun r => r.setup.Names s.files q)))
      ∧ ∀ q before next after, acts = before ++ .setUp next :: after →
        (∀ setup, .setUp setup ∈ Act.setUp next :: after → ¬ setup.Names s.files q) →
        s'.files.contents q = s.files.contents q
          ++ Encoding.encode (told ((records l.time s.count first (.setUp first :: before)).filter
            fun r => r.setup.Names s.files q)) := by
  rw [Logger.run] at h
  split at h
  · next m k hset =>
    obtain ⟨htime, hcount, hfollows, htold⟩ := told_setUp hstands hset
    obtain ⟨hlast, hrest⟩ := told_run (htold.grown.stands hstands) hfollows h
    rw [htime, hcount] at hrest
    have hall : s.Told s' (records l.time s.count first (.setUp first :: acts)) :=
      htold.trans hrest
    refine ⟨?_, hall.console, hall.contents, ?_⟩
    · rw [hlast.writers, Setup.writers, hall.grown.here]
      simp
    · rintro q before next after rfl hnone
      let since := records l.time (s.count + (before.length + 1)) (latest first before)
        (.setUp next :: after)
      have hsince : (since.filter fun r => r.setup.Names s.files q) = [] := by
        refine List.filter_eq_nil_iff.mpr fun r hr => ?_
        have hmem : .setUp r.setup ∈ Act.setUp next :: after := by
          rcases List.mem_cons.mp hr with rfl | hr
          · exact List.mem_cons_self
          · exact setUp_mem_of_mem_records hr
        simpa using hnone r.setup hmem
      have hsplit : records l.time s.count first (.setUp first :: (before ++ .setUp next :: after))
          = records l.time s.count first (.setUp first :: before) ++ since :=
        records_append l.time s.count first (.setUp first :: before) _
      rw [hall.contents q, hsplit, List.filter_append, hsince, List.append_nil]
  · cases h

/-- A setup by the texts for its level, its format and its file. -/
def Setup.ofTexts (word format file : String) (level : Level)
    (spelled : word.toList.flatMap Logger.capitals = level.title.toList)
    (format_eq : Logger.formatOf (.text format.toList) = .ok format.toList)
    (steady : Format.IsSteady format.toList)
    (line : (Format.line? format.toList default default).isSome = true) : Setup where
  settings :=
    { level := .text word.toList, format := .text format.toList, file := .text file.toList }
  word := word.toList
  level := level
  format := format.toList
  level_eq := rfl
  spelled := spelled
  format_eq := format_eq
  valid := Format.isValid_of_line? steady line

/-- All goes to one file, -/
def everything : Setup :=
  .ofTexts "debug" "%(message)s" "a.log" .debug (by decide) (by decide) (by decide)
    (by decide +kernel)

/-- then what is grave to another one, with the line and the thread at which it is logged, -/
def grave : Setup :=
  .ofTexts "Error" "%(lineno)d %(threadName)s: %(message)s" "b.log" .error (by decide) (by decide)
    (by decide +kernel) (by decide +kernel)

/-- and then most of it to the first file again, as it is before the arguments are put in. -/
def usual : Setup :=
  .ofTexts "INFO" "%(msg)s" "./a.log" .info (by decide) (by decide) (by decide)
    (by decide +kernel)

def said (level : Level) (message : Message) : Act :=
  .log (Source.client.entry level message)
    (show Logger.isOwn Source.client.name = true by decide)

def untilUsual : List Act :=
  [said .info ["one"], .setUp grave, said .info ["two"], said .error ["three"]]

def sinceUsual : List Act := [said .debug ["four"], said .info ["five is ", .number 5]]

/-- The program stands at the root, where there is no file yet. -/
def nothingWritten : Sink where
  files := ⟨.directory [], []⟩

/-- The entry with a number is logged at this line. -/
def lineByLine : Clock := ⟨fun n => { lineno := n.toUInt32 }⟩

/-- The first file has a gap where the second setup counts, and the second file ends there. -/
theorem run_told_usual : ∃ l s,
    Logger.run (.setUp everything :: (untilUsual ++ .setUp usual :: sinceUsual))
        { time := lineByLine } nothingWritten
        = some (l, s)
      ∧ nothingWritten.files.Stands
      ∧ l.writers.map (·.target) = [.console, .file (Path.ofText "/a.log".toList)]
      ∧ s.console
        = "Logging initialized at level debug\none\n4 MainThread: three\nfive is %d\n".toList
      ∧ s.files.contents (Path.ofText "a.log".toList)
        = Encoding.encode "Logging initialized at level debug\none\nfive is %d\n".toList
      ∧ s.files.contents (Path.ofText "b.log".toList)
        = Encoding.encode "4 MainThread: three\n".toList := by
  have hdone : (Logger.run (.setUp everything :: (untilUsual ++ .setUp usual :: sinceUsual))
      { time := lineByLine } nothingWritten).isSome = true := by decide +kernel
  obtain ⟨⟨l, s⟩, h⟩ := Option.isSome_iff_exists.mp hdone
  have hstands : nothingWritten.files.Stands := ⟨[], rfl⟩
  obtain ⟨hwriters, hconsole, hcontents, hsince⟩ := run_told hstands h
  refine ⟨l, s, h, hstands, hwriters.trans (by decide +kernel), hconsole.trans (by decide +kernel),
    (hcontents _).trans (by decide +kernel), ?_⟩
  refine (hsince (Path.ofText "b.log".toList) untilUsual usual sinceUsual rfl ?_).trans
    (by decide +kernel)
  intro setup hmem
  rcases List.mem_cons.mp hmem with hsetup | hmem
  · cases hsetup
    decide +kernel
  · simp [sinceUsual, said] at hmem

end DocWeave.Log
