import DocWeave.Log.Writing
import DocWeave.Proofs.Files.Appending

/-!
# What logging changes

Entries are added to the file of the log, if there is one, and no other file is changed by them. To
set the writers up is no different.

* `Logger.appended_writeAll`, `Logger.appended_setUp` — the files behind entries, and behind a setup
-/

namespace DocWeave.Log

variable {p? : Option Path} {s : Sink}

/-- The file to which entries are added, if there is one. -/
def Settings.path? (settings : Settings) (here : List Text) : Option Path :=
  match settings.file with
  | .text t => if t.isEmpty then none else some (Logger.absolute here (Path.ofText t))
  | _ => none

/-- The writer adds to no file but the one at the path. -/
def Writer.KeepsTo (w : Writer) (p? : Option Path) : Prop := ∀ p, w.target = .file p → p? = some p

theorem Writer.appended_write {w : Writer} (h : w.KeepsTo p?) (m : Moment) (e : Entry) (s : Sink) :
    s.files.Appended p? (w.write m e s).files := by
  unfold Writer.write
  split
  · exact .refl
  · split
    · exact .refl
    · next p hp =>
      split
      · next files happend => exact .single ⟨p, _, h p hp, happend⟩
      · exact .refl

namespace Logger

variable {l : Logger}

theorem appended_writeAt (h : ∀ w ∈ l.writers, w.KeepsTo p?) (m : Moment) (e : Entry) (s : Sink) :
    s.files.Appended p? (l.writeAt m e s).files := by
  have hplain : s.files.Appended p? (writePlain e s).files := by
    unfold writePlain
    split <;> exact .refl
  have hall (ws : List Writer) (hws : ∀ w ∈ ws, w.KeepsTo p?) (s : Sink) :
      s.files.Appended p? (ws.foldl (fun s w => w.write m e s) s).files := by
    induction ws generalizing s with
    | nil => exact .refl
    | cons w rest ih =>
      obtain ⟨hw, hrest⟩ := List.forall_mem_cons.mp hws
      exact (Writer.appended_write hw m e s).trans (ih hrest _)
  unfold writeAt
  split
  · split
    · exact .refl
    · exact hall _ (fun w hw => h w (List.mem_filter.mp hw).1) s
  · split
    · exact .refl
    · exact hplain

theorem appended_write (h : ∀ w ∈ l.writers, w.KeepsTo p?) (e : Entry) (s : Sink) :
    s.files.Appended p? (l.write e s).files :=
  appended_writeAt h _ e { s with count := s.count + 1 }

theorem count_writer_write (w : Writer) (m : Moment) (e : Entry) (s : Sink) :
    (w.write m e s).count = s.count := by
  unfold Writer.write
  split
  · rfl
  · split
    · rfl
    · split <;> rfl

/-- An entry is counted once, wherever it is written. -/
theorem count_write (l : Logger) (e : Entry) (s : Sink) : (l.write e s).count = s.count + 1 := by
  have hall (m : Moment) (ws : List Writer) (s : Sink) :
      (ws.foldl (fun s w => w.write m e s) s).count = s.count := by
    induction ws generalizing s with
    | nil => rfl
    | cons w rest ih => exact (ih _).trans (count_writer_write w m e s)
  unfold write writeAt
  split
  · split
    · rfl
    · exact hall _ _ _
  · split
    · rfl
    · unfold writePlain
      split <;> rfl

theorem appended_writeAll (h : ∀ w ∈ l.writers, w.KeepsTo p?) (entries : List Entry) (s : Sink) :
    s.files.Appended p? (l.writeAll entries s).files := by
  unfold writeAll
  induction entries generalizing s with
  | nil => exact .refl
  | cons e rest ih => exact (appended_write h e s).trans (ih _)

/-- The file that is opened for entries is that of the log, and nothing is added to it yet. -/
theorem openFile_ok_cases {settings : Settings} {s' : Sink} {opened? : Option Path}
    (h : openFile settings.file s = .ok (opened?, s')) :
    opened? = settings.path? s.files.here
      ∧ ((opened? = none ∧ s' = s)
        ∨ ∃ p files, opened? = some p ∧ s.files.append p [] = .ok files ∧ s' = { s with files }) := by
  unfold openFile at h
  unfold Settings.path?
  cases hfile : settings.file with
  | text t =>
    simp only [hfile, Value.isGiven] at h ⊢
    by_cases hempty : t.isEmpty = true
    · simp only [hempty, Bool.not_true, Bool.false_eq_true, if_false] at h
      cases h
      rw [if_pos hempty]
      exact ⟨rfl, Or.inl ⟨rfl, rfl⟩⟩
    · simp only [hempty, Bool.not_false, if_true] at h
      rw [if_neg hempty]
      split at h
      · next files happend =>
        cases h
        exact ⟨rfl, Or.inr ⟨_, files, rfl, happend, rfl⟩⟩
      · cases h
  | _ =>
    rw [hfile] at h
    simp only at h
    split at h
    · cases h
    · cases h
      exact ⟨rfl, Or.inl ⟨rfl, rfl⟩⟩

theorem appended_openFile {settings : Settings} {s' : Sink} {opened? : Option Path}
    (h : openFile settings.file s = .ok (opened?, s')) :
    s.files.Appended (settings.path? s.files.here) s'.files := by
  obtain ⟨hopened, ⟨-, rfl⟩ | ⟨p, files, rfl, happend, rfl⟩⟩ := openFile_ok_cases h
  · exact .refl
  · exact .single ⟨p, [], hopened.symm, happend⟩

/-- To set up writers changes no file but that of the log. -/
theorem appended_setUp (settings : Settings) (s : Sink) :
    s.files.Appended (settings.path? s.files.here) (l.setUp settings s).2.1.files := by
  unfold setUp
  simp only
  split
  · split
    · exact .refl
    · split
      · exact .refl
      · split
        · exact .refl
        · next hopened =>
          obtain ⟨rfl, -⟩ := openFile_ok_cases hopened
          refine (appended_openFile hopened).trans (appended_write ?_ _ _)
          intro w hw p hp
          rcases List.mem_cons.mp hw with rfl | hw
          · cases hp
          · obtain ⟨q, hq, rfl⟩ := List.mem_map.mp hw
            cases hp
            exact Option.mem_toList.mp hq
  · exact .refl

/-- A setup that comes upon a problem has not written anything. -/
theorem sink_setUp_of_problem {settings : Settings} {p : Problem}
    (h : (l.setUp settings s).2.2 = some p) : (l.setUp settings s).2.1 = s := by
  unfold setUp at h ⊢
  simp only at h ⊢
  split at h
  · split at h
    · rfl
    · split at h
      · rfl
      · split at h
        · rfl
        · cases h
  · rfl

end Logger

end DocWeave.Log
