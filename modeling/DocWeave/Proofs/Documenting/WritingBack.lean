import DocWeave.Proofs.Documenting.Content
import DocWeave.Proofs.Files.Writing
import DocWeave.Proofs.Path
import DocWeave.Proofs.Text.Bytes

/-!
# What writing back leaves of a file

A file that has been documented holds what it held before and the comments that were put in, but its
lines have been made to end alike on the way.

* `encode_unify_eq_iff` — the bytes of a text outlast this exactly if there is no carriage return
  among them
* `deleteAll_written` — without the comments, the file holds the bytes of the text with all its
  lines ending alike, which are the bytes it held before exactly if none of them was a carriage
  return
-/

namespace DocWeave

/-! ## Weaves of bytes -/

namespace Weave

/-- The weave of the bytes of a woven text. -/
def bytes (w : Weave Char) : Weave UInt8 :=
  w.map fun e => (Encoding.encode e.1, Encoding.encode e.2)

theorem woven_bytes (w : Weave Char) : w.bytes.woven = Encoding.encode w.woven := by
  induction w with
  | nil => rfl
  | cons e w ih =>
    rw [woven_cons, Encoding.encode_append, Encoding.encode_append, ← ih]
    rfl

theorem plain_bytes (w : Weave Char) : w.bytes.plain = Encoding.encode w.plain := by
  induction w with
  | nil => rfl
  | cons e w ih =>
    rw [plain_cons, Encoding.encode_append, ← ih]
    rfl

/-- From the bytes of a woven text, the bytes of what was put in can be taken out. -/
theorem deleteAll_stretches_bytes (w : Weave Char) :
    deleteAll w.bytes.stretches (Encoding.encode w.woven) = Encoding.encode w.plain := by
  rw [← woven_bytes, deleteAll_stretches, plain_bytes]

end Weave

/-! ## Line ends -/

namespace Lines

theorem unify_eq_self_iff {t : Text} : unify t = t ↔ '\r' ∉ t :=
  ⟨fun h => h ▸ not_mem_unify t, unify_eq_self⟩

/-- Bytes are left as they are where lines are made to end alike, unless there is a carriage return
among them. -/
theorem encode_unify_eq_iff (t : Text) :
    Encoding.encode (unify t) = Encoding.encode t ↔ (0x0d : UInt8) ∉ Encoding.encode t := by
  have hmem : (0x0d : UInt8) ∈ Encoding.encode t ↔ '\r' ∈ t :=
    Encoding.mem_encode_iff (c := '\r') (by decide)
  rw [Encoding.encode_inj, unify_eq_self_iff, hmem]

end Lines

namespace Documenting

open Generation

variable {ask : Asker} {store : Prompt.Store} {run : Runner} {settings : Settings}
  {s s' : State} {d : Documented}

/-! ## The file behind it -/

theorem read_ok_cases {f : Files} {written text : Text} (h : Source.read f written = .ok text) :
    ∃ bytes t, f.read (Path.ofText written) = .ok bytes ∧ Encoding.decode bytes = .ok t
      ∧ text = Lines.unify t := by
  unfold Source.read at h
  simp only at h
  split at h
  · cases h
  · next bytes hbytes =>
    split at h
    · next t ht =>
      cases h
      exact ⟨bytes, t, hbytes, ht, rfl⟩
    · cases h

/--
Where a file has been documented and written, `B` is what it held, `disk` what it holds, and `c₀ ::
cs` are the comments that were put in. What is left of `disk` when they are deleted, with the line
feeds behind them, are the bytes of the text with all its lines ending alike. These are `B` exactly
if no byte of `B` is a carriage return.
-/
theorem deleteAll_written (hrun : Scheduled ask store settings.generation run) {written : Text}
    (h : documentFileBy run settings (Path.ofText written) s = (.ok d, s'))
    (hdry : settings.selection.dryRun = false) :
    ∃ (B disk : Bytes) (t c₀ : Text) (cs : List Text) (w : Weave Char),
      s.files.read (Path.ofText written) = .ok B ∧ Encoding.decode B = .ok t
        ∧ s'.files.read (Path.ofText written) = .ok disk
        ∧ (∃ s₁ s₂, run (jobs ⟨Lines.unify t, d.spans⟩) s₁ = (.ok (c₀ :: cs), s₂))
        ∧ disk = w.bytes.woven
        ∧ w.inserted = (c₀ ++ ['\n', '\n']) :: cs.map (· ++ ['\n'])
        ∧ Weave.deleteAll w.bytes.stretches disk = Encoding.encode (Lines.unify t)
        ∧ (Weave.deleteAll w.bytes.stretches disk = B ↔ (0x0d : UInt8) ∉ B) := by
  obtain ⟨text, c₀, cs, hread, hextract, hblocks, hlen, -, hsplice⟩ := exists_blocks hrun h
  obtain ⟨B, t, hB, ht, rfl⟩ := read_ok_cases hread
  rw [Path.ofText_toText] at hB
  obtain ⟨-, -, -, -, -, -, hwrite⟩ := documentFileBy_ok_cases h
  have hdisk := Files.read_write hB (hwrite hdry)
  obtain ⟨w, hcontent, hplain, hinserted, -⟩ :=
    exists_weave_of_splice hlen (spans_ascending hextract) hsplice
  have hleft : Weave.deleteAll w.bytes.stretches (Encoding.encode d.content)
      = Encoding.encode (Lines.unify t) := by
    rw [hcontent, Weave.deleteAll_stretches_bytes, hplain]
  refine ⟨B, Encoding.encode d.content, t, c₀, cs, w, hB, ht, hdisk, hblocks, ?_, hinserted, hleft,
    ?_⟩
  · rw [Weave.woven_bytes, hcontent]
  · rw [hleft, ← Encoding.encode_of_decode ht]
    exact Lines.encode_unify_eq_iff t

/-- A line that ended in a carriage return and a line feed ends in a line feed alone. -/
theorem deleteAll_written_carriageReturn :
    let run := blocks breakingOut (Prompt.Store.packaged []) {}
    let p := Path.ofText "a.js".toList
    let s := State.ofFile "a.js".toList (Encoding.encode "x;\r\n".toList)
    Scheduled breakingOut (Prompt.Store.packaged []) {} run
      ∧ ∃ d s', documentFileBy run {} p s = (.ok d, s')
        ∧ d.content = "/** d */\n\nx;\n".toList
        ∧ ∃ (B disk : Bytes) (w : Weave Char), s.files.read p = .ok B ∧ s'.files.read p = .ok disk
          ∧ disk = w.bytes.woven ∧ Weave.deleteAll w.bytes.stretches disk ≠ B := by
  have hrun := scheduled_blocks breakingOut (Prompt.Store.packaged []) {}
  have hdone : (documentFileBy (blocks breakingOut (Prompt.Store.packaged []) {}) {}
      (Path.ofText "a.js".toList)
      (State.ofFile "a.js".toList (Encoding.encode "x;\r\n".toList))).1.toOption.map
        Documented.content = some "/** d */\n\nx;\n".toList := by
    decide +kernel
  obtain ⟨d, s', h, hcontent⟩ := exists_of_content hdone
  obtain ⟨B, disk, t, c₀, cs, w, hB, -, hdisk, -, hwoven, -, -, hiff⟩ :=
    deleteAll_written hrun h rfl
  refine ⟨hrun, d, s', h, hcontent, B, disk, w, hB, hdisk, hwoven, fun heq => hiff.mp heq ?_⟩
  have hread : (State.ofFile "a.js".toList (Encoding.encode "x;\r\n".toList)).files.read
      (Path.ofText "a.js".toList) = .ok (Encoding.encode "x;\r\n".toList) := rfl
  rw [hread] at hB
  cases hB
  decide +kernel

end Documenting

end DocWeave
