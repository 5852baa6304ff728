import DocWeave.Proofs.Comment.Closing
import DocWeave.Proofs.Documenting.OneFile
import DocWeave.Proofs.Extraction.Runs
import DocWeave.Proofs.Splice.Weaving

/-!
# What a documented text holds

Whatever is answered, a documented text is the text that was read, cut where its spans start, with
one comment in front of every piece.

* `isWhole_of_scheduled` — workers give nothing but whole comments, one for every span
* `spans_ascending` — the spans of a script are in the order of their starts, so that putting the
  comments in order leaves every one with its span
-/

namespace DocWeave.Documenting

open Generation

variable {ask : Asker} {store : Prompt.Store} {run : Runner}

/-! ## Comments -/

/-- All comments that workers give are accepted answers, and so each is one whole comment. -/
theorem isWhole_of_scheduled {settings : Generation.Settings}
    (hrun : Scheduled ask store settings run) (hworkers : 0 < settings.maxWorkers)
    {spans : List Span} {s s' : Session} {bs : List Text} (h : run spans s = (.ok bs, s')) :
    bs.length = spans.length ∧ ∀ b ∈ bs, Comment.IsWhole b := by
  have hout := hrun hworkers spans s
  rw [h] at hout
  -- the invariant is that a job that has a comment has it from an answer that was accepted
  have hnext : Pool.Preserved ask fun _ stage => stage.Accepts :=
    fun w s hw => Stage.accepts_next _ _ hw s
  have hfresh : ∀ j ∈ commentJobs store settings spans, Stage.fresh.Accepts :=
    fun j _ b hb => by cases hb
  obtain ⟨hlen, hall⟩ := Pool.outcome_ok hnext hfresh hout
  refine ⟨hlen.trans (length_commentJobs store settings spans), ?_⟩
  intro b hb
  obtain ⟨i, hi⟩ := List.mem_iff_getElem?.mp hb
  obtain ⟨j, -, hj⟩ := hall i b hi
  obtain ⟨answer, haccept⟩ := hj b rfl
  exact Comment.accept_isWhole haccept

/-! ## Spans -/

/-- The spans of a script are in the order of their starts. -/
theorem spans_ascending {text written : Text} {reader : Reader} {script : Source.Parsed}
    (h : (Source.extract text written reader).1 = .ok script) :
    script.spans.Pairwise fun a b => a.start ≤ b.start := by
  obtain ⟨-, hspans⟩ := extract_ok_cases h
  obtain ⟨root, -, htree⟩ := Extraction.run_ok_cases hspans
  exact Extraction.ofTree_ascending htree

/-! ## Placements -/

theorem map_span_placements {spans : List Span} {bs : List Text}
    (h : bs.length = spans.length + 1) : (placements spans bs).map Placement.span = spans := by
  rw [placements, List.map_map]
  exact List.map_fst_zip (by rw [List.length_tail]; omega)

theorem map_block_placements {spans : List Span} {bs : List Text}
    (h : bs.length = spans.length + 1) : (placements spans bs).map Placement.block = bs.tail := by
  rw [placements, List.map_map]
  exact List.map_snd_zip (by rw [List.length_tail]; omega)

/-- Placements of spans that are in order are in order. -/
theorem order_placements {spans : List Span} {bs : List Text} (h : bs.length = spans.length + 1)
    (hspans : spans.Pairwise fun a b => a.start ≤ b.start) :
    Splice.order (placements spans bs) = placements spans bs := by
  refine Sorting.sort_eq_self _ ?_
  rw [← map_span_placements h, List.pairwise_map] at hspans
  exact hspans.imp fun hab => by simpa using hab

/-- Blocks that are put in front of spans in order make a weave, which is cut where the spans start.
-/
theorem exists_weave_of_splice {text c₀ out : Text} {cs : List Text} {spans : List Span}
    (hlen : cs.length = spans.length) (hspans : spans.Pairwise fun a b => a.start ≤ b.start)
    (h : Splice.splice text c₀ (placements spans (c₀ :: cs)) = .ok out) :
    ∃ w : Weave Char, out = w.woven ∧ w.plain = text
      ∧ w.inserted = (c₀ ++ ['\n', '\n']) :: cs.map (· ++ ['\n'])
      ∧ w.cuts.map Int.ofNat = 0 :: spans.map Span.start := by
  have hlen' : (c₀ :: cs).length = spans.length + 1 := congrArg (· + 1) hlen
  have hblocks := map_block_placements hlen'
  have hstarts : (placements spans (c₀ :: cs)).map (fun q => q.span.start)
      = spans.map Span.start := by
    have hmap := congrArg (List.map Span.start) (map_span_placements hlen')
    rwa [List.map_map] at hmap
  obtain ⟨hin, hout⟩ := Splice.splice_eq_ok_iff.mp h
  refine ⟨_, hout, Splice.plain_weave text c₀ fun q hq => (hin q hq).1, ?_, ?_⟩
  · rw [order_placements hlen' hspans, Splice.weave, Splice.inserted_weaveFrom]
    have hmap := congrArg (List.map fun b => b ++ ['\n']) hblocks
    rw [List.map_map] at hmap
    exact congrArg _ hmap
  · rw [Splice.cuts_weave text c₀ hin, order_placements hlen' hspans, ← hstarts, List.map_cons,
      List.map_map]
    refine congrArg _ (List.map_congr_left fun q hq => ?_)
    exact Int.toNat_of_nonneg (hin q hq).1

/-! ## The whole -/

/-- Where a file has been documented, the workers gave a comment for it and one for every span. -/
theorem exists_blocks {settings : Settings} (hrun : Scheduled ask store settings.generation run)
    {p : Path} {s s' : State} {d : Documented} (h : documentFileBy run settings p s = (.ok d, s')) :
    ∃ text c₀ cs, Source.read s.files p.toText = .ok text
      ∧ (Source.extract text p.toText settings.reader).1 = .ok ⟨text, d.spans⟩
      ∧ (∃ s₁ s₂, run (jobs ⟨text, d.spans⟩) s₁ = (.ok (c₀ :: cs), s₂))
      ∧ cs.length = d.spans.length ∧ (∀ c ∈ c₀ :: cs, Comment.IsWhole c)
      ∧ Splice.splice text c₀ (placements d.spans (c₀ :: cs)) = .ok d.content := by
  obtain ⟨text, hread, hextract, hworkers, ⟨bs, s₁, s₂, hbs, hsplice⟩, -, -⟩ :=
    documentFileBy_ok_cases h
  obtain ⟨hlen, hwhole⟩ := isWhole_of_scheduled hrun hworkers hbs
  cases bs with
  | nil => cases hlen
  | cons c₀ cs =>
    have hlen' : cs.length = d.spans.length := Nat.succ.inj hlen
    exact ⟨text, c₀, cs, hread, hextract, ⟨s₁, s₂, hbs⟩, hlen', hwhole, hsplice⟩

/-- Whatever is answered, a file that has been documented holds the text that was read, which is cut
at the starts of its spans, and in front of every piece one whole comment. -/
theorem documentFileBy_content {settings : Settings}
    (hrun : Scheduled ask store settings.generation run) {p : Path} {s s' : State} {d : Documented}
    (h : documentFileBy run settings p s = (.ok d, s')) :
    ∃ text, Source.read s.files p.toText = .ok text
      ∧ (Source.extract text p.toText settings.reader).1 = .ok ⟨text, d.spans⟩
      ∧ d.spans.Pairwise (fun a b => a.start ≤ b.start)
      ∧ ∃ (c₀ : Text) (cs : List Text) (w : Weave Char), d.content = w.woven ∧ w.plain = text
        ∧ w.inserted = (c₀ ++ ['\n', '\n']) :: cs.map (· ++ ['\n'])
        ∧ w.cuts.map Int.ofNat = 0 :: d.spans.map Span.start
        ∧ ∀ c ∈ c₀ :: cs, Comment.IsWhole c := by
  obtain ⟨text, c₀, cs, hread, hextract, -, hlen, hwhole, hsplice⟩ := exists_blocks hrun h
  have hspans := spans_ascending hextract
  obtain ⟨w, hcontent, hplain, hinserted, hcuts⟩ := exists_weave_of_splice hlen hspans hsplice
  exact ⟨text, hread, hextract, hspans, c₀, cs, w, hcontent, hplain, hinserted, hcuts, hwhole⟩

/-- An answer that breaks out of its comment does not get into the file. -/
theorem documentFileBy_content_breakingOut :
    let run := blocks breakingOut (Prompt.Store.packaged []) {}
    let s := State.ofFile "a.js".toList (Encoding.encode "function f() {}\n".toList)
    Scheduled breakingOut (Prompt.Store.packaged []) {} run
      ∧ ∃ d s', documentFileBy run {} (Path.ofText "a.js".toList) s = (.ok d, s')
        ∧ d.content = "/** d */\n\n/** d */\nfunction f() {}\n".toList
        ∧ ∃ text, Source.read s.files "a.js".toList = .ok text
          ∧ ∃ (c₀ : Text) (cs : List Text) (w : Weave Char), d.content = w.woven ∧ w.plain = text
            ∧ w.inserted = (c₀ ++ ['\n', '\n']) :: cs.map (· ++ ['\n'])
            ∧ ∀ c ∈ c₀ :: cs, Comment.IsWhole c := by
  have hrun := scheduled_blocks breakingOut (Prompt.Store.packaged []) {}
  have hdone : (documentFileBy (blocks breakingOut (Prompt.Store.packaged []) {}) {}
      (Path.ofText "a.js".toList)
      (State.ofFile "a.js".toList (Encoding.encode "function f() {}\n".toList))).1.toOption.map
        Documented.content = some "/** d */\n\n/** d */\nfunction f() {}\n".toList := by
    decide +kernel
  obtain ⟨d, s', h, hcontent⟩ := exists_of_content hdone
  obtain ⟨text, hread, -, -, c₀, cs, w, hwoven, hplain, hinserted, -, hwhole⟩ :=
    documentFileBy_content hrun h
  exact ⟨hrun, d, s', h, hcontent, text, hread, c₀, cs, w, hwoven, hplain, hinserted, hwhole⟩

end DocWeave.Documenting
