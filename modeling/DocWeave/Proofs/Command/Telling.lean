import DocWeave.Command
import DocWeave.Proofs.Client.Accounting

/-!
# What the commands tell

Every command tells how much it has found: how many files and functions, and a run how many tokens
were used. A listing tells of each function as well. Here it is said what such lines are, by the
numbers and words in them alone.

* `isNumber_grouped` — the commas in a number part its digits and do nothing else
* `Run.Tells`, `tells_summary` — the lines with which a run ends
* `Mentions`, `mentions_lines` — a listing tells all spans of all files, in order
* `exists_lines_eq`, `take_lines` — what a table ends with, and what an estimate begins with
-/

namespace DocWeave.Command

/-! ## Numbers -/

/-- The text is a whole number in digits, some of which may be parted by commas. -/
def IsNumber (n : Int) (t : Text) : Prop := t.filter (· ≠ ',') = (toString n).toList

theorem not_mem_digits (n : Nat) : ',' ∉ Decimal.digits n := by
  intro hmem
  have hdigits : Decimal.digits n = Nat.toDigits 10 n := by simp [Decimal.digits, toString]
  rw [hdigits] at hmem
  cases Nat.isDigit_of_mem_toDigits (by decide) (by decide) hmem

/-- Between digits nothing is put but commas. -/
theorem filter_groups (ds : List Char) :
    (Decimal.groups ds).filter (· ≠ ',') = ds.filter (· ≠ ',') := by
  induction ds using Decimal.groups.induct with
  | case1 a b c d rest ih =>
    rw [Decimal.groups]
    simp only [List.filter_cons, ih, ne_eq, not_true_eq_false, decide_false, Bool.false_eq_true,
      if_false]
  | case2 ds hshort =>
    rw [Decimal.groups]
    exact hshort

theorem toList_toString_of_neg {n : Int} (h : n < 0) :
    (toString n).toList = '-' :: (toString n.natAbs).toList := by
  cases n with
  | ofNat k => exact absurd h (Int.not_lt.mpr (Int.natCast_nonneg k))
  | negSucc k => exact String.toList_append

theorem toList_toString_of_nonneg {n : Int} (h : 0 ≤ n) :
    (toString n).toList = (toString n.natAbs).toList := by
  obtain ⟨k, rfl⟩ := Int.eq_ofNat_of_zero_le h
  rfl

/-- A number in groups of three digits is told by the digits. -/
theorem isNumber_grouped (n : Int) : IsNumber n (Decimal.grouped n) := by
  have hbody : ((Decimal.groups (Decimal.digits n.natAbs).reverse).reverse).filter (· ≠ ',')
      = (toString n.natAbs).toList := by
    rw [List.filter_reverse, filter_groups, List.filter_reverse, List.reverse_reverse,
      List.filter_eq_self.mpr]
    · rfl
    · intro c hc
      exact decide_eq_true fun hcomma => not_mem_digits _ (hcomma ▸ hc)
  unfold IsNumber Decimal.grouped
  simp only
  split
  · next hneg =>
    rw [toList_toString_of_neg hneg, List.filter_cons_of_pos (by decide), hbody]
  · next hpos =>
    rw [toList_toString_of_nonneg (Int.not_lt.mp hpos), hbody]

/-! ## Runs -/

/-- With these lines a run ends: they tell how many files there were and how many functions in them,
and how many tokens were used. -/
def Run.Tells (dryRun : Bool) (files functions : Nat) (input output : Int) (lines : List Text) :
    Prop :=
  ∃ total sent received : Text,
    IsNumber (input + output) total ∧ IsNumber input sent ∧ IsNumber output received
      ∧ lines = [
        (if dryRun then
          "Dry run complete: " ++ toString files ++ " files, " ++ toString functions
            ++ " functions. No files were modified."
        else "Documented " ++ toString files ++ " files (" ++ toString functions
          ++ " functions)").toList,
        "Tokens used: ".toList ++ total ++ " (input: ".toList ++ sent ++ ", output: ".toList
          ++ received ++ [')']]

/-- Every file has its own functions. -/
theorem Run.functionCount_eq_sum (docs : List Documenting.Documented) :
    Run.functionCount docs = (docs.map fun d => d.spans.length).sum :=
  List.length_flatMap

theorem tells_summary (dryRun : Bool) (docs : List Documenting.Documented) (u : Client.Usage) :
    Run.Tells dryRun docs.length (docs.map fun d => d.spans.length).sum u.input u.output
      (Run.summary dryRun docs u) := by
  rw [← Run.functionCount_eq_sum]
  exact ⟨_, _, _, isNumber_grouped _, isNumber_grouped _, isNumber_grouped _, rfl⟩

/-! ## Listings -/

/-- The words stand in the text, one behind the other. -/
def Mentions : List Text → Text → Prop
  | [], _ => True
  | word :: words, t => ∃ front back, t = front ++ word ++ back ∧ Mentions words back

namespace Mentions

variable {words words' : List Text} {s t : Text}

theorem self (word : Text) : Mentions [word] word :=
  ⟨[], [], (List.append_nil _).symm, trivial⟩

theorem behind (front : Text) (h : Mentions words t) : Mentions words (front ++ t) := by
  cases words with
  | nil => trivial
  | cons word words =>
    obtain ⟨gap, back, rfl, hback⟩ := h
    exact ⟨front ++ gap, back, by simp only [List.append_assoc], hback⟩

theorem append (h : Mentions words s) (h' : Mentions words' t) :
    Mentions (words ++ words') (s ++ t) := by
  induction words generalizing s with
  | nil => exact h'.behind s
  | cons word words ih =>
    obtain ⟨front, back, rfl, hback⟩ := h
    exact ⟨front, back ++ t, by simp only [List.append_assoc], ih hback⟩

theorem before (back : Text) (h : Mentions words t) : Mentions words (t ++ back) := by
  have hnil : Mentions (words ++ []) (t ++ back) := h.append trivial
  rwa [List.append_nil] at hnil

theorem flatMap {α : Type} {f : α → List Text} {g : α → Text} (h : ∀ a, Mentions (f a) (g a))
    (l : List α) : Mentions (l.flatMap f) (l.flatMap g) := by
  induction l with
  | nil => trivial
  | cons a l ih =>
    rw [List.flatMap_cons, List.flatMap_cons]
    exact (h a).append ih

theorem intercalate {α : Type} {f : α → List Text} {g : α → Text}
    (h : ∀ a, Mentions (f a) (g a)) (separator : Text) (l : List α) :
    Mentions (l.flatMap f) (separator.intercalate (l.map g)) := by
  induction l with
  | nil => trivial
  | cons a l ih =>
    cases l with
    | nil =>
      have hone : separator.intercalate [g a] = g a := by simp [List.intercalate]
      rw [List.flatMap_cons, List.flatMap_nil, List.append_nil, List.map_cons, List.map_nil, hone]
      exact h a
    | cons b l =>
      rw [List.map_cons, List.intercalate_cons_of_ne_nil (by simp), List.flatMap_cons,
        List.append_assoc]
      exact (h a).append (ih.behind separator)

end Mentions

/-- What a listing tells of a span, for people or as JSON. -/
def Spans.wordsOf (asJson : Bool) (s : Span) : List Text :=
  if asJson then
    [(s.name.map Report.jsonText).getD "null".toList, Report.jsonText s.kind.word.toList,
      (toString s.start).toList, (toString s.stop).toList, (toString s.line).toList]
  else [(toString s.line).toList, s.kind.word.toList, s.name.getD "None".toList]

/-- What a listing tells: the path of every file, and then all its spans. -/
def Spans.words (asJson : Bool) (report : Report) : List Text :=
  report.flatMap fun e =>
    (if asJson then Report.jsonText e.1.toText else e.1.toText)
      :: e.2.flatMap (Spans.wordsOf asJson)

theorem mentions_bracketed {α : Type} {f : α → List Text} {g : α → Text}
    (h : ∀ a, Mentions (f a) (g a)) (opening closing : Char) (indent : Nat) (l : List α) :
    Mentions (l.flatMap f) (Report.bracketed opening closing indent (l.map g)) := by
  unfold Report.bracketed
  split
  · next hnone =>
    rw [List.isEmpty_iff, List.map_eq_nil_iff] at hnone
    rw [hnone]
    trivial
  · simp only [List.map_map]
    have hitems := Mentions.intercalate (fun a => (h a).behind (List.replicate (indent + 2) ' '))
      [',', '\n'] l
    exact ((hitems.before _).behind [opening, '\n']).before [closing]

theorem mentions_member (name value : Text) : Mentions [value] (Report.member name value) :=
  (Mentions.self value).behind _

theorem mentions_jsonSpan (indent : Nat) (s : Span) :
    Mentions (Spans.wordsOf true s) (Report.jsonSpan indent s) :=
  mentions_bracketed (fun e : Text × Text => mentions_member e.1 e.2) _ _ _ [
    ("name".toList, (s.name.map Report.jsonText).getD "null".toList),
    ("kind".toList, Report.jsonText s.kind.word.toList),
    ("start_offset".toList, (toString s.start).toList),
    ("end_offset".toList, (toString s.stop).toList),
    ("line_number".toList, (toString s.line).toList)]

theorem mentions_spanLine (s : Span) : Mentions (Spans.wordsOf false s) (Report.spanLine s) := by
  have hline : Mentions [(toString s.line).toList]
      (Report.padLeft 5 (toString s.line).toList) := (Mentions.self _).behind _
  have hkind : Mentions [s.kind.word.toList] (Report.padRight 15 s.kind.word.toList) :=
    (Mentions.self _).before _
  have hname : Mentions [s.name.getD "None".toList] (s.name.getD "None".toList) := .self _
  exact ((((hline.behind [' ', ' ']).before [' ', ' ']).append hkind).before [' ']).append hname

/-- Every file is listed, with all its spans, in order. -/
theorem mentions_lines (asJson : Bool) (report : Report) :
    Mentions (Spans.words asJson report) (Spans.lines asJson report).flatten := by
  cases asJson with
  | true =>
    rw [Spans.lines, if_pos rfl, List.flatten_singleton]
    refine mentions_bracketed (fun e => ?_) _ _ _ report
    have hpath : Mentions [Report.jsonText e.1.toText] (Report.jsonText e.1.toText ++ [':', ' ']) :=
      (Mentions.self _).before _
    exact hpath.append (mentions_bracketed (mentions_jsonSpan 4) _ _ _ e.2)
  | false =>
    rw [Spans.lines, if_neg Bool.false_ne_true, Report.table, ← List.flatMap_id,
      List.flatMap_append, List.flatMap_assoc]
    refine (Mentions.flatMap (fun e => ?_) report).before _
    have hpath : Mentions [e.1.toText]
        (e.1.toText ++ (" (" ++ toString e.2.length ++ " functions)").toList) :=
      (Mentions.self _).before _
    rw [Report.fileLines, List.flatMap_cons, List.flatMap_id, ← List.flatMap_def]
    exact hpath.append (Mentions.flatMap mentions_spanLine e.2)

/-- A listing for people ends with how many functions there are in how many files. -/
theorem exists_lines_eq (report : Report) :
    ∃ front, Spans.lines false report = front
      ++ [("Found " ++ toString report.spanCount ++ " documentable functions in "
        ++ toString report.length ++ " files").toList] :=
  ⟨_, rfl⟩

/-! ## Estimates -/

/-- An estimate begins with how many files there are, and how many requests: one for each file, and
one for each function. -/
theorem take_lines {quote : Estimate.Quote} {functions : Nat}
    (h : quote.priced.length = quote.files.length + functions) :
    quote.lines.take 2
      = [("Files: " ++ toString quote.files.length).toList,
        ("Requests: " ++ toString (quote.files.length + functions) ++ " (" ++ toString functions
          ++ " functions, " ++ toString quote.files.length ++ " file comments)").toList] := by
  simp only [Estimate.Quote.lines, h, Nat.add_sub_cancel_left, List.take_succ_cons, List.take_zero]

end DocWeave.Command
