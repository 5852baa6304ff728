import DocWeave.Proofs.Extraction.Documentable
import DocWeave.Proofs.Extraction.Offsets
import DocWeave.Proofs.Script.Visit
import DocWeave.Proofs.Sorting
import Mathlib.Data.List.Forall2

/-!
# All spans or none

A script has spans exactly if it can be read without faults: in the language that was asked for or,
where this is plain JavaScript, with types and markup. Then it has one span for each place that gets
a comment and no others.

* `accepts_iff` — which tree counts
* `exists_describe` — whatever is at fault, there is something to be said about it
* `run_complete` — the spans are those of the documentable places in pre-order, sorted by their
  starts; what has none is told to be no script
-/

namespace DocWeave

open Script

/-! ## Nodes between bounds -/

namespace Construct

/-- A node begins and ends at bounds of characters. -/
structure Bounded (text : Text) (l : Label) : Prop where
  start : Utf8.IsBound text l.start.offset
  stop : Utf8.IsBound text l.stop

instance (text : Text) (l : Label) : Decidable (Bounded text l) :=
  decidable_of_iff (Utf8.IsBound text l.start.offset ∧ Utf8.IsBound text l.stop)
    ⟨fun h => ⟨h.1, h.2⟩, fun h => ⟨h.start, h.stop⟩⟩

theorem exists_index?_of_isBound {text : Text} {n : Nat} (h : Utf8.IsBound text n) :
    ∃ i, index? text n = some i := by
  unfold index?
  split
  · exact ⟨n, rfl⟩
  · exact Utf8.exists_index?_of_isBound h

/-- A construct between bounds has a span, which has its kind and the text of its name. -/
theorem exists_span? {text : Text} {c : Construct} (hname : Bounded text c.name.label)
    (hanchor : Bounded text c.anchor.label) :
    ∃ s n, span? text c = some s ∧ s.kind = c.kind ∧ s.name = some n
      ∧ Encoding.decode (((Encoding.encode text).take c.name.label.stop).drop
        c.name.label.start.offset) = .ok n := by
  obtain ⟨n, hslice, hn⟩ := Utf8.exists_slice?_of_isBound hname.start hname.stop
  obtain ⟨start, hstart⟩ := exists_index?_of_isBound hanchor.start
  obtain ⟨stop, hstop⟩ := exists_index?_of_isBound hanchor.stop
  let s : Span := {
    name := some n
    kind := c.kind
    text := (text.drop start).take (stop - start)
    start := start
    stop := stop
    line := c.anchor.label.start.row + 1 }
  have hs : span? text c = some s := by
    unfold span?
    rw [hslice, hstart, hstop]
    rfl
  exact ⟨s, n, hs, rfl, rfl, hn⟩

end Construct

open Construct

/-! ## Faults -/

namespace Fault

/-- Of a reading whose nodes begin and end at bounds of characters something can be said. -/
theorem exists_describe {text : Text} {r : Reading}
    (h : ∀ root faulty, r = .tree root faulty → ∀ t ∈ root.preorder, Bounded text t.label) :
    ∃ description, describe text r = some description := by
  cases r with
  | refused => exact ⟨_, rfl⟩
  | tree root faulty =>
    simp only [describe]
    split
    · next message hfound =>
      obtain ⟨f, hf, hmessage⟩ := List.exists_of_findSome?_eq_some hfound
      have hmem : f.tree ∈ root.preorder := by
        rw [← Focus.top_of_mem_visit hf]
        exact Focus.mem_preorder_top f.tree.self_mem_preorder
      obtain ⟨hstart, hstop⟩ := h root faulty rfl _ hmem
      obtain ⟨own, hown, -⟩ := Utf8.exists_slice?_of_isBound hstart hstop
      unfold ofNode? at hmessage
      split at hmessage
      · cases hmessage
        exact ⟨_, rfl⟩
      · split at hmessage
        · rw [hown] at hmessage
          cases hmessage
          exact ⟨_, rfl⟩
        · cases hmessage
    · exact ⟨_, rfl⟩

end Fault

namespace Extraction

variable {read : Language → Reading} {text path : Text} {l : Language} {root : Tree}

/-! ## The tree that counts -/

/-- `root` is the tree of the script: it is read without faults in the language `l`, or, where plain
JavaScript is at fault, with types and markup. -/
inductive Accepts (read : Language → Reading) (l : Language) (root : Tree) : Prop where
  | own (h : read l = .tree root false)
  | widened (plain : l = .javaScript) (faulty : (read l).isFaulty = true)
      (h : read .tsx = .tree root false)

theorem isFaulty_eq_false_iff {r : Reading} : r.isFaulty = false ↔ ∃ root, r = .tree root false := by
  cases r <;> simp [Reading.isFaulty]

theorem exists_accepts_iff : (∃ root, Accepts read l root) ↔
    (read l).isFaulty = false ∨ (l = .javaScript ∧ (read .tsx).isFaulty = false) := by
  constructor
  · rintro ⟨root, h | ⟨hplain, -, h⟩⟩
    · exact Or.inl (isFaulty_eq_false_iff.mpr ⟨root, h⟩)
    · exact Or.inr ⟨hplain, isFaulty_eq_false_iff.mpr ⟨root, h⟩⟩
  · intro h
    cases hfaulty : (read l).isFaulty with
    | false =>
      obtain ⟨root, hroot⟩ := isFaulty_eq_false_iff.mp hfaulty
      exact ⟨root, .own hroot⟩
    | true =>
      obtain ⟨hplain, htsx⟩ := h.resolve_left (by simp [hfaulty])
      obtain ⟨root, hroot⟩ := isFaulty_eq_false_iff.mp htsx
      exact ⟨root, .widened hplain hfaulty hroot⟩

theorem accepts_iff : Accepts read l root ↔ (choose read l).2.1 = .tree root false := by
  unfold choose
  simp only
  split
  · next h =>
    have hown : read l ≠ .tree root false := fun e => by simp [e, Reading.isFaulty] at h
    split
    · next htsx =>
      have hwidened : read .tsx ≠ .tree root false := fun e => by
        simp [e, Reading.isFaulty] at htsx
      refine iff_of_false (fun haccepts => ?_) hown
      cases haccepts with
      | own h => exact hown h
      | widened _ _ h => exact hwidened h
    · refine ⟨fun haccepts => ?_, .widened h.2 h.1⟩
      cases haccepts with
      | own h => exact absurd h hown
      | widened _ _ h => exact h
  · next h =>
    refine ⟨fun haccepts => ?_, .own⟩
    cases haccepts with
    | own h => exact h
    | widened plain faulty _ => exact absurd ⟨faulty, plain⟩ h

theorem languages_choose : (choose read l).1
    = if (read l).isFaulty ∧ l = .javaScript then [l, .tsx] else [l] := by
  unfold choose
  simp only
  split
  · split <;> rfl
  · rfl

/-- The tree that counts is one of those that have been looked at. -/
theorem mem_languages_of_choose {r : Reading} (h : (choose read l).2.1 = r) :
    ∃ l' ∈ (choose read l).1, read l' = r := by
  rw [← h]
  unfold choose
  simp only
  split
  · split
    · exact ⟨l, by simp, rfl⟩
    · exact ⟨.tsx, by simp, rfl⟩
  · exact ⟨l, by simp, rfl⟩

/-! ## Runs -/

theorem run_languages : (run read text path l).languages = (choose read l).1 := by
  unfold run
  simp only
  split
  · split <;> rfl
  · split <;> rfl

/-- What is at fault is told to be no script. -/
theorem run_malformed {description : Text}
    (hread : ∀ root, (choose read l).2.1 ≠ .tree root false)
    (h : Fault.describe text (choose read l).2.1 = some description) :
    (run read text path l).result = .error (.malformed description) := by
  cases hr : (choose read l).2.1 with
  | refused =>
    rw [hr] at h
    simp only [run, hr, h]
  | tree root faulty =>
    cases faulty with
    | false => exact absurd hr (hread root)
    | true =>
      rw [hr] at h
      simp only [run, hr, h]

/-- The span of a place that gets a comment: it is where the construct at this place has its anchor,
has the kind of the place, and is called by the text that its name covers. -/
def IsSpanAt (text : Text) (f : Focus) (s : Span) : Prop :=
  ∃ (c : Construct) (n : Text), at? f = some c ∧ span? text c = some s
    ∧ Documentable f c.name s.kind ∧ s.name = some n
    ∧ Encoding.decode (((Encoding.encode text).take c.name.label.stop).drop
      c.name.label.start.offset) = .ok n

/-- One by one, the constructs at places have their spans. -/
theorem exists_forall₂_isSpanAt {fs : List Focus}
    (h : ∀ c ∈ fs.filterMap at?, Bounded text c.name.label ∧ Bounded text c.anchor.label) :
    ∃ found, (fs.filterMap at?).mapM (span? text) = some found
      ∧ List.Forall₂ (IsSpanAt text) (fs.filter fun f => IsDocumentable f) found := by
  induction fs with
  | nil => exact ⟨[], rfl, .nil⟩
  | cons f fs ih =>
    cases hc : at? f with
    | none =>
      have hno : ¬IsDocumentable f := by rw [← isSome_at?_iff, hc]; simp
      rw [List.filterMap_cons_none hc] at h ⊢
      rw [List.filter_cons_of_neg (by simpa using hno)]
      exact ih h
    | some c =>
      have hyes : IsDocumentable f := (isSome_at?_iff f).mp (by rw [hc]; rfl)
      rw [List.filterMap_cons_some hc] at h ⊢
      rw [List.filter_cons_of_pos (by simpa using hyes)]
      obtain ⟨hname, hanchor⟩ := h c List.mem_cons_self
      obtain ⟨s, n, hs, hkind, hn, htext⟩ := exists_span? hname hanchor
      obtain ⟨found, hfound, hall⟩ := ih fun d hd => h d (List.mem_cons_of_mem c hd)
      refine ⟨s :: found, by rw [List.mapM_cons, hs, hfound]; rfl, .cons ?_ hall⟩
      exact ⟨c, n, hc, hs, hkind ▸ .of_at? hc, hn, htext⟩

/-- A tree between bounds has one span for each place that gets a comment. -/
theorem exists_ofTree_complete (hnodes : ∀ t ∈ root.preorder, Bounded text t.label) :
    ∃ spans found, ofTree text root = some spans
      ∧ List.Forall₂ (IsSpanAt text) ((Focus.places [] root).filter fun f => IsDocumentable f) found
      ∧ Sorting.StablySorted Span.start found spans := by
  have hbounded : ∀ c ∈ (Focus.visit root).filterMap at?,
      Bounded text c.name.label ∧ Bounded text c.anchor.label := by
    intro c hc
    obtain ⟨hname, hanchor⟩ := mem_preorder_of_mem_all hc
    exact ⟨hnodes _ hname, hnodes _ hanchor⟩
  obtain ⟨found, hfound, hall⟩ := exists_forall₂_isSpanAt hbounded
  rw [Focus.visit_eq_places] at hall
  refine ⟨_, found, ?_, hall, Sorting.stablySorted_sort Span.start found⟩
  rw [ofTree, Construct.all, hfound]
  rfl

/--
Where all nodes that are looked at begin and end at bounds of characters, there are spans exactly if
the script is read without faults in the language that was asked for or, where this is plain
JavaScript, with types and markup, which is tried only where plain JavaScript is at fault. Otherwise
it is told to be no script. The spans are those of the documentable places of the one tree that
counts, one for each in pre-order, stably sorted by their starts.
-/
theorem run_complete (path : Text)
    (hnodes : ∀ l' ∈ (run read text path l).languages, ∀ root faulty,
      read l' = .tree root faulty → ∀ t ∈ root.preorder, Bounded text t.label) :
    (run read text path l).languages
        = (if (read l).isFaulty ∧ l = .javaScript then [l, .tsx] else [l])
      ∧ ((∃ spans, (run read text path l).result = .ok spans) ↔
        (read l).isFaulty = false ∨ (l = .javaScript ∧ (read .tsx).isFaulty = false))
      ∧ ((∀ spans, (run read text path l).result ≠ .ok spans) →
        ∃ description, (run read text path l).result = .error (.malformed description))
      ∧ ∀ spans, (run read text path l).result = .ok spans →
        ∃ root found, Accepts read l root
          ∧ List.Forall₂ (IsSpanAt text)
            ((Focus.places [] root).filter fun f => IsDocumentable f) found
          ∧ Sorting.StablySorted Span.start found spans := by
  rw [run_languages] at hnodes ⊢
  have hchosen : ∀ root faulty, (choose read l).2.1 = .tree root faulty →
      ∀ t ∈ root.preorder, Bounded text t.label := by
    intro root faulty hroot
    obtain ⟨l', hl', hread⟩ := mem_languages_of_choose hroot
    exact hnodes l' hl' root faulty hread
  have hok : ∀ root, Accepts read l root → ∃ spans found,
      (run read text path l).result = .ok spans
        ∧ List.Forall₂ (IsSpanAt text)
          ((Focus.places [] root).filter fun f => IsDocumentable f) found
        ∧ Sorting.StablySorted Span.start found spans := by
    intro root hroot
    have hread := accepts_iff.mp hroot
    obtain ⟨spans, found, hspans, hall, hsorted⟩ := exists_ofTree_complete (hchosen root _ hread)
    exact ⟨spans, found, run_eq_of_ofTree path hread hspans, hall, hsorted⟩
  have hiff : (∃ spans, (run read text path l).result = .ok spans) ↔ ∃ root, Accepts read l root := by
    constructor
    · rintro ⟨spans, hspans⟩
      obtain ⟨root, hread, -⟩ := run_ok_cases hspans
      exact ⟨root, accepts_iff.mpr hread⟩
    · rintro ⟨root, hroot⟩
      obtain ⟨spans, -, hspans, -⟩ := hok root hroot
      exact ⟨spans, hspans⟩
  refine ⟨languages_choose, hiff.trans exists_accepts_iff, ?_, ?_⟩
  · intro hnone
    obtain ⟨description, hdescription⟩ := Fault.exists_describe hchosen
    refine ⟨description, run_malformed (fun root hroot => ?_) hdescription⟩
    obtain ⟨spans, -, hspans, -⟩ := hok root (accepts_iff.mpr hroot)
    exact hnone spans hspans
  · intro spans hspans
    obtain ⟨root, hread, hfound⟩ := run_ok_cases hspans
    obtain ⟨spans', found, hspans', hall, hsorted⟩ := hok root (accepts_iff.mpr hread)
    obtain rfl : spans' = spans := Except.ok.inj (hspans'.symm.trans hspans)
    exact ⟨root, found, accepts_iff.mpr hread, hall, hsorted⟩

/-- A function with a typed parameter, and an arrow function in it whose name takes two bytes. -/
def typed : Text := "function f(a: B) { let é = () => a }".toList

/-- Plain JavaScript is at fault there, and with types and markup there are two places that get a
comment. -/
theorem run_complete_typed :
    (∀ l' ∈ (ofText typed [] .javaScript).languages, ∀ root faulty,
        Reading.ofText typed l' = .tree root faulty → ∀ t ∈ root.preorder, Bounded typed t.label)
      ∧ (ofText typed [] .javaScript).languages = [.javaScript, .tsx]
      ∧ ∃ spans root found, (ofText typed [] .javaScript).result = .ok spans
        ∧ spans.map Span.name = [some "f".toList, some "é".toList]
        ∧ Accepts (Reading.ofText typed) .javaScript root
        ∧ List.Forall₂ (IsSpanAt typed)
          ((Focus.places [] root).filter fun f => IsDocumentable f) found
        ∧ Sorting.StablySorted Span.start found spans := by
  have hbounded : ∀ l' ∈ [Language.javaScript, .tsx],
      (l'.tree? typed).all (fun root => decide (∀ t ∈ root.preorder, Bounded typed t.label)) := by
    decide +kernel
  have hfound : (ofText typed [] .javaScript).result.toOption.map (List.map Span.name)
      = some [some "f".toList, some "é".toList] := by
    decide +kernel
  have hlanguages : (ofText typed [] .javaScript).languages = [.javaScript, .tsx] := by
    decide +kernel
  have hnodes : ∀ l' ∈ (ofText typed [] .javaScript).languages, ∀ root faulty,
      Reading.ofText typed l' = .tree root faulty →
        ∀ t ∈ root.preorder, Bounded typed t.label := by
    rw [hlanguages]
    intro l' hl' root faulty hroot
    have hall := hbounded l' hl'
    unfold Reading.ofText at hroot
    cases htree : l'.tree? typed with
    | none => simp [htree] at hroot
    | some root' =>
      rw [htree] at hroot hall
      cases hroot
      simpa using hall
  obtain ⟨-, -, -, hcomplete⟩ := run_complete [] hnodes
  cases hresult : (ofText typed [] .javaScript).result with
  | error e => simp [hresult, Except.toOption] at hfound
  | ok spans =>
    obtain ⟨root, found, hroot, hall, hsorted⟩ := hcomplete spans hresult
    rw [hresult] at hfound
    exact ⟨hnodes, hlanguages, spans, root, found, rfl, Option.some_inj.mp hfound, hroot, hall,
      hsorted⟩

end Extraction

end DocWeave
