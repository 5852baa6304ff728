import DocWeave.Proofs.Extraction.Runs
import DocWeave.Proofs.Script.Focus
import DocWeave.Proofs.Text.Boundary

/-!
# Where spans begin and end

The reader of scripts counts bytes, and spans are counted in characters. Where all nodes of a tree
begin and end at bounds of characters, the two agree.

* `top_anchor`, `child?_name` — the anchor of a construct is a node of the tree, and so is its name
* `span?_of_fits` — the span of a construct holds the characters whose bytes its anchor covers
* `run_offsets` — so there is no tree without faults for which there are no spans, and all its spans
  are such
-/

namespace DocWeave

open Script

/-! ## Constructs are parts of the tree -/

namespace Script.Focus

theorem top_exported (f : Focus) : f.exported.top = f.top := by
  unfold exported
  split
  · next p hp =>
    split
    · exact top_of_parent? hp
    · rfl
  · rfl

theorem top_declarationAnchor (f : Focus) : f.declarationAnchor.top = f.top := by
  unfold declarationAnchor
  split
  · rfl
  · next d hd =>
    simp only
    split
    · split
      · rw [top_exported, top_of_parent? hd]
      · rfl
    · rfl

/-- Going from sibling to sibling leads to no other tree. -/
theorem top_firstDecorator {parent : Label} {above : List Frame} {anchor : Focus} {tree : Tree}
    {after before : List Tree}
    (h : anchor.top = plug (.node parent (before.reverse ++ tree :: after)) above) :
    (firstDecorator parent above anchor tree after before).top = anchor.top := by
  induction before generalizing anchor tree after with
  | nil => rfl
  | cons c before ih =>
    have hstep : anchor.top = plug (.node parent (before.reverse ++ c :: tree :: after)) above := by
      rw [h, List.reverse_cons, List.append_assoc]
      rfl
    rw [firstDecorator]
    split
    · split
      · have hdecorator : Focus.top ⟨c, ⟨parent, before, tree :: after⟩ :: above⟩
            = plug (.node parent (before.reverse ++ c :: tree :: after)) above := rfl
        rw [ih hdecorator, hdecorator, hstep]
      · rfl
    · exact ih hstep

theorem top_decorated (f : Focus) : f.decorated.top = f.top := by
  obtain ⟨t, above⟩ := f
  cases above with
  | nil => rfl
  | cons fr above => exact top_firstDecorator rfl

end Script.Focus

namespace Construct

/-- A construct is named by a child of the node where it is found. Its anchor is found by one of three
rules, according to the kind of this node. -/
theorem at?_cases {f : Focus} {c : Construct} (h : at? f = some c) :
    f.tree.child? "name" = some c.name
      ∧ ((f.kind = "function_declaration" ∨ f.kind = "generator_function_declaration")
          ∧ c.anchor = f.exported
        ∨ f.kind = "variable_declarator" ∧ c.anchor = f.declarationAnchor
        ∨ f.kind = "method_definition" ∧ c.anchor = f.decorated) := by
  unfold at? at h
  split at h
  · next hkind =>
    obtain ⟨name, hname, rfl⟩ := Option.map_eq_some_iff.mp h
    exact ⟨hname, Or.inl ⟨hkind, rfl⟩⟩
  · split at h
    · next hkind =>
      split at h
      · next name value hname hvalue =>
        split at h
        · cases h
          exact ⟨hname, Or.inr (Or.inl ⟨hkind, rfl⟩)⟩
        · cases h
      · cases h
    · split at h
      · next hkind =>
        split at h
        · cases h
        · simp only at h
          split at h
          · next kind name hmethod hname =>
            cases h
            exact ⟨hname, Or.inr (Or.inr ⟨hkind, rfl⟩)⟩
          · cases h
      · cases h

/-- A construct is anchored in the tree where it is found. -/
theorem top_anchor_of_at? {f : Focus} {c : Construct} (h : at? f = some c) :
    c.anchor.top = f.top := by
  obtain ⟨-, ⟨-, hanchor⟩ | ⟨-, hanchor⟩ | ⟨-, hanchor⟩⟩ := at?_cases h
  · rw [hanchor, Focus.top_exported]
  · rw [hanchor, Focus.top_declarationAnchor]
  · rw [hanchor, Focus.top_decorated]

/-- The name and the anchor of a construct are nodes of the tree. -/
theorem mem_preorder_of_mem_all {root : Tree} {c : Construct} (h : c ∈ all root) :
    c.name ∈ root.preorder ∧ c.anchor.tree ∈ root.preorder := by
  obtain ⟨f, hf, hc⟩ := List.mem_filterMap.mp h
  have hname := (at?_cases hc).1
  have hanchor := top_anchor_of_at? hc
  have htop := Focus.top_of_mem_visit hf
  rw [htop] at hanchor
  constructor
  · rw [← htop]
    exact Focus.mem_preorder_top (Tree.child?_mem_preorder hname)
  · rw [← hanchor]
    exact Focus.mem_preorder_top c.anchor.tree.self_mem_preorder

/-! ## Bytes and characters -/

/-- A node begins and ends at bounds of characters, and does not end before it begins. -/
structure Fits (text : Text) (l : Label) : Prop where
  le : l.start.offset ≤ l.stop
  start : Utf8.IsBound text l.start.offset
  stop : Utf8.IsBound text l.stop

instance (text : Text) (l : Label) : Decidable (Fits text l) :=
  decidable_of_iff (l.start.offset ≤ l.stop ∧ Utf8.IsBound text l.start.offset
    ∧ Utf8.IsBound text l.stop)
    ⟨fun h => ⟨h.1, h.2.1, h.2.2⟩, fun h => ⟨h.le, h.start, h.stop⟩⟩

/-- In front of a bound, both ways of counting give the number of characters. -/
theorem index?_bound (a b : Text) : index? (a ++ b) (Utf8.byteLength a) = some a.length := by
  unfold index?
  split
  · next hascii => rw [Utf8.length_eq_of_ascii hascii]
  · exact Utf8.index?_bound a b

/-- A span from `start` to `stop` holds the characters whose bytes a node covers. -/
structure Covers (text : Text) (l : Label) (s : Span) (start stop : Nat) : Prop where
  start_eq : s.start = start
  stop_eq : s.stop = stop
  le : start ≤ stop
  stop_le : stop ≤ text.length
  slice : (text.drop start).take (stop - start) = s.text
  bytes : Encoding.encode s.text = ((Encoding.encode text).take l.stop).drop l.start.offset
  /-- The characters in front of the span are read from the bytes in front of the node. -/
  before : Encoding.decode ((Encoding.encode text).take l.start.offset) = .ok (text.take start)
  /-- The characters up to the end of the span are read from the bytes up to the end of the node. -/
  upTo : Encoding.decode ((Encoding.encode text).take l.stop) = .ok (text.take stop)

theorem drop_take_between (a m b : Text) :
    ((a ++ m ++ b).drop a.length).take ((a ++ m).length - a.length) = m := by
  rw [List.append_assoc, List.drop_left, List.length_append, Nat.add_sub_cancel_left,
    List.take_left]

/-- The text between two bounds is covered by a node that begins and ends there. -/
theorem covers_between {a m b : Text} {l : Label} {s : Span}
    (hstart : Utf8.byteLength a = l.start.offset) (hstop : Utf8.byteLength (a ++ m) = l.stop)
    (hs : s.start = a.length) (hs' : s.stop = (a ++ m).length) (htext : s.text = m) :
    Covers (a ++ m ++ b) l s a.length (a ++ m).length where
  start_eq := hs
  stop_eq := hs'
  le := by simp
  stop_le := by simp
  slice := by rw [drop_take_between, htext]
  bytes := by
    rw [← hstart, ← hstop, Utf8.take_encode, Utf8.drop_encode, htext]
  before := by
    rw [← hstart, List.append_assoc, Utf8.decode_take_encode, List.take_left]
  upTo := by
    rw [← hstop, Utf8.decode_take_encode, List.take_left]

/-- A construct whose nodes begin and end at bounds of characters has a span. -/
theorem span?_of_fits {text : Text} {c : Construct} (hname : Fits text c.name.label)
    (hanchor : Fits text c.anchor.label) :
    ∃ s start stop, span? text c = some s ∧ Covers text c.anchor.label s start stop := by
  obtain ⟨a', n, b', htext', hstart', hstop'⟩ :=
    Utf8.exists_split_of_isBound hname.le hname.start hname.stop
  have hslice : Utf8.slice? c.name.label.start.offset c.name.label.stop text = some n := by
    rw [htext', ← hstart', ← hstop', Utf8.slice?_bounds]
  obtain ⟨a, m, b, rfl, hstart, hstop⟩ :=
    Utf8.exists_split_of_isBound hanchor.le hanchor.start hanchor.stop
  have hfirst : index? (a ++ m ++ b) c.anchor.label.start.offset = some a.length := by
    rw [← hstart, List.append_assoc, index?_bound]
  have hlast : index? (a ++ m ++ b) c.anchor.label.stop = some (a ++ m).length := by
    rw [← hstop, index?_bound]
  let s : Span := {
    name := some n
    kind := c.kind
    text := ((a ++ m ++ b).drop a.length).take ((a ++ m).length - a.length)
    start := a.length
    stop := (a ++ m).length
    line := c.anchor.label.start.row + 1 }
  have hs : span? (a ++ m ++ b) c = some s := by
    unfold span?
    rw [hslice, hfirst, hlast]
    rfl
  exact ⟨s, _, _, hs, covers_between hstart hstop rfl rfl (drop_take_between a m b)⟩

end Construct

/-! ## All spans -/

namespace Extraction

open Construct

/-- Where a reader finds no faults and all its nodes begin and end at bounds of characters, there
are spans, and each holds the characters whose bytes the anchor of a construct covers. -/
theorem run_offsets {read : Language → Reading} {text : Text} {l : Language} {root : Tree}
    (path : Text) (hread : (choose read l).2.1 = .tree root false)
    (hnodes : ∀ t ∈ root.preorder, Fits text t.label) :
    ∃ spans, (run read text path l).result = .ok spans
      ∧ ∀ s ∈ spans, ∃ c ∈ Construct.all root, span? text c = some s
        ∧ ∃ start stop, Covers text c.anchor.label s start stop := by
  have hspan : ∀ c ∈ Construct.all root, ∃ s, span? text c = some s
      ∧ ∃ start stop, Covers text c.anchor.label s start stop := by
    intro c hc
    obtain ⟨hname, hanchor⟩ := mem_preorder_of_mem_all hc
    obtain ⟨s, start, stop, hs, hcovers⟩ := span?_of_fits (hnodes _ hname) (hnodes _ hanchor)
    exact ⟨s, hs, start, stop, hcovers⟩
  obtain ⟨spans, hspans, hall⟩ := exists_ofTree fun c hc => (hspan c hc).imp fun s hs => hs.1
  refine ⟨spans, run_eq_of_ofTree path hread hspans, ?_⟩
  intro s hs
  obtain ⟨c, hc, hcs⟩ := hall s hs
  obtain ⟨s', hs', hcovers⟩ := hspan c hc
  obtain rfl : s' = s := Option.some_inj.mp (hs'.symm.trans hcs)
  exact ⟨c, hc, hcs, hcovers⟩

/-- A function behind a character of two bytes. -/
def accented : Text := "é(); function f() {}".toList

/-- The tree that the grammar gives for it begins and ends all its nodes at bounds of characters. -/
theorem run_offsets_accented :
    ∃ root, (choose (Reading.ofText accented) .javaScript).2.1 = .tree root false
      ∧ (∀ t ∈ root.preorder, Fits accented t.label)
      ∧ ∃ spans, (ofText accented [] .javaScript).result = .ok spans
        ∧ ∀ s ∈ spans, ∃ c ∈ Construct.all root, span? accented c = some s
          ∧ ∃ start stop, Covers accented c.anchor.label s start stop := by
  have hfits : (Language.javaScript.tree? accented).any
      (fun root => decide (∀ t ∈ root.preorder, Fits accented t.label)) = true := by
    decide +kernel
  cases htree : Language.javaScript.tree? accented with
  | none => simp [htree] at hfits
  | some root =>
    have hread : (choose (Reading.ofText accented) .javaScript).2.1 = .tree root false := by
      simp [choose, Reading.ofText, htree, Reading.isFaulty]
    have hnodes : ∀ t ∈ root.preorder, Fits accented t.label := by
      simpa [htree] using hfits
    exact ⟨root, hread, hnodes, run_offsets [] hread hnodes⟩

end Extraction

end DocWeave
