import DocWeave.Proofs.Extraction.Complete
import DocWeave.Proofs.Extraction.Offsets
import DocWeave.Proofs.Script.Nesting

/-!
# The reader of scripts

Whatever the grammars are, a tree that is read by them begins and ends all its nodes at bounds of
characters: a node begins where a lexeme begins and ends where one ends, and between these the text
is passed over one character after the other.

* `Cursor.At`, `State.Within` — the invariants of cursors and of readings
* `leads_of_mem_read` — every way to read a rule preserves them, and never goes back
* `fitting_ofText` — so the built-in reader gives no tree whose nodes do not fit the text
* `start_le_of_run` — and all spans that are found by it start in the text
-/

namespace DocWeave

open Construct (Fits)

/-- The nodes of all trees without faults that a reader gives fit the text. -/
def Fitting (reader : Reader) : Prop :=
  ∀ text l root, reader text l = .tree root false → ∀ t ∈ root.preorder, Fits text t.label

namespace Script

variable {text : Text}

/-! ## Cursors -/

/-- What the cursor has passed over and what it has not make up the text. -/
def Cursor.At (text : Text) (c : Cursor) : Prop :=
  ∃ front, text = front ++ c.rest ∧ Utf8.byteLength front = c.place.offset

/-- The second cursor stands in the text, and not in front of the first one. -/
structure Cursor.Passes (text : Text) (c d : Cursor) : Prop where
  at_ : d.At text
  le : c.place.offset ≤ d.place.offset

namespace Cursor

variable {c d e : Cursor}

theorem At.isBound (h : c.At text) : Utf8.IsBound text c.place.offset := by
  obtain ⟨front, htext, hlen⟩ := h
  exact ⟨front, c.rest, htext, hlen⟩

theorem At.refl (h : c.At text) : c.Passes text c := ⟨h, Nat.le_refl _⟩

theorem Passes.trans (h : c.Passes text d) (h' : d.Passes text e) : c.Passes text e :=
  ⟨h'.at_, Nat.le_trans h.le h'.le⟩

theorem At.next (h : c.At text) : c.Passes text c.next := by
  obtain ⟨front, htext, hlen⟩ := h
  unfold Cursor.next
  split
  · exact ⟨⟨front, htext, hlen⟩, Nat.le_refl _⟩
  · next rest hrest =>
    refine ⟨⟨front ++ ['\n'], ?_, ?_⟩, Nat.le_succ _⟩
    · rw [htext, hrest, List.append_assoc, List.singleton_append]
    · rw [Utf8.byteLength_append, hlen]
      rfl
  · next d rest _ hrest =>
    refine ⟨⟨front ++ [d], ?_, ?_⟩, Nat.le_add_right _ _⟩
    · rw [htext, hrest, List.append_assoc, List.singleton_append]
    · rw [Utf8.byteLength_append, hlen]
      rfl

theorem At.forward (h : c.At text) (n : Nat) : c.Passes text (forward n c) := by
  induction n generalizing c with
  | zero => exact h.refl
  | succ n ih => exact h.next.trans (ih h.next.at_)

theorem At.skipBlanks (h : c.At text) : c.Passes text c.skipBlanks := h.forward _

end Cursor

/-! ## Trees that have been read -/

/-- All nodes of the tree fit the text, and it does not end behind `limit`. -/
structure Tree.ReadUpTo (text : Text) (limit : Nat) (t : Tree) : Prop where
  fits : ∀ u ∈ t.preorder, Fits text u.label
  stop_le : t.label.stop ≤ limit

namespace Tree

variable {limit : Nat} {t : Tree}

theorem ReadUpTo.mono {limit' : Nat} (h : t.ReadUpTo text limit) (hle : limit ≤ limit') :
    t.ReadUpTo text limit' := ⟨h.fits, Nat.le_trans h.stop_le hle⟩

theorem ReadUpTo.self (h : t.ReadUpTo text limit) : Fits text t.label := h.fits t t.self_mem_preorder

/-- A node fits if it does so itself and its children do. -/
theorem readUpTo_node {l : Label} {cs : List Tree} (hl : Fits text l) (hstop : l.stop ≤ limit)
    (hcs : ∀ c ∈ cs, c.ReadUpTo text limit) : (node l cs).ReadUpTo text limit := by
  refine ⟨fun u hu => ?_, hstop⟩
  rcases mem_preorder_cases hu with rfl | ⟨c, hc, hu⟩
  · exact hl
  · exact (hcs c hc).fits u hu

theorem readUpTo_leaf {c d : Cursor} (kind : String) (hc : c.At text) (h : c.Passes text d) :
    (Cursor.leaf kind c d).ReadUpTo text d.place.offset :=
  readUpTo_node ⟨h.le, hc.isBound, h.at_.isBound⟩ (Nat.le_refl _) (by simp)

end Tree

/-- What is passed over are blanks and comments. -/
theorem Cursor.At.skip {c : Cursor} (h : c.At text) (n : Nat) {found : List Tree}
    (hfound : ∀ t ∈ found, t.ReadUpTo text c.place.offset) :
    c.Passes text (skip n c found).1
      ∧ ∀ t ∈ (skip n c found).2, t.ReadUpTo text (skip n c found).1.place.offset := by
  induction n generalizing c found with
  | zero => exact ⟨h.refl, hfound⟩
  | succ n ih =>
    have hblanks := h.skipBlanks
    have hfound' : ∀ t ∈ found, t.ReadUpTo text c.skipBlanks.place.offset :=
      fun t ht => (hfound t ht).mono hblanks.le
    rw [Cursor.skip]
    simp only
    split
    · next k _ =>
      have hcomment := hblanks.at_.forward k
      have hleaf := Tree.readUpTo_leaf "comment" hblanks.at_ hcomment
      obtain ⟨hpasses, hall⟩ := ih hcomment.at_ (List.forall_mem_cons.mpr
        ⟨hleaf, fun t ht => (hfound' t ht).mono hcomment.le⟩)
      exact ⟨hblanks.trans (hcomment.trans hpasses), hall⟩
    · exact ⟨hblanks, hfound'⟩

/-! ## Readings -/

/-- Where a reading has come to, and all that it has read so far, fits the text. -/
structure State.Within (text : Text) (s : State) : Prop where
  here : s.here.At text
  ahead : s.here.Passes text s.ahead
  pending : ∀ t ∈ s.pending, t.ReadUpTo text s.ahead.place.offset
  start : ∀ p ∈ s.start, Utf8.IsBound text p.offset ∧ p.offset ≤ s.here.place.offset
  items : ∀ t ∈ s.items, t.ReadUpTo text s.here.place.offset

/-- The second state is one of a reading that has not gone back since the first. -/
structure State.Leads (text : Text) (s t : State) : Prop where
  within : t.Within text
  le : s.here.place.offset ≤ t.here.place.offset

namespace State

variable {s t u : State}

theorem Within.refl (h : s.Within text) : s.Leads text s := ⟨h, Nat.le_refl _⟩

/-- Where an operand has ended and lines may end does not count. -/
theorem Within.flagged (h : s.Within text) {operandEnd breakable : Bool} :
    { s with operandEnd, breakable : State }.Within text :=
  ⟨h.here, h.ahead, h.pending, h.start, h.items⟩

theorem Leads.trans (h : s.Leads text t) (h' : t.Leads text u) : s.Leads text u :=
  ⟨h'.within, Nat.le_trans h.le h'.le⟩

theorem within_behind {c : Cursor} {start : Option Place} {items : List Tree} (breakable : Bool)
    (hc : c.At text) (hstart : ∀ p ∈ start, Utf8.IsBound text p.offset ∧ p.offset ≤ c.place.offset)
    (hitems : ∀ t ∈ items, t.ReadUpTo text c.place.offset) :
    (behind c start items breakable).Within text := by
  have hnone : ∀ t ∈ ([] : List Tree), t.ReadUpTo text c.place.offset := by simp
  obtain ⟨hpasses, hpending⟩ := hc.skip c.rest.length hnone
  exact ⟨hc, hpasses, hpending, hstart, hitems⟩

theorem within_initial (text : Text) : (initial text).Within text :=
  within_behind true ⟨[], rfl, rfl⟩ (by simp) (by simp)

/-- The start of the node that is being read is the first that there was. -/
theorem start_or {old : Option Place} {c d : Cursor} (hc : c.At text) (h : c.Passes text d)
    {limit : Nat} (hlimit : limit ≤ d.place.offset)
    (hold : ∀ p ∈ old, Utf8.IsBound text p.offset ∧ p.offset ≤ limit) :
    ∀ p ∈ old.or c.place, Utf8.IsBound text p.offset ∧ p.offset ≤ d.place.offset := by
  intro p hp
  cases old with
  | none =>
    obtain rfl : c.place = p := Option.some.inj hp
    exact ⟨hc.isBound, h.le⟩
  | some q =>
    obtain ⟨hbound, hle⟩ := hold p hp
    exact ⟨hbound, Nat.le_trans hle hlimit⟩

theorem Within.take? (h : s.Within text) {terminal : Terminal} (ht : s.take? terminal = some t) :
    s.Leads text t := by
  unfold State.take? at ht
  -- a lexeme begins where the reading has come to, or behind what is skipped in front of it
  split at ht
  · obtain ⟨n, -, rfl⟩ := Option.map_eq_some_iff.mp ht
    have hlexeme := h.here.forward n
    refine ⟨within_behind s.breakable hlexeme.at_ ?_ ?_, hlexeme.le⟩
    · exact start_or h.here hlexeme hlexeme.le h.start
    · exact fun i hi => (h.items i hi).mono hlexeme.le
  · obtain ⟨n, -, rfl⟩ := Option.map_eq_some_iff.mp ht
    have hlexeme := h.ahead.at_.forward n
    have hle := Nat.le_trans h.ahead.le hlexeme.le
    refine ⟨within_behind s.breakable hlexeme.at_ ?_ ?_, hle⟩
    · exact start_or h.ahead.at_ hlexeme hle h.start
    · exact List.forall_mem_append.mpr ⟨fun i hi => (h.pending i hi).mono hlexeme.le,
        fun i hi => (h.items i hi).mono hle⟩

theorem close_here (s outer : State) (kind : String) : (s.close outer kind).here = s.here := by
  unfold State.close
  split <;> rfl

/-- What has been read since `outer` becomes a node, which ends where the reading has come to. -/
theorem Within.close (h : s.Within text) {outer : State} (houter : outer.Within text)
    (hle : outer.here.place.offset ≤ s.here.place.offset) (kind : String) :
    outer.Leads text (s.close outer kind) := by
  refine ⟨?_, by rwa [close_here]⟩
  have hitems : ∀ i ∈ outer.items, i.ReadUpTo text s.here.place.offset :=
    fun i hi => (houter.items i hi).mono hle
  have hstart : ∀ p ∈ outer.start, Utf8.IsBound text p.offset ∧ p.offset ≤ s.here.place.offset :=
    fun p hp => (houter.start p hp).imp_right fun hp => Nat.le_trans hp hle
  unfold State.close
  split
  · exact ⟨h.here, h.ahead, h.pending, hstart, List.forall_mem_append.mpr ⟨h.items, hitems⟩⟩
  · next start heq =>
    obtain ⟨hbound, hstop⟩ := h.start start heq
    have hown : ∀ (inside : Tree → Bool), ∀ i ∈ (s.items.takeWhile inside).reverse,
        i.ReadUpTo text s.here.place.offset :=
      fun inside i hi => h.items i (List.takeWhile_subset inside (List.mem_reverse.mp hi))
    refine ⟨h.here, h.ahead, h.pending, ?_, ?_⟩
    · intro p hp
      cases hor : outer.start with
      | none =>
        rw [hor] at hp
        obtain rfl : start = p := Option.some.inj hp
        exact ⟨hbound, hstop⟩
      | some q =>
        rw [hor] at hp
        exact hstart p (hor ▸ hp)
    · refine List.forall_mem_cons.mpr ⟨?_, List.forall_mem_append.mpr ⟨?_, hitems⟩⟩
      · exact Tree.readUpTo_node ⟨hstop, hbound, h.here.isBound⟩ (Nat.le_refl _) (hown _)
      · exact fun i hi => h.items i (List.dropWhile_subset _ hi)

theorem Within.setField (h : s.Within text) (name : String) : s.Leads text (s.setField name) := by
  unfold State.setField
  split
  · next l cs rest heq =>
    have hall := h.items
    rw [heq, List.forall_mem_cons] at hall
    obtain ⟨hnode, hrest⟩ := hall
    obtain ⟨hle, hstart, hstop⟩ := hnode.self
    refine ⟨⟨h.here, h.ahead, h.pending, h.start, ?_⟩, Nat.le_refl _⟩
    refine List.forall_mem_cons.mpr ⟨⟨fun u hu => ?_, hnode.stop_le⟩, hrest⟩
    rcases List.mem_cons.mp hu with rfl | hu
    · exact ⟨hle, hstart, hstop⟩
    · exact hnode.fits u (List.mem_cons_of_mem _ hu)
  · exact h.refl

theorem Within.place? {e : LineEnd} {n : Nat} {c d : Cursor} {found found' : List Tree}
    (hc : c.At text) (hfound : ∀ t ∈ found, t.ReadUpTo text c.place.offset)
    (h : e.place? n c found = some (d, found')) :
    c.Passes text d ∧ ∀ t ∈ found', t.ReadUpTo text d.place.offset := by
  induction n generalizing c found with
  | zero => cases h
  | succ n ih =>
    rw [LineEnd.place?] at h
    split at h
    · cases h
      exact ⟨hc.refl, hfound⟩
    · simp only at h
      split at h
      · next k _ =>
        have hblanks := hc.skipBlanks
        have hcomment := hblanks.at_.forward k
        have hleaf := Tree.readUpTo_leaf "comment" hblanks.at_ hcomment
        have hle := Nat.le_trans hblanks.le hcomment.le
        obtain ⟨hpasses, hall⟩ := ih hcomment.at_ (List.forall_mem_cons.mpr
          ⟨hleaf, fun t ht => (hfound t ht).mono hle⟩) h
        exact ⟨hblanks.trans (hcomment.trans hpasses), hall⟩
      · cases h

theorem Within.endLine? (h : s.Within text) {typed : Bool} (ht : s.endLine? typed = some t) :
    s.Leads text t := by
  unfold State.endLine? at ht
  obtain ⟨⟨c, found⟩, hplace, rfl⟩ := Option.map_eq_some_iff.mp ht
  obtain ⟨hpasses, hfound⟩ := Within.place? h.here (by simp) hplace
  refine ⟨within_behind s.breakable hpasses.at_ ?_ ?_, hpasses.le⟩
  · exact fun p hp => (h.start p hp).imp_right fun hp => Nat.le_trans hp hpasses.le
  · exact List.forall_mem_append.mpr ⟨hfound, fun i hi => (h.items i hi).mono hpasses.le⟩

end State

namespace Rule

open State

variable {γ : Type} {g : Grammar γ} {s t : State}

theorem leads_iterate {step : State → List State}
    (hstep : ∀ s, s.Within text → ∀ t ∈ step s, s.Leads text t) (n : Nat) (hs : s.Within text) :
    s.Leads text (iterate step n s) := by
  induction n generalizing s with
  | zero => exact hs.refl
  | succ n ih =>
    rw [iterate]
    split
    · exact hs.refl
    · next t _ heq =>
      have ht := hstep s hs t (by rw [heq]; exact List.mem_cons_self)
      split
      · exact hs.refl
      · exact ht.trans (ih ht.within)

theorem leads_seq {step : Rule γ → State → List State}
    (hstep : ∀ r s, s.Within text → ∀ t ∈ step r s, s.Leads text t) (rules : List (Rule γ))
    {states : List State} (hstates : ∀ t ∈ states, s.Leads text t) :
    ∀ t ∈ rules.foldl (fun states r => states.flatMap (step r)) states, s.Leads text t := by
  induction rules generalizing states with
  | nil => exact hstates
  | cons r rules ih =>
    refine ih fun t ht => ?_
    obtain ⟨u, hu, ht⟩ := List.mem_flatMap.mp ht
    exact (hstates u hu).trans (hstep r u (hstates u hu).within t ht)

/-- Every way to read a rule goes on in the text, and all that is read fits it. -/
theorem leads_of_mem_read {n : Nat} {rule : Rule γ} (hs : s.Within text)
    (ht : t ∈ read g n rule s) : s.Leads text t := by
  -- the induction is on the fuel: every rule reads its parts with less of it
  induction n generalizing rule s t with
  | zero => cases ht
  | succ n ih =>
    rw [read.eq_def] at ht
    cases rule with
    | goal x => exact ih hs ht
    | token terminal => exact hs.take? (Option.mem_toList.mp ht)
    | seq rules =>
      refine leads_seq (fun r s hs t ht => ih hs ht) rules ?_ t ht
      exact List.forall_mem_singleton.mpr hs.refl
    | first rules =>
      simp only at ht
      generalize hfind : List.findSome? _ rules = found at ht
      cases found with
      | none => cases ht
      | some states =>
        obtain ⟨r, -, hr⟩ := List.exists_of_findSome?_eq_some hfind
        split at hr
        · cases hr
        · cases hr
          exact ih hs ht
    | either rules =>
      obtain ⟨r, -, ht⟩ := List.mem_flatMap.mp ht
      exact ih hs ht
    | many r =>
      obtain rfl := List.mem_singleton.mp ht
      exact leads_iterate (fun s hs t ht => ih hs ht) n hs
    | node kind r =>
      obtain ⟨u, hu, rfl⟩ := List.mem_map.mp ht
      have hinner : { s with start := none, items := [] : State }.Within text :=
        ⟨hs.here, hs.ahead, hs.pending, by simp, by simp⟩
      have hread := ih hinner hu
      exact hread.within.close hs hread.le kind
    | field name r =>
      obtain ⟨u, hu, rfl⟩ := List.mem_map.mp ht
      have hread := ih hs hu
      exact hread.trans (hread.within.setField name)
    | link below kind r =>
      simp only at ht
      split at ht
      · next newest older heq =>
        split at ht
        · obtain ⟨u, hu, rfl⟩ := List.mem_map.mp ht
          -- the newest item becomes the first one within the node, and the others stay outside
          have hitems := hs.items
          rw [heq, List.forall_mem_cons] at hitems
          obtain ⟨hnewest, holder⟩ := hitems
          have hstart := Nat.le_trans hnewest.self.le hnewest.stop_le
          have hinner : { s with start := some newest.label.start, items := [newest] : State }.Within
              text :=
            ⟨hs.here, hs.ahead, hs.pending,
              fun p hp => Option.some.inj hp ▸ ⟨hnewest.self.start, hstart⟩,
              List.forall_mem_singleton.mpr hnewest⟩
          have houter : { s with items := older : State }.Within text :=
            ⟨hs.here, hs.ahead, hs.pending, hs.start, holder⟩
          have hread := ih hinner hu
          have hclose := hread.within.close houter hread.le kind
          exact ⟨hclose.within, hclose.le⟩
        · cases ht
      · cases ht
    | ofKind kinds r => exact ih hs (List.mem_filter.mp ht).1
    | ahead r =>
      simp only at ht
      split at ht
      · cases ht
      · exact List.mem_singleton.mp ht ▸ hs.refl
    | absent r =>
      simp only at ht
      split at ht
      · exact List.mem_singleton.mp ht ▸ hs.refl
      · cases ht
    | operand r =>
      obtain ⟨u, hu, rfl⟩ := List.mem_map.mp ht
      have hread := ih hs hu
      exact ⟨hread.within.flagged, hread.le⟩
    | lineEnd => exact hs.endLine? (Option.mem_toList.mp ht)
    | unbroken joins =>
      simp only at ht
      split at ht
      · cases ht
      · exact List.mem_singleton.mp ht ▸ hs.refl
    | enclosed r =>
      obtain ⟨u, hu, rfl⟩ := List.mem_map.mp ht
      have hread := ih hs.flagged hu
      exact ⟨hread.within.flagged, hread.le⟩
    | exposed r =>
      obtain ⟨u, hu, rfl⟩ := List.mem_map.mp ht
      have hread := ih hs.flagged hu
      exact ⟨hread.within.flagged, hread.le⟩

end Rule

/-- All nodes of a tree that a grammar gives fit the text, whatever the grammar is. -/
theorem Grammar.fits_of_tree? {γ : Type} {g : Grammar γ} {goal : γ} {root : Tree}
    (h : g.tree? goal text = some root) : ∀ t ∈ root.preorder, Fits text t.label := by
  unfold Grammar.tree? at h
  split at h
  · cases h
  · next s _ heq =>
    have hread := Rule.leads_of_mem_read (State.within_initial text)
      (by rw [heq]; exact List.mem_cons_self)
    exact (hread.within.items root (List.mem_of_mem_head? h)).fits

end Script

/-! ## Readers -/

/-- The nodes of the trees that the built-in reader gives fit the text. -/
theorem fitting_ofText : Fitting Reading.ofText := by
  intro text l root h
  unfold Reading.ofText at h
  split at h
  · next root' htree =>
    cases h
    exact Script.Grammar.fits_of_tree? htree
  · cases h

/-- Where all nodes fit the text, all spans start in it. -/
theorem Extraction.start_le_of_run {reader : Reader} (hreader : Fitting reader) {text path : Text}
    {l : Script.Language} {spans : List Span}
    (h : (Extraction.run (reader text) text path l).result = .ok spans) :
    ∀ s ∈ spans, 0 ≤ s.start ∧ s.start ≤ text.length := by
  obtain ⟨root, hchoose, -⟩ := run_ok_cases h
  obtain ⟨l', -, hread⟩ := mem_languages_of_choose hchoose
  obtain ⟨spans', hspans, hcovers⟩ := run_offsets path hchoose (hreader text l' root hread)
  obtain rfl : spans' = spans := Except.ok.inj (hspans.symm.trans h)
  intro s hs
  obtain ⟨c, -, -, start, stop, hc⟩ := hcovers s hs
  have hstart := hc.start_eq
  have hle := hc.le
  have hstop := hc.stop_le
  omega

end DocWeave
