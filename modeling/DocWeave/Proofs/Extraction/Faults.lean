import DocWeave.Proofs.Extraction.Complete
import DocWeave.Source

/-!
# What is said of a script that cannot be read

The description of a malformed script is that of the first node in pre-order that is missing or an
error. The tree is always that of the language which was asked for: where plain JavaScript is at
fault and so is the script with types and markup, nothing of the second tree is told.

* `isToken_iff` — what is shown of an error is the first line of its text between blanks, cut to
  forty characters
* `describe_of_malformed` — what is told is told of the reading in the language that was asked for
* `run_tells` — it tells of the first fault, behind the path of the script
-/

namespace DocWeave

open Script
open Blank (isBlank AllBlank)

namespace Script.Tree

/-- A node that is missing or an error. -/
def IsFault (t : Tree) : Prop := t.label.missing = true ∨ t.label.error = true

instance (t : Tree) : Decidable t.IsFault := inferInstanceAs (Decidable (_ ∨ _))

end Script.Tree

namespace Fault

/-! ## What is shown of an error -/

/-- The text `own` holds, between blanks, a first line and what is behind it; the token is what the
first forty characters of this line are. -/
inductive IsToken : Text → Text → Prop where
  | between {front line behind back : Text} (front_blank : AllBlank front)
      (back_blank : AllBlank back) (head : ∀ c ∈ (line ++ behind).head?, isBlank c = false)
      (last : ∀ c ∈ (line ++ behind).getLast?, isBlank c = false)
      (unbroken : ∀ c ∈ line, Lines.isBreak c = false)
      (broken : ∀ c ∈ behind.head?, Lines.isBreak c = true) :
      IsToken (front ++ (line ++ behind) ++ back) (line.take 40)

theorem first_append {line behind : Text} (hline : ∀ c ∈ line, Lines.isBreak c = false)
    (hbehind : ∀ c ∈ behind.head?, Lines.isBreak c = true) :
    Lines.first (line ++ behind) = line := by
  have hstop : behind.takeWhile (fun c => !Lines.isBreak c) = [] := by
    cases behind with
    | nil => rfl
    | cons c rest => rw [List.takeWhile_cons_of_neg (by simp [hbehind c rfl])]
  rw [Lines.first, List.takeWhile_append_of_pos fun c hc => by simp [hline c hc], hstop,
    List.append_nil]

/-- Of every text there is one token. -/
theorem isToken_iff {own token : Text} : IsToken own token ↔ token = firstLine own := by
  constructor
  · rintro ⟨hfront, hback, hhead, hlast, hline, hbehind⟩
    rw [firstLine, Blank.trim_between hfront hback hhead hlast, first_append hline hbehind]
  · rintro rfl
    obtain ⟨front, back, hfront, hback, hown⟩ := Blank.exists_append_trim own
    have hcut : Lines.first (Blank.trim own) ++ (Blank.trim own).dropWhile (fun c => !Lines.isBreak c)
        = Blank.trim own := List.takeWhile_append_dropWhile
    have hhead : ∀ c ∈ (Blank.trim own).head?, isBlank c = false := Blank.head?_trim
    have hlast : ∀ c ∈ (Blank.trim own).getLast?, isBlank c = false := Blank.getLast?_trimRight
    rw [← hcut] at hhead hlast
    have htoken := IsToken.between hfront hback hhead hlast
      (fun c hc => by simpa using List.all_eq_true.mp List.all_takeWhile c hc)
      (fun c hc => by
        have hbreak := List.head?_dropWhile_not (fun c => !Lines.isBreak c) (Blank.trim own)
        rw [Option.mem_def.mp hc] at hbreak
        simpa using hbreak)
    rw [hcut, ← hown] at htoken
    exact htoken

/-! ## Descriptions -/

/-- Where a node begins, by line and column, both counted from one. -/
def beginning (t : Tree) : Text :=
  " at line ".toList ++ (toString (t.label.start.row + 1)).toList ++ ", column ".toList
    ++ (toString (t.label.start.column + 1)).toList

/-- The description tells of the first fault of a tree in pre-order. -/
inductive Tells (text : Text) (root : Tree) : Text → Prop where
  | missing {front back : List Tree} {t : Tree} (split : root.preorder = front ++ t :: back)
      (sound : ∀ u ∈ front, ¬u.IsFault) (missing : t.label.missing = true) :
      Tells text root ("Missing ".toList ++ Printed.quoted t.kind.toList ++ beginning t)
  | unexpected {front back : List Tree} {t : Tree} {own token : Text}
      (split : root.preorder = front ++ t :: back) (sound : ∀ u ∈ front, ¬u.IsFault)
      (present : t.label.missing = false) (error : t.label.error = true)
      (bytes : Encoding.decode (((Encoding.encode text).take t.label.stop).drop
        t.label.start.offset) = .ok own)
      (token_own : IsToken own token) :
      Tells text root ("Unexpected token ".toList ++ Printed.quoted token ++ beginning t)
  | nowhere (sound : ∀ u ∈ root.preorder, ¬u.IsFault) : Tells text root "Syntax error".toList

variable {text : Text} {root t : Tree}

theorem at_position (t : Tree) : " at ".toList ++ position t.label.start = beginning t := by
  unfold position beginning
  generalize toString (t.label.start.row + 1) = row
  generalize toString (t.label.start.column + 1) = column
  simp

theorem ofNode?_eq_none_iff : ofNode? text t = none ↔ ¬t.IsFault := by
  unfold ofNode? Tree.IsFault
  split
  · next h => simp [h]
  · next h =>
    split
    · next h' => simp [h, h']
    · next h' => simp [h, h']

/-- The tree is searched in pre-order. -/
theorem findSome?_visit {α : Type} (g : Tree → Option α) (root : Tree) :
    ((Focus.visit root).findSome? fun f => g f.tree) = root.preorder.findSome? g := by
  rw [Focus.visit_eq_places, ← Focus.map_tree_places [] root, List.findSome?_map]
  rfl

/-- What is said of a tree whose nodes begin and end at bounds of characters is said of its first
fault. -/
theorem tells_of_describe {faulty : Bool} {description : Text}
    (hnodes : ∀ t ∈ root.preorder, Construct.Bounded text t.label)
    (h : describe text (.tree root faulty) = some description) : Tells text root description := by
  simp only [describe, findSome?_visit (ofNode? text) root] at h
  split at h
  · next message hfound =>
    subst h
    obtain ⟨front, t, back, hsplit, ht, hfront⟩ := List.findSome?_eq_some_iff.mp hfound
    have hsound : ∀ u ∈ front, ¬u.IsFault := fun u hu => ofNode?_eq_none_iff.mp (hfront u hu)
    unfold ofNode? at ht
    split at ht
    · next hmissing =>
      cases ht
      rw [List.append_assoc _ _ (position _), at_position]
      exact .missing hsplit hsound hmissing
    · next hpresent =>
      split at ht
      · next herror =>
        obtain ⟨hstart, hstop⟩ := hnodes t (by rw [hsplit]; simp)
        obtain ⟨own, hown, hbytes⟩ := Utf8.exists_slice?_of_isBound hstart hstop
        rw [hown] at ht
        cases ht
        simp only
        rw [List.append_assoc _ _ (position _), at_position]
        exact .unexpected hsplit hsound (by simpa using hpresent) herror hbytes
          (isToken_iff.mpr rfl)
      · cases ht
  · next hfound =>
    cases h
    exact .nowhere fun u hu => ofNode?_eq_none_iff.mp (List.findSome?_eq_none_iff.mp hfound u hu)

/-- Only of a tree without faults nothing is told but that it is wrong. -/
theorem Tells.eq_syntaxError_iff {description : Text} (h : Tells text root description) :
    description = "Syntax error".toList ↔ ∀ t ∈ root.preorder, ¬t.IsFault := by
  constructor
  · intro heq
    cases h with
    | missing => cases heq
    | unexpected => cases heq
    | nowhere sound => exact sound
  · intro hsound
    cases h with
    | @missing front back t split _ missing =>
      exact absurd (Or.inl missing) (hsound t (by rw [split]; simp))
    | @unexpected front back t own token split _ _ error =>
      exact absurd (Or.inr error) (hsound t (by rw [split]; simp))
    | nowhere => rfl

end Fault

namespace Extraction

variable {read : Language → Reading} {text path : Text} {l : Language} {root : Tree}

/-- What is told of a malformed script is told of its reading in the language asked for. -/
theorem describe_of_malformed {description : Text}
    (h : (run read text path l).result = .error (.malformed description)) :
    Fault.describe text (read l) = some description := by
  have hchosen : (choose read l).2.1 = read l ∨ ∃ root, (choose read l).2.1 = .tree root false := by
    unfold choose
    simp only
    split
    · split
      · exact Or.inl rfl
      · next htsx => exact Or.inr (isFaulty_eq_false_iff.mp (by simpa using htsx))
    · exact Or.inl rfl
  unfold run at h
  simp only at h
  split at h
  · split at h <;> cases h
  · next hfaulty =>
    have hown := hchosen.resolve_right fun ⟨root, hroot⟩ => hfaulty root hroot
    rw [hown] at h
    split at h
    · next message hmessage =>
      cases h
      exact hmessage
    · cases h

/-- The message about a malformed script begins with its path, if it has one. -/
theorem message_malformed (description path : Text) :
    (Source.Failure.script (.malformed description) path).message
      = if path = [] then description else path ++ ": ".toList ++ description := by
  show Source.inFile path description = _
  unfold Source.inFile
  cases path with
  | nil => simp
  | cons c path => simp

/-- A script that is refused as malformed, of whole characters, is told to be so by the first fault
of its tree in the language that was asked for, behind its path if it has one. -/
theorem run_tells {faulty : Bool} {description : Text} (hread : read l = .tree root faulty)
    (hnodes : ∀ t ∈ root.preorder, Construct.Bounded text t.label)
    (h : (run read text path l).result = .error (.malformed description)) :
    Fault.Tells text root description
      ∧ (description = "Syntax error".toList ↔ ∀ t ∈ root.preorder, ¬t.IsFault)
      ∧ (Source.Failure.script (.malformed description) path).message
        = if path = [] then description else path ++ ": ".toList ++ description := by
  have hdescribe := describe_of_malformed h
  rw [hread] at hdescribe
  have htells := Fault.tells_of_describe hnodes hdescribe
  exact ⟨htells, htells.eq_syntaxError_iff, message_malformed description path⟩

/-- A text that is at fault in its first line. -/
def stumbling : Text := "x = é é\ny ;".toList

/-- In plain JavaScript an error covers a blank and a line break, and something is missing behind
it. -/
def stumblingTree : Tree :=
  .node { kind := "program", start := {}, stop := 13 } [
    .node { kind := "ERROR", start := ⟨3, 0, 3⟩, stop := 11, error := true } [],
    .node { kind := ";", start := ⟨12, 1, 2⟩, stop := 12, missing := true } []]

/-- With types and markup, something is missing at once. -/
def stumblingReader : Language → Reading
  | .javaScript => .tree stumblingTree true
  | _ => .tree (.node { kind := "program", start := {}, stop := 0, missing := true } []) true

/-- What is told is the error in the first tree, by what is on its first line between blanks. -/
theorem run_tells_stumbling :
    let description := "Unexpected token 'é é' at line 1, column 4".toList
    (∀ t ∈ stumblingTree.preorder, Construct.Bounded stumbling t.label)
      ∧ (run stumblingReader stumbling "a.js".toList .javaScript).result
        = .error (.malformed description)
      ∧ Fault.Tells stumbling stumblingTree description
      ∧ (Source.Failure.script (.malformed description) "a.js".toList).message
        = "a.js: Unexpected token 'é é' at line 1, column 4".toList := by
  have hnodes : ∀ t ∈ stumblingTree.preorder, Construct.Bounded stumbling t.label := by
    decide +kernel
  have hresult : (run stumblingReader stumbling "a.js".toList .javaScript).result
      = .error (.malformed "Unexpected token 'é é' at line 1, column 4".toList) := by
    decide +kernel
  have hread : stumblingReader .javaScript = .tree stumblingTree true := rfl
  obtain ⟨htells, -, hmessage⟩ := run_tells hread hnodes hresult
  exact ⟨hnodes, hresult, htells, hmessage.trans (by decide +kernel)⟩

end Extraction

end DocWeave
