import DocWeave.Text.Blank
import DocWeave.Text.Lines

/-!
# Templates

A template is text with places to be filled in and choices between texts. It is filled in from
named bindings; what is filled in is never looked at again, so a binding cannot act as a template.

Written out, a place is a name or a quoted text in double braces, and a choice stands between tags
in braces with percent signs. A line break right behind a tag belongs to the tag, and so do the
blanks in front of a tag that is the first on its line. A last line break is dropped.
-/

namespace DocWeave.Prompt

/-! ## Templates and their bindings -/

/-- What can be filled in or asked about. -/
inductive Operand where
  | binding (name : Text)
  | literal (text : Text)
deriving DecidableEq, Inhabited

/-- What a choice depends on. -/
inductive Test where
  /-- The value is there and not empty. -/
  | filled (x : Operand)
  | same (x y : Operand)
deriving DecidableEq, Inhabited

/-- A template, from its first piece on. -/
inductive Template where
  | done
  | text (t : Text) (next : Template)
  | put (x : Operand) (next : Template)
  | choice (test : Test) (yes no next : Template)
deriving DecidableEq, Inhabited

/-- Names and what they stand for. A name can stand for nothing. -/
abbrev Bindings := List (Text × Option Text)

/-- A name that is bound to nothing at all. -/
structure Unbound where
  name : Text
deriving DecidableEq

/-- The value of an operand. -/
def Operand.value (env : Bindings) : Operand → Except Unbound (Option Text)
  | literal t => .ok (some t)
  | binding name =>
    match env.lookup name with
    | some v => .ok v
    | none => .error ⟨name⟩

/-- What is written for a value. -/
def shown (v : Option Text) : Text := v.getD "None".toList

def Test.holds (env : Bindings) : Test → Except Unbound Bool
  | filled x => (x.value env).map fun v => !(v.getD []).isEmpty
  | same x y => do return (← x.value env) == (← y.value env)

/-- The text that a template makes of its bindings. -/
def Template.fill (env : Bindings) : Template → Except Unbound Text
  | done => .ok []
  | text t next => (next.fill env).map (t ++ ·)
  | put x next => do
    let v ← x.value env
    return shown v ++ (← next.fill env)
  | choice test yes no next => do
    let t ← if ← test.holds env then yes.fill env else no.fill env
    return t ++ (← next.fill env)

/-! ## Reading templates -/

/-- A piece of a template as it is written. -/
inductive Piece where
  | text (t : Text)
  | put (x : Operand)
  | ifTag (test : Test)
  | elseTag
  | endTag

/-- The text in front of the first tag, the character after the tag's brace, and what follows. -/
def splitTag : Text → Option (Text × Char × Text)
  | [] => none
  | [_] => none
  | c :: d :: rest =>
    if c = '\x7b' ∧ (d = '\x7b' ∨ d = '%') then some ([], d, rest)
    else (splitTag (d :: rest)).map fun (front, kind, behind) => (c :: front, kind, behind)

/-- What a tag holds and what follows it. Quoted text does not end a tag. -/
def splitClose (close : Char) (quote : Option Char) : Text → Option (Text × Text)
  | [] => none
  | c :: rest =>
    match quote with
    | some q =>
      (splitClose close (if c = q then none else some q) rest).map fun (body, behind) =>
        (c :: body, behind)
    | none =>
      match c == close, rest with
      | true, '\x7d' :: behind => some ([], behind)
      | _, _ =>
        (splitClose close (if c = '\'' ∨ c = '"' then some c else none) rest).map
          fun (body, behind) => (c :: body, behind)

theorem splitTag_length {t front behind : Text} {kind : Char}
    (h : splitTag t = some (front, kind, behind)) : behind.length < t.length := by
  induction t generalizing front behind kind with
  | nil => simp [splitTag] at h
  | cons c rest ih =>
    cases rest with
    | nil => simp [splitTag] at h
    | cons d rest =>
      rw [splitTag] at h
      split at h
      · simp only [Option.some.injEq, Prod.mk.injEq] at h
        obtain ⟨-, -, rfl⟩ := h
        simp only [List.length_cons]
        omega
      · obtain ⟨⟨f, k, b⟩, hs, heq⟩ := Option.map_eq_some_iff.1 h
        simp only [Prod.mk.injEq] at heq
        obtain ⟨-, -, rfl⟩ := heq
        exact Nat.lt_succ_of_lt (ih hs)

theorem splitClose_length {close : Char} {quote : Option Char} {t body behind : Text}
    (h : splitClose close quote t = some (body, behind)) : behind.length < t.length := by
  induction t generalizing quote body behind with
  | nil => simp [splitClose] at h
  | cons c rest ih =>
    rw [splitClose.eq_def] at h
    dsimp only at h
    split at h
    · obtain ⟨⟨b, r⟩, hs, heq⟩ := Option.map_eq_some_iff.1 h
      simp only [Prod.mk.injEq] at heq
      obtain ⟨-, rfl⟩ := heq
      exact Nat.lt_succ_of_lt (ih hs)
    · split at h
      · simp only [Option.some.injEq, Prod.mk.injEq] at h
        obtain ⟨-, rfl⟩ := h
        simp only [List.length_cons]
        omega
      · obtain ⟨⟨b, r⟩, hs, heq⟩ := Option.map_eq_some_iff.1 h
        simp only [Prod.mk.injEq] at heq
        obtain ⟨-, rfl⟩ := heq
        exact Nat.lt_succ_of_lt (ih hs)

/-- A word of a tag. -/
inductive Word where
  | name (w : Text)
  | quoted (t : Text)
  | equals
deriving DecidableEq

def named (newestFirst : Text) : List Word :=
  if newestFirst.isEmpty then [] else [.name newestFirst.reverse]

/-- The words of a tag; `pending` is the word being read, newest character first. -/
def words (quote : Option Char) (pending : Text) : Text → Option (List Word)
  | [] => if quote.isSome then none else some (named pending)
  | c :: rest =>
    match quote with
    | some q =>
      if c = q then (words none [] rest).map (.quoted pending.reverse :: ·)
      else words quote (c :: pending) rest
    | none =>
      if c = '\'' ∨ c = '"' then (words (some c) [] rest).map (named pending ++ ·)
      else if c = '=' then (words none [] rest).map (named pending ++ .equals :: ·)
      else if Blank.isBlank c then (words none [] rest).map (named pending ++ ·)
      else words none (c :: pending) rest

def operand? : Word → Option Operand
  | .name w => some (.binding w)
  | .quoted t => some (.literal t)
  | .equals => none

/-- The tag that holds `body`. -/
def tag? (kind : Char) (body : Text) : Option Piece := do
  let ws ← words none [] body
  if kind = '%' then
    match ws with
    | [.name ['e', 'l', 's', 'e']] => some .elseTag
    | [.name ['e', 'n', 'd', 'i', 'f']] => some .endTag
    | [.name ['i', 'f'], x] => return .ifTag (.filled (← operand? x))
    | [.name ['i', 'f'], x, .equals, .equals, y] =>
      return .ifTag (.same (← operand? x) (← operand? y))
    | _ => none
  else
    match ws with
    | [x] => return .put (← operand? x)
    | _ => none

/-- Text in front of a tag without the blanks since the line began. -/
def stripLine (atLineStart : Bool) (t : Text) : Text :=
  let last := t.reverse.takeWhile (· != '\n')
  if (atLineStart || last.length < t.length) && last.all Blank.isBlank then
    t.take (t.length - last.length)
  else t

/-- The pieces of a text. -/
def pieces? (atLineStart : Bool) (t : Text) : Option (List Piece) :=
  match _ : splitTag t with
  | none => some [.text t]
  | some (front, kind, behind) =>
    match _ : splitClose (if kind = '%' then '%' else '\x7d') none behind with
    | none => none
    | some (body, rest) => do
      let tag ← tag? kind body
      if kind = '%' then
        let broken := rest.head? == some '\n'
        let more ← pieces? broken (if broken then rest.tail else rest)
        return .text (stripLine atLineStart front) :: tag :: more
      else
        let more ← pieces? false rest
        return .text front :: tag :: more
termination_by t.length
decreasing_by
  · have h1 := splitTag_length ‹splitTag t = some (front, kind, behind)›
    have h2 := splitClose_length ‹splitClose _ none behind = some (body, rest)›
    split
    · rw [List.length_tail]
      omega
    · omega
  · have h1 := splitTag_length ‹splitTag t = some (front, kind, behind)›
    have h2 := splitClose_length ‹splitClose _ none behind = some (body, rest)›
    omega

/--
What has been put together of a template, its end first. For every choice that is still open there
is the text for the case that the test fails, if it has been seen, and what follows the choice.
-/
structure Assembly where
  current : Template
  above : List (Option Template × Template)

/-- Puts a piece in front of what has been put together. -/
def Assembly.add? (a : Assembly) : Piece → Option Assembly
  | .text t => some { a with current := .text t a.current }
  | .put x => some { a with current := .put x a.current }
  | .endTag => some ⟨.done, (none, a.current) :: a.above⟩
  | .elseTag =>
    match a.above with
    | (none, next) :: above => some ⟨.done, (some a.current, next) :: above⟩
    | _ => none
  | .ifTag test =>
    match a.above with
    | (no, next) :: above => some ⟨.choice test a.current (no.getD .done) next, above⟩
    | [] => none

/-- The template that a text is, if its tags fit together. -/
def Template.ofText? (t : Text) : Option Template := do
  let lines := Lines.unify t
  let body := if lines.getLast? = some '\n' then lines.dropLast else lines
  let ps ← pieces? true body
  let a ← ps.reverse.foldlM (fun a p => a.add? p) (⟨.done, []⟩ : Assembly)
  if a.above.isEmpty then some a.current else none

end DocWeave.Prompt
