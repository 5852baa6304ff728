/-!
# Texts and their bytes

A text is a list of characters. Places in it are counted in characters by everything that edits a
text, and in bytes of its UTF-8 form by the reader of scripts; `Utf8.take?` and `Utf8.drop?` cut a
text at a byte and say `none` where the cut would fall inside a character.

* `Utf8.take?_append_drop?` — a cut loses nothing
* `Utf8.byteLength_eq_length_iff` — bytes and characters agree in number for ASCII texts alone
-/

namespace DocWeave

/-- A text, character by character. -/
abbrev Text := List Char

namespace Utf8

/-- The number of bytes of a text. -/
def byteLength : Text → Nat
  | [] => 0
  | c :: rest => c.utf8Size + byteLength rest

/-- The characters in the first `n` bytes. A text that is shorter is taken whole. -/
def take? : Nat → Text → Option Text
  | _, [] => some []
  | n, c :: rest =>
    if n = 0 then some []
    else if c.utf8Size ≤ n then (take? (n - c.utf8Size) rest).map (c :: ·)
    else none

/-- The characters behind the first `n` bytes. -/
def drop? : Nat → Text → Option Text
  | _, [] => some []
  | n, c :: rest =>
    if n = 0 then some (c :: rest)
    else if c.utf8Size ≤ n then drop? (n - c.utf8Size) rest
    else none

/-- The characters from byte `start` up to byte `stop`. -/
def slice? (start stop : Nat) (t : Text) : Option Text :=
  if stop ≤ start then some []
  else (drop? start t).bind (take? (stop - start))

/-- The number of characters in the first `n` bytes. -/
def index? (n : Nat) (t : Text) : Option Nat := (take? n t).map List.length

theorem take?_append_drop? {n : Nat} {t a b : Text} (ha : take? n t = some a)
    (hb : drop? n t = some b) : a ++ b = t := by
  induction t generalizing n a b with
  | nil => simp_all [take?, drop?]
  | cons c rest ih =>
    by_cases h0 : n = 0
    · simp_all [take?, drop?]
    · by_cases hc : c.utf8Size ≤ n
      · rw [take?, if_neg h0, if_pos hc] at ha
        rw [drop?, if_neg h0, if_pos hc] at hb
        obtain ⟨a', ha', rfl⟩ := Option.map_eq_some_iff.1 ha
        rw [List.cons_append, ih ha' hb]
      · simp [take?, h0, hc] at ha

theorem length_le_byteLength (t : Text) : t.length ≤ byteLength t := by
  induction t with
  | nil => exact Nat.le_refl _
  | cons c rest ih =>
    have := c.utf8Size_pos
    rw [byteLength, List.length_cons]
    omega

theorem byteLength_eq_length_iff (t : Text) :
    byteLength t = t.length ↔ ∀ c ∈ t, c.utf8Size = 1 := by
  induction t with
  | nil => simp [byteLength]
  | cons c rest ih =>
    have hc := c.utf8Size_pos
    have hr := length_le_byteLength rest
    have hs : byteLength (c :: rest) = c.utf8Size + byteLength rest := rfl
    rw [hs, List.length_cons, List.forall_mem_cons, ← ih]
    omega

end Utf8

end DocWeave
