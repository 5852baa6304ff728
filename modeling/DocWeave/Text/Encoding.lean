import DocWeave.Text.CharClass
import DocWeave.Text.Printed

/-!
# Bytes of a text

A text is kept as the bytes of its UTF-8 form. Bytes that are no such form are refused, and the
refusal tells which bytes are at fault: those that can no more begin a character.

* `Encoding.decode_encode` — a text is read back from its bytes
-/

namespace DocWeave

abbrev Bytes := List UInt8

namespace Encoding

/-! ## Writing -/

/-- A byte behind the first one of a character: it holds six bits. -/
def tailByte (n : Nat) : UInt8 := UInt8.ofNat (0x80 + n % 64)

/-- The bytes of a character. -/
def encodeChar (c : Char) : Bytes :=
  let n := c.toNat
  if n < 0x80 then [UInt8.ofNat n]
  else if n < 0x800 then [UInt8.ofNat (0xc0 + n / 64), tailByte n]
  else if n < 0x10000 then [UInt8.ofNat (0xe0 + n / 4096), tailByte (n / 64), tailByte n]
  else
    [UInt8.ofNat (0xf0 + n / 262144), tailByte (n / 4096), tailByte (n / 64), tailByte n]

/-- The bytes of a text. Every text has some: none holds half of a surrogate pair, which has none. -/
def encode (t : Text) : Bytes := t.flatMap encodeChar

/-! ## Reading -/

inductive Reason where
  | start
  | continuation
  | ending
deriving DecidableEq

def Reason.words : Reason → String
  | start => "invalid start byte"
  | continuation => "invalid continuation byte"
  | ending => "unexpected end of data"

/-- Bytes that are at fault, from `start` up to `stop`. -/
structure Fault where
  first : UInt8
  start : Nat
  stop : Nat
  reason : Reason
deriving DecidableEq

def Fault.message (f : Fault) : Text :=
  let place :=
    if f.stop = f.start + 1 then
      "byte 0x".toList ++ Printed.hexDigits 2 f.first.toNat ++ " in position ".toList
        ++ (toString f.start).toList
    else ("bytes in position " ++ toString f.start ++ "-" ++ toString (f.stop - 1)).toList
  "'utf-8' codec can't decode ".toList ++ place ++ ": ".toList ++ f.reason.words.toList

/-- What a first byte says: how many bytes are to follow, within which bounds the next one lies, and
its own part of the character's number. -/
structure Lead where
  owed : Nat
  low : Nat
  high : Nat
  part : Nat

def lead? (b : Nat) : Option Lead :=
  if b < 0x80 then some ⟨0, 0x80, 0xbf, b⟩
  else if b < 0xc2 then none
  else if b < 0xe0 then some ⟨1, 0x80, 0xbf, b - 0xc0⟩
  else if b = 0xe0 then some ⟨2, 0xa0, 0xbf, 0⟩
  else if b = 0xed then some ⟨2, 0x80, 0x9f, 0xd⟩
  else if b < 0xf0 then some ⟨2, 0x80, 0xbf, b - 0xe0⟩
  else if b = 0xf0 then some ⟨3, 0x90, 0xbf, 0⟩
  else if b < 0xf4 then some ⟨3, 0x80, 0xbf, b - 0xf0⟩
  else if b = 0xf4 then some ⟨3, 0x80, 0x8f, 4⟩
  else none

/-- The end of a character, or how many of its bytes could be taken and why no more. -/
inductive Tail where
  | done (number : Nat) (rest : Bytes)
  | broken (taken : Nat) (reason : Reason)

/-- Takes the bytes that a character owes. -/
def takeTail (low high : Nat) : Nat → Nat → Nat → Bytes → Tail
  | _, 0, number, rest => .done number rest
  | taken, _ + 1, _, [] => .broken taken .ending
  | taken, owed + 1, number, b :: rest =>
    if low ≤ b.toNat ∧ b.toNat ≤ high then
      takeTail 0x80 0xbf (taken + 1) owed (64 * number + (b.toNat - 0x80)) rest
    else .broken taken .continuation

theorem length_le_of_takeTail {low high taken owed number n : Nat} {bytes rest : Bytes}
    (h : takeTail low high taken owed number bytes = .done n rest) :
    rest.length ≤ bytes.length := by
  induction bytes generalizing low high taken owed number with
  | nil =>
    cases owed with
    | zero => simp only [takeTail, Tail.done.injEq] at h; simp [h.2]
    | succ owed => simp [takeTail] at h
  | cons b bytes ih =>
    cases owed with
    | zero => simp only [takeTail, Tail.done.injEq] at h; simp [h.2]
    | succ owed =>
      rw [takeTail] at h
      split at h
      · have := ih h
        simp only [List.length_cons]
        omega
      · simp at h

/-- Reads bytes, the first of which is at `position`. -/
def decodeFrom (position : Nat) : Bytes → Except Fault Text
  | [] => .ok []
  | b :: rest =>
    match lead? b.toNat with
    | none => .error ⟨b, position, position + 1, .start⟩
    | some l =>
      match _h : takeTail l.low l.high 0 l.owed l.part rest with
      | .done n after => (decodeFrom (position + l.owed + 1) after).map (Char.ofNat n :: ·)
      | .broken taken reason => .error ⟨b, position, position + 1 + taken, reason⟩
termination_by bytes => bytes.length
decreasing_by
  have := length_le_of_takeTail _h
  simp only [List.length_cons]
  omega

def decode (bytes : Bytes) : Except Fault Text := decodeFrom 0 bytes

/-! ## There and back -/

theorem toNat_ofNat_of_lt {n : Nat} (h : n < 256) : (UInt8.ofNat n).toNat = n := by
  rw [UInt8.toNat_ofNat']
  omega

theorem takeTail_tailByte {low high taken owed number n : Nat} {rest : Bytes}
    (h : low ≤ 0x80 + n % 64 ∧ 0x80 + n % 64 ≤ high) :
    takeTail low high taken (owed + 1) number (tailByte n :: rest)
      = takeTail 0x80 0xbf (taken + 1) owed (64 * number + n % 64) rest := by
  have hn : (tailByte n).toNat = 0x80 + n % 64 := toNat_ofNat_of_lt (by omega)
  rw [takeTail, hn, if_pos h, Nat.add_sub_cancel_left]

theorem decodeFrom_cons {position : Nat} {b : UInt8} {rest : Bytes} {l : Lead} (n : Nat)
    (after : Bytes)
    (hl : lead? b.toNat = some l)
    (ht : takeTail l.low l.high 0 l.owed l.part rest = .done n after) :
    decodeFrom position (b :: rest)
      = (decodeFrom (position + l.owed + 1) after).map (Char.ofNat n :: ·) := by
  rw [decodeFrom, hl]
  simp only
  split
  · rename_i heq
    rw [ht] at heq
    simp only [Tail.done.injEq] at heq
    rw [← heq.1, ← heq.2]
  · rename_i heq
    rw [ht] at heq
    simp at heq

/-- The first byte of three says what the number of the character is a part of. -/
theorem lead?_of_three {n : Nat} (h₁ : 0x800 ≤ n) (h₂ : n < 0x10000)
    (h₃ : n < 0xd800 ∨ 0xdfff < n) :
    ∃ low high, lead? (0xe0 + n / 4096) = some ⟨2, low, high, n / 4096⟩
      ∧ low ≤ 0x80 + n / 64 % 64 ∧ 0x80 + n / 64 % 64 ≤ high := by
  have hq : n / 4096 < 16 := by omega
  generalize hk : n / 4096 = k at hq ⊢
  have : k = 0 ∨ k = 13 ∨ (k ≠ 0 ∧ k ≠ 13) := by omega
  rcases this with rfl | rfl | h
  · exact ⟨0xa0, 0xbf, rfl, by omega, by omega⟩
  · exact ⟨0x80, 0x9f, rfl, by omega, by omega⟩
  · refine ⟨0x80, 0xbf, ?_, by omega, by omega⟩
    unfold lead?
    rw [if_neg (by omega), if_neg (by omega), if_neg (by omega), if_neg (by omega),
      if_neg (by omega), if_pos (by omega), Nat.add_sub_cancel_left]

theorem lead?_of_four {n : Nat} (h₁ : 0x10000 ≤ n) (h₂ : n < 0x110000) :
    ∃ low high, lead? (0xf0 + n / 262144) = some ⟨3, low, high, n / 262144⟩
      ∧ low ≤ 0x80 + n / 4096 % 64 ∧ 0x80 + n / 4096 % 64 ≤ high := by
  have hq : n / 262144 < 5 := by omega
  generalize hk : n / 262144 = k at hq ⊢
  have : k = 0 ∨ k = 4 ∨ (0 < k ∧ k < 4) := by omega
  rcases this with rfl | rfl | h
  · exact ⟨0x90, 0xbf, rfl, by omega, by omega⟩
  · exact ⟨0x80, 0x8f, rfl, by omega, by omega⟩
  · refine ⟨0x80, 0xbf, ?_, by omega, by omega⟩
    unfold lead?
    rw [if_neg (by omega), if_neg (by omega), if_neg (by omega), if_neg (by omega),
      if_neg (by omega), if_neg (by omega), if_neg (by omega), if_pos (by omega),
      Nat.add_sub_cancel_left]

theorem decodeFrom_encodeChar (c : Char) (position : Nat) (rest : Bytes) :
    decodeFrom position (encodeChar c ++ rest)
      = (decodeFrom (position + (encodeChar c).length) rest).map (c :: ·) := by
  have hc : c.toNat < 0xd800 ∨ 0xdfff < c.toNat ∧ c.toNat < 0x110000 := c.valid
  have hback : Char.ofNat c.toNat = c := Char.ofNat_toNat c
  unfold encodeChar
  simp only
  split
  · rename_i h
    have hl : lead? (UInt8.ofNat c.toNat).toNat = some ⟨0, 0x80, 0xbf, c.toNat⟩ := by
      rw [toNat_ofNat_of_lt (by omega), lead?, if_pos h]
    rw [List.singleton_append, decodeFrom_cons c.toNat rest hl rfl, hback]
    rfl
  · split
    · have hl : lead? (UInt8.ofNat (0xc0 + c.toNat / 64)).toNat
          = some ⟨1, 0x80, 0xbf, c.toNat / 64⟩ := by
        rw [toNat_ofNat_of_lt (by omega), lead?, if_neg (by omega), if_neg (by omega),
          if_pos (by omega), Nat.add_sub_cancel_left]
      rw [List.cons_append, decodeFrom_cons c.toNat rest hl, hback]
      · rfl
      · simp only [List.cons_append, List.nil_append]
        rw [takeTail_tailByte (by omega), takeTail, show
          64 * (c.toNat / 64) + c.toNat % 64 = c.toNat by omega]
    · split
      · obtain ⟨low, high, hl, hlow, hhigh⟩ := lead?_of_three (n := c.toNat) (by omega) (by omega)
          (by omega)
        rw [← toNat_ofNat_of_lt (n := 0xe0 + c.toNat / 4096) (by omega)] at hl
        rw [List.cons_append, decodeFrom_cons c.toNat rest hl, hback]
        · rfl
        · simp only [List.cons_append, List.nil_append]
          rw [takeTail_tailByte ⟨hlow, hhigh⟩, takeTail_tailByte (by omega), takeTail, show
            64 * (64 * (c.toNat / 4096) + c.toNat / 64 % 64) + c.toNat % 64 = c.toNat by omega]
      · obtain ⟨low, high, hl, hlow, hhigh⟩ := lead?_of_four (n := c.toNat) (by omega) (by omega)
        rw [← toNat_ofNat_of_lt (n := 0xf0 + c.toNat / 262144) (by omega)] at hl
        rw [List.cons_append, decodeFrom_cons c.toNat rest hl, hback]
        · rfl
        · simp only [List.cons_append, List.nil_append]
          rw [takeTail_tailByte ⟨hlow, hhigh⟩, takeTail_tailByte (by omega),
            takeTail_tailByte (by omega), takeTail, show
            64 * (64 * (64 * (c.toNat / 262144) + c.toNat / 4096 % 64) + c.toNat / 64 % 64)
              + c.toNat % 64 = c.toNat by omega]

theorem decode_encode (t : Text) : decode (encode t) = .ok t := by
  have h (position : Nat) : decodeFrom position (encode t) = .ok t := by
    induction t generalizing position with
    | nil => simp [encode, decodeFrom]
    | cons c rest ih =>
      rw [encode, List.flatMap_cons, decodeFrom_encodeChar]
      rw [show rest.flatMap encodeChar = encode rest from rfl, ih]
      rfl
  exact h 0

end Encoding

end DocWeave
