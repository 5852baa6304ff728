import DocWeave.Text.Encoding

/-!
# Bytes that are read

* `encode_of_decode` — bytes that can be read are the bytes of the text that is read from them, so
  that no two rows of bytes stand for one text
* `decode_eq_ok_iff` — so reading and writing undo each other wherever reading succeeds
* `length_encode` — the bytes of a text are as many as its characters take
* `mem_encode_iff` — a character of one byte stands in a text exactly if its byte stands among the
  bytes; no byte of a longer character can be taken for it
-/

namespace DocWeave.Encoding

/-! ## Written bytes -/

@[simp] theorem encode_nil : encode [] = [] := rfl

@[simp] theorem encode_cons (c : Char) (t : Text) :
    encode (c :: t) = encodeChar c ++ encode t := rfl

@[simp] theorem encode_append (a b : Text) : encode (a ++ b) = encode a ++ encode b :=
  List.flatMap_append

theorem length_encodeChar (c : Char) : (encodeChar c).length = c.utf8Size := by
  have hval : c.val.toNat = c.toNat := rfl
  unfold encodeChar Char.utf8Size
  simp only [UInt32.le_iff_toNat_le, hval, UInt32.toNat_ofNatLT]
  -- both tell by the same bounds how many bytes there are
  by_cases h₁ : c.toNat < 0x80
  · rw [if_pos h₁, if_pos (show c.toNat ≤ 127 by omega)]
    rfl
  · rw [if_neg h₁, if_neg (show ¬ c.toNat ≤ 127 by omega)]
    by_cases h₂ : c.toNat < 0x800
    · rw [if_pos h₂, if_pos (show c.toNat ≤ 2047 by omega)]
      rfl
    · rw [if_neg h₂, if_neg (show ¬ c.toNat ≤ 2047 by omega)]
      by_cases h₃ : c.toNat < 0x10000
      · rw [if_pos h₃, if_pos (show c.toNat ≤ 65535 by omega)]
        rfl
      · rw [if_neg h₃, if_neg (show ¬ c.toNat ≤ 65535 by omega)]
        rfl

theorem length_encode (t : Text) : (encode t).length = Utf8.byteLength t := by
  induction t with
  | nil => rfl
  | cons c t ih =>
    rw [encode_cons, List.length_append, length_encodeChar, ih]
    rfl

theorem encodeChar_of_lt {c : Char} (h : c.toNat < 0x80) :
    encodeChar c = [UInt8.ofNat c.toNat] := by
  rw [encodeChar, if_pos h]

/-- Every byte of a character that takes more than one is one that no character is written with
alone. -/
theorem le_of_mem_encodeChar {c : Char} {b : UInt8} (h : 0x80 ≤ c.toNat) (hb : b ∈ encodeChar c) :
    0x80 ≤ b.toNat := by
  have hc : c.toNat < 0xd800 ∨ 0xdfff < c.toNat ∧ c.toNat < 0x110000 := c.valid
  have hlead {n : Nat} (h₁ : 0x80 ≤ n) (h₂ : n < 256) : 0x80 ≤ (UInt8.ofNat n).toNat := by
    rwa [toNat_ofNat_of_lt h₂]
  have htail (n : Nat) : 0x80 ≤ (tailByte n).toNat := hlead (by omega) (by omega)
  rw [encodeChar, if_neg (by omega)] at hb
  split at hb
  · simp only [List.mem_cons, List.not_mem_nil, or_false] at hb
    rcases hb with rfl | rfl
    · exact hlead (by omega) (by omega)
    · exact htail _
  · split at hb <;> simp only [List.mem_cons, List.not_mem_nil, or_false] at hb
    · rcases hb with rfl | rfl | rfl
      · exact hlead (by omega) (by omega)
      · exact htail _
      · exact htail _
    · rcases hb with rfl | rfl | rfl | rfl
      · exact hlead (by omega) (by omega)
      · exact htail _
      · exact htail _
      · exact htail _

theorem ofNat_toNat_mem_encodeChar_iff {c d : Char} (hc : c.toNat < 0x80) :
    UInt8.ofNat c.toNat ∈ encodeChar d ↔ c = d := by
  by_cases hd : d.toNat < 0x80
  · rw [encodeChar_of_lt hd, List.mem_singleton, ← UInt8.toNat_inj, toNat_ofNat_of_lt (by omega),
      toNat_ofNat_of_lt (by omega), Char.toNat_inj]
  · constructor
    · intro hmem
      have := le_of_mem_encodeChar (by omega) hmem
      rw [toNat_ofNat_of_lt (by omega)] at this
      omega
    · rintro rfl
      exact absurd hc hd

theorem mem_encode_iff {c : Char} {t : Text} (hc : c.toNat < 0x80) :
    UInt8.ofNat c.toNat ∈ encode t ↔ c ∈ t := by
  rw [encode, List.mem_flatMap]
  constructor
  · rintro ⟨d, hd, hmem⟩
    rw [(ofNat_toNat_mem_encodeChar_iff hc).mp hmem]
    exact hd
  · intro hmem
    exact ⟨c, hmem, (ofNat_toNat_mem_encodeChar_iff hc).mpr rfl⟩

/-! ## Read bytes -/

theorem takeTail_succ_cases {low high taken owed number n : Nat} {bytes after : Bytes}
    (h : takeTail low high taken (owed + 1) number bytes = .done n after) :
    ∃ b rest, bytes = b :: rest ∧ low ≤ b.toNat ∧ b.toNat ≤ high
      ∧ takeTail 0x80 0xbf (taken + 1) owed (64 * number + (b.toNat - 0x80)) rest
        = .done n after := by
  cases bytes with
  | nil => cases h
  | cons b rest =>
    rw [takeTail] at h
    split at h
    · next hb => exact ⟨b, rest, rfl, hb.1, hb.2, h⟩
    · cases h

theorem takeTail_zero_cases {low high taken number n : Nat} {bytes after : Bytes}
    (h : takeTail low high taken 0 number bytes = .done n after) : n = number ∧ after = bytes := by
  rw [takeTail] at h
  cases h
  exact ⟨rfl, rfl⟩

/-- What a first byte says lies within the bounds in which no character has two forms, and no number
that is not one of a character has any. -/
theorem lead?_cases {b : Nat} {l : Lead} (h : lead? b = some l) :
    (l.owed = 0 ∧ b < 0x80 ∧ l.part = b)
      ∨ (l.owed = 1 ∧ b = 0xc0 + l.part ∧ 2 ≤ l.part ∧ l.part < 32 ∧ 0x80 ≤ l.low ∧ l.high ≤ 0xbf)
      ∨ (l.owed = 2 ∧ b = 0xe0 + l.part ∧ l.part < 16 ∧ 0x80 ≤ l.low ∧ l.high ≤ 0xbf
        ∧ (l.part = 0 → 0xa0 ≤ l.low) ∧ (l.part = 13 → l.high ≤ 0x9f))
      ∨ (l.owed = 3 ∧ b = 0xf0 + l.part ∧ l.part < 5 ∧ 0x80 ≤ l.low ∧ l.high ≤ 0xbf
        ∧ (l.part = 0 → 0x90 ≤ l.low) ∧ (l.part = 4 → l.high ≤ 0x8f)) := by
  unfold lead? at h
  repeat' split at h
  all_goals cases h
  all_goals dsimp only
  all_goals omega

theorem tailByte_eq {n : Nat} {b : UInt8} (h : 0x80 + n % 64 = b.toNat) : tailByte n = b := by
  rw [tailByte, h, UInt8.ofNat_toNat]

theorem toNat_ofNat_char {n : Nat} (h : n < 0xd800 ∨ 0xdfff < n ∧ n < 0x110000) :
    (Char.ofNat n).toNat = n := by
  have hv : n.isValidChar := h
  unfold Char.ofNat
  rw [dif_pos hv]
  rfl

theorem ofNat_eq {n : Nat} {b : UInt8} (h : n = b.toNat) : UInt8.ofNat n = b := by
  rw [h, UInt8.ofNat_toNat]

/-- A character that has been read is written as it was read. -/
theorem encodeChar_of_takeTail {b : UInt8} {l : Lead} {n : Nat} {rest after : Bytes}
    (hl : lead? b.toNat = some l)
    (ht : takeTail l.low l.high 0 l.owed l.part rest = .done n after) :
    encodeChar (Char.ofNat n) ++ after = b :: rest := by
  obtain ⟨owed, low, high, part⟩ := l
  -- in each case the bounds put the number into the range that is written with as many bytes
  rcases lead?_cases hl with ⟨ho, hb, hp⟩ | ⟨ho, hb, h2, h32, hlow, hhigh⟩
    | ⟨ho, hb, h16, hlow, hhigh, h0, h13⟩ | ⟨ho, hb, h5, hlow, hhigh, h0, h4⟩
  · cases ho
    obtain ⟨hn, rfl⟩ := takeTail_zero_cases ht
    simp only at hb hp hn
    rw [encodeChar, toNat_ofNat_char (by omega)]
    rw [if_pos (by omega), ofNat_eq (b := b) (by omega)]
    rfl
  · cases ho
    obtain ⟨b₁, r₁, rfl, h₁, h₁', ht⟩ := takeTail_succ_cases ht
    obtain ⟨hn, rfl⟩ := takeTail_zero_cases ht
    simp only at hb h2 h32 hlow hhigh h₁ h₁' hn
    rw [encodeChar, toNat_ofNat_char (by omega)]
    rw [if_neg (by omega), if_pos (by omega), ofNat_eq (b := b) (by omega),
      tailByte_eq (b := b₁) (by omega)]
    rfl
  · cases ho
    obtain ⟨b₁, r₁, rfl, h₁, h₁', ht⟩ := takeTail_succ_cases ht
    obtain ⟨b₂, r₂, rfl, h₂, h₂', ht⟩ := takeTail_succ_cases ht
    obtain ⟨hn, rfl⟩ := takeTail_zero_cases ht
    simp only at hb h16 hlow hhigh h0 h13 h₁ h₁' hn
    rw [encodeChar, toNat_ofNat_char (by omega)]
    rw [if_neg (by omega), if_neg (by omega), if_pos (by omega), ofNat_eq (b := b) (by omega),
      tailByte_eq (b := b₁) (by omega), tailByte_eq (b := b₂) (by omega)]
    rfl
  · cases ho
    obtain ⟨b₁, r₁, rfl, h₁, h₁', ht⟩ := takeTail_succ_cases ht
    obtain ⟨b₂, r₂, rfl, h₂, h₂', ht⟩ := takeTail_succ_cases ht
    obtain ⟨b₃, r₃, rfl, h₃, h₃', ht⟩ := takeTail_succ_cases ht
    obtain ⟨hn, rfl⟩ := takeTail_zero_cases ht
    simp only at hb h5 hlow hhigh h0 h4 h₁ h₁' hn
    rw [encodeChar, toNat_ofNat_char (by omega)]
    rw [if_neg (by omega), if_neg (by omega), if_neg (by omega), ofNat_eq (b := b) (by omega),
      tailByte_eq (b := b₁) (by omega), tailByte_eq (b := b₂) (by omega),
      tailByte_eq (b := b₃) (by omega)]
    rfl

theorem encode_of_decodeFrom {position : Nat} {bytes : Bytes} {t : Text}
    (h : decodeFrom position bytes = .ok t) : encode t = bytes := by
  fun_induction decodeFrom position bytes generalizing t with
  | case1 => cases h; rfl
  | case2 => cases h
  | case3 position b rest l hl n after ht ih =>
    cases hd : decodeFrom (position + l.owed + 1) after with
    | error f => simp [hd, Except.map] at h
    | ok more =>
      simp only [hd, Except.map, Except.ok.injEq] at h
      rw [← h, encode_cons, ih hd]
      exact encodeChar_of_takeTail hl ht
  | case4 => cases h

/-- Bytes that can be read are the bytes of the text that is read from them. -/
theorem encode_of_decode {bytes : Bytes} {t : Text} (h : decode bytes = .ok t) : encode t = bytes :=
  encode_of_decodeFrom h

/-- Bytes are read as a text exactly if they are its bytes. -/
theorem decode_eq_ok_iff {bytes : Bytes} {t : Text} : decode bytes = .ok t ↔ encode t = bytes := by
  constructor
  · exact encode_of_decode
  · rintro rfl
    exact decode_encode t

theorem encode_inj {a b : Text} : encode a = encode b ↔ a = b := by
  constructor
  · intro h
    have hdecode := decode_encode b
    rw [← h, decode_encode] at hdecode
    exact Except.ok.inj hdecode
  · rintro rfl
    rfl

theorem encode_eq_nil_iff {t : Text} : encode t = [] ↔ t = [] := encode_inj (b := [])

/-- What bytes begin with is told by the first character that they are read as. -/
theorem head_eq_of_encode_eq {c d : Char} {a : Text} {rest : Bytes}
    (h : encode (d :: a) = encodeChar c ++ rest) : d = c := by
  have hdecode := decode_encode (d :: a)
  rw [h, decode, decodeFrom_encodeChar] at hdecode
  cases hrest : decodeFrom (0 + (encodeChar c).length) rest with
  | error e =>
    rw [hrest] at hdecode
    cases hdecode
  | ok more =>
    rw [hrest] at hdecode
    cases hdecode
    rfl

end DocWeave.Encoding
