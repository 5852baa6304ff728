import DocWeave.Proofs.Text.Bytes

/-!
# Bounds of characters

A place in the bytes of a text is a bound of characters if it is behind the bytes of some beginning
of the text. At bounds, texts and their bytes are cut alike.

* `take?_bound`, `drop?_bound`, `slice?_bounds` — cutting a text at a bound of characters never
  fails
* `decode_take_encode` — reading the bytes in front of a bound gives the characters in front of it
* `take?_eq_some_iff` — cutting the characters says what reading the bytes in front of any place
  says, also where that fails
* `length_eq_of_ascii` — where bytes and characters are as many, so they are in front of every bound
-/

namespace DocWeave.Utf8

/-! ## Bytes of joined texts -/

@[simp] theorem byteLength_nil : byteLength [] = 0 := rfl

@[simp] theorem byteLength_cons (c : Char) (t : Text) :
    byteLength (c :: t) = c.utf8Size + byteLength t := rfl

@[simp] theorem byteLength_append (a b : Text) :
    byteLength (a ++ b) = byteLength a + byteLength b := by
  induction a with
  | nil => simp
  | cons c a ih => rw [List.cons_append, byteLength_cons, byteLength_cons, ih, Nat.add_assoc]

theorem eq_nil_of_byteLength_eq_zero {t : Text} (h : byteLength t = 0) : t = [] := by
  have := length_le_byteLength t
  exact List.eq_nil_of_length_eq_zero (by omega)

/-! ## Cutting at a bound -/

theorem take?_bound (a b : Text) : take? (byteLength a) (a ++ b) = some a := by
  induction a with
  | nil => cases b <;> rfl
  | cons c a ih =>
    have := c.utf8Size_pos
    rw [List.cons_append, byteLength_cons, take?, if_neg (by omega), if_pos (by omega),
      Nat.add_sub_cancel_left, ih]
    rfl

theorem drop?_bound (a b : Text) : drop? (byteLength a) (a ++ b) = some b := by
  induction a with
  | nil => cases b <;> rfl
  | cons c a ih =>
    have := c.utf8Size_pos
    rw [List.cons_append, byteLength_cons, drop?, if_neg (by omega), if_pos (by omega),
      Nat.add_sub_cancel_left, ih]

theorem index?_bound (a b : Text) : index? (byteLength a) (a ++ b) = some a.length := by
  rw [index?, take?_bound]
  rfl

theorem slice?_bounds (a m b : Text) :
    slice? (byteLength a) (byteLength (a ++ m)) (a ++ m ++ b) = some m := by
  unfold slice?
  split
  · next h =>
    rw [byteLength_append] at h
    rw [eq_nil_of_byteLength_eq_zero (t := m) (by omega)]
  · rw [List.append_assoc, drop?_bound, byteLength_append, Nat.add_sub_cancel_left,
      Option.bind_some, take?_bound]

/-- The bytes in front of a bound are those of the characters in front of it. -/
theorem take_encode (a b : Text) :
    (Encoding.encode (a ++ b)).take (byteLength a) = Encoding.encode a := by
  rw [Encoding.encode_append, ← Encoding.length_encode, List.take_left]

theorem drop_encode (a b : Text) :
    (Encoding.encode (a ++ b)).drop (byteLength a) = Encoding.encode b := by
  rw [Encoding.encode_append, ← Encoding.length_encode, List.drop_left]

theorem decode_take_encode (a b : Text) :
    Encoding.decode ((Encoding.encode (a ++ b)).take (byteLength a)) = .ok a := by
  rw [take_encode, Encoding.decode_encode]

/-! ## Cutting anywhere -/

/-- No character is written with the first bytes of another one. -/
theorem encode_ne_take_encodeChar {c : Char} {n : Nat} (h0 : 0 < n) (hn : n < c.utf8Size)
    (a : Text) : Encoding.encode a ≠ (Encoding.encodeChar c).take n := by
  intro h
  have hlen : (Encoding.encode a).length = n := by
    rw [h, List.length_take, Encoding.length_encodeChar]
    omega
  cases a with
  | nil =>
    rw [Encoding.encode_nil, List.length_nil] at hlen
    omega
  | cons d a =>
    -- what was cut off makes the bytes of `c` from those of `d`
    have hall : Encoding.encode [c] = Encoding.encodeChar d
        ++ (Encoding.encode a ++ (Encoding.encodeChar c).drop n) := by
      rw [← List.append_assoc, ← Encoding.encode_cons, h, List.take_append_drop,
        Encoding.encode_cons, Encoding.encode_nil, List.append_nil]
    have hc : c = d := Encoding.head_eq_of_encode_eq hall
    rw [Encoding.encode_cons, List.length_append, Encoding.length_encodeChar, ← hc] at hlen
    omega

theorem take?_eq_some_iff_encode {n : Nat} {t a : Text} :
    take? n t = some a ↔ Encoding.encode a = (Encoding.encode t).take n := by
  induction t generalizing n a with
  | nil =>
    rw [take?, Encoding.encode_nil, List.take_nil, Encoding.encode_eq_nil_iff, Option.some_inj]
    exact eq_comm
  | cons c t ih =>
    rw [take?, Encoding.encode_cons, List.take_append, Encoding.length_encodeChar]
    by_cases h0 : n = 0
    · subst h0
      rw [if_pos rfl, Nat.zero_sub, List.take_zero, List.take_zero, List.append_nil,
        Encoding.encode_eq_nil_iff, Option.some_inj]
      exact eq_comm
    · rw [if_neg h0]
      by_cases hc : c.utf8Size ≤ n
      · have hwhole : (Encoding.encodeChar c).take n = Encoding.encodeChar c :=
          List.take_of_length_le (by rw [Encoding.length_encodeChar]; exact hc)
        rw [if_pos hc, hwhole, Option.map_eq_some_iff]
        constructor
        · rintro ⟨a', ha', rfl⟩
          rw [Encoding.encode_cons, ih.mp ha']
        · intro h
          cases a with
          | nil =>
            have hlen := congrArg List.length h
            have hpos := c.utf8Size_pos
            rw [Encoding.encode_nil, List.length_nil, List.length_append,
              Encoding.length_encodeChar] at hlen
            omega
          | cons d a =>
            obtain rfl : d = c := Encoding.head_eq_of_encode_eq h
            exact ⟨a, ih.mpr (List.append_cancel_left h), rfl⟩
      · have hrest : n - c.utf8Size = 0 := by omega
        rw [if_neg hc, hrest, List.take_zero, List.append_nil]
        constructor
        · intro h
          cases h
        · intro h
          exact absurd h (encode_ne_take_encodeChar (by omega) (by omega) a)

/-- Taking the characters in the first bytes of a text is reading these bytes. -/
theorem take?_eq_some_iff {n : Nat} {t a : Text} :
    take? n t = some a ↔ Encoding.decode ((Encoding.encode t).take n) = .ok a := by
  rw [take?_eq_some_iff_encode, Encoding.decode_eq_ok_iff]

theorem byteLength_of_take? {n : Nat} {t a : Text} (h : take? n t = some a) :
    byteLength a = min n (byteLength t) := by
  have hlen := congrArg List.length (take?_eq_some_iff_encode.mp h)
  rwa [List.length_take, Encoding.length_encode, Encoding.length_encode] at hlen

/-! ## Texts of one-byte characters -/

/-- Where bytes and characters are as many, every character takes one byte. -/
theorem length_eq_of_ascii {a b : Text} (h : byteLength (a ++ b) = (a ++ b).length) :
    byteLength a = a.length := by
  rw [byteLength_eq_length_iff] at h ⊢
  exact fun c hc => h c (List.mem_append_left b hc)

/-! ## Bounds in order -/

/-- The place behind the first `n` bytes is not inside a character. -/
def IsBound (t : Text) (n : Nat) : Prop := ∃ a b, t = a ++ b ∧ byteLength a = n

theorem prefix_of_take? {n : Nat} {t a : Text} (h : take? n t = some a) : a <+: t := by
  induction t generalizing n a with
  | nil =>
    cases h
    exact List.prefix_rfl
  | cons c t ih =>
    rw [take?] at h
    split at h
    · cases h
      exact List.nil_prefix
    · split at h
      · obtain ⟨a', ha', rfl⟩ := Option.map_eq_some_iff.mp h
        exact List.cons_prefix_cons.mpr ⟨rfl, ih ha'⟩
      · cases h

theorem isBound_iff {t : Text} {n : Nat} :
    IsBound t n ↔ n ≤ byteLength t ∧ (take? n t).isSome := by
  constructor
  · rintro ⟨a, b, rfl, rfl⟩
    exact ⟨by simp, by rw [take?_bound]; rfl⟩
  · rintro ⟨hn, hsome⟩
    obtain ⟨a, ha⟩ := Option.isSome_iff_exists.mp hsome
    obtain ⟨b, rfl⟩ := prefix_of_take? ha
    exact ⟨a, b, rfl, by rw [byteLength_of_take? ha]; omega⟩

instance (t : Text) (n : Nat) : Decidable (IsBound t n) := decidable_of_iff _ isBound_iff.symm

/-- Two bounds cut a text in three. -/
theorem exists_split_of_isBound {t : Text} {start stop : Nat} (h : start ≤ stop)
    (hstart : IsBound t start) (hstop : IsBound t stop) :
    ∃ a m b, t = a ++ m ++ b ∧ byteLength a = start ∧ byteLength (a ++ m) = stop := by
  obtain ⟨a, b, rfl, rfl⟩ := hstart
  obtain ⟨a', b', heq, rfl⟩ := hstop
  rcases List.append_eq_append_iff.mp heq with ⟨m, rfl, rfl⟩ | ⟨m, rfl, rfl⟩
  · exact ⟨a, m, b', (List.append_assoc a m b').symm, rfl, rfl⟩
  · -- the second bound is in front of the first, so that there is nothing between them
    rw [byteLength_append] at h
    obtain rfl : m = [] := eq_nil_of_byteLength_eq_zero (by omega)
    exact ⟨a', [], b, by simp, by simp, by simp⟩

/-- In front of more bytes there are no fewer characters. -/
theorem index?_mono {t : Text} {m n i j : Nat} (hi : index? m t = some i)
    (hj : index? n t = some j) (h : m ≤ n) : i ≤ j := by
  obtain ⟨a, ha, rfl⟩ := Option.map_eq_some_iff.mp hi
  obtain ⟨b, hb, rfl⟩ := Option.map_eq_some_iff.mp hj
  rcases List.prefix_or_prefix_of_prefix (prefix_of_take? ha) (prefix_of_take? hb) with hab | ⟨r, rfl⟩
  · exact hab.length_le
  · -- nothing can be in front of fewer bytes but not in front of more
    have hbytes := byteLength_of_take? ha
    rw [byteLength_append, byteLength_of_take? hb] at hbytes
    obtain rfl : r = [] := eq_nil_of_byteLength_eq_zero (by omega)
    simp

theorem exists_index?_of_isBound {t : Text} {n : Nat} (h : IsBound t n) :
    ∃ i, index? n t = some i := by
  obtain ⟨a, b, rfl, rfl⟩ := h
  exact ⟨a.length, index?_bound a b⟩

/-- Between two bounds, in whichever order, there are the characters that are read from the bytes
between them. -/
theorem exists_slice?_of_isBound {t : Text} {start stop : Nat} (hstart : IsBound t start)
    (hstop : IsBound t stop) :
    ∃ m, slice? start stop t = some m
      ∧ Encoding.decode (((Encoding.encode t).take stop).drop start) = .ok m := by
  by_cases h : start ≤ stop
  · obtain ⟨a, m, b, rfl, rfl, rfl⟩ := exists_split_of_isBound h hstart hstop
    exact ⟨m, slice?_bounds a m b, by rw [take_encode, drop_encode, Encoding.decode_encode]⟩
  · have hnone : ((Encoding.encode t).take stop).drop start = [] :=
      List.drop_eq_nil_of_le (by rw [List.length_take]; omega)
    exact ⟨[], by rw [slice?, if_pos (by omega)],
      by rw [hnone]; exact Encoding.decode_encode []⟩

end DocWeave.Utf8
