/-!
# Results

What has come of a computation tells what has come of its parts: of steps one behind the other
(`exists_of_bind_eq_ok`), of a result with a state next to it (`eq_of_map_eq_ok`,
`eq_of_map_eq_error`), and of a row of which every member has a result of its own. A row comes to all
results in order (`mapM_eq_ok`), or to the first failure in order (`mapM_eq_error`).
-/

namespace DocWeave

variable {ε σ α β : Type}

/-! ## Steps -/

/-- What goes on behind a step that has come to a result. -/
theorem exists_of_bind_eq_ok {x : Except ε α} {next : α → Except ε β} {b : β}
    (h : x >>= next = .ok b) : ∃ a, x = .ok a ∧ next a = .ok b := by
  cases x with
  | error e => cases h
  | ok a => exact ⟨a, rfl, h⟩

theorem eq_ok_of_toOption {x : Except ε α} {a : α} (h : x.toOption = some a) : x = .ok a := by
  cases x with
  | error e => cases h
  | ok b => exact congrArg _ (Option.some.inj h)

/-- What is known of a result as far as there is one is known of what has come. -/
theorem exists_of_toOption_map {x : Except ε α} {g : α → β} {b : β}
    (h : x.toOption.map g = some b) : ∃ a, x = .ok a ∧ g a = b := by
  obtain ⟨a, ha, hg⟩ := Option.map_eq_some_iff.mp h
  exact ⟨a, eq_ok_of_toOption ha, hg⟩

/-! ## Results with a state -/

/-- Next to a result there is what else has come. -/
theorem exists_eq_of_fst_eq {x : α × β} {a : α} (h : x.1 = a) : ∃ b, x = (a, b) :=
  ⟨x.2, Prod.ext h rfl⟩

section States

variable {change : α → β} {r : Except ε α × σ} {s : σ}

theorem eq_of_map_eq_ok {b : β} (h : (r.1.map change, r.2) = (.ok b, s)) :
    ∃ a, r = (.ok a, s) ∧ b = change a := by
  obtain ⟨result, s₁⟩ := r
  cases result with
  | error e => cases h
  | ok a =>
    cases h
    exact ⟨a, rfl, rfl⟩

theorem eq_of_map_eq_error {e : ε} (h : (r.1.map change, r.2) = (.error e, s)) :
    r = (.error e, s) := by
  obtain ⟨result, s₁⟩ := r
  cases result with
  | error e' =>
    cases h
    rfl
  | ok a => cases h

end States

/-! ## Rows whose members may come to nothing -/

section Options

variable {f : α → Option β} {l : List α}

theorem exists_mapM_eq_some (h : ∀ a ∈ l, ∃ b, f a = some b) :
    ∃ bs, l.mapM f = some bs ∧ ∀ b ∈ bs, ∃ a ∈ l, f a = some b := by
  induction l with
  | nil => exact ⟨[], rfl, fun b hb => by cases hb⟩
  | cons a l ih =>
    obtain ⟨b, hb⟩ := h a List.mem_cons_self
    obtain ⟨bs, hbs, hall⟩ := ih fun c hc => h c (List.mem_cons_of_mem a hc)
    refine ⟨b :: bs, by rw [List.mapM_cons, hb, hbs]; rfl, ?_⟩
    intro d hd
    rcases List.mem_cons.mp hd with rfl | hd
    · exact ⟨a, List.mem_cons_self, hb⟩
    · obtain ⟨c, hc, hd⟩ := hall d hd
      exact ⟨c, List.mem_cons_of_mem a hc, hd⟩

theorem map_some_of_mapM {bs : List β} (h : l.mapM f = some bs) : bs.map some = l.map f := by
  induction l generalizing bs with
  | nil =>
    cases h
    rfl
  | cons a l ih =>
    simp only [List.mapM_cons, Option.bind_eq_bind, Option.bind_eq_some_iff] at h
    obtain ⟨b, hb, rest, hrest, hbs⟩ := h
    cases hbs
    rw [List.map_cons, List.map_cons, ih hrest, hb]

theorem isSome_mapM (f : α → Option β) (l : List α) :
    (l.mapM f).isSome = l.all fun a => (f a).isSome := by
  induction l with
  | nil => rfl
  | cons a rest ih =>
    rw [List.mapM_cons, List.all_cons, ← ih]
    cases f a with
    | none => rfl
    | some b => cases rest.mapM f <;> rfl

end Options

/-! ## Rows whose members may fail -/

section Failures

variable {f : α → Except ε β} {l : List α}

theorem mapM_eq_ok {bs : List β} (h : l.map f = bs.map .ok) : l.mapM f = .ok bs := by
  induction l generalizing bs with
  | nil =>
    cases bs with
    | nil => rfl
    | cons b bs => cases h
  | cons a l ih =>
    cases bs with
    | nil => cases h
    | cons b bs =>
      rw [List.map_cons, List.map_cons, List.cons.injEq] at h
      rw [List.mapM_cons, h.1, ih h.2]
      rfl

theorem mapM_eq_error {i : Nat} {e : ε} (hi : (l.map f)[i]? = some (.error e))
    (hlt : ∀ k < i, ∃ b, (l.map f)[k]? = some (.ok b)) : l.mapM f = .error e := by
  induction l generalizing i with
  | nil => simp at hi
  | cons a l ih =>
    rw [List.mapM_cons]
    cases i with
    | zero =>
      simp only [List.map_cons, List.getElem?_cons_zero, Option.some.injEq] at hi
      rw [hi]
      rfl
    | succ i =>
      obtain ⟨b, hb⟩ := hlt 0 (Nat.zero_lt_succ i)
      simp only [List.map_cons, List.getElem?_cons_zero, Option.some.injEq] at hb
      rw [hb, ih (by simpa using hi) fun k hk => by simpa using hlt (k + 1) (Nat.succ_lt_succ hk)]
      rfl

end Failures

end DocWeave
