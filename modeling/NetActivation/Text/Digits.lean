set_option autoImplicit false

/-! # Numbers in a text

Numbers are read digit by digit. Reading inverts the way in which numbers are written
(`number?_toDigits`), and digits are all that is written. -/

namespace NetActivation.Text

/-- The value of a digit in a base of at most sixteen. Letters of both cases are digits. -/
def digit? (base : Nat) (c : Char) : Option Nat :=
  let n := c.toNat
  let value :=
    if 48 ≤ n ∧ n ≤ 57 then n - 48
    else if 97 ≤ n ∧ n ≤ 102 then n - 87
    else if 65 ≤ n ∧ n ≤ 70 then n - 55
    else base
  if value < base then some value else none

/-- The number that a run of digits continues to, from the number read so far. -/
def numberFrom? (base : Nat) (start : Nat) : List Char → Option Nat
  | [] => some start
  | c :: s => do numberFrom? base (start * base + (← digit? base c)) s

/-- The number that a text of digits stands for. A text without digits stands for none. -/
def number? (base : Nat) (s : List Char) : Option Nat :=
  if s.isEmpty then none else numberFrom? base 0 s

theorem digit?_digitChar {base d : Nat} (hbase : base ≤ 16) (hd : d < base) :
    digit? base (Nat.digitChar d) = some d := by
  have hall : ∀ d : Fin 16, ∀ base : Fin 17, d.val < base.val →
      digit? base (Nat.digitChar d) = some d.val := by decide
  exact hall ⟨d, Nat.lt_of_lt_of_le hd hbase⟩ ⟨base, Nat.lt_succ_of_le hbase⟩ hd

theorem numberFrom?_append (base start : Nat) (s t : List Char) :
    numberFrom? base start (s ++ t) =
      (numberFrom? base start s).bind fun n => numberFrom? base n t := by
  induction s generalizing start with
  | nil => rfl
  | cons c s ih =>
      simp only [List.cons_append, numberFrom?]
      cases digit? base c with
      | none => rfl
      | some d => exact ih _

theorem numberFrom?_toDigits {base n : Nat} (hone : 1 < base) (hbase : base ≤ 16) :
    numberFrom? base 0 (Nat.toDigits base n) = some n := by
  induction n using Nat.strongRecOn with
  | ind n ih =>
      rw [Nat.toDigits_eq_if hone]
      by_cases hn : n < base
      · rw [if_pos hn]
        simp [numberFrom?, digit?_digitChar hbase hn]
      · have hless : n / base < n := Nat.div_lt_self (by omega) hone
        have hdigit : n % base < base := Nat.mod_lt n (by omega)
        rw [if_neg hn, numberFrom?_append, ih _ hless, Option.bind_some]
        simp [numberFrom?, digit?_digitChar hbase hdigit, Nat.div_add_mod']

/-- The digits of a number are read as that number. -/
theorem number?_toDigits {base n : Nat} (hone : 1 < base) (hbase : base ≤ 16) :
    number? base (Nat.toDigits base n) = some n := by
  rw [number?, if_neg (by simp [Nat.toDigits_ne_nil]), numberFrom?_toDigits hone hbase]

/-- A digit of a base is a digit of every larger one. -/
theorem isSome_digit?_mono {base base' : Nat} (hbase : base ≤ base') {c : Char}
    (h : (digit? base c).isSome = true) : (digit? base' c).isSome = true := by
  simp only [digit?, Option.isSome_ite] at h ⊢
  grind

/-- Only digits are read as a number. -/
theorem isSome_digit?_of_numberFrom? {base start n : Nat} {s : List Char}
    (h : numberFrom? base start s = some n) : ∀ c ∈ s, (digit? base c).isSome = true := by
  induction s generalizing start with
  | nil => exact nofun
  | cons d s ih =>
      obtain ⟨v, hd, hs⟩ := Option.bind_eq_some_iff.1 h
      refine List.forall_mem_cons.2 ⟨?_, ih hs⟩
      rw [hd, Option.isSome_some]

theorem isSome_digit?_of_number? {base n : Nat} {s : List Char} (h : number? base s = some n) :
    ∀ c ∈ s, (digit? base c).isSome = true := by
  rw [number?] at h
  split at h
  · cases h
  · exact isSome_digit?_of_numberFrom? h

theorem exists_digitChar_of_mem_toDigits {base n : Nat} {c : Char} (hone : 1 < base)
    (h : c ∈ Nat.toDigits base n) : ∃ d < base, c = Nat.digitChar d := by
  induction n using Nat.strongRecOn with
  | ind n ih =>
      rw [Nat.toDigits_eq_if hone] at h
      split at h
      · next hn => exact ⟨n, hn, List.mem_singleton.1 h⟩
      · next hn =>
          rcases List.mem_append.1 h with h | h
          · exact ih _ (Nat.div_lt_self (by omega) hone) h
          · exact ⟨n % base, Nat.mod_lt n (by omega), List.mem_singleton.1 h⟩

/-- A number other than zero is written without a zero in front. -/
theorem head?_toDigits_ne_zero {base n : Nat} (hone : 1 < base) (hn : n ≠ 0) :
    (Nat.toDigits base n).head? ≠ some '0' := by
  induction n using Nat.strongRecOn with
  | ind n ih =>
      rw [Nat.toDigits_eq_if hone]
      split
      · simpa using hn
      · next hle =>
          have hpos : 0 < n / base := Nat.div_pos (Nat.le_of_not_lt hle) (by omega)
          have hhead := List.head?_eq_some_head (Nat.toDigits_ne_nil (n := n / base) (b := base))
          rw [List.head?_append, hhead, Option.some_or, ← hhead]
          exact ih _ (Nat.div_lt_self (by omega) hone) (Nat.ne_of_gt hpos)

end NetActivation.Text
