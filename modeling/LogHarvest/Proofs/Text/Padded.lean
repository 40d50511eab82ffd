import LogHarvest.Proofs.Text.Order
import Mathlib

/-!
# Numbers of fixed width

A number that fits its width is written with exactly so many digits. From the digits it is found
again, and of two numbers of one width the smaller one has the smaller text.
-/

namespace LogHarvest.Text

/-! ## Digits -/

theorem digit?_digitChar {n : Nat} (h : n < 10) : (Symbol.char n.digitChar).digit? = some n := by
  have hall : ∀ k < 10, (Symbol.char k.digitChar).digit? = some k := by decide
  exact hall n h

theorem code_digitChar {n : Nat} (h : n < 10) : (Symbol.char n.digitChar).code = 48 + n := by
  have hall : ∀ k < 10, (Symbol.char k.digitChar).code = 48 + k := by decide
  exact hall n h

section Padded

variable {width n m : Nat}

theorem padded_one (h : n < 10) : padded 1 n = [.char n.digitChar] := by
  rw [padded, ofNat, Nat.toDigits_of_lt_base h]
  rfl

/-- One more place holds the last digit. -/
theorem padded_succ (width n : Nat) :
    padded (width + 2) n = padded (width + 1) (n / 10) ++ [.char (n % 10).digitChar] := by
  by_cases h : n < 10
  · have hzero : n / 10 = 0 := Nat.div_eq_of_lt h
    simp [padded, ofNat, Nat.toDigits_of_lt_base h, hzero, Nat.mod_eq_of_lt h,
      List.replicate_succ']
  · simp [padded, ofNat, Nat.toDigits_of_base_le (by decide : 1 < 10) (Nat.le_of_not_lt h)]

theorem padded_two (h : n < 100) :
    padded 2 n = [.char (n / 10).digitChar, .char (n % 10).digitChar] := by
  rw [padded_succ 0, padded_one (by omega)]
  rfl

/-- Four digits are two and two. -/
theorem padded_four (n : Nat) : padded 4 n = padded 2 (n / 100) ++ padded 2 (n % 100) := by
  have htens : n / 10 % 10 = n % 100 / 10 := by omega
  have hones : n % 10 = n % 100 % 10 := by omega
  rw [padded_succ 2, padded_succ 1, padded_two (n := n % 100) (by omega), Nat.div_div_eq_div_mul,
    htens, hones, List.append_assoc]
  rfl

theorem length_padded (h : n < 10 ^ (width + 1)) : (padded (width + 1) n).length = width + 1 := by
  induction width generalizing n with
  | zero => rw [padded_one h, List.length_singleton]
  | succ width ih =>
    rw [padded_succ, List.length_append, ih (Nat.div_lt_of_lt_mul (by rwa [Nat.mul_comm]))]
    rfl

theorem isSome_digit?_of_mem_padded (h : n < 10 ^ (width + 1)) :
    ∀ s ∈ padded (width + 1) n, s.digit?.isSome = true := by
  have hdigit : ∀ {d}, d < 10 → (Symbol.char d.digitChar).digit?.isSome = true := fun hd => by
    rw [digit?_digitChar hd, Option.isSome_some]
  induction width generalizing n with
  | zero =>
    rw [padded_one h]
    exact List.forall_mem_singleton.mpr (hdigit h)
  | succ width ih =>
    rw [padded_succ]
    refine List.forall_mem_append.mpr ⟨ih (Nat.div_lt_of_lt_mul (by rwa [Nat.mul_comm])), ?_⟩
    exact List.forall_mem_singleton.mpr (hdigit (Nat.mod_lt n (by decide)))

/-- The digits are those of the number. -/
theorem foldl_padded (h : n < 10 ^ (width + 1)) :
    ((padded (width + 1) n).filterMap Symbol.digit?).foldl (fun n d => n * 10 + d) 0 = n := by
  induction width generalizing n with
  | zero =>
    rw [padded_one h]
    simp [digit?_digitChar h]
  | succ width ih =>
    rw [padded_succ, List.filterMap_append, List.foldl_append,
      ih (Nat.div_lt_of_lt_mul (by rwa [Nat.mul_comm]))]
    simp only [List.filterMap_cons, digit?_digitChar (Nat.mod_lt n (by decide : 0 < 10)),
      List.filterMap_nil, List.foldl_cons, List.foldl_nil]
    exact Nat.div_add_mod' n 10

theorem compare_digitChar (h : n < m) (hm : m < 10) :
    compare [.char n.digitChar] [.char m.digitChar] = .lt := by
  rw [compare, code_digitChar (h.trans hm), code_digitChar hm,
    Nat.compare_eq_lt.mpr (Nat.add_lt_add_left h 48)]
  rfl

/-- **Numbers of one width have texts in their order.** -/
theorem compare_padded (h : n < m) (hm : m < 10 ^ (width + 1)) :
    compare (padded (width + 1) n) (padded (width + 1) m) = .lt := by
  induction width generalizing n m with
  | zero =>
    rw [padded_one (h.trans hm), padded_one hm]
    exact compare_digitChar h hm
  | succ width ih =>
    have htens : m / 10 < 10 ^ (width + 1) := Nat.div_lt_of_lt_mul (by rwa [Nat.mul_comm])
    rw [padded_succ, padded_succ]
    rcases (Nat.div_le_div_right h.le : n / 10 ≤ m / 10).lt_or_eq with hlt | heq
    · refine compare_append_of_lt ?_ (ih hlt htens)
      rw [length_padded (hlt.trans htens), length_padded htens]
    · rw [heq, compare_append_left]
      exact compare_digitChar (by omega) (Nat.mod_lt m (by decide))

end Padded

end LogHarvest.Text
