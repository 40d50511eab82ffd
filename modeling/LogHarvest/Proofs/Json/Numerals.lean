import LogHarvest.Proofs.Json.Limits
import Mathlib.Data.List.Basic

/-!
# Numerals

Numbers are written in two ways, in decimal and, inside an escape, with four hexadecimal digits.
Both are read back as they were written. A decimal numeral ends where something comes that cannot
belong to a number.
-/

namespace LogHarvest

/-! ## Hexadecimal digits -/

theorem Text.hex_one {n : Nat} (h : n < 16) : Text.hex 1 n = [.char n.digitChar] := by
  rw [Text.hex, Nat.toDigits_of_lt_base h]
  rfl

/-- One more place holds the last digit. -/
theorem Text.hex_succ (width n : Nat) :
    Text.hex (width + 2) n = Text.hex (width + 1) (n / 16) ++ [.char (n % 16).digitChar] := by
  by_cases h : n < 16
  · have hzero : n / 16 = 0 := Nat.div_eq_of_lt h
    simp [Text.hex, Nat.toDigits_of_lt_base h, hzero, Nat.mod_eq_of_lt h, List.replicate_succ']
  · simp [Text.hex, Nat.toDigits_of_base_le (by decide : 1 < 16) (Nat.le_of_not_lt h)]

namespace Json

theorem hex?_digitChar {n : Nat} (h : n < 16) : (Symbol.char n.digitChar).hex? = some n := by
  have hall : ∀ k < 16, (Symbol.char k.digitChar).hex? = some k := by decide
  exact hall n h

/-- Four hexadecimal digits are read as the number that they stand for. -/
theorem exists_hex_four {n : Nat} (h : n < 0x10000) :
    ∃ a b c d, Text.hex 4 n = [.char a, .char b, .char c, .char d] ∧
      hexValue (.char a) (.char b) (.char c) (.char d) = some n := by
  refine ⟨(n / 16 / 16 / 16).digitChar, (n / 16 / 16 % 16).digitChar, (n / 16 % 16).digitChar,
    (n % 16).digitChar, ?_, ?_⟩
  · rw [Text.hex_succ 2, Text.hex_succ 1, Text.hex_succ 0, Text.hex_one (by omega)]
    rfl
  · rw [hexValue, hex?_digitChar (by omega), hex?_digitChar (by omega), hex?_digitChar (by omega),
      hex?_digitChar (by omega)]
    exact congrArg some (by omega)

/-! ## Decimal digits -/

theorem isDigit_char_iff {c : Char} : isDigit (.char c) = true ↔ c.isDigit = true := by
  simp only [isDigit, Symbol.digit?, Char.isDigit, Char.le_def]
  split
  · next h => simpa [ge_iff_le] using h
  · next h => simpa [ge_iff_le] using h

theorem isDigit_of_mem_ofNat {n : Nat} {s : Symbol} (h : s ∈ Text.ofNat n) : isDigit s = true := by
  obtain ⟨c, hc, rfl⟩ := List.mem_map.mp h
  exact isDigit_char_iff.mpr (Nat.isDigit_of_mem_toDigits (by decide) (by decide) hc)

theorem digitsValue_map {cs : List Char} (h : ∀ c ∈ cs, c.isDigit = true) :
    digitsValue (cs.map .char) = Nat.ofDigitChars 10 cs 0 := by
  rw [digitsValue, Nat.ofDigitChars_eq_foldl, List.foldl_map]
  refine List.foldl_ext _ _ 0 fun n c hc => ?_
  obtain ⟨d, hd⟩ := Option.isSome_iff_exists.mp (isDigit_char_iff.mpr (h c hc))
  have hvalue : d = c.toNat - '0'.toNat := by
    rw [Symbol.digit?] at hd
    split at hd
    · exact (Option.some.inj hd).symm
    · cases hd
  rw [hd, hvalue, Option.getD_some, Nat.mul_comm]

/-- A number in decimal is read as this number. -/
theorem digitsValue_ofNat (n : Nat) : digitsValue (Text.ofNat n) = n := by
  rw [Text.ofNat, digitsValue_map fun c hc =>
    Nat.isDigit_of_mem_toDigits (by decide) (by decide) hc, Nat.ofDigitChars_ten_toDigits]

/-- Only zero begins with a zero. -/
theorem head_ofNat {n : Nat} (h : (Text.ofNat n).head? = some (.char '0')) : n = 0 := by
  induction n using Nat.strongRecOn with
  | ind n ih =>
    rw [Text.ofNat, Nat.toDigits_eq_if (by decide)] at h
    split at h
    · simpa using h
    · next hn =>
      -- the first digit of a longer number is that of its tenth part
      obtain ⟨c, hc⟩ := Option.isSome_iff_exists.mp
        (List.isSome_head?.mpr (Nat.toDigits_ne_nil (n := n / 10) (b := 10)))
      rw [List.head?_map, List.head?_append, hc] at h
      have hzero := ih (n / 10) (by omega) (by rw [Text.ofNat, List.head?_map, hc]; exact h)
      omega

theorem exists_ofNat_eq_cons (n : Nat) : ∃ c r, Text.ofNat n = c :: r ∧ isDigit c = true := by
  cases h : Text.ofNat n with
  | nil => simp [Text.ofNat] at h
  | cons c r => exact ⟨c, r, rfl, isDigit_of_mem_ofNat (h ▸ List.mem_cons_self)⟩

/-! ## Numbers -/

/-- What comes next does not belong to a number. -/
def EndsNumber (rest : Text) : Prop :=
  ∀ s, rest.head? = some s →
    isDigit s = false ∧ s ≠ .char '.' ∧ s ≠ .char 'e' ∧ s ≠ .char 'E'

/-- What comes next is no digit. -/
def EndsDigits (rest : Text) : Prop := ∀ s, rest.head? = some s → isDigit s = false

theorem EndsNumber.endsDigits {rest : Text} (h : EndsNumber rest) : EndsDigits rest :=
  fun s hs => (h s hs).1

/-- Digits are found again before all that is no digit. -/
theorem EndsDigits.takeWhile_append {digits rest : Text} (h : EndsDigits rest)
    (hdigits : ∀ s ∈ digits, isDigit s = true) : (digits ++ rest).takeWhile isDigit = digits := by
  rw [List.takeWhile_append_of_pos hdigits]
  cases rest with
  | nil => simp
  | cons s rest => simp [h s rfl]

theorem endsNumber_nil : EndsNumber [] := fun _ h => (by cases h)

theorem endsNumber_cons {s : Symbol} (h : s = .char ',' ∨ s = .char ']' ∨ s = .char '}')
    (rest : Text) : EndsNumber (s :: rest) := by
  rintro _ ⟨⟩
  rcases h with rfl | rfl | rfl <;> exact ⟨by decide, by decide, by decide, by decide⟩

theorem numberValue_ofNat (negative : Bool) {n : Nat}
    (hn : (Text.ofNat n).length ≤ Integer.digitLimit) :
    numberValue negative (Text.ofNat n) [] none =
      .ok (.int (if negative then -(n : Int) else n)) := by
  simp only [numberValue, List.isEmpty_nil, Option.isNone_none, Bool.and_self, if_true,
    if_neg (Nat.not_lt.mpr hn), digitsValue_ofNat]

/-- No word begins with a minus sign and a digit. -/
theorem readScalar_of_minus {c : Symbol} {r : Text} (h : isDigit c = true) :
    readScalar (.char '-' :: c :: r) = readNumber (.char '-' :: c :: r) := by
  have hne : (Symbol.char 'I' == c) = false := by
    simpa using (ne_of_isDigit h (by decide)).symm
  have hwords : (words.find? fun w => Text.startsWith (.char '-' :: c :: r) w.1) = none := by
    simp [words, Text.startsWith, Text.ofString, List.isPrefixOf, hne]
  rw [readScalar, hwords]

section Rest

variable {rest : Text} (h : EndsNumber rest)

include h

theorem EndsNumber.wholeDigits_append (n : Nat) :
    wholeDigits (Text.ofNat n ++ rest) = Text.ofNat n := by
  by_cases hn : n = 0
  · subst hn
    rfl
  · have hhead : ∀ r, Text.ofNat n ++ rest ≠ .char '0' :: r := by
      intro r hr
      obtain ⟨c, r', hcons, -⟩ := exists_ofNat_eq_cons n
      refine hn (head_ofNat ?_)
      rw [hcons] at hr ⊢
      rw [(List.cons.inj hr).1]
      rfl
    rw [wholeDigits.eq_2 _ hhead]
    exact h.endsDigits.takeWhile_append fun s => isDigit_of_mem_ofNat

theorem EndsNumber.fractionDigits_eq : fractionDigits rest = [] := by
  refine fractionDigits.eq_2 _ fun r hr => ?_
  exact (h (.char '.') (by rw [hr]; rfl)).2.1 rfl

theorem EndsNumber.exponentPart_eq : exponentPart rest = none := by
  unfold exponentPart
  split <;> first | rfl | skip
  all_goals
    next hr =>
      first
      | exact absurd rfl (h (.char 'e') rfl).2.2.1
      | exact absurd rfl (h (.char 'E') rfl).2.2.2

theorem EndsNumber.readNumber_ofNat {n : Nat}
    (hn : (Text.ofNat n).length ≤ Integer.digitLimit) :
    readNumber (Text.ofNat n ++ rest) = some (.ok (.int n), (Text.ofNat n).length) := by
  obtain ⟨c, r, hcons, hc⟩ := exists_ofNat_eq_cons n
  have hminus : c ≠ .char '-' := ne_of_isDigit hc (by decide)
  have hwhole := h.wholeDigits_append n
  have hvalue := numberValue_ofNat false hn
  rw [hcons] at hwhole hvalue ⊢
  rw [List.cons_append] at hwhole
  simp [readNumber, hminus, hwhole, hvalue, h.fractionDigits_eq, h.exponentPart_eq]

theorem EndsNumber.readNumber_neg {n : Nat}
    (hn : (Text.ofNat n).length ≤ Integer.digitLimit) :
    readNumber (.char '-' :: (Text.ofNat n ++ rest)) =
      some (.ok (.int (-n)), (Text.ofNat n).length + 1) := by
  obtain ⟨c, r, hcons, -⟩ := exists_ofNat_eq_cons n
  have hwhole := h.wholeDigits_append n
  have hvalue := numberValue_ofNat true hn
  rw [hcons] at hwhole hvalue ⊢
  rw [List.cons_append] at hwhole
  simp [readNumber, hwhole, hvalue, h.fractionDigits_eq, h.exponentPart_eq, Nat.add_comm]

/-- An integer is read as it was written. -/
theorem EndsNumber.readScalar_ofInt {z : Int}
    (hz : (Text.ofNat z.natAbs).length ≤ Integer.digitLimit) :
    readScalar (Text.ofInt z ++ rest) = some (.ok (.int z), (Text.ofInt z).length) := by
  obtain ⟨c, r, hcons, hc⟩ := exists_ofNat_eq_cons z.natAbs
  by_cases hneg : z < 0
  · have hread := h.readNumber_neg hz
    have habs : -(z.natAbs : Int) = z := by omega
    rw [hcons, List.cons_append, habs] at hread
    rw [Text.ofInt, if_pos hneg, hcons, List.cons_append, List.cons_append,
      readScalar_of_minus hc, hread]
    rfl
  · have hread := h.readNumber_ofNat hz
    have habs : (z.natAbs : Int) = z := by omega
    rw [hcons, List.cons_append, habs] at hread
    rw [Text.ofInt, if_neg hneg, hcons, List.cons_append, readScalar_of_isDigit hc, hread]

end Rest

end Json

end LogHarvest
