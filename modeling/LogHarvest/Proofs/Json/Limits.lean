import LogHarvest.Json.Reader
import Mathlib.Data.List.TakeWhile

/-!
# The limits of the reader

An integer with too many digits is JSON by its grammar, and it is not read all the same.
-/

namespace LogHarvest.Json

/-- What stops the reading of the value stops the reading of the text. -/
theorem read_of_stop [Limits] {text t : Text} {e : Stop}
    (hmark : ∀ rest, text = .char '\ufeff' :: rest → False)
    (ht : dropSpace text = t) (h : readValue depthLimit t = .error e) :
    read text = .error (e.fault text) := by
  subst ht
  rw [read, readDocument.eq_2 _ hmark, h]

/-! ## Integers -/

/-- A digit is a character between `0` and `9`. -/
theorem exists_char_of_isDigit {s : Symbol} (h : isDigit s = true) : ∃ c, s = .char c ∧ '0' ≤ c ∧
    c ≤ '9' := by
  cases s with
  | half h' => simp [isDigit, Symbol.digit?] at h
  | char c =>
    by_cases hc : '0' ≤ c ∧ c ≤ '9'
    · exact ⟨c, rfl, hc⟩
    · simp [isDigit, Symbol.digit?, hc] at h

/-- What a digit is not. -/
theorem ne_of_isDigit {s : Symbol} (h : isDigit s = true) {c : Char} (hc : c < '0' ∨ '9' < c) :
    s ≠ .char c := by
  obtain ⟨d, rfl, h0, h9⟩ := exists_char_of_isDigit h
  rintro ⟨⟩
  rcases hc with hc | hc
  · exact absurd h0 (Char.not_le.mpr hc)
  · exact absurd h9 (Char.not_le.mpr hc)

variable {c : Symbol} {r : Text}

theorem dropSpace_of_isDigit (h : isDigit c = true) : dropSpace (c :: r) = c :: r := by
  have hspace : isSpace c = false := by
    simp [isSpace, ne_of_isDigit h (c := ' ') (by decide), ne_of_isDigit h (c := '\t') (by decide),
      ne_of_isDigit h (c := '\n') (by decide), ne_of_isDigit h (c := '\r') (by decide)]
  simp [dropSpace, hspace]

/-- No word begins with a digit. -/
theorem readScalar_of_isDigit (h : isDigit c = true) :
    readScalar (c :: r) = readNumber (c :: r) := by
  have hne : ∀ d : Char, d < '0' ∨ '9' < d → (Symbol.char d == c) = false := by
    intro d hd
    simpa using (ne_of_isDigit h hd).symm
  have hwords : (words.find? fun w => Text.startsWith (c :: r) w.1) = none := by
    simp [words, Text.startsWith, Text.ofString, List.isPrefixOf, hne 'n' (by decide),
      hne 't' (by decide),
      hne 'f' (by decide), hne 'N' (by decide), hne 'I' (by decide), hne '-' (by decide)]
  rw [readScalar, hwords]

/-- Digits that do not begin with a zero are one number. -/
theorem readNumber_of_digits (hc : isDigit c = true) (h0 : c ≠ .char '0')
    (hr : ∀ s ∈ r, isDigit s = true) :
    readNumber (c :: r) = some (numberValue false (c :: r) [] none, (c :: r).length) := by
  have hwhole : wholeDigits (c :: r) = c :: r := by
    unfold wholeDigits
    split
    · next h => exact absurd (List.cons.inj h).1 h0
    · exact List.takeWhile_eq_self_iff.mpr (by simpa [hc] using hr)
  have hminus : c ≠ .char '-' := ne_of_isDigit hc (by decide)
  simp [readNumber, hminus, hwhole, fractionDigits, exponentPart]

/-- An integer with too many digits is not read. -/
theorem read_of_digits [Limits] {t : Text} (ht : ∀ s ∈ t, isDigit s = true)
    (h0 : t.head? ≠ some (.char '0')) (hlong : Integer.digitLimit < t.length) :
    read t = .error (.tooLong t.length) := by
  cases t with
  | nil => cases hlong
  | cons c r =>
    have hc : isDigit c = true := ht c List.mem_cons_self
    have hnumber := readNumber_of_digits (r := r) hc (by simpa using h0) fun s hs =>
      ht s (List.mem_cons_of_mem _ hs)
    have hvalue : numberValue false (c :: r) [] none = .error (.tooLong (c :: r).length) := by
      simp only [numberValue, List.isEmpty_nil, Option.isNone_none, Bool.and_self, if_true, hlong]
    have hread : readValue depthLimit (c :: r) = .error (.tooLong (c :: r).length) := by
      rw [readValue.eq_7 _ _ _ (ne_of_isDigit hc (by decide)) (ne_of_isDigit hc (by decide))
        (ne_of_isDigit hc (by decide)), readScalar_of_isDigit hc, hnumber, hvalue]
      rfl
    refine read_of_stop (fun rest h => ?_) (dropSpace_of_isDigit hc) hread
    exact ne_of_isDigit hc (by decide) (List.cons.inj h).1

/-- One digit over and over. -/
theorem read_ones [Limits] {n : Nat} (h : Integer.digitLimit < n) :
    read (List.replicate n (.char '1')) = .error (.tooLong n) := by
  have hread := read_of_digits (t := List.replicate n (.char '1'))
    (fun s hs => by rw [List.eq_of_mem_replicate hs]; rfl)
    (fun h0 => by cases List.eq_of_mem_replicate (List.mem_of_mem_head? h0))
      (by rwa [List.length_replicate])
  rwa [List.length_replicate] at hread

end LogHarvest.Json
