import LogHarvest.Number.Integer
import LogHarvest.Proofs.Text.Order
import Mathlib.Data.List.TakeWhile
import Mathlib.Data.Nat.Digits.Defs

/-!
# Spelled integers

The spellings of an integer as a relation: blanks, a sign or none, digits of any script with single
underscores between them, blanks. Reading accepts exactly these, as long as there are not too many
digits, and comes to the integer that is spelled (`read_eq_ok_iff`). The parts are told apart by
their symbols: no digit is blank, and neither signs nor underscores are one of the two.
-/

namespace LogHarvest

namespace Text

/-! ## Digits and blanks -/

/-- A digit is one of the ten behind the zero of its script. -/
theorem exists_zero_of_decimal? {s : Symbol} {d : Nat} (h : decimal? s = some d) :
    d < 10 ∧ ∃ z ∈ 0x30 :: zeros, s.code = z + d := by
  unfold decimal? at h
  dsimp only at h
  split at h
  · cases s with
    | half i => cases h
    | char c =>
      rw [Symbol.digit?] at h
      split at h
      · next hc =>
        have hvalue := Option.some.inj h
        have hlow : '0'.toNat ≤ c.toNat := hc.1
        have hhigh : c.toNat ≤ '9'.toNat := hc.2
        have hzero : '0'.toNat = 0x30 := rfl
        have hnine : '9'.toNat = 0x39 := rfl
        refine ⟨by omega, 0x30, List.mem_cons_self, ?_⟩
        rw [Symbol.code]
        omega
      · cases h
  · obtain ⟨z, hz, rfl⟩ := Option.map_eq_some_iff.mp h
    have hin := List.find?_some hz
    simp only [Bool.and_eq_true, decide_eq_true_eq] at hin
    exact ⟨by omega, z, List.mem_cons_of_mem _ (List.mem_of_find?_eq_some hz), by omega⟩

theorem decimal?_lt {s : Symbol} {d : Nat} (h : decimal? s = some d) : d < 10 :=
  (exists_zero_of_decimal? h).1

/-- No digit is blank: there is no blank among the digits of any script. -/
theorem isBlank_of_decimal? {s : Symbol} {d : Nat} (h : decimal? s = some d) :
    isBlank s = false := by
  have hscripts : ∀ z ∈ 0x30 :: zeros, ∀ e < 10,
      (Symbol.char (Char.ofNat (z + e))).code = z + e ∧
        isBlank (.char (Char.ofNat (z + e))) = false := by decide +kernel
  obtain ⟨hd, z, hz, hcode⟩ := exists_zero_of_decimal? h
  obtain ⟨hsame, hblank⟩ := hscripts z hz d hd
  rw [Symbol.code_injective (hcode.trans hsame.symm)]
  exact hblank

/-! ## Runs of digits -/

/-- Digits with single underscores between them, and what the digits are. -/
inductive DigitRun : Text → List Nat → Prop
  | last {s : Symbol} {d : Nat} (h : decimal? s = some d) : DigitRun [s] [d]
  | next {s : Symbol} {d : Nat} {run : Text} {digits : List Nat} (h : decimal? s = some d)
    (rest : DigitRun run digits) : DigitRun (s :: run) (d :: digits)
  | apart {s : Symbol} {d : Nat} {run : Text} {digits : List Nat} (h : decimal? s = some d)
    (rest : DigitRun run digits) : DigitRun (s :: .char '_' :: run) (d :: digits)

/-- A run begins with a digit. -/
theorem DigitRun.exists_cons {run : Text} {digits : List Nat} (h : DigitRun run digits) :
    ∃ s r d, run = s :: r ∧ decimal? s = some d := by
  cases h with
  | last h => exact ⟨_, _, _, rfl, h⟩
  | next h _ => exact ⟨_, _, _, rfl, h⟩
  | apart h _ => exact ⟨_, _, _, rfl, h⟩

end Text

namespace Integer

open Text

/-! ## Spellings -/

/-- The sign in front of the digits, and whether it is a minus. -/
inductive Sign : Text → Bool → Prop
  | none : Sign [] false
  | plus : Sign [.char '+'] false
  | minus : Sign [.char '-'] true

/-- The number with these digits, the first one in front. -/
def ofDigits (digits : List Nat) : Nat := Nat.ofDigits 10 digits.reverse

/-- The text spells the integer with these digits; leading zeros are among them. -/
inductive Spells : Text → Int → List Nat → Prop
  | mk {before sign run after : Text} {negative : Bool} {digits : List Nat}
    (hbefore : ∀ s ∈ before, isBlank s = true) (hsign : Sign sign negative)
    (hrun : DigitRun run digits) (hafter : ∀ s ∈ after, isBlank s = true) :
    Spells (before ++ (sign ++ (run ++ after)))
      (if negative then -(ofDigits digits : Int) else ofDigits digits) digits

/-! ## Digits of base ten -/

theorem digitIn_ten (s : Symbol) : digitIn 10 s = decimal? s := by
  unfold digitIn
  dsimp only
  cases h : decimal? s with
  | some d => simpa using decimal?_lt h
  | none =>
    -- the letters stand for ten and more
    have hletter : ∀ n, ¬ n + 10 < 10 := by omega
    cases s with
    | half i => rfl
    | char c =>
      dsimp only
      split_ifs <;> simp

theorem inRun_iff {s : Symbol} :
    inRun 10 s = true ↔ s = .char '_' ∨ ∃ d, decimal? s = some d := by
  rw [inRun, digitIn_ten, Bool.or_eq_true, decide_eq_true_eq, Option.isSome_iff_exists]

theorem inRun_of_isBlank {s : Symbol} (h : isBlank s = true) : inRun 10 s = false := by
  rw [Bool.eq_false_iff]
  intro hin
  rcases inRun_iff.mp hin with rfl | ⟨d, hd⟩
  · cases h
  · rw [isBlank_of_decimal? hd] at h
    cases h

theorem ne_of_decimal? {s : Symbol} {d : Nat} (h : decimal? s = some d) {c : Char}
    (hc : decimal? (.char c) = none) : s ≠ .char c := by
  rintro rfl
  rw [hc] at h
  cases h

/-! ## Runs as they are read -/

/-- Behind a digit the text may end, go on with a run, or with an underscore and a run. -/
def GoesOn (rest : Text) : Prop :=
  rest = [] ∨ (∃ digits, DigitRun rest digits) ∨
    ∃ run digits, rest = .char '_' :: run ∧ DigitRun run digits

theorem GoesOn.exists_run {s : Symbol} {d : Nat} {rest : Text} (h : GoesOn rest)
    (hd : decimal? s = some d) : ∃ digits, DigitRun (s :: rest) digits := by
  rcases h with rfl | ⟨digits, hrun⟩ | ⟨run, digits, rfl, hrun⟩
  · exact ⟨_, .last hd⟩
  · exact ⟨_, .next hd hrun⟩
  · exact ⟨_, .apart hd hrun⟩

/-- What is well separated is a run, or goes on one. -/
theorem exists_run_of_wellSeparated {run : Text} (h : ∀ s ∈ run, inRun 10 s = true) :
    (wellSeparated false run = true → ∃ digits, DigitRun run digits) ∧
      (wellSeparated true run = true → GoesOn run) := by
  induction run with
  | nil => exact ⟨fun hsep => (by cases hsep), fun _ => .inl rfl⟩
  | cons s rest ih =>
    obtain ⟨hs, hrest⟩ := List.forall_mem_cons.mp h
    obtain ⟨hfalse, htrue⟩ := ih hrest
    by_cases hunder : s = .char '_'
    · refine ⟨fun hsep => ?_, fun hsep => ?_⟩
      · rw [wellSeparated, if_pos hunder] at hsep
        cases hsep
      · rw [wellSeparated, if_pos hunder, Bool.true_and] at hsep
        obtain ⟨digits, hrun⟩ := hfalse hsep
        exact .inr (.inr ⟨rest, digits, by rw [hunder], hrun⟩)
    · obtain ⟨d, hd⟩ := (inRun_iff.mp hs).resolve_left hunder
      have hdigits : wellSeparated true rest = true → ∃ digits, DigitRun (s :: rest) digits :=
        fun hsep => (htrue hsep).exists_run hd
      refine ⟨fun hsep => ?_, fun hsep => ?_⟩ <;> rw [wellSeparated, if_neg hunder] at hsep
      · exact hdigits hsep
      · exact .inr (.inl (hdigits hsep))

section Run

variable {run : Text} {digits : List Nat}

theorem wellSeparated_of_run (h : DigitRun run digits) (afterDigit : Bool) :
    wellSeparated afterDigit run = true := by
  induction h generalizing afterDigit with
  | last h => rw [wellSeparated, if_neg (ne_of_decimal? h (by decide))]; rfl
  | next h _ ih => rw [wellSeparated, if_neg (ne_of_decimal? h (by decide)), ih]
  | apart h _ ih =>
    rw [wellSeparated, if_neg (ne_of_decimal? h (by decide)), wellSeparated, if_pos rfl, ih]
    rfl

theorem inRun_of_mem_run (h : DigitRun run digits) : ∀ s ∈ run, inRun 10 s = true := by
  have hdigit : ∀ {s d}, decimal? s = some d → inRun 10 s = true := fun hd =>
    inRun_iff.mpr (.inr ⟨_, hd⟩)
  induction h with
  | last h => exact List.forall_mem_singleton.mpr (hdigit h)
  | next h _ ih => exact List.forall_mem_cons.mpr ⟨hdigit h, ih⟩
  | apart h _ ih =>
    exact List.forall_mem_cons.mpr ⟨hdigit h, List.forall_mem_cons.mpr ⟨rfl, ih⟩⟩

theorem length_filter_run (h : DigitRun run digits) :
    (run.filter (· ≠ .char '_')).length = digits.length := by
  induction h with
  | last h => simp [ne_of_decimal? h (c := '_') (by decide)]
  | next h _ ih => simpa [ne_of_decimal? h (c := '_') (by decide)] using ih
  | apart h _ ih => simpa [ne_of_decimal? h (c := '_') (by decide)] using ih

theorem ofDigits_eq_foldl (digits : List Nat) :
    ofDigits digits = digits.foldl (fun n d => n * 10 + d) 0 := by
  rw [ofDigits, Nat.ofDigits_eq_foldr, List.foldr_reverse]
  refine List.foldl_ext _ _ 0 fun n d _ => ?_
  rw [Nat.cast_id, Nat.add_comm, Nat.mul_comm]

theorem valueOf_run (h : DigitRun run digits) : valueOf 10 run = ofDigits digits := by
  have hunder : decimal? (.char '_') = none := by decide
  rw [ofDigits_eq_foldl, valueOf]
  generalize 0 = n
  induction h generalizing n with
  | last h => simp [digitIn_ten, h]
  | next h _ ih => simp [digitIn_ten, h, ← ih]
  | apart h _ ih => simp [digitIn_ten, h, hunder, ← ih]

end Run

/-! ## Reading -/

/-- A sign and a run are told apart by what stands in front. -/
theorem splitSign_append {sign run : Text} {negative : Bool} {digits : List Nat}
    (hsign : Sign sign negative) (hrun : DigitRun run digits) (after : Text) :
    splitSign (sign ++ (run ++ after)) = (negative, run ++ after) := by
  cases hsign with
  | plus => rfl
  | minus => rfl
  | none =>
    obtain ⟨s, r, d, rfl, hd⟩ := hrun.exists_cons
    have hminus : s ≠ .char '-' := ne_of_decimal? hd (by decide)
    have hplus : s ≠ .char '+' := ne_of_decimal? hd (by decide)
    rw [List.nil_append, List.cons_append, splitSign]
    · rintro _ ⟨rfl, -⟩
      exact hminus rfl
    · rintro _ ⟨rfl, -⟩
      exact hplus rfl

/-- No blank is taken for a part of what is signed. -/
theorem dropWhile_signed {sign run : Text} {negative : Bool} {digits : List Nat}
    (hsign : Sign sign negative) (hrun : DigitRun run digits) (after : Text) :
    (sign ++ (run ++ after)).dropWhile isBlank = sign ++ (run ++ after) := by
  cases hsign with
  | plus => rfl
  | minus => rfl
  | none =>
    obtain ⟨s, r, d, rfl, hd⟩ := hrun.exists_cons
    rw [List.nil_append, List.cons_append, List.dropWhile_cons_of_neg]
    simp [isBlank_of_decimal? hd]

theorem takeWhile_run {run after : Text} {digits : List Nat} (hrun : DigitRun run digits)
    (hafter : ∀ s ∈ after, isBlank s = true) : (run ++ after).takeWhile (inRun 10) = run := by
  rw [List.takeWhile_append_of_pos (inRun_of_mem_run hrun)]
  cases after with
  | nil => rw [List.takeWhile_nil, List.append_nil]
  | cons s r =>
    have hs := inRun_of_isBlank (hafter s List.mem_cons_self)
    rw [List.takeWhile_cons_of_neg (by simp [hs]), List.append_nil]

theorem dropWhile_run {run after : Text} {digits : List Nat} (hrun : DigitRun run digits)
    (hafter : ∀ s ∈ after, isBlank s = true) : (run ++ after).dropWhile (inRun 10) = after := by
  have hsplit := List.takeWhile_append_dropWhile (p := inRun 10) (l := run ++ after)
  rwa [takeWhile_run hrun hafter, List.append_cancel_left_eq] at hsplit

/-- Every text is signed in one of the three ways. -/
theorem exists_sign (t : Text) :
    ∃ sign, Sign sign (splitSign t).1 ∧ t = sign ++ (splitSign t).2 := by
  unfold splitSign
  split
  · exact ⟨_, .minus, rfl⟩
  · exact ⟨_, .plus, rfl⟩
  · exact ⟨_, .none, rfl⟩

theorem dropMark_ten (t : Text) : dropMark 10 t = t := by
  unfold dropMark
  rfl

/-- What is read, with the parts of the text by name. -/
theorem read_eq_ok_iff_parts {t : Text} {n : Int} :
    read t = .ok n ↔
      let body := splitSign (t.dropWhile isBlank)
      let run := body.2.takeWhile (inRun 10)
      wellSeparated false run = true ∧ (run.filter (· ≠ .char '_')).length ≤ digitLimit ∧
        (body.2.dropWhile (inRun 10)).all isBlank = true ∧
        n = if body.1 then -(valueOf 10 run : Int) else valueOf 10 run := by
  unfold read readBase
  dsimp only
  rw [dropMark_ten]
  rcases splitSign (t.dropWhile isBlank) with ⟨negative, body⟩
  dsimp only
  generalize body.takeWhile (inRun 10) = run
  generalize body.dropWhile (inRun 10) = rest
  cases hsep : wellSeparated false run with
  | false => simp
  | true =>
    rw [Bool.not_true, if_neg Bool.false_ne_true]
    split
    · next hlong => exact iff_of_false (fun h => (by cases h)) fun h => by omega
    · next hshort =>
      have hlength : (run.filter (· ≠ .char '_')).length ≤ digitLimit := by omega
      cases hafter : rest.all isBlank with
      | false => simp
      | true =>
        rw [Bool.not_true, if_neg Bool.false_ne_true, Except.ok.injEq, eq_comm (b := n)]
        exact ⟨fun h => ⟨rfl, hlength, rfl, h⟩, fun h => h.2.2.2⟩

/-- **Reading accepts the spellings of an integer that are not too long.** -/
theorem read_eq_ok_iff {t : Text} {n : Int} :
    read t = .ok n ↔ ∃ digits, Spells t n digits ∧ digits.length ≤ digitLimit := by
  rw [read_eq_ok_iff_parts]
  constructor
  · rintro ⟨hsep, hlength, hafter, hvalue⟩
    obtain ⟨sign, hsign, hbody⟩ := exists_sign (t.dropWhile isBlank)
    obtain ⟨digits, hrun⟩ :=
      (exists_run_of_wellSeparated fun s hs => List.mem_takeWhile_imp hs).1 hsep
    rw [length_filter_run hrun] at hlength
    rw [valueOf_run hrun] at hvalue
    refine ⟨digits, ?_, hlength⟩
    have hbefore : ∀ s ∈ t.takeWhile isBlank, isBlank s = true := fun s =>
      List.mem_takeWhile_imp
    have hspells := Spells.mk hbefore hsign hrun (List.all_eq_true.mp hafter)
    rw [List.takeWhile_append_dropWhile, ← hbody, List.takeWhile_append_dropWhile,
      ← hvalue] at hspells
    exact hspells
  · rintro ⟨digits, ⟨hbefore, hsign, hrun, hafter⟩, hlength⟩
    rw [List.dropWhile_append_of_pos hbefore, dropWhile_signed hsign hrun,
      splitSign_append hsign hrun]
    dsimp only
    rw [takeWhile_run hrun hafter, dropWhile_run hrun hafter, length_filter_run hrun,
      valueOf_run hrun]
    exact ⟨wellSeparated_of_run hrun false, hlength, List.all_eq_true.mpr hafter, rfl⟩

end Integer

end LogHarvest
