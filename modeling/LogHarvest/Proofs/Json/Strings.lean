import LogHarvest.Json.Printer
import LogHarvest.Json.Reader
import LogHarvest.Proofs.Json.Numerals
import LogHarvest.Proofs.Text.Plain
import Mathlib.Data.List.Chain

/-!
# Strings

A printed string is read back as it was, unless the first half of a pair stands directly before a
second one: these two would be read as one character. In a string that was itself read from a plain
text they never do (`wellPaired_of_readString`).
-/

namespace LogHarvest

/-! ## Code points -/

namespace Symbol

theorem ofCode?_code (s : Symbol) : ofCode? s.code = some s := by
  cases s with
  | half h =>
    have hrange : 0xD800 ≤ (half h).code ∧ (half h).code < 0xE000 := by
      simp only [code]
      omega
    rw [ofCode?, dif_pos hrange]
    simp [code]
  | char c =>
    have hvalid := c.valid
    have hrange : ¬ (0xD800 ≤ (char c).code ∧ (char c).code < 0xE000) := by
      simp only [code, Char.toNat, UInt32.isValidChar, Nat.isValidChar] at hvalid ⊢
      omega
    have hbound : (char c).code < 0x110000 := by
      simp only [code, Char.toNat, UInt32.isValidChar, Nat.isValidChar] at hvalid ⊢
      omega
    rw [ofCode?, dif_neg hrange, if_pos hbound, code, Char.ofNat_toNat]

theorem isHigh_iff (s : Symbol) : s.isHigh = true ↔ 0xD800 ≤ s.code ∧ s.code < 0xDC00 := by
  cases s with
  | half h =>
    simp only [isHigh, code, decide_eq_true_eq]
    omega
  | char c =>
    have hvalid := c.valid
    simp only [isHigh, code, Char.toNat, UInt32.isValidChar, Nat.isValidChar] at hvalid ⊢
    exact iff_of_false (by decide) (by omega)

theorem isLow_iff (s : Symbol) : s.isLow = true ↔ 0xDC00 ≤ s.code ∧ s.code < 0xE000 := by
  cases s with
  | half h =>
    have := h.isLt
    simp only [isLow, code, decide_eq_true_eq]
    omega
  | char c =>
    have hvalid := c.valid
    simp only [isLow, code, Char.toNat, UInt32.isValidChar, Nat.isValidChar] at hvalid ⊢
    exact iff_of_false (by decide) (by omega)

end Symbol

/-- No first half of a pair stands directly before a second half. -/
def Text.WellPaired (t : Text) : Prop :=
  t.IsChain fun s next => ¬ (s.isHigh = true ∧ next.isLow = true)

instance (t : Text) : Decidable t.WellPaired :=
  inferInstanceAs (Decidable (t.IsChain fun s next => ¬ (s.isHigh = true ∧ next.isLow = true)))

namespace Text

theorem wellPaired_char_cons (c : Char) {t : Text} (h : t.WellPaired) :
    WellPaired (.char c :: t) :=
  List.isChain_cons.mpr ⟨fun _ _ hboth => Bool.false_ne_true hboth.1, h⟩

theorem IsPlain.wellPaired {t : Text} (h : t.IsPlain) : t.WellPaired := by
  induction t with
  | nil => exact .nil
  | cons s rest ih =>
    obtain ⟨c, rfl⟩ := (isPlain_iff _).mp h s List.mem_cons_self
    exact wellPaired_char_cons c (ih h.of_cons)

end Text

namespace Json

open LogHarvest.Symbol

theorem unitSymbol_code (s : Symbol) : unitSymbol s.code = s := by
  rw [unitSymbol, ofCode?_code, Option.getD_some]

/-- A character beyond the first plane is that of its two units. -/
theorem pairSymbol_units {s : Symbol} (h : 0x10000 ≤ s.code) :
    pairSymbol (0xD800 + (s.code - 0x10000) / 0x400) (0xDC00 + (s.code - 0x10000) % 0x400) = s := by
  cases s with
  | half half =>
    simp only [code] at h
    omega
  | char c =>
    have hcode : 0x10000 + (0xD800 + ((char c).code - 0x10000) / 0x400 - 0xD800) * 0x400 +
        (0xDC00 + ((char c).code - 0x10000) % 0x400 - 0xDC00) = c.toNat := by
      simp only [code] at h ⊢
      omega
    rw [pairSymbol, hcode, Char.ofNat_toNat]

/-! ## Symbols -/

/-- How a symbol is written, and the pieces that are read from that: as itself, by a short escape,
by a number, or by the two numbers of a pair. -/
inductive IsWritten : Symbol → Text → List Piece → Prop
  | plain {s : Symbol} (hquote : s ≠ .char '"') (hslash : s ≠ .char '\\') (h : 0x20 ≤ s.code) :
      IsWritten s [s] [.plain s]
  | short {s e : Symbol} (hunit : e ≠ .char 'u') (he : shortEscape e = some s) :
      IsWritten s [.char '\\', e] [.plain s]
  | unit {s : Symbol} (h : s.code < 0x10000) : IsWritten s (unitEscape s.code) [.unit s.code]
  | pair {s : Symbol} {high low : Nat} (hhigh : 0xD800 ≤ high ∧ high < 0xDC00)
      (hlow : 0xDC00 ≤ low ∧ low < 0xE000) (hs : pairSymbol high low = s) :
      IsWritten s (unitEscape high ++ unitEscape low) [.unit high, .unit low]

theorem code_lt (s : Symbol) : s.code < 0x110000 := by
  have h := ofCode?_code s
  unfold ofCode? at h
  split at h
  · omega
  · split at h
    · assumption
    · cases h

theorem isWritten_printSymbol (s : Symbol) : ∃ ps, IsWritten s (printSymbol s) ps := by
  unfold printSymbol
  split
  · exact ⟨_, .short (e := .char '"') (by decide) rfl⟩
  · exact ⟨_, .short (e := .char '\\') (by decide) rfl⟩
  · exact ⟨_, .short (e := .char 'n') (by decide) rfl⟩
  · exact ⟨_, .short (e := .char 'r') (by decide) rfl⟩
  · exact ⟨_, .short (e := .char 't') (by decide) rfl⟩
  · exact ⟨_, .short (e := .char 'f') (by decide) rfl⟩
  · exact ⟨_, .short (e := .char 'b') (by decide) rfl⟩
  · next hquote hslash _ _ _ _ _ =>
    have hbound := code_lt s
    dsimp only
    split
    · next hplain => exact ⟨_, .plain hquote hslash hplain.1⟩
    · split
      · next hunit => exact ⟨_, .unit hunit⟩
      · next hbeyond =>
        exact ⟨_, .pair ⟨by omega, by omega⟩ ⟨by omega, by omega⟩
          (pairSymbol_units (Nat.le_of_not_lt hbeyond))⟩

theorem readPieces_unitEscape {start n : Nat} (hn : n < 0x10000) {next : Symbol} {t rest : Text}
    {ps : List Piece} (h : readPieces start (next :: t) = .ok (ps, rest)) :
    readPieces start (unitEscape n ++ next :: t) = .ok (.unit n :: ps, rest) := by
  obtain ⟨a, b, c, d, hhex, hvalue⟩ := exists_hex_four hn
  have hescape : unitEscape n ++ next :: t =
      .char '\\' :: .char 'u' :: .char a :: .char b :: .char c :: .char d :: next :: t := by
    rw [unitEscape, hhex]
    rfl
  rw [hescape, readPieces.eq_3, hvalue, h]

/-- What is written for a symbol is read as its pieces. -/
theorem readPieces_of_isWritten {s : Symbol} {written : Text} {pieces : List Piece}
    (hs : IsWritten s written pieces) {start : Nat} {next : Symbol} {t rest : Text}
    {ps : List Piece} (h : readPieces start (next :: t) = .ok (ps, rest)) :
    readPieces start (written ++ next :: t) = .ok (pieces ++ ps, rest) := by
  cases hs with
  | plain hquote hslash hcode =>
    rw [List.singleton_append, readPieces.eq_6 _ _ _ hquote (fun _ _ _ _ _ _ hs _ => hslash hs)
      (fun _ _ hs _ => hslash hs) (fun hs _ => hslash hs), if_neg (by omega), h]
    rfl
  | @short e hunit he =>
    show readPieces start (.char '\\' :: e :: next :: t) = _
    rw [readPieces.eq_4 _ _ _ fun _ _ _ _ _ _ hs _ => hunit hs, if_neg hunit, he, h]
    rfl
  | unit hcode => exact readPieces_unitEscape hcode h
  | @pair high low hhigh hlow _ =>
    obtain ⟨first, later, hlow'⟩ : ∃ first later, unitEscape low ++ next :: t = first :: later :=
      ⟨_, _, rfl⟩
    rw [List.append_assoc, hlow']
    refine readPieces_unitEscape (by omega) ?_
    rw [← hlow']
    exact readPieces_unitEscape (by omega) h

/-! ## Printed strings -/

theorem joinPieces_unit {n : Nat} {ps : List Piece}
    (h : ∀ low rest, ps = .unit low :: rest →
      ¬ (0xD800 ≤ n ∧ n < 0xDC00 ∧ 0xDC00 ≤ low ∧ low < 0xE000)) :
    joinPieces (.unit n :: ps) = unitSymbol n :: joinPieces ps := by
  cases ps with
  | nil => rfl
  | cons p ps =>
    cases p with
    | plain s => rfl
    | unit low => rw [joinPieces.eq_3, if_neg (h low ps rfl)]

/-- A low unit comes first only where a second half does. -/
def BeginsLike (ps : List Piece) (t : Text) : Prop :=
  ∀ low rest, ps = .unit low :: rest → 0xDC00 ≤ low → low < 0xE000 →
    ∃ s t', t = s :: t' ∧ s.isLow = true

theorem beginsLike_of_isWritten {s : Symbol} {written : Text} {pieces : List Piece}
    (hs : IsWritten s written pieces) (ps : List Piece) (t : Text) :
    BeginsLike (pieces ++ ps) (s :: t) := by
  rintro low rest hps hfrom hto
  cases hs with
  | plain => cases hps
  | short => cases hps
  | unit h =>
    cases hps
    exact ⟨s, t, rfl, (isLow_iff s).mpr ⟨hfrom, hto⟩⟩
  | pair hhigh =>
    cases hps
    omega

/-- The pieces of a symbol are joined to this symbol again. -/
theorem joinPieces_of_isWritten {s : Symbol} {written t : Text} {pieces ps : List Piece}
    (hs : IsWritten s written pieces) (ht : Text.WellPaired (s :: t)) (hps : BeginsLike ps t) :
    joinPieces (pieces ++ ps) = s :: joinPieces ps := by
  cases hs with
  | plain => rfl
  | short => rfl
  | unit h =>
    rw [List.singleton_append, joinPieces_unit ?_, unitSymbol_code]
    rintro low rest hrest ⟨hfrom, hto, hlow⟩
    obtain ⟨next, t', rfl, hnext⟩ := hps low rest hrest hlow.1 hlow.2
    exact (List.isChain_cons_cons.mp ht).1 ⟨(isHigh_iff s).mpr ⟨hfrom, hto⟩, hnext⟩
  | pair hhigh hlow hs =>
    show joinPieces (.unit _ :: .unit _ :: ps) = _
    rw [joinPieces.eq_3, if_pos ⟨hhigh.1, hhigh.2, hlow.1, hlow.2⟩, hs]

theorem exists_pieces {t : Text} (ht : t.WellPaired) (start : Nat) (rest : Text) :
    ∃ ps, readPieces start (t.flatMap printSymbol ++ .char '"' :: rest) = .ok (ps, rest) ∧
      joinPieces ps = t ∧ BeginsLike ps t := by
  -- how the pieces of the rest begin decides whether a unit in front of them is joined to them
  induction t with
  | nil => exact ⟨[], readPieces.eq_2 _ _, rfl, fun _ _ h => (by cases h)⟩
  | cons s t ih =>
    obtain ⟨ps, hread, hjoin, hbegins⟩ := ih (List.isChain_cons.mp ht).2
    obtain ⟨pieces, hs⟩ := isWritten_printSymbol s
    obtain ⟨next, later, hnext⟩ : ∃ next later,
        t.flatMap printSymbol ++ .char '"' :: rest = next :: later := by
      cases h : t.flatMap printSymbol with
      | nil => exact ⟨_, _, rfl⟩
      | cons next later => exact ⟨_, _, rfl⟩
    refine ⟨pieces ++ ps, ?_, ?_, beginsLike_of_isWritten hs ps t⟩
    · rw [List.flatMap_cons, List.append_assoc, hnext]
      exact readPieces_of_isWritten hs (hnext ▸ hread)
    · rw [joinPieces_of_isWritten hs ht hbegins, hjoin]

/-- A printed string is read back. -/
theorem readString_print {t : Text} (ht : t.WellPaired) (start : Nat) (rest : Text) :
    readString start (t.flatMap printSymbol ++ .char '"' :: rest) = .ok (t, rest) := by
  obtain ⟨ps, hread, hjoin, -⟩ := exists_pieces ht start rest
  rw [readString, hread, ← hjoin]

/-! ## Strings that were read -/

theorem eq_of_unitSymbol_eq_half {n : Nat} {h : Fin 2048} (hn : unitSymbol n = .half h) :
    n = 0xD800 + h.val := by
  unfold unitSymbol ofCode? at hn
  split at hn
  · next hrange =>
    have hval := congrArg code hn
    simp only [Option.getD_some, code] at hval
    omega
  · split at hn <;> cases hn

theorem range_of_isHigh {n : Nat} (h : (unitSymbol n).isHigh = true) :
    0xD800 ≤ n ∧ n < 0xDC00 := by
  cases hs : unitSymbol n with
  | char c =>
    rw [hs] at h
    cases h
  | half half =>
    rw [hs, isHigh_iff, code] at h
    rwa [eq_of_unitSymbol_eq_half hs]

theorem range_of_isLow {n : Nat} (h : (unitSymbol n).isLow = true) :
    0xDC00 ≤ n ∧ n < 0xE000 := by
  cases hs : unitSymbol n with
  | char c =>
    rw [hs] at h
    cases h
  | half half =>
    rw [hs, isLow_iff, code] at h
    rwa [eq_of_unitSymbol_eq_half hs]

theorem head_joinPieces_unit (n : Nat) (ps : List Piece) {s : Symbol}
    (h : (joinPieces (.unit n :: ps)).head? = some s) :
    s = unitSymbol n ∨ ∃ c, s = .char c := by
  cases ps with
  | nil => exact Or.inl (Option.some.inj h).symm
  | cons p ps =>
    cases p with
    | plain s' => exact Or.inl (Option.some.inj h).symm
    | unit low =>
      rw [joinPieces.eq_3] at h
      split at h
      · exact Or.inr ⟨_, (Option.some.inj h).symm⟩
      · exact Or.inl (Option.some.inj h).symm

/-- Only units are joined to halves, and two that make a pair are joined to a character. -/
theorem wellPaired_joinPieces {ps : List Piece} (h : ∀ s, .plain s ∈ ps → ∃ c, s = .char c) :
    (joinPieces ps).WellPaired := by
  fun_induction joinPieces ps with
  | case1 => exact .nil
  | case2 s r ih =>
    obtain ⟨c, rfl⟩ := h s List.mem_cons_self
    exact Text.wellPaired_char_cons c (ih fun s hs => h s (List.mem_cons_of_mem _ hs))
  | case3 high low r hpair ih =>
    exact Text.wellPaired_char_cons _
      (ih fun s hs => h s (List.mem_cons_of_mem _ (List.mem_cons_of_mem _ hs)))
  | case4 high low r hpair ih =>
    refine List.isChain_cons.mpr ⟨?_, ih fun s hs => h s (List.mem_cons_of_mem _ hs)⟩
    rintro next hnext ⟨hhigh, hlow⟩
    rcases head_joinPieces_unit low r hnext with rfl | ⟨c, rfl⟩
    · obtain ⟨hfrom, hto⟩ := range_of_isHigh hhigh
      exact hpair ⟨hfrom, hto, range_of_isLow hlow⟩
    · cases hlow
  | case5 n r hlast ih =>
    refine List.isChain_cons.mpr ⟨?_, ih fun s hs => h s (List.mem_cons_of_mem _ hs)⟩
    rintro next hnext ⟨-, hlow⟩
    cases r with
    | nil => cases hnext
    | cons p r =>
      cases p with
      | unit low => exact hlast low r rfl
      | plain s =>
        obtain ⟨c, rfl⟩ := h s (List.mem_cons_of_mem _ List.mem_cons_self)
        cases hnext
        cases hlow

theorem exists_char_of_shortEscape {s e : Symbol} (h : shortEscape s = some e) :
    ∃ c, e = .char c := by
  unfold shortEscape at h
  split at h <;> cases h
  all_goals exact ⟨_, rfl⟩

/-- From a plain text only characters and units are read, and what is left is plain. -/
theorem plain_of_readPieces {start : Nat} {t rest : Text} {ps : List Piece}
    (h : readPieces start t = .ok (ps, rest)) (ht : t.IsPlain) :
    (∀ s, .plain s ∈ ps → ∃ c, s = .char c) ∧ rest.IsPlain := by
  fun_induction readPieces start t generalizing ps rest with
  | case2 r =>
    cases h
    exact ⟨fun s hs => (by cases hs), ht.of_cons⟩
  | case5 a b c d next r n _ pieces rest' hread ih =>
    cases h
    obtain ⟨hps, hrest⟩ := ih hread (ht.of_cons.of_cons.of_cons.of_cons.of_cons.of_cons)
    refine ⟨fun s hs => hps s ?_, hrest⟩
    simpa using hs
  | case9 s r _ _ e he pieces rest' hread ih =>
    cases h
    obtain ⟨hps, hrest⟩ := ih hread ht.of_cons.of_cons
    refine ⟨fun s hs => ?_, hrest⟩
    rcases List.mem_cons.mp hs with hs | hs
    · cases hs
      exact exists_char_of_shortEscape he
    · exact hps s hs
  | case13 s r _ _ _ _ _ pieces rest' hread ih =>
    cases h
    obtain ⟨hps, hrest⟩ := ih hread ht.of_cons
    refine ⟨fun s hs => ?_, hrest⟩
    rcases List.mem_cons.mp hs with hs | hs
    · cases hs
      exact (Text.isPlain_iff _).mp ht s List.mem_cons_self
    · exact hps s hs
  | _ => cases h

/-- A string that is read from a plain text is well paired, and what is left is plain. -/
theorem wellPaired_of_readString {start : Nat} {t rest name : Text}
    (h : readString start t = .ok (name, rest)) (ht : t.IsPlain) :
    name.WellPaired ∧ rest.IsPlain := by
  unfold readString at h
  split at h
  · cases h
  · next ps rest' hread =>
    cases h
    obtain ⟨hps, hrest⟩ := plain_of_readPieces hread ht
    exact ⟨wellPaired_joinPieces hps, hrest⟩

end Json

end LogHarvest
