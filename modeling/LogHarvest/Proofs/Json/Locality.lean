import LogHarvest.Proofs.Json.RoundTrip

/-!
# Locality of the reader

What has been read at the start of a text is read there again, whatever is put behind the text
(`Begins.append`). Only the outermost value can be touched by what comes: a word or a number has no
end of its own, and a digit behind it would go on with it. Inside an array or an object the comma or
the bracket behind a number ends it.

So a text that is read as anything but a word or a number has only one beginning that is read, up to
the white space at its end: longer texts are refused with what is extra (`read_of_extra`).
-/

namespace LogHarvest.Json

/-! ## Numbers -/

theorem take_takeWhile (t : Text) :
    t.take (t.takeWhile isDigit).length = t.takeWhile isDigit :=
  (List.prefix_iff_eq_take.mp (List.takeWhile_prefix _)).symm

/-! ### The digits before the point -/

theorem wholeDigits_of_head {t : Text} (h : t.head? ≠ some (.char '0')) :
    wholeDigits t = t.takeWhile isDigit :=
  wholeDigits.eq_2 t fun r hr => h (by rw [hr]; rfl)

theorem take_wholeDigits (t : Text) : t.take (wholeDigits t).length = wholeDigits t := by
  by_cases hzero : t.head? = some (.char '0')
  · obtain ⟨r, rfl⟩ := List.head?_eq_some_iff.mp hzero
    rfl
  · rw [wholeDigits_of_head hzero]
    exact take_takeWhile t

theorem EndsDigits.wholeDigits_append {rest : Text} (h : EndsDigits rest) (t : Text) :
    wholeDigits (wholeDigits t ++ rest) = wholeDigits t := by
  by_cases hzero : t.head? = some (.char '0')
  · obtain ⟨r, rfl⟩ := List.head?_eq_some_iff.mp hzero
    rfl
  · have hagain : (t.takeWhile isDigit ++ rest).takeWhile isDigit = t.takeWhile isDigit :=
      h.takeWhile_append fun _ => List.mem_takeWhile_imp
    rw [wholeDigits_of_head hzero, wholeDigits_of_head ?_, hagain]
    intro hhead
    cases hdigits : t.takeWhile isDigit with
    | nil =>
      rw [hdigits, List.nil_append] at hhead
      exact absurd (h _ hhead) (by decide)
    | cons c ds =>
      obtain ⟨r, hr⟩ := List.takeWhile_prefix (l := t) isDigit
      rw [hdigits] at hhead hr
      exact hzero (by rw [← hr]; exact hhead)

/-! ### The fraction -/

/-- How long the fraction at the start of the text is, with its point. -/
def fractionLength (t : Text) : Nat :=
  if (fractionDigits t).isEmpty then 0 else (fractionDigits t).length + 1

theorem fractionDigits_of_head {t : Text} (h : t.head? ≠ some (.char '.')) :
    fractionDigits t = [] :=
  fractionDigits.eq_2 t fun r hr => h (by rw [hr]; rfl)

/-- There is no fraction, or it begins with a point. -/
theorem fraction_cases (t : Text) :
    fractionDigits t = [] ∧ fractionLength t = 0 ∨
      ∃ r : Text, t = .char '.' :: r ∧ fractionDigits t = r.takeWhile isDigit ∧
        fractionLength t = (r.takeWhile isDigit).length + 1 := by
  by_cases hempty : fractionDigits t = []
  · exact Or.inl ⟨hempty, by simp [fractionLength, hempty]⟩
  · have hhead : t.head? = some (.char '.') := by
      by_contra hhead
      exact hempty (fractionDigits_of_head hhead)
    obtain ⟨r, rfl⟩ := List.head?_eq_some_iff.mp hhead
    exact Or.inr ⟨r, rfl, rfl, if_neg (by simpa using hempty)⟩

theorem length_take_fractionLength (t : Text) :
    (t.take (fractionLength t)).length = fractionLength t := by
  rcases fraction_cases t with ⟨-, hlength⟩ | ⟨r, rfl, -, hlength⟩
  · simp [hlength]
  · rw [hlength, List.take_succ_cons, take_takeWhile, List.length_cons]

section Rest

variable {rest : Text} (h : EndsDigits rest)

include h

theorem EndsDigits.fraction_append (t : Text) :
    EndsDigits (t.take (fractionLength t) ++ rest) := by
  rcases fraction_cases t with ⟨-, hlength⟩ | ⟨r, rfl, -, hlength⟩
  · rwa [hlength]
  · rw [hlength]
    rintro _ ⟨⟩
    rfl

theorem EndsDigits.fractionDigits_append (hpoint : rest.head? ≠ some (.char '.')) (t : Text) :
    fractionDigits (t.take (fractionLength t) ++ rest) = fractionDigits t := by
  rcases fraction_cases t with ⟨hnone, hlength⟩ | ⟨r, rfl, hdigits, hlength⟩
  · rw [hlength, List.take_zero, List.nil_append, hnone, fractionDigits_of_head hpoint]
  · rw [hlength, hdigits, List.take_succ_cons, take_takeWhile]
    exact h.takeWhile_append fun _ => List.mem_takeWhile_imp

end Rest

/-! ### The exponent -/

/-- How long the exponent at the start of the text is. -/
def exponentLength (t : Text) : Nat :=
  match exponentPart t with
  | some (_, _, n) => n
  | none => 0

/-- How an exponent begins, and whether it is a negative one. -/
def exponentLeads : List (Text × Bool) :=
  [(Text.ofString "e-", true), (Text.ofString "E-", true), (Text.ofString "e+", false),
    (Text.ofString "E+", false), (Text.ofString "e", false), (Text.ofString "E", false)]

theorem head_of_mem_exponentLeads {lead : Text × Bool} (h : lead ∈ exponentLeads) :
    ∃ c r, lead.1 = c :: r ∧ (c = .char 'e' ∨ c = .char 'E') := by
  simp only [exponentLeads, List.mem_cons, List.not_mem_nil, or_false] at h
  rcases h with rfl | rfl | rfl | rfl | rfl | rfl
  all_goals first | exact ⟨_, _, rfl, Or.inl rfl⟩ | exact ⟨_, _, rfl, Or.inr rfl⟩

theorem exponentPart_of_lead {lead : Text × Bool} (hlead : lead ∈ exponentLeads) {r : Text}
    (hr : r.takeWhile isDigit ≠ []) :
    exponentPart (lead.1 ++ r) = some (lead.2, r.takeWhile isDigit,
      lead.1.length + (r.takeWhile isDigit).length) := by
  have hdigits : (r.takeWhile isDigit).isEmpty = false := by simpa using hr
  -- a digit comes first, so no sign does
  have hsign : ∀ c : Char, isDigit (.char c) = false → ∀ r', r = .char c :: r' → False := by
    rintro c hc r' rfl
    simp [hc] at hr
  have hminus := hsign '-' (by decide)
  have hplus := hsign '+' (by decide)
  simp only [exponentLeads, List.mem_cons, List.not_mem_nil, or_false] at hlead
  rcases hlead with rfl | rfl | rfl | rfl | rfl | rfl
  · exact (exponentPart.eq_1 r).trans (if_neg (by simp [hdigits]))
  · exact (exponentPart.eq_2 r).trans (if_neg (by simp [hdigits]))
  · exact (exponentPart.eq_3 r).trans (if_neg (by simp [hdigits]))
  · exact (exponentPart.eq_4 r).trans (if_neg (by simp [hdigits]))
  · exact (exponentPart.eq_5 r hminus hplus).trans (if_neg (by simp [hdigits]))
  · exact (exponentPart.eq_6 r hminus hplus).trans (if_neg (by simp [hdigits]))

/-- An exponent is one of these beginnings with digits behind it. -/
theorem exists_lead_of_exponentPart {t ds : Text} {negative : Bool} {n : Nat}
    (h : exponentPart t = some (negative, ds, n)) :
    ∃ lead ∈ exponentLeads, ∃ r, t = lead.1 ++ r ∧ negative = lead.2 ∧
      ds = r.takeWhile isDigit ∧ ds ≠ [] ∧ n = lead.1.length + ds.length := by
  have hread : ∀ {b : Bool} {k : Nat} {r : Text},
      (if (r.takeWhile isDigit).isEmpty then none
        else some (b, r.takeWhile isDigit, k + (r.takeWhile isDigit).length)) =
          some (negative, ds, n) →
      negative = b ∧ ds = r.takeWhile isDigit ∧ ds ≠ [] ∧ n = k + ds.length := by
    intro b k r hsome
    split at hsome
    · cases hsome
    · next hne =>
      cases hsome
      exact ⟨rfl, rfl, by simpa using hne, rfl⟩
  unfold exponentPart at h
  split at h
  · exact ⟨(Text.ofString "e-", true), by simp [exponentLeads], _, rfl, hread h⟩
  · exact ⟨(Text.ofString "E-", true), by simp [exponentLeads], _, rfl, hread h⟩
  · exact ⟨(Text.ofString "e+", false), by simp [exponentLeads], _, rfl, hread h⟩
  · exact ⟨(Text.ofString "E+", false), by simp [exponentLeads], _, rfl, hread h⟩
  · exact ⟨(Text.ofString "e", false), by simp [exponentLeads], _, rfl, hread h⟩
  · exact ⟨(Text.ofString "E", false), by simp [exponentLeads], _, rfl, hread h⟩
  · cases h

/-- There is no exponent, or it begins with its letter. -/
theorem take_exponentLength (t : Text) :
    exponentPart t = none ∧ t.take (exponentLength t) = [] ∨
      ∃ lead ∈ exponentLeads, ∃ r : Text,
        t.take (exponentLength t) = lead.1 ++ r.takeWhile isDigit ∧
        r.takeWhile isDigit ≠ [] ∧
        exponentPart t = some (lead.2, r.takeWhile isDigit,
          lead.1.length + (r.takeWhile isDigit).length) := by
  cases hpart : exponentPart t with
  | none => exact Or.inl ⟨rfl, by simp [exponentLength, hpart]⟩
  | some e =>
    obtain ⟨negative, ds, n⟩ := e
    obtain ⟨lead, hlead, r, rfl, rfl, rfl, hne, rfl⟩ := exists_lead_of_exponentPart hpart
    refine Or.inr ⟨lead, hlead, r, ?_, hne, rfl⟩
    rw [exponentLength, hpart, List.take_length_add_append]
    exact congrArg _ (take_takeWhile r)

section Rest

variable {rest : Text} (h : EndsNumber rest)

include h

theorem EndsNumber.exponentPart_append (t : Text) :
    exponentPart (t.take (exponentLength t) ++ rest) = exponentPart t := by
  rcases take_exponentLength t with ⟨hnone, htake⟩ | ⟨lead, hlead, r, htake, hne, hsome⟩
  · rw [htake, List.nil_append, hnone, h.exponentPart_eq]
  · have hdigits : (r.takeWhile isDigit ++ rest).takeWhile isDigit = r.takeWhile isDigit :=
      h.endsDigits.takeWhile_append fun _ => List.mem_takeWhile_imp
    rw [htake, List.append_assoc, exponentPart_of_lead hlead (by rwa [hdigits]), hdigits, hsome]

/-- Neither a digit nor a point comes where an exponent may come. -/
theorem EndsNumber.exponent_append (t : Text) :
    EndsDigits (t.take (exponentLength t) ++ rest) ∧
      (t.take (exponentLength t) ++ rest).head? ≠ some (.char '.') := by
  rcases take_exponentLength t with ⟨-, htake⟩ | ⟨lead, hlead, r, htake, -⟩
  · rw [htake]
    exact ⟨h.endsDigits, fun hpoint => (h _ hpoint).2.1 rfl⟩
  · obtain ⟨c, lead', hc, hletter⟩ := head_of_mem_exponentLeads hlead
    rw [htake, hc]
    constructor
    · rintro _ ⟨⟩
      rcases hletter with rfl | rfl <;> decide
    · rintro ⟨⟩
      rcases hletter with hletter | hletter <;> cases hletter

end Rest

/-! ### Words and numbers -/

/-- A number behind its sign. -/
def readMagnitude (negative : Bool) (sign : Nat) (t : Text) :
    Option (Except Stop Json × Nat) :=
  if (wholeDigits t).isEmpty then none
  else
    let behind := t.drop (wholeDigits t).length
    some (numberValue negative (wholeDigits t) (fractionDigits behind)
        (exponentPart (behind.drop (fractionLength behind))),
      sign + (wholeDigits t).length + fractionLength behind +
        exponentLength (behind.drop (fractionLength behind)))

theorem readNumber_minus (r : Text) : readNumber (.char '-' :: r) = readMagnitude true 1 r := rfl

theorem readNumber_of_head {t : Text} (h : t.head? ≠ some (.char '-')) :
    readNumber t = readMagnitude false 0 t :=
  readNumber.eq_2 t fun r hr => h (by rw [hr]; rfl)

theorem exists_of_readMagnitude {negative : Bool} {sign n : Nat} {t : Text}
    {v : Except Stop Json} (h : readMagnitude negative sign t = some (v, n)) :
    ∃ c r m, t = c :: r ∧ isDigit c = true ∧ n = sign + (m + 1) := by
  unfold readMagnitude at h
  split at h
  · cases h
  · next hne =>
    have hpos : 0 < (wholeDigits t).length := List.length_pos_iff.mpr (by simpa using hne)
    have hn := (Prod.mk.inj (Option.some.inj h)).2
    obtain ⟨m, hm⟩ : ∃ m, n = sign + (m + 1) := ⟨n - sign - 1, by omega⟩
    by_cases hzero : t.head? = some (.char '0')
    · obtain ⟨r, rfl⟩ := List.head?_eq_some_iff.mp hzero
      exact ⟨_, r, m, rfl, rfl, hm⟩
    · rw [wholeDigits_of_head hzero] at hpos
      cases t with
      | nil => simp at hpos
      | cons c r =>
        refine ⟨c, r, m, rfl, ?_, hm⟩
        by_contra hdigit
        simp [hdigit] at hpos

section Rest

variable {rest : Text} (h : EndsNumber rest)

include h

theorem EndsNumber.readMagnitude_append {negative : Bool} {sign n : Nat} {t : Text}
    {v : Except Stop Json} (hread : readMagnitude negative sign t = some (v, sign + n)) :
    readMagnitude negative sign (t.take n ++ rest) = some (v, sign + n) := by
  unfold readMagnitude at hread
  split at hread
  · cases hread
  · next hne =>
    obtain ⟨hvalue, hn⟩ := Prod.mk.inj (Option.some.inj hread)
    generalize hbehind : t.drop (wholeDigits t).length = behind at hvalue hn
    generalize hlast : behind.drop (fractionLength behind) = last at hvalue hn
    -- the number in front of the rest, part by part
    have hsplit : t.take n ++ rest = wholeDigits t ++ (behind.take (fractionLength behind) ++
        (last.take (exponentLength last) ++ rest)) := by
      rw [show n = (wholeDigits t).length + (fractionLength behind + exponentLength last) by omega,
        List.take_add, List.take_add, take_wholeDigits, hbehind, hlast, List.append_assoc,
        List.append_assoc]
    obtain ⟨hdigits, hpoint⟩ := h.exponent_append last
    have hwhole := (hdigits.fraction_append behind).wholeDigits_append t
    have hfraction := hdigits.fractionDigits_append hpoint behind
    have hexponent := h.exponentPart_append last
    have hfractionLength : fractionLength (behind.take (fractionLength behind) ++
        (last.take (exponentLength last) ++ rest)) = fractionLength behind := by
      rw [fractionLength, hfraction, fractionLength]
    have hexponentLength : exponentLength (last.take (exponentLength last) ++ rest) =
        exponentLength last := by
      rw [exponentLength, hexponent, exponentLength]
    rw [hsplit, readMagnitude, hwhole, if_neg hne, List.drop_left' rfl]
    dsimp only
    rw [hfraction, hfractionLength, List.drop_left' (length_take_fractionLength behind), hexponent,
      hexponentLength, hvalue, hn]

/-- What has been read as a word or a number is read again before all that ends a number. -/
theorem EndsNumber.readScalar_append {n : Nat} {t : Text} {v : Except Stop Json}
    (hread : readScalar t = some (v, n)) : readScalar (t.take n ++ rest) = some (v, n) := by
  unfold readScalar at hread
  split at hread
  · next w hword =>
    obtain ⟨rfl, rfl⟩ := Prod.mk.inj (Option.some.inj hread)
    have hfound : t.startsWith w.1 = true := by
      simpa using List.find?_some hword
    have hstarts : w.1 <+: t := List.isPrefixOf_iff_prefix.mp hfound
    rw [← List.prefix_iff_eq_take.mp hstarts]
    have hmem := List.mem_of_find?_eq_some hword
    simp only [words, List.mem_cons, List.not_mem_nil, or_false] at hmem
    rcases hmem with rfl | rfl | rfl | rfl | rfl | rfl <;> rfl
  · by_cases hminus : t.head? = some (.char '-')
    · obtain ⟨r, rfl⟩ := List.head?_eq_some_iff.mp hminus
      rw [readNumber_minus] at hread
      obtain ⟨c, r, m, rfl, hc, rfl⟩ := exists_of_readMagnitude hread
      have hagain := h.readMagnitude_append hread
      have htake : (Symbol.char '-' :: c :: r).take (1 + (m + 1)) =
          .char '-' :: c :: r.take m := by
        rw [Nat.add_comm 1]
        rfl
      rw [htake]
      exact (readScalar_of_minus hc).trans hagain
    · rw [readNumber_of_head hminus] at hread
      obtain ⟨c, r, m, rfl, hc, rfl⟩ := exists_of_readMagnitude hread
      have hagain := h.readMagnitude_append hread
      rw [Nat.zero_add, List.take_succ_cons, List.cons_append] at hagain ⊢
      exact (readScalar_of_isDigit hc).trans
        ((readNumber_of_head (t := c :: (r.take m ++ rest)) hminus).trans hagain)

end Rest

/-! ## Strings -/

/-- A string ends at its quote, whatever stands behind it. -/
theorem readPieces_append {start : Nat} {t rest : Text} {ps : List Piece}
    (h : readPieces start t = .ok (ps, rest)) (start' : Nat) (more : Text) :
    readPieces start' (t ++ more) = .ok (ps, rest ++ more) := by
  fun_induction readPieces start t generalizing ps rest with
  | case2 r =>
    cases h
    exact readPieces.eq_2 _ _
  | case5 a b c d next r n hvalue pieces rest' hread ih =>
    cases h
    have hmore := ih hread
    simp only [List.cons_append] at hmore ⊢
    rw [readPieces.eq_3, hvalue, hmore]
  | case9 s r hnot hunit e he pieces rest' hread ih =>
    cases h
    have hmore := ih hread
    simp only [List.cons_append] at hmore ⊢
    rw [readPieces.eq_4 _ _ _ fun _ _ _ _ _ _ hs _ => hunit hs, if_neg hunit, he, hmore]
  | case13 s r hquote hlong hshort hlast hcode pieces rest' hread ih =>
    cases h
    have hmore := ih hread
    have hescape : s ≠ .char '\\' := by
      rintro rfl
      cases r with
      | nil => exact hlast rfl rfl
      | cons s r => exact hshort s r rfl rfl
    simp only [List.cons_append] at hmore ⊢
    rw [readPieces.eq_6 _ _ _ hquote (fun _ _ _ _ _ _ hs _ => hescape hs)
      (fun _ _ hs _ => hescape hs) fun hs _ => hescape hs, if_neg hcode, hmore]
  | _ => cases h

theorem readString_append {start : Nat} {s t rest : Text} (h : readString start s = .ok (t, rest))
    (start' : Nat) (more : Text) : readString start' (s ++ more) = .ok (t, rest ++ more) := by
  unfold readString at h
  split at h
  · cases h
  · next pieces r hpieces =>
    cases h
    rw [readString, readPieces_append hpieces start' more]

/-! ## Values -/

theorem dropSpace_append_of_ne_nil {r : Text} (h : dropSpace r ≠ []) (more : Text) :
    dropSpace (r ++ more) = dropSpace r ++ more := by
  rw [dropSpace, List.dropWhile_append, if_neg (by simpa [dropSpace] using h)]
  rfl

theorem dropSpace_append_of_cons {r rest : Text} {c : Symbol} (h : dropSpace r = c :: rest)
    (more : Text) : dropSpace (r ++ more) = c :: (rest ++ more) := by
  rw [dropSpace_append_of_ne_nil (by simp [h]), h, List.cons_append]

/-- No digit, point or exponent stands before a comma or a closing bracket. -/
theorem endsNumber_of_dropSpace {r rest : Text} {c : Symbol}
    (hc : c = .char ',' ∨ c = .char ']' ∨ c = .char '}') (h : dropSpace r = c :: rest) :
    r ≠ [] ∧ EndsNumber r := by
  cases r with
  | nil => cases h
  | cons s r =>
    refine ⟨List.cons_ne_nil s r, ?_⟩
    by_cases hs : isSpace s = true
    · simp only [isSpace, Bool.or_eq_true, decide_eq_true_eq, or_assoc] at hs
      rintro _ ⟨⟩
      rcases hs with rfl | rfl | rfl | rfl <;> exact ⟨by decide, by decide, by decide, by decide⟩
    · rw [dropSpace, List.dropWhile_cons_of_neg hs] at h
      obtain ⟨rfl, -⟩ := List.cons.inj h
      exact endsNumber_cons hc r

/-- What stands behind the part shows where it ends. Only a word or a number has no end of its own.
-/
def Part.Ends (rest : Text) : Part → Prop
  | value v => IsAtom v → rest ≠ [] ∧ EndsNumber rest
  | _ => True

theorem EndsNumber.append {rest : Text} (hne : rest ≠ []) (h : EndsNumber rest) (more : Text) :
    EndsNumber (rest ++ more) := by
  cases rest with
  | nil => exact absurd rfl hne
  | cons s rest => exact fun s' hs' => h s' hs'

theorem Begins.ne_nil {room : Nat} {s rest : Text} {part : Part} (h : Begins room s part rest) :
    s ≠ [] := by
  induction h with
  | lastItem _ _ ih => exact ih
  | moreItems _ _ _ ih => exact ih
  | _ => exact List.cons_ne_nil _ _

/-- **A part is found again, whatever is put behind the text**, and what stood behind it with it. -/
theorem Begins.append {room : Nat} {s rest : Text} {part : Part} (h : Begins room s part rest)
    (hends : part.Ends rest) (more : Text) : Begins room (s ++ more) part (rest ++ more) := by
  -- the token behind an inner value shows where this ends, so only the outermost one is in question
  induction h with
  | string ht => exact .string (readString_append ht _ more)
  | emptyArray hr => exact .emptyArray (dropSpace_append_of_cons hr more)
  | array hitems ih =>
    rw [List.cons_append]
    refine .array ?_
    rw [dropSpace_append_of_ne_nil hitems.ne_nil]
    exact ih trivial
  | emptyObject hr => exact .emptyObject (dropSpace_append_of_cons hr more)
  | object hmembers ih =>
    rw [List.cons_append]
    refine .object ?_
    rw [dropSpace_append_of_ne_nil hmembers.ne_nil]
    exact ih trivial
  | @scalar room n c r v hquote hbracket hbrace hv =>
    obtain ⟨hne, hend⟩ := hends (isAtom_of_readScalar hv)
    have hagain := (hend.append hne more).readScalar_append hv
    have hn : n ≤ r.length := (List.length_lt_of_drop_ne_nil hne).le
    rw [List.take_succ_cons, List.cons_append, ← List.append_assoc, List.take_append_drop]
      at hagain
    rw [← List.drop_append_of_le_length hn]
    exact .scalar hquote hbracket hbrace hagain
  | lastItem _ hr ih =>
    exact .lastItem (ih fun _ => endsNumber_of_dropSpace (.inr (.inl rfl)) hr)
      (dropSpace_append_of_cons hr more)
  | moreItems _ hr hmore ih ihmore =>
    refine .moreItems (ih fun _ => endsNumber_of_dropSpace (.inl rfl) hr)
      (dropSpace_append_of_cons hr more) ?_
    rw [dropSpace_append_of_ne_nil hmore.ne_nil]
    exact ihmore trivial
  | lastMember hname hcolon hv hr ih =>
    refine .lastMember (readString_append hname _ more) (dropSpace_append_of_cons hcolon more) ?_
      (dropSpace_append_of_cons hr more)
    rw [dropSpace_append_of_ne_nil hv.ne_nil]
    exact ih fun _ => endsNumber_of_dropSpace (.inr (.inr rfl)) hr
  | moreMembers hname hcolon hv hr hmore ih ihmore =>
    refine .moreMembers (readString_append hname _ more) (dropSpace_append_of_cons hcolon more) ?_
      (dropSpace_append_of_cons hr more) ?_
    · rw [dropSpace_append_of_ne_nil hv.ne_nil]
      exact ih fun _ => endsNumber_of_dropSpace (.inl rfl) hr
    · rw [dropSpace_append_of_ne_nil hmore.ne_nil]
      exact ihmore trivial

/-! ## Where a part ends -/

/-- What closes a part. A word or a number has nothing of the sort. -/
def Part.closing : Part → Text
  | value (.string _) => [.char '"']
  | value (.array _) | items _ => [.char ']']
  | value (.object _) | members _ => [.char '}']
  | value _ => []

theorem Part.closing_of_isAtom {v : Json} (h : IsAtom v) : (value v).closing = [] := by
  cases h <;> rfl

theorem suffix_of_readPieces {start : Nat} {s rest : Text} {ps : List Piece}
    (h : readPieces start s = .ok (ps, rest)) : .char '"' :: rest <:+ s := by
  fun_induction readPieces start s generalizing ps rest with
  | case2 r =>
    cases h
    exact List.suffix_refl _
  | case5 a b c d next r n hvalue pieces rest' hread ih =>
    cases h
    exact (ih hread).trans ⟨[_, _, _, _, _, _], rfl⟩
  | case9 s r hnot hunit e he pieces rest' hread ih =>
    cases h
    exact (ih hread).trans ⟨[_, _], rfl⟩
  | case13 s r hquote hlong hshort hlast hcode pieces rest' hread ih =>
    cases h
    exact (ih hread).trans (List.suffix_cons _ _)
  | _ => cases h

theorem suffix_of_readString {start : Nat} {s t rest : Text}
    (h : readString start s = .ok (t, rest)) : .char '"' :: rest <:+ s := by
  unfold readString at h
  split at h
  · cases h
  · next hpieces =>
    cases h
    exact suffix_of_readPieces hpieces

theorem suffix_of_dropSpace {t rest : Text} {c : Symbol} (h : dropSpace t = c :: rest) :
    c :: rest <:+ t := h ▸ List.dropWhile_suffix _

theorem suffix_of_suffix_dropSpace {t rest : Text} (h : rest <:+ dropSpace t) : rest <:+ t :=
  h.trans (List.dropWhile_suffix _)

/-- The value of a member stands behind its name. -/
theorem suffix_of_member {start : Nat} {r name afterName afterColon rest : Text}
    (hname : readString start r = .ok (name, afterName))
    (hcolon : dropSpace afterName = .char ':' :: afterColon) (h : rest <:+ dropSpace afterColon) :
    rest <:+ .char '"' :: r := by
  have hcolon' := (List.suffix_cons _ _).trans (suffix_of_dropSpace hcolon)
  have hname' := (List.suffix_cons _ _).trans (suffix_of_readString hname)
  exact (suffix_of_suffix_dropSpace h).trans
    (hcolon'.trans (hname'.trans (List.suffix_cons _ _)))

/-- What closes a part stands right before what is left. -/
theorem Begins.suffix {room : Nat} {s rest : Text} {part : Part} (h : Begins room s part rest) :
    part.closing ++ rest <:+ s := by
  induction h with
  | string ht => exact (suffix_of_readString ht).trans (List.suffix_cons _ _)
  | emptyArray hr => exact (suffix_of_dropSpace hr).trans (List.suffix_cons _ _)
  | array _ ih => exact (suffix_of_suffix_dropSpace ih).trans (List.suffix_cons _ _)
  | emptyObject hr => exact (suffix_of_dropSpace hr).trans (List.suffix_cons _ _)
  | object _ ih => exact (suffix_of_suffix_dropSpace ih).trans (List.suffix_cons _ _)
  | scalar _ _ _ hv =>
    rw [Part.closing_of_isAtom (isAtom_of_readScalar hv)]
    exact (List.drop_suffix _ _).trans (List.suffix_cons _ _)
  | lastItem _ hr ih => exact (suffix_of_dropSpace hr).trans ((List.suffix_append _ _).trans ih)
  | moreItems _ hr _ ih ihmore =>
    have hmore := (List.suffix_cons _ _).trans (suffix_of_dropSpace hr)
    exact (suffix_of_suffix_dropSpace ihmore).trans
      (hmore.trans ((List.suffix_append _ _).trans ih))
  | lastMember hname hcolon _ hr ih =>
    exact (suffix_of_dropSpace hr).trans
      (suffix_of_member hname hcolon ((List.suffix_append _ _).trans ih))
  | moreMembers hname hcolon _ hr _ ih ihmore =>
    have hmore := (List.suffix_cons _ _).trans (suffix_of_dropSpace hr)
    exact (suffix_of_suffix_dropSpace ihmore).trans
      (hmore.trans (suffix_of_member hname hcolon ((List.suffix_append _ _).trans ih)))

/-! ## Whole texts -/

theorem dropSpace_eq_nil_iff {t : Text} : dropSpace t = [] ↔ ∀ s ∈ t, isSpace s = true :=
  List.dropWhile_eq_nil_iff

theorem dropSpace_append_of_blank {blanks : Text} (h : ∀ s ∈ blanks, isSpace s = true) (t : Text) :
    dropSpace (blanks ++ t) = dropSpace t := List.dropWhile_append_of_pos h

/-- Behind a whole value nothing but white space is taken. -/
theorem read_of_extra [Limits] {text rest : Text} {v : Json}
    (hmark : text.head? ≠ some (.char '\ufeff'))
    (hbegins : Begins depthLimit (dropSpace text) (.value v) rest) (hrest : dropSpace rest ≠ []) :
    ∃ place, read text = .error (.malformed .extra place) := by
  obtain ⟨rest', hv, rfl⟩ := hbegins.isRead
  have hdocument : readDocument text =
      .error (.problem .extra (dropSpace rest'.val).length) := by
    rw [readDocument.eq_2 _ fun t ht => hmark (by rw [ht]; rfl), hv]
    split
    · next h => cases h
    · next h =>
      cases h
      split
      · next hnil => exact absurd hnil hrest
      · rfl
  rw [read, hdocument]
  exact ⟨_, rfl⟩

/-- White space in front of a text leaves the value where it is, and so does all that is put behind
the text. -/
theorem Begins.surround [Limits] {text rest before : Text} {v : Json}
    (hbegins : Begins depthLimit (dropSpace text) (.value v) rest)
    (hends : (Part.value v).Ends rest) (hbefore : ∀ s ∈ before, isSpace s = true) (more : Text) :
    Begins depthLimit (dropSpace (before ++ text ++ more)) (.value v) (rest ++ more) := by
  rw [List.append_assoc, dropSpace_append_of_blank hbefore,
    dropSpace_append_of_ne_nil hbegins.ne_nil]
  exact hbegins.append hends more

/-- White space is no byte order mark. -/
theorem head?_surround {text before : Text} (hne : text ≠ [])
    (hmark : text.head? ≠ some (.char '\ufeff')) (hbefore : ∀ s ∈ before, isSpace s = true)
    (more : Text) : (before ++ text ++ more).head? ≠ some (.char '\ufeff') := by
  cases before with
  | nil =>
    cases text with
    | nil => exact absurd rfl hne
    | cons s text => exact hmark
  | cons s before =>
    have hs := hbefore s List.mem_cons_self
    rintro ⟨⟩
    exact absurd hs (by decide)

theorem ne_nil_of_dropSpace {t : Text} (h : dropSpace t ≠ []) : t ≠ [] := by
  rintro rfl
  exact h rfl

section Read

variable [Limits] {text : Text} {v : Json} (h : read text = .ok v) (hv : ¬ IsAtom v)

include h hv

/-- **A text that is read is not read with more behind it**: all but white space is extra. -/
theorem read_append_extra {more : Text} (hmore : ∃ s ∈ more, isSpace s = false) :
    ∃ place, read (text ++ more) = .error (.malformed .extra place) := by
  obtain ⟨hmark, rest, hbegins, -⟩ := read_eq_ok_iff.mp h
  have hblank : ∀ s ∈ ([] : Text), isSpace s = true := fun _ hs => absurd hs List.not_mem_nil
  have hlonger := hbegins.surround (fun hatom => absurd hatom hv) hblank more
  refine read_of_extra (head?_surround (ne_nil_of_dropSpace hbegins.ne_nil) hmark hblank more)
    hlonger ?_
  rw [Ne, dropSpace_eq_nil_iff]
  obtain ⟨s, hs, hnot⟩ := hmore
  exact fun hall => Bool.false_ne_true (hnot.symm.trans (hall s (List.mem_append_right _ hs)))

/-- White space around a text changes nothing. -/
theorem read_surround {before after : Text} (hbefore : ∀ s ∈ before, isSpace s = true)
    (hafter : ∀ s ∈ after, isSpace s = true) : read (before ++ text ++ after) = .ok v := by
  obtain ⟨hmark, rest, hbegins, hrest⟩ := read_eq_ok_iff.mp h
  refine read_eq_ok_iff.mpr
    ⟨head?_surround (ne_nil_of_dropSpace hbegins.ne_nil) hmark hbefore after, rest ++ after,
      hbegins.surround (fun hatom => absurd hatom hv) hbefore after, ?_⟩
  rw [dropSpace_eq_nil_iff] at hrest ⊢
  intro s hs
  exact (List.mem_append.mp hs).elim (hrest s) (hafter s)

end Read

end LogHarvest.Json
