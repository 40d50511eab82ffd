import LogHarvest.Proofs.Json.Locality

/-!
# Where the reader gives up

A text that is no JSON is malformed at some place. But the reader also stops at an integer with too
many digits and at a bracket beyond its depth, whatever comes behind them. Here the texts at which
it does so are told by a relation that follows the grammar: up to the stop the text is read, and
then one of the two stands there (`GivesUp`).
-/

namespace LogHarvest.Json

/-! ## Long integers -/

/-- Digits of an integer that has too many of them, and what stands behind it: no further digit,
fraction or exponent. -/
structure IsLong (digits rest : Text) : Prop where
  all : ∀ s ∈ digits, isDigit s = true
  head : digits.head? ≠ some (.char '0')
  long : Integer.digitLimit < digits.length
  ends : EndsDigits rest
  noFraction : fractionDigits rest = []
  noExponent : exponentPart rest = none

theorem IsLong.exists_cons {digits rest : Text} (h : IsLong digits rest) :
    ∃ c r, digits = c :: r ∧ isDigit c = true := by
  cases digits with
  | nil => exact absurd h.long (Nat.not_lt_zero _)
  | cons c r => exact ⟨c, r, rfl, h.all c List.mem_cons_self⟩

/-- All of its digits are read, and then they are counted. -/
theorem IsLong.readMagnitude {digits rest : Text} (h : IsLong digits rest) (negative : Bool)
    (sign : Nat) : readMagnitude negative sign (digits ++ rest) =
      some (.error (.tooLong digits.length), sign + digits.length) := by
  obtain ⟨c, r, hcons, -⟩ := h.exists_cons
  have hne : digits ≠ [] := hcons ▸ List.cons_ne_nil c r
  have hhead : (digits ++ rest).head? ≠ some (.char '0') := by
    rw [List.head?_append_of_ne_nil _ hne]
    exact h.head
  have hwhole : wholeDigits (digits ++ rest) = digits := by
    rw [wholeDigits_of_head hhead]
    exact h.ends.takeWhile_append h.all
  have hfraction : fractionLength rest = 0 := by simp [fractionLength, h.noFraction]
  have hexponent : exponentLength rest = 0 := by simp [exponentLength, h.noExponent]
  have hvalue : numberValue negative digits [] none = .error (.tooLong digits.length) := by
    simp [numberValue, h.long]
  simp [Json.readMagnitude, hwhole, hne, h.noFraction, hfraction, hexponent, h.noExponent, hvalue]

theorem numberValue_eq_error {negative : Bool} {whole fraction : Text}
    {exponent : Option (Bool × Text × Nat)} {e : Stop}
    (h : numberValue negative whole fraction exponent = .error e) :
    fraction = [] ∧ exponent = none ∧ Integer.digitLimit < whole.length ∧
      e = .tooLong whole.length := by
  unfold numberValue at h
  split at h
  · next hinteger =>
    split at h
    · next hlong =>
      cases h
      simp only [Bool.and_eq_true, List.isEmpty_iff, Option.isNone_iff_eq_none] at hinteger
      exact ⟨hinteger.1, hinteger.2, hlong, rfl⟩
    · cases h
  · cases h

theorem isLong_of_readMagnitude {negative : Bool} {sign n : Nat} {t : Text} {e : Stop}
    (h : Json.readMagnitude negative sign t = some (.error e, n)) :
    ∃ digits rest, t = digits ++ rest ∧ IsLong digits rest ∧ e = .tooLong digits.length := by
  unfold Json.readMagnitude at h
  split at h
  · cases h
  · obtain ⟨hfraction, hexponent, hlong, rfl⟩ :=
      numberValue_eq_error (Prod.mk.inj (Option.some.inj h)).1
    have hhead : t.head? ≠ some (.char '0') := by
      intro hzero
      obtain ⟨r, rfl⟩ := List.head?_eq_some_iff.mp hzero
      exact absurd hlong (by simp [wholeDigits, Integer.digitLimit])
    rw [wholeDigits_of_head hhead] at hfraction hexponent hlong ⊢
    have hdrop : t.drop (t.takeWhile isDigit).length = t.dropWhile isDigit := by
      have hsplit := List.takeWhile_append_dropWhile (p := isDigit) (l := t)
      exact (congrArg (List.drop _) hsplit.symm).trans (List.drop_left' rfl)
    rw [hdrop] at hfraction hexponent
    refine ⟨t.takeWhile isDigit, t.dropWhile isDigit, List.takeWhile_append_dropWhile.symm, ?_, rfl⟩
    refine ⟨fun _ => List.mem_takeWhile_imp, ?_, hlong, ?_, hfraction, ?_⟩
    · intro hzero
      rw [List.head?_takeWhile, Option.filter_eq_some_iff] at hzero
      exact hhead hzero.1
    · intro s hs
      have hfirst := List.head?_dropWhile_not isDigit t
      rw [hs] at hfirst
      exact hfirst
    · simpa [fractionLength, hfraction] using hexponent

/-- The text begins with an integer that has too many digits. -/
inductive BeginsLong : Text → Nat → Prop
  | plain {digits rest : Text} (h : IsLong digits rest) :
      BeginsLong (digits ++ rest) digits.length
  | negative {digits rest : Text} (h : IsLong digits rest) :
      BeginsLong (.char '-' :: (digits ++ rest)) digits.length

theorem BeginsLong.exists_cons {t : Text} {digits : Nat} (h : BeginsLong t digits) :
    ∃ c r, t = c :: r ∧ c ≠ .char '"' ∧ c ≠ .char '[' ∧ c ≠ .char '{' := by
  cases h with
  | @plain digits rest h =>
    obtain ⟨c, r, rfl, hc⟩ := h.exists_cons
    exact ⟨c, r ++ rest, rfl, ne_of_isDigit hc (by decide), ne_of_isDigit hc (by decide),
      ne_of_isDigit hc (by decide)⟩
  | negative h => exact ⟨_, _, rfl, by decide, by decide, by decide⟩

theorem readScalar_of_beginsLong {t : Text} {digits : Nat} (h : BeginsLong t digits) :
    ∃ n, readScalar t = some (.error (.tooLong digits), n + 1) := by
  cases h with
  | @plain digits rest h =>
    obtain ⟨c, r, rfl, hc⟩ := h.exists_cons
    have hminus : (c :: r ++ rest).head? ≠ some (.char '-') := by
      rintro ⟨⟩
      exact ne_of_isDigit hc (by decide) rfl
    refine ⟨r.length, (readScalar_of_isDigit hc).trans ?_⟩
    have hread := h.readMagnitude false 0
    rw [Nat.zero_add] at hread
    exact (readNumber_of_head hminus).trans hread
  | @negative digits rest h =>
    obtain ⟨c, r, rfl, hc⟩ := h.exists_cons
    refine ⟨(c :: r).length, (readScalar_of_minus hc).trans ?_⟩
    rw [Nat.add_comm]
    exact h.readMagnitude true 1

theorem beginsLong_of_readScalar {t : Text} {n : Nat} {e : Stop}
    (h : readScalar t = some (.error e, n)) :
    ∃ digits, BeginsLong t digits ∧ e = .tooLong digits := by
  unfold readScalar at h
  split at h
  · cases h
  · by_cases hminus : t.head? = some (.char '-')
    · obtain ⟨r, rfl⟩ := List.head?_eq_some_iff.mp hminus
      obtain ⟨digits, rest, rfl, hlong, rfl⟩ := isLong_of_readMagnitude h
      exact ⟨_, .negative hlong, rfl⟩
    · rw [readNumber_of_head hminus] at h
      obtain ⟨digits, rest, rfl, hlong, rfl⟩ := isLong_of_readMagnitude h
      exact ⟨_, .plain hlong, rfl⟩

theorem BeginsLong.length {t : Text} {digits : Nat} (h : BeginsLong t digits) :
    Integer.digitLimit < t.length := by
  cases h with
  | plain h =>
    have hlong := h.long
    rw [List.length_append]
    omega
  | negative h =>
    have hlong := h.long
    rw [List.length_cons, List.length_append]
    omega

/-! ## Up to the stop -/

/-- What the reader is about to read. -/
inductive Expected
  | value
  | items
  | members

/-- The reader gives up on what it is about to read: up to the stop the text is as it should be. -/
inductive GivesUp : Nat → Text → Expected → Stop → Prop
  | long {room digits : Nat} {t : Text} (h : BeginsLong t digits) :
      GivesUp room t .value (.tooLong digits)
  | deepArray {r : Text} : GivesUp 0 (.char '[' :: r) .value (.tooDeep .array)
  | deepObject {r : Text} : GivesUp 0 (.char '{' :: r) .value (.tooDeep .object)
  | array {room : Nat} {r : Text} {e : Stop} (h : GivesUp room (dropSpace r) .items e) :
      GivesUp (room + 1) (.char '[' :: r) .value e
  | object {room : Nat} {r : Text} {e : Stop} (h : GivesUp room (dropSpace r) .members e) :
      GivesUp (room + 1) (.char '{' :: r) .value e
  | item {room : Nat} {s : Text} {e : Stop} (h : GivesUp room s .value e) :
      GivesUp room s .items e
  | laterItem {room : Nat} {s r more : Text} {v : Json} {e : Stop}
      (hv : Begins room s (.value v) r) (hr : dropSpace r = .char ',' :: more)
      (h : GivesUp room (dropSpace more) .items e) : GivesUp room s .items e
  | member {room : Nat} {r afterName afterColon name : Text} {e : Stop}
      (hname : readString (r.length + 1) r = .ok (name, afterName))
      (hcolon : dropSpace afterName = .char ':' :: afterColon)
      (h : GivesUp room (dropSpace afterColon) .value e) :
      GivesUp room (.char '"' :: r) .members e
  | laterMember {room : Nat} {r afterName afterColon afterValue more name : Text} {v : Json}
      {e : Stop} (hname : readString (r.length + 1) r = .ok (name, afterName))
      (hcolon : dropSpace afterName = .char ':' :: afterColon)
      (hv : Begins room (dropSpace afterColon) (.value v) afterValue)
      (hr : dropSpace afterValue = .char ',' :: more)
      (h : GivesUp room (dropSpace more) .members e) : GivesUp room (.char '"' :: r) .members e

/-- It does not do so at a symbol that begins nothing. -/
theorem GivesUp.ne_cons {room : Nat} {s : Text} {expected : Expected} {e : Stop} {c : Symbol}
    (h : GivesUp room s expected e) (hquote : c ≠ .char '"') (hbracket : c ≠ .char '[')
    (hbrace : c ≠ .char '{') (hnone : ∀ r, readScalar (c :: r) = none) (r : Text) : s ≠ c :: r := by
  induction h with
  | long h =>
    rintro rfl
    obtain ⟨n, hread⟩ := readScalar_of_beginsLong h
    cases (hnone r).symm.trans hread
  | deepArray => exact fun hs => hbracket (List.cons.inj hs).1.symm
  | array => exact fun hs => hbracket (List.cons.inj hs).1.symm
  | deepObject => exact fun hs => hbrace (List.cons.inj hs).1.symm
  | object => exact fun hs => hbrace (List.cons.inj hs).1.symm
  | item _ ih => exact ih
  | laterItem hv => exact hv.ne_cons hquote hbracket hbrace hnone r
  | member => exact fun hs => hquote (List.cons.inj hs).1.symm
  | laterMember => exact fun hs => hquote (List.cons.inj hs).1.symm

/-- It takes a text that is longer than one of the limits. -/
theorem GivesUp.length {room : Nat} {s : Text} {expected : Expected} {e : Stop}
    (h : GivesUp room s expected e) : min room Integer.digitLimit < s.length := by
  induction h with
  | long h =>
    have hlong := h.length
    omega
  | deepArray => simp
  | deepObject => simp
  | @array room r e _ ih =>
    have hinner := length_dropSpace_le r
    rw [List.length_cons]
    omega
  | @object room r e _ ih =>
    have hinner := length_dropSpace_le r
    rw [List.length_cons]
    omega
  | item _ ih => exact ih
  | laterItem hv hr _ ih =>
    have hmore := length_of_dropSpace_eq_cons hr
    have hrest := hv.suffix.length_le
    rw [List.length_append] at hrest
    omega
  | member hname hcolon _ ih =>
    have hvalue := (suffix_of_member hname hcolon List.suffix_rfl).length_le
    omega
  | laterMember hname hcolon hv hr _ ih =>
    have hmore := length_of_dropSpace_eq_cons hr
    have hrest := (List.suffix_append _ _).trans hv.suffix
    have hvalue := (suffix_of_member hname hcolon hrest).length_le
    omega

/-- The reader stops there with this. -/
def Expected.Stops (room : Nat) (s : Text) (e : Stop) : Expected → Prop
  | value => readValue room s = .error e
  | items => readItems room s = .error e
  | members => readMembers room s = .error e

namespace Expected

variable {room : Nat} {r s : Text} {v : Json} {e : Stop}

theorem stops_long {digits : Nat} {t : Text} (h : BeginsLong t digits) :
    value.Stops room t (.tooLong digits) := by
  obtain ⟨c, r, rfl, hquote, hbracket, hbrace⟩ := h.exists_cons
  obtain ⟨n, hread⟩ := readScalar_of_beginsLong h
  rw [Stops, readValue.eq_7 _ _ _ hquote hbracket hbrace, hread]

theorem stops_array (hne : ∀ more, dropSpace r ≠ .char ']' :: more)
    (h : items.Stops room (dropSpace r) e) : value.Stops (room + 1) (.char '[' :: r) e := by
  rw [Stops, readValue.eq_4]
  split
  · next hr => exact absurd hr (hne _)
  · have h : readItems room (dropSpace r) = .error e := h
    rw [h]

theorem stops_object (hne : ∀ more, dropSpace r ≠ .char '}' :: more)
    (h : members.Stops room (dropSpace r) e) : value.Stops (room + 1) (.char '{' :: r) e := by
  rw [Stops, readValue.eq_6]
  split
  · next hr => exact absurd hr (hne _)
  · have h : readMembers room (dropSpace r) = .error e := h
    rw [h]

theorem stops_item (h : value.Stops room s e) : items.Stops room s e := by
  have h : readValue room s = .error e := h
  rw [Stops, readItems.eq_def, h]

theorem stops_laterItem {more : Text} (hv : (Part.value v).IsRead room s r)
    (hr : dropSpace r = .char ',' :: more) (h : items.Stops room (dropSpace more) e) :
    items.Stops room s e := by
  obtain ⟨r', hread, rfl⟩ := hv
  have h : readItems room (dropSpace more) = .error e := h
  rw [Stops, readItems.eq_def, hread]
  split
  · next herror => cases herror
  · next hok =>
    cases hok
    split
    · next hr' => cases hr.symm.trans hr'
    · next hr' =>
      cases hr.symm.trans hr'
      rw [h]
    · next hother => exact absurd hr (hother _)

variable {name afterName afterColon afterValue : Text}

theorem stops_member (hname : readString (r.length + 1) r = .ok (name, afterName))
    (hcolon : dropSpace afterName = .char ':' :: afterColon)
    (h : value.Stops room (dropSpace afterColon) e) :
    members.Stops room (.char '"' :: r) e := by
  have h : readValue room (dropSpace afterColon) = .error e := h
  rw [Stops, readMembers.eq_1]
  split
  · next hfault => cases hname.symm.trans hfault
  · next hname' =>
    cases hname.symm.trans hname'
    split
    · next hcolon' =>
      cases hcolon.symm.trans hcolon'
      rw [h]
    · next hother => exact absurd hcolon (hother _)

theorem stops_laterMember {more : Text}
    (hname : readString (r.length + 1) r = .ok (name, afterName))
    (hcolon : dropSpace afterName = .char ':' :: afterColon)
    (hv : (Part.value v).IsRead room (dropSpace afterColon) afterValue)
    (hr : dropSpace afterValue = .char ',' :: more)
    (h : members.Stops room (dropSpace more) e) : members.Stops room (.char '"' :: r) e := by
  obtain ⟨r', hread, rfl⟩ := hv
  have h : readMembers room (dropSpace more) = .error e := h
  rw [Stops, readMembers.eq_1]
  split
  · next hfault => cases hname.symm.trans hfault
  · next hname' =>
    cases hname.symm.trans hname'
    split
    · next hcolon' =>
      cases hcolon.symm.trans hcolon'
      rw [hread]
      split
      · next herror => cases herror
      · next hok =>
        cases hok
        split
        · next hr' => cases hr.symm.trans hr'
        · next hr' =>
          cases hr.symm.trans hr'
          rw [h]
        · next hother => exact absurd hr (hother _)
    · next hother => exact absurd hcolon (hother _)

end Expected

/-- Where the relation has it the reader stops. -/
theorem GivesUp.stops {room : Nat} {s : Text} {expected : Expected} {e : Stop}
    (h : GivesUp room s expected e) : expected.Stops room s e := by
  induction h with
  | long h => exact Expected.stops_long h
  | deepArray => exact readValue.eq_3 _
  | deepObject => exact readValue.eq_5 _
  | array h ih =>
    exact Expected.stops_array (h.ne_cons (by decide) (by decide) (by decide) fun _ => rfl) ih
  | object h ih =>
    exact Expected.stops_object (h.ne_cons (by decide) (by decide) (by decide) fun _ => rfl) ih
  | item _ ih => exact Expected.stops_item ih
  | laterItem hv hr _ ih => exact Expected.stops_laterItem hv.isRead hr ih
  | member hname hcolon _ ih => exact Expected.stops_member hname hcolon ih
  | laterMember hname hcolon hv hr _ ih =>
    exact Expected.stops_laterMember hname hcolon hv.isRead hr ih

/-! ## No other stop -/

/-- The reader has met one of its limits. -/
def Stop.IsLimit : Stop → Prop
  | problem _ _ => False
  | tooLong _ => True
  | tooDeep _ => True

theorem GivesUp.isLimit {room : Nat} {s : Text} {expected : Expected} {e : Stop}
    (h : GivesUp room s expected e) : e.IsLimit := by
  induction h with
  | long | deepArray | deepObject => trivial
  | array _ ih | object _ ih | item _ ih | laterItem _ _ _ ih => exact ih
  | member _ _ _ ih | laterMember _ _ _ _ _ ih => exact ih

theorem exists_problem_of_readPieces {start : Nat} {s : Text} {e : Stop}
    (h : readPieces start s = .error e) : ∃ problem left, e = .problem problem left := by
  fun_induction readPieces start s with
  | case4 _ _ _ _ _ _ _ _ _ herror ih =>
    cases h
    exact ih herror
  | case8 _ _ _ _ _ _ _ herror ih =>
    cases h
    exact ih herror
  | case12 _ _ _ _ _ _ _ _ herror ih =>
    cases h
    exact ih herror
  | _ => cases h <;> exact ⟨_, _, rfl⟩

/-- Strings have no limits. -/
theorem not_isLimit_of_readString {start : Nat} {s : Text} {e : Stop}
    (h : readString start s = .error e) : ¬ e.IsLimit := by
  unfold readString at h
  split at h
  · next herror =>
    cases h
    obtain ⟨problem, left, rfl⟩ := exists_problem_of_readPieces herror
    exact id
  · cases h

-- The three are proved by the recursion of the readers. A stop comes from the part that is read
-- last, and what was read before it stands there by the grammar.
mutual

theorem givesUp_of_readValue {room n : Nat} {s : Text} {e : Stop} (hn : s.length = n)
    (he : e.IsLimit) (h : readValue room s = .error e) : GivesUp room s .value e := by
  rw [readValue.eq_def] at h
  split at h
  · cases h
    cases he
  · next r =>
    split at h
    · next hstring =>
      cases h
      exact absurd he (not_isLimit_of_readString hstring)
    · cases h
  · next r =>
    split at h
    · cases h
      exact .deepArray
    · next room =>
      split at h
      · cases h
      · split at h
        · next hitems =>
          cases h
          have hinner := length_dropSpace_le r
          exact .array (givesUp_of_readItems rfl he hitems)
        · cases h
  · next r =>
    split at h
    · cases h
      exact .deepObject
    · next room =>
      split at h
      · cases h
      · split at h
        · next hmembers =>
          cases h
          have hinner := length_dropSpace_le r
          exact .object (givesUp_of_readMembers rfl he hmembers)
        · cases h
  · next c r hquote hbracket hbrace =>
    split at h
    · next value n hscalar =>
      split at h
      · cases h
        obtain ⟨digits, hlong, rfl⟩ := beginsLong_of_readScalar hscalar
        exact .long hlong
      · cases h
    · cases h
      cases he
termination_by (n, 0)
decreasing_by
  all_goals
    simp only [List.length_cons, Prod.lex_def] at *
    omega

theorem givesUp_of_readItems {room n : Nat} {s : Text} {e : Stop} (hn : s.length = n)
    (he : e.IsLimit) (h : readItems room s = .error e) : GivesUp room s .items e := by
  rw [readItems.eq_def] at h
  split at h
  · next hv =>
    cases h
    exact .item (givesUp_of_readValue hn he hv)
  · next v r hshorter hv =>
    split at h
    · cases h
    · next more hr =>
      split at h
      · next hmore =>
        cases h
        have hmoreShorter := length_of_dropSpace_eq_cons hr
        exact .laterItem (begins_of_readValue rfl hv) hr (givesUp_of_readItems rfl he hmore)
      · cases h
    · cases h
      cases he
termination_by (n, 1)
decreasing_by
  · exact Prod.Lex.right _ (by decide)
  · simp only [Prod.lex_def]
    omega

theorem givesUp_of_readMembers {room n : Nat} {s : Text} {e : Stop} (hn : s.length = n)
    (he : e.IsLimit) (h : readMembers room s = .error e) : GivesUp room s .members e := by
  rw [readMembers.eq_def] at h
  split at h
  · next r =>
    split at h
    · next hstring =>
      cases h
      exact absurd he (not_isLimit_of_readString hstring)
    · next name afterName hname =>
      split at h
      · next afterColon hcolon =>
        have hnameShorter := length_readString_lt hname
        have hcolonShorter := length_of_dropSpace_eq_cons hcolon
        split at h
        · next hv =>
          cases h
          exact .member hname hcolon (givesUp_of_readValue rfl he hv)
        · next v afterValue hshorter hv =>
          split at h
          · cases h
          · next more hr =>
            split at h
            · next hmore =>
              cases h
              have hmoreShorter := length_of_dropSpace_eq_cons hr
              exact .laterMember hname hcolon (begins_of_readValue rfl hv) hr
                (givesUp_of_readMembers rfl he hmore)
            · cases h
          · cases h
            cases he
      · cases h
        cases he
  · cases h
    cases he
termination_by (n, 1)
decreasing_by
  all_goals
    simp only [List.length_cons, Prod.lex_def] at *
    omega

end

/-! ## Whole texts -/

/-- The fault is a limit of the reader, and the text may be JSON all the same. -/
def Fault.IsLimit : Fault → Prop
  | malformed _ _ => False
  | tooLong _ => True
  | tooDeep _ => True

theorem Stop.isLimit_fault {text : Text} {e : Stop} : (e.fault text).IsLimit ↔ e.IsLimit := by
  cases e <;> rfl

/-- The text exceeds a limit of the reader: there is no mark at its start, and the reader gives up
on the value behind the leading white space. -/
def Exceeds [Limits] (text : Text) (limit : Fault) : Prop :=
  text.head? ≠ some (.char '\ufeff') ∧
    ∃ e, GivesUp depthLimit (dropSpace text) .value e ∧ limit = e.fault text

/-- The reader ends with one of its limits exactly on the texts that exceed it. -/
theorem read_eq_limit_iff [Limits] {text : Text} {limit : Fault} :
    read text = .error limit ∧ limit.IsLimit ↔ Exceeds text limit := by
  constructor
  · rintro ⟨h, hlimit⟩
    rw [read] at h
    split at h
    · cases h
    · next e hdocument =>
      cases h
      have he := Stop.isLimit_fault.mp hlimit
      rw [readDocument.eq_def] at hdocument
      split at hdocument
      · cases hdocument
        cases he
      · next hmark =>
        split at hdocument
        · next hv =>
          cases hdocument
          refine ⟨fun hhead => ?_, _, givesUp_of_readValue rfl he hv, rfl⟩
          obtain ⟨t, rfl⟩ := List.head?_eq_some_iff.mp hhead
          exact hmark _ rfl
        · split at hdocument
          · cases hdocument
          · cases hdocument
            cases he
  · rintro ⟨hmark, e, h, rfl⟩
    refine ⟨read_of_stop (fun rest ht => hmark (by rw [ht]; rfl)) rfl h.stops, ?_⟩
    exact Stop.isLimit_fault.mpr h.isLimit

/-- A text that exceeds a limit is not short. -/
theorem Exceeds.length [Limits] {text : Text} {limit : Fault} (h : Exceeds text limit) :
    200 < text.length := by
  obtain ⟨-, e, hgives, -⟩ := h
  have hlong := hgives.length
  have hspace := length_dropSpace_le text
  have hdepth : 200 ≤ depthLimit := Limits.enough
  have hdigits : 200 ≤ Integer.digitLimit := by decide
  omega

end LogHarvest.Json
