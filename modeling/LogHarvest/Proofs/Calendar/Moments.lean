import LogHarvest.Proofs.Calendar.Days
import LogHarvest.Proofs.Text.Padded
import LogHarvest.Yaml.Timestamp

/-!
# Moments

The moment of an instant in UTC names that instant again (`toInstant_toMoment`), its text is read
back as the same moment (`Timestamp.read_render`), and of two instants with the same microseconds
the earlier one has the smaller text (`compare_render`). The texts agree in the width of every part,
so the first part that differs decides both orders.
-/

namespace LogHarvest

theorem Date.render_eq (d : Date) :
    d.render = Text.padded 4 d.year ++ .char '-' :: (Text.padded 2 d.month ++ .char '-' ::
      Text.padded 2 d.day) := by
  have hdash : Text.ofString "-" = [.char '-'] := rfl
  rw [render, hdash]
  simp only [List.append_assoc, List.cons_append, List.nil_append]

/-- No number of a date that exists is too long for its place. -/
theorem Date.IsProper.fits {d : Date} (h : d.IsProper) :
    d.year < 10000 ∧ d.month < 100 ∧ d.day < 100 := by
  obtain ⟨⟨-, hyear⟩, ⟨-, hmonth⟩, -, hday⟩ := isProper_iff.mp h
  have hlength := monthLength_le d.year d.month
  unfold lastYear at hyear
  omega

namespace Moment

/-- The date, the time of day and the offset exist, and the microseconds make less than a second. -/
structure IsProper (m : Moment) : Prop where
  date : m.date.IsProper
  hour : m.hour ≤ 23
  minute : m.minute ≤ 59
  second : m.second ≤ 59
  micros : m.micros < 1000000
  offset : ∀ k, m.offset = some k → -1440 < k ∧ k < 1440

/-- A moment that exists is made of its numbers. -/
theorem IsProper.make?_eq {m : Moment} (h : m.IsProper) :
    make? (Date.make? m.date.year m.date.month m.date.day) m.hour m.minute m.second m.micros
      m.offset = .ok m := by
  have hchecked :
      make?.checked (.ok m.date) m.hour m.minute m.second m.micros m.offset = .ok m := by
    unfold make?.checked
    dsimp only
    rw [if_neg h.hour.not_gt, if_neg h.minute.not_gt, if_neg h.second.not_gt]
  rw [h.date]
  unfold make?
  split
  · next k hk =>
    have hbounds := h.offset k hk
    rw [if_neg (by omega)]
    exact hchecked
  · exact hchecked

/-- The offset in a text, if there is one. -/
def zone (m : Moment) : Text := (m.offset.map renderOffset).getD []

/-- The end of a text: the fraction of a second and the offset. -/
def ending (m : Moment) : Text :=
  (if m.micros = 0 then [] else .char '.' :: Text.padded 6 m.micros) ++ m.zone

/-- The time of day in a text, and all that follows. -/
def clock (m : Moment) : Text :=
  Text.padded 2 m.hour ++ .char ':' :: (Text.padded 2 m.minute ++ .char ':' ::
    (Text.padded 2 m.second ++ m.ending))

theorem renderOffset_eq (k : Int) :
    renderOffset k = .char (if k < 0 then '-' else '+') ::
      (Text.padded 2 (k.natAbs / 60) ++ .char ':' :: Text.padded 2 (k.natAbs % 60)) := by
  rw [renderOffset]
  split <;> simp [Text.ofString]

theorem render_eq (m : Moment) : m.render = m.date.render ++ .char 'T' :: m.clock := by
  have hdate : Text.ofString "T" = [.char 'T'] := rfl
  have hcolon : Text.ofString ":" = [.char ':'] := rfl
  have hpoint : Text.ofString "." = [.char '.'] := rfl
  rw [render, clock, ending, zone, hdate, hcolon, hpoint]
  cases m.offset <;> simp only [List.append_assoc, List.cons_append, List.nil_append,
    Option.map_none, Option.map_some, Option.getD_none, Option.getD_some]

end Moment

/-! ## Instants -/

namespace Instant

variable {i : Instant}

theorem inCalendar_iff :
    i.inCalendar = true ↔ 0 ≤ i.seconds ∧ i.seconds < calendarSeconds := by simp [inCalendar]

theorem day_lt_of_inCalendar (h : i.inCalendar = true) :
    i.seconds.toNat / 86400 < Date.daysInYears Date.lastYear := by
  obtain ⟨hfirst, hlast⟩ := inCalendar_iff.mp h
  unfold calendarSeconds at hlast
  omega

/-- The moment in UTC names the instant that it was made for. -/
theorem toInstant_toMoment (h : i.inCalendar = true) : i.toMoment.toInstant = i := by
  obtain ⟨hfirst, -⟩ := inCalendar_iff.mp h
  obtain ⟨seconds, micros⟩ := i
  dsimp only at hfirst
  rw [Moment.toInstant, Moment.localSeconds, toMoment, Date.dayNumber_ofDayNumber]
  simp only [Option.getD_some, Instant.mk.injEq, and_true]
  omega

theorem isProper_toMoment (h : i.inCalendar = true) (hmicros : i.micros < 1000000) :
    i.toMoment.IsProper where
  date := Date.isProper_ofDayNumber (day_lt_of_inCalendar h)
  hour := by
    change i.seconds.toNat % 86400 / 3600 ≤ 23
    omega
  minute := by
    change i.seconds.toNat % 86400 / 60 % 60 ≤ 59
    omega
  second := by
    change i.seconds.toNat % 86400 % 60 ≤ 59
    omega
  micros := hmicros
  offset := by
    rintro _ ⟨⟩
    decide

/-- No other moment in UTC names the instant. -/
theorem eq_toMoment {m : Moment} (hm : m.IsProper) (hutc : m.offset = some 0) :
    m = m.toInstant.toMoment := by
  obtain ⟨hdate, hhour, hminute, hsecond, -, -⟩ := hm
  obtain ⟨date, hour, minute, second, micros, offset⟩ := m
  dsimp only at hdate hhour hminute hsecond hutc
  have hseconds : (Moment.mk date hour minute second micros offset).toInstant.seconds.toNat =
      date.dayNumber * 86400 + hour * 3600 + minute * 60 + second := by
    rw [Moment.toInstant, Moment.localSeconds, hutc, Option.getD_some]
    dsimp only
    omega
  have hday : (date.dayNumber * 86400 + hour * 3600 + minute * 60 + second) / 86400 =
      date.dayNumber := by omega
  rw [toMoment, hseconds, hday, Date.ofDayNumber_dayNumber hdate, hutc]
  simp only [Moment.toInstant, Moment.mk.injEq, true_and, and_true]
  omega

end Instant

/-! ## Reading -/

namespace Yaml.Timestamp

open Text

section Take

variable {α β : Type} {x y : Take α} {f : α → Take β} {t r : Text} {a : α}

theorem bind_of_some (h : x t = some (a, r)) : (x >>= f) t = f a r := by
  change (x t).bind _ = _
  rw [h]
  rfl

theorem bind_of_none (h : x t = none) : (x >>= f) t = none := by
  change (x t).bind _ = _
  rw [h]
  rfl

theorem orElse_of_some (h : x t = some (a, r)) : (x <|> y) t = some (a, r) := by
  change (x t <|> y t) = _
  rw [h]
  rfl

theorem orElse_of_none (h : x t = none) : (x <|> y) t = y t := by
  change (x t <|> y t) = _
  rw [h]
  rfl

end Take

theorem digit_digitChar {n : Nat} (h : n < 10) (r : Text) :
    digit (.char n.digitChar :: r) = some (n, r) := by
  rw [digit, digit?_digitChar h]
  rfl

theorem twoDigits_padded {n : Nat} (h : n < 100) (r : Text) :
    twoDigits (padded 2 n ++ r) = some (n, r) := by
  rw [padded_two h, twoDigits, List.cons_append,
    bind_of_some (digit_digitChar (show n / 10 < 10 by omega) _), List.cons_append,
    bind_of_some (digit_digitChar (show n % 10 < 10 by omega) _), List.nil_append, Nat.div_add_mod']
  rfl

theorem oneOrTwoDigits_padded {n : Nat} (h : n < 100) (r : Text) :
    oneOrTwoDigits (padded 2 n ++ r) = some (n, r) :=
  orElse_of_some (twoDigits_padded h r)

theorem mark_cons (c : Char) (r : Text) : mark c (.char c :: r) = some ((), r) := if_pos rfl

/-- The digits of a fraction end where something else comes. -/
theorem fraction_padded {n : Nat} (h : n < 1000000) {r : Text}
    (hr : ∀ s ∈ r.head?, s.digit? = none) : fraction (padded 6 n ++ r) = some (n, r) := by
  have hdigits : ∀ s ∈ padded 6 n, s.digit?.isSome = true := isSome_digit?_of_mem_padded h
  have hlength : (padded 6 n).length = 6 := length_padded h
  have htake : (padded 6 n ++ r).takeWhile (fun s => s.digit?.isSome) = padded 6 n := by
    rw [List.takeWhile_append_of_pos hdigits]
    cases r with
    | nil => simp
    | cons s r => simp [hr s rfl]
  have hsix : ((padded 6 n).filterMap Symbol.digit?).length = 6 := by
    rw [List.length_filterMap_eq_countP, List.countP_eq_length.mpr hdigits, hlength]
  have hvalue : ((padded 6 n).filterMap Symbol.digit?).foldl (fun n d => n * 10 + d) 0 = n :=
    foldl_padded h
  change some (_, _) = _
  rw [htake, List.take_of_length_le hlength.le, hsix, List.drop_left]
  simpa using hvalue

/-- The offset stands at the end. -/
theorem offset_renderOffset {k : Int} (h : -1440 < k ∧ k < 1440) :
    offset (Moment.renderOffset k) = some (k, []) := by
  have hsign : ∀ r, ((do mark '-'; return true) <|> (do mark '+'; return false) : Take Bool)
      (.char (if k < 0 then '-' else '+') :: r) = some (decide (k < 0), r) := by
    intro r
    by_cases hk : k < 0
    · rw [if_pos hk, orElse_of_some (bind_of_some (mark_cons '-' r)), decide_eq_true hk]
    · rw [if_neg hk, orElse_of_none (bind_of_none rfl), bind_of_some (mark_cons '+' r),
        decide_eq_false hk]
      rfl
  have hminutes : twoDigits (padded 2 (k.natAbs % 60)) = some (k.natAbs % 60, []) := by
    have hread := twoDigits_padded (show k.natAbs % 60 < 100 by omega) []
    rwa [List.append_nil] at hread
  have hutc : ∀ r, mark 'Z' (.char (if k < 0 then '-' else '+') :: r) = none := by
    intro r
    split <;> rfl
  rw [Moment.renderOffset_eq, offset, orElse_of_none (bind_of_none (hutc _)),
    bind_of_some (hsign _), bind_of_some (oneOrTwoDigits_padded (by omega) _),
    bind_of_some (orElse_of_some ((bind_of_some (mark_cons ':' _)).trans hminutes))]
  refine congrArg (fun n => some (n, [])) ?_
  simp only [decide_eq_true_eq]
  split <;> omega

/-- Nothing of an offset can belong to what stands in front of it. -/
theorem forall_mem_head?_zone (m : Moment) :
    ∀ s ∈ m.zone.head?, s = .char '+' ∨ s = .char '-' := by
  intro s hs
  unfold Moment.zone at hs
  cases hoffset : m.offset with
  | none =>
    rw [hoffset] at hs
    cases hs
  | some k =>
    rw [hoffset, Option.map_some, Option.getD_some, Moment.renderOffset_eq] at hs
    rw [← Option.some.inj hs]
    split
    · exact .inr rfl
    · exact .inl rfl

theorem micros_ending {m : Moment} (h : m.IsProper) :
    ((do mark '.'; fraction) <|> pure 0 : Take Nat) m.ending = some (m.micros, m.zone) := by
  have hhead := forall_mem_head?_zone m
  unfold Moment.ending
  by_cases hmicros : m.micros = 0
  · have hpoint : mark '.' m.zone = none := by
      cases hzone : m.zone with
      | nil => rfl
      | cons s r =>
        refine if_neg fun hs => ?_
        rw [hzone, hs] at hhead
        exact absurd (hhead _ rfl) (by decide)
    rw [if_pos hmicros, List.nil_append, orElse_of_none (bind_of_none hpoint), hmicros]
    rfl
  · have hdigit : ∀ s ∈ m.zone.head?, s.digit? = none := fun s hs => by
      rcases hhead s hs with rfl | rfl <;> rfl
    rw [if_neg hmicros, List.cons_append]
    exact orElse_of_some ((bind_of_some (mark_cons '.' _)).trans (fraction_padded h.micros hdigit))

theorem offset_zone {m : Moment} (h : m.IsProper) :
    ((do let _ ← blanks; return some (← offset)) <|> pure none : Take (Option Int)) m.zone =
      some (m.offset, []) := by
  unfold Moment.zone
  cases hoffset : m.offset with
  | none => rfl
  | some k =>
    have hblanks : blanks (Moment.renderOffset k) = some (0, Moment.renderOffset k) := by
      rw [Moment.renderOffset_eq]
      split <;> simp [blanks]
    exact orElse_of_some ((bind_of_some hblanks).trans
      (bind_of_some (offset_renderOffset (h.offset k hoffset))))

theorem timeOfDay_clock {m : Moment} (h : m.IsProper) :
    timeOfDay (.char 'T' :: m.clock) =
      some ((m.hour, m.minute, m.second, m.micros, m.offset), []) := by
  have hhour := h.hour
  have hminute := h.minute
  have hsecond := h.second
  rw [timeOfDay, bind_of_some (orElse_of_some (mark_cons 'T' _)), Moment.clock,
    bind_of_some (oneOrTwoDigits_padded (by omega) _), bind_of_some (mark_cons ':' _),
    bind_of_some (twoDigits_padded (by omega) _), bind_of_some (mark_cons ':' _),
    bind_of_some (twoDigits_padded (by omega) _), bind_of_some (micros_ending h),
    bind_of_some (offset_zone h)]
  rfl

/-- **A moment is read back from its text.** -/
theorem read_render {m : Moment} (h : m.IsProper) : read m.render = some (.ok (.moment m)) := by
  obtain ⟨hyear, hmonth, hday⟩ := h.date.fits
  rw [read, Moment.render_eq, Date.render_eq, padded_four, whole]
  simp only [List.append_assoc, List.cons_append]
  rw [bind_of_some (twoDigits_padded (by omega) _), bind_of_some (twoDigits_padded (by omega) _),
    bind_of_some (mark_cons '-' _), bind_of_some (oneOrTwoDigits_padded hmonth _),
    bind_of_some (mark_cons '-' _), bind_of_some (oneOrTwoDigits_padded hday _),
    orElse_of_none (bind_of_none rfl), bind_of_some (timeOfDay_clock h)]
  dsimp only
  rw [Nat.div_add_mod', h.make?_eq]
  rfl

end Yaml.Timestamp

/-! ## The order of moments -/

section Order

open Text

theorem compare_padded_append {width x y : Nat} {u v : Text} (hx : x < 10 ^ (width + 1))
    (hy : y < 10 ^ (width + 1)) (h : x < y ∨ x = y ∧ compare u v = .lt) :
    compare (padded (width + 1) x ++ u) (padded (width + 1) y ++ v) = .lt := by
  rcases h with hlt | ⟨rfl, hrest⟩
  · refine compare_append_of_lt ?_ (compare_padded hlt hy)
    rw [length_padded hx, length_padded hy]
  · rwa [compare_append_left]

/-- A mark that both texts have is passed over. -/
theorem compare_cons (a : Symbol) (u v : Text) : compare (a :: u) (a :: v) = compare u v :=
  compare_append_left [a] u v

theorem Date.length_render {d : Date} (h : d.IsProper) : d.render.length = 10 := by
  obtain ⟨hyear, hmonth, hday⟩ := h.fits
  have hfour : (padded 4 d.year).length = 4 := length_padded hyear
  have htwo : ∀ {n}, n < 100 → (padded 2 n).length = 2 := fun hn => length_padded hn
  simp only [render_eq, List.length_append, List.length_cons, hfour, htwo hmonth, htwo hday]

theorem Date.compare_render {d e : Date} (hd : d.IsProper) (he : e.IsProper) (h : d.Precedes e) :
    compare d.render e.render = .lt := by
  obtain ⟨hdyear, hdmonth, hdday⟩ := hd.fits
  obtain ⟨heyear, hemonth, heday⟩ := he.fits
  rw [render_eq, render_eq]
  refine compare_padded_append hdyear heyear (h.imp_right fun ⟨hyear, h⟩ => ⟨hyear, ?_⟩)
  rw [compare_cons]
  refine compare_padded_append hdmonth hemonth (h.imp_right fun ⟨hmonth, h⟩ => ⟨hmonth, ?_⟩)
  rw [compare_cons]
  exact compare_padded h heday

namespace Moment

variable {s t : Moment}

theorem compare_clock (hs : s.IsProper) (ht : t.IsProper) (hending : s.ending = t.ending)
    (h : s.hour * 3600 + s.minute * 60 + s.second < t.hour * 3600 + t.minute * 60 + t.second) :
    compare s.clock t.clock = .lt := by
  obtain ⟨-, hshour, hsminute, hssecond, -, -⟩ := hs
  obtain ⟨-, hthour, htminute, htsecond, -, -⟩ := ht
  have hparts : s.hour < t.hour ∨ s.hour = t.hour ∧
      (s.minute < t.minute ∨ s.minute = t.minute ∧ s.second < t.second) := by omega
  unfold clock
  rw [hending]
  refine compare_padded_append (by omega) (by omega)
    (hparts.imp_right fun ⟨hhour, hparts⟩ => ⟨hhour, ?_⟩)
  rw [compare_cons]
  refine compare_padded_append (by omega) (by omega)
    (hparts.imp_right fun ⟨hminute, hsecond⟩ => ⟨hminute, ?_⟩)
  rw [compare_cons]
  exact compare_padded_append (by omega) (by omega) (.inl hsecond)

/-- **Of moments whose texts end alike the earlier one has the smaller text.** -/
theorem compare_render (hs : s.IsProper) (ht : t.IsProper) (hending : s.ending = t.ending)
    (h : s.localSeconds < t.localSeconds) : compare s.render t.render = .lt := by
  have hday : s.date.dayNumber < t.date.dayNumber ∨
      s.date.dayNumber = t.date.dayNumber ∧
        s.hour * 3600 + s.minute * 60 + s.second < t.hour * 3600 + t.minute * 60 + t.second := by
    obtain ⟨-, hthour, htminute, htsecond, -, -⟩ := ht
    unfold localSeconds at h
    omega
  rw [render_eq, render_eq]
  rcases hday with hday | ⟨hday, htime⟩
  · refine compare_append_of_lt ?_
      (Date.compare_render hs.date ht.date ((Date.dayNumber_lt_iff hs.date ht.date).mp hday))
    rw [Date.length_render hs.date, Date.length_render ht.date]
  · rw [Date.eq_of_dayNumber_eq hs.date ht.date hday, compare_append_left, compare_cons]
    exact compare_clock hs ht hending htime

end Moment

/-- The texts of instants are in the order of time. -/
theorem Instant.compare_render {a b : Instant} (ha : a.inCalendar = true)
    (hb : b.inCalendar = true) (hmicros : a.micros < 1000000) (hsame : a.micros = b.micros)
    (h : a.seconds < b.seconds) :
    compare a.toMoment.render b.toMoment.render = .lt := by
  have hseconds : ∀ {i : Instant}, i.inCalendar = true →
      (i.toMoment.localSeconds : Int) = i.seconds := by
    intro i hi
    have hinstant := congrArg Instant.seconds (toInstant_toMoment hi)
    simpa [Moment.toInstant, toMoment] using hinstant
  refine Moment.compare_render (isProper_toMoment ha hmicros)
    (isProper_toMoment hb (hsame ▸ hmicros)) ?_ ?_
  · unfold Moment.ending Moment.zone
    rw [show a.toMoment.micros = b.toMoment.micros from hsame]
    rfl
  · have hsecondsA := hseconds ha
    have hsecondsB := hseconds hb
    omega

end Order

end LogHarvest
