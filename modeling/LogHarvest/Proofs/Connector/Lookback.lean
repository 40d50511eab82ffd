import LogHarvest.Proofs.Activity
import LogHarvest.Proofs.Calendar.Moments
import LogHarvest.Proofs.Shelf

/-!
# The lookback window

A source that asks for the events of the last so many minutes is asked for the events since one
instant. The theorem says which one, for every number of minutes, and that the only fault is a start
in no year of the calendar. That a length of time holds a bounded number of days only makes no
difference: such a length leads out of the calendar from everywhere (`Window.start_eq`).
-/

namespace LogHarvest

namespace Instant

/-- The instant so many minutes earlier. -/
def minutesBefore (i : Instant) (n : Int) : Instant := { i with seconds := i.seconds - 60 * n }

/-- The instant has a date: a moment of the years from 1 to 9999 in UTC names it. -/
def HasDate (i : Instant) : Prop :=
  ∃ m : Moment, m.IsProper ∧ m.offset = some 0 ∧ m.toInstant = i

/-- The instants with a date are those of the calendar. -/
theorem hasDate_iff {i : Instant} :
    i.HasDate ↔ i.inCalendar = true ∧ i.micros < 1000000 := by
  constructor
  · rintro ⟨m, hproper, hoffset, rfl⟩
    refine ⟨inCalendar_iff.mpr ?_, hproper.micros⟩
    have hday := Date.dayNumber_lt_daysInYears_lastYear hproper.date
    obtain ⟨-, hhour, hminute, hsecond, -, -⟩ := hproper
    rw [Moment.toInstant, Moment.localSeconds, hoffset, Option.getD_some]
    unfold calendarSeconds
    dsimp only
    omega
  · rintro ⟨hin, hmicros⟩
    exact ⟨i.toMoment, isProper_toMoment hin hmicros, rfl, toInstant_toMoment hin⟩

end Instant

namespace Window

/-- The start of a window has a year, or it is a fault. -/
theorem start_eq {now : Instant} (hnow : now.inCalendar = true) (n : Int) :
    if (now.minutesBefore n).inCalendar = true then start now n = .ok (now.minutesBefore n)
    else ∃ fault, start now n = .error fault := by
  have hlast : Instant.calendarSeconds = 315537897600 := rfl
  obtain ⟨hfrom, hto⟩ := Instant.inCalendar_iff.mp hnow
  have hsame : ({ now with seconds := now.seconds - n * 60 } : Instant) = now.minutesBefore n := by
    rw [Instant.minutesBefore, Int.mul_comm]
  unfold start dayLimit
  dsimp only
  rw [hsame]
  split
  · next hin =>
    obtain ⟨hfirst, hbound⟩ := Instant.inCalendar_iff.mp hin
    simp only [Instant.minutesBefore] at hfirst hbound
    rw [if_neg, if_neg]
    all_goals
      rw [Int.fdiv_eq_ediv_of_nonneg _ (by decide)]
      omega
  · next hout =>
    split_ifs
    · exact ⟨_, rfl⟩
    · exact ⟨_, rfl⟩
    · exact ⟨_, rfl⟩

end Window

namespace PageConnector

/-- The route asks for the events of the last `n` minutes. -/
def LooksBack (route : Route) (n : Int) : Prop :=
  ∃ minutes, route.property? (Text.ofString "lookback_minutes") = some minutes ∧
    Integer.read minutes = .ok n

section Query

variable {σ : Type} (services : Services σ)

/-- The instant that the clock of the services shows in a scene. -/
def clockIn (s : Scene σ) : Instant := (services.now.run s.outside).1

/-- What the query of a route comes to in a scene. -/
def queryIn (route : Route) (s : Scene σ) : Except Fault (List (Text × Text)) :=
  ((params services route).runOn s).1

theorem queryIn_of_looksBack {route : Route} {n : Int} (h : LooksBack route n) (s : Scene σ) :
    queryIn services route s = match Window.start (clockIn services s) n with
      | .error fault => .error (.window fault)
      | .ok start => .ok [(Text.ofString "since", start.toMoment.render)] := by
  obtain ⟨minutes, hgiven, hread⟩ := h
  have hnonempty : minutes ≠ [] := by
    rintro rfl
    cases hread
  have hcounts : given? route "lookback_minutes" = some minutes := by
    rw [given?, hgiven]
    simpa using hnonempty
  have hsince : since (clockIn services s) minutes =
      (Window.start (clockIn services s) n).mapError .window := by
    rw [since, hread]
    dsimp only
    cases Window.start (clockIn services s) n <;> rfl
  have hasked : (Act.ask services.now).runOn s =
      (.ok (clockIn services s), { s with outside := (services.now.run s.outside).2 }) := rfl
  rw [queryIn, params, hcounts]
  dsimp only
  rw [Act.runOn_bind_of_ok hasked, Act.runOn_bind, Act.runOn_liftM_except, hsince]
  cases Window.start (clockIn services s) n <;> rfl

end Query

section Lookback

variable {σ : Type} {services : Services σ} {route : Route} {n : Int} {s : Scene σ}

theorem queryIn_of_hasDate (hnow : (clockIn services s).HasDate) (h : LooksBack route n)
    (hstart : ((clockIn services s).minutesBefore n).HasDate) :
    queryIn services route s =
      .ok [(Text.ofString "since", ((clockIn services s).minutesBefore n).toMoment.render)] := by
  have hwindow := Window.start_eq (Instant.hasDate_iff.mp hnow).1 n
  rw [if_pos (Instant.hasDate_iff.mp hstart).1] at hwindow
  rw [queryIn_of_looksBack services h, hwindow]

theorem queryIn_of_no_date (hnow : (clockIn services s).HasDate) (h : LooksBack route n)
    (hstart : ¬ ((clockIn services s).minutesBefore n).HasDate) :
    ∃ fault, queryIn services route s = .error (.window fault) := by
  obtain ⟨hin, hmicros⟩ := Instant.hasDate_iff.mp hnow
  have hwindow := Window.start_eq hin n
  rw [if_neg fun hstays => hstart (Instant.hasDate_iff.mpr ⟨hstays, hmicros⟩)] at hwindow
  obtain ⟨fault, hfault⟩ := hwindow
  exact ⟨fault, by rw [queryIn_of_looksBack services h, hfault]⟩

/-- A window that is given starts at an instant with a date. -/
theorem hasDate_of_query (hnow : (clockIn services s).HasDate) (h : LooksBack route n) {text : Text}
    (hparams : queryIn services route s = .ok [(Text.ofString "since", text)]) :
    ((clockIn services s).minutesBefore n).HasDate ∧
      text = ((clockIn services s).minutesBefore n).toMoment.render := by
  by_cases hstart : ((clockIn services s).minutesBefore n).HasDate
  · rw [queryIn_of_hasDate hnow h hstart, Except.ok.injEq, List.cons.injEq,
      Prod.mk.injEq] at hparams
    exact ⟨hstart, hparams.1.2.symm⟩
  · obtain ⟨fault, hfault⟩ := queryIn_of_no_date hnow h hstart
    rw [hfault] at hparams
    cases hparams

/--
**The lookback window is exact.**

Take any services and any scene in which their clock shows an instant with a date, and any route
that asks for the events of the last `n` minutes, for an integer of any sign and size. The
parameters are an `OverflowError` exactly if the instant `n` minutes earlier has no date. Otherwise
there is the one parameter `since`, and its text is that of a moment with offset zero that names the
instant `60 * n` seconds earlier, its microseconds the same; the text is read back as this moment.
If another route looks back further at the same time, its text is the smaller one.
-/
theorem lookback_is_exact (hnow : (clockIn services s).HasDate) (h : LooksBack route n) :
    ((∃ fault, queryIn services route s = .error fault ∧
        fault.kind = Text.ofString "OverflowError") ↔
      ¬ ((clockIn services s).minutesBefore n).HasDate) ∧
    (((clockIn services s).minutesBefore n).HasDate →
      ∃ m : Moment, m.IsProper ∧ m.offset = some 0 ∧
        m.toInstant = ⟨(clockIn services s).seconds - 60 * n, (clockIn services s).micros⟩ ∧
        Yaml.Timestamp.read m.render = some (.ok (.moment m)) ∧
        queryIn services route s = .ok [(Text.ofString "since", m.render)]) ∧
    ∀ {further : Route} {k : Int}, LooksBack further k → n < k →
      ∀ text text', queryIn services route s = .ok [(Text.ofString "since", text)] →
        queryIn services further s = .ok [(Text.ofString "since", text')] →
        Text.compare text' text = .lt := by
  refine ⟨⟨?_, fun hstart => ?_⟩, fun hstart => ?_, ?_⟩
  · rintro ⟨fault, hfault, -⟩ hstart
    rw [queryIn_of_hasDate hnow h hstart] at hfault
    cases hfault
  · obtain ⟨fault, hfault⟩ := queryIn_of_no_date hnow h hstart
    exact ⟨_, hfault, rfl⟩
  · obtain ⟨hin, hmicros⟩ := Instant.hasDate_iff.mp hstart
    have hproper := Instant.isProper_toMoment hin hmicros
    exact ⟨_, hproper, rfl, Instant.toInstant_toMoment hin, Yaml.Timestamp.read_render hproper,
      queryIn_of_hasDate hnow h hstart⟩
  · intro further k hfurther hk text text' htext htext'
    obtain ⟨hstart, hrender⟩ := hasDate_of_query hnow h htext
    obtain ⟨hearlier, hrender'⟩ := hasDate_of_query hnow hfurther htext'
    obtain ⟨hin, hmicros⟩ := Instant.hasDate_iff.mp hearlier
    rw [hrender, hrender']
    refine Instant.compare_render hin (Instant.hasDate_iff.mp hstart).1 hmicros rfl ?_
    change (clockIn services s).seconds - 60 * k < (clockIn services s).seconds - 60 * n
    omega

end Lookback

/-- A route that asks for the events of the last so many minutes. -/
def lookingBack (minutes : Text) : Route :=
  ⟨"arn", type, [("url", "https://api"), ("lookback_minutes", minutes)]⟩

/-- The services of a shelf, half past midnight on 1 March 2024 and five microseconds. -/
def afterLeapDay : Services Shelf := { Shelf.services with now := pure ⟨63844849800, 5⟩ }

/-- An hour earlier it was still 29 February; the beginning of the calendar is not that far back. -/
theorem leap_day_is_looked_back_to :
    let s : Scene Shelf := .start (.empty [])
    (clockIn afterLeapDay s).HasDate ∧ LooksBack (lookingBack " +60 ") 60 ∧
      queryIn afterLeapDay (lookingBack " +60 ") s =
        .ok [(Text.ofString "since", Text.ofString "2024-02-29T23:30:00.000005+00:00")] ∧
      LooksBack (lookingBack "2000000000") 2000000000 ∧
      ∃ fault, queryIn afterLeapDay (lookingBack "2000000000") s = .error fault ∧
        fault.kind = Text.ofString "OverflowError" := by
  intro s
  have hclock : clockIn afterLeapDay s = ⟨63844849800, 5⟩ := rfl
  have hnow : (clockIn afterLeapDay s).HasDate := by
    rw [hclock]
    exact Instant.hasDate_iff.mpr (by decide)
  have hhour : LooksBack (lookingBack " +60 ") 60 := ⟨_, rfl, by decide +kernel⟩
  have hages : LooksBack (lookingBack "2000000000") 2000000000 := ⟨_, rfl, by decide +kernel⟩
  have hstart : ((clockIn afterLeapDay s).minutesBefore 60).HasDate := by
    rw [hclock]
    exact Instant.hasDate_iff.mpr (by decide)
  obtain ⟨m, hproper, hoffset, hinstant, -, hparams⟩ :=
    (lookback_is_exact hnow hhour).2.1 hstart
  refine ⟨hnow, hhour, ?_, hages, ?_⟩
  · have hrender : m.render = Text.ofString "2024-02-29T23:30:00.000005+00:00" := by
      rw [Instant.eq_toMoment hproper hoffset, hinstant]
      decide +kernel
    rw [hparams, hrender]
  · refine (lookback_is_exact hnow hages).1.mpr fun hstart => ?_
    rw [hclock] at hstart
    exact absurd (Instant.hasDate_iff.mp hstart).1 (by decide)

end PageConnector

end LogHarvest
