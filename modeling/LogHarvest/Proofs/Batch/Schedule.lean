import Mathlib.Data.List.Forall2
import Mathlib.Order.Bounds.Basic
import Mathlib.Order.Lattice.Nat

/-!
# List schedules

Requests are served first come, first served, at most as many at once as there are permits. When
each one is served follows from how long they take, one after the other: `Schedule.ofDelays`.

* `isListSchedule_iff`: this is the only schedule in which every request starts as early as it can,
  though not before the one ahead of it
-/

namespace LogHarvest

/-- The time for which a request holds its permit: from the start on, until the finish. -/
structure Slot where
  start : Nat
  finish : Nat
deriving DecidableEq, Repr

/-- Whether the permit is held at a time. At the finish it is free again. -/
def Slot.covers (time : Nat) (slot : Slot) : Bool := slot.start ≤ time && time < slot.finish

theorem Slot.covers_iff {time : Nat} {slot : Slot} :
    slot.covers time = true ↔ slot.start ≤ time ∧ time < slot.finish := by
  simp [covers]

/-- The slots of requests, in the order of the requests. -/
abbrev Schedule := List Slot

namespace Schedule

/-- How many permits are held at a time. -/
def held (slots : Schedule) (time : Nat) : Nat := slots.countP (Slot.covers time)

/-- Whether fewer permits are held at a time than there are. -/
def hasRoom (permits : Option Nat) (slots : Schedule) (time : Nat) : Bool :=
  permits.all fun n => slots.held time < n

/-- The start of the last request. -/
def lastStart (slots : Schedule) : Nat := (slots.getLast?.map Slot.start).getD 0

/-- The latest finish. -/
def latest (slots : Schedule) : Nat := slots.foldr (fun slot time => max slot.finish time) 0

/-- The next request may start at this time and not earlier: not before the last one, and not before
a permit is free. -/
def IsNextStart (permits : Option Nat) (slots : Schedule) (time : Nat) : Prop :=
  IsLeast {time | slots.lastStart ≤ time ∧ slots.hasRoom permits time = true} time

/-- The time at which the next request starts. -/
def nextStart (permits : Option Nat) (slots : Schedule) : Nat :=
  ((List.range (max slots.lastStart slots.latest + 1)).find? fun time =>
    slots.lastStart ≤ time && slots.hasRoom permits time).getD 0

/-- The schedule with one more request, which takes this long. -/
def place (permits : Option Nat) (slots : Schedule) (delay : Nat) : Schedule :=
  slots ++ [⟨slots.nextStart permits, slots.nextStart permits + delay⟩]

/-- The schedule of requests that take this long. -/
def ofDelays (permits : Option Nat) (delays : List Nat) : Schedule :=
  delays.foldl (place permits) []

/-! ## The last start and the latest finish -/

@[simp] theorem lastStart_concat (slots : Schedule) (slot : Slot) :
    lastStart (slots ++ [slot]) = slot.start := by
  simp [lastStart]

/-- A last start is a start, or there is none yet. -/
theorem lastStart_le {slots : Schedule} {time : Nat} (h : ∀ slot ∈ slots, slot.start ≤ time) :
    slots.lastStart ≤ time := by
  unfold lastStart
  cases hlast : slots.getLast? with
  | none => exact Nat.zero_le _
  | some slot => exact h slot (List.mem_of_getLast? hlast)

theorem le_latest {slots : Schedule} {slot : Slot} (h : slot ∈ slots) :
    slot.finish ≤ slots.latest := by
  unfold latest
  induction slots with
  | nil => cases h
  | cons first rest ih =>
    rw [List.foldr_cons]
    rcases List.mem_cons.mp h with rfl | hrest
    · exact Nat.le_max_left _ _
    · exact (ih hrest).trans (Nat.le_max_right _ _)

theorem latest_le {slots : Schedule} {time : Nat} (h : ∀ slot ∈ slots, slot.finish ≤ time) :
    slots.latest ≤ time := by
  unfold latest
  induction slots with
  | nil => exact Nat.zero_le _
  | cons first rest ih =>
    rw [List.foldr_cons]
    exact Nat.max_le.mpr
      ⟨h first List.mem_cons_self, ih fun slot hslot => h slot (List.mem_cons_of_mem _ hslot)⟩

theorem latest_le_append (slots more : Schedule) : slots.latest ≤ latest (slots ++ more) :=
  latest_le fun _ hslot => le_latest (List.mem_append_left _ hslot)

/-! ## The next start -/

/-- From the latest finish on nothing is held. -/
theorem held_eq_zero {slots : Schedule} {time : Nat} (h : slots.latest ≤ time) :
    slots.held time = 0 := by
  unfold held
  rw [List.countP_eq_zero]
  intro slot hslot hcovers
  have hfinish := (le_latest hslot).trans h
  exact absurd (Slot.covers_iff.mp hcovers).2 (Nat.not_lt_of_le hfinish)

theorem hasRoom_of_latest_le {permits : Option Nat} (hpermits : permits ≠ some 0)
    {slots : Schedule} {time : Nat} (h : slots.latest ≤ time) :
    slots.hasRoom permits time = true := by
  unfold hasRoom
  rw [held_eq_zero h]
  cases permits with
  | none => rfl
  | some n =>
    have hn : n ≠ 0 := by simpa using hpermits
    simpa using Nat.pos_of_ne_zero hn

/-- The search ends: at the latest finish there is room, if there is any permit. -/
theorem isNextStart_nextStart {permits : Option Nat} (hpermits : permits ≠ some 0)
    (slots : Schedule) : slots.IsNextStart permits (slots.nextStart permits) := by
  unfold nextStart
  cases hfind : (List.range (max slots.lastStart slots.latest + 1)).find? fun time =>
      slots.lastStart ≤ time && slots.hasRoom permits time with
  | none =>
    exfalso
    rw [List.find?_eq_none] at hfind
    refine hfind (max slots.lastStart slots.latest) (List.mem_range.mpr (Nat.lt_succ_self _)) ?_
    simp [hasRoom_of_latest_le hpermits (Nat.le_max_right slots.lastStart slots.latest)]
  | some time =>
    obtain ⟨htime, -, hbefore⟩ := List.find?_range_eq_some.mp hfind
    simp only [Bool.and_eq_true, decide_eq_true_eq] at htime
    refine ⟨htime, ?_⟩
    rintro other ⟨hlast, hroom⟩
    by_contra hlt
    have hnot := hbefore other (Nat.lt_of_not_le hlt)
    simp [hlast, hroom] at hnot

theorem IsNextStart.eq_nextStart {permits : Option Nat} (hpermits : permits ≠ some 0)
    {slots : Schedule} {time : Nat} (h : slots.IsNextStart permits time) :
    time = slots.nextStart permits :=
  IsLeast.unique h (isNextStart_nextStart hpermits slots)

/-- Without a limit the next request starts with the last one. -/
theorem IsNextStart.eq_lastStart {slots : Schedule} {time : Nat}
    (h : slots.IsNextStart none time) : time = slots.lastStart := by
  have hle : time ≤ slots.lastStart := h.2 ⟨Nat.le_refl _, rfl⟩
  exact Nat.le_antisymm hle h.1.1

/-! ## The only schedule -/

/-- Requests that take this long are served first come, first served: each one starts as early as
it can, and holds its permit for as long as it takes. -/
inductive IsListSchedule (permits : Option Nat) : List Nat → Schedule → Prop
  | nil : IsListSchedule permits [] []
  | concat {delays : List Nat} {slots : Schedule} {start : Nat} (delay : Nat)
      (h : IsListSchedule permits delays slots) (hstart : slots.IsNextStart permits start) :
      IsListSchedule permits (delays ++ [delay]) (slots ++ [⟨start, start + delay⟩])

theorem ofDelays_concat (permits : Option Nat) (delays : List Nat) (delay : Nat) :
    ofDelays permits (delays ++ [delay]) = place permits (ofDelays permits delays) delay := by
  unfold ofDelays
  rw [List.foldl_append]
  rfl

theorem isListSchedule_ofDelays {permits : Option Nat} (hpermits : permits ≠ some 0)
    (delays : List Nat) : IsListSchedule permits delays (ofDelays permits delays) := by
  induction delays using List.reverseRecOn with
  | nil => exact .nil
  | append_singleton delays delay ih =>
    rw [ofDelays_concat]
    exact ih.concat delay (isNextStart_nextStart hpermits _)

/-- There is no other schedule of this kind. -/
theorem IsListSchedule.eq_ofDelays {permits : Option Nat} (hpermits : permits ≠ some 0)
    {delays : List Nat} {slots : Schedule} (h : IsListSchedule permits delays slots) :
    slots = ofDelays permits delays := by
  induction h with
  | nil => rfl
  | concat delay _ hstart ih =>
    rw [ofDelays_concat, ← ih, place, ← hstart.eq_nextStart hpermits]

theorem isListSchedule_iff {permits : Option Nat} (hpermits : permits ≠ some 0)
    {delays : List Nat} {slots : Schedule} :
    IsListSchedule permits delays slots ↔ slots = ofDelays permits delays := by
  constructor
  · exact fun h => h.eq_ofDelays hpermits
  · rintro rfl
    exact isListSchedule_ofDelays hpermits delays

/-- With two permits the third request starts when the second one finishes, and the fourth, which
takes no time, when both others do. -/
example : ofDelays (some 2) [3, 1, 2, 0] = [⟨0, 3⟩, ⟨0, 1⟩, ⟨1, 3⟩, ⟨3, 3⟩] := by decide

/-! ## Starts -/

theorem IsListSchedule.start_le_lastStart {permits : Option Nat} {delays : List Nat}
    {slots : Schedule} (h : IsListSchedule permits delays slots) :
    ∀ slot ∈ slots, slot.start ≤ slots.lastStart := by
  induction h with
  | nil => simp
  | concat delay _ hstart ih =>
    intro slot hslot
    rw [lastStart_concat]
    rcases List.mem_append.mp hslot with hbefore | hlast
    · exact (ih slot hbefore).trans hstart.1.1
    · rw [List.mem_singleton.mp hlast]

/-- Requests start in their order. -/
theorem IsListSchedule.pairwise_start {permits : Option Nat} {delays : List Nat}
    {slots : Schedule} (h : IsListSchedule permits delays slots) :
    slots.Pairwise fun slot later => slot.start ≤ later.start := by
  induction h with
  | nil => exact .nil
  | concat delay h hstart ih =>
    rw [List.pairwise_append]
    refine ⟨ih, List.pairwise_singleton _ _, ?_⟩
    intro slot hslot later hlater
    rw [List.mem_singleton.mp hlater]
    exact (h.start_le_lastStart slot hslot).trans hstart.1.1

/-- Without a limit all requests start at once. -/
theorem IsListSchedule.start_eq_zero {delays : List Nat} {slots : Schedule}
    (h : IsListSchedule none delays slots) : ∀ slot ∈ slots, slot.start = 0 := by
  induction h with
  | nil => simp
  | concat delay h hstart ih =>
    intro slot hslot
    rcases List.mem_append.mp hslot with hbefore | hlast
    · exact ih slot hbefore
    · rw [List.mem_singleton.mp hlast]
      have hzero := lastStart_le fun slot hslot => Nat.le_of_eq (ih slot hslot)
      exact hstart.eq_lastStart.trans (Nat.le_zero.mp hzero)

end Schedule

end LogHarvest
