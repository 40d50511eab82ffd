import LogHarvest.Platform.BuiltIn
import LogHarvest.Proofs.Json.Locality
import LogHarvest.Request
import Mathlib

/-!
# Requests

A body is a request if its text spells an object with a source and a time that are both texts. What
was sent is what is read (`body_is_read_as_sent`), and nothing short of the whole text is taken for
it: neither what is left of a body that was cut off, nor one with something behind it
(`only_whole_body_is_request`).
-/

namespace LogHarvest

namespace Json

/-- With distinct names a member is found exactly if it is one of the members. -/
theorem find?_eq_some_iff {members : List (Text × Json)} (h : (members.map (·.1)).Nodup)
    {name : Text} {v : Json} : find? members name = some v ↔ (name, v) ∈ members := by
  induction members with
  | nil => simp [find?]
  | cons m rest ih =>
    obtain ⟨hnew, hrest⟩ := List.nodup_cons.mp h
    by_cases hname : name = m.1
    · subst hname
      have hnot : (m.1, v) ∉ rest := fun hmem => hnew (List.mem_map.mpr ⟨_, hmem, rfl⟩)
      rw [find?, List.lookup_cons_self, Option.some_inj, List.mem_cons, or_iff_left hnot]
      exact ⟨fun hv => by rw [← hv], fun hm => congrArg (·.2) hm.symm⟩
    · have hbeq : (name == m.1) = false := by simpa using hname
      rw [find?, List.lookup_cons, hbeq, List.mem_cons,
        or_iff_right fun hm => hname (congrArg (·.1) hm)]
      exact ih hrest

end Json

namespace PullRequest

variable {text : Text} {request : PullRequest}

/-! ## From a value to a request -/

theorem ofJson_eq_ok_iff {v : Json} : ofJson text v = .ok request ↔ ∃ members,
    v = .object members ∧
    Json.find? members (Text.ofString "log_source_name") = some (.string request.source) ∧
    Json.find? members (Text.ofString "time") = some (.string request.time) := by
  constructor
  · intro h
    unfold ofJson at h
    split at h
    · split at h
      · next hsource htime =>
        cases h
        exact ⟨_, rfl, hsource, htime⟩
      · cases h
    · cases h
  · rintro ⟨members, rfl, hsource, htime⟩
    rw [ofJson, hsource, htime]

section Reading

variable [Json.Limits]

theorem ofBody_of_read {v : Json} (h : Json.read text = .ok v) :
    ofBody (.string text) = ofJson text v := by
  rw [ofBody, ofText, h]

theorem exists_read_of_ofBody (h : ofBody (.string text) = .ok request) :
    ∃ v, Json.read text = .ok v ∧ ofJson text v = .ok request := by
  rw [ofBody, ofText] at h
  split at h
  · next v hread => exact ⟨v, hread, h⟩
  · cases h
  · cases h

/-! ## What was sent -/

/-- **A body is read as it was sent.** Whatever members a sent object has, its source and its time
are read as they are in it if both are texts; any other object is malformed, and so is every value
that is no object. -/
theorem body_is_read_as_sent {room : Nat} {v : Json} (hroom : room ≤ Json.depthLimit)
    (hv : Json.IsFaithful room v) :
    (∀ request, ofBody (.string (Json.print v)) = .ok request ↔ ∃ members, v = .object members ∧
      (Text.ofString "log_source_name", .string request.source) ∈ members ∧
      (Text.ofString "time", .string request.time) ∈ members) ∧
    ((∀ request, ofBody (.string (Json.print v)) ≠ .ok request) →
      ∃ reason, ofBody (.string (Json.print v)) = .error (.malformedRequest reason)) := by
  rw [ofBody_of_read (Json.read_print (hv.mono hroom))]
  constructor
  · intro request
    rw [ofJson_eq_ok_iff]
    refine exists_congr fun members => and_congr_right fun hobject => ?_
    subst hobject
    cases hv with
    | object hnames =>
      rw [Json.find?_eq_some_iff hnames, Json.find?_eq_some_iff hnames]
  · intro hnone
    cases hresult : ofJson (Json.print v) v with
    | ok request => exact absurd hresult (hnone request)
    | error fault =>
      obtain ⟨reason, rfl⟩ := ofJson_eq_error hresult
      exact ⟨reason, rfl⟩

end Reading

/-- Halves of surrogate pairs, the low one and the high one. -/
def looseHalves : Text := [.half ⟨1024, by decide⟩, .half ⟨0, by decide⟩]

/-- A value to be sent: its text is full of escapes, and quotes and braces stand in its strings. -/
def sent : Json :=
  .object [(Text.ofString "notes", .array [.int (-12), .null, .string (Text.ofString "\"\x7d\\\n"),
      .object [(looseHalves, .bool true), ([.char '😀'], .array [])]]),
    (Text.ofString "time", .string (Text.ofString "now\x7d")),
    (Text.ofString "log_source_name", .string (.char 'o' :: looseHalves))]

theorem isFaithful_sent : Json.IsFaithful 4 sent := by
  refine .object (by decide) (by decide) ?_
  simp only [List.forall_mem_cons, List.not_mem_nil, false_imp_iff, forall_const, and_true]
  refine ⟨.array ?_, .string (by decide), .string (by decide)⟩
  simp only [List.forall_mem_cons, List.not_mem_nil, false_imp_iff, forall_const, and_true]
  refine ⟨.int (by decide), .null, .string (by decide), .object (by decide) (by decide) ?_⟩
  simp only [List.forall_mem_cons, List.not_mem_nil, false_imp_iff, forall_const, and_true]
  exact ⟨.bool true, .array (by simp)⟩

section

attribute [local instance] Platform.builtIn

theorem sent_is_read :
    4 ≤ Json.depthLimit ∧ Json.IsFaithful 4 sent ∧
      ofBody (.string (Json.print sent)) =
        .ok ⟨.char 'o' :: looseHalves, Text.ofString "now\x7d"⟩ := by
  refine ⟨by decide, isFaithful_sent, ?_⟩
  refine ((body_is_read_as_sent (by decide) isFaithful_sent).1 _).mpr ⟨_, rfl, ?_, ?_⟩
  · simp
  · simp

end

/-! ## What was cut off, and what was put behind -/

section Body

variable [Json.Limits]

/-- How the body of a request stands against shorter and longer ones: `front` is what stands before
the brace that closes its object, and `blanks` what stands behind it. -/
structure StandsAlone (text : Text) (request : PullRequest) (front blanks : Text)
    (members : List (Text × Json)) : Prop where
  spelled : text = front ++ .char '}' :: blanks
  blank : ∀ s ∈ blanks, Json.isSpace s = true
  closed : Json.Begins Json.depthLimit (Json.dropSpace text) (.value (.object members)) blanks
  cut : ∀ part, part <+: front → ∀ other, ofBody (.string part) ≠ .ok other
  extended : ∀ more, (∃ s ∈ more, Json.isSpace s = false) →
    ∃ reason, ofBody (.string (text ++ more)) = .error (.malformedRequest reason)
  surrounded : ∀ before after, (∀ s ∈ before, Json.isSpace s = true) →
    (∀ s ∈ after, Json.isSpace s = true) →
    ofBody (.string (before ++ text ++ after)) = .ok request

variable (h : ofBody (.string text) = .ok request)

include h

/-- The body of a request is the text of an object. -/
theorem exists_read_object :
    ∃ members, Json.read text = .ok (.object members) ∧
      ofJson text (.object members) = .ok request := by
  obtain ⟨v, hread, hrequest⟩ := exists_read_of_ofBody h
  obtain ⟨members, rfl, -⟩ := ofJson_eq_ok_iff.mp hrequest
  exact ⟨members, hread, hrequest⟩

theorem ofBody_append_error {more : Text}
    (hmore : ∃ s ∈ more, Json.isSpace s = false) :
    ∃ reason, ofBody (.string (text ++ more)) = .error (.malformedRequest reason) := by
  obtain ⟨members, hread, -⟩ := exists_read_object h
  obtain ⟨place, hextra⟩ := Json.read_append_extra hread (by rintro ⟨⟩) hmore
  exact ⟨_, by rw [ofBody, ofText, hextra]⟩

theorem ofBody_surround {before after : Text} (hbefore : ∀ s ∈ before, Json.isSpace s = true)
    (hafter : ∀ s ∈ after, Json.isSpace s = true) :
    ofBody (.string (before ++ text ++ after)) = .ok request := by
  obtain ⟨members, hread, hrequest⟩ := exists_read_object h
  rw [ofBody_of_read (Json.read_surround hread (by rintro ⟨⟩) hbefore hafter)]
  exact ofJson_eq_ok_iff.mpr (ofJson_eq_ok_iff.mp hrequest)

/-- **Only the whole body is a request.** A body that was cut off before the closing brace is none,
one with anything but white space behind it is malformed, and white space around it changes
nothing. -/
theorem only_whole_body_is_request :
    ∃ front blanks members, StandsAlone text request front blanks members := by
  obtain ⟨members, hread, -⟩ := exists_read_object h
  obtain ⟨-, blanks, hbegins, hblanks⟩ := Json.read_eq_ok_iff.mp hread
  obtain ⟨front, hfront⟩ := Json.suffix_of_suffix_dropSpace hbegins.suffix
  have htext : text = front ++ .char '}' :: blanks := hfront.symm
  refine ⟨front, blanks, members, htext, Json.dropSpace_eq_nil_iff.mp hblanks, hbegins, ?_,
    fun _ => ofBody_append_error h, fun _ _ => ofBody_surround h⟩
  -- the brace that was cut off would be extra behind the part
  rintro part ⟨cut, rfl⟩ other hpart
  have hcut : ∃ s ∈ cut ++ .char '}' :: blanks, Json.isSpace s = false :=
    ⟨.char '}', by simp, by decide⟩
  obtain ⟨reason, herror⟩ := ofBody_append_error hpart hcut
  rw [← List.append_assoc, ← htext, h] at herror
  cases herror

end Body

/-- The body of the value to be sent, with white space around it. -/
def sentBody : Text := .char ' ' :: Json.print sent ++ [.char '\n']

attribute [local instance] Platform.builtIn

theorem ofBody_sentBody :
    ofBody (.string sentBody) =
      .ok ⟨.char 'o' :: looseHalves, Text.ofString "now\x7d"⟩ := by
  cbv

theorem sentBody_stands_alone :
    ofBody (.string sentBody) =
        .ok ⟨.char 'o' :: looseHalves, Text.ofString "now\x7d"⟩ ∧
      ∃ front blanks members, StandsAlone sentBody
        ⟨.char 'o' :: looseHalves, Text.ofString "now\x7d"⟩ front blanks members :=
  ⟨ofBody_sentBody, only_whole_body_is_request ofBody_sentBody⟩

end PullRequest

end LogHarvest
