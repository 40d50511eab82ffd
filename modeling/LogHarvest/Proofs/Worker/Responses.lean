import LogHarvest.Proofs.Json.RoundTrip
import LogHarvest.Proofs.Queue.Redelivery
import Mathlib.Data.List.Nodup

/-!
# Responses

The ids in a response are those of messages, so they stand in the event (`occurs_of_reported`). A
string that stands in an event comes from a text, and text holds on to it: where all ids are
strings, the text of a response is read back as the response (`read_response`).
-/

namespace LogHarvest

variable {σ α β : Type}

/-! ## Ids in an event -/

namespace Json

theorem occurs_of_find? {members : List (Text × Json)} {name : Text} {v : Json}
    (h : find? members name = some v) : Occurs v (.object members) := by
  obtain ⟨before, after, rfl, -⟩ := List.lookup_eq_some_iff.mp h
  exact .member (m := (name, v)) (List.mem_append_right _ List.mem_cons_self) .self

theorem occurs_of_member? {v w : Json} {name : String} (h : v.member? name = .ok (some w)) :
    Occurs w v := by
  unfold member? at h
  split at h
  · exact occurs_of_find? (Except.ok.inj h)
  · cases h

/-- What stands in a value that stands in a third one stands in the third one. -/
theorem Occurs.trans {u v w : Json} (huv : Occurs u v) (hvw : Occurs v w) : Occurs u w := by
  induction hvw with
  | self => exact huv
  | item hw _ ih => exact .item hw ih
  | member hm _ ih => exact .member hm ih

end Json

namespace Message

/-- A field is null, or it stands in the record. -/
theorem field_cases {record v : Json} {first second : String}
    (h : field record first second = .ok v) : v = .null ∨ Json.Occurs v record := by
  obtain ⟨a, ha, h⟩ := exists_of_bind_eq_ok h
  obtain ⟨b, hb, h⟩ := exists_of_bind_eq_ok h
  obtain rfl := Except.ok.inj h
  cases a with
  | some w => exact .inr (Json.occurs_of_member? ha)
  | none =>
    cases b with
    | some w => exact .inr (Json.occurs_of_member? hb)
    | none => exact .inl rfl

theorem id_cases {record : Json} {m : Message} (h : ofRecord record = .ok m) :
    m.id = .null ∨ Json.Occurs m.id record := by
  obtain ⟨id, hid, h⟩ := exists_of_bind_eq_ok h
  obtain ⟨body, -, h⟩ := exists_of_bind_eq_ok h
  obtain rfl := Except.ok.inj h
  exact field_cases hid

/-- Only an object is the record of a message. -/
theorem exists_of_ofRecord {record : Json} {m : Message} (h : ofRecord record = .ok m) :
    ∃ members, record = .object members := by
  cases record with
  | object members => exact ⟨members, rfl⟩
  | null | bool | int | float | string | array => cases h

end Message

theorem exists_of_mem_mapM {f : α → Except Fault β} {as : List α} {bs : List β}
    (h : as.mapM f = .ok bs) {b : β} (hb : b ∈ bs) : ∃ a ∈ as, f a = .ok b := by
  induction as generalizing bs with
  | nil =>
    cases h
    cases hb
  | cons a as ih =>
    rw [List.mapM_cons] at h
    obtain ⟨first, hfirst, h⟩ := exists_of_bind_eq_ok h
    obtain ⟨rest, hrest, h⟩ := exists_of_bind_eq_ok h
    obtain rfl := Except.ok.inj h
    rcases List.mem_cons.mp hb with rfl | hb
    · exact ⟨a, List.mem_cons_self, hfirst⟩
    · obtain ⟨a', ha', hf⟩ := ih hrest hb
      exact ⟨a', List.mem_cons_of_mem _ ha', hf⟩

namespace Worker

/-- An object among the parts of a value stands in it. -/
theorem occurs_of_mem_parts {v record : Json} {records : List Json} (h : v.parts = .ok records)
    (hrecord : record ∈ records) {members : List (Text × Json)}
    (hobject : record = .object members) : Json.Occurs record v := by
  subst hobject
  unfold Json.parts at h
  split at h
  · obtain rfl := Except.ok.inj h
    exact .item hrecord .self
  · -- the parts of an object are its names
    obtain rfl := Except.ok.inj h
    obtain ⟨m, -, hm⟩ := List.mem_map.mp hrecord
    cases hm
  · obtain rfl := Except.ok.inj h
    obtain ⟨s, -, hs⟩ := List.mem_map.mp hrecord
    cases hs
  · cases h

/-- The id of a message is null, or it stands in the event. -/
theorem id_cases_of_messagesOf {event : Json} {messages : List Message}
    (h : messagesOf event = .ok messages) {m : Message} (hm : m ∈ messages) :
    m.id = .null ∨ Json.Occurs m.id event := by
  obtain ⟨found, hfound, h⟩ := exists_of_bind_eq_ok h
  obtain ⟨records, hrecords, h⟩ := exists_of_bind_eq_ok h
  obtain ⟨record, hrecord, hof⟩ := exists_of_mem_mapM h hm
  obtain ⟨members, hobject⟩ := Message.exists_of_ofRecord hof
  have hpart := occurs_of_mem_parts hrecords hrecord hobject
  cases found with
  | none =>
    obtain rfl := Except.ok.inj hrecords
    cases hrecord
  | some list =>
    refine (Message.id_cases hof).imp_right fun hid => ?_
    exact (hid.trans hpart).trans (Json.occurs_of_member? hfound)

/-- An id that is reported is null, or it stands in the event. -/
theorem occurs_of_reported [Platform] {p : Pipeline σ} {services : Services σ} {event : Json}
    {result : BatchResult} {scene ended : Scene σ}
    (h : (handle p services event).runOn scene = (.ok result, ended)) {id : Json}
    (hid : id ∈ result.report.getD []) : id = .null ∨ Json.Occurs id event := by
  cases hmessages : messagesOf event with
  | error fault =>
    rw [handle, Act.runOn_bind_of_ok (Act.runOn_note ..), hmessages,
      Act.runOn_bind_of_error (Act.runOn_liftM_error ..)] at h
    cases h
  | ok messages =>
    rw [runOn_handle hmessages] at h
    obtain ⟨entries, hledger, hids, hreport⟩ := Pipeline.exists_ledger h
    obtain ⟨m, hm, rfl⟩ := Pipeline.exists_of_mem_report hledger hids hreport hid
    exact id_cases_of_messagesOf hmessages hm

/-! ## Reading a response -/

theorem isFaithful_response {result : BatchResult}
    (h : ∀ id ∈ result.report.getD [], ∃ t, id = .string t ∧ t.WellPaired) :
    Json.IsFaithful 3 (response result) := by
  have hname : ∀ s : String, (Text.ofString s).WellPaired := fun s =>
    (Text.isPlain_ofString s).wellPaired
  unfold response
  cases hreport : result.report with
  | none => exact .null
  | some ids =>
    rw [hreport] at h
    refine .object (List.nodup_singleton _) ?_ ?_
    · rintro m hm
      obtain rfl := List.mem_singleton.mp hm
      exact hname _
    · rintro m hm
      obtain rfl := List.mem_singleton.mp hm
      refine .array fun item hitem => ?_
      obtain ⟨id, hid, rfl⟩ := List.mem_map.mp hitem
      obtain ⟨t, rfl, ht⟩ := h id hid
      refine .object (List.nodup_singleton _) ?_ ?_
      · rintro m hm
        obtain rfl := List.mem_singleton.mp hm
        exact hname _
      · rintro m hm
        obtain rfl := List.mem_singleton.mp hm
        exact .string ht

/-- The text of a response to an event that a text spells is read back, if all ids are strings. -/
theorem read_response [Platform] {p : Pipeline σ} {services : Services σ} {text : Text}
    {event : Json} {result : BatchResult} {scene ended : Scene σ} (htext : text.IsPlain)
    (hread : Json.read text = .ok event)
    (h : (handle p services event).runOn scene = (.ok result, ended))
    (hids : QueueSource.AreTexts (reportedIds (response result))) :
    Json.read (response result).print = .ok (response result) := by
  rw [reportedIds_response] at hids
  have hroom : 3 ≤ Json.depthLimit := Nat.le_trans (by decide) Json.Limits.enough
  refine Json.read_print ((isFaithful_response fun id hid => ?_).mono hroom)
  obtain ⟨t, rfl⟩ := hids id hid
  refine ⟨t, rfl, ?_⟩
  rcases occurs_of_reported h hid with hnull | hoccurs
  · cases hnull
  · exact Json.wellPaired_of_read hread htext hoccurs

end Worker

end LogHarvest
