import LogHarvest.Proofs.Queue.Handover
import LogHarvest.Proofs.Shelf

/-!
# Deleting a batch

The messages of a batch that did not fail are deleted ten at a time. Whatever becomes of a call, all
the others are made, and that one of them was refused is told in the end
(`acknowledge_deletes_the_rest`).
-/

namespace LogHarvest

variable {σ : Type}

/-! ## Refused calls -/

/-- Not everything was deleted: the call failed, what failed is named in the answer, or the answer
is none. -/
inductive QueueReply.Refuses : QueueReply → Prop
  | raised {reply : QueueReply} {fault : Fault} (h : reply.answer = .error fault) : reply.Refuses
  | named {reply : QueueReply} {members : List (Text × Json)} {failed : Json}
      (h : reply.answer = .ok (.object members))
      (hnamed : Json.find? members (Text.ofString "Failed") = some failed)
      (htruthy : failed.isTruthy = true) : reply.Refuses
  | shapeless {reply : QueueReply} {answer : Json} (h : reply.answer = .ok answer)
      (hshape : ∀ members, answer ≠ .object members) : reply.Refuses

namespace QueueSource

theorem deletionFault?_object (members : List (Text × Json)) :
    deletionFault? (.object members) =
      .ok (((Json.find? members (Text.ofString "Failed")).filter Json.isTruthy).map
        Fault.deletionFailed) := by
  have hmember : (Json.object members).member? "Failed" =
      .ok (Json.find? members (Text.ofString "Failed")) := rfl
  rw [deletionFault?, bind_of_eq_ok hmember]
  cases Json.find? members (Text.ofString "Failed") with
  | none => rfl
  | some failed =>
    cases htruthy : failed.isTruthy <;> simp [htruthy, pure, Except.pure, Option.filter]

theorem deletionFault?_of_shapeless {answer : Json} (h : ∀ members, answer ≠ .object members) :
    deletionFault? answer = .error (.noMember answer.kindName (Text.ofString "get")) := by
  cases answer with
  | object members => exact absurd rfl (h members)
  | _ => rfl

/-- A call is refused exactly if there is a fault in its reply. -/
theorem refuses_iff {reply : QueueReply} :
    reply.Refuses ↔ (deletionFaultOf reply).isSome = true := by
  constructor
  · intro hrefuses
    cases hrefuses with
    | raised h => rw [deletionFaultOf, h, Except.bind, Option.isSome_some]
    | named h hnamed htruthy =>
      rw [deletionFaultOf, h, Except.bind, deletionFault?_object, hnamed, Option.filter_some,
        if_pos htruthy]
      rfl
    | shapeless h hshape =>
      rw [deletionFaultOf, h, Except.bind, deletionFault?_of_shapeless hshape, Option.isSome_some]
  · intro hfault
    cases hanswer : reply.answer with
    | error fault => exact .raised hanswer
    | ok answer =>
      by_cases hshape : ∃ members, answer = .object members
      · obtain ⟨members, rfl⟩ := hshape
        rw [deletionFaultOf, hanswer, Except.bind, deletionFault?_object, Option.isSome_map]
          at hfault
        obtain ⟨failed, hfailed⟩ := Option.isSome_iff_exists.mp hfault
        obtain ⟨hnamed, htruthy⟩ := Option.filter_eq_some_iff.mp hfailed
        exact .named hanswer hnamed htruthy
      · exact .shapeless hanswer fun members hobject => hshape ⟨members, hobject⟩

/-! ## Groups -/

/-- Only the last group may be shorter than a call takes. -/
theorem length_of_mem_dropLast_groups {rs g : List Receipt} (h : g ∈ (groups rs).dropLast) :
    g.length = callLimit := by
  fun_induction groups rs with
  | case1 => cases h
  | case2 r rest ih =>
    cases hmore : groups (rest.drop (callLimit - 1)) with
    | nil =>
      rw [hmore] at h
      cases h
    | cons g' more =>
      rw [hmore, List.dropLast_cons_cons] at h
      rcases List.mem_cons.mp h with rfl | h
      · have hlong : rest.drop (callLimit - 1) ≠ [] := by
          intro hnil
          rw [hnil, groups] at hmore
          cases hmore
        have hlength := List.length_pos_iff.mpr hlong
        simp only [List.length_cons, List.length_take, List.length_drop, callLimit] at hlength ⊢
        omega
      · exact ih (hmore ▸ h)

/-! ## The calls -/

/-- The calls that delete the messages of a batch, with their replies. -/
def deletions (services : Services σ) (q : QueueSource) (batch : Received) (failed : List Json)
    (scene : Scene σ) : List Call :=
  ((acknowledge services.recorded q batch failed).runOn (scene.recording [])).2.calls

/-- The groups that were called for, with the replies, are what remains of the receipts without the
ids that failed: each receipt once, in order, and ten in a call as long as there are ten. -/
structure DeletesRest (receipts : List Receipt) (failed : List Json)
    (answered : List (List Receipt × QueueReply)) : Prop where
  rest : answered.flatMap (·.1) = receipts.filter fun r => !isAmong failed r.id
  texts : ∀ t, isAmong failed (.string t) = true ↔ .string t ∈ failed
  nonempty : ∀ g ∈ answered, 1 ≤ g.1.length
  short : ∀ g ∈ answered, g.1.length ≤ 10
  full : ∀ g ∈ answered.dropLast, g.1.length = 10
  nothing : (∀ r ∈ receipts, isAmong failed r.id = true) → answered = []

theorem deletesRest_of_groups {receipts : List Receipt} {failed : List Json}
    {answered : List (List Receipt × QueueReply)}
    (h : answered.map (·.1) = groups (receipts.filter fun r => !isAmong failed r.id)) :
    DeletesRest receipts failed answered := by
  have hmem : ∀ g ∈ answered, g.1 ∈ groups (receipts.filter fun r => !isAmong failed r.id) :=
    fun g hg => h ▸ List.mem_map_of_mem hg
  refine ⟨?_, fun t => isAmong_text_iff, fun g hg => (length_of_mem_groups (hmem g hg)).1,
    fun g hg => (length_of_mem_groups (hmem g hg)).2, ?_, ?_⟩
  · rw [List.flatMap_def, h, flatten_groups]
  · intro g hg
    have hfull : g.1 ∈ (answered.map (·.1)).dropLast := by
      rw [← List.map_dropLast]
      exact List.mem_map_of_mem hg
    rw [h] at hfull
    exact length_of_mem_dropLast_groups hfull
  · intro hall
    have hnil : (receipts.filter fun r => !isAmong failed r.id) = [] :=
      List.filter_eq_nil_iff.mpr fun r hr => by simp [hall r hr]
    rw [hnil, groups, List.map_eq_nil_iff] at h
    exact h

theorem exists_failing_iff {fault? : Option Fault} :
    (∃ fault, failing fault? = .error fault) ↔ fault?.isSome = true := by
  cases fault? with
  | none => simp [failing]
  | some fault => simp [failing]

section Acknowledge

variable (services : Services σ) (q : QueueSource) {batch : Received} {failed : List Json}
  (hfailed : ∀ id ∈ failed, (Value.ofJson id).isKey = true)
  (hreceipts : ∀ r ∈ batch.receipts, (Value.ofJson r.id).isKey = true)

include hfailed hreceipts

/-- **Each message that did not fail is deleted exactly once**, ten in a call, and every call is
made whatever becomes of the others. The deletion of the batch fails exactly if one of them was
refused. -/
theorem acknowledge_deletes_the_rest (scene : Scene σ) :
    ∃ answered, deletions services q batch failed scene = answered.map (deletion q.url) ∧
      DeletesRest batch.receipts failed answered ∧
      ((∃ fault, ((acknowledge services q batch failed).runOn scene).1 = .error fault) ↔
        ∃ g ∈ answered, g.2.Refuses) := by
  obtain ⟨answered, hgroups, hresult, hcalls⟩ := acknowledge_answered services q
    (scene.recording []) (toDelete_of_keys hfailed hreceipts)
  refine ⟨answered, hcalls, deletesRest_of_groups hgroups, ?_⟩
  have hplain : ((acknowledge services q batch failed).runOn scene).1 =
      failing (answered.findSome? fun g => deletionFaultOf g.2) :=
    ((agrees_acknowledge services q batch failed).runOn rfl).1.symm.trans hresult
  rw [hplain, exists_failing_iff, List.findSome?_isSome_iff]
  simp only [refuses_iff]

end Acknowledge

/-- A batch of thirteen receipts with seven ids. -/
def repeatedBatch : Received :=
  ⟨[], (List.range 13).map fun n => ⟨.string (Text.ofNat (n % 7)), .int n⟩⟩

/-- The scene in which the first call of the queue fails. -/
def refusingScene : Scene Shelf := .start (.empty [⟨.error (.missingKey "QueueUrl"), false⟩])

/-- Eleven of the receipts did not fail. They are deleted in two calls, of which the first is
refused. -/
theorem repeated_receipts_deleted :
    let q : QueueSource := ⟨"q", .string "url", 0⟩
    (∀ id ∈ [Json.string "3"], (Value.ofJson id).isKey = true) ∧
      (∀ r ∈ repeatedBatch.receipts, (Value.ofJson r.id).isKey = true) ∧
      ∃ answered, deletions Shelf.services q repeatedBatch [.string "3"] refusingScene =
          answered.map (deletion q.url) ∧
        DeletesRest repeatedBatch.receipts [.string "3"] answered ∧
        (∃ g ∈ answered, g.2.Refuses) ∧ answered.map (·.1.length) = [10, 1] := by
  intro q
  have hfailed : ∀ id ∈ [Json.string "3"], (Value.ofJson id).isKey = true := by decide
  have hreceipts : ∀ r ∈ repeatedBatch.receipts, (Value.ofJson r.id).isKey = true := by decide
  obtain ⟨answered, hcalls, hrest, hfault⟩ :=
    acknowledge_deletes_the_rest Shelf.services q hfailed hreceipts refusingScene
  have hraised : ((acknowledge Shelf.services q repeatedBatch [.string "3"]).runOn
      refusingScene).1 = .error (.missingKey "QueueUrl") := by cbv
  have hlengths : (deletions Shelf.services q repeatedBatch [.string "3"] refusingScene).map
      (fun call => call.receipts.length) = [10, 1] := by cbv
  rw [hcalls, List.map_map] at hlengths
  exact ⟨hfailed, hreceipts, answered, hcalls, hrest, hfault.mp ⟨_, hraised⟩, hlengths⟩

end QueueSource

end LogHarvest
