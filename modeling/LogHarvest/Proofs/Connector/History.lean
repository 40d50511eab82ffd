import LogHarvest.Platform.BuiltIn
import LogHarvest.Proofs.Connector.Pulls
import Mathlib

/-!
# The history of a vault

Secrets are asked for one after another, and in between the store of secrets changes: it may give
another answer for a reference, raise a fault, or no longer know the reference. `History.after` is
what a sequence of such events leads to, with the results of all requests.

* `History.IsSound.happen`: what is kept for a reference is the first success among its requests
* `History.Alike.happen`: requests for other references leave no trace in the requests for this one
-/

namespace LogHarvest

/-- A store of secrets: its answer for each reference, and for which ones it was asked. -/
structure SecretStore where
  answers : Text → Except Fault Json
  asked : List Text

namespace SecretStore

/-- What a store raises for a reference that it does not know. -/
def notFound : Fault :=
  .outside .storage "ClientError" [.string (Text.ofString
    ("An error occurred (ResourceNotFoundException) when calling the GetSecretValue operation: " ++
      "Secrets Manager can't find the specified secret."))]

/-- The services with a store of secrets, and nothing else. -/
def services : Services SecretStore where
  openClient _ _ := pure ()
  secret arn := fun store => (store.answers arn, { store with asked := store.asked ++ [arn] })
  page request := pure (.error (.missingKey request.url))
  store _ := pure (.ok ())
  queue _ := pure ⟨.ok (.object []), false⟩
  freshId := pure []
  now := pure ⟨0, 0⟩
  wait _ := pure ()

/-- What happens to a store and to the vault in front of it. -/
inductive Event
  | put (arn : Text) (answer : Except Fault Json)
  | delete (arn : Text)
  | get (arn : Text)

/-- The answers of a store after an event. A request for a secret does not change them. -/
def Event.alter (answers : Text → Except Fault Json) : Event → Text → Except Fault Json
  | put arn answer => fun other => if other = arn then answer else answers other
  | delete arn => fun other => if other = arn then .error notFound else answers other
  | get _ => answers

/-- What an event makes of the answer for a reference depends on that answer alone. -/
theorem Event.alter_congr {answers answers' : Text → Except Fault Json} {arn : Text}
    (h : answers arn = answers' arn) (event : Event) :
    event.alter answers arn = event.alter answers' arn := by
  cases event with
  | get other => exact h
  | put other answer =>
    by_cases heq : arn = other
    · simp [alter, heq]
    · simpa [alter, heq] using h
  | delete other =>
    by_cases heq : arn = other
    · simp [alter, heq]
    · simpa [alter, heq] using h

/-- Whether an event is a request for another secret. -/
def Event.isOther (arn : Text) : Event → Bool
  | get other => other != arn
  | _ => false

/-- Where a vault is, with the results of all requests so far. -/
structure History where
  scene : Scene SecretStore
  gets : List (Text × Except Fault Secret)

namespace History

/-- A vault in front of a store that has not been asked yet. -/
def start (answers : Text → Except Fault Json) : History := ⟨.start ⟨answers, []⟩, []⟩

/-- A secret is asked for. -/
def request [Json.Limits] (h : History) (arn : Text) : Except Fault Secret × Scene SecretStore :=
  (Vault.get services arn).runOn h.scene

/-- The store changes its answers. -/
def altered (h : History) (answers : Text → Except Fault Json) : History :=
  { h with scene := { h.scene with outside := { h.scene.outside with answers := answers } } }

/-- The history goes on with an event. -/
def happen [Json.Limits] (h : History) : Event → History
  | .get arn => ⟨(h.request arn).2, h.gets ++ [(arn, (h.request arn).1)]⟩
  | event => h.altered (event.alter h.scene.outside.answers)

/-- The history goes on with events. -/
def after [Json.Limits] (h : History) (events : List Event) : History := events.foldl happen h

/-- A request for the secret has succeeded. -/
def HasSucceeded (h : History) (arn : Text) : Prop := ∃ secret, (arn, .ok secret) ∈ h.gets

/-! ## The first success -/

/-- The secret that a request came to, if it was for this reference and succeeded. -/
def successOf (arn : Text) (got : Text × Except Fault Secret) : Option Secret :=
  if got.1 = arn then got.2.toOption else none

/-- The secret that the first successful request for a reference came to. -/
def firstSuccess (gets : List (Text × Except Fault Secret)) (arn : Text) : Option Secret :=
  gets.findSome? (successOf arn)

theorem successOf_eq_some_iff {arn : Text} {got : Text × Except Fault Secret} {secret : Secret} :
    successOf arn got = some secret ↔ got = (arn, .ok secret) := by
  obtain ⟨other, result⟩ := got
  unfold successOf
  by_cases h : other = arn
  · rw [if_pos h]
    cases result <;> simp [h, Except.toOption]
  · rw [if_neg h]
    simp [h]

theorem firstSuccess_concat (gets : List (Text × Except Fault Secret))
    (got : Text × Except Fault Secret) (arn : Text) :
    firstSuccess (gets ++ [got]) arn = (firstSuccess gets arn).or (successOf arn got) := by
  unfold firstSuccess
  rw [List.findSome?_append, List.findSome?_singleton]

theorem firstSuccess_eq_none_iff {h : History} {arn : Text} :
    firstSuccess h.gets arn = none ↔ ¬h.HasSucceeded arn := by
  unfold firstSuccess HasSucceeded
  rw [List.findSome?_eq_none_iff]
  constructor
  · rintro hnone ⟨secret, hmem⟩
    have hsome := successOf_eq_some_iff.mpr (rfl : (arn, Except.ok secret) = (arn, .ok secret))
    rw [hnone _ hmem] at hsome
    cases hsome
  · intro hnot got hmem
    cases hgot : successOf arn got with
    | none => rfl
    | some secret => exact absurd ⟨secret, successOf_eq_some_iff.mp hgot ▸ hmem⟩ hnot

/-- The first success is the one before which there is none. -/
theorem firstSuccess_of_split {earlier later : List (Text × Except Fault Secret)} {arn : Text}
    {secret : Secret} (hnone : ∀ other, (arn, .ok other) ∉ earlier) :
    firstSuccess (earlier ++ (arn, .ok secret) :: later) arn = some secret := by
  have hearlier : earlier.findSome? (successOf arn) = none := by
    rw [List.findSome?_eq_none_iff]
    intro got hmem
    cases hgot : successOf arn got with
    | none => rfl
    | some other => exact absurd (successOf_eq_some_iff.mp hgot ▸ hmem) (hnone other)
  unfold firstSuccess
  rw [List.findSome?_append, hearlier, Option.none_or, List.findSome?_cons,
    successOf_eq_some_iff.mpr rfl]

/-! ## Requests -/

section

variable [Json.Limits]

theorem request_of_kept {h : History} {arn : Text} {secret : Secret}
    (hkept : h.scene.kept.lookup arn = some secret) : h.request arn = (.ok secret, h.scene) :=
  Vault.runOn_get_of_kept hkept

/-- A secret that is not kept is the one that the store holds. -/
theorem request_of_not_kept {h : History} {arn : Text} (hkept : h.scene.kept.lookup arn = none) :
    h.request arn =
      match h.scene.outside.answers arn >>= Vault.ofAnswer arn with
      | .ok secret => (.ok secret, (Vault.asked services arn h.scene).keep arn secret)
      | .error fault => (.error fault, Vault.asked services arn h.scene) :=
  (Vault.runOn_get_of_not_kept hkept).trans (Vault.runOn_fetch services arn h.scene)

/-- Then the store is asked once. -/
theorem outside_request_of_not_kept {h : History} {arn : Text}
    (hkept : h.scene.kept.lookup arn = none) :
    (h.request arn).1 = (h.scene.outside.answers arn >>= Vault.ofAnswer arn) ∧
      (h.request arn).2.outside = ⟨h.scene.outside.answers, h.scene.outside.asked ++ [arn]⟩ := by
  rw [request_of_not_kept hkept]
  cases h.scene.outside.answers arn >>= Vault.ofAnswer arn <;> exact ⟨rfl, rfl⟩

theorem answers_request (h : History) (arn : Text) :
    (h.request arn).2.outside.answers = h.scene.outside.answers := by
  cases hkept : h.scene.kept.lookup arn with
  | some secret => rw [request_of_kept hkept]
  | none => rw [(outside_request_of_not_kept hkept).2]

/-- What is kept after a request: what was kept before, and else the secret that it came to. -/
theorem lookup_request (h : History) (arn other : Text) :
    (h.request arn).2.kept.lookup other =
      (h.scene.kept.lookup other).or (successOf other (arn, (h.request arn).1)) := by
  cases hkept : h.scene.kept.lookup arn with
  | some secret =>
    rw [request_of_kept hkept]
    by_cases heq : arn = other
    · rw [← heq, hkept, Option.some_or]
    · simp [successOf, heq]
  | none =>
    rw [request_of_not_kept hkept]
    cases h.scene.outside.answers arn >>= Vault.ofAnswer arn with
    | error fault => simp [successOf, Except.toOption, Vault.asked, Scene.write]
    | ok secret =>
      show (((Vault.asked services arn h.scene).keep arn secret).kept.lookup other) = _
      rw [Scene.lookup_keep]
      -- asking the store does not touch what is kept
      show (h.scene.kept.lookup other).or _ = _
      by_cases heq : other = arn
      · simp [successOf, heq, Except.toOption]
      · simp [successOf, heq, Ne.symm heq]

/-! ## Whole histories -/

/-- The store answers as its changes have it, and the first successes are kept. -/
structure IsSound (h : History) (answers : Text → Except Fault Json) : Prop where
  answers : h.scene.outside.answers = answers
  kept : ∀ arn, h.scene.kept.lookup arn = firstSuccess h.gets arn

omit [Json.Limits] in
theorem isSound_start (answers : Text → Except Fault Json) : (start answers).IsSound answers where
  answers := rfl
  kept _ := rfl

/-- The step lemma: an event adds at most a first success. -/
theorem IsSound.happen {h : History} {answers : Text → Except Fault Json} (hs : h.IsSound answers)
    (event : Event) : (h.happen event).IsSound (event.alter answers) := by
  cases event with
  | put arn answer =>
    refine ⟨?_, hs.kept⟩
    show Event.alter h.scene.outside.answers (.put arn answer) = _
    rw [hs.answers]
  | delete arn =>
    refine ⟨?_, hs.kept⟩
    show Event.alter h.scene.outside.answers (.delete arn) = _
    rw [hs.answers]
  | get arn =>
    refine ⟨?_, ?_⟩
    · exact (answers_request h arn).trans hs.answers
    · intro other
      show (h.request arn).2.kept.lookup other = firstSuccess (h.gets ++ [_]) other
      rw [lookup_request, firstSuccess_concat, hs.kept]

/-- The run lemma. -/
theorem IsSound.after {h : History} {answers : Text → Except Fault Json} (hs : h.IsSound answers)
    (events : List Event) : (h.after events).IsSound (events.foldl Event.alter answers) := by
  induction events generalizing h answers with
  | nil => exact hs
  | cons event events ih => exact ih (hs.happen event)

/-! ## One reference among others -/

/-- Two histories that a request for this reference cannot tell apart; in the second one nothing
else was requested. -/
structure Alike (arn : Text) (h h' : History) : Prop where
  answer : h.scene.outside.answers arn = h'.scene.outside.answers arn
  kept : h.scene.kept.lookup arn = h'.scene.kept.lookup arn
  gets : h.gets.filter (·.1 = arn) = h'.gets

variable {arn : Text} {h h' : History}

omit [Json.Limits] in
theorem alike_start (arn : Text) (answers : Text → Except Fault Json) :
    Alike arn (start answers) (start answers) where
  answer := rfl
  kept := rfl
  gets := rfl

/-- They come to the same. -/
theorem Alike.request (ha : Alike arn h h') : (h.request arn).1 = (h'.request arn).1 := by
  cases hkept : h.scene.kept.lookup arn with
  | some secret => rw [request_of_kept hkept, request_of_kept (ha.kept.symm.trans hkept)]
  | none =>
    rw [(outside_request_of_not_kept hkept).1,
      (outside_request_of_not_kept (ha.kept.symm.trans hkept)).1, ha.answer]

omit [Json.Limits] in
/-- A change of the store is the same change in both. -/
theorem Alike.altered (ha : Alike arn h h') {answers answers' : Text → Except Fault Json}
    (hanswer : answers arn = answers' arn) :
    Alike arn (h.altered answers) (h'.altered answers') where
  answer := hanswer
  kept := ha.kept
  gets := ha.gets

/-- The step lemma: both histories go on, unless the event is a request for another reference. -/
theorem Alike.happen (ha : Alike arn h h') {event : Event} (hevent : event.isOther arn = false) :
    Alike arn (h.happen event) (h'.happen event) := by
  cases event with
  | put other answer => exact ha.altered (Event.alter_congr ha.answer _)
  | delete other => exact ha.altered (Event.alter_congr ha.answer _)
  | get other =>
    obtain rfl : other = arn := by simpa [Event.isOther] using hevent
    refine ⟨?_, ?_, ?_⟩
    · show (h.request other).2.outside.answers other = (h'.request other).2.outside.answers other
      rw [answers_request, answers_request, ha.answer]
    · show (h.request other).2.kept.lookup other = (h'.request other).2.kept.lookup other
      rw [lookup_request, lookup_request, ha.kept, ha.request]
    · show (h.gets ++ [_]).filter _ = h'.gets ++ [_]
      rw [List.filter_append, ha.gets, ha.request]
      simp

/-- A request for another reference leaves everything as it is for this one. -/
theorem Alike.happen_other (ha : Alike arn h h') {event : Event}
    (hevent : event.isOther arn = true) : Alike arn (h.happen event) h' := by
  cases event with
  | put other answer => cases hevent
  | delete other => cases hevent
  | get other =>
    have hne : other ≠ arn := by simpa [Event.isOther] using hevent
    refine ⟨?_, ?_, ?_⟩
    · show (h.request other).2.outside.answers arn = _
      rw [answers_request, ha.answer]
    · show (h.request other).2.kept.lookup arn = _
      rw [lookup_request, ← ha.kept]
      simp [successOf, hne]
    · show (h.gets ++ [_]).filter _ = h'.gets
      rw [List.filter_append, ha.gets]
      simp [hne]

/-- The run lemma. -/
theorem Alike.after (ha : Alike arn h h') (events : List Event) :
    Alike arn (h.after events) (h'.after (events.filter fun e => !e.isOther arn)) := by
  induction events generalizing h h' with
  | nil => exact ha
  | cons event events ih =>
    cases hevent : event.isOther arn with
    | true =>
      rw [List.filter_cons_of_neg (by simp [hevent])]
      exact ih (ha.happen_other hevent)
    | false =>
      rw [List.filter_cons_of_pos (by simp [hevent])]
      exact ih (ha.happen hevent)

/-! ## For ever -/

/--
**The first success is kept for ever, and no failure is.**

Let a store change its answers in any way while secrets are asked for, and then ask for a secret.
The store is asked exactly if no request for this secret has succeeded yet; then the request comes
to what the store holds at this moment, be it a secret or a fault. Otherwise it comes to what the
first successful request came to, and nothing is asked or changed. Requests for other secrets make
no difference: without them all requests for this one come to the same.
-/
theorem first_success_kept_for_ever (answers : Text → Except Fault Json) (events : List Event)
    (arn : Text) :
    let h := (start answers).after events
    ((h.request arn).2.outside.asked = h.scene.outside.asked ++ [arn] ↔ ¬h.HasSucceeded arn) ∧
    (¬h.HasSucceeded arn →
      (h.request arn).1 = (events.foldl Event.alter answers arn >>= Vault.ofAnswer arn)) ∧
    (∀ earlier secret later, h.gets = earlier ++ (arn, .ok secret) :: later →
      (∀ other, (arn, .ok other) ∉ earlier) → h.request arn = (.ok secret, h.scene)) ∧
    let h' := (start answers).after (events.filter fun e => !e.isOther arn)
    h.gets.filter (·.1 = arn) = h'.gets ∧ (h.request arn).1 = (h'.request arn).1 := by
  intro h
  have hsound : h.IsSound (events.foldl Event.alter answers) := (isSound_start answers).after events
  have halike : Alike arn h ((start answers).after (events.filter fun e => !e.isOther arn)) :=
    (alike_start arn answers).after events
  refine ⟨⟨?_, ?_⟩, ?_, ?_, halike.gets, halike.request⟩
  · intro hasked hsucceeded
    cases hkept : h.scene.kept.lookup arn with
    | none => exact firstSuccess_eq_none_iff.mp (hsound.kept arn ▸ hkept) hsucceeded
    | some secret =>
      rw [request_of_kept hkept] at hasked
      simp at hasked
  · intro hnot
    have hkept := (hsound.kept arn).trans (firstSuccess_eq_none_iff.mpr hnot)
    rw [(outside_request_of_not_kept hkept).2]
  · intro hnot
    have hkept := (hsound.kept arn).trans (firstSuccess_eq_none_iff.mpr hnot)
    rw [(outside_request_of_not_kept hkept).1, hsound.answers]
  · intro earlier secret later hgets hnone
    have hkept : h.scene.kept.lookup arn = some secret := by
      rw [hsound.kept arn, hgets]
      exact firstSuccess_of_split hnone
    exact request_of_kept hkept

end

attribute [local instance] Platform.builtIn

/-- A secret that could not be had at first, was stored and fetched, and is deleted. -/
theorem secret_kept_after_deletion :
    let arn := Text.ofString "A"
    let answer := Json.object [(Text.ofString "SecretString", .string (Text.ofString "s"))]
    let h := (start fun _ => .error notFound).after
      [.get arn, .put arn (.ok answer), .get arn, .get (Text.ofString "B"), .delete arn]
    h.request arn = (.ok (Vault.plain (Text.ofString "s")), h.scene) := by
  intro arn answer h
  obtain ⟨-, -, hkept, -⟩ := first_success_kept_for_ever (fun _ => .error notFound)
    [.get arn, .put arn (.ok answer), .get arn, .get (Text.ofString "B"), .delete arn] arn
  refine hkept [(arn, .error notFound)] (Vault.plain (Text.ofString "s"))
    [(Text.ofString "B", .error notFound)] ?_ (by simp)
  cbv

end History

end SecretStore

end LogHarvest
