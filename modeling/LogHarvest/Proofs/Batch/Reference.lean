import LogHarvest.Proofs.Archive.Streams
import LogHarvest.Proofs.Batch.Ledger
import LogHarvest.Proofs.Shelf
import Mathlib

/-!
# A batch and its messages one by one

What becomes of a message can be told from the message alone, once it is known what the pull of each
source ends with and whether its objects are taken. A batch comes to just that for each of its
messages: the order of the moves, the time that pulls take, the cap and the other messages have no
say in it.
-/

namespace LogHarvest

variable {σ : Type}

/-- What the world outside does for each source: what its pull ends with, and how an object of it is
taken. -/
structure Conduct where
  pull : Route → Except Fault Bytes
  store : Text → Except Fault Unit

/-- What becomes of a message by itself. -/
inductive Lot
  | dropped
  | failed
  | idle
  | archived (source : Text) (data : Bytes)

namespace Lot

/-- Whether the message failed. -/
def isFailed : Lot → Bool
  | failed => true
  | _ => false

/-- The source and the data of an object that is stored for the message. -/
def archived? : Lot → Option (Text × Bytes)
  | archived source data => some (source, data)
  | _ => none

/-- The lot that an outcome amounts to where this data of a source was archived. -/
def ofOutcome (source : Text) (data : Bytes) : Outcome → Lot
  | .noNewData => idle
  | .archived _ _ => archived source data
  | .failed _ => failed

@[simp] theorem isFailed_ofOutcome (source : Text) (data : Bytes) (outcome : Outcome) :
    (ofOutcome source data outcome).isFailed = outcome.isFailed := by
  cases outcome <;> rfl

end Lot

/-! ## One message -/

namespace Conduct

variable (c : Conduct) (p : Pipeline σ)

/-- The lot of data that was pulled. -/
def lotOfData (source : Text) (data : Bytes) : Lot :=
  if data = [] then .idle
  else match p.writer.codec.compress data, c.store source with
    | .ok _, .ok () => .archived source data
    | _, _ => .failed

/-- The lot of a request for a source that is known. -/
def lotOfRoute (source : Text) (route : Route) : Lot :=
  match p.connectors.find route.type, c.pull route with
  | .ok _, .ok data => c.lotOfData p source data
  | _, _ => .failed

/-- The lot of a message. -/
def lot [Json.Limits] (m : Message) : Lot :=
  if m.id.isNull then .dropped
  else match PullRequest.ofBody m.body with
    | .error _ => .failed
    | .ok request =>
      match p.routing.find? request.source with
      | none => .failed
      | some route => c.lotOfRoute p request.source route

end Conduct

namespace Pipeline

variable (p : Pipeline σ)

/-- The route that is pulled for a message, if any is. -/
def routeOf [Json.Limits] (m : Message) : Option Route :=
  if m.id.isNull then none
  else match PullRequest.ofBody m.body with
    | .error _ => none
    | .ok request => (p.routing.find? request.source).filter fun route =>
        (p.connectors.find route.type).isOk

/-- The object holds the data of a source, under a key of this source. -/
def Holds (services : Services σ) (archived : Text × Bytes) (object : StoredObject) : Prop :=
  object.bucket = p.writer.bucket ∧ (∃ id, services.Gives id ∧
    object.key = ArchiveWriter.key archived.1 id) ∧
    p.writer.codec.decompress object.body = .ok archived.2

end Pipeline

namespace Call

/-- The route of a pull. -/
def route? : Call → Option Route
  | pull route _ => some route
  | _ => none

/-- The object of a call that stored one. -/
def stored? : Call → Option StoredObject
  | store object (.ok ()) => some object
  | _ => none

end Call

/-! ## The world outside keeps to a conduct -/

namespace Conduct

variable (c : Conduct) (p : Pipeline σ) (services : Services σ)

/-- In these calls the world outside kept to the conduct. -/
structure Describes (calls : List Call) : Prop where
  pull : ∀ route pull, Call.pull route pull ∈ calls → pull.answer = c.pull route
  store : ∀ source id body answer, services.Gives id →
    Call.store (p.objectOf source id body) answer ∈ calls →
    answer = c.store source

/-- The connectors and the object store keep to the conduct whatever they are asked. -/
structure Governs : Prop where
  pull : ∀ type connector, p.connectors.find type = .ok connector →
    ∀ route pull, connector.Answers route pull →
    pull.answer = c.pull route
  store : ∀ source id body answer, services.Gives id →
    services.Takes (p.objectOf source id body) answer →
    answer = c.store source

variable {c p services}

theorem Describes.subset {calls more : List Call} (h : c.Describes p services calls)
    (hsub : more ⊆ calls) :
    c.Describes p services more where
  pull route pull hmem := h.pull route pull (hsub hmem)
  store source id body answer hid hmem := h.store source id body answer hid (hsub hmem)

theorem Describes.left {calls more : List Call} (h : c.Describes p services (calls ++ more)) :
    c.Describes p services calls := h.subset (List.subset_append_left calls more)

theorem Describes.right {calls more : List Call} (h : c.Describes p services (calls ++ more)) :
    c.Describes p services more := h.subset (List.subset_append_right calls more)

/-! ## Each entry of a ledger says what the message alone says -/

/-- Data comes to the lot that its outcome tells. -/
theorem lotOfData_of_archiving {source : Text} {data : Bytes} {outcome : Outcome}
    {calls : List Call} (h : p.Archiving services source data outcome calls)
    (hd : c.Describes p services calls) :
    c.lotOfData p source data = .ofOutcome source data outcome := by
  cases h with
  | nothing => rfl
  | uncompressed key hdata hbody => simp [lotOfData, hdata, hbody, Lot.ofOutcome]
  | @refused _ body id fault key hdata hbody hid hstore =>
    -- the answer on record is the one that the conduct has for this source
    have hanswer : .error fault = c.store source := hd.store source id body _ hid List.mem_cons_self
    simp [lotOfData, hdata, hbody, ← hanswer, Lot.ofOutcome]
  | @stored _ body id hdata hbody hid hstore =>
    have hanswer : .ok () = c.store source := hd.store source id body _ hid List.mem_cons_self
    simp [lotOfData, hdata, hbody, ← hanswer, Lot.ofOutcome]

theorem lotOfRoute_of_pulled {task : Task} {data : Bytes} {calls : List Call}
    (h : p.Pulled task (.ok data) calls) (hd : c.Describes p services calls) :
    c.lotOfRoute p task.source task.route = c.lotOfData p task.source data := by
  cases h with
  | @pulled connector seconds _ hfind hpull =>
    have hanswer := hd.pull _ _ List.mem_cons_self
    simp [lotOfRoute, hfind, ← hanswer]

theorem lotOfRoute_of_not_pulled {task : Task} {fault : Fault} {calls : List Call}
    (h : p.Pulled task (.error fault) calls) (hd : c.Describes p services calls) :
    c.lotOfRoute p task.source task.route = .failed := by
  cases h with
  | @pulled connector seconds _ hfind hpull =>
    have hanswer := hd.pull _ _ List.mem_cons_self
    simp [lotOfRoute, hfind, ← hanswer]
  | unregistered hfind => simp [lotOfRoute, hfind]

theorem isFailed_of_ended {task : Task} {outcome : Outcome} {calls : List Call}
    (h : p.Ended services task outcome calls) (hd : c.Describes p services calls) :
    outcome.isFailed = (c.lotOfRoute p task.source task.route).isFailed := by
  cases h with
  | notPulled hpulled =>
    rw [lotOfRoute_of_not_pulled hpulled hd]
    rfl
  | pulled hpulled harchiving =>
    rw [lotOfRoute_of_pulled hpulled hd.left, lotOfData_of_archiving harchiving hd.right,
      Lot.isFailed_ofOutcome]

/-- A pull comes to what the conduct says, where a connector is registered. -/
theorem answer_of_pulled {task : Task} {answer : Except Fault Bytes} {calls : List Call}
    (h : p.Pulled task answer calls) (hd : c.Describes p services calls) :
    answer = (p.connectors.find task.route.type).bind fun _ => c.pull task.route := by
  cases h with
  | pulled hfind hpull =>
    rw [hfind]
    exact hd.pull _ _ List.mem_cons_self
  | unregistered hfind =>
    rw [hfind]
    rfl

/-- Where the world outside keeps to a conduct, archiving is over or meets an order, but not both.
-/
theorem not_halting_of_archiving {source : Text} {data : Bytes} {outcome : Outcome} {order : Fault}
    {calls more : List Call} (h : p.Archiving services source data outcome calls)
    (hd : c.Describes p services calls) (hd' : c.Describes p services more) :
    ¬ p.Halting services source data order more := by
  intro hhalting
  cases hhalting with
  | uncompressed hdata hbody horder =>
    cases h with
    | nothing => exact hdata rfl
    | uncompressed _ _ hbody' hfault =>
      cases hbody.symm.trans hbody'
      cases horder.symm.trans hfault
    | refused _ _ hbody' => cases hbody.symm.trans hbody'
    | stored _ hbody' => cases hbody.symm.trans hbody'
  | refused hdata hbody hid hstore horder =>
    -- both objects have the answer that the conduct has for this source
    have hanswer : .error order = c.store source := hd'.store _ _ _ _ hid List.mem_cons_self
    cases h with
    | nothing => exact hdata rfl
    | uncompressed _ _ hbody' => cases hbody.symm.trans hbody'
    | @refused _ _ _ fault _ _ _ hid' _ hfault =>
      have hanswer' : .error fault = c.store source := hd.store _ _ _ _ hid' List.mem_cons_self
      cases hanswer.trans hanswer'.symm
      cases horder.symm.trans hfault
    | stored _ _ hid' =>
      have hanswer' : .ok () = c.store source := hd.store _ _ _ _ hid' List.mem_cons_self
      cases hanswer.trans hanswer'.symm

theorem not_halted_of_ended {task : Task} {outcome : Outcome} {order : Fault}
    {calls more : List Call} (h : p.Ended services task outcome calls)
    (hd : c.Describes p services calls) (hd' : c.Describes p services more) :
    ¬ p.Halted services task order more := by
  intro hhalted
  cases h with
  | notPulled hpulled hfault =>
    have hanswer := answer_of_pulled hpulled hd
    cases hhalted with
    | notPulled hpulled' horder =>
      cases hanswer.trans (answer_of_pulled hpulled' hd').symm
      cases horder.symm.trans hfault
    | pulled hpulled' => cases hanswer.trans (answer_of_pulled hpulled' hd'.left).symm
  | pulled hpulled harchiving =>
    have hanswer := answer_of_pulled hpulled hd.left
    cases hhalted with
    | notPulled hpulled' => cases hanswer.trans (answer_of_pulled hpulled' hd').symm
    | pulled hpulled' hhalting =>
      cases hanswer.trans (answer_of_pulled hpulled' hd'.left).symm
      exact not_halting_of_archiving harchiving hd.right hd'.right hhalting

theorem routes_of_pulled {task : Task} {answer : Except Fault Bytes} {calls : List Call}
    (h : p.Pulled task answer calls) :
    calls.filterMap Call.route? =
        (if (p.connectors.find task.route.type).isOk then [task.route] else []) ∧
      calls.filterMap Call.stored? = [] := by
  cases h with
  | pulled hfind hpull =>
    rw [hfind]
    exact ⟨rfl, rfl⟩
  | unregistered hfind =>
    rw [hfind]
    exact ⟨rfl, rfl⟩

theorem archiving_fits (hw : p.writer.codec.IsLossless) {source : Text} {data : Bytes}
    {outcome : Outcome} {calls : List Call} (h : p.Archiving services source data outcome calls)
    (hd : c.Describes p services calls) :
    calls.filterMap Call.route? = [] ∧
      List.Forall₂ (p.Holds services) (c.lotOfData p source data).archived?.toList
        (calls.filterMap Call.stored?) := by
  rw [lotOfData_of_archiving h hd]
  cases h with
  | nothing => exact ⟨rfl, .nil⟩
  | uncompressed key hdata hbody => exact ⟨rfl, .nil⟩
  | refused key hdata hbody hid hstore => exact ⟨rfl, .nil⟩
  | @stored _ body id hdata hbody hid hstore =>
    exact ⟨rfl, .cons ⟨rfl, ⟨id, hid, rfl⟩, hw data body hbody⟩ .nil⟩

theorem ended_fits (hw : p.writer.codec.IsLossless) {task : Task} {outcome : Outcome}
    {calls : List Call} (h : p.Ended services task outcome calls)
    (hd : c.Describes p services calls) :
    calls.filterMap Call.route? =
        (if (p.connectors.find task.route.type).isOk then [task.route] else []) ∧
      List.Forall₂ (p.Holds services) (c.lotOfRoute p task.source task.route).archived?.toList
        (calls.filterMap Call.stored?) := by
  cases h with
  | notPulled hpulled =>
    obtain ⟨hroutes, hobjects⟩ := routes_of_pulled hpulled
    rw [lotOfRoute_of_not_pulled hpulled hd, hobjects]
    exact ⟨hroutes, .nil⟩
  | @pulled data _ _ more hpulled harchiving =>
    obtain ⟨hroutes, hobjects⟩ := routes_of_pulled hpulled
    obtain ⟨hnone, hmore⟩ := archiving_fits hw harchiving hd.right
    rw [lotOfRoute_of_pulled hpulled hd.left, List.filterMap_append, List.filterMap_append, hroutes,
      hobjects, hnone, List.append_nil]
    exact ⟨rfl, hmore⟩

/-! ## Where the world outside keeps to a conduct -/

theorem describes_nil : c.Describes p services [] :=
  ⟨fun _ _ hmem => (List.not_mem_nil hmem).elim, fun _ _ _ _ _ hmem => (List.not_mem_nil hmem).elim⟩

theorem Describes.append {calls more : List Call} (h : c.Describes p services calls)
    (h' : c.Describes p services more) : c.Describes p services (calls ++ more) where
  pull route pull hmem := (List.mem_append.mp hmem).elim (h.pull route pull) (h'.pull route pull)
  store source id body answer hid hmem :=
    (List.mem_append.mp hmem).elim (h.store source id body answer hid)
      (h'.store source id body answer hid)

theorem Governs.pulled (h : c.Governs p services) {task : Task} {answer : Except Fault Bytes}
    {calls : List Call} (hpulled : p.Pulled task answer calls) : c.Describes p services calls := by
  cases hpulled with
  | unregistered => exact describes_nil
  | pulled hfind hpull =>
    refine ⟨fun route pull hmem => ?_, fun source id body answer hid hmem => ?_⟩
    · cases List.mem_singleton.mp hmem
      exact h.pull _ _ hfind _ _ hpull
    · cases List.mem_singleton.mp hmem

theorem Governs.taken (h : c.Governs p services) {object : StoredObject}
    {answer : Except Fault Unit}
    (hstore : services.Takes object answer) : c.Describes p services [.store object answer] := by
  refine ⟨fun route pull hmem => ?_, fun source id body answer hid hmem => ?_⟩
  · cases List.mem_singleton.mp hmem
  · cases List.mem_singleton.mp hmem
    exact h.store source id body _ hid hstore

theorem Governs.ended (h : c.Governs p services) {task : Task} {outcome : Outcome}
    {calls : List Call}
    (hended : p.Ended services task outcome calls) : c.Describes p services calls := by
  cases hended with
  | notPulled hpulled => exact h.pulled hpulled
  | pulled hpulled harchiving =>
    refine (h.pulled hpulled).append ?_
    cases harchiving with
    | nothing => exact describes_nil
    | uncompressed => exact describes_nil
    | refused _ _ _ _ hstore => exact h.taken hstore
    | stored _ _ _ hstore => exact h.taken hstore

/-! ## The entries of a ledger -/

variable [Json.Limits]

/-- An entry of a ledger says what the message alone says. -/
structure Fits (c : Conduct) (p : Pipeline σ) (services : Services σ)
    (e : Pipeline.Entry) : Prop where
  failed : e.hasFailed = (c.lot p e.message).isFailed
  routes : e.calls.filterMap Call.route? = (p.routeOf e.message).toList
  objects : List.Forall₂ (p.Holds services) (c.lot p e.message).archived?.toList
    (e.calls.filterMap Call.stored?)

theorem lot_of_refused {m : Message} {failure : Failure}
    (h : Verdict.ofMessage p.routing m = .ok (.refused failure)) : c.lot p m = .failed ∧
      p.routeOf m = none := by
  cases Verdict.given_of_eq_ok h with
  | malformed hid hbody => simp [lot, Pipeline.routeOf, hid, hbody]
  | unknown hid hbody hroute => simp [lot, Pipeline.routeOf, hid, hbody, hroute]

theorem lot_of_ready {m : Message} {task : Task}
    (h : Verdict.ofMessage p.routing m = .ok (.ready task)) :
    c.lot p m = c.lotOfRoute p task.source task.route ∧
      (p.routeOf m).toList =
        if (p.connectors.find task.route.type).isOk then [task.route] else [] := by
  cases Verdict.given_of_eq_ok h with
  | ready hid hbody hroute =>
    refine ⟨by simp [lot, hid, hbody, hroute, Task.source], ?_⟩
    simp only [Pipeline.routeOf, hid, hbody, hroute, Option.filter_some,
      Bool.false_eq_true, if_false]
    exact apply_ite Option.toList _ _ _

/-- A message fails exactly if it fails by itself. -/
theorem isFailed_of_fate {e : Pipeline.Entry} (h : p.Fate services e.message e.outcome e.calls)
    (hd : c.Describes p services e.calls) : e.hasFailed = (c.lot p e.message).isFailed := by
  obtain ⟨m, outcome, calls⟩ := e
  cases h with
  | dropped hid =>
    have hlot : c.lot p m = .dropped := by simp [lot, hid]
    rw [hlot]
    rfl
  | refused hverdict =>
    rw [(lot_of_refused (c := c) hverdict).1]
    rfl
  | ended hverdict hended =>
    rw [(lot_of_ready (c := c) hverdict).1]
    exact isFailed_of_ended hended hd

theorem fits_of_fate (hw : p.writer.codec.IsLossless) {e : Pipeline.Entry}
    (h : p.Fate services e.message e.outcome e.calls) (hd : c.Describes p services e.calls) :
    c.Fits p services e := by
  have hfailed := isFailed_of_fate h hd
  obtain ⟨m, outcome, calls⟩ := e
  cases h with
  | dropped hid =>
    have hlot : c.lot p m = .dropped := by simp [lot, hid]
    exact ⟨hfailed, by simp [Pipeline.routeOf, hid], by rw [hlot]; exact .nil⟩
  | refused hverdict =>
    obtain ⟨hlot, hroute⟩ := lot_of_refused (c := c) hverdict
    exact ⟨hfailed, by rw [hroute]; rfl, by rw [hlot]; exact .nil⟩
  | ended hverdict hended =>
    obtain ⟨hlot, hroute⟩ := lot_of_ready (c := c) hverdict
    obtain ⟨hroutes, hobjects⟩ := ended_fits hw hended hd
    exact ⟨hfailed, by rw [hroute]; exact hroutes, by rw [hlot]; exact hobjects⟩

theorem Governs.fate (h : c.Governs p services) {m : Message} {outcome : Option Outcome}
    {calls : List Call}
    (hfate : p.Fate services m outcome calls) : c.Describes p services calls := by
  cases hfate with
  | dropped => exact describes_nil
  | refused => exact describes_nil
  | ended _ hended => exact h.ended hended

/-- If the world outside keeps to the conduct, it does so in the calls of every ledger. -/
theorem Governs.describes (h : c.Governs p services) {entries : List Pipeline.Entry}
    {messages : List Message}
    {calls : List Call} (hledger : p.IsLedger services entries messages calls) :
    c.Describes p services calls := by
  have hentry : ∀ e ∈ entries, c.Describes p services e.calls :=
    fun e he => h.fate (hledger.fate e he)
  have hall : c.Describes p services (entries.flatMap (·.calls)) := by
    clear hledger
    induction entries with
    | nil => exact describes_nil
    | cons e entries ih =>
      exact (hentry e List.mem_cons_self).append
        (ih fun e' he' => hentry e' (List.mem_cons_of_mem _ he'))
  exact hall.subset hledger.calls_perm.subset

end Conduct

/-! ## The batch -/

theorem Failures.getD_report (fs : Failures) : fs.report.getD [] = fs.map (·.id) := by
  cases fs <;> rfl

namespace Pipeline

variable {p : Pipeline σ} {services : Services σ} {c : Conduct}

/-- Lists that are put together from related pieces are related. -/
theorem forall₂_flatMap {α β γ : Type} {R : β → γ → Prop} {xs : List α} {f : α → List β}
    {g : α → List γ}
    (h : ∀ x ∈ xs, List.Forall₂ R (f x) (g x)) : List.Forall₂ R (xs.flatMap f) (xs.flatMap g) := by
  induction xs with
  | nil => exact .nil
  | cons x xs ih =>
    simp only [List.flatMap_cons]
    exact List.rel_append (h x List.mem_cons_self) (ih fun y hy => h y (List.mem_cons_of_mem _ hy))

section Ledger

variable [Json.Limits]

section Entries

variable {entries : List Entry} {messages : List Message} {calls : List Call}

theorem describes_of_mem (h : p.IsLedger services entries messages calls)
    (hd : c.Describes p services calls) {e : Entry} (he : e ∈ entries) :
    c.Describes p services e.calls := by
  -- the calls of one entry are among all calls of the batch
  refine hd.subset fun call hcall => ?_
  exact h.calls_perm.mem_iff.mpr (List.mem_flatMap.mpr ⟨e, he, hcall⟩)

/-- Where the messages have come to a result, they meet no order as long as the world outside keeps
to the same conduct. -/
theorem not_meetsOrder_of_ledger (h : p.IsLedger services entries messages calls)
    (hd : c.Describes p services calls) {order : Fault} {more : List Call}
    (hd' : c.Describes p services more) : ¬ p.MeetsOrder services messages order more := by
  rintro ⟨m, hm, task, own, hverdict, hhalted, hown⟩
  rw [← h.messages_eq] at hm
  obtain ⟨⟨m, outcome, calls⟩, he, rfl⟩ := List.mem_map.mp hm
  have hmine := describes_of_mem h hd he
  cases h.fate _ he with
  | dropped hnull =>
    cases Verdict.given_of_eq_ok hverdict with
    | ready hid => cases hid.symm.trans hnull
  | refused hverdict' => cases hverdict.symm.trans hverdict'
  | ended hverdict' hended =>
    cases hverdict.symm.trans hverdict'
    exact Conduct.not_halted_of_ended hended hmine (hd'.subset hown) hhalted

theorem fits_of_ledger (hw : p.writer.codec.IsLossless)
    (h : p.IsLedger services entries messages calls)
    (hd : c.Describes p services calls) : ∀ e ∈ entries, c.Fits p services e :=
  fun e he => Conduct.fits_of_fate hw (h.fate e he) (describes_of_mem h hd he)

theorem failedIds_eq_of_isFailed (h : p.IsLedger services entries messages calls)
    (hfailed : ∀ e ∈ entries, e.hasFailed = (c.lot p e.message).isFailed) :
    failedIds entries = (messages.filter fun m => (c.lot p m).isFailed).map (·.id) := by
  rw [← h.messages_eq, List.filter_map, List.map_map, failedIds]
  congr 1
  exact List.filter_congr hfailed

theorem failedIds_eq (h : p.IsLedger services entries messages calls)
    (hfits : ∀ e ∈ entries, c.Fits p services e) :
    failedIds entries = (messages.filter fun m => (c.lot p m).isFailed).map (·.id) :=
  failedIds_eq_of_isFailed h fun e he => (hfits e he).failed

theorem routes_perm (h : p.IsLedger services entries messages calls)
    (hfits : ∀ e ∈ entries, c.Fits p services e) :
    (calls.filterMap Call.route?).Perm (messages.filterMap p.routeOf) := by
  have hroutes : (entries.flatMap (·.calls)).filterMap Call.route? =
      messages.filterMap p.routeOf := by
    rw [← h.messages_eq, List.filterMap_flatMap, List.filterMap_eq_flatMap_toList, List.flatMap_map]
    exact List.flatMap_congr fun e he => (hfits e he).routes
  rw [← hroutes]
  exact h.calls_perm.filterMap _

theorem objects_perm (h : p.IsLedger services entries messages calls)
    (hfits : ∀ e ∈ entries, c.Fits p services e) :
    ∃ objects, (calls.filterMap Call.stored?).Perm objects ∧
      List.Forall₂ (p.Holds services)
        (messages.filterMap fun m => (c.lot p m).archived?) objects := by
  refine ⟨(entries.flatMap (·.calls)).filterMap Call.stored?, h.calls_perm.filterMap _, ?_⟩
  rw [← h.messages_eq, List.filterMap_flatMap, List.filterMap_eq_flatMap_toList, List.flatMap_map]
  exact forall₂_flatMap fun e he => (hfits e he).objects

end Entries

/-- The ledger of a batch, read off the pipeline itself. -/
theorem exists_ledger {messages : List Message} {scene scene' : Scene σ} {result : BatchResult}
    (h : (p.process services messages).runOn scene = (.ok result, scene')) :
    ∃ entries, p.IsLedger services entries messages (p.calls services messages scene) ∧
      (result.floor.failures.map (·.id)).Perm (failedIds entries) ∧
        result.report = result.floor.failures.report := by
  have hrecorded := (p.process_recorded services messages (scene.recording [])).1
  rw [Scene.erase_recording, h] at hrecorded
  obtain ⟨entries, calls, hcalls, hledger, hids, hreport⟩ :=
    p.process_ledger services (Prod.ext hrecorded rfl)
  refine ⟨entries, ?_, hids, hreport⟩
  rw [Pipeline.calls, hcalls, Scene.calls_recording, List.nil_append]
  exact hledger

/--
**A batch comes to what its messages come to one by one.**

Whenever a batch returns: it reports the ids of the messages that fail by themselves, each as often
as it fails, and reports nothing exactly if none does; it pulls the routes of the messages that have
one, once for each; and the objects that were stored are those of the messages whose data is
archived, one for each, under the name of its own source and with its own data, if the codec is
lossless.
-/
theorem process_as_one_by_one (hw : p.writer.codec.IsLossless) {messages : List Message}
    {scene scene' : Scene σ} {result : BatchResult}
    (h : (p.process services messages).runOn scene = (.ok result, scene'))
    (hd : c.Describes p services (p.calls services messages scene)) :
    (result.report.getD []).Perm ((messages.filter fun m => (c.lot p m).isFailed).map (·.id)) ∧
      (result.report = none ↔ ∀ m ∈ messages, (c.lot p m).isFailed = false) ∧
      ((p.calls services messages scene).filterMap Call.route?).Perm
        (messages.filterMap p.routeOf) ∧
      ∃ objects, ((p.calls services messages scene).filterMap Call.stored?).Perm objects ∧
        List.Forall₂ (p.Holds services)
          (messages.filterMap fun m => (c.lot p m).archived?) objects := by
  obtain ⟨entries, hledger, hids, hreport⟩ := exists_ledger h
  have hfits := fits_of_ledger hw hledger hd
  rw [failedIds_eq hledger hfits] at hids
  refine ⟨?_, ?_, routes_perm hledger hfits, objects_perm hledger hfits⟩
  · rw [hreport, Failures.getD_report]
    exact hids
  · rw [hreport, Failures.report_eq_none_iff]
    constructor
    · intro hnone
      rw [hnone] at hids
      simpa using hids.nil_eq
    · intro hnone
      have hnil : (messages.filter fun m => (c.lot p m).isFailed) = [] := by simpa using hnone
      rw [hnil] at hids
      simpa using hids.eq_nil

end Ledger

attribute [local instance] Platform.builtIn

/-- On a shelf every source has its data and every object is taken. -/
def shelfConduct : Conduct where
  pull route := .ok (route.secretRef.map fun s => UInt8.ofNat s.code)
  store _ := .ok ()

theorem shelfConduct_governs (cap : Option Int) :
    shelfConduct.Governs (Shelf.pipeline cap) Shelf.services where
  pull type connector hfind route pull := by
    rw [Shelf.eq_connector hfind]
    rintro ⟨scene, rfl⟩
    rfl
  store source id body answer _ := by
    rintro ⟨outside, rfl⟩
    rfl

/-- Two messages of one id for one source, one for a source with nothing new and one that breaks
off: two objects. -/
theorem two_alike_one_by_one :
    let p := Shelf.pipeline (some 1)
    let messages := [Shelf.message "m1" "\x7b", Shelf.request "m2" "ok", Shelf.request "m2" "ok",
      Shelf.request "m3" "idle"]
    let calls := p.calls Shelf.services messages (.start (.empty []))
    (∃ result scene,
      (p.process Shelf.services messages).runOn (.start (.empty [])) = (.ok result, scene) ∧
      (result.report.getD []).Perm
        ((messages.filter fun m => (shelfConduct.lot p m).isFailed).map (·.id)) ∧
      ∃ objects, (calls.filterMap Call.stored?).Perm objects ∧
        List.Forall₂ (p.Holds Shelf.services)
          (messages.filterMap fun m => (shelfConduct.lot p m).archived?) objects) ∧
      (messages.filterMap fun m => (shelfConduct.lot p m).archived?).length = 2 := by
  have hok : (Shelf.run (some 1) [Shelf.message "m1" "\x7b", Shelf.request "m2" "ok",
      Shelf.request "m2" "ok", Shelf.request "m3" "idle"]).1.isOk = true := by cbv
  have htwo : ([Shelf.message "m1" "\x7b", Shelf.request "m2" "ok", Shelf.request "m2" "ok",
      Shelf.request "m3" "idle"].filterMap fun m =>
        (shelfConduct.lot (Shelf.pipeline (some 1)) m).archived?).length = 2 := by
    cbv
  intro p messages calls
  obtain ⟨result, hresult⟩ := exists_of_isOk hok
  have hrun : (p.process Shelf.services messages).runOn (.start (.empty [])) = (.ok result, _) :=
    Prod.ext hresult rfl
  obtain ⟨entries, hledger, -⟩ := exists_ledger hrun
  obtain ⟨hreport, -, -, hobjects⟩ :=
    process_as_one_by_one Codec.isLossless_stored hrun
    ((shelfConduct_governs _).describes hledger)
  exact ⟨⟨result, _, hrun, hreport, hobjects⟩, htwo⟩

end Pipeline

end LogHarvest
