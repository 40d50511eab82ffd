import LogHarvest.Proofs.Connector.Pulls
import LogHarvest.Proofs.Worker.Handling

/-!
# Exchanges

What passes between a worker and the services outside: secrets, pages and objects, each with the
answer, in the order in which the worker asks. Services are traced by a twin that writes down every
exchange and changes nothing else, so a worker over the twin comes to the same (`handle_traced`).
-/

namespace LogHarvest

variable {σ τ α β : Type}

/-- A question to a service with its answer. -/
inductive Exchange
  | secret (arn : Text) (answer : Except Fault Json)
  | page (request : PageRequest) (answer : Except Fault Page)
  | store (object : StoredObject) (answer : Except Fault Unit)

/-- The page that is asked for. -/
def Exchange.request? : Exchange → Option PageRequest
  | page request _ => some request
  | _ => none

theorem Exchange.exists_of_request?_eq_some {exchange : Exchange} {request : PageRequest}
    (h : exchange.request? = some request) : ∃ answer, exchange = .page request answer := by
  cases exchange with
  | page request' answer =>
    cases h
    exact ⟨answer, rfl⟩
  | secret arn answer => cases h
  | store object answer => cases h

/-- What the services remember, with all exchanges so far. -/
structure Traced (σ : Type) where
  inner : σ
  exchanges : List Exchange

namespace Traced

/-- Asks without a trace. -/
def silently (question : StateM σ α) : StateM (Traced σ) α := fun t =>
  ((question.run t.inner).1, { t with inner := (question.run t.inner).2 })

/-- Asks and writes down the exchange. -/
def tracing (exchange : α → Exchange) (question : StateM σ α) : StateM (Traced σ) α := fun t =>
  ((question.run t.inner).1,
    ⟨(question.run t.inner).2, t.exchanges ++ [exchange (question.run t.inner).1]⟩)

end Traced

open Traced

/-- The services, with secrets, pages and objects traced. -/
def Services.traced (services : Services σ) : Services (Traced σ) where
  openClient service region := silently (services.openClient service region)
  secret arn := tracing (.secret arn) (services.secret arn)
  page request := tracing (.page request) (services.page request)
  store object := tracing (.store object) (services.store object)
  queue call := silently (services.queue call)
  freshId := silently services.freshId
  now := silently services.now
  wait seconds := silently (services.wait seconds)

namespace Scene

/-- The exchanges so far. -/
def trace (s : Scene (Traced σ)) : List Exchange := s.outside.exchanges

/-- The scene without its trace. -/
def untraced (s : Scene (Traced σ)) : Scene σ :=
  ⟨s.outside.inner, s.kept, s.lines, s.journal, s.polling, s.clock, s.printed⟩

/-- The first scene is the second one with a trace. -/
def Traces (s : Scene (Traced σ)) (s' : Scene σ) : Prop := s.untraced = s'

end Scene

/-! ## Tracing changes nothing -/

namespace Scene

theorem agrees_silently (question : StateM σ α) :
    Act.Agrees Traces (Act.ask (silently question)) (Act.ask question) := by
  refine .of_runOn ?_
  rintro s _ rfl
  exact ⟨rfl, rfl⟩

theorem agrees_tracing (exchange : α → Exchange) (question : StateM σ α) :
    Act.Agrees Traces (Act.ask (tracing exchange question)) (Act.ask question) := by
  refine .of_runOn ?_
  rintro s _ rfl
  exact ⟨rfl, rfl⟩

theorem linked_traces [Json.Limits] (services : Services σ) :
    PageConnector.Linked Traces Eq services.traced services where
  write := by
    rintro lines s _ rfl
    rfl
  pass := by
    rintro seconds s _ rfl
    rfl
  freshId := agrees_silently _
  store _ := agrees_tracing _ _
  kept := by
    rintro s _ rfl arn
    exact rel_self (fun _ => rfl) (s.kept.lookup arn)
  secret arn := Act.Matches.eq_iff.mpr
    ((agrees_tracing _ _).demand.bind fun answer => .liftExcept _)
  keep := by
    rintro arn secret _ rfl s _ rfl
    rfl
  now := agrees_silently _
  page := by
    rintro url route params secret _ rfl
    exact agrees_tracing _ _

end Scene

/-! ## Workers -/

namespace Worker

variable [Platform]

section Linked

variable {R : Scene σ → Scene τ → Prop} {V : Secret → Secret → Prop} {services : Services σ}
  {services' : Services τ} (h : PageConnector.Linked R V services services')

include h

theorem linked_make (routing : Routing) (writer : ArchiveWriter) (cap : Option Int) :
    (make services routing writer cap).Linked R (make services' routing writer cap) services
      services' where
  toLinked := h.toLinked
  routing := rfl
  writer := rfl
  cap := rfl
  begin task := by
    rw [begin_make, begin_make]
    split
    · exact Agree.bind (h.pull task.route) fun answer => .pure _
    · exact .pure _

/-- An event is handled alike. -/
theorem agrees_handle (routing : Routing) (writer : ArchiveWriter) (cap : Option Int)
    (event : Json) :
    Act.Agrees R (handle (make services routing writer cap) services event)
      (handle (make services' routing writer cap) services' event) :=
  (h.note _ _ _).bind fun _ => (Act.Agrees.liftExcept _).bind fun messages =>
    (linked_make h routing writer cap).process messages

end Linked

/-- A worker over services that are traced comes to the same. -/
theorem handle_traced (services : Services σ) (routing : Routing) (writer : ArchiveWriter)
    (cap : Option Int) (event : Json) (s : Scene (Traced σ)) :
    ((handle (make services.traced routing writer cap) services.traced event).runOn s).1 =
        ((handle (make services routing writer cap) services event).runOn s.untraced).1 ∧
      ((handle (make services.traced routing writer cap) services.traced event).runOn
          s).2.untraced =
        ((handle (make services routing writer cap) services event).runOn s.untraced).2 :=
  (agrees_handle (Scene.linked_traces services) routing writer cap event).runOn rfl

end Worker

end LogHarvest
