import LogHarvest.Proofs.Agreement

/-!
# Calls on record

What a program asks of the world outside, in the order in which it asks: pulls, objects to be
stored, calls of the queue. To have a record, services and connectors are replaced by twins that
write down each call with its answer and change nothing else. A program over the twins agrees with
the program itself, so what holds of the record holds of it.
-/

namespace LogHarvest

variable {σ α : Type}

/-- A call with its answer. -/
inductive Call
  | pull (route : Route) (pull : Pull)
  | store (object : StoredObject) (answer : Except Fault Unit)
  | queue (call : QueueCall) (reply : QueueReply)

/-- What the services remember, with all calls so far. -/
structure Recorded (σ : Type) where
  inner : σ
  calls : List Call

namespace Recorded

/-- Asks without a trace. -/
def quietly (question : StateM σ α) : StateM (Recorded σ) α := fun r =>
  ((question.run r.inner).1, { r with inner := (question.run r.inner).2 })

/-- Asks and writes down the call. -/
def noting (call : α → Call) (question : StateM σ α) : StateM (Recorded σ) α := fun r =>
  ((question.run r.inner).1, ⟨(question.run r.inner).2, r.calls ++ [call (question.run r.inner).1]⟩)

end Recorded

open Recorded

/-- The services, with stored objects and calls of the queue on record. -/
def Services.recorded (services : Services σ) : Services (Recorded σ) where
  openClient service region := quietly (services.openClient service region)
  secret arn := quietly (services.secret arn)
  page request := quietly (services.page request)
  store object := noting (.store object) (services.store object)
  queue call := noting (.queue call) (services.queue call)
  freshId := quietly services.freshId
  now := quietly services.now
  wait seconds := quietly (services.wait seconds)

/-! ## Scenes -/

namespace Scene

/-- The scene without its record. -/
def erase (s : Scene (Recorded σ)) : Scene σ :=
  ⟨s.outside.inner, s.kept, s.lines, s.journal, s.polling, s.clock, s.printed⟩

/-- The scene with the given calls on record. -/
def recording (s : Scene σ) (calls : List Call) : Scene (Recorded σ) :=
  ⟨⟨s.outside, calls⟩, s.kept, s.lines, s.journal, s.polling, s.clock, s.printed⟩

/-- The calls on record. -/
def calls (s : Scene (Recorded σ)) : List Call := s.outside.calls

@[simp] theorem erase_recording (s : Scene σ) (calls : List Call) :
    (s.recording calls).erase = s := rfl

@[simp] theorem calls_recording (s : Scene σ) (calls : List Call) :
    (s.recording calls).calls = calls := rfl

@[simp] theorem calls_write (s : Scene (Recorded σ)) (lines : List Line) :
    (s.write lines).calls = s.calls := rfl

/-- The first scene is the second one with a record. -/
def Erases (s : Scene (Recorded σ)) (s' : Scene σ) : Prop := s.erase = s'

theorem agrees_quietly (question : StateM σ α) :
    Act.Agrees Erases (Act.ask (quietly question)) (Act.ask question) := by
  refine .of_runOn ?_
  rintro s _ rfl
  exact ⟨rfl, rfl⟩

theorem agrees_noting (call : α → Call) (question : StateM σ α) :
    Act.Agrees Erases (Act.ask (noting call question)) (Act.ask question) := by
  refine .of_runOn ?_
  rintro s _ rfl
  exact ⟨rfl, rfl⟩

theorem linked_erases (services : Services σ) : Linked Erases services.recorded services where
  write := by
    rintro lines s _ rfl
    rfl
  pass := by
    rintro seconds s _ rfl
    rfl
  freshId := agrees_quietly _
  store _ := agrees_noting _ _

end Scene

/-! ## Pipelines -/

/-- The connector, with its pulls on record. -/
def Connector.recorded (c : Connector σ) : Connector (Recorded σ) where
  pull route := fun s =>
    (((c.pull route).run s.erase).1,
      ((c.pull route).run s.erase).2.recording
        (s.calls ++ [.pull route ((c.pull route).run s.erase).1]))

namespace Pipeline

variable (p : Pipeline σ) (services : Services σ)

/-- The pipeline, with its pulls on record. -/
def recorded : Pipeline (Recorded σ) where
  routing := p.routing
  connectors := ⟨p.connectors.entries.map fun e => (e.1, e.2.recorded)⟩
  writer := p.writer
  cap := p.cap

theorem lookup_recorded (entries : List (Text × Connector σ)) (type : Text) :
    (entries.map fun e => (e.1, e.2.recorded)).lookup type =
      (entries.lookup type).map Connector.recorded := by
  induction entries with
  | nil => rfl
  | cons e entries ih =>
    rw [List.map_cons, List.lookup_cons, List.lookup_cons]
    cases type == e.1 with
    | true => rfl
    | false => exact ih

theorem find_recorded (type : Text) :
    p.recorded.connectors.find type = (p.connectors.find type).map Connector.recorded := by
  simp only [recorded, Registry.find, lookup_recorded]
  cases p.connectors.entries.lookup type <;> rfl

theorem linked_recorded : p.recorded.Linked Scene.Erases p services.recorded services where
  toLinked := Scene.linked_erases services
  routing := rfl
  writer := rfl
  cap := rfl
  begin task := by
    unfold Pipeline.begin
    rw [find_recorded]
    cases p.connectors.find task.route.type with
    | ok connector =>
      rintro s _ rfl
      exact ⟨rfl, rfl⟩
    | error fault => exact Agree.pure _

/-- The calls that a batch makes. -/
def calls [Json.Limits] (messages : List Message) (scene : Scene σ) : List Call :=
  ((p.recorded.process services.recorded messages).runOn (scene.recording [])).2.calls

/-- With its calls on record a batch comes to the same. -/
theorem process_recorded [Json.Limits] (messages : List Message) (scene : Scene (Recorded σ)) :
    ((p.recorded.process services.recorded messages).runOn scene).1 =
        ((p.process services messages).runOn scene.erase).1 ∧
      ((p.recorded.process services.recorded messages).runOn scene).2.erase =
        ((p.process services messages).runOn scene.erase).2 :=
  ((p.linked_recorded services).process messages).runOn rfl

end Pipeline

end LogHarvest
