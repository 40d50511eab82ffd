import LogHarvest.CommandLine
import LogHarvest.Proofs.Activity
import LogHarvest.Proofs.Text.Plain

/-!
# Running commands

A command works like an activity, but it may also end early with an exit code. These equations say
what each part of a command comes to, so that a command is opened one line at a time.
-/

namespace LogHarvest

variable {σ α β : Type}

/-! ## Printing -/

/-- The scene with a line that has been printed. -/
def Scene.printing (scene : Scene σ) (line : Text) : Scene σ :=
  { scene with printed := scene.printed ++ line ++ [.char '\n'] }

namespace Act

theorem runOn_print_of_plain {text : Text} (h : text.IsPlain) (scene : Scene σ) :
    (print text).runOn scene = (.ok (), scene.printing text) := by
  have hnone : text.toString?.isNone = false := by rw [Option.isNone_eq_false_iff]; exact h
  rw [print, hnone]
  rfl

theorem runOn_print_of_not_plain {text : Text} (h : ¬ text.IsPlain) (scene : Scene σ) :
    (print text).runOn scene = (.error (.unencodable text), scene) := by
  have hnone : text.toString?.isNone = true := by
    rw [Option.isNone_iff_eq_none]
    exact Option.not_isSome_iff_eq_none.mp h
  rw [print, hnone]
  rfl

end Act

namespace CommandLine

/-! ## Sessions -/

namespace Session

/-- Runs a command on a scene: a fault escapes, or there is a result or an exit code. -/
def runOn (session : Session σ α) (scene : Scene σ) : Except Fault (Except Nat α) × Scene σ :=
  Act.runOn (ExceptT.run session) scene

@[simp] theorem runOn_pure (a : α) (scene : Scene σ) :
    (pure a : Session σ α).runOn scene = (.ok (.ok a), scene) := rfl

@[simp] theorem runOn_leave (code : Nat) (scene : Scene σ) :
    (leave code : Session σ α).runOn scene = (.ok (.error code), scene) := rfl

theorem runOn_liftM (act : Act σ α) (scene : Scene σ) :
    (liftM act : Session σ α).runOn scene = ((act.runOn scene).1.map .ok, (act.runOn scene).2) :=
  Act.runOn_map _ act scene

theorem runOn_bind (session : Session σ α) (next : α → Session σ β) (scene : Scene σ) :
    (session >>= next).runOn scene =
      match session.runOn scene with
      | (.ok (.ok a), scene) => (next a).runOn scene
      | (.ok (.error code), scene) => (.ok (.error code), scene)
      | (.error fault, scene) => (.error fault, scene) := by
  show Act.runOn (ExceptT.run session >>= ExceptT.bindCont next) scene = _
  rw [Act.runOn_bind, runOn]
  rcases Act.runOn (ExceptT.run session) scene with ⟨_ | _ | a, s⟩ <;> rfl

theorem runOn_bind_of_ok {session : Session σ α} {scene scene' : Scene σ} {a : α}
    (h : session.runOn scene = (.ok (.ok a), scene')) (next : α → Session σ β) :
    (session >>= next).runOn scene = (next a).runOn scene' := by
  rw [runOn_bind, h]

theorem runOn_bind_of_left {session : Session σ α} {scene scene' : Scene σ} {code : Nat}
    (h : session.runOn scene = (.ok (.error code), scene')) (next : α → Session σ β) :
    (session >>= next).runOn scene = (.ok (.error code), scene') := by
  rw [runOn_bind, h]

theorem runOn_bind_of_fault {session : Session σ α} {scene scene' : Scene σ} {fault : Fault}
    (h : session.runOn scene = (.error fault, scene')) (next : α → Session σ β) :
    (session >>= next).runOn scene = (.error fault, scene') := by
  rw [runOn_bind, h]

theorem runOn_liftM_of_ok {act : Act σ α} {scene scene' : Scene σ} {a : α}
    (h : act.runOn scene = (.ok a, scene')) :
    (liftM act : Session σ α).runOn scene = (.ok (.ok a), scene') := by
  rw [runOn_liftM, h]
  rfl

theorem runOn_liftM_of_error {act : Act σ α} {scene scene' : Scene σ} {fault : Fault}
    (h : act.runOn scene = (.error fault, scene')) :
    (liftM act : Session σ α).runOn scene = (.error fault, scene') := by
  rw [runOn_liftM, h]
  rfl

end Session

open Session

/-! ## Refusing to start -/

/-- What comes of a command that says why it cannot start: exit code 1, unless the reason cannot be
printed. -/
def refused (reason : Text) (scene : Scene σ) : Except Fault (Except Nat α) × Scene σ :=
  if reason.IsPlain then (.ok (.error 1), scene.printing reason)
  else (.error (.unencodable reason), scene)

theorem runOn_refuse (reason : Text) (scene : Scene σ) :
    (refuse reason : Session σ α).runOn scene = refused reason scene := by
  unfold refuse refused
  by_cases h : reason.IsPlain
  · rw [runOn_bind_of_ok (runOn_liftM_of_ok (Act.runOn_print_of_plain h scene)), if_pos h]
    rfl
  · rw [runOn_bind_of_fault (runOn_liftM_of_error (Act.runOn_print_of_not_plain h scene)),
      if_neg h]

/-- Nothing is done behind a refusal. -/
theorem runOn_bind_of_refused {session : Session σ α} {reason : Text} {scene scene' : Scene σ}
    (h : session.runOn scene = refused reason scene') (next : α → Session σ β) :
    (session >>= next).runOn scene = refused reason scene' := by
  unfold refused at h ⊢
  by_cases hplain : reason.IsPlain
  · rw [if_pos hplain] at h ⊢
    exact runOn_bind_of_left h next
  · rw [if_neg hplain] at h ⊢
    exact runOn_bind_of_fault h next

section OrRefuse

variable {preface : String} {act : Act σ α} {scene scene' : Scene σ} {fault : Fault}

theorem runOn_orRefuse (preface : String) (act : Act σ α) (scene : Scene σ) :
    (orRefuse preface act).runOn scene =
      match act.runOn scene with
      | (.ok a, scene) => (.ok (.ok a), scene)
      | (.error fault, scene) =>
        if forbidsStart fault = true then refused (Text.ofString preface ++ fault.message) scene
        else (.error fault, scene) := by
  rw [orRefuse, runOn_bind_of_ok (runOn_liftM_of_ok (Act.runOn_attempt act scene))]
  rcases act.runOn scene with ⟨fault | a, scene'⟩
  · dsimp only
    by_cases h : forbidsStart fault = true
    · rw [if_pos h, if_pos h, runOn_refuse]
    · rw [if_neg h, if_neg h]
      rfl
  · rfl

theorem runOn_orRefuse_of_ok {a : α} (h : act.runOn scene = (.ok a, scene')) :
    (orRefuse preface act).runOn scene = (.ok (.ok a), scene') := by
  rw [runOn_orRefuse, h]

end OrRefuse

/-! ## Whole commands -/

/-- The exit code of a command that has ended. -/
def exitCode : Except Nat Unit → Nat
  | .ok () => 0
  | .error code => code

theorem runOn_run [Platform] {arguments : List Text} {command : Command}
    (h : Platform.arguments arguments = .ok command) (services : Services σ) (files : FileTree)
    (env : Environment) (n : Nat) (scene : Scene σ) :
    (run services files env n arguments).runOn scene =
      (((runCommand services files env n command).runOn scene).1.map exitCode,
        ((runCommand services files env n command).runOn scene).2) := by
  rw [run, h]
  dsimp only
  rw [Act.runOn_bind, Session.runOn]
  rcases Act.runOn (ExceptT.run (runCommand services files env n command)) scene with
    ⟨fault | code | _, scene'⟩ <;> rfl

end CommandLine

end LogHarvest
