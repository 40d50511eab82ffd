import LogHarvest.Proofs.Agreement
import LogHarvest.Proofs.Catalog.Startup
import LogHarvest.Proofs.Worker.Handling

/-!
# Made again, made the same

What a worker is made of is up to the environment and the files alone. The catalog and the routes
are read while lines are written, but what they come to does not look at these lines, and no more
does the worker that starts look at the scene that it starts in.
-/

namespace LogHarvest

variable {α β : Type}

/-! ## Whatever lines there are -/

namespace Noted

/-- What it comes to has nothing to do with the lines that are there before. -/
def IgnoresLines (noted : Noted α) : Prop :=
  ∀ lines lines', (noted.runOn lines).1 = (noted.runOn lines').1

namespace IgnoresLines

theorem pure (a : α) : IgnoresLines (pure a) := fun _ _ => rfl

theorem throw (fault : Fault) : IgnoresLines (throw fault : Noted α) := fun _ _ => rfl

theorem note (level : Level) (topic : Topic) (text : Text) :
    IgnoresLines (Noted.note level topic text) := fun _ _ => rfl

theorem liftExcept (e : Except Fault α) : IgnoresLines (liftM e : Noted α) := by
  cases e with
  | ok a => exact pure a
  | error fault => exact throw fault

theorem bind {noted : Noted α} {next : α → Noted β} (h : noted.IgnoresLines)
    (hnext : ∀ a, (next a).IgnoresLines) : (noted >>= next).IgnoresLines := by
  intro lines lines'
  have hsame := h lines lines'
  rw [runOn_bind, runOn_bind]
  rcases hr : noted.runOn lines with ⟨r, after⟩
  rcases hr' : noted.runOn lines' with ⟨r', after'⟩
  rw [hr, hr'] at hsame
  obtain rfl : r = r' := hsame
  cases r with
  | ok a => exact hnext a after after'
  | error fault => rfl

end IgnoresLines

end Noted

namespace Catalog

open Noted

theorem ignoresLines_declared (v : Value) : (declared v).IgnoresLines := by
  intro lines lines'
  unfold declared
  cases LogSource.ofValue v with
  | ok source => rfl
  | error reason => cases hmessage : reason.message <;> dsimp only <;> rw [hmessage] <;> rfl

variable [Platform]

theorem ignoresLines_loadFolders (files : FileTree) (path : Text) (names : List Text) :
    (loadFolders files path names).IgnoresLines := by
  induction names with
  | nil => exact .pure _
  | cons name rest ih =>
    by_cases hfolder : LeadsToFolder files (FileTree.join path name)
    · rw [loadFolders_of_folder hfolder]
      exact .bind (.liftExcept _) fun v => .bind (ignoresLines_declared v) fun source =>
        .bind ih fun _ => .pure _
    · intro lines lines'
      rw [runOn_loadFolders_of_file hfolder, runOn_loadFolders_of_file hfolder]
      exact ih lines lines'

theorem ignoresLines_load (files : FileTree) (path : Text) : (load files path).IgnoresLines :=
  .bind (.liftExcept _) fun _ => .bind (.liftExcept _) fun names =>
    .bind (ignoresLines_loadFolders files path names) fun _ => .bind (.note _ _ _) fun _ => .pure _

end Catalog

namespace Routing

open Noted

theorem ignoresLines_add (types : List Text) (arns : List (Text × Text))
    (routes : List (Text × Route)) (source : LogSource) :
    (add types arns routes source).IgnoresLines := by
  unfold add
  split
  · exact .pure _
  · split
    · exact .pure _
    · exact .bind (.note _ _ _) fun _ => .pure _

theorem ignoresLines_ofCatalog (sources : List LogSource) (types : List Text)
    (arns : List (Text × Text)) : (ofCatalog sources types arns).IgnoresLines := by
  refine .bind ?_ fun _ => .pure _
  -- source by source, whatever the routes so far
  generalize ([] : List (Text × Route)) = routes
  induction sources generalizing routes with
  | nil => exact .pure _
  | cons source rest ih => exact .bind (ignoresLines_add types arns _ _) fun routes => ih routes

end Routing

namespace Worker

variable {σ : Type}

/-! ## Whatever scene there is -/

/-- All scenes are alike. -/
abbrev AnyScenes (_ _ : Scene σ) : Prop := True

theorem agrees_ofNoted {noted : Noted α} (h : noted.IgnoresLines) :
    Act.Agrees AnyScenes (Act.ofNoted noted : Act σ α) (Act.ofNoted noted) := by
  refine .of_runOn fun s s' _ => ?_
  rw [Act.runOn_ofNoted, Act.runOn_ofNoted]
  exact ⟨h s.lines s'.lines, trivial⟩

theorem agrees_ask (question : StateM σ Unit) :
    Act.Agrees AnyScenes (Act.ask question) (Act.ask question) :=
  .of_runOn fun _ _ _ => ⟨rfl, trivial⟩

theorem agrees_write (lines : List Line) :
    Act.Agrees AnyScenes (Act.write lines : Act σ Unit) (Act.write lines) :=
  .of_runOn fun _ _ _ => ⟨rfl, trivial⟩

theorem agrees_chooseThreshold (name : Text) :
    Act.Agrees AnyScenes (Act.chooseThreshold name : Act σ Unit) (Act.chooseThreshold name) := by
  refine .of_runOn fun s s' _ => ?_
  rw [Act.runOn_chooseThreshold, Act.runOn_chooseThreshold]
  refine ⟨?_, trivial⟩
  unfold JournalSetup.choose
  cases Threshold.ofName name <;> rfl

variable [Platform]

/-- A worker starts in one scene as in the other. -/
theorem agrees_startFrom (services : Services σ) (files : FileTree) (env : Environment) :
    Act.Agrees AnyScenes (startFrom services files env) (startFrom services files env) := by
  refine (Act.Agrees.liftExcept _).bind fun settings => ?_
  refine (agrees_chooseThreshold _).bind fun _ => ?_
  unfold start
  cases settings.bucket with
  | none => exact .throw _
  | some bucket =>
    refine (agrees_ask _).bind fun _ => ?_
    refine (agrees_ofNoted (Catalog.ignoresLines_load files _)).bind fun sources => ?_
    refine (agrees_ofNoted (Routing.ignoresLines_ofCatalog _ _ _)).bind fun routing => ?_
    refine Act.Agrees.bind ?_ fun _ => (agrees_write _).bind fun _ =>
      (agrees_ask _).bind fun _ => .pure _
    dsimp only [reportUnhandled]
    split
    · exact agrees_write _
    · exact .pure _

theorem startFrom_unique {services : Services σ} {files : FileTree} {env : Environment}
    {s s' after after' : Scene σ} {p p' : Pipeline σ}
    (h : (startFrom services files env).runOn s = (.ok p, after))
    (h' : (startFrom services files env).runOn s' = (.ok p', after')) : p = p' := by
  have hany : AnyScenes s s' := trivial
  have hsame := ((agrees_startFrom services files env).runOn hany).1
  rw [h, h'] at hsame
  exact Except.ok.inj hsame

end Worker

end LogHarvest
