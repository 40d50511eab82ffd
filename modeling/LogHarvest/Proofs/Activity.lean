import LogHarvest.Scene

/-!
# Running activities

What an activity does to a scene, part by part. A program written with `do` is opened with these
equations, one line at a time, and nothing behind this module looks into `ExceptT` or `StateT`.
-/

namespace LogHarvest

theorem exists_of_isOk {ε α : Type} {e : Except ε α} (h : e.isOk = true) : ∃ a, e = .ok a := by
  cases e with
  | ok a => exact ⟨a, rfl⟩
  | error fault => cases h

theorem bind_of_eq_ok {ε α β : Type} {e : Except ε α} {a : α} (h : e = .ok a)
    (next : α → Except ε β) : (e >>= next) = next a := by
  rw [h]
  rfl

/-- What comes of a first part that must have succeeded. -/
theorem exists_of_bind_eq_ok {ε α β : Type} {e : Except ε α} {next : α → Except ε β} {b : β}
    (h : (e >>= next) = .ok b) : ∃ a, e = .ok a ∧ next a = .ok b := by
  cases e with
  | ok a => exact ⟨a, rfl, h⟩
  | error fault => cases h

namespace Noted

variable {α β : Type}

/-- Runs what only writes lines behind the lines that are already there. -/
def runOn (noted : Noted α) (lines : Array Line) : Except Fault α × Array Line :=
  StateT.run (ExceptT.run noted) lines

@[simp] theorem runOn_pure (a : α) (lines : Array Line) :
    (pure a : Noted α).runOn lines = (.ok a, lines) := rfl

@[simp] theorem runOn_throw (fault : Fault) (lines : Array Line) :
    (throw fault : Noted α).runOn lines = (.error fault, lines) := rfl

@[simp] theorem runOn_note (level : Level) (topic : Topic) (text : Text) (lines : Array Line) :
    (note level topic text).runOn lines = (.ok (), lines.push ⟨level, topic, text⟩) := rfl

theorem runOn_bind (noted : Noted α) (next : α → Noted β) (lines : Array Line) :
    (noted >>= next).runOn lines =
      match noted.runOn lines with
      | (.ok a, lines) => (next a).runOn lines
      | (.error fault, lines) => (.error fault, lines) := by
  show StateT.run (ExceptT.run noted >>= ExceptT.bindCont next) lines = _
  simp only [StateT.run_bind, runOn]
  rcases StateT.run (ExceptT.run noted) lines with ⟨_ | a, s⟩ <;> rfl

theorem runOn_bind_of_ok {noted : Noted α} {lines lines' : Array Line} {a : α}
    (h : noted.runOn lines = (.ok a, lines')) (next : α → Noted β) :
    (noted >>= next).runOn lines = (next a).runOn lines' := by
  rw [runOn_bind, h]

end Noted

namespace Act

variable {σ α β : Type}

@[simp] theorem runOn_pure (a : α) (scene : Scene σ) :
    (pure a : Act σ α).runOn scene = (.ok a, scene) := rfl

@[simp] theorem runOn_throw (fault : Fault) (scene : Scene σ) :
    (throw fault : Act σ α).runOn scene = (.error fault, scene) := rfl

/-- The rest of a program runs on what its beginning leaves behind, and not at all behind a
fault. -/
theorem runOn_bind (act : Act σ α) (next : α → Act σ β) (scene : Scene σ) :
    (act >>= next).runOn scene =
      match act.runOn scene with
      | (.ok a, scene) => (next a).runOn scene
      | (.error fault, scene) => (.error fault, scene) := by
  show StateT.run (ExceptT.run act >>= ExceptT.bindCont next) scene = _
  simp only [StateT.run_bind, runOn]
  rcases StateT.run (ExceptT.run act) scene with ⟨_ | a, s⟩ <;> rfl

@[simp] theorem runOn_map (f : α → β) (act : Act σ α) (scene : Scene σ) :
    (f <$> act).runOn scene = ((act.runOn scene).1.map f, (act.runOn scene).2) := by
  rw [← bind_pure_comp, runOn_bind]
  rcases act.runOn scene with ⟨_ | a, s⟩ <;> rfl

theorem runOn_bind_of_ok {act : Act σ α} {scene scene' : Scene σ} {a : α}
    (h : act.runOn scene = (.ok a, scene'))
    (next : α → Act σ β) : (act >>= next).runOn scene = (next a).runOn scene' := by
  rw [runOn_bind, h]

theorem runOn_bind_of_error {act : Act σ α} {scene scene' : Scene σ} {fault : Fault}
    (h : act.runOn scene = (.error fault, scene')) (next : α → Act σ β) :
    (act >>= next).runOn scene = (.error fault, scene') := by
  rw [runOn_bind, h]

@[simp] theorem runOn_liftM_ok (a : α) (scene : Scene σ) :
    (liftM (Except.ok a : Except Fault α) : Act σ α).runOn scene = (.ok a, scene) := rfl

@[simp] theorem runOn_liftM_error (fault : Fault) (scene : Scene σ) :
    (liftM (Except.error fault : Except Fault α) : Act σ α).runOn scene =
      (.error fault, scene) := rfl

theorem runOn_liftM_except (e : Except Fault α) (scene : Scene σ) :
    (liftM e : Act σ α).runOn scene = (e, scene) := by
  cases e with
  | ok a => rfl
  | error fault => rfl

/-- What cannot fail is run as it is. -/
@[simp] theorem runOn_liftM_state (m : StateM (Scene σ) α) (scene : Scene σ) :
    (liftM m : Act σ α).runOn scene = (.ok (m.run scene).1, (m.run scene).2) := rfl

@[simp] theorem runOn_write (lines : List Line) (scene : Scene σ) :
    (write lines).runOn scene = (.ok (), scene.write lines) := rfl

@[simp] theorem runOn_note (level : Level) (topic : Topic) (text : Text) (scene : Scene σ) :
    (note level topic text).runOn scene = (.ok (), scene.write [⟨level, topic, text⟩]) := rfl

@[simp] theorem runOn_get (scene : Scene σ) :
    (get : Act σ (Scene σ)).runOn scene = (.ok scene, scene) := rfl

@[simp] theorem runOn_ask (question : StateM σ α) (scene : Scene σ) :
    (ask question).runOn scene =
      (.ok (question.run scene.outside).1,
        { scene with outside := (question.run scene.outside).2 }) := rfl

/-- What only writes lines writes them into the journal. -/
theorem runOn_ofNoted (noted : Noted α) (scene : Scene σ) :
    (ofNoted noted).runOn scene =
      ((noted.runOn scene.lines).1, { scene with lines := (noted.runOn scene.lines).2 }) := by
  rw [ofNoted, runOn_bind_of_ok (runOn_get scene), Noted.runOn]
  rcases StateT.run (ExceptT.run noted) scene.lines with ⟨_ | a, lines⟩ <;> rfl

theorem runOn_chooseThreshold (name : Text) (scene : Scene σ) :
    (chooseThreshold name).runOn scene =
      ((scene.journal.choose name).2, { scene with journal := (scene.journal.choose name).1 }) := by
  rw [chooseThreshold, runOn_bind_of_ok (runOn_get scene)]
  rcases scene.journal.choose name with ⟨journal, fault | _⟩ <;> rfl

theorem runOn_demand (question : StateM σ (Except Fault α)) (scene : Scene σ) :
    (demand question).runOn scene =
      ((question.run scene.outside).1,
        { scene with outside := (question.run scene.outside).2 }) := by
  rw [demand, runOn_bind, runOn_ask]
  rcases (question.run scene.outside).1 with fault | a <;> simp

/-- What comes of a first part that must have succeeded. -/
theorem exists_of_runOn_bind_eq_ok {act : Act σ α} {next : α → Act σ β} {scene scene'' : Scene σ}
    {b : β} (h : (act >>= next).runOn scene = (.ok b, scene'')) :
    ∃ a scene', act.runOn scene = (.ok a, scene') ∧ (next a).runOn scene' = (.ok b, scene'') := by
  rw [runOn_bind] at h
  rcases hr : act.runOn scene with ⟨fault | a, scene'⟩ <;> rw [hr] at h
  · cases h
  · exact ⟨a, scene', rfl, h⟩

/-! ## Leading from scenes to scenes -/

/-- From scenes with `I` the activity leads to scenes with `J` for its result, or with `E` where it
fails. -/
def Leads (I : Scene σ → Prop) (act : Act σ α) (J : α → Scene σ → Prop)
    (E : Scene σ → Prop) : Prop :=
  ∀ s, I s → (∀ a, (act.runOn s).1 = .ok a → J a (act.runOn s).2) ∧
    ∀ fault, (act.runOn s).1 = .error fault → E (act.runOn s).2

namespace Leads

variable {I E : Scene σ → Prop} {J : α → Scene σ → Prop} {K : β → Scene σ → Prop}

theorem pure {a : α} (h : ∀ s, I s → J a s) : Leads I (Pure.pure a) J E :=
  fun s hs => ⟨fun _ ha => (by cases ha; exact h s hs), fun _ ha => (by cases ha)⟩

theorem throw {fault : Fault} (h : ∀ s, I s → E s) : Leads I (throw fault : Act σ α) J E :=
  fun s hs => ⟨fun _ ha => (by cases ha), fun _ _ => h s hs⟩

theorem bind {act : Act σ α} {next : α → Act σ β} (h : Leads I act J E)
    (hnext : ∀ a, Leads (J a) (next a) K E) : Leads I (act >>= next) K E := by
  intro s hs
  obtain ⟨hok, herror⟩ := h s hs
  rw [runOn_bind]
  rcases hr : act.runOn s with ⟨fault | a, s'⟩ <;> rw [hr] at hok herror
  · exact ⟨fun _ hb => (by cases hb), fun _ _ => herror fault rfl⟩
  · exact hnext a s' (hok a rfl)

theorem liftExcept {e : Except Fault α} (hok : ∀ a s, e = .ok a → I s → J a s)
    (herror : ∀ s, I s → E s) : Leads I (liftM e : Act σ α) J E := by
  cases e with
  | ok a => exact pure fun s hs => hok a s rfl hs
  | error fault => exact throw herror

theorem ask {question : StateM σ α} (h : ∀ s, I s →
    J (question.run s.outside).1 { s with outside := (question.run s.outside).2 }) :
    Leads I (Act.ask question) J E :=
  fun s hs => ⟨fun _ ha => (by cases ha; exact h s hs), fun _ ha => (by cases ha)⟩

theorem demand {question : StateM σ (Except Fault α)}
    (hok : ∀ s a, I s → (question.run s.outside).1 = .ok a →
      J a { s with outside := (question.run s.outside).2 })
    (herror : ∀ s, I s → E { s with outside := (question.run s.outside).2 }) :
    Leads I (Act.demand question) J E := by
  intro s hs
  rw [runOn_demand]
  exact ⟨fun a ha => hok s a hs ha, fun _ _ => herror s hs⟩

theorem write {lines : List Line} {J : Unit → Scene σ → Prop}
    (h : ∀ s, I s → J () (s.write lines)) : Leads I (Act.write lines) J E :=
  fun s hs => ⟨fun _ _ => h s hs, fun _ ha => (by cases ha)⟩

theorem modify {change : Scene σ → Scene σ} {J : PUnit → Scene σ → Prop}
    (h : ∀ s, I s → J ⟨⟩ (change s)) : Leads I (modify change) J E :=
  fun s hs => ⟨fun _ _ => h s hs, fun _ ha => (by cases ha)⟩

end Leads

end Act

end LogHarvest
