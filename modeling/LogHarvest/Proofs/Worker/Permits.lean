import LogHarvest.Proofs.Batch.Isolation
import LogHarvest.Proofs.Catalog.Startup
import LogHarvest.Proofs.Number.Spelling
import LogHarvest.Proofs.Worker.Handling

/-!
# The permits of a worker

How many requests a worker may have in flight is a text in its environment. Nothing but the spelling
of a positive integer is taken for a number, nothing at all means that there is no cap, and any
other text is announced as a fault of the settings (`cap_is_read_exactly`). So a worker that has
started has permits to give for whatever tasks it gets.
-/

namespace LogHarvest

namespace Settings

/-- The text spells the integer, and with no more digits than are ever read. -/
def Spelled (text : Text) (n : Int) : Prop :=
  ∃ digits, Integer.Spells text n digits ∧ digits.length ≤ Integer.digitLimit

theorem Spelled.ne_nil {text : Text} {n : Int} (h : Spelled text n) : text ≠ [] := by
  rintro rfl
  cases Integer.read_eq_ok_iff.mpr h

/-! ## The value of the variable -/

theorem readCap_of_spelled {text : Text} {n : Int} (h : Spelled text n) :
    readCap (some text) =
      if n < 1 then .error (.catalog .notPositive) else .ok (some n) := by
  rw [readCap]
  · rw [Integer.read_eq_ok_iff.mpr h]
  · exact h.ne_nil

theorem readCap_of_unspelled {text : Text} (hne : text ≠ []) (h : ∀ n, ¬ Spelled text n) :
    readCap (some text) = .error (.catalog (.notInteger text)) := by
  rw [readCap]
  · cases hread : Integer.read text with
    | ok n => exact absurd (Integer.read_eq_ok_iff.mp hread) (h n)
    | error fault => rfl
  · exact hne

theorem readCap_eq_none_iff {value : Option Text} :
    readCap value = .ok none ↔ value = none ∨ value = some [] := by
  constructor
  · intro h
    cases value with
    | none => exact .inl rfl
    | some text =>
      by_cases hne : text = []
      · exact .inr (congrArg some hne)
      · by_cases hspelled : ∃ n, Spelled text n
        · obtain ⟨n, hspelled⟩ := hspelled
          rw [readCap_of_spelled hspelled] at h
          split at h <;> cases h
        · rw [readCap_of_unspelled hne (not_exists.mp hspelled)] at h
          cases h
  · rintro (rfl | rfl) <;> rfl

theorem readCap_eq_some_iff {value : Option Text} {n : Int} :
    readCap value = .ok (some n) ↔ 1 ≤ n ∧ ∃ text, value = some text ∧ Spelled text n := by
  constructor
  · intro h
    refine ⟨one_le_of_readCap h, ?_⟩
    cases value with
    | none => cases h
    | some text =>
      have hne : text ≠ [] := by
        rintro rfl
        cases h
      by_cases hspelled : ∃ m, Spelled text m
      · obtain ⟨m, hspelled⟩ := hspelled
        rw [readCap_of_spelled hspelled] at h
        split at h
        · cases h
        · cases h
          exact ⟨text, rfl, hspelled⟩
      · rw [readCap_of_unspelled hne (not_exists.mp hspelled)] at h
        cases h
  · rintro ⟨hpos, text, rfl, hspelled⟩
    rw [readCap_of_spelled hspelled, if_neg (by omega)]

/-- A text that spells no positive integer is announced as what it is. -/
theorem readCap_of_unusable {text : Text} (hne : text ≠ []) (h : ∀ n, Spelled text n → n < 1) :
    (∃ n, Spelled text n) ∧ readCap (some text) = .error (.catalog .notPositive) ∨
      (∀ n, ¬ Spelled text n) ∧ readCap (some text) = .error (.catalog (.notInteger text)) := by
  by_cases hspelled : ∃ n, Spelled text n
  · refine .inl ⟨hspelled, ?_⟩
    obtain ⟨n, hspelled⟩ := hspelled
    rw [readCap_of_spelled hspelled, if_pos (h n hspelled)]
  · have hunspelled := not_exists.mp hspelled
    exact .inr ⟨hunspelled, readCap_of_unspelled hne hunspelled⟩

/-! ## The cap of an environment -/

/-- The variable with the cap on requests in flight. -/
def capVariable : Text := Text.ofString "PULLER_MAX_CONCURRENCY"

section Environments

variable [Platform]

/-- The environment gives secret references. -/
def GivesArns (env : Environment) : Prop :=
  ∃ v arns, jsonVariable env (Text.ofString "SECRET_ARNS") = .ok v ∧ readSecretArns v = .ok arns

/-- Where types and references are given, the cap alone decides. -/
theorem exists_ofEnvironment_eq {env : Environment} (htypes : GivesTypes env)
    (harns : GivesArns env) : ∃ base : Settings, ofEnvironment env =
      (readCap (env.lookup capVariable)).map fun cap => { base with cap := cap } := by
  obtain ⟨v, types, hv, htypes⟩ := htypes
  obtain ⟨w, arns, hw, harns⟩ := harns
  refine ⟨{ standard with
    sourcesFolder := (env.lookup (Text.ofString "LOG_SOURCES_DIR")).getD standardFolder
    connectorTypes := types
    secretArns := arns
    bucket := nonEmpty env (Text.ofString "INGESTION_BUCKET_NAME")
    region := nonEmpty env (Text.ofString "AWS_REGION")
    logLevel := (env.lookup (Text.ofString "LOG_LEVEL")).getD (Text.ofString "INFO") }, ?_⟩
  rw [ofEnvironment, bind_of_eq_ok hv, bind_of_eq_ok htypes, bind_of_eq_ok hw, bind_of_eq_ok harns]
  show readCap (env.lookup capVariable) >>= _ = _
  cases readCap (env.lookup capVariable) <;> rfl

theorem exists_cap_iff {env : Environment} (htypes : GivesTypes env) (harns : GivesArns env)
    {cap : Option Int} :
    (∃ settings, ofEnvironment env = .ok settings ∧ settings.cap = cap) ↔
      readCap (env.lookup capVariable) = .ok cap := by
  obtain ⟨base, henv⟩ := exists_ofEnvironment_eq htypes harns
  rw [henv]
  cases readCap (env.lookup capVariable) with
  | error fault => exact iff_of_false (by rintro ⟨_, ⟨⟩, -⟩) (by rintro ⟨⟩)
  | ok cap' =>
    constructor
    · rintro ⟨_, ⟨⟩, rfl⟩
      rfl
    · rintro ⟨⟩
      exact ⟨_, rfl, rfl⟩

theorem ofEnvironment_of_fault {env : Environment} (htypes : GivesTypes env)
    (harns : GivesArns env) {fault : Fault}
    (h : readCap (env.lookup capVariable) = .error fault) : ofEnvironment env = .error fault := by
  obtain ⟨base, henv⟩ := exists_ofEnvironment_eq htypes harns
  rw [henv, h]
  rfl

/-! ## Permits -/

/-- A cap that was read has permits to give. -/
theorem exists_permits {env : Environment} {settings : Settings}
    (h : ofEnvironment env = .ok settings) (tasks : List Task) :
    ∃ free, Pipeline.permits tasks settings.cap = .ok free ∧ free ≠ some 0 := by
  obtain ⟨_, -, h⟩ := exists_of_bind_eq_ok h
  obtain ⟨_, -, h⟩ := exists_of_bind_eq_ok h
  obtain ⟨_, -, h⟩ := exists_of_bind_eq_ok h
  obtain ⟨_, -, h⟩ := exists_of_bind_eq_ok h
  obtain ⟨cap, hcap, h⟩ := exists_of_bind_eq_ok h
  cases h
  have hpos : ∀ n, cap = some n → 1 ≤ n := by
    rintro n rfl
    exact one_le_of_readCap hcap
  refine ⟨cap.map Int.toNat, Pipeline.permits_of_cap hpos tasks, ?_⟩
  intro hzero
  obtain ⟨n, hn, hnone⟩ := Option.map_eq_some_iff.mp hzero
  have hone := hpos n hn
  omega

/--
**The cap is read exactly, and it never leaves a worker without permits.**

Take any environment that gives connector types and secret references. There is no cap exactly if
the variable is not set or empty. The cap is `n` exactly if `n` is positive and the variable spells
it with at most 4300 digits: blanks, a sign or none, digits of any script with single underscores
between them, leading zeros among them, blanks. Any other text is a fault of the settings, which
tells a number that is not positive from what is no number. A worker that starts with such settings,
whatever its catalog, has permits to give for all tasks.
-/
theorem cap_is_read_exactly {env : Environment} (htypes : GivesTypes env) (harns : GivesArns env) :
    ((∃ settings, ofEnvironment env = .ok settings ∧ settings.cap = none) ↔
      env.lookup capVariable = none ∨ env.lookup capVariable = some []) ∧
    (∀ n, (∃ settings, ofEnvironment env = .ok settings ∧ settings.cap = some n) ↔
      1 ≤ n ∧ ∃ text, env.lookup capVariable = some text ∧ Spelled text n) ∧
    (∀ text, env.lookup capVariable = some text → text ≠ [] →
      (∀ n, Spelled text n → n < 1) →
      (∃ n, Spelled text n) ∧ ofEnvironment env = .error (.catalog .notPositive) ∨
        (∀ n, ¬ Spelled text n) ∧ ofEnvironment env = .error (.catalog (.notInteger text))) ∧
    ∀ settings, ofEnvironment env = .ok settings →
      ∀ {σ : Type} (services : Services σ) files folder s p s',
        (Worker.start services files { settings with sourcesFolder := folder }).runOn s =
          (.ok p, s') →
        ∀ tasks, ∃ free, Pipeline.permits tasks p.cap = .ok free ∧ free ≠ some 0 := by
  refine ⟨(exists_cap_iff htypes harns).trans readCap_eq_none_iff,
    fun n => (exists_cap_iff htypes harns).trans readCap_eq_some_iff, ?_, ?_⟩
  · intro text hset hne hunusable
    have hfault : ∀ {fault}, readCap (some text) = .error fault →
        ofEnvironment env = .error fault := fun h =>
      ofEnvironment_of_fault htypes harns (hset ▸ h)
    rcases readCap_of_unusable hne hunusable with ⟨hspelled, hread⟩ | ⟨hunspelled, hread⟩
    · exact .inl ⟨hspelled, hfault hread⟩
    · exact .inr ⟨hunspelled, hfault hread⟩
  · intro settings henv σ services files folder s p s' hstart tasks
    obtain ⟨bucket, sources, routing, -, -, -, rfl⟩ := Worker.exists_of_start_eq_ok hstart
    exact exists_permits henv tasks

end Environments

attribute [local instance] Platform.builtIn

/-- A seven with a sign, a leading zero, an underscore and blanks; the digit is an Arabic one. -/
def signedSeven : Text := " +0_\u0667\t"

/-- An environment with this cap. -/
def sevenAtOnce : Environment :=
  [("PULLER_LOG_SOURCE_TYPES", "[]"), ("SECRET_ARNS", "\x7b\x7d"),
    ("PULLER_MAX_CONCURRENCY", signedSeven)]

/-- All of it is part of the spelling. -/
theorem seven_is_read : GivesTypes sevenAtOnce ∧ GivesArns sevenAtOnce ∧
    ∃ settings, ofEnvironment sevenAtOnce = .ok settings ∧ settings.cap = some 7 := by
  have htypes : GivesTypes sevenAtOnce := ⟨.array [], [], by cbv, rfl⟩
  have harns : GivesArns sevenAtOnce := ⟨.object [], [], by cbv, rfl⟩
  have hset : sevenAtOnce.lookup capVariable = some signedSeven := by decide
  have hspelled : Spelled signedSeven 7 := Integer.read_eq_ok_iff.mp (by decide +kernel)
  exact ⟨htypes, harns, ((cap_is_read_exactly htypes harns).2.1 7).mpr
    ⟨by decide, signedSeven, hset, hspelled⟩⟩

end Settings

end LogHarvest
