import LogHarvest.Proofs.Json.Exceeding
import LogHarvest.Proofs.Worker.Tokens

/-!
# Strings behind secrets

A secret is stored as a string, be it a plain text or the JSON text of an object, and one of the two
is found in every string that can be read. What stands in the way are the limits of the JSON reader:
a string that exceeds them is no text of an object, and yet it is not taken for a plain text either
(`ofStored_of_exceeds`).
-/

namespace LogHarvest.Vault

/-- The JSON text of a mapping of texts. -/
def textOf (secret : Secret) : Text :=
  Json.print (.object (secret.map fun entry => (entry.1, .string entry.2)))

/-- A mapping whose text holds on to it: each name stands in it once, and no half of a pair is
followed by the other half. -/
structure IsMapping (secret : Secret) : Prop where
  names : (secret.map (·.1)).Nodup
  pairedNames : ∀ entry ∈ secret, entry.1.WellPaired
  pairedTexts : ∀ entry ∈ secret, entry.2.WellPaired

section Reading

variable [Json.Limits] {stored : Text} {secret : Secret}

theorem IsMapping.read_textOf (h : IsMapping secret) :
    Json.read (textOf secret) =
      .ok (.object (secret.map fun entry => (entry.1, .string entry.2))) := by
  have hnames : ((secret.map fun entry => (entry.1, Json.string entry.2)).map (·.1)).Nodup := by
    rw [List.map_map]
    exact h.names
  have hfaithful : Json.IsFaithful (0 + 1)
      (.object (secret.map fun entry => (entry.1, .string entry.2))) := by
    refine .object hnames (fun m hm => ?_) fun m hm => ?_
    all_goals obtain ⟨entry, hentry, rfl⟩ := List.mem_map.mp hm
    · exact h.pairedNames entry hentry
    · exact .string (h.pairedTexts entry hentry)
  exact Json.read_print (hfaithful.mono Json.one_le_depthLimit)

/-- A mapping that is stored as its text is the secret. -/
theorem IsMapping.ofStored_textOf (h : IsMapping secret) :
    ofStored (textOf secret) = .ok secret := by
  rw [ofStored_of_object h.read_textOf, List.map_map]
  exact congrArg Except.ok (List.map_id secret)

/-- Neither an object nor a plain text is made of a string that exceeds the reader. -/
theorem ofStored_of_exceeds {limit : Json.Fault} (h : Json.Exceeds stored limit) :
    ofStored stored = .error (.json limit) := by
  obtain ⟨hread, hlimit⟩ := Json.read_eq_limit_iff.mpr h
  unfold ofStored
  rw [hread]
  cases limit with
  | malformed => cases hlimit
  | tooLong | tooDeep => rfl

/-- Of every other string a secret is made. -/
theorem exists_ofStored_iff :
    (∃ secret, ofStored stored = .ok secret) ↔ ∀ limit, ¬ Json.Exceeds stored limit := by
  constructor
  · rintro ⟨secret, hsecret⟩ limit hlimit
    cases (ofStored_of_exceeds hlimit).symm.trans hsecret
  · intro h
    unfold ofStored
    split
    · exact ⟨_, rfl⟩
    · exact ⟨_, rfl⟩
    · exact ⟨_, rfl⟩
    · next fault hfault hread =>
      refine absurd (Json.read_eq_limit_iff.mp ⟨hread, ?_⟩) (h fault)
      cases fault with
      | malformed problem place => exact absurd rfl (hfault problem place)
      | tooLong | tooDeep => trivial

theorem ofStored_of_objectText {entries : List (Text × Json)} (h : IsObjectText stored entries) :
    ofStored stored = .ok ((lastNamed entries).map fun m => (m.1, m.2.display)) :=
  ofStored_of_object (Json.read_eq_object_iff.mpr ⟨h.1, entries, h.2, rfl⟩)

theorem ofStored_of_not_objectText (hplain : ∀ entries, ¬ IsObjectText stored entries)
    (h : ∀ limit, ¬ Json.Exceeds stored limit) : ofStored stored = .ok (plain stored) := by
  obtain ⟨secret, hsecret⟩ := exists_ofStored_iff.mpr h
  rw [hsecret, eq_plain_of_not_objectText hplain hsecret]

variable {σ : Type}

/--
**A stored string is read, unless it exceeds the reader.**

Take a secret that is not kept yet and the string with which the store answers. A secret comes of it
exactly if the string exceeds no limit of the JSON reader, and else the fault of this limit: an
integer in the string has too many digits, or it is nested too deep. Within the limits a string that
is no text of an object is the secret itself, the text of an object stands for its members as they
are shown, the last one of each name, and a mapping that is stored as its text comes back as it is.
-/
theorem stored_string_is_read {services : Services σ} {s : Scene σ} {arn : Text}
    {members : List (Text × Json)} (hkept : s.kept.lookup arn = none)
    (hanswer : ((services.secret arn).run s.outside).1 = .ok (.object members))
    (hstored : Json.find? members "SecretString" = some (.string stored)) :
    ((∃ secret, ((get services arn).runOn s).1 = .ok secret) ↔
      ∀ limit, ¬ Json.Exceeds stored limit) ∧
    (∀ limit, Json.Exceeds stored limit →
      ((get services arn).runOn s).1 = .error (.json limit)) ∧
    ((∀ limit, ¬ Json.Exceeds stored limit) → (∀ entries, ¬ IsObjectText stored entries) →
      ((get services arn).runOn s).1 = .ok (plain stored)) ∧
    (∀ entries, IsObjectText stored entries →
      ((get services arn).runOn s).1 =
        .ok ((lastNamed entries).map fun m => (m.1, m.2.display))) ∧
    ∀ secret, IsMapping secret → stored = textOf secret →
      ((get services arn).runOn s).1 = .ok secret := by
  have hstores : s.Stores services arn stored := by
    unfold Scene.Stores
    rw [hkept]
    exact ⟨members, hanswer, hstored⟩
  rw [runOn_get_of_stores hstores]
  refine ⟨exists_ofStored_iff, fun limit => ofStored_of_exceeds,
    fun hlimits hplain => ofStored_of_not_objectText hplain hlimits,
    fun entries => ofStored_of_objectText, ?_⟩
  rintro secret hmapping rfl
  exact hmapping.ofStored_textOf

end Reading

/-! ### Over a counter -/

attribute [local instance] Platform.builtIn

/-- What is got over a counter with this string behind every reference. -/
def counterSecret (stored : Text) : Except Fault Secret :=
  ((get (Worker.counterWith Worker.complaint stored) "r").runOn (.start ())).1

/-- A password with its user. -/
def login : Secret := [("user", "u"), ("password", "\"\n")]

/-- A mapping and a plain text come back. -/
theorem login_and_key_come_back :
    IsMapping login ∧ counterSecret (textOf login) = .ok login ∧
      (∀ entries, ¬ IsObjectText "key" entries) ∧ counterSecret "key" = .ok (plain "key") := by
  have hlogin : IsMapping login := ⟨by decide, by decide, by decide⟩
  have hplain : ∀ entries, ¬ IsObjectText "key" entries := by
    rintro entries ⟨-, inner, rest, hbrace, -⟩
    have hfirst : (Json.dropSpace "key").head? = some (.char 'k') := by decide
    rw [hbrace] at hfirst
    cases hfirst
  have hlimits : ∀ limit, ¬ Json.Exceeds "key" limit := fun _ hlimit =>
    absurd hlimit.length (by decide)
  have hget := @stored_string_is_read _ (textOf login) Unit
    (Worker.counterWith Worker.complaint (textOf login)) (.start ()) "r" _ rfl rfl rfl
  have hgetKey := @stored_string_is_read _ "key" Unit
    (Worker.counterWith Worker.complaint "key") (.start ()) "r" _ rfl rfl rfl
  exact ⟨hlogin, hget.2.2.2.2 login hlogin rfl, hplain, hgetKey.2.2.1 hlimits hplain⟩

/-- An integer with too many digits is no text of an object, but it is not got as it is stored. -/
theorem long_integer_is_not_got :
    (∀ entries, ¬ IsObjectText (List.replicate 4301 (.char '1')) entries) ∧
      counterSecret (List.replicate 4301 (.char '1')) = .error (.json (.tooLong 4301)) ∧
      counterSecret (List.replicate 4301 (.char '1')) ≠
        .ok (plain (List.replicate 4301 (.char '1'))) := by
  have hread : Json.read (List.replicate 4301 (.char '1')) = .error (.tooLong 4301) :=
    Json.read_ones (by decide)
  have hget : counterSecret (List.replicate 4301 (.char '1')) = .error (.json (.tooLong 4301)) := by
    have hstores : Scene.Stores (.start ())
        (Worker.counterWith Worker.complaint (List.replicate 4301 (.char '1'))) "r"
        (List.replicate 4301 (.char '1')) := ⟨_, rfl, rfl⟩
    refine (runOn_get_of_stores hstores).trans (ofStored_of_exceeds ?_)
    exact Json.read_eq_limit_iff.mp ⟨hread, trivial⟩
  refine ⟨fun entries hobject => ?_, hget, fun hplain => ?_⟩
  · cases hread.symm.trans (Json.read_eq_object_iff.mpr ⟨hobject.1, entries, hobject.2, rfl⟩)
  · cases hget.symm.trans hplain

end LogHarvest.Vault
