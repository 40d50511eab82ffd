import LogHarvest.Proofs.Json.Members
import LogHarvest.Proofs.Worker.Custody

/-!
# Sources without a reference

Which sources a worker pulls is up to the text of one variable. The text is read as an object, its
members are turned into references, and routing leaves out a source whose reference is empty. Each
step looks only at the one before; `resolves_by_last_member` says what they come to together. It is
the last member of a name that counts, and the only value that counts as no reference is the empty
string: every other value is shown by a text, and this text is not empty.
-/

namespace LogHarvest

/-! ## Texts of values -/

theorem Text.ofInt_ne_nil (n : Int) : Text.ofInt n ≠ [] := by
  unfold Text.ofInt
  split
  · exact List.cons_ne_nil _ _
  · simp [Text.ofNat]

theorem Decimal.render_ne_nil (layout : DecimalLayout) (d : Decimal) : d.render layout ≠ [] := by
  unfold Decimal.render
  dsimp only
  split
  · split
    · simp [Text.ofString]
    · split
      · simp
      · simp [Text.ofString]
  · simp

theorem Binary64.render_ne_nil (x : Binary64) : x.render ≠ [] := by
  cases x with
  | nan => exact List.cons_ne_nil _ _
  | infinite s => cases s <;> exact List.cons_ne_nil _ _
  | finite s m e =>
    rw [Binary64.render]
    split
    · exact List.cons_ne_nil _ _
    · split
      · exact List.cons_ne_nil _ _
      · exact Decimal.render_ne_nil _ _

/-- Only the empty string is shown by an empty text. -/
theorem Json.display_eq_nil_iff (v : Json) : v.display = [] ↔ v = .string [] := by
  constructor
  · intro h
    cases v with
    | null => cases h
    | bool b => cases b <;> cases h
    | int n => exact absurd h (Text.ofInt_ne_nil n)
    | float x => exact absurd h (Binary64.render_ne_nil x)
    | string t => exact congrArg Json.string h
    | array items => cases h
    | object members => cases h
  · rintro rfl
    rfl

/-! ## Routes and pulls -/

namespace Routing

variable {types : List Text} {arns : List (Text × Text)} {sources : List LogSource}
  {routing : Routing} {name : Text}

/-- A name has a route exactly if a source of this name has an accepted type and there is a
reference for the name. -/
theorem isSome_find?_iff (h : Settled types arns sources [] routing.routes name) :
    (routing.find? name).isSome ↔
      (∃ source ∈ sources, source.name = name ∧ source.type ∈ types) ∧
        ∃ arn, arns.lookup name = some arn ∧ arn ≠ [] := by
  rcases h with ⟨source, arn, rfl, ⟨before, after, rfl, ⟨htype, harn, hne⟩, -⟩, hroute⟩ |
    ⟨hnone, hkept⟩
  · rw [find?, hroute]
    exact iff_of_true rfl ⟨⟨source, by simp, rfl, htype⟩, arn, harn, hne⟩
  · rw [find?, hkept]
    refine iff_of_false Bool.false_ne_true ?_
    rintro ⟨⟨source, hsource, rfl, htype⟩, arn, harn, hne⟩
    exact hnone source hsource rfl arn ⟨htype, harn, hne⟩

/-- The reference of a route is the one that is known for its name. -/
theorem lookup_secretRef {route : Route} (h : Settled types arns sources [] routing.routes name)
    (hroute : routing.find? name = some route) : arns.lookup name = some route.secretRef := by
  rcases h with ⟨source, arn, rfl, ⟨before, after, -, ⟨-, harn, -⟩, -⟩, hfound⟩ | ⟨-, hkept⟩
  · cases hroute.symm.trans hfound
    exact harn
  · cases hroute.symm.trans hkept

end Routing

namespace Pipeline

variable [Json.Limits] {σ : Type}

/-- In the batch of these messages the pull of a source with this name is begun: a ticket for the
source is moved that waited for its pull. -/
def Pulls (p : Pipeline σ) (services : Services σ) (messages : List Message) (scene : Scene σ)
    (name : Text) : Prop :=
  ∃ verdicts free t s₁ s₂, Verdict.Judged p.routing messages verdicts ∧
    permits (verdicts.filterMap Verdict.task?) p.cap = .ok free ∧
    p.Moving services (dispatch verdicts free) (scene.write (opening verdicts)) t s₁ s₂ ∧
    t.stage.isWaiting = true ∧ t.task.source = name

/-- Only what has a route is pulled. -/
theorem isSome_find?_of_pulls {p : Pipeline σ} {services : Services σ} {messages : List Message}
    {scene : Scene σ} {name : Text} (h : p.Pulls services messages scene name) :
    (p.routing.find? name).isSome := by
  obtain ⟨verdicts, free, t, s₁, s₂, hjudged, -, hmoving, -, rfl⟩ := h
  obtain ⟨m, -, -, -, hroute⟩ := message_of_moving hjudged hmoving
  rw [hroute]
  rfl

end Pipeline

namespace Worker

/-! ## From the variable to the routes -/

section Settings

variable [Json.Limits]

theorem exists_spelled_of_ofEnvironment {env : Environment} {settings : Settings}
    (h : Settings.ofEnvironment env = .ok settings) :
    ∃ raw entries, env.lookup (Text.ofString "SECRET_ARNS") = some raw ∧
      Json.SpellsObject raw entries ∧
      ∀ name, settings.secretArns.lookup name = (lastMember? entries name).map Json.display := by
  obtain ⟨members, hvariable, harns⟩ := exists_of_ofEnvironment h
  obtain ⟨raw, hraw, hread⟩ : ∃ raw, env.lookup (Text.ofString "SECRET_ARNS") = some raw ∧
      Json.read raw = .ok (.object members) := by
    unfold Settings.jsonVariable at hvariable
    split at hvariable
    · cases hvariable
    · cases hvariable
    · next raw hnonempty hraw =>
      split at hvariable
      · next v hread =>
        cases hvariable
        exact ⟨raw, hraw, hread⟩
      · cases hvariable
      · cases hvariable
  obtain ⟨-, entries, hspells, rfl⟩ := Json.read_eq_object_iff.mp hread
  refine ⟨raw, entries, hraw, hspells, fun name => ?_⟩
  rw [harns, lookup_map_snd, lookup_lastNamed]

/--
**A source is pulled only under the last member of its name, and never under an empty one.**

Take any environment that gives settings and any catalog. The variable with the references spells
an object. A name has a route exactly if a source of this name has an accepted type and the last
member of this name is there and not the empty string; the reference of the route is this member
if it is a string, and the text that shows it if it is anything else, be it null. A name without a
member, or with an empty string for its last one, has no route, and no batch of any pipeline with
these routes begins a pull of it.
-/
theorem resolves_by_last_member {env : Environment} {settings : Settings}
    (h : Settings.ofEnvironment env = .ok settings) (sources : List LogSource)
    (lines : Array Line) :
    ∃ raw entries routing lines', env.lookup (Text.ofString "SECRET_ARNS") = some raw ∧
      Json.SpellsObject raw entries ∧
      (Routing.ofCatalog sources settings.connectorTypes settings.secretArns).runOn lines =
        (.ok routing, lines') ∧
      ∀ name,
        ((routing.find? name).isSome ↔
          (∃ source ∈ sources, source.name = name ∧ source.type ∈ settings.connectorTypes) ∧
            ∃ v, lastMember? entries name = some v ∧ v ≠ .string []) ∧
        (∀ route t, routing.find? name = some route →
          lastMember? entries name = some (.string t) → route.secretRef = t) ∧
        (∀ route v, routing.find? name = some route →
          lastMember? entries name = some v → route.secretRef = v.display) ∧
        (lastMember? entries name = none ∨ lastMember? entries name = some (.string []) →
          routing.find? name = none ∧
            ∀ {σ : Type} (services : Services σ) (p : Pipeline σ) (messages : List Message)
              (scene : Scene σ), p.routing = routing → ¬ p.Pulls services messages scene name) := by
  obtain ⟨raw, entries, hraw, hspells, harns⟩ := exists_spelled_of_ofEnvironment h
  obtain ⟨routing, lines', hrun, -, hsettled⟩ := Routing.ofCatalog_eq sources
    settings.connectorTypes settings.secretArns lines
  refine ⟨raw, entries, routing, lines', hraw, hspells, hrun, fun name => ?_⟩
  have hresolves : (routing.find? name).isSome ↔
      (∃ source ∈ sources, source.name = name ∧ source.type ∈ settings.connectorTypes) ∧
        ∃ v, lastMember? entries name = some v ∧ v ≠ .string [] := by
    rw [Routing.isSome_find?_iff (hsettled name), harns]
    refine and_congr_right fun _ => ?_
    constructor
    · rintro ⟨arn, harn, hne⟩
      obtain ⟨v, hv, rfl⟩ := Option.map_eq_some_iff.mp harn
      exact ⟨v, hv, mt v.display_eq_nil_iff.mpr hne⟩
    · rintro ⟨v, hv, hne⟩
      exact ⟨v.display, by rw [hv]; rfl, mt v.display_eq_nil_iff.mp hne⟩
  have href : ∀ route v, routing.find? name = some route → lastMember? entries name = some v →
      route.secretRef = v.display := by
    intro route v hroute hv
    have harn := Routing.lookup_secretRef (hsettled name) hroute
    rw [harns, hv] at harn
    exact (Option.some.inj harn).symm
  refine ⟨hresolves, fun route t hroute ht => href route (.string t) hroute ht, href, ?_⟩
  intro hunreferenced
  have hnone : ¬ (routing.find? name).isSome := by
    rintro hsome
    obtain ⟨-, v, hv, hne⟩ := hresolves.mp hsome
    rcases hunreferenced with hmember | hmember
    · cases hmember.symm.trans hv
    · cases hmember.symm.trans hv
      exact hne rfl
  refine ⟨Option.not_isSome_iff_eq_none.mp hnone, ?_⟩
  rintro σ services p messages scene rfl hpulls
  exact hnone (Pipeline.isSome_find?_of_pulls hpulls)

end Settings

/-! ### Two environments -/

attribute [local instance] Platform.builtIn

/-- The environment of a worker with these references. -/
def environmentWith (references : Text) : Environment :=
  [("PULLER_LOG_SOURCE_TYPES", "[\"http_json\"]"), ("SECRET_ARNS", references)]

/-- A member that is given once more as an empty string, and another one. -/
def takenBack : Text := "\x7b\"a\": \"A\", \"a\": \"\", \"b\": \"B\"\x7d"

/-- A member that is null. -/
def nullReference : Text := "\x7b\"a\": null\x7d"

/-- The settings of a worker with these references. -/
def settingsWith (arns : List (Text × Text)) : Settings :=
  { Settings.standard with connectorTypes := ["http_json"], secretArns := arns }

/-- A member that was taken back is none, and its neighbour is not concerned. -/
theorem reference_taken_back :
    ∃ routing lines route,
      Settings.ofEnvironment (environmentWith takenBack) =
        .ok (settingsWith [("a", []), ("b", "B")]) ∧
      (Routing.ofCatalog [⟨"a", "http_json", []⟩, ⟨"b", "http_json", []⟩] ["http_json"]
        [("a", []), ("b", "B")]).runOn #[] = (.ok routing, lines) ∧
      routing.find? "a" = none ∧ routing.find? "b" = some route ∧ route.secretRef = "B" ∧
      ∀ messages scene, ¬ Pipeline.Pulls (make counter routing (.ofBucket "bucket") none) counter
        messages scene "a" := by
  have hsettings : Settings.ofEnvironment (environmentWith takenBack) =
      .ok (settingsWith [("a", []), ("b", "B")]) := by cbv
  obtain ⟨raw, entries, routing, lines, hraw, hspells, hrun, hnames⟩ :=
    resolves_by_last_member hsettings [⟨"a", "http_json", []⟩, ⟨"b", "http_json", []⟩] #[]
  cases hraw
  have hread : Json.read takenBack = .ok (.object [("a", .string []), ("b", .string "B")]) := by cbv
  have hlast := Json.lastMember?_eq_find? hread hspells
  obtain ⟨hresolves, -, -, hunreferenced⟩ := hnames "a"
  obtain ⟨hnone, hpulls⟩ := hunreferenced (.inr (hlast _))
  obtain ⟨hresolves, hstring, -, -⟩ := hnames "b"
  obtain ⟨route, hroute⟩ := Option.isSome_iff_exists.mp (hresolves.mpr
    ⟨⟨⟨"b", "http_json", []⟩, by simp, rfl, by decide⟩, .string "B", hlast _,
      by simp [Text.ofString]⟩)
  exact ⟨routing, lines, route, hsettings, hrun, hnone, hroute, hstring route "B" hroute (hlast _),
    fun messages scene => hpulls counter _ messages scene rfl⟩

/-- The route under a member that is null. -/
def nullRoute : Route := ⟨"None", "http_json", [("log_source_type", "http_json")]⟩

/-- A member that is null counts as the reference `None`: its source has a route and is pulled. -/
theorem null_reference_is_pulled :
    ∃ raw entries routing route, Settings.ofEnvironment (environmentWith nullReference) =
        .ok (settingsWith [("a", "None")]) ∧
      (environmentWith nullReference).lookup (Text.ofString "SECRET_ARNS") = some raw ∧
      Json.SpellsObject raw entries ∧ lastMember? entries "a" = some .null ∧
      (Routing.ofCatalog [⟨"a", "http_json", []⟩] ["http_json"] [("a", "None")]).runOn #[] =
        (.ok routing, #[]) ∧
      routing.find? "a" = some route ∧ route.secretRef = "None" ∧
      Pipeline.Pulls (make counter routing (.ofBucket "bucket") none) counter
        [Shelf.request "m" "a"] (.start ⟨(), []⟩) "a" := by
  have hsettings : Settings.ofEnvironment (environmentWith nullReference) =
      .ok (settingsWith [("a", "None")]) := by cbv
  have hread : Json.read nullReference = .ok (.object [("a", .null)]) := by cbv
  obtain ⟨-, entries, hspells, -⟩ := Json.read_eq_object_iff.mp hread
  have hlast := Json.lastMember?_eq_find? hread hspells "a"
  have hjudge : Verdict.ofMessage ⟨[("a", nullRoute)]⟩ (Shelf.request "m" "a") =
      .ok (.ready ⟨.string "m", ⟨"a", "now"⟩, nullRoute⟩) := by cbv
  have hrouting : (Routing.ofCatalog [⟨"a", "http_json", []⟩] ["http_json"] [("a", "None")]).runOn
      #[] = (.ok ⟨[("a", nullRoute)]⟩, #[]) := by cbv
  refine ⟨nullReference, entries, ⟨[("a", nullRoute)]⟩, nullRoute, hsettings, rfl, hspells, hlast,
    hrouting, rfl, rfl, ?_⟩
  -- the first ticket of the batch waits for its pull
  exact ⟨_, none, ⟨⟨.string "m", ⟨"a", "now"⟩, nullRoute⟩, .waiting, 0, 0⟩, _, _,
    .cons hjudge .nil, rfl, ⟨0, _, 0, rfl, rfl, rfl, rfl⟩, rfl, rfl⟩

end Worker

end LogHarvest
