import LogHarvest.Catalog.Routing
import LogHarvest.Proofs.Activity
import LogHarvest.Proofs.Text.Order

/-!
# The last accepted source counts

Routing is made source by source, and a later source takes the place of an earlier one of the same
name only if it is accepted itself. So in the end the route of a name is that of the last source of
this name that is accepted, and a name without such a source has no route.

* `foldlM_add`: what becomes of each name while the sources are added one after another
* `property?_propertiesOf`: the properties of a route, entry by entry
* `ofCatalog_resolves_last_accepted`: both together, with the names in order
-/

namespace LogHarvest

/-! ## Properties -/

namespace Value

/-- No two keys are the same, as in every mapping. -/
def DistinctKeys (entries : List (Value × Value)) : Prop :=
  entries.Pairwise fun e e' => sameKey e.1 e'.1 = false

theorem sameKey_text (s t : Text) : sameKey (.text s) (.text t) = (s == t) := rfl

end Value

namespace Route

theorem textEntry?_eq_some_iff {e : Value × Value} {k v : Text} :
    textEntry? e = some (k, v) ↔ e = (.text k, .text v) := by
  constructor
  · intro h
    unfold textEntry? at h
    split at h
    · cases h
      rfl
    · cases h
  · rintro rfl
    rfl

/-- The text of a name is the one that is entered under it, if keys are distinct. -/
theorem lookup_textEntries {properties : List (Value × Value)} (h : Value.DistinctKeys properties)
    {k v : Text} :
    (properties.filterMap textEntry?).lookup k = some v ↔ (.text k, .text v) ∈ properties := by
  induction properties with
  | nil => simp
  | cons e rest ih =>
    obtain ⟨hhead, hrest⟩ := List.pairwise_cons.mp h
    cases he : textEntry? e with
    | none =>
      have hne : (Value.text k, Value.text v) ≠ e := by
        rintro rfl
        cases he
      rw [List.filterMap_cons_none he, ih hrest, List.mem_cons, or_iff_right hne]
    | some entry =>
      obtain ⟨k', v'⟩ := entry
      obtain rfl := textEntry?_eq_some_iff.mp he
      rw [List.filterMap_cons_some he, List.lookup_cons, List.mem_cons]
      by_cases hk : k = k'
      · subst hk
        -- a second entry of this name would have the key of the first one
        have habsent : (Value.text k, Value.text v) ∉ rest := by
          intro hmem
          simpa [Value.sameKey_text] using hhead _ hmem
        simp [habsent, eq_comm]
      · have hk' : (k == k') = false := by simpa using hk
        simp [hk', hk, ih hrest]

/-- The properties of a route are the texts among the declared ones, but for the type, which is that
of the route. -/
theorem property?_propertiesOf {properties : List (Value × Value)}
    (h : Value.DistinctKeys properties) {type k v : Text} :
    (propertiesOf properties type).lookup k = some v ↔
      k = typeProperty ∧ v = type ∨ k ≠ typeProperty ∧ (.text k, .text v) ∈ properties := by
  rw [propertiesOf, lookup_putNamed]
  by_cases hk : k = typeProperty
  · simp [hk, eq_comm]
  · simp [hk, lookup_textEntries h]

end Route

namespace Routing

variable {types : List Text} {arns : List (Text × Text)}

/-! ## Accepted sources -/

/-- A worker takes the source under a secret reference: its type is an accepted one, and the
reference is known for its name and not empty. -/
def Accepts (types : List Text) (arns : List (Text × Text)) (source : LogSource) (arn : Text) :
    Prop :=
  source.type ∈ types ∧ arns.lookup source.name = some arn ∧ arn ≠ []

/-- The source is taken under the reference, and none of its name that comes later is taken. -/
def LastAccepted (types : List Text) (arns : List (Text × Text)) (sources : List LogSource)
    (source : LogSource) (arn : Text) : Prop :=
  ∃ before after, sources = before ++ source :: after ∧ Accepts types arns source arn ∧
    ∀ later ∈ after, later.name = source.name → ∀ arn', ¬ Accepts types arns later arn'

theorem LastAccepted.cons {sources : List LogSource} {source : LogSource} {arn : Text}
    (h : LastAccepted types arns sources source arn) (first : LogSource) :
    LastAccepted types arns (first :: sources) source arn := by
  obtain ⟨before, after, rfl, haccepts, hlater⟩ := h
  exact ⟨first :: before, after, rfl, haccepts, hlater⟩

/-- The step lemma: a source that is taken becomes the route of its name, any other leaves the
routes as they are. -/
theorem add_eq (types : List Text) (arns : List (Text × Text)) (routes : List (Text × Route))
    (source : LogSource) (lines : Array Line) :
    ∃ routes' lines', (add types arns routes source).runOn lines = (.ok routes', lines') ∧
      ((∃ arn, Accepts types arns source arn ∧
          routes' = putNamed routes source.name (routeOf source arn)) ∨
        (∀ arn, ¬ Accepts types arns source arn) ∧ routes' = routes) := by
  unfold add
  by_cases htype : source.type ∈ types
  · have hcontains : (!types.contains source.type) = false := by simpa using htype
    rw [hcontains]
    cases harn : arns.lookup source.name with
    | none =>
      refine ⟨routes, _, rfl, Or.inr ⟨?_, rfl⟩⟩
      rintro arn ⟨-, harn', -⟩
      cases harn.symm.trans harn'
    | some arn =>
      cases arn with
      | nil =>
        refine ⟨routes, _, rfl, Or.inr ⟨?_, rfl⟩⟩
        rintro arn ⟨-, harn', hne⟩
        cases harn.symm.trans harn'
        exact hne rfl
      | cons s arn =>
        exact ⟨_, lines, rfl, Or.inl ⟨s :: arn, ⟨htype, harn, List.cons_ne_nil s arn⟩, rfl⟩⟩
  · have hcontains : (!types.contains source.type) = true := by simpa using htype
    rw [hcontains]
    exact ⟨routes, lines, rfl, Or.inr ⟨fun arn h => htype h.1, rfl⟩⟩

/-- What has become of a name: the route of the last source of this name that is taken, or what it
was before if there is none. -/
def Settled (types : List Text) (arns : List (Text × Text)) (sources : List LogSource)
    (routes routes' : List (Text × Route)) (name : Text) : Prop :=
  (∃ source arn, source.name = name ∧ LastAccepted types arns sources source arn ∧
      routes'.lookup name = some (routeOf source arn)) ∨
    (∀ source ∈ sources, source.name = name → ∀ arn, ¬ Accepts types arns source arn) ∧
      routes'.lookup name = routes.lookup name

/-- The run lemma: adding sources one after another settles every name, and enters none twice. -/
theorem foldlM_add (sources : List LogSource) (routes : List (Text × Route)) (lines : Array Line)
    (hnames : (routes.map (·.1)).Nodup) :
    ∃ routes' lines', (sources.foldlM (add types arns) routes).runOn lines =
        (.ok routes', lines') ∧
      (routes'.map (·.1)).Nodup ∧ ∀ name, Settled types arns sources routes routes' name := by
  induction sources generalizing routes lines with
  | nil => exact ⟨routes, lines, rfl, hnames, fun name => Or.inr ⟨by simp, rfl⟩⟩
  | cons first sources ih =>
    obtain ⟨routes₁, lines₁, hadd, hfirst⟩ := add_eq types arns routes first lines
    have hnames₁ : (routes₁.map (·.1)).Nodup := by
      rcases hfirst with ⟨arn, -, rfl⟩ | ⟨-, rfl⟩
      · exact nodup_putNamed hnames first.name _
      · exact hnames
    obtain ⟨routes', lines', hrun, hnames', hsettled⟩ := ih routes₁ lines₁ hnames₁
    refine ⟨routes', lines', ?_, hnames', ?_⟩
    · rw [List.foldlM_cons, Noted.runOn_bind_of_ok hadd, hrun]
    · intro name
      rcases hsettled name with ⟨source, arn, hname, hlast, hroute⟩ | ⟨hnone, hkept⟩
      · -- a later source of this name is taken, so the first one does not matter
        exact Or.inl ⟨source, arn, hname, hlast.cons first, hroute⟩
      · rcases hfirst with ⟨arn, haccepts, rfl⟩ | ⟨hrefused, rfl⟩
        · rw [lookup_putNamed] at hkept
          by_cases hname : name = first.name
          · subst hname
            rw [if_pos rfl] at hkept
            exact Or.inl ⟨first, arn, rfl, ⟨[], sources, rfl, haccepts, hnone⟩, hkept⟩
          · rw [if_neg hname] at hkept
            refine Or.inr ⟨?_, hkept⟩
            rintro source (_ | ⟨_, hsource⟩) hsame
            · exact absurd hsame.symm hname
            · exact hnone source hsource hsame
        · refine Or.inr ⟨?_, hkept⟩
          rintro source (_ | ⟨_, hsource⟩) hsame
          · exact hrefused
          · exact hnone source hsource hsame

/-- Routing a catalog never fails, whatever the lines before it. -/
theorem ofCatalog_eq (sources : List LogSource) (types : List Text) (arns : List (Text × Text))
    (lines : Array Line) :
    ∃ routing lines', (ofCatalog sources types arns).runOn lines = (.ok routing, lines') ∧
      (routing.routes.map (·.1)).Nodup ∧
      ∀ name, Settled types arns sources [] routing.routes name := by
  obtain ⟨routes, lines', hrun, hnames, hsettled⟩ :=
    @foldlM_add types arns sources [] lines List.nodup_nil
  refine ⟨⟨routes⟩, lines', ?_, hnames, hsettled⟩
  rw [ofCatalog, Noted.runOn_bind_of_ok hrun]
  rfl

/-! ## Names -/

theorem mem_names_iff (r : Routing) (name : Text) : name ∈ r.names ↔ (r.find? name).isSome := by
  rw [names, (Text.sort_perm _).mem_iff, find?, lookup_isSome_iff]

theorem length_names (r : Routing) : r.names.length = r.size := by
  rw [names, (Text.sort_perm _).length_eq, List.length_map, size]

/--
**The route of a name is that of the last accepted source of this name.**

A name has no route exactly if no source of this name is accepted. Else there is a last source of
the name that is accepted, whatever refused ones come later, and the route has its type, the secret
reference of the name, and as properties the texts among the declared ones, with the type put in
under its own name. The names are strictly increasing, they are those that have a route, and there
are as many as there are routes.
-/
theorem ofCatalog_resolves_last_accepted (sources : List LogSource) (types : List Text)
    (arns : List (Text × Text)) (lines : Array Line) :
    ∃ routing lines', (ofCatalog sources types arns).runOn lines = (.ok routing, lines') ∧
      (∀ name, routing.find? name = none ↔
        ∀ source ∈ sources, source.name = name → ∀ arn, ¬ Accepts types arns source arn) ∧
      (∀ name route, routing.find? name = some route → ∃ source arn, source.name = name ∧
        LastAccepted types arns sources source arn ∧ route.type = source.type ∧
        route.secretRef = arn ∧
        (Value.DistinctKeys source.properties → ∀ k v, route.property? k = some v ↔
          k = Route.typeProperty ∧ v = route.type ∨
            k ≠ Route.typeProperty ∧ (.text k, .text v) ∈ source.properties)) ∧
      routing.names.Pairwise (fun s t => Text.compare s t = .lt) ∧
      (∀ name, name ∈ routing.names ↔ (routing.find? name).isSome) ∧
      routing.names.length = routing.size := by
  obtain ⟨routing, lines', hrun, hnames, hsettled⟩ := ofCatalog_eq sources types arns lines
  refine ⟨routing, lines', hrun, ?_, ?_, Text.pairwise_lt_sort hnames, routing.mem_names_iff,
    routing.length_names⟩
  · intro name
    rcases hsettled name with ⟨source, arn, hname, hlast, hroute⟩ | ⟨hnone, hkept⟩
    · obtain ⟨before, after, rfl, haccepts, -⟩ := hlast
      constructor
      · intro h
        cases h.symm.trans hroute
      · intro h
        exact absurd haccepts (h source (by simp) hname arn)
    · exact ⟨fun _ => hnone, fun _ => hkept⟩
  · intro name route hfind
    rcases hsettled name with ⟨source, arn, hname, hlast, hroute⟩ | ⟨hnone, hkept⟩
    · cases hfind.symm.trans hroute
      exact ⟨source, arn, hname, hlast, rfl, rfl,
        fun hkeys k v => Route.property?_propertiesOf hkeys⟩
    · cases hfind.symm.trans hkept

/-- A source that declares another type among its properties, and behind it a refused one of the
same name. -/
def twice : List LogSource :=
  [⟨"a", "page", [(.text "log_source_type", .text "other"), (.text "url", .text "u"),
      (.text "pages", .int 3)]⟩,
    ⟨"a", "other", [(.text "url", .text "v")]⟩]

/-- The refused source does not hide the accepted one, and the type is what it is. -/
theorem refused_source_hides_nothing :
    ∃ routing lines route, (ofCatalog twice ["page"] [("a", "arn")]).runOn #[] =
        (.ok routing, lines) ∧
      routing.find? "a" = some route ∧ route.secretRef = "arn" ∧
      route.property? Route.typeProperty = some (Text.ofString "page") ∧
      route.property? "url" = some (Text.ofString "u") ∧ routing.find? "b" = none := by
  obtain ⟨routing, lines, hrun, hnone, hsome, -⟩ :=
    ofCatalog_resolves_last_accepted twice ["page"] [("a", "arn")] #[]
  have hknown : routing.find? "a" ≠ none := by
    intro h
    exact (hnone _).mp h _ List.mem_cons_self rfl "arn" ⟨by decide, by decide, by decide⟩
  obtain ⟨route, hroute⟩ := Option.ne_none_iff_exists'.mp hknown
  obtain ⟨source, arn, -, ⟨before, after, htwice, ⟨htype, harn, -⟩, -⟩, hrtype, href,
    hproperties⟩ := hsome _ route hroute
  -- the second source is of a type that is not accepted
  have hsource : source ∈ twice := by simp [htwice]
  rcases List.mem_cons.mp hsource with rfl | hsource
  · have hkeys : Value.DistinctKeys [(.text "log_source_type", .text "other"),
        (.text "url", .text "u"), (.text "pages", .int 3)] := by
      simp only [Value.DistinctKeys, List.pairwise_cons]
      decide
    refine ⟨routing, lines, route, hrun, hroute, ?_, ?_, ?_, ?_⟩
    · rw [href]
      exact (Option.some.inj harn).symm
    · exact (hproperties hkeys _ _).mpr (Or.inl ⟨rfl, hrtype.symm⟩)
    · exact (hproperties hkeys _ _).mpr (Or.inr ⟨by decide, by simp⟩)
    · refine (hnone _).mpr ?_
      intro other hother hname
      exfalso
      revert other
      decide
  · exfalso
    rw [List.mem_singleton.mp hsource] at htype
    exact absurd htype (by decide)

end Routing

end LogHarvest
