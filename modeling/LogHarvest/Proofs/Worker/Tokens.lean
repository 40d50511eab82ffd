import LogHarvest.Proofs.Worker.References
import LogHarvest.Proofs.Worker.Secrecy

/-!
# The token of a request

On its way from the store of secrets into a header a token is read as JSON, shown as a text, kept,
and left out if it is empty. Here both ends of this way are put together: `token_sent_as_stored`
says what the headers of a GET are for every string that the store may hold. A member that is no
string counts as the text that shows it, and this text is never empty; so null is sent as well.
-/

namespace LogHarvest

variable {σ : Type}

/-! ## What is stored, and what is sent -/

/-- The string is the JSON text of an object with these members. -/
def Vault.IsObjectText [Json.Limits] (stored : Text) (entries : List (Text × Json)) : Prop :=
  stored.head? ≠ some (.char '\ufeff') ∧ Json.SpellsObject stored entries

/-- The secret of a reference is the one of this string: it is kept, or the store would give it
now. -/
def Scene.Stores [Json.Limits] (s : Scene σ) (services : Services σ) (arn stored : Text) : Prop :=
  match s.kept.lookup arn with
  | some secret => Vault.ofStored stored = .ok secret
  | none => ∃ members, ((services.secret arn).run s.outside).1 = .ok (.object members) ∧
      Json.find? members "SecretString" = some (.string stored)

/-- The pages that were asked for so far. -/
def Scene.requests (s : Scene (Traced σ)) : List PageRequest :=
  s.trace.filterMap Exchange.request?

/-- The headers carry a token: in the header that the source names, if it names one, and else in
the usual one. -/
structure PageConnector.CarriesToken (route : Route) (token : Text)
    (headers : List (Text × Text)) : Prop where
  named : ∀ name, route.property? (Text.ofString "token_header") = some name → name ≠ [] →
    headers = putNamed [accept] name token
  unnamed : (∀ name, route.property? (Text.ofString "token_header") = some name → name = []) →
    headers = [accept, (Text.ofString "Authorization", Text.ofString "Bearer " ++ token)]

/-! ## The secret of a string -/

namespace Vault

variable [Json.Limits]

/-- What is got for a reference is the secret of its string. -/
theorem runOn_get_of_stores {services : Services σ} {arn stored : Text} {s : Scene σ}
    (h : s.Stores services arn stored) : ((get services arn).runOn s).1 = ofStored stored := by
  unfold Scene.Stores at h
  cases hl : s.kept.lookup arn with
  | some secret =>
    rw [hl] at h
    rw [runOn_get_of_kept hl, h]
  | none =>
    rw [hl] at h
    obtain ⟨members, hanswer, hstored⟩ := h
    rw [runOn_get_of_not_kept hl, runOn_fetch, hanswer, bind_of_eq_ok rfl,
      ofAnswer_of_stored hstored]
    cases ofStored stored <;> rfl

/-- In the secret of an object each name has the text of its last member. -/
theorem lookup_of_objectText {stored : Text} {entries : List (Text × Json)} {secret : Secret}
    (h : IsObjectText stored entries) (hsecret : ofStored stored = .ok secret) (name : Text) :
    secret.lookup name = (lastMember? entries name).map Json.display := by
  obtain ⟨hmark, hspells⟩ := h
  have hread := Json.read_eq_object_iff.mpr ⟨hmark, entries, hspells, rfl⟩
  cases (ofStored_of_object hread).symm.trans hsecret
  rw [lookup_map_snd, lookup_lastNamed]

/-- A string that is no object text is the secret itself. -/
theorem eq_plain_of_not_objectText {stored : Text} {secret : Secret}
    (h : ∀ entries, ¬ IsObjectText stored entries) (hsecret : ofStored stored = .ok secret) :
    secret = plain stored := by
  unfold ofStored at hsecret
  split at hsecret
  · next members hread =>
    obtain ⟨hmark, entries, hspells, -⟩ := Json.read_eq_object_iff.mp hread
    exact absurd ⟨hmark, hspells⟩ (h entries)
  · exact (Except.ok.inj hsecret).symm
  · exact (Except.ok.inj hsecret).symm
  · cases hsecret

end Vault

/-! ## The headers of a secret -/

namespace PageConnector

theorem given?_eq_none_iff {route : Route} {name : String} : given? route name = none ↔
    ∀ t, route.property? (Text.ofString name) = some t → t = [] := by
  simp [given?, Option.filter_eq_none_iff]

/-- A token that is not empty is sent. -/
theorem carriesToken_headers {secret : Secret} {token : Text}
    (h : secret.lookup (Text.ofString "api_token") = some token) (hne : token ≠ [])
    (route : Route) : CarriesToken route token (headers route secret) := by
  have htoken : token? secret = some token := by simp [token?, h, Option.filter, hne]
  rw [headers_of_token htoken]
  constructor
  · intro name hname hgiven
    have hheader : given? route "token_header" = some name := by
      simp [given?, hname, Option.filter, hgiven]
    rw [hheader]
    rfl
  · intro hempty
    rw [given?_eq_none_iff.mpr hempty]
    rfl

theorem token?_eq_none_of_lookup {secret : Secret}
    (h : ∀ t, secret.lookup (Text.ofString "api_token") = some t → t = []) :
    token? secret = none := by
  simpa [token?, Option.filter_eq_none_iff] using h

/-! ## The requests of a pull -/

section Requests

variable [Json.Limits] (services : Services σ)

/-- Getting a secret asks for no page. -/
theorem requests_get (arn : Text) (s : Scene (Traced σ)) :
    ((Vault.get services.traced arn).runOn s).2.requests = s.requests := by
  have hasked : (Vault.asked services.traced arn s).requests = s.requests := by
    show (s.trace ++ [_]).filterMap Exchange.request? = _
    rw [List.filterMap_append]
    exact List.append_nil _
  cases hl : s.kept.lookup arn with
  | some secret => rw [Vault.runOn_get_of_kept hl]
  | none =>
    rw [Vault.runOn_get_of_not_kept hl, Vault.runOn_fetch]
    cases ((services.traced.secret arn).run s.outside).1 >>= Vault.ofAnswer arn with
    | ok secret => exact hasked
    | error fault => exact hasked

/-- The requests after a pull are those of before, or one more with the headers of the secret that
is got for the route. -/
def AsksOnce (route : Route) (s s' : Scene (Traced σ)) : Prop :=
  s'.requests = s.requests ∨ ∃ request secret, s'.requests = s.requests ++ [request] ∧
    ((Vault.get services.traced route.secretRef).runOn s).1 = .ok secret ∧
    request.headers = headers route secret

theorem prepare_asks (url : Text) (route : Route) (s : Scene (Traced σ)) :
    Act.Leads (· = s) (prepare services.traced url route)
      (fun request s' => s'.requests = s.requests ∧ ∃ secret,
        ((Vault.get services.traced route.secretRef).runOn s).1 = .ok secret ∧
          request.headers = headers route secret)
      (AsksOnce services route s) := by
  refine Act.Leads.bind (J := fun secret s' => s'.requests = s.requests ∧
    ((Vault.get services.traced route.secretRef).runOn s).1 = .ok secret) ?_ fun secret => ?_
  · rintro _ rfl
    exact ⟨fun secret hsecret => ⟨requests_get services _ _, hsecret⟩,
      fun _ _ => Or.inl (requests_get services _ _)⟩
  · refine Act.Leads.bind (J := fun _ s' => s'.requests = s.requests ∧
      ((Vault.get services.traced route.secretRef).runOn s).1 = .ok secret)
      (params_leads services.traced route (fun _ hs => hs) fun _ hs => Or.inl hs.1)
      fun params => .pure ?_
    rintro s' ⟨hrequests, hsecret⟩
    exact ⟨hrequests, secret, hsecret, rfl⟩

/-- A pull asks for one page at most. -/
theorem pull_asksOnce (route : Route) (s : Scene (Traced σ)) :
    AsksOnce services route s ((pull services.traced route).runOn s).2 := by
  have hpull : Act.Leads (· = s) (pull services.traced route)
      (fun _ => AsksOnce services route s) (AsksOnce services route s) := by
    unfold pull
    cases given? route "url" with
    | none => exact .throw fun _ hs => Or.inl (hs ▸ rfl)
    | some url =>
      refine .bind (prepare_asks services url route s) fun request => ?_
      have hpage : ∀ s' : Scene (Traced σ), (s'.requests = s.requests ∧ ∃ secret,
          ((Vault.get services.traced route.secretRef).runOn s).1 = .ok secret ∧
            request.headers = headers route secret) →
          AsksOnce services route s
            { s' with outside := ((services.traced.page request).run s'.outside).2 } := by
        rintro s' ⟨hrequests, secret, hsecret, hheaders⟩
        refine Or.inr ⟨request, secret, ?_, hsecret, hheaders⟩
        rw [← hrequests]
        exact List.filterMap_append
      refine Act.Leads.bind (J := fun _ => AsksOnce services route s)
        (.demand (fun s' page hs _ => hpage s' hs) hpage) fun page => ?_
      refine Act.Leads.bind (J := fun _ => AsksOnce services route s)
        (.liftExcept (fun _ _ _ hs => hs) fun _ hs => hs) fun body => ?_
      split
      · exact Act.Leads.bind (J := fun _ => AsksOnce services route s)
          (.write fun _ hs => hs) fun _ => .pure fun _ hs => hs
      · exact .pure fun _ hs => hs
  obtain ⟨hok, herror⟩ := hpull s rfl
  cases hr : ((pull services.traced route).runOn s).1 with
  | ok body => exact hok body hr
  | error fault => exact herror fault hr

/--
**What is sent is what is stored.**

Take a pull of a route whose secret is that of a string, be it kept from before or given now, and a
page that is asked for in it. If the string is the text of an object, its last `api_token` counts:
a string that is not empty is sent unchanged, under the `token_header` of the source if that is not
empty and as a bearer token else; if there is none, or an empty string, nothing but `Accept` is
sent. Nor is anything else sent if the string is no text of an object. A member of any other kind,
null among them, is sent like a string, as the text that shows it.
-/
theorem token_sent_as_stored {route : Route} {stored : Text} {s : Scene (Traced σ)}
    (h : s.Stores services.traced route.secretRef stored) {new : List PageRequest}
    (hnew : ((pull services.traced route).runOn s).2.requests = s.requests ++ new)
    {request : PageRequest} (hmem : request ∈ new) :
    (∀ entries, Vault.IsObjectText stored entries →
      (∀ t, lastMember? entries (Text.ofString "api_token") = some (.string t) → t ≠ [] →
        CarriesToken route t request.headers) ∧
      (lastMember? entries (Text.ofString "api_token") = none ∨
        lastMember? entries (Text.ofString "api_token") = some (.string []) →
        request.headers = [accept]) ∧
      ∀ v, lastMember? entries (Text.ofString "api_token") = some v → (∀ t, v ≠ .string t) →
        CarriesToken route v.display request.headers) ∧
    ((∀ entries, ¬ Vault.IsObjectText stored entries) → request.headers = [accept]) := by
  obtain ⟨secret, hsecret, hheaders⟩ : ∃ secret, Vault.ofStored stored = .ok secret ∧
      request.headers = headers route secret := by
    rcases pull_asksOnce services route s with hnone | ⟨request', secret, hone, hget, hheaders⟩
    · rw [hnew, List.append_right_eq_self] at hnone
      rw [hnone] at hmem
      cases hmem
    · rw [hnew, List.append_cancel_left_eq] at hone
      rw [hone, List.mem_singleton] at hmem
      rw [Vault.runOn_get_of_stores h] at hget
      exact ⟨secret, hget, hmem ▸ hheaders⟩
  rw [hheaders]
  refine ⟨fun entries hobject => ?_, fun hplain => ?_⟩
  · have hlookup := Vault.lookup_of_objectText hobject hsecret (Text.ofString "api_token")
    refine ⟨fun t ht hne => ?_, fun hnone => ?_, fun v hv hother => ?_⟩
    · rw [ht] at hlookup
      exact carriesToken_headers hlookup hne route
    · refine headers_of_no_token (token?_eq_none_of_lookup ?_) route
      rw [hlookup]
      rcases hnone with hnone | hempty
      · simp [hnone]
      · simp [hempty, (Json.display_eq_nil_iff _).mpr rfl]
    · rw [hv] at hlookup
      exact carriesToken_headers hlookup (mt v.display_eq_nil_iff.mp (hother [])) route
  · rw [Vault.eq_plain_of_not_objectText hplain hsecret]
    exact headers_of_no_token (token?_eq_none_of_lookup (by simp [Vault.plain, Text.ofString]))
      route

end Requests

/-! ### Over a counter -/

attribute [local instance] Platform.builtIn

/-- A route to a source that names a header of its own. -/
def keyedRoute : Route := ⟨"A", type, [("url", "u"), ("token_header", "X-Key")]⟩

/-- A route to a source that names none. -/
def plainRoute : Route := ⟨"A", type, [("url", "u")]⟩

/-- A token that is given once as a number and then as a string. -/
def tokenTwice : Text := "\x7b\"api_token\": 1, \"api_token\": \"k\"\x7d"

/-- A token that is null. -/
def nullToken : Text := "\x7b\"api_token\": null\x7d"

/-- The requests of a pull over a counter with this string behind every reference. -/
def counterRequests (stored : Text) (route : Route) : List PageRequest :=
  ((pull (Worker.counterWith Worker.complaint stored).traced route).runOn
    (.start ⟨(), []⟩)).2.requests

/-- Of two tokens the later one is sent, under the header that the source names. -/
theorem later_token_sent_under_own_header :
    ∃ request entries, counterRequests tokenTwice keyedRoute = [] ++ [request] ∧
      Vault.IsObjectText tokenTwice entries ∧
      lastMember? entries (Text.ofString "api_token") = some (.string "k") ∧
      request.headers = [accept, ("X-Key", "k")] := by
  have hread : Json.read tokenTwice = .ok (.object [("api_token", .string "k")]) := by cbv
  obtain ⟨hmark, entries, hspells, -⟩ := Json.read_eq_object_iff.mp hread
  have hlast := Json.lastMember?_eq_find? hread hspells (Text.ofString "api_token")
  have hrequests : counterRequests tokenTwice keyedRoute =
      [] ++ [⟨"u", [accept, ("X-Key", "k")], [], 30⟩] := by cbv
  have hstores : Scene.Stores (.start (⟨(), []⟩ : Traced Unit))
      (Worker.counterWith Worker.complaint tokenTwice).traced keyedRoute.secretRef tokenTwice :=
    ⟨_, rfl, rfl⟩
  have hsent := token_sent_as_stored _ hstores hrequests (List.mem_singleton_self _)
  have hcarries := (hsent.1 entries ⟨hmark, hspells⟩).1 "k" hlast (by decide)
  exact ⟨_, entries, hrequests, ⟨hmark, hspells⟩, hlast,
    hcarries.named "X-Key" (by decide) (by decide)⟩

/-- A token that is null is sent as the word None, where nothing but `Accept` should be. -/
theorem null_token_is_sent :
    ∃ request entries, counterRequests nullToken plainRoute = [request] ∧
      Vault.IsObjectText nullToken entries ∧
      lastMember? entries (Text.ofString "api_token") = some .null ∧
      request.headers = [accept, ("Authorization", "Bearer None")] ∧
      request.headers ≠ [accept] := by
  have hread : Json.read nullToken = .ok (.object [("api_token", .null)]) := by cbv
  obtain ⟨hmark, entries, hspells, -⟩ := Json.read_eq_object_iff.mp hread
  have hlast := Json.lastMember?_eq_find? hread hspells (Text.ofString "api_token")
  exact ⟨⟨"u", [accept, ("Authorization", "Bearer None")], [], 30⟩, entries, by cbv,
    ⟨hmark, hspells⟩, hlast, rfl, by decide⟩

end PageConnector

end LogHarvest
