import LogHarvest.Connector.Page
import LogHarvest.Proofs.Agreement

/-!
# Pulls that agree

A pull of pages looks at the secrets that are kept, asks for a secret, the time and a page, and
writes a line. What two pulls need in order to agree is put down in `Linked`: what the secrets that
they find have in common, and that web servers do not tell these secrets apart.
-/

namespace LogHarvest

variable {σ τ : Type}

/-- The scene with one more secret kept. -/
def Scene.keep (s : Scene σ) (arn : Text) (secret : Secret) : Scene σ :=
  { s with kept := s.kept ++ [(arn, secret)] }

theorem Scene.lookup_keep (s : Scene σ) (arn : Text) (secret : Secret) (other : Text) :
    (s.keep arn secret).kept.lookup other =
      (s.kept.lookup other).or (if other = arn then some secret else none) := by
  rw [keep, List.lookup_append, List.lookup_cons, List.lookup_nil]
  by_cases h : other = arn
  · simp [h]
  · have hne : (other == arn) = false := by simpa using h
    rw [hne, if_neg h]

/-! ## Secrets -/

namespace Vault

variable [Json.Limits]

/-- Asks the store of secrets. -/
def demand (services : Services σ) (arn : Text) : Act σ Secret := do
  let answer ← Act.demand (services.secret arn)
  liftM (ofAnswer arn answer)

theorem fetch_eq (services : Services σ) (arn : Text) :
    fetch services arn = do
      Act.note .debug .secrets (Text.ofString "fetching secret " ++ arn)
      let secret ← demand services arn
      modify fun scene => scene.keep arn secret
      return secret := by
  simp only [fetch, demand, bind_assoc]
  rfl

/-- The scene after the store of secrets was asked for a secret. -/
def asked (services : Services σ) (arn : Text) (s : Scene σ) : Scene σ :=
  { s.write [⟨.debug, .secrets, Text.ofString "fetching secret " ++ arn⟩] with
    outside := ((services.secret arn).run s.outside).2 }

/-- What is fetched is the secret in the answer of the store, and it is kept. -/
theorem runOn_fetch (services : Services σ) (arn : Text) (s : Scene σ) :
    (fetch services arn).runOn s =
      match ((services.secret arn).run s.outside).1 >>= ofAnswer arn with
      | .ok secret => (.ok secret, (asked services arn s).keep arn secret)
      | .error fault => (.error fault, asked services arn s) := by
  rw [fetch, Act.runOn_bind_of_ok (Act.runOn_note ..), Act.runOn_bind, Act.runOn_demand]
  simp only [Scene.write]
  cases ha : ((services.secret arn).run s.outside).1 with
  | error fault => rfl
  | ok answer =>
    simp only [Act.runOn_bind, Act.runOn_liftM_except]
    rw [bind_of_eq_ok rfl]
    cases hs : ofAnswer arn answer <;> rfl

theorem runOn_get_of_kept {services : Services σ} {arn : Text} {s : Scene σ} {secret : Secret}
    (h : s.kept.lookup arn = some secret) : (get services arn).runOn s = (.ok secret, s) := by
  rw [get, Act.runOn_bind_of_ok (Act.runOn_get s), h]
  rfl

theorem runOn_get_of_not_kept {services : Services σ} {arn : Text} {s : Scene σ}
    (h : s.kept.lookup arn = none) :
    (get services arn).runOn s = (fetch services arn).runOn s := by
  rw [get, Act.runOn_bind_of_ok (Act.runOn_get s), h]

end Vault

/-! ## Pulls -/

namespace PageConnector

/-- The headers of a request with a token. -/
def headersWith (header : Option Text) (token : Text) : List (Text × Text) :=
  putNamed [accept] (tokenHeader header token).1 (tokenHeader header token).2

theorem token?_eq_some {secret : Secret} {token : Text} (h : token? secret = some token) :
    secret.lookup (Text.ofString "api_token") = some token ∧ token ≠ [] := by
  obtain ⟨hlookup, hgiven⟩ := Option.filter_eq_some_iff.mp h
  exact ⟨hlookup, by simpa using hgiven⟩

theorem headers_of_no_token {secret : Secret} (h : token? secret = none) (route : Route) :
    headers route secret = [accept] := by
  rw [headers, h]

theorem headers_of_token {secret : Secret} {token : Text} (h : token? secret = some token)
    (route : Route) :
    headers route secret = headersWith (given? route "token_header") token := by
  rw [headers, h]
  rfl

/-- The query needs the time, if anything. -/
theorem params_of_now {R : Scene σ → Scene τ → Prop} {services : Services σ}
    {services' : Services τ}
    (hnow : Act.Agrees R (Act.ask services.now) (Act.ask services'.now)) (route : Route) :
    Act.Agrees R (params services route) (params services' route) := by
  unfold params
  split
  · exact .pure _
  · exact hnow.bind fun now => (Act.Agrees.liftExcept _).bind fun start => .pure _

variable [Json.Limits]

/-- Services over which pulls agree along a relation of scenes: secrets that are kept or given
correspond, and web servers do not tell corresponding secrets apart. -/
structure Linked (R : Scene σ → Scene τ → Prop) (V : Secret → Secret → Prop)
    (services : Services σ) (services' : Services τ) : Prop
    extends LogHarvest.Linked R services services' where
  kept : ∀ ⦃s s'⦄, R s s' → ∀ arn, Option.Rel V (s.kept.lookup arn) (s'.kept.lookup arn)
  secret : ∀ arn, Act.Matches R V (Vault.demand services arn) (Vault.demand services' arn)
  keep : ∀ arn secret secret', V secret secret' → ∀ ⦃s s'⦄, R s s' →
    R (s.keep arn secret) (s'.keep arn secret')
  now : Act.Agrees R (Act.ask services.now) (Act.ask services'.now)
  page : ∀ url route params secret secret', V secret secret' →
    Act.Agrees R (Act.ask (services.page ⟨url, headers route secret, params, timeout⟩))
      (Act.ask (services'.page ⟨url, headers route secret', params, timeout⟩))

/-- Requests for one route with secrets that correspond. -/
def Linked.Requests (V : Secret → Secret → Prop) (route : Route) (request request' : PageRequest) :
    Prop :=
  ∃ url params secret secret', V secret secret' ∧
    request = ⟨url, headers route secret, params, timeout⟩ ∧
    request' = ⟨url, headers route secret', params, timeout⟩

section Parts

variable {R : Scene σ → Scene τ → Prop} {V : Secret → Secret → Prop} {services : Services σ}
  {services' : Services τ}
  (hget : ∀ arn, Act.Matches R V (Vault.get services arn) (Vault.get services' arn))
  (hnow : Act.Agrees R (Act.ask services.now) (Act.ask services'.now))

include hget hnow

/-- The request needs a secret and the time. -/
theorem prepare_of_get (url : Text) (route : Route) :
    Act.Matches R (Linked.Requests V route) (prepare services url route)
      (prepare services' url route) := by
  refine (hget route.secretRef).bind fun secret secret' halike => ?_
  refine Act.Matches.bind (Act.Matches.eq_iff.mpr (params_of_now hnow route))
    fun params params' hparams => ?_
  subst hparams
  exact .pure ⟨url, params, secret, secret', halike, rfl, rfl⟩

/-- The pull needs a page as well, and writes a line. -/
theorem pull_of_get
    (hpage : ∀ url route params secret secret', V secret secret' →
      Act.Agrees R (Act.ask (services.page ⟨url, headers route secret, params, timeout⟩))
        (Act.ask (services'.page ⟨url, headers route secret', params, timeout⟩)))
    (hwrite : ∀ lines, Act.Agrees R (Act.write lines) (Act.write lines)) (route : Route) :
    Act.Agrees R (pull services route) (pull services' route) := by
  unfold pull
  cases given? route "url" with
  | none => exact .throw _
  | some url =>
    refine Act.Matches.eq_iff.mp
      ((prepare_of_get hget hnow url route).bind fun request request' hrequest => ?_)
    obtain ⟨url', params, secret, secret', halike, rfl, rfl⟩ := hrequest
    refine Act.Matches.eq_iff.mpr ?_
    refine (hpage url' route params secret secret' halike).demand.bind fun page => ?_
    refine (Act.Agrees.liftExcept _).bind fun body => ?_
    split
    · exact (hwrite _).bind fun _ => .pure body
    · exact .pure body

end Parts

namespace Linked

variable {R : Scene σ → Scene τ → Prop} {V : Secret → Secret → Prop} {services : Services σ}
  {services' : Services τ} (h : Linked R V services services')

include h

theorem fetch (arn : Text) :
    Act.Matches R V (Vault.fetch services arn) (Vault.fetch services' arn) := by
  rw [Vault.fetch_eq, Vault.fetch_eq]
  refine Act.Matches.bind (Act.Matches.eq_iff.mpr (h.note _ _ _)) fun _ _ _ => ?_
  refine (h.secret arn).bind fun secret secret' halike => ?_
  refine Act.Matches.bind (V := Eq) ?_ fun _ _ _ => .pure halike
  intro s s' hs
  exact ⟨.ok rfl, h.keep arn secret secret' halike hs⟩

theorem get (arn : Text) :
    Act.Matches R V (Vault.get services arn) (Vault.get services' arn) := by
  intro s s' hs
  have hkept := h.kept hs arn
  cases hl : s.kept.lookup arn with
  | none =>
    cases hl' : s'.kept.lookup arn with
    | none =>
      rw [Vault.runOn_get_of_not_kept hl, Vault.runOn_get_of_not_kept hl']
      exact h.fetch arn hs
    | some secret' =>
      rw [hl, hl'] at hkept
      cases hkept
  | some secret =>
    cases hl' : s'.kept.lookup arn with
    | none =>
      rw [hl, hl'] at hkept
      cases hkept
    | some secret' =>
      rw [hl, hl'] at hkept
      cases hkept with
      | some halike =>
        rw [Vault.runOn_get_of_kept hl, Vault.runOn_get_of_kept hl']
        exact ⟨.ok halike, hs⟩

/-- A source is pulled alike. -/
theorem pull (route : Route) :
    Act.Agrees R (PageConnector.pull services route) (PageConnector.pull services' route) :=
  pull_of_get h.get h.now h.page h.writeAct route

end Linked

end PageConnector

end LogHarvest
