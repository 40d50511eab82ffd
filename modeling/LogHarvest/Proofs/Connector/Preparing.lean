import LogHarvest.Proofs.Connector.Lookback
import LogHarvest.Proofs.Worker.Tokens

/-!
# Pulls that cannot be prepared

A GET needs a url, a secret and a window, and each of them may be missing in its own way. What is
needed is put down in `Prepares`, by what passed between the worker and the services before and by
what they would answer now. A pull sends its GET exactly if it has all three, and what comes of it
then depends on the answer alone (`Delivers`).

Secrets are kept from one pull to the next. That what is kept is what was given in earlier pulls is
an invariant of all sequences of pulls (`remembers_after`).
-/

namespace LogHarvest

variable {σ : Type}

/-! ## What is kept -/

section Kept

variable [Json.Limits]

/-- A secret is kept for exactly the references for which one was given. -/
def Scene.Remembers (s : Scene (Traced σ)) : Prop :=
  ∀ arn, (s.kept.lookup arn).isSome = true ↔ ∃ secret, Gave s.trace arn secret

/-- The answer of the store of secrets holds a secret. -/
def Vault.Holds (arn : Text) (answer : Except Fault Json) (secret : Secret) : Prop :=
  answer >>= ofAnswer arn = .ok secret

theorem gave_append_iff {trace new : List Exchange} {arn : Text} {secret : Secret} :
    Gave (trace ++ new) arn secret ↔ Gave trace arn secret ∨ Gave new arn secret := by
  unfold Gave
  simp only [List.mem_append, or_and_right, exists_or]

theorem gave_secret_iff {arn other : Text} {answer : Except Fault Json} {secret : Secret} :
    Gave [.secret other answer] arn secret ↔ other = arn ∧ Vault.Holds arn answer secret := by
  constructor
  · rintro ⟨given, hmem, hsecret⟩
    obtain ⟨rfl, rfl⟩ := Exchange.secret.inj (List.mem_singleton.mp hmem)
    exact ⟨rfl, hsecret⟩
  · rintro ⟨rfl, hholds⟩
    obtain ⟨given, rfl, hsecret⟩ := exists_of_bind_eq_ok hholds
    exact ⟨given, List.mem_singleton_self _, hsecret⟩

theorem not_gave_page {request : PageRequest} {answer : Except Fault Page} {arn : Text}
    {secret : Secret} : ¬ Gave [.page request answer] arn secret := by
  rintro ⟨_, hmem, -⟩
  cases List.mem_singleton.mp hmem

end Kept

namespace PageConnector

/-! ## What a GET needs -/

/-- The route has a url. -/
def HasUrl (route : Route) : Prop :=
  ∃ url, route.property? (Text.ofString "url") = some url ∧ url ≠ []

/-- At this time the route has a window: it asks for none, or for one that begins at an instant with
a date. -/
def HasWindow (route : Route) (now : Instant) : Prop :=
  (∀ minutes, route.property? (Text.ofString "lookback_minutes") = some minutes → minutes = []) ∨
    ∃ n, LooksBack route n ∧ (now.minutesBefore n).HasDate

/-- What comes of the answer to a GET. -/
structure Delivers (answer : Except Fault Page) (result : Except Fault Bytes) : Prop where
  fault : ∀ fault, answer = .error fault → result = .error fault
  refused : ∀ page, answer = .ok page → 400 ≤ page.status → page.status < 600 →
    ∃ fault, result = .error fault
  body : ∀ page, answer = .ok page → ¬ (400 ≤ page.status ∧ page.status < 600) →
    page.status ≠ 204 → result = .ok page.body
  empty : result = .ok [] ↔ ∃ page, answer = .ok page ∧
    ¬ (400 ≤ page.status ∧ page.status < 600) ∧ (page.status = 204 ∨ page.body = [])

theorem delivers_logs (answer : Except Fault Page) : Delivers answer (answer >>= logs) := by
  cases answer with
  | error fault =>
    refine ⟨fun _ h => (by cases h; rfl), fun _ h => (by cases h), fun _ h => (by cases h), ?_⟩
    exact iff_of_false (fun h => by cases h) fun ⟨_, h, _⟩ => by cases h
  | ok page =>
    rw [bind_of_eq_ok rfl, logs]
    by_cases hrefused : 400 ≤ page.status ∧ page.status < 600
    · rw [if_pos hrefused]
      refine ⟨fun _ h => (by cases h), fun _ _ _ _ => ⟨_, rfl⟩, ?_, ?_⟩
      · rintro _ ⟨⟩ hnot
        exact absurd hrefused hnot
      · refine iff_of_false (fun h => by cases h) ?_
        rintro ⟨_, ⟨⟩, hnot, -⟩
        exact hnot hrefused
    · rw [if_neg hrefused]
      refine ⟨fun _ h => (by cases h), ?_, ?_, ?_⟩
      · rintro _ ⟨⟩ hfrom hto
        exact absurd ⟨hfrom, hto⟩ hrefused
      · rintro _ ⟨⟩ - hcontent
        rw [if_neg hcontent]
      · by_cases hempty : page.status = 204
        · rw [if_pos hempty]
          exact iff_of_true rfl ⟨page, rfl, hrefused, .inl hempty⟩
        · rw [if_neg hempty, Except.ok.injEq]
          refine ⟨fun hbody => ⟨page, rfl, hrefused, .inr hbody⟩, ?_⟩
          rintro ⟨_, ⟨⟩, -, hnone | hbody⟩
          · exact absurd hnone hempty
          · exact hbody

/-! ## Windows -/

section Windows

theorem given?_url_eq_some_iff {route : Route} {url : Text} :
    given? route "url" = some url ↔
      route.property? (Text.ofString "url") = some url ∧ url ≠ [] := by
  rw [given?, Option.filter_eq_some_iff]
  simp

theorem exists_given?_url_iff {route : Route} :
    (∃ url, given? route "url" = some url) ↔ HasUrl route :=
  exists_congr fun _ => given?_url_eq_some_iff

/-- A route that asks for a window has one exactly if it begins at an instant with a date. -/
theorem hasWindow_iff_of_given {route : Route} {minutes : Text}
    (hgiven : given? route "lookback_minutes" = some minutes) {now : Instant} :
    HasWindow route now ↔ ∃ n, LooksBack route n ∧ (now.minutesBefore n).HasDate := by
  obtain ⟨hproperty, hne⟩ := Option.filter_eq_some_iff.mp hgiven
  refine or_iff_right fun hnone => ?_
  rw [hnone minutes hproperty] at hne
  cases hne

variable (services : Services σ) (route : Route)

/-- The scene after the query of a route was prepared. -/
def timed (services : Services σ) (route : Route) (s : Scene σ) : Scene σ :=
  ((params services route).runOn s).2

/-- Preparing the query leaves no trace. -/
theorem timed_leads {I : Scene (Traced σ) → Prop}
    (h : ∀ s s', s'.trace = s.trace → s'.kept = s.kept → I s → I s') {s : Scene (Traced σ)}
    (hs : I s) : I (timed services.traced route s) := by
  have hleads := params_leads services.traced route (fun s hs => h s _ rfl rfl hs)
    (fun _ hs => hs) s hs
  cases hr : ((params services.traced route).runOn s).1 with
  | ok params => exact hleads.1 params hr
  | error fault => exact hleads.2 fault hr

theorem trace_timed (s : Scene (Traced σ)) : (timed services.traced route s).trace = s.trace :=
  timed_leads services route (I := fun s' => s'.trace = s.trace)
    (fun _ _ htrace _ hs => htrace.trans hs) rfl

theorem kept_timed (s : Scene (Traced σ)) : (timed services.traced route s).kept = s.kept :=
  timed_leads services route (I := fun s' => s'.kept = s.kept)
    (fun _ _ _ hkept hs => hkept.trans hs) rfl

/-- What asks for a window without a number of minutes is a fault at every time. -/
theorem queryIn_of_unread {route : Route} {minutes : Text} {fault : Integer.Fault}
    (hgiven : given? route "lookback_minutes" = some minutes)
    (hread : Integer.read minutes = .error fault) (s : Scene σ) :
    queryIn services route s = .error (.integer fault) := by
  have hsince : since (clockIn services s) minutes = .error (.integer fault) := by
    rw [since, hread]
  have hasked : (Act.ask services.now).runOn s =
      (.ok (clockIn services s), { s with outside := (services.now.run s.outside).2 }) := rfl
  rw [queryIn, params, hgiven]
  dsimp only
  rw [Act.runOn_bind_of_ok hasked, Act.runOn_bind, Act.runOn_liftM_except, hsince]

/-- The query is no fault exactly if there is a window. -/
theorem exists_queryIn_iff {s : Scene σ} (hnow : (clockIn services s).HasDate) (route : Route) :
    (∃ query, queryIn services route s = .ok query) ↔ HasWindow route (clockIn services s) := by
  cases hgiven : given? route "lookback_minutes" with
  | none =>
    refine iff_of_true ⟨[], by rw [queryIn, params, hgiven]; rfl⟩ (.inl ?_)
    exact given?_eq_none_iff.mp hgiven
  | some minutes =>
    have hproperty := given?_eq_some hgiven
    rw [hasWindow_iff_of_given hgiven]
    cases hread : Integer.read minutes with
    | error fault =>
      rw [queryIn_of_unread services hgiven hread]
      refine iff_of_false (by rintro ⟨_, ⟨⟩⟩) ?_
      rintro ⟨n, ⟨others, hothers, hn⟩, -⟩
      obtain rfl := Option.some.inj (hproperty.symm.trans hothers)
      rw [hread] at hn
      cases hn
    | ok n =>
      have hback : LooksBack route n := ⟨minutes, hproperty, hread⟩
      constructor
      · rintro ⟨query, hquery⟩
        by_contra hnone
        obtain ⟨fault, hfault⟩ := queryIn_of_no_date hnow hback fun hstart =>
          hnone ⟨n, hback, hstart⟩
        rw [hfault] at hquery
        cases hquery
      · rintro ⟨k, hk, hstart⟩
        exact ⟨_, queryIn_of_hasDate hnow hk hstart⟩

end Windows

section Preparing

variable [Json.Limits]

/-- The secret of the route was given before, or the store would give it now. -/
def HasSecret (services : Services σ) (route : Route) (s : Scene (Traced σ)) : Prop :=
  (∃ secret, Gave s.trace route.secretRef secret) ∨
    ∃ secret, Vault.Holds route.secretRef
      ((services.secret route.secretRef).run s.outside.inner).1 secret

/-- What the clock says once the secret of the route was asked for. -/
def timeOf (services : Services σ) (route : Route) (s : Scene (Traced σ)) : Instant :=
  (services.now.run ((Vault.get services.traced route.secretRef).runOn s).2.outside.inner).1

/-- A GET for the route can be prepared. -/
structure Prepares (services : Services σ) (route : Route) (s : Scene (Traced σ)) : Prop where
  url : HasUrl route
  secret : HasSecret services route s
  window : HasWindow route (timeOf services route s)

/-! ## The course of a pull -/

section Course

variable {services : Services σ} {route : Route} {s s₁ : Scene σ} {url : Text} {secret : Secret}

theorem runOn_pull_of_no_url (h : given? route "url" = none) (s : Scene σ) :
    (pull services route).runOn s = (.error .noUrl, s) := by
  rw [pull, h]
  rfl

theorem runOn_pull_of_no_secret {fault : Fault} (hurl : given? route "url" = some url)
    (hget : (Vault.get services route.secretRef).runOn s = (.error fault, s₁)) :
    (pull services route).runOn s = (.error fault, s₁) := by
  rw [pull, hurl]
  exact Act.runOn_bind_of_error (Act.runOn_bind_of_error hget _) _

theorem runOn_prepare (hget : (Vault.get services route.secretRef).runOn s = (.ok secret, s₁)) :
    (prepare services url route).runOn s =
      ((queryIn services route s₁).map fun query => ⟨url, headers route secret, query, timeout⟩,
        timed services route s₁) := by
  rw [prepare, Act.runOn_bind_of_ok hget, Act.runOn_bind, queryIn, timed]
  rcases (params services route).runOn s₁ with ⟨fault | query, s₂⟩ <;> rfl

theorem runOn_pull_of_no_window {fault : Fault} (hurl : given? route "url" = some url)
    (hget : (Vault.get services route.secretRef).runOn s = (.ok secret, s₁))
    (hquery : queryIn services route s₁ = .error fault) :
    (pull services route).runOn s = (.error fault, timed services route s₁) := by
  rw [pull, hurl]
  refine Act.runOn_bind_of_error ?_ _
  rw [runOn_prepare hget, hquery]
  rfl

theorem runOn_pull_of_query {query : List (Text × Text)} {answer : Except Fault Page}
    {outside : σ} (hurl : given? route "url" = some url)
    (hget : (Vault.get services route.secretRef).runOn s = (.ok secret, s₁))
    (hquery : queryIn services route s₁ = .ok query)
    (hpage : (services.page ⟨url, headers route secret, query, timeout⟩).run
      (timed services route s₁).outside = (answer, outside)) :
    ((pull services route).runOn s).1 = answer >>= logs ∧
      ((pull services route).runOn s).2.outside = outside ∧
      ((pull services route).runOn s).2.kept = (timed services route s₁).kept := by
  have hprepare : (prepare services url route).runOn s =
      (.ok ⟨url, headers route secret, query, timeout⟩, timed services route s₁) := by
    rw [runOn_prepare hget, hquery]
    rfl
  rw [pull, hurl]
  dsimp only
  rw [Act.runOn_bind_of_ok hprepare, Act.runOn_bind, Act.runOn_demand, hpage]
  cases answer with
  | error fault => exact ⟨rfl, rfl, rfl⟩
  | ok page =>
    dsimp only
    rw [Act.runOn_bind, Act.runOn_liftM_except, bind_of_eq_ok rfl]
    cases logs page with
    | error fault => exact ⟨rfl, rfl, rfl⟩
    | ok body =>
      dsimp only
      split <;> exact ⟨rfl, rfl, rfl⟩

end Course

/-! ## Secrets from pull to pull -/

section Secrets

variable (services : Services σ) {s : Scene (Traced σ)}

/-- What is kept stays what was given, as long as only pages are asked for. -/
theorem remembers_page {s' : Scene (Traced σ)} (hs : s.Remembers) {request : PageRequest}
    {answer : Except Fault Page} (htrace : s'.trace = s.trace ++ [.page request answer])
    (hkept : s'.kept = s.kept) : s'.Remembers := by
  intro arn
  rw [hkept, htrace, hs arn]
  simp only [gave_append_iff, not_gave_page, or_false]

/-- A secret that was given is kept, so it is got and nothing happens. -/
theorem runOn_get_of_gave (hs : s.Remembers) {arn : Text}
    (h : ∃ secret, Gave s.trace arn secret) :
    ∃ secret, (Vault.get services.traced arn).runOn s = (.ok secret, s) := by
  obtain ⟨secret, hkept⟩ := Option.isSome_iff_exists.mp ((hs arn).mpr h)
  exact ⟨secret, Vault.runOn_get_of_kept hkept⟩

/-- The store is asked for a secret that was not given yet, and a secret in the answer is kept. -/
theorem runOn_get_of_not_gave (hs : s.Remembers) {arn : Text}
    (h : ¬ ∃ secret, Gave s.trace arn secret) :
    (Vault.get services.traced arn).runOn s =
      match ((services.secret arn).run s.outside.inner).1 >>= Vault.ofAnswer arn with
      | .ok secret => (.ok secret, (Vault.asked services.traced arn s).keep arn secret)
      | .error fault => (.error fault, Vault.asked services.traced arn s) := by
  have hkept : s.kept.lookup arn = none := by
    rw [← Option.not_isSome_iff_eq_none, hs arn]
    exact h
  exact (Vault.runOn_get_of_not_kept hkept).trans (Vault.runOn_fetch services.traced arn s)

/-- What was given after the store was asked once more. -/
theorem exists_gave_asked_iff (arn other : Text) :
    (∃ secret, Gave (Vault.asked services.traced arn s).trace other secret) ↔
      (∃ secret, Gave s.trace other secret) ∨ other = arn ∧
        ∃ secret, Vault.Holds arn ((services.secret arn).run s.outside.inner).1 secret := by
  have htrace : (Vault.asked services.traced arn s).trace =
      s.trace ++ [.secret arn ((services.secret arn).run s.outside.inner).1] := rfl
  rw [htrace]
  simp only [gave_append_iff, gave_secret_iff, exists_or]
  refine or_congr_right ⟨?_, ?_⟩
  · rintro ⟨secret, rfl, hholds⟩
    exact ⟨rfl, secret, hholds⟩
  · rintro ⟨rfl, secret, hholds⟩
    exact ⟨secret, rfl, hholds⟩

theorem remembers_get (hs : s.Remembers) (arn : Text) :
    ((Vault.get services.traced arn).runOn s).2.Remembers := by
  by_cases hgave : ∃ secret, Gave s.trace arn secret
  · obtain ⟨secret, hget⟩ := runOn_get_of_gave services hs hgave
    rw [hget]
    exact hs
  · have hgiven := exists_gave_asked_iff services (s := s) arn
    rw [runOn_get_of_not_gave services hs hgave]
    unfold Vault.Holds at hgiven
    cases hanswer : ((services.secret arn).run s.outside.inner).1 >>= Vault.ofAnswer arn with
    | error fault =>
      intro other
      have hother := hgiven other
      rw [hanswer] at hother
      refine (hs other).trans (Iff.trans ?_ hother.symm)
      simp
    | ok secret =>
      intro other
      have hother := hgiven other
      rw [hanswer] at hother
      refine Iff.trans ?_ hother.symm
      rw [Scene.lookup_keep, Option.isSome_or, Bool.or_eq_true, ← hs other]
      refine or_congr Iff.rfl ?_
      by_cases hsame : other = arn <;> simp [hsame]

/-- A secret is got that was given before, or that the store gives now. -/
theorem get_eq_ok_iff (hs : s.Remembers) (arn : Text) :
    (∃ secret, ((Vault.get services.traced arn).runOn s).1 = .ok secret) ↔
      (∃ secret, Gave s.trace arn secret) ∨
        ∃ secret, Vault.Holds arn ((services.secret arn).run s.outside.inner).1 secret := by
  by_cases hgave : ∃ secret, Gave s.trace arn secret
  · obtain ⟨secret, hget⟩ := runOn_get_of_gave services hs hgave
    exact iff_of_true ⟨secret, by rw [hget]⟩ (.inl hgave)
  · rw [runOn_get_of_not_gave services hs hgave, or_iff_right hgave]
    unfold Vault.Holds
    cases ((services.secret arn).run s.outside.inner).1 >>= Vault.ofAnswer arn with
    | error fault => exact Iff.rfl
    | ok secret => exact Iff.rfl

end Secrets

/-! ## Pulls one after another -/

section Pulls

variable (services : Services σ) (hclock : ∀ outside, (services.now.run outside).1.HasDate)

/-- The scene after pulls of these routes. -/
def after (services : Services σ) (routes : List Route) (s : Scene σ) : Scene σ :=
  routes.foldl (fun s route => ((pull services route).runOn s).2) s

/-- What a pull can come to. -/
inductive Course (services : Services σ) (route : Route) (s : Scene (Traced σ)) :
    Except Fault Bytes × Scene (Traced σ) → Prop
  | noUrl (hurl : ¬ HasUrl route) : Course services route s (.error .noUrl, s)
  | noSecret {fault : Fault} (hurl : HasUrl route) (hsecret : ¬ HasSecret services route s) :
    Course services route s
      (.error fault, ((Vault.get services.traced route.secretRef).runOn s).2)
  | noWindow {fault : Fault} (hurl : HasUrl route) (hsecret : HasSecret services route s)
    (hwindow : ¬ HasWindow route (timeOf services route s)) :
    Course services route s
      (.error fault,
        timed services.traced route ((Vault.get services.traced route.secretRef).runOn s).2)
  | sent {request : PageRequest} {answer : Except Fault Page} {s' : Scene (Traced σ)}
    (hprepares : Prepares services route s)
    (hurl : route.property? (Text.ofString "url") = some request.url)
    (htrace : s'.trace = ((Vault.get services.traced route.secretRef).runOn s).2.trace ++
      [.page request answer])
    (hkept : s'.kept = ((Vault.get services.traced route.secretRef).runOn s).2.kept) :
    Course services route s (answer >>= logs, s')

include hclock

/-- The step lemma: there is no other course. -/
theorem course_pull {s : Scene (Traced σ)} (hs : s.Remembers) (route : Route) :
    Course services route s ((pull services.traced route).runOn s) := by
  by_cases hurl : HasUrl route
  · obtain ⟨url, hgiven⟩ := exists_given?_url_iff.mpr hurl
    have hsecret : _ ↔ HasSecret services route s := get_eq_ok_iff services hs route.secretRef
    have hwindow : (∃ query, queryIn services.traced route
          ((Vault.get services.traced route.secretRef).runOn s).2 = .ok query) ↔
        HasWindow route (timeOf services route s) :=
      exists_queryIn_iff services.traced (hclock _) route
    cases hgot : ((Vault.get services.traced route.secretRef).runOn s).1 with
    | error fault =>
      rw [runOn_pull_of_no_secret hgiven (Prod.ext hgot rfl)]
      refine .noSecret hurl fun h => ?_
      obtain ⟨secret, hsome⟩ := hsecret.mpr h
      rw [hgot] at hsome
      cases hsome
    | ok secret =>
      have hhas := hsecret.mp ⟨secret, hgot⟩
      cases hquery : queryIn services.traced route
          ((Vault.get services.traced route.secretRef).runOn s).2 with
      | error fault =>
        rw [runOn_pull_of_no_window hgiven (Prod.ext hgot rfl) hquery]
        refine .noWindow hurl hhas fun h => ?_
        obtain ⟨query, hsome⟩ := hwindow.mpr h
        rw [hquery] at hsome
        cases hsome
      | ok query =>
        have hsent := runOn_pull_of_query hgiven (Prod.ext hgot rfl) hquery rfl
        generalize (pull services.traced route).runOn s = r at hsent ⊢
        obtain ⟨result, s'⟩ := r
        obtain ⟨rfl, houtside, hkept⟩ := hsent
        let request : PageRequest := ⟨url, headers route secret, query, timeout⟩
        have hurl' : route.property? (Text.ofString "url") = some request.url :=
          given?_eq_some hgiven
        refine .sent ⟨hurl, hhas, hwindow.mp ⟨query, hquery⟩⟩ hurl' ?_
          (hkept.trans (kept_timed services route _))
        rw [← trace_timed services route ((Vault.get services.traced route.secretRef).runOn s).2]
        exact congrArg Traced.exchanges houtside
  · have hnone : given? route "url" = none := by
      rw [Option.eq_none_iff_forall_ne_some]
      exact fun url hgiven => hurl (exists_given?_url_iff.mp ⟨url, hgiven⟩)
    rw [runOn_pull_of_no_url hnone]
    exact .noUrl hurl

theorem remembers_pull {s : Scene (Traced σ)} (hs : s.Remembers) (route : Route) :
    ((pull services.traced route).runOn s).2.Remembers := by
  have hget := remembers_get services hs route.secretRef
  generalize hpull : (pull services.traced route).runOn s = r
  have hcourse := course_pull services hclock hs route
  rw [hpull] at hcourse
  cases hcourse with
  | noUrl => exact hs
  | noSecret => exact hget
  | noWindow =>
    intro arn
    rw [kept_timed, trace_timed]
    exact hget arn
  | sent _ _ htrace hkept => exact remembers_page hget htrace hkept

/-- The run lemma. -/
theorem remembers_after (routes : List Route) {s : Scene (Traced σ)} (hs : s.Remembers) :
    (after services.traced routes s).Remembers := by
  induction routes generalizing s with
  | nil => exact hs
  | cons route routes ih => exact ih (remembers_pull services hclock hs route)

/--
**A pull that cannot be prepared sends nothing.**

Let a clock only show times with a date, and make any pulls one after another, whatever the services
answer. Then take one more pull. Without a url nothing is asked for, not even a secret. The pull can
be prepared if there is a url, if its secret was given in an earlier pull or is given now, and if it
asks for no window or for one with a start. If it cannot be prepared, it is a fault and no page is
asked for. If it can, exactly one page is asked for, and the answer decides: a fault of the service
and a status from 400 to 599 are faults, nothing comes of the status 204, and of every other status
comes the body.
-/
theorem sends_only_what_is_prepared (outside : σ) (earlier : List Route) (route : Route) :
    let s := after services.traced earlier (.start ⟨outside, []⟩)
    let r := (pull services.traced route).runOn s
    (¬ HasUrl route → r.2.trace = s.trace) ∧
    (¬ Prepares services route s →
      (∃ fault, r.1 = .error fault) ∧ r.2.requests = s.requests) ∧
    (Prepares services route s → ∃ request answer,
      route.property? (Text.ofString "url") = some request.url ∧
      r.2.requests = s.requests ++ [request] ∧
      r.2.trace.getLast? = some (.page request answer) ∧ Delivers answer r.1) := by
  intro s r
  have hs : s.Remembers := by
    refine remembers_after services hclock earlier fun arn => ?_
    refine iff_of_false (by simp [Scene.start]) ?_
    rintro ⟨_, _, hmem, -⟩
    cases hmem
  have hget : ((Vault.get services.traced route.secretRef).runOn s).2.requests = s.requests :=
    requests_get services route.secretRef s
  have hcourse : Course services route s r := course_pull services hclock hs route
  clear_value r
  cases hcourse with
  | noUrl hurl =>
    exact ⟨fun _ => rfl, fun _ => ⟨⟨_, rfl⟩, rfl⟩, fun h => absurd h.url hurl⟩
  | noSecret hurl hsecret =>
    exact ⟨fun h => absurd hurl h, fun _ => ⟨⟨_, rfl⟩, hget⟩, fun h => absurd h.secret hsecret⟩
  | noWindow hurl hsecret hwindow =>
    have htimed : (timed services.traced route
        ((Vault.get services.traced route.secretRef).runOn s).2).requests = s.requests := by
      rw [Scene.requests, trace_timed]
      exact hget
    exact ⟨fun h => absurd hurl h, fun _ => ⟨⟨_, rfl⟩, htimed⟩, fun h => absurd h.window hwindow⟩
  | sent hprepares hurl htrace hkept =>
    refine ⟨fun h => absurd hprepares.url h, fun h => absurd hprepares h, fun _ =>
      ⟨_, _, hurl, ?_, ?_, delivers_logs _⟩⟩
    · rw [← hget, Scene.requests, htrace, List.filterMap_append]
      rfl
    · rw [htrace, List.getLast?_concat]

end Pulls

end Preparing

/-! ### Over a counter -/

attribute [local instance] Platform.builtIn

/-- A route with a window that is no number. -/
def soonRoute : Route := ⟨"A", type, [("url", "u"), ("lookback_minutes", "soon")]⟩

theorem soonRoute_has_no_window (now : Instant) : ¬ HasWindow soonRoute now := by
  have hminutes : soonRoute.property? (Text.ofString "lookback_minutes") =
      some (Text.ofString "soon") := rfl
  have hread : Integer.read "soon" = .error (.notSpelled 10 "soon") := by cbv
  rintro (hnone | ⟨n, ⟨minutes, hgiven, hspelled⟩, -⟩)
  · cases hnone _ hminutes
  · obtain rfl := Option.some.inj (hminutes.symm.trans hgiven)
    rw [hread] at hspelled
    cases hspelled

/-- A pull that fails for its window sends nothing, but the secret that was given in it is there for
the next pull. -/
theorem failing_pull_leaves_secret :
    let services := Counter.services (Counter.stored "t")
    let s := after services.traced [soonRoute] (.start ⟨(), []⟩)
    let r := (pull services.traced plainRoute).runOn s
    (∀ outside, (services.now.run outside).1.HasDate) ∧
      ¬ Prepares services soonRoute (.start ⟨(), []⟩) ∧ s.requests = [] ∧
      (∃ secret, Gave s.trace "A" secret) ∧ Prepares services plainRoute s ∧
      ∃ request answer, r.2.requests = [request] ∧ Delivers answer r.1 := by
  intro services s r
  have hfirst : (⟨0, 0⟩ : Instant).HasDate := Instant.hasDate_iff.mpr (by decide)
  have hclock : ∀ outside, (services.now.run outside).1.HasDate := fun _ => hfirst
  have hunprepared : ¬ Prepares services soonRoute (.start ⟨(), []⟩) := fun h =>
    soonRoute_has_no_window _ h.window
  obtain ⟨-, hnothing, -⟩ := sends_only_what_is_prepared services hclock () [] soonRoute
  have hrequests : s.requests = [] := (hnothing hunprepared).2
  let stored := Json.object [("SecretString", .string (Counter.stored "t" "A"))]
  have htrace : s.trace = [.secret "A" (.ok stored)] := by
    unfold s services
    cbv
  have hsecret : Vault.ofAnswer "A" stored = .ok [("api_token", "tA")] := by
    unfold stored
    cbv
  have hgave : ∃ secret, Gave s.trace "A" secret :=
    ⟨_, stored, by rw [htrace]; exact List.mem_singleton_self _, hsecret⟩
  have hprepares : Prepares services plainRoute s :=
    ⟨⟨"u", rfl, by decide⟩, .inl hgave, .inl fun _ h => by cases h⟩
  obtain ⟨-, -, hsent⟩ := sends_only_what_is_prepared services hclock () [soonRoute] plainRoute
  obtain ⟨request, answer, -, hone, -, hdelivers⟩ := hsent hprepares
  refine ⟨hclock, hunprepared, hrequests, hgave, hprepares, request, answer, ?_, hdelivers⟩
  exact hone.trans (congrArg (· ++ [request]) hrequests)

end PageConnector

end LogHarvest
