import LogHarvest.Proofs.Catalog.LastAccepted
import LogHarvest.Proofs.Shelf
import LogHarvest.Proofs.Worker.Exchange
import Mathlib

/-!
# Credentials stay with their source

A worker keeps the secrets that it was given, for all sources together. Whether a page may be asked
for with a token does not depend on what is kept at the moment but on where it came from: every
secret that is kept was given for the reference under which it is kept (`Vouched`). Pulls keep it
that way, and from it follows what they send (`pull_goes`); so does every move of a batch, every
event and every sequence of events.
-/

namespace LogHarvest

variable {σ : Type}

/-! ## Where secrets come from -/

/-- In these exchanges the store gave this secret for this reference. -/
def Gave [Json.Limits] (trace : List Exchange) (arn : Text) (secret : Secret) : Prop :=
  ∃ answer, .secret arn (.ok answer) ∈ trace ∧ Vault.ofAnswer arn answer = .ok secret

theorem Gave.mono [Json.Limits] {trace trace' : List Exchange} {arn : Text} {secret : Secret}
    (h : Gave trace arn secret) (hsub : trace <+: trace') : Gave trace' arn secret := by
  obtain ⟨answer, hmem, hsecret⟩ := h
  exact ⟨answer, hsub.subset hmem, hsecret⟩

/-- Every secret that is kept was given for the reference under which it is kept. -/
def Scene.Vouched [Json.Limits] (s : Scene (Traced σ)) : Prop := ∀ e ∈ s.kept, Gave s.trace e.1 e.2

/-! ## Pages in a trace -/

/-- What is said of a page that is asked for: the exchanges before it, the request and the
answer. -/
abbrev PageRule := List Exchange → PageRequest → Except Fault Page → Prop

/-- The later trace continues the earlier one, and all pages in between keep to the rule. -/
structure Continues (Q : PageRule) (earlier later : List Exchange) : Prop where
  grows : earlier <+: later
  pages : ∀ before request answer, earlier <+: before →
    before ++ [.page request answer] <+: later → Q before request answer

namespace Continues

variable {Q : PageRule} {first second third : List Exchange}

theorem refl (trace : List Exchange) : Continues Q trace trace where
  grows := List.prefix_rfl
  pages before request answer h h' := by
    have := h.length_le
    have := h'.length_le
    simp only [List.length_append, List.length_singleton] at this
    omega

theorem trans (h : Continues Q first second) (h' : Continues Q second third) :
    Continues Q first third where
  grows := h.grows.trans h'.grows
  pages before request answer hfirst hthird := by
    -- the page comes in the first part or behind it
    by_cases hlength : before.length + 1 ≤ second.length
    · refine h.pages before request answer hfirst ?_
      exact List.prefix_of_prefix_length_le hthird h'.grows (by simpa using hlength)
    · refine h'.pages before request answer ?_ hthird
      exact List.prefix_of_prefix_length_le h'.grows ((List.prefix_append _ _).trans hthird)
        (by omega)

theorem mono {Q' : PageRule} (h : Continues Q first second)
    (hQ : ∀ before request answer, first <+: before →
      before ++ [.page request answer] <+: second → Q before request answer →
      Q' before request answer) : Continues Q' first second where
  grows := h.grows
  pages before request answer hfirst hsecond :=
    hQ before request answer hfirst hsecond (h.pages before request answer hfirst hsecond)

/-- One exchange more: if it is a page, it has to keep to the rule. -/
theorem concat (trace : List Exchange) (exchange : Exchange)
    (h : ∀ request answer, exchange = .page request answer → Q trace request answer) :
    Continues Q trace (trace ++ [exchange]) where
  grows := List.prefix_append _ _
  pages before request answer hfirst hsecond := by
    have hlength := hsecond.length_le
    simp only [List.length_append, List.length_singleton] at hlength
    have hbefore : before = trace :=
      (List.IsPrefix.eq_of_length_le hfirst (by omega)).symm
    subst hbefore
    have hlast := hsecond.eq_of_length (by simp)
    refine h request answer ?_
    exact (List.append_cancel_left hlast |> List.singleton_inj.mp).symm

end Continues

/-! ## Preparing a pull -/

namespace PageConnector

theorem given?_eq_some {route : Route} {name : String} {t : Text} (h : given? route name = some t) :
    route.property? (Text.ofString name) = some t :=
  (Option.filter_eq_some_iff.mp h).1

/-- The query asks for the time at most. -/
theorem params_leads (services : Services σ) (route : Route) {I E : Scene σ → Prop}
    (hnow : ∀ s, I s → I { s with outside := (services.now.run s.outside).2 })
    (hE : ∀ s, I s → E s) : Act.Leads I (params services route) (fun _ => I) E := by
  unfold params
  split
  · exact .pure fun _ hs => hs
  · refine Act.Leads.bind (J := fun _ => I) (.ask hnow) fun now => ?_
    exact Act.Leads.bind (J := fun _ => I) (.liftExcept (fun _ _ _ hs => hs) hE)
      fun _ => .pure fun _ hs => hs

end PageConnector

/-! ## What a worker keeps to -/

section Pulls

variable [Json.Limits]

/-- The secrets that are kept are vouched for, and since the given trace all pages kept to the
rule. -/
structure Scene.Goes (Q : PageRule) (start : List Exchange) (s : Scene (Traced σ)) : Prop where
  vouched : s.Vouched
  continues : Continues Q start s.trace

namespace Scene.Goes

variable {Q : PageRule} {start : List Exchange} {s : Scene (Traced σ)}

/-- Whatever leaves the trace and the secrets alone is of no account. -/
theorem of_eq {s' : Scene (Traced σ)} (h : s.Goes Q start) (htrace : s'.trace = s.trace)
    (hkept : s'.kept = s.kept) : s'.Goes Q start where
  vouched := by
    rw [Scene.Vouched, htrace, hkept]
    exact h.vouched
  continues := by
    rw [htrace]
    exact h.continues

/-- One exchange more, and the secrets as before. -/
theorem concat {s' : Scene (Traced σ)} (h : s.Goes Q start) {exchange : Exchange}
    (htrace : s'.trace = s.trace ++ [exchange]) (hkept : s'.kept = s.kept)
    (hpage : ∀ request answer, exchange = .page request answer → Q s.trace request answer) :
    s'.Goes Q start where
  vouched := by
    rw [Scene.Vouched, htrace, hkept]
    intro e he
    exact (h.vouched e he).mono (List.prefix_append _ _)
  continues := by
    rw [htrace]
    exact h.continues.trans (.concat s.trace exchange hpage)

/-- A secret may be kept that was given for its reference. -/
theorem keep (h : s.Goes Q start) {arn : Text} {secret : Secret} (hgave : Gave s.trace arn secret) :
    (s.keep arn secret).Goes Q start where
  vouched := by
    intro e he
    rcases List.mem_append.mp he with he | he
    · exact h.vouched e he
    · rw [List.mem_singleton.mp he]
      exact hgave
  continues := h.continues

end Scene.Goes

/-! ## Pulls -/

namespace PageConnector

/-- The request is one for the route: it goes to the url of the route, and if it carries a token,
that is the token of a secret that was given before for the reference of the route. -/
structure SentFor (route : Route) (before : List Exchange) (request : PageRequest) : Prop where
  url : route.property? (Text.ofString "url") = some request.url
  headers : request.headers = [accept] ∨
    ∃ secret token, Gave before route.secretRef secret ∧
      secret.lookup (Text.ofString "api_token") = some token ∧ token ≠ [] ∧
      request.headers = headersWith (given? route "token_header") token

/-- The rule for the pages of a route. -/
def rule (route : Route) : PageRule := fun before request _ => SentFor route before request

theorem sentFor_of_gave {route : Route} {before : List Exchange} {secret : Secret} {url : Text}
    (hurl : given? route "url" = some url) (hgave : Gave before route.secretRef secret)
    (params : List (Text × Text)) :
    SentFor route before ⟨url, headers route secret, params, timeout⟩ where
  url := given?_eq_some hurl
  headers := by
    cases htoken : token? secret with
    | none => exact Or.inl (headers_of_no_token htoken route)
    | some token =>
      obtain ⟨hlookup, hne⟩ := token?_eq_some htoken
      exact Or.inr ⟨secret, token, hgave, hlookup, hne, headers_of_token htoken route⟩

variable (services : Services σ) {Q : PageRule} {start : List Exchange}

theorem demand_leads (arn : Text) :
    Act.Leads (Scene.Goes Q start) (Vault.demand services.traced arn)
      (fun secret s => s.Goes Q start ∧ Gave s.trace arn secret) (Scene.Goes Q start) := by
  have hsecret : ∀ (s : Scene (Traced σ)), s.Goes Q start →
      ({ s with outside := ((services.traced.secret arn).run s.outside).2 } :
        Scene (Traced σ)).Goes Q start :=
    fun s hs => hs.concat rfl rfl fun request answer h => (by cases h)
  refine Act.Leads.bind (J := fun answer s => s.Goes Q start ∧
    .secret arn (.ok answer) ∈ s.trace) (.demand ?_ hsecret) fun answer => ?_
  · intro s answer hs hanswer
    refine ⟨hsecret s hs, List.mem_append_right _ ?_⟩
    rw [← hanswer]
    exact List.mem_singleton_self _
  · refine .liftExcept ?_ fun s hs => hs.1
    rintro secret s hread ⟨hs, hmem⟩
    exact ⟨hs, answer, hmem, hread⟩

theorem fetch_leads (arn : Text) :
    Act.Leads (Scene.Goes Q start) (Vault.fetch services.traced arn)
      (fun secret s => s.Goes Q start ∧ Gave s.trace arn secret) (Scene.Goes Q start) := by
  rw [Vault.fetch_eq]
  refine Act.Leads.bind (J := fun _ => Scene.Goes Q start) (.write fun s hs => hs.of_eq rfl rfl)
    fun _ => ?_
  refine .bind (demand_leads services arn) fun secret => ?_
  refine Act.Leads.bind (J := fun _ s => s.Goes Q start ∧ Gave s.trace arn secret)
    (.modify ?_) fun _ => .pure fun s hs => hs
  rintro s ⟨hs, hgave⟩
  exact ⟨hs.keep hgave, hgave⟩

/-- A secret that is got was given for its reference, at once or before. -/
theorem get_leads (arn : Text) :
    Act.Leads (Scene.Goes Q start) (Vault.get services.traced arn)
      (fun secret s => s.Goes Q start ∧ Gave s.trace arn secret) (Scene.Goes Q start) := by
  intro s hs
  cases hl : s.kept.lookup arn with
  | none =>
    rw [Vault.runOn_get_of_not_kept hl]
    exact fetch_leads services arn s hs
  | some secret =>
    rw [Vault.runOn_get_of_kept hl]
    obtain ⟨before, after, hkept, -⟩ := List.lookup_eq_some_iff.mp hl
    refine ⟨?_, fun _ h => (by cases h)⟩
    rintro _ ⟨⟩
    exact ⟨hs, hs.vouched (arn, secret) (by simp [hkept])⟩

theorem prepare_leads {route : Route} {url : Text} (hurl : given? route "url" = some url) :
    Act.Leads (Scene.Goes Q start) (prepare services.traced url route)
      (fun request s => s.Goes Q start ∧ SentFor route s.trace request)
      (Scene.Goes Q start) := by
  refine .bind (get_leads services route.secretRef) fun secret => ?_
  refine Act.Leads.bind (J := fun _ s => s.Goes Q start ∧ Gave s.trace route.secretRef secret)
    (params_leads services.traced route ?_ fun s hs => hs.1) fun params => .pure ?_
  · rintro s ⟨hs, hgave⟩
    exact ⟨hs.of_eq rfl rfl, hgave⟩
  · rintro s ⟨hs, hgave⟩
    exact ⟨hs, sentFor_of_gave hurl hgave params⟩

/-- A pull asks for pages of its route only, whatever is kept. -/
theorem pull_leads (route : Route) :
    Act.Leads (Scene.Goes (rule route) start) (pull services.traced route)
      (fun _ => Scene.Goes (rule route) start) (Scene.Goes (rule route) start) := by
  unfold pull
  cases hurl : given? route "url" with
  | none => exact .throw fun s hs => hs
  | some url =>
    refine .bind (prepare_leads services hurl) fun request => ?_
    have hpage : ∀ (s : Scene (Traced σ)), s.Goes (rule route) start ∧
        SentFor route s.trace request →
        ({ s with outside := ((services.traced.page request).run s.outside).2 } :
          Scene (Traced σ)).Goes (rule route) start := by
      rintro s ⟨hs, hsent⟩
      refine hs.concat rfl rfl ?_
      rintro _ answer ⟨⟩
      exact hsent
    refine Act.Leads.bind (J := fun _ => Scene.Goes (rule route) start)
      (.demand (fun s page hs _ => hpage s hs) hpage) fun page => ?_
    refine Act.Leads.bind (J := fun _ => Scene.Goes (rule route) start)
      (.liftExcept (fun _ _ _ hs => hs) fun _ hs => hs) fun body => ?_
    split
    · exact Act.Leads.bind (J := fun _ => Scene.Goes (rule route) start)
        (.write fun s hs => hs.of_eq rfl rfl) fun _ => .pure fun _ hs => hs
    · exact .pure fun _ hs => hs

end PageConnector

end Pulls

/-! ## Batches -/

namespace Pipeline

/-- In the run of a floor this ticket is moved, from the first scene to the second. -/
def Moving (p : Pipeline σ) (services : Services σ) (f : Floor) (s : Scene σ) (t : Ticket)
    (s₁ s₂ : Scene σ) : Prop :=
  ∃ n f₁ i, (p.moves services n f).run s = (f₁, s₁) ∧ f₁.next = some i ∧
    f₁.tickets[i]? = some t ∧ s₂ = ((p.move services f₁ i t).run s₁).2

end Pipeline

namespace Worker

variable [Platform] (services : Services σ) (routing : Routing) (writer : ArchiveWriter)
  (cap : Option Int) {Q : PageRule} {start : List Exchange}

/-- The scene, where it has the property. -/
def Holding (I : Scene σ → Prop) (s s' : Scene σ) : Prop := s = s' ∧ I s

theorem linked_holding : LogHarvest.Linked (Holding (Scene.Goes Q start)) services.traced
    services.traced where
  write := by
    rintro lines s _ ⟨rfl, hs⟩
    exact ⟨rfl, hs.of_eq rfl rfl⟩
  pass := by
    rintro seconds s _ ⟨rfl, hs⟩
    exact ⟨rfl, hs.of_eq rfl rfl⟩
  freshId := .of_runOn <| by
    rintro s _ ⟨rfl, hs⟩
    exact ⟨rfl, rfl, hs.of_eq rfl rfl⟩
  store object := .of_runOn <| by
    rintro s _ ⟨rfl, hs⟩
    exact ⟨rfl, rfl, hs.concat rfl rfl fun request answer h => (by cases h)⟩

/-- Archiving asks for no pages. -/
theorem settle_goes (data : Bytes) (source : Text) {s : Scene (Traced σ)} (hs : s.Goes Q start) :
    (((make services.traced routing writer cap).settle services.traced data source).run s).2.Goes
      Q start := by
  have hsettle : Agree (Holding (Scene.Goes Q start))
      ((make services.traced routing writer cap).settle services.traced data source)
      ((make services.traced routing writer cap).settle services.traced data source) := by
    refine Agree.bind ((linked_holding services).archive writer data source) fun r => ?_
    cases r <;> exact Agree.pure _
  exact (hsettle ⟨rfl, hs⟩).2.2

/-- The step lemma: a move asks for pages of the ticket that it moves, and for no others. -/
theorem move_goes (f : Floor) (i : Nat) (t : Ticket) {s : Scene (Traced σ)}
    (hs : s.Goes (PageConnector.rule t.task.route) start) :
    (((make services.traced routing writer cap).move services.traced f i t).run s).2.Goes
      (PageConnector.rule t.task.route) start := by
  unfold Pipeline.move
  cases t.stage with
  | waiting =>
    show (((make services.traced routing writer cap).begin t.task).run s).2.Goes _ start
    rw [begin_make]
    split
    · obtain ⟨hok, herror⟩ := PageConnector.pull_leads services t.task.route s hs
      show ((PageConnector.pull services.traced t.task.route).runOn s).2.Goes _ start
      cases hr : ((PageConnector.pull services.traced t.task.route).runOn s).1 with
      | ok body => exact hok body hr
      | error fault => exact herror fault hr
    · exact hs
  | pulling answer => exact hs.of_eq rfl rfl
  | archiving data => exact settle_goes services routing writer cap data t.task.source hs
  | settled outcome => exact hs
  | released outcome => exact hs.of_eq rfl rfl
  | done outcome => exact hs
  | halted order => exact hs

/-- While the ticket is moved from the first scene to the second, a page of its route is asked
for. -/
structure AskedFor (t : Ticket) (s₁ s₂ : Scene (Traced σ)) (before : List Exchange)
    (request : PageRequest) (answer : Except Fault Page) : Prop where
  begins : s₁.trace <+: before
  ends : before ++ [.page request answer] <+: s₂.trace
  sent : PageConnector.SentFor t.task.route before request

/-- The rule allows pages of the tickets that are moved. -/
def Allows (Q : PageRule) (moving : Ticket → Scene (Traced σ) → Scene (Traced σ) → Prop) : Prop :=
  ∀ t s₁ s₂, moving t s₁ s₂ → ∀ before request answer,
    AskedFor t s₁ s₂ before request answer → Q before request answer

/-- The run lemma: all pages of a run are asked for while a ticket of their route is moved. -/
theorem moves_goes (n : Nat) (f : Floor) {s : Scene (Traced σ)} (hs : s.Goes Q start)
    (hQ : Allows Q ((make services.traced routing writer cap).Moving services.traced f s)) :
    (((make services.traced routing writer cap).moves services.traced n f).run s).2.Goes
      Q start := by
  induction n generalizing f s with
  | zero => exact hs
  | succ n ih =>
    cases hnext : f.next.bind fun i => f.tickets[i]?.map fun t => (i, t) with
    | none =>
      simp only [Pipeline.moves, hnext]
      exact hs
    | some it =>
      obtain ⟨i, t⟩ := it
      obtain ⟨hi, ht⟩ := Pipeline.next_of_bind hnext
      have hmove := move_goes services routing writer cap f i t ⟨hs.vouched, .refl s.trace⟩
      simp only [Pipeline.moves, hnext, StateT.run_bind]
      refine ih _ ⟨hmove.vouched, hs.continues.trans (hmove.continues.mono ?_)⟩ ?_
      · intro before request answer hbegins hends hsent
        exact hQ t s _ ⟨0, f, i, rfl, hi, ht, rfl⟩ before request answer ⟨hbegins, hends, hsent⟩
      · -- a move of the rest is a move of the whole run, one place later
        rintro t' s₁ s₂ ⟨m, f₁, j, hrun, hj, ht', hs₂⟩
        refine hQ t' s₁ s₂ ⟨m + 1, f₁, j, ?_, hj, ht', hs₂⟩
        simp only [Pipeline.moves, hnext, StateT.run_bind]
        exact hrun

/-! ## Events -/

/-- While the event is handled this ticket is moved, from the first scene to the second. -/
def Moving (p : Pipeline σ) (services : Services σ) (event : Json) (s : Scene σ) (t : Ticket)
    (s₁ s₂ : Scene σ) : Prop :=
  ∃ messages verdicts free, Dispatches p event messages verdicts free ∧
    p.Moving services (Pipeline.dispatch verdicts free) (dispatched verdicts s) t s₁ s₂

theorem handle_goes (event : Json) {s : Scene (Traced σ)} (hs : s.Goes Q start)
    (hQ : Allows Q (Moving (make services.traced routing writer cap) services.traced event s)) :
    ((handle (make services.traced routing writer cap) services.traced event).runOn s).2.Goes
      Q start := by
  rcases handle_cases (make services.traced routing writer cap) services.traced event s with
    ⟨lines, hafter⟩ | ⟨messages, verdicts, free, lines, hdispatches, hafter⟩
  · rw [hafter]
    exact hs.of_eq rfl rfl
  · rw [hafter]
    have hrun := moves_goes services routing writer cap
      (Pipeline.dispatch verdicts free).todo (Pipeline.dispatch verdicts free)
      (s := dispatched verdicts s) (hs.of_eq rfl rfl)
      fun t s₁ s₂ hmoving => hQ t s₁ s₂ ⟨messages, verdicts, free, hdispatches, hmoving⟩
    exact hrun.of_eq rfl rfl

/-- The pages of a sequence of events: each is asked for while a ticket of one event is moved. -/
theorem serve_goes (events : List Json) {s : Scene (Traced σ)} (hs : s.Goes Q start)
    (hQ : ∀ earlier event later, events = earlier ++ event :: later →
      Allows Q (Moving (make services.traced routing writer cap) services.traced event
        (serve (make services.traced routing writer cap) services.traced earlier s))) :
    (serve (make services.traced routing writer cap) services.traced events s).Goes Q start := by
  induction events generalizing s with
  | nil => exact hs
  | cons event events ih =>
    refine ih (handle_goes services routing writer cap event hs (hQ [] event events rfl)) ?_
    rintro earlier event' later rfl
    exact hQ (event :: earlier) event' later rfl

end Worker

/-! ## Whom a ticket is for -/

/-- A ticket that is moved is for one of the messages, and goes the route of its source. -/
theorem Pipeline.message_of_moving [Json.Limits] {p : Pipeline σ} {services : Services σ}
    {messages : List Message} {verdicts : List Verdict} {free : Option Nat} {s s₁ s₂ : Scene σ}
    {t : Ticket} (hjudged : Verdict.Judged p.routing messages verdicts)
    (h : p.Moving services (dispatch verdicts free) s t s₁ s₂) :
    ∃ m ∈ messages, m.id = t.task.id ∧ PullRequest.ofBody m.body = .ok t.task.request ∧
      p.routing.find? t.task.source = some t.task.route := by
  obtain ⟨n, f₁, i, hrun, -, ht, -⟩ := h
  -- moves leave the tasks as they were dispatched
  have hreachable := (p.moves_spec services n (dispatch verdicts free) s).1
  rw [hrun] at hreachable
  have htasks := ((Floor.accounted_start (verdicts.filterMap Verdict.task?) free
    (verdicts.filterMap Verdict.failure?)).moves hreachable).tasks_eq
  have hmem : t.task ∈ verdicts.filterMap Verdict.task? := by
    rw [← htasks]
    exact List.mem_map_of_mem (List.mem_of_getElem? ht)
  obtain ⟨verdict, hverdict, htask⟩ := List.mem_filterMap.mp hmem
  obtain ⟨m, hm, hjudge⟩ := Verdict.exists_message_of_mem hjudged hverdict
  cases Verdict.given_of_eq_ok hjudge with
  | dropped => cases htask
  | malformed => cases htask
  | unknown => cases htask
  | ready hid hbody hroute =>
    rw [← Option.some.inj htask]
    exact ⟨m, hm, rfl, hbody, hroute⟩

/-- A property of a route, but for the type, stands in the declaration of its source. -/
theorem Routing.mem_properties_of_property? {source : LogSource} {arn name t : Text}
    (hname : name ≠ Route.typeProperty)
    (h : (Routing.routeOf source arn).property? name = some t) :
    (.text name, .text t) ∈ source.properties := by
  have hlookup : (source.properties.filterMap Route.textEntry?).lookup name = some t := by
    rw [Routing.routeOf, Route.property?, Route.propertiesOf, lookup_putNamed, if_neg hname] at h
    exact h
  obtain ⟨before, after, hsplit, -⟩ := List.lookup_eq_some_iff.mp hlookup
  obtain ⟨e, he, hentry⟩ := List.mem_filterMap.mp
    (hsplit ▸ List.mem_append_right before List.mem_cons_self)
  rwa [Route.textEntry?_eq_some_iff.mp hentry] at he

namespace Worker

theorem exists_of_ofEnvironment [Json.Limits] {env : Environment} {settings : Settings}
    (h : Settings.ofEnvironment env = .ok settings) :
    ∃ members, Settings.jsonVariable env (Text.ofString "SECRET_ARNS") = .ok (.object members) ∧
      settings.secretArns = members.map fun m => (m.1, m.2.display) := by
  obtain ⟨_, -, h⟩ := exists_of_bind_eq_ok h
  obtain ⟨_, -, h⟩ := exists_of_bind_eq_ok h
  obtain ⟨v, hv, h⟩ := exists_of_bind_eq_ok h
  obtain ⟨arns, harns, h⟩ := exists_of_bind_eq_ok h
  obtain ⟨_, -, h⟩ := exists_of_bind_eq_ok h
  cases h
  cases v with
  | object members =>
    cases harns
    exact ⟨members, hv, rfl⟩
  | _ => cases harns

section Events

variable [Platform]

/-- The ticket is for a message of the event. -/
def IsFor (t : Ticket) (event : Json) : Prop :=
  ∃ messages, messagesOf event = .ok messages ∧ ∃ m ∈ messages, m.id = t.task.id ∧
    PullRequest.ofBody m.body = .ok t.task.request

/-- A ticket that is moved is for a message of the event, and goes the route of its source. -/
theorem isFor_of_moving {p : Pipeline σ} {services : Services σ} {event : Json}
    {s s₁ s₂ : Scene σ} {t : Ticket} (h : Moving p services event s t s₁ s₂) :
    IsFor t event ∧ p.routing.find? t.task.source = some t.task.route := by
  obtain ⟨messages, verdicts, free, ⟨hmessages, hjudged, -⟩, hmoving⟩ := h
  obtain ⟨m, hm, hid, hbody, hroute⟩ := Pipeline.message_of_moving hjudged hmoving
  exact ⟨⟨messages, hmessages, m, hm, hid, hbody⟩, hroute⟩

/-! ## Entries of the catalog -/

/-- The entry that a worker holds for a name: of the sources in its catalog the last one of this
name that it accepts, with the reference that the environment gives for the name. -/
structure EntryOf (files : FileTree) (env : Environment) (routing : Routing) (name : Text)
    (source : LogSource) (arn : Text) : Prop where
  name_eq : source.name = name
  accepted : ∃ settings sources, MadeFrom files env settings sources routing ∧
    Routing.LastAccepted settings.connectorTypes settings.secretArns sources source arn
  arn_eq : ∃ members v,
    Settings.jsonVariable env (Text.ofString "SECRET_ARNS") = .ok (.object members) ∧
      Json.find? members name = some v ∧ arn = v.display
  route_eq : routing.find? name = some (Routing.routeOf source arn)

theorem exists_entryOf {files : FileTree} {env : Environment} {settings : Settings}
    {sources : List LogSource} {routing : Routing} {name : Text} {route : Route}
    (h : MadeFrom files env settings sources routing) (hroute : routing.find? name = some route) :
    ∃ source arn, EntryOf files env routing name source arn ∧
      route = Routing.routeOf source arn := by
  obtain ⟨lines, lines', hrun⟩ := h.routing_eq
  obtain ⟨routing', lines'', hrun', -, hsettled⟩ := Routing.ofCatalog_eq sources
    settings.connectorTypes settings.secretArns lines
  obtain rfl : routing' = routing := Except.ok.inj (Prod.mk.inj (hrun'.symm.trans hrun)).1
  rcases hsettled name with ⟨source, arn, rfl, hlast, hfound⟩ | ⟨-, hnone⟩
  · refine ⟨source, arn, ⟨rfl, ⟨settings, sources, h, hlast⟩, ?_, hfound⟩,
      Option.some.inj (hroute.symm.trans hfound)⟩
    obtain ⟨before, after, -, ⟨-, harn, -⟩, -⟩ := hlast
    obtain ⟨members, hmembers, harns⟩ := exists_of_ofEnvironment h.settings_eq
    rw [harns, lookup_map_snd] at harn
    obtain ⟨v, hv, hdisplay⟩ := Option.map_eq_some_iff.mp harn
    exact ⟨members, v, hmembers, hv, hdisplay.symm⟩
  · cases hroute.symm.trans hnone

/--
**A credential is only ever sent to its own source.**

Take any page that a worker has asked for since it started, whatever the services did. It was asked
for in handling one of the events, while a ticket for a message of that event was being moved. For
the source of this ticket the worker holds an entry of its catalog; the page is at the `url` that
this entry declares; and if a token was sent, it is that of a secret that had been given for the
reference that the environment has for this source.
-/
theorem credential_stays_with_source {services : Services σ} {files : FileTree}
    {env : Environment} {outside : σ} {p : Pipeline (Traced σ)} {s₀ : Scene (Traced σ)}
    (hstart : (startFrom services.traced files env).runOn (.start ⟨outside, []⟩) = (.ok p, s₀))
    (events : List Json) {before after : List Exchange} {request : PageRequest}
    {answer : Except Fault Page}
    (h : (serve p services.traced events s₀).trace = before ++ .page request answer :: after) :
    ∃ earlier event later t s₁ s₂ source arn, events = earlier ++ event :: later ∧
      Moving p services.traced event (serve p services.traced earlier s₀) t s₁ s₂ ∧
      AskedFor t s₁ s₂ before request answer ∧ IsFor t event ∧
      EntryOf files env p.routing t.task.source source arn ∧
      t.task.route = Routing.routeOf source arn ∧
      (.text (Text.ofString "url"), .text request.url) ∈ source.properties := by
  obtain ⟨settings, sources, routing, bucket, hmade, rfl⟩ := start_eq_ok hstart
  -- nothing is kept and nothing was asked for when the first event comes
  obtain ⟨hkept, htrace⟩ : s₀.kept = [] ∧ s₀.trace = [] := by
    have hleads := start_leads services.traced
      (I := fun s => s.kept = [] ∧ s.trace = []) (fun _ _ hs => hs) (fun _ _ hs => hs)
      (fun _ _ _ hs => hs) files env (.start ⟨outside, []⟩) ⟨rfl, rfl⟩
    rw [hstart] at hleads
    exact hleads.1 _ rfl
  have hs₀ : ∀ Q : PageRule, s₀.Goes Q [] := by
    refine fun Q => ⟨fun e he => ?_, ?_⟩
    · rw [hkept] at he
      cases he
    · rw [htrace]
      exact .refl []
  have hgoes := serve_goes services routing (.ofBucket bucket) settings.cap events
    (hs₀ fun before request answer => ∃ earlier event later t s₁ s₂,
      events = earlier ++ event :: later ∧
      Moving (make services.traced routing (.ofBucket bucket) settings.cap) services.traced event
        (serve (make services.traced routing (.ofBucket bucket) settings.cap) services.traced
          earlier s₀) t s₁ s₂ ∧
      AskedFor t s₁ s₂ before request answer)
    fun earlier event later hevents t s₁ s₂ hmoving before request answer hasked =>
      ⟨earlier, event, later, t, s₁, s₂, hevents, hmoving, hasked⟩
  obtain ⟨earlier, event, later, t, s₁, s₂, hevents, hmoving, hasked⟩ :=
    hgoes.continues.pages before request answer List.nil_prefix
      ⟨after, by rw [h, List.append_assoc, List.singleton_append]⟩
  obtain ⟨hfor, hroute⟩ := isFor_of_moving hmoving
  obtain ⟨source, arn, hentry, hrouteOf⟩ := exists_entryOf hmade hroute
  refine ⟨earlier, event, later, t, s₁, s₂, source, arn, hevents, hmoving, hasked, hfor, hentry,
    hrouteOf, ?_⟩
  have hurl := hasked.sent.url
  rw [hrouteOf] at hurl
  exact Routing.mem_properties_of_property? (by decide) hurl

end Events

/-! ### Over a counter -/

attribute [local instance] Platform.builtIn

/-- Whether these are the sources of a counter. -/
def isCounterSource : List LogSource → Bool
  | [⟨name, type, [(.text k, .text v)]⟩] =>
    name == Counter.source.name && type == Counter.source.type && k == Text.ofString "url" &&
      v == Text.ofString "u"
  | _ => false

theorem eq_of_isCounterSource {sources : List LogSource} (h : isCounterSource sources = true) :
    sources = [Counter.source] := by
  unfold isCounterSource at h
  split at h
  · simp only [Bool.and_eq_true, beq_iff_eq] at h
    obtain ⟨⟨⟨rfl, rfl⟩, rfl⟩, rfl⟩ := h
    rfl
  · cases h

theorem counter_loads : ∃ lines,
    (Catalog.load Counter.files "/c").runOn #[] = (.ok [Counter.source], lines) := by
  have hsources : (((Catalog.load Counter.files "/c").runOn #[]).1.toOption.any
      isCounterSource) = true := by decide +kernel
  rcases hr : (Catalog.load Counter.files "/c").runOn #[] with ⟨fault | sources, lines⟩ <;>
    rw [hr] at hsources
  · cases hsources
  · exact ⟨lines, by rw [eq_of_isCounterSource hsources]⟩

/-- A counter where the token of each secret is the letter t with the reference behind it. -/
def counter : Services (Traced Unit) := (Counter.services (Counter.stored "t")).traced

/-- A worker over this counter. -/
def counterWorker : Pipeline (Traced Unit) := make counter Counter.routing (.ofBucket "bucket") none

theorem counter_starts : ∃ s₀ : Scene (Traced Unit),
    (startFrom counter Counter.files Counter.environment).runOn (.start ⟨(), []⟩) =
      (.ok counterWorker, s₀) := by
  have hsettings : Settings.ofEnvironment Counter.environment = .ok Counter.settings := by cbv
  obtain ⟨lines, hload⟩ := counter_loads
  have hroutes : (Routing.ofCatalog [Counter.source] Counter.settings.connectorTypes
      Counter.settings.secretArns).runOn lines = (.ok Counter.routing, lines) := by cbv
  obtain ⟨routing, lines', s₀, hrouting, hstart⟩ := start_of_readable
    (s := Scene.start ⟨(), []⟩) counter hsettings rfl rfl hload
  rw [hroutes] at hrouting
  cases hrouting
  exact ⟨s₀, hstart⟩

/-- The page for a second event carries the token that was given in the first one, and it goes to
the source that the token is for. -/
theorem kept_token_for_its_source :
    ∃ s₀ before answer after,
      (startFrom counter Counter.files Counter.environment).runOn (.start ⟨(), []⟩) =
        (.ok counterWorker, s₀) ∧
      (serve counterWorker counter [Counter.event, Counter.event] s₀).trace =
        before ++ .page ⟨"u", [PageConnector.accept, ("Authorization", "Bearer tA")], [], 30⟩
          answer :: after ∧
      ∃ t source arn secret token, IsFor t Counter.event ∧
        EntryOf Counter.files Counter.environment Counter.routing t.task.source source arn ∧
        (.text "url", .text "u") ∈ source.properties ∧ Gave before arn secret ∧
        secret.lookup (Text.ofString "api_token") = some token ∧ token ≠ [] := by
  obtain ⟨s₀, hstart⟩ := counter_starts
  obtain ⟨houtside, hkept⟩ : s₀.outside = ⟨(), []⟩ ∧ s₀.kept = [] := by
    have hleads := start_leads counter
      (I := fun s => s.outside = ⟨(), []⟩ ∧ s.kept = []) (fun _ _ hs => hs) (fun _ _ hs => hs)
      (fun _ _ _ hs => hs) Counter.files Counter.environment (.start ⟨(), []⟩) ⟨rfl, rfl⟩
    rw [hstart] at hleads
    exact hleads.1 _ rfl
  have hpages : (serve counterWorker counter [Counter.event, Counter.event] s₀).trace.filterMap
      Exchange.request? =
      [⟨"u", [PageConnector.accept, ("Authorization", "Bearer tA")], [], 30⟩,
        ⟨"u", [PageConnector.accept, ("Authorization", "Bearer tA")], [], 30⟩] := by
    clear hstart
    obtain ⟨outside, kept, lines, journal, polling, clock, printed⟩ := s₀
    cases houtside
    cases hkept
    cbv
  obtain ⟨exchange, hmem, hrequest⟩ := List.mem_filterMap.mp
    (hpages ▸ List.mem_cons_of_mem _ List.mem_cons_self)
  obtain ⟨answer, rfl⟩ := Exchange.exists_of_request?_eq_some hrequest
  obtain ⟨before, after, hsplit⟩ := List.append_of_mem hmem
  obtain ⟨earlier, event, later, t, s₁, s₂, source, arn, hevents, -, hasked, hfor, hentry, hroute,
    hurl⟩ := credential_stays_with_source hstart [Counter.event, Counter.event] hsplit
  have hevent : event = Counter.event := by
    have hin : event ∈ [Counter.event, Counter.event] := by simp [hevents]
    simpa using hin
  rcases hasked.sent.headers with hnone | ⟨secret, token, hgave, htoken, hne, -⟩
  · exact absurd (congrArg List.length hnone) (by decide)
  · rw [hroute] at hgave
    exact ⟨s₀, before, answer, after, hstart, hsplit, t, source, arn, secret, token,
      hevent ▸ hfor, hentry, hurl, hgave, htoken, hne⟩

end Worker

end LogHarvest
