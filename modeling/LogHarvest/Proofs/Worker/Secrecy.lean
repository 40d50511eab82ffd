import LogHarvest.Proofs.Json.RoundTrip
import LogHarvest.Proofs.Shelf
import LogHarvest.Proofs.Worker.Exchange
import Mathlib

/-!
# Secrecy

Two stores of secrets are alike if where one of them has an entry with a text in it, so has the
other, and both texts are empty or neither is, and if tokens that differ can both stand in a header.
A worker cannot tell such stores apart: over both of them it comes to the same result, writes the
same lines and asks the services for the same (`secrets_stay_hidden`). All that differs is the value
of the header that carries the token.

A token that cannot stand in a header is another matter: a client that refuses to send it may show
it in its complaint, and complaints are written down (`refused_token_shows`).
-/

namespace LogHarvest

open Traced

variable {σ τ α β : Type}

/-! ## What is alike -/

/-- White space at the beginning of a header. -/
def Text.isSpaceInFront (s : Symbol) : Bool := isBlank s || (0x1C ≤ s.code && s.code ≤ 0x1F)

/-- Whether the text can stand in a header: one line of Latin-1, with no white space in front. -/
def Text.isHeaderValue (t : Text) : Bool :=
  t.all (fun s => s.code < 0x100 && s.code != 0x0A && s.code != 0x0D) &&
    !t.head?.any isSpaceInFront

/-- Texts of two secrets under one name: both are empty or neither is, and tokens that differ can
both stand in a header. -/
def Secret.AlikeTexts (name t t' : Text) : Prop :=
  (t = [] ↔ t' = []) ∧ (name = Text.ofString "api_token" → t = t' ∨
    t.isHeaderValue = true ∧ t'.isHeaderValue = true)

/-- Secrets with the same names, and with texts that are alike. -/
def Secret.Alike (secret secret' : Secret) : Prop :=
  ∀ name, Option.Rel (Secret.AlikeTexts name) (secret.lookup name) (secret'.lookup name)

/-- Both values are texts, and these are alike. -/
def Json.AlikeTexts (name : Text) (v v' : Json) : Prop :=
  ∃ t t', v = .string t ∧ v' = .string t' ∧ Secret.AlikeTexts name t t'

/-- Strings that spell JSON objects with the same names, with nothing but texts in them that are
alike. -/
def Vault.AlikeStored [Json.Limits] (t t' : Text) : Prop :=
  ∃ members members', Json.read t = .ok (.object members) ∧ Json.read t' = .ok (.object members') ∧
    ∀ name, Option.Rel (Json.AlikeTexts name) (Json.find? members name) (Json.find? members' name)

/-- Answers of two stores of secrets: the same answer, or secret strings that are alike. -/
inductive Vault.AlikeAnswers [Json.Limits] : Except Fault Json → Except Fault Json → Prop
  | same (answer : Except Fault Json) : AlikeAnswers answer answer
  | stored {members members' : List (Text × Json)} {t t' : Text}
      (h : Json.find? members "SecretString" = some (.string t))
      (h' : Json.find? members' "SecretString" = some (.string t')) (halike : AlikeStored t t') :
      AlikeAnswers (.ok (.object members)) (.ok (.object members'))

/-- The same headers, or headers that carry some token in the same place, which can stand there. -/
inductive PageConnector.AlikeHeaders : List (Text × Text) → List (Text × Text) → Prop
  | same (headers : List (Text × Text)) : AlikeHeaders headers headers
  | tokens (header : Option Text) {token token' : Text} (h : token ≠ []) (h' : token' ≠ [])
      (hlegal : token.isHeaderValue = true) (hlegal' : token'.isHeaderValue = true) :
      AlikeHeaders (headersWith header token) (headersWith header token')

/-- Exchanges that only differ in secrets: a reference is answered alike, a page is asked for with
headers that are alike and answered with the same, and objects are the same. -/
inductive Exchange.Alike [Json.Limits] : Exchange → Exchange → Prop
  | secret (arn : Text) {answer answer' : Except Fault Json}
      (h : Vault.AlikeAnswers answer answer') : Alike (.secret arn answer) (.secret arn answer')
  | page (url : Text) {headers headers' : List (Text × Text)}
      (h : PageConnector.AlikeHeaders headers headers') (params : List (Text × Text))
      (timeout : Nat) (answer : Except Fault Page) :
      Alike (.page ⟨url, headers, params, timeout⟩ answer)
        (.page ⟨url, headers', params, timeout⟩ answer)
  | store (object : StoredObject) (answer : Except Fault Unit) :
      Alike (.store object answer) (.store object answer)

/-- Two questions that are answered alike, where `S` relates what is remembered. -/
def Tied (S : σ → τ → Prop) (V : α → β → Prop) (question : StateM σ α)
    (question' : StateM τ β) : Prop :=
  ∀ ⦃o o'⦄, S o o' → V (question.run o).1 (question'.run o').1 ∧
    S (question.run o).2 (question'.run o').2

/-- Services that differ in secrets only, where `S` relates what they remember. Web servers do not
look at the tokens in headers, and fresh identifiers come alike. -/
structure Services.Alike [Json.Limits] (S : σ → τ → Prop) (services : Services σ)
    (services' : Services τ) : Prop where
  secret : ∀ arn, Tied S Vault.AlikeAnswers (services.secret arn) (services'.secret arn)
  page : ∀ url headers headers' params timeout, PageConnector.AlikeHeaders headers headers' →
    Tied S Eq (services.page ⟨url, headers, params, timeout⟩)
      (services'.page ⟨url, headers', params, timeout⟩)
  store : ∀ object, Tied S Eq (services.store object) (services'.store object)
  freshId : Tied S Eq services.freshId services'.freshId
  now : Tied S Eq services.now services'.now
  wait : ∀ seconds, Tied S Eq (services.wait seconds) (services'.wait seconds)

/-- Scenes that only differ in secrets: those that are kept, and those that were exchanged. -/
structure Scene.Alike [Json.Limits] (S : σ → τ → Prop) (s : Scene (Traced σ))
    (s' : Scene (Traced τ)) : Prop where
  outside : S s.outside.inner s'.outside.inner
  trace : List.Forall₂ Exchange.Alike s.trace s'.trace
  kept : List.Forall₂ (fun e e' => e.1 = e'.1 ∧ Secret.Alike e.2 e'.2) s.kept s'.kept
  lines : s.lines = s'.lines
  journal : s.journal = s'.journal
  polling : s.polling = s'.polling
  clock : s.clock = s'.clock
  printed : s.printed = s'.printed

/-! ## Secrets -/

theorem Secret.Alike.refl (secret : Secret) : secret.Alike secret :=
  fun name => rel_self (fun _ => ⟨Iff.rfl, fun _ => .inl rfl⟩) (secret.lookup name)

namespace Vault

theorem ofStored_of_object [Json.Limits] {t : Text} {members : List (Text × Json)}
    (h : Json.read t = .ok (.object members)) :
    ofStored t = .ok (members.map fun m => (m.1, m.2.display)) := by
  rw [ofStored, h]

theorem ofAnswer_of_stored [Json.Limits] {members : List (Text × Json)} {t : Text}
    (h : Json.find? members "SecretString" = some (.string t)) (arn : Text) :
    ofAnswer arn (.object members) = ofStored t := by
  have hmember : (Json.object members).member? "SecretString" = .ok (some (.string t)) :=
    congrArg Except.ok h
  rw [ofAnswer, bind_of_eq_ok hmember]
  rfl

theorem alike_of_members {members members' : List (Text × Json)}
    (h : ∀ name, Option.Rel (Json.AlikeTexts name) (Json.find? members name)
      (Json.find? members' name)) :
    Secret.Alike (members.map fun m => (m.1, m.2.display))
      (members'.map fun m => (m.1, m.2.display)) := by
  intro name
  rw [lookup_map_snd, lookup_map_snd]
  have hname : Option.Rel (Json.AlikeTexts name) (members.lookup name) (members'.lookup name) :=
    h name
  generalize members.lookup name = v?, members'.lookup name = v?' at hname ⊢
  cases hname with
  | none => exact .none
  | some hv =>
    obtain ⟨t, t', rfl, rfl, halike⟩ := hv
    exact .some halike

/-- Answers that are alike stand for secrets that are, or end in the same fault. -/
theorem AlikeAnswers.corresponds [Json.Limits] {answer answer' : Except Fault Json}
    (h : AlikeAnswers answer answer') (arn : Text) :
    Corresponds Secret.Alike (answer >>= ofAnswer arn) (answer' >>= ofAnswer arn) := by
  cases h with
  | same =>
    cases answer >>= ofAnswer arn with
    | ok secret => exact .ok (.refl secret)
    | error fault => exact .error fault
  | @stored members members' t t' h h' halike =>
    obtain ⟨texts, texts', hread, hread', htexts⟩ := halike
    show Corresponds _ (ofAnswer arn (.object members)) (ofAnswer arn (.object members'))
    rw [ofAnswer_of_stored h, ofAnswer_of_stored h', ofStored_of_object hread,
      ofStored_of_object hread']
    exact .ok (alike_of_members htexts)

/-- What the store answers and the secret in it are asked for at once. -/
theorem demand_eq [Json.Limits] (services : Services σ) (arn : Text) :
    demand services arn =
      Act.ask (services.secret arn) >>= fun answer => liftM (answer >>= ofAnswer arn) := by
  rw [demand, Act.demand, bind_assoc]
  congr 1
  funext answer
  cases answer with
  | ok v => rfl
  | error fault => rfl

end Vault

/-! ## Headers -/

namespace PageConnector

/-- Either secret has a token, or neither; and tokens that differ can both stand in a header. -/
theorem token?_cases_of_alike {secret secret' : Secret} (h : secret.Alike secret') :
    token? secret = token? secret' ∨ ∃ token token', token? secret = some token ∧
      token? secret' = some token' ∧ token.isHeaderValue = true ∧ token'.isHeaderValue = true := by
  have htoken := h (Text.ofString "api_token")
  unfold token?
  generalize secret.lookup (Text.ofString "api_token") = t?,
    secret'.lookup (Text.ofString "api_token") = t?' at htoken ⊢
  cases htoken with
  | none => exact .inl rfl
  | @some t t' halike =>
    obtain ⟨hempty, hlegal⟩ := halike
    rcases hlegal rfl with rfl | ⟨ht, ht'⟩
    · exact .inl rfl
    · -- an empty token counts as none, so all that matters is which texts are empty
      by_cases hnone : t = []
      · rw [hnone, hempty.mp hnone]
        exact .inl rfl
      · have hnone' : t' ≠ [] := fun h => hnone (hempty.mpr h)
        refine .inr ⟨t, t', ?_, ?_, ht, ht'⟩
        · simp [Option.filter, hnone]
        · simp [Option.filter, hnone']

/-- Secrets that are alike make headers that are. -/
theorem alikeHeaders_of_alike (route : Route) {secret secret' : Secret} (h : secret.Alike secret') :
    AlikeHeaders (headers route secret) (headers route secret') := by
  rcases token?_cases_of_alike h with hsame | ⟨token, token', htoken, htoken', hlegal, hlegal'⟩
  · rw [headers, headers, hsame]
    exact .same _
  · rw [headers_of_token htoken, headers_of_token htoken']
    exact .tokens _ (token?_eq_some htoken).2 (token?_eq_some htoken').2 hlegal hlegal'

end PageConnector

/-! ## Scenes -/

namespace Scene.Alike

variable [Json.Limits] {S : σ → τ → Prop} {s : Scene (Traced σ)} {s' : Scene (Traced τ)}

/-- One scene over services that are alike, with what was exchanged so far. -/
theorem of_one {s : Scene σ} {outside : τ} (h : S s.outside outside)
    (exchanges : List Exchange) :
    Alike S { s with outside := ⟨s.outside, exchanges⟩ }
      { s with outside := (⟨outside, exchanges⟩ : Traced τ) } where
  outside := h
  trace := List.forall₂_same.mpr fun exchange _ => by
    cases exchange with
    | secret arn answer => exact .secret arn (.same answer)
    | page request answer => exact .page request.url (.same _) request.params request.timeout answer
    | store object answer => exact .store object answer
  kept := List.forall₂_same.mpr fun e _ => ⟨rfl, .refl e.2⟩
  lines := rfl
  journal := rfl
  polling := rfl
  clock := rfl
  printed := rfl

theorem write (h : Alike S s s') (lines : List Line) : Alike S (s.write lines) (s'.write lines) :=
  { h with lines := congrArg (fun written : Array Line => written ++ lines) h.lines }

theorem keep (h : Alike S s s') (arn : Text) {secret secret' : Secret}
    (halike : secret.Alike secret') : Alike S (s.keep arn secret) (s'.keep arn secret') :=
  { h with kept := List.rel_append h.kept (.cons ⟨rfl, halike⟩ .nil) }

theorem lookup_kept (h : Alike S s s') (arn : Text) :
    Option.Rel Secret.Alike (s.kept.lookup arn) (s'.kept.lookup arn) := by
  -- both keep secrets for the same references in the same order
  have hkept := h.kept
  generalize s.kept = kept, s'.kept = kept' at hkept ⊢
  induction hkept with
  | nil => exact .none
  | @cons e e' rest rest' he _ ih =>
    rw [List.lookup_cons, List.lookup_cons, ← he.1]
    cases arn == e.1 with
    | true => exact .some he.2
    | false => exact ih

end Scene.Alike

section Asking

variable [Json.Limits] {S : σ → τ → Prop}

theorem agrees_ask_silently {question : StateM σ α} {question' : StateM τ α}
    (h : Tied S Eq question question') :
    Act.Agrees (Scene.Alike S) (Act.ask (silently question)) (Act.ask (silently question')) := by
  refine .of_runOn fun s s' hs => ?_
  obtain ⟨hanswers, houtside⟩ := h hs.outside
  exact ⟨congrArg Except.ok hanswers, { hs with outside := houtside }⟩

/-- A question that is answered alike leaves exchanges behind that are alike. -/
theorem matches_ask_tracing {V : α → β → Prop} {question : StateM σ α} {question' : StateM τ β}
    {exchange : α → Exchange} {exchange' : β → Exchange} (h : Tied S V question question')
    (hexchange : ∀ a b, V a b → (exchange a).Alike (exchange' b)) :
    Act.Matches (Scene.Alike S) V (Act.ask (tracing exchange question))
      (Act.ask (tracing exchange' question')) := by
  intro s s' hs
  obtain ⟨hanswers, houtside⟩ := h hs.outside
  exact ⟨.ok hanswers, { hs with
    outside := houtside
    trace := List.rel_append hs.trace (.cons (hexchange _ _ hanswers) .nil) }⟩

theorem agrees_ask_tracing {question : StateM σ α} {question' : StateM τ α}
    {exchange exchange' : α → Exchange} (h : Tied S Eq question question')
    (hexchange : ∀ a, (exchange a).Alike (exchange' a)) :
    Act.Agrees (Scene.Alike S) (Act.ask (tracing exchange question))
      (Act.ask (tracing exchange' question')) := by
  refine Act.Matches.eq_iff.mp (matches_ask_tracing h ?_)
  rintro a _ rfl
  exact hexchange a

end Asking

/-- Services that are alike cannot be told apart by pulls. -/
theorem Scene.linked_alike [Json.Limits] {S : σ → τ → Prop} {services : Services σ}
    {services' : Services τ} (h : services.Alike S services') :
    PageConnector.Linked (Scene.Alike S) Secret.Alike services.traced services'.traced where
  write lines _ _ hs := hs.write lines
  pass seconds s s' hs :=
    { hs with
      outside := (h.wait seconds hs.outside).2
      clock := congrArg (fun clock => clock + seconds) hs.clock }
  freshId := agrees_ask_silently h.freshId
  store object := agrees_ask_tracing (h.store object) fun answer => .store object answer
  kept _ _ hs arn := hs.lookup_kept arn
  secret arn := by
    rw [Vault.demand_eq, Vault.demand_eq]
    exact (matches_ask_tracing (h.secret arn) fun _ _ halike => .secret arn halike).bind
      fun _ _ halike => .liftExcept (halike.corresponds arn)
  keep arn _ _ halike _ _ hs := hs.keep arn halike
  now := agrees_ask_silently h.now
  page url route params _ _ halike :=
    have hheaders := PageConnector.alikeHeaders_of_alike route halike
    agrees_ask_tracing (h.page _ _ _ _ _ hheaders) fun answer =>
      .page url hheaders params _ answer

/-! ## Workers -/

namespace Worker

/--
**Secrets stay hidden.**

Take two workers of one make over services that differ in secrets only, in scenes that differ in
secrets only, where tokens that differ can all stand in a header. They come to the same result for
every event, and to scenes that differ in secrets only: the same lines are written, whatever their
level, and what the services were asked for is the same, objects with all that is in them and pages
but for the token.
-/
theorem secrets_stay_hidden [Platform] {S : σ → τ → Prop} {services : Services σ}
    {services' : Services τ} (h : services.Alike S services') (routing : Routing)
    (writer : ArchiveWriter) (cap : Option Int) (event : Json) {s : Scene (Traced σ)}
    {s' : Scene (Traced τ)} (hs : s.Alike S s') :
    ((handle (make services.traced routing writer cap) services.traced event).runOn s).1 =
        ((handle (make services'.traced routing writer cap) services'.traced event).runOn s').1 ∧
      Scene.Alike S
        ((handle (make services.traced routing writer cap) services.traced event).runOn s).2
        ((handle (make services'.traced routing writer cap) services'.traced event).runOn s').2 :=
  (agrees_handle (Scene.linked_alike h) routing writer cap event).runOn hs

/-! ### Over two counters -/

attribute [local instance] Platform.builtIn

/-- Asks a server through a client that complains about what cannot stand in a header. -/
def askedThrough (complaint : Text → Fault) (server : PageRequest → Except Fault Page)
    (request : PageRequest) : Except Fault Page :=
  match request.headers.find? fun h => !h.2.isHeaderValue with
  | some header => .error (complaint header.2)
  | none => server request

/-- A counter with the same secret behind every reference, and with a server that does not look at
headers, behind such a client. -/
def counterWith (complaint : Text → Fault) (stored : Text) : Services Unit :=
  { Counter.services fun _ => stored with
    page request :=
      pure (askedThrough complaint (fun request => .ok ⟨request.url, 200, none, [1, 2]⟩) request) }

/-- What comes of an event over this counter. -/
def counterHandled (complaint : Text → Fault) (stored : Text) :
    Except Fault BatchResult × Scene (Traced Unit) :=
  (handle (make (counterWith complaint stored).traced Counter.routing (.ofBucket "bucket") none)
    (counterWith complaint stored).traced Counter.event).runOn (.start ⟨(), []⟩)

/-- The complaint about a value with a line break behind it shows the value. -/
def complaint (value : Text) : Fault :=
  .outside .other "ValueError" [.string (Text.ofString "Invalid header value b" ++ value.quoted)]

theorem isHeaderValue_tokenHeader (header : Option Text) {token : Text}
    (h : token.isHeaderValue = true) :
    (PageConnector.tokenHeader header token).2.isHeaderValue = true := by
  cases header with
  | some name => exact h
  | none =>
    -- behind the word in front even white space would do
    have hall := (Bool.and_eq_true _ _ ▸ h).1
    have hbearer : (Text.ofString "Bearer ").all (fun s =>
        s.code < 0x100 && s.code != 0x0A && s.code != 0x0D) = true := by decide
    rw [PageConnector.tokenHeader, Text.isHeaderValue, List.all_append, hbearer, hall]
    rfl

theorem headersWith_isHeaderValue (header : Option Text) {token : Text}
    (h : token.isHeaderValue = true) :
    (PageConnector.headersWith header token).find? (fun h => !h.2.isHeaderValue) = none := by
  have haccept : PageConnector.accept.2.isHeaderValue = true := by decide
  refine List.find?_eq_none.mpr fun entry hentry => ?_
  rcases mem_putNamed hentry with rfl | hentry
  · simp [isHeaderValue_tokenHeader header h]
  · rw [List.mem_singleton.mp hentry]
    simp [haccept]

theorem counterWith_alike (complaint : Text → Fault) {t t' : Text} (h : Vault.AlikeStored t t') :
    (counterWith complaint t).Alike Eq (counterWith complaint t') where
  secret _ _ _ _ := ⟨.stored rfl rfl h, rfl⟩
  page url headers headers' params timeout halike := by
    cases halike with
    | same => exact fun _ _ _ => ⟨rfl, rfl⟩
    | tokens header _ _ hlegal hlegal' =>
      rintro _ _ rfl
      refine ⟨?_, rfl⟩
      simp only [counterWith, askedThrough, headersWith_isHeaderValue header hlegal,
        headersWith_isHeaderValue header hlegal']
  store _ _ _ _ := ⟨rfl, rfl⟩
  freshId _ _ _ := ⟨rfl, rfl⟩
  now _ _ _ := ⟨rfl, rfl⟩
  wait _ _ _ _ := ⟨rfl, rfl⟩

/-- Over counters with different tokens the tokens differ, and nothing else does. -/
theorem only_tokens_differ :
    (counterHandled complaint (Counter.stored "s" [])).1 =
        (counterHandled complaint (Counter.stored "t" [])).1 ∧
      Scene.Alike Eq (counterHandled complaint (Counter.stored "s" [])).2
        (counterHandled complaint (Counter.stored "t" [])).2 ∧
      (counterHandled complaint (Counter.stored "s" [])).2.trace.filterMap Exchange.request? =
        [⟨"u", [PageConnector.accept, ("Authorization", "Bearer s")], [], 30⟩] ∧
      (counterHandled complaint (Counter.stored "t" [])).2.trace.filterMap Exchange.request? =
        [⟨"u", [PageConnector.accept, ("Authorization", "Bearer t")], [], 30⟩] := by
  have hread : Json.read (Counter.stored "s" []) = .ok (.object [("api_token", .string "s")]) := by
    cbv
  have hread' : Json.read (Counter.stored "t" []) = .ok (.object [("api_token", .string "t")]) := by
    cbv
  have halike : Vault.AlikeStored (Counter.stored "s" []) (Counter.stored "t" []) := by
    refine ⟨_, _, hread, hread', fun name => ?_⟩
    unfold Json.find?
    rw [List.lookup_cons, List.lookup_cons]
    cases name == Text.ofString "api_token" with
    | true => exact .some ⟨_, _, rfl, rfl, by decide, fun _ => .inr ⟨by decide, by decide⟩⟩
    | false => exact .none
  obtain ⟨hresult, hscenes⟩ := secrets_stay_hidden (counterWith_alike complaint halike)
    Counter.routing (.ofBucket "bucket") none Counter.event (s := .start ⟨(), []⟩)
    (.of_one (s := .start ()) rfl [])
  exact ⟨hresult, hscenes, by cbv, by cbv⟩

/-- The line about the message shows the complaint of the client. -/
theorem line_of_refused_token (arguments : Text → List Json) :
    (counterHandled (fun value => .outside .other "ValueError" (arguments value))
        (Counter.stored "s\\n" [])).2.lines.toList.find? (·.level = .error) =
      some ⟨.error, .failures,
        Text.ofString "Failed message_id: m log_source: a: Error for log_source: a: " ++
          Fault.shownOutside "ValueError" (arguments "Bearer s\n")⟩ := by
  cbv

/-- A token that ends in a line break is shown by the complaint of the client, though the server
answers every request alike, and though no such line is written with another token. -/
theorem refused_token_shows :
    Json.read (Counter.stored "s\\n" []) = .ok (.object [("api_token", .string "s\n")]) ∧
      Json.read (Counter.stored "t" []) = .ok (.object [("api_token", .string "t")]) ∧
      (counterHandled complaint (Counter.stored "s\\n" [])).2.lines.toList.find?
          (·.level = .error) =
        some ⟨.error, .failures, Text.ofString ("Failed message_id: m log_source: a: " ++
          "Error for log_source: a: ValueError(\"Invalid header value b'Bearer s\\\\n'\")")⟩ ∧
      (counterHandled complaint (Counter.stored "t" [])).2.lines.toList.find?
          (·.level = .error) = none := by
  refine ⟨by cbv, by cbv, (line_of_refused_token _).trans ?_, by cbv⟩
  decide +kernel

end Worker

end LogHarvest
