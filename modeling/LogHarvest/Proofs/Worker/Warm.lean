import LogHarvest.Proofs.Batch.Keyless
import LogHarvest.Proofs.Batch.Late
import LogHarvest.Proofs.Batch.Reference
import LogHarvest.Proofs.Worker.Custody
import LogHarvest.Proofs.Worker.Making
import Mathlib.Data.List.Forall2

/-!
# Warm workers

A worker that has handled events keeps secrets, and that is all that is left of these events. As
long as the services do not change their answers, every secret that is kept is the one that the
store would give again (`Scene.KeepsGiven`). So a warm worker and a fresh one go on side by side
(`Scene.Beside`): they ask for the same pages and store the same data, and all that the warm one
saves is some of the questions for secrets (`batches_do_not_influence_each_other`).
-/

namespace LogHarvest

variable {σ : Type}

/-! ## Services that do not change -/

/-- Services whose answers do not change: the same question is always answered in the same way,
whatever happened before. Storage may look at the source and at the data, but it does not tell one
fresh identifier from another. -/
structure Services.IsSteady (services : Services σ) : Prop where
  secret : ∀ arn outside outside',
    ((services.secret arn).run outside).1 = ((services.secret arn).run outside').1
  page : ∀ request outside outside',
    ((services.page request).run outside).1 = ((services.page request).run outside').1
  now : ∀ outside outside', (services.now.run outside).1 = (services.now.run outside').1
  store : ∀ bucket source body id id', services.Gives id → services.Gives id' →
    ∀ outside outside',
      ((services.store ⟨bucket, ArchiveWriter.key source id, ArchiveWriter.encoding, body⟩).run
        outside).1 =
      ((services.store ⟨bucket, ArchiveWriter.key source id', ArchiveWriter.encoding, body⟩).run
        outside').1

section Keeping

variable [Json.Limits]

/-- Every secret that is kept is the one that the store gives. -/
def Scene.KeepsGiven (services : Services σ) (s : Scene (Traced σ)) : Prop :=
  ∀ arn secret, s.kept.lookup arn = some secret →
    ∀ outside, ((services.secret arn).run outside).1 >>= Vault.ofAnswer arn = .ok secret

theorem Scene.KeepsGiven.keep {services : Services σ} {s : Scene (Traced σ)}
    (h : s.KeepsGiven services) {arn : Text} {secret : Secret}
    (hgiven : ∀ outside,
      ((services.secret arn).run outside).1 >>= Vault.ofAnswer arn = .ok secret) :
    (s.keep arn secret).KeepsGiven services := by
  intro other kept hkept
  rw [lookup_keep, Option.or_eq_some_iff] at hkept
  rcases hkept with hbefore | ⟨-, hnew⟩
  · exact h other kept hbefore
  · split at hnew
    · next heq =>
      cases hnew
      exact heq ▸ hgiven
    · cases hnew

end Keeping

/-! ## Side by side -/

/-- The object was made of the data of a source, under a key of this source. -/
def Pipeline.Archives (p : Pipeline σ) (services : Services σ) (archived : Text × Bytes)
    (object : StoredObject) : Prop :=
  object.bucket = p.writer.bucket ∧ (∃ id, services.Gives id ∧
    object.key = ArchiveWriter.key archived.1 id) ∧
    p.writer.codec.compress archived.2 = .ok object.body

/-- Where the codec loses nothing, an object holds the data that it was made of. -/
theorem Pipeline.Archives.holds {p : Pipeline σ} {services : Services σ} {archived : Text × Bytes}
    {object : StoredObject} (h : p.Archives services archived object)
    (hw : p.writer.codec.IsLossless) : p.Holds services archived object :=
  ⟨h.1, h.2.1, hw _ _ h.2.2⟩

/-- The secret that is asked for. -/
def Exchange.asked? : Exchange → Option Text
  | secret arn _ => some arn
  | _ => none

/-- The object that is stored, if it was taken. -/
def Exchange.stored? : Exchange → Option StoredObject
  | store object (.ok ()) => some object
  | _ => none

/-- Exchanges of a warm worker beside those of a fresh one: they are the same, but that the warm one
leaves out secrets, and that each stores under keys of its own. -/
inductive Exchange.Beside (p : Pipeline (Traced σ)) (services : Services σ) :
    List Exchange → List Exchange → Prop
  | nil : Beside p services [] []
  | secret {new new' : List Exchange} (h : Beside p services new new') (arn : Text)
      (answer : Except Fault Json) :
      Beside p services (new ++ [.secret arn answer]) (new' ++ [.secret arn answer])
  | kept {new new' : List Exchange} (h : Beside p services new new') (arn : Text)
      (answer : Except Fault Json) : Beside p services new (new' ++ [.secret arn answer])
  | page {new new' : List Exchange} (h : Beside p services new new') (request : PageRequest)
      (answer : Except Fault Page) :
      Beside p services (new ++ [.page request answer]) (new' ++ [.page request answer])
  | store {new new' : List Exchange} (h : Beside p services new new') (source : Text)
      {id id' : Text} (hid : services.Gives id) (hid' : services.Gives id') {data body : Bytes}
      (hbody : p.writer.codec.compress data = .ok body) (answer : Except Fault Unit) :
      Beside p services (new ++ [.store (p.objectOf source id body) answer])
        (new' ++ [.store (p.objectOf source id' body) answer])

namespace Exchange.Beside

variable {p : Pipeline (Traced σ)} {services : Services σ} {new new' : List Exchange}

/-- The same pages are asked for. -/
theorem requests_eq (h : Beside p services new new') :
    new.filterMap request? = new'.filterMap request? := by
  induction h with
  | nil => rfl
  | secret _ arn answer ih => simp [List.filterMap_cons, request?, ih]
  | kept _ arn answer ih => simp [List.filterMap_cons, request?, ih]
  | page _ request answer ih => simp [request?, ih]
  | store _ source hid hid' hbody answer ih => simp [List.filterMap_cons, request?, ih]

/-- The secrets that the warm worker asks for are asked for by the fresh one. -/
theorem asked_sublist (h : Beside p services new new') :
    (new.filterMap asked?).Sublist (new'.filterMap asked?) := by
  induction h with
  | nil => exact .slnil
  | secret _ arn answer ih => simpa [List.filterMap_cons, asked?] using ih
  | kept _ arn answer ih =>
    rw [List.filterMap_append]
    exact ih.trans (List.sublist_append_left _ _)
  | page _ request answer ih => simpa [List.filterMap_cons, asked?] using ih
  | store _ source hid hid' hbody answer ih => simpa [List.filterMap_cons, asked?] using ih

theorem archives_objectOf {source id : Text} {data body : Bytes} (hid : services.Gives id)
    (hbody : p.writer.codec.compress data = .ok body) :
    p.Archives services.traced (source, data) (p.objectOf source id body) := by
  obtain ⟨outside, rfl⟩ := hid
  exact ⟨rfl, ⟨_, ⟨⟨outside, []⟩, rfl⟩, rfl⟩, hbody⟩

/-- The same data of the same sources is stored. -/
theorem exists_archived (h : Beside p services new new') :
    ∃ archived, List.Forall₂ (p.Archives services.traced) archived (new.filterMap stored?) ∧
      List.Forall₂ (p.Archives services.traced) archived (new'.filterMap stored?) := by
  induction h with
  | nil => exact ⟨[], .nil, .nil⟩
  | secret _ arn answer ih => simpa [List.filterMap_cons, stored?] using ih
  | kept _ arn answer ih => simpa [List.filterMap_cons, stored?] using ih
  | page _ request answer ih => simpa [List.filterMap_cons, stored?] using ih
  | @store _ _ _ source id id' hid hid' data body hbody answer ih =>
    cases answer with
    | ok _ =>
      obtain ⟨archived, hstored, hstored'⟩ := ih
      refine ⟨archived ++ [(source, data)], ?_, ?_⟩ <;> rw [List.filterMap_append]
      · exact List.rel_append hstored (.cons (archives_objectOf hid hbody) .nil)
      · exact List.rel_append hstored' (.cons (archives_objectOf hid' hbody) .nil)
    | error fault => simpa [List.filterMap_cons, stored?] using ih

end Exchange.Beside

/-- A warm scene beside a fresh one: both keep what the store gives, the warm one keeps whatever the
fresh one keeps, and what was exchanged since the two traces went side by side. -/
structure Scene.Beside [Json.Limits] (p : Pipeline (Traced σ)) (services : Services σ)
    (start start' : List Exchange) (s s' : Scene (Traced σ)) : Prop where
  given : s.KeepsGiven services
  given' : s'.KeepsGiven services
  kept : ∀ arn, s.kept.lookup arn = none → s'.kept.lookup arn = none
  exchanges : ∃ new new', s.trace = start ++ new ∧ s'.trace = start' ++ new' ∧
    Exchange.Beside p services new new'

namespace Scene.Beside

variable [Json.Limits] {p : Pipeline (Traced σ)} {services : Services σ}
  {start start' : List Exchange} {s s' after after' : Scene (Traced σ)}

/-- With the same secrets as before they stay side by side, if what they exchange does. -/
theorem go_on (h : s.Beside p services start start' s') (hkept : after.kept = s.kept)
    (hkept' : after'.kept = s'.kept) {more more' : List Exchange}
    (htrace : after.trace = s.trace ++ more) (htrace' : after'.trace = s'.trace ++ more')
    (hmore : ∀ {new new'}, Exchange.Beside p services new new' →
      Exchange.Beside p services (new ++ more) (new' ++ more')) :
    after.Beside p services start start' after' where
  given := by
    rw [Scene.KeepsGiven, hkept]
    exact h.given
  given' := by
    rw [Scene.KeepsGiven, hkept']
    exact h.given'
  kept := by
    rw [hkept, hkept']
    exact h.kept
  exchanges := by
    obtain ⟨new, new', hnew, hnew', hbeside⟩ := h.exchanges
    exact ⟨new ++ more, new' ++ more', by rw [htrace, hnew, List.append_assoc],
      by rw [htrace', hnew', List.append_assoc], hmore hbeside⟩

/-- What leaves the exchanges and the secrets alone is of no account. -/
theorem of_eq (h : s.Beside p services start start' s') (hkept : after.kept = s.kept)
    (hkept' : after'.kept = s'.kept) (htrace : after.trace = s.trace)
    (htrace' : after'.trace = s'.trace) : after.Beside p services start start' after' :=
  h.go_on hkept hkept' (by rw [htrace, List.append_nil]) (by rw [htrace', List.append_nil])
    fun hnew => by simpa using hnew

section Secrets

variable (h : s.Beside p services start start' s') {arn : Text} {secret : Secret}
  (hgiven : ∀ outside, ((services.secret arn).run outside).1 >>= Vault.ofAnswer arn = .ok secret)

include h hgiven

/-- Both keep a secret that was given. -/
theorem keep : (s.keep arn secret).Beside p services start start' (s'.keep arn secret) where
  given := h.given.keep hgiven
  given' := h.given'.keep hgiven
  kept other hnone := by
    rw [lookup_keep, Option.or_eq_none_iff] at hnone ⊢
    exact ⟨h.kept other hnone.1, hnone.2⟩
  exchanges := h.exchanges

/-- The fresh worker keeps a secret that the warm one has kept before. -/
theorem keep_fresh (hkept : s.kept.lookup arn = some secret) :
    s.Beside p services start start' (s'.keep arn secret) where
  given := h.given
  given' := h.given'.keep hgiven
  kept other hnone := by
    rw [lookup_keep, h.kept other hnone, Option.none_or, if_neg]
    rintro rfl
    cases hkept.symm.trans hnone
  exchanges := h.exchanges

end Secrets

end Scene.Beside

/-! ## Pulls -/

namespace Worker

section Steady

variable [Platform] {services : Services σ} (hsteady : services.IsSteady) (p : Pipeline (Traced σ))
  (start start' : List Exchange)

include hsteady

/-- A secret comes to the same whether it is kept or asked for. -/
theorem get_beside (arn : Text) :
    Act.Agrees (Scene.Beside p services start start') (Vault.get services.traced arn)
      (Vault.get services.traced arn) := by
  refine .of_runOn fun s s' hs => ?_
  cases hkept : s.kept.lookup arn with
  | some secret =>
    have hstore := hs.given arn secret hkept
    rw [Vault.runOn_get_of_kept hkept]
    cases hkept' : s'.kept.lookup arn with
    | some secret' =>
      rw [Vault.runOn_get_of_kept hkept']
      cases (hstore s'.outside.inner).symm.trans (hs.given' arn secret' hkept' s'.outside.inner)
      exact ⟨rfl, hs⟩
    | none =>
      have hanswer : ((services.traced.secret arn).run s'.outside).1 >>= Vault.ofAnswer arn =
        .ok secret := hstore s'.outside.inner
      have hasked : s.Beside p services start start' (Vault.asked services.traced arn s') :=
        hs.go_on rfl rfl (List.append_nil _).symm rfl fun hnew => by
          simpa using hnew.kept arn _
      rw [Vault.runOn_get_of_not_kept hkept', Vault.runOn_fetch, hanswer]
      exact ⟨rfl, hasked.keep_fresh hstore hkept⟩
  | none =>
    have hsame : ((services.traced.secret arn).run s.outside).1 =
      ((services.traced.secret arn).run s'.outside).1 := hsteady.secret arn _ _
    have hasked : (Vault.asked services.traced arn s).Beside p services start start'
        (Vault.asked services.traced arn s') := by
      refine hs.go_on rfl rfl rfl rfl fun hnew => ?_
      have hboth := hnew.secret arn ((services.secret arn).run s.outside.inner).1
      rwa [hsteady.secret arn s.outside.inner s'.outside.inner] at hboth ⊢
    rw [Vault.runOn_get_of_not_kept hkept, Vault.runOn_get_of_not_kept (hs.kept arn hkept),
      Vault.runOn_fetch, Vault.runOn_fetch, hsame]
    cases hanswer : ((services.traced.secret arn).run s'.outside).1 >>= Vault.ofAnswer arn with
    | ok secret =>
      -- the store will not say anything else
      have hgiven : ∀ outside,
          ((services.secret arn).run outside).1 >>= Vault.ofAnswer arn = .ok secret := by
        intro outside
        rw [hsteady.secret arn outside s'.outside.inner]
        exact hanswer
      exact ⟨rfl, hasked.keep hgiven⟩
    | error fault => exact ⟨rfl, hasked⟩

theorem pull_beside (route : Route) :
    Act.Agrees (Scene.Beside p services start start') (PageConnector.pull services.traced route)
      (PageConnector.pull services.traced route) := by
  refine PageConnector.pull_of_get (V := Eq)
    (fun arn => Act.Matches.eq_iff.mpr (get_beside hsteady p start start' arn)) ?_ ?_ ?_ route
  · refine .of_runOn fun s s' hs => ?_
    exact ⟨congrArg Except.ok (hsteady.now s.outside.inner s'.outside.inner),
      hs.of_eq rfl rfl rfl rfl⟩
  · rintro url route params secret _ rfl
    generalize (⟨url, PageConnector.headers route secret, params, PageConnector.timeout⟩ :
      PageRequest) = request
    refine .of_runOn fun s s' hs => ?_
    have hsame := hsteady.page request s.outside.inner s'.outside.inner
    refine ⟨congrArg Except.ok hsame, hs.go_on rfl rfl rfl rfl fun hnew => ?_⟩
    have hboth := hnew.page request ((services.page request).run s.outside.inner).1
    rwa [hsame] at hboth ⊢
  · exact fun lines => .of_runOn fun s s' hs => ⟨rfl, hs.of_eq rfl rfl rfl rfl⟩

/-! ## Batches -/

/-- Data is taken alike, whatever the keys. -/
theorem put_beside (data : Bytes) (source : Text) {id id' : Text} (hid : services.Gives id)
    (hid' : services.Gives id') {s s' : Scene (Traced σ)}
    (hs : s.Beside p services start start' s') :
    ∃ r after after',
      (p.writer.put services.traced (ArchiveWriter.key source id) data).runOn s = (r, after) ∧
      (p.writer.put services.traced (ArchiveWriter.key source id') data).runOn s' = (r, after') ∧
      after.Beside p services start start' after' := by
  unfold ArchiveWriter.put
  cases hbody : p.writer.codec.compress data with
  | error fault =>
    rw [Act.runOn_bind_of_error (Act.runOn_liftM_error ..),
      Act.runOn_bind_of_error (Act.runOn_liftM_error ..)]
    exact ⟨_, _, _, rfl, rfl, hs⟩
  | ok body =>
    rw [Act.runOn_bind_of_ok (Act.runOn_liftM_ok ..), Act.runOn_bind_of_ok (Act.runOn_liftM_ok ..),
      Act.runOn_demand, Act.runOn_demand]
    have hsame := hsteady.store p.writer.bucket source body id id' hid hid' s.outside.inner
      s'.outside.inner
    refine ⟨_, _, _, rfl, Prod.ext hsame.symm rfl, hs.go_on rfl rfl rfl rfl fun hnew => ?_⟩
    have hboth := hnew.store source hid hid' hbody
      ((services.store (p.objectOf source id body)).run s.outside.inner).1
    rw [Pipeline.objectOf, Pipeline.objectOf, hsame] at hboth
    rwa [hsame]

/-- Data is archived alike, whatever the keys. -/
theorem archiveAs_beside (data : Bytes) (source : Text) {id id' : Text} (hid : services.Gives id)
    (hid' : services.Gives id') {s s' : Scene (Traced σ)}
    (hs : s.Beside p services start start' s') :
    (Floor.afterArchive source ((p.writer.archiveAs services.traced source
        (ArchiveWriter.key source id) data).runOn s).1).keyless =
      (Floor.afterArchive source ((p.writer.archiveAs services.traced source
        (ArchiveWriter.key source id') data).runOn s').1).keyless ∧
    ((p.writer.archiveAs services.traced source (ArchiveWriter.key source id) data).runOn
        s).2.Beside p services start start'
      ((p.writer.archiveAs services.traced source (ArchiveWriter.key source id') data).runOn
        s').2 := by
  obtain ⟨r, after, after', hput, hput', hafter⟩ :=
    put_beside hsteady p start start' data source hid hid' hs
  cases r with
  | ok _ =>
    rw [Pipeline.archiveAs_of_ok services.traced hput source,
      Pipeline.archiveAs_of_ok services.traced hput' source]
    exact ⟨rfl, hafter⟩
  | error fault =>
    obtain ⟨shown, lines, hstage, hscene⟩ :=
      Pipeline.archiveAs_of_error services.traced hput source
    obtain ⟨shown', lines', hstage', hscene'⟩ :=
      Pipeline.archiveAs_of_error services.traced hput' source
    rw [hstage, hstage', hscene, hscene', Floor.keyless_afterFault, Floor.keyless_afterFault]
    exact ⟨rfl, hafter.of_eq rfl rfl rfl rfl⟩

theorem settle_beside (data : Bytes) (source : Text) {s s' : Scene (Traced σ)}
    (hs : s.Beside p services start start' s') :
    ((p.settle services.traced data source).run s).1.keyless =
        ((p.settle services.traced data source).run s').1.keyless ∧
      ((p.settle services.traced data source).run s).2.Beside p services start start'
        ((p.settle services.traced data source).run s').2 := by
  by_cases hdata : data = []
  · subst hdata
    exact ⟨rfl, hs.of_eq rfl rfl rfl rfl⟩
  · show (Floor.afterArchive source
        ((p.writer.archive services.traced data source).runOn s).1).keyless =
        (Floor.afterArchive source
          ((p.writer.archive services.traced data source).runOn s').1).keyless ∧
      ((p.writer.archive services.traced data source).runOn s).2.Beside p services start start'
        ((p.writer.archive services.traced data source).runOn s').2
    rw [p.writer.runOn_archive_of_ne_nil _ hdata, p.writer.runOn_archive_of_ne_nil _ hdata]
    -- lines are written and an identifier is drawn before the data is stored
    have hdrawn : (p.writer.drawn services.traced source s).Beside p services start start'
      (p.writer.drawn services.traced source s') := hs.of_eq rfl rfl rfl rfl
    exact archiveAs_beside hsteady p start start' data source ⟨s.outside.inner, rfl⟩
      ⟨s'.outside.inner, rfl⟩ hdrawn

/-- A warm worker and a fresh one go on side by side. -/
theorem parallel_make (routing : Routing) (writer : ArchiveWriter) (cap : Option Int) :
    (make services.traced routing writer cap).Parallel
      (Scene.Beside (make services.traced routing writer cap) services start start')
      (make services.traced routing writer cap) services.traced services.traced where
  write _ _ _ _ hs := hs.of_eq rfl rfl rfl rfl
  pass _ _ _ hs := hs.of_eq rfl rfl rfl rfl
  routing := rfl
  cap := rfl
  begin task := by
    rw [begin_make]
    split
    · exact Agree.bind (pull_beside hsteady _ start start' task.route) fun answer => .pure _
    · exact .pure _
  settle data source _ _ hs := settle_beside hsteady _ start start' data source hs

/-- An event is handled alike, but for the keys. -/
theorem handle_beside (routing : Routing) (writer : ArchiveWriter) (cap : Option Int)
    (event : Json) :
    Act.Matches (Scene.Beside (make services.traced routing writer cap) services start start')
      BatchResult.SameButKeys
      (handle (make services.traced routing writer cap) services.traced event)
      (handle (make services.traced routing writer cap) services.traced event) := by
  refine Act.Matches.bind (V := Eq) ?_ fun _ _ _ => Act.Matches.bind (V := Eq) ?_
    fun messages _ hmessages => ?_
  · exact fun s s' hs => ⟨.ok rfl, hs.of_eq rfl rfl rfl rfl⟩
  · exact Act.Matches.eq_iff.mpr (.liftExcept _)
  · subst hmessages
    exact (parallel_make hsteady start start' routing writer cap).process messages

/-- Whatever events come, what is kept is what the store gives. -/
theorem serve_keepsGiven (routing : Routing) (writer : ArchiveWriter) (cap : Option Int)
    (events : List Json) {s : Scene (Traced σ)} (hs : s.KeepsGiven services) :
    (serve (make services.traced routing writer cap) services.traced events s).KeepsGiven
      services := by
  induction events generalizing s with
  | nil => exact hs
  | cons event events ih =>
    -- a scene is beside itself before the event, and so it is after it
    have hself : s.Beside (make services.traced routing writer cap) services s.trace s.trace s :=
      ⟨hs, hs, fun _ h => h, [], [], (List.append_nil _).symm, (List.append_nil _).symm, .nil⟩
    exact ih (handle_beside hsteady s.trace s.trace routing writer cap event hself).2.given

end Steady

/-- A worker that has just started keeps no secret. -/
theorem kept_eq_nil_of_start [Platform] {services : Services σ} {files : FileTree}
    {env : Environment} {outside : σ} {p : Pipeline σ} {s : Scene σ}
    (h : (startFrom services files env).runOn (.start outside) = (.ok p, s)) : s.kept = [] := by
  have hleads := start_leads services (I := fun s => s.kept = []) (fun _ _ hs => hs)
    (fun _ _ hs => hs) (fun _ _ _ hs => hs) files env (.start outside) rfl
  rw [h] at hleads
  exact hleads.1 _ rfl

/--
**Batches do not influence each other.**

Take services whose answers do not change, a worker that has handled any events before, and a worker
that was made afresh. They handle an event alike: they end in the same fault, or report the same ids
in the same order; they ask for the same pages; they store the same data of the same sources, each
under keys of its own, and if the codec loses nothing, this is the data that the objects hold; and
the warm worker asks for no secret that the fresh one does not ask for.
-/
theorem batches_do_not_influence_each_other [Platform] {services : Services σ}
    (hsteady : services.IsSteady)
    {files : FileTree} {env : Environment} {outside outside' : σ} {p p' : Pipeline (Traced σ)}
    {s₀ fresh : Scene (Traced σ)}
    (hstart : (startFrom services.traced files env).runOn (.start ⟨outside, []⟩) = (.ok p, s₀))
    (hfresh : (startFrom services.traced files env).runOn (.start ⟨outside', []⟩) =
      (.ok p', fresh))
    (earlier : List Json) (event : Json) :
    Corresponds BatchResult.SameButKeys
        ((handle p services.traced event).runOn (serve p services.traced earlier s₀)).1
        ((handle p' services.traced event).runOn fresh).1 ∧
      ∃ new new' archived,
        ((handle p services.traced event).runOn (serve p services.traced earlier s₀)).2.trace =
          (serve p services.traced earlier s₀).trace ++ new ∧
        ((handle p' services.traced event).runOn fresh).2.trace = fresh.trace ++ new' ∧
        new.filterMap Exchange.request? = new'.filterMap Exchange.request? ∧
        List.Forall₂ (p.Archives services.traced) archived (new.filterMap Exchange.stored?) ∧
        List.Forall₂ (p'.Archives services.traced) archived (new'.filterMap Exchange.stored?) ∧
        (Platform.codec.IsLossless →
          List.Forall₂ (p.Holds services.traced) archived (new.filterMap Exchange.stored?) ∧
          List.Forall₂ (p'.Holds services.traced) archived (new'.filterMap Exchange.stored?)) ∧
        (new.filterMap Exchange.asked?).Sublist (new'.filterMap Exchange.asked?) := by
  obtain rfl : p = p' := startFrom_unique hstart hfresh
  have hnothing : s₀.KeepsGiven services ∧ fresh.KeepsGiven services := by
    constructor <;> intro arn secret hkept
    · rw [kept_eq_nil_of_start hstart] at hkept
      cases hkept
    · rw [kept_eq_nil_of_start hfresh] at hkept
      cases hkept
  obtain ⟨settings, sources, routing, bucket, -, rfl⟩ := start_eq_ok hstart
  have hbeside : (serve (make services.traced routing (.ofBucket bucket) settings.cap)
      services.traced earlier s₀).Beside (make services.traced routing (.ofBucket bucket)
        settings.cap) services _ fresh.trace fresh :=
    { given := serve_keepsGiven hsteady routing _ _ earlier hnothing.1
      given' := hnothing.2
      kept := fun arn _ => by rw [kept_eq_nil_of_start hfresh]; rfl
      exchanges := ⟨[], [], (List.append_nil _).symm, (List.append_nil _).symm, .nil⟩ }
  obtain ⟨hresults, hafter⟩ := handle_beside hsteady _ _ routing (.ofBucket bucket) settings.cap
    event hbeside
  obtain ⟨new, new', hnew, hnew', hexchanges⟩ := hafter.exchanges
  obtain ⟨archived, hstored, hstored'⟩ := hexchanges.exists_archived
  exact ⟨hresults, new, new', archived, hnew, hnew', hexchanges.requests_eq, hstored, hstored',
    fun hw => ⟨hstored.imp fun _ _ h => h.holds hw, hstored'.imp fun _ _ h => h.holds hw⟩,
    hexchanges.asked_sublist⟩

/-! ### Over a counter -/

attribute [local instance] Platform.builtIn

theorem counter_isSteady (stored : Text → Text) : (Counter.services stored).IsSteady where
  secret _ _ _ := rfl
  page _ _ _ := rfl
  now _ _ := rfl
  store _ _ _ _ _ _ _ _ _ := rfl

/-- A worker that is asked once more for the same source asks for the page again, with the secret
that it has kept; a fresh one has to ask for the secret. -/
theorem second_event_asks_for_no_secret :
    ∃ s₀ new new',
      (startFrom counter Counter.files Counter.environment).runOn (.start ⟨(), []⟩) =
        (.ok counterWorker, s₀) ∧
      ((handle counterWorker counter Counter.event).runOn
        (serve counterWorker counter [Counter.event] s₀)).2.trace =
          (serve counterWorker counter [Counter.event] s₀).trace ++ new ∧
      ((handle counterWorker counter Counter.event).runOn s₀).2.trace = s₀.trace ++ new' ∧
      new.filterMap Exchange.request? = new'.filterMap Exchange.request? ∧
      new.filterMap Exchange.asked? = [] ∧
      new'.filterMap Exchange.asked? = [Text.ofString "A"] := by
  obtain ⟨s₀, hstart⟩ := counter_starts
  obtain ⟨-, new, new', -, hnew, hnew', hpages, -⟩ :=
    batches_do_not_influence_each_other (counter_isSteady (Counter.stored "t")) hstart hstart
      [Counter.event] Counter.event
  refine ⟨s₀, new, new', hstart, hnew, hnew', hpages, ?_⟩
  obtain ⟨houtside, hkept⟩ : s₀.outside = ⟨(), []⟩ ∧ s₀.kept = [] := by
    have hleads := start_leads counter
      (I := fun s => s.outside = ⟨(), []⟩ ∧ s.kept = []) (fun _ _ hs => hs) (fun _ _ hs => hs)
      (fun _ _ _ hs => hs) Counter.files Counter.environment (.start ⟨(), []⟩) ⟨rfl, rfl⟩
    rw [hstart] at hleads
    exact hleads.1 _ rfl
  clear hstart
  obtain ⟨outside, kept, lines, journal, polling, clock, printed⟩ := s₀
  cases houtside
  cases hkept
  have hfirst : (serve counterWorker counter [Counter.event]
      ⟨⟨(), []⟩, [], lines, journal, polling, clock, printed⟩).trace.filterMap Exchange.asked? =
      [Text.ofString "A"] := by cbv
  have hsecond : (serve counterWorker counter [Counter.event, Counter.event]
      ⟨⟨(), []⟩, [], lines, journal, polling, clock, printed⟩).trace.filterMap Exchange.asked? =
      [Text.ofString "A"] := by cbv
  have hasked := congrArg (List.filterMap Exchange.asked?) hnew
  have hasked' := congrArg (List.filterMap Exchange.asked?) hnew'
  rw [List.filterMap_append] at hasked hasked'
  refine ⟨List.self_eq_append_right.mp (hsecond.symm.trans (hasked.trans ?_)),
    hasked'.symm.trans hfirst⟩
  exact congrArg (· ++ new.filterMap Exchange.asked?) hfirst

end Worker

end LogHarvest
