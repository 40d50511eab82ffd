import LogHarvest.Proofs.Archive.Streams
import LogHarvest.Proofs.Batch.Late
import LogHarvest.Proofs.Shelf

/-!
# What archiving comes to

Logs are compressed and put into the object store under a key that is drawn first. Either step may
raise any fault, and the kind of the fault decides what becomes of it.

* `runOn_archive_of_body`: what is compressed is put into the store once, under the drawn key
* `runOn_archive_of_hindered`: a fault that belongs to the outcome ends up in it with the key; any
  other fault leaves the archive as it is
-/

namespace LogHarvest

variable {σ : Type}

/-! ## Families of faults -/

namespace Fault

/-- The fault is one of compression. -/
def IsCompression (fault : Fault) : Prop := fault.family = .compression

/-- The fault is one of the object store. -/
def IsStorage (fault : Fault) : Prop := fault.family = .storage

instance (fault : Fault) : Decidable fault.IsCompression := inferInstanceAs (Decidable (_ = _))

instance (fault : Fault) : Decidable fault.IsStorage := inferInstanceAs (Decidable (_ = _))

end Fault

namespace ArchiveWriter

/-- The line about a fault of compression. -/
def compressionLine (key : Text) (fault : Fault) : Line :=
  ⟨.error, .archive,
    Text.ofString "Error compressing data for " ++ key ++ Text.ofString ": " ++ fault.message⟩

/-- The line about a fault of the object store. -/
def storageLine (key : Text) (fault : Fault) : Line :=
  ⟨.error, .archive,
    Text.ofString "Error putting " ++ key ++ Text.ofString " to S3: " ++ fault.message⟩

theorem errorLine?_of_isCompression {fault : Fault} (h : fault.IsCompression) (key : Text) :
    errorLine? key fault = some (compressionLine key fault) := by
  unfold errorLine?
  rw [h]
  rfl

theorem errorLine?_of_isStorage {fault : Fault} (h : fault.IsStorage) (key : Text) :
    errorLine? key fault = some (storageLine key fault) := by
  unfold errorLine?
  rw [h]
  rfl

theorem errorLine?_eq_none {fault : Fault} (hc : ¬fault.IsCompression) (hs : ¬fault.IsStorage)
    (key : Text) : errorLine? key fault = none := by
  unfold errorLine?
  split
  · next h => exact absurd h hc
  · next h => exact absurd h hs
  · rfl

/-! ## One object -/

variable (w : ArchiveWriter) (services : Services σ)

/-- The object that compressed logs are stored as. -/
def object (key : Text) (body : Bytes) : StoredObject := ⟨w.bucket, key, encoding, body⟩

/-- What the store answers to compressed logs of a source, once their key has been drawn. -/
def answer (source : Text) (body : Bytes) (s : Scene σ) : Except Fault Unit :=
  ((services.store (w.object (drawnKey services source s) body)).run
    (services.freshId.run s.outside).2).1

/-- The scene after compressed logs of a source were put into the store. -/
def stored (source : Text) (body : Bytes) (s : Scene σ) : Scene σ :=
  { w.drawn services source s with
    outside := ((services.store (w.object (drawnKey services source s) body)).run
      (services.freshId.run s.outside).2).2 }

variable {w} {data body : Bytes} {fault : Fault}

/-- What cannot be compressed is not stored. -/
theorem runOn_put_of_fault (h : w.codec.compress data = .error fault) (key : Text) (s : Scene σ) :
    (w.put services key data).runOn s = (.error fault, s) := by
  rw [put, h]
  exact Act.runOn_bind_of_error (Act.runOn_liftM_error fault s) _

theorem runOn_put_of_body (h : w.codec.compress data = .ok body) (source : Text) (s : Scene σ) :
    (w.put services (drawnKey services source s) data).runOn (w.drawn services source s) =
      (w.answer services source body s, w.stored services source body s) := by
  rw [put, h, Act.runOn_bind_of_ok (Act.runOn_liftM_ok body _)]
  exact Act.runOn_demand _ _

theorem runOn_archiveAs_of_line {key : Text} {s s' : Scene σ} {line : Line}
    (hput : (w.put services key data).runOn s = (.error fault, s'))
    (hline : errorLine? key fault = some line) (source : Text) :
    (w.archiveAs services source key data).runOn s =
      (.ok (.failed (.archive source key fault)), s'.write [line]) := by
  rw [archiveAs, Act.runOn_bind, Act.runOn_attempt, hput]
  simp only [hline]
  rfl

theorem runOn_archiveAs_of_no_line {key : Text} {s s' : Scene σ}
    (hput : (w.put services key data).runOn s = (.error fault, s'))
    (hline : errorLine? key fault = none) (source : Text) :
    (w.archiveAs services source key data).runOn s = (.error fault, s') := by
  rw [archiveAs, Act.runOn_bind, Act.runOn_attempt, hput]
  simp only [hline]
  rfl

/-- What is compressed and taken is archived, with the size that it had before. -/
theorem runOn_archive_of_body (hdata : data ≠ []) (h : w.codec.compress data = .ok body)
    (source : Text) (s : Scene σ) (htaken : w.answer services source body s = .ok ()) :
    (w.archive services data source).runOn s =
      (.ok (.archived data.length (drawnKey services source s)),
        w.stored services source body s) := by
  have hput := runOn_put_of_body services h source s
  rw [htaken] at hput
  rw [w.runOn_archive_of_ne_nil services hdata]
  exact Pipeline.archiveAs_of_ok services hput source

/-! ## Faults on the way -/

variable (w) in
/-- Compression or the store raises a fault for logs of a source; the scene is the one that the
fault leaves behind. -/
inductive Hindered (source : Text) (data : Bytes) (s : Scene σ) (fault : Fault) : Scene σ → Prop
  | uncompressed (h : w.codec.compress data = .error fault) :
      Hindered source data s fault (w.drawn services source s)
  | refused {body : Bytes} (h : w.codec.compress data = .ok body)
      (hrefused : w.answer services source body s = .error fault) :
      Hindered source data s fault (w.stored services source body s)

variable {services} {source : Text} {s s' : Scene σ}

theorem Hindered.runOn_put (h : w.Hindered services source data s fault s') :
    (w.put services (drawnKey services source s) data).runOn (w.drawn services source s) =
      (.error fault, s') := by
  cases h with
  | uncompressed h => exact runOn_put_of_fault services h _ _
  | refused h hrefused =>
    rw [runOn_put_of_body services h source s, hrefused]

/-- A fault that belongs to the outcome ends up in it, with the key and with a line. -/
theorem runOn_archive_of_hindered (hdata : data ≠ [])
    (h : w.Hindered services source data s fault s') {line : Line}
    (hline : errorLine? (drawnKey services source s) fault = some line) :
    (w.archive services data source).runOn s =
      (.ok (.failed (.archive source (drawnKey services source s) fault)),
        s'.write [line]) := by
  rw [w.runOn_archive_of_ne_nil services hdata]
  exact runOn_archiveAs_of_line services h.runOn_put hline source

/-- Any other fault ends the archiving. -/
theorem runOn_archive_of_escape (hdata : data ≠ [])
    (h : w.Hindered services source data s fault s')
    (hline : errorLine? (drawnKey services source s) fault = none) :
    (w.archive services data source).runOn s = (.error fault, s') := by
  rw [w.runOn_archive_of_ne_nil services hdata]
  exact runOn_archiveAs_of_no_line services h.runOn_put hline source

/-- Nothing goes wrong, or a fault is raised. -/
theorem taken_or_hindered (w : ArchiveWriter) (services : Services σ) (source : Text)
    (data : Bytes) (s : Scene σ) :
    (∃ body, w.codec.compress data = .ok body ∧ w.answer services source body s = .ok ()) ∨
      ∃ fault s', w.Hindered services source data s fault s' := by
  cases hbody : w.codec.compress data with
  | error fault => exact Or.inr ⟨fault, _, .uncompressed hbody⟩
  | ok body =>
    cases hanswer : w.answer services source body s with
    | error fault => exact Or.inr ⟨fault, _, .refused hbody hanswer⟩
    | ok _ => exact Or.inl ⟨body, rfl, hanswer⟩

/-! ## Faithful objects -/

/-- Until a fault is raised, the lines are those about logs that are about to be stored. -/
theorem Hindered.lines (h : w.Hindered services source data s fault s') :
    s'.lines = s.lines ++ w.storing source (drawnKey services source s) := by
  cases h <;> rfl

/-- Behind them stands the line about the fault. -/
theorem Hindered.lines_write (h : w.Hindered services source data s fault s') (line : Line) :
    (s'.write [line]).lines =
      s.lines ++ (w.storing source (drawnKey services source s) ++ [line]) := by
  show s'.lines ++ [line] = _
  rw [h.lines]
  simp [← Array.toList_inj]

/-- To store an object is one call. -/
theorem calls_stored (w : ArchiveWriter) (services : Services σ) (source : Text) (body : Bytes)
    (s : Scene (Recorded σ)) :
    (w.stored services.recorded source body s).calls =
      s.calls ++ [.store (w.object (drawnKey services.recorded source s) body)
        (w.answer services.recorded source body s)] := rfl

/-- A fault makes no calls of its own. -/
theorem calls_archive_of_hindered {services : Services σ} {s s' : Scene (Recorded σ)}
    (hdata : data ≠ []) (h : w.Hindered services.recorded source data s fault s') :
    ((w.archive services.recorded data source).runOn s).2.calls = s'.calls := by
  cases hline : errorLine? (drawnKey services.recorded source s) fault with
  | none => rw [runOn_archive_of_escape hdata h hline]
  | some line =>
    rw [runOn_archive_of_hindered hdata h hline]
    exact Scene.calls_write s' [line]

/-- Whatever the store answers, it has been called once. -/
theorem calls_archive_of_body {services : Services σ} {s : Scene (Recorded σ)} (hdata : data ≠ [])
    (hbody : w.codec.compress data = .ok body) (source : Text) :
    ((w.archive services.recorded data source).runOn s).2.calls =
      s.calls ++ [.store (w.object (drawnKey services.recorded source s) body)
        (w.answer services.recorded source body s)] := by
  cases hanswer : w.answer services.recorded source body s with
  | ok _ =>
    rw [runOn_archive_of_body services.recorded hdata hbody source s hanswer, ← hanswer]
    exact calls_stored w services source body s
  | error fault =>
    rw [calls_archive_of_hindered hdata (.refused hbody hanswer), ← hanswer]
    exact calls_stored w services source body s

/--
**Archiving stores exactly one object, and a faithful one.**

Take any data, source, services and scene, and a writer whose codec is lossless. Without data
nothing is called. Otherwise a key is drawn. If compression raises, nothing is called; if it gives a
body, the body decompresses to the data and the only call puts it under the key. An object that is
taken is archived with the size of the data. A fault of compression, or of the store, ends as a
failure that carries the source, the key and the fault. The key in the lines, in the call and in the
outcome is the same one.
-/
theorem archives_one_faithful_object {w : ArchiveWriter} (hlossless : w.codec.IsLossless)
    (services : Services σ) (data : Bytes) (source : Text) (s : Scene (Recorded σ))
    {r : Except Fault Outcome} {s' : Scene (Recorded σ)}
    (hrun : (w.archive services.recorded data source).runOn s = (r, s')) :
    (data = [] → r = .ok .noNewData ∧ s'.calls = s.calls) ∧
    (data ≠ [] → ∃ id, services.Gives id ∧
      (∀ fault, w.codec.compress data = .error fault → s'.calls = s.calls ∧
        (fault.IsCompression →
          r = .ok (.failed (.archive source (key source id) fault)) ∧
          s'.lines = s.lines ++
            (w.storing source (key source id) ++ [compressionLine (key source id) fault]))) ∧
      ∀ body, w.codec.compress data = .ok body → w.codec.decompress body = .ok data ∧
        ∃ answer, services.Takes (w.object (key source id) body) answer ∧
          s'.calls = s.calls ++ [.store (w.object (key source id) body) answer] ∧
          (answer = .ok () → r = .ok (.archived data.length (key source id)) ∧
            s'.lines = s.lines ++ w.storing source (key source id)) ∧
          ∀ fault, answer = .error fault → fault.IsStorage →
            r = .ok (.failed (.archive source (key source id) fault)) ∧
            s'.lines = s.lines ++
              (w.storing source (key source id) ++ [storageLine (key source id) fault])) := by
  have hr : r = ((w.archive services.recorded data source).runOn s).1 := by rw [hrun]
  have hs' : s' = ((w.archive services.recorded data source).runOn s).2 := by rw [hrun]
  subst hr hs'
  refine ⟨?_, ?_⟩
  · rintro rfl
    rw [w.runOn_archive_nil]
    exact ⟨rfl, rfl⟩
  · intro hdata
    refine ⟨(services.recorded.freshId.run s.outside).1, ⟨s.outside.inner, rfl⟩, ?_, ?_⟩
    · intro fault hfault
      have h : w.Hindered services.recorded source data s fault _ := .uncompressed hfault
      have hcalls := calls_archive_of_hindered hdata h
      refine ⟨hcalls, ?_⟩
      intro hc
      rw [runOn_archive_of_hindered hdata h (errorLine?_of_isCompression hc _)]
      exact ⟨rfl, h.lines_write _⟩
    · intro body hbody
      refine ⟨hlossless data body hbody, w.answer services.recorded source body s, ⟨_, rfl⟩,
        calls_archive_of_body hdata hbody source, ?_, ?_⟩
      · intro htaken
        rw [runOn_archive_of_body services.recorded hdata hbody source s htaken]
        exact ⟨rfl, rfl⟩
      · intro fault hrefused hs
        have h : w.Hindered services.recorded source data s fault _ := .refused hbody hrefused
        rw [runOn_archive_of_hindered hdata h (errorLine?_of_isStorage hs _)]
        exact ⟨rfl, h.lines_write _⟩

/-- Two bytes that the shelf takes, and that another store refuses. -/
theorem two_bytes_taken_and_refused :
    let w : ArchiveWriter := ⟨Text.ofString "bucket", .stored⟩
    let source := Text.ofString "okta"
    let fault := Fault.outside .storage "ClientError" [.string "denied"]
    let refusing : Services Shelf :=
      { Shelf.services with store := fun _ => pure (.error fault) }
    let start : Scene (Recorded Shelf) := .start ⟨.empty [], []⟩
    (∃ id body s', (w.archive Shelf.services.recorded [1, 2] source).runOn start =
        (.ok (.archived 2 (key source id)), s') ∧ w.codec.decompress body = .ok [1, 2] ∧
      s'.calls = [.store (w.object (key source id) body) (.ok ())]) ∧
    ∃ id body s', (w.archive refusing.recorded [1, 2] source).runOn start =
        (.ok (.failed (.archive source (key source id) fault)), s') ∧
      s'.calls = [.store (w.object (key source id) body) (.error fault)] := by
  intro w source fault refusing start
  have hlossless : w.codec.IsLossless := Codec.isLossless_stored
  have hne : ([1, 2] : Bytes) ≠ [] := by simp
  refine ⟨?_, ?_⟩
  · obtain ⟨id, -, -, hstored⟩ :=
      (archives_one_faithful_object hlossless Shelf.services [1, 2] source start rfl).2 hne
    obtain ⟨hbody, answer, ⟨_, rfl⟩, hcalls, htaken, -⟩ := hstored _ rfl
    obtain ⟨hr, -⟩ := htaken rfl
    exact ⟨id, _, _, Prod.ext hr rfl, hbody, hcalls⟩
  · obtain ⟨id, -, -, hstored⟩ :=
      (archives_one_faithful_object hlossless refusing [1, 2] source start rfl).2 hne
    obtain ⟨-, answer, ⟨_, rfl⟩, hcalls, -, hrefused⟩ := hstored _ rfl
    obtain ⟨hr, -⟩ := hrefused fault rfl (by decide)
    exact ⟨id, _, _, Prod.ext hr rfl, hcalls⟩

/-! ## What is raised -/

/--
**Archiving fails with the key for every fault that it names, and raises every other one.**

Take logs of any length, a source, services and a scene. Where compression or the store raises a
fault, the outcome is a failure with the drawn key and this fault as its cause, if the kind of the
fault is one of compression or of the store; a fault of any other kind is raised as it is. Nothing
else is raised: where no fault is met, the logs are archived under the key.
-/
theorem fails_with_key_iff_named (w : ArchiveWriter) (services : Services σ) (source : Text)
    {data : Bytes} (hdata : data ≠ []) (s : Scene σ) :
    (∀ fault s', w.Hindered services source data s fault s' →
      (((w.archive services data source).runOn s).1 =
          .ok (.failed (.archive source (drawnKey services source s) fault)) ↔
        fault.IsCompression ∨ fault.IsStorage) ∧
      (¬(fault.IsCompression ∨ fault.IsStorage) →
        ((w.archive services data source).runOn s).1 = .error fault)) ∧
    ((¬∃ fault s', w.Hindered services source data s fault s') →
      ((w.archive services data source).runOn s).1 =
        .ok (.archived data.length (drawnKey services source s))) := by
  refine ⟨?_, ?_⟩
  · intro fault s' h
    have hnamed : fault.IsCompression ∨ fault.IsStorage →
        ((w.archive services data source).runOn s).1 =
          .ok (.failed (.archive source (drawnKey services source s) fault)) := by
      rintro (hc | hs)
      · rw [runOn_archive_of_hindered hdata h (errorLine?_of_isCompression hc _)]
      · rw [runOn_archive_of_hindered hdata h (errorLine?_of_isStorage hs _)]
    have hunnamed : ¬(fault.IsCompression ∨ fault.IsStorage) →
        ((w.archive services data source).runOn s).1 = .error fault := by
      intro hnot
      obtain ⟨hc, hs⟩ := not_or.mp hnot
      rw [runOn_archive_of_escape hdata h (errorLine?_eq_none hc hs _)]
    refine ⟨⟨?_, hnamed⟩, hunnamed⟩
    intro hfailed
    by_contra hnot
    rw [hunnamed hnot] at hfailed
    cases hfailed
  · intro hfree
    rcases taken_or_hindered w services source data s with ⟨body, hbody, htaken⟩ | hhindered
    · rw [runOn_archive_of_body services hdata hbody source s htaken]
    · exact absurd hhindered hfree

/-- What the store refuses fails with the key. -/
theorem refusal_kept_with_key :
    let w : ArchiveWriter := ⟨Text.ofString "bucket", .stored⟩
    let fault := Fault.outside .storage "ClientError" [.string "denied"]
    let refusing : Services Shelf :=
      { Shelf.services with store := fun _ => pure (.error fault) }
    ([1, 2] : Bytes) ≠ [] ∧ ((w.archive refusing [1, 2] (Text.ofString "okta")).runOn
      (.start (.empty []))).1 = .ok (.failed (.archive (Text.ofString "okta")
        (key (Text.ofString "okta") (Text.ofNat 0)) fault)) := by
  intro w fault refusing
  have hne : ([1, 2] : Bytes) ≠ [] := by simp
  have hhindered : w.Hindered refusing (Text.ofString "okta") [1, 2] (.start (.empty [])) fault _ :=
    .refused rfl rfl
  obtain ⟨hnamed, -⟩ := (fails_with_key_iff_named w refusing (Text.ofString "okta") hne
    (.start (.empty []))).1 fault _ hhindered
  exact ⟨hne, hnamed.mpr (Or.inr (by decide))⟩

/-- The fault of a full disk is none that is named: it is raised, though it is no order to end the
program. -/
theorem full_disk_escapes :
    ¬∀ (w : ArchiveWriter) (fault : Fault), fault.isInterrupt = false →
      w.codec.compress [1, 2] = .error fault →
      ∃ key, ((w.archive Shelf.services [1, 2] (Text.ofString "okta")).runOn
        (.start (.empty []))).1 = .ok (.failed (.archive (Text.ofString "okta") key fault)) := by
  intro hall
  let fault := Fault.outside .system "OSError" [.string "disk full"]
  let w : ArchiveWriter := ⟨Text.ofString "bucket", ⟨fun _ => .error fault, fun _ => .error fault⟩⟩
  obtain ⟨key, hkey⟩ := hall w fault (by decide) rfl
  have hhindered : w.Hindered Shelf.services (Text.ofString "okta") [1, 2]
      (.start (.empty [])) fault _ := .uncompressed rfl
  have hnone := errorLine?_eq_none (by decide : ¬fault.IsCompression) (by decide)
    (drawnKey Shelf.services (Text.ofString "okta") (.start (.empty [])))
  rw [runOn_archive_of_escape (by simp) hhindered hnone] at hkey
  cases hkey

end ArchiveWriter

end LogHarvest
