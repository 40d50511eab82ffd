import LogHarvest.CommandLine
import LogHarvest.Proofs.Activity

/-!
# Starting up

Before anything else the settings are read from the environment, and the catalog from the folder
that they name. Both announce what they cannot use by faults that forbid to start
(`forbidsStart`). Some faults are not announced that way and escape; here it is said exactly when:

* a variable with JSON in it goes beyond the limits of the reader (`Settings.Exceeds`)
* the folder of the catalog is a plain file, or cannot be listed
* the YAML reader fails on a declaration other than with a fault of the document
  (`Catalog.IsGarbled`), and this declaration is the first one that cannot be used
-/

namespace LogHarvest

open CommandLine (forbidsStart)

variable {α β : Type}

/-! ## Announced faults -/

/-- There is a result, or a fault that forbids to start. -/
def IsAnnounced (r : Except Fault α) : Prop := ∀ fault, r = .error fault → forbidsStart fault = true

theorem isAnnounced_ok (a : α) : IsAnnounced (.ok a) := fun _ h => (by cases h)

theorem isAnnounced_catalog (reason : CatalogFault) :
    IsAnnounced (.error (.catalog reason) : Except Fault α) := by
  rintro _ ⟨⟩
  rfl

theorem not_isAnnounced {fault : Fault} (h : forbidsStart fault = false) :
    ¬ IsAnnounced (.error fault : Except Fault α) := by
  intro hannounced
  have htrue := hannounced fault rfl
  rw [h] at htrue
  cases htrue

/-- Behind a part that succeeds the rest decides, and a fault of the first part is that of the
whole. -/
theorem isAnnounced_bind_iff (r : Except Fault α) (next : α → Except Fault β) :
    IsAnnounced (r >>= next) ↔ IsAnnounced r ∧ ∀ a, r = .ok a → IsAnnounced (next a) := by
  cases r with
  | ok a =>
    refine ⟨fun h => ⟨isAnnounced_ok a, ?_⟩, fun h => h.2 a rfl⟩
    rintro _ ⟨⟩
    exact h
  | error fault =>
    refine ⟨fun h => ⟨?_, fun _ h => (by cases h)⟩, fun h => ?_⟩
    · rintro _ ⟨⟩
      exact h fault rfl
    · rintro _ ⟨⟩
      exact h.1 fault rfl

theorem isAnnounced_map_iff (r : Except Fault α) (f : α → β) :
    IsAnnounced (r.map f) ↔ IsAnnounced r := by
  cases r with
  | ok a => exact iff_of_true (isAnnounced_ok _) (isAnnounced_ok a)
  | error fault =>
    constructor <;>
    · rintro h _ ⟨⟩
      exact h fault rfl

/-! ## Settings -/

/-- No value stands in the empty text. -/
theorem Json.read_nil [Json.Limits] : Json.read [] = .error (.malformed .value (.at [] 0)) := by
  have hvalue : readValue depthLimit (dropSpace []) = .error (.problem .value 0) := by
    rw [readValue.eq_def]
    rfl
  rw [read, readDocument.eq_def]
  dsimp only
  rw [hvalue]
  rfl

namespace Settings

/-- The text of a variable is beyond the limits of the JSON reader. -/
def Exceeds [Json.Limits] (env : Environment) (name : Text) : Prop :=
  ∃ raw fault, env.lookup name = some raw ∧ Json.read raw = .error fault ∧
    ∀ problem place, fault ≠ .malformed problem place

theorem isAnnounced_jsonVariable_iff [Json.Limits] (env : Environment) (name : Text) :
    IsAnnounced (jsonVariable env name) ↔ ¬ Exceeds env name := by
  unfold jsonVariable
  split
  · next hlookup =>
    refine iff_of_true (isAnnounced_catalog _) ?_
    rintro ⟨raw, fault, hraw, -, -⟩
    cases hlookup.symm.trans hraw
  · next hlookup =>
    refine iff_of_true (isAnnounced_catalog _) ?_
    rintro ⟨raw, fault, hraw, hread, hfault⟩
    cases hlookup.symm.trans hraw
    cases Json.read_nil.symm.trans hread
    exact hfault _ _ rfl
  · next raw hempty hlookup =>
    split
    · next v hread =>
      refine iff_of_true (isAnnounced_ok v) ?_
      rintro ⟨_, fault, hraw, hfault, -⟩
      cases hlookup.symm.trans hraw
      cases hread.symm.trans hfault
    · next problem place hread =>
      refine iff_of_true (isAnnounced_catalog _) ?_
      rintro ⟨_, fault, hraw, hread', hfault⟩
      cases hlookup.symm.trans hraw
      cases hread.symm.trans hread'
      exact hfault problem place rfl
    · next fault hfault hread =>
      refine iff_of_false (not_isAnnounced rfl) ?_
      exact not_not_intro ⟨raw, fault, hlookup, hread, hfault⟩

theorem isAnnounced_readTypes (v : Json) : IsAnnounced (readTypes v) := by
  unfold readTypes
  split
  · split
    · exact isAnnounced_ok _
    · exact isAnnounced_catalog _
  · exact isAnnounced_catalog _

theorem isAnnounced_readSecretArns (v : Json) : IsAnnounced (readSecretArns v) := by
  unfold readSecretArns
  split
  · exact isAnnounced_ok _
  · exact isAnnounced_catalog _

theorem isAnnounced_readCap (text : Option Text) : IsAnnounced (readCap text) := by
  unfold readCap
  split
  · exact isAnnounced_ok _
  · exact isAnnounced_ok _
  · split
    · exact isAnnounced_catalog _
    · split
      · exact isAnnounced_catalog _
      · exact isAnnounced_ok _

/-- The environment gives connector types. -/
def GivesTypes [Json.Limits] (env : Environment) : Prop :=
  ∃ v types, jsonVariable env (Text.ofString "PULLER_LOG_SOURCE_TYPES") = .ok v ∧
    readTypes v = .ok types

theorem isAnnounced_ofEnvironment_iff [Json.Limits] (env : Environment) :
    IsAnnounced (ofEnvironment env) ↔
      ¬ Exceeds env (Text.ofString "PULLER_LOG_SOURCE_TYPES") ∧
        (GivesTypes env → ¬ Exceeds env (Text.ofString "SECRET_ARNS")) := by
  rw [ofEnvironment, isAnnounced_bind_iff, isAnnounced_jsonVariable_iff]
  refine and_congr_right fun _ => ?_
  constructor
  · rintro h ⟨v, types, hv, htypes⟩
    have htail := ((isAnnounced_bind_iff _ _).mp (h v hv)).2 types htypes
    exact (isAnnounced_jsonVariable_iff _ _).mp ((isAnnounced_bind_iff _ _).mp htail).1
  · intro h v hv
    refine (isAnnounced_bind_iff _ _).mpr ⟨isAnnounced_readTypes v, fun types htypes => ?_⟩
    refine (isAnnounced_bind_iff _ _).mpr
      ⟨(isAnnounced_jsonVariable_iff _ _).mpr (h ⟨v, types, hv, htypes⟩), fun w _ => ?_⟩
    refine (isAnnounced_bind_iff _ _).mpr ⟨isAnnounced_readSecretArns w, fun arns _ => ?_⟩
    exact (isAnnounced_bind_iff _ _).mpr ⟨isAnnounced_readCap _, fun cap _ => isAnnounced_ok _⟩

end Settings

/-! ## The catalog -/

namespace Catalog

/-- The path leads to a folder. -/
def LeadsToFolder (files : FileTree) (path : Text) : Prop :=
  (files.find? path).any FileTree.isFolder = true

instance (files : FileTree) (path : Text) : Decidable (LeadsToFolder files path) :=
  inferInstanceAs (Decidable (_ = true))

/-- Whether this is a folder whose entries can be listed. -/
def isListable : FileTree → Bool
  | .folder _ => true
  | _ => false

/-- The path leads to something that cannot be listed: a plain file, or a folder. -/
def CannotBeListed (files : FileTree) (path : Text) : Prop :=
  ∃ tree, files.find? path = some tree ∧ isListable tree = false

theorem exists_fault_of_cannotBeListed {files : FileTree} {path : Text}
    (h : CannotBeListed files path) : files.checkPath path = .ok () ∧
      ∃ fault, files.list path = .error fault ∧ forbidsStart fault = false := by
  obtain ⟨tree, hfind, hcannot⟩ := h
  rw [FileTree.checkPath, FileTree.list, hfind]
  refine ⟨rfl, ?_⟩
  cases tree with
  | folder entries => cases hcannot
  | _ => exact ⟨_, rfl, rfl⟩

/-- What a declaration says is never a fault. -/
theorem runOn_declared (v : Value) (lines : Array Line) :
    ∃ lines', (declared v).runOn lines = (.ok (LogSource.ofValue v).toOption, lines') := by
  unfold declared
  cases LogSource.ofValue v with
  | ok source => exact ⟨_, rfl⟩
  | error reason =>
    cases hmessage : reason.message with
    | none => exact ⟨lines, by dsimp only; rw [hmessage]; rfl⟩
    | some text => exact ⟨_, by dsimp only; rw [hmessage]; rfl⟩

variable [Platform]

/-- The YAML reader fails on the file that declares the source of a folder, and not because the file
is no document. -/
def IsGarbled (files : FileTree) (folder : Text) : Prop :=
  ∃ content fault, files.find? (FileTree.join folder configFile) = some (.file content) ∧
    Platform.yaml content = .error fault ∧ fault.ofDocument = false

theorem valueAt_of_file {files : FileTree} {path : Text} {content : Bytes}
    (h : files.find? path = some (.file content)) : valueAt files path = fileValue content := by
  rw [valueAt, FileTree.read, h]
  rfl

theorem valueAt_of_unreadable {files : FileTree} {path kind message : Text}
    (h : files.find? path = some (.unreadable kind message)) :
    valueAt files path = .error (.outside .system kind [.string message]) := by
  rw [valueAt, FileTree.read, h]
  rfl

/-- A declaration is what the YAML reader makes of it. -/
theorem readFolder_of_file {files : FileTree} {folder : Text} {content : Bytes}
    (h : files.find? (FileTree.join folder configFile) = some (.file content)) :
    readFolder files folder = match Platform.yaml content with
      | .ok v => .ok v
      | .error fault => .error (if fault.ofDocument then
          .catalog (.unreadable (FileTree.join folder configFile) fault.message)
        else .document fault) := by
  unfold readFolder
  dsimp only
  rw [valueAt_of_file h, fileValue, h]
  cases Platform.yaml content <;> rfl

theorem readFolder_of_no_file {files : FileTree} {folder : Text}
    (h : ∀ tree, files.find? (FileTree.join folder configFile) = some tree →
      tree.isFolder = true) :
    readFolder files folder = .error (.catalog (.noConfigFile folder)) := by
  unfold readFolder
  refine if_pos ?_
  cases hfind : files.find? (FileTree.join folder configFile) with
  | none => rfl
  | some tree => simp [FileTree.isFile, h tree hfind]

/-- A declaration that is no file with a content makes the catalog unusable. -/
theorem exists_catalogFault_of_no_content {files : FileTree} {folder : Text}
    (h : ∀ content, files.find? (FileTree.join folder configFile) ≠ some (.file content)) :
    ∃ reason, readFolder files folder = .error (.catalog reason) := by
  cases hfind : files.find? (FileTree.join folder configFile) with
  | none => exact ⟨_, readFolder_of_no_file (by simp [hfind])⟩
  | some tree =>
    cases tree with
    | file content => exact absurd hfind (h content)
    | unreadable kind message =>
      rw [readFolder, hfind, valueAt_of_unreadable hfind]
      exact ⟨_, rfl⟩
    | folder | unlistable => exact ⟨_, readFolder_of_no_file (by simp [hfind, FileTree.isFolder])⟩

theorem isAnnounced_readFolder_iff (files : FileTree) (folder : Text) :
    IsAnnounced (readFolder files folder) ↔ ¬ IsGarbled files folder := by
  by_cases hfile : ∃ content, files.find? (FileTree.join folder configFile) = some (.file content)
  · obtain ⟨content, hfind⟩ := hfile
    rw [readFolder_of_file hfind]
    have hgarbled : IsGarbled files folder ↔
        ∃ fault, Platform.yaml content = .error fault ∧ fault.ofDocument = false := by
      constructor
      · rintro ⟨_, fault, hfile, hfault⟩
        cases hfind.symm.trans hfile
        exact ⟨fault, hfault⟩
      · rintro ⟨fault, hfault⟩
        exact ⟨content, fault, hfind, hfault⟩
    rw [hgarbled]
    cases Platform.yaml content with
    | ok v =>
      refine iff_of_true (isAnnounced_ok v) ?_
      rintro ⟨fault, ⟨⟩, -⟩
    | error fault =>
      cases hfault : fault.ofDocument with
      | true =>
        refine iff_of_true (by simpa [hfault] using isAnnounced_catalog _) ?_
        rintro ⟨_, ⟨⟩, hfalse⟩
        cases hfault.symm.trans hfalse
      | false =>
        refine iff_of_false ?_ (not_not_intro ⟨fault, rfl, hfault⟩)
        simpa [hfault] using not_isAnnounced rfl
  · obtain ⟨reason, hread⟩ := exists_catalogFault_of_no_content fun content hfind =>
      hfile ⟨content, hfind⟩
    rw [hread]
    refine iff_of_true (isAnnounced_catalog reason) ?_
    rintro ⟨content, -, hfind, -⟩
    exact hfile ⟨content, hfind⟩

/-- An entry of the catalog that lets the reading go on: a plain file, or a folder with a
declaration that can be read. -/
def Passes (files : FileTree) (path : Text) : Prop :=
  LeadsToFolder files path → ∃ v, readFolder files path = .ok v

/-- The source of an entry, if it is a folder with a declaration of one. -/
def sourceAt (files : FileTree) (path : Text) : Option LogSource :=
  if LeadsToFolder files path then
    (readFolder files path).toOption.bind fun v => (LogSource.ofValue v).toOption
  else none

section Entries

variable {files : FileTree} {path name : Text} {rest : List Text}

/-- A plain file is ignored. -/
theorem runOn_loadFolders_of_file (h : ¬ LeadsToFolder files (FileTree.join path name))
    (lines : Array Line) : (loadFolders files path (name :: rest)).runOn lines =
      (loadFolders files path rest).runOn lines := by
  have hnot : (!(files.find? (FileTree.join path name)).any FileTree.isFolder) = true := by
    rw [Bool.eq_false_iff.mpr h]
    rfl
  rw [loadFolders, hnot]
  rfl

theorem loadFolders_of_folder (h : LeadsToFolder files (FileTree.join path name)) :
    loadFolders files path (name :: rest) = do
      let v ← liftM (readFolder files (FileTree.join path name))
      let source ← declared v
      return source.toList ++ (← loadFolders files path rest) := by
  have hnot : (!(files.find? (FileTree.join path name)).any FileTree.isFolder) = false := by
    rw [h]
    rfl
  rw [loadFolders, hnot]
  rfl

/-- The fault of an entry is that of the catalog. -/
theorem runOn_loadFolders_of_fault (h : LeadsToFolder files (FileTree.join path name))
    {fault : Fault} (hread : readFolder files (FileTree.join path name) = .error fault)
    (lines : Array Line) :
    (loadFolders files path (name :: rest)).runOn lines = (.error fault, lines) := by
  rw [loadFolders_of_folder h, hread]
  rfl

/-- Behind an entry that passes the others follow. -/
theorem runOn_loadFolders_of_passes (h : Passes files (FileTree.join path name))
    (rest : List Text) (lines : Array Line) :
    ∃ lines', (loadFolders files path (name :: rest)).runOn lines =
      ((((loadFolders files path rest).runOn lines').1.map
          ((sourceAt files (FileTree.join path name)).toList ++ ·)),
        ((loadFolders files path rest).runOn lines').2) := by
  by_cases hfolder : LeadsToFolder files (FileTree.join path name)
  · obtain ⟨v, hread⟩ := h hfolder
    obtain ⟨lines', hdeclared⟩ := runOn_declared v lines
    have hsource : sourceAt files (FileTree.join path name) = (LogSource.ofValue v).toOption := by
      rw [sourceAt, if_pos hfolder, hread]
      rfl
    have hliftM : (liftM (Except.ok v : Except Fault Value) : Noted Value).runOn lines =
        (.ok v, lines) := rfl
    refine ⟨lines', ?_⟩
    rw [hsource, loadFolders_of_folder hfolder, hread, Noted.runOn_bind_of_ok hliftM,
      Noted.runOn_bind_of_ok hdeclared, Noted.runOn_bind]
    rcases (loadFolders files path rest).runOn lines' with ⟨fault | sources, lines''⟩ <;> rfl
  · refine ⟨lines, ?_⟩
    rw [sourceAt, if_neg hfolder, runOn_loadFolders_of_file hfolder]
    rcases (loadFolders files path rest).runOn lines with ⟨fault | sources, lines''⟩ <;> rfl

end Entries

/-- The fault of the first entry that does not pass is that of the catalog. -/
theorem runOn_loadFolders_of_first {files : FileTree} {path name : Text} {before : List Text}
    {fault : Fault} (hbefore : ∀ earlier ∈ before, Passes files (FileTree.join path earlier))
    (hfolder : LeadsToFolder files (FileTree.join path name))
    (hread : readFolder files (FileTree.join path name) = .error fault) (after : List Text)
    (lines : Array Line) :
    ((loadFolders files path (before ++ name :: after)).runOn lines).1 = .error fault := by
  induction before generalizing lines with
  | nil => rw [List.nil_append, runOn_loadFolders_of_fault hfolder hread]
  | cons first before ih =>
    obtain ⟨hfirst, hrest⟩ := List.forall_mem_cons.mp hbefore
    obtain ⟨lines', hrun⟩ :=
      runOn_loadFolders_of_passes hfirst (before ++ name :: after) lines
    rw [List.cons_append, hrun, ih hrest]
    rfl

/-- Either all entries pass, or there is a first one that does not, and its fault is that of the
catalog. -/
theorem loadFolders_cases (files : FileTree) (path : Text) (names : List Text)
    (lines : Array Line) :
    (∃ sources lines', (loadFolders files path names).runOn lines = (.ok sources, lines') ∧
        ∀ name ∈ names, Passes files (FileTree.join path name)) ∨
      ∃ before name after fault lines', names = before ++ name :: after ∧
        (∀ earlier ∈ before, Passes files (FileTree.join path earlier)) ∧
        LeadsToFolder files (FileTree.join path name) ∧
        readFolder files (FileTree.join path name) = .error fault ∧
        (loadFolders files path names).runOn lines = (.error fault, lines') := by
  induction names generalizing lines with
  | nil => exact .inl ⟨[], lines, rfl, fun name h => (by cases h)⟩
  | cons first rest ih =>
    by_cases hpasses : Passes files (FileTree.join path first)
    · obtain ⟨lines₁, hrun⟩ := runOn_loadFolders_of_passes hpasses rest lines
      rcases ih lines₁ with ⟨sources, lines₂, hrest, hall⟩ |
        ⟨before, name, after, fault, lines₂, rfl, hbefore, hfolder, hread, hrest⟩
      · rw [hrest] at hrun
        exact .inl ⟨_, _, hrun, List.forall_mem_cons.mpr ⟨hpasses, hall⟩⟩
      · rw [hrest] at hrun
        exact .inr ⟨first :: before, name, after, fault, lines₂, rfl,
          List.forall_mem_cons.mpr ⟨hpasses, hbefore⟩, hfolder, hread, hrun⟩
    · -- an entry that does not pass is a folder with a fault
      obtain ⟨hfolder, hnone⟩ := Classical.not_imp.mp hpasses
      cases hread : readFolder files (FileTree.join path first) with
      | ok v => exact absurd ⟨v, hread⟩ hnone
      | error fault =>
        exact .inr ⟨[], first, rest, fault, lines, rfl, fun _ h => (by cases h), hfolder, hread,
          runOn_loadFolders_of_fault hfolder hread lines⟩

/-- The first entry of the folder at the path that cannot be used has a garbled declaration. -/
def FirstIsGarbled (files : FileTree) (path : Text) : Prop :=
  ∃ before name after, files.list path = .ok (before ++ name :: after) ∧
    (∀ earlier ∈ before, Passes files (FileTree.join path earlier)) ∧
    LeadsToFolder files (FileTree.join path name) ∧ IsGarbled files (FileTree.join path name)

theorem isAnnounced_loadFolders_iff {files : FileTree} {path : Text} {names : List Text}
    (hnames : files.list path = .ok names) (lines : Array Line) :
    IsAnnounced ((loadFolders files path names).runOn lines).1 ↔ ¬ FirstIsGarbled files path := by
  constructor
  · rintro hannounced ⟨before, name, after, hnames', hbefore, hleads, hgarbled⟩
    cases hnames.symm.trans hnames'
    -- a garbled declaration has a fault, and one that is not announced
    refine mt (isAnnounced_readFolder_iff files _).mp (not_not_intro hgarbled) ?_
    intro fault hread
    exact hannounced fault (runOn_loadFolders_of_first hbefore hleads hread after lines)
  · intro hgarbled
    rcases loadFolders_cases files path names lines with ⟨sources, lines', hrun, -⟩ |
      ⟨before, name, after, fault, lines', rfl, hbefore, hleads, hread, hrun⟩
    · rw [hrun]
      exact isAnnounced_ok sources
    · have hname : ¬ IsGarbled files (FileTree.join path name) := fun h =>
        hgarbled ⟨before, name, after, hnames, hbefore, hleads, h⟩
      have hannounced := (isAnnounced_readFolder_iff files _).mpr hname
      rw [hread] at hannounced
      rw [hrun]
      intro fault' hfault'
      cases hfault'
      exact hannounced fault rfl

/-- What becomes of a catalog that can be listed is what becomes of its entries. -/
theorem load_of_list {files : FileTree} {path : Text} {names : List Text}
    (hcheck : files.checkPath path = .ok ()) (hlist : files.list path = .ok names)
    (lines : Array Line) :
    ((load files path).runOn lines).1 = ((loadFolders files path names).runOn lines).1 := by
  have hchecked : (liftM (Except.ok () : Except Fault Unit) : Noted Unit).runOn lines =
      (.ok (), lines) := rfl
  have hlisted : (liftM (Except.ok names : Except Fault (List Text)) : Noted (List Text)).runOn
      lines = (.ok names, lines) := rfl
  rw [load, hcheck, hlist, Noted.runOn_bind_of_ok hchecked, Noted.runOn_bind_of_ok hlisted,
    Noted.runOn_bind]
  rcases (loadFolders files path names).runOn lines with ⟨fault | sources, lines'⟩ <;> rfl

theorem load_of_folder {files : FileTree} {path : Text} {entries : List (Text × FileTree)}
    (hfind : files.find? path = some (.folder entries)) (lines : Array Line) :
    ((load files path).runOn lines).1 =
      ((loadFolders files path (FileTree.names (.folder entries))).runOn lines).1 :=
  load_of_list (by rw [FileTree.checkPath, hfind]; rfl) (by rw [FileTree.list, hfind]) lines

/-- A catalog that cannot be listed ends in the fault of listing it. -/
theorem load_of_unlistable {files : FileTree} {path : Text} {fault : Fault}
    (hcheck : files.checkPath path = .ok ()) (hlist : files.list path = .error fault)
    (lines : Array Line) : ((load files path).runOn lines).1 = .error fault := by
  rw [load, hcheck, hlist]
  rfl

theorem isAnnounced_load_iff (files : FileTree) (path : Text) (lines : Array Line) :
    IsAnnounced ((load files path).runOn lines).1 ↔
      ¬ (CannotBeListed files path ∨ FirstIsGarbled files path) := by
  by_cases hcannot : CannotBeListed files path
  · obtain ⟨hcheck, fault, hlist, hfault⟩ := exists_fault_of_cannotBeListed hcannot
    rw [load_of_unlistable hcheck hlist]
    exact iff_of_false (not_isAnnounced hfault) (not_not_intro (.inl hcannot))
  · rw [or_iff_right hcannot]
    cases hfind : files.find? path with
    | none =>
      rw [load, FileTree.checkPath, hfind]
      refine iff_of_true (by rintro _ ⟨⟩; rfl) ?_
      rintro ⟨before, name, after, hlist, -⟩
      rw [FileTree.list, hfind] at hlist
      cases hlist
    | some tree =>
      cases tree with
      | folder entries =>
        rw [load_of_folder hfind, isAnnounced_loadFolders_iff (by rw [FileTree.list, hfind])]
      | _ => exact absurd ⟨_, hfind, rfl⟩ hcannot

end Catalog

/-! ## Both together -/

variable [Platform]

/-- Reads the settings, and the catalog in the folder that they name. -/
def startUp (files : FileTree) (env : Environment) : Noted (Settings × List LogSource) := do
  let settings ← liftM (Settings.ofEnvironment env)
  let sources ← Catalog.load files settings.sourcesFolder
  return (settings, sources)

/-- What is wrong with these files and variables is not announced. -/
def StartEscapes (files : FileTree) (env : Environment) : Prop :=
  Settings.Exceeds env (Text.ofString "PULLER_LOG_SOURCE_TYPES") ∨
    Settings.GivesTypes env ∧ Settings.Exceeds env (Text.ofString "SECRET_ARNS") ∨
    ∃ settings, Settings.ofEnvironment env = .ok settings ∧
      (Catalog.CannotBeListed files settings.sourcesFolder ∨
        Catalog.FirstIsGarbled files settings.sourcesFolder)

theorem runOn_startUp_of_fault {files : FileTree} {env : Environment} {fault : Fault}
    (h : Settings.ofEnvironment env = .error fault) (lines : Array Line) :
    (startUp files env).runOn lines = (.error fault, lines) := by
  rw [startUp, h]
  rfl

theorem runOn_startUp_of_settings {files : FileTree} {env : Environment} {settings : Settings}
    (h : Settings.ofEnvironment env = .ok settings) (lines : Array Line) :
    (startUp files env).runOn lines =
      (((Catalog.load files settings.sourcesFolder).runOn lines).1.map (settings, ·),
        ((Catalog.load files settings.sourcesFolder).runOn lines).2) := by
  have hliftM : (liftM (Except.ok settings : Except Fault Settings) : Noted Settings).runOn lines =
      (.ok settings, lines) := rfl
  rw [startUp, h, Noted.runOn_bind_of_ok hliftM, Noted.runOn_bind]
  rcases (Catalog.load files settings.sourcesFolder).runOn lines with ⟨fault | sources, lines'⟩ <;>
    rfl

theorem startUp_eq_error_iff {files : FileTree} {env : Environment} {lines : Array Line}
    {fault : Fault} :
    ((startUp files env).runOn lines).1 = .error fault ↔
      Settings.ofEnvironment env = .error fault ∨
        ∃ settings, Settings.ofEnvironment env = .ok settings ∧
          ((Catalog.load files settings.sourcesFolder).runOn lines).1 = .error fault := by
  cases henv : Settings.ofEnvironment env with
  | error fault' =>
    rw [runOn_startUp_of_fault henv]
    constructor
    · rintro ⟨⟩
      exact .inl rfl
    · rintro (⟨⟨⟩⟩ | ⟨settings, ⟨⟩, -⟩)
      rfl
  | ok settings =>
    rw [runOn_startUp_of_settings henv]
    constructor
    · intro h
      refine .inr ⟨settings, rfl, ?_⟩
      rcases hload : ((Catalog.load files settings.sourcesFolder).runOn lines).1 with
        fault' | sources
      · rw [hload] at h
        cases h
        rfl
      · rw [hload] at h
        cases h
    · rintro (⟨⟨⟩⟩ | ⟨_, ⟨⟩, hload⟩)
      rw [hload]
      rfl

/-- Starting up gives settings and sources, or an announced fault, but for what escapes. -/
theorem isAnnounced_startUp_iff (files : FileTree) (env : Environment) (lines : Array Line) :
    IsAnnounced ((startUp files env).runOn lines).1 ↔ ¬ StartEscapes files env := by
  have hsettings := Settings.isAnnounced_ofEnvironment_iff env
  cases henv : Settings.ofEnvironment env with
  | error fault =>
    rw [henv] at hsettings
    have hannounced : IsAnnounced ((startUp files env).runOn lines).1 ↔
        IsAnnounced (.error fault : Except Fault Settings) := by
      rw [runOn_startUp_of_fault henv]
      exact isAnnounced_map_iff (.error fault) fun settings : Settings => (settings, [])
    rw [hannounced, hsettings]
    constructor
    · rintro ⟨htypes, harns⟩ (h | ⟨hgives, h⟩ | ⟨settings, henv', -⟩)
      · exact htypes h
      · exact harns hgives h
      · cases henv.symm.trans henv'
    · intro h
      exact ⟨fun htypes => h (.inl htypes), fun hgives harns => h (.inr (.inl ⟨hgives, harns⟩))⟩
  | ok settings =>
    rw [henv] at hsettings
    rw [runOn_startUp_of_settings henv, isAnnounced_map_iff, Catalog.isAnnounced_load_iff]
    obtain ⟨htypes, harns⟩ := hsettings.mp (isAnnounced_ok settings)
    refine not_congr ?_
    constructor
    · exact fun h => .inr (.inr ⟨settings, henv, h⟩)
    · rintro (h | ⟨hgives, h⟩ | ⟨settings', henv', h⟩)
      · exact absurd h htypes
      · exact absurd h (harns hgives)
      · cases henv.symm.trans henv'
        exact h

end LogHarvest
