import LogHarvest.Proofs.Catalog.Folders
import LogHarvest.Proofs.Catalog.Startup
import LogHarvest.Proofs.Shelf
import LogHarvest.Proofs.Text.Order

/-!
# All of the catalog or none of it

The sub folders of the catalog decide what is loaded, each by what stands in the place of its
declaration. Either all of them can be read, and all sources that they declare are there in the
order of the folders; or the first one that cannot be read decides alone. The order in which the
folders are listed makes no difference, and neither do plain files beside them.
-/

namespace LogHarvest

/-! ## Declarations -/

/-- The value is a mapping with these entries, or one of the mappings around it. -/
inductive LogSource.IsMapping (around : List (List (Value × Value))) :
    Value → List (Value × Value) → Prop
  | own (entries : List (Value × Value)) : IsMapping around (.map entries) entries
  | outer {depth : Nat} {entries : List (Value × Value)} (h : around[depth]? = some entries) :
    IsMapping around (.enclosing depth true) entries

/-- The value declares the source: each field is there and of its kind. -/
inductive LogSource.Declares : Value → LogSource → Prop
  | mk {entries managed properties : List (Value × Value)} {m p : Value} {name type : Text}
    (hname : Value.find? entries "name" = some (.text name))
    (hmanaged : Value.find? entries "managed" = some m) (hm : IsMapping [entries] m managed)
    (htype : Value.find? managed "type" = some (.text type))
    (hproperties : Value.find? managed "properties" = some p)
    (hp : IsMapping [entries, managed] p properties) :
    Declares (.map entries) ⟨name, type, properties⟩

namespace LogSource

theorem entries?_eq_some_iff {around : List (List (Value × Value))} {v : Value}
    {entries : List (Value × Value)} :
    entries? around v = some entries ↔ IsMapping around v entries := by
  constructor
  · intro h
    unfold entries? at h
    split at h
    · cases h
      exact .own entries
    · exact .outer h
    · cases h
  · rintro (_ | hentries)
    · rfl
    · exact hentries

theorem textField_eq_ok_iff {entries : List (Value × Value)} {name path : String} {t : Text} :
    textField entries name path = .ok t ↔ Value.find? entries name = some (.text t) := by
  unfold textField
  split
  · next hnone => simp [hnone]
  · next other htext => simp [htext]
  · next v hother hfind =>
    refine iff_of_false (fun h => by cases h) fun h => ?_
    exact hother t (Option.some.inj (hfind.symm.trans h))

theorem mapField_eq_ok_iff {outer : List (List (Value × Value))} {name path wanted : String}
    {entries inner : List (Value × Value)} :
    mapField outer entries name path wanted = .ok inner ↔
      ∃ v, Value.find? entries name = some v ∧ IsMapping (outer ++ [entries]) v inner := by
  unfold mapField
  split
  · next hnone => simp [hnone]
  · next v hfind =>
    simp only [hfind, Option.some.injEq, exists_eq_left', ← entries?_eq_some_iff]
    cases entries? (outer ++ [entries]) v <;> simp

/-- A declaration is read as the source that it declares. -/
theorem ofValue_eq_ok_iff {v : Value} {source : LogSource} :
    ofValue v = .ok source ↔ Declares v source := by
  constructor
  · intro h
    cases v with
    | map entries =>
      obtain ⟨name, hname, h⟩ := exists_of_bind_eq_ok h
      obtain ⟨managed, hmanaged, h⟩ := exists_of_bind_eq_ok h
      obtain ⟨type, htype, h⟩ := exists_of_bind_eq_ok h
      obtain ⟨properties, hproperties, h⟩ := exists_of_bind_eq_ok h
      cases h
      obtain ⟨m, hfindManaged, hm⟩ := mapField_eq_ok_iff.mp hmanaged
      obtain ⟨p, hfindProperties, hp⟩ := mapField_eq_ok_iff.mp hproperties
      exact .mk (textField_eq_ok_iff.mp hname) hfindManaged hm (textField_eq_ok_iff.mp htype)
        hfindProperties hp
    | _ => cases h
  · rintro ⟨hname, hmanaged, hm, htype, hproperties, hp⟩
    rw [ofValue, bind_of_eq_ok (textField_eq_ok_iff.mpr hname),
      bind_of_eq_ok (mapField_eq_ok_iff.mpr ⟨_, hmanaged, hm⟩),
      bind_of_eq_ok (textField_eq_ok_iff.mpr htype),
      bind_of_eq_ok (mapField_eq_ok_iff.mpr ⟨_, hproperties, hp⟩)]
    rfl

theorem toOption_ofValue_eq_some_iff {v : Value} {source : LogSource} :
    (ofValue v).toOption = some source ↔ Declares v source := by
  rw [← ofValue_eq_ok_iff]
  cases ofValue v <;> simp [Except.toOption]

end LogSource

namespace Catalog

open FileTree (join names)

/-! ## Folders -/

/-- There is a folder of this name, with this in the place of its declaration. -/
def HasFolder (entries : List (Text × FileTree)) (name : Text) (found : Option FileTree) : Prop :=
  ∃ folder, (name, folder) ∈ entries ∧ folder.isFolder = true ∧
    folder.entries.lookup configFile = found

/-! ## The folder of the catalog -/

section Listing

variable {files : FileTree} {path : Text} {entries : List (Text × FileTree)}
  (hfind : files.find? path = some (.folder entries)) (hlisting : IsListing entries)

theorem mem_names {name : Text} :
    name ∈ names (.folder entries) ↔ ∃ file, (name, file) ∈ entries := by
  rw [names, (Text.sort_perm _).mem_iff, List.mem_map]
  exact ⟨fun ⟨e, he, hname⟩ => ⟨e.2, hname ▸ he⟩, fun ⟨file, he⟩ => ⟨_, he, rfl⟩⟩

include hlisting in
theorem pairwise_names :
    (names (.folder entries)).Pairwise fun s t => Text.compare s t = .lt :=
  Text.pairwise_lt_sort hlisting.distinct

theorem isEntryName_configFile : IsEntryName configFile :=
  ⟨by decide, by decide, by decide, by decide⟩

include hfind hlisting

/-- The path of an entry leads to the entry. -/
theorem find?_entry {name : Text} {file : FileTree} (h : (name, file) ∈ entries) :
    files.find? (join path name) = some file :=
  (FileTree.find?_join hfind rfl (hlisting.named _ h)).trans
    ((lookup_eq_some_iff_mem hlisting.distinct).mpr h)

theorem leadsToFolder_iff {name : Text} (h : name ∈ names (.folder entries)) :
    LeadsToFolder files (join path name) ↔ ∃ found, HasFolder entries name found := by
  obtain ⟨file, hmem⟩ := mem_names.mp h
  rw [LeadsToFolder, find?_entry hfind hlisting hmem, Option.any_some]
  constructor
  · exact fun hfolder => ⟨_, file, hmem, hfolder, rfl⟩
  · rintro ⟨found, folder, hmem', hfolder, -⟩
    have hsame := (lookup_eq_some_iff_mem hlisting.distinct).mpr hmem
    rw [(lookup_eq_some_iff_mem hlisting.distinct).mpr hmem', Option.some.injEq] at hsame
    exact hsame ▸ hfolder

theorem find?_configFile {name : Text} {found : Option FileTree}
    (h : HasFolder entries name found) :
    files.find? (join (join path name) configFile) = found := by
  obtain ⟨folder, hmem, hfolder, rfl⟩ := h
  exact FileTree.find?_join (find?_entry hfind hlisting hmem) hfolder isEntryName_configFile

theorem mem_filter_names {name : Text} :
    name ∈ (names (.folder entries)).filter (fun name =>
      LeadsToFolder files (join path name)) ↔ ∃ found, HasFolder entries name found := by
  rw [List.mem_filter, decide_eq_true_eq]
  constructor
  · rintro ⟨hname, hfolder⟩
    exact (leadsToFolder_iff hfind hlisting hname).mp hfolder
  · rintro ⟨found, hfound⟩
    obtain ⟨folder, hmem, -⟩ := id hfound
    have hname : name ∈ names (.folder entries) := mem_names.mpr ⟨_, hmem⟩
    exact ⟨hname, (leadsToFolder_iff hfind hlisting hname).mpr ⟨found, hfound⟩⟩

end Listing

/-! ## Declarations in folders -/

section Declarations

variable [Platform]

/-- The declaration can be read and has this value. -/
inductive Holds : Option FileTree → Value → Prop
  | mk {content : Bytes} {v : Value} (hload : Platform.yaml content = .ok v) :
    Holds (some (.file content)) v

/-- Why a folder without a declaration makes the catalog unusable: there is no file, it cannot be
read, or it is no document. -/
inductive Refuses (folder : Text) : Option FileTree → CatalogFault → Prop
  | noFile {found : Option FileTree} (h : ∀ file, found = some file → file.isFolder = true) :
    Refuses folder found (.noConfigFile folder)
  | unreadable (kind message : Text) :
    Refuses folder (some (.unreadable kind message)) (.unreadable (join folder configFile) message)
  | malformed {content : Bytes} {fault : DocumentFault}
    (hload : Platform.yaml content = .error fault) (hdocument : fault.ofDocument = true) :
    Refuses folder (some (.file content)) (.unreadable (join folder configFile) fault.message)

/-- The sources that are declared, each with the name of its folder, in the order of these names. -/
structure AreSources (entries : List (Text × FileTree)) (sources : List (Text × LogSource)) :
    Prop where
  ordered : sources.Pairwise fun a b => Text.compare a.1 b.1 = .lt
  complete : ∀ name source, (name, source) ∈ sources ↔
    ∃ found v, HasFolder entries name found ∧ Holds found v ∧ LogSource.Declares v source

/-- Of the folders that make the catalog unusable this one is the first, and this is why. -/
structure IsFirstRefused (path : Text) (entries : List (Text × FileTree)) (name : Text)
    (reason : CatalogFault) : Prop where
  refused : ∃ found, HasFolder entries name found ∧ Refuses (join path name) found reason
  first : ∀ other found reason', HasFolder entries other found →
    Refuses (join path other) found reason' → other ≠ name → Text.compare name other = .lt

section Reading

variable {files : FileTree} {folder : Text} {found : Option FileTree}

theorem readFolder_of_holds (hfound : files.find? (join folder configFile) = found) {v : Value}
    (h : Holds found v) : readFolder files folder = .ok v := by
  obtain ⟨hload⟩ := h
  rw [readFolder_of_file hfound, hload]

theorem holds_of_fileValue {content : Bytes} {v : Value}
    (h : (fileValue content).toOption = some v) : Holds (some (.file content)) v := by
  unfold fileValue at h
  cases hload : Platform.yaml content with
  | ok v' =>
    rw [hload] at h
    cases h
    exact .mk hload
  | error fault =>
    rw [hload] at h
    cases h

theorem readFolder_of_refuses (hfound : files.find? (join folder configFile) = found)
    {reason : CatalogFault} (h : Refuses folder found reason) :
    readFolder files folder = .error (.catalog reason) := by
  cases h with
  | noFile h => exact readFolder_of_no_file fun tree hfind => h tree (hfound.symm.trans hfind)
  | unreadable kind message =>
    rw [readFolder, hfound, valueAt_of_unreadable hfound]
    rfl
  | malformed hload hdocument =>
    rw [readFolder_of_file hfound, hload]
    dsimp only
    rw [if_pos hdocument]

/-- Nothing but what stands in the place of the declaration is read. -/
theorem readFolder_congr {files' : FileTree}
    (h : files.find? (join folder configFile) = files'.find? (join folder configFile)) :
    readFolder files folder = readFolder files' folder := by
  rw [readFolder, readFolder, valueAt, valueAt, FileTree.read, FileTree.read, h]

end Reading

/-! ## Reading all folders -/

section Listing

variable {files : FileTree} {path : Text} {entries : List (Text × FileTree)}
  (hfind : files.find? path = some (.folder entries)) (hlisting : IsListing entries)

include hfind hlisting

theorem passes_of_holds {name : Text} {found : Option FileTree}
    (h : HasFolder entries name found) {v : Value} (hv : Holds found v) :
    Passes files (join path name) :=
  fun _ => ⟨v, readFolder_of_holds (find?_configFile hfind hlisting h) hv⟩

theorem not_passes_of_refuses {name : Text} {found : Option FileTree}
    (h : HasFolder entries name found) {reason : CatalogFault}
    (hrefuses : Refuses (join path name) found reason) : ¬ Passes files (join path name) := by
  intro hpasses
  obtain ⟨folder, hmem, -⟩ := id h
  have hname : name ∈ names (.folder entries) := mem_names.mpr ⟨_, hmem⟩
  obtain ⟨v, hread⟩ := hpasses ((leadsToFolder_iff hfind hlisting hname).mpr ⟨found, h⟩)
  rw [readFolder_of_refuses (find?_configFile hfind hlisting h) hrefuses] at hread
  cases hread

theorem sourceAt_eq_some_iff
    (hall : ∀ name found, HasFolder entries name found → ∃ v, Holds found v) {name : Text}
    (hname : name ∈ names (.folder entries)) {source : LogSource} :
    sourceAt files (join path name) = some source ↔
      ∃ found v, HasFolder entries name found ∧ Holds found v ∧ LogSource.Declares v source := by
  have hread : ∀ {found v}, HasFolder entries name found → Holds found v →
      readFolder files (join path name) = .ok v := fun hfolder hv =>
    readFolder_of_holds (find?_configFile hfind hlisting hfolder) hv
  have hleads := leadsToFolder_iff hfind hlisting hname
  constructor
  · intro hsource
    by_cases hfolder : LeadsToFolder files (join path name)
    · obtain ⟨found, hfound⟩ := hleads.mp hfolder
      obtain ⟨v, hv⟩ := hall name found hfound
      rw [sourceAt, if_pos hfolder, hread hfound hv] at hsource
      exact ⟨found, v, hfound, hv, LogSource.toOption_ofValue_eq_some_iff.mp hsource⟩
    · rw [sourceAt, if_neg hfolder] at hsource
      cases hsource
  · rintro ⟨found, v, hfound, hv, hdeclares⟩
    rw [sourceAt, if_pos (hleads.mpr ⟨found, hfound⟩), hread hfound hv]
    exact LogSource.toOption_ofValue_eq_some_iff.mpr hdeclares

end Listing

/-! ## All folders -/

theorem runOn_loadFolders_of_all {files : FileTree} {path : Text} {names : List Text}
    (h : ∀ name ∈ names, Passes files (join path name)) (lines : Array Line) :
    ((loadFolders files path names).runOn lines).1 =
      .ok (names.filterMap fun name => sourceAt files (join path name)) := by
  induction names generalizing lines with
  | nil => rfl
  | cons name rest ih =>
    obtain ⟨hfirst, hrest⟩ := List.forall_mem_cons.mp h
    obtain ⟨lines', hrun⟩ := runOn_loadFolders_of_passes hfirst rest lines
    rw [hrun, ih hrest, List.filterMap_cons]
    cases sourceAt files (join path name) <;> rfl

/-- Plain files make no difference. -/
theorem runOn_loadFolders_filter (files : FileTree) (path : Text) (names : List Text)
    (lines : Array Line) :
    (loadFolders files path names).runOn lines =
      (loadFolders files path (names.filter fun name =>
        LeadsToFolder files (join path name))).runOn lines := by
  induction names generalizing lines with
  | nil => rfl
  | cons name rest ih =>
    by_cases hfolder : LeadsToFolder files (join path name)
    · rw [List.filter_cons_of_pos (by simpa using hfolder), loadFolders_of_folder hfolder,
        loadFolders_of_folder hfolder]
      simp only [Noted.runOn_bind, ih]
    · rw [List.filter_cons_of_neg (by simpa using hfolder), runOn_loadFolders_of_file hfolder, ih]

theorem loadFolders_congr {files files' : FileTree} {path : Text} {names : List Text}
    (h : ∀ name ∈ names, LeadsToFolder files (join path name) ∧
      LeadsToFolder files' (join path name) ∧
      readFolder files (join path name) = readFolder files' (join path name)) :
    loadFolders files path names = loadFolders files' path names := by
  induction names with
  | nil => rfl
  | cons name rest ih =>
    obtain ⟨⟨hfolder, hfolder', hread⟩, hrest⟩ := List.forall_mem_cons.mp h
    rw [loadFolders_of_folder hfolder, loadFolders_of_folder hfolder', hread, ih hrest]

theorem runOn_load_congr {files files' : FileTree} {path : Text}
    {entries entries' : List (Text × FileTree)} (hfind : files.find? path = some (.folder entries))
    (hfind' : files'.find? path = some (.folder entries')) {lines : Array Line}
    (h : (loadFolders files path (names (.folder entries))).runOn lines =
      (loadFolders files' path (names (.folder entries'))).runOn lines) :
    (load files path).runOn lines = (load files' path).runOn lines := by
  have hload : ∀ {files : FileTree} {entries : List (Text × FileTree)},
      files.find? path = some (.folder entries) → load files path = do
        let sources ← loadFolders files path (names (.folder entries))
        Noted.note .info .catalog (Text.ofString "loaded " ++ Text.ofNat sources.length ++
          Text.ofString " managed log sources from " ++ path)
        return sources := by
    intro files entries hfind
    rw [load, FileTree.checkPath, FileTree.list, hfind]
    rfl
  rw [hload hfind, hload hfind', Noted.runOn_bind, Noted.runOn_bind, h]

/-! ## The catalog -/

section Load

variable {files : FileTree} {path : Text} {entries : List (Text × FileTree)}
  (hfind : files.find? path = some (.folder entries)) (hlisting : IsListing entries)

include hfind hlisting

/-- With a declaration in each folder the catalog is made of all that they declare, in the order of
the folders. -/
theorem load_of_holds (lines : Array Line)
    (hall : ∀ name found, HasFolder entries name found → ∃ v, Holds found v) :
    ∃ sources, AreSources entries sources ∧
      ((load files path).runOn lines).1 = .ok (sources.map (·.2)) := by
  have hpasses : ∀ name ∈ names (.folder entries), Passes files (join path name) := by
    intro name hname hfolder
    obtain ⟨found, hfound⟩ := (leadsToFolder_iff hfind hlisting hname).mp hfolder
    obtain ⟨v, hv⟩ := hall name found hfound
    exact passes_of_holds hfind hlisting hfound hv hfolder
  refine ⟨(names (.folder entries)).filterMap fun name =>
    (sourceAt files (join path name)).map (name, ·), ⟨?_, fun name source => ?_⟩, ?_⟩
  · refine (pairwise_names hlisting).filterMap _ fun s t hst a ha b hb => ?_
    obtain ⟨source, -, rfl⟩ := Option.map_eq_some_iff.mp ha
    obtain ⟨source', -, rfl⟩ := Option.map_eq_some_iff.mp hb
    exact hst
  · rw [List.mem_filterMap]
    constructor
    · rintro ⟨_, hname, hsource⟩
      obtain ⟨_, hsource, ⟨⟩⟩ := Option.map_eq_some_iff.mp hsource
      exact (sourceAt_eq_some_iff hfind hlisting hall hname).mp hsource
    · rintro ⟨found, v, hfound, hdeclared⟩
      obtain ⟨folder, hmem, -⟩ := id hfound
      have hname : name ∈ names (.folder entries) := mem_names.mpr ⟨_, hmem⟩
      have hsource := (sourceAt_eq_some_iff hfind hlisting hall hname).mpr
        ⟨found, v, hfound, hdeclared⟩
      exact ⟨name, hname, by rw [hsource]; rfl⟩
  · rw [load_of_folder hfind, runOn_loadFolders_of_all hpasses, List.map_filterMap]
    simp only [Option.map_map, Function.comp_def, Option.map_id']

/-- The first folder without a declaration makes the whole catalog unusable. -/
theorem load_of_refuses (lines : Array Line)
    (hsome : ∃ name found reason, HasFolder entries name found ∧
      Refuses (join path name) found reason)
    (hboth : ∀ name found, HasFolder entries name found →
      (∃ v, Holds found v) ∨ ∃ reason, Refuses (join path name) found reason) :
    ∃ name reason, IsFirstRefused path entries name reason ∧
      ((load files path).runOn lines).1 = .error (.catalog reason) := by
  have hname : ∀ {name found}, HasFolder entries name found →
      name ∈ names (.folder entries) := fun ⟨_, hmem, _⟩ => mem_names.mpr ⟨_, hmem⟩
  rw [load_of_folder hfind]
  rcases loadFolders_cases files path (names (.folder entries)) lines with
    ⟨sources, lines', -, hall⟩ | ⟨before, name, after, fault, lines', hnames, hbefore, hfolder,
      hread, hrun⟩
  · obtain ⟨name, found, reason, hfound, hrefuses⟩ := hsome
    exact absurd (hall name (hname hfound))
      (not_passes_of_refuses hfind hlisting hfound hrefuses)
  · have hmem : name ∈ names (.folder entries) := by simp [hnames]
    obtain ⟨found, hfound⟩ := (leadsToFolder_iff hfind hlisting hmem).mp hfolder
    have hplace := find?_configFile hfind hlisting hfound
    rcases hboth name found hfound with ⟨v, hv⟩ | ⟨reason, hrefuses⟩
    · rw [readFolder_of_holds hplace hv] at hread
      cases hread
    · rw [readFolder_of_refuses hplace hrefuses] at hread
      cases hread
      refine ⟨name, reason, ⟨⟨found, hfound, hrefuses⟩, ?_⟩, by rw [hrun]⟩
      intro other found' reason' hfound' hrefuses' hne
      have hother := hname hfound'
      have hstrict := pairwise_names hlisting
      rw [hnames] at hother hstrict
      rcases List.mem_append.mp hother with hearlier | hlater
      · exact absurd (hbefore other hearlier)
          (not_passes_of_refuses hfind hlisting hfound' hrefuses')
      · have hafter := (List.mem_cons.mp hlater).resolve_left hne
        exact (List.pairwise_cons.mp (List.pairwise_append.mp hstrict).2.1).1 other hafter

/-- Nothing but the declarations in the folders has any influence. -/
theorem load_of_same_folders (lines : Array Line) {files' : FileTree}
    {entries' : List (Text × FileTree)} (hfind' : files'.find? path = some (.folder entries'))
    (hlisting' : IsListing entries')
    (hsame : ∀ name found, HasFolder entries' name found ↔ HasFolder entries name found) :
    (load files' path).runOn lines = (load files path).runOn lines := by
  have hnames : (names (.folder entries')).filter (fun name =>
        LeadsToFolder files' (join path name)) =
      (names (.folder entries)).filter fun name => LeadsToFolder files (join path name) := by
    refine Text.eq_of_pairwise_lt ((pairwise_names hlisting').filter _)
      ((pairwise_names hlisting).filter _) fun name => ?_
    rw [mem_filter_names hfind' hlisting', mem_filter_names hfind hlisting]
    exact exists_congr fun found => hsame name found
  refine runOn_load_congr hfind' hfind ?_
  rw [runOn_loadFolders_filter files', runOn_loadFolders_filter files, hnames]
  refine congrArg (Noted.runOn · lines) (loadFolders_congr fun name hname => ?_)
  obtain ⟨found, hfound⟩ := (mem_filter_names hfind hlisting).mp hname
  have hfound' := (hsame name found).mpr hfound
  have hmem' := hnames ▸ hname
  refine ⟨?_, ?_, readFolder_congr ?_⟩
  · simpa using (List.mem_filter.mp hmem').2
  · simpa using (List.mem_filter.mp hname).2
  · rw [find?_configFile hfind' hlisting' hfound', find?_configFile hfind hlisting hfound]

end Load

/--
**All of the catalog is loaded or none of it.**

Take any files where the path of the catalog leads to a folder. If each folder in it has a
declaration that is a document, the sources are those that the documents declare, each with exactly
the values in it, in the order of the code points of the folder names. If some folder has no file in
the place of the declaration, one that cannot be read or one that is no document, and each other
folder has a declaration, the catalog is unusable, and the fault is that of the first such folder in
this order. Other files with the same declarations in folders of the same names come to the same,
whatever else there is and in whatever order it is listed.
-/
theorem all_sources_are_loaded_or_none {files : FileTree} {path : Text}
    {entries : List (Text × FileTree)} (hfind : files.find? path = some (.folder entries))
    (hlisting : IsListing entries) (lines : Array Line) :
    ((∀ name found, HasFolder entries name found → ∃ v, Holds found v) →
      ∃ sources, AreSources entries sources ∧
        ((load files path).runOn lines).1 = .ok (sources.map (·.2))) ∧
    ((∃ name found reason, HasFolder entries name found ∧
        Refuses (join path name) found reason) →
      (∀ name found, HasFolder entries name found →
        (∃ v, Holds found v) ∨ ∃ reason, Refuses (join path name) found reason) →
      ∃ name reason, IsFirstRefused path entries name reason ∧
        ((load files path).runOn lines).1 = .error (.catalog reason)) ∧
    ∀ {files' : FileTree} {entries' : List (Text × FileTree)},
      files'.find? path = some (.folder entries') → IsListing entries' →
      (∀ name found, HasFolder entries' name found ↔ HasFolder entries name found) →
      (load files' path).runOn lines = (load files path).runOn lines :=
  ⟨load_of_holds hfind hlisting lines, load_of_refuses hfind hlisting lines,
    load_of_same_folders hfind hlisting lines⟩

end Declarations

/-! ### A catalog with a file that cannot be read -/

attribute [local instance] Platform.builtIn

/-- A folder with a declaration, a plain file, a folder without a declaration, and one whose
declaration cannot be read. -/
def mixed : List (Text × FileTree) :=
  [("c", .folder [(configFile, .file (Counter.declaration.map fun s => UInt8.ofNat s.code))]),
    ("0", .file []), ("b", .folder []),
    ("a", .folder [(configFile, .unreadable "PermissionError" "no permission")])]

/-- There are three folders in it. -/
theorem cases_mixed {name : Text} {found : Option FileTree} (h : HasFolder mixed name found) :
    (name = "c" ∧ found = some (.file (Counter.declaration.map fun s => UInt8.ofNat s.code))) ∨
    (name = "b" ∧ found = none) ∨
    (name = "a" ∧ found = some (.unreadable "PermissionError" "no permission")) := by
  obtain ⟨folder, hmem, hfolder, rfl⟩ := h
  simp only [mixed, List.mem_cons, Prod.mk.injEq, List.not_mem_nil, or_false] at hmem
  rcases hmem with ⟨rfl, rfl⟩ | ⟨rfl, rfl⟩ | ⟨rfl, rfl⟩ | ⟨rfl, rfl⟩
  · exact .inl ⟨rfl, rfl⟩
  · cases hfolder
  · exact .inr (.inl ⟨rfl, rfl⟩)
  · exact .inr (.inr ⟨rfl, rfl⟩)

theorem isListing_mixed : IsListing mixed := by
  refine ⟨by decide, ?_⟩
  simp only [mixed, List.forall_mem_cons, List.not_mem_nil, false_implies, implies_true, and_true]
  refine ⟨?_, ?_, ?_, ?_⟩ <;> constructor <;> decide

/-- Each of the folders has a declaration or makes the catalog unusable. -/
theorem holds_or_refuses_mixed {name folder : Text} {found : Option FileTree}
    (h : HasFolder mixed name found) :
    (∃ v, Holds found v) ∨ ∃ reason, Refuses folder found reason := by
  rcases cases_mixed h with ⟨-, rfl⟩ | ⟨-, rfl⟩ | ⟨-, rfl⟩
  · have hvalue : (fileValue
        (Counter.declaration.map fun s => UInt8.ofNat s.code)).toOption.isSome = true := by
      decide +kernel
    obtain ⟨v, hv⟩ := Option.isSome_iff_exists.mp hvalue
    exact .inl ⟨v, holds_of_fileValue hv⟩
  · exact .inr ⟨_, .noFile (by simp)⟩
  · exact .inr ⟨_, .unreadable _ _⟩

/-- The file that cannot be read comes first, so it decides, although the folder is listed last. -/
theorem first_refused_folder_decides :
    FileTree.find? (.folder [("c", .folder mixed)]) "/c" = some (.folder mixed) ∧
      IsListing mixed ∧
      ((load (.folder [("c", .folder mixed)]) "/c").runOn #[]).1 =
        .error (.catalog (.unreadable "/c/a/log_source.yml" "no permission")) := by
  have hfind : FileTree.find? (.folder [("c", .folder mixed)]) "/c" = some (.folder mixed) := rfl
  have hunreadable : HasFolder mixed "a"
      (some (.unreadable "PermissionError" "no permission")) :=
    ⟨.folder [(configFile, .unreadable "PermissionError" "no permission")], by simp [mixed], rfl,
      rfl⟩
  obtain ⟨-, hrefused, -⟩ := all_sources_are_loaded_or_none hfind isListing_mixed #[]
  obtain ⟨name, reason, hfirst, hload⟩ :=
    hrefused ⟨_, _, _, hunreadable, .unreadable _ _⟩ fun _ _ => holds_or_refuses_mixed
  obtain ⟨found, hfolder, hrefuses⟩ := hfirst.refused
  have hname : name = "a" := by
    by_contra hne
    have hlt := hfirst.first _ _ _ hunreadable (.unreadable _ _) (Ne.symm hne)
    rcases cases_mixed hfolder with ⟨rfl, -⟩ | ⟨rfl, -⟩ | ⟨rfl, -⟩
    · exact absurd hlt (by decide)
    · exact absurd hlt (by decide)
    · exact hne rfl
  subst hname
  refine ⟨hfind, isListing_mixed, ?_⟩
  rcases cases_mixed hfolder with ⟨hname, -⟩ | ⟨hname, -⟩ | ⟨-, rfl⟩
  · exact absurd hname (by decide)
  · exact absurd hname (by decide)
  · cases hrefuses with
    | noFile h => cases h _ rfl
    | unreadable kind message => exact hload

end Catalog

end LogHarvest
