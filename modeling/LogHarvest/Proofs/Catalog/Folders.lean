import LogHarvest.Files
import Mathlib.Data.List.Basic

/-!
# Entries of folders

A path is cut into names at its slashes, so the path of an entry leads where the path of the folder
leads and one name further (`find?_join`). The name must be one that a folder can give to an entry:
not empty, without slashes, and neither of the names for the folder at hand and the one around it.
-/

namespace LogHarvest

/-- A name that stands for nothing but an entry. -/
structure IsEntryName (name : Text) : Prop where
  nonempty : name ≠ []
  notHere : name ≠ [.char '.']
  notAround : name ≠ [.char '.', .char '.']
  noSlash : .char '/' ∉ name

/-- The entries of a folder have names, each of them another one. -/
structure IsListing (entries : List (Text × FileTree)) : Prop where
  distinct : (entries.map (·.1)).Nodup
  named : ∀ e ∈ entries, IsEntryName e.1

/-- With distinct names an entry is found exactly if it is one of the entries. -/
theorem lookup_eq_some_iff_mem {entries : List (Text × FileTree)}
    (h : (entries.map (·.1)).Nodup) {name : Text} {inside : FileTree} :
    entries.lookup name = some inside ↔ (name, inside) ∈ entries := by
  induction entries with
  | nil => simp
  | cons e rest ih =>
    obtain ⟨hnew, hrest⟩ := List.nodup_cons.mp h
    by_cases hname : name = e.1
    · subst hname
      have hnot : (e.1, inside) ∉ rest := fun hmem => hnew (List.mem_map.mpr ⟨_, hmem, rfl⟩)
      rw [List.lookup_cons_self, Option.some_inj, List.mem_cons, or_iff_left hnot]
      exact ⟨fun hinside => by rw [← hinside], fun hmem => congrArg (·.2) hmem.symm⟩
    · have hbeq : (name == e.1) = false := by simpa using hname
      rw [List.lookup_cons, hbeq, List.mem_cons,
        or_iff_right fun hmem => hname (congrArg (·.1) hmem)]
      exact ih hrest

namespace FileTree

section Follow

variable {here : FileTree} {around : List FileTree}

/-- One name leads somewhere, from where the others are followed, or nowhere. -/
theorem follow_cons (here : FileTree) (around : List FileTree) (name : Text) :
    (∃ there outer, ∀ rest, follow here around (name :: rest) = follow there outer rest) ∨
      ∀ rest, follow here around (name :: rest) = none := by
  by_cases hfolder : here.isFolder = true
  · by_cases hhere : name = [] ∨ name = [.char '.']
    · exact .inl ⟨here, around, fun rest => by simp [follow, hfolder, hhere]⟩
    · by_cases haround : name = [.char '.', .char '.']
      · cases around with
        | nil => exact .inl ⟨here, [], fun rest => by simp [follow, hfolder, haround]⟩
        | cons outer further =>
          exact .inl ⟨outer, further, fun rest => by simp [follow, hfolder, haround]⟩
      · cases hinside : here.entries.lookup name with
        | none => exact .inr fun rest => by simp [follow, hfolder, hhere, haround, hinside]
        | some inside =>
          exact .inl ⟨inside, here :: around, fun rest => by
            simp [follow, hfolder, hhere, haround, hinside]⟩
  · exact .inr fun rest => by simp [follow, hfolder]

/-- So do several names. -/
theorem follow_append (here : FileTree) (around : List FileTree) (way : List Text) :
    (∃ there outer, ∀ more, follow here around (way ++ more) = follow there outer more) ∨
      ∀ more, follow here around (way ++ more) = none := by
  induction way generalizing here around with
  | nil => exact .inl ⟨here, around, fun _ => rfl⟩
  | cons name way ih =>
    rcases follow_cons here around name with ⟨there, outer, hfirst⟩ | hnowhere
    · rcases ih there outer with ⟨there', outer', hrest⟩ | hnowhere
      · exact .inl ⟨there', outer', fun more => (hfirst _).trans (hrest more)⟩
      · exact .inr fun more => (hfirst _).trans (hnowhere more)
    · exact .inr fun more => hnowhere _

theorem follow_entry (hfolder : here.isFolder = true) {name : Text} (h : IsEntryName name) :
    follow here around [name] = here.entries.lookup name := by
  simp only [follow, hfolder, Bool.not_true, Bool.false_eq_true, if_false, h.nonempty, h.notHere,
    h.notAround, or_self]
  cases here.entries.lookup name <;> rfl

/-- An empty name leads nowhere else. -/
theorem eq_of_follow_empty {there : FileTree} (h : follow here around [[]] = some there) :
    here = there := by
  by_cases hfolder : here.isFolder = true
  · simpa [follow, hfolder] using h
  · simp [follow, hfolder] at h

end Follow

/-- The path of an entry leads to the entry. -/
theorem find?_join {files folder : FileTree} {path name : Text}
    (hfind : files.find? path = some folder) (hfolder : folder.isFolder = true)
    (hname : IsEntryName name) : files.find? (join path name) = folder.entries.lookup name := by
  have hpath : path ≠ [] := by
    rintro rfl
    cases hfind
  rw [find?, if_neg hpath] at hfind
  have hsplit : name.splitOn (.char '/') = [name] := List.splitOn_eq_singleton hname.noSlash
  by_cases hslash : path.getLast? = some (.char '/')
  · -- the empty name behind the last slash makes way for the name of the entry
    obtain ⟨front, rfl⟩ : ∃ front, path = front ++ [.char '/'] :=
      List.getLast?_eq_some_iff.mp hslash
    have hjoin : join (front ++ [.char '/']) name = front ++ .char '/' :: name := by
      rw [join, if_pos (.inr hslash), List.append_assoc, List.singleton_append]
    rw [List.splitOn_append_cons_self, List.splitOn_nil] at hfind
    rw [hjoin, find?, if_neg (by simp), List.splitOn_append_cons_self, hsplit]
    rcases follow_append files [] (front.splitOn (.char '/')) with ⟨there, outer, hway⟩ | hnowhere
    · rw [hway] at hfind ⊢
      rw [eq_of_follow_empty hfind, follow_entry hfolder hname]
    · rw [hnowhere] at hfind
      cases hfind
  · have hjoin : join path name = path ++ .char '/' :: name := by
      rw [join, if_neg (not_or.mpr ⟨hpath, hslash⟩)]
    rw [hjoin, find?, if_neg (by simp), List.splitOn_append_cons_self, hsplit]
    rcases follow_append files [] (path.splitOn (.char '/')) with ⟨there, outer, hway⟩ | hnowhere
    · have hthere := hway []
      rw [List.append_nil, hfind, follow, Option.some.injEq] at hthere
      rw [hway, ← hthere, follow_entry hfolder hname]
    · have hnone := hnowhere []
      rw [List.append_nil, hfind] at hnone
      cases hnone

end FileTree

end LogHarvest
