import LogHarvest.Text.Basic

/-!
# Named entries

A list of entries with names, in the order in which the names first appeared, each name once. Entries are looked up
with `List.lookup`.
-/

namespace LogHarvest

variable {α : Type}

/-- The list with `name` set to `a`: a known name keeps its place, a new one goes to the end. -/
def putNamed (entries : List (Text × α)) (name : Text) (a : α) : List (Text × α) :=
  match entries with
  | [] => [(name, a)]
  | e :: rest => if e.1 = name then (name, a) :: rest else e :: putNamed rest name a

/-- The entries of a list in which a name may be repeated: the last entry of a name counts. -/
def lastNamed (entries : List (Text × α)) : List (Text × α) :=
  entries.foldl (fun out e => putNamed out e.1 e.2) []

theorem lookup_putNamed (entries : List (Text × α)) (name other : Text) (a : α) :
    (putNamed entries name a).lookup other = if other = name then some a else entries.lookup other := by
  induction entries with
  | nil =>
    by_cases h : other = name
    · simp [putNamed, h]
    · have h' : (other == name) = false := by simpa using h
      simp [putNamed, List.lookup_cons, h, h']
  | cons e rest ih =>
    obtain ⟨k, b⟩ := e
    by_cases hk : k = name
    · subst hk
      by_cases h : other = k
      · simp [putNamed, h]
      · have h' : (other == k) = false := by simpa using h
        simp [putNamed, List.lookup_cons, h, h']
    · rw [putNamed, if_neg hk]
      by_cases h : other = k
      · subst h
        simp [hk]
      · have h' : (other == k) = false := by simpa using h
        simp [List.lookup_cons, h', ih]

/-- A known name stays where it was, a new one is the last. -/
theorem map_fst_putNamed (entries : List (Text × α)) (name : Text) (a : α) :
    (putNamed entries name a).map (·.1) =
      if name ∈ entries.map (·.1) then entries.map (·.1) else entries.map (·.1) ++ [name] := by
  induction entries with
  | nil => rfl
  | cons e rest ih =>
    by_cases he : e.1 = name
    · simp [putNamed, he]
    · rw [putNamed, if_neg he, List.map_cons, ih]
      have hmem : name ∈ (e :: rest).map (·.1) ↔ name ∈ rest.map (·.1) := by simp [Ne.symm he]
      by_cases hrest : name ∈ rest.map (·.1)
      · rw [if_pos hrest, if_pos (hmem.mpr hrest), List.map_cons]
      · rw [if_neg hrest, if_neg (mt hmem.mp hrest), List.map_cons, List.cons_append]

/-- No name is entered twice. -/
theorem nodup_putNamed {entries : List (Text × α)} (h : (entries.map (·.1)).Nodup) (name : Text) (a : α) :
    ((putNamed entries name a).map (·.1)).Nodup := by
  rw [map_fst_putNamed]
  by_cases hname : name ∈ entries.map (·.1)
  · rwa [if_pos hname]
  · rw [if_neg hname, List.nodup_append]
    refine ⟨h, by simp, ?_⟩
    intro other hother n hn
    rw [List.mem_singleton.mp hn]
    rintro rfl
    exact hname hother

theorem lookup_isSome_iff (entries : List (Text × α)) (name : Text) :
    (entries.lookup name).isSome ↔ name ∈ entries.map (·.1) := by
  induction entries with
  | nil => simp
  | cons e rest ih =>
    obtain ⟨k, b⟩ := e
    rw [List.lookup_cons]
    by_cases hk : name = k
    · simp [hk]
    · have hk' : (name == k) = false := by simpa using hk
      rw [hk', List.map_cons, List.mem_cons]
      simp [hk, ih]

theorem lookup_map_snd {β : Type} (entries : List (Text × α)) (f : α → β) (name : Text) :
    (entries.map fun e => (e.1, f e.2)).lookup name = (entries.lookup name).map f := by
  induction entries with
  | nil => rfl
  | cons e rest ih =>
    rw [List.map_cons, List.lookup_cons, List.lookup_cons]
    cases name == e.1 with
    | true => rfl
    | false => exact ih

end LogHarvest
