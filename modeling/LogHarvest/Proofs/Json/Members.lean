import LogHarvest.Proofs.Json.Grammar

/-!
# Members of an object

The text of an object may have several members of one name; of these the last one counts. What
stands in the text, with all repetitions, is told by `SpellsObject`; the object that is read has
the last member of each name (`exists_of_read_eq_object`, `lookup_lastNamed`).
-/

namespace LogHarvest

variable {α : Type}

/-- The last entry of a name. -/
def lastMember? (entries : List (Text × α)) (name : Text) : Option α := entries.reverse.lookup name

theorem lookup_foldl_putNamed (entries out : List (Text × α)) (name : Text) :
    (entries.foldl (fun out e => putNamed out e.1 e.2) out).lookup name =
      (lastMember? entries name).or (out.lookup name) := by
  induction entries generalizing out with
  | nil => rfl
  | cons e rest ih =>
    rw [List.foldl_cons, ih, lookup_putNamed, lastMember?, lastMember?, List.reverse_cons,
      List.lookup_append, Option.or_assoc]
    by_cases hname : name = e.1
    · rw [if_pos hname, hname, List.lookup_cons_self]
      rfl
    · have hbeq : (name == e.1) = false := by simpa using hname
      rw [if_neg hname, List.lookup_cons, hbeq]
      rfl

/-- Of the entries with one name the last counts. -/
theorem lookup_lastNamed (entries : List (Text × α)) (name : Text) :
    (lastNamed entries).lookup name = lastMember? entries name := by
  rw [lastNamed, lookup_foldl_putNamed]
  exact Option.or_none

namespace Json

/-- The text is that of an object with these members, in the order in which they stand there and
as often as they do. -/
def SpellsObject [Limits] (text : Text) (entries : List (Text × Json)) : Prop :=
  ∃ inner rest, dropSpace text = .char '{' :: inner ∧ dropSpace rest = [] ∧
    (entries = [] ∧ dropSpace inner = .char '}' :: rest ∨
      Begins (depthLimit - 1) (dropSpace inner) (.members entries) rest)

/-- A value in which no other value stands, and no string. -/
inductive IsAtom : Json → Prop
  | null : IsAtom .null
  | bool (b : Bool) : IsAtom (.bool b)
  | int (n : Int) : IsAtom (.int n)
  | float (x : Binary64) : IsAtom (.float x)

theorem isAtom_of_mem_words {w : Text × Json} (h : w ∈ words) : IsAtom w.2 := by
  simp only [words, List.mem_cons, List.not_mem_nil, or_false] at h
  rcases h with rfl | rfl | rfl | rfl | rfl | rfl
  · exact .null
  · exact .bool true
  · exact .bool false
  all_goals exact .float _

theorem isAtom_of_numberValue {negative : Bool} {whole fraction : Text}
    {exponent : Option (Bool × Text × Nat)} {v : Json}
    (h : numberValue negative whole fraction exponent = .ok v) : IsAtom v := by
  unfold numberValue at h
  split at h
  · split at h
    · cases h
    · cases h
      exact .int _
  · cases h
    exact .float _

/-- A word or a number is an atom. -/
theorem isAtom_of_readScalar {t : Text} {v : Json} {n : Nat}
    (h : readScalar t = some (.ok v, n)) : IsAtom v := by
  unfold readScalar at h
  split at h
  · next w hw =>
    obtain rfl : w.2 = v := by simpa using (Option.some.inj h |> Prod.mk.inj).1
    exact isAtom_of_mem_words (List.mem_of_find?_eq_some hw)
  · simp only [readNumber] at h
    split at h
    all_goals
      split at h
      · cases h
      · exact isAtom_of_numberValue (Prod.mk.inj (Option.some.inj h)).1

/-- The object that is read has the last member of each name that stands in the text. -/
theorem read_eq_object_iff [Limits] {text : Text} {members : List (Text × Json)} :
    read text = .ok (.object members) ↔ text.head? ≠ some (.char '\ufeff') ∧
      ∃ entries, SpellsObject text entries ∧ members = lastNamed entries := by
  rw [read_eq_ok_iff]
  refine and_congr_right fun _ => ?_
  constructor
  · rintro ⟨rest, hbegins, hrest⟩
    generalize htext : dropSpace text = s at hbegins
    generalize hvalue : Json.object members = v at hbegins
    generalize hdepth : depthLimit = room at hbegins
    cases hbegins with
    | string ht => cases hvalue
    | emptyArray hr => cases hvalue
    | array hitems => cases hvalue
    | emptyObject hr =>
      cases hvalue
      exact ⟨[], ⟨_, rest, htext, hrest, .inl ⟨rfl, hr⟩⟩, rfl⟩
    | object hmembers =>
      cases hvalue
      refine ⟨_, ⟨_, rest, htext, hrest, .inr ?_⟩, rfl⟩
      rw [hdepth]
      exact hmembers
    | scalar hquote hbracket hbrace hv =>
      subst hvalue
      cases isAtom_of_readScalar hv
  · rintro ⟨entries, ⟨inner, rest, htext, hrest, hinner⟩, rfl⟩
    have hdepth : depthLimit - 1 + 1 = depthLimit := Nat.sub_add_cancel one_le_depthLimit
    rw [htext, ← hdepth]
    rcases hinner with ⟨rfl, hr⟩ | hmembers
    · exact ⟨rest, .emptyObject hr, hrest⟩
    · exact ⟨rest, .object hmembers, hrest⟩

/-- The last member of a name is the one in the object that is read. -/
theorem lastMember?_eq_find? [Limits] {text : Text} {members entries : List (Text × Json)}
    (h : read text = .ok (.object members)) (hspells : SpellsObject text entries) (name : Text) :
    lastMember? entries name = find? members name := by
  obtain ⟨hmark, -⟩ := read_eq_object_iff.mp h
  have hread := read_eq_object_iff.mpr ⟨hmark, entries, hspells, rfl⟩
  cases h.symm.trans hread
  exact (lookup_lastNamed entries name).symm

end Json

end LogHarvest
