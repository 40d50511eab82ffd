import LogHarvest.Proofs.Json.Members
import LogHarvest.Proofs.Json.Strings

/-!
# Printing and reading

The text of a value is plain, and it is read back as the value it is the text of (`read_print`).
That holds of values that text can hold on to at all: their strings are well paired, their integers
are not too long, their names are distinct, and they are not nested too deep (`IsFaithful`). Numbers
that are not integers are left aside.
-/

namespace LogHarvest

/-! ## Named entries -/

section Named

variable {α : Type}

theorem putNamed_of_new {entries : List (Text × α)} {name : Text}
    (h : name ∉ entries.map (·.1)) (a : α) : putNamed entries name a = entries ++ [(name, a)] := by
  induction entries with
  | nil => rfl
  | cons e rest ih =>
    rw [List.map_cons, List.mem_cons, not_or] at h
    rw [putNamed, if_neg fun he => h.1 he.symm, ih h.2]
    rfl

theorem foldl_putNamed_of_nodup (out : List (Text × α)) {entries : List (Text × α)}
    (h : ((out ++ entries).map (·.1)).Nodup) :
    entries.foldl (fun out e => putNamed out e.1 e.2) out = out ++ entries := by
  induction entries generalizing out with
  | nil => exact (List.append_nil _).symm
  | cons e rest ih =>
    have hnew : e.1 ∉ out.map (·.1) := by
      rw [List.map_append, List.map_cons, List.nodup_append] at h
      exact fun hmem => h.2.2 _ hmem _ List.mem_cons_self rfl
    rw [List.foldl_cons, putNamed_of_new hnew, ih _ (by rwa [List.append_assoc]), List.append_assoc]
    rfl

/-- Entries with distinct names are all kept. -/
theorem lastNamed_of_nodup {entries : List (Text × α)} (h : (entries.map (·.1)).Nodup) :
    lastNamed entries = entries := foldl_putNamed_of_nodup [] h

theorem mem_putNamed {entries : List (Text × α)} {name : Text} {a : α} {e : Text × α}
    (h : e ∈ putNamed entries name a) : e = (name, a) ∨ e ∈ entries := by
  induction entries with
  | nil => exact Or.inl (List.mem_singleton.mp h)
  | cons first rest ih =>
    rw [putNamed] at h
    split at h
    · exact (List.mem_cons.mp h).imp_right (List.mem_cons_of_mem _)
    · rcases List.mem_cons.mp h with rfl | h
      · exact Or.inr List.mem_cons_self
      · exact (ih h).imp_right (List.mem_cons_of_mem _)

/-- Every entry is one of those that were given. -/
theorem mem_of_mem_lastNamed {entries : List (Text × α)} {e : Text × α}
    (h : e ∈ lastNamed entries) : e ∈ entries := by
  have hall : ∀ (entries out : List (Text × α)),
      e ∈ entries.foldl (fun out e => putNamed out e.1 e.2) out → e ∈ entries ∨ e ∈ out := by
    intro entries
    induction entries with
    | nil => exact fun out h => Or.inr h
    | cons first rest ih =>
      intro out h
      rcases ih _ h with h | h
      · exact Or.inl (List.mem_cons_of_mem _ h)
      · rcases mem_putNamed h with rfl | h
        · exact Or.inl List.mem_cons_self
        · exact Or.inr h
  exact (hall entries [] h).resolve_right List.not_mem_nil

end Named

namespace Json

/-! ## Printed values are plain -/

theorem isPlain_unitEscape (n : Nat) : (unitEscape n).IsPlain :=
  Text.isPlain_append.mpr ⟨Text.isPlain_ofString _, Text.isPlain_hex 4 n⟩

theorem isPlain_printSymbol (s : Symbol) : (printSymbol s).IsPlain := by
  unfold printSymbol
  split
  all_goals try exact Text.isPlain_ofString _
  dsimp only
  split
  · next hprintable =>
    cases s with
    | char c => exact Text.isPlain_map [c]
    | half h =>
      simp only [Symbol.code] at hprintable
      omega
  · split
    · exact isPlain_unitEscape _
    · exact Text.isPlain_append.mpr ⟨isPlain_unitEscape _, isPlain_unitEscape _⟩

theorem isPlain_printString (t : Text) : (printString t).IsPlain := by
  have hinner : Text.IsPlain (t.flatMap printSymbol) := by
    rw [Text.isPlain_iff]
    intro symbol hsymbol
    obtain ⟨s, -, hs⟩ := List.mem_flatMap.mp hsymbol
    exact (Text.isPlain_iff _).mp (isPlain_printSymbol s) symbol hs
  exact Text.isPlain_append.mpr ⟨Text.isPlain_char_cons '"' hinner, Text.isPlain_map ['"']⟩

theorem isPlain_printFloat (x : Binary64) : (printFloat x).IsPlain := by
  unfold printFloat
  split
  all_goals try exact Text.isPlain_ofString _
  exact x.isPlain_render

mutual

/-- The text of a value can be printed, whatever strings are in it. -/
theorem isPlain_print : ∀ v : Json, (print v).IsPlain
  | .null => Text.isPlain_ofString _
  | .bool true => Text.isPlain_ofString _
  | .bool false => Text.isPlain_ofString _
  | .int n => Text.isPlain_ofInt n
  | .float x => isPlain_printFloat x
  | .string t => isPlain_printString t
  | .array items => Text.isPlain_char_cons '[' (isPlain_printItems items)
  | .object members => Text.isPlain_char_cons '{' (isPlain_printMembers members)

theorem isPlain_printItems : ∀ items : List Json, (printItems items).IsPlain
  | [] => Text.isPlain_map [']']
  | [v] => Text.isPlain_append.mpr ⟨isPlain_print v, Text.isPlain_map [']']⟩
  | v :: w :: rest => by
    simp only [printItems, Text.isPlain_append]
    exact ⟨⟨isPlain_print v, Text.isPlain_ofString _⟩, isPlain_printItems (w :: rest)⟩

theorem isPlain_printMembers : ∀ members : List (Text × Json), (printMembers members).IsPlain
  | [] => Text.isPlain_map ['}']
  | [(name, v)] => by
    simp only [printMembers, Text.isPlain_append]
    exact ⟨⟨⟨isPlain_printString name, Text.isPlain_ofString _⟩, isPlain_print v⟩,
      Text.isPlain_map ['}']⟩
  | (name, v) :: m :: rest => by
    simp only [printMembers, Text.isPlain_append]
    exact ⟨⟨⟨⟨isPlain_printString name, Text.isPlain_ofString _⟩, isPlain_print v⟩,
      Text.isPlain_ofString _⟩, isPlain_printMembers (m :: rest)⟩

end

/-! ## The first symbol of a value -/

/-- No white space stands before a value. -/
theorem Begins.dropSpace_eq {room : Nat} {s rest : Text} {part : Part}
    (h : Begins room s part rest) : dropSpace s = s := by
  cases s with
  | nil => rfl
  | cons c r =>
    have hspace : isSpace c = false := by
      by_contra hspace
      simp only [isSpace, Bool.not_eq_false, Bool.or_eq_true, decide_eq_true_eq, or_assoc]
        at hspace
      rcases hspace with rfl | rfl | rfl | rfl
      all_goals
        exact h.ne_cons (by decide) (by decide) (by decide) (fun _ => rfl) r rfl
    rw [dropSpace, List.dropWhile_cons, hspace]
    rfl

/-! ## Values that text holds on to -/

/-- The text of the value is read back: strings and names are well paired, integers have no more
digits than the reader takes, names are distinct, and values are nested at most `room` deep. -/
inductive IsFaithful : Nat → Json → Prop
  | null {room : Nat} : IsFaithful room .null
  | bool {room : Nat} (b : Bool) : IsFaithful room (.bool b)
  | int {room : Nat} {n : Int} (h : (Text.ofNat n.natAbs).length ≤ Integer.digitLimit) :
      IsFaithful room (.int n)
  | string {room : Nat} {t : Text} (h : t.WellPaired) : IsFaithful room (.string t)
  | array {room : Nat} {items : List Json} (h : ∀ v ∈ items, IsFaithful room v) :
      IsFaithful (room + 1) (.array items)
  | object {room : Nat} {members : List (Text × Json)} (hnames : (members.map (·.1)).Nodup)
      (hpaired : ∀ m ∈ members, m.1.WellPaired) (h : ∀ m ∈ members, IsFaithful room m.2) :
      IsFaithful (room + 1) (.object members)

/-- What text holds on to at some depth, it holds on to where more depth is allowed. -/
theorem IsFaithful.mono {room room' : Nat} {v : Json} (h : IsFaithful room v) (hle : room ≤ room') :
    IsFaithful room' v := by
  induction h generalizing room' with
  | null => exact .null
  | bool b => exact .bool b
  | int h => exact .int h
  | string h => exact .string h
  | array _ ih =>
    obtain ⟨more, rfl⟩ : ∃ more, room' = more + 1 := ⟨room' - 1, by omega⟩
    exact .array fun v hv => ih v hv (by omega)
  | object hnames hpaired _ ih =>
    obtain ⟨more, rfl⟩ : ∃ more, room' = more + 1 := ⟨room' - 1, by omega⟩
    exact .object hnames hpaired fun m hm => ih m hm (by omega)

/-- The text of the value is read back, whatever stands behind it that cannot belong to a number. -/
def ReadsBack (room : Nat) (v : Json) : Prop :=
  ∀ rest, EndsNumber rest → Begins room (print v ++ rest) (.value v) rest

theorem begins_of_readScalar {room : Nat} {t rest : Text} {v : Json} (hne : t ≠ [])
    (hhead : ∀ c ∈ t.head?, c ≠ .char '"' ∧ c ≠ .char '[' ∧ c ≠ .char '{')
    (h : readScalar (t ++ rest) = some (.ok v, t.length)) :
    Begins room (t ++ rest) (.value v) rest := by
  cases t with
  | nil => exact absurd rfl hne
  | cons c r =>
    obtain ⟨hquote, hbracket, hbrace⟩ := hhead c rfl
    have hbegins : Begins room (c :: (r ++ rest)) (.value v) ((r ++ rest).drop r.length) :=
      .scalar hquote hbracket hbrace h
    rwa [List.drop_left] at hbegins

theorem readsBack_int {room : Nat} {n : Int}
    (h : (Text.ofNat n.natAbs).length ≤ Integer.digitLimit) : ReadsBack room (.int n) := by
  intro rest hrest
  obtain ⟨c, r, hcons, hc⟩ := exists_ofNat_eq_cons n.natAbs
  show Begins room (Text.ofInt n ++ rest) _ rest
  refine begins_of_readScalar ?_ ?_ (hrest.readScalar_ofInt h)
  · rw [Text.ofInt, hcons]
    split <;> simp
  · rw [Text.ofInt, hcons]
    split
    · rintro _ ⟨⟩
      decide
    · rintro _ ⟨⟩
      exact ⟨ne_of_isDigit hc (by decide), ne_of_isDigit hc (by decide),
        ne_of_isDigit hc (by decide)⟩

theorem readsBack_string {room : Nat} {t : Text} (h : t.WellPaired) :
    ReadsBack room (.string t) := by
  intro rest _
  have hprint : print (.string t) ++ rest =
      .char '"' :: (t.flatMap printSymbol ++ .char '"' :: rest) := by
    simp [print, printString]
  rw [hprint]
  exact .string (readString_print h _ rest)

theorem begins_printItems {room : Nat} {items : List Json} (h : ∀ v ∈ items, ReadsBack room v)
    (hne : items ≠ []) (rest : Text) :
    Begins room (printItems items ++ rest) (.items items) rest := by
  -- what stands behind an item, a comma or the bracket, cannot belong to a number
  induction items with
  | nil => exact absurd rfl hne
  | cons v more ih =>
    have hv := h v List.mem_cons_self
    cases more with
    | nil =>
      show Begins room (print v ++ [.char ']'] ++ rest) _ rest
      rw [List.append_assoc]
      exact .lastItem (hv _ (endsNumber_cons (.inr (.inl rfl)) rest)) rfl
    | cons w more =>
      have hmore := ih (fun u hu => h u (List.mem_cons_of_mem _ hu)) (List.cons_ne_nil _ _)
      show Begins room (print v ++ Text.ofString ", " ++ printItems (w :: more) ++ rest) _ rest
      rw [List.append_assoc, List.append_assoc]
      refine .moreItems (hv _ (endsNumber_cons (.inl rfl) _)) rfl ?_
      show Begins room (dropSpace (printItems (w :: more) ++ rest)) _ rest
      rwa [hmore.dropSpace_eq]

/-- A name that is read, and the value behind it. -/
theorem exists_name_and_value {room : Nat} {name : Text} {v : Json} (hname : name.WellPaired)
    (hv : ReadsBack room v) {rest : Text} (hrest : EndsNumber rest) :
    ∃ r afterName afterColon, printString name ++ Text.ofString ": " ++ print v ++ rest =
        .char '"' :: r ∧ readString (r.length + 1) r = .ok (name, afterName) ∧
      dropSpace afterName = .char ':' :: afterColon ∧
      Begins room (dropSpace afterColon) (.value v) rest := by
  have hbegins := hv rest hrest
  refine ⟨_, .char ':' :: .char ' ' :: (print v ++ rest), .char ' ' :: (print v ++ rest), ?_,
    readString_print hname _ _, rfl, ?_⟩
  · simp [printString, Text.ofString]
  · show Begins room (dropSpace (print v ++ rest)) _ rest
    rwa [hbegins.dropSpace_eq]

theorem begins_printMembers {room : Nat} {members : List (Text × Json)}
    (hpaired : ∀ m ∈ members, m.1.WellPaired) (h : ∀ m ∈ members, ReadsBack room m.2)
    (hne : members ≠ []) (rest : Text) :
    Begins room (printMembers members ++ rest) (.members members) rest := by
  induction members with
  | nil => exact absurd rfl hne
  | cons m more ih =>
    obtain ⟨name, v⟩ := m
    have hname := hpaired _ List.mem_cons_self
    have hv := h _ List.mem_cons_self
    cases more with
    | nil =>
      obtain ⟨r, afterName, afterColon, htext, hread, hcolon, hvalue⟩ :=
        exists_name_and_value hname hv (endsNumber_cons (.inr (.inr rfl)) rest)
      show Begins room (printString name ++ Text.ofString ": " ++ print v ++ [.char '}'] ++ rest)
        _ rest
      rw [List.append_assoc, List.singleton_append, htext]
      exact .lastMember hread hcolon hvalue rfl
    | cons m more =>
      have hmore := ih (fun u hu => hpaired u (List.mem_cons_of_mem _ hu))
        (fun u hu => h u (List.mem_cons_of_mem _ hu)) (List.cons_ne_nil _ _)
      obtain ⟨r, afterName, afterColon, htext, hread, hcolon, hvalue⟩ :=
        exists_name_and_value hname hv
          (endsNumber_cons (.inl rfl) (.char ' ' :: (printMembers (m :: more) ++ rest)))
      show Begins room (printString name ++ Text.ofString ": " ++ print v ++ Text.ofString ", " ++
        printMembers (m :: more) ++ rest) _ rest
      rw [List.append_assoc, List.append_assoc]
      show Begins room (printString name ++ Text.ofString ": " ++ print v ++
        (.char ',' :: .char ' ' :: (printMembers (m :: more) ++ rest))) _ rest
      rw [htext]
      refine .moreMembers hread hcolon hvalue rfl ?_
      show Begins room (dropSpace (printMembers (m :: more) ++ rest)) _ rest
      rwa [hmore.dropSpace_eq]

/-- **The text of a value is read back as this value.** -/
theorem readsBack_of_isFaithful {room : Nat} {v : Json} (h : IsFaithful room v) :
    ReadsBack room v := by
  induction h with
  | null =>
    exact fun rest _ =>
      begins_of_readScalar (t := Text.ofString "null") (by decide) (by decide) rfl
  | bool b =>
    cases b with
    | true =>
      exact fun rest _ =>
        begins_of_readScalar (t := Text.ofString "true") (by decide) (by decide) rfl
    | false =>
      exact fun rest _ =>
        begins_of_readScalar (t := Text.ofString "false") (by decide) (by decide) rfl
  | int h => exact readsBack_int h
  | string h => exact readsBack_string h
  | @array room items _ ih =>
    intro rest _
    by_cases hne : items = []
    · subst hne
      exact .emptyArray rfl
    · have hitems := begins_printItems ih hne rest
      show Begins (room + 1) (.char '[' :: (printItems items ++ rest)) _ rest
      refine .array ?_
      rwa [hitems.dropSpace_eq]
  | @object room members hnames hpaired _ ih =>
    intro rest _
    by_cases hne : members = []
    · subst hne
      exact .emptyObject rfl
    · have hmembers := begins_printMembers hpaired ih hne rest
      show Begins (room + 1) (.char '{' :: (printMembers members ++ rest)) _ rest
      rw [← lastNamed_of_nodup hnames]
      refine .object ?_
      rwa [lastNamed_of_nodup hnames, hmembers.dropSpace_eq]

/-- A text that holds on to its value is read as this value. -/
theorem read_print [Limits] {v : Json} (h : IsFaithful depthLimit v) : read (print v) = .ok v := by
  have hbegins := readsBack_of_isFaithful h [] endsNumber_nil
  rw [List.append_nil] at hbegins
  refine read_eq_ok_iff.mpr ⟨?_, [], by rwa [hbegins.dropSpace_eq], rfl⟩
  intro hmark
  obtain ⟨r, hr⟩ := List.head?_eq_some_iff.mp hmark
  exact hbegins.ne_cons (by decide) (by decide) (by decide) (fun _ => rfl) r hr

/-! ## Strings in a value that was read -/

/-- The first value stands somewhere in the second. -/
inductive Occurs (v : Json) : Json → Prop
  | self : Occurs v v
  | item {items : List Json} {w : Json} (hw : w ∈ items) (h : Occurs v w) :
      Occurs v (.array items)
  | member {members : List (Text × Json)} {m : Text × Json} (hm : m ∈ members)
      (h : Occurs v m.2) : Occurs v (.object members)

/-- The value stands somewhere in the part. -/
def Part.Holds (v : Json) : Part → Prop
  | value w => Occurs v w
  | items ws => ∃ w ∈ ws, Occurs v w
  | members ms => ∃ m ∈ ms, Occurs v m.2

/-- No string stands in a word or a number. -/
theorem IsAtom.not_occurs {v : Json} (hv : IsAtom v) (t : Text) : ¬ Occurs (.string t) v := by
  intro h
  cases h
  all_goals cases hv

theorem isPlain_dropSpace {t : Text} (ht : t.IsPlain) : (dropSpace t).IsPlain :=
  ht.sublist (List.dropWhile_sublist _)

theorem isPlain_of_dropSpace {t : Text} {s : Symbol} {rest : Text} (ht : t.IsPlain)
    (h : dropSpace t = s :: rest) : rest.IsPlain :=
  Text.IsPlain.of_cons (h ▸ isPlain_dropSpace ht)

/-- What begins a plain text leaves a plain text, and the strings in it are well paired. -/
theorem Begins.wellPaired {room : Nat} {s rest : Text} {part : Part}
    (h : Begins room s part rest) (hs : s.IsPlain) :
    rest.IsPlain ∧ ∀ t, part.Holds (.string t) → t.WellPaired := by
  -- what a part leaves is plain again, which carries the induction to the part behind it
  induction h with
  | string ht =>
    obtain ⟨hpaired, hrest⟩ := wellPaired_of_readString ht hs.of_cons
    refine ⟨hrest, ?_⟩
    rintro _ ⟨⟩
    exact hpaired
  | emptyArray hr =>
    refine ⟨isPlain_of_dropSpace hs.of_cons hr, ?_⟩
    rintro _ (_ | ⟨hw, _⟩)
    exact absurd hw List.not_mem_nil
  | array _ ih =>
    obtain ⟨hrest, hitems⟩ := ih (isPlain_dropSpace hs.of_cons)
    refine ⟨hrest, ?_⟩
    rintro t (_ | ⟨hw, ht⟩)
    exact hitems t ⟨_, hw, ht⟩
  | emptyObject hr =>
    refine ⟨isPlain_of_dropSpace hs.of_cons hr, ?_⟩
    rintro _ (_ | _ | ⟨hm, _⟩)
    exact absurd hm List.not_mem_nil
  | object _ ih =>
    obtain ⟨hrest, hmembers⟩ := ih (isPlain_dropSpace hs.of_cons)
    refine ⟨hrest, ?_⟩
    rintro t (_ | _ | ⟨hm, ht⟩)
    exact hmembers t ⟨_, mem_of_mem_lastNamed hm, ht⟩
  | scalar _ _ _ hv =>
    exact ⟨hs.of_cons.sublist (List.drop_sublist _ _),
      fun t ht => absurd ht ((isAtom_of_readScalar hv).not_occurs t)⟩
  | lastItem _ hr ih =>
    obtain ⟨hafter, hitem⟩ := ih hs
    refine ⟨isPlain_of_dropSpace hafter hr, ?_⟩
    rintro t ⟨w, hw, ht⟩
    obtain rfl := List.mem_singleton.mp hw
    exact hitem t ht
  | moreItems _ hr _ ih ihmore =>
    obtain ⟨hafter, hitem⟩ := ih hs
    obtain ⟨hrest, hitems⟩ := ihmore (isPlain_dropSpace (isPlain_of_dropSpace hafter hr))
    refine ⟨hrest, ?_⟩
    rintro t ⟨w, hw, ht⟩
    rcases List.mem_cons.mp hw with rfl | hw
    · exact hitem t ht
    · exact hitems t ⟨w, hw, ht⟩
  | lastMember hname hcolon _ hr ih =>
    obtain ⟨-, hafterName⟩ := wellPaired_of_readString hname hs.of_cons
    obtain ⟨hafter, hmember⟩ := ih (isPlain_dropSpace (isPlain_of_dropSpace hafterName hcolon))
    refine ⟨isPlain_of_dropSpace hafter hr, ?_⟩
    rintro t ⟨m, hm, ht⟩
    obtain rfl := List.mem_singleton.mp hm
    exact hmember t ht
  | moreMembers hname hcolon _ hr _ ih ihmore =>
    obtain ⟨-, hafterName⟩ := wellPaired_of_readString hname hs.of_cons
    obtain ⟨hafter, hmember⟩ := ih (isPlain_dropSpace (isPlain_of_dropSpace hafterName hcolon))
    obtain ⟨hrest, hmembers⟩ := ihmore (isPlain_dropSpace (isPlain_of_dropSpace hafter hr))
    refine ⟨hrest, ?_⟩
    rintro t ⟨m, hm, ht⟩
    rcases List.mem_cons.mp hm with rfl | hm
    · exact hmember t ht
    · exact hmembers t ⟨m, hm, ht⟩

/-- Every string in a value that a plain text was read as is well paired. -/
theorem wellPaired_of_read [Limits] {text t : Text} {v : Json} (h : read text = .ok v)
    (htext : text.IsPlain) (ht : Occurs (.string t) v) : t.WellPaired := by
  obtain ⟨-, rest, hbegins, -⟩ := read_eq_ok_iff.mp h
  exact (hbegins.wellPaired (isPlain_dropSpace htext)).2 t ht

end Json

end LogHarvest
