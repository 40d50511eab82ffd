import LogHarvest.Json.Reader

/-!
# The grammar that is read

The reader goes from left to right with a bound on the depth. Here the texts that it reads are told
by a relation instead: `Begins room text part rest` says that `text` begins with a value, with the
items of an array or with the members of an object, and that `rest` stands behind it. The two agree
(`read_eq_ok_iff`), so what holds of every text that is read is shown by induction on `Begins`.
-/

namespace LogHarvest.Json

/-- What a stretch of text stands for. Members keep their order and their repetitions. -/
inductive Part
  | value (v : Json)
  | items (vs : List Json)
  | members (ms : List (Text × Json))

/-- The text begins with the part, and `rest` stands behind it; `room` bounds the depth. -/
inductive Begins : Nat → Text → Part → Text → Prop
  | string {room : Nat} {r t rest : Text} (ht : readString (r.length + 1) r = .ok (t, rest)) :
      Begins room (.char '"' :: r) (.value (.string t)) rest
  | emptyArray {room : Nat} {r rest : Text} (hr : dropSpace r = .char ']' :: rest) :
      Begins (room + 1) (.char '[' :: r) (.value (.array [])) rest
  | array {room : Nat} {r rest : Text} {vs : List Json}
      (hitems : Begins room (dropSpace r) (.items vs) rest) :
      Begins (room + 1) (.char '[' :: r) (.value (.array vs)) rest
  | emptyObject {room : Nat} {r rest : Text} (hr : dropSpace r = .char '}' :: rest) :
      Begins (room + 1) (.char '{' :: r) (.value (.object [])) rest
  | object {room : Nat} {r rest : Text} {ms : List (Text × Json)}
      (hmembers : Begins room (dropSpace r) (.members ms) rest) :
      Begins (room + 1) (.char '{' :: r) (.value (.object (lastNamed ms))) rest
  | scalar {room n : Nat} {c : Symbol} {r : Text} {v : Json} (hquote : c ≠ .char '"')
      (hbracket : c ≠ .char '[') (hbrace : c ≠ .char '{')
      (hv : readScalar (c :: r) = some (.ok v, n + 1)) :
      Begins room (c :: r) (.value v) (r.drop n)
  | lastItem {room : Nat} {s r rest : Text} {v : Json} (hv : Begins room s (.value v) r)
      (hr : dropSpace r = .char ']' :: rest) : Begins room s (.items [v]) rest
  | moreItems {room : Nat} {s r more rest : Text} {v : Json} {vs : List Json}
      (hv : Begins room s (.value v) r) (hr : dropSpace r = .char ',' :: more)
      (hmore : Begins room (dropSpace more) (.items vs) rest) :
      Begins room s (.items (v :: vs)) rest
  | lastMember {room : Nat} {r afterName afterColon afterValue rest name : Text} {v : Json}
      (hname : readString (r.length + 1) r = .ok (name, afterName))
      (hcolon : dropSpace afterName = .char ':' :: afterColon)
      (hv : Begins room (dropSpace afterColon) (.value v) afterValue)
      (hr : dropSpace afterValue = .char '}' :: rest) :
      Begins room (.char '"' :: r) (.members [(name, v)]) rest
  | moreMembers {room : Nat} {r afterName afterColon afterValue more rest name : Text} {v : Json}
      {ms : List (Text × Json)} (hname : readString (r.length + 1) r = .ok (name, afterName))
      (hcolon : dropSpace afterName = .char ':' :: afterColon)
      (hv : Begins room (dropSpace afterColon) (.value v) afterValue)
      (hr : dropSpace afterValue = .char ',' :: more)
      (hmore : Begins room (dropSpace more) (.members ms) rest) :
      Begins room (.char '"' :: r) (.members ((name, v) :: ms)) rest

/-! ## What is read stands there -/

/-- What stands behind the next token and the white space behind it is shorter. -/
theorem length_of_dropSpace_eq_cons {t more : Text} {c : Symbol} (h : dropSpace t = c :: more) :
    (dropSpace more).length < t.length := by
  have ht := length_dropSpace_le t
  have hmore := length_dropSpace_le more
  rw [h, List.length_cons] at ht
  omega

mutual

theorem begins_of_readValue {room n : Nat} {s : Text} {v : Json} {rest : Rest s}
    (hn : s.length = n) (h : readValue room s = .ok (v, rest)) :
    Begins room s (.value v) rest.val := by
  rw [readValue.eq_def] at h
  split at h
  · cases h
  · next r =>
    split at h
    · cases h
    · next t rest' ht =>
      cases h
      exact .string ht
  · next r =>
    split at h
    · cases h
    · next room =>
      split at h
      · next rest' hr =>
        cases h
        exact .emptyArray hr
      · split at h
        · cases h
        · next items rest' hshorter hitems =>
          cases h
          have hinner := length_dropSpace_le r
          exact .array (begins_of_readItems rfl hitems)
  · next r =>
    split at h
    · cases h
    · next room =>
      split at h
      · next rest' hr =>
        cases h
        exact .emptyObject hr
      · split at h
        · cases h
        · next members rest' hshorter hmembers =>
          cases h
          have hinner := length_dropSpace_le r
          exact .object (begins_of_readMembers rfl hmembers)
  · next c r hquote hbracket hbrace =>
    split at h
    · next value n hscalar =>
      split at h
      · cases h
      · cases h
        exact .scalar hquote hbracket hbrace hscalar
    · cases h
termination_by (n, 0)
decreasing_by
  all_goals
    simp only [List.length_cons, Prod.lex_def] at *
    omega

theorem begins_of_readItems {room n : Nat} {s : Text} {vs : List Json} {rest : Rest s}
    (hn : s.length = n) (h : readItems room s = .ok (vs, rest)) :
    Begins room s (.items vs) rest.val := by
  rw [readItems.eq_def] at h
  split at h
  · cases h
  · next v r hshorter hv =>
    split at h
    · next rest' hr =>
      cases h
      exact .lastItem (begins_of_readValue hn hv) hr
    · next more hr =>
      split at h
      · cases h
      · next vs' rest' hshorter' hmore =>
        cases h
        have hmoreShorter := length_of_dropSpace_eq_cons hr
        exact .moreItems (begins_of_readValue hn hv) hr (begins_of_readItems rfl hmore)
    · cases h
termination_by (n, 1)
decreasing_by
  · exact Prod.Lex.right _ (by decide)
  · exact Prod.Lex.right _ (by decide)
  · simp only [Prod.lex_def]
    omega

theorem begins_of_readMembers {room n : Nat} {s : Text} {ms : List (Text × Json)} {rest : Rest s}
    (hn : s.length = n) (h : readMembers room s = .ok (ms, rest)) :
    Begins room s (.members ms) rest.val := by
  rw [readMembers.eq_def] at h
  split at h
  · next r =>
    split at h
    · cases h
    · next name afterName hname =>
      split at h
      · next afterColon hcolon =>
        split at h
        · cases h
        · next v afterValue hshorter hv =>
          have hnameShorter := length_readString_lt hname
          have hcolonShorter := length_of_dropSpace_eq_cons hcolon
          split at h
          · next rest' hr =>
            cases h
            exact .lastMember hname hcolon (begins_of_readValue rfl hv) hr
          · next more hr =>
            split at h
            · cases h
            · next ms' rest' hshorter' hmore =>
              cases h
              have hmoreShorter := length_of_dropSpace_eq_cons hr
              exact .moreMembers hname hcolon (begins_of_readValue rfl hv) hr
                (begins_of_readMembers rfl hmore)
          · cases h
      · cases h
  · cases h
termination_by (n, 1)
decreasing_by
  all_goals
    simp only [List.length_cons, Prod.lex_def] at *
    omega

end

/-! ## What stands there is read -/

/-- The reader for the part finds it at the start of the text and stops where `rest` begins. -/
def Part.IsRead (room : Nat) (s rest : Text) : Part → Prop
  | value v => ∃ rest' : Rest s, readValue room s = .ok (v, rest') ∧ rest'.val = rest
  | items vs => ∃ rest' : Rest s, readItems room s = .ok (vs, rest') ∧ rest'.val = rest
  | members ms => ∃ rest' : Rest s, readMembers room s = .ok (ms, rest') ∧ rest'.val = rest

/-- No part begins with a symbol that is neither a quote nor an opening bracket, nor begins a word
or a number. -/
theorem Begins.ne_cons {room : Nat} {s rest : Text} {part : Part} {c : Symbol}
    (h : Begins room s part rest) (hquote : c ≠ .char '"') (hbracket : c ≠ .char '[')
    (hbrace : c ≠ .char '{') (hnone : ∀ r, readScalar (c :: r) = none) (r : Text) :
    s ≠ c :: r := by
  induction h with
  | scalar _ _ _ hv =>
    rintro ⟨⟩
    cases (hnone r).symm.trans hv
  | string => exact fun hs => hquote (List.cons.inj hs).1.symm
  | emptyArray => exact fun hs => hbracket (List.cons.inj hs).1.symm
  | array => exact fun hs => hbracket (List.cons.inj hs).1.symm
  | emptyObject => exact fun hs => hbrace (List.cons.inj hs).1.symm
  | object => exact fun hs => hbrace (List.cons.inj hs).1.symm
  | lastItem _ _ ih => exact ih
  | moreItems _ _ _ ih => exact ih
  | lastMember => exact fun hs => hquote (List.cons.inj hs).1.symm
  | moreMembers => exact fun hs => hquote (List.cons.inj hs).1.symm

/-! ### One production at a time -/

namespace Part

variable {room : Nat} {r s rest : Text} {v : Json} {vs : List Json} {ms : List (Text × Json)}

theorem isRead_string {t : Text} (ht : readString (r.length + 1) r = .ok (t, rest)) :
    (value (.string t)).IsRead room (.char '"' :: r) rest := by
  rw [IsRead, readValue.eq_2]
  split
  · next hfault => cases ht.symm.trans hfault
  · next ht' =>
    cases ht.symm.trans ht'
    exact ⟨_, rfl, rfl⟩

theorem isRead_emptyArray (hr : dropSpace r = .char ']' :: rest) :
    (value (.array [])).IsRead (room + 1) (.char '[' :: r) rest := by
  rw [IsRead, readValue.eq_4]
  split
  · next hr' =>
    cases hr.symm.trans hr'
    exact ⟨_, rfl, rfl⟩
  · next hother => exact absurd hr (hother _)

theorem isRead_array (hne : ∀ more, dropSpace r ≠ .char ']' :: more)
    (hitems : (items vs).IsRead room (dropSpace r) rest) :
    (value (.array vs)).IsRead (room + 1) (.char '[' :: r) rest := by
  obtain ⟨rest', hread, rfl⟩ := hitems
  rw [IsRead, readValue.eq_4]
  split
  · next hr => exact absurd hr (hne _)
  · rw [hread]
    exact ⟨_, rfl, rfl⟩

theorem isRead_emptyObject (hr : dropSpace r = .char '}' :: rest) :
    (value (.object [])).IsRead (room + 1) (.char '{' :: r) rest := by
  rw [IsRead, readValue.eq_6]
  split
  · next hr' =>
    cases hr.symm.trans hr'
    exact ⟨_, rfl, rfl⟩
  · next hother => exact absurd hr (hother _)

theorem isRead_object (hne : ∀ more, dropSpace r ≠ .char '}' :: more)
    (hmembers : (members ms).IsRead room (dropSpace r) rest) :
    (value (.object (lastNamed ms))).IsRead (room + 1) (.char '{' :: r) rest := by
  obtain ⟨rest', hread, rfl⟩ := hmembers
  rw [IsRead, readValue.eq_6]
  split
  · next hr => exact absurd hr (hne _)
  · rw [hread]
    exact ⟨_, rfl, rfl⟩

theorem isRead_scalar {n : Nat} {c : Symbol} (hquote : c ≠ .char '"') (hbracket : c ≠ .char '[')
    (hbrace : c ≠ .char '{') (hv : readScalar (c :: r) = some (.ok v, n + 1)) :
    (value v).IsRead room (c :: r) (r.drop n) := by
  rw [IsRead, readValue.eq_7 _ _ _ hquote hbracket hbrace, hv]
  exact ⟨_, rfl, rfl⟩

theorem isRead_lastItem (hv : (value v).IsRead room s r) (hr : dropSpace r = .char ']' :: rest) :
    (items [v]).IsRead room s rest := by
  obtain ⟨r', hread, rfl⟩ := hv
  rw [IsRead, readItems.eq_def, hread]
  split
  · next h => cases h
  · next h =>
    cases h
    split
    · next hr' =>
      cases hr.symm.trans hr'
      exact ⟨_, rfl, rfl⟩
    · next hr' => cases hr.symm.trans hr'
    · next hother _ => exact absurd hr (hother _)

theorem isRead_moreItems {more : Text} (hv : (value v).IsRead room s r)
    (hr : dropSpace r = .char ',' :: more)
    (hmore : (items vs).IsRead room (dropSpace more) rest) :
    (items (v :: vs)).IsRead room s rest := by
  obtain ⟨r', hread, rfl⟩ := hv
  obtain ⟨rest', hreadMore, rfl⟩ := hmore
  rw [IsRead, readItems.eq_def, hread]
  split
  · next h => cases h
  · next h =>
    cases h
    split
    · next hr' => cases hr.symm.trans hr'
    · next hr' =>
      cases hr.symm.trans hr'
      rw [hreadMore]
      exact ⟨_, rfl, rfl⟩
    · next hother => exact absurd hr (hother _)

variable {name afterName afterColon afterValue : Text}

theorem isRead_lastMember (hname : readString (r.length + 1) r = .ok (name, afterName))
    (hcolon : dropSpace afterName = .char ':' :: afterColon)
    (hv : (value v).IsRead room (dropSpace afterColon) afterValue)
    (hr : dropSpace afterValue = .char '}' :: rest) :
    (members [(name, v)]).IsRead room (.char '"' :: r) rest := by
  obtain ⟨r', hread, rfl⟩ := hv
  rw [IsRead, readMembers.eq_1]
  split
  · next hfault => cases hname.symm.trans hfault
  · next hname' =>
    cases hname.symm.trans hname'
    split
    · next hcolon' =>
      cases hcolon.symm.trans hcolon'
      rw [hread]
      split
      · next h => cases h
      · next h =>
        cases h
        split
        · next hr' =>
          cases hr.symm.trans hr'
          exact ⟨_, rfl, rfl⟩
        · next hr' => cases hr.symm.trans hr'
        · next hother _ => exact absurd hr (hother _)
    · next hother => exact absurd hcolon (hother _)

theorem isRead_moreMembers {more : Text}
    (hname : readString (r.length + 1) r = .ok (name, afterName))
    (hcolon : dropSpace afterName = .char ':' :: afterColon)
    (hv : (value v).IsRead room (dropSpace afterColon) afterValue)
    (hr : dropSpace afterValue = .char ',' :: more)
    (hmore : (members ms).IsRead room (dropSpace more) rest) :
    (members ((name, v) :: ms)).IsRead room (.char '"' :: r) rest := by
  obtain ⟨r', hread, rfl⟩ := hv
  obtain ⟨rest', hreadMore, rfl⟩ := hmore
  rw [IsRead, readMembers.eq_1]
  split
  · next hfault => cases hname.symm.trans hfault
  · next hname' =>
    cases hname.symm.trans hname'
    split
    · next hcolon' =>
      cases hcolon.symm.trans hcolon'
      rw [hread]
      split
      · next h => cases h
      · next h =>
        cases h
        split
        · next hr' => cases hr.symm.trans hr'
        · next hr' =>
          cases hr.symm.trans hr'
          rw [hreadMore]
          exact ⟨_, rfl, rfl⟩
        · next hother => exact absurd hr (hother _)
    · next hother => exact absurd hcolon (hother _)

end Part

/-- What stands there is read: the readers follow the productions. -/
theorem Begins.isRead {room : Nat} {s rest : Text} {part : Part} (h : Begins room s part rest) :
    part.IsRead room s rest := by
  induction h with
  | string ht => exact Part.isRead_string ht
  | emptyArray hr => exact Part.isRead_emptyArray hr
  | array hitems ih =>
    refine Part.isRead_array ?_ ih
    exact hitems.ne_cons (by decide) (by decide) (by decide) fun _ => rfl
  | emptyObject hr => exact Part.isRead_emptyObject hr
  | object hmembers ih =>
    refine Part.isRead_object ?_ ih
    exact hmembers.ne_cons (by decide) (by decide) (by decide) fun _ => rfl
  | scalar hquote hbracket hbrace hv => exact Part.isRead_scalar hquote hbracket hbrace hv
  | lastItem _ hr ih => exact Part.isRead_lastItem ih hr
  | moreItems _ hr _ ih ihmore => exact Part.isRead_moreItems ih hr ihmore
  | lastMember hname hcolon _ hr ih => exact Part.isRead_lastMember hname hcolon ih hr
  | moreMembers hname hcolon _ hr _ ih ihmore =>
    exact Part.isRead_moreMembers hname hcolon ih hr ihmore

/-! ## Whole texts -/

/-- **A text is read as a value exactly if it is a spelling of it** with white space around it. -/
theorem read_eq_ok_iff [Limits] {text : Text} {v : Json} :
    read text = .ok v ↔ text.head? ≠ some (.char '\ufeff') ∧
      ∃ rest, Begins depthLimit (dropSpace text) (.value v) rest ∧ dropSpace rest = [] := by
  constructor
  · intro h
    rw [read] at h
    split at h
    · next v' hdocument =>
      cases h
      rw [readDocument.eq_def] at hdocument
      split at hdocument
      · cases hdocument
      · next hmark =>
        split at hdocument
        · cases hdocument
        · next v' rest hshorter hv =>
          split at hdocument
          · next hrest =>
            cases hdocument
            refine ⟨fun hhead => ?_, rest, begins_of_readValue rfl hv, hrest⟩
            obtain ⟨t, rfl⟩ := List.head?_eq_some_iff.mp hhead
            exact hmark _ rfl
          · cases hdocument
    · cases h
  · rintro ⟨hmark, rest, hbegins, hrest⟩
    obtain ⟨rest', hv, rfl⟩ := hbegins.isRead
    have hdocument : readDocument text = .ok v := by
      rw [readDocument.eq_2 _ fun t ht => hmark (by rw [ht]; rfl), hv]
      split
      · next h => cases h
      · next h =>
        cases h
        rw [hrest]
    rw [read, hdocument]

end LogHarvest.Json
