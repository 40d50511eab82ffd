import LogHarvest.Proofs.Archive.RoundTrip
import Mathlib.Data.List.Forall2

/-!
# Streams of frames

Each reader takes a part off the front of its bytes and leaves the rest. It takes just the bytes of
the part: it would take them whatever stood behind, and it asks for more as long as one of them is
missing (`Reader.IsExact`). This is shown reader by reader, from a number of bytes up to a frame,
whatever decodes the blocks.

So a stream is read as a sequence of frames (`IsStream`), and it can be cut unnoticed between two of
them only (`IsStream.cut`). Of a codec no more is asked than that it keeps to the format
(`Codec.IsStandard`).
-/

namespace LogHarvest.Frame

variable {α β : Type}

/-! ## Readers -/

/-- Something that is read off the front of bytes. -/
abbrev Reader (α : Type) := Bytes → Except Fault (α × Bytes)

namespace Reader

/-- The reader takes these bytes: whatever stands behind them, and not before all are there. -/
structure Takes (read : Reader α) (taken : Bytes) (a : α) : Prop where
  whole : ∀ rest, read (taken ++ rest) = .ok (a, rest)
  cut : ∀ part, part <+: taken → part ≠ taken → read part = .error .truncated

/-- Whatever the reader reads, it takes the bytes in front of those that it leaves. -/
def IsExact (read : Reader α) : Prop :=
  ∀ data a rest, read data = .ok (a, rest) → ∃ taken, data = taken ++ rest ∧ Takes read taken a

/-- A part of two pieces ends within the first one, or behind it. -/
theorem prefix_append_cases {part first second : Bytes} (h : part <+: first ++ second) :
    part <+: first ∧ part ≠ first ∨ ∃ more, part = first ++ more ∧ more <+: second := by
  rcases List.prefix_or_prefix_of_prefix h (List.prefix_append first second) with hpart | hfirst
  · by_cases heq : part = first
    · exact Or.inr ⟨[], by rw [heq, List.append_nil], List.nil_prefix⟩
    · exact Or.inl ⟨hpart, heq⟩
  · obtain ⟨more, rfl⟩ := hfirst
    exact Or.inr ⟨more, rfl, (List.prefix_append_right_inj first).mp h⟩

theorem Takes.ne_nil {read : Reader α} {taken : Bytes} {a : α} {fault : Fault}
    (h : Takes read taken a) (hnil : read [] = .error fault) : taken ≠ [] := by
  rintro rfl
  cases (h.whole []).symm.trans hnil

theorem Takes.bind {read : Reader α} {next : α × Bytes → Except Fault (β × Bytes)}
    {first second : Bytes} {a : α} {b : β} (h : Takes read first a)
    (hnext : Takes (fun rest => next (a, rest)) second b) :
    Takes (fun data => read data >>= next) (first ++ second) b where
  whole rest := by
    rw [List.append_assoc, h.whole]
    exact hnext.whole rest
  cut part hpart hne := by
    rcases prefix_append_cases hpart with ⟨hfirst, hshort⟩ | ⟨more, rfl, hmore⟩
    · rw [h.cut part hfirst hshort]
      rfl
    · rw [h.whole]
      exact hnext.cut more hmore fun heq => hne (by rw [heq])

namespace IsExact

variable {read read' : Reader α}

/-- What comes to nothing is exact. -/
theorem of_error (h : ∀ data, ∃ fault, read data = .error fault) : IsExact read := by
  intro data a rest hread
  obtain ⟨fault, hfault⟩ := h data
  cases hread.symm.trans hfault

theorem pure (a : α) : IsExact fun rest => Pure.pure (a, rest) := by
  rintro data _ rest ⟨⟩
  refine ⟨[], rfl, fun _ => rfl, fun part hpart hne => ?_⟩
  exact absurd (List.prefix_nil.mp hpart) hne

theorem bind {next : α × Bytes → Except Fault (β × Bytes)} (h : IsExact read)
    (hnext : ∀ a, IsExact fun rest => next (a, rest)) :
    IsExact fun data => read data >>= next := by
  intro data b rest hread
  change read data >>= next = .ok (b, rest) at hread
  cases hfirst : read data with
  | error fault =>
    rw [hfirst] at hread
    cases hread
  | ok result =>
    obtain ⟨a, middle⟩ := result
    rw [hfirst] at hread
    obtain ⟨first, rfl, htakes⟩ := h data a middle hfirst
    obtain ⟨second, rfl, htakes'⟩ := hnext a middle b rest hread
    exact ⟨first ++ second, (List.append_assoc ..).symm, htakes.bind htakes'⟩

/-- A step that does not look at the bytes. -/
theorem bindExcept (e : Except Fault β) {next : β → Reader α} (h : ∀ b, IsExact (next b)) :
    IsExact fun data => e >>= fun b => next b data := by
  cases e with
  | error fault => exact of_error fun _ => ⟨fault, rfl⟩
  | ok b => exact h b

/-- A choice that does not look at the bytes. -/
theorem ite {c : Prop} [Decidable c] (h : c → IsExact read) (h' : ¬c → IsExact read') :
    IsExact fun data => if c then read data else read' data := by
  by_cases hc : c
  · simpa only [if_pos hc] using h hc
  · simpa only [if_neg hc] using h' hc

theorem takeBytes (n : Nat) : IsExact (Frame.takeBytes n) := by
  intro data a rest h
  unfold Frame.takeBytes at h
  split at h
  · cases h
  · next hlength =>
    cases h
    have htaken : (data.take n).length = n := by
      rw [List.length_take]
      omega
    refine ⟨data.take n, (List.take_append_drop n data).symm, fun rest => ?_,
      fun part hpart hne => ?_⟩
    · rw [Frame.takeBytes, if_neg (by rw [List.length_append]; omega), List.take_left' htaken,
        List.drop_left' htaken]
    · have hshort : part.length < n := by
        by_contra hlong
        exact hne (hpart.eq_of_length_le (by omega))
      rw [Frame.takeBytes, if_pos hshort]

/-- A reader that looks at the first byte is exact if it is so for each of them. -/
theorem cons (hnil : read [] = .error .truncated) (h : ∀ b, IsExact fun data => read (b :: data)) :
    IsExact read := by
  intro data a rest hread
  cases data with
  | nil => cases hnil.symm.trans hread
  | cons b data =>
    obtain ⟨taken, rfl, htakes⟩ := h b data a rest hread
    refine ⟨b :: taken, rfl, htakes.whole, fun part hpart hne => ?_⟩
    cases part with
    | nil => exact hnil
    | cons b' part =>
      obtain ⟨rfl, hmore⟩ := List.cons_prefix_cons.mp hpart
      exact htakes.cut part hmore fun heq => hne (by rw [heq])

end IsExact

end Reader

open Reader

/-! ## The header -/

theorem isExact_readHeader : IsExact readHeader := by
  refine .cons rfl fun first => ?_
  -- the checks behind the three fields look at no more bytes
  refine .bind (.takeBytes _) fun window => .bind (.takeBytes _) fun dictionary =>
    .bind (.takeBytes _) fun size => ?_
  refine .ite (fun _ => .of_error fun _ => ⟨_, rfl⟩) fun _ => ?_
  refine .ite (fun _ => .of_error fun _ => ⟨_, rfl⟩) fun _ => ?_
  exact .ite (fun _ => .of_error fun _ => ⟨_, rfl⟩) fun _ => .pure _

/-! ## Blocks -/

theorem isExact_readPayload (limit : Nat) (decode : Bytes → Except Text Bytes) (kind : BlockKind)
    (size : Nat) : IsExact (readPayload limit decode kind size) := by
  cases kind with
  | raw =>
    exact .ite (fun _ => .of_error fun _ => ⟨_, rfl⟩) fun _ =>
      .bind (.takeBytes _) fun bytes => .pure _
  | repeated =>
    exact .bind (.takeBytes 1) fun byte =>
      .ite (fun _ => .of_error fun _ => ⟨_, rfl⟩) fun _ => .pure _
  | coded =>
    exact .ite (fun _ => .of_error fun _ => ⟨_, rfl⟩) fun _ =>
      .bind (.takeBytes _) fun bytes => .bindExcept _ fun content => .pure _
  | reserved => exact .of_error fun _ => ⟨_, rfl⟩

theorem isExact_readBlock (limit : Nat) (decode : Bytes → Except Text Bytes) :
    IsExact (readBlock limit decode) :=
  .bind (.takeBytes 3) fun _ => .bind (isExact_readPayload _ _ _ _) fun _ => .pure _

section Blocks

variable {limit : Nat} {decode : Bytes → Bytes → Except Text Bytes} {before first second : Bytes}
  {block : Block} {more : Bytes}

theorem readBlocks_of_cut {part : Bytes}
    (h : readBlock limit (decode before) part = .error .truncated) :
    readBlocks limit decode before part = .error .truncated := by
  rw [readBlocks.eq_def, h]

theorem takes_last (h : Takes (readBlock limit (decode before)) first block)
    (hlast : block.last = true) :
    Takes (readBlocks limit decode before) first block.content where
  whole rest := by
    rw [readBlocks.eq_def, h.whole]
    simp only [hlast, if_true]
  cut part hpart hne := readBlocks_of_cut (h.cut part hpart hne)

theorem takes_more (h : Takes (readBlock limit (decode before)) first block)
    (hlast : block.last = false)
    (hmore : Takes (readBlocks limit decode (before ++ block.bytes)) second more) :
    Takes (readBlocks limit decode before) (first ++ second) (block.content ++ more) := by
  have hread : ∀ rest, readBlocks limit decode before (first ++ rest) =
      readBlocks limit decode (before ++ block.bytes) rest >>=
        fun r => pure (block.content ++ r.1, r.2) := by
    intro rest
    have hless : rest.length < (first ++ rest).length := by
      rw [List.length_append]
      exact Nat.lt_add_of_pos_left (List.length_pos_iff.mpr (h.ne_nil rfl))
    rw [readBlocks.eq_def, h.whole]
    simp only [hlast, Bool.false_eq_true, if_false, hless, dif_pos]
    cases readBlocks limit decode (before ++ block.bytes) rest <;> rfl
  constructor
  · intro rest
    rw [List.append_assoc, hread, hmore.whole]
    rfl
  · intro part hpart hne
    rcases prefix_append_cases hpart with ⟨hfirst, hshort⟩ | ⟨behind, rfl, hbehind⟩
    · exact readBlocks_of_cut (h.cut part hfirst hshort)
    · rw [hread, hmore.cut behind hbehind fun heq => hne (by rw [heq])]
      rfl

end Blocks

/-- Blocks up to the last one. -/
theorem isExact_readBlocks (limit : Nat) (decode : Bytes → Bytes → Except Text Bytes)
    (before : Bytes) : IsExact (readBlocks limit decode before) := by
  intro data
  fun_induction readBlocks limit decode before data with
  | case2 before data block rest h hlast =>
    rintro content rest ⟨⟩
    obtain ⟨taken, hdata, htakes⟩ := isExact_readBlock limit _ data _ _ h
    exact ⟨taken, hdata, takes_last htakes hlast⟩
  | case4 before data block rest h hlast hless more behind hmore ih =>
    rintro content rest ⟨⟩
    obtain ⟨first, hdata, htakes⟩ := isExact_readBlock limit _ data _ _ h
    obtain ⟨second, hrest, htakes'⟩ := ih more behind hmore
    exact ⟨first ++ second, by rw [hdata, hrest, List.append_assoc],
      takes_more htakes (Bool.eq_false_iff.mpr hlast) htakes'⟩
  | _ => rintro content rest ⟨⟩

/-! ## Frames -/

theorem readChecksum_bind (content data : Bytes) :
    (readChecksum content data >>= fun rest => pure (content, rest)) =
      takeBytes 4 data >>= fun r =>
        if littleEndian r.1 = checksum content then pure (content, r.2) else .error .checksum := by
  unfold readChecksum
  cases takeBytes 4 data with
  | error fault => rfl
  | ok r =>
    by_cases h : littleEndian r.1 = checksum content
    · simp only [bind, Except.bind, if_pos h]
      rfl
    · simp only [bind, Except.bind, if_neg h]

section Frames

variable (decode : BlockDecoder)

theorem isExact_readContent : IsExact (readContent decode) := by
  refine .bind isExact_readHeader fun header => .bind (isExact_readBlocks _ _ _) fun content => ?_
  refine .ite (fun _ => .of_error fun _ => ⟨_, rfl⟩) fun _ => .ite (fun _ => ?_) fun _ => .pure _
  rw [funext (readChecksum_bind content)]
  exact .bind (.takeBytes 4) fun sum =>
    .ite (c := littleEndian sum = checksum content) (fun _ => .pure content) fun _ =>
      .of_error fun _ => ⟨_, rfl⟩

theorem isExact_skipContent : IsExact skipContent :=
  .bind (.takeBytes 4) fun _ => .bind (.takeBytes _) fun _ => .pure _

/-- The bytes that a frame begins with. -/
def IsMagic (start : Bytes) : Prop := start = magic ∨ clearFree start = skippableMagic

@[simp] theorem length_clearFree (data : Bytes) : (clearFree data).length = data.length := by
  cases data <;> rfl

theorem clearFree_prefix {part data : Bytes} (h : part <+: data) :
    clearFree part <+: clearFree data := by
  obtain ⟨more, rfl⟩ := h
  cases part with
  | nil => exact List.nil_prefix
  | cons b part => exact ⟨more, rfl⟩

theorem IsMagic.length {start : Bytes} (h : IsMagic start) : start.length = 4 := by
  rcases h with rfl | h
  · rfl
  · rw [← length_clearFree, h]
    rfl

/-- Too few bytes for the magic. -/
theorem readFrame_of_cut {start part : Bytes} (h : IsMagic start) (hpart : part <+: start)
    (hne : part ≠ start) : readFrame decode part = .error .truncated := by
  have hshort : part.length < 4 := by
    by_contra hlong
    exact hne (hpart.eq_of_length_le (by rw [h.length]; omega))
  have hmagic : part ≠ magic := by
    rintro rfl
    exact absurd hshort (by decide)
  have hskippable : clearFree part ≠ skippableMagic := by
    intro heq
    rw [← length_clearFree, heq] at hshort
    exact absurd hshort (by decide)
  have hbegins : part.isPrefixOf magic = true ∨
      (clearFree part).isPrefixOf skippableMagic = true := by
    rw [List.isPrefixOf_iff_prefix, List.isPrefixOf_iff_prefix]
    rcases h with rfl | h
    · exact Or.inl hpart
    · exact Or.inr (h ▸ clearFree_prefix hpart)
  unfold readFrame
  simp only [List.take_of_length_le (Nat.le_of_lt hshort)]
  rw [if_neg hmagic, if_neg hskippable, if_pos ⟨hshort, hbegins⟩]

theorem readFrame_append {start : Bytes} (h : start.length = 4) (data : Bytes) :
    readFrame decode (start ++ data) =
      if start = magic then readContent decode data
      else if clearFree start = skippableMagic then skipContent data
      else .error .unknownMagic := by
  unfold readFrame
  simp only [List.take_left' h, List.drop_left' h]
  rw [if_neg (c := start.length < 4 ∧ _) (by omega)]

variable {decode}

theorem takes_frame {start taken content : Bytes} {body : Reader Bytes} (h : IsMagic start)
    (hbody : ∀ data, readFrame decode (start ++ data) = body data)
    (htakes : Takes body taken content) : Takes (readFrame decode) (start ++ taken) content where
  whole rest := by rw [List.append_assoc, hbody, htakes.whole]
  cut part hpart hne := by
    rcases prefix_append_cases hpart with ⟨hstart, hshort⟩ | ⟨more, rfl, hmore⟩
    · exact readFrame_of_cut decode h hstart hshort
    · rw [hbody, htakes.cut more hmore fun heq => hne (by rw [heq])]

theorem isMagic_of_readFrame {data : Bytes} {result : Bytes × Bytes}
    (h : readFrame decode data = .ok result) : IsMagic (data.take 4) := by
  unfold readFrame at h
  simp only at h
  split at h
  · next hmagic => exact Or.inl hmagic
  · split at h
    · next hskippable => exact Or.inr hskippable
    · split at h <;> cases h

/-- A frame of either kind is taken whole or not at all. -/
theorem isExact_readFrame : IsExact (readFrame decode) := by
  intro data content rest h
  have hstart := isMagic_of_readFrame h
  have hdata := List.take_append_drop 4 data
  generalize data.take 4 = start, data.drop 4 = behind at hstart hdata
  subst hdata
  have hread := readFrame_append decode hstart.length
  by_cases hmagic : start = magic
  · have hbody : ∀ data, readFrame decode (start ++ data) = readContent decode data := by
      simpa only [if_pos hmagic] using hread
    obtain ⟨taken, rfl, htakes⟩ := isExact_readContent decode _ _ _ ((hbody behind).symm.trans h)
    exact ⟨start ++ taken, (List.append_assoc ..).symm, takes_frame hstart hbody htakes⟩
  · have hbody : ∀ data, readFrame decode (start ++ data) = skipContent data := by
      simpa only [if_neg hmagic, if_pos (hstart.resolve_left hmagic)] using hread
    obtain ⟨taken, rfl, htakes⟩ := isExact_skipContent _ _ _ ((hbody behind).symm.trans h)
    exact ⟨start ++ taken, (List.append_assoc ..).symm, takes_frame hstart hbody htakes⟩

variable (decode) in
/-- The bytes are one frame with this content: they begin with the magic number, and nothing stands
behind the frame. -/
def IsFrame (frame content : Bytes) : Prop :=
  ∃ body, frame = magic ++ body ∧ readContent decode body = .ok (content, [])

theorem IsFrame.takes {frame content : Bytes} (h : IsFrame decode frame content) :
    Takes (readFrame decode) frame content := by
  obtain ⟨body, rfl, hbody⟩ := h
  -- nothing is left behind the content, so all of the body was taken for it
  obtain ⟨taken, heq, htakes⟩ :=
    isExact_readFrame _ _ _ ((readFrame_append decode rfl body).trans ((if_pos rfl).trans hbody))
  rwa [heq, List.append_nil]

/-! ## Streams -/

variable (decode) in
/-- The bytes are frames one after another, and these are their contents. -/
inductive IsStream : Bytes → List Bytes → Prop
  | nil : IsStream [] []
  | frame {taken content rest : Bytes} {contents : List Bytes}
      (h : Takes (readFrame decode) taken content) (hrest : IsStream rest contents) :
      IsStream (taken ++ rest) (content :: contents)

theorem readStream_append_of_takes {taken content : Bytes}
    (h : Takes (readFrame decode) taken content) (rest : Bytes) :
    readStream decode (taken ++ rest) = (readStream decode rest).map (content ++ ·) := by
  have htaken : taken ≠ [] := h.ne_nil rfl
  have hless : rest.length < (taken ++ rest).length := by
    rw [List.length_append]
    exact Nat.lt_add_of_pos_left (List.length_pos_iff.mpr htaken)
  rw [readStream.eq_def, if_neg (by simp [htaken]), h.whole]
  simp only [hless, dif_pos]
  cases readStream decode rest <;> rfl

theorem readStream_of_cut {part : Bytes} (hne : part ≠ [])
    (h : readFrame decode part = .error .truncated) :
    readStream decode part = .error .truncated := by
  rw [readStream.eq_def, if_neg hne, h]

namespace IsStream

variable {stream : Bytes} {contents : List Bytes}

/-- The contents of a stream come back. -/
theorem readStream (h : IsStream decode stream contents) :
    Frame.readStream decode stream = .ok contents.flatten := by
  induction h with
  | nil => rw [Frame.readStream.eq_def, if_pos rfl]; rfl
  | frame htakes _ ih =>
    rw [readStream_append_of_takes htakes, ih]
    rfl

/-- Frames, one behind the other, are a stream. -/
theorem of_frames {frames : List Bytes} (h : List.Forall₂ (IsFrame decode) frames contents) :
    IsStream decode frames.flatten contents := by
  induction h with
  | nil => exact .nil
  | cons hframe _ ih => exact .frame hframe.takes ih

/-- A stream that was cut off ends between two frames, or it is found out. -/
theorem cut (h : IsStream decode stream contents) {part : Bytes} (hpart : part <+: stream) :
    Frame.readStream decode part = .error .truncated ∨
      ∃ front back rest, stream = part ++ rest ∧ contents = front ++ back ∧
        IsStream decode part front ∧ IsStream decode rest back := by
  induction h generalizing part with
  | nil =>
    obtain rfl := List.prefix_nil.mp hpart
    exact Or.inr ⟨[], [], [], rfl, rfl, .nil, .nil⟩
  | @frame taken content rest contents htakes hrest ih =>
    rcases prefix_append_cases hpart with ⟨htaken, hshort⟩ | ⟨more, rfl, hmore⟩
    · by_cases hempty : part = []
      · subst hempty
        exact Or.inr ⟨[], content :: contents, taken ++ rest, rfl, rfl, .nil, .frame htakes hrest⟩
      · exact Or.inl (readStream_of_cut hempty (htakes.cut part htaken hshort))
    · rcases ih hmore with hcut | ⟨front, back, behind, rfl, rfl, hfront, hback⟩
      · rw [readStream_append_of_takes htakes, hcut]
        exact Or.inl rfl
      · exact Or.inr ⟨content :: front, back, behind, (List.append_assoc ..).symm, rfl,
          .frame htakes hfront, hback⟩

end IsStream

end Frames

end LogHarvest.Frame

namespace LogHarvest.Codec

open LogHarvest.Frame

/-! ## Codecs -/

/-- The codec keeps to the format, with this decoder of blocks: it writes one frame for its bytes,
and it reads streams of frames. What it makes of a broken frame is left open. -/
structure IsStandard (codec : Codec) (decode : BlockDecoder) : Prop where
  writes : ∀ data, ∃ frame, codec.compress data = .ok frame ∧ IsFrame decode frame data
  reads : ∀ stream content, readStream decode stream = .ok content →
    codec.decompress stream = .ok content
  misses : ∀ stream, readStream decode stream = .error .truncated →
    ∃ fault, codec.decompress stream = .error fault ∧ fault.kind = Text.ofString "OSError"

/-- What is compressed comes back. -/
def IsLossless (codec : Codec) : Prop :=
  ∀ data body, codec.compress data = .ok body → codec.decompress body = .ok data

theorem IsStandard.isFrame {codec : Codec} {decode : BlockDecoder} (h : codec.IsStandard decode)
    {data frame : Bytes} (hframe : codec.compress data = .ok frame) :
    IsFrame decode frame data := by
  obtain ⟨written, hwritten, hisFrame⟩ := h.writes data
  cases hframe.symm.trans hwritten
  exact hisFrame

theorem IsStandard.isLossless {codec : Codec} {decode : BlockDecoder}
    (h : codec.IsStandard decode) : codec.IsLossless := by
  intro data body hbody
  have hread := (IsStream.of_frames (.cons (h.isFrame hbody) .nil)).readStream
  exact h.reads _ _ (by simpa using hread)

theorem isStandard_stored : Codec.stored.IsStandard noCode where
  writes data := by
    refine ⟨_, rfl, writtenHeader ++ blocks data, List.append_assoc .., ?_⟩
    have hcontent := readContent_written noCode data []
    rwa [List.append_nil] at hcontent
  reads stream content h := by
    show (readStream noCode stream).mapError _ = _
    rw [h]
    rfl
  misses stream h := by
    refine ⟨.frame .truncated, ?_, rfl⟩
    show (readStream noCode stream).mapError _ = _
    rw [h]
    rfl

theorem isLossless_stored : Codec.stored.IsLossless := isStandard_stored.isLossless

end LogHarvest.Codec
