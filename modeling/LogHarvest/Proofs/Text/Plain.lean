import LogHarvest.Number.Shortest
import LogHarvest.Text.Basic

/-!
# Plain texts

A text can be printed if no half of a pair stands alone in it. All that the program itself writes
down as a number is plain.
-/

namespace LogHarvest

/-- Whether a text can be printed: no half stands alone in it. -/
def Text.IsPlain (t : Text) : Prop := t.toString?.isSome = true

instance (t : Text) : Decidable t.IsPlain := inferInstanceAs (Decidable (_ = true))

namespace Text

/-- A text can be printed if each of its symbols is a character. -/
theorem isPlain_iff (t : Text) : t.IsPlain ↔ ∀ s ∈ t, ∃ c, s = .char c := by
  rw [IsPlain, toString?, Option.isSome_map]
  induction t with
  | nil => exact iff_of_true rfl fun _ h => (by cases h)
  | cons s rest ih =>
    rw [List.forall_mem_cons, ← ih, List.mapM_cons]
    cases s with
    | half h =>
      refine iff_of_false Bool.false_ne_true ?_
      rintro ⟨⟨c, hc⟩, -⟩
      cases hc
    | char c =>
      rw [and_iff_right ⟨c, rfl⟩]
      show ((rest.mapM Symbol.char?).bind fun cs => some (c :: cs)).isSome = true ↔ _
      cases rest.mapM Symbol.char? with
      | none => rfl
      | some cs => rfl

theorem isPlain_append {s t : Text} : (s ++ t).IsPlain ↔ s.IsPlain ∧ t.IsPlain := by
  rw [isPlain_iff, isPlain_iff, isPlain_iff, List.forall_mem_append]

theorem isPlain_map (cs : List Char) : IsPlain (cs.map Symbol.char) := by
  rw [isPlain_iff]
  intro symbol hsymbol
  obtain ⟨c, -, rfl⟩ := List.mem_map.mp hsymbol
  exact ⟨c, rfl⟩

theorem isPlain_ofString (s : String) : (ofString s).IsPlain := isPlain_map s.toList

@[simp] theorem isPlain_nil : IsPlain [] := rfl

theorem isPlain_char_cons (c : Char) {t : Text} (h : t.IsPlain) : IsPlain (.char c :: t) :=
  isPlain_append.mpr ⟨isPlain_map [c], h⟩

theorem IsPlain.sublist {s t : Text} (h : t.IsPlain) (hs : s.Sublist t) : s.IsPlain := by
  rw [isPlain_iff] at h ⊢
  exact fun symbol hsymbol => h symbol (hs.subset hsymbol)

theorem IsPlain.of_cons {s : Symbol} {t : Text} (h : IsPlain (s :: t)) : t.IsPlain :=
  h.sublist (List.sublist_cons_self s t)

/-! ## Numbers -/

theorem isPlain_replicate (n : Nat) (c : Char) : IsPlain (List.replicate n (.char c)) := by
  rw [isPlain_iff]
  exact fun symbol hsymbol => ⟨c, List.eq_of_mem_replicate hsymbol⟩

theorem isPlain_ofNat (n : Nat) : (ofNat n).IsPlain := isPlain_map _

theorem isPlain_ofInt (n : Int) : (ofInt n).IsPlain := by
  unfold ofInt
  split
  · exact isPlain_char_cons '-' (isPlain_ofNat _)
  · exact isPlain_ofNat _

theorem isPlain_padded (width n : Nat) : (padded width n).IsPlain :=
  isPlain_append.mpr ⟨isPlain_replicate _ _, isPlain_ofNat n⟩

theorem isPlain_hex (width n : Nat) : (hex width n).IsPlain :=
  isPlain_append.mpr ⟨isPlain_replicate _ _, isPlain_map _⟩

end Text

open Text

theorem Decimal.isPlain_render (layout : DecimalLayout) (d : Decimal) :
    (d.render layout).IsPlain := by
  have hdigits : (ofNat d.digits).IsPlain := isPlain_ofNat _
  have hzeros : ∀ n, IsPlain (List.replicate n (.char '0')) := fun n => isPlain_replicate n '0'
  dsimp only [render]
  split
  · split
    · exact isPlain_append.mpr ⟨isPlain_append.mpr ⟨hdigits, hzeros _⟩, isPlain_ofString _⟩
    · split
      · exact isPlain_append.mpr ⟨isPlain_append.mpr ⟨hdigits.sublist (List.take_sublist _ _),
          isPlain_map ['.']⟩, hdigits.sublist (List.drop_sublist _ _)⟩
      · exact isPlain_append.mpr ⟨isPlain_append.mpr ⟨isPlain_ofString _, hzeros _⟩, hdigits⟩
  · refine isPlain_append.mpr ⟨isPlain_append.mpr ⟨isPlain_append.mpr
      ⟨hdigits.sublist (List.take_sublist _ _), ?_⟩, isPlain_map ['e', _]⟩, isPlain_padded _ _⟩
    split
    · exact isPlain_nil
    · exact isPlain_char_cons '.' (hdigits.sublist (List.drop_sublist _ _))

/-- Numbers are plain. -/
theorem Binary64.isPlain_render (x : Binary64) : x.render.IsPlain := by
  cases x with
  | nan => exact isPlain_ofString _
  | infinite s => exact isPlain_ofString _
  | finite s m e =>
    have hbody : IsPlain (if m = 0 then Text.ofString "0.0"
        else (Shortest.decimal m e).render Binary64.layout) := by
      split
      · exact isPlain_ofString _
      · exact Decimal.isPlain_render _ _
    dsimp only [render]
    split
    · exact isPlain_char_cons '-' hbody
    · exact hbody

end LogHarvest
