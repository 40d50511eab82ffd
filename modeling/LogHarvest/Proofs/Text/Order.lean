import LogHarvest.Text.Basic
import Mathlib.Data.List.Lex

/-!
# The order of texts

Texts compare like the lists of their code points, so their order is linear, and a list of different
texts that has been sorted is strictly increasing.
-/

namespace LogHarvest

namespace Symbol

/-- Every symbol has a code point of its own: no character is a surrogate. -/
theorem code_injective {a b : Symbol} (h : a.code = b.code) : a = b := by
  have outside : ∀ (c : Char) (i : Fin 2048), c.toNat ≠ 0xD800 + i.val := by
    intro c i hc
    have hvalid : c.toNat < 0xD800 ∨ 0xDFFF < c.toNat ∧ c.toNat < 0x110000 := c.valid
    have hi := i.isLt
    omega
  cases a with
  | char c =>
    cases b with
    | char d => exact congrArg char (Char.toNat_inj.mp h)
    | half j => exact absurd h (outside c j)
  | half i =>
    cases b with
    | char d => exact absurd h.symm (outside d i)
    | half j =>
      have hij : i.val = j.val := Nat.add_left_cancel h
      exact congrArg half (Fin.ext hij)

end Symbol

namespace Text

variable {s t : Text}

/-- The code points of a text. -/
def codes (t : Text) : List Nat := t.map Symbol.code

theorem codes_injective (h : s.codes = t.codes) : s = t := by
  induction s generalizing t with
  | nil =>
    cases t with
    | nil => rfl
    | cons b t => cases h
  | cons a s ih =>
    cases t with
    | nil => cases h
    | cons b t =>
      obtain ⟨hcode, hrest⟩ := List.cons.inj h
      rw [Symbol.code_injective hcode, ih hrest]

theorem compare_eq_lt_iff : compare s t = .lt ↔ s.codes < t.codes := by
  induction s generalizing t with
  | nil => cases t <;> simp [compare, codes]
  | cons a s ih =>
    cases t with
    | nil => simp [compare, codes]
    | cons b t =>
      rw [compare, Ordering.then_eq_lt, Nat.compare_eq_lt, Nat.compare_eq_eq, ih]
      exact List.cons_lt_cons_iff.symm

theorem compare_swap : (compare s t).swap = compare t s := by
  induction s generalizing t with
  | nil => cases t <;> rfl
  | cons a s ih =>
    cases t with
    | nil => rfl
    | cons b t => rw [compare, Ordering.swap_then, Nat.compare_swap, ih, compare]

theorem le_iff : le s t = true ↔ s.codes ≤ t.codes := by
  have hgt : compare s t = .gt ↔ t.codes < s.codes := by
    rw [← compare_eq_lt_iff, ← compare_swap (s := s) (t := t), Ordering.swap_eq_lt]
  rw [le, bne_iff_ne, ne_eq, hgt, not_lt]

theorem le_trans (s t u : Text) (hst : le s t = true) (htu : le t u = true) :
    le s u = true := by
  rw [le_iff] at hst htu ⊢
  exact hst.trans htu

theorem le_total (s t : Text) : (le s t || le t s) = true := by
  rw [Bool.or_eq_true, le_iff, le_iff]
  exact Std.le_total

/-- Of two different texts in order the first one is smaller. -/
theorem compare_eq_lt_of_le (h : le s t = true) (hne : s ≠ t) : compare s t = .lt := by
  rw [compare_eq_lt_iff, ← not_le]
  intro hts
  exact hne (codes_injective ((le_iff.mp h).antisymm hts))

/-! ## The first difference -/

/-- What two texts have in common in front makes no difference. -/
theorem compare_append_left (s u v : Text) : compare (s ++ u) (s ++ v) = compare u v := by
  induction s with
  | nil => rfl
  | cons a s ih =>
    rw [List.cons_append, List.cons_append, compare, ih, Nat.compare_eq_eq.mpr rfl,
      Ordering.eq_then]

/-- Behind the first difference nothing matters. -/
theorem compare_append_of_lt {u v : Text} (hlength : s.length = t.length) (h : compare s t = .lt) :
    compare (s ++ u) (t ++ v) = .lt := by
  induction s generalizing t with
  | nil =>
    rw [List.eq_nil_of_length_eq_zero hlength.symm] at h
    cases h
  | cons a s ih =>
    cases t with
    | nil => cases h
    | cons b t =>
      rw [compare, Ordering.then_eq_lt] at h
      rw [List.cons_append, List.cons_append, compare, Ordering.then_eq_lt]
      exact h.imp_right fun ⟨hsame, hrest⟩ => ⟨hsame, ih (Nat.succ.inj hlength) hrest⟩

/-! ## Sorting -/

theorem sort_perm (ts : List Text) : (sort ts).Perm ts := List.mergeSort_perm ts le

theorem pairwise_sort (ts : List Text) : (sort ts).Pairwise fun s t => le s t = true :=
  List.pairwise_mergeSort le_trans le_total ts

/-- Different texts are strictly increasing once they are sorted. -/
theorem pairwise_lt_sort {ts : List Text} (h : ts.Nodup) :
    (sort ts).Pairwise fun s t => compare s t = .lt := by
  have hdistinct : (sort ts).Nodup := (sort_perm ts).nodup_iff.mpr h
  exact (pairwise_sort ts).imp₂ (fun s t => compare_eq_lt_of_le) hdistinct

theorem compare_self_ne_lt (t : Text) : compare t t ≠ .lt := fun h =>
  lt_irrefl _ (compare_eq_lt_iff.mp h)

theorem compare_trans {u : Text} (hst : compare s t = .lt) (htu : compare t u = .lt) :
    compare s u = .lt :=
  compare_eq_lt_iff.mpr ((compare_eq_lt_iff.mp hst).trans (compare_eq_lt_iff.mp htu))

/-- Strictly increasing lists of the same texts are the same. -/
theorem eq_of_pairwise_lt {ts us : List Text} (hts : ts.Pairwise fun s t => compare s t = .lt)
    (hus : us.Pairwise fun s t => compare s t = .lt) (h : ∀ t, t ∈ ts ↔ t ∈ us) : ts = us := by
  have hdistinct : ∀ {vs : List Text}, (vs.Pairwise fun s t => compare s t = .lt) → vs.Nodup := by
    refine fun hvs => hvs.imp ?_
    rintro t _ hlt rfl
    exact compare_self_ne_lt t hlt
  refine List.Perm.eq_of_pairwise (fun s t _ _ hst hts => ?_) hts hus
    ((List.perm_ext_iff_of_nodup (hdistinct hts) (hdistinct hus)).mpr h)
  exact absurd (compare_trans hst hts) (compare_self_ne_lt s)

/-! ## Sorting, each text once -/

/-- Drops a text that is the same as the next one. -/
def collapse (ts : List Text) : List Text :=
  ts.foldr (fun t out => if out.head? == some t then out else t :: out) []

theorem collapse_cons (t : Text) (ts : List Text) :
    collapse (t :: ts) =
      if (collapse ts).head? == some t then collapse ts else t :: collapse ts := rfl

theorem mem_collapse (ts : List Text) : t ∈ collapse ts ↔ t ∈ ts := by
  induction ts with
  | nil => exact Iff.rfl
  | cons first rest ih =>
    rw [collapse_cons, List.mem_cons, ← ih]
    split
    · next hhead =>
      have hfirst : first ∈ collapse rest := List.mem_of_mem_head? (by simpa using hhead)
      exact ⟨Or.inr, fun h => h.elim (fun ht => ht ▸ hfirst) id⟩
    · exact List.mem_cons

/-- Of texts in order those that are left are strictly increasing. -/
theorem pairwise_lt_collapse {ts : List Text} (h : ts.Pairwise fun s t => le s t = true) :
    (collapse ts).Pairwise fun s t => compare s t = .lt := by
  induction ts with
  | nil => exact .nil
  | cons first rest ih =>
    obtain ⟨hfirst, hrest⟩ := List.pairwise_cons.mp h
    have hstrict := ih hrest
    rw [collapse_cons]
    split
    · exact hstrict
    · next hhead =>
      refine List.pairwise_cons.mpr ⟨fun later hlater => ?_, hstrict⟩
      -- the first that is left of the others is greater already
      cases hleft : collapse rest with
      | nil => simp [hleft] at hlater
      | cons second others =>
        rw [hleft] at hhead hlater hstrict
        have hne : first ≠ second := by
          rintro rfl
          exact hhead (by simp)
        have hsecond : compare first second = .lt :=
          compare_eq_lt_of_le (hfirst second ((mem_collapse rest).mp (by simp [hleft]))) hne
        rcases List.mem_cons.mp hlater with rfl | hlater
        · exact hsecond
        · exact compare_trans hsecond ((List.pairwise_cons.mp hstrict).1 later hlater)

theorem mem_sortDistinct {ts : List Text} : t ∈ sortDistinct ts ↔ t ∈ ts :=
  (mem_collapse (sort ts)).trans (sort_perm ts).mem_iff

theorem pairwise_lt_sortDistinct (ts : List Text) :
    (sortDistinct ts).Pairwise fun s t => compare s t = .lt :=
  pairwise_lt_collapse (pairwise_sort ts)

end Text

end LogHarvest
