import Mathlib.Data.String.Basic
import Mathlib.Data.List.Lex
import Mathlib.Data.Sum.Basic

/-! Text as a sequence of code points, in which a surrogate may stand on its own: the strings of a
language that does not limit them to valid Unicode. -/

/-- A character, or a lone surrogate, counted from U+D800. -/
abbrev CodePoint := Char ⊕ Fin 2048

namespace CodePoint

def value : CodePoint → ℕ
  | .inl c => c.toNat
  | .inr u => 0xd800 + u

theorem value_injective : Function.Injective value := by
  have hapart : ∀ (c : Char) (u : Fin 2048), c.toNat ≠ 0xd800 + u := by
    intro c u h
    have hvalid : c.toNat < 0xd800 ∨ 0xdfff < c.toNat ∧ c.toNat < 0x110000 := c.valid
    have hbound := u.isLt
    omega
  rintro (c | u) (d | v) h
  · exact congrArg Sum.inl (Char.toNat_inj.mp h)
  · exact absurd h (hapart c v)
  · exact absurd h.symm (hapart d u)
  · exact congrArg Sum.inr (Fin.ext (Nat.add_left_cancel h))

end CodePoint

/-- Valid Unicode, or valid Unicode up to a lone surrogate and what follows it. -/
inductive Str where
  | text (s : String)
  | stray (s : String) (surrogate : Fin 2048) (rest : Str)
  deriving DecidableEq, Repr

namespace Str

instance : Coe String Str := ⟨.text⟩

/-- Nothing in the text keeps it from having a UTF-8 encoding. -/
def isUnicode : Str → Bool
  | .text _ => true
  | .stray _ _ _ => false

@[simp] theorem isUnicode_text (s : String) : isUnicode s = true := rfl

@[simp] theorem isUnicode_stray (s : String) (u : Fin 2048) (rest : Str) :
    isUnicode (.stray s u rest) = false := rfl

def points : Str → List CodePoint
  | .text s => s.toList.map .inl
  | .stray s u rest => s.toList.map .inl ++ .inr u :: rest.points

/-- The characters before the first surrogate are seen from the code points. -/
theorem append_inr_inj {cs ds : List Char} {u v : Fin 2048} {p q : List CodePoint}
    (h : cs.map Sum.inl ++ .inr u :: p = ds.map Sum.inl ++ .inr v :: q) :
    cs = ds ∧ u = v ∧ p = q := by
  induction cs generalizing ds with
  | nil =>
    cases ds with
    | nil =>
      obtain ⟨huv, hpq⟩ := List.cons.inj h
      exact ⟨rfl, Sum.inr.inj huv, hpq⟩
    | cons d ds => cases (List.cons.inj h).1
  | cons c cs ih =>
    cases ds with
    | nil => cases (List.cons.inj h).1
    | cons d ds =>
      obtain ⟨hcd, hrest⟩ := List.cons.inj h
      obtain ⟨rfl, huv, hpq⟩ := ih hrest
      exact ⟨by rw [Sum.inl.inj hcd], huv, hpq⟩

theorem map_inl_ne {cs ds : List Char} {u : Fin 2048} {p : List CodePoint} :
    cs.map Sum.inl ≠ ds.map Sum.inl ++ .inr u :: p := by
  intro h
  have hmem : (.inr u : CodePoint) ∈ cs.map Sum.inl := by
    rw [h]
    exact List.mem_append_right _ List.mem_cons_self
  simp at hmem

theorem points_injective : Function.Injective points := by
  intro a
  induction a with
  | text s =>
    rintro (t | ⟨t, u, rest⟩) h
    · have hchars := List.map_injective_iff.mpr Sum.inl_injective h
      rw [String.toList_injective hchars]
    · exact absurd h map_inl_ne
  | stray s u rest ih =>
    rintro (t | ⟨t, v, rest'⟩) h
    · exact absurd h.symm map_inl_ne
    · obtain ⟨hs, rfl, hrest⟩ := append_inr_inj h
      rw [String.toList_injective hs, ih hrest]

def key (s : Str) : List ℕ := s.points.map CodePoint.value

theorem key_injective : Function.Injective key := fun _ _ h =>
  points_injective (List.map_injective_iff.mpr CodePoint.value_injective h)

/-- The one text, then the other. -/
def append : Str → Str → Str
  | .text s, .text t => .text (s ++ t)
  | .text s, .stray t u rest => .stray (s ++ t) u rest
  | .stray s u rest, t => .stray s u (rest.append t)

instance : Append Str := ⟨append⟩

/-- Texts are compared code point by code point. -/
instance : LinearOrder Str where
  le a b := a.key ≤ b.key
  lt a b := a.key < b.key
  le_refl _ := le_refl _
  le_trans _ _ _ := le_trans
  lt_iff_le_not_ge _ _ := lt_iff_le_not_ge
  le_antisymm _ _ hab hba := key_injective (le_antisymm hab hba)
  le_total _ _ := le_total _ _
  toDecidableLE a b := inferInstanceAs (Decidable (a.key ≤ b.key))
  toDecidableLT a b := inferInstanceAs (Decidable (a.key < b.key))
  toDecidableEq := inferInstance

example : ("b" : Str) < .stray "" 0 "a" ∧ Str.stray "" 0 "a" < "\uffff" := by decide

end Str
