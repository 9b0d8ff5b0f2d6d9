import QaRunner.Lib.Datetime
import QaRunner.Lib.JsonText

/-! Texts of UTC instants: what the calendar text of an instant says, and that the texts sort as the
instants they name. -/
namespace Datetime

/-- Days before a year, counted in years that begin in March. -/
def yearStart (y : ℕ) : ℕ := 365 * y + y / 4 - y / 100 + y / 400

theorem yearStart_mono : Monotone yearStart := by
  apply monotone_nat_of_le_succ
  intro y
  unfold yearStart
  omega

theorem yearStart_cycles {a c q k : ℕ} (hc : c ≤ 3) (hq : q ≤ 24) (hk : k ≤ 3) :
    yearStart (100 * c + 4 * q + k + a * 400) = 146097 * a + 36524 * c + 1461 * q + 365 * k := by
  have hfour : (100 * c + 4 * q + k + a * 400) / 4 = 25 * c + q + 100 * a := by omega
  have hcentury : (100 * c + 4 * q + k + a * 400) / 100 = c + 4 * a := by omega
  have hera : (100 * c + 4 * q + k + a * 400) / 400 = a := by omega
  unfold yearStart
  omega

theorem yearStart_succ (y : ℕ) : yearStart y + 365 ≤ yearStart (y + 1) := by
  unfold yearStart
  omega

theorem yearStart_leap {a c q : ℕ} (hc : c ≤ 3) (hq : q ≤ 24) (hleap : q < 24 ∨ c = 3) :
    yearStart (100 * c + 4 * q + 3 + a * 400) + 366 ≤
      yearStart (100 * c + 4 * q + 3 + a * 400 + 1) := by
  have hfour : (100 * c + 4 * q + 3 + a * 400 + 1) / 4 = 25 * c + q + 100 * a + 1 := by omega
  rw [yearStart_cycles hc hq (le_refl 3)]
  unfold yearStart
  rcases hleap with hq | rfl
  · have hcentury : (100 * c + 4 * q + 3 + a * 400 + 1) / 100 = c + 4 * a := by omega
    omega
  · omega

/-- A day of an era, by its century, the four-year cycle, the year in it and the day of the year. -/
theorem exists_cycles {day : ℕ} (h : day < 146097) : ∃ c q k d, c ≤ 3 ∧ q ≤ 24 ∧ k ≤ 3 ∧
    d ≤ 365 ∧ (d = 365 → k = 3 ∧ (q < 24 ∨ c = 3)) ∧
      day = 36524 * c + 1461 * q + 365 * k + d := by
  let c := min 3 (day / 36524)
  let q := min 24 ((day - 36524 * c) / 1461)
  let k := min 3 ((day - 36524 * c - 1461 * q) / 365)
  refine ⟨c, q, k, day - 36524 * c - 1461 * q - 365 * k, ?_⟩
  omega

/-- The estimate of the year is exact. -/
theorem year_of_cycles {c q k d day : ℕ} (hc : c ≤ 3) (hq : q ≤ 24) (hk : k ≤ 3) (hd : d ≤ 365)
    (hleap : d = 365 → k = 3 ∧ (q < 24 ∨ c = 3)) (hday : day = 36524 * c + 1461 * q + 365 * k + d) :
    (day - day / 1460 + day / 36524 - day / 146096) / 365 = 100 * c + 4 * q + k := by
  have hcarry : day / 1460 = 25 * c + q + (24 * c + q + 365 * k + d) / 1460 := by omega
  have hcentury : day / 36524 - day / 146096 = c ∧ day / 146096 ≤ day / 36524 := by omega
  have hone : (24 * c + q + 365 * k + d) / 1460 ≤ 1 := by omega
  omega

theorem dayOfYear_of_cycles {c q k d day : ℕ} (hq : q ≤ 24) (hk : k ≤ 3)
    (hday : day = 36524 * c + 1461 * q + 365 * k + d) :
    day - (365 * (100 * c + 4 * q + k) + (100 * c + 4 * q + k) / 4 - (100 * c + 4 * q + k) / 100) =
      d := by
  have hfour : (100 * c + 4 * q + k) / 4 = 25 * c + q := by omega
  have hcentury : (100 * c + 4 * q + k) / 100 = c := by omega
  omega

/-- A day by the year that begins in March and the day of that year. -/
theorem civil_eq (n : ℕ) : ∃ y d, n + 306 = yearStart y + d ∧ n + 306 < yearStart (y + 1) ∧
    d ≤ 365 ∧ civil n = (y + (if (5 * d + 2) / 153 < 10 then 0 else 1),
      (if (5 * d + 2) / 153 < 10 then (5 * d + 2) / 153 + 3 else (5 * d + 2) / 153 - 9),
      d - (153 * ((5 * d + 2) / 153) + 2) / 5 + 1) := by
  have hday : (n + 306) % 146097 < 146097 := Nat.mod_lt _ (by omega)
  obtain ⟨c, q, k, d, hc, hq, hk, hd, hleap, hcycles⟩ := exists_cycles hday
  have hyear := year_of_cycles hc hq hk hd hleap hcycles
  have hn := Nat.div_add_mod (n + 306) 146097
  refine ⟨100 * c + 4 * q + k + (n + 306) / 146097 * 400, d, ?_, ?_, hd, ?_⟩
  · rw [yearStart_cycles hc hq hk]
    omega
  · have hstart := yearStart_cycles (a := (n + 306) / 146097) hc hq hk
    by_cases hlast : d = 365
    · obtain ⟨rfl, hspan⟩ := hleap hlast
      have hlong := yearStart_leap (a := (n + 306) / 146097) hc hq hspan
      omega
    · have hshort := yearStart_succ (100 * c + 4 * q + k + (n + 306) / 146097 * 400)
      omega
  · have hdoy := dayOfYear_of_cycles hq hk hcycles
    have hmonth : (5 * d + 2) / 153 ≤ 11 := by omega
    simp only [civil, hyear, hdoy, Prod.mk.injEq, and_true]
    by_cases hlate : (5 * d + 2) / 153 < 10
    · have hmarch : ¬ (5 * d + 2) / 153 + 3 ≤ 2 := by omega
      rw [if_pos hlate, if_pos hlate, if_neg hmarch]
    · have hjanuary : (5 * d + 2) / 153 - 9 ≤ 2 := by omega
      rw [if_neg hlate, if_neg hlate, if_pos hjanuary]

/-- Later days have later dates. -/
theorem civil_lt {m n : ℕ} (h : m < n) : (civil m).1 < (civil n).1 ∨ (civil m).1 = (civil n).1 ∧
    ((civil m).2.1 < (civil n).2.1 ∨ (civil m).2.1 = (civil n).2.1 ∧
      (civil m).2.2 < (civil n).2.2) := by
  obtain ⟨y, d, hm, hm', hd, hcivil⟩ := civil_eq m
  obtain ⟨z, e, hn, hn', he, hcivil'⟩ := civil_eq n
  have hyear : y < z ∨ y = z ∧ d < e := by
    rcases lt_trichotomy y z with hlt | rfl | hgt
    · exact Or.inl hlt
    · exact Or.inr ⟨rfl, by omega⟩
    · have hstart := yearStart_mono (Nat.succ_le_of_lt hgt)
      simp only [Nat.succ_eq_add_one] at hstart
      omega
  rw [hcivil, hcivil']
  dsimp only
  rcases hyear with hlt | ⟨rfl, hlt⟩
  · have hmonth : (5 * d + 2) / 153 ≤ 11 := by omega
    have hmonth' : (5 * e + 2) / 153 ≤ 11 := by omega
    generalize (5 * d + 2) / 153 = p at *
    generalize (5 * e + 2) / 153 = q at *
    split <;> split <;> omega
  · have hmonth : (5 * d + 2) / 153 ≤ (5 * e + 2) / 153 := by omega
    have hmonth' : (5 * e + 2) / 153 ≤ 11 := by omega
    by_cases hsame : (5 * d + 2) / 153 = (5 * e + 2) / 153
    · rw [hsame]
      omega
    · generalize (5 * d + 2) / 153 = p at *
      generalize (5 * e + 2) / 153 = q at *
      split <;> split <;> omega

/-- The digits of a number after padding still spell it. -/
theorem ofDigitChars_padded (width n : ℕ) : Nat.ofDigitChars 10 (padded width n) 0 = n := by
  rw [padded, Nat.toString_eq_ofList_toDigits, String.toList_ofList, Nat.ofDigitChars_append,
    Nat.ofDigitChars_replicate_zero, Nat.mul_zero, Nat.ofDigitChars_ten_toDigits]

theorem padded_injective {width m n : ℕ} (h : padded width m = padded width n) : m = n := by
  rw [← ofDigitChars_padded width m, h, ofDigitChars_padded]

theorem length_padded {width n : ℕ} (hwidth : 0 < width) (h : n < 10 ^ width) :
    (padded width n).length = width := by
  have hdigits : (Nat.toDigits 10 n).length ≤ width :=
    (Nat.length_toDigits_le_iff (by omega) hwidth).mpr h
  rw [padded, Nat.toString_eq_ofList_toDigits, String.toList_ofList, List.length_append,
    List.length_replicate]
  omega

theorem isDigit_of_mem_padded {width n : ℕ} {c : Char} (h : c ∈ padded width n) :
    c.isDigit = true := by
  rw [padded, Nat.toString_eq_ofList_toDigits, String.toList_ofList, List.mem_append] at h
  rcases h with h | h
  · rw [List.eq_of_mem_replicate h]
    decide
  · exact Nat.isDigit_of_mem_toDigits (by omega) (by omega) h

end Datetime

/-- Texts that begin with parts of one length compare by these parts first. -/
theorem append_lt_append_iff {α : Type} [LT α] {a b s t : List α} (h : a.length = b.length) :
    a ++ s < b ++ t ↔ a < b ∨ a = b ∧ s < t := by
  induction a generalizing b with
  | nil =>
    rw [List.length_nil] at h
    rw [List.length_eq_zero_iff.mp h.symm]
    simp
  | cons x a ih =>
    cases b with
    | nil => cases h
    | cons y b =>
      have hlength : a.length = b.length := Nat.succ.inj h
      rw [List.cons_append, List.cons_append, List.cons_lt_cons_iff, List.cons_lt_cons_iff,
        ih hlength, List.cons.injEq, and_or_left, or_assoc, and_assoc]

/-- A digit is as far from zero as its character. -/
theorem digit_bounds {c : Char} (h : c.isDigit = true) : 48 ≤ c.toNat ∧ c.toNat ≤ 57 := by
  simp only [Char.isDigit, Bool.and_eq_true, decide_eq_true_eq, ge_iff_le, UInt32.le_iff_toNat_le]
    at h
  exact h

theorem ofDigitChars_cons_zero (c : Char) (a : List Char) : Nat.ofDigitChars 10 (c :: a) 0 =
    10 ^ a.length * (c.toNat - 48) + Nat.ofDigitChars 10 a 0 := by
  rw [Nat.ofDigitChars_cons, Nat.ofDigitChars_eq_ofDigitChars_zero, Nat.mul_zero, Nat.zero_add]
  rfl

theorem ofDigitChars_lt {a : List Char} (ha : ∀ c ∈ a, c.isDigit = true) :
    Nat.ofDigitChars 10 a 0 < 10 ^ a.length := by
  induction a with
  | nil => simp
  | cons c a ih =>
    rw [List.forall_mem_cons] at ha
    have hc := digit_bounds ha.1
    have hrest := ih ha.2
    rw [ofDigitChars_cons_zero, List.length_cons, pow_succ]
    have hfirst : 10 ^ a.length * (c.toNat - 48) ≤ 10 ^ a.length * 9 :=
      Nat.mul_le_mul_left _ (by omega)
    omega

/-- Decimal texts of one length order as the numbers they spell. -/
theorem digits_lt_iff {a b : List Char} (ha : ∀ c ∈ a, c.isDigit = true)
    (hb : ∀ c ∈ b, c.isDigit = true) (h : a.length = b.length) :
    a < b ↔ Nat.ofDigitChars 10 a 0 < Nat.ofDigitChars 10 b 0 := by
  induction a generalizing b with
  | nil =>
    rw [List.length_eq_zero_iff.mp h.symm]
    simp
  | cons c a ih =>
    cases b with
    | nil => cases h
    | cons d b =>
      rw [List.forall_mem_cons] at ha hb
      have hlength : a.length = b.length := Nat.succ.inj h
      have hc := digit_bounds ha.1
      have hd := digit_bounds hb.1
      have hrest := ofDigitChars_lt ha.2
      have hrest' := ofDigitChars_lt hb.2
      have hlt : c < d ↔ c.toNat < d.toNat := Iff.rfl
      have heq : c = d ↔ c.toNat = d.toNat := Char.toNat_inj.symm
      rw [List.cons_lt_cons_iff, ih ha.2 hb.2 hlength, ofDigitChars_cons_zero,
        ofDigitChars_cons_zero, hlength, hlt, heq]
      rw [hlength] at hrest
      generalize 10 ^ b.length = p at *
      rcases lt_trichotomy c.toNat d.toNat with hcd | hcd | hcd
      · have hgap : p * (c.toNat - 48) + p ≤ p * (d.toNat - 48) := by
          rw [← Nat.mul_succ]
          exact Nat.mul_le_mul_left p (by omega)
        omega
      · rw [hcd]
        omega
      · have hgap : p * (d.toNat - 48) + p ≤ p * (c.toNat - 48) := by
          rw [← Nat.mul_succ]
          exact Nat.mul_le_mul_left p (by omega)
        omega

namespace Datetime

theorem padded_lt_iff {width m n : ℕ} (hwidth : 0 < width) (hm : m < 10 ^ width)
    (hn : n < 10 ^ width) : padded width m < padded width n ↔ m < n := by
  have hlength : (padded width m).length = (padded width n).length := by
    rw [length_padded hwidth hm, length_padded hwidth hn]
  rw [digits_lt_iff (fun _ => isDigit_of_mem_padded) (fun _ => isDigit_of_mem_padded) hlength,
    ofDigitChars_padded, ofDigitChars_padded]

/-- A padded field decides, unless the field is the same. -/
theorem padded_append_lt_iff {width m n : ℕ} {s t : List Char} (hwidth : 0 < width)
    (hm : m < 10 ^ width) (hn : n < 10 ^ width) :
    padded width m ++ s < padded width n ++ t ↔ m < n ∨ m = n ∧ s < t := by
  have hlength : (padded width m).length = (padded width n).length := by
    rw [length_padded hwidth hm, length_padded hwidth hn]
  have heq : padded width m = padded width n ↔ m = n :=
    ⟨padded_injective, congrArg (padded width)⟩
  rw [append_lt_append_iff hlength, padded_lt_iff hwidth hm hn, heq]

/-- The text of an instant before its offset. -/
def fields (d : Datetime) (offset : List Char) : List Char :=
  let date := civil (d.micros / 1000000 / 86400)
  let second := d.micros / 1000000 % 86400
  padded 4 date.1 ++ '-' :: (padded 2 date.2.1 ++ '-' :: (padded 2 date.2.2 ++ 'T' ::
    (padded 2 (second / 3600) ++ ':' :: (padded 2 (second / 60 % 60) ++ ':' ::
      (padded 2 (second % 60) ++ ((if d.micros % 1000000 = 0 then []
        else '.' :: padded 6 (d.micros % 1000000)) ++ offset))))))

theorem isoformat_eq (d : Datetime) : d.isoformat = String.ofList (d.fields ['Z']) := by
  simp only [isoformat, fields, List.append_assoc, List.cons_append]

theorem isoformatUtc_eq (d : Datetime) :
    d.isoformatUtc = String.ofList (d.fields "+00:00".toList) := by
  have hsplit : ∀ offset, d.fields offset = d.fields [] ++ offset := by
    intro offset
    simp only [fields, List.append_assoc, List.cons_append, List.append_nil]
  rw [isoformatUtc, isoformat_eq, String.toList_ofList, hsplit, List.dropLast_concat,
    hsplit "+00:00".toList]

theorem civil_bounds (n : ℕ) : (civil n).2.1 < 10 ^ 2 ∧ (civil n).2.2 < 10 ^ 2 := by
  obtain ⟨y, d, -, -, hd, hcivil⟩ := civil_eq n
  rw [hcivil]
  dsimp only
  constructor
  · split <;> omega
  · omega

theorem civil_year_lt {n : ℕ} (h : n ≤ 3652058) : (civil n).1 < 10 ^ 4 := by
  have hlast : civil 3652058 = (9999, 12, 31) := by decide
  rcases Nat.lt_or_eq_of_le h with hlt | rfl
  · have hdate := civil_lt hlt
    rw [hlast] at hdate
    dsimp only at hdate
    omega
  · rw [hlast]
    decide

/-- Dates order as the days they name, whatever decides between equal ones. -/
theorem civil_lt_iff {m n : ℕ} {P : Prop} : ((civil m).1 < (civil n).1 ∨
    (civil m).1 = (civil n).1 ∧ ((civil m).2.1 < (civil n).2.1 ∨
      (civil m).2.1 = (civil n).2.1 ∧ ((civil m).2.2 < (civil n).2.2 ∨
        (civil m).2.2 = (civil n).2.2 ∧ P))) ↔ m < n ∨ m = n ∧ P := by
  rcases lt_trichotomy m n with hlt | rfl | hgt
  · have hdate := civil_lt hlt
    have hne : m ≠ n := hlt.ne
    simp only [hlt, true_or, iff_true]
    omega
  · simp
  · have hdate := civil_lt hgt
    have hne : m ≠ n := hgt.ne'
    simp only [hgt.not_gt, hne, false_and, or_self, iff_false]
    omega

/-- Hours, minutes and seconds order as the seconds of the day. -/
theorem clock_lt_iff {s t : ℕ} {P : Prop} : (s / 3600 < t / 3600 ∨ s / 3600 = t / 3600 ∧
    (s / 60 % 60 < t / 60 % 60 ∨ s / 60 % 60 = t / 60 % 60 ∧
      (s % 60 < t % 60 ∨ s % 60 = t % 60 ∧ P))) ↔ s < t ∨ s = t ∧ P := by
  by_cases hP : P
  · simp only [hP, and_true]
    omega
  · simp only [hP, and_false, or_false]
    omega

theorem civil_injective {m n : ℕ} (h : civil m = civil n) : m = n := by
  rcases lt_trichotomy m n with hlt | hsame | hgt
  · have hdate := civil_lt hlt
    rw [h] at hdate
    omega
  · exact hsame
  · have hdate := civil_lt hgt
    rw [h] at hdate
    omega

theorem fraction_lt_iff {f g : ℕ} (hf : f < 10 ^ 6) (hg : g < 10 ^ 6) :
    (if f = 0 then [] else '.' :: padded 6 f) ++ "+00:00".toList <
      (if g = 0 then [] else '.' :: padded 6 g) ++ "+00:00".toList ↔ f < g := by
  by_cases hf0 : f = 0
  · by_cases hg0 : g = 0
    · rw [if_pos hf0, if_pos hg0, hf0, hg0]
      simp
    · rw [if_pos hf0, if_neg hg0, List.cons_append]
      have hsign : "+00:00".toList < '.' :: (padded 6 g ++ "+00:00".toList) :=
        List.cons_lt_cons_iff.mpr (Or.inl (by decide))
      exact ⟨fun _ => by omega, fun _ => hsign⟩
  · by_cases hg0 : g = 0
    · rw [if_neg hf0, if_pos hg0, List.cons_append]
      constructor
      · intro h
        rcases List.cons_lt_cons_iff.mp h with hlt | ⟨heq, -⟩
        · exact absurd hlt (by decide)
        · exact absurd heq (by decide)
      · intro h
        omega
    · rw [if_neg hf0, if_neg hg0, List.cons_append, List.cons_append, List.cons_lt_cons_iff,
        padded_append_lt_iff (by omega) hf hg]
      simp

/-- Instants of the calendar order as their texts, whether or not these show microseconds. -/
theorem isoformatUtc_lt_iff {a b : Datetime} (ha : a.micros ≤ lastMicros)
    (hb : b.micros ≤ lastMicros) : a.isoformatUtc < b.isoformatUtc ↔ a.micros < b.micros := by
  unfold lastMicros at ha hb
  have hyear := civil_year_lt (n := a.micros / 1000000 / 86400) (by omega)
  have hyear' := civil_year_lt (n := b.micros / 1000000 / 86400) (by omega)
  obtain ⟨hmonth, hdom⟩ := civil_bounds (a.micros / 1000000 / 86400)
  obtain ⟨hmonth', hdom'⟩ := civil_bounds (b.micros / 1000000 / 86400)
  have hfraction := fraction_lt_iff (f := a.micros % 1000000) (g := b.micros % 1000000)
    (Nat.mod_lt _ (by omega)) (Nat.mod_lt _ (by omega))
  have htext : ∀ d : Datetime, d.isoformatUtc.toList = d.fields "+00:00".toList := by
    intro d
    rw [isoformatUtc_eq, String.toList_ofList]
  rw [String.lt_iff, htext, htext, fields, fields]
  rw [padded_append_lt_iff (by omega) hyear hyear', List.cons_lt_cons_iff,
    padded_append_lt_iff (by omega) hmonth hmonth', List.cons_lt_cons_iff,
    padded_append_lt_iff (by omega) hdom hdom', List.cons_lt_cons_iff,
    padded_append_lt_iff (by omega) (by omega) (by omega), List.cons_lt_cons_iff,
    padded_append_lt_iff (by omega) (by omega) (by omega), List.cons_lt_cons_iff,
    padded_append_lt_iff (by omega) (by omega) (by omega), hfraction]
  simp only [Char.lt_irrefl, false_or, true_and]
  rw [clock_lt_iff, civil_lt_iff]
  omega

theorem padded_append_inj {width m n : ℕ} {s t : List Char} (hs : ∀ c ∈ s.head?, c.isDigit = false)
    (ht : ∀ c ∈ t.head?, c.isDigit = false) (h : padded width m ++ s = padded width n ++ t) :
    m = n ∧ s = t := by
  obtain ⟨hdigits, hrest⟩ := Json.append_inj_of_ends (fun _ => isDigit_of_mem_padded)
    (fun _ => isDigit_of_mem_padded) hs ht h
  exact ⟨padded_injective hdigits, hrest⟩

/-- A field ends at the separator behind it. -/
theorem padded_cons_inj {width m n : ℕ} {s t : List Char} {c : Char} (hc : c.isDigit = false)
    (h : padded width m ++ c :: s = padded width n ++ c :: t) : m = n ∧ s = t := by
  have hhead : ∀ r : List Char, ∀ d ∈ (c :: r).head?, d.isDigit = false := by
    intro r d hd
    cases hd
    exact hc
  obtain ⟨hsame, hrest⟩ := padded_append_inj (hhead s) (hhead t) h
  exact ⟨hsame, (List.cons.inj hrest).2⟩

theorem fraction_head (f : ℕ) : ∀ c ∈ ((if f = 0 then [] else '.' :: padded 6 f) ++ ['Z']).head?,
    c.isDigit = false := by
  intro c hc
  split at hc
  · cases hc
    decide
  · cases hc
    decide

theorem fraction_inj {f g : ℕ} (h : (if f = 0 then [] else '.' :: padded 6 f) ++ ['Z'] =
    (if g = 0 then [] else '.' :: padded 6 g) ++ ['Z']) : f = g := by
  have htext := List.append_cancel_right h
  by_cases hf : f = 0
  · by_cases hg : g = 0
    · rw [hf, hg]
    · rw [if_pos hf, if_neg hg] at htext
      cases htext
  · by_cases hg : g = 0
    · rw [if_neg hf, if_pos hg] at htext
      cases htext
    · rw [if_neg hf, if_neg hg] at htext
      exact padded_injective (List.cons.inj htext).2

/-- The text of an instant determines it. -/
theorem isoformat_injective {a b : Datetime} (h : a.isoformat = b.isoformat) :
    a.micros = b.micros := by
  rw [isoformat_eq, isoformat_eq, String.ofList_inj, fields, fields] at h
  obtain ⟨hyear, h⟩ := padded_cons_inj (by decide) h
  obtain ⟨hmonth, h⟩ := padded_cons_inj (by decide) h
  obtain ⟨hday, h⟩ := padded_cons_inj (by decide) h
  obtain ⟨hhour, h⟩ := padded_cons_inj (by decide) h
  obtain ⟨hminute, h⟩ := padded_cons_inj (by decide) h
  obtain ⟨hsecond, h⟩ := padded_append_inj (fraction_head _) (fraction_head _) h
  have hfraction := fraction_inj h
  have hdays := civil_injective (Prod.ext hyear (Prod.ext hmonth hday))
  omega

/-- The offset of a clock as `isoformat()` writes it, nothing for a naive value. -/
def offsetText : Option ℤ → List Char
  | none => []
  | some offset =>
    let seconds := offset.natAbs / 1000000
    let fraction := offset.natAbs % 1000000
    (if offset < 0 then '-' else '+') :: (padded 2 (seconds / 3600) ++ ':' ::
      (padded 2 (seconds / 60 % 60) ++
        ((if seconds % 60 = 0 ∧ fraction = 0 then [] else ':' :: padded 2 (seconds % 60)) ++
          (if fraction = 0 then [] else '.' :: padded 6 fraction))))

/-- `isoformat()` of a value on any clock. -/
def text (d : Datetime) : String := String.ofList (d.fields (offsetText d.utcoffset))

theorem text_of_utc {d : Datetime} (h : d.IsUtc) : d.text = d.isoformatUtc := by
  have hzero : offsetText (some 0) = "+00:00".toList := by decide
  rw [text, isoformatUtc_eq, h, hzero]

end Datetime
