import Mathlib.Data.List.Infix
import Mathlib.Data.List.TakeDrop

/-! Replacing the occurrences of patterns in a text, one pattern after the other, and the
characters of the text that are left. -/
namespace Replacement

section
variable {α κ : Type} [DecidableEq κ]

/-- Replace from left to right, after so many cells that an occurrence still covers. -/
def replaceFrom (key : α → κ) (pattern : List κ) (marker : List α) : ℕ → List α → List α
  | _, [] => []
  | skip + 1, _ :: cells => replaceFrom key pattern marker skip cells
  | 0, cell :: cells =>
    if pattern <+: (cell :: cells).map key then
      marker ++ replaceFrom key pattern marker (pattern.length - 1) cells
    else cell :: replaceFrom key pattern marker 0 cells

/-- The occurrences of a nonempty pattern that a scan from the left finds become the marker. -/
def replace (key : α → κ) (pattern : List κ) (marker cells : List α) : List α :=
  replaceFrom key pattern marker 0 cells

variable {key : α → κ} {pattern : List κ} {marker cells : List α}

theorem replaceFrom_drop (skip : ℕ) :
    replaceFrom key pattern marker skip cells = replace key pattern marker (cells.drop skip) := by
  induction skip generalizing cells with
  | zero => rfl
  | succ skip ih =>
    cases cells with
    | nil => rfl
    | cons cell cells => rw [replaceFrom, ih, List.drop_succ_cons]

/-- The cells do not matter beyond their keys. -/
theorem map_replaceFrom (skip : ℕ) : (replaceFrom key pattern marker skip cells).map key =
    replaceFrom id pattern (marker.map key) skip (cells.map key) := by
  induction cells generalizing skip with
  | nil => cases skip <;> rfl
  | cons cell cells ih =>
    cases skip with
    | succ skip => rw [replaceFrom, List.map_cons, replaceFrom, ih]
    | zero =>
      rw [List.map_cons, replaceFrom, replaceFrom, List.map_id, List.map_cons]
      split
      · rw [List.map_append, ih]
      · rw [List.map_cons, ih]

theorem map_replace : (replace key pattern marker cells).map key =
    replace id pattern (marker.map key) (cells.map key) := map_replaceFrom 0

/-- A scan either finds the pattern at its place or steps over one cell. -/
theorem replace_induction (key : α → κ) (marker : List α) (hpattern : pattern ≠ [])
    {motive : List α → List α → Prop}
    (nil : motive [] [])
    (hit : ∀ found rest, found.map key = pattern → motive rest (replace key pattern marker rest) →
      motive (found ++ rest) (marker ++ replace key pattern marker rest))
    (miss : ∀ cell rest, ¬ pattern <+: (cell :: rest).map key →
      motive rest (replace key pattern marker rest) →
      motive (cell :: rest) (cell :: replace key pattern marker rest)) (cells : List α) :
    motive cells (replace key pattern marker cells) := by
  induction hlength : cells.length using Nat.strong_induction_on generalizing cells with
  | _ n ih =>
    subst hlength
    cases cells with
    | nil => exact nil
    | cons cell cells =>
      have hrest : ∀ rest, rest.length < (cell :: cells).length →
          motive rest (replace key pattern marker rest) := fun rest hlt => ih _ hlt rest rfl
      by_cases h : pattern <+: (cell :: cells).map key
      · have hscan : replace key pattern marker (cell :: cells) =
            marker ++ replace key pattern marker ((cell :: cells).drop pattern.length) := by
          obtain ⟨n, hn⟩ := Nat.exists_eq_succ_of_ne_zero (List.length_pos_iff.mpr hpattern).ne'
          rw [replace, replaceFrom, if_pos h, replaceFrom_drop, hn, Nat.succ_sub_one,
            List.drop_succ_cons]
        have hfound : ((cell :: cells).take pattern.length).map key = pattern := by
          rw [List.map_take]
          exact (List.prefix_iff_eq_take.mp h).symm
        have hlt : ((cell :: cells).drop pattern.length).length < (cell :: cells).length := by
          have hpos := List.length_pos_iff.mpr hpattern
          rw [List.length_drop, List.length_cons]
          omega
        have hmotive := hit _ _ hfound (hrest _ hlt)
        rw [List.take_append_drop] at hmotive
        rw [hscan]
        exact hmotive
      · have hscan : replace key pattern marker (cell :: cells) =
            cell :: replace key pattern marker cells := by
          rw [replace, replaceFrom, if_neg h]
          rfl
        rw [hscan]
        exact miss cell cells h (hrest cells (by simp))

end

variable {κ : Type}

/-- Characters with the position in the text that each is from; those of a marker have none. -/
abbrev Traced (κ : Type) := List (κ × Option ℕ)

/-- A text from a position on. -/
def traceFrom : ℕ → List κ → Traced κ
  | _, [] => []
  | n, c :: text => (c, some n) :: traceFrom (n + 1) text

def traceMarker (marker : List κ) : Traced κ := marker.map fun c => (c, none)

/-- The positions of the text that are left. -/
def origins (s : Traced κ) : List ℕ := s.filterMap Prod.snd

/-- What is left of a text that starts at a position, after some of it became markers: a marker
stands at every gap. `fresh` says that no marker stands just before. -/
inductive Scrubbed (marker : List κ) : Bool → ℕ → List κ → Traced κ → Prop
  | nil {fresh : Bool} {n : ℕ} : Scrubbed marker fresh n [] []
  | keep {fresh : Bool} {n : ℕ} {c : κ} {text : List κ} {s : Traced κ}
      (h : Scrubbed marker true (n + 1) text s) :
      Scrubbed marker fresh n (c :: text) ((c, some n) :: s)
  | mark {fresh : Bool} {n : ℕ} {c : κ} {gone text : List κ} {s : Traced κ} (hc : c ∈ marker)
      (hgone : fresh = true → gone ≠ []) (h : Scrubbed marker false (n + gone.length) text s) :
      Scrubbed marker fresh n (gone ++ text) ((c, none) :: s)

section
variable {pattern marker text : List κ} {s found rest : Traced κ} {fresh : Bool} {i n p : ℕ}

@[simp] theorem origins_nil : origins ([] : Traced κ) = [] := rfl

@[simp] theorem origins_keep {c : κ} : origins ((c, some n) :: s) = n :: origins s := rfl

@[simp] theorem origins_mark {c : κ} : origins ((c, none) :: s) = origins s := rfl

theorem origins_append : origins (found ++ rest) = origins found ++ origins rest :=
  List.filterMap_append

theorem origins_traceMarker : origins (traceMarker marker) = [] := by
  rw [origins, List.filterMap_eq_nil_iff]
  intro cell hcell
  obtain ⟨c, _, rfl⟩ := List.mem_map.mp hcell
  rfl

theorem mem_origins_traceFrom : p ∈ origins (traceFrom n text) ↔ n ≤ p ∧ p < n + text.length := by
  induction text generalizing n with
  | nil =>
    rw [traceFrom, origins_nil, List.length_nil]
    simp only [List.not_mem_nil, false_iff]
    omega
  | cons c text ih =>
    rw [traceFrom, origins_keep, List.mem_cons, ih, List.length_cons]
    omega

theorem map_traceFrom : (traceFrom n text).map Prod.fst = text := by
  induction text generalizing n with
  | nil => rfl
  | cons c text ih => rw [traceFrom, List.map_cons, ih]

theorem map_traceMarker : (traceMarker marker).map Prod.fst = marker := by
  rw [traceMarker, List.map_map]
  exact List.map_id marker

theorem scrubbed_traceFrom : Scrubbed marker fresh n text (traceFrom n text) := by
  induction text generalizing fresh n with
  | nil => exact .nil
  | cons c text ih => exact .keep ih

namespace Scrubbed

theorem weaken (h : Scrubbed marker true n text s) : Scrubbed marker fresh n text s := by
  cases h with
  | nil => exact .nil
  | keep h => exact .keep h
  | mark hc hgone h => exact .mark hc (fun _ => hgone rfl) h

theorem bounds (h : Scrubbed marker fresh n text s) (hp : p ∈ origins s) :
    n ≤ p ∧ p < n + text.length := by
  induction h with
  | nil => cases hp
  | keep _ ih =>
    rw [origins_keep, List.mem_cons] at hp
    rw [List.length_cons]
    obtain rfl | hp := hp
    · omega
    · have := ih hp
      omega
  | mark _ _ _ ih =>
    have := ih hp
    rw [List.length_append]
    omega

/-- Cells that spell a text without marker characters are that text, from here on. -/
theorem spelled (h : Scrubbed marker fresh n text (found ++ rest))
    (hfound : found.map Prod.fst = pattern) (hmarker : ∀ c ∈ pattern, c ∉ marker) :
    ∃ text', found = traceFrom n pattern ∧ text = pattern ++ text' ∧
      Scrubbed marker (fresh || !pattern.isEmpty) (n + pattern.length) text' rest := by
  induction found generalizing pattern fresh n text with
  | nil =>
    subst hfound
    exact ⟨text, rfl, rfl, by simpa using h⟩
  | cons cell found ih =>
    subst hfound
    rw [List.map_cons, List.forall_mem_cons] at hmarker
    cases h with
    | keep h =>
      obtain ⟨text', hcells, rfl, hrest⟩ := ih h rfl hmarker.2
      refine ⟨text', ?_, rfl, ?_⟩
      · rw [List.map_cons, traceFrom, ← hcells]
      · rw [List.map_cons, List.length_cons, Nat.add_comm _ 1, ← Nat.add_assoc]
        simpa using hrest
    | mark hc _ _ => exact absurd hc hmarker.1

/-- Cut out the next characters of the text and put the marker in their place. -/
theorem cut {gone : List κ} (hgone : gone ≠ []) (hmarker : marker ≠ [])
    (h : Scrubbed marker true (n + gone.length) text s) :
    Scrubbed marker fresh n (gone ++ text) (traceMarker marker ++ s) := by
  obtain ⟨c, cs, rfl⟩ := List.exists_cons_of_ne_nil hmarker
  refine .mark List.mem_cons_self (fun _ => hgone) ?_
  -- the rest of the marker cuts nothing out
  have hmore : ∀ ds, (∀ d ∈ ds, d ∈ c :: cs) →
      Scrubbed (c :: cs) false (n + gone.length) text (traceMarker ds ++ s) := by
    intro ds hds
    induction ds with
    | nil => exact h.weaken
    | cons d ds ih =>
      rw [List.forall_mem_cons] at hds
      exact @Scrubbed.mark κ (c :: cs) _ _ _ [] _ _ hds.1 nofun (ih hds.2)
  exact hmore cs fun d hd => List.mem_cons_of_mem c hd

/-- Positions that are all left are next to each other. -/
theorem contiguous (h : Scrubbed marker true n text s)
    (hleft : ∀ q, n ≤ q → q < n + i → q ∈ origins s) : text.take i <+: s.map Prod.fst := by
  induction i generalizing n text s with
  | zero => exact List.nil_prefix
  | succ i ih =>
    have hfirst := hleft n le_rfl (by omega)
    cases h with
    | nil => cases hfirst
    | keep h =>
      rw [List.take_succ_cons, List.map_cons, List.cons_prefix_cons]
      refine ⟨rfl, ih h fun q hq hlt => ?_⟩
      have hmem := hleft q (by omega) (by omega)
      rw [origins_keep, List.mem_cons] at hmem
      exact hmem.resolve_left (by omega)
    | mark _ hgone h =>
      have hbounds := h.bounds hfirst
      have hpos := List.length_pos_iff.mpr (hgone rfl)
      omega

end Scrubbed
/-- The pattern stands at a position of a text that starts at another one. -/
def OccursFrom (n : ℕ) (text pattern : List κ) (i : ℕ) : Prop :=
  n ≤ i ∧ pattern <+: text.drop (i - n)

/-- No two occurrences of the pattern overlap. -/
def Apart (n : ℕ) (text pattern : List κ) : Prop :=
  ∀ i j, OccursFrom n text pattern i → OccursFrom n text pattern j → i < j →
    i + pattern.length ≤ j

/-- A stretch of positions of which none was taken away. -/
def AllLeft (s : Traced κ) (i length : ℕ) : Prop := ∀ q, i ≤ q → q < i + length → q ∈ origins s

theorem occursFrom_here : OccursFrom n (pattern ++ text) pattern n := by
  rw [OccursFrom, Nat.sub_self, List.drop_zero]
  exact ⟨le_rfl, List.prefix_append _ _⟩

theorem occursFrom_append {f : List κ} : OccursFrom (n + f.length) text pattern i ↔
    OccursFrom n (f ++ text) pattern i ∧ n + f.length ≤ i := by
  unfold OccursFrom
  constructor
  · rintro ⟨hle, hocc⟩
    have hsplit : i - n = f.length + (i - (n + f.length)) := by omega
    refine ⟨⟨by omega, ?_⟩, hle⟩
    rw [hsplit, List.drop_length_add_append]
    exact hocc
  · rintro ⟨⟨_, hocc⟩, hle⟩
    have hsplit : i - n = f.length + (i - (n + f.length)) := by omega
    rw [hsplit, List.drop_length_add_append] at hocc
    exact ⟨hle, hocc⟩

theorem Apart.append {f : List κ} (h : Apart n (f ++ text) pattern) :
    Apart (n + f.length) text pattern := fun i j hi hj =>
  h i j (occursFrom_append.mp hi).1 (occursFrom_append.mp hj).1

section
variable {patterns : List (List κ)} {g h : List κ} {j : ℕ}

/-- A nonempty pattern stands at a position of the text. -/
def Occurs (text pattern : List κ) (i : ℕ) : Prop := pattern ≠ [] ∧ OccursFrom 0 text pattern i

/-- Two occurrences overlap only when one contains the other. -/
def Nested (text : List κ) (patterns : List (List κ)) : Prop :=
  ∀ g ∈ patterns, ∀ h ∈ patterns, ∀ i j, Occurs text g i → Occurs text h j →
    (i + g.length ≤ j ∨ j + h.length ≤ i) ∨
    (i ≤ j ∧ j + h.length ≤ i + g.length) ∨ (j ≤ i ∧ i + g.length ≤ j + h.length)

/-- The occurrence of a shorter pattern within an occurrence of a longer one. -/
def StrictlyInside (g : List κ) (j : ℕ) (h : List κ) (i : ℕ) : Prop :=
  i ≤ j ∧ j + g.length ≤ i + h.length ∧ g.length < h.length

/-- An occurrence that no occurrence of an earlier pattern lies strictly inside. -/
def Clean (text : List κ) (earlier : List (List κ)) (h : List κ) (i : ℕ) : Prop :=
  Occurs text h i ∧ ∀ g ∈ earlier, ∀ j, Occurs text g j → ¬ StrictlyInside g j h i

/-- A position that some clean occurrence covers, of the patterns in their order. -/
def Cleared (text : List κ) (patterns : List (List κ)) (p : ℕ) : Prop :=
  ∃ pre h post i, patterns = pre ++ h :: post ∧ Clean text pre h i ∧ i ≤ p ∧ p < i + h.length

theorem cleared_concat : Cleared text (patterns ++ [h]) p ↔ Cleared text patterns p ∨
    ∃ i, Clean text patterns h i ∧ i ≤ p ∧ p < i + h.length := by
  constructor
  · rintro ⟨pre, h', post, i, heq, hclean, hle, hlt⟩
    rcases List.eq_nil_or_concat post with rfl | ⟨post, last, rfl⟩
    · obtain ⟨rfl, hlast⟩ := List.append_inj' heq rfl
      cases hlast
      exact Or.inr ⟨i, hclean, hle, hlt⟩
    · rw [List.concat_eq_append, ← List.cons_append, ← List.append_assoc] at heq
      obtain ⟨rfl, -⟩ := List.append_inj' heq rfl
      exact Or.inl ⟨pre, h', post, i, rfl, hclean, hle, hlt⟩
  · rintro (⟨pre, h', post, i, rfl, hclean, hle, hlt⟩ | ⟨i, hclean, hle, hlt⟩)
    · exact ⟨pre, h', post ++ [h], i, by simp, hclean, hle, hlt⟩
    · exact ⟨patterns, h, [], i, rfl, hclean, hle, hlt⟩

/-- Every occurrence has a position that is cleared. -/
theorem exists_cleared (hg : g ∈ patterns) (hocc : Occurs text g j) :
    ∃ p, Cleared text patterns p ∧ j ≤ p ∧ p < j + g.length := by
  induction patterns using List.reverseRecOn generalizing g j with
  | nil => cases hg
  | append_singleton patterns h ih =>
    simp only [cleared_concat]
    obtain hg | hg := List.mem_append.mp hg
    · obtain ⟨p, hp, hbounds⟩ := ih hg hocc
      exact ⟨p, Or.inl hp, hbounds⟩
    · obtain rfl := List.mem_singleton.mp hg
      by_cases hclean : Clean text patterns g j
      · have hpos := List.length_pos_iff.mpr hocc.1
        exact ⟨j, Or.inr ⟨j, hclean, le_rfl, by omega⟩, le_rfl, by omega⟩
      · -- an earlier pattern occurs inside, and that occurrence has such a position
        simp only [Clean, hocc, true_and, not_forall, not_not] at hclean
        obtain ⟨g', hg', j', hocc', hle, hlt, -⟩ := hclean
        obtain ⟨p, hp, hbounds⟩ := ih hg' hocc'
        exact ⟨p, Or.inl hp, by omega, by omega⟩

/-- Occurrences of one pattern have one length, so nested ones lie apart. -/
theorem Nested.apart (hnested : Nested text patterns) (hh : h ∈ patterns) (hne : h ≠ []) :
    Apart 0 text h := by
  intro i j hi hj hij
  have := hnested h hh h hh i j ⟨hne, hi⟩ ⟨hne, hj⟩
  omega

theorem Occurs.length_le (hocc : Occurs text h i) : i + h.length ≤ text.length := by
  have hle := hocc.2.2.length_le
  have hpos := List.length_pos_iff.mpr hocc.1
  rw [Nat.sub_zero, List.length_drop] at hle
  omega

/-- Longer patterns first: every occurrence is clean. -/
theorem cleared_of_longestFirst (hsorted : patterns.Pairwise fun g h => h.length ≤ g.length)
    (hh : h ∈ patterns) (hocc : Occurs text h i) (hle : i ≤ p) (hlt : p < i + h.length) :
    Cleared text patterns p := by
  obtain ⟨pre, post, rfl⟩ := List.append_of_mem hh
  refine ⟨pre, h, post, i, rfl, ⟨hocc, fun g hg j _ hinside => ?_⟩, hle, hlt⟩
  have hlonger := (List.pairwise_append.mp hsorted).2.2 g hg h List.mem_cons_self
  exact absurd hinside.2.2 (not_lt.mpr hlonger)

/-- Once the earlier patterns are replaced, the occurrences around a position that is left are
all there exactly when they are clean. -/
theorem allLeft_iff_clean (hleft : ∀ p, p ∈ origins s ↔ p < text.length ∧ ¬ Cleared text patterns p)
    (hnested : Nested text (patterns ++ [h])) (hocc : Occurs text h i) (hp : p ∈ origins s)
    (hle : i ≤ p) (hlt : p < i + h.length) :
    AllLeft s i h.length ↔ Clean text patterns h i := by
  constructor
  · intro hall
    refine ⟨hocc, fun g hg j hocc' hinside => ?_⟩
    obtain ⟨q, hq, hjq, hqj⟩ := exists_cleared hg hocc'
    obtain ⟨hij, hji, -⟩ := hinside
    exact ((hleft q).mp (hall q (by omega) (by omega))).2 hq
  · intro hclean q hiq hqi
    refine (hleft q).mpr ⟨hqi.trans_le hocc.length_le, fun hq => ((hleft p).mp hp).2 ?_⟩
    obtain ⟨pre, g, post, j, rfl, hclean', hjq, hqj⟩ := hq
    have hg : g ∈ pre ++ g :: post := List.mem_append_right _ List.mem_cons_self
    have hoverlap := hnested g (List.mem_append_left _ hg) h
      (List.mem_append_right _ List.mem_cons_self) j i hclean'.1 hocc
    have houtside := hclean.2 g hg j hclean'.1
    unfold StrictlyInside at houtside
    exact ⟨pre, g, post, j, rfl, hclean', by omega, by omega⟩

end

variable [DecidableEq κ]

instance : Decidable (OccursFrom n text pattern i) := inferInstanceAs (Decidable (_ ∧ _))

/-- Replacement in a traced text. -/
def replaceTraced (pattern marker : List κ) (s : Traced κ) : Traced κ :=
  replace Prod.fst pattern (traceMarker marker) s

theorem map_replaceTraced : (replaceTraced pattern marker s).map Prod.fst =
    replace id pattern marker (s.map Prod.fst) := by
  rw [replaceTraced, map_replace, map_traceMarker]

theorem origins_replaceTraced (hpattern : pattern ≠ [])
    (hp : p ∈ origins (replaceTraced pattern marker s)) : p ∈ origins s := by
  refine replace_induction Prod.fst (traceMarker marker) hpattern
    (motive := fun s s' => p ∈ origins s' → p ∈ origins s) ?_ ?_ ?_ s hp
  · exact id
  · intro found rest _ ih hp
    rw [origins_append, origins_traceMarker, List.nil_append] at hp
    rw [origins_append]
    exact List.mem_append_right _ (ih hp)
  · rintro ⟨c, _ | m⟩ rest _ ih hp
    · exact ih hp
    · rw [origins_keep, List.mem_cons] at hp ⊢
      exact hp.imp_right ih

section
variable (hpattern : pattern ≠ []) (hmarker : marker ≠ []) (hdisjoint : ∀ c ∈ pattern, c ∉ marker)
include hpattern hmarker hdisjoint

theorem Scrubbed.replaceTraced (h : Scrubbed marker fresh n text s) :
    Scrubbed marker fresh n text (replaceTraced pattern marker s) := by
  refine replace_induction Prod.fst (traceMarker marker) hpattern
    (motive := fun s s' => ∀ fresh n text, Scrubbed marker fresh n text s →
      Scrubbed marker fresh n text s') ?_ ?_ ?_ s fresh n text h
  · exact fun _ _ _ h => h
  · intro found rest hfound ih fresh n text h
    obtain ⟨text', -, rfl, hrest⟩ := h.spelled hfound hdisjoint
    rw [List.isEmpty_eq_false_iff.mpr hpattern, Bool.not_false, Bool.or_true] at hrest
    exact .cut hpattern hmarker (ih _ _ _ hrest)
  · intro cell rest _ ih fresh n text h
    cases h with
    | keep h => exact .keep (ih _ _ _ h)
    | mark hc hgone h => exact .mark hc hgone (ih _ _ _ h)

omit hmarker in
/-- What a replacement takes away lies in an occurrence that was all there. -/
theorem Scrubbed.occurrence_of_removed (h : Scrubbed marker fresh n text s) (hp : p ∈ origins s)
    (hgone : p ∉ origins (Replacement.replaceTraced pattern marker s)) :
    ∃ i, OccursFrom n text pattern i ∧ i ≤ p ∧ p < i + pattern.length ∧
      AllLeft s i pattern.length := by
  refine replace_induction Prod.fst (traceMarker marker) hpattern
    (motive := fun s s' => ∀ fresh n text, Scrubbed marker fresh n text s → p ∈ origins s →
      p ∉ origins s' → ∃ i, OccursFrom n text pattern i ∧ i ≤ p ∧ p < i + pattern.length ∧
        AllLeft s i pattern.length) ?_ ?_ ?_ s fresh n text h hp hgone
  · intro _ _ _ _ hp
    cases hp
  · intro found rest hfound ih fresh n text h hp hgone
    obtain ⟨text', rfl, rfl, hrest⟩ := h.spelled hfound hdisjoint
    rw [origins_append, origins_traceMarker, List.nil_append] at hgone
    rw [origins_append, List.mem_append, mem_origins_traceFrom] at hp
    obtain ⟨hle, hlt⟩ | hp := hp
    · refine ⟨n, occursFrom_here, hle, hlt, fun q hq hlt => ?_⟩
      rw [origins_append, List.mem_append, mem_origins_traceFrom]
      exact Or.inl ⟨hq, hlt⟩
    · obtain ⟨i, hocc, hle, hlt, hall⟩ := ih _ _ _ hrest hp hgone
      refine ⟨i, (occursFrom_append.mp hocc).1, hle, hlt, fun q hq hlt => ?_⟩
      rw [origins_append]
      exact List.mem_append_right _ (hall q hq hlt)
  · intro cell rest _ ih fresh n text h hp hgone
    cases h with
    | @keep _ _ c text _ h =>
      rw [origins_keep, List.mem_cons] at hp hgone
      obtain rfl | hp := hp
      · exact absurd (Or.inl rfl) hgone
      · obtain ⟨i, hocc, hle, hlt, hall⟩ := ih _ _ _ h hp fun hmem => hgone (Or.inr hmem)
        refine ⟨i, (occursFrom_append (f := [c]).mp hocc).1, hle, hlt, fun q hq hlt => ?_⟩
        exact List.mem_cons_of_mem _ (hall q hq hlt)
    | mark _ _ h =>
      obtain ⟨i, hocc, hle, hlt, hall⟩ := ih _ _ _ h hp hgone
      exact ⟨i, (occursFrom_append.mp hocc).1, hle, hlt, hall⟩

/-- An occurrence that is all there goes, when occurrences lie apart. -/
theorem Scrubbed.removed_of_occurrence (h : Scrubbed marker fresh n text s)
    (hapart : Apart n text pattern) (hocc : OccursFrom n text pattern i)
    (hall : AllLeft s i pattern.length) (hle : i ≤ p) (hlt : p < i + pattern.length) :
    p ∉ origins (Replacement.replaceTraced pattern marker s) := by
  refine replace_induction Prod.fst (traceMarker marker) hpattern
    (motive := fun s s' => ∀ fresh n text, Scrubbed marker fresh n text s → Apart n text pattern →
      OccursFrom n text pattern i → AllLeft s i pattern.length → p ∉ origins s')
    ?_ ?_ ?_ s fresh n text h hapart hocc hall
  · intro _ _ _ _ _ _ _ hp
    cases hp
  · intro found rest hfound ih fresh n text h hapart hocc hall
    obtain ⟨text', rfl, rfl, hrest⟩ := h.spelled hfound hdisjoint
    rw [List.isEmpty_eq_false_iff.mpr hpattern, Bool.not_false, Bool.or_true] at hrest
    rw [origins_append, origins_traceMarker, List.nil_append]
    by_cases hi : i = n
    · subst hi
      intro hp
      have hbounds := (hrest.replaceTraced hpattern hmarker hdisjoint).bounds hp
      omega
    · have hlater := hapart n i occursFrom_here hocc (lt_of_le_of_ne hocc.1 (Ne.symm hi))
      refine ih _ _ _ hrest hapart.append (occursFrom_append.mpr ⟨hocc, hlater⟩) ?_
      intro q hq hlt
      have hmem := hall q hq hlt
      rw [origins_append, List.mem_append, mem_origins_traceFrom] at hmem
      exact hmem.resolve_left (by omega)
  · intro cell rest hmiss ih fresh n text h hapart hocc hall
    have hpos := List.length_pos_iff.mpr hpattern
    cases h with
    | @keep _ _ c text _ h =>
      by_cases hi : i = n
      · -- all of the pattern would stand here
        subst hi
        exfalso
        obtain ⟨d, ds, rfl⟩ := List.exists_cons_of_ne_nil hpattern
        have hhere := hocc.2
        rw [Nat.sub_self, List.drop_zero, List.cons_prefix_cons] at hhere
        refine hmiss ?_
        rw [List.map_cons, List.cons_prefix_cons]
        refine ⟨hhere.1, ?_⟩
        have hnext := h.contiguous (i := ds.length) fun q hq hlt => by
          have hmem := hall q (by omega) (by rw [List.length_cons]; omega)
          rw [origins_keep, List.mem_cons] at hmem
          exact hmem.resolve_left (by omega)
        rwa [← List.prefix_iff_eq_take.mp hhere.2] at hnext
      · have hni := lt_of_le_of_ne hocc.1 (Ne.symm hi)
        rw [origins_keep, List.mem_cons, not_or]
        refine ⟨by omega, ih _ _ _ h (Apart.append (f := [c]) hapart)
          (occursFrom_append (f := [c]).mpr ⟨hocc, hni⟩) fun q hq hlt => ?_⟩
        have hmem := hall q hq hlt
        rw [origins_keep, List.mem_cons] at hmem
        exact hmem.resolve_left (by omega)
    | mark _ _ h =>
      have hbounds := h.bounds (hall i le_rfl (by omega))
      exact ih _ _ _ h hapart.append (occursFrom_append.mpr ⟨hocc, hbounds.1⟩) hall

end
section
variable {patterns : List (List κ)} {g h : List κ} {j : ℕ}

/-- Replace the patterns in their order; an empty one is left out. -/
def replaceEach (marker : List κ) (patterns : List (List κ)) (text : List κ) : List κ :=
  patterns.foldl (fun text pattern => if pattern = [] then text else replace id pattern marker text)
    text

/-- The same in a traced text. -/
def replaceEachTraced (marker : List κ) (patterns : List (List κ)) (s : Traced κ) : Traced κ :=
  patterns.foldl (fun s pattern => if pattern = [] then s else replaceTraced pattern marker s) s

theorem map_replaceEachTraced : (replaceEachTraced marker patterns s).map Prod.fst =
    replaceEach marker patterns (s.map Prod.fst) := by
  induction patterns generalizing s with
  | nil => rfl
  | cons pattern patterns ih =>
    rw [replaceEachTraced, replaceEach, List.foldl_cons, List.foldl_cons, ← replaceEachTraced,
      ← replaceEach, ih]
    split
    · rfl
    · rw [map_replaceTraced]

/-- What is left after all replacements: the positions that no clean occurrence covers. -/
theorem origins_replaceEachTraced (hmarker : marker ≠ [])
    (hdisjoint : ∀ h ∈ patterns, ∀ c ∈ h, c ∉ marker) (hnested : Nested text patterns) :
    Scrubbed marker true 0 text (replaceEachTraced marker patterns (traceFrom 0 text)) ∧
      ∀ p, p ∈ origins (replaceEachTraced marker patterns (traceFrom 0 text)) ↔
        p < text.length ∧ ¬ Cleared text patterns p := by
  induction patterns using List.reverseRecOn with
  | nil =>
    refine ⟨scrubbed_traceFrom, fun p => ?_⟩
    have hnone : ¬ Cleared text [] p := by
      rintro ⟨pre, h, post, i, heq, -⟩
      simp at heq
    rw [replaceEachTraced, List.foldl_nil, mem_origins_traceFrom]
    simp [hnone]
  | append_singleton patterns h ih =>
    have hin : ∀ {g}, g ∈ patterns → g ∈ patterns ++ [h] := fun hg => List.mem_append_left _ hg
    have hlast : h ∈ patterns ++ [h] := List.mem_append_right _ List.mem_cons_self
    obtain ⟨hscrubbed, hleft⟩ := ih (fun g hg => hdisjoint g (hin hg))
      fun g hg h' hh' => hnested g (hin hg) h' (hin hh')
    have hstep : replaceEachTraced marker (patterns ++ [h]) (traceFrom 0 text) =
        if h = [] then replaceEachTraced marker patterns (traceFrom 0 text)
        else replaceTraced h marker (replaceEachTraced marker patterns (traceFrom 0 text)) := by
      rw [replaceEachTraced, List.foldl_append]
      rfl
    rw [hstep]
    generalize replaceEachTraced marker patterns (traceFrom 0 text) = s at hscrubbed hleft
    by_cases hne : h = []
    · rw [if_pos hne]
      refine ⟨hscrubbed, fun p => ?_⟩
      have hnone : ¬ ∃ i, Clean text patterns h i ∧ i ≤ p ∧ p < i + h.length := by
        rintro ⟨i, hclean, -⟩
        exact hclean.1.1 hne
      rw [hleft, cleared_concat]
      simp [hnone]
    · rw [if_neg hne]
      refine ⟨hscrubbed.replaceTraced hne hmarker (hdisjoint h hlast), fun p => ?_⟩
      rw [cleared_concat]
      constructor
      · intro hp
        have hbefore := origins_replaceTraced hne hp
        obtain ⟨hlt, hnot⟩ := (hleft p).mp hbefore
        refine ⟨hlt, ?_⟩
        rintro (hcleared | ⟨i, hclean, hip, hpi⟩)
        · exact hnot hcleared
        · have hall := (allLeft_iff_clean hleft hnested hclean.1 hbefore hip hpi).mpr hclean
          exact hscrubbed.removed_of_occurrence hne hmarker (hdisjoint h hlast)
            (hnested.apart hlast hne) hclean.1.2 hall hip hpi hp
      · rintro ⟨hlt, hnot⟩
        rw [not_or] at hnot
        have hbefore := (hleft p).mpr ⟨hlt, hnot.1⟩
        by_contra hp
        obtain ⟨i, hocc, hip, hpi, hall⟩ :=
          hscrubbed.occurrence_of_removed hne (hdisjoint h hlast) hbefore hp
        have hoccurs : Occurs text h i := ⟨hne, hocc⟩
        have hclean := (allLeft_iff_clean hleft hnested hoccurs hbefore hip hpi).mp hall
        exact hnot.2 ⟨i, hclean, hip, hpi⟩

end
end
end Replacement
