import QaRunner.Domain.PytestAcceptance
import QaRunner.Domain.PlaywrightExecutionResult

/-! Which case identities of the two frameworks name one case only. -/
namespace QaRunner
open Guarded Separator

/-- The two characters that separate the parts of an identity. -/
def colons : List Char := [':', ':']

theorem colons_ne_nil : colons ≠ [] := List.cons_ne_nil _ _

/-- The file and node part of a node id as lists of characters. -/
def nodeParts (n : List Char) : List Char × List Char := (partition colons n).getD (n, n)

/-- The parts of a node id are separated and differ, or there is no separator and it ends with a
colon. -/
def OwnParts (n : List Char) : Prop :=
  match partition colons n with
  | some parts => parts.1 ≠ parts.2
  | none => n.getLast? = some ':'

instance (n : List Char) : Decidable (OwnParts n) :=
  match h : partition colons n with
  | some parts => decidable_of_iff (parts.1 ≠ parts.2) (by rw [OwnParts, h])
  | none => decidable_of_iff (n.getLast? = some ':') (by rw [OwnParts, h])

section
variable {m n a b : List Char}

theorem nodeParts_of_firstCut (h : FirstCut colons n a b) : nodeParts n = (a, b) := by
  rw [nodeParts, (partition_eq_some_iff colons_ne_nil).mpr h]
  rfl

theorem nodeParts_of_whole (h : ∀ a b, n ≠ a ++ colons ++ b) : nodeParts n = (n, n) := by
  rw [nodeParts, (partition_eq_none_iff colons_ne_nil).mpr h]
  rfl

/-- What stands before the first separator has none. -/
theorem whole_of_firstCut (h : FirstCut colons n a b) (x y : List Char) : a ≠ x ++ colons ++ y := by
  intro ha
  have hle := h.first x (y ++ colons ++ b) (by rw [h.cut, ha]; simp only [List.append_assoc])
  have hlen := congrArg List.length ha
  simp only [List.length_append, colons, List.length_cons, List.length_nil] at hlen
  omega

/-- Without a separator and a colon at its end, a text written twice is separated in its middle. -/
theorem firstCut_twice (h : ∀ a b, n ≠ a ++ colons ++ b) (hlast : n.getLast? ≠ some ':') :
    FirstCut colons (n ++ colons ++ n) n n := by
  refine ⟨rfl, fun x y hxy => ?_⟩
  by_contra hlt
  have hn : n <+: x ++ colons ++ y := by
    rw [← hxy, List.append_assoc]
    exact List.prefix_append _ _
  by_cases hroom : x.length + 2 ≤ n.length
  · -- the separator lies inside the first copy
    obtain ⟨z, hz⟩ := List.prefix_of_prefix_length_le (List.prefix_append (x ++ colons) y) hn
      (by simpa [colons] using hroom)
    exact h x z hz.symm
  · -- only its first colon does
    have hcolon : x ++ [':'] <+: x ++ colons ++ y := ⟨':' :: y, by simp [colons]⟩
    have hinitial := List.prefix_of_prefix_length_le hcolon hn (by simp; omega)
    have heq := hinitial.eq_of_length (by simp; omega)
    apply hlast
    rw [← heq, List.getLast?_concat]

/-- A text that ends with a colon does not stand before its first separator. -/
theorem not_firstCut_of_last (hlast : n.getLast? = some ':') :
    ¬ FirstCut colons (n ++ colons ++ b) n b := by
  intro h
  obtain ⟨m, rfl⟩ := List.getLast?_eq_some_iff.mp hlast
  have hle := h.first m (':' :: b) (by simp [colons])
  simp at hle

theorem ne_twice : n ≠ n ++ colons ++ b := by
  intro h
  have hlen := congrArg List.length h
  simp only [List.length_append, colons, List.length_cons, List.length_nil] at hlen
  omega

/-- A node id is the only one with its parts exactly when it has parts of its own. -/
theorem ownParts_iff : (∀ m, nodeParts m = nodeParts n → m = n) ↔ OwnParts n := by
  cases hpartition : partition colons n with
  | some parts =>
    obtain ⟨a, b⟩ := parts
    have hcut := firstCut_of_partition hpartition
    rw [nodeParts_of_firstCut hcut, OwnParts, hpartition]
    constructor
    · intro h hsame
      obtain rfl : a = b := hsame
      have hwhole := nodeParts_of_whole (whole_of_firstCut hcut)
      have heq := h a hwhole
      rw [hcut.cut] at heq
      exact ne_twice heq
    · intro hne m hm
      cases hother : partition colons m with
      | some parts =>
        have hcut' := firstCut_of_partition hother
        rw [nodeParts_of_firstCut hcut', Prod.mk.injEq] at hm
        rw [hcut'.cut, hcut.cut, hm.1, hm.2]
      | none =>
        rw [nodeParts_of_whole ((partition_eq_none_iff colons_ne_nil).mp hother),
          Prod.mk.injEq] at hm
        exact absurd (hm.1.symm.trans hm.2) hne
  | none =>
    have hwhole := (partition_eq_none_iff colons_ne_nil).mp hpartition
    rw [nodeParts_of_whole hwhole, OwnParts, hpartition]
    constructor
    · intro h
      by_contra hlast
      have heq := h _ (nodeParts_of_firstCut (firstCut_twice hwhole hlast))
      exact ne_twice heq.symm
    · intro hlast m hm
      cases hother : partition colons m with
      | some parts =>
        have hcut' := firstCut_of_partition hother
        rw [nodeParts_of_firstCut hcut', Prod.mk.injEq] at hm
        rw [hcut'.cut, hm.1, hm.2] at hcut'
        exact absurd hcut' (not_firstCut_of_last hlast)
      | none =>
        rw [nodeParts_of_whole ((partition_eq_none_iff colons_ne_nil).mp hother),
          Prod.mk.injEq] at hm
        exact hm.1

end

theorem pytestNodeidParts_eq (nodeid : String) : pytestNodeidParts nodeid =
    (String.ofList (nodeParts nodeid.toList).1, String.ofList (nodeParts nodeid.toList).2) := by
  have hcolons : "::".toList = colons := rfl
  rw [pytestNodeidParts, partitionNodeid, nodeParts, hcolons]
  cases hpartition : partition colons nodeid.toList with
  | some parts => rfl
  | none => simp

theorem pytestNodeidParts_inj {nodeid other : String} :
    pytestNodeidParts other = pytestNodeidParts nodeid ↔
      nodeParts other.toList = nodeParts nodeid.toList := by
  rw [pytestNodeidParts_eq, pytestNodeidParts_eq, Prod.mk.injEq, String.ofList_inj,
    String.ofList_inj, Prod.ext_iff]

theorem nodeParts_initial (n : List Char) : (nodeParts n).1 <+: n := by
  cases hpartition : partition colons n with
  | some parts =>
    have hcut := firstCut_of_partition hpartition
    rw [nodeParts_of_firstCut hcut]
    exact ⟨colons ++ parts.2, by rw [← List.append_assoc, ← hcut.cut]⟩
  | none =>
    rw [nodeParts_of_whole ((partition_eq_none_iff colons_ne_nil).mp hpartition)]

/-- A part that is not blank is part of a node id that is not. -/
theorem nonblank_of_parts {nodeid : String} (h : ¬ BlankPart nodeid) : isBlank nodeid = false := by
  rw [← Bool.not_eq_true]
  intro hblank
  apply h
  left
  rw [pytestNodeidParts_eq, isBlank, String.toList_ofList, List.all_eq_true]
  rw [isBlank, List.all_eq_true] at hblank
  exact fun c hc => hblank c ((nodeParts_initial _).subset hc)

/-- The node ids that have a locator, and which. -/
theorem pytestNodeidLocator_eq_ok {nodeid : String} {locator : FrameworkLocator} :
    pytestNodeidLocator nodeid = .ok locator ↔
      ¬ BlankPart nodeid ∧ locator.toFields = pytestNodeidFields nodeid := by
  constructor
  · intro h
    have hcheck := h
    rw [pytestNodeidLocator, then_eq_ok, invalidIf_eq_ok, Bool.not_eq_true] at hcheck
    rcases pytestNodeidLocator_cases hcheck.1 with ⟨-, herror⟩ | ⟨hparts, haccepted, hok⟩
    · cases herror.symm.trans h
    · cases hok.symm.trans h
      exact ⟨hparts, rfl⟩
  · rintro ⟨hparts, hfields⟩
    rcases pytestNodeidLocator_cases (nonblank_of_parts hparts) with ⟨hblank, -⟩ |
      ⟨-, haccepted, hok⟩
    · exact absurd hblank hparts
    · obtain ⟨fields, hlocator⟩ := locator
      obtain rfl : fields = pytestNodeidFields nodeid := hfields
      exact hok

/-- Two node ids have one locator when they have the same parts. -/
theorem pytestNodeidLocator_same {nodeid other : String} {locator : FrameworkLocator}
    (h : pytestNodeidLocator nodeid = .ok locator) :
    pytestNodeidLocator other = .ok locator ↔
      pytestNodeidParts other = pytestNodeidParts nodeid := by
  obtain ⟨hparts, hfields⟩ := pytestNodeidLocator_eq_ok.mp h
  rw [pytestNodeidLocator_eq_ok, hfields]
  constructor
  · rintro ⟨-, hsame⟩
    simp only [pytestNodeidFields, FrameworkLocator.Fields.mk.injEq, true_and, List.cons.injEq,
      Prod.mk.injEq, and_true] at hsame
    exact Prod.ext hsame.1.symm hsame.2.symm
  · intro hsame
    refine ⟨?_, ?_⟩
    · rw [BlankPart, hsame]
      exact hparts
    · rw [pytestNodeidFields, pytestNodeidFields, hsame]

/-- The node ids that share their locator with no other. -/
theorem nodeid_identity_iff {nodeid : String} {locator : FrameworkLocator}
    (h : pytestNodeidLocator nodeid = .ok locator) :
    (∀ other, pytestNodeidLocator other = .ok locator → other = nodeid) ↔
      OwnParts nodeid.toList := by
  rw [← ownParts_iff]
  constructor
  · intro hall m hm
    have heq := hall (String.ofList m) ((pytestNodeidLocator_same h).mpr
      (pytestNodeidParts_inj.mpr (by rw [String.toList_ofList]; exact hm)))
    rw [← heq, String.toList_ofList]
  · intro hall other hother
    apply String.toList_injective
    exact hall _ (pytestNodeidParts_inj.mp ((pytestNodeidLocator_same h).mp hother))

namespace PlaywrightCase
variable {t u : PlaywrightCase} {id : String}

/-- No two separators in the id, with text on both sides of each and something between them, but the
two that join its parts. -/
def LoneJoints (t : PlaywrightCase) : Prop :=
  ∀ i j, OpenAt isSpace colons t.joined.toList i → OpenAt isSpace colons t.joined.toList j →
    i + 2 < j →
      i = (strip t.project).length ∧ j = (strip t.project).length + 2 + (strip t.file).length

/-- None of the three texts is blank. -/
def Named (t : PlaywrightCase) : Prop := ∀ f ∈ t.fields, isBlank f.2 = false

theorem stableCaseId_eq_ok : playwrightStableCaseId t = .ok id ↔ t.Named ∧ t.joined = id := by
  simp only [playwrightStableCaseId, then_eq_ok, each_eq_ok, invalidIf_eq_ok, pure_eq_ok, Named,
    Bool.not_eq_true]

theorem trimmed_of_nonblank {s : String} (h : isBlank s = false) :
    Trimmed isSpace (Separator.strip isSpace s.toList) := by
  apply trimmed_strip
  intro hall
  rw [isBlank, ← Bool.not_eq_true, List.all_eq_true] at h
  exact h hall

theorem nonblank_of_trimmed {s : List Char} (h : Trimmed isSpace s) :
    isBlank (String.ofList s) = false := by
  obtain ⟨c, hc, hkept⟩ := h.first
  rw [isBlank, String.toList_ofList, ← Bool.not_eq_true, List.all_eq_true]
  intro hall
  rw [hall c (List.mem_of_mem_head? hc)] at hkept
  cases hkept

theorem strip_ofList {s : List Char} (h : Trimmed isSpace s) :
    strip (String.ofList s) = String.ofList s :=
  strip_eq_self (by rwa [String.toList_ofList])

theorem joined_toList (t : PlaywrightCase) : t.joined.toList =
    (strip t.project).toList ++ colons ++ (strip t.file).toList ++ colons ++
      (strip t.title).toList := by
  have hcolons : "::".toList = colons := rfl
  rw [joined, String.toList_append, String.toList_append, String.toList_append,
    String.toList_append, hcolons]

theorem trimmed_strip_text {s : String} (h : isBlank s = false) :
    Trimmed isSpace (QaRunner.strip s).toList := by
  rw [QaRunner.strip, String.toList_ofList]
  exact trimmed_of_nonblank h

theorem Named.parts (h : t.Named) :
    isBlank t.project = false ∧ isBlank t.file = false ∧ isBlank t.title = false :=
  ⟨h ("project", t.project) (by simp [fields]), h ("file", t.file) (by simp [fields]),
    h ("title", t.title) (by simp [fields])⟩

/-- A case that has an id has a locator of its stripped parts. -/
theorem Named.locator (h : t.Named) :
    ∃ haccepted, playwrightTestLocator t = .ok ⟨t.locatorFields, haccepted⟩ := by
  have hnew : playwrightTestLocator t = FrameworkLocator.new t.locatorFields := by
    have hchecks : each t.fields (fun f =>
        invalidIf (isBlank f.2) "playwright_test_locator" f.1 "invalid") = .ok () := by
      simp only [each_eq_ok, invalidIf_eq_ok, Bool.not_eq_true]
      exact h
    rw [playwrightTestLocator, hchecks, ok_bind]
  obtain ⟨hproject, hfile, htitle⟩ := h.parts
  have hstrip : ∀ s : String, isBlank s = false → isBlank (QaRunner.strip s) = false := by
    intro s hs
    have hnonblank := nonblank_of_trimmed (trimmed_strip_text hs)
    rwa [String.ofList_toList] at hnonblank
  have hnames : ∀ part ∈ t.locatorFields.parts, isBlank part.1 = false := by
    simp only [locatorFields, List.forall_mem_cons]
    exact ⟨by decide, by decide, by decide, by simp⟩
  rcases FrameworkLocator.new_cases (l := t.locatorFields)
      (by decide : isBlank "qep.playwright-locator.v1" = false)
      (by decide : isBlank "playwright_test" = false) (by simp [locatorFields]) hnames
      (by simp [locatorFields]) with ⟨⟨part, hpart, hblank⟩, -⟩ | ⟨-, hok⟩
  · simp only [locatorFields, List.mem_cons, List.not_mem_nil, or_false] at hpart
    rcases hpart with rfl | rfl | rfl
    · simp [hstrip _ hproject] at hblank
    · simp [hstrip _ hfile] at hblank
    · simp [hstrip _ htitle] at hblank
  · rw [hnew]
    exact hok

theorem locator_inj (ht : t.Named) (hu : u.Named) :
    playwrightTestLocator u = playwrightTestLocator t ↔
      strip u.project = strip t.project ∧ strip u.file = strip t.file ∧
        strip u.title = strip t.title := by
  obtain ⟨haccepted, hlocator⟩ := ht.locator
  obtain ⟨haccepted', hlocator'⟩ := hu.locator
  rw [hlocator, hlocator']
  simp [locatorFields]

/-- The cases that share their id with no case of another locator. -/
theorem identity_iff (h : playwrightStableCaseId t = .ok id) :
    (∀ u, playwrightStableCaseId u = .ok id → playwrightTestLocator u = playwrightTestLocator t) ↔
      t.LoneJoints := by
  obtain ⟨hnamed, hid⟩ := stableCaseId_eq_ok.mp h
  obtain ⟨hproject, hfile, htitle⟩ := hnamed.parts
  have hunique := @unique_join_iff _ isSpace colons _ _ _ (trimmed_strip_text hproject)
    (trimmed_strip_text hfile) (trimmed_strip_text htitle)
  rw [← joined_toList] at hunique
  have hlone : t.LoneJoints ↔ _ := hunique.symm
  rw [hlone]
  constructor
  · intro hall a b c ha hb hc hjoin
    let u : PlaywrightCase := ⟨String.ofList a, String.ofList b, String.ofList c⟩
    have hu : u.Named := by
      simp only [Named, fields, List.forall_mem_cons]
      exact ⟨nonblank_of_trimmed ha, nonblank_of_trimmed hb, nonblank_of_trimmed hc, by simp⟩
    have hjoined : u.joined = id := by
      rw [← hid]
      apply String.toList_injective
      rw [joined_toList, strip_ofList ha, strip_ofList hb, strip_ofList hc, String.toList_ofList,
        String.toList_ofList, String.toList_ofList, hjoin]
    have hparts := (locator_inj hnamed hu).mp (hall u (stableCaseId_eq_ok.mpr ⟨hu, hjoined⟩))
    rw [strip_ofList ha, strip_ofList hb, strip_ofList hc] at hparts
    rw [← hparts.1, ← hparts.2.1, ← hparts.2.2]
    simp only [String.toList_ofList, and_self]
  · intro hall u hu
    obtain ⟨hunamed, hjoined⟩ := stableCaseId_eq_ok.mp hu
    obtain ⟨hproject', hfile', htitle'⟩ := hunamed.parts
    rw [locator_inj hnamed hunamed]
    have hparts := hall _ _ _ (trimmed_strip_text hproject') (trimmed_strip_text hfile')
      (trimmed_strip_text htitle') (by rw [← joined_toList, hjoined, hid])
    exact ⟨String.toList_injective hparts.1, String.toList_injective hparts.2.1,
      String.toList_injective hparts.2.2⟩

end PlaywrightCase

/-- A node id shares its locator with no other exactly when it has parts of its own, and a
Playwright case shares its id with no case of another locator exactly when nothing but the joints of
the id could join its parts. -/
theorem case_identity_iff (nodeid : String) (t : PlaywrightCase) :
    (∀ locator, pytestNodeidLocator nodeid = .ok locator →
      ((∀ other, pytestNodeidLocator other = .ok locator → other = nodeid) ↔
        OwnParts nodeid.toList)) ∧
    ∀ id, playwrightStableCaseId t = .ok id →
      ((∀ u, playwrightStableCaseId u = .ok id →
          playwrightTestLocator u = playwrightTestLocator t) ↔ t.LoneJoints) :=
  ⟨fun _ h => nodeid_identity_iff h, fun _ h => PlaywrightCase.identity_iff h⟩

theorem case_identity_iff_usual :
    ∃ locator id, pytestNodeidLocator "test_a.py::test_a" = .ok locator ∧
      (∀ other, pytestNodeidLocator other = .ok locator → other = "test_a.py::test_a") ∧
      playwrightStableCaseId ⟨"chromium", "a.spec.ts", "logs in"⟩ = .ok id ∧
      ((∀ u, playwrightStableCaseId u = .ok id → playwrightTestLocator u =
          playwrightTestLocator ⟨"chromium", "a.spec.ts", "logs in"⟩) ↔
        PlaywrightCase.LoneJoints ⟨"chromium", "a.spec.ts", "logs in"⟩) := by
  have hparts : ¬ BlankPart "test_a.py::test_a" := by decide
  obtain ⟨locator, hlocator⟩ :
      ∃ locator, pytestNodeidLocator "test_a.py::test_a" = .ok locator := by
    rcases pytestNodeidLocator_cases (nonblank_of_parts hparts) with ⟨hblank, -⟩ | ⟨-, _, hok⟩
    · exact absurd hblank hparts
    · exact ⟨_, hok⟩
  have hid : playwrightStableCaseId ⟨"chromium", "a.spec.ts", "logs in"⟩ =
      .ok "chromium::a.spec.ts::logs in" := by decide
  have hboth := case_identity_iff "test_a.py::test_a" ⟨"chromium", "a.spec.ts", "logs in"⟩
  exact ⟨locator, _, hlocator, (hboth.1 _ hlocator).mpr (by decide), hid, hboth.2 _ hid⟩

/-- A raw Playwright case that passed. -/
def passedPlaywrightCase (t : PlaywrightCase) : RawJson :=
  .dict [("stable_case_id", .str t.joined), ("project", .str t.project), ("file", .str t.file),
    ("title", .str t.title), ("outcome", .str "passed"), ("duration_ms", .int 10)]

/-- Two node ids with one locator, and two Playwright cases with one id, which the adapter refuses
as a duplicate. -/
theorem identities_merge :
    (∃ locator, pytestNodeidLocator "test_a.py" = .ok locator ∧
      pytestNodeidLocator "test_a.py::test_a.py" = .ok locator) ∧
    (∃ id, playwrightStableCaseId ⟨"a::b", "c", "d"⟩ = .ok id ∧
      playwrightStableCaseId ⟨"a", "b::c", "d"⟩ = .ok id) ∧
    playwrightTestLocator ⟨"a::b", "c", "d"⟩ ≠ playwrightTestLocator ⟨"a", "b::c", "d"⟩ ∧
    acceptPlaywrightExecutionResult (fun _ => "'a::b::c::d'")
        (.str playwrightCaseResultSchemaVersion)
        [passedPlaywrightCase ⟨"a::b", "c", "d"⟩, passedPlaywrightCase ⟨"a", "b::c", "d"⟩] 0
        OnePassed.path Digest.zero =
      .error (.rejected "duplicate stable_case_id 'a::b::c::d'") := by
  refine ⟨?_, ⟨"a::b::c::d", by decide, by decide⟩, by decide +kernel, by decide +kernel⟩
  have hsome : (pytestNodeidLocator "test_a.py").toOption.isSome = true := by decide +kernel
  have hsame : pytestNodeidLocator "test_a.py" = pytestNodeidLocator "test_a.py::test_a.py" := by
    decide +kernel
  cases hlocator : pytestNodeidLocator "test_a.py" with
  | error e => rw [hlocator] at hsome; cases hsome
  | ok locator => exact ⟨locator, rfl, hsame ▸ hlocator⟩

end QaRunner
