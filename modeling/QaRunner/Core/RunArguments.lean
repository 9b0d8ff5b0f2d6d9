import QaRunner.Domain.Errors
import QaRunner.Lib.Separator

/-! The argv that a run request compiles to, and which dangerous options of the runner get through
the filter. -/
namespace QaRunner.Core
open Guarded

/-- What the compiled argv is made from. -/
structure RunArguments where
  args : List String := []
  selectedFiles : List String := []
  selectedMarkers : List String := []
  extraArgs : String := ""

inductive CompileError where
  | flagNotAllowed (flag : String)
  | leadingDash (selected : String)
  | unsafePath (relative : String)
  | notTestFile (selected : String)
  | valueError (message : String)
  deriving DecidableEq, Repr

namespace Shlex

/-- What `shlex.split` has read of the token at hand. A token counts when it is not empty or some of
it was quoted. -/
inductive State where
  | blank
  | word (token : List Char) (quoted : Bool)
  | quote (mark : Char) (token : List Char)
  /-- After a backslash, outside quotes or inside double ones. -/
  | escape (mark : Option Char) (token : List Char) (quoted : Bool)

def isWhitespace (c : Char) : Bool := [' ', '\t', '\r', '\n'].contains c

def isQuote (c : Char) : Bool := ['\'', '"'].contains c

/-- The token as an item of the result. -/
def emit (token : List Char) (quoted : Bool) : List String :=
  if token ≠ [] ∨ quoted then [String.ofList token] else []

/-- The state after one more character, and the token that it ends. -/
def next : State → Char → State × List String
  | .blank, c =>
    if isWhitespace c then (.blank, [])
    else if c = '\\' then (.escape none [] false, [])
    else if isQuote c then (.quote c [], [])
    else (.word [c] false, [])
  | .word token quoted, c =>
    if isWhitespace c then (.blank, emit token quoted)
    else if isQuote c then (.quote c token, [])
    else if c = '\\' then (.escape none token quoted, [])
    else (.word (token ++ [c]) quoted, [])
  | .quote mark token, c =>
    if c = mark then (.word token true, [])
    else if c = '\\' ∧ mark = '"' then (.escape (some mark) token true, [])
    else (.quote mark (token ++ [c]), [])
  | .escape none token quoted, c => (.word (token ++ [c]) quoted, [])
  | .escape (some mark) token _, c =>
    if c ≠ '\\' ∧ c ≠ mark then (.quote mark (token ++ ['\\', c]), [])
    else (.quote mark (token ++ [c]), [])

def splitFrom : State → List Char → Except CompileError (List String)
  | .blank, [] => .ok []
  | .word token quoted, [] => .ok (emit token quoted)
  | .quote _ _, [] => .error (.valueError "No closing quotation")
  | .escape _ _ _, [] => .error (.valueError "No escaped character")
  | state, c :: rest => do
    let (state, tokens) := next state c
    let later ← splitFrom state rest
    return tokens ++ later

def split (s : String) : Except CompileError (List String) := splitFrom .blank s.toList

example : (split "-k 'a b' \"c\\\"d\" e\\ f ''").toOption =
    some ["-k", "a b", "c\"d", "e f", ""] := by decide

end Shlex

/-- The characters that `re.escape` puts a backslash before. -/
def reSpecial : List Char := "()[]\x7b\x7d?*+-|^$\\.&~# \t\n\r\x0b\x0c".toList

def reEscape (s : List Char) : List Char :=
  s.flatMap fun c => if reSpecial.contains c then ['\\', c] else [c]

/-- What the two branches of `_compile_args` differ in. -/
structure Runner where
  dangerous : List String
  selectOption : String
  expression : List String → String
  /-- The part of a selected file that is a path. -/
  pathPart : String → String
  suffixes : List String

def pytest : Runner where
  dangerous := ["-p", "--plugins", "-c", "--config-file", "--pyargs", "--rootdir", "--import-mode",
    "-o", "--override-ini", "--confcutdir", "--pythonpath", "--junitxml", "--junit-xml",
    "--alluredir"]
  selectOption := "-m"
  expression markers := String.ofList (" or ".toList.intercalate (markers.map String.toList))
  pathPart selected := ((Separator.partition "::".toList selected.toList).map fun cut =>
    String.ofList cut.1).getD selected
  suffixes := [".py"]

def playwright : Runner where
  dangerous := ["-c", "--config", "--global-setup", "--global-teardown", "--output", "--reporter"]
  selectOption := "--grep"
  expression markers := String.ofList ("|".toList.intercalate (markers.map fun marker =>
    '@' :: reEscape (marker.toList.dropWhile (· = '@'))))
  pathPart := id
  suffixes := [".spec.ts", ".spec.js", ".spec.mjs", ".test.ts", ".test.js", ".test.mjs"]

def runnerNamed (name : String) : Runner := if name = "playwright" then playwright else pytest

/-- The text of a token before the first `=`. -/
def flagOf (token : String) : String := String.ofList (token.toList.takeWhile (· ≠ '='))

def extraTokens (req : RunArguments) : Except CompileError (List String) :=
  if isBlank req.extraArgs then .ok [] else Shlex.split req.extraArgs

/-- `inside` tells whether `safe_subpath` accepts a path under the tests directory. -/
def checkSelected (inside : String → Bool) (runner : Runner) (selected : String) :
    Except CompileError Unit := do
  raiseIf (['-'] <+: selected.toList) (.leadingDash selected)
  raiseIf (inside (runner.pathPart selected) = false) (.unsafePath (runner.pathPart selected))
  raiseIf (¬ ∃ suffix ∈ runner.suffixes, suffix.toList <:+ (runner.pathPart selected).toList)
    (.notTestFile selected)

/-- The option that selects by marker, when there are markers. -/
def markerArgs (runner : Runner) (markers : List String) : List String :=
  if markers = [] then [] else [runner.selectOption, runner.expression markers]

def compileArgs (inside : String → Bool) (runner : Runner) (req : RunArguments) :
    Except CompileError (List String) := do
  let extra ← extraTokens req
  each (req.args ++ extra) fun token =>
    raiseIf (flagOf token ∈ runner.dangerous) (.flagNotAllowed (flagOf token))
  each req.selectedFiles (checkSelected inside runner)
  return req.args ++ markerArgs runner req.selectedMarkers ++ extra ++ req.selectedFiles

/-- A short option, after short options that take no value, with what is glued to it. -/
def ShortOccurrence (switches : List Char) (option e : String) : Prop :=
  ∃ front c rest, option = String.ofList ['-', c] ∧ e.toList = '-' :: front ++ c :: rest ∧
    ∀ x ∈ front, x ∈ switches

/-- How a command-line parser reads an element as an option: a long one with or without `=value`,
or a short one with or without a value glued to it. `switches` are the letters that may stand
before a short option in one element. -/
def Occurrence (switches : List Char) (option e : String) : Prop :=
  (['-', '-'] <+: option.toList ∧ (e = option ∨ option.toList ++ ['='] <+: e.toList)) ∨
    ShortOccurrence switches option e

/-- A short option that does not stand alone: other letters come before it, or a value is glued to
it without `=`. -/
def Glued (switches : List Char) (option e : String) : Prop :=
  ∃ front c rest, option = String.ofList ['-', c] ∧ e.toList = '-' :: front ++ c :: rest ∧
    (∀ x ∈ front, x ∈ switches) ∧ (front ≠ [] ∨ ∃ d ∈ rest.head?, d ≠ '=')

/-- No element is read as an option of the runner's dangerous set. -/
def NoDangerous (switches : List Char) (runner : Runner) (argv : List String) : Prop :=
  ∀ e ∈ argv, ∀ option ∈ runner.dangerous, ¬ Occurrence switches option e

variable {switches : List Char} {runner : Runner} {option e token : String} {req : RunArguments}
  {inside : String → Bool} {argv : List String}

theorem toList_flagOf : (flagOf token).toList = token.toList.takeWhile (· ≠ '=') := by
  rw [flagOf, String.toList_ofList]

/-- What stands before an option's first `=` names the option. -/
theorem flagOf_of_append {rest : List Char} (hplain : '=' ∉ option.toList)
    (h : token.toList = option.toList ++ rest) (hrest : rest = [] ∨ rest.head? = some '=') :
    flagOf token = option := by
  rw [← String.toList_inj, toList_flagOf, h]
  have hkeep : ∀ c ∈ option.toList, decide (c ≠ '=') = true := by
    intro c hc
    rw [decide_eq_true_eq]
    rintro rfl
    exact hplain hc
  rw [List.takeWhile_append_of_pos hkeep]
  obtain rfl | hhead := hrest
  · exact List.append_nil _
  · cases rest with
    | nil => cases hhead
    | cons c rest =>
      rw [List.head?_cons, Option.some_inj] at hhead
      rw [hhead, List.takeWhile_cons_of_neg (by decide), List.append_nil]

/-- A runner whose options are written without `=`, and whose selecting option is harmless. -/
structure Runner.WellFormed (runner : Runner) : Prop where
  plain : ∀ option ∈ runner.dangerous, '=' ∉ option.toList
  select_flag : flagOf runner.selectOption ∉ runner.dangerous
  select_letters : (runner.selectOption.toList.tail.all fun c =>
    !runner.dangerous.contains (String.ofList ['-', c])) = true

theorem wellFormed_runnerNamed (name : String) : (runnerNamed name).WellFormed := by
  unfold runnerNamed
  split
  · exact ⟨by decide, by decide, by decide⟩
  · exact ⟨by decide, by decide, by decide⟩

theorem Glued.occurrence (h : Glued switches option e) : Occurrence switches option e := by
  obtain ⟨front, c, rest, hoption, he, hfront, -⟩ := h
  exact Or.inr ⟨front, c, rest, hoption, he, hfront⟩

/-- The filter leaves only the glued occurrences. -/
theorem Runner.WellFormed.glued_of_occurrence (h : runner.WellFormed)
    (hflag : flagOf token ∉ runner.dangerous) (hoption : option ∈ runner.dangerous)
    (hocc : Occurrence switches option token) : Glued switches option token := by
  have hplain := h.plain option hoption
  have hother : flagOf token ≠ option := fun heq => hflag (heq ▸ hoption)
  obtain ⟨-, rfl | ⟨rest, hrest⟩⟩ | ⟨front, c, rest, hletter, htoken, hfront⟩ := hocc
  · exact absurd (flagOf_of_append hplain (List.append_nil _).symm (Or.inl rfl)) hother
  · rw [List.append_assoc] at hrest
    exact absurd (flagOf_of_append hplain hrest.symm (Or.inr rfl)) hother
  · refine ⟨front, c, rest, hletter, htoken, hfront, ?_⟩
    by_contra hneither
    rw [not_or, not_not] at hneither
    obtain ⟨rfl, hvalue⟩ := hneither
    have hsplit : token.toList = option.toList ++ rest := by
      rw [htoken, hletter, String.toList_ofList]
      rfl
    refine hother (flagOf_of_append hplain hsplit ?_)
    cases rest with
    | nil => exact Or.inl rfl
    | cons d rest =>
      refine Or.inr (congrArg some ?_)
      by_contra hd
      exact hvalue ⟨d, rfl, hd⟩

theorem Occurrence.head (h : Occurrence switches option e) : e.toList.head? = some '-' := by
  obtain ⟨⟨rest, hrest⟩, rfl | ⟨rest', hrest'⟩⟩ | ⟨front, c, rest, -, he, -⟩ := h
  · rw [← hrest]
    rfl
  · rw [← hrest', ← hrest]
    rfl
  · rw [he]
    rfl

/-- The option that selects by marker is not dangerous. -/
theorem Runner.WellFormed.select_harmless (h : runner.WellFormed)
    (hoption : option ∈ runner.dangerous) : ¬ Occurrence switches option runner.selectOption := by
  intro hocc
  obtain ⟨front, c, rest, hletter, hselect, -, -⟩ :=
    h.glued_of_occurrence h.select_flag hoption hocc
  have hmem : c ∈ runner.selectOption.toList.tail := by
    rw [hselect, List.cons_append, List.tail_cons]
    exact List.mem_append_right _ List.mem_cons_self
  have hletters := List.all_eq_true.mp h.select_letters c hmem
  rw [← hletter] at hletters
  simp [hoption] at hletters

theorem not_occurrence_of_checked (h : checkSelected inside runner e = .ok ()) :
    ¬ Occurrence switches option e := by
  simp only [checkSelected, then_eq_ok, raiseIf_eq_ok] at h
  intro hocc
  obtain ⟨rest, hrest⟩ := List.head?_eq_some_iff.mp hocc.head
  exact h.1 ⟨rest, hrest.symm⟩

/-- An accepted argv has a dangerous option only in a glued token or in the marker expression. -/
theorem noDangerous_iff (hrunner : runner.WellFormed)
    (h : compileArgs inside runner req = .ok argv) :
    ∃ extra, extraTokens req = .ok extra ∧ (NoDangerous switches runner argv ↔
      (∀ token ∈ req.args ++ extra, ∀ option ∈ runner.dangerous, ¬ Glued switches option token) ∧
      (req.selectedMarkers ≠ [] → ∀ option ∈ runner.dangerous,
        ¬ Occurrence switches option (runner.expression req.selectedMarkers))) := by
  simp only [compileArgs, bind_eq_ok, exists_unit, each_eq_ok, raiseIf_eq_ok, pure_eq_ok] at h
  obtain ⟨extra, hextra, hflags, hfiles, rfl⟩ := h
  refine ⟨extra, hextra, fun hnone => ⟨?_, ?_⟩, ?_⟩
  · intro token htoken option hoption hglued
    refine hnone token ?_ option hoption hglued.occurrence
    simp only [List.mem_append] at htoken ⊢
    obtain htoken | htoken := htoken
    · exact Or.inl (Or.inl (Or.inl htoken))
    · exact Or.inl (Or.inr htoken)
  · intro hmarkers
    refine hnone _ ?_
    simp [markerArgs, hmarkers]
  · rintro ⟨hglued, hmarkers⟩ e he option hoption hocc
    have htoken : ∀ token ∈ req.args ++ extra, e ≠ token := by
      rintro token htoken rfl
      have hleft := hrunner.glued_of_occurrence (hflags e htoken) hoption hocc
      exact hglued e htoken option hoption hleft
    simp only [List.mem_append] at he
    obtain ((he | he) | he) | he := he
    · exact htoken e (List.mem_append_left _ he) rfl
    · unfold markerArgs at he
      split at he
      · cases he
      · next hne =>
        rw [List.mem_cons, List.mem_singleton] at he
        obtain rfl | rfl := he
        · exact hrunner.select_harmless hoption hocc
        · exact hmarkers hne option hoption hocc
    · exact htoken e (List.mem_append_right _ he) rfl
    · exact not_occurrence_of_checked (hfiles e he) hocc

/-- A grep expression starts with `@`, not with a dash. -/
theorem grep_harmless {markers : List String} (h : markers ≠ []) :
    ¬ Occurrence switches option (playwright.expression markers) := by
  intro hocc
  have hhead := hocc.head
  obtain ⟨marker, rest, rfl⟩ := List.exists_cons_of_ne_nil h
  rw [playwright, String.toList_ofList, List.map_cons] at hhead
  cases rest <;> simp [List.intercalate] at hhead

/-- No element of an accepted argv is read as a dangerous option exactly when no token of `args` or
`extra_args` has a dangerous short option glued to other text, and pytest's marker expression is
not itself one. -/
theorem compile_args_safe_iff (switches : List Char) (inside : String → Bool) (name : String)
    (req : RunArguments) (argv : List String)
    (h : compileArgs inside (runnerNamed name) req = .ok argv) :
    ∃ extra, extraTokens req = .ok extra ∧ (NoDangerous switches (runnerNamed name) argv ↔
      (∀ token ∈ req.args ++ extra, ∀ option ∈ (runnerNamed name).dangerous,
        ¬ Glued switches option token) ∧
      (name ≠ "playwright" → req.selectedMarkers ≠ [] → ∀ option ∈ pytest.dangerous,
        ¬ Occurrence switches option (pytest.expression req.selectedMarkers))) := by
  obtain ⟨extra, hextra, hiff⟩ :=
    @noDangerous_iff switches _ _ _ _ (wellFormed_runnerNamed name) h
  refine ⟨extra, hextra, ?_⟩
  rw [hiff]
  refine and_congr_right fun _ => ?_
  unfold runnerNamed
  by_cases hname : name = "playwright"
  · rw [if_pos hname]
    refine ⟨fun _ hne => absurd hname hne, fun _ hmarkers option _ => grep_harmless hmarkers⟩
  · rw [if_neg hname]
    exact ⟨fun hmarkers _ => hmarkers, fun hmarkers => hmarkers hname⟩

/-- A quiet run of one file is harmless. -/
theorem quiet_run_safe : NoDangerous [] pytest ["-q", "-m", "smoke", "test_a.py"] := by
  obtain ⟨extra, hextra, hiff⟩ := compile_args_safe_iff [] (fun _ => true) "pytest"
    { args := ["-q"], selectedMarkers := ["smoke"], selectedFiles := ["test_a.py"] }
    ["-q", "-m", "smoke", "test_a.py"] rfl
  cases hextra
  refine hiff.mpr ⟨?_, fun _ _ option _ hocc => ?_⟩
  · intro token htoken option hoption hglued
    obtain rfl := List.mem_singleton.mp htoken
    obtain ⟨front, c, rest, rfl, htext, hfront, -⟩ := hglued
    obtain rfl := List.eq_nil_iff_forall_not_mem.mpr fun x hx => List.not_mem_nil (hfront x hx)
    have hletters : ['-', 'q'] = '-' :: c :: rest := htext
    cases hletters
    exact absurd hoption (by decide)
  · exact absurd hocc.head (by decide)

/-- A plugin name glued to `-p` is accepted, and loads the plugin. -/
theorem glued_plugin_accepted : ¬ ∀ (inside : String → Bool) (name : String) (req : RunArguments)
    (argv : List String), compileArgs inside (runnerNamed name) req = .ok argv →
      NoDangerous [] (runnerNamed name) argv := by
  intro hall
  have hnone := hall (fun _ => true) "pytest" { args := ["-pevil"] } ["-pevil"] rfl
  exact hnone "-pevil" (by decide) "-p" (by decide)
    (Or.inr ⟨[], 'p', "evil".toList, by decide, by decide, by simp⟩)

end QaRunner.Core
