import QaRunner.Domain.Errors
import QaRunner.Lib.LetterCase
import QaRunner.Lib.Separator

/-! The gate before a browser container is created, and the options that it lets through. -/
namespace QaRunner
open Guarded Separator LetterCase

structure BrowserSandboxProfile.Fields where
  networkMode : String
  readOnlyRoot : Bool
  capDrop : List String
  noNewPrivileges : Bool
  pidsLimit : ℤ
  memLimit : String
  nanoCpus : ℤ
  shmSize : String
  requireNonRootUser : Bool
  forbidPrivileged : Bool
  forbidSysAdmin : Bool
  forbidHostIpc : Bool
  deriving DecidableEq

def BrowserSandboxProfile.Fields.postInit (p : BrowserSandboxProfile.Fields) : Result Unit := do
  let entity := "browser_sandbox_profile"
  invalidIf (isBlank p.networkMode) entity "network_mode" "invalid"
  invalidIf (p.capDrop = [] ∨ ∃ cap ∈ p.capDrop, isBlank cap) entity "cap_drop" "invalid"
  invalidIf (p.pidsLimit < 1) entity "pids_limit" "invalid"
  invalidIf (isBlank p.memLimit) entity "mem_limit" "invalid"
  invalidIf (p.nanoCpus < 1) entity "nano_cpus" "invalid"
  invalidIf (isBlank p.shmSize) entity "shm_size" "invalid"

/-- Hardened Chromium/Playwright sandbox. -/
structure BrowserSandboxProfile extends BrowserSandboxProfile.Fields where
  accepted : toFields.postInit = .ok ()
  deriving DecidableEq

/-- A value of any type. An object of a type without a constructor here is known by its truth value,
by what it yields when it is iterated, and by the texts and integers it equals. -/
inductive PyValue where
  | none
  | bool (b : Bool)
  | int (n : ℤ)
  | str (s : String)
  | list (items : List PyValue)
  | dict (entries : List (PyValue × PyValue))
  | object (truth : Bool) (items : Option (List PyValue)) (eqStr : String → Bool)
      (eqInt : ℤ → Bool)

namespace PyValue

def equalsStr (t : String) : PyValue → Bool
  | .str s => s = t
  | .object _ _ eqStr _ => eqStr t
  | _ => false

/-- What the value yields when it is iterated. -/
def items : PyValue → Option (List PyValue)
  | .str s => some (s.toList.map fun c => .str (String.singleton c))
  | .list items => some items
  | .dict entries => some (entries.map (·.1))
  | .object _ items _ _ => items
  | _ => Option.none

end PyValue

/-- How texts are made and changed: the letter case tables, and the text of a value that is not a
text. -/
structure PyText where
  tables : Tables
  str : PyValue → String

namespace PyText

def upper (py : PyText) (s : String) : String := String.ofList (LetterCase.upper py.tables s.toList)

def lower (py : PyText) (s : String) : String := String.ofList (LetterCase.lower py.tables s.toList)

def text (py : PyText) : PyValue → String
  | .str s => s
  | v => py.str v

end PyText

/-- Options for the creation of a container; keys may be of any type. -/
abbrev Kwargs := List (PyValue × PyValue)

/-- The value of an option, `None` when it is not there. -/
def Kwargs.get (kwargs : Kwargs) (name : String) : PyValue :=
  ((kwargs.find? fun entry => entry.1.equalsStr name).map (·.2)).getD .none

/-- The text is a numeral that equals zero, with or without a sign. -/
def isZero (s : List Char) : Bool :=
  let digits := if s.head? = some '+' ∨ s.head? = some '-' then s.tail else s
  !digits.isEmpty && digits.all (· = '0')

section
variable {py : PyText} {kwargs : Kwargs} {profile : Option BrowserSandboxProfile} {user : String}

end

end QaRunner
