import QaRunner.Lib.Sorting
import QaRunner.Lib.Str

/-! JSON values without floats, and their compact rendering with sorted keys. -/

/-- `null`, booleans, integers, strings, arrays, and objects in insertion order. -/
inductive Json where
  | null
  | bool (b : Bool)
  | int (n : ℤ)
  | str (s : Str)
  | list (items : List Json)
  | dict (fields : List (Str × Json))

namespace Json

/-- A string that is valid Unicode. -/
abbrev text (s : String) : Json := .str s

/-- The members of an object. -/
abbrev Members := List (Str × Json)

/-- The four hexadecimal digits of a control character. -/
def hex4 (n : ℕ) : List Char :=
  [Nat.digitChar (n / 4096 % 16), Nat.digitChar (n / 256 % 16),
    Nat.digitChar (n / 16 % 16), Nat.digitChar (n % 16)]

/-- Escape what JSON forbids inside a string and keep every other character as it is. -/
def escape (c : Char) : List Char :=
  if c = '"' then ['\\', '"']
  else if c = '\\' then ['\\', '\\']
  else if c = '\n' then ['\\', 'n']
  else if c = '\r' then ['\\', 'r']
  else if c = '\t' then ['\\', 't']
  else if c.toNat = 8 then ['\\', 'b']
  else if c.toNat = 12 then ['\\', 'f']
  else if c.toNat < 32 then '\\' :: 'u' :: hex4 c.toNat
  else [c]

/-- A lone surrogate, which UTF-8 cannot hold, is rendered by its escape. -/
def escapePoint : CodePoint → List Char
  | .inl c => escape c
  | .inr u => '\\' :: 'u' :: hex4 (0xd800 + u)

def quote (s : Str) : List Char := '"' :: s.points.flatMap escapePoint ++ ['"']

def commas (parts : List (List Char)) : List Char := [','].intercalate parts

mutual

/-- Separators `,` and `:` without blanks, object keys in code point order. -/
def render : Json → List Char
  | .null => "null".toList
  | .bool true => "true".toList
  | .bool false => "false".toList
  | .int n => (toString n).toList
  | .str s => quote s
  | .list items => '[' :: commas (renderItems items) ++ [']']
  | .dict fields =>
    let sorted := Sorting.sortOn Prod.fst (renderFields fields)
    '{' :: commas (sorted.map fun f => quote f.1 ++ ':' :: f.2) ++ ['}']

def renderItems : List Json → List (List Char)
  | [] => []
  | v :: vs => render v :: renderItems vs

def renderFields : List (Str × Json) → List (Str × List Char)
  | [] => []
  | (k, v) :: rest => (k, render v) :: renderFields rest

end

/-- The UTF-8 bytes of a rendered value. -/
def bytes (v : Json) : List ℕ :=
  (render v).flatMap fun c => (String.utf8EncodeChar c).map UInt8.toNat

/-- An optional value, absent as `null`. -/
def opt {α : Type} (f : α → Json) : Option α → Json
  | some a => f a
  | none => .null

theorem opt_inj {α : Type} {f : α → Json} (hf : Function.Injective f) (hnull : ∀ a, f a ≠ .null)
    {x y : Option α} : opt f x = opt f y ↔ x = y := by
  cases x <;> cases y <;> simp [opt, hnull, (hnull _).symm, hf.eq_iff]

example : render (.dict [("b", .list [.int (-3), .null]), ("a", .str "x\"\n")]) =
    "\x7b\"a\":\"x\\\"\\n\",\"b\":[-3,null]\x7d".toList := by decide

end Json
