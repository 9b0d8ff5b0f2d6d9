import QaRunner.Lib.Json
import QaRunner.Lib.Keyed
import Mathlib

/-! What the text of a JSON value determines: the value, up to the order of object keys. -/
namespace Json

@[elab_as_elim]
theorem induction {P : Json → Prop} (null : P .null) (bool : ∀ b, P (.bool b))
    (int : ∀ n, P (.int n)) (str : ∀ s, P (.str s))
    (list : ∀ items, (∀ v ∈ items, P v) → P (.list items))
    (dict : ∀ fields, (∀ f ∈ fields, P f.2) → P (.dict fields)) : ∀ v, P v :=
  Json.rec null bool int str list dict nofun (fun _ _ hv hvs => List.forall_mem_cons.mpr ⟨hv, hvs⟩)
    nofun (fun _ _ hf hfs => List.forall_mem_cons.mpr ⟨hf, hfs⟩) (fun _ _ hv => hv)

mutual

/-- The rendering of a value in the order its keys stand. -/
def plain : Json → List Char
  | .list items => '[' :: commas (plainItems items) ++ [']']
  | .dict fields => '{' :: commas (plainFields fields) ++ ['}']
  | v => render v

def plainItems : List Json → List (List Char)
  | [] => []
  | v :: vs => plain v :: plainItems vs

def plainFields : List (Str × Json) → List (List Char)
  | [] => []
  | (k, v) :: rest => (quote k ++ ':' :: plain v) :: plainFields rest

end

mutual

/-- The value with the keys of every object in order. -/
def norm : Json → Json
  | .list items => .list (normItems items)
  | .dict fields => .dict (Sorting.sortOn Prod.fst (normFields fields))
  | v => v

def normItems : List Json → List Json
  | [] => []
  | v :: vs => norm v :: normItems vs

def normFields : List (Str × Json) → List (Str × Json)
  | [] => []
  | (k, v) :: rest => (k, norm v) :: normFields rest

end

mutual

/-- Equal as JSON values: the keys of an object may stand in another order. -/
def same : Json → Json → Prop
  | .null, .null => True
  | .bool a, .bool b => a = b
  | .int m, .int n => m = n
  | .str s, .str t => s = t
  | .list vs, .list ws => sameItems vs ws
  | .dict fs, .dict gs => ∃ hs, hs.Perm gs ∧ sameFields fs hs
  | _, _ => False

def sameItems : List Json → List Json → Prop
  | [], [] => True
  | v :: vs, w :: ws => same v w ∧ sameItems vs ws
  | _, _ => False

def sameFields : List (Str × Json) → List (Str × Json) → Prop
  | [], [] => True
  | (k, v) :: fs, (l, w) :: gs => k = l ∧ same v w ∧ sameFields fs gs
  | _, _ => False

end

mutual

/-- No object holds a key twice. -/
def Distinct : Json → Prop
  | .list items => distinctItems items
  | .dict fields => (fields.map Prod.fst).Nodup ∧ distinctFields fields
  | _ => True

def distinctItems : List Json → Prop
  | [] => True
  | v :: vs => Distinct v ∧ distinctItems vs

def distinctFields : List (Str × Json) → Prop
  | [] => True
  | (_, v) :: rest => Distinct v ∧ distinctFields rest

end

def field {α β : Type} (f : α → β) (kv : Str × α) : Str × β := (kv.1, f kv.2)

theorem plainItems_eq (vs : List Json) : plainItems vs = vs.map plain := by
  induction vs with
  | nil => rfl
  | cons v vs ih => rw [plainItems, ih, List.map_cons]

theorem plainFields_eq (fs : List (Str × Json)) :
    plainFields fs = fs.map fun f => quote f.1 ++ ':' :: plain f.2 := by
  induction fs with
  | nil => rfl
  | cons f fs ih => rw [plainFields, ih, List.map_cons]

theorem renderItems_eq (vs : List Json) : renderItems vs = vs.map render := by
  induction vs with
  | nil => rfl
  | cons v vs ih => rw [renderItems, ih, List.map_cons]

theorem renderFields_eq (fs : List (Str × Json)) : renderFields fs = fs.map (field render) := by
  induction fs with
  | nil => rfl
  | cons f fs ih => rw [renderFields, ih, List.map_cons, field]

theorem normItems_eq (vs : List Json) : normItems vs = vs.map norm := by
  induction vs with
  | nil => rfl
  | cons v vs ih => rw [normItems, ih, List.map_cons]

theorem normFields_eq (fs : List (Str × Json)) : normFields fs = fs.map (field norm) := by
  induction fs with
  | nil => rfl
  | cons f fs ih => rw [normFields, ih, List.map_cons, field]

theorem distinctItems_iff {vs : List Json} : distinctItems vs ↔ ∀ v ∈ vs, Distinct v := by
  induction vs with
  | nil => simp [distinctItems]
  | cons v vs ih => simp [distinctItems, ih]

theorem distinctFields_iff {fs : List (Str × Json)} :
    distinctFields fs ↔ ∀ f ∈ fs, Distinct f.2 := by
  induction fs with
  | nil => simp [distinctFields]
  | cons f fs ih => simp [distinctFields, ih]

theorem sortOn_field {α β : Type} (f : α → β) (fs : List (Str × α)) :
    Sorting.sortOn Prod.fst (fs.map (field f)) = (Sorting.sortOn Prod.fst fs).map (field f) :=
  (List.map_insertionSort _ _ (field f) fs fun _ _ _ _ => Iff.rfl).symm

/-- Sorting the keys first and rendering in their order is the rendering. -/
theorem render_eq (v : Json) : render v = plain (norm v) := by
  induction v using Json.induction with
  | null => rfl
  | bool b => rfl
  | int n => rfl
  | str s => rfl
  | list items ih =>
    have hitems : items.map render = (items.map norm).map plain := by
      rw [List.map_map]
      exact List.map_congr_left ih
    rw [render, norm, plain, renderItems_eq, normItems_eq, plainItems_eq, hitems]
  | dict fields ih =>
    have hfields : fields.map (field render) = (fields.map (field norm)).map (field plain) := by
      rw [List.map_map]
      exact List.map_congr_left fun f hf => congrArg (f.1, ·) (ih f hf)
    rw [render, norm, plain, renderFields_eq, normFields_eq, plainFields_eq, hfields, sortOn_field,
      List.map_map]
    rfl

/-- The text that follows a value: nothing, a separator or a closing bracket. -/
def Ends (r : List Char) : Prop := ∀ c ∈ r.head?, c ∈ [',', ']', '}']

/-- Two texts of characters of one kind end where the next character is of another. -/
theorem append_inj_of_ends {p : Char → Bool} {as bs r s : List Char} (has : ∀ c ∈ as, p c = true)
    (hbs : ∀ c ∈ bs, p c = true) (hr : ∀ c ∈ r.head?, p c = false)
    (hs : ∀ c ∈ s.head?, p c = false) (h : as ++ r = bs ++ s) : as = bs ∧ r = s := by
  induction as generalizing bs with
  | nil =>
    cases bs with
    | nil => exact ⟨rfl, h⟩
    | cons b bs =>
      have hb := hr b (by rw [← List.nil_append r, h]; rfl)
      rw [hbs b List.mem_cons_self] at hb
      cases hb
  | cons a as ih =>
    cases bs with
    | nil =>
      have ha := hs a (by rw [← List.nil_append s, ← h]; rfl)
      rw [has a List.mem_cons_self] at ha
      cases ha
    | cons b bs =>
      obtain ⟨rfl, htail⟩ := List.cons.inj h
      rw [List.forall_mem_cons] at has hbs
      obtain ⟨rfl, rfl⟩ := ih has.2 hbs.2 htail
      exact ⟨rfl, rfl⟩

def hexValue (c : Char) : ℕ := if c.isDigit then c.toNat - 48 else c.toNat - 87

/-- The code point that four hexadecimal digits stand for. -/
def codePoint (n : ℕ) : CodePoint :=
  if h : 0xd800 ≤ n ∧ n - 0xd800 < 2048 then .inr ⟨n - 0xd800, h.2⟩ else .inl (Char.ofNat n)

/-- The code point that a text begins with after a backslash, and the rest. -/
def unescapeTail : List Char → Option (CodePoint × List Char)
  | [] => none
  | 'u' :: a :: b :: c :: d :: r =>
    some (codePoint (((hexValue a * 16 + hexValue b) * 16 + hexValue c) * 16 + hexValue d), r)
  | 'n' :: r => some (.inl '\n', r)
  | 'r' :: r => some (.inl '\r', r)
  | 't' :: r => some (.inl '\t', r)
  | 'b' :: r => some (.inl (Char.ofNat 8), r)
  | 'f' :: r => some (.inl (Char.ofNat 12), r)
  | c :: r => some (.inl c, r)

/-- The code point that an escaped text begins with, and the rest. -/
def unescape : List Char → Option (CodePoint × List Char)
  | [] => none
  | c :: r => if c = '\\' then unescapeTail r else some (.inl c, r)

theorem hexValue_digitChar {n : ℕ} (hn : n < 16) : hexValue (Nat.digitChar n) = n := by
  revert n
  decide

theorem hexValue_hex4 {n : ℕ} (hn : n < 0x10000) : ∃ a b c d, hex4 n = [a, b, c, d] ∧
    ((hexValue a * 16 + hexValue b) * 16 + hexValue c) * 16 + hexValue d = n := by
  refine ⟨_, _, _, _, rfl, ?_⟩
  have hdigit : ∀ k, hexValue (Nat.digitChar (k % 16)) = k % 16 := fun k =>
    hexValue_digitChar (Nat.mod_lt _ (by decide))
  rw [hdigit, hdigit, hdigit, hdigit]
  omega

theorem unescape_hex4 {n : ℕ} (hn : n < 0x10000) (r : List Char) :
    unescape ('\\' :: 'u' :: hex4 n ++ r) = some (codePoint n, r) := by
  obtain ⟨a, b, c, d, hhex, hvalue⟩ := hexValue_hex4 hn
  rw [hhex]
  simp only [List.cons_append, List.nil_append, unescape, if_true, unescapeTail, hvalue]

theorem unescape_escape (c : Char) (r : List Char) :
    unescape (escape c ++ r) = some (.inl c, r) := by
  unfold escape
  split
  · next h => rw [h]; rfl
  split
  · next h => rw [h]; rfl
  split
  · next h => rw [h]; rfl
  split
  · next h => rw [h]; rfl
  split
  · next h => rw [h]; rfl
  split
  · next h => rw [← Char.ofNat_toNat c, h]; rfl
  split
  · next h => rw [← Char.ofNat_toNat c, h]; rfl
  split
  · next h =>
    rw [unescape_hex4 (by omega), codePoint, dif_neg (by omega), Char.ofNat_toNat]
  · next hslash _ _ _ _ _ _ =>
    rw [List.singleton_append, unescape, if_neg hslash]

theorem unescape_escapePoint (p : CodePoint) (r : List Char) :
    unescape (escapePoint p ++ r) = some (p, r) := by
  cases p with
  | inl c => exact unescape_escape c r
  | inr u =>
    have hbound := u.isLt
    rw [escapePoint, unescape_hex4 (by omega), codePoint, dif_pos (by omega)]
    simp only [Nat.add_sub_cancel_left, Fin.eta]

theorem escape_cons (c : Char) : ∃ d r, escape c = d :: r ∧ d ≠ '"' := by
  unfold escape
  split
  · exact ⟨_, _, rfl, by decide⟩
  · next h =>
    split_ifs
    all_goals first
      | exact ⟨_, _, rfl, by decide⟩
      | exact ⟨_, _, rfl, h⟩

theorem escapePoint_cons (p : CodePoint) : ∃ d r, escapePoint p = d :: r ∧ d ≠ '"' := by
  cases p with
  | inl c => exact escape_cons c
  | inr u => exact ⟨_, _, rfl, by decide⟩

/-- A quoted text ends at the first quote that is not escaped. -/
theorem quote_append_inj {s t : Str} {r r' : List Char} (h : quote s ++ r = quote t ++ r') :
    s = t ∧ r = r' := by
  suffices hlists : ∀ ps qs : List CodePoint,
      ps.flatMap escapePoint ++ '"' :: r = qs.flatMap escapePoint ++ '"' :: r' → ps = qs ∧ r = r' by
    simp only [quote, List.cons_append, List.append_assoc, List.cons.injEq, true_and,
      List.nil_append] at h
    obtain ⟨hpoints, hr⟩ := hlists _ _ h
    exact ⟨Str.points_injective hpoints, hr⟩
  intro ps
  induction ps with
  | nil =>
    rintro (_ | ⟨q, qs⟩) h
    · exact ⟨rfl, (List.cons.inj h).2⟩
    · obtain ⟨e, rest, he, hquote⟩ := escapePoint_cons q
      rw [List.flatMap_cons, he] at h
      exact absurd (List.cons.inj h).1.symm hquote
  | cons p ps ih =>
    rintro (_ | ⟨q, qs⟩) h
    · obtain ⟨e, rest, he, hquote⟩ := escapePoint_cons p
      rw [List.flatMap_cons, he] at h
      exact absurd (List.cons.inj h).1 hquote
    · rw [List.flatMap_cons, List.flatMap_cons, List.append_assoc, List.append_assoc] at h
      have hfirst := congrArg unescape h
      rw [unescape_escapePoint, unescape_escapePoint, Option.some.injEq, Prod.mk.injEq] at hfirst
      obtain ⟨rfl, htail⟩ := hfirst
      obtain ⟨rfl, hr⟩ := ih qs htail
      exact ⟨rfl, hr⟩

/-- The characters of an integer. -/
def isNumeric (c : Char) : Bool := c.isDigit || c == '-'

theorem isNumeric_of_mem {n : ℤ} {c : Char} (hc : c ∈ (toString n).toList) :
    isNumeric c = true := by
  have hdigits : ∀ {k : ℕ}, c ∈ (Nat.repr k).toList → isNumeric c = true := by
    intro k hk
    rw [Nat.toList_repr] at hk
    rw [isNumeric, Nat.isDigit_of_mem_toDigits (by decide) (by decide) hk, Bool.true_or]
  rw [Int.toString_eq_repr, Int.repr_eq_if] at hc
  split at hc
  · exact hdigits hc
  · rw [String.toList_append, List.mem_append] at hc
    rcases hc with hsign | hc
    · cases List.mem_singleton.mp hsign
      rfl
    · exact hdigits hc

theorem toString_int_ne_nil (n : ℤ) : (toString n).toList ≠ [] := by
  rw [Int.toString_eq_repr, Int.repr_eq_if]
  split
  · rw [Nat.toList_repr]
    exact Nat.toDigits_ne_nil
  · rw [String.toList_append]
    exact List.append_ne_nil_of_left_ne_nil (by decide) _

theorem isNumeric_of_ends {r : List Char} (hr : Ends r) : ∀ c ∈ r.head?, isNumeric c = false := by
  intro c hc
  have hmem := hr c hc
  fin_cases hmem <;> rfl

theorem int_append_inj {m n : ℤ} {r s : List Char} (hr : Ends r) (hs : Ends s)
    (h : (toString m).toList ++ r = (toString n).toList ++ s) : m = n ∧ r = s := by
  obtain ⟨htext, hrest⟩ := append_inj_of_ends (fun _ => isNumeric_of_mem)
    (fun _ => isNumeric_of_mem) (isNumeric_of_ends hr) (isNumeric_of_ends hs) h
  exact ⟨Int.repr_injective (String.toList_inj.mp htext), hrest⟩

/-- Which of the six kinds of values a value is. -/
def kind : Json → ℕ
  | .null => 0
  | .bool _ => 1
  | .int _ => 2
  | .str _ => 3
  | .list _ => 4
  | .dict _ => 5

/-- The kind that the first character of a text tells. -/
def leads (c : Char) : ℕ :=
  if c = 'n' then 0
  else if c = 't' ∨ c = 'f' then 1
  else if c = '"' then 3
  else if c = '[' then 4
  else if c = '{' then 5
  else 2

theorem leads_of_isNumeric {c : Char} (hc : isNumeric c = true) :
    leads c = 2 ∧ c ∉ [',', ']', '}'] := by
  constructor
  · unfold leads
    split_ifs with h₀ h₁ h₃ h₄ h₅
    · cases h₀ ▸ hc
    · rcases h₁ with h | h <;> cases h ▸ hc
    · cases h₃ ▸ hc
    · cases h₄ ▸ hc
    · cases h₅ ▸ hc
    · rfl
  · intro hmem
    fin_cases hmem <;> cases hc

/-- No value begins with what ends one, and its first character tells its kind. -/
theorem plain_cons (v : Json) :
    ∃ c r, plain v = c :: r ∧ leads c = v.kind ∧ c ∉ [',', ']', '}'] := by
  cases v with
  | null => exact ⟨_, _, rfl, rfl, by decide⟩
  | bool b => cases b <;> exact ⟨_, _, rfl, rfl, by decide⟩
  | int n =>
    obtain ⟨c, r, htext⟩ := List.exists_cons_of_ne_nil (toString_int_ne_nil n)
    have hnumeric : isNumeric c = true := isNumeric_of_mem (by rw [htext]; exact List.mem_cons_self)
    exact ⟨c, r, htext, leads_of_isNumeric hnumeric⟩
  | str s => exact ⟨_, _, rfl, rfl, by decide⟩
  | list items =>
    rw [plain]
    exact ⟨_, _, rfl, rfl, by decide⟩
  | dict fields =>
    rw [plain]
    exact ⟨_, _, rfl, rfl, by decide⟩

theorem commas_cons (p : List Char) (ps : List (List Char)) :
    commas (p :: ps) = p ++ ps.flatMap (',' :: ·) := by
  induction ps generalizing p with
  | nil => exact List.intercalate_singleton.trans (List.append_nil p).symm
  | cons q ps ih =>
    have hstep : commas (p :: q :: ps) = p ++ [','] ++ commas (q :: ps) :=
      List.intercalate_cons_cons
    rw [hstep, ih, List.flatMap_cons, List.append_assoc]
    rfl

section
variable {α : Type} {enc : α → List Char} {as bs : List α} {close : Char} {r s : List Char}

/-- Wherever a text begins with an encoding and ends it, it tells what was encoded. -/
def Reads (enc : α → List Char) (a : α) : Prop :=
  ∀ b r s, Ends r → Ends s → enc a ++ r = enc b ++ s → a = b ∧ r = s

theorem ends_tail (hclose : close ∈ [']', '}']) (ps : List (List Char)) :
    Ends (ps.flatMap (',' :: ·) ++ close :: r) := by
  rintro c hc
  cases ps with
  | nil =>
    cases hc
    exact List.mem_cons_of_mem _ hclose
  | cons p ps =>
    cases hc
    exact List.mem_cons_self

theorem tail_append_inj (hclose : close ∈ [']', '}']) (has : ∀ a ∈ as, Reads enc a)
    (h : (as.map enc).flatMap (',' :: ·) ++ close :: r =
      (bs.map enc).flatMap (',' :: ·) ++ close :: s) : as = bs ∧ r = s := by
  have hcomma : close ≠ ',' := by
    rintro rfl
    revert hclose
    decide
  induction as generalizing bs with
  | nil =>
    cases bs with
    | nil => exact ⟨rfl, (List.cons.inj h).2⟩
    | cons b bs => exact absurd (List.cons.inj h).1 hcomma
  | cons a as ih =>
    cases bs with
    | nil => exact absurd (List.cons.inj h).1.symm hcomma
    | cons b bs =>
      rw [List.forall_mem_cons] at has
      simp only [List.map_cons, List.flatMap_cons, List.cons_append, List.append_assoc,
        List.cons.injEq, true_and] at h
      obtain ⟨rfl, htail⟩ := has.1 b _ _ (ends_tail hclose _) (ends_tail hclose _) h
      obtain ⟨rfl, hr⟩ := ih has.2 htail
      exact ⟨rfl, hr⟩

/-- A sequence between commas tells its elements when each encoding tells its own. -/
theorem commas_append_inj (hclose : close ∈ [']', '}']) (has : ∀ a ∈ as, Reads enc a)
    (hopen : ∀ a, ∃ c rest, enc a = c :: rest ∧ c ∉ [',', ']', '}'])
    (h : commas (as.map enc) ++ close :: r = commas (bs.map enc) ++ close :: s) :
    as = bs ∧ r = s := by
  have hopens : ∀ (a : α) (t : List Char), enc a ++ t ≠ close :: r ∧ enc a ++ t ≠ close :: s := by
    intro a t
    obtain ⟨c, rest, henc, hc⟩ := hopen a
    have hne : c ≠ close := fun heq => hc (heq ▸ List.mem_cons_of_mem _ hclose)
    rw [henc]
    exact ⟨fun heq => hne (List.cons.inj heq).1, fun heq => hne (List.cons.inj heq).1⟩
  cases as with
  | nil =>
    cases bs with
    | nil => exact ⟨rfl, (List.cons.inj h).2⟩
    | cons b bs =>
      rw [List.map_cons, commas_cons, List.append_assoc] at h
      exact absurd h.symm (hopens b _).1
  | cons a as =>
    cases bs with
    | nil =>
      rw [List.map_cons, commas_cons, List.append_assoc] at h
      exact absurd h (hopens a _).2
    | cons b bs =>
      rw [List.map_cons, List.map_cons, commas_cons, commas_cons, List.append_assoc,
        List.append_assoc] at h
      rw [List.forall_mem_cons] at has
      obtain ⟨rfl, htail⟩ := has.1 b _ _ (ends_tail hclose _) (ends_tail hclose _) h
      obtain ⟨rfl, hr⟩ := tail_append_inj hclose has.2 htail
      exact ⟨rfl, hr⟩

end

theorem kind_eq_of_append {v w : Json} {r s : List Char} (h : plain v ++ r = plain w ++ s) :
    v.kind = w.kind := by
  obtain ⟨c, rest, hc, hleads, -⟩ := plain_cons v
  obtain ⟨d, rest', hd, hleads', -⟩ := plain_cons w
  rw [hc, hd] at h
  rw [← hleads, ← hleads', (List.cons.inj h).1]

theorem reads_field {f : Str × Json} (h : Reads plain f.2) :
    Reads (fun f : Str × Json => quote f.1 ++ ':' :: plain f.2) f := by
  rintro ⟨k, w⟩ r s hr hs heq
  simp only [List.append_assoc] at heq
  obtain ⟨hkey, hrest⟩ := quote_append_inj heq
  obtain ⟨hvalue, hends⟩ := h w r s hr hs (List.cons.inj hrest).2
  exact ⟨Prod.ext hkey hvalue, hends⟩

/-- Where the text of a value ends is seen from the text. -/
theorem reads_plain (v : Json) : Reads plain v := by
  induction v using Json.induction with
  | null =>
    intro w r s _ _ h
    have hkind := kind_eq_of_append h
    cases w <;> cases hkind
    exact ⟨rfl, List.append_cancel_left h⟩
  | bool b =>
    intro w r s _ _ h
    have hkind := kind_eq_of_append h
    cases w <;> cases hkind
    next b' =>
      cases b <;> cases b'
      · exact ⟨rfl, List.append_cancel_left h⟩
      · cases h
      · cases h
      · exact ⟨rfl, List.append_cancel_left h⟩
  | int n =>
    intro w r s hr hs h
    have hkind := kind_eq_of_append h
    cases w <;> cases hkind
    obtain ⟨rfl, hrest⟩ := int_append_inj hr hs h
    exact ⟨rfl, hrest⟩
  | str t =>
    intro w r s _ _ h
    have hkind := kind_eq_of_append h
    cases w <;> cases hkind
    obtain ⟨rfl, hrest⟩ := quote_append_inj h
    exact ⟨rfl, hrest⟩
  | list items ih =>
    intro w r s _ _ h
    have hkind := kind_eq_of_append h
    cases w <;> cases hkind
    simp only [plain, plainItems_eq, List.cons_append, List.append_assoc, List.cons.injEq,
      true_and, List.nil_append] at h
    have hopen : ∀ v, ∃ c rest, plain v = c :: rest ∧ c ∉ [',', ']', '}'] := by
      intro v
      obtain ⟨c, rest, hc, -, hopen⟩ := plain_cons v
      exact ⟨c, rest, hc, hopen⟩
    obtain ⟨rfl, hrest⟩ := commas_append_inj (by decide) ih hopen h
    exact ⟨rfl, hrest⟩
  | dict fields ih =>
    intro w r s _ _ h
    have hkind := kind_eq_of_append h
    cases w <;> cases hkind
    simp only [plain, plainFields_eq, List.cons_append, List.append_assoc, List.cons.injEq,
      true_and, List.nil_append] at h
    obtain ⟨rfl, hrest⟩ := commas_append_inj (by decide) (fun f hf => reads_field (ih f hf))
      (fun f => ⟨_, _, rfl, by decide⟩) h
    exact ⟨rfl, hrest⟩

theorem plain_injective {v w : Json} (h : plain v = plain w) : v = w :=
  (reads_plain v w [] [] nofun nofun (congrArg (· ++ []) h)).1

theorem render_eq_iff {v w : Json} : render v = render w ↔ norm v = norm w := by
  rw [render_eq, render_eq]
  exact ⟨plain_injective, congrArg plain⟩

theorem sameItems_iff {vs ws : List Json}
    (h : ∀ v ∈ vs, ∀ w ∈ ws, norm v = norm w ↔ same v w) :
    vs.map norm = ws.map norm ↔ sameItems vs ws := by
  induction vs generalizing ws with
  | nil => cases ws <;> simp [sameItems]
  | cons v vs ih =>
    cases ws with
    | nil => simp [sameItems]
    | cons w ws =>
      have hhead := h v List.mem_cons_self w List.mem_cons_self
      have htail := ih fun x hx y hy =>
        h x (List.mem_cons_of_mem _ hx) y (List.mem_cons_of_mem _ hy)
      rw [List.map_cons, List.map_cons, List.cons.injEq, hhead, htail, sameItems]

theorem sameFields_iff {fs gs : List (Str × Json)}
    (h : ∀ f ∈ fs, ∀ g ∈ gs, norm f.2 = norm g.2 ↔ same f.2 g.2) :
    fs.map (field norm) = gs.map (field norm) ↔ sameFields fs gs := by
  induction fs generalizing gs with
  | nil => cases gs <;> simp [sameFields]
  | cons f fs ih =>
    cases gs with
    | nil => simp [sameFields]
    | cons g gs =>
      have hhead := h f List.mem_cons_self g List.mem_cons_self
      have htail := ih fun x hx y hy =>
        h x (List.mem_cons_of_mem _ hx) y (List.mem_cons_of_mem _ hy)
      rw [List.map_cons, List.map_cons, List.cons.injEq, htail, sameFields, field, field,
        Prod.mk.injEq, hhead, and_assoc]

theorem length_of_sameFields {fs gs : List (Str × Json)} (h : sameFields fs gs) :
    fs.length = gs.length := by
  induction fs generalizing gs with
  | nil =>
    cases gs with
    | nil => rfl
    | cons g gs => simp [sameFields] at h
  | cons f fs ih =>
    cases gs with
    | nil => simp [sameFields] at h
    | cons g gs =>
      rw [sameFields] at h
      rw [List.length_cons, List.length_cons, ih h.2.2]

theorem keys_map_field {α β : Type} (f : α → β) (fs : List (Str × α)) :
    (fs.map (field f)).map Prod.fst = fs.map Prod.fst := by
  rw [List.map_map]
  rfl

/-- Lists of fields with distinct keys sort to one list exactly when one is a rearrangement of the
other, value by value. -/
theorem sortOn_field_eq_iff {fs gs : List (Str × Json)} (hkeys : (fs.map Prod.fst).Nodup) :
    Sorting.sortOn Prod.fst (fs.map (field norm)) = Sorting.sortOn Prod.fst (gs.map (field norm)) ↔
      ∃ hs : List (Str × Json), hs.Perm gs ∧ fs.map (field norm) = hs.map (field norm) := by
  constructor
  · intro h
    have hperm : (fs.map (field norm)).Perm (gs.map (field norm)) :=
      ((Sorting.sortOn_perm _ _).symm.trans (List.Perm.of_eq h)).trans (Sorting.sortOn_perm _ _)
    have hpointwise : List.Forall₂ (fun b a => b = field norm a) (gs.map (field norm)) gs := by
      rw [List.forall₂_map_left_iff]
      exact List.forall₂_same.mpr fun _ _ => rfl
    obtain ⟨hs, hsame, hsperm⟩ := List.perm_comp_forall₂ hperm hpointwise
    refine ⟨hs, hsperm, ?_⟩
    rw [← List.forall₂_eq_eq_eq, List.forall₂_map_right_iff]
    exact hsame
  · rintro ⟨hs, hperm, hmap⟩
    rw [hmap]
    refine Sorting.sortOn_eq_of_perm (hperm.map _) ?_
    rwa [← hmap, keys_map_field]

/-- Objects with one normal form whose distinct keys stand in one order agree value by value. -/
theorem norm_dict_inj {fs gs : List (Str × Json)} (h : norm (.dict fs) = norm (.dict gs))
    (hkeys : fs.map Prod.fst = gs.map Prod.fst) (hdistinct : (fs.map Prod.fst).Nodup) :
    fs.map (field norm) = gs.map (field norm) := by
  rw [norm, norm, normFields_eq, normFields_eq, Json.dict.injEq,
    sortOn_field_eq_iff hdistinct] at h
  obtain ⟨hs, hperm, hmap⟩ := h
  have hkeys' : hs.map Prod.fst = gs.map Prod.fst := by
    rw [← hkeys, ← keys_map_field norm fs, hmap, keys_map_field]
  rw [hmap, Keyed.eq_of_perm_of_keys hperm hkeys' (by rwa [hkeys', ← hkeys])]

/-- Values without repeated keys have one normal form exactly when they are equal as JSON values. -/
theorem norm_eq_iff {v w : Json} (hv : v.Distinct) (hw : w.Distinct) :
    norm v = norm w ↔ same v w := by
  induction v using Json.induction generalizing w with
  | null => cases w <;> simp [norm, same]
  | bool b => cases w <;> simp [norm, same]
  | int n => cases w <;> simp [norm, same]
  | str t => cases w <;> simp [norm, same]
  | list items ih =>
    cases w with
    | list items' =>
      rw [Distinct, distinctItems_iff] at hv hw
      rw [norm, norm, normItems_eq, normItems_eq, Json.list.injEq, same]
      exact sameItems_iff fun x hx y hy => ih x hx (hv x hx) (hw y hy)
    | _ => simp [norm, same]
  | dict fields ih =>
    cases w with
    | dict fields' =>
      rw [Distinct, distinctFields_iff] at hv hw
      rw [norm, norm, normFields_eq, normFields_eq, Json.dict.injEq, same,
        sortOn_field_eq_iff hv.1]
      refine exists_congr fun hs => and_congr_right fun hperm => ?_
      exact sameFields_iff fun f hf g hg =>
        ih f hf (hv.2 f hf) (hw.2 g (hperm.mem_iff.mp hg))
    | _ => simp [norm, same]

/-- UTF-8 loses nothing. -/
theorem utf8_injective {s t : List Char}
    (h : (s.flatMap fun c => (String.utf8EncodeChar c).map UInt8.toNat) =
      t.flatMap fun c => (String.utf8EncodeChar c).map UInt8.toNat) : s = t := by
  rw [← List.map_flatMap, ← List.map_flatMap] at h
  have hencoded := List.map_injective_iff.mpr (fun _ _ => UInt8.toNat_inj.mp) h
  have hutf8 : s.utf8Encode = t.utf8Encode := by
    rw [List.utf8Encode, List.utf8Encode, hencoded]
  apply String.ofList_injective
  rw [← String.toByteArray_inj, String.toByteArray_ofList, String.toByteArray_ofList, hutf8]

theorem bytes_eq_iff {v w : Json} : bytes v = bytes w ↔ render v = render w := by
  constructor
  · exact utf8_injective
  · intro h
    rw [bytes, bytes, h]

end Json
