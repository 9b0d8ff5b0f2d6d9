import Mathlib.Logic.Function.Basic
import Mathlib.Data.List.Basic

/-! First-in first-out lanes, one for each class, served in a fixed order of the classes. -/
namespace PriorityFifo

abbrev Lanes (κ α : Type) := κ → List α

inductive Event (κ α : Type) where
  | pushed (c : κ) (a : α)
  | popped (c : κ) (a : α)

/-- The oldest item of the first class in the order that has one. -/
def oldest {κ α : Type} : List κ → Lanes κ α → Option (κ × α)
  | [], _ => none
  | c :: cs, s =>
    match s c with
    | a :: _ => some (c, a)
    | [] => oldest cs s

theorem oldest_eq_some {κ α : Type} {order : List κ} {s : Lanes κ α} {c : κ} {a : α}
    (h : oldest order s = some (c, a)) : s c = a :: (s c).tail := by
  induction order with
  | nil => cases h
  | cons d ds ih =>
    rw [oldest] at h
    split at h
    · next b rest hlane =>
      cases h
      rw [hlane, List.tail_cons]
    · exact ih h

variable {κ α : Type} [DecidableEq κ]

def push (s : Lanes κ α) (c : κ) (a : α) : Lanes κ α := Function.update s c (s c ++ [a])

def pop (s : Lanes κ α) (c : κ) : Lanes κ α := Function.update s c (s c).tail

/-- All items, class by class. -/
def present (order : List κ) (s : Lanes κ α) : List α := order.flatMap s

theorem flatMap_update_of_not_mem {order : List κ} {s : Lanes κ α} {c : κ} {lane : List α}
    (hc : c ∉ order) : order.flatMap (Function.update s c lane) = order.flatMap s := by
  apply List.flatMap_congr
  intro d hd
  rw [Function.update_of_ne]
  rintro rfl
  exact hc hd

theorem present_push_perm {order : List κ} {c : κ} (horder : order.Nodup) (hc : c ∈ order)
    (s : Lanes κ α) (a : α) : (present order (push s c a)).Perm (a :: present order s) := by
  induction order with
  | nil => cases hc
  | cons d ds ih =>
    obtain ⟨hd, hds⟩ := List.nodup_cons.mp horder
    simp only [present, push, List.flatMap_cons] at ih ⊢
    by_cases hcd : c = d
    · subst hcd
      rw [flatMap_update_of_not_mem hd, Function.update_self, List.append_assoc]
      exact List.perm_middle
    · have hrest := ih hds ((List.mem_cons.mp hc).resolve_left hcd)
      rw [Function.update_of_ne (Ne.symm hcd)]
      exact (hrest.append_left (s d)).trans List.perm_middle

theorem present_pop_sublist (order : List κ) (s : Lanes κ α) (c : κ) :
    (present order (pop s c)).Sublist (present order s) := by
  induction order with
  | nil => exact List.Sublist.refl _
  | cons d ds ih =>
    simp only [present, pop, List.flatMap_cons] at ih ⊢
    apply List.Sublist.append _ ih
    by_cases hcd : d = c
    · subst hcd
      rw [Function.update_self]
      exact List.tail_sublist _
    · rw [Function.update_of_ne hcd]

/-- Events in the order they happened; what is popped is always the oldest item. -/
inductive Trace (order : List κ) (s : Lanes κ α) : List (Event κ α) → Lanes κ α → Prop
  | nil : Trace order s [] s
  | push {es : List (Event κ α)} {t : Lanes κ α} (h : Trace order s es t) (c : κ) (a : α) :
    Trace order s (es ++ [.pushed c a]) (push t c a)
  | pop {es : List (Event κ α)} {t : Lanes κ α} {c : κ} {a : α} (h : Trace order s es t)
    (hold : oldest order t = some (c, a)) : Trace order s (es ++ [.popped c a]) (pop t c)

/-- The items pushed to a class. -/
def pushedTo (c : κ) (es : List (Event κ α)) : List α :=
  es.filterMap fun
    | .pushed d a => if d = c then some a else none
    | .popped _ _ => none

/-- The items popped from a class. -/
def poppedFrom (c : κ) (es : List (Event κ α)) : List α :=
  es.filterMap fun
    | .pushed _ _ => none
    | .popped d a => if d = c then some a else none

/-- In every class the items popped and those still there are the items pushed, in their order. -/
theorem Trace.conserves {order : List κ} {s t : Lanes κ α} {es : List (Event κ α)}
    (h : Trace order s es t) (c : κ) : s c ++ pushedTo c es = poppedFrom c es ++ t c := by
  induction h with
  | nil => simp [pushedTo, poppedFrom]
  | @push es t h d a ih =>
    simp only [pushedTo, poppedFrom, List.filterMap_append] at ih ⊢
    by_cases hd : d = c
    · subst hd
      simp [PriorityFifo.push, ← List.append_assoc, ih]
    · simp [PriorityFifo.push, hd, Ne.symm hd, ih]
  | @pop es t d a h hold ih =>
    simp only [pushedTo, poppedFrom, List.filterMap_append] at ih ⊢
    have hlane := oldest_eq_some hold
    by_cases hd : d = c
    · subst hd
      rw [hlane] at ih
      simp [PriorityFifo.pop, ih]
    · simp [PriorityFifo.pop, hd, Ne.symm hd, ih]

end PriorityFifo
