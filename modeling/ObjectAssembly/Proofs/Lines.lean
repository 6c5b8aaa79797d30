import ObjectAssembly.Help
import Mathlib.Algebra.Ring.Nat

/-!
# Lines — cutting a text at its line feeds

A text made of lines, each with its line end, has exactly these lines, unless one of them has a line
feed of its own: each such line feed makes one line more.
-/

namespace ObjectAssembly.Text

/-- The text has no line feed. -/
def IsLine (s : String) : Prop := '\n' ∉ s.toList

instance (s : String) : Decidable (IsLine s) := inferInstanceAs (Decidable ('\n' ∉ s.toList))

theorem isLine_append {s t : String} : IsLine (s ++ t) ↔ IsLine s ∧ IsLine t := by
  simp [IsLine]

/-- Texts with a line between any two of them are a line iff they all are. -/
theorem isLine_intercalate_iff {sep : String} (hsep : IsLine sep) {ls : List String} :
    IsLine (sep.intercalate ls) ↔ ∀ l ∈ ls, IsLine l := by
  induction ls with
  | nil => simp [IsLine]
  | cons l ls ih =>
    rw [List.forall_mem_cons, ← ih]
    by_cases hls : ls = []
    · simp [hls, IsLine]
    · rw [String.intercalate_cons_of_ne_nil hls, isLine_append, isLine_append]
      simp only [hsep, and_true]

/-- The lines of a text, each ended by a line feed; what stands behind the last line feed is a line if
there is anything. -/
def splitLines : List Char → List (List Char)
  | [] => []
  | c :: cs =>
    if c = '\n' then [] :: splitLines cs
    else
      match splitLines cs with
      | [] => [[c]]
      | line :: rest => (c :: line) :: rest

/-- The lines of a text. -/
def lines (s : String) : List String := (splitLines s.toList).map String.ofList

section Characters

variable {cs rest : List Char}

theorem splitLines_append (h : '\n' ∉ cs) :
    splitLines (cs ++ '\n' :: rest) = cs :: splitLines rest := by
  induction cs with
  | nil => simp [splitLines]
  | cons c cs ih =>
    rw [List.mem_cons, not_or] at h
    rw [List.cons_append, splitLines, if_neg (Ne.symm h.1), ih h.2]

theorem length_splitLines_append (cs rest : List Char) :
    (splitLines (cs ++ '\n' :: rest)).length = 1 + cs.count '\n' + (splitLines rest).length := by
  induction cs with
  | nil => simp [splitLines, Nat.add_comm]
  | cons c cs ih =>
    rw [List.cons_append, splitLines]
    by_cases hc : c = '\n'
    · rw [if_pos hc, List.length_cons, ih, hc, List.count_cons_self]
      omega
    · rw [if_neg hc, List.count_cons_of_ne hc, ← ih]
      -- the rest has a line, which the character belongs to
      cases hrest : splitLines (cs ++ '\n' :: rest) with
      | nil =>
        rw [hrest, List.length_nil] at ih
        omega
      | cons line more => rfl

end Characters

variable {l : String} {ls : List String}

theorem toList_unlines_cons (l : String) (ls : List String) :
    (unlines (l :: ls)).toList = l.toList ++ '\n' :: (unlines ls).toList := by
  simp [unlines]

/-- Texts without line feeds are the lines of what they are put together to. -/
theorem lines_unlines (h : ∀ l ∈ ls, IsLine l) : lines (unlines ls) = ls := by
  induction ls with
  | nil => rfl
  | cons l ls ih =>
    obtain ⟨hl, hls⟩ := List.forall_mem_cons.mp h
    have hrest : lines (unlines ls) = ls := ih hls
    rw [lines, toList_unlines_cons, splitLines_append hl, List.map_cons, String.ofList_toList]
    exact congrArg (l :: ·) hrest

/-- Every line feed in one of the texts makes one more line. -/
theorem length_lines_unlines (ls : List String) :
    (lines (unlines ls)).length = ls.length + (ls.map (·.toList.count '\n')).sum := by
  induction ls with
  | nil => rfl
  | cons l ls ih =>
    rw [lines, List.length_map] at ih ⊢
    rw [toList_unlines_cons, length_splitLines_append, ih]
    simp only [List.length_cons, List.map_cons, List.sum_cons]
    omega

theorem unlines_eq_empty_iff : unlines ls = "" ↔ ls = [] := by
  cases ls with
  | nil => simp [unlines]
  | cons l ls => simp [unlines, String.append_eq_empty_iff]

end ObjectAssembly.Text
