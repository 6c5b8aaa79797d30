/-!
# Similarity — how alike two words are, and the word that was probably meant

Two words are compared by the characters they share at nearby places: their share of either word,
and how many of them stand in the same order, give three ratios whose mean is the similarity.  Words
that are alike already come closer with each of the first four characters that agree.  Similarities
are exact ratios of natural numbers.
-/

namespace ObjectAssembly.Text

/-- A ratio of two natural numbers. -/
structure Ratio where
  num : Nat
  den : Nat
  deriving DecidableEq, Repr

/-- One ratio is greater than another. -/
def Ratio.exceeds (x y : Ratio) : Bool := decide (y.num * x.den < x.num * y.den)

/-- Marks the first unmarked place of a character between two positions. -/
def mark? (c : Char) (first last : Nat) : Nat → List (Char × Bool) → Option (List (Char × Bool))
  | _, [] => none
  | i, p :: rest =>
    if first ≤ i ∧ i ≤ last ∧ p = (c, false) then some ((c, true) :: rest)
    else (mark? c first last (i + 1) rest).map (p :: ·)

/-- The characters that find a partner at most `reach` places away, and the other word with the
partners marked. -/
def partners (reach : Nat) :
    Nat → List Char → List (Char × Bool) → List Char × List (Char × Bool)
  | _, [], marked => ([], marked)
  | i, c :: rest, marked =>
    match mark? c (i - reach) (i + reach) 0 marked with
    | none => partners reach (i + 1) rest marked
    | some marked =>
      let (found, marked) := partners reach (i + 1) rest marked
      (c :: found, marked)

/-- The mean of the three ratios. -/
def sharedCharacters (a b : List Char) : Ratio :=
  let (found, marked) := partners (max a.length b.length / 2 - 1) 0 a (b.map (·, false))
  let others := (marked.filter (·.2)).map (·.1)
  let matched := found.length
  let displaced := (found.zip others).countP (fun p => p.1 != p.2) / 2
  if matched = 0 then ⟨0, 1⟩
  else
    ⟨matched * matched * (a.length + b.length) + (matched - displaced) * a.length * b.length,
      3 * a.length * b.length * matched⟩

/-- How many of the first four characters agree, up to the first that does not. -/
def sharedBeginning (a b : List Char) : Nat :=
  (((a.take 4).zip b).takeWhile fun p => p.1 == p.2).length

/-- The similarity of two words. -/
def similarity (a b : String) : Ratio :=
  let r := sharedCharacters a.toList b.toList
  if r.exceeds ⟨7, 10⟩ then
    ⟨10 * r.num + sharedBeginning a.toList b.toList * (r.den - r.num), 10 * r.den⟩
  else r

/-- The known word most like the given one, of those that are more than four fifths alike. -/
def meant? (word : String) (known : List String) : Option String :=
  known.foldl (fun best k =>
    let least := match best with
      | none => ⟨4, 5⟩
      | some b => similarity word b
    if (similarity word k).exceeds least then some k else best) none

end ObjectAssembly.Text
