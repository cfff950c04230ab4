/-!
# Lines

A line ends at a line feed, with or without a carriage return before it. After the last line end
there is no further, empty line.
-/

namespace LinearModel.Text

/-- The characters before the first line feed, and those after it, if there is one. -/
def splitLine : List Char → List Char × Option (List Char)
  | [] => ([], none)
  | c :: cs =>
    if c = '\n' then ([], some cs)
    else
      let (line, rest) := splitLine cs
      (c :: line, rest)

theorem length_splitLine {cs line rest : List Char} (h : splitLine cs = (line, some rest)) :
    rest.length < cs.length := by
  induction cs generalizing line with
  | nil => simp [splitLine] at h
  | cons c cs ih =>
    simp only [splitLine] at h
    split at h
    · cases h
      simp
    · cases hs : splitLine cs with
      | mk l r =>
        rw [hs] at h
        cases h
        exact Nat.lt_succ_of_lt (ih hs)

def dropReturn (line : List Char) : List Char :=
  if line.getLast? = some '\r' then line.dropLast else line

def linesOf (cs : List Char) : List (List Char) :=
  match _h : splitLine cs with
  | ([], none) => []
  | (line, none) => [line]
  | (line, some rest) => dropReturn line :: linesOf rest
termination_by cs.length
decreasing_by exact length_splitLine _h

def lines (s : String) : List String :=
  (linesOf s.toList).map String.ofList

end LinearModel.Text
