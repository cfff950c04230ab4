import LinearModel.Solution
import LinearModel.Text.Quoted
import LinearModel.Text.Table

/-!
# Reports

Named values of a solution with its objective, as a table below a title.
-/

namespace LinearModel

open Text (Shape)

structure Report (R : Type) where
  title : String
  values : List (String × R)
  objective : R
  optimal : Bool

namespace Report

variable {R : Type}

/-- Looks the named variables up; the first without a value is an error. -/
def ofSolution (title : String) (s : Solution R) (named : List (String × Var R)) :
    Except Error (Report R) := do
  let values ← named.mapM fun (name, v) => return (name, ← s.value v)
  return ⟨title, values, s.objective, s.optimal⟩

/-- Writes titles and rows as one text. -/
abbrev TableWriter := List String → List (List String) → String

def textWith [Numeral R] (table : TableWriter) (r : Report R) : String :=
  let rows := r.values.map fun (name, value) => [name, Numeral.plain value]
  let remark := if r.optimal then "" else " (not proven optimal)"
  s!"{r.title}:\n" ++ table ["Variable", "Value"] rows ++
    s!"Objective: {Numeral.plain r.objective}{remark}\n"

def text [Numeral R] (r : Report R) : String :=
  r.textWith Text.Table.text

def checkWidths (r : Report R) : Except Halt Unit :=
  (r.values.flatMap fun (name, _) => Text.lines name).forM Text.checkWidth

instance [Numeral R] : Text.Shaped (Report R) where
  shape r := Shape.record "Report"
    [("title", .leaf (Text.quoted r.title)),
      ("values", .list (r.values.map fun (name, value) =>
        Shape.tuple "" [.leaf (Text.quoted name), .leaf (Numeral.precise value)])),
      ("objective", .leaf (Numeral.precise r.objective)), ("optimal", .bool r.optimal)]

end Report

end LinearModel
