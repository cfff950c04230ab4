/-!
# The shape of a value

Records, tuples, lists and maps as one tree, with two texts: `inline` on one line, and `block` with
one item a line, each level four columns deeper and a comma after every item.
-/

namespace LinearModel.Text

inductive Shape where
  | leaf (text : String)
  /-- A field or an entry: the label, a colon and the value. -/
  | labelled (label : String) (value : Shape)
  /-- Items between two brackets, `spaced` if a blank stands inside them on one line. -/
  | group (before after : String) (spaced : Bool) (items : List Shape)

namespace Shape

mutual

def inline : Shape → String
  | leaf text => text
  | labelled label value => label ++ ": " ++ value.inline
  | group before after _ [] => before ++ after
  | group before after spaced (item :: items) =>
    let pad := if spaced then " " else ""
    before ++ pad ++ ", ".intercalate (inlineAll (item :: items)) ++ pad ++ after

def inlineAll : List Shape → List String
  | [] => []
  | item :: items => item.inline :: inlineAll items

end

def indent (depth : Nat) : String :=
  String.ofList (List.replicate (4 * depth) ' ')

mutual

/-- The text of a value whose first line is already indented by `depth` levels. -/
def blockAt (depth : Nat) : Shape → String
  | leaf text => text
  | labelled label value => label ++ ": " ++ value.blockAt depth
  | group before after _ [] => before ++ after
  | group before after _ (item :: items) =>
    before ++ "\n" ++ blockLines (depth + 1) (item :: items) ++ indent depth ++ after

def blockLines (depth : Nat) : List Shape → String
  | [] => ""
  | item :: items =>
    indent depth ++ item.blockAt depth ++ ",\n" ++ blockLines depth items

end

def block (s : Shape) : String :=
  s.blockAt 0

def record (name : String) (fields : List (String × Shape)) : Shape :=
  group (name ++ " \x7b") "\x7d" true (fields.map fun (label, value) => labelled label value)

/-- A constructor with its arguments; a bare tuple where the name is empty. -/
def tuple (name : String) (items : List Shape) : Shape :=
  group (name ++ "(") ")" false items

def list (items : List Shape) : Shape :=
  group "[" "]" false items

def map (entries : List (String × Shape)) : Shape :=
  group "\x7b" "\x7d" false (entries.map fun (key, value) => labelled key value)

def nat (n : Nat) : Shape :=
  leaf (toString n)

def int (n : Int) : Shape :=
  leaf (toString n)

def bool (b : Bool) : Shape :=
  leaf (toString b)

def option (value : Option Shape) : Shape :=
  match value with
  | none => leaf "None"
  | some value => tuple "Some" [value]

end Shape

class Shaped (α : Type) where
  shape : α → Shape

export Shaped (shape)

end LinearModel.Text
