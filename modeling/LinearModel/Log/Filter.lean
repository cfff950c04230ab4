import LinearModel.Log

/-!
# Log filters

A filter is a list of directives, written between commas. A directive may name the start of a
target, a span in brackets with fields in braces, and a level after an equals sign, as in
`target[span{field}]=level`. Of the directives that concern an event the most specific one decides
whether it shows.
-/

namespace LinearModel

structure Directive where
  target : Option String := none
  fields : List String := []
  /-- A directive for a span, or for the value of a field, concerns no event. -/
  idle : Bool := false
  /-- The greatest rank of level that shows; at zero nothing does. -/
  rank : Nat := Level.trace.rank

namespace Directive

def rankOf? (text : String) : Option Nat :=
  match Text.readNat? text with
  | some n => if n ≤ Level.trace.rank then some n else none
  | none =>
    [("off", 0), ("error", 1), ("warn", 2), ("info", 3), ("debug", 4), ("trace", 5)].lookup
      text.toLower

def isBlank (c : Char) : Bool :=
  let n := c.toNat
  c = ' ' || (0x9 ≤ n && n ≤ 0xD) || (0x2000 ≤ n && n ≤ 0x200A) ||
    [0x85, 0xA0, 0x1680, 0x2028, 0x2029, 0x202F, 0x205F, 0x3000].contains n

def withLevel (d : Directive) (s : List Char) : Option Directive :=
  if s.isEmpty then some d
  else (rankOf? (String.ofList s)).map fun rank => { d with rank }

def afterSpan (d : Directive) : List Char → Option Directive
  | '=' :: s => d.withLevel s
  | s => if s.all isBlank then some d else none

def withField (d : Directive) (s : List Char) : Option Directive :=
  match s.span (· ≠ '}') with
  | (field@(_ :: _), '}' :: ']' :: s) =>
    let (name, value) := field.span (· ≠ '=')
    { d with fields := [String.ofList name], idle := d.idle || !value.isEmpty }.afterSpan s
  | _ => none

def withSpan (d : Directive) (s : List Char) : Option Directive :=
  match s.span fun c => c ≠ ']' && c ≠ '{' with
  | (_, ']' :: s) => { d with idle := true }.afterSpan s
  | (name, '{' :: s) => { d with idle := !name.isEmpty }.withField s
  | _ => none

def startsTarget (c : Char) : Bool :=
  c.isAlphanum || ['-', ':', '_'].contains c || 0x80 ≤ c.toNat

/-- A word alone is a level if it can be, and else a target. -/
def ofBody? : List Char → Option Directive
  | [] => none
  | '[' :: s => withSpan {} s
  | c :: s =>
    if startsTarget c then
      let (word, rest) := (c :: s).span fun c => c ≠ '=' && c ≠ '['
      let word := String.ofList word
      match rest with
      | '=' :: s => withLevel { target := some word } s
      | '[' :: s => withSpan { target := some word } s
      | _ =>
        match rankOf? word with
        | some rank => some { rank }
        | none => some { target := some word }
    else none

/-- Blanks in front spoil a directive: its level cannot be read, and if it has none, then it
concerns no event. -/
def ofText? (text : String) : Option Directive :=
  match text.toList.span isBlank with
  | ([], body) => ofBody? body
  | (_, body) =>
    if body.contains '=' then none
    else (ofBody? body).map fun d => { d with idle := true }

def concerns (d : Directive) (e : Event) : Bool :=
  !d.idle && (d.target.all fun t => t.toList.isPrefixOf e.target.toList) &&
    d.fields.all e.fieldNames.contains

/-- Targets count before fields, and the longer the more specific. -/
def atMostAsSpecific (a b : Directive) : Bool :=
  let size (d : Directive) := (d.target.map (·.utf8ByteSize + 1)).getD 0
  if size a ≠ size b then size a < size b
  else if a.fields.length ≠ b.fields.length then a.fields.length < b.fields.length
  else !decide (b.fields < a.fields)

end Directive

abbrev Filter := List Directive

namespace Filter

def pieces (text : String) : List String :=
  (text.splitOn ",").filter (· ≠ "")

def parse? (text : String) : Option Filter :=
  (pieces text).mapM Directive.ofText?

def lenient (text : String) : Filter :=
  (pieces text).filterMap Directive.ofText?

def default : Filter := [{ rank := Level.warn.rank }]

/-- A setting that is missing or cannot be read counts as the usual one. -/
def ofSetting (setting : Option String) : Filter :=
  (setting >>= parse?).getD default

/-- The most specific directive that concerns the event; of equally specific ones the last. -/
def deciding? (f : Filter) (e : Event) : Option Directive :=
  (f.filter (·.concerns e)).foldl (fun best d =>
    match best with
    | some b => if b.atMostAsSpecific d then some d else some b
    | none => some d) none

def shows (f : Filter) (e : Event) : Bool :=
  match f.deciding? e with
  | some d => e.level.rank ≤ d.rank
  | none => false

def lines (f : Filter) (log : Log) : List String :=
  (log.filter f.shows).map Event.line

end Filter

end LinearModel
