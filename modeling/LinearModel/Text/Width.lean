import LinearModel.Halt
import LinearModel.Text.Quoted
import LinearModel.Text.WidthTable

/-!
# Widths

The columns of a terminal that a text fills. Characters are taken from the last to the first, and
what a character adds depends on what begins after it: the letters of a ligature share one column,
the characters of a joined picture share two, and a selector chooses between picture and text.
-/

namespace LinearModel.Text

open CharTable (mem)

def joiner : Char := '\u200d'
def textSelector : Char := '\ufe0e'
def pictureSelector : Char := '\ufe0f'

def between (first last : Nat) (c : Char) : Bool :=
  first ≤ c.toNat && c.toNat ≤ last

def charWidth (c : Char) : Nat :=
  if mem WidthTable.columnless c then 0
  else if mem WidthTable.wide c then 2
  else 1

/-! ## What begins after a character -/

inductive Ligature where
  | alef
  | lamed
  | buginese
  | bugineseVowel
  | khmer
  | lisu
  | tifinagh
  | tifinaghJoined
  | turkic
deriving DecidableEq

inductive Picture where
  | picture
  | skin
  | joined
  | joinedKeycap
  | region
  | regions
  /-- Letters for a region before a joined picture: one, an even and an odd number of them. -/
  | joinedRegion
  | evenRegions
  | oddRegions
deriving DecidableEq

inductive Begun where
  | nothing
  | ligature (l : Ligature) (joined : Bool)
  | picture (p : Picture)
deriving DecidableEq

inductive Selector where
  | none
  | text
  | picture
deriving DecidableEq

/-- What begins after a character, and a selector right after it. -/
structure Ahead where
  begun : Begun := .nothing
  selector : Selector := .none
deriving DecidableEq

namespace Begun

def isLigature : Begun → Bool
  | ligature _ _ => true
  | nothing | picture _ => false

/-- A selector interrupts anything but a ligature. -/
def behindSelector (b : Begun) : Begun :=
  if b.isLigature then b else nothing

/-- A selector for a picture may also stand before a joined picture. -/
def behindPictureSelector : Begun → Begun
  | picture .joined => picture .joined
  | picture .joinedKeycap => picture .joinedKeycap
  | b => b.behindSelector

def isJoined (b : Begun) : Bool :=
  b = picture .joined || b = picture .joinedKeycap

end Begun

def isRegion : Char → Bool := between 0x1F1E6 0x1F1FF
def isSkin : Char → Bool := between 0x1F3FB 0x1F3FF

def begins (c : Char) : Ahead :=
  if c = textSelector then { selector := .text }
  else if c = pictureSelector then { selector := .picture }
  else if isSkin c then ⟨.picture .skin, .none⟩
  else if isRegion c then ⟨.picture .region, .none⟩
  else if mem WidthTable.pictures c then ⟨.picture .picture, .none⟩
  else
    match ligatures.find? fun (_, letters) => mem letters c with
    | some (l, _) => ⟨.ligature l false, .none⟩
    | none => {}
where
  ligatures : List (Ligature × Array (Nat × Nat)) := [
    (.alef, #[(0x622, 0x623), (0x625, 0x625), (0x627, 0x627), (0x671, 0x673), (0x675, 0x675),
      (0x773, 0x774), (0x870, 0x882)]),
    (.lamed, #[(0x5DC, 0x5DC)]),
    (.buginese, #[(0x1A10, 0x1A10)]),
    (.khmer, #[(0x1780, 0x1782), (0x1784, 0x1787), (0x1789, 0x178C), (0x178E, 0x1793),
      (0x1795, 0x1798), (0x179B, 0x179D), (0x17A0, 0x17A0), (0x17A2, 0x17A2), (0x17A7, 0x17A7),
      (0x17AB, 0x17AC), (0x17AF, 0x17AF)]),
    (.lisu, #[(0xA4FC, 0xA4FD)]),
    (.tifinagh, #[(0x2D31, 0x2D65), (0x2D6F, 0x2D6F)]),
    (.turkic, #[(0x10C03, 0x10C03)])]

def tifinaghJoiner : Char := '\u2d7f'

def isTifinagh (c : Char) : Bool :=
  between 0x2D31 0x2D65 c || c = '\u2d6f'

def isLam : Char → Bool :=
  mem #[(0x644, 0x644), (0x6B5, 0x6B8), (0x76A, 0x76A), (0x8A6, 0x8A6), (0x8C7, 0x8C7)]

def isLigatureMark : Char → Bool :=
  mem #[(0x34F, 0x34F), (0x17B4, 0x17B5), (0x180B, 0x180D), (0x180F, 0x180F), (0xFE00, 0xFE0F),
    (0xE0100, 0xE01EF)]

def beforeLigature (c : Char) : Ligature → Bool → Option (Int × Begun)
  | .alef, joined =>
    if isLam c then some (0, .nothing)
    else if mem WidthTable.columnless c && !mem WidthTable.breaking c then
      some (0, .ligature .alef joined)
    else none
  | l, joined =>
    if c = joiner then some (0, .ligature l true)
    else if isLigatureMark c then some (0, .ligature l joined)
    else
      match l, joined with
      | .lamed, true => if c = '\u05d0' then some (0, .nothing) else none
      | .khmer, _ => if c = '\u17d2' then some (-1, .nothing) else none
      | .buginese, true => if c = '\u1a17' then some (0, .ligature .bugineseVowel true) else none
      | .bugineseVowel, _ => if c = '\u1a15' then some (0, .nothing) else none
      | .lisu, _ => if between 0xA4F8 0xA4FB c then some (0, .nothing) else none
      | .tifinagh, joined =>
        if c = tifinaghJoiner then some (1, .ligature .tifinaghJoined true)
        else if joined && isTifinagh c then some (0, .nothing)
        else none
      | .tifinaghJoined, _ => if isTifinagh c then some (-1, .nothing) else none
      | .turkic, true => if c.toNat = 0x10C32 then some (0, .nothing) else none
      | _, _ => none

def beforePicture (c : Char) (p : Picture) : Option (Int × Begun) :=
  match p with
  | .skin =>
    if mem WidthTable.skinned c then some (0, .picture .picture)
    else if c = joiner then some (0, .picture .joined)
    else none
  | .region => if isRegion c then some (1, .picture .regions) else none
  | .regions =>
    if isRegion c then some (1, .picture .regions)
    else if c = joiner then some (0, .picture .joined)
    else none
  | .picture => if c = joiner then some (0, .picture .joined) else none
  | .joined =>
    if c = '\u20e3' then some (0, .picture .joinedKeycap)
    else if isRegion c then some (1, .picture .joinedRegion)
    else if isSkin c then some (0, .picture .skin)
    else if mem WidthTable.pictures c then some (0, .picture .picture)
    else none
  | .joinedKeycap => none
  | .joinedRegion => if isRegion c then some (-1, .picture .evenRegions) else none
  | .evenRegions =>
    if isRegion c then some (3, .picture .oddRegions)
    else if c = joiner then some (0, .picture .joined)
    else none
  | .oddRegions =>
    if isRegion c then some (-1, .picture .evenRegions)
    else if c = joiner then some (0, .picture .joined)
    else none

def before (c : Char) (b : Begun) : Int × Ahead :=
  let shared := match b with
    | .nothing => none
    | .ligature l joined => beforeLigature c l joined
    | .picture p => beforePicture c p
  match shared with
  | some (n, b) => (n, ⟨b, .none⟩)
  | none => (charWidth c, begins c)

/-- What a character adds to the width of what follows it. -/
def prepend (c : Char) (ahead : Ahead) : Int × Ahead :=
  if ahead.selector = .picture && (mem WidthTable.signs c || mem WidthTable.textable c) then
    (if ahead.begun.isJoined then 0 else 2, ⟨.picture .picture, .none⟩)
  else
    let begun := if ahead.selector = .none then ahead.begun else ahead.begun.behindSelector
    if c.toNat ≤ 0xA0 then (1, {})
    else if c = pictureSelector then (0, ⟨begun.behindPictureSelector, .picture⟩)
    else if c = textSelector then (0, ⟨begun.behindSelector, .text⟩)
    else if ahead.selector = .text && mem WidthTable.textable c then (1, {})
    else before c begun

def plainWidth (s : List Char) : Nat :=
  (s.foldr (fun c (sum, ahead) =>
    let (n, ahead) := prepend c ahead
    (sum + n, ahead)) ((0 : Int), ({} : Ahead))).1.toNat

/-! ## Colours -/

inductive ColourSequence where
  | outside
  | escaped
  | inside

def isControl (c : Char) : Bool :=
  c.toNat < 0x20 || between 0x7F 0x9F c

/-- The characters with a column of their own from a bracket behind an escape character to the next
letter `m`. They set colours and are not seen. -/
def hiddenFrom : ColourSequence → List Char → Nat
  | _, [] => 0
  | .outside, c :: cs => hiddenFrom (if c = '\x1b' then .escaped else .outside) cs
  | .escaped, c :: cs => if c = '[' then 1 + hiddenFrom .inside cs else hiddenFrom .outside cs
  | .inside, c :: cs =>
    (if isControl c || charWidth c = 0 then 0 else 1) +
      hiddenFrom (if c = 'm' then .outside else .inside) cs

def hidden (s : List Char) : Nat :=
  hiddenFrom .outside s

def width (s : String) : Nat :=
  plainWidth s.toList - hidden s.toList

/-- A text in which more is hidden than it is wide has no width. -/
def checkWidth (s : String) : Except Halt Unit :=
  let all := plainWidth s.toList
  let unseen := hidden s.toList
  if unseen ≤ all then .ok () else .error (.hidden all unseen (quoted s))

end LinearModel.Text
