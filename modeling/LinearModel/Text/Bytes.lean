/-!
# Text in few bytes

A device with room for a number of bytes takes that many of a text, even if the last of them are
only a part of a character, which then reads as the replacement character.
-/

namespace LinearModel.Text

/-- The characters that fit, and whether that is all of them. -/
def cutChars : (room : Nat) → List Char → List Char × Bool
  | _, [] => ([], true)
  | room, c :: cs =>
    if c.utf8Size ≤ room then
      let (kept, whole) := cutChars (room - c.utf8Size) cs
      (c :: kept, whole)
    else (if room = 0 then [] else ['\ufffd'], false)

def cut (room : Nat) (s : String) : String × Bool :=
  let (kept, whole) := cutChars room s.toList
  (String.ofList kept, whole)

end LinearModel.Text
