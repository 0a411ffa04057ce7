/-!
# Padded text

Text cut to a greatest number of characters and filled with spaces up to a width.
-/

namespace Holdout
namespace Text

/-- Where the text stands in a wider field. -/
inductive Alignment
  | left
  | center
  | right
  deriving DecidableEq

/-- So many spaces. -/
def spaces (count : Nat) : String := String.ofList (List.replicate count ' ')

/-- Text in a field of at least `width` characters; a centred text leaves the odd space to its right. -/
def pad (alignment : Alignment) (width : Nat) (text : String) : String :=
  let missing := width - text.length
  match alignment with
  | .left => text ++ spaces missing
  | .right => spaces missing ++ text
  | .center => spaces (missing / 2) ++ text ++ spaces (missing - missing / 2)

/-- Text cut to at most `precision` characters, then padded. -/
def cutAndPad (alignment : Alignment) (width : Nat) (precision : Option Nat) (text : String) :
    String :=
  match precision with
  | none => pad alignment width text
  | some count => pad alignment width (String.ofList (text.toList.take count))

end Text
end Holdout
