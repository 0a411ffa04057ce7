/-!
# White space

The characters with the Unicode property White_Space, and what is cut by them:
trimmed text and words.
-/

namespace Holdout
namespace Text

/-- A character with the property White_Space. -/
def isBlank (c : Char) : Bool :=
  let code := c.toNat
  (9 ≤ code && code ≤ 13) || code == 0x20 || code == 0x85 || code == 0xA0 ||
    code == 0x1680 || (0x2000 ≤ code && code ≤ 0x200A) || code == 0x2028 ||
    code == 0x2029 || code == 0x202F || code == 0x205F || code == 0x3000

/-- The characters without the white space at the end. -/
def dropBlankEnd (text : List Char) : List Char :=
  (text.reverse.dropWhile isBlank).reverse

/-- The characters without the white space at both ends. -/
def dropBlankEnds (text : List Char) : List Char :=
  dropBlankEnd (text.dropWhile isBlank)

/-- Text without the white space at its end. -/
def trimEnd (text : String) : String :=
  String.ofList (dropBlankEnd text.toList)

/-- The maximal runs of characters that are not white space, after a run already begun. -/
def wordsAfter (begun : List Char) : List Char → List (List Char)
  | [] => if begun.isEmpty then [] else [begun.reverse]
  | c :: rest =>
    if isBlank c then
      if begun.isEmpty then wordsAfter [] rest
      else begun.reverse :: wordsAfter [] rest
    else wordsAfter (c :: begun) rest

/-- The maximal runs of characters that are not white space, in order. -/
def words (text : String) : List String :=
  (wordsAfter [] text.toList).map String.ofList

end Text
end Holdout
