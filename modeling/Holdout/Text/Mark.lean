import Holdout.Text.Lowercase
import Holdout.Text.Mark.Table

/-!
# Marks

Characters that are written on, around or beside the one before them.
-/

namespace Holdout
namespace Text

/-- A mark that takes no room of its own. -/
def isNonspacing (c : Char) : Bool := inRanges nonspacingMarks c

/-- A mark. -/
def isMark (c : Char) : Bool := isNonspacing c || inRanges spacingMarks c

end Text
end Holdout
