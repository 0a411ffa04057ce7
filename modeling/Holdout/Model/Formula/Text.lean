import Holdout.Model.Formula
import Holdout.Word

/-!
# Texts of formulas

A formula is written with at most one sign of each kind in a row: a sum of differences of
products of quotients. What is joined by signs is a number, a name, the opposite of such a
part, a formula in brackets, or the least or greatest of several formulas. Blanks may stand
around signs and brackets.
-/

namespace Holdout

/-- Why a text gives no formula. -/
inductive FormulaError
  | unreadable
  | divisionByZero
  deriving DecidableEq, Repr

namespace FormulaText

/-- What was read, or why there is nothing. -/
abbrev Reading := Except FormulaError

/-- A way to read a formula; with it come the characters behind it. -/
abbrev Reader := List Char → Reading (Formula × List Char)

/-- Characters that may stand around a sign. -/
def isBlank (char : Char) : Bool := char = ' ' ∨ char = '\t' ∨ char = '\r' ∨ char = '\n'

/-- Characters of a name behind its first one. -/
def isNamePart (char : Char) : Bool := char.isAlphanum ∨ char = '_'

/-- The characters behind a sign and the blanks around it. -/
def readSign? (sign : String) (text : List Char) : Option (List Char) :=
  let rest := text.dropWhile isBlank
  if sign.toList.isPrefixOf rest then some ((rest.drop sign.length).dropWhile isBlank) else none

/-- Read a number of 64 bits. -/
def readNumber? (text : List Char) : Option (Nat × List Char) :=
  let digits := text.takeWhile Char.isDigit
  let value := digits.foldl (fun total digit => 10 * total + (digit.toNat - '0'.toNat)) 0
  if digits = [] ∨ Word.signedLimit ≤ value then none else some (value, text.drop digits.length)

/-- Read a name. -/
def readName? : List Char → Option (String × List Char)
  | first :: rest =>
    if first.isAlpha ∨ first = '_' then
      some (String.ofList (first :: rest.takeWhile isNamePart), rest.dropWhile isNamePart)
    else none
  | [] => none

/-- The second reading where the first one finds nothing. -/
def orElse (first : Reading α) (second : Unit → Reading α) : Reading α :=
  match first with
  | .error .unreadable => second ()
  | found => found

/-- What may be there, or nothing. -/
def expected (found : Option α) : Reading α :=
  match found with
  | some value => .ok value
  | none => .error .unreadable

/-- Read an operand, or two of them with a sign between. -/
def readPair (sign : String) (rule : Formula → Formula → Formula)
    (operand : Reader) : Reader := fun text => do
  let (first, rest) ← operand text
  orElse (do
    let behind ← expected (readSign? sign rest)
    let (second, rest) ← operand behind
    return (rule first second, rest))
    fun _ => return (first, rest)

/-- Read a part, or its quotient by a number. -/
def readQuotient (part : Reader) : Reader := fun text => do
  let (formula, rest) ← part text
  match (readSign? "/" rest).bind readNumber? with
  | none => return (formula, rest)
  | some (0, _) => throw .divisionByZero
  | some (divisor, rest) => return (formula.divide divisor, rest)

/-- Read a sum, by a reader of its innermost parts. -/
def readSum (part : Reader) : Reader :=
  readPair "+" .add (readPair "-" .subtract (readPair "*" .times (readQuotient part)))

/-- Read more formulas, each behind a comma; there are at most `fuel` of them. -/
def readOthers (formula : Reader) :
    Nat → List Char → Reading (List Formula × List Char)
  | 0, text => return ([], text)
  | fuel + 1, text =>
    orElse (do
      let behind ← expected (readSign? "," text)
      let (first, rest) ← formula behind
      let (others, rest) ← readOthers formula fuel rest
      return (first :: others, rest))
      fun _ => return ([], text)

/-- Read formulas in brackets behind a word, and put them together by a rule. -/
def readCall (word : String) (rule : Formula → Formula → Formula)
    (formula : Reader) : Reader := fun text => do
  let behind ← expected ((readSign? word text).bind (readSign? "("))
  let (first, rest) ← formula behind
  let (others, rest) ← readOthers formula rest.length rest
  return (others.foldl rule first, ← expected (readSign? ")" rest))

/-- Read a part of a sum, which has less than `fuel` parts inside each other. -/
def readPart : Nat → Reader
  | 0, _ => .error .unreadable
  | fuel + 1, text =>
    let formula := readSum (readPart fuel)
    let number := (expected (readNumber? text)).map fun (value, rest) =>
      (Formula.number value, rest)
    let name := (expected (readName? text)).map fun (name, rest) => (Formula.symbol name, rest)
    let opposite := fun _ => do
      let (part, rest) ← readPart fuel (← expected (readSign? "-" text))
      return (part.scale (-1), rest)
    let bracket := fun _ => do
      let (inner, rest) ← formula (← expected (readSign? "(" text))
      return (inner, ← expected (readSign? ")" rest))
    orElse number fun _ =>
    orElse (readCall "min" .smaller formula text) fun _ =>
    orElse (readCall "max" .larger formula text) fun _ =>
    orElse (readCall "floor" (fun first _ => first) formula text) fun _ =>
    orElse name fun _ => orElse (opposite ()) bracket

end FormulaText

/-- The formula that a text writes. -/
def Formula.read (text : String) : Except FormulaError Formula :=
  match FormulaText.readSum (FormulaText.readPart (text.length + 1)) text.toList with
  | .ok (formula, []) => .ok formula
  | .ok _ => .error .unreadable
  | .error error => .error error

end Holdout
