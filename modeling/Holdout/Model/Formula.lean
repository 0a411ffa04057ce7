/-!
# Formulas for sizes

A size may be given by a formula over symbols. Formulas are kept in one form: a sum of
multiples of different parts in the order of their texts, where a part is a symbol or what
does not break up into a sum. Two sums of the same multiples are then the same formula.

Symbols get their numbers from sizes that are seen: a formula with one symbol left that
stands outside all other parts tells its number.
-/

namespace Holdout

/-- A number by a rule over symbols. -/
inductive Formula
  | number (value : Int)
  | symbol (name : String)
  | sum (first second : Formula)
  | product (first second : Formula)
  | quotient (formula : Formula) (divisor : Nat)
  | least (first second : Formula)
  | greatest (first second : Formula)
  /-- The size of two directions of which the one of size one is repeated along the other. -/
  | joined (first second : Formula)
  deriving DecidableEq, Repr

namespace Formula

/-- A text that tells formulas apart. -/
def text : Formula → String
  | .number value => toString value
  | .symbol name => name
  | .sum first second => "(" ++ first.text ++ "+" ++ second.text ++ ")"
  | .product first second => "(" ++ first.text ++ "*" ++ second.text ++ ")"
  | .quotient formula divisor => "(" ++ formula.text ++ "/" ++ toString divisor ++ ")"
  | .least first second => "min(" ++ first.text ++ "," ++ second.text ++ ")"
  | .greatest first second => "max(" ++ first.text ++ "," ++ second.text ++ ")"
  | .joined first second => "(" ++ first.text ++ "#" ++ second.text ++ ")"

/-- A multiple of a part. -/
structure Term where
  factor : Int
  part : Formula
  deriving DecidableEq, Repr

/-- The multiples that a formula is the sum of. -/
def terms : Formula → List Term
  | .number value => [⟨value, .number 1⟩]
  | .sum first second => first.terms ++ second.terms
  | .product (.number factor) formula =>
    formula.terms.map fun term => { term with factor := factor * term.factor }
  | formula => [⟨1, formula⟩]

/-- Multiples in the order of their parts' texts with one more among them. -/
def insertTerm (term : Term) : List Term → List Term
  | [] => [term]
  | other :: rest =>
    if term.part = other.part then { other with factor := other.factor + term.factor } :: rest
    else if term.part.text < other.part.text then term :: other :: rest
    else other :: insertTerm term rest

/-- The formula for one multiple. -/
def Term.formula (term : Term) : Formula :=
  match term.part with
  | .number value => .number (term.factor * value)
  | part => if term.factor = 1 then part else .product (.number term.factor) part

/-- The sum of multiples that stand in their order. -/
def ofOrdered : List Term → Formula
  | [] => .number 0
  | [term] => term.formula
  | term :: rest => .sum term.formula (ofOrdered rest)

/-- The sum of multiples. -/
def ofTerms (terms : List Term) : Formula :=
  ofOrdered ((terms.foldr insertTerm []).filter fun term => term.factor ≠ 0)

/-- The sum of two formulas. -/
def add (first second : Formula) : Formula := ofTerms (first.terms ++ second.terms)

/-- A multiple of a formula. -/
def scale (factor : Int) (formula : Formula) : Formula :=
  ofTerms (formula.terms.map fun term => { term with factor := factor * term.factor })

/-- The difference of two formulas. -/
def subtract (first second : Formula) : Formula := first.add (second.scale (-1))

/-- Two formulas by a rule that does not ask for their order. -/
def unordered (rule : Formula → Formula → Formula) (first second : Formula) : Formula :=
  if first.text ≤ second.text then rule first second else rule second first

/-- The product of two formulas. -/
def times : Formula → Formula → Formula
  | .number factor, formula => formula.scale factor
  | formula, .number factor => formula.scale factor
  | first, second => unordered .product first second

/-- The formula divided by a number, without what is left over. -/
def divide (divisor : Nat) : Formula → Formula
  | .number value => .number (Int.tdiv value divisor)
  | formula =>
    if formula.terms.all fun term => Int.tmod term.factor divisor = 0 then
      ofTerms (formula.terms.map fun term => { term with factor := Int.tdiv term.factor divisor })
    else .quotient formula divisor

/-- The smaller one of two formulas. -/
def smaller : Formula → Formula → Formula
  | .number first, .number second => .number (min first second)
  | first, second => if first = second then first else unordered .least first second

/-- The larger one of two formulas. -/
def larger : Formula → Formula → Formula
  | .number first, .number second => .number (max first second)
  | first, second => if first = second then first else unordered .greatest first second

/-- The size of directions repeated along each other; none if they differ and neither is one. -/
def join? : Formula → Formula → Option Formula
  | .number 1, formula => some formula
  | formula, .number 1 => some formula
  | .number first, .number second => if first = second then some (.number first) else none
  | first, second => some (if first = second then first else unordered .joined first second)

/-- Numbers that symbols stand for. -/
abbrev Meaning := List (String × Int)

/-- The number of a symbol. -/
def Meaning.find? (meaning : Meaning) (name : String) : Option Int :=
  (List.find? (fun entry : String × Int => entry.1 = name) meaning).map Prod.snd

/-- The formula with numbers for the symbols that have them. Directions that turn out not to fit
are left as they are. -/
def resolve (meaning : Meaning) : Formula → Formula
  | .number value => .number value
  | .symbol name => ((meaning.find? name).map Formula.number).getD (.symbol name)
  | .sum first second => (first.resolve meaning).add (second.resolve meaning)
  | .product first second => (first.resolve meaning).times (second.resolve meaning)
  | .quotient formula divisor => (formula.resolve meaning).divide divisor
  | .least first second => (first.resolve meaning).smaller (second.resolve meaning)
  | .greatest first second => (first.resolve meaning).larger (second.resolve meaning)
  | .joined first second =>
    let first := first.resolve meaning
    let second := second.resolve meaning
    (first.join? second).getD (.joined first second)

/-- What stands beside a single symbol in a sum: its factor, its name and the number added. -/
def single? (formula : Formula) : Option (Int × String × Int) :=
  match formula.terms with
  | [⟨factor, .symbol name⟩] => some (factor, name, 0)
  | [⟨base, .number 1⟩, ⟨factor, .symbol name⟩] => some (factor, name, base)
  | [⟨factor, .symbol name⟩, ⟨base, .number 1⟩] => some (factor, name, base)
  | _ => none

/-- Meanings with what is learned from a formula having a value; none if it has another one. -/
def learn? (meaning : Meaning) (formula : Formula) (value : Int) : Option Meaning :=
  match formula.resolve meaning with
  | .number other => if other = value then some meaning else none
  | formula =>
    match formula.single? with
    | some (factor, name, base) =>
      if (value - base) % factor = 0 then some ((name, (value - base) / factor) :: meaning)
      else some meaning
    | none => some meaning

/-- The formula may have this value, as far as the meanings tell. -/
def allows (meaning : Meaning) (formula : Formula) (value : Int) : Bool :=
  match formula.resolve meaning with
  | .number other => other = value
  | _ => true

end Formula

end Holdout
