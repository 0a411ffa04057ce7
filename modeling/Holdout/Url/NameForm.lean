import Holdout.Text.Composed
import Holdout.Url.NameForm.Table

/-!
# Characters of names

A domain name means the same in capital and small letters, in wide and narrow ones, and with
marks composed or not. `nameForm?` gives the one form in which such names are compared.
-/

namespace Holdout
namespace Url

/-- The form of one character: none if no name may hold it. -/
def charForm? (c : Char) : Option (List Char) :=
  if c.toNat < 0x80 then some [c.toLower]
  else match shiftedForms.find? (·.contains c.toNat) with
    | some run => some [Char.ofNat (Int.toNat (c.toNat + run.shift))]
    | none =>
      match spelledForms.find? fun run => run.first ≤ c.toNat && c.toNat ≤ run.last with
      | some run =>
        ((Text.codeSequences run.words)[c.toNat - run.first]?).map fun codes =>
          codes.map Char.ofNat
      | none =>
        if Text.inRanges silentRanges c then some []
        else if Text.inRanges refusedRanges c then none
        else some [c]

/-- The form of a name. -/
def nameForm? (name : List Char) : Option (List Char) :=
  (name.mapM charForm?).map fun forms => Text.composed forms.flatten

end Url
end Holdout
