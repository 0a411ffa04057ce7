import Holdout.Proofs.NameMap
import Holdout.Proofs.Text.Bytes
import Holdout.Proofs.Text.Numeral
import Holdout.Record

/-!
# Images and their labels

A sample is an image record just if it has an image and tells no class that cannot be read. A class is
a numeral of 64 bits between white space, so every decimal text of such an integer is read back, and
no other number ever becomes a label.
-/

namespace Holdout

/-- An integer of 64 bits. -/
structure IsLong (value : Int) : Prop where
  lower : -(Word.signedLimit : Int) ≤ value
  upper : value < Word.signedLimit

instance (value : Int) : Decidable (IsLong value) :=
  decidable_of_iff (-(Word.signedLimit : Int) ≤ value ∧ value < Word.signedLimit)
    ⟨fun ⟨lower, upper⟩ => ⟨lower, upper⟩, fun ⟨lower, upper⟩ => ⟨lower, upper⟩⟩

/-- Bytes in which a text stands between white space. -/
def HoldsBetweenBlanks (bytes : ByteArray) (text : List Char) : Prop :=
  ∃ front behind, Text.AllBlank front ∧ Text.AllBlank behind ∧
    bytes = (String.ofList (front ++ text ++ behind)).toUTF8

/-- Bytes that tell a class: a numeral of 64 bits between white space. -/
structure TellsClass (bytes : ByteArray) (value : Int) : Prop where
  written : ∃ numeral, Text.IsNumeral numeral value ∧ HoldsBetweenBlanks bytes numeral
  isLong : IsLong value

/-- The encoded image among the members of a sample: the one named `jpg` only if none is named
`jpeg`. -/
inductive IsImageOf (members : NameMap ByteArray) : ByteArray → Prop
  | jpeg {data : ByteArray} : members.find? "jpeg" = some data → IsImageOf members data
  | jpg {data : ByteArray} :
      members.find? "jpeg" = none → members.find? "jpg" = some data → IsImageOf members data

/-- The class that the members of a sample tell; there is none without a member for it. -/
inductive IsClassOf (members : NameMap ByteArray) : Option Int → Prop
  | unsaid : members.find? "cls" = none → IsClassOf members none
  | told {bytes : ByteArray} {value : Int} :
      members.find? "cls" = some bytes → TellsClass bytes value → IsClassOf members (some value)

section Reading

variable {bytes : ByteArray} {text : List Char} {value : Int}

theorem inLabelRange_iff : inLabelRange value = true ↔ IsLong value := by
  rw [inLabelRange, Bool.and_eq_true, decide_eq_true_iff, decide_eq_true_iff]
  exact ⟨fun ⟨lower, upper⟩ => ⟨lower, upper⟩, fun ⟨lower, upper⟩ => ⟨lower, upper⟩⟩

/-- A label is read from a numeral between white space if it has 64 bits. -/
theorem readLabel?_of_holds
    (numeral : Text.IsNumeral text value)
    (holds : HoldsBetweenBlanks bytes text) :
    readLabel? bytes = if inLabelRange value then some value else none := by
  obtain ⟨front, behind, blankFront, blankBehind, same⟩ := holds
  rw [readLabel?, Text.fromUTF8?_eq_some_iff.mpr same, Option.bind_eq_bind, Option.bind_some,
    String.toList_ofList, Text.dropBlankEnds_append blankFront numeral.isTrimmed blankBehind,
    Text.integer?_eq_some_iff.mpr numeral]
  rfl

/-- Just the bytes that tell a class are read as a label. -/
theorem readLabel?_eq_some_iff : readLabel? bytes = some value ↔ TellsClass bytes value := by
  constructor
  · intro read
    simp only [readLabel?, Option.bind_eq_bind, Option.bind_eq_some_iff,
      Option.ite_none_right_eq_some, Option.some.injEq] at read
    obtain ⟨text, isText, number, isNumber, inRange, same⟩ := read
    rw [same] at isNumber inRange
    obtain ⟨front, behind, blankFront, blankBehind, split⟩ :=
      Text.exists_eq_append_dropBlankEnds text.toList
    refine ⟨⟨_, Text.integer?_eq_some_iff.mp isNumber, front, behind, blankFront, blankBehind, ?_⟩,
      inLabelRange_iff.mp inRange⟩
    rw [← split, String.ofList_toList]
    exact Text.fromUTF8?_eq_some_iff.mp isText
  · rintro ⟨⟨numeral, isNumeral, holds⟩, isLong⟩
    rw [readLabel?_of_holds isNumeral holds, if_pos (inLabelRange_iff.mpr isLong)]

end Reading

namespace ImageRecord

section OfSample

variable {members : NameMap ByteArray} {sample : Sample}

theorem imageMember?_eq_some_iff {data : ByteArray} :
    imageMember? members = some data ↔ IsImageOf members data := by
  rw [imageMember?]
  constructor
  · intro found
    split at found
    · rename_i image isImage
      rw [found] at isImage
      exact .jpeg isImage
    · rename_i missing
      exact .jpg missing found
  · rintro (found | ⟨missing, found⟩)
    · rw [found]
    · rw [missing]
      exact found

theorem readMemberLabel_eq_ok_iff (key : String) {label : Option Int} :
    readMemberLabel key members = .ok label ↔ IsClassOf members label := by
  rw [readMemberLabel]
  constructor
  · intro read
    split at read
    · rename_i missing
      cases read
      exact .unsaid missing
    · rename_i bytes found
      split at read
      · rename_i value told
        cases read
        exact .told found (readLabel?_eq_some_iff.mp told)
      · cases read
  · rintro (missing | ⟨found, tells⟩)
    · rw [missing]
    · rw [found]
      simp only [readLabel?_eq_some_iff.mpr tells]

/-- A sample is an image record just if it has the image and tells the class of that record. -/
theorem ofSample_eq_ok_iff {record : ImageRecord} :
    ofSample sample = .ok record ↔
      record.key = sample.key ∧
        IsImageOf sample.members record.jpeg ∧ IsClassOf sample.members record.label := by
  rw [← imageMember?_eq_some_iff, ← readMemberLabel_eq_ok_iff sample.key, ofSample]
  cases image : imageMember? sample.members with
  | none => simp
  | some jpeg =>
    cases read : readMemberLabel sample.key sample.members with
    | error flaw =>
      constructor
      · intro isRecord
        cases isRecord
      · rintro ⟨-, -, isLabel⟩
        cases isLabel
    | ok label =>
      constructor
      · intro isRecord
        cases isRecord
        exact ⟨rfl, rfl, rfl⟩
      · rintro ⟨sameKey, sameImage, sameLabel⟩
        rw [Option.some.inj sameImage, Except.ok.inj sameLabel, ← sameKey]
        rfl

theorem exists_isImageOf_iff :
    (∃ data, IsImageOf members data) ↔ "jpeg" ∈ members.names ∨ "jpg" ∈ members.names := by
  rw [NameMap.mem_names_iff, NameMap.mem_names_iff]
  constructor
  · rintro ⟨data, found | ⟨-, found⟩⟩
    · exact .inl (Option.isSome_of_eq_some found)
    · exact .inr (Option.isSome_of_eq_some found)
  · intro present
    cases first : members.find? "jpeg" with
    | some data => exact ⟨data, .jpeg first⟩
    | none =>
      rw [first] at present
      obtain ⟨data, found⟩ := Option.isSome_iff_exists.mp (present.resolve_left nofun)
      exact ⟨data, .jpg first found⟩

/-- Where a member for the class is, it tells one. -/
theorem exists_tells_of_isClassOf
    {label : Option Int}
    {bytes : ByteArray}
    (isClass : IsClassOf members label)
    (found : members.find? "cls" = some bytes) :
    ∃ value, TellsClass bytes value := by
  cases isClass with
  | unsaid missing =>
    rw [found] at missing
    cases missing
  | told foundToo tells =>
    rw [found] at foundToo
    cases foundToo
    exact ⟨_, tells⟩

theorem exists_isClassOf_iff :
    (∃ label, IsClassOf members label) ↔
      ∀ bytes, members.find? "cls" = some bytes → ∃ value, TellsClass bytes value := by
  constructor
  · rintro ⟨label, isClass⟩ bytes found
    exact exists_tells_of_isClassOf isClass found
  · intro readable
    cases found : members.find? "cls" with
    | none => exact ⟨none, .unsaid found⟩
    | some bytes =>
      obtain ⟨value, tells⟩ := readable bytes found
      exact ⟨some value, .told found tells⟩

/-- A sample is read as an image record just if it has an image and its class, if it has a member for
it, is a numeral of 64 bits between white space. The record has the sample's key, the image and that
class. So the decimal text of an integer of 64 bits gives it back, whatever white space is around it
and whatever zeros are before its digits; and a numeral beyond 64 bits gives no record. -/
theorem ofSample_reads_class (sample : Sample) :
    (∀ record, ofSample sample = .ok record ↔
      record.key = sample.key ∧
        IsImageOf sample.members record.jpeg ∧ IsClassOf sample.members record.label) ∧
    ((∃ record, ofSample sample = .ok record) ↔
      ("jpeg" ∈ sample.members.names ∨ "jpg" ∈ sample.members.names) ∧
        ∀ bytes, sample.members.find? "cls" = some bytes → ∃ value, TellsClass bytes value) ∧
    (∀ jpeg bytes zeros value,
      IsImageOf sample.members jpeg →
      sample.members.find? "cls" = some bytes →
      HoldsBetweenBlanks bytes (Text.paddedDecimal zeros value) →
      IsLong value →
      ofSample sample = .ok ⟨sample.key, jpeg, some value⟩) ∧
    (∀ bytes numeral value,
      sample.members.find? "cls" = some bytes →
      HoldsBetweenBlanks bytes numeral →
      Text.IsNumeral numeral value →
      ¬IsLong value →
      ∀ record, ofSample sample ≠ .ok record) := by
  refine ⟨fun record => ofSample_eq_ok_iff, ?_, ?_, ?_⟩
  · rw [← exists_isImageOf_iff, ← exists_isClassOf_iff]
    constructor
    · rintro ⟨record, isRecord⟩
      obtain ⟨-, isImage, isClass⟩ := ofSample_eq_ok_iff.mp isRecord
      exact ⟨⟨_, isImage⟩, ⟨_, isClass⟩⟩
    · rintro ⟨⟨jpeg, isImage⟩, ⟨label, isClass⟩⟩
      exact ⟨⟨sample.key, jpeg, label⟩, ofSample_eq_ok_iff.mpr ⟨rfl, isImage, isClass⟩⟩
  · intro jpeg bytes zeros value isImage isClass holds isLong
    have tells : TellsClass bytes value :=
      ⟨⟨_, Text.isNumeral_paddedDecimal zeros value, holds⟩, isLong⟩
    exact ofSample_eq_ok_iff.mpr ⟨rfl, isImage, .told isClass tells⟩
  · intro bytes numeral value isClass holds isNumeral beyond record isRecord
    obtain ⟨-, -, isClassOf⟩ := ofSample_eq_ok_iff.mp isRecord
    obtain ⟨other, tells⟩ := exists_tells_of_isClassOf isClassOf isClass
    rw [← readLabel?_eq_some_iff, readLabel?_of_holds isNumeral holds,
      if_neg (mt inLabelRange_iff.mp beyond)] at tells
    cases tells

/-- A picture of one byte, with a text for its class. -/
def pictureOf (written : String) : Sample :=
  Sample.ofMembers "n01" [("JPG", .mk #[0xFF]), ("cls", written.toUTF8)]

/-- The least integer of 64 bits is read with zeros before its digits, and one less is not. -/
theorem ofSample_reads_least_class :
    ofSample (pictureOf "\u2003-009223372036854775808\r\n") =
        .ok ⟨"n01", .mk #[0xFF], some (-9223372036854775808)⟩ ∧
      ∀ record, ofSample (pictureOf "-9223372036854775809") ≠ .ok record := by
  constructor
  · refine (ofSample_reads_class _).2.2.1 _ _ 2 (-9223372036854775808)
      (.jpg (by decide +kernel) (by decide +kernel)) rfl ?_ (by decide)
    exact ⟨['\u2003'], ['\r', '\n'], by decide, by decide, by decide +kernel⟩
  · refine (ofSample_reads_class _).2.2.2 _ "-9223372036854775809".toList (-9223372036854775809)
      rfl ⟨[], [], by decide, by decide, by decide +kernel⟩ ?_ (by decide)
    exact Text.integer?_eq_some_iff.mp (by decide +kernel)

end OfSample

end ImageRecord

end Holdout
