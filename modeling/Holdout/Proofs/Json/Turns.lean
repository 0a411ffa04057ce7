import Mathlib.Data.List.Basic
import Holdout.Json.Document

/-!
# Parsers that take turns

A parser of any number of values is to read one value in turn with the next, each as a parser of one
value reads it. So a text is read as several values just if reading in turn comes to nothing but white
space. Where it comes to something that cannot be read, the text has no values at all, however many have
been read before.
-/

namespace Holdout
namespace Json

/-- No number and no word goes on from one part of a text to the next. -/
def Meet (front rest : List UInt8) : Prop :=
  rest = [] ∨
    (∃ byte, front.getLast? = some byte ∧ isBoundary byte = true) ∨
    ∃ byte, rest.head? = some byte ∧ isBoundary byte = true

/-- The text is white space. -/
def IsBlank (text : List UInt8) : Prop := ∀ byte ∈ text, isSpace byte = true

namespace Parsers

/-- What is asked of two parsers: each value is read from a part of the text, which the other parser
takes for that value alone. -/
structure TakeTurns (parsers : Parsers) : Prop where
  /-- White space has no values, and everything else has some. -/
  nothing : ∀ {text}, parsers.several? text = some [] ↔ IsBlank text
  /-- What has values begins with the first of them. -/
  front : ∀ {text value values}, parsers.several? text = some (value :: values) →
    ∃ front rest, text = front ++ rest ∧ parsers.single? front = some value ∧ Meet front rest
  /-- Behind a value, reading goes on with the rest of the text. -/
  append : ∀ {front rest value}, parsers.single? front = some value → Meet front rest →
    parsers.several? (front ++ rest) = (parsers.several? rest).map (value :: ·)
  /-- White space behind a single value does not count. -/
  trailing : ∀ {text blank value}, parsers.single? text = some value → IsBlank blank →
    parsers.single? (text ++ blank) = some value

variable (parsers : Parsers)

/-- Reading one value of a text in turn with the next comes to what is left of the text. -/
inductive Reads : List UInt8 → List Json → List UInt8 → Prop
  | nothing (text : List UInt8) : Reads text [] text
  | value
      {front rest left : List UInt8}
      {value : Json}
      {values : List Json} :
      parsers.single? front = some value →
      Meet front rest →
      Reads rest values left →
      Reads (front ++ rest) (value :: values) left

/-- Neither is the text white space, nor does it begin with a value. -/
def IsStuck (text : List UInt8) : Prop :=
  ¬ IsBlank text ∧
    ∀ front rest, text = front ++ rest → Meet front rest → parsers.single? front = none

namespace TakeTurns

variable {parsers : Parsers} {text left : List UInt8} {value : Json} {values : List Json}

theorem isBlank_nil : IsBlank [] := fun _ among => nomatch among

/-- A single value is the only one of several. -/
theorem single?_eq_some_iff (turns : parsers.TakeTurns) :
    parsers.single? text = some value ↔ parsers.several? text = some [value] := by
  constructor
  · intro parsed
    have all := turns.append parsed (.inl rfl)
    rwa [List.append_nil, turns.nothing.mpr isBlank_nil] at all
  · intro all
    obtain ⟨front, rest, rfl, parsed, meet⟩ := turns.front all
    rw [turns.append parsed meet] at all
    obtain ⟨behind, isNothing, same⟩ := Option.map_eq_some_iff.mp all
    obtain rfl : behind = [] := (List.cons.inj same).2
    exact turns.trailing parsed (turns.nothing.mp isNothing)

theorem single?_eq_none_of_isBlank (turns : parsers.TakeTurns) (blank : IsBlank text) :
    parsers.single? text = none := by
  cases parsed : parsers.single? text with
  | none => rfl
  | some value =>
    have all := turns.single?_eq_some_iff.mp parsed
    rw [turns.nothing.mpr blank] at all
    cases all

theorem several?_of_reads (turns : parsers.TakeTurns) (reads : parsers.Reads text values left) :
    parsers.several? text = (parsers.several? left).map (values ++ ·) := by
  induction reads with
  | nothing text => exact Option.map_id'.symm
  | value parsed meet _ inductionHypothesis =>
    rw [turns.append parsed meet, inductionHypothesis, Option.map_map]
    rfl

/-- Where a text is stuck, it has no values, and not even none of them. -/
theorem several?_of_isStuck (turns : parsers.TakeTurns) (stuck : parsers.IsStuck text) :
    parsers.several? text = none := by
  cases all : parsers.several? text with
  | none => rfl
  | some values =>
    cases values with
    | nil => exact absurd (turns.nothing.mp all) stuck.1
    | cons value values =>
      obtain ⟨front, rest, split, parsed, meet⟩ := turns.front all
      rw [stuck.2 front rest split meet] at parsed
      cases parsed

/-- Every text is read in turn up to white space, or to where it is stuck. -/
theorem exists_reads (turns : parsers.TakeTurns) (text : List UInt8) :
    ∃ values left, parsers.Reads text values left ∧ (IsBlank left ∨ parsers.IsStuck left) := by
  induction size : text.length using Nat.strongRecOn generalizing text with
  | _ length inductionHypothesis =>
    subst size
    by_cases blank : IsBlank text
    · exact ⟨[], text, .nothing text, .inl blank⟩
    · by_cases begins : ∃ front rest value,
        text = front ++ rest ∧ Meet front rest ∧ parsers.single? front = some value
      · obtain ⟨front, rest, value, rfl, meet, parsed⟩ := begins
        have nonempty : front ≠ [] := by
          rintro rfl
          rw [turns.single?_eq_none_of_isBlank isBlank_nil] at parsed
          cases parsed
        have shorter : rest.length < (front ++ rest).length := by
          have := List.length_pos_iff.mpr nonempty
          rw [List.length_append]
          omega
        obtain ⟨values, left, reads, ends⟩ := inductionHypothesis _ shorter rest rfl
        exact ⟨value :: values, left, .value parsed meet reads, ends⟩
      · refine ⟨[], text, .nothing text, .inr ⟨blank, fun front rest split meet => ?_⟩⟩
        cases parsed : parsers.single? front with
        | none => rfl
        | some value => exact absurd ⟨front, rest, value, split, meet, parsed⟩ begins

/-- The values of a text are those that are read in turn, up to white space. -/
theorem several?_eq_some_iff (turns : parsers.TakeTurns) :
    parsers.several? text = some values ↔ ∃ left, parsers.Reads text values left ∧ IsBlank left := by
  constructor
  · intro all
    obtain ⟨read, left, reads, blank | stuck⟩ := turns.exists_reads text
    · rw [turns.several?_of_reads reads, turns.nothing.mpr blank] at all
      obtain rfl : read ++ [] = values := Option.some.inj all
      rw [List.append_nil]
      exact ⟨left, reads, blank⟩
    · rw [turns.several?_of_reads reads, turns.several?_of_isStuck stuck] at all
      cases all
  · rintro ⟨left, reads, blank⟩
    rw [turns.several?_of_reads reads, turns.nothing.mpr blank]
    exact congrArg some (List.append_nil values)

/-- A text has no values just if it is stuck, whatever has been read before that. -/
theorem several?_eq_none_iff (turns : parsers.TakeTurns) :
    parsers.several? text = none ↔
      ∃ values left, parsers.Reads text values left ∧ parsers.IsStuck left := by
  constructor
  · intro all
    obtain ⟨values, left, reads, blank | stuck⟩ := turns.exists_reads text
    · rw [turns.several?_of_reads reads, turns.nothing.mpr blank] at all
      cases all
    · exact ⟨values, left, reads, stuck⟩
  · rintro ⟨values, left, reads, stuck⟩
    rw [turns.several?_of_reads reads, turns.several?_of_isStuck stuck]
    rfl

end TakeTurns

end Parsers
end Json
end Holdout
