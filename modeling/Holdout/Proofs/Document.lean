import Holdout.Document
import Holdout.Proofs.Json.Sequence

/-!
# Rows of a document

The values of a body are those that are read one in turn with the next. Its rows are what the values
hold under a name, or the values, with the items of an array in place of the array. Every value has to
be an object with that name. White space has no values, so it has no rows, and nothing is missing from
it. An array is no row even if it is one value of several: just the values that are not arrays are rows
themselves.
-/

namespace Holdout

namespace Json

/-- The value is an object that holds another value under the name. -/
def HasField (value : Json) (name : String) (inner : Json) : Prop :=
  ∃ fields, value = .object fields ∧
    (fields.find? fun field => field.1 = name) = some (name, inner)

theorem hasField_iff {value : Json} {name : String} {inner : Json} :
    value.HasField name inner ↔ value.field? name = some inner := by
  constructor
  · rintro ⟨fields, rfl, found⟩
    rw [field?_object, found, Option.map_some]
  · intro found
    cases value with
    | object fields =>
      obtain ⟨field, isFirst, same⟩ := Option.map_eq_some_iff.mp found
      have isNamed : field.1 = name := by simpa using List.find?_some isFirst
      exact ⟨fields, rfl, by rw [isFirst, ← isNamed, ← same]⟩
    | _ => cases found

end Json

namespace Document

section Parsers

variable {parsers : Json.Parsers} {bytes : List UInt8}

/-- The values of a document are those that its bytes have one after the other: that a single value is
tried first makes no difference. -/
theorem valuesBy_eq (turns : parsers.TakeTurns) (bytes : List UInt8) :
    Document.valuesBy parsers bytes =
      match parsers.several? bytes with
      | some found => .ok found
      | none => .error (.during .parsingValues (.within .json)) := by
  rw [valuesBy]
  cases parsed : parsers.single? bytes with
  | none => rfl
  | some value => rw [turns.single?_eq_some_iff.mp parsed]

theorem valuesBy_eq_ok_iff (turns : parsers.TakeTurns) {found : List Json} :
    Document.valuesBy parsers bytes = .ok found ↔ parsers.several? bytes = some found := by
  rw [valuesBy_eq turns]
  cases parsers.several? bytes with
  | some several => simp only [Except.ok.injEq, Option.some.injEq]
  | none => simp only [reduceCtorEq]

/-- By any two parsers of which one takes turns where the other reads a single value, the values of a
document are those that are read in turn. They are all values, if reading in turn comes to nothing but
white space; it is one value just if the bytes are read as that value alone. If reading comes to what
cannot be read, there are none, however many values have been read before. -/
theorem valuesBy_reads_in_turn (turns : parsers.TakeTurns) (bytes : List UInt8) :
    (Document.valuesBy parsers bytes =
      match parsers.several? bytes with
      | some found => .ok found
      | none => .error (.during .parsingValues (.within .json))) ∧
    (∀ found, Document.valuesBy parsers bytes = .ok found ↔
      ∃ left, parsers.Reads bytes found left ∧ Json.IsBlank left) ∧
    (∀ value, Document.valuesBy parsers bytes = .ok [value] ↔ parsers.single? bytes = some value) ∧
    (Document.valuesBy parsers bytes = .error (.during .parsingValues (.within .json)) ↔
      ∃ found left, parsers.Reads bytes found left ∧ parsers.IsStuck left) := by
  refine ⟨valuesBy_eq turns bytes, fun found => ?_, fun value => ?_, ?_⟩
  · rw [valuesBy_eq_ok_iff turns, turns.several?_eq_some_iff]
  · rw [valuesBy_eq_ok_iff turns, turns.single?_eq_some_iff]
  · rw [valuesBy_eq turns, ← turns.several?_eq_none_iff]
    cases parsers.several? bytes with
    | some found => simp only [reduceCtorEq]
    | none => exact iff_of_true rfl rfl

end Parsers

theorem values_eq_ok_iff {bytes : List UInt8} {found : List Json} :
    Document.values bytes = .ok found ↔ Json.parseAll? bytes = some found :=
  valuesBy_eq_ok_iff Json.takeTurns_parsers

/-- The values of a document are those that are read one in turn with the next, whether one value is
tried first or not. -/
theorem values_are_read_in_turn (bytes : List UInt8) :
    (Document.values bytes =
      match Json.parseAll? bytes with
      | some found => .ok found
      | none => .error (.during .parsingValues (.within .json))) ∧
    (∀ found, Document.values bytes = .ok found ↔
      ∃ left, Json.parsers.Reads bytes found left ∧ Json.IsBlank left) ∧
    (∀ value, Document.values bytes = .ok [value] ↔ Json.parse? bytes = some value) ∧
    (Document.values bytes = .error (.during .parsingValues (.within .json)) ↔
      ∃ found left, Json.parsers.Reads bytes found left ∧ Json.parsers.IsStuck left) :=
  valuesBy_reads_in_turn Json.takeTurns_parsers bytes

/-- Two values have been read when the bracket comes that nothing closes. -/
example : Document.values "7 [] [".toUTF8.toList =
    .error (.during .parsingValues (.within .json)) := by
  with_unfolding_all rfl

section Selected

variable {name : String} {values inners found : List Json}

theorem selectField_eq_ok_iff {value inner : Json} :
    selectField name value = .ok inner ↔ value.HasField name inner := by
  rw [Json.hasField_iff, selectField]
  cases value.field? name with
  | some held => simp only [Except.ok.injEq, Option.some.injEq]
  | none => simp only [reduceCtorEq]

theorem select_some (name : String) (values : List Json) :
    select (some name) values = (values.mapM (selectField name)).map (·.flatMap records) := by
  cases chosen : values.mapM (selectField name) with
  | ok inners =>
    rw [select, chosen]
    rfl
  | error failure =>
    rw [select, chosen]
    rfl

/-- Under a name the records are those of the inner values, which all values have. -/
theorem select_some_eq_ok_iff :
    select (some name) values = .ok found ↔
      ∃ inners, List.Forall₂ (Json.HasField · name) values inners ∧
        inners.flatMap records = found := by
  have each (inners : List Json) :
      List.Forall₂ (Json.HasField · name) values inners ↔
        values.mapM (selectField name) = .ok inners := by
    simp only [mapM_eq_ok_iff, selectField_eq_ok_iff]
  simp only [select_some, each]
  cases values.mapM (selectField name) with
  | ok chosen => simp only [Except.map, Except.ok.injEq, exists_eq_left']
  | error failure => simp [Except.map]

end Selected

/-! ## Values as rows -/

theorem records_of_items?_eq_none {value : Json} (plain : value.items? = none) :
    records value = [value] := by
  cases value with
  | array items => cases plain
  | _ => rfl

theorem sizeOf_append (first second : List Json) :
    sizeOf (first ++ second) + 1 = sizeOf first + sizeOf second := by
  induction first with
  | nil => exact Nat.add_comm _ _
  | cons value rest inductionHypothesis =>
    simp only [List.cons_append, List.cons.sizeOf_spec]
    omega

/-- An array is larger than all of its items together, so records are smaller by every array. -/
theorem sizeOf_flatMap_records (values : List Json) :
    sizeOf (values.flatMap records) + 3 * values.countP (·.items?.isSome) = sizeOf values := by
  induction values with
  | nil => rfl
  | cons value rest inductionHypothesis =>
    have size := sizeOf_append (records value) (rest.flatMap records)
    rw [List.flatMap_cons, List.cons.sizeOf_spec, List.countP_cons]
    cases array : value.items? with
    | some items =>
      cases value with
      | array held =>
        simp only [Json.array.sizeOf_spec, records, Option.isSome_some, if_true] at size ⊢
        omega
      | _ => cases array
    | none =>
      rw [records_of_items?_eq_none array] at size ⊢
      simp only [List.cons.sizeOf_spec, List.nil.sizeOf_spec, Option.isSome_none,
        Bool.false_eq_true, if_false] at size ⊢
      omega

/-- Values are their own records just if none of them is an array. -/
theorem flatMap_records_eq_self_iff {values : List Json} :
    values.flatMap records = values ↔ ∀ value ∈ values, value.items? = none := by
  constructor
  · intro same
    have size := sizeOf_flatMap_records values
    rw [same] at size
    have none : values.countP (·.items?.isSome) = 0 := by omega
    intro value member
    simpa using List.countP_eq_zero.mp none value member
  · intro plain
    calc
      values.flatMap records = values.flatMap fun value => [value] :=
        List.flatMap_congr fun value member => records_of_items?_eq_none (plain value member)
      _ = values := List.flatMap_singleton' values

section Rows

variable {body : Body} {location : String}

theorem value_rows (body : Body) (location : String) (field : Option String) :
    (rows body location field).value = ofBody body location field := by
  rw [rows]
  cases ofBody body location field <;> rfl

/-- Rows are the records that are selected from the values of a body that can be read. -/
theorem rows_eq_ok_iff {field : Option String} {found : List Json} :
    (rows body location field).value = .ok found ↔
      ∃ bytes values,
        body.readAll? = some bytes ∧
        Json.parseAll? bytes.toList = some values ∧
        select field values = .ok found := by
  rw [value_rows, ofBody]
  constructor
  · intro delivered
    cases read : body.readAll? with
    | none =>
      rw [read] at delivered
      cases delivered
    | some bytes =>
      rw [read] at delivered
      cases held : Document.values bytes.toList with
      | error failure =>
        simp only [held] at delivered
        cases delivered
      | ok values =>
        simp only [held] at delivered
        cases chosen : select field values with
        | error failure =>
          simp only [Except.mapError, bind, Except.bind, chosen] at delivered
          cases delivered
        | ok several =>
          simp only [Except.mapError, bind, Except.bind, chosen] at delivered
          rw [Except.ok.inj delivered] at chosen
          exact ⟨bytes, values, rfl, values_eq_ok_iff.mp held, chosen⟩
  · rintro ⟨bytes, values, read, parsed, chosen⟩
    rw [read]
    simp only [values_eq_ok_iff.mpr parsed, chosen, Except.mapError, bind, Except.bind]

/-- The rows of a body under a name are what all of its values hold under that name, in their order
and with the items of an array in place of the array. They are there just if every value is an object
with that name. White space has no values, and then no row is missing. -/
theorem rows_under_name_iff {name : String} {found : List Json} :
    (rows body location (some name)).value = .ok found ↔
      ∃ bytes values inners,
        body.readAll? = some bytes ∧
        Json.parseAll? bytes.toList = some values ∧
        (values = [] ↔ ∀ byte ∈ bytes.toList, Json.isSpace byte = true) ∧
        List.Forall₂ (Json.HasField · name) values inners ∧
        inners.flatMap records = found := by
  rw [rows_eq_ok_iff]
  constructor
  · rintro ⟨bytes, values, read, parsed, chosen⟩
    obtain ⟨inners, each, same⟩ := select_some_eq_ok_iff.mp chosen
    refine ⟨bytes, values, inners, read, parsed, ?_, each, same⟩
    rw [← Json.parseAll?_eq_nil_iff, parsed, Option.some_inj]
  · rintro ⟨bytes, values, inners, read, parsed, -, each, same⟩
    exact ⟨bytes, values, read, parsed, select_some_eq_ok_iff.mpr ⟨inners, each, same⟩⟩

/-- What two objects hold under a name, an array and a number, is three rows. -/
theorem rows_of_two_objects :
    (rows (.ofBytes "\x7b\"data\":[1,2]\x7d \x7b\"data\":3\x7d".toUTF8) "mem://dev.json"
      (some "data")).value = .ok [.integer 1, .integer 2, .integer 3] := by
  have parsed : Json.parseAll? "\x7b\"data\":[1,2]\x7d \x7b\"data\":3\x7d".toUTF8.toList =
      some [.object [("data", .array [.integer 1, .integer 2])],
        .object [("data", .integer 3)]] := by
    with_unfolding_all rfl
  refine rows_under_name_iff.mpr ⟨_, _, _, rfl, parsed, ?_, .cons ⟨_, rfl, rfl⟩
    (.cons ⟨_, rfl, rfl⟩ .nil), rfl⟩
  exact Option.some_inj.symm.trans (parsed ▸ Json.parseAll?_eq_nil_iff)

/-- A body without a byte has no values, and no rows under any name. -/
theorem rows_of_empty_body :
    Json.parseAll? ByteArray.empty.toList = some [] ∧
      (rows (.ofBytes .empty) "mem://dev.json" (some "data")).value = .ok [] := by
  have parsed : Json.parseAll? ByteArray.empty.toList = some [] := by
    with_unfolding_all rfl
  exact ⟨parsed, rows_eq_ok_iff.mpr ⟨_, _, rfl, parsed, rfl⟩⟩

/-- Values are rows in their order, with the items of an array in place of the array. So a single array
stands for its items, and the values themselves are the rows just if none of them is an array. -/
theorem rows_of_values
    {bytes : ByteArray}
    {values : List Json}
    (read : body.readAll? = some bytes)
    (parsed : Json.parseAll? bytes.toList = some values)
    (location : String) :
    (rows body location none).value = .ok (values.flatMap records) ∧
      ((rows body location none).value = .ok values ↔ ∀ value ∈ values, value.items? = none) ∧
      ∀ items, Json.parse? bytes.toList = some (.array items) →
        (rows body location none).value = .ok items := by
  have delivered : (rows body location none).value = .ok (values.flatMap records) :=
    rows_eq_ok_iff.mpr ⟨bytes, values, read, parsed, rfl⟩
  refine ⟨delivered, ?_, ?_⟩
  · rw [delivered, Except.ok.injEq, flatMap_records_eq_self_iff]
  · intro items single
    rw [Json.parse?_eq_some_iff, parsed, Option.some_inj] at single
    rw [delivered, single, List.flatMap_singleton]
    rfl

/-- An object and a number are rows themselves. -/
theorem rows_of_object_and_number :
    (rows (.ofBytes "\x7b\"a\":[]\x7d\n7\n".toUTF8) "mem://rows.jsonl" none).value =
      .ok [.object [("a", .array [])], .integer 7] := by
  have parsed : Json.parseAll? "\x7b\"a\":[]\x7d\n7\n".toUTF8.toList =
      some [.object [("a", .array [])], .integer 7] := by
    with_unfolding_all rfl
  refine (rows_of_values rfl parsed "mem://rows.jsonl").2.1.mpr ?_
  simp [Json.items?]

/-- Two arrays on lines of their own are not one value, but it is their items that are rows. -/
theorem rows_of_two_arrays :
    Json.parse? "[1,2]\n[3]\n".toUTF8.toList = none ∧
      Json.parseAll? "[1,2]\n[3]\n".toUTF8.toList =
        some [.array [.integer 1, .integer 2], .array [.integer 3]] ∧
      (rows (.ofBytes "[1,2]\n[3]\n".toUTF8) "mem://rows.jsonl" none).value =
        .ok [.integer 1, .integer 2, .integer 3] := by
  have parsed : Json.parseAll? "[1,2]\n[3]\n".toUTF8.toList =
      some [.array [.integer 1, .integer 2], .array [.integer 3]] := by
    with_unfolding_all rfl
  exact ⟨by decide +kernel, parsed, rows_eq_ok_iff.mpr ⟨_, _, rfl, parsed, rfl⟩⟩

end Rows

end Document
end Holdout
