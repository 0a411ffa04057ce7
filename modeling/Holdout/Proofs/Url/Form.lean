import Holdout.Proofs.InTurn
import Holdout.Proofs.Text.Pieces
import Holdout.Proofs.Url.Escapes
import Holdout.Url.Query

/-!
# Forms are read back

The query that carries pairs is read as those pairs, whatever texts they hold: no byte is written as
one of the marks between the pairs and inside of them, and each byte is read back from what is written
for it.
-/

namespace Holdout
namespace Url

/-- A plus sign stands for a space. -/
def spaced (c : Char) : Char := if c = '+' then ' ' else c

theorem spaced_of_ne {c : Char} (plain : c ≠ '+') : spaced c = c := if_neg plain

/-- Bytes that stand for themselves are none of the marks of a form. -/
theorem isFormPlain_bounds {byte : UInt8} (plain : isFormPlain byte = true) :
    byte.toNat < 128 ∧ byte.toNat ≠ 0x25 ∧ byte.toNat ≠ 0x26 ∧ byte.toNat ≠ 0x2B ∧
      byte.toNat ≠ 0x3D := by
  simp only [isFormPlain, Bool.or_eq_true, Bool.and_eq_true, decide_eq_true_eq, beq_iff_eq,
    UInt8.le_iff_toNat_le, ← UInt8.toNat_inj, UInt8.reduceToNat] at plain
  omega

/-- No byte is written with a mark of the form. -/
theorem ne_of_mem_formByte {c : Char} {byte : UInt8} (member : c ∈ formByte byte) :
    c ≠ '&' ∧ c ≠ '=' := by
  rw [formByte] at member
  split at member
  · next plain =>
    obtain ⟨-, -, notAmpersand, -, notEquals⟩ := isFormPlain_bounds plain
    rw [List.mem_singleton.mp member]
    constructor
    · intro same
      exact notAmpersand (by rw [← toNat_ofNat_toNat byte, same]; rfl)
    · intro same
      exact notEquals (by rw [← toNat_ofNat_toNat byte, same]; rfl)
  · split at member
    · rw [List.mem_singleton.mp member]
      decide
    · have digits : ∀ value < 16, escapeDigit value ≠ '&' ∧ escapeDigit value ≠ '=' := by decide
      rcases mem_escapeOf member with rfl | ⟨value, small, rfl⟩
      · decide
      · exact digits value small

/-- A byte is read back from what is written for it. -/
theorem percentDecode_formByte (byte : UInt8) (rest : List UInt8) :
    percentDecode (utf8 ((formByte byte).map spaced) ++ rest) = byte :: percentDecode rest := by
  rw [formByte]
  split
  · next plain =>
    obtain ⟨ascii, notPercent, -, notPlus, -⟩ := isFormPlain_bounds plain
    have number := toNat_ofNat_toNat byte
    have unspaced : spaced (Char.ofNat byte.toNat) = Char.ofNat byte.toNat := by
      refine spaced_of_ne fun same => notPlus ?_
      rw [← number, same]
      rfl
    rw [List.map_singleton, unspaced, utf8_of_ascii (by simpa [number] using ascii),
      List.map_singleton, number, UInt8.ofNat_toNat, List.singleton_append]
    refine percentDecode_cons_of_ne (fun same => notPercent ?_) rest
    rw [same]
    rfl
  · split
    · next isSpace =>
      rw [beq_iff_eq] at isSpace
      rw [isSpace]
      have written : utf8 (['+'].map spaced) = [0x20] :=
        utf8_of_ascii (List.forall_mem_singleton.mpr (by decide))
      rw [written]
      exact percentDecode_cons_of_ne (by decide) rest
    · have digits : ∀ value < 16, escapeDigit value ≠ '+' := by decide
      have unspaced : (escapeOf byte).toList.map spaced = (escapeOf byte).toList := by
        refine (List.map_congr_left fun c member => spaced_of_ne ?_).trans (List.map_id _)
        rcases mem_escapeOf member with rfl | ⟨value, small, rfl⟩
        · decide
        · exact digits value small
      rw [unspaced, percentDecode_escapeOf]

theorem percentDecode_formBytes (bytes : List UInt8) :
    percentDecode (utf8 ((bytes.flatMap formByte).map spaced)) = bytes := by
  induction bytes with
  | nil =>
    rw [List.flatMap_nil, List.map_nil, utf8_eq_flatMap, List.flatMap_nil, percentDecode]
  | cons byte rest inductionHypothesis =>
    rw [List.flatMap_cons, List.map_append, utf8_append, percentDecode_formByte,
      inductionHypothesis]

theorem readFormText?_formText (text : String) : readFormText? (formText text) = some text := by
  rw [readFormText?, formText]
  exact (congrArg Archive.text? (percentDecode_formBytes (Text.bytes text))).trans
    (Text.text?_bytes text)

theorem ne_of_mem_formText {c : Char} {text : String} (member : c ∈ formText text) :
    c ≠ '&' ∧ c ≠ '=' := by
  obtain ⟨byte, -, written⟩ := List.mem_flatMap.mp member
  exact ne_of_mem_formByte written

theorem readFormPair?_formPair (pair : String × String) :
    readFormPair? (formPair pair) = some pair := by
  have inside : ∀ c ∈ formText pair.1, decide (c ≠ '=') = true :=
    fun c member => decide_eq_true (ne_of_mem_formText member).2
  have name : (formPair pair).takeWhile (· ≠ '=') = formText pair.1 := by
    rw [formPair, List.takeWhile_append_of_pos inside]
    exact List.append_nil _
  have value : ((formPair pair).dropWhile (· ≠ '=')).drop 1 = formText pair.2 := by
    rw [formPair, List.dropWhile_append_of_pos inside]
    rfl
  rw [readFormPair?, name, value, readFormText?_formText, readFormText?_formText]
  rfl

theorem splitWhere_formPairs {pairs : List (String × String)} (notEmpty : pairs ≠ []) :
    Text.splitWhere (· == '&') (formPairs pairs) = pairs.map formPair := by
  have plain (pair : String × String) : ∀ c ∈ formPair pair, (c == '&') = false := by
    intro c member
    rw [beq_eq_false_iff_ne]
    rcases List.mem_append.mp member with inName | inRest
    · exact (ne_of_mem_formText inName).1
    · rcases List.mem_cons.mp inRest with rfl | inValue
      · decide
      · exact (ne_of_mem_formText inValue).1
  induction pairs with
  | nil => exact absurd rfl notEmpty
  | cons pair rest inductionHypothesis =>
    cases rest with
    | nil => exact Text.splitWhere_of_plain (plain pair)
    | cons next rest =>
      rw [formPairs, Text.splitWhere_append_cons (plain pair) rfl,
        inductionHypothesis (List.cons_ne_nil next rest)]
      · rfl
      · exact List.cons_ne_nil next rest

/-- The query of any pairs is read as those pairs, in their order. -/
theorem readFormQuery?_formQuery (pairs : List (String × String)) :
    readFormQuery? (formQuery pairs) = some pairs := by
  rw [readFormQuery?, formQuery, String.toList_ofList]
  cases pairs with
  | nil => rfl
  | cons pair rest =>
    rw [splitWhere_formPairs (List.cons_ne_nil pair rest), List.filter_eq_self.mpr ?_, mapM_eq_some_iff,
      List.forall₂_map_left_iff]
    · exact List.forall₂_same.mpr fun pair _ => readFormPair?_formPair pair
    · intro piece member
      obtain ⟨pair, -, rfl⟩ := List.mem_map.mp member
      rw [formPair]
      cases formText pair.1 <;> rfl

theorem formQuery_injective {pairs others : List (String × String)}
    (same : formQuery pairs = formQuery others) : pairs = others := by
  have read := readFormQuery?_formQuery pairs
  rw [same, readFormQuery?_formQuery] at read
  exact (Option.some.inj read).symm

/-- Only no pairs at all leave the query empty. -/
theorem formQuery_ne_empty {pairs : List (String × String)} (notEmpty : pairs ≠ []) :
    formQuery pairs ≠ "" :=
  fun isEmpty => notEmpty (formQuery_injective isEmpty)

theorem formPairs_cons {rest : List (String × String)} (more : rest ≠ [])
    (pair : String × String) : formPairs (pair :: rest) = formPair pair ++ '&' :: formPairs rest := by
  cases rest with
  | nil => exact absurd rfl more
  | cons next rest => rfl

theorem formPairs_concat {pairs : List (String × String)} (notEmpty : pairs ≠ [])
    (last : String × String) : formPairs (pairs ++ [last]) = formPairs pairs ++ '&' :: formPair last := by
  induction pairs with
  | nil => exact absurd rfl notEmpty
  | cons pair rest inductionHypothesis =>
    by_cases more : rest = []
    · rw [more]
      rfl
    · rw [List.cons_append, formPairs_cons (List.append_ne_nil_of_left_ne_nil more [last]),
        inductionHypothesis more, formPairs_cons more, List.append_assoc, List.cons_append]

theorem formQuery_concat {pairs : List (String × String)} (notEmpty : pairs ≠ [])
    (last : String × String) :
    formQuery (pairs ++ [last]) = formQuery pairs ++ "&" ++ String.ofList (formPair last) := by
  apply String.toList_injective
  simp only [formQuery, String.toList_append, String.toList_ofList, formPairs_concat notEmpty]
  rw [List.append_assoc]
  rfl

end Url
end Holdout
