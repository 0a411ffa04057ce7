import Holdout.Hub.Endpoint
import Holdout.Proofs.Text.Numeral
import Holdout.Proofs.Url.Path

/-!
# The addresses that ask a hub

An address below the base of a hub carries its parameters without loss: they are read from its query
as they are, so different requests have different addresses. Its path is that of the base, completed
by a slash, with the name of what is asked for behind it. The query and the fragment of the base are
left out, and it makes no difference whether a slash ends the path of the base. So it is with every
library that follows the standard.
-/

namespace Holdout
namespace Hub

open Url (Library FollowsStandard)
open Url.Standard (AreSettled IsPlainName formed? shorten)

/-- An address below a base that asks with these parameters. -/
structure AsksBelow (base : Url) (name : String) (parameters : List (String × String)) (url : Url) :
    Prop where
  scheme : url.scheme = base.scheme
  authority : url.authority = base.authority
  path : url.path.text = Url.completed base.path.text ++ name
  parameters : ∃ query, url.query = some query ∧ Url.readFormQuery? query = some parameters
  fragment : url.fragment = none

/-- Bases that differ in the query, in the fragment and in a slash at the end of the path at most. -/
structure SamePlace (base other : Url) : Prop where
  scheme : base.scheme = other.scheme
  authority : base.authority = other.authority
  path : Url.completed base.path.text = Url.completed other.path.text

/-- Requests with the same parameters are the same. -/
theorem RowsRequest.eq_of_parameters_eq {request other : RowsRequest}
    (same : request.parameters = other.parameters) : request = other := by
  obtain ⟨dataset, config, split, offset, length⟩ := request
  simp only [RowsRequest.parameters, List.cons.injEq, Prod.mk.injEq, true_and, and_true] at same
  obtain ⟨rfl, rfl, rfl, sameOffset, sameLength⟩ := same
  rw [Text.eq_of_toString_eq sameOffset, Text.eq_of_toString_eq sameLength]

section Below

variable {library : Library α} {record : α → Url} {escapes : UInt8 → Bool} {base : α}
  {segments : List String}

/-- The parameters come behind the pairs that the query carries. -/
theorem record_foldl_appendPair
    (follows : FollowsStandard library record escapes)
    {address : α}
    {pairs : List (String × String)}
    (isQuery : (record address).query = formed? pairs)
    (parameters : List (String × String)) :
    record (parameters.foldl library.appendPair address) =
      { record address with query := formed? (pairs ++ parameters) } := by
  induction parameters generalizing address pairs with
  | nil => rw [List.append_nil, ← isQuery, List.foldl_nil]
  | cons pair rest inductionHypothesis =>
    have appended := follows.appendPair pair isQuery
    have isQueryNow : (record (library.appendPair address pair)).query = formed? (pairs ++ [pair]) := by
      rw [appended]
    rw [List.foldl_cons, inductionHypothesis isQueryNow, appended, List.append_assoc,
      List.singleton_append]

/-- What is joined takes the place of the empty segment that stands behind the slash. -/
theorem shorten_concat_empty (isFile : Bool) (front : List String) :
    (shorten isFile (front ++ [""]).reverse).reverse = front := by
  rw [List.reverse_concat]
  cases behind : front.reverse with
  | nil =>
    rw [List.reverse_eq_nil_iff.mp behind, shorten, show Url.Standard.isNormalDrive "" = false from rfl,
      Bool.and_false]
    rfl
  | cons last before => rw [shorten, ← behind, List.reverse_reverse]

/-- The address below a base, spelled out. -/
theorem exists_askBelow
    (follows : FollowsStandard library record escapes)
    (settled : AreSettled escapes (record base).scheme segments)
    (isPath : (record base).path = .segments segments)
    {name : String}
    (plain : IsPlainName name)
    (first : String × String)
    (rest : List (String × String)) :
    ∃ url, askBelow library (library.closed base) name (first :: rest) = .ok url ∧
      record url = { record base with
        path := .segments (Url.closedFront segments ++ [name])
        query := some (Url.formQuery (first :: rest))
        fragment := none } := by
  have closed := follows.record_closed isPath settled
  have closedPath : (record (library.closed base)).path =
      .segments (Url.closedFront segments ++ [""]) := by
    rw [closed]
  obtain ⟨joined, isJoined, isRecord⟩ := follows.join closedPath plain
  have noQuery : (record joined).query = formed? [] := by
    rw [isRecord]
    rfl
  rw [closed, shorten_concat_empty] at isRecord
  refine ⟨_, by rw [askBelow, isJoined], ?_⟩
  rw [record_foldl_appendPair follows noQuery, isRecord, List.nil_append]
  rfl

theorem exists_asksBelow
    (follows : FollowsStandard library record escapes)
    (settled : AreSettled escapes (record base).scheme segments)
    (isPath : (record base).path = .segments segments)
    {name : String}
    (plain : IsPlainName name)
    (first : String × String)
    (rest : List (String × String)) :
    ∃ url, askBelow library (library.closed base) name (first :: rest) = .ok url ∧
      AsksBelow (record base) name (first :: rest) (record url) := by
  obtain ⟨url, asks, isRecord⟩ := exists_askBelow follows settled isPath plain first rest
  refine ⟨url, asks, ?_⟩
  rw [isRecord]
  refine ⟨rfl, rfl, ?_, ⟨_, rfl, Url.readFormQuery?_formQuery _⟩, rfl⟩
  rw [Url.text_append, Url.text_closedFront settled.noSlash, isPath]

/-- Different parameters make different addresses. -/
theorem parameters_eq_of_text_eq
    (follows : FollowsStandard library record escapes)
    (settled : AreSettled escapes (record base).scheme segments)
    (isPath : (record base).path = .segments segments)
    {name : String}
    (plain : IsPlainName name)
    {first other : String × String}
    {rest others : List (String × String)}
    {url otherUrl : α}
    (asks : askBelow library (library.closed base) name (first :: rest) = .ok url)
    (asksToo : askBelow library (library.closed base) name (other :: others) = .ok otherUrl)
    (same : library.text url = library.text otherUrl) :
    first :: rest = other :: others := by
  obtain ⟨_, isUrl, isRecord⟩ := exists_askBelow follows settled isPath plain first rest
  obtain ⟨_, isUrlToo, isRecordToo⟩ := exists_askBelow follows settled isPath plain other others
  obtain rfl := Except.ok.inj (isUrl.symm.trans asks)
  obtain rfl := Except.ok.inj (isUrlToo.symm.trans asksToo)
  rw [follows.text, follows.text, isRecord, isRecordToo] at same
  simp only [Url.text, Url.marked, String.append_empty] at same
  have queries := String.append_right_inj _ |>.mp same
  exact Url.formQuery_injective (String.append_right_inj _ |>.mp queries)

/-- Below bases at one place stand the same addresses. -/
theorem text_askBelow_of_samePlace
    (follows : FollowsStandard library record escapes)
    (settled : AreSettled escapes (record base).scheme segments)
    (isPath : (record base).path = .segments segments)
    {other : α}
    {others : List String}
    (settledToo : AreSettled escapes (record other).scheme others)
    (isPathToo : (record other).path = .segments others)
    (samePlace : SamePlace (record base) (record other))
    {name : String}
    (plain : IsPlainName name)
    (first : String × String)
    (rest : List (String × String)) :
    (askBelow library (library.closed other) name (first :: rest)).map library.text =
      (askBelow library (library.closed base) name (first :: rest)).map library.text := by
  have sameFront : Url.closedFront segments = Url.closedFront others := by
    have sameText := samePlace.path
    rw [isPath, isPathToo, ← Url.text_closedFront settled.noSlash,
      ← Url.text_closedFront settledToo.noSlash] at sameText
    rw [← samePlace.scheme] at settledToo
    exact Url.eq_of_text_eq
      (fun segment member => settled.noSlash segment (Url.mem_of_mem_closedFront member))
      (fun segment member => settledToo.noSlash segment (Url.mem_of_mem_closedFront member))
      (String.append_left_inj _ |>.mp sameText)
  obtain ⟨url, isUrl, isRecord⟩ := exists_askBelow follows settled isPath plain first rest
  obtain ⟨otherUrl, isUrlToo, isRecordToo⟩ :=
    exists_askBelow follows settledToo isPathToo plain first rest
  have sameRecord : record otherUrl = record url := by
    rw [isRecord, isRecordToo, sameFront]
    simp only [samePlace.scheme, samePlace.authority]
  rw [isUrl, isUrlToo, Except.map, Except.map, follows.text, follows.text, sameRecord]

end Below

theorem isPlainName_rows : IsPlainName "rows" := ⟨by decide, by decide⟩

theorem isPlainName_splits : IsPlainName "splits" := ⟨by decide, by decide⟩

/-- Below a base that others can be joined to, requests for rows and for splits have addresses that
carry their parameters and nothing else of the base than its scheme, its authority and its path. -/
theorem addresses_carry_parameters
    {library : Library α}
    {record : α → Url}
    {escapes : UInt8 → Bool}
    (follows : FollowsStandard library record escapes)
    {text : String}
    {base : α}
    (read : library.parse? text = some base)
    (canBeBase : ∃ segments, (record base).path = .segments segments) :
    ∃ endpoint, readBase library text = .ok endpoint ∧
      (∀ request, ∃ url, askRows library endpoint request = .ok url ∧
        AsksBelow (record base) "rows"
          [("dataset", request.dataset), ("config", request.config), ("split", request.split),
            ("offset", toString request.offset), ("length", toString request.length)]
          (record url)) ∧
      (∀ dataset, ∃ url, askSplits library endpoint dataset = .ok url ∧
        AsksBelow (record base) "splits" [("dataset", dataset)] (record url)) ∧
      (∀ request other url otherUrl,
        askRows library endpoint request = .ok url → askRows library endpoint other = .ok otherUrl →
        library.text url = library.text otherUrl → request = other) ∧
      (∀ dataset other url otherUrl,
        askSplits library endpoint dataset = .ok url → askSplits library endpoint other = .ok otherUrl →
        library.text url = library.text otherUrl → dataset = other) ∧
      (∀ otherText other,
        library.parse? otherText = some other → (∃ others, (record other).path = .segments others) →
        SamePlace (record base) (record other) →
        ∃ otherEndpoint, readBase library otherText = .ok otherEndpoint ∧
          (∀ request, (askRows library otherEndpoint request).map library.text =
            (askRows library endpoint request).map library.text) ∧
          ∀ dataset, (askSplits library otherEndpoint dataset).map library.text =
            (askSplits library endpoint dataset).map library.text) := by
  obtain ⟨segments, isPath⟩ := canBeBase
  have settled := follows.areSettled read isPath
  have isEndpoint {text : String} {base : α} (read : library.parse? text = some base) :
      readBase library text = .ok (library.closed base) := by
    rw [readBase, read]
  refine ⟨_, isEndpoint read, fun request => exists_asksBelow follows settled isPath isPlainName_rows _ _,
    fun dataset => exists_asksBelow follows settled isPath isPlainName_splits _ _, ?_, ?_, ?_⟩
  · intro request other url otherUrl isUrl isOtherUrl same
    exact RowsRequest.eq_of_parameters_eq
      (parameters_eq_of_text_eq follows settled isPath isPlainName_rows isUrl isOtherUrl same)
  · intro dataset other url otherUrl isUrl isOtherUrl same
    have equal := parameters_eq_of_text_eq follows settled isPath isPlainName_splits isUrl isOtherUrl same
    simpa using equal
  · rintro otherText other readToo ⟨others, isPathToo⟩ samePlace
    have settledToo := follows.areSettled readToo isPathToo
    exact ⟨_, isEndpoint readToo,
      fun request => text_askBelow_of_samePlace follows settled isPath settledToo isPathToo samePlace
        isPlainName_rows _ _,
      fun dataset => text_askBelow_of_samePlace follows settled isPath settledToo isPathToo samePlace
        isPlainName_splits _ _⟩

/-- A base with a query and a fragment. -/
def mirror : Url :=
  ⟨"https", some ⟨"", none, .ipv6 [0, 0, 0, 0, 0, 0, 0, 1], some 8080⟩, .segments ["api"],
    some "token", some "top"⟩

/-- Marks, spaces and other letters in the parameters are read back, and neither the query nor a slash
behind the base matters. -/
theorem mirror_carries_parameters :
    Url.Standard.reference.parse? "https://[::1]:8080/api?token#top" = some mirror ∧
      ∃ endpoint url otherEndpoint,
        readBase Url.Standard.reference "https://[::1]:8080/api?token#top" = .ok endpoint ∧
        askRows Url.Standard.reference endpoint ⟨"a&b=c", "d+e f", "ü%26", 7, 100⟩ = .ok url ∧
        url.path.text = "/api/rows" ∧
        AsksBelow mirror "rows" [("dataset", "a&b=c"), ("config", "d+e f"), ("split", "ü%26"),
          ("offset", "7"), ("length", "100")] url ∧
        readBase Url.Standard.reference "https://[::1]:8080/api/" = .ok otherEndpoint ∧
        (askRows Url.Standard.reference otherEndpoint ⟨"a&b=c", "d+e f", "ü%26", 7, 100⟩).map Url.text =
          .ok url.text := by
  have read : Url.Standard.reference.parse? "https://[::1]:8080/api?token#top" = some mirror := by
    decide +kernel
  have readToo : Url.Standard.reference.parse? "https://[::1]:8080/api/" =
      some { mirror with path := .segments ["api", ""], query := none, fragment := none } := by
    decide +kernel
  obtain ⟨endpoint, isEndpoint, rows, -, -, -, samePlace⟩ :=
    addresses_carry_parameters Url.Standard.reference_followsStandard read ⟨_, rfl⟩
  obtain ⟨url, isUrl, asks⟩ := rows ⟨"a&b=c", "d+e f", "ü%26", 7, 100⟩
  obtain ⟨otherEndpoint, isOther, sameRows, -⟩ :=
    samePlace _ _ readToo ⟨_, rfl⟩ ⟨rfl, rfl, by decide⟩
  refine ⟨read, endpoint, url, otherEndpoint, isEndpoint, isUrl, asks.path.trans (by decide), asks,
    isOther, (sameRows _).trans ?_⟩
  rw [isUrl]
  rfl

end Hub
end Holdout
