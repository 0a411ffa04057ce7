import Holdout.Proofs.Text.Pieces
import Holdout.Proofs.Url.Segment

/-!
# Paths are read again

The path of an address that has been read holds only segments that the path state leaves as they are
behind those before them. So when it gets a slash at its end and is read again, it has one empty segment
more and is otherwise the same.
-/

namespace Holdout
namespace Url
namespace Standard

section PathState

variable (escapes : UInt8 → Bool) (special isFile : Bool)

/-- A segment that the path state leaves as it is behind others, which are held in reverse. -/
structure Fits (before : List String) (segment : String) : Prop where
  kept : IsKept escapes special segment
  normal : withColon isFile before segment = segment

/-- Segments, held in reverse, each of which fits behind those before it. -/
def IsSettled : List String → Prop
  | [] => True
  | segment :: before => Fits escapes special isFile before segment ∧ IsSettled before

variable {escapes special isFile} {before : List String}

theorem isDriveLetter_iff {segment : List Char} :
    isDriveLetter segment = true ↔ ∃ letter mark,
      segment = [letter, mark] ∧ letter.isAlpha = true ∧ (mark = ':' ∨ mark = '|') := by
  constructor
  · intro isDrive
    rw [isDriveLetter.eq_def] at isDrive
    split at isDrive
    · next letter mark =>
      rw [Bool.and_eq_true, Bool.or_eq_true, decide_eq_true_eq, decide_eq_true_eq] at isDrive
      exact ⟨letter, mark, rfl, isDrive⟩
    · cases isDrive
  · rintro ⟨letter, mark, rfl, isLetter, isMark⟩
    rw [isDriveLetter, isLetter, Bool.true_and, Bool.or_eq_true, decide_eq_true_eq,
      decide_eq_true_eq]
    exact isMark

/-- At the front of a file's path a drive has a colon, and everything else is as it was. -/
theorem withColon_cases (isFile : Bool) (before : List String) (segment : String) :
    withColon isFile before segment = segment ∨
      ∃ letter, letter.isAlpha = true ∧ isFile = true ∧ before = [] ∧
        withColon isFile before segment = String.ofList [letter, ':'] := by
  rw [withColon.eq_def]
  split
  · next letter rest isDrive split =>
    rw [Bool.and_eq_true, Bool.and_eq_true, isDriveLetter_iff, List.isEmpty_iff] at isDrive
    obtain ⟨⟨ofFile, front⟩, first, mark, same, isLetter, -⟩ := isDrive
    rw [split] at same
    rw [(List.cons.inj same).1]
    exact .inr ⟨first, isLetter, ofFile, front, rfl⟩
  · exact .inl rfl

theorem fits_empty (before : List String) : Fits escapes special isFile before "" where
  kept := isKept_empty escapes special
  normal := by
    rw [withColon.eq_def, show isDriveLetter "".toList = false from rfl, Bool.and_false]

theorem fits_withColon (pathSet : IsPathSet escapes) {segment : String}
    (kept : IsKept escapes special segment) (before : List String) :
    Fits escapes special isFile before (withColon isFile before segment) := by
  rcases withColon_cases isFile before segment with same | ⟨letter, isLetter, rfl, rfl, same⟩
  · rw [same]
    exact ⟨kept, same⟩
  · rw [same]
    refine ⟨isKept_drive pathSet isLetter, ?_⟩
    have isDrive : isDriveLetter [letter, ':'] = true :=
      isDriveLetter_iff.mpr ⟨letter, ':', rfl, isLetter, .inl rfl⟩
    rw [withColon.eq_def, String.toList_ofList, isDrive]
    rfl

theorem IsSettled.shorten (settled : IsSettled escapes special isFile before) :
    IsSettled escapes special isFile (shorten isFile before) := by
  match before with
  | [] => trivial
  | [only] =>
    rw [Standard.shorten]
    split
    · exact settled
    · trivial
  | _ :: _ :: _ => exact settled.2

theorem IsSettled.push (settled : IsSettled escapes special isFile before)
    (pathSet : IsPathSet escapes) {segment : String}
    (plain : ∀ c ∈ segment.toList, IsPlain escapes c)
    (noSlash : ∀ c ∈ segment.toList, isSlash special c = false) :
    IsSettled escapes special isFile (push isFile before segment) := by
  rw [Standard.push]
  split
  · exact settled.shorten
  · next notDouble =>
    split
    · exact settled
    · next notSingle =>
      have noDots : isDots segment = false :=
        Bool.or_eq_false_iff.mpr ⟨Bool.not_eq_true _ ▸ notSingle, Bool.not_eq_true _ ▸ notDouble⟩
      exact ⟨fits_withColon pathSet ⟨plain, noSlash, noDots⟩ before, settled⟩

/-- Whatever segments come, the path state leaves settled ones. -/
theorem IsSettled.resolve (settled : IsSettled escapes special isFile before)
    (pathSet : IsPathSet escapes) {segments : List String}
    (plain : ∀ segment ∈ segments, ∀ c ∈ segment.toList, IsPlain escapes c)
    (noSlash : ∀ segment ∈ segments, ∀ c ∈ segment.toList, isSlash special c = false) :
    IsSettled escapes special isFile (resolve isFile before segments).reverse := by
  fun_induction Standard.resolve isFile before segments with
  | case1 before => rwa [List.reverse_reverse]
  | case2 before last =>
    rw [List.forall_mem_singleton] at plain noSlash
    rw [List.reverse_reverse]
    have pushed := settled.push pathSet plain noSlash
    split
    · exact ⟨fits_empty _, pushed⟩
    · exact pushed
  | case3 before segment next rest inductionHypothesis =>
    rw [List.forall_mem_cons] at plain noSlash
    exact inductionHypothesis (settled.push pathSet plain.1 noSlash.1) plain.2 noSlash.2

theorem IsSettled.right {behind : List String}
    (settled : IsSettled escapes special isFile (behind ++ before)) :
    IsSettled escapes special isFile before := by
  induction behind with
  | nil => exact settled
  | cons segment behind inductionHypothesis => exact inductionHypothesis settled.2

theorem IsSettled.kept (settled : IsSettled escapes special isFile before) :
    ∀ segment ∈ before, IsKept escapes special segment := by
  induction before with
  | nil => exact List.forall_mem_nil _
  | cons segment before inductionHypothesis =>
    exact List.forall_mem_cons.mpr ⟨settled.1.kept, inductionHypothesis settled.2⟩

theorem Fits.push_eq {segment : String} (fits : Fits escapes special isFile before segment) :
    push isFile before segment = segment :: before := by
  obtain ⟨notSingle, notDouble⟩ := Bool.or_eq_false_iff.mp fits.kept.noDots
  rw [push, notSingle, notDouble, if_neg Bool.false_ne_true, if_neg Bool.false_ne_true, fits.normal]

/-- Settled segments that are closed by a slash are read as themselves. -/
theorem IsSettled.resolve_eq {segments : List String}
    (settled : IsSettled escapes special isFile (segments.reverse ++ before)) :
    Standard.resolve isFile before (segments ++ [""]) = before.reverse ++ segments ++ [""] := by
  induction segments generalizing before with
  | nil =>
    have fits : Fits escapes special isFile before "" := fits_empty before
    rw [List.nil_append, Standard.resolve, fits.push_eq, if_neg (by decide), List.append_nil]
    exact List.reverse_cons
  | cons segment rest inductionHypothesis =>
    rw [List.reverse_cons, List.append_assoc, List.singleton_append] at settled
    obtain ⟨next, others, split⟩ := List.exists_cons_of_ne_nil
      (List.append_ne_nil_of_right_ne_nil rest (List.cons_ne_nil "" []))
    rw [List.cons_append, split, Standard.resolve, settled.right.1.push_eq, ← split,
      inductionHypothesis settled, List.reverse_cons, List.append_assoc, List.append_assoc,
      List.append_assoc]
    rfl

end PathState

section Reading

variable {escapes : UInt8 → Bool} {scheme : String} {segments : List String}

/-- Segments of an address of a scheme that its path state leaves as they are. -/
abbrev AreSettled (escapes : UInt8 → Bool) (scheme : String) (segments : List String) : Prop :=
  IsSettled escapes (specialSchemes.contains scheme) (scheme = "file") segments.reverse

theorem AreSettled.noSlash (settled : AreSettled escapes scheme segments) :
    ∀ segment ∈ segments, ∀ c ∈ segment.toList, isSlash (specialSchemes.contains scheme) c = false :=
  fun segment member => (settled.kept segment (List.mem_reverse.mpr member)).noSlash

theorem areSettled_of_isRead (pathSet : IsPathSet escapes)
    (read : IsRead escapes scheme segments) : AreSettled escapes scheme segments := by
  cases read with
  | nothing => trivial
  | segments text =>
    have none : IsSettled escapes (specialSchemes.contains scheme) (scheme = "file") [] := trivial
    refine none.resolve pathSet ?_ ?_
    · intro segment member c inside
      obtain ⟨piece, -, rfl⟩ := List.mem_map.mp member
      exact pathSet.isPlain_of_mem inside
    · intro segment member
      obtain ⟨piece, isPiece, rfl⟩ := List.mem_map.mp member
      exact noSlash_percentEncode pathSet (Text.not_isMark_of_mem_splitWhere piece isPiece)

theorem splitWhere_segments {special : Bool}
    (noSlash : ∀ segment ∈ segments, ∀ c ∈ segment.toList, isSlash special c = false) :
    Text.splitWhere (isSlash special) (segments.flatMap fun segment => segment.toList ++ ['/']) =
      segments.map String.toList ++ [[]] := by
  induction segments with
  | nil => rfl
  | cons segment rest inductionHypothesis =>
    rw [List.forall_mem_cons] at noSlash
    rw [List.flatMap_cons, List.append_assoc, List.singleton_append,
      Text.splitWhere_append_cons noSlash.1 rfl, inductionHypothesis noSlash.2]
    rfl

theorem isBreak_of_isPlain (pathSet : IsPathSet escapes) {c : Char} (plain : IsPlain escapes c) :
    isBreak c = false := by
  by_contra broken
  rw [Bool.not_eq_false, isBreak, Bool.or_eq_true, Bool.or_eq_true, decide_eq_true_eq,
    decide_eq_true_eq, decide_eq_true_eq] at broken
  have control : isControlByte (UInt8.ofNat c.toNat) = true := by
    rcases broken with (rfl | rfl) | rfl <;> decide
  rw [IsPlain, pathSet.controls _ control] at plain
  cases plain.2

/-- A settled path with a slash behind each segment is read as one with an empty segment more. -/
theorem readSegments_of_areSettled (pathSet : IsPathSet escapes)
    (settled : AreSettled escapes scheme segments) :
    Standard.readSegments escapes scheme
        (segments.flatMap fun segment => segment.toList ++ ['/']) =
      segments ++ [""] := by
  have kept := fun segment member => settled.kept segment (List.mem_reverse.mpr member)
  have noBreak : (segments.flatMap fun segment => segment.toList ++ ['/']).filter
      (fun c => !isBreak c) = segments.flatMap fun segment => segment.toList ++ ['/'] := by
    refine List.filter_eq_self.mpr fun c member => ?_
    obtain ⟨segment, among, inside⟩ := List.mem_flatMap.mp member
    rcases List.mem_append.mp inside with inSegment | isSlash
    · rw [isBreak_of_isPlain pathSet ((kept segment among).plain c inSegment)]
      rfl
    · rw [List.mem_singleton.mp isSlash]
      rfl
  have written : (segments.map String.toList).map (fun piece => percentEncode escapes (utf8 piece)) =
      segments := by
    rw [List.map_map]
    exact (List.map_congr_left fun segment member =>
      percentEncode_of_plain (kept segment member).plain).trans (List.map_id _)
  have nothing : percentEncode escapes (utf8 []) = "" :=
    percentEncode_of_plain (isKept_empty escapes false).plain
  rw [Standard.readSegments, noBreak,
    splitWhere_segments fun segment member => (kept segment member).noSlash, List.map_append, written,
    List.map_singleton, nothing]
  have behind : IsSettled escapes (specialSchemes.contains scheme) (scheme = "file")
      (segments.reverse ++ []) := by
    rwa [List.append_nil]
  exact behind.resolve_eq

end Reading

end Standard

/-! ## Paths that end in a slash -/

section Text

variable {special : Bool} {segments : List String}

theorem toList_text (segments : List String) :
    (Path.segments segments).text.toList =
      segments.flatMap fun segment => '/' :: segment.toList := by
  rw [Path.text, String.toList_join, List.flatMap_map]
  refine List.flatMap_congr fun segment _ => ?_
  rw [String.toList_append]
  rfl

/-- A slash behind a path can be put behind each of its segments. -/
theorem toList_text_append_slash (segments : List String) :
    (Path.segments segments).text.toList ++ ['/'] =
      '/' :: segments.flatMap fun segment => segment.toList ++ ['/'] := by
  rw [toList_text]
  induction segments with
  | nil => rfl
  | cons segment rest inductionHypothesis =>
    rw [List.flatMap_cons, List.append_assoc, inductionHypothesis, List.flatMap_cons,
      List.cons_append, List.append_assoc, List.singleton_append]

/-- The text of a path tells its segments. -/
theorem eq_of_text_eq {others : List String}
    (noSlash : ∀ segment ∈ segments, ∀ c ∈ segment.toList, isSlash special c = false)
    (noSlashToo : ∀ segment ∈ others, ∀ c ∈ segment.toList, isSlash special c = false)
    (same : (Path.segments segments).text = (Path.segments others).text) :
    segments = others := by
  have text := congrArg (fun text : String => text.toList ++ ['/']) same
  simp only [toList_text_append_slash] at text
  have pieces := congrArg (Text.splitWhere (isSlash special)) (List.cons.inj text).2
  rw [Standard.splitWhere_segments noSlash, Standard.splitWhere_segments noSlashToo] at pieces
  have same := List.append_cancel_right pieces
  exact (List.map_inj_right fun _ _ => String.toList_injective).mp same

theorem text_append (segments : List String) (last : String) :
    (Path.segments (segments ++ [last])).text = (Path.segments segments).text ++ "/" ++ last := by
  simp only [Path.text, List.map_append, String.join_append, List.map_cons, List.map_nil,
    String.join_cons, String.join_nil, String.append_empty, String.append_assoc]

/-- The text of a path ends in a slash just if its last segment is empty. -/
theorem getLast?_text_eq_slash_iff
    (noSlash : ∀ segment ∈ segments, ∀ c ∈ segment.toList, isSlash special c = false) :
    (Path.segments segments).text.toList.getLast? = some '/' ↔ segments.getLast? = some "" := by
  rcases List.eq_nil_or_concat' segments with rfl | ⟨front, last, rfl⟩
  · exact iff_of_false nofun nofun
  · rw [text_append, String.toList_append, String.toList_append, List.getLast?_concat,
      Option.some_inj]
    constructor
    · intro slash
      by_contra notEmpty
      rw [List.getLast?_append_of_ne_nil _ (mt String.toList_eq_nil_iff.mp notEmpty)] at slash
      have plain := noSlash last (List.mem_append_right front List.mem_cons_self) '/'
        (List.mem_of_getLast? slash)
      cases plain
    · rintro rfl
      rw [String.toList_empty, List.append_nil]
      exact List.getLast?_concat

/-- The text of a path with a slash at its end. -/
def completed (path : String) : String :=
  if path.toList.getLast? = some '/' then path else path ++ "/"

/-- The segments of a path in front of the slash that ends it, which is put there if it is missing. -/
def closedFront (segments : List String) : List String :=
  if segments.getLast? = some "" then segments.dropLast else segments

theorem mem_of_mem_closedFront {segment : String} (member : segment ∈ closedFront segments) :
    segment ∈ segments := by
  rw [closedFront] at member
  split at member
  · exact List.dropLast_subset segments member
  · exact member

theorem text_closedFront
    (noSlash : ∀ segment ∈ segments, ∀ c ∈ segment.toList, isSlash special c = false) :
    (Path.segments (closedFront segments)).text ++ "/" = completed (Path.segments segments).text := by
  have ends := getLast?_text_eq_slash_iff noSlash
  rw [completed, closedFront]
  by_cases closed : segments.getLast? = some ""
  · obtain ⟨front, split⟩ := List.getLast?_eq_some_iff.mp closed
    rw [if_pos closed, if_pos (ends.mpr closed), split, List.dropLast_concat, text_append,
      String.append_empty]
  · rw [if_neg closed, if_neg (mt ends.mp closed)]

end Text

open Standard

namespace FollowsStandard

variable {library : Library α} {record : α → Url} {escapes : UInt8 → Bool}

/-- The segments of an address that has been read are settled. -/
theorem areSettled (follows : FollowsStandard library record escapes) {text : String} {address : α}
    {segments : List String}
    (read : library.parse? text = some address)
    (isPath : (record address).path = .segments segments) :
    AreSettled escapes (record address).scheme segments :=
  areSettled_of_isRead follows.pathSet (follows.parse read isPath)

/-- A slash is put behind a path without one, and all else stays. -/
theorem record_closed (follows : FollowsStandard library record escapes) {address : α}
    {segments : List String}
    (isPath : (record address).path = .segments segments)
    (settled : AreSettled escapes (record address).scheme segments) :
    record (library.closed address) = { record address with
      path := .segments (closedFront segments ++ [""]) } := by
  have ends := getLast?_text_eq_slash_iff settled.noSlash
  rw [Library.closed, follows.path, isPath, closedFront]
  by_cases closed : segments.getLast? = some ""
  · obtain ⟨front, split⟩ := List.getLast?_eq_some_iff.mp closed
    rw [if_pos (ends.mpr closed), if_pos closed, split, List.dropLast_concat, ← split, ← isPath]
  · have slash : (Path.segments segments).text ++ "/" = String.ofList
        ('/' :: segments.flatMap fun segment => segment.toList ++ ['/']) := by
      apply String.toList_injective
      rw [String.toList_ofList, String.toList_append]
      exact toList_text_append_slash segments
    rw [if_neg (mt ends.mp closed), if_neg closed, slash, follows.setPath _ isPath,
      readSegments_of_areSettled follows.pathSet settled]

end FollowsStandard

end Url
end Holdout
