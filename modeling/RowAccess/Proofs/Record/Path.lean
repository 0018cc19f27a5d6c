import RowAccess.Proofs.Text.Split
import RowAccess.Record.Path

/-!
Contract: paths written as text and read again.

A path is always written with points. What was read between points comes back as it
was, and so does what was read between doubled underscores, unless one of the segments
holds a point: there the text does not tell this point from those between segments,
and the path that comes back has more of them, or none does.

Owns:
- the text of a path as characters, and what is read from it.
- the texts whose path is read again from its own text.
-/

namespace RowAccess.FieldPath

variable {text : String} {path : FieldPath}

theorem ofSegments?_eq_some {segments : List String} :
    ofSegments? segments = some path ↔ path.segments = segments := by
  constructor
  · intro built
    unfold ofSegments? at built
    split at built
    next => exact nomatch built
    next =>
      split at built
      next =>
        obtain rfl := Option.some.inj built
        rfl
      next => exact nomatch built
  · rintro rfl
    exact dif_pos path.filled

theorem toList_label (path : FieldPath) :
    path.label.toList = ['.'].intercalate (path.segments.map String.toList) := by
  rw [label, String.toList_intercalate]
  rfl

/-- The parts of a segment between its points. -/
def cutAtPoints (segment : String) : List String :=
  (Text.splitEvery '.' segment.toList).map String.ofList

theorem not_mem_of_mem_cutAtPoints {segment part : String} (member : part ∈ cutAtPoints segment) :
    '.' ∉ part.toList := by
  obtain ⟨characters, cut, rfl⟩ := List.mem_map.1 member
  rw [String.toList_ofList]
  exact Text.not_mem_of_mem_splitEvery cut

theorem cutAtPoints_of_not_mem {segment : String} (pointless : '.' ∉ segment.toList) :
    cutAtPoints segment = [segment] := by
  rw [cutAtPoints, Text.splitEvery_eq_splitOn, List.splitOn_eq_singleton pointless,
    List.map_singleton, String.ofList_toList]

/-- Segments are their own parts if and only if none of them holds a point. -/
theorem flatMap_cutAtPoints_eq_self {segments : List String} :
    segments.flatMap cutAtPoints = segments ↔ ∀ segment ∈ segments, '.' ∉ segment.toList := by
  constructor
  · intro same segment member
    rw [← same] at member
    obtain ⟨_, _, cut⟩ := List.mem_flatMap.1 member
    exact not_mem_of_mem_cutAtPoints cut
  · intro pointless
    have alone : ∀ segment ∈ segments, cutAtPoints segment = [segment] := fun segment member =>
      cutAtPoints_of_not_mem (pointless segment member)
    rw [List.flatMap_def, List.map_congr_left alone, ← List.flatMap_def, List.flatMap_singleton']

/-- The segments of a text are the parts between doubled underscores if there are any
in it, and the parts between points otherwise. -/
theorem segments_of_parse? (parsed : parse? text = some path) :
    path.segments.map String.toList =
      if Text.hasDoubled '_' text.toList then Text.splitDoubled '_' text.toList
      else Text.splitEvery '.' text.toList := by
  rw [parse?, ofSegments?_eq_some] at parsed
  have unread : String.toList ∘ String.ofList = id := funext fun _ => String.toList_ofList
  rw [parsed, List.map_map, unread, List.map_id]

theorem not_hasDoubled_of_parse? (parsed : parse? text = some path) {segment : String}
    (member : segment ∈ path.segments) : Text.hasDoubled '_' segment.toList = false := by
  have inParts := List.mem_map_of_mem (f := String.toList) member
  rw [segments_of_parse? parsed] at inParts
  split at inParts
  next => exact Text.hasDoubled_of_mem_splitDoubled inParts
  next absent =>
    have cut := Text.any_hasDoubled_splitEvery (show '.' ≠ '_' by decide) text.toList
    rw [Bool.eq_false_iff.2 absent, List.any_eq_false] at cut
    exact Bool.eq_false_iff.2 (cut _ inParts)

/-- A segment holds a point where the text has doubled underscores to cut it at. -/
theorem exists_point_of_parse? (parsed : parse? text = some path) :
    (∃ segment ∈ path.segments, '.' ∈ segment.toList) ↔
      ['_', '_'] <:+: text.toList ∧ '.' ∈ text.toList := by
  have inParts : (∃ segment ∈ path.segments, '.' ∈ segment.toList) ↔
      ∃ part ∈ path.segments.map String.toList, '.' ∈ part := by
    constructor
    · rintro ⟨segment, member, point⟩
      exact ⟨segment.toList, List.mem_map_of_mem member, point⟩
    · rintro ⟨part, member, point⟩
      obtain ⟨segment, inPath, rfl⟩ := List.mem_map.1 member
      exact ⟨segment, inPath, point⟩
  rw [inParts, segments_of_parse? parsed, ← Text.hasDoubled_iff]
  split
  next doubled =>
    rw [and_iff_right doubled]
    exact Text.exists_mem_splitDoubled (by decide)
  next absent =>
    constructor
    · rintro ⟨part, member, point⟩
      exact absurd point (Text.not_mem_of_mem_splitEvery member)
    · exact fun both => absurd both.1 absent

/-- The text of a path that was read has no doubled underscore, so that it is cut at
its points, those within a segment among them. -/
theorem parse?_label (parsed : parse? text = some path) :
    parse? path.label = ofSegments? (path.segments.flatMap cutAtPoints) := by
  have pointed : Text.hasDoubled '_' path.label.toList = false := by
    rw [toList_label, Text.hasDoubled_intercalate (by decide), List.any_map, List.any_eq_false]
    intro segment member
    rw [Function.comp_apply, not_hasDoubled_of_parse? parsed member]
    exact Bool.false_ne_true
  have filled : path.segments.map String.toList ≠ [] := List.cons_ne_nil _ _
  unfold parse?
  dsimp only
  rw [pointed, if_neg Bool.false_ne_true, toList_label,
    Text.splitEvery_intercalate filled, List.flatMap_map, List.map_flatMap]
  rfl

/-- A path that was read from a text is read again from its own text unless the text
has both doubled underscores and points. What is read in any case are the parts of the
segments between points, or nothing if one of these is empty. -/
theorem parsed_again_iff (parsed : parse? text = some path) :
    (parse? path.label = some path ↔ ¬ (['_', '_'] <:+: text.toList ∧ '.' ∈ text.toList)) ∧
      parse? path.label = ofSegments? (path.segments.flatMap cutAtPoints) := by
  refine ⟨?_, parse?_label parsed⟩
  rw [parse?_label parsed, ofSegments?_eq_some, eq_comm, flatMap_cutAtPoints_eq_self,
    ← exists_point_of_parse? parsed]
  simp only [not_exists, not_and]

/-- Single underscores within a segment are kept. -/
theorem parsed_again_line_owner :
    ∃ path : FieldPath, parse? "line_owner__is_active" = some path ∧
      path.segments = ["line_owner", "is_active"] ∧ parse? path.label = some path := by
  have parsed : parse? "line_owner__is_active" =
      some ⟨"line_owner", ["is_active"], by decide⟩ := by
    decide +kernel
  exact ⟨_, parsed, rfl, (parsed_again_iff parsed).1.2 (by decide +kernel)⟩

/-- A point within a segment becomes one between segments. -/
theorem owner_point_not_parsed_again :
    ∃ path again : FieldPath, parse? "owner__a.b" = some path ∧
      path.segments = ["owner", "a.b"] ∧ parse? path.label = some again ∧
      again.segments = ["owner", "a", "b"] :=
  ⟨⟨"owner", ["a.b"], by decide⟩, ⟨"owner", ["a", "b"], by decide⟩, by decide +kernel⟩

end RowAccess.FieldPath
