import ShaderTools.Text.Basic

/-!
The segments of a path in an address. A segment that stands for the place itself is left out, and
one that stands for the place above takes the segment before it away, unless that one is to stay;
either leaves a slash at the end if it is the last one.
-/

namespace ShaderTools.Http

/-- What segments stand for. -/
structure SegmentRules where
  /-- Whether a segment stands for the place itself. -/
  isHere : Text → Bool
  /-- Whether a segment stands for the place above. -/
  isAbove : Text → Bool
  /-- Whether a segment cannot be taken away. -/
  stays : Text → Bool

namespace SegmentRules

/-- Segments without the last one, if it can be taken away. -/
def withoutLast (rules : SegmentRules) (segments : List Text) : List Text :=
  if (segments.getLast?.map rules.stays).getD false then segments else segments.dropLast

/-- The segments behind those that are settled already, with the two kinds of dots carried out. -/
def settleFrom (rules : SegmentRules) (settled : List Text) : List Text → List Text
  | [] => settled
  | segment :: rest =>
    let ending : List Text := if rest.isEmpty then [[]] else []
    let next :=
      if rules.isAbove segment then rules.withoutLast settled ++ ending
      else if rules.isHere segment then settled ++ ending
      else settled ++ [segment]
    settleFrom rules next rest

/-- Segments with the two kinds of dots carried out. -/
def settle (rules : SegmentRules) (segments : List Text) : List Text :=
  rules.settleFrom [] segments

end SegmentRules

/-- A path of segments, each behind a slash. -/
def pathOfSegments (segments : List Text) : Text := segments.flatMap ('/' :: ·)

end ShaderTools.Http
