import MergeScribe.Text.Basic
import MergeScribe.Text.Digit

/-!
# Version ids and tags

A version is written with two or three numbers, such as `3.0` or `3.0.1`, to which the stage of a
prerelease may be added: `3.2.0.pre.beta1`, `3.2.0.pre.rc2`. The heading of a version may put a `v`
in front. The tag of a release must, and it must have three numbers.
-/

namespace MergeScribe

namespace VersionId

/-- A run of digits that is not empty. -/
def isNumber (t : Text) : Bool :=
  !t.isEmpty && t.all Text.isDigit

/-- The name of a prerelease stage: `beta` or `rc`, and a number. -/
def isStage (t : Text) : Bool :=
  (Text.after? "beta" t).any isNumber || (Text.after? "rc" t).any isNumber

/-- Two numbers, with or without a prerelease stage. -/
def isShort (t : Text) : Bool :=
  match Text.pieces '.' t with
  | [a, b] => isNumber a && isNumber b
  | [a, b, pre, stage] => isNumber a && isNumber b && pre == "pre".toList && isStage stage
  | _ => false

/-- Three numbers, with or without a prerelease stage. -/
def isFull (t : Text) : Bool :=
  match Text.pieces '.' t with
  | [a, b, c] => isNumber a && isNumber b && isNumber c
  | [a, b, c, pre, stage] =>
    isNumber a && isNumber b && isNumber c && pre == "pre".toList && isStage stage
  | _ => false

/-- A released version as headings write it, with or without the `v`. -/
def isReleased (t : Text) : Bool :=
  let plain := (Text.after? "v" t).getD t
  isShort plain || isFull plain

/-- The version that a tag names; only a `v` with a full version names one. -/
def ofTag? (tag : Text) : Option Text :=
  (Text.after? "v" tag).filter isFull

/-- Whether a version is a prerelease, which its text shows. -/
def isPrerelease (version : Text) : Bool :=
  Text.occursIn ".pre" version

end VersionId

end MergeScribe
