import MergeScribe.GitHub.Interface

/-!
# What handlers answer

A handler answers that an event is not for it, or what it did, or why it could not do it. The steps
that follow a merge answer one by one, and their failures are not failures of the handler.
-/

namespace MergeScribe

/-- What a handler did with an event. -/
inductive Outcome (α : Type) where
  | notApplicable (reason : Text)
  | handled (value : α)
  deriving DecidableEq, Repr

/-- What became of a step. -/
inductive StepOutcome where
  | done
  | skipped (reason : Text)
  | failed (message : Text)
  deriving DecidableEq, Repr

namespace StepOutcome

/-- Whether the step was carried out. -/
def isDone : StepOutcome → Bool
  | .done => true
  | _ => false

/-- Whether the step failed. -/
def isFailed : StepOutcome → Bool
  | .failed _ => true
  | _ => false

/-- The outcome in words. -/
def describe : StepOutcome → Text
  | .done => "done"
  | .skipped reason => "skipped (" ++ reason ++ ")"
  | .failed message => "failed (" ++ message ++ ")"

end StepOutcome

/-- Why a handler gave up. -/
inductive HandlerError where
  | unauthorized (login repository : Text)
  | merge (reference message : Text)
  | notAVersionTag (tag : Text)
  | versionMissing (version path : Text)
  | release (tag message : Text)
  | milestone (repository message : Text)
  | client (message : Text)
  deriving DecidableEq, Repr

/-- The error in words. -/
def HandlerError.message : HandlerError → Text
  | .unauthorized login repository =>
    login ++ " isn't allowed to merge anything on " ++ repository
  | .merge reference message => "error merging " ++ reference ++ ": " ++ message
  | .notAVersionTag tag => "not a version tag (" ++ tag ++ ")"
  | .versionMissing version path => "no '" ++ version ++ "' version in " ++ path
  | .release tag message => "error creating release " ++ tag ++ ": " ++ message
  | .milestone repository message =>
    "milestone update failed on " ++ repository ++ ": " ++ message
  | .client message => "GitHub request failed: " ++ message

/-- What a handler ends in. A handler is a program that asks GitHub and ends in a verdict. -/
abbrev Verdict (α : Type) : Type :=
  Except HandlerError (Outcome α)

end MergeScribe
