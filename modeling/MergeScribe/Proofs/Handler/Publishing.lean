import MergeScribe.Proofs.Handler.Notes
import MergeScribe.Proofs.Handler.Parts
import MergeScribe.Proofs.Handler.Redelivery

/-!
# Publishing, question by question

The handler of tags asks for the changelog, and if it finds the notes of the version there, it asks
to publish them. Main statements: the handler asks for the changelog first (`Release.handle_eq`); the
tag of a prerelease gets the body of `HEAD` for its notes (`ReleaseNotes.ofTag_prerelease`); and in a
store in memory in which nothing fails the notes that the changelog has for a tag are published
(`Release.handle_publishes`).
-/

namespace MergeScribe

open Program

/-! ## 1. Notes -/

/-- The tag of a prerelease gets the body of `HEAD`, and the release says that it is one. -/
theorem ReleaseNotes.ofTag_prerelease {c : Changelog} {tag : Text} {v : Version} (path : Text)
    (htag : VersionId.PrereleaseTag tag) (hv : c.version? Version.head = some v) :
    ofTag c tag path = .ok ⟨tag, Version.head, v.body, true⟩ := by
  have hfound : find? c Version.head = some v := find?_eq_some_iff.mpr (.inl hv)
  have hid : v.id = Version.head := by simpa using List.find?_some hv
  rw [ofTag_of_find?_eq_some (.prerelease htag) path hfound, decide_eq_true rfl, ← hid]

/-- Notes are for tags that name a version. -/
theorem ReleaseNotes.ofTag?_ne_none {c : Changelog} {tag path : Text} {notes : ReleaseNotes}
    (h : ofTag c tag path = .ok notes) : VersionId.ofTag? tag ≠ none := by
  intro hnone
  unfold ofTag at h
  rw [hnone] at h
  cases h

namespace Release

/-! ## 2. What follows each answer -/

section After

variable (config : Config) (event : RefCreation)

/-- The question for the changelog. -/
def changelogCall : GitHubCall :=
  ⟨event.repository.id, .fetchFile config.history.path config.history.branch⟩

/-- The request to publish. -/
def publishCall (notes : ReleaseNotes) : GitHubCall :=
  ⟨event.repository.id, .createRelease notes.toRelease⟩

/-- The notes that the changelog in a file has for the tag. -/
def notesIn (file : Option FileContent) : Except HandlerError ReleaseNotes :=
  ReleaseNotes.ofTag (Changelog.parse (Merge.textOf file)) event.ref config.history.path

/-- What follows the answer to the request to publish. -/
def afterPublish (notes : ReleaseNotes) :
    Except Failure Unit → Program GitHub (Verdict ReleaseNotes)
  | .error failure => .done (.error (.release event.ref failure.describe))
  | .ok _ => .done (.ok (.handled notes))

/-- What follows when the changelog was searched for the notes. -/
def afterNotes : Except HandlerError ReleaseNotes → Program GitHub (Verdict ReleaseNotes)
  | .error problem => .done (.error problem)
  | .ok notes => .ask (publishCall event notes) (afterPublish event notes)

/-- What follows the answer to the question for the changelog. -/
def afterChangelog : Except Failure (Option FileContent) → Program GitHub (Verdict ReleaseNotes)
  | .error failure => .done (.error
      (.client ("error getting " ++ config.history.path ++ ": " ++ failure.describe)))
  | .ok file => afterNotes event (notesIn config event file)

/-- **For a tag that names a version the handler asks for the changelog first.** -/
theorem handle_eq (htag : event.refType = "tag") (hversion : VersionId.ofTag? event.ref ≠ none) :
    handle config event = .ask (changelogCall config event) (afterChangelog config event) := by
  unfold handle
  have hnamed : (VersionId.ofTag? event.ref).isNone = false := by
    simpa [Option.ne_none_iff_isSome] using hversion
  rw [if_neg (not_not_intro htag), hnamed]
  refine congrArg (Program.ask _) (funext fun answer => ?_)
  cases answer with
  | error failure => rfl
  | ok file =>
      have hnotes : ReleaseNotes.ofTag (Changelog.parse
          ((Option.map FileContent.content file).getD [])) event.ref config.history.path =
          notesIn config event file := rfl
      simp only [Program.bind, afterChangelog]
      rw [hnotes]
      cases notesIn config event file with
      | error problem => rfl
      | ok notes =>
          refine congrArg (Program.ask _) (funext fun answer => ?_)
          cases answer with
          | error failure => rfl
          | ok published => rfl

end After

/-! ## 3. Publishing in memory -/

/-- **The notes that the changelog has for a tag are published**, in a store in memory in which the
two requests go through. -/
theorem handle_publishes (config : Config) (event : RefCreation) (m : Memory) {notes : ReleaseNotes}
    (htag : event.refType = "tag")
    (hnotes : notesIn config event ((m.changelog? config).map StoredFile.contents) = .ok notes)
    (hfetch : (m.nextFailure .fetchFile).1 = none)
    (hpublish : (m.nextFailure .createRelease).1 = none) :
    ((handle config event).run Memory.respond m).1 = .ok (.handled notes) ∧
      (handle config event).transcript Memory.respond m =
        [⟨changelogCall config event, .ok ((m.changelog? config).map StoredFile.contents)⟩,
          ⟨publishCall event notes, .ok ()⟩] := by
  let m₁ := (m.nextFailure .fetchFile).2
  have hread : Memory.respond (changelogCall config event) m =
      (.ok ((m.changelog? config).map StoredFile.contents), m₁) := by
    have hfile : m₁.changelog? config = m.changelog? config :=
      Memory.changelog?_of_files (Memory.nextFailure_files m .fetchFile) config
    rw [m.respond_of_nextFailure (changelogCall config event) hfetch, ← hfile]
    rfl
  have hwrite : Memory.respond (publishCall event notes) m₁ =
      (.ok (), (m₁.nextFailure .createRelease).2) := by
    have hpasses : (m₁.nextFailure .createRelease).1 = none := by
      rw [m.nextFailure_other (by decide)]
      exact hpublish
    rw [m₁.respond_of_nextFailure (publishCall event notes) hpasses]
    rfl
  have hafter : afterChangelog config event (.ok ((m.changelog? config).map StoredFile.contents)) =
      .ask (publishCall event notes) (afterPublish event notes) :=
    congrArg (afterNotes event) hnotes
  let asked : Exchange GitHub :=
    ⟨changelogCall config event, .ok ((m.changelog? config).map StoredFile.contents)⟩
  let published : Exchange GitHub := ⟨publishCall event notes, .ok ()⟩
  let P := fun exchanges (verdict : Verdict ReleaseNotes) (_ : Memory) =>
    verdict = .ok (.handled notes) ∧ exchanges = [asked, published]
  let P' := fun exchanges => P (asked :: exchanges)
  rw [handle_eq config event htag (ReleaseNotes.ofTag?_ne_none hnotes)]
  refine ask_elim (P := P) hread hafter ?_
  exact ask_elim (P := P') hwrite rfl ⟨rfl, rfl⟩

end Release

end MergeScribe
