import MergeScribe.Proofs.Handler.Publishing

/-!
# The course of an announcement

The handler of tags, from its first question to its verdict, whatever it is answered. Main
statements: there are five courses that it can take, namely to pass the event over, to stop where
the changelog cannot be read or has not got the version, to be refused, and to publish
(`Release.handle_course`); a release is asked for on the last two alone
(`Release.Course.asksRelease_iff`); and so the answers tell what the handler asks and ends in
(`Release.handle_asks`).
-/

namespace MergeScribe

open Program VersionId

/-- Whether a tag for a version was made. -/
def RefCreation.NamesVersion (event : RefCreation) : Prop :=
  event.refType = "tag" ∧ VersionTag event.ref

namespace Release

/-! ## 1. Courses -/

theorem handle_of_not_namesVersion (config : Config) {event : RefCreation}
    (h : ¬ event.NamesVersion) :
    ∃ reason, handle config event = .done (.ok (.notApplicable reason)) := by
  unfold handle
  by_cases htag : event.refType = "tag"
  · have hother : (VersionId.ofTag? event.ref).isNone = true := by
      rw [ofTag?_eq_none_iff.mpr fun hversion => h ⟨htag, hversion⟩]
      rfl
    rw [if_neg (not_not_intro htag), if_pos hother]
    exact ⟨_, rfl⟩
  · rw [if_pos htag]
    exact ⟨_, rfl⟩

/-- Where a tag names a version, only that version can be missing. -/
theorem notesIn_error {config : Config} {event : RefCreation} {file : Option FileContent}
    {problem : HandlerError} (hversion : VersionTag event.ref)
    (h : notesIn config event file = .error problem) :
    ∃ wanted, ReleaseNotes.AsksFor event.ref wanted ∧
      problem = .versionMissing wanted config.history.path := by
  obtain ⟨wanted, hasks⟩ := ReleaseNotes.exists_asksFor hversion
  refine ⟨wanted, hasks, ?_⟩
  rw [notesIn] at h
  rcases ReleaseNotes.ofTag_cases hasks (Merge.textOf file) config.history.path with
    ⟨-, v, -, e⟩ | ⟨-, e⟩
  · rw [e] at h
    cases h
  · rw [e] at h
    exact (Except.error.inj h).symm

section Courses

variable {σ : Type} (respond : Responder GitHub σ) (config : Config) (event : RefCreation)

/-- The exchange that asks for the changelog. -/
def asked (answer : Except Failure (Option FileContent)) : Exchange GitHub :=
  ⟨changelogCall config event, answer⟩

/-- The exchange that asks to publish notes. -/
def announced (notes : ReleaseNotes) (answer : Except Failure Unit) : Exchange GitHub :=
  ⟨publishCall event notes, answer⟩

/-- What the handler does with an event: from which state, in which exchanges, with which verdict
and to which state. -/
inductive Course (s : σ) : List (Exchange GitHub) → Verdict ReleaseNotes → σ → Prop
  | passedOver {reason : Text} (h : ¬ event.NamesVersion) :
      Course s [] (.ok (.notApplicable reason)) s
  | unread {s' : σ} {failure : Failure} (h : event.NamesVersion)
      (read : respond (changelogCall config event) s = (.error failure, s')) :
      Course s [asked config event (.error failure)]
        (.error (.client ("error getting " ++ config.history.path ++ ": " ++ failure.describe))) s'
  | missing {s' : σ} {file : Option FileContent} {wanted : Text} (h : event.NamesVersion)
      (read : respond (changelogCall config event) s = (.ok file, s'))
      (wants : ReleaseNotes.AsksFor event.ref wanted)
      (none : notesIn config event file = .error (.versionMissing wanted config.history.path)) :
      Course s [asked config event (.ok file)]
        (.error (.versionMissing wanted config.history.path)) s'
  | refused {s₁ s' : σ} {file : Option FileContent} {notes : ReleaseNotes} {failure : Failure}
      (h : event.NamesVersion)
      (read : respond (changelogCall config event) s = (.ok file, s₁))
      (found : notesIn config event file = .ok notes)
      (tried : respond (publishCall event notes) s₁ = (.error failure, s')) :
      Course s [asked config event (.ok file), announced event notes (.error failure)]
        (.error (.release event.ref failure.describe)) s'
  | published {s₁ s' : σ} {file : Option FileContent} {notes : ReleaseNotes}
      (h : event.NamesVersion)
      (read : respond (changelogCall config event) s = (.ok file, s₁))
      (found : notesIn config event file = .ok notes)
      (tried : respond (publishCall event notes) s₁ = (.ok (), s')) :
      Course s [asked config event (.ok file), announced event notes (.ok ())]
        (.ok (.handled notes)) s'

/-- **A run of the handler takes one of five courses.** -/
theorem handle_course (s : σ) :
    Course respond config event s ((handle config event).transcript respond s)
      ((handle config event).run respond s).1 ((handle config event).run respond s).2 := by
  by_cases h : event.NamesVersion
  · have hnamed : VersionId.ofTag? event.ref ≠ none := fun e => ofTag?_eq_none_iff.mp e h.2
    rw [handle_eq config event h.1 hnamed]
    rcases read : respond (changelogCall config event) s with ⟨answer, s₁⟩
    cases answer with
    | error failure =>
        exact ask_elim (P := Course respond config event s) read rfl (.unread h read)
    | ok file =>
        cases found : notesIn config event file with
        | error problem =>
            obtain ⟨wanted, wants, rfl⟩ := notesIn_error h.2 found
            exact ask_elim (P := Course respond config event s) read
              (congrArg (afterNotes event) found) (.missing h read wants found)
        | ok notes =>
            refine ask_elim (P := Course respond config event s) read
              (congrArg (afterNotes event) found) ?_
            let P := fun exchanges =>
              Course respond config event s (asked config event (.ok file) :: exchanges)
            rcases tried : respond (publishCall event notes) s₁ with ⟨answer, s₂⟩
            cases answer with
            | error failure =>
                exact ask_elim (P := P) tried rfl (.refused h read found tried)
            | ok done => exact ask_elim (P := P) tried rfl (.published h read found tried)
  · obtain ⟨reason, e⟩ := handle_of_not_namesVersion config h
    rw [e]
    exact .passedOver h

end Courses

/-! ## 2. What a course shows -/

section Shows

variable {σ : Type} {respond : Responder GitHub σ} {config : Config} {event : RefCreation}
  {s s' : σ} {exchanges : List (Exchange GitHub)} {verdict : Verdict ReleaseNotes}

/-- The notes for a tag are published under the tag, and named for it. -/
theorem announced_of_found {file : Option FileContent} {notes : ReleaseNotes}
    (h : notesIn config event file = .ok notes) (answer : Except Failure Unit) :
    announced event notes answer = ⟨⟨event.repository.id,
      .createRelease ⟨event.ref, event.ref, notes.body, notes.prerelease⟩⟩, answer⟩ := by
  obtain ⟨tag, version, body, prerelease⟩ := notes
  obtain rfl : tag = event.ref := ReleaseNotes.tag_eq h
  rfl

theorem Course.ne_notAVersionTag (h : Course respond config event s exchanges verdict s')
    (tag : Text) : verdict ≠ .error (.notAVersionTag tag) := by
  cases h <;> exact fun e => nomatch e

/-- For an event that names no version nothing is asked. -/
theorem Course.quiet (h : Course respond config event s exchanges verdict s')
    (hother : ¬ event.NamesVersion) :
    exchanges = [] ∧ ∃ reason, verdict = .ok (.notApplicable reason) := by
  cases h with
  | passedOver h => exact ⟨rfl, _, rfl⟩
  | unread h read | missing h read wants none | refused h read found tried
  | published h read found tried => exact absurd h hother

/-- Whether a release was asked for. -/
def AsksRelease (exchanges : List (Exchange GitHub)) : Prop :=
  ∃ x ∈ exchanges, x.call.operation.method = .createRelease

theorem not_asksRelease_asked (answer : Except Failure (Option FileContent)) :
    ¬ AsksRelease [asked config event answer] := by
  rintro ⟨x, hx, hrelease⟩
  rw [List.mem_singleton.mp hx] at hrelease
  cases hrelease

theorem asksRelease_announced (first : Exchange GitHub) (notes : ReleaseNotes)
    (answer : Except Failure Unit) : AsksRelease [first, announced event notes answer] :=
  ⟨announced event notes answer, List.mem_cons_of_mem _ (List.mem_singleton_self _), rfl⟩

/-- **A release is asked for exactly when the changelog is read and has notes for the tag.** -/
theorem Course.asksRelease_iff (h : Course respond config event s exchanges verdict s')
    (hnamed : event.NamesVersion) :
    AsksRelease exchanges ↔ ∃ file notes,
      (respond (changelogCall config event) s).1 = .ok file ∧
        notesIn config event file = .ok notes := by
  cases h with
  | passedOver h => exact absurd hnamed h
  | unread h read =>
      rw [read]
      exact iff_of_false (not_asksRelease_asked _) fun ⟨_, _, e, _⟩ => nomatch e
  | missing h read wants none =>
      rw [read]
      refine iff_of_false (not_asksRelease_asked _) ?_
      rintro ⟨file', notes, e, found⟩
      cases e
      rw [none] at found
      cases found
  | refused h read found tried | published h read found tried =>
      rw [read]
      exact iff_of_true (asksRelease_announced _ _ _) ⟨_, _, rfl, found⟩

/-- Where the changelog could not be read or has no notes for the tag, no release was asked for. -/
theorem Course.not_asksRelease (h : Course respond config event s exchanges verdict s')
    (hv : (∃ message, verdict = .error (.client message)) ∨
      ∃ version path, verdict = .error (.versionMissing version path)) :
    ¬ AsksRelease exchanges := by
  cases h with
  | unread h read => exact not_asksRelease_asked _
  | missing h read wants none => exact not_asksRelease_asked _
  | passedOver h | refused h read found tried | published h read found tried =>
      rcases hv with ⟨_, e⟩ | ⟨_, _, e⟩ <;> cases e

/-- **What the handler asks, and what it ends in.** An event that does not name a version is passed
over without a question. For any other the changelog is asked for first, in the file and on the
branch of the configuration. If it could not be read, or has not got the version that the tag asks
for, nothing more is asked, and the verdict says so. Otherwise, and only then, the release is asked
for, once, under the tag, with the notes that the changelog has, and the verdict tells whether it
was published. A verdict never says that a tag names no version. -/
theorem handle_asks (respond : Responder GitHub σ) (config : Config) (event : RefCreation)
    (s : σ) :
    let exchanges := (handle config event).transcript respond s
    let verdict := ((handle config event).run respond s).1
    let fetch : GitHubCall :=
      ⟨event.repository.id, .fetchFile config.history.path config.history.branch⟩
    let notesFor := fun file : Option FileContent => ReleaseNotes.ofTag
      (Changelog.parse ((file.map FileContent.content).getD [])) event.ref config.history.path
    let fetched := respond fetch s
    (¬ event.NamesVersion → exchanges = [] ∧ ∃ reason, verdict = .ok (.notApplicable reason)) ∧
    (event.NamesVersion → ∃ later, exchanges = ⟨fetch, fetched.1⟩ :: later ∧
      ((∃ failure, fetched.1 = .error failure ∧ later = [] ∧ verdict = .error
          (.client ("error getting " ++ config.history.path ++ ": " ++ failure.describe))) ∨
        (∃ file wanted, fetched.1 = .ok file ∧ ReleaseNotes.AsksFor event.ref wanted ∧
          notesFor file = .error (.versionMissing wanted config.history.path) ∧ later = [] ∧
          verdict = .error (.versionMissing wanted config.history.path)) ∨
        ∃ file notes answer, fetched.1 = .ok file ∧ notesFor file = .ok notes ∧
          later = [⟨⟨event.repository.id,
            .createRelease ⟨event.ref, event.ref, notes.body, notes.prerelease⟩⟩, answer⟩] ∧
          ((∃ failure, answer = .error failure ∧
              verdict = .error (.release event.ref failure.describe)) ∨
            answer = .ok () ∧ verdict = .ok (.handled notes)))) ∧
    (event.NamesVersion → (AsksRelease exchanges ↔
      ∃ file notes, fetched.1 = .ok file ∧ notesFor file = .ok notes)) ∧
    (∀ tag, verdict ≠ .error (.notAVersionTag tag)) ∧
    ((∃ message, verdict = .error (.client message)) ∨
      (∃ version path, verdict = .error (.versionMissing version path)) →
        ¬ AsksRelease exchanges) := by
  intro exchanges verdict fetch notesFor fetched
  have hcourse : Course respond config event s exchanges verdict _ :=
    handle_course respond config event s
  refine ⟨hcourse.quiet, fun hnamed => ?_, hcourse.asksRelease_iff, hcourse.ne_notAVersionTag,
    hcourse.not_asksRelease⟩
  clear_value exchanges verdict
  generalize ((handle config event).run respond s).2 = s' at hcourse
  cases hcourse with
  | passedOver h => exact absurd hnamed h
  | unread h read =>
      have hfetched : fetched = _ := read
      rw [hfetched]
      exact ⟨[], rfl, .inl ⟨_, rfl, rfl, rfl⟩⟩
  | missing h read wants none =>
      have hfetched : fetched = _ := read
      rw [hfetched]
      exact ⟨[], rfl, .inr (.inl ⟨_, _, rfl, wants, none, rfl, rfl⟩)⟩
  | refused h read found tried =>
      have hfetched : fetched = _ := read
      rw [hfetched, announced_of_found found]
      exact ⟨_, rfl, .inr (.inr ⟨_, _, _, rfl, found, rfl, .inl ⟨_, rfl, rfl⟩⟩)⟩
  | published h read found tried =>
      have hfetched : fetched = _ := read
      rw [hfetched, announced_of_found found]
      exact ⟨_, rfl, .inr (.inr ⟨_, _, _, rfl, found, rfl, .inr ⟨rfl, rfl⟩⟩)⟩

end Shows

end Release

end MergeScribe
