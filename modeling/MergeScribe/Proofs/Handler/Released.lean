import MergeScribe.Proofs.Changelog.Body
import MergeScribe.Proofs.Handler.Publishing

/-!
# What is merged is released

A change that a merge recorded is in the notes of the prerelease that is tagged next. Main statements:
a loop that is done ends with the attempt whose write went through (`Attempts.last_of_done`), which
leaves the changelog with the change entered (`Tries.entered`); what `HEAD` is announced with then
reads back as all that it had before, with the change last in its section
(`Changelog.body_addMerge`); and so the handler of tags publishes what the handler of comments
recorded (`merged_is_released`).
-/

namespace MergeScribe

open Program Text

/-! ## 1. The body of `HEAD` -/

/-- A version as it is found, or without anything in it. -/
theorem Changelog.entriesAt_getD_fresh (c : Changelog) (id : Text) (place : Place) :
    ((c.version? id).getD (Version.fresh id)).entriesAt place = c.entriesAt id place := by
  unfold Changelog.entriesAt
  cases c.version? id with
  | none => exact Version.entriesAt_fresh id place
  | some v => rfl

theorem Version.isEmpty_append (v : Version) (e : Entry) (place : Place) :
    (v.append e place).isEmpty = false := by
  cases hempty : (v.append e place).isEmpty with
  | false => rfl
  | true =>
      obtain ⟨hentries, hsections⟩ : (v.append e place).entries = [] ∧
          (v.append e place).sections = [] := by
        simpa [Version.isEmpty] using hempty
      have hlast := Version.entriesAt_append v e place place
      have hnone : (v.append e place).entriesAt place = [] := by
        cases place with
        | direct => exact hentries
        | under name =>
            rw [Version.entriesAt, Version.section?, hsections]
            rfl
      rw [hnone, if_pos rfl] at hlast
      exact absurd hlast.symm (List.append_ne_nil_of_right_ne_nil _ (List.cons_ne_nil _ _))

/-- What a body holds: it reads, behind the heading of `HEAD`, as one version, which has the entries
of `HEAD` in a document and one more entry, last in its place. -/
structure Announces (body : Text) (c : Changelog) (e : Entry) (place : Place) (v : Version) :
    Prop where
  read : Changelog.parse ("## HEAD\n\n" ++ body) = ⟨[v]⟩
  head : v.id = Version.head
  entries : ∀ place', v.entriesAt place' =
    c.entriesAt Version.head place' ++ if place' = place then [e] else []
  sections : ∀ old, c.version? Version.head = some old →
    old.sections.map Section.name <+: v.sections.map Section.name

/-- **The body of `HEAD` holds what was there and the change that was entered.** -/
theorem Changelog.body_addMerge (t : Text) {sectionName title r : Text}
    (hs : sectionName = noSection ∨ Phrase sectionName) (ht : startsFirm title = true)
    (hl : '\n' ∉ title) (hr : isReference r = true)
    (hfresh : Entry.listed ((parse t).entriesAt Version.head (Place.ofSection sectionName))
      (some r) = false) :
    ∃ head v, (parse (addMerge t sectionName title r)).version? Version.head = some head ∧
      Announces head.body (parse t) ⟨escapeHtml title, some r⟩ (Place.ofSection sectionName) v := by
  let entry : Entry := ⟨escapeHtml title, some r⟩
  let place := Place.ofSection sectionName
  let old := ((parse t).version? Version.head).getD (Version.fresh Version.head)
  let head := old.append entry place
  have hentry : Entry.referring (escapeHtml title) r = entry := Entry.referring_of_isReference _ hr
  have hentered : parse (addMerge t sectionName title r) =
      ((parse t).append Version.head place entry).2 := by
    rw [parse_addMerge t hs ht hl hr, insertMerge, hentry]
  have hfound : (parse (addMerge t sectionName title r)).version? Version.head = some head := by
    rw [hentered, version?_append hfresh, if_pos rfl]
  have hcanonical : head.Canonical :=
    (parse_canonical (addMerge t sectionName title r)).versions head
      (List.mem_of_find?_eq_some hfound)
  have hid : head.id = Version.head := by simpa using List.find?_some hfound
  let undated : Version := { head with date := none }
  have hbody : parse ("## HEAD\n\n" ++ head.body) = ⟨[undated]⟩ := by
    have htext : "## HEAD\n\n" ++ head.body = "## " ++ head.id ++ "\n\n" ++ head.body := by
      rw [hid]
      rfl
    rw [htext]
    exact parse_body hcanonical (Version.isEmpty_append old entry place)
  refine ⟨head, undated, hfound, hbody, hid, fun place' => ?_, fun v hv => ?_⟩
  · have hundated : undated.entriesAt place' = head.entriesAt place' := by cases place' <;> rfl
    rw [hundated, Version.entriesAt_append, entriesAt_getD_fresh, entriesAt_getD_fresh]
    split
    · rename_i e
      rw [e]
    · exact (List.append_nil _).symm
  · have hsame : old = v := by
      show ((parse t).version? Version.head).getD _ = v
      rw [hv]
      rfl
    rw [← hsame]
    exact old.names_isPrefix_append entry place

namespace Merge

/-! ## 2. The write that went through -/

section Done

variable {σ : Type} {respond : Responder GitHub σ} {config : Config} {r : RepositoryId}
  {pr : PullRequest} {sectionName : Text} {left : Nat} {s s' : σ}
  {exchanges : List (Exchange GitHub)} {outcome : StepOutcome}

/-- **A loop that is done ends with the attempt whose write went through.** -/
theorem Attempts.last_of_done
    (h : Attempts respond config r pr sectionName left s exchanges outcome s')
    (hdone : outcome = .done) : ∃ before current sha s₁,
      exchanges = before ++ tried config r pr sectionName current (.ok sha) ∧
      Tries respond config r pr sectionName current (.ok sha) s₁ s' := by
  -- the attempts before it lost their race, and they come before it in the transcript
  induction h with
  | exhausted => cases hdone
  | unread read => cases hdone
  | listed read h => cases hdone
  | refused h hc => cases hdone
  | written h => exact ⟨[], _, _, _, rfl, h⟩
  | lost h hc rest ih =>
      obtain ⟨before, current, sha, s₁, rfl, hlast⟩ := ih hdone
      exact ⟨_ ++ before, current, sha, s₁, (List.append_assoc ..).symm, hlast⟩

end Done

/-- **An attempt whose write went through leaves what was read with the change entered.** -/
theorem Tries.entered {config : Config} {r : RepositoryId} {pr : PullRequest} {sectionName sha : Text}
    {current : Option FileContent} {m m' : Memory}
    (h : Tries Memory.respond config r pr sectionName current (.ok sha) m m') :
    ∃ file, m'.changelog? config = some file ∧ file.content =
      Changelog.addMerge (textOf current) sectionName pr.title (issueReference pr.number) := by
  obtain ⟨-, -, write⟩ := h
  obtain ⟨landed, f, -, -, hok, -⟩ := Memory.updated write
  exact ⟨_, (hok sha rfl).2, rfl⟩

/-- A comment that was handled is filed in the section that it asks for. -/
theorem Course.sectionName {σ : Type} {respond : Responder GitHub σ} {config : Config}
    {event : IssueComment} {s s' : σ} {exchanges : List (Exchange GitHub)}
    {verdict : Verdict MergeReport} {report : MergeReport}
    (h : Course respond config event s exchanges verdict s') (hv : verdict = .ok (.handled report)) :
    ∃ directive, Directive.find? event.body = some directive ∧
      report.sectionName = config.resolveSection directive event.labels := by
  cases h with
  | passedOver h => cases hv
  | turnedDown h asked low => cases hv
  | unmerged h asked enough tried failed => cases hv
  | merged found onPull filed asked enough tried went goesOn =>
      cases hv
      exact ⟨_, found, filed⟩

/-- **A run that recorded the change ends with the write that entered it.** -/
theorem recorded_run {config : Config} {event : IssueComment} {m : Memory} {report : MergeReport}
    (hreport : ((handle config event).run Memory.respond m).1 = .ok (.handled report))
    (hdone : report.history = .done) :
    ∃ pr before current sha m₁,
      m.pullRequests.find? (fun p => p.number == event.number) = some pr ∧
      (handle config event).transcript Memory.respond m =
        before ++ tried config event.repository.id pr report.sectionName current (.ok sha) ∧
      Tries Memory.respond config event.repository.id pr report.sectionName current (.ok sha) m₁
        ((handle config event).run Memory.respond m).2 := by
  have hcourse := handle_course Memory.respond config event m
  obtain ⟨directive, hfound, hsection⟩ := hcourse.sectionName hreport
  have htouches := hcourse.touches
  generalize (handle config event).transcript Memory.respond m = exchanges at htouches ⊢
  generalize ((handle config event).run Memory.respond m).1 = verdict at htouches hreport
  cases htouches with
  | nothing quiet kept unrecorded =>
      have hfailed := unrecorded report hreport
      rw [hdone] at hfailed
      cases hfailed
  | @loop _ _ front _ _ pr _ found pull quiet kept runs =>
      cases hreport
      cases hfound.symm.trans found
      rw [← hsection] at runs
      obtain ⟨before, current, sha, m₁, hexchanges, hlast⟩ := runs.last_of_done hdone
      refine ⟨pr, front ++ before, current, sha, m₁, pull, ?_, hlast⟩
      rw [hexchanges, List.append_assoc]

/-! ## 3. The release -/

/-- **What is merged is released.** Take any run that reports the change of a pull request recorded,
whose title is text on one line and whose section can be a heading. Then the tag of a prerelease,
made when the changelog is still what that run left and when nothing fails, is handled: it gets the
body of `HEAD` for its notes, and it is published as a prerelease. Behind a heading, the body reads
as one version, in which the change is last in its section, with its title escaped and the number of
the pull request, and in which all entries are that `HEAD` had in the text that the write was based
on, in the same sections and order. -/
theorem merged_is_released (config : Config) (event : IssueComment) (m : Memory)
    {report : MergeReport} {pr : PullRequest}
    (hpull : m.pullRequests.find? (fun p => p.number == event.number) = some pr)
    (htitle : startsFirm pr.title = true) (hline : '\n' ∉ pr.title)
    (hreport : ((handle config event).run Memory.respond m).1 = .ok (.handled report))
    (hdone : report.history = .done)
    (hsection : report.sectionName = noSection ∨ Phrase report.sectionName)
    (config' : Config) (release : RefCreation) (m' : Memory) (htag : release.refType = "tag")
    (hprerelease : VersionId.PrereleaseTag release.ref)
    (hkept : m'.changelog? config' =
      ((handle config event).run Memory.respond m).2.changelog? config)
    (hfetch : (m'.nextFailure .fetchFile).1 = none)
    (hpublish : (m'.nextFailure .createRelease).1 = none) :
    ∃ before current sha body v,
      (handle config event).transcript Memory.respond m =
        before ++ tried config event.repository.id pr report.sectionName current (.ok sha) ∧
      ((Release.handle config' release).run Memory.respond m').1 =
        .ok (.handled ⟨release.ref, Version.head, body, true⟩) ∧
      ⟨⟨release.repository.id, .createRelease ⟨release.ref, release.ref, body, true⟩⟩, .ok ()⟩ ∈
        (Release.handle config' release).transcript Memory.respond m' ∧
      Announces body (Changelog.parse (textOf current))
        ⟨escapeHtml pr.title, some (issueReference event.number)⟩
        (Place.ofSection report.sectionName) v := by
  obtain ⟨pr', before, current, sha, m₁, hpull', htranscript, hlast⟩ := recorded_run hreport hdone
  obtain rfl : pr' = pr := Option.some.inj (hpull'.symm.trans hpull)
  have hnumber : pr'.number = event.number := number_eq_of_find? hpull
  obtain ⟨file, hfile, hcontent⟩ := hlast.entered
  have hfresh : lists (textOf current) report.sectionName pr'.number = false := by
    obtain ⟨-, fresh, -⟩ := hlast
    exact fresh
  obtain ⟨head, v, hhead, hannounces⟩ := Changelog.body_addMerge (textOf current) hsection htitle
    hline (isReference_issueReference pr'.number) hfresh
  -- the release reads the file that the write left
  have htext : textOf ((m'.changelog? config').map StoredFile.contents) = file.content := by
    rw [hkept, hfile]
    rfl
  have hnotes : Release.notesIn config' release ((m'.changelog? config').map StoredFile.contents) =
      .ok ⟨release.ref, Version.head, head.body, true⟩ := by
    unfold Release.notesIn
    rw [htext, hcontent]
    exact ReleaseNotes.ofTag_prerelease _ hprerelease hhead
  obtain ⟨hhandled, hasked⟩ := Release.handle_publishes config' release m' htag hnotes hfetch hpublish
  rw [hnumber] at hannounces
  refine ⟨before, current, sha, head.body, v, htranscript, hhandled, ?_, hannounces⟩
  rw [hasked]
  exact List.mem_cons_of_mem _ (List.mem_singleton_self _)

/-- A fix is merged into a changelog whose `HEAD` comes late and in lower case, and released. -/
theorem merged_is_released_late_head :
    let repository : EventRepository := ⟨"jekyll", "jekyll", none⟩
    let event : IssueComment :=
      ⟨some "created", 7, true, [], "@bot: merge +bug", "parkr", repository⟩
    let pr : PullRequest := ⟨7, "Fix <title>", "fix", none, "master", ""⟩
    let history : Text := "## 1.0.0\n\n  * Old (#1)\n\n## head\n* Other\n(#2)\n"
    let m : Memory :=
      { Memory.empty with
        permissions := [("parkr", .admin)]
        pullRequests := [pr]
        files := [(("History.markdown", "master"), ⟨history, 1⟩)] }
    let m' := ((handle .default event).run Memory.respond m).2
    let release : RefCreation := ⟨"v1.1.0.pre.rc1", "tag", repository⟩
    ∃ body v,
      ((Release.handle .default release).run Memory.respond m').1 =
        .ok (.handled ⟨"v1.1.0.pre.rc1", Version.head, body, true⟩) ∧
      Changelog.parse ("## HEAD\n\n" ++ body) = ⟨[v]⟩ ∧
      ⟨"Fix &lt;title&gt;", some "#7"⟩ ∈ v.entriesAt (.under "Bug Fixes") := by
  intro repository event pr history m m' release
  have hreport : ((handle .default event).run Memory.respond m).1 =
      .ok (.handled ⟨"jekyll/jekyll#7", "Bug Fixes", .skipped "head branch is in a fork", .done,
        .done⟩) := by
    decide +kernel
  have htag : VersionId.PrereleaseTag release.ref :=
    ⟨"1", "1", "0", ".pre.rc", "1", by decide +kernel, by decide +kernel, by decide +kernel,
      .inr rfl, by decide +kernel, rfl⟩
  have hfetch : (m'.nextFailure .fetchFile).1 = none := by decide +kernel
  have hpublish : (m'.nextFailure .createRelease).1 = none := by decide +kernel
  obtain ⟨before, current, sha, body, v, -, hhandled, -, hannounces⟩ :=
    merged_is_released .default event m (show _ = some pr from rfl) (by decide +kernel)
      (by decide +kernel) hreport rfl (.inr (by decide +kernel)) .default release m' rfl htag rfl
      hfetch hpublish
  refine ⟨body, v, hhandled, hannounces.read, ?_⟩
  have hplace : Place.ofSection "Bug Fixes" = .under "Bug Fixes" := by decide +kernel
  have hentries := hannounces.entries (.under "Bug Fixes")
  rw [hplace, if_pos rfl] at hentries
  rw [hentries]
  exact List.mem_append_right _ (List.mem_singleton.mpr (by decide +kernel))

end Merge

end MergeScribe
