import MergeScribe.Proofs.Handler.Independence

/-!
# What the report of a merge says

A merge is reported with an outcome for each of the steps after it. The first two steps make one call
each or none, and the third is a loop. Main statements: the branch is deleted exactly when it may be
(`deleteBranch_tells`), the labels are added exactly when there are some (`applyLabels_tells`), and
the loop is done exactly when one write went through (`Attempts.done_iff`); so the report of a merge
that was carried out tells what was asked and what came of it, whatever is answered
(`handle_truthful`).
-/

namespace MergeScribe

open Program

namespace Merge

/-! ## 1. A step of one call -/

/-- A step that makes one call if it is to make it, and none otherwise, with an outcome that says
which of the two it was and what came of the call. -/
structure Tells (wanted : Prop) (c : GitHubCall) (exchanges : List (Exchange GitHub))
    (outcome : StepOutcome) : Prop where
  called : wanted → ∃ answer : Except Failure c.operation.Result, exchanges = [⟨c, answer⟩] ∧
    (outcome = .done ↔ ∃ result, answer = .ok result) ∧
    ((∃ message, outcome = .failed message) ↔ ∃ failure, answer = .error failure)
  spared : ¬ wanted → exchanges = []
  skipped : (∃ reason, outcome = .skipped reason) ↔ ¬ wanted

section Tells

variable {σ : Type} {wanted : Prop} {c : GitHubCall}

theorem tells_of_skipping (h : ¬ wanted) (reason : Text) : Tells wanted c [] (.skipped reason) :=
  ⟨fun hw => absurd hw h, fun _ => rfl, fun _ => h, fun _ => ⟨reason, rfl⟩⟩

/-- A call whose answer decides between done and failed. -/
theorem tells_of_asking (h : wanted) {next : GitHub.Answer c → Program GitHub StepOutcome}
    {message : Failure → Text} (hok : ∀ result, next (.ok result) = .done .done)
    (herror : ∀ failure, next (.error failure) = .done (.failed (message failure)))
    (respond : Responder GitHub σ) (s : σ) :
    Tells wanted c ((ask c next).transcript respond s) ((ask c next).run respond s).1 := by
  let P := fun exchanges outcome (_ : σ) => Tells wanted c exchanges outcome
  rcases answered : respond c s with ⟨failure | result, s'⟩
  · refine ask_elim (P := P) answered (herror failure) ⟨fun _ => ?_, fun hn => absurd h hn, ?_⟩
    · exact ⟨.error failure, rfl, by simp [run], by simp [run]⟩
    · simp [run, h]
  · refine ask_elim (P := P) answered (hok result) ⟨fun _ => ?_, fun hn => absurd h hn, ?_⟩
    · exact ⟨.ok result, rfl, by simp [run], by simp [run]⟩
    · simp [run, h]

end Tells

/-! ## 2. The branch and the labels -/

/-- Whether the branch of a merged pull request may be deleted: it is known to be in the repository
itself, and it is not one of the two branches that stay. -/
def Deletable (pr : PullRequest) (owner defaultBranch pagesBranch : Text) : Prop :=
  pr.headOwner = some owner ∧ pr.headBranch ≠ defaultBranch ∧ pr.headBranch ≠ pagesBranch

theorem keepReason?_eq_none_iff {pr : PullRequest} {owner defaultBranch pagesBranch : Text} :
    keepReason? pr owner defaultBranch pagesBranch = none ↔
      Deletable pr owner defaultBranch pagesBranch := by
  unfold keepReason? Deletable
  split_ifs with howner hdefault hpages
  · simp [howner]
  · simp [hdefault]
  · simp [hpages]
  · simpa [hdefault, hpages] using howner

section Steps

variable {σ : Type} (respond : Responder GitHub σ) (config : Config) (r : RepositoryId)
  (pr : PullRequest) (number : Nat) (sectionName defaultBranch : Text)

/-- **The branch is deleted exactly when it may be**, and the outcome tells. -/
theorem deleteBranch_tells (s : σ) :
    Tells (Deletable pr r.owner defaultBranch config.merge.pagesBranch)
      ⟨r, .deleteBranch pr.headBranch⟩
      ((deleteBranch config r pr defaultBranch).transcript respond s)
      ((deleteBranch config r pr defaultBranch).run respond s).1 := by
  unfold deleteBranch
  split
  · rename_i reason hkeep
    refine tells_of_skipping (fun h => ?_) reason
    rw [keepReason?_eq_none_iff.mpr h] at hkeep
    cases hkeep
  · rename_i hkeep
    exact tells_of_asking (keepReason?_eq_none_iff.mp hkeep) (fun _ => rfl) (fun _ => rfl) respond s

/-- **The labels are added exactly when there are some**, and the outcome tells. -/
theorem applyLabels_tells (s : σ) :
    let labels := Category.labelsOfSection config.categories sectionName
    Tells (labels ≠ []) ⟨r, .addLabels number labels⟩
      ((applyLabels config r number sectionName).transcript respond s)
      ((applyLabels config r number sectionName).run respond s).1 := by
  intro labels
  unfold applyLabels
  split
  · rename_i hnone
    exact tells_of_skipping (fun h => h hnone) _
  · rename_i hsome
    exact tells_of_asking hsome (fun _ => rfl) (fun _ => rfl) respond s

end Steps

/-! ## 3. The changelog -/

/-- **The loop is done exactly when one write went through.** -/
theorem Attempts.done_iff {σ : Type} {respond : Responder GitHub σ} {config : Config}
    {r : RepositoryId} {pr : PullRequest} {sectionName : Text} {left : Nat} {s s' : σ}
    {exchanges : List (Exchange GitHub)} {outcome : StepOutcome}
    (h : Attempts respond config r pr sectionName left s exchanges outcome s') :
    outcome = .done ↔ exchanges.countP Exchange.isWrite = 1 := by
  induction h with
  | exhausted => simp [keptChanging]
  | unread read => simp [Merge.unread]
  | listed read h => simp [alreadyListed]
  | written h => simp [tried]
  | refused h hc => simp [Merge.refused, tried]
  | lost h hc rest ih => simpa [tried] using ih

theorem isWrite_eq_false {x : Exchange GitHub} {kinds : List Method} (h : OfKind kinds x.call)
    (hk : .updateFile ∉ kinds) : x.isWrite = false := by
  obtain ⟨⟨r, o⟩, answer⟩ := x
  cases o with
  | updateFile update => exact absurd h hk
  | _ => rfl

/-! ## 4. Reports -/

/-- What was asked in a step. -/
def askedIn (step : Step) (exchanges : List (Exchange GitHub)) : List (Exchange GitHub) :=
  about Step.ofCall? (some step) exchanges

/-- A report that tells what was asked after a merge, and what came of it, given the answer to the
question for the pull request. -/
structure Truthful (config : Config) (event : IssueComment) (lookup : Except Failure PullRequest)
    (exchanges : List (Exchange GitHub)) (report : MergeReport) : Prop where
  deletion : ∀ pr, lookup = .ok pr →
    Tells (Deletable pr event.repository.owner (defaultBranchOf config event)
        config.merge.pagesBranch)
      ⟨event.repository.id, .deleteBranch pr.headBranch⟩ (askedIn .deletion exchanges)
      report.deleteBranch
  labelling :
    let labels := Category.labelsOfSection config.categories report.sectionName
    Tells (labels ≠ []) ⟨event.repository.id, .addLabels event.number labels⟩
      (askedIn .labelling exchanges) report.labels
  recording : report.history = .done ↔ exchanges.countP Exchange.isWrite = 1
  unfetched : ∀ failure, lookup = .error failure →
    report.deleteBranch = unfetched failure ∧ report.history = unfetched failure ∧
      askedIn .deletion exchanges = [] ∧ askedIn .recording exchanges = []

section Reports

variable {σ : Type} (respond : Responder GitHub σ) (config : Config) (event : IssueComment)
  (sectionName : Text)

/-- The report of a merge, given what became of the steps. -/
def reportOf (outcomes : StepOutcome × StepOutcome × StepOutcome) : MergeReport :=
  ⟨eventReference event, sectionName, outcomes.1, outcomes.2.1, outcomes.2.2⟩

/-- What a step asks is asked in that step. -/
theorem askedIn_program (pr : PullRequest) (step step' : Step) (s : σ) :
    askedIn step ((program config event sectionName pr step').transcript respond s) =
      if step' = step then (program config event sectionName pr step').transcript respond s
      else [] := by
  have honly := only_program config event sectionName pr step'
  split
  · rename_i e
    subst e
    exact honly.about_eq s
  · rename_i hne
    exact honly.about_eq_nil (fun e => hne (Option.some.inj e)) s

/-- A program that writes nothing has no write go through. -/
theorem countP_isWrite_of_only {α : Type} {p : Program GitHub α} {kinds : List Method}
    (h : Only (OfKind kinds) p) (hk : .updateFile ∉ kinds) (s : σ) :
    (p.transcript respond s).countP Exchange.isWrite = 0 :=
  List.countP_eq_zero.mpr fun _ hx =>
    Bool.eq_false_iff.mp (isWrite_eq_false (h.of_mem_transcript respond hx) hk)

/-- **Without the pull request there are only labels to add.** -/
theorem afterLookup_truthful_error (failure : Failure) (s : σ) :
    let next := afterLookup config event sectionName (.error failure)
    Truthful config event (.error failure) (next.transcript respond s)
      (reportOf event sectionName (next.run respond s).1) := by
  intro next
  let labelling := applyLabels config event.repository.id event.number sectionName
  have honly : Only (fun c => Step.ofCall? c = some .labelling) labelling :=
    (only_applyLabels ..).mono (Step.ofCall?_of_kind (by decide))
  have htells := applyLabels_tells respond config event.repository.id event.number sectionName s
  have htranscript : next.transcript respond s = labelling.transcript respond s :=
    (transcript_bind ..).trans (List.append_nil _)
  have hrun : (next.run respond s).1 =
      (unfetched failure, (labelling.run respond s).1, unfetched failure) :=
    congrArg Prod.fst (run_bind ..)
  rw [htranscript, hrun]
  refine ⟨nofun, ?_, ?_, fun failure' e => ?_⟩
  · have habout : askedIn .labelling (labelling.transcript respond s) = _ := honly.about_eq s
    rw [habout]
    exact htells
  · have hnone : (labelling.transcript respond s).countP Exchange.isWrite = 0 :=
      countP_isWrite_of_only respond (only_applyLabels ..) (by decide) s
    rw [hnone]
    simp [reportOf, unfetched]
  · cases e
    exact ⟨rfl, rfl, honly.about_eq_nil (by decide) s, honly.about_eq_nil (by decide) s⟩

/-- **With the pull request each step tells what it asked.** -/
theorem afterLookup_truthful_ok (pr : PullRequest) (s : σ) :
    let next := afterLookup config event sectionName (.ok pr)
    Truthful config event (.ok pr) (next.transcript respond s)
      (reportOf event sectionName (next.run respond s).1) := by
  intro next
  let step := program config event sectionName pr
  let s₁ := ((step .deletion).run respond s).2
  let s₂ := ((step .labelling).run respond s₁).2
  have htranscript : next.transcript respond s = (step .deletion).transcript respond s ++
      ((step .labelling).transcript respond s₁ ++ (step .recording).transcript respond s₂) := by
    simp only [next, afterLookup, tidy, transcript_bind, run_bind, transcript, run,
      List.append_nil, List.append_assoc]
    rfl
  have hrun : (next.run respond s).1 = (((step .deletion).run respond s).1,
      ((step .labelling).run respond s₁).1, ((step .recording).run respond s₂).1) := by
    simp only [next, afterLookup, tidy, run_bind, run]
    rfl
  have hasked (asked : Step) : askedIn asked (next.transcript respond s) =
      askedIn asked ((step .deletion).transcript respond s) ++
        (askedIn asked ((step .labelling).transcript respond s₁) ++
          askedIn asked ((step .recording).transcript respond s₂)) := by
    rw [htranscript]
    simp only [askedIn, about_append]
  rw [hrun]
  refine ⟨fun pr' e => ?_, ?_, ?_, fun failure e => ?_⟩
  · cases e
    have h : askedIn .deletion (next.transcript respond s) =
        (step .deletion).transcript respond s := by
      simp [hasked, step, askedIn_program]
    rw [h]
    exact deleteBranch_tells respond config event.repository.id pr _ s
  · have h : askedIn .labelling (next.transcript respond s) =
        (step .labelling).transcript respond s₁ := by
      simp [hasked, step, askedIn_program]
    rw [h]
    exact applyLabels_tells respond config event.repository.id event.number sectionName s₁
  · have hdeletion : ((step .deletion).transcript respond s).countP Exchange.isWrite = 0 :=
      countP_isWrite_of_only respond (only_deleteBranch ..) (by decide) s
    have hlabelling : ((step .labelling).transcript respond s₁).countP Exchange.isWrite = 0 :=
      countP_isWrite_of_only respond (only_applyLabels ..) (by decide) s₁
    have hloop := (attempts_run respond config event.repository.id pr sectionName
      (attempts config) s₂).done_iff
    have hcount : (next.transcript respond s).countP Exchange.isWrite =
        ((step .recording).transcript respond s₂).countP Exchange.isWrite := by
      rw [htranscript, List.countP_append, List.countP_append]
      omega
    rw [hcount]
    exact hloop
  · cases e

/-- What comes before the steps is asked in none of them. -/
theorem Truthful.after {lookup : Except Failure PullRequest} {front exchanges : List (Exchange GitHub)}
    {report : MergeReport} (hfront : ∀ x ∈ front, Step.ofCall? x.call = none)
    (h : Truthful config event lookup exchanges report) :
    Truthful config event lookup (front ++ exchanges) report := by
  have hasked (step : Step) : askedIn step (front ++ exchanges) = askedIn step exchanges := by
    have hnone : askedIn step front = [] :=
      List.filter_eq_nil_iff.mpr fun x hx => by simp [hfront x hx]
    unfold askedIn at hnone ⊢
    rw [about_append, hnone, List.nil_append]
  have hwrites : front.countP Exchange.isWrite = 0 := by
    refine List.countP_eq_zero.mpr fun x hx => ?_
    obtain ⟨⟨r, o⟩, answer⟩ := x
    have hnone := hfront _ hx
    cases o with
    | updateFile update => cases hnone
    | _ => simp [Exchange.isWrite]
  refine ⟨fun pr e => ?_, ?_, ?_, fun failure e => ?_⟩
  · rw [hasked]
    exact h.deletion pr e
  · rw [hasked]
    exact h.labelling
  · rw [List.countP_append, hwrites, Nat.zero_add]
    exact h.recording
  · rw [hasked, hasked]
    exact h.unfetched failure e

/-- The branch is asked to be deleted when the pull request is known and its branch may go. -/
theorem Truthful.deletion_iff {lookup : Except Failure PullRequest}
    {exchanges : List (Exchange GitHub)} {report : MergeReport}
    (h : Truthful config event lookup exchanges report) :
    askedIn .deletion exchanges ≠ [] ↔ ∃ pr, lookup = .ok pr ∧
      Deletable pr event.repository.owner (defaultBranchOf config event)
        config.merge.pagesBranch := by
  cases lookup with
  | error failure =>
      obtain ⟨-, -, hnone, -⟩ := h.unfetched failure rfl
      simp [hnone]
  | ok pr =>
      have htells := h.deletion pr rfl
      refine ⟨fun hasked => ⟨pr, rfl, ?_⟩, fun ⟨_, e, hdeletable⟩ => ?_⟩
      · exact Classical.byContradiction fun hkeep => hasked (htells.spared hkeep)
      · cases e
        obtain ⟨answer, hone, -⟩ := htells.called hdeletable
        rw [hone]
        exact List.cons_ne_nil _ _

/-- The branch is said to be kept when the pull request is known and its branch may not go. -/
theorem Truthful.kept_iff {lookup : Except Failure PullRequest}
    {exchanges : List (Exchange GitHub)} {report : MergeReport}
    (h : Truthful config event lookup exchanges report) :
    (∃ reason, report.deleteBranch = .skipped reason) ↔ ∃ pr, lookup = .ok pr ∧
      ¬ Deletable pr event.repository.owner (defaultBranchOf config event)
        config.merge.pagesBranch := by
  cases lookup with
  | error failure =>
      obtain ⟨hfailed, -⟩ := h.unfetched failure rfl
      simp [hfailed, Merge.unfetched]
  | ok pr =>
      rw [(h.deletion pr rfl).skipped]
      exact ⟨fun hkeep => ⟨pr, rfl, hkeep⟩, fun ⟨_, e, hkeep⟩ => Except.ok.inj e ▸ hkeep⟩

end Reports

end Merge

/-! ## 5. The report of a run -/

namespace Program.Exchange

/-- The question for the pull request of a comment, and its answer. -/
def lookup (event : IssueComment) (answer : Except Failure PullRequest) : Exchange GitHub :=
  ⟨⟨event.repository.id, .fetchPullRequest event.number⟩, answer⟩

end Program.Exchange

namespace Merge

section Run

variable {σ : Type} (respond : Responder GitHub σ) (config : Config) (event : IssueComment)

/-- What the steps after a merge are reported to come to. -/
theorem afterMerge_truthful (sectionName : Text) (s : σ) :
    let next := afterMerge config event sectionName
    ∃ lookup rest, next.transcript respond s = .lookup event lookup :: rest ∧
      (∀ x ∈ rest, OfKind [.deleteBranch, .addLabels, .fetchFile, .updateFile] x.call) ∧
      Truthful config event lookup rest (reportOf event sectionName (next.run respond s).1) := by
  rcases answered : respond ⟨event.repository.id, .fetchPullRequest event.number⟩ s with
    ⟨answer, s'⟩
  have hkinds : ∀ x ∈ (afterLookup config event sectionName answer).transcript respond s',
      OfKind [.deleteBranch, .addLabels, .fetchFile, .updateFile] x.call :=
    fun _ hx => (only_afterLookup config event sectionName answer).of_mem_transcript respond hx
  have htruthful : Truthful config event answer
      ((afterLookup config event sectionName answer).transcript respond s')
      (reportOf event sectionName
        ((afterLookup config event sectionName answer).run respond s').1) := by
    cases answer with
    | error failure => exact afterLookup_truthful_error respond config event sectionName failure s'
    | ok pr => exact afterLookup_truthful_ok respond config event sectionName pr s'
  intro next
  have hnext : next = _ := afterMerge_eq config event sectionName
  rw [hnext]
  let P := fun exchanges outcomes (_ : σ) => ∃ lookup rest,
    exchanges = Exchange.lookup event lookup :: rest ∧
      (∀ x ∈ rest, OfKind [.deleteBranch, .addLabels, .fetchFile, .updateFile] x.call) ∧
      Truthful config event lookup rest (reportOf event sectionName outcomes)
  exact ask_elim (P := P) answered rfl ⟨answer, _, rfl, hkinds, htruthful⟩

/-- The answer to the request for the merge is what decides whether the run goes on. -/
theorem mem_course_merge {s s' : σ} {exchanges : List (Exchange GitHub)}
    {verdict : Verdict MergeReport} {merge : Except Failure MergeResult}
    (h : Course respond config event s exchanges verdict s') (went : Merges merge)
    (asked : Exchange.merge config event merge ∈ exchanges) :
    ∃ directive permission s₂,
      Directive.find? event.body = some directive ∧
      let next := afterMerge config event (config.resolveSection directive event.labels)
      exchanges = .permission event permission :: .merge config event merge ::
        next.transcript respond s₂ ∧
      verdict = reported event (config.resolveSection directive event.labels)
        (next.run respond s₂).1 := by
  -- no other exchange is about the request for the merge
  have hpermission (permission : Except Failure Permission) :
      Exchange.merge config event merge ≠ .permission event permission :=
    fun e => nomatch congrArg (fun x => (GitHubCall.operation x.call).method) e
  have hmerge {merge' : Except Failure MergeResult}
      (e : Exchange.merge config event merge = .merge config event merge') : merge = merge' :=
    eq_of_heq (Exchange.mk.inj e).2
  cases h with
  | passedOver h => cases asked
  | turnedDown h hasked low => exact absurd (List.mem_singleton.mp asked) (hpermission _)
  | unmerged h hasked enough tried failed =>
      rcases List.mem_cons.mp asked with e | asked
      · exact absurd e (hpermission _)
      · cases hmerge (List.mem_singleton.mp asked)
        exact absurd went failed
  | merged found onPull filed hasked enough tried went' goesOn =>
      subst goesOn filed
      rcases List.mem_cons.mp asked with e | asked
      · exact absurd e (hpermission _)
      · rcases List.mem_cons.mp asked with e | asked
        · cases hmerge e
          exact ⟨_, _, _, found, rfl, rfl⟩
        · have hkind : OfKind followUps (mergeCall config event) :=
            (only_afterMerge config event _).of_mem_transcript respond asked
          exact absurd hkind (by decide : Method.mergePullRequest ∉ followUps)

/-- **The report of a merge is truthful.** Take any run in which the merge was carried out, whatever
is answered to anything else. Its report names the section that the comment asks for. The branch was
asked to be deleted, once, exactly when the pull request was found, its branch is in the repository
itself, and it is neither the default branch nor the one of the pages; when it was found and that does
not hold the branch is said to be kept. The labels of the section were asked for, once, exactly when
there are some. Each of these two steps is said to be done or to have failed as its call succeeded or
failed. The change is said to be recorded exactly when one write went through. And when the pull
request was not found, then the steps that need it are said to have failed for that reason, and they
asked nothing. -/
theorem handle_truthful (s : σ) {merge : Except Failure MergeResult} (went : Merges merge)
    (asked : Exchange.merge config event merge ∈ (handle config event).transcript respond s) :
    let exchanges := (handle config event).transcript respond s
    let deletable := fun pr : PullRequest => Deletable pr event.repository.owner
      (defaultBranchOf config event) config.merge.pagesBranch
    ∃ directive permission lookup rest report,
      Directive.find? event.body = some directive ∧
      exchanges = .permission event permission :: .merge config event merge ::
        .lookup event lookup :: rest ∧
      (∀ x ∈ rest, OfKind [.deleteBranch, .addLabels, .fetchFile, .updateFile] x.call) ∧
      ((handle config event).run respond s).1 = .ok (.handled report) ∧
      report.sectionName = config.resolveSection directive event.labels ∧
      Truthful config event lookup exchanges report ∧
      (askedIn .deletion exchanges ≠ [] ↔ ∃ pr, lookup = .ok pr ∧ deletable pr) ∧
      ((∃ reason, report.deleteBranch = .skipped reason) ↔
        ∃ pr, lookup = .ok pr ∧ ¬ deletable pr) := by
  intro exchanges deletable
  obtain ⟨directive, permission, s₂, found, htranscript, hverdict⟩ :=
    mem_course_merge respond config event (handle_course respond config event s) went asked
  obtain ⟨lookup, rest, hrest, hkinds, hafter⟩ := afterMerge_truthful respond config event
    (config.resolveSection directive event.labels) s₂
  have hexchanges : exchanges = [.permission event permission, .merge config event merge,
      .lookup event lookup] ++ rest := by
    rw [hrest] at htranscript
    exact htranscript
  have hfront : ∀ x ∈ [Exchange.permission event permission, .merge config event merge,
      .lookup event lookup], Step.ofCall? x.call = none := by
    simp only [List.forall_mem_cons]
    exact ⟨rfl, rfl, rfl, nofun⟩
  have htruthful := hafter.after config event hfront
  rw [← hexchanges] at htruthful
  exact ⟨directive, permission, lookup, rest, _, found, hexchanges, hkinds, hverdict, rfl,
    htruthful, htruthful.deletion_iff, htruthful.kept_iff⟩

end Run

/-- The branch may not be deleted. From the report alone it is known that it was tried, once. -/
theorem handle_truthful_forbidden :
    let repository : EventRepository := ⟨"jekyll", "jekyll", none⟩
    let event : IssueComment :=
      ⟨some "created", 7, true, [], "@bot: merge +bug", "parkr", repository⟩
    let pr : PullRequest := ⟨7, "Fix <title>", "fix", some "jekyll", "master", ""⟩
    let m : Memory :=
      { Memory.empty with permissions := [("parkr", .admin)], pullRequests := [pr] }
    let m' := m.script .deleteBranch (some (.ofCause (.refused 403 "Forbidden")))
    ((handle .default event).run Memory.respond m').1 = .ok (.handled ⟨"jekyll/jekyll#7",
        "Bug Fixes", .failed "error deleting branch fix: Forbidden", .done, .done⟩) ∧
      (askedIn .deletion ((handle .default event).transcript Memory.respond m')).length = 1 ∧
      ((handle .default event).transcript Memory.respond m').countP Exchange.isWrite = 1 := by
  intro repository event pr m m'
  have hreport : ((handle .default event).run Memory.respond m').1 =
      .ok (.handled ⟨"jekyll/jekyll#7", "Bug Fixes",
        .failed "error deleting branch fix: Forbidden", .done, .done⟩) := by
    decide +kernel
  have hfound : Directive.find? event.body = some ⟨some "bug"⟩ := by decide +kernel
  have hasked : Exchange.merge .default event (.ok ⟨true, some ("merge-" ++ Text.ofNat 7),
      some "Pull Request successfully merged"⟩) ∈
      (handle .default event).transcript Memory.respond m' := by
    rw [handle_eq .default event hfound rfl]
    exact .tail _ (.head _)
  obtain ⟨-, -, lookup, -, report, -, -, -, hrun, -, htruthful, -, hkept⟩ :=
    handle_truthful Memory.respond .default event m' ⟨_, rfl, rfl⟩ hasked
  rw [hreport] at hrun
  cases hrun
  refine ⟨hreport, ?_, htruthful.recording.mp rfl⟩
  cases lookup with
  | error failure =>
      -- the message would be another one
      obtain ⟨hother, -⟩ := htruthful.unfetched failure rfl
      cases hother
  | ok found =>
      have htells := htruthful.deletion found rfl
      have hwanted : Deletable found event.repository.owner (defaultBranchOf .default event)
          Config.default.merge.pagesBranch :=
        Classical.byContradiction fun h => nomatch htells.skipped.mpr h
      obtain ⟨answer, hone, -⟩ := htells.called hwanted
      rw [hone]
      rfl

end Merge

end MergeScribe
