import MergeScribe.Proofs.GitHub.Memory
import MergeScribe.Proofs.History.Loop
import MergeScribe.Proofs.Program.Transcript

/-!
# One loop among the writes of others

What the loop that enters a change does, attempt by attempt, and what that comes to when others
write the same file right before it. Main statements: a run of the loop is a sequence of attempts
(`attempts_run`), of which all but the last lose a race; each write follows the read of the file it
writes (`Attempts.writesFollowReads`); and in a store in memory no write of others is lost, whatever
fails (`recordHistory_in_memory`).
-/

namespace MergeScribe

open Program

/-! ## 1. Exchanges -/

namespace Program.Exchange

/-- A read of a file and its answer. -/
def fetch (r : RepositoryId) (path branch : Text)
    (answer : Except Failure (Option FileContent)) : Exchange GitHub :=
  ⟨⟨r, .fetchFile path branch⟩, answer⟩

/-- A write of a file and its answer. -/
def update (r : RepositoryId) (u : FileUpdate) (answer : Except Failure Text) : Exchange GitHub :=
  ⟨⟨r, .updateFile u⟩, answer⟩

/-- Whether a write was asked for. -/
def isUpdate : Exchange GitHub → Bool
  | ⟨⟨_, .updateFile _⟩, _⟩ => true
  | _ => false

/-- Whether a write went through. -/
def isWrite : Exchange GitHub → Bool
  | ⟨⟨_, .updateFile _⟩, .ok _⟩ => true
  | _ => false

/-- Whether a write met a change by someone else. -/
def isConflict : Exchange GitHub → Bool
  | ⟨⟨_, .updateFile _⟩, .error failure⟩ => Failure.isConflict failure
  | _ => false

section

variable {r : RepositoryId} {path branch : Text} {u : FileUpdate} {sha : Text} {failure : Failure}
  {answer : Except Failure (Option FileContent)} {written : Except Failure Text}

@[simp] theorem isUpdate_fetch : (fetch r path branch answer).isUpdate = false := rfl

@[simp] theorem isUpdate_update : (update r u written).isUpdate = true := rfl

@[simp] theorem isWrite_fetch : (fetch r path branch answer).isWrite = false := rfl

@[simp] theorem isWrite_update_ok : (update r u (.ok sha)).isWrite = true := rfl

@[simp] theorem isWrite_update_error : (update r u (.error failure)).isWrite = false := rfl

@[simp] theorem isConflict_update_ok : (update r u (.ok sha)).isConflict = false := rfl

@[simp] theorem isConflict_update_error :
    (update r u (.error failure)).isConflict = failure.isConflict := rfl

end

end Program.Exchange

namespace Merge

/-! ## 2. Attempts -/

section Attempts

variable {σ : Type} (respond : Responder GitHub σ) (config : Config) (r : RepositoryId)
  (pr : PullRequest) (sectionName : Text)

/-- The exchanges of an attempt that comes to a write. -/
def tried (current : Option FileContent) (answer : Except Failure Text) : List (Exchange GitHub) :=
  [.fetch r config.history.path config.history.branch (.ok current),
    .update r (entering config pr sectionName current) answer]

/-- An attempt that comes to a write: what was read does not list the change. -/
inductive Tries (current : Option FileContent) (answer : Except Failure Text) : σ → σ → Prop
  | intro {s s₁ s' : σ}
      (read : respond ⟨r, .fetchFile config.history.path config.history.branch⟩ s =
        (.ok current, s₁))
      (fresh : lists (textOf current) sectionName pr.number = false)
      (write : respond ⟨r, .updateFile (entering config pr sectionName current)⟩ s₁ =
        (answer, s')) :
      Tries current answer s s'

/-- What the loop does with a number of attempts left: from which state, in which exchanges, with
which outcome and to which state. -/
inductive Attempts : Nat → σ → List (Exchange GitHub) → StepOutcome → σ → Prop
  | exhausted (s : σ) : Attempts 0 s [] (keptChanging config) s
  | unread {left : Nat} {s s' : σ} {failure : Failure}
      (read : respond ⟨r, .fetchFile config.history.path config.history.branch⟩ s =
        (.error failure, s')) :
      Attempts (left + 1) s
        [.fetch r config.history.path config.history.branch (.error failure)]
        (unread config failure) s'
  | listed {left : Nat} {s s' : σ} {current : Option FileContent}
      (read : respond ⟨r, .fetchFile config.history.path config.history.branch⟩ s =
        (.ok current, s'))
      (h : lists (textOf current) sectionName pr.number = true) :
      Attempts (left + 1) s [.fetch r config.history.path config.history.branch (.ok current)]
        (alreadyListed config pr) s'
  | written {left : Nat} {s s' : σ} {current : Option FileContent} {sha : Text}
      (h : Tries respond config r pr sectionName current (.ok sha) s s') :
      Attempts (left + 1) s (tried config r pr sectionName current (.ok sha)) .done s'
  | refused {left : Nat} {s s' : σ} {current : Option FileContent} {failure : Failure}
      (h : Tries respond config r pr sectionName current (.error failure) s s')
      (hc : failure.isConflict = false) :
      Attempts (left + 1) s (tried config r pr sectionName current (.error failure))
        (refused config failure) s'
  | lost {left : Nat} {s s₁ s' : σ} {current : Option FileContent} {failure : Failure}
      {exchanges : List (Exchange GitHub)} {outcome : StepOutcome}
      (h : Tries respond config r pr sectionName current (.error failure) s s₁)
      (hc : failure.isConflict = true) (rest : Attempts left s₁ exchanges outcome s') :
      Attempts (left + 1) s
        (tried config r pr sectionName current (.error failure) ++ exchanges) outcome s'

variable {respond config r pr sectionName}

/-- What the loop does from the write on, given what it does with one attempt less. -/
theorem attempts_write (left : Nat) {s s₁ : σ} {current : Option FileContent}
    (read : respond ⟨r, .fetchFile config.history.path config.history.branch⟩ s =
      (.ok current, s₁))
    (fresh : lists (textOf current) sectionName pr.number = false)
    (ih : ∀ s : σ, Attempts respond config r pr sectionName left s
      ((updateHistory config r pr sectionName left).transcript respond s)
      ((updateHistory config r pr sectionName left).run respond s).1
      ((updateHistory config r pr sectionName left).run respond s).2) :
    Attempts respond config r pr sectionName (left + 1) s
      (.fetch r config.history.path config.history.branch (.ok current) ::
        (afterFetch config r pr sectionName left (.ok current)).transcript respond s₁)
      ((afterFetch config r pr sectionName left (.ok current)).run respond s₁).1
      ((afterFetch config r pr sectionName left (.ok current)).run respond s₁).2 := by
  have hn : afterFetch config r pr sectionName left (.ok current) =
    .ask ⟨r, .updateFile (entering config pr sectionName current)⟩
      (afterUpdate config r pr sectionName left) := if_neg (Bool.eq_false_iff.mp fresh)
  rw [hn]
  let P := fun exchanges => Attempts respond config r pr sectionName (left + 1) s
    (.fetch r config.history.path config.history.branch (.ok current) :: exchanges)
  rcases write : respond ⟨r, .updateFile (entering config pr sectionName current)⟩ s₁ with
    ⟨failure | sha, s₂⟩
  · have h := Tries.intro read fresh write
    cases hc : failure.isConflict with
    | true => exact ask_elim (P := P) write (if_pos hc) (.lost h hc (ih s₂))
    | false =>
        exact ask_elim (P := P) write (if_neg (Bool.eq_false_iff.mp hc)) (.refused h hc)
  · exact ask_elim (P := P) write rfl (.written (.intro read fresh write))

variable (respond config r pr sectionName)

/-- **A run of the loop is a sequence of attempts.** -/
theorem attempts_run : (left : Nat) → (s : σ) →
    Attempts respond config r pr sectionName left s
      ((updateHistory config r pr sectionName left).transcript respond s)
      ((updateHistory config r pr sectionName left).run respond s).1
      ((updateHistory config r pr sectionName left).run respond s).2
  | 0, s => .exhausted s
  | left + 1, s => by
      rw [updateHistory_succ]
      rcases read : respond ⟨r, .fetchFile config.history.path config.history.branch⟩ s with
        ⟨failure | current, s₁⟩
      · exact ask_elim (P := Attempts respond config r pr sectionName (left + 1) s) read rfl
          (.unread read)
      · cases h : lists (textOf current) sectionName pr.number with
        | true =>
            exact ask_elim (P := Attempts respond config r pr sectionName (left + 1) s) read
              (if_pos h) (.listed read h)
        | false =>
            exact ask_elim (P := Attempts respond config r pr sectionName (left + 1) s) read rfl
              (attempts_write left read h (attempts_run left))

end Attempts

/-! ## 3. What is asked -/

/-- Each write comes right after the read of the file it writes, and it is the write of what was
read with the change entered, for as long as the file is the one that was read. -/
def WritesFollowReads (pr : PullRequest) (sectionName : Text) (exchanges : List (Exchange GitHub)) :
    Prop :=
  ∀ before r u answer after, exchanges = before ++ .update r u answer :: after →
    ∃ earlier current, before = earlier ++ [.fetch r u.path u.branch (.ok current)] ∧
      u.expectedSha = current.map FileContent.sha ∧
      u.content =
        Changelog.addMerge (textOf current) sectionName pr.title (issueReference pr.number)

section Asked

variable {σ : Type} {respond : Responder GitHub σ} {config : Config} {r : RepositoryId}
  {pr : PullRequest} {sectionName : Text} {left : Nat} {s s' : σ}
  {exchanges : List (Exchange GitHub)} {outcome : StepOutcome}

theorem writesFollowReads_fetch {path branch : Text}
    {answer : Except Failure (Option FileContent)} :
    WritesFollowReads pr sectionName [.fetch r path branch answer] := by
  intro before r' u answer' after e
  cases before with
  | nil => cases e
  | cons x before => exact absurd (List.cons.inj e).2.symm (by simp)

/-- An attempt may come before what follows reads by itself. -/
theorem WritesFollowReads.append (h : WritesFollowReads pr sectionName exchanges)
    (current : Option FileContent) (answer : Except Failure Text) :
    WritesFollowReads pr sectionName
      (tried config r pr sectionName current answer ++ exchanges) := by
  intro before r' u answer' after e
  match before, e with
  | [], e => cases e
  | [x], e =>
      cases e
      exact ⟨[], current, rfl, rfl, rfl⟩
  | x :: y :: before, e =>
      obtain ⟨hx, e⟩ := List.cons.inj e
      obtain ⟨hy, e⟩ := List.cons.inj e
      obtain ⟨earlier, current', rfl, hu⟩ := h before r' u answer' after e
      exact ⟨x :: y :: earlier, current', rfl, hu⟩

/-- **Each write of the loop follows a read.** -/
theorem Attempts.writesFollowReads
    (h : Attempts respond config r pr sectionName left s exchanges outcome s') :
    WritesFollowReads pr sectionName exchanges := by
  have hnil : WritesFollowReads pr sectionName [] := fun before _ _ _ _ e => by simp at e
  induction h with
  | exhausted => exact hnil
  | unread => exact writesFollowReads_fetch
  | listed => exact writesFollowReads_fetch
  | written h => exact hnil.append _ _
  | refused h hc => exact hnil.append _ _
  | lost h hc rest ih => exact ih.append _ _

/-! ## 4. How often it is asked -/

/-- A message that begins with other words than come after the path in another one is not that
message, whatever the path: up to the end of those words the letters do not add up. -/
theorem message_ne (before after : Text) {path tail tail' : Text}
    (hl : before.length = after.length) (hk : before.count 'k' ≠ after.count 'k') :
    before ++ path ++ tail ≠ path ++ (after ++ tail') := by
  intro e
  rw [← List.append_assoc] at e
  have hlen : (before ++ path).length = (path ++ after).length := by
    rw [List.length_append, List.length_append, hl, Nat.add_comm]
  have hcount := congrArg (List.count 'k') (List.append_inj_left e hlen)
  rw [List.count_append, List.count_append] at hcount
  omega

theorem unread_ne_keptChanging (config : Config) (failure : Failure) :
    unread config failure ≠ keptChanging config := by
  intro e
  have hm : "error getting " ++ config.history.path ++ (": " ++ failure.describe) =
      config.history.path ++ (" kept changing" ++ (", gave up after " ++
        (Text.ofNat (attempts config) ++ " attempts"))) := by
    simpa [unread, keptChanging] using e
  exact message_ne "error getting " " kept changing" (by decide +kernel) (by decide +kernel) hm

theorem refused_ne_keptChanging (config : Config) (failure : Failure) :
    Merge.refused config failure ≠ keptChanging config := by
  intro e
  have hm : "error committing " ++ config.history.path ++ (": " ++ failure.describe) =
      config.history.path ++ (" kept changing, g" ++ ("ave up after " ++
        (Text.ofNat (attempts config) ++ " attempts"))) := by
    simpa [Merge.refused, keptChanging] using e
  exact message_ne "error committing " " kept changing, g" (by decide +kernel)
    (by decide +kernel) hm

/-- **The loop gives up exactly when it used up its attempts and each write met a change.** -/
theorem Attempts.keptChanging_iff
    (h : Attempts respond config r pr sectionName left s exchanges outcome s') :
    outcome = keptChanging config ↔ exchanges.countP Exchange.isUpdate = left ∧
      ∀ x ∈ exchanges, x.isUpdate = true → x.isConflict = true := by
  induction h with
  | exhausted => simp
  | unread read => simp [unread_ne_keptChanging]
  | listed read h => simp [alreadyListed, keptChanging]
  | written h => simp [keptChanging, tried]
  | refused h hc => simp [refused_ne_keptChanging, tried, hc]
  | lost h hc rest ih => simp [tried, List.countP_cons, ih, hc]

/-- The loop does not write more often than it has attempts. -/
theorem Attempts.countP_isUpdate_le
    (h : Attempts respond config r pr sectionName left s exchanges outcome s') :
    exchanges.countP Exchange.isUpdate ≤ left := by
  induction h with
  | exhausted => simp
  | unread read => simp
  | listed read h => simp
  | written h => simp [tried]
  | refused h hc => simp [tried]
  | lost h hc rest ih => simpa [tried, List.countP_cons] using ih

end Asked

/-! ## 5. What is left of the file -/

section Left

variable {config : Config} {r : RepositoryId} {pr : PullRequest} {sectionName : Text} {left : Nat}
  {m m' : Memory} {exchanges : List (Exchange GitHub)} {outcome : StepOutcome}

/-- The file with the change entered. -/
def enteredIn (pr : PullRequest) (sectionName : Text) (f : Option StoredFile) : StoredFile :=
  StoredFile.next f (Changelog.addMerge (textOf (f.map StoredFile.contents)) sectionName pr.title
    (issueReference pr.number))

/-- What the loop makes of a file: if it is done, the file with the change entered, in one write,
and otherwise the file as it was. -/
structure Leaves (pr : PullRequest) (sectionName : Text) (f f' : Option StoredFile)
    (exchanges : List (Exchange GitHub)) (outcome : StepOutcome) : Prop where
  entered : outcome = .done →
    exchanges.countP Exchange.isWrite = 1 ∧ f' = some (enteredIn pr sectionName f)
  untouched : outcome ≠ .done → exchanges.countP Exchange.isWrite = 0 ∧ f' = f

theorem leaves_alone {f f' : Option StoredFile} (ho : outcome ≠ .done)
    (hx : exchanges.countP Exchange.isWrite = 0) (hf : f' = f) :
    Leaves pr sectionName f f' exchanges outcome :=
  ⟨fun e => absurd e ho, fun _ => ⟨hx, hf⟩⟩

/-- An attempt whose write failed does not count. -/
theorem Leaves.append {f f' : Option StoredFile} {current : Option FileContent} {failure : Failure}
    (h : Leaves pr sectionName f f' exchanges outcome) :
    Leaves pr sectionName f f'
      (tried config r pr sectionName current (.error failure) ++ exchanges) outcome where
  entered := by simpa [tried] using h.entered
  untouched := by simpa [tried] using h.untouched

/-- **What one attempt leaves of a file.** When its write goes through nobody wrote since the read,
so the change is entered in the file as it is. -/
theorem Tries.leaves {current : Option FileContent} {answer : Except Failure Text}
    (h : Tries Memory.respond config r pr sectionName current answer m m') :
    ∃ landed f, m.foreignWrites = landed ++ m'.foreignWrites ∧
      f = StoredFile.overwritten (m.file? config.history.path config.history.branch) landed ∧
      (∀ sha, answer = .ok sha → m'.file? config.history.path config.history.branch =
        some (enteredIn pr sectionName f)) ∧
      (∀ failure, answer = .error failure →
        m'.file? config.history.path config.history.branch = f) := by
  obtain ⟨read, fresh, write⟩ := h
  obtain ⟨hf, hw, hcurrent⟩ := Memory.fetched read
  obtain ⟨landed, f, hlanded, hover, hok, herror⟩ := Memory.updated write
  obtain rfl := hcurrent current rfl
  rw [hw] at hlanded
  replace hover : f = StoredFile.overwritten (m.file? config.history.path config.history.branch)
    landed := hover.trans (congrArg (fun g => StoredFile.overwritten g landed) hf)
  refine ⟨landed, f, hlanded, hover, fun sha ha => ?_, herror⟩
  obtain ⟨hsha, hfile⟩ := hok sha ha
  have hnone : f = m.file? config.history.path config.history.branch := by
    rw [hover]
    refine StoredFile.overwritten_eq_of_sha ?_
    rw [← hover]
    exact hsha.trans (Option.map_map ..)
  rw [hnone] at hfile ⊢
  exact hfile

/-- **The loop leaves what others wrote, or enters its change in that.** -/
theorem Attempts.leaves
    (h : Attempts Memory.respond config r pr sectionName left m exchanges outcome m') :
    ∃ landed, m.foreignWrites = landed ++ m'.foreignWrites ∧
      Leaves pr sectionName
        (StoredFile.overwritten (m.file? config.history.path config.history.branch) landed)
        (m'.file? config.history.path config.history.branch) exchanges outcome := by
  induction h with
  | exhausted m => exact ⟨[], rfl, leaves_alone (by simp [keptChanging]) rfl rfl⟩
  | unread read =>
      obtain ⟨hf, hw, -⟩ := Memory.fetched read
      exact ⟨[], hw.symm, leaves_alone (by simp [Merge.unread]) rfl hf⟩
  | listed read h =>
      obtain ⟨hf, hw, -⟩ := Memory.fetched read
      exact ⟨[], hw.symm, leaves_alone (by simp [alreadyListed]) rfl hf⟩
  | written h =>
      obtain ⟨landed, _, hlanded, rfl, hok, -⟩ := h.leaves
      exact ⟨landed, hlanded, fun _ => ⟨rfl, hok _ rfl⟩, fun ho => absurd rfl ho⟩
  | refused h hc =>
      obtain ⟨landed, _, hlanded, rfl, -, herror⟩ := h.leaves
      exact ⟨landed, hlanded, leaves_alone (by simp [Merge.refused]) rfl (herror _ rfl)⟩
  | lost h hc rest ih =>
      obtain ⟨landed, _, hlanded, rfl, -, herror⟩ := h.leaves
      obtain ⟨more, hmore, hleaves⟩ := ih
      rw [hmore, ← List.append_assoc] at hlanded
      refine ⟨landed ++ more, hlanded, ?_⟩
      rw [StoredFile.overwritten_append, ← herror _ rfl]
      exact hleaves.append

end Left

/-! ## 6. Entering a change -/

/-- **Nothing that others write is lost, and nothing is written blindly.** Whatever the store holds,
whatever others write right before the loop writes, and whatever fails: each write follows a read;
there are no more writes than attempts, and the loop gives up exactly when it made as many and each
met a change; and when it is done it wrote once, on top of all that others wrote until then, and
otherwise the file is what they made of it. -/
theorem recordHistory_in_memory (config : Config) (r : RepositoryId) (pr : PullRequest)
    (sectionName : Text) (m : Memory) :
    let exchanges := (recordHistory config r pr sectionName).transcript Memory.respond m
    let (outcome, m') := (recordHistory config r pr sectionName).run Memory.respond m
    WritesFollowReads pr sectionName exchanges ∧
      exchanges.countP Exchange.isUpdate ≤ max 1 config.history.maxAttempts ∧
      (outcome = keptChanging config ↔
        exchanges.countP Exchange.isUpdate = max 1 config.history.maxAttempts ∧
          ∀ x ∈ exchanges, x.isUpdate = true → x.isConflict = true) ∧
      ∃ landed, m.foreignWrites = landed ++ m'.foreignWrites ∧
        Leaves pr sectionName
          (StoredFile.overwritten (m.file? config.history.path config.history.branch) landed)
          (m'.file? config.history.path config.history.branch) exchanges outcome := by
  have h := attempts_run Memory.respond config r pr sectionName (attempts config) m
  have hmax : attempts config = max 1 config.history.maxAttempts := Nat.max_comm ..
  refine ⟨h.writesFollowReads, ?_, ?_, h.leaves⟩
  · rw [← hmax]
    exact h.countP_isUpdate_le
  · rw [← hmax]
    exact h.keptChanging_iff

/-- Someone else makes the file between the read and the write: the loop reads again. -/
example :
    let m : Memory := { Memory.empty with foreignWrites := [some "## HEAD\n\n  * Theirs (#1)\n"] }
    let pr : PullRequest := ⟨2, "Ours", "ours", none, "master", ""⟩
    let (outcome, m') :=
      (recordHistory .default ⟨"jekyll", "jekyll"⟩ pr noSection).run Memory.respond m
    outcome = .done ∧ m'.file? "History.markdown" "master" =
      some ⟨"## HEAD\n\n  * Theirs (#1)\n  * Ours (#2)\n", 2⟩ := by
  decide +kernel

end Merge

end MergeScribe
