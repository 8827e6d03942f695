import Mathlib.Logic.Function.Basic
import MergeScribe.Proofs.Changelog.Entering
import MergeScribe.Proofs.History.Loop

/-!
# Loops that race for one file

Any number of loops enter a change each in the same file, question by question and in any order. The
file keeps what it has been: a write gives it a sha that it never had, and goes through only while
the file has the sha that the write expects. Main statement: the file is what it was with the
changes entered one after the other, each by one loop that says so in the end (`serializable`).

The invariant is `Consistent`: a loop that is about to write holds a version that the file had, and
shas tell versions apart, so a write that goes through enters its change in the latest version.
-/

namespace MergeScribe

open Text

namespace Race

/-! ## 1. The race -/

/-- Where the file is. -/
structure Site where
  repository : RepositoryId
  path : Text
  branch : Text
  deriving DecidableEq, Repr

/-- What a loop enters at a site. The section is a phrase if there is one, and the title is text on
one line. -/
structure Party (site : Site) where
  config : Config
  pullRequest : PullRequest
  sectionName : Text
  path : config.history.path = site.path
  branch : config.history.branch = site.branch
  filed : sectionName = noSection ∨ Phrase sectionName
  titled : startsFirm pullRequest.title = true
  oneLine : '\n' ∉ pullRequest.title

variable {site : Site} {ι : Type}

namespace Party

variable (p : Party site)

/-- The loop with a number of attempts left. -/
def loop (left : Nat) : Program GitHub StepOutcome :=
  Merge.updateHistory p.config site.repository p.pullRequest p.sectionName left

/-- The whole loop. -/
def program : Program GitHub StepOutcome :=
  Merge.recordHistory p.config site.repository p.pullRequest p.sectionName

/-- What follows the answer to a read. -/
def afterFetch (left : Nat) : Except Failure (Option FileContent) → Program GitHub StepOutcome :=
  Merge.afterFetch p.config site.repository p.pullRequest p.sectionName left

/-- What follows the answer to a write. -/
def afterUpdate (left : Nat) : Except Failure Text → Program GitHub StepOutcome :=
  Merge.afterUpdate p.config site.repository p.pullRequest p.sectionName left

def reference : Text :=
  Merge.issueReference p.pullRequest.number

def entry : Entry :=
  Entry.referring (escapeHtml p.pullRequest.title) p.reference

def place : Place :=
  Place.ofSection p.sectionName

/-- Whether a file lists the change. -/
def listed (t : Text) : Bool :=
  Merge.lists t p.sectionName p.pullRequest.number

/-- The file with the change entered. -/
def enter (t : Text) : Text :=
  Changelog.addMerge t p.sectionName p.pullRequest.title p.reference

end Party

/-- The state of a race. -/
structure World (ι : Type) where
  /-- What the file has been, the latest first. While there is no file, this is empty. -/
  versions : List FileContent
  /-- Whose writes went through, in order. -/
  writers : List ι
  /-- What each loop has left to do. -/
  running : ι → Program GitHub StepOutcome

namespace World

/-- The file as it is. -/
def file (w : World ι) : Option FileContent :=
  w.versions.head?

/-- The text of the file. -/
def text (w : World ι) : Text :=
  Merge.textOf w.file

/-- No loop has asked anything yet. -/
def start (parties : ι → Party site) (initial : Option FileContent) : World ι :=
  ⟨initial.toList, [], fun i => (parties i).program⟩

variable [DecidableEq ι]

/-- One loop goes on. -/
def resume (w : World ι) (i : ι) (p : Program GitHub StepOutcome) : World ι :=
  { w with running := Function.update w.running i p }

/-- The file gets a new version. -/
def write (w : World ι) (i : ι) (f : FileContent) : World ι :=
  { w with versions := f :: w.versions, writers := w.writers ++ [i] }

end World

/-- One question of one loop is answered. A read gives the file as it is. A write goes through only
if the file has the expected sha, and then the file gets a sha that it never had. Every question may
fail, a write that meets another sha has to, and what fails changes nothing. -/
inductive Step [DecidableEq ι] (site : Site) : World ι → World ι → Prop
  | fetched {w : World ι} {i : ι} {path branch : Text}
      {next : Except Failure (Option FileContent) → Program GitHub StepOutcome}
      (asks : w.running i = .ask ⟨site.repository, .fetchFile path branch⟩ next)
      (hp : path = site.path) (hb : branch = site.branch) :
      Step site w (w.resume i (next (.ok w.file)))
  | written {w : World ι} {i : ι} {update : FileUpdate}
      {next : Except Failure Text → Program GitHub StepOutcome} {sha : Text}
      (asks : w.running i = .ask ⟨site.repository, .updateFile update⟩ next)
      (hp : update.path = site.path) (hb : update.branch = site.branch)
      (expected : w.file.map FileContent.sha = update.expectedSha)
      (unused : ∀ f ∈ w.versions, f.sha ≠ sha) :
      Step site w ((w.resume i (next (.ok sha))).write i ⟨update.content, sha⟩)
  | failed {w : World ι} {i : ι} {call : GitHubCall}
      {next : Except Failure call.operation.Result → Program GitHub StepOutcome}
      (asks : w.running i = .ask call next) (failure : Failure) :
      Step site w (w.resume i (next (.error failure)))

/-- The worlds that a race can come to. -/
inductive Reachable [DecidableEq ι] (parties : ι → Party site) (initial : Option FileContent) :
    World ι → Prop
  | start : Reachable parties initial (World.start parties initial)
  | step {w w' : World ι} (h : Reachable parties initial w) (hs : Step site w w') :
      Reachable parties initial w'

/-! ## 2. Where a loop stands -/

/-- Where a loop stands that did or did not write: it asks for the file, or it holds a version that
the file had and asks to write, or it is at its end. -/
inductive Stand (p : Party site) (versions : List FileContent) (wrote : Prop) :
    Program GitHub StepOutcome → Prop
  | reading (left : Nat) (h : ¬ wrote) :
      Stand p versions wrote
        (.ask ⟨site.repository, .fetchFile p.config.history.path p.config.history.branch⟩
          (p.afterFetch left))
  | writing (left : Nat) (h : ¬ wrote) {current : Option FileContent}
      (held : ∀ f ∈ current, f ∈ versions)
      (fresh : p.listed (Merge.textOf current) = false) :
      Stand p versions wrote
        (.ask ⟨site.repository, .updateFile
            (Merge.entering p.config p.pullRequest p.sectionName current)⟩
          (p.afterUpdate left))
  | done (h : wrote) : Stand p versions wrote (.done .done)
  | gaveUp (h : ¬ wrote) {outcome : StepOutcome} (ho : outcome ≠ .done) :
      Stand p versions wrote (.done outcome)

namespace Stand

variable {p : Party site} {versions versions' : List FileContent} {wrote wrote' : Prop}

/-- A loop that asks nothing stands where it stood when others write. -/
theorem mono {program : Program GitHub StepOutcome} (h : Stand p versions wrote program)
    (hv : ∀ f ∈ versions, f ∈ versions') (hw : wrote' ↔ wrote) :
    Stand p versions' wrote' program := by
  cases h with
  | reading left h => exact .reading left (hw.not.mpr h)
  | writing left h held fresh =>
      exact .writing left (hw.not.mpr h) (fun f hf => hv f (held f hf)) fresh
  | done h => exact .done (hw.mpr h)
  | gaveUp h ho => exact .gaveUp (hw.not.mpr h) ho

theorem loop (p : Party site) (versions : List FileContent) (h : ¬ wrote) :
    (left : Nat) → Stand p versions wrote (p.loop left)
  | 0 => .gaveUp h (by simp)
  | left + 1 => by
      unfold Party.loop
      rw [Merge.updateHistory_succ]
      exact .reading left h

/-- After a read a loop is at its end, or it asks to write and holds what it read. -/
theorem afterFetch (left : Nat) (h : ¬ wrote) {answer : Except Failure (Option FileContent)}
    (held : ∀ current, answer = .ok current → ∀ f ∈ current, f ∈ versions) :
    Stand p versions wrote (p.afterFetch left answer) := by
  cases answer with
  | error failure => exact .gaveUp h (by simp [Merge.unread])
  | ok current =>
      show Stand p versions wrote (if _ then _ else _)
      split
      · exact .gaveUp h (by simp [Merge.alreadyListed])
      · rename_i fresh
        exact .writing left h (held current rfl) (Bool.eq_false_iff.mpr fresh)

/-- After a write that failed a loop starts over, or it is at its end. -/
theorem afterFailure (left : Nat) (h : ¬ wrote) (failure : Failure) :
    Stand p versions wrote (p.afterUpdate left (.error failure)) := by
  show Stand p versions wrote (if _ then _ else _)
  split
  · exact loop p versions h left
  · exact .gaveUp h (by simp [Merge.refused])

/-- At its end a loop wrote exactly if it says that it is done. -/
theorem wrote_iff {outcome : StepOutcome} (h : Stand p versions wrote (.done outcome)) :
    wrote ↔ outcome = .done := by
  cases h with
  | done h => exact ⟨fun _ => rfl, fun _ => h⟩
  | gaveUp h ho => exact ⟨fun hw => absurd hw h, fun e => absurd e ho⟩

end Stand

/-! ## 3. What a change does to the file -/

namespace Party

variable (p : Party site)

theorem parse_enter (t : Text) :
    Changelog.parse (p.enter t) =
      ((Changelog.parse t).append Version.head p.place p.entry).2 :=
  Changelog.parse_addMerge t p.filed p.titled p.oneLine
    (Merge.isReference_issueReference p.pullRequest.number)

/-- What the file lists it lists with the change entered. -/
theorem mem_entriesAt_enter {t id : Text} {place : Place} {e : Entry}
    (h : e ∈ (Changelog.parse t).entriesAt id place) :
    e ∈ (Changelog.parse (p.enter t)).entriesAt id place := by
  rw [parse_enter]
  exact Changelog.mem_entriesAt_append h Version.head p.place p.entry

/-- A change that the file did not list is listed as it was entered. -/
theorem entry_mem_enter {t : Text} (fresh : p.listed t = false) :
    p.entry ∈ (Changelog.parse (p.enter t)).entriesAt Version.head p.place := by
  have hl : Entry.listed ((Changelog.parse t).entriesAt Version.head p.place) p.entry.reference =
    false := fresh
  rw [parse_enter, Changelog.entriesAt_append hl, if_pos ⟨rfl, rfl⟩]
  exact List.mem_append_right _ List.mem_cons_self

theorem listed_of_entry_mem {t : Text}
    (h : p.entry ∈ (Changelog.parse t).entriesAt Version.head p.place) :
    p.listed t = true :=
  List.any_eq_true.mpr ⟨p.entry, h, beq_self_eq_true _⟩

end Party

/-! ## 4. The invariant -/

/-- What holds of every world that a race can come to. -/
structure Consistent (parties : ι → Party site) (initial : Option FileContent) (w : World ι) :
    Prop where
  shas : (w.versions.map FileContent.sha).Nodup
  untouched : w.writers = [] → w.file = initial
  text : w.text = w.writers.foldl (fun t i => (parties i).enter t) (Merge.textOf initial)
  stands : ∀ i, Stand (parties i) w.versions (i ∈ w.writers) (w.running i)
  once : w.writers.Nodup
  entered : ∀ i ∈ w.writers,
    (parties i).entry ∈ (Changelog.parse w.text).entriesAt Version.head (parties i).place
  apart : ∀ i ∈ w.writers, ∀ j ∈ w.writers, (parties i).sectionName = (parties j).sectionName →
    (parties i).pullRequest.number = (parties j).pullRequest.number → i = j

theorem consistent_start (parties : ι → Party site) (initial : Option FileContent) :
    Consistent parties initial (World.start parties initial) where
  shas := by cases initial <;> simp [World.start]
  untouched := fun _ => by cases initial <;> rfl
  text := by cases initial <;> rfl
  stands := fun i => Stand.loop (parties i) _ (by simp [World.start]) _
  once := List.nodup_nil
  entered := fun _ hi => nomatch hi
  apart := fun _ hi => nomatch hi

namespace Consistent

variable {parties : ι → Party site} {initial : Option FileContent} {w : World ι}

/-- A version that the file had, with the sha that the file has, is the file as it is. -/
theorem eq_file (h : Consistent parties initial w) {current : Option FileContent}
    (held : ∀ f ∈ current, f ∈ w.versions)
    (hs : w.file.map FileContent.sha = current.map FileContent.sha) : current = w.file := by
  cases current with
  | none => exact (Option.map_eq_none_iff.mp hs).symm
  | some f =>
      obtain ⟨g, hg, e⟩ := Option.map_eq_some_iff.mp hs
      have hgm : g ∈ w.versions := List.mem_of_head? hg
      have hgf : g = f := List.inj_on_of_nodup_map h.shas hgm (held f rfl) e
      rw [hg, hgf]

/-- A change that the file does not list is nobody's who wrote. -/
theorem number_ne (h : Consistent parties initial w) {i j : ι}
    (fresh : (parties i).listed w.text = false) (hj : j ∈ w.writers)
    (hs : (parties j).sectionName = (parties i).sectionName) :
    (parties j).pullRequest.number ≠ (parties i).pullRequest.number := by
  intro hn
  have hl : Merge.lists w.text (parties j).sectionName (parties j).pullRequest.number = true :=
    (parties j).listed_of_entry_mem (h.entered j hj)
  rw [hs, hn] at hl
  exact Bool.false_ne_true (fresh.symm.trans hl)

variable [DecidableEq ι]

/-- A loop that goes on without writing changes nothing but where it stands. -/
theorem resume (h : Consistent parties initial w) {i : ι} {p : Program GitHub StepOutcome}
    (hp : Stand (parties i) w.versions (i ∈ w.writers) p) :
    Consistent parties initial (w.resume i p) where
  shas := h.shas
  untouched := h.untouched
  text := h.text
  stands := by
    intro j
    by_cases hj : j = i
    · subst hj
      show Stand _ _ _ (Function.update w.running j p j)
      rw [Function.update_self]
      exact hp
    · show Stand _ _ _ (Function.update w.running i p j)
      rw [Function.update_of_ne hj]
      exact h.stands j
  once := h.once
  entered := h.entered
  apart := h.apart

/-- A write that goes through enters one more change in the latest version. -/
theorem write (h : Consistent parties initial w) {i : ι} {f : FileContent} (hi : i ∉ w.writers)
    (fresh : (parties i).listed w.text = false) (unused : ∀ g ∈ w.versions, g.sha ≠ f.sha)
    (hf : f.content = (parties i).enter w.text) :
    Consistent parties initial ((w.resume i (.done .done)).write i f) where
  shas := by
    refine List.nodup_cons.mpr ⟨fun hm => ?_, h.shas⟩
    obtain ⟨g, hg, e⟩ := List.mem_map.mp hm
    exact unused g hg e
  untouched := fun hn => absurd hn (List.append_ne_nil_of_right_ne_nil _ (List.cons_ne_nil i []))
  text := by
    show f.content = (w.writers ++ [i]).foldl _ _
    rw [hf, h.text, List.foldl_append]
    rfl
  stands := by
    intro j
    show Stand (parties j) (f :: w.versions) (j ∈ w.writers ++ [i])
      (Function.update w.running i (.done .done) j)
    by_cases hj : j = i
    · subst hj
      rw [Function.update_self]
      exact .done (List.mem_append_right _ List.mem_cons_self)
    · rw [Function.update_of_ne hj]
      exact (h.stands j).mono (fun g hg => List.mem_cons_of_mem f hg) (by simp [hj])
  once := by
    refine List.nodup_append.mpr ⟨h.once, List.nodup_singleton i, fun a ha b hb => ?_⟩
    rw [List.mem_singleton.mp hb]
    rintro rfl
    exact hi ha
  entered := by
    intro j hj
    show _ ∈ (Changelog.parse f.content).entriesAt _ _
    rw [hf]
    rcases List.mem_append.mp hj with hj | hj
    · exact (parties i).mem_entriesAt_enter (h.entered j hj)
    · obtain rfl := List.mem_singleton.mp hj
      exact (parties j).entry_mem_enter fresh
  apart := by
    intro j hj k hk hs hn
    rcases List.mem_append.mp hj with hj | hj <;> rcases List.mem_append.mp hk with hk | hk
    · exact h.apart j hj k hk hs hn
    · obtain rfl := List.mem_singleton.mp hk
      exact absurd hn (h.number_ne fresh hj hs)
    · obtain rfl := List.mem_singleton.mp hj
      exact absurd hn.symm (h.number_ne fresh hk hs.symm)
    · rw [List.mem_singleton.mp hj, List.mem_singleton.mp hk]

/-- **What one answer preserves.** -/
theorem step (h : Consistent parties initial w) {w' : World ι} (hs : Step site w w') :
    Consistent parties initial w' := by
  cases hs with
  | @fetched i path branch next asks =>
      have hp := h.stands i
      rw [asks] at hp
      cases hp with
      | reading left hw =>
          refine h.resume (Stand.afterFetch left hw fun current e f hf => ?_)
          cases e
          exact List.mem_of_head? hf
  | @written i update next sha asks hp hb expected unused =>
      have hp := h.stands i
      rw [asks] at hp
      cases hp with
      | writing left hw held fresh =>
          obtain rfl := h.eq_file held expected
          exact h.write hw fresh unused rfl
  | @failed i call next asks failure =>
      have hp := h.stands i
      rw [asks] at hp
      cases hp with
      | reading left hw => exact h.resume (Stand.afterFetch left hw fun _ e => nomatch e)
      | writing left hw held fresh => exact h.resume (Stand.afterFailure left hw failure)

end Consistent

/-- **What a whole race preserves.** -/
theorem consistent_of_reachable [DecidableEq ι] {parties : ι → Party site}
    {initial : Option FileContent} {w : World ι} (h : Reachable parties initial w) :
    Consistent parties initial w := by
  induction h with
  | start => exact consistent_start parties initial
  | step h hs ih => exact ih.step hs

/-! ## 5. What a loop can do -/

section Moves

variable [DecidableEq ι] {w : World ι} {i : ι} {p : Party site} (left : Nat)
  (current : Option FileContent)

/-- A loop that has an attempt left can read. -/
theorem Step.reads (asks : w.running i = p.loop (left + 1)) :
    Step site w (w.resume i (p.afterFetch left (.ok w.file))) := by
  unfold Party.loop at asks
  rw [Merge.updateHistory_succ] at asks
  exact .fetched asks p.path p.branch

/-- A loop that read the file as it is can write. -/
theorem Step.writes (sha : Text) (asks : w.running i = p.afterFetch left (.ok current))
    (fresh : p.listed (Merge.textOf current) = false)
    (expected : w.file.map FileContent.sha = current.map FileContent.sha)
    (unused : ∀ f ∈ w.versions, f.sha ≠ sha) :
    Step site w ((w.resume i (.done .done)).write i ⟨p.enter (Merge.textOf current), sha⟩) := by
  have ha := asks.trans (if_neg (Bool.eq_false_iff.mp fresh))
  exact .written ha p.path p.branch expected unused

/-- A loop that meets a conflict starts over. -/
theorem Step.loses (asks : w.running i = p.afterFetch left (.ok current))
    (fresh : p.listed (Merge.textOf current) = false)
    (failure : Failure) (hc : failure.isConflict = true) :
    Step site w (w.resume i (p.loop left)) := by
  have ha := asks.trans (if_neg (Bool.eq_false_iff.mp fresh))
  have hl : p.afterUpdate left (.error failure) = p.loop left := if_pos hc
  rw [← hl]
  exact .failed ha failure

end Moves

/-! ## 6. What a race comes to -/

/-- **Whatever the order, the file is what it was with the changes entered one after the other.**
Each change was entered by one loop at most once; a loop that says it is done has its entry in the
file, and one that says anything else entered nothing; and no two loops enter the same pull request
in the same section. -/
theorem serializable [DecidableEq ι] {parties : ι → Party site} {initial : Option FileContent}
    {w : World ι} (h : Reachable parties initial w) :
    (w.writers = [] → w.file = initial) ∧
      w.text = w.writers.foldl (fun t i => (parties i).enter t) (Merge.textOf initial) ∧
      w.writers.Nodup ∧
      (∀ i, w.running i = .done .done → i ∈ w.writers ∧
        (parties i).entry ∈
          (Changelog.parse w.text).entriesAt Version.head (parties i).place) ∧
      (∀ i outcome, w.running i = .done outcome → outcome ≠ .done → i ∉ w.writers) ∧
      (∀ i j, w.running i = .done .done → w.running j = .done .done →
        (parties i).sectionName = (parties j).sectionName →
        (parties i).pullRequest.number = (parties j).pullRequest.number → i = j) := by
  have hc := consistent_of_reachable h
  have hwrote : ∀ i outcome, w.running i = .done outcome → (i ∈ w.writers ↔ outcome = .done) :=
    fun i outcome hi => (hi ▸ hc.stands i).wrote_iff
  have hdone : ∀ i, w.running i = .done .done → i ∈ w.writers :=
    fun i hi => (hwrote i .done hi).mpr rfl
  refine ⟨hc.untouched, hc.text, hc.once, ?_, ?_, ?_⟩
  · intro i hi
    exact ⟨hdone i hi, hc.entered i (hdone i hi)⟩
  · intro i outcome hi ho
    exact fun hw => ho ((hwrote i outcome hi).mp hw)
  · intro i j hi hj hs hn
    exact hc.apart i (hdone i hi) j (hdone j hj) hs hn

/-- Where the changelog usually is. -/
def usual : Site :=
  ⟨⟨"jekyll", "jekyll"⟩, HistorySettings.default.path, HistorySettings.default.branch⟩

/-- Two pull requests of one title, filed under one section. -/
def rivals (first : Bool) : Party usual where
  config := .default
  pullRequest := ⟨if first then 1 else 2, "Fix it", "fix", none, "master", ""⟩
  sectionName := "Bug Fixes"
  path := rfl
  branch := rfl
  filed := .inr (by decide +kernel)
  titled := (by decide +kernel : startsFirm ("Fix it" : Text) = true)
  oneLine := (by decide +kernel : '\n' ∉ ("Fix it" : Text))

/-- Both rivals find no file. The one that is late meets a conflict, reads what the other wrote and
writes after it. -/
theorem serializable_rivals :
    ∃ w, Reachable rivals none w ∧ w.running true = .done .done ∧ w.running false = .done .done ∧
      w.text = (rivals false).enter ((rivals true).enter []) := by
  have h : Reachable rivals none _ := .start
  have h := h.step (.reads (i := false) (p := rivals false) 2 rfl)
  have h := h.step (.reads (i := true) (p := rivals true) 2 rfl)
  have h := h.step (.writes (i := true) (p := rivals true) 2 none "a" rfl (by decide +kernel) rfl
    fun f hf => nomatch hf)
  have h := h.step (.loses (i := false) (p := rivals false) 2 none rfl (by decide +kernel)
    (.ofCause (.conflict usual.path none)) rfl)
  have h := h.step (.reads (i := false) (p := rivals false) 1 rfl)
  have h := h.step (.writes (i := false) (p := rivals false) 1
    (some ⟨(rivals true).enter [], "a"⟩) "b" rfl (by decide +kernel) rfl (by decide))
  exact ⟨_, h, rfl, rfl, (serializable h).2.1⟩

end Race

end MergeScribe
