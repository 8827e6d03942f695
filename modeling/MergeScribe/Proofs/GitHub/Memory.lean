import MergeScribe.GitHub.Memory

/-!
# A file in memory

What the requests for one file do to it while others write it. Main statements: a read gives the
file as it is (`fetched`); a write comes after what others write right before it, and it went
through exactly if the answer says so (`updated`); a file that others wrote never has the sha
that it had before (`overwritten_eq_of_sha`); and only writes touch files (`files_respond`).
-/

namespace MergeScribe

/-- A number is known by its numeral. -/
theorem Text.ofNat_injective {m n : Nat} (h : Text.ofNat m = Text.ofNat n) : m = n := by
  have hd := congrArg (Nat.ofDigitChars 10 · 0) h
  simpa [Text.ofNat, Nat.ofDigitChars_ten_toDigits] using hd

/-! ## 1. Files that others write -/

namespace StoredFile

/-- The file as a read gives it. -/
def contents (f : StoredFile) : FileContent :=
  ⟨f.content, f.sha⟩

/-- How often a file was written; one that is missing never was. -/
def revisionOf (f : Option StoredFile) : Nat :=
  (f.map StoredFile.revision).getD 0

/-- A file after one more write. -/
def next (f : Option StoredFile) (content : Text) : StoredFile :=
  ⟨content, revisionOf f + 1⟩

/-- A file after others wrote it. A gap in their writes leaves it alone. -/
def overwritten : Option StoredFile → List (Option Text) → Option StoredFile
  | f, [] => f
  | f, none :: more => overwritten f more
  | f, some content :: more => overwritten (some (next f content)) more

theorem overwritten_append : (f : Option StoredFile) → (writes more : List (Option Text)) →
    overwritten f (writes ++ more) = overwritten (overwritten f writes) more
  | _, [], _ => rfl
  | f, none :: writes, more => overwritten_append f writes more
  | f, some content :: writes, more => overwritten_append (some (next f content)) writes more

/-- Others leave a file alone or take it to a later revision. -/
theorem overwritten_cases : (f : Option StoredFile) → (writes : List (Option Text)) →
    overwritten f writes = f ∨ revisionOf f < revisionOf (overwritten f writes)
  | _, [] => .inl rfl
  | f, none :: writes => overwritten_cases f writes
  | f, some content :: writes => by
      have hn : revisionOf (some (next f content)) = revisionOf f + 1 := rfl
      rcases overwritten_cases (some (next f content)) writes with e | hlt
      · right
        show _ < revisionOf (overwritten (some (next f content)) writes)
        rw [e]
        omega
      · right
        show _ < revisionOf (overwritten (some (next f content)) writes)
        omega

theorem revisionOf_eq_of_sha {f g : Option StoredFile}
    (h : f.map StoredFile.sha = g.map StoredFile.sha) : revisionOf f = revisionOf g := by
  cases f with
  | none => rw [Option.map_eq_none_iff.mp h.symm]
  | some f =>
      obtain ⟨g', rfl, e⟩ := Option.map_eq_some_iff.mp h.symm
      exact Text.ofNat_injective (List.append_cancel_left e.symm)

/-- **A file that others wrote never has the sha that it had before.** -/
theorem overwritten_eq_of_sha {f : Option StoredFile} {writes : List (Option Text)}
    (h : (overwritten f writes).map StoredFile.sha = f.map StoredFile.sha) :
    overwritten f writes = f := by
  rcases overwritten_cases f writes with e | hlt
  · exact e
  · have := revisionOf_eq_of_sha h
    omega

end StoredFile

/-! ## 2. The store -/

namespace Memory

theorem lookup_put_self {κ α : Type} [BEq κ] [LawfulBEq κ] (key : κ) (value : α) :
    (l : List (κ × α)) → (put key value l).lookup key = some value
  | [] => by simp [put]
  | (k, v) :: l => by
      unfold put
      split
      · rename_i h
        simp [beq_iff_eq.mp h]
      · rename_i h
        have hk : (key == k) = false := by
          refine Bool.eq_false_iff.mpr fun e => h ?_
          rw [beq_iff_eq.mp e]
          exact beq_self_eq_true k
        rw [List.lookup_cons, hk]
        exact lookup_put_self key value l

variable (m : Memory) (path branch : Text)

theorem file?_writeFile (content : Text) :
    (m.writeFile path branch content).file? path branch =
      some (StoredFile.next (m.file? path branch) content) :=
  lookup_put_self (path, branch) _ m.files

theorem nextFailure_files (method : Method) : (m.nextFailure method).2.files = m.files := by
  unfold nextFailure
  split <;> rfl

theorem nextFailure_foreignWrites (method : Method) :
    (m.nextFailure method).2.foreignWrites = m.foreignWrites := by
  unfold nextFailure
  split <;> rfl

theorem nextFailure_pullRequests (method : Method) :
    (m.nextFailure method).2.pullRequests = m.pullRequests := by
  unfold nextFailure
  split <;> rfl

/-- At most one write of someone else lands, the next one. -/
theorem foreignWrite_lands : ∃ landed,
    m.foreignWrites = landed ++ (m.foreignWrite path branch).foreignWrites ∧
      (m.foreignWrite path branch).file? path branch =
        StoredFile.overwritten (m.file? path branch) landed := by
  unfold foreignWrite
  split
  · exact ⟨[], rfl, rfl⟩
  · rename_i more h
    exact ⟨[none], h, rfl⟩
  · rename_i content more h
    exact ⟨[some content], h, file?_writeFile { m with foreignWrites := more } path branch content⟩

/-! ## 3. Requests -/

section Requests

variable {m m' : Memory} {r : RepositoryId}

/-- What a script has for a request does nothing to files and pull requests, whatever it is. -/
theorem respond_cases (c : GitHubCall) (m : Memory) :
    ∃ m₁ : Memory, m₁.files = m.files ∧ m₁.foreignWrites = m.foreignWrites ∧
      m₁.pullRequests = m.pullRequests ∧
      ((∃ failure, respond c m = (.error failure, m₁)) ∨ respond c m = m₁.perform c.operation) := by
  refine ⟨(m.nextFailure c.operation.method).2, nextFailure_files m _,
    nextFailure_foreignWrites m _, nextFailure_pullRequests m _, ?_⟩
  unfold respond
  split
  · rename_i failure m₁ e
    rw [e]
    exact .inl ⟨failure, rfl⟩
  · rename_i m₁ e
    rw [e]
    exact .inr rfl

/-- **A read gives the file as it is, and changes nothing.** -/
theorem fetched {path branch : Text} {answer : Except Failure (Option FileContent)}
    (h : respond ⟨r, .fetchFile path branch⟩ m = (answer, m')) :
    m'.file? path branch = m.file? path branch ∧ m'.foreignWrites = m.foreignWrites ∧
      ∀ current, answer = .ok current →
        current = (m.file? path branch).map StoredFile.contents := by
  obtain ⟨m₁, hf, hw, -, hr⟩ := respond_cases ⟨r, .fetchFile path branch⟩ m
  have hl : m₁.file? path branch = m.file? path branch := congrArg (List.lookup (path, branch)) hf
  rcases hr with ⟨failure, e⟩ | e
  · rw [e] at h
    cases h
    exact ⟨hl, hw, fun _ hc => nomatch hc⟩
  · rw [e] at h
    cases h
    refine ⟨hl, hw, fun current hc => ?_⟩
    rw [← hl]
    exact (Except.ok.inj hc).symm

/-- **A write comes after what others write right before it.** If the answer is success, it found
the expected sha there and went through; otherwise only the others wrote. -/
theorem updated {u : FileUpdate} {answer : Except Failure Text}
    (h : respond ⟨r, .updateFile u⟩ m = (answer, m')) :
    ∃ landed f, m.foreignWrites = landed ++ m'.foreignWrites ∧
      f = StoredFile.overwritten (m.file? u.path u.branch) landed ∧
      (∀ sha, answer = .ok sha → f.map StoredFile.sha = u.expectedSha ∧
        m'.file? u.path u.branch = some (StoredFile.next f u.content)) ∧
      (∀ failure, answer = .error failure → m'.file? u.path u.branch = f) := by
  obtain ⟨m₁, hf, hw, -, hr⟩ := respond_cases ⟨r, .updateFile u⟩ m
  have hl : m₁.file? u.path u.branch = m.file? u.path u.branch :=
    congrArg (List.lookup (u.path, u.branch)) hf
  rcases hr with ⟨failure, e⟩ | e
  · rw [e] at h
    cases h
    exact ⟨[], _, hw.symm, rfl, (fun _ ha => nomatch ha), fun _ _ => hl⟩
  · rw [e] at h
    obtain ⟨landed, hlanded, hfile⟩ := foreignWrite_lands m₁ u.path u.branch
    rw [hw] at hlanded
    rw [hl] at hfile
    replace h : (m₁.foreignWrite u.path u.branch).guardedWrite u = (answer, m') := h
    unfold guardedWrite at h
    split at h
    · rename_i hs
      cases h
      refine ⟨landed, _, hlanded, hfile, fun _ _ => ⟨hs, ?_⟩, fun _ ha => nomatch ha⟩
      exact file?_writeFile _ u.path u.branch u.content
    · cases h
      exact ⟨landed, _, hlanded, hfile, (fun _ ha => nomatch ha), fun _ _ => rfl⟩

/-! ## 4. What requests leave alone -/

/-- No request changes a pull request, and only writes touch files. -/
theorem perform_keeps (m : Memory) (o : Operation) :
    (m.perform o).2.pullRequests = m.pullRequests ∧
      (o.method ≠ .updateFile → (m.perform o).2.files = m.files) := by
  cases o with
  | fetchPullRequest number =>
      simp only [perform]
      split <;> exact ⟨rfl, fun _ => rfl⟩
  | mergePullRequest number method title message =>
      simp only [perform]
      split <;> exact ⟨rfl, fun _ => rfl⟩
  | updateFile update =>
      refine ⟨?_, fun h => absurd rfl h⟩
      have hforeign (path branch : Text) :
          (m.foreignWrite path branch).pullRequests = m.pullRequests := by
        unfold foreignWrite
        split <;> rfl
      show ((m.foreignWrite update.path update.branch).guardedWrite update).2.pullRequests = _
      rw [← hforeign update.path update.branch]
      unfold guardedWrite
      split <;> rfl
  | _ => exact ⟨rfl, fun _ => rfl⟩

/-- **No request changes a pull request.** -/
theorem pullRequests_respond {c : GitHubCall} {answer : Except Failure c.operation.Result}
    (h : respond c m = (answer, m')) : m'.pullRequests = m.pullRequests := by
  obtain ⟨m₁, -, -, hp, hr⟩ := respond_cases c m
  rcases hr with ⟨failure, e⟩ | e
  · rw [e] at h
    cases h
    exact hp
  · have hk := (perform_keeps m₁ c.operation).1
    rw [← e, h, hp] at hk
    exact hk

/-- **Only writes touch files.** -/
theorem files_respond {c : GitHubCall} {answer : Except Failure c.operation.Result}
    (h : respond c m = (answer, m')) (hc : c.operation.method ≠ .updateFile) :
    m'.files = m.files := by
  obtain ⟨m₁, hf, -, -, hr⟩ := respond_cases c m
  rcases hr with ⟨failure, e⟩ | e
  · rw [e] at h
    cases h
    exact hf
  · have hk := (perform_keeps m₁ c.operation).2 hc
    rw [← e, h, hf] at hk
    exact hk

/-- A pull request that is found is the first of the number that was asked for. -/
theorem fetchedPullRequest {number : Nat} {pr : PullRequest}
    (h : respond ⟨r, .fetchPullRequest number⟩ m = (.ok pr, m')) :
    m.pullRequests.find? (fun p => p.number == number) = some pr := by
  obtain ⟨m₁, -, -, hp, hr⟩ := respond_cases ⟨r, .fetchPullRequest number⟩ m
  rcases hr with ⟨failure, e⟩ | e
  · rw [e] at h
    cases h
  · rw [e] at h
    simp only [perform] at h
    split at h
    · rename_i p hfind
      cases h
      rw [← hp]
      exact hfind
    · cases h

end Requests

end Memory

end MergeScribe
