import MergeScribe.Changelog.VersionId
import MergeScribe.Proofs.Text.Character
import MergeScribe.Proofs.Text.Trim

/-!
# How versions are written

The recognisers of versions cut a text at its dots. Here the same is said as a grammar: a mark that
may be missing, two numbers, a third that may be missing, and a stage that may be missing. Main
statements: the recogniser of released versions accepts exactly what the grammar writes
(`isReleased_iff`); tags of two kinds name a version, and no others do (`ofTag?_eq_some_iff`,
`ofTag?_eq_none_iff`); and the version that a tag names shows whether it is a prerelease
(`PrereleaseTag.isPrerelease`, `FinalTag.isPrerelease`).
-/

namespace MergeScribe

namespace Text

/-! ## 1. Pieces -/

theorem pieces_of_not_mem {separator : Char} : {t : Text} → separator ∉ t → pieces separator t = [t]
  | [], _ => rfl
  | c :: rest, h => by
      have hc : c ≠ separator := fun e => h (e ▸ List.mem_cons_self)
      have hr : separator ∉ rest := fun hm => h (List.mem_cons_of_mem c hm)
      rw [pieces, if_neg hc, pieces_of_not_mem hr]

theorem pieces_append_separator {separator : Char} : {t : Text} → separator ∉ t → (rest : Text) →
    pieces separator (t ++ separator :: rest) = t :: pieces separator rest
  | [], _, rest => by simp [pieces]
  | c :: t, h, rest => by
      have hc : c ≠ separator := fun e => h (e ▸ List.mem_cons_self)
      have ht : separator ∉ t := fun hm => h (List.mem_cons_of_mem c hm)
      rw [List.cons_append, pieces, if_neg hc, pieces_append_separator ht]

end Text

namespace VersionId

open Text

/-! ## 2. The grammar -/

/-- A third number with its dot, or nothing. -/
def Patch (t : Text) : Prop :=
  t = [] ∨ ∃ n, isNumber n = true ∧ t = '.' :: n

/-- The stage of a prerelease with its dots, or nothing. -/
def Stage (t : Text) : Prop :=
  t = [] ∨ ∃ n, isNumber n = true ∧ (t = ".pre.beta" ++ n ∨ t = ".pre.rc" ++ n)

/-- A released version: the mark `v` or nothing, two numbers, a patch and a stage. -/
def Written (t : Text) : Prop :=
  ∃ mark major minor patch stage : Text, (mark = [] ∨ mark = ['v']) ∧ isNumber major = true ∧
    isNumber minor = true ∧ Patch patch ∧ Stage stage ∧
    t = mark ++ (major ++ '.' :: (minor ++ (patch ++ stage)))

theorem isNumber_iff {t : Text} :
    isNumber t = true ↔ t ≠ [] ∧ ∀ c ∈ t, isDigit c = true := by
  simp [isNumber]

theorem dot_not_mem_of_isNumber {t : Text} (h : isNumber t = true) : '.' ∉ t :=
  fun hm => ne_of_isDigit ((isNumber_iff.mp h).2 '.' hm) isDigit_dot rfl

/-! ## 3. The recognisers -/

theorem isStage_iff {t : Text} :
    isStage t = true ↔ ∃ n, isNumber n = true ∧ (t = "beta" ++ n ∨ t = "rc" ++ n) := by
  simp only [isStage, Bool.or_eq_true, Option.any_eq_true, after?_eq_some_iff]
  constructor
  · rintro (⟨n, e, hn⟩ | ⟨n, e, hn⟩)
    · exact ⟨n, hn, .inl e⟩
    · exact ⟨n, hn, .inr e⟩
  · rintro ⟨n, hn, e | e⟩
    · exact .inl ⟨n, e, hn⟩
    · exact .inr ⟨n, e, hn⟩

theorem stage_of_isStage {t : Text} (h : isStage t = true) : Stage (".pre." ++ t) := by
  obtain ⟨n, hn, rfl | rfl⟩ := isStage_iff.mp h
  · exact .inr ⟨n, hn, .inl rfl⟩
  · exact .inr ⟨n, hn, .inr rfl⟩

/-- The pieces of a stage that stands after a number. -/
theorem pieces_append_stage {number stage : Text} (hn : isNumber number = true) (hs : Stage stage) :
    pieces '.' (number ++ stage) = [number] ∨
      ∃ name, isStage name = true ∧ pieces '.' (number ++ stage) = [number, "pre", name] := by
  rcases hs with rfl | ⟨n, hd, e⟩
  · rw [List.append_nil]
    exact .inl (pieces_of_not_mem (dot_not_mem_of_isNumber hn))
  · refine .inr ?_
    have hdot := dot_not_mem_of_isNumber hd
    rcases e with rfl | rfl
    · refine ⟨"beta" ++ n, isStage_iff.mpr ⟨n, hd, .inl rfl⟩, ?_⟩
      have hname : '.' ∉ ("beta" ++ n : Text) := by simp [hdot]
      exact (pieces_append_separator (dot_not_mem_of_isNumber hn) _).trans
        (congrArg _ ((pieces_append_separator (t := "pre") (by decide) _).trans
          (congrArg _ (pieces_of_not_mem hname))))
    · refine ⟨"rc" ++ n, isStage_iff.mpr ⟨n, hd, .inr rfl⟩, ?_⟩
      have hname : '.' ∉ ("rc" ++ n : Text) := by simp [hdot]
      exact (pieces_append_separator (dot_not_mem_of_isNumber hn) _).trans
        (congrArg _ ((pieces_append_separator (t := "pre") (by decide) _).trans
          (congrArg _ (pieces_of_not_mem hname))))

theorem isShort_iff {t : Text} :
    isShort t = true ↔ ∃ major minor stage, isNumber major = true ∧ isNumber minor = true ∧
      Stage stage ∧ t = major ++ '.' :: (minor ++ stage) := by
  constructor
  · intro h
    have hp := intercalate_pieces '.' t
    unfold isShort at h
    split at h
    · rename_i a b e
      simp only [Bool.and_eq_true] at h
      refine ⟨a, b, [], h.1, h.2, .inl rfl, ?_⟩
      rw [← hp, e]
      simp [List.intercalate_cons_cons]
    · rename_i a b pre name e
      simp only [Bool.and_eq_true, beq_iff_eq] at h
      obtain ⟨⟨⟨ha, hb⟩, rfl⟩, hs⟩ := h
      refine ⟨a, b, ".pre." ++ name, ha, hb, stage_of_isStage hs, ?_⟩
      rw [← hp, e]
      simp [List.intercalate_cons_cons]
    · cases h
  · rintro ⟨major, minor, stage, ha, hb, hs, rfl⟩
    have e := pieces_append_separator (dot_not_mem_of_isNumber ha) (minor ++ stage)
    rcases pieces_append_stage hb hs with hp | ⟨name, hname, hp⟩
    · simp [isShort, e, hp, ha, hb]
    · simp [isShort, e, hp, ha, hb, hname]

theorem isFull_iff {t : Text} :
    isFull t = true ↔ ∃ major minor patch stage, isNumber major = true ∧ isNumber minor = true ∧
      isNumber patch = true ∧ Stage stage ∧
      t = major ++ '.' :: (minor ++ '.' :: (patch ++ stage)) := by
  constructor
  · intro h
    have hp := intercalate_pieces '.' t
    unfold isFull at h
    split at h
    · rename_i a b c e
      simp only [Bool.and_eq_true] at h
      refine ⟨a, b, c, [], h.1.1, h.1.2, h.2, .inl rfl, ?_⟩
      rw [← hp, e]
      simp [List.intercalate_cons_cons]
    · rename_i a b c pre name e
      simp only [Bool.and_eq_true, beq_iff_eq] at h
      obtain ⟨⟨⟨⟨ha, hb⟩, hc⟩, rfl⟩, hs⟩ := h
      refine ⟨a, b, c, ".pre." ++ name, ha, hb, hc, stage_of_isStage hs, ?_⟩
      rw [← hp, e]
      simp [List.intercalate_cons_cons]
    · cases h
  · rintro ⟨major, minor, patch, stage, ha, hb, hc, hs, rfl⟩
    have e := pieces_append_separator (dot_not_mem_of_isNumber ha) (minor ++ '.' :: (patch ++ stage))
    have e' := pieces_append_separator (dot_not_mem_of_isNumber hb) (patch ++ stage)
    rcases pieces_append_stage hc hs with hp | ⟨name, hname, hp⟩
    · simp [isFull, e, e', hp, ha, hb, hc]
    · simp [isFull, e, e', hp, ha, hb, hc, hname]

/-- What follows the mark is short or full. -/
theorem isShort_or_isFull_iff {t : Text} :
    (isShort t || isFull t) = true ↔ ∃ major minor patch stage, isNumber major = true ∧
      isNumber minor = true ∧ Patch patch ∧ Stage stage ∧
      t = major ++ '.' :: (minor ++ (patch ++ stage)) := by
  rw [Bool.or_eq_true, isShort_iff, isFull_iff]
  constructor
  · rintro (⟨a, b, s, ha, hb, hs, rfl⟩ | ⟨a, b, c, s, ha, hb, hc, hs, rfl⟩)
    · exact ⟨a, b, [], s, ha, hb, .inl rfl, hs, rfl⟩
    · exact ⟨a, b, '.' :: c, s, ha, hb, .inr ⟨c, hc, rfl⟩, hs, rfl⟩
  · rintro ⟨a, b, p, s, ha, hb, rfl | ⟨c, hc, rfl⟩, hs, rfl⟩
    · exact .inl ⟨a, b, s, ha, hb, hs, rfl⟩
    · exact .inr ⟨a, b, c, s, ha, hb, hc, hs, rfl⟩

theorem after_v_eq_none {number rest : Text} (hn : isNumber number = true) :
    after? "v" (number ++ rest) = none := by
  obtain ⟨hne, hd⟩ := isNumber_iff.mp hn
  obtain ⟨c, digits, rfl⟩ := List.exists_cons_of_ne_nil hne
  have hc : 'v' ≠ c := (ne_of_isDigit (hd c List.mem_cons_self) isDigit_v).symm
  exact if_neg hc

/-- **The recogniser of released versions accepts what the grammar writes.** -/
theorem isReleased_iff {t : Text} : isReleased t = true ↔ Written t := by
  unfold isReleased
  constructor
  · intro h
    obtain ⟨a, b, p, s, ha, hb, hp, hs, e⟩ := isShort_or_isFull_iff.mp h
    cases hv : after? "v" t with
    | none =>
        rw [hv] at e
        exact ⟨[], a, b, p, s, .inl rfl, ha, hb, hp, hs, e⟩
    | some rest =>
        rw [hv] at e
        have e' : rest = a ++ '.' :: (b ++ (p ++ s)) := e
        refine ⟨['v'], a, b, p, s, .inr rfl, ha, hb, hp, hs, ?_⟩
        rw [← e']
        exact after?_eq_some_iff.mp hv
  · rintro ⟨mark, a, b, p, s, hm, ha, hb, hp, hs, rfl⟩
    refine isShort_or_isFull_iff.mpr ⟨a, b, p, s, ha, hb, hp, hs, ?_⟩
    rcases hm with rfl | rfl
    · rw [List.nil_append, after_v_eq_none ha]
      rfl
    · rfl

instance (t : Text) : Decidable (Written t) :=
  decidable_of_iff _ isReleased_iff

/-! ## 4. What a written version is made of -/

theorem not_isSpace_of_mem_number {t : Text} (h : isNumber t = true) :
    ∀ c ∈ t, isSpace c = false :=
  fun c hc => not_isSpace_of_isDigit ((isNumber_iff.mp h).2 c hc)

theorem Patch.not_isSpace {t : Text} (h : Patch t) : ∀ c ∈ t, isSpace c = false := by
  rcases h with rfl | ⟨n, hn, rfl⟩
  · exact fun c hc => absurd hc List.not_mem_nil
  · exact List.forall_mem_cons.mpr ⟨by decide, not_isSpace_of_mem_number hn⟩

theorem Stage.not_isSpace {t : Text} (h : Stage t) : ∀ c ∈ t, isSpace c = false := by
  rcases h with rfl | ⟨n, hn, rfl | rfl⟩
  · exact fun c hc => absurd hc List.not_mem_nil
  · exact List.forall_mem_append.mpr ⟨not_isSpace_of_all (by decide), not_isSpace_of_mem_number hn⟩
  · exact List.forall_mem_append.mpr ⟨not_isSpace_of_all (by decide), not_isSpace_of_mem_number hn⟩

/-- A written version is a single word. -/
theorem Written.not_isSpace {t : Text} (h : Written t) : ∀ c ∈ t, isSpace c = false := by
  obtain ⟨mark, a, b, p, s, hm, ha, hb, hp, hs, rfl⟩ := h
  have hmark : ∀ c ∈ mark, isSpace c = false := by
    rcases hm with rfl | rfl <;> exact not_isSpace_of_all (by decide)
  refine List.forall_mem_append.mpr ⟨hmark, List.forall_mem_append.mpr
    ⟨not_isSpace_of_mem_number ha, List.forall_mem_cons.mpr ⟨by decide, ?_⟩⟩⟩
  exact List.forall_mem_append.mpr ⟨not_isSpace_of_mem_number hb,
    List.forall_mem_append.mpr ⟨hp.not_isSpace, hs.not_isSpace⟩⟩

theorem Written.dot_mem {t : Text} (h : Written t) : '.' ∈ t := by
  obtain ⟨mark, a, b, p, s, -, -, -, -, -, rfl⟩ := h
  simp

/-! ## 5. Tags -/

/-- The tag of a final release: the mark and three numbers. -/
def FinalTag (tag : Text) : Prop :=
  ∃ major minor patch : Text, isNumber major = true ∧ isNumber minor = true ∧
    isNumber patch = true ∧ tag = 'v' :: (major ++ '.' :: (minor ++ '.' :: patch))

/-- The tag of a prerelease: the mark, three numbers and a stage. -/
def PrereleaseTag (tag : Text) : Prop :=
  ∃ major minor patch stage n : Text, isNumber major = true ∧ isNumber minor = true ∧
    isNumber patch = true ∧ (stage = ".pre.beta" ∨ stage = ".pre.rc") ∧ isNumber n = true ∧
    tag = 'v' :: (major ++ '.' :: (minor ++ '.' :: (patch ++ (stage ++ n))))

/-- A tag that names a version. -/
def VersionTag (tag : Text) : Prop :=
  FinalTag tag ∨ PrereleaseTag tag

/-- **A tag names the version behind its mark**, if it is one of the two kinds. -/
theorem ofTag?_eq_some_iff {tag version : Text} :
    VersionId.ofTag? tag = some version ↔ VersionTag tag ∧ tag = 'v' :: version := by
  have hmark : VersionId.ofTag? tag = some version ↔
      tag = 'v' :: version ∧ isFull version = true := by
    rw [VersionId.ofTag?, Option.filter_eq_some_iff, after?_eq_some_iff]
    rfl
  rw [hmark, isFull_iff]
  constructor
  · rintro ⟨htag, major, minor, patch, stage, ha, hb, hc, hs, rfl⟩
    refine ⟨?_, htag⟩
    rcases hs with rfl | ⟨n, hn, rfl | rfl⟩
    · exact .inl ⟨major, minor, patch, ha, hb, hc, by rw [htag, List.append_nil]⟩
    · exact .inr ⟨major, minor, patch, ".pre.beta", n, ha, hb, hc, .inl rfl, hn, htag⟩
    · exact .inr ⟨major, minor, patch, ".pre.rc", n, ha, hb, hc, .inr rfl, hn, htag⟩
  · rintro ⟨⟨major, minor, patch, ha, hb, hc, rfl⟩ |
      ⟨major, minor, patch, stage, n, ha, hb, hc, hstage, hn, rfl⟩, htag⟩
    · refine ⟨htag, major, minor, patch, [], ha, hb, hc, .inl rfl, ?_⟩
      rw [List.append_nil]
      exact (List.cons.inj htag).2.symm
    · refine ⟨htag, major, minor, patch, stage ++ n, ha, hb, hc, ?_, (List.cons.inj htag).2.symm⟩
      rcases hstage with rfl | rfl
      · exact .inr ⟨n, hn, .inl rfl⟩
      · exact .inr ⟨n, hn, .inr rfl⟩

theorem ofTag?_eq_none_iff {tag : Text} : VersionId.ofTag? tag = none ↔ ¬ VersionTag tag := by
  rw [Option.eq_none_iff_forall_ne_some]
  constructor
  · intro h htag
    obtain ⟨version, rfl⟩ : ∃ version, tag = 'v' :: version := by
      rcases htag with ⟨major, minor, patch, -, -, -, e⟩ | ⟨_, _, _, _, _, -, -, -, -, -, e⟩
      · exact ⟨_, e⟩
      · exact ⟨_, e⟩
    exact h version (ofTag?_eq_some_iff.mpr ⟨htag, rfl⟩)
  · intro h version hversion
    exact h (ofTag?_eq_some_iff.mp hversion).1

/-! ## 6. Prereleases -/

theorem occursIn_append (literal rest : Text) :
    (before : Text) → occursIn literal (before ++ (literal ++ rest)) = true
  | [] => by
      have hstarts : startsWith (literal ++ rest) literal = true := by
        rw [startsWith, after?_eq_some_iff.mpr rfl]
        rfl
      rw [List.nil_append]
      cases h : literal ++ rest with
      | nil =>
          rw [(List.append_eq_nil_iff.mp h).1]
          rfl
      | cons c more =>
          rw [h] at hstarts
          rw [occursIn, hstarts, Bool.true_or]
  | c :: before => by
      rw [List.cons_append, occursIn, occursIn_append literal rest before, Bool.or_true]

/-- **The tag of a prerelease names a version that shows that it is one.** -/
theorem PrereleaseTag.isPrerelease {version : Text} (h : PrereleaseTag ('v' :: version)) :
    VersionId.isPrerelease version = true := by
  obtain ⟨major, minor, patch, stage, n, -, -, -, hstage, -, e⟩ := h
  obtain ⟨name, hname⟩ : ∃ name : Text, stage = ".pre" ++ name := by
    rcases hstage with rfl | rfl
    · exact ⟨".beta", rfl⟩
    · exact ⟨".rc", rfl⟩
  have hcut : version = (major ++ '.' :: (minor ++ '.' :: patch)) ++ (".pre" ++ (name ++ n)) := by
    rw [(List.cons.inj e).2, hname]
    simp
  rw [VersionId.isPrerelease, hcut]
  exact occursIn_append ".pre" (name ++ n) _

theorem PrereleaseTag.ofTag? {tag : Text} (h : PrereleaseTag tag) :
    ∃ version, VersionId.ofTag? tag = some version ∧ VersionId.isPrerelease version = true := by
  have hnamed : VersionId.ofTag? tag ≠ none := fun hnone => ofTag?_eq_none_iff.mp hnone (.inr h)
  obtain ⟨version, hversion⟩ := Option.ne_none_iff_exists'.mp hnamed
  obtain ⟨-, rfl⟩ := ofTag?_eq_some_iff.mp hversion
  exact ⟨version, hversion, h.isPrerelease⟩

theorem mem_of_startsWith {t literal : Text} {c : Char} (h : startsWith t literal = true)
    (hc : c ∈ literal) : c ∈ t := by
  obtain ⟨rest, hrest⟩ := Option.isSome_iff_exists.mp h
  rw [after?_eq_some_iff.mp hrest]
  exact List.mem_append_left rest hc

/-- The characters of a literal that occurs in a text occur there too. -/
theorem mem_of_occursIn {literal : Text} {c : Char} (hc : c ∈ literal) :
    {t : Text} → occursIn literal t = true → c ∈ t
  | [], h => by
      rw [List.isEmpty_iff.mp h] at hc
      exact hc
  | d :: t, h => by
      rw [occursIn, Bool.or_eq_true] at h
      rcases h with h | h
      · exact mem_of_startsWith h hc
      · exact List.mem_cons_of_mem d (mem_of_occursIn hc h)

/-- **The tag of a final release names a version that shows no prerelease**: it has no letters. -/
theorem FinalTag.isPrerelease {version : Text} (h : FinalTag ('v' :: version)) :
    VersionId.isPrerelease version = false := by
  obtain ⟨major, minor, patch, ha, hb, hc, e⟩ := h
  obtain rfl := (List.cons.inj e).2
  have hletter {t : Text} (ht : isNumber t = true) : 'p' ∉ t :=
    fun hm => ne_of_isDigit ((isNumber_iff.mp ht).2 'p' hm) isDigit_p rfl
  refine Bool.eq_false_iff.mpr fun hoccurs => ?_
  have hm : 'p' ∈ major ++ '.' :: (minor ++ '.' :: patch) := mem_of_occursIn (by decide) hoccurs
  simp [hletter ha, hletter hb, hletter hc] at hm

/-- A version that is named by the tag of a final release may head a version, and so may the tag. -/
theorem FinalTag.written {version : Text} (h : FinalTag ('v' :: version)) :
    Written version ∧ Written ('v' :: version) := by
  obtain ⟨major, minor, patch, ha, hb, hc, e⟩ := h
  have hversion : version = major ++ '.' :: (minor ++ ('.' :: patch ++ [])) := by
    rw [(List.cons.inj e).2, List.append_nil]
  refine ⟨⟨[], major, minor, '.' :: patch, [], .inl rfl, ha, hb, .inr ⟨patch, hc, rfl⟩, .inl rfl,
      hversion⟩, ['v'], major, minor, '.' :: patch, [], .inr rfl, ha, hb, .inr ⟨patch, hc, rfl⟩,
      .inl rfl, congrArg ('v' :: ·) hversion⟩

end VersionId

end MergeScribe
