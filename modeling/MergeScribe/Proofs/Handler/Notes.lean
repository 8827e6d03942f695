import MergeScribe.Handler.Release
import MergeScribe.Proofs.Changelog.Contents
import MergeScribe.Proofs.Changelog.Headings

/-!
# Notes for tags

The recogniser of tags and the reader of changelogs agree. Main statements: a document has a
version exactly when a line of its text heads it (`Changelog.version?_parse_isSome_iff`); the notes
of a tag are those of the version that it asks for (`ReleaseNotes.ofTag_of_find?_eq_some`); and so
the lines of a text tell whether a tag gets notes, and of which version
(`ReleaseNotes.ofTag_parse`).
-/

namespace MergeScribe

open Text VersionId

/-! ## 1. Versions that a text heads -/

/-- Some line of the text heads the version of an id. -/
def Headed (t id : Text) : Prop :=
  ∃ line ∈ lines t, ∃ date, Heads line id date

theorem Outline.mem_versionIds_linesOf {t id : Text} :
    id ∈ versionIds (Changelog.linesOf t) ↔ Headed t id := by
  constructor
  · intro h
    obtain ⟨⟨id', date⟩, hheading, rfl⟩ := List.mem_map.mp h
    obtain ⟨form, hform, hversion⟩ := List.mem_filterMap.mp hheading
    obtain ⟨line, hline, rfl⟩ := List.mem_map.mp hform
    refine ⟨line, hline, date, classify_eq_version_iff.mp ?_⟩
    cases h : classify line with
    | version id' date' =>
        rw [h] at hversion
        cases hversion
        rfl
    | heading _ | change _ | blank | other _ =>
        rw [h] at hversion
        cases hversion
  · rintro ⟨line, hline, date, h⟩
    have hform : Line.version id date ∈ Changelog.linesOf t :=
      List.mem_map.mpr ⟨line, hline, classify_eq_version_iff.mpr h⟩
    have hheading : (id, date) ∈ (Changelog.linesOf t).filterMap Line.version? :=
      List.mem_filterMap.mpr ⟨_, hform, rfl⟩
    exact List.mem_map_of_mem (f := Prod.fst) hheading

/-- **A document has the versions that the lines of its text head, and no others.** -/
theorem Changelog.version?_parse_isSome_iff {t id : Text} :
    ((parse t).version? id).isSome = true ↔ Headed t id := by
  rw [parse_eq, ← Outline.mem_versionIds_linesOf, ← Outline.mem_ids, version?, List.find?_isSome]
  constructor
  · rintro ⟨v, hv, hid⟩
    obtain ⟨id', hid', rfl⟩ := List.mem_map.mp hv
    obtain rfl : id' = id := beq_iff_eq.mp hid
    exact hid'
  · intro h
    exact ⟨_, List.mem_map_of_mem h, beq_self_eq_true id⟩

/-! ## 2. What a tag asks for -/

namespace ReleaseNotes

variable {c : Changelog} {t tag wanted : Text} {v : Version}

/-- The id that a tag asks for: for a final release what stands behind the mark, and for a
prerelease `HEAD`. -/
inductive AsksFor : Text → Text → Prop
  | final {version : Text} (h : FinalTag ('v' :: version)) : AsksFor ('v' :: version) version
  | prerelease {tag : Text} (h : PrereleaseTag tag) : AsksFor tag Version.head

theorem exists_asksFor (h : VersionTag tag) : ∃ wanted, AsksFor tag wanted := by
  rcases h with h | h
  · obtain ⟨major, minor, patch, -, -, -, rfl⟩ := id h
    exact ⟨_, .final h⟩
  · exact ⟨Version.head, .prerelease h⟩

/-- The id that a tag asks for is looked up, and it is `HEAD` for a prerelease alone. -/
theorem AsksFor.source (h : AsksFor tag wanted) : ∃ version, VersionId.ofTag? tag = some version ∧
    ReleaseNotes.source version = wanted ∧
    VersionId.isPrerelease version = decide (wanted = Version.head) := by
  cases h with
  | final h =>
      have hplain := h.isPrerelease
      refine ⟨wanted, ofTag?_eq_some_iff.mpr ⟨.inl h, rfl⟩, ?_, ?_⟩
      · rw [ReleaseNotes.source, hplain]
        rfl
      · have hother : wanted ≠ Version.head := fun e => by
          have hdot := h.written.1.dot_mem
          rw [e] at hdot
          revert hdot
          decide
        rw [hplain, decide_eq_false hother]
  | prerelease h =>
      obtain ⟨version, hversion, hshows⟩ := h.ofTag?
      exact ⟨version, hversion, if_pos hshows, hshows⟩

/-- **The notes of a tag are those of the version that it asks for.** -/
theorem ofTag_of_find?_eq_some (h : AsksFor tag wanted) (path : Text)
    (hv : find? c wanted = some v) :
    ofTag c tag path = .ok ⟨tag, v.id, v.body, decide (wanted = Version.head)⟩ := by
  obtain ⟨version, hversion, hsource, hshows⟩ := h.source
  unfold ofTag
  rw [hversion]
  dsimp only
  rw [hsource, hv, hshows]

theorem ofTag_of_find?_eq_none (h : AsksFor tag wanted) (path : Text)
    (hnone : find? c wanted = none) : ofTag c tag path = .error (.versionMissing wanted path) := by
  obtain ⟨version, hversion, hsource, hshows⟩ := h.source
  unfold ofTag
  rw [hversion]
  dsimp only
  rw [hsource, hnone]

theorem ofTag_of_not_versionTag (h : ¬ VersionTag tag) (path : Text) :
    ofTag c tag path = .error (.notAVersionTag tag) := by
  unfold ofTag
  rw [ofTag?_eq_none_iff.mpr h]

/-! ## 3. What is found in a text -/

/-- A version that is taken for an id: the one of that id, and only without it the one whose heading
puts the mark in front. -/
def Takes (c : Changelog) (wanted : Text) (v : Version) : Prop :=
  c.version? wanted = some v ∨
    c.version? wanted = none ∧ c.version? ('v' :: wanted) = some v

theorem find?_eq_some_iff : find? c wanted = some v ↔ Takes c wanted v := by
  unfold find? Takes
  cases c.version? wanted with
  | none => simp
  | some v' => simp

theorem Takes.mem (h : Takes c wanted v) : v ∈ c.versions := by
  cases h with
  | inl h => exact List.mem_of_find?_eq_some h
  | inr h => exact List.mem_of_find?_eq_some h.2

/-- Notes are those of a version that is taken. -/
theorem exists_takes_of_ofTag {path : Text} {notes : ReleaseNotes}
    (h : ofTag c tag path = .ok notes) : ∃ version v, Takes c (source version) v ∧
      notes = ⟨tag, v.id, v.body, VersionId.isPrerelease version⟩ := by
  unfold ofTag at h
  split at h
  · cases h
  · rename_i version _
    split at h
    · cases h
    · rename_i v hfound
      cases h
      exact ⟨version, v, find?_eq_some_iff.mp hfound, rfl⟩

theorem tag_eq {path : Text} {notes : ReleaseNotes} (h : ofTag c tag path = .ok notes) :
    notes.tag = tag := by
  obtain ⟨version, v, -, rfl⟩ := exists_takes_of_ofTag h
  rfl

theorem find?_parse_isSome_iff : (find? (Changelog.parse t) wanted).isSome = true ↔
    Headed t wanted ∨ Headed t ('v' :: wanted) := by
  rw [← Changelog.version?_parse_isSome_iff, ← Changelog.version?_parse_isSome_iff]
  unfold find?
  cases (Changelog.parse t).version? wanted with
  | none => simp
  | some v' => simp

theorem Takes.id_eq (h : Takes c wanted v) : v.id = wanted ∨ v.id = 'v' :: wanted := by
  rcases h with h | ⟨-, h⟩
  · exact .inl (by simpa using List.find?_some h)
  · exact .inr (by simpa using List.find?_some h)

theorem Takes.isId (h : Takes (Changelog.parse t) wanted v) : Version.IsId v.id :=
  ((Changelog.parse_canonical t).versions v h.mem).id

/-- What is taken in a text is `HEAD` if that was asked for: no heading puts the mark before it. -/
theorem Takes.id_eq_head_iff (h : Takes (Changelog.parse t) wanted v) :
    v.id = Version.head ↔ wanted = Version.head := by
  have hmark : ∀ id : Text, 'v' :: id ≠ Version.head := fun id e => by
    have hfirst : 'v' = 'H' := (List.cons.inj e).1
    revert hfirst
    decide
  have hhead : ¬ Version.IsId ('v' :: Version.head) := by decide
  rcases h.id_eq with e | e
  · rw [e]
  · refine ⟨fun e' => absurd (e.symm.trans e') (hmark wanted), fun e' => ?_⟩
    have hid := h.isId
    rw [e, e'] at hid
    exact absurd hid hhead

/-- **A tag that asks for a version gets its notes, or the version is missing.** -/
theorem ofTag_cases (h : AsksFor tag wanted) (t path : Text) :
    (Headed t wanted ∨ Headed t ('v' :: wanted)) ∧ (∃ v, Takes (Changelog.parse t) wanted v ∧
      ofTag (Changelog.parse t) tag path =
        .ok ⟨tag, v.id, v.body, decide (v.id = Version.head)⟩) ∨
    ¬ (Headed t wanted ∨ Headed t ('v' :: wanted)) ∧
      ofTag (Changelog.parse t) tag path = .error (.versionMissing wanted path) := by
  rw [← find?_parse_isSome_iff]
  cases hfound : find? (Changelog.parse t) wanted with
  | none => exact .inr ⟨Bool.false_ne_true, ofTag_of_find?_eq_none h path hfound⟩
  | some v =>
      have htakes : Takes (Changelog.parse t) wanted v := find?_eq_some_iff.mp hfound
      refine .inl ⟨rfl, v, htakes, ?_⟩
      rw [ofTag_of_find?_eq_some h path hfound, decide_eq_decide.mpr htakes.id_eq_head_iff]

/-- A final release has notes if a line has its tag for a heading, with the mark or without. -/
theorem ofTag_of_plainHeading {line id : Text} (htag : FinalTag tag) (hline : line ∈ lines t)
    (hplain : PlainHeading line id) (hid : tag = id ∨ tag = 'v' :: id) (path : Text) :
    ∃ notes, ofTag (Changelog.parse t) tag path = .ok notes := by
  obtain ⟨wanted, rfl⟩ : ∃ wanted, tag = 'v' :: wanted := by
    obtain ⟨major, minor, patch, -, -, -, e⟩ := htag
    exact ⟨_, e⟩
  have hheaded : Headed t wanted ∨ Headed t ('v' :: wanted) := by
    rcases hid with rfl | e
    · obtain ⟨date, h⟩ := hplain.heads (.inr htag.written.2)
      exact .inr ⟨line, hline, date, h⟩
    · obtain rfl := (List.cons.inj e).2
      obtain ⟨date, h⟩ := hplain.heads (.inr htag.written.1)
      exact .inl ⟨line, hline, date, h⟩
  rcases ofTag_cases (.final htag) t path with ⟨-, v, -, h⟩ | ⟨hnone, -⟩
  · exact ⟨_, h⟩
  · exact absurd hheaded hnone

/-- **The lines of a text tell which tags get notes, and of which version.** A tag that names no
version gets none. Any other asks for a version, and it gets notes exactly when a line heads that
version or the same with the mark in front. They are those of the version without the mark, if there
is one, and they show a prerelease exactly when that version is `HEAD`. Without such a line the
version is reported missing. In particular, a final release has notes if a line is a heading with
its tag, with the mark or without, and with a date or without. -/
theorem ofTag_parse (t tag path : Text) :
    (∀ named, ofTag (Changelog.parse t) tag path = .error (.notAVersionTag named) ↔
      named = tag ∧ ¬ VersionTag tag) ∧
    (VersionTag tag → ∃ wanted, AsksFor tag wanted ∧
      ((∃ notes, ofTag (Changelog.parse t) tag path = .ok notes) ↔
        Headed t wanted ∨ Headed t ('v' :: wanted)) ∧
      (∀ notes, ofTag (Changelog.parse t) tag path = .ok notes →
        ∃ v, Takes (Changelog.parse t) wanted v ∧
          notes = ⟨tag, v.id, v.body, decide (v.id = Version.head)⟩) ∧
      (¬ (Headed t wanted ∨ Headed t ('v' :: wanted)) →
        ofTag (Changelog.parse t) tag path = .error (.versionMissing wanted path))) ∧
    (FinalTag tag → ∀ line ∈ lines t, ∀ id, PlainHeading line id → tag = id ∨ tag = 'v' :: id →
      ∃ notes, ofTag (Changelog.parse t) tag path = .ok notes) := by
  refine ⟨fun named => ⟨fun h => ?_, fun ⟨hnamed, hother⟩ => ?_⟩, fun htag => ?_,
    fun htag line hline id hplain hid => ofTag_of_plainHeading htag hline hplain hid path⟩
  · by_cases htag : VersionTag tag
    · obtain ⟨wanted, hasks⟩ := exists_asksFor htag
      rcases ofTag_cases hasks t path with ⟨-, v, -, e⟩ | ⟨-, e⟩
      · rw [e] at h
        cases h
      · rw [e] at h
        cases h
    · rw [ofTag_of_not_versionTag htag] at h
      cases h
      exact ⟨rfl, htag⟩
  · rw [hnamed, ofTag_of_not_versionTag hother]
  · obtain ⟨wanted, hasks⟩ := exists_asksFor htag
    refine ⟨wanted, hasks, ?_⟩
    rcases ofTag_cases hasks t path with ⟨hheaded, v, htakes, e⟩ | ⟨hnone, e⟩
    · rw [e]
      refine ⟨⟨fun _ => hheaded, fun _ => ⟨_, rfl⟩⟩, ?_, fun h => absurd hheaded h⟩
      intro notes h
      cases h
      exact ⟨v, htakes, rfl⟩
    · rw [e]
      refine ⟨⟨?_, fun h => absurd h hnone⟩, ?_, fun _ => rfl⟩
      · rintro ⟨notes, h⟩
        cases h
      · intro notes h
        cases h

/-- A heading with the mark and a date. Its release is found by its tag, and by nothing else. -/
theorem ofTag_parse_marked :
    let t : Text := "## 2.1.0

## v2.0.0 / 2015-01-01

  * Old (#1)
"
    (∃ notes, ofTag (Changelog.parse t) "v2.0.0" "History.markdown" = .ok notes) ∧
      ofTag (Changelog.parse t) "2.0.0" "History.markdown" = .error (.notAVersionTag "2.0.0") := by
  intro t
  have htag : FinalTag "v2.0.0" :=
    ⟨"2", "0", "0", by decide +kernel, by decide +kernel, by decide +kernel, rfl⟩
  have hline : "## v2.0.0 / 2015-01-01".toList ∈ lines t := by decide +kernel
  have hother : ¬ VersionTag "2.0.0" := ofTag?_eq_none_iff.mp (by decide +kernel)
  exact ⟨(ofTag_parse t "v2.0.0" _).2.2 htag _ hline "v2.0.0"
      (.inr ⟨"2015-01-01", by decide +kernel, rfl⟩) (.inl rfl),
    ((ofTag_parse t "2.0.0" _).1 _).mpr ⟨rfl, hother⟩⟩

end ReleaseNotes

end MergeScribe
