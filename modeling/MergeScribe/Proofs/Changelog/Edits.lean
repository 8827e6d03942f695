import Mathlib.Data.List.Forall2
import MergeScribe.Proofs.Changelog.Entering

/-!
# Runs of edits

What a program can do to a document, one operation after the other, with any texts as arguments.
Main statements: every run of operations leaves versions and sections apart and `HEAD` in front
(`Edit.run_wellFormed`); all operations but those that start over only add to the document
(`Edit.within_perform`), and so does every run of them (`Edit.within_runFrom`). Together:
`Edit.run_keeps`.
-/

namespace MergeScribe

/-! ## 1. Operations -/

/-- An operation on a document. -/
inductive Edit where
  | new
  | read (text : Text)
  | reread
  | version (id : Text)
  | heading (id name : Text)
  | append (id : Text) (place : Place) (e : Entry)
  | merge (sectionName title reference : Text)
  deriving DecidableEq, Repr

namespace Edit

/-- The document after an operation. -/
def perform (c : Changelog) : Edit → Changelog
  | .new => .empty
  | .read text => .parse text
  | .reread => .parse c.render
  | .version id => c.ensureVersion id
  | .heading id name => c.ensureSection id name
  | .append id place e => (c.append id place e).2
  | .merge sectionName title reference => (c.insertMerge sectionName title reference).2

/-- Whether the operation goes on with the document, instead of starting over. -/
def goesOn : Edit → Bool
  | .new | .read _ | .reread => false
  | .version _ | .heading _ _ | .append _ _ _ | .merge _ _ _ => true

/-- The document after operations, one after the other. -/
def runFrom (c : Changelog) (edits : List Edit) : Changelog :=
  edits.foldl perform c

/-- The document after operations that begin with none. -/
def run (edits : List Edit) : Changelog :=
  runFrom .empty edits

end Edit

/-! ## 2. Well-formed documents -/

/-- Versions have ids of their own, `HEAD` is the first of them, and the sections of a version have
names of their own. -/
structure Changelog.WellFormed (c : Changelog) : Prop where
  ordered : c.Ordered
  names : ∀ v ∈ c.versions, (v.sections.map Section.name).Nodup

namespace Changelog.WellFormed

variable {c : Changelog}

theorem of_canonical (h : c.Canonical) : c.WellFormed :=
  ⟨h.ordered, fun v hv => (h.versions v hv).names⟩

theorem ensureVersion (h : c.WellFormed) (id : Text) : (c.ensureVersion id).WellFormed := by
  unfold Changelog.ensureVersion
  split
  · exact h
  · rename_i hnew
    refine ⟨h.ordered.insertFresh fun w hw e => hnew ?_, fun w hw => ?_⟩
    · exact List.any_eq_true.mpr ⟨w, hw, beq_iff_eq.mpr e⟩
    · rcases mem_insertFresh.mp hw with rfl | hw
      · exact List.nodup_nil
      · exact h.names w hw

theorem update (h : c.WellFormed) {f : Version → Version} (hid : ∀ v, (f v).id = v.id)
    (hf : ∀ v : Version, (v.sections.map Section.name).Nodup →
      ((f v).sections.map Section.name).Nodup) (id : Text) : (c.update id f).WellFormed where
  ordered := h.ordered.withVersions (map_updateFirst hid c.versions)
  names := forall_mem_updateFirst hf h.names

end Changelog.WellFormed

theorem Version.nodup_names_append {v : Version} (h : (v.sections.map Section.name).Nodup)
    (e : Entry) (place : Place) : ((v.append e place).sections.map Section.name).Nodup := by
  cases place with
  | direct => exact h
  | under name =>
      have hnames := map_updateFirst (p := fun s => s.name == name)
        (f := fun s : Section => { s with entries := s.entries ++ [e] }) (g := Section.name)
        (fun _ => rfl) (v.ensureSection name).sections
      show (List.map Section.name (updateFirst _ _ _)).Nodup
      rw [hnames]
      exact nodup_names_ensureSection h name

/-! ## 3. Growing documents -/

/-- A section that another goes on with: more entries may follow. -/
structure Section.Within (s s' : Section) : Prop where
  name : s'.name = s.name
  entries : s.entries <+: s'.entries

/-- A version that another goes on with: more entries may follow, and more sections may stand among
those that are there, which may go on themselves. -/
structure Version.Within (v v' : Version) : Prop where
  id : v'.id = v.id
  date : v'.date = v.date
  entries : v.entries <+: v'.entries
  sections : List.SublistForall₂ Section.Within v.sections v'.sections

/-- **A document that another goes on with**: more versions may stand among those that are there,
which may go on themselves. -/
def Changelog.Within (c c' : Changelog) : Prop :=
  List.SublistForall₂ Version.Within c.versions c'.versions

section Growing

instance : Std.Refl Section.Within :=
  ⟨fun _ => ⟨rfl, List.prefix_rfl⟩⟩

instance : IsTrans Section Section.Within :=
  ⟨fun _ _ _ h h' => ⟨h'.name.trans h.name, h.entries.trans h'.entries⟩⟩

instance : Std.Refl Version.Within :=
  ⟨fun _ => ⟨rfl, rfl, List.prefix_rfl, refl _⟩⟩

instance : IsTrans Version Version.Within :=
  ⟨fun _ _ _ h h' => ⟨h'.id.trans h.id, h'.date.trans h.date, h.entries.trans h'.entries,
    IsTrans.trans _ _ _ h.sections h'.sections⟩⟩

theorem Changelog.Within.rfl {c : Changelog} : c.Within c :=
  refl c.versions

theorem Changelog.Within.trans {c c' c'' : Changelog} (h : c.Within c') (h' : c'.Within c'') :
    c.Within c'' :=
  IsTrans.trans c.versions c'.versions c''.versions h h'

/-- A list goes on when one of its members does. -/
theorem sublistForall₂_updateFirst {α : Type} {R : α → α → Prop} [Std.Refl R] {p : α → Bool}
    {f : α → α} (hf : ∀ a, R a (f a)) : (l : List α) → List.SublistForall₂ R l (updateFirst p f l)
  | [] => .nil
  | a :: l => by
      unfold updateFirst
      split
      · exact .cons (hf a) (refl l)
      · exact .cons (refl a) (sublistForall₂_updateFirst hf l)

/-- Each member of a list goes on in a list that goes on with it. -/
theorem exists_of_sublistForall₂ {α : Type} {R : α → α → Prop} {l l' : List α}
    (h : List.SublistForall₂ R l l') : ∀ a ∈ l, ∃ a' ∈ l', R a a' := by
  induction h with
  | nil => exact List.forall_mem_nil _
  | cons hr _ ih =>
      refine List.forall_mem_cons.mpr ⟨⟨_, List.mem_cons_self, hr⟩, fun a ha => ?_⟩
      obtain ⟨a', ha', hr'⟩ := ih a ha
      exact ⟨a', List.mem_cons_of_mem _ ha', hr'⟩
  | cons_right _ ih =>
      intro a ha
      obtain ⟨a', ha', hr⟩ := ih a ha
      exact ⟨a', List.mem_cons_of_mem _ ha', hr⟩

end Growing

/-! ## 4. One operation -/

namespace Version

/-- A section is made behind those that are there. -/
theorem within_ensureSection (v : Version) (name : Text) : v.Within (v.ensureSection name) := by
  unfold ensureSection
  split
  · exact refl v
  · exact ⟨rfl, rfl, List.prefix_rfl, (List.sublist_append_left _ _).sublistForall₂⟩

/-- An entry is entered behind those that are in its place. -/
theorem within_append (v : Version) (e : Entry) (place : Place) : v.Within (v.append e place) := by
  cases place with
  | direct => exact ⟨rfl, rfl, List.prefix_append _ _, refl _⟩
  | under name =>
      refine IsTrans.trans _ _ _ (v.within_ensureSection name) ⟨rfl, rfl, List.prefix_rfl, ?_⟩
      exact sublistForall₂_updateFirst (fun s => ⟨rfl, List.prefix_append _ _⟩) _

end Version

namespace Changelog

variable (c : Changelog)

theorem sublist_insertFresh (id : Text) : (versions : List Version) →
    versions.Sublist (insertFresh id versions)
  | [] => List.nil_sublist _
  | v :: more => by
      rw [insertFresh]
      split
      · exact (List.sublist_cons_self _ more).cons_cons v
      · exact List.sublist_cons_self _ _

/-- A version is made among those that are there. -/
theorem within_ensureVersion (id : Text) : c.Within (c.ensureVersion id) := by
  unfold ensureVersion
  split
  · exact .rfl
  · exact (sublist_insertFresh id c.versions).sublistForall₂

theorem within_update {f : Version → Version} (hf : ∀ v, Version.Within v (f v)) (id : Text) :
    c.Within (c.update id f) :=
  sublistForall₂_updateFirst hf c.versions

theorem within_append (id : Text) (place : Place) (e : Entry) :
    c.Within (c.append id place e).2 := by
  unfold append
  split
  · exact .rfl
  · exact (c.within_ensureVersion id).trans
      (within_update _ (fun v => v.within_append e place) id)

theorem WellFormed.append {c : Changelog} (h : c.WellFormed) (id : Text) (place : Place)
    (e : Entry) : (c.append id place e).2.WellFormed := by
  unfold Changelog.append
  split
  · exact h
  · exact (h.ensureVersion id).update (fun v => v.append_id e place)
      (fun v hv => v.nodup_names_append hv e place) id

end Changelog

namespace Edit

variable {c : Changelog}

/-- **An operation keeps a document well-formed**, whatever its arguments. -/
theorem perform_wellFormed (h : c.WellFormed) (edit : Edit) : (perform c edit).WellFormed := by
  cases edit with
  | new => exact .of_canonical Changelog.canonical_empty
  | read text => exact .of_canonical (Changelog.parse_canonical text)
  | reread => exact .of_canonical (Changelog.parse_canonical c.render)
  | version id => exact h.ensureVersion id
  | heading id name =>
      exact (h.ensureVersion id).update (fun v => v.ensureSection_id name)
        (fun v hv => Version.nodup_names_ensureSection hv name) id
  | append id place e => exact h.append id place e
  | merge sectionName title reference => exact h.append _ _ _

/-- **An operation that goes on only adds to the document.** -/
theorem within_perform {edit : Edit} (h : edit.goesOn = true) : c.Within (perform c edit) := by
  cases edit with
  | new | read | reread => cases h
  | version id => exact c.within_ensureVersion id
  | heading id name =>
      exact (c.within_ensureVersion id).trans
        (Changelog.within_update _ (fun v => v.within_ensureSection name) id)
  | append id place e => exact c.within_append id place e
  | merge sectionName title reference => exact c.within_append _ _ _

/-! ## 5. All operations -/

theorem runFrom_wellFormed (h : c.WellFormed) (edits : List Edit) :
    (runFrom c edits).WellFormed := by
  induction edits generalizing c with
  | nil => exact h
  | cons edit edits ih => exact ih (perform_wellFormed h edit)

theorem run_wellFormed (edits : List Edit) : (run edits).WellFormed :=
  runFrom_wellFormed (.of_canonical Changelog.canonical_empty) edits

theorem within_runFrom {edits : List Edit} (h : ∀ edit ∈ edits, edit.goesOn = true) :
    c.Within (runFrom c edits) := by
  induction edits generalizing c with
  | nil => exact .rfl
  | cons edit edits ih =>
      obtain ⟨hedit, hedits⟩ := List.forall_mem_cons.mp h
      exact (within_perform hedit).trans (ih hedits)

/-- **What every run of operations keeps.** Versions have ids of their own, `HEAD` is the first of
them, and the sections of a version have names of their own. Operations that go on with the
document, any number of them, leave the versions, the sections and the entries that are there as
they are and in their order. -/
theorem run_keeps (edits more : List Edit) :
    ((run edits).versions.map Version.id).Nodup ∧
    (∀ v ∈ (run edits).versions.tail, v.id ≠ Version.head) ∧
    (∀ v ∈ (run edits).versions, (v.sections.map Section.name).Nodup) ∧
    ((∀ edit ∈ more, edit.goesOn = true) → (run edits).Within (run (edits ++ more))) := by
  have h := run_wellFormed edits
  refine ⟨h.ordered.ids, h.ordered.headFirst, h.names, fun hmore => ?_⟩
  have happend : run (edits ++ more) = runFrom (run edits) more := List.foldl_append
  rw [happend]
  exact within_runFrom hmore

end Edit

end MergeScribe
