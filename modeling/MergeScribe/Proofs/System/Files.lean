import MergeScribe.Proofs.Text.Utf8
import MergeScribe.System.World

/-!
# Files of the machine in memory

What a write does to the files. Where a path leads depends on the names that are taken and on which
of them are directories, so writing over a file leads no path elsewhere. Main statement: a file that
could be read can be written, it then has what was written, and the other files have what they had
(`World.writeFile_of_readFile`).
-/

namespace MergeScribe

namespace World

/-! ## 1. Keyed lists -/

theorem lookup_put {κ α : Type} [BEq κ] [LawfulBEq κ] (key k : κ) (value : α) :
    (l : List (κ × α)) →
      (put key value l).lookup k = if k == key then some value else l.lookup k
  | [] => by
      rw [put, List.lookup_cons]
      cases k == key <;> rfl
  | (k', v) :: l => by
      unfold put
      split
      · rename_i h
        obtain rfl : k' = key := beq_iff_eq.mp h
        rw [List.lookup_cons, List.lookup_cons]
        cases k == k' <;> rfl
      · rename_i h
        rw [List.lookup_cons, List.lookup_cons, lookup_put key k value l]
        cases hk : k == k' with
        | false => rfl
        | true =>
            obtain rfl : k = k' := beq_iff_eq.mp hk
            show some v = if k == key then some value else some v
            rw [if_neg h]

/-! ## 2. Where paths lead -/

variable {w w' : World}

/-- A name that is taken, and whether by a directory. -/
def kind (f : List Text × FileState) : List Text × Bool :=
  (f.1, match f.2 with
    | .directory => true
    | .file _ => false)

theorem isDirectory_congr (h : w.files.map kind = w'.files.map kind) (parts : List Text) :
    w.isDirectory parts = w'.isDirectory parts := by
  -- whether a name makes the parts a directory is a matter of its kind
  have hkind (w : World) : w.isDirectory parts = (w.files.map kind).any fun f =>
      parts.isPrefixOf f.1 && (f.2 || parts != f.1) := by
    rw [isDirectory, List.any_map]
    refine congrArg (List.any w.files) (funext fun ⟨name, state⟩ => ?_)
    cases state with
    | directory => exact (Bool.and_true _).symm
    | file content => rfl
  rw [hkind, hkind, h]

theorem follow_congr (h : w.files.map kind = w'.files.map kind) (at_ parts : List Text) :
    w.follow at_ parts = w'.follow at_ parts := by
  induction parts generalizing at_ with
  | nil => rfl
  | cons part more ih =>
      unfold follow
      simp only [isDirectory_congr h, ih]

/-- Where a path leads depends on the names and kinds of what is there. -/
theorem locate_congr (h : w.files.map kind = w'.files.map kind) (path : Text) :
    w.locate path = w'.locate path := by
  unfold locate
  simp only [follow_congr h]

/-- Another content for a file changes no name and no kind. -/
theorem map_kind_put {parts : List Text} {content content' : Bytes} :
    (files : List (List Text × FileState)) → files.lookup parts = some (.file content) →
      (put parts (.file content') files).map kind = files.map kind
  | [], h => nomatch h
  | (name, state) :: more, h => by
      unfold put
      rw [List.lookup_cons] at h
      split
      · rename_i hname
        obtain rfl : name = parts := beq_iff_eq.mp hname
        rw [beq_self_eq_true] at h
        obtain rfl : state = .file content := Option.some.inj h
        rfl
      · rename_i hname
        have hother : (parts == name) = false :=
          beq_eq_false_iff_ne.mpr fun e => hname (beq_iff_eq.mpr e.symm)
        rw [hother] at h
        rw [List.map_cons, List.map_cons, map_kind_put more h]

/-! ## 3. Reading and writing -/

/-- Nothing is in a file. -/
def Sound (w : World) : Prop :=
  ∀ name content, (name, FileState.file content) ∈ w.files → w.isDirectory name = false

/-- What a file is in is a directory. -/
theorem isDirectory_dropLast {parts : List Text} {content : Bytes}
    (h : (parts, FileState.file content) ∈ w.files) (hparts : parts ≠ []) :
    w.isDirectory parts.dropLast = true := by
  refine List.any_eq_true.mpr ⟨_, h, ?_⟩
  have hproper : parts.dropLast ≠ parts := fun e => by
    have hlength := congrArg List.length e
    have hpos := List.length_pos_iff.mpr hparts
    rw [List.length_dropLast] at hlength
    omega
  simp [List.isPrefixOf_iff_prefix, List.dropLast_prefix, hproper]

/-- A file is at the parts that its path leads to. -/
theorem readFile_eq_some_iff {path : Text} {content : Bytes} : w.readFile path = some content ↔
    ∃ parts, w.locate path = some parts ∧ w.files.lookup parts = some (.file content) := by
  unfold readFile
  cases w.locate path with
  | none => simp
  | some parts =>
      rw [Option.bind_some]
      rcases h : w.files.lookup parts with _ | _ | content' <;> simp [h]

/-- **A file that could be read can be written**, and nothing else changes. -/
theorem writeFile_of_readFile (hw : w.Sound) {path : Text} {bytes : Bytes}
    (h : w.readFile path = some bytes) (content : Text) :
    ∃ w', w.writeFile path content = (true, w') ∧
      w'.readFile path = some (Text.toBytes content) ∧
      ∀ other, w.locate other ≠ w.locate path → w'.readFile other = w.readFile other := by
  obtain ⟨parts, hlocate, hlookup⟩ := readFile_eq_some_iff.mp h
  have hmem : (parts, FileState.file bytes) ∈ w.files := by
    obtain ⟨before, after, e, -⟩ := List.lookup_eq_some_iff.mp hlookup
    rw [e]
    exact List.mem_append_right before List.mem_cons_self
  have hplain : w.isDirectory parts = false := hw parts bytes hmem
  have habove : (parts.dropLast.isEmpty || w.isDirectory parts.dropLast) = true := by
    cases hempty : parts.dropLast.isEmpty with
    | true => rfl
    | false => exact isDirectory_dropLast hmem (by rintro rfl; cases hempty)
  let w' : World := { w with files := put parts (.file (Text.toBytes content)) w.files }
  -- names and kinds stay, so each path leads where it led
  have hlocates : ∀ path', w'.locate path' = w.locate path' :=
    locate_congr (map_kind_put w.files hlookup)
  refine ⟨w', ?_, ?_, fun other hother => ?_⟩
  · rw [writeFile, hlocate]
    simp only [hplain, habove]
    rfl
  · refine readFile_eq_some_iff.mpr ⟨parts, (hlocates path).trans hlocate, ?_⟩
    rw [lookup_put, beq_self_eq_true, if_pos rfl]
  · rw [readFile, readFile, hlocates]
    cases hl : w.locate other with
    | none => rfl
    | some parts' =>
        have hne : (parts' == parts) = false := by
          refine beq_eq_false_iff_ne.mpr fun e => hother ?_
          rw [hl, hlocate, e]
        rw [Option.bind_some, Option.bind_some, lookup_put, hne]
        rfl

end World

end MergeScribe
