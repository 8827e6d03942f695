import MergeScribe.Proofs.Changelog.Editing
import MergeScribe.Proofs.Config.Filing

/-!
# Coherent tables

A change gets its section from a label that a maintainer types, from the slug which that label
means, or from a label of the issue. In a coherent table of categories these ways do not part: slugs
are distinct, each stands for itself when it is typed, and rows of one section have the same labels.
Main statement: the slug of a typed label is settled, it leads to one section by all three ways, and
the first row that fits the label gives that section and its labels
(`Config.resolveSection_converges`).
-/

namespace MergeScribe

open Text

namespace Category

open Directive

variable {table : List Category} {label slug : Text} {row : Category}

/-! ## 1. Coherence -/

/-- The names in a table of categories agree with each other. -/
structure Coherent (table : List Category) : Prop where
  nodup_slugs : (table.map Category.slug).Nodup
  settled : ∀ row ∈ table, slugOfLabel table row.slug = row.slug
  labels_eq : ∀ row ∈ table, ∀ other ∈ table, row.sectionName = other.sectionName →
    row.labels = other.labels

instance (table : List Category) : Decidable (Coherent table) :=
  decidable_of_iff ((table.map Category.slug).Nodup ∧
      (∀ row ∈ table, slugOfLabel table row.slug = row.slug) ∧
      ∀ row ∈ table, ∀ other ∈ table, row.sectionName = other.sectionName →
        row.labels = other.labels)
    ⟨fun ⟨hn, hs, hl⟩ => ⟨hn, hs, hl⟩, fun h => ⟨h.nodup_slugs, h.settled, h.labels_eq⟩⟩

theorem coherent_defaults : Coherent defaults := by
  decide +kernel

/-- A keyword that the slug of an earlier row starts with takes that slug over. -/
example : ¬ Coherent [⟨"fix", "bug-fixes", "Fixes", []⟩, ⟨"bug", "bugs", "Bugs", []⟩] := by
  decide +kernel

/-! ## 2. What coherence gives -/

namespace Coherent

/-- **The slug of a label is settled**: typed itself, it means itself. -/
theorem slugOfLabel_slugOfLabel (h : Coherent table) (hl : ∀ c ∈ label, isLabelChar c = true) :
    slugOfLabel table (slugOfLabel table label) = slugOfLabel table label := by
  rcases fitsFirst_or_not_fits table label with ⟨row, hrow⟩ | hnone
  · rw [slugOfLabel_of_fitsFirst hrow]
    exact h.settled row hrow.mem
  · -- hyphenized once more the label is the same, so that again no row fits it
    have hagain : ∀ row ∈ table, ¬ row.Fits (hyphenize label) := fun row hrow => by
      rw [Fits, hyphenize_hyphenize hl]
      exact hnone row hrow
    rw [slugOfLabel_of_not_fits hnone, slugOfLabel_of_not_fits hagain, hyphenize_hyphenize hl]

/-- The slug of a row leads to the section of that row. -/
theorem sectionOfSlug_slug (h : Coherent table) (hrow : row ∈ table) :
    sectionOfSlug table row.slug = row.sectionName := by
  rw [sectionOfSlug, find?_of_nodup_map h.nodup_slugs hrow]

/-- The section of a row leads to the labels of that row, whichever row of the section is found. -/
theorem labelsOfSection_sectionName (h : Coherent table) (hrow : row ∈ table) :
    labelsOfSection table row.sectionName = row.labels := by
  unfold labelsOfSection
  split
  · rename_i other hother
    have hname : other.sectionName = row.sectionName := by simpa using List.find?_some hother
    exact h.labels_eq other (List.mem_of_find?_eq_some hother) row hrow hname
  · rename_i hnone
    exact absurd (beq_self_eq_true row.sectionName) (List.find?_eq_none.mp hnone row hrow)

end Coherent

/-- Labels of an issue that are slugs of no category are passed over. -/
theorem firstSlug?_append {before after : List Text} (hslug : slug ∈ table.map Category.slug)
    (hbefore : ∀ l ∈ before, l ∉ table.map Category.slug) :
    firstSlug? table (before ++ slug :: after) = some slug := by
  have hknown (l : Text) : (table.any fun row => row.slug == l) = true ↔
      l ∈ table.map Category.slug := by
    simp
  refine List.find?_eq_some_iff_append.mpr
    ⟨(hknown slug).mpr hslug, before, after, rfl, fun l hl => ?_⟩
  rw [Bool.not_eq_true', Bool.eq_false_iff]
  exact fun h => hbefore l hl ((hknown l).mp h)

end Category

namespace Config

open Category

/-- **Typed labels and the labels of issues converge.** The usual table is coherent, and in a
coherent table, whatever label a comment gives: the slug it means is settled; the label, that slug
typed as a label, and, where sections are inferred, that slug as the first known label of an issue
all lead to the same section; and the first row that fits the label gives this section and its
labels. -/
theorem resolveSection_converges : Coherent Category.defaults ∧
    ∀ (config : Config) (comment label : Text), Coherent config.categories →
      Directive.find? comment = some ⟨some label⟩ →
      let table := config.categories
      let slug := slugOfLabel table label
      slugOfLabel table slug = slug ∧
      ∀ issueLabels, let name := config.resolveSection ⟨some label⟩ issueLabels
        (∀ others, config.resolveSection ⟨some slug⟩ others = name) ∧
        (config.merge.inferSection = true → slug ∈ table.map Category.slug →
          ∀ before after, (∀ l ∈ before, l ∉ table.map Category.slug) →
            config.resolveSection ⟨none⟩ (before ++ slug :: after) = name) ∧
        ∀ row, FitsFirst table label row →
          name = row.sectionName ∧ labelsOfSection table name = row.labels := by
  refine ⟨coherent_defaults, fun config comment label hcoherent hfound => ?_⟩
  intro table slug
  have hlabel := Directive.find?_isLabel hfound label rfl
  have hsettled : slugOfLabel table slug = slug := hcoherent.slugOfLabel_slugOfLabel hlabel.chars
  refine ⟨hsettled, fun issueLabels => ?_⟩
  intro name
  have hname : name = sectionOfSlug table slug := rfl
  refine ⟨fun others => ?_, fun hinfer hslug before after hbefore => ?_, fun row hrow => ?_⟩
  · show sectionOfSlug table (slugOfLabel table slug) = name
    rw [hsettled, hname]
  · have hfirst : firstSlug? config.categories (before ++ slug :: after) = some slug :=
      firstSlug?_append hslug hbefore
    rw [hname, resolveSection, if_pos hinfer, hfirst]
  · have hsection : name = row.sectionName := by
      rw [hname, show slug = row.slug from slugOfLabel_of_fitsFirst hrow]
      exact hcoherent.sectionOfSlug_slug hrow.mem
    rw [hsection]
    exact ⟨rfl, hcoherent.labelsOfSection_sectionName hrow.mem⟩

/-- The second of two rows of one section, typed in a comment and found on an issue. -/
theorem resolveSection_converges_fix :
    let config : Config := { Config.default with merge := ⟨.squash, "gh-pages", "master", true⟩ }
    let comment : Text := "@bot: merge +Fix it"
    Directive.find? comment = some ⟨some "Fix it"⟩ ∧
      config.resolveSection ⟨some "fix"⟩ [] = config.resolveSection ⟨some "Fix it"⟩ [] ∧
      config.resolveSection ⟨none⟩ ["bug", "fix", "documentation"] =
        config.resolveSection ⟨some "Fix it"⟩ [] ∧
      config.resolveSection ⟨some "Fix it"⟩ [] = "Bug Fixes" ∧
      labelsOfSection config.categories (config.resolveSection ⟨some "Fix it"⟩ []) =
        ["bug", "fix"] := by
  intro config comment
  have hfound : Directive.find? comment = some ⟨some "Fix it"⟩ := by decide +kernel
  have hslug : slugOfLabel config.categories "Fix it" = "fix" := by decide +kernel
  obtain ⟨-, hall⟩ := resolveSection_converges.2 config comment "Fix it"
    resolveSection_converges.1 hfound
  obtain ⟨htyped, hissue, hrow⟩ := hall []
  rw [hslug] at htyped hissue
  refine ⟨hfound, htyped [], hissue rfl (by decide) ["bug"] ["documentation"] (by decide), ?_⟩
  have hfits : FitsFirst config.categories "Fix it" ⟨"fix", "fix", "Bug Fixes", ["bug", "fix"]⟩ :=
    find?_eq_some_iff_fitsFirst.mp (by decide +kernel)
  exact hrow _ hfits

end Config

end MergeScribe
