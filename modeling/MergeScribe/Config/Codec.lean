import MergeScribe.Config.Basic
import MergeScribe.Json.Decode

/-!
# Configurations as data

A configuration is written as a record of records, every setting of which may be left out. A group
of settings that is left out has its default as a whole, and a setting that is left out of a group
that is given has a default of its own. Without one named for it, that is the default of its type:
no text, no items, or false.
-/

namespace MergeScribe

open Json (Fields)

/-! ## 1. Reading -/

/-- A unit variant by its name, or as an object of that one member without a payload. -/
def Json.variantIn? {α : Type} (d : Json.Dialect) (named : Text → Option α) : Json → Option α
  | .string name => named name
  | .object [(name, payload)] => if d.isUnit payload then named name else none
  | _ => none

/-- The merge method of a name. -/
def MergeMethod.ofName? (name : Text) : Option MergeMethod :=
  if name = MergeMethod.merge.name then some .merge
  else if name = MergeMethod.squash.name then some .squash
  else if name = MergeMethod.rebase.name then some .rebase
  else none

/-- A row of the table of categories. Only its labels may be left out. -/
def Category.ofData? (d : Json.Dialect) (j : Json) : Option Category := do
  let fields ← Json.recordIn? d ["prefix", "slug", "section", "labels"] j
  return {
    keyword := ← fields.required "prefix" Json.text?
    slug := ← fields.required "slug" Json.text?
    sectionName := ← fields.required "section" Json.text?
    labels := ← fields.withDefault "labels" [] (Json.list? Json.text?) }

/-- Where the changelog is. -/
def HistorySettings.ofData? (d : Json.Dialect) (j : Json) : Option HistorySettings := do
  let fields ← Json.recordIn? d ["path", "branch", "max_attempts"] j
  return {
    path := ← fields.withDefault "path" defaultPath Json.text?
    branch := ← fields.withDefault "branch" defaultBranch Json.text?
    maxAttempts := ← fields.withDefault "max_attempts" defaultMaxAttempts Json.nat32? }

/-- Who the commits are by. -/
def Identity.ofData? (d : Json.Dialect) (j : Json) : Option Identity := do
  let fields ← Json.recordIn? d ["name", "email"] j
  return {
    name := ← fields.withDefault "name" defaultName Json.text?
    email := ← fields.withDefault "email" defaultEmail Json.text? }

/-- How to merge. -/
def MergeSettings.ofData? (d : Json.Dialect) (j : Json) : Option MergeSettings := do
  let fields ← Json.recordIn? d
    ["method", "pages_branch", "fallback_default_branch", "infer_section_from_labels"] j
  return {
    method := ← fields.withDefault "method" MergeMethod.default
      (Json.variantIn? d MergeMethod.ofName?)
    pagesBranch := ← fields.withDefault "pages_branch" defaultPagesBranch Json.text?
    fallbackBranch := ←
      fields.withDefault "fallback_default_branch" defaultFallbackBranch Json.text?
    inferSection := ← fields.withDefault "infer_section_from_labels" false Json.bool? }

namespace Config

/-- A configuration in a dialect. -/
def ofData? (d : Json.Dialect) (j : Json) : Option Config := do
  let fields ← Json.recordIn? d ["host", "history", "committer", "merge", "categories"] j
  return {
    host := ← fields.withDefault "host" none (Json.nullable? Json.text?)
    history := ← fields.withDefault "history" HistorySettings.default (HistorySettings.ofData? d)
    committer := ← fields.withDefault "committer" Identity.default (Identity.ofData? d)
    merge := ← fields.withDefault "merge" MergeSettings.default (MergeSettings.ofData? d)
    categories := ←
      fields.withDefault "categories" Category.defaults (Json.list? (Category.ofData? d)) }

/-- A configuration in JSON. -/
def ofJson? (j : Json) : Option Config :=
  ofData? Json.dialect j

end Config

/-- A row of the table of categories in JSON. -/
def Category.ofJson? (j : Json) : Option Category :=
  Category.ofData? Json.dialect j

/-- A committer in JSON. -/
def Identity.ofJson? (j : Json) : Option Identity :=
  Identity.ofData? Json.dialect j

/-! ## 2. Writing -/

/-- All fields of a category. -/
def Category.toJson (c : Category) : Json :=
  .object [("prefix", .string c.keyword), ("slug", .string c.slug),
    ("section", .string c.sectionName), ("labels", Json.ofList .string c.labels)]

/-- All settings of the changelog's place. -/
def HistorySettings.toJson (h : HistorySettings) : Json :=
  .object [("path", .string h.path), ("branch", .string h.branch),
    ("max_attempts", .ofNat h.maxAttempts)]

/-- Name and address. -/
def Identity.toJson (i : Identity) : Json :=
  .object [("name", .string i.name), ("email", .string i.email)]

/-- All settings of merges. -/
def MergeSettings.toJson (m : MergeSettings) : Json :=
  .object [("method", .string m.method.name), ("pages_branch", .string m.pagesBranch),
    ("fallback_default_branch", .string m.fallbackBranch),
    ("infer_section_from_labels", .bool m.inferSection)]

/-- All settings. -/
def Config.toJson (c : Config) : Json :=
  .object [("host", Json.ofOption .string c.host), ("history", c.history.toJson),
    ("committer", c.committer.toJson), ("merge", c.merge.toJson),
    ("categories", Json.ofList Category.toJson c.categories)]

end MergeScribe
