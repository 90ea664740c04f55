import SitePreview.Report.Blocks

/-! Reports of data from outside: what is to be reported is checked first. All members that are
missing have a default, but for the hash of an outcome. -/

namespace SitePreview

/-- The facts that the members of an object give. Paths are checked as well. -/
def SummaryFacts.check (members : List (Text × Json)) : Checked SummaryFacts :=
  let facts (count : Int) (_paths components routes : List Text) (hasCss hasTailwind : Bool)
      (size : Int) : SummaryFacts :=
    ⟨count, components, routes, hasCss, hasTailwind, size⟩
  facts <$> Checked.member members "file_count" 0 Checked.integer
    <*> Checked.member members "file_paths" [] Checked.textList
    <*> Checked.member members "components" [] Checked.textList
    <*> Checked.member members "routes" [] Checked.textList
    <*> Checked.member members "has_css" false Checked.boolean
    <*> Checked.member members "has_tailwind" false Checked.boolean
    <*> Checked.member members "total_size" 0 Checked.integer

/-- The changes that the members of an object give. -/
def ChangeSet.check (members : List (Text × Json)) : Checked ChangeSet :=
  ChangeSet.mk <$> Checked.member members "changed" [] Checked.textList
    <*> Checked.member members "removed" [] Checked.textList
    <*> Checked.member members "added" [] Checked.textList
    <*> Checked.member members "modified" [] Checked.textList

/-- The outcome that the members of an object give. -/
def SyncResult.check (members : List (Text × Json)) : Checked SyncResult :=
  SyncResult.mk <$> Checked.required members "hash" Checked.text
    <*> Checked.member members "changed_paths" [] Checked.textList
    <*> Checked.member members "removed_paths" [] Checked.textList
    <*> Checked.member members "recorded" true Checked.boolean

/-- The page of history that the members of an object give. -/
def History.check (now : Timestamp) (members : List (Text × Json)) : Checked History :=
  let version : Json → Checked VersionRecord :=
    Checked.record "VersionRecord" (VersionRecord.check now)
  History.mk <$> Checked.member members "versions" [] (Checked.list version)
    <*> Checked.member members "available" true Checked.boolean

end SitePreview
