import Skirmish.Content.Bundled.AdeptusAstartes
import Skirmish.Content.Bundled.Core
import Skirmish.Content.Bundled.DeathGuard
import Skirmish.Content.Bundled.Orks
import Skirmish.Content.Bundled.Scenarios
import Skirmish.Content.Bundled.SpaceWolves
import Skirmish.Content.Catalogue

/-!
# Bundled content

The content that is used when no other folder is named.  It is laid out like any
content folder: one document per faction and kind, and one per scenario.
-/

namespace Skirmish.Bundled

def base : Path := ⟨["content"]⟩

/-- The document of a kind that holds a list of records. -/
def listing (kind : RecordKind) (name : String) (records : List Value) : Document where
  path := (base.under kind.folder).under name
  content := .ok (.object [(kind.folder, .list records)])

def rulesDocument (name : String) (rules : List Rule) : Document :=
  listing .rule name (rules.map Rule.dump)

def stratagemsDocument (name : String) (stratagems : List Stratagem) : Document :=
  listing .stratagem name (stratagems.map Stratagem.dump)

def scenarioDocument (scenario : Scenario) : Document where
  path := (base.under RecordKind.scenario.folder).under scenario.id
  content := .ok scenario.dump

def documents : List Document :=
  [rulesDocument "adeptus-astartes" AdeptusAstartes.rules,
    rulesDocument "core" Core.rules,
    rulesDocument "death-guard" DeathGuard.rules,
    rulesDocument "orks" Orks.rules,
    stratagemsDocument "adeptus-astartes" AdeptusAstartes.stratagems,
    stratagemsDocument "core" Core.stratagems,
    stratagemsDocument "death-guard" DeathGuard.stratagems,
    stratagemsDocument "orks" Orks.stratagems,
    stratagemsDocument "space-wolves" SpaceWolves.stratagems,
    scenarioDocument Scenarios.boyzChargeIntercessors,
    scenarioDocument Scenarios.intercessorsShootNobz]

end Skirmish.Bundled
