import Skirmish.Rulebook.Scenario

/-!
# Sample scenarios

A charge by Orks and a volley by Intercessors.
-/

namespace Skirmish.Bundled.Scenarios

/-- Five Intercessors, the last of whom is their sergeant. -/
def intercessors : List ModelProfile :=
  List.replicate 4 { name := "Intercessor", toughness := 4, save := 3, wounds := 2 } ++
    [{ name := "Intercessor Sergeant", toughness := 4, save := 3, wounds := 2 }]

/-- Nine Boyz and their Boss Nob. -/
def boyz : List ModelProfile :=
  List.replicate 9 { name := "Boy", toughness := 5, save := 5, wounds := 1 } ++
    [{ name := "Boss Nob", toughness := 5, save := 5, wounds := 2 }]

def nobz : List ModelProfile :=
  List.replicate 5 { name := "Nob", toughness := 5, save := 4, wounds := 2 }

/-- Boyz charge a squad of Intercessors while the Waaagh! is active. -/
def boyzChargeIntercessors : Scenario where
  id := "boyz-charge-intercessors"
  name := "Waaagh! Boyz fight an Intercessor squad"
  game := { id := "demo", currentTurn := 2, currentPhase := .fight, activeArmyId := some "orks" }
  circumstances := { unitHasCharged := true }
  attacker := {
    id := "boyz"
    armyId := "orks"
    name := "Boyz"
    categories := ["Infantry", "Orks", "Boyz"]
    models := boyz }
  defender := {
    id := "intercessors"
    armyId := "marines"
    name := "Intercessor Squad"
    categories := ["Infantry", "Adeptus Astartes"]
    models := intercessors }
  weapon := {
    name := "Choppa"
    range := 0
    attacks := "3"
    skill := 3
    strength := 4
    armourPenetration := -1
    damage := "1" }
  attackerRules := ["waaagh", "get-stuck-in", "call-waaagh"]
  defenderRules := ["oath-of-moment"]
  armyStates := [
    { id := "orks-waaagh"
      armyId := "orks"
      state := "waaagh"
      activatedTurn := 2
      expiresPhase := some .fight
      expiresTurn := some 3 }]

/-- Intercessors fire on Nobz led by a Big Mek. -/
def intercessorsShootNobz : Scenario where
  id := "intercessors-shoot-nobz"
  name := "Intercessors fire on a Big Mek led Nobz mob"
  game := {
    id := "demo"
    currentTurn := 1
    currentPhase := .shooting
    activeArmyId := some "marines" }
  circumstances := { withinHalfRange := true, unitRemainedStationary := true }
  attacker := {
    id := "intercessors"
    armyId := "marines"
    name := "Intercessor Squad"
    categories := ["Infantry", "Adeptus Astartes"]
    leaderId := some "lieutenant"
    models := intercessors }
  defender := {
    id := "nobz"
    armyId := "orks"
    name := "Nobz"
    categories := ["Infantry", "Orks", "Mob"]
    leaderId := some "big-mek"
    models := nobz }
  weapon := {
    name := "Bolt rifle"
    range := 24
    attacks := "2"
    skill := 3
    strength := 4
    armourPenetration := -1
    damage := "1"
    keywords := ["Assault", "Heavy"] }
  attackerRules := ["oath-of-moment", "tactical-precision", "combat-doctrines"]
  defenderRules := ["kustom-force-field", "waaagh"]
  armyStates := [
    { id := "marines-oath"
      armyId := "marines"
      state := "oath-of-moment"
      activatedTurn := 1
      targetUnitId := some "nobz" },
    { id := "marines-doctrine"
      armyId := "marines"
      state := "combat-doctrine"
      activatedTurn := 1
      choiceValue := some "devastator" }]

end Skirmish.Bundled.Scenarios
