import Skirmish.Rulebook.Stratagem

/-!
# Space Wolves

The stratagems of the Space Wolves.
-/

namespace Skirmish.Bundled.SpaceWolves

def faction : String := "Space Wolves"

/-! ## Stratagems -/

def envelopAndEnsnare : Stratagem where
  id := "envelop-and-ensnare"
  name := "Envelop and Ensnare"
  phase := .fight
  condition :=
    "Your Fight phase, when a SPACE WOLVES unit (excluding MONSTERS or VEHICLES) has not been " ++
    "selected to fight"
  effect :=
    "That unit can make 6\" Pile-in and Consolidation moves. Each model does not have to end " ++
    "closer to the closest enemy model, but must end closer to the closest enemy unit."
  faction := some faction
  detachment := some "Saga of the Hunter"
  turn := .yourTurn

def territorialAdvantage : Stratagem where
  id := "territorial-advantage"
  name := "Territorial Advantage"
  phase := .fight
  condition :=
    "Your Fight phase, just after an enemy unit is destroyed by an ADEPTUS ASTARTES unit from " ++
    "your army"
  effect :=
    "Pick one objective marker that unit is within range of. That objective marker remains " ++
    "under your control until your opponent controls it."
  faction := some faction
  detachment := some "Saga of the Hunter"
  turn := .yourTurn

def overwhelmingOnslaught : Stratagem where
  id := "overwhelming-onslaught"
  name := "Overwhelming Onslaught"
  phase := .fight
  condition := "Your opponent's Fight phase, just after an enemy unit has selected its targets"
  effect :=
    "Select either two ADEPTUS ASTARTES units or one SPACE WOLVES BEASTS unit within " ++
    "Engagement Range of that enemy unit. Until the end of the phase, subtract 1 from Hit " ++
    "rolls made by that enemy unit."
  faction := some faction
  detachment := some "Saga of the Hunter"
  turn := .opponentTurn

def chosenPrey : Stratagem where
  id := "chosen-prey"
  name := "Chosen Prey"
  phase := .move
  condition := "Your Movement phase, just after a SPACE WOLVES unit from your army Falls Back"
  effect := "That unit can shoot and declare a charge this turn."
  faction := some faction
  detachment := some "Saga of the Hunter"
  turn := .yourTurn

def boundingAdvance : Stratagem where
  id := "bounding-advance"
  name := "Bounding Advance"
  condition :=
    "Your Movement phase or Charge phase, select one SPACE WOLVES INFANTRY or BEASTS unit " ++
    "that has not moved or declared a charge this phase"
  effect :=
    "Until the end of the phase, models in that unit can move through non-TITANIC models when " ++
    "making a Normal, Advance, Fall Back, or Charge move."
  faction := some faction
  detachment := some "Saga of the Hunter"
  turn := .yourTurn

def markedForDestruction : Stratagem where
  id := "marked-for-destruction"
  name := "Marked for Destruction"
  phase := .shoot
  condition :=
    "Your Shooting phase, select two ADEPTUS ASTARTES units (excluding BEASTS) that have not " ++
    "been selected to shoot"
  effect :=
    "Select one enemy unit visible to both. Until the end of the phase, models in your units " ++
    "can only target that enemy unit, and re-roll Wound rolls of 1 against it."
  faction := some faction
  detachment := some "Saga of the Hunter"
  turn := .yourTurn

def stratagems : List Stratagem :=
  [envelopAndEnsnare, territorialAdvantage, overwhelmingOnslaught, chosenPrey, boundingAdvance,
    markedForDestruction]

end Skirmish.Bundled.SpaceWolves
