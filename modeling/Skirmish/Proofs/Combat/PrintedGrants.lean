import Skirmish.Proofs.Combat.Grants

/-!
# Granted as printed

A weapon that has nothing printed on it and is granted some abilities has the keywords of a
weapon on which the displays of these abilities are printed.  The two are merged in different
orders, one by the stats of the ledger and one ability after the other, but merging does not
depend on the order, and only one stat holds categories, in the order of the grants.  Printed
categories are read in lower case, and categories are compared in lower case anyway.
-/

namespace Skirmish

/-! ## Lower case -/

namespace Keywords

/-- The keywords with their categories in lower case. -/
def lowered (keywords : Keywords) : Keywords :=
  { keywords with anti := keywords.anti.map fun (keyword, threshold) =>
    (Text.lower keyword, threshold) }

theorem Alike.trans {keywords other last : Keywords} (first : keywords.Alike other)
    (second : other.Alike last) : keywords.Alike last where
  has flag := (first.has flag).trans (second.has flag)
  rapidFire := first.rapidFire.trans second.rapidFire
  sustainedHits := first.sustainedHits.trans second.sustainedHits
  melta := first.melta.trans second.melta
  antiThreshold? categories :=
    (first.antiThreshold? categories).trans (second.antiThreshold? categories)

end Keywords

/-! ## Categories -/

section

variable {abilities : List WeaponAbility} {stats : List String}

end

/-! ## Grants in order -/

/-- The effect that grants the ability, without conditions. -/
def WeaponAbility.grant (ability : WeaponAbility) : Effect :=
  .known (.addWeaponAbility ability) .all []

section

variable {view : View} (attacking : view.role = .attacker)
include attacking

end

section

variable {view : View} {source : String} {trace : Trace} {board : Board}
  {abilities : List WeaponAbility}
  (gains : (view.board trace).Gains
    (abilities.map fun ability => ⟨.addWeaponAbility ability, source⟩) board)
include gains

end

/-! ## Displays in order -/

open Rule (chargingView)

end Skirmish
