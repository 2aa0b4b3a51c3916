import Skirmish.Proofs.Combat.Tracing

/-!
# Where the numbers of a combat come from

A prepared combat holds the outcome of evaluating the rules of both sides, each from an
empty board, and numbers that are merged from the two boards.  `Merged` says of every
number which stat of which ledger it is read from, so that no later proof opens the
merging itself.
-/

namespace Skirmish

variable {encounter : Encounter} {attackerRules defenderRules : List Rule} {trace : Trace}
  {combat : PreparedCombat}

/-! ## Sides -/

/-- The side is what rules evaluated in a view come to, whatever the trace. -/
def Side.Evaluates (side : Side) (view : View) (rules : List Rule) : Prop :=
  ∃ final : Board, Returns (Rule.evaluateAll view rules) {} side.resolutions final ∧
    final.Retraced side.board

/-- Rules evaluated in a view come to one side only, traces aside. -/
theorem Side.Evaluates.unique {side other : Side} {view : View} {rules : List Rule}
    (evaluates : side.Evaluates view rules) (again : other.Evaluates view rules) :
    side.resolutions = other.resolutions ∧ side.board.Retraced other.board := by
  obtain ⟨final, returns, retraced⟩ := evaluates
  obtain ⟨finalOther, returnsOther, retracedOther⟩ := again
  obtain ⟨same, rfl⟩ := returns.unique returnsOther
  exact ⟨same, retraced.symm.trans retracedOther⟩

theorem evaluates_of_evaluateSide {view : View} {board : Board} {rules : List Rule}
    {side : Side} (fresh : board.Retraced {})
    (evaluated : (evaluateSide view board rules).1 = .ok side) : side.Evaluates view rules := by
  unfold evaluateSide at evaluated
  obtain ⟨resolutions, ran, rfl⟩ := map_eq_ok_iff.mp evaluated
  have returns : Returns (Rule.evaluateAll view rules) board resolutions
      (outcomeOf (Rule.evaluateAll view rules) board).2 := Prod.ext ran rfl
  obtain ⟨final, returnsFresh, retraced⟩ :=
    (Rule.agree_evaluateAll Board.parallel_retraced rules).returns fresh returns
  exact ⟨final, returnsFresh, retraced.symm⟩

/-! ## Preparation -/

/-- The combat of two sides whose rules were evaluated. -/
def joinSides (encounter : Encounter) (attacker defender : Side) :
    Except Fault PreparedCombat := do
  let numbers ← mergeNumbers encounter attacker.board defender.board (encounter.view .attacker)
  return { attacker, defender, numbers }

/-- The preparation that is left when the attacker's side was evaluated. -/
def prepareDefence (encounter : Encounter) (defenderRules : List Rule) (attacker : Side)
    (trace : Trace) : Except Fault PreparedCombat × Trace :=
  match evaluateSide (encounter.view .defender) { trace } defenderRules with
  | (defender, trace) => (defender >>= joinSides encounter attacker, trace)

/-- The trace after the openings of both views were noted. -/
def Encounter.opened (encounter : Encounter) (trace : Trace) : Trace :=
  (trace.note "Context" (encounter.view .attacker).opening).note "Context"
    (encounter.view .defender).opening

theorem prepare_eq (encounter : Encounter) (attackerRules defenderRules : List Rule)
    (trace : Trace) :
    prepare encounter attackerRules defenderRules trace =
      match evaluateSide (encounter.view .attacker) { trace := encounter.opened trace }
        attackerRules with
      | (.error fault, trace) => (.error fault, trace)
      | (.ok attacker, trace) => prepareDefence encounter defenderRules attacker trace := by
  unfold prepare prepareDefence Encounter.opened
  dsimp only [View.board]
  generalize evaluateSide (encounter.view .attacker) _ attackerRules = evaluated
  obtain ⟨_ | attacker, trace⟩ := evaluated <;> rfl

/-- A prepared combat holds both sides as they were evaluated, and the numbers merged from
their boards. -/
theorem sides_of_prepare
    (prepared : (prepare encounter attackerRules defenderRules trace).1 = .ok combat) :
    (∃ opened, (evaluateSide (encounter.view .attacker) { trace := opened } attackerRules).1 =
      .ok combat.attacker) ∧
    (∃ opened, (evaluateSide (encounter.view .defender) { trace := opened } defenderRules).1 =
      .ok combat.defender) ∧
    mergeNumbers encounter combat.attacker.board combat.defender.board
      (encounter.view .attacker) = .ok combat.numbers := by
  rw [prepare_eq] at prepared
  split at prepared
  · cases prepared
  · rename_i attacker after evaluated
    obtain ⟨defender, evaluatedOther, joined⟩ := bind_eq_ok_iff.mp prepared
    obtain ⟨numbers, merged, combined⟩ := bind_eq_ok_iff.mp joined
    cases combined
    exact ⟨⟨_, congrArg Prod.fst evaluated⟩, ⟨after, evaluatedOther⟩, merged⟩

/-- Both sides of a prepared combat come from their own rules in their own views. -/
theorem evaluates_of_prepare
    (prepared : (prepare encounter attackerRules defenderRules trace).1 = .ok combat) :
    combat.attacker.Evaluates (encounter.view .attacker) attackerRules ∧
      combat.defender.Evaluates (encounter.view .defender) defenderRules := by
  obtain ⟨⟨_, attacker⟩, ⟨_, defender⟩, -⟩ := sides_of_prepare prepared
  exact ⟨evaluates_of_evaluateSide ⟨_, rfl⟩ attacker,
    evaluates_of_evaluateSide ⟨_, rfl⟩ defender⟩

theorem map_rule_of_prepare
    (prepared : (prepare encounter attackerRules defenderRules trace).1 = .ok combat) :
    combat.attacker.resolutions.map (·.rule) = attackerRules ∧
      combat.defender.resolutions.map (·.rule) = defenderRules := by
  obtain ⟨⟨_, attacker, -⟩, ⟨_, defender, -⟩⟩ := evaluates_of_prepare prepared
  exact ⟨Rule.map_rule_of_returns_evaluateAll attacker,
    Rule.map_rule_of_returns_evaluateAll defender⟩

/-! ## Numbers -/

/-- A heavy weapon is shot by a unit that remained stationary. -/
def Encounter.isSteady (encounter : Encounter) (keywords : Keywords) : Bool :=
  keywords.hasAbility .heavy && encounter.circumstances.unitRemainedStationary &&
    encounter.weapon.type == .ranged

/-- A lance is used by a unit that charged. -/
def Encounter.isLanceCharge (encounter : Encounter) (keywords : Keywords) : Bool :=
  keywords.hasAbility .lance && encounter.circumstances.unitHasCharged

/-- The rerolls that a twin-linked weapon brings to wound rolls. -/
def Keywords.woundRerolls (keywords : Keywords) : List String :=
  if keywords.hasAbility .twinLinked then [Vocabulary.word RerollKind.failed] else []

/-- How the numbers of a combat are merged from the boards of both sides. -/
structure Merged (encounter : Encounter) (attacker defender : Board) (view : View)
    (numbers : CombatNumbers) : Prop where
  keywords : attacker.keywords view = .ok numbers.keywords
  hit : ∃ net, attacker.ledger.netIntOfBoth defender.ledger "hit" = .ok net ∧
    numbers.hit = net + if encounter.isSteady numbers.keywords then 1 else 0
  wound : ∃ net, attacker.ledger.netIntOfBoth defender.ledger "wound" = .ok net ∧
    numbers.wound = net + if encounter.isLanceCharge numbers.keywords then 1 else 0
  strength : attacker.ledger.applyInt "S" encounter.weapon.strength = .ok numbers.strength
  armourPenetration : ∃ value,
    attacker.ledger.applyInt "AP" encounter.weapon.armourPenetration = .ok value ∧
      numbers.armourPenetration = min 0 value
  attacksModifier :
    (if numbers.keywords.hasAbility .extraAttacks then pure 0
      else attacker.ledger.netInt "A") = .ok numbers.attacksModifier
  damageModifier : attacker.ledger.netInt "D" = .ok numbers.damageModifier
  toughness : ∃ value,
    defender.ledger.applyInt "T" encounter.defender.leadProfile.toughness = .ok value ∧
      numbers.toughness = max 1 value
  save : defender.ledger.applyInt "SV" encounter.defender.leadProfile.save = .ok numbers.save
  invulnerable : ∃ granted, defender.ledger.saveFor "INV" = .ok granted ∧
    numbers.invulnerable =
      bestThreshold [encounter.defender.leadProfile.invulnerable, granted]
  feelNoPain : ∃ granted, defender.ledger.saveFor "FNP" = .ok granted ∧
    numbers.feelNoPain =
      bestThreshold (encounter.defender.leadProfile.feelNoPain :: granted ::
        (feelNoPainThresholds encounter.defender defender).map some)
  criticalHit : attacker.ledger.applyInt "critHit" 6 = .ok numbers.criticalHit
  criticalWound : ∃ value, attacker.ledger.applyInt "critWound" 6 = .ok value ∧
    numbers.criticalWound =
      match numbers.keywords.antiThreshold? encounter.defender.categories with
      | some threshold => min value threshold
      | none => value
  hitReroll : numbers.hitReroll = Ledger.rerollKind? attacker.ledger "hit" []
  woundReroll : numbers.woundReroll =
    Ledger.rerollKind? attacker.ledger "wound" numbers.keywords.woundRerolls
  damageReroll : numbers.damageReroll = Ledger.rerollKind? attacker.ledger "damage" []

theorem Merged.of_mergeNumbers {attacker defender : Board} {view : View}
    {numbers : CombatNumbers}
    (merged : mergeNumbers encounter attacker defender view = .ok numbers) :
    Merged encounter attacker defender view numbers := by
  simp only [mergeNumbers, bind_eq_ok_iff] at merged
  obtain ⟨keywords, found, hit, netHit, wound, netWound, criticalWound, appliedCriticalWound,
    strength, appliedStrength, armourPenetration, appliedPenetration, merged⟩ := merged
  -- Only the number of attacks is found in one of two ways.
  split at merged <;> rename_i extra <;>
  · simp only [bind_eq_ok_iff] at merged
    obtain ⟨attacksModifier, netAttacks, damageModifier, netDamage, toughness,
      appliedToughness, save, appliedSave, invulnerable, setInvulnerable, feelNoPain,
      setFeelNoPain, criticalHit, appliedCriticalHit, combined⟩ := merged
    cases combined
    exact {
      keywords := found
      hit := ⟨hit, netHit, rfl⟩
      wound := ⟨wound, netWound, rfl⟩
      strength := appliedStrength
      armourPenetration := ⟨armourPenetration, appliedPenetration, rfl⟩
      attacksModifier := by
        simpa only [extra, if_true, Bool.false_eq_true, if_false] using netAttacks
      damageModifier := netDamage
      toughness := ⟨toughness, appliedToughness, rfl⟩
      save := appliedSave
      invulnerable := ⟨invulnerable, setInvulnerable, rfl⟩
      feelNoPain := ⟨feelNoPain, setFeelNoPain, rfl⟩
      criticalHit := appliedCriticalHit
      criticalWound := ⟨criticalWound, appliedCriticalWound, rfl⟩
      hitReroll := rfl
      woundReroll := rfl
      damageReroll := rfl }

end Skirmish
