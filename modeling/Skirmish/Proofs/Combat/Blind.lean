import Skirmish.Proofs.Combat.Steps

/-!
# Rules that do not look at the board

A condition looks at the board when it asks for a keyword of the attack, or for an ability
of the weapon or of the unit.  Rules without such conditions are blind: what they write,
and what becomes of them, is decided by the view alone and so is known in advance.  Blind
rules in a row write one after the other what each of them writes on an empty board.
-/

namespace Skirmish

variable {view : View} {source : String} {board final : Board}

/-! ## Conditions -/

/-- The answer to the node depends on what rules have written. -/
def Condition.asksBoard : Condition → Bool
  | .attackHasKeyword _ | .weaponHasAbility _ | .unitHasAbility _ => true
  | _ => false

/-- No node of the condition asks for what rules have written. -/
def Condition.isBlind (condition : Condition) : Bool :=
  condition.nodes.all fun node => !node.asksBoard

/-- No condition of the rule looks at the board. -/
def Rule.isBlind (rule : Rule) : Bool :=
  rule.conditions.all (·.isBlind)

theorem Condition.judgeLeaf_blind {node : Condition} (blind : node.asksBoard = false)
    (board other : Board) : node.judgeLeaf view board = node.judgeLeaf view other := by
  cases node with
  | attackHasKeyword | weaponHasAbility | unitHasAbility => cases blind
  | _ => rfl

/-- A blind condition has one verdict on all boards. -/
theorem Condition.judge_blind {condition : Condition} (blind : condition.isBlind = true)
    (board other : Board) : condition.judge view board = condition.judge view other := by
  refine condition.judge_congr fun node member => judgeLeaf_blind ?_ board other
  simpa using List.all_eq_true.mp blind node member

theorem Condition.judgeAll_blind {parts : List Condition}
    (blind : ∀ part ∈ parts, part.isBlind = true) (board other : Board) :
    judgeAll view board parts = judgeAll view other parts := by
  refine judgeAll_congr parts fun node member => judgeLeaf_blind ?_ board other
  obtain ⟨part, inParts, inPart⟩ := List.mem_flatMap.mp member
  simpa using List.all_eq_true.mp (blind part inParts) node inPart

theorem Effect.opens_blind {effect : Effect}
    (blind : ∀ condition ∈ effect.conditions, condition.isBlind = true) (board other : Board) :
    effect.opens view board = effect.opens view other := by
  unfold opens
  cases effect with
  | known action limit conditions =>
      dsimp only
      rw [@Condition.judgeAll_blind view conditions blind board other]
  | unknown kind extras => rfl

/-! ## Deeds -/

/-- An action that is written on behalf of a source. -/
structure Deed where
  action : Action
  source : String

/-- The modifier that is written. -/
def Deed.modifier (deed : Deed) : Modifier :=
  deed.action.modifier deed.source

/-- What the effect writes on an empty board. -/
def Effect.deeds (view : View) (source : String) : Effect → List Deed
  | .known action limit conditions =>
    match (Effect.known action limit conditions).opens view {} with
    | .ok true => [⟨action, source⟩]
    | _ => []
  | .unknown .. => []

mutual

/-- What the block writes on an empty board. -/
def Block.deeds (view : View) (source : String) : Block → List Deed
  | .perform effects => effects.flatMap (Effect.deeds view source)
  | .guarded condition blocks =>
    match (condition.judge view {}).outcome with
    | .ok true => Block.deedsOfAll view source blocks
    | _ => []

/-- What several blocks write on empty boards. -/
def Block.deedsOfAll (view : View) (source : String) : List Block → List Deed
  | [] => []
  | block :: rest => Block.deeds view source block ++ Block.deedsOfAll view source rest

end

/-- What the rule writes on an empty board. -/
def Rule.deeds (view : View) (rule : Rule) : List Deed :=
  match (rule.condition.judge view {}).outcome with
  | .ok true => Block.deedsOfAll view rule.id (rule.blocksFor view)
  | _ => []

/-- What becomes of the rule on an empty board. -/
def Rule.foreseen (view : View) (rule : Rule) : Resolution :=
  match (rule.condition.judge view {}).outcome with
  | .ok true => rule.resolutionFor view
  | _ => { rule, status := .notApplicable }

/-- The last board holds what the first one held and what was written in between. -/
structure Board.Gains (board : Board) (deeds : List Deed) (final : Board) : Prop where
  ledger : final.ledger = board.ledger.addAll (deeds.map Deed.modifier)
  granted : final.granted = board.granted ++ deeds.flatMap (·.action.granted?.toList)

namespace Board

variable {middle : Board} {deeds more : List Deed}

theorem Retraced.gains (retraced : board.Retraced final) : board.Gains [] final := by
  obtain ⟨_, rfl⟩ := retraced
  exact ⟨rfl, (List.append_nil _).symm⟩

theorem gains_writtenOn (board : Board) (action : Action) :
    board.Gains [⟨action, source⟩] (action.writtenOn view source board) :=
  ⟨rfl, by rw [action.writtenOn_granted, List.flatMap_singleton]⟩

theorem Gains.append (gains : board.Gains deeds middle) (later : middle.Gains more final) :
    board.Gains (deeds ++ more) final where
  ledger := by
    rw [later.ledger, gains.ledger, List.map_append, Ledger.addAll, Ledger.addAll,
      Ledger.addAll, List.foldl_append]
  granted := by
    rw [later.granted, gains.granted, List.flatMap_append, List.append_assoc]

end Board

/-! ## Single runs -/

theorem Effect.gains_apply {effect : Effect} {wrote : Bool}
    (blind : ∀ condition ∈ effect.conditions, condition.isBlind = true)
    (returns : Returns (effect.apply view source) board wrote final) :
    board.Gains (effect.deeds view source) final := by
  cases effect with
  | known action limit conditions =>
      obtain ⟨opens, noted, retraced, written⟩ := returns_apply_known returns
      rw [opens_blind blind board {}] at opens
      simp only [deeds, opens]
      cases wrote with
      | true =>
          rw [if_pos rfl] at written
          rw [written.2]
          exact retraced.gains.append (noted.gains_writtenOn action)
      | false => exact (retraced.trans written).gains
  | unknown kind extras => exact (returns_apply_unknown returns).2.gains

theorem gains_applyEffects {effects : List Effect}
    (blind : ∀ condition ∈ effects.flatMap Effect.conditions, condition.isBlind = true)
    (returns : Returns (applyEffects view source effects) board () final) :
    board.Gains (effects.flatMap (Effect.deeds view source)) final := by
  induction effects generalizing board with
  | nil =>
      obtain ⟨-, rfl⟩ := returns_pure_iff.mp returns
      exact (Board.Retraced.refl _).gains
  | cons effect rest ih =>
      rw [List.flatMap_cons, List.forall_mem_append] at blind
      unfold applyEffects at returns
      obtain ⟨wrote, middle, applied, later⟩ := returns_bind_iff.mp returns
      rw [List.flatMap_cons]
      exact (Effect.gains_apply blind.1 applied).append (ih blind.2 later)

mutual

theorem Block.gains_evaluate : ∀ (block : Block) {board final : Board},
    (∀ condition ∈ block.conditions, condition.isBlind = true) →
      Returns (block.evaluate view source) board () final →
      board.Gains (block.deeds view source) final := by
  intro block board final blind returns
  cases block with
  | perform effects =>
      unfold Block.conditions at blind
      unfold Block.evaluate at returns
      unfold Block.deeds
      exact gains_applyEffects blind returns
  | guarded condition blocks =>
      unfold Block.conditions at blind
      obtain ⟨blindHere, blindThere⟩ := List.forall_mem_cons.mp blind
      unfold Block.evaluate at returns
      obtain ⟨holds, noted, judged, later⟩ := returns_bind_iff.mp returns
      obtain ⟨answer, rfl⟩ := Evaluation.returns_holds_iff.mp judged
      unfold Block.deeds
      -- The condition is blind: what holds here is what holds on an empty board.
      rw [← Condition.judge_blind blindHere board {}, answer]
      have before := (Board.Retraced.noteUnknown board
        (condition.judge view board).unknownKinds).gains
      cases holds with
      | true => exact before.append (Block.gains_evaluateAll blocks blindThere later)
      | false =>
          obtain rfl := returns_modify_iff.mp later
          exact before.append (Board.Retraced.note _ _ _).gains

theorem Block.gains_evaluateAll : ∀ (blocks : List Block) {board final : Board},
    (∀ condition ∈ Block.conditionsOfAll blocks, condition.isBlind = true) →
      Returns (Block.evaluateAll view source blocks) board () final →
      board.Gains (Block.deedsOfAll view source blocks) final := by
  intro blocks board final blind returns
  cases blocks with
  | nil =>
      unfold Block.evaluateAll at returns
      obtain ⟨-, rfl⟩ := returns_pure_iff.mp returns
      exact (Board.Retraced.refl _).gains
  | cons block rest =>
      unfold Block.conditionsOfAll at blind
      rw [List.forall_mem_append] at blind
      unfold Block.evaluateAll at returns
      obtain ⟨_, middle, evaluated, later⟩ := returns_bind_iff.mp returns
      unfold Block.deedsOfAll
      exact (Block.gains_evaluate block blind.1 evaluated).append
        (Block.gains_evaluateAll rest blind.2 later)

end

/-! ## Rules -/

namespace Rule

theorem blocksFor_blind {rule : Rule} (blind : rule.isBlind = true) (view : View) :
    ∀ condition ∈ Block.conditionsOfAll (rule.blocksFor view), condition.isBlind = true :=
  fun condition member =>
    List.all_eq_true.mp blind condition (mem_conditions_of_blocksFor member)

/-- A blind rule comes to what was foreseen, and writes it. -/
theorem gains_evaluate {rule : Rule} {resolution : Resolution} (blind : rule.isBlind = true)
    (returns : Returns (rule.evaluate view) board resolution final) :
    resolution = rule.foreseen view ∧ board.Gains (rule.deeds view) final := by
  have blindHere := List.all_eq_true.mp blind rule.condition (List.mem_cons_self ..)
  unfold foreseen deeds
  rw [← Condition.judge_blind blindHere board {}]
  rcases returns_evaluate returns with
    ⟨answer, retraced, rfl⟩ | ⟨answer, ⟨noted, after, before, performed, behind⟩, rfl⟩
  · rw [answer]
    exact ⟨rfl, retraced.gains⟩
  · rw [answer]
    have gained := Block.gains_evaluateAll _ (blocksFor_blind blind view) performed
    refine ⟨rfl, ?_⟩
    simpa using (before.gains.append gained).append behind.gains

theorem gains_evaluateAll {rules : List Rule} {resolutions : List Resolution}
    (blind : ∀ rule ∈ rules, rule.isBlind = true)
    (returns : Returns (evaluateAll view rules) board resolutions final) :
    resolutions = rules.map (foreseen view) ∧ board.Gains (rules.flatMap (deeds view)) final := by
  induction rules generalizing board resolutions with
  | nil =>
      obtain ⟨rfl, rfl⟩ := returns_pure_iff.mp returns
      exact ⟨rfl, (Board.Retraced.refl _).gains⟩
  | cons rule rest ih =>
      obtain ⟨blindHere, blindThere⟩ := List.forall_mem_cons.mp blind
      obtain ⟨resolution, middle, others, evaluated, ranOthers, rfl⟩ :=
        returns_evaluateAll_cons_iff.mp returns
      obtain ⟨rfl, gained⟩ := gains_evaluate blindHere evaluated
      obtain ⟨rfl, later⟩ := ih blindThere ranOthers
      exact ⟨rfl, gained.append later⟩

end Rule

end Skirmish
