import Skirmish.Army.Choices
import Skirmish.Combat.Judgement

/-!
# Reminders and the states of an army

A reminder whose condition names army states is hidden while none of them is live.  This is
right for conditions that cannot hold without such a state.  A condition may also hold by an
alternative that names none; apart from these, no reminder whose condition holds is hidden.
-/

namespace Skirmish

variable {view : View} {board : Board}

/-! ## Conditions without their states -/

namespace Condition

mutual

/-- The condition with the army states that it requires taken as missing. -/
def withoutStates : Condition → Condition
  | .armyState _ => .never
  | .all parts => .all (withoutStatesOfParts parts)
  | .any parts => .any (withoutStatesOfParts parts)
  | other => other

def withoutStatesOfParts : List Condition → List Condition
  | [] => []
  | part :: rest => withoutStates part :: withoutStatesOfParts rest

end

mutual

/-- Without the required states the condition cannot hold, as far as the tree shows it: it
never holds at all, or asks for a state, and this goes for one of the parts that all have to
hold and for each part of which one has to hold. -/
def isGated : Condition → Bool
  | .never | .armyState _ | .unknown .. => true
  | .all parts => isGatedInSome parts
  | .any parts => isGatedInEach parts
  | _ => false

def isGatedInSome : List Condition → Bool
  | [] => false
  | part :: rest => isGated part || isGatedInSome rest

def isGatedInEach : List Condition → Bool
  | [] => true
  | part :: rest => isGated part && isGatedInEach rest

end

/-- No state that the view keeps is among the names. -/
def NoneLive (view : View) (names : List String) : Prop :=
  ∀ state ∈ view.armyStates, state.state ∉ names

mutual

/-- A condition none of whose required states is live has the verdict that it has without
them. -/
theorem judge_withoutStates : ∀ condition : Condition,
    NoneLive view condition.requiredStates →
      condition.withoutStates.judge view board = condition.judge view board := by
  intro condition noneLive
  cases condition with
  | armyState names =>
      have fails : (Condition.armyState names).leafHolds view board = false := by
        refine List.any_eq_false.mpr fun state member holds => ?_
        have named := (Bool.and_eq_true_iff.mp holds).2
        exact noneLive state member (List.contains_iff_mem.mp named)
      simp only [withoutStates, judge, judgeLeaf, fails]
      rfl
  | all parts =>
      unfold withoutStates judge
      exact judgeAll_withoutStates parts noneLive
  | any parts =>
      unfold withoutStates judge
      exact judgeAny_withoutStates parts noneLive
  | _ => rfl

theorem judgeAll_withoutStates : ∀ parts : List Condition,
    NoneLive view (requiredStatesOfParts parts) →
      judgeAll view board (withoutStatesOfParts parts) = judgeAll view board parts := by
  intro parts noneLive
  cases parts with
  | nil => rfl
  | cons part rest =>
      have first := judge_withoutStates part fun state member named =>
        noneLive state member (List.mem_append_left _ named)
      have later := judgeAll_withoutStates rest fun state member named =>
        noneLive state member (List.mem_append_right _ named)
      unfold withoutStatesOfParts judgeAll
      rw [first, later]

theorem judgeAny_withoutStates : ∀ parts : List Condition,
    NoneLive view (requiredStatesOfParts parts) →
      judgeAny view board (withoutStatesOfParts parts) = judgeAny view board parts := by
  intro parts noneLive
  cases parts with
  | nil => rfl
  | cons part rest =>
      have first := judge_withoutStates part fun state member named =>
        noneLive state member (List.mem_append_left _ named)
      have later := judgeAny_withoutStates rest fun state member named =>
        noneLive state member (List.mem_append_right _ named)
      unfold withoutStatesOfParts judgeAny
      rw [first, later]

end

mutual

/-- What the tree shows is right: a gated condition does not hold without its states. -/
theorem not_holds_of_isGated : ∀ condition : Condition, condition.isGated = true →
    (condition.withoutStates.judge view board).outcome ≠ .ok true := by
  intro condition gated holds
  cases condition with
  | all parts =>
      unfold withoutStates judge at holds
      exact not_holdAll_of_isGatedInSome parts gated holds
  | any parts =>
      unfold withoutStates judge at holds
      exact not_holdAny_of_isGatedInEach parts gated holds
  | never | armyState _ => cases holds
  | unknown _ _ => cases holds
  | _ => cases gated

theorem not_holdAll_of_isGatedInSome : ∀ parts : List Condition, isGatedInSome parts = true →
    (judgeAll view board (withoutStatesOfParts parts)).outcome ≠ .ok true := by
  intro parts gated holds
  cases parts with
  | nil => cases gated
  | cons part rest =>
      unfold withoutStatesOfParts judgeAll at holds
      dsimp only at holds
      split at holds
      · rename_i first
        rcases (Bool.or_eq_true ..).mp gated with now | later
        · exact not_holds_of_isGated part now first
        · exact not_holdAll_of_isGatedInSome rest later holds
      · -- The judging ends here, before the gated part may have been reached.
        rename_i notTrue
        exact notTrue holds

theorem not_holdAny_of_isGatedInEach : ∀ parts : List Condition, isGatedInEach parts = true →
    (judgeAny view board (withoutStatesOfParts parts)).outcome ≠ .ok true := by
  intro parts gated holds
  cases parts with
  | nil => cases holds
  | cons part rest =>
      obtain ⟨now, later⟩ := (Bool.and_eq_true ..).mp gated
      unfold withoutStatesOfParts judgeAny at holds
      dsimp only at holds
      split at holds
      · exact not_holdAny_of_isGatedInEach rest later holds
      · exact not_holds_of_isGated part now holds

end

/-- A condition that holds has one of its required states live, or holds without them. -/
theorem live_or_holds_withoutStates {condition : Condition}
    (holds : (condition.judge view board).outcome = .ok true) :
    (∃ state ∈ view.armyStates, state.state ∈ condition.requiredStates) ∨
      (condition.withoutStates.judge view board).outcome = .ok true := by
  refine Classical.or_iff_not_imp_left.mpr fun noneLive => ?_
  rw [judge_withoutStates condition fun state member named => noneLive ⟨state, member, named⟩]
  exact holds

end Condition

/-! ## Hidden reminders -/

theorem meetsRequiredStates_iff {condition : Condition} {states : List ArmyState} :
    meetsRequiredStates condition states = true ↔ condition.requiredStates = [] ∨
      ∃ state ∈ states, state.state ∈ condition.requiredStates := by
  simp [meetsRequiredStates]

theorem distinctRules_go_sublist (seen : List String) (rules : List Rule) :
    (distinctRules.go seen rules).Sublist rules := by
  induction rules generalizing seen with
  | nil => exact .slnil
  | cons first rest ih =>
      unfold distinctRules.go
      split
      · exact (ih seen).cons first
      · exact (ih _).cons_cons first

theorem distinctRules_sublist (rules : List Rule) : (distinctRules rules).Sublist rules :=
  distinctRules_go_sublist [] rules

theorem id_mem_distinctRules_go {rules : List Rule} {rule : Rule} (listed : rule ∈ rules)
    (seen : List String) :
    rule.id ∈ seen ∨ rule.id ∈ (distinctRules.go seen rules).map (·.id) := by
  induction rules generalizing seen with
  | nil => cases listed
  | cons first rest ih =>
      unfold distinctRules.go
      split
      · rename_i repeated
        rcases List.mem_cons.mp listed with rfl | later
        · exact .inl (List.contains_iff_mem.mp repeated)
        · exact ih later seen
      · rcases List.mem_cons.mp listed with rfl | later
        · exact .inr (List.mem_cons_self ..)
        · rw [List.map_cons, List.mem_cons]
          rcases ih later (first.id :: seen) with before | kept
          · rw [List.mem_cons] at before
            exact before.elim (.inr ∘ .inl) .inl
          · exact .inr (.inr kept)

theorem id_mem_distinctRules {rules : List Rule} {rule : Rule} (listed : rule ∈ rules) :
    rule.id ∈ (distinctRules rules).map (·.id) :=
  (id_mem_distinctRules_go listed []).resolve_left List.not_mem_nil

variable {states : List ArmyState} {turn : Int} {phase asked armyId : String}
  {rules : List Rule} {rule : Rule}

/-- The states that decide on the reminders of an army are at least those that are live. -/
theorem forArmy_subset_narrowed :
    ArmyState.forArmy states armyId (some turn) (some phase) ⊆
      match (some armyId).filter (!·.isEmpty) with
      | some armyId => ArmyState.forArmy states armyId (some turn) (some phase)
      | none => states := by
  cases nameless : armyId.isEmpty with
  | true => simp [ArmyState.forArmy, nameless]
  | false => simp [Option.filter, nameless]

/-- A reminder for the phase and the turn is shown, under its id, unless its condition requires
states and none of them is live. -/
theorem id_mem_remindersFor (listed : rule ∈ rules) (reminds : rule.isReminder = true)
    (inPhase : rule.trigger.includesPhase phase = true)
    (inTurn : rule.trigger.turn.matches asked = true)
    (meets : rule.condition.requiredStates = [] ∨
      ∃ state ∈ ArmyState.forArmy states armyId (some turn) (some phase),
        state.state ∈ rule.condition.requiredStates) :
    rule.id ∈ (remindersFor rules phase asked states (some armyId) (some turn)).map (·.id) := by
  refine id_mem_distinctRules (List.mem_filter.mpr ⟨listed, ?_⟩)
  simp only [reminds, inPhase, inTurn, Bool.true_and, meetsRequiredStates_iff]
  refine meets.imp_right ?_
  rintro ⟨state, live, named⟩
  exact ⟨state, forArmy_subset_narrowed live, named⟩

/-- A reminder of a named army whose condition requires states is only shown while one of them
is live. -/
theorem meets_of_mem_remindersFor (named : armyId ≠ "")
    (shown : rule ∈ remindersFor rules phase asked states (some armyId) (some turn)) :
    rule ∈ rules ∧ (rule.condition.requiredStates = [] ∨
      ∃ state ∈ ArmyState.forArmy states armyId (some turn) (some phase),
        state.state ∈ rule.condition.requiredStates) := by
  obtain ⟨listed, passes⟩ := List.mem_filter.mp ((distinctRules_sublist _).subset shown)
  simp only [Bool.and_eq_true, meetsRequiredStates_iff] at passes
  refine ⟨listed, ?_⟩
  simpa [Option.filter, named] using passes.2

/-- Let a view keep the live states of its own army.  A condition that holds requires no state,
or has one of the required states live, or holds without them; which no gated condition does.
So no reminder for the phase and the turn is hidden if its condition holds, unless the condition
holds without the states that it requires.  Of the reminders that require states, only those are
shown for which one of these is live. -/
theorem remindersFor_hides_only_idle
    (live : view.armyStates =
      ArmyState.forArmy states view.ownUnit.armyId (some turn) (some phase)) :
    (∀ condition : Condition, (condition.judge view board).outcome = .ok true →
      condition.requiredStates = [] ∨
      (∃ state ∈ view.armyStates, state.state ∈ condition.requiredStates) ∨
      (condition.withoutStates.judge view board).outcome = .ok true) ∧
    (∀ condition : Condition, condition.isGated = true →
      (condition.withoutStates.judge view board).outcome ≠ .ok true) ∧
    (∀ rules asked, ∀ rule ∈ rules, rule.isReminder = true →
      rule.trigger.includesPhase phase = true → rule.trigger.turn.matches asked = true →
      (rule.condition.judge view board).outcome = .ok true →
      (rule.condition.requiredStates = [] ∨
        (rule.condition.withoutStates.judge view board).outcome ≠ .ok true) →
      rule.id ∈ (remindersFor rules phase asked states (some view.ownUnit.armyId)
        (some turn)).map (·.id)) ∧
    (view.ownUnit.armyId ≠ "" → ∀ rules asked,
      ∀ rule ∈ remindersFor rules phase asked states (some view.ownUnit.armyId) (some turn),
        rule ∈ rules ∧ (rule.condition.requiredStates = [] ∨
          ∃ state ∈ view.armyStates, state.state ∈ rule.condition.requiredStates)) := by
  refine ⟨fun condition holds => .inr (condition.live_or_holds_withoutStates holds),
    fun condition => condition.not_holds_of_isGated,
    fun rules asked rule listed reminds inPhase inTurn holds dependent => ?_,
    fun named rules asked rule shown => ?_⟩
  · refine id_mem_remindersFor listed reminds inPhase inTurn
      (dependent.imp_right fun idle => ?_)
    rw [← live]
    exact (Condition.live_or_holds_withoutStates holds).resolve_right idle
  · rw [live]
    exact meets_of_mem_remindersFor named shown

/-- A charge in the second turn, in which the attacker's army has called its Waaagh. -/
def greenTideCharge : Encounter where
  attacker := { id := "boyz", armyId := "orks" }
  defender := { id := "hunters", armyId := "wolves" }
  weapon := { name := "Choppa" }
  game := { currentTurn := 2, currentPhase := .fight }
  armyStates := [
    { id := "waaagh", armyId := "orks", state := "waaagh", activatedTurn := 2 }]

/-- A reminder that concerns melee weapons during a Waaagh or a last stand. -/
def Rule.hitHarder : Rule where
  id := "hit-harder"
  name := "Hit harder"
  condition := .all [.weaponType [.melee],
    .any [.armyState ["waaagh"], .armyState ["last stand"]]]
  body := .reminder

/-- The condition holds, and the reminder is shown. -/
theorem hitHarder_is_shown :
    (Rule.hitHarder.condition.judge (greenTideCharge.view .attacker) {}).outcome = .ok true ∧
    "hit-harder" ∈ (remindersFor [.hitHarder] "fight" "own" greenTideCharge.armyStates
      (some "orks") (some 2)).map (·.id) := by
  have live : (greenTideCharge.view .attacker).armyStates =
      ArmyState.forArmy greenTideCharge.armyStates
        (greenTideCharge.view .attacker).ownUnit.armyId (some 2) (some "fight") := rfl
  have holds :
      (Rule.hitHarder.condition.judge (greenTideCharge.view .attacker) {}).outcome =
        .ok true := rfl
  obtain ⟨-, gated, shown, -⟩ := remindersFor_hides_only_idle live
  exact ⟨holds, shown [.hitHarder] "own" .hitHarder (List.mem_singleton.mpr rfl) rfl rfl rfl
    holds (.inr (gated Rule.hitHarder.condition rfl))⟩

/-- A reminder that concerns a Waaagh, and any other time as well. -/
def warCry : Value :=
  .object [("kind", .text "reminder"), ("id", .text "war-cry"), ("name", .text "War cry"),
    ("when", .object [("t", .text "any"), ("xs", .list [
      .object [("t", .text "armyState"), ("is", .list [.text "waaagh"])],
      .object [("t", .text "true")]])])]

/-- The reminder passes the schema and is one for the phase and the turn.  Its condition holds
for the army that has called no Waaagh, and yet it is hidden from it. -/
theorem warCry_is_hidden : ∃ rule, Rule.read warCry = .accepted rule ∧
    rule.isReminder = true ∧ rule.trigger.includesPhase "fight" = true ∧
    rule.trigger.turn.matches "opponent" = true ∧
    (greenTideCharge.view .defender).armyStates =
      ArmyState.forArmy greenTideCharge.armyStates "wolves" (some 2) (some "fight") ∧
    (rule.condition.judge (greenTideCharge.view .defender) {}).outcome = .ok true ∧
    rule.condition.requiredStates = ["waaagh"] ∧
    (greenTideCharge.view .defender).armyStates = [] ∧
    remindersFor [rule] "fight" "opponent" greenTideCharge.armyStates (some "wolves")
      (some 2) = [] := by
  refine ⟨{ id := "war-cry", name := "War cry"
            condition := .any [.armyState ["waaagh"], .always], body := .reminder },
    rfl, rfl, rfl, rfl, rfl, rfl, rfl, rfl, ?_⟩
  rfl

end Skirmish
