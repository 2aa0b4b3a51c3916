import Skirmish.Proofs.ReadBack.Records
import Skirmish.Rulebook.Rule

/-!
# Reading back rules

A rule is dumped with all its fields, those of its body behind the others, and reads back
whatever its condition and its blocks are.
-/

namespace Skirmish

open Schema Checked

/-! ## Triggers -/

instance : LawfulVocabulary TriggerKind :=
  ⟨by intro kind; cases kind <;> rfl⟩

instance : LawfulVocabulary Turn :=
  ⟨by intro turn; cases turn <;> rfl⟩

instance : LawfulVocabulary Limit :=
  ⟨by intro limit; cases limit <;> rfl⟩

instance : LawfulVocabulary Lifetime :=
  ⟨by intro lifetime; cases lifetime <;> rfl⟩

instance : LawfulVocabulary Scope :=
  ⟨by intro scope; cases scope <;> rfl⟩

theorem Trigger.readPhases_one (phase : Phase) :
    readPhases (.text (Vocabulary.word phase)) = .accepted (.one phase) := by
  simp [readPhases, either]

/-- A list of phases is not taken for one phase. -/
theorem Trigger.readPhases_several (phases : List Phase) :
    readPhases (.texts (phases.map Vocabulary.word)) = .accepted (.several phases) := by
  have notOne : TriggerPhases.one <$> word (.texts (phases.map Vocabulary.word)) =
      .rejected [⟨[], .outsideVocabulary⟩] := rfl
  simp [readPhases, either, notOne]

@[simp]
theorem Trigger.read_dump (trigger : Trigger) : read trigger.dump = .accepted trigger := by
  obtain ⟨kind, phase, turn, limit⟩ := trigger
  cases phase with
  | one phase => simp [read, dump, record, readPhases_one]
  | several phases => simp [read, dump, record, readPhases_several]

/-! ## Choices -/

theorem ChoiceOption.readsBack : ReadsBack read dump := by
  intro value option accepted
  obtain ⟨fields, -, inner⟩ := record_eq_accepted_iff.mp accepted
  have blocks : Block.readList (.list (Block.dumpAll option.blocks)) =
      .accepted option.blocks := by
    simp only [seq_eq_accepted_iff, map_eq_accepted_iff] at inner
    obtain ⟨_, blocks, inner, acceptedBlocks, rfl⟩ := inner
    obtain ⟨_, label, ⟨id, -, rfl⟩, -, rfl⟩ := inner
    exact Block.readsBack_readList.defaulted rfl acceptedBlocks
  simp [read, dump, record, blocks]

theorem Choice.readsBack : ReadsBack read dump := by
  intro value choice accepted
  obtain ⟨fields, -, checked⟩ := record_eq_accepted_iff.mp accepted
  obtain ⟨inner, unrepeated⟩ := ensure_eq_accepted_iff.mp checked
  have options : listOfSome ChoiceOption.read (.list (choice.options.map ChoiceOption.dump)) =
      .accepted choice.options := by
    simp only [seq_eq_accepted_iff, map_eq_accepted_iff] at inner
    obtain ⟨_, options, inner, acceptedOptions, rfl⟩ := inner
    obtain ⟨_, lifetime, inner, -, rfl⟩ := inner
    obtain ⟨_, prompt, ⟨id, -, rfl⟩, -, rfl⟩ := inner
    exact ChoiceOption.readsBack.listOfSome.required acceptedOptions
  refine ensure_eq_accepted_iff.mpr ⟨?_, unrepeated⟩
  simp [readLifetime, record, options]

/-! ## Rules -/

/-- The dump of a body names its kind, and is read in the same way behind the fields that all
rules have. -/
theorem RuleBody.shape?_readsBack {kind : String} {readShape : Fields → Checked RuleBody}
    {fields : Fields} {body : RuleBody} (shape : shape? kind = some readShape)
    (accepted : readShape fields = .accepted body) :
    body.kind = kind ∧ ∀ id name description faction scope trigger condition tag : Value,
      readShape (("id", id) :: ("name", name) :: ("description", description) ::
        ("faction", faction) :: ("scope", scope) :: ("trigger", trigger) ::
        ("when", condition) :: ("kind", tag) :: body.dumpFields) = .accepted body := by
  unfold shape? at shape
  split at shape <;> cases shape
  · obtain ⟨blocks, rfl, again⟩ := Block.readsBack_readSome.map_required accepted
    exact ⟨rfl, fun _ _ _ _ _ _ _ _ => again _ rfl⟩
  · obtain ⟨choice, rfl, again⟩ := Choice.readsBack.map_required accepted
    exact ⟨rfl, fun _ _ _ _ _ _ _ _ => again _ rfl⟩
  · cases accepted
    exact ⟨rfl, fun _ _ _ _ _ _ _ _ => rfl⟩

theorem Rule.readsBack : ReadsBack read dump := by
  refine readsBack_tagged fun {kind readShape fields rule} shape accepted => ?_
  obtain ⟨readBody, shapeBody, rfl⟩ := Option.map_eq_some_iff.mp shape
  simp only [seq_eq_accepted_iff, map_eq_accepted_iff] at accepted
  obtain ⟨_, body, accepted, acceptedBody, rfl⟩ := accepted
  obtain ⟨_, condition, accepted, acceptedCondition, rfl⟩ := accepted
  obtain ⟨_, trigger, accepted, -, rfl⟩ := accepted
  obtain ⟨_, scope, accepted, -, rfl⟩ := accepted
  obtain ⟨_, faction, accepted, -, rfl⟩ := accepted
  obtain ⟨_, description, accepted, -, rfl⟩ := accepted
  obtain ⟨_, name, ⟨id, -, rfl⟩, -, rfl⟩ := accepted
  obtain ⟨rfl, bodyAgain⟩ := RuleBody.shape?_readsBack shapeBody acceptedBody
  have conditionAgain : Condition.read condition.dump = .accepted condition :=
    (Condition.readsBack_readBehind 0).defaulted rfl acceptedCondition
  refine ⟨_, rfl, rfl, ?_⟩
  simp [conditionAgain, bodyAgain]

/-! ## All records -/

/-- Whatever is read as a record or as a part of one is read again from its dump, and comes
out the same at every node. -/
theorem accepted_readings_read_back :
    ReadsBack Rule.read Rule.dump ∧
    ReadsBack Condition.read Condition.dump ∧
    ReadsBack Effect.read Effect.dump ∧
    ReadsBack Block.read Block.dump ∧
    ReadsBack Choice.read Choice.dump ∧
    ReadsBack Trigger.read Trigger.dump ∧
    ReadsBack ArmyState.read ArmyState.dump ∧
    ReadsBack Stratagem.read Stratagem.dump ∧
    ReadsBack BattleUnit.read BattleUnit.dump ∧
    ReadsBack Weapon.read Weapon.dump ∧
    ReadsBack Scenario.read Scenario.dump :=
  ⟨Rule.readsBack, Condition.readsBack_readBehind 0, Effect.readsBack_readAt 1,
    Block.readsBack, Choice.readsBack, fun _ trigger _ => trigger.read_dump,
    fun _ state _ => state.read_dump, Stratagem.readsBack, BattleUnit.readsBack,
    fun _ weapon _ => weapon.read_dump, Scenario.readsBack⟩

/-- A rule with a condition of unknown kind, with a field under its other spelling, and with
a number that is written as a text. -/
def holdTheLine : Value :=
  .object [("kind", .text "passive"), ("id", .text "hold-the-line"),
    ("name", .text "Hold the line"),
    ("when", .object [("t", .text "any"),
      ("xs", .list [.object [("t", .text "combatRole"), ("is_", .text "defender")],
        .object [("range", .int 3), ("t", .text "nearObjective")]])]),
    ("then", .list [.object [("t", .text "do"),
      ("fx", .list [.object [("t", .text "setInvuln"), ("n", .text " 4 ")]])]])]

theorem holdTheLine_reads_back : ∃ rule, Rule.read holdTheLine = .accepted rule ∧
    rule.condition.dump = .object [("t", .text "any"),
      ("xs", .list [.object [("t", .text "combatRole"), ("is", .text "defender")],
        .object [("t", .text "nearObjective"), ("range", .int 3)]])] ∧
    Rule.read rule.dump = .accepted rule := by
  have readHere : Rule.read holdTheLine = .accepted _ := rfl
  exact ⟨_, readHere, rfl, accepted_readings_read_back.1 readHere⟩

end Skirmish
