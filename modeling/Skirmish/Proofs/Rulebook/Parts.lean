import Skirmish.Rulebook.Rule

/-!
# The parts of rules

A rule has a condition of its own, and its blocks or options hold further conditions and
effects at any depth.  Some of their nodes may have kinds that are not known.
-/

namespace Skirmish

theorem Condition.nodesOfParts_eq (parts : List Condition) :
    nodesOfParts parts = parts.flatMap nodes := by
  induction parts with
  | nil => rfl
  | cons part rest ih => rw [nodesOfParts, ih, List.flatMap_cons]

/-- The conditions of an effect.  What an unknown effect carries is none. -/
def Effect.conditions : Effect → List Condition
  | .known _ _ conditions => conditions
  | .unknown .. => []

mutual

/-- The conditions of the block and of its effects, at any depth. -/
def Block.conditions : Block → List Condition
  | .perform effects => effects.flatMap Effect.conditions
  | .guarded condition blocks => condition :: Block.conditionsOfAll blocks

/-- The conditions of several blocks and of their effects, at any depth. -/
def Block.conditionsOfAll : List Block → List Condition
  | [] => []
  | block :: rest => Block.conditions block ++ Block.conditionsOfAll rest

end

/-- The conditions of the rule, of its blocks or options and of their effects. -/
def Rule.conditions (rule : Rule) : List Condition :=
  rule.condition :: Block.conditionsOfAll rule.blocks

theorem Block.conditionsOfAll_eq (blocks : List Block) :
    conditionsOfAll blocks = blocks.flatMap conditions := by
  induction blocks with
  | nil => rfl
  | cons block rest ih => rw [conditionsOfAll, ih, List.flatMap_cons]

theorem Block.effectsOfAll_eq (blocks : List Block) :
    effectsOfAll blocks = blocks.flatMap effects := by
  induction blocks with
  | nil => rfl
  | cons block rest ih => rw [effectsOfAll, ih, List.flatMap_cons]

namespace Block

mutual

theorem mem_conditions : ∀ (block : Block) {effect : Effect}, effect ∈ block.effects →
    ∀ condition ∈ effect.conditions, condition ∈ block.conditions := by
  intro block effect member condition own
  cases block with
  | perform effects =>
      unfold Block.effects at member
      unfold Block.conditions
      exact List.mem_flatMap.mpr ⟨effect, member, own⟩
  | guarded guard blocks =>
      unfold Block.effects at member
      unfold Block.conditions
      exact List.mem_cons_of_mem _ (mem_conditionsOfAll blocks member condition own)

theorem mem_conditionsOfAll : ∀ (blocks : List Block) {effect : Effect},
    effect ∈ effectsOfAll blocks →
      ∀ condition ∈ effect.conditions, condition ∈ conditionsOfAll blocks := by
  intro blocks effect member condition own
  cases blocks with
  | nil =>
      unfold effectsOfAll at member
      exact (List.not_mem_nil member).elim
  | cons block rest =>
      unfold effectsOfAll at member
      unfold conditionsOfAll
      rcases List.mem_append.mp member with here | there
      · exact List.mem_append_left _ (mem_conditions block here condition own)
      · exact List.mem_append_right _ (mem_conditionsOfAll rest there condition own)

end

end Block

/-! ## Unknown kinds -/

/-- A node of the condition has an unknown kind. -/
def Condition.NamesUnknown (condition : Condition) (kind : String) : Prop :=
  ∃ extras, Condition.unknown kind extras ∈ condition.nodes

/-- A condition of the rule, of its blocks or options or of their effects has a node of the
unknown kind. -/
def Rule.NamesUnknownCondition (rule : Rule) (kind : String) : Prop :=
  ∃ condition ∈ rule.conditions, condition.NamesUnknown kind

/-- An effect of the rule has the unknown kind. -/
def Rule.NamesUnknownEffect (rule : Rule) (kind : String) : Prop :=
  ∃ extras, Effect.unknown kind extras ∈ Block.effectsOfAll rule.blocks

/-- An effect of unknown kind carries no conditions; those of the known ones are read. -/
def Effect.IsPlain : Effect → Prop
  | .known .. => True
  | .unknown _ extras => rawConditions extras = .absent

end Skirmish
