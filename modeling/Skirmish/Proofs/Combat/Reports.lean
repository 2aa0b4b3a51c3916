import Skirmish.Proofs.Combat.Steps

/-!
# Reports of unknown nodes

The evaluation of a rule reports conditions and effects of unknown kind in the trace.  Such
a report is always about a node of the rule, at whatever depth of its conditions, blocks,
options and effects: every line that the evaluation adds to the trace is either no report,
or names a kind that the rule holds.
-/

namespace Skirmish

/-! ## Lines -/

/-- A line of a trace. -/
def noteLine (tag message : String) : String :=
  s!"[{tag}] {message}"

/-- The line that reports a condition of unknown kind. -/
def unknownConditionLine (kind : String) : String :=
  noteLine "When" s!"Unknown condition kind '{kind}'; treated as false"

/-- The line that reports an effect of unknown kind on behalf of a source. -/
def unknownEffectLine (source kind : String) : String :=
  noteLine "Fx" s!"{source}: unknown effect kind '{kind}'; ignored"

example : unknownConditionLine "nearObjective" =
    "[When] Unknown condition kind 'nearObjective'; treated as false" := by
  decide

theorem noteLine_inj {tag message other : String} :
    noteLine tag message = noteLine tag other ↔ message = other := by
  simp [noteLine, toString]

theorem toList_noteLine (tag message : String) :
    (noteLine tag message).toList = '[' :: tag.toList ++ (']' :: ' ' :: message.toList) := by
  simp [noteLine, toString, String.toList_append]

theorem noteLine_ne {tag tagOther message other : String}
    (differ : (tag.toList ++ [']']).head? ≠ (tagOther.toList ++ [']']).head?) :
    noteLine tag message ≠ noteLine tagOther other := by
  intro same
  have first : ∀ text rest : List Char, (text ++ ']' :: rest).head? = (text ++ [']']).head? := by
    intro text rest
    cases text <;> rfl
  have chars := congrArg String.toList same
  rw [toList_noteLine, toList_noteLine, List.cons_append, List.cons_append,
    List.cons.injEq] at chars
  have heads := congrArg List.head? chars.2
  rw [first _ (' ' :: message.toList), first _ (' ' :: other.toList)] at heads
  exact differ heads

theorem unknownConditionLine_inj {kind other : String} :
    unknownConditionLine kind = unknownConditionLine other ↔ kind = other := by
  simp [unknownConditionLine, noteLine_inj, toString]

theorem unknownEffectLine_inj {source kind other : String} :
    unknownEffectLine source kind = unknownEffectLine source other ↔ kind = other := by
  simp [unknownEffectLine, noteLine_inj, toString]

theorem getLast?_append {before text : String} {last : Char}
    (ends : text.toList.getLast? = some last) :
    (before ++ text).toList.getLast? = some last := by
  rw [String.toList_append, List.getLast?_append, ends]
  rfl

/-! ## Traces -/

/-- The second board has the trace of the first one with further lines, all of a sort. -/
def Board.Notes (good : String → Prop) (board other : Board) : Prop :=
  ∃ lines, other.trace = board.trace.map (· ++ lines) ∧ ∀ line ∈ lines, good line

instance (good : String → Prop) : IsPreorder Board (Board.Notes good) where
  refl board := ⟨[], by simp, fun _ member => (List.not_mem_nil member).elim⟩
  trans := by
    rintro first second third ⟨lines, traced, all⟩ ⟨more, tracedMore, allMore⟩
    refine ⟨lines ++ more, ?_, List.forall_mem_append.mpr ⟨all, allMore⟩⟩
    rw [tracedMore, traced, Option.map_map]
    congr 1
    funext before
    exact List.append_assoc before lines more

namespace Board

variable {good : String → Prop}

theorem notes_note {tag message : String} (fits : good (noteLine tag message)) (board : Board) :
    board.Notes good (board.note tag message) :=
  ⟨[noteLine tag message], rfl, List.forall_mem_singleton.mpr fits⟩

theorem notes_noteUnknown {kinds : List String}
    (fits : ∀ kind ∈ kinds, good (unknownConditionLine kind)) (board : Board) :
    board.Notes good (board.noteUnknown kinds) := by
  induction kinds generalizing board with
  | nil => exact refl_of (Notes good) board
  | cons kind kinds ih =>
      obtain ⟨here, there⟩ := List.forall_mem_cons.mp fits
      exact trans_of (Notes good) (notes_note here board) (ih there _)

theorem notes_writtenOn {action : Action} {view : View} {source : String} {board : Board}
    (fits : ∀ message : String, message.toList.getLast? = some ')' →
      good (noteLine "Fx" message)) :
    board.Notes good (action.writtenOn view source board) :=
  ⟨_, rfl, List.forall_mem_singleton.mpr (fits _ (getLast?_append (by decide)))⟩

end Board

/-! ## Unknown kinds -/

variable {view : View} {board : Board}

mutual

theorem Condition.namesUnknown_of_judge : ∀ (condition : Condition) {kind : String},
    kind ∈ (condition.judge view board).unknownKinds → condition.NamesUnknown kind := by
  intro condition kind met
  cases condition with
  | all parts =>
      unfold Condition.judge at met
      obtain ⟨part, member, extras, named⟩ := Condition.namesUnknown_of_judgeAll parts met
      refine ⟨extras, List.mem_cons_of_mem _ ?_⟩
      rw [nodesOfParts_eq]
      exact List.mem_flatMap.mpr ⟨part, member, named⟩
  | any parts =>
      unfold Condition.judge at met
      obtain ⟨part, member, extras, named⟩ := Condition.namesUnknown_of_judgeAny parts met
      refine ⟨extras, List.mem_cons_of_mem _ ?_⟩
      rw [nodesOfParts_eq]
      exact List.mem_flatMap.mpr ⟨part, member, named⟩
  | not part =>
      unfold Condition.judge at met
      obtain ⟨extras, named⟩ := Condition.namesUnknown_of_judge part met
      exact ⟨extras, List.mem_cons_of_mem _ named⟩
  | unknown other extras =>
      unfold Condition.judge at met
      obtain rfl := List.mem_singleton.mp met
      exact ⟨extras, List.mem_singleton.mpr rfl⟩
  | _ =>
      simp only [Condition.judge] at met
      exact (List.not_mem_nil met).elim

theorem Condition.namesUnknown_of_judgeAll : ∀ (parts : List Condition) {kind : String},
    kind ∈ (Condition.judgeAll view board parts).unknownKinds →
      ∃ part ∈ parts, part.NamesUnknown kind := by
  intro parts kind met
  cases parts with
  | nil =>
      unfold Condition.judgeAll at met
      exact (List.not_mem_nil met).elim
  | cons part rest =>
      unfold Condition.judgeAll at met
      dsimp only at met
      split at met
      · rcases List.mem_append.mp met with here | there
        · exact ⟨part, List.mem_cons_self .., Condition.namesUnknown_of_judge part here⟩
        · obtain ⟨other, member, named⟩ := Condition.namesUnknown_of_judgeAll rest there
          exact ⟨other, List.mem_cons_of_mem _ member, named⟩
      · exact ⟨part, List.mem_cons_self .., Condition.namesUnknown_of_judge part met⟩

theorem Condition.namesUnknown_of_judgeAny : ∀ (parts : List Condition) {kind : String},
    kind ∈ (Condition.judgeAny view board parts).unknownKinds →
      ∃ part ∈ parts, part.NamesUnknown kind := by
  intro parts kind met
  cases parts with
  | nil =>
      unfold Condition.judgeAny at met
      exact (List.not_mem_nil met).elim
  | cons part rest =>
      unfold Condition.judgeAny at met
      dsimp only at met
      split at met
      · rcases List.mem_append.mp met with here | there
        · exact ⟨part, List.mem_cons_self .., Condition.namesUnknown_of_judge part here⟩
        · obtain ⟨other, member, named⟩ := Condition.namesUnknown_of_judgeAny rest there
          exact ⟨other, List.mem_cons_of_mem _ member, named⟩
      · exact ⟨part, List.mem_cons_self .., Condition.namesUnknown_of_judge part met⟩

end

/-! ## Steps -/

/-- If the line is a report, it reports a node of the rule. -/
structure Rule.Accounts (rule : Rule) (line : String) : Prop where
  condition : ∀ kind, line = unknownConditionLine kind → rule.NamesUnknownCondition kind
  effect : ∀ kind, line = unknownEffectLine rule.id kind → rule.NamesUnknownEffect kind

namespace Rule

variable {rule : Rule}

theorem accounts_unknownCondition {kind : String} (names : rule.NamesUnknownCondition kind) :
    rule.Accounts (unknownConditionLine kind) where
  condition other same := unknownConditionLine_inj.mp same ▸ names
  effect other same := (noteLine_ne (by decide) same).elim

theorem accounts_unknownEffect {kind : String} (names : rule.NamesUnknownEffect kind) :
    rule.Accounts (unknownEffectLine rule.id kind) where
  condition other same := (noteLine_ne (by decide) same).elim
  effect other same := unknownEffectLine_inj.mp same ▸ names

theorem accounts_remark (message : String) : rule.Accounts (noteLine "Rule" message) where
  condition other same := (noteLine_ne (by decide) same).elim
  effect other same := (noteLine_ne (by decide) same).elim

/-- Of the lines about effects, those that end in another letter report nothing. -/
theorem accounts_effect {message : String} {last : Char}
    (ends : message.toList.getLast? = some last) (other : last ≠ 'd') :
    rule.Accounts (noteLine "Fx" message) where
  condition _ same := (noteLine_ne (by decide) same).elim
  effect kind same := by
    have reported : message.toList.getLast? = some 'd' := by
      rw [noteLine_inj.mp same]
      exact getLast?_append (by decide)
    rw [ends] at reported
    exact (other (Option.some.inj reported)).elim

theorem accounts_skipped {source kind reason : String} (skips : reason ∈ Effect.skipReasons) :
    rule.Accounts (noteLine "Fx" s!"{source}: {kind} {reason}") := by
  have ends : ∀ reason ∈ Effect.skipReasons,
      reason.toList.getLast?.any (· != 'd') = true := by
    decide
  obtain ⟨last, ended, other⟩ := (Option.any_eq_true _ _).mp (ends reason skips)
  exact accounts_effect (getLast?_append ended) (bne_iff_ne.mp other)

/-! ## Evaluation -/

theorem notes_holds {condition : Condition} (own : condition ∈ rule.conditions) :
    Moves (Board.Notes rule.Accounts) (Evaluation.holds view condition) := by
  refine moves_bind moves_get fun start => moves_bind ?_ fun _ => moves_lift _
  refine moves_modify fun board => Board.notes_noteUnknown (fun kind met => ?_) board
  exact accounts_unknownCondition ⟨condition, own, condition.namesUnknown_of_judge met⟩

theorem notes_conditionsObstacle {effect : Effect}
    (own : ∀ condition ∈ effect.conditions, condition ∈ rule.conditions)
    (plain : effect.IsPlain) :
    Moves (Board.Notes rule.Accounts) (effect.conditionsObstacle? view) := by
  unfold Effect.conditionsObstacle?
  cases effect with
  | known action limit conditions =>
      refine moves_bind moves_get fun start => moves_bind ?_ fun _ =>
        moves_bind (moves_lift _) fun _ => moves_pure _
      refine moves_modify fun board => Board.notes_noteUnknown (fun kind met => ?_) board
      obtain ⟨part, member, named⟩ := Condition.namesUnknown_of_judgeAll conditions met
      exact accounts_unknownCondition ⟨part, own part member, named⟩
  | unknown kind extras =>
      have absent : Effect.rawConditions extras = .absent := plain
      simp only [absent]
      exact moves_pure _

theorem notes_apply {effect : Effect} (member : effect ∈ Block.effectsOfAll rule.blocks)
    (own : ∀ condition ∈ effect.conditions, condition ∈ rule.conditions)
    (plain : effect.IsPlain) :
    Moves (Board.Notes rule.Accounts) (effect.apply view rule.id) := by
  refine Effect.moves_apply_of_steps (notes_conditionsObstacle own plain) ?_ ?_ ?_
  · intro reason skips
    exact moves_modify (Board.notes_note (accounts_skipped skips))
  · intro action limit conditions _ _
    refine Action.moves_write (fun _ board => ⟨[], by simp [Action.addedOn], by simp⟩) fun board => ?_
    exact Board.notes_writtenOn fun message ends => accounts_effect ends (by decide)
  · rintro kind extras rfl
    exact moves_modify (Board.notes_note (accounts_unknownEffect ⟨extras, member⟩))

end Rule

/-- Whatever a rule adds to the trace accounts for its reports. -/
theorem Rule.notes_evaluate {rule : Rule}
    (plain : ∀ effect ∈ Block.effectsOfAll rule.blocks, effect.IsPlain) :
    Moves (Board.Notes rule.Accounts) (rule.evaluate view) := by
  refine Rule.moves_evaluate ⟨fun effect member => ?_, fun condition own => notes_holds own, ?_⟩
    fun message => moves_modify (Board.notes_note (accounts_remark message))
  · refine notes_apply member (fun condition own => ?_) (plain effect member)
    exact List.mem_cons_of_mem _ (Block.mem_conditionsOfAll _ member condition own)
  · refine moves_modify (Board.notes_note (@accounts_effect _ _ 't' ?_ (by decide)))
    exact getLast?_append rfl

end Skirmish
