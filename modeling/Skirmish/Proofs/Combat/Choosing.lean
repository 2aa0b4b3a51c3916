import Mathlib.Data.List.Induction
import Mathlib.Data.List.Nodup
import Mathlib.Data.Prod.Lex
import Skirmish.Proofs.Combat.Completion
import Skirmish.Proofs.Schema
import Skirmish.Proofs.Stops

/-!
# How choices are resolved

A choice of a whole army is answered by the states that the army has entered, and the latest
answer counts: that of the greatest turn, and the last one in the list among those of one
turn.  Without such an answer, and for every other choice, the player's input counts.

The value decides what the rule does.  When it is that of an option, the blocks of this
option are evaluated, and nothing else; otherwise the rule stays pending and writes nothing.
-/

namespace Skirmish

open Schema Checked

/-! ## Live states -/

namespace ArmyState

/-- The turn in which the state ends, if it does. -/
def lastTurn (state : ArmyState) : Int :=
  state.expiresTurn.getD state.activatedTurn

/-- The state is live at a moment: it was activated, and the phase in which it expires, if
there is one, is not over. -/
def IsLiveAt (state : ArmyState) (turn : Int) (phase : Phase) : Prop :=
  state.activatedTurn ≤ turn ∧ ∀ expiry, state.expiresPhase = some expiry →
    turn < state.lastTurn ∨ turn = state.lastTurn ∧ phase.index ≤ expiry.index

theorem phaseIndex_word (phase : Phase) : phaseIndex (Vocabulary.word phase) = phase.index := by
  cases phase <;> rfl

theorem isLive_iff {state : ArmyState} {turn : Int} {phase : Phase} :
    state.isLive turn (some (Vocabulary.word phase)) = true ↔ state.IsLiveAt turn phase := by
  unfold isLive IsLiveAt lastTurn
  cases state.expiresPhase with
  | none => simp
  | some expiry =>
      simp only [phaseIndex_word, Option.some.injEq, forall_eq']
      generalize state.expiresTurn.getD state.activatedTurn = last
      split_ifs <;> simp <;> omega

/-! ## Latest answers -/

/-- The state answers a choice with a value, on behalf of an army at a moment of the
battle. -/
structure Answers (game : Game) (armyId choiceId : String) (state : ArmyState)
    (value : String) : Prop where
  identified : armyId ≠ ""
  own : state.armyId = armyId
  live : state.IsLiveAt game.currentTurn game.currentPhase
  choice : state.state = choiceId
  chosen : state.choiceValue = some value
  nonempty : value ≠ ""

/-- Among the states that count, the one at a position is the latest: none has a greater
turn, and none of the same turn stands behind it. -/
structure IsLatest (counts : ArmyState → Prop) (states : List ArmyState) (position : Nat)
    (latest : ArmyState) : Prop where
  found : states[position]? = some latest
  eligible : counts latest
  last : ∀ other state, states[other]? = some state → counts state →
    toLex (state.activatedTurn, other) ≤ toLex (latest.activatedTurn, position)

theorem IsLatest.unique {counts : ArmyState → Prop} {states : List ArmyState}
    {position other : Nat} {latest again : ArmyState}
    (isLatest : IsLatest counts states position latest)
    (isAgain : IsLatest counts states other again) : latest = again := by
  have same := le_antisymm (isAgain.last _ _ isLatest.found isLatest.eligible)
    (isLatest.last _ _ isAgain.found isAgain.eligible)
  obtain rfl : position = other := congrArg (fun pair => (ofLex pair).2) same
  exact Option.some.inj (isLatest.found.symm.trans isAgain.found)

/-- The later of the best state so far and a further one, among those that count. -/
def laterOf (counts : ArmyState → Bool) (best : Option ArmyState) (state : ArmyState) :
    Option ArmyState :=
  if counts state && best.all fun best => best.activatedTurn ≤ state.activatedTurn then
    some state
  else
    best

/-- What a run over the states knows about those that it has met. -/
def IsBest (counts : ArmyState → Bool) (states : List ArmyState) :
    Option ArmyState → Prop
  | some best => ∃ position, IsLatest (fun state => counts state = true) states position best
  | none => ∀ state ∈ states, counts state = false

theorem getElem?_concat_cases {states : List ArmyState} {state found : ArmyState}
    {position : Nat} (get : (states ++ [state])[position]? = some found) :
    states[position]? = some found ∨ position = states.length ∧ found = state := by
  rcases Nat.lt_trichotomy position states.length with before | rfl | behind
  · exact .inl (by rwa [List.getElem?_append_left before] at get)
  · rw [List.getElem?_concat_length] at get
    exact .inr ⟨rfl, (Option.some.inj get).symm⟩
  · rw [List.getElem?_eq_none (by rw [List.length_append]; exact behind)] at get
    cases get

/-- A further state only displaces the best one when it counts and has no lesser turn. -/
theorem isBest_laterOf {counts : ArmyState → Bool} {states : List ArmyState}
    {best : Option ArmyState} (isBest : IsBest counts states best) (state : ArmyState) :
    IsBest counts (states ++ [state]) (laterOf counts best state) := by
  unfold laterOf
  split
  · rename_i displaces
    rw [Bool.and_eq_true] at displaces
    refine ⟨states.length, List.getElem?_concat_length, displaces.1, fun other found get eligible => ?_⟩
    rcases getElem?_concat_cases get with before | ⟨rfl, rfl⟩
    · have position := (List.getElem?_eq_some_iff.mp before).1
      cases best with
      | none => exact absurd eligible (by simp [isBest found (List.mem_of_getElem? before)])
      | some best =>
          obtain ⟨_, isLatest⟩ := isBest
          have atMost := Prod.Lex.toLex_le_toLex.mp (isLatest.last _ _ before eligible)
          have turns : best.activatedTurn ≤ state.activatedTurn := by simpa using displaces.2
          rw [Prod.Lex.toLex_le_toLex]
          omega
    · exact le_refl _
  · rename_i keeps
    cases best with
    | none =>
        have ineligible : counts state = false := by simpa using keeps
        intro other member
        rcases List.mem_append.mp member with before | last
        · exact isBest other before
        · rwa [List.mem_singleton.mp last]
    | some best =>
        obtain ⟨position, isLatest⟩ := isBest
        have inside := (List.getElem?_eq_some_iff.mp isLatest.found).1
        refine ⟨position, by rw [List.getElem?_append_left inside, isLatest.found],
          isLatest.eligible, fun other found get eligible => ?_⟩
        rcases getElem?_concat_cases get with before | ⟨rfl, rfl⟩
        · exact isLatest.last other found before eligible
        · have turns : found.activatedTurn < best.activatedTurn := by
            simpa [eligible] using keeps
          exact Prod.Lex.toLex_le_toLex.mpr (.inl turns)

theorem isBest_foldl (counts : ArmyState → Bool) (states : List ArmyState) :
    IsBest counts states (states.foldl (laterOf counts) none) := by
  induction states using List.reverseRecOn with
  | nil =>
      intro state member
      exact (List.not_mem_nil member).elim
  | append_singleton states state ih =>
      rw [List.foldl_append]
      exact isBest_laterOf ih state

/-- The state counts as an answer, as a check tells. -/
def answersTo (game : Game) (armyId choiceId : String) (state : ArmyState) : Bool :=
  !armyId.isEmpty && state.armyId == armyId &&
    state.isLive game.currentTurn (some (Vocabulary.word game.currentPhase)) &&
    state.state == choiceId && state.hasAnswer

variable {game : Game} {armyId choiceId : String} {states : List ArmyState}

theorem answer?_eq_some_iff {state : ArmyState} {value : String} :
    state.answer? = some value ↔ state.choiceValue = some value ∧ value ≠ "" := by
  simp [answer?, Option.filter_eq_some_iff]

theorem answers_iff {state : ArmyState} {value : String} :
    state.Answers game armyId choiceId value ↔
      state.answersTo game armyId choiceId = true ∧ state.answer? = some value := by
  simp only [answersTo, hasAnswer, Bool.and_eq_true, answer?_eq_some_iff, isLive_iff,
    Option.isSome_iff_exists, beq_iff_eq, Bool.not_eq_true', String.isEmpty_eq_false_iff]
  constructor
  · intro answers
    exact ⟨⟨⟨⟨⟨answers.identified, answers.own⟩, answers.live⟩, answers.choice⟩, value,
      answers.chosen, answers.nonempty⟩, answers.chosen, answers.nonempty⟩
  · rintro ⟨⟨⟨⟨⟨identified, own⟩, live⟩, choice⟩, -⟩, chosen, nonempty⟩
    exact ⟨identified, own, live, choice, chosen, nonempty⟩

theorem answersTo_iff {state : ArmyState} :
    state.answersTo game armyId choiceId = true ↔
      ∃ value, state.Answers game armyId choiceId value := by
  constructor
  · intro answersTo
    have has : state.answer?.isSome = true := (Bool.and_eq_true_iff.mp answersTo).2
    obtain ⟨value, answer⟩ := Option.isSome_iff_exists.mp has
    exact ⟨value, answers_iff.mpr ⟨answersTo, answer⟩⟩
  · rintro ⟨value, answers⟩
    exact (answers_iff.mp answers).1

/-- To run over the live states of an army is to run over all states and to leave out those
that are no answer. -/
theorem foldl_laterAnswer_forArmy (game : Game) (armyId choiceId : String)
    (states : List ArmyState) :
    (forArmy states armyId (some game.currentTurn)
        (some (Vocabulary.word game.currentPhase))).foldl (laterAnswer choiceId) none =
      states.foldl (laterOf (answersTo game armyId choiceId)) none := by
  cases nameless : armyId.isEmpty with
  | true =>
      have isBest := isBest_foldl (answersTo game armyId choiceId) states
      rw [forArmy, if_pos nameless, List.foldl_nil]
      generalize states.foldl (laterOf (answersTo game armyId choiceId)) none = best at isBest ⊢
      cases best with
      | none => rfl
      | some best =>
          obtain ⟨_, isLatest⟩ := isBest
          exact absurd isLatest.eligible (by simp [answersTo, nameless])
  | false =>
      rw [forArmy, if_neg (by simp [nameless])]
      dsimp only
      rw [List.filter_filter, List.foldl_filter]
      congr 1
      funext best state
      unfold laterOf laterAnswer answersTo
      rw [nameless]
      split_ifs <;> simp_all

end ArmyState

/-! ## The value that is used -/

namespace Encounter

variable {encounter : Encounter} {role : Role} {rule : Rule} {choice : Choice}

/-- A state answers a choice with a value, on behalf of the side of a role. -/
def Answers (encounter : Encounter) (role : Role) (choice : Choice) (state : ArmyState)
    (value : String) : Prop :=
  state.Answers encounter.game (encounter.unitOf role).armyId choice.id value

/-- No state answers the choice on behalf of the side of a role. -/
def Unanswered (encounter : Encounter) (role : Role) (choice : Choice) : Prop :=
  ∀ state ∈ encounter.armyStates, ∀ value, ¬ encounter.Answers role choice state value

/-- The value that the side of a role uses for the choice of a rule, if it uses one. -/
inductive Resolves (encounter : Encounter) (role : Role) (rule : Rule) (choice : Choice) :
    Option String → Prop
  | recorded {position : Nat} {latest : ArmyState} {value : String} (army : rule.scope = .army)
      (isLatest : ArmyState.IsLatest (fun state => ∃ value, encounter.Answers role choice state value)
        encounter.armyStates position latest)
      (answers : encounter.Answers role choice latest value) :
      Resolves encounter role rule choice (some value)
  | given {value : String}
      (unanswered : rule.scope = .army → encounter.Unanswered role choice)
      (input : encounter.circumstances.input? choice.id = some value) (nonempty : value ≠ "") :
      Resolves encounter role rule choice (some value)
  | nothing (unanswered : rule.scope = .army → encounter.Unanswered role choice)
      (noInput : ∀ value, encounter.circumstances.input? choice.id = some value → value = "") :
      Resolves encounter role rule choice none

theorem answered_of_isLatest {position : Nat} {latest : ArmyState}
    (isLatest : ArmyState.IsLatest (fun state => ∃ value, encounter.Answers role choice state value)
      encounter.armyStates position latest) : ¬ encounter.Unanswered role choice := by
  intro unanswered
  obtain ⟨value, answers⟩ := isLatest.eligible
  exact unanswered latest (List.mem_of_getElem? isLatest.found) value answers

theorem Resolves.unique {first second : Option String}
    (resolves : encounter.Resolves role rule choice first)
    (again : encounter.Resolves role rule choice second) : first = second := by
  cases resolves with
  | recorded army isLatest answers =>
      cases again with
      | recorded _ isAgain answersAgain =>
          obtain rfl := isLatest.unique isAgain
          exact answers.chosen.symm.trans answersAgain.chosen
      | given unanswered _ _ =>
          exact absurd (unanswered army) (answered_of_isLatest isLatest)
      | nothing unanswered _ =>
          exact absurd (unanswered army) (answered_of_isLatest isLatest)
  | given unanswered input nonempty =>
      cases again with
      | recorded army isLatest _ =>
          exact absurd (unanswered army) (answered_of_isLatest isLatest)
      | given _ inputAgain _ => exact input.symm.trans inputAgain
      | nothing _ noInput => exact absurd (noInput _ input) nonempty
  | nothing unanswered noInput =>
      cases again with
      | recorded army isLatest _ =>
          exact absurd (unanswered army) (answered_of_isLatest isLatest)
      | given _ input nonempty => exact absurd (noInput _ input) nonempty
      | nothing _ _ => rfl

/-- Without an answer on record the input counts, unless it is empty. -/
theorem resolves_input (unanswered : rule.scope = .army → encounter.Unanswered role choice) :
    encounter.Resolves role rule choice
      ((encounter.circumstances.input? choice.id).filter (!·.isEmpty)) := by
  cases input : encounter.circumstances.input? choice.id with
  | none => exact .nothing unanswered (by simp [input])
  | some value =>
      by_cases empty : value = ""
      · rw [empty]
        exact .nothing unanswered (by simp [input, empty])
      · rw [Option.filter_some_pos (by simpa using empty)]
        exact .given unanswered input empty

theorem resolves_chosenValue? (encounter : Encounter) (role : Role) (rule : Rule)
    (choice : Choice) :
    encounter.Resolves role rule choice (rule.chosenValue? choice (encounter.view role)) := by
  unfold Rule.chosenValue?
  dsimp only
  split
  · rename_i army
    have isBest := ArmyState.isBest_foldl
      (ArmyState.answersTo encounter.game (encounter.unitOf role).armyId choice.id)
      encounter.armyStates
    rw [ArmyState.findAnswer?, Encounter.view]
    dsimp only
    rw [ArmyState.foldl_laterAnswer_forArmy]
    generalize encounter.armyStates.foldl (ArmyState.laterOf (ArmyState.answersTo encounter.game
      (encounter.unitOf role).armyId choice.id)) none = best at isBest ⊢
    cases best with
    | none =>
        refine resolves_input fun _ state member value answers => ?_
        have counted := (ArmyState.answers_iff.mp answers).1
        rw [isBest state member] at counted
        cases counted
    | some best =>
        obtain ⟨position, isLatest⟩ := isBest
        simp only [ArmyState.answersTo_iff] at isLatest
        obtain ⟨value, answers⟩ := isLatest.eligible
        rw [Option.bind_some, (ArmyState.answers_iff.mp answers).2, Option.some_or]
        exact .recorded army isLatest answers
  · rename_i other
    exact resolves_input fun army => absurd army other

end Encounter

/-! ## Options -/

namespace Choice

theorem repeatedValue?_eq_none_iff {seen : List String} {options : List ChoiceOption} :
    repeatedValue? seen options = none ↔
      (∀ option ∈ options, option.value ∉ seen) ∧ (options.map (·.value)).Nodup := by
  induction options generalizing seen with
  | nil => simp [repeatedValue?]
  | cons option options ih =>
      rw [repeatedValue?]
      split
      · rename_i repeated
        simp_all
      · rename_i new
        rw [List.contains_iff_mem] at new
        rw [ih, List.forall_mem_cons, List.map_cons, List.nodup_cons, List.mem_map]
        simp only [List.mem_cons, not_or]
        constructor
        · rintro ⟨fresh, distinct⟩
          refine ⟨⟨new, fun other member => (fresh other member).2⟩, ?_, distinct⟩
          rintro ⟨other, member, same⟩
          exact (fresh other member).1 same
        · rintro ⟨⟨-, fresh⟩, different, distinct⟩
          exact ⟨fun other member => ⟨fun same => different ⟨other, member, same⟩,
            fresh other member⟩, distinct⟩

theorem nodup_of_read {raw : Value} {choice : Choice} (accepted : read raw = .accepted choice) :
    (choice.options.map (·.value)).Nodup := by
  obtain ⟨fields, -, checked⟩ := record_eq_accepted_iff.mp accepted
  have unrepeated := Option.map_eq_none_iff.mp (ensure_eq_accepted_iff.mp checked).2
  exact (repeatedValue?_eq_none_iff.mp unrepeated).2

theorem optionFor?_eq_some_iff {choice : Choice} (distinct : (choice.options.map (·.value)).Nodup)
    {value : String} {option : ChoiceOption} :
    choice.optionFor? value = some option ↔ option ∈ choice.options ∧ option.value = value := by
  constructor
  · intro found
    have same := List.find?_some found
    exact ⟨List.mem_of_find?_eq_some found, beq_iff_eq.mp same⟩
  · rintro ⟨member, rfl⟩
    cases found : choice.optionFor? option.value with
    | none => exact absurd (List.find?_eq_none.mp found option member) (by simp)
    | some other =>
        have same := List.find?_some found
        rw [List.inj_on_of_nodup_map distinct (List.mem_of_find?_eq_some found) member
          (beq_iff_eq.mp same)]

end Choice

theorem Rule.nodup_of_read {raw : Value} {rule : Rule} {choice : Choice}
    (accepted : Rule.read raw = .accepted rule) (body : rule.body = .choice choice) :
    (choice.options.map (·.value)).Nodup := by
  obtain ⟨fields, kind, _, -, -, shape, inner⟩ := tagged_eq_accepted_iff.mp accepted
  clear accepted
  obtain ⟨readBody, shapeBody, rfl⟩ := Option.map_eq_some_iff.mp shape
  simp only [seq_eq_accepted_iff, map_eq_accepted_iff] at inner
  obtain ⟨_, own, inner, acceptedBody, rfl⟩ := inner
  obtain ⟨_, _, inner, -, rfl⟩ := inner
  obtain ⟨_, _, inner, -, rfl⟩ := inner
  obtain ⟨_, _, inner, -, rfl⟩ := inner
  obtain ⟨_, _, inner, -, rfl⟩ := inner
  obtain ⟨_, _, inner, -, rfl⟩ := inner
  obtain ⟨_, _, ⟨_, -, rfl⟩, -, rfl⟩ := inner
  obtain rfl : own = .choice choice := body
  unfold RuleBody.shape? at shapeBody
  split at shapeBody <;> cases shapeBody
  · obtain ⟨_, -, same⟩ := map_eq_accepted_iff.mp acceptedBody
    cases same
  · obtain ⟨_, acceptedChoice, same⟩ := map_eq_accepted_iff.mp acceptedBody
    cases same
    obtain ⟨_, -, read⟩ := required_eq_accepted_iff.mp acceptedChoice
    exact Choice.nodup_of_read read
  · cases acceptedBody

/-! ## Rules with a choice -/

/-- Remarks aside, the evaluation of a rule on a board is that of blocks: it returns the
resolution with what they write, and stops where they stop. -/
structure Rule.Performs (view : View) (rule : Rule) (board noted : Board) (blocks : List Block)
    (resolution : Resolution) : Prop where
  retraced : board.Retraced noted
  returns : ∀ {after}, Returns (Block.evaluateAll view rule.id blocks) noted () after →
    ∃ final, Returns (rule.evaluate view) board resolution final ∧ after.Retraced final
  stops : ∀ {fault stopped}, Stops (Block.evaluateAll view rule.id blocks) noted fault stopped →
    Stops (rule.evaluate view) board fault stopped

/-- The rule returns exactly when its blocks do. -/
theorem Rule.Performs.exists_returns_iff {view : View} {rule : Rule} {board noted : Board}
    {blocks : List Block} {resolution : Resolution}
    (performs : rule.Performs view board noted blocks resolution) :
    (∃ final, Returns (rule.evaluate view) board resolution final) ↔
      Completes (Block.evaluateAll view rule.id blocks) noted := by
  constructor
  · rintro ⟨final, returns⟩
    rcases completes_or_stops (Block.evaluateAll view rule.id blocks) noted with
      completes | ⟨fault, stopped, stops⟩
    · exact completes
    · exact absurd (performs.stops stops) (Completes.not_stops ⟨_, _, returns⟩)
  · rintro ⟨_, after, returns⟩
    obtain ⟨final, evaluated, -⟩ := performs.returns returns
    exact ⟨final, evaluated⟩

/-- A rule whose condition holds performs its blocks and comes to its resolution. -/
theorem Rule.performs_of_holds {view : View} {rule : Rule} {board : Board}
    (holds : (rule.condition.judge view board).outcome = .ok true) :
    ∃ noted, rule.Performs view board noted (rule.blocksFor view) (rule.resolutionFor view) := by
  obtain ⟨met, unmet, eq⟩ := rule.evaluate_eq view
  have judged := Evaluation.returns_holds_iff.mpr ⟨holds, rfl⟩
  refine ⟨board.noteUnknown (rule.condition.judge view board).unknownKinds,
    .noteUnknown _ _, fun {after} performed => ?_, fun stops => ?_⟩
  · refine ⟨after.note "Rule" met, ?_, .note _ _ _⟩
    rw [eq, returns_bind_iff]
    refine ⟨true, _, judged, ?_⟩
    rw [if_pos rfl, returns_bind_iff]
    exact ⟨(), after, performed, Evaluation.returns_noted_iff.mpr ⟨rfl, rfl⟩⟩
  · rw [eq, stops_bind_iff]
    refine .inr ⟨true, _, judged, ?_⟩
    rw [if_pos rfl, stops_bind_iff]
    exact .inl stops

section

variable {view : View} {rule : Rule} {choice : Choice}

/-- With a value that is that of an option, a rule performs the blocks of the option. -/
theorem Rule.performs_option (body : rule.body = .choice choice)
    (distinct : (choice.options.map (·.value)).Nodup) {option : ChoiceOption}
    (member : option ∈ choice.options)
    (value : rule.chosenValue? choice view = some option.value) :
    rule.blocksFor view = option.blocks ∧
      rule.resolutionFor view = ⟨rule, .choiceApplied, some option.value⟩ := by
  have found : rule.optionFor? view = some option := by
    rw [optionFor?, body]
    dsimp only
    rw [value, Option.bind_some]
    exact (Choice.optionFor?_eq_some_iff distinct).mpr ⟨member, rfl⟩
  constructor
  · rw [blocksFor, body]
    simp only [found, Option.map_some, Option.getD_some]
  · rw [resolutionFor, body]
    simp only [found]

/-- With any other value, or none, it performs nothing. -/
theorem Rule.performs_nothing (body : rule.body = .choice choice)
    (different : ∀ option ∈ choice.options, rule.chosenValue? choice view ≠ some option.value) :
    rule.blocksFor view = [] ∧
      rule.resolutionFor view = ⟨rule, .choicePending, rule.chosenValue? choice view⟩ := by
  have none : rule.optionFor? view = none := by
    rw [optionFor?, body]
    dsimp only
    rw [Option.bind_eq_none_iff]
    intro value used
    cases found : choice.optionFor? value with
    | none => rfl
    | some option =>
        have same := List.find?_some found
        rw [← beq_iff_eq.mp same] at used
        exact absurd used (different option (List.mem_of_find?_eq_some found))
  constructor
  · rw [blocksFor, body]
    simp only [none, Option.map_none, Option.getD_none]
  · rw [resolutionFor, body]
    simp only [none]

end

/-- A choice whose condition holds is resolved to one value, or to none.  With the value of an
option the rule performs the blocks of this option and is applied; otherwise it is pending and
writes nothing.

When the weapon's keywords are legible, the choice is applied exactly when no effect that the
blocks of the option reach is open there and broken. -/
theorem Rule.evaluate_choice {raw : Value} {rule : Rule} {choice : Choice}
    (accepted : Rule.read raw = .accepted rule) (body : rule.body = .choice choice)
    (encounter : Encounter) (role : Role) {board : Board}
    (holds : (rule.condition.judge (encounter.view role) board).outcome = .ok true) :
    ∃ value noted, (∀ other, encounter.Resolves role rule choice other ↔ other = value) ∧
      (∀ option ∈ choice.options, value = some option.value →
        rule.Performs (encounter.view role) board noted option.blocks
          ⟨rule, .choiceApplied, value⟩ ∧
        ((encounter.view role).IsLegible →
          ((∃ final, Returns (rule.evaluate (encounter.view role)) board
              ⟨rule, .choiceApplied, value⟩ final) ↔
            ∀ reached found, Block.AllReach (encounter.view role) rule.id reached found
                option.blocks noted →
              reached.opens (encounter.view role) found = .ok true → reached.isBroken = false))) ∧
      ((∀ option ∈ choice.options, value ≠ some option.value) →
        ∃ final, Returns (rule.evaluate (encounter.view role)) board
          ⟨rule, .choicePending, value⟩ final ∧ board.Retraced final) := by
  have resolves := encounter.resolves_chosenValue? role rule choice
  obtain ⟨noted, performs⟩ := Rule.performs_of_holds holds
  refine ⟨rule.chosenValue? choice (encounter.view role), noted,
    fun other => ⟨fun again => again.unique resolves, fun same => same ▸ resolves⟩,
    fun option member value => ?_, fun different => ?_⟩
  · obtain ⟨blocks, resolution⟩ :=
      Rule.performs_option body (Rule.nodup_of_read accepted body) member value
    rw [blocks, resolution] at performs
    rw [value]
    refine ⟨performs, fun legible => ?_⟩
    rw [performs.exists_returns_iff]
    exact Block.completes_evaluateAll_iff legible _ _
  · obtain ⟨blocks, resolution⟩ := Rule.performs_nothing body different
    rw [blocks, resolution] at performs
    obtain ⟨final, returns, retraced⟩ := performs.returns rfl
    exact ⟨final, returns, performs.retraced.trans retraced⟩

/-- An army chooses between two doctrines, the first of which grants a bonus to hit. -/
def battleDoctrine : Value :=
  .object [("kind", .text "choice"), ("id", .text "battle-doctrine"),
    ("name", .text "Battle doctrine"), ("scope", .text "army"),
    ("choice", .object [("id", .text "doctrine"), ("prompt", .text "Which doctrine?"),
      ("options", .list [
        .object [("v", .text "assault"), ("label", .text "Assault"),
          ("then", .list [.object [("t", .text "do"),
            ("fx", .list [.object [("t", .text "modHit"), ("add", .int 1)]])]])],
        .object [("v", .text "siege"), ("label", .text "Siege")]])])]

/-- An attack in the third turn, with answers to the choice of a doctrine: two of the second
turn, an empty one, one that has expired, one of the next turn, and one of another army. -/
def thirdTurn : Encounter where
  attacker := { id := "hunters", armyId := "wolves" }
  defender := { id := "boyz", armyId := "orks" }
  weapon := { name := "Boltgun", range := 24 }
  game := { currentTurn := 3 }
  circumstances := { userInputs := [("doctrine", "siege")] }
  armyStates := [
    ⟨"a", "wolves", "doctrine", 2, some "siege", none, none, none⟩,
    ⟨"b", "wolves", "doctrine", 2, some "assault", none, none, none⟩,
    ⟨"c", "wolves", "doctrine", 3, some "", none, none, none⟩,
    ⟨"d", "wolves", "doctrine", 3, some "siege", none, some .command, none⟩,
    ⟨"e", "wolves", "doctrine", 4, some "siege", none, none, none⟩,
    ⟨"f", "orks", "doctrine", 3, some "siege", none, none, none⟩]

theorem chosenValue?_thirdTurn {rule : Rule} {choice : Choice} (army : rule.scope = .army)
    (id : choice.id = "doctrine") :
    rule.chosenValue? choice (thirdTurn.view .attacker) = some "assault" := by
  have answer : ArmyState.findAnswer? (thirdTurn.view .attacker).armyStates "doctrine" =
      some "assault" := by decide
  rw [Rule.chosenValue?, if_pos army, id, answer, Option.some_or]

/-- The doctrine that it names is applied, and grants its bonus. -/
theorem battleDoctrine_is_assault : ∃ rule choice final,
    Rule.read battleDoctrine = .accepted rule ∧ rule.body = .choice choice ∧
    thirdTurn.Resolves .attacker rule choice (some "assault") ∧
    Returns (rule.evaluate (thirdTurn.view .attacker)) {} ⟨rule, .choiceApplied, some "assault"⟩
      final ∧
    final.ledger.stats = ["hit"] := by
  obtain ⟨rule, choice, option, accepted, body, army, always, id, member, named, blocks⟩ :
      ∃ rule choice option, Rule.read battleDoctrine = .accepted rule ∧
        rule.body = .choice choice ∧ rule.scope = .army ∧ rule.condition = .always ∧
        choice.id = "doctrine" ∧ option ∈ choice.options ∧
        option.value = "assault" ∧ option.blocks = [.perform [.known (.modHit 1) .all []]] :=
    ⟨_, _, _, rfl, rfl, rfl, rfl, rfl, List.mem_cons_self .., rfl, rfl⟩
  have holds : (rule.condition.judge (thirdTurn.view .attacker) {}).outcome = .ok true := by
    rw [always]
    rfl
  obtain ⟨value, noted, resolves, applied, -⟩ :=
    Rule.evaluate_choice accepted body thirdTurn .attacker holds
  have used := (resolves _).mp (thirdTurn.resolves_chosenValue? .attacker rule choice)
  rw [chosenValue?_thirdTurn army id] at used
  obtain ⟨performs, -⟩ := applied option member (by rw [← used, named])
  rw [← used, blocks] at performs
  obtain ⟨trace, rfl⟩ := performs.retraced
  have ran : Returns (Block.evaluateAll (thirdTurn.view .attacker) rule.id
      [.perform [.known (.modHit 1) .all []]]) { trace } ()
      ((Action.modHit 1).writtenOn (thirdTurn.view .attacker) rule.id { trace }) := by
    have isOpen : (Effect.known (.modHit 1) .all []).opens (thirdTurn.view .attacker)
        { trace } = .ok true := rfl
    have whole : (Action.modHit 1).isBroken = false := by decide +kernel
    simp only [Block.evaluateAll, Block.evaluate, applyEffects, returns_bind_iff,
      returns_pure_iff]
    exact ⟨(), _, ⟨true, _, Effect.returns_apply_of_opens isOpen whole, trivial, rfl⟩,
      trivial, rfl⟩
  obtain ⟨final, returns, retraced⟩ := performs.returns ran
  refine ⟨rule, choice, final, accepted, body, (resolves _).mpr used, returns, ?_⟩
  obtain ⟨_, rfl⟩ := retraced
  rfl

/-- The same choice, but its doctrine grants a keyword under a name that no grant may have. -/
def huntingDoctrine : Value :=
  .object [("kind", .text "choice"), ("id", .text "hunting-doctrine"),
    ("name", .text "Hunting doctrine"), ("scope", .text "army"),
    ("choice", .object [("id", .text "doctrine"), ("prompt", .text "Which doctrine?"),
      ("options", .list [
        .object [("v", .text "assault"), ("label", .text "Assault"),
          ("then", .list [.object [("t", .text "do"),
            ("fx", .list [.object [("t", .text "addKeyword"),
              ("keyword", .text "Anti-Vehicle 4+")]])]])]])])]

/-- The rule passes the schema, its condition holds, and the answer is the value of its option,
but the choice is not applied: the evaluation stops. -/
theorem huntingDoctrine_stops : ∃ rule choice option,
    Rule.read huntingDoctrine = .accepted rule ∧ rule.body = .choice choice ∧
    rule.scope = .army ∧
    (rule.condition.judge (thirdTurn.view .attacker) {}).outcome = .ok true ∧
    thirdTurn.Resolves .attacker rule choice (some "assault") ∧
    option ∈ choice.options ∧ option.value = "assault" ∧
    ¬ Completes (rule.evaluate (thirdTurn.view .attacker)) {} := by
  obtain ⟨rule, choice, option, accepted, body, army, always, id, member, named, blocks⟩ :
      ∃ rule choice option, Rule.read huntingDoctrine = .accepted rule ∧
        rule.body = .choice choice ∧ rule.scope = .army ∧ rule.condition = .always ∧
        choice.id = "doctrine" ∧ option ∈ choice.options ∧ option.value = "assault" ∧
        option.blocks = [.perform [.known (.addKeyword "Anti-Vehicle 4+" 0) .all []]] :=
    ⟨_, _, _, rfl, rfl, rfl, rfl, rfl, List.mem_cons_self .., rfl, rfl⟩
  have chosen := chosenValue?_thirdTurn army id
  have holds : (rule.condition.judge (thirdTurn.view .attacker) {}).outcome = .ok true := by
    rw [always]
    rfl
  have legible : (thirdTurn.view .attacker).IsLegible := ⟨{}, rfl⟩
  refine ⟨rule, choice, option, accepted, body, army, holds,
    chosen ▸ thirdTurn.resolves_chosenValue? .attacker rule choice, member, named, fun completes => ?_⟩
  have performed : rule.blocksFor (thirdTurn.view .attacker) = option.blocks :=
    (Rule.performs_option body (Rule.nodup_of_read accepted body) member
      (by rw [chosen, named])).1
  have reached : rule.Reaches (thirdTurn.view .attacker) {}
      (.known (.addKeyword "Anti-Vehicle 4+" 0) .all [])
      (({} : Board).noteUnknown
        (rule.condition.judge (thirdTurn.view .attacker) {}).unknownKinds) := by
    refine ⟨_, Evaluation.returns_holds_iff.mpr ⟨holds, rfl⟩, ?_⟩
    rw [performed, blocks]
    exact .inl (.inl ⟨rfl, rfl⟩)
  have sound := (rule.completes_iff_unbroken legible _).mp completes _ _ reached rfl
  exact absurd sound (by decide)

end Skirmish
