import Skirmish.Content.Inspection
import Skirmish.Proofs.Dice.Foreign

/-!
# The check of dice in content

The check of a dice field reads its text as an expression and then looks for digits of
other scripts, in dice as well as in whole numbers.  It does not look at what the digits
spell.  So it passes dice without sides, which cannot be rolled, and it finds fault with
dice that are written in another script, which can.
-/

namespace Skirmish

open DiceExpression

/-- A probe has the digits of its text, besides the ones in the places of the letters. -/
theorem isPlain_diceProbe (text : String) : isPlain (diceProbe text) = isPlain text.toList := by
  have kept : ∀ c, isForeignDigit (if isDiceLetter c then '1' else c) = isForeignDigit c := by
    intro c
    split
    · rename_i letter
      simp only [isDiceLetter, Bool.or_eq_true, beq_iff_eq] at letter
      rcases letter with rfl | rfl <;> decide
    · rfl
  unfold diceProbe isPlain
  induction text.toList with
  | nil => rfl
  | cons c rest ih =>
      rw [List.all_cons, ← ih, List.filter_cons]
      by_cases space : c = ' '
      · subst space
        rfl
      · rw [if_pos (bne_iff_ne.mpr space), List.map_cons, List.all_cons, kept]

/-- Nothing is found in a dice field exactly when it is an expression in common digits. -/
theorem diceFinding?_eq_none_iff (file : Path) (field text : String) :
    diceFinding? file field (.text text) = none ↔ ∃ expression,
      read? text = some expression ∧ expression.PlainConstants ∧ expression.PlainDice := by
  unfold diceFinding? isDiceText
  dsimp only
  cases read : read? text with
  | none => simp
  | some expression =>
      simp only [Option.isSome_some, if_true, Option.map_eq_none_iff,
        foreignDigitAt?_eq_none_iff, isPlain_diceProbe, isPlain_toList_iff read,
        Option.some.injEq, exists_eq_left']

/-- The check agrees with rolling exactly when the text is no expression, when one of its
whole numbers is written in another script, or else when its dice are written in common
digits just if they can be rolled and summed up whatever they show. -/
theorem diceFinding?_agrees_iff (file : Path) (field text : String) :
    (diceFinding? file field (.text text) = none ↔ AlwaysRolls text) ↔
      ∀ expression, read? text = some expression → expression.PlainConstants →
        (expression.PlainDice ↔
          (∀ signed ∈ expression.terms, signed.term.isRollable = true) ∧
            expression.AlwaysSums) := by
  rw [diceFinding?_eq_none_iff]
  cases read : read? text with
  | none => simp [alwaysRolls_iff, read]
  | some expression =>
      rw [alwaysRolls_iff_of_read read]
      simp only [Option.some.injEq, exists_eq_left', forall_eq']
      exact and_congr_right_iff

/-- A die without sides passes the check and cannot be rolled.  A die whose three sides are
written in Arabic does not pass, and can be rolled. -/
theorem diceFinding?_disagrees :
    (diceFinding? ⟨["scenarios", "a.json"]⟩ "weapon.A" (.text "d0") = none ∧
      ¬ AlwaysRolls "d0") ∧
    diceFinding? ⟨["scenarios", "a.json"]⟩ "weapon.A" (.text "d\u0663") ≠ none ∧
      AlwaysRolls "d\u0663" := by
  have read : read? "d0" = some ⟨[.term (.dice [] 'd' ['0'])], [⟨false, .dice [] 'd' ['0']⟩]⟩ := by
    decide +kernel
  have readArabic : read? "d\u0663" = some ⟨[.term (.dice [] 'd' ['\u0663'])],
      [⟨false, .dice [] 'd' ['\u0663']⟩]⟩ := by
    decide +kernel
  refine ⟨⟨by decide +kernel, ?_⟩, by decide +kernel, ?_⟩
  · rw [alwaysRolls_iff_of_read read]
    rintro ⟨-, rollable, -⟩
    have sided := rollable _ (List.mem_singleton.mpr rfl)
    exact absurd sided (by decide +kernel)
  · rw [alwaysRolls_iff_of_read readArabic]
    refine ⟨by unfold PlainConstants; decide +kernel, by decide +kernel, ?_⟩
    exact alwaysSums_of_short (by decide +kernel)

end Skirmish
