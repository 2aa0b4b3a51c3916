import Skirmish.Proofs.Dice.Outcomes
import Skirmish.Proofs.Dice.Exact

/-!
# The mean of an expression

The mean of an expression is the average of what its roll comes to over all outcomes of its
dice, and it lies midway between the least and the greatest number that the roll can come
to.  This holds as long as the dice can be begun and no floating number on the way is
rounded.

A die can be begun when its numerals have no more digits than a numeral may have.  Zeros in
front count as digits, so a die with six sides may have no mean.
-/

namespace Skirmish

open Binary64 (Representable)

/-! ## Exact floating numbers -/

namespace Term

/-- The digits of a constant are common ones. -/
def HasCommonDigits : Term → Prop
  | .constant digits => ∀ c ∈ digits, Text.isCommonDigit c = true
  | .dice .. => True

/-- The value of the term is a floating number, whatever its dice show: it is a constant
that is too long to be an integer. -/
def hasFloatValue : Term → Bool
  | .constant digits => Text.isOversized digits
  | .dice .. => false

/-- The mean of the term is a floating number.  That of dice always is. -/
def hasFloatMean (term : Term) : Bool :=
  term.isDice || term.hasFloatValue

end Term

namespace SignedTerm

/-- What the term adds to the sum of the means. -/
def meanSummand (signed : SignedTerm) : Bool × ℚ :=
  (signed.term.hasFloatMean, signed.exactMean)

/-- What the term adds to the sum of an outcome. -/
def summand (signed : SignedTerm) (faces : List Nat) : Bool × ℚ :=
  (signed.term.hasFloatValue, (signed.worth faces : ℚ))

theorem cast_worth (signed : SignedTerm) (faces : List Nat) :
    (signed.worth faces : ℚ) = signedBy signed.negative (signed.term.worth faces) := by
  unfold worth signedBy
  split <;> push_cast <;> rfl

end SignedTerm

/-- No floating number that comes up is rounded, neither in the sum of the means nor in the
sum of an outcome. -/
structure HasExactFloats (terms : List SignedTerm) : Prop where
  means : AddsExactly false 0 (terms.map SignedTerm.meanSummand)
  mean : Representable (terms.map SignedTerm.exactMean).sum
  sums : ∀ rolls, TermsMayFall terms rolls →
    AddsExactly false 0 (List.zipWith SignedTerm.summand terms rolls)

theorem isFloat_constantNumber (digits : List Char) :
    (constantNumber digits).isFloat = Text.isOversized digits := by
  unfold constantNumber
  split
  · rename_i oversized
    rw [oversized]
    rfl
  · rename_i short
    rw [Bool.eq_false_iff.mpr short]
    rfl

namespace Term

variable {term : Term}

/-- The mean of a term that can be begun is its exact mean, if a floating number can be. -/
theorem mean_is (stands : term.Stands) (common : term.HasCommonDigits)
    (representable : term.hasFloatMean = true → Representable term.exactMean) :
    ∃ mean, term.mean = .ok mean ∧ mean.isFloat = term.hasFloatMean ∧ mean.Is term.exactMean := by
  cases term with
  | constant digits =>
      exact ⟨_, rfl, isFloat_constantNumber digits, constantNumber_is common representable⟩
  | dice count letter sides =>
      have counted := diceCount_eq_ok_iff.mpr ⟨stands.1, rfl⟩
      have sized := readNumeral_eq_ok_iff.mpr ⟨stands.2.1, rfl⟩
      have exact := representable rfl
      have product : exactMean (.dice count letter sides) =
          (((if count.isEmpty then 1 else Text.numeral count) *
            (Text.numeral sides + 1) : Nat) : ℚ) / 2 := by
        rw [exactMean]
        push_cast
        rfl
      rw [product] at exact ⊢
      obtain ⟨x, halved, is⟩ := Binary64.ofHalves?_is exact
      refine ⟨.float x, ?_, rfl, is⟩
      rw [mean, counted, sized]
      simp only [bind, Except.bind, halved]
      rfl

theorem value_is (common : term.HasCommonDigits) {faces : List Nat}
    (representable : term.hasFloatValue = true → Representable (term.worth faces)) :
    (term.value faces).isFloat = term.hasFloatValue ∧ (term.value faces).Is (term.worth faces) := by
  cases term with
  | constant digits =>
      exact ⟨isFloat_constantNumber digits, constantNumber_is common representable⟩
  | dice count letter sides => exact ⟨rfl, rfl⟩

end Term

/-! ## Sums of terms -/

theorem isSummand_of_is {negative : Bool} {number : Number} {value : ℚ} {isFloat : Bool}
    (same : number.isFloat = isFloat) (is : number.Is value) :
    IsSummand (negative, number) (isFloat, signedBy negative value) := by
  refine ⟨same, ?_⟩
  cases negative
  · exact is
  · exact is.neg

section

variable {terms : List SignedTerm}

/-- Terms that can be begun have means, one for each, which are the summands of the mean. -/
theorem exists_means (stand : ∀ signed ∈ terms, signed.term.Stands)
    (common : ∀ signed ∈ terms, signed.term.HasCommonDigits)
    (representable : ∀ summand ∈ terms.map SignedTerm.meanSummand,
      summand.1 = true → Representable summand.2) :
    ∃ means, (terms.mapM fun signed => signed.term.mean) = .ok means ∧
      means.length = terms.length ∧
      List.Forall₂ IsSummand ((terms.map (·.negative)).zip means)
        (terms.map SignedTerm.meanSummand) := by
  induction terms with
  | nil => exact ⟨[], rfl, rfl, .nil⟩
  | cons signed terms ih =>
      obtain ⟨standsHere, standThere⟩ := List.forall_mem_cons.mp stand
      obtain ⟨commonHere, commonThere⟩ := List.forall_mem_cons.mp common
      obtain ⟨exactHere, exactThere⟩ := List.forall_mem_cons.mp representable
      obtain ⟨mean, found, same, is⟩ := Term.mean_is standsHere commonHere fun float =>
        Binary64.representable_signedBy.mp (exactHere float)
      obtain ⟨means, others, paired, are⟩ := ih standThere commonThere exactThere
      refine ⟨mean :: means, ?_, by rw [List.length_cons, List.length_cons, paired],
        .cons (isSummand_of_is same is) are⟩
      rw [mapM_eq_ok_iff] at others ⊢
      exact .cons found others

theorem areSummands_valuesOf {rolls : List (List Nat)} (may : TermsMayFall terms rolls)
    (common : ∀ signed ∈ terms, signed.term.HasCommonDigits)
    (representable : ∀ summand ∈ List.zipWith SignedTerm.summand terms rolls,
      summand.1 = true → Representable summand.2) :
    List.Forall₂ IsSummand ((terms.map (·.negative)).zip (valuesOf terms rolls))
      (List.zipWith SignedTerm.summand terms rolls) := by
  induction may with
  | nil => exact .nil
  | @cons signed faces terms rolls _ _ ih =>
      obtain ⟨commonHere, commonThere⟩ := List.forall_mem_cons.mp common
      rw [List.zipWith_cons_cons] at representable
      obtain ⟨exactHere, exactThere⟩ := List.forall_mem_cons.mp representable
      rw [SignedTerm.summand, SignedTerm.cast_worth, Binary64.representable_signedBy] at exactHere
      obtain ⟨same, is⟩ := Term.value_is commonHere exactHere
      refine .cons ?_ (ih commonThere exactThere)
      rw [SignedTerm.summand, SignedTerm.cast_worth]
      exact isSummand_of_is same is

/-- The highest total of a term can be written when its mean is a floating number. -/
theorem Term.sum_dieSizes_lt {term : Term}
    (representable : term.hasFloatMean = true → Representable term.exactMean) :
    term.dieSizes.sum < Text.numeralBound := by
  cases term with
  | constant digits => exact numeralBound_pos
  | dice count letter sides =>
      have small := lt_of_abs_lt (representable rfl).lt
      have midway := (dice count letter sides).worth_ones_add_worth_dieSizes
      rw [worth, worth] at midway
      have below : ((dice count letter sides).dieSizes.sum : ℚ) < 2 * 2 ^ 1024 :=
        calc ((dice count letter sides).dieSizes.sum : ℚ)
            ≤ (dice count letter sides).ones.sum + (dice count letter sides).dieSizes.sum :=
              le_add_of_nonneg_left (Nat.cast_nonneg _)
          _ = 2 * exactMean (.dice count letter sides) := midway
          _ < 2 * 2 ^ 1024 := mul_lt_mul_of_pos_left small two_pos
      rw [← pow_succ'] at below
      have fits : 1025 ≤ 3 * Text.numeralLimit := by decide
      unfold Text.numeralBound
      generalize Text.numeralLimit = limit at fits ⊢
      exact lt_ten_pow below fits

theorem areSmall_of_exact (representable : ∀ summand ∈ terms.map SignedTerm.meanSummand,
      summand.1 = true → Representable summand.2)
    {rolls : List (List Nat)} (may : TermsMayFall terms rolls) : AreSmall rolls := by
  induction may with
  | nil => exact fun faces member => (List.not_mem_nil member).elim
  | cons first _ ih =>
      obtain ⟨here, there⟩ := List.forall_mem_cons.mp representable
      refine List.forall_mem_cons.mpr ⟨?_, ih there⟩
      exact first.sum_le.trans_lt
        (Term.sum_dieSizes_lt fun float => Binary64.representable_signedBy.mp (here float))

theorem sum_summands (terms : List SignedTerm) (rolls : List (List Nat)) :
    ((List.zipWith SignedTerm.summand terms rolls).map Prod.snd).sum =
      (worthOf terms rolls : ℚ) := by
  have cast := map_list_sum (Int.castRingHom ℚ) (List.zipWith SignedTerm.worth terms rolls)
  rw [List.map_zipWith] at cast
  rw [List.map_zipWith]
  exact cast.symm

theorem hasCommonDigits_of_spells {text : String} (spells : Spells text.toList terms)
    (ascii : ∀ c ∈ text.toList, c.toNat < 128) :
    ∀ signed ∈ terms, signed.term.HasCommonDigits := by
  obtain ⟨expression, read, rfl⟩ := exists_read?_iff.mpr spells
  have plain := ((DiceExpression.isPlain_toList_iff read).mp (isPlain_of_ascii ascii)).1
  have begun : PartialTerm.nothing.IsWritten := trivial
  have written := isWritten_of_piecesFrom? begun (DiceExpression.read?_eq_some_iff.mp read).1
  intro signed member
  have own := written _ ((DiceExpression.mem_pieces_iff read).mpr ⟨signed, member, rfl⟩)
  have plainOwn := plain signed member
  cases term : signed.term with
  | dice count letter sides => trivial
  | constant digits =>
      rw [term] at own plainOwn
      intro c inDigits
      have digit : Text.isDigit c = true := own.digit c inDigits
      have notForeign := List.all_eq_true.mp plainOwn c inDigits
      simpa [DiceExpression.isForeignDigit, digit] using notForeign

end

/-! ## Small numbers -/

theorem addsExactly_of_ints {summands : List (Bool × ℚ)}
    (ints : ∀ summand ∈ summands, summand.1 = false) (sum : ℚ) :
    AddsExactly false sum summands := by
  induction summands generalizing sum with
  | nil => trivial
  | cons summand rest ih =>
      obtain ⟨here, there⟩ := List.forall_mem_cons.mp ints
      rw [AddsExactly, here, Bool.or_false]
      exact ⟨(fun floating => nomatch floating), ih there _⟩

/-- The least and the most that a term is worth together. -/
def Term.span (term : Term) : Nat :=
  term.worth term.ones + term.worth term.dieSizes

theorem SignedTerm.exists_exactMean_eq (signed : SignedTerm) :
    ∃ n : Int, signed.exactMean = (n : ℚ) / 2 ∧ n.natAbs = signed.term.span := by
  refine ⟨signed.worth signed.leastFaces + signed.worth signed.mostFaces, ?_, ?_⟩
  · have midway := signed.worth_leastFaces_add_worth_mostFaces
    push_cast
    linarith
  · unfold worth leastFaces mostFaces Term.span
    cases signed.negative with
    | true =>
        simp only [if_true]
        omega
    | false =>
        simp only [Bool.false_eq_true, if_false]
        omega

/-- Means are added exactly to a half of an integer, while twice the sum stays below the
first integer that may be rounded. -/
theorem addsExactly_means {terms : List SignedTerm} {n : Int}
    (small : n.natAbs + (terms.map fun signed => signed.term.span).sum < 2 ^ 53)
    (floating : Bool) :
    AddsExactly floating ((n : ℚ) / 2) (terms.map SignedTerm.meanSummand) ∧
      Representable ((n : ℚ) / 2 + (terms.map SignedTerm.exactMean).sum) := by
  induction terms generalizing n floating with
  | nil =>
      refine ⟨trivial, ?_⟩
      rw [List.map_nil, List.sum_nil, add_zero]
      exact Binary64.representable_half (by simpa using small)
  | cons signed terms ih =>
      obtain ⟨own, half, magnitude⟩ := signed.exists_exactMean_eq
      rw [List.map_cons, List.sum_cons, ← magnitude] at small
      have sum : (n : ℚ) / 2 + signed.exactMean = ((n + own : Int) : ℚ) / 2 := by
        rw [half]
        push_cast
        ring
      have smallSum : (n + own).natAbs + (terms.map fun signed => signed.term.span).sum < 2 ^ 53 := by
        have triangle := Int.natAbs_add_le n own
        omega
      obtain ⟨others, total⟩ := ih smallSum (floating || signed.term.hasFloatMean)
      rw [← sum] at others total
      refine ⟨⟨fun _ => ⟨?_, ?_, ?_⟩, others⟩, ?_⟩
      · exact Binary64.representable_half (by omega)
      · exact half ▸ Binary64.representable_half (by omega)
      · exact sum ▸ Binary64.representable_half (by omega)
      · rwa [List.map_cons, List.sum_cons, ← add_assoc]

/-- Terms without long constants are added exactly as long as the least and the most that
they are worth together stay below the first integer that may be rounded. -/
theorem hasExactFloats_of_small {terms : List SignedTerm}
    (short : ∀ signed ∈ terms, signed.term.hasFloatValue = false)
    (small : (terms.map fun signed => signed.term.span).sum < 2 ^ 53) :
    HasExactFloats terms := by
  obtain ⟨means, mean⟩ := @addsExactly_means terms 0 (by simpa using small) false
  rw [Int.cast_zero, zero_div] at means mean
  refine ⟨means, by rwa [zero_add] at mean, fun rolls _ => addsExactly_of_ints ?_ 0⟩
  intro summand member
  rw [← List.map_uncurry_zip_eq_zipWith] at member
  obtain ⟨⟨signed, faces⟩, paired, rfl⟩ := List.mem_map.mp member
  exact short signed (List.of_mem_zip paired).1

/-! ## Rolls and means of texts -/

section

variable {text : String} {terms : List SignedTerm}

/-- An expression without rounded numbers returns what its terms are worth together on the
faces that its dice show. -/
theorem returns_rollText_iff_of_exact (spells : Spells text.toList terms)
    (ascii : ∀ c ∈ text.toList, c.toNat < 128) (stand : ∀ signed ∈ terms, signed.term.Stands)
    (exact : HasExactFloats terms) {σ : Type} [DiceSource σ] {table final : Table σ} {n : Int} :
    Returns (rollText text) table n final ↔
      ∃ rolls dice, TermsShow table.dice terms rolls dice ∧ n = worthOf terms rolls ∧
        final = table.showing rolls.flatten dice := by
  have common := hasCommonDigits_of_spells spells ascii
  obtain ⟨expression, read, rfl⟩ := exists_read?_iff.mpr spells
  have plain := ((DiceExpression.isPlain_toList_iff read).mp (isPlain_of_ascii ascii)).1
  -- The values of the terms have a sum, and it is what the terms are worth.
  have summed {rolls : List (List Nat)} (may : TermsMayFall expression.terms rolls) :
      ∃ total, sumOf? expression.terms rolls = some total ∧
        wholeTotal total = .ok (worthOf expression.terms rolls) := by
    have exactSum := exact.sums rolls may
    obtain ⟨total, sum, is⟩ := exists_total?_is
      (areSummands_valuesOf may common exactSum.representable) exactSum
    rw [sum_summands] at is
    exact ⟨total, sum, wholeTotal_is is⟩
  rw [returns_rollText_iff]
  constructor
  · rintro ⟨again, values, total, readAgain, rolled, settled, whole⟩
    obtain rfl := Option.some.inj (read.symm.trans readAgain)
    have sum := ((DiceExpression.settled_eq_ok_iff read
      (mayShow_of_returns_mapM rolled)).mp settled).2
    obtain ⟨-, rolls, dice, shows, -, rfl, rfl⟩ := returns_mapM_roll_iff.mp rolled
    obtain ⟨_, found, wholeFound⟩ := summed (shows.mayFall stand)
    cases sum.symm.trans found
    cases whole.symm.trans wholeFound
    exact ⟨rolls, dice, shows, rfl, rfl⟩
  · rintro ⟨rolls, dice, shows, rfl, rfl⟩
    have may := shows.mayFall stand
    obtain ⟨total, sum, whole⟩ := summed may
    have small := areSmall_of_exact exact.means.representable may
    have rolled : Returns (expression.terms.mapM fun signed => signed.term.roll text) table
        (valuesOf expression.terms rolls) (table.showing rolls.flatten dice) :=
      returns_mapM_roll_iff.mpr ⟨stand, rolls, dice, shows, small, rfl, rfl⟩
    exact ⟨expression, _, total, read, rolled, (DiceExpression.settled_eq_ok_iff read
      (mayShow_of_returns_mapM rolled)).mpr ⟨plain, sum⟩, whole⟩

/-- The number may be what the roll of the text comes to, with some dice. -/
def MayRoll (text : String) (n : Int) : Prop :=
  ∃ (σ : Type) (_ : DiceSource σ) (table final : Table σ), Returns (rollText text) table n final

theorem mayRoll_iff_of_exact (spells : Spells text.toList terms)
    (ascii : ∀ c ∈ text.toList, c.toNat < 128) (stand : ∀ signed ∈ terms, signed.term.Stands)
    (exact : HasExactFloats terms) {n : Int} :
    MayRoll text n ↔ ∃ rolls, TermsMayFall terms rolls ∧ n = worthOf terms rolls := by
  constructor
  · rintro ⟨σ, _, table, final, returns⟩
    obtain ⟨rolls, dice, shows, worth, -⟩ :=
      (returns_rollText_iff_of_exact spells ascii stand exact).mp returns
    exact ⟨rolls, shows.mayFall stand, worth⟩
  · rintro ⟨rolls, may, worth⟩
    exact ⟨Faces, inferInstance, { dice := ⟨rolls.flatten ++ []⟩ }, _,
      (returns_rollText_iff_of_exact spells ascii stand exact).mpr
        ⟨rolls, _, Faces.termsShow may [], worth, rfl⟩⟩

/-- The mean of an expression without rounded numbers is the sum of the means of its terms. -/
theorem meanOfText_is (spells : Spells text.toList terms)
    (ascii : ∀ c ∈ text.toList, c.toNat < 128) (stand : ∀ signed ∈ terms, signed.term.Stands)
    (exact : HasExactFloats terms) :
    ∃ mean, meanOfText text = .ok mean ∧ mean.Is (terms.map SignedTerm.exactMean).sum := by
  have common := hasCommonDigits_of_spells spells ascii
  obtain ⟨expression, read, rfl⟩ := exists_read?_iff.mpr spells
  have plain := ((DiceExpression.isPlain_toList_iff read).mp (isPlain_of_ascii ascii)).1
  obtain ⟨means, found, paired, are⟩ := exists_means stand common exact.means.representable
  obtain ⟨total, sum, is⟩ := exists_total?_is are exact.means
  have settled := (DiceExpression.settled_eq_ok_iff_of_length read paired).mpr ⟨plain, sum⟩
  rw [List.map_map] at is
  obtain ⟨mean, converted, isMean⟩ := is.toFloat? exact.mean
  refine ⟨mean, ?_, isMean⟩
  rw [meanOfText, read]
  simp only [found, settled, converted]

/-- The mean of an expression is the average of what its roll comes to over all outcomes of
its dice, midway between the least and the greatest number that the roll may come to.  The
dice must have a side and numerals that are not too long, and no floating number may be
rounded. -/
theorem meanOfText_is_average_of_rollText (spells : Spells text.toList terms)
    (ascii : ∀ c ∈ text.toList, c.toNat < 128) (stand : ∀ signed ∈ terms, signed.term.Stands)
    (exact : HasExactFloats terms) :
    (outcomes terms).Nodup ∧ (∀ rolls, rolls ∈ outcomes terms ↔ TermsMayFall terms rolls) ∧
      (∀ (σ : Type) [DiceSource σ] (table : Table σ) (rolls : List (List Nat)) (dice : σ),
        TermsShow table.dice terms rolls dice →
          Returns (rollText text) table (worthOf terms rolls)
            (table.showing rolls.flatten dice)) ∧
      ∃ mean least greatest, meanOfText text = .ok mean ∧
        mean.Is (average (fun rolls => (worthOf terms rolls : ℚ)) (outcomes terms)) ∧
        IsLeast {n | MayRoll text n} least ∧ IsGreatest {n | MayRoll text n} greatest ∧
        average (fun rolls => (worthOf terms rolls : ℚ)) (outcomes terms) =
          ((least : ℚ) + greatest) / 2 := by
  refine ⟨nodup_outcomes terms, fun rolls => mem_outcomes_iff, ?_, ?_⟩
  · intro σ _ table rolls dice shows
    exact (returns_rollText_iff_of_exact spells ascii stand exact).mpr
      ⟨rolls, dice, shows, rfl, rfl⟩
  · have mayRoll {n : Int} := @mayRoll_iff_of_exact _ _ spells ascii stand exact n
    obtain ⟨mean, found, is⟩ := meanOfText_is spells ascii stand exact
    rw [average_worthOf stand]
    refine ⟨mean, worthOf terms (terms.map SignedTerm.leastFaces),
      worthOf terms (terms.map SignedTerm.mostFaces), found, is, ⟨?_, ?_⟩, ⟨?_, ?_⟩, ?_⟩
    · exact mayRoll.mpr ⟨_, termsMayFall_map fun signed member =>
        SignedTerm.mayFall_leastFaces (stand signed member), rfl⟩
    · intro n rolled
      obtain ⟨rolls, may, rfl⟩ := mayRoll.mp rolled
      exact (worthOf_range may).1
    · exact mayRoll.mpr ⟨_, termsMayFall_map fun signed member =>
        SignedTerm.mayFall_mostFaces (stand signed member), rfl⟩
    · intro n rolled
      obtain ⟨rolls, may, rfl⟩ := mayRoll.mp rolled
      exact (worthOf_range may).2
    · rw [worthOf_least_add_worthOf_most]
      ring

end

/-- The terms of four less a die with three sides. -/
def fourLessDie : List SignedTerm :=
  [⟨false, .constant ['4']⟩, ⟨true, .dice [] 'd' ['3']⟩]

/-- Four less a die with three sides has a mean of two. -/
theorem fourLessDie_has_mean :
    Spells "4-d3".toList fourLessDie ∧
      ∃ mean least greatest, meanOfText "4-d3" = .ok mean ∧ mean.Is 2 ∧
        IsLeast {n | MayRoll "4-d3" n} least ∧ IsGreatest {n | MayRoll "4-d3" n} greatest ∧
        (2 : ℚ) = ((least : ℚ) + greatest) / 2 := by
  have read : DiceExpression.read? "4-d3" =
      some ⟨[.term (.constant ['4']), .sign true, .term (.dice [] 'd' ['3'])], fourLessDie⟩ := by
    decide
  have spells := exists_read?_iff.mp ⟨_, read, rfl⟩
  have ascii : ∀ c ∈ "4-d3".toList, c.toNat < 128 := by simp
  have stand : ∀ signed ∈ fourLessDie, signed.term.Stands := by decide
  have exact : HasExactFloats fourLessDie := hasExactFloats_of_small (by decide) (by decide)
  obtain ⟨-, -, -, mean, least, greatest, found, is, isLeast, isGreatest, midway⟩ :=
    meanOfText_is_average_of_rollText spells ascii stand exact
  have average : average (fun rolls => (worthOf fourLessDie rolls : ℚ)) (outcomes fourLessDie) =
      2 := by
    have listed : outcomes fourLessDie = [[[], [1]], [[], [2]], [[], [3]]] := by decide
    have worth : worthOf fourLessDie [[], [1]] = 3 ∧ worthOf fourLessDie [[], [2]] = 2 ∧
        worthOf fourLessDie [[], [3]] = 1 := by decide
    rw [average, listed]
    norm_num [worth]
  rw [average] at is midway
  exact ⟨spells, mean, least, greatest, found, is, isLeast, isGreatest, midway⟩

/-! ## Zeros in front of a die -/

theorem spells_of_isWritten {term : Term} (written : term.IsWritten) :
    Spells term.chars [⟨false, term⟩] := by
  have blank : AreBlank [] := fun _ member => nomatch member
  have spells := Spells.unsigned blank written (.blanks blank)
  rwa [List.nil_append, List.append_nil] at spells

/-- An expression has a mean only if the numerals of its dice can be read. -/
theorem dice_short_of_mean {text : String} {terms : List SignedTerm}
    (spells : Spells text.toList terms) {mean : Binary64} (found : meanOfText text = .ok mean)
    {negative : Bool} {count sides : List Char} {letter : Char}
    (member : ⟨negative, .dice count letter sides⟩ ∈ terms) :
    count.length ≤ Text.numeralLimit ∧ sides.length ≤ Text.numeralLimit := by
  obtain ⟨expression, read, rfl⟩ := exists_read?_iff.mpr spells
  rw [meanOfText, read] at found
  dsimp only at found
  split at found
  · cases found
  · rename_i means own
    obtain ⟨_, meant⟩ := exists_mapM_iff.mp ⟨means, own⟩ _ member
    simp only [Term.mean, bind_eq_ok_iff] at meant
    obtain ⟨_, counted, _, sized, -⟩ := meant
    exact ⟨(diceCount_eq_ok_iff.mp counted).1, (readNumeral_eq_ok_iff.mp sized).1⟩

theorem stands_of_mayRoll {text : String} {terms : List SignedTerm}
    (spells : Spells text.toList terms) {n : Int} (rolled : MayRoll text n) :
    ∀ signed ∈ terms, signed.term.Stands := by
  obtain ⟨expression, read, rfl⟩ := exists_read?_iff.mpr spells
  obtain ⟨σ, _, table, final, returns⟩ := rolled
  obtain ⟨again, values, _, readAgain, rolledTerms, -, -⟩ := returns_rollText_iff.mp returns
  obtain rfl := Option.some.inj (read.symm.trans readAgain)
  exact (returns_mapM_roll_iff.mp rolledTerms).1

/-- A die with six sides has no mean, and nothing to take the average of, when too many zeros
are written in front of its sides. -/
theorem padded_die_has_no_mean :
    isDiceText (String.ofList ('d' :: paddedSix)) = true ∧
      (∀ c ∈ (String.ofList ('d' :: paddedSix)).toList, c.toNat < 128) ∧
      Spells (String.ofList ('d' :: paddedSix)).toList [⟨false, .dice [] 'd' paddedSix⟩] ∧
      (Term.dice [] 'd' paddedSix).dieSizes = [6] ∧
      HasExactFloats [⟨false, .dice [] 'd' paddedSix⟩] ∧
      average (fun rolls => (worthOf [⟨false, .dice [] 'd' paddedSix⟩] rolls : ℚ))
        (outcomes [⟨false, .dice [] 'd' paddedSix⟩]) = 7 / 2 ∧
      (∀ mean, meanOfText (String.ofList ('d' :: paddedSix)) ≠ .ok mean) ∧
      ∀ n, ¬ MayRoll (String.ofList ('d' :: paddedSix)) n := by
  have digits : ∀ c ∈ paddedSix, c = '0' ∨ c = '6' := by
    intro c member
    rcases List.mem_append.mp member with zeros | six
    · exact .inl (List.eq_of_mem_replicate zeros)
    · exact .inr (List.mem_singleton.mp six)
  have written : (Term.dice [] 'd' paddedSix).IsWritten := by
    refine ⟨.inl rfl, .inl rfl, by simp [paddedSix], fun c member => ?_⟩
    rcases digits c member with rfl | rfl <;> decide
  have spells : Spells (String.ofList ('d' :: paddedSix)).toList
      [⟨false, .dice [] 'd' paddedSix⟩] := by
    rw [String.toList_ofList]
    exact spells_of_isWritten written
  have six : Text.numeral paddedSix = 6 := by
    rw [paddedSix, numeral_replicate_zero]
    rfl
  have long : ¬ paddedSix.length ≤ Text.numeralLimit := by
    rw [paddedSix, List.length_append, List.length_replicate]
    exact Nat.not_succ_le_self _
  have sizes : (Term.dice [] 'd' paddedSix).dieSizes = [6] := by
    rw [Term.dieSizes, six]
    rfl
  refine ⟨isDiceText_eq_true_iff.mpr ⟨_, spells⟩, ?_, spells, sizes, ?_, ?_, ?_, ?_⟩
  · intro c member
    rw [String.toList_ofList] at member
    rcases List.mem_cons.mp member with rfl | member
    · decide
    · rcases digits c member with rfl | rfl <;> decide
  · refine hasExactFloats_of_small (by simp [Term.hasFloatValue]) ?_
    simp [Term.span, Term.worth, Term.ones, sizes]
  · have listed : outcomes [⟨false, .dice [] 'd' paddedSix⟩] =
        [[[1]], [[2]], [[3]], [[4]], [[5]], [[6]]] := by
      simp only [outcomes, List.map_cons, List.map_nil, Term.outcomes, sizes]
      rfl
    rw [average, listed]
    norm_num [worthOf, SignedTerm.worth, Term.worth]
  · exact fun mean found => long (dice_short_of_mean spells found (List.mem_singleton.mpr rfl)).2
  · exact fun n rolled => long (stands_of_mayRoll spells rolled _ (List.mem_singleton.mpr rfl)).2.1

end Skirmish
