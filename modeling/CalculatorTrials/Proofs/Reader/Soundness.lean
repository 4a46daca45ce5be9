import CalculatorTrials.Proofs.Reader.Completeness

/-!
# What is read is a line of the grammar

The proof goes from the end of a run to its start. A reader asks for something
of the letters that are still to come: behind an operand they have to go on its
product, then its sum, and to close the groups around it one after the other.
The end of a line meets what its reader asks for, and a step gives the letters
that it reads to a rule of the grammar.
-/

namespace CalculatorTrials
namespace Pending

/-- The sum that ends with a product. -/
def added (pending : Pending) (product : Calculation) : Calculation :=
  match pending.sum with
  | none => product
  | some (left, operator) => .binary (.additive operator) left product

theorem total_eq_added_term (pending : Pending) (operand : Calculation) :
    pending.total operand = pending.added (pending.term operand) := by
  obtain ⟨sum, product, minuses⟩ := pending
  cases sum <;> rfl

theorem added_push_additive
    (pending : Pending)
    (first product : Calculation)
    (operator : Additive) :
    (pending.push first (.additive operator)).added product =
      .binary (.additive operator) (pending.added (pending.term first))
        product :=
  congrArg (Calculation.binary _ · product) (total_eq_added_term pending first)

/-- A minus sign belongs to the operand as well as to the work around it. -/
theorem term_succ
    (sum : Option (Calculation × Additive))
    (product : Option (Calculation × Multiplicative))
    (minuses : Nat)
    (operand : Calculation) :
    (Pending.mk sum product (minuses + 1)).term operand =
      (Pending.mk sum product minuses).term operand.negate := by
  cases product with
  | none => exact signed_succ sum none minuses operand
  | some product =>
      exact congrArg (Calculation.binary _ _)
        (signed_succ sum (some product) minuses operand)

end Pending

namespace Grammar

theorem blanks_nil : Blanks [] :=
  List.forall_mem_nil _

theorem Blanks.cons
    {letter : Letter}
    {letters : List Letter}
    (isBlank : letter.terminal = .blank)
    (blanks : Blanks letters) :
    Blanks (letter :: letters) :=
  List.forall_mem_cons.mpr ⟨isBlank, blanks⟩

/-! ## Going on with a product and with a sum -/

/-- The letters go on a product, and make another of it. -/
inductive ProductTail : Calculation → List Letter → Calculation → Prop where
  | done : ProductTail first [] first
  | more (operator : Multiplicative) :
      Blanks before →
      sign.terminal = terminal (.multiplicative operator) →
      Blanks behind →
      Derives .operand right second →
      ProductTail (.binary (.multiplicative operator) first second)
        letters last →
      ProductTail first (before ++ sign :: (behind ++ right ++ letters)) last

/-- The letters go on a sum, and make another of it. -/
inductive SumTail : Calculation → List Letter → Calculation → Prop where
  | done : SumTail first [] first
  | more (operator : Additive) :
      Blanks before →
      sign.terminal = terminal (.additive operator) →
      Blanks behind →
      Derives .product right second →
      SumTail (.binary (.additive operator) first second) letters last →
      SumTail first (before ++ sign :: (behind ++ right ++ letters)) last

theorem ProductTail.derives
    {first last : Calculation}
    {left letters : List Letter}
    (tail : ProductTail first letters last)
    (derives : Derives .product left first) :
    Derives .product (left ++ letters) last := by
  induction tail generalizing left with
  | done => simpa using derives
  | more operator before isOperator behind right _ inductionHypothesis =>
      simpa using inductionHypothesis
        (.multiplicative operator derives before isOperator behind right)

theorem SumTail.derives
    {first last : Calculation}
    {left letters : List Letter}
    (tail : SumTail first letters last)
    (derives : Derives .sum left first) :
    Derives .sum (left ++ letters) last := by
  induction tail generalizing left with
  | done => simpa using derives
  | more operator before isOperator behind right _ inductionHypothesis =>
      simpa using inductionHypothesis
        (.additive operator derives before isOperator behind right)

end Grammar

namespace Reader

open Grammar
open Numeral (Scan)

/-! ## What a reader asks for -/

/-- The letters behind an operand go on its group to the end, and make a sum of
what has been read of it. -/
inductive GoesOn :
    Pending → Calculation → List Letter → Calculation → Prop where
  | intro :
      ProductTail (work.term operand) factors product →
      SumTail (work.added product) terms sum →
      Blanks blanks →
      GoesOn work operand (factors ++ terms ++ blanks) sum

/-- The letters behind an operand go on to the end of a line. -/
inductive EndsBehind :
    List Pending → Pending → Calculation → List Letter → Calculation → Prop where
  | line :
      GoesOn work operand letters calculation →
      EndsBehind [] work operand letters calculation
  | group :
      GoesOn work operand left sum →
      letter.terminal = .closeGroup →
      EndsBehind groups around sum right calculation →
      EndsBehind (around :: groups) work operand (left ++ letter :: right)
        calculation

/-- The letters in front of an operand go on to the end of a line. -/
def EndsBefore
    (groups : List Pending)
    (work : Pending)
    (letters : List Letter)
    (calculation : Calculation) : Prop :=
  ∃ blanks operand behind value,
    letters = blanks ++ operand ++ behind ∧ Blanks blanks ∧
      Derives .operand operand value ∧
      EndsBehind groups work value behind calculation

/-- The letters inside a numeral go on to the end of a line. -/
def EndsInside
    (groups : List Pending)
    (work : Pending)
    (scan : Scan)
    (letters : List Letter)
    (calculation : Calculation) : Prop :=
  ∀ front, scan.Holds front →
    ∃ others behind number,
      letters = others ++ behind ∧
        Grammar.Numeral (front ++ others) number ∧
        EndsBehind groups work (.number number) behind calculation

/-- The letters are what a reader asks for. -/
def Ends (letters : List Letter) (calculation : Calculation) : Reader → Prop
  | ⟨groups, work, .operand⟩ => EndsBefore groups work letters calculation
  | ⟨groups, work, .numeral scan⟩ =>
      EndsInside groups work scan letters calculation
  | ⟨groups, work, .complete operand⟩ =>
      EndsBehind groups work operand letters calculation

/-! ## Behind an operand -/

namespace GoesOn

/-- A group may end behind an operand. -/
theorem nil (work : Pending) (operand : Calculation) :
    GoesOn work operand [] (work.total operand) := by
  rw [Pending.total_eq_added_term]
  exact .intro .done .done blanks_nil

/-- One more blank may stand behind an operand. It belongs to whatever the
letters behind it start with. -/
theorem blank
    {work : Pending}
    {operand sum : Calculation}
    {letter : Letter}
    {letters : List Letter}
    (isBlank : letter.terminal = .blank)
    (goesOn : GoesOn work operand letters sum) :
    GoesOn work operand (letter :: letters) sum := by
  obtain ⟨product, sum, blanks⟩ := goesOn
  cases product with
  | more operator before isOperator behind right tail =>
      exact .intro (.more operator (before.cons isBlank) isOperator behind
        right tail) sum blanks
  | done =>
      cases sum with
      | more operator before isOperator behind right tail =>
          exact .intro .done (.more operator (before.cons isBlank) isOperator
            behind right tail) blanks
      | done => exact .intro .done .done (blanks.cons isBlank)

/-- A multiplicative operator and an operand go on a product. -/
theorem multiplicative
    {work : Pending}
    {first second sum : Calculation}
    {sign : Letter}
    {blanks operand letters : List Letter}
    (operator : Multiplicative)
    (isOperator : sign.terminal = terminal (.multiplicative operator))
    (areBlanks : Blanks blanks)
    (derives : Derives .operand operand second)
    (goesOn :
      GoesOn (work.push first (.multiplicative operator)) second letters sum) :
    GoesOn work first (sign :: (blanks ++ operand ++ letters)) sum := by
  obtain ⟨product, sum, behind⟩ := goesOn
  have longer := ProductTail.more operator blanks_nil isOperator areBlanks
    derives product
  simpa using GoesOn.intro longer sum behind

/-- An additive operator and an operand start the next product of a sum. -/
theorem additive
    {work : Pending}
    {first second sum : Calculation}
    {sign : Letter}
    {blanks operand letters : List Letter}
    (operator : Additive)
    (isOperator : sign.terminal = terminal (.additive operator))
    (areBlanks : Blanks blanks)
    (derives : Derives .operand operand second)
    (goesOn :
      GoesOn (work.push first (.additive operator)) second letters sum) :
    GoesOn work first (sign :: (blanks ++ operand ++ letters)) sum := by
  obtain ⟨product, sum, behind⟩ := goesOn
  rw [Pending.added_push_additive] at sum
  have longer := SumTail.more operator blanks_nil isOperator areBlanks
    (product.derives (.operand derives)) sum
  simpa using GoesOn.intro .done longer behind

/-- A sum goes on from its first operand. -/
theorem derives
    {first sum : Calculation}
    {operand letters : List Letter}
    (goesOn : GoesOn .empty first letters sum)
    (derives : Derives .operand operand first) :
    ∃ others blanks,
      letters = others ++ blanks ∧ Derives .sum (operand ++ others) sum ∧
        Blanks blanks := by
  obtain ⟨product, sum, blanks⟩ := goesOn
  refine ⟨_, _, rfl, ?_, blanks⟩
  rw [← List.append_assoc]
  exact sum.derives (.product (product.derives (.operand derives)))

end GoesOn

/-- What goes on from another operand goes on from one in front of it, if it
does so in its group. -/
theorem EndsBehind.lift
    {groups : List Pending}
    {work next : Pending}
    {operand value calculation : Calculation}
    {letters : List Letter}
    (ends : EndsBehind groups next value letters calculation)
    (front : List Letter)
    (goesOn : ∀ {others sum}, GoesOn next value others sum →
      GoesOn work operand (front ++ others) sum) :
    EndsBehind groups work operand (front ++ letters) calculation := by
  cases ends with
  | line group => exact .line (goesOn group)
  | group group isClosing around =>
      rw [← List.append_assoc]
      exact .group (goesOn group) isClosing around

/-! ## Steps and runs -/

/-- The operand that ends here goes on as the reader asks for. -/
theorem ends_of_endsBehind
    {groups : List Pending}
    {work : Pending}
    {stage : Phase}
    {operand calculation : Calculation}
    {letters : List Letter}
    (complete : stage.operand? = some operand)
    (ends : EndsBehind groups work operand letters calculation) :
    Ends letters calculation ⟨groups, work, stage⟩ := by
  cases stage with
  | operand => cases complete
  | complete value =>
      obtain rfl := Option.some.inj complete
      exact ends
  | numeral scan =>
      obtain ⟨number, isNumber, rfl⟩ := Option.map_eq_some_iff.mp complete
      intro front holds
      refine ⟨[], letters, number, rfl, ?_, ends⟩
      simpa using holds.numeral isNumber

/-- A minus sign in front of an operand makes its opposite of it. -/
theorem EndsBehind.minus
    {groups : List Pending}
    {sum : Option (Calculation × Additive)}
    {product : Option (Calculation × Multiplicative)}
    {minuses : Nat}
    {operand calculation : Calculation}
    {letters : List Letter}
    (ends : EndsBehind groups ⟨sum, product, minuses + 1⟩ operand letters
      calculation) :
    EndsBehind groups ⟨sum, product, minuses⟩ operand.negate letters
      calculation := by
  refine ends.lift [] ?_
  intro others last goesOn
  obtain ⟨factors, terms, blanks⟩ := goesOn
  rw [Pending.term_succ] at factors
  exact .intro factors terms blanks

/-- A step gives its letter to what is asked for behind it. -/
theorem Step.ends
    {reader next : Reader}
    {letter : Letter}
    {letters : List Letter}
    {calculation : Calculation}
    (step : Step reader letter next)
    (ends : Ends letters calculation next) :
    Ends (letter :: letters) calculation reader := by
  cases step with
  | blankBefore isBlank =>
      obtain ⟨blanks, operand, behind, value, rfl, areBlanks, rest⟩ := ends
      exact ⟨letter :: blanks, operand, behind, value, rfl,
        areBlanks.cons isBlank, rest⟩
  | plus isPlus =>
      obtain ⟨blanks, operand, behind, value, rfl, areBlanks, derives, rest⟩ :=
        ends
      exact ⟨[], letter :: (blanks ++ operand), behind, value, rfl, blanks_nil,
        .plus isPlus areBlanks derives, rest⟩
  | minus isMinus =>
      obtain ⟨blanks, operand, behind, value, rfl, areBlanks, derives, rest⟩ :=
        ends
      exact ⟨[], letter :: (blanks ++ operand), behind, value.negate, rfl,
        blanks_nil, .minus isMinus areBlanks derives, rest.minus⟩
  | openGroup isOpening =>
      obtain ⟨blanks, operand, behind, value, rfl, areBlanks, derives, rest⟩ :=
        ends
      cases rest with
      | group goesOn isClosing rest =>
          obtain ⟨others, after, rfl, body, afterBlanks⟩ :=
            goesOn.derives derives
          refine ⟨[], _, _, _, ?_, blanks_nil,
            .group isOpening areBlanks body afterBlanks isClosing, rest⟩
          simp
  | start isFirst starts =>
      obtain ⟨others, behind, number, rfl, isNumeral, rest⟩ :=
        ends [letter] (Scan.holds_start starts)
      exact ⟨[], letter :: others, behind, .number number, rfl, blanks_nil,
        .numeral isNumeral, rest⟩
  | inside expected reads =>
      intro front holds
      obtain ⟨others, behind, number, rfl, isNumeral, rest⟩ :=
        ends (front ++ [letter]) (holds.step expected reads)
      exact ⟨letter :: others, behind, number, rfl, by simpa using isNumeral,
        rest⟩
  | blankBehind complete isBlank =>
      exact ends_of_endsBehind complete
        (EndsBehind.lift ends [letter] (GoesOn.blank isBlank))
  | closeGroup complete isClosing =>
      exact ends_of_endsBehind complete (.group (.nil _ _) isClosing ends)
  | operator operator complete isOperator =>
      obtain ⟨blanks, operand, behind, value, rfl, areBlanks, derives, rest⟩ :=
        ends
      refine ends_of_endsBehind complete
        (rest.lift (letter :: (blanks ++ operand)) ?_)
      intro others sum goesOn
      cases operator with
      | additive operator =>
          exact goesOn.additive operator isOperator areBlanks derives
      | multiplicative operator =>
          exact goesOn.multiplicative operator isOperator areBlanks derives

/-- The end of a line is all that a reader asks for whose line can end. -/
theorem ends_nil
    {reader : Reader}
    {calculation : Calculation}
    (finishes : reader.finish? = some calculation) :
    Ends [] calculation reader := by
  obtain ⟨groups, work, stage⟩ := reader
  cases groups with
  | cons around groups => cases finishes
  | nil =>
      obtain ⟨operand, complete, rfl⟩ := Option.map_eq_some_iff.mp finishes
      exact ends_of_endsBehind complete (.line (.nil work operand))

/-- A run to the end of a line takes letters that its first reader asks for. -/
theorem Runs.ends
    {first last : Reader}
    {letters : List Letter}
    {calculation : Calculation}
    (runs : Runs first letters last)
    (finishes : last.finish? = some calculation) :
    Ends letters calculation first := by
  induction runs with
  | refl => exact ends_nil finishes
  | step step _ inductionHypothesis =>
      exact step.ends (inductionHypothesis finishes)

/-- Letters that take a reader from the start to the end of a line are a line of
the grammar. -/
theorem Runs.line
    {last : Reader}
    {letters : List Letter}
    {calculation : Calculation}
    (runs : Runs start letters last)
    (finishes : last.finish? = some calculation) :
    Line letters calculation := by
  obtain ⟨before, operand, behind, value, rfl, areBlanks, derives, rest⟩ :=
    runs.ends finishes
  cases rest with
  | line goesOn =>
      obtain ⟨others, after, rfl, body, afterBlanks⟩ := goesOn.derives derives
      simpa using Line.intro areBlanks body afterBlanks

end Reader
end CalculatorTrials
