import CalculatorTrials.Entropy.Loop
import CalculatorTrials.Proofs.Entropy.Exhaustion
import Mathlib.Logic.Function.Iterate

/-!
# What is read and what it pays for

A draw that leaves bytes depends on those that it read alone. Most draws read a
byte if there is one, and a chance of one in two or more cannot come up without
one, nor can a chain go on. So the bytes that are read pay for what is drawn, and
for the rounds of a loop. What was drawn before is a credit for what follows.
-/

namespace CalculatorTrials
namespace Draw

/-- A byte is read if there is one. -/
def Consumes (draw : Draw α) : Prop :=
  ∀ bytes, bytes ≠ [] → (draw.run bytes).2.length < bytes.length

/-- The choice costs no more than the credit and the bytes that are read. -/
def Pays (draw : Draw α) (credit : Nat) (cost : α → Nat) : Prop :=
  ∀ bytes,
    cost (draw.run bytes).1 + (draw.run bytes).2.length ≤
      credit + bytes.length

/-! ## Bytes that are read -/

/-- What is left of some bytes is the end of them. -/
theorem run_suffix (draw : Draw α) (bytes : List UInt8) :
    (draw.run bytes).2 <:+ bytes := by
  by_cases leaves : (draw.run bytes).2 = []
  · rw [leaves]
    exact List.nil_suffix
  · obtain ⟨front, frontEq, _⟩ := draw.reads bytes leaves
    exact ⟨front, frontEq⟩

/-- A draw that leaves bytes gives the same from any others that begin with those
it read, and leaves the rest of them. -/
theorem run_eq_of_take_eq
    {draw : Draw α}
    {bytes others : List UInt8}
    (leaves : (draw.run bytes).2 ≠ [])
    (same : others.take (bytes.length - (draw.run bytes).2.length) =
      bytes.take (bytes.length - (draw.run bytes).2.length)) :
    draw.run others =
      ((draw.run bytes).1,
        others.drop (bytes.length - (draw.run bytes).2.length)) := by
  obtain ⟨front, frontEq, frontRun⟩ := draw.reads bytes leaves
  have spent : bytes.length - (draw.run bytes).2.length = front.length := by
    have lengths := congrArg List.length frontEq
    rw [List.length_append] at lengths
    omega
  have begins : bytes.take front.length = front := by
    rw [← frontEq]
    exact List.take_left
  rw [spent] at same ⊢
  have split := List.take_append_drop front.length others
  rw [same, begins] at split
  rw [← frontRun, split]

theorem Consumes.bind
    {first : Draw α}
    (consumes : first.Consumes)
    (next : α → Draw β) :
    (first >>= next).Consumes := by
  intro bytes present
  exact Nat.lt_of_le_of_lt ((next _).length_le _) (consumes bytes present)

/-- A draw reads a byte if all draws that can follow it do: the byte is there, or
it was read in front of them. -/
theorem consumes_bind
    {first : Draw α}
    {next : α → Draw β}
    (consumes : ∀ value, (next value).Consumes) :
    (first >>= next).Consumes := by
  intro bytes present
  by_cases leaves : (first.run bytes).2 = []
  · have nothing : ((first >>= next).run bytes).2.length ≤ 0 := by
      rw [run_bind, leaves]
      exact (next _).length_le []
    exact Nat.lt_of_le_of_lt nothing (List.length_pos_iff.mpr present)
  · exact Nat.lt_of_lt_of_le (consumes _ _ leaves) (first.length_le bytes)

theorem Consumes.map
    {draw : Draw α}
    (consumes : draw.Consumes)
    (function : α → β) :
    (function <$> draw).Consumes :=
  consumes

/-- A draw from a range of two or more numbers reads a byte. -/
theorem consumes_between
    {width low high : Nat}
    (wide : 0 < width)
    (lt : low < high) :
    (between width low high).Consumes := by
  intro bytes present
  obtain ⟨others, rfl⟩ := Nat.exists_eq_add_of_le' wide
  have notExhausted : high - low ≠ 0 := Nat.sub_ne_zero_of_lt lt
  cases bytes with
  | nil => exact absurd rfl present
  | cons byte bytes =>
      have step : ((between (others + 1) low high).run (byte :: bytes)).2 =
          (gather others ((high - low) / 256) (256 * 0 + byte.toNat)
            bytes).2 := by
        simp [between, gather, notExhausted]
      rw [step]
      exact Nat.lt_succ_of_le (length_gather_le ..)

/-- A choice among two or more reads a byte. -/
theorem consumes_choose
    (first second : α)
    (others : List α) :
    (choose first (second :: others)).Consumes :=
  (consumes_between (by decide) (Nat.succ_pos _)).bind _

/-! ## Costs of choices -/

theorem Pays.bind
    {first : Draw α}
    {next : α → Draw β}
    {credit : Nat}
    {middle : α → Nat}
    {cost : β → Nat}
    (pays : first.Pays credit middle)
    (nextPays : ∀ value, (next value).Pays (middle value) cost) :
    (first >>= next).Pays credit cost :=
  fun bytes => Nat.le_trans (nextPays _ _) (pays bytes)

/-- A draw leaves a credit as it is, if nothing is asked of it. -/
theorem pays_nothing (draw : Draw α) (credit : Nat) :
    draw.Pays credit fun _ => credit :=
  fun bytes => Nat.add_le_add_left (draw.length_le bytes) credit

/-- A higher price can be paid by more credit. -/
theorem Pays.map
    {draw : Draw α}
    {function : α → β}
    {credit extra : Nat}
    {middle : α → Nat}
    {cost : β → Nat}
    (pays : draw.Pays credit middle)
    (le : ∀ value, cost (function value) ≤ middle value + extra) :
    (function <$> draw).Pays (credit + extra) cost := by
  intro bytes
  have paid := pays bytes
  have more := le (draw.run bytes).1
  change cost (function (draw.run bytes).1) + (draw.run bytes).2.length ≤ _
  omega

/-- A chance of one in two or more comes up only at the cost of a byte. -/
theorem pays_oneIn
    {odds : UInt16}
    (atLeast : 2 ≤ odds) :
    (oneIn odds).Pays 0 Bool.toNat := by
  have two : 2 ≤ odds.toNat := UInt16.le_iff_toNat_le.mp atLeast
  intro bytes
  by_cases present : bytes = []
  · have several : ¬odds ≤ 1 := by
      rw [UInt16.le_iff_toNat_le, UInt16.toNat_one]
      omega
    rw [present, fallsBackTo_oneIn, decide_eq_false several]
    exact Nat.le_refl 0
  · have consumes : (oneIn odds).Consumes :=
      (consumes_between (by decide) (by omega)).bind _
    have spent := consumes bytes present
    have most := Bool.toNat_le ((oneIn odds).run bytes).1
    omega

/-- A chain pays for its links: one byte lets it go on, and a link pays for
itself. -/
theorem Pays.chain
    {join : α → β → γ → α}
    {operator : Draw β}
    {operand : Draw γ}
    {link : γ → Nat}
    {cost : α → Nat}
    (pays : operand.Pays 0 link)
    (joins : ∀ left symbol right,
      cost (join left symbol right) ≤ cost left + link right + 1)
    (left : α) :
    (chain join operator operand left).Pays (cost left) cost := by
  intro bytes
  change cost (extend join operator operand left bytes).1 +
    (extend join operator operand left bytes).2.length ≤ _
  fun_induction extend with
  | case1 left bytes goesOn symbol right inductionHypothesis =>
      have joined := joins left symbol.1 right.1
      have paid : link right.1 + right.2.length ≤ 0 + symbol.2.length :=
        pays symbol.2
      have behind : symbol.2.length ≤ (continues.run bytes).2.length :=
        operator.length_le _
      have spent := length_continues_lt goesOn
      omega
  | case2 left bytes stops =>
      exact Nat.add_le_add_left (continues.length_le bytes) _

/-! ## Rounds of loops -/

/-- The state behind one round of a loop, and the bytes that the round leaves. -/
def round
    (step : State → Draw State)
    (current : State × List UInt8) : State × List UInt8 :=
  (step current.1).run (continues.run current.2).2

/-- A loop goes on before each of a number of rounds, and behind them it ends with
their state and leaves their bytes, less those read to find that it ends. -/
structure EndsAfter
    (step : State → Draw State)
    (rounds : Nat)
    (start final : State × List UInt8) : Prop where
  goesOn : ∀ earlier < rounds,
    (continues.run ((round step)^[earlier] start).2).1 = true
  stops : (continues.run ((round step)^[rounds] start).2).1 = false
  final_eq : final =
    (((round step)^[rounds] start).1,
      (continues.run ((round step)^[rounds] start).2).2)

/-- Every loop ends, after no more rounds than bytes are read. -/
theorem exists_endsAfter_loop
    (step : State → Draw State)
    (state : State)
    (bytes : List UInt8) :
    ∃ rounds,
      EndsAfter step rounds (state, bytes) ((loop step state).run bytes) ∧
        rounds + ((loop step state).run bytes).2.length ≤ bytes.length := by
  change ∃ rounds,
    EndsAfter step rounds (state, bytes) (loopFrom step state bytes) ∧
      rounds + (loopFrom step state bytes).2.length ≤ bytes.length
  fun_induction loopFrom with
  | case1 state bytes goesOn next inductionHypothesis =>
      obtain ⟨rounds, ends, spent⟩ := inductionHypothesis
      refine ⟨rounds + 1, ⟨fun earlier lt => ?_, ends.stops, ends.final_eq⟩, ?_⟩
      · cases earlier with
        | zero => exact goesOn
        | succ earlier => exact ends.goesOn earlier (Nat.lt_of_succ_lt_succ lt)
      · have behind := (step state).length_le (continues.run bytes).2
        have less := length_continues_lt goesOn
        have smaller : next.2.length < bytes.length :=
          Nat.lt_of_le_of_lt behind less
        omega
  | case2 state bytes stops =>
      refine ⟨0, ⟨fun _ lt => absurd lt (Nat.not_lt_zero _), ?_, rfl⟩, ?_⟩
      · exact Bool.eq_false_iff.mpr stops
      · rw [Nat.zero_add]
        exact continues.length_le bytes

end Draw
end CalculatorTrials
