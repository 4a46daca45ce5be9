import CalculatorTrials.Entropy.Draw
import Mathlib.Algebra.Group.Nat.Defs
import Mathlib.Data.Nat.Find

/-!
# What can be drawn

Two questions about a draw: what holds of its choice whatever the bytes are, and
whether there are bytes that a given choice is drawn from. Both are answered for
every way of putting draws together.
-/

namespace CalculatorTrials
namespace Draw

/-- Whatever the bytes are, the choice has the property. -/
def Ensures (draw : Draw α) (property : α → Prop) : Prop :=
  ∀ bytes, property (draw.run bytes).1

/-- The value is drawn from some bytes, whatever bytes are behind them, and
those are left. -/
def CanGive (draw : Draw α) (value : α) : Prop :=
  ∃ code, ∀ later, draw.run (code ++ later) = (value, later)

/-! ## What holds of every choice -/

theorem Ensures.bind
    {first : Draw α}
    {next : α → Draw β}
    {middle : α → Prop}
    {property : β → Prop}
    (ensures : first.Ensures middle)
    (nextEnsures : ∀ value, middle value → (next value).Ensures property) :
    (first >>= next).Ensures property := by
  intro bytes
  exact nextEnsures _ (ensures bytes) _

/-- What holds behind every choice holds behind a draw. -/
theorem ensures_bind
    {first : Draw α}
    {next : α → Draw β}
    {property : β → Prop}
    (ensures : ∀ value, (next value).Ensures property) :
    (first >>= next).Ensures property :=
  fun _ => ensures _ _

theorem Ensures.map
    {draw : Draw α}
    {function : α → β}
    {middle : α → Prop}
    {property : β → Prop}
    (ensures : draw.Ensures middle)
    (maps : ∀ value, middle value → property (function value)) :
    (function <$> draw).Ensures property := by
  intro bytes
  exact maps _ (ensures bytes)

/-- A draw from a range stays in the range. -/
theorem ensures_between
    (width : Nat)
    {low high : Nat}
    (le : low ≤ high) :
    (between width low high).Ensures fun number =>
      low ≤ number ∧ number ≤ high := by
  intro bytes
  have below : (gather width (high - low) 0 bytes).1 % (high - low + 1) <
      high - low + 1 := Nat.mod_lt _ (Nat.succ_pos _)
  simp only [between]
  omega

/-- The only chance of one always comes up. -/
theorem ensures_oneIn
    {odds : UInt16}
    (le : odds ≤ 1) :
    (oneIn odds).Ensures fun comesUp => comesUp = true := by
  have least : max odds.toNat 1 = 1 :=
    Nat.max_eq_right (UInt16.le_iff_toNat_le.mp le)
  rw [oneIn, least]
  refine (ensures_between 2 (Nat.le_refl 1)).bind fun number range => ?_
  intro bytes
  simp only [run_pure, beq_iff_eq]
  omega

/-- What holds of the first link, and is kept by joining one more link, holds of
the whole chain. -/
theorem Ensures.chain
    {join : α → β → γ → α}
    {operator : Draw β}
    {operand : Draw γ}
    {left : α}
    {link : γ → Prop}
    {property : α → Prop}
    (ensures : operand.Ensures link)
    (first : property left)
    (joins : ∀ left symbol right,
      property left → link right → property (join left symbol right)) :
    (chain join operator operand left).Ensures property := by
  intro bytes
  change property (extend join operator operand left bytes).1
  fun_induction extend with
  | case1 left bytes goesOn symbol right inductionHypothesis =>
      exact inductionHypothesis (joins left symbol.1 right.1 first (ensures _))
  | case2 left bytes stops => exact first

/-! ## Choices that can be drawn -/

theorem canGive_pure (value : α) : (pure value : Draw α).CanGive value :=
  ⟨[], fun _ => rfl⟩

theorem CanGive.bind
    {first : Draw α}
    {next : α → Draw β}
    {middle : α}
    {value : β}
    (gives : first.CanGive middle)
    (nextGives : (next middle).CanGive value) :
    (first >>= next).CanGive value := by
  obtain ⟨front, frontRun⟩ := gives
  obtain ⟨back, backRun⟩ := nextGives
  refine ⟨front ++ back, fun later => ?_⟩
  rw [List.append_assoc, run_bind, frontRun]
  exact backRun later

theorem CanGive.map
    {draw : Draw α}
    {value : α}
    (gives : draw.CanGive value)
    (function : α → β) :
    (function <$> draw).CanGive (function value) := by
  obtain ⟨code, codeRun⟩ := gives
  refine ⟨code, fun later => ?_⟩
  rw [run_map, codeRun]

/-- A value of so many bytes is read from them, if the range is not exhausted in
front of the last of them and is exhausted behind it. -/
theorem exists_gather_eq
    {count width range value : Nat}
    (number : Nat)
    (fits : count ≤ width)
    (lasts : ∀ earlier < count, 256 ^ earlier ≤ range)
    (exhausted : range < 256 ^ count)
    (valueLt : value < 256 ^ count) :
    ∃ code, ∀ later, gather width range number (code ++ later) =
      (256 ^ count * number + value, later) := by
  induction count generalizing width range value number with
  | zero =>
      obtain rfl : range = 0 := Nat.lt_one_iff.mp exhausted
      obtain rfl : value = 0 := Nat.lt_one_iff.mp valueLt
      refine ⟨[], fun later => ?_⟩
      cases width <;> cases later <;> simp [gather]
  | succ count inductionHypothesis =>
      obtain ⟨others, rfl⟩ := Nat.exists_eq_add_of_le' fits
      have power : 256 ^ (count + 1) = 256 * 256 ^ count := Nat.pow_succ'
      have powerPos : 0 < 256 ^ count := Nat.pow_pos (Nat.succ_pos 255)
      have notExhausted : range ≠ 0 := by
        have last := lasts count (Nat.lt_succ_self count)
        omega
      have byteLt : value / 256 ^ count < 256 :=
        Nat.div_lt_of_lt_mul (Nat.mul_comm .. ▸ power ▸ valueLt)
      obtain ⟨code, codeRun⟩ := inductionHypothesis
        (256 * number + value / 256 ^ count)
        (Nat.le_add_left count others)
        (fun earlier lt => by
          have last := lasts (earlier + 1) (Nat.succ_lt_succ lt)
          rw [Nat.pow_succ'] at last
          omega)
        (Nat.div_lt_of_lt_mul (power ▸ exhausted))
        (Nat.mod_lt value powerPos)
      refine ⟨UInt8.ofNat (value / 256 ^ count) :: code, fun later => ?_⟩
      have step : gather (others + (count + 1)) range number
            (UInt8.ofNat (value / 256 ^ count) :: code ++ later) =
          gather (others + count) (range / 256)
            (256 * number + (UInt8.ofNat (value / 256 ^ count)).toNat)
            (code ++ later) :=
        if_neg notExhausted
      have whole :
          256 ^ count * (256 * number + value / 256 ^ count) +
              value % 256 ^ count =
            256 ^ (count + 1) * number + value := by
        rw [Nat.mul_add, Nat.add_assoc, Nat.div_add_mod, power,
          Nat.mul_left_comm, Nat.mul_assoc]
      rw [step, UInt8.toNat_ofNat_of_lt' byteLt, codeRun, whole]

/-- Every number of a range that has room in the width can be drawn from it. -/
theorem canGive_between
    {width low high value : Nat}
    (fits : high - low < 256 ^ width)
    (lowLe : low ≤ value)
    (leHigh : value ≤ high) :
    (between width low high).CanGive value := by
  have exhausts : ∃ count, high - low < 256 ^ count := ⟨width, fits⟩
  obtain ⟨code, codeRun⟩ := exists_gather_eq 0 (Nat.find_min' exhausts fits)
    (fun earlier lt => Nat.le_of_not_lt (Nat.find_min exhausts lt))
    (Nat.find_spec exhausts)
    (Nat.lt_of_le_of_lt (Nat.sub_le_sub_right leHigh low)
      (Nat.find_spec exhausts))
  refine ⟨code, fun later => ?_⟩
  have inRange : (value - low) % (high - low + 1) = value - low :=
    Nat.mod_eq_of_lt (Nat.lt_succ_of_le (Nat.sub_le_sub_right leHigh low))
  simp only [between, codeRun, Nat.mul_zero, Nat.zero_add, inRange,
    Nat.add_sub_cancel' lowLe]

/-- Every choice of a list can be drawn. -/
theorem canGive_choose
    {first : α}
    {others : List α}
    (fits : others.length < 256 ^ 8)
    {value : α}
    (member : value ∈ first :: others) :
    (choose first others).CanGive value := by
  obtain ⟨index, lt, rfl⟩ := List.getElem_of_mem member
  have gives : (between 8 0 others.length).CanGive index :=
    canGive_between fits (Nat.zero_le index) (Nat.le_of_lt_succ lt)
  refine gives.bind ?_
  rw [List.getD_eq_getElem?_getD, List.getElem?_eq_getElem lt]
  exact canGive_pure _

/-- A chance of one in two or more comes up or not. -/
theorem canGive_oneIn
    {odds : UInt16}
    (atLeast : 2 ≤ odds)
    (comesUp : Bool) :
    (oneIn odds).CanGive comesUp := by
  have two : 2 ≤ odds.toNat := UInt16.le_iff_toNat_le.mp atLeast
  have below : odds.toNat < 2 ^ 16 := odds.toNat_lt
  have high : max odds.toNat 1 = odds.toNat := Nat.max_eq_left (by omega)
  have gives {number : Nat} (least : 1 ≤ number) (most : number ≤ odds.toNat) :
      (between 2 1 odds.toNat).CanGive number :=
    canGive_between (by omega) least most
  rw [oneIn, high]
  cases comesUp with
  | true =>
      refine (gives (by omega) (Nat.le_refl _)).bind ?_
      simpa using canGive_pure true
  | false =>
      refine (gives (Nat.le_refl 1) (by omega)).bind ?_
      have different : (1 == odds.toNat) = false := by
        rw [beq_eq_false_iff_ne]
        omega
      rw [different]
      exact canGive_pure false

/-- A chain goes on or not. -/
theorem canGive_continues (goesOn : Bool) : continues.CanGive goesOn := by
  have gives {number : Nat} (most : number ≤ 2) :
      (between 1 0 2).CanGive number :=
    canGive_between (by decide) (Nat.zero_le number) most
  cases goesOn with
  | true => exact (gives (by decide : 1 ≤ 2)).bind (canGive_pure true)
  | false => exact (gives (Nat.zero_le 2)).bind (canGive_pure false)

/-- A chain can end behind its links so far. -/
theorem canGive_chain
    (join : α → β → γ → α)
    (operator : Draw β)
    (operand : Draw γ)
    (left : α) :
    (chain join operator operand left).CanGive left := by
  obtain ⟨code, codeRun⟩ := canGive_continues false
  refine ⟨code, fun later => ?_⟩
  change extend join operator operand left (code ++ later) = _
  rw [extend, codeRun]
  rfl

/-- What a chain with one more link gives, the chain without it can give. -/
theorem CanGive.chain
    {join : α → β → γ → α}
    {operator : Draw β}
    {operand : Draw γ}
    {left : α}
    {symbol : β}
    {right : γ}
    {value : α}
    (givesSymbol : operator.CanGive symbol)
    (givesRight : operand.CanGive right)
    (gives :
      (chain join operator operand (join left symbol right)).CanGive value) :
    (chain join operator operand left).CanGive value := by
  obtain ⟨first, firstRun⟩ := canGive_continues true
  obtain ⟨second, secondRun⟩ := givesSymbol
  obtain ⟨third, thirdRun⟩ := givesRight
  obtain ⟨last, lastRun⟩ := gives
  refine ⟨first ++ (second ++ (third ++ last)), fun later => ?_⟩
  change extend join operator operand left _ = _
  rw [extend]
  simp only [List.append_assoc, firstRun, secondRun, thirdRun, dite_true]
  exact lastRun later

end Draw
end CalculatorTrials
