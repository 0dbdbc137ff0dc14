import Iq9Pipeline.Foundation.IntegerRoot
import Iq9Pipeline.Foundation.Rounding
import Iq9Pipeline.Vision.PatchOrder

/-!
The size that `getResizedImageSize` chooses for an image, in exact arithmetic, and the budget
of tokens that it is chosen for.
-/

namespace Iq9Pipeline.Vision.Preprocessor

open Foundation

/-- Exact numbers. A conversion cuts the fraction off and takes what 64 bits hold. -/
noncomputable def realDouble : DoubleOps ℝ where
  ofInt value := value
  mul := (· * ·)
  div := (· / ·)
  round value := Rounding.roundAway value
  floor value := ⌊value⌋
  ceil value := ⌈value⌉
  sqrt := Real.sqrt
  toInt value :=
    let whole := if 0 ≤ value then ⌊value⌋ else ⌈value⌉
    if -2 ^ 63 ≤ whole ∧ whole < 2 ^ 63 then some whole else none

theorem toInt_floor {value : ℝ} (nonneg : 0 ≤ value) {whole : Nat} (floor : ⌊value⌋ = whole)
    (small : whole < 2 ^ 63) : toInt realDouble value = .ok whole := by
  have fits : -2 ^ 63 ≤ (whole : Int) ∧ (whole : Int) < 2 ^ 63 := by omega
  simp only [toInt, realDouble, if_pos nonneg, floor, if_pos fits]

theorem toInt_natCast {whole : Nat} (small : whole < 2 ^ 63) :
    toInt realDouble (whole : ℝ) = .ok whole :=
  toInt_floor (Nat.cast_nonneg whole) (Int.floor_natCast whole) small

section

variable {side factor : Nat}

/-- Rounding in steps of the factor is rounding of the quotient. -/
theorem byFactor_eq {rounding : ℝ → ℝ} {steps : Nat}
    (rounded : rounding ((side : ℝ) / factor) = steps) (small : steps * factor < 2 ^ 63) :
    byFactor realDouble rounding side factor = .ok (steps * factor : Nat) := by
  have cast (number : Nat) : realDouble.ofInt (number : Int) = (number : ℝ) := Int.cast_natCast _
  rw [byFactor, cast, cast, show realDouble.div (side : ℝ) factor = (side : ℝ) / factor from rfl,
    rounded, show realDouble.mul (steps : ℝ) factor = (steps * factor : Nat) by
      push_cast
      rfl]
  exact toInt_natCast small

theorem roundByFactor_eq (positive : 0 < factor) (small : 2 * side + factor < 2 ^ 63) :
    roundByFactor realDouble side factor =
      .ok ((2 * side + factor) / (2 * factor) * factor : Nat) := by
  apply byFactor_eq
  · have real : (factor : ℝ) ≠ 0 := Nat.cast_ne_zero.mpr (Nat.ne_of_gt positive)
    have middle : (side : ℝ) / factor + 1 / 2 =
        ((2 * side + factor : Nat) : ℝ) / (2 * factor : Nat) := by
      push_cast
      field_simp
    have nonneg : (0 : ℝ) ≤ side / factor := by positivity
    simp only [realDouble, Rounding.roundAway, if_pos nonneg, middle, floor_natCast_div,
      Int.cast_natCast]
  · have double := Nat.div_mul_le_self (2 * side + factor) (2 * factor)
    have half : (2 * side + factor) / (2 * factor) * (2 * factor) =
        2 * ((2 * side + factor) / (2 * factor) * factor) := by ring
    omega

theorem floorByFactor_eq (small : side < 2 ^ 63) :
    floorByFactor realDouble side factor = .ok (side / factor * factor : Nat) := by
  apply byFactor_eq
  · simp only [realDouble, floor_natCast_div, Int.cast_natCast]
  · exact Nat.lt_of_le_of_lt (Nat.div_mul_le_self side factor) small

theorem ceilByFactor_eq (positive : 0 < factor) (small : side + factor < 2 ^ 63) :
    ceilByFactor realDouble side factor = .ok (side ⌈/⌉ factor * factor : Nat) := by
  apply byFactor_eq
  · simp only [realDouble, ceil_natCast_div side positive, Int.cast_natCast]
  · have most := Nat.div_mul_le_self (side + factor - 1) factor
    rw [Nat.ceilDiv_eq_add_pred_div]
    omega

end

section

variable {side other pixels : ℝ}

theorem div_sqrt_area (sided : 0 < side) (bordered : 0 < other) (painted : 0 < pixels) :
    side / √(side * other / pixels) = √(pixels * side / other) := by
  have area : 0 < side * other / pixels := by positivity
  have square : pixels * side / other * (side * other / pixels) = side ^ 2 := by
    field_simp
  rw [div_eq_iff (Real.sqrt_pos.mpr area).ne', ← Real.sqrt_mul (by positivity), square,
    Real.sqrt_sq sided.le]

theorem mul_sqrt_area (sided : 0 < side) (bordered : 0 < other) (painted : 0 < pixels) :
    side * √(pixels / (side * other)) = √(pixels * side / other) := by
  have square : side ^ 2 * (pixels / (side * other)) = pixels * side / other := by
    field_simp
  rw [← square, Real.sqrt_mul (sq_nonneg side), Real.sqrt_sq sided.le]

end

structure Budget where
  factor : Nat
  minTokens : Nat
  maxTokens : Nat

namespace Budget

variable (budget : Budget)

structure Of {F : Type} (config : QwenVLConfig F) : Prop where
  factor : config.patchSize * config.mergeSize = budget.factor
  minTokens : config.minImageTokens = budget.minTokens
  maxTokens : config.maxImageTokens = budget.maxTokens

structure Valid : Prop where
  factor : 0 < budget.factor
  some_tokens : 0 < budget.minTokens
  more_tokens : budget.minTokens < budget.maxTokens

def rounded (side : Nat) : Nat :=
  max 1 ((2 * side + budget.factor) / (2 * budget.factor))

def shrunk (side other : Nat) : Nat :=
  Nat.sqrt (budget.maxTokens * side / other)

def grown (side other : Nat) : Nat :=
  Nat.sqrt (budget.minTokens * (budget.factor * budget.factor) * side / other) ⌈/⌉ budget.factor

variable {budget}

theorem sqrt_pixels_lt {pixels side other : Nat} (painted : pixels < 2 ^ 63)
    (sided : side < 2 ^ 31) : Nat.sqrt (pixels * side / other) < 2 ^ 47 := by
  rw [Nat.sqrt_lt]
  calc pixels * side / other ≤ pixels * side := Nat.div_le_self _ _
    _ < 2 ^ 63 * 2 ^ 31 := Nat.mul_lt_mul'' painted sided
    _ = 2 ^ 47 * 2 ^ 47 := by norm_num

/-- Cutting a side to whole pixels first makes no difference to its tokens. -/
theorem shrunk_eq (valid : budget.Valid) (side other : Nat) :
    Nat.sqrt (budget.maxTokens * (budget.factor * budget.factor) * side / other) /
      budget.factor = budget.shrunk side other := by
  have square := Nat.mul_pos valid.factor valid.factor
  rw [← sqrt_div_mul_self _ valid.factor, Nat.div_div_eq_div_mul, shrunk,
    show budget.maxTokens * (budget.factor * budget.factor) * side =
      budget.maxTokens * side * (budget.factor * budget.factor) by ring,
    Nat.mul_div_mul_right _ _ square]

theorem rounded_mul (side : Nat) :
    max budget.factor ((2 * side + budget.factor) / (2 * budget.factor) * budget.factor) =
      budget.rounded side * budget.factor := by
  rw [rounded, ← Nat.mul_max_mul_right, Nat.one_mul]

theorem rounded_mul_lt {side : Nat} (narrow : budget.factor < 2 ^ 31) (sided : side < 2 ^ 31) :
    3 * (budget.rounded side * budget.factor) < 2 ^ 33 := by
  have most := Nat.div_mul_le_self (2 * side + budget.factor) (2 * budget.factor)
  rw [← rounded_mul]
  generalize steps_eq : (2 * side + budget.factor) / (2 * budget.factor) = steps at *
  have double : steps * (2 * budget.factor) = 2 * (steps * budget.factor) := by ring
  rcases Nat.lt_or_ge steps 2 with single | several
  · have one : steps * budget.factor ≤ 1 * budget.factor := Nat.mul_le_mul_right _ (by omega)
    omega
  · have two : 2 * budget.factor ≤ steps * budget.factor := Nat.mul_le_mul_right _ several
    omega

theorem pixels_lt {height width : Nat} (narrow : budget.factor < 2 ^ 31)
    (high : height < 2 ^ 31) (wide : width < 2 ^ 31) :
    budget.rounded height * budget.factor * (budget.rounded width * budget.factor) < 2 ^ 63 := by
  have product := Nat.mul_lt_mul'' (rounded_mul_lt narrow high) (rounded_mul_lt narrow wide)
  have nine : 3 * (budget.rounded height * budget.factor) *
      (3 * (budget.rounded width * budget.factor)) =
      9 * (budget.rounded height * budget.factor * (budget.rounded width * budget.factor)) := by
    ring
  omega

def resized (budget : Budget) (height width : Nat) : Except Failure (Int × Int) :=
  let sized (tall broad : Nat) : Except Failure (Int × Int) :=
    .ok (narrow (tall * budget.factor : Nat), narrow (broad * budget.factor : Nat))
  let tokens := budget.rounded height * budget.rounded width
  if 2 ^ 31 ≤ budget.factor ∨ 2 ^ 63 ≤ budget.maxTokens * (budget.factor * budget.factor) then
    .error .overflow
  else if budget.maxTokens < tokens then
    if 2 ^ 31 ≤ height * width then .error .overflow
    else sized (budget.shrunk height width) (budget.shrunk width height)
  else if tokens < budget.minTokens then
    if 2 ^ 31 ≤ height * width then .error .overflow
    else sized (budget.grown height width) (budget.grown width height)
  else sized (budget.rounded height) (budget.rounded width)

end Budget

theorem int32_natCast (number : Nat) :
    int32 number = if 2 ^ 31 ≤ number then .error .overflow else .ok (number : Int) := by
  rw [int32]
  split <;> split <;> first | rfl | omega

theorem int64_natCast (number : Nat) :
    int64 number = if 2 ^ 63 ≤ number then .error .overflow else .ok (number : Int) := by
  rw [int64]
  split <;> split <;> first | rfl | omega

theorem int64_pixels (tokens : Nat) {factor : Nat} (positive : 0 < factor) :
    (int64 ((tokens : Int) * factor) >>= fun pixels => int64 (pixels * factor)) =
      if 2 ^ 63 ≤ tokens * (factor * factor) then .error .overflow
      else .ok ((tokens * (factor * factor) : Nat) : Int) := by
  have more : tokens * factor ≤ tokens * factor * factor := Nat.le_mul_of_pos_right _ positive
  rw [← Int.natCast_mul, int64_natCast, ← Nat.mul_assoc]
  by_cases first : 2 ^ 63 ≤ tokens * factor
  · rw [if_pos first, if_pos (first.trans more), error_then]
  · rw [if_neg first, ok_then, ← Int.natCast_mul, int64_natCast]

section

variable {side other pixels area : Nat}

theorem toInt_sqrt (bordered : 0 < other) (narrow : side < 2 ^ 31) (few : pixels < 2 ^ 63) :
    toInt realDouble √((pixels : ℝ) * side / other) =
      .ok (Nat.sqrt (pixels * side / other) : Nat) := by
  have small := @Budget.sqrt_pixels_lt pixels side other few narrow
  have floor := floor_sqrt_div (pixels * side) bordered
  rw [Nat.cast_mul] at floor
  exact toInt_floor (Real.sqrt_nonneg _) floor (small.trans (by norm_num))

variable (sided : 0 < side) (bordered : 0 < other) (painted : 0 < pixels)
  (covers : side * other = area) (narrow : side < 2 ^ 31) (few : pixels < 2 ^ 63)
include sided bordered painted covers narrow few

theorem toInt_div_sqrt :
    toInt realDouble (realDouble.div (realDouble.ofInt side) (realDouble.sqrt
        (realDouble.div (realDouble.ofInt area) (realDouble.ofInt pixels)))) =
      .ok (Nat.sqrt (pixels * side / other) : Nat) := by
  rw [← toInt_sqrt bordered narrow few, ← div_sqrt_area (Nat.cast_pos.mpr sided)
    (Nat.cast_pos.mpr bordered) (Nat.cast_pos.mpr painted)]
  simp only [realDouble, ← covers, Int.cast_natCast, Nat.cast_mul, Int.cast_mul]

theorem toInt_mul_sqrt :
    toInt realDouble (realDouble.mul (realDouble.ofInt side) (realDouble.sqrt
        (realDouble.div (realDouble.ofInt pixels) (realDouble.ofInt area)))) =
      .ok (Nat.sqrt (pixels * side / other) : Nat) := by
  rw [← toInt_sqrt bordered narrow few, ← mul_sqrt_area (Nat.cast_pos.mpr sided)
    (Nat.cast_pos.mpr bordered) (Nat.cast_pos.mpr painted)]
  simp only [realDouble, ← covers, Int.cast_natCast, Nat.cast_mul, Int.cast_mul]

end

section

variable {budget : Budget} {β : Type} {side other area : Nat} (valid : budget.Valid)
  (sided : 0 < side) (bordered : 0 < other) (covers : side * other = area)
  (narrow : side < 2 ^ 31)
include valid sided bordered covers narrow

theorem shrink_side (few : budget.maxTokens * (budget.factor * budget.factor) < 2 ^ 63)
    (next : Int → Except Failure β) :
    (toInt realDouble (realDouble.div (realDouble.ofInt side) (realDouble.sqrt
        (realDouble.div (realDouble.ofInt area) (realDouble.ofInt
          (budget.maxTokens * (budget.factor * budget.factor) : Nat))))) >>= fun pixels =>
      floorByFactor realDouble pixels budget.factor >>= next) =
      next (budget.shrunk side other * budget.factor : Nat) := by
  have painted := Nat.mul_pos (valid.some_tokens.trans valid.more_tokens)
    (Nat.mul_pos valid.factor valid.factor)
  have small := @Budget.sqrt_pixels_lt _ side other few narrow
  rw [toInt_div_sqrt sided bordered painted covers narrow few, ok_then,
    floorByFactor_eq (small.trans (by norm_num)), ok_then, Budget.shrunk_eq valid]

theorem grow_side (factor : budget.factor < 2 ^ 31)
    (few : budget.minTokens * (budget.factor * budget.factor) < 2 ^ 63)
    (next : Int → Except Failure β) :
    (toInt realDouble (realDouble.mul (realDouble.ofInt side) (realDouble.sqrt
        (realDouble.div (realDouble.ofInt
          (budget.minTokens * (budget.factor * budget.factor) : Nat))
            (realDouble.ofInt area)))) >>= fun pixels =>
      ceilByFactor realDouble pixels budget.factor >>= next) =
      next (budget.grown side other * budget.factor : Nat) := by
  have painted := Nat.mul_pos valid.some_tokens (Nat.mul_pos valid.factor valid.factor)
  have small := @Budget.sqrt_pixels_lt _ side other few narrow
  rw [toInt_mul_sqrt sided bordered painted covers narrow few, ok_then,
    ceilByFactor_eq valid.factor (by omega), ok_then, Budget.grown]

end

/-- The whole of the function, in numbers. -/
theorem getResizedImageSize_eq {F : Type} {config : QwenVLConfig F} {budget : Budget}
    (describes : budget.Of config) (valid : budget.Valid) {height width : Nat}
    (some_rows : 0 < height) (some_columns : 0 < width) (high : height < 2 ^ 31)
    (wide : width < 2 ^ 31) :
    getResizedImageSize realDouble config height width = budget.resized height width := by
  have square := Nat.mul_pos valid.factor valid.factor
  rw [getResizedImageSize, describes.factor, describes.minTokens, describes.maxTokens,
    int32_natCast]
  by_cases narrow : 2 ^ 31 ≤ budget.factor
  · rw [if_pos narrow, error_then, Budget.resized, if_pos (Or.inl narrow)]
  rw [if_neg narrow, ok_then, int64_pixels _ valid.factor, int64_pixels _ valid.factor]
  have fewer : budget.minTokens * (budget.factor * budget.factor) ≤
      budget.maxTokens * (budget.factor * budget.factor) :=
    Nat.mul_le_mul_right _ valid.more_tokens.le
  by_cases many : 2 ^ 63 ≤ budget.maxTokens * (budget.factor * budget.factor)
  · rw [Budget.resized, if_pos (Or.inr many), if_pos many]
    split
    · rw [error_then]
    · rw [ok_then, error_then]
  have least : ¬2 ^ 63 ≤ budget.minTokens * (budget.factor * budget.factor) := by omega
  have bounded : ¬(2 ^ 31 ≤ budget.factor ∨
      2 ^ 63 ≤ budget.maxTokens * (budget.factor * budget.factor)) := by omega
  rw [if_neg least, ok_then, if_neg many, ok_then, roundByFactor_eq valid.factor (by omega),
    ok_then, roundByFactor_eq valid.factor (by omega), ok_then, Budget.resized, if_neg bounded]
  have side (side : Nat) : max (budget.factor : Int)
      ((2 * side + budget.factor) / (2 * budget.factor) * budget.factor : Nat) =
      (budget.rounded side * budget.factor : Nat) := by
    rw [← Budget.rounded_mul, Nat.cast_max]
  have product : budget.rounded height * budget.factor * (budget.rounded width * budget.factor) =
      budget.rounded height * budget.rounded width * (budget.factor * budget.factor) := by ring
  have fits := Budget.pixels_lt (Nat.not_le.mp narrow) high wide
  simp only [side]
  rw [← Int.natCast_mul, int64_natCast, if_neg (Nat.not_le.mpr fits), ok_then, product]
  simp only [Nat.cast_lt, Nat.mul_lt_mul_right square, ← Int.natCast_mul, int32_natCast]
  have covers : width * height = height * width := Nat.mul_comm _ _
  split
  · split
    · rw [error_then]
    · rw [ok_then, shrink_side valid some_rows some_columns rfl high (by omega),
        shrink_side valid some_columns some_rows covers wide (by omega)]
      rfl
  · split
    · split
      · rw [error_then]
      · rw [ok_then, grow_side valid some_rows some_columns rfl high (by omega) (by omega),
          grow_side valid some_columns some_rows covers wide (by omega) (by omega)]
        rfl
    · rfl

theorem narrow_of_lt {value : Int} (nonneg : 0 ≤ value) (small : value < 2 ^ 31) :
    narrow value = value := by
  rw [narrow, Int.bmod_def]
  omega

theorem narrow_le {value : Int} (nonneg : 0 ≤ value) : narrow value ≤ value := by
  rw [narrow, Int.bmod_def]
  omega

theorem narrow_neg {value : Int} (large : 2 ^ 31 ≤ value) (small : value < 2 ^ 32) :
    narrow value < 0 := by
  rw [narrow, Int.bmod_def]
  omega

namespace Budget

variable (budget : Budget)

structure Keeps (size : Int × Int) : Prop where
  rows : 0 < size.1
  columns : 0 < size.2
  whole_rows : (budget.factor : Int) ∣ size.1
  whole_columns : (budget.factor : Int) ∣ size.2
  least : (budget.minTokens : Int) * budget.factor ^ 2 ≤ size.1 * size.2
  most : size.1 * size.2 ≤ (budget.maxTokens : Int) * budget.factor ^ 2

/-- After the cast to 32 bits, which changes nothing below `2 ^ 31`, the sides have as many
tokens as they may have. -/
def Stays (tall broad : Nat) : Prop :=
  ∃ rows columns : Nat, narrow (tall * budget.factor : Nat) = (rows * budget.factor : Nat) ∧
    narrow (broad * budget.factor : Nat) = (columns * budget.factor : Nat) ∧
    budget.minTokens ≤ rows * columns ∧ rows * columns ≤ budget.maxTokens

variable {budget}

theorem keeps_iff (valid : budget.Valid) (rows columns : Nat) :
    budget.Keeps ((rows * budget.factor : Nat), (columns * budget.factor : Nat)) ↔
      budget.minTokens ≤ rows * columns ∧ rows * columns ≤ budget.maxTokens := by
  have square := Nat.mul_pos valid.factor valid.factor
  have area : rows * budget.factor * (columns * budget.factor) =
      rows * columns * (budget.factor * budget.factor) := by ring
  constructor
  · intro keeps
    have least := keeps.least
    have most := keeps.most
    simp only [sq, ← Int.natCast_mul, Nat.cast_le, area] at least most
    exact ⟨Nat.le_of_mul_le_mul_right least square, Nat.le_of_mul_le_mul_right most square⟩
  · rintro ⟨least, most⟩
    have positive : 0 < rows * columns := valid.some_tokens.trans_le least
    have tall : 0 < rows := Nat.pos_of_mul_pos_right positive
    have broad : 0 < columns := Nat.pos_of_mul_pos_left positive
    constructor
    · exact Int.natCast_pos.mpr (Nat.mul_pos tall valid.factor)
    · exact Int.natCast_pos.mpr (Nat.mul_pos broad valid.factor)
    · exact Int.natCast_dvd_natCast.mpr (Nat.dvd_mul_left _ _)
    · exact Int.natCast_dvd_natCast.mpr (Nat.dvd_mul_left _ _)
    · simp only [sq, ← Int.natCast_mul, Nat.cast_le, area]
      exact Nat.mul_le_mul_right _ least
    · simp only [sq, ← Int.natCast_mul, Nat.cast_le, area]
      exact Nat.mul_le_mul_right _ most

theorem exists_tokens {side : Int} (positive : 0 < side) (whole : (budget.factor : Int) ∣ side) :
    ∃ tokens : Nat, side = (tokens * budget.factor : Nat) := by
  obtain ⟨length, rfl⟩ := Int.eq_ofNat_of_zero_le positive.le
  obtain ⟨tokens, rfl⟩ := Int.natCast_dvd_natCast.mp whole
  exact ⟨tokens, by rw [Nat.mul_comm]⟩

theorem keeps_narrow (valid : budget.Valid) (tall broad : Nat) :
    budget.Keeps (narrow (tall * budget.factor : Nat), narrow (broad * budget.factor : Nat)) ↔
      budget.Stays tall broad := by
  constructor
  · intro keeps
    obtain ⟨rows, high⟩ := exists_tokens keeps.rows keeps.whole_rows
    obtain ⟨columns, wide⟩ := exists_tokens keeps.columns keeps.whole_columns
    simp only at high wide
    rw [high, wide] at keeps
    exact ⟨rows, columns, high, wide, (keeps_iff valid rows columns).mp keeps⟩
  · rintro ⟨rows, columns, high, wide, within⟩
    rw [high, wide]
    exact (keeps_iff valid rows columns).mpr within

theorem stays_of_lt (valid : budget.Valid) {tall broad : Nat}
    (high : tall * budget.factor < 2 ^ 31)
    (wide : broad * budget.factor < 2 ^ 31) :
    budget.Stays tall broad ↔
      budget.minTokens ≤ tall * broad ∧ tall * broad ≤ budget.maxTokens := by
  have same {tokens : Nat} (small : tokens * budget.factor < 2 ^ 31) :
      narrow (tokens * budget.factor : Nat) = (tokens * budget.factor : Nat) :=
    narrow_of_lt (Int.natCast_nonneg _) (by omega)
  constructor
  · rintro ⟨rows, columns, rows_eq, columns_eq, within⟩
    rw [same high, Nat.cast_inj] at rows_eq
    rw [same wide, Nat.cast_inj] at columns_eq
    rwa [Nat.eq_of_mul_eq_mul_right valid.factor rows_eq,
      Nat.eq_of_mul_eq_mul_right valid.factor columns_eq]
  · exact fun within => ⟨tall, broad, same high, same wide, within⟩

section

variable {height width : Nat}

theorem rounded_le (valid : budget.Valid) {side : Nat} (some_pixels : 0 < side) :
    budget.rounded side ≤ side := by
  rw [rounded, Nat.max_le]
  refine ⟨some_pixels, ?_⟩
  rw [← Nat.lt_succ_iff, Nat.div_lt_iff_lt_mul (Nat.mul_pos (by decide) valid.factor)]
  have one := valid.factor
  nlinarith

theorem rounded_mul_le {side : Nat} (half : budget.factor ≤ 2 * side) :
    budget.rounded side * budget.factor ≤ 2 * side := by
  have most := Nat.div_mul_le_self (2 * side + budget.factor) (2 * budget.factor)
  rw [← rounded_mul]
  generalize (2 * side + budget.factor) / (2 * budget.factor) = steps at *
  have double : steps * (2 * budget.factor) = 2 * (steps * budget.factor) := by ring
  omega

theorem shrunk_mul_le (tall : 0 < height) (broad : 0 < width) :
    budget.shrunk height width * budget.shrunk width height ≤ budget.maxTokens := by
  have rows := Nat.sqrt_le (budget.maxTokens * height / width)
  have columns := Nat.sqrt_le (budget.maxTokens * width / height)
  rw [Nat.le_div_iff_mul_le broad] at rows
  rw [Nat.le_div_iff_mul_le tall] at columns
  have both := Nat.mul_le_mul rows columns
  rw [← Nat.mul_self_le_mul_self_iff]
  apply Nat.le_of_mul_le_mul_right _ (Nat.mul_pos tall broad)
  rw [shrunk, shrunk]
  linarith

theorem le_mul_of_shrunk (some_rows : 0 < budget.shrunk height width) :
    width ≤ budget.maxTokens * height :=
  (Nat.div_pos_iff.mp (Nat.sqrt_pos.mp some_rows)).2

theorem le_of_shrunk (valid : budget.Valid)
    (many : budget.maxTokens < budget.rounded height * budget.rounded width)
    (some_rows : 0 < budget.shrunk height width) : budget.factor ≤ 2 * height := by
  by_contra short
  have some_factor := valid.factor
  have two : 1 < budget.maxTokens := Nat.lt_of_le_of_lt valid.some_tokens valid.more_tokens
  have one : budget.rounded height = 1 := by
    rw [rounded, Nat.div_eq_of_lt (by omega)]
    rfl
  rw [one, Nat.one_mul, rounded, lt_max_iff] at many
  have steps : budget.maxTokens + 1 ≤ (2 * width + budget.factor) / (2 * budget.factor) := by
    omega
  rw [Nat.le_div_iff_mul_le (by omega)] at steps
  have long := le_mul_of_shrunk some_rows
  nlinarith

theorem pixels_lt_area (valid : budget.Valid)
    (many : budget.maxTokens < budget.rounded height * budget.rounded width)
    (some_rows : 0 < budget.shrunk height width)
    (some_columns : 0 < budget.shrunk width height) :
    budget.maxTokens * (budget.factor * budget.factor) < 4 * (height * width) := by
  have high := rounded_mul_le (le_of_shrunk valid many some_rows)
  have wide := rounded_mul_le (le_of_shrunk valid (by rwa [Nat.mul_comm]) some_columns)
  calc budget.maxTokens * (budget.factor * budget.factor)
      < budget.rounded height * budget.rounded width * (budget.factor * budget.factor) :=
        Nat.mul_lt_mul_of_pos_right many (Nat.mul_pos valid.factor valid.factor)
    _ = budget.rounded height * budget.factor * (budget.rounded width * budget.factor) := by ring
    _ ≤ 2 * height * (2 * width) := Nat.mul_le_mul high wide
    _ = 4 * (height * width) := by ring

theorem shrunk_mul_lt_double (tall : 0 < height) (broad : 0 < width)
    (pixels : budget.maxTokens * (budget.factor * budget.factor) < 4 * (height * width)) :
    budget.shrunk height width * budget.factor < 2 * height := by
  have root := Nat.sqrt_le (budget.maxTokens * height / width)
  rw [← shrunk, Nat.le_div_iff_mul_le broad] at root
  apply Nat.mul_self_lt_mul_self_iff.mp
  apply Nat.lt_of_mul_lt_mul_right
  calc budget.shrunk height width * budget.factor * (budget.shrunk height width * budget.factor) *
        width
      = budget.shrunk height width * budget.shrunk height width * width *
          (budget.factor * budget.factor) := by ring
    _ ≤ budget.maxTokens * height * (budget.factor * budget.factor) :=
        Nat.mul_le_mul_right _ root
    _ = budget.maxTokens * (budget.factor * budget.factor) * height := by ring
    _ < 4 * (height * width) * height := Nat.mul_lt_mul_of_pos_right pixels tall
    _ = 2 * height * (2 * height) * width := by ring

theorem shrunk_mul_lt (valid : budget.Valid) (tall : 0 < height) (broad : 0 < width)
    (area : height * width < 2 ^ 31)
    (many : budget.maxTokens < budget.rounded height * budget.rounded width)
    (some_rows : 0 < budget.shrunk height width)
    (some_columns : 0 < budget.shrunk width height) :
    budget.shrunk height width * budget.factor < 2 ^ 31 := by
  have double := shrunk_mul_lt_double tall broad (pixels_lt_area valid many some_rows some_columns)
  rcases Nat.lt_or_ge 1 width with several | one
  · have twice := Nat.mul_le_mul_left height several
    omega
  -- A single column is one token wide, and then the rows are not too many.
  · obtain rfl : width = 1 := by omega
    have product := Nat.mul_le_mul (rounded_le valid tall) (rounded_le valid broad)
    have long := le_mul_of_shrunk some_columns
    omega

theorem stays_shrunk (valid : budget.Valid) (tall : 0 < height) (broad : 0 < width)
    (area : height * width < 2 ^ 31)
    (many : budget.maxTokens < budget.rounded height * budget.rounded width) :
    budget.Stays (budget.shrunk height width) (budget.shrunk width height) ↔
      budget.minTokens ≤ budget.shrunk height width * budget.shrunk width height := by
  constructor
  · rintro ⟨rows, columns, high, wide, least, _⟩
    -- A cast that gives a number of tokens gives none that were not there.
    have fewer {tokens kept : Nat} (cast : narrow (tokens * budget.factor : Nat) =
        (kept * budget.factor : Nat)) : kept ≤ tokens := by
      have less := narrow_le (Int.natCast_nonneg (tokens * budget.factor))
      rw [cast, Nat.cast_le] at less
      exact Nat.le_of_mul_le_mul_right less valid.factor
    exact least.trans (Nat.mul_le_mul (fewer high) (fewer wide))
  · intro least
    have positive : 0 < budget.shrunk height width * budget.shrunk width height :=
      Nat.lt_of_lt_of_le valid.some_tokens least
    have some_rows := Nat.pos_of_mul_pos_right positive
    have some_columns := Nat.pos_of_mul_pos_left positive
    have high := shrunk_mul_lt valid tall broad area many some_rows some_columns
    have wide := shrunk_mul_lt valid broad tall (by rwa [Nat.mul_comm]) (by rwa [Nat.mul_comm])
      some_columns some_rows
    exact (stays_of_lt valid high wide).mpr ⟨least, shrunk_mul_le tall broad⟩

theorem stays_rounded (valid : budget.Valid) (factor : budget.factor < 2 ^ 31)
    (high : height < 2 ^ 31) (wide : width < 2 ^ 31)
    (least : budget.minTokens ≤ budget.rounded height * budget.rounded width)
    (most : budget.rounded height * budget.rounded width ≤ budget.maxTokens) :
    budget.Stays (budget.rounded height) (budget.rounded width) ↔
      budget.rounded height * budget.factor < 2 ^ 31 ∧
        budget.rounded width * budget.factor < 2 ^ 31 := by
  constructor
  · rintro ⟨rows, columns, rows_eq, columns_eq, _⟩
    -- What is too large for 32 bits is below zero after the cast.
    have fits {side kept : Nat} (bounded : side < 2 ^ 31)
        (cast : narrow (budget.rounded side * budget.factor : Nat) =
          (kept * budget.factor : Nat)) : budget.rounded side * budget.factor < 2 ^ 31 := by
      have third := rounded_mul_lt factor bounded
      by_contra large
      have below := @narrow_neg (budget.rounded side * budget.factor : Nat) (by omega) (by omega)
      rw [cast] at below
      exact Int.not_lt.mpr (Int.natCast_nonneg _) below
    exact ⟨fits high rows_eq, fits wide columns_eq⟩
  · rintro ⟨tall, broad⟩
    exact (stays_of_lt valid tall broad).mpr ⟨least, most⟩

end

structure Serves (budget : Budget) (height width : Nat) : Prop where
  factor : budget.factor < 2 ^ 31
  pixels : budget.maxTokens * (budget.factor * budget.factor) < 2 ^ 63
  large : budget.maxTokens < budget.rounded height * budget.rounded width →
    height * width < 2 ^ 31 ∧
      budget.minTokens ≤ budget.shrunk height width * budget.shrunk width height
  small : budget.rounded height * budget.rounded width < budget.minTokens →
    height * width < 2 ^ 31 ∧ budget.Stays (budget.grown height width) (budget.grown width height)
  middle : budget.minTokens ≤ budget.rounded height * budget.rounded width →
    budget.rounded height * budget.rounded width ≤ budget.maxTokens →
      budget.rounded height * budget.factor < 2 ^ 31 ∧
        budget.rounded width * budget.factor < 2 ^ 31

theorem resized_keeps_iff (valid : budget.Valid) {height width : Nat} (tall : 0 < height)
    (broad : 0 < width) (high : height < 2 ^ 31) (wide : width < 2 ^ 31) :
    (∃ size, budget.resized height width = .ok size ∧ budget.Keeps size) ↔
      budget.Serves height width := by
  have returns {size : Int × Int} :
      (∃ size', (.ok size : Except Failure (Int × Int)) = .ok size' ∧ budget.Keeps size') ↔
        budget.Keeps size := by
    simp only [Except.ok.injEq, exists_eq_left']
  have fails : ¬∃ size, (.error .overflow : Except Failure (Int × Int)) = .ok size ∧
      budget.Keeps size := by
    rintro ⟨_, impossible, _⟩
    cases impossible
  rw [resized]
  split
  · next overflows =>
      refine iff_of_false fails fun serves => ?_
      have := serves.factor
      have := serves.pixels
      omega
  next bounded =>
  obtain ⟨factor, pixels⟩ := not_or.mp bounded
  rw [Nat.not_le] at factor pixels
  split
  · next many =>
      split
      · next overflows =>
          exact iff_of_false fails fun serves => Nat.not_lt.mpr overflows (serves.large many).1
      · next fits =>
          have area := Nat.not_le.mp fits
          rw [returns, keeps_narrow valid, stays_shrunk valid tall broad area many]
          constructor
          · exact fun least => ⟨factor, pixels, fun _ => ⟨area, least⟩,
              fun few => by have := valid.more_tokens; omega, fun _ most => by omega⟩
          · exact fun serves => (serves.large many).2
  next most =>
  split
  · next few =>
      split
      · next overflows =>
          exact iff_of_false fails fun serves => Nat.not_lt.mpr overflows (serves.small few).1
      · next fits =>
          rw [returns, keeps_narrow valid]
          constructor
          · exact fun stays => ⟨factor, pixels, fun many => absurd many most,
              fun _ => ⟨Nat.not_le.mp fits, stays⟩, fun least => absurd few (Nat.not_lt.mpr least)⟩
          · exact fun serves => (serves.small few).2
  · next enough =>
      have least := Nat.not_lt.mp enough
      have most' := Nat.not_lt.mp most
      rw [returns, keeps_narrow valid, stays_rounded valid factor high wide least most']
      constructor
      · exact fun narrow => ⟨factor, pixels, fun many => absurd many most,
          fun few => absurd few enough, fun _ _ => narrow⟩
      · exact fun serves => serves.middle least most'

end Budget

namespace QwenVLConfig

variable {F : Type} (config : QwenVLConfig F)

def budget : Budget where
  factor := (config.patchSize * config.mergeSize).toNat
  minTokens := config.minImageTokens.toNat
  maxTokens := config.maxImageTokens.toNat

variable {config}

theorem budget_of (patching : 0 < config.patchSize) (merging : 0 < config.mergeSize)
    (some_tokens : 1 ≤ config.minImageTokens)
    (more_tokens : config.minImageTokens < config.maxImageTokens) :
    config.budget.Of config ∧ config.budget.Valid := by
  have factor := Int.mul_pos patching merging
  constructor
  · constructor
    · exact (Int.toNat_of_nonneg factor.le).symm
    · exact (Int.toNat_of_nonneg (by omega)).symm
    · exact (Int.toNat_of_nonneg (by omega)).symm
  · constructor
    · exact Int.lt_toNat.mpr factor
    · exact Int.lt_toNat.mpr some_tokens
    · exact (Int.toNat_lt_toNat (by omega)).mpr more_tokens

theorem keeps_iff_serves (patching : 0 < config.patchSize) (merging : 0 < config.mergeSize)
    (some_tokens : 1 ≤ config.minImageTokens)
    (more_tokens : config.minImageTokens < config.maxImageTokens) {height width : Nat}
    (tall : 0 < height) (broad : 0 < width) (high : height < 2 ^ 31) (wide : width < 2 ^ 31) :
    (∃ size, getResizedImageSize realDouble config height width = .ok size ∧
      config.budget.Keeps size) ↔ config.budget.Serves height width := by
  obtain ⟨describes, valid⟩ := budget_of patching merging some_tokens more_tokens
  rw [getResizedImageSize_eq describes valid tall broad high wide]
  exact Budget.resized_keeps_iff valid tall broad high wide

/-- The size that is chosen for an image is one of the budget exactly for the images that it
serves. -/
theorem resizedSize_keeps_iff (config : QwenVLConfig F) (height width : Int)
    (patching : 0 < config.patchSize) (merging : 0 < config.mergeSize)
    (some_tokens : 1 ≤ config.minImageTokens)
    (more_tokens : config.minImageTokens < config.maxImageTokens)
    (tall : 1 ≤ height) (broad : 1 ≤ width) (high : height < 2 ^ 31) (wide : width < 2 ^ 31) :
    (∃ size, getResizedImageSize realDouble config height width = .ok size ∧
      config.budget.Keeps size) ↔ config.budget.Serves height.toNat width.toNat := by
  obtain ⟨h, rfl⟩ := Int.eq_ofNat_of_zero_le (show 0 ≤ height by omega)
  obtain ⟨w, rfl⟩ := Int.eq_ofNat_of_zero_le (show 0 ≤ width by omega)
  exact keeps_iff_serves patching merging some_tokens more_tokens (by omega) (by omega)
    (by omega) (by omega)

end QwenVLConfig

theorem budget_qwen3VL : qwen3VL.config.budget = ⟨32, 4, 16384⟩ :=
  rfl

theorem resizedSize_keeps_iff_square : ∃ size,
    getResizedImageSize realDouble qwen3VL.config 448 448 = .ok size ∧
      qwen3VL.config.budget.Keeps size := by
  apply (QwenVLConfig.resizedSize_keeps_iff qwen3VL.config 448 448 (by decide) (by decide)
    (by decide) (by decide) (by decide) (by decide) (by decide) (by decide)).mpr
  rw [budget_qwen3VL]
  exact ⟨by decide, by decide, fun many => absurd many (by decide),
    fun few => absurd few (by decide), fun _ _ => by decide⟩

/-- A thin image loses its side; the area of a large one has more than 32 bits. -/
theorem thinImage_largeImage :
    (¬∃ size, getResizedImageSize realDouble qwen3VL.config 1 600000 = .ok size ∧
      qwen3VL.config.budget.Keeps size) ∧
    ¬∃ size, getResizedImageSize realDouble qwen3VL.config 65536 65536 = .ok size ∧
      qwen3VL.config.budget.Keeps size := by
  have serves {height width : Nat} (tall : 0 < height) (broad : 0 < width)
      (high : height < 2 ^ 31) (wide : width < 2 ^ 31) :=
    @QwenVLConfig.keeps_iff_serves ℝ qwen3VL.config (by decide) (by decide) (by decide)
      (by decide) height width tall broad high wide
  constructor
  · intro kept
    have thin := (@serves 1 600000 (by decide) (by decide) (by decide) (by decide)).mp kept
    have least := (thin.large (by decide)).2
    have vanished : qwen3VL.config.budget.shrunk 1 600000 = 0 := by
      rw [budget_qwen3VL, Budget.shrunk, Nat.div_eq_of_lt (by decide), Nat.sqrt_zero]
    rw [vanished, Nat.zero_mul] at least
    exact absurd least (by decide)
  · intro kept
    have large := (@serves 65536 65536 (by decide) (by decide) (by decide) (by decide)).mp kept
    exact absurd (large.large (by decide)).1 (by decide)

end Iq9Pipeline.Vision.Preprocessor
