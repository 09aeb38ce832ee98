import GrainSynthesis.Arithmetic

/-!
# Vector registers

A register holds signed numbers side by side, in lanes of sixteen or of 32 bits.
An operation treats all lanes alike. Sums, differences and left shifts keep the
low bits of their result; packing confines a wide lane to a narrow one.

Operations that rearrange lanes do so within blocks of 128 bits, that is of
eight narrow or four wide lanes, however many blocks the register has. Every
operation has one lemma that says what a single lane of its result is.
-/

namespace GrainSynthesis

/-- Signed numbers side by side. -/
abbrev Register (lanes : Nat) := Vector Int lanes

namespace Register

/-- The signed sixteen-bit number with the same low bits. -/
def wrap16 (value : Int) : Int := (value + 32768) % 65536 - 32768

/-- The signed 32-bit number with the same low bits. -/
def wrap32 (value : Int) : Int := (value + 2147483648) % 4294967296 - 2147483648

/-- The nearest signed sixteen-bit number. -/
def saturate16 (value : Int) : Int := clip value (-32768) 32767

variable {lanes blocks : Nat}

/-- The same number in every lane. -/
def splat (lanes : Nat) (value : Int) : Register lanes := Vector.replicate lanes value

/-- One number in the lanes with an even position and another in the rest. -/
def splatPair (lanes : Nat) (even odd : Int) : Register lanes :=
  Vector.ofFn fun lane => if lane.val % 2 = 0 then even else odd

/-- The same wide number in every two neighbouring lanes, its low half in the first. -/
def splatHalves (lanes : Nat) (wide : Int) : Register lanes :=
  splatPair lanes (wrap16 wide) (wrap16 (wide / 65536))

/-- Lanewise sums in sixteen bits. -/
def add16 (left right : Register lanes) : Register lanes :=
  Vector.zipWith (fun a b => wrap16 (a + b)) left right

/-- Lanewise differences in sixteen bits. -/
def sub16 (left right : Register lanes) : Register lanes :=
  Vector.zipWith (fun a b => wrap16 (a - b)) left right

/-- Lanewise sums in 32 bits. -/
def add32 (left right : Register lanes) : Register lanes :=
  Vector.zipWith (fun a b => wrap32 (a + b)) left right

/-- The greater of each two lanes. -/
def maxLanes (left right : Register lanes) : Register lanes := Vector.zipWith max left right

/-- The smaller of each two lanes. -/
def minLanes (left right : Register lanes) : Register lanes := Vector.zipWith min left right

/-- Lanewise products, halved fifteen times with rounding, in sixteen bits. -/
def mulHighRounded (left right : Register lanes) : Register lanes :=
  Vector.zipWith (fun a b => wrap16 ((a * b + 16384) / 32768)) left right

/-- Shift every lane left in sixteen bits. -/
def shiftLeft16 (places : Nat) (register : Register lanes) : Register lanes :=
  register.map fun a => wrap16 (a * Int.pow 2 places)

/-- Shift the sixteen bits of every lane right, filling with zeros. -/
def shiftRightZero16 (places : Nat) (register : Register lanes) : Register lanes :=
  register.map fun a => wrap16 (a % 65536 / Int.pow 2 places)

/-- Shift every wide lane right, filling with its sign. -/
def shiftRightSign32 (places : Nat) (register : Register lanes) : Register lanes :=
  register.map fun a => a / Int.pow 2 places

/-- Keep the low bits of every lane. -/
def lowBits (places : Nat) (register : Register lanes) : Register lanes :=
  register.map fun a => a % Int.pow 2 places

/-- Multiply narrow lanes and sum each two neighbouring products in a wide lane. -/
def multiplyAdd (left right : Register (8 * blocks)) : Register (4 * blocks) :=
  Vector.ofFn fun lane =>
    have even : 2 * lane.val < 8 * blocks := by omega
    have odd : 2 * lane.val + 1 < 8 * blocks := by omega
    wrap32 (left[2 * lane.val] * right[2 * lane.val] +
      left[2 * lane.val + 1] * right[2 * lane.val + 1])

/-- Alternate the lower four lanes of each block of two registers. -/
def interleaveLow (left right : Register (8 * blocks)) : Register (8 * blocks) :=
  Vector.ofFn fun lane =>
    have inside : lane.val / 8 * 8 + lane.val % 8 / 2 < 8 * blocks := by omega
    if lane.val % 2 = 0 then left[lane.val / 8 * 8 + lane.val % 8 / 2]
    else right[lane.val / 8 * 8 + lane.val % 8 / 2]

/-- Alternate the upper four lanes of each block of two registers. -/
def interleaveHigh (left right : Register (8 * blocks)) : Register (8 * blocks) :=
  Vector.ofFn fun lane =>
    have inside : lane.val / 8 * 8 + 4 + lane.val % 8 / 2 < 8 * blocks := by omega
    if lane.val % 2 = 0 then left[lane.val / 8 * 8 + 4 + lane.val % 8 / 2]
    else right[lane.val / 8 * 8 + 4 + lane.val % 8 / 2]

/-- Confine wide lanes to narrow ones, each block taking four from the first
register and then four from the second. -/
def pack (low high : Register (4 * blocks)) : Register (8 * blocks) :=
  Vector.ofFn fun lane =>
    have inside : lane.val / 8 * 4 + lane.val % 4 < 4 * blocks := by omega
    saturate16
      (if lane.val % 8 < 4 then low[lane.val / 8 * 4 + lane.val % 4]
      else high[lane.val / 8 * 4 + lane.val % 4])

/-- Sum neighbouring lanes, each block taking four sums from the first register
and then four from the second. -/
def pairSums (low high : Register (8 * blocks)) : Register (8 * blocks) :=
  Vector.ofFn fun lane =>
    have even : lane.val / 8 * 8 + 2 * (lane.val % 4) < 8 * blocks := by omega
    have odd : lane.val / 8 * 8 + 2 * (lane.val % 4) + 1 < 8 * blocks := by omega
    if lane.val % 8 < 4 then
      wrap16 (low[lane.val / 8 * 8 + 2 * (lane.val % 4)] +
        low[lane.val / 8 * 8 + 2 * (lane.val % 4) + 1])
    else
      wrap16 (high[lane.val / 8 * 8 + 2 * (lane.val % 4)] +
        high[lane.val / 8 * 8 + 2 * (lane.val % 4) + 1])

/-- Exchange the two middle quarters of a register of two blocks. -/
def swapMiddle (register : Register (8 * 2)) : Register (8 * 2) :=
  Vector.ofFn fun lane =>
    have inside : lane.val / 4 % 2 * 8 + lane.val / 8 * 4 + lane.val % 4 < 8 * 2 := by omega
    register[lane.val / 4 % 2 * 8 + lane.val / 8 * 4 + lane.val % 4]

/-- A number that fits sixteen bits is kept. -/
theorem wrap16_of_mem (value : Int) (above : -32768 ≤ value) (below : value ≤ 32767) :
    wrap16 value = value := by
  unfold wrap16
  omega

/-- A number that fits 32 bits is kept. -/
theorem wrap32_of_mem (value : Int) (above : -2147483648 ≤ value) (below : value ≤ 2147483647) :
    wrap32 value = value := by
  unfold wrap32
  omega

/-- A lane of lanewise sums. -/
@[simp] theorem getElem_add16 (left right : Register lanes) (lane : Nat) (inside : lane < lanes) :
    (add16 left right)[lane] = wrap16 (left[lane] + right[lane]) := by
  simp [add16]

/-- A lane of lanewise differences. -/
@[simp] theorem getElem_sub16 (left right : Register lanes) (lane : Nat) (inside : lane < lanes) :
    (sub16 left right)[lane] = wrap16 (left[lane] - right[lane]) := by
  simp [sub16]

/-- A lane of wide sums. -/
@[simp] theorem getElem_add32 (left right : Register lanes) (lane : Nat) (inside : lane < lanes) :
    (add32 left right)[lane] = wrap32 (left[lane] + right[lane]) := by
  simp [add32]

/-- A lane of rounded high products. -/
@[simp] theorem getElem_mulHighRounded (left right : Register lanes) (lane : Nat)
    (inside : lane < lanes) :
    (mulHighRounded left right)[lane] = wrap16 ((left[lane] * right[lane] + 16384) / 32768) := by
  simp [mulHighRounded]

/-- A register that is filled lane by lane holds what each lane computed, and is
there exactly when no lane is a fault. -/
theorem ofFnM_eq_ok_iff (lane : Fin lanes → Except Fault Int) (register : Register lanes) :
    Vector.ofFnM lane = .ok register ↔ ∀ index : Fin lanes, lane index = .ok register[index] := by
  induction lanes with
  | zero =>
    constructor
    · intro _ index
      exact index.elim0
    · intro _
      rw [Vector.ofFnM_zero]
      exact congrArg Except.ok (Vector.ext fun index impossible => by omega)
  | succ lanes inductionHypothesis =>
    rw [Vector.ofFnM_succ]
    constructor
    · intro filled
      cases earlier : Vector.ofFnM fun index => lane index.castSucc with
      | error fault => simp [earlier, bind, Except.bind] at filled
      | ok before =>
        cases latest : lane (Fin.last lanes) with
        | error fault => simp [earlier, latest, bind, Except.bind] at filled
        | ok last =>
          simp only [earlier, latest, bind, Except.bind, pure, Except.pure,
            Except.ok.injEq] at filled
          subst filled
          intro index
          refine Fin.lastCases ?_ (fun inner => ?_) index
          · simpa using latest
          · have held := (inductionHypothesis _ before).mp earlier inner
            simpa [Vector.getElem_push, inner.isLt] using held
    · intro every
      have earlier : Vector.ofFnM (fun index => lane index.castSucc) = .ok register.pop := by
        refine (inductionHypothesis _ _).mpr fun inner => ?_
        have held := every inner.castSucc
        simpa using held
      have latest := every (Fin.last lanes)
      simp only [earlier, latest, bind, Except.bind, pure, Except.pure, Except.ok.injEq]
      refine Vector.ext fun index inside => ?_
      by_cases inner : index < lanes
      · simp [inner]
      · have same : index = lanes := by omega
        subst same
        simp

end Register

end GrainSynthesis
