import Guildhall.Proofs.Snowflake.Issue
import Guildhall.Proofs.Store.Word
import Mathlib.Data.Int.Bitwise

/-!
The layout of identifiers. An identifier is its parts side by side, bit for bit, and gives each of
them back, so that it has no other parts and no two nodes issue the same one. As long as the clock
shows times of 41 bits identifiers are words.
-/

namespace Guildhall.Snowflake

section Bits

/-- The low bits of a number of ones, without those of another number. -/
theorem ldiff_ones (high : Nat) {low width : Nat} (small : low < 2 ^ width) :
    Nat.ldiff (2 ^ width * high + (2 ^ width - 1)) low =
      2 ^ width * high + (2 ^ width - (low + 1)) := by
  have ones : 2 ^ width - 1 < 2 ^ width := Nat.sub_lt (Nat.two_pow_pos width) Nat.one_pos
  have others : 2 ^ width - (low + 1) < 2 ^ width := by omega
  refine Nat.eq_of_testBit_eq fun i => ?_
  rw [Nat.testBit_ldiff, Nat.testBit_two_pow_mul_add high ones,
    Nat.testBit_two_pow_mul_add high others]
  by_cases inside : i < width
  · simp [inside, Nat.testBit_two_pow_sub_succ small]
  · have beyond : low < 2 ^ i :=
      Nat.lt_of_lt_of_le small (Nat.pow_le_pow_right Nat.two_pos (Nat.not_lt.mp inside))
    simp [inside, Nat.testBit_lt_two_pow beyond]

theorem lor_shifted (high : Int) {low width : Nat} (small : low < 2 ^ width) :
    Int.lor (high * 2 ^ width) low = high * 2 ^ width + low := by
  cases high with
  | ofNat high =>
      have joined := Nat.two_pow_add_eq_or_of_lt small high
      have natural : (Int.ofNat high * 2 ^ width : Int) = ((2 ^ width * high : Nat) : Int) := by
        push_cast
        exact Int.mul_comm _ _
      rw [natural]
      exact (congrArg Nat.cast joined).symm.trans (Int.natCast_add _ _)
  | negSucc high =>
      have room := Nat.two_pow_pos width
      have negative : Int.negSucc high * 2 ^ width =
          Int.negSucc (2 ^ width * high + (2 ^ width - 1)) := by
        rw [Int.negSucc_eq, Int.negSucc_eq]
        push_cast [Nat.one_le_two_pow]
        ring
      have joined : Int.lor (Int.negSucc (2 ^ width * high + (2 ^ width - 1))) low =
          Int.negSucc (Nat.ldiff (2 ^ width * high + (2 ^ width - 1)) low) := rfl
      rw [negative, joined, ldiff_ones high small, Int.negSucc_eq, Int.negSucc_eq]
      push_cast [Nat.one_le_two_pow, Nat.succ_le_of_lt small]
      ring

end Bits

def joined (millis : Int) (node : Node) (sequence : Nat) : Int :=
  (((millis <<< timestampShift).lor ((node.worker.val : Int) <<< (sequenceBits + processBits))).lor
    ((node.process.val : Int) <<< sequenceBits)).lor sequence

section Packing

variable (millis : Int) (node : Node) {sequence : Nat}

theorem pack_eq : pack millis node sequence =
    millis * 4194304 + node.worker.val * 131072 + node.process.val * 4096 + sequence := rfl

variable (small : sequence < sequenceCount)

include small

theorem joined_eq_pack : joined millis node sequence = pack millis node sequence := by
  have workerFits : node.worker.val * 2 ^ 17 < 2 ^ 22 :=
    Nat.mul_lt_mul_of_pos_right node.worker.isLt (Nat.two_pow_pos 17)
  have processFits : node.process.val * 2 ^ 12 < 2 ^ 17 :=
    Nat.mul_lt_mul_of_pos_right node.process.isLt (Nat.two_pow_pos 12)
  calc joined millis node sequence
      = (((millis * 2 ^ 22).lor (node.worker.val * 2 ^ 17 : Nat)).lor
          (node.process.val * 2 ^ 12 : Nat)).lor sequence := by
        simp only [joined, Int.shiftLeft_eq, Nat.cast_mul, Nat.cast_pow, Nat.cast_ofNat]
        rfl
    _ = (((millis * 32 + node.worker.val) * 2 ^ 17).lor
          (node.process.val * 2 ^ 12 : Nat)).lor sequence := by
        rw [lor_shifted millis workerFits]
        push_cast
        ring_nf
    _ = (((millis * 32 + node.worker.val) * 32 + node.process.val) * 2 ^ 12).lor sequence := by
        rw [lor_shifted _ processFits]
        push_cast
        ring_nf
    _ = ((millis * 32 + node.worker.val) * 32 + node.process.val) * 2 ^ 12 + sequence :=
        lor_shifted _ small
    _ = pack millis node sequence := by
        rw [pack_eq]
        ring

theorem workerOf_pack : workerOf (pack millis node sequence) = node.worker.val := by
  have worker : node.worker.val < 32 := node.worker.isLt
  have process : node.process.val < 32 := node.process.isLt
  have sequences : sequence < 4096 := small
  have shifted : workerOf (pack millis node sequence) =
      pack millis node sequence / 131072 % 32 := congrArg (· % 32) (Int.shiftRight_eq_div_pow _ _)
  rw [shifted, pack_eq]
  omega

theorem processOf_pack : processOf (pack millis node sequence) = node.process.val := by
  have process : node.process.val < 32 := node.process.isLt
  have sequences : sequence < 4096 := small
  have shifted : processOf (pack millis node sequence) =
      pack millis node sequence / 4096 % 32 := congrArg (· % 32) (Int.shiftRight_eq_div_pow _ _)
  rw [shifted, pack_eq]
  omega

theorem sequenceOf_pack : sequenceOf (pack millis node sequence) = sequence := by
  have sequences : sequence < 4096 := small
  have low : sequenceOf (pack millis node sequence) = pack millis node sequence % 4096 := rfl
  rw [low, pack_eq]
  omega

end Packing

/-- The identifier has these parts bit for bit, gives each of them back, and has no others. -/
structure IsMadeOf (id millis : Int) (node : Node) (sequence : Nat) : Prop where
  small : sequence < sequenceCount
  bits : id = joined millis node sequence
  time : timestamp id = millis
  worker : workerOf id = node.worker.val
  process : processOf id = node.process.val
  counter : sequenceOf id = sequence
  alone : ∀ (otherMillis : Int) (otherNode : Node) (otherSequence : Nat),
    otherSequence < sequenceCount → id = joined otherMillis otherNode otherSequence →
      otherMillis = millis ∧ otherNode = node ∧ otherSequence = sequence

theorem node_ext {a b : Node} (worker : (a.worker.val : Int) = b.worker.val)
    (process : (a.process.val : Int) = b.process.val) : a = b := by
  obtain ⟨workerA, processA⟩ := a
  obtain ⟨workerB, processB⟩ := b
  obtain rfl : workerA = workerB := Fin.ext (Int.ofNat_inj.mp worker)
  obtain rfl : processA = processB := Fin.ext (Int.ofNat_inj.mp process)
  rfl

theorem isMadeOf_pack (millis : Int) (node : Node) {sequence : Nat}
    (small : sequence < sequenceCount) :
    IsMadeOf (pack millis node sequence) millis node sequence where
  small := small
  bits := (joined_eq_pack millis node small).symm
  time := timestamp_pack millis node small
  worker := workerOf_pack millis node small
  process := processOf_pack millis node small
  counter := sequenceOf_pack millis node small
  alone := by
    intro otherMillis otherNode otherSequence otherSmall same
    rw [joined_eq_pack otherMillis otherNode otherSmall] at same
    have time := congrArg timestamp same
    have worker := congrArg workerOf same
    have process := congrArg processOf same
    have counter := congrArg sequenceOf same
    rw [timestamp_pack _ _ small, timestamp_pack _ _ otherSmall] at time
    rw [workerOf_pack _ _ small, workerOf_pack _ _ otherSmall] at worker
    rw [processOf_pack _ _ small, processOf_pack _ _ otherSmall] at process
    rw [sequenceOf_pack _ _ small, sequenceOf_pack _ _ otherSmall] at counter
    exact ⟨time.symm, node_ext worker.symm process.symm, (Int.ofNat_inj.mp counter).symm⟩

theorem pack_fits {millis : Int} (node : Node) {sequence : Nat} (small : sequence < sequenceCount)
    (low : -1 ≤ millis) (high : millis < 2 ^ 41) :
    fitsWord (pack millis node sequence) = true ∧
      (pack millis node sequence < 0 ↔ millis = -1) := by
  obtain ⟨lower, upper⟩ := pack_within millis node small
  have bound : wordBound = 9223372036854775808 := rfl
  rw [fitsWord_iff, bound]
  omega

section Issuing

variable {node : Node} {readings : List Int} {count : Nat} {id : Int}

/-- What an identifier is made of is settled by the readings that were taken up to its call. -/
theorem issued_parts {k : Nat}
    (issued : ((Generator.fresh node).issue count readings)[k]? = some id) :
    ∃ g rest consumed, (Generator.fresh node).after (k + 1) readings = some (g, rest) ∧
      readings = consumed ++ rest ∧
      IsMadeOf id (consumed.foldl max (-1)) node g.sequence := by
  have asked : k < count :=
    Nat.lt_of_lt_of_le (List.getElem?_eq_some_iff.mp issued).1 (issue_length_le count _ readings)
  rw [issue_getElem count _ readings asked, Option.map_eq_some_iff] at issued
  obtain ⟨⟨g, rest⟩, done, rfl⟩ := issued
  obtain ⟨consumed, split, same, last, small⟩ := after_some sequenceCount_pos done
  refine ⟨g, rest, consumed, done, split, ?_⟩
  have parts := isMadeOf_pack g.last g.node small
  rw [last, same] at parts
  rw [Generator.id, last, same]
  exact parts

theorem foldl_max_bounds {start bound : Int} (low : start < bound) {times : List Int}
    (below : ∀ time ∈ times, time < bound) :
    start ≤ times.foldl max start ∧ times.foldl max start < bound := by
  induction times generalizing start with
  | nil => exact ⟨Int.le_refl start, low⟩
  | cons time rest ih =>
      obtain ⟨head, tail⟩ := List.forall_mem_cons.mp below
      obtain ⟨above, under⟩ := ih (max_lt low head) tail
      exact ⟨(le_max_left start time).trans above, under⟩

theorem issued_fits (early : ∀ reading ∈ readings, reading < 2 ^ 41)
    (member : id ∈ (Generator.fresh node).issue count readings) :
    fitsWord id = true ∧ (id < 0 ↔ timestamp id = -1) := by
  obtain ⟨k, issued⟩ := List.mem_iff_getElem?.mp member
  obtain ⟨g, rest, consumed, -, rfl, parts⟩ := issued_parts issued
  obtain ⟨low, high⟩ := @foldl_max_bounds (-1) (2 ^ 41) (by decide) consumed
    fun reading taken => early reading (List.mem_append_left rest taken)
  rw [parts.time, parts.bits, joined_eq_pack _ _ parts.small]
  exact pack_fits node parts.small low high

theorem issued_apart {other : Node} (differ : other ≠ node) (otherReadings : List Int)
    (otherCount : Nat) : ((Generator.fresh node).issue count readings).Disjoint
      ((Generator.fresh other).issue otherCount otherReadings) := by
  intro id here there
  obtain ⟨k, issued⟩ := List.mem_iff_getElem?.mp here
  obtain ⟨m, also⟩ := List.mem_iff_getElem?.mp there
  obtain ⟨_, _, _, -, -, parts⟩ := issued_parts issued
  obtain ⟨_, _, _, -, -, others⟩ := issued_parts also
  exact differ (parts.alone _ _ _ others.small others.bits).2.1

end Issuing

/-- Every identifier consists of the greatest of `-1` and the times read up to its call, of the
numbers of its node and of its place in the sequence of that time, and of nothing else. So nodes
that differ never issue the same one, whatever their clocks read; and where no clock reads a time
beyond 41 bits identifiers are words, negative only for the time before the epoch. -/
theorem layout_faithful (worker process : Int) (workerFits : 0 ≤ worker ∧ worker ≤ 31)
    (processFits : 0 ≤ process ∧ process ≤ 31) :
    ∃ node, Node.ofInts worker process = .ok node ∧ (node.worker.val : Int) = worker ∧
      (node.process.val : Int) = process ∧ ∀ (readings : List Int) (count : Nat),
        let ids := (Generator.fresh node).issue count readings
        (∀ (k : Nat) id, ids[k]? = some id → ∃ g rest consumed,
          (Generator.fresh node).after (k + 1) readings = some (g, rest) ∧
          readings = consumed ++ rest ∧
          IsMadeOf id (consumed.foldl max (-1)) node g.sequence) ∧
        (∀ other ≠ node, ∀ (otherReadings : List Int) (otherCount : Nat),
          ids.Disjoint ((Generator.fresh other).issue otherCount otherReadings)) ∧
        ((∀ reading ∈ readings, reading < 2 ^ 41) →
          ∀ id ∈ ids, fitsWord id = true ∧ (id < 0 ↔ timestamp id = -1)) := by
  obtain ⟨node, made, workerSame, processSame⟩ := ofInts_ok workerFits processFits
  refine ⟨node, made, workerSame, processSame, fun readings count => ⟨?_, ?_, ?_⟩⟩
  · intro k id issued
    exact issued_parts issued
  · intro other differ otherReadings otherCount
    exact issued_apart differ otherReadings otherCount
  · intro early id member
    exact issued_fits early member

theorem layout_over_jumps :
    let readings : List Int := [-5, 7, 3, 2199023255551]
    let node : Node := ⟨⟨3, by decide⟩, ⟨17, by decide⟩⟩
    let other : Node := ⟨⟨17, by decide⟩, ⟨3, by decide⟩⟩
    let ids := (Generator.fresh node).issue 4 readings
    ((0 : Int) ≤ 3 ∧ (3 : Int) ≤ 31) ∧ ((0 : Int) ≤ 17 ∧ (17 : Int) ≤ 31) ∧
    ids = [-3731455, 29822976, 29822977, 9223372036851044352] ∧
    IsMadeOf 29822977 7 node 1 ∧ ids.Disjoint ((Generator.fresh other).issue 4 readings) ∧
    ∀ id ∈ ids, fitsWord id = true ∧ (id < 0 ↔ timestamp id = -1) := by
  intro readings node other ids
  have workerFits : (0 : Int) ≤ 3 ∧ (3 : Int) ≤ 31 := by decide
  have processFits : (0 : Int) ≤ 17 ∧ (17 : Int) ≤ 31 := by decide
  obtain ⟨made, isOk, -, -, runs⟩ := layout_faithful 3 17 workerFits processFits
  obtain rfl : made = node := by
    cases isOk
    rfl
  obtain ⟨parts, apart, words⟩ := runs readings 4
  have issued : ids = [-3731455, 29822976, 29822977, 9223372036851044352] := by decide
  obtain ⟨g, rest, consumed, done, split, third⟩ := parts 2 29822977 (by decide)
  have reached : (Generator.fresh node).after 3 readings =
      some (⟨node, 1, 7⟩, [2199023255551]) := by decide
  cases done.symm.trans reached
  obtain rfl : consumed = [-5, 7, 3] :=
    List.append_cancel_right (split.symm.trans (show readings = [-5, 7, 3] ++ _ from rfl))
  exact ⟨workerFits, processFits, issued, third, apart other (by decide) readings 4,
    words (by decide)⟩

end Guildhall.Snowflake
