import Guildhall.Snowflake.Generator
import Mathlib.Tactic.Ring

/-!
Identifiers issued one after another. Whatever the clock reads, each is greater than the one before
it, and holds the greatest time read so far; times before the epoch count as `-1`.
-/

namespace Guildhall.Snowflake

theorem sequenceCount_pos : 0 < sequenceCount := by decide

section Packing

variable (millis : Int) (node : Node) {sequence : Nat}

theorem pack_within (small : sequence < sequenceCount) :
    millis * 4194304 ≤ pack millis node sequence ∧
      pack millis node sequence < (millis + 1) * 4194304 := by
  have worker : node.worker.val < 32 := node.worker.isLt
  have process : node.process.val < 32 := node.process.isLt
  have sequences : sequence < 4096 := small
  have parts : pack millis node sequence =
      millis * 4194304 + node.worker.val * 131072 + node.process.val * 4096 + sequence := rfl
  rw [parts]
  constructor <;> omega

theorem timestamp_pack (small : sequence < sequenceCount) :
    timestamp (pack millis node sequence) = millis := by
  have shifted : timestamp (pack millis node sequence) =
      pack millis node sequence / 4194304 := Int.shiftRight_eq_div_pow _ _
  obtain ⟨lower, upper⟩ := pack_within millis node small
  rw [shifted]
  omega

end Packing

/-- What a call that took the readings `consumed` made of the generator: the clock went on and the
sequence starts again, or it did not and the sequence goes on. -/
structure Advanced (g : Generator) (consumed : List Int) (next : Generator) : Prop where
  node : next.node = g.node
  last : next.last = consumed.foldl max g.last
  onward : g.last < next.last ∧ next.sequence = 0 ∨
    next.last = g.last ∧ next.sequence = g.sequence + 1
  small : next.sequence < sequenceCount

theorem foldl_max_stale {last : Int} {stale : List Int} (old : ∀ reading ∈ stale, reading ≤ last) :
    stale.foldl max last = last := by
  induction stale with
  | nil => rfl
  | cons reading rest ih =>
      have head : reading ≤ last := old reading List.mem_cons_self
      have tail : ∀ other ∈ rest, other ≤ last :=
        fun other member => old other (List.mem_cons_of_mem _ member)
      rw [List.foldl_cons, max_eq_left head]
      exact ih tail

theorem waitPast_some {last now : Int} {readings rest : List Int}
    (waited : waitPast last readings = some (now, rest)) :
    ∃ stale, readings = stale ++ now :: rest ∧ (∀ reading ∈ stale, reading ≤ last) ∧
      last < now := by
  induction readings with
  | nil => cases waited
  | cons reading others ih =>
      rw [waitPast] at waited
      by_cases later : last < reading
      · rw [if_pos later] at waited
        cases waited
        exact ⟨[], rfl, by simp, later⟩
      · rw [if_neg later] at waited
        obtain ⟨stale, split, old, after⟩ := ih waited
        have head : reading ≤ last := by omega
        exact ⟨reading :: stale, by rw [split, List.cons_append],
          List.forall_mem_cons.mpr ⟨head, old⟩, after⟩

theorem waitPast_none {last : Int} {readings : List Int} :
    waitPast last readings = none ↔ ∀ reading ∈ readings, reading ≤ last := by
  induction readings with
  | nil => simp [waitPast]
  | cons reading others ih =>
      rw [waitPast, List.forall_mem_cons, ← ih]
      by_cases later : last < reading
      · simp [later]
      · simp [later, Int.not_lt.mp later]

section Steps

variable {g next : Generator} {readings rest : List Int}

theorem advance_some (advanced : g.advance readings = some (next, rest)) :
    ∃ consumed, readings = consumed ++ rest ∧ Advanced g consumed next := by
  cases readings with
  | nil => cases advanced
  | cons reading others =>
      rw [Generator.advance] at advanced
      by_cases later : g.last < reading
      · rw [if_pos later] at advanced
        cases advanced
        have greatest : reading = [reading].foldl max g.last := (max_eq_right later.le).symm
        exact ⟨[reading], rfl, rfl, greatest, Or.inl ⟨later, rfl⟩, sequenceCount_pos⟩
      · rw [if_neg later] at advanced
        have head : reading ≤ g.last := by omega
        by_cases room : g.sequence + 1 < sequenceCount
        · rw [if_pos room] at advanced
          cases advanced
          have greatest : g.last = [reading].foldl max g.last := (max_eq_left head).symm
          exact ⟨[reading], rfl, rfl, greatest, Or.inr ⟨rfl, rfl⟩, room⟩
        · rw [if_neg room, Option.map_eq_some_iff] at advanced
          obtain ⟨⟨now, left⟩, waited, same⟩ := advanced
          cases same
          -- The sequence is used up: stale readings are thrown away until the clock moves on.
          obtain ⟨stale, split, old, after⟩ := waitPast_some waited
          have greatest : now = (reading :: (stale ++ [now])).foldl max g.last := by
            calc now = max g.last now := (max_eq_right after.le).symm
              _ = (stale ++ [now]).foldl max g.last := by
                rw [List.foldl_append, foldl_max_stale old]
                rfl
              _ = (reading :: (stale ++ [now])).foldl max g.last := by
                rw [List.foldl_cons, max_eq_left head]
          refine ⟨reading :: (stale ++ [now]), ?_, rfl, greatest, Or.inl ⟨after, rfl⟩,
            sequenceCount_pos⟩
          simp [split]

/-- A call stays open only when the clock has no reading left, or none after a tick whose sequence
is used up. -/
theorem advance_none (waiting : g.advance readings = none) :
    (∀ reading ∈ readings, reading ≤ g.last) ∧
      (readings = [] ∨ sequenceCount ≤ g.sequence + 1) := by
  cases readings with
  | nil => exact ⟨by simp, Or.inl rfl⟩
  | cons reading others =>
      rw [Generator.advance] at waiting
      by_cases later : g.last < reading
      · simp [later] at waiting
      · rw [if_neg later] at waiting
        by_cases room : g.sequence + 1 < sequenceCount
        · simp [room] at waiting
        · rw [if_neg room, Option.map_eq_none_iff, waitPast_none] at waiting
          have head : reading ≤ g.last := by omega
          exact ⟨List.forall_mem_cons.mpr ⟨head, waiting⟩, Or.inr (Nat.not_lt.mp room)⟩

theorem Advanced.id_lt {consumed : List Int} (advanced : Advanced g consumed next)
    (small : g.sequence < sequenceCount) : g.id < next.id := by
  rcases advanced.onward with ⟨later, -⟩ | ⟨same, goes⟩
  · have below := (pack_within g.last g.node small).2
    have above := (pack_within next.last next.node advanced.small).1
    calc g.id < (g.last + 1) * 4194304 := below
      _ ≤ next.last * 4194304 := by omega
      _ ≤ next.id := above
  · have bumped : next.id = g.id + 1 := by
      rw [Generator.id, Generator.id, advanced.node, same, goes, pack, pack]
      push_cast
      ring
    omega

end Steps

def Generator.after : (count : Nat) → Generator → List Int → Option (Generator × List Int)
  | 0, g, readings => some (g, readings)
  | count + 1, g, readings =>
    match g.advance readings with
    | none => none
    | some (next, rest) => next.after count rest

theorem issue_getElem (count : Nat) (g : Generator) (readings : List Int) {k : Nat}
    (asked : k < count) : (g.issue count readings)[k]? =
      (g.after (k + 1) readings).map fun reached => reached.1.id := by
  induction count generalizing g readings k with
  | zero => omega
  | succ count ih =>
      rw [Generator.issue, Generator.after]
      cases advanced : g.advance readings with
      | none => rfl
      | some reached =>
          obtain ⟨next, rest⟩ := reached
          cases k with
          | zero => rfl
          | succ k => exact ih next rest (by omega)

theorem after_some {count : Nat} {g reached : Generator} {readings rest : List Int}
    (small : g.sequence < sequenceCount) (done : g.after count readings = some (reached, rest)) :
    ∃ consumed, readings = consumed ++ rest ∧ reached.node = g.node ∧
      reached.last = consumed.foldl max g.last ∧ reached.sequence < sequenceCount := by
  induction count generalizing g readings with
  | zero =>
      cases done
      exact ⟨[], rfl, rfl, rfl, small⟩
  | succ count ih =>
      rw [Generator.after] at done
      cases step : g.advance readings with
      | none =>
          rw [step] at done
          cases done
      | some pair =>
          obtain ⟨next, left⟩ := pair
          rw [step] at done
          obtain ⟨first, split, advanced⟩ := advance_some step
          obtain ⟨later, splitLater, node, last, bound⟩ := ih advanced.small done
          refine ⟨first ++ later, ?_, node.trans advanced.node, ?_, bound⟩
          · rw [split, splitLater, List.append_assoc]
          · rw [last, advanced.last, List.foldl_append]

/-- The generator's own last identifier is below all that it still issues. -/
theorem issue_above (count : Nat) {g : Generator} (readings : List Int)
    (small : g.sequence < sequenceCount) :
    (∀ id ∈ g.issue count readings, g.id < id) ∧
      (g.issue count readings).Pairwise (· < ·) := by
  induction count generalizing g readings with
  | zero => exact ⟨by simp [Generator.issue], List.Pairwise.nil⟩
  | succ count ih =>
      rw [Generator.issue]
      cases step : g.advance readings with
      | none => exact ⟨by simp, List.Pairwise.nil⟩
      | some pair =>
          obtain ⟨next, rest⟩ := pair
          obtain ⟨consumed, -, advanced⟩ := advance_some step
          obtain ⟨above, increasing⟩ := ih rest advanced.small
          have first : g.id < next.id := advanced.id_lt small
          refine ⟨?_, List.pairwise_cons.mpr ⟨above, increasing⟩⟩
          intro id member
          rcases List.mem_cons.mp member with rfl | member
          · exact first
          · exact first.trans (above id member)

theorem issue_length_le (count : Nat) (g : Generator) (readings : List Int) :
    (g.issue count readings).length ≤ count := by
  induction count generalizing g readings with
  | zero => exact Nat.le_refl 0
  | succ count ih =>
      rw [Generator.issue]
      cases g.advance readings with
      | none => exact Nat.zero_le _
      | some reached => exact Nat.succ_le_succ (ih reached.1 reached.2)

theorem issue_length (count : Nat) {g : Generator} {readings : List Int}
    (enough : count ≤ readings.length) (room : g.sequence + count < sequenceCount) :
    (g.issue count readings).length = count := by
  induction count generalizing g readings with
  | zero => rfl
  | succ count ih =>
      cases readings with
      | nil => exact absurd enough (Nat.not_succ_le_zero count)
      | cons reading rest =>
          have left : count ≤ rest.length := Nat.le_of_succ_le_succ enough
          rw [Generator.issue, Generator.advance]
          by_cases later : g.last < reading
          · rw [if_pos later]
            exact congrArg Nat.succ (ih left (show 0 + count < sequenceCount by omega))
          · rw [if_neg later, if_pos (show g.sequence + 1 < sequenceCount by omega)]
            exact congrArg Nat.succ
              (ih left (show g.sequence + 1 + count < sequenceCount by omega))

theorem issue_increasing (count : Nat) (g : Generator) (readings : List Int) :
    (g.issue count readings).Pairwise (· < ·) := by
  cases count with
  | zero => exact List.Pairwise.nil
  | succ count =>
      rw [Generator.issue]
      cases step : g.advance readings with
      | none => exact List.Pairwise.nil
      | some pair =>
          obtain ⟨consumed, -, advanced⟩ := advance_some step
          exact List.pairwise_cons.mpr (issue_above count pair.2 advanced.small)

theorem ofInts_ok {worker process : Int} (workerFits : 0 ≤ worker ∧ worker ≤ 31)
    (processFits : 0 ≤ process ∧ process ≤ 31) :
    ∃ node, Node.ofInts worker process = .ok node ∧ (node.worker.val : Int) = worker ∧
      (node.process.val : Int) = process := by
  have workerPart : 0 ≤ worker ∧ worker.toNat < workerCount := by
    refine ⟨workerFits.1, ?_⟩
    change worker.toNat < 32
    omega
  have processPart : 0 ≤ process ∧ process.toNat < processCount := by
    refine ⟨processFits.1, ?_⟩
    change process.toNat < 32
    omega
  refine ⟨⟨⟨worker.toNat, workerPart.2⟩, ⟨process.toNat, processPart.2⟩⟩, ?_,
    Int.toNat_of_nonneg workerFits.1, Int.toNat_of_nonneg processFits.1⟩
  simp only [Node.ofInts, part?, dif_pos workerPart, dif_pos processPart]

theorem range_of_part {count : Nat} {value : Int} {part : Fin count}
    (made : part? count value = some part) : 0 ≤ value ∧ value.toNat < count := by
  unfold part? at made
  split at made
  · assumption
  · cases made

theorem ofInts_range {worker process : Int} {node : Node}
    (made : Node.ofInts worker process = .ok node) :
    (0 ≤ worker ∧ worker ≤ 31) ∧ 0 ≤ process ∧ process ≤ 31 := by
  unfold Node.ofInts at made
  split at made
  · cases made
  · cases made
  · rename_i _ _ workerMade processMade
    have workerFits : 0 ≤ worker ∧ worker.toNat < 32 := range_of_part workerMade
    have processFits : 0 ≤ process ∧ process.toNat < 32 := range_of_part processMade
    omega

/-- Whatever the clock reads, identifiers grow strictly, and each holds the greatest of `-1` and all
times read up to its call. A call goes on waiting only when no time after the last tick is read, and
only for a further reading or because the sequence of the tick is used up. -/
theorem issued_increase (worker process : Int) (workerFits : 0 ≤ worker ∧ worker ≤ 31)
    (processFits : 0 ≤ process ∧ process ≤ 31) :
    ∃ node, Node.ofInts worker process = .ok node ∧ (node.worker.val : Int) = worker ∧
      (node.process.val : Int) = process ∧ ∀ (readings : List Int) (count : Nat),
        ((Generator.fresh node).issue count readings).Pairwise (· < ·) ∧
        (∀ k g rest, k < count → (Generator.fresh node).after (k + 1) readings = some (g, rest) →
          ((Generator.fresh node).issue count readings)[k]? = some g.id ∧
          ∃ consumed, readings = consumed ++ rest ∧
            timestamp g.id = consumed.foldl max (-1)) ∧
        (∀ k g rest, (Generator.fresh node).after k readings = some (g, rest) →
          g.advance rest = none → (∀ reading ∈ rest, reading ≤ g.last) ∧
            (rest = [] ∨ g.sequence + 1 = sequenceCount)) := by
  obtain ⟨node, made, workerSame, processSame⟩ := ofInts_ok workerFits processFits
  refine ⟨node, made, workerSame, processSame, fun readings count => ?_⟩
  have small : (Generator.fresh node).sequence < sequenceCount := sequenceCount_pos
  refine ⟨(issue_above count readings small).2, ?_, ?_⟩
  · intro k g rest asked done
    obtain ⟨consumed, split, -, last, bound⟩ := after_some small done
    have listed : ((Generator.fresh node).issue count readings)[k]? = some g.id := by
      rw [issue_getElem count (.fresh node) readings asked, done, Option.map_some]
    have time : timestamp g.id = consumed.foldl max (-1) :=
      (timestamp_pack g.last g.node bound).trans last
    exact ⟨listed, consumed, split, time⟩
  · intro k g rest done waiting
    obtain ⟨-, -, -, -, bound⟩ := after_some small done
    obtain ⟨stale, reason⟩ := advance_none waiting
    exact ⟨stale, reason.imp_right fun used => by omega⟩

theorem issued_over_jumps :
    let readings : List Int := [-5, -5, 7, 3, 7, 9]
    let standing : List Int := List.replicate 4097 100 ++ [99, 101]
    ((0 : Int) ≤ 3 ∧ (3 : Int) ≤ 31) ∧ ((0 : Int) ≤ 17 ∧ (17 : Int) ≤ 31) ∧
    ∃ node, Node.ofInts 3 17 = .ok node ∧
      ((Generator.fresh node).issue 6 readings).Pairwise (· < ·) ∧
      ((Generator.fresh node).issue 6 readings).map timestamp = [-1, -1, 7, 7, 7, 9] ∧
      ((Generator.fresh node).issue 4097 standing)[4096]? = some (pack 101 node 0) := by
  intro readings standing
  have workerFits : (0 : Int) ≤ 3 ∧ (3 : Int) ≤ 31 := by decide
  have processFits : (0 : Int) ≤ 17 ∧ (17 : Int) ≤ 31 := by decide
  obtain ⟨node, made, -, -, runs⟩ := issued_increase 3 17 workerFits processFits
  obtain rfl : node = ⟨⟨3, by decide⟩, ⟨17, by decide⟩⟩ := by
    cases made
    rfl
  have waited : (Generator.fresh ⟨⟨3, by decide⟩, ⟨17, by decide⟩⟩).after (4096 + 1) standing =
      some (⟨⟨⟨3, by decide⟩, ⟨17, by decide⟩⟩, 0, 101⟩, []) := by decide +kernel
  obtain ⟨listed, -⟩ := (runs standing 4097).2.1 4096 _ [] (by decide) waited
  exact ⟨workerFits, processFits, _, made, (runs readings 6).1, by decide, listed⟩

end Guildhall.Snowflake
