import ChipEight.Proofs.Machine.Course
import ChipEight.Proofs.Operation.Footprint

/-! The random source yields one byte for each random instruction that a run carries out, and none for
anything else. -/

namespace ChipEight

namespace Random

/-- The byte that a source yields behind as many others as given. -/
def nth (random : Random) (position : Nat) : UInt8 :=
  (random.take position).2.next.1

/-- The byte behind some others is the next one of the source that has yielded them, and with it the
source has yielded one more. -/
theorem next_take (random : Random) (count : Nat) :
    (random.take count).2.next = (random.nth count, (random.take (count + 1)).2) := by
  -- The bytes are numbered by how many came before, and the seed stays the same.
  rw [nth, take_eq, take_eq]
  rfl

/-- A source counts the bytes that it has yielded. -/
theorem drawn_take (random : Random) (count : Nat) :
    (random.take count).2.drawn = random.drawn + count := by
  -- Taking bytes adds to the count and does nothing else to the source.
  rw [take_eq]

end Random

namespace Operation

/-- Whether an instruction is a random one, whatever its mask. -/
def rolls : Operation → Bool
  | random _ _ => true
  | _ => false

variable {operation : Operation} {before after : Hardware}

/-- A random instruction takes the next byte of the source, and any other leaves the source alone. -/
theorem random_of_effect (carriedOut : operation.effect.run before = .ok () after) :
    after.random = if operation.rolls then before.random.next.2 else before.random := by
  cases operation with
  -- The byte is taken together with the new position.
  | random x mask =>
    rw [Attempt.ok_of_modify carriedOut]
    rfl
  | _ =>
    -- Whatever is stored goes to bytes of memory, and whatever is loaded to registers.
    have same : Place.random.Same before after :=
      same_of_effect carriedOut (by simp [footprint, Place.bytes])
    exact same.symm

/-- A random instruction puts into its register what its mask leaves of the byte. -/
theorem register_of_random {x : Register} {mask : UInt8}
    (carriedOut : (random x mask).effect.run before = .ok () after) :
    after.register x = before.random.next.1 &&& mask := by
  -- The byte is masked before it is written.
  rw [Attempt.ok_of_modify carriedOut]
  exact Registers.read_write_self ..

end Operation

namespace Machine

/-- Whether a turn carries out a random instruction. -/
def Turn.rolls (turn : Turn) : Bool :=
  turn.executed?.any Operation.rolls

/-- A turn takes a byte of the source if it carries out a random instruction, and otherwise it leaves
the source alone, be it a failing cycle, a reset or a load. -/
theorem Turn.random_left (turn : Turn) :
    turn.left.hardware.random =
      if turn.rolls then turn.found.hardware.random.next.2 else turn.found.hardware.random := by
  obtain ⟨machine, act⟩ := turn
  -- Only a cycle can carry out a random instruction, and only this takes a byte.
  cases act with
  | cycle =>
    show machine.step.1.hardware.random = _
    rcases machine.executed?_cycle with ⟨operation, after, executed, -, carriedOut, result⟩ |
      ⟨idle, unchanged⟩
    · -- The fetch has not touched the source before the instruction is carried out.
      have taken := Operation.random_of_effect carriedOut
      rw [result, rolls, executed, Option.any_some]
      exact taken
    · -- Nothing has been carried out, so that at most the counter has moved.
      rw [unchanged, rolls, idle]
      rfl
  | load image =>
    cases image with
    | error error => rfl
    | ok rom =>
      -- The source is the only part that a reset keeps.
      show (machine.perform (.load (.ok rom))).1.hardware.random = machine.hardware.random
      simp only [perform_load_ok, Hardware.random_reset]
  | restart => exact machine.hardware.random_reset
  | tick | keys _ | screen _ => rfl

/-- A turn that carries out a random instruction leaves the byte that it has taken in the register,
as far as the mask admits. -/
theorem Turn.register_left_of_rolls {turn : Turn} (rolls : turn.rolls = true) :
    ∃ x mask, turn.executed? = some (.random x mask) ∧
      turn.left.hardware.register x = turn.found.hardware.random.next.1 &&& mask := by
  obtain ⟨machine, act⟩ := turn
  rw [Turn.rolls, Option.any_eq_true] at rolls
  obtain ⟨operation, executed, random⟩ := rolls
  -- Only a cycle can have carried it out.
  obtain rfl := act_of_executed? executed
  obtain ⟨-, -, carriedOut⟩ := effect_of_executed? executed
  -- No other instruction counts as random.
  cases operation with
  | random x mask =>
    have masked := Operation.register_of_random carriedOut
    exact ⟨x, mask, executed, masked⟩
  | _ => cases random

/-- The turns that carry out a random instruction, the first one first. -/
def rolls (turns : List Turn) : List Turn :=
  turns.filter Turn.rolls

/-- There is one such turn for each random instruction of a run. -/
theorem length_rolls (machine : Machine) (acts : List Act) :
    (rolls (machine.turns acts)).length = (machine.executed acts).countP Operation.rolls := by
  rw [rolls, executed, List.countP_filterMap, List.countP_eq_length_filter]
  -- The turns are sorted out by their instruction, if they have one.
  refine congrArg List.length (List.filter_congr fun turn _ => ?_)
  rw [Turn.rolls]
  cases turn.executed? <;> rfl

/-- A source has yielded one byte for each of some turns, and each of them has found it behind the
bytes of those before it. -/
structure Yields (source : Random) (machine : Machine) (rolled : List Turn) : Prop where
  /-- The machine has the source behind the bytes of all turns. -/
  position : machine.hardware.random = (source.take rolled.length).2
  /-- Each turn has found it behind as many bytes as there are turns before. -/
  found : ∀ (k : Nat) (turn : Turn), rolled[k]? = some turn →
    turn.rolls = true ∧ turn.found.hardware.random = (source.take k).2

variable {source : Random}

/-- A turn adds itself to those that the source has yielded a byte for, or it leaves all as it was. -/
theorem Yields.left {turn : Turn} {past : List Turn}
    (yields : Yields source turn.found (rolls past)) :
    Yields source turn.left (rolls (past ++ [turn])) := by
  -- Whether the last turn has taken a byte decides about both clauses.
  have taken := turn.random_left
  rw [yields.position] at taken
  have added : rolls (past ++ [turn]) = rolls past ++ [turn].filter Turn.rolls :=
    List.filter_append ..
  -- A turn that has taken none is not one of those listed.
  cases random : turn.rolls with
  | false =>
    rw [added, List.filter_cons_of_neg (by simp [random]), List.filter_nil, List.append_nil]
    rw [random, if_neg Bool.false_ne_true] at taken
    exact ⟨taken, yields.found⟩
  -- A turn that has taken a byte has found the source behind those of all turns before.
  | true =>
    rw [added, List.filter_cons_of_pos random, List.filter_nil]
    rw [random, if_pos rfl, Random.next_take] at taken
    refine ⟨by rw [taken, List.length_append, List.length_singleton], ?_⟩
    intro k other listed
    -- The last turn comes behind all others, and these are listed as before.
    rcases Nat.lt_or_ge k (rolls past).length with early | late
    · -- An earlier turn is at the place where it was.
      rw [List.getElem?_append_left early] at listed
      exact yields.found k other listed
    · -- The last one has as many turns before it as there were.
      rw [List.getElem?_append_right late, List.getElem?_singleton,
        Option.ite_none_right_eq_some] at listed
      obtain ⟨behind, same⟩ := listed
      cases same
      have last : k = (rolls past).length := by omega
      exact ⟨random, last ▸ yields.position⟩

/-- At every point of a run the source has yielded one byte for each random instruction. -/
theorem yields_performAll (machine : Machine) (acts : List Act) :
    Yields machine.hardware.random (machine.performAll acts).1 (rolls (machine.turns acts)) := by
  -- Each turn of the run passes on the account, which begins with nothing.
  refine performAll_of_turn
    (fun reached past => Yields machine.hardware.random reached (rolls past)) ?_ ?_ acts
  · -- At the start there are no turns, and no byte has been taken.
    refine ⟨rfl, fun k turn listed => ?_⟩
    rw [rolls, List.filter_nil, List.getElem?_nil] at listed
    cases listed
  · intro past turn yields
    exact yields.left

/-- How the bytes of a random source are accounted for at a point of a run by the turns that carry out
a random instruction, given how many random instructions have been carried out. -/
structure KeepsRolls (source : Random) (machine : Machine) (rolled : List Turn) (count : Nat) :
    Prop where
  /-- There is one turn for each of the instructions. -/
  length : rolled.length = count
  /-- The source has yielded as many bytes and stands behind the last of them. -/
  consumed : machine.hardware.random = (source.take count).2
  /-- It counts them itself. -/
  drawn : machine.hardware.random.drawn = source.drawn + count
  /-- Each of the turns puts its own byte of the source, in the order of the source, into the register
  of its instruction, as far as the mask admits. -/
  rolled : ∀ (k : Nat) (turn : Turn), rolled[k]? = some turn →
    ∃ x mask, turn.executed? = some (.random x mask) ∧
      turn.left.hardware.register x = source.nth k &&& mask

/-- Bytes that have been yielded for turns are accounted for. -/
theorem Yields.keepsRolls {machine : Machine} {rolled : List Turn}
    (yields : Yields source machine rolled) : KeepsRolls source machine rolled rolled.length where
  length := rfl
  consumed := yields.position
  drawn := by rw [yields.position, Random.drawn_take]
  rolled k turn listed := by
    -- The next byte of the source that the turn has found is the one at the place of the turn.
    obtain ⟨random, position⟩ := yields.found k turn listed
    obtain ⟨x, mask, executed, left⟩ := turn.register_left_of_rolls random
    rw [position, Random.next_take] at left
    exact ⟨x, mask, executed, left⟩

/--
In every run from power-on with a seed, cycle by cycle, the bytes of the seed are accounted for by the
random instructions that were carried out, the first byte by the first of them and so on.

Any single turn takes exactly one byte if it carries out a random instruction, whatever the mask, and
leaves the source alone otherwise. An instruction is carried out exactly if a cycle finds it and
nothing stops it. What a host can ask of the machine is nothing but such runs, whatever it is told.
-/
theorem performAll_powerOn_keepsRolls (seed : UInt64) :
    (∀ acts : List Act,
      KeepsRolls (Random.ofSeed seed) ((powerOn seed).performAll acts).1
        (rolls ((powerOn seed).turns acts))
        (((powerOn seed).executed acts).countP Operation.rolls)) ∧
    (∀ turn : Turn, turn.left.hardware.random =
      if turn.rolls then turn.found.hardware.random.next.2 else turn.found.hardware.random) ∧
    (∀ turn : Turn, turn.CarriesOut) ∧
    (∀ (machine : Machine) (event : Event), machine.Tells event) ∧
    ∀ events : List Event, ((powerOn seed).applyAll events).2 =
      (powerOn seed).performAll (events.flatMap Event.acts) := by
  refine ⟨?_, Turn.random_left, Turn.carriesOut, tells, applyAll_eq_performAll _⟩
  intro acts
  -- At power-on no byte of the seed has been taken.
  rw [← length_rolls]
  exact (yields_performAll (powerOn seed) acts).keepsRolls

/-- A mask that admits nothing takes a byte all the same, and a reset does not give it back. -/
theorem performAll_powerOn_keepsRolls_of_empty_mask :
    (∃ rolled, KeepsRolls (Random.ofSeed 42) ((powerOn 42).performAll
      [.load (Rom.ofBytes [0xC3, 0x00]), .cycle, .restart]).1 rolled 1) ∧
    ∃ consumed, ((powerOn 42).apply (.load [0xC3, 0x00])).outcome = .load (.ok ()) consumed := by
  -- The single random instruction is found by running the program.
  obtain ⟨kept, -, -, told, -⟩ := performAll_powerOn_keepsRolls 42
  have count : ((powerOn 42).executed
      [.load (Rom.ofBytes [0xC3, 0x00]), .cycle, .restart]).countP Operation.rolls = 1 := by
    decide +kernel
  exact ⟨⟨_, count ▸ kept _⟩, (told _ _).loaded.mpr ⟨_, rfl⟩⟩

end Machine

end ChipEight
