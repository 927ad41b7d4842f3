import ChipEight.CommandLine
import ChipEight.Proofs.CommandLine.Numeral
import ChipEight.Proofs.CommandLine.Word

/-! The sentences that a command line can be, and the options that what they say amounts to. -/

namespace ChipEight.CommandLine

/-- What a part of a command line says, however it is written. -/
inductive Saying where
  /-- The path of the program image. -/
  | rom (path : String)
  /-- The numeral for a choice. -/
  | number (choice : Choice) (numeral : String)
deriving DecidableEq, Repr

namespace Saying

/-- The path that is said, if it is one. -/
def path? : Saying → Option String
  | rom path => some path
  | number _ _ => none

/-- The numeral that is said for a choice, if it is one. -/
def numeral? (choice : Choice) : Saying → Option String
  | rom _ => none
  | number other numeral => if other = choice then some numeral else none

end Saying

/-- The paths that are said. -/
def paths (sayings : List Saying) : List String :=
  sayings.filterMap Saying.path?

/-- The numerals that are said for a choice. -/
def numerals (choice : Choice) (sayings : List Saying) : List String :=
  sayings.filterMap (Saying.numeral? choice)

/-- A path is said before those that follow. -/
@[simp] theorem paths_rom (path : String) (rest : List Saying) :
    paths (.rom path :: rest) = path :: paths rest := rfl

/-- A numeral is no path. -/
@[simp] theorem paths_number (choice : Choice) (numeral : String) (rest : List Saying) :
    paths (.number choice numeral :: rest) = paths rest := rfl

/-- A path is no numeral. -/
@[simp] theorem numerals_rom (choice : Choice) (path : String) (rest : List Saying) :
    numerals choice (.rom path :: rest) = numerals choice rest := rfl

/-- A numeral is said for its choice only. -/
@[simp] theorem numerals_number (choice other : Choice) (numeral : String) (rest : List Saying) :
    numerals choice (.number other numeral :: rest) =
      if other = choice then numeral :: numerals choice rest else numerals choice rest := by
  -- The numeral is kept just for the one choice that it is said for.
  by_cases same : other = choice <;> simp [numerals, Saying.numeral?, same]

/-- A part of a command line before the separator. -/
inductive Phrase where
  /-- A path. -/
  | rom (path : String)
  /-- A choice with its numeral in the next word. -/
  | apart (choice : Choice) (numeral : String)
  /-- A choice with its numeral in the same word. -/
  | joined (choice : Choice) (numeral : String)
deriving DecidableEq, Repr

namespace Phrase

/-- The words of a phrase. -/
def words : Phrase → List String
  | rom path => [path]
  | apart choice numeral => [choice.spelling none, numeral]
  | joined choice numeral => [choice.spelling (some numeral)]

/-- What a phrase says. -/
def saying : Phrase → Saying
  | rom path => .rom path
  | apart choice numeral => .number choice numeral
  | joined choice numeral => .number choice numeral

end Phrase

/-- The end of a command line, from the separator on. -/
inductive Ending where
  /-- There is no separator. -/
  | absent
  /-- Nothing stands behind the separator. -/
  | bare
  /-- A path stands behind the separator, whatever it begins with. -/
  | rom (path : String)
deriving DecidableEq, Repr

namespace Ending

/-- The words of an ending. -/
def words : Ending → List String
  | absent => []
  | bare => ["--"]
  | rom path => ["--", path]

/-- What an ending says. -/
def sayings : Ending → List Saying
  | absent => []
  | bare => []
  | rom path => [.rom path]

end Ending

/-- A command line as phrases in any order and an ending. -/
structure Sentence where
  /-- The phrases before the separator. -/
  phrases : List Phrase
  /-- What follows from the separator on. -/
  ending : Ending
deriving DecidableEq, Repr

namespace Sentence

/-- The words of a sentence. -/
def words (sentence : Sentence) : List String :=
  sentence.phrases.flatMap Phrase.words ++ sentence.ending.words

/-- All that a sentence says, in its order. -/
def sayings (sentence : Sentence) : List Saying :=
  sentence.phrases.map Phrase.saying ++ sentence.ending.sayings

/-- Every path before the separator is a bare text. -/
def WellSpelt (sentence : Sentence) : Prop :=
  ∀ path, .rom path ∈ sentence.phrases → Bare path

/-- A sentence with a phrase in front of it. -/
def cons (phrase : Phrase) (sentence : Sentence) : Sentence where
  phrases := phrase :: sentence.phrases
  ending := sentence.ending

/-- The words of a phrase come before those of the sentence behind it. -/
theorem words_cons (phrase : Phrase) (sentence : Sentence) :
    (sentence.cons phrase).words = phrase.words ++ sentence.words := by
  rw [words, words, cons, List.flatMap_cons, List.append_assoc]

/-- What a phrase says comes before what the sentence behind it says. -/
theorem sayings_cons (phrase : Phrase) (sentence : Sentence) :
    (sentence.cons phrase).sayings = phrase.saying :: sentence.sayings := rfl

/-- A sentence stays well-spelt with a phrase in front that is no path or a bare one. -/
theorem WellSpelt.cons {sentence : Sentence} (wellSpelt : sentence.WellSpelt) {phrase : Phrase}
    (bare : ∀ path, phrase = .rom path → Bare path) : (sentence.cons phrase).WellSpelt := by
  intro path listed
  -- A path in the longer sentence is the new phrase or stands behind it.
  rcases List.mem_cons.mp listed with first | later
  · exact bare path first.symm
  · exact wellSpelt path later

end Sentence

namespace Choice

/-- What holds for a choice that no numeral is given to. -/
def default : Choice → Option UInt64
  | frameRate => some 60
  | speed => some 700
  | seed => none

/-- A number is in the range of a choice. -/
def Allows (choice : Choice) (value : UInt64) : Prop :=
  match choice with
  | frameRate => 1 ≤ value.toNat ∧ value.toNat ≤ 1000
  | speed => 1 ≤ value.toNat
  | seed => True

/-- What options hold for a choice. -/
def held (choice : Choice) (options : Options) : Option UInt64 :=
  match choice with
  | frameRate => some options.frameRate
  | speed => some options.speed
  | seed => options.seed

/-- A choice admits the numbers in its range. -/
theorem admits_iff {choice : Choice} {value : UInt64} :
    choice.admits value = true ↔ choice.Allows value := by
  -- Machine words are compared by the numbers that they stand for.
  cases choice <;> simp [admits, Allows, UInt64.le_iff_toNat_le]

/-- A numeral gives a number to a choice exactly if it spells a number in range. -/
theorem value?_eq_some_iff {choice : Choice} {text : String} {value : UInt64} :
    choice.value? text = some value ↔ Spells text value ∧ choice.Allows value := by
  rw [value?, Option.filter_eq_some_iff, numeral?_eq_some_iff, admits_iff]

/-- What holds for a choice without a numeral is in its range. -/
theorem allows_default {choice : Choice} {value : UInt64} (held : choice.default = some value) :
    choice.Allows value := by
  -- No seed is taken unless one is asked for, so two defaults remain to be looked at.
  cases choice <;> cases held
  · exact ⟨by decide, by decide⟩
  · exact (by decide : 1 ≤ (700 : UInt64).toNat)

end Choice

/-- Of a choice at most one numeral is given, which spells the number that is to hold for it. -/
inductive Chosen (choice : Choice) : (numerals : List String) → (held : Option UInt64) → Prop
  /-- Without a numeral the default is to hold. -/
  | default : Chosen choice [] choice.default
  /-- A numeral spells a number in range. -/
  | given {numeral : String} {value : UInt64} (spelt : Spells numeral value)
    (allowed : choice.Allows value) : Chosen choice [numeral] (some value)

/-- Of one numeral at most there is one order only. -/
theorem Chosen.perm {choice : Choice} {one other : List String} {held : Option UInt64}
    -- One text and no text are alone in their order.
    (chosen : Chosen choice one held) (same : one.Perm other) : Chosen choice other held := by
  cases chosen with
  | default =>
    rw [same.symm.eq_nil]
    exact .default
  | given spelt allowed =>
    rw [same.symm.eq_singleton]
    exact .given spelt allowed

/-- What is to hold for a choice is in its range. -/
theorem Chosen.allows {choice : Choice} {numerals : List String} {held : Option UInt64}
    (chosen : Chosen choice numerals held) {value : UInt64} (holds : held = some value) :
    choice.Allows value := by
  -- The defaults are in range by themselves, and numerals are given only in range.
  cases chosen with
  | default => exact Choice.allows_default holds
  | given _ allowed =>
    cases holds
    exact allowed

/-- What is said amounts to options. -/
structure Conveys (sayings : List Saying) (options : Options) : Prop where
  /-- One path is said, that of the program image. -/
  rom : paths sayings = [options.rom]
  /-- It is not empty. -/
  named : options.rom ≠ ""
  /-- Every choice holds the number that is said, or its default. -/
  chosen : ∀ choice : Choice, Chosen choice (numerals choice sayings) (choice.held options)

/-- In which order things are said does not matter. -/
theorem Conveys.perm {one other : List Saying} {options : Options} (conveys : Conveys one options)
    (same : one.Perm other) : Conveys other options where
  rom := by
    -- To pick the paths out of a reordering is to reorder them, and there is one only.
    have reordered : (paths one).Perm (paths other) := same.filterMap _
    rw [conveys.rom] at reordered
    exact reordered.symm.eq_singleton
  named := conveys.named
  chosen choice := (conveys.chosen choice).perm (same.filterMap _)

/-- Options hold for every choice a number in its range. -/
def InRange (options : Options) : Prop :=
  ∀ (choice : Choice) (value : UInt64), choice.held options = some value → choice.Allows value

/-- What is said amounts only to options in range. -/
theorem Conveys.inRange {sayings : List Saying} {options : Options}
    (conveys : Conveys sayings options) : InRange options :=
  fun choice _ holds => (conveys.chosen choice).allows holds

/-- A text as the path of a program image, which is not empty. -/
def path? (text : String) : Option String :=
  if text = "" then none else some text

/-- A text is understood as a path unless it is empty. -/
theorem path?_eq_some_iff {text path : String} : path? text = some path ↔ text ≠ "" ∧ text = path := by
  -- The empty text is turned away before anything else is asked of a path.
  unfold path?
  split <;> simp_all

/-- A place is filled by the only text for it, or stays as it is without one. -/
inductive Fills {value : Type} (read : String → Option value) :
    (before : Option value) → (texts : List String) → (after : Option value) → Prop
  /-- There is no text for the place. -/
  | kept {held : Option value} : Fills read held [] held
  /-- The place is empty, and the text is understood. -/
  | filled {text : String} {found : value} (understood : read text = some found) :
    Fills read none [text] (some found)

/-- Without a text a place stays as it is. -/
theorem fills_nil_iff {value : Type} {read : String → Option value} {before after : Option value} :
    Fills read before [] after ↔ before = after := by
  constructor
  · intro fills
    cases fills
    rfl
  · rintro rfl
    exact .kept

/-- An empty place is filled by one text that is understood, and by nothing else. -/
theorem fills_some_iff {value : Type} {read : String → Option value} {texts : List String}
    {found : value} :
    Fills read none texts (some found) ↔ ∃ text, texts = [text] ∧ read text = some found := by
  -- A filled place where there was none cannot have been kept.
  constructor
  · intro fills
    cases fills with
    | filled understood => exact ⟨_, rfl, understood⟩
  · rintro ⟨text, rfl, understood⟩
    exact .filled understood

/-- An empty place that is to hold a default is filled just if its choice holds what was chosen. -/
theorem chosen_iff_fills {choice : Choice} {numerals : List String} {held : Option UInt64} :
    Chosen choice numerals held ↔
      ∃ after, Fills choice.value? none numerals after ∧ held = after.or choice.default := by
  -- The defaults come in after all has been read, where a place has been left empty.
  constructor
  · intro chosen
    cases chosen with
    | default => exact ⟨none, .kept, rfl⟩
    | given spelt allowed =>
      exact ⟨some _, .filled (Choice.value?_eq_some_iff.mpr ⟨spelt, allowed⟩), rfl⟩
  · -- An empty place that has been kept is one without a numeral.
    rintro ⟨after, fills, rfl⟩
    cases fills with
    | kept => exact .default
    | filled understood =>
      obtain ⟨spelt, allowed⟩ := Choice.value?_eq_some_iff.mp understood
      exact .given spelt allowed

/-- A text for a place needs it empty, and leaves it filled for good. -/
theorem fills_cons_iff {value : Type} {read : String → Option value}
    {before after : Option value} {text : String} {rest : List String} :
    Fills read before (text :: rest) after ↔
      before = none ∧ ∃ found, read text = some found ∧ Fills read (some found) rest after := by
  -- A second text would find the place filled by the first.
  constructor
  · intro fills
    cases fills with
    | filled understood => exact ⟨rfl, _, understood, .kept⟩
  · rintro ⟨rfl, found, understood, fills⟩
    cases fills with
    | kept => exact .filled understood

namespace Given

/-- Takes note of what is said, unless it does not make sense or its place is taken. -/
def heed (given : Given) : Saying → Option Given
  | .rom path => if given.rom = none ∧ path ≠ "" then some { given with rom := some path } else none
  | .number choice numeral => (given.settle choice numeral).toOption

/-- What is given is the path and the number for each choice. -/
theorem ext {one other : Given} (rom : one.rom = other.rom)
    -- Two of them that agree in every place are one and the same.
    (same : ∀ choice, one.get choice = other.get choice) : one = other := by
  obtain ⟨_, _, _, _⟩ := one
  obtain ⟨_, _, _, _⟩ := other
  obtain rfl := rom
  obtain rfl := same .frameRate
  obtain rfl := same .speed
  obtain rfl := same .seed
  rfl

/-- A number given to a choice is had for it and for no other. -/
theorem get_set (given : Given) (choice other : Choice) (value : UInt64) :
    (given.set choice value).get other =
      if choice = other then some value else given.get other := by
  -- Each choice has a place of its own.
  cases choice <;> cases other <;> rfl

/-- A path leaves the numbers of the choices alone. -/
theorem get_rom (given : Given) (rom : Option String) (choice : Choice) :
    { given with rom }.get choice = given.get choice := by
  cases choice <;> rfl

/-- A number given to a choice leaves the path alone. -/
@[simp] theorem rom_set (given : Given) (choice : Choice) (value : UInt64) :
    (given.set choice value).rom = given.rom := by
  cases choice <;> rfl

/-- Settling a choice needs it open and the numeral understood. -/
theorem settle_eq_ok_iff {given after : Given} {choice : Choice} {numeral : String} :
    given.settle choice numeral = .ok after ↔
      given.get choice = none ∧
        ∃ value, choice.value? numeral = some value ∧ after = given.set choice value := by
  unfold settle
  -- A choice that has its number already is settled no more.
  cases held : given.get choice with
  | some value => simp
  | none =>
    -- For an open choice the numeral decides.
    cases choice.value? numeral with
    | none => simp
    | some value => simp [eq_comm]

/-- A path is heeded if there is none yet. -/
theorem heed_rom_eq_some_iff {given after : Given} {path : String} :
    given.heed (.rom path) = some after ↔
      given.rom = none ∧ path ≠ "" ∧ after = { given with rom := some path } := by
  -- Both ways of refusing a path are conditions of the branch.
  simp [heed, and_assoc, eq_comm]

/-- A number is heeded if its choice can be settled. -/
theorem heed_number_eq_some_iff {given after : Given} {choice : Choice} {numeral : String} :
    given.heed (.number choice numeral) = some after ↔ given.settle choice numeral = .ok after := by
  -- The reason why a choice cannot be settled is forgotten.
  show (given.settle choice numeral).toOption = some after ↔ _
  cases given.settle choice numeral with
  | error stop => exact ⟨nofun, nofun⟩
  | ok settled => exact ⟨fun same => congrArg _ (Option.some.inj same), congrArg _⟩

/-- Things said one after the other are all heeded exactly if each place is filled by the only text
for it. -/
theorem foldlM_heed_eq_some_iff {given final : Given} {sayings : List Saying} :
    sayings.foldlM heed given = some final ↔
      Fills path? given.rom (paths sayings) final.rom ∧
        ∀ choice, Fills choice.value? (given.get choice) (numerals choice sayings)
          (final.get choice) := by
  -- Whatever is said fills one place, which has to be empty and stays filled for the rest.
  induction sayings generalizing given with
  | nil =>
    -- Nothing is said, so that every place is left as it is.
    simp only [List.foldlM_nil, paths, numerals, List.filterMap_nil, fills_nil_iff]
    constructor
    · intro same
      cases same
      exact ⟨rfl, fun _ => rfl⟩
    · rintro ⟨rom, chosen⟩
      rw [ext rom chosen]
      rfl
  | cons saying rest ih =>
    -- Whatever is said first has to be heeded before the rest is.
    rw [List.foldlM_cons, Option.bind_eq_bind, Option.bind_eq_some_iff]
    cases saying with
    | rom path =>
      -- The place of the path is filled, and those of the choices are left alone.
      simp only [heed_rom_eq_some_iff, ih, paths_rom, numerals_rom, fills_cons_iff,
        path?_eq_some_iff]
      constructor
      · rintro ⟨after, ⟨empty, named, rfl⟩, rom, chosen⟩
        exact ⟨⟨empty, path, ⟨named, rfl⟩, rom⟩, fun choice => get_rom given _ choice ▸ chosen choice⟩
      · rintro ⟨⟨empty, _, ⟨named, rfl⟩, rom⟩, chosen⟩
        exact ⟨_, ⟨empty, named, rfl⟩, rom, fun choice => (get_rom given _ choice).symm ▸ chosen choice⟩
    | number choice numeral =>
      -- The place of the choice is filled, and all others are left alone.
      simp only [heed_number_eq_some_iff, settle_eq_ok_iff, ih, paths_number, numerals_number]
      constructor
      · -- The number of the choice is there when the rest is said, so no other numeral may come for
        -- it.
        rintro ⟨after, ⟨vacant, value, understood, rfl⟩, rom, chosen⟩
        refine ⟨rom_set given choice value ▸ rom, fun other => ?_⟩
        have later := chosen other
        -- For the choice itself the numeral is the first, and for another one it is passed over.
        rw [get_set] at later
        split
        case isTrue same =>
          subst same
          rw [if_pos rfl] at later
          exact fills_cons_iff.mpr ⟨vacant, value, understood, later⟩
        case isFalse apart => rwa [if_neg apart] at later
      · -- The place of the choice is empty and takes the numeral, since both are said of it.
        rintro ⟨rom, chosen⟩
        have own := chosen choice
        rw [if_pos rfl] at own
        obtain ⟨vacant, value, understood, filled⟩ := fills_cons_iff.mp own
        refine ⟨_, ⟨vacant, value, understood, rfl⟩, (rom_set given choice value).symm ▸ rom,
          fun other => ?_⟩
        rw [get_set]
        split
        case isTrue same => exact same ▸ filled
        case isFalse apart =>
          have later := chosen other
          rwa [if_neg apart] at later

/-- What is given makes options if there is a path, with defaults for the choices left open. -/
theorem options_eq_ok_iff {given : Given} {options : Options} :
    given.options = .ok options ↔
      given.rom = some options.rom ∧
        ∀ choice : Choice, choice.held options = (given.get choice).or choice.default := by
  -- The choices are three, and what is held for each is a field of the options.
  have each (holds : Choice → Prop) :
      (∀ choice, holds choice) ↔ holds .frameRate ∧ holds .speed ∧ holds .seed :=
    ⟨fun all => ⟨all _, all _, all _⟩, fun ⟨frames, cycles, start⟩ choice => by
      cases choice <;> assumption⟩
  obtain ⟨rom, frameRate, speed, seed⟩ := given
  obtain ⟨path, frames, cycles, start⟩ := options
  rw [each]
  -- Without a path no options are made, whatever the choices hold.
  cases rom with
  | none => simp [Given.options]
  | some rom =>
    simp [Given.options, Choice.held, Choice.default, get, Options.defaultFrameRate,
      Options.defaultSpeed, eq_comm]

/-- From nothing given, what is said is heeded and makes options exactly if it amounts to them. -/
theorem exists_heeded_iff {sayings : List Saying} {options : Options} :
    (∃ final, sayings.foldlM heed empty = some final ∧ final.options = .ok options) ↔
      Conveys sayings options := by
  -- In the beginning all places are empty.
  have vacant (choice : Choice) : empty.get choice = none := by cases choice <;> rfl
  simp only [foldlM_heed_eq_some_iff, options_eq_ok_iff, vacant]
  constructor
  · rintro ⟨final, ⟨rom, numbers⟩, path, held⟩
    -- There are no options without a path, so its place has been filled.
    rw [path] at rom
    obtain ⟨text, said, understood⟩ := fills_some_iff.mp rom
    obtain ⟨named, rfl⟩ := path?_eq_some_iff.mp understood
    exact ⟨said, named, fun choice => chosen_iff_fills.mpr ⟨_, numbers choice, held choice⟩⟩
  · rintro ⟨rom, named, chosen⟩
    -- Every place is filled on its own, and together they are what is given in the end.
    obtain ⟨frameRate, frames, heldFrames⟩ := chosen_iff_fills.mp (chosen .frameRate)
    obtain ⟨speed, cycles, heldCycles⟩ := chosen_iff_fills.mp (chosen .speed)
    obtain ⟨seed, start, heldStart⟩ := chosen_iff_fills.mp (chosen .seed)
    refine ⟨⟨some options.rom, frameRate, speed, seed⟩, ⟨?_, ?_⟩, rfl, ?_⟩
    · -- The path is the one text for its place.
      rw [rom]
      exact .filled (path?_eq_some_iff.mpr ⟨named, rfl⟩)
    · -- The numbers are those for which the places were filled.
      intro choice
      cases choice <;> assumption
    · intro choice
      cases choice <;> assumption

end Given

end ChipEight.CommandLine
