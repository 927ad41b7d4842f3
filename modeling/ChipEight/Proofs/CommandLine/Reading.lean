import ChipEight.Proofs.CommandLine.Sentence

/-! A command line is accepted exactly if it is a sentence that amounts to options, and it then gives
these options, whatever the order of its phrases. -/

namespace ChipEight.CommandLine

variable {progress : Progress} {given final : Given} {options : Options}

/-- An attempt made of two gives an answer exactly if both do. -/
theorem bind_eq_ok_iff {first second : Type} {attempt : Except Stop first}
    {next : first → Except Stop second} {answer : second} :
    attempt >>= next = .ok answer ↔ ∃ middle, attempt = .ok middle ∧ next middle = .ok answer := by
  -- A stop is passed on by the second attempt, which is never made.
  cases attempt with
  | error stop => exact ⟨nofun, nofun⟩
  | ok middle => exact ⟨fun same => ⟨middle, rfl, same⟩, fun ⟨_, same, rest⟩ => by cases same; exact rest⟩

namespace Progress

/-- What is given once all words are read and nothing is left pending. -/
def finish (progress : Progress) (args : List String) : Except Stop Given := do
  let later ← progress.words args
  -- What is pending behind the last word has no word left to wait for.
  later.settle

/-- Nothing is pending. -/
def settled (given : Given) : Progress where
  given
  pending := .nothing

/-- Without further words what is pending is settled. -/
@[simp] theorem finish_nil (progress : Progress) : progress.finish [] = progress.settle := rfl

/-- Words behind the separator are paths. -/
theorem finish_separator (progress : Progress) (rest : List String) :
    progress.finish ("--" :: rest) = rest.foldlM positional progress >>= settle := rfl

/-- A word before the separator is taken first. -/
theorem finish_cons (progress : Progress) {text : String} {read : Word}
    (means : Word.ofString text = read) (other : read ≠ .separator) (rest : List String) :
    progress.finish (text :: rest) = progress.word read >>= (·.finish rest) := by
  subst means
  rw [finish, words]
  -- The separator is told apart before any other word is read.
  split
  case h_1 same => exact (other same).elim
  case h_2 => exact bind_assoc ..

/-- What is settled in time counts as given, so that there is a path just if there was one. -/
theorem hasRom_of_settle (settles : progress.settle = .ok given) :
    (settled given).hasRom = progress.hasRom := by
  -- Settling a number leaves the path alone, and settling a path makes it the one that is given.
  obtain ⟨earlier, pending⟩ := progress
  cases pending with
  | nothing =>
    cases settles
    rfl
  | choice choice text =>
    cases text with
    | none => cases settles
    | some text =>
      obtain ⟨-, value, -, rfl⟩ := Given.settle_eq_ok_iff.mp settles
      simp [hasRom, settled]
  | rom path =>
    simp only [settle] at settles
    split at settles <;> cases settles
    rfl

/-- A plain word is taken as a path alike, whether what was pending has been settled or not. -/
theorem positional_of_settle (settles : progress.settle = .ok given) (text : String) :
    progress.positional text = (settled given).positional text := by
  -- A path asks whether there is one already and settles what is pending, and no more than that.
  rw [positional, positional, hasRom_of_settle settles, settles]
  rfl

/-- A word is taken alike, whether what was pending has been settled or not. -/
theorem word_of_settle (settles : progress.settle = .ok given) {read : Word}
    (other : read ≠ .separator) : progress.word read = (settled given).word read := by
  -- All that taking a word asks of the progress is what it settles to.
  have own : (settled given).settle = .ok given := rfl
  -- The first case is excluded, and the second takes no account of the progress at all.
  cases read with
  | separator => exact (other rfl).elim
  | unknown => rfl
  | help attached => cases attached <;> simp only [word, settles, own]
  | version attached => cases attached <;> simp only [word, settles, own]
  | choice choice attached => cases attached <;> simp only [word, settles, own]
  | plain text =>
    -- A choice that waits for its value could not have been settled.
    have waits : ∀ choice, progress.pending ≠ .choice choice none := by
      intro choice waiting
      rw [settle, waiting] at settles
      cases settles
    rw [word]
    split
    case h_1 waiting => exact (waits _ waiting).elim
    case h_2 => exact positional_of_settle settles text

/-- What is pending can be settled before the next word. -/
theorem finish_of_settle (settles : progress.settle = .ok given) (args : List String) :
    progress.finish args = (settled given).finish args := by
  -- Only the next word meets what is pending.
  cases args with
  | nil => exact settles
  | cons text rest =>
    by_cases separates : Word.ofString text = .separator
    · obtain rfl := Word.ofString_eq_separator_iff.mp separates
      rw [finish_separator, finish_separator]
      cases rest with
      | nil => exact settles
      -- Behind the separator it is the first path that meets it.
      | cons path rest => rw [List.foldlM_cons, positional_of_settle settles, ← List.foldlM_cons]
    · rw [finish_cons _ rfl separates, finish_cons _ rfl separates, word_of_settle settles separates]

/-- A further path is taken only where what is pending can be settled. -/
theorem settle_of_positional {text : String} {next : Progress}
    (taken : progress.positional text = .ok next) : ∃ given, progress.settle = .ok given := by
  unfold positional at taken
  -- A path that comes second is turned away at once, and any other one settles first.
  split at taken
  · cases taken
  · obtain ⟨given, settles, -⟩ := bind_eq_ok_iff.mp taken
    exact ⟨given, settles⟩

/-- A further word is taken only where what is pending can be settled, unless it is the value that a
choice waits for. -/
theorem settle_of_word {read : Word} {next : Progress} (other : read ≠ .separator)
    (taken : progress.word read = .ok next) :
    (∃ given, progress.settle = .ok given) ∨
      ∃ choice text, progress.pending = .choice choice none ∧ read = .plain text := by
  -- Every word that is taken at all settles what is pending, but for a value that is waited for.
  cases read with
  | separator => exact (other rfl).elim
  | unknown => cases taken
  | help attached =>
    cases attached
    · obtain ⟨given, settles, -⟩ := bind_eq_ok_iff.mp taken
      exact .inl ⟨given, settles⟩
    · -- A request for help or for the version that carries a value is refused.
      cases taken
  | version attached =>
    cases attached
    · obtain ⟨given, settles, -⟩ := bind_eq_ok_iff.mp taken
      exact .inl ⟨given, settles⟩
    · cases taken
  | choice choice attached =>
    cases attached
    all_goals
      obtain ⟨given, settles, -⟩ := bind_eq_ok_iff.mp taken
      exact .inl ⟨given, settles⟩
  | plain text =>
    -- A choice that waits takes the text as its value and is not settled yet.
    rw [word] at taken
    split at taken
    case h_1 waiting => exact .inr ⟨_, text, waiting, rfl⟩
    case h_2 => exact .inl (settle_of_positional taken)

/-- Reading comes to an end only where what is pending can be settled, unless it is a choice which
waits for its value and gets it. -/
theorem settle_of_finish {args : List String} (done : progress.finish args = .ok final) :
    (∃ given, progress.settle = .ok given) ∨
      ∃ choice text rest, progress.pending = .choice choice none ∧ args = text :: rest ∧
        Bare text := by
  -- The first word decides, or the end of the words where there is none.
  cases args with
  | nil => exact .inl ⟨final, done⟩
  | cons text rest =>
    by_cases separates : Word.ofString text = .separator
    · obtain rfl := Word.ofString_eq_separator_iff.mp separates
      rw [finish_separator] at done
      cases rest with
      | nil => exact .inl ⟨final, done⟩
      -- The first path behind the separator is taken like one before it.
      | cons path rest =>
        rw [List.foldlM_cons] at done
        obtain ⟨last, folded, -⟩ := bind_eq_ok_iff.mp done
        obtain ⟨next, taken, -⟩ := bind_eq_ok_iff.mp folded
        exact .inl (settle_of_positional taken)
    · rw [finish_cons _ rfl separates] at done
      obtain ⟨next, taken, -⟩ := bind_eq_ok_iff.mp done
      -- The word that a choice waits for is the plain one that was read.
      rcases settle_of_word separates taken with settles | ⟨choice, plain, waiting, read⟩
      · exact .inl settles
      · exact .inr ⟨choice, text, rest, waiting, rfl, (Word.ofString_eq_plain_iff.mp read).2⟩

/-- What is pending has to be settled sooner or later, so it might as well be settled at once. -/
theorem finish_eq_ok_iff (waits : ∀ choice, progress.pending ≠ .choice choice none)
    (args : List String) :
    progress.finish args = .ok final ↔
      ∃ given, progress.settle = .ok given ∧ (settled given).finish args = .ok final := by
  constructor
  · intro done
    -- Nothing waits for its value, so the second way of coming to an end is none.
    rcases settle_of_finish done with ⟨given, settles⟩ | ⟨choice, _, _, waiting, _⟩
    · exact ⟨given, settles, finish_of_settle settles args ▸ done⟩
    · exact (waits choice waiting).elim
  · rintro ⟨given, settles, done⟩
    exact (finish_of_settle settles args).trans done

/-- A path behind the separator or among the phrases needs its place empty. -/
theorem positional_eq_ok_iff {path : String} {next : Progress} :
    (settled given).positional path = .ok next ↔ given.rom = none ∧ next = ⟨given, .rom path⟩ := by
  obtain ⟨rom, _, _, _⟩ := given
  -- The place is taken if and only if there is a path already.
  cases rom with
  | none => exact ⟨fun same => by cases same; exact ⟨rfl, rfl⟩, fun ⟨_, same⟩ => same ▸ rfl⟩
  | some earlier => exact ⟨nofun, fun ⟨taken, _⟩ => nomatch taken⟩

/-- A path that was taken is settled unless it is empty. -/
theorem settle_rom_eq_ok_iff {path : String} {after : Given} :
    (⟨given, .rom path⟩ : Progress).settle = .ok after ↔
      path ≠ "" ∧ after = { given with rom := some path } := by
  simp only [settle]
  -- An empty path is refused at last, although it was taken.
  split
  case isTrue empty => simp [empty]
  case isFalse named =>
    exact ⟨fun same => ⟨named, (Except.ok.inj same).symm⟩, fun same => same.2 ▸ rfl⟩

/-- A bare path among the phrases is heeded before what follows. -/
theorem finish_rom {path : String} (bare : Bare path) (rest : List String) :
    (settled given).finish (path :: rest) = .ok final ↔
      ∃ after, given.heed (.rom path) = some after ∧ (settled after).finish rest = .ok final := by
  -- A bare text is read as plain, and a plain text is a path where no choice waits.
  have read : Word.ofString path = .plain path := Word.ofString_eq_plain_iff.mpr ⟨rfl, bare⟩
  have taken : (settled given).word (.plain path) = (settled given).positional path := rfl
  rw [finish_cons _ read (by simp), taken, bind_eq_ok_iff]
  simp only [positional_eq_ok_iff, Given.heed_rom_eq_some_iff]
  -- The path waits to be settled, which may as well happen before the rest is read.
  constructor
  · rintro ⟨_, ⟨vacant, rfl⟩, done⟩
    obtain ⟨after, settles, later⟩ := (finish_eq_ok_iff (by simp) rest).mp done
    obtain ⟨named, same⟩ := settle_rom_eq_ok_iff.mp settles
    exact ⟨after, ⟨vacant, named, same⟩, later⟩
  · rintro ⟨after, ⟨vacant, named, same⟩, later⟩
    refine ⟨_, ⟨vacant, rfl⟩, (finish_eq_ok_iff (by simp) rest).mpr ⟨after, ?_, later⟩⟩
    exact settle_rom_eq_ok_iff.mpr ⟨named, same⟩

/-- A choice with its numeral in the same word is settled before what follows. -/
theorem finish_joined (choice : Choice) (numeral : String) (rest : List String) :
    (settled given).finish (choice.spelling (some numeral) :: rest) = .ok final ↔
      ∃ after, given.settle choice numeral = .ok after ∧
        (settled after).finish rest = .ok final := by
  rw [finish_cons _ (Word.ofString_eq_choice_iff.mpr rfl) (by simp), bind_eq_ok_iff]
  -- Nothing is pending before the choice, and nothing behind it.
  constructor
  · -- Settling nothing changes nothing, so the given choice is the only thing to be settled.
    rintro ⟨next, taken, done⟩
    obtain ⟨_, settles, rest⟩ := bind_eq_ok_iff.mp taken
    cases settles
    obtain ⟨after, settles, same⟩ := bind_eq_ok_iff.mp rest
    cases same
    exact ⟨after, settles, done⟩
  · -- The word settles its choice at once and leaves nothing pending.
    rintro ⟨after, settles, done⟩
    refine ⟨settled after, ?_, done⟩
    show (given.settle choice numeral >>= fun given => pure (settled given)) = _
    rw [settles]
    rfl

/-- A choice with its numeral in the next word is settled before what follows. -/
theorem finish_apart (choice : Choice) (numeral : String) (rest : List String) :
    (settled given).finish (choice.spelling none :: numeral :: rest) = .ok final ↔
      ∃ after, given.settle choice numeral = .ok after ∧
        (settled after).finish rest = .ok final := by
  -- The choice waits for its value, which has to be a bare word.
  rw [finish_cons _ (Word.ofString_eq_choice_iff.mpr rfl) (by simp)]
  show (⟨given, .choice choice none⟩ : Progress).finish (numeral :: rest) = .ok final ↔ _
  have value (bare : Bare numeral) :
      (⟨given, .choice choice none⟩ : Progress).finish (numeral :: rest) =
        (⟨given, .choice choice (some numeral)⟩ : Progress).finish rest :=
    finish_cons _ (Word.ofString_eq_plain_iff.mpr ⟨rfl, bare⟩) (by simp) rest
  constructor
  · intro done
    -- A choice that waits is not settled, so the word behind it was taken as its value.
    rcases settle_of_finish done with ⟨_, settles⟩ | ⟨_, _, _, _, same, bare⟩
    · cases settles
    · cases same
      rw [value bare] at done
      exact (finish_eq_ok_iff (by simp) rest).mp done
  · rintro ⟨after, settles, done⟩
    -- A numeral begins with no hyphen, so it is read as the value and not as a word of its own.
    obtain ⟨-, number, understood, -⟩ := Given.settle_eq_ok_iff.mp settles
    obtain ⟨spelt, -⟩ := Choice.value?_eq_some_iff.mp understood
    rw [value (.inr spelt.head_ne_hyphen)]
    exact (finish_eq_ok_iff (by simp) rest).mpr ⟨after, settles, done⟩

/-- A phrase is heeded before what follows. -/
theorem finish_phrase {phrase : Phrase} (bare : ∀ path, phrase = .rom path → Bare path)
    (rest : List String) :
    (settled given).finish (phrase.words ++ rest) = .ok final ↔
      ∃ after, given.heed phrase.saying = some after ∧
        (settled after).finish rest = .ok final := by
  -- Each kind of phrase has been dealt with on its own.
  cases phrase with
  | rom path => exact finish_rom (bare path rfl) rest
  | apart choice numeral =>
    simp only [Phrase.saying, Given.heed_number_eq_some_iff]
    exact finish_apart choice numeral rest
  | joined choice numeral =>
    simp only [Phrase.saying, Given.heed_number_eq_some_iff]
    exact finish_joined choice numeral rest

/-- An ending is heeded like a phrase that says the same. -/
theorem finish_ending (ending : Ending) :
    (settled given).finish ending.words = .ok final ↔
      ending.sayings.foldlM Given.heed given = some final := by
  -- Only a path behind the separator says anything.
  cases ending with
  | absent => exact ⟨fun same => by cases same; rfl, fun same => by cases same; rfl⟩
  | bare => exact ⟨fun same => by cases same; rfl, fun same => by cases same; rfl⟩
  | rom path =>
    -- The one word behind the separator is taken as a path and settled at once.
    have folded : (settled given).finish ["--", path] = (settled given).positional path >>= settle := by
      rw [finish_separator, List.foldlM_cons, bind_assoc]
      rfl
    rw [Ending.words, folded, bind_eq_ok_iff, Ending.sayings, List.foldlM_cons]
    simp only [positional_eq_ok_iff, List.foldlM_nil, bind_pure, Given.heed_rom_eq_some_iff]
    constructor
    · rintro ⟨_, ⟨vacant, rfl⟩, settles⟩
      exact ⟨vacant, settle_rom_eq_ok_iff.mp settles⟩
    · rintro ⟨vacant, named⟩
      exact ⟨_, ⟨vacant, rfl⟩, settle_rom_eq_ok_iff.mpr named⟩

/-- A well-spelt sentence is heeded from its first phrase to its ending. -/
theorem finish_words {sentence : Sentence} (wellSpelt : sentence.WellSpelt) :
    (settled given).finish sentence.words = .ok final ↔
      sentence.sayings.foldlM Given.heed given = some final := by
  -- Behind each phrase that is heeded nothing is pending, so the rest is read from what is given.
  obtain ⟨phrases, ending⟩ := sentence
  induction phrases generalizing given with
  | nil => exact finish_ending ending
  | cons phrase rest ih =>
    -- The path of the first phrase is bare, and so are those of the other phrases.
    have first path (same : phrase = .rom path) : Bare path :=
      wellSpelt path (List.mem_cons.mpr (.inl same.symm))
    have later : Sentence.WellSpelt ⟨rest, ending⟩ := fun path listed =>
      wellSpelt path (List.mem_cons_of_mem phrase listed)
    have whole : (⟨phrase :: rest, ending⟩ : Sentence) = Sentence.cons phrase ⟨rest, ending⟩ := rfl
    rw [whole, Sentence.words_cons, finish_phrase first, Sentence.sayings_cons, List.foldlM_cons,
      Option.bind_eq_bind, Option.bind_eq_some_iff]
    simp only [ih later]

/-- Behind the separator there is one path at most. -/
theorem exists_ending_of_finish {rest : List String}
    (done : (settled given).finish ("--" :: rest) = .ok final) :
    ∃ ending : Ending, ending.words = "--" :: rest := by
  -- None and one are endings of their own, and more than one are refused.
  match rest with
  | [] => exact ⟨.bare, rfl⟩
  | [path] => exact ⟨.rom path, rfl⟩
  | path :: other :: rest =>
    -- The place of a path is taken when the second one comes.
    rw [finish_separator, List.foldlM_cons] at done
    obtain ⟨last, folded, -⟩ := bind_eq_ok_iff.mp done
    obtain ⟨next, taken, later⟩ := bind_eq_ok_iff.mp folded
    obtain ⟨-, rfl⟩ := positional_eq_ok_iff.mp taken
    cases later

/-- Reading comes to an end only on the words of a well-spelt sentence. -/
theorem exists_sentence_of_finish {args : List String}
    (done : (settled given).finish args = .ok final) :
    ∃ sentence : Sentence, sentence.WellSpelt ∧ sentence.words = args := by
  -- Each turn takes the words of one phrase, which are one or two.
  induction size : args.length using Nat.strongRecOn generalizing args given with
  | ind _ ih =>
  subst size
  match args with
  | [] => exact ⟨⟨[], .absent⟩, nofun, rfl⟩
  | text :: rest =>
    have shorter : rest.length < (text :: rest).length := Nat.lt_succ_self _
    -- The separator ends the phrases and begins the ending.
    by_cases separates : Word.ofString text = .separator
    · obtain rfl := Word.ofString_eq_separator_iff.mp separates
      obtain ⟨ending, words⟩ := exists_ending_of_finish done
      exact ⟨⟨[], ending⟩, nofun, words⟩
    cases read : Word.ofString text with
    | separator => exact (separates read).elim
    -- A word without a meaning is refused, whatever follows.
    | unknown =>
      rw [finish_cons _ read (by simp)] at done
      cases done
    -- A request for help or for the version ends the reading without options.
    | help attached =>
      rw [finish_cons _ read (by simp)] at done
      cases attached <;> cases done
    | version attached =>
      rw [finish_cons _ read (by simp)] at done
      cases attached <;> cases done
    -- A plain word is a phrase of its own.
    | plain path =>
      obtain ⟨rfl, bare⟩ := Word.ofString_eq_plain_iff.mp read
      obtain ⟨after, -, later⟩ := (finish_rom bare rest).mp done
      obtain ⟨sentence, wellSpelt, words⟩ := ih _ shorter later rfl
      exact ⟨sentence.cons (.rom path), wellSpelt.cons (fun _ same => by cases same; exact bare),
        by rw [Sentence.words_cons, words]; rfl⟩
    | choice choice attached =>
      -- The numeral of a choice is in its word, or in the word that follows.
      cases attached with
      | some numeral =>
        obtain rfl := Word.ofString_eq_choice_iff.mp read
        obtain ⟨after, -, later⟩ := (finish_joined choice numeral rest).mp done
        obtain ⟨sentence, wellSpelt, words⟩ := ih _ shorter later rfl
        exact ⟨sentence.cons (.joined choice numeral), wellSpelt.cons nofun,
          by rw [Sentence.words_cons, words]; rfl⟩
      | none =>
        obtain rfl := Word.ofString_eq_choice_iff.mp read
        match rest with
        -- The choice waits in vain for its value.
        | [] =>
          rw [finish_cons _ read (by simp)] at done
          cases done
        | numeral :: rest =>
          obtain ⟨after, -, later⟩ := (finish_apart choice numeral rest).mp done
          obtain ⟨sentence, wellSpelt, words⟩ := ih _ (Nat.lt_of_succ_lt shorter) later rfl
          exact ⟨sentence.cons (.apart choice numeral), wellSpelt.cons nofun,
            by rw [Sentence.words_cons, words]; rfl⟩

end Progress

/-- What is given by the words is made into options at the end. -/
theorem parse_eq_ok_iff {args : List String} :
    parse args = .ok options ↔
      ∃ final, (Progress.settled Given.empty).finish args = .ok final ∧
        final.options = .ok options := by
  -- Reading the words, settling what is left and making options are one attempt after the other.
  have whole : parse args = Progress.start.finish args >>= Given.options := (bind_assoc ..).symm
  rw [whole, bind_eq_ok_iff]
  rfl

/-- A well-spelt sentence is accepted exactly if it amounts to options, and then it gives these. -/
theorem parse_words_eq_ok_iff {sentence : Sentence} (wellSpelt : sentence.WellSpelt) :
    parse sentence.words = .ok options ↔ Conveys sentence.sayings options := by
  -- The words are heeded from what is given in the beginning, which is nothing.
  simp only [parse_eq_ok_iff, Progress.finish_words wellSpelt, Given.exists_heeded_iff]

/-- Nothing but a well-spelt sentence is accepted. -/
theorem exists_sentence_of_parse {args : List String} (accepted : parse args = .ok options) :
    ∃ sentence : Sentence, sentence.WellSpelt ∧ sentence.words = args := by
  obtain ⟨final, done, -⟩ := parse_eq_ok_iff.mp accepted
  exact Progress.exists_sentence_of_finish done

/-- A command line gives options in range only. -/
theorem inRange_of_parse {args : List String} (accepted : parse args = .ok options) :
    InRange options := by
  obtain ⟨sentence, wellSpelt, rfl⟩ := exists_sentence_of_parse accepted
  exact ((parse_words_eq_ok_iff wellSpelt).mp accepted).inRange

/-- Options in words, with the numbers in decimal digits and the path behind the separator. -/
def sentenceOf (options : Options) : Sentence where
  -- A seed is said only if there is one, as no numeral says that there is none.
  phrases :=
    [.apart .frameRate (toString options.frameRate.toNat),
      .apart .speed (toString options.speed.toNat)] ++
    (options.seed.map fun seed => Phrase.apart .seed (toString seed.toNat)).toList
  ending := .rom options.rom

/-- Options in words amount to these options. -/
theorem conveys_sentenceOf (named : options.rom ≠ "") (inRange : InRange options) :
    Conveys (sentenceOf options).sayings options where
  rom := by
    obtain ⟨_, _, _, seed⟩ := options
    -- None of the phrases is a path, so the one behind the separator is alone.
    cases seed <;> rfl
  named
  chosen choice := by
    -- Each number is said by its digits once.
    have given value (holds : choice.held options = some value) :
        Chosen choice [toString value.toNat] (some value) :=
      .given (spells_toString value) (inRange choice value holds)
    obtain ⟨_, frameRate, speed, seed⟩ := options
    cases choice with
    | frameRate => cases seed <;> exact given frameRate rfl
    | speed => cases seed <;> exact given speed rfl
    | seed =>
      cases seed with
      | none => exact .default
      | some seed => exact given seed rfl

/-- The command lines that are accepted are the well-spelt sentences that amount to options, which
they then give. Neither the order of what is said nor the way in which it is written makes a
difference, and all options in range can be said in decimal digits. -/
theorem parse_reads_sentences :
    (∀ args options, parse args = .ok options ↔
      ∃ sentence : Sentence, sentence.WellSpelt ∧ sentence.words = args ∧
        Conveys sentence.sayings options) ∧
    (∀ one other : Sentence, one.WellSpelt → other.WellSpelt →
      one.sayings.Perm other.sayings → ∀ options,
        parse one.words = .ok options ↔ parse other.words = .ok options) ∧
    ∀ options : Options, options.rom ≠ "" → InRange options →
      parse (sentenceOf options).words = .ok options := by
  refine ⟨fun args options => ⟨fun accepted => ?_, ?_⟩, ?_, ?_⟩
  · -- What was accepted is a sentence, which tells what it amounts to.
    obtain ⟨sentence, wellSpelt, rfl⟩ := exists_sentence_of_parse accepted
    exact ⟨sentence, wellSpelt, rfl, (parse_words_eq_ok_iff wellSpelt).mp accepted⟩
  · rintro ⟨sentence, wellSpelt, rfl, conveys⟩
    exact (parse_words_eq_ok_iff wellSpelt).mpr conveys
  · -- Both sentences amount to the same, as the order of what is said does not matter.
    intro one other first second same options
    rw [parse_words_eq_ok_iff first, parse_words_eq_ok_iff second]
    exact ⟨fun conveys => conveys.perm same, fun conveys => conveys.perm same.symm⟩
  · -- The path stands behind the separator, where it need not be bare.
    intro options named inRange
    refine (parse_words_eq_ok_iff ?_).mpr (conveys_sentenceOf named inRange)
    intro path listed
    obtain ⟨_, _, _, seed⟩ := options
    cases seed <;> simp [sentenceOf] at listed

/-- What is said in another order and spelling is taken alike, and so are options in decimal digits. -/
theorem parse_reads_sentences_in_another_order :
    parse ["--seed", "5", "-", "--ips=+10", "--"] = .ok ⟨"-", 60, 10, some 5⟩ ∧
      parse ["--ips=+10", "--seed=5", "--", "-"] = .ok ⟨"-", 60, 10, some 5⟩ ∧
      parse (sentenceOf ⟨"pong", 60, 700, none⟩).words = .ok ⟨"pong", 60, 700, none⟩ := by
  obtain ⟨-, reordered, reproduced⟩ := parse_reads_sentences
  -- The same three things are said, with the path in front of the separator or behind it.
  let one : Sentence := ⟨[.apart .seed "5", .rom "-", .joined .speed "+10"], .bare⟩
  let other : Sentence := ⟨[.joined .speed "+10", .joined .seed "5"], .rom "-"⟩
  have first : one.WellSpelt := by
    intro path listed
    obtain rfl : path = "-" := by simpa [one] using listed
    exact .inl rfl
  have second : other.WellSpelt := by
    intro path listed
    simp [other] at listed
  -- The first of them is read word by word, which tells how the second one is taken.
  have accepted : parse one.words = .ok ⟨"-", 60, 10, some 5⟩ := by
    rfl
  refine ⟨accepted, (reordered one other first second (by decide) _).mp accepted, ?_⟩
  -- The numbers held are in the ranges of their choices.
  refine reproduced _ (by decide) fun choice value held => ?_
  refine Choice.admits_iff.mp ?_
  cases choice <;> cases held <;> rfl

end ChipEight.CommandLine
