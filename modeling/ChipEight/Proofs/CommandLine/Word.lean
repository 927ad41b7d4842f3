import ChipEight.CommandLine.Word

/-! How the words of a command line are spelt that mean a choice, the separator or a plain text. -/

namespace ChipEight.CommandLine

/-- A text that is no choice or request where it stands before the separator, as it does not begin
with a hyphen or is nothing but a hyphen. -/
def Bare (text : String) : Prop :=
  text = "-" ∨ ∀ rest, text.toList ≠ '-' :: rest

/-- A choice as it is written without a value or together with one. -/
def Choice.spelling (choice : Choice) (attached : Option String) : String :=
  match attached with
  | none => "--" ++ choice.name
  | some value => "--" ++ choice.name ++ "=" ++ value

/-- The characters of a name and of what is attached to it. -/
def spelt (name : List Char) (attached : Option String) : List Char :=
  match attached with
  | none => name
  | some value => name ++ '=' :: value.toList

/-- The characters of a choice are two hyphens, its name and what is attached to it. -/
theorem Choice.toList_spelling (choice : Choice) (attached : Option String) :
    (choice.spelling attached).toList = '-' :: '-' :: spelt choice.name.toList attached := by
  -- Both sides are the same characters, put together from the left or from the right.
  cases attached <;> simp [spelling, spelt]

namespace Word

/-- A text is read as its name and what is attached to it, if anything is. -/
theorem spelt_takeWhile (text : List Char) :
    spelt (text.takeWhile (· != '=')) (attachment text) = text := by
  -- The letters are looked at one after the other, until there are none or one is an equals sign.
  fun_induction attachment text with
  | case1 => rfl
  | case2 value => simp [spelt]
  | case3 letter rest other ih =>
    -- Any other letter belongs to the name and leaves what is attached alone.
    have kept : (letter != '=') = true := by simpa using other
    rw [List.takeWhile_cons, if_pos kept]
    cases found : attachment rest with
    | none =>
      rw [found] at ih
      exact congrArg (List.cons letter) ih
    | some value =>
      rw [found] at ih
      exact congrArg (List.cons letter) ih

/-- A name without an equals sign is read as itself, whatever is attached to it. -/
theorem takeWhile_spelt {name : List Char} (plain : '=' ∉ name) (attached : Option String) :
    (spelt name attached).takeWhile (· != '=') = name := by
  -- No letter of the name ends it.
  have kept : ∀ letter ∈ name, (letter != '=') = true := by
    intro letter listed
    simpa using ne_of_mem_of_not_mem listed plain
  cases attached with
  -- The whole of the text is the name, and it ends with its last letter.
  | none =>
    show name.takeWhile (· != '=') = name
    have whole := @List.takeWhile_append_of_pos _ _ name [] kept
    simpa using whole
  -- Behind the name stands the equals sign, where taking letters stops.
  | some value =>
    show (name ++ '=' :: value.toList).takeWhile (· != '=') = name
    rw [List.takeWhile_append_of_pos kept]
    simp

/-- What is attached to a name without an equals sign is read as such. -/
theorem attachment_spelt {name : List Char} (plain : '=' ∉ name) (attached : Option String) :
    attachment (spelt name attached) = attached := by
  -- The letters of the name are passed over one by one.
  induction name with
  -- All that is left is the equals sign and the value, or nothing.
  | nil =>
    cases attached with
    | none => rfl
    | some value => simp [spelt, attachment]
  | cons letter rest ih =>
    -- Neither this letter of the name nor a later one is the equals sign.
    obtain ⟨other, later⟩ := not_or.mp (mt List.mem_cons.mpr plain)
    have moved : spelt (letter :: rest) attached = letter :: spelt rest attached := by
      cases attached <;> rfl
    rw [moved, attachment, ih later]
    exact Ne.symm other

/-- A long name means a choice exactly if it is the name of the choice. -/
theorem ofLong_eq_choice_iff {name : String} {attached text : Option String} {choice : Choice} :
    ofLong name attached = .choice choice text ↔ name = choice.name ∧ attached = text := by
  constructor
  · -- Each name is asked for in turn, and the three choices come last.
    intro read
    unfold ofLong at read
    repeat' split at read
    all_goals cases read
    all_goals exact ⟨by assumption, rfl⟩
  · rintro ⟨rfl, rfl⟩
    cases choice <;> rfl

/-- A long name never means the separator or a plain text. -/
theorem ofLong_ne (name : String) (attached : Option String) :
    ofLong name attached ≠ .separator ∧ ∀ text, ofLong name attached ≠ .plain text := by
  -- Every branch gives a choice, a request or a word that is unknown.
  unfold ofLong
  repeat' split
  all_goals exact ⟨by simp, by simp⟩

/-- A short name never means a choice, the separator or a plain text. -/
theorem ofShort_ne (letter : Char) :
    (∀ choice attached, ofShort letter ≠ .choice choice attached) ∧
      ofShort letter ≠ .separator ∧ ∀ text, ofShort letter ≠ .plain text := by
  -- A letter asks for help or for the version, or is unknown.
  unfold ofShort
  split <;> exact ⟨by simp, by simp, by simp⟩

/-- The ways in which a text is read as a word. -/
inductive Read (text : String) : Prop
  /-- It is the separator. -/
  | separator (alone : text = "--") (read : ofString text = .separator)
  /-- It has a long name, and what is attached to it. -/
  | long (rest : List Char) (hyphens : text.toList = '-' :: '-' :: rest) (named : rest ≠ [])
    (read : ofString text =
      ofLong (String.ofList (rest.takeWhile (· != '='))) (attachment rest))
  /-- It has a short name. -/
  | short (letter : Char) (tail : List Char) (hyphen : text.toList = '-' :: letter :: tail)
    (single : letter ≠ '-') (read : ofString text = ofShort letter)
  /-- It is a plain text. -/
  | plain (bare : Bare text) (read : ofString text = .plain text)

/-- A text is read as a word in one of the four ways. -/
theorem read_of (text : String) : Read text := by
  -- The first two characters decide, and for two hyphens also whether they stand alone.
  cases begins : text.toList with
  -- An empty text begins with no hyphen.
  | nil => exact .plain (.inr (by simp [begins])) (by simp [ofString, begins])
  | cons first tail =>
    by_cases hyphen : first = '-'
    · subst hyphen
      cases tail with
      | nil => exact .plain (.inl (String.toList_inj.mp begins)) (by simp [ofString, begins])
      | cons second rest =>
        by_cases double : second = '-'
        · subst double
          cases rest with
          | nil => exact .separator (String.toList_inj.mp begins) (by simp [ofString, begins])
          | cons third rest =>
            exact .long (third :: rest) begins (by simp) (by simp [ofString, begins])
        · -- One hyphen before another character begins a short name.
          exact .short second rest begins double (by simp [ofString, begins, double])
    · exact .plain (.inr (by simp [begins, hyphen])) (by simp [ofString, begins, hyphen])

/-- A word means a choice exactly if it is the choice as it is written. -/
theorem ofString_eq_choice_iff {text : String} {choice : Choice} {attached : Option String} :
    ofString text = .choice choice attached ↔ text = choice.spelling attached := by
  constructor
  · intro found
    -- Of the four ways only a long name leads to a choice.
    cases read_of text with
    | long rest hyphens _ read =>
      obtain ⟨named, rfl⟩ := ofLong_eq_choice_iff.mp (read.symm.trans found)
      rw [← String.toList_inj, hyphens, Choice.toList_spelling, ← named, String.toList_ofList,
        spelt_takeWhile]
    | short letter _ _ _ read => exact ((ofShort_ne letter).1 _ _ (read.symm.trans found)).elim
    | separator _ read => cases read.symm.trans found
    | plain _ read => cases read.symm.trans found
  · -- The choice as it is written begins with two hyphens and goes on, which is the way of a long
    -- name.
    rintro rfl
    have characters := choice.toList_spelling attached
    have unequal : '=' ∉ choice.name.toList := by cases choice <;> decide
    -- A name is not empty, so the two hyphens do not stand alone.
    have named : spelt choice.name.toList attached ≠ [] := by
      cases choice <;> cases attached <;> simp [spelt, Choice.name]
    cases read_of (choice.spelling attached) with
    | long rest hyphens _ read =>
      cases characters.symm.trans hyphens
      rw [read, takeWhile_spelt unequal, attachment_spelt unequal, String.ofList_toList]
      exact ofLong_eq_choice_iff.mpr ⟨rfl, rfl⟩
    | short letter tail hyphen single _ =>
      cases characters.symm.trans hyphen
      exact (single rfl).elim
    | separator alone _ =>
      rw [alone] at characters
      exact (named (List.cons.inj (List.cons.inj characters).2).2.symm).elim
    -- A bare text cannot begin with two hyphens.
    | plain bare _ =>
      rcases bare with alone | bare
      · rw [alone] at characters
        cases characters
      · exact (bare _ characters).elim

/-- A word is plain exactly if it is a bare text. -/
theorem ofString_eq_plain_iff {text plain : String} :
    ofString text = .plain plain ↔ plain = text ∧ Bare text := by
  constructor
  · -- Of the four ways only the last leads to a plain text.
    intro found
    cases read_of text with
    | long rest _ _ read => exact ((ofLong_ne _ _).2 _ (read.symm.trans found)).elim
    | short letter _ _ _ read => exact ((ofShort_ne letter).2.2 _ (read.symm.trans found)).elim
    | separator _ read => cases read.symm.trans found
    | plain bare read =>
      cases read.symm.trans found
      exact ⟨rfl, bare⟩
  · rintro ⟨rfl, rfl | bare⟩
    · -- A hyphen alone is a plain text though it begins with a hyphen.
      rfl
    · -- All other ways of reading a text ask for a hyphen at its beginning.
      cases read_of plain with
      | long rest hyphens _ _ => exact (bare _ hyphens).elim
      | short letter _ hyphen _ _ => exact (bare _ hyphen).elim
      | separator alone _ => exact (bare _ (String.toList_inj.mpr alone)).elim
      | plain _ read => exact read

/-- Only two hyphens on their own are the separator. -/
theorem ofString_eq_separator_iff {text : String} : ofString text = .separator ↔ text = "--" := by
  -- Of the four ways only the first leads to the separator.
  constructor
  · intro found
    cases read_of text with
    | long rest _ _ read => exact ((ofLong_ne _ _).1 (read.symm.trans found)).elim
    | short letter _ _ _ read => exact ((ofShort_ne letter).2.1 (read.symm.trans found)).elim
    | separator alone _ => exact alone
    | plain _ read => cases read.symm.trans found
  · rintro rfl
    rfl

end Word

end ChipEight.CommandLine
