import ChipEight.Machine.Event
import ChipEight.Proofs.Rom.Source

/-! What loading does: which answer is given, and that it is done in full or not at all. -/

namespace ChipEight

namespace Machine

/-- The reply to a load that fails. -/
def refusal (machine : Machine) (error : LoadError) (consumed : Nat) : Reply :=
  ⟨.load (.error (.unloadable error)) consumed, machine, []⟩

/-- A machine after it has been given a program image. -/
structure HasImage (before after : Machine) (bytes : List UInt8) : Prop where
  /-- The image is one that fits. -/
  fits : bytes.length ≤ 3584
  /-- The next cycle will be carried out. -/
  running : after.run = .running
  /-- Memory holds the font, the image and zeros elsewhere. -/
  memory : ∀ address < 4096, after.hardware.memory.byteAt address =
    if 0x200 ≤ address then bytes[address - 0x200]?.getD 0
    else if 0x50 ≤ address ∧ address < 0xA0 then Font.bytes[address - 0x50]?.getD 0
    else 0
  /-- No call is pending. -/
  calls : after.hardware.stack.toList = []
  /-- A redraw is asked for, the random source is the one before, and all else is as at power-on. -/
  -- Fields that are not spoken of elsewhere are compared all at once with power-on.
  others : after.hardware =
    { Hardware.powerOn before.hardware.random with
      memory := after.hardware.memory
      stack := after.hardware.stack
      screen := Screen.blank.askRedraw }

/-- The two ways in which loading can end if certain bytes come and are admitted on a condition. -/
inductive LoadEnds (machine : Machine) (bytes : List UInt8) (admitted : Prop) : Reply → Prop
  /-- They are not admitted, nothing has changed and nothing is said in the journal. -/
  | refused (error : LoadError) (consumed : Nat) (rejected : ¬ admitted) :
    LoadEnds machine bytes admitted (machine.refusal error consumed)
  /-- They are the image of a machine that starts afresh, as the journal says. -/
  | placed {after : Machine} (consumed : Nat) (accepted : admitted)
    (image : machine.HasImage after bytes) :
    LoadEnds machine bytes admitted
      ⟨.load (.ok ()) consumed, after, [.reset, .loaded bytes.length]⟩

/-- A machine into which an image is put has it. -/
theorem hasImage_insert (machine : Machine) (rom : Rom) :
    machine.HasImage (machine.insert rom).2.1 rom.bytes := by
  -- What a load puts in place is laid over the memory of a machine that has been reset.
  rw [insert_eq]
  refine ⟨rom.fits, rfl, ?_, machine.hardware.stack.toList_clear, ?_⟩
  -- All parts but memory, stack and screen are those of the reset.
  case refine_2 => simp only [Hardware.reset]
  intro address within
  exact Memory.byteAt_overlay_powerOn rom.bytes within

/-- With an image or without one, loading ends in the way that goes with it. -/
theorem loadEnds_loadResult (machine : Machine) {image : Except LoadError Rom} (consumed : Nat)
    {bytes : List UInt8} {admitted : Prop} (made : (∃ rom, image = .ok rom) ↔ admitted)
    (offered : ∀ rom, image = .ok rom → rom.bytes = bytes) :
    machine.LoadEnds bytes admitted (machine.loadResult image consumed) := by
  cases image with
  -- Without an image the bytes cannot have been admitted.
  | error error => exact .refused error consumed fun accepted => nomatch made.mpr accepted
  | ok rom =>
    -- The image has the bytes that came, and the machine is the one into which it is put.
    obtain rfl := offered rom rfl
    have image := machine.hasImage_insert rom
    simp only [loadResult]
    rw [insert_eq] at image ⊢
    exact .placed consumed (made.mp ⟨rom, rfl⟩) image

/-- Bytes are loaded exactly if they fit. -/
theorem loadEnds_load (machine : Machine) (bytes : List UInt8) :
    machine.LoadEnds bytes (bytes.length ≤ 3584) (machine.load bytes) := by
  by_cases fits : bytes.length ≤ 3584
  · -- The image has all of the bytes.
    rw [load, Rom.ofBytes_of_le fits]
    refine machine.loadEnds_loadResult _ ⟨fun _ => fits, fun _ => ⟨_, rfl⟩⟩ ?_
    rintro rom ⟨⟩
    rfl
  · -- Too many bytes make no image.
    rw [load, Rom.ofBytes_of_gt (Nat.not_le.mp fits)]
    exact .refused _ _ fits

/-- An image is loaded from a source exactly if the source offers one as it reports. -/
theorem loadEnds_loadFrom (machine : Machine) (source : Source) (reported : Nat) :
    machine.LoadEnds source.visible (source.Offers reported) (machine.loadFrom source reported) :=
  -- A source that offers no image has none to be put in place, whatever the reason.
  machine.loadEnds_loadResult _ (Rom.exists_ofSource_iff source reported)
    fun _ => Rom.bytes_of_ofSource

/--
Loading is done in full or not at all, wherever the image comes from.

Bytes are loaded exactly if they fit. From a source, such as a file that has been opened, they must
also be as many as it reports and be read to their end. A reset is never followed by a fault.
-/
theorem load_is_all_or_nothing (machine : Machine) :
    (∀ bytes : List UInt8,
      machine.LoadEnds bytes (bytes.length ≤ 3584) (machine.load bytes)) ∧
    (∀ (source : Source) (reported : Nat), machine.LoadEnds source.visible
      (source.Offers reported) (machine.loadFrom source reported)) ∧
    (∀ opened : File, machine.LoadEnds opened.source.visible
      (opened.source.Offers opened.reported) (machine.loadFile (.ok opened))) ∧
    (∀ bytes : List UInt8, machine.LoadEnds bytes (bytes.length ≤ 3584)
      (machine.loadFile (.ok (.holding bytes)))) ∧
    (∀ failure : ReadFailure,
      machine.loadFile (.error failure) = machine.refusal (.unreadable failure) 0) ∧
    ∀ rom : Rom, ∃ after, (Hardware.onMemory (Memory.loadRom rom.bytes)).run
      machine.reset.1.hardware = .ok () after := by
  refine ⟨machine.loadEnds_load, machine.loadEnds_loadFrom, ?_, ?_, fun _ => rfl, ?_⟩
  · -- What is loaded from a file comes from its source.
    intro opened
    exact machine.loadEnds_loadFrom opened.source opened.reported
  · -- An ordinary file reports the number of its bytes, so only their fit is left to be asked for.
    intro bytes
    have ends := machine.loadEnds_loadFrom (Source.ofBytes bytes) bytes.length
    rwa [Source.offers_ofBytes_iff] at ends
  · -- A reset leaves a machine that takes any image, so that the copy inside never fails.
    intro rom
    exact ⟨_, machine.run_loadRom_reset rom⟩

/-- A program that jumps to itself fits, so it is loaded. -/
theorem load_is_all_or_nothing_of_jump :
    ∃ consumed after, (powerOn 0).load [0x12, 0x00] =
        ⟨.load (.ok ()) consumed, after, [.reset, .loaded 2]⟩ ∧
      (powerOn 0).HasImage after [0x12, 0x00] := by
  obtain ⟨loaded, -⟩ := load_is_all_or_nothing (powerOn 0)
  -- The program fits, so its load can only have ended well.
  have ends := loaded [0x12, 0x00]
  generalize (powerOn 0).load [0x12, 0x00] = reply at ends ⊢
  cases ends with
  | refused error consumed rejected => exact absurd (by decide) rejected
  | placed consumed accepted image => exact ⟨consumed, _, rfl, image⟩

/-- The reply to a load from a source by what it holds, where it fails and what it reports. -/
def promised (machine : Machine) (source : Source) (reported : Nat) : Reply :=
  -- The report is believed before a single byte is read.
  if 3584 < reported then machine.refusal (.tooLarge reported) 0
  else
    match source.failure? with
    | some (after, reason) =>
      -- A failure right behind the last byte is met, and one behind the first byte too many is not.
      if after ≤ source.data.length ∧ after < 3585 then machine.refusal (.unreadable reason) after
      else byCount
    | none => byCount
where
  /-- The reply by the number of bytes that are read. -/
  byCount : Reply :=
    let read := min source.data.length 3585
    -- One byte more than fits is enough to know that there are too many.
    if read = 3585 then machine.refusal (.tooLarge 3585) read
    else if read < reported then machine.refusal (.tooShort read reported) read
    else if reported < read then machine.refusal (.tooLong read reported) read
    else
      ⟨.load (.ok ()) read, (machine.load source.data).machine, (machine.load source.data).journal⟩

/-- Loading an image of bytes that fit is the same as loading the bytes. -/
theorem load_of_le (machine : Machine) {bytes : List UInt8} (fits : bytes.length ≤ 3584) :
    machine.load bytes = machine.loadResult (.ok ⟨bytes, fits⟩) bytes.length := by
  -- All bytes fit, so they make the image that is loaded.
  rw [load, Rom.ofBytes_of_le fits]

/-- An image is always loaded. -/
theorem loadResult_ok (machine : Machine) (rom : Rom) (consumed : Nat) :
    machine.loadResult (.ok rom) consumed =
      ⟨.load (.ok ()) consumed, (machine.loadResult (.ok rom) consumed).machine,
        (machine.loadResult (.ok rom) consumed).journal⟩ := by
  simp only [loadResult]
  -- The image is put in place without a fault, whatever was taken to have it.
  rw [insert_eq]

/-- With an image or without one, the host is told how many bytes were taken. -/
theorem outcome_loadResult (machine : Machine) (image : Except LoadError Rom) (consumed : Nat) :
    ∃ result, (machine.loadResult image consumed).outcome = .load result consumed := by
  -- The reply repeats the number that it was given, in either case.
  cases image with
  | error error => exact ⟨_, rfl⟩
  | ok rom =>
    rw [loadResult_ok]
    exact ⟨_, rfl⟩

/-- The reply to a load whose bytes could be read is given by their number. -/
theorem loadResult_ofReported (machine : Machine) (source : Source) (reported : Nat) :
    machine.loadResult (Rom.ofReported (source.data.take 3585) reported)
      (source.data.take 3585).length = promised.byCount machine source reported := by
  unfold promised.byCount
  -- The number that was read is that of all bytes, or one more than fit.
  by_cases fits : source.data.length ≤ 3584
  · -- All bytes have been read, so their number is compared with the report.
    have all : source.data.take 3585 = source.data := List.take_of_length_le (by omega)
    have read : min source.data.length 3585 = source.data.length := Nat.min_eq_left (by omega)
    have short : ¬ source.data.length = 3585 := by omega
    simp only [all, read, Rom.ofReported, Rom.ofBytes_of_le fits, if_neg short]
    -- Too few and too many bytes are refused, and just as many as reported are loaded.
    split
    · rfl
    · split
      · rfl
      · rw [load_of_le machine fits]
        exact machine.loadResult_ok ..
  · -- The byte behind the program area has been read as well.
    have read : min source.data.length 3585 = 3585 := Nat.min_eq_right (by omega)
    have length : (source.data.take 3585).length = 3585 := by
      rw [List.length_take, Nat.min_comm, read]
    have large : 3584 < (source.data.take 3585).length := by omega
    simp only [read, Rom.ofReported, Rom.ofBytes_of_gt large, length, if_true]
    rfl

/-- A source that yields bytes on request is answered as promised. -/
theorem loadFrom_eq_promised (machine : Machine) {source : Source} (reported : Nat)
    (yields : source.portion ≠ some 0) :
    machine.loadFrom source reported = machine.promised source reported := by
  -- Bytes that are yielded on request are all visible.
  have all := Source.visible_of_portion_ne yields
  have asked : machine.loadFrom source reported =
    machine.loadResult (Rom.ofSource source reported).1 (Rom.ofSource source reported).2 := rfl
  rw [asked]
  by_cases overstated : 3584 < reported
  · -- The source is not asked at all.
    rw [Rom.ofSource_of_gt source overstated, promised, if_pos overstated]
    rfl
  rw [promised, if_neg overstated]
  have credible : reported ≤ 3584 := Nat.not_lt.mp overstated
  -- Unless a failure is met, the bytes are read up to the first one too many.
  have whole (unharmed : ∀ after reason, source.failure? = some (after, reason) →
      source.visible.length < after ∨ 3585 ≤ after) :
      machine.loadResult (Rom.ofSource source reported).1 (Rom.ofSource source reported).2 =
        promised.byCount machine source reported := by
    rw [Rom.ofSource_of_read credible (Source.yield_of_no_failure unharmed), all]
    exact machine.loadResult_ofReported source reported
  -- A failure counts only if it is met while bytes are still asked for.
  cases failure : source.failure? with
  -- Without a failure the bytes are all read.
  | none =>
    apply whole
    rw [failure]
    exact nofun
  | some found =>
    obtain ⟨after, reason⟩ := found
    by_cases met : after ≤ source.data.length ∧ after < 3585
    · -- The bytes before the failure have been taken in vain.
      rw [← all] at met
      have length : (source.visible.take after).length = after := by
        rw [List.length_take, Nat.min_eq_left met.1]
      rw [Rom.ofSource_of_failed credible (Source.yield_of_failure failure met.1 met.2), length]
      rw [all] at met
      simp only [if_pos met]
      rfl
    · -- The failure lies behind the last byte that is asked for, so it is never met.
      simp only [if_neg met]
      apply whole
      rw [failure, all]
      rintro _ _ ⟨⟩
      omega

/-- What the host is told about a load besides the number of bytes taken. -/
def Outcome.result? : Outcome → Option (Except Fault Unit)
  | .load result _ => some result
  | .done | .running _ => none

/-- Two replies that tell the host the same and leave the same machine and journal behind. -/
structure Reply.Agrees (first second : Reply) : Prop where
  /-- The host is told the same. -/
  result : first.outcome.result? = second.outcome.result?
  /-- The machines are the same. -/
  machine : first.machine = second.machine
  /-- The journals gained the same. -/
  journal : first.journal = second.journal

/-- Bytes from a source that does not fail and reports their number are loaded, or refused, as if
they were given at once. -/
theorem agrees_load_loadFrom (machine : Machine) {source : Source}
    (yields : source.portion ≠ some 0) (unfailing : source.failure? = none) :
    (machine.load source.data).Agrees (machine.loadFrom source source.data.length) := by
  rw [loadFrom_eq_promised machine _ yields, promised]
  by_cases large : 3584 < source.data.length
  · -- The report already tells that there are too many bytes.
    rw [if_pos large, load, Rom.ofBytes_of_gt large]
    exact ⟨rfl, rfl, rfl⟩
  · -- All bytes are read, their number is that of the report, and they fit.
    have fits : source.data.length ≤ 3584 := Nat.not_lt.mp large
    have read : min source.data.length 3585 = source.data.length := Nat.min_eq_left (by omega)
    have short : ¬ source.data.length = 3585 := by omega
    simp only [if_neg large, unfailing, promised.byCount, read, if_neg short, Nat.lt_irrefl,
      if_false]
    rw [load_of_le machine fits, loadResult_ok]
    exact ⟨rfl, rfl, rfl⟩

/-- A source that yields bytes on request is answered as promised, which depends neither on the
portions of the bytes nor on an interruption, no more than one byte too many is taken from it, and
the three ways to load bytes come to the same. -/
theorem loadFrom_keeps_promise (machine : Machine) (source : Source) (reported : Nat)
    (yields : source.portion ≠ some 0) :
    machine.loadFrom source reported = machine.promised source reported ∧
    (∀ other : Source, other.portion ≠ some 0 → other.data = source.data →
      other.failure? = source.failure? →
      machine.loadFrom other reported = machine.loadFrom source reported) ∧
    (∃ result consumed,
      (machine.loadFrom source reported).outcome = .load result consumed ∧ consumed ≤ 3585) ∧
    (source.failure? = none →
      (machine.load source.data).Agrees (machine.loadFrom source source.data.length) ∧
      (machine.load source.data).Agrees (machine.loadFile (.ok (.holding source.data)))) := by
  refine ⟨machine.loadFrom_eq_promised reported yields, ?_, ?_, ?_⟩
  · -- What is promised mentions neither the portions nor an interruption.
    intro other othersYield data failure
    rw [loadFrom_eq_promised machine reported othersYield,
      loadFrom_eq_promised machine reported yields]
    simp only [promised, promised.byCount, data, failure]
  · -- The host is told as many bytes as were taken from the source.
    obtain ⟨result, told⟩ := machine.outcome_loadResult (Rom.ofSource source reported).1
      (Rom.ofSource source reported).2
    exact ⟨result, _, told, Rom.consumed_ofSource_le source reported⟩
  · intro unfailing
    -- An ordinary file hands out all of its bytes and reports their number.
    have file : (Source.ofBytes source.data).portion ≠ some 0 := nofun
    exact ⟨machine.agrees_load_loadFrom yields unfailing, machine.agrees_load_loadFrom file rfl⟩

/-- Two bytes that come one by one, with an interruption between them, are loaded as if they came at
once. -/
theorem loadFrom_keeps_promise_byte_by_byte :
    ∃ source : Source, source.portion = some 1 ∧ source.disturbance = some ⟨1, none⟩ ∧
      ((powerOn 0).loadFrom source 2).outcome = .load (.ok ()) 2 ∧
      (powerOn 0).loadFrom source 2 = (powerOn 0).loadFrom (Source.ofBytes source.data) 2 := by
  -- The other source is a plain one of the same bytes, which meets all that is asked of it.
  obtain ⟨answered, same, -⟩ := loadFrom_keeps_promise (powerOn 0) ⟨[1, 2], some 1, some ⟨1, none⟩⟩ 2
    (by decide)
  refine ⟨_, rfl, rfl, ?_, (same (Source.ofBytes [1, 2]) nofun rfl rfl).symm⟩
  rw [answered]
  rfl

end Machine

end ChipEight
