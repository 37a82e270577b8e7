import Dimming.Proofs.Json.BreakingOff
import Dimming.Proofs.Json.Plain
import Dimming.Settings.Values

/-!
# Settings in their file

Sound settings that can be kept in a file are loaded from it as they are, entry by entry and in the
same order; from what is written by half nothing is loaded. What is loaded from any file is sound, and
a saved value leaves the entries alone that the program does not know. Where the file cannot be opened,
the disk is as it was, apart from a folder that may have been made.
-/

set_option autoImplicit false

namespace Dimming

namespace Color

theorem hex_digit_not_high {point : CodePoint} (digit : point.isHexDigit = true) :
    point.isHighSurrogate = false := by
  have small : point.value < 0xD800 := by
    unfold CodePoint.isHexDigit CodePoint.hexValue? CodePoint.isAsciiDigit at digit
    simp only [decide_eq_true_eq] at digit
    split_ifs at digit
    · omega
    · omega
    · omega
    · cases digit
  simp only [CodePoint.isHighSurrogate, decide_eq_false_iff_not]
  omega

theorem sound_of_valid {value : Json} (valid : isValid value = true) : value.isSound = true := by
  match value with
  | .string color =>
      refine decide_eq_true ?_
      rcases Bool.or_eq_true_iff.1 valid with own | hex
      · rw [of_decide_eq_true own]
        decide
      · cases color with
        | nil => cases hex
        | cons sign digits =>
            simp only [isHex, Bool.and_eq_true, List.all_eq_true, decide_eq_true_eq] at hex
            obtain ⟨⟨rfl, -⟩, each⟩ := hex
            refine Text.unpaired_of_no_high (List.forall_mem_cons.2 ⟨by decide, fun digit inside => ?_⟩)
            exact hex_digit_not_high (each digit inside)

end Color

namespace Disk

variable {disk made later : Disk}

/-- Where a disk is left on which the settings file could not be opened. -/
inductive Refuses (disk : Disk) : Disk → Prop where
  | noFolder : disk.withFolder? = none → Refuses disk disk
  | noFile {made : Disk} : disk.withFolder? = some made → made.opened? = none → Refuses disk made

theorem with_folder_cases (folder : disk.withFolder? = some made) :
    made = disk ∨ disk.place = .absent ∧ disk.access.makesFolder = true ∧
      made = { disk with place := .present .missing } := by
  unfold withFolder? at folder
  split at folder
  next absent =>
    split_ifs at folder with makes
    exact Or.inr ⟨absent, makes, (Option.some.inj folder).symm⟩
  next => cases folder
  next => exact Or.inl (Option.some.inj folder).symm

theorem eq_of_opened (opened : disk.opened? = some later) : later = disk.holding [] := by
  unfold opened? at opened
  split at opened
  next => cases opened
  next =>
    split_ifs at opened
    exact (Option.some.inj opened).symm
  next => cases opened

theorem holding_of_folder (folder : disk.withFolder? = some made) (content : List UInt8) :
    made.holding content = disk.holding content := by
  rcases with_folder_cases folder with rfl | ⟨-, -, rfl⟩ <;> rfl

/-- All that is left of such an attempt is an empty folder, where there was none before. -/
theorem Refuses.cases (refuses : disk.Refuses later) :
    later = disk ∨ disk.place = .absent ∧ disk.access.makesFolder = true ∧
      disk.access.opensFile = false ∧ later = { disk with place := .present .missing } := by
  cases refuses with
  | noFolder => exact Or.inl rfl
  | noFile folder unopened =>
      rcases with_folder_cases folder with rfl | ⟨absent, makes, rfl⟩
      · exact Or.inl rfl
      · have closed : disk.access.opensFile = false := by
          simpa [opened?] using unopened
        exact Or.inr ⟨absent, makes, closed, rfl⟩

theorem Refuses.file (refuses : disk.Refuses later) : later.file = disk.file := by
  rcases refuses.cases with rfl | ⟨absent, -, -, rfl⟩
  · rfl
  · unfold file
    rw [absent]

end Disk

namespace Settings

variable {settings : Settings}

def IsSound (settings : Settings) : Prop := (Json.object settings).isSound = true

def isKnown (key : Text) : Bool := key = opacityKey || key = colorKey || key = enabledKey

def unknown (settings : Settings) : Settings := settings.filter fun entry => !isKnown entry.1

theorem known_unpaired {key : Text} (known : isKnown key = true) : key.Unpaired := by
  unfold isKnown at known
  simp only [Bool.or_eq_true, decide_eq_true_eq] at known
  rcases known with (rfl | rfl) | rfl <;> decide

/-- A property that settings keep when a sound value is put among them under a known key. -/
def KeptByPut (fine : Settings → Prop) : Prop :=
  ∀ settings key value, isKnown key = true → value.isSound = true → fine settings →
    fine (settings.put key value)

theorem sound_kept : KeptByPut IsSound :=
  fun _ _ _ known sound held => Json.sound_put held (known_unpaired known) sound

theorem unknown_kept (entries : Settings) : KeptByPut fun settings => settings.unknown = entries := by
  intro settings key value known _ same
  have dropped : (!isKnown key) = false := by rw [known]; rfl
  exact (Mapping.filter_put (fun key => !isKnown key) dropped value settings).trans same

theorem KeptByPut.and {fine also : Settings → Prop} (one : KeptByPut fine)
    (other : KeptByPut also) : KeptByPut fun settings => fine settings ∧ also settings :=
  fun settings key value known sound held =>
    ⟨one settings key value known sound held.1, other settings key value known sound held.2⟩

namespace Loading

theorem settings_sound (disk : Disk) : (ofDisk disk).settings.IsSound := by
  have text (text : Text) : (ofText text).settings.IsSound := by
    unfold ofText
    split
    next => rfl
    next members ok => exact Json.read_sound ok
    next => rfl
  unfold ofDisk
  split
  · rfl
  · rfl
  · unfold ofContent
    split
    · rfl
    · exact text _

theorem of_content_plain {text : Text} (plain : text.IsPlain) :
    ofContent (Utf8.encode text) = ofText text := by
  unfold ofContent
  rw [Utf8.decode_encode_plain plain]
  dsimp only
  rw [Text.unify_breaks_plain plain]

end Loading

theorem load_encode (sound : settings.IsSound) (storable : settings.isStorable = true) :
    Loading.ofContent settings.encode = .loaded settings := by
  have read := Json.read_of_written .indented 0 sound storable
  unfold encode
  rw [Loading.of_content_plain (Json.plain_indented _)]
  unfold Loading.ofText Json.writeIndented
  rw [read]

theorem load_part (sound : settings.IsSound) (unfit : settings.isStorable = false) :
    ∃ text fault, Loading.ofContent settings.encodePart = .unreadable (.noValue text fault) := by
  let part := Json.writePart (some digitLimit) .indented 0 [] (.object settings)
  have begins : part <+: Json.writeIndented (.object settings) :=
    Json.part_begins .indented 0 [] (.object settings)
  have plain : part.IsPlain :=
    fun point inside => Json.plain_indented (.object settings) point (begins.subset inside)
  obtain ⟨fault, failed⟩ := Json.part_unread .indented 0 sound unfit
  refine ⟨part, fault, ?_⟩
  unfold encodePart
  rw [Loading.of_content_plain plain]
  unfold Loading.ofText
  rw [failed]

theorem load_written (disk : Disk) (sound : settings.IsSound)
    (storable : settings.isStorable = true) :
    Loading.ofDisk (disk.holding settings.encode) = .loaded settings :=
  load_encode sound storable

end Settings

end Dimming
