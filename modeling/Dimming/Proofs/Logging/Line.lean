import Dimming.Proofs.Json.RoundTrip
import Dimming.Proofs.Logging.Moment

/-!
# Lines of the log as data

A line in the data format is one line of visible ASCII whatever the record holds, and it is read back
as the members it was made of: the standing ones, in whose places fields stand, in whose places
further attributes stand. Attributes that every record has are never among the further ones.
-/

set_option autoImplicit false

namespace Dimming

namespace LogRecord

section Attributes

variable {record : LogRecord} {name : Text} {entries : List (Text × LogValue)}

def setAttributes (record : LogRecord) (entries : List (Text × LogValue)) : LogRecord :=
  entries.foldl (fun current entry => current.setAttribute entry.1 entry.2) record

/-- The attributes among those set that not every record has. -/
def further (entries : List (Text × LogValue)) : Mapping Text LogValue :=
  Mapping.ofEntries (entries.filter fun entry => !standardAttributes.contains entry.1)

theorem set_attribute_attributes (record : LogRecord) (name : Text) (value : LogValue) :
    (record.setAttribute name value).attributes =
      if standardAttributes.contains name then record.attributes
      else record.attributes.put name value := by
  by_cases standard : standardAttributes.contains name = true
  · rw [if_pos standard]
    unfold setAttribute
    simp only [apply_ite LogRecord.attributes, ite_self, if_pos standard]
  · have other {known : Text} (inside : standardAttributes.contains known = true) :
        name ≠ known := by
      rintro rfl
      exact standard inside
    rw [if_neg standard]
    unfold setAttribute
    -- Every name that is compared with is the name of a standard attribute.
    iterate 12 rw [if_neg (other (by decide))]
    rw [if_neg standard]

theorem set_attributes_attributes (record : LogRecord) (entries : List (Text × LogValue)) :
    (record.setAttributes entries).attributes = record.attributes.override
      (entries.filter fun entry => !standardAttributes.contains entry.1) := by
  induction entries generalizing record with
  | nil => rfl
  | cons entry entries ih =>
      have next : record.setAttributes (entry :: entries) =
          (record.setAttribute entry.1 entry.2).setAttributes entries := rfl
      rw [next, ih, set_attribute_attributes]
      by_cases standard : standardAttributes.contains entry.1 = true
      · rw [if_pos standard, List.filter_cons_of_neg (by simpa using standard)]
      · rw [if_neg standard, List.filter_cons_of_pos (by simpa using standard)]
        rfl

theorem further_of_bare (bare : record.attributes = []) :
    (record.setAttributes entries).attributes = further entries := by
  rw [set_attributes_attributes, bare]
  rfl

theorem further_standard (standard : name ∈ standardAttributes) :
    (further entries).get? name = none := by
  refine Mapping.get_none_iff.2 fun inside => ?_
  obtain ⟨entry, known, rfl⟩ := List.mem_map.1 inside
  have kept := (List.mem_filter.1 (Mapping.mem_of_entries known)).2
  rw [List.contains_iff_mem.2 standard] at kept
  cases kept

end Attributes

section Members

variable {record : LogRecord} {stamp message : Text}

def told : Option LoggedFailure → Mapping Text LogValue
  | none => []
  | some failure => [("exception", .json (.string failure.text))]

def always (record : LogRecord) (stamp message : Text) : Mapping Text LogValue :=
  [("timestamp", .json (.string stamp)), ("level", record.levelName), ("logger", record.logger),
    ("message", .json (.string message)), ("module", record.module),
    ("function", record.function), ("line", record.line)]

/-- The members that a record has of its own. -/
def own (record : LogRecord) (stamp message : Text) : Mapping Text LogValue :=
  record.always stamp message ++ told record.failure

def ownNames : List Text :=
  ["timestamp", "level", "logger", "message", "module", "function", "line", "exception"]

theorem own_names (record : LogRecord) (stamp message : Text) :
    ((record.own stamp message).map Prod.fst).Sublist ownNames := by
  have known : ownNames = ownNames.take 7 ++ [Text.ofString "exception"] := rfl
  rw [own, List.map_append, known]
  refine List.Sublist.append (List.Sublist.refl _) ?_
  cases record.failure with
  | none => exact List.nil_sublist _
  | some failure => exact List.Sublist.refl _

theorem own_distinct (record : LogRecord) (stamp message : Text) :
    ((record.own stamp message).map Prod.fst).Nodup := by
  have distinct : ownNames.Nodup := by decide
  exact distinct.sublist (own_names record stamp message)

/-- The members of a line: fields take the place of a record's own members, and further attributes
that of both. -/
def merged (record : LogRecord) (stamp message : Text) : Mapping Text LogValue :=
  ((record.own stamp message).override record.fields).override record.attributes

theorem standing_of_stamp (written : record.timestamp = .ok stamp) (message : Text) :
    record.standing (.ok message) = .ok (record.own stamp message) := by
  unfold standing own always
  rw [written]
  cases record.failure with
  | none => rfl
  | some failure => rfl

theorem members_of_stamp (written : record.timestamp = .ok stamp) (message : Text) :
    record.membersWith (.ok message) = .ok (record.merged stamp message) := by
  unfold membersWith
  rw [standing_of_stamp written]
  rfl

end Members

section Lines

variable {record : LogRecord} {stamp message line : Text}

/-- The values that a line may be made of, besides the texts. -/
def values (record : LogRecord) : List LogValue :=
  [record.levelName, record.logger, record.module, record.function, record.line] ++
    (record.fields ++ record.attributes).map Prod.snd

/-- Whether all whole numbers can be written. -/
def IsWritable (record : LogRecord) : Prop := ∀ value ∈ record.values, value.isWritable = true

instance (record : LogRecord) : Decidable record.IsWritable :=
  inferInstanceAs (Decidable (∀ value ∈ record.values, value.isWritable = true))

/-- Whether nothing in a record is lost when it is written: no text has surrogates in it that make a
pair, and no object has two members of one name. -/
structure IsSound (record : LogRecord) (message : Text) : Prop where
  message : message.Unpaired
  failure : ∀ failure ∈ record.failure, failure.text.Unpaired
  values : ∀ value ∈ record.values, value.toJson.isSound = true
  names : ∀ entry ∈ record.fields ++ record.attributes, entry.1.Unpaired
  distinct : (record.fields.map Prod.fst).Nodup

def data (members : Mapping Text LogValue) : Mapping Text Json :=
  members.map fun entry => (entry.1, entry.2.toJson)

theorem json_line_iff :
    record.formatWith (.ok message) .json = .ok line ↔
      ∃ stamp, record.timestamp = .ok stamp ∧
        (Json.object (data (record.merged stamp message))).fits (some LogValue.digitLimit) = true ∧
        line = (Json.object (data (record.merged stamp message))).write := by
  constructor
  · intro ok
    obtain ⟨members, found, ok⟩ := bind_ok ok
    obtain ⟨standing, given, -⟩ := bind_ok found
    obtain ⟨stamp, written, -⟩ := bind_ok given
    rw [members_of_stamp written] at found
    obtain rfl := Except.ok.inj found
    refine ⟨stamp, written, ?_⟩
    dsimp only at ok
    split at ok
    next fits => exact ⟨fits, (Except.ok.inj ok).symm⟩
    next => cases ok
  · rintro ⟨stamp, written, fits, rfl⟩
    change record.jsonLine (.ok message) = _
    unfold jsonLine
    rw [members_of_stamp written]
    exact if_pos fits

theorem mem_members {entry : Text × LogValue} (inside : entry ∈ record.merged stamp message) :
    entry ∈ record.own stamp message ∨ entry ∈ record.fields ++ record.attributes := by
  rcases Mapping.mem_override inside with later | earlier
  · exact Or.inr (List.mem_append_right _ later)
  · rcases Mapping.mem_override earlier with field | standing
    · exact Or.inr (List.mem_append_left _ field)
    · exact Or.inl standing

theorem own_keeps {holds : LogValue → Prop} (given : ∀ value ∈ record.values, holds value)
    (stamped : holds (.json (.string stamp))) (spoken : holds (.json (.string message)))
    (failed : ∀ failure ∈ record.failure, holds (.json (.string failure.text))) :
    ∀ entry ∈ record.own stamp message, holds entry.2 := by
  have standing := List.forall_mem_append.1 given
  simp only [List.forall_mem_cons] at standing
  obtain ⟨⟨level, logger, module, function, line, -⟩, -⟩ := standing
  refine List.forall_mem_append.2 ⟨?_, ?_⟩
  · simp only [always, List.forall_mem_cons]
    exact ⟨stamped, level, logger, spoken, module, function, line, by simp⟩
  · cases same : record.failure with
    | none => exact fun _ absent => absurd absent List.not_mem_nil
    | some failure => exact List.forall_mem_singleton.2 (failed failure same)

theorem merged_keeps {holds : LogValue → Prop} (given : ∀ value ∈ record.values, holds value)
    (stamped : holds (.json (.string stamp))) (spoken : holds (.json (.string message)))
    (failed : ∀ failure ∈ record.failure, holds (.json (.string failure.text))) :
    ∀ entry ∈ record.merged stamp message, holds entry.2 := by
  intro entry inside
  rcases mem_members inside with standing | further
  · exact own_keeps given stamped spoken failed entry standing
  · exact given _ (List.mem_append_right _ (List.mem_map_of_mem further))

theorem data_fits (writable : record.IsWritable) (stamp message : Text) :
    (Json.object (data (record.merged stamp message))).fits (some LogValue.digitLimit) = true := by
  refine Json.members_fit_iff.2 fun member inside => ?_
  obtain ⟨entry, known, rfl⟩ := List.mem_map.1 inside
  exact merged_keeps writable rfl rfl (fun _ _ => rfl) entry known

theorem merged_distinct (record : LogRecord) (stamp message : Text) :
    ((record.merged stamp message).map Prod.fst).Nodup :=
  Mapping.nodup_override (Mapping.nodup_override (own_distinct _ _ _) _) _

theorem data_keys (members : Mapping Text LogValue) :
    (data members).map Prod.fst = members.map Prod.fst := by
  unfold data
  rw [List.map_map]
  rfl

theorem data_sound (sound : record.IsSound message) (stamped : stamp.Unpaired) :
    (Json.object (data (record.merged stamp message))).isSound = true := by
  have named : ∀ name ∈ ownNames, name.Unpaired := by decide
  have valued : ∀ entry ∈ record.merged stamp message, entry.2.toJson.isSound = true :=
    merged_keeps sound.values (decide_eq_true stamped) (decide_eq_true sound.message)
      fun failure known => decide_eq_true (sound.failure failure known)
  refine Json.object_sound_iff.2 ⟨?_, fun member inside => ?_⟩
  · rw [data_keys]
    exact merged_distinct record stamp message
  · obtain ⟨entry, known, rfl⟩ := List.mem_map.1 inside
    refine ⟨?_, valued entry known⟩
    rcases mem_members known with standing | further
    · exact named _ ((own_names record stamp message).subset (List.mem_map_of_mem standing))
    · exact sound.names entry further

theorem get_data (distinct : (record.fields.map Prod.fst).Nodup)
    (kept : (record.attributes.map Prod.fst).Nodup) (stamp message name : Text) :
    (data (record.merged stamp message)).get? name =
      ((record.attributes.get? name).or ((record.fields.get? name).or
        ((record.own stamp message).get? name))).map LogValue.toJson := by
  unfold data merged
  rw [Mapping.get_map, Mapping.get_override kept, Mapping.get_override distinct]

theorem own_of_other {name : Text} (other : name ∉ ownNames) :
    (record.own stamp message).get? name = none :=
  Mapping.get_none_iff.2 fun inside => other ((own_names record stamp message).subset inside)

end Lines

def saying (text : Text) (created : Number) : LogRecord where
  logger := .json (.string "app")
  levelName := .json (.string "INFO")
  template := text
  arguments := .several []
  module := .json (.string "main")
  function := .json .null
  line := .json (Json.ofNat 1)
  created := created
  failure := none
  failureText := []
  stack := []
  fields := []
  attributes := []

def worded : List (Text × LogValue) :=
  [("msg", .json (.string "caf\u00e9 \"%s\"\n")), ("args", .json (.string "on\u2028")),
    ("extra_fields", .json (.object [("level", .null), ("user", .string "field")])),
    ("thread", .json (Json.ofNat 7)), ("user", .json (.array [.string "\t", Json.ofNat 5]))]

theorem fits_digits {value limit : Nat} (fits : (Json.ofNat value).fits (some limit) = true) :
    value < 10 ^ limit := by
  have places : (Text.ofNat value).length ≤ limit := of_decide_eq_true fits
  exact Nat.lt_of_lt_of_le (Text.lt_pow_places value) (Nat.pow_le_pow_right (by decide) places)

end LogRecord

end Dimming
