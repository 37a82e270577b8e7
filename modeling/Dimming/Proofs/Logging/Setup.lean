import Dimming.Logging.Threshold

/-!
# The log as it is configured

One handler takes the place of all others, and it shares the threshold of the root. That threshold
is looked up by the configured level in upper case. A level that names no severity means the usual
threshold, except for two words that are in the same table for another reason: these stop the setup.
-/

set_option autoImplicit false

namespace Dimming

namespace CodePoint

theorem upper_of_same_lower {point capital : CodePoint} (upper : capital.isAsciiUpper = true)
    (same : point.toAsciiLower = capital.toAsciiLower) :
    point.capitalBeyondAscii?.getD [point.toAsciiUpper] = [capital] := by
  simp only [isAsciiUpper, decide_eq_true_eq] at upper
  have lowered : point.value = capital.value ∨ point.value = capital.value + 32 := by
    have values := congrArg value same
    unfold toAsciiLower at values
    rw [dif_pos upper] at values
    split at values
    · exact .inl (Nat.add_right_cancel values)
    · exact .inr values
  have within : point.capitalBeyondAscii? = none := by
    simp only [capitalBeyondAscii?, Option.map_eq_none_iff, List.find?_eq_none, List.forall_mem_cons,
      decide_eq_true_eq, List.not_mem_nil, false_implies, implies_true, and_true]
    omega
  have raised : point.toAsciiUpper = capital := by
    cases point
    cases capital
    unfold toAsciiUpper
    dsimp only at *
    split <;> simp only [mk.injEq] <;> omega
  rw [within, raised]
  rfl

end CodePoint

namespace Text

theorem to_upper_of_same_lower {text name : Text}
    (capitals : ∀ point ∈ name, point.isAsciiUpper = true)
    (same : text.toAsciiLower = name.toAsciiLower) : text.toUpper = name := by
  induction text generalizing name with
  | nil =>
      cases name with
      | nil => rfl
      | cons capital name => exact absurd same (List.cons_ne_nil _ _).symm
  | cons point text ih =>
      cases name with
      | nil => exact absurd same (List.cons_ne_nil _ _)
      | cons capital name =>
          obtain ⟨first, rest⟩ := List.cons.inj same
          have raised := CodePoint.upper_of_same_lower (capitals capital List.mem_cons_self) first
          have behind := ih (fun point among => capitals point (List.mem_cons_of_mem _ among)) rest
          unfold toUpper at behind ⊢
          rw [List.flatMap_cons, raised, behind]
          rfl

end Text

namespace Threshold

variable {name word : Text} {weight other : Nat}

theorem names_capital :
    ∀ entry ∈ names, ∀ point ∈ entry.1, point.isAsciiUpper = true := by
  decide

theorem names_functional (one : (word, weight) ∈ names) (two : (word, other) ∈ names) :
    weight = other := by
  have functional : ∀ entry ∈ names, ∀ next ∈ names, entry.1 = next.1 → entry.2 = next.2 := by
    decide
  exact functional _ one _ two rfl

theorem names_not_taken (known : (word, weight) ∈ names) :
    word ≠ layoutName ∧ word ≠ layoutTableName := by
  have apart : ∀ entry ∈ names, entry.1 ≠ layoutName ∧ entry.1 ≠ layoutTableName := by
    decide
  exact apart _ known

theorem of_layout_name (named : name.toUpper = layoutName) :
    ofName name = .error (.unknownThreshold layout) := by
  unfold ofName
  exact if_pos named

theorem of_layout_table_name (named : name.toUpper = layoutTableName) :
    ofName name = .error (.noThreshold layoutTable) := by
  have apart : name.toUpper ≠ layoutName := by
    rw [named]
    decide
  unfold ofName
  dsimp only
  rw [if_neg apart, if_pos named]

theorem of_free_name (free : name.toUpper ≠ layoutName ∧ name.toUpper ≠ layoutTableName) :
    ofName name = .ok (((names.find? (·.1 = name.toUpper)).map (·.2)).getD usual) := by
  unfold ofName
  dsimp only
  rw [if_neg free.1, if_neg free.2]
  cases names.find? (·.1 = name.toUpper) <;> rfl

theorem of_name_ok_iff : (∃ threshold, ofName name = .ok threshold) ↔
    name.toUpper ≠ layoutName ∧ name.toUpper ≠ layoutTableName := by
  constructor
  · rintro ⟨threshold, found⟩
    refine ⟨fun named => ?_, fun named => ?_⟩
    · rw [of_layout_name named] at found
      cases found
    · rw [of_layout_table_name named] at found
      cases found
  · exact fun free => ⟨_, of_free_name free⟩

theorem of_known_name (known : (name.toUpper, weight) ∈ names) : ofName name = .ok weight := by
  rw [of_free_name (names_not_taken known)]
  cases found : names.find? (·.1 = name.toUpper) with
  | none => exact absurd (decide_eq_true rfl) (List.find?_eq_none.1 found _ known)
  | some entry =>
      have same : entry.1 = name.toUpper := by simpa using List.find?_some found
      have listed : (name.toUpper, entry.2) ∈ names := same ▸ List.mem_of_find?_eq_some found
      exact congrArg Except.ok (names_functional listed known)

theorem of_unknown_name (free : name.toUpper ≠ layoutName ∧ name.toUpper ≠ layoutTableName)
    (unknown : ∀ weight, (name.toUpper, weight) ∉ names) : ofName name = .ok usual := by
  rw [of_free_name free]
  have none : names.find? (·.1 = name.toUpper) = none := by
    rw [List.find?_eq_none]
    rintro entry listed same
    have same : entry.1 = name.toUpper := by simpa using same
    exact unknown entry.2 (same ▸ listed)
  rw [none]
  rfl

end Threshold

namespace LogSetup

variable {configuration : Configuration} {previous : List Nat}

theorem cleared_eq_nil (handlers : List Nat) : cleared handlers = [] := by
  unfold cleared
  induction handlers with
  | nil => rfl
  | cons handler handlers ih =>
      rw [List.foldl_cons, List.erase_cons_head]
      exact ih

theorem configure_of_ok {threshold : Nat}
    (found : Threshold.ofName configuration.logLevel = .ok threshold) :
    configure configuration previous =
      .ok ⟨threshold, [threshold], .ofName configuration.logFormat⟩ := by
  unfold configure
  rw [found, cleared_eq_nil]
  rfl

theorem configure_of_error {fault : LogFault}
    (refused : Threshold.ofName configuration.logLevel = .error fault) :
    configure configuration previous = .error fault := by
  unfold configure
  rw [refused]
  rfl

theorem configured_of_ok {setup : LogSetup} (configured : configure configuration previous = .ok setup) :
    ∃ threshold, Threshold.ofName configuration.logLevel = .ok threshold ∧
      setup = ⟨threshold, [threshold], .ofName configuration.logFormat⟩ := by
  cases found : Threshold.ofName configuration.logLevel with
  | error fault =>
      rw [configure_of_error found] at configured
      cases configured
  | ok threshold =>
      rw [configure_of_ok found] at configured
      exact ⟨threshold, rfl, (Except.ok.inj configured).symm⟩

end LogSetup

/-- The log is set up from every configuration whose level in upper case is neither of the two words
that are taken, whatever handlers there were: then one handler is left, with the threshold of the
root, which is that of the severity so named and the usual one if there is none; in particular the
name of a severity counts in any letter case. Of the two words one gives a layout in place of a
threshold and the other the table of layouts, and the setup stops with that. -/
theorem setup_follows_level (configuration : Configuration) (previous : List Nat) :
    let word := configuration.logLevel.toUpper
    let configured := LogSetup.configure configuration previous
    ((∃ setup, configured = .ok setup) ↔
      word ≠ Threshold.layoutName ∧ word ≠ Threshold.layoutTableName) ∧
    (∀ setup, configured = .ok setup →
      setup.handlers = [setup.threshold] ∧ setup.format = .ofName configuration.logFormat ∧
        (∀ weight, (word, weight) ∈ Threshold.names → setup.threshold = weight) ∧
        ((∀ weight, (word, weight) ∉ Threshold.names) → setup.threshold = Threshold.usual)) ∧
    (∀ name weight, (name, weight) ∈ Threshold.names →
      configuration.logLevel.toAsciiLower = name.toAsciiLower →
        configured = .ok ⟨weight, [weight], .ofName configuration.logFormat⟩) ∧
    (word = Threshold.layoutName → configured = .error (.unknownThreshold Threshold.layout)) ∧
    (word = Threshold.layoutTableName →
      configured = .error (.noThreshold Threshold.layoutTable)) := by
  intro word configured
  refine ⟨?_, ?_, ?_, fun named => ?_, fun named => ?_⟩
  · rw [← Threshold.of_name_ok_iff]
    constructor
    · rintro ⟨setup, completed⟩
      obtain ⟨threshold, found, -⟩ := LogSetup.configured_of_ok completed
      exact ⟨threshold, found⟩
    · rintro ⟨threshold, found⟩
      exact ⟨_, LogSetup.configure_of_ok found⟩
  · intro setup completed
    obtain ⟨threshold, found, rfl⟩ := LogSetup.configured_of_ok completed
    have free := Threshold.of_name_ok_iff.1 ⟨threshold, found⟩
    refine ⟨rfl, rfl, fun weight named => ?_, fun unknown => ?_⟩
    · exact Except.ok.inj (found.symm.trans (Threshold.of_known_name named))
    · exact Except.ok.inj (found.symm.trans (Threshold.of_unknown_name free unknown))
  · intro name weight named same
    have upper : configuration.logLevel.toUpper = name :=
      Text.to_upper_of_same_lower (Threshold.names_capital _ named) same
    exact LogSetup.configure_of_ok (Threshold.of_known_name (upper.symm ▸ named))
  · exact LogSetup.configure_of_error (Threshold.of_layout_name named)
  · exact LogSetup.configure_of_error (Threshold.of_layout_table_name named)

/-- A level in mixed case and one that names nothing, each with handlers to be replaced. -/
theorem setup_of_mixed_case_level :
    LogSetup.configure ⟨"Warning", "Json", 1000, 800, 10, 5000⟩ [0, 10] =
        .ok ⟨30, [30], .json⟩ ∧
      LogSetup.configure ⟨"nonsense", "text", 1000, 800, 10, 5000⟩ [0] = .ok ⟨20, [20], .text⟩ := by
  have mixed := setup_follows_level ⟨"Warning", "Json", 1000, 800, 10, 5000⟩ [0, 10]
  have unnamed := setup_follows_level ⟨"nonsense", "text", 1000, 800, 10, 5000⟩ [0]
  refine ⟨mixed.2.2.1 "WARNING" 30 (by decide) (by decide), ?_⟩
  obtain ⟨⟨threshold, handlers, format⟩, completed⟩ := unnamed.1.2 (by decide)
  obtain ⟨one, text, -, usual⟩ := unnamed.2.1 _ completed
  have unknown : ∀ entry ∈ Threshold.names, entry.1 ≠ Text.toUpper "nonsense" := by decide
  have weight : threshold = 20 := usual fun weight named => unknown _ named rfl
  have handlers : handlers = [threshold] := one
  have format : format = .text := text
  rw [completed, handlers, format, weight]

/-- The two words that are taken name no severity, and neither lets the log be set up. -/
theorem setup_stopped_by_layout_names :
    (∀ entry ∈ Threshold.names, entry.1 ≠ "BASIC_FORMAT" ∧ entry.1 ≠ "_STYLES") ∧
      LogSetup.configure ⟨"BASIC_FORMAT", "json", 1000, 800, 10, 5000⟩ [20] =
        .error (.unknownThreshold "%(levelname)s:%(name)s:%(message)s") ∧
      LogSetup.configure ⟨"_styles", "json", 1000, 800, 10, 5000⟩ [20] =
        .error (.noThreshold Threshold.layoutTable) := by
  refine ⟨by decide, ?_, ?_⟩
  · exact LogSetup.configure_of_error (Threshold.of_layout_name (by decide))
  · exact LogSetup.configure_of_error (Threshold.of_layout_table_name (by decide))

end Dimming
