import Dimming.Proofs.Session.Effect

/-!
# What a doing leaves alone

A session falls into what its dimmers wear and what has happened on the one hand, and all that
surrounds them on the other. Dressing and decorating leave the surroundings alone; following
the window and letting go of it leave alone what is worn.
-/

set_option autoImplicit false

namespace Dimming

namespace Dimmer

/-- A dimmer without what it wears. -/
def bare (dimmer : Dimmer) : Dimmer := { dimmer with decoration := none, style := none }

/-- A dimmer with nothing but what it wears. -/
def outfit (dimmer : Dimmer) : Dimmer := { fresh with
  decoration := dimmer.decoration
  style := dimmer.style }

end Dimmer

namespace Session

/-- A session without what its dimmers wear and without what has happened. -/
def surroundings (session : Session) : Session :=
  { session with
    dimmers := session.dimmers.map (·.bare)
    nextHandle := 0
    happenings := []
    logs := [] }

/-- A session without anything that its dimmers follow. -/
def wardrobe (session : Session) : Session :=
  { session with
    dimmers := session.dimmers.map (·.outfit)
    listeners := []
    activeCallbacks := []
    documentCallbacks := []
    wirings := [] }

section Views

variable {Item Other View : Type}

theorem map_modify_of_same (view : Item → View) {change : Item → Item}
    (same : ∀ entry, view (change entry) = view entry) (items : List Item) (place : Nat) :
    (items.modify place change).map view = items.map view := by
  apply List.ext_getElem?
  intro other
  rw [List.getElem?_map, List.getElem?_map, List.getElem?_modify]
  split
  · cases items[other]? with
    | none => rfl
    | some entry => exact congrArg some (same entry)
  · cases items[other]? <;> rfl

theorem map_modify_of_agree {view : Item → View} {view' : Other → View} {change : Item → Item}
    {change' : Other → Other}
    (agree : ∀ entry other, view entry = view' other → view (change entry) = view' (change' other))
    {items : List Item} {others : List Other} (same : items.map view = others.map view')
    (place : Nat) :
    (items.modify place change).map view = (others.modify place change').map view' := by
  apply List.ext_getElem?
  intro index
  have views := congrArg (·[index]?) same
  simp only [List.getElem?_map, List.getElem?_modify] at views ⊢
  split
  · cases found : items[index]? <;> cases found' : others[index]? <;> rw [found, found'] at views
    case some.some entry other => exact congrArg some (agree entry other (Option.some.inj views))
    case none.none => rfl
    all_goals cases views
  · simpa using views

end Views

section Modified

variable {dimmer other : Nat} {session : Session}

theorem found_of_modify_ne (change : Dimmer → Dimmer) (apart : dimmer ≠ other) :
    (session.dimmers.modify dimmer change)[other]? = session.dimmer? other :=
  List.getElem?_modify_ne _ _ apart

theorem found_of_modify_self {change : Dimmer → Dimmer} {entry : Dimmer}
    (found : (session.dimmers.modify dimmer change)[dimmer]? = some entry) :
    ∃ old, session.dimmer? dimmer = some old ∧ change old = entry := by
  rw [List.getElem?_modify_eq, Option.map_eq_map, Option.map_eq_some_iff] at found
  exact found

end Modified

section Surroundings

variable (dimmer : Nat) (session : Session)

theorem undressed_surroundings : (session.undressed dimmer).surroundings = session.surroundings := by
  unfold undressed
  split
  · rfl
  · unfold surroundings
    dsimp only
    rw [map_modify_of_same Dimmer.bare]
    exact fun _ => rfl

theorem dressed_surroundings (style : Style) :
    (session.dressed dimmer style).surroundings = session.surroundings := by
  unfold dressed surroundings
  dsimp only
  rw [map_modify_of_same Dimmer.bare]
  exact fun _ => rfl

theorem decorated_surroundings (editor : Nat) :
    (session.decorated dimmer editor).surroundings = session.surroundings := by
  unfold decorated
  split <;> rfl

theorem dressing_surroundings :
    Dressing dimmer fun later => later.surroundings = session.surroundings where
  decorated editor same := (decorated_surroundings dimmer _ editor).trans same
  recorded _ same := same
  undressed same := (undressed_surroundings dimmer _).trans same
  redressed style same :=
    (dressed_surroundings dimmer _ style).trans ((undressed_surroundings dimmer _).trans same)

theorem decorated_all_surroundings (editors : List Nat) :
    (session.decoratedAll dimmer editors).surroundings = session.surroundings :=
  (dressing_surroundings dimmer session).decorated_all editors rfl

theorem rebuilt_surroundings (style : Style) :
    (session.rebuilt dimmer style).surroundings = session.surroundings :=
  (dressing_surroundings dimmer session).rebuilt style rfl

theorem presented_surroundings (style : Style) :
    (session.presented dimmer style).surroundings = session.surroundings :=
  (dressing_surroundings dimmer session).presented style rfl

end Surroundings

section Decorated

variable (dimmer : Nat) (session : Session)

theorem decorated_dimmers (editor : Nat) :
    (session.decorated dimmer editor).dimmers = session.dimmers := by
  unfold decorated
  split <;> rfl

theorem displaying_dimmers : Displaying dimmer fun later => later.dimmers = session.dimmers where
  decorated editor same := (decorated_dimmers dimmer _ editor).trans same
  recorded _ same := same

theorem decorated_one_dimmers (editor : Option Nat) :
    (session.decoratedOne dimmer editor).dimmers = session.dimmers :=
  (displaying_dimmers dimmer session).decorated_one editor rfl

theorem decorated_all_dimmers (editors : List Nat) :
    (session.decoratedAll dimmer editors).dimmers = session.dimmers :=
  (displaying_dimmers dimmer session).decorated_all editors rfl

theorem refreshed_dimmers : (session.refreshed dimmer).dimmers = session.dimmers :=
  (displaying_dimmers dimmer session).refreshed rfl

end Decorated

section Wardrobe

variable (dimmer wiring : Nat) (session : Session)

theorem heard_by_eq (listener : Listener) : ∃ more,
    session.heardBy listener = { session with listeners := session.listeners ++ more } ∧
      listener ∈ session.listeners ++ more := by
  unfold heardBy
  split
  next known => exact ⟨[], by rw [List.append_nil], by simpa using known⟩
  next => exact ⟨[listener], rfl, by simp⟩

theorem subscribed_eq : ∃ more,
    session.subscribed dimmer =
      { session with
        wirings := session.wirings ++ [⟨dimmer, true⟩]
        activeCallbacks := session.activeCallbacks ++ [session.wirings.length]
        documentCallbacks := session.documentCallbacks ++ [session.wirings.length]
        listeners := session.listeners ++ more } ∧
      Listener.wiring session.wirings.length ∈ session.listeners ++ more :=
  heard_by_eq _ _

theorem subscribed_wardrobe : (session.subscribed dimmer).wardrobe = session.wardrobe := by
  obtain ⟨more, same, -⟩ := subscribed_eq dimmer session
  rw [same]
  rfl

theorem wired_to_wardrobe : (session.wiredTo dimmer wiring).wardrobe = session.wardrobe := by
  unfold wiredTo wardrobe
  dsimp only
  rw [map_modify_of_same Dimmer.outfit]
  exact fun _ => rfl

theorem resolved_wardrobe (after : AfterRebuild) :
    ({ session with
      dimmers := session.dimmers.modify dimmer fun entry =>
        { entry with afterRebuild := after } } : Session).wardrobe = session.wardrobe := by
  unfold wardrobe
  dsimp only
  rw [map_modify_of_same Dimmer.outfit]
  exact fun _ => rfl

theorem wired_wardrobe : (session.wired dimmer).wardrobe = session.wardrobe := by
  unfold wired
  rw [wired_to_wardrobe, subscribed_wardrobe]

theorem unsubscribed_wardrobe : (session.unsubscribed wiring).wardrobe = session.wardrobe := by
  unfold unsubscribed
  split <;> rfl

theorem unwired_wardrobe : (session.unwired dimmer).wardrobe = session.wardrobe := by
  unfold unwired
  split
  next => rfl
  next wiring wired =>
      rw [← unsubscribed_wardrobe wiring session]
      unfold wardrobe
      dsimp only
      rw [map_modify_of_same Dimmer.outfit]
      exact fun _ => rfl

end Wardrobe

section Same

variable {session later : Session}

theorem wirings_of_same_surroundings (same : later.surroundings = session.surroundings) :
    later.wirings = session.wirings := by
  change later.surroundings.wirings = session.surroundings.wirings
  rw [same]

theorem settings_of_same_surroundings (same : later.surroundings = session.surroundings) :
    later.settings = session.settings := by
  change later.surroundings.settings = session.surroundings.settings
  rw [same]

theorem stage_of_same_surroundings (same : later.surroundings = session.surroundings) :
    later.stage = session.stage := by
  change later.surroundings.stage = session.surroundings.stage
  rw [same]

theorem dimmer_of_same_surroundings (same : later.surroundings = session.surroundings)
    (dimmer : Nat) :
    (later.dimmer? dimmer).map (·.bare) = (session.dimmer? dimmer).map (·.bare) := by
  have dimmers : later.dimmers.map (·.bare) = session.dimmers.map (·.bare) :=
    congrArg Session.dimmers same
  unfold dimmer?
  rw [← List.getElem?_map, ← List.getElem?_map, dimmers]

theorem dimmer_of_same_wardrobe (same : later.wardrobe = session.wardrobe) (dimmer : Nat) :
    (later.dimmer? dimmer).map (·.outfit) = (session.dimmer? dimmer).map (·.outfit) := by
  have dimmers : later.dimmers.map (·.outfit) = session.dimmers.map (·.outfit) :=
    congrArg Session.dimmers same
  unfold dimmer?
  rw [← List.getElem?_map, ← List.getElem?_map, dimmers]

theorem found_of_same_surroundings (same : later.surroundings = session.surroundings)
    {dimmer : Nat} {entry : Dimmer} (found : later.dimmer? dimmer = some entry) :
    ∃ old, session.dimmer? dimmer = some old ∧ entry.wiring = old.wiring ∧
      entry.afterRebuild = old.afterRebuild := by
  have views := dimmer_of_same_surroundings same dimmer
  rw [found] at views
  obtain ⟨old, known, view⟩ := Option.map_eq_some_iff.1 views.symm
  exact ⟨old, known, (congrArg Dimmer.wiring view).symm,
    (congrArg Dimmer.afterRebuild view).symm⟩

theorem found_of_same_wardrobe (same : later.wardrobe = session.wardrobe)
    {dimmer : Nat} {entry : Dimmer} (found : later.dimmer? dimmer = some entry) :
    ∃ old, session.dimmer? dimmer = some old ∧ entry.decoration = old.decoration ∧
      entry.style = old.style := by
  have views := dimmer_of_same_wardrobe same dimmer
  rw [found] at views
  obtain ⟨old, known, view⟩ := Option.map_eq_some_iff.1 views.symm
  exact ⟨old, known, (congrArg Dimmer.decoration view).symm, (congrArg Dimmer.style view).symm⟩

theorem happenings_of_same_wardrobe (same : later.wardrobe = session.wardrobe) :
    later.happenings = session.happenings := by
  change later.wardrobe.happenings = session.wardrobe.happenings
  rw [same]

theorem next_handle_of_same_wardrobe (same : later.wardrobe = session.wardrobe) :
    later.nextHandle = session.nextHandle := by
  change later.wardrobe.nextHandle = session.wardrobe.nextHandle
  rw [same]

theorem stage_of_same_wardrobe (same : later.wardrobe = session.wardrobe) :
    later.stage = session.stage := by
  change later.wardrobe.stage = session.wardrobe.stage
  rw [same]

theorem settings_of_same_wardrobe (same : later.wardrobe = session.wardrobe) :
    later.settings = session.settings := by
  change later.wardrobe.settings = session.wardrobe.settings
  rw [same]

theorem decoration_of_same_wardrobe (same : later.wardrobe = session.wardrobe) (dimmer : Nat) :
    later.decoration? dimmer = session.decoration? dimmer := by
  have views := congrArg (Option.bind · (·.decoration)) (dimmer_of_same_wardrobe same dimmer)
  unfold decoration?
  revert views
  cases later.dimmer? dimmer <;> cases session.dimmer? dimmer <;> exact id

theorem live_of_same_wardrobe (same : later.wardrobe = session.wardrobe) (dimmer : Nat) :
    later.live? dimmer = session.live? dimmer := by
  have views := congrArg (Option.bind · (·.live)) (dimmer_of_same_wardrobe same dimmer)
  unfold live?
  revert views
  cases later.dimmer? dimmer <;> cases session.dimmer? dimmer <;> exact id

theorem activated_settings (dimmer : Nat) (session : Session) (style : Style) :
    (session.activated dimmer style).settings = session.settings :=
  (settings_of_same_wardrobe (wired_wardrobe dimmer _)).trans
    (settings_of_same_surroundings (presented_surroundings dimmer session style))

theorem deactivated_settings (dimmer : Nat) (session : Session) :
    (session.deactivated dimmer).settings = session.settings :=
  (settings_of_same_surroundings (undressed_surroundings dimmer _)).trans
    (settings_of_same_wardrobe (unwired_wardrobe dimmer session))

end Same

section Rewired

variable {dimmer other : Nat} {session : Session} {entry : Dimmer}

theorem found_of_wired (found : (session.wired dimmer).dimmer? other = some entry) :
    ∃ old, session.dimmer? other = some old ∧ entry.afterRebuild = old.afterRebuild ∧
      (dimmer ≠ other → entry.wiring = old.wiring) := by
  obtain ⟨more, same, -⟩ := subscribed_eq dimmer session
  unfold wired at found
  rw [same] at found
  by_cases own : dimmer = other
  · subst own
    obtain ⟨old, known, rfl⟩ := found_of_modify_self found
    exact ⟨old, known, rfl, fun apart => absurd rfl apart⟩
  · exact ⟨entry, (found_of_modify_ne _ own).symm.trans found, rfl, fun _ => rfl⟩

theorem unsubscribed_dimmers (wiring : Nat) (session : Session) :
    (session.unsubscribed wiring).dimmers = session.dimmers := by
  unfold unsubscribed
  split <;> rfl

theorem found_of_unwired (found : (session.unwired dimmer).dimmer? other = some entry) :
    ∃ old, session.dimmer? other = some old ∧ entry.afterRebuild = old.afterRebuild ∧
      (entry.wiring ≠ none → entry.wiring = old.wiring) := by
  unfold unwired at found
  split at found
  next => exact ⟨entry, found, rfl, fun _ => rfl⟩
  next wiring _ =>
      unfold dimmer? at found
      dsimp only at found
      rw [unsubscribed_dimmers] at found
      by_cases own : dimmer = other
      · subst own
        obtain ⟨old, known, rfl⟩ := found_of_modify_self found
        exact ⟨old, known, rfl, fun wired => absurd rfl wired⟩
      · exact ⟨entry, (found_of_modify_ne _ own).symm.trans found, rfl, fun _ => rfl⟩

theorem wiring_of_unwired (found : (session.unwired dimmer).dimmer? dimmer = some entry) :
    entry.wiring = none := by
  unfold unwired at found
  split at found
  next idle =>
      rw [found] at idle
      exact idle
  next =>
      obtain ⟨old, -, rfl⟩ := found_of_modify_self found
      rfl

theorem found_of_joined (found : session.joined.dimmer? dimmer = some entry) :
    session.dimmer? dimmer = some entry ∨ entry = .fresh := by
  unfold joined dimmer? at found
  dsimp only at found
  by_cases old : dimmer < session.dimmers.length
  · rw [List.getElem?_append_left old] at found
    exact Or.inl found
  · rw [List.getElem?_append_right (Nat.le_of_not_lt old)] at found
    exact Or.inr (List.mem_singleton.1 (List.mem_of_getElem? found))

end Rewired

end Session

namespace Action

theorem configuration_changed_yields (change : Change) (wiring : Nat) (session : Session) :
    ∃ later, Yields (configurationChanged change wiring) session () later ∧
      later.surroundings = session.surroundings := by
  cases found : dimmerOf? session wiring with
  | none => exact ⟨session, configuration_changed_idle fun _ => found, rfl⟩
  | some dimmer =>
      by_cases affects : change.affects (Change.fullKey Settings.opacityKey) = true
      · obtain ⟨style, described⟩ := session.settings.style_exists
        refine ⟨_, configuration_changed_rebuilds affects found described, ?_⟩
        rw [Session.decorated_all_surroundings, Session.rebuilt_surroundings]
      · exact ⟨session, configuration_changed_idle fun yes => absurd yes affects, rfl⟩

theorem configuration_changed_keeps {holds : Session → Prop}
    (dressing : ∀ dimmer, Dressing dimmer holds)
    (logged : ∀ {session} logs, holds session → holds { session with logs })
    (change : Change) (wiring : Nat) : Keeps holds (configurationChanged change wiring) := by
  intro session held
  have led : ∃ later, Yields (configurationChanged change wiring) session () later ∧
      holds later := by
    cases found : dimmerOf? session wiring with
    | none => exact ⟨session, configuration_changed_idle fun _ => found, held⟩
    | some dimmer =>
        by_cases affects : change.affects (Change.fullKey Settings.opacityKey) = true
        · obtain ⟨style, described⟩ := session.settings.style_exists
          refine ⟨_, configuration_changed_rebuilds affects found described, ?_⟩
          exact (dressing dimmer).decorated_all _ ((dressing dimmer).rebuilt style held)
        · exact ⟨session, configuration_changed_idle fun yes => absurd yes affects, held⟩
  obtain ⟨later, yields, kept⟩ := led
  obtain ⟨logs, ran⟩ := run_of_yields yields
  rw [ran]
  exact logged logs kept

end Action

end Dimming
