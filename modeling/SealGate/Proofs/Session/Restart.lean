import SealGate.Proofs.Session.Effects

/-! The stored flag and the one in memory. With a store that does not fail, what is enabled is also
stored as enabled, and once the runtime was loaded the two agree, between any two messages. A failed
load is not stored, so the next start tries again; and a start never knows a key. -/

namespace SealGate.Session.Lifecycle

variable {σ ι : Type} {engine : Engine σ ι} {l after : Lifecycle σ ι}

/-- A load has succeeded: it was tried and did not fail. -/
def HasLoaded (l : Lifecycle σ ι) : Prop := ∃ number < l.loads, l.loadFault? number = none

/-- The stored flag reads true. -/
def StoresEnabled (l : Lifecycle σ ι) : Prop := l.settings.enabled.1 = .ok true

/-- The flag is stored if it is set, and once the runtime was loaded it is set if it is stored. -/
structure IsDurable (l : Lifecycle σ ι) : Prop where
  reliable : l.settings.IsReliable
  loaded : l.runtime.isSome = true ↔ l.HasLoaded
  stored : l.snapshot.isEnabled = true → l.StoresEnabled
  enabled : l.runtime.isSome = true → l.StoresEnabled → l.snapshot.isEnabled = true

theorem isDurable_initial (state : σ) (loadFault? : Nat → Option Vault.Error) {settings : Settings}
    (reliable : settings.IsReliable) (bus : Bus) :
    IsDurable ({ initial state loadFault? settings with bus := bus } : Lifecycle σ ι) where
  reliable := reliable
  loaded := by
    constructor
    · exact fun none => absurd none Bool.false_ne_true
    · rintro ⟨number, tried, -⟩
      exact absurd tried (Nat.not_lt_zero number)
  stored := fun enabled => absurd enabled Bool.false_ne_true
  enabled := fun none => absurd none Bool.false_ne_true

/-! ### A transition -/

theorem hasLoaded_of_load (fault : l.loadFault? l.loads = none) :
    HasLoaded { l with loads := l.loads + 1 } :=
  ⟨l.loads, Nat.lt_succ_self _, fault⟩

theorem hasLoaded_of_refused {error : Vault.Error} (fault : l.loadFault? l.loads = some error) :
    HasLoaded { l with loads := l.loads + 1 } ↔ l.HasLoaded := by
  constructor
  · rintro ⟨number, tried, worked⟩
    have other : number ≠ l.loads := by
      rintro rfl
      rw [fault] at worked
      cases worked
    have before : number < l.loads + 1 := tried
    exact ⟨number, by omega, worked⟩
  · rintro ⟨number, tried, worked⟩
    exact ⟨number, Nat.lt_succ_of_lt tried, worked⟩

/-- To store the flag as it is makes the two agree. -/
theorem isDurable_persist {flag : Bool} (reliable : l.settings.IsReliable)
    (loaded : l.runtime.isSome = true ↔ l.HasLoaded) (now : l.snapshot.isEnabled = flag) :
    (l.persist flag).2.IsDurable := by
  obtain ⟨-, still, reads⟩ := Settings.setEnabled_of_reliable reliable flag
  refine ⟨still, loaded, ?_, ?_⟩
  · intro enabled
    have set : flag = true := now.symm.trans enabled
    rw [set] at reads
    exact set ▸ reads
  · intro _ stored
    have same := reads.symm.trans stored
    exact now.trans (Except.ok.inj same)

theorem IsDurable.transition (durable : l.IsDurable) (engine : Engine σ ι) (flag : Bool) :
    (l.transition engine flag).2.IsDurable := by
  rcases on : l.snapshot.isEnabled with _ | _ <;> cases flag
  · rw [transition_same _ on]
    exact isDurable_persist durable.reliable durable.loaded on
  · rcases load_outcome engine (l.publish .enabling) with
      ⟨number, given, known⟩ | ⟨error, given, none, fault⟩ | ⟨given, -, fault⟩
    · simp only [Lifecycle.transition, on, given]
      exact isDurable_persist durable.reliable durable.loaded rfl
    · simp only [Lifecycle.transition, on, given]
      have unloaded : ¬ l.runtime.isSome = true := by
        have none : l.runtime = Option.none := none
        simp [none]
      refine ⟨durable.reliable, ?_, ?_, ?_⟩
      · exact durable.loaded.trans (hasLoaded_of_refused fault).symm
      · exact fun enabled => absurd enabled Bool.false_ne_true
      · exact fun loaded => absurd loaded unloaded
    · simp only [Lifecycle.transition, on, given]
      refine isDurable_persist durable.reliable ?_ rfl
      exact ⟨fun _ => hasLoaded_of_load fault, fun _ => rfl⟩
  · simp only [Lifecycle.transition, on]
    exact isDurable_persist durable.reliable durable.loaded rfl
  · rw [transition_same _ on]
    exact isDurable_persist durable.reliable durable.loaded on

/-! ### A run -/

/-- What is durable does not depend on the engine, the bus or other stored texts. -/
theorem IsDurable.aside (durable : l.IsDurable) {settings : Settings} (bus : Bus) (tried : σ)
    (stopped : Bool) (keeps : l.settings.Keeps settings Settings.enabledKey) :
    IsDurable { l with engine := tried, settings := settings, bus := bus, stopped := stopped } where
  reliable := keeps.isReliable durable.reliable
  loaded := durable.loaded
  stored := fun enabled => (keeps.enabled durable.reliable).trans (durable.stored enabled)
  enabled := fun loaded stored =>
    durable.enabled loaded ((keeps.enabled durable.reliable).symm.trans stored)

theorem IsDurable.effect {installs : Prop} (durable : l.IsDurable)
    (effect : Effect engine installs l after) : after.IsDurable := by
  cases effect with
  | aside tries hears keeps => exact durable.aside _ _ _ keeps
  | install loaded sound done tries same =>
    have on := Snapshot.isEnabled_of_load loaded
    exact ⟨durable.reliable, durable.loaded, fun _ => durable.stored on, fun _ _ => rfl⟩
  | attempt bus flag keeps =>
    have begun := durable.aside bus l.engine l.stopped keeps
    have done := begun.transition engine flag
    exact done.aside _ _ _ (.refl _ _)

theorem IsDurable.afterAll (durable : l.IsDurable) (events : List Event) :
    (l.afterAll engine events).IsDurable := by
  induction events generalizing l with
  | nil => exact durable
  | cons event events ih => exact ih (durable.effect (after_effect event))

/-! ### A restart -/

/-- A start knows no key. -/
theorem unlocked?_restart (engine : Engine σ ι) (l : Lifecycle σ ι) :
    (l.restart engine).snapshot.unlocked? = none := by
  rcases known : (l.restart engine).snapshot.unlocked? with _ | unlocked
  · rfl
  have moves : Moves engine False _ (l.restart engine) := startup_moves
  rcases moves.same_or_installs known with same | installed
  · rw [same] at known
    cases known
  · exact installed.elim

/-- An attempt to enable succeeds if the next load does. -/
theorem isEnabled_setEnabled (engine : Engine σ ι) (off : l.snapshot.isEnabled = false)
    (works : l.loadFault? l.loads = none) :
    (l.setEnabled engine true).2.snapshot.isEnabled = true := by
  unfold setEnabled
  rcases load_outcome engine (l.publish .enabling) with
    ⟨number, given, -⟩ | ⟨error, -, -, fault⟩ | ⟨given, -⟩
  · simp only [Lifecycle.transition, off, given]
    rfl
  · have broken : l.loadFault? l.loads = some error := fault
    rw [works] at broken
    cases broken
  · simp only [Lifecycle.transition, off, given]
    rfl

/-- If the next load succeeds, a start enables exactly if the stored flag reads true. -/
theorem isEnabled_startup (off : l.snapshot.isEnabled = false)
    (works : l.loadFault? l.loads = none) :
    (l.startup engine).snapshot.isEnabled = true ↔ l.StoresEnabled := by
  have read : l.settings.enabled.1.toOption.getD false = true ↔ l.StoresEnabled := by
    unfold StoresEnabled
    rcases l.settings.enabled.1 with error | flag <;> simp [Except.toOption]
  rw [← read]
  simp only [startup]
  by_cases stored : l.settings.enabled.1.toOption.getD false = true
  · have enabled := isEnabled_setEnabled engine
      (l := { l with settings := l.settings.enabled.2 }) off works
    rw [if_pos stored]
    exact iff_of_true enabled stored
  · rw [if_neg stored]
    exact iff_of_false (by simp [off]) stored

/-- Whatever happens from the start on, with a store that does not fail: what is enabled is stored,
and once a load has succeeded the two agree. So the next start, if its loader works, enables exactly
what is stored: what was enabled, but nothing that was disabled after a load. It knows no key. -/
theorem durable_of_run (engine : Engine σ ι) (state : σ) (loadFault? : Nat → Option Vault.Error)
    (file : SettingsFile) (bus : Bus) (events : List Event) :
    let l := (started engine state loadFault? (.ofFile file) bus).afterAll engine events
    (l.snapshot.isEnabled = true → l.StoresEnabled) ∧
    (l.StoresEnabled → l.HasLoaded → l.snapshot.isEnabled = true) ∧
    ∀ nextFault?,
      let next := { l with loadFault? := nextFault? }.restart engine
      next.snapshot.unlocked? = none ∧ (nextFault? l.loads = none →
        (next.snapshot.isEnabled = true ↔ l.StoresEnabled) ∧
        (l.snapshot.isEnabled = true → next.snapshot.isEnabled = true) ∧
        (l.snapshot.isEnabled = false → l.HasLoaded → next.snapshot.isEnabled = false)) := by
  intro l
  have first := isDurable_initial (ι := ι) state loadFault? (Settings.isReliable_ofFile file) bus
  have durable : l.IsDurable := (first.effect startup_effect).afterAll events
  have agree (stored : l.StoresEnabled) (loaded : l.HasLoaded) : l.snapshot.isEnabled = true :=
    durable.enabled (durable.loaded.2 loaded) stored
  refine ⟨durable.stored, agree, fun nextFault? => ⟨unlocked?_restart engine _, fun works => ?_⟩⟩
  have restored : ({ l with loadFault? := nextFault? }.restart engine).snapshot.isEnabled = true ↔
      l.StoresEnabled := isEnabled_startup rfl works
  refine ⟨restored, fun enabled => restored.2 (durable.stored enabled), fun off loaded => ?_⟩
  rw [Bool.eq_false_iff, ne_eq, restored]
  intro stored
  rw [agree stored loaded] at off
  cases off

end SealGate.Session.Lifecycle
