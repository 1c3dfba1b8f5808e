import SealGate.Proofs.Session.Run
import SealGate.Proofs.Session.Storage

/-! What an attempt to enable or to disable leaves behind if it fails. It stores nothing in any
case. If the engine cannot be loaded, or if the flag stood as it was asked for, then flag and key
are as before and that is what consumers are told. But the flag is stored last: if only that fails,
the flag has been changed, and on the way off the key has gone. -/

namespace SealGate.Session

variable {σ ι : Type}

theorem Snapshot.unlocked?_of_off {snapshot : Snapshot ι} (off : snapshot.isEnabled = false) :
    snapshot.unlocked? = none := by
  cases known : snapshot.unlocked? with
  | none => rfl
  | some unlocked =>
    rw [isEnabled_of_unlocked known] at off
    cases off

namespace Lifecycle

variable {engine : Engine σ ι} {l : Lifecycle σ ι} {flag : Bool} {error : Error}

/-! ### A transition -/

/-- The flag has been changed, and nothing has been stored or told so far. -/
structure Turned (flag : Bool) (before between : Lifecycle σ ι) : Prop where
  changed : before.snapshot.isEnabled ≠ flag
  enabled : between.snapshot.isEnabled = flag
  locked : between.snapshot.unlocked? = none
  bus : between.bus = before.bus
  settings : between.settings = before.settings

/-- A transition stores the flag, which it changes before if it has to, or it ends with a load that
failed. -/
theorem transition_cases (engine : Engine σ ι) (flag : Bool) (l : Lifecycle σ ι) :
    (l.snapshot.isEnabled = flag ∧ l.transition engine flag = l.persist flag) ∨
      (∃ between, Turned flag l between ∧ l.transition engine flag = between.persist flag) ∨
      ∃ cause, l.snapshot.isEnabled = false ∧ l.transition engine flag = (.error (.vault cause),
        { l.publish .enabling with loads := l.loads + 1 }.publish .disabled) := by
  by_cases same : l.snapshot.isEnabled = flag
  · exact .inl ⟨same, transition_same flag same⟩
  right
  cases flag with
  | false =>
    have on : l.snapshot.isEnabled = true := by simpa using same
    simp only [transition, on]
    refine .inl ⟨_, ?_, rfl⟩
    exact ⟨same, rfl, rfl, rfl, rfl⟩
  | true =>
    have off : l.snapshot.isEnabled = false := by simpa using same
    rcases load_outcome engine (l.publish .enabling) with
      ⟨load, given, -⟩ | ⟨cause, given, -⟩ | ⟨given, -⟩
    all_goals simp only [transition, off, given]
    · refine .inl ⟨_, ?_, rfl⟩
      exact ⟨same, rfl, rfl, rfl, rfl⟩
    · exact .inr ⟨cause, trivial, rfl⟩
    · refine .inl ⟨_, ?_, rfl⟩
      exact ⟨same, rfl, rfl, rfl, rfl⟩

theorem bus_transition (engine : Engine σ ι) (flag : Bool) (l : Lifecycle σ ι) :
    (l.transition engine flag).2.bus = l.bus := by
  rcases transition_cases engine flag l with
    ⟨-, given⟩ | ⟨between, turned, given⟩ | ⟨cause, -, given⟩ <;> rw [given]
  · rfl
  · exact turned.bus
  · rfl

/-- How an attempt to enable or to disable fails, and the snapshot behind it. -/
inductive Failure (flag : Bool) (before after : Snapshot ι) : Error → Prop
  /-- The flag stood as it was asked for, and it could not be stored again. -/
  | unchanged {cause : SettingsError} : before.isEnabled = flag → after = before →
      Failure flag before after (.settings cause)
  /-- The engine could not be loaded. -/
  | unloaded {cause : Vault.Error} : before.isEnabled = false → after.isEnabled = false →
      Failure flag before after (.vault cause)
  /-- The flag was changed, and then it could not be stored. -/
  | unstored {cause : SettingsError} : before.isEnabled ≠ flag → after.isEnabled = flag →
      after.unlocked? = none → Failure flag before after (.settings cause)

theorem persist_failed (failed : (l.persist flag).1 = .error error) :
    (∃ cause, error = .settings cause) ∧
      l.settings.Keeps (l.persist flag).2.settings Settings.enabledKey := by
  unfold persist at failed ⊢
  rcases stored : l.settings.setEnabled flag with ⟨cause | _, settings⟩ <;> rw [stored] at failed
  · have keeps := Settings.keeps_set_of_error (congrArg Prod.fst stored) Settings.enabledKey
    rw [← Settings.setEnabled, stored] at keeps
    exact ⟨⟨cause, (Except.error.inj failed).symm⟩, keeps⟩
  · cases failed

/-- A transition that fails stores nothing, and it fails in one of three ways. -/
theorem transition_failed (failed : (l.transition engine flag).1 = .error error) :
    Failure flag l.snapshot (l.transition engine flag).2.snapshot error ∧
      l.settings.Keeps (l.transition engine flag).2.settings Settings.enabledKey := by
  rcases transition_cases engine flag l with
    ⟨same, given⟩ | ⟨between, turned, given⟩ | ⟨cause, off, given⟩ <;> rw [given] at failed ⊢
  · obtain ⟨⟨cause, rfl⟩, keeps⟩ := persist_failed failed
    exact ⟨.unchanged same rfl, keeps⟩
  · obtain ⟨⟨cause, rfl⟩, keeps⟩ := persist_failed failed
    rw [turned.settings] at keeps
    exact ⟨.unstored turned.changed turned.enabled turned.locked, keeps⟩
  · obtain rfl := Except.error.inj failed
    exact ⟨.unloaded off rfl, .refl _ _⟩

/-! ### An attempt -/

theorem setEnabled_failed (failed : (l.setEnabled engine flag).1 = .error error) :
    (l.transition engine flag).1 = .error error := by
  unfold setEnabled at failed
  rcases result : (l.transition engine flag).1 with cause | done
  · simp only [result] at failed
    obtain rfl : cause = error := Except.error.inj failed
    rfl
  · simp only [result] at failed
    cases failed

theorem bus_setEnabled (engine : Engine σ ι) (flag : Bool) (l : Lifecycle σ ι) :
    (l.setEnabled engine flag).2.bus =
      l.bus.broadcast (.flag (l.setEnabled engine flag).2.snapshot.isEnabled) :=
  congrArg (fun bus => Bus.broadcast bus _) (bus_transition engine flag l)

/-- Flag and key are what they were before, and consumers were told nothing else. -/
structure IsUndone (before after : Lifecycle σ ι) : Prop where
  enabled : after.snapshot.isEnabled = before.snapshot.isEnabled
  unlocked : after.snapshot.unlocked? = before.snapshot.unlocked?
  told : after.bus = before.bus ∨
    after.bus = before.bus.broadcast (.flag before.snapshot.isEnabled)

theorem IsUndone.refl (l : Lifecycle σ ι) : IsUndone l l := ⟨rfl, rfl, .inl rfl⟩

/-- The flag is another one, as if the attempt had succeeded, and all are told so. -/
structure IsSwitched (flag : Bool) (before after : Lifecycle σ ι) : Prop where
  changed : before.snapshot.isEnabled ≠ flag
  enabled : after.snapshot.isEnabled = flag
  locked : after.snapshot.unlocked? = none
  told : after.bus = before.bus.broadcast (.flag flag)

theorem IsSwitched.not_isUndone {before after : Lifecycle σ ι}
    (switched : IsSwitched flag before after) : ¬ IsUndone before after := fun undone =>
  switched.changed (undone.enabled.symm.trans switched.enabled)

theorem setEnabled_failure (failed : (l.setEnabled engine flag).1 = .error error) :
    (IsUndone l (l.setEnabled engine flag).2 ∧
        (l.snapshot.isEnabled = flag ∨ ∃ cause, error = .vault cause)) ∨
      (IsSwitched flag l (l.setEnabled engine flag).2 ∧ ∃ cause, error = .settings cause) := by
  have told := bus_setEnabled engine flag l
  have tells : ∀ {on}, (l.setEnabled engine flag).2.snapshot.isEnabled = on →
      (l.setEnabled engine flag).2.bus = l.bus.broadcast (.flag on) := fun enabled => enabled ▸ told
  cases (transition_failed (setEnabled_failed failed)).1 with
  | @unchanged cause same kept =>
    have enabled := congrArg Snapshot.isEnabled kept
    have unlocked := congrArg Snapshot.unlocked? kept
    exact .inl ⟨⟨enabled, unlocked, .inr (tells enabled)⟩, .inl same⟩
  | @unloaded cause off still =>
    have enabled := still.trans off.symm
    have unlocked := (Snapshot.unlocked?_of_off still).trans (Snapshot.unlocked?_of_off off).symm
    exact .inl ⟨⟨enabled, unlocked, .inr (tells enabled)⟩, .inr ⟨cause, rfl⟩⟩
  | @unstored cause changed enabled locked =>
    exact .inr ⟨⟨changed, enabled, locked, tells enabled⟩, cause, rfl⟩

/-- An attempt that fails stores nothing. It leaves all as it was if and only if the flag stood as
it was asked for, the lifecycle has ended or the engine could not be loaded. Otherwise the flag has
been changed as if the attempt had succeeded, all consumers are told so, and no key is left. -/
theorem isUndone_requestEnabled_iff (failed : (l.requestEnabled engine flag).1 = .error error) :
    let after := (l.requestEnabled engine flag).2
    l.settings.Keeps after.settings Settings.enabledKey ∧
      (IsUndone l after ↔
        l.snapshot.isEnabled = flag ∨ error = .stopped ∨ ∃ cause, error = .vault cause) ∧
      (IsUndone l after ∨ IsSwitched flag l after) := by
  intro after
  by_cases ended : l.stopped = true
  · have refused : l.requestEnabled engine flag = (.error .stopped, l) := by
      rw [requestEnabled, if_pos ended]
    have same : after = l := congrArg Prod.snd refused
    rw [refused] at failed
    obtain rfl := Except.error.inj failed
    rw [same]
    exact ⟨.refl _ _, ⟨fun _ => .inr (.inl rfl), fun _ => .refl l⟩, .inl (.refl l)⟩
  have asked : l.requestEnabled engine flag = l.setEnabled engine flag := by
    rw [requestEnabled, if_neg ended]
  have after_eq : after = (l.setEnabled engine flag).2 := congrArg Prod.snd asked
  rw [asked] at failed
  have keeps := (transition_failed (setEnabled_failed failed)).2
  rw [after_eq]
  refine ⟨keeps, ?_⟩
  rcases setEnabled_failure failed with ⟨undone, reason⟩ | ⟨switched, cause, rfl⟩
  · exact ⟨⟨fun _ => reason.imp_right .inr, fun _ => undone⟩, .inl undone⟩
  · refine ⟨⟨fun undone => absurd undone switched.not_isUndone, ?_⟩, .inr switched⟩
    rintro (same | stopped | ⟨cause, vault⟩)
    · exact absurd same switched.changed
    · cases stopped
    · cases vault

/-- The engine cannot be loaded: the attempt is refused and leaves all as it was. -/
theorem isUndone_after_failed_load :
    let engine : Engine Unit Unit :=
      ⟨id, fun _ state => (.error .invalidPassphrase, state), fun _ => .ok (), id⟩
    let l := (started engine () (fun _ => some .timeout) (.ofFile .missing) .empty).after engine
      .attach
    (l.requestEnabled engine true).1 = .error (.vault .timeout) ∧
      IsUndone l (l.requestEnabled engine true).2 := by
  intro engine l
  have failed : (l.requestEnabled engine true).1 = .error (.vault .timeout) := rfl
  exact ⟨failed, (isUndone_requestEnabled_iff failed).2.1.2 (.inr (.inr ⟨.timeout, rfl⟩))⟩

/-- Nothing can be stored: the attempt to enable is refused, and yet decryption is enabled behind it
and the consumer is told so; the attempt to disable is refused, and yet the key has gone. -/
theorem switched_after_failed_write :
    let engine : Engine Unit Unit :=
      ⟨id, fun _ state => (.error .invalidPassphrase, state), fun _ => .ok (), id⟩
    let readOnly := SettingsError.directory "read-only"
    let l := (started engine () (fun _ => none) (.broken .missing readOnly) .empty).after engine
      .attach
    let on := (l.requestEnabled engine true).2
    let opened := on.afterAll engine [.send 1 (.setMasterKey [7] "k"), .command]
    let off := (opened.requestEnabled engine false).2
    (l.requestEnabled engine true).1 = .error (.settings readOnly) ∧
      l.snapshot.isEnabled = false ∧ on.snapshot.isEnabled = true ∧
      on.bus.box? 1 = some ⟨true, [.flag true], 0⟩ ∧ ¬ IsUndone l on ∧
      (opened.requestEnabled engine false).1 = .error (.settings readOnly) ∧
      opened.snapshot.unlocked? = some ⟨⟨[7]⟩, "k", ()⟩ ∧ off.snapshot.unlocked? = none ∧
      off.bus.box? 1 = some ⟨true, [.flag true, .flag false], 0⟩ ∧ ¬ IsUndone opened off := by
  intro engine readOnly l on opened off
  have enabled : on.snapshot.isEnabled = true := rfl
  have disabled : off.snapshot.isEnabled = false := rfl
  refine ⟨rfl, rfl, enabled, rfl, fun undone => ?_, rfl, rfl, rfl, rfl, fun undone => ?_⟩
  · cases enabled.symm.trans undone.enabled
  · cases disabled.symm.trans undone.enabled

end Lifecycle

end SealGate.Session
