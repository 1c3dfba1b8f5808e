import SealGate.Proofs.Session.Effects

/-! What consumers know of the flag. An attempt to enable or to disable ends with the flag being
told to all that are attached, however it ends, and nothing else changes the flag. So between two
messages everyone who was told of it at all was last told what it is, and nobody waits for it; also
if consumers come and go while a message is carried out. -/

namespace SealGate.Session

/-- An event, or a command between whose two notifications consumers do something. -/
inductive Turn
  | event (event : Event)
  | command (visits : List Visit)

namespace Bus

variable {before after : Bus} {enabled : Bool}

/-- Whoever is attached and was told of the flag was last told that it is this one. -/
def IsInformed (bus : Bus) (enabled : Bool) : Prop :=
  ∀ id box, bus.box? id = some box → box.attached = true →
    ∀ status, box.lastStatus? = some status → status = .flag enabled

/-- Whoever is attached was told of the flag, and last that it is this one. -/
def IsTold (bus : Bus) (enabled : Bool) : Prop :=
  ∀ id box, bus.box? id = some box → box.attached = true → box.lastStatus? = some (.flag enabled)

theorem IsTold.isInformed {bus : Bus} (told : bus.IsTold enabled) : bus.IsInformed enabled := by
  intro id box found attached status last
  rw [told id box found attached] at last
  exact (Option.some.inj last).symm

theorem IsInformed.hears (informed : before.IsInformed enabled)
    (hears : before.Hears after enabled) : after.IsInformed enabled := by
  intro id box found attached status last
  rcases hears id box found attached with none | told | ⟨old, held, joined, same⟩
  · rw [none] at last
    cases last
  · rw [told] at last
    exact (Option.some.inj last).symm
  · rw [same] at last
    exact informed id old held joined status last

theorem isTold_broadcast (bus : Bus) (enabled : Bool) :
    (bus.broadcast (.flag enabled)).IsTold enabled := by
  intro id box found attached
  rw [box?_broadcast, Option.map_eq_some_iff] at found
  obtain ⟨old, -, rfl⟩ := found
  have joined : old.attached = true := by rwa [deliver_eq] at attached
  rw [Mailbox.lastStatus?_deliver joined]
  rfl

end Bus

namespace Lifecycle

variable {σ ι : Type} {engine : Engine σ ι} {installs : Prop} {l after : Lifecycle σ ι}

def turn (engine : Engine σ ι) (l : Lifecycle σ ι) : Turn → Lifecycle σ ι
  | .event event => l.after engine event
  | .command visits => l.stepAmid engine visits

def turnAll (engine : Engine σ ι) (l : Lifecycle σ ι) (turns : List Turn) : Lifecycle σ ι :=
  turns.foldl (turn engine) l

theorem turn_effect (turn : Turn) : Effect engine True l (l.turn engine turn) := by
  cases turn with
  | event event => exact (after_effect event).imp fun _ => trivial
  | command visits => exact (stepAmid_effect visits).imp fun _ => trivial

theorem isTold_setEnabled (engine : Engine σ ι) (flag : Bool) (l : Lifecycle σ ι) :
    (l.setEnabled engine flag).2.bus.IsTold (l.setEnabled engine flag).2.snapshot.isEnabled :=
  Bus.isTold_broadcast _ _

theorem Effect.informed (effect : Effect engine installs l after)
    (informed : l.bus.IsInformed l.snapshot.isEnabled) :
    after.bus.IsInformed after.snapshot.isEnabled := by
  cases effect with
  | aside tries hears keeps => exact informed.hears hears
  | install loaded sound done tries same =>
    rw [Snapshot.isEnabled_of_load loaded] at informed
    rw [isEnabled_installed]
    exact informed.hears (.of_boxes same)
  | attempt bus flag keeps => exact (isTold_setEnabled engine flag _).isInformed

/-- Only an attempt changes the flag. -/
theorem Effect.told (effect : Effect engine installs l after)
    (changed : after.snapshot.isEnabled ≠ l.snapshot.isEnabled) :
    after.bus.IsTold after.snapshot.isEnabled := by
  cases effect with
  | aside tries hears keeps => exact absurd rfl changed
  | install loaded sound done tries same =>
    rw [isEnabled_installed, Snapshot.isEnabled_of_load loaded] at changed
    exact absurd rfl changed
  | attempt bus flag keeps => exact isTold_setEnabled engine flag _

theorem informed_turnAll (informed : l.bus.IsInformed l.snapshot.isEnabled) (turns : List Turn) :
    (l.turnAll engine turns).bus.IsInformed (l.turnAll engine turns).snapshot.isEnabled := by
  induction turns generalizing l with
  | nil => exact informed
  | cons turn turns ih => exact ih ((turn_effect turn).informed informed)

/-- Whatever happens from the start on, all that are attached and were told of the flag were last
told what it is; and a turn that changes the flag tells it to all of them. -/
theorem informed_of_run (engine : Engine σ ι) (state : σ) (loadFault? : Nat → Option Vault.Error)
    (settings : Settings) (bus : Bus) (turns : List Turn)
    (silent : ∀ id box, bus.box? id = some box → box.lastStatus? = none) :
    let l := (started engine state loadFault? settings bus).turnAll engine turns
    l.bus.IsInformed l.snapshot.isEnabled ∧
      ∀ turn, (l.turn engine turn).snapshot.isEnabled ≠ l.snapshot.isEnabled →
        (l.turn engine turn).bus.IsTold (l.turn engine turn).snapshot.isEnabled := by
  intro l
  have before : bus.IsInformed false := by
    intro id box found _ status last
    rw [silent id box found] at last
    cases last
  have start : (started engine state loadFault? settings bus).bus.IsInformed
      (started engine state loadFault? settings bus).snapshot.isEnabled :=
    startup_effect.informed (l := { initial state loadFault? settings with bus := bus }) before
  exact ⟨informed_turnAll start turns, fun turn => (turn_effect turn).told⟩

/-- The runtime cannot be loaded, and a consumer that has been attached from before asks to enable:
it is told that a change begins and then that there was none. One that comes meanwhile is told only
the latter. -/
theorem informed_after_failed_load :
    let engine : Engine Unit Unit :=
      ⟨id, fun _ state => (.error .invalidPassphrase, state), fun _ => .ok (), id⟩
    let bus : Bus := ⟨[⟨true, [.unlocked], 0⟩], [⟨1, .setFlag true⟩], false⟩
    let l := (started engine () (fun _ => some .timeout) (.ofFile .missing) bus).turnAll engine
      [.command [.attach]]
    (∀ id box, bus.box? id = some box → box.lastStatus? = none) ∧
      l.bus.box? 1 = some ⟨true, [.unlocked, .suspended, .flag false], 0⟩ ∧
      l.bus.box? 2 = some ⟨true, [.flag false], 0⟩ ∧
      l.bus.IsInformed l.snapshot.isEnabled := by
  intro engine bus l
  have silent : ∀ id box, bus.box? id = some box → box.lastStatus? = none := by
    intro id box found
    rcases id with _ | _ | id
    · cases found
    · obtain rfl := Option.some.inj found
      rfl
    · cases found
  have informed := (informed_of_run engine () (fun _ => some .timeout) (.ofFile .missing) bus
    [.command [.attach]] silent).1
  exact ⟨silent, rfl, rfl, informed⟩

end Lifecycle

end SealGate.Session
