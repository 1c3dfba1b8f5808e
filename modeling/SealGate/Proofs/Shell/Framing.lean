import SealGate.Proofs.Json.Printing
import SealGate.Proofs.Session.Fidelity
import SealGate.Proofs.Wire.Formats
import SealGate.Shell.Console

/-! What goes through a console, in whatever order it reads, it writes, and others act on the bus.
While the queue is open, the console has queued that it is connected and then the command of each
line that it has read and that spells one, in the order of the lines. What it has written is a line
for each of the first notifications that it was sent: no text in a notification can break a line,
because line breaks are escaped, so the lines are read back as those notifications. -/

namespace SealGate.Shell

open Json Session Text

namespace Console

/-! ### Lines -/

/-- How commands and notifications are written. -/
def commandFormat : Format Command := WireType.command.format

def notificationFormat : Format Notification := WireType.notification.format

theorem lines_append {line : List Char} (free : '\n' ∉ line) (rest : List Char) :
    lines (line ++ '\n' :: rest) = line :: lines rest := by
  induction line with
  | nil => rw [List.nil_append, lines, if_pos rfl]
  | cons c line ih =>
    rw [List.mem_cons, not_or] at free
    rw [List.cons_append, lines, if_neg (Ne.symm free.1), ih free.2]

/-- Texts without a line break are the lines of a text in which each of them ends with one. -/
theorem lines_flatMap {texts : List (List Char)} (free : ∀ text ∈ texts, '\n' ∉ text) :
    lines (texts.flatMap (· ++ ['\n'])) = texts := by
  induction texts with
  | nil => rfl
  | cons text texts ih =>
    rw [List.flatMap_cons, List.append_assoc, List.singleton_append,
      lines_append (free text (by simp)), ih fun other mem => free other (by simp [mem])]

/-- The command that a line spells: what is left of it without the blanks around it is not empty,
and is read as a command. -/
def spelled? (line : List Char) : Option Command :=
  if trim line = [] then none else commandFormat.read? (String.ofList (trim line))

theorem command?_eq (line : List Char) : command? line = spelled? line := by
  by_cases blank : trim line = []
  · rw [spelled?, if_pos blank, command?, blank]
    rfl
  · rw [spelled?, if_neg blank, Format.read?, Node.parse?, String.toList_ofList]
    rfl

theorem lines_written (notifications : List Notification) :
    lines (notifications.flatMap written) =
      notifications.map fun notification => notification.toNode.renderChars := by
  have texts : notifications.flatMap written =
      (notifications.map fun notification => notification.toNode.renderChars).flatMap
        (· ++ ['\n']) := by
    rw [List.flatMap_map]
    rfl
  rw [texts, lines_flatMap]
  refine List.forall_mem_map.2 fun notification _ => ?_
  exact notification.isProper_toNode.isUncontrolled.not_mem_newline

/-- Each line that is written is read back as the notification that was written. -/
theorem read?_lines_written (notifications : List Notification) :
    (lines (notifications.flatMap written)).map
        (fun line => notificationFormat.read? (String.ofList line)) =
      notifications.map some := by
  rw [lines_written, List.map_map]
  refine List.map_congr_left fun notification _ => ?_
  exact WireType.notification.isFaithful.read?_write notification

/-! ### Reading and writing -/

theorem send_eq (command : Command) (console : Console) (bus : Bus) :
    console.send command bus =
      if bus.closed then console.quit bus
      else (console, { bus with queue := bus.queue ++ [⟨console.id, command⟩] }) := by
  unfold send Bus.send
  cases bus.closed <;> rfl

theorem quit_frame (console : Console) (bus : Bus) :
    (console.quit bus).2.queue = bus.queue ∧ (console.quit bus).2.closed = bus.closed :=
  (bus.update_frame _ _).2

/-- What can come of reading: a console that has quit does not read, a line is left out or queued as
a command, and the end of the input, or of the queue, is the end. -/
inductive Reading (console : Console) (bus : Bus) : Console × Bus → Prop
  | rested : console.isOpen = false → Reading console bus (console, bus)
  | ended : console.isOpen = true → console.input = [] → Reading console bus (console.quit bus)
  | skipped {line : List Char} {rest : List (List Char)} : console.isOpen = true →
      console.input = line :: rest → command? line = none →
      Reading console bus ({ console with input := rest }, bus)
  | queued {line : List Char} {rest : List (List Char)} {command : Command} :
      console.isOpen = true → console.input = line :: rest → command? line = some command →
      bus.closed = false → Reading console bus ({ console with input := rest },
        { bus with queue := bus.queue ++ [⟨console.id, command⟩] })
  | refused {line : List Char} {rest : List (List Char)} : console.isOpen = true →
      console.input = line :: rest → bus.closed = true →
      Reading console bus ({ console with input := rest }.quit bus)

theorem reading_readLine (console : Console) (bus : Bus) :
    Reading console bus (console.readLine bus) := by
  unfold readLine
  split
  · rename_i opened
    split
    · rename_i none
      exact .ended opened none
    · rename_i line rest some
      cases spelled : command? line with
      | none => exact .skipped opened some spelled
      | some command =>
        dsimp only
        rw [send_eq]
        split
        · rename_i closed
          exact .refused opened some closed
        · rename_i still
          exact .queued opened some spelled (Bool.eq_false_iff.2 still)
  · rename_i quitted
    exact .rested (Bool.eq_false_iff.2 quitted)

/-- What waits longest is written. -/
theorem writeNext_eq (console : Console) (bus : Bus) :
    console.writeNext bus =
      if console.isOpen then
        ({ console with
            output := console.output ++
              (bus.contents console.id).waiting.head?.toList.flatMap written },
          bus.update console.id Mailbox.markNext)
      else (console, bus) := by
  have first : (bus.receive console.id).1 = (bus.contents console.id).waiting.head? := by
    unfold Bus.receive Bus.contents
    cases bus.box? console.id <;> rfl
  have text : (bus.receive console.id).1.elim [] written =
      (bus.contents console.id).waiting.head?.toList.flatMap written := by
    rw [first]
    cases (bus.contents console.id).waiting.head? <;> simp
  rw [← text]
  rfl

/-! ### A console among others -/

/-- The console reads, or it writes, or others do something with the bus. -/
inductive Turn
  | reading
  | writing
  | other (operation : Bus.Operation)
  deriving DecidableEq

namespace Turn

/-- The notification that is sent to a consumer. -/
def news? (id : Nat) : Turn → Option Notification
  | .other operation => operation.news? id
  | _ => none

/-- Others do not act as the consumer. -/
def IsForeign (id : Nat) (turn : Turn) : Prop :=
  turn ≠ .other (.detach id) ∧ turn ≠ .other (.drain id) ∧
    ∀ command, turn ≠ .other (.send id command)

end Turn

/-- A console, its bus, and the commands that were taken from there. -/
structure Stage where
  console : Console
  bus : Bus
  taken : List Envelope

namespace Stage

def after (stage : Stage) : Turn → Stage
  | .reading =>
    { stage with
      console := (stage.console.readLine stage.bus).1
      bus := (stage.console.readLine stage.bus).2 }
  | .writing =>
    { stage with
      console := (stage.console.writeNext stage.bus).1
      bus := (stage.console.writeNext stage.bus).2 }
  | .other operation =>
    { stage with
      bus := (stage.bus.perform operation).2
      taken := stage.taken ++ Bus.Log.taken [(operation, (stage.bus.perform operation).1)] }

/-- The commands that were taken and those that wait. -/
def queued (stage : Stage) : List Envelope := stage.taken ++ stage.bus.queue

/-- The mailbox of the console. -/
def box (stage : Stage) : Mailbox := stage.bus.contents stage.console.id

def afterAll (stage : Stage) (turns : List Turn) : Stage := turns.foldl after stage

/-- A console with a text as its input comes to a bus. -/
def coming (text : String) (bus : Bus) : Stage :=
  { console := (attach (lines text.toList) bus).1
    bus := (attach (lines text.toList) bus).2
    taken := [] }

def announced (stage : Stage) : Stage :=
  { stage with
    console := (stage.console.announce stage.bus).1
    bus := (stage.console.announce stage.bus).2 }

/-- A console comes, and others act before it tells that it has come, and later on. -/
def run (text : String) (bus : Bus) (before : List Bus.Operation) (turns : List Turn) : Stage :=
  ((coming text bus).afterAll (before.map .other)).announced.afterAll turns

end Stage

/-! ### What is queued -/

section

variable {text : String} {bus : Bus} {commands : List Command} {tries : Nat} {stage : Stage}

/-- Commands and then those of some lines, as a consumer sends them. -/
def envelopes (id : Nat) (commands : List Command) (lines : List (List Char)) : List Envelope :=
  (commands ++ lines.filterMap command?).map (⟨id, ·⟩)

theorem envelopes_concat (id : Nat) (commands : List Command) (lines : List (List Char))
    (line : List Char) :
    envelopes id commands (lines ++ [line]) =
      envelopes id commands lines ++ ((command? line).map (Envelope.mk id)).toList := by
  cases spelled : command? line <;> simp [envelopes, spelled]

/-- What a console has queued and has still to read when it has sent some commands at first and has
then tried so often to read a line. -/
structure Sending (text : String) (bus : Bus) (commands : List Command) (tries : Nat)
    (stage : Stage) : Prop where
  id : stage.console.id = bus.attach.1
  input : stage.console.isOpen = true → stage.console.input = (lines text.toList).drop tries
  quit : stage.console.isOpen = false →
    stage.bus.closed = true ∨ (lines text.toList).length < tries
  queued : stage.bus.closed = false → ∃ added, stage.queued = bus.queue ++ added ∧
    added.filter (·.sender = bus.attach.1) =
      envelopes bus.attach.1 commands ((lines text.toList).take tries)

theorem take_succ_of_drop {α : Type} {rows rest : List α} {row : α} {n : Nat}
    (left : rows.drop n = row :: rest) :
    rows.take (n + 1) = rows.take n ++ [row] ∧ rows.drop (n + 1) = rest := by
  refine ⟨?_, ?_⟩
  · rw [List.take_add_one, ← List.head?_drop, left]
    rfl
  · rw [← List.tail_drop, left]
    rfl

theorem take_succ_of_length_le {α : Type} {rows : List α} {n : Nat} (all : rows.length ≤ n) :
    rows.take (n + 1) = rows.take n := by
  rw [List.take_of_length_le all, List.take_of_length_le (Nat.le_succ_of_le all)]

namespace Sending

theorem of_coming (text : String) (bus : Bus) : Sending text bus [] 0 (.coming text bus) :=
  ⟨rfl, fun _ => rfl, nofun, fun _ => ⟨[], (List.append_nil _).symm, rfl⟩⟩

/-- Of a console that has quit because the queue is closed nothing more is told. -/
theorem of_closed (id : stage.console.id = bus.attach.1) (quit : stage.console.isOpen = false)
    (closed : stage.bus.closed = true) : Sending text bus commands tries stage := by
  refine ⟨id, fun opened => ?_, fun _ => .inl closed, fun opened => ?_⟩
  · exact absurd (quit.symm.trans opened) nofun
  · exact absurd (closed.symm.trans opened) nofun

/-- What is added by one command more. -/
theorem queued_concat (sending : Sending text bus commands tries stage)
    (still : stage.bus.closed = false) (command : Command) :
    ∃ added, stage.taken ++ (stage.bus.queue ++ [⟨stage.console.id, command⟩]) =
        bus.queue ++ added ∧
      added.filter (·.sender = bus.attach.1) =
        envelopes bus.attach.1 commands ((lines text.toList).take tries) ++
          [⟨bus.attach.1, command⟩] := by
  obtain ⟨added, whole, own⟩ := sending.queued still
  refine ⟨added ++ [⟨stage.console.id, command⟩], ?_, ?_⟩
  · rw [← List.append_assoc, ← List.append_assoc, ← whole, Stage.queued]
  · rw [List.filter_append, own, sending.id]
    simp

theorem announced (sending : Sending text bus [] 0 stage) :
    Sending text bus [.connected] 0 stage.announced := by
  unfold Stage.announced announce
  rw [send_eq]
  split
  · rename_i closed
    exact .of_closed sending.id rfl ((stage.console.quit_frame stage.bus).2.trans closed)
  · rename_i still
    refine ⟨sending.id, sending.input, sending.quit, fun _ => ?_⟩
    exact sending.queued_concat (Bool.eq_false_iff.2 still) .connected

theorem reading (sending : Sending text bus commands tries stage) :
    Sending text bus commands (tries + 1) (stage.after .reading) := by
  have reading := reading_readLine stage.console stage.bus
  unfold Stage.after
  dsimp only
  generalize stage.console.readLine stage.bus = result at reading ⊢
  cases reading with
  | rested rested =>
    have ended := sending.quit rested
    refine ⟨sending.id, fun opened => ?_, fun _ => ended.imp_right Nat.lt_succ_of_lt, ?_⟩
    · exact absurd (rested.symm.trans opened) nofun
    · intro opened
      have all : (lines text.toList).length < tries :=
        ended.resolve_left fun closed => absurd (closed.symm.trans opened) nofun
      -- all lines were read before, so that one more changes nothing
      rw [take_succ_of_length_le all.le]
      exact sending.queued opened
  | ended opened none =>
    have all : (lines text.toList).length ≤ tries := by
      rw [← List.drop_eq_nil_iff, ← sending.input opened, none]
    obtain ⟨queue, closed⟩ := stage.console.quit_frame stage.bus
    refine ⟨sending.id, nofun, fun _ => .inr (Nat.lt_succ_of_le all), fun still => ?_⟩
    rw [take_succ_of_length_le all, Stage.queued]
    obtain ⟨added, whole, own⟩ := sending.queued (closed.symm.trans still)
    exact ⟨added, (congrArg (stage.taken ++ ·) queue).trans whole, own⟩
  | skipped opened some spelled =>
    obtain ⟨taken, left⟩ := take_succ_of_drop ((sending.input opened).symm.trans some)
    refine ⟨sending.id, fun _ => left.symm, fun quit => ?_, fun still => ?_⟩
    · exact absurd (opened.symm.trans quit) nofun
    · rw [taken, envelopes_concat, spelled, Option.map_none, Option.toList_none, List.append_nil]
      exact sending.queued still
  | @queued line rest command opened some spelled still =>
    obtain ⟨taken, left⟩ := take_succ_of_drop ((sending.input opened).symm.trans some)
    refine ⟨sending.id, fun _ => left.symm, fun quit => ?_, fun _ => ?_⟩
    · exact absurd (opened.symm.trans quit) nofun
    · rw [taken, envelopes_concat, spelled]
      exact sending.queued_concat still command
  | refused opened some closed =>
    exact .of_closed sending.id rfl ((quit_frame _ stage.bus).2.trans closed)

theorem writing (sending : Sending text bus commands tries stage) :
    Sending text bus commands tries (stage.after .writing) := by
  unfold Stage.after
  dsimp only
  rw [writeNext_eq]
  split
  · obtain ⟨-, queue, closed⟩ := stage.bus.update_frame stage.console.id Mailbox.markNext
    refine ⟨sending.id, sending.input, ?_, fun still => ?_⟩
    · rw [closed]
      exact sending.quit
    · rw [Stage.queued, queue]
      exact sending.queued (closed.symm.trans still)
  · exact ⟨sending.id, sending.input, sending.quit, sending.queued⟩

theorem other (sending : Sending text bus commands tries stage) {operation : Bus.Operation}
    (foreign : (Turn.other operation).IsForeign bus.attach.1) :
    Sending text bus commands tries (stage.after (.other operation)) := by
  have closed := stage.bus.closed_perform operation
  refine ⟨sending.id, sending.input, fun quit => ?_, fun still => ?_⟩
  · refine (sending.quit quit).imp_left fun before => ?_
    rw [Stage.after, closed, before, Bool.true_or]
  · rw [Stage.after, closed, Bool.or_eq_false_iff, decide_eq_false_iff_not] at still
    obtain ⟨before, unclosed⟩ := still
    obtain ⟨added, whole, own⟩ := sending.queued before
    refine ⟨added ++ operation.envelope?.toList, ?_, ?_⟩
    · rw [← List.append_assoc, ← whole, Stage.after, Stage.queued, Stage.queued]
      dsimp only
      rw [List.append_assoc, stage.bus.taken_append_queue unclosed, before, List.append_assoc]
      rfl
    · have apart : operation.envelope?.toList.filter (·.sender = bus.attach.1) = [] := by
        cases operation with
        | send sender command =>
          have different : sender ≠ bus.attach.1 := fun same => foreign.2.2 command (same ▸ rfl)
          simp [Bus.Operation.envelope?, different]
        | _ => rfl
      rw [List.filter_append, own, apart, List.append_nil]

end Sending

end

/-! ### What is written -/

section

variable {bus : Bus} {news : List Notification} {isOpen : Bool} {box : Mailbox}
  {output : List Char} {stage after : Stage}

/-- Of the news that a console was sent, the mailbox holds the first ones, all of them as long as
the console is open, and those that were read are written. -/
structure Flows (news : List Notification) (isOpen : Bool) (box : Mailbox) (output : List Char) :
    Prop where
  attached : box.attached = isOpen
  delivered : box.delivered <+: news
  heard : isOpen = true → box.delivered = news
  within : box.read ≤ box.delivered.length
  output : output = (box.delivered.take box.read).flatMap written

namespace Flows

theorem of_empty : Flows [] true .empty [] :=
  ⟨rfl, List.prefix_rfl, fun _ => rfl, Nat.le_refl 0, rfl⟩

theorem quit (flows : Flows news isOpen box output) :
    Flows news false { box with attached := false } output :=
  ⟨rfl, flows.delivered, nofun, flows.within, flows.output⟩

theorem deliver (flows : Flows news isOpen box output) (more : List Notification) :
    Flows (news ++ more) isOpen
      { box with delivered := box.delivered ++ if isOpen then more else [] } output := by
  refine ⟨flows.attached, ?_, fun opened => ?_, ?_, ?_⟩
  · cases isOpen with
    | true =>
      have whole : box.delivered ++ more = news ++ more := by rw [flows.heard rfl]
      exact ⟨[], (List.append_nil _).trans whole⟩
    | false =>
      rw [if_neg nofun, List.append_nil]
      exact flows.delivered.trans (List.prefix_append _ _)
  · rw [flows.heard opened, if_pos opened]
  · rw [List.length_append]
    exact Nat.le_add_right_of_le flows.within
  · rw [List.take_append_of_le_length flows.within, ← flows.output]

/-- What waits longest is written. -/
theorem writeNext (flows : Flows news isOpen box output) :
    Flows news isOpen box.markNext (output ++ box.waiting.head?.toList.flatMap written) := by
  refine ⟨flows.attached, flows.delivered, flows.heard, Nat.min_le_right _ _, ?_⟩
  rw [Mailbox.markNext, Mailbox.waiting, ← List.take_eq_take_min, List.take_add_one,
    List.flatMap_append, ← flows.output, List.head?_drop]

end Flows

/-- What a console has in its mailbox and has written when it was sent some notifications. -/
structure Hearing (bus : Bus) (news : List Notification) (stage : Stage) : Prop where
  id : stage.console.id = bus.attach.1
  come : bus.attach.1 ≤ stage.bus.boxes.length
  flows : Flows news stage.console.isOpen stage.box stage.console.output

namespace Hearing

theorem of_coming (text : String) (bus : Bus) : Hearing bus [] (.coming text bus) := by
  have box : bus.attach.2.contents bus.attach.1 = .empty := by
    rw [Bus.contents_attach]
    exact if_pos rfl
  refine ⟨rfl, ?_, ?_⟩
  · simp [Stage.coming, attach, Bus.attach]
  · have flows := Flows.of_empty
    rw [← box] at flows
    exact flows

theorem of_boxes (hearing : Hearing bus news stage)
    (console : ∃ input, after.console = { stage.console with input := input })
    (boxes : after.bus.boxes = stage.bus.boxes) : Hearing bus news after := by
  obtain ⟨input, console⟩ := console
  have box : after.box = stage.box := by
    rw [Stage.box, Stage.box, console, Bus.contents_of_boxes boxes]
  refine ⟨?_, boxes ▸ hearing.come, ?_⟩
  · rw [console]
    exact hearing.id
  · rw [box, console]
    exact hearing.flows

theorem of_quit (hearing : Hearing bus news stage)
    (console : ∃ input, after.console = { stage.console with isOpen := false, input := input })
    (detached : after.bus = stage.bus.detach stage.console.id) : Hearing bus news after := by
  obtain ⟨input, console⟩ := console
  have box : after.box = { stage.box with attached := false } := by
    rw [Stage.box, detached, console, Bus.detach, Bus.contents_update _ _ _ rfl, if_pos rfl,
      Stage.box]
  refine ⟨?_, ?_, ?_⟩
  · rw [console]
    exact hearing.id
  · rw [detached, Bus.detach, (stage.bus.update_frame _ _).1]
    exact hearing.come
  · rw [box, console]
    exact hearing.flows.quit

theorem announced (hearing : Hearing bus news stage) : Hearing bus news stage.announced := by
  unfold Stage.announced announce
  rw [send_eq]
  split
  · exact hearing.of_quit ⟨_, rfl⟩ rfl
  · exact hearing.of_boxes ⟨_, rfl⟩ rfl

theorem reading (hearing : Hearing bus news stage) :
    Hearing bus news (stage.after .reading) := by
  have reading := reading_readLine stage.console stage.bus
  unfold Stage.after
  dsimp only
  generalize stage.console.readLine stage.bus = result at reading ⊢
  cases reading with
  | ended | refused => exact hearing.of_quit ⟨_, rfl⟩ rfl
  | rested | skipped | queued => exact hearing.of_boxes ⟨_, rfl⟩ rfl

theorem writing (hearing : Hearing bus news stage) :
    Hearing bus news (stage.after .writing) := by
  unfold Stage.after
  dsimp only
  rw [writeNext_eq]
  split
  · refine ⟨hearing.id, ?_, ?_⟩
    · rw [(stage.bus.update_frame _ _).1]
      exact hearing.come
    · rw [Stage.box, Bus.contents_update _ _ _ rfl, if_pos rfl]
      exact hearing.flows.writeNext
  · exact hearing.of_boxes ⟨_, rfl⟩ rfl

theorem other (hearing : Hearing bus news stage) {operation : Bus.Operation}
    (foreign : (Turn.other operation).IsForeign bus.attach.1) :
    Hearing bus (news ++ ((Turn.other operation).news? bus.attach.1).toList)
      (stage.after (.other operation)) := by
  obtain ⟨stays, unread, -⟩ := foreign
  have kept : operation ≠ .detach bus.attach.1 := fun same => stays (congrArg Turn.other same)
  have left : operation ≠ .drain bus.attach.1 := fun same => unread (congrArg Turn.other same)
  -- the console has its mailbox already, so whoever comes now is somebody else
  have old : ¬ (operation = .attach ∧ bus.attach.1 = stage.bus.boxes.length + 1) := by
    have come := hearing.come
    omega
  have flows := hearing.flows.deliver (operation.news? bus.attach.1).toList
  have perform := stage.bus.contents_perform operation bus.attach.1
  have attached := hearing.flows.attached
  rw [Stage.box, hearing.id] at attached flows
  rw [if_neg old, if_neg left, decide_eq_true kept, Bool.and_true, attached] at perform
  refine ⟨hearing.id, ?_, ?_⟩
  · have longer := stage.bus.length_boxes_perform operation
    rw [Stage.after]
    exact hearing.come.trans (longer ▸ Nat.le_add_right _ _)
  · rw [Stage.after, Stage.box, hearing.id, perform, ← attached]
    rw [← attached] at flows
    exact flows

end Hearing

end

/-! ### What can be relied on -/

theorem keeps_afterAll {text : String} {bus : Bus} {commands : List Command}
    {news : List Notification} {tries : Nat} {stage : Stage} {turns : List Turn}
    (sending : Sending text bus commands tries stage) (hearing : Hearing bus news stage)
    (foreign : ∀ turn ∈ turns, turn.IsForeign bus.attach.1) :
    Sending text bus commands (tries + turns.count .reading) (stage.afterAll turns) ∧
      Hearing bus (news ++ turns.filterMap (·.news? bus.attach.1)) (stage.afterAll turns) := by
  induction turns generalizing tries news stage with
  | nil => exact ⟨sending, (List.append_nil news).symm ▸ hearing⟩
  | cons turn turns ih =>
    rw [List.forall_mem_cons] at foreign
    cases turn with
    | reading =>
      rw [List.count_cons_self, List.filterMap_cons_none rfl, Nat.add_comm _ 1, ← Nat.add_assoc]
      exact ih sending.reading hearing.reading foreign.2
    | writing =>
      rw [List.count_cons_of_ne Turn.noConfusion, List.filterMap_cons_none rfl]
      exact ih sending.writing hearing.writing foreign.2
    | other operation =>
      rw [List.count_cons_of_ne Turn.noConfusion]
      have rest := ih (sending.other foreign.1) (hearing.other foreign.1) foreign.2
      cases told : (Turn.other operation).news? bus.attach.1 with
      | none =>
        rw [told, Option.toList_none, List.append_nil] at rest
        rw [List.filterMap_cons_none told]
        exact rest
      | some notification =>
        rw [told, Option.toList_some, List.append_assoc, List.singleton_append] at rest
        rw [List.filterMap_cons_some told]
        exact rest

theorem keeps_run (text : String) (bus : Bus) {before : List Bus.Operation} {turns : List Turn}
    (foreign : ∀ turn ∈ before.map Turn.other ++ turns, turn.IsForeign bus.attach.1) :
    Sending text bus [.connected] (turns.count .reading) (.run text bus before turns) ∧
      Hearing bus ((before.map Turn.other ++ turns).filterMap (·.news? bus.attach.1))
        (.run text bus before turns) := by
  rw [List.forall_mem_append] at foreign
  obtain ⟨sending, hearing⟩ := keeps_afterAll (.of_coming text bus) (.of_coming text bus) foreign.1
  have none : (before.map Turn.other).count .reading = 0 :=
    List.count_eq_zero.2 (by simp)
  rw [none] at sending
  have rest := keeps_afterAll sending.announced hearing.announced foreign.2
  rwa [Nat.zero_add, List.nil_append, ← List.filterMap_append] at rest

/-- Some of the notifications that a console was sent, and the lines in which it wrote them. -/
structure IsPrinted (news printed : List Notification) (output : List Char) : Prop where
  first : printed <+: news
  text : output = printed.flatMap fun notification =>
    (notificationFormat.write notification).toList ++ ['\n']
  read : (lines output).map (fun line => notificationFormat.read? (String.ofList line)) =
    printed.map some

theorem isPrinted_written {news printed : List Notification} (first : printed <+: news) :
    IsPrinted news printed (printed.flatMap written) := by
  refine ⟨first, ?_, read?_lines_written printed⟩
  refine List.flatMap_congr fun notification _ => ?_
  exact congrArg (· ++ ['\n']) String.toList_ofList.symm

/-- Whatever is typed, and in whatever order the console reads, it writes and others act: as long as
the queue is open, what the console has added to it is that it is connected and the commands that
the lines it has read spell, in their order, and it does not quit before it has read all lines. Its
output is a line for each of the first notifications that it was sent, and the lines are read back
as these; the other ones wait until the console quits, and the first of them is written next. -/
theorem keeps_framing (text : String) (bus : Bus) (before : List Bus.Operation)
    (turns : List Turn)
    (foreign : ∀ turn ∈ before.map Turn.other ++ turns, turn.IsForeign bus.attach.1) :
    let id := bus.attach.1
    let news := (before.map Turn.other ++ turns).filterMap (·.news? id)
    let stage := Stage.run text bus before turns
    (stage.bus.closed = false →
      (∃ added, stage.queued = bus.queue ++ added ∧
        added.filter (·.sender = id) =
          (.connected :: ((lines text.toList).take (turns.count .reading)).filterMap spelled?).map
            (Envelope.mk id)) ∧
      (stage.console.isOpen = false → (lines text.toList).length < turns.count .reading)) ∧
    ∃ printed, IsPrinted news printed stage.console.output ∧
      (stage.console.isOpen = true → printed ++ stage.box.waiting = news ∧
        IsPrinted news (printed ++ stage.box.waiting.head?.toList)
          (stage.after .writing).console.output) := by
  intro id news stage
  obtain ⟨sending, hearing⟩ := keeps_run text bus foreign
  refine ⟨fun still => ⟨?_, fun quit => ?_⟩, stage.box.delivered.take stage.box.read, ?_, ?_⟩
  · have spells : spelled? = command? := (funext command?_eq).symm
    rw [spells]
    exact sending.queued still
  · exact (sending.quit quit).resolve_left fun closed => absurd (closed.symm.trans still) nofun
  · rw [hearing.flows.output]
    exact isPrinted_written ((List.take_prefix _ _).trans hearing.flows.delivered)
  · intro isOpen
    have whole : stage.box.delivered.take stage.box.read ++ stage.box.waiting = news :=
      (List.take_append_drop _ _).trans (hearing.flows.heard isOpen)
    refine ⟨whole, ?_⟩
    have first : stage.box.waiting.head?.toList <+: stage.box.waiting := by
      cases stage.box.waiting <;> simp
    have next : (stage.after .writing).console.output =
        (stage.box.delivered.take stage.box.read ++ stage.box.waiting.head?.toList).flatMap
          written := by
      rw [Stage.after, writeNext_eq, if_pos isOpen, List.flatMap_append, ← hearing.flows.output]
      rfl
    rw [next]
    refine isPrinted_written ?_
    rw [← whole]
    exact (List.prefix_append_right_inj _).2 first

/-- A blank line, one that spells nothing, a command between blanks, and one that no line break
ends; another consumer sends a command first, and a theme with a line break is sent to all. -/
theorem keeps_framing_of_spoiled :
    let bus := Bus.empty.attach.2
    let text := "\nnot json\n \x7b\"message\":\"set-wasm\",\"enabled\":true\x7d \r\n[\"get-theme\"]"
    let before : List Bus.Operation := [.broadcast (.theme "a\nb"), .send 1 .getFlag]
    let turns : List Turn :=
      [.reading, .reading, .writing, .other .take, .reading, .other (.post 2 .unlocked), .reading]
    let stage := Stage.run text bus before turns
    (∀ turn ∈ before.map Turn.other ++ turns, turn.IsForeign 2) ∧
      stage.queued = [⟨1, .getFlag⟩, ⟨2, .connected⟩, ⟨2, .setFlag true⟩, ⟨2, .getTheme⟩] ∧
      (lines text.toList).filterMap spelled? = [.setFlag true, .getTheme] ∧
      String.ofList stage.console.output =
        "\x7b\"message\":\"theme\",\"theme\":\"a\\nb\"\x7d\n" ∧
      IsPrinted [.theme "a\nb", .unlocked] [.theme "a\nb"] stage.console.output := by
  intro bus text before turns stage
  have foreign : ∀ turn ∈ before.map Turn.other ++ turns, turn.IsForeign bus.attach.1 := by
    simp [before, turns, bus, Turn.IsForeign, Bus.attach, Bus.empty]
  obtain ⟨-, printed, written, -⟩ := keeps_framing text bus before turns foreign
  have read : (lines stage.console.output).map
      (fun line => notificationFormat.read? (String.ofList line)) = [some (.theme "a\nb")] := by
    decide +kernel
  have lone : printed = [.theme "a\nb"] :=
    (List.map_inj_right fun _ _ => Option.some.inj).1 (written.read.symm.trans read)
  exact ⟨foreign, by decide +kernel, by decide +kernel, by decide +kernel, lone ▸ written⟩

end Console

end SealGate.Shell
