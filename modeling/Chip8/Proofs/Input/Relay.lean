import Chip8.Input.Any
import Chip8.Proofs.Input.Holds
import Chip8.Proofs.Input.Reads
import Mathlib.Data.List.TakeWhile

/-! # From the reader to the polls

A reader and polls share a queue. The reader deals with one character on each of its turns, and a
poll may come between any two of them. Whatever the order of the turns, keys come out of the queue
in the order in which their characters were typed. Keys are lost to a full queue only, and the mark
for quitting is never lost: a reader that finds the queue full waits for a poll to empty it.

The input of a terminal is always one that a relay reached.
-/

namespace Chip8

open Typing (asksToQuit keyFor? keysIn queueCapacity takeKeys takenFrom Reads)

/-! ### Turns -/

/-- A character that was read, and how many items were queued then. -/
structure Reading where
  character : Int
  queued : Nat
deriving DecidableEq, Repr

/-- What a poll found, what it left of the queue, and whether it asked to quit. -/
structure Poll (τ : Type) where
  round : Typing.Round τ
  left : List TypedItem
  quit : Bool
deriving DecidableEq, Repr

/-- The items that a poll took. -/
def Poll.taken {τ : Type} (poll : Poll τ) : List TypedItem :=
  poll.round.queue.take (poll.round.queue.length - poll.left.length)

/-- The input of a terminal, and what its reader and the polls did so far. -/
structure Relay (τ : Type) extends TerminalInput τ where
  readings : List Reading := []
  /-- Items that the reader put into the queue. -/
  put : List TypedItem := []
  polls : List (Poll τ) := []

namespace Relay

variable {τ : Type}

def start [TimeScale τ] (keymap : Keymap) (typed : List Int) : Relay τ where
  toTerminalInput := .start keymap typed

/-- The relay whose reader went into a state and added items to the queue. -/
def putting (relay : Relay τ) (reader : ReaderState) (items : List TypedItem) : Relay τ :=
  { relay with
    reader
    typing := { relay.typing with queue := relay.typing.queue ++ items }
    put := relay.put ++ items }

/-- The relay whose reader took the next character. -/
def taking (relay : Relay τ) (character : Int) : Relay τ :=
  { relay with
    unread := relay.unread.tail
    readings := relay.readings ++ [⟨character, relay.typing.queue.length⟩] }

/-- A turn of the reader. -/
def read (relay : Relay τ) : Relay τ :=
  let input := relay.toTerminalInput.read
  let read := relay.unread.take (relay.unread.length - input.unread.length)
  { toTerminalInput := input
    readings := relay.readings ++ read.map fun character => ⟨character, relay.typing.queue.length⟩
    put := relay.put ++ input.typing.queue.drop relay.typing.queue.length
    polls := relay.polls }

def poll [TimeScale τ] (now : τ) (keypad : Keypad) (relay : Relay τ) : Relay τ :=
  let (quit, _, input) := relay.toTerminalInput.poll now keypad
  { relay with
    toTerminalInput := input
    polls := relay.polls ++ [⟨⟨relay.typing.queue, keypad, now⟩, input.typing.queue, quit⟩] }

/-- Whose turn it is. -/
inductive Turn (τ : Type) where
  | reader
  /-- A poll at a time, with the keypad as it is then. -/
  | poll (now : τ) (keypad : Keypad)

def turn [TimeScale τ] (relay : Relay τ) : Turn τ → Relay τ
  | .reader => relay.read
  | .poll now keypad => relay.poll now keypad

def run [TimeScale τ] (relay : Relay τ) (turns : List (Turn τ)) : Relay τ := turns.foldl turn relay

/-- The items that polls took. -/
def taken (relay : Relay τ) : List TypedItem := relay.polls.flatMap Poll.taken

/-- What a turn of the reader may do. -/
inductive Acts (relay : Relay τ) : Relay τ → Prop
  | idles : Acts relay relay
  | stops (reading : relay.reader = .reading) : Acts relay (relay.putting .ended [])
  | marks (waits : relay.reader = .waiting) (room : relay.typing.queue.length < queueCapacity) :
      Acts relay (relay.putting .ended [.quit])
  | reads {character : Int} {rest : List Int} {state : ReaderState} {items : List TypedItem}
      (reading : relay.reader = .reading) (unread : relay.unread = character :: rest)
      (reads : Reads relay.typing.keymap relay.typing.queue.length character state items) :
      Acts relay ((relay.taking character).putting state items)

variable {relay : Relay τ}

/-- A turn that takes no character. -/
theorem read_of_putting {state : ReaderState} {items : List TypedItem}
    (left : relay.toTerminalInput.read = (relay.putting state items).toTerminalInput) :
    relay.read = relay.putting state items := by
  simp [read, left, putting]

/-- A turn that takes a character. -/
theorem read_of_taking {character : Int} {rest : List Int} {state : ReaderState}
    {items : List TypedItem} (unread : relay.unread = character :: rest)
    (left : relay.toTerminalInput.read =
      ((relay.taking character).putting state items).toTerminalInput) :
    relay.read = (relay.taking character).putting state items := by
  simp [read, left, putting, taking, unread]

theorem read_of_idle (idle : relay.toTerminalInput.read = relay.toTerminalInput) :
    relay.read = relay := by
  simp [read, idle]

theorem acts_read (relay : Relay τ) : relay.Acts relay.read := by
  have turn : relay.toTerminalInput.read = relay.toTerminalInput.read := rfl
  conv_rhs at turn => rw [TerminalInput.read]
  split at turn
  · rw [read_of_idle turn]
    exact .idles
  · rw [read_of_idle turn]
    exact .idles
  · next waits =>
    split at turn
    · next room =>
      rw [read_of_putting turn]
      exact .marks waits room
    · rw [read_of_idle turn]
      exact .idles
  · next reading =>
    split at turn
    · rw [@read_of_putting _ relay .ended [] (by simpa [putting] using turn)]
      exact .stops reading
    · split at turn
      · rw [read_of_idle turn]
        exact .idles
      · next character rest unread =>
        split at turn
        · next fault failed =>
          rw [@read_of_taking _ relay character rest (.failed fault) [] unread
            (by simpa [putting, taking, unread] using turn)]
          exact .reads reading unread (Typing.reads_of_error failed)
        · next state queue ran =>
          obtain ⟨items, rfl, reads⟩ := Typing.reads_of_ok ran
          rw [@read_of_taking _ relay character rest state items unread
            (by simpa [putting, taking, unread] using turn)]
          exact .reads reading unread reads

/-- The reader neither polls nor holds keys. -/
theorem Acts.frame {next : Relay τ} (acts : relay.Acts next) :
    next.polls = relay.polls ∧ next.typing.heldUntil = relay.typing.heldUntil := by
  cases acts <;> exact ⟨rfl, rfl⟩

/-- A reader that read a character that asks to quit leaves its mark where there is room. -/
theorem read_of_room (paused : relay.reader = .waiting ∨ relay.reader = .ended)
    (room : relay.typing.queue = []) :
    relay.read.reader = .ended ∧ relay.read.readings = relay.readings := by
  rcases paused with reader | reader
  · simp [read, TerminalInput.read, reader, room, queueCapacity]
  · simp [read, TerminalInput.read, reader]

theorem typing_poll [TimeScale τ] (now : τ) (keypad : Keypad) (relay : Relay τ) :
    (relay.poll now keypad).typing = (relay.typing.poll now keypad).2.2 := rfl

/-- A poll leaves the reader where it is. -/
theorem poll_frame [TimeScale τ] (now : τ) (keypad : Keypad) (relay : Relay τ) :
    (relay.poll now keypad).reader = relay.reader ∧
      (relay.poll now keypad).readings = relay.readings := ⟨rfl, rfl⟩

end Relay

/-! ### What was read, put and taken -/

namespace Reading

def asks (reading : Reading) : Bool := asksToQuit reading.character

def foundRoom (reading : Reading) : Bool := reading.queued < queueCapacity

def key? (keymap : Keymap) (reading : Reading) : Option Key := keyFor? keymap reading.character

end Reading

namespace Relay

variable {τ : Type} {keymap : Keymap} {typed : List Int} {relay : Relay τ}

/-- What was read before the first character that asks to quit. -/
def beforeQuit (readings : List Reading) : List Reading :=
  readings.takeWhile fun reading => !reading.asks

/-- The keys of the characters that found room. -/
def handedOn (keymap : Keymap) (readings : List Reading) : List Key :=
  ((beforeQuit readings).filter Reading.foundRoom).filterMap (Reading.key? keymap)

/-- The mark for quitting, once the reader put it. -/
def marks (relay : Relay τ) : List TypedItem :=
  if relay.reader = .ended ∧ relay.readings.any Reading.asks = true then [.quit] else []

theorem marks_cases (relay : Relay τ) : relay.marks = [] ∨ relay.marks = [.quit] := by
  rw [marks]
  split
  · exact .inr rfl
  · exact .inl rfl

theorem nil_behind_mark {keys : List Key} {marks before after : List TypedItem}
    (marked : marks = [] ∨ marks = [.quit])
    (split : keys.map .key ++ marks = before ++ .quit :: after) : after = [] := by
  induction keys generalizing before with
  | nil =>
    cases before with
    | nil => rcases marked with rfl | rfl <;> cases split; rfl
    | cons item rest => rcases marked with rfl | rfl <;> simp at split
  | cons key keys ih =>
    cases before with
    | nil => cases split
    | cons item rest => exact ih (List.cons.inj split).2

theorem handedOn_append {readings : List Reading} (goesOn : readings.any Reading.asks = false)
    (latest : Reading) :
    handedOn keymap (readings ++ [latest]) =
      handedOn keymap readings ++ handedOn keymap [latest] := by
  have all : ∀ reading ∈ readings, (!reading.asks) = true := by
    intro reading member
    simpa using List.any_eq_false.mp goesOn reading member
  have whole : beforeQuit readings = readings := List.takeWhile_eq_self_iff.mpr all
  rw [handedOn, handedOn, handedOn, whole, beforeQuit, List.takeWhile_append_of_pos all,
    List.filter_append, List.filterMap_append]
  rfl

/-- What holds after any number of turns. -/
structure Consistent (keymap : Keymap) (typed : List Int) (relay : Relay τ) : Prop where
  bindings : relay.typing.keymap = keymap
  read : relay.readings.map Reading.character ++ relay.unread = typed
  bounded : relay.typing.queue.length ≤ queueCapacity
  full : ∀ reading ∈ relay.readings, reading.queued ≤ queueCapacity
  stops : ∀ reading ∈ relay.readings.dropLast, reading.asks = false
  kept : relay.put = relay.taken ++ relay.typing.queue
  put : relay.put = (handedOn keymap relay.readings).map .key ++ relay.marks
  reading : relay.reader = .reading → relay.readings.any Reading.asks = false
  waiting : relay.reader = .waiting → relay.readings.any Reading.asks = true
  failed : ∀ fault, relay.reader = .failed fault → relay.readings.any Reading.asks = false
  polls : ∀ poll ∈ relay.polls,
    poll.taken = poll.round.queue ∧ keysIn poll.taken = poll.round.keys ∧
      (poll.quit = true ↔ .quit ∈ poll.taken)

section Reads

variable {queued : Nat} {character : Int} {state : ReaderState} {items : List TypedItem}

theorem items_eq (reads : Reads keymap queued character state items) :
    items = (handedOn keymap [⟨character, queued⟩]).map .key ++
      if state = .ended ∧ asksToQuit character = true then [.quit] else [] := by
  cases reads with
  | quits asks room => simp [handedOn, beforeQuit, Reading.asks, asks]
  | waits asks full => simp [handedOn, beforeQuit, Reading.asks, asks]
  | puts goesOn room bound =>
    simp [handedOn, beforeQuit, Reading.asks, Reading.foundRoom, Reading.key?, goesOn, room, bound]
  | drops goesOn full =>
    simp [handedOn, beforeQuit, Reading.asks, Reading.foundRoom, goesOn, Nat.not_lt.mpr full]
  | ignores goesOn unbound | fails goesOn unbound =>
    cases room : decide (queued < queueCapacity) <;>
      simp [handedOn, beforeQuit, Reading.asks, Reading.foundRoom, Reading.key?, goesOn, room,
        unbound]

theorem length_items_le (reads : Reads keymap queued character state items)
    (bounded : queued ≤ queueCapacity) : queued + items.length ≤ queueCapacity := by
  cases reads with
  | quits asks room | puts goesOn room bound => exact room
  | waits | drops | ignores | fails => exact bounded

theorem asksToQuit_of_reading (reads : Reads keymap queued character .reading items) :
    asksToQuit character = false := by
  cases reads <;> assumption

theorem asksToQuit_of_waiting (reads : Reads keymap queued character .waiting items) :
    asksToQuit character = true := by
  cases reads
  assumption

theorem asksToQuit_of_failed {fault : LowerCase.Fault}
    (reads : Reads keymap queued character (.failed fault) items) :
    asksToQuit character = false := by
  cases reads
  assumption

end Reads

/-! ### Any number of turns -/

namespace Consistent

theorem start [TimeScale τ] (keymap : Keymap) (typed : List Int) :
    Consistent keymap typed (.start keymap typed : Relay τ) where
  bindings := rfl
  read := rfl
  bounded := Nat.zero_le _
  full := List.forall_mem_nil _
  stops := List.forall_mem_nil _
  kept := rfl
  put := rfl
  reading _ := rfl
  waiting := nofun
  failed := nofun
  polls := List.forall_mem_nil _

theorem acts (consistent : relay.Consistent keymap typed) {next : Relay τ}
    (acts : relay.Acts next) : next.Consistent keymap typed := by
  cases acts with
  | idles => exact consistent
  | stops reading =>
    have unmarked : relay.marks = [] := if_neg (by simp [reading])
    have still : (relay.putting .ended []).marks = [] :=
      if_neg (by simp [putting, consistent.reading reading])
    have put := consistent.put
    rw [unmarked] at put
    exact { consistent with
      bounded := by simpa [putting] using consistent.bounded
      kept := by simpa [putting, Relay.taken] using consistent.kept
      put := by
        rw [still]
        exact (List.append_nil _).trans put
      reading := nofun
      waiting := nofun
      failed := nofun }
  | marks waits room =>
    have asked := consistent.waiting waits
    have unmarked : relay.marks = [] := if_neg (by simp [waits])
    have marked : (relay.putting .ended [.quit]).marks = [.quit] := if_pos ⟨rfl, asked⟩
    have put := consistent.put
    rw [unmarked, List.append_nil] at put
    exact { consistent with
      bounded := by simpa [putting] using Nat.succ_le_of_lt room
      kept := by rw [putting, consistent.kept, List.append_assoc]; rfl
      put := by rw [marked, putting, put]
      reading := nofun
      waiting := nofun
      failed := nofun }
  | @reads character rest state items reading unread reads =>
    have goesOn := consistent.reading reading
    have unmarked : relay.marks = [] := if_neg (by simp [reading])
    have put := consistent.put
    rw [unmarked, List.append_nil] at put
    rw [consistent.bindings] at reads
    have asked : ((relay.taking character).putting state items).readings.any Reading.asks =
        asksToQuit character := by
      simp [putting, taking, goesOn, Reading.asks]
    exact {
      bindings := consistent.bindings
      read := by
        have read := consistent.read
        rw [unread] at read
        simp [putting, taking, unread, ← read]
      bounded := by
        rw [putting, List.length_append]
        exact length_items_le reads consistent.bounded
      full := by
        simp only [putting, taking, List.forall_mem_append, List.forall_mem_singleton]
        exact ⟨consistent.full, consistent.bounded⟩
      stops := by
        rw [putting, taking, List.dropLast_concat]
        simpa using goesOn
      kept := by
        rw [putting, taking, consistent.kept, List.append_assoc]
        rfl
      put := by
        rw [marks, asked, putting, taking, handedOn_append goesOn, List.map_append, put,
          List.append_assoc, ← items_eq reads]
      reading := by
        rintro rfl
        rw [asked]
        exact asksToQuit_of_reading reads
      waiting := by
        rintro rfl
        rw [asked]
        exact asksToQuit_of_waiting reads
      failed := by
        rintro fault rfl
        rw [asked]
        exact asksToQuit_of_failed reads
      polls := consistent.polls }

/-- The keys that polls took and the ones that are still queued. -/
theorem keys (consistent : relay.Consistent keymap typed) :
    keysIn relay.taken ++ keysIn relay.typing.queue = handedOn keymap relay.readings := by
  rw [← Typing.keysIn_append, ← consistent.kept, consistent.put, Typing.keysIn_append,
    Typing.keysIn_map_key]
  rcases relay.marks_cases with marks | marks <;> rw [marks] <;> exact List.append_nil _

theorem count_quit (consistent : relay.Consistent keymap typed) : relay.put.count .quit ≤ 1 := by
  rw [consistent.put, List.count_append, List.count_eq_zero.mpr (by simp)]
  rcases relay.marks_cases with marks | marks <;> rw [marks] <;> decide

/-- A character that asked to quit left its mark, unless the reader still waits to put it. -/
theorem quit_mem_put_iff (consistent : relay.Consistent keymap typed) :
    .quit ∈ relay.put ↔ relay.reader = .ended ∧ relay.readings.any Reading.asks = true := by
  rw [consistent.put, marks]
  by_cases marked : relay.reader = .ended ∧ relay.readings.any Reading.asks = true
  · rw [if_pos marked]
    exact iff_of_true (by simp) marked
  · rw [if_neg marked]
    exact iff_of_false (by simp) marked

theorem asked_iff (consistent : relay.Consistent keymap typed) :
    (∃ reading ∈ relay.readings, reading.asks = true) ↔
      .quit ∈ relay.put ∨ relay.reader = .waiting := by
  rw [consistent.quit_mem_put_iff, ← List.any_eq_true]
  cases reader : relay.reader with
  | reading => simp [consistent.reading reader]
  | waiting => simp [consistent.waiting reader]
  | ended => simp
  | failed fault => simp [consistent.failed fault reader]

/-- There is nothing behind a mark for quitting. -/
theorem behind_mark (consistent : relay.Consistent keymap typed) {before after : List TypedItem}
    (marked : relay.put = before ++ .quit :: after) : after = [] := by
  rw [consistent.put] at marked
  exact nil_behind_mark relay.marks_cases marked

/-- A poll empties the queue. -/
theorem left_eq_nil (consistent : relay.Consistent keymap typed) :
    (takeKeys relay.typing.queue).2.2 = [] := by
  cases quit : (takeKeys relay.typing.queue).2.1 with
  | false => exact Typing.left_eq_nil quit
  | true =>
    -- The mark that the poll stopped at is the last item that the reader ever put.
    have queue := Typing.takenFrom_append relay.typing.queue
    rw [takenFrom, quit, if_pos rfl, List.append_assoc] at queue
    have put : relay.put = (relay.taken ++ (takeKeys relay.typing.queue).1.map .key) ++
        .quit :: (takeKeys relay.typing.queue).2.2 := by
      rw [consistent.kept, List.append_assoc]
      exact congrArg (relay.taken ++ ·) queue.symm
    exact consistent.behind_mark put

theorem takenFrom_eq (consistent : relay.Consistent keymap typed) :
    takenFrom relay.typing.queue = relay.typing.queue := by
  have queue := Typing.takenFrom_append relay.typing.queue
  rwa [consistent.left_eq_nil, List.append_nil] at queue

theorem poll_eq [TimeScale τ] (consistent : relay.Consistent keymap typed) (now : τ)
    (keypad : Keypad) :
    relay.poll now keypad =
      { relay with
        typing := (relay.typing.poll now keypad).2.2
        polls := relay.polls ++
          [⟨⟨relay.typing.queue, keypad, now⟩, [], (takeKeys relay.typing.queue).2.1⟩] } := by
  rw [Relay.poll, TerminalInput.poll, Typing.poll_eq, consistent.left_eq_nil]

theorem queue_poll [TimeScale τ] (consistent : relay.Consistent keymap typed) (now : τ)
    (keypad : Keypad) : (relay.poll now keypad).typing.queue = [] := by
  rw [typing_poll, Typing.poll_eq]
  exact consistent.left_eq_nil

theorem poll [TimeScale τ] (consistent : relay.Consistent keymap typed) (now : τ)
    (keypad : Keypad) : (relay.poll now keypad).Consistent keymap typed := by
  have emptied := consistent.queue_poll now keypad
  have whole : ∀ quit, (⟨⟨relay.typing.queue, keypad, now⟩, [], quit⟩ : Poll τ).taken =
      relay.typing.queue := fun _ => List.take_length
  rw [consistent.poll_eq] at emptied ⊢
  exact { consistent with
    bindings := by rw [Typing.poll_eq]; exact consistent.bindings
    bounded := by rw [emptied]; exact Nat.zero_le _
    kept := by
      rw [emptied, List.append_nil, Relay.taken, List.flatMap_append, consistent.kept, Relay.taken]
      simp [whole]
    polls := by
      simp only [List.forall_mem_append, List.forall_mem_singleton]
      refine ⟨consistent.polls, whole _, ?_, ?_⟩
      · rw [whole, ← consistent.takenFrom_eq, Typing.keysIn_takenFrom, consistent.takenFrom_eq]
        rfl
      · rw [whole, ← Typing.quit_mem_takenFrom_iff, consistent.takenFrom_eq] }

theorem turn [TimeScale τ] (consistent : relay.Consistent keymap typed) (turn : Turn τ) :
    (relay.turn turn).Consistent keymap typed := by
  cases turn with
  | reader => exact consistent.acts relay.acts_read
  | poll now keypad => exact consistent.poll now keypad

theorem run [TimeScale τ] (consistent : relay.Consistent keymap typed) (turns : List (Turn τ)) :
    (relay.run turns).Consistent keymap typed := by
  -- One turn keeps everything in `Consistent`, so the relay is generalised over.
  induction turns generalizing relay with
  | nil => exact consistent
  | cons first rest ih => exact ih (consistent.turn first)

theorem sublist (consistent : relay.Consistent keymap typed) :
    (keysIn relay.taken).Sublist
      ((beforeQuit relay.readings).filterMap (Reading.key? keymap)) := by
  have handed : (keysIn relay.taken).Sublist (handedOn keymap relay.readings) := by
    rw [← consistent.keys]
    exact List.sublist_append_left _ _
  exact handed.trans (List.filter_sublist.filterMap _)

/-- Once a character that asks to quit was read, no more is needed for a poll to quit than a poll
that makes room, a turn of the reader and another poll. -/
theorem tells [TimeScale τ] (consistent : relay.Consistent keymap typed)
    (asked : ∃ reading ∈ relay.readings, reading.asks = true) (now later : τ)
    (keypad changed : Keypad) :
    ∃ poll ∈ (((relay.poll now keypad).read).poll later changed).polls, poll.quit = true := by
  have first := consistent.poll now keypad
  have paused : (relay.poll now keypad).reader = .waiting ∨
      (relay.poll now keypad).reader = .ended := by
    rw [(poll_frame now keypad relay).1]
    rw [← List.any_eq_true] at asked
    cases reader : relay.reader with
    | reading => exact absurd (consistent.reading reader) (by simp [asked])
    | waiting => exact .inl rfl
    | ended => exact .inr rfl
    | failed fault => exact absurd (consistent.failed fault reader) (by simp [asked])
  obtain ⟨ended, same⟩ := read_of_room paused (consistent.queue_poll now keypad)
  have read := first.acts (acts_read _)
  have last := read.poll later changed
  have marked : .quit ∈ ((relay.poll now keypad).read.poll later changed).put := by
    have asks := last.asked_iff.mp (by
      rw [(poll_frame later changed _).2, same, (poll_frame now keypad relay).2]
      exact asked)
    exact asks.resolve_right (by rw [(poll_frame later changed _).1, ended]; exact nofun)
  rw [last.kept, read.queue_poll, List.append_nil, taken, List.mem_flatMap] at marked
  obtain ⟨poll, member, taken⟩ := marked
  exact ⟨poll, member, (last.polls poll member).2.2.mpr taken⟩

end Consistent

/-- What becomes of the characters that were read, and of the mark for quitting. -/
structure InOrder [TimeScale τ] (keymap : Keymap) (typed : List Int) (relay : Relay τ) :
    Prop where
  read : relay.readings.map Reading.character ++ relay.unread = typed
  /-- Nothing is read behind a character that asks to quit. -/
  stops : ∀ reading ∈ relay.readings.dropLast, reading.asks = false
  bounded : relay.typing.queue.length ≤ queueCapacity
  /-- Polls take keys in the order in which their characters were read. -/
  ordered : (keysIn relay.taken).Sublist
    ((beforeQuit relay.readings).filterMap (Reading.key? keymap))
  /-- Every key whose character found room was taken or is still queued. -/
  complete : keysIn relay.taken ++ keysIn relay.typing.queue = handedOn keymap relay.readings
  /-- Characters that found no room found the queue full. -/
  full : ∀ reading ∈ relay.readings, reading.foundRoom = false → reading.queued = queueCapacity
  once : relay.put.count .quit ≤ 1
  last : ∀ before after, relay.put = before ++ .quit :: after → after = []
  marked : (∃ reading ∈ relay.readings, reading.asks = true) ↔
    .quit ∈ relay.put ∨ relay.reader = .waiting
  /-- Whatever was put into the queue is taken in the same order. -/
  kept : relay.put = relay.taken ++ relay.typing.queue
  /-- A poll takes all that it finds, holds the keys among it, and quits if it took the mark. -/
  polls : ∀ poll ∈ relay.polls,
    poll.taken = poll.round.queue ∧ keysIn poll.taken = poll.round.keys ∧
      (poll.quit = true ↔ .quit ∈ poll.taken)
  /-- Room for the mark and two more polls are enough for one of them to quit. -/
  told : (∃ reading ∈ relay.readings, reading.asks = true) →
    ∀ (now later : τ) (keypad changed : Keypad),
      ∃ poll ∈ (((relay.poll now keypad).read).poll later changed).polls, poll.quit = true

theorem Consistent.inOrder [TimeScale τ] (consistent : relay.Consistent keymap typed) :
    relay.InOrder keymap typed where
  read := consistent.read
  stops := consistent.stops
  bounded := consistent.bounded
  ordered := consistent.sublist
  complete := consistent.keys
  full := by
    intro reading member full
    have least : queueCapacity ≤ reading.queued := by simpa [Reading.foundRoom] using full
    exact Nat.le_antisymm (consistent.full reading member) least
  once := consistent.count_quit
  last _ _ := consistent.behind_mark
  marked := consistent.asked_iff
  kept := consistent.kept
  polls := consistent.polls
  told := consistent.tells

/-- However the turns of a reader and of polls are interleaved, the queue keeps its bound, keys are
taken in the order in which they were typed, only a full queue loses them, and the mark for
quitting comes last, once, and to a poll that then quits. -/
theorem relayed_in_order [TimeScale τ] (keymap : Keymap) (typed : List Int)
    (turns : List (Turn τ)) :
    ((start keymap typed : Relay τ).run turns).InOrder keymap typed :=
  ((Consistent.start keymap typed).run turns).inOrder

theorem run_append [TimeScale τ] (relay : Relay τ) (turns more : List (Turn τ)) :
    relay.run (turns ++ more) = (relay.run turns).run more := List.foldl_append

theorem run_reader [TimeScale τ] (relay : Relay τ) (turns : Nat) :
    (relay.run (List.replicate turns .reader)).toTerminalInput =
      relay.toTerminalInput.readOn turns := by
  induction turns generalizing relay with
  | zero => rfl
  | succ turns ih => exact ih relay.read

end Relay

/-! ### Inputs that a relay reached -/

/-- An input that turns of its reader and polls reached, from where nothing was typed yet. -/
def TerminalInput.Relayed {τ : Type} [TimeScale τ] (typed : List Int) (input : TerminalInput τ) :
    Prop :=
  ∃ keymap turns, input = ((Relay.start keymap typed).run turns).toTerminalInput

namespace TerminalInput.Relayed

variable {τ : Type} [TimeScale τ] {typed : List Int} {input : TerminalInput τ}

theorem start (keymap : Keymap) (typed : List Int) :
    (TerminalInput.start keymap typed : TerminalInput τ).Relayed typed :=
  ⟨keymap, [], rfl⟩

theorem readOn (relayed : input.Relayed typed) (turns : Nat) :
    (input.readOn turns).Relayed typed := by
  obtain ⟨keymap, before, rfl⟩ := relayed
  exact ⟨keymap, before ++ List.replicate turns .reader,
    by rw [Relay.run_append, Relay.run_reader]⟩

theorem poll (relayed : input.Relayed typed) (now : τ) (keypad : Keypad) :
    (input.poll now keypad).2.2.Relayed typed := by
  obtain ⟨keymap, before, rfl⟩ := relayed
  exact ⟨keymap, before ++ [.poll now keypad], by rw [Relay.run_append]; rfl⟩

end TerminalInput.Relayed

/-- The reader and the polls of a terminal took turns on what was typed. -/
def Input.Relayed {τ : Type} [TimeScale τ] (typed : List Int) : Input τ → Prop
  | .typing input _ => input.Relayed typed
  | _ => True

namespace Input.Relayed

variable {τ : Type} [TimeScale τ] {arrivals : Arrivals} {input : Input τ}

theorem launch {kind : FrontKind} {keymap : String}
    (opened : Input.launch kind keymap arrivals = .ok input) :
    input.Relayed arrivals.characters := by
  cases kind with
  | headless =>
    rw [Input.launch] at opened
    cases parsed : Keymap.parse false keymap <;> rw [parsed] at opened <;> cases opened
    exact trivial
  | window =>
    rw [Input.launch] at opened
    split at opened <;> cases opened
    exact trivial
  | terminal =>
    rw [Input.launch] at opened
    split at opened
    · cases opened
    · next keymap parsed =>
      have start := TerminalInput.Relayed.start (τ := τ) keymap arrivals.characters
      split at opened
      · cases opened
        exact start
      · dsimp only at opened
        split at opened
        · cases opened
        · cases opened
          exact start.readOn _

theorem poll {typed : List Int} (relayed : input.Relayed typed) (now : τ) (keypad : Keypad) :
    (input.poll now keypad).2.2.Relayed typed := by
  cases input with
  | headless keymap => exact trivial
  | window input => exact trivial
  | typing input turns =>
    exact (TerminalInput.Relayed.readOn relayed _).poll now keypad

end Input.Relayed

end Chip8
