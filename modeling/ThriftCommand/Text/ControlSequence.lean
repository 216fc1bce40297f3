/-
This file drops terminal control sequences from text, as a terminal would act on them instead of
showing them. One machine reads the text a character at a time. Outside a sequence it keeps
everything but the control characters, of which only the blank ones stay. An escape character
opens a sequence, which runs to its final character; cancel and substitute abandon it. The strings
that a terminal collects (device strings, operating system commands, messages) are dropped whole.

Two readers use the machine. They differ in what a blank control inside a sequence does: it ends
the sequence for good, or only suspends it until another control character comes.
-/

namespace ThriftCommand.Text

/-! ### The machine -/

/-- A sequence under way, by what it has taken so far. -/
inductive Sequence
  /-- The escape character alone. -/
  | escape
  /-- Escape and at least one intermediate character. -/
  | escapeIntermediate
  /-- A control sequence, opened by a bracket. -/
  | control
  /-- A device string that has no parameter yet. -/
  | deviceEntry
  /-- A device string in its parameters. -/
  | deviceParameter
  /-- A device string in its intermediate characters. -/
  | deviceIntermediate
  /-- The body of a device string, or a start-of-string, privacy or application message. -/
  | body
  /-- An operating system command, which the bell ends. -/
  | command
  deriving DecidableEq, Repr

/-- The sequence lets the terminal act on control characters inside it. -/
def Sequence.actsOnControls : Sequence → Bool
  | .escape | .escapeIntermediate | .control => true
  | _ => false

/-- What becomes of a sequence at an ASCII character; none when the character completes it. -/
def Sequence.next (sequence : Sequence) (c : Char) : Option Sequence :=
  let code := c.toNat
  if code < 0x20 ∨ code = 0x7F then
    if sequence = .command ∧ code = 0x07 then none else some sequence
  else
    match sequence with
    | .escape =>
      if code ≤ 0x2F then some .escapeIntermediate
      else if c = '[' then some .control
      else if c = ']' then some .command
      else if c = 'P' then some .deviceEntry
      else if c = 'X' ∨ c = '^' ∨ c = '_' then some .body
      else none
    | .escapeIntermediate => if code ≤ 0x2F then some .escapeIntermediate else none
    | .control => if code ≤ 0x3F then some .control else none
    | .deviceEntry =>
      if code ≤ 0x2F then some .deviceIntermediate
      else if code ≤ 0x3F then some .deviceParameter
      else some .body
    | .deviceParameter =>
      if code ≤ 0x2F then some .deviceIntermediate
      else if code ≤ 0x3B then some .deviceParameter
      else some .body
    | .deviceIntermediate => if code ≤ 0x2F then some .deviceIntermediate else some .body
    | .body => some .body
    | .command => some .command

/-- Where the machine stands between two characters. -/
inductive StripState
  /-- In plain text; a suspended sequence is taken up again at the next dropped control. -/
  | text (suspended : Option Sequence)
  /-- Inside a sequence. -/
  | inside (sequence : Sequence)
  deriving DecidableEq, Repr

/-- What a blank control inside a sequence does to the sequence. -/
inductive Interruption
  | ends
  | suspends
  deriving DecidableEq, Repr

/-- The state after a blank control that was kept inside `sequence`. -/
def Interruption.after : Interruption → Sequence → StripState
  | .ends, _ => .text none
  | .suspends, sequence => .text (some sequence)

/-- Control characters, which have no picture of their own. -/
def isControl (c : Char) : Bool :=
  c.toNat < 0x20 || c.toNat = 0x7F

/-- The control characters that are blanks: tab, line feed, form feed and carriage return. -/
def isBlankControl (c : Char) : Bool :=
  c = '\t' || c = '\n' || c = '\x0C' || c = '\r'

/-- A byte of the character's UTF-8 form is the one that terminates strings. -/
def holdsTerminator (c : Char) : Bool :=
  (String.utf8EncodeChar c).contains 0x9C

/-- The state after one character, and whether the text keeps the character. -/
def StripState.step (interruption : Interruption) (state : StripState) (c : Char) :
    StripState × Bool :=
  if c = '\x18' ∨ c = '\x1A' then (.text none, false)
  else if c = '\x1B' then (.inside .escape, false)
  else
    match state with
    | .text suspended =>
      if 0x80 ≤ c.toNat then (.text none, true)
      else if isControl c && !isBlankControl c then
        (suspended.elim (.text none) .inside, false)
      else (.text suspended, true)
    | .inside sequence =>
      if 0x80 ≤ c.toNat then
        (if sequence = .body ∧ holdsTerminator c then .text none else .inside sequence, false)
      else if sequence.actsOnControls && isBlankControl c then
        (interruption.after sequence, true)
      else ((sequence.next c).elim (.text none) .inside, false)

/-- The characters that stay, read from `state` on. -/
def StripState.strip (interruption : Interruption) : StripState → List Char → List Char
  | _, [] => []
  | state, c :: rest =>
    let (next, kept) := state.step interruption c
    if kept then c :: next.strip interruption rest else next.strip interruption rest

/-- Text without the terminal control sequences and the control characters that are not blanks. -/
def stripControls (interruption : Interruption) (text : List Char) : List Char :=
  (StripState.text none).strip interruption text

/-! ### Text without escape characters -/

/-- The character is kept outside a sequence: it is a blank, or no control character. -/
def isPrinted (c : Char) : Bool :=
  !isControl c || isBlankControl c

/-- Only an escape character takes the machine out of plain text. -/
theorem step_of_ne_escape (interruption : Interruption) {c : Char} (other : c ≠ '\x1B') :
    (StripState.text none).step interruption c = (.text none, isPrinted c) := by
  by_cases abandons : c = '\x18' ∨ c = '\x1A'
  · rw [StripState.step, if_pos abandons]
    rcases abandons with rfl | rfl <;> rfl
  · rw [StripState.step, if_neg abandons, if_neg other]
    split
    · rename_i large
      have visible : isControl c = false := by
        simp only [isControl, Bool.or_eq_false_iff, decide_eq_false_iff_not]
        omega
      rw [isPrinted, visible]
      rfl
    · rw [isPrinted]
      cases isControl c <;> cases isBlankControl c <;> rfl

/-- Text without escape characters loses its control characters but the blank ones, and nothing
else. -/
theorem stripControls_of_escapeless (interruption : Interruption) {text : List Char}
    (escapeless : '\x1B' ∉ text) : stripControls interruption text = text.filter isPrinted := by
  induction text with
  | nil => rfl
  | cons c rest inductionHypothesis =>
    obtain ⟨other, later⟩ := not_or.mp (mt List.mem_cons.mpr escapeless)
    have stays := step_of_ne_escape interruption (Ne.symm other)
    rw [stripControls, StripState.strip, stays, List.filter_cons]
    exact congrArg (fun kept => if isPrinted c then c :: kept else kept) (inductionHypothesis later)

end ThriftCommand.Text
