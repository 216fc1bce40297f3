/-
This file reads messages about specifications back. Quoted text shows every character that it
quotes and where it ends: inside it a quote stands behind a backslash, and so does a backslash, so
the first quote that does not is the closing one. A reader undoes the quoting a character at a time,
whatever follows the closing quote. The words before, between and behind the quoted texts then tell
which error a message reports. So a message determines its error, whatever the texts that it quotes
are, and even if they imitate its words.
-/

import Mathlib.Data.List.Basic
import ThriftCommand.Compact.Error

namespace ThriftCommand

namespace Text

/-! ### Characters by number -/

/-- The value of a lower-case hexadecimal digit. -/
def digitValue? (c : Char) : Option Nat :=
  (List.range 16).find? fun digit => Nat.digitChar digit = c

theorem digitValue?_digitChar :
    ∀ digit < 16, digitValue? (Nat.digitChar digit) = some digit := by
  decide

theorem digitChar_ne_brace : ∀ digit < 16, Nat.digitChar digit ≠ '\x7d' := by
  decide

/-- The character that a backslash and this letter stand for. -/
def escapedBy? : Char → Option Char
  | '"' => some '"'
  | '\\' => some '\\'
  | '0' => some '\x00'
  | 't' => some '\t'
  | 'r' => some '\r'
  | 'n' => some '\n'
  | _ => none

/-! ### The reader -/

/-- Where a reader of quoted text stands. -/
inductive QuoteState
  /-- Between two characters of the text. -/
  | between
  /-- Behind a backslash. -/
  | escape
  /-- Behind a backslash and `u`. -/
  | brace
  /-- Inside braces, behind digits of this value. -/
  | digits (value : Nat)
  deriving DecidableEq, Repr

/-- What was read, with one character more before it. -/
def withFirst (c : Char) (read : Option (List Char × List Char)) :
    Option (List Char × List Char) :=
  read.map fun (text, rest) => (c :: text, rest)

/-- The text up to the closing quote, and what stands behind the quote. -/
def unquoteFrom : QuoteState → List Char → Option (List Char × List Char)
  | _, [] => none
  | .between, c :: rest =>
    if c = '"' then some ([], rest)
    else if c = '\\' then unquoteFrom .escape rest
    else withFirst c (unquoteFrom .between rest)
  | .escape, c :: rest =>
    if c = 'u' then unquoteFrom .brace rest
    else
      match escapedBy? c with
      | some original => withFirst original (unquoteFrom .between rest)
      | none => none
  | .brace, c :: rest => if c = '\x7b' then unquoteFrom (.digits 0) rest else none
  | .digits value, c :: rest =>
    if c = '\x7d' then withFirst (Char.ofNat value) (unquoteFrom .between rest)
    else
      match digitValue? c with
      | some digit => unquoteFrom (.digits (16 * value + digit)) rest
      | none => none

/-- The text in the quotes that these characters begin with, and what stands behind them. -/
def unquote? : List Char → Option (List Char × List Char)
  | '"' :: rest => unquoteFrom .between rest
  | _ => none

/-! ### Quoting and reading -/

theorem unquoteFrom_digitChar {digit : Nat} (small : digit < 16) (value : Nat)
    (rest : List Char) :
    unquoteFrom (.digits value) (Nat.digitChar digit :: rest) =
      unquoteFrom (.digits (16 * value + digit)) rest := by
  rw [unquoteFrom, if_neg (digitChar_ne_brace digit small), digitValue?_digitChar digit small]

/-- The digits of a number are read as that number: the last one is read last, behind the number
that the others have. -/
theorem unquoteFrom_toDigits (number : Nat) (rest : List Char) :
    unquoteFrom (.digits 0) (Nat.toDigits 16 number ++ rest) =
      unquoteFrom (.digits number) rest := by
  induction number using Nat.strongRecOn generalizing rest with
  | _ number inductionHypothesis =>
  rw [Nat.toDigits_eq_if (by decide)]
  split
  · rename_i oneDigit
    rw [List.singleton_append, unquoteFrom_digitChar oneDigit, Nat.mul_zero, Nat.zero_add]
  · rename_i moreDigits
    have front : number / 16 < number := Nat.div_lt_self (by omega) (by decide)
    have last : number % 16 < 16 := Nat.mod_lt _ (by decide)
    rw [List.append_assoc, inductionHypothesis _ front, List.singleton_append,
      unquoteFrom_digitChar last, Nat.div_add_mod]

theorem unquoteFrom_numbered (c : Char) (rest : List Char) :
    unquoteFrom .between (numbered c ++ rest) = withFirst c (unquoteFrom .between rest) := by
  have shown : numbered c ++ rest =
      '\\' :: 'u' :: '\x7b' :: (Nat.toDigits 16 c.toNat ++ '\x7d' :: rest) := by
    simp [numbered]
  have opened : unquoteFrom .between (numbered c ++ rest) =
      unquoteFrom (.digits 0) (Nat.toDigits 16 c.toNat ++ '\x7d' :: rest) := by
    rw [shown]
    rfl
  rw [opened, unquoteFrom_toDigits, unquoteFrom, if_pos rfl, Char.ofNat_toNat]

/-- What shows one character is read as that character, whatever follows. The table of the reader
undoes the short escapes, and a number stands for its character. -/
theorem unquoteFrom_escaped (c : Char) (rest : List Char) :
    unquoteFrom .between (escaped c ++ rest) = withFirst c (unquoteFrom .between rest) := by
  unfold escaped
  split
  case h_7 quote backslash _ _ _ _ =>
    split
    · exact unquoteFrom_numbered c rest
    · rw [List.singleton_append, unquoteFrom, if_neg quote, if_neg backslash]
  all_goals rfl

/-- What shows a text is read as that text, up to the quote behind it. -/
theorem unquoteFrom_flatMap_escaped (text rest : List Char) :
    unquoteFrom .between (text.flatMap escaped ++ '"' :: rest) = some (text, rest) := by
  induction text with
  | nil => rfl
  | cons c others inductionHypothesis =>
    rw [List.flatMap_cons, List.append_assoc, unquoteFrom_escaped, inductionHypothesis]
    rfl

/-- Quoted text ends at its closing quote and nowhere before, whatever follows. -/
theorem unquote?_quoted (text : String) (rest : List Char) :
    unquote? ((quoted text).toList ++ rest) = some (text.toList, rest) := by
  have shown : (quoted text).toList ++ rest =
      '"' :: (text.toList.flatMap escaped ++ '"' :: rest) := by
    simp [quoted]
  rw [shown]
  exact unquoteFrom_flatMap_escaped text.toList rest

/-! ### Words before quoted text -/

/-- The text in quotes behind these words, and what stands behind it. -/
def quotedAfter? (words line : String) : Option (String × String) :=
  match (line.toList.dropPrefix? words.toList).bind unquote? with
  | some (text, rest) => some (String.ofList text, String.ofList rest)
  | none => none

theorem quotedAfter?_append (words text back : String) :
    quotedAfter? words (words ++ quoted text ++ back) = some (text, back) := by
  have line : (words ++ quoted text ++ back).toList =
      words.toList ++ ((quoted text).toList ++ back.toList) := by
    simp
  rw [quotedAfter?, line, List.dropPrefix?_append_of_beq _ (beq_self_eq_true _),
    Option.bind_some, unquote?_quoted]
  dsimp only
  rw [String.ofList_toList, String.ofList_toList]

/-- A line does not begin with words that differ from its first ones. -/
theorem quotedAfter?_eq_none {words first : String} (shorter : ¬ words.toList <+: first.toList)
    (longer : ¬ first.toList <+: words.toList) (back : String) :
    quotedAfter? words (first ++ back) = none := by
  have unbegun : (first ++ back).toList.dropPrefix? words.toList = none := by
    rw [Option.eq_none_iff_forall_ne_some]
    intro rest dropped
    obtain ⟨begun, line, same⟩ := List.dropPrefix?_eq_some_iff.mp dropped
    rw [eq_of_beq same, String.toList_append] at line
    have wordsFirst : words.toList <+: first.toList ++ back.toList := ⟨rest, line.symm⟩
    exact (List.prefix_or_prefix_of_prefix wordsFirst (List.prefix_append _ _)).elim shorter longer
  rw [quotedAfter?, unbegun]
  rfl

end Text

/-! ### Messages -/

namespace SpecError

open Text

/-- The error that stands behind a quoted specification. -/
def ofVerdict? (spec verdict : String) : Option SpecError :=
  match quotedAfter? ": option " verdict with
  | some (key, closing) =>
    if closing = " given more than once" then some (.duplicateKey spec key) else none
  | none =>
    if verdict = ": missing name" then some (.missingName spec)
    else if verdict = ": empty option key" then some (.emptyKey spec)
    else none

/-- The error that stands behind the quoted value of an option. -/
def ofExpectation? (value expectation : String) : Option SpecError :=
  match quotedAfter? " for boolean option " expectation with
  | some (key, closing) =>
    if closing = ": expected true, false or empty" then some (.notBoolean key value) else none
  | none => none

/-- The error that a message reports. -/
def ofMessage? (message : String) : Option SpecError :=
  match quotedAfter? "invalid compact specification " message with
  | some (spec, verdict) => ofVerdict? spec verdict
  | none =>
    match quotedAfter? "invalid value " message with
    | some (value, expectation) => ofExpectation? value expectation
    | none => none

theorem ofMessage?_about_spec (spec verdict : String) :
    ofMessage? ("invalid compact specification " ++ quoted spec ++ verdict) =
      ofVerdict? spec verdict := by
  rw [ofMessage?, quotedAfter?_append]

/-- A message about a value does not begin as one about a specification. -/
theorem ofMessage?_about_value (value expectation : String) :
    ofMessage? ("invalid value " ++ quoted value ++ expectation) =
      ofExpectation? value expectation := by
  have unspecific : quotedAfter? "invalid compact specification "
      ("invalid value " ++ quoted value ++ expectation) = none := by
    rw [String.append_assoc]
    exact quotedAfter?_eq_none (by decide +kernel) (by decide +kernel) _
  rw [ofMessage?, unspecific, quotedAfter?_append]

theorem message_duplicateKey (spec key : String) :
    message (.duplicateKey spec key) =
      "invalid compact specification " ++ quoted spec ++
        (": option " ++ quoted key ++ " given more than once") := by
  show "invalid compact specification " ++ quoted spec ++ ": option " ++ quoted key ++
    " given more than once" = _
  simp only [String.append_assoc]

theorem message_notBoolean (key value : String) :
    message (.notBoolean key value) =
      "invalid value " ++ quoted value ++
        (" for boolean option " ++ quoted key ++ ": expected true, false or empty") := by
  show "invalid value " ++ quoted value ++ " for boolean option " ++ quoted key ++
    ": expected true, false or empty" = _
  simp only [String.append_assoc]

/-- Every message is read as the error that it reports. -/
theorem ofMessage?_message (error : SpecError) : ofMessage? error.message = some error := by
  cases error with
  | missingName spec =>
    have unrepeated : quotedAfter? ": option " ": missing name" = none := by decide +kernel
    show ofMessage? ("invalid compact specification " ++ quoted spec ++ ": missing name") = _
    rw [ofMessage?_about_spec, ofVerdict?, unrepeated]
    rfl
  | emptyKey spec =>
    have unrepeated : quotedAfter? ": option " ": empty option key" = none := by decide +kernel
    show ofMessage? ("invalid compact specification " ++ quoted spec ++ ": empty option key") = _
    rw [ofMessage?_about_spec, ofVerdict?, unrepeated]
    rfl
  | duplicateKey spec key =>
    rw [message_duplicateKey, ofMessage?_about_spec, ofVerdict?, quotedAfter?_append]
    exact if_pos rfl
  | notBoolean key value =>
    rw [message_notBoolean, ofMessage?_about_value, ofExpectation?, quotedAfter?_append]
    exact if_pos rfl

/-- A message determines the error that it reports: the reader gets every quoted text of it back,
whatever characters these texts have, so no two errors have one message. -/
theorem message_identifies :
    (∀ error : SpecError, ofMessage? error.message = some error) ∧
      Function.Injective message := by
  refine ⟨ofMessage?_message, fun first second same => ?_⟩
  have read : some first = some second := by
    rw [← ofMessage?_message first, same, ofMessage?_message second]
  exact Option.some.inj read

/-- This specification imitates the words of a message, and ends in a mark that would not show. -/
example :
    message (.emptyKey "go:a\": option \"\u0301") =
      "invalid compact specification \"go:a\\\": option \\\"\\u\x7b301\x7d\": " ++
        "empty option key" := by
  decide +kernel

end SpecError

end ThriftCommand
