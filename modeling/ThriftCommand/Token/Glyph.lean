/-
This file says what a command-line token is. A system hands a program its arguments as bytes, and
most of them decode to text. A token is read glyph by glyph: a glyph is a character, or a run of
stray bytes that decode to none. Flags are looked for in the characters that do decode, so one
stray run does not hide the characters around it; a value has to decode whole.
-/

namespace ThriftCommand

/-- A character, or a run of bytes that cannot be part of one. -/
inductive Glyph
  | char (c : Char)
  | stray (bytes : List UInt8)
  deriving DecidableEq, Repr

/-- An argument as the command line reads it. -/
abbrev Token := List Glyph

namespace Token

/-! ### Text and bytes -/

/-- The token that spells `chars`. -/
def ofChars (chars : List Char) : Token :=
  chars.map .char

/-- The token that spells `text`. -/
def ofString (text : String) : Token :=
  ofChars text.toList

/-- The characters of a token that holds nothing else. -/
def chars? : Token → Option (List Char)
  | [] => some []
  | .char c :: rest => (chars? rest).map (c :: ·)
  | .stray _ :: _ => none

/-- The text of a token without stray bytes. -/
def text? (token : Token) : Option String :=
  token.chars?.map String.ofList

/-- The token as a message shows it: the replacement character stands for each stray run. -/
def shown (token : Token) : List Char :=
  token.map fun
    | .char c => c
    | .stray _ => '\uFFFD'

/-- The bytes that the system handed over. -/
def toBytes (token : Token) : List UInt8 :=
  token.flatMap fun
    | .char c => String.utf8EncodeChar c
    | .stray bytes => bytes

theorem ofChars_append (first second : List Char) :
    ofChars (first ++ second) = ofChars first ++ ofChars second :=
  List.map_append

theorem ofChars_inj {first second : List Char} :
    ofChars first = ofChars second ↔ first = second :=
  List.map_inj_right fun _ _ => Glyph.char.inj

theorem chars?_ofChars (chars : List Char) : chars? (ofChars chars) = some chars := by
  induction chars with
  | nil => rfl
  | cons c rest inductionHypothesis =>
    change (chars? (ofChars rest)).map (c :: ·) = _
    rw [inductionHypothesis]
    rfl

/-- A token spells `chars` exactly when it decodes to them. -/
theorem chars?_eq_some_iff {token : Token} {chars : List Char} :
    chars? token = some chars ↔ token = ofChars chars := by
  constructor
  · intro decoded
    induction token generalizing chars with
    | nil =>
      simp only [chars?, Option.some.injEq] at decoded
      exact decoded ▸ rfl
    | cons glyph rest inductionHypothesis =>
      cases glyph with
      | stray bytes => simp [chars?] at decoded
      | char c =>
        obtain ⟨later, laterDecoded, rfl⟩ := Option.map_eq_some_iff.mp decoded
        rw [inductionHypothesis laterDecoded]
        rfl
  · rintro rfl
    exact chars?_ofChars chars

theorem ofString_inj {first second : String} :
    ofString first = ofString second ↔ first = second :=
  ofChars_inj.trans String.toList_inj

theorem text?_ofString (text : String) : text? (ofString text) = some text := by
  simp [text?, ofString, chars?_ofChars]

/-- A token has the text `text` exactly when it spells it. -/
theorem text?_eq_some_iff {token : Token} {text : String} :
    text? token = some text ↔ token = ofString text := by
  constructor
  · intro decoded
    obtain ⟨chars, charsDecoded, rfl⟩ := Option.map_eq_some_iff.mp decoded
    rw [chars?_eq_some_iff.mp charsDecoded, ofString, String.toList_ofList]
  · rintro rfl
    exact text?_ofString text

/-! ### Shapes -/

/-- What a token can be where a flag may stand. -/
inductive Shape
  /-- No flag: the token is a lone dash or does not start with one. -/
  | operand
  /-- Two dashes and nothing else, which end the flags. -/
  | terminator
  /-- Two dashes and what follows them. -/
  | long (body : Token)
  /-- One dash and at least one glyph after it. -/
  | letters (body : Token)
  deriving DecidableEq, Repr

/-- The shape of a token, by its dashes. -/
def shape : Token → Shape
  | [.char '-', .char '-'] => .terminator
  | .char '-' :: .char '-' :: body => .long body
  | .char '-' :: glyph :: rest => .letters (glyph :: rest)
  | _ => .operand

theorem shape_long (c : Char) (rest : List Char) :
    shape (ofChars ('-' :: '-' :: c :: rest)) = .long (ofChars (c :: rest)) :=
  rfl

theorem shape_letters {c : Char} (single : c ≠ '-') (rest : List Char) :
    shape (ofChars ('-' :: c :: rest)) = .letters (ofChars (c :: rest)) := by
  simp [shape, ofChars, single]

/-- The shape of a token that decodes, with the characters that give it. -/
theorem shape_ofChars_cases (chars : List Char) :
    (shape (ofChars chars) = .operand ∧ (chars = ['-'] ∨ chars.head? ≠ some '-')) ∨
      (shape (ofChars chars) = .terminator ∧ chars = ['-', '-']) ∨
      (∃ c rest, shape (ofChars chars) = .long (ofChars (c :: rest)) ∧
        chars = '-' :: '-' :: c :: rest) ∨
      ∃ c rest, shape (ofChars chars) = .letters (ofChars (c :: rest)) ∧
        chars = '-' :: c :: rest ∧ c ≠ '-' := by
  match chars with
  | [] => exact Or.inl ⟨rfl, Or.inr (by simp)⟩
  | [first] =>
    by_cases dash : first = '-'
    · exact Or.inl ⟨dash ▸ rfl, Or.inl (dash ▸ rfl)⟩
    · exact Or.inl ⟨by simp [shape, ofChars], Or.inr (by simp [dash])⟩
  | first :: second :: rest =>
    by_cases dash : first = '-'
    · subst dash
      by_cases double : second = '-'
      · subst double
        cases rest with
        | nil => exact Or.inr (Or.inl ⟨rfl, rfl⟩)
        | cons c rest => exact Or.inr (Or.inr (Or.inl ⟨c, rest, rfl, rfl⟩))
      · exact Or.inr (Or.inr (Or.inr ⟨second, rest, shape_letters double rest, rfl, double⟩))
    · exact Or.inl ⟨by simp [shape, ofChars, dash], Or.inr (by simp [dash])⟩

end Token

end ThriftCommand
