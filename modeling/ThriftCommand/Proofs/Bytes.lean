/-
This file proves that reading the bytes of an argument loses none of them, and that an argument
decodes to a text exactly when its bytes are the UTF-8 form of that text. Tokens can therefore
stand for the bytes that the system handed over: what is said of the one is said of the other.

An opened character promises more bytes. The invariant is that whichever bytes keep the promise,
the character that their bits spell has just these bytes, behind the ones that opened it.
-/

import ThriftCommand.Token.Decoding

namespace ThriftCommand.Token

/-! ### The bytes of a text -/

/-- The UTF-8 form of a text. -/
def utf8 (text : String) : List UInt8 :=
  text.toUTF8.data.toList

theorem utf8_eq_flatMap (text : String) :
    utf8 text = text.toList.flatMap String.utf8EncodeChar := by
  have bytes : text.toUTF8 = (text.toList.flatMap String.utf8EncodeChar).toByteArray := by
    rw [String.toUTF8_eq_toByteArray, ← String.ofList_toList (s := text),
      String.toByteArray_ofList, String.toList_ofList]
    rfl
  rw [utf8, bytes, List.data_toByteArray]

/-- A token that decodes has the bytes of its text. -/
theorem toBytes_ofString (text : String) : toBytes (ofString text) = utf8 text := by
  rw [utf8_eq_flatMap, ofString, ofChars, toBytes, List.flatMap_map]

theorem utf8_dash_append (text : String) : utf8 ("-" ++ text) = 0x2D :: utf8 text := by
  rw [utf8_eq_flatMap, utf8_eq_flatMap, String.toList_append]
  rfl

theorem utf8_injective {first second : String} (same : utf8 first = utf8 second) :
    first = second := by
  rw [← String.toByteArray_inj, ← String.toUTF8_eq_toByteArray, ← String.toUTF8_eq_toByteArray]
  exact ByteArray.ext (Array.toList_inj.mp same)

/-- A character is known by its bytes. -/
theorem utf8EncodeChar_injective {first second : Char}
    (same : String.utf8EncodeChar first = String.utf8EncodeChar second) : first = second := by
  have texts : String.ofList [first] = String.ofList [second] :=
    utf8_injective (by simp [utf8_eq_flatMap, same])
  simpa using congrArg String.toList texts

/-! ### The bytes of a number -/

theorem val_ofNat {code : Nat} (valid : code.isValidChar) :
    (Char.ofNat code).val.toNat = code := by
  rw [Char.ofNat, dif_pos valid]
  rfl

theorem utf8EncodeChar_ascii {byte : UInt8} (ascii : byte.toNat < 0x80) :
    String.utf8EncodeChar (Char.ofNat byte.toNat) = [byte] := by
  rw [String.utf8EncodeChar, val_ofNat (Or.inl (by omega)), if_pos (by omega), UInt8.ofNat_toNat]

theorem utf8EncodeChar_two {lead second : UInt8} {code : Nat}
    (spelled : code = (lead.toNat - 0xC0) * 64 + (second.toNat - 0x80))
    (opens : 0xC2 ≤ lead.toNat ∧ lead.toNat ≤ 0xDF)
    (continues : 0x80 ≤ second.toNat ∧ second.toNat ≤ 0xBF) :
    String.utf8EncodeChar (Char.ofNat code) = [lead, second] := by
  rw [String.utf8EncodeChar, val_ofNat (Or.inl (by omega)), if_neg (by omega), if_pos (by omega)]
  simp only [List.cons.injEq, and_true, ← UInt8.toNat_inj, UInt8.toNat_ofNat']
  omega

theorem utf8EncodeChar_three {lead second third : UInt8} {code : Nat}
    (spelled : code = ((lead.toNat - 0xE0) * 64 + (second.toNat - 0x80)) * 64 +
      (third.toNat - 0x80))
    (opens : 0xE0 ≤ lead.toNat ∧ lead.toNat ≤ 0xEF)
    (continues : 0x80 ≤ second.toNat ∧ second.toNat ≤ 0xBF)
    (ends : 0x80 ≤ third.toNat ∧ third.toNat ≤ 0xBF)
    (long : 0x800 ≤ code) (noSurrogate : code < 0xD800 ∨ 0xDFFF < code) :
    String.utf8EncodeChar (Char.ofNat code) = [lead, second, third] := by
  have valid : code.isValidChar := by unfold Nat.isValidChar; omega
  rw [String.utf8EncodeChar, val_ofNat valid, if_neg (by omega), if_neg (by omega),
    if_pos (by omega)]
  simp only [List.cons.injEq, and_true, ← UInt8.toNat_inj, UInt8.toNat_ofNat']
  omega

theorem utf8EncodeChar_four {lead second third fourth : UInt8} {code : Nat}
    (spelled : code = (((lead.toNat - 0xF0) * 64 + (second.toNat - 0x80)) * 64 +
      (third.toNat - 0x80)) * 64 + (fourth.toNat - 0x80))
    (opens : 0xF0 ≤ lead.toNat ∧ lead.toNat ≤ 0xF4)
    (continues : 0x80 ≤ second.toNat ∧ second.toNat ≤ 0xBF)
    (goesOn : 0x80 ≤ third.toNat ∧ third.toNat ≤ 0xBF)
    (ends : 0x80 ≤ fourth.toNat ∧ fourth.toNat ≤ 0xBF)
    (long : 0x10000 ≤ code) (last : code < 0x110000) :
    String.utf8EncodeChar (Char.ofNat code) = [lead, second, third, fourth] := by
  have valid : code.isValidChar := by unfold Nat.isValidChar; omega
  rw [String.utf8EncodeChar, val_ofNat valid, if_neg (by omega), if_neg (by omega),
    if_neg (by omega)]
  simp only [List.cons.injEq, and_true, ← UInt8.toNat_inj, UInt8.toNat_ofNat']
  omega

/-! ### What an opened character promises -/

/-- These bytes keep the promise: the first one lies where it may, the others carry six bits each,
and there are as many of them as are owed. -/
def Opened.Kept (opened : Opened) : List UInt8 → Prop
  | [] => False
  | byte :: tail =>
    (opened.low ≤ byte.toNat ∧ byte.toNat ≤ opened.high) ∧ tail.length = opened.owed ∧
      ∀ other ∈ tail, 0x80 ≤ other.toNat ∧ other.toNat ≤ 0xBF

/-- The number that the bits of an opened character and of these bytes spell. -/
def Opened.code (opened : Opened) (tail : List UInt8) : Nat :=
  tail.foldl (fun value byte => value * 64 + (byte.toNat - 0x80)) opened.value

/-- Whichever bytes keep the promise, the character has just these bytes. -/
def Opened.Sound (opened : Opened) : Prop :=
  ∀ tail, opened.Kept tail →
    String.utf8EncodeChar (Char.ofNat (opened.code tail)) = opened.bytes ++ tail

theorem Opened.sound_two {lead : UInt8} (opens : 0xC2 ≤ lead.toNat ∧ lead.toNat ≤ 0xDF) :
    (Opened.mk [lead] (lead.toNat - 0xC0) 0x80 0xBF 0).Sound := by
  intro tail kept
  match tail, kept with
  | [second], ⟨continues, _, _⟩ => exact utf8EncodeChar_two rfl opens continues

theorem Opened.sound_three {lead : UInt8} {value low high : Nat}
    (spelled : value = lead.toNat - 0xE0) (opens : 0xE0 ≤ lead.toNat ∧ lead.toNat ≤ 0xEF)
    (within : 0x80 ≤ low ∧ high ≤ 0xBF) (long : lead.toNat = 0xE0 → 0xA0 ≤ low)
    (noSurrogate : lead.toNat = 0xED → high ≤ 0x9F) :
    (Opened.mk [lead] value low high 1).Sound := by
  intro tail kept
  match tail, kept with
  | [second, third], ⟨inRange, _, others⟩ =>
    have ends := others third List.mem_cons_self
    dsimp only at inRange
    refine utf8EncodeChar_three (by rw [← spelled]; rfl) opens (by omega) ends ?_ ?_
    · simp only [code, List.foldl_cons, List.foldl_nil]
      omega
    · simp only [code, List.foldl_cons, List.foldl_nil]
      omega

theorem Opened.sound_four {lead : UInt8} {value low high : Nat}
    (spelled : value = lead.toNat - 0xF0) (opens : 0xF0 ≤ lead.toNat ∧ lead.toNat ≤ 0xF4)
    (within : 0x80 ≤ low ∧ high ≤ 0xBF) (long : lead.toNat = 0xF0 → 0x90 ≤ low)
    (last : lead.toNat = 0xF4 → high ≤ 0x8F) :
    (Opened.mk [lead] value low high 2).Sound := by
  intro tail kept
  match tail, kept with
  | [second, third, fourth], ⟨inRange, _, others⟩ =>
    have goesOn := others third List.mem_cons_self
    have ends := others fourth (List.mem_cons_of_mem _ List.mem_cons_self)
    dsimp only at inRange
    refine utf8EncodeChar_four (by rw [← spelled]; rfl) opens (by omega) goesOn ends ?_ ?_
    · simp only [code, List.foldl_cons, List.foldl_nil]
      omega
    · simp only [code, List.foldl_cons, List.foldl_nil]
      omega

/-- A first byte opens a character that it keeps its promise for. -/
theorem Opened.sound_of_ofByte? {byte : UInt8} {opened : Opened}
    (opens : Opened.ofByte? byte = some opened) : opened.Sound ∧ opened.bytes = [byte] := by
  simp only [Opened.ofByte?] at opens
  repeat' split at opens
  all_goals cases opens
  · exact ⟨sound_two ‹_›, rfl⟩
  · exact ⟨sound_three (by omega) (by omega) (by omega) (by omega) (by omega), rfl⟩
  · exact ⟨sound_three (by omega) (by omega) (by omega) (by omega) (by omega), rfl⟩
  · exact ⟨sound_three (by omega) (by omega) (by omega) (by omega) (by omega), rfl⟩
  · exact ⟨sound_four (by omega) (by omega) (by omega) (by omega) (by omega), rfl⟩
  · exact ⟨sound_four (by omega) (by omega) (by omega) (by omega) (by omega), rfl⟩
  · exact ⟨sound_four (by omega) (by omega) (by omega) (by omega) (by omega), rfl⟩

/-! ### No byte is lost -/

theorem toBytes_append (first second : Token) :
    toBytes (first ++ second) = toBytes first ++ toBytes second :=
  List.flatMap_append

theorem toBytes_char (c : Char) (rest : Token) :
    toBytes (.char c :: rest) = String.utf8EncodeChar c ++ toBytes rest :=
  rfl

theorem toBytes_stray (bytes : List UInt8) (rest : Token) :
    toBytes (.stray bytes :: rest) = bytes ++ toBytes rest :=
  rfl

/-- The bytes of the character that is left open. -/
def pending : Option Opened → List UInt8
  | none => []
  | some opened => opened.bytes

/-- The glyphs and the character left open account for these bytes, and the promise stands. -/
structure AccountsFor (bytes : List UInt8) (decoded : Token × Option Opened) : Prop where
  bytes_eq : toBytes decoded.1 ++ pending decoded.2 = bytes
  sound : ∀ opened, decoded.2 = some opened → opened.Sound

theorem accountsFor_beginAt (byte : UInt8) : AccountsFor [byte] (beginAt byte) := by
  unfold beginAt
  split
  · rename_i ascii
    refine ⟨?_, by simp⟩
    rw [toBytes_char, utf8EncodeChar_ascii ascii]
    rfl
  · split
    · rename_i opened opens
      obtain ⟨sound, bytes⟩ := Opened.sound_of_ofByte? opens
      exact ⟨bytes, fun other same => Option.some.inj same ▸ sound⟩
    · exact ⟨rfl, by simp⟩

section

variable {opened : Opened} {byte : UInt8}

theorem decodeByte_completed (inRange : opened.low ≤ byte.toNat ∧ byte.toNat ≤ opened.high)
    (last : opened.owed = 0) :
    decodeByte (some opened) byte = ([.char (Char.ofNat (opened.code [byte]))], none) := by
  rw [decodeByte, if_pos inRange, last]
  rfl

/-- The character after one more of its bytes. -/
def Opened.next (opened : Opened) (byte : UInt8) (owed : Nat) : Opened :=
  ⟨opened.bytes ++ [byte], opened.code [byte], 0x80, 0xBF, owed⟩

theorem decodeByte_continued (inRange : opened.low ≤ byte.toNat ∧ byte.toNat ≤ opened.high)
    {owed : Nat} (more : opened.owed = owed + 1) :
    decodeByte (some opened) byte = ([], some (opened.next byte owed)) := by
  rw [decodeByte, if_pos inRange, more]
  rfl

theorem decodeByte_broken (outside : ¬ (opened.low ≤ byte.toNat ∧ byte.toNat ≤ opened.high)) :
    decodeByte (some opened) byte =
      (.stray opened.bytes :: (beginAt byte).1, (beginAt byte).2) := by
  rw [decodeByte, if_neg outside]

/-- A byte that lies where it may leaves the rest of the promise. -/
theorem Opened.kept_cons_iff (inRange : opened.low ≤ byte.toNat ∧ byte.toNat ≤ opened.high)
    {owed : Nat} (more : opened.owed = owed + 1) {tail : List UInt8} :
    (opened.next byte owed).Kept tail ↔ opened.Kept (byte :: tail) := by
  cases tail with
  | nil => simp [Kept, more]
  | cons second rest => simp [Kept, Opened.next, inRange, more, and_assoc, and_left_comm]

theorem Opened.Sound.next (sound : opened.Sound)
    (inRange : opened.low ≤ byte.toNat ∧ byte.toNat ≤ opened.high) {owed : Nat}
    (more : opened.owed = owed + 1) : (opened.next byte owed).Sound := by
  intro tail kept
  have spelled : (opened.next byte owed).code tail = opened.code (byte :: tail) := by
    simp only [code, Opened.next, List.foldl_cons, List.foldl_nil]
  have whole := sound (byte :: tail) ((kept_cons_iff inRange more).mp kept)
  rw [spelled, whole]
  exact List.append_cons opened.bytes byte tail

theorem accountsFor_decodeByte {state : Option Opened}
    (sound : ∀ opened, state = some opened → opened.Sound) (byte : UInt8) :
    AccountsFor (pending state ++ [byte]) (decodeByte state byte) := by
  cases state with
  | none => exact accountsFor_beginAt byte
  | some opened =>
    have promised := sound opened rfl
    by_cases inRange : opened.low ≤ byte.toNat ∧ byte.toNat ≤ opened.high
    · cases more : opened.owed with
      | zero =>
        have whole := promised [byte] ⟨inRange, more.symm, by simp⟩
        rw [decodeByte_completed inRange more]
        refine ⟨?_, by simp⟩
        rw [toBytes_char, whole]
        simp [toBytes, pending]
      | succ owed =>
        rw [decodeByte_continued inRange more]
        exact ⟨rfl, fun next same => Option.some.inj same ▸ promised.next inRange more⟩
    · rw [decodeByte_broken inRange]
      obtain ⟨bytes, soundNext⟩ := accountsFor_beginAt byte
      refine ⟨?_, soundNext⟩
      rw [toBytes_stray, List.append_assoc, bytes]
      rfl

end

theorem toBytes_decodeFrom {state : Option Opened}
    (sound : ∀ opened, state = some opened → opened.Sound) (bytes : List UInt8) :
    toBytes (decodeFrom state bytes) = pending state ++ bytes := by
  induction bytes generalizing state with
  | nil =>
    cases state with
    | none => rfl
    | some opened => rfl
  | cons byte rest inductionHypothesis =>
    obtain ⟨accounted, soundNext⟩ := accountsFor_decodeByte sound byte
    have step : decodeFrom state (byte :: rest) =
        (decodeByte state byte).1 ++ decodeFrom (decodeByte state byte).2 rest := by
      cases state <;> rfl
    rw [step, toBytes_append, inductionHypothesis soundNext, ← List.append_assoc, accounted,
      List.append_assoc, List.singleton_append]

/-- The glyphs of an argument have its bytes. -/
theorem toBytes_ofBytes (bytes : List UInt8) : toBytes (ofBytes bytes) = bytes :=
  toBytes_decodeFrom (by simp) bytes

/-! ### Texts decode to themselves -/

/-- Bytes that keep the promise are read as the character that they spell. -/
theorem decodeFrom_of_kept {opened : Opened} {tail : List UInt8} (kept : opened.Kept tail)
    (rest : List UInt8) :
    decodeFrom (some opened) (tail ++ rest) =
      .char (Char.ofNat (opened.code tail)) :: decodeFrom none rest := by
  induction tail generalizing opened with
  | nil => exact kept.elim
  | cons byte tail inductionHypothesis =>
    have inRange := kept.1
    rw [List.cons_append, decodeFrom]
    cases tail with
    | nil =>
      rw [decodeByte_completed inRange kept.2.1.symm]
      rfl
    | cons second others =>
      have more : opened.owed = others.length + 1 := kept.2.1.symm
      have next := inductionHypothesis ((Opened.kept_cons_iff inRange more).mpr kept)
      rw [decodeByte_continued inRange more]
      refine next.trans ?_
      simp only [Opened.code, Opened.next, List.foldl_cons, List.foldl_nil]

section

variable {lead : UInt8}

theorem Opened.exists_two (opens : 0xC2 ≤ lead.toNat ∧ lead.toNat ≤ 0xDF) :
    ∃ opened, Opened.ofByte? lead = some opened ∧ opened.owed = 0 ∧
      opened.low = 0x80 ∧ opened.high = 0xBF :=
  ⟨_, if_pos opens, rfl, rfl, rfl⟩

theorem Opened.exists_three (opens : 0xE0 ≤ lead.toNat ∧ lead.toNat ≤ 0xEF) :
    ∃ opened, Opened.ofByte? lead = some opened ∧ opened.owed = 1 ∧
      opened.low = (if lead.toNat = 0xE0 then 0xA0 else 0x80) ∧
      opened.high = if lead.toNat = 0xED then 0x9F else 0xBF := by
  simp only [Opened.ofByte?]
  rw [if_neg (by omega)]
  split
  · exact ⟨_, rfl, rfl, rfl, (if_neg (by omega)).symm⟩
  split
  · exact ⟨_, rfl, rfl, rfl, rfl⟩
  · rw [if_pos (by omega)]
    exact ⟨_, rfl, rfl, rfl, rfl⟩

theorem Opened.exists_four (opens : 0xF0 ≤ lead.toNat ∧ lead.toNat ≤ 0xF4) :
    ∃ opened, Opened.ofByte? lead = some opened ∧ opened.owed = 2 ∧
      opened.low = (if lead.toNat = 0xF0 then 0x90 else 0x80) ∧
      opened.high = if lead.toNat = 0xF4 then 0x8F else 0xBF := by
  simp only [Opened.ofByte?]
  rw [if_neg (by omega), if_neg (by omega), if_neg (by omega), if_neg (by omega)]
  split
  · exact ⟨_, rfl, rfl, rfl, (if_neg (by omega)).symm⟩
  split
  · exact ⟨_, rfl, rfl, rfl, (if_neg (by omega)).symm⟩
  · rw [if_pos (by omega)]
    exact ⟨_, rfl, rfl, rfl, (if_pos (by omega)).symm⟩

end

/-- The first byte of a longer character opens it, and the others keep the promise. -/
theorem exists_opened {c : Char} (long : 0x80 ≤ c.val.toNat) :
    ∃ lead tail opened, String.utf8EncodeChar c = lead :: tail ∧ 0x80 ≤ lead.toNat ∧
      Opened.ofByte? lead = some opened ∧ opened.Kept tail := by
  have valid : c.val.toNat < 0xD800 ∨ 0xDFFF < c.val.toNat ∧ c.val.toNat < 0x110000 := c.valid
  rw [String.utf8EncodeChar, if_neg (by omega)]
  generalize c.val.toNat = code at long valid
  have toNat (code : Nat) : (UInt8.ofNat code).toNat = code % 256 := UInt8.toNat_ofNat'
  split
  · obtain ⟨opened, opens, owed, low, high⟩ :=
      @Opened.exists_two (UInt8.ofNat (code / 64 % 32 + 192)) (by rw [toNat]; omega)
    refine ⟨_, _, opened, rfl, by rw [toNat]; omega, opens, ?_, owed.symm, ?_⟩
    · rw [low, high, toNat]
      omega
    · simp
  split
  · obtain ⟨opened, opens, owed, low, high⟩ :=
      @Opened.exists_three (UInt8.ofNat (code / 4096 % 16 + 224)) (by rw [toNat]; omega)
    refine ⟨_, _, opened, rfl, by rw [toNat]; omega, opens, ?_, owed.symm, ?_⟩
    · rw [low, high, toNat, toNat]
      split <;> split <;> omega
    · simp [toNat]
      omega
  · obtain ⟨opened, opens, owed, low, high⟩ :=
      @Opened.exists_four (UInt8.ofNat (code / 262144 % 8 + 240)) (by rw [toNat]; omega)
    refine ⟨_, _, opened, rfl, by rw [toNat]; omega, opens, ?_, owed.symm, ?_⟩
    · rw [low, high, toNat, toNat]
      split <;> split <;> omega
    · simp [toNat]
      omega

/-- A character decodes to itself, whatever bytes follow. -/
theorem decodeFrom_encodeChar (c : Char) (rest : List UInt8) :
    decodeFrom none (String.utf8EncodeChar c ++ rest) = .char c :: decodeFrom none rest := by
  by_cases ascii : c.val.toNat < 0x80
  · have code : (UInt8.ofNat c.val.toNat).toNat = c.toNat :=
      UInt8.toNat_ofNat'.trans (Nat.mod_eq_of_lt (by omega))
    have bytes : String.utf8EncodeChar c = [UInt8.ofNat c.val.toNat] := by
      rw [String.utf8EncodeChar, if_pos (by omega)]
    have whole : decodeByte none (UInt8.ofNat c.val.toNat) = ([.char c], none) := by
      rw [decodeByte, beginAt, if_pos (by rw [code]; exact ascii), code, Char.ofNat_toNat]
    rw [bytes, List.singleton_append, decodeFrom, whole]
    rfl
  · obtain ⟨lead, tail, opened, bytes, high, opens, kept⟩ := exists_opened (Nat.le_of_not_lt ascii)
    obtain ⟨sound, opening⟩ := Opened.sound_of_ofByte? opens
    have same : Char.ofNat (opened.code tail) = c := by
      refine utf8EncodeChar_injective ?_
      rw [sound tail kept, opening, bytes]
      rfl
    have begins : decodeByte none lead = ([], some opened) := by
      rw [decodeByte, beginAt, if_neg (by omega), opens]
    rw [bytes, List.cons_append, decodeFrom, begins]
    exact (decodeFrom_of_kept kept rest).trans (by rw [same])

/-- The bytes of a text decode to it. -/
theorem ofBytes_utf8 (text : String) : ofBytes (utf8 text) = ofString text := by
  rw [utf8_eq_flatMap, ofBytes, ofString]
  induction text.toList with
  | nil => rfl
  | cons c rest inductionHypothesis =>
    rw [List.flatMap_cons, decodeFrom_encodeChar, inductionHypothesis]
    rfl

/-- An argument decodes to a text exactly when its bytes are those of the text. -/
theorem ofBytes_eq_ofString_iff {bytes : List UInt8} {text : String} :
    ofBytes bytes = ofString text ↔ bytes = utf8 text := by
  constructor
  · intro decoded
    rw [← toBytes_ofBytes bytes, decoded, toBytes_ofString]
  · rintro rfl
    exact ofBytes_utf8 text

/-- A first byte that is a dash is read as one, whatever follows. -/
theorem ofBytes_dash (rest : List UInt8) : ofBytes (0x2D :: rest) = .char '-' :: ofBytes rest :=
  rfl

theorem eq_dash_of_ofBytes {bytes : List UInt8} {rest : Token}
    (decoded : ofBytes bytes = .char '-' :: rest) :
    ∃ later, bytes = 0x2D :: later ∧ ofBytes later = rest := by
  have first : bytes = 0x2D :: toBytes rest := by
    rw [← toBytes_ofBytes bytes, decoded]
    rfl
  refine ⟨_, first, ?_⟩
  rw [first, ofBytes_dash] at decoded
  exact (List.cons.inj decoded).2

end ThriftCommand.Token
