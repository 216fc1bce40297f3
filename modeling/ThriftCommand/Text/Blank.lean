/-
This file trims blanks from the end of text. The blanks are the code points that Unicode gives the
White_Space property, beyond ASCII too, so a message that ends in an ideographic space loses it.
-/

namespace ThriftCommand.Text

/-- The code points with the White_Space property. -/
def isBlank (c : Char) : Bool :=
  let code := c.toNat
  (0x09 ≤ code && code ≤ 0x0D) || code = 0x20 || code = 0x85 || code = 0xA0 || code = 0x1680
    || (0x2000 ≤ code && code ≤ 0x200A) || code = 0x2028 || code = 0x2029 || code = 0x202F
    || code = 0x205F || code = 0x3000

/-- Text without its last run of blanks. -/
def trimEnd : List Char → List Char
  | [] => []
  | c :: rest =>
    match trimEnd rest with
    | [] => if isBlank c then [] else [c]
    | kept => c :: kept

/-- Trimming drops characters and brings none in. -/
theorem mem_of_mem_trimEnd {c : Char} {text : List Char} (member : c ∈ trimEnd text) :
    c ∈ text := by
  induction text with
  | nil => simp [trimEnd] at member
  | cons head rest inductionHypothesis =>
    unfold trimEnd at member
    split at member
    · split at member
      · simp at member
      · simp only [List.mem_singleton] at member
        exact member ▸ List.mem_cons_self
    · rcases List.mem_cons.mp member with rfl | later
      · exact List.mem_cons_self
      · exact List.mem_cons_of_mem _ (inductionHypothesis later)

end ThriftCommand.Text
