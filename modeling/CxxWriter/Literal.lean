/-
  String literals of C.

  Quotes, backslashes and control characters are escaped; a control character
  without a short escape is written with three octal digits, which no digit
  of the text can lengthen.  All other characters stand for themselves.
-/

namespace CxxWriter.Literal

/-- A digit of base eight. -/
def octalDigit (n : Nat) : Char := Char.ofNat (48 + n % 8)

/-- Three octal digits. -/
def octal (n : Nat) : List Char := ['\\', octalDigit (n / 64), octalDigit (n / 8), octalDigit n]

/-- The letter of a short escape. -/
def shortEscape? (c : Char) : Option Char :=
  if c = '\\' then some '\\'
  else if c = '"' then some '"'
  else if c = '\n' then some 'n'
  else if c = '\t' then some 't'
  else if c = '\r' then some 'r'
  else if c = '\x07' then some 'a'
  else if c = '\x08' then some 'b'
  else if c = '\x0c' then some 'f'
  else if c = '\x0b' then some 'v'
  else none

/-- A control character of ASCII. -/
def isControl (c : Char) : Bool := c.toNat < 0x20 || c.toNat == 0x7f

/-- A character inside a literal. -/
def escapeChar (c : Char) : List Char :=
  match shortEscape? c with
  | some e => ['\\', e]
  | none => if isControl c then octal c.toNat else [c]

/-- Characters beyond ASCII stand for themselves. -/
theorem escapeChar_wide {c : Char} (h : 0x80 ≤ c.toNat) : escapeChar c = [c] := by
  have hshort : shortEscape? c = none := by
    unfold shortEscape?
    repeat' split
    all_goals
      first
      | (subst c; exact absurd h (by decide))
      | rfl
  have hcontrol : isControl c = false := by
    simp only [isControl, Bool.or_eq_false_iff, decide_eq_false_iff_not, beq_eq_false_iff_ne]
    omega
  rw [escapeChar, hshort, hcontrol]
  rfl

/-- Characters of ASCII are written in ASCII, and without control characters. -/
theorem escapeChar_ascii {c d : Char} (h : c.toNat < 0x80) (hd : d ∈ escapeChar c) :
    d.toNat < 0x80 ∧ isControl d = false := by
  have hall : ∀ n < 0x80,
      ((escapeChar (Char.ofNat n)).all fun d => d.toNat < 0x80 && !isControl d) = true := by
    decide +kernel
  have hc := hall c.toNat h
  rw [Char.ofNat_toNat, List.all_eq_true] at hc
  simpa using hc d hd

/-- Whatever a character is, no control character of ASCII is written for it. -/
theorem isControl_escapeChar {c d : Char} (hd : d ∈ escapeChar c) : isControl d = false := by
  by_cases h : c.toNat < 0x80
  · exact (escapeChar_ascii h hd).2
  · rw [escapeChar_wide (by omega), List.mem_singleton] at hd
    simp only [hd, isControl, Bool.or_eq_false_iff, decide_eq_false_iff_not, beq_eq_false_iff_ne]
    omega

/-- A text inside a literal. -/
def escape (t : List Char) : List Char := t.flatMap escapeChar

/-- A text as a literal. -/
def quoted (t : List Char) : List Char := '"' :: escape t ++ ['"']

/-- There are no control characters of ASCII in a literal. -/
theorem isControl_quoted {t : List Char} {c : Char} (h : c ∈ quoted t) : isControl c = false := by
  simp only [quoted, List.cons_append, List.mem_cons, List.mem_append, escape, List.mem_flatMap,
    List.not_mem_nil, or_false] at h
  rcases h with rfl | ⟨a, -, ha⟩ | rfl
  · decide
  · exact isControl_escapeChar ha
  · decide

/-- A text inside a literal, as a string. -/
def escapeString (s : String) : String := String.ofList (escape s.toList)

/-- A text as a literal, as a string. -/
def ofString (s : String) : String := String.ofList (quoted s.toList)

end CxxWriter.Literal
