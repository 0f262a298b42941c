import AnalysisSettings.Text.Hex

/-!
# Punycode

Labels of domain names with characters outside ASCII, written in ASCII letters and digits. The
ASCII characters come first, then a dash if there are any, then the other characters in ascending
order, each as the number of steps from the one before it: a step goes to the next place in the
text, and after the last place to the next character. The numbers are written in base 36, lowest
digit first, with a threshold for each digit that tells whether the number goes on; the thresholds
adapt to the numbers already written.

No recursion needs a bound: quotients shrink, and so does the input.
-/

namespace AnalysisSettings.Domain.Punycode

/-- The character of a digit: letters, then figures. -/
def digitChar (d : Nat) : Char :=
  if d < 26 then Char.ofNat (0x61 + d) else Char.ofNat (0x30 + d - 26)

/-- The value of a digit; the case of a letter does not matter. -/
def digitValue? (c : Char) : Option Nat :=
  if 'a' ≤ c ∧ c ≤ 'z' then some (c.toNat - 0x61)
  else if 'A' ≤ c ∧ c ≤ 'Z' then some (c.toNat - 0x41)
  else if '0' ≤ c ∧ c ≤ '9' then some (c.toNat - 0x30 + 26)
  else none

/-- A digit below the threshold of its position ends a number. -/
def threshold (position bias : Nat) : Nat :=
  min (max (position - bias) 1) 26

theorem threshold_pos (position bias : Nat) : 1 ≤ threshold position bias := by
  unfold threshold; omega

/-- Divides by 35 until at most 455 is left, and counts 36 for each division. -/
def shrink (delta k : Nat) : Nat × Nat :=
  if 455 < delta then shrink (delta / 35) (k + 36) else (delta, k)
termination_by delta
decreasing_by exact Nat.div_lt_self (by omega) (by omega)

/-- The bias after a number of `delta` steps has been written; `count` characters are placed. -/
def adapt (delta count : Nat) (first : Bool) : Nat :=
  let scaled := if first then delta / 700 else delta / 2
  let (rest, k) := shrink (scaled + scaled / count) 0
  k + 36 * rest / (rest + 38)

/-! ## Writing -/

/-- The digits of a number, from a position on. -/
def writeNumber (bias position n : Nat) : List Char :=
  let t := threshold position bias
  if n < t then [digitChar n]
  else digitChar (t + (n - t) % (36 - t)) :: writeNumber bias (position + 36) ((n - t) / (36 - t))
termination_by n
decreasing_by
  have := threshold_pos position bias
  calc (n - threshold position bias) / (36 - threshold position bias)
      ≤ n - threshold position bias := Nat.div_le_self _ _
    _ < n := by omega

/-- The state of a writer: the output, the steps since the last character that was placed, the
bias and the number of placed characters. -/
structure Writer where
  output : List Char := []
  delta : Nat := 0
  bias : Nat := 72
  placed : Nat

/-- Goes over one character of the text while the character `target` is placed. -/
def Writer.visit (basic target : Nat) (w : Writer) (c : Char) : Writer :=
  if c.toNat < target then { w with delta := w.delta + 1 }
  else if c.toNat = target then
    { output := w.output ++ writeNumber w.bias 36 w.delta
      delta := 0
      bias := adapt w.delta (w.placed + 1) (w.placed == basic)
      placed := w.placed + 1 }
  else w

/-- Places the characters in ascending order; `from` is the first one that can still come. -/
def Writer.place (text : List Char) (basic : Nat) (w : Writer) : Nat → List Nat → Writer
  | _, [] => w
  | lowest, target :: targets =>
    let reached := { w with delta := w.delta + (target - lowest) * (w.placed + 1) }
    let passed := text.foldl (Writer.visit basic target) reached
    place text basic { passed with delta := passed.delta + 1 } (target + 1) targets

/-- A number inserted into an ascending list, unless it is there. -/
def insertAscending (n : Nat) : List Nat → List Nat
  | [] => [n]
  | m :: ms => if n < m then n :: m :: ms else if n = m then m :: ms else m :: insertAscending n ms

/-- The punycode of a text. -/
def encode (text : List Char) : List Char :=
  let basic := text.filter fun c => c.toNat < 0x80
  let targets := (text.filter fun c => 0x80 ≤ c.toNat).foldr
    (fun c found => insertAscending c.toNat found) []
  let written := (Writer.place text basic.length { placed := basic.length } 0x80 targets).output
  basic ++ (if basic.isEmpty then [] else ['-']) ++ written

/-! ## Reading -/

/-- A number at the beginning of a text: the number and the rest, which is shorter. -/
def readNumber? (bias : Nat) : (cs : List Char) → (position weight : Nat) →
    Option (Nat × { rest : List Char // rest.length < cs.length })
  | [], _, _ => none
  | c :: cs, position, weight =>
    match digitValue? c with
    | none => none
    | some d =>
      let t := threshold position bias
      if d < t then some (d * weight, ⟨cs, by simp⟩)
      else match readNumber? bias cs (position + 36) (weight * (36 - t)) with
        | none => none
        | some (n, ⟨rest, h⟩) => some (d * weight + n, ⟨rest, by simp; omega⟩)

/-- The characters that the rest of a punycode places into a text. `place` is where the last one
went, `lowest` the character it was. -/
def insertAll? (text : List Char) (lowest place bias : Nat) (first : Bool) (cs : List Char) :
    Option (List Char) :=
  if cs.isEmpty then some text
  else match readNumber? bias cs 36 1 with
    | none => none
    | some (delta, ⟨rest, _⟩) =>
      let count := text.length + 1
      let point := lowest + (place + delta) / count
      let spot := (place + delta) % count
      match Text.charOfPoint? point with
      | none => none
      | some c =>
        insertAll? (text.take spot ++ c :: text.drop spot) point (spot + 1)
          (adapt delta count first) false rest
termination_by cs.length

/-- The text a punycode stands for: the part before the last dash, with the rest placed into it.
A dash at the very beginning ends no part, and is no digit either. -/
def decode? (cs : List Char) : Option (List Char) :=
  let tail := (cs.reverse.takeWhile (· != '-')).reverse
  if cs.length ≤ tail.length + 1 then insertAll? [] 0x80 0 72 true cs
  else
    let basic := cs.take (cs.length - tail.length - 1)
    if basic.all (·.toNat < 0x80) then insertAll? basic 0x80 0 72 true tail else none

end AnalysisSettings.Domain.Punycode
