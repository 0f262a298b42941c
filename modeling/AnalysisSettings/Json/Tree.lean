import AnalysisSettings.Json.Literal
import AnalysisSettings.Json.Number

/-!
# The tree of a payload

`Tree.read` turns octets into a tree, without a judgement on them: where a value, a list or an
object breaks off, the tree says how, and what comes after that place has no meaning. Which fault a
break is depends on who reads the tree. A reader that wants the value is strict; one that passes
over it (`Tree.skipFault?`) sees the breaks of the text only, has no limit of nesting, and words
some of them differently.
-/

namespace AnalysisSettings.Json

/-- Why no value stands where one belongs. -/
inductive Missing where
  /-- The payload ends. -/
  | nothing
  /-- No value begins like that. -/
  | stray
  /-- One of the words `null`, `true` and `false` breaks off. -/
  | word (cut : Bool)
  | number (why : NumberBreak)
deriving DecidableEq, Repr

/-- How a list or an object ends. -/
inductive Ending where
  | closed
  /-- The payload ends where a comma or the closing bracket belongs. -/
  | cut
  /-- Something else stands where a comma or the closing bracket belongs. -/
  | stray
  /-- The closing bracket follows a comma. -/
  | commaClosed
  /-- The payload ends after a comma. -/
  | commaCut
  /-- A member of an object does not begin with a literal. -/
  | noKey
deriving DecidableEq, Repr

mutual

/-- A value as written, as far as it goes. -/
inductive Tree where
  | missing (why : Missing)
  | null
  | bool (b : Bool)
  | number (n : NumberText)
  | string (l : Literal)
  | list (items : Items)
  | object (members : Members)

/-- The values of a list. -/
inductive Items where
  | finish (ending : Ending)
  | item (value : Tree) (rest : Items)

/-- The members of an object. -/
inductive Members where
  | finish (ending : Ending)
  /-- A key without a colon after it; `cut` if the payload ends there. -/
  | bare (key : Literal) (cut : Bool)
  | member (key : Literal) (value : Tree) (rest : Members)

end

/-! ## Reading -/

/-- The octets that may stand between the parts of a payload: blank, tabulator and line ends. -/
def isBlankOctet (b : UInt8) : Bool :=
  b == 0x20 || b == 0x09 || b == 0x0A || b == 0x0D

/-- The octets from the first that is no blank. -/
def skipBlanks (octets : List UInt8) : List UInt8 :=
  octets.dropWhile isBlankOctet

/-- Skipping blanks makes nothing longer. -/
theorem skipBlanks_length (octets : List UInt8) : (skipBlanks octets).length ≤ octets.length :=
  (List.dropWhile_sublist isBlankOctet).length_le

/-- Behind the first octet that counts there is less left. -/
theorem lt_of_skipBlanks_eq_cons {octets rest : List UInt8} {b : UInt8}
    (h : skipBlanks octets = b :: rest) : rest.length < octets.length := by
  have := skipBlanks_length octets
  rw [h] at this
  exact this

/-- What was read, and the octets after it: no more than there were. -/
structure Taken (α : Type) (octets : List UInt8) where
  value : α
  rest : List UInt8
  length_le : rest.length ≤ octets.length

/-- The letters of a word after its first; if they are not all there, whether the payload ends. -/
def wordBreak? : (letters : List Char) → List UInt8 → Option Bool
  | [], _ => none
  | _ :: _, [] => some true
  | c :: cs, b :: rest => if b = c.toUInt8 then wordBreak? cs rest else some false

/-- A word whose first letter stands before the octets. -/
def readWord (value : Tree) (letters : List Char) (octets : List UInt8) : Tree :=
  match wordBreak? letters octets with
  | none => value
  | some cut => .missing (.word cut)

/-- A value that is neither a list nor an object, beginning with the octet `b`. -/
def readScalar (b : UInt8) (rest : List UInt8) : Taken Tree (b :: rest) :=
  match Char.ofNat b.toNat with
  | '"' => ⟨.string (Literal.read rest).1, (Literal.read rest).2,
      Nat.le_succ_of_le (Literal.read_length rest)⟩
  | 'n' => ⟨readWord .null ['u', 'l', 'l'] rest, rest.drop 3, by simp; omega⟩
  | 't' => ⟨readWord (.bool true) ['r', 'u', 'e'] rest, rest.drop 3, by simp; omega⟩
  | 'f' => ⟨readWord (.bool false) ['a', 'l', 's', 'e'] rest, rest.drop 4, by simp; omega⟩
  | _ =>
    if b = 0x2D ∨ NumberText.isDigitOctet b = true then
      let value := match (NumberText.read (b :: rest)).1 with
        | .ok n => .number n
        | .error why => .missing (.number why)
      ⟨value, (NumberText.read (b :: rest)).2, NumberText.read_length (b :: rest)⟩
    else ⟨.missing .stray, rest, Nat.le_succ _⟩

mutual

/-- The value at the front of the octets. -/
def Tree.read (octets : List UInt8) : Taken Tree octets :=
  match h : skipBlanks octets with
  | [] => ⟨.missing .nothing, [], Nat.zero_le _⟩
  | b :: rest =>
    have lt := lt_of_skipBlanks_eq_cons h
    if b = 0x5B then
      let items := Items.read rest
      ⟨.list items.value, items.rest, Nat.le_of_lt (Nat.lt_of_le_of_lt items.length_le lt)⟩
    else if b = 0x7B then
      let members := Members.read rest
      ⟨.object members.value, members.rest, Nat.le_of_lt (Nat.lt_of_le_of_lt members.length_le lt)⟩
    else
      let scalar := readScalar b rest
      ⟨scalar.value, scalar.rest, Nat.le_trans scalar.length_le lt⟩
termination_by (octets.length, 0)

/-- The values of a list whose opening bracket stands before the octets. -/
def Items.read (octets : List UInt8) : Taken Items octets :=
  match h : skipBlanks octets with
  | [] => ⟨.finish .cut, [], Nat.zero_le _⟩
  | b :: rest =>
    if b = 0x5D then ⟨.finish .closed, rest, Nat.le_of_lt (lt_of_skipBlanks_eq_cons h)⟩
    else Items.readFrom octets
termination_by (octets.length, 2)

/-- The values of a list from one that must stand at the front. -/
def Items.readFrom (octets : List UInt8) : Taken Items octets :=
  let first := Tree.read octets
  have le := first.length_le
  match h : skipBlanks first.rest with
  | [] => ⟨.item first.value (.finish .cut), [], Nat.zero_le _⟩
  | b :: rest =>
    have lt := lt_of_skipBlanks_eq_cons h
    if b = 0x5D then ⟨.item first.value (.finish .closed), rest, by omega⟩
    else if b = 0x2C then
      match h' : skipBlanks rest with
      | [] => ⟨.item first.value (.finish .commaCut), [], Nat.zero_le _⟩
      | c :: rest' =>
        have lt' := lt_of_skipBlanks_eq_cons h'
        if c = 0x5D then ⟨.item first.value (.finish .commaClosed), rest', by omega⟩
        else
          let others := Items.readFrom rest
          ⟨.item first.value others.value, others.rest, by have := others.length_le; omega⟩
    else ⟨.item first.value (.finish .stray), rest, by omega⟩
termination_by (octets.length, 1)

/-- The members of an object whose opening brace stands before the octets. -/
def Members.read (octets : List UInt8) : Taken Members octets :=
  match h : skipBlanks octets with
  | [] => ⟨.finish .cut, [], Nat.zero_le _⟩
  | b :: rest =>
    have lt := lt_of_skipBlanks_eq_cons h
    if b = 0x7D then ⟨.finish .closed, rest, Nat.le_of_lt lt⟩
    else if b = 0x22 then
      let members := Members.readFrom rest
      ⟨members.value, members.rest, Nat.le_of_lt (Nat.lt_of_le_of_lt members.length_le lt)⟩
    else ⟨.finish .noKey, rest, Nat.le_of_lt lt⟩
termination_by (octets.length, 2)

/-- The members of an object from one whose opening quote stands before the octets. -/
def Members.readFrom (octets : List UInt8) : Taken Members octets :=
  let key := (Literal.read octets).1
  have keyLe := Literal.read_length octets
  match h : skipBlanks (Literal.read octets).2 with
  | [] => ⟨.bare key true, [], Nat.zero_le _⟩
  | b :: rest =>
    have lt := lt_of_skipBlanks_eq_cons h
    if b = 0x3A then
      let value := Tree.read rest
      have le := value.length_le
      match h' : skipBlanks value.rest with
      | [] => ⟨.member key value.value (.finish .cut), [], Nat.zero_le _⟩
      | c :: rest' =>
        have lt' := lt_of_skipBlanks_eq_cons h'
        if c = 0x7D then ⟨.member key value.value (.finish .closed), rest', by omega⟩
        else if c = 0x2C then
          match h'' : skipBlanks rest' with
          | [] => ⟨.member key value.value (.finish .commaCut), [], Nat.zero_le _⟩
          | d :: rest'' =>
            have lt'' := lt_of_skipBlanks_eq_cons h''
            if d = 0x7D then ⟨.member key value.value (.finish .commaClosed), rest'', by omega⟩
            else if d = 0x22 then
              let others := Members.readFrom rest''
              ⟨.member key value.value others.value, others.rest, by
                have := others.length_le; omega⟩
            else ⟨.member key value.value (.finish .noKey), rest'', by omega⟩
        else ⟨.member key value.value (.finish .stray), rest', by omega⟩
    else ⟨.bare key false, rest, by omega⟩
termination_by (octets.length, 1)

end

/-! ## Passing over a value -/

/-- The fault of a missing value for a reader that passes over it. -/
def Missing.skipFault : Missing → Fault
  | .nothing => .cutValue
  | .stray => .valueExpected
  | .word cut => if cut then .cutValue else .wordExpected
  | .number _ => .badNumber

/-- The fault of a missing value for a reader that wants it. -/
def Missing.fault : Missing → Fault
  | .number .cut => .cutValue
  | why => why.skipFault

/-- The fault of a key without a colon. -/
def bareFault (cut : Bool) : Fault :=
  if cut then .cutObject else .colonExpected

mutual

/-- The first break of a value that is passed over. -/
def Tree.skipFault? : Tree → Option Fault
  | .missing why => some why.skipFault
  | .null | .bool _ | .number _ => none
  | .string l => l.skipFault?
  | .list items => items.skipFault?
  | .object members => members.skipFault?

/-- The first break of a list that is passed over. -/
def Items.skipFault? : Items → Option Fault
  | .finish .closed => none
  | .finish .cut => some .cutList
  | .finish .commaClosed => some .valueExpected
  | .finish .commaCut => some .cutValue
  | .finish .stray | .finish .noKey => some .listDelimiterExpected
  | .item value rest => value.skipFault?.or rest.skipFault?

/-- The first break of an object that is passed over. -/
def Members.skipFault? : Members → Option Fault
  | .finish .closed => none
  | .finish .cut | .finish .commaCut => some .cutObject
  | .finish .commaClosed | .finish .noKey => some .keyExpected
  | .finish .stray => some .objectDelimiterExpected
  | .bare key cut => key.skipFault?.or (some (bareFault cut))
  | .member key value rest => key.skipFault?.or (value.skipFault?.or rest.skipFault?)

end

/-- The fault of a list that a reader wants to the end. -/
def Ending.listFault? : Ending → Option Fault
  | .closed => none
  | .cut => some .cutList
  | .commaClosed => some .trailingComma
  | .commaCut => some .cutValue
  | .stray | .noKey => some .listDelimiterExpected

/-- The fault of an object that a reader wants to the end. -/
def Ending.objectFault? : Ending → Option Fault
  | .closed => none
  | .cut => some .cutObject
  | .commaClosed => some .trailingComma
  | .commaCut => some .cutValue
  | .stray => some .objectDelimiterExpected
  | .noKey => some .keyExpected

end AnalysisSettings.Json
