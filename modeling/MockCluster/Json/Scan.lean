import MockCluster.Json.Literal

/-!
Scanning text into a tree, one character at a time.

A scan holds the arrays and objects around the current place and what is due there.  The first
fault ends it: everything read so far is closed around the breach.
-/

namespace MockCluster.Json

/-- An array or object around the current value, its parts latest first. -/
inductive Frame where
  | array (start : Nat) (items : List Tree)
  | member (start : Nat) (members : List (Key × Tree)) (key : Key)

inductive TextUse where
  | value
  | key (start : Nat) (members : List (Key × Tree))

inductive TextPhase where
  | plain
  | escape
  /-- Some of four hexadecimal digits are read, perhaps after a leading surrogate. -/
  | hex (start count value : Nat) (lead : Option Nat)
  | afterLead (lead : Nat)
  | afterLeadEscape (lead : Nat)
  | badHex (start : Nat)

structure TextState where
  use : TextUse
  start : Nat
  chars : List Char
  phase : TextPhase
  /-- The first place where the characters make no text although the string goes on. -/
  fault? : Option Fault

inductive NumberPhase where
  | minus
  | zero
  | whole
  | point
  | fraction
  | power
  | powerSign
  | powerDigits
  deriving DecidableEq

structure NumberState where
  start : Nat
  phase : NumberPhase
  negative : Bool
  whole : List Nat
  fraction : List Nat
  powerNegative : Bool
  power : List Nat
  powerStart : Nat

inductive Mode where
  | value
  | item (start : Nat) (items : List Tree) (first : Bool)
  | afterItem (start : Nat) (items : List Tree)
  | key (start : Nat) (members : List (Key × Tree)) (first : Bool)
  | afterKey (start : Nat) (members : List (Key × Tree)) (name : Except Fault String) (stop : Nat)
  | afterMember (start : Nat) (members : List (Key × Tree))
  | word (start : Nat) (rest : List Char) (scalar : Scalar)
  | number (state : NumberState)
  | text (state : TextState)
  | finished (root : Tree) (fault? : Option Fault)

structure Scan where
  offset : Nat
  frames : List Frame
  mode : Mode

namespace Scan

def init : Scan := ⟨0, [], .value⟩

def isBlank (c : Char) : Bool :=
  c == ' ' || c == '\n' || c == '\t' || c == '\r'

def digit? (c : Char) : Option Nat :=
  if '0' ≤ c ∧ c ≤ '9' then some (c.toNat - 48) else none

def hexDigit? (c : Char) : Option Nat :=
  if '0' ≤ c ∧ c ≤ '9' then some (c.toNat - 48)
  else if 'a' ≤ c ∧ c ≤ 'f' then some (c.toNat - 87)
  else if 'A' ≤ c ∧ c ≤ 'F' then some (c.toNat - 55)
  else none

def enclose (breach : Breach) : List Frame → Tree → Tree
  | [], tree => tree
  | .array start items :: frames, tree =>
    enclose breach frames (.array start (items.reverse ++ [tree]) (.broken breach))
  | .member start members key :: frames, tree =>
    enclose breach frames (.object start (members.reverse ++ [(key, tree)]) (.broken breach))

def abandon (s : Scan) (breach : Breach) (tree : Tree) : Scan :=
  { s with frames := [], mode := .finished (enclose breach s.frames tree) none }

def breakValue (s : Scan) (start : Nat) (breach : Breach) : Scan :=
  s.abandon breach (.broken start breach)

def breakArray (s : Scan) (start : Nat) (items : List Tree) (breach : Breach) : Scan :=
  s.abandon breach (.array start items.reverse (.broken breach))

def breakObject (s : Scan) (start : Nat) (members : List (Key × Tree)) (breach : Breach) : Scan :=
  s.abandon breach (.object start members.reverse (.broken breach))

def deliver (s : Scan) (tree : Tree) : Scan :=
  match s.frames with
  | [] => { s with mode := .finished tree none }
  | .array start items :: frames =>
    { s with frames := frames, mode := .afterItem start (tree :: items) }
  | .member start members key :: frames =>
    { s with frames := frames, mode := .afterMember start ((key, tree) :: members) }

def deliverArray (s : Scan) (start : Nat) (items : List Tree) : Scan :=
  s.deliver (.array start items.reverse (.closed (s.offset + 1)))

def deliverObject (s : Scan) (start : Nat) (members : List (Key × Tree)) : Scan :=
  s.deliver (.object start members.reverse (.closed (s.offset + 1)))

def here (s : Scan) (cause : Cause) : Breach := Breach.of cause (s.offset + 1)

def beginText (s : Scan) (use : TextUse) : Scan :=
  { s with mode := .text ⟨use, s.offset, [], .plain, none⟩ }

def beginNumber (s : Scan) (phase : NumberPhase) (negative : Bool) (whole : List Nat) : Scan :=
  { s with mode := .number ⟨s.offset, phase, negative, whole, [], false, [], 0⟩ }

def beginValue (s : Scan) (c : Char) : Scan :=
  match c with
  | 'n' => { s with mode := .word s.offset ['u', 'l', 'l'] .null }
  | 't' => { s with mode := .word s.offset ['r', 'u', 'e'] (.bool true) }
  | 'f' => { s with mode := .word s.offset ['a', 'l', 's', 'e'] (.bool false) }
  | '"' => s.beginText .value
  | '[' => { s with mode := .item s.offset [] true }
  | '\x7b' => { s with mode := .key s.offset [] true }
  | '-' => s.beginNumber .minus true []
  | c =>
    match digit? c with
    | some 0 => s.beginNumber .zero false [0]
    | some d => s.beginNumber .whole false [d]
    | none => s.breakValue s.offset (s.here .valueDue)

def finishText (s : Scan) (text : TextState) : Scan :=
  let string := String.ofList text.chars.reverse
  match text.use, text.fault? with
  | .value, none => s.deliver (.leaf text.start (s.offset + 1) (.string string))
  | .value, some fault => s.deliver (.leaf text.start (s.offset + 1) (.unreadable fault))
  | .key start members, none =>
    { s with mode := .afterKey start members (.ok string) (s.offset + 1) }
  | .key start members, some fault =>
    { s with mode := .afterKey start members (.error fault) (s.offset + 1) }

/-- Breaks off inside a string; who needs its text has stopped at an earlier fault, if any. -/
def breakText (s : Scan) (text : TextState) (breach : Breach) : Scan :=
  let breach := match text.fault? with
    | some fault => { breach with strict := fault }
    | none => breach
  match text.use with
  | .value => s.breakValue text.start breach
  | .key start members => s.breakObject start members breach

def textPlain (s : Scan) (text : TextState) (c : Char) : Scan :=
  if c = '"' then s.finishText text
  else if c = '\\' then { s with mode := .text { text with phase := .escape } }
  else if c.toNat < 32 then
    s.breakText text ⟨⟨.controlCharacter, s.offset + 1⟩, ⟨.controlCharacter, s.offset⟩⟩
  else { s with mode := .text { text with chars := c :: text.chars, phase := .plain } }

def textEscape (s : Scan) (text : TextState) (c : Char) : Scan :=
  let push (c : Char) : Scan :=
    { s with mode := .text { text with chars := c :: text.chars, phase := .plain } }
  match c with
  | '"' => push '"'
  | '\\' => push '\\'
  | '/' => push '/'
  | 'b' => push '\x08'
  | 'f' => push '\x0c'
  | 'n' => push '\n'
  | 'r' => push '\r'
  | 't' => push '\t'
  | 'u' => { s with mode := .text { text with phase := .hex (s.offset + 1) 0 0 none } }
  | _ => s.breakText text (s.here .unknownEscape)

def TextState.note (text : TextState) (cause : Cause) (index : Nat) : TextState :=
  { text with fault? := text.fault? <|> some ⟨cause, index⟩ }

def isTrailing (unit : Nat) : Bool := 0xdc00 ≤ unit && unit ≤ 0xdfff

def isLeading (unit : Nat) : Bool := 0xd800 ≤ unit && unit ≤ 0xdbff

def TextState.pushUnit (text : TextState) (unit : Nat) (lead : Option Nat) (index : Nat) :
    TextState :=
  match lead with
  | none =>
    if isTrailing unit then { TextState.note text .loneSurrogate index with phase := .plain }
    else if isLeading unit then { text with phase := .afterLead unit }
    else { text with chars := Char.ofNat unit :: text.chars, phase := .plain }
  | some lead =>
    if isTrailing unit then
      let code := 0x10000 + (lead - 0xd800) * 0x400 + (unit - 0xdc00)
      { text with chars := Char.ofNat code :: text.chars, phase := .plain }
    else { TextState.note text .loneSurrogate index with phase := .plain }

def badHex (s : Scan) (text : TextState) (start : Nat) (c : Char) : Scan :=
  if start + 4 ≤ s.offset + c.utf8Size then
    s.breakText text (Breach.of .unknownEscape (start + 4))
  else
    { s with mode := .text { text with phase := .badHex start } }

def stepText (s : Scan) (text : TextState) (c : Char) : Scan :=
  match text.phase with
  | .plain => s.textPlain text c
  | .escape => s.textEscape text c
  | .hex start count value lead =>
    match hexDigit? c with
    | none => s.badHex text start c
    | some d =>
      if count < 3 then
        { s with mode := .text { text with phase := .hex start (count + 1) (16 * value + d) lead } }
      else
        { s with mode := .text (TextState.pushUnit text (16 * value + d) lead (s.offset + 1)) }
  | .afterLead lead =>
    if c = '\\' then { s with mode := .text { text with phase := .afterLeadEscape lead } }
    else s.textPlain (TextState.note text .cutSurrogate (s.offset + 1)) c
  | .afterLeadEscape lead =>
    if c = 'u' then
      { s with mode := .text { text with phase := .hex (s.offset + 1) 0 0 (some lead) } }
    else s.textEscape (TextState.note text .cutSurrogate (s.offset + 1)) c
  | .badHex start => s.badHex text start c

def NumberPhase.isComplete : NumberPhase → Bool
  | .zero | .whole | .fraction | .powerDigits => true
  | .minus | .point | .power | .powerSign => false

def NumberState.literal (n : NumberState) : Literal where
  negative := n.negative
  whole := n.whole.reverse
  fraction := if n.fraction.isEmpty then none else some n.fraction.reverse
  power := if n.power.isEmpty then none
    else some (n.powerNegative, n.power.reverse, n.powerStart)

def finishNumber (s : Scan) (n : NumberState) : Scan :=
  s.deliver (.leaf n.start s.offset (Literal.toScalar (NumberState.literal n) s.offset))

/-- What a character does to a number: it goes on, it is complete before the character, or it is
none. -/
inductive NumberStep where
  | more (state : NumberState)
  | complete
  | malformed

def NumberState.step (n : NumberState) (offset : Nat) (c : Char) : NumberStep :=
  match n.phase, digit? c with
  | .minus, some 0 => .more { n with phase := .zero, whole := [0] }
  | .minus, some d => .more { n with phase := .whole, whole := [d] }
  | .minus, none => .malformed
  | .zero, some _ => .malformed
  | .whole, some d => .more { n with whole := d :: n.whole }
  | .point, some d => .more { n with phase := .fraction, fraction := [d] }
  | .point, none => .malformed
  | .fraction, some d => .more { n with fraction := d :: n.fraction }
  | .power, some d => .more { n with phase := .powerDigits, power := [d], powerStart := offset }
  | .powerSign, some d => .more { n with phase := .powerDigits, power := [d], powerStart := offset }
  | .powerSign, none => .malformed
  | .powerDigits, some d => .more { n with power := d :: n.power }
  | .powerDigits, none => .complete
  | .power, none =>
    if c = '+' then .more { n with phase := .powerSign }
    else if c = '-' then .more { n with phase := .powerSign, powerNegative := true }
    else .malformed
  | .zero, none | .whole, none =>
    if c = '.' then .more { n with phase := .point }
    else if c = 'e' ∨ c = 'E' then .more { n with phase := .power }
    else .complete
  | .fraction, none =>
    if c = 'e' ∨ c = 'E' then .more { n with phase := .power } else .complete

def markComma (offset : Nat) : List (Key × Tree) → List (Key × Tree)
  | [] => []
  | (key, item) :: rest => ({ key with comma := offset }, item) :: rest

def stepPlain (s : Scan) (c : Char) : Scan :=
  match s.mode with
  | .value => if isBlank c then s else s.beginValue c
  | .item start items first =>
    if isBlank c then s
    else if c = ']' then
      if first then s.deliverArray start items
      else s.breakArray start items
        ⟨⟨.danglingComma, s.offset + 1⟩, ⟨.valueDue, s.offset + 1⟩⟩
    else { s with frames := .array start items :: s.frames }.beginValue c
  | .afterItem start items =>
    if isBlank c then s
    else if c = ',' then { s with mode := .item start items false }
    else if c = ']' then s.deliverArray start items
    else s.breakArray start items (s.here .itemEndDue)
  | .key start members first =>
    if isBlank c then s
    else if c = '"' then s.beginText (.key start members)
    else if c = '\x7d' then
      if first then s.deliverObject start members
      else s.breakObject start members
        ⟨⟨.danglingComma, s.offset + 1⟩, ⟨.keyDue, s.offset + 1⟩⟩
    else
      let key : Key := ⟨.error ⟨.keyDue, s.offset + 1⟩, s.offset, s.offset, 0⟩
      { s with frames := .member start members key :: s.frames }.beginValue c
  | .afterKey start members name stop =>
    if isBlank c then s
    else if c = ':' then
      { s with
        frames := .member start members ⟨name, stop, s.offset, 0⟩ :: s.frames
        mode := .value }
    else
      let resume := if c = '\x7d' then s.offset + 1 else s.offset
      { s with frames := .member start members ⟨name, stop, resume, 0⟩ :: s.frames }.breakValue
        s.offset (s.here .colonDue)
  | .afterMember start members =>
    if isBlank c then s
    else if c = ',' then { s with mode := .key start (markComma s.offset members) false }
    else if c = '\x7d' then s.deliverObject start members
    else s.breakObject start members (s.here .memberEndDue)
  | .word start rest scalar =>
    match rest with
    | [] => s.breakValue start (s.here .misspeltWord)
    | expected :: rest =>
      if c = expected then
        if rest.isEmpty then s.deliver (.leaf start (s.offset + 1) scalar)
        else { s with mode := .word start rest scalar }
      else s.breakValue start (s.here .misspeltWord)
  | .number _ => s
  | .text text => s.stepText text c
  | .finished root none =>
    if isBlank c then s
    else { s with mode := .finished root (some ⟨.textAfterEnd, s.offset + 1⟩) }
  | .finished _ (some _) => s

def react (s : Scan) (c : Char) : Scan :=
  match s.mode with
  | .number n =>
    match NumberState.step n s.offset c with
    | .more n => { s with mode := .number n }
    | .complete => (s.finishNumber n).stepPlain c
    | .malformed => s.breakValue n.start (s.here .malformedNumber)
  | _ => s.stepPlain c

def step (s : Scan) (c : Char) : Scan :=
  { s.react c with offset := s.offset + c.utf8Size }

def settle (s : Scan) : Scan :=
  match s.mode with
  | .number n => if NumberPhase.isComplete n.phase then s.finishNumber n else s
  | _ => s

def breakAtEnd (s : Scan) : Scan :=
  let stop (cause : Cause) : Breach := Breach.of cause s.offset
  match s.mode with
  | .finished _ _ => s
  | .value => s.breakValue s.offset (stop .endInValue)
  | .item start items first =>
    s.breakArray start items (stop (if first then .endInArray else .endInValue))
  | .afterItem start items => s.breakArray start items (stop .endInArray)
  | .key start members first =>
    s.breakObject start members
      ⟨⟨if first then .endInObject else .endInValue, s.offset⟩, ⟨.endInObject, s.offset⟩⟩
  | .afterKey start members name keyStop =>
    { s with frames := .member start members ⟨name, keyStop, s.offset, 0⟩ :: s.frames }.breakValue
      s.offset (stop .endInObject)
  | .afterMember start members => s.breakObject start members (stop .endInObject)
  | .word start _ _ => s.breakValue start (stop .endInValue)
  | .number n => s.breakValue n.start ⟨⟨.endInValue, s.offset⟩, ⟨.malformedNumber, s.offset⟩⟩
  | .text text => s.breakText text (stop .endInString)

/-- The tree at the end of the text, and the fault of what follows its value, if anything does. -/
def finish (s : Scan) : Tree × Option Fault :=
  match s.settle.breakAtEnd.mode with
  | .finished root fault? => (root, fault?)
  | _ => (.broken s.offset (Breach.of .endInValue s.offset), none)

def run (s : Scan) (text : List Char) : Scan := text.foldl step s

@[simp] theorem run_nil (s : Scan) : s.run [] = s := rfl

@[simp] theorem run_cons (s : Scan) (c : Char) (text : List Char) :
    s.run (c :: text) = (s.step c).run text := rfl

theorem run_append (s : Scan) (text rest : List Char) :
    s.run (text ++ rest) = (s.run text).run rest :=
  List.foldl_append

end Scan

def scan (text : String) : Tree × Option Fault :=
  (Scan.init.run text.toList).finish

end MockCluster.Json
