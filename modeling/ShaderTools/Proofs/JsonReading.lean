import Mathlib.Data.List.Basic
import ShaderTools.Json.Basic

/-!
Reading JSON texts. A text is read character by character: characters make tokens, and tokens put
values together inside the arrays and objects that are still open.
-/

namespace ShaderTools.Proofs.JsonReading

section Numbers

def isDigits (t : Text) : Bool := !t.isEmpty && t.all fun c => '0' ≤ c && c ≤ '9'

/-- Whether a text is a whole number without superfluous zeros. -/
def isWholeNumber (t : Text) : Bool := isDigits t && (t = ['0'] || t.head? ≠ some '0')

def isExponent : Text → Bool
  | '+' :: digits => isDigits digits
  | '-' :: digits => isDigits digits
  | digits => isDigits digits

def isNumber (t : Text) : Bool :=
  let (mantissa, exponent?) := Text.cut 'e' (t.map fun c => if c = 'E' then 'e' else c)
  let (whole, fraction?) := Text.cut '.' (mantissa.withoutFirst '-')
  isWholeNumber whole && fraction?.all isDigits && exponent?.all isExponent

end Numbers

section Tokens

inductive Token where
  | openArray
  | closeArray
  | openObject
  | closeObject
  | comma
  | colon
  | string (text : Text)
  /-- A number, or one of the three words. -/
  | bare (text : Text)

def bareValue? (t : Text) : Option Json :=
  if t = "null".toList then some .null
  else if t = "true".toList then some (.bool true)
  else if t = "false".toList then some (.bool false)
  else if isNumber t then some (.number t)
  else none

/-- An array or an object that is open, with what stands before the value that is being read. -/
inductive Frame where
  | array (before : List Json)
  | member (before : List (Text × Json)) (key : Text)

/-- What is to come next, inside the frames that are open, the innermost one first. -/
inductive Awaited where
  | value (frames : List Frame)
  | key (before : List (Text × Json)) (frames : List Frame)
  | colon (before : List (Text × Json)) (key : Text) (frames : List Frame)
  /-- Nothing but the end of the innermost frame, or a comma: a value has been read. -/
  | close (value : Json) (frames : List Frame)

/-- Takes a token. An array or an object may only be closed behind its opening or behind a value. -/
def take? : Awaited → Token → Option Awaited
  | .value frames, .string t => some (.close (.string t) frames)
  | .value frames, .bare t => (bareValue? t).map (.close · frames)
  | .value frames, .openArray => some (.value (.array [] :: frames))
  | .value (.array [] :: frames), .closeArray => some (.close (.array []) frames)
  | .value frames, .openObject => some (.key [] frames)
  | .key [] frames, .closeObject => some (.close (.object []) frames)
  | .key before frames, .string key => some (.colon before key frames)
  | .colon before key frames, .colon => some (.value (.member before key :: frames))
  | .close v (.array before :: frames), .comma => some (.value (.array (before ++ [v]) :: frames))
  | .close v (.array before :: frames), .closeArray => some (.close (.array (before ++ [v])) frames)
  | .close v (.member before key :: frames), .comma => some (.key (before ++ [(key, v)]) frames)
  | .close v (.member before key :: frames), .closeObject =>
    some (.close (.object (before ++ [(key, v)])) frames)
  | _, _ => none

end Tokens

section Characters

/-- Where a character stands: between tokens, or in one. -/
inductive Position where
  | between
  | string (read : Text)
  | escape (read : Text)
  /-- In a code of four digits, of which some are to come; perhaps in the second half of a pair. -/
  | code (read : Text) (high? : Option Nat) (owed value : Nat)
  /-- Behind the first half of a pair. -/
  | pair (read : Text) (high : Nat)
  | pairEscape (read : Text) (high : Nat)
  | bare (read : Text)

structure State where
  position : Position
  awaited : Awaited

/-- Whether a character may stand in a bare token. -/
def isBare (c : Char) : Bool := c.isAlphanum || c = '+' || c = '-' || c = '.'

def isBlank (c : Char) : Bool := c = ' ' || c = '\t' || c = '\n' || c = '\r'

def mark? : Char → Option Token
  | '[' => some .openArray
  | ']' => some .closeArray
  | '\x7b' => some .openObject
  | '\x7d' => some .closeObject
  | ',' => some .comma
  | ':' => some .colon
  | _ => none

def hexValue? (c : Char) : Option Nat :=
  if '0' ≤ c ∧ c ≤ '9' then some (c.toNat - 48)
  else if 'a' ≤ c ∧ c ≤ 'f' then some (c.toNat - 87)
  else if 'A' ≤ c ∧ c ≤ 'F' then some (c.toNat - 55)
  else none

/-- The character of a letter behind a backslash. -/
def unescape? : Char → Option Char
  | '"' => some '"'
  | '\\' => some '\\'
  | '/' => some '/'
  | 'b' => some '\x08'
  | 'f' => some '\x0c'
  | 'n' => some '\n'
  | 'r' => some '\r'
  | 't' => some '\t'
  | _ => none

/-- Where a code leads to: a character, or the second half of a pair. -/
def ofCode? (read : Text) (high? : Option Nat) (code : Nat) : Option Position :=
  match high? with
  | none =>
    if 0xd800 ≤ code ∧ code ≤ 0xdbff then some (.pair read code)
    else if 0xdc00 ≤ code ∧ code ≤ 0xdfff then none
    else some (.string (read ++ [Char.ofNat code]))
  | some high =>
    if 0xdc00 ≤ code ∧ code ≤ 0xdfff then
      some (.string (read ++ [Char.ofNat (0x10000 + 0x400 * (high - 0xd800) + (code - 0xdc00))]))
    else none

def begin? (awaited : Awaited) (c : Char) : Option State :=
  if isBlank c then some ⟨.between, awaited⟩
  else if c = '"' then some ⟨.string [], awaited⟩
  else if isBare c then some ⟨.bare [c], awaited⟩
  else do
    let next ← take? awaited (← mark? c)
    return ⟨.between, next⟩

def readChar (s : State) (c : Char) : Option State :=
  match s.position with
  | .between => begin? s.awaited c
  | .string read =>
    if c = '"' then (take? s.awaited (.string read)).map (⟨.between, ·⟩)
    else if c = '\\' then some ⟨.escape read, s.awaited⟩
    else if c.toNat < 0x20 then none
    else some ⟨.string (read ++ [c]), s.awaited⟩
  | .escape read =>
    if c = 'u' then some ⟨.code read none 4 0, s.awaited⟩
    else (unescape? c).map fun meant => ⟨.string (read ++ [meant]), s.awaited⟩
  | .code read high? owed value => do
    let code := 16 * value + (← hexValue? c)
    if owed ≤ 1 then (ofCode? read high? code).map (⟨·, s.awaited⟩)
    else return ⟨.code read high? (owed - 1) code, s.awaited⟩
  | .pair read high => if c = '\\' then some ⟨.pairEscape read high, s.awaited⟩ else none
  | .pairEscape read high =>
    if c = 'u' then some ⟨.code read (some high) 4 0, s.awaited⟩ else none
  | .bare read =>
    if isBare c then some ⟨.bare (read ++ [c]), s.awaited⟩
    else (take? s.awaited (.bare read)).bind (begin? · c)

def valueAtEnd? (s : State) : Option Json :=
  let last? :=
    match s.position with
    | .between => some s.awaited
    | .bare read => take? s.awaited (.bare read)
    | _ => none
  match last? with
  | some (.close v []) => some v
  | _ => none

/-- The value that a text is read as, if it is JSON. -/
def decode? (t : Text) : Option Json :=
  (t.foldlM readChar ⟨.between, .value []⟩).bind valueAtEnd?

end Characters

section Runs

/-- Reading a text takes one state to another. -/
def Reads (s : State) (t : Text) (s' : State) : Prop := t.foldlM readChar s = some s'

variable {s s' s'' : State} {t t' : Text} {awaited : Awaited}

theorem Reads.append (h : Reads s t s') (h' : Reads s' t' s'') : Reads s (t ++ t') s'' := by
  unfold Reads at *
  rw [List.foldlM_append, h]
  exact h'

theorem Reads.cons {c : Char} (hc : readChar s c = some s') (h : Reads s' t s'') :
    Reads s (c :: t) s'' := by
  unfold Reads at *
  rw [List.foldlM_cons, hc]
  exact h

theorem reads_nil (s : State) : Reads s [] s := rfl

theorem reads_singleton {c : Char} (hc : readChar s c = some s') : Reads s [c] s' :=
  Reads.cons hc (reads_nil s')

theorem reads_blanks (hblank : ∀ c ∈ t, isBlank c = true) :
    Reads ⟨.between, awaited⟩ t ⟨.between, awaited⟩ := by
  induction t with
  | nil => exact reads_nil _
  | cons c rest ih =>
      have hc : readChar ⟨.between, awaited⟩ c = some ⟨.between, awaited⟩ := by
        simp [readChar, begin?, hblank c List.mem_cons_self]
      exact Reads.cons hc (ih fun d hd => hblank d (List.mem_cons_of_mem _ hd))

end Runs

section Marks

variable {awaited next : Awaited}

theorem kind_of_mark {c : Char} {token : Token} (h : mark? c = some token) :
    isBlank c = false ∧ c ≠ '"' ∧ isBare c = false := by
  unfold mark? at h
  split at h
  all_goals first | decide | cases h

theorem reads_mark {c : Char} {token : Token} (hmark : mark? c = some token)
    (htake : take? awaited token = some next) :
    Reads ⟨.between, awaited⟩ [c] ⟨.between, next⟩ := by
  obtain ⟨hblank, hquote, hbare⟩ := kind_of_mark hmark
  refine reads_singleton ?_
  simp [readChar, begin?, hblank, hquote, hbare, hmark, htake]

theorem take?_key (before : List (Text × Json)) (key : Text) (frames : List Frame) :
    take? (.key before frames) (.string key) = some (.colon before key frames) := by
  cases before <;> rfl

end Marks

end ShaderTools.Proofs.JsonReading
