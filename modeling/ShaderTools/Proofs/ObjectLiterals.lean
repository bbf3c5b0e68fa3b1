import ShaderTools.Proofs.JsonReading
import ShaderTools.Text.Blank

/-!
Object literals of a script, as far as plain words name their properties and all values are texts
between single quotes. A literal is read character by character. What a string holds are code units
of sixteen bits: those of its characters, but for what a backslash says otherwise. A backslash only
ever shortens a string, so a string holds no more units than the characters between its quotes have.
-/

namespace ShaderTools.Proofs.ObjectLiterals

open ShaderTools.Proofs.JsonReading (hexValue?)

section Strings

/-- The code units of a code point: one, or a pair of them. -/
def unitsOf (code : Nat) : List Nat :=
  if code < 0x10000 then [code]
  else [0xd800 + (code - 0x10000) / 0x400, 0xdc00 + (code - 0x10000) % 0x400]

def units (t : Text) : List Nat := t.flatMap fun c => unitsOf c.toNat

/-- Where a character between quotes stands. -/
inductive Inside where
  | plain
  | escape
  /-- Behind an escaped zero, which no digit may follow. -/
  | zero
  /-- Behind an escaped carriage return, to which a line feed belongs. -/
  | lineReturn
  /-- In a code, of which some digits are to come. -/
  | code (owed value : Nat)
  | codeStart
  /-- In a code between braces, which has no value before its first digit. -/
  | braces (value? : Option Nat)

/-- A string that is being read, with the units so far. -/
structure Quoted where
  inside : Inside
  read : List Nat

def isLineEnd (c : Char) : Bool := c = '\n' || c = '\r' || c = '\u2028' || c = '\u2029'

/-- What a character behind a backslash stands for. -/
def meaning : Char → Char
  | 'b' => '\x08'
  | 't' => '\t'
  | 'n' => '\n'
  | 'v' => '\x0b'
  | 'f' => '\x0c'
  | 'r' => '\r'
  | c => c

def readPlain (read : List Nat) (c : Char) : Option Quoted :=
  if c = '\\' then some ⟨.escape, read⟩
  else if c = '\n' ∨ c = '\r' then none
  else some ⟨.plain, read ++ unitsOf c.toNat⟩

/-- Reads behind a backslash. An escaped line end is left out, and digits mean nothing. -/
def readEscape (read : List Nat) (c : Char) : Option Quoted :=
  if c = 'x' then some ⟨.code 2 0, read⟩
  else if c = 'u' then some ⟨.codeStart, read⟩
  else if c = '0' then some ⟨.zero, read ++ [0]⟩
  else if c.isDigit then none
  else if c = '\r' then some ⟨.lineReturn, read⟩
  else if isLineEnd c then some ⟨.plain, read⟩
  else some ⟨.plain, read ++ unitsOf (meaning c).toNat⟩

def readCode (read : List Nat) (owed value : Nat) (c : Char) : Option Quoted :=
  (hexValue? c).map fun digit =>
    if owed ≤ 1 then ⟨.plain, read ++ [16 * value + digit]⟩
    else ⟨.code (owed - 1) (16 * value + digit), read⟩

def readBraces (read : List Nat) (value? : Option Nat) (c : Char) : Option Quoted :=
  if c = '\x7d' then value?.map fun value => ⟨.plain, read ++ unitsOf value⟩
  else
    ((hexValue? c).map (16 * value?.getD 0 + ·)).bind fun value =>
      if value ≤ 0x10ffff then some ⟨.braces (some value), read⟩ else none

/-- Reads a character that does not end the string. -/
def Quoted.readChar (q : Quoted) (c : Char) : Option Quoted :=
  match q.inside with
  | .plain => readPlain q.read c
  | .escape => readEscape q.read c
  | .zero => if c.isDigit then none else readPlain q.read c
  | .lineReturn => if c = '\n' then some ⟨.plain, q.read⟩ else readPlain q.read c
  | .code owed value => readCode q.read owed value c
  | .codeStart => if c = '\x7b' then some ⟨.braces none, q.read⟩ else readCode q.read 4 0 c
  | .braces value? => readBraces q.read value? c

/-- Whether a quote ends the string. -/
def Quoted.mayEnd (q : Quoted) : Bool :=
  match q.inside with
  | .plain | .zero | .lineReturn => true
  | _ => false

end Strings

section Literals

/-- Where a character of a literal stands. -/
inductive Position where
  | start
  /-- Before the name of a property, or the closing brace. -/
  | name
  | inName (read : Text)
  | colon (name : Text)
  | value (name : Text)
  | string (name : Text) (q : Quoted)
  /-- Behind a value. -/
  | comma
  | done

/-- A literal that is being read, with its members in the order in which they stand. -/
structure State where
  position : Position
  members : List (Text × List Nat)

/-- Whether a character is white space or ends a line. -/
def isSpace (c : Char) : Bool := (Text.isBlank c && c ≠ '\x85') || c = '\ufeff'

def startsName (c : Char) : Bool := c.isAlpha || c = '$' || c = '_'

def readColon (s : State) (name : Text) (c : Char) : Option State :=
  if isSpace c then some ⟨.colon name, s.members⟩
  else if c = ':' then some ⟨.value name, s.members⟩
  else none

def readChar (s : State) (c : Char) : Option State :=
  match s.position with
  | .start =>
    if isSpace c then some s else if c = '\x7b' then some ⟨.name, s.members⟩ else none
  | .name =>
    if isSpace c then some s
    else if startsName c then some ⟨.inName [c], s.members⟩
    else if c = '\x7d' then some ⟨.done, s.members⟩
    else none
  | .inName read =>
    if startsName c || c.isDigit then some ⟨.inName (read ++ [c]), s.members⟩
    else readColon s read c
  | .colon name => readColon s name c
  | .value name =>
    if isSpace c then some s
    else if c = '\'' then some ⟨.string name ⟨.plain, []⟩, s.members⟩
    else none
  | .string name q =>
    if c = '\'' ∧ q.mayEnd then some ⟨.comma, s.members ++ [(name, q.read)]⟩
    else (q.readChar c).map fun next => ⟨.string name next, s.members⟩
  | .comma =>
    if isSpace c then some s
    else if c = ',' then some ⟨.name, s.members⟩
    else if c = '\x7d' then some ⟨.done, s.members⟩
    else none
  | .done => if isSpace c then some s else none

def membersAtEnd? (s : State) : Option (List (Text × List Nat)) :=
  match s.position with
  | .done => some s.members
  | _ => none

/-- The members of an object literal, if a text is one. -/
def members? (t : Text) : Option (List (Text × List Nat)) :=
  (t.foldlM readChar ⟨.start, []⟩).bind membersAtEnd?

/-- The value of a property: of several members of its name the last one counts. -/
def property? (members : List (Text × List Nat)) (name : Text) : Option (List Nat) :=
  members.reverse.lookup name

/-- A text is the literal of an object with some properties and no others. -/
def IsLiteralOf (t : Text) (properties : List (Text × Text)) : Prop :=
  ∃ members, members? t = some members ∧
    ∀ name, property? members name = (properties.lookup name).map units

example : members? "\x7ba: 'it\\'s \\x41\\u00e9\\u\x7b1F600\x7d', $1:'\\\n',\x7d".toList =
    some [(['a'], units "it's Aé😀".toList), ("$1".toList, [])] := by
  decide +kernel

end Literals

section Sizes

/-- How many code units a string has; an open brace counts, as its code may have a second unit. -/
def Quoted.size (q : Quoted) : Nat :=
  match q.inside with
  | .braces _ => q.read.length + 1
  | _ => q.read.length

variable {q next : Quoted} {read : List Nat} {c : Char}

theorem length_unitsOf (code : Nat) : 1 ≤ (unitsOf code).length ∧ (unitsOf code).length ≤ 2 := by
  unfold unitsOf
  split <;> simp

theorem length_unitsOf_meaning (c : Char) :
    (unitsOf (meaning c).toNat).length ≤ (unitsOf c.toNat).length := by
  unfold meaning
  split <;> first | decide | exact Nat.le_refl _

theorem size_readPlain (h : readPlain read c = some next) :
    next.size ≤ read.length + (unitsOf c.toNat).length := by
  unfold readPlain at h
  split_ifs at h <;> cases h <;> simp [Quoted.size]

theorem size_readEscape (h : readEscape read c = some next) :
    next.size ≤ read.length + (unitsOf c.toNat).length := by
  have hc := length_unitsOf c.toNat
  have hmeaning := length_unitsOf_meaning c
  unfold readEscape at h
  split_ifs at h <;> cases h <;> simp [Quoted.size] <;> omega

theorem size_readCode {owed value : Nat} (h : readCode read owed value c = some next) :
    next.size ≤ read.length + 1 := by
  obtain ⟨digit, -, rfl⟩ := Option.map_eq_some_iff.mp h
  split <;> simp [Quoted.size]

theorem size_readBraces {value? : Option Nat} (h : readBraces read value? c = some next) :
    next.size ≤ read.length + 2 := by
  unfold readBraces at h
  split at h
  · obtain ⟨value, -, rfl⟩ := Option.map_eq_some_iff.mp h
    have hvalue := length_unitsOf value
    simp [Quoted.size, hvalue]
  · obtain ⟨value, -, hvalue⟩ := Option.bind_eq_some_iff.mp h
    split at hvalue <;> cases hvalue
    simp [Quoted.size]

/-- A string does not grow by more units than the character that is read has. -/
theorem Quoted.size_readChar (h : q.readChar c = some next) :
    next.size ≤ q.size + (unitsOf c.toNat).length := by
  obtain ⟨inside, read⟩ := q
  have hc := length_unitsOf c.toNat
  cases inside with
  | plain => exact size_readPlain h
  | escape => exact size_readEscape h
  | zero =>
      simp only [Quoted.readChar] at h
      split at h
      · cases h
      · exact size_readPlain h
  | lineReturn =>
      simp only [Quoted.readChar] at h
      split at h
      · cases h
        exact Nat.le_add_right _ _
      · exact size_readPlain h
  | code owed value => exact Nat.le_trans (size_readCode h) (Nat.add_le_add_left hc.1 _)
  | codeStart =>
      simp only [Quoted.readChar] at h
      split at h
      · cases h
        exact Nat.add_le_add_left hc.1 _
      · exact Nat.le_trans (size_readCode h) (Nat.add_le_add_left hc.1 _)
  | braces value? =>
      exact Nat.le_trans (size_readBraces h) (Nat.add_le_add_left hc.1 (read.length + 1))

end Sizes

section Runs

/-- Reading a text takes one state to another. -/
def Reads (s : State) (t : Text) (s' : State) : Prop := t.foldlM readChar s = some s'

variable {s s' s'' : State} {t t' : Text} {c : Char} {m n : Nat}

theorem Reads.unique (h : Reads s t s') (h' : Reads s t s'') : s' = s'' := by
  unfold Reads at h
  exact Option.some.inj (h.symm.trans h')

theorem reads_append_iff : Reads s (t ++ t') s'' ↔ ∃ s', Reads s t s' ∧ Reads s' t' s'' := by
  simp only [Reads, List.foldlM_append, Option.bind_eq_bind, Option.bind_eq_some_iff]

theorem Reads.append (h : Reads s t s') (h' : Reads s' t' s'') : Reads s (t ++ t') s'' :=
  reads_append_iff.mpr ⟨s', h, h'⟩

theorem reads_cons_iff : Reads s (c :: t) s'' ↔ ∃ s', readChar s c = some s' ∧ Reads s' t s'' := by
  simp only [Reads, List.foldlM_cons, Option.bind_eq_bind, Option.bind_eq_some_iff]

theorem members?_eq_some_iff {members : List (Text × List Nat)} :
    members? t = some members ↔ Reads ⟨.start, []⟩ t ⟨.done, members⟩ := by
  rw [members?, Option.bind_eq_some_iff]
  constructor
  · rintro ⟨⟨position, read⟩, hread, hend⟩
    cases position <;> cases hend
    exact hread
  · intro h
    exact ⟨_, h, rfl⟩

/-- How many code units are held of a string that is not ended. -/
def State.size (s : State) : Nat :=
  match s.position with
  | .string _ q => q.size
  | _ => 0

/-- What reading characters of a number of code units may do: what is held grows by no more than
that, and the members that are added were held, and ended by one of the characters. -/
structure Adds (s : State) (n : Nat) (s' : State) : Prop where
  size : s'.size ≤ s.size + n
  members : ∃ new, s'.members = s.members ++ new ∧ ∀ m ∈ new, m.2.length < s.size + n

theorem adds_of_empty (hsize : s'.size = 0) (hmembers : s'.members = s.members) : Adds s n s' :=
  ⟨hsize ▸ Nat.zero_le _, [], by simp [hmembers], by simp⟩

theorem Adds.trans (h : Adds s m s') (h' : Adds s' n s'') : Adds s (m + n) s'' := by
  obtain ⟨new, hnew, hsmall⟩ := h.members
  obtain ⟨new', hnew', hsmall'⟩ := h'.members
  have hsize := h.size
  refine ⟨?_, new ++ new', ?_, ?_⟩
  · have hsize' := h'.size
    omega
  · rw [hnew', hnew, List.append_assoc]
  · intro member hmember
    rcases List.mem_append.mp hmember with hmember | hmember
    · have hlength := hsmall member hmember
      omega
    · have hlength := hsmall' member hmember
      omega

theorem adds_readColon {name : Text} (h : readColon s name c = some s') : Adds s n s' := by
  unfold readColon at h
  split_ifs at h <;> cases h <;> exact adds_of_empty rfl rfl

theorem adds_readChar (h : readChar s c = some s') : Adds s (unitsOf c.toNat).length s' := by
  obtain ⟨position, members⟩ := s
  cases position with
  | string name q =>
      simp only [readChar] at h
      split at h
      · cases h
        have hunits := (length_unitsOf c.toNat).1
        have hsize : q.read.length ≤ q.size := by
          unfold Quoted.size
          split <;> omega
        refine ⟨Nat.zero_le _, [(name, q.read)], rfl, List.forall_mem_singleton.mpr ?_⟩
        change q.read.length < q.size + _
        omega
      · obtain ⟨next, hnext, rfl⟩ := Option.map_eq_some_iff.mp h
        exact ⟨Quoted.size_readChar hnext, [], by simp, by simp⟩
  | inName read =>
      simp only [readChar] at h
      split at h
      · cases h
        exact adds_of_empty rfl rfl
      · exact adds_readColon h
  | colon name => exact adds_readColon h
  | _ =>
      simp only [readChar] at h
      split_ifs at h <;> cases h <;> exact adds_of_empty rfl rfl

theorem adds_reads (h : Reads s t s') : Adds s (units t).length s' := by
  induction t generalizing s with
  | nil =>
      cases h
      exact ⟨Nat.le_refl _, [], by simp, by simp⟩
  | cons c rest ih =>
      obtain ⟨next, hc, hrest⟩ := reads_cons_iff.mp h
      rw [units, List.flatMap_cons, List.length_append]
      exact (adds_readChar hc).trans (ih hrest)

/-- A string that is begun becomes a member, unless it is still not ended. -/
theorem member_of_reads {name : Text} {q : Quoted} {members : List (Text × List Nat)}
    (h : Reads ⟨.string name q, members⟩ t s') :
    (∃ q', s' = ⟨.string name q', members⟩) ∨
      ∃ v more, s'.members = members ++ (name, v) :: more := by
  induction t generalizing q with
  | nil =>
      cases h
      exact Or.inl ⟨q, rfl⟩
  | cons c rest ih =>
      obtain ⟨next, hc, hrest⟩ := reads_cons_iff.mp h
      simp only [readChar] at hc
      split at hc
      · cases hc
        obtain ⟨more, hmore, -⟩ := (adds_reads hrest).members
        exact Or.inr ⟨q.read, more, by simp [hmore]⟩
      · obtain ⟨q', -, rfl⟩ := Option.map_eq_some_iff.mp hc
        exact ih hrest

end Runs

section Quotes

/-- Whether no character of a text has to be escaped between quotes, if none ends a line. -/
def IsSafe (t : Text) : Prop := ∀ c ∈ t, c ≠ '\'' ∧ c ≠ '\\'

/-- No character of a text ends a line in a string. -/
def IsOneLine (t : Text) : Prop := ∀ c ∈ t, c ≠ '\n' ∧ c ≠ '\r'

variable {s : State} {t : Text} {c : Char} {name : Text} {read : List Nat}
  {members : List (Text × List Nat)}

theorem length_units_cons (c : Char) (t : Text) :
    (units (c :: t)).length = (unitsOf c.toNat).length + (units t).length := by
  rw [units, List.flatMap_cons, List.length_append, units]

theorem length_units_append (t t' : Text) :
    (units (t ++ t')).length = (units t).length + (units t').length := by
  simp [units]

theorem reads_safe (hsafe : IsSafe t) (hline : IsOneLine t) :
    Reads ⟨.string name ⟨.plain, read⟩, members⟩ t
      ⟨.string name ⟨.plain, read ++ units t⟩, members⟩ := by
  induction t generalizing read with
  | nil => simp [Reads, units]
  | cons c rest ih =>
      obtain ⟨⟨hquote, hslash⟩, hsafe⟩ := List.forall_mem_cons.mp hsafe
      obtain ⟨⟨hfeed, hreturn⟩, hline⟩ := List.forall_mem_cons.mp hline
      refine reads_cons_iff.mpr ⟨⟨.string name ⟨.plain, read ++ unitsOf c.toNat⟩, members⟩, ?_, ?_⟩
      · simp [readChar, Quoted.readChar, readPlain, hquote, hslash, hfeed, hreturn]
      · have hrest := @ih (read ++ unitsOf c.toNat) hsafe hline
        rwa [List.append_assoc] at hrest

/-- A mark that has to be escaped adds no unit to a string, and may end it. -/
theorem readChar_mark (hc : c = '\'' ∨ c = '\\')
    (h : readChar ⟨.string name ⟨.plain, read⟩, members⟩ c = some s) :
    s.size ≤ read.length ∧
      ∃ new, s.members = members ++ new ∧ ∀ m ∈ new, m.2.length ≤ read.length := by
  rcases hc with rfl | rfl
  · cases h
    exact ⟨Nat.zero_le _, _, rfl, List.forall_mem_singleton.mpr (Nat.le_refl _)⟩
  · cases h
    exact ⟨Nat.le_refl _, [], by simp, by simp⟩

theorem reads_quoted (hsafe : IsSafe t) (hline : IsOneLine t) :
    Reads ⟨.string name ⟨.plain, []⟩, members⟩ (t ++ ['\''])
      ⟨.comma, members ++ [(name, units t)]⟩ :=
  (reads_safe hsafe hline).append rfl

theorem exists_mark (h : ¬ IsSafe t) :
    ∃ front c rest, t = front ++ c :: rest ∧ IsSafe front ∧ (c = '\'' ∨ c = '\\') := by
  induction t with
  | nil => exact absurd (fun _ hc => absurd hc List.not_mem_nil) h
  | cons c rest ih =>
      by_cases hc : c = '\'' ∨ c = '\\'
      · exact ⟨[], c, rest, rfl, fun _ hd => absurd hd List.not_mem_nil, hc⟩
      · rw [not_or] at hc
        have hrest : ¬ IsSafe rest := fun hsafe => h (List.forall_mem_cons.mpr ⟨hc, hsafe⟩)
        obtain ⟨front, d, back, rfl, hfront, hd⟩ := ih hrest
        exact ⟨c :: front, d, back, rfl, List.forall_mem_cons.mpr ⟨hc, hfront⟩, hd⟩

/-- If a character between quotes has to be escaped and is not, whatever is read there is shorter
than what stands there. -/
theorem members_of_mark (hline : IsOneLine t) (hmarked : ¬ IsSafe t)
    (h : Reads ⟨.string name ⟨.plain, []⟩, members⟩ (t ++ ['\'']) s) :
    ∃ new, s.members = members ++ new ∧ ∀ m ∈ new, m.2.length < (units t).length := by
  obtain ⟨front, c, rest, rfl, hfront, hc⟩ := exists_mark hmarked
  rw [List.append_assoc, List.cons_append, reads_append_iff] at h
  obtain ⟨atMark, hread, h⟩ := h
  obtain ⟨next, hmark, hrest⟩ := reads_cons_iff.mp h
  have hatMark : atMark = ⟨.string name ⟨.plain, units front⟩, members⟩ :=
    hread.unique (reads_safe hfront (List.forall_mem_append.mp hline).1)
  subst hatMark
  obtain ⟨hsize, first, hfirst, hshort⟩ := readChar_mark hc hmark
  obtain ⟨more, hmore, hsmall⟩ := (adds_reads hrest).members
  have hlength : (units (front ++ c :: rest)).length =
      (units front).length + (units (rest ++ ['\''])).length := by
    have hc : (unitsOf c.toNat).length = (units ['\'']).length := by
      rcases hc with rfl | rfl <;> rfl
    rw [length_units_append, length_units_append, length_units_cons, hc,
      Nat.add_comm (units rest).length]
  have hquote : 0 < (units (rest ++ ['\''])).length := by
    rw [length_units_append]
    exact Nat.lt_add_left _ (by decide)
  refine ⟨first ++ more, by rw [hmore, hfirst, List.append_assoc], ?_⟩
  intro m hm
  rcases List.mem_append.mp hm with hm | hm
  · have hlong := hshort m hm
    omega
  · have hlong := hsmall m hm
    omega

end Quotes

section Properties

variable {members new : List (Text × List Nat)} {name other : Text} {v : List Nat}

theorem mem_of_property? (h : property? members name = some v) : (name, v) ∈ members := by
  obtain ⟨before, after, hmembers, -⟩ := List.lookup_eq_some_iff.mp h
  rw [← List.mem_reverse, hmembers]
  exact List.mem_append_right before List.mem_cons_self

/-- A member of a name hides all members of that name before it. -/
theorem property?_append_of_mem (h : (name, v) ∈ new) :
    property? (members ++ new) name = property? new name := by
  rw [property?, property?, List.reverse_append, List.lookup_append]
  cases hfound : new.reverse.lookup name with
  | some value => rfl
  | none =>
      have hname := List.lookup_eq_none_iff.mp hfound (name, v) (List.mem_reverse.mpr h)
      simp at hname

theorem property?_concat_of_ne (h : name ≠ other) :
    property? (members ++ [(other, v)]) name = property? members name := by
  simp [property?, List.lookup_cons, beq_eq_false_iff_ne.mpr h]

/-- Members of two names are the properties of these names, and there are no others. -/
theorem property?_pair (h : name ≠ other) (t t' : Text) (searched : Text) :
    property? [(name, units t), (other, units t')] searched =
      ([(name, t), (other, t')].lookup searched).map units := by
  have hreverse : property? [(name, units t), (other, units t')] searched =
      [(other, units t'), (name, units t)].lookup searched := rfl
  rw [hreverse]
  by_cases hname : searched = name
  · subst hname
    simp [List.lookup_cons, beq_eq_false_iff_ne.mpr h]
  by_cases hother : searched = other
  · subst hother
    simp [List.lookup_cons, beq_eq_false_iff_ne.mpr hname]
  · simp [List.lookup_cons, beq_eq_false_iff_ne.mpr hname, beq_eq_false_iff_ne.mpr hother]

/-- A property has the text between the quotes of its last member for its value only if no character
there has to be escaped: what is read there of any other text is shorter. -/
theorem safe_of_property? {s : State} {t : Text} (hline : IsOneLine t)
    (h : Reads ⟨.string name ⟨.plain, []⟩, members⟩ (t ++ ['\'']) s)
    (hended : ∀ name q, s.position ≠ .string name q)
    (hvalue : property? s.members name = some (units t)) : IsSafe t := by
  by_contra hmarked
  obtain ⟨new, hnew, hshort⟩ := members_of_mark hline hmarked h
  rcases member_of_reads h with ⟨q, rfl⟩ | ⟨v, more, hmore⟩
  · exact hended name q rfl
  · have hmember : (name, v) ∈ new := by
      rw [hnew, List.append_cancel_left_eq] at hmore
      rw [hmore]
      exact List.mem_cons_self
    rw [hnew, property?_append_of_mem hmember] at hvalue
    exact absurd (hshort _ (mem_of_property? hvalue)) (Nat.lt_irrefl _)

end Properties

end ShaderTools.Proofs.ObjectLiterals
