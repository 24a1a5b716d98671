import SkillAudit.Toml.Value
/-!
# SkillAudit.Toml.Reader

Reading TOML text. Lines end with a line feed, with or without a carriage return in front of it;
control characters are refused everywhere but as line ends and tabs.
-/

namespace SkillAudit.Toml

/-! ## Blanks, comments and line ends -/

/-- Space and tab. -/
def isBlank (c : Char) : Bool := c == ' ' || c == '\t'

/-- The characters of comments: all but control characters, and tab. -/
def isPlain (c : Char) : Bool :=
  let n := c.toNat
  n == 9 || (32 ≤ n && n != 127)

/-- The text without blanks at its start. -/
def skipBlanks (s : List Char) : List Char := s.dropWhile isBlank

/-- The text behind the end of a line that stands here. -/
def afterNewline? : List Char → Option (List Char)
  | '\n' :: rest => some rest
  | '\r' :: '\n' :: rest => some rest
  | _ => none

/-- The text without a comment at its start. -/
def skipComment (s : List Char) : List Char :=
  match s with
  | '#' :: rest => rest.dropWhile isPlain
  | _ => s

/-- The text behind blanks, a comment, and the end of the line or of the text. -/
def afterLine? (s : List Char) : Option (List Char) :=
  match skipComment (skipBlanks s) with
  | [] => some []
  | s => afterNewline? s

/-- The text without blanks, comments and ends of lines at its start. -/
def skipLines : Nat → List Char → List Char
  | 0, s => s
  | fuel + 1, s =>
    match s with
    | [] => []
    | c :: rest =>
      if isBlank c then skipLines fuel rest
      else if c = '#' then skipLines fuel (rest.dropWhile isPlain)
      else
        match afterNewline? (c :: rest) with
        | some rest => skipLines fuel rest
        | none => c :: rest

/-! ## Strings -/

/-- The value of a hexadecimal digit. -/
def hexValue? (c : Char) : Option Nat :=
  if c.isDigit then some (c.toNat - 48)
  else if 'a' ≤ c ∧ c ≤ 'f' then some (c.toNat - 87)
  else if 'A' ≤ c ∧ c ≤ 'F' then some (c.toNat - 55)
  else none

/-- Reads the number of a character in `n` hexadecimal digits. -/
def readCode? : Nat → Nat → List Char → Option (Char × List Char)
  | 0, code, rest => if h : code.isValidChar then some (Char.ofNatAux code h, rest) else none
  | _ + 1, _, [] => none
  | n + 1, code, c :: rest => (hexValue? c).bind fun d => readCode? n (code * 16 + d) rest

/-- Reads an escape behind its backslash. -/
def readEscape? : List Char → Option (Char × List Char)
  | [] => none
  | c :: rest =>
    if c = 'b' then some ('\x08', rest)
    else if c = 't' then some ('\t', rest)
    else if c = 'n' then some ('\n', rest)
    else if c = 'f' then some ('\x0c', rest)
    else if c = 'r' then some ('\r', rest)
    else if c = '"' ∨ c = '\\' then some (c, rest)
    else if c = 'u' then readCode? 4 0 rest
    else if c = 'U' then readCode? 8 0 rest
    else none

/-- The text behind the end of a line that a backslash takes away, with the blanks in front of it
    and the blanks and lines behind it. -/
def afterJoin? (s : List Char) : Option (List Char) :=
  (afterNewline? (skipBlanks s)).map skip
where
  /-- Skips blanks and ends of lines. -/
  skip : List Char → List Char
    | '\r' :: '\n' :: rest => skip rest
    | c :: rest => if isBlank c || c == '\n' then skip rest else c :: rest
    | [] => []

/-- Reads a string behind its opening mark. With escapes, a backslash starts one; `text` holds what
    was read, last character first. -/
def readString? (quote : Char) (escapes : Bool) :
    Nat → List Char → List Char → Option (String × List Char)
  | 0, _, _ => none
  | _ + 1, _, [] => none
  | fuel + 1, text, c :: rest =>
    if c = quote then some (String.ofList text.reverse, rest)
    else if escapes && c == '\\' then
      match readEscape? rest with
      | some (c, rest) => readString? quote escapes fuel (c :: text) rest
      | none => none
    else if isPlain c then readString? quote escapes fuel (c :: text) rest
    else none

/-- Reads a string of several lines behind its opening marks. Three marks close it; up to two more
    in front of them belong to it. -/
def readLongString? (quote : Char) (escapes : Bool) :
    Nat → List Char → List Char → Option (String × List Char)
  | 0, _, _ => none
  | _ + 1, _, [] => none
  | fuel + 1, text, c :: rest =>
    if c = quote then
      let run := ((c :: rest).takeWhile (· == quote)).length
      if run < 3 then readLongString? quote escapes fuel (c :: text) rest
      else
        let extra := min (run - 3) 2
        let text := List.replicate extra quote ++ text
        some (String.ofList text.reverse, (c :: rest).drop (3 + extra))
    else if escapes && c == '\\' then
      match afterJoin? rest with
      | some rest => readLongString? quote escapes fuel text rest
      | none =>
        match readEscape? rest with
        | some (c, rest) => readLongString? quote escapes fuel (c :: text) rest
        | none => none
    else
      match afterNewline? (c :: rest) with
      | some rest => readLongString? quote escapes fuel ('\n' :: text) rest
      | none => if isPlain c then readLongString? quote escapes fuel (c :: text) rest else none

/-- Reads a string from its opening mark. -/
def readText? (s : List Char) : Option (String × List Char) :=
  match s with
  | [] => none
  | quote :: rest =>
    let escapes := quote == '"'
    match rest with
    | a :: b :: inner =>
      if a = quote ∧ b = quote then
        let inner := (afterNewline? inner).getD inner
        readLongString? quote escapes (inner.length + 1) [] inner
      else readString? quote escapes (rest.length + 1) [] rest
    | _ => readString? quote escapes (rest.length + 1) [] rest

/-! ## Keys -/

/-- The characters of bare keys. -/
def isBareKeyChar (c : Char) : Bool := c.isAlphanum || c == '_' || c == '-'

/-- Reads one key, bare or quoted. -/
def readSimpleKey? (s : List Char) : Option (String × List Char) :=
  match s with
  | [] => none
  | c :: rest =>
    if c = '"' ∨ c = '\'' then readString? c (c == '"') (rest.length + 1) [] rest
    else
      let key := s.takeWhile isBareKeyChar
      if key.isEmpty then none else some (String.ofList key, s.dropWhile isBareKeyChar)

/-- How deep keys and values may be nested. -/
def depthLimit : Nat := 80

/-- Reads a dotted key with the blanks around its parts, over at most as many parts as fit the
    depth. -/
def readKey? : Nat → List Char → Option (List String × List Char)
  | 0, _ => none
  | fuel + 1, s =>
    match readSimpleKey? (skipBlanks s) with
    | none => none
    | some (key, rest) =>
      match skipBlanks rest with
      | '.' :: rest => (readKey? fuel rest).map fun p => (key :: p.1, p.2)
      | rest => some ([key], rest)

/-! ## Numbers -/

/-- The digits of a run in which single underscores stand between digits, and the text behind it;
    none if the run is empty or has an underscore elsewhere. -/
def readDigits? (isDigit : Char → Bool) : List Char → Option (List Char × List Char)
  | c :: rest =>
    if !isDigit c then none
    else
      match rest with
      | '_' :: d :: more => (readDigits? isDigit (d :: more)).map fun p => (c :: p.1, p.2)
      | '_' :: [] => none
      | d :: more =>
        if isDigit d then (readDigits? isDigit (d :: more)).map fun p => (c :: p.1, p.2)
        else some ([c], d :: more)
      | [] => some ([c], [])
  | [] => none

/-- The number that digits spell. -/
def digitsToNat (base : Nat) (digits : List Char) : Nat :=
  digits.foldl (fun n c => n * base + (hexValue? c).getD 0) 0

/-- A whole number of at most 64 bits. -/
def int? (n : Int) : Option Value :=
  if -(Nat.pow 2 63 : Int) ≤ n ∧ n < (Nat.pow 2 63 : Int) then some (.int n) else none

/-- Reads a whole number in another base behind the mark of the base. -/
def readBased? (base : Nat) (s : List Char) : Option (Value × List Char) := do
  let (digits, rest) ← readDigits? (fun c => (hexValue? c).any (· < base)) s
  let v ← int? (digitsToNat base digits)
  return (v, rest)

/-- Reads the fraction of a number, if there is one. -/
def readFraction? (s : List Char) : Option (List Char × List Char) :=
  match s with
  | '.' :: rest => readDigits? Char.isDigit rest
  | _ => some ([], s)

/-- Reads the exponent of a number, if there is one. -/
def readExponent? (s : List Char) : Option (Option Int × List Char) :=
  match s with
  | e :: rest =>
    if e = 'e' ∨ e = 'E' then
      let (negative, rest) := match rest with
        | '-' :: r => (true, r)
        | '+' :: r => (false, r)
        | r => (false, r)
      (readDigits? Char.isDigit rest).map fun p =>
        let n := (digitsToNat 10 p.1 : Int)
        (some (if negative then -n else n), p.2)
    else some (none, s)
  | [] => some (none, [])

/-- Reads a number without a base behind its sign. No number but zero starts with a zero. -/
def readDecimal? (negative : Bool) (s : List Char) : Option (Value × List Char) := do
  let (whole, rest) ← match s with
    | '0' :: rest => some (['0'], rest)
    | _ => readDigits? Char.isDigit s
  let (places, rest) ← readFraction? rest
  let (exponent, rest) ← readExponent? rest
  let n := digitsToNat 10 (whole ++ places)
  if places.isEmpty && exponent.isNone then
    let v ← int? (if negative then -(n : Int) else n)
    return (v, rest)
  else
    return (.float (.decimal ⟨negative, n, exponent.getD 0 - places.length⟩), rest)

/-- Reads a word, and gives a value for it. -/
def readWord? (word : String) (value : Value) (s : List Char) : Option (Value × List Char) :=
  if word.toList.isPrefixOf s then some (value, s.drop word.length) else none

/-- Reads a number behind its sign. -/
def readUnsigned? (negative : Bool) (s : List Char) : Option (Value × List Char) :=
  match s with
  | 'i' :: _ => readWord? "inf" (.float (.infinity negative)) s
  | 'n' :: _ => readWord? "nan" (.float .notANumber) s
  | _ => readDecimal? negative s

/-! ## Dates -/

/-- Reads a number of `n` digits that lies between two bounds. -/
def readBounded? (n low high : Nat) (s : List Char) : Option (Nat × List Char) :=
  let digits := s.take n
  let value := digitsToNat 10 digits
  if digits.length = n ∧ digits.all Char.isDigit ∧ low ≤ value ∧ value ≤ high then
    some (value, s.drop n)
  else none

/-- Reads a fixed character. -/
def readMark? (c : Char) : List Char → Option (List Char)
  | d :: rest => if c = d then some rest else none
  | [] => none

/-- How many days a month has. -/
def daysIn (year month : Nat) : Nat :=
  if month = 2 then
    if year % 4 = 0 ∧ (year % 100 ≠ 0 ∨ year % 400 = 0) then 29 else 28
  else if month = 4 ∨ month = 6 ∨ month = 9 ∨ month = 11 then 30
  else 31

/-- The text behind a date without a time. -/
def afterDate? (s : List Char) : Option (List Char) := do
  let (year, s) ← readBounded? 4 0 9999 s
  let s ← readMark? '-' s
  let (month, s) ← readBounded? 2 1 12 s
  let s ← readMark? '-' s
  let (_, s) ← readBounded? 2 1 (daysIn year month) s
  return s

/-- The text behind a time of day. -/
def afterTime? (s : List Char) : Option (List Char) := do
  let (_, s) ← readBounded? 2 0 23 s
  let s ← readMark? ':' s
  let (_, s) ← readBounded? 2 0 59 s
  let s ← readMark? ':' s
  let (_, s) ← readBounded? 2 0 60 s
  match s with
  | '.' :: rest => if (rest.takeWhile Char.isDigit).isEmpty then none else some (rest.dropWhile Char.isDigit)
  | s => some s

/-- The text behind the distance from universal time, if there is one. -/
def afterOffset? (s : List Char) : Option (List Char) :=
  match s with
  | [] => some []
  | c :: rest =>
    if c = 'Z' ∨ c = 'z' then some rest
    else if c = '+' ∨ c = '-' then do
      let (_, s) ← readBounded? 2 0 23 rest
      let s ← readMark? ':' s
      let (_, s) ← readBounded? 2 0 59 s
      return s
    else some s

/-- The text behind a date with its time, if it has one. A space parts the two only if a time
    follows. -/
def afterDateTime? (s : List Char) : Option (List Char) :=
  match afterDate? s with
  | none => afterTime? s
  | some s =>
    match s with
    | c :: rest =>
      if c = 'T' ∨ c = 't' then (afterTime? rest).bind afterOffset?
      else if c = ' ' ∧ rest.head?.any Char.isDigit then (afterTime? rest).bind afterOffset?
      else some s
    | [] => some []

/-! ## Values -/

/-- Reads a value that holds no others. -/
def readAtom? (s : List Char) : Option (Value × List Char) :=
  match s with
  | 't' :: _ => readWord? "true" (.bool true) s
  | 'f' :: _ => readWord? "false" (.bool false) s
  | '"' :: _ => (readText? s).map fun p => (.str p.1, p.2)
  | '\'' :: _ => (readText? s).map fun p => (.str p.1, p.2)
  | '+' :: rest => readUnsigned? false rest
  | '-' :: rest => readUnsigned? true rest
  | '0' :: 'x' :: rest => readBased? 16 rest
  | '0' :: 'o' :: rest => readBased? 8 rest
  | '0' :: 'b' :: rest => readBased? 2 rest
  | _ =>
    match afterDateTime? s with
    | some rest => some (.date, rest)
    | none => readUnsigned? false s

mutual

/-- Reads a value at a depth. The fuel bounds the number of steps. -/
def readValue? (fuel depth : Nat) (s : List Char) : Option (Value × List Char) :=
  match fuel with
  | 0 => none
  | fuel + 1 =>
    match s with
    | '[' :: rest =>
      if depthLimit ≤ depth + 1 then none
      else readItems? fuel (depth + 1) [] (skipLines rest.length rest)
    | '\x7b' :: rest =>
      if depthLimit ≤ depth + 1 then none
      else
        match skipBlanks rest with
        | '\x7d' :: rest => some (.table [], rest)
        | rest => readPairs? fuel (depth + 1) [] rest
    | s => readAtom? s

/-- Reads the items of an array that are left; `read` holds the others, last one first. -/
def readItems? (fuel depth : Nat) (read : List Value) (s : List Char) :
    Option (Value × List Char) :=
  match fuel with
  | 0 => none
  | fuel + 1 =>
    match s with
    | ']' :: rest => some (.arr read.reverse, rest)
    | s =>
      match readValue? fuel depth s with
      | none => none
      | some (v, rest) =>
        match skipLines rest.length rest with
        | ',' :: rest => readItems? fuel depth (v :: read) (skipLines rest.length rest)
        | ']' :: rest => some (.arr (v :: read).reverse, rest)
        | _ => none

/-- Reads the pairs of an inline table that are left; `read` holds the others, last one first. -/
def readPairs? (fuel depth : Nat) (read : List (List String × Value)) (s : List Char) :
    Option (Value × List Char) :=
  match fuel with
  | 0 => none
  | fuel + 1 =>
    match readKey? (depthLimit - 1) s with
    | some (path, '=' :: rest) =>
      match readValue? fuel depth (skipBlanks rest) with
      | none => none
      | some (v, rest) =>
        let read := (path, v) :: read
        match skipBlanks rest with
        | ',' :: rest => readPairs? fuel depth read rest
        | '\x7d' :: rest =>
          (Entries.assignAll? read.reverse []).map fun entries =>
            (.table (finishEntries entries), rest)
        | _ => none
    | _ => none

end

/-! ## Documents -/

/-- What a line of a document does. -/
inductive Statement where
  /-- Opens a table, or one more table of an array. -/
  | header (isElement : Bool) (path : List String)
  /-- Gives a key a value. -/
  | assignment (path : List String) (value : Value)

/-- Reads a header behind its first bracket. -/
def readHeader? (s : List Char) : Option (Statement × List Char) :=
  match s with
  | '[' :: rest =>
    match readKey? (depthLimit - 1) rest with
    | some (path, ']' :: ']' :: rest) => some (.header true path, rest)
    | _ => none
  | _ =>
    match readKey? (depthLimit - 1) s with
    | some (path, ']' :: rest) => some (.header false path, rest)
    | _ => none

/-- Reads a key with its value. -/
def readAssignment? (s : List Char) : Option (Statement × List Char) :=
  match readKey? (depthLimit - 1) s with
  | some (path, '=' :: rest) =>
    (readValue? (2 * rest.length + 2) 0 (skipBlanks rest)).map fun p => (.assignment path p.1, p.2)
  | _ => none

/-- Reads the statements of a text; the fuel bounds the number of its lines. -/
def readStatements? : Nat → List Char → Option (List Statement)
  | 0, _ => none
  | fuel + 1, s =>
    match skipBlanks s with
    | [] => some []
    | '#' :: rest => (afterLine? ('#' :: rest)).bind (readStatements? fuel)
    | '\n' :: rest => readStatements? fuel rest
    | '\r' :: rest => (afterNewline? ('\r' :: rest)).bind (readStatements? fuel)
    | c :: rest => do
      let (statement, rest) ← if c = '[' then readHeader? rest else readAssignment? (c :: rest)
      let rest ← afterLine? rest
      let more ← readStatements? fuel rest
      return statement :: more

/-- The assignments in front of the first header, and the sections behind. -/
def sectionsOf : List Statement → List (List String × Value) × List Section
  | [] => ([], [])
  | .assignment path value :: rest =>
    let (assignments, sections) := sectionsOf rest
    ((path, value) :: assignments, sections)
  | .header isElement path :: rest =>
    let (assignments, sections) := sectionsOf rest
    ([], ⟨isElement, path, assignments⟩ :: sections)

/-- Reads a text as a table. A byte order mark may stand in front. -/
def Value.ofText? (text : String) : Option Value := do
  let s := match text.toList with
    | '\uFEFF' :: rest => rest
    | s => s
  let statements ← readStatements? (s.length + 1) s
  let (assignments, sections) := sectionsOf statements
  build? assignments sections

end SkillAudit.Toml
