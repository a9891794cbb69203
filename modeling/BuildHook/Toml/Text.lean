import BuildHook.Toml.Scalar

namespace BuildHook.Toml

def isSpace (c : Char) : Bool := c = ' ' || c = '\t'

def skipSpace (cs : List Char) : List Char := cs.dropWhile isSpace

/-- What may stand in a comment or a string: no control character but the tab. -/
def isPlain (c : Char) : Bool := c = '\t' || (0x20 ≤ c.toNat && c.toNat ≠ 0x7F)

def newline? : List Char → Option (List Char)
  | '\n' :: rest => some rest
  | '\r' :: '\n' :: rest => some rest
  | _ => none

def skipComment : List Char → List Char
  | '#' :: rest => rest.dropWhile isPlain
  | cs => cs

def endLine (cs : List Char) : Option (List Char) :=
  match skipComment (skipSpace cs) with
  | [] => some []
  | cs => newline? cs

/-- Skips blanks, comments and ends of lines; the first argument bounds their number. -/
def skipLines : Nat → List Char → List Char
  | 0, cs => cs
  | n + 1, cs =>
    let cs := skipSpace cs
    match newline? (skipComment cs) with
    | some rest => skipLines n rest
    | none => cs

def skipAll (cs : List Char) : List Char := skipLines cs.length cs

def codePoint? (digits : List Char) : Option Char :=
  let n := numeral 16 digits
  if digits.all isHex ∧ n.isValidChar then some (Char.ofNat n) else none

def codeEscape (count : Nat) : Reader Char := fun cs ↦ do
  guard (count ≤ cs.length)
  return (← codePoint? (cs.take count), cs.drop count)

def escape : Reader Char
  | 'b' :: rest => some ('\x08', rest)
  | 't' :: rest => some ('\t', rest)
  | 'n' :: rest => some ('\n', rest)
  | 'f' :: rest => some ('\x0c', rest)
  | 'r' :: rest => some ('\r', rest)
  | 'e' :: rest => some ('\x1b', rest)
  | '"' :: rest => some ('"', rest)
  | '\\' :: rest => some ('\\', rest)
  | 'x' :: rest => codeEscape 2 rest
  | 'u' :: rest => codeEscape 4 rest
  | 'U' :: rest => codeEscape 8 rest
  | _ => none

def cons (c : Char) (r : Option (List Char × List Char)) : Option (List Char × List Char) :=
  r.map fun p ↦ (c :: p.1, p.2)

def basic : Nat → Reader (List Char)
  | 0, _ => none
  | _, [] => none
  | _, '"' :: rest => some ([], rest)
  | n + 1, '\\' :: rest => do
    let (c, rest) ← escape rest
    cons c (basic n rest)
  | n + 1, c :: rest => if isPlain c then cons c (basic n rest) else none

def literal (cs : List Char) : Option (List Char × List Char) :=
  let body := cs.takeWhile fun c ↦ c ≠ '\x27' ∧ isPlain c
  match cs.drop body.length with
  | '\x27' :: rest => some (body, rest)
  | _ => none

/-- Behind the three quotes that end a text, up to two more belong to it. -/
def extraQuotes (quote : Char) : List Char → List Char × List Char
  | a :: b :: rest =>
    if a = quote then
      if b = quote then ([a, b], rest) else ([a], b :: rest)
    else ([], a :: b :: rest)
  | [a] => if a = quote then ([a], []) else ([], [a])
  | [] => ([], [])

/-- The rest of a text in three double quotes. A backslash before the end of a line skips to the
next thing that is neither blank nor end of line. -/
def basicLines : Nat → Reader (List Char)
  | 0, _ => none
  | _, [] => none
  | _, '"' :: '"' :: '"' :: rest => some (extraQuotes '"' rest)
  | n + 1, '\\' :: rest =>
    match newline? (skipSpace rest) with
    | some rest => basicLines n (rest.dropWhile fun c ↦ isSpace c || c = '\n' || c = '\r')
    | none => do
      let (c, rest) ← escape rest
      cons c (basicLines n rest)
  | n + 1, '\r' :: '\n' :: rest => cons '\r' (cons '\n' (basicLines n rest))
  | n + 1, c :: rest =>
    if isPlain c ∨ c = '\n' then cons c (basicLines n rest) else none

def literalLines : Nat → Reader (List Char)
  | 0, _ => none
  | _, [] => none
  | _, '\x27' :: '\x27' :: '\x27' :: rest => some (extraQuotes '\x27' rest)
  | n + 1, '\r' :: '\n' :: rest => cons '\r' (cons '\n' (literalLines n rest))
  | n + 1, c :: rest =>
    if isPlain c ∨ c = '\n' then cons c (literalLines n rest) else none

/-- An end of line right behind three opening quotes does not count. -/
def dropNewline (cs : List Char) : List Char := (newline? cs).getD cs

def toText (r : Option (List Char × List Char)) : Option (String × List Char) :=
  r.map fun p ↦ (String.ofList p.1, p.2)

def string : Reader String
  | '"' :: '"' :: '"' :: rest => toText (basicLines (rest.length + 1) (dropNewline rest))
  | '\x27' :: '\x27' :: '\x27' :: rest => toText (literalLines (rest.length + 1) (dropNewline rest))
  | '"' :: rest => toText (basic (rest.length + 1) rest)
  | '\x27' :: rest => toText (literal rest)
  | _ => none

def isBare (c : Char) : Bool := c.isAlphanum || c = '_' || c = '-'

def name : Reader String
  | '"' :: rest => toText (basic (rest.length + 1) rest)
  | '\x27' :: rest => toText (literal rest)
  | cs =>
    let bare := cs.takeWhile isBare
    if bare.isEmpty then none else some (String.ofList bare, cs.drop bare.length)

def names : Nat → Reader (List String)
  | 0, _ => none
  | n + 1, cs => do
    let (first, rest) ← name (skipSpace cs)
    match skipSpace rest with
    | '.' :: rest => do
      let (later, rest) ← names n rest
      return (first :: later, rest)
    | rest => return ([first], rest)

def key (cs : List Char) : Option (List String × List Char) := names (cs.length + 1) cs

end BuildHook.Toml
