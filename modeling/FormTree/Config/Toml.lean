import FormTree.Json

set_option autoImplicit false

/-!
# Configuration text

A reader for the part of TOML 1.1 that configuration files use: tables, dotted keys, inline
tables, basic and literal strings on one line, integers, booleans and comments. The value of a
document is an object.

A name is given once. A table may be opened by a header once; it may exist before that only
because a longer header passed through it. A dotted key adds to a table only if dotted keys made
that table.

## Main definitions

* `FormTree.Toml.Node` — a value under construction, with the way in which a table came to be.
* `FormTree.Toml.Node.open?`, `FormTree.Toml.Node.put?` — the effect of a header and of a key.
* `FormTree.Toml.value?` — reading a value.
* `FormTree.Toml.parse?` — reading a document.
-/

namespace FormTree.Toml

/-! ## Documents under construction -/

/-- How a table came to be. -/
inductive Origin where
  /-- A longer header passed through it. -/
  | passed
  /-- A header opened it. -/
  | header
  /-- A dotted key passed through it. -/
  | dotted
  /-- It was written inline, and is closed. -/
  | inlined
  deriving DecidableEq, Inhabited

/-- A value under construction. -/
inductive Node where
  | leaf (value : Json)
  | table (origin : Origin) (entries : List (String × Node))
  deriving Inhabited

namespace Node

/-- The entries with the value of `name` replaced, or added at the end. -/
def replace (name : String) (node : Node) : List (String × Node) → List (String × Node)
  | [] => [(name, node)]
  | (other, value) :: rest =>
    if other = name then (name, node) :: rest else (other, value) :: replace name node rest

/-- Open the table at `path` by a header. -/
def open? (entries : List (String × Node)) : List String → Option (List (String × Node))
  | [] => none
  | [name] =>
    match entries.lookup name with
    | none => some (replace name (.table .header []) entries)
    | some (.table .passed inner) => some (replace name (.table .header inner) entries)
    | some _ => none
  | name :: path =>
    match entries.lookup name with
    | none => (open? [] path).map fun inner => replace name (.table .passed inner) entries
    | some (.table .inlined _) => none
    | some (.table origin inner) =>
      (open? inner path).map fun inner => replace name (.table origin inner) entries
    | some (.leaf _) => none

/-- Give a value to the dotted key `key`. Its parts may lead through tables that longer headers or
dotted keys made, but the table that takes the last part must be new or made by a dotted key. -/
def put? (entries : List (String × Node)) (node : Node) :
    List String → Option (List (String × Node))
  | [] => none
  | [name] => if (entries.lookup name).isSome then none else some (replace name node entries)
  | name :: key =>
    match entries.lookup name with
    | none => (put? [] node key).map fun inner => replace name (.table .dotted inner) entries
    | some (.table origin inner) =>
      if origin = .dotted ∨ (origin = .passed ∧ 1 < key.length) then
        (put? inner node key).map fun inner => replace name (.table origin inner) entries
      else none
    | some (.leaf _) => none

/-- Give a value to the dotted key `key` of the table that the header `path` opened. -/
def putAt? (entries : List (String × Node)) (key : List String) (node : Node) :
    List String → Option (List (String × Node))
  | [] => put? entries node key
  | name :: path =>
    match entries.lookup name with
    | some (.table origin inner) =>
      (putAt? inner key node path).map fun inner => replace name (.table origin inner) entries
    | _ => none

mutual

/-- The finished value. -/
def toJson : Node → Json
  | .leaf value => value
  | .table _ entries => .object (toMembers entries)
termination_by structural node => node

/-- The finished entries of a table. -/
def toMembers : List (String × Node) → List (String × Json)
  | [] => []
  | entry :: rest => toMember entry :: toMembers rest
termination_by structural entries => entries

/-- One finished entry of a table. -/
def toMember : String × Node → String × Json
  | (name, node) => (name, node.toJson)
termination_by structural entry => entry

end

end Node

/-! ## Words -/

/-- Drop the blanks in front, which are spaces and tabs. -/
def skip (cs : List Char) : List Char := cs.dropWhile fun c => c = ' ' || c = '\t'

/-- Characters of a bare key; a bare value has these too. -/
def isWord (c : Char) : Bool := c.isAlphanum || c = '_' || c = '-'

/-- Characters of a comment or of a string: no control character but the tab. -/
def isText (c : Char) : Bool := c = '\t' || (32 ≤ c.toNat && c.toNat ≠ 127)

/-- The value of a hexadecimal digit. -/
def hexValue? (c : Char) : Option Nat :=
  if '0' ≤ c ∧ c ≤ '9' then some (c.toNat - 48)
  else if 'a' ≤ c ∧ c ≤ 'f' then some (c.toNat - 87)
  else if 'A' ≤ c ∧ c ≤ 'F' then some (c.toNat - 55)
  else none

/-- The number that `cs` spells in the given base, at least one digit, an underscore allowed
between two digits. -/
def digits? (base : Nat) (cs : List Char) : Option Nat :=
  go false 0 cs
where
  /-- `afterDigit` tells whether the last character was a digit. -/
  go (afterDigit : Bool) (value : Nat) : List Char → Option Nat
    | [] => if afterDigit then some value else none
    | '_' :: rest => if afterDigit then go false value rest else none
    | c :: rest =>
      match hexValue? c with
      | some digit => if digit < base then go true (value * base + digit) rest else none
      | none => none

/-- A decimal number without superfluous zeros in front. -/
def decimal? (cs : List Char) : Option Nat :=
  match cs with
  | '0' :: _ :: _ => none
  | _ => digits? 10 cs

/-- A number with its sign, from the range of 128 bits with sign or without. -/
def integer? (cs : List Char) : Option Int :=
  let value : Option Int :=
    match cs with
    | '0' :: 'x' :: rest => (digits? 16 rest).map Int.ofNat
    | '0' :: 'o' :: rest => (digits? 8 rest).map Int.ofNat
    | '0' :: 'b' :: rest => (digits? 2 rest).map Int.ofNat
    | '+' :: rest => (decimal? rest).map Int.ofNat
    | '-' :: rest => (decimal? rest).map fun n => -Int.ofNat n
    | _ => (decimal? cs).map Int.ofNat
  value.filter fun n => -Int.pow 2 127 ≤ n && n < Int.pow 2 128

/-- The character with the given number, if there is one. -/
def scalar? (digits : List Char) : Option Char := do
  let code ← digits? 16 (digits.filter (· ≠ '_'))
  if digits.contains '_' then none
  else if h : code.isValidChar then some (Char.ofNatAux code h) else none

/-- The rest of a basic string after its opening quote, and what follows the closing one. -/
def basic? (text : List Char) : List Char → Option (String × List Char)
  | [] => none
  | '"' :: rest => some (String.ofList text.reverse, rest)
  | '\\' :: 'b' :: rest => basic? ('\x08' :: text) rest
  | '\\' :: 't' :: rest => basic? ('\t' :: text) rest
  | '\\' :: 'n' :: rest => basic? ('\n' :: text) rest
  | '\\' :: 'f' :: rest => basic? ('\x0c' :: text) rest
  | '\\' :: 'r' :: rest => basic? ('\r' :: text) rest
  | '\\' :: 'e' :: rest => basic? ('\x1b' :: text) rest
  | '\\' :: '"' :: rest => basic? ('"' :: text) rest
  | '\\' :: '\\' :: rest => basic? ('\\' :: text) rest
  | '\\' :: 'x' :: a :: b :: rest =>
    match scalar? [a, b] with
    | some char => basic? (char :: text) rest
    | none => none
  | '\\' :: 'u' :: a :: b :: c :: d :: rest =>
    match scalar? [a, b, c, d] with
    | some char => basic? (char :: text) rest
    | none => none
  | '\\' :: 'U' :: a :: b :: c :: d :: e :: f :: g :: h :: rest =>
    match scalar? [a, b, c, d, e, f, g, h] with
    | some char => basic? (char :: text) rest
    | none => none
  | '\\' :: _ => none
  | c :: rest => if isText c then basic? (c :: text) rest else none

/-- The rest of a literal string after its opening quote, and what follows the closing one. -/
def literal? (cs : List Char) : Option (String × List Char) :=
  let text := cs.takeWhile fun c => c ≠ '\'' && isText c
  match cs.drop text.length with
  | '\'' :: rest => some (String.ofList text, rest)
  | _ => none

/-! ## Line ends -/

/-- What follows the end of a line. -/
def newline? : List Char → Option (List Char)
  | [] => some []
  | '\n' :: rest => some rest
  | '\r' :: '\n' :: rest => some rest
  | _ => none

/-- What follows the line if nothing is left of it but blanks and a comment. -/
def lineEnd? (cs : List Char) : Option (List Char) :=
  match skip cs with
  | '#' :: comment => newline? (comment.dropWhile isText)
  | cs => newline? cs

/-- What follows blanks, comments and line ends; `inComment` tells whether a comment has begun. -/
def gap? ( inComment : Bool) : List Char → Option (List Char)
  | [] => some []
  | '\n' :: rest => gap? false rest
  | '\r' :: '\n' :: rest => gap? false rest
  | c :: rest =>
    if inComment then
      if isText c then gap? true rest else none
    else if c = '#' then gap? true rest
    else if c = ' ' ∨ c = '\t' then gap? false rest
    else some (c :: rest)

/-! ## Keys -/

/-- The parts that a dotted key may have. -/
def maxParts : Nat := 80

/-- One part of a key. -/
def keyPart? : List Char → Option (String × List Char)
  | '"' :: rest => basic? [] rest
  | '\'' :: rest => literal? rest
  | cs =>
    match cs.takeWhile isWord with
    | [] => none
    | word => some (String.ofList word, cs.drop word.length)

/-- A dotted key of at most `parts` parts, and what follows it and the blanks behind it. -/
def dottedKey? : Nat → List Char → Option (List String × List Char)
  | 0, _ => none
  | parts + 1, cs => do
    let (part, rest) ← keyPart? (skip cs)
    match skip rest with
    | '.' :: rest =>
      let (more, rest) ← dottedKey? parts rest
      return (part :: more, rest)
    | rest => return ([part], rest)

/-- A dotted key, and what follows it and the blanks behind it. -/
def key? : List Char → Option (List String × List Char) := dottedKey? maxParts

/-! ## Values -/

/-- How deep inline tables may lie in each other. -/
def maxNesting : Nat := 80

/-- A value without inner structure. -/
def word? (cs : List Char) : Option (Node × List Char) :=
  let word := cs.takeWhile fun c => isWord c || c = '+'
  let rest := cs.drop word.length
  if word = "true".toList then some (.leaf (.bool true), rest)
  else if word = "false".toList then some (.leaf (.bool false), rest)
  else (integer? word).map fun n => (.leaf (.int n), rest)

/-- The members of an inline table, fewer than `members` of them, and its closing brace. A comma
may follow the last member; `inner?` reads the values. -/
def members? (inner? : List Char → Option (Node × List Char)) :
    Nat → List (String × Node) → List Char → Option (Node × List Char)
  | 0, _, _ => none
  | members + 1, entries, cs => do
    match ← gap? false cs with
    | '}' :: rest => return (.table .inlined entries, rest)
    | cs =>
      let (key, rest) ← key? cs
      let '=' :: rest ← gap? false rest | none
      let (node, rest) ← inner? (← gap? false rest)
      let entries ← Node.put? entries node key
      match ← gap? false rest with
      | '}' :: rest => return (.table .inlined entries, rest)
      | ',' :: rest => members? inner? members entries rest
      | _ => none

/-- A value in which inline tables lie at most `nesting` deep in each other. -/
def nestedValue? : Nat → List Char → Option (Node × List Char)
  | _, '"' :: rest => (basic? [] rest).map fun (text, rest) => (.leaf (.str text), rest)
  | _, '\'' :: rest => (literal? rest).map fun (text, rest) => (.leaf (.str text), rest)
  | 0, '{' :: _ => none
  | nesting + 1, '{' :: rest => members? (nestedValue? nesting) (rest.length + 1) [] rest
  | _, cs => word? cs

/-- A value. -/
def value? : List Char → Option (Node × List Char) := nestedValue? maxNesting

/-! ## Statements -/

/-- A document under construction, with the table that the last header opened. -/
structure Document where
  /-- The entries of the document. -/
  entries : List (String × Node) := []
  /-- Where keys go. -/
  path : List String := []
  deriving Inhabited

namespace Document

/-- The document after a header, of which the opening bracket has been read. -/
def header? (document : Document) (cs : List Char) : Option (Document × List Char) := do
  let (path, rest) ← key? cs
  let ']' :: rest := rest | none
  let rest ← lineEnd? rest
  let entries ← Node.open? document.entries path
  return ({ entries, path }, rest)

/-- The document after a key with its value. -/
def assignment? (document : Document) (cs : List Char) : Option (Document × List Char) := do
  let (key, rest) ← key? cs
  let '=' :: rest := rest | none
  let (node, rest) ← value? (skip rest)
  let rest ← lineEnd? rest
  let entries ← Node.putAt? document.entries key node document.path
  return ({ document with entries }, rest)

/-- The document after fewer than `statements` headers and keys, up to the end of the text. -/
def statements? : Nat → Document → List Char → Option Document
  | 0, _, _ => none
  | statements + 1, document, cs => do
    match ← gap? false cs with
    | [] => return document
    | '[' :: rest =>
      let (document, rest) ← document.header? rest
      statements? statements document rest
    | rest =>
      let (document, rest) ← document.assignment? rest
      statements? statements document rest

end Document

/-- Read a document; `none` if it is malformed. A byte order mark in front is skipped. -/
def parse? (text : String) : Option Json := do
  let cs :=
    match text.toList with
    | '\ufeff' :: cs => cs
    | cs => cs
  let document ← Document.statements? (cs.length + 1) {} cs
  return .object (Node.toMembers document.entries)

end FormTree.Toml
