import CommandShell.Userland.Script.Word

/-!
# Symbols of scripts

A script is cut into words and operators. The text of a document that a redirection announces begins
behind the line on which it is announced, and is put in the place of the word that ends it.

## Main definitions
* `Redirection`, `Symbol`
* `symbols`: the symbols of a script, each with the number of its line.
-/

namespace CommandShell.Userland

/-- What is done with a stream for one command. -/
inductive Redirection
  | read
  | write
  | append
  | readWrite
  /-- It leads where another one leads, or nowhere. -/
  | copy
  /-- It is read from the script itself; tabs at the start of lines are left out or not. -/
  | document (strips : Bool)
  deriving DecidableEq

/-- A symbol of a script. -/
inductive Symbol
  | word (word : Word)
  | newline
  | semicolon
  | ampersand
  | doubleSemicolon
  | and
  | or
  | pipe
  | opening
  | closing
  | redirection (descriptor : Nat) (kind : Redirection)
  /-- The text of a document, which has come to its last line or not. -/
  | body (word : Word) (isEnded : Bool)
  /-- The end of the script. -/
  | finish
  deriving DecidableEq

/-- The redirection at the start of a text, with the text behind it. -/
def redirection? (text : Bytes) : Option (Symbol × Bytes) :=
  let (digits, sign) := match text with
    | b :: sign => if isDecimal b then ([b], sign) else ([], text)
    | [] => ([], [])
  let on := fun (usual : Nat) (kind : Redirection) (count : Nat) =>
    some (Symbol.redirection (if digits.isEmpty then usual else numberOf 10 digits) kind,
      sign.drop count)
  match (sign.take 3).map charOf with
  | '<' :: '<' :: '-' :: _ => on 0 (.document true) 3
  | '<' :: '<' :: _ => on 0 (.document false) 2
  | '<' :: '&' :: _ => on 0 .copy 2
  | '<' :: '>' :: _ => on 0 .readWrite 2
  | '<' :: _ => on 0 .read 1
  | '>' :: '>' :: _ => on 1 .append 2
  | '>' :: '&' :: _ => on 1 .copy 2
  | '>' :: '|' :: _ => on 1 .write 2
  | '>' :: _ => on 1 .write 1
  | _ => none

/-- The operator at the start of a text, with the text behind it. -/
def operator? (text : Bytes) : Option (Symbol × Bytes) :=
  match (text.take 2).map charOf with
  | '&' :: '&' :: _ => some (.and, text.drop 2)
  | '&' :: _ => some (.ampersand, text.drop 1)
  | '|' :: '|' :: _ => some (.or, text.drop 2)
  | '|' :: _ => some (.pipe, text.drop 1)
  | ';' :: ';' :: _ => some (.doubleSemicolon, text.drop 2)
  | ';' :: _ => some (.semicolon, text.drop 1)
  | '(' :: _ => some (.opening, text.drop 1)
  | ')' :: _ => some (.closing, text.drop 1)
  | _ => redirection? text

/-- A document whose text has not begun yet. -/
structure Announced where
  /-- The line that ends it. -/
  last : Bytes
  /-- Nothing in it is replaced. -/
  isLiteral : Bool
  strips : Bool

namespace Announced

/-- The document that a word announces. -/
def ofWord (strips : Bool) (word : Word) : Announced where
  last := word.flatMap fun
    | .plain b => [b]
    | .quoted content => content
    | _ => []
  isLiteral := word.any fun
    | .quoted _ => true
    | _ => false
  strips

/-- The lines of a document, the number of all lines up to the last one, the text behind it, and whether
there is a last one. Every line takes a byte, so the length of the text is fuel enough. -/
def read (d : Announced) : Nat → Bytes → Bytes × Nat × Bytes × Bool
  | 0, text => ([], 0, text, false)
  | _, [] => ([], 0, [], false)
  | fuel + 1, text =>
    let line := text.takeWhile (· != CommandShell.newline)
    let behind := (text.drop line.length).tail
    let line := if d.strips then line.dropWhile (· == 9) else line
    if line = d.last then ([], 1, behind, true)
    else
      let (more, count, left, isEnded) := d.read fuel behind
      (line ++ CommandShell.newline :: more, count + 1, left, isEnded)

/-- The text of a document as a word. -/
def word (d : Announced) (text : Bytes) : Word :=
  if d.isLiteral then [.quoted text] else readDocument text.length text

end Announced

/-- The texts of documents, the number of their lines, and the text behind them. -/
def readDocuments : List Announced → Bytes → List Symbol × Nat × Bytes
  | [], text => ([], 0, text)
  | d :: rest, text =>
    let (content, count, behind, isEnded) := d.read text.length text
    let (bodies, more, left) := readDocuments rest behind
    (.body (d.word content) isEnded :: bodies, count + more, left)

/-- Reads symbols from a line on. A document may await its word, and others their text. Every step
takes a byte, so the length of the text is fuel enough. -/
def readSymbols : Nat → Nat → Option Bool → List Announced → Bytes → List (Nat × Symbol)
  | 0, line, _, announced, _ | _, line, _, announced, [] =>
    announced.map (fun d => (line, .body (d.word []) false)) ++ [(line, .finish)]
  | fuel + 1, line, awaiting, announced, b :: rest =>
    if isSpacing b then readSymbols fuel line awaiting announced rest
    else if charOf b = '\\' && rest.head? = some newline then
      readSymbols fuel (line + 1) awaiting announced rest.tail
    else if b = newline then
      let (bodies, count, behind) := readDocuments announced rest
      bodies.map (fun body => (line, body)) ++
        (line, .newline) :: readSymbols fuel (line + 1 + count) none [] behind
    else if charOf b = '#' then
      readSymbols fuel line awaiting announced (rest.dropWhile (· != newline))
    else match operator? (b :: rest) with
      | some (symbol, later) =>
        let awaiting := match symbol with
          | .redirection _ (.document strips) => some strips
          | _ => none
        (line, symbol) :: readSymbols fuel line awaiting announced later
      | none =>
        let (word, later) := readWord (rest.length + 2) false (b :: rest)
        let lines := ((b :: rest).take (rest.length + 1 - later.length)).count newline
        let announced := announced ++ (awaiting.map (Announced.ofWord · word)).toList
        (line, .word word) :: readSymbols fuel (line + lines) none announced later

/-- The symbols with the texts of documents in the places of the words that end them. -/
def place : List Word → List (Nat × Symbol) → List (Nat × Symbol)
  | bodies, (_, .body _ _) :: rest => place bodies rest
  | body :: bodies, first@(_, .redirection _ (.document _)) :: (line, .word _) :: rest =>
    first :: (line, .word body) :: place bodies rest
  | bodies, first :: rest => first :: place bodies rest
  | _, [] => []

/-- The symbols of a script that begins on a line, each with the number of its own. -/
def symbols (line : Nat) (script : Bytes) : List (Nat × Symbol) :=
  let read := readSymbols (script.length + 1) line none [] script
  let bodies := read.filterMap fun symbol =>
    match symbol.2 with
    | .body word _ => some word
    | _ => none
  place bodies read

/-- A document in the script has not come to its last line. -/
def hasOpenDocument (script : Bytes) : Bool :=
  (readSymbols (script.length + 1) 1 none [] script).any fun symbol =>
    match symbol.2 with
    | .body _ isEnded => !isEnded
    | _ => false

end CommandShell.Userland
