import CommandShell.Userland.Tool

/-!
# Tools that read

Programs that read files or their input, and write lines of it.

## Main definitions
* `readAll`: the contents of the files that operands name, one behind the other.
* `readingTools`
-/

namespace CommandShell.Userland

/-- What operands that name files yield, and what is left of the input. -/
structure Gathered where
  /-- The operands that could be read, with what they yield. -/
  contents : List (Bytes × Bytes)
  complaints : Bytes
  input : Input

/-- What an operand stands for: a file, or the input. -/
def contentOf (p : Process) (input : Input) (operand : Bytes) : Except Failure (Bytes × Input) :=
  if operand = [45] then .ok input.readAll
  else (p.disk.read operand).map fun content => (content, input)

/-- Gathers the files that operands name, or the input without any. -/
def gather (p : Process) (operands : List Bytes) : Gathered :=
  (if operands.isEmpty then [[45]] else operands).foldl (fun g operand =>
    match contentOf p g.input operand with
    | .ok (content, input) => { g with contents := g.contents ++ [(operand, content)], input }
    | .error cause =>
      { g with
        complaints := g.complaints ++ p.arguments.headD [] ++ bytesOf ": " ++ operand ++
          bytesOf ": " ++ described cause ++ [newline] }) ⟨[], [], p.input⟩

/-- The end of a program that has gathered files and writes something. -/
def Gathered.ended (g : Gathered) (p : Process) (out : Bytes) : Completion :=
  { p.ended (if g.complaints.isEmpty then 0 else 1) out g.complaints with input := g.input }

/-- Lines as bytes. -/
def joinLines (lines : List Bytes) : Bytes :=
  lines.flatMap (· ++ [newline])

/-- A program that writes what it makes of all that it reads. -/
def filtering (change : Bytes → Bytes) : Tool := fun p operands =>
  let g := gather p operands
  g.ended p (change (g.contents.flatMap Prod.snd))

/-- The options at the start of some arguments, and the operands behind them. -/
def splitOptions (arguments : List Bytes) : List Bytes × List Bytes :=
  let isOption := fun a : Bytes => a.head? == some 45 && 1 < a.length
  let options := arguments.takeWhile isOption
  let rest := arguments.dropWhile isOption
  if options.contains (bytesOf "--") then
    (options.takeWhile (· != bytesOf "--"),
      (arguments.dropWhile (· != bytesOf "--")).tail)
  else (options, rest)

/-- The letters of options. -/
def lettersOf (options : List Bytes) : List Char :=
  options.flatMap fun option => option.tail.map charOf

/-! ## Parts of files -/

/-- How much of a file is wanted: lines or bytes, and how many. -/
structure Amount where
  isLines : Bool
  count : Bytes

/-- How much is wanted, as the first arguments say, and the operands behind them. -/
def amountOf : List Bytes → Amount × List Bytes
  | [45, 110] :: count :: rest => (⟨true, count⟩, rest)
  | [45, 99] :: count :: rest => (⟨false, count⟩, rest)
  | (45 :: 110 :: count) :: rest => (⟨true, count⟩, rest)
  | (45 :: 99 :: count) :: rest => (⟨false, count⟩, rest)
  | (45 :: b :: digits) :: rest =>
    if isDecimal b then (⟨true, b :: digits⟩, rest) else (⟨true, [49, 48]⟩, rest)
  | operands => (⟨true, [49, 48]⟩, operands)

/-- Lines with the newlines that end them. -/
def endedLines (content : Bytes) : List Bytes :=
  let lines := lineBytes content
  if content.getLast? = some newline then lines.map (· ++ [newline])
  else lines.dropLast.map (· ++ [newline]) ++ lines.getLast?.toList

/-- The first of the lines or bytes of a content; behind a minus sign, all but the last. -/
def firstPart (amount : Amount) (content : Bytes) : Bytes :=
  let n := numberOf 10 (amount.count.filter isDecimal)
  let part := fun {α : Type} (items : List α) =>
    if amount.count.head? = some 45 then items.take (items.length - n) else items.take n
  if amount.isLines then (part (endedLines content)).flatten else part content

/-- The last of the lines or bytes of a content; behind a plus sign, those from one on. -/
def lastPart (amount : Amount) (content : Bytes) : Bytes :=
  let n := numberOf 10 (amount.count.filter isDecimal)
  let part := fun {α : Type} (items : List α) =>
    if amount.count.head? = some 43 then items.drop (n - 1) else items.drop (items.length - n)
  if amount.isLines then (part (endedLines content)).flatten else part content

/-- Parts of files, each behind its name if there are several. -/
def titled (contents : List (Bytes × Bytes)) (part : Bytes → Bytes) (isTitled : Bool) : Bytes :=
  (contents.mapIdx fun i entry =>
    let name := if entry.1 = [45] then bytesOf "standard input" else entry.1
    let title := if isTitled then
      (if i = 0 then [] else [newline]) ++ bytesOf "==> " ++ name ++ bytesOf " <==\n" else []
    title ++ part entry.2).flatten

/-- Writes the first lines of files. Of its input it reads only as many blocks as it needs. -/
def head : Tool := fun p operands =>
  let (amount, files) := amountOf operands
  if files.isEmpty && amount.count.head? != some 45 then
    let n := numberOf 10 (amount.count.filter isDecimal)
    let isEnough := fun data : Bytes =>
      if amount.isLines then decide (n ≤ data.count newline) else decide (n ≤ data.length)
    let (data, input) := Input.fill isEnough [] p.input
    { p.prints (firstPart amount data) with input }
  else
    let g := gather p files
    g.ended p (titled g.contents (firstPart amount) (1 < files.length))

/-- Writes the last lines of files. -/
def tail : Tool := fun p operands =>
  let (amount, files) := amountOf operands
  let g := gather p files
  g.ended p (titled g.contents (lastPart amount) (1 < files.length))

/-! ## Counting -/

/-- The number of words in a content. -/
def wordCount (content : Bytes) : Nat :=
  let isBlank := fun b : UInt8 => b == 32 || (9 ≤ b && b ≤ 13)
  ((pieces 32 (content.map fun b => if isBlank b then 32 else b)).filter (!·.isEmpty)).length

/-- The numbers that options ask for: lines, words, bytes. -/
def countsOf (letters : List Char) (content : Bytes) : List Nat :=
  let wanted := fun letter => letters.isEmpty || letters.contains letter
  (if wanted 'l' then [content.count newline] else []) ++
    (if wanted 'w' then [wordCount content] else []) ++
    (if wanted 'c' || letters.contains 'm' then [content.length] else [])

/-- Counts lines, words and bytes. -/
def countAll : Tool := fun p operands =>
  let (options, files) := splitOptions operands
  let letters := lettersOf options
  let g := gather p files
  let rows := g.contents.map fun entry => (entry.1, countsOf letters entry.2)
  let sums := (countsOf letters []).mapIdx fun i _ =>
    rows.foldl (fun sum row => sum + (row.2[i]?).getD 0) 0
  let size := g.contents.foldl (fun size entry => size + entry.2.length) 0
  let isAlone := sums.length = 1 && files.length ≤ 1
  let width :=
    if isAlone then 1 else if files.isEmpty || files.contains [45] then 7
    else (natural size).length
  let row := fun (name : Bytes) (counts : List Nat) =>
    spaced (counts.map fun n => (Utf8.encode (natural n)).leftpad width 32) ++
      (if files.isEmpty then [] else 32 :: name) ++ [newline]
  let total := if 1 < files.length then row (bytesOf "total") sums else []
  g.ended p (rows.flatMap (fun r => row r.1 r.2) ++ total)

/-! ## Lines in order -/

/-- The place of a line among others. -/
def isBefore (letters : List Char) (a b : Bytes) : Bool :=
  let key := fun line : Bytes =>
    let text := line.dropWhile isSpacing
    let n : Int := numberOf 10 ((if text.head? = some 45 then text.tail else text).takeWhile isDecimal)
    if text.head? = some 45 then -n else n
  if letters.contains 'n' && key a != key b then decide (key a < key b) else decide (a ≤ b)

/-- Writes lines in order. -/
def sortLines : Tool := fun p operands =>
  let (options, files) := splitOptions operands
  let letters := lettersOf options
  filtering (fun content =>
    let sorted := (lineBytes content).mergeSort (isBefore letters)
    let sorted := if letters.contains 'u' then sorted.eraseReps else sorted
    joinLines (if letters.contains 'r' then sorted.reverse else sorted)) p files

/-- Rows of equal lines, each with its length. -/
def runsOf : List Bytes → List (Bytes × Nat)
  | [] => []
  | line :: rest =>
    match runsOf rest with
    | (next, count) :: later =>
      if next = line then (next, count + 1) :: later else (line, 1) :: (next, count) :: later
    | [] => [(line, 1)]

/-- Writes one of each row of equal lines. -/
def mergeLines : Tool := fun p operands =>
  let (options, files) := splitOptions operands
  let letters := lettersOf options
  filtering (fun content =>
    let runs := (runsOf (lineBytes content)).filter fun run =>
      (!letters.contains 'd' || 1 < run.2) && (!letters.contains 'u' || run.2 = 1)
    joinLines (runs.map fun run =>
      if letters.contains 'c' then
        (Utf8.encode (natural run.2)).leftpad 7 32 ++ 32 :: run.1
      else run.1)) p files

/-! ## Parts of lines -/

/-- The places that a list names: numbers and ranges from one. -/
def isListed (list : Bytes) (place : Nat) : Bool :=
  (pieces 44 list).any fun item =>
    match pieces 45 item with
    | [single] => numberOf 10 single == place
    | [first, last] =>
      (first.isEmpty || numberOf 10 first ≤ place) && (last.isEmpty || place ≤ numberOf 10 last)
    | _ => false

/-- The items of a list whose places are listed. -/
def listed {α : Type} (list : Bytes) (items : List α) : List α :=
  ((items.mapIdx fun i item => (i + 1, item)).filter fun entry => isListed list entry.1).map
    Prod.snd

/-- The value of an option of one letter, and the arguments without it. -/
def optionValue? (letter : Char) : List Bytes → Option (Bytes × List Bytes)
  | [] => none
  | (45 :: b :: value) :: rest =>
    if charOf b = letter then
      if value.isEmpty then
        match rest with
        | value :: rest => some (value, rest)
        | [] => none
      else some (value, rest)
    else (optionValue? letter rest).map fun found => (found.1, (45 :: b :: value) :: found.2)
  | argument :: rest =>
    (optionValue? letter rest).map fun found => (found.1, argument :: found.2)

/-- Writes parts of lines. -/
def cutLines : Tool := fun p operands =>
  let (delimiter, operands) := (optionValue? 'd' operands).getD ([9], operands)
  let separator := delimiter.headD 9
  match optionValue? 'f' operands, (optionValue? 'c' operands).or (optionValue? 'b' operands) with
  | some (list, files), _ =>
    filtering (fun content => joinLines ((lineBytes content).map fun line =>
      if line.contains separator then joinPieces separator (listed list (pieces separator line))
      else line)) p (splitOptions files).2
  | none, some (list, files) =>
    filtering (fun content => joinLines ((lineBytes content).map (listed list))) p files
  | none, none => p.complains 1 (bytesOf "you must specify a list of bytes, characters, or fields")

/-- The bytes of a class of characters. -/
def classOf (name : Bytes) : Bytes :=
  let all := (List.range 128).map fun n => (charOf n.toUInt8, n.toUInt8)
  let those := fun (is : Char → Bool) => (all.filter fun entry => is entry.1).map Prod.snd
  match (Utf8.decode? name).map String.ofList with
  | some "upper" => those Char.isUpper
  | some "lower" => those Char.isLower
  | some "digit" => those Char.isDigit
  | some "alpha" => those Char.isAlpha
  | some "alnum" => those Char.isAlphanum
  | some "space" => [9, 10, 11, 12, 13, 32]
  | some "blank" => [9, 32]
  | some "punct" => those fun c => 33 ≤ c.toNat && c.toNat < 127 && !c.isAlphanum
  | _ => []

/-- The bytes that a set of a transliteration names. Every step takes a byte, so the length of the text
is fuel enough. -/
def setOf (text : Bytes) : Bytes :=
  go text.length (Escapes.script.narrow.apply text).1
where
  /-- Takes ranges, classes and bytes. -/
  go : Nat → Bytes → Bytes
    | 0, _ => []
    | fuel + 1, 91 :: 58 :: rest =>
      classOf (rest.takeWhile (· != 58)) ++ go fuel ((rest.dropWhile (· != 58)).drop 2)
    | fuel + 1, a :: 45 :: b :: rest =>
      ((List.range (b.toNat + 1 - a.toNat)).map fun i => (a.toNat + i).toUInt8) ++ go fuel rest
    | fuel + 1, a :: rest => a :: go fuel rest
    | _, [] => []

/-- Bytes without those of a set that follow themselves. -/
def squeezed (set : Bytes) (content : Bytes) : Bytes :=
  content.foldr (fun b later => if set.contains b && later.head? = some b then later
    else b :: later) []

/-- Replaces or removes bytes of its input. -/
def transliterate : Tool := fun p operands =>
  let (options, sets) := splitOptions operands
  let letters := lettersOf options
  let isIn := fun (set : Bytes) (b : UInt8) =>
    (set.contains b) != (letters.contains 'c' || letters.contains 'C')
  let change? : Option (Bytes → Bytes) := match letters.contains 'd', sets.map setOf with
    | true, removed :: rest => some fun content =>
      let kept := content.filter (!isIn removed ·)
      if letters.contains 's' then squeezed (rest.headD []) kept else kept
    | false, [set] =>
      if letters.contains 's' then
        some (squeezed ((List.range 256).map (·.toUInt8) |>.filter (isIn set)))
      else none
    | false, [replaced, replacing] => some fun content =>
      let changed := content.map fun b =>
        if letters.contains 'c' || letters.contains 'C' then
          if replaced.contains b then b else replacing.getLastD b
        else match replaced.idxOf? b with
          | some i => (replacing[i]?.or replacing.getLast?).getD b
          | none => b
      if letters.contains 's' then squeezed replacing changed else changed
    | _, _ => none
  match change? with
  | some change =>
    let (data, input) := p.input.readAll
    { p.prints (change data) with input }
  | none => p.complains 1 (bytesOf "missing operand")

/-- The tools that read, by name. -/
def readingTools : List (String × Tool) :=
  [("cat", fun p operands => filtering id p ((splitOptions operands).2)), ("head", head),
    ("tail", tail), ("wc", countAll), ("sort", sortLines), ("uniq", mergeLines), ("cut", cutLines),
    ("tr", transliterate), ("tac", filtering fun content => (endedLines content).reverse.flatten),
    ("rev", filtering fun content => joinLines ((lineBytes content).map List.reverse))]

end CommandShell.Userland
