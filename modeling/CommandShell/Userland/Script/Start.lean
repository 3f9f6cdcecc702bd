import CommandShell.Userland.Script.Run

/-!
# Starting a script

## Main definitions
* `splitCommands?`: the lines at the start of a text that make up commands.
* `evaluateInput`: the commands of the standard input run as they come.
* `runScripts`: a program that runs scripts.
-/

namespace CommandShell.Userland

/-- How deep the commands of a script may go. -/
def scriptFuel : Nat := 1500

/-- The text needs more lines to be a row of commands. -/
def isShort (text : Bytes) : Bool :=
  let endsEscaped := match text.reverse with
    | 10 :: before => (before.takeWhile (· == 92)).length % 2 == 1
    | _ => false
  endsEscaped || hasOpenDocument text || match readComplete? (symbols 1 text) with
    | .error wrong => wrong.isShort
    | .ok _ => false

/-- The lines at the start of a text that make up commands, with the text behind them, where `before` is
a start of the lines. None if the text ends before. Every line takes a byte, so the length of the text is
fuel enough. -/
def splitCommands? : Nat → Bytes → Bytes → Option (Bytes × Bytes)
  | 0, _, _ => none
  | fuel + 1, before, text =>
    if !text.contains newline then none
    else
      let line := text.takeWhile (· != newline)
      let taken := before ++ line ++ [newline]
      let left := text.drop (line.length + 1)
      if isShort taken then splitCommands? fuel taken left else some (taken, left)

/-- Runs the commands of the standard input as they come, block after block, where a text from a line on
has been read before. What the commands read is not run. Every step takes or runs a byte, which the fuel
counts. -/
def evaluateInput (evaluate : Nat → Bytes → Run Unit) : Nat → Nat → Bytes → Run Unit
  | 0, _, _ => return
  | fuel + 1, line, text => do
    match splitCommands? text.length [] text with
    | some (commands, left) =>
      evaluate line commands
      evaluateInput evaluate fuel (line + commands.count newline) left
    | none =>
      let (data, left) := ((← get).sources.headD .empty).read Input.blockSize
      modify fun s => { s with sources := left :: s.sources.tail }
      if data.isEmpty then evaluate line text
      else evaluateInput evaluate fuel line (text ++ data)

/-- A script that has run to its end, given what it does. -/
def completed (start : Machine) (p : Process) (options : List Char) (name : Bytes)
    (arguments : List Bytes) (body : Run Unit) : Completion :=
  let s := { Script.ofProcess p name arguments with options }
  let (stop, s) := (atEnd (evaluate start scriptFuel 1) body).run s
  let ending := match stop with
    | .ok stop => s.ending stop
    | .error stop => s.ending (some stop)
  { ending
    out := s.sinks[0]?.getD []
    err := s.sinks[1]?.getD []
    files := s.disk.files
    input := s.sources[0]?.getD .empty }

/-- The letters of the options at the start of some arguments, and the arguments behind them. -/
def optionsOf : List Bytes → List Char × List Bytes
  | [45, 45] :: rest => ([], rest)
  | [45] :: rest => ([], rest)
  | (45 :: b :: letters) :: rest =>
    let (more, left) := optionsOf rest
    ((b :: letters).map charOf ++ more, left)
  | arguments => ([], arguments)

/-- The program that runs scripts: one given by an option, one in a file, or its input. -/
def runScripts (start : Machine) (p : Process) : Completion :=
  let own := p.arguments.headD []
  let (options, arguments) := optionsOf p.arguments.tail
  let run := completed start p (options.filter fun c => c != 'c' && c != 's')
  let evaluated := evaluate start scriptFuel
  match options.contains 'c', arguments with
  | true, [] =>
    let message := own ++ bytesOf ": 0: -c requires an argument\n"
    ⟨.code 2, [], message, p.disk.files, p.input⟩
  | true, [text] => run own [] (evaluated 1 text)
  | true, text :: name :: arguments => run name arguments (evaluated 1 text)
  | false, arguments =>
    match options.contains 's', arguments with
    | false, path :: arguments =>
      match p.disk.locate path >>= Found.read with
      | .ok text => run path arguments (evaluated 1 text)
      | .error cause =>
        let message := own ++ bytesOf ": 0: " ++
          openFailure "cannot open " path "No such file" cause ++ [newline]
        ⟨.code 2, [], message, p.disk.files, p.input⟩
    | _, arguments =>
      run own arguments (evaluateInput evaluated (2 * p.input.size + 2) 1 [])

end CommandShell.Userland
