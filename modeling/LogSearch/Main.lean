import LogSearch.CommandLine.Run
import Std.Time.DateTime.Timestamp

/-!
# The program

The program is a step without effects, which asks its host for whatever it needs.  Here the host
gives the answers that are there already and takes down the first question that has none; the
question is then answered from outside, and the program runs again from the start with one answer
more, until nothing is left to ask.

No network is reached from here: every request is answered as one that reached nobody.
-/

namespace LogSearch.Program

/-- What the program asks of its surroundings. -/
inductive Question
  | file (path : String)
  | pause (seconds : Nat)
  | now
  | newId

/-- What the surroundings answer. -/
inductive Answer
  | file (found : FoundFile)
  | done
  | now (time : DateTime)
  | newId (id : String)

/-- What is known of the surroundings in one run. -/
structure Transcript where
  /-- The answers that were not given yet. -/
  answers : List Answer
  /-- The first question without an answer, and the log up to it. -/
  open? : Option (Question × List LogLine) := none
  printed : List String := []

/-- Gives the next answer, or takes down the question. -/
def ask {α : Type} (question : Question) (read : Answer → Option α) : Flow Transcript α :=
  ExceptT.mk fun s =>
    match s.world.answers with
    | answer :: rest =>
      let world := { s.world with answers := rest }
      match read answer with
      | some a => (.ok a, { s with world })
      | none => (.error (.fault .circular), { s with world })
    | [] =>
      let world := { s.world with open? := s.world.open?.or (some (question, s.log)) }
      (.error (.fault .circular), { s with world })

/-- A host that gives the answers of a transcript. -/
def host : Host Transcript where
  client := { send := fun request =>
    let kind := if request.method = .probe then FaultKind.probeConnect else .transportConnection
    Flow.ofFault (.error (.external kind (.str "no network"))) }
  fileAt path := ask (.file path) fun
    | .file found => some found
    | _ => none
  sleep seconds := ask (.pause seconds) fun
    | .done => some ()
    | _ => none
  now := ask .now fun
    | .now time => some time
    | _ => none
  newId := ask .newId fun
    | .newId id => some id
    | _ => none
  print line := Flow.ask fun w => (.ok (), { w with printed := w.printed ++ [line] })

/-- What is found under a path. -/
def findFile (path : String) : IO FoundFile := do
  try
    return .text (← IO.FS.readFile path)
  catch
    | .noFileOrDirectory .. => return .missing
    | .inappropriateType .. => return .directory
    | e => throw e

/-- The present time. -/
def presentTime : IO DateTime := do
  let elapsed := (← Std.Time.Timestamp.now).toNanosecondsSinceUnixEpoch.toInt / 1000
  return (DateTime.ofInstant? (Epoch.start + elapsed)).getD default

/-- A random name: 32 hexadecimal digits in five groups, of which two tell the kind of name. -/
def randomId : IO String := do
  let octets ← IO.getRandomBytes 16
  let ds := octets.toList.flatMap fun b => Text.hexadecimal 2 b.toNat
  let group (start count : Nat) : String := String.ofList ((ds.drop start).take count)
  return "-".intercalate
    [group 0 8, group 8 4, "4" ++ group 13 3, "8" ++ group 17 3, group 20 12]

/-- Answers a question. -/
def answer : Question → IO Answer
  | .file path => return .file (← findFile path)
  | .pause seconds => do
    IO.sleep (seconds * 1000).toUInt32
    return .done
  | .now => return .now (← presentTime)
  | .newId => return .newId (← randomId)

/-- Writes the lines of the log that are shown, without those written before. -/
def writeLog (settings : Settings) (written : Nat) (log : List LogLine) : IO Unit := do
  let least := (CommandLine.threshold settings.logLevel).toOption.getD 0
  for line in log.drop written do
    if least ≤ line.level.rank then IO.eprintln line.text

/-- Runs the program with more and more answers. -/
partial def runWith (settings : Settings) (words : List String) (answers : List Answer)
    (written : Nat) : IO UInt32 := do
  let start : Session Transcript := { world := { answers } }
  let (ending, s) := (CommandLine.run host settings words).exec start
  match s.world.open? with
  | some (question, log) =>
    writeLog settings written log
    runWith settings words (answers ++ [← answer question]) log.length
  | none =>
    writeLog settings written s.log
    for line in s.world.printed do IO.println line
    match ending with
    | .ok (.exit code) => return code.toNat.toUInt32
    | .ok (.stopped (.help program)) =>
      IO.println ("usage: " ++ program)
      return 0
    | .ok (.stopped (.usage program error)) =>
      IO.eprintln (program ++ ": error: " ++ error.message)
      return 2
    | .error failure =>
      IO.eprintln (failure.name ++ ": " ++ failure.message.plain)
      return 1

/-- The variables of the environment that settings may come from. -/
def environment (file : Option String) : IO (List (String × String)) := do
  let upper (name : String) : String := String.ofList (name.toList.map Char.toUpper)
  let names := Settings.names ++ Settings.names.map upper ++
    ((file.map EnvFile.references).getD [])
  let found ← names.mapM fun name => return (← IO.getEnv name).map fun value => (name, value)
  return found.filterMap id

end LogSearch.Program

open LogSearch in
/-- Reads the settings and runs the program. -/
def main (words : List String) : IO UInt32 := do
  let file := match ← Program.findFile ".env" with
    | .text content => some content
    | _ => none
  match Settings.ofEnvironment (← Program.environment file) file with
  | .error e =>
    IO.eprintln (e.name ++ ": " ++ e.message)
    return 1
  | .ok settings => Program.runWith settings words [] 0
