import TrafficShaper.Config.Json
import TrafficShaper.DecimalText.Read
import TrafficShaper.Metrics.Endpoint
import TrafficShaper.Bench

/-! # The command line

The program takes up to three arguments: a configuration file (`-` or nothing for a default
configuration), a number of buffers (1000 if not given) and a socket address to serve metrics
on. Further arguments are ignored. It prints a title, reads the arguments in that order, starts
the metrics endpoint if asked, prints the configuration, and then runs the filter:

* the filter, active, with its bucket reading the wall time, receives the buffers `0, 1, …`,
  each of 1200 bytes equal to its number modulo 256 and presented at its number in
  milliseconds, one millisecond of wall time passing after each;
* it then waits twice the largest delay bound (zero if both are negative) plus 50 ms, so that
  delayed buffers land, and stops, discarding what is still held;
* it prints the counters, what the downstream received, and how many buffers arrived after one
  presented later.

A failure ends the run with status 1 and an error report: the context, then the chain of
causes, indented four blanks for a single cause and numbered for several; the further lines of
a cause are indented under its first.

The files the run reads come from a reader, which gives the text at a path or the system's
error.

* `Exit`: the status and the two output texts of a run;
* `commandLine`: a run with a file reader, the arguments and a random seed.
-/

namespace TrafficShaper

open TrafficShaper.Binary TrafficShaper.DecimalText TrafficShaper.Random

/-- **The end of a run**: the exit status and the texts of the two output streams. -/
structure Exit where
  status : Nat
  stdout : String
  stderr : String
  deriving DecidableEq, Repr

/-- The title printed first. -/
def title : String :=
  "netsim - network simulation filter\n==================================\n\n"

/-- A cause under a lead: the lead before its first line, and every further line indented by
as many blanks as the lead is wide. -/
def indentCause (lead : String) (cause : String) : String :=
  lead ++ ("\n" ++ String.ofList (List.replicate lead.length ' ')).intercalate (cause.splitOn "\n")

/-- The lead of cause `i` in a numbered list: the number right-aligned in five columns. -/
def causeNumber (i : Nat) : String :=
  let digits := toString i
  String.ofList (List.replicate (5 - digits.length) ' ') ++ digits ++ ": "

/-- **An error report**: the context, then its causes. A single cause stands four blanks in; several
are numbered from 0. -/
def errorReport (context : String) (causes : List String) : String :=
  "Error: " ++ context ++ "\n" ++
    match causes with
    | [] => ""
    | [c] => "\nCaused by:\n" ++ indentCause "    " c ++ "\n"
    | cs => "\nCaused by:\n" ++
      String.join (cs.zipIdx.map fun (c, i) => indentCause (causeNumber i) c ++ "\n")

/-- A failed run after what was printed so far. -/
def Exit.failure (printed : String) (context : String) (causes : List String) : Exit :=
  ⟨1, printed, errorReport context causes⟩

/-- The configuration used without a file: a tenth of the buffers dropped, a fifth delayed. -/
def Config.commandDefault : Config :=
  { Config.default with dropProbability := ⟨0x3DCCCCCD⟩, delayProbability := ⟨0x3E4CCCCD⟩ }

/-- The lines describing a configuration. -/
def Config.describe (c : Config) : String :=
  "Delay:        " ++ toString c.minDelay.toInt ++ "-" ++ toString c.maxDelay.toInt ++ "ms (" ++
    c.distribution.name ++ ", p=" ++ c.delayProbability.plainText ++ ")\n" ++
  "Drop:         p=" ++ c.dropProbability.plainText ++ ", next " ++ toString c.dropPackets.toNat ++
    " buffers\n" ++
  "Duplicate:    p=" ++ c.duplicateProbability.plainText ++ "\n" ++
  "Rate limit:   " ++ toString c.maxKbps.toInt ++ " kbps, bucket " ++ toString c.maxBucketSize.toInt ++
    " Kb\n\n"

/-- The wait after the last buffer, in milliseconds. -/
def Config.settleMs (c : Config) : Nat := 2 * (max c.minDelay.toInt (max c.maxDelay.toInt 0)).toNat + 50

/-- The buffer of number `seq`. -/
def numberedBuffer (seq : Nat) : Buffer := Buffer.filled 1200 (seq % 256).toUInt8 (some (seq * 1000000))

/-- The buffers `0, …, count - 1` sent, one millisecond apart. -/
def Bench.sendNumbered (b : Bench) (count : Nat) : Bench :=
  (List.range count).foldl (fun b seq => ((b.chain (numberedBuffer seq)).bench.wait 1).bench) b

/-- How many buffers arrived with a presentation time, in whole milliseconds, below one seen
before them. -/
def outOfOrder (log : List Buffer) : Nat :=
  let step := fun (acc : Nat × Nat) (b : Buffer) =>
    match b.pts with
    | some ns =>
      let ms := ns / 1000000
      (max acc.1 ms, if ms < acc.1 then acc.2 + 1 else acc.2)
    | none => acc
  (log.foldl step (0, 0)).2

/-- **The filter run**: the buffers, the wait, the stop; the report lines. -/
def runFilter (c : Config) (seed : UInt64) (count : Nat) : String :=
  let filter := (Filter.new c (Generator.ofSeed seed) Downstream.accepting).activate
  let bench : Bench := ⟨filter, .wall, 0, 0⟩
  let bench := (bench.sendNumbered count).wait c.settleMs |>.bench
  let f := bench.filter.deactivate
  let log := f.sink.log.toList
  f.stats.summary ++ "\n" ++
    "Sink received " ++ toString log.length ++ " buffers (" ++
      toString (log.foldl (fun n b => n + b.size) 0) ++ " bytes)\n" ++
    "Out of order: " ++ toString (outOfOrder log) ++ " buffers\n"

/-- Where a run reads files: the text at a path, or the system's error. -/
abbrev FileReader := String → Except IoError String

/-- **A configuration file** read, parsed and validated. -/
def loadConfig (read : FileReader) (path : String) : Except Error Config :=
  match read path with
  | .error e => .error (.io e)
  | .ok text => Config.ofJsonText text

/-- **A run of the command line** with a file reader, its arguments and the seed of its random
draws. -/
def commandLine (read : FileReader) (args : List String) (seed : UInt64) : Exit :=
  let config : Except Exit Config :=
    match args[0]? with
    | some path =>
      if path = "-" then .ok Config.commandDefault
      else match loadConfig read path with
        | .ok c => .ok c
        | .error e => .error (.failure title ("Failed to load config from " ++ path) (e.message :: e.causes))
    | none => .ok Config.commandDefault
  match config with
  | .error x => x
  | .ok c =>
    let count : Except Exit Nat :=
      match args[1]? with
      | some text =>
        match readInteger false 0 (Int.pow 2 64 - 1) text with
        | .ok n => .ok n.toNat
        | .error e => .error (.failure title "Invalid buffer count" [e.message])
      | none => .ok 1000
    match count with
    | .error x => x
    | .ok n =>
      let metrics : Except Exit String :=
        match args[2]? with
        | some text =>
          match SocketAddress.ofString? text with
          | none => .error (.failure title "Invalid metrics address" ["invalid socket address syntax"])
          | some addr =>
            match Endpoint.start true addr with
            | .ok () => .ok ("Metrics:      http://" ++ addr.text ++ "/metrics\n")
            | .error e => .error (.failure title e.message [])
        | none => .ok ""
      match metrics with
      | .error x => x
      | .ok line => ⟨0, title ++ line ++ c.describe ++ runFilter c seed n, ""⟩

end TrafficShaper
