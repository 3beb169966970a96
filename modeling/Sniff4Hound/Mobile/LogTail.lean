import Sniff4Hound.Capture.Bytes
import Sniff4Hound.Library.WholeLines

/-!
# Following the log files

`mobile_stream.py` shows phones the lines of the log files. The follower begins with the lines near
the end of each file and then polls: it reads on from where the whole lines it has read end. What
one line shows, `json.loads` and `_public_log` together, is a parameter; so is the number that
`stat` gives a file. Between `stat` and the read the file only grows, and the read takes no more
than `stat` saw.
-/

namespace Sniff4Hound.Mobile

open WholeLines

def NEWLINE : UInt8 := 10

def RETURN : UInt8 := 13

def LOG_SOURCES : List String := ["web", "capture"]

def LOG_READ_LIMIT : Nat := 512 * 1024

def LOG_TAIL_BYTES : Nat := 300 * 8192

/-- `bytes.splitlines`, from a line that has begun, and perhaps behind a return that ended one. -/
def splitlines (returned : Bool) (line : Bytes) : Bytes → List Bytes
  | [] => if line = [] then [] else [line]
  | b :: data =>
    if b = NEWLINE then
      if returned then splitlines false [] data else line :: splitlines false [] data
    else if b = RETURN then line :: splitlines true [] data
    else splitlines false (line ++ [b]) data

variable {ε : Type*}

/-- `_parse_log_lines`; a line may show nothing. -/
def parse_log_lines (record : Bytes → Option ε) (data : Bytes) : List ε :=
  (splitlines false [] data).filterMap record

/-- `data.split(b"\n", 1)[1] if b"\n" in data else b""` -/
def behind_break (data : Bytes) : Bytes := (data.dropWhile (· ≠ NEWLINE)).drop 1

/-- `inode` and `shown` are not in the service: what `stat` numbers the files, and the events of
each file so far. -/
structure LogFollower (ε : Type*) where
  files : String → Option Bytes
  inode : String → Nat
  log_offsets : Dict String (Nat × Nat) := []
  shown : String → List ε := fun _ => []

namespace LogFollower

variable (record : Bytes → Option ε) (s : LogFollower ε)

def show_lines (source : String) (offset : Nat) (lines : Bytes) : LogFollower ε :=
  { s with
    log_offsets := s.log_offsets.set source (s.inode source, offset)
    shown := Function.update s.shown source (s.shown source ++ parse_log_lines record lines) }

/-- `_seed_log_source`, of a file that is not there or can be opened. (Where `open` fails behind
`stat`, the source shows nothing and has no offset yet, so that the first poll reads the file from its
start; that is left out.) -/
def seed_log_source (source : String) : LogFollower ε :=
  match s.files source with
  | none => s
  | some file =>
    let size := file.length
    let span := min size LOG_TAIL_BYTES
    let data := (file.drop (size - span)).take span
    let data := if span < size then behind_break data else data
    let complete := whole NEWLINE data
    s.show_lines record source (size - (data.length - complete.length)) complete

/-- Where `_read_new_log_lines` reads on: a file that is another one or shorter is read anew. -/
def read_offset (source : String) (size : Nat) : Nat :=
  let (inode, offset) := (s.log_offsets.lookup source).getD (s.inode source, 0)
  if inode ≠ s.inode source ∨ size < offset then 0 else offset

/-- The rest of `_read_new_log_lines`; the file may fail to open. A line that is longer than the
read limit is skipped. -/
def read_from (source : String) (opens : Bool) (file : Bytes) (offset : Nat) : LogFollower ε :=
  let size := file.length
  if size ≤ offset then
    { s with log_offsets := s.log_offsets.set source (s.inode source, offset) }
  else if !opens then s
  else
    let data := (file.drop offset).take (min (size - offset) LOG_READ_LIMIT)
    let lines := whole NEWLINE data
    if lines = [] then
      if LOG_READ_LIMIT ≤ data.length then
        { s with log_offsets := s.log_offsets.set source (s.inode source, offset + data.length) }
      else s
    else s.show_lines record source (offset + lines.length) lines

def read_new_log_lines (source : String) (opens : Bool) : LogFollower ε :=
  match s.files source with
  | none => { s with log_offsets := s.log_offsets.erase source }
  | some file => s.read_from record source opens file (s.read_offset source file.length)

end LogFollower

/-! ## Runs -/

/-- A log grows, or is polled. -/
inductive LogStep
  | append (source : String) (piece : Bytes)
  | poll (source : String) (opens : Bool)

def LogFollower.step (record : Bytes → Option ε) (s : LogFollower ε) : LogStep → LogFollower ε
  | .append source piece =>
    { s with files := Function.update s.files source (some ((s.files source).getD [] ++ piece)) }
  | .poll source opens => s.read_new_log_lines record source opens

/-- The start of `_start_log_follower_locked`. -/
def LogFollower.seed (record : Bytes → Option ε) (files : String → Option Bytes)
    (inode : String → Nat) : LogFollower ε :=
  LOG_SOURCES.foldl (LogFollower.seed_log_source record) { files := files, inode := inode }

def LogFollower.run (record : Bytes → Option ε) (s : LogFollower ε) (steps : List LogStep) :
    LogFollower ε := steps.foldl (LogFollower.step record) s

end Sniff4Hound.Mobile
