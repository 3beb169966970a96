import Sniff4Hound.Library.Json
import Sniff4Hound.Realtime.RealtimeSession

/-!
# The text of a realtime stream

What the generator of `realtime_stream` yields for each event that it takes from the session, and
for none. The payload of a close event is a JSON text as `_json_text` writes it, with a blank behind
each separator and every visible character as it is. Integers are written whatever their size; the
interpreter refuses those of more than 4300 digits, and close codes have four.
-/

namespace Sniff4Hound.Realtime

/-- A character in a string of `_json_text`, which does not escape what is not ASCII. -/
def jsonEscape (c : Char) : List Char := if 0x7F ≤ c.toNat then [c] else Json.escape c

def jsonString (s : String) : List Char := '"' :: (s.toList.flatMap jsonEscape ++ ['"'])

def jsonInt (i : Int) : List Char := Json.minus (decide (i < 0)) ++ Nat.toDigits 10 i.natAbs

def closeText (code : Int) (reason : String) : List Char :=
  '{' :: ("\"code\": ".toList ++ (jsonInt code ++ (", \"reason\": ".toList ++
    (jsonString reason ++ ['}']))))

/-- `value.replace("\n", "\ndata: ")`. -/
def replaceNewlines (value : List Char) : List Char :=
  value.flatMap fun c => if c = '\n' then "\ndata: ".toList else [c]

def frame : Option Event → List Char
  | none => ": keep-alive\n\n".toList
  | some (.data value) => "data: ".toList ++ replaceNewlines value.toList ++ "\n\n".toList
  | some .ping => ": ping\n\n".toList
  | some (.close code reason) =>
    "event: close\ndata: ".toList ++ closeText code reason ++ "\n\n".toList

def frames (items : List (Option Event)) : List Char := items.flatMap frame

end Sniff4Hound.Realtime
